import Infrarust.Core.BanManager
import Infrarust.Proofs.Core.ConnectionRegistry
import Infrarust.Proofs.Core.Pipeline

/-!
# `Infrarust.Proofs.Core.BanManager`: who is still online after a ban

A login looks at the bans once and registers its session later. `ban` looks at the registry
once. A login that has passed its check when `ban` looks for sessions registers after that,
and nobody kicks it (`banned_session_remains`). The lookup by name also compares the spelling
and stops at the first session it finds, while `check_player` ignores case.

`Contained` is the condition on the steps under which none of this happens.
`no_banned_session` says that then no session that the ban covers is registered once `ban`
has returned and the handlers have done what they had to do. The invariant follows the
sessions the ban covers: after the lookup none of them is still on its way into the registry,
and each one in the registry is cancelled or about to be (`BanSystem.Inv`).
-/

set_option autoImplicit false

namespace Infrarust

open Lifetimes List Machine BanEntry Option FileBanStorage

/-! ### The storage -/

/-- The entry with this target is what `check_player` finds for the player. -/
def BanTarget.Covers (strings : Strings) (ip : IpAddr) (profile : GameProfile) :
    BanTarget → Prop
  | .ip addr => ip = addr
  | .username name => strings.toLowercase profile.username = strings.toLowercase name
  | .uuid id => profile.uuid = id

instance (strings : Strings) (ip : IpAddr) (profile : GameProfile) :
    DecidablePred (BanTarget.Covers strings ip profile) := fun target => by
  unfold BanTarget.Covers
  split <;> infer_instance

theorem BanEntry.isExpired_succ {entry : BanEntry} {now}
    (h : entry.isExpired (now + 1) = false) : entry.isExpired now = false := by
  unfold BanEntry.isExpired at *
  cases hexp : entry.expiresAt with
  | none => rfl
  | some exp =>
    rw [hexp] at h
    have hlt : ¬now + 1 ≥ exp := by simpa using h
    have hnow : ¬now ≥ exp := by omega
    simpa using hnow

variable {ip : IpAddr}

namespace FileBanStorage

variable {strings : Strings} {storage : FileBanStorage} {entry : BanEntry} {now : Nat}

theorem find_addBan : (storage.addBan strings entry).find strings entry.target = some entry := by
  unfold addBan
  cases entry.target with
  | ip addr | username name | uuid uuid => exact AList.lookup_insert _

variable {target : BanTarget}

/-- The removal of an entry leaves every other one. -/
theorem find_erase {other} (h : storage.find strings other ≠ storage.find strings target) :
    (storage.erase strings other).find strings target = storage.find strings target := by
  -- targets of different kinds are in different maps
  cases target <;> cases other <;> try rfl
  case ip.ip =>
    exact AList.lookup_erase_ne fun heq => h (congrArg storage.ipBans.lookup heq.symm)
  case username.username =>
    exact AList.lookup_erase_ne fun heq => h (congrArg storage.usernameBans.lookup heq.symm)
  case uuid.uuid =>
    exact AList.lookup_erase_ne fun heq => h (congrArg storage.uuidBans.lookup heq.symm)

/-- A check removes no entry that has not expired. -/
theorem checkTarget_find_of_live {other}
    (hfind : storage.find strings target = some entry) (hlive : entry.isExpired now = false) :
    (storage.checkTarget strings now other).2.find strings target = some entry := by
  unfold checkTarget
  cases hother : storage.find strings other with
  | none => exact hfind
  | some found =>
    cases hexpired : found.isExpired now with
    | false => simpa [hexpired] using hfind
    | true =>
      simp only [hexpired, if_true]
      rw [find_erase, hfind]
      rw [hother, hfind]
      rintro heq
      cases heq
      rw [hlive] at hexpired
      cases hexpired

variable {uuid : Option Uuid}

theorem checkPlayer_find_of_live {username}
    (hfind : storage.find strings target = some entry) (hlive : entry.isExpired now = false) :
    (storage.checkPlayer strings now ip username uuid).2.find strings target = some entry := by
  have hip : (storage.checkTarget strings now (.ip ip)).2.find strings target = some entry :=
    checkTarget_find_of_live hfind hlive
  unfold checkPlayer
  rcases hfst : storage.checkTarget strings now (.ip ip) with ⟨_ | found, first⟩ <;>
    rw [hfst] at hip
  case some => exact hip
  have hname : (first.checkTarget strings now (.username username)).2.find strings target =
      some entry :=
    checkTarget_find_of_live hip hlive
  dsimp only
  rcases hsnd : first.checkTarget strings now (.username username) with ⟨_ | found, second⟩ <;>
    rw [hsnd] at hname
  case some => exact hname
  cases uuid with
  | none => exact hname
  | some u => exact checkTarget_find_of_live hname hlive

/-- `check_player` rejects a player whom an entry covers, if it is given what the entry
names. -/
theorem checkPlayer_ne_none {profile}
    (hfind : storage.find strings entry.target = some entry) (hlive : entry.isExpired now = false)
    (hcov : entry.target.Covers strings ip profile)
    (huuid : ∀ u, entry.target = .uuid u → uuid = some u) :
    (storage.checkPlayer strings now ip profile.username uuid).1 ≠ none := by
  rw [Ne, checkPlayer_fst_eq_none]
  rintro ⟨hip, hname, hid⟩
  cases htgt : entry.target with
  | ip addr =>
    rw [htgt] at hcov hfind
    obtain rfl : ip = addr := hcov
    exact hip ⟨entry, hfind, hlive⟩
  | username name =>
    rw [htgt] at hcov hfind
    have hkey : storage.find strings (.username profile.username) = some entry := by
      rw [← hfind]
      exact congrArg storage.usernameBans.lookup hcov
    exact hname ⟨entry, hkey, hlive⟩
  | uuid u =>
    rw [htgt] at hfind
    exact hid u (huuid u htgt) ⟨entry, hfind, hlive⟩

end FileBanStorage

/-! ### The registry, whoever unregisters what -/

/-- The session has yet to enter the registry. -/
def Phase.waiting : Phase → Bool
  | .created | .indexed => true
  | _ => false

namespace Lifetimes

/-- A session in the registry has a handler that has put it there and has not begun to
unregister. -/
structure Tracked (s : Lifetimes) : Prop extends Counted s where
  table : ∀ uuid a, s.store.registry.sessions.lookup uuid = some a → a.profile.uuid = uuid ∧
    ∃ phase, s.At a phase ∧ phase.waiting = false ∧ phase.ended = false

theorem new_tracked : new.Tracked where
  own := nofun
  numbered := nofun
  table := nofun

section Access

variable {a : PlayerSession} {store store' : SessionStore} {log log' : List PlayerSession}
  {phase phase' : Phase}

section

variable (h : access a store log phase = some (store', phase', log'))

include h

/-- An access puts the handler's session into the registry, or takes out what is under its
UUID, or leaves the sessions alone. -/
theorem access_sessions :
    phase = .indexed ∧ phase'.waiting = false ∧ phase'.ended = false ∧
        store'.registry.sessions = store.registry.sessions.insert a.profile.uuid a ∨
      phase = .registered ∧ phase'.waiting = false ∧
        store'.registry.sessions = store.registry.sessions.erase a.profile.uuid ∨
      phase'.waiting = phase.waiting ∧ phase'.ended = phase.ended ∧
        store'.registry.sessions = store.registry.sessions := by
  cases phase with
  | indexed =>
    cases h
    refine .inl ⟨rfl, ?_, ?_, rfl⟩ <;> split <;> rfl
  | unindexing previous =>
    cases h
    refine .inr (.inr ⟨rfl, rfl, ?_⟩)
    split <;> rfl
  | registered =>
    cases h
    refine .inr (.inl ⟨rfl, ?_, rfl⟩)
    split <;> rfl
  | finished => cases h
  | _ =>
    cases h
    exact .inr (.inr ⟨rfl, rfl, rfl⟩)

/-- A cancelled token stays cancelled. -/
theorem access_cancelled {n} (hn : n ∈ store.cancelled) : n ∈ store'.cancelled := by
  cases phase with
  | unindexing previous =>
    cases h
    split <;> exact hn
  | cancelling previous =>
    cases h
    exact mem_cons_of_mem _ hn
  | finished => cases h
  | _ =>
    cases h
    exact hn

/-- A session in the registry after an access was there before, or the handler has put it there.
One that stays is that of a handler that stays where it is. -/
theorem access_lookup {uuid b} (hb : store'.registry.sessions.lookup uuid = some b) :
    b = a ∧ phase = .indexed ∧ a.profile.uuid = uuid ∧ phase'.waiting = false ∧
        phase'.ended = false ∨
      store.registry.sessions.lookup uuid = some b ∧ (b.profile.uuid = uuid → b = a →
        phase'.waiting = phase.waiting ∧ phase'.ended = phase.ended) := by
  have hother (huuid : uuid ≠ a.profile.uuid) : b.profile.uuid = uuid → b = a →
      phase'.waiting = phase.waiting ∧ phase'.ended = phase.ended := by
    rintro rfl rfl
    exact absurd rfl huuid
  obtain ⟨rfl, hwait, hended, hsessions⟩ | ⟨-, -, hsessions⟩ | ⟨hwait, hended, hsessions⟩ :=
    access_sessions h
  · rw [hsessions, Dict.lookup_insert_eq] at hb
    split at hb
    case isTrue huuid =>
      cases hb
      exact .inl ⟨rfl, rfl, huuid.symm, hwait, hended⟩
    case isFalse huuid => exact .inr ⟨hb, hother huuid⟩
  · rw [hsessions, Dict.lookup_erase_eq] at hb
    split at hb
    case isTrue => cases hb
    case isFalse huuid => exact .inr ⟨hb, hother huuid⟩
  · exact .inr ⟨hsessions ▸ hb, fun _ _ => ⟨hwait, hended⟩⟩

/-- A handler whose session has yet to enter the registry was so before. -/
theorem access_waiting (hwait : phase'.waiting = true) : phase.waiting = true := by
  obtain ⟨-, hphase, -⟩ | ⟨-, hphase, -⟩ | ⟨hphase, -⟩ := access_sessions h
  · cases hphase.symm.trans hwait
  · cases hphase.symm.trans hwait
  · exact hphase.symm.trans hwait

end

end Access

namespace Tracked

variable {s : Lifetimes} {a : PlayerSession}

theorem move {phase phase' store log} (hs : s.Tracked) (hh : s.At a phase)
    (hacc : access a s.store s.log phase = some (store, phase', log)) :
    (s.move a phase' store log).Tracked where
  toCounted := hs.toCounted.move hh
  table uuid b hb := by
    obtain ⟨rfl, -, huuid, hflags⟩ | ⟨hpre, hstays⟩ := access_lookup hacc hb
    · exact ⟨huuid, phase', at_move_self, hflags⟩
    · obtain ⟨huuid, ph, hph, hwait, hended⟩ := hs.table uuid b hpre
      by_cases hba : b = a
      · subst hba
        cases hph.phase_eq hh
        obtain ⟨hsame, hsame'⟩ := hstays huuid rfl
        exact ⟨huuid, phase', at_move_self, hsame.trans hwait, hsame'.trans hended⟩
      · exact ⟨huuid, ph, (at_move_of_ne hh hba).mpr hph, hwait, hended⟩

theorem create (hs : s.Tracked) (ha : a.handle = s.count)
    (hid : a.playerId = nextPlayerId a.handle) : (s.create a).Tracked where
  toCounted := hs.toCounted.create ha hid
  table uuid b hb := by
    obtain ⟨huuid, ph, hph, hflags⟩ := hs.table uuid b hb
    exact ⟨huuid, ph, (at_create hs.toCounted ha).mpr (.inr hph), hflags⟩

end Tracked

end Lifetimes

/-! ### A ban and the logins -/

namespace BanCall

/-- `ban` has looked for sessions. -/
def lookedUp : BanCall → Bool
  | .kicking _ | .returned => true
  | _ => false

/-- The sessions that `ban` has found and not cancelled yet. -/
def left : BanCall → List PlayerSession
  | .kicking sessions => sessions
  | _ => []

end BanCall

/-- The check of the login is given what a ban of this kind names. -/
def Login.CheckedFor (login : Login) : BanTarget → Prop
  | .ip _ => login.clientIp = login.peerIp
  | .username _ => True
  | .uuid _ => login.intercepted = true

instance (login : Login) : DecidablePred login.CheckedFor := fun target => by
  unfold Login.CheckedFor
  split <;> infer_instance

namespace BanSystem

section Definitions

variable (strings : Strings) (entry : BanEntry) (s : BanSystem)

variable (session : PlayerSession)

/-- The ban is about the remote address, the name or the UUID of the session. -/
def Covers : Prop :=
  ∃ ip ∈ s.remoteAddr.lookup session.handle, entry.target.Covers strings ip session.profile
deriving Decidable

/-- `check_player` would reject the session because of the ban. -/
def Rejects : Prop :=
  s.storage.find strings entry.target = some entry ∧ entry.isExpired s.now = false ∧
    s.Covers strings entry session
deriving Decidable

/-- `ban` has returned, no login is between its check and the end of `register`, and the
handlers of the cancelled sessions have ended. -/
def Settled : Prop :=
  s.ban = .returned ∧ s.checked = [] ∧
    ∀ h x, s.lifetimes.handlers.lookup h = some x →
      x.2 = .finished ∨ x.2 = .registered ∧ h ∉ s.lifetimes.store.cancelled
deriving Decidable

/-- The session is in the registry. -/
def Registered : Prop := s.lifetimes.store.registry.get session.profile.uuid = some session
deriving Decidable

/-- The lookup of `ban` finds the session. By name it finds one session, which has exactly
the spelling of the ban. -/
def FoundBy : BanTarget → Prop
  | .username name => session.profile.username = name ∧
      ∀ uuid other, s.lifetimes.store.registry.sessions.lookup uuid = some other →
        other.profile.username = name → other = session
  | _ => True

instance (session : PlayerSession) : DecidablePred (s.FoundBy session) := fun target => by
  unfold FoundBy
  split <;> infer_instance

/-- Once the entry is in the storage, a login that the ban covers is checked for it. When
`ban` looks for sessions, no login that the ban covers is between its check and its entry
into the registry, and if the ban covers a registered session then the file could be written
and the lookup finds the session. -/
def Contained : BanEvent → Prop
  | .check login => s.ban ≠ .pending →
      entry.target.Covers strings login.peerIp login.profile → login.CheckedFor entry.target
  | .kick _ persist => entry.isExpired s.now = false →
      (∀ login ∈ s.checked, ¬entry.target.Covers strings login.peerIp login.profile) ∧
      (∀ h x, s.lifetimes.handlers.lookup h = some x → x.2.waiting = true →
        ¬s.Covers strings entry x.1) ∧
      ∀ uuid session, s.lifetimes.store.registry.sessions.lookup uuid = some session →
        s.Covers strings entry session → persist.isOk = true ∧ s.FoundBy session entry.target
  | _ => True

instance : DecidablePred (s.Contained strings entry) := fun event => by
  unfold Contained
  split <;> infer_instance

def Step (event : BanEvent) (s' : BanSystem) : Prop := s.next strings entry event = some s'

def ContainedStep (event : BanEvent) (s' : BanSystem) : Prop :=
  s.Contained strings entry event ∧ s.next strings entry event = some s'

/-- What holds of the players whom the ban covers at every moment of a run. -/
structure Inv : Prop where
  tracked : s.lifetimes.Tracked
  stored : s.ban ≠ .pending → entry.isExpired s.now = false →
    s.storage.find strings entry.target = some entry
  checked : s.ban.lookedUp = true → entry.isExpired s.now = false →
    ∀ login ∈ s.checked, ¬entry.target.Covers strings login.peerIp login.profile
  waiting : s.ban.lookedUp = true → entry.isExpired s.now = false →
    ∀ session phase, s.lifetimes.At session phase → phase.waiting = true →
      ¬s.Covers strings entry session
  kicked : s.ban.lookedUp = true → entry.isExpired s.now = false →
    ∀ uuid session, s.lifetimes.store.registry.sessions.lookup uuid = some session →
      s.Covers strings entry session →
        session.handle ∈ s.lifetimes.store.cancelled ∨ session ∈ s.ban.left

end Definitions

variable {strings : Strings} {entry : BanEntry} {s s' : BanSystem}

theorem new_inv (now storage) : (new now storage).Inv strings entry where
  tracked := new_tracked
  stored h := absurd rfl h
  checked := nofun
  waiting := nofun
  kicked := nofun

variable {order : Dict.Order Uuid PlayerSession} {session : PlayerSession} {login : Login}

/-- A session that `FoundBy` describes is among those to kick. -/
theorem mem_sessionsToKick
    (hget : s.lifetimes.store.registry.sessions.lookup session.profile.uuid = some session)
    (hcov : s.Covers strings entry session) (hfound : s.FoundBy session entry.target) :
    session ∈ sessionsToKick order s.remoteAddr s.lifetimes.store.registry entry.target := by
  have hall : session ∈ s.lifetimes.store.registry.all order :=
    mem_map.mpr ⟨(_, session), order.mem_iter.mpr hget, rfl⟩
  obtain ⟨ip, hip, hcov⟩ := hcov
  cases htgt : entry.target with
  | ip addr =>
    rw [htgt] at hcov
    obtain rfl : ip = addr := hcov
    exact mem_filter.mpr ⟨hall, decide_eq_true hip⟩
  | username name =>
    rw [htgt] at hfound
    obtain ⟨hname, honly⟩ := hfound
    -- the first session of that name is the only one
    have hsome : (s.lifetimes.store.registry.findByUsername order name).isSome = true :=
      List.find?_isSome.mpr ⟨session, hall, decide_eq_true hname⟩
    obtain ⟨first, hfst⟩ := isSome_iff_exists.mp hsome
    obtain ⟨⟨uuid, other⟩, hother, hmem⟩ := mem_map.mp (mem_of_find?_eq_some hfst)
    obtain rfl : other = first := hmem
    have hspelled : other.profile.username = name := by
      simpa using List.find?_some hfst
    obtain rfl := honly uuid other (order.mem_iter.mp hother) hspelled
    exact mem_toList.mpr hfst
  | uuid id =>
    rw [htgt] at hcov
    obtain rfl : session.profile.uuid = id := hcov
    exact mem_toList.mpr hget

theorem inv_tick (hs : s.Inv strings entry) : Inv strings entry { s with now := s.now + 1 } where
  tracked := hs.tracked
  stored hban hlive := hs.stored hban (isExpired_succ hlive)
  checked hban hlive := hs.checked hban (isExpired_succ hlive)
  waiting hban hlive := hs.waiting hban (isExpired_succ hlive)
  kicked hban hlive := hs.kicked hban (isExpired_succ hlive)

theorem lookedUp_ne_pending {ban : BanCall} (h : ban.lookedUp = true) : ban ≠ .pending := by
  rintro rfl
  cases h

/-- A login that is checked for the ban does not pass if the ban covers it. -/
theorem checkPlayer_login_ne_none {storage : FileBanStorage} {now}
    (hfind : storage.find strings entry.target = some entry) (hlive : entry.isExpired now = false)
    (hcov : entry.target.Covers strings login.peerIp login.profile)
    (hchk : login.CheckedFor entry.target) :
    (storage.checkPlayer strings now login.clientIp login.profile.username
      login.checkedUuid).1 ≠ none := by
  apply checkPlayer_ne_none hfind hlive
  · cases htgt : entry.target with
    | ip addr =>
      rw [htgt] at hchk hcov
      exact Eq.trans hchk hcov
    | username _ | uuid _ =>
      rw [htgt] at hcov
      exact hcov
  · intro id htgt
    rw [htgt] at hchk hcov
    have hintercepted : login.intercepted = true := hchk
    rw [Login.checkedUuid, if_pos hintercepted]
    exact congrArg some hcov

/-- A login that the ban covers does not pass its check once the entry is in the storage. -/
theorem inv_check (hs : s.Inv strings entry) (hin : s.Contained strings entry (.check login))
    (hnext : s.next strings entry (.check login) = some s') : s'.Inv strings entry := by
  cases hnext
  constructor
  case tracked => exact hs.tracked
  case stored =>
    intro hban hlive
    exact checkPlayer_find_of_live (hs.stored hban hlive) hlive
  case checked =>
    intro hban hlive other hother
    have hpend := lookedUp_ne_pending hban
    split at hother
    case isTrue => exact hs.checked hban hlive other hother
    case isFalse hpass =>
      obtain rfl | hother := mem_cons.mp hother
      · intro hcov
        have hchk := hin hpend hcov
        exact hpass (isSome_iff_ne_none.mpr
          (checkPlayer_login_ne_none (hs.stored hpend hlive) hlive hcov hchk))
      · exact hs.checked hban hlive other hother
  case waiting => exact hs.waiting
  case kicked => exact hs.kicked

/-- The address of a new session changes nothing for the sessions before. -/
theorem covers_insert_iff {n lifetimes} {checked : List Login} (hne : session.handle ≠ n) :
    Covers strings entry { s with
      lifetimes := lifetimes, remoteAddr := s.remoteAddr.insert n ip, checked := checked } session ↔
      s.Covers strings entry session := by
  unfold Covers
  rw [Dict.lookup_insert_eq, if_neg hne]

section

variable (hs : s.Inv strings entry)

include hs

theorem inv_create {permissionChecker}
    (hnext : s.next strings entry (.create login permissionChecker) = some s') :
    s'.Inv strings entry := by
  simp only [next] at hnext
  split at hnext <;> cases hnext
  case isTrue hmem =>
    have hcounted := hs.tracked.toCounted
    have hold {a : PlayerSession} {phase : Phase} (h : s.lifetimes.At a phase) :
        a.handle ≠ s.lifetimes.count :=
      Nat.ne_of_lt (hcounted.numbered a phase h).1
    constructor
    case tracked => exact hs.tracked.create rfl rfl
    case stored => exact hs.stored
    case checked =>
      intro hban hlive other hother
      exact hs.checked hban hlive other (mem_of_mem_erase hother)
    case waiting =>
      intro hban hlive a phase ha hwait
      obtain ⟨rfl, rfl⟩ | ha := (at_create hcounted rfl).mp ha
      · rintro ⟨ip, hip, hcov⟩
        rw [Dict.lookup_insert_eq, if_pos rfl, mem_some_iff] at hip
        subst hip
        exact hs.checked hban hlive login hmem hcov
      · rw [covers_insert_iff (hold ha)]
        exact hs.waiting hban hlive a phase ha hwait
    case kicked =>
      intro hban hlive uuid session hsess hcov
      obtain ⟨-, phase, hphase, -⟩ := hs.tracked.table uuid session hsess
      rw [covers_insert_iff (hold hphase)] at hcov
      exact hs.kicked hban hlive uuid session hsess hcov

theorem inv_handler {h}
    (hnext : s.next strings entry (.handler h) = some s') : s'.Inv strings entry := by
  obtain ⟨lifetimes, hstep, hnext⟩ := bind_eq_some_iff.mp hnext
  cases hnext
  obtain ⟨a, phase, store, phase', log, rfl, hh, hacc, rfl⟩ := next_step hs.tracked.toCounted hstep
  constructor
  case tracked => exact hs.tracked.move hh hacc
  case stored => exact hs.stored
  case checked => exact hs.checked
  case waiting =>
    intro hban hlive b ph hb hwait
    rw [at_move hh] at hb
    split at hb
    case isTrue hba =>
      subst hba hb
      exact hs.waiting hban hlive b phase hh (access_waiting hacc hwait)
    case isFalse => exact hs.waiting hban hlive b ph hb hwait
  case kicked =>
    intro hban hlive uuid session hsess hcov
    obtain ⟨rfl, rfl, -⟩ | ⟨hpre, -⟩ := access_lookup hacc hsess
    · exact absurd hcov (hs.waiting hban hlive session _ hh rfl)
    · exact (hs.kicked hban hlive uuid session hpre hcov).imp_left (access_cancelled hacc)

theorem inv_kick {persist} (hin : s.Contained strings entry (.kick order persist))
    (hnext : s.next strings entry (.kick order persist) = some s') : s'.Inv strings entry := by
  have hinv {ban : BanCall} (hpend : s.ban ≠ .pending)
      (hkicked : entry.isExpired s.now = false → ∀ uuid session,
        s.lifetimes.store.registry.sessions.lookup uuid = some session →
          s.Covers strings entry session → session ∈ ban.left) :
      Inv strings entry { s with ban } :=
    { tracked := hs.tracked
      stored := fun _ hlive => hs.stored hpend hlive
      checked := fun _ hlive => (hin hlive).1
      waiting := fun _ hlive session _ => (hin hlive).2.1 session.handle _
      kicked := fun _ hlive uuid session hsess hcov =>
        .inr (hkicked hlive uuid session hsess hcov) }
  simp only [next] at hnext
  split at hnext <;> cases hnext
  case h_1 hban =>
    refine hinv (by simp [hban]) fun hlive uuid session hsess hcov => ?_
    obtain rfl := (hs.tracked.table uuid session hsess).1
    exact mem_sessionsToKick hsess hcov ((hin hlive).2.2 _ session hsess hcov).2
  case h_2 hban =>
    refine hinv (by simp [hban]) fun hlive uuid session hsess hcov => ?_
    cases ((hin hlive).2.2 uuid session hsess hcov).1

theorem inv_cancelNext
    (hnext : s.next strings entry .cancelNext = some s') : s'.Inv strings entry := by
  simp only [next] at hnext
  split at hnext <;> cases hnext
  case h_1 first left hban =>
    have hpend : s.ban ≠ .pending := by simp [hban]
    have hlooked : s.ban.lookedUp = true := by simp [hban, BanCall.lookedUp]
    exact
      { tracked := { hs.tracked with }
        stored := fun _ => hs.stored hpend
        checked := fun _ => hs.checked hlooked
        waiting := fun _ => hs.waiting hlooked
        kicked := by
          intro _ hlive uuid session hsess hcov
          obtain hcanc | hleft := hs.kicked hlooked hlive uuid session hsess hcov
          · exact .inl (mem_cons_of_mem _ hcanc)
          · rw [hban] at hleft
            obtain rfl | hleft := mem_cons.mp hleft
            · exact .inl mem_cons_self
            · exact .inr hleft }
  case h_2 hban =>
    have hpend : s.ban ≠ .pending := by simp [hban]
    have hlooked : s.ban.lookedUp = true := by simp [hban, BanCall.lookedUp]
    have hkicked := hs.kicked hlooked
    rw [hban] at hkicked
    exact
      { tracked := hs.tracked
        stored := fun _ => hs.stored hpend
        checked := fun _ => hs.checked hlooked
        waiting := fun _ => hs.waiting hlooked
        kicked := fun _ => hkicked }

end

theorem containedStep_inv {event} (h : s.ContainedStep strings entry event s')
    (hs : s.Inv strings entry) : s'.Inv strings entry := by
  obtain ⟨hin, hnext⟩ := h
  cases event with
  | tick =>
    cases hnext
    exact inv_tick hs
  | check login => exact inv_check hs hin hnext
  | create login permissionChecker => exact inv_create hs hnext
  | abandon login =>
    cases hnext
    exact { hs with
      checked := fun hban hlive other hother =>
        hs.checked hban hlive other (mem_of_mem_erase hother) }
  | handler handle => exact inv_handler hs hnext
  | insert =>
    simp only [next] at hnext
    split at hnext <;> cases hnext
    exact
      { tracked := hs.tracked
        stored := fun _ _ => find_addBan
        checked := nofun
        waiting := nofun
        kicked := fun h => by cases h }
  | kick order persist => exact inv_kick hs hin hnext
  | cancelNext => exact inv_cancelNext hs hnext

/-- In a run all of whose steps are `Contained`, no session that `check_player` would reject
because of the ban is registered once everything has settled. -/
theorem no_banned_session {now : Nat} {storage : FileBanStorage} {events : List BanEvent}
    (hrun : Run (ContainedStep strings entry) (new now storage) events s)
    (hset : s.Settled) (session : PlayerSession) (hsess : s.Registered session) :
    ¬s.Rejects strings entry session := by
  rintro ⟨-, hlive, hcov⟩
  have hs : s.Inv strings entry :=
    hrun.invariant (fun _ _ _ hstep => containedStep_inv hstep) (new_inv now storage)
  have hlooked : s.ban.lookedUp = true := by
    rw [hset.1]
    rfl
  obtain hcanc | hleft := hs.kicked hlooked hlive _ session hsess hcov
  · -- a handler whose token is cancelled has not settled
    obtain ⟨-, phase, hphase, -, hended⟩ := hs.tracked.table _ session hsess
    obtain hfin | ⟨-, hnot⟩ := hset.2.2 _ _ hphase
    · cases hfin
      cases hended
    · exact hnot hcanc
  · rw [hset.1] at hleft
    cases hleft

/-! ### Two bans that leave the player online, and one that does not -/

/-- A permanent ban of a name. -/
def nameBan (name : String) : BanEntry :=
  { target := .username name, reason := none, expiresAt := none, createdAt := 0
    source := "console" }

def loginOf (profile : GameProfile) : Login :=
  { clientIp := .v4 0x0a000001#32, peerIp := .v4 0x0a000001#32, profile := profile,
    intercepted := true }

/-- The session of a player who was the `handle`-th to log in. -/
def sessionOf (handle : Nat) (profile : GameProfile) : PlayerSession :=
  ⟨handle, nextPlayerId handle, profile, true, .default⟩

/-- A login that has passed its check gets its session and registers it. -/
def joins (handle : Nat) (profile : GameProfile) : List BanEvent :=
  [.create (loginOf profile) .default, .handler handle, .handler handle]

/-- Steve has passed the check. The ban comes and finds nobody, and Steve registers. -/
def lateJoin : List BanEvent :=
  [.check (loginOf steve), .insert, .kick .entries (.ok ()), .cancelNext] ++ joins 0 steve

/-- Steve is online when the name is banned. -/
def online : List BanEvent :=
  .check (loginOf steve) :: joins 0 steve ++ [.insert, .kick .entries (.ok ()), .cancelNext]

/-- The ban overlaps with a login, or is spelled as `steve`: both times Steve is registered
when everything has settled, and could not log in again. -/
theorem banned_session_remains :
    (∃ s, Run (Step asciiStrings (nameBan "Steve")) (new 0 .new) lateJoin s ∧ s.Settled ∧
      s.Registered (sessionOf 0 steve) ∧
      s.Rejects asciiStrings (nameBan "Steve") (sessionOf 0 steve)) ∧
    ∃ s, Run (Step asciiStrings (nameBan "steve")) (new 0 .new) online s ∧ s.Settled ∧
      s.Registered (sessionOf 0 steve) ∧
      s.Rejects asciiStrings (nameBan "steve") (sessionOf 0 steve) := by
  constructor <;> exact exists_run (fun _ _ _ h => h) (by decide)

def alex : GameProfile := ⟨0xec561538f3fd461daff5086b22154bce#128, "Alex", []⟩

/-- Alex and Steve are online. Steve is banned and kicked. -/
def kickedEvents : List BanEvent :=
  .check (loginOf alex) :: joins 0 alex ++ .check (loginOf steve) ::
    joins 1 steve ++ [.insert, .kick .entries (.ok ()), .cancelNext, .cancelNext,
      .handler 1, .handler 1, .handler 1]

theorem no_banned_session_kicked :
    ∃ s, Run (ContainedStep asciiStrings (nameBan "Steve")) (new 0 .new) kickedEvents s ∧
      s.Settled ∧ s.Registered (sessionOf 0 alex) ∧ ¬s.Registered (sessionOf 1 steve) ∧
      ¬s.Rejects asciiStrings (nameBan "Steve") (sessionOf 0 alex) := by
  refine exists_run_guarded (P := fun s => s.Settled ∧ s.Registered (sessionOf 0 alex) ∧
      ¬s.Registered (sessionOf 1 steve)) (by decide) ?_
  rintro s hrun ⟨hset, halex, hsteve⟩
  exact ⟨hset, halex, hsteve, no_banned_session hrun hset _ halex⟩

end BanSystem

end Infrarust
