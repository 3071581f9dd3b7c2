import Infrarust.Core.ConnectionRegistry
import Infrarust.Lib.Machine
import Mathlib.Algebra.Group.Nat.Defs

/-!
# `Infrarust.Proofs.Core.ConnectionRegistry`: sessions while they last

Handlers of several sessions run at the same time, and each of them registers its session
and unregisters a UUID at its end. A session is *current* while its handler has not begun to
unregister and no later session of its UUID has entered the registry.

`register` cares for the session it replaces. `unregister` does not look whose session it
takes out: when the handler of a replaced session ends, it removes the session that replaced
it (`unregister_removes_successor`). In the runs in which every `unregister` finds its own
session or none, a current session is in the registry, is found by its id and counts as
connected (`current_session_found`).
-/

set_option autoImplicit false

namespace Infrarust

open Machine List Dict

namespace Phase

/-- The handler has begun to unregister. -/
def ended : Phase → Bool
  | dropping _ | dropMarking _ | finished => true
  | _ => false

/-- The session whose index entry or flag the handler is about to change. -/
def target : Phase → Option PlayerSession
  | unindexing p | cancelling p | marking p | dropping p | dropMarking p => some p
  | _ => none

end Phase

namespace Lifetimes

variable (s : Lifetimes)

/-- The last session of a UUID that entered the registry. -/
def latest (uuid : Uuid) : Option PlayerSession := s.log.find? (·.profile.uuid = uuid)

/-- The handler of the session has not begun to unregister, and no later session of the
same UUID has entered the registry. -/
def Current (a : PlayerSession) : Prop :=
  ∃ phase, s.handlers.lookup a.handle = some (a, phase) ∧ phase.ended = false ∧
    (a ∈ s.log → s.latest a.profile.uuid = some a)

/-- The system takes a step. -/
def Step (event : LifetimeEvent) (s' : Lifetimes) : Prop := s.next event = some s'

/-- The session whose handler calls `unregister` next, if it is the handler of one. -/
def unregistering (handle : Nat) : Option PlayerSession :=
  match s.handlers.lookup handle with
  | some (a, .registered) => some a
  | _ => none

/-- A handler that calls `unregister` finds its own session under its UUID, or none, and
the counter of player ids does not wrap around. -/
def Orderly : LifetimeEvent → Prop
  | .create _ _ _ => s.count + 1 < 2 ^ 64
  | .step handle => ∀ a ∈ s.unregistering handle,
      s.store.registry.get a.profile.uuid = none ∨ s.store.registry.get a.profile.uuid = some a

instance (s : Lifetimes) : DecidablePred s.Orderly
  | .create _ _ _ => inferInstanceAs (Decidable (_ < _))
  | .step _ => inferInstanceAs (Decidable (∀ a ∈ _, _ ∨ _))

def OrderlyStep (event : LifetimeEvent) (s' : Lifetimes) : Prop := s.Orderly event ∧ Step s event s'

/-- The handler of the session is in the phase. -/
def At (a : PlayerSession) (phase : Phase) : Prop := s.handlers.lookup a.handle = some (a, phase)

/-- Every handler is listed under the handle of its session, and the sessions were counted. -/
structure Counted (s : Lifetimes) : Prop where
  own : ∀ h a phase, s.handlers.lookup h = some (a, phase) → a.handle = h
  numbered : ∀ a phase, s.At a phase → a.handle < s.count ∧ a.playerId = nextPlayerId a.handle

/-- What holds of the registry and of the current sessions at every moment. -/
structure Inv (s : Lifetimes) : Prop extends Counted s where
  count_lt : s.count < 2 ^ 64
  logged : ∀ a ∈ s.log, ∃ phase, s.At a phase ∧ phase ≠ .created ∧ phase ≠ .indexed
  target : ∀ b phase p, s.At b phase → phase.target = some p →
    (∃ phase', s.At p phase') ∧ ¬s.Current p
  table : ∀ uuid a, s.store.registry.sessions.lookup uuid = some a ↔
    s.latest uuid = some a ∧ s.Current a
  indexed : ∀ a phase, s.At a phase → phase ≠ .created → s.Current a →
    s.store.registry.idIndex.lookup a.playerId = some a.profile.uuid
  connected : ∀ a, s.Current a → a.handle ∉ s.store.disconnected
  marked_lt : ∀ h ∈ s.store.disconnected, h < s.count

theorem new_inv : new.Inv where
  count_lt := by decide
  own _ _ _ h := nomatch h
  numbered _ _ h := nomatch h
  logged := nofun
  target _ _ _ h := nomatch h
  table uuid a := ⟨nofun, fun h => nomatch h.1⟩
  indexed _ _ h := nomatch h
  connected a hcur := not_mem_nil
  marked_lt := nofun

variable {s : Lifetimes} {store : SessionStore} {log : List PlayerSession}
  {a b p : PlayerSession} {phase phase' ph ph' : Phase}

theorem At.phase_eq (h : s.At a ph) (h' : s.At a ph') : ph = ph' :=
  (Prod.mk.inj (Option.some.inj (h.symm.trans h'))).2

/-- A session is determined by its handle. -/
theorem At.eq_of_handle (ha : s.At a ph) (hb : s.At b ph') (h : a.handle = b.handle) : a = b :=
  (Prod.mk.inj (Option.some.inj ((congrArg s.handlers.lookup h ▸ ha.symm).trans hb))).1

theorem latest_spec {uuid} (h : s.latest uuid = some a) : a ∈ s.log ∧ a.profile.uuid = uuid :=
  ⟨mem_of_find?_eq_some h, by simpa using List.find?_some h⟩

namespace Inv

/-- A session is determined by its player id, since the counter has not wrapped around. -/
theorem eq_of_playerId (hs : s.Inv) (ha : s.At a ph) (hb : s.At b ph')
    (h : a.playerId = b.playerId) : a = b := by
  obtain ⟨halt, haid⟩ := hs.numbered _ _ ha
  obtain ⟨hblt, hbid⟩ := hs.numbered _ _ hb
  apply ha.eq_of_handle hb
  have hcount := hs.count_lt
  have hmod : (a.handle + 1) % 2 ^ 64 = (b.handle + 1) % 2 ^ 64 := by
    simpa [haid, hbid, nextPlayerId, ← BitVec.toNat_inj] using h
  omega

/-- A session the handler is about to touch is not a current one. -/
theorem ne_of_target (hs : s.Inv) (hb : s.At b phase) (hp : phase.target = some p)
    (ha : s.Current a) : a ≠ p := by
  rintro rfl
  exact (hs.target b phase a hb hp).2 ha

end Inv

/-! ### Steps that change no list of sessions -/

/-- The system after an access of the handler of `a`. -/
def move (s : Lifetimes) (a : PlayerSession) (phase : Phase) (store : SessionStore)
    (log : List PlayerSession) : Lifetimes :=
  { s with store := store, handlers := s.handlers.insert a.handle (a, phase), log := log }

/-- The access moves the handler of `a` and no other. -/
theorem at_move (hh : s.At a phase) :
    (s.move a phase' store log).At b ph ↔ if b = a then ph = phase' else s.At b ph := by
  unfold At move
  rw [lookup_insert_eq]
  by_cases hba : b = a
  · subst hba
    simp [eq_comm]
  · rw [if_neg hba]
    by_cases hhdl : b.handle = a.handle
    · rw [if_pos hhdl]
      refine ⟨fun h => absurd (Prod.mk.inj (Option.some.inj h)).1.symm hba, fun h => ?_⟩
      exact absurd (At.eq_of_handle h hh hhdl) hba
    · rw [if_neg hhdl]

theorem at_move_self : (s.move a phase store log).At a phase := AList.lookup_insert _

theorem at_move_of_ne (hh : s.At a phase) (hba : b ≠ a) :
    (s.move a phase' store log).At b ph ↔ s.At b ph := by
  rw [at_move hh, if_neg hba]

/-- A session has a handler after the access if it had one before. -/
theorem exists_at_move (hh : s.At a phase) (h : ∃ ph, s.At p ph) :
    ∃ ph, (s.move a phase' store log).At p ph := by
  obtain ⟨ph, hp⟩ := h
  by_cases hpa : p = a
  · exact ⟨phase', hpa ▸ at_move_self⟩
  · exact ⟨ph, (at_move_of_ne hh hpa).mpr hp⟩

theorem Counted.move (hs : s.Counted) (hh : s.At a phase) :
    (s.move a phase' store log).Counted where
  own n b ph hn := by
    rw [Lifetimes.move, lookup_insert_eq] at hn
    split at hn
    case isTrue heq =>
      cases hn
      exact heq.symm
    case isFalse => exact hs.own n b ph hn
  numbered b ph hb := by
    by_cases hba : b = a
    · exact hba ▸ hs.numbered a phase hh
    · exact hs.numbered b ph ((at_move_of_ne hh hba).mp hb)

/-- The store has the index entries of the current sessions and none of their flags. -/
structure Spares (s : Lifetimes) (store : SessionStore) : Prop where
  indexed : ∀ b ph, s.At b ph → ph ≠ .created → s.Current b →
    store.registry.idIndex.lookup b.playerId = some b.profile.uuid
  connected : ∀ b, s.Current b → b.handle ∉ store.disconnected
  marked_lt : ∀ n ∈ store.disconnected, n < s.count

theorem Inv.spares (hs : s.Inv) : s.Spares s.store := ⟨hs.indexed, hs.connected, hs.marked_lt⟩

/-- The invariant after an access that makes no session current, if it spares the current ones
and the handler is not about to touch one of them. -/
theorem inv_move (hs : s.Inv) (hh : s.At a phase) (hcreated : phase' ≠ .created)
    (hindexed : phase' = .indexed → phase = .created)
    (hlog : ∀ b ∈ log, b ∈ s.log ∨ b = a ∧ phase ≠ .created)
    (hcur : ∀ b, (s.move a phase' store log).Current b → s.Current b)
    (htgt : ∀ p, phase'.target = some p → phase.target = some p ∨
      (∃ ph, s.At p ph) ∧ ¬(s.move a phase' store log).Current p)
    (htable : ∀ uuid b, store.registry.sessions.lookup uuid = some b ↔
      (s.move a phase' store log).latest uuid = some b ∧ (s.move a phase' store log).Current b)
    (hspares : s.Spares store) (hfst : phase = .created →
      store.registry.idIndex.lookup a.playerId = some a.profile.uuid) :
    (s.move a phase' store log).Inv where
  toCounted := hs.toCounted.move hh
  count_lt := hs.count_lt
  logged b hb := by
    by_cases hba : b = a
    · subst hba
      refine ⟨phase', at_move_self, hcreated, fun h => ?_⟩
      rcases hlog b hb with hold | ⟨-, hne⟩
      · obtain ⟨ph, hph, hne, -⟩ := hs.logged b hold
        exact hne ((hph.phase_eq hh).trans (hindexed h))
      · exact hne (hindexed h)
    · obtain ⟨ph, hph, hne⟩ := hs.logged b ((hlog b hb).resolve_right fun h => hba h.1)
      exact ⟨ph, (at_move_of_ne hh hba).mpr hph, hne⟩
  target b ph p hb hp := by
    have hold {b ph} (hb : s.At b ph) (hp : ph.target = some p) :
        (∃ ph', s.At p ph') ∧ ¬(s.move a phase' store log).Current p :=
      (hs.target b ph p hb hp).imp_right fun hnot hc => hnot (hcur p hc)
    have hnew : (∃ ph', s.At p ph') ∧ ¬(s.move a phase' store log).Current p := by
      rw [at_move hh] at hb
      split at hb
      · exact (htgt p (hb ▸ hp)).elim (hold hh) id
      · exact hold hb hp
    exact ⟨exists_at_move hh hnew.1, hnew.2⟩
  table := htable
  indexed b ph hb hne hc := by
    rw [at_move hh] at hb
    split at hb
    case isFalse => exact hspares.indexed b ph hb hne (hcur b hc)
    case isTrue hba =>
      subst hba
      by_cases hph : phase = .created
      · exact hfst hph
      · exact hspares.indexed b phase hh hph (hcur b hc)
  connected b hb := hspares.connected b (hcur b hb)
  marked_lt := hspares.marked_lt

/-- The access leaves everybody as current as before. -/
theorem current_frame (hh : s.At a phase) (hended : phase'.ended = phase.ended) :
    (s.move a phase' store s.log).Current b ↔ s.Current b := by
  show (∃ ph, (s.move a phase' store s.log).At b ph ∧ _) ↔ ∃ ph, s.At b ph ∧ _
  simp only [at_move hh]
  by_cases hba : b = a
  · subst hba
    have hat (ph : Phase) : s.At b ph ↔ ph = phase := ⟨fun h => h.phase_eq hh, fun h => h ▸ hh⟩
    simp only [if_true, hat, exists_eq_left, hended]
    rfl
  · simp only [if_neg hba]
    rfl

section

variable (hs : s.Inv)

include hs

/-- The same for an access that changes no list of sessions. -/
theorem inv_frame (hh : s.At a phase) (hended : phase'.ended = phase.ended)
    (hcreated : phase' ≠ .created) (hindexed : phase' = .indexed → phase = .created)
    (htgt : ∀ p, phase'.target = some p → phase.target = some p)
    (hsess : store.registry.sessions = s.store.registry.sessions)
    (hspares : s.Spares store) (hfst : phase = .created →
      store.registry.idIndex.lookup a.playerId = some a.profile.uuid) :
    (s.move a phase' store s.log).Inv := by
  have hiff (b : PlayerSession) : (s.move a phase' store s.log).Current b ↔ s.Current b :=
    current_frame hh hended
  refine inv_move hs hh hcreated hindexed (fun b hb => .inl hb) (fun b => (hiff b).mp)
    (fun p hp => .inl (htgt p hp)) (fun uuid b => ?_) hspares hfst
  rw [hiff]
  exact hsess ▸ hs.table uuid b

/-- Removing the index entry of a session that is not current spares the current ones. -/
theorem spares_indexRemove (hh : s.At a phase) (hp : phase.target = some p) :
    s.Spares (s.store.indexRemove p) := by
  refine { hs.spares with indexed := fun b ph hb hne hcur => ?_ }
  obtain ⟨⟨ph', hph'⟩, -⟩ := hs.target a phase p hh hp
  have hid : b.playerId ≠ p.playerId := fun hid =>
    hs.ne_of_target hh hp hcur (hs.eq_of_playerId hb hph' hid)
  exact (AList.lookup_erase_ne hid).trans (hs.indexed b ph hb hne hcur)

/-- So does marking it. -/
theorem spares_setDisconnected (hh : s.At a phase) (hp : phase.target = some p) :
    s.Spares (s.store.setDisconnected p) := by
  obtain ⟨⟨ph', hph'⟩, -⟩ := hs.target a phase p hh hp
  refine ⟨hs.indexed, fun b hcur hmem => ?_, fun n hn => ?_⟩
  · obtain ⟨ph, hb, -⟩ := id hcur
    rcases mem_cons.mp hmem with heq | hmem
    · exact hs.ne_of_target hh hp hcur (At.eq_of_handle hb hph' heq)
    · exact hs.connected b hcur hmem
  · rcases mem_cons.mp hn with rfl | hn
    · exact (hs.numbered _ _ hph').1
    · exact hs.marked_lt n hn

/-! ### The steps, one by one -/

theorem inv_indexInsert (hh : s.At a .created) :
    (s.move a .indexed (s.store.indexInsert a) s.log).Inv := by
  refine inv_frame hs hh rfl (by decide) (fun _ => rfl) nofun rfl
    { hs.spares with indexed := fun b ph hb hne hcur => ?_ } fun _ => AList.lookup_insert _
  have hid : b.playerId ≠ a.playerId := fun hid => by
    obtain rfl := hs.eq_of_playerId hb hh hid
    exact hne (hb.phase_eq hh)
  exact (AList.lookup_insert_ne hid).trans (hs.indexed b ph hb hne hcur)

end

/-! ### Entering and leaving the registry -/

theorem latest_enter (s : Lifetimes) (a phase store uuid) : (s.move a phase store (a :: s.log)).latest uuid =
      if a.profile.uuid = uuid then some a else s.latest uuid := by
  show (a :: s.log).find? _ = _
  by_cases huuid : a.profile.uuid = uuid <;> simp [huuid, latest]

/-- A session that has not entered is current, and not in the log. -/
theorem current_of_indexed (hs : s.Inv) (hh : s.At a .indexed) : s.Current a ∧ a ∉ s.log := by
  have hlog : a ∉ s.log := by
    intro ha
    obtain ⟨ph, hph, -, hne⟩ := hs.logged a ha
    exact hne (hph.phase_eq hh)
  exact ⟨⟨_, hh, rfl, fun ha => absurd ha hlog⟩, hlog⟩

/-- When `a` enters, the sessions of its UUID that had entered before cease to be current. -/
theorem current_enter (hh : s.At a .indexed) (hended : phase'.ended = false)
    (store b) : (s.move a phase' store (a :: s.log)).Current b ↔
      b = a ∨ s.Current b ∧ ¬(b ∈ s.log ∧ b.profile.uuid = a.profile.uuid) := by
  by_cases hba : b = a
  · subst hba
    refine ⟨fun _ => .inl rfl, fun _ => ⟨phase', at_move_self, hended, fun _ => ?_⟩⟩
    rw [latest_enter, if_pos rfl]
  · simp only [hba, false_or]
    constructor
    · rintro ⟨ph, hb, hnot, hlast⟩
      -- a session of the log is the latest of its UUID after `a`, so its UUID is another
      have huuid : b ∈ s.log → s.latest b.profile.uuid = some b ∧
          b.profile.uuid ≠ a.profile.uuid := by
        intro hmem
        have hsome := hlast (mem_cons_of_mem _ hmem)
        rw [latest_enter] at hsome
        split at hsome
        case isTrue => exact absurd (Option.some.inj hsome).symm hba
        case isFalse huuid => exact ⟨hsome, fun heq => huuid heq.symm⟩
      exact ⟨⟨ph, (at_move_of_ne hh hba).mp hb, hnot, fun hmem => (huuid hmem).1⟩,
        fun hmem => (huuid hmem.1).2 hmem.2⟩
    · rintro ⟨⟨ph, hb, hnot, hlast⟩, huuid⟩
      refine ⟨ph, (at_move_of_ne hh hba).mpr hb, hnot, fun hmem => ?_⟩
      have hmem' := (mem_cons.mp hmem).resolve_left hba
      rw [latest_enter, if_neg fun h => huuid ⟨hmem', h.symm⟩]
      exact hlast hmem'

/-- The invariant after `a` has entered, whatever `register` found under its UUID. -/
theorem inv_enter (hs : s.Inv) (hh : s.At a .indexed) (hphase : phase' = .registered ∨ ∃ previous,
      s.store.registry.sessions.lookup a.profile.uuid = some previous ∧
        phase' = .unindexing previous) :
    (s.move a phase' (s.store.sessionsInsert a) (a :: s.log)).Inv := by
  have hended : phase'.ended = false := by
    rcases hphase with rfl | ⟨previous, -, rfl⟩ <;> rfl
  obtain ⟨hcur, hlog⟩ := current_of_indexed hs hh
  have hiff := current_enter hh hended (s.store.sessionsInsert a)
  have hold : ∀ b, (s.move a phase' (s.store.sessionsInsert a) (a :: s.log)).Current b →
      s.Current b := fun b hb => ((hiff b).mp hb).elim (fun heq => heq ▸ hcur) And.left
  refine inv_move hs hh ?_ ?_ (fun b hb => ?_) hold (fun p hp => .inr ?_) (fun uuid b => ?_)
    { hs.spares with } nofun
  · rcases hphase with rfl | ⟨previous, -, rfl⟩ <;> simp
  · rcases hphase with rfl | ⟨previous, -, rfl⟩ <;> simp
  · exact (mem_cons.mp hb).symm.imp_right fun h => ⟨h, nofun⟩
  · -- the replaced session has entered before, so it is not current any more
    rcases hphase with rfl | ⟨previous, hprev, rfl⟩
    · cases hp
    · cases hp
      obtain ⟨hlatest, ph, hph, -⟩ := (hs.table _ _).mp hprev
      refine ⟨⟨ph, hph⟩, fun hc => ?_⟩
      rcases (hiff p).mp hc with rfl | ⟨-, hnot⟩
      · exact hlog (latest_spec hlatest).1
      · exact hnot (latest_spec hlatest)
  · show (s.store.registry.sessions.insert a.profile.uuid a).lookup uuid = some b ↔ _
    rw [lookup_insert_eq, latest_enter, hiff]
    by_cases huuid : a.profile.uuid = uuid
    · rw [if_pos huuid.symm, if_pos huuid]
      exact ⟨fun h => ⟨h, .inl (Option.some.inj h).symm⟩, And.left⟩
    · rw [if_neg fun h => huuid h.symm, if_neg huuid, hs.table]
      refine ⟨fun h => ⟨h.1, .inr ⟨h.2, fun h' => ?_⟩⟩, fun h => ⟨h.1, h.2.elim ?_ And.left⟩⟩
      · exact huuid (h'.2.symm.trans (latest_spec h.1).2)
      · exact fun heq => heq ▸ hcur

/-- A handler that begins to unregister ends the time of its own session and no other. -/
theorem current_leave (hh : s.At a .registered) (hended : phase'.ended = true) (store b) :
    (s.move a phase' store s.log).Current b ↔ s.Current b ∧ b ≠ a := by
  show (∃ ph, (s.move a phase' store s.log).At b ph ∧ _) ↔ (∃ ph, s.At b ph ∧ _) ∧ _
  simp only [at_move hh]
  by_cases hba : b = a
  · simp [hba, hended]
  · simp only [ne_eq, hba, not_false_eq_true, and_true]
    rfl

/-- The invariant after a handler has taken its UUID out of the registry, if it found its own
session there or none. -/
theorem inv_leave (hs : s.Inv) (hh : s.At a .registered)
    (hord : ∀ b, s.store.registry.sessions.lookup a.profile.uuid = some b → b = a)
    (hphase : phase' = .finished ∨ phase' = .dropping a) :
    (s.move a phase' (s.store.sessionsRemove a.profile.uuid) s.log).Inv := by
  have hended : phase'.ended = true := by rcases hphase with rfl | rfl <;> rfl
  have hiff := current_leave hh hended (s.store.sessionsRemove a.profile.uuid)
  refine inv_move hs hh ?_ ?_ (fun b hb => .inl hb) (fun b hb => ((hiff b).mp hb).1)
    (fun p hp => .inr ?_) (fun uuid b => ?_) { hs.spares with } nofun
  · rcases hphase with rfl | rfl <;> simp
  · rcases hphase with rfl | rfl <;> simp
  · -- the handler takes out its own session, which is not current any more
    rcases hphase with rfl | rfl
    · cases hp
    · cases hp
      exact ⟨⟨.registered, hh⟩, fun hc => ((hiff a).mp hc).2 rfl⟩
  · show (s.store.registry.sessions.erase a.profile.uuid).lookup uuid = some b ↔
      s.latest uuid = some b ∧ _
    rw [lookup_erase_eq, hiff]
    split
    case isTrue huuid =>
      -- a current session of the UUID would be in the table, so it would be the own one
      refine ⟨nofun, fun h => absurd (hord b ?_) h.2.2⟩
      exact huuid ▸ (hs.table uuid b).mpr ⟨h.1, h.2.1⟩
    case isFalse huuid =>
      rw [hs.table]
      refine ⟨fun h => ⟨h.1, h.2, fun heq => huuid ?_⟩, fun h => ⟨h.1, h.2.1⟩⟩
      exact heq ▸ (latest_spec h.1).2.symm

/-! ### New sessions -/

/-- The system with the handler of a new session. -/
def create (s : Lifetimes) (a : PlayerSession) : Lifetimes :=
  { s with handlers := s.handlers.insert s.count (a, .created), count := s.count + 1 }

/-- The handles so far are smaller than the new one. -/
theorem not_at_of_handle (hs : s.Counted) (ha : a.handle = s.count) : ¬s.At a ph := by
  intro h
  have hlt := (hs.numbered a ph h).1
  omega

theorem at_create (hs : s.Counted) (ha : a.handle = s.count) :
    (s.create a).At b ph ↔ b = a ∧ ph = .created ∨ s.At b ph := by
  unfold At create
  rw [lookup_insert_eq]
  split
  case isTrue heq =>
    have hnot : ¬s.At b ph := not_at_of_handle hs heq
    rw [show s.handlers.lookup b.handle = some (b, ph) ↔ False from iff_of_false hnot id, or_false]
    simp [eq_comm]
  case isFalse hne =>
    have hba : b ≠ a := fun heq => hne (heq ▸ ha)
    simp [hba]

theorem Counted.create (hs : s.Counted) (ha : a.handle = s.count)
    (hid : a.playerId = nextPlayerId a.handle) : (s.create a).Counted where
  own n b ph hn := by
    rw [Lifetimes.create, lookup_insert_eq] at hn
    split at hn
    case isTrue heq =>
      cases hn
      exact ha.trans heq.symm
    case isFalse => exact hs.own n b ph hn
  numbered b ph hb := by
    show b.handle < s.count + 1 ∧ _
    obtain ⟨rfl, -⟩ | hb := (at_create hs ha).mp hb
    · exact ⟨by omega, hid⟩
    · obtain ⟨hlt, hbid⟩ := hs.numbered b ph hb
      exact ⟨Nat.lt_succ_of_lt hlt, hbid⟩

/-- A new session is current, and everybody else as before. -/
theorem current_create (hs : s.Inv) (ha : a.handle = s.count) :
    (s.create a).Current b ↔ b = a ∨ s.Current b := by
  constructor
  · rintro ⟨ph, hb, hnot, hlast⟩
    obtain ⟨rfl, -⟩ | hb := (at_create hs.toCounted ha).mp hb
    · exact .inl rfl
    · exact .inr ⟨ph, hb, hnot, hlast⟩
  · rintro (rfl | ⟨ph, hb, hnot, hlast⟩)
    · refine ⟨.created, (at_create hs.toCounted ha).mpr (.inl ⟨rfl, rfl⟩), rfl, fun hmem => ?_⟩
      obtain ⟨ph, hph, -⟩ := hs.logged b hmem
      exact absurd hph (not_at_of_handle hs.toCounted ha)
    · exact ⟨ph, (at_create hs.toCounted ha).mpr (.inr hb), hnot, hlast⟩

theorem inv_create (hs : s.Inv) (hcount : s.count + 1 < 2 ^ 64) (ha : a.handle = s.count)
    (hid : a.playerId = nextPlayerId a.handle) : (s.create a).Inv where
  toCounted := hs.toCounted.create ha hid
  count_lt := hcount
  logged b hb := by
    obtain ⟨ph, hph, hne⟩ := hs.logged b hb
    exact ⟨ph, (at_create hs.toCounted ha).mpr (.inr hph), hne⟩
  target b ph p hb hp := by
    obtain ⟨-, rfl⟩ | hb := (at_create hs.toCounted ha).mp hb
    · cases hp
    · obtain ⟨⟨ph', hph'⟩, hnot⟩ := hs.target b ph p hb hp
      refine ⟨⟨ph', (at_create hs.toCounted ha).mpr (.inr hph')⟩, fun hc => ?_⟩
      rcases (current_create hs ha).mp hc with rfl | hc
      · exact not_at_of_handle hs.toCounted ha hph'
      · exact hnot hc
  table uuid b := by
    rw [current_create hs ha]
    refine (hs.table uuid b).trans ⟨fun h => ⟨h.1, .inr h.2⟩, fun h => ⟨h.1, h.2.resolve_left ?_⟩⟩
    rintro rfl
    obtain ⟨ph, hph, -⟩ := hs.logged b (latest_spec h.1).1
    exact not_at_of_handle hs.toCounted ha hph
  indexed b ph hb hne hc := by
    obtain ⟨-, rfl⟩ | hold := (at_create hs.toCounted ha).mp hb
    · exact absurd rfl hne
    · refine hs.indexed b ph hold hne (((current_create hs ha).mp hc).resolve_left ?_)
      rintro rfl
      exact not_at_of_handle hs.toCounted ha hold
  connected b hb hmem := by
    rcases (current_create hs ha).mp hb with rfl | hc
    · have hlt := hs.marked_lt _ hmem
      omega
    · exact hs.connected b hc hmem
  marked_lt n hn := Nat.lt_succ_of_lt (hs.marked_lt n hn)

/-! ### Runs -/

theorem next_step {s' h} (hs : s.Counted) (hnext : s.next (.step h) = some s') :
    ∃ a phase store phase' log, a.handle = h ∧ s.At a phase ∧
      access a s.store s.log phase = some (store, phase', log) ∧ s' = s.move a phase' store log := by
  obtain ⟨⟨a, phase⟩, hh, hnext⟩ := Option.bind_eq_some_iff.mp hnext
  obtain ⟨⟨store, phase', log⟩, hacc, hnext⟩ := Option.bind_eq_some_iff.mp hnext
  obtain rfl := hs.own h a phase hh
  exact ⟨a, phase, store, phase', log, rfl, hh, hacc, (Option.some.inj hnext).symm⟩

theorem step_of_access (hh : s.At a phase)
    (hacc : access a s.store s.log phase = some (store, phase', log)) :
    Step s (.step a.handle) (s.move a phase' store log) := by
  show (s.handlers.lookup a.handle).bind _ = _
  rw [hh]
  show (access a s.store s.log phase).bind _ = _
  rw [hacc]
  rfl

/-- The accesses of `register` that nobody interrupts make up `register`. -/
theorem register_alone (hh : s.At a .created) :
    ∃ steps s', Run Step s (List.replicate steps (.step a.handle)) s' ∧
      s'.store = (s.store.register a).2 ∧ s'.At a .registered := by
  cases hprev : s.store.registry.sessions.lookup a.profile.uuid with
  | none =>
    have henter : access a (s.store.indexInsert a) s.log .indexed =
        some ((s.store.indexInsert a).sessionsInsert a, .registered, a :: s.log) := by
      simp only [access, SessionStore.indexInsert, hprev]
    refine ⟨2, _, .cons (step_of_access hh rfl)
      (.cons (step_of_access at_move_self henter) (.nil _)), ?_, at_move_self⟩
    rw [SessionStore.register, hprev]
    rfl
  | some previous =>
    have henter : access a (s.store.indexInsert a) s.log .indexed =
        some ((s.store.indexInsert a).sessionsInsert a, .unindexing previous, a :: s.log) := by
      simp only [access, SessionStore.indexInsert, hprev]
    refine ⟨5, _, .cons (step_of_access hh rfl) (.cons (step_of_access at_move_self henter)
      (.cons (step_of_access at_move_self rfl) (.cons (step_of_access at_move_self rfl)
      (.cons (step_of_access at_move_self rfl) (.nil _))))), ?_, at_move_self⟩
    rw [SessionStore.register, hprev]
    rfl

/-- The accesses of `unregister` that nobody interrupts make up `unregister`. -/
theorem unregister_alone (hh : s.At a .registered) :
    ∃ steps s', Run Step s (List.replicate steps (.step a.handle)) s' ∧
      s'.store = (s.store.unregister a.profile.uuid).2 ∧ s'.At a .finished := by
  cases hfound : s.store.registry.sessions.lookup a.profile.uuid with
  | none =>
    have hleave : access a s.store s.log .registered =
        some (s.store.sessionsRemove a.profile.uuid, .finished, s.log) := by
      simp only [access, hfound]
    refine ⟨1, _, .cons (step_of_access hh hleave) (.nil _), ?_, at_move_self⟩
    rw [SessionStore.unregister, hfound]
    show s.store.sessionsRemove a.profile.uuid = s.store
    rw [SessionStore.sessionsRemove, erase_of_lookup_eq_none hfound]
  | some removed =>
    have hleave : access a s.store s.log .registered =
        some (s.store.sessionsRemove a.profile.uuid, .dropping removed, s.log) := by
      simp only [access, hfound]
    refine ⟨3, _, .cons (step_of_access hh hleave) (.cons (step_of_access at_move_self rfl)
      (.cons (step_of_access at_move_self rfl) (.nil _))), ?_, at_move_self⟩
    rw [SessionStore.unregister, hfound]
    rfl

theorem orderlyStep_inv {s' event} (h : OrderlyStep s event s') (hs : s.Inv) : s'.Inv := by
  obtain ⟨hord, hnext⟩ := h
  cases event with
  | create profile active permissionChecker =>
    cases hnext
    exact inv_create hs hord rfl rfl
  | step n =>
    obtain ⟨a, phase, store, phase', log, rfl, hh, hacc, rfl⟩ := next_step hs.toCounted hnext
    -- one case for each access of a handler
    cases phase with
    | created => cases hacc; exact inv_indexInsert hs hh
    | indexed =>
      cases hacc
      refine inv_enter hs hh ?_
      cases hprev : s.store.registry.sessions.lookup a.profile.uuid with
      | none => exact .inl rfl
      | some previous => exact .inr ⟨previous, rfl, rfl⟩
    | unindexing p =>
      cases hacc
      split
      · exact inv_frame hs hh rfl (by simp) (by simp) (fun q hq => hq) rfl
          (spares_indexRemove hs hh rfl) (by simp)
      · exact inv_frame hs hh rfl (by simp) (by simp) (fun q hq => hq) rfl hs.spares (by simp)
    | cancelling p =>
      cases hacc
      exact inv_frame hs hh rfl (by simp) (by simp) (fun q hq => hq) rfl { hs.spares with } (by simp)
    | marking p =>
      cases hacc
      exact inv_frame hs hh rfl (by simp) (by simp) nofun rfl (spares_setDisconnected hs hh rfl)
        (by simp)
    | registered =>
      cases hacc
      have hunreg : a ∈ s.unregistering a.handle := by rw [unregistering, hh]; rfl
      have hown : ∀ b, s.store.registry.sessions.lookup a.profile.uuid = some b → b = a := by
        intro b hb
        rcases hord a hunreg with hnone | hown
        · exact absurd (hnone.symm.trans hb) (Option.some_ne_none b).symm
        · exact Option.some.inj (hb.symm.trans hown)
      refine inv_leave hs hh hown ?_
      cases hfound : s.store.registry.sessions.lookup a.profile.uuid with
      | none => exact .inl rfl
      | some removed => exact .inr (congrArg _ (hown removed hfound))
    | dropping p =>
      cases hacc
      exact inv_frame hs hh rfl (by simp) (by simp) (fun q hq => hq) rfl
        (spares_indexRemove hs hh rfl) (by simp)
    | dropMarking p =>
      cases hacc
      exact inv_frame hs hh rfl (by simp) (by simp) nofun rfl (spares_setDisconnected hs hh rfl)
        (by simp)
    | finished => cases hacc

/-- In every run in which each `unregister` finds the session of its handler or none: a
session that has entered the registry, whose handler has not begun to unregister and after
which no session of its UUID has entered, is in the registry, is found by its own player id
and has not been marked as disconnected. -/
theorem current_session_found {events : List LifetimeEvent} {s : Lifetimes}
    (hrun : Run OrderlyStep new events s) {a : PlayerSession} {phase : Phase}
    (hhdlr : s.handlers.lookup a.handle = some (a, phase)) (hended : phase.ended = false)
    (hlatest : s.latest a.profile.uuid = some a) :
    s.store.registry.get a.profile.uuid = some a ∧
      s.store.registry.findById a.playerId = some a ∧
      a.handle ∉ s.store.disconnected := by
  have hs : s.Inv := hrun.invariant (I := Inv) (fun _ _ _ => orderlyStep_inv) new_inv
  have hcur : s.Current a := ⟨phase, hhdlr, hended, fun _ => hlatest⟩
  have hpresent := (hs.table _ a).mpr ⟨hlatest, hcur⟩
  obtain ⟨phase', hphase', hcreated, -⟩ := hs.logged a (latest_spec hlatest).1
  have hindex := hs.indexed a phase' hphase' hcreated hcur
  refine ⟨hpresent, ?_, hs.connected a hcur⟩
  rw [ConnectionRegistry.findById, hindex]
  exact hpresent

/-! ### A replaced session that ends, and sessions that do not overlap -/

def steve : GameProfile := ⟨0x8667ba71b85a4004af54457a9734eed7#128, "Steve", []⟩

/-- The events of a new session of Steve and of the first steps of its handler. -/
def joins (handle steps : Nat) : List LifetimeEvent :=
  .create steve true .default :: List.replicate steps (.step handle)

/-- The session of the second connection of Steve. -/
def secondSteve : PlayerSession := ⟨1, 2, steve, true, .default⟩

/-- Steve is online. A second connection of Steve registers and replaces the first session,
whose handler then ends and unregisters its UUID. -/
def replacedEvents : List LifetimeEvent := joins 0 2 ++ joins 1 5 ++ [.step 0, .step 0, .step 0]

/-- The second session is registered, has not unregistered and has not been replaced. It is
not in the registry any more and marked as disconnected. -/
theorem unregister_removes_successor :
    ∃ s, Run Step new replacedEvents s ∧
      s.handlers.lookup 1 = some (secondSteve, .registered) ∧
      s.latest steve.uuid = some secondSteve ∧
      s.store.registry.get steve.uuid = none ∧
      s.store.registry.findById secondSteve.playerId = none ∧ 1 ∈ s.store.disconnected := by
  obtain ⟨s, hs⟩ : ∃ s, exec next replacedEvents new = some s := ⟨_, rfl⟩
  refine ⟨s, Run.of_exec (fun _ _ _ h => h) hs, ?_⟩
  cases hs
  decide

/-- The first session of Steve ends before the second one registers. -/
def rejoinEvents : List LifetimeEvent := joins 0 2 ++ [.step 0, .step 0, .step 0] ++ joins 1 2

theorem current_session_found_rejoin :
    ∃ s, Run OrderlyStep new rejoinEvents s ∧
      s.store.registry.get steve.uuid = some secondSteve ∧
      s.store.registry.findById secondSteve.playerId = some secondSteve ∧
      1 ∉ s.store.disconnected := by
  obtain ⟨s, hs⟩ : ∃ s, exec (guarded Orderly next) rejoinEvents new = some s := ⟨_, rfl⟩
  have hrun : Run OrderlyStep new rejoinEvents s := Run.of_exec_guarded hs
  have hhdlr : s.handlers.lookup secondSteve.handle = some (secondSteve, .registered) := by
    cases hs
    decide
  have hlatest : s.latest secondSteve.profile.uuid = some secondSteve := by
    cases hs
    decide
  exact ⟨s, hrun, current_session_found hrun hhdlr rfl hlatest⟩

end Lifetimes

end Infrarust
