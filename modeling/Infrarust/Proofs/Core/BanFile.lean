import Mathlib.Data.List.DropRight
import Infrarust.Core.BanFile
import Infrarust.Proofs.Core.BanManager

/-!
# `Infrarust.Proofs.Core.BanFile`: what can go wrong with stored bans

A time in the file, or a duration from the console, can be too far away for an addition, which
then panics (`load_ban_purge_isSome_iff`). The log is cut when a ban is added or removed, but not
when it is loaded and not by `purge_expired` (`auditLog_eq_rtake`). A key that was found expired is
removed later, whatever is under it by then (`kept_of_run`).
-/

set_option autoImplicit false

namespace Infrarust

open Option List Machine BanFileData BanEntry

/-! ### Additions of times -/

theorem addDuration_isSome {time duration} :
    (addDuration time duration).isSome ↔ (time + duration) / 1000000000 < 2 ^ 63 := by
  unfold addDuration
  split
  case isTrue h => exact iff_of_true rfl h
  case isFalse h => exact iff_of_false Bool.false_ne_true h

theorem timeOfEpoch_isSome {epoch} : (timeOfEpoch epoch).isSome ↔ epoch.toNat < 2 ^ 63 := by
  rw [timeOfEpoch, addDuration_isSome, Nat.zero_add, Nat.mul_div_cancel _ (by decide)]

/-- Every time of the file fits into an `i64`. -/
def BanFileData.InRange (file : BanFileData) : Prop :=
  (∀ ban ∈ file.bans, (∀ epoch ∈ ban.expiresAt, epoch.toNat < 2 ^ 63) ∧
    ban.createdAt.toNat < 2 ^ 63) ∧
  ∀ entry ∈ file.auditLog, entry.timestamp.toNat < 2 ^ 63

theorem StoredBan.toEntry_isSome {ban : StoredBan} : ban.toEntry.isSome ↔
    (∀ epoch ∈ ban.expiresAt, (timeOfEpoch epoch).isSome) ∧ (timeOfEpoch ban.createdAt).isSome := by
  -- for any reading of an epoch, since the kernel cannot evaluate this one at a variable
  have hany (time : UInt64 → Option Nat) : (do
      let expiresAt ← ban.expiresAt.mapM time
      let createdAt ← time ban.createdAt
      return ⟨ban.target, ban.reason, expiresAt, createdAt, ban.source⟩ : Option BanEntry).isSome ↔
        (∀ epoch ∈ ban.expiresAt, (time epoch).isSome) ∧ (time ban.createdAt).isSome := by
    cases ban.expiresAt with
    | none => cases time ban.createdAt <;> simp
    | some epoch => cases htime : time epoch <;> cases time ban.createdAt <;> simp [htime]
  exact hany timeOfEpoch

section

variable {α β : Type} {f : α → Option β} {l : List α}

theorem isSome_mapM : (l.mapM f).isSome ↔ ∀ a ∈ l, (f a).isSome := by
  induction l with
  | nil => simp
  | cons a l ih =>
    rw [mapM_cons, forall_mem_cons, ← ih]
    cases f a <;> cases l.mapM f <;> simp

theorem length_mapM {l'} (h : l.mapM f = some l') : l'.length = l.length := by
  induction l generalizing l' with
  | nil => cases h; rfl
  | cons a l ih =>
    cases ha : f a <;> cases hl : l.mapM f <;> simp [ha, hl] at h
    rw [← h, length_cons, length_cons, ih hl]

end

variable {file : BanFileData} {log : List (BanAuditLogEntry Nat)} {reason : Option String}
  {key : BanTarget}

theorem BanFileData.read_isSome : file.read.isSome ↔ file.InRange := by
  have hlog (entry : BanAuditLogEntry UInt64) : (do
      let timestamp ← timeOfEpoch entry.timestamp
      return { entry with timestamp } : Option (BanAuditLogEntry Nat)).isSome ↔
        (timeOfEpoch entry.timestamp).isSome := by
    cases timeOfEpoch entry.timestamp <;> rfl
  simp only [InRange, ← timeOfEpoch_isSome, ← StoredBan.toEntry_isSome, ← hlog, ← isSome_mapM]
  have hboth {α β : Type} (x : Option α) (y : Option β) :
      (do return (← x, ← y) : Option (α × β)).isSome ↔ x.isSome ∧ y.isSome := by
    cases x <;> cases y <;> simp
  exact hboth _ _

theorem BanFileData.length_of_read {bans} (h : file.read = some (bans, log)) :
    log.length = file.auditLog.length := by
  obtain ⟨_, -, h⟩ := bind_eq_some_iff.mp h
  obtain ⟨_, hlog, h⟩ := bind_eq_some_iff.mp h
  cases h
  exact length_mapM hlog

theorem BanEntry.new_isSome {now target duration source} : (BanEntry.new now target reason duration source).isSome ↔
      ∀ d ∈ duration, (now + d) / 1000000000 < 2 ^ 63 := by
  simp only [← addDuration_isSome, BanEntry.new]
  generalize addDuration now = add
  cases duration with
  | none => simp
  | some d => cases hadd : add d <;> simp [hadd]

/-- A load, a ban from the console and a later `purge_expired` do not panic if and only if every
time of the file and the end of the ban fit into an `i64`. The checks only compare times. -/
theorem load_ban_purge_isSome_iff {strings : Strings} (humantime : String → Except String Nat)
    {s : BanStore} {arg : String} {now : Nat} {target : BanTarget} {source : String} :
    (∃ loaded, s.next strings (.load (some file)) = some loaded ∧
      ∀ duration, parseDurationArg strings humantime arg = .ok duration →
        ∃ entry, BanEntry.new now target reason duration source = some entry ∧
          ∀ orders later, ∃ banned purged, loaded.next strings (.addBan entry now) = some banned ∧
            banned.next strings (.purgeExpired orders later) = some purged) ↔
      file.InRange ∧ ∀ duration, strings.toLowercase arg ≠ "permanent" →
        strings.toLowercase arg ≠ "perm" → humantime arg = .ok duration →
        (now + duration) / 1000000000 < 2 ^ 63 := by
  rw [← read_isSome]
  constructor
  · rintro ⟨loaded, hload, hban⟩
    refine ⟨?_, fun duration hpermanent hperm hdur => ?_⟩
    · by_contra hread
      simp [BanStore.next, not_isSome_iff_eq_none.mp hread] at hload
    · obtain ⟨entry, hent, -⟩ := hban (some duration) (by
        simp [parseDurationArg, hpermanent, hperm, hdur])
      exact new_isSome.mp (isSome_of_mem hent) duration rfl
  · rintro ⟨hread, hfits⟩
    obtain ⟨data, hread⟩ := isSome_iff_exists.mp hread
    refine ⟨_, by simp only [BanStore.next, hread]; rfl, fun duration hparse => ?_⟩
    have hnew : (BanEntry.new now target reason duration source).isSome := by
      refine new_isSome.mpr ?_
      rintro d rfl
      dsimp only [parseDurationArg] at hparse
      split at hparse
      case isTrue => cases hparse
      case isFalse hperm =>
        obtain ⟨hpermanent, hperm⟩ := not_or.mp hperm
        cases hdur : humantime arg with
        | error e =>
          rw [hdur] at hparse
          cases hparse
        | ok duration =>
          rw [hdur] at hparse
          cases hparse
          exact hfits d hpermanent hperm hdur
    obtain ⟨entry, hent⟩ := isSome_iff_exists.mp hnew
    exact ⟨entry, hent, fun _ _ => ⟨_, _, rfl, rfl⟩⟩

/-- A file with a creation time of `2 ^ 63` seconds, and a ban for 300000000000 years. -/
theorem load_and_ban_panic :
    BanStore.new.next asciiStrings
      (.load (some ⟨[⟨.username "Steve", none, none, 0x8000000000000000, "console"⟩], []⟩)) = none ∧
    let duration := 9467280000000000000000000000
    parseDurationArg asciiStrings (fun _ => .ok duration) "300000000000y" = .ok (some duration) ∧
      BanEntry.new 1700000000000000000 (.username "Steve") none (some duration) "console" =
        none := by
  refine ⟨?_, by decide +kernel, by decide +kernel⟩
  exact isNone_iff_eq_none.mp (by decide +kernel)

/-! ### The audit log -/

theorem rtake_append_rtake {α : Type} {n} {l l' : List α} :
    (l.rtake n ++ l').rtake n = (l ++ l').rtake n := by
  simp [rtake_eq_reverse_take_reverse, take_append, take_take]

theorem rtake_of_length_le {α : Type} {n} {l : List α} (h : l.length ≤ n) : l.rtake n = l := by
  rw [List.rtake, Nat.sub_eq_zero_of_le h, drop_zero]

theorem addAuditEntry_eq {entry} :
    addAuditEntry log entry = (log ++ [entry]).rtake MAX_AUDIT_LOG_ENTRIES := by
  dsimp only [addAuditEntry]
  split
  case isTrue => rfl
  case isFalse h => exact (rtake_of_length_le (not_lt.mp h)).symm

/-- The storage, and every entry that was ever written to its log. -/
structure BanHistory where
  store : BanStore
  written : List (BanAuditLogEntry Nat)

namespace BanHistory

variable (strings : Strings)

def new : BanHistory := ⟨.new, []⟩

/-- What is written after a call. A file brings the entries that were written before. -/
def writtenAfter (s : BanHistory) : BanStoreCall → List (BanAuditLogEntry Nat)
  | .load file => (file.bind BanFileData.read).elim s.written Prod.snd
  | .addBan entry now => s.written ++ [⟨.ban, entry.target, entry.reason, entry.source, now⟩]
  | .removeBan target now =>
    if (s.store.storage.find strings target).isSome then s.written ++ [⟨.unban, target, none, "", now⟩]
    else s.written
  | .purgeExpired orders now => s.written ++ s.store.purged orders now

def next (s : BanHistory) (call : BanStoreCall) : Option BanHistory :=
  (s.store.next strings call).map (⟨·, s.writtenAfter strings call⟩)

/-- The log has the last entries that were written. -/
def Recent (s : BanHistory) : Prop := s.store.auditLog = s.written.rtake MAX_AUDIT_LOG_ENTRIES

/-- The entries of a file, or those for the expired bans, have room in the log. -/
def HasRoom (s : BanHistory) : BanStoreCall → Prop
  | .load file => ∀ data ∈ file, data.auditLog.length ≤ MAX_AUDIT_LOG_ENTRIES
  | .purgeExpired orders now =>
    s.store.auditLog.length + (s.store.purged orders now).length ≤ MAX_AUDIT_LOG_ENTRIES
  | _ => True

instance (s : BanHistory) : DecidablePred s.HasRoom := fun call => by
  cases call <;> unfold HasRoom <;> infer_instance

variable {strings}

theorem next_recent {s s' : BanHistory} {call} (hroom : s.HasRoom call)
    (h : s.next strings call = some s') (hs : s.Recent) : s'.Recent := by
  obtain ⟨store, hstore, rfl⟩ := map_eq_some_iff.mp h
  unfold Recent at *
  cases call with
  | load file =>
    cases file with
    | none =>
      cases hstore
      exact hs
    | some file =>
      dsimp only [BanStore.next, writtenAfter] at hstore ⊢
      obtain ⟨⟨bans, log⟩, hread, hstore⟩ := bind_eq_some_iff.mp hstore
      cases hstore
      rw [bind_some, hread]
      exact (rtake_of_length_le ((length_of_read hread).trans_le (hroom file rfl))).symm
  | addBan entry now =>
    dsimp only [BanStore.next, writtenAfter] at hstore ⊢
    cases hstore
    rw [addAuditEntry_eq, hs, rtake_append_rtake]
  | removeBan target now =>
    dsimp only [BanStore.next, writtenAfter] at hstore ⊢
    split at hstore <;> cases hstore
    · rw [addAuditEntry_eq, hs, rtake_append_rtake, if_pos ‹_›]
    · rw [hs, if_neg ‹_›]
  | purgeExpired orders now =>
    dsimp only [BanStore.next, writtenAfter] at hstore ⊢
    cases hstore
    have hlen := length_append.trans_le hroom
    rw [← rtake_append_rtake, ← hs, rtake_of_length_le hlen]

variable {calls : List BanStoreCall} {s : BanHistory}

/-- As long as a loaded log and the entries of `purge_expired` have room, the log has the last
`MAX_AUDIT_LOG_ENTRIES` entries that were written, or all of them. -/
theorem auditLog_eq_rtake
    (hrun : Run (fun s call s' => s.HasRoom call ∧ s.next strings call = some s') new calls
      s) :
    s.store.auditLog.length ≤ MAX_AUDIT_LOG_ENTRIES ∧
      s.store.auditLog = s.written.rtake MAX_AUDIT_LOG_ENTRIES := by
  have hs : s.Recent :=
    hrun.invariant (I := Recent) (fun _ _ _ hstep => next_recent hstep.1 hstep.2) (rtake_nil _).symm
  refine ⟨?_, hs⟩
  rw [hs, List.rtake, length_drop]
  omega

/-- A ban that ends at once is added and purged. -/
theorem auditLog_eq_rtake_purged : ∃ s : BanHistory,
    Run (fun s call s' => s.HasRoom call ∧ s.next asciiStrings call = some s') new
      [.addBan ⟨.username "Steve", none, some 0, 0, "console"⟩ 0,
        .purgeExpired ⟨.entries, .entries, .entries⟩ 1] s ∧
      s.written.length = 2 ∧ s.store.auditLog = s.written.rtake MAX_AUDIT_LOG_ENTRIES := by
  refine exists_run_guarded (P := fun s => s.written.length = 2) (by decide +kernel) ?_
  intro s hrun hlen
  exact ⟨hlen, (auditLog_eq_rtake hrun).2⟩

/-- A file with one entry too many. -/
def longFile : BanFileData :=
  ⟨[], List.replicate (MAX_AUDIT_LOG_ENTRIES + 1) ⟨.unban, .username "Steve", none, "", 0⟩⟩

theorem auditLog_over_limit : ∃ s,
    Run (fun s call s' => s.next asciiStrings call = some s') new [.load (some longFile)]
      s ∧ ¬s.store.auditLog.length ≤ MAX_AUDIT_LOG_ENTRIES := by
  have hrange : longFile.InRange := by
    refine ⟨nofun, fun entry hent => ?_⟩
    rw [eq_of_mem_replicate hent]
    decide
  obtain ⟨⟨bans, log⟩, hread⟩ := isSome_iff_exists.mp (read_isSome.mpr hrange)
  have hlen : log.length = MAX_AUDIT_LOG_ENTRIES + 1 := by
    rw [length_of_read hread, longFile, length_replicate]
  have hload : new.next asciiStrings (.load (some longFile)) =
      some ⟨⟨bans.foldl (fun storage entry => storage.addBan asciiStrings entry) .new, log⟩, log⟩ := by
    rw [next, BanStore.next, writtenAfter, bind_some, hread]
    rfl
  refine ⟨_, .cons hload (.nil _), ?_⟩
  rw [hlen]
  exact Nat.not_succ_le_self _

end BanHistory

/-! ### The clean-up -/

namespace FileBanStorage

variable {strings : Strings} {storage : FileBanStorage} {entry : BanEntry} {now : Nat}
  {target : BanTarget}

theorem find_eq_entryAt : storage.find strings target = storage.entryAt (target.key strings) := by
  cases target <;> rfl

theorem erase_eq_eraseAt : storage.erase strings target = storage.eraseAt (target.key strings) := by
  cases target <;> rfl

theorem entryAt_addBan : (storage.addBan strings entry).entryAt key =
    if key = entry.target.key strings then some entry else storage.entryAt key := by
  unfold addBan
  cases entry.target <;> cases key <;> simp [entryAt, BanTarget.key, Dict.lookup_insert_eq]

theorem entryAt_eraseAt {other} : (storage.eraseAt other).entryAt key =
    if key = other then none else storage.entryAt key := by
  cases other <;> cases key <;> simp [entryAt, eraseAt, Dict.lookup_erase_eq]

theorem entryAt_of_mem_expiredKeys {orders kind} (h : key ∈ storage.expiredKeys orders now kind) :
    ∃ entry, storage.entryAt key = some entry ∧ entry.isExpired now = true := by
  cases kind with
  | ip | username | uuid =>
    obtain ⟨⟨k, entry⟩, hmem, rfl⟩ := mem_map.mp h
    obtain ⟨hiter, hexp⟩ := mem_filter.mp hmem
    exact ⟨entry, (Dict.Order.mem_iter _).mp hiter, hexp⟩

end FileBanStorage

namespace BanCleanup

open FileBanStorage

/-- A ban that was added, not removed by `remove_ban` and has not expired is in the storage. -/
def Kept (s : BanCleanup) : Prop :=
  ∀ key entry, s.added key = some entry → entry.isExpired s.now = false →
    s.storage.entryAt key = some entry

/-- No ban is added under a key that is about to be removed. -/
def NotDoomed (strings : Strings) (s : BanCleanup) : BanAccess → Prop
  | .addBan entry => entry.target.key strings ∉ s.doomed
  | _ => True

instance (strings : Strings) (s : BanCleanup) : DecidablePred (s.NotDoomed strings) := fun access =>
  by cases access <;> unfold NotDoomed <;> infer_instance

/-- The bans are kept, and those under a key that is about to be removed have expired. -/
structure Safe (s : BanCleanup) : Prop where
  kept : s.Kept
  doomed : ∀ key ∈ s.doomed, ∀ entry, s.added key = some entry → entry.isExpired s.now = true

variable {strings : Strings} {s s' : BanCleanup}

theorem Kept.expired {found entry} (h : s.Kept)
    (hfound : s.storage.entryAt key = some found) (hexp : found.isExpired s.now = true)
    (hadded : s.added key = some entry) : entry.isExpired s.now = true := by
  by_contra hlive
  rw [h key entry hadded (Bool.eq_false_iff.mpr hlive)] at hfound
  cases hfound
  exact hlive hexp

theorem next_safe {access} (hdoomed : s.NotDoomed strings access)
    (h : s.next strings access = some s') (hs : s.Safe) : s'.Safe := by
  cases access with
  | addBan entry =>
    cases h
    constructor
    · intro key e hadded hlive
      dsimp only at hadded
      rw [Function.update_apply] at hadded
      rw [entryAt_addBan]
      split at hadded
      case isTrue heq => rwa [if_pos heq]
      case isFalse hne =>
        rw [if_neg hne]
        exact hs.kept key e hadded hlive
    · intro key hkey e hadded
      have hne : key ≠ entry.target.key strings := fun heq => hdoomed (heq ▸ hkey)
      exact hs.doomed key hkey e ((Function.update_of_ne hne _ _).symm.trans hadded)
  | removeBan target =>
    cases h
    have hadded' {key e} (h : Function.update s.added (target.key strings) none key = some e) :
        key ≠ target.key strings ∧ s.added key = some e := by
      rw [Function.update_apply] at h
      split at h
      case isTrue => cases h
      case isFalse hne => exact ⟨hne, h⟩
    constructor
    · intro key e hadded hlive
      obtain ⟨hne, hadded⟩ := hadded' hadded
      rw [erase_eq_eraseAt, entryAt_eraseAt, if_neg hne]
      exact hs.kept key e hadded hlive
    · intro key hkey e hadded
      exact hs.doomed key hkey e (hadded' hadded).2
  | test target =>
    dsimp only [next] at h
    split at h
    case isTrue hany =>
      cases h
      obtain ⟨found, hfound, hexp⟩ := (any_eq_true _ _).mp hany
      rw [FileBanStorage.find_eq_entryAt] at hfound
      exact ⟨hs.kept, forall_mem_cons.mpr ⟨fun _ => hs.kept.expired hfound hexp, hs.doomed⟩⟩
    case isFalse =>
      cases h
      exact hs
  | collect orders kind =>
    cases h
    refine ⟨hs.kept, forall_mem_append.mpr ⟨fun key hkey e hadded => ?_, hs.doomed⟩⟩
    obtain ⟨found, hfound, hexp⟩ := entryAt_of_mem_expiredKeys hkey
    exact hs.kept.expired hfound hexp hadded
  | clean key =>
    dsimp only [next] at h
    split at h
    case isFalse => cases h
    case isTrue hkey =>
      cases h
      refine ⟨fun other e hadded hlive => ?_, fun other hother => ?_⟩
      · have hne : other ≠ key := by
          rintro rfl
          cases hlive.symm.trans (hs.doomed _ hkey e hadded)
        rw [entryAt_eraseAt, if_neg hne]
        exact hs.kept other e hadded hlive
      · exact hs.doomed other (mem_of_mem_erase hother)
  | tick =>
    cases h
    refine ⟨fun key e hadded hlive => hs.kept key e hadded (isExpired_succ hlive), ?_⟩
    intro key hkey e hadded
    by_contra hlive
    cases (isExpired_succ (Bool.eq_false_iff.mpr hlive)).symm.trans (hs.doomed key hkey e hadded)

variable {now : Nat} {accesses : List BanAccess}

/-- In every run in which no ban is added under a key that is about to be removed, the clean-up
removes no ban that has not expired. -/
theorem kept_of_run (hrun : Run (fun s access s' => s.NotDoomed strings access ∧
      s.next strings access = some s') (init now) accesses s) : s.Kept := by
  have hinit : (init now).Safe := ⟨nofun, nofun⟩
  exact (hrun.invariant (I := Safe) (fun _ _ _ hstep => next_safe hstep.1 hstep.2) hinit).kept

/-- Steve's ban has ended when a new one is added. -/
def endedBan : BanEntry := ⟨.username "Steve", none, some 0, 0, "console"⟩

theorem kept_of_run_new_ban : ∃ s : BanCleanup,
    Run (fun s access s' => s.NotDoomed asciiStrings access ∧
      s.next asciiStrings access = some s') (init 0)
      [.addBan endedBan, .test (.username "steve"), .clean (.username "steve"),
        .addBan { endedBan with expiresAt := none }] s ∧
      s.Kept ∧ (s.storage.entryAt (.username "steve")).isSome := by
  refine exists_run_guarded
    (P := fun s => (s.storage.entryAt (.username "steve")).isSome) (by decide +kernel) ?_
  exact fun s hrun hsome => ⟨kept_of_run hrun, hsome⟩

/-- The old ban is tested, the new one is added, and then the key is removed. -/
theorem clean_up_removes_new_ban : ∃ s : BanCleanup,
    Run (fun s access s' => s.next asciiStrings access = some s') (init 0)
      [.addBan endedBan, .test (.username "steve"), .addBan { endedBan with expiresAt := none },
        .clean (.username "steve")] s ∧ ¬s.Kept := by
  refine exists_run_imp (fun _ _ _ h => h)
    (P := fun s => s.added (.username "steve") = some { endedBan with expiresAt := none } ∧
      s.storage.entryAt (.username "steve") = none) (by decide +kernel) ?_
  rintro s - ⟨hadded, hnone⟩ hkept
  cases hnone.symm.trans (hkept _ _ hadded rfl)

end BanCleanup

end Infrarust
