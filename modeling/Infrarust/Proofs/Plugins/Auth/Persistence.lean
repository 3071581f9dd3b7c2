import Infrarust.Lib.Machine
import Infrarust.Plugins.Auth.Persistence

/-!
# `Infrarust.Proofs.Plugins.Auth.Persistence`: when the accounts file is up to date

A flush takes the dirty flag back before it has written anything, and does not set it again if it
fails. After a failure the flag says that there is nothing to write, and the next flush returns at
once (`failed_flush_forgotten`). Two flushes at the same time can also end in the wrong order: the
one that has copied the older accounts renames its file last.

`Orderly` excludes just this. Then `Inv` holds: unless the flag is set, or is about to be, the
flush under way carries the accounts of the storage to the disk, and without one they are there.
-/

set_option autoImplicit false

namespace Infrarust.Auth

open Files (FileSystem Writing)
open JsonFileStorage Dict Machine AList

variable {shards : Shards} {json : AccountsJson}

/-! ### Maps from lists of accounts -/

variable {username : Username} {shard : Nat}

namespace JsonFileStorage

/-- Every account is kept under its own name. -/
def Keyed (storage : JsonFileStorage) : Prop :=
  ∀ username account, storage.accounts.lookup username = some account → account.username = username

theorem keyed_insertAll (loaded dirty) : Keyed ⟨insertAll loaded, dirty⟩ := by
  intro username account h
  rcases lookup_foldl_insert_cases AuthAccount.username id loaded ∅ username with
    ⟨other, _, hname, hget⟩ | ⟨_, hget⟩
  · cases hget.symm.trans h
    exact hname
  · have hnone : (insertAll loaded).lookup username = none :=
      hget.trans (lookup_empty username)
    cases hnone.symm.trans h

theorem lookup_insertAll_append {first second} :
    (insertAll (first ++ second)).lookup username =
      ((insertAll second).lookup username).or ((insertAll first).lookup username) := by
  have hloop := lookup_foldl_insert AuthAccount.username id second (insertAll first) username
  have hsnd : (insertAll second).lookup username = _ :=
    lookup_foldl_insert AuthAccount.username id second ∅ username
  rw [hsnd, lookup_empty, Option.or_none, insertAll, List.foldl_append]
  exact hloop

variable {storage : JsonFileStorage} {disk : FileSystem AccountsPath} {account : AuthAccount}
  {username : Username}

/-- The copy of a shard has the accounts of the shard. -/
theorem lookup_insertAll_shardAccounts (hkeyed : storage.Keyed) {order} :
    (insertAll (storage.shardAccounts shards order shard)).lookup username =
      if shards.shardOf username = shard then storage.accounts.lookup username else none := by
  have hget := order.lookup_foldl_insert_filter (fun name => shards.shardOf name = shard) id
    AuthAccount.username id (fun name account h => ⟨hkeyed name account h, rfl⟩) username
  simp only [decide_eq_true_eq] at hget
  exact hget

/-! ### What a file stands for -/

/-- The text is one of the accounts. -/
def Encodes (json : AccountsJson) (content : List UInt8)
    (accounts : Dict Username AuthAccount) : Prop :=
  ∃ loaded, json.fromText content = .ok loaded ∧
    ∀ username, (insertAll loaded).lookup username = accounts.lookup username

/-- Loaded again, the storage would have the accounts that it has. -/
def OnDisk (json : AccountsJson) (disk : FileSystem AccountsPath) (storage : JsonFileStorage) :
    Prop :=
  ∃ loaded, loadOrCreate json disk = .ok loaded ∧
    ∀ username, loaded.accounts.lookup username = storage.accounts.lookup username

theorem onDisk_of_encodes {content} (hread : disk.read .file = some content)
    (h : Encodes json content storage.accounts) : OnDisk json disk storage := by
  obtain ⟨loaded, hldd, hget⟩ := h
  refine ⟨⟨insertAll loaded, false⟩, ?_, hget⟩
  simp only [loadOrCreate, hread, hldd]

theorem keyed_of_loadOrCreate (h : loadOrCreate json disk = .ok storage) : storage.Keyed := by
  rw [loadOrCreate] at h
  split at h
  case h_1 =>
    cases h
    exact keyed_insertAll [] false
  case h_2 =>
    split at h <;> cases h
    case h_1 loaded _ => exact keyed_insertAll loaded false

/-! ### The methods -/

theorem Keyed.put (h : storage.Keyed) (hname : account.username = username) :
    (storage.put account username).Keyed :=
  forall_insert h hname

/-- A method keeps the accounts under their names, and sets the flag if it changes them. -/
structure Keeps (storage storage' : JsonFileStorage) : Prop where
  keyed : storage.Keyed → storage'.Keyed
  marks : storage'.dirty = true ∨ storage' = storage

theorem keeps_refl : Keeps storage storage := ⟨id, .inr rfl⟩

theorem keeps_put (hname : storage.Keyed → account.username = username) :
    Keeps storage (storage.put account username) :=
  ⟨fun h => h.put (hname h), .inl rfl⟩

theorem keeps_run (storage) (task : StorageTask) : Keeps storage (task.run storage) := by
  cases task with
  | createAccount account =>
    rw [StorageTask.run, createAccount]
    split
    · exact keeps_refl
    · exact keeps_put fun _ => rfl
  | updatePasswordHash username newHash =>
    rw [StorageTask.run, updatePasswordHash]
    split
    case h_1 account hget => exact keeps_put fun h => h username account hget
    case h_2 => exact keeps_refl
  | deleteAccount username =>
    rw [StorageTask.run, deleteAccount]
    split
    · refine ⟨fun h name account hget => ?_, .inl rfl⟩
      exact h name account (lookup_erase_inv hget).2
    · exact keeps_refl
  | updateLastLogin username ip now =>
    rw [StorageTask.run, updateLastLogin]
    split
    case h_1 account hget => exact keeps_put fun h => h username account hget
    case h_2 => exact keeps_refl
  | updatePremiumInfo username premiumInfo =>
    rw [StorageTask.run, updatePremiumInfo]
    split
    case h_1 account hget => exact keeps_put fun h => h username account hget
    case h_2 => exact keeps_refl

end JsonFileStorage

open JsonFileStorage (Encodes OnDisk insertAll)

/-! ### The invariant -/

/-- The flush has the accounts so far, or has them all on their way to the file. -/
def Flush.Carries (shards : Shards) (json : AccountsJson) (disk : FileSystem AccountsPath)
    (accounts : Dict Username AuthAccount) : Flush → Prop
  | .collecting shard collected => ∀ username, (insertAll collected).lookup username =
      if shards.shardOf username < shard then accounts.lookup username else none
  | .opening content => Encodes json content accounts
  | .writing progress => Encodes json progress.content accounts ∧ progress.Intact disk .tmp

variable {storage : JsonFileStorage}

namespace Flush

/-- The copied accounts have a text. -/
def serializes (json : AccountsJson) : Flush → Bool
  | .collecting _ accounts => (json.toText accounts).isOk
  | _ => true

variable {disk : FileSystem AccountsPath} {collected : List AuthAccount}

theorem Carries.collect (hkeyed : storage.Keyed) (order)
    (h : (collecting shard collected).Carries shards json disk storage.accounts) :
    (collecting (shard + 1) (collected ++ storage.shardAccounts shards order shard)).Carries shards
      json disk storage.accounts := by
  intro username
  rw [lookup_insertAll_append, h username, lookup_insertAll_shardAccounts hkeyed]
  rcases Nat.lt_trichotomy (shards.shardOf username) shard with hlt | heq | hgt
  · rw [if_neg (Nat.ne_of_lt hlt), if_pos hlt, if_pos (Nat.lt_succ_of_lt hlt), Option.none_or]
  · subst heq
    rw [if_pos rfl, if_neg (Nat.lt_irrefl _), if_pos (Nat.lt_succ_self _), Option.or_none]
  · rw [if_neg (Nat.ne_of_gt hgt), if_neg (Nat.lt_asymm hgt), if_neg (Nat.not_lt_of_le hgt),
      Option.none_or]

theorem Carries.serialize {accounts content}
    (hshard : ¬shard < shards.count) (hcont : json.toText collected = .ok content)
    (h : (collecting shard collected).Carries shards json disk accounts) :
    (opening content).Carries shards json disk accounts := by
  refine ⟨collected, json.fromText_of_toText hcont, fun username => ?_⟩
  have hlt := shards.shardOf_lt username
  rw [h username, if_pos (by omega)]

end Flush

namespace StorageSystem

/-- No flush is running. -/
def Idle (system : StorageSystem) : Prop := ∀ id flush, system.flushes.lookup id ≠ some flush
deriving Decidable

/-- The flag is not set, no flush is running and no method is about to set the flag. -/
structure Quiet (system : StorageSystem) : Prop where
  clean : system.storage.dirty = false
  idle : system.Idle
  marked : system.unmarked = 0

/-- No flush starts to write while another one does, and none fails. -/
def Orderly (json : AccountsJson) (system : StorageSystem) : Label → Prop
  | .flush _ => system.storage.dirty = true → system.Idle
  | .serialize id => ∀ flush, system.flushes.lookup id = some flush → flush.serializes json = true
  | .fail _ => False
  | _ => True

instance (json : AccountsJson) (system : StorageSystem) : DecidablePred (system.Orderly json) :=
  fun label =>
    match label with
    | .flush _ => inferInstanceAs (Decidable (system.storage.dirty = true → system.Idle))
    | .serialize id => inferInstanceAs (Decidable (∀ flush, system.flushes.lookup id = some flush →
        flush.serializes json = true))
    | .fail _ => instDecidableFalse
    | .mutate _ | .markDirty | .collect _ | .openTmp _ | .write .. | .rename _ =>
      instDecidableTrue

/-- The accounts are on the disk, or a flush brings them there. -/
structure Current (shards : Shards) (json : AccountsJson) (system : StorageSystem) : Prop where
  onDisk : system.Idle → OnDisk json system.disk system.storage
  carries : ∀ id flush, system.flushes.lookup id = some flush →
    flush.Carries shards json system.disk system.storage.accounts

structure Inv (shards : Shards) (json : AccountsJson) (system : StorageSystem) : Prop where
  keyed : system.storage.Keyed
  /-- There is one flush at most. -/
  single : ∀ id id' flush flush', system.flushes.lookup id = some flush →
    system.flushes.lookup id' = some flush' → id = id'
  current : system.storage.dirty = true ∨ 0 < system.unmarked ∨ system.Current shards json

namespace Inv

variable {system : StorageSystem}

variable {disk : FileSystem AccountsPath}

theorem start (h : JsonFileStorage.loadOrCreate json disk = .ok storage) :
    Inv shards json (StorageSystem.start storage disk) := by
  refine ⟨keyed_of_loadOrCreate h, ?_, .inr (.inr ⟨?_, ?_⟩)⟩
  · intro id id' flush flush' hget
    cases (lookup_empty id).symm.trans hget
  · exact fun _ => ⟨storage, h, fun _ => rfl⟩
  · intro id flush hget
    cases (lookup_empty id).symm.trans hget

section

variable (h : system.Inv shards json)

include h

theorem mutate (task : StorageTask) :
    Inv shards json
      { system with
        storage := { task.run { system.storage with dirty := false } with
          dirty := system.storage.dirty }
        unmarked := if (task.run { system.storage with dirty := false }).dirty then
          system.unmarked + 1 else system.unmarked } := by
  have hkeeps := keeps_run { system.storage with dirty := false } task
  refine ⟨hkeeps.keyed h.keyed, h.single, ?_⟩
  rcases hkeeps.marks with hdirty | hsame
  · right
    left
    rw [if_pos hdirty]
    exact Nat.succ_pos _
  · rw [hsame]
    exact h.current

theorem markDirty :
    Inv shards json
      { system with
        storage := { system.storage with dirty := true }
        unmarked := system.unmarked - 1 } :=
  ⟨h.keyed, h.single, .inl rfl⟩

theorem flush (hidle : system.Idle) (id : Nat) :
    Inv shards json
      { system with
        storage := { system.storage with dirty := false }
        flushes := system.flushes.insert id (.collecting 0 []) } := by
  have honly : ∀ id' flush, (system.flushes.insert id (.collecting 0 [])).lookup id' =
      some flush → id' = id ∧ flush = .collecting 0 [] := by
    intro id' flush hget
    rcases lookup_insert_inv hget with ⟨hid, hflush⟩ | ⟨_, hold⟩
    · exact ⟨hid, hflush.symm⟩
    · exact absurd hold (hidle id' flush)
  refine ⟨h.keyed, ?_, .inr (.inr ⟨?_, ?_⟩)⟩
  · intro first second flush flush' hfst hsnd
    rw [(honly first flush hfst).1, (honly second flush' hsnd).1]
  · intro hidle'
    exact absurd (lookup_insert system.flushes) (hidle' id _)
  · intro id' flush hget
    obtain ⟨-, rfl⟩ := honly id' flush hget
    intro username
    exact lookup_empty username

/-- A flush goes on. -/
theorem advance {id} {old new : Flush} (hold : system.flushes.lookup id = some old)
    (hcar : old.Carries shards json system.disk system.storage.accounts →
      new.Carries shards json disk system.storage.accounts) :
    Inv shards json { system with disk, flushes := system.flushes.insert id new } := by
  have honly : ∀ id' flush, (system.flushes.insert id new).lookup id' = some flush →
      id' = id ∧ flush = new := by
    intro id' flush hget
    rcases lookup_insert_inv hget with ⟨hid, hflush⟩ | ⟨hne, hother⟩
    · exact ⟨hid, hflush.symm⟩
    · exact absurd (h.single id' id flush old hother hold) hne
  refine ⟨h.keyed, ?_, h.current.imp_right fun hcur => hcur.imp_right fun hcur => ?_⟩
  · intro first second flush flush' hfst hsnd
    rw [(honly first flush hfst).1, (honly second flush' hsnd).1]
  · refine ⟨fun hidle => absurd (lookup_insert system.flushes) (hidle id _), ?_⟩
    intro id' flush hget
    obtain ⟨-, rfl⟩ := honly id' flush hget
    exact hcar (hcur.carries id old hold)

theorem rename {id progress} (hold : system.flushes.lookup id = some (.writing progress))
    (hwrt : progress.written = progress.content.length) :
    Inv shards json
      { system with
        disk := (system.disk.rename .tmp .file).getD system.disk
        flushes := system.flushes.erase id } := by
  refine ⟨h.keyed, ?_, h.current.imp_right fun hcur => hcur.imp_right fun hcur => ?_⟩
  · intro first second flush flush' hfst hsnd
    exact h.single first second flush flush' (lookup_erase_inv hfst).2 (lookup_erase_inv hsnd).2
  · obtain ⟨henc, hintact⟩ := hcur.carries id _ hold
    have hread := Files.Writing.read_of_intact hintact hwrt
    obtain ⟨disk, hdisk⟩ := FileSystem.rename_of_read .file hread
    refine ⟨fun _ => ?_, ?_⟩
    · rw [hdisk]
      exact onDisk_of_encodes (FileSystem.read_rename hdisk hread) henc
    · intro id' flush hget
      obtain ⟨hne, hother⟩ := lookup_erase_inv hget
      exact absurd (h.single id' id flush _ hother hold) hne

theorem step {label system'}
    (hord : system.Orderly json label) (hstep : system.Step shards json label system') :
    system'.Inv shards json := by
  obtain ⟨order, hstep⟩ := hstep
  cases label <;> simp only [StorageSystem.step] at hstep
  case mutate task =>
    cases hstep
    exact h.mutate task
  case markDirty =>
    split at hstep <;> cases hstep
    exact h.markDirty
  case flush id =>
    split at hstep
    case isTrue => cases hstep
    case isFalse =>
      split at hstep <;> cases hstep
      case isTrue hdirty => exact h.flush (hord hdirty) id
      case isFalse => exact h
  case collect id =>
    split at hstep
    case h_1 shard accounts hget =>
      split at hstep <;> cases hstep
      exact h.advance hget (.collect h.keyed order)
    case h_2 => cases hstep
  case serialize id =>
    split at hstep
    case h_1 shard accounts hget =>
      have hok : (json.toText accounts).isOk = true := hord _ hget
      split at hstep
      case isTrue => cases hstep
      case isFalse hshard =>
        cases hcont : json.toText accounts with
        | error message =>
          rw [hcont] at hok
          cases hok
        | ok content =>
          rw [hcont] at hstep
          cases hstep
          exact h.advance hget (.serialize hshard hcont)
    case h_2 => cases hstep
  case openTmp id =>
    split at hstep <;> cases hstep
    case h_1 content hget =>
      exact h.advance hget fun henc =>
        ⟨henc, Files.Writing.intact_create system.disk .tmp content⟩
  case write id count =>
    split at hstep <;> cases hstep
    case h_1 progress hget =>
      exact h.advance hget fun hcar => ⟨hcar.1, hcar.2.advance count⟩
  case rename id =>
    split at hstep
    case h_1 progress hget =>
      split at hstep <;> cases hstep
      case isTrue hwrt => exact h.rename hget hwrt
    case h_2 => cases hstep
  case fail id => exact hord.elim

end

end Inv

/-- In every run in which no two flushes write at the same time and none fails, the accounts file
is up to date whenever the flag is not set and no call is under way. -/
theorem onDisk_of_quiet (shards : Shards) (json : AccountsJson) {storage : JsonFileStorage}
    {disk : FileSystem AccountsPath} {labels : List Label} {system : StorageSystem}
    (hload : JsonFileStorage.loadOrCreate json disk = .ok storage)
    (hrun : Run (fun system label system' =>
      system.Orderly json label ∧ system.Step shards json label system')
        (start storage disk) labels system)
    (hquiet : system.Quiet) : OnDisk json system.disk system.storage := by
  have hinv : system.Inv shards json :=
    hrun.invariant (fun _ _ _ hstep h => h.step hstep.1 hstep.2) (.start hload)
  rcases hinv.current with hdirty | hunmarked | hcur
  · cases hquiet.clean.symm.trans hdirty
  · exact absurd hquiet.marked (Nat.ne_of_gt hunmarked)
  · exact hcur.onDisk hquiet.idle

section Runs

private def steve : AuthAccount :=
  ⟨⟨"steve"⟩, "Steve", some ⟨"hash"⟩, 1700000000, none, none, 0, none⟩

/-- Texts for no account and for the one account. -/
private def steveJson : AccountsJson := .ofValues [[], [steve]]

private def oneShard : Shards := ⟨1, fun _ => 0, fun _ => Nat.one_pos⟩

private def noFiles : FileSystem AccountsPath := ⟨∅, ∅, 0⟩

/-- The steps of a flush up to the renaming. -/
private def writes (id : Nat) : List Label :=
  [.flush id, .collect id, .serialize id, .openTmp id, .write id 8]

/-- The account is written. -/
theorem onDisk_steve :
    ∃ system, Run (fun system label system' =>
        system.Orderly steveJson label ∧ system.Step oneShard steveJson label system')
          (start ⟨∅, false⟩ noFiles)
          (.mutate (.createAccount steve) :: .markDirty :: writes 0 ++ [.rename 0]) system ∧
      system.storage.hasAccount ⟨"steve"⟩ = true ∧
      OnDisk steveJson system.disk system.storage := by
  refine exists_run_imp (f := guarded (fun system => Orderly steveJson system)
      (step oneShard steveJson .entries))
    (fun _ _ _ h => ⟨(of_guarded h).1, _, (of_guarded h).2⟩)
    (P := fun system => system.storage.hasAccount ⟨"steve"⟩ = true ∧
      system.storage.dirty = false ∧ system.Idle ∧ system.unmarked = 0) (by decide) ?_
  rintro system hrun ⟨haccount, hclean, hidle, hmarked⟩
  exact ⟨haccount, onDisk_of_quiet oneShard steveJson rfl hrun ⟨hclean, hidle, hmarked⟩⟩

theorem not_onDisk {disk} (h : (JsonFileStorage.loadOrCreate json disk).toOption.map
      (fun loaded => loaded.hasAccount username) ≠ some (storage.hasAccount username)) :
    ¬OnDisk json disk storage := by
  rintro ⟨loaded, hldd, hget⟩
  apply h
  rw [hldd]
  show some (loaded.accounts.lookup username).isSome = some (storage.accounts.lookup username).isSome
  rw [hget]

/-- The account is created, the renaming fails, and the next flush does nothing. Or it is deleted
again while its flush is about to open the file, and the flush for that is faster. -/
theorem failed_flush_forgotten :
    (∃ system, Run (Step oneShard steveJson) (start ⟨∅, false⟩ noFiles)
        (.mutate (.createAccount steve) :: .markDirty :: writes 0 ++ [.fail 0, .flush 1]) system ∧
      system.Quiet ∧ ¬OnDisk steveJson system.disk system.storage) ∧
    ∃ system, Run (Step oneShard steveJson) (start ⟨∅, false⟩ noFiles)
        ([.mutate (.createAccount steve), .markDirty, .flush 0, .collect 0, .serialize 0,
          .mutate (.deleteAccount ⟨"steve"⟩), .markDirty] ++ writes 1 ++
          [.rename 1, .openTmp 0, .write 0 8, .rename 0]) system ∧
      system.Quiet ∧ ¬OnDisk steveJson system.disk system.storage := by
  have hstale (labels) (h : (exec (step oneShard steveJson .entries) labels
      (start ⟨∅, false⟩ noFiles)).any (fun system =>
        (system.storage.dirty = false ∧ system.Idle ∧ system.unmarked = 0) ∧
        (JsonFileStorage.loadOrCreate steveJson system.disk).toOption.map
          (fun loaded => loaded.hasAccount ⟨"steve"⟩) ≠
            some (system.storage.hasAccount ⟨"steve"⟩)) = true) :
      ∃ system, Run (Step oneShard steveJson) (start ⟨∅, false⟩ noFiles) labels system ∧
        system.Quiet ∧ ¬OnDisk steveJson system.disk system.storage :=
    exists_run_imp (fun _ _ _ h => ⟨_, h⟩) h fun _ _ hs =>
      ⟨⟨hs.1.1, hs.1.2.1, hs.1.2.2⟩, not_onDisk hs.2⟩
  exact ⟨hstale _ (by decide), hstale _ (by decide)⟩

end Runs

end StorageSystem

end Infrarust.Auth
