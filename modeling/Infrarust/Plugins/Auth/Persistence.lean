import Infrarust.Lib.Files
import Infrarust.Plugins.Auth.Storage

/-!
# `Infrarust.Plugins.Auth.Persistence`: the accounts file

Every method that changes the accounts sets the dirty flag after it has changed the map. A flush
takes the flag back, copies the accounts, one shard of the map after the other, and writes them to a
file next to the accounts file, which is then renamed. The auto-save task flushes at every tick, and
`on_disable` once more, whether or not the task is in the middle of a flush.

The steps of the calls that run at the same time may interleave in any way, and opening, writing and
renaming may fail at any point. The atomic operations on the flag are taken in one order.
-/

set_option autoImplicit false

namespace Infrarust.Auth

open Files (FileSystem Writing)

/-- `file_path`, and the path with the extension `json.tmp`. -/
inductive AccountsPath where
  | file
  | tmp
deriving DecidableEq, Repr

/-- `serde_json` for the accounts: `to_string_pretty` and `from_str`. -/
abbrev AccountsJson := Files.Format (List AuthAccount)

/-- The shards of a `DashMap`. An iteration locks one of them at a time. -/
structure Shards where
  count : Nat
  shardOf : Username → Nat
  shardOf_lt : ∀ username, shardOf username < count

namespace JsonFileStorage

/-- The loop of `load_or_create`. -/
def insertAll (loaded : List AuthAccount) : Dict Username AuthAccount :=
  loaded.foldl (fun accounts account => accounts.insert account.username account) ∅

/-- `load_or_create`, with a file that can be read. -/
def loadOrCreate (json : AccountsJson) (disk : FileSystem AccountsPath) :
    Except AuthStorageError JsonFileStorage :=
  match disk.read .file with
  | none => .ok ⟨∅, false⟩
  | some content =>
    match json.fromText content with
    | .ok loaded => .ok ⟨insertAll loaded, false⟩
    | .error message => .error (.serialization message)

/-- The accounts of one shard, in the order of an iteration. -/
def shardAccounts (shards : Shards) (order : Dict.Order Username AuthAccount)
    (storage : JsonFileStorage) (shard : Nat) : List AuthAccount :=
  ((order.iter storage.accounts).filter fun entry => shards.shardOf entry.1 = shard).map Prod.snd

end JsonFileStorage

/-- Where a flush is. -/
inductive Flush where
  /-- It has copied the accounts of the first shards. -/
  | collecting (shard : Nat) (accounts : List AuthAccount)
  | opening (content : List UInt8)
  | writing (writing : Writing)
deriving DecidableEq, Repr

/-- The storage, the disk and the calls under way. -/
structure StorageSystem where
  storage : JsonFileStorage
  disk : FileSystem AccountsPath
  /-- The calls that have changed the map and have yet to set the flag. -/
  unmarked : Nat
  flushes : Dict Nat Flush

namespace StorageSystem

/-- What happens. -/
inductive Label where
  /-- A method changes the map. -/
  | mutate (task : StorageTask)
  | markDirty
  /-- A flush swaps the flag. -/
  | flush (id : Nat)
  /-- A flush copies the accounts of one more shard. -/
  | collect (id : Nat)
  | serialize (id : Nat)
  | openTmp (id : Nat)
  | write (id count : Nat)
  | rename (id : Nat)
  /-- Opening, writing or renaming fails. -/
  | fail (id : Nat)

/-- One step of the calls under way. -/
def step (shards : Shards) (json : AccountsJson) (order : Dict.Order Username AuthAccount)
    (system : StorageSystem) : Label → Option StorageSystem
  | .mutate task =>
    let changed := task.run { system.storage with dirty := false }
    some { system with
      storage := { changed with dirty := system.storage.dirty }
      unmarked := if changed.dirty then system.unmarked + 1 else system.unmarked }
  | .markDirty =>
    if 0 < system.unmarked then
      some { system with
        storage := { system.storage with dirty := true }
        unmarked := system.unmarked - 1 }
    else none
  | .flush id =>
    if (system.flushes.lookup id).isSome then none
    else if system.storage.dirty then
      some { system with
        storage := { system.storage with dirty := false }
        flushes := system.flushes.insert id (.collecting 0 []) }
    else some system
  | .collect id =>
    match system.flushes.lookup id with
    | some (.collecting shard accounts) =>
      if shard < shards.count then
        some { system with
          flushes := system.flushes.insert id (.collecting (shard + 1)
            (accounts ++ system.storage.shardAccounts shards order shard)) }
      else none
    | _ => none
  | .serialize id =>
    match system.flushes.lookup id with
    | some (.collecting shard accounts) =>
      if shard < shards.count then none
      else
        match json.toText accounts with
        | .ok content => some { system with flushes := system.flushes.insert id (.opening content) }
        | .error _ => some { system with flushes := system.flushes.erase id }
    | _ => none
  | .openTmp id =>
    match system.flushes.lookup id with
    | some (.opening content) =>
      let (disk, file) := system.disk.create .tmp
      some { system with
        disk
        flushes := system.flushes.insert id (.writing ⟨file, content, 0⟩) }
    | _ => none
  | .write id count =>
    match system.flushes.lookup id with
    | some (.writing writing) =>
      let (disk, writing) := writing.advance system.disk count
      some { system with disk, flushes := system.flushes.insert id (.writing writing) }
    | _ => none
  | .rename id =>
    match system.flushes.lookup id with
    | some (.writing writing) =>
      if writing.written = writing.content.length then
        -- Without the file, which another flush may have renamed, this is an error.
        some { system with
          disk := (system.disk.rename .tmp .file).getD system.disk
          flushes := system.flushes.erase id }
      else none
    | _ => none
  | .fail id =>
    match system.flushes.lookup id with
    | some (.opening _) | some (.writing _) =>
      some { system with flushes := system.flushes.erase id }
    | _ => none

/-- A step with the accounts visited in some order. -/
def Step (shards : Shards) (json : AccountsJson) (system : StorageSystem) (label : Label)
    (system' : StorageSystem) : Prop :=
  ∃ order, step shards json order system label = some system'

/-- The system when the storage was loaded. -/
def start (storage : JsonFileStorage) (disk : FileSystem AccountsPath) : StorageSystem where
  storage := storage
  disk := disk
  unmarked := 0
  flushes := ∅

end StorageSystem

end Infrarust.Auth
