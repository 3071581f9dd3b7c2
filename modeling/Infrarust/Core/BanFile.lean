import Infrarust.Core.Ban

/-!
# `Infrarust.Core.BanFile`: the file of the bans, the audit log and the clean-up

In this module times are nanoseconds since the epoch. An addition that panics has no result. The
clean-up of expired entries tests an entry and removes the key later: `BanCleanup.next` takes one
access to a map as one step.
-/

set_option autoImplicit false

namespace Infrarust

/-! ### Times -/

/-- `SystemTime + Duration`, which panics if the seconds do not fit into an `i64`. -/
def addDuration (time duration : Nat) : Option Nat :=
  if (time + duration) / 1000000000 < 2 ^ 63 then some (time + duration) else none

def BanEntry.new (now : Nat) (target : BanTarget) (reason : Option String)
    (duration : Option Nat) (source : String) : Option BanEntry := do
  let expiresAt ← duration.mapM (addDuration now)
  return { target, reason, expiresAt, createdAt := now, source }

/-- `parse_duration_arg`, with `humantime::parse_duration`. -/
def parseDurationArg (strings : Strings) (humantime : String → Except String Nat) (arg : String) :
    Except String (Option Nat) :=
  let lower := strings.toLowercase arg
  if lower = "permanent" ∨ lower = "perm" then .ok none
  else
    match humantime arg with
    | .ok duration => .ok (some duration)
    | .error e => .error s!"Invalid duration '{arg}': {e}"

/-! ### The file -/

inductive BanAction where
  | ban
  | unban
  | expired
deriving DecidableEq, Repr

/-- `BanAuditLogEntry`, with the time as the file or as the memory has it. -/
structure BanAuditLogEntry (Time : Type) where
  action : BanAction
  target : BanTarget
  reason : Option String
  source : String
  timestamp : Time
deriving DecidableEq, Repr

/-- A `BanEntry` in the file, with seconds since the epoch. -/
structure StoredBan where
  target : BanTarget
  reason : Option String
  expiresAt : Option UInt64
  createdAt : UInt64
  source : String

/-- `BanFileData`, as serde reads it. -/
structure BanFileData where
  bans : List StoredBan
  auditLog : List (BanAuditLogEntry UInt64)

/-- `epoch_serde::deserialize`. -/
def timeOfEpoch (epoch : UInt64) : Option Nat := addDuration 0 (epoch.toNat * 1000000000)

def StoredBan.toEntry (stored : StoredBan) : Option BanEntry := do
  let expiresAt ← stored.expiresAt.mapM timeOfEpoch
  let createdAt ← timeOfEpoch stored.createdAt
  return { target := stored.target, reason := stored.reason, expiresAt, createdAt
           source := stored.source }

/-- `serde_json::from_str` of a valid file. -/
def BanFileData.read (file : BanFileData) :
    Option (List BanEntry × List (BanAuditLogEntry Nat)) := do
  let bans ← file.bans.mapM StoredBan.toEntry
  let auditLog ← file.auditLog.mapM fun entry => do
    let timestamp ← timeOfEpoch entry.timestamp
    return { entry with timestamp }
  return (bans, auditLog)

/-! ### The audit log -/

/-- The key of a target in its map. -/
def BanTarget.key (strings : Strings) : BanTarget → BanTarget
  | .username name => .username (strings.toLowercase name)
  | target => target

/-- The orders in which the three maps are traversed. -/
structure BanOrders where
  ips : Dict.Order IpAddr BanEntry
  usernames : Dict.Order String BanEntry
  uuids : Dict.Order Uuid BanEntry

/-- The three maps. -/
inductive BanKind where
  | ip
  | username
  | uuid

namespace FileBanStorage

variable (storage : FileBanStorage)

/-- The entry under a key, which is a target with the name in lower case. -/
def entryAt : BanTarget → Option BanEntry
  | .ip addr => storage.ipBans.lookup addr
  | .username name => storage.usernameBans.lookup name
  | .uuid uuid => storage.uuidBans.lookup uuid

def eraseAt : BanTarget → FileBanStorage
  | .ip addr => { storage with ipBans := storage.ipBans.erase addr }
  | .username name => { storage with usernameBans := storage.usernameBans.erase name }
  | .uuid uuid => { storage with uuidBans := storage.uuidBans.erase uuid }

/-- The keys that `purge_expired` collects from one of the maps. -/
def expiredKeys (orders : BanOrders) (now : Nat) : BanKind → List BanTarget
  | .ip => ((orders.ips.iter storage.ipBans).filter (·.2.isExpired now)).map (.ip ·.1)
  | .username =>
    ((orders.usernames.iter storage.usernameBans).filter (·.2.isExpired now)).map (.username ·.1)
  | .uuid => ((orders.uuids.iter storage.uuidBans).filter (·.2.isExpired now)).map (.uuid ·.1)

end FileBanStorage

def MAX_AUDIT_LOG_ENTRIES : Nat := 10000

def addAuditEntry (log : List (BanAuditLogEntry Nat)) (entry : BanAuditLogEntry Nat) :
    List (BanAuditLogEntry Nat) :=
  let log := log ++ [entry]
  if log.length > MAX_AUDIT_LOG_ENTRIES then log.drop (log.length - MAX_AUDIT_LOG_ENTRIES) else log

/-- `FileBanStorage` with its log. -/
structure BanStore where
  storage : FileBanStorage
  auditLog : List (BanAuditLogEntry Nat)

/-- The calls of `BanStorage` that change it. A file that is missing or corrupt is `none`. -/
inductive BanStoreCall where
  | load (file : Option BanFileData)
  | addBan (entry : BanEntry) (now : Nat)
  | removeBan (target : BanTarget) (now : Nat)
  | purgeExpired (orders : BanOrders) (now : Nat)

namespace BanStore

variable (strings : Strings)

def new : BanStore := ⟨.new, []⟩

/-- The entries that `purge_expired` adds to the log. -/
def purged (orders : BanOrders) (now : Nat) (s : BanStore) : List (BanAuditLogEntry Nat) :=
  ([.ip, .username, .uuid].flatMap (s.storage.expiredKeys orders now)).map fun target =>
    ⟨.expired, target, none, "system", now⟩

def next (s : BanStore) : BanStoreCall → Option BanStore
  | .load none => some s
  | .load (some file) => do
    let (bans, auditLog) ← file.read
    return { storage := bans.foldl (fun storage entry => storage.addBan strings entry) s.storage
             auditLog }
  | .addBan entry now =>
    some { storage := s.storage.addBan strings entry
           auditLog := addAuditEntry s.auditLog
             ⟨.ban, entry.target, entry.reason, entry.source, now⟩ }
  | .removeBan target now =>
    if (s.storage.find strings target).isSome then
      some { storage := s.storage.erase strings target
             auditLog := addAuditEntry s.auditLog ⟨.unban, target, none, "", now⟩ }
    else some s
  | .purgeExpired orders now =>
    -- the log is not cut here
    some { storage := (s.purged orders now).foldl (fun storage e => storage.eraseAt e.target)
             s.storage
           auditLog := s.auditLog ++ s.purged orders now }

end BanStore

/-! ### The clean-up while calls overlap -/

/-- The storage, and the keys that some call has found expired and is about to remove. -/
structure BanCleanup where
  storage : FileBanStorage
  now : Nat
  doomed : List BanTarget
  /-- The ban that was added last under a key and not removed by `remove_ban`. -/
  added : BanTarget → Option BanEntry

/-- An access to one of the maps. -/
inductive BanAccess where
  | addBan (entry : BanEntry)
  | removeBan (target : BanTarget)
  /-- `is_banned` and `check_player` look at an entry. -/
  | test (target : BanTarget)
  /-- `purge_expired` collects the keys of a map. -/
  | collect (orders : BanOrders) (kind : BanKind)
  /-- One of these calls removes a key. -/
  | clean (key : BanTarget)
  | tick

namespace BanCleanup

variable (strings : Strings)

def init (now : Nat) : BanCleanup := ⟨.new, now, [], fun _ => none⟩

def next (s : BanCleanup) : BanAccess → Option BanCleanup
  | .addBan entry =>
    some { s with
      storage := s.storage.addBan strings entry
      added := Function.update s.added (entry.target.key strings) (some entry) }
  | .removeBan target =>
    some { s with
      storage := s.storage.erase strings target
      added := Function.update s.added (target.key strings) none }
  | .test target =>
    if (s.storage.find strings target).any (·.isExpired s.now) then
      some { s with doomed := target.key strings :: s.doomed }
    else some s
  | .collect orders kind =>
    some { s with doomed := s.storage.expiredKeys orders s.now kind ++ s.doomed }
  | .clean key =>
    if key ∈ s.doomed then
      some { s with storage := s.storage.eraseAt key, doomed := s.doomed.erase key }
    else none
  | .tick => some { s with now := s.now + 1 }

end BanCleanup

end Infrarust
