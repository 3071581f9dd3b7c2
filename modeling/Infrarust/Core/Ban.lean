import Infrarust.Core.Bridge
import Infrarust.Core.ConnectionRegistry
import Infrarust.Core.Routing.DomainRouter

/-!
# `Infrarust.Core.Ban`: bans and their storage

The storage has one map for each kind of target. A lookup that meets an expired entry removes
it. Times are seconds since the epoch, and the current one is an argument.
-/

set_option autoImplicit false

namespace Infrarust

inductive BanTarget where
  | ip (addr : IpAddr)
  | username (name : String)
  | uuid (uuid : Uuid)
deriving DecidableEq, Repr

structure BanEntry where
  target : BanTarget
  reason : Option String
  expiresAt : Option Nat
  createdAt : Nat
  source : String
deriving DecidableEq, Repr

namespace BanEntry

variable (entry : BanEntry) (now : Nat)

def isExpired : Bool := entry.expiresAt.any (now ≥ ·)

def remaining : Option Nat :=
  entry.expiresAt.bind fun exp => if now ≤ exp then some (exp - now) else none

def kickMessage : String :=
  let reason := entry.reason.getD "Banned by administrator"
  match entry.remaining now with
  | none => s!"{reason}\n\nThis ban is permanent."
  | some secs =>
    let hours := secs / 3600
    let minutes := secs % 3600 / 60
    if hours > 24 then s!"{reason}\n\nExpires in {hours / 24} day(s)"
    else if hours > 0 then s!"{reason}\n\nExpires in {hours}h {minutes}m"
    else s!"{reason}\n\nExpires in {minutes} minute(s)"

end BanEntry

/-- `FileBanStorage`, its three indexes. -/
structure FileBanStorage where
  ipBans : Dict IpAddr BanEntry
  usernameBans : Dict String BanEntry
  uuidBans : Dict Uuid BanEntry

namespace FileBanStorage

variable (strings : Strings) (storage : FileBanStorage)

def new : FileBanStorage := { ipBans := ∅, usernameBans := ∅, uuidBans := ∅ }

/-- The entry under a target, expired or not. -/
def find : BanTarget → Option BanEntry
  | .ip addr => storage.ipBans.lookup addr
  | .username name => storage.usernameBans.lookup (strings.toLowercase name)
  | .uuid uuid => storage.uuidBans.lookup uuid

def erase : BanTarget → FileBanStorage
  | .ip addr => { storage with ipBans := storage.ipBans.erase addr }
  | .username name =>
    { storage with usernameBans := storage.usernameBans.erase (strings.toLowercase name) }
  | .uuid uuid => { storage with uuidBans := storage.uuidBans.erase uuid }

/-- The maps after `add_ban`. -/
def addBan (entry : BanEntry) : FileBanStorage :=
  match entry.target with
  | .ip addr => { storage with ipBans := storage.ipBans.insert addr entry }
  | .username name =>
    { storage with
      usernameBans := storage.usernameBans.insert (strings.toLowercase name) entry }
  | .uuid uuid => { storage with uuidBans := storage.uuidBans.insert uuid entry }

/-- `is_banned`. The removal of an expired entry is written to the file, with the result
`persist`. -/
def isBanned (now : Nat) (persist : Except CoreError Unit) (target : BanTarget) :
    Except CoreError (Option BanEntry) × FileBanStorage :=
  match storage.find strings target with
  | none => (.ok none, storage)
  | some entry =>
    if entry.isExpired now then (persist.map fun _ => none, storage.erase strings target)
    else (.ok (some entry), storage)

/-- One of the three checks of `check_player`. -/
def checkTarget (now : Nat) (target : BanTarget) : Option BanEntry × FileBanStorage :=
  match storage.find strings target with
  | none => (none, storage)
  | some entry =>
    if entry.isExpired now then (none, storage.erase strings target) else (some entry, storage)

def checkPlayer (now : Nat) (ip : IpAddr) (username : String) (uuid : Option Uuid) :
    Option BanEntry × FileBanStorage :=
  match storage.checkTarget strings now (.ip ip) with
  | (some entry, storage) => (some entry, storage)
  -- each check sees the storage that the one before has cleaned up
  | (none, storage) =>
    match storage.checkTarget strings now (.username username) with
    | (some entry, storage) => (some entry, storage)
    | (none, storage) =>
      match uuid with
      | some uuid => storage.checkTarget strings now (.uuid uuid)
      | none => (none, storage)

end FileBanStorage

end Infrarust
