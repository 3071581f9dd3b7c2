import Infrarust.Core.Ban

/-!
# `Infrarust.Core.BanManager`: a ban while players log in

`BanManager::ban` puts an entry into the storage, writes the file, and cancels the sessions
it finds in the registry. A login asks the storage first and registers its session later,
after it has connected to a server. The two run at the same time: `BanSystem.next` takes one
access to a shared map as one step. The registry and the handlers of the sessions are those
of `Lifetimes`.
-/

set_option autoImplicit false

namespace Infrarust

/-- `ConnectionRegistry::find_by_ip`, with the addresses of the sessions by handle. -/
def ConnectionRegistry.findByIp (order : Dict.Order Uuid PlayerSession)
    (remoteAddr : Dict Nat IpAddr) (registry : ConnectionRegistry) (ip : IpAddr) :
    List PlayerSession :=
  (registry.all order).filter fun session => remoteAddr.lookup session.handle = some ip

def ConnectionRegistry.findByUuid (registry : ConnectionRegistry) (uuid : Uuid) :
    Option PlayerSession :=
  registry.get uuid

/-- The `sessions_to_kick` of `BanManager::ban`. -/
def sessionsToKick (order : Dict.Order Uuid PlayerSession) (remoteAddr : Dict Nat IpAddr)
    (registry : ConnectionRegistry) : BanTarget → List PlayerSession
  | .ip ip => registry.findByIp order remoteAddr ip
  | .username name => (registry.findByUsername order name).toList
  | .uuid uuid => (registry.findByUuid uuid).toList

/-- A login at its last look at the bans. -/
structure Login where
  /-- The address of the player, which a proxy in front may have announced. -/
  clientIp : IpAddr
  /-- The other end of the TCP connection, which becomes the session's `remote_addr`. -/
  peerIp : IpAddr
  profile : GameProfile
  /-- An intercepted login is checked with the UUID of its profile. A passthrough login is
  checked before it has one. -/
  intercepted : Bool
deriving DecidableEq, Repr

/-- The UUID that `check_player` is asked about. -/
def Login.checkedUuid (login : Login) : Option Uuid :=
  if login.intercepted then some login.profile.uuid else none

/-- Where a call of `BanManager::ban` is. -/
inductive BanCall where
  | pending
  /-- In `add_ban`, after the insertion into the map. -/
  | inserted
  /-- In the loop over `sessions_to_kick`, with the sessions that are left. -/
  | kicking (left : List PlayerSession)
  | returned
deriving DecidableEq, Repr

structure BanSystem where
  now : Nat
  storage : FileBanStorage
  lifetimes : Lifetimes
  remoteAddr : Dict Nat IpAddr
  /-- The logins that have passed their check and have no session yet. -/
  checked : List Login
  ban : BanCall

inductive BanEvent where
  /-- A second passes. -/
  | tick
  /-- A login asks `check_player`. -/
  | check (login : Login)
  /-- A login that has passed creates its session. -/
  | create (login : Login) (permissionChecker : PermissionChecker)
  /-- A login that has passed is given up. -/
  | abandon (login : Login)
  /-- The next step of the handler of a session. -/
  | handler (handle : Nat)
  /-- `ban` inserts its entry. -/
  | insert
  /-- `ban` has the result of writing the file, and looks for sessions. -/
  | kick (order : Dict.Order Uuid PlayerSession) (persist : Except CoreError Unit)
  /-- `ban` cancels the next session, or returns. -/
  | cancelNext

namespace BanSystem

variable (strings : Strings) (entry : BanEntry)

def new (now : Nat) (storage : FileBanStorage) : BanSystem where
  now := now
  storage := storage
  lifetimes := .new
  remoteAddr := ∅
  checked := []
  ban := .pending

/-- One access of a login, of the handler of a session or of `ban`, whose entry is `entry`. -/
def next (s : BanSystem) : BanEvent → Option BanSystem
  | .tick => some { s with now := s.now + 1 }
  | .check login =>
    let answer := s.storage.checkPlayer strings s.now login.clientIp login.profile.username
      login.checkedUuid
    some { s with
      storage := answer.2
      checked := if answer.1.isSome then s.checked else login :: s.checked }
  -- the bans are not looked at again
  | .create login permissionChecker =>
    if login ∈ s.checked then do
      let lifetimes ← s.lifetimes.next (.create login.profile login.intercepted permissionChecker)
      some { s with
        lifetimes := lifetimes
        remoteAddr := s.remoteAddr.insert s.lifetimes.count login.peerIp
        checked := s.checked.erase login }
    else none
  | .abandon login => some { s with checked := s.checked.erase login }
  | .handler handle => do
    let lifetimes ← s.lifetimes.next (.step handle)
    some { s with lifetimes := lifetimes }
  | .insert =>
    match s.ban with
    | .pending => some { s with storage := s.storage.addBan strings entry, ban := .inserted }
    | _ => none
  | .kick order persist =>
    match s.ban, persist with
    | .inserted, .ok () =>
      let sessions := sessionsToKick order s.remoteAddr s.lifetimes.store.registry entry.target
      some { s with ban := .kicking sessions }
    | .inserted, .error _ => some { s with ban := .returned }
    | _, _ => none
  | .cancelNext =>
    match s.ban with
    | .kicking (session :: left) =>
      some { s with
        lifetimes.store := s.lifetimes.store.cancel session
        ban := .kicking left }
    | .kicking [] => some { s with ban := .returned }
    | _ => none

end BanSystem

end Infrarust
