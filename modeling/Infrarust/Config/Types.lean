import Mathlib.Init

/-!
# `Infrarust.Config.Types`: the types of the configuration files

The settings a server file can hold, as `infrarust_config` declares them. Durations are in
milliseconds and addresses are numbers of the width of their family.
-/

set_option autoImplicit false

namespace Infrarust

inductive ProxyMode where
  | passthrough
  | zeroCopy
  | clientOnly
  | offline
  | serverOnly
  | full
deriving DecidableEq, Repr

def ProxyMode.isIntercepted : ProxyMode → Bool
  | clientOnly | offline | full => true
  | _ => false

def ProxyMode.isForwarding : ProxyMode → Bool
  | passthrough | zeroCopy | serverOnly => true
  | _ => false

/-- The `Debug` text of a mode. -/
def ProxyMode.debug : ProxyMode → String
  | passthrough => "Passthrough"
  | zeroCopy => "ZeroCopy"
  | clientOnly => "ClientOnly"
  | offline => "Offline"
  | serverOnly => "ServerOnly"
  | full => "Full"

structure ServerAddress where
  host : String
  port : UInt16
deriving DecidableEq, Repr

inductive DomainRewrite where
  | none
  | explicit (domain : String)
  | fromBackend
deriving DecidableEq, Repr

inductive ForwardingMode where
  | none
  | bungeeCord
  | bungeeGuard
  | velocity
deriving DecidableEq, Repr

inductive IpAddr where
  | v4 (bits : BitVec 32)
  | v6 (bits : BitVec 128)
deriving DecidableEq, Repr

structure SocketAddr where
  ip : IpAddr
  port : UInt16
deriving DecidableEq, Repr

/-- `IpNet`: an address and the number of its leading bits that count. -/
structure IpNet where
  addr : IpAddr
  len : Nat
deriving DecidableEq, Repr

/-- `IpNet::contains`: same family and the same leading bits. -/
def IpNet.contains (net : IpNet) (ip : IpAddr) : Bool :=
  match net.addr, ip with
  | .v4 a, .v4 b => a >>> (32 - net.len) = b >>> (32 - net.len)
  | .v6 a, .v6 b => a >>> (128 - net.len) = b >>> (128 - net.len)
  | _, _ => false

structure IpFilterConfig where
  whitelist : List IpNet
  blacklist : List IpNet
deriving DecidableEq, Repr

def IpFilterConfig.isAllowed (filter : IpFilterConfig) (ip : IpAddr) : Bool :=
  if filter.blacklist.any (·.contains ip) then false
  else if filter.whitelist.isEmpty then true
  else filter.whitelist.any (·.contains ip)

structure MotdEntry where
  text : String
  favicon : Option String
  versionName : Option String
  maxPlayers : Option UInt32
deriving DecidableEq, Repr

/-- `MotdConfig`: one entry per server state. -/
structure MotdConfig where
  online : Option MotdEntry := none
  offline : Option MotdEntry := none
  sleeping : Option MotdEntry := none
  starting : Option MotdEntry := none
  crashed : Option MotdEntry := none
  stopping : Option MotdEntry := none
  unreachable : Option MotdEntry := none
deriving DecidableEq, Repr

structure TimeoutConfig where
  connect : Nat
  read : Nat
  write : Nat
deriving DecidableEq, Repr

structure LocalManagerConfig where
  command : String
  workingDir : String
  args : List String
  readyPattern : String
  shutdownTimeout : Nat
  shutdownAfter : Option Nat
  startTimeout : Nat
deriving DecidableEq, Repr

/-- `PterodactylManagerConfig` and `CraftyManagerConfig`, which have the same fields. -/
structure RemoteManagerConfig where
  apiUrl : String
  apiKey : String
  serverId : String
  shutdownAfter : Option Nat
  startTimeout : Nat
  pollInterval : Nat
deriving DecidableEq, Repr

inductive ServerManagerConfig where
  | «local» (config : LocalManagerConfig)
  | pterodactyl (config : RemoteManagerConfig)
  | crafty (config : RemoteManagerConfig)
deriving DecidableEq, Repr

/-- `ServerState` of the server manager. -/
inductive ServerState where
  | online
  | sleeping
  | starting
  | stopping
  | crashed
  | unknown
deriving DecidableEq, Repr

end Infrarust
