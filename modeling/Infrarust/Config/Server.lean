import Infrarust.Config.Types
import Infrarust.Lib.Text

/-!
# `Infrarust.Config.Server`: a server file and its validation

`ServerConfig` is what a `.toml` file of the servers directory deserializes into. Every
provider checks a configuration with `validateServerConfig` before it hands it on.
-/

set_option autoImplicit false

namespace Infrarust

/-- `ServerConfig`, with the defaults a file may rely on. -/
structure ServerConfig where
  id : Option String := none
  name : Option String := none
  network : Option String := none
  domains : List String := []
  addresses : List ServerAddress
  proxyMode : ProxyMode := .passthrough
  forwardingMode : Option ForwardingMode := none
  sendProxyProtocol : Bool := false
  domainRewrite : DomainRewrite := .none
  motd : MotdConfig := {}
  serverManager : Option ServerManagerConfig := none
  timeouts : Option TimeoutConfig := none
  maxPlayers : UInt32 := 0
  ipFilter : Option IpFilterConfig := none
  disconnectMessage : Option String := none
  limboHandlers : List String := []
deriving DecidableEq, Repr

def ServerConfig.effectiveId (config : ServerConfig) : String :=
  (config.name.or config.id).getD "unknown"

def ServerConfig.effectiveDisconnectMessage (config : ServerConfig) : String :=
  config.disconnectMessage.getD "Server is currently unreachable. Please try again later."

/-- `ConfigError`, the cases that loading one server file can return. The path and the
cause in `readFile` and `parseToml` are only printed and left out. -/
inductive ConfigError where
  | readFile
  | parseToml
  | noDomains (id : String) (proxyMode : ProxyMode)
  | noAddresses (id : String)
  | validation (message : String)
deriving DecidableEq, Repr

def validateIdentifier (value field serverId : String) : Except ConfigError Unit := do
  if value.isEmpty then
    throw (.validation s!"server '{serverId}': {field} must not be empty")
  if Text.byteLen value.toList > 64 then
    throw (.validation s!"server '{serverId}': {field} must be at most 64 characters")
  unless value.toList.all fun c => c.isLower || c.isDigit || c = '_' || c = '-' do
    throw (.validation (s!"server '{serverId}': {field} '{value}' contains invalid characters " ++
      "(allowed: a-z, 0-9, _, -)"))

def validateServerConfig (config : ServerConfig) : Except ConfigError Unit := do
  let id := config.effectiveId
  if config.proxyMode.isForwarding then
    if config.domains.isEmpty then
      throw (.noDomains id config.proxyMode)
    if config.network.isSome then
      throw (.validation (s!"server '{id}' uses {config.proxyMode.debug} mode which cannot " ++
        "belong to a network (forwarding modes don't support server switching)"))
  if config.addresses.isEmpty then
    throw (.noAddresses id)
  for domain in config.domains do
    if (Text.trim domain).isEmpty then
      throw (.validation s!"server config {id} has an empty domain")
  if let some name := config.name then
    validateIdentifier name "name" id
  if let some network := config.network then
    validateIdentifier network "network" id

end Infrarust
