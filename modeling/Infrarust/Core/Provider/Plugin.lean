import Infrarust.Core.Provider.Docker
import Infrarust.Core.Provider.File

/-!
# `Infrarust.Core.Provider.Plugin`: configurations from plugins, and all providers together

A plugin can be a provider too. It describes a server in the terms of the plugin interface, and
the adapter makes a `ServerConfig` of that, for the initial load as for every later event.

`ProviderSystem` has the three kinds of providers, the channel between them and the event loop,
and the router. The initial loads of the file and Docker providers come before every watcher, and
each is one step. A plugin is activated while the event loop runs, so each configuration of its
initial load is a step. The bound of the channel is left out: a send that waits for room is a send
that comes later.
-/

set_option autoImplicit false

namespace Infrarust

/-! ### The plugin interface -/

/-- The `ProxyMode` of the plugin interface. -/
inductive ApiProxyMode where
  | passthrough
  | zeroCopy
  | clientOnly
  | offline
  | serverOnly
deriving DecidableEq, Repr

/-- The `ServerConfig` of the plugin interface. -/
structure ApiServerConfig where
  id : String
  network : Option String
  addresses : List ServerAddress
  domains : List String
  proxyMode : ApiProxyMode
  limboHandlers : List String
  maxPlayers : UInt32
  disconnectMessage : Option String
  sendProxyProtocol : Bool
  hasServerManager : Bool
deriving DecidableEq, Repr

inductive PluginProviderEvent where
  | added (config : ApiServerConfig)
  | updated (config : ApiServerConfig)
  | removed (serverId : String)
deriving DecidableEq, Repr

/-! ### The adapter -/

/-- The mode of `convert_api_to_config`. -/
def ApiProxyMode.toConfig : ApiProxyMode → ProxyMode
  | passthrough => .passthrough
  | zeroCopy => .zeroCopy
  | clientOnly => .clientOnly
  | offline => .offline
  | serverOnly => .serverOnly

/-- `convert_api_to_config`. That the plugin has a manager for the server is not carried over. -/
def convertApiToConfig (api : ApiServerConfig) : ServerConfig where
  id := some api.id
  name := none
  network := api.network
  domains := api.domains
  addresses := api.addresses
  proxyMode := api.proxyMode.toConfig
  forwardingMode := none
  sendProxyProtocol := api.sendProxyProtocol
  serverManager := none
  timeouts := none
  maxPlayers := api.maxPlayers
  ipFilter := none
  disconnectMessage := api.disconnectMessage
  limboHandlers := api.limboHandlers

/-- The `provider_prefix` of a provider of a plugin. -/
def pluginProviderType (pluginId providerType : String) : String :=
  s!"plugin:{pluginId}:{providerType}"

def makeProviderId (providerType configId : String) : ProviderId := ⟨providerType, configId⟩

/-- The configuration under its id, as `activate_plugin_providers` and the sender make it. -/
def ApiServerConfig.toProviderConfig (providerType : String) (api : ApiServerConfig) :
    ProviderConfig where
  id := makeProviderId providerType api.id
  config := convertApiToConfig api

/-- `PluginProviderSenderImpl::send`, the event that goes into the channel. -/
def PluginProviderEvent.toCore (providerType : String) : PluginProviderEvent → ProviderEvent
  | added config => .added (config.toProviderConfig providerType)
  | updated config => .updated (config.toProviderConfig providerType)
  | removed serverId => .removed (makeProviderId providerType serverId)

/-! ### All providers -/

/-- The router, the channel, and what the watchers keep. -/
structure ProviderSystem where
  router : DomainRouter
  channel : List ProviderEvent
  /-- The map of the file watcher. -/
  fileKnown : Dict OsName ServerConfig
  /-- The events of the last difference that the file watcher has not sent. -/
  fileUnsent : List ProviderEvent
  /-- The map of the Docker provider. -/
  dockerKnown : Dict String ServerConfig

/-- What happens in the system. -/
inductive ProviderLabel where
  /-- The initial load of the file provider. -/
  | fileLoad (dir : Directory)
  /-- The file watcher starts. -/
  | fileWatch (dir : Directory)
  /-- A debounced scan of the directory. -/
  | fileScan (currentOrder : Dict.Order OsName (Option ServerConfig))
      (knownOrder : Dict.Order OsName ServerConfig) (dir : Directory)
  | fileSend
  /-- The initial load of the Docker provider, with what the inspections have shown. -/
  | dockerLoad (inspected : List (String × ContainerInfo))
  /-- A container is inspected, in a resynchronisation or after an event. -/
  | dockerInspect (name : String) (info : ContainerInfo)
  /-- A container is gone. -/
  | dockerGone (name : String)
  /-- One configuration of the initial load of a plugin's provider. -/
  | pluginLoad (pluginId providerType : String) (config : ApiServerConfig)
  | pluginSend (pluginId providerType : String) (event : PluginProviderEvent)
  /-- One turn of the event loop. -/
  | handle

namespace ProviderSystem

/-- The system before it starts. -/
def init : ProviderSystem where
  router := .new
  channel := []
  fileKnown := ∅
  fileUnsent := []
  dockerKnown := ∅

/-- An event is sent. -/
def send (s : ProviderSystem) (event : ProviderEvent) : ProviderSystem :=
  { s with channel := s.channel ++ [event] }

/-- The event with which the Docker provider tells about a configuration. -/
def dockerEvent (known : Dict String ServerConfig) (pc : ProviderConfig) : ProviderEvent :=
  (if (known.lookup pc.id.uniqueId).isSome then ProviderEvent.updated else .added) pc

/-- The Docker provider learns about a configuration. -/
def dockerLearn (s : ProviderSystem) (pc : ProviderConfig) : ProviderSystem :=
  { s.send (dockerEvent s.dockerKnown pc) with
    dockerKnown := s.dockerKnown.insert pc.id.uniqueId pc.config }

variable (parse : String → Option ServerConfig)
variable (toConfig : String → ContainerInfo → ServerConfig)
variable (strings : Strings)

/-- The steps of the system. -/
def Step (s : ProviderSystem) (label : ProviderLabel) (s' : ProviderSystem) : Prop :=
  match label with
  | .fileLoad dir =>
    ∃ router, Machine.Run (EventStep strings) s.router ((doLoadInitial parse dir).map .added) router
      ∧ s' = { s with router }
  | .fileWatch dir => s' = { s with fileKnown := initialKnown parse dir }
  | .fileScan currentOrder knownOrder dir =>
    let (events, known) := computeDiff parse currentOrder knownOrder dir s.fileKnown
    s.fileUnsent = [] ∧ s' = { s with fileUnsent := events, fileKnown := known }
  | .fileSend =>
    ∃ event unsent, s.fileUnsent = event :: unsent ∧ s' = { s.send event with fileUnsent := unsent }
  | .dockerLoad inspected =>
    let configs := inspected.filterMap fun (name, info) => inspectAndBuild toConfig name info
    ∃ router, Machine.Run (EventStep strings) s.router (configs.map .added) router ∧
      s' = { s with
        router
        dockerKnown := configs.foldl (fun known pc => known.insert pc.id.uniqueId pc.config)
          s.dockerKnown }
  | .dockerInspect name info =>
    match inspectAndBuild toConfig name info with
    | none => s' = s
    | some pc => s' = s.dockerLearn pc
  | .dockerGone name =>
    if (s.dockerKnown.lookup name).isSome then
      s' = { s.send (.removed (.docker name)) with dockerKnown := s.dockerKnown.erase name }
    else s' = s
  | .pluginLoad pluginId providerType config =>
    ∃ router, EventStep strings s.router
        (.added (config.toProviderConfig (pluginProviderType pluginId providerType))) router ∧
      s' = { s with router }
  | .pluginSend pluginId providerType event =>
    s' = s.send (event.toCore (pluginProviderType pluginId providerType))
  | .handle =>
    ∃ event rest router, s.channel = event :: rest ∧ EventStep strings s.router event router ∧
      s' = { s with router, channel := rest }

end ProviderSystem

end Infrarust
