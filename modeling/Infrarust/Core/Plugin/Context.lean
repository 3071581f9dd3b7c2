import Infrarust.Core.EventBus
import Infrarust.Core.Filter.Registry
import Infrarust.Core.Provider.Plugin
import Infrarust.Core.Services.CommandManager
import Infrarust.Core.Services.Scheduler

/-!
# `Infrarust.Core.Plugin.Context`: what plugins register, and the cleanup

A plugin registers listeners, commands, tasks, filters, limbo handlers and config providers through
its `PluginContextImpl`. The wrappers of `tracking.rs` record the handles of listeners and tasks and
the names of commands; filters go straight into the registries. Limbo handlers and providers wait
in the context until the proxy takes them over: handlers into the limbo registry, and providers
into the router, with the ids of the initial load and the token of the watch recorded in the
context. `cleanup` undoes what is recorded.

`PluginHost` has the contexts of all plugins, by id, and the services that they share. An object
that a plugin hands over is the plugin's id and a place in memory.
-/

set_option autoImplicit false

namespace Infrarust

/-! ### The objects of plugins -/

/-- The capabilities that a context asks for. -/
inductive Capability where
  | codecFilter
  | transportFilter
  | limbo
deriving DecidableEq, Repr

/-- An object that was made by a plugin: a listener, a task or a limbo handler. -/
structure PluginObject where
  owner : String
  handle : Nat
deriving DecidableEq, Repr

/-- A filter that was made by a plugin. -/
structure PluginFilter where
  owner : String
  metadata : FilterMetadata
deriving DecidableEq, Repr

instance : HasFilterMetadata PluginFilter := ⟨PluginFilter.metadata⟩

/-- A `LimboHandler`. -/
structure LimboHandler where
  name : String
  handle : Nat
deriving DecidableEq, Repr

/-- A `PluginConfigProvider`, with the answer to the initial load. -/
structure PluginConfigProvider where
  providerType : String
  loadInitial : Except String (List ApiServerConfig)

/-- `PluginContextImpl`: what waits in the context and what it has recorded. -/
structure PluginContext where
  capabilities : List Capability
  limboHandlers : List LimboHandler
  configProviders : List PluginConfigProvider
  registeredHandles : List Nat
  registeredCommands : List String
  registeredTasks : List Nat
  registeredProviderIds : List ProviderId
  registeredProviderTokens : List Nat

def PluginContext.new (capabilities : List Capability) : PluginContext where
  capabilities := capabilities
  limboHandlers := []
  configProviders := []
  registeredHandles := []
  registeredCommands := []
  registeredTasks := []
  registeredProviderIds := []
  registeredProviderTokens := []

/-- The task that runs the `watch` of a provider. -/
structure Watcher where
  owner : String
  /-- The type that the ids of its configurations have. -/
  idType : String
  token : Nat
deriving DecidableEq, Repr

/-- The contexts and the services that they share. -/
structure PluginHost where
  bus : EventBus PluginObject
  commands : CommandManager
  scheduler : Scheduler PluginObject
  codecFilters : FilterRegistry PluginFilter
  transportFilters : FilterRegistry PluginFilter
  /-- `LimboHandlerRegistry`. -/
  limboHandlers : Dict String PluginObject
  router : DomainRouter
  channel : List ProviderEvent
  watchers : List Watcher
  /-- The tokens that were cancelled. -/
  cancelled : List Nat
  nextToken : Nat
  contexts : String → PluginContext

/-! ### What a plugin does -/

/-- A call through the context. -/
inductive ContextOp where
  | subscribe (eventType : EventType) (priority : UInt8) (async : Bool) (handler : Nat)
  | subscribePacket (filter : PacketKey) (priority : UInt8) (async : Bool) (handler : Nat)
  | unsubscribe (handle : Nat)
  | registerCommand (name : String) (aliases : List String) (description : String) (handler : Nat)
  | unregisterCommand (name : String)
  | schedule (timing : TaskTiming) (task : Nat)
  | cancelTask (handle : Nat)
  | registerCodecFilter (metadata : FilterMetadata)
  | unregisterCodecFilter (filterId : String)
  | registerTransportFilter (metadata : FilterMetadata)
  | unregisterTransportFilter (filterId : String)
  | registerLimboHandler (handler : LimboHandler)
  | registerConfigProvider (provider : PluginConfigProvider)

/-- The orders in which the maps are visited. -/
structure HostOrders where
  bus : EventBus.Orders PluginObject
  configs : ConfigOrder

/-- The maps visited in the order of their entries. -/
def HostOrders.entries : HostOrders := ⟨⟨.entries, .entries⟩, .entries⟩

def HandlerKind.ofPlugin (pluginId : String) (async : Bool) (handler : Nat) :
    HandlerKind PluginObject :=
  if async then .async ⟨pluginId, handler⟩ else .sync ⟨pluginId, handler⟩

namespace PluginHost

def setContext (host : PluginHost) (pluginId : String) (context : PluginContext) : PluginHost :=
  { host with contexts := Function.update host.contexts pluginId context }

/-- `TrackingEventBus::track`. -/
def trackHandle (host : PluginHost) (pluginId : String) (handle : Nat) : PluginHost :=
  let context := host.contexts pluginId
  host.setContext pluginId
    { context with registeredHandles := context.registeredHandles ++ [handle] }

/-- `TrackingCommandManager::register`. The name is recorded whether or not the command was
accepted. -/
def registerCommand (strings : Strings) (host : PluginHost) (pluginId name : String)
    (aliases : List String) (description : String) (handler : Nat) : PluginHost :=
  let context := host.contexts pluginId
  { host with
    commands := host.commands.registerWithPluginId strings name aliases description
      (.plugin handler) pluginId }.setContext pluginId
    { context with registeredCommands := context.registeredCommands ++ [name] }

/-- The methods of `TrackingScheduler` that schedule a task. -/
def schedule (host : PluginHost) (pluginId : String) (timing : TaskTiming) (task : Nat) :
    PluginHost :=
  let context := host.contexts pluginId
  let (scheduler, handle) := host.scheduler.schedule ⟨timing, ⟨pluginId, task⟩⟩
  { host with scheduler }.setContext pluginId
    { context with registeredTasks := context.registeredTasks ++ [handle] }

variable (strings : Strings)
variable (resolveFilterOrder : List FilterMetadata → Except String (List String))

variable (orders : HostOrders) (host : PluginHost) (pluginId : String)

/-- A call through the context of a plugin. Without the capability, the filter registries are not
handed out, and a limbo handler is dropped. -/
def perform :
    ContextOp → PluginHost
  | .subscribe eventType priority async handler =>
    let (bus, handle) := host.bus.subscribe eventType priority (.ofPlugin pluginId async handler)
    { host with bus }.trackHandle pluginId handle
  | .subscribePacket filter priority async handler =>
    let (bus, handle) := host.bus.subscribePacket filter priority (.ofPlugin pluginId async handler)
    { host with bus }.trackHandle pluginId handle
  | .unsubscribe handle => { host with bus := host.bus.unsubscribe orders.bus handle }
  | .registerCommand name aliases description handler =>
    host.registerCommand strings pluginId name aliases description handler
  | .unregisterCommand name => { host with commands := host.commands.unregister strings name }
  | .schedule timing task => host.schedule pluginId timing task
  | .cancelTask handle => { host with scheduler := host.scheduler.cancel handle }
  | .registerCodecFilter metadata =>
    if .codecFilter ∈ (host.contexts pluginId).capabilities then
      { host with
        codecFilters := host.codecFilters.register resolveFilterOrder ⟨pluginId, metadata⟩ }
    else host
  | .unregisterCodecFilter filterId =>
    if .codecFilter ∈ (host.contexts pluginId).capabilities then
      { host with codecFilters := host.codecFilters.unregister resolveFilterOrder filterId }
    else host
  | .registerTransportFilter metadata =>
    if .transportFilter ∈ (host.contexts pluginId).capabilities then
      { host with
        transportFilters := host.transportFilters.register resolveFilterOrder ⟨pluginId, metadata⟩ }
    else host
  | .unregisterTransportFilter filterId =>
    if .transportFilter ∈ (host.contexts pluginId).capabilities then
      { host with
        transportFilters := host.transportFilters.unregister resolveFilterOrder filterId }
    else host
  | .registerLimboHandler handler =>
    let context := host.contexts pluginId
    if .limbo ∈ context.capabilities then
      host.setContext pluginId { context with limboHandlers := context.limboHandlers ++ [handler] }
    else host
  | .registerConfigProvider provider =>
    let context := host.contexts pluginId
    host.setContext pluginId
      { context with configProviders := context.configProviders ++ [provider] }

/-! ### What the proxy does -/

/-- `take_limbo_handlers`, and the registration in `main`. -/
def collectLimboHandlers : PluginHost :=
  let context := host.contexts pluginId
  let registry := context.limboHandlers.foldl
    (fun registry handler => registry.insert handler.name ⟨pluginId, handler.handle⟩)
    host.limboHandlers
  { host with limboHandlers := registry }.setContext pluginId
    { context with limboHandlers := [] }

/-- The loop of `activate_plugin_providers` for one provider, and `store_provider_cleanup` for its
result. -/
def activateProvider (host : PluginHost) (provider : PluginConfigProvider) : PluginHost :=
  let context := host.contexts pluginId
  let idType := pluginProviderType pluginId provider.providerType
  let configs := (provider.loadInitial.toOption.getD []).map (·.toProviderConfig idType)
  let router := configs.foldl
    (fun router pc => router.add strings orders.configs pc.id pc.config) host.router
  let watcher : Watcher := ⟨pluginId, idType, host.nextToken⟩
  { host with
    router
    watchers := host.watchers ++ [watcher]
    nextToken := host.nextToken + 1 }.setContext pluginId
    { context with
      registeredProviderIds := context.registeredProviderIds ++ configs.map ProviderConfig.id
      registeredProviderTokens := context.registeredProviderTokens ++ [host.nextToken] }

/-- `take_config_providers` and the activation. -/
def activateProviders : PluginHost :=
  let context := host.contexts pluginId
  context.configProviders.foldl (activateProvider strings orders pluginId)
    (host.setContext pluginId { context with configProviders := [] })

def cleanup : PluginHost :=
  let context := host.contexts pluginId
  let bus := context.registeredHandles.foldl
    (fun bus handle => bus.unsubscribe orders.bus handle) host.bus
  let commands := context.registeredCommands.foldl
    (fun commands name => commands.unregister strings name) host.commands
  let scheduler := context.registeredTasks.foldl Scheduler.cancel host.scheduler
  let router := context.registeredProviderIds.foldl
    (fun router id => router.remove orders.configs id) host.router
  { host with
    bus
    commands
    scheduler
    cancelled := host.cancelled ++ context.registeredProviderTokens
    router }.setContext pluginId
    { context with
      registeredHandles := []
      registeredCommands := []
      registeredTasks := []
      registeredProviderIds := []
      registeredProviderTokens := [] }

/-- What happens. -/
inductive Label where
  | perform (pluginId : String) (op : ContextOp)
  | collectLimboHandlers (pluginId : String)
  | activateProviders (pluginId : String)
  /-- The `watch` of a provider sends an event. It ends when its token is cancelled. -/
  | watchSend (watcher : Watcher) (event : PluginProviderEvent)
  /-- The file or Docker provider sends an event. -/
  | providerSend (event : ProviderEvent)
  /-- One turn of the event loop. -/
  | handleEvent
  /-- A delayed task has run. -/
  | finishTask (handle : Nat)
  | cleanup (pluginId : String)

/-- One step of the host. -/
def step : Label → Option PluginHost
  | .perform pluginId op => some (host.perform strings resolveFilterOrder orders pluginId op)
  | .collectLimboHandlers pluginId => some (host.collectLimboHandlers pluginId)
  | .activateProviders pluginId => some (host.activateProviders strings orders pluginId)
  | .watchSend watcher event =>
    if watcher ∈ host.watchers ∧ watcher.token ∉ host.cancelled then
      some { host with channel := host.channel ++ [event.toCore watcher.idType] }
    else none
  | .providerSend event =>
    if event.id.providerType = "file" ∨ event.id.providerType = "docker" then
      some { host with channel := host.channel ++ [event] }
    else none
  | .handleEvent =>
    match host.channel with
    | [] => none
    | event :: rest =>
      some { host with
        router := Infrarust.handleEvent strings orders.configs orders.configs event host.router
        channel := rest }
  | .finishTask handle =>
    match host.scheduler.running.lookup handle with
    | some ⟨.delay _, _⟩ => some { host with scheduler := host.scheduler.finish handle }
    | _ => none
  | .cleanup pluginId => some (host.cleanup strings orders pluginId)

/-- A step with the maps visited in some order. -/
def Step (label : Label) (host' : PluginHost) : Prop :=
  ∃ orders, step strings resolveFilterOrder orders host label = some host'

/-- The host when the first plugin is enabled. -/
def start (router : DomainRouter) (capabilities : String → List Capability) : PluginHost where
  bus := .new
  commands := CommandManager.new.registerBuiltinCommands strings
  scheduler := .new
  codecFilters := .new
  transportFilters := .new
  limboHandlers := ∅
  router := router
  channel := []
  watchers := []
  cancelled := []
  nextToken := 0
  contexts pluginId := .new (capabilities pluginId)

end PluginHost

end Infrarust
