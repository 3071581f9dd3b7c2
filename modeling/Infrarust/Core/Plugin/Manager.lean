import Infrarust.Core.Plugin.Dependency

/-!
# `Infrarust.Core.Plugin.Manager`: the life of a plugin

`PluginManager` finds the plugins of all loaders, loads and enables them in the order of
`resolveLoadOrder`, and disables and unloads them at shutdown. What a loader or a plugin answers is
a field of `PluginLoader` and `Plugin`, so a choice of these values is a pattern of failures. The
loaders are named, and a name that a loader was found by is looked up again later: the first loader
of that name is called, whichever loader found the plugin.

`calls` has the calls that the manager made, with the position of the loader in the list, and
plugins under the ids they were loaded by. An error of a loader is its text. The context of a
plugin is the id it was created for: `cleanup` is all that the manager does with it.
-/

set_option autoImplicit false

namespace Infrarust

/-- The answers of a `Plugin`. -/
structure Plugin where
  metadata : PluginMetadata
  onEnable : Except PluginError Unit
  onDisable : Except PluginError Unit

/-- The answers of a `PluginLoader`. -/
structure PluginLoader where
  name : String
  discover : Except String (List PluginMetadata)
  onLoad : Except String Unit
  load : String → Except String Plugin
  unload : String → Except String Unit
  onShutdown : Except String Unit

inductive PluginState where
  | loading
  | enabled
  | disabled
  | error (message : String)
deriving DecidableEq, Repr

/-- A plugin that was enabled. `context` is the id that its context was created for. -/
structure LoadedPlugin where
  plugin : Plugin
  context : String
  metadata : PluginMetadata
  loaderName : String

/-- A call of the manager, and whether it succeeded. -/
inductive PluginCall where
  | onLoad (loader : Nat) (ok : Bool)
  | load (loader : Nat) (pluginId : String) (ok : Bool)
  | onEnable (pluginId : String) (ok : Bool)
  | cleanup (pluginId : String)
  | onDisable (pluginId : String) (ok : Bool)
  | unload (loader : Nat) (pluginId : String) (ok : Bool)
  | onShutdown (loader : Nat) (ok : Bool)
deriving DecidableEq, Repr

structure PluginManager where
  loaders : List PluginLoader
  plugins : List LoadedPlugin
  states : Dict String PluginState
  loadOrder : List String
  loaderMapping : Dict String String
  loadedLoaders : List String
  calls : List PluginCall

namespace PluginManager

def new (loaders : List PluginLoader) : PluginManager where
  loaders := loaders
  plugins := []
  states := ∅
  loadOrder := []
  loaderMapping := ∅
  loadedLoaders := []
  calls := []

variable (manager : PluginManager)

/-- The first loader of a name, with its position. -/
def findLoader (name : String) : Option (PluginLoader × Nat) :=
  manager.loaders.zipIdx.find? fun entry => entry.1.name = name

def setState (pluginId : String) (state : PluginState) : PluginManager :=
  { manager with states := manager.states.insert pluginId state }

def call (c : PluginCall) : PluginManager := { manager with calls := manager.calls ++ [c] }

/-! ### Discovery -/

/-- The local variables of `discover_all`. -/
structure Discovery where
  allMetadata : List PluginMetadata
  seenIds : Dict String String

/-- The inner loop of `discover_all`. -/
def addDiscovered (loaderName : String) (found : Discovery) (metadata : PluginMetadata) :
    Except PluginError Discovery :=
  match found.seenIds.lookup metadata.id with
  | some existingLoader =>
    throw (.initFailed (s!"Duplicate plugin id '{metadata.id}': found in loader " ++
      s!"'{existingLoader}' and '{loaderName}'"))
  | none =>
    return { allMetadata := found.allMetadata ++ [metadata]
             seenIds := found.seenIds.insert metadata.id loaderName }

/-- The outer loop of `discover_all`. -/
def discoverLoader (found : Discovery) (loader : PluginLoader) : Except PluginError Discovery :=
  match loader.discover with
  | .error e => throw (.initFailed s!"Loader '{loader.name}' discovery failed: {e}")
  | .ok discovered => discovered.foldlM (addDiscovered loader.name) found

/-- `discover_all`. When it fails, the manager stays as it is. -/
def discoverAll (order : Dict.Order String Nat) (manager : PluginManager) :
    Except PluginError (List PluginMetadata × PluginManager) := do
  let found ← manager.loaders.foldlM discoverLoader ⟨[], ∅⟩
  let loadOrder ← resolveLoadOrder order found.allMetadata
  return (found.allMetadata,
    { manager with loadOrder := loadOrder, loaderMapping := found.seenIds })

/-! ### Loading and enabling -/

/-- The local variables of the loop over the loaders in `load_and_enable_all`. -/
structure LoaderStart where
  errors : List PluginError
  failedLoaders : List String
  okLoaders : List String
  calls : List PluginCall

/-- The loop over the loaders. -/
def startLoader (s : LoaderStart) (entry : PluginLoader × Nat) : LoaderStart :=
  match entry.1.onLoad with
  | .ok () =>
    { s with
      okLoaders := s.okLoaders ++ [entry.1.name]
      calls := s.calls ++ [.onLoad entry.2 true] }
  | .error e =>
    { s with
      errors := s.errors ++ [.initFailed s!"Loader '{entry.1.name}' on_load failed: {e}"]
      failedLoaders := entry.1.name :: s.failedLoaders
      calls := s.calls ++ [.onLoad entry.2 false] }

/-- The part of the loop over the plugins after `load` succeeded. -/
def enableLoaded (pluginId loaderName : String) (plugin : Plugin) (manager : PluginManager)
    (errors : List PluginError) : PluginManager × List PluginError :=
  let manager := manager.setState pluginId .loading
  match plugin.onEnable with
  | .ok () =>
    let manager := (manager.call (.onEnable pluginId true)).setState pluginId .enabled
    let loaded : LoadedPlugin :=
      { plugin := plugin
        context := pluginId
        metadata := plugin.metadata
        loaderName := loaderName }
    ({ manager with plugins := manager.plugins ++ [loaded] }, errors)
  | .error e =>
    let manager := (manager.call (.onEnable pluginId false)).setState pluginId (.error e.display)
    (manager.call (.cleanup pluginId), errors ++ [e])

/-- The loop over the plugins in `load_and_enable_all`. -/
def enablePlugin (failedLoaders : List String) (s : PluginManager × List PluginError)
    (pluginId : String) : PluginManager × List PluginError :=
  let (manager, errors) := s
  match manager.loaderMapping.lookup pluginId with
  | none => (manager, errors ++ [.initFailed s!"No loader mapping for plugin '{pluginId}'"])
  | some loaderName =>
    if loaderName ∈ failedLoaders then
      (manager.setState pluginId (.error s!"loader '{loaderName}' on_load failed"), errors)
    else
      match manager.findLoader loaderName with
      | none =>
        (manager, errors ++
          [.initFailed s!"Loader '{loaderName}' not found for plugin '{pluginId}'"])
      | some (loader, position) =>
        match loader.load pluginId with
        | .error e =>
          ((manager.call (.load position pluginId false)).setState pluginId (.error e),
            errors ++ [.initFailed s!"Loader '{loaderName}' failed to load '{pluginId}': {e}"])
        | .ok plugin =>
          enableLoaded pluginId loaderName plugin (manager.call (.load position pluginId true))
            errors

def loadAndEnableAll : PluginManager × List PluginError :=
  let start := manager.loaders.zipIdx.foldl startLoader ⟨[], [], [], manager.calls⟩
  let manager := { manager with loadedLoaders := start.okLoaders, calls := start.calls }
  manager.loadOrder.foldl (enablePlugin start.failedLoaders) (manager, start.errors)

/-- What `main` does with the plugins at the start: a failed discovery ends it. -/
def startAll (order : Dict.Order String Nat) (loaders : List PluginLoader) :
    Except PluginError (PluginManager × List PluginError) := do
  let (_, manager) ← discoverAll order (new loaders)
  return manager.loadAndEnableAll

/-! ### Shutdown -/

/-- The first loop of `shutdown`. -/
def disablePlugin (loaded : LoadedPlugin) : PluginManager :=
  if manager.states.lookup loaded.metadata.id = some .enabled then
    let manager := manager.setState loaded.metadata.id .disabled
    -- the context is cleaned up whether or not `on_disable` succeeds
    (manager.call (.onDisable loaded.context loaded.plugin.onDisable.isOk)).call
      (.cleanup loaded.context)
  else manager

/-- The second loop of `shutdown`. -/
def unloadPlugin (loaded : LoadedPlugin) : PluginManager :=
  match manager.findLoader loaded.loaderName with
  | some (loader, position) =>
    manager.call (.unload position loaded.metadata.id (loader.unload loaded.metadata.id).isOk)
  | none => manager

/-- The third loop of `shutdown`. -/
def shutdownLoader (name : String) : PluginManager :=
  match manager.findLoader name with
  | some (loader, position) => manager.call (.onShutdown position loader.onShutdown.isOk)
  | none => manager

def shutdown : PluginManager :=
  let plugins := manager.plugins
  let manager := plugins.reverse.foldl disablePlugin { manager with plugins := [] }
  let manager := plugins.reverse.foldl unloadPlugin manager
  manager.loadedLoaders.reverse.foldl shutdownLoader { manager with loadedLoaders := [] }

end PluginManager

end Infrarust
