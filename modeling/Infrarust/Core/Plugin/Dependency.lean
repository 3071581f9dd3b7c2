import Infrarust.Lib.Kahn

/-!
# `Infrarust.Core.Plugin.Dependency`: the load order of the plugins

A plugin names the plugins it depends on, each as required or optional. `resolveLoadOrder` rejects
a plugin whose required dependency is not there, and sorts the others topologically: a dependency
that is there, optional or not, is an edge from it to the plugin.

The queue of the sort is filled from a hash map, and so is the list of plugins in the message about
a cycle. The order of the hash map is the parameter `order`.
-/

set_option autoImplicit false

namespace Infrarust

structure PluginDependency where
  id : String
  optional : Bool
deriving DecidableEq, Repr

/-- What the manager reads of `PluginMetadata`. -/
structure PluginMetadata where
  id : String
  dependencies : List PluginDependency
deriving DecidableEq, Repr

inductive PluginError where
  | initFailed (message : String)
  | custom (message : String)
deriving DecidableEq, Repr

/-- The text of a `PluginError`. -/
def PluginError.display : PluginError → String
  | initFailed message => s!"plugin initialization failed: {message}"
  | custom message => message

/-- Step 1 of `resolve_load_order`: every required dependency is available. -/
def checkRequired (plugins : List PluginMetadata) : Except PluginError PUnit :=
  plugins.forM fun plugin =>
    plugin.dependencies.forM fun dep =>
      if !dep.optional && !(plugins.any fun p => p.id = dep.id) then
        throw (.initFailed s!"Plugin '{plugin.id}' requires '{dep.id}' which is not loaded")
      else pure ()

/-- Step 2 of `resolve_load_order`. -/
def dependencyGraph (plugins : List PluginMetadata) : Kahn.Graph String :=
  plugins.foldl (fun graph plugin =>
    plugin.dependencies.foldl (fun graph dep =>
        if plugins.any fun p => p.id = dep.id then graph.addEdge dep.id plugin.id else graph)
      (graph.addNode plugin.id)) .empty

def resolveLoadOrder (order : Dict.Order String Nat) (plugins : List PluginMetadata) :
    Except PluginError (List String) := do
  checkRequired plugins
  let result := (dependencyGraph plugins).sort order
  if result.sorted.length = plugins.length then
    return result.sorted
  else
    let remaining := ((order.iter result.inDegree).filter fun entry => 0 < entry.2).map Prod.fst
    throw (.initFailed ("Circular dependency detected involving: " ++ ", ".intercalate remaining))

end Infrarust
