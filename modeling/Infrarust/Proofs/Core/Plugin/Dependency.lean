import Infrarust.Core.Plugin.Dependency
import Infrarust.Lib.Check

/-!
# `Infrarust.Proofs.Core.Plugin.Dependency`: what the load order guarantees

`DependsOn` is the dependency relation between the plugins that are there. `resolveLoadOrder`
succeeds if every required dependency is there and the relation has no cycle
(`resolveLoadOrder_ok_iff`). Its result has every plugin once, after all of its dependencies
(`LoadOrder`).

The graph has an edge for every declared dependency that is there (`dependencyEdges`), so a plugin
that declares one twice has two edges. The facts about the sort are those of `Lib.Kahn`.
-/

set_option autoImplicit false

namespace Infrarust

open List

variable (plugins : List PluginMetadata)

/-- A plugin of this id is there. -/
def Available (id : String) : Prop := ∃ plugin ∈ plugins, plugin.id = id

/-- The plugin `id` declares the dependency `dep`, and both are there. -/
def DependsOn (dep id : String) : Prop :=
  Available plugins dep ∧ ∃ plugin ∈ plugins, plugin.id = id ∧ ∃ d ∈ plugin.dependencies, d.id = dep

/-- Every required dependency is there. -/
def RequiredAvailable : Prop :=
  ∀ plugin ∈ plugins, ∀ dep ∈ plugin.dependencies, dep.optional = false → Available plugins dep.id

/-- No plugin depends on itself through any number of others. -/
def DependenciesAcyclic : Prop := ∀ id, ¬Relation.TransGen (DependsOn plugins) id id

/-- Every plugin once, and none before a plugin it depends on. -/
structure LoadOrder (plugins : List PluginMetadata) (loadOrder : List String) : Prop where
  perm : loadOrder.Perm (plugins.map PluginMetadata.id)
  before : Trace.Each (fun before id => ∀ dep, DependsOn plugins dep id → dep ∈ before) loadOrder

variable {plugins : List PluginMetadata} {nodes : List String} {graph : Kahn.Graph String}
  {edges : List (String × String)}

theorem any_id_eq_true {id} : (plugins.any fun p => p.id = id) = true ↔ Available plugins id := by
  simp [Available]

theorem checkRequired_ok_iff : checkRequired plugins = .ok () ↔ RequiredAvailable plugins := by
  rw [checkRequired, Check.forM_ok_iff]
  refine forall₂_congr fun plugin _ => ?_
  rw [Check.forM_ok_iff]
  refine forall₂_congr fun dep _ => ?_
  rw [← any_id_eq_true]
  rw [Check.throwIf_ok_iff]
  cases dep.optional <;> simp

/-! ### The graph -/

/-- The edges of the graph: one for each declared dependency that is there. -/
def dependencyEdges (plugins : List PluginMetadata) : List (String × String) :=
  plugins.flatMap fun plugin => plugin.dependencies.flatMap fun dep =>
    if plugins.any fun p => p.id = dep.id then [(dep.id, plugin.id)] else []

theorem mem_dependencyEdges {dep id} :
    (dep, id) ∈ dependencyEdges plugins ↔ DependsOn plugins dep id := by
  simp only [dependencyEdges, mem_flatMap, mem_ite_nil_right, any_id_eq_true,
    mem_singleton, Prod.mk.injEq]
  constructor
  · rintro ⟨plugin, hplug, d, hd, havail, rfl, rfl⟩
    exact ⟨havail, plugin, hplug, rfl, d, hd, rfl⟩
  · rintro ⟨havail, plugin, hplug, rfl, d, hd, rfl⟩
    exact ⟨plugin, hplug, d, hd, havail, rfl, rfl⟩

/-- The outer loop, over any of the plugins. The inner one adds an edge for every dependency that
passes the test. -/
theorem holds_foldl_addNode (available : String → Bool) (plugins : List PluginMetadata)
    (h : graph.Holds nodes edges) :
    (plugins.foldl (fun graph plugin =>
        plugin.dependencies.foldl
          (fun graph dep => if available dep.id then graph.addEdge dep.id plugin.id else graph)
          (graph.addNode plugin.id)) graph).Holds (nodes ++ plugins.map PluginMetadata.id)
      (edges ++ plugins.flatMap fun plugin => plugin.dependencies.flatMap fun dep =>
        if available dep.id then [(dep.id, plugin.id)] else []) := by
  induction plugins generalizing graph nodes edges with
  | nil => simpa using h
  | cons plugin plugins ih =>
    rw [foldl_cons, map_cons, append_cons, flatMap_cons, ← append_assoc]
    refine ih ((h.addNode plugin.id).foldl plugin.dependencies fun dep _ graph edges h => ?_)
    exact h.addEdge_if _ dep.id fun _ => mem_append_right _ (mem_singleton_self _)

theorem holds_dependencyGraph (plugins) :
    (dependencyGraph plugins).Holds (plugins.map PluginMetadata.id) (dependencyEdges plugins) :=
  holds_foldl_addNode (fun id => plugins.any fun p => p.id = id) plugins .empty

/-! ### The load order -/

section

variable (order : Dict.Order String Nat) {plugins : List PluginMetadata}

variable {loadOrder : List String}

/-- The two checks of `resolve_load_order`. -/
theorem resolveLoadOrder_eq_ok :
    resolveLoadOrder order plugins = .ok loadOrder ↔ RequiredAvailable plugins ∧
      ((dependencyGraph plugins).sort order).sorted.length = plugins.length ∧
      loadOrder = ((dependencyGraph plugins).sort order).sorted := by
  rw [resolveLoadOrder, Check.seq_ok_iff, checkRequired_ok_iff]
  refine and_congr_right fun _ => ?_
  by_cases hlen : ((dependencyGraph plugins).sort order).sorted.length = plugins.length
  · simp only [if_pos hlen]
    exact ⟨fun h => ⟨hlen, (Except.ok.inj h).symm⟩, fun h => h.2 ▸ rfl⟩
  · simp only [if_neg hlen]
    exact ⟨nofun, fun h => absurd h.1 hlen⟩

variable (hids : (plugins.map PluginMetadata.id).Nodup)

include hids

theorem length_sorted_dependencyGraph :
    ((dependencyGraph plugins).sort order).sorted.length = plugins.length ↔
      DependenciesAcyclic plugins := by
  obtain ⟨hinv, hqueue⟩ := Kahn.Inv.sort order (holds_dependencyGraph plugins) hids
  have hedges : ∀ e ∈ dependencyEdges plugins,
      e.1 ∈ plugins.map PluginMetadata.id ∧ e.2 ∈ plugins.map PluginMetadata.id := by
    rintro ⟨dep, id⟩ he
    obtain ⟨hdep, plugin, hplug, hid, -⟩ := mem_dependencyEdges.mp he
    exact ⟨mem_map.mpr hdep, mem_map.mpr ⟨plugin, hplug, hid⟩⟩
  have hlen := hinv.length_sorted_iff hqueue hids hedges
  rw [length_map] at hlen
  rw [hlen]
  simp only [Kahn.Acyclic, mem_dependencyEdges]
  rfl

theorem resolveLoadOrder_ok_iff :
    (∃ loadOrder, resolveLoadOrder order plugins = .ok loadOrder) ↔
      RequiredAvailable plugins ∧ DependenciesAcyclic plugins := by
  simp only [resolveLoadOrder_eq_ok, length_sorted_dependencyGraph order hids]
  exact ⟨fun ⟨_, hreq, hacyc, _⟩ => ⟨hreq, hacyc⟩, fun ⟨hreq, hacyc⟩ => ⟨_, hreq, hacyc, rfl⟩⟩

theorem LoadOrder.of_resolveLoadOrder (h : resolveLoadOrder order plugins = .ok loadOrder) :
    LoadOrder plugins loadOrder := by
  obtain ⟨-, hlen, rfl⟩ := (resolveLoadOrder_eq_ok order).mp h
  have hinv := (Kahn.Inv.sort order (holds_dependencyGraph plugins) hids).1
  refine ⟨hinv.perm_sorted (hlen.trans (length_map _).symm), ?_⟩
  intro before id after hsplit dep hdep
  exact hinv.ordered before id after hsplit dep (mem_dependencyEdges.mpr hdep)

/-- The whole of `resolve_load_order`, for plugins with different ids. -/
theorem resolveLoadOrder_sorts :
    ((∃ loadOrder, resolveLoadOrder order plugins = .ok loadOrder) ↔
      RequiredAvailable plugins ∧ DependenciesAcyclic plugins) ∧
    ∀ loadOrder, resolveLoadOrder order plugins = .ok loadOrder → LoadOrder plugins loadOrder :=
  ⟨resolveLoadOrder_ok_iff order hids, fun _ h => LoadOrder.of_resolveLoadOrder order hids h⟩

end

/-- Two plugins, the first of which depends on the second. -/
theorem resolveLoadOrder_sorts_two :
    LoadOrder [⟨"a", [⟨"b", false⟩, ⟨"c", true⟩]⟩, ⟨"b", []⟩] ["b", "a"] :=
  (resolveLoadOrder_sorts .entries (by decide)).2 _ (by decide +kernel)

end Infrarust
