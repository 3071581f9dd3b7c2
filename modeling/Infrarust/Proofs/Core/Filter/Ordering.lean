import Infrarust.Core.Filter.Ordering

/-!
# `Infrarust.Proofs.Core.Filter.Ordering`: what the order of the filters guarantees

`RunsBefore` is the relation that the constraints of the filters induce. `resolveFilterOrder`
succeeds just when it has no cycle, and its result has every filter once, after all filters that
are to run before it and at the earliest place its priority allows (`FilterOrder`). The facts about
the sort are those of `Lib.Kahn`, here with a queue that is kept in the order of the heap.

A registry works its order out after every call. When that fails it keeps the old one, so its order
is always that of the last state without a cycle (`registry_order`).
-/

set_option autoImplicit false

namespace Infrarust

open List

/-- One of the two filters, which are both there, names the other one in a constraint. -/
def RunsBefore (filters : List FilterMetadata) (source target : String) : Prop :=
  source ∈ filters.map (·.id) ∧ target ∈ filters.map (·.id) ∧
    ∃ f ∈ filters, f.id = target ∧ source ∈ f.after ∨ f.id = source ∧ target ∈ f.before

def ConstraintsAcyclic (filters : List FilterMetadata) : Prop :=
  ∀ id, ¬Relation.TransGen (RunsBefore filters) id id

/-- Every filter once, none before a filter that is to run before it, and each with the least
priority and then the least index among those whose predecessors have all been placed. -/
structure FilterOrder (filters : List FilterMetadata) (ids : List String) : Prop where
  perm : ids.Perm (filters.map (·.id))
  respects : Trace.Each (fun before id => ∀ source, RunsBefore filters source id →
    source ∈ before) ids
  least : Trace.Each (fun before id => ∀ (f g : FilterMetadata) (i j : Nat),
    filters[i]? = some f → f.id = id → filters[j]? = some g → g.id ∉ before →
    (∀ source, RunsBefore filters source g.id → source ∈ before) →
    f.priority.toNat < g.priority.toNat ∨ f.priority.toNat = g.priority.toNat ∧ i ≤ j) ids

variable {filters : List FilterMetadata}

/-! ### The graph -/

/-- The edges of the graph: those of the `after` constraints, then those of the `before` ones. -/
def filterEdges (filters : List FilterMetadata) : List (String × String) :=
  (filters.flatMap fun f => f.after.flatMap fun dep =>
    if filters.any fun g => g.id = dep then [(dep, f.id)] else []) ++
  filters.flatMap fun f => f.before.flatMap fun target =>
    if filters.any fun g => g.id = target then [(f.id, target)] else []

theorem any_filter_id {id} : (filters.any fun g => g.id = id) = true ↔ id ∈ filters.map (·.id) := by
  simp

theorem mem_filterEdges {source target} :
    (source, target) ∈ filterEdges filters ↔ RunsBefore filters source target := by
  simp only [filterEdges, mem_append, mem_flatMap, mem_ite_nil_right, any_filter_id,
    mem_singleton, Prod.mk.injEq]
  constructor
  · rintro (⟨f, hf, dep, hdep, hid, rfl, rfl⟩ | ⟨f, hf, dep, hdep, hid, rfl, rfl⟩)
    · exact ⟨hid, mem_map_of_mem hf, f, hf, .inl ⟨rfl, hdep⟩⟩
    · exact ⟨mem_map_of_mem hf, hid, f, hf, .inr ⟨rfl, hdep⟩⟩
  · rintro ⟨hsrc, htgt, f, hf, ⟨rfl, hdep⟩ | ⟨rfl, hdep⟩⟩
    · exact .inl ⟨f, hf, source, hdep, hsrc, rfl, rfl⟩
    · exact .inr ⟨f, hf, target, hdep, htgt, rfl, rfl⟩

theorem holds_foldl_addFilter {graph : Kahn.Graph String} {nodes edges} (h : graph.Holds nodes edges) :
    (filters.foldl (fun graph f => graph.addNode f.id) graph).Holds
      (nodes ++ filters.map (·.id)) edges := by
  induction filters generalizing graph nodes with
  | nil => simpa using h
  | cons f filters ih =>
    rw [foldl_cons, map_cons, append_cons]
    exact ih (h.addNode f.id)

theorem holds_filterGraph (filters) :
    (filterGraph filters).Holds (filters.map (·.id)) (filterEdges filters) := by
  refine Kahn.Graph.Holds.foldl filters (fun f hf graph edges h => ?_) <|
    Kahn.Graph.Holds.foldl filters (fun f hf graph edges h => ?_) <|
    holds_foldl_addFilter .empty
  · refine h.foldl f.before fun target _ graph edges h => ?_
    exact h.addEdge_if _ f.id any_filter_id.mp
  · refine h.foldl f.after fun dep _ graph edges h => ?_
    exact h.addEdge_if _ dep fun _ => mem_map_of_mem hf

/-! ### The heap -/

theorem pushes_pushByPriority (filters) :
    Kahn.Pushes (fun a b => priorityKey filters a ≤ priorityKey filters b)
      (pushByPriority filters) where
  perm heap id := (perm_orderedInsert _ id heap).trans (perm_append_singleton id heap).symm
  pairwise heap id h := by
    exact h.orderedInsert id

variable (hids : (filters.map (·.id)).Nodup)

include hids

theorem priorityKey_of_getElem {f i} (h : filters[i]? = some f) :
    priorityKey filters f.id = toLex (f.priority.toNat, i) := by
  have hkeys : (filters.zipIdx.map (·.1.id)).Nodup := by
    rw [← zipIdx_map_fst 0 filters, map_map] at hids
    exact hids
  have hget : (priorityMap filters).lookup f.id = some (f.priority, i) :=
    (Dict.lookup_collect hkeys).mpr ⟨(f, i), mem_zipIdx_iff_getElem?.mpr h, rfl, rfl⟩
  rw [priorityKey, hget]

theorem inv_sortFilters :
    Kahn.Inv (fun a b => priorityKey filters a ≤ priorityKey filters b) (filters.map (·.id))
      (filterEdges filters) (Kahn.unsorted (filterEdges filters) (sortFilters filters).sorted)
      (sortFilters filters) ∧ (sortFilters filters).queue = [] := by
  have hgraph := holds_filterGraph filters
  obtain ⟨hperm, hpairwise⟩ := (pushes_pushByPriority filters).foldl
    ((filters.filter fun f => (filterGraph filters).inDegree.lookup f.id = some 0).map (·.id))
    List.Pairwise.nil
  refine Kahn.Inv.sortFrom (pushes_pushByPriority filters) hgraph hids
    (Kahn.Inv.start hgraph (fun id => ?_) (hperm.nodup_iff.mpr ?_) hpairwise) rfl
  · rw [hperm.mem_iff, nil_append, mem_map]
    constructor
    · rintro ⟨f, hf, rfl⟩
      exact of_decide_eq_true (mem_filter.mp hf).2
    · intro hzero
      have hmem : id ∈ filters.map (·.id) := by
        by_contra hmem
        rw [hgraph.degree, if_neg hmem] at hzero
        cases hzero
      obtain ⟨f, hf, rfl⟩ := mem_map.mp hmem
      exact ⟨f, mem_filter.mpr ⟨hf, decide_eq_true hzero⟩, rfl⟩
  · exact hids.sublist (filter_sublist.map _)

/-! ### The order -/

omit hids in
theorem resolveFilterOrder_eq_ok {order ids} :
    resolveFilterOrder order filters = .ok ids ↔
      (sortFilters filters).sorted.length = filters.length ∧
        ids = (sortFilters filters).sorted := by
  rw [resolveFilterOrder]
  cases filters with
  | nil => exact ⟨fun h => ⟨rfl, (Except.ok.inj h).symm⟩, fun h => h.2 ▸ rfl⟩
  | cons f filters =>
    by_cases hlen : (sortFilters (f :: filters)).sorted.length = (f :: filters).length
    · simp only [isEmpty_cons, Bool.false_eq_true, if_false, if_pos hlen]
      exact ⟨fun h => ⟨hlen, (Except.ok.inj h).symm⟩, fun h => h.2 ▸ rfl⟩
    · simp only [isEmpty_cons, Bool.false_eq_true, if_false, if_neg hlen]
      exact ⟨nofun, fun h => absurd h.1 hlen⟩

theorem resolveFilterOrder_ok_iff (order) :
    (∃ ids, resolveFilterOrder order filters = .ok ids) ↔ ConstraintsAcyclic filters := by
  obtain ⟨hinv, hqueue⟩ := inv_sortFilters hids
  have hlen := hinv.length_sorted_iff hqueue hids fun e he =>
    have hedge := mem_filterEdges.mp he
    ⟨hedge.1, hedge.2.1⟩
  rw [length_map] at hlen
  simp only [resolveFilterOrder_eq_ok, hlen, Kahn.Acyclic, mem_filterEdges]
  exact ⟨fun ⟨_, hacyc, _⟩ => hacyc, fun hacyc => ⟨_, hacyc, rfl⟩⟩

theorem FilterOrder.of_resolveFilterOrder {order ids}
    (h : resolveFilterOrder order filters = .ok ids) : FilterOrder filters ids := by
  obtain ⟨hlen, rfl⟩ := resolveFilterOrder_eq_ok.mp h
  have hinv := (inv_sortFilters hids).1
  refine ⟨hinv.perm_sorted (hlen.trans (length_map _).symm), ?_, ?_⟩
  · intro before id after hsplit source hsrc
    exact hinv.ordered before id after hsplit source (mem_filterEdges.mpr hsrc)
  · intro before id after hsplit f g i j hf hid hg hnew hready
    have hleast := hinv.least before id after hsplit g.id
      (mem_map_of_mem (mem_of_getElem? hg)) hnew fun source hsrc =>
        hready source (mem_filterEdges.mp hsrc)
    have hle : priorityKey filters f.id ≤ priorityKey filters g.id := by
      rcases hleast with heq | hle
      · rw [heq, hid]
      · rw [hid]
        exact hle
    rw [priorityKey_of_getElem hids hf, priorityKey_of_getElem hids hg] at hle
    exact Prod.Lex.toLex_le_toLex.mp hle

/-- The whole of `resolve_filter_order`, for filters with different ids. -/
theorem resolveFilterOrder_sorts (order : Dict.Order String Nat) :
    ((∃ ids, resolveFilterOrder order filters = .ok ids) ↔ ConstraintsAcyclic filters) ∧
    ∀ ids, resolveFilterOrder order filters = .ok ids → FilterOrder filters ids :=
  ⟨resolveFilterOrder_ok_iff hids order, fun _ h => .of_resolveFilterOrder hids h⟩

omit hids

/-- A constraint wins over the priorities. -/
theorem resolveFilterOrder_sorts_three :
    FilterOrder [⟨"a", .first, ["b", "d"], []⟩, ⟨"b", .last, [], []⟩, ⟨"c", .late, [], ["b"]⟩]
      ["c", "b", "a"] :=
  (resolveFilterOrder_sorts (by decide) .entries).2 _ (by decide +kernel)

/-! ### The registry -/

/-- A call on a filter registry. -/
inductive FilterCall (F : Type) where
  | register (item : F)
  | unregister (filterId : String)

namespace FilterRegistry

variable {F : Type} [HasFilterMetadata F] (order : Dict.Order String Nat)

variable (registry : FilterRegistry F)

/-- The metadata of the registered filters. -/
def metadata : List FilterMetadata := registry.items.map HasFilterMetadata.metadata

def apply : FilterCall F → FilterRegistry F
  | .register item => registry.register (resolveFilterOrder order) item
  | .unregister filterId => registry.unregister (resolveFilterOrder order) filterId

/-- The registry after a sequence of calls. -/
def run (calls : List (FilterCall F)) : FilterRegistry F := calls.foldl (apply order) new

/-- Every call changes the filters and works the order out again. -/
theorem apply_cases (call) :
    ∃ items, apply order registry call =
        recalculateOrder (resolveFilterOrder order) { registry with items } ∧
      ((registry.metadata.map (·.id)).Nodup →
        ((items.map HasFilterMetadata.metadata).map (·.id)).Nodup) := by
  have hflt (p : F → Bool) (h : (registry.metadata.map (·.id)).Nodup) :
      (((registry.items.filter p).map HasFilterMetadata.metadata).map (·.id)).Nodup :=
    h.sublist ((filter_sublist.map _).map _)
  cases call with
  | register item =>
    refine ⟨_, rfl, fun h => ?_⟩
    rw [map_append, map_append]
    refine nodup_append.mpr ⟨hflt _ h, nodup_singleton _, ?_⟩
    rintro id hid other hother rfl
    simp only [map_map, mem_map, mem_filter, decide_eq_true_iff] at hid
    obtain ⟨f, ⟨-, hne⟩, heq⟩ := hid
    exact hne (heq.trans (mem_singleton.mp hother))
  | unregister filterId => exact ⟨_, rfl, hflt _⟩

/-- What holds of the registry after any calls: with the calls up to some point the order was
that of the filters, and since then the constraints have had a cycle. -/
theorem run_inv (calls : List (FilterCall F)) :
    ((run order calls).metadata.map (·.id)).Nodup ∧
      (ConstraintsAcyclic (run order calls).metadata →
        FilterOrder (run order calls).metadata (run order calls).orderedIds) ∧
      ∃ done, done <+: calls ∧
        FilterOrder (run order done).metadata (run order calls).orderedIds := by
  induction calls using List.reverseRecOn with
  | nil =>
    have hnew : FilterOrder (run order ([] : List (FilterCall F))).metadata [] :=
      ⟨.refl _, Trace.Each.nil, Trace.Each.nil⟩
    exact ⟨nodup_nil, fun _ => hnew, [], prefix_rfl, hnew⟩
  | append_singleton calls call ih =>
    obtain ⟨hnodup, -, done, hdone, hold⟩ := ih
    obtain ⟨items, happly, hids⟩ := apply_cases order (run order calls) call
    have hrun : run order (calls ++ [call]) = apply order (run order calls) call := by
      rw [run, foldl_concat, run]
    rw [hrun, happly, recalculateOrder]
    have hids := hids hnodup
    cases hres : resolveFilterOrder order (items.map HasFilterMetadata.metadata) with
    | ok ids =>
      have hnew := FilterOrder.of_resolveFilterOrder hids hres
      refine ⟨hids, fun _ => hnew, calls ++ [call], prefix_rfl, ?_⟩
      rw [hrun, happly, recalculateOrder, hres]
      exact hnew
    | error message =>
      refine ⟨hids, fun hacyc => ?_, done, hdone.trans (prefix_append _ _), hold⟩
      obtain ⟨ids, hok⟩ := (resolveFilterOrder_ok_iff hids order).mpr hacyc
      rw [hres] at hok
      cases hok

/-- Without a cycle the order has every registered filter once and respects the constraints. With
one it is still the order of an earlier state. -/
theorem registry_order (calls : List (FilterCall F)) :
    (ConstraintsAcyclic (run order calls).metadata →
      FilterOrder (run order calls).metadata (run order calls).orderedIds) ∧
    ∃ done, done <+: calls ∧ FilterOrder (run order done).metadata (run order calls).orderedIds :=
  (run_inv order calls).2

instance : HasFilterMetadata FilterMetadata := ⟨id⟩

/-- While two filters wait for each other, a filter that is removed stays in the order. -/
theorem registry_names_removed :
    "a" ∈ (run .entries [.register (⟨"a", .normal, [], []⟩ : FilterMetadata),
        .register ⟨"b", .normal, ["c"], []⟩, .register ⟨"c", .normal, ["b"], []⟩,
        .unregister "a"]).orderedIds ∧
      "a" ∉ (run .entries [.register (⟨"a", .normal, [], []⟩ : FilterMetadata),
        .register ⟨"b", .normal, ["c"], []⟩, .register ⟨"c", .normal, ["b"], []⟩,
        .unregister "a"]).metadata.map (·.id) := by
  decide +kernel

end FilterRegistry

end Infrarust
