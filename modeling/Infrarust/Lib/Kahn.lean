import Infrarust.Lib.Dict
import Infrarust.Lib.Machine
import Mathlib.Order.WellFoundedSet

/-!
# `Infrarust.Lib.Kahn`: topological sort by counting the edges into a node

A graph is kept as two maps: the number of edges into every node, and for every node the targets
of its edges, one for each edge. The sort takes a node without an edge into it, appends it to the
result and takes one from the number of each of its targets. A target whose number becomes `0`
goes into the queue, where `push` puts it: to the end, or to its place in an order.

`Graph.Holds g nodes edges` says what the two maps stand for. The loop takes one edge after the
other, all of those out of a node when it sorts the node. `Inv` has the edges that are left: the
number of a node counts them, and what is sorted or queued are the nodes without one. From `Inv`
at the end of the loop:

- `Inv.ordered`: the source of an edge comes before its target;
- `Inv.least`: a node comes before the others that were ready, if the queue is kept in order;
- `Inv.length_sorted_iff`: all nodes are sorted if and only if the graph has no cycle.

An edge can occur twice. Then it counts twice, and its target is in the list of its source twice.
-/

set_option autoImplicit false

namespace Kahn

open List

variable {α : Type} [DecidableEq α]

/-! ### The algorithm -/

/-- The number of edges into each node, and the targets of the edges out of it. -/
structure Graph (α : Type) where
  inDegree : Dict α Nat
  dependents : Dict α (List α)

/-- The graph without nodes. -/
def Graph.empty : Graph α := ⟨∅, ∅⟩

/-- Adds a node, if it is not there. -/
def Graph.addNode (g : Graph α) (node : α) : Graph α :=
  match g.inDegree.lookup node with
  | some _ => g
  | none => { g with inDegree := g.inDegree.insert node 0 }

/-- Adds an edge. -/
def Graph.addEdge (g : Graph α) (source target : α) : Graph α where
  inDegree := g.inDegree.insert target ((g.inDegree.lookup target).getD 0 + 1)
  dependents := g.dependents.insert source ((g.dependents.lookup source).getD [] ++ [target])

/-- What the loop changes. -/
structure State (α : Type) where
  inDegree : Dict α Nat
  queue : List α
  sorted : List α

/-- Takes one from the number of a node, which is queued when nothing is left. -/
def relax (push : List α → α → List α) (s : State α) (node : α) : State α :=
  match s.inDegree.lookup node with
  | none => s
  | some degree =>
    let s := { s with inDegree := s.inDegree.insert node (degree - 1) }
    if degree - 1 = 0 then { s with queue := push s.queue node } else s

/-- Sorts the nodes of the queue until it is empty. -/
def drain (push : List α → α → List α) (dependents : Dict α (List α)) :
    Nat → State α → State α
  | 0, s => s
  | fuel + 1, s =>
    match s.queue with
    | [] => s
    | node :: rest =>
      drain push dependents fuel <| ((dependents.lookup node).getD []).foldl (relax push)
          { s with queue := rest, sorted := s.sorted ++ [node] }

variable (order : Dict.Order α Nat)

/-- The loop starts with the nodes that have no edge into them. -/
def Graph.start (g : Graph α) : State α where
  inDegree := g.inDegree
  queue := ((order.iter g.inDegree).filter fun entry => entry.2 = 0).map Prod.fst
  sorted := []

/-- Every node is sorted at most once, so the loop ends after as many rounds as there are
nodes. -/
def Graph.sortFrom (push : List α → α → List α) (start : State α) (g : Graph α) : State α :=
  drain push g.dependents g.inDegree.entries.length start

/-- The sort with a queue that is served in the order of arrival. -/
def Graph.sort (g : Graph α) : State α :=
  g.sortFrom (fun queue node => queue ++ [node]) (g.start order)

/-! ### What the maps stand for -/

/-- The maps of a graph are those of the given nodes and edges. -/
structure Graph.Holds (g : Graph α) (nodes : List α) (edges : List (α × α)) : Prop where
  degree : ∀ a, g.inDegree.lookup a =
    if a ∈ nodes then some (edges.countP fun e => e.2 = a) else none
  targets : ∀ a, (g.dependents.lookup a).getD [] = (edges.filter fun e => e.1 = a).map Prod.snd
  target_mem : ∀ e ∈ edges, e.2 ∈ nodes

theorem Graph.Holds.empty : (Graph.empty : Graph α).Holds [] [] where
  degree _ := AList.lookup_empty _
  targets _ := by
    rfl
  target_mem := nofun

variable {g : Graph α}

theorem Graph.Holds.addNode {nodes edges} (h : g.Holds nodes edges)
    (node) : (g.addNode node).Holds (nodes ++ [node]) edges := by
  have hmem : ∀ e ∈ edges, e.2 ∈ nodes ++ [node] := fun e he =>
    mem_append_left _ (h.target_mem e he)
  by_cases hnode : node ∈ nodes
  · have hold : g.addNode node = g := by
      rw [Graph.addNode, h.degree, if_pos hnode]
    rw [hold]
    refine ⟨fun a => ?_, h.targets, hmem⟩
    have hiff : a ∈ nodes ++ [node] ↔ a ∈ nodes := by
      rw [mem_append, mem_singleton]
      exact ⟨fun ha => ha.elim id fun ha => ha ▸ hnode, .inl⟩
    simp only [h.degree, hiff]
  · have hnew : g.addNode node = { g with inDegree := g.inDegree.insert node 0 } := by
      rw [Graph.addNode, h.degree, if_neg hnode]
    rw [hnew]
    refine ⟨fun a => ?_, h.targets, hmem⟩
    show (g.inDegree.insert node 0).lookup a = _
    rw [Dict.lookup_insert_eq, h.degree]
    by_cases ha : a = node
    · subst ha
      -- no edge leads to a node that was not there
      have hzero : edges.countP (fun e => e.2 = a) = 0 := by
        rw [countP_eq_zero]
        intro e he hea
        exact hnode (of_decide_eq_true hea ▸ h.target_mem e he)
      rw [if_pos rfl, if_pos (mem_append_right _ (mem_singleton_self a)), hzero]
    · simp [ha]

theorem Graph.Holds.addEdge {nodes edges} (h : g.Holds nodes edges)
    (source) {target} (ht : target ∈ nodes) :
    (g.addEdge source target).Holds nodes (edges ++ [(source, target)]) where
  degree a := by
    show (g.inDegree.insert target _).lookup a = _
    rw [Dict.lookup_insert_eq, h.degree, h.degree, if_pos ht, countP_append]
    by_cases ha : a = target
    · subst ha
      simp [ht]
    · simp [ha, Ne.symm ha]
  targets a := by
    show ((g.dependents.insert source _).lookup a).getD [] = _
    rw [Dict.lookup_insert_eq, h.targets, filter_append, map_append]
    by_cases ha : a = source
    · subst ha
      simp
    · rw [if_neg ha, h.targets]
      simp [Ne.symm ha]
  target_mem e he := by
    rcases mem_append.mp he with he | he
    · exact h.target_mem e he
    · rw [mem_singleton.mp he]
      exact ht

/-- A loop that adds edges, some in each round. -/
theorem Graph.Holds.foldl {β : Type} {nodes edges step new} (l : List β)
    (hstep : ∀ x ∈ l, ∀ g edges, g.Holds nodes edges → (step g x).Holds nodes (edges ++ new x))
    (h : g.Holds nodes edges) : (l.foldl step g).Holds nodes (edges ++ l.flatMap new) := by
  induction l generalizing g edges with
  | nil => simpa using h
  | cons x l ih =>
    rw [foldl_cons, flatMap_cons, ← append_assoc]
    exact ih (fun y hy => hstep y (mem_cons_of_mem x hy)) (hstep x mem_cons_self g edges h)

/-- A round that adds an edge if a test is passed. -/
theorem Graph.Holds.addEdge_if {nodes edges} (h : g.Holds nodes edges)
    (c : Prop) [Decidable c] (source) {target} (ht : c → target ∈ nodes) :
    (if c then g.addEdge source target else g).Holds nodes
      (edges ++ if c then [(source, target)] else []) := by
  split
  case isTrue hc => exact h.addEdge source (ht hc)
  case isFalse => rwa [append_nil]

/-! ### The loop -/

/-- Every node of the list comes after the sources of the edges into it. -/
def Ordered (edges : List (α × α)) (l : List α) : Prop :=
  Trace.Each (fun before a => ∀ source, (source, a) ∈ edges → source ∈ before) l

/-- Every node of the list comes before the other nodes that are ready then. -/
def Least (le : α → α → Prop) (nodes : List α) (edges : List (α × α)) (l : List α) : Prop :=
  Trace.Each (fun before a => ∀ b ∈ nodes, b ∉ before →
    (∀ source, (source, b) ∈ edges → source ∈ before) → b = a ∨ le a b) l

/-- A way to queue a node which keeps the queue in order. -/
structure Pushes (le : α → α → Prop) (push : List α → α → List α) : Prop where
  perm : ∀ queue node, (push queue node).Perm (queue ++ [node])
  pairwise : ∀ queue node, queue.Pairwise le → (push queue node).Pairwise le

omit [DecidableEq α] in
theorem pushes_append : Pushes (fun _ _ => True) fun (queue : List α) node => queue ++ [node] where
  perm _ _ := .refl _
  pairwise _ _ _ := pairwise_iff_getElem.mpr fun _ _ _ _ _ => trivial

omit [DecidableEq α] in
/-- Queueing a list of nodes. -/
theorem Pushes.foldl {le push} (h : Pushes le push)
    (nodes : List α) {queue : List α} (hqueue : queue.Pairwise le) :
    (nodes.foldl push queue).Perm (queue ++ nodes) ∧ (nodes.foldl push queue).Pairwise le := by
  induction nodes generalizing queue with
  | nil => exact ⟨by rw [append_nil]; exact .refl _, hqueue⟩
  | cons node nodes ih =>
    obtain ⟨hperm, hpairwise⟩ := ih (h.pairwise queue node hqueue)
    rw [append_cons]
    exact ⟨hperm.trans ((h.perm queue node).append_right nodes), hpairwise⟩

/-- The state when the edges `left` are still to be taken. -/
structure Inv (le : α → α → Prop) (nodes : List α) (edges left : List (α × α)) (s : State α) :
    Prop where
  left_mem : ∀ e ∈ left, e ∈ edges
  taken : ∀ e ∈ edges, e ∈ left ∨ e.1 ∈ s.sorted
  degree : ∀ a, s.inDegree.lookup a =
    if a ∈ nodes then some (left.countP fun e => e.2 = a) else none
  ready : ∀ a, a ∈ s.sorted ++ s.queue ↔ s.inDegree.lookup a = some 0
  nodup : (s.sorted ++ s.queue).Nodup
  queued : s.queue.Pairwise le
  ordered : Ordered edges s.sorted
  least : Least le nodes edges s.sorted

/-- The edges out of the nodes that are not sorted. -/
def unsorted (edges : List (α × α)) (sorted : List α) : List (α × α) := edges.filter (·.1 ∉ sorted)

variable {le : α → α → Prop} {push : List α → α → List α} {nodes : List α}
  {edges left left' : List (α × α)} {s : State α}

/-- At the start the nodes without an edge into them are queued. -/
theorem Inv.start (hg : g.Holds nodes edges) {queue}
    (hready : ∀ a, a ∈ queue ↔ g.inDegree.lookup a = some 0) (hnodup : queue.Nodup)
    (hqd : queue.Pairwise le) :
    Inv le nodes edges edges { inDegree := g.inDegree, queue := queue, sorted := [] } where
  left_mem _ he := he
  taken _ he := .inl he
  degree := hg.degree
  ready := hready
  nodup := hnodup
  queued := hqd
  ordered := Trace.Each.nil
  least := Trace.Each.nil

theorem Inv.perm (h : Inv le nodes edges left s) (hperm : left.Perm left') :
    Inv le nodes edges left' s where
  __ := h
  left_mem e he := h.left_mem e (hperm.mem_iff.mpr he)
  taken e he := (h.taken e he).imp_left hperm.mem_iff.mp
  degree a := by rw [h.degree, hperm.countP_eq]

/-- Taking an edge. Its target had it, so it was not queued before. -/
theorem Inv.relax {e} (hpush : Pushes le push) (hg : ∀ e ∈ edges, e.2 ∈ nodes)
    (h : Inv le nodes edges (e :: left) s) (hsource : e.1 ∈ s.sorted) :
    Inv le nodes edges left (relax push s e.2) ∧ (relax push s e.2).sorted = s.sorted := by
  have hmem : e.2 ∈ nodes := hg e (h.left_mem e mem_cons_self)
  generalize hcount : left.countP (fun e' => e'.2 = e.2) = n
  have hget : s.inDegree.lookup e.2 = some (n + 1) := by
    rw [h.degree, if_pos hmem, countP_cons_of_pos (by simp), hcount]
  have hnew : e.2 ∉ s.sorted ++ s.queue := by simp [h.ready, hget]
  have hrelax : Kahn.relax push s e.2 =
      { s with
        inDegree := s.inDegree.insert e.2 n
        queue := if n = 0 then push s.queue e.2 else s.queue } := by
    rw [Kahn.relax, hget]
    by_cases hn : n = 0 <;> simp [hn]
  -- the queue has the target in some place, if no edge into it is left
  have hqueue : (s.sorted ++ if n = 0 then push s.queue e.2 else s.queue).Perm
      (s.sorted ++ s.queue ++ if n = 0 then [e.2] else []) := by
    split
    · rw [append_assoc]
      exact (hpush.perm _ _).append_left _
    · rw [append_nil]
  rw [hrelax]
  refine ⟨⟨fun e' he' => h.left_mem e' (mem_cons_of_mem e he'), fun e' he' => ?_, fun a => ?_,
    fun a => ?_, hqueue.nodup_iff.mpr ?_, ?_, h.ordered, h.least⟩, rfl⟩
  · rcases h.taken e' he' with hleft | hsorted
    · rcases mem_cons.mp hleft with rfl | hleft
      · exact .inr hsource
      · exact .inl hleft
    · exact .inr hsorted
  · rw [Dict.lookup_insert_eq, h.degree]
    by_cases ha : a = e.2
    · subst ha
      rw [if_pos rfl, if_pos hmem, hcount]
    · rw [if_neg ha, countP_cons_of_neg (by simpa using Ne.symm ha)]
  · rw [hqueue.mem_iff, mem_append, h.ready, Dict.lookup_insert_eq]
    by_cases ha : a = e.2
    · subst ha
      by_cases hn : n = 0
      · simp [hn]
      · simp [hn, hget]
    · by_cases hn : n = 0 <;> simp [hn, ha]
  · split
    · exact nodup_append.mpr ⟨h.nodup, nodup_singleton _, fun a ha b hb hab =>
        hnew (mem_singleton.mp hb ▸ hab ▸ ha)⟩
    · rw [append_nil]
      exact h.nodup
  · show (if n = 0 then push s.queue e.2 else s.queue).Pairwise le
    split
    · exact hpush.pairwise _ _ h.queued
    · exact h.queued

/-- Taking all edges out of sorted nodes. -/
theorem Inv.foldl_relax {out} (hpush : Pushes le push)
    (hg : ∀ e ∈ edges, e.2 ∈ nodes) (h : Inv le nodes edges (out ++ left) s)
    (hsource : ∀ e ∈ out, e.1 ∈ s.sorted) :
    Inv le nodes edges left ((out.map Prod.snd).foldl (Kahn.relax push) s) ∧
      ((out.map Prod.snd).foldl (Kahn.relax push) s).sorted = s.sorted := by
  induction out generalizing s with
  | nil => exact ⟨h, rfl⟩
  | cons e out ih =>
    obtain ⟨hstep, hsorted⟩ := h.relax hpush hg (hsource e mem_cons_self)
    obtain ⟨hrest, hsorted'⟩ := ih hstep fun e' he' =>
      hsorted ▸ hsource e' (mem_cons_of_mem e he')
    exact ⟨hrest, hsorted'.trans hsorted⟩

/-- A node is sorted or queued just when no edge into it is left. -/
theorem Inv.ready_iff (h : Inv le nodes edges left s) {a} (ha : a ∈ nodes) :
    a ∈ s.sorted ++ s.queue ↔ ∀ e ∈ left, e.2 ≠ a := by
  rw [h.ready, h.degree, if_pos ha, Option.some.injEq, countP_eq_zero]
  simp

theorem Inv.mem_nodes (h : Inv le nodes edges left s) {a} (ha : a ∈ s.sorted ++ s.queue) :
    a ∈ nodes := by
  rw [h.ready, h.degree] at ha
  by_contra hmem
  rw [if_neg hmem] at ha
  cases ha

/-- Sorting a node takes its edges from those out of unsorted nodes. -/
theorem unsorted_perm (edges : List (α × α)) {sorted node} (hnode : node ∉ sorted) :
    (unsorted edges sorted).Perm
      (edges.filter (·.1 = node) ++ unsorted edges (sorted ++ [node])) := by
  have hout : edges.filter (·.1 = node) = (unsorted edges sorted).filter (·.1 = node) := by
    rw [unsorted, filter_filter]
    refine filter_congr fun e _ => ?_
    by_cases he : e.1 = node
    · simp [he, hnode]
    · simp [he]
  have hother : unsorted edges (sorted ++ [node])
      = (unsorted edges sorted).filter (fun e => !decide (e.1 = node)) := by
    simp [unsorted, filter_filter, not_or, and_comm]
  rw [hout, hother]
  exact (filter_append_perm _ _).symm

/-- One round of the loop, which takes the edges out of the node at the front. -/
theorem Inv.round {node rest} (hpush : Pushes le push) (hg : g.Holds nodes edges)
    (h : Inv le nodes edges (unsorted edges s.sorted) s) (hqueue : s.queue = node :: rest) :
    let s' := ((g.dependents.lookup node).getD []).foldl (Kahn.relax push)
      { s with queue := rest, sorted := s.sorted ++ [node] }
    Inv le nodes edges (unsorted edges s'.sorted) s' ∧ s'.sorted = s.sorted ++ [node] := by
  have hready : s.sorted ++ s.queue = s.sorted ++ [node] ++ rest := by
    rw [hqueue, append_cons]
  have hnode : node ∈ s.sorted ++ s.queue := by simp [hready]
  have hnodup := hready ▸ h.nodup
  have hfst := pairwise_cons.mp (hqueue ▸ h.queued)
  have hnew : node ∉ s.sorted := fun hsorted =>
    (nodup_append.mp (nodup_append.mp hnodup).1).2.2 node hsorted node (by simp) rfl
  have hperm := h.perm (unsorted_perm edges hnew)
  have hmoved : Inv le nodes edges
      (edges.filter (·.1 = node) ++ unsorted edges (s.sorted ++ [node]))
      { s with queue := rest, sorted := s.sorted ++ [node] } :=
    { hperm with
      taken := fun e he => (hperm.taken e he).imp_right (mem_append_left _)
      ready := fun a => by rw [← h.ready, hready]
      nodup := hnodup
      queued := hfst.2
      ordered := h.ordered.snoc fun source hedge => by
        refine (h.taken _ hedge).resolve_left fun hleft => ?_
        exact (h.ready_iff (h.mem_nodes hnode)).mp hnode _ hleft rfl
      least := h.least.snoc fun b hb hbnew hsources => by
        have hbready := (h.ready_iff hb).mpr fun e he htgt => by
          obtain ⟨hedge, hsrc⟩ := mem_filter.mp he
          exact of_decide_eq_true hsrc (hsources e.1 (htgt ▸ hedge))
        have hbqueue := (mem_append.mp hbready).resolve_left hbnew
        exact (mem_cons.mp (hqueue ▸ hbqueue)).imp_right (hfst.1 b) }
  rw [hg.targets]
  obtain ⟨hround, hsorted⟩ := hmoved.foldl_relax hpush hg.target_mem fun e he => by
    simp [of_decide_eq_true (mem_filter.mp he).2]
  exact ⟨by rw [hsorted]; exact hround, hsorted⟩

/-- What is sorted or queued is a part of the nodes. -/
theorem Inv.length_le (h : Inv le nodes edges left s) :
    s.sorted.length + s.queue.length ≤ nodes.length := by
  rw [← length_append]
  exact (subperm_of_subset h.nodup fun a ha => h.mem_nodes ha).length_le

/-- With a round for every node that is not sorted the queue becomes empty. -/
theorem Inv.drain (hpush : Pushes le push) (hg : g.Holds nodes edges) (fuel)
    (h : Inv le nodes edges (unsorted edges s.sorted) s)
    (hfuel : nodes.length ≤ s.sorted.length + fuel) :
    let s' := drain push g.dependents fuel s
    Inv le nodes edges (unsorted edges s'.sorted) s' ∧ s'.queue = [] := by
  induction fuel generalizing s with
  | zero =>
    have hle := h.length_le
    refine ⟨h, ?_⟩
    show s.queue = []
    rw [← length_eq_zero_iff]
    omega
  | succ fuel ih =>
    rw [Kahn.drain]
    cases hqueue : s.queue with
    | nil => exact ⟨h, hqueue⟩
    | cons node rest =>
      obtain ⟨hround, hsorted⟩ := h.round hpush hg hqueue
      refine ih hround ?_
      rw [hsorted, length_append, length_singleton]
      omega

/-! ### The result -/

theorem Graph.Holds.length_le (hg : g.Holds nodes edges) (hnodes : nodes.Nodup) :
    nodes.length ≤ g.inDegree.entries.length := by
  have hsub : nodes ⊆ g.inDegree.keys := by
    intro a ha
    rw [← AList.mem_keys, ← AList.lookup_isSome, hg.degree, if_pos ha]
    rfl
  have hle := (subperm_of_subset hnodes hsub).length_le
  rwa [AList.keys, List.keys, length_map] at hle

/-- The loop ends with an empty queue. -/
theorem Inv.sortFrom (hpush : Pushes le push) (hg : g.Holds nodes edges) (hnodes : nodes.Nodup)
    {start} (h : Inv le nodes edges edges start) (hstart : start.sorted = []) :
    Inv le nodes edges (unsorted edges (g.sortFrom push start).sorted) (g.sortFrom push start) ∧
      (g.sortFrom push start).queue = [] := by
  have hall : edges = unsorted edges start.sorted := by simp [unsorted, hstart]
  refine (h.perm (.of_eq hall)).drain hpush hg _ ?_
  exact (hg.length_le hnodes).trans (Nat.le_add_left _ _)

theorem Inv.sort (hg : g.Holds nodes edges) (hnodes : nodes.Nodup) :
    Inv (fun _ _ => True) nodes edges (unsorted edges (g.sort order).sorted) (g.sort order) ∧
      (g.sort order).queue = [] := by
  refine Inv.sortFrom pushes_append hg hnodes (Inv.start hg (fun a => ?_) ?_ ?_) rfl
  · rw [← order.mem_iter]
    simp
  · exact (order.nodup_keys _).sublist (filter_sublist.map _)
  · exact pairwise_iff_getElem.mpr fun _ _ _ _ _ => trivial

/-- No way along the edges leads from a node back to it. -/
def Acyclic (edges : List (α × α)) : Prop :=
  ∀ a, ¬Relation.TransGen (fun source target => (source, target) ∈ edges) a a

omit [DecidableEq α] in
/-- In an ordered list a node comes after everything that leads to it. -/
theorem Ordered.mem_of_transGen {l} (h : Ordered edges l) {a b}
    (hab : Relation.TransGen (fun source target => (source, target) ∈ edges) a b)
    {before after} (hl : l = before ++ b :: after) : a ∈ before := by
  induction hab generalizing before after with
  | single hedge => exact h _ _ _ hl _ hedge
  | tail _ hedge ih =>
    obtain ⟨first, second, hsplit⟩ := append_of_mem (h _ _ _ hl _ hedge)
    rw [hsplit, append_assoc, cons_append] at hl
    rw [hsplit]
    exact mem_append_left _ (ih hl)

omit [DecidableEq α] in
theorem Ordered.acyclic {l} (h : Ordered edges l) (hnodup : l.Nodup)
    (hmem : ∀ e ∈ edges, e.2 ∈ l) : Acyclic edges := by
  intro a ha
  obtain ⟨b, -, hedge⟩ := Relation.TransGen.tail'_iff.mp ha
  obtain ⟨before, after, hsplit⟩ := append_of_mem (hmem _ hedge)
  have hpre := h.mem_of_transGen ha hsplit
  rw [hsplit] at hnodup
  exact (nodup_append.mp hnodup).2.2 a hpre a mem_cons_self rfl

/-- When the queue is empty, every node that is left has a source that is left. Without a cycle
there would be a first one. -/
theorem Inv.mem_sorted (h : Inv le nodes edges (unsorted edges s.sorted) s) (hqueue : s.queue = [])
    (hsource : ∀ e ∈ edges, e.1 ∈ nodes) (hacyc : Acyclic edges) :
    ∀ a ∈ nodes, a ∈ s.sorted := by
  by_contra hleft
  push Not at hleft
  obtain ⟨a, ha, hunsorted⟩ := hleft
  have : IsStrictOrder α (Relation.TransGen fun source target => (source, target) ∈ edges) :=
    { irrefl := hacyc, trans := fun _ _ _ => Relation.TransGen.trans }
  have hfinite : {a | a ∈ nodes ∧ a ∉ s.sorted}.Finite := nodes.finite_toSet.subset fun _ hb => hb.1
  obtain ⟨⟨b, hb, hbunsorted⟩, -, hmin⟩ := (hfinite.wellFoundedOn
    (r := Relation.TransGen fun source target => (source, target) ∈ edges)).has_min
      Set.univ ⟨⟨a, ha, hunsorted⟩, trivial⟩
  refine absurd ((h.ready_iff hb).mpr fun e he htgt => ?_) (by simpa [hqueue] using hbunsorted)
  obtain ⟨hedge, hsrc⟩ := mem_filter.mp he
  subst htgt
  exact hmin ⟨e.1, hsource _ hedge, of_decide_eq_true hsrc⟩ trivial (.single hedge)

/-- A result of full length has every node. -/
theorem Inv.perm_sorted (h : Inv le nodes edges left s)
    (hlen : s.sorted.length = nodes.length) : s.sorted.Perm nodes :=
  (subperm_of_subset (nodup_append.mp h.nodup).1 fun _ ha =>
    h.mem_nodes (mem_append_left _ ha)).perm_of_length_le hlen.ge

/-- All nodes are sorted if and only if there is no cycle. -/
theorem Inv.length_sorted_iff (h : Inv le nodes edges (unsorted edges s.sorted) s)
    (hqueue : s.queue = []) (hnodes : nodes.Nodup)
    (hedges : ∀ e ∈ edges, e.1 ∈ nodes ∧ e.2 ∈ nodes) :
    s.sorted.length = nodes.length ↔ Acyclic edges := by
  constructor
  · intro hlen
    refine h.ordered.acyclic (nodup_append.mp h.nodup).1 fun e he => ?_
    exact (h.perm_sorted hlen).mem_iff.mpr (hedges e he).2
  · intro hacyc
    have hall := h.mem_sorted hqueue (fun e he => (hedges e he).1) hacyc
    have hle := h.length_le
    have hge := (subperm_of_subset hnodes hall).length_le
    omega

end Kahn
