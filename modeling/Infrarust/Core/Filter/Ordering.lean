import Infrarust.Core.Filter.Registry
import Infrarust.Lib.Kahn

/-!
# `Infrarust.Core.Filter.Ordering`: the order in which filters run

`resolveFilterOrder` sorts the filters topologically. A filter names others that it runs after and
others that it runs before, and names of filters that are not there are ignored. Of the filters that
are ready, a heap gives the one of the first priority, and among those of the same priority the one
that was registered first. The heap is kept as the list of its ids in the order in which they are
popped. The order of the hash map in the message about a cycle is the parameter `order`.
-/

set_option autoImplicit false

namespace Infrarust

/-- The discriminant of a priority, by which priorities are compared. -/
def FilterPriority.toNat : FilterPriority → Nat
  | first => 0
  | early => 1
  | normal => 2
  | late => 3
  | last => 4

variable (filters : List FilterMetadata)

/-- The `priority_map` of `resolve_filter_order`: the priority of a filter and its place. -/
def priorityMap : Dict String (FilterPriority × Nat) :=
  Dict.collect (·.1.id) (fun entry => some (entry.1.priority, entry.2)) filters.zipIdx

/-- What `PriorityEntry::cmp` compares. Every id in the heap is in the map. -/
def priorityKey (id : String) : Nat ×ₗ Nat :=
  match (priorityMap filters).lookup id with
  | some (priority, insertionOrder) => toLex (priority.toNat, insertionOrder)
  | none => toLex (0, 0)

/-- `BinaryHeap::push`. The comparison is reversed, so the heap pops the least entry. -/
def pushByPriority (heap : List String) (id : String) : List String :=
  heap.orderedInsert (fun a b => priorityKey filters a ≤ priorityKey filters b) id

/-- The graph of `resolve_filter_order`: the filters, then the `after` constraints, then the
`before` constraints. -/
def filterGraph : Kahn.Graph String :=
  let graph := filters.foldl (fun graph f => graph.addNode f.id) .empty
  let graph := filters.foldl (fun graph f =>
    f.after.foldl (fun graph dep =>
      if filters.any fun g => g.id = dep then graph.addEdge dep f.id else graph) graph) graph
  filters.foldl (fun graph f =>
    f.before.foldl (fun graph target =>
      if filters.any fun g => g.id = target then graph.addEdge f.id target else graph) graph) graph

/-- The loop of `resolve_filter_order`. The heap starts with the filters that wait for none. -/
def sortFilters : Kahn.State String :=
  let graph := filterGraph filters
  let ready := filters.filter fun f => graph.inDegree.lookup f.id = some 0
  graph.sortFrom (pushByPriority filters)
    { inDegree := graph.inDegree
      queue := (ready.map (·.id)).foldl (pushByPriority filters) []
      sorted := [] }

def resolveFilterOrder (order : Dict.Order String Nat) (filters : List FilterMetadata) :
    Except String (List String) :=
  if filters.isEmpty then .ok []
  else
    let result := sortFilters filters
    if result.sorted.length = filters.length then .ok result.sorted
    else
      let remaining := ((order.iter result.inDegree).filter fun entry => 0 < entry.2).map Prod.fst
      .error ("circular dependency detected involving: " ++ ", ".intercalate remaining)

end Infrarust
