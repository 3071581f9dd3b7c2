import Mathlib.Data.List.Basic

/-!
# `Infrarust.Core.Filter.Registry`: filters and their order

`FilterRegistryBase` is the store of both filter registries. After every change the order of the
filters is worked out again; if that fails, the order from before stays. How the order is found is
a parameter.
-/

set_option autoImplicit false

namespace Infrarust

inductive FilterPriority where
  | first
  | early
  | normal
  | late
  | last
deriving DecidableEq, Repr

structure FilterMetadata where
  id : String
  priority : FilterPriority
  after : List String
  before : List String
deriving DecidableEq, Repr

class HasFilterMetadata (F : Type) where
  metadata : F → FilterMetadata

/-- `FilterRegistryBase`. -/
structure FilterRegistry (F : Type) where
  items : List F
  orderedIds : List String

namespace FilterRegistry

variable {F : Type} [HasFilterMetadata F]
variable (resolveFilterOrder : List FilterMetadata → Except String (List String))

def new : FilterRegistry F := { items := [], orderedIds := [] }

def recalculateOrder (registry : FilterRegistry F) : FilterRegistry F :=
  match resolveFilterOrder (registry.items.map HasFilterMetadata.metadata) with
  | .ok order => { registry with orderedIds := order }
  | .error _ => registry

/-- `register`: a filter of the same id is replaced. -/
def register (item : F) (registry : FilterRegistry F) : FilterRegistry F :=
  let id := (HasFilterMetadata.metadata item).id
  recalculateOrder resolveFilterOrder
    { registry with
      items := registry.items.filter (fun f => (HasFilterMetadata.metadata f).id ≠ id) ++ [item] }

def unregister (filterId : String) (registry : FilterRegistry F) : FilterRegistry F :=
  recalculateOrder resolveFilterOrder
    { registry with
      items := registry.items.filter fun f => (HasFilterMetadata.metadata f).id ≠ filterId }

end FilterRegistry

end Infrarust
