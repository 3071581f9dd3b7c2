import Mathlib.Data.List.AList

/-!
# `Infrarust.Lib.Dict`: finite maps with an unspecified iteration order

A finite map is Mathlib's `AList` at a constant value type. The lemmas here give lookup
after an update as one equation over all keys, and the conditional removal of concurrent
maps. A hash map promises nothing about the order in which it is traversed: `Order` is one
such order, a list of the entries of every map, and `Order.mem_iter` is all a proof may use
about it.
-/

set_option autoImplicit false

/-- A finite map from `K` to `V`. -/
abbrev Dict (K V : Type) := AList fun _ : K => V

namespace Dict

open List AList

variable {K V : Type} [DecidableEq K]

theorem lookup_insert_eq (m : Dict K V) (k k' v) :
    (m.insert k v).lookup k' = if k' = k then some v else m.lookup k' := by
  split
  case isTrue h => rw [h, lookup_insert]
  case isFalse h => exact lookup_insert_ne h

theorem lookup_erase_eq (m : Dict K V) (k k') :
    (m.erase k).lookup k' = if k' = k then none else m.lookup k' := by
  split
  case isTrue h => rw [h, lookup_erase]
  case isFalse h => exact lookup_erase_ne h

variable {m : Dict K V} {k : K} {v : V} {α : Type}

theorem lookup_insert_inv {k' w} (h : (m.insert k v).lookup k' = some w) :
    (k' = k ∧ v = w) ∨ (k' ≠ k ∧ m.lookup k' = some w) := by
  rw [lookup_insert_eq] at h
  split at h
  case isTrue hk => exact .inl ⟨hk, Option.some.inj h⟩
  case isFalse hk => exact .inr ⟨hk, h⟩

/-- What holds of all entries and of a new one holds of all entries after the insertion. -/
theorem forall_insert {P : K → V → Prop} (h : ∀ k v, m.lookup k = some v → P k v) (hv : P k v) :
    ∀ k' v', (m.insert k v).lookup k' = some v' → P k' v' := by
  intro k' v' hget
  rcases lookup_insert_inv hget with ⟨rfl, rfl⟩ | ⟨-, hget⟩
  · exact hv
  · exact h k' v' hget

theorem lookup_erase_inv {k' w} (h : (m.erase k).lookup k' = some w) :
    k' ≠ k ∧ m.lookup k' = some w := by
  rw [lookup_erase_eq] at h
  split at h
  case isTrue => cases h
  case isFalse hk => exact ⟨hk, h⟩

theorem erase_of_lookup_eq_none (h : m.lookup k = none) : m.erase k = m :=
  AList.ext (kerase_of_notMem_keys (lookup_eq_none.mp h))

/-- Removes a key if its value satisfies a condition. -/
def removeIf (m : Dict K V) (k : K) (p : V → Bool) : Dict K V :=
  if (m.lookup k).any p then m.erase k else m

theorem lookup_removeIf (m : Dict K V) (k k') (p : V → Bool) :
    (m.removeIf k p).lookup k' =
      if k' = k then (m.lookup k').filter (fun v => !p v) else m.lookup k' := by
  by_cases hk : k' = k
  · subst hk
    rw [if_pos rfl, removeIf]
    cases hv : m.lookup k' with
    | none => simp [hv]
    | some v => by_cases hp : p v = true <;> simp [hv, hp, Option.filter]
  · rw [if_neg hk, removeIf]
    split
    · exact lookup_erase_ne hk
    · rfl

/-- What a loop of insertions leaves under a key is the last value that was inserted there. -/
theorem lookup_foldl_insert (key : α → K) (value : α → V) (l : List α) (m : Dict K V) (k : K) :
    (l.foldl (fun m a => m.insert (key a) (value a)) m).lookup k =
      ((l.reverse.find? fun a => key a = k).map value).or (m.lookup k) := by
  induction l generalizing m with
  | nil => simp
  | cons a l ih =>
    rw [foldl_cons, ih, lookup_insert_eq, reverse_cons, List.find?_append]
    cases l.reverse.find? fun a => key a = k with
    | some b => rfl
    | none =>
      by_cases hk : key a = k
      · simp [hk]
      · simp [hk, Ne.symm hk]

/-- The loop leaves a value that belongs to the key, or what was there if there is none. -/
theorem lookup_foldl_insert_cases (key : α → K) (value : α → V) (l : List α) (m : Dict K V) (k : K) :
    (∃ a ∈ l, key a = k ∧
      (l.foldl (fun m a => m.insert (key a) (value a)) m).lookup k = some (value a)) ∨
    (∀ a ∈ l, key a ≠ k) ∧
      (l.foldl (fun m a => m.insert (key a) (value a)) m).lookup k = m.lookup k := by
  rw [lookup_foldl_insert]
  cases hfind : l.reverse.find? fun a => key a = k with
  | some a =>
    have hk := List.find?_some hfind
    exact .inl ⟨a, mem_reverse.mp (mem_of_find?_eq_some hfind), of_decide_eq_true hk, rfl⟩
  | none =>
    refine .inr ⟨fun a ha hk => ?_, rfl⟩
    have hne := List.find?_eq_none.mp hfind a (mem_reverse.mpr ha)
    exact hne (decide_eq_true hk)

/-- The map of the elements of a list that have a value, each under its key. -/
def collect {α : Type} (key : α → K) (value : α → Option V) (l : List α) : Dict K V :=
  l.foldl (fun m a =>
    match value a with
    | some v => m.insert (key a) v
    | none => m) ∅

/-- With different keys no element is overwritten. -/
theorem lookup_collect {key value} {l : List α} (hl : (l.map key).Nodup) :
    (collect key value l).lookup k = some v ↔ ∃ a ∈ l, key a = k ∧ value a = some v := by
  -- generalised over the map the loop starts with, which has none of the keys to come
  have hloop : ∀ m : Dict K V, (∀ a ∈ l, m.lookup (key a) = none) →
      ((l.foldl (fun m a =>
          match value a with
          | some v => m.insert (key a) v
          | none => m) m).lookup k = some v ↔
        m.lookup k = some v ∨ ∃ a ∈ l, key a = k ∧ value a = some v) := by
    induction l with
    | nil => simp
    | cons a rest ih =>
      intro m hm
      obtain ⟨hnew, hrest⟩ := nodup_cons.mp hl
      have ha := hm a mem_cons_self
      rw [foldl_cons]
      cases hv : value a with
      | none =>
        rw [ih hrest m fun b hb => hm b (mem_cons_of_mem _ hb)]
        simp [hv]
      | some w =>
        rw [ih hrest]
        · rw [lookup_insert_eq]
          by_cases hk : k = key a
          · subst hk
            simp [hv, ha]
          · simp [hk, Ne.symm hk]
        · intro b hb
          have hne : key b ≠ key a := fun h => hnew (h ▸ mem_map_of_mem hb)
          rw [lookup_insert_eq, if_neg hne]
          exact hm b (mem_cons_of_mem _ hb)
  rw [collect, hloop ∅ fun _ _ => lookup_empty _]
  simp

/-- A statement about all entries is one about a list, so it can be evaluated. -/
theorem forall_lookup_iff {P : K → V → Prop} :
    (∀ k v, m.lookup k = some v → P k v) ↔ ∀ e ∈ m.entries, P e.1 e.2 := by
  constructor
  · rintro h ⟨k, v⟩ he
    exact h k v (mem_lookup_iff.mpr he)
  · intro h k v hv
    exact h ⟨k, v⟩ (mem_lookup_iff.mp hv)

-- before the instances that try all keys of a finite type
instance (priority := 1100) {m : Dict K V} {P : K → V → Prop} [∀ k v, Decidable (P k v)] :
    Decidable (∀ k v, m.lookup k = some v → P k v) :=
  decidable_of_iff _ forall_lookup_iff.symm

instance {m : Dict K V} {v : V} {P : K → Prop} [DecidableEq V] [DecidablePred P] :
    Decidable (∀ k, m.lookup k = some v → P k) :=
  decidable_of_iff (∀ k w, m.lookup k = some w → w = v → P k)
    ⟨fun h k hk => h k v hk rfl, fun h k _ hk hw => h k (hw ▸ hk)⟩

instance {m : Dict K V} {k : K} {P : V → Prop} [DecidablePred P] :
    Decidable (∀ v, m.lookup k = some v → P v) :=
  decidable_of_iff (∀ j v, m.lookup j = some v → j = k → P v)
    ⟨fun h v hv => h k v hv rfl, fun h _ v hv hj => h v (hj ▸ hv)⟩

instance {m : Dict K V} {P : K → V → Prop} [∀ k v, Decidable (P k v)] :
    Decidable (∃ k v, m.lookup k = some v ∧ P k v) :=
  decidable_of_iff (¬∀ k v, m.lookup k = some v → ¬P k v) (by push Not; rfl)

/-- An order in which the entries of every map are visited. -/
structure Order (K V : Type) where
  iter : Dict K V → List (K × V)
  perm : ∀ m, (iter m).Perm (m.entries.map fun e => (e.1, e.2))

/-- The entries in the order of their last insertion, the last one first. -/
def Order.entries : Order K V where
  iter m := m.entries.map fun e => (e.1, e.2)
  perm _ := List.Perm.refl _

namespace Order

variable (o : Order K V)

/-- A traversal visits exactly the entries of the map. -/
theorem mem_iter : (k, v) ∈ o.iter m ↔ m.lookup k = some v := by
  rw [(o.perm m).mem_iff, ← Option.mem_def, mem_lookup_iff]
  constructor
  · intro h
    obtain ⟨e, he, heq⟩ := mem_map.mp h
    cases heq
    exact he
  · intro h
    exact mem_map.mpr ⟨⟨k, v⟩, h, rfl⟩

theorem mem_keys : k ∈ (o.iter m).map Prod.fst ↔ (m.lookup k).isSome := by
  rw [mem_map, Option.isSome_iff_exists]
  constructor
  · rintro ⟨⟨k, v⟩, hent, rfl⟩
    exact ⟨v, o.mem_iter.mp hent⟩
  · rintro ⟨v, hv⟩
    exact ⟨(k, v), o.mem_iter.mpr hv, rfl⟩

omit [DecidableEq K] in
/-- A traversal visits no key twice. -/
theorem nodup_keys (m) : ((o.iter m).map Prod.fst).Nodup := by
  rw [((o.perm m).map Prod.fst).nodup_iff, map_map]
  exact m.keys_nodup

/-- A map that is put together again from some of its entries, visited in any order, has just
these, if the parts that were kept of an entry have its key and its value. -/
theorem lookup_foldl_insert_filter (p : K → Bool) (part : V → α) (key : α → K) (value : α → V)
    (h : ∀ k v, m.lookup k = some v → key (part v) = k ∧ value (part v) = v) (k : K) :
    ((((o.iter m).filter fun entry => p entry.1).map fun entry => part entry.2).foldl
      (fun m a => m.insert (key a) (value a)) (∅ : Dict K V)).lookup k =
      if p k then m.lookup k else none := by
  rcases lookup_foldl_insert_cases key value
      (((o.iter m).filter fun entry => p entry.1).map fun entry => part entry.2) ∅ k with
    ⟨a, ha, rfl, hget⟩ | ⟨hother, hget⟩
  · obtain ⟨⟨k, v⟩, hent, rfl⟩ := mem_map.mp ha
    obtain ⟨hiter, hp⟩ := mem_filter.mp hent
    have hv := o.mem_iter.mp hiter
    obtain ⟨hkey, hval⟩ := h k v hv
    rw [hget]
    show some (value (part v)) = if p (key (part v)) = true then m.lookup (key (part v)) else none
    rw [hkey, hval, if_pos hp, hv]
  · rw [hget, lookup_empty]
    by_cases hp : p k = true
    · rw [if_pos hp]
      cases hv : m.lookup k with
      | none => rfl
      | some v =>
        have hmem : part v ∈ ((o.iter m).filter fun entry => p entry.1).map fun entry =>
            part entry.2 :=
          mem_map.mpr ⟨(k, v), mem_filter.mpr ⟨o.mem_iter.mpr hv, hp⟩, rfl⟩
        exact absurd (h k v hv).1 (hother (part v) hmem)
    · rw [if_neg hp]

end Order

end Dict
