import Infrarust.Core.EventBus

/-!
# `Infrarust.Proofs.Core.EventBus`: handles name one handler each

A slot is a type of events or a kind of packets, and `entriesAt` has the handlers of a slot. In a
well-formed bus no two handlers have the same handle, wherever they are. So the search of
`unsubscribe` can find at most one handler, whatever the order of the maps, and what it leaves in
every slot is the handlers with another handle (`entriesAt_unsubscribe`).
-/

set_option autoImplicit false

namespace Infrarust

open List

namespace EventBus

variable {H : Type}

/-- A list of handlers: that of a type of events or of a kind of packets. -/
abbrev Slot := EventType ⊕ PacketKey

/-- The handlers of a slot. -/
def entriesAt (bus : EventBus H) : Slot → List (HandlerEntry H)
  | .inl eventType => (bus.handlers.lookup eventType).getD []
  | .inr key => (bus.packetHandlers.lookup key).getD []

/-- Handles are given out once. -/
structure WellFormed (bus : EventBus H) : Prop where
  below : ∀ slot, ∀ entry ∈ bus.entriesAt slot, entry.handle < bus.nextHandle
  nodup : ∀ slot, ((bus.entriesAt slot).map HandlerEntry.handle).Nodup
  apart : ∀ slot slot', ∀ entry ∈ bus.entriesAt slot, ∀ entry' ∈ bus.entriesAt slot',
    entry.handle = entry'.handle → slot = slot'

theorem entriesAt_new (slot) : (new : EventBus H).entriesAt slot = [] := by
  cases slot <;> rfl

theorem wellFormed_new : (new : EventBus H).WellFormed := by
  constructor <;> simp [entriesAt_new]

/-! ### Subscribing -/

theorem insertByPriority_perm {entry : HandlerEntry H} {entries : List (HandlerEntry H)} :
    (insertByPriority entry entries).Perm (entry :: entries) := by
  refine perm_middle.trans (List.Perm.cons _ ?_)
  rw [takeWhile_append_dropWhile]

/-- What a new handler changes. -/
structure Adds (bus : EventBus H) (slot : Slot) (entry : HandlerEntry H) (after : EventBus H) :
    Prop where
  self : (after.entriesAt slot).Perm (entry :: bus.entriesAt slot)
  others : ∀ other, other ≠ slot → after.entriesAt other = bus.entriesAt other
  handle : entry.handle = bus.nextHandle
  next : after.nextHandle = bus.nextHandle + 1

theorem adds_subscribe (bus : EventBus H) (eventType priority kind) :
    bus.Adds (.inl eventType) ⟨bus.nextHandle, priority, kind⟩
      (bus.subscribe eventType priority kind).1 where
  self := by
    rw [entriesAt, subscribe, AList.lookup_insert]
    exact insertByPriority_perm
  others other hother := by
    cases other with
    | inl eventType' =>
      rw [entriesAt, subscribe, AList.lookup_insert_ne (fun h => hother (congrArg _ h)), entriesAt]
    | inr key => rfl
  handle := rfl
  next := rfl

theorem adds_subscribePacket (bus : EventBus H) (filter priority kind) :
    bus.Adds (.inr filter) ⟨bus.nextHandle, priority, kind⟩
      (bus.subscribePacket filter priority kind).1 where
  self := by
    rw [entriesAt, subscribePacket, AList.lookup_insert]
    exact insertByPriority_perm
  others other hother := by
    cases other with
    | inl eventType => rfl
    | inr key =>
      rw [entriesAt, subscribePacket, AList.lookup_insert_ne (fun h => hother (congrArg _ h)),
        entriesAt]
  handle := rfl
  next := rfl

variable {bus : EventBus H} {slot : Slot} {entry : HandlerEntry H} {handle : Nat}

/-- A handler of the bus after a subscription is the new one or was there. -/
theorem Adds.mem {after slot' entry'}
    (h : bus.Adds slot entry after) (hmem : entry' ∈ after.entriesAt slot') :
    slot' = slot ∧ entry' = entry ∨ entry' ∈ bus.entriesAt slot' := by
  by_cases hslot : slot' = slot
  · subst hslot
    rcases mem_cons.mp (h.self.mem_iff.mp hmem) with rfl | hold
    · exact .inl ⟨rfl, rfl⟩
    · exact .inr hold
  · rw [h.others slot' hslot] at hmem
    exact .inr hmem

theorem Adds.wellFormed {after} (h : bus.Adds slot entry after)
    (hbus : bus.WellFormed) : after.WellFormed := by
  -- the new handle is above all others
  have hnew : ∀ slot', ∀ entry' ∈ bus.entriesAt slot', entry'.handle ≠ entry.handle := by
    intro slot' entry' hmem
    rw [h.handle]
    exact Nat.ne_of_lt (hbus.below slot' entry' hmem)
  constructor
  · intro slot' entry' hmem
    rw [h.next]
    rcases h.mem hmem with ⟨-, rfl⟩ | hold
    · rw [h.handle]
      exact Nat.lt_succ_self _
    · exact Nat.lt_succ_of_lt (hbus.below slot' entry' hold)
  · intro slot'
    by_cases hslot : slot' = slot
    · subst hslot
      rw [(h.self.map HandlerEntry.handle).nodup_iff, map_cons, nodup_cons]
      refine ⟨fun hmem => ?_, hbus.nodup slot'⟩
      obtain ⟨entry', hent', heq⟩ := mem_map.mp hmem
      exact hnew slot' entry' hent' heq
    · rw [h.others slot' hslot]
      exact hbus.nodup slot'
  · intro slot₁ slot₂ entry₁ hmem₁ entry₂ hmem₂ heq
    rcases h.mem hmem₁ with ⟨rfl, rfl⟩ | hold₁
    · rcases h.mem hmem₂ with ⟨rfl, -⟩ | hold₂
      · rfl
      · exact absurd heq.symm (hnew slot₂ entry₂ hold₂)
    · rcases h.mem hmem₂ with ⟨rfl, rfl⟩ | hold₂
      · exact absurd heq (hnew slot₁ entry₁ hold₁)
      · exact hbus.apart slot₁ slot₂ entry₁ hold₁ entry₂ hold₂ heq

/-! ### Unsubscribing -/

theorem removeHandle_eq_none {K : Type} [DecidableEq K]
    {order : Dict.Order K (List (HandlerEntry H))} {map : Dict K (List (HandlerEntry H))} :
    removeHandle order handle map = none ↔
      ∀ k, ∀ entry ∈ (map.lookup k).getD [], entry.handle ≠ handle := by
  rw [removeHandle, Option.map_eq_none_iff, List.find?_eq_none]
  constructor
  · intro h k entry hent hhdl
    cases hget : map.lookup k with
    | none =>
      rw [hget] at hent
      exact absurd hent not_mem_nil
    | some entries =>
      rw [hget] at hent
      exact h (k, entries) (order.mem_iter.mpr hget)
        (any_eq_true.mpr ⟨entry, hent, decide_eq_true hhdl⟩)
  · rintro h ⟨k, entries⟩ hentries hany
    obtain ⟨entry, hent, hhdl⟩ := any_eq_true.mp hany
    have hget := order.mem_iter.mp hentries
    exact h k entry (by rw [hget]; exact hent) (of_decide_eq_true hhdl)

theorem removeHandle_eq_some {K : Type} [DecidableEq K]
    {order : Dict.Order K (List (HandlerEntry H))} {map map' : Dict K (List (HandlerEntry H))}
    (h : removeHandle order handle map = some map') :
    ∃ k, (∃ entry ∈ (map.lookup k).getD [], entry.handle = handle) ∧
      ∀ k', (map'.lookup k').getD [] =
        if k' = k then ((map.lookup k').getD []).eraseP (·.handle = handle)
        else (map.lookup k').getD [] := by
  rw [removeHandle, Option.map_eq_some_iff] at h
  obtain ⟨⟨k, entries⟩, hfind, rfl⟩ := h
  have hget := order.mem_iter.mp (mem_of_find?_eq_some hfind)
  have hany := List.find?_some hfind
  obtain ⟨entry, hent, hhdl⟩ := any_eq_true.mp hany
  refine ⟨k, ⟨entry, by rw [hget]; exact hent, of_decide_eq_true hhdl⟩, fun k' => ?_⟩
  rw [Dict.lookup_insert_eq]
  by_cases hk : k' = k
  · rw [if_pos hk, if_pos hk, hk, hget]
    rfl
  · rw [if_neg hk, if_neg hk]

theorem filter_of_ne {α : Type} {f : α → Nat} {l : List α} (h : ∀ a ∈ l, f a ≠ handle) :
    l.filter (f · ≠ handle) = l :=
  filter_eq_self.mpr fun a ha => decide_eq_true (h a ha)

/-- With different handles, the first one that fits is the only one. -/
theorem eraseP_eq_filter {α : Type} {f : α → Nat} {l : List α} (h : (l.map f).Nodup) :
    l.eraseP (f · = handle) = l.filter (f · ≠ handle) := by
  induction l with
  | nil => rfl
  | cons a l ih =>
    obtain ⟨ha, hrest⟩ := nodup_cons.mp h
    by_cases hhdl : f a = handle
    · rw [eraseP_cons_of_pos (by simp [hhdl]), filter_cons_of_neg (by simp [hhdl]), filter_of_ne]
      intro other hother hsame
      exact ha (mem_map.mpr ⟨other, hother, hsame.trans hhdl.symm⟩)
    · simp [hhdl, ih hrest]

@[simp] theorem nextHandle_unsubscribe (orders handle) (bus : EventBus H) :
    (bus.unsubscribe orders handle).nextHandle = bus.nextHandle := by
  rw [unsubscribe]
  split
  · rfl
  · split <;> rfl

/-- The handlers with another handle stay. -/
theorem entriesAt_unsubscribe (hbus : bus.WellFormed) (orders handle slot) :
    (bus.unsubscribe orders handle).entriesAt slot =
      (bus.entriesAt slot).filter (·.handle ≠ handle) := by
  -- a slot other than the one with the handle has no such handler
  have hother : ∀ found, (∃ entry ∈ bus.entriesAt found, entry.handle = handle) →
      slot ≠ found → (bus.entriesAt slot).filter (·.handle ≠ handle) = bus.entriesAt slot := by
    rintro found ⟨entry, hent, hhdl⟩ hne
    refine filter_of_ne fun entry' hent' hhdl' => hne ?_
    exact hbus.apart slot found entry' hent' entry hent (hhdl'.trans hhdl.symm)
  rw [unsubscribe]
  cases hremove : removeHandle orders.handlers handle bus.handlers with
  | some handlers =>
    obtain ⟨eventType, hfound, hget⟩ := removeHandle_eq_some hremove
    cases slot with
    | inl eventType' =>
      rw [show ({ bus with handlers } : EventBus H).entriesAt (.inl eventType') = _ from
        hget eventType']
      split
      case isTrue => exact eraseP_eq_filter (hbus.nodup (.inl eventType'))
      case isFalse hne =>
        exact (hother (.inl eventType) hfound (fun h => hne (Sum.inl.inj h))).symm
    | inr key => exact (hother (.inl eventType) hfound Sum.inr_ne_inl).symm
  | none =>
    have hnone := removeHandle_eq_none.mp hremove
    cases hremove' : removeHandle orders.packetHandlers handle bus.packetHandlers with
    | some packetHandlers =>
      obtain ⟨key, hfound, hget⟩ := removeHandle_eq_some hremove'
      cases slot with
      | inl eventType => exact (filter_of_ne (hnone eventType)).symm
      | inr key' =>
        refine (hget key').trans ?_
        split
        case isTrue => exact eraseP_eq_filter (hbus.nodup (.inr key'))
        case isFalse hne =>
          exact (hother (.inr key) hfound (fun h => hne (Sum.inr.inj h))).symm
    | none =>
      have hnone' := removeHandle_eq_none.mp hremove'
      cases slot with
      | inl eventType => exact (filter_of_ne (hnone eventType)).symm
      | inr key => exact (filter_of_ne (hnone' key)).symm

theorem mem_entriesAt_unsubscribe (hbus : bus.WellFormed) {orders} :
    entry ∈ (bus.unsubscribe orders handle).entriesAt slot ↔
      entry ∈ bus.entriesAt slot ∧ entry.handle ≠ handle := by
  rw [entriesAt_unsubscribe hbus, mem_filter, decide_eq_true_iff]

theorem WellFormed.unsubscribe (hbus : bus.WellFormed) (orders handle) :
    (bus.unsubscribe orders handle).WellFormed where
  below slot entry hent := by
    rw [nextHandle_unsubscribe]
    exact hbus.below slot entry ((mem_entriesAt_unsubscribe hbus).mp hent).1
  nodup slot := by
    rw [entriesAt_unsubscribe hbus]
    exact (hbus.nodup slot).sublist (filter_sublist.map _)
  apart slot slot' entry hent entry' hent' :=
    hbus.apart slot slot' entry ((mem_entriesAt_unsubscribe hbus).mp hent).1 entry'
      ((mem_entriesAt_unsubscribe hbus).mp hent').1

/-- All handles of a list are unsubscribed. -/
theorem foldl_unsubscribe (hbus : bus.WellFormed) (orders) (handles : List Nat) :
    (handles.foldl (fun bus handle => bus.unsubscribe orders handle) bus).WellFormed ∧
      ∀ slot entry,
        entry ∈ (handles.foldl (fun bus handle => bus.unsubscribe orders handle) bus).entriesAt
            slot ↔
          entry ∈ bus.entriesAt slot ∧ entry.handle ∉ handles := by
  induction handles generalizing bus with
  | nil => exact ⟨hbus, fun _ _ => by simp⟩
  | cons handle handles ih =>
    obtain ⟨hafter, hmem⟩ := ih (hbus.unsubscribe orders handle)
    refine ⟨hafter, fun slot entry => ?_⟩
    rw [foldl_cons, hmem, mem_entriesAt_unsubscribe hbus, mem_cons, not_or, and_assoc]

end EventBus

end Infrarust
