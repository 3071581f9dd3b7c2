import Infrarust.Proofs.Core.EventBus

/-!
# `Infrarust.Proofs.Core.EventDispatch`: which handlers an event reaches, and in which order

`Subscriptions` is what the bus is for: the handlers that are subscribed, in the order of the
calls. Every sequence of calls leaves the bus with those handlers, sorted by priority and
otherwise in that order, and with their number in its counter (`dispatches_subscribed`).

An order is compared with the subscriptions one priority at a time. The handlers of a priority are
the same list on both sides, so none is missing, none is called twice, and equal priorities keep
the order of the calls.
-/

set_option autoImplicit false

namespace Infrarust.EventBus

open List

variable {H : Type}

/-! ### Insertion by priority -/

/-- The handlers are sorted by priority, and those of one priority are in the given order. -/
structure DispatchOrder (subscribed order : List (HandlerEntry H)) : Prop where
  sorted : order.Pairwise fun a b => a.priority ≤ b.priority
  stable : ∀ priority, order.filter (·.priority = priority) =
    subscribed.filter (·.priority = priority)

variable {subscribed order : List (HandlerEntry H)} {entry : HandlerEntry H}

theorem DispatchOrder.mem_iff (h : DispatchOrder subscribed order) :
    entry ∈ order ↔ entry ∈ subscribed := by
  have hmem : entry ∈ order.filter (·.priority = entry.priority) ↔
      entry ∈ subscribed.filter (·.priority = entry.priority) := by
    rw [h.stable]
  simpa only [mem_filter, decide_true, and_true] using hmem

theorem DispatchOrder.filter (h : DispatchOrder subscribed order) (p : HandlerEntry H → Bool) :
    DispatchOrder (subscribed.filter p) (order.filter p) where
  sorted := h.sorted.filter p
  stable priority := by
    rw [filter_comm, h.stable, filter_comm]

/-- The handlers behind the place of a new one have a higher priority. -/
theorem lt_of_mem_dropWhile {other} (hsorted : order.Pairwise fun a b => a.priority ≤ b.priority)
    (h : other ∈ order.dropWhile fun h => decide (h.priority ≤ entry.priority)) :
    entry.priority < other.priority := by
  induction order with
  | nil => cases h
  | cons head order ih =>
    obtain ⟨hhead, hrest⟩ := pairwise_cons.mp hsorted
    rw [dropWhile_cons] at h
    split at h
    case isTrue => exact ih hrest h
    case isFalse hgt =>
      have hlt : entry.priority < head.priority := by simpa using hgt
      obtain rfl | h := mem_cons.mp h
      · exact hlt
      · exact UInt8.lt_of_lt_of_le hlt (hhead other h)

theorem DispatchOrder.insertByPriority (h : DispatchOrder subscribed order) (entry) :
    DispatchOrder (subscribed ++ [entry]) (insertByPriority entry order) where
  sorted := by
    have hsorted := h.sorted
    rw [← takeWhile_append_dropWhile (p := fun h => decide (h.priority ≤ entry.priority))
      (l := order), pairwise_append] at hsorted
    obtain ⟨hfront, hback, hcross⟩ := hsorted
    refine pairwise_append.mpr ⟨hfront, pairwise_cons.mpr ⟨?_, hback⟩, ?_⟩
    · exact fun other hother => UInt8.le_of_lt (lt_of_mem_dropWhile h.sorted hother)
    · intro first hfst other hother
      obtain rfl | hother := mem_cons.mp hother
      · exact of_decide_eq_true (all_eq_true.mp all_takeWhile first hfst)
      · exact hcross first hfst other hother
  stable priority := by
    have hsplit := takeWhile_append_dropWhile
      (p := fun h => decide (h.priority ≤ entry.priority)) (l := order)
    rw [filter_append subscribed, ← h.stable, ← congrArg (List.filter _) hsplit]
    unfold Infrarust.insertByPriority
    rw [filter_append, filter_append, filter_cons]
    by_cases hpriority : entry.priority = priority
    · -- the new handler comes behind all others of its priority
      subst hpriority
      have hnone : (order.dropWhile fun h => decide (h.priority ≤ entry.priority)).filter
          (·.priority = entry.priority) = [] := by
        refine filter_eq_nil_iff.mpr fun other hother heq => ?_
        exact UInt8.ne_of_lt (lt_of_mem_dropWhile h.sorted hother) (of_decide_eq_true heq).symm
      simp [hnone]
    · simp [hpriority]

/-! ### Runs -/

/-- The calls that change who is subscribed. -/
inductive Call (H : Type) where
  | subscribe (slot : Slot) (priority : UInt8) (kind : HandlerKind H)
  | unsubscribe (orders : Orders H) (handle : Nat)

def apply (bus : EventBus H) : Call H → EventBus H
  | .subscribe (.inl eventType) priority kind => (bus.subscribe eventType priority kind).1
  | .subscribe (.inr filter) priority kind => (bus.subscribePacket filter priority kind).1
  | .unsubscribe orders handle => bus.unsubscribe orders handle

/-- Who is subscribed to what, in the order of the calls. -/
structure Subscriptions (H : Type) where
  /-- The handle of the next subscription. -/
  next : Nat
  current : List (Slot × HandlerEntry H)

variable {slot : Slot}

namespace Subscriptions

def apply (subs : Subscriptions H) : Call H → Subscriptions H
  | .subscribe slot priority kind =>
    { next := subs.next + 1, current := subs.current ++ [(slot, ⟨subs.next, priority, kind⟩)] }
  | .unsubscribe _ handle =>
    { subs with current := subs.current.filter (·.2.handle ≠ handle) }

/-- The handlers that are subscribed to a type of events or a kind of packets. -/
def handlersAt (subs : Subscriptions H) (slot : Slot) : List (HandlerEntry H) :=
  (subs.current.filter (·.1 = slot)).map Prod.snd

/-- The subscriptions to packets. -/
def packets (subs : Subscriptions H) : List (Slot × HandlerEntry H) :=
  subs.current.filter (·.1.isRight)

theorem mem_handlersAt {subs : Subscriptions H} :
    entry ∈ subs.handlersAt slot ↔ (slot, entry) ∈ subs.current := by
  simp [handlersAt]

end Subscriptions

/-- The bus has the subscribed handlers. -/
structure Serves (subs : Subscriptions H) (bus : EventBus H) : Prop where
  wellFormed : bus.WellFormed
  next : bus.nextHandle = subs.next
  order : ∀ slot, DispatchOrder (subs.handlersAt slot) (bus.entriesAt slot)
  nodup : (subs.current.map (·.2.handle)).Nodup
  count : bus.packetListenerCount = subs.packets.length

theorem serves_new : Serves ⟨1, []⟩ (new : EventBus H) where
  wellFormed := wellFormed_new
  next := rfl
  order slot := by
    rw [entriesAt_new]
    exact ⟨.nil, fun _ => rfl⟩
  nodup := .nil
  count := rfl

variable {subs : Subscriptions H} {bus : EventBus H}

theorem Serves.mem_iff (h : Serves subs bus) :
    entry ∈ bus.entriesAt slot ↔ (slot, entry) ∈ subs.current :=
  (h.order slot).mem_iff.trans Subscriptions.mem_handlersAt

/-- A new handler goes to its place in its list, and the others stay. -/
theorem subscribe_spec {priority : UInt8} {kind : HandlerKind H} :
    let after := bus.apply (.subscribe slot priority kind)
    bus.Adds slot ⟨bus.nextHandle, priority, kind⟩ after ∧
    after.entriesAt slot = insertByPriority ⟨bus.nextHandle, priority, kind⟩ (bus.entriesAt slot) ∧
    after.packetListenerCount = bus.packetListenerCount + if slot.isRight then 1 else 0 := by
  cases slot with
  | inl eventType =>
    refine ⟨adds_subscribe bus eventType priority kind, ?_, rfl⟩
    rw [entriesAt, apply, subscribe, AList.lookup_insert]
    rfl
  | inr filter =>
    refine ⟨adds_subscribePacket bus filter priority kind, ?_, rfl⟩
    rw [entriesAt, apply, subscribePacket, AList.lookup_insert]
    rfl

theorem Serves.subscribe (h : Serves subs bus) (slot priority kind) :
    Serves (subs.apply (.subscribe slot priority kind))
      (bus.apply (.subscribe slot priority kind)) := by
  obtain ⟨hadds, hself, hcount⟩ := subscribe_spec
  refine ⟨hadds.wellFormed h.wellFormed, ?_, fun other => ?_, ?_, ?_⟩
  · rw [hadds.next, h.next]
    rfl
  · have hold := h.order other
    simp only [Subscriptions.handlersAt, Subscriptions.apply, filter_append, map_append]
      at hold ⊢
    by_cases hother : other = slot
    · subst hother
      rw [hself, h.next]
      simpa using hold.insertByPriority ⟨subs.next, priority, kind⟩
    · rw [hadds.others other hother]
      simpa [Ne.symm hother] using hold
  · -- the new handle is above all others
    simp only [Subscriptions.apply, map_append, map_cons, map_nil,
      nodup_append, nodup_singleton, mem_singleton, mem_map, true_and]
    refine ⟨h.nodup, ?_⟩
    rintro _ ⟨⟨other, entry⟩, hmem, rfl⟩ _ rfl heq
    have hlt := h.wellFormed.below other entry (h.mem_iff.mpr hmem)
    rw [h.next, show entry.handle = subs.next from heq] at hlt
    exact Nat.lt_irrefl _ hlt
  · rw [hcount, h.count]
    simp only [Subscriptions.packets, Subscriptions.apply, filter_append, length_append]
    cases slot <;> rfl

/-- The counter goes down if the handle is that of a packet handler. -/
theorem count_unsubscribe (hbus : bus.WellFormed) {orders} (handle) :
    (bus.unsubscribe orders handle).packetListenerCount = bus.packetListenerCount ∧
        (∀ key, ∀ entry ∈ bus.entriesAt (.inr key), entry.handle ≠ handle) ∨
      (bus.unsubscribe orders handle).packetListenerCount = bus.packetListenerCount - 1 ∧
        ∃ key, ∃ entry ∈ bus.entriesAt (.inr key), entry.handle = handle := by
  unfold unsubscribe
  cases hremove : removeHandle orders.handlers handle bus.handlers with
  | some handlers =>
    obtain ⟨eventType, ⟨found, hfound, hhdl⟩, -⟩ := removeHandle_eq_some hremove
    refine .inl ⟨rfl, fun key entry hent heq => ?_⟩
    cases hbus.apart (.inl eventType) (.inr key) found hfound entry hent (hhdl.trans heq.symm)
  | none =>
    cases hremove' : removeHandle orders.packetHandlers handle bus.packetHandlers with
    | some packetHandlers =>
      obtain ⟨key, hfound, -⟩ := removeHandle_eq_some hremove'
      exact .inr ⟨rfl, key, hfound⟩
    | none => exact .inl ⟨rfl, removeHandle_eq_none.mp hremove'⟩

theorem Serves.unsubscribe (h : Serves subs bus) (orders handle) :
    Serves (subs.apply (.unsubscribe orders handle)) (bus.apply (.unsubscribe orders handle)) := by
  have hpkts : (subs.apply (.unsubscribe orders handle)).packets =
      subs.packets.filter (·.2.handle ≠ handle) := filter_comm ..
  refine ⟨h.wellFormed.unsubscribe orders handle, ?_, fun slot => ?_, ?_, ?_⟩
  · exact (nextHandle_unsubscribe orders handle bus).trans h.next
  · have hord := (h.order slot).filter (·.handle ≠ handle)
    rw [← entriesAt_unsubscribe h.wellFormed orders] at hord
    rw [Subscriptions.handlersAt, filter_map] at hord
    rw [Subscriptions.handlersAt, Subscriptions.apply, filter_comm]
    exact hord
  · exact h.nodup.sublist (filter_sublist.map _)
  · rw [hpkts]
    obtain ⟨hcount, hnone⟩ | ⟨hcount, key, entry, hent, hhdl⟩ :=
      count_unsubscribe h.wellFormed handle
    · refine hcount.trans (h.count.trans (congrArg _ (Eq.symm ?_)))
      refine filter_eq_self.mpr fun sub hsub => decide_eq_true ?_
      obtain ⟨hmem, hright⟩ := mem_filter.mp hsub
      obtain ⟨_ | key, entry⟩ := sub
      · cases hright
      · exact hnone key entry (h.mem_iff.mpr hmem)
    · -- it is the handle of one subscription
      have hnodup : (subs.packets.map (·.2.handle)).Nodup := h.nodup.sublist (filter_sublist.map _)
      have hmem : (.inr key, entry) ∈ subs.packets := mem_filter.mpr ⟨h.mem_iff.mp hent, rfl⟩
      rw [← eraseP_eq_filter hnodup, length_eraseP_of_mem hmem (decide_eq_true hhdl), ← h.count]
      exact hcount

theorem serves_run (h : Serves subs bus) {calls : List (Call H)} :
    Serves (calls.foldl Subscriptions.apply subs) (calls.foldl apply bus) := by
  induction calls generalizing subs bus with
  | nil => exact h
  | cons call calls ih =>
    cases call with
    | subscribe slot priority kind => exact ih (h.subscribe slot priority kind)
    | unsubscribe orders handle => exact ih (h.unsubscribe orders handle)

/-- `fire` or `fire_packet_event`. -/
def fireAt {E : Type} (run : H → E → E) (bus : EventBus H) : Slot → E → E
  | .inl eventType => bus.fire run eventType
  | .inr key => bus.firePacketEvent run key

end Infrarust.EventBus
