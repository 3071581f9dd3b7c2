import Infrarust.Lib.Dict
import Infrarust.Protocol.Version

/-!
# `Infrarust.Core.EventBus`: listeners of events and packets

`EventBusImpl` keeps a list of handlers for every type of event and one for every kind of packet.
A new handler goes behind all handlers of a lower or the same priority. Handles are numbers that
are given out once, and `unsubscribe` looks for a handle in all lists of the first map, in the
order of the map, and then in those of the second. Handlers are objects of any type.
-/

set_option autoImplicit false

namespace Infrarust

/-- The `TypeId` of an event, by the name of the type. -/
abbrev EventType := String

/-- `PacketKey`, and `PacketFilter`, which has the same fields. -/
structure PacketKey where
  packetId : Int
  state : ConnectionState
  direction : Direction
deriving DecidableEq, Repr

inductive HandlerKind (H : Type) where
  | sync (handler : H)
  | async (handler : H)
deriving DecidableEq, Repr

def HandlerKind.handler {H : Type} : HandlerKind H → H
  | sync handler => handler
  | async handler => handler

structure HandlerEntry (H : Type) where
  handle : Nat
  priority : UInt8
  kind : HandlerKind H
deriving DecidableEq, Repr

/-- The insertion of `insert_handler` and `insert_packet_handler`. The list is sorted, so the
binary search of `partition_point` finds the end of the handlers that come first. -/
def insertByPriority {H : Type} (entry : HandlerEntry H) (entries : List (HandlerEntry H)) :
    List (HandlerEntry H) :=
  entries.takeWhile (fun h => decide (h.priority ≤ entry.priority)) ++
    entry :: entries.dropWhile (fun h => decide (h.priority ≤ entry.priority))

/-- `EventBusImpl`. -/
structure EventBus (H : Type) where
  handlers : Dict EventType (List (HandlerEntry H))
  packetHandlers : Dict PacketKey (List (HandlerEntry H))
  nextHandle : Nat
  packetListenerCount : Nat

namespace EventBus

variable {H : Type}

def new : EventBus H where
  handlers := ∅
  packetHandlers := ∅
  nextHandle := 1
  packetListenerCount := 0

/-- `subscribe_erased` and `subscribe_async_erased`, with the handle that is returned. -/
def subscribe (bus : EventBus H) (eventType : EventType) (priority : UInt8)
    (kind : HandlerKind H) : EventBus H × Nat :=
  let entry : HandlerEntry H := ⟨bus.nextHandle, priority, kind⟩
  let entries := (bus.handlers.lookup eventType).getD []
  ({ bus with
      handlers := bus.handlers.insert eventType (insertByPriority entry entries)
      nextHandle := bus.nextHandle + 1 }, bus.nextHandle)

/-- `subscribe_packet` and `subscribe_packet_async`, with the handle that is returned. -/
def subscribePacket (bus : EventBus H) (filter : PacketKey) (priority : UInt8)
    (kind : HandlerKind H) : EventBus H × Nat :=
  let entry : HandlerEntry H := ⟨bus.nextHandle, priority, kind⟩
  let entries := (bus.packetHandlers.lookup filter).getD []
  ({ bus with
      packetHandlers := bus.packetHandlers.insert filter (insertByPriority entry entries)
      nextHandle := bus.nextHandle + 1
      packetListenerCount := bus.packetListenerCount + 1 }, bus.nextHandle)

/-- The search of `unsubscribe` in one of the maps. -/
def removeHandle {K : Type} [DecidableEq K] (order : Dict.Order K (List (HandlerEntry H)))
    (handle : Nat) (map : Dict K (List (HandlerEntry H))) :
    Option (Dict K (List (HandlerEntry H))) :=
  ((order.iter map).find? fun entry => entry.2.any (·.handle = handle)).map fun entry =>
    map.insert entry.1 (entry.2.eraseP (·.handle = handle))

/-- The orders in which the two maps of the bus are visited. -/
structure Orders (H : Type) where
  handlers : Dict.Order EventType (List (HandlerEntry H))
  packetHandlers : Dict.Order PacketKey (List (HandlerEntry H))

def unsubscribe (orders : Orders H) (handle : Nat) (bus : EventBus H) : EventBus H :=
  match removeHandle orders.handlers handle bus.handlers with
  | some handlers => { bus with handlers }
  | none =>
    match removeHandle orders.packetHandlers handle bus.packetHandlers with
    | some packetHandlers =>
      { bus with packetHandlers, packetListenerCount := bus.packetListenerCount - 1 }
    | none => bus

variable {E : Type}

/-- The loop of `fire` and `fire_packet_event` over a snapshot of the handlers. `run` is what a
handler makes of an event. -/
def dispatch (run : H → E → E) (snapshot : Option (List (HandlerEntry H))) (event : E) : E :=
  (snapshot.getD []).foldl (fun event entry =>
    match entry.kind with
    | .sync handler => run handler event
    | .async handler => run handler event) event

def fire (run : H → E → E) (bus : EventBus H) (eventType : EventType) : E → E :=
  dispatch run (bus.handlers.lookup eventType)

def firePacketEvent (run : H → E → E) (bus : EventBus H) (key : PacketKey) : E → E :=
  dispatch run (bus.packetHandlers.lookup key)

def hasPacketListeners (bus : EventBus H) (key : PacketKey) : Bool :=
  if bus.packetListenerCount = 0 then false
  else (bus.packetHandlers.lookup key).any (!·.isEmpty)

end EventBus

end Infrarust
