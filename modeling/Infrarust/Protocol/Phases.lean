import Infrarust.Protocol.Packet
import Infrarust.Protocol.Version

/-!
# `Infrarust.Protocol.Phases`: how two peers move through the states of the protocol

From 1.20.2 on a connection goes from Login to Config to Play, and back to Config when the
server wants to configure the client again. The server asks the client to leave a state with a
packet of its own (LoginSuccess, FinishConfiguration, StartConfiguration). The client answers
with an acknowledgement, which is its last packet in the old state. After its request the
server sends nothing until it has the acknowledgement, since the client would read it in the
new state.

The ids are those of the protocol. A peer looks at no other field of these packets.
-/

set_option autoImplicit false

namespace Infrarust

namespace ConnectionState

/-- The state that the peers agree on next. -/
def next : ConnectionState → ConnectionState
  | .login => .config
  | .config => .play
  | .play => .config
  | state => state

/-- The states that a connection enters after the first time it leaves this one. -/
def later : ConnectionState → List ConnectionState
  | .login => [.config, .play]
  | .config => [.play]
  | _ => []

end ConnectionState

namespace ProtocolVersion

variable (version : ProtocolVersion)

/-- The id of FinishConfiguration, and of its acknowledgement. -/
def finishConfigurationId : I32 := if version.lessThan .V1_20_5 then 0x02 else 0x03

def startConfigurationId : I32 :=
  if version.lessThan .V1_20_3 then 0x65
  else if version.lessThan .V1_20_5 then 0x67
  else if version.lessThan .V1_21_2 then 0x69
  else if version.lessThan .V1_21_5 then 0x70
  else if version.lessThan .V1_21_9 then 0x6F
  else 0x74

def acknowledgeConfigurationId : I32 :=
  if version.lessThan .V1_20_5 then 0x0B
  else if version.lessThan .V1_21_2 then 0x0C
  else if version.lessThan .V1_21_6 then 0x0E
  else 0x0F

/-- The packet with which the server asks the client to leave a state. -/
def requestId : ConnectionState → Option I32
  | .login => some 0x02
  | .config => some version.finishConfigurationId
  | .play => some version.startConfigurationId
  | _ => none

/-- The packet with which the client agrees. -/
def ackId : ConnectionState → Option I32
  | .login => some 0x03
  | .config => some version.finishConfigurationId
  | .play => some version.acknowledgeConfigurationId
  | _ => none

end ProtocolVersion

/-- A client: the state in which it sends, and whether it has been asked to leave it. -/
structure ClientPeer where
  state : ConnectionState
  asked : Bool
deriving DecidableEq, Repr

namespace ClientPeer

variable (version : ProtocolVersion)

/-- A frame that a client may send. It acknowledges only what it was asked. -/
def send (c : ClientPeer) (frame : PacketFrame) : Option ClientPeer :=
  if some frame.id = version.ackId c.state then
    if c.asked then some { state := c.state.next, asked := false } else none
  else some c

def read (c : ClientPeer) (frame : PacketFrame) : ClientPeer :=
  if some frame.id = version.requestId c.state then { c with asked := true } else c

end ClientPeer

/-- A server: the state in which it sends, and whether it waits for an acknowledgement. -/
structure BackendPeer where
  state : ConnectionState
  awaiting : Bool
deriving DecidableEq, Repr

namespace BackendPeer

variable (version : ProtocolVersion)

/-- A frame that a server may send. It sends nothing while it waits. -/
def send (b : BackendPeer) (frame : PacketFrame) : Option BackendPeer :=
  if b.awaiting then none
  else some { b with awaiting := some frame.id = version.requestId b.state }

def read (b : BackendPeer) (frame : PacketFrame) : BackendPeer :=
  if b.awaiting ∧ some frame.id = version.ackId b.state then
    { state := b.state.next, awaiting := false }
  else b

end BackendPeer

end Infrarust
