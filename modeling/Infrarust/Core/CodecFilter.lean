import Infrarust.Config.Types
import Infrarust.Protocol.Registry

/-!
# `Infrarust.Core.CodecFilter`: the codec filter chain of one side of a connection

A plugin's filter is an instance of the trait `CodecFilterInstance`, here a class over the
type `ι` of the instances' states. A chain passes a packet through its instances in order.
Each of them may change the packet, inject further packets, drop the packet or replace it.
-/

set_option autoImplicit false

namespace Infrarust

/-- `RawPacket`, the packet type of the plugin interface. -/
structure RawPacket where
  packetId : I32
  data : Bytes
deriving DecidableEq, Repr

def frameToRaw (frame : PacketFrame) : RawPacket := { packetId := frame.id, data := frame.payload }

def rawToFrame (raw : RawPacket) : PacketFrame := { id := raw.packetId, payload := raw.data }

inductive ConnectionSide where
  | clientSide
  | serverSide
deriving DecidableEq, Repr

/-- `CodecSessionInit`: what a factory knows about the connection. -/
structure CodecSessionInit where
  clientVersion : ProtocolVersion
  connectionId : Nat
  remoteAddr : SocketAddr
  realIp : Option IpAddr
  side : ConnectionSide
deriving DecidableEq, Repr

/-- The fields of `CodecContext` that the proxy sets. -/
structure CodecContext where
  clientVersion : ProtocolVersion
  state : ConnectionState
  connectionId : Nat
  side : ConnectionSide
deriving DecidableEq, Repr

inductive CodecVerdict where
  | pass
  | drop
  | replace
  | error (message : String)
deriving DecidableEq, Repr

/-- `FrameOutput`: the packets a filter injects around the current one. -/
structure FrameOutput where
  framesBefore : List RawPacket
  framesAfter : List RawPacket
deriving DecidableEq, Repr

def FrameOutput.hasInjections (output : FrameOutput) : Bool :=
  output.framesBefore ≠ [] || output.framesAfter ≠ []

/-- The trait `CodecFilterInstance`. `filter` also returns what the source changes through
its mutable arguments: the instance, the packet and the injected frames. -/
class CodecFilterInstance (ι : Type) where
  filter : ι → CodecContext → RawPacket → FrameOutput → CodecVerdict × ι × RawPacket × FrameOutput
  onStateChange : ι → ConnectionState → ι
  onCompressionChange : ι → I32 → ι

inductive FilterResult where
  | pass
  | dropped
  | replaced (output : FrameOutput)
  | passWithInjections (output : FrameOutput)
deriving DecidableEq, Repr

structure CodecFilterChain (ι : Type) where
  instances : List ι
  context : CodecContext

namespace CodecFilterChain

variable {ι : Type} [CodecFilterInstance ι]

/-- The loop of `CodecFilterChain::process`. A filter's error counts as a pass. -/
def processLoop (context : CodecContext) :
    List ι → RawPacket → FrameOutput → FilterResult × RawPacket × List ι
  | [], packet, output =>
    (if output.hasInjections then .passWithInjections output else .pass, packet, [])
  | inst :: rest, packet, output =>
    match CodecFilterInstance.filter inst context packet output with
    -- A drop and a replacement end the loop: the later filters do not see the packet.
    | (.drop, inst', packet', _) => (.dropped, packet', inst' :: rest)
    | (.replace, inst', packet', output') => (.replaced output', packet', inst' :: rest)
    | (.pass, inst', packet', output') =>
      let r := processLoop context rest packet' output'
      (r.1, r.2.1, inst' :: r.2.2)
    | (.error _, inst', packet', output') =>
      let r := processLoop context rest packet' output'
      (r.1, r.2.1, inst' :: r.2.2)

/-- `CodecFilterChain::process`. An empty chain passes every packet. -/
def process (chain : CodecFilterChain ι) (packet : RawPacket) :
    FilterResult × RawPacket × CodecFilterChain ι :=
  let r := processLoop chain.context chain.instances packet
    { framesBefore := [], framesAfter := [] }
  (r.1, r.2.1, { chain with instances := r.2.2 })

def notifyStateChange (chain : CodecFilterChain ι) (newState : ConnectionState) :
    CodecFilterChain ι where
  instances := chain.instances.map (CodecFilterInstance.onStateChange · newState)
  context := { chain.context with state := newState }

def notifyCompressionChange (chain : CodecFilterChain ι) (threshold : I32) :
    CodecFilterChain ι where
  instances := chain.instances.map (CodecFilterInstance.onCompressionChange · threshold)
  context := chain.context

end CodecFilterChain

/-- `CodecFilterRegistryImpl`: the registered factories, in the order in which they run. -/
structure CodecFilterRegistry (ι : Type) where
  factories : List (CodecSessionInit → ι)

def CodecFilterRegistry.createInstances {ι : Type} (registry : CodecFilterRegistry ι)
    (init : CodecSessionInit) : List ι :=
  registry.factories.map (· init)

/-- `build_codec_chains`: the chains of the client's and of the server's side. The contexts
start in the Handshake state, whatever the state of the connection. -/
def buildCodecChains {ι : Type} (registry : CodecFilterRegistry ι)
    (clientVersion : ProtocolVersion) (connectionId : Nat) (remoteAddr : SocketAddr)
    (realIp : Option IpAddr) : CodecFilterChain ι × CodecFilterChain ι :=
  let clientInit : CodecSessionInit :=
    { clientVersion, connectionId, remoteAddr, realIp, side := .clientSide }
  let serverInit : CodecSessionInit := { clientInit with side := .serverSide }
  let clientCtx : CodecContext :=
    { clientVersion, state := .handshake, connectionId, side := .clientSide }
  ({ instances := registry.createInstances clientInit, context := clientCtx },
    { instances := registry.createInstances serverInit,
      context := { clientCtx with side := .serverSide } })

end Infrarust
