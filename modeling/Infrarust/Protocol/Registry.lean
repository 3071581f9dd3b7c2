import Infrarust.Protocol.Packet
import Infrarust.Protocol.Packets

/-!
# `Infrarust.Protocol.Registry`: the packet registry

The registry maps a connection state, a direction and a protocol version to a table of
decoders and packet ids. `decodeFrame` finds the decoder for a frame, and a frame without a
decoder is passed on undecoded. `PacketRegistration.register` fills the tables from a list
of mappings, each of which holds from one version up to the next mapping.

A decoded packet is one of the types the proxy looks into, or `other`. The decoders of the
other packet types are no concern of the modules that use the registry, so the tables take
them as functions. The decoder of `CSetCompression`, whose fields decide the framing, and those of
`SEncryptionResponse` and `CLoginPluginRequest`, which the proxy answers, are modelled.

`buildDefaultRegistry` has the registrations of the Login and Config states and those of the
Play packets that the proxy asks the registry about.
-/

set_option autoImplicit false

namespace Infrarust

/-- The packet types that the proxy asks the registry about. -/
inductive PacketType where
  | encryptionRequest
  | encryptionResponse
  | setCompression
  | loginSuccess
  | loginDisconnect
  | loginPluginRequest
  | loginPluginResponse
  | loginStart
  | disconnect
  | finishConfig
  | knownPacks
  | commands
  | joinGame
  | respawn
  | startConfiguration
  | loginAcknowledged
  | acknowledgeFinishConfig
  | acknowledgeConfiguration
  | chatSessionUpdate
  | chatCommand
  | chatMessage
  | tabCompleteRequest
  | tabCompleteResponse
  | other (name : String)
deriving DecidableEq, Repr

/-- `Packet::NAME` of a type. -/
def PacketType.name : PacketType → String
  | encryptionRequest => "CEncryptionRequest"
  | encryptionResponse => "SEncryptionResponse"
  | setCompression => "CSetCompression"
  | loginSuccess => "CLoginSuccess"
  | loginDisconnect => "CLoginDisconnect"
  | loginPluginRequest => "CLoginPluginRequest"
  | loginPluginResponse => "SLoginPluginResponse"
  | loginStart => "SLoginStart"
  | disconnect => "CDisconnect"
  | finishConfig => "CFinishConfig"
  | knownPacks => "CKnownPacks"
  | commands => "CCommands"
  | joinGame => "CJoinGame"
  | respawn => "CRespawn"
  | startConfiguration => "CStartConfiguration"
  | loginAcknowledged => "SLoginAcknowledged"
  | acknowledgeFinishConfig => "SAcknowledgeFinishConfig"
  | acknowledgeConfiguration => "SAcknowledgeConfiguration"
  | chatSessionUpdate => "SChatSessionUpdate"
  | chatCommand => "SChatCommand"
  | chatMessage => "SChatMessage"
  | tabCompleteRequest => "STabCompleteRequest"
  | tabCompleteResponse => "CTabCompleteResponse"
  | other name => name

/-- A decoded packet, with the fields the proxy reads. The command tree of `CCommands` is
kept as the bytes it was decoded from. -/
inductive Packet where
  | encryptionRequest (request : CEncryptionRequest)
  | encryptionResponse (response : SEncryptionResponse)
  | setCompression (threshold : I32)
  | loginSuccess
  | loginDisconnect (reason : String)
  | loginPluginRequest (request : CLoginPluginRequest)
  | loginPluginResponse
  | loginStart
  | disconnect (reason : String)
  | finishConfig
  | knownPacks
  | commands (tree : Bytes)
  | loginAcknowledged
  | acknowledgeFinishConfig
  | acknowledgeConfiguration
  | tabCompleteRequest (transactionId : I32) (text : String)
  | other (name : String)
deriving DecidableEq, Repr

/-- The type of a decoded packet. -/
def Packet.type : Packet → PacketType
  | encryptionRequest _ => .encryptionRequest
  | encryptionResponse _ => .encryptionResponse
  | setCompression _ => .setCompression
  | loginSuccess => .loginSuccess
  | loginDisconnect _ => .loginDisconnect
  | loginPluginRequest _ => .loginPluginRequest
  | loginPluginResponse => .loginPluginResponse
  | loginStart => .loginStart
  | disconnect _ => .disconnect
  | finishConfig => .finishConfig
  | knownPacks => .knownPacks
  | commands _ => .commands
  | loginAcknowledged => .loginAcknowledged
  | acknowledgeFinishConfig => .acknowledgeFinishConfig
  | acknowledgeConfiguration => .acknowledgeConfiguration
  | tabCompleteRequest .. => .tabCompleteRequest
  | other name => .other name

/-- `CSetCompression::decode`. What follows the threshold is not looked at. -/
def CSetCompression.decode (r : Bytes) (_ : ProtocolVersion) : Except ProtocolError Packet :=
  match VarInt.decode r with
  | .ok (threshold, _) => .ok (.setCompression threshold)
  | .error e => .error e

def CSetCompression.encode (threshold : I32) : Bytes := VarInt.encode threshold

abbrev DecoderFn := Bytes → ProtocolVersion → Except ProtocolError Packet

inductive DecodedPacket where
  | typed (id : I32) (packet : Packet)
  | opaqueFrame (id : I32) (payload : Bytes)
deriving DecidableEq, Repr

/-- `VersionRegistry`: the two tables of one state, direction and version. -/
structure VersionRegistry where
  idToDecoder : I32 → Option DecoderFn
  typeToId : PacketType → Option I32

structure PacketRegistry where
  registries : ConnectionState → Direction → ProtocolVersion → Option VersionRegistry

namespace PacketRegistry

def new : PacketRegistry := { registries := fun _ _ _ => none }

variable (registry : PacketRegistry)

def decodeFrame (frame : PacketFrame) (state : ConnectionState)
    (direction : Direction) (version : ProtocolVersion) : Except ProtocolError DecodedPacket :=
  match (registry.registries state direction version).bind (·.idToDecoder frame.id) with
  | some decoder =>
    match decoder frame.payload version with
    | .ok packet => .ok (.typed frame.id packet)
    | .error e => .error e
  -- An unknown id is no error.
  | none => .ok (.opaqueFrame frame.id frame.payload)

def getPacketId (type : PacketType) (state : ConnectionState)
    (direction : Direction) (version : ProtocolVersion) : Option I32 :=
  (registry.registries state direction version).bind (·.typeToId type)

/-- `entry(key).or_default()` followed by a change of the entry. -/
def modifyEntry (state : ConnectionState) (direction : Direction)
    (version : ProtocolVersion) (f : VersionRegistry → VersionRegistry) : PacketRegistry where
  registries s d v :=
    if s = state ∧ d = direction ∧ v = version then
      some (f ((registry.registries s d v).getD
        { idToDecoder := fun _ => none, typeToId := fun _ => none }))
    else registry.registries s d v

/-- `insert_type_mapping` and, unless the packet is encode-only, `insert_decoder`. -/
def insert (state : ConnectionState) (direction : Direction)
    (version : ProtocolVersion) (type : PacketType) (id : I32) (decoder : Option DecoderFn) :
    PacketRegistry :=
  registry.modifyEntry state direction version fun r =>
    { idToDecoder := fun i => if i = id then decoder <|> r.idToDecoder i else r.idToDecoder i
      typeToId := fun t => if t = type then some id else r.typeToId t }

end PacketRegistry

structure PacketMapping where
  id : I32
  first : ProtocolVersion
  last : Option ProtocolVersion
  encodeOnly : Bool

/-- `PacketRegistration::register`. A mapping without an explicit end holds up to the next
mapping, which it does not include, or up to the last supported version. -/
def PacketRegistration.register (type : PacketType) (decoder : DecoderFn)
    (state : ConnectionState) (direction : Direction) :
    List PacketMapping → PacketRegistry → PacketRegistry
  | [], registry => registry
  | mapping :: rest, registry =>
    let versions :=
      match mapping.last, rest with
      | some last, _ => ProtocolVersion.range mapping.first last
      -- `range` includes both ends, and the last one belongs to the next mapping.
      | none, next :: _ =>
        (ProtocolVersion.range mapping.first next.first).filter (· ≠ next.first)
      | none, [] =>
        ProtocolVersion.range mapping.first (ProtocolVersion.SUPPORTED.getLast?.getD mapping.first)
    register type decoder state direction rest
      (versions.foldl (fun r version => r.insert state direction version type mapping.id
        (if mapping.encodeOnly then none else some decoder)) registry)

/-- The entry of `build_default_registry` for `CSetCompression`: id 3 in the Login state, from
1.8 on. -/
def registerSetCompression : PacketRegistry → PacketRegistry :=
  PacketRegistration.register .setCompression CSetCompression.decode .login .clientbound
    [{ id := 0x03#32, first := .V1_8, last := none, encodeOnly := false }]

/-- The decoders of the packet types. `P::decode` returns a `P`. -/
structure PacketDecoders where
  decode : PacketType → DecoderFn
  type_eq : ∀ {type r version packet}, decode type r version = .ok packet → packet.type = type

/-- The decoder of a packet type. The packets that end a phase and their acknowledgements have
no fields. -/
def PacketDecoders.decoder (decoders : PacketDecoders) : PacketType → DecoderFn
  | .encryptionResponse => fun r version =>
      match (SEncryptionResponse.decode version).run r with
      | .ok (response, _) => .ok (.encryptionResponse response)
      | .error e => .error e
  | .setCompression => CSetCompression.decode
  | .loginPluginRequest => fun r _ =>
      match CLoginPluginRequest.decode.run r with
      | .ok (request, _) => .ok (.loginPluginRequest request)
      | .error e => .error e
  | .finishConfig => fun _ _ => .ok .finishConfig
  | .loginAcknowledged => fun _ _ => .ok .loginAcknowledged
  | .acknowledgeFinishConfig => fun _ _ => .ok .acknowledgeFinishConfig
  | .acknowledgeConfiguration => fun _ _ => .ok .acknowledgeConfiguration
  | type => decoders.decode type

/-- One `PacketRegistration` of `build_default_registry`: a type, where it belongs, and its id
from each version on. -/
structure RegistryEntry where
  type : PacketType
  state : ConnectionState
  direction : Direction
  mappings : List PacketMapping

/-- A registration whose mappings are all decodable. -/
def RegistryEntry.decodable (type : PacketType) (state : ConnectionState) (direction : Direction)
    (ids : List (I32 × ProtocolVersion)) : RegistryEntry where
  type
  state
  direction
  mappings := ids.map fun m => { id := m.1, first := m.2, last := none, encodeOnly := false }

/-- A registration whose mappings only give the id for encoding. -/
def RegistryEntry.encodeOnly (type : PacketType) (state : ConnectionState) (direction : Direction)
    (ids : List (I32 × ProtocolVersion)) : RegistryEntry where
  type
  state
  direction
  mappings := ids.map fun m => { id := m.1, first := m.2, last := none, encodeOnly := true }

/-- The registrations of `build_default_registry`, in their order. -/
def defaultEntries : List RegistryEntry :=
  [.decodable .loginStart .login .serverbound [(0x00, .V1_7_2)],
    .decodable .encryptionResponse .login .serverbound [(0x01, .V1_7_2)],
    .decodable .loginPluginResponse .login .serverbound [(0x02, .V1_13)],
    .decodable .loginAcknowledged .login .serverbound [(0x03, .V1_20_2)],
    .decodable .loginDisconnect .login .clientbound [(0x00, .V1_7_2)],
    .decodable .encryptionRequest .login .clientbound [(0x01, .V1_7_2)],
    .decodable .loginSuccess .login .clientbound [(0x02, .V1_7_2)],
    .decodable .setCompression .login .clientbound [(0x03, .V1_8)],
    .decodable .loginPluginRequest .login .clientbound [(0x04, .V1_13)],
    .decodable (.other "SConfigPluginMessage") .config .serverbound
      [(0x01, .V1_20_2), (0x02, .V1_20_5)],
    .decodable .acknowledgeFinishConfig .config .serverbound [(0x02, .V1_20_2), (0x03, .V1_20_5)],
    .decodable (.other "SKnownPacks") .config .serverbound [(0x07, .V1_20_5)],
    .decodable (.other "CConfigPluginMessage") .config .clientbound
      [(0x00, .V1_20_2), (0x01, .V1_20_5)],
    .decodable (.other "CConfigDisconnect") .config .clientbound
      [(0x01, .V1_20_2), (0x02, .V1_20_5)],
    .decodable .finishConfig .config .clientbound [(0x02, .V1_20_2), (0x03, .V1_20_5)],
    .decodable (.other "CRegistryData") .config .clientbound [(0x05, .V1_20_2), (0x07, .V1_20_5)],
    .decodable .knownPacks .config .clientbound [(0x0E, .V1_20_5)],
    .decodable .commands .play .clientbound
      [(0x11, .V1_13), (0x12, .V1_15), (0x11, .V1_16), (0x10, .V1_16_2), (0x12, .V1_17),
        (0x0F, .V1_19), (0x0E, .V1_19_3), (0x10, .V1_19_4), (0x11, .V1_20_2), (0x10, .V1_21_5)],
    .decodable .tabCompleteRequest .play .serverbound
      [(0x05, .V1_13), (0x06, .V1_14), (0x08, .V1_19), (0x09, .V1_19_1), (0x08, .V1_19_3),
        (0x09, .V1_19_4), (0x0A, .V1_20_2), (0x0B, .V1_20_5), (0x0D, .V1_21_2), (0x0E, .V1_21_6)],
    .decodable .tabCompleteResponse .play .clientbound
      [(0x10, .V1_13), (0x11, .V1_15), (0x10, .V1_16), (0x0F, .V1_16_2), (0x11, .V1_17),
        (0x0E, .V1_19), (0x0D, .V1_19_3), (0x0F, .V1_19_4), (0x10, .V1_20_2), (0x0F, .V1_21_5)],
    .decodable .disconnect .play .clientbound
      [(0x40, .V1_7_2), (0x1A, .V1_9), (0x1B, .V1_13), (0x1A, .V1_14), (0x1B, .V1_15),
        (0x1A, .V1_16), (0x19, .V1_16_2), (0x1A, .V1_17), (0x17, .V1_19), (0x19, .V1_19_1),
        (0x17, .V1_19_3), (0x1A, .V1_19_4), (0x1B, .V1_20_2), (0x1D, .V1_20_5), (0x1C, .V1_21_5),
        (0x20, .V1_21_9)], .encodeOnly .joinGame .play .clientbound
      [(0x01, .V1_7_2), (0x23, .V1_9), (0x25, .V1_13), (0x25, .V1_14), (0x26, .V1_15),
        (0x25, .V1_16), (0x24, .V1_16_2), (0x26, .V1_17), (0x23, .V1_19), (0x25, .V1_19_1),
        (0x24, .V1_19_3), (0x28, .V1_19_4), (0x29, .V1_20_2), (0x2B, .V1_20_5), (0x2C, .V1_21_2),
        (0x2B, .V1_21_5), (0x30, .V1_21_9)], .encodeOnly .respawn .play .clientbound
      [(0x07, .V1_7_2), (0x33, .V1_9), (0x34, .V1_12), (0x35, .V1_12_1), (0x38, .V1_13),
        (0x3A, .V1_14), (0x3B, .V1_15), (0x3A, .V1_16), (0x39, .V1_16_2), (0x3D, .V1_17),
        (0x3B, .V1_19), (0x3E, .V1_19_1), (0x3D, .V1_19_3), (0x41, .V1_19_4), (0x43, .V1_20_2),
        (0x45, .V1_20_3), (0x47, .V1_20_5), (0x4C, .V1_21_2), (0x4B, .V1_21_5), (0x50, .V1_21_9)],
    .encodeOnly .startConfiguration .play .clientbound
      [(0x65, .V1_20_2), (0x67, .V1_20_3), (0x69, .V1_20_5), (0x70, .V1_21_2), (0x6F, .V1_21_5),
        (0x74, .V1_21_9)], .decodable .acknowledgeConfiguration .play .serverbound
      [(0x0B, .V1_20_2), (0x0C, .V1_20_5), (0x0E, .V1_21_2), (0x0F, .V1_21_6)],
    .encodeOnly .chatMessage .play .serverbound
      [(0x01, .V1_7_2), (0x02, .V1_9), (0x03, .V1_12), (0x02, .V1_12_1), (0x02, .V1_13),
        (0x03, .V1_14), (0x03, .V1_15), (0x03, .V1_16), (0x03, .V1_17), (0x05, .V1_19),
        (0x05, .V1_19_1), (0x05, .V1_19_3), (0x05, .V1_19_4), (0x06, .V1_20_2), (0x06, .V1_20_5),
        (0x07, .V1_21_2), (0x08, .V1_21_6)], .encodeOnly .chatCommand .play .serverbound
      [(0x04, .V1_19), (0x04, .V1_19_1), (0x04, .V1_19_3), (0x04, .V1_19_4), (0x04, .V1_20_2),
        (0x04, .V1_20_5), (0x05, .V1_21_2), (0x06, .V1_21_6)],
    .encodeOnly .chatSessionUpdate .play .serverbound
      [(0x07, .V1_21), (0x08, .V1_21_2), (0x09, .V1_21_6)]]

def buildDefaultRegistry (decoders : PacketDecoders) : PacketRegistry :=
  defaultEntries.foldl (fun registry entry =>
    PacketRegistration.register entry.type (decoders.decoder entry.type) entry.state
      entry.direction entry.mappings registry) .new

end Infrarust
