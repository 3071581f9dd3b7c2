import Infrarust.Protocol.Codec
import Infrarust.Protocol.Version

/-!
# `Infrarust.Protocol.Packets`: the packets that the proxy reads itself

The packets of the Handshake and Login states whose fields the proxy uses: the handshake, the
login start, the exchange of the encryption keys and that of the login plugins.
-/

set_option autoImplicit false

namespace Infrarust

open FieldWriter
open FieldReader

/-- `SHandshake`. -/
structure Handshake where
  protocolVersion : ProtocolVersion
  serverAddress : String
  serverPort : UInt16
  nextState : ConnectionState
deriving DecidableEq, Repr

def Handshake.decode : FieldReader Handshake := do
  let protocolVersion ← readVarInt
  let serverAddress ← readStringBounded 255
  let serverPort ← readU16Be
  let nextStateId ← readVarInt
  match ConnectionState.fromHandshakeId nextStateId.toInt with
  | none => throw (.invalid ("invalid handshake next_state: " ++ toString nextStateId.toInt))
  | some nextState =>
    return { protocolVersion := ⟨protocolVersion.toInt⟩, serverAddress, serverPort, nextState }

def Handshake.encode (p : Handshake) : Except ProtocolError Bytes := do
  let serverAddress ← string p.serverAddress
  match p.nextState.handshakeId with
  | none => throw (.invalid ("cannot encode handshake next_state: " ++ p.nextState.display))
  | some id =>
    return VarInt.encode (BitVec.ofInt 32 p.protocolVersion.num) ++ serverAddress
      ++ toBeBytes 2 p.serverPort.toBitVec ++ VarInt.encode id

structure SLoginStart where
  name : String
  uuid : Option (BitVec 128)
  signatureData : Option Bytes
deriving DecidableEq, Repr

/-- The player key of 1.19 to 1.19.2, kept as the bytes that carried it. -/
def SLoginStart.readPlayerKey : FieldReader Bytes := do
  let ts ← readI64Be
  let pk ← readByteArray 512
  let sig ← readByteArray 4096
  return toBeBytes 8 ts ++ byteArray pk ++ byteArray sig

def SLoginStart.decode (version : ProtocolVersion) : FieldReader SLoginStart := do
  let name ← readStringBounded 16
  if name.isEmpty then throw (.invalid "empty username in SLoginStart")
  if !version.noLessThan .V1_19 then return { name, uuid := none, signatureData := none }
  let hasKey ← if version.lessThan .V1_19_3 then readBool else pure false
  let signatureData ← if hasKey then some <$> readPlayerKey else pure none
  -- The id is mandatory from 1.20.2 on and optional from 1.19.1 on.
  let hasUuid ←
    if version.noLessThan .V1_20_2 then pure true
    else if version.noLessThan .V1_19_1 then readBool
    else pure false
  let uuid ← if hasUuid then some <$> readUuid else pure none
  return { name, uuid, signatureData }

def SLoginStart.encode (p : SLoginStart) (version : ProtocolVersion) :
    Except ProtocolError Bytes := do
  let name ← string p.name
  if !version.noLessThan .V1_19 then return name
  let key :=
    if version.lessThan .V1_19_3 then
      match p.signatureData with
      | some sig => bool true ++ sig
      | none => bool false
    else []
  let uuid :=
    if version.noLessThan .V1_20_2 then toBeBytes 16 (p.uuid.getD 0)
    else if version.noLessThan .V1_19_1 then
      match p.uuid with
      | some uuid => bool true ++ toBeBytes 16 uuid
      | none => bool false
    else []
  return name ++ key ++ uuid

structure CEncryptionRequest where
  serverId : String
  publicKey : Bytes
  verifyToken : Bytes
  shouldAuthenticate : Bool
deriving DecidableEq, Repr

def CEncryptionRequest.encode (p : CEncryptionRequest) (version : ProtocolVersion) :
    Except ProtocolError Bytes := do
  let serverId ← string p.serverId
  let keys ←
    if version.noLessThan .V1_8 then
      pure (byteArray p.publicKey ++ byteArray p.verifyToken)
    else do
      let publicKey ← byteArrayShort p.publicKey
      pure (publicKey ++ (← byteArrayShort p.verifyToken))
  let flag := if version.noLessThan .V1_20_5 then bool p.shouldAuthenticate else []
  return serverId ++ keys ++ flag

/-- `SEncryptionResponse`. The salt takes the token's place in 1.19 to 1.19.2. -/
structure SEncryptionResponse where
  sharedSecret : Bytes
  verifyToken : Bytes
  salt : Option (BitVec 64)
deriving DecidableEq, Repr

def SEncryptionResponse.decode (version : ProtocolVersion) : FieldReader SEncryptionResponse := do
  if version.noLessThan .V1_8 then
    let sharedSecret ← readByteArray 128
    let hasToken ←
      if version.noLessThan .V1_19 && version.lessThan .V1_19_3 then readBool
      else pure true
    let salt ← if hasToken then pure none else some <$> readI64Be
    let verifyToken ← readByteArray (if version.noLessThan .V1_19 then 256 else 128)
    return { sharedSecret, verifyToken, salt }
  else
    let sharedSecret ← readByteArrayShort
    let verifyToken ← readByteArrayShort
    return { sharedSecret, verifyToken, salt := none }

structure CLoginPluginRequest where
  messageId : I32
  channel : String
  data : Bytes
deriving DecidableEq, Repr

def CLoginPluginRequest.decode : FieldReader CLoginPluginRequest := do
  let messageId ← readVarInt
  let channel ← readString
  return { messageId, channel, data := ← readRemaining }

structure SLoginPluginResponse where
  messageId : I32
  successful : Bool
  data : Bytes
deriving DecidableEq, Repr

def SLoginPluginResponse.encode (p : SLoginPluginResponse) : Bytes :=
  VarInt.encode p.messageId ++ bool p.successful ++ p.data

end Infrarust
