import Infrarust.Core.Pipeline

/-!
# `Infrarust.Core.Forwarding`: telling a backend who the player is

A forwarding handler puts the player's identity into the handshake, as BungeeCord and BungeeGuard
have it, or leaves that to the login, where Velocity asks for it with a plugin message. Which one
is used is a setting of the proxy that a server may override.

Printing an address and a list of properties, reading bytes as lossy UTF-8 and the HMAC are
library functions and enter as `ForwardingTexts`.
-/

set_option autoImplicit false

namespace Infrarust

open FieldWriter

/-- `ForwardingMode` of the proxy, with its secrets. -/
inductive GlobalForwarding where
  | none
  | bungeeCord
  | bungeeGuard (token : String)
  | velocity (secret : Bytes)
deriving DecidableEq, Repr

inductive ForwardingHandler where
  | none
  | legacy
  | bungeeGuard (token : String)
  | velocity
deriving DecidableEq, Repr

/-- The library functions that the forwarding uses. -/
structure ForwardingTexts where
  ip : IpAddr → String
  /-- The properties as a JSON array. -/
  properties : List ProfileProperty → String
  fromUtf8Lossy : Bytes → String
  /-- HMAC-SHA256 of a payload under a secret. -/
  hmacSha256 : Bytes → Bytes → Bytes

/-- `ForwardingData`. The proxy never has a chat session to forward. -/
structure ForwardingData where
  realIp : IpAddr
  uuid : Uuid
  username : String
  properties : List ProfileProperty
  protocolVersion : ProtocolVersion

section Forwarding

variable (texts : ForwardingTexts)

/-- `config_to_core_mode`: a server may choose a mode, with the secret of the proxy. -/
def configToCoreMode (global : GlobalForwarding) : ForwardingMode → GlobalForwarding
  | .none => .none
  | .bungeeCord => .bungeeCord
  | .bungeeGuard =>
    match global with
    | .bungeeGuard token => .bungeeGuard token
    | .velocity secret => .bungeeGuard (texts.fromUtf8Lossy secret)
    | _ => .none
  | .velocity =>
    match global with
    | .velocity secret => .velocity secret
    | _ => .none

def buildForwardingHandler : GlobalForwarding → ForwardingHandler
  | .none => .none
  | .bungeeCord => .legacy
  | .bungeeGuard token => .bungeeGuard token
  | .velocity _ => .velocity

def resolveForwardingHandler (global : GlobalForwarding) (config : ServerConfig) :
    ForwardingHandler :=
  match config.forwardingMode with
  | some mode => buildForwardingHandler (configToCoreMode texts global mode)
  | none => buildForwardingHandler global

/-- `LegacyForwardingHandler::apply_handshake`. The identity goes into the address. -/
def legacyApplyHandshake (handshake : Handshake) (data : ForwardingData) : Handshake :=
  { handshake with serverAddress := handshake.serverAddress ++ "\x00" ++ texts.ip data.realIp
      ++ "\x00" ++ Text.hex 32 data.uuid.toNat ++ "\x00" ++ texts.properties data.properties }

def ForwardingHandler.applyHandshake (handler : ForwardingHandler) (handshake : Handshake)
    (data : ForwardingData) : Handshake :=
  match handler with
  | .none | .velocity => handshake
  | .legacy => legacyApplyHandshake texts handshake data
  | .bungeeGuard token =>
    legacyApplyHandshake texts handshake { data with properties := data.properties ++
      [{ name := "bungeeguard-token", value := token, signature := some "" }] }

def ForwardingHandler.modifiesHandshake : ForwardingHandler → Bool
  | .none | .velocity => false
  | .legacy | .bungeeGuard _ => true

/-- A handshake with the given address and otherwise that of the client. -/
def HandshakeData.toHandshake (data : HandshakeData) (serverAddress : String) : Handshake where
  protocolVersion := data.protocolVersion
  serverAddress
  serverPort := data.port
  nextState := match data.intent with
    | .status => .status
    | .login | .transfer => .login

def buildHandshakeForBackend (data : HandshakeData) (config : ServerConfig) : Handshake :=
  data.toHandshake <| match config.domainRewrite with
    | .none => data.domain
    | .explicit domain => domain
    | .fromBackend => (config.addresses.head?.map (·.host)).getD data.domain

/-- A handshake as a frame. -/
def frameHandshake (deflate : ZlibCompressor) (handshake : Handshake) : Except CoreError Bytes :=
  match handshake.encode with
  | .error e => .error (.protocol e)
  | .ok payload =>
    match (PacketEncoder.new deflate).appendRaw 0x00#32 payload with
    | .error e => .error (.protocol e)
    | .ok encoder => .ok encoder.take.1

/-! ### Velocity -/

def isVelocityRequest (request : CLoginPluginRequest) : Bool :=
  request.channel = "velocity:player_info"

/-- `VelocityForwardingHandler::negotiate_version`, without a chat session. -/
def negotiateVersion (backendVersion : UInt8) (protocol : ProtocolVersion) : UInt8 :=
  let requested := min backendVersion 0x04
  if requested ≤ 0x01 then 0x01
  else if protocol.noLessThan .V1_19_3 then if requested ≥ 0x04 then 0x04 else 0x01
  else 0x01

/-- A property as Velocity reads it. -/
def velocityProperty (property : ProfileProperty) : Except ProtocolError Bytes := do
  let name ← string property.name
  let value ← string property.value
  match property.signature with
  | some sig => return name ++ value ++ bool true ++ (← string sig)
  | none => return name ++ value ++ bool false

/-- `VelocityForwardingHandler::build_payload`. A text that is too long is a panic of the
source and an error here. -/
def buildPayload (data : ForwardingData) (version : UInt8) : Except ProtocolError Bytes := do
  let ip ← string (texts.ip data.realIp)
  let username ← string data.username
  let properties ← data.properties.mapM velocityProperty
  return VarInt.encode (BitVec.ofNat 32 version.toNat) ++ ip
    ++ toBeBytes 16 data.uuid ++ username
    ++ VarInt.encode (BitVec.ofNat 32 data.properties.length) ++ properties.flatten

def buildVelocityResponse (request : CLoginPluginRequest) (data : ForwardingData)
    (secret : Bytes) : Except ProtocolError SLoginPluginResponse := do
  let backendVersion := request.data.head?.getD 0x01
  let payload ← buildPayload texts data (negotiateVersion backendVersion data.protocolVersion)
  return { messageId := request.messageId, successful := true
           data := texts.hmacSha256 secret payload ++ payload }

end Forwarding

end Infrarust
