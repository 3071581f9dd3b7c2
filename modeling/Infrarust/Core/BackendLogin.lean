import Infrarust.Core.Forwarding

/-!
# `Infrarust.Core.BackendLogin`: the proxy logs in to a backend itself

After a login that the proxy has completed, and for every switch, the proxy sends the handshake
and the login packet of the player to the new backend and reads the backend's answers until the
login has succeeded. The answers have thirty seconds. How many of them come in that time is an
argument.
-/

set_option autoImplicit false

namespace Infrarust

/-- A sequence of operations on a backend. A failure keeps what was done before it. -/
abbrev BackendM := EStateM CoreError BackendBridge

namespace BackendBridge

/-- An operation with `.await?`. -/
def attempt {α : Type} (f : BackendBridge → Except CoreError α × BackendBridge) : BackendM α :=
  fun b =>
    match f b with
    | (.ok a, b) => .ok a b
    | (.error e, b) => .error e b

/-- `read_frame().await?.ok_or(CoreError::ConnectionClosed)?`. -/
def nextFrame : BackendM PacketFrame := do
  match ← attempt readFrame with
  | some frame => return frame
  | none => throw .connectionClosed

/-- A write to the stream past the encoder. -/
def writeRaw (data : Bytes) (b : BackendBridge) : Except CoreError Unit × BackendBridge :=
  match b.stream.writeAll data with
  | (.ok (), stream) => (.ok (), { b with stream })
  | (.error kind, stream) => (.error (.io kind), { b with stream })

/-- An encoding with `?`. -/
def encoded {α : Type} : Except ProtocolError α → BackendM α
  | .ok a => pure a
  | .error e => throw (.protocol e)

/-- The end of both ways to send the first packets: the login packet, under the offline UUID of
the name. -/
def sendLoginStart (registry : PacketRegistry) (offlineUuid : String → Uuid)
    (version : ProtocolVersion) (username : String) : BackendM Unit := do
  let loginStart : SLoginStart :=
    { name := username, uuid := some (offlineUuid username), signatureData := none }
  let id := (registry.getPacketId .loginStart .login .serverbound version).getD 0x00#32
  let payload ← encoded (loginStart.encode version)
  attempt (·.writeFrame { id, payload })

def sendHandshakeAndLogin (registry : PacketRegistry) (offlineUuid : String → Uuid)
    (handshake : Handshake) (username : String) : BackendM Unit := do
  let payload ← encoded handshake.encode
  attempt (·.writeFrame { id := 0x00#32, payload })
  sendLoginStart registry offlineUuid (← get).protocolVersion username

/-- `rewrite_handshake`, where `rawHandshake` is the packet that the client sent. -/
def rewriteHandshake (deflate : ZlibCompressor) (data : HandshakeData) (rawHandshake : Bytes)
    (config : ServerConfig) : Except CoreError Bytes :=
  match config.domainRewrite, config.addresses.head? with
  | .explicit domain, _ => frameHandshake deflate (data.toHandshake domain)
  | .fromBackend, some address => frameHandshake deflate (data.toHandshake address.host)
  | _, _ => .ok rawHandshake

def sendInitialPacketsOffline (registry : PacketRegistry) (offlineUuid : String → Uuid)
    (deflate : ZlibCompressor) (data : HandshakeData) (rawHandshake : Bytes)
    (config : ServerConfig) (username : String) : BackendM Unit := do
  let handshakeBytes ← attempt (rewriteHandshake deflate data rawHandshake config, ·)
  attempt (writeRaw handshakeBytes)
  sendLoginStart registry offlineUuid data.protocolVersion username

/-- The answer to a plugin request. Without a secret the proxy does not understand Velocity. -/
def pluginResponse (texts : ForwardingTexts) (velocity : Option (ForwardingData × Bytes))
    (request : CLoginPluginRequest) : Except ProtocolError SLoginPluginResponse :=
  match isVelocityRequest request, velocity with
  | true, some (data, secret) => buildVelocityResponse texts request data secret
  | _, _ => .ok { messageId := request.messageId, successful := false, data := [] }

/-- `BackendBridge::consume_backend_login`, with `turns` packets in time. -/
def consumeBackendLogin (registry : PacketRegistry) (texts : ForwardingTexts)
    (version : ProtocolVersion) (velocity : Option (ForwardingData × Bytes)) :
    (turns : Nat) → BackendM Unit
  | 0 => throw (.rejected "backend login timed out")
  | turns + 1 => do
    let frame ← nextFrame
    match registry.decodeFrame frame .login .clientbound version with
    | .error e => throw (.protocol e)
    | .ok (.typed _ (.setCompression threshold)) =>
      modify (·.setCompression threshold)
      consumeBackendLogin registry texts version velocity turns
    | .ok (.typed _ .loginSuccess) =>
      if version.lessThan .V1_20_2 then modify (·.setState .play)
    | .ok (.typed _ (.loginDisconnect reason)) =>
      throw (.rejected ("backend refused login: " ++ reason))
    | .ok (.typed _ (.loginPluginRequest request)) =>
      let response ← encoded (pluginResponse texts velocity request)
      attempt (·.sendPacket registry .loginPluginResponse .serverbound
        fun _ => .ok response.encode)
      consumeBackendLogin registry texts version velocity turns
    | .ok _ => consumeBackendLogin registry texts version velocity turns

end BackendBridge

end Infrarust
