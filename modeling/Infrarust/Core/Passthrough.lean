import Infrarust.Core.Forwarding

/-!
# `Infrarust.Core.Passthrough`: the bytes of a passthrough login

The first packets of a client are parsed off its stream and kept as raw bytes. What is read
beyond them stays in `bufferedData`. The passthrough handler then writes the raw packets to the
backend, with another handshake if the server rewrites the domain or forwards the player's
identity, and copies the stream. `Pipeline` has the same parsers over what they make of the
client's bytes. The timeout of the parsers is an error there and is left out here.
-/

set_option autoImplicit false

namespace Infrarust

/-! ### Parsing the first packets -/

/-- The stream of a `ConnectionContext` and its `buffered_data`. -/
structure ClientSocket where
  stream : TcpStream
  bufferedData : Bytes

inductive LegacyDetection where
  | legacyPing
  | legacyLogin
  | modern
deriving DecidableEq, Repr

def LegacyDetection.detect (firstByte : UInt8) : LegacyDetection :=
  if firstByte = 0xFE then .legacyPing
  else if firstByte = 0x02 then .legacyLogin
  else .modern

namespace ClientSocket

/-- The first byte of the connection. It stays in the buffer. -/
def firstByte (s : ClientSocket) : Except CoreError UInt8 × ClientSocket :=
  match s.bufferedData with
  | b :: _ => (.ok b, s)
  | [] =>
    match s.stream.read 1 with
    | (.error kind, stream) => (.error (.io kind), { s with stream })
    | (.ok [], stream) => (.error .connectionClosed, { s with stream })
    | (.ok (b :: data), stream) => (.ok b, { stream, bufferedData := b :: data })

/-- The loop of both parsers: a frame, the bytes it was decoded from, and the bytes that were
read beyond them. -/
def readPacket (inflate : ZlibDecompressor) (s : ClientSocket) :
    Except CoreError (PacketFrame × Bytes × Bytes) × TcpStream :=
  let inlet : Inlet :=
    { stream := s.stream, decoder := (PacketDecoder.new inflate).queueBytes s.bufferedData
      cipher := none, queued := s.bufferedData.map (·, false) }
  match inlet.readFrame 1024 with
  | (.error e, inlet) => (.error e, inlet.stream)
  | (.ok none, inlet) => (.error .connectionClosed, inlet.stream)
  | (.ok (some frame), inlet) =>
    let remaining := inlet.decoder.intoRemaining
    let rawData := inlet.queued.map Prod.fst
    (.ok (frame, rawData.take (rawData.length - remaining.length), remaining), inlet.stream)

/-- A packet with another id than zero. -/
def unexpectedId (expected : String) (id : I32) : CoreError :=
  .protocol (.invalid ("expected " ++ expected ++ " (0x00), got 0x"
    ++ (Text.hex 2 id.toNat).map Char.toUpper))

/-- `HandshakeParserMiddleware::process`: the handshake and its raw bytes, or `none` for a
legacy client. -/
def parseHandshake (strings : Strings) (inflate : ZlibDecompressor) (s : ClientSocket) :
    Except CoreError (Option (HandshakeData × Bytes)) × ClientSocket :=
  match s.firstByte with
  | (.error e, s) => (.error e, s)
  | (.ok firstByte, s) =>
    match LegacyDetection.detect firstByte with
    | .legacyPing | .legacyLogin => (.ok none, s)
    | .modern =>
      match s.readPacket inflate with
      | (.error e, stream) => (.error e, { s with stream })
      | (.ok (frame, rawData, remaining), stream) =>
        let s : ClientSocket := { stream, bufferedData := remaining }
        if frame.id ≠ 0x00#32 then (.error (unexpectedId "handshake" frame.id), s)
        else
          match Handshake.decode.run frame.payload with
          | .error e => (.error (.protocol e), s)
          | .ok (handshake, _) => (.ok (some (.ofHandshake strings handshake, rawData)), s)

/-- `LoginStartParserMiddleware::process`: the login data and the raw bytes. -/
def parseLoginStart (inflate : ZlibDecompressor) (version : ProtocolVersion) (s : ClientSocket) :
    Except CoreError (LoginData × Bytes) × ClientSocket :=
  match s.readPacket inflate with
  | (.error e, stream) => (.error e, { s with stream })
  | (.ok (frame, rawData, remaining), stream) =>
    if frame.id ≠ 0x00#32 then
      (.error (unexpectedId "login start" frame.id), { s with stream })
    else
      match (SLoginStart.decode version).run frame.payload with
      | .error e => (.error (.protocol e), { s with stream })
      | .ok (loginStart, _) =>
        (.ok ({ username := loginStart.name, playerUuid := loginStart.uuid }, rawData),
          { stream, bufferedData := remaining })

end ClientSocket

/-! ### The first packets of the backend -/

/-- Writes one after the other, up to the first failure. -/
def writePackets : List Bytes → TcpStream → Except CoreError Unit × TcpStream
  | [], backend => (.ok (), backend)
  | raw :: rest, backend =>
    match backend.writeAll raw with
    | (.ok (), backend) => writePackets rest backend
    | (.error kind, backend) => (.error (.io kind), backend)

/-- A new handshake and the raw packets after the client's. -/
def forwardWithHandshake (deflate : ZlibCompressor) (rawPackets : List Bytes)
    (handshake : Handshake) (backend : TcpStream) : Except CoreError Unit × TcpStream :=
  match frameHandshake deflate handshake with
  | .error e => (.error e, backend)
  | .ok bytes => writePackets (bytes :: rawPackets.drop 1) backend

/-- `PassthroughHandler::forward_initial_packets`. Velocity cannot be used here and falls back
to BungeeCord. -/
def forwardInitialPackets (texts : ForwardingTexts) (deflate : ZlibCompressor)
    (global : GlobalForwarding) (data : HandshakeData) (rawPackets : List Bytes)
    (config : ServerConfig) (fwdData : ForwardingData) (backend : TcpStream) :
    Except CoreError Unit × TcpStream :=
  let forward (handler : ForwardingHandler) := forwardWithHandshake deflate rawPackets
    (handler.applyHandshake texts (buildHandshakeForBackend data config) fwdData) backend
  match resolveForwardingHandler texts global config with
  | .velocity => forward .legacy
  | .legacy => forward .legacy
  | .bungeeGuard token => forward (.bungeeGuard token)
  | .none =>
    match config.domainRewrite, config.addresses.head? with
    | .explicit domain, _ =>
      forwardWithHandshake deflate rawPackets (data.toHandshake domain) backend
    | .fromBackend, some address =>
      forwardWithHandshake deflate rawPackets (data.toHandshake address.host) backend
    | _, _ => writePackets rawPackets backend

/-! ### Copying the stream -/

/-- The forwarders of `select_forwarder`. -/
inductive Forwarder where
  | copy
  | splice
deriving DecidableEq, Repr

/-- `select_forwarder`, on Linux. -/
def selectForwarder : ProxyMode → Forwarder
  | .zeroCopy => .splice
  | _ => .copy

/-- How many bytes a forwarder moves at once. -/
def Forwarder.chunkSize : Forwarder → Nat
  | .copy => 8192
  | .splice => 65536

/-- From the client to the backend, chunk by chunk, until the client's stream ends or one side
fails. Each turn but the last moves a byte or more, so `fuel` above the number of bytes to come
is enough. -/
def pump (chunkSize : Nat) : (fuel : Nat) → (client backend : TcpStream) → TcpStream
  | 0, _, backend => backend
  | fuel + 1, client, backend =>
    match client.read chunkSize with
    | (.error _, _) => backend
    | (.ok [], _) => backend
    | (.ok (b :: data), client) =>
      match backend.writeAll (b :: data) with
      | (.error _, backend) => backend
      | (.ok (), backend) => pump chunkSize fuel client backend

/-- The client's direction of `Forwarder::forward`. -/
def Forwarder.forward (forwarder : Forwarder) (client backend : TcpStream) : TcpStream :=
  pump forwarder.chunkSize (client.incoming.flatten.length + 1) client backend

/-- The proxy's side of a passthrough login over the stream of a client: the parsers, and the
part of `PassthroughHandler::handle` that moves bytes. `serverConfig` is what the domain routes
to, and `backend` the connection that was opened. The result is the backend's stream. -/
def passthroughBytes (strings : Strings) (inflate : ZlibDecompressor) (deflate : ZlibCompressor)
    (texts : ForwardingTexts) (global : GlobalForwarding) (clientIp : IpAddr) (freshUuid : Uuid)
    (serverConfig : ServerConfig) (s : ClientSocket) (backend : TcpStream) : TcpStream :=
  match s.parseHandshake strings inflate with
  | (.ok (some (handshake, rawHandshake)), s) =>
    -- the status handler or none takes the others
    if handshake.intent ≠ .login then backend
    else
      match s.parseLoginStart inflate handshake.protocolVersion with
      | (.error _, _) => backend
      | (.ok (login, rawLogin), s) =>
        let fwdData : ForwardingData :=
          { realIp := clientIp, uuid := login.playerUuid.getD freshUuid, username := login.username
            properties := [], protocolVersion := handshake.protocolVersion }
        match forwardInitialPackets texts deflate global handshake [rawHandshake, rawLogin]
            serverConfig fwdData backend with
        | (.error _, backend) => backend
        -- what the parsers have read beyond the login packet stays behind in `s.bufferedData`
        | (.ok (), backend) => (selectForwarder serverConfig.proxyMode).forward s.stream backend
  | _ => backend

end Infrarust
