import Infrarust.Core.Passthrough
import Infrarust.Core.Server

/-!
# `Infrarust.Core.Status.Handler`: how a status request is answered

`StatusHandler` picks a response by the route of the connection, tells the plugins about it and
sends it as JSON. Then it reads a second packet and answers it with a `CPingResponse`. Each of the
two packets is read with a decoder of its own. The first decoder starts with the bytes that the
parser of the handshake has left, and neither of them hands on what it has left itself.

`statusResponse` puts the handler behind the common pipeline, as `handle_connection` does. The
timeouts of the reads are errors in the code; a stream that stays silent is one that ends here.
-/

set_option autoImplicit false

namespace Infrarust

/-! ### Responses -/

def CURRENT_MC_PROTOCOL : I32 := 774#32

/-- The description of a response, a `serde_json::Value`. -/
inductive Description where
  | text (text : String)
  /-- What a backend or a plugin has put there, in JSON. -/
  | value (json : String)
deriving DecidableEq, Repr

structure PingVersion where
  name : String
  protocol : I32
deriving DecidableEq, Repr

structure PingPlayerSample where
  name : String
  id : String
deriving DecidableEq, Repr

structure PingPlayers where
  max : I32
  online : I32
  sample : List PingPlayerSample
deriving DecidableEq, Repr

/-- `ServerPingResponse`. The keys of `extra` come with their values in JSON. -/
structure ServerPingResponse where
  version : PingVersion
  players : PingPlayers
  description : Description
  favicon : Option String
  extra : List (String × String)
deriving DecidableEq, Repr

namespace ServerPingResponse

def synthetic (description : String) (favicon versionName : Option String)
    (maxPlayers : Option I32) : ServerPingResponse where
  version := { name := versionName.getD "Infrarust", protocol := CURRENT_MC_PROTOCOL }
  players := { max := maxPlayers.getD 0#32, online := 0#32, sample := [] }
  description := .text description
  favicon := favicon
  extra := []

/-- A synthetic response with the values of an entry. -/
def ofEntry (entry : MotdEntry) : ServerPingResponse :=
  synthetic entry.text entry.favicon entry.versionName (entry.maxPlayers.map (·.toBitVec))

/-- `apply_overrides`. The text always replaces the description. -/
def applyOverrides (response : ServerPingResponse) (motd : MotdEntry) : ServerPingResponse :=
  { response with
    description := .text motd.text
    favicon := motd.favicon.orElse fun _ => response.favicon
    version := { response.version with name := motd.versionName.getD response.version.name }
    players := { response.players with
      max := (motd.maxPlayers.map (·.toBitVec)).getD response.players.max } }

end ServerPingResponse

/-- What the answer of a `StatusHandler` depends on, besides the backends: the states of the
managed servers, the default texts, the icons and the number of players on each server. -/
structure StatusHandler where
  serverManager : Option (String → Option ServerState)
  defaultMotd : Option MotdConfig
  faviconCache : String → Option String
  countByServer : String → Nat

/-- What happens while a status request is answered: what `relay_or_cache` returns for a server,
what the listeners of `ProxyPingEvent` make of the response, and how it is written. -/
structure StatusWorld where
  relayOrCache : ServerConfig → String → ServerPingResponse
  onPing : ServerPingResponse → ServerPingResponse
  toJson : ServerPingResponse → Except CoreError String

namespace StatusHandler

variable (handler : StatusHandler)

def buildStateMotd (config : ServerConfig) (state : ServerState) : ServerPingResponse :=
  let (motdEntry, defaultText) := match state with
    | .sleeping => (config.motd.sleeping, "§7Server sleeping — §aConnect to wake up!")
    | .starting => (config.motd.starting, "§eServer is starting...")
    | .crashed => (config.motd.crashed, "§cServer unavailable")
    | .stopping => (config.motd.stopping, "§6Server is stopping...")
    | _ => (none, "A Minecraft Server")
  motdEntry.elim (.synthetic defaultText none none none) .ofEntry

def buildDefaultMotdResponse : ServerPingResponse :=
  (handler.defaultMotd.bind (·.online)).elim
    (.synthetic "An Infrarust Proxy" none none none) .ofEntry

def buildUnreachableMotd (config : ServerConfig) (configId : String) : ServerPingResponse :=
  match config.motd.unreachable with
  | some entry => .ofEntry entry
  | none =>
    match handler.defaultMotd.bind (·.unreachable) with
    | some entry => .ofEntry entry
    | none =>
      let response := ServerPingResponse.synthetic "§cServer unreachable" none none
        (some config.maxPlayers.toBitVec)
      { response with players := { response.players with
          online := BitVec.ofNat 32 (handler.countByServer configId) } }

def resolveResponse (world : StatusWorld) (routing : Option RoutingData) : ServerPingResponse :=
  match routing with
  | none => handler.buildDefaultMotdResponse
  | some { serverConfig := config, configId } =>
    let state := if config.serverManager.isSome then
      handler.serverManager.bind (· configId) else none
    match state with
    | none | some .online =>
      let response := world.relayOrCache config configId
      let response := config.motd.online.elim response response.applyOverrides
      { response with favicon := response.favicon.orElse fun _ => handler.faviconCache configId }
    | some state => buildStateMotd config state

/-- The JSON that is sent for a route, after the listeners. -/
def response (world : StatusWorld) (routing : Option RoutingData) : Except CoreError String :=
  world.toJson (world.onPing (handler.resolveResponse world routing))

end StatusHandler

/-! ### The packets of the Status state -/

/-- The packets that the registry decodes from a client in the Status state. -/
inductive StatusPacket where
  | statusRequest
  | pingRequest (payload : BitVec 64)
deriving DecidableEq, Repr

/-- `decode_frame` in the Status state. An unknown id is no error. -/
def StatusPacket.decode (frame : PacketFrame) : Except ProtocolError (Option StatusPacket) :=
  if frame.id = 0x00#32 then .ok (some .statusRequest)
  else if frame.id = 0x01#32 then
    match FieldReader.readI64Be.run frame.payload with
    | .ok (payload, _) => .ok (some (.pingRequest payload))
    | .error e => .error e
  else .ok none

/-- A packet as a frame. -/
def frameStatusPacket (deflate : ZlibCompressor) (packetId : I32)
    (payload : Except ProtocolError Bytes) : Except CoreError Bytes :=
  match payload with
  | .error e => .error (.protocol e)
  | .ok payload =>
    match (PacketEncoder.new deflate).appendRaw packetId payload with
    | .error e => .error (.protocol e)
    | .ok encoder => .ok encoder.take.1

/-- A `CStatusResponse`. -/
def frameStatusResponse (deflate : ZlibCompressor) (json : String) : Except CoreError Bytes :=
  frameStatusPacket deflate 0x00#32 (FieldWriter.string json)

/-- A `CPingResponse`. -/
def framePingResponse (deflate : ZlibCompressor) (payload : BitVec 64) : Except CoreError Bytes :=
  frameStatusPacket deflate 0x01#32 (.ok (FieldWriter.toBeBytes 8 payload))

/-! ### The exchange -/

namespace ClientSocket

variable (deflate : ZlibCompressor) (inflate : ZlibDecompressor)

/-- The reading loop of both functions below. What the decoder has left is dropped with it. -/
def readStatusFrame (s : ClientSocket) (queued : Bytes) :
    Except CoreError PacketFrame × ClientSocket :=
  let inlet : Inlet :=
    { stream := s.stream, decoder := (PacketDecoder.new inflate).queueBytes queued
      cipher := none, queued := [] }
  match inlet.readFrame 512 with
  | (.error e, inlet) => (.error e, { s with stream := inlet.stream })
  | (.ok none, inlet) => (.error .connectionClosed, { s with stream := inlet.stream })
  | (.ok (some frame), inlet) => (.ok frame, { s with stream := inlet.stream })

/-- `read_status_request`. Any frame will do. -/
def readStatusRequest (s : ClientSocket) : Except CoreError Unit × ClientSocket :=
  match readStatusFrame inflate { s with bufferedData := [] } s.bufferedData with
  | (.error e, s) => (.error e, s)
  | (.ok _, s) => (.ok (), s)

def sendPacket (s : ClientSocket) (frame : Except CoreError Bytes) :
    Except CoreError Unit × ClientSocket :=
  match frame with
  | .error e => (.error e, s)
  | .ok bytes =>
    match s.stream.writeAll bytes with
    | (.error kind, stream) => (.error (.io kind), { s with stream })
    | (.ok (), stream) => (.ok (), { s with stream })

/-- `handle_ping_pong`. A packet that is no ping is answered with zero. -/
def handlePingPong (s : ClientSocket) : Except CoreError Unit × ClientSocket :=
  match readStatusFrame inflate s [] with
  | (.error e, s) => (.error e, s)
  | (.ok frame, s) =>
    match StatusPacket.decode frame with
    | .error e => (.error (.protocol e), s)
    | .ok (some (.pingRequest payload)) => s.sendPacket (framePingResponse deflate payload)
    | .ok _ => s.sendPacket (framePingResponse deflate 0)

end ClientSocket

def StatusHandler.handle (handler : StatusHandler) (world : StatusWorld) (deflate : ZlibCompressor)
    (inflate : ZlibDecompressor) (routing : Option RoutingData) (s : ClientSocket) :
    Except CoreError Unit × ClientSocket :=
  match s.readStatusRequest inflate with
  | (.error e, s) => (.error e, s)
  | (.ok (), s) =>
    match handler.response world routing with
    | .error e => (.error e, s)
    | .ok json =>
      match s.sendPacket (frameStatusResponse deflate json) with
      | (.error e, s) => (.error e, s)
      | (.ok (), s) => s.handlePingPong deflate inflate

/-- The response that `handle_connection` has for a connection: there is one if the pipeline lets
the connection through and it has Status intent. -/
def statusResponse (strings : Strings) (env : ProxyEnv) (bans : Checkpoint → BanView)
    (handler : StatusHandler) (world : StatusWorld) (conn : Connection) :
    Option ServerPingResponse :=
  let ctx : ConnectionContext :=
    { clientIp := conn.clientIp, client := conn.client, handshake := none, routing := none
      login := none, legacyDetected := false }
  match Pipeline.execute (commonPipeline strings env bans) ctx with
  | .ok (.proceed, ctx) =>
    if ctx.handshake.any (·.intent = .status) then
      some (world.onPing (handler.resolveResponse world ctx.routing))
    else none
  -- a rejected client is told so only if it has not asked for the status
  | .ok (.shortCircuit, _) | .ok (.reject _, _) => none
  | .error _ => none

end Infrarust
