import Infrarust.Core.BackendLogin
import Infrarust.Core.ProxyLoop
import Infrarust.Core.Server
import Infrarust.Protocol.Play

/-!
# `Infrarust.Core.ServerSwitch`: moving a player to another backend

`performSwitch` finds the configuration of the target, asks the plugins, connects and logs in to
the new backend, and then takes the client over. Before 1.20.2 the client gets the new backend's
JoinGame and one or two Respawn packets. From 1.20.2 on it goes through the configuration phase
once more, within thirty seconds, and then gets the JoinGame.

`SwitchWorld` is what a switch meets: the router at each lookup, the answer of the plugins, the
connection, and how the two timers and the `select!` of the configuration phase come out. The
schedule has an entry for each read and write of that phase. It says which side a `select!`
takes, and where it ends the timer fires. A read that is cancelled keeps the bytes it has queued,
so it is as if it had not started. A write that is cancelled has sent its first `cut` bytes.
-/

set_option autoImplicit false

namespace Infrarust

/-! ### Finding the destination -/

inductive SwitchValidationError where
  | differentNetworks (current target : String)
deriving DecidableEq, Repr

/-- `SwitchValidationError`, printed. -/
def SwitchValidationError.display : SwitchValidationError → String
  | differentNetworks current target =>
    "servers are in different networks: '" ++ current ++ "' vs '" ++ target ++ "'"

/-- `validate_switch_allowed`. A server without a network has no restriction. -/
def validateSwitchAllowed (current target : ServerConfig) : Except SwitchValidationError Unit :=
  match current.network, target.network with
  | some a, some b => if a = b then .ok () else .error (.differentNetworks a b)
  | _, _ => .ok ()

/-- The router as one lookup finds it. -/
structure RouterView where
  router : DomainRouter
  order : ConfigOrder

/-- `find_by_server_id`. -/
def RouterView.find (view : RouterView) (serverId : String) : Option ServerConfig :=
  view.router.findByServerId view.order serverId

/-- The part of `ProxyServices` that a switch uses, and the libraries behind it. -/
structure SwitchServices where
  registry : PacketRegistry
  forwardingMode : GlobalForwarding
  forwardingSecret : Option Bytes
  /-- The names in the limbo handler registry. -/
  limboRegistry : List String
  texts : ForwardingTexts
  offlineUuid : String → Uuid
  deflate : ZlibCompressor
  inflate : ZlibDecompressor

variable (services : SwitchServices) (registry : PacketRegistry) (version : ProtocolVersion)

/-- `resolve_handlers_lenient`. A handler is known by its name. -/
def SwitchServices.resolveHandlersLenient (names : List String) : List String :=
  names.filter (services.limboRegistry.contains ·)

def SwitchServices.resolveHandlers (names : List String) : Option (List String) :=
  if names.all (services.limboRegistry.contains ·) then some names else none

/-- What the session knows of its player. -/
structure SwitchPlayer where
  handshake : HandshakeData
  /-- The first of the handshake's `raw_packets`. -/
  rawHandshake : Bytes
  username : String
  profile : GameProfile
  peerIp : IpAddr
  realIp : Option IpAddr
  version : ProtocolVersion

/-- What a switch meets. -/
structure SwitchWorld where
  targetView : RouterView
  currentView : RouterView
  redirectView : RouterView
  /-- The result of the `ServerPreConnectEvent`. -/
  preConnect : ServerPreConnectResult
  /-- The reason that comes with a denial, as JSON. -/
  denial : String
  /-- `BackendConnector::connect`, or how its error prints. -/
  connect : Except String TcpStream
  /-- The packets of the backend's login for which there is time. -/
  loginTurns : Nat
  schedule : List ConnectionSide
  cut : Nat

/-- Where a switch leads. -/
inductive SwitchRoute where
  | backend (serverId : String) (config : ServerConfig)
  | limbo (handlers : List String)
deriving DecidableEq, Repr

/-- The first half of `perform_switch`, up to the connection. The server that the plugins
redirect to is looked up but not validated. -/
def resolveSwitch (world : SwitchWorld) (current target : String) : Except CoreError SwitchRoute :=
  match world.targetView.find target with
  | none => .error (.rejected ("unknown server: " ++ target))
  | some serverConfig =>
    match world.currentView.find current with
    | none => .error (.rejected ("unknown current server: " ++ current))
    | some currentConfig =>
      match validateSwitchAllowed currentConfig serverConfig with
      | .error e => .error (.rejected e.display)
      | .ok () =>
        match world.preConnect with
        | .allowed | .virtualBackend => .ok (.backend target serverConfig)
        | .connectTo redirect =>
          if redirect = target then .ok (.backend target serverConfig)
          else
            match world.redirectView.find redirect with
            | none => .error (.rejected ("unknown redirect server: " ++ redirect))
            | some config => .ok (.backend redirect config)
        | .denied => .error (.rejected ("switch denied: " ++ world.denial))
        | .sendToLimbo names =>
          .ok (.limbo (services.resolveHandlersLenient
            (if names.isEmpty then serverConfig.limboHandlers else names)))

/-! ### Logging in -/

/-- The login at the new backend, up to the state in which the client is taken over. -/
def loginToBackend (player : SwitchPlayer) (turns : Nat)
    (config : ServerConfig) : BackendM Unit := do
  let handler := resolveForwardingHandler services.texts services.forwardingMode config
  let fwdData : ForwardingData :=
    { realIp := player.realIp.getD player.peerIp, uuid := player.profile.uuid
      username := player.username, properties := player.profile.properties
      protocolVersion := player.version }
  if handler.modifiesHandshake then
    BackendBridge.sendHandshakeAndLogin services.registry services.offlineUuid
      (handler.applyHandshake services.texts (buildHandshakeForBackend player.handshake config)
        fwdData) player.username
  else
    BackendBridge.sendInitialPacketsOffline services.registry services.offlineUuid
      services.deflate player.handshake player.rawHandshake config player.username
  BackendBridge.consumeBackendLogin services.registry services.texts player.version
    (services.forwardingSecret.map (fwdData, ·)) turns
  if player.version.noLessThan .V1_20_2 then
    BackendBridge.attempt (·.sendPacket services.registry .loginAcknowledged .serverbound
      fun _ => .ok [])
    modify (·.setState .config)

/-- The connection to the new backend, and the login. -/
def connectToTarget (player : SwitchPlayer) (world : SwitchWorld)
    (serverId : String) (config : ServerConfig) : Except CoreError BackendBridge :=
  match world.connect with
  | .error e => .error (.rejected ("failed to connect to " ++ serverId ++ ": " ++ e))
  | .ok stream =>
    match loginToBackend services player world.loginTurns config
        (.new services.deflate services.inflate stream player.version) with
    | .error e _ => .error e
    | .ok () backend => .ok backend

/-! ### The configuration phase -/

/-- The two bridges in the configuration phase, and what is left of the schedule. -/
structure SwitchState where
  client : ClientBridge
  backend : BackendBridge
  schedule : List ConnectionSide
  cut : Nat

/-- A part of the configuration phase. -/
abbrev SwitchM := EStateM CoreError SwitchState

namespace ConfigPhase

/-- The error of the phase's timer. -/
def timedOut : CoreError := .timeout "server switch config phase timed out"

/-- The next entry of the schedule. -/
def await : SwitchM ConnectionSide := fun s =>
  match s.schedule with
  | [] => .error timedOut s
  | side :: rest => .ok side { s with schedule := rest }

/-- `client.read_frame().await?.ok_or(CoreError::ConnectionClosed)?`. -/
def readClient : SwitchM PacketFrame := fun s =>
  match s.client.readFrame with
  | (.ok (some frame), client) => .ok frame { s with client }
  | (.ok none, client) => .error .connectionClosed { s with client }
  | (.error e, client) => .error e { s with client }

/-- `backend.read_frame().await?.ok_or(CoreError::ConnectionClosed)?`. -/
def readBackend : SwitchM PacketFrame := fun s =>
  match s.backend.readFrame with
  | (.ok (some frame), backend) => .ok frame { s with backend }
  | (.ok none, backend) => .error .connectionClosed { s with backend }
  | (.error e, backend) => .error e { s with backend }

/-- `ClientBridge::write_frame`, cancelled by the timer after `cut` bytes. -/
def cancelledWrite (c : ClientBridge) (frame : PacketFrame) (cut : Nat) :
    CoreError × ClientBridge :=
  match c.encoder.appendFrame frame with
  | .error e => (.protocol e, c)
  | .ok encoder =>
    let (data, encoder) := encoder.take
    let (data, cipher) := encryptWith c.encryptCipher data
    let (_, stream) := c.stream.writeAll (data.take cut)
    (timedOut, { c with encoder, encryptCipher := cipher, stream })

/-- `client.write_frame(&frame).await?`. -/
def writeClient (frame : PacketFrame) : SwitchM Unit := fun s =>
  match s.schedule with
  | [] =>
    let (e, client) := cancelledWrite s.client frame s.cut
    .error e { s with client }
  | _ :: schedule =>
    match s.client.writeFrame frame with
    | (.ok (), client) => .ok () { s with client, schedule }
    | (.error e, client) => .error e { s with client, schedule }

/-- `backend.write_frame(&frame).await?`. The backend is dropped when the switch fails, so what a
cancelled write has sent does not matter. -/
def writeBackend (frame : PacketFrame) : SwitchM Unit := do
  let _ ← await
  fun s =>
    match s.backend.writeFrame frame with
    | (.ok (), backend) => .ok () { s with backend }
    | (.error e, backend) => .error e { s with backend }

/-- `client.send_packet(&CStartConfiguration, registry).await?`. -/
def sendStartConfiguration (registry : PacketRegistry) : SwitchM Unit := do
  let client := (← get).client
  match registry.getPacketId .startConfiguration client.state .clientbound
      client.protocolVersion with
  | none =>
    throw (.auth ("no packet ID for " ++ PacketType.startConfiguration.name ++ " in "
      ++ client.state.debug ++ "/" ++ client.protocolVersion.debug))
  | some id => writeClient { id, payload := [] }

/-- The loops that drop the client's frames until the one with the given id. Every turn takes an
entry of the schedule, so `fuel` above its length is enough. -/
def absorbUntil (id : Option I32) : (fuel : Nat) → SwitchM PacketFrame
  | 0 => throw timedOut
  | fuel + 1 => do
    let _ ← await
    let frame ← readClient
    if some frame.id = id then return frame else absorbUntil id fuel

/-- The `select!` loop that passes on what the two sides send until the backend finishes the
configuration. -/
def forwardConfig (finishConfigId : Option I32) : (fuel : Nat) → SwitchM Unit
  | 0 => throw timedOut
  | fuel + 1 => do
    match ← await with
    | .serverSide =>
      let frame ← readBackend
      writeClient frame
      if some frame.id = finishConfigId then return else forwardConfig finishConfigId fuel
    | .clientSide =>
      let frame ← readClient
      writeBackend frame
      forwardConfig finishConfigId fuel

/-- `set_state` on both bridges. -/
def setStates (state : ConnectionState) : SwitchM Unit :=
  modify fun s => { s with client := s.client.setState state, backend := s.backend.setState state }

/-- The part of `handle_config_phase_switch` behind the StartConfiguration packet. -/
def afterStart (registry : PacketRegistry) (version : ProtocolVersion) : SwitchM PacketFrame := do
  let _ ← absorbUntil (registry.getPacketId .acknowledgeConfiguration .play .serverbound version)
    ((← get).schedule.length + 1)
  setStates .config
  forwardConfig (registry.getPacketId .finishConfig .config .clientbound version)
    ((← get).schedule.length + 1)
  let ack ← absorbUntil (registry.getPacketId .acknowledgeFinishConfig .config .serverbound version)
    ((← get).schedule.length + 1)
  writeBackend ack
  setStates .play
  let _ ← await
  readBackend

/-- `handle_config_phase_switch`: the JoinGame frame of the new backend. -/
def handleConfigPhaseSwitch (registry : PacketRegistry) (version : ProtocolVersion) :
    SwitchM PacketFrame := do
  sendStartConfiguration registry
  afterStart registry version

end ConfigPhase

/-! ### The packets for the client -/

/-- A sequence of operations on the client. -/
abbrev ClientM := EStateM CoreError ClientBridge

/-- `client.write_frame(&frame).await?`, without a timer. -/
def writeToClient (frame : PacketFrame) : ClientM Unit := fun c =>
  match c.writeFrame frame with
  | (.ok (), c) => .ok () c
  | (.error e, c) => .error e c

def sendRespawn (dimension : DimensionInfo) : ClientM Unit :=
  match registry.getPacketId .respawn .play .clientbound version with
  | none => throw (.protocol (.invalid "no Respawn packet ID"))
  | some id =>
    match encodeSwitchRespawn dimension version with
    | .error e => throw (.protocol e)
    | .ok payload => writeToClient { id, payload }

/-- The dimension in a JoinGame, before 1.20.2. -/
def joinGameDimension (payload : Bytes) :
    Except ProtocolError DimensionInfo := do
  let (rawPayload, _) ← CJoinGame.decodeRawPayload.run payload
  let (dimension, _) ← (extractDimensionFromJoinGame version).run rawPayload
  return dimension

/-- The Respawn packets behind the JoinGame, before 1.20.2. Before 1.16 the client has to leave
its dimension first. -/
def sendRespawns (joinGame : PacketFrame) : ClientM Unit :=
  match joinGameDimension version joinGame.payload with
  | .error e => throw (.protocol e)
  | .ok dimension => do
    if version.lessThan .V1_16 then
      sendRespawn registry version (tempDimension dimension)
      sendRespawn registry version dimension
    else sendRespawn registry version dimension

def sendSwitchPackets (joinGame : PacketFrame) : ClientM Unit := do
  writeToClient joinGame
  if version.noLessThan .V1_20_2 then return else sendRespawns registry version joinGame

/-! ### The switch -/

/-- `LimboEntryContext`. A kick without a reason counts as "Disconnected". -/
inductive LimboEntryContext where
  | initialConnection (targetServer : String)
  | kickedFromServer (server : String) (reason : Option ProxyLoop.DisconnectReason)
  | pluginRedirect (fromServer : Option String)
deriving DecidableEq, Repr

inductive SwitchResult where
  | backend (newBackend : BackendBridge) (newServerId : String)
  | limbo (handlers : List String) (context : LimboEntryContext)

/-- The last step of a switch, with the JoinGame frame of the new backend. -/
def finishSwitch (joinGame : PacketFrame) (backend : BackendBridge) (client : ClientBridge) :
    Except CoreError BackendBridge × ClientBridge :=
  match sendSwitchPackets registry version joinGame client with
  | .ok () client => (.ok backend, client)
  | .error e client => (.error e, client)

/-- The second half of `perform_switch`: the client is taken over to the new backend. -/
def enterBackend (world : SwitchWorld) (backend : BackendBridge) (client : ClientBridge) :
    Except CoreError BackendBridge × ClientBridge :=
  if version.noLessThan .V1_20_2 then
    match ConfigPhase.handleConfigPhaseSwitch registry version
        { client, backend, schedule := world.schedule, cut := world.cut } with
    | .error e s => (.error e, s.client)
    | .ok joinGame s => finishSwitch registry version joinGame s.backend s.client
  else
    match backend.readFrame with
    | (.error e, _) => (.error e, client)
    | (.ok none, _) => (.error .connectionClosed, client)
    | (.ok (some joinGame), backend) => finishSwitch registry version joinGame backend client

def performSwitch (player : SwitchPlayer) (world : SwitchWorld)
    (current target : String) (client : ClientBridge) :
    Except CoreError SwitchResult × ClientBridge :=
  match resolveSwitch services world current target with
  | .error e => (.error e, client)
  | .ok (.limbo handlers) => (.ok (.limbo handlers (.pluginRedirect (some current))), client)
  | .ok (.backend serverId config) =>
    match connectToTarget services player world serverId config with
    | .error e => (.error e, client)
    | .ok backend =>
      match enterBackend services.registry player.version world backend client with
      | (.error e, client) => (.error e, client)
      | (.ok backend, client) => (.ok (.backend backend serverId), client)

end Infrarust
