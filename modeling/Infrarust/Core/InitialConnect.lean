import Infrarust.Core.MojangAuth
import Infrarust.Core.Passthrough
import Infrarust.Core.SessionLoop

/-!
# `Infrarust.Core.InitialConnect`: an intercepted login, up to the session loop

The intercepted modes authenticate the player, ask the plugins where the player goes, and then
either connect to the backend or take the client through the rest of its login into a limbo.
`Server` has the same functions over the events that others can see. Here they work on the
bridges, so that the states of the two connections are there.

What a login meets is in `AuthWorld`, `PreparationWorld` and `InitialWorld`. A loop under a timer
has the number of the packets that come in time. `InitialState.dials` and `InitialState.announced`
are history variables: the configurations that connections were opened with, and the servers of
the `ServerConnectedEvent`s.
-/

set_option autoImplicit false

namespace Infrarust

open FieldReader
open FieldWriter

/-! ### The packet that completes a login -/

structure CLoginSuccess where
  uuid : Uuid
  username : String
  properties : List ProfileProperty
  strictErrorHandling : Bool
deriving DecidableEq, Repr

/-- `write_uuid_int_array`. -/
def Uuid.intArray (uuid : Uuid) : Bytes :=
  toBeBytes 4 (uuid >>> 96) ++ toBeBytes 4 (uuid >>> 64)
    ++ toBeBytes 4 (uuid >>> 32) ++ toBeBytes 4 uuid

/-- `Uuid::to_string`. -/
def Uuid.hyphenated (uuid : Uuid) : String :=
  let n := uuid.toNat
  Text.hex 8 (n / 2 ^ 96) ++ "-" ++ Text.hex 4 (n / 2 ^ 80 % 2 ^ 16) ++ "-"
    ++ Text.hex 4 (n / 2 ^ 64 % 2 ^ 16) ++ "-" ++ Text.hex 4 (n / 2 ^ 48 % 2 ^ 16) ++ "-"
    ++ Text.hex 12 (n % 2 ^ 48)

namespace CLoginSuccess

/-- The UUID, in the form of a version. -/
def encodeUuid (uuid : Uuid) (version : ProtocolVersion) : Except ProtocolError Bytes :=
  if version.noLessThan .V1_19 then .ok (toBeBytes 16 uuid)
  else if version.noLessThan .V1_16 then .ok uuid.intArray
  else if version.noLessThan .V1_7_6 then string uuid.hyphenated
  else string (Text.hex 32 uuid.toNat)

/-- The properties, which go to the client as they go to Velocity. -/
def encodeProperties (properties : List ProfileProperty) (version : ProtocolVersion) :
    Except ProtocolError Bytes := do
  if version.noLessThan .V1_19 then
    let encoded ← properties.mapM velocityProperty
    return VarInt.encode (BitVec.ofNat 32 properties.length) ++ encoded.flatten
  else return []

def encode (p : CLoginSuccess) (version : ProtocolVersion) : Except ProtocolError Bytes := do
  let uuid ← encodeUuid p.uuid version
  let username ← string p.username
  let properties ← encodeProperties p.properties version
  let strict := if version = .V1_20_5 ∨ version = .V1_21 then bool p.strictErrorHandling
    else []
  return uuid ++ username ++ properties ++ strict

end CLoginSuccess

namespace ClientBridge

/-- An operation with `.await?`. -/
def attempt {α : Type} (f : ClientBridge → Except CoreError α × ClientBridge) : ClientM α :=
  fun c =>
    match f c with
    | (.ok a, c) => .ok a c
    | (.error e, c) => .error e c

/-- `read_frame().await?.ok_or(CoreError::ConnectionClosed)?`. -/
def nextFrame : ClientM PacketFrame := fun c =>
  match c.readFrame with
  | (.ok (some frame), c) => .ok frame c
  | (.ok none, c) => .error .connectionClosed c
  | (.error e, c) => .error e c

end ClientBridge

namespace Intercepted

/-- The services of an intercepted login. -/
structure LoginServices extends SessionServices where
  reasonTexts : ReasonTexts
  /-- How an error prints. -/
  errorText : CoreError → String
  mojangAuth : MojangAuth
  aes : Bytes → Bytes → UInt8

/-- What comes with a login: the context of the connection. -/
structure LoginRequest where
  handshake : HandshakeData
  /-- The first of the handshake's `raw_packets`, and the others. -/
  rawHandshake : Bytes
  rawPackets : List Bytes
  login : Option LoginData
  peerIp : IpAddr
  clientIp : IpAddr

/-- The version of the client. -/
def LoginRequest.version (request : LoginRequest) : ProtocolVersion :=
  request.handshake.protocolVersion

/-- What the authentication meets: the answer of the plugins, with the reason of a denial as JSON,
and what is drawn at random. -/
structure AuthWorld where
  preLogin : PreLoginResult
  denial : String
  verifyToken : Bytes
  freshUuid : Uuid

structure CapturedFrames where
  registryFrames : List PacketFrame
  knownPacksFrame : Option PacketFrame
  finalized : Bool

/-- `RegistryCodecCache`: what was captured from backends, and the provider behind it. -/
structure RegistryCodecCache where
  captured : ProtocolVersion → Option CapturedFrames
  providedRegistry : ProtocolVersion → Except CoreError (List PacketFrame)
  providedKnownPacks : ProtocolVersion → Except CoreError (Option PacketFrame)

def RegistryCodecCache.getRegistryFrames (cache : RegistryCodecCache) (version : ProtocolVersion) :
    Except CoreError (List PacketFrame) :=
  match cache.captured version with
  | some entry =>
    if entry.finalized && !entry.registryFrames.isEmpty then .ok entry.registryFrames
    else cache.providedRegistry version
  | none => cache.providedRegistry version

def RegistryCodecCache.getKnownPacksFrame (cache : RegistryCodecCache)
    (version : ProtocolVersion) : Except CoreError (Option PacketFrame) :=
  match cache.captured version with
  | some entry =>
    if entry.finalized then .ok entry.knownPacksFrame else cache.providedKnownPacks version
  | none => cache.providedKnownPacks version

/-- What a preparation for the limbo meets: the cache, and the packets of the client for which
there is time in each of its loops. -/
structure PreparationWorld where
  codecCache : RegistryCodecCache
  knownPacksTurns : Nat
  finishTurns : Nat

/-- What `resolve_initial_mode` meets. A client can be prepared for the limbo twice, before the
connection to the backend and after it has failed. -/
structure InitialWorld where
  choose : ChooseInitialServerResult
  preConnect : ServerPreConnectResult
  /-- The reason that comes with a denial, as JSON. -/
  denial : String
  preparation : PreparationWorld
  /-- `BackendConnector::connect`, for the addresses and the settings of a server. -/
  connect : RoutingData → Except CoreError TcpStream
  /-- The packets of the backend's login for which there is time. -/
  loginTurns : Nat
  fallback : PreparationWorld

section Authentication

variable (services : LoginServices)

/-- `client.disconnect(..).await.ok()`. -/
def disconnect (reason : String) : ClientM Unit :=
  modify (·.disconnect services.reasonTexts services.registry reason)

def sendLoginSuccess (uuid : Uuid) (username : String) (properties : List ProfileProperty)
    (version : ProtocolVersion) : ClientM Unit :=
  let loginSuccess : CLoginSuccess :=
    { uuid, username, properties
      strictErrorHandling := version.noLessThan .V1_20_5 && version.noGreaterThan .V1_21 }
  ClientBridge.attempt (·.sendPacket services.registry .loginSuccess .clientbound
    loginSuccess.encode)

def consumeLoginAcknowledged (version : ProtocolVersion) : ClientM Unit := do
  let frame ← ClientBridge.nextFrame
  match services.registry.decodeFrame frame .login .serverbound version with
  | .error e => throw (.protocol e)
  | .ok (.typed _ .loginAcknowledged) => modify (·.setState .config)
  | .ok _ => throw (.auth "expected LoginAcknowledged from client")

/-- What follows a LoginSuccess. -/
def leaveLogin (version : ProtocolVersion) : ClientM Unit :=
  if version.noLessThan .V1_20_2 then consumeLoginAcknowledged services version
  else modify (·.setState .play)

def firePreLogin (world : AuthWorld) : ClientM PreLoginResult := do
  if world.preLogin = .denied then
    disconnect services world.denial
    throw .connectionClosed
  else return world.preLogin

/-- `run_mojang_auth_flow`. The profile has the UUID that the source makes of its id. -/
def runMojangAuthFlow (world : AuthWorld) (login : LoginData) (version : ProtocolVersion) :
    ClientM AuthResult := do
  let profile ← ClientBridge.attempt fun client =>
    services.mojangAuth.authenticate services.aes world.verifyToken client login.username
      services.registry
  sendLoginSuccess services profile.uuid profile.username profile.properties version
  leaveLogin services version
  return { playerUuid := profile.uuid, username := profile.username, apiProfile := profile
           loginCompleted := true, onlineMode := true }

def authenticate (strategy : AuthStrategy) (world : AuthWorld) (login : Option LoginData)
    (version : ProtocolVersion) : ClientM AuthResult :=
  match strategy with
  | .mojang =>
    match login with
    | none => throw (.missingExtension "LoginData")
    | some login => do
      match ← firePreLogin services world with
      | .forceOffline =>
        let playerUuid := login.playerUuid.getD (services.offlineUuid login.username)
        return .offline playerUuid login.username
      | _ => runMojangAuthFlow services world login version
  | .offline mojang => do
    let playerUuid := (login.bind (·.playerUuid)).getD world.freshUuid
    let username := (login.map (·.username)).getD ""
    match ← firePreLogin services world, mojang with
    | .forceOnline, true =>
      match login with
      | none => throw (.missingExtension "LoginData")
      | some login => runMojangAuthFlow services world login version
    | _, _ => return .offline playerUuid username

end Authentication

/-! ### The client on its way into a limbo -/

section Preparation

variable (services : LoginServices) (version : ProtocolVersion)

/-- `absorb_until`, with `turns` packets in time. -/
def absorbUntil (id : Option I32) (timeoutMessage : String) : (turns : Nat) → ClientM Unit
  | 0 => throw (.timeout timeoutMessage)
  | turns + 1 => do
    let frame ← ClientBridge.nextFrame
    if some frame.id = id then return else absorbUntil id timeoutMessage turns

variable (world : PreparationWorld)

/-- The first part of `complete_config_for_limbo`. Without known packs it is skipped. -/
def exchangeKnownPacks : ClientM Unit :=
  match world.codecCache.getKnownPacksFrame version with
  | .ok (some frame) => do
    writeToClient frame
    absorbUntil (services.registry.getPacketId (.other "SKnownPacks") .config .serverbound version)
      "limbo login: client did not send KnownPacks in time" world.knownPacksTurns
  | _ => pure ()

/-- The registry data. -/
def sendRegistryData : ClientM Unit :=
  match world.codecCache.getRegistryFrames version with
  | .ok frames => frames.forM writeToClient
  | .error e => throw e

/-- The last part of `complete_config_for_limbo`. -/
def finishConfig : ClientM Unit :=
  match services.registry.getPacketId .finishConfig .config .clientbound version with
  | none =>
    throw (.other ("no packet ID for CFinishConfig in Config/Clientbound/" ++ version.debug))
  | some id => do
    writeToClient { id, payload := [] }
    absorbUntil
      (services.registry.getPacketId .acknowledgeFinishConfig .config .serverbound version)
      "limbo login: client did not acknowledge finish config in time" world.finishTurns
    modify (·.setState .play)

def completeConfigForLimbo : ClientM Unit := do
  exchangeKnownPacks services version world
  sendRegistryData version world
  finishConfig services version world

end Preparation

/-! ### The first server -/

/-- What `resolve_initial_mode` changes. -/
structure InitialState where
  client : ClientBridge
  loginCompleted : Bool
  /-- The servers whose settings a connection was opened with. -/
  dials : List RoutingData
  /-- The servers of the `ServerConnectedEvent`s. -/
  announced : List String

abbrev InitialM := EStateM CoreError InitialState

/-- An operation on the client. -/
def onClient {α : Type} (m : ClientM α) : InitialM α := fun s =>
  match m s.client with
  | .ok a client => .ok a { s with client }
  | .error e client => .error e { s with client }

inductive InitialMode where
  | connected (mode : ConnectionMode) (serverId : String)
  | denied

/-- What a stage of `resolve_initial_mode` comes to. -/
inductive Stage where
  | denied
  | limbo (handlers : List String) (context : LimboEntryContext)
  | undecided

/-- The server that the first event names. -/
def targetServerId (initialServer : String) : ChooseInitialServerResult → String
  | .redirect id => id
  | _ => initialServer

section InitialConnect

variable (services : LoginServices) (request : LoginRequest) (auth : AuthResult)
  (routing : RoutingData) (world : InitialWorld)

def ensureLoginCompleteForLimbo : InitialM Unit := do
  if (← get).loginCompleted then return
  else
    onClient (sendLoginSuccess services auth.playerUuid auth.username [] request.version)
    onClient (leaveLogin services request.version)
    modify ({ · with loginCompleted := true })

/-- The configuration phase of `prepare_client_for_limbo`. When it fails the client is told. -/
def completeConfigOrDisconnect (preparation : PreparationWorld) : InitialM Unit := fun s =>
  match completeConfigForLimbo services request.version preparation s.client with
  | .ok () client => .ok () { s with client }
  | .error e client =>
    let client := client.disconnect services.reasonTexts services.registry (services.errorText e)
    .error e { s with client }

def prepareClientForLimbo (preparation : PreparationWorld) : InitialM Unit := do
  ensureLoginCompleteForLimbo services request auth
  if request.version.noLessThan .V1_20_2 then
    completeConfigOrDisconnect services request preparation
  else return

def resolveLimboStrict (names : List String) : Option (List String) :=
  (services.resolveHandlers names).filter (!·.isEmpty)

def resolveLimboLenient (names : List String) : Option (List String) :=
  match services.resolveHandlersLenient names with
  | [] => none
  | handlers => some handlers

def denyNoLimboHandlers : InitialM Stage := do
  onClient (disconnect services "No limbo handlers configured")
  return .denied

/-- Into the limbo of the initial connection, if there are handlers. -/
def limboOrDeny : Option (List String) → InitialM Stage
  | some handlers => return .limbo handlers (.initialConnection routing.configId)
  | none => denyNoLimboHandlers services

/-- The `PlayerChooseInitialServerEvent`. -/
def chooseStage : InitialM Stage := do
  match world.choose with
  | .sendToLimbo names =>
    prepareClientForLimbo services request auth world.preparation
    limboOrDeny services routing (resolveLimboStrict services names)
  | .allowed | .redirect _ => return .undecided

/-- The `ServerPreConnectEvent`. -/
def preConnectStage : InitialM Stage := do
  match world.preConnect with
  | .denied =>
    onClient (disconnect services world.denial)
    return .denied
  | .sendToLimbo names =>
    prepareClientForLimbo services request auth world.preparation
    limboOrDeny services routing (resolveLimboLenient services
      (if names.isEmpty then routing.serverConfig.limboHandlers else names))
  -- a server that the plugins connect to is not looked at here
  | .allowed | .connectTo _ | .virtualBackend => return .undecided

/-- The limbo handlers of the server. Without one under the names the login goes on. -/
def configuredStage : InitialM Stage := do
  if routing.serverConfig.limboHandlers.isEmpty then return .undecided
  else
    prepareClientForLimbo services request auth world.preparation
    match resolveLimboLenient services routing.serverConfig.limboHandlers with
    | some handlers => return .limbo handlers (.initialConnection routing.configId)
    | none => return .undecided

def sendInitialPackets (backend : BackendBridge) : Except CoreError Unit × BackendBridge :=
  match BackendBridge.rewriteHandshake services.deflate request.handshake request.rawHandshake
      routing.serverConfig with
  | .error e => (.error e, backend)
  | .ok handshakeBytes =>
    match writePackets (handshakeBytes :: request.rawPackets) backend.stream with
    | (.ok (), stream) => (.ok (), { backend with stream })
    | (.error e, stream) => (.error e, { backend with stream })

def buildForwardingData : ForwardingData :=
  { realIp := request.clientIp, uuid := auth.playerUuid, username := auth.username
    properties := auth.apiProfile.properties, protocolVersion := request.version }

/-- The first packets of a login that the proxy has completed itself. -/
def sendFirstPackets : BackendM Unit :=
  let handler := resolveForwardingHandler services.texts services.forwardingMode
    routing.serverConfig
  if handler.modifiesHandshake then
    BackendBridge.sendHandshakeAndLogin services.registry services.offlineUuid
      (handler.applyHandshake services.texts
        (buildHandshakeForBackend request.handshake routing.serverConfig)
        (buildForwardingData request auth)) auth.username
  else
    BackendBridge.sendInitialPacketsOffline services.registry services.offlineUuid
      services.deflate request.handshake request.rawHandshake routing.serverConfig auth.username

/-- The acknowledgement of the backend's login, from 1.20.2 on. -/
def acknowledgeLogin : BackendM Unit := do
  if request.version.noLessThan .V1_20_2 then
    BackendBridge.attempt (·.sendPacket services.registry .loginAcknowledged .serverbound
      fun _ => .ok [])
    modify (·.setState .config)
  else return

/-- The login at the backend, when the one of the client is complete. A backend that refuses it
makes the proxy disconnect the client. -/
def logInAgain (backend : BackendBridge) : InitialM BackendBridge := fun s =>
  match sendFirstPackets services request auth routing backend with
  | .error e _ => .error e s
  | .ok () backend =>
    let velocity := services.forwardingSecret.map (buildForwardingData request auth, ·)
    match BackendBridge.consumeBackendLogin services.registry services.texts request.version
        velocity world.loginTurns backend with
    | .error e _ =>
      let client := s.client.disconnect services.reasonTexts services.registry
        "Backend refused connection"
      .error e { s with client }
    | .ok () backend =>
      match acknowledgeLogin services request backend with
      | .error e _ => .error e s
      | .ok () backend => .ok backend s

def connectToBackend : InitialM BackendBridge := fun s =>
  match world.connect routing with
  | .error e => .error e s
  | .ok stream =>
    let backend := BackendBridge.new services.deflate services.inflate stream request.version
    let s := { s with dials := s.dials ++ [routing] }
    if s.loginCompleted then logInAgain services request auth routing world backend s
    else
      match sendInitialPackets services request routing backend with
      | (.ok (), backend) => .ok backend s
      | (.error e, _) => .error e s

/-- The server cannot be reached and there is no limbo. -/
def denyUnreachable : InitialM InitialMode := do
  onClient (disconnect services routing.serverConfig.effectiveDisconnectMessage)
  return .denied

/-- What follows a failed connection. -/
def fallBack (target : String) (e : CoreError) : InitialM InitialMode := do
  if routing.serverConfig.limboHandlers.isEmpty then denyUnreachable services routing
  else
    prepareClientForLimbo services request auth world.fallback
    match resolveLimboLenient services routing.serverConfig.limboHandlers with
    | some handlers =>
      let reason := .text ("Backend unreachable: " ++ services.errorText e)
      return .connected (.limbo handlers (.kickedFromServer target (some reason))) target
    | none => denyUnreachable services routing

/-- The end of `resolve_initial_mode`, without a limbo. -/
def connectStage (target : String) : InitialM InitialMode := fun s =>
  match connectToBackend services request auth routing world s with
  | .ok backend s =>
    .ok (.connected (.backend backend) target) { s with announced := s.announced ++ [target] }
  | .error e s => fallBack services request auth routing world target e s

/-- A stage, and the rest if it decides nothing. -/
def stage (target : String) (m : InitialM Stage) (rest : InitialM InitialMode) :
    InitialM InitialMode := do
  match ← m with
  | .denied => return .denied
  | .limbo handlers context => return .connected (.limbo handlers context) target
  | .undecided => rest

def resolveInitialMode : InitialM InitialMode :=
  let target := targetServerId routing.configId world.choose
  stage target (chooseStage services request auth routing world)
    (stage target (preConnectStage services request auth routing world)
      (stage target (configuredStage services request auth routing world)
        (connectStage services request auth routing world target)))

end InitialConnect

/-- The state of a new connection. -/
def InitialState.new (services : LoginServices) (request : LoginRequest) (stream : TcpStream)
    (bufferedData : Bytes) : InitialState where
  client := .new services.deflate services.inflate stream bufferedData request.version
  loginCompleted := false
  dials := []
  announced := []

/-- `InterceptedHandler::handle` up to the session loop. -/
def beginSession (services : LoginServices) (strings : Strings) (view : BanView)
    (strategy : AuthStrategy) (request : LoginRequest) (routing : RoutingData)
    (authWorld : AuthWorld) (world : InitialWorld) : InitialM (AuthResult × InitialMode) := do
  let auth ← onClient (authenticate services strategy authWorld request.login request.version)
  match (view.storage.checkPlayer strings view.now request.clientIp auth.username
      (some auth.playerUuid)).1 with
  | some entry =>
    onClient (disconnect services (entry.kickMessage view.now))
    return (auth, .denied)
  | none =>
    modify ({ · with loginCompleted := auth.loginCompleted })
    let mode ← resolveInitialMode services request auth routing world
    return (auth, mode)

end Intercepted

end Infrarust
