import Infrarust.Core.Pipeline

/-!
# `Infrarust.Core.Server`: from an accepted connection to a backend

`handleConnection` takes a connection through the pipelines to one of the handlers, and
returns what it does that others can see: connections it opens, sessions it registers, the
identity it forwards and the text it kicks with. `ProxyEnv` is what a connection meets on the
way and does not decide itself: the configuration, the answers of plugins, of Mojang and of
the limbo, and whether reads and writes succeed. A handler that ends with an error does nothing
after it.
-/

set_option autoImplicit false

namespace Infrarust

/-- What a backend connection is opened for. -/
inductive Purpose where
  | ping
  | login
  /-- Opened by the session loop, after the limbo or for a switch. -/
  | session
deriving DecidableEq, Repr

/-- What happens on a connection. -/
inductive ConnEvent where
  /-- `BackendConnector::connect`, and whether it succeeded. -/
  | connect (purpose : Purpose) (serverId : String) (opened : Bool)
  | register (profile : GameProfile)
  /-- The UUID of the forwarding data, or of the login packet that is passed on. -/
  | forward (uuid : Uuid)
  | kick (reason : Reason)
  /-- The status handler takes over. -/
  | status
deriving DecidableEq, Repr

inductive PreLoginResult where
  | allowed
  | denied
  | forceOffline
  | forceOnline
deriving DecidableEq, Repr

/-- `PlayerChooseInitialServerResult`. -/
inductive ChooseInitialServerResult where
  | allowed
  | redirect (serverId : String)
  | sendToLimbo (limboHandlers : List String)
deriving DecidableEq, Repr

inductive ServerPreConnectResult where
  | allowed
  | connectTo (serverId : String)
  | sendToLimbo (limboHandlers : List String)
  | virtualBackend
  | denied
deriving DecidableEq, Repr

/-- The profile that Mojang answers. Its id may not be a UUID. -/
structure MojangProfile where
  id : Option Uuid
  name : String
  properties : List ProfileProperty
deriving DecidableEq, Repr

/-- How the preparation of a client for the limbo ends. -/
inductive LimboPreparation where
  | ready
  | loginFailed
  | configFailed (message : String)
deriving DecidableEq, Repr

/-- How the exchange of the first packets with a backend ends. Only a login that the proxy
completes itself waits for an answer of the backend. -/
inductive FirstPackets where
  | exchanged
  | failed
  | refused
deriving DecidableEq, Repr

/-- What a connection meets and does not decide. `limboRegistry` has the names of the limbo
handlers, and `sessionConnects` the servers that the session loop connects to. -/
structure ProxyEnv where
  ipFilter : Option IpFilterConfig
  persist : Except CoreError Unit
  rateLimitEnabled : Bool
  withinRateLimit : Bool
  router : DomainRouter
  serverManager : Option ServerManagerView
  dropUnknownDomain : Bool
  preLogin : PreLoginResult
  chooseInitialServer : ChooseInitialServerResult
  preConnect : ServerPreConnectResult
  limboRegistry : List String
  limboPreparation : LimboPreparation
  mojang : Except CoreError MojangProfile
  connectOk : Bool
  firstPackets : FirstPackets
  sessionConnects : List String

/-- The moments at which bans are looked up. -/
inductive Checkpoint where
  | accept
  | login
  | postAuth
deriving DecidableEq, Repr

/-- A connection: the address and the input of the client, and the UUID that is drawn for a
player without one. -/
structure Connection where
  clientIp : IpAddr
  client : ClientInput
  freshUuid : Uuid

section Handlers

variable (strings : Strings) (env : ProxyEnv)

/-! ### Legacy clients -/

/-- `handle_ping`. -/
def legacyPing (hostname : Except CoreError (Option String)) : List ConnEvent :=
  match hostname with
  | .ok (some hostname) =>
    match env.router.resolve strings (strings.toLowercase hostname) with
    | some (_, config) => [.connect .ping config.effectiveId env.connectOk]
    | none => []
  | _ => []

/-- `handle_login` of the legacy handler. -/
def legacyLogin (handshake : Except CoreError LegacyHandshake) : List ConnEvent :=
  match handshake with
  | .error _ => []
  | .ok handshake =>
    match env.router.resolve strings (strings.toLowercase handshake.hostname) with
    | none => [.kick (.text "Unknown server")]
    | some (_, serverConfig) =>
      if env.connectOk then [.connect .login serverConfig.effectiveId true]
      else [.connect .login serverConfig.effectiveId false,
        .kick (.text serverConfig.effectiveDisconnectMessage)]

/-- `LegacyHandler::handle`. -/
def legacyHandle (client : ClientInput) : List ConnEvent :=
  match client with
  | .legacyPing hostname => legacyPing strings env hostname
  | .legacyLogin handshake => legacyLogin strings env handshake
  | .modern _ _ => []

/-! ### Passthrough -/

/-- `PassthroughHandler::handle`. -/
def passthroughHandle (freshUuid : Uuid) (routing : RoutingData) (login : Option LoginData) :
    List ConnEvent :=
  let playerUuid := (login.bind (·.playerUuid)).getD freshUuid
  let username := (login.map (·.username)).getD ""
  match env.preConnect with
  | .denied => [.kick .plugin]
  -- a redirection or a limbo is not supported here and counts as allowed
  | _ =>
    if env.connectOk then
      [.connect .login routing.configId true, .forward playerUuid] ++
        if env.firstPackets = .exchanged then [.register ⟨playerUuid, username, []⟩] else []
    else [.connect .login routing.configId false,
      .kick (.text routing.serverConfig.effectiveDisconnectMessage)]

/-! ### Intercepted modes -/

/-- `AuthResult`, without the player id. -/
structure AuthResult where
  playerUuid : Uuid
  username : String
  apiProfile : GameProfile
  loginCompleted : Bool
  onlineMode : Bool
deriving DecidableEq, Repr

/-- `AuthStrategy`, and whether the offline one can fall back on Mojang. -/
inductive AuthStrategy where
  | mojang
  | offline (mojang : Bool)
deriving DecidableEq, Repr

def runMojangAuthFlow (freshUuid : Uuid) : Except CoreError AuthResult := do
  let profile ← env.mojang
  -- an id that does not parse is replaced by a random one
  let playerUuid := profile.id.getD freshUuid
  return { playerUuid := playerUuid, username := profile.name
           apiProfile := ⟨playerUuid, profile.name, profile.properties⟩
           loginCompleted := true, onlineMode := true }

/-- An `AuthResult` without Mojang. -/
def AuthResult.offline (playerUuid : Uuid) (username : String) : AuthResult :=
  { playerUuid := playerUuid, username := username, apiProfile := ⟨playerUuid, username, []⟩
    loginCompleted := false, onlineMode := false }

variable (offlineUuid : String → Uuid) (bans : Checkpoint → BanView)

def AuthStrategy.authenticate (freshUuid : Uuid)
    (login : Option LoginData) : AuthStrategy → Except CoreError AuthResult
  | mojang =>
    match login with
    | none => .error (.missingExtension "LoginData")
    | some login =>
      match env.preLogin with
      | .denied => .error .connectionClosed
      -- the UUID of the packet, or the one that belongs to the name
      | .forceOffline =>
        .ok (.offline (login.playerUuid.getD (offlineUuid login.username)) login.username)
      | _ => runMojangAuthFlow env freshUuid
  | offline hasMojang =>
    let result := AuthResult.offline ((login.bind (·.playerUuid)).getD freshUuid)
      ((login.map (·.username)).getD "")
    match env.preLogin with
    | .denied => .error .connectionClosed
    | .forceOnline =>
      if hasMojang then
        if login.isSome then runMojangAuthFlow env freshUuid
        else .error (.missingExtension "LoginData")
      else .ok result
    | _ => .ok result

/-- `resolve_limbo_strict`: whether there are handlers under all names. -/
def resolveLimboStrict (names : List String) : Bool :=
  !names.isEmpty && names.all (env.limboRegistry.contains ·)

/-- `resolve_limbo_lenient`: whether there is a handler under one of the names. -/
def resolveLimboLenient (names : List String) : Bool := names.any (env.limboRegistry.contains ·)

/-- `prepare_client_for_limbo`: what it does, and whether it succeeds. -/
def prepareClientForLimbo : List ConnEvent × Bool :=
  match env.limboPreparation with
  | .ready => ([], true)
  | .loginFailed => ([], false)
  | .configFailed message => ([.kick (.text message)], false)

/-- `connect_to_backend`: what it does, and whether it succeeds. Before the login is complete
the client's own login packet is passed on, later the proxy forwards the player's data. -/
def connectToBackend (auth : AuthResult) (loginCompleted : Bool) (routing : RoutingData)
    (login : Option LoginData) : List ConnEvent × Bool :=
  if env.connectOk then
    let forwarded := if loginCompleted then [.forward auth.playerUuid]
      else (login.bind (·.playerUuid)).toList.map .forward
    let refusal := if loginCompleted ∧ env.firstPackets = .refused then
        [.kick (.text "Backend refused connection")]
      else []
    (.connect .login routing.configId true :: (forwarded ++ refusal), env.firstPackets = .exchanged)
  else ([.connect .login routing.configId false], false)

/-- The end of `resolve_initial_mode`: the backend, or the limbo if it cannot be reached. -/
def connectOrLimbo (auth : AuthResult) (loginCompleted : Bool) (routing : RoutingData)
    (login : Option LoginData) : List ConnEvent × Bool :=
  let limboHandlers := routing.serverConfig.limboHandlers
  let unreachable := .kick (.text routing.serverConfig.effectiveDisconnectMessage)
  let (events, connected) := connectToBackend env auth loginCompleted routing login
  if connected then (events, true)
  else if limboHandlers.isEmpty then (events ++ [unreachable], false)
  else
    let (preparation, ready) := prepareClientForLimbo env
    if !ready then (events ++ preparation, false)
    else if resolveLimboLenient env limboHandlers then (events ++ preparation, true)
    else (events ++ preparation ++ [unreachable], false)

/-- Into the limbo, if the client gets there and there is a handler. -/
def enterLimbo (resolved : Bool) : List ConnEvent × Bool :=
  let (preparation, ready) := prepareClientForLimbo env
  if !ready then (preparation, false)
  else if resolved then (preparation, true)
  else (preparation ++ [.kick (.text "No limbo handlers configured")], false)

/-- `resolve_initial_mode`: what it does, and whether the session goes on. -/
def resolveInitialMode (auth : AuthResult) (routing : RoutingData) (login : Option LoginData) :
    List ConnEvent × Bool :=
  let limboHandlers := routing.serverConfig.limboHandlers
  match env.chooseInitialServer with
  | .sendToLimbo names => enterLimbo env (resolveLimboStrict env names)
  | .allowed | .redirect _ =>
    match env.preConnect with
    | .denied => ([.kick .plugin], false)
    | .sendToLimbo names =>
      enterLimbo env (resolveLimboLenient env (if names.isEmpty then limboHandlers else names))
    | .allowed | .connectTo _ | .virtualBackend =>
      if limboHandlers.isEmpty then connectOrLimbo env auth auth.loginCompleted routing login
      else
        let (preparation, ready) := prepareClientForLimbo env
        if !ready then (preparation, false)
        else if resolveLimboLenient env limboHandlers then (preparation, true)
        else
          -- the client has been made ready for a limbo that has no handler
          let (events, goesOn) := connectOrLimbo env auth true routing login
          (preparation ++ events, goesOn)

/-- `InterceptedHandler::handle`. -/
def interceptedHandle (view : BanView) (strategy : AuthStrategy)
    (clientIp : IpAddr) (freshUuid : Uuid) (routing : RoutingData) (login : Option LoginData) :
    List ConnEvent :=
  match strategy.authenticate env offlineUuid freshUuid login with
  | .error _ => if env.preLogin = .denied then [.kick .plugin] else []
  | .ok auth =>
    -- the only check that asks about a UUID
    match (view.storage.checkPlayer strings view.now clientIp auth.username
        (some auth.playerUuid)).1 with
    | some entry => [.kick (.text (entry.kickMessage view.now))]
    | none =>
      let (events, goesOn) := resolveInitialMode env auth routing login
      if goesOn then
        events ++ .register auth.apiProfile ::
          env.sessionConnects.map fun serverId => .connect .session serverId true
      else events

/-! ### The whole connection -/

/-- The common pipeline of `ProxyServer::new`. -/
def commonPipeline : List Middleware :=
  [ipFilterMiddleware env.ipFilter, banIpCheckMiddleware strings (bans .accept) env.persist,
    handshakeParserMiddleware strings,
    rateLimiterMiddleware env.rateLimitEnabled env.withinRateLimit,
    domainRouterMiddleware strings env.router]

/-- The login pipeline of `ProxyServer::new`. -/
def loginPipeline : List Middleware :=
  [loginStartParserMiddleware, banCheckMiddleware strings (bans .login), telemetryMiddleware] ++
    env.serverManager.toList.map serverManagerMiddleware

/-- The handler of a proxy mode. -/
def routeByMode (freshUuid : Uuid) (ctx : ConnectionContext) : List ConnEvent :=
  match ctx.routing with
  | none => []
  | some routing =>
    match routing.serverConfig.proxyMode with
    | .offline => interceptedHandle strings env offlineUuid (bans .postAuth) (.offline true)
        ctx.clientIp freshUuid routing ctx.login
    | .clientOnly => interceptedHandle strings env offlineUuid (bans .postAuth) .mojang
        ctx.clientIp freshUuid routing ctx.login
    -- `full` is not implemented and falls back
    | .passthrough | .zeroCopy | .serverOnly | .full =>
      passthroughHandle env freshUuid routing ctx.login

/-- The login branch of `handle_connection`. -/
def handleLogin (freshUuid : Uuid) (ctx : ConnectionContext) : List ConnEvent :=
  match Pipeline.execute (loginPipeline strings env bans) ctx with
  | .error _ => []
  | .ok (.shortCircuit, _) => []
  | .ok (.reject reason, _) => [.kick reason]
  | .ok (.proceed, ctx) => routeByMode strings env offlineUuid bans freshUuid ctx

def handleConnection (conn : Connection) : List ConnEvent :=
  let ctx : ConnectionContext :=
    { clientIp := conn.clientIp, client := conn.client, handshake := none, routing := none
      login := none, legacyDetected := false }
  match Pipeline.execute (commonPipeline strings env bans) ctx with
  | .error _ => []
  | .ok (.shortCircuit, ctx) =>
    -- otherwise the address is banned, and the connection is closed without a word
    if ctx.legacyDetected then legacyHandle strings env ctx.client else []
  | .ok (.reject reason, ctx) =>
    if env.dropUnknownDomain then []
    -- a status request is not answered with a kick
    else if ctx.handshake.any (·.intent = .status) then []
    else [.kick reason]
  | .ok (.proceed, ctx) =>
    match ctx.handshake with
    | none => []
    | some handshake =>
      match handshake.intent with
      | .status => [.status]
      | .login => handleLogin strings env offlineUuid bans conn.freshUuid ctx
      | .transfer => []

end Handlers

end Infrarust
