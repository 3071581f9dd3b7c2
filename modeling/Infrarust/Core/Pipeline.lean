import Infrarust.Core.Ban

/-!
# `Infrarust.Core.Pipeline`: the middlewares a connection passes

A middleware reads the connection and says whether it goes on. What the client sends is given
by what the parsers make of it, and a read that fails or times out is an error. The storage of
bans can change while a connection is handled, so each check has a view of its own.
-/

set_option autoImplicit false

namespace Infrarust

/-- The text a rejected client is shown. -/
inductive Reason where
  | text (message : String)
  | ipNotAllowed (ip : IpAddr)
  | ipNotAllowedOnServer (ip : IpAddr)
  | plugin
deriving DecidableEq, Repr

inductive MiddlewareResult where
  | proceed
  | shortCircuit
  | reject (reason : Reason)
deriving DecidableEq, Repr

inductive ConnectionIntent where
  | status
  | login
  | transfer
deriving DecidableEq, Repr

structure LegacyHandshake where
  protocolVersion : UInt8
  username : String
  hostname : String
  port : Int
deriving DecidableEq, Repr

structure LoginData where
  username : String
  playerUuid : Option Uuid
deriving DecidableEq, Repr

/-- What the client sends, told apart by the first byte. A legacy ping may name a host. -/
inductive ClientInput where
  | legacyPing (hostname : Except CoreError (Option String))
  | legacyLogin (handshake : Except CoreError LegacyHandshake)
  | modern (handshake : Except CoreError Handshake) (loginStart : Except CoreError LoginData)

/-- `HandshakeData`, without the raw packets. -/
structure HandshakeData where
  domain : String
  port : UInt16
  protocolVersion : ProtocolVersion
  intent : ConnectionIntent
deriving DecidableEq, Repr

structure RoutingData where
  serverConfig : ServerConfig
  configId : String
deriving DecidableEq, Repr

/-- `ConnectionContext`, with the extensions the middlewares insert. -/
structure ConnectionContext where
  clientIp : IpAddr
  client : ClientInput
  handshake : Option HandshakeData
  routing : Option RoutingData
  login : Option LoginData
  legacyDetected : Bool

abbrev Middleware := ConnectionContext → Except CoreError (MiddlewareResult × ConnectionContext)

def Pipeline.execute : List Middleware → Middleware
  | [], ctx => .ok (.proceed, ctx)
  | middleware :: rest, ctx => do
    let (result, ctx) ← middleware ctx
    match result with
    | .proceed => Pipeline.execute rest ctx
    | .shortCircuit => return (.shortCircuit, ctx)
    | .reject reason => return (.reject reason, ctx)

/-- The storage of bans and the time, as one check finds them. -/
structure BanView where
  storage : FileBanStorage
  now : Nat

/-- `ServerManagerError`, as far as the middleware tells its cases apart. -/
inductive ServerManagerError where
  | startTimeout
  | other
deriving DecidableEq, Repr

/-- What the server manager answers during one connection. -/
structure ServerManagerView where
  getState : String → Option ServerState
  ensureStarted : String → Except ServerManagerError Unit

section Middlewares

variable (strings : Strings)

def ipFilterMiddleware (globalFilter : Option IpFilterConfig) : Middleware := fun ctx =>
  if globalFilter.all (·.isAllowed ctx.clientIp) then .ok (.proceed, ctx)
  else .ok (.reject (.ipNotAllowed ctx.clientIp), ctx)

def banIpCheckMiddleware (view : BanView) (persist : Except CoreError Unit) : Middleware :=
  fun ctx => do
    let found ← (view.storage.isBanned strings view.now persist (.ip ctx.clientIp)).1
    if found.isSome then return (.shortCircuit, ctx) else return (.proceed, ctx)

/-- What `HandshakeParserMiddleware` keeps of a handshake. -/
def HandshakeData.ofHandshake (handshake : Handshake) : HandshakeData where
  domain := strings.toLowercase (normalizeHandshake handshake.serverAddress)
  port := handshake.serverPort
  protocolVersion := handshake.protocolVersion
  intent := match handshake.nextState with
    | .status => .status
    | .login => .login
    | _ => .transfer

def handshakeParserMiddleware : Middleware := fun ctx =>
  match ctx.client with
  | .legacyPing _ | .legacyLogin _ => .ok (.shortCircuit, { ctx with legacyDetected := true })
  | .modern handshake _ => do
    let handshake ← handshake
    return (.proceed, { ctx with handshake := some (.ofHandshake strings handshake) })

/-- `RateLimiterMiddleware`, with the answer of the limiter for the client. -/
def rateLimiterMiddleware (enabled withinLimit : Bool) : Middleware := fun ctx =>
  -- before the handshake is parsed nothing is limited
  if enabled && ctx.handshake.isSome && !withinLimit then
    .ok (.reject (.text "Rate limit exceeded"), ctx)
  else .ok (.proceed, ctx)

def domainRouterMiddleware (router : DomainRouter) : Middleware := fun ctx =>
  match ctx.handshake with
  | none => .error (.missingExtension "HandshakeData")
  | some handshake =>
    match router.resolve strings handshake.domain with
    | none => .ok (.reject (.text s!"Unknown server: {handshake.domain}"), ctx)
    | some (_, serverConfig) =>
      if serverConfig.ipFilter.all (·.isAllowed ctx.clientIp) then
        .ok (.proceed, { ctx with
          routing := some { serverConfig := serverConfig, configId := serverConfig.effectiveId } })
      else .ok (.reject (.ipNotAllowedOnServer ctx.clientIp), ctx)

def loginStartParserMiddleware : Middleware := fun ctx =>
  match ctx.handshake, ctx.client with
  | some _, .modern _ loginStart => do
    let login ← loginStart
    return (.proceed, { ctx with login := some login })
  | _, _ => .error (.missingExtension "HandshakeData")

/-- `BanCheckMiddleware`. It asks about no UUID. -/
def banCheckMiddleware (view : BanView) : Middleware := fun ctx =>
  match ctx.login with
  | none => .ok (.proceed, ctx)
  -- the UUID of the login packet is there but is not passed on
  | some login =>
    match (view.storage.checkPlayer strings view.now ctx.clientIp login.username none).1 with
    | some entry => .ok (.reject (.text (entry.kickMessage view.now)), ctx)
    | none => .ok (.proceed, ctx)

/-- `TelemetryMiddleware`, which only opens a span. -/
def telemetryMiddleware : Middleware := fun ctx => .ok (.proceed, ctx)

def serverManagerMiddleware (manager : ServerManagerView) : Middleware := fun ctx =>
  match ctx.routing with
  | none => .ok (.proceed, ctx)
  | some routing =>
    if routing.serverConfig.serverManager.isNone then .ok (.proceed, ctx)
    else
      let serverId := routing.serverConfig.effectiveId
      match manager.getState serverId with
      | some .stopping =>
        .ok (.reject (.text "Server is shutting down, please try again later."), ctx)
      -- the connection waits until the server is up
      | some .sleeping | some .crashed | some .starting =>
        match manager.ensureStarted serverId with
        | .ok () => .ok (.proceed, ctx)
        | .error .startTimeout =>
          .ok (.reject (.text "Server failed to start in time. Please try again."), ctx)
        | .error .other =>
          .ok (.reject (.text "Server is unavailable. Please try again later."), ctx)
      | _ => .ok (.proceed, ctx)

end Middlewares

end Infrarust
