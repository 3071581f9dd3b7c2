import Infrarust.Core.InitialConnect
import Infrarust.Core.Limbo.HandlerChain

/-!
# `Infrarust.Core.LoginFlow`: a login up to its first backend

A login that was routed to a server goes to the handler of its proxy mode, and a legacy one to the
legacy handler. Most of them connect to the backend right away. The handler of the intercepted
modes may send the player into a limbo, and the session loop then takes the player on to a backend
or into another limbo.

A limbo is a whole run of its handler chain. `LimboTurn` has what happens in it, the client as it
leaves it, and what the switch behind it meets. `LoginFlow.visits` is a history variable with the
limbos that are over.
-/

set_option autoImplicit false

namespace Infrarust

open Intercepted (LoginServices LoginRequest AuthWorld InitialWorld InitialState beginSession)

/-- A limbo that the player has left, with its chain at the end. -/
structure LimboVisit where
  handlers : List String
  chain : Limbo.HandlerChain

/-- Where a login is. -/
inductive FlowPhase (ι : Type) where
  /-- It was denied, or has failed. -/
  | over
  /-- A handler copies between the client and this server. -/
  | direct (config : ServerConfig)
  /-- The session loop runs. -/
  | session (player : SwitchPlayer) (s : SessionState ι)

structure LoginFlow (ι : Type) where
  phase : FlowPhase ι
  visits : List LimboVisit

/-- Who logs in. -/
inductive ClientKind where
  | legacy
  | modern
deriving DecidableEq, Repr

/-- What happens in a limbo and right after it. -/
structure LimboTurn where
  events : List Limbo.ChainEvent
  client : ClientBridge
  world : SwitchWorld

def mapChainResult : Limbo.LimboChainResult → LimboExitResult
  | .completed => .completed
  | .switch server => .switchedTo server
  | .kick _ => .kicked
  | .clientDisconnected => .clientDisconnected
  | .shutdown => .shutdown
  | .timeout => .timeout
  | .sendToLimbo handlers => .sendToLimbo handlers

/-- What a new connection comes with and meets. -/
structure LoginWorld (ι : Type) where
  client : ClientKind
  request : LoginRequest
  stream : TcpStream
  bufferedData : Bytes
  auth : AuthWorld
  bans : BanView
  initial : InitialWorld
  codecChains : CodecFilterChain ι × CodecFilterChain ι

namespace LoginFlow

variable {ι : Type}

/-- The handlers that only copy connect to the server of the routing. A limbo or another server
that the plugins name counts as allowed, and a legacy login asks no plugin. -/
def beginDirect (world : LoginWorld ι) (routing : RoutingData) : FlowPhase ι :=
  if world.client = .modern ∧ world.initial.preConnect = .denied then .over
  else
    match world.initial.connect routing with
    | .ok _ => .direct routing.serverConfig
    | .error _ => .over

/-- The player of a session. -/
def sessionPlayer (request : LoginRequest) (auth : AuthResult) : SwitchPlayer where
  handshake := request.handshake
  rawHandshake := request.rawHandshake
  username := auth.username
  profile := auth.apiProfile
  peerIp := request.peerIp
  realIp := some request.clientIp
  version := request.version

/-- `InterceptedHandler::handle`, at the start of its session loop. -/
def beginIntercepted (services : LoginServices) (strings : Strings) (strategy : AuthStrategy)
    (world : LoginWorld ι) (routing : RoutingData) : FlowPhase ι :=
  match beginSession services strings world.bans strategy world.request routing world.auth
      world.initial (.new services world.request world.stream world.bufferedData) with
  | .ok (auth, .connected mode serverId) s =>
    .session (sessionPlayer world.request auth)
      { client := s.client, mode, currentServer := serverId
        clientCodecChain := world.codecChains.1, serverCodecChain := world.codecChains.2
        serviceCalls := [], cacheCalls := [], outcome := none
        dials := s.dials.map (·.serverConfig) }
  | _ => .over

/-- The handler of a login. -/
def begin (services : LoginServices) (strings : Strings) (world : LoginWorld ι)
    (routing : RoutingData) : LoginFlow ι where
  phase :=
    match world.client, routing.serverConfig.proxyMode with
    | .modern, .offline => beginIntercepted services strings (.offline true) world routing
    | .modern, .clientOnly => beginIntercepted services strings .mojang world routing
    | _, _ => beginDirect world routing
  visits := []

/-- The handlers of the limbo that the player is in. -/
def currentLimbo (flow : LoginFlow ι) : Option (List String) :=
  match flow.phase with
  | .session _ s =>
    match s.mode with
    | .limbo handlers _ => some handlers
    | .backend _ => none
  | _ => none

/-- The server whose backend the player has reached. -/
def reached (flow : LoginFlow ι) : Option ServerConfig :=
  match flow.phase with
  | .over => none
  | .direct config => some config
  | .session _ s =>
    match s.mode with
    | .backend _ => s.dials.getLast?
    | .limbo _ _ => none

/-- The player goes through a limbo, and the session loop goes on. -/
def step [CodecFilterInstance ι] (services : LoginServices) (flow : LoginFlow ι)
    (turn : LimboTurn) : Option (LoginFlow ι) :=
  match flow.phase, flow.currentLimbo with
  | .session player s, some handlers =>
    (Machine.exec Limbo.HandlerChain.step turn.events (.new handlers)).bind fun chain =>
      match chain.phase with
      | .done result =>
        (SessionLoop.sessionStep services.toSessionServices player s
            (.limbo (mapChainResult result) turn.client turn.world)).map fun s =>
          { phase := .session player s, visits := flow.visits ++ [⟨handlers, chain⟩] }
      | _ => none
  | _, _ => none

end LoginFlow

end Infrarust
