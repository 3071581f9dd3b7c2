import Infrarust.Core.ServerSwitch

/-!
# `Infrarust.Core.SessionLoop`: the session of a player over several backends

`run_session_loop` alternates between the proxy loop on a backend and the limbo. A plugin's
request, a kick and the end of a limbo may each lead to a switch, and they differ in what a
failed switch means: after a request the player stays where they are, after a kick or a limbo
the session ends.

`sessionStep` is one iteration. A `Turn` is what the iteration meets: the events of the proxy
loop or how the limbo ended, the plugins' answer to a kick, and the surroundings of a switch. The
turn of a limbo also says in which state it leaves the client.
`SessionState.dials` is a history variable: it has the servers that a connection was opened to.
-/

set_option autoImplicit false

namespace Infrarust

open ProxyLoop

inductive ConnectionMode where
  | backend (backend : BackendBridge)
  | limbo (handlers : List String) (context : LimboEntryContext)

/-- `KickedFromServerResult`, with the frames that the packet builders made for it. -/
inductive KickedFromServerResult where
  | disconnectPlayer (built : Option PacketFrame)
  | redirectTo (server : String)
  | sendToLimbo (limboHandlers : List String)
  | notify (built : Option PacketFrame)

inductive LimboExitResult where
  | completed
  | switchedTo (server : String)
  | kicked
  | clientDisconnected
  | shutdown
  | timeout
  | sendToLimbo (limboHandlers : List String)
deriving DecidableEq, Repr

/-- The services of a session. -/
structure SessionServices extends SwitchServices where
  /-- `build_system_chat_message` for "Server switch failed" with the error. -/
  switchFailed : CoreError → Option PacketFrame
  /-- `build_disconnect` for "No limbo handlers configured for this server". -/
  noLimboHandlers : Option PacketFrame
  /-- `build_disconnect` for the reason of a kick. -/
  kickReason : Option DisconnectReason → Option PacketFrame

/-- One iteration of the loop. -/
inductive Turn where
  | backend (events : List LoopEvent) (kicked : KickedFromServerResult) (world : SwitchWorld)
  | limbo (exit : LimboExitResult) (client : ClientBridge) (world : SwitchWorld)

/-- The state of a session. -/
structure SessionState (ι : Type) where
  client : ClientBridge
  mode : ConnectionMode
  currentServer : String
  clientCodecChain : CodecFilterChain ι
  serverCodecChain : CodecFilterChain ι
  serviceCalls : List ServiceCall
  cacheCalls : List RegistryCacheCall
  /-- How the loop has ended. -/
  outcome : Option ProxyLoopOutcome
  /-- The servers that a switch has opened a connection to. -/
  dials : List ServerConfig

/-- The server that a switch opens a connection to. -/
def switchDial (services : SwitchServices) (world : SwitchWorld) (current target : String) :
    Option ServerConfig :=
  match resolveSwitch services world current target, world.connect with
  | .ok (.backend _ config), .ok _ => some config
  | _, _ => none

namespace SessionLoop

variable {ι : Type}

/-- `let _ = client.write_frame(&frame).await`, for a frame that could be built. -/
def tell (client : ClientBridge) : Option PacketFrame → ClientBridge
  | some frame => (client.writeFrame frame).2
  | none => client

/-- The loop ends. -/
def stop (outcome : ProxyLoopOutcome) (s : SessionState ι) : SessionState ι :=
  { s with outcome := some outcome }

/-- Into a limbo. -/
def enterLimbo (handlers : List String) (context : LimboEntryContext) (s : SessionState ι) :
    SessionState ι :=
  { s with mode := .limbo handlers context }

/-- The loop goes on with a new backend. -/
def moveTo (backend : BackendBridge) (server : String) (s : SessionState ι) : SessionState ι :=
  { s with mode := .backend backend, currentServer := server }

section Switches

variable (services : SessionServices) (player : SwitchPlayer) (world : SwitchWorld)

/-- `handle_switch`, with what follows a move to a limbo and an error. -/
def handleSwitch (target : String) (s : SessionState ι)
    (toLimbo : List String → LimboEntryContext → SessionState ι → SessionState ι)
    (failed : CoreError → SessionState ι → SessionState ι) : SessionState ι :=
  let (result, client) := performSwitch services.toSwitchServices player world s.currentServer
    target s.client
  let dial := switchDial services.toSwitchServices world s.currentServer target
  let s := { s with client, dials := s.dials ++ dial.toList }
  match result with
  | .ok (.backend newBackend newServer) => moveTo newBackend newServer s
  | .ok (.limbo handlers context) => toLimbo handlers context s
  | .error e => failed e s

/-- A switch that a plugin asked for. When it fails the player stays. -/
def switchRequested (target : String) (s : SessionState ι) : SessionState ι :=
  handleSwitch services player world target s
    (fun handlers context s => if handlers.isEmpty then s else enterLimbo handlers context s)
    (fun e s => { s with client := tell s.client (services.switchFailed e) })

/-- The names of the limbo handlers of the current server. -/
def currentLimboHandlers (s : SessionState ι) : List String :=
  ((world.currentView.find s.currentServer).map (·.limboHandlers)).getD []

/-- The target `$limbo`: the limbo of the current server. -/
def limboRequested (s : SessionState ι) : SessionState ι :=
  match services.resolveHandlers (currentLimboHandlers world s) with
  | some (handler :: handlers) =>
    enterLimbo (handler :: handlers) (.pluginRedirect (some s.currentServer)) s
  | _ => stop .clientDisconnected { s with client := tell s.client services.noLimboHandlers }

def handleBackendDisconnect (kicked : KickedFromServerResult) (reason : Option DisconnectReason)
    (s : SessionState ι) : SessionState ι :=
  match kicked with
  | .disconnectPlayer built => stop .clientDisconnected { s with client := tell s.client built }
  | .redirectTo server =>
    handleSwitch services player world server s (fun handlers context s =>
        if handlers.isEmpty then stop .clientDisconnected s else enterLimbo handlers context s)
      (fun e s => stop (.backendDisconnected (some (.ofError e))) s)
  | .sendToLimbo names =>
    match services.resolveHandlersLenient
        (if names.isEmpty then currentLimboHandlers world s else names) with
    | [] => stop .clientDisconnected { s with client := tell s.client (services.kickReason reason) }
    | handlers => enterLimbo handlers (.kickedFromServer s.currentServer reason) s
  | .notify built =>
    stop (.backendDisconnected none) { s with client := tell s.client built }

/-- The end of the proxy loop. -/
def afterProxyLoop (kicked : KickedFromServerResult) (s : SessionState ι) :
    ProxyLoopOutcome → SessionState ι
  | .switchRequested target =>
    if target = "$limbo" then limboRequested services world s
    else switchRequested services player world target s
  | .backendDisconnected reason => handleBackendDisconnect services player world kicked reason s
  | outcome => stop outcome s

/-- The end of a limbo. The limbo at the start of a connection is not entered again. -/
def afterLimbo (context : LimboEntryContext) (s : SessionState ι) :
    LimboExitResult → SessionState ι
  | .completed => continueAfterLimbo s.currentServer
  | .switchedTo server => continueAfterLimbo server
  | .sendToLimbo names =>
    match services.resolveHandlersLenient names with
    | [] => stop .clientDisconnected s
    | handlers => enterLimbo handlers (.pluginRedirect (some s.currentServer)) s
  | .kicked | .timeout | .clientDisconnected => stop .clientDisconnected s
  | .shutdown => stop .shutdown s
where
  continueAfterLimbo (target : String) : SessionState ι :=
    let fromInitial := match context with
      | .initialConnection _ => true
      | _ => false
    handleSwitch services player world target s (fun handlers context s =>
        if fromInitial || handlers.isEmpty then stop .clientDisconnected s
        else enterLimbo handlers context s)
      (fun _ s => stop .clientDisconnected s)

end Switches

variable [CodecFilterInstance ι]

/-- `proxy_loop` on the given events. Without an outcome it waits for the next one. -/
def proxyLoop (registry : PacketRegistry) :
    Session ι → List LoopEvent → Session ι × Option ProxyLoopOutcome
  | session, [] => (session, none)
  | session, event :: events =>
    match proxyStep registry session event with
    | (session, some outcome) => (session, some outcome)
    | (session, none) => proxyLoop registry session events

/-- The session that the proxy loop works on. -/
def toSession (s : SessionState ι) (backend : BackendBridge) : Session ι where
  client := s.client
  backend
  clientCodecChain := s.clientCodecChain
  serverCodecChain := s.serverCodecChain
  serviceCalls := s.serviceCalls
  cacheCalls := s.cacheCalls

/-- The state after the proxy loop. -/
def ofSession (s : SessionState ι) (session : Session ι) : SessionState ι :=
  { s with client := session.client
           mode := .backend session.backend
           clientCodecChain := session.clientCodecChain
           serverCodecChain := session.serverCodecChain
           serviceCalls := session.serviceCalls
           cacheCalls := session.cacheCalls }

/-- One iteration of `run_session_loop`. There is none after the end, and none for a turn of the
other mode. -/
def sessionStep (services : SessionServices) (player : SwitchPlayer) (s : SessionState ι)
    (turn : Turn) : Option (SessionState ι) :=
  match s.outcome, s.mode, turn with
  | none, .backend backend, .backend events kicked world =>
    match proxyLoop services.registry (toSession s backend) events with
    | (session, none) => some (ofSession s session)
    | (session, some outcome) =>
      some (afterProxyLoop services player world kicked (ofSession s session) outcome)
  | none, .limbo _ context, .limbo exit client world =>
    some (afterLimbo services player world context { s with client } exit)
  | _, _, _ => none

end SessionLoop

end Infrarust
