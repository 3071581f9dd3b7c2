import Infrarust.Core.Limbo.HandlerChain
import Infrarust.Core.ServerSwitch
import Infrarust.ServerManager.Service

/-!
# `Infrarust.Plugins.ServerWake.Handler`: players who wait for a server to wake up

The handler `server_wake` holds a player in a limbo until their server is online. It reads the
state of the server, starts the server if need be, and enters the player into a table. A listener
of the server manager releases the players of the table when their server comes online, and turns
them away when it crashes. The two share only the table and the server manager, and neither takes
a lock over more than one access.

`WakeSystem` has the managed servers, the table, and where the handler is for each player (`Visit`).
The listener is called by the operations of the server manager, between a change of the state and
what the operation does next. So an operation can go on only when the listener is done, and
`listening` has the players that a running call of the listener has still to release.

A read of the table over all players is one step. Titles and the action bar are left out.
-/

set_option autoImplicit false

namespace Infrarust

/-- `handle_state_change` does something for this state. -/
def ServerState.releases : ServerState → Bool
  | .online | .crashed => true
  | _ => false

/-- What a step lets `fire_state_change` return from. -/
def ServerManager.Event.source : ServerManager.Event → Option ServerManager.Source
  | .call id .fired => some (.call id)
  | .monitor .fired => some .monitor
  | _ => none

namespace ServerWake

open ServerManager
open Limbo (HandlerResult)

/-- The parts of `ServerWakeConfig` that decide something. -/
structure ServerWakeConfig where
  startTimeoutSeconds : Nat
  failedKick : String
  timeoutKick : String
deriving DecidableEq, Repr

def ServerWakeConfig.default : ServerWakeConfig where
  startTimeoutSeconds := 180
  failedKick := "&cThe server failed to start. Please try again later."
  timeoutKick := "&cThe server took too long to start. Please try again."

def targetServer : LimboEntryContext → Option String
  | .initialConnection target => some target
  | .kickedFromServer server _ => some server
  | .pluginRedirect _ => none

/-- Where `on_player_enter` is for a player, or their hold. -/
inductive Visit where
  /-- Before `start`, with the state that was read. -/
  | start (target : String) (found : ServerState)
  /-- In `start_server`. -/
  | starting (target : String) (call : Nat)
  /-- Before the player is entered into the table. -/
  | insert (target : String)
  | hold
  /-- The hold has ended without the listener, and `on_session_end` was not called yet. -/
  | leaving
deriving DecidableEq, Repr

/-- A server that is registered with the server manager. -/
structure Setup where
  serverId : String
  shutdownAfter : Option Nat
  startTimeout : Nat
  pollInterval : Nat

structure WakeSystem where
  config : ServerWakeConfig
  servers : Dict String ManagedServer
  /-- `WakeState::waiting`: the target of each waiting player. -/
  waiting : Dict Nat String
  visits : Dict Nat Visit
  /-- The running calls of the listener, with the players they have still to release. -/
  listening : Dict (String × Source) (List Nat)
  /-- The results of `on_player_enter` and of the completions. -/
  results : List (Nat × HandlerResult)
  /-- The players whose start was refused, with the state they had read and the one that
  `start_server` found. -/
  refused : List (Nat × ServerState × ServerState)

inductive WakeEvent where
  /-- A step of a server and its operations. -/
  | server (id : String) (event : Event)
  /-- `on_player_enter` up to the read of the state. The configuration says whether the server is
  managed. -/
  | enter (player : Nat) (context : LimboEntryContext) (hasServerManager : Option Bool)
  | start (player : Nat)
  /-- `start` returns. -/
  | started (player : Nat)
  | insert (player : Nat)
  /-- The hold times out, or the connection ends. -/
  | leave (player : Nat)
  | sessionEnd (player : Nat)
  /-- The listener reads who waits for the server. -/
  | scan (id : String) (source : Source)
  /-- The listener releases the next player. -/
  | release (id : String) (source : Source)

namespace WakeSystem

/-- The servers as they are registered, and nobody waits. -/
def new (config : ServerWakeConfig) (setups : List Setup) : WakeSystem where
  config
  servers := setups.foldl (fun servers setup => servers.insert setup.serverId
    (.new setup.serverId setup.shutdownAfter setup.startTimeout setup.pollInterval)) ∅
  waiting := ∅
  visits := ∅
  listening := ∅
  results := []
  refused := []

variable (w : WakeSystem)

def getState (server : String) : Option ServerState := (w.servers.lookup server).map (·.entry.state)

variable (player : Nat)

/-- The handler or a completion has a result for a player. -/
def answer (result : HandlerResult) : WakeSystem :=
  { w with results := (player, result) :: w.results }

def visit (player : Nat) (visit : Visit) : WakeSystem :=
  { w with visits := w.visits.insert player visit }

/-! ### The handler -/

/-- `on_player_enter` up to the read of the state. -/
def enter (context : LimboEntryContext) (hasServerManager : Option Bool) : WakeSystem :=
  match targetServer context, hasServerManager with
  | none, _ => w.answer player (.deny "Server wake: no target server in entry context")
  | some _, none => w.answer player (.deny "Server wake: unknown server")
  | some _, some false => w.answer player .accept
  | some target, some true =>
    match w.getState target with
    | none | some .online => w.answer player .accept
    | some .sleeping => w.visit player (.start target .sleeping)
    | some .crashed => w.visit player (.start target .crashed)
    -- the bridge calls this state Offline
    | some .unknown => w.visit player (.start target .unknown)
    | some .starting | some .stopping => w.visit player (.insert target)

/-- The call of `start_server`. -/
def start (target : String) (found : ServerState) (server : ManagedServer) : Option WakeSystem :=
  (server.next .startServer).map fun server' =>
    { w with
      servers := w.servers.insert target server'
      visits := w.visits.insert player (.starting target server.count)
      refused := if server.entry.state.isStartable then w.refused
        else (player, found, server.entry.state) :: w.refused }

/-- What `start_server` has returned. -/
def startResult (server : ManagedServer) (call : Nat) :
    Option (Except ServerManager.ServerManagerError Unit) :=
  (server.history.returned.find? fun r => r.1 = .startServer ∧ r.2.1 = call).map (·.2.2)

def started (target : String) :
    Except ServerManager.ServerManagerError Unit → WakeSystem
  | .ok () => w.visit player (.insert target)
  | .error _ =>
    { w with visits := w.visits.erase player }.answer player (.deny w.config.failedKick)

/-- The player is entered into the table, and held. -/
def insert (target : String) : WakeSystem :=
  let w := { w with waiting := w.waiting.insert player target }.visit player .hold
  if w.config.startTimeoutSeconds = 0 then w.answer player .hold
  else w.answer player
    (.holdWithTimeout (w.config.startTimeoutSeconds * 1000) (.deny w.config.timeoutKick))

def sessionEnd : WakeSystem :=
  { w with waiting := w.waiting.erase player, visits := w.visits.erase player }

/-! ### The listener -/

def playersWaitingFor (server : String) : List Nat :=
  (w.waiting.entries.filter fun e => e.2 = server).map (·.1)

/-- The result for a player whose server has this state. -/
def releaseResult (state : ServerState) : HandlerResult :=
  if state = .online then .accept else .deny w.config.failedKick

/-- A player of the list is taken out of the table, and their hold completed. -/
def release (state : ServerState) : WakeSystem :=
  match w.waiting.lookup player with
  | none => w
  | some _ =>
    { w with
      waiting := w.waiting.erase player
      visits := if w.visits.lookup player = some Visit.hold then w.visits.erase player
        else w.visits }.answer player (w.releaseResult state)

/-- The listener has returned, or has nothing to do, where the step goes on after it. -/
def listenerDone (id : String) (server : ManagedServer) (event : Event) : Bool :=
  match event.source with
  | none => true
  | some source => match server.fires source with
    | none => true
    | some state => !state.releases || w.listening.lookup (id, source) = some []

/-- The calls of the listener after a step of a server. -/
def listeningAfter (id : String) (event : Event) : Dict (String × Source) (List Nat) :=
  match event.source with
  | some source => w.listening.erase (id, source)
  | none => w.listening

/-- A server has taken a step. -/
def afterServer (id : String) (server' : ManagedServer) (event : Event) : WakeSystem :=
  { w with servers := w.servers.insert id server', listening := w.listeningAfter id event }

/-- A step of a server. -/
def serverStep (id : String) (server : ManagedServer) (event : Event) : Option WakeSystem :=
  if w.listenerDone id server event then
    (server.next event).map fun server' => w.afterServer id server' event
  else none

/-- What a source is telling the listener, if the listener does something for it. -/
def telling (id : String) (source : Source) : Option ServerState :=
  ((w.servers.lookup id).bind (·.fires source)).filter (·.releases)

def step : WakeEvent → Option WakeSystem
  | .server id event => (w.servers.lookup id).bind fun server => w.serverStep id server event
  | .enter player context hasServerManager =>
    if w.visits.lookup player = none then some (w.enter player context hasServerManager) else none
  | .start player =>
    match w.visits.lookup player with
    | some (.start target found) =>
      (w.servers.lookup target).bind fun server => w.start player target found server
    | _ => none
  | .started player =>
    match w.visits.lookup player with
    | some (.starting target call) =>
      ((w.servers.lookup target).bind (startResult · call)).map (w.started player target)
    | _ => none
  | .insert player =>
    match w.visits.lookup player with
    | some (.insert target) => some (w.insert player target)
    | _ => none
  | .leave player =>
    if w.visits.lookup player = some Visit.hold then some (w.visit player .leaving) else none
  | .sessionEnd player =>
    match w.visits.lookup player with
    | none | some .leaving => some (w.sessionEnd player)
    | _ => none
  | .scan id source =>
    if w.listening.lookup (id, source) = none ∧ (w.telling id source).isSome then
      some { w with
        listening := w.listening.insert (id, source) (w.playersWaitingFor id) }
    else none
  | .release id source =>
    match w.telling id source, w.listening.lookup (id, source) with
    | some state, some (player :: left) =>
      some ({ w with listening := w.listening.insert (id, source) left }.release player state)
    | _, _ => none

end WakeSystem

end ServerWake

end Infrarust
