import Infrarust.Lib.Dict
import Infrarust.Lib.Machine

/-!
# `Infrarust.Core.Limbo.HandlerChain`: a player in a limbo

`run_handler_chain` goes through the handlers of a limbo. A handler may hold the player, and the
hold ends when somebody completes it, at its timeout, or with the connection. A completion is sent
over a watch channel of the session. The channel keeps one value, until the loop of a hold reads
it, and nothing empties it when the next handler begins.

`HandlerChain` is one player's chain with everything that can happen to it. A handler's code may
complete from any task, so a completion is a task of its own: `LimboSession::complete` loads the
number of the current hold, `complete_scoped` compares the number it was given with the current
one, and then sends. `SessionHandle::complete` begins at the comparison, with the number it was
made with.

The holds are numbered from one, and hold `k` belongs to the `k`-th handler. `Completion.issuer`,
`ended` and `passed` say what happened and by whom, and no step depends on them.
-/

set_option autoImplicit false

namespace Infrarust.Limbo

/-- `HandlerResult`, with texts for the reasons and times in milliseconds. -/
inductive HandlerResult where
  | accept
  | deny (reason : String)
  | hold
  | redirect (server : String)
  | sendToLimbo (handlers : List String)
  | holdWithTimeout (after : Nat) (onTimeout : HandlerResult)
deriving DecidableEq, Repr

/-- `wl::HandlerResult`, the results of a WASM guest. -/
inductive WitHandlerResult where
  | accept
  | deny (reason : String)
  | hold
  | redirect (server : String)
  | sendToLimbo (handlers : List String)
deriving DecidableEq, Repr

def handlerResultFromWit : WitHandlerResult → HandlerResult
  | .accept => .accept
  | .deny reason => .deny reason
  | .hold => .hold
  | .redirect server => .redirect server
  | .sendToLimbo handlers => .sendToLimbo handlers

inductive LimboChainResult where
  | completed
  | switch (server : String)
  | kick (reason : String)
  | clientDisconnected
  | shutdown
  | timeout
  | sendToLimbo (handlers : List String)
deriving DecidableEq, Repr

structure HoldTimeout where
  after : Nat
  onTimeout : HandlerResult
deriving DecidableEq, Repr

inductive HandlerAction where
  | continue
  | exit (result : LimboChainResult)
  | hold (timeout : Option HoldTimeout)
deriving DecidableEq, Repr

def processHandlerResult : HandlerResult → HandlerAction
  | .accept => .continue
  | .deny reason => .exit (.kick reason)
  | .redirect server => .exit (.switch server)
  | .sendToLimbo handlers => .exit (.sendToLimbo handlers)
  | .hold => .hold none
  | .holdWithTimeout after onTimeout =>
    let onTimeout := match onTimeout with
      | .hold | .holdWithTimeout _ _ => .accept
      | other => other
    .hold (some { after, onTimeout })

/-! ### Keep-alive -/

/-- `KEEPALIVE_TIMEOUT_SECS`. -/
def keepaliveTimeout : Nat := 15000

inductive KeepAliveTick where
  | send (id : Int)
  | idle
  | timeout
deriving DecidableEq, Repr

structure KeepAliveState where
  lastSentId : Int
  lastSentAt : Nat
  awaitingResponse : Bool
deriving DecidableEq, Repr

namespace KeepAliveState

def new (now : Nat) : KeepAliveState where
  lastSentId := 0
  lastSentAt := now
  awaitingResponse := false

/-- `KeepAliveState::tick`, with the id that is made for it. -/
def tick (state : KeepAliveState) (now : Nat) (id : Int) : KeepAliveTick × KeepAliveState :=
  if state.awaitingResponse then
    if state.lastSentAt + keepaliveTimeout ≤ now then (.timeout, state) else (.idle, state)
  else (.send id, { lastSentId := id, lastSentAt := now, awaitingResponse := true })

def onResponse (state : KeepAliveState) (id : Int) : KeepAliveState :=
  if id = state.lastSentId then { state with awaitingResponse := false } else state

end KeepAliveState

/-! ### The chain -/

/-- Where `run_handler_chain` is. -/
inductive ChainPhase where
  /-- At the top of the loop over the handlers. -/
  | next
  /-- In `on_player_enter`. -/
  | enter
  /-- In `send_spawn_sequence`. -/
  | spawn (timeout : Option HoldTimeout)
  /-- In the loop of `wait_for_hold`, since a time. -/
  | hold (timeout : Option HoldTimeout) (since : Nat)
  /-- In the loop, which handles a command or a chat message. -/
  | callback (timeout : Option HoldTimeout) (since : Nat)
  | done (result : LimboChainResult)
  | unreachable
deriving DecidableEq, Repr

/-- Where a completion is. -/
inductive CompletionPhase where
  /-- `complete`, before `current_hold_id`. -/
  | load
  /-- `complete_scoped`, before the comparison. -/
  | check (holdId : Nat)
  /-- `complete_scoped`, before it sends. -/
  | send
deriving DecidableEq, Repr

/-- A result for a hold, and the handler whose session or handle it was issued through. -/
structure Completion where
  result : HandlerResult
  issuer : Nat
deriving DecidableEq, Repr

structure CompletionTask where
  completion : Completion
  phase : CompletionPhase
deriving DecidableEq, Repr

/-- How a handler lets the player pass. -/
inductive Passage where
  /-- By the result of `on_player_enter`. -/
  | returned
  | timedOut
  /-- By a completion of this issuer. -/
  | completed (issuer : Nat)
deriving DecidableEq, Repr

structure HandlerChain where
  now : Nat
  /-- The handlers that have not begun. -/
  left : List String
  phase : ChainPhase
  spawnSent : Bool
  holdSeq : Nat
  keepalive : KeepAliveState
  /-- The value of the channel, if the loop has not read it. -/
  unread : Option Completion
  tasks : Dict Nat CompletionTask
  /-- The number of completions so far, which numbers the next one. -/
  count : Nat
  /-- The holds that a completion has ended, with its issuer. -/
  ended : List (Nat × Nat)
  /-- The handlers that have let the player pass. -/
  passed : List (Nat × Passage)

/-- A frame of the client. -/
inductive ClientFrame where
  /-- A keep-alive response, with its id if it can be read. -/
  | keepalive (id : Option Int)
  /-- A command or a chat message. -/
  | message
  | other
deriving DecidableEq, Repr

inductive ChainEvent where
  | tick (ms : Nat)
  | beginHandler
  /-- `on_player_enter` returns. -/
  | entered (result : HandlerResult)
  /-- `send_spawn_sequence` returns. -/
  | spawned (ok : Bool)
  | frame (frame : ClientFrame)
  /-- The client is gone, or a frame cannot be read. -/
  | disconnected
  /-- The command or chat message was handled. -/
  | returned
  /-- A frame for the client is written. -/
  | outgoing (written : Bool)
  /-- The interval of the keep-alive, with the id of a new one. -/
  | keepalive (id : Int) (encoded written : Bool)
  /-- `complete_rx.changed()`. -/
  | completed
  | cancelled
  | timedOut
  /-- `SessionHandle::complete`, with a handle made in this hold. -/
  | handleComplete (holdId : Nat) (result : HandlerResult)
  /-- `LimboSession::complete`, called by the code of this handler. -/
  | sessionComplete (handler : Nat) (result : HandlerResult)
  /-- The next step of a completion. -/
  | complete (task : Nat)
deriving DecidableEq

namespace HandlerChain

/-- `enter_limbo` with these handlers. -/
def new (handlers : List String) : HandlerChain where
  now := 0
  left := handlers
  phase := .next
  spawnSent := false
  holdSeq := 0
  keepalive := .new 0
  unread := none
  tasks := ∅
  count := 0
  ended := []
  passed := []

variable (s : HandlerChain)

def exit (result : LimboChainResult) : HandlerChain := { s with phase := .done result }

/-- The current handler lets the player pass. -/
def pass (passage : Passage) : HandlerChain :=
  { s with phase := .next, passed := (s.holdSeq, passage) :: s.passed }

/-- `begin_handler`, if there is a handler left. -/
def beginHandler : HandlerChain :=
  match s.left with
  | [] => s.exit .completed
  | _ :: left => { s with left, holdSeq := s.holdSeq + 1, phase := .enter }

/-- What follows `on_player_enter`. -/
def afterEnter (result : HandlerResult) : HandlerChain :=
  match processHandlerResult result with
  | .continue => s.pass .returned
  | .exit result => s.exit result
  | .hold timeout =>
    if s.spawnSent then { s with phase := .hold timeout s.now }
    else { s with phase := .spawn timeout }

def afterSpawn (timeout : Option HoldTimeout) (ok : Bool) : HandlerChain :=
  if ok then { s with phase := .hold timeout s.now, spawnSent := true }
  else s.exit (.kick "Internal error")

/-- What follows `wait_for_hold` with a result. -/
def afterHold (result : HandlerResult) (passage : Passage) : HandlerChain :=
  match processHandlerResult result with
  | .continue => s.pass passage
  | .exit result => s.exit result
  | .hold _ => { s with phase := .unreachable }

/-- The branch of the keep-alive interval. -/
def keepaliveTick (id : Int) (encoded written : Bool) : HandlerChain :=
  let (tick, keepalive) := s.keepalive.tick s.now id
  let s := { s with keepalive }
  match tick with
  | .send _ =>
    if !encoded then s.exit .timeout
    else if written then s
    else s.exit .clientDisconnected
  | .idle => s
  | .timeout => s.exit .timeout

/-- The loop of `wait_for_hold`. -/
def holdStep (timeout : Option HoldTimeout) (since : Nat) : ChainEvent → Option HandlerChain
  | .frame (.keepalive (some id)) => some { s with keepalive := s.keepalive.onResponse id }
  | .frame (.keepalive none) => some s
  | .frame .message => some { s with phase := .callback timeout since }
  | .frame .other => some s
  | .disconnected => some (s.exit .clientDisconnected)
  | .outgoing written => some (if written then s else s.exit .clientDisconnected)
  | .keepalive id encoded written => some (s.keepaliveTick id encoded written)
  | .completed => s.unread.map fun completion =>
      { s with unread := none, ended := (s.holdSeq, completion.issuer) :: s.ended }.afterHold
        completion.result (.completed completion.issuer)
  | .cancelled => some (s.exit .shutdown)
  | .timedOut => timeout.bind fun timeout =>
      if since + timeout.after ≤ s.now then some (s.afterHold timeout.onTimeout .timedOut) else none
  | _ => none

/-- A new completion. A session and a handle exist only once the handler has begun. -/
def startCompletion (issuer : Nat) (result : HandlerResult) (phase : CompletionPhase) :
    Option HandlerChain :=
  if 1 ≤ issuer ∧ issuer ≤ s.holdSeq then
    some { s with tasks := s.tasks.insert s.count ⟨⟨result, issuer⟩, phase⟩, count := s.count + 1 }
  else none

def completionStep (id : Nat) (task : CompletionTask) : HandlerChain :=
  match task.phase with
  | .load => { s with tasks := s.tasks.insert id { task with phase := .check s.holdSeq } }
  | .check holdId =>
    if holdId = s.holdSeq then { s with tasks := s.tasks.insert id { task with phase := .send } }
    else { s with tasks := s.tasks.erase id }
  | .send => { s with tasks := s.tasks.erase id, unread := some task.completion }

def chainStep (event : ChainEvent) : Option HandlerChain :=
  match s.phase, event with
  | .next, .beginHandler => some s.beginHandler
  | .enter, .entered result => some (s.afterEnter result)
  | .spawn timeout, .spawned ok => some (s.afterSpawn timeout ok)
  | .hold timeout since, event => s.holdStep timeout since event
  | .callback timeout since, .returned => some { s with phase := .hold timeout since }
  | _, _ => none

def step : ChainEvent → Option HandlerChain
  | .tick ms => some { s with now := s.now + ms }
  | .handleComplete holdId result => s.startCompletion holdId result (.check holdId)
  | .sessionComplete handler result => s.startCompletion handler result .load
  | .complete id => (s.tasks.lookup id).map (s.completionStep id)
  | event => s.chainStep event

end HandlerChain

end Infrarust.Limbo
