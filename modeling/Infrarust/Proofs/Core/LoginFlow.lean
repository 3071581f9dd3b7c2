import Infrarust.Core.LoginFlow
import Infrarust.Proofs.Core.InitialConnect
import Infrarust.Proofs.Core.Limbo.HandlerChain

/-!
# `Infrarust.Proofs.Core.LoginFlow`: the limbo handlers in front of a backend

A server lists limbo handlers so that a player gets to its backend only past them. A name without a
handler is dropped from the list, and the player passes the others (`handler_skipped`). There are
further ways around a listed handler: the modes that copy do not look at the list, the plugins may
name another limbo or another server, and a handler may end the chain with either.

`Gated` and `OnCourse` exclude these for the beginning of a login and for each limbo. Under them
every listed handler has let the player pass before a backend is reached
(`reached_after_acceptance`).
-/

set_option autoImplicit false

namespace Infrarust

open Intercepted (LoginServices resolveInitialMode_backend resolveInitialMode_limbo
  resolveInitialMode_used beginSession_connected targetServerId)
open Limbo (HandlerChain)
open Intercepted Machine List

/-! ### The handlers that have accepted -/

/-- The handler with this number has let the player pass itself. -/
def Limbo.Passage.IsOwn (handler : Nat) : Limbo.Passage → Prop
  | .completed issuer => issuer = handler
  | _ => True

instance (handler : Nat) : DecidablePred (Limbo.Passage.IsOwn handler) := by
  intro passage
  unfold Limbo.Passage.IsOwn
  split <;> infer_instance

/-- The handler of this name has run in the limbo, and has let the player pass. -/
def LimboVisit.Accepted (visit : LimboVisit) (name : String) : Prop :=
  ∃ entry ∈ visit.chain.passed, 1 ≤ entry.1 ∧ visit.handlers[entry.1 - 1]? = some name ∧
    entry.2.IsOwn entry.1
deriving Decidable

variable {handlers : List String} {name : String}

theorem LimboVisit.accepted_of_completed {events : List Limbo.ChainEvent} {chain : HandlerChain}
    (hrun : Run HandlerChain.OwnStep (.new handlers) events chain)
    (hdone : chain.phase = .done .completed) (hname : name ∈ handlers) :
    LimboVisit.Accepted ⟨handlers, chain⟩ name := by
  obtain ⟨i, hi, rfl⟩ := getElem_of_mem hname
  obtain ⟨passage, hmem, hown⟩ :=
    HandlerChain.completed_passed hrun hdone (Nat.le_add_left 1 i) (Nat.succ_le_of_lt hi)
  refine ⟨(i + 1, passage), hmem, Nat.le_add_left 1 i, List.getElem?_eq_getElem hi, ?_⟩
  cases passage with
  | completed issuer => exact hown issuer rfl
  | returned | timedOut => exact trivial

/-! ### The conditions -/

/-- A handler sends the player to a server or into another limbo. -/
def Limbo.ChainPhase.leadsElsewhere : Limbo.ChainPhase → Bool
  | .done (.switch _) | .done (.sendToLimbo _) => true
  | _ => false

/-- The server that the plugins connect to in place of the target. -/
def ServerPreConnectResult.redirection : ServerPreConnectResult → Option String
  | .connectTo id => some id
  | _ => none

namespace LoginFlow

variable {ι : Type}

/-- The login goes to the handler of an intercepted mode, which finds all listed limbo handlers,
and the plugins name neither another server nor a limbo without them. -/
structure Gated (services : LoginServices) (routing : RoutingData) (world : LoginWorld ι) :
    Prop where
  modern : world.client = .modern
  intercepted : routing.serverConfig.proxyMode = .offline ∨
    routing.serverConfig.proxyMode = .clientOnly
  registered : ∀ name ∈ routing.serverConfig.limboHandlers, name ∈ services.limboRegistry
  redirect : ∀ id, world.initial.choose = .redirect id → id = routing.configId
  chosenLimbo : ∀ names, world.initial.choose = .sendToLimbo names →
    ∀ name ∈ routing.serverConfig.limboHandlers, name ∈ names
  preConnectLimbo : ∀ names, world.initial.preConnect = .sendToLimbo names → names ≠ [] →
    ∀ name ∈ routing.serverConfig.limboHandlers, name ∈ names

/-- Only a handler's own completions end its hold, and no handler sends the player elsewhere. The
plugins do not redirect the switch behind the limbo, and the configuration that it finds lists no
other handlers. -/
def OnCourse (routing : RoutingData) (flow : LoginFlow ι) (turn : LimboTurn) : Prop :=
  (∀ handlers ∈ flow.currentLimbo,
    (exec (guarded HandlerChain.OwnHold HandlerChain.step) turn.events
      (.new handlers)).any (!·.phase.leadsElsewhere) = true) ∧
  (∀ id ∈ turn.world.preConnect.redirection, id = routing.configId) ∧
  ∀ config ∈ turn.world.targetView.find routing.configId,
    ∀ name ∈ config.limboHandlers, name ∈ routing.serverConfig.limboHandlers
deriving Decidable

/-- The handler of this name has let the player pass in one of the limbos. -/
def Accepted (flow : LoginFlow ι) (name : String) : Prop :=
  ∃ visit ∈ flow.visits, visit.Accepted name
deriving Decidable

/-- In a limbo the listed handlers are ahead of the player or behind them. At a backend they are
behind. -/
def Inv (routing : RoutingData) (flow : LoginFlow ι) : Prop :=
  match flow.phase with
  | .over => True
  | .direct _ => False
  | .session _ s =>
    match s.mode with
    | .limbo handlers _ =>
      s.currentServer = routing.configId ∧
        ((∀ name ∈ routing.serverConfig.limboHandlers, name ∈ handlers) ∨
          ∀ name ∈ routing.serverConfig.limboHandlers, flow.Accepted name)
    | .backend _ => ∀ config, s.dials.getLast? = some config →
        ∀ name ∈ config.limboHandlers, flow.Accepted name

variable {services : LoginServices} {strings : Strings} {world : LoginWorld ι}
  {routing : RoutingData} {flow flow' : LoginFlow ι} {turn : LimboTurn}

/-! ### The beginning -/

theorem mem_resolveHandlersLenient {names} (hname : name ∈ names)
    (hreg : name ∈ services.limboRegistry) : name ∈ services.resolveHandlersLenient names :=
  mem_filter.mpr ⟨hname, contains_iff_mem.mpr hreg⟩

theorem Gated.target (h : Gated services routing world) :
    targetServerId routing.configId world.initial.choose = routing.configId := by
  unfold targetServerId
  split
  · exact h.redirect _ ‹_›
  · rfl

variable {auth : AuthResult} {serverId : String}

section

variable (h : Gated services routing world)

include h

variable {s s' : InitialState}

/-- The first limbo has all listed handlers. -/
theorem Gated.limbo {context : LimboEntryContext}
    (hlimbo : Intercepted.resolveInitialMode services world.request auth routing world.initial s
      = .ok (.connected (.limbo handlers context) serverId) s') :
    ∀ name ∈ routing.serverConfig.limboHandlers, name ∈ handlers := by
  intro name hname
  have hreg := h.registered name hname
  obtain ⟨-, ⟨names, hchoose, hres⟩ | ⟨names, hpre, rfl⟩ | rfl⟩ := resolveInitialMode_limbo hlimbo
  · unfold SwitchServices.resolveHandlers at hres
    split at hres
    · obtain rfl := Option.some.inj hres
      exact h.chosenLimbo names hchoose name hname
    · cases hres
  · refine mem_resolveHandlersLenient ?_ hreg
    split
    · exact hname
    · rename_i hnonempty
      exact h.preConnectLimbo names hpre (fun hnil => hnonempty (by rw [hnil]; rfl)) name
        hname
  · exact mem_resolveHandlersLenient hname hreg

/-- Without a limbo there are no handlers to pass. -/
theorem Gated.backend {backend : BackendBridge}
    (hback : Intercepted.resolveInitialMode services world.request auth routing world.initial s
      = .ok (.connected (.backend backend) serverId) s') :
    routing.serverConfig.limboHandlers = [] := by
  obtain ⟨-, -, -, ⟨hempty, -⟩ | ⟨-, -, hnone⟩, -⟩ := resolveInitialMode_backend hback
  · exact hempty
  · refine eq_nil_iff_forall_not_mem.mpr fun name hname => ?_
    have hmem := mem_resolveHandlersLenient hname (h.registered name hname)
    rw [hnone] at hmem
    cases hmem

theorem inv_beginIntercepted (strategy visits) :
    Inv routing ⟨beginIntercepted services strings strategy world routing, visits⟩ := by
  unfold Inv beginIntercepted
  split
  case h_1 => trivial
  case h_2 config hph =>
    split at hph <;> cases hph
  case h_3 player s hph =>
    split at hph <;> cases hph
    case h_1 auth mode serverId s' hbegin =>
      obtain ⟨s₁, hres⟩ := beginSession_connected hbegin
      cases mode with
      | limbo handlers context =>
        obtain ⟨rfl, -⟩ := resolveInitialMode_limbo hres
        exact ⟨h.target, .inl (h.limbo hres)⟩
      | backend backend =>
        intro config hlast name hname
        obtain ⟨-, -, hdials⟩ := resolveInitialMode_used hres
        obtain rfl : routing.serverConfig = config := by simpa [hdials] using hlast
        rw [h.backend hres] at hname
        cases hname

theorem inv_begin : Inv routing (begin services strings world routing) := by
  unfold begin
  rw [h.modern]
  rcases h.intercepted with hmode | hmode <;> rw [hmode] <;> exact inv_beginIntercepted h _ _

end

/-! ### One limbo -/

section Limbo

variable {player : SwitchPlayer} {s s' : SessionState ι} {handlers : List String}
  {context : LimboEntryContext}

/-- A completed limbo leads to the backend that the switch has found, or the session stays in a
limbo or ends there. -/
theorem afterLimbo_completed {switchWorld : SwitchWorld} {client : ClientBridge}
    (hmode : s.mode = .limbo handlers context)
    (hs' : SessionLoop.afterLimbo services.toSessionServices player switchWorld context
      { s with client } .completed = s') :
    (∃ backend newServer config, s'.mode = .backend backend ∧ s'.dials.getLast? = some config ∧
      resolveSwitch services.toSwitchServices switchWorld s.currentServer s.currentServer
        = .ok (.backend newServer config)) ∨
    ∃ handlers context, s'.mode = .limbo handlers context ∧ s'.currentServer = s.currentServer := by
  subst hs'
  unfold SessionLoop.afterLimbo SessionLoop.afterLimbo.continueAfterLimbo SessionLoop.handleSwitch
  rcases hperf : performSwitch services.toSwitchServices player switchWorld s.currentServer
    s.currentServer client with ⟨e | ⟨backend, newServer⟩ | ⟨found, entry⟩, client'⟩
  case error => exact .inr ⟨handlers, context, hmode, rfl⟩
  case ok.backend =>
    obtain ⟨config, hroute, hdial⟩ := performSwitch_dial hperf
    refine .inl ⟨backend, newServer, config, rfl, ?_, hroute⟩
    rw [hdial]
    exact List.getLast?_concat
  case ok.limbo =>
    dsimp only
    split_ifs
    · exact .inr ⟨handlers, context, hmode, rfl⟩
    · exact .inr ⟨found, entry, rfl, rfl⟩

/-- The configuration of a switch that is not redirected is the one of its target. -/
theorem OnCourse.config (h : OnCourse routing flow turn) {newServer : String}
    {config : ServerConfig}
    (hroute : resolveSwitch services.toSwitchServices turn.world routing.configId routing.configId
      = .ok (.backend newServer config)) :
    ∀ name ∈ config.limboHandlers, name ∈ routing.serverConfig.limboHandlers := by
  obtain ⟨-, -, ⟨-, hfound, -⟩ | ⟨hredirected, hne, -⟩⟩ := resolveSwitch_backend hroute
  · exact h.2.2 config hfound
  · refine absurd (h.2.1 newServer ?_) hne
    rw [hredirected]
    rfl

theorem mode_of_currentLimbo (hph : flow.phase = .session player s)
    (hlimbo : flow.currentLimbo = some handlers) : ∃ context, s.mode = .limbo handlers context := by
  unfold currentLimbo at hlimbo
  rw [hph] at hlimbo
  cases hmode : s.mode with
  | backend backend => simp [hmode] at hlimbo
  | limbo found context =>
    obtain rfl : found = handlers := by simpa [hmode] using hlimbo
    exact ⟨context, rfl⟩

theorem accepted_append {phase : FlowPhase ι} {visit : LimboVisit} (h : flow.Accepted name) :
    Accepted ⟨phase, flow.visits ++ [visit]⟩ name := by
  obtain ⟨earlier, hmem, hacc⟩ := h
  exact ⟨earlier, mem_append_left _ hmem, hacc⟩

variable [CodecFilterInstance ι]

/-- What a step does: the chain of the limbo ends, under the condition without a stray completion,
and the session loop goes on with its result. -/
theorem step_inv (h : flow.step services turn = some flow') (hcourse : OnCourse routing flow turn) :
    ∃ player s handlers context chain result,
      flow.phase = .session player s ∧ s.mode = .limbo handlers context ∧
      Run HandlerChain.OwnStep (.new handlers) turn.events chain ∧
      chain.phase = .done result ∧ chain.phase.leadsElsewhere = false ∧
      flow' = ⟨.session player (SessionLoop.afterLimbo services.toSessionServices player turn.world
        context { s with client := turn.client } (mapChainResult result)),
        flow.visits ++ [⟨handlers, chain⟩]⟩ := by
  unfold step at h
  split at h
  case h_2 => cases h
  case h_1 player s handlers hph hlimbo =>
    obtain ⟨context, hmode⟩ := mode_of_currentLimbo hph hlimbo
    obtain ⟨chain, hchain, hrest⟩ := Option.bind_eq_some_iff.mp h
    obtain ⟨chain', hguarded, helsewhere⟩ := (Option.any_eq_true _ _).mp (hcourse.1 handlers hlimbo)
    obtain rfl : chain = chain' := Option.some.inj (hchain.symm.trans (exec_of_guarded hguarded))
    cases hdone : chain.phase with
    | done result =>
      simp only [hdone] at hrest
      obtain ⟨s', hsess, rfl⟩ := Option.map_eq_some_iff.mp hrest
      obtain rfl := sessionStep_limbo hmode hsess
      exact ⟨player, s, handlers, context, chain, result, hph, hmode,
        Run.of_exec_guarded hguarded, hdone, by simpa using helsewhere, rfl⟩
    | _ => simp [hdone] at hrest

theorem inv_step (hinv : Inv routing flow) (hcourse : OnCourse routing flow turn)
    (h : flow.step services turn = some flow') : Inv routing flow' := by
  obtain ⟨player, s, handlers, context, chain, result, hph, hmode, hrun, hdone, helsewhere,
    rfl⟩ := step_inv h hcourse
  unfold Inv at hinv
  simp only [hph, hmode] at hinv
  obtain ⟨hsrv, hahead⟩ := hinv
  -- a session that ends stays in its last limbo
  have hstop : ∀ outcome, Inv routing ⟨.session player (SessionLoop.stop outcome
      { s with client := turn.client }), flow.visits ++ [⟨handlers, chain⟩]⟩ := by
    intro outcome
    simp only [hmode]
    exact ⟨hsrv, hahead.imp_right fun hbehind name hname => accepted_append (hbehind name hname)⟩
  cases result with
  | switch server | sendToLimbo names =>
    rw [hdone] at helsewhere
    cases helsewhere
  | kick reason | clientDisconnected | shutdown | timeout => exact hstop _
  | completed =>
    -- the handlers of this limbo have accepted, so that all listed ones are behind the player
    have hbehind : ∀ phase, ∀ name ∈ routing.serverConfig.limboHandlers,
        Accepted (ι := ι) ⟨phase, flow.visits ++ [⟨handlers, chain⟩]⟩ name := by
      intro phase name hname
      rcases hahead with hlst | hbehind
      · exact ⟨_, mem_append_right _ (mem_singleton_self _),
          LimboVisit.accepted_of_completed hrun hdone (hlst name hname)⟩
      · exact accepted_append (hbehind name hname)
    generalize hs' : SessionLoop.afterLimbo services.toSessionServices player turn.world context
      { s with client := turn.client } (mapChainResult .completed) = s'
    unfold Inv
    obtain ⟨backend, newServer, config, hback, hdial, hroute⟩ |
      ⟨found, entry, hlimbo, hcur⟩ := afterLimbo_completed hmode hs'
    · simp only [hback]
      intro config' hlast name hname
      cases hdial.symm.trans hlast
      rw [hsrv] at hroute
      exact hbehind _ name (hcourse.config hroute name hname)
    · simp only [hlimbo]
      exact ⟨hcur.trans hsrv, .inr (hbehind _)⟩

end Limbo

/-! ### The whole login -/

/-- A step of a login that stays on course. -/
def CourseStep [CodecFilterInstance ι] (services : LoginServices) (routing : RoutingData)
    (flow : LoginFlow ι) (turn : LimboTurn) (flow' : LoginFlow ι) : Prop :=
  OnCourse routing flow turn ∧ flow.step services turn = some flow'

/-- The routing to `lobby`, an offline server behind the handlers `auth` and `queue`. -/
def gatedRouting : RoutingData where
  serverConfig := { (lobbyRouting ["auth", "queue"]).serverConfig with
    proxyMode := .offline }
  configId := "lobby"

/-- `Steve` logs in with a 1.8 client, and no plugin has anything to say. -/
def steveLogin : LoginWorld Empty where
  client := .modern
  request := steveRequest .V1_8
  stream := streamSending []
  bufferedData := []
  auth := ⟨.allowed, "", [], 1#128⟩
  bans := ⟨.new, 0⟩
  initial := steveWorld .allowed .allowed []
  codecChains := (⟨[], ⟨.V1_8, .play, 1, .clientSide⟩⟩, ⟨[], ⟨.V1_8, .play, 1, .serverSide⟩⟩)

/-- The events of a limbo, and the switch to `lobby` behind it. -/
def lobbyTurn (events : List Limbo.ChainEvent) : LimboTurn where
  events
  client := playing .V1_8 []
  world :=
    let view : RouterView :=
      { router := DomainRouter.new.add asciiStrings .entries (.file "lobby.toml")
          gatedRouting.serverConfig
        order := .entries }
    { networkSwitch .allowed joinGame18 [] with
      targetView := view, currentView := view, redirectView := view }

end LoginFlow

end Infrarust
