import Infrarust.Core.InitialConnect
import Infrarust.Proofs.Core.SessionLoop

/-!
# `Infrarust.Proofs.Core.InitialConnect`: the first backend of an intercepted login

`resolve_initial_mode` carries the id of the server apart from the configuration that it connects
with. The plugins change the id only, or nothing at all, so the server that the proxy announces is
not always the one that the player is connected to (`redirected_elsewhere`). `one_server_iff` says
when it is.

`resolveInitialMode_backend` has every way to a backend. On one of them the client was prepared for
a limbo that has no handler, and is in the Play state. From 1.20.2 on the backend is then still in
the Config state (`prepared_for_no_limbo`). On the others both are in the state that the login has
come to, `loginState` (`states_agree_iff`).
-/

set_option autoImplicit false

namespace Infrarust

open Hoare (Keeps Ensures ok_of_bind)

/-- The state of a connection behind its login. -/
def loggedIn (version : ProtocolVersion) : ConnectionState :=
  if version.noLessThan .V1_20_2 then .config else .play

/-- The state of a connection whose login is complete, or not. -/
def loginState (version : ProtocolVersion) (completed : Bool) : ConnectionState :=
  if completed then loggedIn version else .login

theorem ProtocolVersion.lessThan_eq {v other : ProtocolVersion} :
    v.lessThan other = !v.noLessThan other := by
  rw [lessThan, noLessThan, ← decide_not]
  exact decide_eq_decide.mpr Int.not_le.symm

/-! ### The login at the backend -/

variable {α : Type}

namespace BackendBridge

variable {state : ConnectionState}

theorem keeps_attempt {f : BackendBridge → Except CoreError α × BackendBridge}
    (hf : ∀ b, (f b).2.state = b.state) : Keeps (fun b => b.state = state) (attempt f) := by
  intro b hb
  have hst := (hf b).trans hb
  unfold Hoare.final attempt
  rcases h : f b with ⟨_ | _, _⟩ <;> rw [h] at hst <;> exact hst

theorem keeps_writeFrame (frame : PacketFrame) :
    Keeps (fun b => b.state = state) (attempt (·.writeFrame frame)) :=
  keeps_attempt fun b => (b.writeFrame_spec frame).1

theorem keeps_encoded (e : Except ProtocolError α) :
    Keeps (fun b => b.state = state) (encoded e) := by
  cases e with
  | ok a => exact .pure a
  | error e => exact .throw _

theorem keeps_nextFrame : Keeps (fun b => b.state = state) nextFrame := by
  refine (keeps_attempt fun _ => rfl).bind fun frame => ?_
  cases frame with
  | none => exact .throw _
  | some frame => exact .pure frame

/-- The login succeeds with a LoginSuccess. From 1.20.2 on it does not change the state. -/
theorem ensures_consumeBackendLogin (registry : PacketRegistry) (texts : ForwardingTexts)
    (version : ProtocolVersion) (velocity : Option (ForwardingData × Bytes)) (turns : Nat) :
    Ensures (fun b => b.state = state) (consumeBackendLogin registry texts version velocity turns)
      (fun b => b.state = if version.noLessThan .V1_20_2 then state else .play) := by
  induction turns with
  | zero => exact .throw _
  | succ turns ih =>
    refine (Ensures.of_keeps keeps_nextFrame).bind fun frame => ?_
    split
    case h_1 => exact .throw _
    case h_2 threshold _ =>
      exact (Ensures.modify (f := (·.setCompression threshold)) fun _ hb => hb).bind fun _ => ih
    case h_3 =>
      rw [ProtocolVersion.lessThan_eq]
      cases version.noLessThan .V1_20_2 with
      | true => exact .pure _
      | false => exact .modify fun _ _ => rfl
    case h_4 => exact .throw _
    case h_5 =>
      refine (Ensures.of_keeps (keeps_encoded _)).bind fun response => ?_
      exact (Ensures.of_keeps (keeps_attempt fun b => b.state_sendPacket ..)).bind fun _ => ih
    case h_6 => exact ih

end BackendBridge

namespace Intercepted

variable {services : LoginServices} {request : LoginRequest} {auth : AuthResult}
  {routing : RoutingData} {world : InitialWorld} {s s' : InitialState} {backend : BackendBridge}
  {serverId : String}

section Backend

variable {backend' : BackendBridge} {state : ConnectionState}

open BackendBridge (keeps_attempt keeps_encoded keeps_writeFrame ensures_consumeBackendLogin)

theorem keeps_sendFirstPackets :
    Keeps (fun b => b.state = state) (sendFirstPackets services request auth routing) := by
  unfold sendFirstPackets
  dsimp only
  split
  · refine (keeps_encoded _).bind fun payload => (keeps_writeFrame _).bind fun _ => ?_
    exact Keeps.bind (fun _ hb => hb) fun b => (keeps_encoded _).bind fun _ => keeps_writeFrame _
  · refine (keeps_attempt fun _ => rfl).bind fun bytes => Keeps.bind (keeps_attempt fun b => ?_)
      fun _ => (keeps_encoded _).bind fun _ => keeps_writeFrame _
    unfold BackendBridge.writeRaw
    split <;> rfl

theorem ensures_acknowledgeLogin :
    Ensures (fun b => b.state = if request.version.noLessThan .V1_20_2 then .login else .play)
      (acknowledgeLogin services request) (fun b => b.state = loggedIn request.version) := by
  unfold acknowledgeLogin loggedIn
  cases request.version.noLessThan .V1_20_2 with
  | true =>
    exact (Ensures.of_keeps (keeps_attempt fun b => b.state_sendPacket ..)).bind fun _ =>
      .modify fun _ _ => rfl
  | false => exact .pure _

theorem state_sendInitialPackets (services request routing b) :
    (sendInitialPackets services request routing b).2.state = b.state := by
  unfold sendInitialPackets
  split
  · rfl
  · split <;> rfl

/-- The proxy's own login takes a new backend behind its login, and leaves the client alone. -/
theorem logInAgain_ok (hnew : backend.state = .login)
    (h : logInAgain services request auth routing world backend s = .ok backend' s') :
    s' = s ∧ backend'.state = loggedIn request.version := by
  unfold logInAgain at h
  split at h
  case h_1 => cases h
  case h_2 b₁ hfst =>
    dsimp only at h
    split at h
    case h_1 => cases h
    case h_2 b₂ hconsume =>
      split at h <;> cases h
      case h_2 b₃ hacknowledge =>
        have h₁ := Ensures.of_keeps keeps_sendFirstPackets backend () b₁ hnew hfst
        have h₂ := ensures_consumeBackendLogin _ _ _ _ _ b₁ () b₂ h₁ hconsume
        exact ⟨rfl, ensures_acknowledgeLogin b₂ () _ h₂ hacknowledge⟩

/-- A connection is opened with the configuration of the routing, and comes to the state that the
client's login has come to. -/
theorem connectToBackend_ok
    (h : connectToBackend services request auth routing world s = .ok backend s') :
    s' = { s with dials := s.dials ++ [routing] } ∧
      backend.state = loginState request.version s.loginCompleted := by
  unfold connectToBackend at h
  split at h
  case h_1 => cases h
  case h_2 stream hconnect =>
    dsimp only at h
    split at h
    case isTrue hdone =>
      rw [loginState, if_pos hdone]
      exact logInAgain_ok rfl h
    case isFalse hdone =>
      -- the client's own packets are sent, and both are left in the Login state
      rw [loginState, if_neg hdone]
      split at h
      case h_1 b₁ hsent =>
        have hst := state_sendInitialPackets services request routing
          (.new services.deflate services.inflate stream request.version)
        rw [hsent] at hst
        cases h
        exact ⟨rfl, hst⟩
      case h_2 => cases h

end Backend

/-! ### The client's own login -/

variable {strategy : AuthStrategy}

section Client

variable {version : ProtocolVersion} {authWorld : AuthWorld} {preparation : PreparationWorld}
  {client client' : ClientBridge}

theorem onClient_ok {m : ClientM α} {a : α} (h : onClient m s = .ok a s') :
    m s.client = .ok a s'.client ∧ s' = { s with client := s'.client } := by
  unfold onClient at h
  cases hm : m s.client with
  | error e client =>
    rw [hm] at h
    cases h
  | ok a client =>
    rw [hm] at h
    cases h
    exact ⟨rfl, rfl⟩

theorem ensures_leaveLogin :
    Ensures (fun _ => True) (leaveLogin services version)
      (fun client => client.state = loggedIn version) := by
  unfold leaveLogin loggedIn
  cases version.noLessThan .V1_20_2 with
  | true =>
    refine Ensures.bind (Q := fun _ => True) (fun _ _ _ _ _ => trivial) fun frame => ?_
    split
    · exact .throw _
    · exact .modify fun _ _ => rfl
    · exact .throw _
  | false => exact .modify fun _ _ => rfl

theorem runMojangAuthFlow_ok {login}
    (h : runMojangAuthFlow services authWorld login version client = .ok auth client') :
    client'.state = loginState version auth.loginCompleted := by
  obtain ⟨profile, c₁, -, hsuccess⟩ := ok_of_bind h
  obtain ⟨-, c₂, -, hrest⟩ := ok_of_bind hsuccess
  obtain ⟨⟨⟩, c₃, hleft, hreturned⟩ := ok_of_bind hrest
  obtain ⟨rfl, rfl⟩ := EStateM.Result.ok.inj hreturned
  exact ensures_leaveLogin c₂ () c₃ trivial hleft

theorem firePreLogin_ok {result}
    (h : firePreLogin services authWorld client = .ok result client') : client' = client := by
  unfold firePreLogin at h
  split at h
  · obtain ⟨-, c₁, -, hrest⟩ := ok_of_bind h
    cases hrest
  · cases h
    rfl

/-- The client is behind its login exactly if the result says so. -/
theorem authenticate_ok {login} (hnew : client.state = .login)
    (h : authenticate services strategy authWorld login version client = .ok auth client') :
    client'.state = loginState version auth.loginCompleted := by
  unfold authenticate at h
  split at h
  case h_1 =>
    split at h
    case h_1 => cases h
    case h_2 =>
      obtain ⟨result, c₁, hfired, hrest⟩ := ok_of_bind h
      obtain rfl := firePreLogin_ok hfired
      split at hrest
      · cases hrest
        exact hnew
      · exact runMojangAuthFlow_ok hrest
  case h_2 =>
    obtain ⟨result, c₁, hfired, hrest⟩ := ok_of_bind h
    obtain rfl := firePreLogin_ok hfired
    split at hrest
    · split at hrest
      · cases hrest
      · exact runMojangAuthFlow_ok hrest
    · cases hrest
      exact hnew

/-- The configuration phase ends in the Play state. -/
theorem ensures_completeConfigForLimbo :
    Ensures (fun _ => True) (completeConfigForLimbo services version preparation)
      (fun client => client.state = .play) := by
  have hany : ∀ {α : Type} (m : ClientM α), Ensures (fun _ => True) m (fun _ => True) :=
    fun _ _ _ _ _ _ => trivial
  refine (hany _).bind fun _ => (hany _).bind fun _ => ?_
  unfold finishConfig
  split
  · exact .throw _
  · exact (hany _).bind fun _ => (hany _).bind fun _ => .modify fun _ _ => rfl

theorem ensureLoginCompleteForLimbo_ok
    (h : ensureLoginCompleteForLimbo services request auth s = .ok () s') :
    s' = { s with client := s'.client, loginCompleted := true } ∧
      (s.client.state = loginState request.version s.loginCompleted →
        s'.client.state = loggedIn request.version) := by
  obtain ⟨_, _, hget, hrest⟩ := ok_of_bind h
  cases hget
  split at hrest
  case isTrue hdone =>
    cases hrest
    refine ⟨?_, fun hst => ?_⟩
    · rw [← hdone]
    · rwa [loginState, if_pos hdone] at hst
  case isFalse =>
    obtain ⟨⟨⟩, s₁, hsent, hrest⟩ := ok_of_bind hrest
    obtain ⟨⟨⟩, s₂, hlast, hset⟩ := ok_of_bind hrest
    cases hset
    -- both programs of the client change nothing else
    obtain ⟨-, hs₁⟩ := onClient_ok hsent
    obtain ⟨hleft, hs₂⟩ := onClient_ok hlast
    rw [hs₁] at hs₂
    rw [hs₂]
    exact ⟨rfl, fun _ => ensures_leaveLogin _ () _ trivial hleft⟩

/-- A client that is ready for the limbo has completed its login and is in the Play state. -/
theorem prepareClientForLimbo_ok
    (h : prepareClientForLimbo services request auth preparation s = .ok () s') :
    s' = { s with client := s'.client, loginCompleted := true } ∧
      (s.client.state = loginState request.version s.loginCompleted → s'.client.state = .play) := by
  obtain ⟨⟨⟩, s₁, hlogin, hrest⟩ := ok_of_bind h
  obtain ⟨hs₁, hst₁⟩ := ensureLoginCompleteForLimbo_ok hlogin
  split at hrest
  case isTrue =>
    unfold completeConfigOrDisconnect at hrest
    split at hrest <;> cases hrest
    case h_1 client hcfg =>
      rw [hs₁]
      exact ⟨rfl, fun _ => ensures_completeConfigForLimbo _ () _ trivial hcfg⟩
  case isFalse hold =>
    cases hrest
    refine ⟨hs₁, fun hst => ?_⟩
    rw [hst₁ hst, loggedIn, if_neg hold]

end Client

/-! ### The stages

Each lemma says what a stage has done if it ends, for every decision that it comes to. -/

section Stages

variable {s₁ : InitialState} {target : String} {handlers : List String}
  {context : LimboEntryContext} {decision : Stage}

variable {resolved : Option (List String)} {mode : InitialMode} {m : InitialM Stage}
  {rest : InitialM InitialMode}

theorem limboOrDeny_ok (h : limboOrDeny services routing resolved s = .ok decision s₁) :
    decision = .denied ∨
      ∃ handlers context, decision = .limbo handlers context ∧ resolved = some handlers := by
  cases resolved with
  | some handlers =>
    cases h
    exact .inr ⟨handlers, _, rfl, rfl⟩
  | none =>
    obtain ⟨_, _, -, hlast⟩ := ok_of_bind h
    cases hlast
    exact .inl rfl

theorem resolveHandlersLenient_eq {names} (h : resolveLimboLenient services names = resolved) :
    services.resolveHandlersLenient names = resolved.getD [] := by
  obtain rfl := h
  unfold resolveLimboLenient
  split
  · assumption
  · rfl

theorem chooseStage_ok (h : chooseStage services request auth routing world s = .ok decision s₁) :
    match decision with
    | .denied => True
    | .limbo handlers _ => ∃ names, world.choose = .sendToLimbo names ∧
        services.resolveHandlers names = some handlers
    | .undecided => s₁ = s ∧ ∀ names, world.choose ≠ .sendToLimbo names := by
  unfold chooseStage at h
  cases hchoose : world.choose with
  | sendToLimbo names =>
    rw [hchoose] at h
    obtain ⟨_, _, -, hlast⟩ := ok_of_bind h
    obtain rfl | ⟨handlers, context, rfl, hresolved⟩ := limboOrDeny_ok hlast
    · trivial
    · exact ⟨names, rfl, (Option.filter_eq_some_iff.mp hresolved).1⟩
  | allowed | redirect id =>
    rw [hchoose] at h
    cases h
    exact ⟨rfl, nofun⟩

/-- An empty list of names stands for the handlers of the server. -/
theorem preConnectStage_ok
    (h : preConnectStage services request auth routing world s = .ok decision s₁) :
    match decision with
    | .denied => True
    | .limbo handlers _ => ∃ names, world.preConnect = .sendToLimbo names ∧
        services.resolveHandlersLenient
          (if names.isEmpty then routing.serverConfig.limboHandlers else names) = handlers
    | .undecided => s₁ = s := by
  unfold preConnectStage at h
  cases hpre : world.preConnect with
  | denied =>
    rw [hpre] at h
    obtain ⟨_, _, -, hlast⟩ := ok_of_bind h
    cases hlast
    trivial
  | sendToLimbo names =>
    rw [hpre] at h
    obtain ⟨_, _, -, hlast⟩ := ok_of_bind h
    obtain rfl | ⟨handlers, context, rfl, hresolved⟩ := limboOrDeny_ok hlast
    · trivial
    · exact ⟨names, rfl, resolveHandlersLenient_eq hresolved⟩
  | allowed | connectTo id | virtualBackend =>
    rw [hpre] at h
    cases h
    rfl

/-- Nothing is decided if the server has no limbo handlers, or if the client was prepared for them
and none is there. -/
theorem configuredStage_ok
    (h : configuredStage services request auth routing world s = .ok decision s₁) :
    match decision with
    | .denied => True
    | .limbo handlers _ =>
      services.resolveHandlersLenient routing.serverConfig.limboHandlers = handlers
    | .undecided => routing.serverConfig.limboHandlers = [] ∧ s₁ = s ∨
        routing.serverConfig.limboHandlers ≠ [] ∧
        prepareClientForLimbo services request auth world.preparation s = .ok () s₁ ∧
        services.resolveHandlersLenient routing.serverConfig.limboHandlers = [] := by
  unfold configuredStage at h
  split at h
  case isTrue hempty =>
    cases h
    exact .inl ⟨List.isEmpty_iff.mp hempty, rfl⟩
  case isFalse hlst =>
    obtain ⟨⟨⟩, s₂, hprep, hrest⟩ := ok_of_bind h
    cases hresolved : resolveLimboLenient services routing.serverConfig.limboHandlers with
    | some handlers =>
      rw [hresolved] at hrest
      cases hrest
      exact resolveHandlersLenient_eq hresolved
    | none =>
      rw [hresolved] at hrest
      cases hrest
      exact .inr ⟨fun hempty => hlst (List.isEmpty_iff.mpr hempty), hprep,
        resolveHandlersLenient_eq hresolved⟩

/-- A failed connection is followed by no other one. -/
theorem fallBack_ok {e}
    (h : fallBack services request auth routing world target e s = .ok mode s') :
    mode = .denied ∨ ∃ handlers context, mode = .connected (.limbo handlers context) target ∧
      services.resolveHandlersLenient routing.serverConfig.limboHandlers = handlers := by
  have hdeny : ∀ s, denyUnreachable services routing s = .ok mode s' → mode = .denied := by
    intro s h
    obtain ⟨_, _, -, hlast⟩ := ok_of_bind h
    exact (EStateM.Result.ok.inj hlast).1.symm
  unfold fallBack at h
  split at h
  · exact .inl (hdeny s h)
  · obtain ⟨-, s₁, -, hrest⟩ := ok_of_bind h
    cases hresolved : resolveLimboLenient services routing.serverConfig.limboHandlers with
    | some handlers =>
      rw [hresolved] at hrest
      cases hrest
      exact .inr ⟨handlers, _, rfl, resolveHandlersLenient_eq hresolved⟩
    | none =>
      rw [hresolved] at hrest
      exact .inl (hdeny s₁ hrest)

/-- The end of the function announces the target, whatever it has connected to. -/
theorem connectStage_ok
    (h : connectStage services request auth routing world target s = .ok mode s') :
    match mode with
    | .denied => True
    | .connected (.limbo handlers _) serverId => serverId = target ∧
        services.resolveHandlersLenient routing.serverConfig.limboHandlers = handlers
    | .connected (.backend backend) serverId => serverId = target ∧
        ∃ s₁, connectToBackend services request auth routing world s = .ok backend s₁ ∧
          s' = { s₁ with announced := s₁.announced ++ [target] } := by
  unfold connectStage at h
  split at h
  case h_1 s₁ hconn =>
    cases h
    exact ⟨rfl, s₁, hconn, rfl⟩
  case h_2 =>
    obtain rfl | ⟨handlers, context, rfl, hresolved⟩ := fallBack_ok h
    · trivial
    · exact ⟨rfl, hresolved⟩

/-! ### Every way to a backend -/

theorem stage_ok {mode} (h : stage target m rest s = .ok (.connected mode serverId) s') :
    (∃ handlers context, mode = .limbo handlers context ∧ serverId = target ∧
        m s = .ok (.limbo handlers context) s') ∨
      ∃ s₁, m s = .ok .undecided s₁ ∧ rest s₁ = .ok (.connected mode serverId) s' := by
  obtain ⟨decision, s₁, hm, hrest⟩ := ok_of_bind h
  cases decision with
  | denied => cases hrest
  | limbo handlers context =>
    cases hrest
    exact .inl ⟨handlers, context, rfl, rfl, hm⟩
  | undecided => exact .inr ⟨s₁, hm, hrest⟩

/-- A backend is returned when the plugins ask for no limbo, after a preparation for the limbo if
the server lists handlers. -/
theorem resolveInitialMode_backend (h : resolveInitialMode services request auth routing world s
      = .ok (.connected (.backend backend) serverId) s') :
    serverId = targetServerId routing.configId world.choose ∧
    (∀ names, world.choose ≠ .sendToLimbo names) ∧
    ∃ s₁, (routing.serverConfig.limboHandlers = [] ∧ s₁ = s ∨
        routing.serverConfig.limboHandlers ≠ [] ∧
        prepareClientForLimbo services request auth world.preparation s = .ok () s₁ ∧
        services.resolveHandlersLenient routing.serverConfig.limboHandlers = []) ∧
      s' = { s₁ with dials := s₁.dials ++ [routing], announced := s₁.announced ++ [serverId] } ∧
      backend.state = loginState request.version s₁.loginCompleted := by
  obtain ⟨_, _, ⟨⟩, -⟩ | ⟨s₁, hfst, h₁⟩ := stage_ok h
  obtain ⟨rfl, hchoose⟩ := chooseStage_ok hfst
  obtain ⟨_, _, ⟨⟩, -⟩ | ⟨s₂, hsnd, h₂⟩ := stage_ok h₁
  obtain rfl : s₂ = s₁ := preConnectStage_ok hsnd
  obtain ⟨_, _, ⟨⟩, -⟩ | ⟨s₃, hconfigured, h₃⟩ := stage_ok h₂
  obtain ⟨rfl, s₄, hconn, rfl⟩ := connectStage_ok h₃
  obtain ⟨rfl, hst⟩ := connectToBackend_ok hconn
  exact ⟨rfl, hchoose, s₃, configuredStage_ok hconfigured, rfl, hst⟩

/-! ### Every way to a limbo -/

/-- The handlers of a limbo are those of the first event, all of which are there, or those that are
there of the second event's or of the server's. -/
theorem resolveInitialMode_limbo (h : resolveInitialMode services request auth routing world s
      = .ok (.connected (.limbo handlers context) serverId) s') :
    serverId = targetServerId routing.configId world.choose ∧
    ((∃ names, world.choose = .sendToLimbo names ∧
        services.resolveHandlers names = some handlers) ∨
      (∃ names, world.preConnect = .sendToLimbo names ∧ services.resolveHandlersLenient
        (if names.isEmpty then routing.serverConfig.limboHandlers else names) = handlers) ∨
      services.resolveHandlersLenient routing.serverConfig.limboHandlers = handlers) := by
  obtain ⟨_, _, ⟨⟩, rfl, hfst⟩ | ⟨s₁, -, h₁⟩ := stage_ok h
  · exact ⟨rfl, .inl (chooseStage_ok hfst)⟩
  obtain ⟨_, _, ⟨⟩, rfl, hsnd⟩ | ⟨s₂, -, h₂⟩ := stage_ok h₁
  · exact ⟨rfl, .inr (.inl (preConnectStage_ok hsnd))⟩
  obtain ⟨_, _, ⟨⟩, rfl, hthird⟩ | ⟨s₃, -, h₃⟩ := stage_ok h₂
  · exact ⟨rfl, .inr (.inr (configuredStage_ok hthird))⟩
  · obtain ⟨rfl, hresolved⟩ := connectStage_ok h₃
    exact ⟨rfl, .inr (.inr hresolved)⟩

/-- A session begins with what `resolve_initial_mode` returns. -/
theorem beginSession_connected {strings bans authWorld mode}
    (h : beginSession services strings bans strategy request routing authWorld world s
      = .ok (auth, .connected mode serverId) s') :
    ∃ s₁, resolveInitialMode services request auth routing world s₁
      = .ok (.connected mode serverId) s' := by
  obtain ⟨found, s₁, -, hrest⟩ := ok_of_bind h
  cases hban : (bans.storage.checkPlayer strings bans.now request.clientIp found.username
      (some found.playerUuid)).1 with
  | some entry =>
    rw [hban] at hrest
    obtain ⟨_, _, -, hlast⟩ := ok_of_bind hrest
    cases hlast
  | none =>
    rw [hban] at hrest
    obtain ⟨_, s₂, -, hres⟩ := ok_of_bind hrest
    obtain ⟨_, s₃, hmode, hlast⟩ := ok_of_bind hres
    cases hlast
    exact ⟨s₂, hmode⟩

end Stages

/-! ### The server of the connection -/

/-- The server that the events select. -/
def selectedServer (routing : RoutingData) (world : InitialWorld) : String :=
  match world.preConnect with
  | .connectTo id => id
  | _ => targetServerId routing.configId world.choose

/-- The returned id, the announcement and the configuration of the new connection all belong to
this server. -/
structure OneServer (serverId : String) (s s' : InitialState) (server : String) : Prop where
  returned : serverId = server
  announced : s'.announced = s.announced ++ [server]
  dialed : ∃ dialed : RoutingData, s'.dials = s.dials ++ [dialed] ∧ dialed.configId = server

/-- With a backend, the target is returned and announced, and the routing is what was used. -/
theorem resolveInitialMode_used (h : resolveInitialMode services request auth routing world s
      = .ok (.connected (.backend backend) serverId) s') :
    serverId = targetServerId routing.configId world.choose ∧
      s'.announced = s.announced ++ [serverId] ∧ s'.dials = s.dials ++ [routing] := by
  obtain ⟨hsrv, -, s₁, hway, rfl, -⟩ := resolveInitialMode_backend h
  have hsame : s₁.announced = s.announced ∧ s₁.dials = s.dials := by
    rcases hway with ⟨-, rfl⟩ | ⟨-, hprep, -⟩
    · exact ⟨rfl, rfl⟩
    · rw [(prepareClientForLimbo_ok hprep).1]
      exact ⟨rfl, rfl⟩
  exact ⟨hsrv, by rw [hsame.1], by rw [hsame.2]⟩

/-- A connected backend, its announcement and the returned id belong to the server that the events
have selected exactly if the events name no other server than the one of the routing. -/
theorem one_server_iff (h : resolveInitialMode services request auth routing world s
      = .ok (.connected (.backend backend) serverId) s') :
    OneServer serverId s s' (selectedServer routing world) ↔
      (∀ id, world.choose = .redirect id → id = routing.configId) ∧
      ∀ id, world.preConnect = .connectTo id → id = routing.configId := by
  obtain ⟨hsrv, hannounced, hdials⟩ := resolveInitialMode_used h
  constructor
  · rintro ⟨hreturned, -, dialed, hdialed, hcfg⟩
    obtain rfl : dialed = routing := by simpa [hdials] using hdialed.symm
    refine ⟨fun id hchoose => ?_, fun id hconnect => ?_⟩
    · rw [hcfg, ← hreturned, hsrv, hchoose, targetServerId]
    · rw [hcfg, selectedServer, hconnect]
  · rintro ⟨hchoose, hconnect⟩
    have htgt : targetServerId routing.configId world.choose = routing.configId := by
      unfold targetServerId
      split
      · exact hchoose _ ‹_›
      · rfl
    have hselected : selectedServer routing world = routing.configId := by
      unfold selectedServer
      split
      · exact hconnect _ ‹_›
      · exact htgt
    rw [hselected]
    obtain rfl := hsrv.trans htgt
    exact ⟨rfl, hannounced, routing, hdials, rfl⟩

/-- The backend in a result, with its server and the state at the end. -/
def connection : EStateM.Result CoreError InitialState InitialMode →
    Option (BackendBridge × String × InitialState)
  | .ok (.connected (.backend backend) serverId) s => some (backend, serverId, s)
  | _ => none

/-- A result that is found by evaluation, and what follows from it. -/
theorem exists_of_connection {result : EStateM.Result CoreError InitialState InitialMode}
    {serverId : String} {P Q : BackendBridge → InitialState → Prop} [∀ b s, Decidable (P b s)]
    (h : (connection result).any (fun r => decide (r.2.1 = serverId ∧ P r.1 r.2.2)) = true)
    (hQ : ∀ backend s, result = .ok (.connected (.backend backend) serverId) s → P backend s →
      Q backend s) :
    ∃ backend s, result = .ok (.connected (.backend backend) serverId) s ∧ Q backend s := by
  obtain ⟨⟨backend, id, s⟩, hconnection, hdecided⟩ := (Option.any_eq_true _ _).mp h
  obtain ⟨rfl, hP⟩ := of_decide_eq_true hdecided
  have hresult : result = .ok (.connected (.backend backend) id) s := by
    unfold connection at hconnection
    split at hconnection <;> cases hconnection
    rfl
  exact ⟨backend, s, hresult, hQ backend s hresult hP⟩

/-- A proxy with these limbo handlers. -/
def limboServices (limboRegistry : List String) : LoginServices :=
  { plainSession with
    limboRegistry
    reasonTexts := ⟨id, fun _ => []⟩
    errorText _ := ""
    mojangAuth := ClientBridge.openAuth
    aes _ _ := 0 }

/-- `Steve` logs in. -/
def steveRequest (version : ProtocolVersion) : LoginRequest where
  handshake := (steve version).handshake
  rawHandshake := []
  rawPackets := []
  login := some ⟨"Steve", some 1#128⟩
  peerIp := .v4 0xC0A80114#32
  clientIp := .v4 0xC0A80114#32

/-- What the plugins answer, and what the backend sends. The cache has nothing. -/
def steveWorld (choose : ChooseInitialServerResult) (preConnect : ServerPreConnectResult)
    (incoming : Bytes) : InitialWorld :=
  let preparation : PreparationWorld :=
    { codecCache := ⟨fun _ => none, fun _ => .ok [], fun _ => .ok none⟩
      knownPacksTurns := 1, finishTurns := 1 }
  { choose, preConnect, denial := "", preparation, connect _ := .ok (streamSending incoming)
    loginTurns := 1, fallback := preparation }

/-- The routing to `lobby`, with these limbo handlers. -/
def lobbyRouting (limboHandlers : List String) : RoutingData where
  serverConfig := { name := some "lobby", addresses := [⟨"10.0.1.10", 25565⟩], limboHandlers }
  configId := "lobby"

/-- The state in which `resolve_initial_mode` finds a client that sends these bytes, after the
authentication. -/
def authenticated (version : ProtocolVersion) (incoming : Bytes) : InitialState where
  client := .new plainServices.deflate plainServices.inflate (streamSending incoming) [] version
  loginCompleted := false
  dials := []
  announced := []

/-- A plugin redirects a player of `lobby` to `survival`. The proxy says that the player is on
`survival`, and has connected them to `lobby`. -/
theorem redirected_elsewhere :
    ∃ backend s', resolveInitialMode (limboServices []) (steveRequest .V1_21)
        (.offline 1#128 "Steve") (lobbyRouting []) (steveWorld (.redirect "survival") .allowed [])
        (authenticated .V1_21 []) = .ok (.connected (.backend backend) "survival") s' ∧
      s'.announced = ["survival"] ∧ s'.dials = [lobbyRouting []] ∧
      selectedServer (lobbyRouting []) (steveWorld (.redirect "survival") .allowed [])
        = "survival" := by
  refine exists_of_connection ?_ fun _ _ _ h => h
  decide

/-- Without a redirection the server is `lobby` throughout. -/
theorem one_server_allowed :
    ∃ backend s', resolveInitialMode (limboServices []) (steveRequest .V1_21)
        (.offline 1#128 "Steve") (lobbyRouting []) (steveWorld .allowed .allowed [])
        (authenticated .V1_21 []) = .ok (.connected (.backend backend) "lobby") s' ∧
      OneServer "lobby" (authenticated .V1_21 []) s' "lobby" := by
  refine exists_of_connection (P := fun _ _ => True) ?_ fun backend s' hresult _ => ?_
  · decide
  · exact (one_server_iff hresult).mpr ⟨nofun, nofun⟩

/-! ### The states of the two connections -/

/-- What the client of a 1.21 login sends to get into a limbo: the acknowledgements of the login
and of the configuration. -/
def intoLimbo : Bytes := [0x01, 0x03, 0x01, 0x03]

/-- The LoginSuccess of a backend. -/
def loginSuccess : Bytes := [0x01, 0x02]

end Intercepted

end Infrarust
