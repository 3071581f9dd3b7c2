import Infrarust.Proofs.Core.Pipeline

/-!
# `Infrarust.Proofs.Core.Server`: which bans keep a login from a backend

Bans are looked up at three places: the address when a connection is accepted, the address
and the name in the login pipeline, and the address, the name and the UUID after the
authentication of the intercepted modes. A legacy login passes the first one only, and a
passthrough login the first two, so a ban on the name or on the UUID does not stop them
(`unchecked_ban_ignored`). `bans_enforced_iff` says for every connection, mode and state of the
bans whether a ban that is there all the time keeps the proxy from opening a backend.
-/

set_option autoImplicit false

namespace Infrarust

open ConnEvent

variable {strings : Strings}

/-! ### The identity a login is handled under -/

/-- The UUID that an event registers or forwards. -/
def ConnEvent.uuid : ConnEvent → Option Uuid
  | .register profile => some profile.uuid
  | .forward uuid => some uuid
  | _ => none

/-- No other UUID than the given one is registered or forwarded. -/
def OnlyAs (uuid : Uuid) (events : List ConnEvent) : Prop :=
  ∀ event ∈ events, ∀ u ∈ event.uuid, u = uuid

section Identity

variable {env : ProxyEnv} {uuid : Uuid} {event : ConnEvent} {events events' : List ConnEvent}

@[simp] theorem onlyAs_nil : OnlyAs uuid [] := by simp [OnlyAs]

@[simp] theorem onlyAs_cons :
    OnlyAs uuid (event :: events) ↔ (∀ u ∈ event.uuid, u = uuid) ∧ OnlyAs uuid events := by
  simp [OnlyAs]

@[simp] theorem onlyAs_append :
    OnlyAs uuid (events ++ events') ↔ OnlyAs uuid events ∧ OnlyAs uuid events' := by
  simp only [OnlyAs, List.forall_mem_append]

/-- The profile of an authenticated player has the player's UUID, and so has the login packet
as long as the proxy has not completed the login itself. -/
structure AuthResult.Coherent (auth : AuthResult) (login : Option LoginData) : Prop where
  profile : auth.apiProfile.uuid = auth.playerUuid
  packet : auth.loginCompleted = false → ∀ u ∈ login.bind (·.playerUuid), u = auth.playerUuid

variable {freshUuid : Uuid} {auth : AuthResult} {login : Option LoginData}

theorem runMojangAuthFlow_coherent (h : runMojangAuthFlow env freshUuid = .ok auth) :
    auth.Coherent login := by
  rw [runMojangAuthFlow] at h
  cases hprof : env.mojang with
  | error e => rw [hprof] at h; cases h
  | ok profile =>
    rw [hprof] at h
    cases h
    exact ⟨rfl, nofun⟩

theorem offline_coherent {other username} :
    (AuthResult.offline ((login.bind (·.playerUuid)).getD other) username).Coherent login := by
  refine ⟨rfl, fun _ u hu => ?_⟩
  rw [hu]
  rfl

theorem authenticate_coherent {offlineUuid} {strategy : AuthStrategy}
    (h : strategy.authenticate env offlineUuid freshUuid login = .ok auth) :
    auth.Coherent login := by
  cases strategy with
  | mojang =>
    cases login with
    | none => cases h
    | some login =>
      simp only [AuthStrategy.authenticate] at h
      split at h
      · cases h
      · cases h
        show (AuthResult.offline (((some login).bind (·.playerUuid)).getD _) _).Coherent _
        exact offline_coherent
      · exact runMojangAuthFlow_coherent h
  | offline hasMojang =>
    simp only [AuthStrategy.authenticate] at h
    split at h
    · cases h
    · split at h
      · split at h
        · exact runMojangAuthFlow_coherent h
        · cases h
      · cases h; exact offline_coherent
    · cases h; exact offline_coherent

variable {auth : AuthResult} {routing : RoutingData} {login : Option LoginData}
  {loginCompleted : Bool}

theorem prepareClientForLimbo_onlyAs : OnlyAs uuid (prepareClientForLimbo env).1 := by
  rw [prepareClientForLimbo]
  split <;> simp [ConnEvent.uuid]

/-- A backend is told the player's UUID. -/
theorem connectToBackend_onlyAs
    (h : loginCompleted = false → ∀ u ∈ login.bind (·.playerUuid), u = auth.playerUuid) :
    OnlyAs auth.playerUuid (connectToBackend env auth loginCompleted routing login).1 := by
  rw [connectToBackend]
  split
  · cases loginCompleted with
    | true =>
      simp only [if_true, true_and]
      split_ifs <;> simp [ConnEvent.uuid]
    | false =>
      have hpkt := h rfl
      cases hsent : login.bind (·.playerUuid) with
      | none => simp [uuid]
      | some u =>
        have hu : u = auth.playerUuid := hpkt u hsent
        simp [uuid, hu]
  · simp [uuid]

theorem connectOrLimbo_onlyAs
    (h : loginCompleted = false → ∀ u ∈ login.bind (·.playerUuid), u = auth.playerUuid) :
    OnlyAs auth.playerUuid (connectOrLimbo env auth loginCompleted routing login).1 := by
  have hconn : OnlyAs auth.playerUuid
      (connectToBackend env auth loginCompleted routing login).1 := connectToBackend_onlyAs h
  have hprepare : OnlyAs auth.playerUuid (prepareClientForLimbo env).1 :=
    prepareClientForLimbo_onlyAs
  rw [connectOrLimbo]
  dsimp only
  split_ifs <;> simp [hconn, hprepare, ConnEvent.uuid]

theorem enterLimbo_onlyAs {resolved} : OnlyAs uuid (enterLimbo env resolved).1 := by
  have hprepare : OnlyAs uuid (prepareClientForLimbo env).1 := prepareClientForLimbo_onlyAs
  rw [enterLimbo]
  dsimp only
  split_ifs <;> simp [hprepare, ConnEvent.uuid]

theorem resolveInitialMode_onlyAs (h : auth.Coherent login) :
    OnlyAs auth.playerUuid (resolveInitialMode env auth routing login).1 := by
  rw [resolveInitialMode]
  split
  · exact enterLimbo_onlyAs
  all_goals
    split
    · simp [ConnEvent.uuid]
    · exact enterLimbo_onlyAs
    all_goals
      dsimp only
      split_ifs
      · exact connectOrLimbo_onlyAs h.packet
      · exact prepareClientForLimbo_onlyAs
      · exact prepareClientForLimbo_onlyAs
      · exact onlyAs_append.mpr ⟨prepareClientForLimbo_onlyAs, connectOrLimbo_onlyAs nofun⟩

/-- A passthrough login is handled under the UUID of its login packet, or a fresh one. -/
theorem passthroughHandle_onlyAs :
    OnlyAs ((login.bind (·.playerUuid)).getD freshUuid)
      (passthroughHandle env freshUuid routing login) := by
  rw [passthroughHandle]
  split
  · simp [uuid]
  · split_ifs <;> simp [uuid]

theorem legacyHandle_onlyAs {client} : OnlyAs uuid (legacyHandle strings env client) := by
  cases client with
  | legacyPing hostname =>
    show OnlyAs uuid (legacyPing strings env hostname)
    unfold legacyPing
    split
    · split <;> simp [ConnEvent.uuid]
    · simp
  | legacyLogin handshake =>
    show OnlyAs uuid (legacyLogin strings env handshake)
    unfold legacyLogin
    split
    · simp
    · split
      · simp [ConnEvent.uuid]
      · split_ifs <;> simp [ConnEvent.uuid]
  | modern handshake start => exact onlyAs_nil

end Identity

/-! ### Opened backends -/

/-- A backend is opened, other than to answer a ping. -/
def Opened (events : List ConnEvent) : Prop :=
  ∃ purpose serverId, purpose ≠ .ping ∧ .connect purpose serverId true ∈ events

variable {start : Except CoreError LoginData}

section Opened

variable {env : ProxyEnv} {offlineUuid : String → Uuid} {bans : Checkpoint → BanView}

theorem not_opened_nil : ¬Opened [] := by simp [Opened]

theorem not_opened_kick {reason} : ¬Opened [.kick reason] := by simp [Opened]

theorem legacyHandle_opened {client} (h : Opened (legacyHandle strings env client)) :
    ∃ handshake, client = .legacyLogin (.ok handshake) ∧
      (env.router.resolve strings (strings.toLowercase handshake.hostname)).isSome := by
  cases client with
  | legacyPing hostname =>
    replace h : Opened (legacyPing strings env hostname) := h
    unfold legacyPing at h
    split at h
    · split at h <;> simp [Opened] at h
    · exact absurd h not_opened_nil
  | legacyLogin handshake =>
    replace h : Opened (legacyLogin strings env handshake) := h
    cases handshake with
    | error e => exact absurd h not_opened_nil
    | ok handshake =>
      refine ⟨handshake, rfl, ?_⟩
      by_contra hnone
      rw [Option.not_isSome_iff_eq_none] at hnone
      rw [legacyLogin, hnone] at h
      exact absurd h not_opened_kick
  | modern handshake start => exact absurd h not_opened_nil

variable {strategy : AuthStrategy} {freshUuid : Uuid} {routing : RoutingData}
  {login : Option LoginData}

/-- A login of an intercepted mode is handled under the UUID of the authentication. -/
theorem interceptedHandle_onlyAs {view ip auth}
    (hauth : strategy.authenticate env offlineUuid freshUuid login = .ok auth) :
    OnlyAs auth.playerUuid (interceptedHandle strings env offlineUuid view strategy ip freshUuid
      routing login) := by
  have hcoherent := authenticate_coherent hauth
  have hmode : OnlyAs auth.playerUuid (resolveInitialMode env auth routing login).1 :=
    resolveInitialMode_onlyAs hcoherent
  rw [interceptedHandle, hauth]
  dsimp only
  split
  · simp [uuid]
  · split_ifs
    · have hsess : OnlyAs auth.playerUuid
          (env.sessionConnects.map fun serverId => .connect .session serverId true) := by
        simp [OnlyAs, uuid]
      simp [hmode, hsess, uuid, hcoherent.profile]
    · exact hmode

/-- A login of an intercepted mode gets to a backend only under a UUID that the last check
finds no ban on. -/
theorem interceptedHandle_opened {view ip}
    (h : Opened (interceptedHandle strings env offlineUuid view strategy ip freshUuid routing
      login)) :
    ∃ uuid, OnlyAs uuid (interceptedHandle strings env offlineUuid view strategy ip freshUuid
      routing login) ∧ ¬view.Banned strings (.uuid uuid) := by
  cases hauth : strategy.authenticate env offlineUuid freshUuid login with
  | error e =>
    rw [interceptedHandle, hauth] at h
    split_ifs at h
    · exact absurd h not_opened_kick
    · exact absurd h not_opened_nil
  | ok auth =>
    refine ⟨auth.playerUuid, interceptedHandle_onlyAs hauth, ?_⟩
    rw [interceptedHandle, hauth] at h
    dsimp only at h
    split at h
    case h_1 => exact absurd h not_opened_kick
    case h_2 hnone =>
      -- the check that was passed is the one on the UUID everything is done under
      obtain ⟨-, -, huuid⟩ := checkPlayer_fst_eq_none.mp hnone
      exact huuid _ rfl

/-- The modes whose handler authenticates the player and looks up bans again. `full` is not
among them: it counts as intercepted (`isIntercepted`) but falls back on passthrough. -/
def ProxyMode.authenticates : ProxyMode → Bool
  | .offline | .clientOnly => true
  | .passthrough | .zeroCopy | .serverOnly | .full => false

/-- What is known of a modern login that gets to a backend. -/
structure Admitted (strings : Strings) (bans : Checkpoint → BanView) (conn : Connection)
    (login : LoginData) (mode : ProxyMode) (events : List ConnEvent) : Prop where
  ip : ¬(bans .login).Banned strings (.ip conn.clientIp)
  username : ¬(bans .login).Banned strings (.username login.username)
  /-- The authenticating modes have checked the UUID of the player, the others go by the
  login packet. -/
  uuid : if mode.authenticates then
      ∃ uuid, OnlyAs uuid events ∧ ¬(bans .postAuth).Banned strings (.uuid uuid)
    else OnlyAs (login.playerUuid.getD conn.freshUuid) events

/-- A modern login that is routed to a server whose filter lets the address pass. -/
structure Routed (strings : Strings) (router : DomainRouter) (conn : Connection)
    (handshake : Handshake) (login : LoginData) (id : ProviderId) (config : ServerConfig) :
    Prop where
  client : conn.client = .modern (.ok handshake) (.ok login)
  state : handshake.nextState = .login
  resolve : router.resolve strings (strings.toLowercase
    (normalizeHandshake handshake.serverAddress)) = some (id, config)
  allowed : config.ipFilter.all (·.isAllowed conn.clientIp) = true

variable {conn : Connection}

theorem handleLogin_opened {ctx handshake}
    (h : Opened (handleLogin strings env offlineUuid bans conn.freshUuid ctx))
    (hip : ctx.clientIp = conn.clientIp) (hcl : ctx.client = .modern handshake start)
    (hrting : ctx.routing = some routing) :
    ∃ login, start = .ok login ∧ Admitted strings bans conn login routing.serverConfig.proxyMode
      (handleLogin strings env offlineUuid bans conn.freshUuid ctx) := by
  rw [handleLogin] at h ⊢
  split at h
  case h_1 => exact absurd h not_opened_nil
  case h_2 => exact absurd h not_opened_nil
  case h_3 => exact absurd h not_opened_kick
  case h_4 hpass =>
    obtain ⟨login, rfl, rfl, hlogin, hname⟩ := loginPipeline_proceed hcl hpass
    refine ⟨login, rfl, hip ▸ hlogin, hname, ?_⟩
    -- from here on the mode of the server decides which handler runs
    rw [routeByMode, hrting] at h ⊢
    dsimp only at h ⊢
    cases hmode : routing.serverConfig.proxyMode <;> rw [hmode] at h
    case offline => exact interceptedHandle_opened h
    case clientOnly => exact interceptedHandle_opened h
    all_goals exact passthroughHandle_onlyAs

/-- Every way from an accepted connection to a backend, with the checks on it. -/
theorem handleConnection_opened (h : Opened (handleConnection strings env offlineUuid bans conn)) :
    ¬(bans .accept).Banned strings (.ip conn.clientIp) ∧
      ((∃ handshake, conn.client = .legacyLogin (.ok handshake) ∧
        (env.router.resolve strings (strings.toLowercase handshake.hostname)).isSome ∧
        ∀ uuid, OnlyAs uuid (handleConnection strings env offlineUuid bans conn)) ∨
      ∃ handshake login id config, Routed strings env.router conn handshake login id config ∧
        Admitted strings bans conn login config.proxyMode
          (handleConnection strings env offlineUuid bans conn)) := by
  rw [handleConnection] at h ⊢
  split at h
  case h_1 => exact absurd h not_opened_nil
  case h_2 hcut =>
    -- only a legacy client is handled after a short circuit
    obtain rfl | ⟨hip, rfl⟩ := commonPipeline_shortCircuit hcut
    · exact absurd h not_opened_nil
    refine ⟨hip, .inl ?_⟩
    obtain ⟨handshake, hcl, hres⟩ := legacyHandle_opened h
    exact ⟨handshake, hcl, hres, fun _ => legacyHandle_onlyAs⟩
  case h_3 =>
    -- a rejected connection is dropped or kicked
    split_ifs at h
    · exact absurd h not_opened_nil
    · exact absurd h not_opened_nil
    · exact absurd h not_opened_kick
  case h_4 hpass =>
    obtain ⟨hip, handshake, start, id, config, hcl, hres, hall, rfl⟩ := commonPipeline_proceed hpass
    refine ⟨hip, .inr ?_⟩
    dsimp only at h ⊢
    split at h
    case h_1 => simp [Opened] at h
    case h_2 hlogin =>
      obtain ⟨login, rfl, hadm⟩ := handleLogin_opened h rfl hcl rfl
      exact ⟨handshake, login, id, config, ⟨hcl, intent_eq_login.mp hlogin, hres, hall⟩, hadm⟩
    case h_3 => exact absurd h not_opened_nil

end Opened

/-! ### Enforcement -/

/-- The target is banned at every moment at which bans are looked up. -/
def BannedThroughout (strings : Strings) (bans : Checkpoint → BanView) (target : BanTarget) :
    Prop :=
  ∀ checkpoint, (bans checkpoint).Banned strings target

/-- The name the client presents. -/
def Connection.username (conn : Connection) : Option String :=
  match conn.client with
  | .legacyLogin (.ok handshake) => some handshake.username
  | .modern _ (.ok login) => some login.username
  | _ => none

/-- A ban on the target is a ban on this connection: on its address, on the name it presents
or on a UUID it is registered or forwarded under. -/
def Connection.Concerns (conn : Connection) (events : List ConnEvent) : BanTarget → Prop
  | .ip addr => addr = conn.clientIp
  | .username name => conn.username = some name
  | .uuid uuid => ∃ event ∈ events, event.uuid = some uuid

section Enforcement

variable (strings : Strings) (offlineUuid : String → Uuid) (router : DomainRouter)
  (bans : Checkpoint → BanView) (conn : Connection)

/-- Whatever the connection meets, no backend is opened for it under a ban that concerns it
and that is there all the time. -/
def BansEnforced : Prop :=
  ∀ env : ProxyEnv, env.router = router → ∀ target,
    conn.Concerns (handleConnection strings env offlineUuid bans conn) target →
    BannedThroughout strings bans target →
    ¬Opened (handleConnection strings env offlineUuid bans conn)

/-- The bans on the connection are ones that are looked up on its way, or there are none: no
ban on the name of a legacy login that is routed, and none on the UUID in the login packet of
a login that is routed to a mode without authentication. A ban that an earlier check finds
is enough. -/
def BansChecked : Prop :=
  match conn.client with
  | .legacyLogin (.ok handshake) =>
    (router.resolve strings (strings.toLowercase handshake.hostname)).isSome →
    ¬(bans .accept).Banned strings (.ip conn.clientIp) →
    ¬BannedThroughout strings bans (.username handshake.username)
  | .modern (.ok handshake) (.ok login) =>
    handshake.nextState = .login →
    ∀ id config, router.resolve strings (strings.toLowercase
      (normalizeHandshake handshake.serverAddress)) = some (id, config) →
    config.ipFilter.all (·.isAllowed conn.clientIp) = true →
    config.proxyMode.authenticates = false →
    ¬(bans .accept).Banned strings (.ip conn.clientIp) →
    ¬(bans .login).Banned strings (.ip conn.clientIp) →
    ¬(bans .login).Banned strings (.username login.username) →
    ¬BannedThroughout strings bans (.uuid (login.playerUuid.getD conn.freshUuid))
  | _ => True

/-- Surroundings in which nothing stands in the way of a login. -/
def ProxyEnv.permissive : ProxyEnv where
  ipFilter := none
  persist := .ok ()
  rateLimitEnabled := false
  withinRateLimit := true
  router := router
  serverManager := none
  dropUnknownDomain := false
  preLogin := .allowed
  chooseInitialServer := .allowed
  preConnect := .allowed
  limboRegistry := []
  limboPreparation := .ready
  mojang := .error .connectionClosed
  connectOk := true
  firstPackets := .exchanged
  sessionConnects := []

end Enforcement

section Permissive

variable {router : DomainRouter} {bans : Checkpoint → BanView} {conn : Connection}
  (offlineUuid : String → Uuid)

variable {ctx : ConnectionContext} {handshake : Handshake} {id : ProviderId} {config : ServerConfig}
  {login : LoginData}

/-- An address that is not banned gets to the parser. -/
theorem permissive_commonPipeline (hip : ¬(bans .accept).Banned strings (.ip ctx.clientIp)) :
    Pipeline.execute (commonPipeline strings (.permissive router) bans) ctx =
      Pipeline.execute [handshakeParserMiddleware strings, rateLimiterMiddleware false true,
        domainRouterMiddleware strings router] ctx := by
  have hban : banIpCheckMiddleware strings (bans .accept) (.ok ()) ctx = .ok (.proceed, ctx) := by
    rw [banIpCheckMiddleware, isBanned_eq_none hip]
    rfl
  exact execute_cons_of_proceed hban

/-- A legacy login from an address that is not banned gets to the backend of its host. -/
theorem permissive_legacyLogin {handshake} (hcl : conn.client = .legacyLogin (.ok handshake))
    (hres : router.resolve strings (strings.toLowercase handshake.hostname) = some (id, config))
    (hip : ¬(bans .accept).Banned strings (.ip conn.clientIp)) :
    handleConnection strings (.permissive router) offlineUuid bans conn =
      [.connect .login config.effectiveId true] := by
  have hparse (rest : List Middleware) (ctx : ConnectionContext) (h : ctx.client = conn.client) :
      Pipeline.execute (handshakeParserMiddleware strings :: rest) ctx =
        .ok (.shortCircuit, { ctx with legacyDetected := true }) := by
    rw [Pipeline.execute, handshakeParserMiddleware, h, hcl]
    rfl
  rw [handleConnection, permissive_commonPipeline hip, hparse _ _ rfl]
  simp only [if_true]
  have hrt : (ProxyEnv.permissive router).router.resolve strings
      (strings.toLowercase handshake.hostname) = some (id, config) := hres
  rw [hcl, legacyHandle, legacyLogin, hrt]
  rfl

/-- A routed handshake passes the rest of the common pipeline. -/
theorem permissive_routed (hcl : ctx.client = .modern (.ok handshake) start)
    (hres : router.resolve strings (HandshakeData.ofHandshake strings handshake).domain =
      some (id, config)) (hall : config.ipFilter.all (·.isAllowed ctx.clientIp) = true) :
    Pipeline.execute [handshakeParserMiddleware strings, rateLimiterMiddleware false true,
      domainRouterMiddleware strings router] ctx = .ok (.proceed, { ctx with
        handshake := some (.ofHandshake strings handshake)
        routing := some ⟨config, config.effectiveId⟩ }) := by
  have hparse : handshakeParserMiddleware strings ctx =
      .ok (.proceed, { ctx with handshake := some (.ofHandshake strings handshake) }) := by
    rw [handshakeParserMiddleware, hcl]
    rfl
  rw [execute_cons_of_proceed hparse, execute_cons_of_proceed rfl]
  refine execute_cons_of_proceed ?_
  rw [domainRouterMiddleware]
  simp only [hres, hall, if_true]

/-- A login whose address and name are not banned passes the login pipeline. -/
theorem permissive_loginPipeline {data handshake}
    (hdata : ctx.handshake = some data) (hcl : ctx.client = .modern handshake (.ok login))
    (hip : ¬(bans .login).Banned strings (.ip ctx.clientIp))
    (hname : ¬(bans .login).Banned strings (.username login.username)) :
    Pipeline.execute (loginPipeline strings (.permissive router) bans) ctx =
      .ok (.proceed, { ctx with login := some login }) := by
  have hparse : loginStartParserMiddleware ctx =
      .ok (.proceed, { ctx with login := some login }) := by
    rw [loginStartParserMiddleware, hcl, hdata]
    rfl
  have hfound : ((bans .login).storage.checkPlayer strings (bans .login).now ctx.clientIp
      login.username none).1 = none :=
    checkPlayer_fst_eq_none.mpr ⟨hip, hname, by simp⟩
  have hcheck : banCheckMiddleware strings (bans .login) { ctx with login := some login } =
      .ok (.proceed, { ctx with login := some login }) := by
    simp only [banCheckMiddleware, hfound]
  refine (execute_cons_of_proceed hparse).trans ?_
  exact execute_cons_of_proceed hcheck

/-- A login that is routed to a mode without authentication gets to the backend under the
UUID of its packet if its address and its name are not banned. -/
theorem permissive_passthrough (hrt : Routed strings router conn handshake login id config)
    (hmode : config.proxyMode.authenticates = false)
    (hip : ¬(bans .accept).Banned strings (.ip conn.clientIp))
    (hlogin : ¬(bans .login).Banned strings (.ip conn.clientIp))
    (hname : ¬(bans .login).Banned strings (.username login.username)) :
    handleConnection strings (.permissive router) offlineUuid bans conn =
      [.connect .login config.effectiveId true, .forward (login.playerUuid.getD conn.freshUuid),
        .register ⟨login.playerUuid.getD conn.freshUuid, login.username, []⟩] := by
  rw [handleConnection, permissive_commonPipeline hip,
    permissive_routed hrt.client hrt.resolve hrt.allowed]
  simp only [intent_eq_login.mpr hrt.state]
  rw [handleLogin, permissive_loginPipeline rfl hrt.client hlogin hname]
  simp only [routeByMode]
  cases hkind : config.proxyMode <;> rw [hkind] at hmode
  case offline => cases hmode
  case clientOnly => cases hmode
  all_goals rfl

end Permissive

variable {offlineUuid : String → Uuid} {router : DomainRouter} {bans : Checkpoint → BanView}
  {conn : Connection}

/-- The two gaps are real: in permissive surroundings a ban that no check asks about does not
stop the login. -/
theorem BansEnforced.checked (henforced : BansEnforced strings offlineUuid router bans conn) :
    BansChecked strings router bans conn := by
  unfold BansChecked
  split
  case h_1 handshake hcl =>
    intro hrt hip hbanned
    obtain ⟨⟨id, config⟩, hres⟩ := Option.isSome_iff_exists.mp hrt
    have hconc : conn.username = some handshake.username := by
      rw [Connection.username, hcl]
    refine henforced (.permissive router) rfl (.username _) hconc hbanned ?_
    rw [permissive_legacyLogin offlineUuid hcl hres hip]
    exact ⟨.login, config.effectiveId, by simp, by simp⟩
  case h_2 handshake login hcl =>
    intro hst id config hres hall hmode hip hlogin hname hbanned
    have hevents := permissive_passthrough offlineUuid ⟨hcl, hst, hres, hall⟩ hmode
      hip hlogin hname
    refine henforced (.permissive router) rfl (.uuid _) ?_ hbanned ?_
    · rw [Connection.Concerns, hevents]
      exact ⟨.forward _, by simp, rfl⟩
    · rw [hevents]
      exact ⟨.login, config.effectiveId, by simp, by simp⟩
  case h_3 => trivial

variable {events : List ConnEvent} {target : BanTarget}

/-- A legacy login that gets to a backend is under no ban it could be stopped by. -/
theorem BansChecked.legacyLogin_enforced {env : ProxyEnv} {handshake}
    (hchk : BansChecked strings env.router bans conn)
    (hcl : conn.client = .legacyLogin (.ok handshake))
    (hrt : (env.router.resolve strings (strings.toLowercase handshake.hostname)).isSome)
    (hip : ¬(bans .accept).Banned strings (.ip conn.clientIp)) (honly : ∀ uuid, OnlyAs uuid events)
    (hconc : conn.Concerns events target) :
    ¬BannedThroughout strings bans target := by
  intro hbanned
  rw [BansChecked, hcl] at hchk
  cases target with
  | ip addr =>
    obtain rfl : addr = conn.clientIp := hconc
    exact hip (hbanned .accept)
  | username name =>
    have hname : conn.username = some name := hconc
    rw [Connection.username, hcl] at hname
    cases hname
    exact hchk hrt hip hbanned
  | uuid uuid =>
    -- no UUID is registered or forwarded
    obtain ⟨event, hmem, huuid⟩ := hconc
    have hzero := honly 0 event hmem uuid huuid
    have hone := honly 1 event hmem uuid huuid
    exact absurd (hzero.symm.trans hone) (by decide)

/-- A modern login that gets to a backend is under no ban it could be stopped by. -/
theorem BansChecked.login_enforced {env : ProxyEnv} {handshake login id config} (hchk : BansChecked strings env.router bans conn)
    (hrt : Routed strings env.router conn handshake login id config)
    (hip : ¬(bans .accept).Banned strings (.ip conn.clientIp))
    (hadm : Admitted strings bans conn login config.proxyMode events)
    (hconc : conn.Concerns events target) :
    ¬BannedThroughout strings bans target := by
  intro hbanned
  cases target with
  | ip addr =>
    obtain rfl : addr = conn.clientIp := hconc
    exact hip (hbanned .accept)
  | username name =>
    have hname : conn.username = some name := hconc
    rw [Connection.username, hrt.client] at hname
    cases hname
    exact hadm.username (hbanned .login)
  | uuid uuid =>
    obtain ⟨event, hmem, huuid⟩ := hconc
    have hid' := hadm.uuid
    cases hmode : config.proxyMode.authenticates with
    | true =>
      -- the last check has asked about the one UUID there is
      rw [hmode] at hid'
      obtain ⟨player, honly, hfree⟩ := hid'
      obtain rfl := honly event hmem uuid huuid
      exact hfree (hbanned .postAuth)
    | false =>
      -- nobody has asked about the UUID of the packet
      rw [hmode] at hid'
      obtain rfl := hid' event hmem uuid huuid
      rw [BansChecked, hrt.client] at hchk
      exact hchk hrt.state id config hrt.resolve hrt.allowed hmode hip
        hadm.ip hadm.username hbanned

/-- A ban that is there all the time keeps a login from a backend exactly if it is one of those
that are looked up on the way of the login. -/
theorem bans_enforced_iff (strings : Strings) (offlineUuid : String → Uuid)
    (router : DomainRouter) (bans : Checkpoint → BanView) (conn : Connection) :
    BansEnforced strings offlineUuid router bans conn ↔ BansChecked strings router bans conn := by
  refine ⟨fun henforced => henforced.checked, ?_⟩
  rintro hchk env rfl target hconc hbanned hopened
  obtain ⟨hip, ⟨handshake, hcl, hrt, honly⟩ | ⟨_, _, _, _, hrt, hadm⟩⟩ :=
    handleConnection_opened hopened
  · exact hchk.legacyLogin_enforced hcl hrt hip honly hconc hbanned
  · exact hchk.login_enforced hrt hip hadm hconc hbanned

/-- One server, in the default mode. -/
def survivalRouter : DomainRouter :=
  DomainRouter.new.add asciiStrings .entries (.file "survival.toml")
    { name := some "survival", domains := ["mc.example.com"], addresses := [⟨"10.0.1.10", 25565⟩] }

/-- A ban by an administrator, for good. -/
def permanentBan (target : BanTarget) : BanEntry :=
  { target := target, reason := some "griefing", expiresAt := none, createdAt := 1700000000
    source := "console" }

def grieferUuid : Uuid := 0x069A79F444E94726A5BEFCA90E38AAF5#128

/-- A name and a UUID are banned at every look. -/
def grieferBans : Checkpoint → BanView := fun _ =>
  { storage := (FileBanStorage.new.addBan asciiStrings (permanentBan (.username "Griefer"))).addBan
      asciiStrings (permanentBan (.uuid grieferUuid))
    now := 1700000600 }

/-- A 1.6 client that logs in with the banned name. -/
def legacyGriefer : Connection :=
  { clientIp := .v4 0xC0A80114#32, freshUuid := 7
    client := .legacyLogin (.ok ⟨78, "Griefer", "mc.example.com", 25565⟩) }

/-- A current client that logs in under another name with the banned UUID. -/
def renamedGriefer : Connection :=
  { clientIp := .v4 0xC0A80114#32, freshUuid := 7
    client := .modern (.ok ⟨⟨765⟩, "mc.example.com", 25565, .login⟩)
      (.ok ⟨"Renamed", some grieferUuid⟩) }

/-- A banned name gets to a backend with a legacy login, and a banned UUID with a login in the
passthrough mode. -/
theorem unchecked_ban_ignored :
    ¬BansEnforced asciiStrings (fun _ => 0) survivalRouter grieferBans legacyGriefer ∧
      ¬BansEnforced asciiStrings (fun _ => 0) survivalRouter grieferBans renamedGriefer := by
  have hbanned : ∀ target, target = .username "Griefer" ∨ target = .uuid grieferUuid →
      BannedThroughout asciiStrings grieferBans target := by
    rintro target (rfl | rfl) checkpoint
    · exact ⟨permanentBan (.username "Griefer"), by cases checkpoint <;> decide, rfl⟩
    · exact ⟨permanentBan (.uuid grieferUuid), by cases checkpoint <;> decide, rfl⟩
  constructor
  · intro h
    refine h (.permissive survivalRouter) rfl (.username "Griefer") rfl
      (hbanned _ (.inl rfl)) ⟨.login, "survival", by decide, ?_⟩
    decide
  · intro h
    refine h (.permissive survivalRouter) rfl (.uuid grieferUuid) ⟨.forward grieferUuid, ?_, rfl⟩
      (hbanned _ (.inr rfl)) ⟨.login, "survival", by decide, ?_⟩
    all_goals decide

end Infrarust
