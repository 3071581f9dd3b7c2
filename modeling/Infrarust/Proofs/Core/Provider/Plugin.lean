import Infrarust.Plugins.AdminApi.Servers
import Infrarust.Proofs.Config.Server
import Infrarust.Proofs.Core.Provider.File

/-!
# `Infrarust.Proofs.Core.Provider.Plugin`: are the configurations of the router valid?

The file provider validates what it loads, and the Docker provider what it builds from labels.
The adapter of the plugins validates nothing, so a plugin's configuration gets into the router as
it is. `stored_valid` is about the runs in which every configuration that a plugin hands over
passes the validation: whatever the router has, in every state, passes it too. The invariant
covers what is on its way, in the channel and behind it.

The REST interface of the admin plugin has checks of its own, but a domain can be blank:
`blank_domain_stored` is a request that is accepted and leads to a router with an invalid
configuration.
-/

set_option autoImplicit false

namespace Infrarust

open Machine List

/-! ### What the providers hand over -/

/-- The configuration that an event brings is valid. -/
def ProviderEvent.Valid : ProviderEvent → Prop
  | .added pc | .updated pc => pc.config.Valid
  | .removed _ => True

variable {pc : ProviderConfig} {router' : DomainRouter} {event : ProviderEvent} {s : ProviderSystem}
  {config : ApiServerConfig}

section File

variable {parse : String → Option ServerConfig} {dir : Directory}

variable {config : ServerConfig} {event : ProviderEvent}

/-- An id does not make a configuration invalid. -/
theorem ServerConfig.Valid.withId (h : config.Valid) (id) : ServerConfig.Valid { config with id } :=
  ⟨h.hasDomain, h.noNetwork, h.hasAddress, h.domainsNotBlank, h.nameOk, h.networkOk⟩

/-- The file provider validates before it sets the id. -/
theorem loadServerConfig_valid {entry} (h : loadServerConfig parse entry = .ok config) :
    config.Valid := by
  rw [loadServerConfig] at h
  cases hcont : entry.content with
  | none =>
    rw [hcont] at h
    cases h
  | some content =>
    rw [hcont] at h
    dsimp only at h
    cases hparse : parse content with
    | none =>
      rw [hparse] at h
      cases h
    | some parsed =>
      rw [hparse] at h
      obtain ⟨hok, h⟩ := Check.seq_ok_iff.mp h
      have hval : parsed.Valid := (validateServerConfig_ok_iff parsed).mp hok
      split at h <;> cases h
      case h_1 => exact hval.withId _
      case h_2 => exact hval

theorem doLoadInitial_valid (h : pc ∈ doLoadInitial parse dir) : pc.config.Valid := by
  obtain ⟨name, ⟨entry, -, -, -, hload⟩, -⟩ := mem_doLoadInitial.mp h
  exact loadServerConfig_valid hload

/-- The events of a difference bring configurations that were just loaded. -/
theorem computeDiff_valid {currentOrder knownOrder known}
    (h : event ∈ (computeDiff parse currentOrder knownOrder dir known).1) : event.Valid := by
  obtain ⟨names, -, -, hevents, -⟩ := computeDiff_spec parse currentOrder knownOrder dir known
  rw [hevents] at h
  obtain ⟨name, -, hchg⟩ := mem_filterMap.mp h
  obtain ⟨-, rfl⟩ | ⟨config, hnew, hkind⟩ := changeEvent_cases hchg
  · trivial
  · have hval : config.Valid := by
      obtain ⟨maybeConfig, hget, hcfg⟩ := Option.bind_eq_some_iff.mp hnew
      cases maybeConfig with
      | none =>
        -- a file that cannot be loaded has no event
        have hsame : known.lookup name = dir.scanned parse known name := hcfg.trans hnew.symm
        rw [changeEvent_eq_none.mpr hsame] at hchg
        cases hchg
      | some loaded =>
        cases hcfg
        rw [currentFiles, Dict.lookup_collect dir.nodup] at hget
        obtain ⟨entry, -, -, hvalue⟩ := hget
        split at hvalue
        case isFalse => cases hvalue
        case isTrue =>
          cases hload : loadServerConfig parse entry with
          | error e =>
            rw [hload] at hvalue
            cases hvalue
          | ok loaded =>
            rw [hload] at hvalue
            cases hvalue
            exact loadServerConfig_valid hload
    obtain rfl | ⟨rfl, -⟩ := hkind <;> exact hval

end File

theorem inspectAndBuild_valid {toConfig name info} (h : inspectAndBuild toConfig name info = some pc) :
    pc.config.Valid := by
  rw [inspectAndBuild] at h
  split at h
  case isFalse => cases h
  case isTrue =>
    dsimp only at h
    split at h <;> cases h
    case h_2 hok => exact (validateServerConfig_ok_iff _).mp hok

/-! ### What the router stores -/

/-- Every configuration of the router is valid. -/
def DomainRouter.AllValid (router : DomainRouter) : Prop :=
  ∀ id config, router.Holds id config → config.Valid

variable {parse : String → Option ServerConfig}
variable {toConfig : String → ContainerInfo → ServerConfig} {strings : Strings}

namespace DomainRouter

theorem new_allValid : AllValid new := by
  rintro id config ⟨entry, hent, -⟩
  cases hent

variable {router : DomainRouter}

/-- What is added is all that can be new. -/
theorem AllValid.add (h : router.AllValid) {config : ServerConfig} (hcfg : config.Valid)
    (order id) :
    AllValid (router.add strings order id config) := by
  rintro j stored ⟨entry, hent, rfl⟩
  rw [add_configs_lookup] at hent
  split at hent
  case isTrue =>
    cases hent
    exact hcfg
  case isFalse => exact h j entry.config ⟨entry, hent, rfl⟩

theorem AllValid.remove (h : router.AllValid) (order id) : AllValid (router.remove order id) := by
  rintro j stored ⟨entry, hent, rfl⟩
  rw [remove_configs_lookup] at hent
  split at hent
  case isTrue => cases hent
  case isFalse => exact h j entry.config ⟨entry, hent, rfl⟩

/-- One turn of the event loop. -/
theorem AllValid.eventStep (h : router.AllValid) (hstep : EventStep strings router event router')
    (hev : event.Valid) : router'.AllValid := by
  obtain ⟨removeOrder, addOrder, rfl⟩ := hstep
  cases event with
  | added pc => exact h.add hev addOrder pc.id
  | updated pc => exact (h.remove removeOrder pc.id).add hev addOrder pc.id
  | removed id => exact h.remove removeOrder id

/-- An initial load. -/
theorem AllValid.load {configs : List ProviderConfig} (h : router.AllValid)
    (hcfgs : ∀ pc ∈ configs, pc.config.Valid)
    (hrun : Run (EventStep strings) router (configs.map .added) router') :
    router'.AllValid := by
  induction configs generalizing router with
  | nil =>
    cases hrun
    exact h
  | cons pc configs ih =>
    cases hrun with
    | cons hfst hrest =>
      obtain ⟨hpc, hcfgs⟩ := forall_mem_cons.mp hcfgs
      exact ih (h.eventStep hfst hpc) hcfgs hrest

end DomainRouter

/-! ### Runs -/

/-- The configuration that a plugin hands over passes the validation. -/
def ApiServerConfig.Passes (config : ApiServerConfig) : Prop :=
  validateServerConfig (convertApiToConfig config) = .ok ()

/-- What a plugin hands over in a step passes the validation. -/
def ProviderLabel.Passes : ProviderLabel → Prop
  | .pluginLoad _ _ config => config.Passes
  | .pluginSend _ _ (.added config) => config.Passes
  | .pluginSend _ _ (.updated config) => config.Passes
  | _ => True

namespace ProviderSystem

/-- Everything in the router is valid, and everything on its way there. -/
structure Inv (s : ProviderSystem) : Prop where
  stored : s.router.AllValid
  channel : ∀ event ∈ s.channel, event.Valid
  unsent : ∀ event ∈ s.fileUnsent, event.Valid

theorem init_inv : Inv init where
  stored := DomainRouter.new_allValid
  channel _ hev := absurd hev not_mem_nil
  unsent _ hev := absurd hev not_mem_nil

theorem Inv.send (h : s.Inv) (hev : event.Valid) : Inv (s.send event) where
  stored := h.stored
  channel := by
    intro e he
    rcases mem_append.mp he with he | he
    · exact h.channel e he
    · obtain rfl := mem_singleton.mp he
      exact hev
  unsent := h.unsent

/-- The event of a plugin is as valid as its configuration. -/
theorem toCore_valid {event pluginId providerType origin}
    (h : (ProviderLabel.pluginSend pluginId providerType event).Passes) :
    (event.toCore origin).Valid := by
  cases event with
  | added config | updated config => exact (validateServerConfig_ok_iff _).mp h
  | removed serverId => trivial

theorem Inv.step {s' : ProviderSystem} {label : ProviderLabel} (h : s.Inv) (hlabel : label.Passes)
    (hstep : Step parse toConfig strings s label s') : s'.Inv := by
  cases label with
  | fileLoad dir =>
    obtain ⟨router, hrun, rfl⟩ := hstep
    exact ⟨h.stored.load (fun _ => doLoadInitial_valid) hrun, h.channel, h.unsent⟩
  | fileWatch dir =>
    obtain rfl := hstep
    exact { h with }
  | fileScan currentOrder knownOrder dir =>
    obtain ⟨-, rfl⟩ := hstep
    exact ⟨h.stored, h.channel, fun _ => computeDiff_valid⟩
  | fileSend =>
    obtain ⟨event, unsent, hunsent, rfl⟩ := hstep
    have hall : ∀ e ∈ event :: unsent, e.Valid := hunsent ▸ h.unsent
    obtain ⟨hev, hrest⟩ := forall_mem_cons.mp hall
    have hsent := h.send hev
    exact ⟨hsent.stored, hsent.channel, hrest⟩
  | dockerLoad inspected =>
    obtain ⟨router, hrun, rfl⟩ := hstep
    refine ⟨h.stored.load (fun pc hpc => ?_) hrun, h.channel, h.unsent⟩
    obtain ⟨⟨name, info⟩, -, hbuilt⟩ := mem_filterMap.mp hpc
    exact inspectAndBuild_valid hbuilt
  | dockerInspect name info =>
    unfold Step at hstep
    dsimp only at hstep
    split at hstep
    case h_1 =>
      obtain rfl := hstep
      exact h
    case h_2 pc hbuilt =>
      obtain rfl := hstep
      have hpc := inspectAndBuild_valid hbuilt
      have hev : (dockerEvent s.dockerKnown pc).Valid := by
        rw [dockerEvent]
        split <;> exact hpc
      have hsent := h.send hev
      exact { hsent with }
  | dockerGone name =>
    unfold Step at hstep
    dsimp only at hstep
    split at hstep
    case isTrue =>
      obtain rfl := hstep
      have hev : (ProviderEvent.removed (.docker name)).Valid := trivial
      have hsent := h.send hev
      exact { hsent with }
    case isFalse =>
      obtain rfl := hstep
      exact h
  | pluginLoad pluginId providerType config =>
    obtain ⟨router, hadd, rfl⟩ := hstep
    have hval := (validateServerConfig_ok_iff _).mp hlabel
    exact ⟨h.stored.eventStep hadd hval, h.channel, h.unsent⟩
  | pluginSend pluginId providerType event =>
    obtain rfl := hstep
    exact h.send (toCore_valid hlabel)
  | handle =>
    obtain ⟨event, rest, router, hchan, hturn, rfl⟩ := hstep
    have hall : ∀ e ∈ event :: rest, e.Valid := hchan ▸ h.channel
    obtain ⟨hev, hrest⟩ := forall_mem_cons.mp hall
    exact ⟨h.stored.eventStep hturn hev, hrest, h.unsent⟩

/-- The steps in which a plugin hands over only what passes the validation. -/
def CheckedStep (parse : String → Option ServerConfig)
    (toConfig : String → ContainerInfo → ServerConfig) (strings : Strings) (s : ProviderSystem)
    (label : ProviderLabel) (s' : ProviderSystem) : Prop :=
  label.Passes ∧ Step parse toConfig strings s label s'

/-- If plugins hand over only what passes the validation, so does everything in the router, in
every state that the loads and events of all providers lead to. -/
theorem stored_valid {labels : List ProviderLabel} {s : ProviderSystem}
    (hrun : Run (CheckedStep parse toConfig strings) init labels s) {id : ProviderId}
    {config : ServerConfig} (hsto : s.router.Holds id config) :
    validateServerConfig config = .ok () := by
  have hinv : s.Inv := hrun.invariant (fun _ _ _ hstep h => h.step hstep.1 hstep.2) init_inv
  exact (validateServerConfig_ok_iff config).mpr (hinv.stored id config hsto)

/-- What an event adds is stored as it is. -/
theorem holds_of_added {router} (h : EventStep strings router (.added pc) router') :
    router'.Holds pc.id pc.config := by
  obtain ⟨removeOrder, addOrder, rfl⟩ := h
  refine ⟨⟨pc.config, pc.config.normalizedDomains strings⟩, ?_, rfl⟩
  show (router.add strings addOrder pc.id pc.config).configs.lookup pc.id = _
  rw [DomainRouter.add_configs_lookup, if_pos rfl]

end ProviderSystem

namespace ProviderSystem

/-! ### A blank domain, and a good one -/

/-- A request for a server under one domain. -/
def lobbyRequest (domain : String) : AdminApi.CreateServerRequest where
  id := "lobby"
  domains := [domain]
  addresses := ["10.0.0.5:25565"]

/-- What the admin plugin makes of the request. -/
def lobbyServer (domain : String) : ApiServerConfig where
  id := "lobby"
  network := none
  addresses := [⟨"10.0.0.5", 25565⟩]
  domains := [domain]
  proxyMode := .passthrough
  limboHandlers := []
  maxPlayers := 0
  disconnectMessage := none
  sendProxyProtocol := false
  hasServerManager := false

/-- The id of the server. -/
def lobbyId : ProviderId := makeProviderId (pluginProviderType "admin_api" "api") "lobby"

/-- The admin plugin sends the new server, and the event loop takes it. -/
def lobbyLabels (domain : String) : List ProviderLabel :=
  [.pluginSend "admin_api" "api" (.added (lobbyServer domain)), .handle]

/-- The two steps, one after the other. -/
theorem lobby_taken (hs : s.channel = []) (domain) :
    ∃ s' s'', s' = s.send (.added ((lobbyServer domain).toProviderConfig lobbyId.providerType)) ∧
      Step parse toConfig strings s' .handle s'' ∧
      s''.router.Holds lobbyId (convertApiToConfig (lobbyServer domain)) := by
  have hturn : EventStep strings s.router
      (.added ((lobbyServer domain).toProviderConfig lobbyId.providerType)) _ :=
    ⟨.entries, .entries, rfl⟩
  refine ⟨_, _, rfl, ⟨_, [], _, ?_, hturn, rfl⟩, holds_of_added hturn⟩
  show s.channel ++ [_] = _
  rw [hs, nil_append]

/-- A request with a blank domain is accepted, and its configuration is in the router. -/
theorem blank_domain_stored :
    AdminApi.create (fun _ => false) (lobbyRequest " ") = .ok (lobbyServer " ") ∧
      ∃ s, Run (Step parseSimpleToml (fun _ _ => { addresses := [] }) asciiStrings) init
          (lobbyLabels " ") s ∧
        ∃ config, s.router.Holds lobbyId config ∧
          validateServerConfig config =
            .error (.validation "server config lobby has an empty domain") := by
  obtain ⟨s', s, hsend, hhdl, hsto⟩ := lobby_taken (s := init) rfl " "
  exact ⟨by decide, s, .cons hsend (.cons hhdl (.nil s)), _, hsto, by decide⟩

/-- A server file and a server of the admin plugin, both of them valid. -/
theorem lobby_stored_valid :
    ∃ s, Run (CheckedStep parseSimpleToml (fun _ _ => { addresses := [] }) asciiStrings)
        init (.fileLoad survivalOnly :: lobbyLabels "lobby.example.com") s ∧
      ∃ config, s.router.Holds lobbyId config ∧ validateServerConfig config = .ok () := by
  have hpasses : (lobbyServer "lobby.example.com").Passes := by
    unfold ApiServerConfig.Passes
    decide
  -- the file is loaded first
  obtain ⟨s', s, hsend, hhdl, hsto⟩ := lobby_taken
    (s := { init with router := loadRouter parseSimpleToml asciiStrings survivalOnly }) rfl
    "lobby.example.com"
  have hrun : Run (CheckedStep parseSimpleToml (fun _ _ => { addresses := [] }) asciiStrings) init
      (.fileLoad survivalOnly :: lobbyLabels "lobby.example.com") s :=
    .cons ⟨trivial, _, starts_loadRouter survivalOnly, rfl⟩
      (.cons ⟨hpasses, hsend⟩ (.cons ⟨trivial, hhdl⟩ (.nil s)))
  exact ⟨s, hrun, _, hsto, stored_valid hrun hsto⟩

end ProviderSystem

end Infrarust
