import Infrarust.Lib.Check
import Infrarust.Plugins.AdminApi.ServerStore
import Infrarust.Proofs.Core.Routing.Table

/-!
# `Infrarust.Proofs.Plugins.AdminApi.ServerStore`: three copies of the API servers

The store, the file and the router are changed one after the other, and nothing keeps two requests
apart. The request that changed the store last may write the file or send its event first. And while
the activation is under way, the configurations are already loaded and the slot of the sender is
still empty: a request that comes to the slot then tells nobody.

`Orderly` excludes just this, and failures of the file. In an orderly run one request at a time has
changed the store and carries it to the file (`Inv`), and the events under way lead from what the
router has to what the store has (`RoutingInv`).
-/

set_option autoImplicit false

namespace Infrarust

open List Check Machine ProviderEvent Dict

/-! ### What events lead to -/

/-- The configuration that the router has under an id. -/
def DomainRouter.configOf (router : DomainRouter) (id : ProviderId) : Option ServerConfig :=
  (router.configs.lookup id).map (·.config)

/-- What an event makes of the configuration under an id. -/
def ProviderEvent.leaves (id : ProviderId) (config : Option ServerConfig)
    (event : ProviderEvent) : Option ServerConfig :=
  if event.id = id then
    match event with
    | .added pc | .updated pc => some pc.config
    | .removed _ => none
  else config

/-- What a sequence of events makes of it. -/
def ProviderEvent.leavesAll (id : ProviderId) (events : List ProviderEvent)
    (config : Option ServerConfig) : Option ServerConfig :=
  events.foldl (leaves id) config

variable {id : ProviderId} {strings : Strings}

theorem ProviderEvent.leaves_of_ne {event : ProviderEvent} (h : event.id ≠ id)
    (config) : event.leaves id config = config :=
  if_neg h

theorem ProviderEvent.leavesAll_append {first second config} :
    leavesAll id (first ++ second) config = leavesAll id second (leavesAll id first config) :=
  foldl_append

theorem DomainRouter.configOf_add (order) (router : DomainRouter) (pc : ProviderConfig) (id) :
    (router.add strings order pc.id pc.config).configOf id =
      (ProviderEvent.added pc).leaves id (router.configOf id) := by
  rw [configOf, add_configs_lookup]
  by_cases hid : pc.id = id
  · rw [if_pos hid.symm, ProviderEvent.leaves, ProviderEvent.id, if_pos hid]
    rfl
  · rw [if_neg (Ne.symm hid), ProviderEvent.leaves, ProviderEvent.id, if_neg hid]
    rfl

theorem DomainRouter.configOf_handleEvent (removeOrder addOrder router event id) :
    (handleEvent strings removeOrder addOrder event router).configOf id =
      event.leaves id (router.configOf id) := by
  by_cases hid : event.id = id
  · subst hid
    cases event with
    | added pc => exact configOf_add addOrder router pc pc.id
    | updated pc =>
      refine (configOf_add addOrder _ pc pc.id).trans ?_
      rw [ProviderEvent.leaves, ProviderEvent.leaves, ProviderEvent.id, if_pos rfl]
      exact (if_pos rfl).symm
    | removed id =>
      rw [configOf, handleEvent, remove_configs_lookup, ProviderEvent.id, if_pos rfl]
      exact (if_pos rfl).symm
  · rw [configOf, handleEvent_configs_of_ne removeOrder addOrder event router (Ne.symm hid),
      leaves_of_ne hid]
    rfl

/-- The configuration has nothing that the file would not keep. -/
structure ApiServerConfig.Plain (config : ApiServerConfig) : Prop where
  network : config.network = none
  maxPlayers : config.maxPlayers = 0
  disconnectMessage : config.disconnectMessage = none
  sendProxyProtocol : config.sendProxyProtocol = false
  hasServerManager : config.hasServerManager = false

namespace AdminApi

open Files (FileSystem Writing)

variable {strings : Strings} {json : ServersJson}

/-! ### The text of a configuration -/

theorem storedAddress_text {address : ServerAddress} :
    storedAddress s!"{address.host}:{address.port}" = some address := by
  have hdigits : ':' ∉ (toString address.port).toList := by
    intro hmem
    have htext : (toString address.port).toList = Nat.toDigits 10 address.port.toNat :=
      Nat.toList_repr
    rw [htext] at hmem
    cases Nat.isDigit_of_mem_toDigits (by decide : 0 < 10) (by decide) hmem
  have htext : (s!"{address.host}:{address.port}").toList =
      address.host.toList ++ ':' :: (toString address.port).toList := by
    show (address.host ++ ":" ++ toString address.port).toList = _
    simp
  rw [storedAddress, Text.rsplitOnce_of_toList htext hdigits]
  simp only [Option.bind_eq_bind, Option.bind_some, String.ofList_toList, Text.parseU16_toString]

theorem storedProxyMode_text {mode} : storedProxyMode (proxyModeStr mode) = mode := by
  cases mode <;> decide

variable {config : ApiServerConfig}

theorem toConfig_fromConfig (h : config.Plain) :
    (StoredServer.fromConfig config).toConfig = config := by
  have haddrs : ((config.addresses.map fun a => s!"{a.host}:{a.port}").filterMap
      storedAddress) = config.addresses := by
    rw [filterMap_map]
    refine (filterMap_congr fun a _ => ?_).trans filterMap_some
    exact storedAddress_text
  cases config with
  | mk id network addresses domains proxyMode limboHandlers maxPlayers disconnectMessage
      sendProxyProtocol hasServerManager =>
    obtain ⟨rfl, rfl, rfl, rfl, rfl⟩ := h
    simp only [StoredServer.toConfig, StoredServer.fromConfig, haddrs, storedProxyMode_text]

theorem plain_of_create {taken req} (h : create taken req = .ok config) : config.Plain := by
  obtain ⟨-, h⟩ := seq_ok_iff.mp h
  obtain ⟨-, h⟩ := test_ok_iff.mp h
  obtain ⟨-, h⟩ := test_ok_iff.mp h
  obtain ⟨-, h⟩ := test_ok_iff.mp h
  obtain ⟨addresses, -, h⟩ := bind_ok_iff.mp h
  obtain ⟨proxyMode, -, h⟩ := bind_ok_iff.mp h
  cases h
  exact ⟨rfl, rfl, rfl, rfl, rfl⟩

theorem plain_of_update {stored id req} (h : update stored id req = .ok config)
    (hsto : ∀ existing, stored = some existing → existing.Plain) : config.Plain := by
  cases stored with
  | none => cases h
  | some existing =>
    obtain ⟨addresses, -, h⟩ := bind_ok_iff.mp h
    obtain ⟨domains, -, h⟩ := bind_ok_iff.mp h
    obtain ⟨proxyMode, -, h⟩ := bind_ok_iff.mp h
    cases h
    have hexisting := hsto existing rfl
    exact { hexisting with }

/-! ### The store and its file -/

variable {disk : FileSystem Unit}

namespace ApiServerStore

/-- Every configuration has its id, and the file would keep it. -/
def Proper (store : ApiServerStore) : Prop :=
  ∀ id config, store.lookup id = some config → config.id = id ∧ config.Plain

/-- The text is one of the store. -/
def Encodes (json : ServersJson) (content : List UInt8) (store : ApiServerStore) : Prop :=
  ∃ stored, json.fromText content = .ok stored ∧
    ∀ id, (stored.foldl (fun servers s => servers.insert s.id s.toConfig)
      (∅ : ApiServerStore)).lookup id = store.lookup id

theorem proper_load : Proper (load json disk) := by
  have hempty : Proper ∅ := fun id config h => by
    cases h
  rw [load]
  split
  · exact hempty
  · split
    case h_1 stored _ =>
      intro id config h
      rcases lookup_foldl_insert_cases StoredServer.id StoredServer.toConfig stored ∅ id with
        ⟨s, -, hid, hget⟩ | ⟨-, hget⟩
      · cases hget.symm.trans h
        exact ⟨hid, rfl, rfl, rfl, rfl, rfl⟩
      · exact hempty id config (hget.symm.trans h)
    case h_2 => exact hempty

variable {store : ApiServerStore} {content : List UInt8}

theorem encodes_stored (h : store.Proper) {order}
    (htext : json.toText (store.stored order) = .ok content) :
    Encodes json content store := by
  refine ⟨_, json.fromText_of_toText htext, fun id => ?_⟩
  have hget := order.lookup_foldl_insert_filter (fun _ => true) StoredServer.fromConfig
    StoredServer.id StoredServer.toConfig
    (fun id config hcfg => ⟨(h id config hcfg).1, toConfig_fromConfig (h id config hcfg).2⟩)
    id
  rw [filter_true, if_pos rfl] at hget
  rw [stored, all, map_map]
  exact hget

theorem lookup_load (hread : disk.read () = some content) (h : Encodes json content store)
    (id) : (load json disk).lookup id = store.lookup id := by
  obtain ⟨stored, htext, hget⟩ := h
  simp only [load, hread, htext]
  exact hget id

theorem Proper.insert (h : store.Proper) (hplain : config.Plain) :
    Proper (store.insert config.id config) :=
  forall_insert h ⟨rfl, hplain⟩

end ApiServerStore

/-! ### Requests -/

/-- The event that is still to be sent by a request that has changed the store. -/
def Request.event : Request → Option PluginProviderEvent
  | .inserting .. => none
  | .persisting event | .opening _ event | .writing _ event | .sending event => some event

/-- The server that an event is about. -/
def serverId : PluginProviderEvent → String
  | .added config | .updated config => config.id
  | .removed id => id

/-- What an event says that the store has. -/
def told : PluginProviderEvent → Option ApiServerConfig
  | .added config | .updated config => some config
  | .removed _ => none

/-- What the request has of the store, or has written of it. -/
def Request.Carries (json : ServersJson) (store : ApiServerStore) (disk : FileSystem Unit) :
    Request → Prop
  | .inserting .. | .persisting _ => True
  | .opening content _ => store.Encodes json content
  | .writing progress _ => store.Encodes json progress.content ∧ progress.Intact disk ()
  | .sending _ => ∀ id, (ApiServerStore.load json disk).lookup id = store.lookup id

/-- The request has passed its checks, and what it will put into the store is what it will tell. -/
def Request.Admitted : Request → Prop
  | .inserting config event => config.Plain ∧ serverId event = config.id ∧ told event = some config
  | _ => False

theorem Request.Admitted.event_eq_none {state : Request} (h : state.Admitted) :
    state.event = none := by
  cases state with
  | inserting => rfl
  | _ => exact h.elim

namespace ApiSystem

open ProviderEvent (leavesAll leavesAll_append)

variable {system system' : ApiSystem} {store : ApiServerStore} {event : PluginProviderEvent}

/-- No request has changed the store and has an event to send. -/
def Free (system : ApiSystem) : Prop :=
  ∀ request state, system.requests.lookup request = some state → state.event = none
deriving Decidable

def Activation.isLoading : Activation → Bool
  | .loading _ => true
  | _ => false

/-- One request at a time changes the store, the file takes it, and the event is not sent into an
empty slot between the initial load and the `watch`. -/
def Orderly (system : ApiSystem) : Label → Prop
  | .insert _ | .delete _ _ => system.Free
  | .failPersist _ | .failWrite _ => False
  | .send _ => Activation.isLoading system.activation = false
  | _ => True

instance (system : ApiSystem) : DecidablePred system.Orderly := by
  intro label
  unfold Orderly
  cases label <;> infer_instance

/-! ### The router -/

/-- The id of a server in the core. -/
def apiId (id : String) : ProviderId := makeProviderId apiProviderType id

/-- The event is one of another provider. -/
def Foreign (event : ProviderEvent) : Prop := event.id.providerType ≠ apiProviderType

/-- The configurations that the activation adds. -/
def initial (configs : List ApiServerConfig) : List ProviderEvent :=
  configs.map fun config => .added (config.toProviderConfig apiProviderType)

/-- The events lead from what the router has to what the store has, but for the server of an event
that is not sent yet. -/
def Leads (store : ApiServerStore) (unsent : Option PluginProviderEvent) (router : DomainRouter)
    (events : List ProviderEvent) : Prop :=
  ∀ id, (∀ event ∈ unsent, serverId event ≠ id) →
    leavesAll (apiId id) events (router.configOf (apiId id)) =
      (store.lookup id).map convertApiToConfig

/-- What holds of the router. -/
inductive RoutingInv (store : ApiServerStore) (unsent : Option PluginProviderEvent) :
    Activation → DomainRouter → List ProviderEvent → Prop
  | inactive {router channel}
      (hnone : ∀ id, router.configOf (apiId id) = none) (hfor : ∀ e ∈ channel, Foreign e) :
      RoutingInv store unsent .inactive router channel
  | loading {remaining router channel} (hleads : Leads store unsent router (initial remaining))
      (hfor : ∀ e ∈ channel, Foreign e) :
      RoutingInv store unsent (.loading remaining) router channel
  | watching {router channel} (hleads : Leads store unsent router channel) :
      RoutingInv store unsent .watching router channel

theorem leaves_toCore {id config} :
    (event.toCore apiProviderType).leaves (apiId id) config =
      if serverId event = id then (told event).map convertApiToConfig else config := by
  have hid : (event.toCore apiProviderType).id = apiId (serverId event) := by cases event <;> rfl
  by_cases heq : serverId event = id
  · rw [if_pos heq, ← heq]
    cases event <;> exact if_pos rfl
  · refine (leaves_of_ne ?_ config).trans (if_neg heq).symm
    rw [hid]
    exact fun h => heq (congrArg ProviderId.uniqueId h)

theorem Foreign.leaves {event} (h : Foreign event) (id config) : event.leaves (apiId id) config = config :=
  leaves_of_ne (fun heq => h (congrArg ProviderId.providerType heq)) config

/-- The initial load leads to the store. -/
theorem leavesAll_initial (h : store.Proper) {order id} :
    leavesAll (apiId id) (initial (store.all order)) none =
      (store.lookup id).map convertApiToConfig := by
  have hloop : ∀ configs : List ApiServerConfig, (∀ c ∈ configs, store.lookup c.id = some c) →
      ∀ config, leavesAll (apiId id) (initial configs) config =
        if id ∈ configs.map (·.id) then (store.lookup id).map convertApiToConfig else config := by
    intro configs
    induction configs with
    | nil => exact fun _ _ => rfl
    | cons first configs ih =>
      intro hcfgs config
      have hfst := hcfgs first mem_cons_self
      show leavesAll _ (initial configs)
        (((PluginProviderEvent.added first).toCore apiProviderType).leaves (apiId id) config) = _
      rw [ih (fun c hc => hcfgs c (mem_cons_of_mem _ hc)), leaves_toCore]
      by_cases hid : first.id = id
      · subst hid
        simp [serverId, told, hfst]
      · simp [serverId, hid, Ne.symm hid]
  rw [hloop]
  · split
    case isTrue => rfl
    case isFalse hnone =>
      cases hget : store.lookup id with
      | none => rfl
      | some config =>
        refine absurd (mem_map.mpr ⟨config, ?_, (h id config hget).1⟩) hnone
        exact mem_map.mpr ⟨(id, config), order.mem_iter.mpr hget, rfl⟩
  · intro config hcfg
    obtain ⟨⟨id', config'⟩, hent, rfl⟩ := mem_map.mp hcfg
    have hget := order.mem_iter.mp hent
    rw [(h id' config' hget).1]
    exact hget

section Routing

variable {unsent : Option PluginProviderEvent} {activation : Activation} {router : DomainRouter}
  {channel : List ProviderEvent}

/-- The store changes under one id, and the event for it is still to be sent. -/
theorem RoutingInv.change {store' : ApiServerStore}
    (h : RoutingInv store none activation router channel)
    (hstore : ∀ id, id ≠ serverId event → store'.lookup id = store.lookup id) :
    RoutingInv store' (some event) activation router channel := by
  have hleads {events} (h : Leads store none router events) :
      Leads store' (some event) router events := by
    intro id hid
    rw [hstore id (Ne.symm (hid event rfl))]
    exact h id nofun
  cases h with
  | inactive hnone hfor => exact .inactive hnone hfor
  | loading h hfor => exact .loading (hleads h) hfor
  | watching h => exact .watching (hleads h)

theorem RoutingInv.send (h : RoutingInv store (some event) .watching router channel)
    (htold : store.lookup (serverId event) = told event) :
    RoutingInv store none .watching router (channel ++ [event.toCore apiProviderType]) := by
  cases h with
  | watching hleads =>
    refine .watching fun id _ => ?_
    rw [leavesAll_append]
    refine leaves_toCore.trans ?_
    split
    case isTrue hid => rw [← hid, htold]
    case isFalse hid =>
      refine hleads id fun event' heq => ?_
      cases heq
      exact hid

theorem RoutingInv.loadInitial (h : RoutingInv store unsent .inactive router channel)
    (hproper : store.Proper) (order) :
    RoutingInv store unsent (.loading (store.all order)) router channel := by
  cases h with
  | inactive hnone hfor =>
    refine .loading (fun id _ => ?_) hfor
    rw [hnone id]
    exact leavesAll_initial hproper

theorem RoutingInv.addInitial {remaining}
    (h : RoutingInv store unsent (.loading (config :: remaining)) router channel)
    (order) :
    RoutingInv store unsent (.loading remaining)
      (router.add strings order (config.toProviderConfig apiProviderType).id
        (config.toProviderConfig apiProviderType).config) channel := by
  cases h with
  | loading hleads hfor =>
    refine .loading (fun id hid => ?_) hfor
    rw [DomainRouter.configOf_add]
    exact hleads id hid

theorem RoutingInv.setSender (h : RoutingInv store unsent (.loading []) router channel) :
    RoutingInv store unsent .watching router channel := by
  cases h with
  | loading hleads hfor =>
    refine .watching fun id hid => Eq.trans ?_ (hleads id hid)
    -- what is in the channel is not about the servers of the API
    generalize router.configOf (apiId id) = config
    induction channel with
    | nil => rfl
    | cons e channel ih =>
      show leavesAll (apiId id) channel (e.leaves (apiId id) config) = config
      rw [(hfor e mem_cons_self).leaves]
      exact ih fun e' he' => hfor e' (mem_cons_of_mem e he')

theorem RoutingInv.otherSend {event}
    (h : RoutingInv store unsent activation router channel) (hother : Foreign event) :
    RoutingInv store unsent activation router (channel ++ [event]) := by
  have happ (hfor : ∀ e ∈ channel, Foreign e) : ∀ e ∈ channel ++ [event], Foreign e := by
    simpa [or_imp, forall_and] using ⟨hfor, hother⟩
  cases h with
  | inactive hnone hfor => exact .inactive hnone (happ hfor)
  | loading hleads hfor => exact .loading hleads (happ hfor)
  | watching hleads =>
    refine .watching fun id hid => ?_
    rw [leavesAll_append]
    exact (hother.leaves id _).trans (hleads id hid)

theorem RoutingInv.handle {event} (h : RoutingInv store unsent activation router (event :: channel))
    (removeOrder addOrder) :
    RoutingInv store unsent activation
      (handleEvent strings removeOrder addOrder event router) channel := by
  have hcfg id :
      (handleEvent strings removeOrder addOrder event router).configOf (apiId id) =
        event.leaves (apiId id) (router.configOf (apiId id)) :=
    DomainRouter.configOf_handleEvent removeOrder addOrder router event (apiId id)
  cases h with
  | inactive hnone hfor =>
    obtain ⟨hev, hfor⟩ := forall_mem_cons.mp hfor
    refine .inactive (fun id => ?_) hfor
    rw [hcfg, hev.leaves, hnone]
  | loading hleads hfor =>
    -- the activation goes on meanwhile, and the event is none of its own
    obtain ⟨hev, hfor⟩ := forall_mem_cons.mp hfor
    refine .loading (fun id hid => ?_) hfor
    rw [hcfg, hev.leaves]
    exact hleads id hid
  | watching hleads =>
    refine .watching fun id hid => ?_
    rw [hcfg]
    exact hleads id hid

end Routing

/-! ### Orderly runs -/

/-- What holds in every state of an orderly run. `busy` is the request that has changed the store,
with the event that it is still to send. -/
structure Inv (json : ServersJson) (system : ApiSystem) (busy : Option (Nat × PluginProviderEvent)) :
    Prop where
  proper : system.store.Proper
  waiting : ∀ request state, system.requests.lookup request = some state →
    (∀ event, busy ≠ some (request, event)) → state.Admitted
  pending : ∀ request event, busy = some (request, event) →
    ∃ state, system.requests.lookup request = some state ∧ state.event = some event ∧
      state.Carries json system.store system.disk ∧
      system.store.lookup (serverId event) = told event
  written : busy = none →
    ∀ id, (ApiServerStore.load json system.disk).lookup id = system.store.lookup id
  routing : RoutingInv system.store (busy.map Prod.snd) system.activation system.router system.channel

section Requests

variable {busy : Option (Nat × PluginProviderEvent)} {request : Nat} {state state' : Request}
  {disk : FileSystem Unit}

section

variable (h : Inv json system busy)

include h

theorem Inv.busy_eq_none (hfree : system.Free) : busy = none := by
  cases busy with
  | none => rfl
  | some entry =>
    obtain ⟨state, hget, hev, -⟩ := h.pending entry.1 entry.2 rfl
    cases hev.symm.trans (hfree entry.1 state hget)

/-- The request that has changed the store is known by its event. -/
theorem Inv.busy_of_lookup
    (hget : system.requests.lookup request = some state) (hev : state.event = some event) :
    busy = some (request, event) ∧ state.Carries json system.store system.disk ∧
      system.store.lookup (serverId event) = told event := by
  by_cases hbusy : ∃ event', busy = some (request, event')
  · obtain ⟨event', rfl⟩ := hbusy
    obtain ⟨state', hget', hev', hrest⟩ := h.pending request event' rfl
    cases hget.symm.trans hget'
    cases hev.symm.trans hev'
    exact ⟨rfl, hrest⟩
  · have hadm := h.waiting request state hget (not_exists.mp hbusy)
    cases hev.symm.trans hadm.event_eq_none

/-- A request has passed its checks. -/
theorem Inv.admit (hnew : ¬(system.requests.lookup request).isSome) (hst : state.Admitted) :
    Inv json { system with requests := system.requests.insert request state } busy where
  proper := h.proper
  waiting := forall_insert h.waiting fun _ => hst
  pending other event hbusy := by
    obtain ⟨state', hget, hrest⟩ := h.pending other event hbusy
    have hne : other ≠ request := by
      rintro rfl
      exact hnew (Option.isSome_of_eq_some hget)
    exact ⟨state', (AList.lookup_insert_ne hne).trans hget, hrest⟩
  written := h.written
  routing := h.routing

/-- The busy request goes on, or another one becomes it. -/
theorem Inv.become
    (honly : ∀ other event, busy = some (other, event) → other = request) (hproper : store.Proper)
    (hrting : RoutingInv store (some event) system.activation system.router system.channel)
    (hev : state.event = some event) (hcar : state.Carries json store disk)
    (htold : store.lookup (serverId event) = told event) :
    Inv json { system with store, disk, requests := system.requests.insert request state }
      (some (request, event)) where
  proper := hproper
  waiting other state' hget hother := by
    rcases lookup_insert_inv hget with ⟨rfl, -⟩ | ⟨hne, hget⟩
    · exact absurd rfl (hother event)
    · exact h.waiting other state' hget fun event' hbusy => hne (honly other event' hbusy)
  pending := by
    rintro _ _ ⟨⟩
    exact ⟨state, AList.lookup_insert _, hev, hcar, htold⟩
  written := nofun
  routing := hrting

/-- The request that has changed the store takes a step. -/
theorem Inv.progress
    (hget : system.requests.lookup request = some state) (hev : state.event = some event)
    (hev' : state'.event = some event) (hcar : state'.Carries json system.store disk) :
    ∃ busy, Inv json { system with
      disk, requests := system.requests.insert request state' } busy := by
  obtain ⟨rfl, -, htold⟩ := h.busy_of_lookup hget hev
  refine ⟨_, h.become (fun other event' heq => ?_) h.proper h.routing hev' hcar htold⟩
  cases heq
  rfl

/-- A request changes the store. -/
theorem Inv.change (hfree : system.Free) (request : Nat) (hproper : store.Proper)
    (hstore : ∀ id, store.lookup id =
      if id = serverId event then told event else system.store.lookup id) :
    ∃ busy, Inv json { system with
      store, requests := system.requests.insert request (.persisting event) } busy := by
  obtain rfl := h.busy_eq_none hfree
  refine ⟨_, h.become nofun hproper (h.routing.change fun id hid => ?_) rfl trivial ?_⟩
  · rw [hstore, if_neg hid]
  · rw [hstore, if_pos rfl]

/-- The event is sent, or nobody is to be told. -/
theorem Inv.send (hget : system.requests.lookup request = some (.sending event)) {channel}
    (hrting : RoutingInv system.store none system.activation system.router channel) :
    ∃ busy, Inv json { system with requests := system.requests.erase request, channel } busy := by
  obtain ⟨rfl, hcar, -⟩ := h.busy_of_lookup hget rfl
  refine ⟨none, h.proper, fun other state hother _ => ?_, nofun, fun _ => hcar, hrting⟩
  obtain ⟨hne, hother⟩ := lookup_erase_inv hother
  refine h.waiting other state hother fun event' heq => hne ?_
  cases heq
  rfl

end

end Requests

/-- One step. -/
theorem Inv.step {busy label} (h : Inv json system busy) (hord : system.Orderly label)
    (hstep : Step strings json system label system') : ∃ busy, Inv json system' busy := by
  obtain ⟨orders, hstep⟩ := hstep
  have hrting := h.routing
  cases label <;> simp only [ApiSystem.step] at hstep
  case create request body =>
    split at hstep
    case isTrue => cases hstep
    case isFalse hnew =>
      split at hstep <;> cases hstep
      case h_1 config hcreate => exact ⟨busy, h.admit hnew ⟨plain_of_create hcreate, rfl, rfl⟩⟩
      case h_2 => exact ⟨busy, h⟩
  case update request id body =>
    split at hstep
    case isTrue => cases hstep
    case isFalse hnew =>
      split at hstep <;> cases hstep
      case h_1 config hupdate =>
        have hplain := plain_of_update hupdate fun existing hexisting =>
          (h.proper id existing hexisting).2
        exact ⟨busy, h.admit hnew ⟨hplain, rfl, rfl⟩⟩
      case h_2 => exact ⟨busy, h⟩
  case insert request =>
    split at hstep <;> cases hstep
    case h_1 config event hget =>
      obtain rfl := h.busy_eq_none hord
      obtain ⟨hplain, hid, htold⟩ := h.waiting request _ hget nofun
      refine h.change hord request (h.proper.insert hplain) fun id => ?_
      rw [lookup_insert_eq, hid, htold]
  case delete request id =>
    split at hstep
    case isTrue => cases hstep
    case isFalse =>
      split at hstep <;> cases hstep
      case isTrue =>
        refine h.change hord request (fun other config hget => ?_) fun other => ?_
        · exact h.proper other config (lookup_erase_inv hget).2
        · exact lookup_erase_eq ..
      case isFalse => exact ⟨busy, h⟩
  case persist request =>
    split at hstep
    case h_1 event hget =>
      split at hstep <;> cases hstep
      case h_1 content htext =>
        exact h.progress hget rfl rfl (ApiServerStore.encodes_stored h.proper htext)
    case h_2 => cases hstep
  case failPersist => exact hord.elim
  case failWrite => exact hord.elim
  case openFile request =>
    split at hstep <;> cases hstep
    case h_1 content event hget =>
      have henc := (h.busy_of_lookup hget rfl).2.1
      exact h.progress hget rfl rfl ⟨henc, Writing.intact_create system.disk () content⟩
  case write request count =>
    split at hstep <;> cases hstep
    case h_1 progress event hget =>
      obtain ⟨henc, hintact⟩ := (h.busy_of_lookup hget rfl).2.1
      exact h.progress hget rfl rfl ⟨henc, hintact.advance count⟩
  case closeFile request =>
    split at hstep
    case h_1 progress event hget =>
      split at hstep <;> cases hstep
      case isTrue hwrt =>
        obtain ⟨henc, hintact⟩ := (h.busy_of_lookup hget rfl).2.1
        exact h.progress hget rfl rfl
          (ApiServerStore.lookup_load (Writing.read_of_intact hintact hwrt) henc)
    case h_2 => cases hstep
  case send request =>
    split at hstep
    case h_1 event hget =>
      obtain ⟨rfl, -, htold⟩ := h.busy_of_lookup hget rfl
      split at hstep <;> cases hstep
      case h_1 hact =>
        refine h.send hget ?_
        rw [hact] at hrting ⊢
        exact hrting.send htold
      case h_2 hact =>
        -- nothing is loaded yet, so there is nothing to tell
        refine h.send hget ?_
        rw [Orderly] at hord
        generalize system.activation = activation at hrting hact hord ⊢
        cases hrting with
        | inactive hnone hfor => exact .inactive hnone hfor
        | loading => cases hord
        | watching => exact absurd rfl hact
    case h_2 => cases hstep
  case loadInitial =>
    split at hstep <;> cases hstep
    case h_1 hact =>
      rw [hact] at hrting
      exact ⟨busy, { h with routing := hrting.loadInitial h.proper orders.store }⟩
  case addInitial =>
    split at hstep <;> cases hstep
    case h_1 config remaining hact =>
      rw [hact] at hrting
      exact ⟨busy, { h with routing := hrting.addInitial orders.configs }⟩
  case setSender =>
    split at hstep <;> cases hstep
    case h_1 hact =>
      rw [hact] at hrting
      exact ⟨busy, { h with routing := hrting.setSender }⟩
  case otherSend event =>
    split at hstep <;> cases hstep
    case isFalse hother => exact ⟨busy, { h with routing := hrting.otherSend hother }⟩
  case handle =>
    split at hstep <;> cases hstep
    case h_2 event rest hchan =>
      rw [hchan] at hrting
      exact ⟨busy, { h with routing := hrting.handle _ _ }⟩

theorem inv_start {router : DomainRouter} (hrouter : ∀ id, router.configs.lookup (apiId id) = none) :
    Inv json (start json disk router) none where
  proper := ApiServerStore.proper_load
  waiting _ _ h := by cases h
  pending := nofun
  written _ _ := rfl
  routing := by
    refine .inactive (fun id => ?_) fun _ h => absurd h not_mem_nil
    show (router.configs.lookup (apiId id)).map _ = none
    rw [hrouter]
    rfl

/-- All requests are over, the provider is watched, and the event loop has handled every event. -/
structure Settled (system : ApiSystem) : Prop where
  requests : system.requests = ∅
  activation : system.activation = .watching
  channel : system.channel = []

/-- The router and the file have the configurations of the store. -/
def Agree (json : ServersJson) (system : ApiSystem) : Prop :=
  ∀ id, system.router.configOf (apiId id) = (system.store.lookup id).map convertApiToConfig ∧
    (ApiServerStore.load json system.disk).lookup id = system.store.lookup id

variable (strings json) in
/-- In every orderly run, the three copies agree when everything has settled. -/
theorem agree_of_settled {disk : FileSystem Unit} {router : DomainRouter} {labels : List Label}
    (hrouter : ∀ id, router.configs.lookup (apiId id) = none)
    (hrun : Run (fun s label s' => s.Orderly label ∧ Step strings json s label s')
      (start json disk router) labels system)
    (hset : system.Settled) : Agree json system := by
  obtain ⟨busy, h⟩ := hrun.invariant (I := fun s => ∃ busy, Inv json s busy)
    (fun _ _ _ hstep hinv => hinv.choose_spec.step hstep.1 hstep.2)
    ⟨none, inv_start hrouter⟩
  obtain rfl : busy = none := h.busy_eq_none fun request state hget => by
    rw [hset.requests, AList.lookup_empty] at hget
    cases hget
  intro id
  have hrting := h.routing
  rw [hset.activation, hset.channel] at hrting
  cases hrting with
  | watching hleads => exact ⟨hleads id nofun, h.written rfl id⟩

/-! ### A server that is created -/

private def hub : CreateServerRequest :=
  { id := "hub", domains := ["hub.example"], addresses := ["10.0.3.1:25565"] }

/-- Texts for no server and for the one server. -/
private def hubJson : ServersJson :=
  .ofValues [[], [⟨"hub", ["hub.example"], ["10.0.3.1:25565"], "passthrough", []⟩]]

private def noServers : ApiSystem := start hubJson ⟨∅, ∅, 0⟩ .new

/-- What a request does after it has the text of the store. -/
private def finish (request : Nat) : List Label :=
  [.openFile request, .write request 8, .closeFile request, .send request]

instance (system : ApiSystem) : Decidable system.Settled :=
  decidable_of_iff
    (system.requests.entries = [] ∧ system.activation = .watching ∧ system.channel = [])
    ⟨fun h => ⟨AList.ext h.1, h.2.1, h.2.2⟩, fun h => ⟨congrArg AList.entries h.1, h.2, h.3⟩⟩

/-- A server is created after the activation. -/
theorem agree_hub :
    (∀ id, DomainRouter.new.configs.lookup (apiId id) = none) ∧
    ∃ system, Run (fun s label s' => s.Orderly label ∧ Step asciiStrings hubJson s label s')
        noServers ([.loadInitial, .setSender, .create 0 hub, .insert 0, .persist 0] ++ finish 0 ++
          [.handle]) system ∧
      system.Settled ∧ (system.store.lookup "hub").isSome = true ∧ Agree hubJson system := by
  refine ⟨fun _ => rfl, exists_run_imp
    (f := guarded Orderly (step asciiStrings hubJson ⟨.entries, .entries⟩))
    (fun _ _ _ h => ⟨(of_guarded h).1, _, (of_guarded h).2⟩)
    (P := fun system => system.Settled ∧ (system.store.lookup "hub").isSome = true) (by decide) ?_⟩
  rintro system hrun ⟨hset, hsto⟩
  exact ⟨hset, hsto, agree_of_settled asciiStrings hubJson (fun _ => rfl) hrun hset⟩

/-- A server is created between the initial load and the `watch`, and the router never has it. Or it
is deleted while the request that created it is about to open the file: the file and the router
have it for good. -/
theorem hub_disagrees :
    (∃ system, Run (Step asciiStrings hubJson) noServers
        ([.loadInitial, .create 0 hub, .insert 0, .persist 0] ++ finish 0 ++ [.setSender]) system ∧
      system.Settled ∧ system.router.configOf (apiId "hub") = none ∧
      (system.store.lookup "hub").isSome = true ∧ ¬Agree hubJson system) ∧
    ∃ system, Run (Step asciiStrings hubJson) noServers
        ([.loadInitial, .setSender, .create 0 hub, .insert 0, .persist 0, .delete 1 "hub",
          .persist 1] ++ finish 1 ++ finish 0 ++ [.handle, .handle]) system ∧
      system.Settled ∧ (system.router.configOf (apiId "hub")).isSome = true ∧
      ((ApiServerStore.load hubJson system.disk).lookup "hub").isSome = true ∧
      system.store.lookup "hub" = none ∧ ¬Agree hubJson system := by
  constructor
  · refine exists_run_imp (f := step asciiStrings hubJson ⟨.entries, .entries⟩)
      (fun _ _ _ h => ⟨_, h⟩)
      (P := fun system => system.Settled ∧ system.router.configOf (apiId "hub") = none ∧
        (system.store.lookup "hub").isSome = true) (by decide) ?_
    rintro system - ⟨hset, hrt, hsto⟩
    refine ⟨hset, hrt, hsto, fun h => ?_⟩
    have hagree := (h "hub").1
    rw [hrt, eq_comm, Option.map_eq_none_iff] at hagree
    rw [hagree] at hsto
    cases hsto
  · refine exists_run_imp (f := step asciiStrings hubJson ⟨.entries, .entries⟩)
      (fun _ _ _ h => ⟨_, h⟩)
      (P := fun system => system.Settled ∧ (system.router.configOf (apiId "hub")).isSome = true ∧
        ((ApiServerStore.load hubJson system.disk).lookup "hub").isSome = true ∧
        system.store.lookup "hub" = none) (by decide) ?_
    rintro system - ⟨hset, hrt, hldd, hsto⟩
    refine ⟨hset, hrt, hldd, hsto, fun h => ?_⟩
    rw [(h "hub").2, hsto] at hldd
    cases hldd

end ApiSystem

end AdminApi

end Infrarust
