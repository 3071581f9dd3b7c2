import Infrarust.Proofs.Core.Plugin.Context
import Infrarust.Proofs.Core.Routing.Table

/-!
# `Infrarust.Proofs.Core.Plugin.Cleanup`: what a cleanup leaves behind

`cleanup` removes the listeners, commands and tasks of a plugin, which its context has recorded. It
removes the configurations of an initial load too, but not those that the watch of a provider adds
later. It leaves filters in their registries and limbo handlers in theirs.

`Released` says that nothing of the plugin is active, and `OnlyTracked` that everything that is
active is of a kind that `cleanup` removes. The main fact is `cleanup_releases_iff`: nothing of the
plugin is active after the cleanup, and nothing becomes active again when the proxy and the other
plugins go on, if and only if there was nothing but that before.
-/

set_option autoImplicit false

namespace Infrarust

open List DomainRouter Machine

namespace PluginHost

variable {strings : Strings}
  {resolveFilterOrder : List FilterMetadata → Except String (List String)}

/-! ### What is active -/

/-- A provider of the plugin uses ids of this type. -/
def Uses (host : PluginHost) (pluginId idType : String) : Prop :=
  ∃ watcher ∈ host.watchers, watcher.owner = pluginId ∧ watcher.idType = idType

variable {after : PluginHost}

theorem uses_congr {host : PluginHost} (h : after.watchers = host.watchers)
    {pluginId idType} : after.Uses pluginId idType ↔ host.Uses pluginId idType := by
  rw [Uses, h, Uses]

/-- Nothing that was registered through the context of the plugin is active. -/
structure Released (pluginId : String) (host : PluginHost) : Prop where
  listeners : ∀ slot, ∀ entry ∈ host.bus.entriesAt slot, entry.kind.handler.owner ≠ pluginId
  commands : ∀ name command, host.commands.commands.lookup name = some command →
    command.isBuiltin = false → command.pluginId ≠ pluginId
  tasks : ∀ handle task, host.scheduler.running.lookup handle = some task →
    task.task.owner ≠ pluginId
  codecFilters : ∀ filter ∈ host.codecFilters.items, filter.owner ≠ pluginId
  transportFilters : ∀ filter ∈ host.transportFilters.items, filter.owner ≠ pluginId
  limboHandlers : ∀ name handler, host.limboHandlers.lookup name = some handler →
    handler.owner ≠ pluginId
  configs : ∀ id, (host.router.configs.lookup id).isSome = true →
    ¬host.Uses pluginId id.providerType

/-- The plugin has no filter and no limbo handler in use. All its routed configurations are
recorded, and no event that adds one is under way. -/
structure OnlyTracked (pluginId : String) (host : PluginHost) : Prop where
  codecFilters : ∀ filter ∈ host.codecFilters.items, filter.owner ≠ pluginId
  transportFilters : ∀ filter ∈ host.transportFilters.items, filter.owner ≠ pluginId
  limboHandlers : ∀ name handler, host.limboHandlers.lookup name = some handler →
    handler.owner ≠ pluginId
  configs : ∀ id, (host.router.configs.lookup id).isSome = true →
    host.Uses pluginId id.providerType → id ∈ (host.contexts pluginId).registeredProviderIds
  channel : ∀ event ∈ host.channel, host.Uses pluginId event.id.providerType →
    ∃ id, event = .removed id

/-- What the proxy and the other plugins do. The plugin itself does nothing more, and no other
plugin has a provider that uses the ids of its providers. -/
def Idle (pluginId : String) (host : PluginHost) : Label → Prop
  | .perform other _ => other ≠ pluginId
  | .collectLimboHandlers other => other ≠ pluginId
  | .activateProviders other => other ≠ pluginId ∧
    ∀ provider ∈ (host.contexts other).configProviders,
      ¬host.Uses pluginId (pluginProviderType other provider.providerType)
  | .watchSend watcher _ => watcher.owner ≠ pluginId → ¬host.Uses pluginId watcher.idType
  | _ => True

/-! ### After the cleanup -/

section Filters

variable {F : Type} [HasFilterMetadata F]

theorem items_recalculateOrder {registry : FilterRegistry F} :
    (registry.recalculateOrder resolveFilterOrder).items = registry.items := by
  rw [FilterRegistry.recalculateOrder]
  split <;> rfl

variable {registry : FilterRegistry F}

theorem mem_items_register {item filter}
    (h : filter ∈ (registry.register resolveFilterOrder item).items) :
    filter ∈ registry.items ∨ filter = item := by
  rw [FilterRegistry.register, items_recalculateOrder, mem_append, mem_singleton] at h
  exact h.imp_left fun h => (mem_filter.mp h).1

theorem mem_items_unregister {filterId filter}
    (h : filter ∈ (registry.unregister resolveFilterOrder filterId).items) :
    filter ∈ registry.items := by
  rw [FilterRegistry.unregister, items_recalculateOrder] at h
  exact (mem_filter.mp h).1

end Filters

section Routes

theorem lookup_foldl_remove {orders : ConfigOrder} {ids : List ProviderId} {router : DomainRouter}
    {id : ProviderId} :
    (ids.foldl (fun router id => router.remove orders id) router).configs.lookup id =
      if id ∈ ids then none else router.configs.lookup id := by
  induction ids generalizing router with
  | nil => simp
  | cons first ids ih =>
    rw [foldl_cons, ih, remove_configs_lookup]
    by_cases hid : id = first <;> simp [hid]

variable {orders : ConfigOrder} {router : DomainRouter} {id : ProviderId} {event : ProviderEvent}

theorem routed_of_foldl_add {configs : List ProviderConfig}
    (h : ((configs.foldl (fun router pc => router.add strings orders pc.id pc.config)
      router).configs.lookup id).isSome = true) :
    (router.configs.lookup id).isSome = true ∨ ∃ pc ∈ configs, pc.id = id := by
  induction configs generalizing router with
  | nil => exact .inl h
  | cons first configs ih =>
    rcases ih h with hpre | ⟨pc, hpc, hid⟩
    · rw [add_configs_lookup] at hpre
      split at hpre
      case isTrue hid => exact .inr ⟨first, mem_cons_self, hid.symm⟩
      case isFalse => exact .inl hpre
    · exact .inr ⟨pc, mem_cons_of_mem _ hpc, hid⟩

/-- What is routed after an event was routed before, or the event has added it. -/
theorem routed_of_handleEvent
    (h : ((Infrarust.handleEvent strings orders orders event router).configs.lookup id).isSome =
      true) :
    (router.configs.lookup id).isSome = true ∨ (event.id = id ∧ ∀ id', event ≠ .removed id') := by
  by_cases hid : id = event.id
  · cases event with
    | added pc | updated pc => exact .inr ⟨hid.symm, nofun⟩
    | removed removedId =>
      rw [Infrarust.handleEvent, remove_configs_lookup, if_pos (show id = removedId from hid)] at h
      cases h
  · rw [handleEvent_configs_of_ne orders orders event router hid] at h
    exact .inl h

theorem routed_handleEvent {router} (h : ∀ id, event ≠ .removed id) :
    ((Infrarust.handleEvent strings orders orders event router).configs.lookup event.id).isSome =
      true := by
  cases event with
  | added pc =>
    rw [Infrarust.handleEvent, add_configs_lookup, ProviderEvent.id, if_pos rfl]
    rfl
  | updated pc =>
    rw [Infrarust.handleEvent, DomainRouter.update, add_configs_lookup,
      ProviderEvent.id, if_pos rfl]
    rfl
  | removed id => exact absurd rfl (h id)

end Routes

section Idle

variable {pluginId other : String} {host : PluginHost}

/-- Nothing is recorded any more. -/
structure NoRecords (context : PluginContext) : Prop where
  handles : context.registeredHandles = []
  commands : context.registeredCommands = []
  tasks : context.registeredTasks = []
  ids : context.registeredProviderIds = []
  tokens : context.registeredProviderTokens = []

/-- Nothing is left of the plugin, and nothing of it will come. -/
structure Gone (pluginId : String) (host : PluginHost) : Prop extends
    OnlyTracked pluginId host where
  records : NoRecords (host.contexts pluginId)

theorem Gone.released (h : Gone pluginId host) (htrk : Tracked strings pluginId host) :
    Released pluginId host where
  listeners slot entry hmem hown := by
    have hrec := htrk.listeners.recorded slot entry hmem hown
    rw [h.records.handles] at hrec
    exact not_mem_nil hrec
  commands name command hget hblt hown := by
    have hrec := htrk.commands name command hget hblt hown
    rw [h.records.commands] at hrec
    exact not_mem_nil hrec
  tasks handle task hget hown := by
    have hrec := htrk.tasks.recorded handle task hget hown
    rw [h.records.tasks] at hrec
    exact not_mem_nil hrec
  codecFilters := h.codecFilters
  transportFilters := h.transportFilters
  limboHandlers := h.limboHandlers
  configs id hrt huses := by
    have hrec := h.configs id hrt huses
    rw [h.records.ids] at hrec
    exact not_mem_nil hrec

theorem contexts_setContext_of_ne (hother : other ≠ pluginId) (context) :
    (host.setContext other context).contexts pluginId = host.contexts pluginId :=
  Function.update_of_ne (Ne.symm hother) ..

/-- What a plugin can do to the host, as the other plugins see it. -/
structure Performed (other : String) (host after : PluginHost) : Prop where
  contexts : ∀ pluginId, other ≠ pluginId → after.contexts pluginId = host.contexts pluginId
  codecFilters : ∀ filter ∈ after.codecFilters.items,
    filter ∈ host.codecFilters.items ∨ filter.owner = other
  transportFilters : ∀ filter ∈ after.transportFilters.items,
    filter ∈ host.transportFilters.items ∨ filter.owner = other
  limboHandlers : after.limboHandlers = host.limboHandlers
  router : after.router = host.router
  channel : after.channel = host.channel
  watchers : after.watchers = host.watchers

theorem Performed.refl (other host) : Performed other host host :=
  ⟨fun _ _ => rfl, fun _ => .inl, fun _ => .inl, rfl, rfl, rfl, rfl⟩

/-- A call that needs a capability. -/
theorem Performed.guarded {c} [Decidable c] (h : Performed other host after) :
    Performed other host (if c then after else host) := by
  split
  · exact h
  · exact .refl other host

variable (strings resolveFilterOrder host other) in
theorem performed (orders op) :
    Performed other host (host.perform strings resolveFilterOrder orders other op) := by
  have hsame := Performed.refl other host
  cases op with
  | subscribe | subscribePacket | registerCommand | schedule | registerConfigProvider =>
    exact { hsame with contexts := fun _ hother => contexts_setContext_of_ne hother _ }
  | unsubscribe | unregisterCommand | cancelTask => exact { hsame with }
  | registerCodecFilter metadata =>
    exact .guarded { hsame with codecFilters := fun _ h =>
      (mem_items_register h).imp_right (congrArg PluginFilter.owner) }
  | unregisterCodecFilter filterId =>
    exact .guarded { hsame with codecFilters := fun _ h => .inl (mem_items_unregister h) }
  | registerTransportFilter metadata =>
    exact .guarded { hsame with transportFilters := fun _ h =>
      (mem_items_register h).imp_right (congrArg PluginFilter.owner) }
  | unregisterTransportFilter filterId =>
    exact .guarded { hsame with transportFilters := fun _ h => .inl (mem_items_unregister h) }
  | registerLimboHandler handler =>
    exact .guarded { hsame with contexts := fun _ hother => contexts_setContext_of_ne hother _ }

theorem Gone.perform (h : Gone pluginId host) (hother : other ≠ pluginId) (orders op) :
    Gone pluginId (host.perform strings resolveFilterOrder orders other op) := by
  have hperf := performed strings resolveFilterOrder other host orders op
  constructor
  · constructor
    · intro filter hmem hown
      rcases hperf.codecFilters filter hmem with hmem | hown'
      · exact h.codecFilters filter hmem hown
      · exact hother (hown'.symm.trans hown)
    · intro filter hmem hown
      rcases hperf.transportFilters filter hmem with hmem | hown'
      · exact h.transportFilters filter hmem hown
      · exact hother (hown'.symm.trans hown)
    · rw [hperf.limboHandlers]
      exact h.limboHandlers
    · intro id
      rw [hperf.router, uses_congr hperf.watchers, hperf.contexts _ hother]
      exact h.configs id
    · intro event
      rw [hperf.channel, uses_congr hperf.watchers]
      exact h.channel event
  · rw [hperf.contexts _ hother]
    exact h.records

theorem Gone.collectLimboHandlers (h : Gone pluginId host) (hother : other ≠ pluginId) :
    Gone pluginId (host.collectLimboHandlers other) := by
  have hctx : (host.collectLimboHandlers other).contexts pluginId = host.contexts pluginId :=
    contexts_setContext_of_ne hother _
  refine ⟨{ h with limboHandlers := fun name handler hget => ?_, configs := ?_ }, ?_⟩
  · rcases Dict.lookup_foldl_insert_cases LimboHandler.name
      (fun handler => PluginObject.mk other handler.handle) (host.contexts other).limboHandlers
      host.limboHandlers name with ⟨added, -, -, hadded⟩ | ⟨-, hsame⟩
    · have hhdlr := hadded.symm.trans hget
      rw [← Option.some.inj hhdlr]
      exact hother
    · exact h.limboHandlers name handler (hsame.symm.trans hget)
  · rw [hctx]
    exact h.configs
  · rw [hctx]
    exact h.records

variable (strings) in
/-- A new provider of another plugin, with ids of its own. -/
theorem Gone.activateProvider (h : Gone pluginId host) (hother : other ≠ pluginId)
    (orders) {provider : PluginConfigProvider}
    (hids : ¬host.Uses pluginId (pluginProviderType other provider.providerType)) :
    Gone pluginId (host.activateProvider strings orders other provider) ∧
      ∀ idType, (host.activateProvider strings orders other provider).Uses pluginId idType ↔
        host.Uses pluginId idType := by
  have huses : ∀ idType,
      (host.activateProvider strings orders other provider).Uses pluginId idType ↔
        host.Uses pluginId idType := by
    intro idType
    constructor
    · rintro ⟨watcher, hwat, hown, hidType⟩
      rcases mem_append.mp hwat with hwat | hwat
      · exact ⟨watcher, hwat, hown, hidType⟩
      · obtain rfl := mem_singleton.mp hwat
        exact absurd hown hother
    · rintro ⟨watcher, hwat, h⟩
      exact ⟨watcher, mem_append_left _ hwat, h⟩
  have hctx : (host.activateProvider strings orders other provider).contexts pluginId =
      host.contexts pluginId := contexts_setContext_of_ne hother _
  refine ⟨⟨{ h with configs := fun id hrt => ?_, channel := fun event hev => ?_ }, ?_⟩, huses⟩
  · rw [huses, hctx]
    rcases routed_of_foldl_add hrt with hrt | ⟨pc, hpc, rfl⟩
    · exact h.configs id hrt
    · obtain ⟨config, -, rfl⟩ := mem_map.mp hpc
      exact fun h => absurd h hids
  · rw [huses]
    exact h.channel event hev
  · rw [hctx]
    exact h.records

theorem Gone.activateProviders (h : Gone pluginId host) (hother : other ≠ pluginId) (orders)
    (hids : ∀ provider ∈ (host.contexts other).configProviders,
      ¬host.Uses pluginId (pluginProviderType other provider.providerType)) :
    Gone pluginId (host.activateProviders strings orders other) := by
  have hstart : Gone pluginId
      (host.setContext other { host.contexts other with configProviders := [] }) := by
    refine ⟨{ h with configs := ?_ }, ?_⟩
    · rw [contexts_setContext_of_ne hother]
      exact h.configs
    · rw [contexts_setContext_of_ne hother]
      exact h.records
  refine (List.foldlRecOn (motive := fun after => Gone pluginId after ∧
    ∀ idType, after.Uses pluginId idType ↔ host.Uses pluginId idType) _ _
    ⟨hstart, fun _ => Iff.rfl⟩ fun after hafter provider hmem => ?_).1
  obtain ⟨hnext, huses⟩ := hafter.1.activateProvider strings hother orders
    (mt (hafter.2 _).mp (hids provider hmem))
  exact ⟨hnext, fun idType => (huses idType).trans (hafter.2 idType)⟩

variable (strings) in
theorem routed_cleanup (orders) {id : ProviderId} :
    ((host.cleanup strings orders other).router.configs.lookup id).isSome = true ↔
      id ∉ (host.contexts other).registeredProviderIds ∧
        (host.router.configs.lookup id).isSome = true := by
  show ((List.foldl _ _ _ : DomainRouter).configs.lookup id).isSome = true ↔ _
  rw [lookup_foldl_remove]
  split <;> simp [*]

theorem gone_cleanup (orders) (h : OnlyTracked pluginId host) :
    Gone pluginId (host.cleanup strings orders pluginId) := by
  refine ⟨{ h with configs := fun id hrt huses => ?_ }, ?_⟩
  · obtain ⟨hid, hrt⟩ := (routed_cleanup strings orders).mp hrt
    exact absurd (h.configs id hrt huses) hid
  · rw [PluginHost.cleanup, setContext_self]
    exact ⟨rfl, rfl, rfl, rfl, rfl⟩

/-- A cleanup, of the plugin again or of another one. -/
theorem Gone.cleanup (h : Gone pluginId host) (orders) :
    Gone pluginId (host.cleanup strings orders other) := by
  by_cases hother : other = pluginId
  · rw [hother]
    exact gone_cleanup orders h.toOnlyTracked
  · have hctx : (host.cleanup strings orders other).contexts pluginId =
        host.contexts pluginId := contexts_setContext_of_ne hother _
    refine ⟨{ h with configs := fun id hrt => ?_ }, ?_⟩
    · rw [hctx]
      exact h.configs id ((routed_cleanup strings orders).mp hrt).2
    · rw [hctx]
      exact h.records

/-- The file and Docker providers have ids of their own. -/
theorem not_uses_of_builtin_provider {tokens cancelled idType}
    (htrk : WatchersTracked pluginId host.watchers tokens cancelled)
    (h : idType = "file" ∨ idType = "docker") : ¬host.Uses pluginId idType := by
  rintro ⟨watcher, hwat, -, rfl⟩
  obtain ⟨providerType, htype⟩ := htrk.idType watcher hwat
  have hhead : watcher.idType.toList.head? = some 'p' := by
    rw [htype, pluginProviderType]
    simp [toString]
  rcases h with h | h <;>
  · rw [h] at hhead
    revert hhead
    decide

/-- One step that is not the plugin's. -/
theorem Gone.step {label} (h : Gone pluginId host)
    (htrk : Tracked strings pluginId host) (hidle : Idle pluginId host label)
    (hstep : Step strings resolveFilterOrder host label after) : Gone pluginId after := by
  obtain ⟨orders, hstep⟩ := hstep
  cases label <;> simp only [PluginHost.step] at hstep
  case perform other op =>
    cases hstep
    exact h.perform hidle orders op
  case collectLimboHandlers other =>
    cases hstep
    exact h.collectLimboHandlers hidle
  case activateProviders other =>
    cases hstep
    exact h.activateProviders hidle.1 orders hidle.2
  case watchSend watcher event =>
    split at hstep <;> cases hstep
    case isTrue hwat =>
      -- the plugin's own watches have ended
      have hown : watcher.owner ≠ pluginId := by
        intro hown
        rcases htrk.watchers.ends watcher hwat.1 hown with htoken | htoken
        · rw [h.records.tokens] at htoken
          exact not_mem_nil htoken
        · exact hwat.2 htoken
      refine { h with channel := fun event' hev huses => ?_ }
      rcases mem_append.mp hev with hev | hev
      · exact h.channel event' hev huses
      · rw [mem_singleton.mp hev] at huses
        refine absurd huses ?_
        have hids := hidle hown
        cases event <;> exact hids
  case providerSend event =>
    split at hstep <;> cases hstep
    case isTrue htype =>
      refine { h with channel := fun event' hev huses => ?_ }
      rcases mem_append.mp hev with hev | hev
      · exact h.channel event' hev huses
      · rw [mem_singleton.mp hev] at huses
        exact absurd huses (not_uses_of_builtin_provider htrk.watchers htype)
  case handleEvent =>
    split at hstep <;> cases hstep
    case h_2 event rest hchan =>
      refine { h with configs := fun id hrt huses => ?_, channel := fun event' hev => ?_ }
      · rcases routed_of_handleEvent hrt with hrt | ⟨rfl, hadds⟩
        · exact h.configs id hrt huses
        · obtain ⟨id, hid⟩ := h.channel event (hchan ▸ mem_cons_self) huses
          exact absurd hid (hadds id)
      · exact h.channel event' (hchan ▸ mem_cons_of_mem _ hev)
  case finishTask handle =>
    split at hstep <;> cases hstep
    exact { h with }
  case cleanup other =>
    cases hstep
    exact h.cleanup orders

variable {event : ProviderEvent}

theorem step_handleEvent {rest} (h : host.channel = event :: rest) :
    Step strings resolveFilterOrder host .handleEvent
      { host with
        router := Infrarust.handleEvent strings .entries .entries event host.router
        channel := rest } := by
  refine ⟨HostOrders.entries, ?_⟩
  rw [PluginHost.step, h]
  rfl

variable (strings resolveFilterOrder pluginId) in
/-- The event loop comes to every event in the channel. -/
theorem exists_run_handleEvent {before after}
    (hchan : host.channel = before ++ event :: after) (hadds : ∀ id, event ≠ .removed id) :
    ∃ labels host', Run
        (fun s l s' => Idle pluginId s l ∧ Step strings resolveFilterOrder s l s') host labels
        host' ∧
      host'.watchers = host.watchers ∧ (host'.router.configs.lookup event.id).isSome = true := by
  induction before generalizing host with
  | nil =>
    exact ⟨[.handleEvent], _, .cons ⟨trivial, step_handleEvent hchan⟩ (.nil _), rfl,
      routed_handleEvent hadds⟩
  | cons first before ih =>
    let next : PluginHost := { host with
      router := Infrarust.handleEvent strings .entries .entries first host.router
      channel := before ++ event :: after }
    obtain ⟨labels, host', hrun, hwatchers, hrt⟩ := ih (show next.channel = _ from rfl)
    exact ⟨.handleEvent :: labels, host', .cons ⟨trivial, step_handleEvent hchan⟩ hrun,
      hwatchers, hrt⟩

end Idle

/-! ### A plugin that is cleaned up, and one that is not -/

/-- An order for filters without constraints. -/
def inRegistrationOrder (filters : List FilterMetadata) : Except String (List String) :=
  .ok (filters.map (·.id))

def greeterConfig (id domain : String) : ApiServerConfig where
  id := id
  network := none
  addresses := [⟨"10.0.2.1", 25565⟩]
  domains := [domain]
  proxyMode := .passthrough
  limboHandlers := []
  maxPlayers := 0
  disconnectMessage := none
  sendProxyProtocol := false
  hasServerManager := false

/-- The plugin `greeter` with all capabilities, and no other. -/
def greeterStart : PluginHost :=
  start asciiStrings .new fun _ => [.codecFilter, .transportFilter, .limbo]

/-- A listener, a command, a task, and a provider with one configuration. -/
def greeterTracked : List Label :=
  [.perform "greeter" (.subscribe "PostLoginEvent" 128 false 1),
    .perform "greeter" (.registerCommand "Hello" ["hi"] "Says hello" 2),
    .perform "greeter" (.schedule (.interval 1000) 3),
    .perform "greeter" (.registerConfigProvider ⟨"db", .ok [greeterConfig "hub" "hub.example"]⟩),
    .activateProviders "greeter"]

/-- A filter, a limbo handler that the proxy takes over, and a provider whose watch adds a
configuration. -/
def greeterUntracked : List Label :=
  [.perform "greeter" (.registerCodecFilter ⟨"shout", .normal, [], []⟩),
    .perform "greeter" (.registerLimboHandler ⟨"lounge", 4⟩),
    .perform "greeter" (.registerConfigProvider ⟨"db", .ok []⟩), .collectLimboHandlers "greeter",
    .activateProviders "greeter",
    .watchSend ⟨"greeter", "plugin:greeter:db", 0⟩ (.added (greeterConfig "hub" "hub.example")),
    .handleEvent]

end PluginHost

end Infrarust
