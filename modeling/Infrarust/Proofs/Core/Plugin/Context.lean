import Infrarust.Core.Plugin.Context
import Infrarust.Proofs.Core.EventBus
import Infrarust.Proofs.Core.Services.CommandManager

/-!
# `Infrarust.Proofs.Core.Plugin.Context`: what a context records

A context records the handles of listeners and tasks, the names of commands and the tokens of
watches. `Tracked` is the invariant of all runs, for one plugin: what it has in the event bus, in the
command manager and in the scheduler is in the records of its context, and its watches end with the
tokens that are recorded. The services are taken one by one first, and `Tracked.step` puts them
together.
-/

set_option autoImplicit false

namespace Infrarust

open PluginContext List EventBus Dict CommandManager Function

namespace PluginHost

variable {strings : Strings}
  {resolveFilterOrder : List FilterMetadata → Except String (List String)}

/-! ### What is recorded -/

/-- The listeners of the plugin are recorded. -/
structure ListenersTracked (pluginId : String) (bus : EventBus PluginObject)
    (handles : List Nat) : Prop where
  wellFormed : bus.WellFormed
  recorded : ∀ slot, ∀ entry ∈ bus.entriesAt slot, entry.kind.handler.owner = pluginId →
    entry.handle ∈ handles

/-- The commands of the plugin are recorded. -/
def CommandsTracked (strings : Strings) (pluginId : String) (manager : CommandManager)
    (names : List String) : Prop :=
  ∀ name command, manager.commands.lookup name = some command → command.isBuiltin = false →
    command.pluginId = pluginId → name ∈ names.map strings.toLowercase

/-- The tasks of the plugin are recorded, and every task can be aborted. -/
structure TasksTracked (pluginId : String) (scheduler : Scheduler PluginObject)
    (handles : List Nat) : Prop where
  abortable : ∀ handle task, scheduler.running.lookup handle = some task →
    scheduler.tasks.lookup handle = some ()
  recorded : ∀ handle task, scheduler.running.lookup handle = some task →
    task.task.owner = pluginId → handle ∈ handles

/-- The watches of the plugin's providers end with the cleanup. -/
structure WatchersTracked (pluginId : String) (watchers : List Watcher)
    (tokens cancelled : List Nat) : Prop where
  ends : ∀ watcher ∈ watchers, watcher.owner = pluginId →
    watcher.token ∈ tokens ∨ watcher.token ∈ cancelled
  idType : ∀ watcher ∈ watchers,
    ∃ providerType, watcher.idType = pluginProviderType watcher.owner providerType

/-- What holds in every run. -/
structure Tracked (strings : Strings) (pluginId : String) (host : PluginHost) : Prop where
  listeners : ListenersTracked pluginId host.bus (host.contexts pluginId).registeredHandles
  commands : CommandsTracked strings pluginId host.commands
    (host.contexts pluginId).registeredCommands
  tasks : TasksTracked pluginId host.scheduler (host.contexts pluginId).registeredTasks
  watchers : WatchersTracked pluginId host.watchers
    (host.contexts pluginId).registeredProviderTokens host.cancelled

/-! ### The services keep to the records -/

section Services

variable {pluginId : String}

variable {bus : EventBus PluginObject} {handles handles' : List Nat} {manager : CommandManager}
  {names : List String} {scheduler : Scheduler PluginObject}

section

variable (h : ListenersTracked pluginId bus handles)

include h

theorem ListenersTracked.mono (hsub : handles ⊆ handles') :
    ListenersTracked pluginId bus handles' :=
  ⟨h.wellFormed, fun slot entry hmem hown => hsub (h.recorded slot entry hmem hown)⟩

theorem ListenersTracked.adds {after slot entry} (hadds : bus.Adds slot entry after)
    (hnew : entry.kind.handler.owner = pluginId → entry.handle ∈ handles) :
    ListenersTracked pluginId after handles where
  wellFormed := hadds.wellFormed h.wellFormed
  recorded slot' entry' hmem hown := by
    rcases hadds.mem hmem with ⟨-, rfl⟩ | hmem
    · exact hnew hown
    · exact h.recorded slot' entry' hmem hown

theorem ListenersTracked.unsubscribe (orders handle) :
    ListenersTracked pluginId (bus.unsubscribe orders handle) handles where
  wellFormed := h.wellFormed.unsubscribe orders handle
  recorded slot entry hmem :=
    h.recorded slot entry ((mem_entriesAt_unsubscribe h.wellFormed).mp hmem).1

/-- After the loop of a cleanup, what was recorded before is recorded, unless it was in the
list. -/
theorem ListenersTracked.foldl_unsubscribe {removed : List Nat} (orders)
    (hsub : ∀ handle ∈ handles, handle ∉ removed → handle ∈ handles') :
    ListenersTracked pluginId
      (removed.foldl (fun bus handle => bus.unsubscribe orders handle) bus) handles' where
  wellFormed := (EventBus.foldl_unsubscribe h.wellFormed orders removed).1
  recorded slot entry hmem hown := by
    obtain ⟨hmem, hhdl⟩ :=
      ((EventBus.foldl_unsubscribe h.wellFormed orders removed).2 slot entry).mp hmem
    exact hsub _ (h.recorded slot entry hmem hown) hhdl

end

section

variable (h : CommandsTracked strings pluginId manager names)

include h

theorem CommandsTracked.foldl_unregister {removed names' : List String}
    (hsub : ∀ name ∈ names.map strings.toLowercase, name ∉ removed.map strings.toLowercase →
      name ∈ names'.map strings.toLowercase) :
    CommandsTracked strings pluginId
      (removed.foldl (fun manager name => manager.unregister strings name) manager) names' := by
  intro name command hget hblt hown
  rw [(lookup_foldl_unregister removed manager name).1] at hget
  split at hget
  case isTrue => cases hget
  case isFalse hname => exact hsub name (h name command hget hblt hown) hname

theorem CommandsTracked.unregister (name) :
    CommandsTracked strings pluginId (manager.unregister strings name) names := by
  have hloop : CommandsTracked strings pluginId
      ([name].foldl (fun manager name => manager.unregister strings name) manager) names :=
    h.foldl_unregister fun _ hmem _ => hmem
  exact hloop

theorem CommandsTracked.register
    {name : String} {aliases : List String} {description : String} {handler : CommandHandler}
    {owner : String} (hnew : owner = pluginId → name ∈ names) :
    CommandsTracked strings pluginId
      (manager.registerWithPluginId strings name aliases description handler owner) names := by
  by_cases href : manager.refuses strings name
  · rw [registerWithPluginId_of_refuses href]
    exact h
  · intro other command hget hblt hown
    rw [lookup_commands_register href] at hget
    split at hget
    case isTrue hother =>
      cases hget
      rw [hother]
      exact mem_map_of_mem (hnew hown)
    case isFalse => exact h other command hget hblt hown

end

section

variable (h : TasksTracked pluginId scheduler handles)

include h

theorem TasksTracked.mono (hsub : handles ⊆ handles') : TasksTracked pluginId scheduler handles' :=
  ⟨h.abortable, fun handle task hget hown => hsub (h.recorded handle task hget hown)⟩

theorem TasksTracked.schedule {task : ScheduledTask PluginObject}
    (hnew : task.task.owner = pluginId → scheduler.nextId ∈ handles) :
    TasksTracked pluginId (scheduler.schedule task).1 handles where
  abortable handle task' hget := by
    show (scheduler.tasks.insert scheduler.nextId ()).lookup handle = some ()
    rw [lookup_insert_eq]
    rcases lookup_insert_inv hget with ⟨hhdl, -⟩ | ⟨hhdl, hget⟩
    · rw [if_pos hhdl]
    · rw [if_neg hhdl]
      exact h.abortable handle task' hget
  recorded := forall_insert h.recorded hnew

theorem TasksTracked.finish (handle) : TasksTracked pluginId (scheduler.finish handle) handles where
  abortable other task hget := h.abortable other task (lookup_erase_inv hget).2
  recorded other task hget := h.recorded other task (lookup_erase_inv hget).2

/-- A task that was started can be aborted, so `cancel` ends it. -/
theorem TasksTracked.cancel {handle : Nat}
    (hsub : ∀ other ∈ handles, other ≠ handle → other ∈ handles') :
    TasksTracked pluginId (scheduler.cancel handle) handles' := by
  rw [Scheduler.cancel]
  cases htask : scheduler.tasks.lookup handle with
  | some _ =>
    constructor
    · intro other task hget
      obtain ⟨hother, hget⟩ := lookup_erase_inv hget
      rw [lookup_erase_eq, if_neg hother]
      exact h.abortable other task hget
    · intro other task hget hown
      obtain ⟨hother, hget⟩ := lookup_erase_inv hget
      exact hsub other (h.recorded other task hget hown) hother
  | none =>
    refine ⟨h.abortable, fun other task hget hown => ?_⟩
    refine hsub other (h.recorded other task hget hown) ?_
    rintro rfl
    rw [h.abortable other task hget] at htask
    cases htask

theorem TasksTracked.foldl_cancel {removed : List Nat}
    (hsub : ∀ handle ∈ handles, handle ∉ removed → handle ∈ handles') :
    TasksTracked pluginId (removed.foldl Scheduler.cancel scheduler) handles' := by
  induction removed generalizing scheduler handles with
  | nil =>
    exact ⟨h.abortable, fun handle task hget hown =>
      hsub handle (h.recorded handle task hget hown) not_mem_nil⟩
  | cons first removed ih =>
    have hfst : TasksTracked pluginId (scheduler.cancel first) (handles.filter (· ≠ first)) :=
      h.cancel fun other hmem hother => mem_filter.mpr ⟨hmem, decide_eq_true hother⟩
    refine ih hfst fun handle hmem hrem => ?_
    obtain ⟨hmem, hne⟩ := mem_filter.mp hmem
    refine hsub handle hmem fun hcons => ?_
    rcases mem_cons.mp hcons with rfl | hcons
    · exact of_decide_eq_true hne rfl
    · exact hrem hcons

end

end Services

/-! ### All runs -/

section Runs

variable {pluginId : String} {host : PluginHost}

theorem setContext_self (host : PluginHost) (pluginId context) :
    (host.setContext pluginId context).contexts pluginId = context :=
  update_self ..

variable {other : String} {context : PluginContext}

theorem mem_setContext {α : Type} {f : PluginContext → List α} {a : α} (h : a ∈ f context)
    (hother : other = pluginId) :
    a ∈ f ((host.setContext other context).contexts pluginId) := by
  rw [hother, setContext_self]
  exact h

/-- What is recorded stays recorded. -/
structure Keeps (context after : PluginContext) : Prop where
  handles : context.registeredHandles ⊆ after.registeredHandles
  commands : context.registeredCommands ⊆ after.registeredCommands
  tasks : context.registeredTasks ⊆ after.registeredTasks
  tokens : context.registeredProviderTokens ⊆ after.registeredProviderTokens

theorem Keeps.of_eq {after : PluginContext}
    (hhandles : after.registeredHandles = context.registeredHandles)
    (hcmds : after.registeredCommands = context.registeredCommands)
    (htasks : after.registeredTasks = context.registeredTasks)
    (htokens : after.registeredProviderTokens = context.registeredProviderTokens) :
    Keeps context after :=
  ⟨hhandles ▸ .refl _, hcmds ▸ .refl _, htasks ▸ .refl _, htokens ▸ .refl _⟩

section

variable (h : Tracked strings pluginId host)

include h

/-- A context that records more. -/
theorem Tracked.setContext (other context) (hkeeps : Keeps (host.contexts other) context) :
    Tracked strings pluginId (host.setContext other context) := by
  have hkeeps : Keeps (host.contexts pluginId)
      ((host.setContext other context).contexts pluginId) := by
    show Keeps _ (Function.update host.contexts other context pluginId)
    by_cases hother : pluginId = other
    · rw [hother, update_self]
      exact hkeeps
    · rw [update_of_ne hother]
      exact .of_eq rfl rfl rfl rfl
  refine ⟨h.listeners.mono hkeeps.handles, fun name command hget hblt hown => ?_,
    h.tasks.mono hkeeps.tasks, fun watcher hwat hown => ?_, h.watchers.idType⟩
  · exact map_subset _ hkeeps.commands (h.commands name command hget hblt hown)
  · exact (h.watchers.ends watcher hwat hown).imp_left (hkeeps.tokens ·)

/-- A new listener is recorded in the context of its plugin. -/
theorem Tracked.trackHandle {bus : EventBus PluginObject} {slot entry}
    (hadds : host.bus.Adds slot entry bus) (hown : entry.kind.handler.owner = other) :
    Tracked strings pluginId ({ host with bus }.trackHandle other entry.handle) := by
  let context := host.contexts other
  have h' := h.setContext other
    { context with registeredHandles := context.registeredHandles ++ [entry.handle] }
    ⟨subset_append_left .., .refl _, .refl _, .refl _⟩
  refine { h' with listeners := h'.listeners.adds hadds fun hsame => ?_ }
  exact mem_setContext (mem_append_right _ mem_cons_self) (hown.symm.trans hsame)

theorem Tracked.registerCommand (other name aliases description handler) :
    Tracked strings pluginId
      (host.registerCommand strings other name aliases description handler) := by
  let context := host.contexts other
  have h' := h.setContext other
    { context with registeredCommands := context.registeredCommands ++ [name] }
    ⟨.refl _, subset_append_left .., .refl _, .refl _⟩
  refine { h' with commands := h'.commands.register fun hsame => ?_ }
  exact mem_setContext (mem_append_right _ mem_cons_self) hsame

theorem Tracked.schedule (other timing task) :
    Tracked strings pluginId (host.schedule other timing task) := by
  let context := host.contexts other
  have h' := h.setContext other
    { context with registeredTasks := context.registeredTasks ++ [host.scheduler.nextId] }
    ⟨.refl _, .refl _, subset_append_left .., .refl _⟩
  refine { h' with tasks := h'.tasks.schedule fun hsame => ?_ }
  exact mem_setContext (mem_append_right _ mem_cons_self) hsame

/-- A call through a context. -/
theorem Tracked.perform (orders other op) :
    Tracked strings pluginId (host.perform strings resolveFilterOrder orders other op) := by
  cases op with
  | subscribe eventType priority async handler =>
    exact h.trackHandle (adds_subscribe ..) (by cases async <;> rfl)
  | subscribePacket filter priority async handler =>
    exact h.trackHandle (adds_subscribePacket ..) (by cases async <;> rfl)
  | unsubscribe handle =>
    exact { h with listeners := h.listeners.unsubscribe orders.bus handle }
  | registerCommand name aliases description handler => exact h.registerCommand ..
  | unregisterCommand name =>
    exact { h with commands := h.commands.unregister name }
  | schedule timing task => exact h.schedule ..
  | cancelTask handle =>
    exact { h with tasks := h.tasks.cancel fun _ hmem _ => hmem }
  | registerCodecFilter metadata
  | unregisterCodecFilter metadata
  | registerTransportFilter metadata
  | unregisterTransportFilter metadata =>
    simp only [PluginHost.perform]
    split
    · exact { h with }
    · exact h
  | registerLimboHandler handler =>
    simp only [PluginHost.perform]
    split
    · exact h.setContext other _ (.of_eq rfl rfl rfl rfl)
    · exact h
  | registerConfigProvider provider => exact h.setContext other _ (.of_eq rfl rfl rfl rfl)

theorem Tracked.collectLimboHandlers (other) :
    Tracked strings pluginId (host.collectLimboHandlers other) := by
  have h' := h.setContext other { host.contexts other with limboHandlers := [] }
    (.of_eq rfl rfl rfl rfl)
  exact { h' with }

/-- The token of a new watch is recorded. -/
theorem Tracked.activateProvider (orders other provider) :
    Tracked strings pluginId (host.activateProvider strings orders other provider) := by
  have h' := h.setContext other
    ((host.activateProvider strings orders other provider).contexts other)
    (by rw [PluginHost.activateProvider, setContext_self]
        exact ⟨.refl _, .refl _, .refl _, subset_append_left ..⟩)
  rw [PluginHost.activateProvider, setContext_self] at h'
  refine ⟨h'.listeners, h'.commands, h'.tasks, fun watcher hwat hown => ?_, fun watcher hwat => ?_⟩
  · rcases mem_append.mp hwat with hwat | hwat
    · exact h'.watchers.ends watcher hwat hown
    · obtain rfl := mem_singleton.mp hwat
      exact .inl (mem_setContext (mem_append_right _ mem_cons_self) hown)
  · rcases mem_append.mp hwat with hwat | hwat
    · exact h.watchers.idType watcher hwat
    · obtain rfl := mem_singleton.mp hwat
      exact ⟨_, rfl⟩

theorem Tracked.activateProviders (orders other) : Tracked strings pluginId (host.activateProviders strings orders other) := by
  refine List.foldlRecOn (motive := Tracked strings pluginId) _ _
    (h.setContext other _ (.of_eq rfl rfl rfl rfl)) fun after hafter provider _ => ?_
  exact hafter.activateProvider orders other provider

end

/-- What the loops of a cleanup take away is what leaves the records. -/
theorem mem_of_cleanup {α : Type} (f : PluginContext → List α) (pluginId) :
    ∀ a ∈ f (host.contexts pluginId), a ∉ f (host.contexts other) →
      a ∈ f ((host.setContext other context).contexts pluginId) := by
  intro a hmem hother
  have hne : pluginId ≠ other := by
    rintro rfl
    exact hother hmem
  rw [show (host.setContext other context).contexts pluginId = host.contexts pluginId from
    update_of_ne hne ..]
  exact hmem

theorem Tracked.cleanup (h : Tracked strings pluginId host) (orders other) : Tracked strings pluginId (host.cleanup strings orders other) := by
  refine ⟨?_, ?_, ?_, ?_, h.watchers.idType⟩
  · exact h.listeners.foldl_unsubscribe orders.bus (mem_of_cleanup registeredHandles pluginId)
  · exact h.commands.foldl_unregister
      (mem_of_cleanup (fun context => context.registeredCommands.map strings.toLowercase) pluginId)
  · exact h.tasks.foldl_cancel (mem_of_cleanup registeredTasks pluginId)
  · intro watcher hwat hown
    rcases h.watchers.ends watcher hwat hown with htoken | htoken
    · by_cases hother : watcher.token ∈ (host.contexts other).registeredProviderTokens
      · exact .inr (mem_append_right _ hother)
      · exact .inl (mem_of_cleanup registeredProviderTokens pluginId _ htoken hother)
    · exact .inr (mem_append_left _ htoken)

/-- One step. -/
theorem Tracked.step {after label} (hstep : Step strings resolveFilterOrder host label after)
    (h : Tracked strings pluginId host) : Tracked strings pluginId after := by
  obtain ⟨orders, hstep⟩ := hstep
  cases label with
  | perform other op =>
    cases hstep
    exact h.perform orders other op
  | collectLimboHandlers other =>
    cases hstep
    exact h.collectLimboHandlers other
  | activateProviders other =>
    cases hstep
    exact h.activateProviders orders other
  | watchSend | providerSend | handleEvent =>
    simp only [PluginHost.step] at hstep
    split at hstep <;> cases hstep
    exact { h with }
  | finishTask handle =>
    simp only [PluginHost.step] at hstep
    split at hstep <;> cases hstep
    exact { h with tasks := h.tasks.finish handle }
  | cleanup other =>
    cases hstep
    exact h.cleanup orders other

theorem tracked_start (router) (capabilities : String → List Capability) :
    Tracked strings pluginId (start strings router capabilities) where
  listeners := ⟨wellFormed_new, fun slot entry hmem => by
    rw [show (start strings router capabilities).bus = .new from rfl, entriesAt_new] at hmem
    exact absurd hmem not_mem_nil⟩
  commands name command hget hblt _ := by
    rcases lookup_insert_inv hget with ⟨-, rfl⟩ | ⟨-, hget⟩
    · cases hblt
    · cases hget
  tasks := by
    constructor <;>
    · intro handle task hget
      cases hget
  watchers := ⟨fun _ hmem => absurd hmem not_mem_nil, fun _ hmem => absurd hmem not_mem_nil⟩

end Runs

end PluginHost

end Infrarust
