import Infrarust.Core.Plugin.Manager
import Infrarust.Proofs.Core.Plugin.Dependency

/-!
# `Infrarust.Proofs.Core.Plugin.Manager`: in which order plugins are enabled

The load order puts a plugin behind the plugins it requires. `load_and_enable_all` goes through the
load order and does not look at what became of the earlier plugins: a plugin whose required
dependency failed to load, or failed in its own `on_enable`, is enabled all the same.

`Discoverable` says when there is a load order, `LoadsAs` which plugin a loader returns under an
id. Both are about the answers of the loaders. `extends_foldl` is the loop in closed form: the calls
and entries for each plugin follow from the answer of its loader. The main fact is
`onEnable_after_required_iff`: no `on_enable` comes too early if and only if every plugin that can
be loaded has dependencies that can be loaded and enabled.
-/

set_option autoImplicit false

namespace Infrarust

open List Check AList

namespace PluginManager

/-! ### The answers of the loaders -/

/-- The plugins that a loader finds. -/
def discoveredBy (loader : PluginLoader) : List PluginMetadata :=
  match loader.discover with
  | .ok discovered => discovered
  | .error _ => []

variable (loaders : List PluginLoader)

/-- The plugins that the loaders find, each with its loader. -/
def discoveries : List (PluginLoader × PluginMetadata) :=
  loaders.flatMap fun loader => (discoveredBy loader).map fun metadata => (loader, metadata)

/-- The plugins that the loaders find. -/
def discovered : List PluginMetadata := (discoveries loaders).map Prod.snd

/-- Nothing stops the discovery. -/
structure Discoverable (loaders : List PluginLoader) : Prop where
  discover : ∀ loader ∈ loaders, ∃ found, loader.discover = .ok found
  distinct : ((discovered loaders).map PluginMetadata.id).Nodup
  required : RequiredAvailable (discovered loaders)
  acyclic : DependenciesAcyclic (discovered loaders)

/-- A loader finds `id`, all loaders of its name start, and the first of them returns `plugin`. -/
def LoadsAs (id : String) (plugin : Plugin) : Prop :=
  ∃ entry ∈ discoveries loaders, entry.2.id = id ∧
    (∀ loader ∈ loaders, loader.name = entry.1.name → loader.onLoad = .ok ()) ∧
    ∃ loader, (loaders.find? fun loader => loader.name = entry.1.name) = some loader ∧
      loader.load id = .ok plugin

/-- The plugin can be loaded. -/
def Loads (id : String) : Prop := ∃ plugin, LoadsAs loaders id plugin

/-- The plugin can be loaded and enabled. -/
def Enables (id : String) : Prop := ∃ plugin, LoadsAs loaders id plugin ∧ plugin.onEnable = .ok ()

/-- Every `on_enable` comes after successful ones of all plugins that the plugin requires. -/
def EnabledInOrder (plugins : List PluginMetadata) (calls : List PluginCall) : Prop :=
  Trace.Each (fun before call => ∀ id ok, call = .onEnable id ok →
    ∀ plugin ∈ plugins, plugin.id = id → ∀ dep ∈ plugin.dependencies, dep.optional = false →
      .onEnable dep.id true ∈ before) calls

/-! ### Discovery -/

/-- The outcome of the loops of `discover_all` when nothing stops them. -/
def Discovery.record (found : Discovery) (entries : List (PluginLoader × PluginMetadata)) :
    Discovery where
  allMetadata := found.allMetadata ++ entries.map Prod.snd
  seenIds := entries.foldl (fun seen entry => seen.insert entry.2.id entry.1.name) found.seenIds

variable {name id : String} {found found' : Discovery} {loader : PluginLoader}
  {loaders : List PluginLoader} {order : Dict.Order String Nat}

theorem addDiscovered_ok_iff {metadata} :
    addDiscovered name found metadata = .ok found' ↔
      found.seenIds.lookup metadata.id = none ∧
        found' = { allMetadata := found.allMetadata ++ [metadata]
                   seenIds := found.seenIds.insert metadata.id name } := by
  rw [addDiscovered]
  cases found.seenIds.lookup metadata.id with
  | some _ => exact ⟨nofun, fun h => nomatch h.1⟩
  | none => exact ⟨fun h => ⟨rfl, (Except.ok.inj h).symm⟩, fun h => h.2 ▸ rfl⟩

/-- The two loops in one. A plugin is added unless its id was seen. -/
theorem foldlM_addDiscovered_ok_iff {entries : List (PluginLoader × PluginMetadata)} :
    entries.foldlM (fun found entry => addDiscovered entry.1.name found entry.2) found =
        .ok found' ↔
      (entries.map fun entry => entry.2.id).Nodup ∧
      (∀ entry ∈ entries, found.seenIds.lookup entry.2.id = none) ∧
      found' = found.record entries := by
  induction entries generalizing found with
  | nil =>
    have hnil : found.record [] = found := by simp [Discovery.record]
    rw [hnil]
    exact ⟨fun h => ⟨nodup_nil, nofun, (Except.ok.inj h).symm⟩, fun h => h.2.2 ▸ rfl⟩
  | cons entry entries ih =>
    rw [foldlM_cons, bind_ok_iff]
    simp only [addDiscovered_ok_iff, ih]
    constructor
    · rintro ⟨middle, ⟨hnew, rfl⟩, hdist, huns, rfl⟩
      simp only [Dict.lookup_insert_eq] at huns
      refine ⟨nodup_cons.mpr ⟨fun hmem => ?_, hdist⟩, ?_, ?_⟩
      · obtain ⟨other, hother, hid⟩ := mem_map.mp hmem
        have hsome := huns other hother
        rw [if_pos hid] at hsome
        cases hsome
      · intro other hother
        rcases mem_cons.mp hother with rfl | hother
        · exact hnew
        · have hother := huns other hother
          split at hother
          · cases hother
          · exact hother
      · simp [Discovery.record]
    · rintro ⟨hdist, huns, rfl⟩
      obtain ⟨hent, hdist⟩ := nodup_cons.mp hdist
      refine ⟨_, ⟨huns entry mem_cons_self, rfl⟩, hdist, fun other hother => ?_, ?_⟩
      · rw [Dict.lookup_insert_eq, if_neg]
        · exact huns other (mem_cons_of_mem _ hother)
        · intro hid
          exact hent (mem_map.mpr ⟨other, hother, hid⟩)
      · simp [Discovery.record]

theorem discoverLoader_eq (h : ∃ l, loader.discover = .ok l) :
    discoverLoader found loader =
      ((discoveredBy loader).map fun metadata => (loader, metadata)).foldlM
        (fun found entry => addDiscovered entry.1.name found entry.2) found := by
  obtain ⟨l, hl⟩ := h
  rw [discoverLoader, discoveredBy, hl, foldlM_map]

/-- The loop over the loaders passes if every loader answers and no id occurs twice. -/
theorem foldlM_discoverLoader_ok_iff :
    loaders.foldlM discoverLoader found = .ok found' ↔
      (∀ loader ∈ loaders, ∃ l, loader.discover = .ok l) ∧
      (discoveries loaders).foldlM
        (fun found entry => addDiscovered entry.1.name found entry.2) found = .ok found' := by
  induction loaders generalizing found with
  | nil => exact ⟨fun h => ⟨nofun, h⟩, And.right⟩
  | cons loader loaders ih =>
    rw [foldlM_cons, bind_ok_iff, forall_mem_cons, discoveries,
      flatMap_cons, foldlM_append, bind_ok_iff]
    simp only [ih]
    constructor
    · rintro ⟨middle, hfst, hothers, hrest⟩
      have hldr : ∃ l, loader.discover = .ok l := by
        rw [discoverLoader] at hfst
        cases hl : loader.discover with
        | ok l => exact ⟨l, rfl⟩
        | error e =>
          rw [hl] at hfst
          cases hfst
      rw [discoverLoader_eq hldr] at hfst
      exact ⟨⟨hldr, hothers⟩, middle, hfst, hrest⟩
    · rintro ⟨⟨hldr, hothers⟩, middle, hfst, hrest⟩
      rw [← discoverLoader_eq hldr] at hfst
      exact ⟨middle, hfst, hothers, hrest⟩

/-- The manager after a discovery with a load order. -/
def discoveredManager (loaders : List PluginLoader) (loadOrder : List String) : PluginManager :=
  { new loaders with
    loadOrder := loadOrder
    loaderMapping := (Discovery.record ⟨[], ∅⟩ (discoveries loaders)).seenIds }

theorem discoverAll_new_eq_ok {metadata manager} :
    discoverAll order (new loaders) = .ok (metadata, manager) ↔
      (∀ loader ∈ loaders, ∃ l, loader.discover = .ok l) ∧
      ((discovered loaders).map PluginMetadata.id).Nodup ∧
      ∃ loadOrder, resolveLoadOrder order (discovered loaders) = .ok loadOrder ∧
        metadata = discovered loaders ∧ manager = discoveredManager loaders loadOrder := by
  have hids : (discovered loaders).map PluginMetadata.id =
      (discoveries loaders).map fun entry => entry.2.id := map_map
  rw [discoverAll, bind_ok_iff, hids]
  simp only [foldlM_discoverLoader_ok_iff, foldlM_addDiscovered_ok_iff, bind_ok_iff]
  constructor
  · rintro ⟨_, ⟨hdiscover, hdist, -, rfl⟩, loadOrder, hres, hreturn⟩
    cases hreturn
    exact ⟨hdiscover, hdist, loadOrder, hres, rfl, rfl⟩
  · rintro ⟨hdiscover, hdist, loadOrder, hres, rfl, rfl⟩
    exact ⟨_, ⟨hdiscover, hdist, fun _ _ => lookup_empty _, rfl⟩, loadOrder, hres, rfl⟩

/-- The mapping has the name of the loader that found the plugin. -/
theorem lookup_loaderMapping (loadOrder)
    (hdist : ((discovered loaders).map PluginMetadata.id).Nodup) :
    (discoveredManager loaders loadOrder).loaderMapping.lookup id = some name ↔
      ∃ entry ∈ discoveries loaders, entry.2.id = id ∧ entry.1.name = name := by
  show ((discoveries loaders).foldl (fun seen entry => seen.insert entry.2.id entry.1.name)
    (∅ : Dict String String)).lookup id = some name ↔ _
  rcases Dict.lookup_foldl_insert_cases (fun entry : PluginLoader × PluginMetadata => entry.2.id)
    (fun entry => entry.1.name) (discoveries loaders) ∅ id with
    ⟨entry, hent, hid, hget⟩ | ⟨hnone, hget⟩
  · rw [hget, Option.some.injEq]
    constructor
    · rintro rfl
      exact ⟨entry, hent, hid, rfl⟩
    · rintro ⟨other, hother, hid', rfl⟩
      rw [discovered, map_map] at hdist
      rw [inj_on_of_nodup_map hdist hent hother (hid.trans hid'.symm)]
  · rw [hget, lookup_empty]
    exact ⟨nofun, fun ⟨entry, hent, hid, _⟩ => absurd hid (hnone entry hent)⟩

/-! ### The loop over the loaders -/

/-- The name of a loader whose `on_load` fails is kept. -/
theorem mem_failedLoaders {entries : List (PluginLoader × Nat)} {s} :
    name ∈ (entries.foldl startLoader s).failedLoaders ↔
      name ∈ s.failedLoaders ∨ ∃ entry ∈ entries, entry.1.name = name ∧ entry.1.onLoad ≠ .ok () := by
  induction entries generalizing s with
  | nil => simp
  | cons entry entries ih =>
    rw [foldl_cons, ih, startLoader]
    cases hload : entry.1.onLoad with
    | ok _ => simp [hload]
    | error e => simp [hload, or_assoc, or_left_comm, eq_comm]

/-- The loop over the loaders calls `on_load` of each. -/
theorem calls_foldl_startLoader (entries : List (PluginLoader × Nat)) (s) :
    (entries.foldl startLoader s).calls =
      s.calls ++ entries.map fun entry => .onLoad entry.2 entry.1.onLoad.isOk := by
  induction entries generalizing s with
  | nil => simp
  | cons entry entries ih =>
    rw [foldl_cons, ih, startLoader]
    cases hload : entry.1.onLoad <;> simp [hload, Except.isOk, Except.toBool]

/-! ### The loop over the plugins -/

/-- What a loader answers to `load`. -/
structure LoadAnswer where
  loaderName : String
  position : Nat
  result : Except String Plugin

/-- The answer of the plugin's loader, if it is known and has started. -/
def answerFor (manager : PluginManager) (failedLoaders : List String) (id : String) :
    Option LoadAnswer :=
  (manager.loaderMapping.lookup id).bind fun name =>
    if name ∈ failedLoaders then none
    else (manager.findLoader name).map fun found => ⟨name, found.2, found.1.load id⟩

/-- The calls for a plugin. -/
def callsFor (id : String) : Option LoadAnswer → List PluginCall
  | none => []
  | some ⟨_, position, .error _⟩ => [.load position id false]
  | some ⟨_, position, .ok plugin⟩ =>
    match plugin.onEnable with
    | .ok () => [.load position id true, .onEnable id true]
    | .error _ => [.load position id true, .onEnable id false, .cleanup id]

/-- The entry of a plugin that is loaded and enabled. -/
def entryFor (id : String) : Option LoadAnswer → Option LoadedPlugin
  | some ⟨name, _, .ok plugin⟩ =>
    match plugin.onEnable with
    | .ok () => some ⟨plugin, id, plugin.metadata, name⟩
    | .error _ => none
  | _ => none

/-- `on_enable` is called for a plugin that was loaded, with the answer it gives. -/
theorem onEnable_mem_callsFor {id' answer ok} :
    .onEnable id' ok ∈ callsFor id answer ↔ id' = id ∧ ∃ plugin,
      (∃ name position, answer = some ⟨name, position, .ok plugin⟩) ∧
        plugin.onEnable.isOk = ok := by
  rcases answer with _ | ⟨name, position, e | plugin⟩
  · simp [callsFor]
  · simp [callsFor]
  · cases hen : plugin.onEnable <;>
      simp [callsFor, hen, Except.isOk, Except.toBool, eq_comm]

/-- What the loop does to the manager with the plugins `ids`. -/
structure Extends (manager : PluginManager) (failedLoaders ids : List String)
    (after : PluginManager) : Prop where
  loaders : after.loaders = manager.loaders
  mapping : after.loaderMapping = manager.loaderMapping
  calls : after.calls =
    manager.calls ++ ids.flatMap fun id => callsFor id (manager.answerFor failedLoaders id)
  plugins : after.plugins =
    manager.plugins ++ ids.filterMap fun id => entryFor id (manager.answerFor failedLoaders id)
  others : ∀ id, id ∉ ids → after.states.lookup id = manager.states.lookup id
  states : ids.Nodup → ∀ id ∈ ids, manager.states.lookup id = none →
    (after.states.lookup id = some .enabled ↔
      (entryFor id (manager.answerFor failedLoaders id)).isSome = true)

section

variable {manager after : PluginManager} {failedLoaders : List String} {id : String}

/-- One iteration, from what it does with the answer for its plugin. -/
theorem Extends.of_answer {answer} (hans : manager.answerFor failedLoaders id = answer)
    (hlds : after.loaders = manager.loaders)
    (hmapping : after.loaderMapping = manager.loaderMapping)
    (hcalls : after.calls = manager.calls ++ callsFor id answer)
    (hplugins : after.plugins = manager.plugins ++ (entryFor id answer).toList)
    (hothers : ∀ other, other ≠ id → after.states.lookup other = manager.states.lookup other)
    (hst : manager.states.lookup id = none →
      (after.states.lookup id = some .enabled ↔ (entryFor id answer).isSome = true)) :
    Extends manager failedLoaders [id] after := by
  subst hans
  refine ⟨hlds, hmapping, ?_, ?_, fun other hother => ?_, fun _ other hother => ?_⟩
  · rw [hcalls, flatMap_singleton]
  · rw [hplugins]
    cases hent : entryFor id (manager.answerFor failedLoaders id) <;> simp [hent]
  · exact hothers other fun h => hother (mem_singleton.mpr h)
  · rw [mem_singleton.mp hother]
    exact hst

theorem extends_enablePlugin (manager errors failedLoaders id) :
    Extends manager failedLoaders [id] (enablePlugin failedLoaders (manager, errors) id).1 := by
  have hidle (hans : manager.answerFor failedLoaders id = none) :
      Extends manager failedLoaders [id] manager :=
    .of_answer hans rfl rfl (by simp [callsFor]) (by simp [entryFor]) (fun _ _ => rfl)
      (by simp +contextual [entryFor])
  simp only [enablePlugin]
  cases hname : manager.loaderMapping.lookup id with
  | none => exact hidle (by simp [answerFor, hname])
  | some name =>
    by_cases hfail : name ∈ failedLoaders
    · have hans : manager.answerFor failedLoaders id = none := by
        simp [answerFor, hname, hfail]
      simp only [if_pos hfail]
      exact .of_answer hans rfl rfl (by simp [callsFor, setState]) (by simp [entryFor, setState])
        (fun _ => lookup_insert_ne) (by simp [entryFor, setState])
    · simp only [if_neg hfail]
      cases hfind : manager.findLoader name with
      | none => exact hidle (by simp [answerFor, hname, hfind])
      | some found =>
        obtain ⟨loader, position⟩ := found
        have hans : manager.answerFor failedLoaders id =
            some ⟨name, position, loader.load id⟩ := by
          simp [answerFor, hname, hfail, hfind]
        simp only
        cases hload : loader.load id with
        | error e =>
          rw [hload] at hans
          exact .of_answer hans rfl rfl rfl (by simp [entryFor, call, setState])
            (fun _ => lookup_insert_ne) (by simp [entryFor, call, setState])
        | ok plugin =>
          rw [hload] at hans
          simp only [enableLoaded]
          cases hen : plugin.onEnable
          all_goals
            refine .of_answer hans rfl rfl ?_ ?_ (fun other hother => ?_) ?_
            · simp [callsFor, hen, call, setState]
            · simp [entryFor, hen, call, setState]
            · simp [call, setState, lookup_insert_ne hother]
            · simp [entryFor, hen, call, setState]

/-- The whole loop. -/
theorem extends_foldl (manager errors failedLoaders ids) :
    Extends manager failedLoaders ids
      (ids.foldl (enablePlugin failedLoaders) (manager, errors)).1 := by
  induction ids generalizing manager errors with
  | nil => exact ⟨rfl, rfl, by simp, by simp, fun _ _ => rfl, nofun⟩
  | cons id ids ih =>
    have hfst := extends_enablePlugin manager errors failedLoaders id
    have hrest := ih (enablePlugin failedLoaders (manager, errors) id).1
      (enablePlugin failedLoaders (manager, errors) id).2
    -- the loaders stay as they are, and so do their answers
    have hans : (enablePlugin failedLoaders (manager, errors) id).1.answerFor failedLoaders =
        manager.answerFor failedLoaders := by
      funext id'
      simp only [answerFor, findLoader, hfst.loaders, hfst.mapping]
    refine ⟨hrest.loaders.trans hfst.loaders, hrest.mapping.trans hfst.mapping, ?_, ?_, ?_, ?_⟩
    · rw [foldl_cons, hrest.calls, hfst.calls, hans]
      simp
    · rw [foldl_cons, hrest.plugins, hfst.plugins, hans, append_assoc,
        ← filterMap_append, singleton_append]
    · intro other hother
      rw [mem_cons, not_or] at hother
      exact (hrest.others other hother.2).trans
        (hfst.others other fun h => hother.1 (mem_singleton.mp h))
    · intro hdist other hother hnone
      obtain ⟨hid, hdist⟩ := nodup_cons.mp hdist
      rw [foldl_cons]
      rcases mem_cons.mp hother with rfl | hother
      · rw [hrest.others other hid]
        exact hfst.states (nodup_singleton _) other mem_cons_self hnone
      · have hne : other ∉ [id] := fun h => hid (mem_singleton.mp h ▸ hother)
        rw [hrest.states hdist other hother ((hfst.others other hne).trans hnone), hans]

end

/-! ### From the loaders to the calls -/

theorem findLoader_iff (manager : PluginManager) :
    (∃ position, manager.findLoader name = some (loader, position)) ↔
      (manager.loaders.find? fun loader => loader.name = name) = some loader := by
  have hfind : (manager.findLoader name).map Prod.fst =
      manager.loaders.find? fun loader => loader.name = name := by
    rw [← zipIdx_map_fst 0 manager.loaders, List.find?_map]
    rfl
  rw [← hfind, Option.map_eq_some_iff]
  constructor
  · rintro ⟨position, h⟩
    exact ⟨_, h, rfl⟩
  · rintro ⟨⟨_, position⟩, h, rfl⟩
    exact ⟨position, h⟩

/-- The loaders that failed to start. -/
def failedLoaders (loaders : List PluginLoader) : List String :=
  (loaders.zipIdx.foldl startLoader ⟨[], [], [], []⟩).failedLoaders

theorem mem_failedLoaders_iff :
    name ∈ failedLoaders loaders ↔
      ∃ loader ∈ loaders, loader.name = name ∧ loader.onLoad ≠ .ok () := by
  rw [failedLoaders, mem_failedLoaders, or_iff_right not_mem_nil]
  constructor
  · rintro ⟨entry, hent, h⟩
    exact ⟨entry.1, fst_mem_of_mem_zipIdx hent, h⟩
  · rintro ⟨loader, hldr, h⟩
    rw [← zipIdx_map_fst 0 loaders] at hldr
    obtain ⟨entry, hent, rfl⟩ := mem_map.mp hldr
    exact ⟨entry, hent, h⟩

/-- The answer for a plugin after the discovery. -/
def answer (loaders : List PluginLoader) (id : String) : Option LoadAnswer :=
  (discoveredManager loaders []).answerFor (failedLoaders loaders) id

/-- It names the loader that found the plugin. -/
theorem answer_eq_some {position result} :
    answer loaders id = some ⟨name, position, result⟩ ↔
      (discoveredManager loaders []).loaderMapping.lookup id = some name ∧
      name ∉ failedLoaders loaders ∧ ∃ loader,
        (discoveredManager loaders []).findLoader name = some (loader, position) ∧
          loader.load id = result := by
  rw [answer, answerFor, Option.bind_eq_some_iff]
  constructor
  · rintro ⟨name', hname, h⟩
    split at h
    · cases h
    · obtain ⟨⟨loader, _⟩, hfind, h⟩ := Option.map_eq_some_iff.mp h
      cases h
      exact ⟨hname, ‹_›, loader, hfind, rfl⟩
  · rintro ⟨hname, hstd, loader, hfind, rfl⟩
    exact ⟨name, hname, by rw [if_neg hstd, hfind]; rfl⟩

/-- After the discovery, what is loaded is what the loaders answer. -/
theorem answer_ok_iff (hdist : ((discovered loaders).map PluginMetadata.id).Nodup) {plugin} :
    (∃ name position, answer loaders id = some ⟨name, position, .ok plugin⟩) ↔
      LoadsAs loaders id plugin := by
  simp only [answer_eq_some]
  constructor
  · rintro ⟨name, position, hname, hstd, loader, hfind, hload⟩
    obtain ⟨entry, hent, hid, rfl⟩ := (lookup_loaderMapping [] hdist).mp hname
    refine ⟨entry, hent, hid, fun other hother hsame => ?_, loader,
      (findLoader_iff _).mp ⟨position, hfind⟩, hload⟩
    by_contra hfail
    exact hstd (mem_failedLoaders_iff.mpr ⟨other, hother, hsame, hfail⟩)
  · rintro ⟨entry, hent, hid, hstd, loader, hfind, hload⟩
    obtain ⟨position, hfind⟩ := (findLoader_iff (discoveredManager loaders [])).mpr hfind
    refine ⟨entry.1.name, position,
      (lookup_loaderMapping [] hdist).mpr ⟨entry, hent, hid, rfl⟩, fun hmem => ?_, loader,
      hfind, hload⟩
    obtain ⟨other, hother, hsame, hfail⟩ := mem_failedLoaders_iff.mp hmem
    exact hfail (hstd other hother hsame)

/-- The manager after `load_and_enable_all`. -/
structure AllTried (loaders : List PluginLoader) (loadOrder : List String)
    (manager : PluginManager) : Prop where
  found : manager.loaders = loaders
  calls : ∃ started, (∀ call ∈ started, ∃ loader ok, call = .onLoad loader ok) ∧
    manager.calls = started ++ loadOrder.flatMap fun id => callsFor id (answer loaders id)
  plugins : manager.plugins = loadOrder.filterMap fun id => entryFor id (answer loaders id)
  states : loadOrder.Nodup → ∀ id, manager.states.lookup id = some .enabled ↔
    id ∈ loadOrder ∧ (entryFor id (answer loaders id)).isSome = true

theorem allTried_loadAndEnableAll (loaders loadOrder) :
    AllTried loaders loadOrder (discoveredManager loaders loadOrder).loadAndEnableAll.1 := by
  let start := loaders.zipIdx.foldl startLoader ⟨[], [], [], []⟩
  have hloop := extends_foldl { discoveredManager loaders loadOrder with
      loadedLoaders := start.okLoaders
      calls := start.calls } start.errors (failedLoaders loaders) loadOrder
  refine ⟨hloop.loaders, ⟨start.calls, fun call hcall => ?_, hloop.calls⟩, hloop.plugins,
    fun hdist id => ?_⟩
  · rw [calls_foldl_startLoader, nil_append] at hcall
    obtain ⟨entry, -, rfl⟩ := mem_map.mp hcall
    exact ⟨_, _, rfl⟩
  · by_cases hid : id ∈ loadOrder
    · exact (hloop.states hdist id hid rfl).trans (and_iff_right hid).symm
    · refine iff_of_false (fun h => ?_) fun h => hid h.1
      cases (hloop.others id hid).symm.trans h

theorem startAll_eq_ok {result} :
    startAll order loaders = .ok result ↔
      (∀ loader ∈ loaders, ∃ l, loader.discover = .ok l) ∧
      ((discovered loaders).map PluginMetadata.id).Nodup ∧
      ∃ loadOrder, resolveLoadOrder order (discovered loaders) = .ok loadOrder ∧
        result = (discoveredManager loaders loadOrder).loadAndEnableAll := by
  rw [startAll, bind_ok_iff]
  constructor
  · rintro ⟨⟨metadata, manager⟩, hdiscover, hreturn⟩
    obtain ⟨hanss, hdist, loadOrder, hres, -, rfl⟩ := discoverAll_new_eq_ok.mp hdiscover
    exact ⟨hanss, hdist, loadOrder, hres, (Except.ok.inj hreturn).symm⟩
  · rintro ⟨hanss, hdist, loadOrder, hres, rfl⟩
    exact ⟨_, discoverAll_new_eq_ok.mpr ⟨hanss, hdist, loadOrder, hres, rfl, rfl⟩, rfl⟩

/-- What holds of the manager after the start depends on the loaders alone, if it does so for every
load order. -/
theorem forall_startAll_iff {P : PluginManager → Prop} {Q : Prop}
    (h : ∀ loadOrder manager, Discoverable loaders → LoadOrder (discovered loaders) loadOrder →
      AllTried loaders loadOrder manager → (P manager ↔ Q)) :
    (∀ manager errors, startAll order loaders = .ok (manager, errors) → P manager) ↔
      (Discoverable loaders → Q) := by
  constructor
  · intro hall hdisc
    obtain ⟨loadOrder, hres⟩ := (resolveLoadOrder_ok_iff order hdisc.distinct).mpr
      ⟨hdisc.required, hdisc.acyclic⟩
    exact (h loadOrder _ hdisc (LoadOrder.of_resolveLoadOrder order hdisc.distinct hres)
      (allTried_loadAndEnableAll loaders loadOrder)).mp (hall _ _ (startAll_eq_ok.mpr
        ⟨hdisc.discover, hdisc.distinct, loadOrder, hres, rfl⟩))
  · intro hall manager errors hstart
    obtain ⟨hanss, hdist, loadOrder, hres, hresult⟩ := startAll_eq_ok.mp hstart
    obtain ⟨havail, hacyc⟩ := (resolveLoadOrder_ok_iff order hdist).mp ⟨loadOrder, hres⟩
    have hdisc : Discoverable loaders := ⟨hanss, hdist, havail, hacyc⟩
    refine (h loadOrder manager hdisc
      (LoadOrder.of_resolveLoadOrder order hdist hres) ?_).mpr (hall hdisc)
    have htried := allTried_loadAndEnableAll loaders loadOrder
    rwa [← hresult] at htried

/-! ### The order of the calls -/

section

variable {loaders : List PluginLoader} {loadOrder : List String} {started : List PluginCall}

/-- The calls of `on_enable` after the plugins of `done` were tried. -/
theorem onEnable_mem_iff (hdist : ((discovered loaders).map PluginMetadata.id).Nodup)
    (hstd : ∀ call ∈ started, ∃ loader ok, call = .onLoad loader ok) {done : List String}
    {ok : Bool} :
    .onEnable id ok ∈ started ++ done.flatMap (fun id => callsFor id (answer loaders id)) ↔
      id ∈ done ∧ ∃ plugin, LoadsAs loaders id plugin ∧ plugin.onEnable.isOk = ok := by
  have hnone : .onEnable id ok ∉ started := by
    intro hmem
    obtain ⟨loader, ok', hcall⟩ := hstd _ hmem
    cases hcall
  rw [mem_append, or_iff_right hnone, mem_flatMap]
  simp only [onEnable_mem_callsFor, answer_ok_iff hdist]
  constructor
  · rintro ⟨_, hid, rfl, h⟩
    exact ⟨hid, h⟩
  · rintro ⟨hid, h⟩
    exact ⟨id, hid, rfl, h⟩

/-- The calls for one plugin keep the order, if the required plugins were enabled before. -/
theorem EnabledInOrder.append {plugins : List PluginMetadata} {calls : List PluginCall}
    {answer : Option LoadAnswer} (h : EnabledInOrder plugins calls)
    (hreq : (∃ name position plugin, answer = some ⟨name, position, .ok plugin⟩) →
      ∀ plugin ∈ plugins, plugin.id = id → ∀ dep ∈ plugin.dependencies, dep.optional = false →
        .onEnable dep.id true ∈ calls) : EnabledInOrder plugins (calls ++ callsFor id answer) := by
  have hother : ∀ {calls : List PluginCall} {call : PluginCall}, EnabledInOrder plugins calls →
      (∀ id ok, call ≠ .onEnable id ok) → EnabledInOrder plugins (calls ++ [call]) :=
    fun h hcall => Trace.Each.snoc h fun id ok heq => absurd heq (hcall id ok)
  rcases answer with _ | ⟨name, position, e | plugin⟩
  · rw [callsFor, append_nil]
    exact h
  · exact hother h nofun
  · -- the loader is called first, so `on_enable` comes after one more call
    have hen : ∀ ok, EnabledInOrder plugins
        (calls ++ [.load position id true] ++ [.onEnable id ok]) := by
      refine fun ok => Trace.Each.snoc (hother h nofun) fun id' ok' heq p hp hid dep hdep hopt => ?_
      cases heq
      exact mem_append_left _ (hreq ⟨name, position, plugin, rfl⟩ p hp hid dep hdep hopt)
    rw [callsFor]
    split
    · rw [append_cons]
      exact hen true
    · rw [append_cons, append_cons]
      exact hother (hen false) nofun

/-- If the plugins that are loaded require only plugins that are enabled, the loop keeps the
order. -/
theorem enabledInOrder_of_required (hdisc : Discoverable loaders)
    (hord : LoadOrder (discovered loaders) loadOrder)
    (hstd : ∀ call ∈ started, ∃ loader ok, call = .onLoad loader ok)
    (hreq : ∀ plugin ∈ discovered loaders, Loads loaders plugin.id →
      ∀ dep ∈ plugin.dependencies, dep.optional = false → Enables loaders dep.id)
    {done rest : List String} (hrest : loadOrder = done ++ rest) :
    EnabledInOrder (discovered loaders)
      (started ++ done.flatMap fun id => callsFor id (answer loaders id)) := by
  induction done using List.reverseRecOn generalizing rest with
  | nil =>
    intro before call after hsplit id ok hcall
    obtain ⟨_, _, hload⟩ := hstd call (by
      rw [flatMap_nil, append_nil] at hsplit
      exact hsplit ▸ mem_append_right _ mem_cons_self)
    rw [hcall] at hload
    cases hload
  | append_singleton done id ih =>
    rw [← append_cons] at hrest
    rw [flatMap_append, flatMap_singleton, ← append_assoc]
    refine (ih hrest).append fun ⟨name, position, p, hans⟩ plugin hplug hid dep hdep hopt => ?_
    subst hid
    have hloads := (answer_ok_iff hdisc.distinct).mp ⟨name, position, hans⟩
    obtain ⟨p', hp', hok⟩ := hreq plugin hplug ⟨p, hloads⟩ dep hdep hopt
    -- the dependency is earlier in the load order, so it was tried
    have hpre := hord.before done plugin.id rest hrest dep.id
      ⟨hdisc.required plugin hplug dep hdep hopt, plugin, hplug, rfl, dep, hdep, rfl⟩
    exact (onEnable_mem_iff hdisc.distinct hstd).mpr ⟨hpre, p', hp', by rw [hok]; rfl⟩

end

/-- Plugins are enabled in order, unless a plugin can be loaded that requires one that cannot be
loaded or enabled. -/
theorem onEnable_after_required_iff (order : Dict.Order String Nat) (loaders : List PluginLoader) :
    (∀ manager errors, startAll order loaders = .ok (manager, errors) →
      EnabledInOrder (discovered loaders) manager.calls) ↔
    (Discoverable loaders → ∀ plugin ∈ discovered loaders, Loads loaders plugin.id →
      ∀ dep ∈ plugin.dependencies, dep.optional = false → Enables loaders dep.id) := by
  refine forall_startAll_iff fun loadOrder manager hdisc hord htried => ?_
  obtain ⟨started, hstd, hcalls⟩ := htried.calls
  rw [hcalls]
  constructor
  · intro h plugin hplug ⟨p, hp⟩ dep hdep hopt
    have hid : plugin.id ∈ loadOrder := hord.perm.mem_iff.mpr (mem_map_of_mem hplug)
    -- the plugin is loaded, so its `on_enable` is called
    have hcalled := (onEnable_mem_iff hdisc.distinct hstd).mpr ⟨hid, p, hp, rfl⟩
    obtain ⟨before, after, hsplit⟩ := append_of_mem hcalled
    have hpre := h before _ after hsplit _ _ rfl plugin hplug rfl dep hdep hopt
    obtain ⟨-, p', hp', hok⟩ := (onEnable_mem_iff hdisc.distinct hstd).mp
      (hsplit ▸ mem_append_left _ hpre)
    refine ⟨p', hp', ?_⟩
    cases hans : p'.onEnable with
    | ok _ => rfl
    | error e =>
      rw [hans] at hok
      cases hok
  · exact fun h => enabledInOrder_of_required hdisc hord hstd h (append_nil _).symm

/-- A loader of two plugins: `auth` requires `database`, whose `on_enable` fails. -/
def databaseFails : PluginLoader where
  name := "static"
  discover := .ok [⟨"auth", [⟨"database", false⟩]⟩, ⟨"database", []⟩]
  onLoad := .ok ()
  load id :=
    if id = "database" then
      .ok ⟨⟨"database", []⟩, .error (.initFailed "connection refused"), .ok ()⟩
    else .ok ⟨⟨"auth", [⟨"database", false⟩]⟩, .ok (), .ok ()⟩
  unload _ := .ok ()
  onShutdown := .ok ()

/-- `auth` is enabled although `database` is not. -/
theorem enabled_without_required :
    ∃ manager errors, startAll Dict.Order.entries [databaseFails] = .ok (manager, errors) ∧
      manager.calls = [.onLoad 0 true, .load 0 "database" true, .onEnable "database" false,
        .cleanup "database", .load 0 "auth" true, .onEnable "auth" true] ∧
      ¬EnabledInOrder (discovered [databaseFails]) manager.calls := by
  refine exists_ok_imp (by decide) fun manager hcalls h => ?_
  rw [hcalls] at h
  have hreq := h [.onLoad 0 true, .load 0 "database" true, .onEnable "database" false,
    .cleanup "database", .load 0 "auth" true] _ [] rfl "auth" true rfl
    ⟨"auth", [⟨"database", false⟩]⟩ (by decide) rfl ⟨"database", false⟩ (by decide) rfl
  revert hreq
  decide

end PluginManager

end Infrarust
