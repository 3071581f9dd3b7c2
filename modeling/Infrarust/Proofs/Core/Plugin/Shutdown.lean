import Infrarust.Proofs.Core.Plugin.Manager

/-!
# `Infrarust.Proofs.Core.Plugin.Shutdown`: what is released at shutdown

`shutdown` goes through the plugins that were enabled: it disables them, last one first, and then
unloads them. A plugin that was loaded but failed in its own `on_enable` is in no list of the
manager, so it is never unloaded. The id that is unloaded is the one in the plugin's metadata, and
the loader is the first one of its loader's name.

A `Ledger` has what a list of calls amounts to: `AllTried.ledger_calls` is the one after
`load_and_enable_all`, and `ledger_shutdown` the one at the end. The main fact is `released_iff`:
every plugin that was loaded is unloaded once by the loader that found it, and plugins are disabled
in the reverse order, if and only if the loaders are `Releasable`. With one loader for each name and
plugins that keep the id they were found under, that is to say that no plugin fails in `on_enable`
(`releasable_iff_of_keepsIds`).
-/

set_option autoImplicit false

namespace Infrarust

open LoadedPlugin List

namespace PluginManager

/-! ### What the calls amount to -/

/-- The plugins that were loaded, enabled, disabled and unloaded, in the order of the calls. An
unloaded plugin is listed with the position of the loader. -/
@[ext] structure Ledger where
  loaded : List String
  enabled : List String
  disabled : List String
  unloaded : List (Nat × String)
deriving DecidableEq, Repr

def Ledger.note (ledger : Ledger) : PluginCall → Ledger
  | .load _ id true => { ledger with loaded := ledger.loaded ++ [id] }
  | .onEnable id true => { ledger with enabled := ledger.enabled ++ [id] }
  | .onDisable id _ => { ledger with disabled := ledger.disabled ++ [id] }
  | .unload loader id _ => { ledger with unloaded := ledger.unloaded ++ [(loader, id)] }
  | _ => ledger

def ledger (calls : List PluginCall) : Ledger := calls.foldl Ledger.note ⟨[], [], [], []⟩

theorem ledger_append (calls calls') :
    ledger (calls ++ calls') = calls'.foldl Ledger.note (ledger calls) :=
  foldl_append

theorem ledger_call (manager : PluginManager) (c) :
    ledger (manager.call c).calls = (ledger manager.calls).note c :=
  ledger_append manager.calls [c]

/-- The loader at `position` finds the plugin `id`. -/
def FoundAt (loaders : List PluginLoader) (position : Nat) (id : String) : Prop :=
  ∃ loader, loaders[position]? = some loader ∧ ∃ metadata ∈ discoveredBy loader, metadata.id = id

/-- Every plugin that was loaded was unloaded once by the loader that found it, and the plugins
that were enabled were disabled in the reverse order. -/
structure Released (loaders : List PluginLoader) (calls : List PluginCall) : Prop where
  unloaded : ∀ position id, FoundAt loaders position id → id ∈ (ledger calls).loaded →
    (ledger calls).unloaded.count (position, id) = 1
  disabled : (ledger calls).disabled = (ledger calls).enabled.reverse

/-- A plugin that can be loaded says that its id is `id`, and the first loader of its loader's name
is at `position`. -/
def ReportedAt (loaders : List PluginLoader) (position : Nat) (id : String) : Prop :=
  ∃ entry ∈ discoveries loaders, ∃ plugin, LoadsAs loaders entry.2.id plugin ∧
    plugin.metadata.id = id ∧
    loaders.findIdx? (fun loader => loader.name = entry.1.name) = some position

/-- Every plugin that can be loaded can be enabled, and its own id is reported to its own
loader. -/
structure Releasable (loaders : List PluginLoader) : Prop where
  enables : ∀ id, Loads loaders id → Enables loaders id
  reported : ∀ position id, FoundAt loaders position id → Loads loaders id →
    ReportedAt loaders position id

/-! ### The state before the shutdown -/

variable {entry : LoadedPlugin} {loaders : List PluginLoader} {loadOrder : List String}
  {manager : PluginManager} {position : Nat} {id : String}

theorem mem_discoveries_of_foundAt (h : FoundAt loaders position id) :
    id ∈ (discovered loaders).map PluginMetadata.id := by
  obtain ⟨loader, hldr, metadata, hmeta, rfl⟩ := h
  refine mem_map_of_mem (mem_map.mpr ⟨(loader, metadata), ?_, rfl⟩)
  exact mem_flatMap.mpr ⟨loader, mem_of_getElem? hldr, mem_map_of_mem hmeta⟩

theorem Loads.foundAt (h : Loads loaders id) : ∃ position, FoundAt loaders position id := by
  obtain ⟨plugin, ⟨loader, metadata⟩, hent, rfl, -⟩ := h
  obtain ⟨loader', hldr, hmem⟩ := mem_flatMap.mp hent
  obtain ⟨metadata', hmeta, heq⟩ := mem_map.mp hmem
  obtain ⟨rfl, rfl⟩ := Prod.mk.inj heq
  obtain ⟨position, hpos⟩ := List.getElem?_of_mem hldr
  exact ⟨position, loader', hpos, metadata', hmeta, rfl⟩

theorem Loads.mem_loadOrder (h : Loads loaders id)
    (hord : loadOrder.Perm ((discovered loaders).map PluginMetadata.id)) : id ∈ loadOrder := by
  obtain ⟨_, hfound⟩ := h.foundAt
  exact hord.mem_iff.mpr (mem_discoveries_of_foundAt hfound)

def isLoaded : Option LoadAnswer → Bool
  | some ⟨_, _, .ok _⟩ => true
  | _ => false

theorem isLoaded_iff {answer} :
    isLoaded answer = true ↔
      ∃ plugin name position, answer = some ⟨name, position, .ok plugin⟩ := by
  rcases answer with _ | ⟨name, position, e | plugin⟩ <;> simp [isLoaded]

theorem entryFor_eq_some {answer} :
    entryFor id answer = some entry ↔ entry.context = id ∧
      entry.metadata = entry.plugin.metadata ∧ entry.plugin.onEnable = .ok () ∧
        ∃ position, answer = some ⟨entry.loaderName, position, .ok entry.plugin⟩ := by
  obtain ⟨plugin', context, metadata, name'⟩ := entry
  rcases answer with _ | ⟨name, position, e | plugin⟩
  · simp [entryFor]
  · simp [entryFor]
  · cases henable : plugin.onEnable with
    | ok _ =>
      simp only [entryFor, henable, Option.some.injEq, LoadedPlugin.mk.injEq,
        LoadAnswer.mk.injEq, Except.ok.injEq]
      constructor
      · rintro ⟨rfl, rfl, rfl, rfl⟩
        exact ⟨rfl, rfl, henable, position, rfl, rfl, rfl⟩
      · rintro ⟨rfl, rfl, -, _, rfl, -, rfl⟩
        exact ⟨rfl, rfl, rfl, rfl⟩
    | error e =>
      simp only [entryFor, henable, reduceCtorEq, Option.some.injEq, LoadAnswer.mk.injEq,
        Except.ok.injEq, false_iff]
      rintro ⟨-, -, hok, _, -, -, rfl⟩
      rw [henable] at hok
      cases hok

/-- What the calls for the plugins `ids` add to a ledger. -/
theorem foldl_note_callsFor {ids : List String} {l} :
    (ids.flatMap fun id => callsFor id (answer loaders id)).foldl Ledger.note l =
      { l with
        loaded := l.loaded ++ ids.filter fun id => isLoaded (answer loaders id)
        enabled := l.enabled ++
          (ids.filterMap fun id => entryFor id (answer loaders id)).map context } := by
  induction ids generalizing l with
  | nil => simp
  | cons id ids ih =>
    rw [flatMap_cons, foldl_append, ih, filter_cons, filterMap_cons]
    rcases answer loaders id with _ | ⟨name, position, e | plugin⟩
    · simp [callsFor, isLoaded, entryFor]
    · simp [callsFor, isLoaded, entryFor, Ledger.note]
    · cases henable : plugin.onEnable <;>
        simp [callsFor, isLoaded, entryFor, henable, Ledger.note]

variable (htried : AllTried loaders loadOrder manager)
  (hdist : ((discovered loaders).map PluginMetadata.id).Nodup)
  (hord : loadOrder.Perm ((discovered loaders).map PluginMetadata.id))

section

include htried

theorem AllTried.ledger_calls :
    ledger manager.calls =
      ⟨loadOrder.filter fun id => isLoaded (answer loaders id),
        manager.plugins.map context, [], []⟩ := by
  obtain ⟨started, hstd, hcalls⟩ := htried.calls
  have hnone : ∀ l : Ledger, started.foldl Ledger.note l = l := by
    intro l
    clear hcalls
    induction started with
    | nil => rfl
    | cons call started ih =>
      obtain ⟨loader, ok, rfl⟩ := hstd call mem_cons_self
      exact ih fun call hcall => hstd call (mem_cons_of_mem _ hcall)
  rw [hcalls, ledger_append, foldl_note_callsFor, ledger, hnone, htried.plugins]
  rfl

theorem AllTried.mem_plugins :
    entry ∈ manager.plugins ↔ entry.context ∈ loadOrder ∧
      entry.metadata = entry.plugin.metadata ∧ entry.plugin.onEnable = .ok () ∧ ∃ position,
        answer loaders entry.context = some ⟨entry.loaderName, position, .ok entry.plugin⟩ := by
  rw [htried.plugins, mem_filterMap]
  simp only [entryFor_eq_some]
  constructor
  · rintro ⟨_, hid, rfl, h⟩
    exact ⟨hid, h⟩
  · rintro ⟨hid, h⟩
    exact ⟨_, hid, rfl, h⟩

include hdist

theorem AllTried.loadsAs (hent : entry ∈ manager.plugins) :
    LoadsAs loaders entry.context entry.plugin := by
  obtain ⟨-, -, -, hans⟩ := htried.mem_plugins.mp hent
  exact (answer_ok_iff hdist).mp ⟨_, hans⟩

include hord

theorem AllTried.loaded_ledger_iff : id ∈ (ledger manager.calls).loaded ↔ Loads loaders id := by
  rw [htried.ledger_calls, mem_filter, isLoaded_iff]
  simp only [answer_ok_iff hdist]
  exact ⟨fun h => h.2, fun h => ⟨h.mem_loadOrder hord, h⟩⟩

theorem AllTried.distinct : (manager.plugins.map context).Nodup := by
  rw [htried.plugins, map_filterMap]
  refine List.Nodup.filterMap (fun id id' context h h' => ?_) (hord.nodup_iff.mpr hdist)
  obtain ⟨entry, hent, rfl⟩ := Option.map_eq_some_iff.mp h
  obtain ⟨entry', hent', hsame⟩ := Option.map_eq_some_iff.mp h'
  rw [← (entryFor_eq_some.mp hent).1, ← (entryFor_eq_some.mp hent').1, hsame]

/-- The plugins that were enabled have the state `Enabled`. -/
theorem AllTried.enabled_of_mem (h : id ∈ manager.plugins.map context) :
    manager.states.lookup id = some .enabled := by
  obtain ⟨entry, hent, rfl⟩ := mem_map.mp h
  obtain ⟨hmem, hfacts⟩ := htried.mem_plugins.mp hent
  refine (htried.states (hord.nodup_iff.mpr hdist) _).mpr ⟨hmem, ?_⟩
  rw [entryFor_eq_some.mpr ⟨rfl, hfacts⟩]
  rfl

end

/-! ### The loops of the shutdown -/

/-- The call to a loader that unloads the plugin of an entry: the position of the loader and the
id. -/
def unloadedBy (manager : PluginManager) (entry : LoadedPlugin) : Option (Nat × String) :=
  (manager.findLoader entry.loaderName).map fun found => (found.2, entry.metadata.id)

/-- The first loop disables every plugin, if the ids in the metadata are distinct and all have the
state `Enabled`. -/
theorem foldl_disablePlugin (entries : List LoadedPlugin) (manager) :
    (entries.foldl disablePlugin manager).loaders = manager.loaders ∧
    ∃ disabled, ledger (entries.foldl disablePlugin manager).calls =
        { ledger manager.calls with disabled := (ledger manager.calls).disabled ++ disabled } ∧
      ((entries.map fun entry => entry.metadata.id).Nodup →
        (∀ entry ∈ entries, manager.states.lookup entry.metadata.id = some .enabled) →
        disabled = entries.map context) := by
  induction entries generalizing manager with
  | nil => exact ⟨rfl, [], by simp, fun _ _ => rfl⟩
  | cons entry entries ih =>
    rw [foldl_cons]
    by_cases hen : manager.states.lookup entry.metadata.id = some .enabled
    · obtain ⟨hlds, disabled, hled, hall⟩ := ih (disablePlugin manager entry)
      rw [disablePlugin, if_pos hen] at hlds hled hall ⊢
      refine ⟨hlds, entry.context :: disabled, ?_, fun hdist hstates => ?_⟩
      · rw [hled, ledger_call, ledger_call]
        simp [Ledger.note, setState]
      · obtain ⟨hent, hdist⟩ := nodup_cons.mp hdist
        rw [map_cons, hall hdist fun other hother => ?_]
        show (manager.states.insert entry.metadata.id .disabled).lookup other.metadata.id = _
        -- the ids are distinct, so the states of the later ones are as before
        rw [AList.lookup_insert_ne, hstates other (mem_cons_of_mem _ hother)]
        exact fun hsame => hent (mem_map.mpr ⟨other, hother, hsame⟩)
    · rw [disablePlugin, if_neg hen]
      obtain ⟨hlds, disabled, hled, -⟩ := ih manager
      exact ⟨hlds, disabled, hled, fun _ hstates =>
        absurd (hstates entry mem_cons_self) hen⟩

/-- The second loop unloads every plugin whose loader is found. -/
theorem foldl_unloadPlugin (entries : List LoadedPlugin) (manager) :
    (entries.foldl unloadPlugin manager).loaders = manager.loaders ∧
    ledger (entries.foldl unloadPlugin manager).calls =
      { ledger manager.calls with
        unloaded := (ledger manager.calls).unloaded ++ entries.filterMap manager.unloadedBy } := by
  induction entries generalizing manager with
  | nil => simp
  | cons entry entries ih =>
    obtain ⟨hlds, hled⟩ := ih (unloadPlugin manager entry)
    rw [foldl_cons, hled, hlds]
    cases hfind : manager.findLoader entry.loaderName with
    | none =>
      have hskip : unloadPlugin manager entry = manager := by
        rw [unloadPlugin, hfind]
      rw [hskip, filterMap_cons_none (by rw [unloadedBy, hfind]; rfl)]
      exact ⟨rfl, rfl⟩
    | some found =>
      have hcall : unloadPlugin manager entry = manager.call (.unload found.2 entry.metadata.id
          (found.1.unload entry.metadata.id).isOk) := by
        rw [unloadPlugin, hfind]
      rw [hcall, ledger_call, filterMap_cons_some (by rw [unloadedBy, hfind]; rfl)]
      refine ⟨rfl, ?_⟩
      simp only [Ledger.note, append_assoc, singleton_append]
      rfl

/-- The third loop only tells the loaders. -/
theorem ledger_foldl_shutdownLoader (names : List String) (manager) :
    ledger (names.foldl shutdownLoader manager).calls = ledger manager.calls := by
  induction names generalizing manager with
  | nil => rfl
  | cons name names ih =>
    rw [foldl_cons, ih, shutdownLoader]
    cases manager.findLoader name with
    | none => rfl
    | some found => exact ledger_call _ _

/-- The ledger after the shutdown. -/
theorem ledger_shutdown (manager : PluginManager) :
    ∃ disabled, ledger manager.shutdown.calls =
        { ledger manager.calls with
          disabled := (ledger manager.calls).disabled ++ disabled
          unloaded := (ledger manager.calls).unloaded ++
            manager.plugins.reverse.filterMap manager.unloadedBy } ∧
      ((manager.plugins.map fun entry => entry.metadata.id).Nodup →
        (∀ entry ∈ manager.plugins, manager.states.lookup entry.metadata.id = some .enabled) →
        disabled = (manager.plugins.map context).reverse) := by
  obtain ⟨hlds, disabled, hled, hall⟩ :=
    foldl_disablePlugin manager.plugins.reverse { manager with plugins := [] }
  have hunl : (manager.plugins.reverse.foldl disablePlugin
      { manager with plugins := [] }).unloadedBy = manager.unloadedBy := by
    funext entry
    rw [unloadedBy, unloadedBy, findLoader, findLoader, hlds]
  refine ⟨disabled, ?_, fun hdist hstates => ?_⟩
  · rw [shutdown, ledger_foldl_shutdownLoader, (foldl_unloadPlugin _ _).2, hled, hunl]
  · rw [hall ?_ fun entry hent => hstates entry (mem_reverse.mp hent), map_reverse]
    rw [map_reverse]
    exact nodup_reverse.mpr hdist

/-! ### What is released -/

theorem unloadedBy_eq_some :
    manager.unloadedBy entry = some (position, id) ↔ entry.metadata.id = id ∧
      manager.loaders.findIdx? (fun loader => loader.name = entry.loaderName) = some position := by
  rw [unloadedBy, findLoader, List.findIdx?_eq_fst_find?_zipIdx]
  simp [and_comm]

theorem map_snd_unloadedBy_sublist {entries : List LoadedPlugin} :
    ((entries.filterMap manager.unloadedBy).map Prod.snd).Sublist
      (entries.map fun entry => entry.metadata.id) := by
  induction entries with
  | nil => exact .slnil
  | cons entry entries ih =>
    cases hunl : manager.unloadedBy entry with
    | none =>
      rw [filterMap_cons_none hunl]
      exact ih.cons _
    | some unloaded =>
      rw [filterMap_cons_some hunl, map_cons, map_cons, (unloadedBy_eq_some.mp hunl).1]
      exact ih.cons_cons _

section

include htried

theorem AllTried.unloaded_shutdown : (ledger manager.shutdown.calls).unloaded =
    (manager.plugins.filterMap manager.unloadedBy).reverse := by
  obtain ⟨_, hled, -⟩ := ledger_shutdown manager
  rw [hled, htried.ledger_calls, filterMap_reverse]
  rfl

include hdist

/-- What is unloaded was reported. -/
theorem AllTried.reportedAt (h : (position, id) ∈ manager.plugins.filterMap manager.unloadedBy) :
    ReportedAt loaders position id := by
  obtain ⟨entry, hent, hunl⟩ := mem_filterMap.mp h
  obtain ⟨hid, hpos⟩ := unloadedBy_eq_some.mp hunl
  obtain ⟨-, hmeta, -, _, hans⟩ := htried.mem_plugins.mp hent
  obtain ⟨found, hfound, hctx, hname⟩ :=
    (lookup_loaderMapping [] hdist).mp (answer_eq_some.mp hans).1
  refine ⟨found, hfound, entry.plugin, ?_, hmeta ▸ hid, ?_⟩
  · rw [hctx]
    exact htried.loadsAs hdist hent
  · rw [hname, ← hpos, htried.found]

include hord

/-- What is reported is unloaded, if every plugin that can be loaded can be enabled. -/
theorem AllTried.mem_unloaded (henables : ∀ id, Loads loaders id → Enables loaders id)
    (h : ReportedAt loaders position id) :
    (position, id) ∈ manager.plugins.filterMap manager.unloadedBy := by
  obtain ⟨found, hfound, plugin, hplug, rfl, hpos⟩ := h
  obtain ⟨name, position', hans⟩ := (answer_ok_iff hdist).mpr hplug
  have henable : plugin.onEnable = .ok () := by
    obtain ⟨plugin', hplug', henable⟩ := henables _ ⟨plugin, hplug⟩
    obtain ⟨_, _, hans'⟩ := (answer_ok_iff hdist).mpr hplug'
    cases hans.symm.trans hans'
    exact henable
  have hname : name = found.1.name := by
    have hget := (lookup_loaderMapping [] hdist).mpr ⟨found, hfound, rfl, rfl⟩
    exact Option.some.inj ((answer_eq_some.mp hans).1.symm.trans hget)
  have hent : ⟨plugin, found.2.id, plugin.metadata, name⟩ ∈ manager.plugins :=
    htried.mem_plugins.mpr ⟨Loads.mem_loadOrder ⟨plugin, hplug⟩ hord, rfl, henable, position', hans⟩
  refine mem_filterMap.mpr ⟨_, hent, unloadedBy_eq_some.mpr ⟨rfl, ?_⟩⟩
  rw [hname, ← hpos, htried.found]

/-- There are as many ids in the metadata as plugins, so if every plugin that can be loaded is
unloaded, every one of them was enabled and none is reported twice. -/
theorem AllTried.perm_of_unloaded
    (hunl : ∀ position id, FoundAt loaders position id → Loads loaders id →
      (position, id) ∈ manager.plugins.filterMap manager.unloadedBy) :
    (∀ id, Loads loaders id → id ∈ manager.plugins.map context) ∧
      (manager.plugins.map context).Perm (manager.plugins.map fun entry => entry.metadata.id) := by
  classical
  let loads := loadOrder.filter fun id => Loads loaders id
  have hmem : ∀ id, id ∈ loads ↔ Loads loaders id := by
    intro id
    exact ⟨fun h => of_decide_eq_true (mem_filter.mp h).2,
      fun h => mem_filter.mpr ⟨h.mem_loadOrder hord, decide_eq_true h⟩⟩
  have hnodup : loads.Nodup := (hord.nodup_iff.mpr hdist).filter _
  have hcontexts : (manager.plugins.map context).Subperm loads := by
    refine (htried.distinct hdist hord).subperm fun id hid => ?_
    obtain ⟨entry, hent, rfl⟩ := mem_map.mp hid
    exact (hmem _).mpr ⟨_, htried.loadsAs hdist hent⟩
  have hrep : loads.Subperm (manager.plugins.map fun entry => entry.metadata.id) := by
    refine hnodup.subperm fun id hid => ?_
    have hloads := (hmem id).mp hid
    obtain ⟨position, hfound⟩ := hloads.foundAt
    exact map_snd_unloadedBy_sublist.subset (mem_map_of_mem (hunl position id hfound hloads))
  have hlen := hrep.length_le
  rw [length_map, ← length_map (f := context)] at hlen
  have hperm := hcontexts.perm_of_length_le hlen
  refine ⟨fun id hid => hperm.mem_iff.mpr ((hmem id).mpr hid), hperm.trans ?_⟩
  refine hrep.perm_of_length_le ?_
  rw [← hperm.length_eq, length_map, length_map]

theorem AllTried.releasable (h : Released loaders manager.shutdown.calls) : Releasable loaders := by
  obtain ⟨disabled, hled, -⟩ := ledger_shutdown manager
  have hmem : ∀ position id, FoundAt loaders position id → Loads loaders id →
      (position, id) ∈ manager.plugins.filterMap manager.unloadedBy := by
    intro position id hfound hloads
    have hcount := h.unloaded position id hfound
      (hled ▸ (htried.loaded_ledger_iff hdist hord).mpr hloads)
    rw [htried.unloaded_shutdown, count_reverse] at hcount
    exact count_pos_iff.mp (hcount ▸ Nat.one_pos)
  refine ⟨fun id hloads => ?_, fun position id hfound hloads =>
    htried.reportedAt hdist (hmem position id hfound hloads)⟩
  have hen := (htried.perm_of_unloaded hdist hord hmem).1 id hloads
  obtain ⟨entry, hent, rfl⟩ := mem_map.mp hen
  exact ⟨entry.plugin, htried.loadsAs hdist hent, (htried.mem_plugins.mp hent).2.2.1⟩

theorem AllTried.released (h : Releasable loaders) : Released loaders manager.shutdown.calls := by
  obtain ⟨disabled, hled, hall⟩ := ledger_shutdown manager
  have hmem : ∀ position id, FoundAt loaders position id → Loads loaders id →
      (position, id) ∈ manager.plugins.filterMap manager.unloadedBy :=
    fun position id hfound hloads =>
      htried.mem_unloaded hdist hord h.enables (h.reported position id hfound hloads)
  have hperm := (htried.perm_of_unloaded hdist hord hmem).2
  have hrep := hperm.nodup_iff.mp (htried.distinct hdist hord)
  constructor
  · intro position id hfound hldd
    rw [hled] at hldd
    rw [htried.unloaded_shutdown, count_reverse]
    exact count_eq_one_of_mem ((hrep.sublist (map_snd_unloadedBy_sublist)).of_map _)
      (hmem position id hfound ((htried.loaded_ledger_iff hdist hord).mp hldd))
  · rw [hled, htried.ledger_calls, nil_append]
    exact hall hrep fun entry hent => htried.enabled_of_mem hdist hord
      (hperm.mem_iff.mpr (mem_map_of_mem hent))

end

/-- Every plugin that was loaded is unloaded once by the loader that found it, and the plugins are
disabled in the reverse order, if and only if all plugins that can be loaded can be enabled, and
their ids are reported to the loaders that found them. -/
theorem released_iff (order : Dict.Order String Nat) (loaders : List PluginLoader) :
    (∀ manager errors, startAll order loaders = .ok (manager, errors) →
      Released loaders manager.shutdown.calls) ↔
    (Discoverable loaders → Releasable loaders) := by
  refine forall_startAll_iff fun loadOrder manager hdisc hord htried => ?_
  exact ⟨htried.releasable hdisc.distinct hord.perm, htried.released hdisc.distinct hord.perm⟩

/-- No two loaders have one name, and a plugin has the id that it is loaded by. -/
structure KeepsIds (loaders : List PluginLoader) : Prop where
  names : (loaders.map PluginLoader.name).Nodup
  ids : ∀ id plugin, LoadsAs loaders id plugin → plugin.metadata.id = id

/-- Loaders that keep names and ids apart are left with one condition. -/
theorem releasable_iff_of_keepsIds {loaders} (h : KeepsIds loaders) :
    Releasable loaders ↔ ∀ id, Loads loaders id → Enables loaders id := by
  refine ⟨Releasable.enables, fun henables => ⟨henables, fun position id hfound hloads => ?_⟩⟩
  obtain ⟨loader, hldr, metadata, hmeta, rfl⟩ := hfound
  obtain ⟨plugin, hplug⟩ := hloads
  refine ⟨(loader, metadata), ?_, plugin, hplug, h.ids _ _ hplug, ?_⟩
  · exact mem_flatMap.mpr ⟨loader, mem_of_getElem? hldr, mem_map_of_mem hmeta⟩
  · obtain ⟨hpos, rfl⟩ := List.getElem?_eq_some_iff.mp hldr
    rw [List.findIdx?_eq_some_iff_getElem]
    refine ⟨hpos, decide_eq_true rfl, fun earlier hearlier hsame => ?_⟩
    have hnames := nodup_iff_injective_getElem.mp h.names
    have heq := @hnames ⟨earlier, by simp; omega⟩ ⟨position, by simpa using hpos⟩
      (by simpa using hsame)
    exact absurd (Fin.mk.inj heq) (Nat.ne_of_lt hearlier)

/-- `database` is loaded and fails in `on_enable`. Its loader is never asked to unload it. -/
theorem database_never_unloaded :
    ∃ manager errors, startAll Dict.Order.entries [databaseFails] = .ok (manager, errors) ∧
      manager.shutdown.calls = [.onLoad 0 true, .load 0 "database" true,
        .onEnable "database" false, .cleanup "database", .load 0 "auth" true,
        .onEnable "auth" true, .onDisable "auth" true, .cleanup "auth", .unload 0 "auth" true,
        .onShutdown 0 true] ∧
      ¬Released [databaseFails] manager.shutdown.calls := by
  refine Check.exists_ok_imp (by decide) fun manager hcalls h => ?_
  have hfound : FoundAt [databaseFails] 0 "database" :=
    ⟨databaseFails, rfl, ⟨"database", []⟩, .tail _ (.head _), rfl⟩
  have hunl := h.unloaded 0 "database" hfound
  rw [hcalls] at hunl
  exact absurd (hunl (by decide)) (by decide)

end PluginManager

end Infrarust
