import Infrarust.Core.Provider.File
import Infrarust.Proofs.Core.Routing.Table

/-!
# `Infrarust.Proofs.Core.Provider.File`: reloading against restarting

A directory serves a table of configurations. A scan reports one event for every id whose
configuration is not the known one (`serves_iff_of_not_mem_ids`), and every event brings its id
to the new table, so by `run_settles` the router reflects the new table again.

This needs the files of each scan to keep apart: valid, with names that are text, and with
no exact domain or wildcard match in common. `reload_eq_restart` is the result: after any
history of such scans the router resolves like one that has just loaded the last of them.
`reload_forgets_shared_domain` is a history with two files that share a domain.
-/

set_option autoImplicit false

namespace Infrarust

open Directory List Machine

section Spec

variable (parse : String → Option ServerConfig) (strings : Strings)

/-- The directory has a file `name` that loads as `config`. -/
def Directory.Has (dir : Directory) (name : OsName) (config : ServerConfig) : Prop :=
  ∃ entry ∈ dir.entries, entry.name = name ∧ name.isToml = true ∧
    loadServerConfig parse entry = .ok config

/-- The configurations of a directory, under the ids the provider gives them. -/
def Directory.serves (dir : Directory) : ServerTable := fun id config =>
  ∃ name, dir.Has parse name config ∧ id = name.providerId

/-- Every server file can be loaded. -/
def Directory.Valid (dir : Directory) : Prop :=
  ∀ entry ∈ dir.entries, entry.name.isToml = true →
    ∃ config, loadServerConfig parse entry = .ok config

/-- The server files have names that are text and share no exact domain and no wildcard
match. -/
structure Directory.KeepsApart (dir : Directory) : Prop where
  utf8 : ∀ entry ∈ dir.entries, entry.name.isToml = true → entry.name.toStr.isSome
  exact : ∀ id id' c c' d, dir.serves parse id c → dir.serves parse id' c' →
    c.Lists strings d → c'.Lists strings d → id = id'
  wildcards : (dir.serves parse).WildcardsApart strings

end Spec

variable {parse : String → Option ServerConfig} {strings : Strings}

/-! ### Names and tables -/

variable {name : OsName} {dir : Directory} {c : ServerConfig} {entry : DirEntry}
  {config : ServerConfig}

theorem OsName.providerId_inj {name' : OsName} (h : name.toStr.isSome) (h' : name'.toStr.isSome)
    (hid : name.providerId = name'.providerId) : name = name' := by
  cases name <;> cases name' <;> simp_all [OsName.toStr, OsName.providerId, ProviderId.file]

theorem Directory.Has.functional {c'} (h : dir.Has parse name c)
    (h' : dir.Has parse name c') : c = c' := by
  obtain ⟨entry, hent, hname, -, hload⟩ := h
  obtain ⟨entry', hent', hname', -, hload'⟩ := h'
  obtain rfl : entry = entry' := inj_on_of_nodup_map dir.nodup hent hent' (hname.trans hname'.symm)
  exact Except.ok.inj (hload.symm.trans hload')

theorem Directory.Has.utf8 (hdir : dir.KeepsApart parse strings) (h : dir.Has parse name c) :
    name.toStr.isSome := by
  obtain ⟨entry, hent, rfl, htoml, -⟩ := h
  exact hdir.utf8 entry hent htoml

theorem Directory.KeepsApart.separate (hdir : dir.KeepsApart parse strings) :
    (dir.serves parse).Separate strings where
  functional := by
    rintro id c c' ⟨name, hhas, rfl⟩ ⟨name', hhas', hid⟩
    obtain rfl := OsName.providerId_inj (hhas.utf8 hdir) (hhas'.utf8 hdir) hid
    exact hhas.functional hhas'
  exact := hdir.exact

theorem tomlConfig_eq_some :
    tomlConfig parse entry = some c ↔
      entry.name.isToml = true ∧ loadServerConfig parse entry = .ok c := by
  rw [tomlConfig]
  cases entry.name.isToml <;> cases loadServerConfig parse entry <;> simp [Except.toOption]

theorem initialKnown_lookup :
    (initialKnown parse dir).lookup name = some c ↔ dir.Has parse name c := by
  rw [initialKnown, Dict.lookup_collect dir.nodup]
  refine exists_congr fun entry => and_congr_right fun _ => and_congr_right fun hname => ?_
  rw [tomlConfig_eq_some, hname]

/-- A file that is there and valid has its configuration in `currentFiles`. -/
theorem currentFiles_lookup (hval : dir.Valid parse) {oc} :
    (currentFiles parse dir).lookup name = some oc ↔ ∃ c, oc = some c ∧ dir.Has parse name c := by
  rw [currentFiles, Dict.lookup_collect dir.nodup]
  constructor
  · rintro ⟨entry, hent, rfl, hvalue⟩
    cases htoml : entry.name.isToml with
    | false => simp [htoml] at hvalue
    | true =>
      obtain ⟨c, hload⟩ := hval entry hent htoml
      refine ⟨c, ?_, entry, hent, rfl, htoml, hload⟩
      simpa [htoml, hload, Except.toOption] using hvalue.symm
  · rintro ⟨c, rfl, entry, hent, rfl, htoml, hload⟩
    exact ⟨entry, hent, rfl, by simp [htoml, hload, Except.toOption]⟩

/-! ### The difference of two scans -/

/-- What is known of a path after a scan: the configuration of the file, or the one from before
if the file cannot be loaded. -/
def Directory.scanned (parse : String → Option ServerConfig) (dir : Directory)
    (known : Dict OsName ServerConfig) (name : OsName) : Option ServerConfig :=
  ((currentFiles parse dir).lookup name).bind fun maybeConfig => maybeConfig.or (known.lookup name)

theorem Directory.scanned_eq_some (hval : dir.Valid parse) {known} :
    dir.scanned parse known name = some c ↔ dir.Has parse name c := by
  rw [Directory.scanned, Option.bind_eq_some_iff]
  constructor
  · rintro ⟨maybeConfig, hget, hc⟩
    obtain ⟨config, rfl, hhas⟩ := (currentFiles_lookup hval).mp hget
    cases hc
    exact hhas
  · intro hhas
    exact ⟨some c, (currentFiles_lookup hval).mpr ⟨c, rfl, hhas⟩, rfl⟩

/-- The event for an id with one configuration before a scan and another after it. -/
def changeEvent (id : ProviderId) : (old new : Option ServerConfig) → Option ProviderEvent
  | none, none => none
  | none, some config => some (.added ⟨id, config⟩)
  | some _, none => some (.removed id)
  | some old, some config => if old = config then none else some (.updated ⟨id, config⟩)

section Change

variable {id : ProviderId} {old new : Option ServerConfig} {event : ProviderEvent}

theorem changeEvent_eq_none : changeEvent id old new = none ↔ old = new := by
  cases old <;> cases new <;> simp [changeEvent]

theorem changeEvent_cases (h : changeEvent id old new = some event) :
    new = none ∧ event = .removed id ∨ ∃ config, new = some config ∧
      (event = .updated ⟨id, config⟩ ∨ event = .added ⟨id, config⟩ ∧ old = none) := by
  cases old <;> cases new <;> simp_all [changeEvent]

theorem changeEvent_id (h : changeEvent id old new = some event) : event.id = id := by
  obtain ⟨-, rfl⟩ | ⟨config, -, rfl | ⟨rfl, -⟩⟩ := changeEvent_cases h <;> rfl

end Change

/-- One turn of the first loop. -/
theorem diffFile_spec (events known file) :
    (diffFile (events, known) file).1 = events ++ (changeEvent file.1.providerId
        (known.lookup file.1) (file.2.or (known.lookup file.1))).toList ∧
      ∀ name, (diffFile (events, known) file).2.lookup name =
        if name = file.1 then file.2.or (known.lookup file.1) else known.lookup name := by
  obtain ⟨path, maybeConfig⟩ := file
  unfold diffFile
  cases maybeConfig with
  | none => simp [changeEvent_eq_none.mpr]
  | some config =>
    cases hknown : known.lookup path with
    | none => simp [changeEvent, hknown, Dict.lookup_insert_eq]
    | some oldConfig =>
      by_cases heq : oldConfig = config
      · simp [changeEvent, heq, hknown]
      · simp [changeEvent, heq, hknown, Dict.lookup_insert_eq]

/-- The first loop visits different paths, so each event is decided by what was known before
the loop. -/
theorem foldl_diffFile (files : List (OsName × Option ServerConfig))
    (hfiles : (files.map Prod.fst).Nodup) (events)
    (known : Dict OsName ServerConfig) {after : OsName → Option ServerConfig}
    (hafter : ∀ file ∈ files, after file.1 = file.2.or (known.lookup file.1)) :
    (files.foldl diffFile (events, known)).1 = events ++ (files.map Prod.fst).filterMap (fun name =>
        changeEvent name.providerId (known.lookup name) (after name)) ∧
      ∀ name, (files.foldl diffFile (events, known)).2.lookup name =
        if name ∈ files.map Prod.fst then after name else known.lookup name := by
  induction files generalizing events known with
  | nil => simp
  | cons file rest ih =>
    obtain ⟨hnew, hrest⟩ := nodup_cons.mp hfiles
    obtain ⟨hfile, hafter⟩ := forall_mem_cons.mp hafter
    obtain ⟨hevents, hknown⟩ := diffFile_spec events known file
    rw [← hfile] at hevents hknown
    rw [foldl_cons]
    set next := diffFile (events, known) file with hnext
    -- what is known of a later path is still what was known before this turn
    have hlater : ∀ name ∈ rest.map Prod.fst, next.2.lookup name = known.lookup name := by
      intro name hname
      rw [hknown, if_neg]
      rintro rfl
      exact hnew hname
    obtain ⟨ihevents, ihknown⟩ := ih hrest next.1 next.2 fun f hf => by
      rw [hlater f.1 (mem_map_of_mem hf), hafter f hf]
    constructor
    · rw [ihevents, hevents, map_cons, filterMap_cons,
        filterMap_congr fun name hname => by rw [hlater name hname]]
      cases changeEvent file.1.providerId (known.lookup file.1) (after file.1) <;> simp
    · intro name
      rw [ihknown, hknown, map_cons]
      by_cases hname : name ∈ rest.map Prod.fst <;> by_cases hfst : name = file.1 <;>
        simp [hname, hfst]

/-- The second loop. -/
theorem foldl_diffRemoved (names : List OsName) (events known) :
    (names.foldl diffRemoved (events, known)).1 =
        events ++ names.map (fun name => .removed name.providerId) ∧
      ∀ name, (names.foldl diffRemoved (events, known)).2.lookup name =
        if name ∈ names then none else known.lookup name := by
  induction names generalizing events known with
  | nil => simp
  | cons first rest ih =>
    obtain ⟨ihevents, ihknown⟩ := ih (events ++ [.removed first.providerId]) (known.erase first)
    rw [foldl_cons, diffRemoved]
    refine ⟨by simp [ihevents], fun name => ?_⟩
    rw [ihknown, Dict.lookup_erase_eq]
    by_cases hrest : name ∈ rest <;> by_cases hfst : name = first <;> simp [hrest, hfst]

/-- A scan visits every path that is known or found once, and its events say what has changed. -/
theorem computeDiff_spec (parse : String → Option ServerConfig)
    (currentOrder knownOrder) (dir : Directory)
    (known : Dict OsName ServerConfig) :
    ∃ names : List OsName, names.Nodup ∧
      (∀ name, name ∉ names → known.lookup name = dir.scanned parse known name) ∧
      (computeDiff parse currentOrder knownOrder dir known).1 = names.filterMap (fun name =>
        changeEvent name.providerId (known.lookup name) (dir.scanned parse known name)) ∧
      ∀ name, (computeDiff parse currentOrder knownOrder dir known).2.lookup name =
        dir.scanned parse known name := by
  rw [computeDiff]
  set current := currentFiles parse dir with hcur
  obtain ⟨hevents, hknown⟩ := foldl_diffFile (currentOrder.iter current)
    (currentOrder.nodup_keys current) [] known
    (show ∀ file ∈ currentOrder.iter current, dir.scanned parse known file.1 = _ from
      fun file hfile => by rw [Directory.scanned, currentOrder.mem_iter.mp hfile, Option.bind_some])
  set state := (currentOrder.iter current).foldl diffFile ([], known) with hst
  set gone := ((knownOrder.iter state.2).map Prod.fst).filter
    (fun name => (current.lookup name).isNone) with hgone
  obtain ⟨hevents', hknown'⟩ := foldl_diffRemoved gone state.1 state.2
  simp only [currentOrder.mem_keys] at hknown
  -- a path that is not found is gone if it was known
  have hscanned {name : OsName} (h : current.lookup name = none) :
      dir.scanned parse known name = none := by
    rw [Directory.scanned, h, Option.bind_none]
  have hmem (name : OsName) :
      name ∈ gone ↔ current.lookup name = none ∧ known.lookup name ≠ none := by
    rw [hgone, mem_filter, knownOrder.mem_keys, Option.isNone_iff_eq_none, and_comm, hknown]
    refine and_congr_right fun hnone => ?_
    rw [hnone, if_neg (by simp), Option.isSome_iff_ne_none]
  refine ⟨(currentOrder.iter current).map Prod.fst ++ gone, ?_, fun name hname => ?_, ?_,
    fun name => ?_⟩
  · refine nodup_append.mpr ⟨currentOrder.nodup_keys current,
      (knownOrder.nodup_keys state.2).filter _, fun name hfound name' hgone' heq => ?_⟩
    rw [currentOrder.mem_keys, heq, ((hmem name').mp hgone').1] at hfound
    cases hfound
  · rw [mem_append, not_or, currentOrder.mem_keys, Option.not_isSome_iff_eq_none, hmem] at hname
    rw [hscanned hname.1]
    by_contra hne
    exact hname.2 ⟨hname.1, hne⟩
  · have hrem := filterMap_eq_map_iff_forall_eq_some (l := gone).mpr fun name hname => by
      obtain ⟨hnone, hold⟩ := (hmem name).mp hname
      obtain ⟨old, hold⟩ := Option.ne_none_iff_exists'.mp hold
      show changeEvent name.providerId (known.lookup name) (dir.scanned parse known name) =
        some (.removed name.providerId)
      rw [hscanned hnone, hold, changeEvent]
    rw [hevents', hevents, nil_append, filterMap_append, hrem]
  · simp only [hknown', hmem, hknown]
    cases hname : current.lookup name with
    | some found => simp
    | none =>
      rw [hscanned hname]
      by_cases hold : known.lookup name = none <;> simp [hold]

/-! ### The watcher in step with the directory -/

/-- The watcher knows the files of `dir` and the router reflects them. -/
structure FileWatch.Synced (parse : String → Option ServerConfig) (strings : Strings)
    (dir : Directory) (s : FileWatch) : Prop where
  known_iff : ∀ name c, s.known.lookup name = some c ↔ dir.Has parse name c
  reflects : s.router.Reflects strings (dir.serves parse)

section Scan

variable {s : FileWatch} {dir dir' : Directory}
  {currentOrder : Dict.Order OsName (Option ServerConfig)}
  {knownOrder : Dict.Order OsName ServerConfig}

section

variable (hs : s.Synced parse strings dir)

include hs

/-- A file whose configuration changes has a name that is text. -/
theorem utf8_of_changeEvent {event} (hdir : dir.KeepsApart parse strings)
    (hval : dir'.Valid parse) (hdir' : dir'.KeepsApart parse strings)
    (h : changeEvent name.providerId (s.known.lookup name) (dir'.scanned parse s.known name) =
      some event) : name.toStr.isSome := by
  cases hold : s.known.lookup name with
  | some old => exact ((hs.known_iff name old).mp hold).utf8 hdir
  | none =>
    cases hnew : dir'.scanned parse s.known name with
    | some config => exact ((scanned_eq_some hval).mp hnew).utf8 hdir'
    | none =>
      rw [hold, hnew] at h
      cases h

/-- Every event brings its id to the table of the new scan. -/
theorem computeDiff_reaches (hdir : dir.KeepsApart parse strings) (hval : dir'.Valid parse)
    (hdir' : dir'.KeepsApart parse strings) :
    ∀ event ∈ (computeDiff parse currentOrder knownOrder dir' s.known).1,
      event.Reaches (dir'.serves parse) := by
  intro event hev
  obtain ⟨names, -, -, hevents, -⟩ := computeDiff_spec parse currentOrder knownOrder dir' s.known
  rw [hevents] at hev
  obtain ⟨name, -, hchg⟩ := mem_filterMap.mp hev
  obtain ⟨hnone, rfl⟩ | ⟨config, hnew, hkind⟩ := changeEvent_cases hchg
  · -- the file is gone, and no other file has its id
    rintro c ⟨name', hhas, hid⟩
    obtain rfl := OsName.providerId_inj (utf8_of_changeEvent hs hdir hval hdir' hchg)
      (hhas.utf8 hdir') hid
    rw [(scanned_eq_some hval).mpr hhas] at hnone
    cases hnone
  · have hhas := (scanned_eq_some hval).mp hnew
    obtain rfl | ⟨rfl, -⟩ := hkind <;> exact ⟨name, hhas, rfl⟩

/-- The ids of the events differ, since the names of the files do. -/
theorem computeDiff_nodup (hdir : dir.KeepsApart parse strings) (hval : dir'.Valid parse)
    (hdir' : dir'.KeepsApart parse strings) :
    ((computeDiff parse currentOrder knownOrder dir' s.known).1.map ProviderEvent.id).Nodup := by
  obtain ⟨names, hnodup, -, hevents, -⟩ :=
    computeDiff_spec parse currentOrder knownOrder dir' s.known
  rw [hevents, map_filterMap, List.Nodup, pairwise_filterMap]
  refine hnodup.imp fun {name name'} hne id hid id' hid' heq => ?_
  obtain ⟨event, hev, rfl⟩ := Option.map_eq_some_iff.mp hid
  obtain ⟨event', hev', rfl⟩ := Option.map_eq_some_iff.mp hid'
  rw [changeEvent_id hev, changeEvent_id hev'] at heq
  exact hne (OsName.providerId_inj (utf8_of_changeEvent hs hdir hval hdir' hev)
    (utf8_of_changeEvent hs hdir hval hdir' hev') heq)

/-- An added id is not in the router yet. -/
theorem computeDiff_fresh (hdir : dir.KeepsApart parse strings) (hval : dir'.Valid parse)
    (hdir' : dir'.KeepsApart parse strings) (pc)
    (h : .added pc ∈ (computeDiff parse currentOrder knownOrder dir' s.known).1) :
    s.router.configs.lookup pc.id = none := by
  obtain ⟨names, -, -, hevents, -⟩ := computeDiff_spec parse currentOrder knownOrder dir' s.known
  rw [hevents] at h
  obtain ⟨name, -, hchg⟩ := mem_filterMap.mp h
  have hutf8 := utf8_of_changeEvent hs hdir hval hdir' hchg
  obtain ⟨-, heq⟩ | ⟨config, -, heq | ⟨heq, hnone⟩⟩ := changeEvent_cases hchg
  · cases heq
  · cases heq
  · cases heq
    by_contra hheld
    obtain ⟨entry, hent⟩ := Option.ne_none_iff_exists'.mp hheld
    obtain ⟨name', hhas, hid⟩ :=
      ((hs.reflects.settled _).holds_iff entry.config).mp ⟨entry, hent, rfl⟩
    obtain rfl := OsName.providerId_inj hutf8 (hhas.utf8 hdir) hid
    rw [(hs.known_iff name entry.config).mpr hhas] at hnone
    cases hnone

/-- An id without an event has the same configuration in both scans. -/
theorem serves_iff_of_not_mem_ids (hval : dir'.Valid parse) (id)
    (hid : id ∉ (computeDiff parse currentOrder knownOrder dir' s.known).1.map
      ProviderEvent.id) (c) :
    dir.serves parse id c ↔ dir'.serves parse id c := by
  obtain ⟨names, -, hnames, hevents, -⟩ :=
    computeDiff_spec parse currentOrder knownOrder dir' s.known
  refine exists_congr fun name => and_congr_left fun hname => ?_
  rw [← hs.known_iff, ← @Directory.scanned_eq_some _ _ _ _ hval s.known]
  -- a file without an event is known with the configuration it has
  have hsame : s.known.lookup name = dir'.scanned parse s.known name := by
    by_contra hne
    obtain ⟨event, hev⟩ :=
      Option.ne_none_iff_exists'.mp (mt (@changeEvent_eq_none name.providerId _ _).mp hne)
    refine hid (mem_map.mpr ⟨event, ?_, (changeEvent_id hev).trans hname.symm⟩)
    rw [hevents]
    exact mem_filterMap.mpr ⟨name, by_contra fun h => hne (hnames name h), hev⟩
  rw [hsame]

end

end Scan

variable {dir' : Directory} {s : FileWatch}

theorem FileWatch.Synced.scan {s' : FileWatch} (hs : s.Synced parse strings dir)
    (hdir : dir.KeepsApart parse strings) (hval : dir'.Valid parse)
    (hdir' : dir'.KeepsApart parse strings) (hscan : s.Scan parse strings dir' s') :
    s'.Synced parse strings dir' := by
  obtain ⟨currentOrder, knownOrder, hknown, hrun⟩ := hscan
  obtain ⟨-, -, -, -, hget⟩ := computeDiff_spec parse currentOrder knownOrder dir' s.known
  obtain ⟨hcons, hset⟩ := run_settles hdir'.separate hrun
    (computeDiff_reaches hs hdir hval hdir') (computeDiff_nodup hs hdir hval hdir')
    (computeDiff_fresh hs hdir hval hdir') hs.reflects.consistent
  refine ⟨fun name c => by rw [← hknown, hget, scanned_eq_some hval], hcons, fun id => hset id ?_⟩
  by_cases hid : id ∈
      (computeDiff parse currentOrder knownOrder dir' s.known).1.map ProviderEvent.id
  · exact .inl hid
  · -- no event, so the id is settled at what it was settled at before
    have hsame := serves_iff_of_not_mem_ids hs hval id hid
    have hold := hs.reflects.settled id
    exact .inr ⟨fun c => (hold.holds_iff c).trans (hsame c),
      fun c d hc => hold.owns c d ((hsame c).mpr hc)⟩

/-! ### The initial load -/

theorem mem_doLoadInitial {pc} :
    pc ∈ doLoadInitial parse dir ↔ dir.serves parse pc.id pc.config := by
  rw [doLoadInitial, mem_filterMap]
  constructor
  · rintro ⟨entry, hent, hsome⟩
    obtain ⟨c, hc, rfl⟩ := Option.map_eq_some_iff.mp hsome
    exact ⟨entry.name, ⟨entry, hent, rfl, tomlConfig_eq_some.mp hc⟩, rfl⟩
  · rintro ⟨name, ⟨entry, hent, rfl, hload⟩, hid⟩
    refine ⟨entry, hent, ?_⟩
    rw [tomlConfig_eq_some.mpr hload, ← hid]
    rfl

theorem doLoadInitial_nodup (hdir : dir.KeepsApart parse strings) :
    ((doLoadInitial parse dir).map ProviderConfig.id).Nodup := by
  rw [doLoadInitial, map_filterMap, List.Nodup, pairwise_filterMap]
  refine List.Pairwise.imp_of_mem ?_ (pairwise_map.mp dir.nodup)
  intro entry entry' hent hent' hne id hid id' hid' heq
  rw [Option.map_map] at hid hid'
  obtain ⟨c, hc, rfl⟩ := Option.map_eq_some_iff.mp hid
  obtain ⟨c', hc', rfl⟩ := Option.map_eq_some_iff.mp hid'
  exact hne (OsName.providerId_inj (hdir.utf8 entry hent (tomlConfig_eq_some.mp hc).1)
    (hdir.utf8 entry' hent' (tomlConfig_eq_some.mp hc').1) heq)

/-- A router that has just loaded a directory reflects it. -/
theorem reflects_of_starts {router} (hdir : dir.KeepsApart parse strings)
    (hstart : Starts strings (doLoadInitial parse dir) router) :
    router.Reflects strings (dir.serves parse) := by
  have hids : ((doLoadInitial parse dir).map ProviderEvent.added).map ProviderEvent.id =
      (doLoadInitial parse dir).map ProviderConfig.id := by
    rw [map_map]
    rfl
  obtain ⟨hcons, hset⟩ := run_settles hdir.separate hstart (fun event hev => by
      obtain ⟨pc, hpc, rfl⟩ := mem_map.mp hev
      exact mem_doLoadInitial.mp hpc)
    (by rw [hids]; exact doLoadInitial_nodup hdir)
    (fun pc _ => AList.lookup_empty _) DomainRouter.new_consistent
  refine ⟨hcons, fun id => hset id ?_⟩
  rw [hids]
  by_cases hid : id ∈ (doLoadInitial parse dir).map ProviderConfig.id
  · exact .inl hid
  · -- neither the empty router nor the directory has anything for the id
    have hnone : ∀ c, ¬dir.serves parse id c := fun c hc =>
      hid (mem_map.mpr ⟨⟨id, c⟩, mem_doLoadInitial.mpr hc, rfl⟩)
    refine .inr ⟨fun c => iff_of_false ?_ (hnone c), fun c d hc => absurd hc (hnone c)⟩
    rintro ⟨entry, hent, -⟩
    cases hent

/-! ### Whole histories -/

/-- A scan of valid files that keep apart. -/
def FileWatch.ApartScan (parse : String → Option ServerConfig) (strings : Strings)
    (s : FileWatch) (dir : Directory) (s' : FileWatch) : Prop :=
  dir.Valid parse ∧ dir.KeepsApart parse strings ∧ s.Scan parse strings dir s'

/-- After every scan the watcher is in step with what it saw last. -/
theorem synced_of_run {s' dirs} (hrun : Run (FileWatch.ApartScan parse strings) s dirs s')
    (hdir : dir.KeepsApart parse strings) (hs : s.Synced parse strings dir) :
    (dirs.getLastD dir).KeepsApart parse strings ∧ s'.Synced parse strings (dirs.getLastD dir) := by
  induction hrun generalizing dir with
  | nil s => exact ⟨hdir, hs⟩
  | cons hscan _ ih =>
    obtain ⟨hval, hdir', hscan⟩ := hscan
    rw [getLastD_cons]
    exact ih hdir' (hs.scan hdir hval hdir' hscan)

/-- The same files in another order. -/
def Directory.SameFiles (dir dir' : Directory) : Prop :=
  ∀ entry, entry ∈ dir.entries ↔ entry ∈ dir'.entries

theorem Directory.SameFiles.has_iff (h : dir.SameFiles dir') :
    dir.Has parse name c ↔ dir'.Has parse name c :=
  exists_congr fun entry => and_congr_left fun _ => h entry

theorem Directory.SameFiles.serves_eq (parse : String → Option ServerConfig)
    (h : dir.SameFiles dir') : dir.serves parse = dir'.serves parse := by
  funext id c
  exact propext (exists_congr fun name => and_congr_left fun _ => h.has_iff)

theorem Directory.SameFiles.keepsApart (h : dir.SameFiles dir')
    (hdir : dir'.KeepsApart parse strings) : dir.KeepsApart parse strings where
  utf8 entry hent := hdir.utf8 entry ((h entry).mp hent)
  exact := h.serves_eq parse ▸ hdir.exact
  wildcards := h.serves_eq parse ▸ hdir.wildcards

/-- In every history in which the initial load and every scan see valid files that keep
apart, and the watcher starts with the files of the initial load, the router resolves every
query as a router that has loaded the files of the last scan from scratch. -/
theorem reload_eq_restart {loaded watched final : Directory} {s₀ s : FileWatch}
    {dirs : List Directory} {fresh : DomainRouter}
    (hldd : loaded.KeepsApart parse strings) (hwatched : watched.SameFiles loaded)
    (hstart : s₀.Started parse strings loaded watched)
    (hrun : Run (FileWatch.ApartScan parse strings) s₀ dirs s)
    (hfinal : final.SameFiles (dirs.getLastD loaded))
    (hfresh : Starts strings (doLoadInitial parse final) fresh) (query : String) :
    s.router.resolve strings query = fresh.resolve strings query := by
  have hs₀ : s₀.Synced parse strings loaded := by
    refine ⟨fun name c => ?_, reflects_of_starts hldd hstart.1⟩
    rw [hstart.2, initialKnown_lookup, hwatched.has_iff]
  obtain ⟨hlast, hs⟩ := synced_of_run hrun hldd hs₀
  have hfreshReflects := reflects_of_starts (hfinal.keepsApart hlast) hfresh
  rw [hfinal.serves_eq parse] at hfreshReflects
  exact DomainRouter.resolve_eq_of_reflects hlast.separate hlast.wildcards hs.reflects
    hfreshReflects query

/-! ### Two files with one domain, and files that keep apart -/

/-- The event loop takes any events. -/
theorem run_foldl_handleEvent (removeOrder addOrder events router) :
    Run (EventStep strings) router events
      (events.foldl (fun router event => handleEvent strings removeOrder addOrder event router)
        router) := by
  induction events generalizing router with
  | nil => exact .nil _
  | cons event rest ih => exact .cons ⟨removeOrder, addOrder, rfl⟩ (ih _)

/-- The router after an initial load, with rebuilds in the order of the entries. -/
def loadRouter (parse : String → Option ServerConfig) (strings : Strings) (dir : Directory) :
    DomainRouter :=
  ((doLoadInitial parse dir).map .added).foldl
    (fun router event => handleEvent strings .entries .entries event router) DomainRouter.new

theorem starts_loadRouter (dir) :
    Starts strings (doLoadInitial parse dir) (loadRouter parse strings dir) :=
  run_foldl_handleEvent _ _ _ _

/-- The watcher right after the initial load. -/
def startWatch (parse : String → Option ServerConfig) (strings : Strings) (dir : Directory) :
    FileWatch :=
  ⟨loadRouter parse strings dir, initialKnown parse dir⟩

theorem started_startWatch : (startWatch parse strings dir).Started parse strings dir dir :=
  ⟨starts_loadRouter dir, rfl⟩

/-- The watcher after one more scan. -/
def scanOnce (parse : String → Option ServerConfig) (strings : Strings) (s : FileWatch)
    (dir : Directory) : FileWatch where
  router := (computeDiff parse .entries .entries dir s.known).1.foldl
    (fun router event => handleEvent strings .entries .entries event router) s.router
  known := (computeDiff parse .entries .entries dir s.known).2

theorem scan_scanOnce : s.Scan parse strings dir (scanOnce parse strings s dir) :=
  ⟨.entries, .entries, rfl, run_foldl_handleEvent _ _ _ _⟩

theorem valid_of_load (h : ∀ entry ∈ dir.entries, (loadServerConfig parse entry).isOk = true) :
    dir.Valid parse := by
  intro entry hent _
  have hok := h entry hent
  cases hload : loadServerConfig parse entry with
  | ok config => exact ⟨config, rfl⟩
  | error e =>
    rw [hload] at hok
    cases hok

/-- Every second piece of a line that was split at its quotes. -/
def quoted : List (List Char) → List String
  | _ :: text :: rest => String.ofList text :: quoted rest
  | _ => []

/-- The strings of the array under `key`, written on one line. -/
def tomlArray (key content : String) : List String :=
  ((content.toList.splitOn '\n').filter (key.toList.isPrefixOf ·)).flatMap fun line =>
    quoted (line.splitOn '"')

/-- Reads server files that set domains and addresses without a port. -/
def parseSimpleToml (content : String) : Option ServerConfig :=
  some { domains := tomlArray "domains" content
         addresses := (tomlArray "addresses" content).map (⟨·, 25565⟩) }

def survivalToml : DirEntry :=
  ⟨.text "survival.toml", some "domains = [\"mc.example.com\"]\naddresses = [\"10.0.1.10\"]"⟩

def eventToml : DirEntry :=
  ⟨.text "event.toml",
    some "domains = [\"mc.example.com\", \"*.event.example.com\"]\naddresses = [\"10.0.1.11\"]"⟩

def survivalOnly : Directory := ⟨[survivalToml], by decide⟩

def sharedDomain : Directory := ⟨[survivalToml, eventToml], by decide⟩

/-- A `.toml` file, the id of its configuration and what it is loaded as. -/
structure LoadsTo (entry : DirEntry) (name : String) (config : ServerConfig) : Prop where
  isToml : entry.name.isToml = true
  providerId : entry.name.providerId = .file name
  load : loadServerConfig parseSimpleToml entry = .ok config

theorem LoadsTo.tomlConfig {name} (h : LoadsTo entry name config) :
    tomlConfig parseSimpleToml entry = some config := by
  rw [Infrarust.tomlConfig, if_pos h.isToml, h.load]
  rfl

theorem LoadsTo.filterMap_cons {name} (h : LoadsTo entry name config) (entries) :
    ((entry :: entries).filterMap fun entry =>
        (Infrarust.tomlConfig parseSimpleToml entry).map fun config =>
          (⟨entry.name.providerId, config⟩ : ProviderConfig)) =
      ⟨.file name, config⟩ :: entries.filterMap fun entry =>
        (Infrarust.tomlConfig parseSimpleToml entry).map fun config =>
          ⟨entry.name.providerId, config⟩ :=
  filterMap_cons_some (by rw [h.tomlConfig, Option.map_some, h.providerId])

def lobbyToml : DirEntry :=
  ⟨.text "lobby.toml",
    some "domains = [\"Lobby.example.com\", \"*.hub.example.com\"]\naddresses = [\"10.0.1.5\"]"⟩

theorem loadsTo_files :
    LoadsTo survivalToml "survival.toml" { survivalFile with id := some "survival" } ∧
    LoadsTo eventToml "event.toml" { eventFile with id := some "event" } ∧
    LoadsTo lobbyToml "lobby.toml"
      { serverFile ["Lobby.example.com", "*.hub.example.com"] "10.0.1.5" with
        id := some "lobby" } := by
  refine ⟨⟨?_, ?_, ?_⟩, ⟨?_, ?_, ?_⟩, ⟨?_, ?_, ?_⟩⟩ <;> decide +kernel

theorem loadsTo_survivalToml :
    LoadsTo survivalToml "survival.toml" { survivalFile with id := some "survival" } :=
  loadsTo_files.1

theorem loadsTo_eventToml : LoadsTo eventToml "event.toml" { eventFile with id := some "event" } :=
  loadsTo_files.2.1

theorem loadsTo_lobbyToml : LoadsTo lobbyToml "lobby.toml"
    { serverFile ["Lobby.example.com", "*.hub.example.com"] "10.0.1.5" with
      id := some "lobby" } :=
  loadsTo_files.2.2

theorem doLoadInitial_survivalOnly : doLoadInitial parseSimpleToml survivalOnly =
    [⟨.file "survival.toml", { survivalFile with id := some "survival" }⟩] := by
  rw [doLoadInitial, survivalOnly, loadsTo_survivalToml.filterMap_cons, filterMap_nil]

theorem valid_survivalOnly : survivalOnly.Valid parseSimpleToml := by
  apply valid_of_load
  simp only [survivalOnly, forall_mem_singleton, loadsTo_survivalToml.load]
  rfl

/-- `survival.toml` and `event.toml` both list `mc.example.com` and are there at the start;
then `event.toml` is deleted. All files are valid at all times. The reloaded router resolves
the domain to nothing, a restarted one to `survival.toml`. -/
theorem reload_forgets_shared_domain :
    ∃ s₀ s fresh, s₀.Started parseSimpleToml asciiStrings sharedDomain sharedDomain ∧
      sharedDomain.Valid parseSimpleToml ∧ survivalOnly.Valid parseSimpleToml ∧
      Run (FileWatch.Scan parseSimpleToml asciiStrings) s₀ [survivalOnly] s ∧
      Starts asciiStrings (doLoadInitial parseSimpleToml survivalOnly) fresh ∧
      s.router.resolve asciiStrings "mc.example.com" = none ∧
      fresh.resolve asciiStrings "mc.example.com" =
        some (.file "survival.toml", { survivalFile with id := some "survival" }) := by
  have hdiff : (computeDiff parseSimpleToml .entries .entries survivalOnly
      (initialKnown parseSimpleToml sharedDomain)).1 = [.removed (.file "event.toml")] := by
    decide
  have hval : sharedDomain.Valid parseSimpleToml := by
    apply valid_of_load
    simp only [sharedDomain, forall_mem_cons, loadsTo_survivalToml.load, loadsTo_eventToml.load]
    exact ⟨rfl, rfl, fun _ h => absurd h not_mem_nil⟩
  refine ⟨startWatch parseSimpleToml asciiStrings sharedDomain,
    scanOnce parseSimpleToml asciiStrings _ survivalOnly,
    loadRouter parseSimpleToml asciiStrings survivalOnly,
    started_startWatch, hval, valid_survivalOnly,
    .cons (scan_scanOnce) (.nil _), starts_loadRouter _, ?_, ?_⟩
  · decide +kernel
  · decide

/-- Files keep apart if at most one of them has wildcards and no two list the same exact
domain, which can be evaluated. -/
theorem Directory.keepsApart_of_load (hutf8 : ∀ entry ∈ dir.entries, entry.name.toStr.isSome = true)
    (hexact : ∀ pc ∈ doLoadInitial parse dir, ∀ pc' ∈ doLoadInitial parse dir,
      ∀ d ∈ pc.config.normalizedDomains strings, d ∈ pc'.config.normalizedDomains strings →
        isWildcard d = false → pc.id = pc'.id)
    (hwild : ∀ pc ∈ doLoadInitial parse dir, ∀ pc' ∈ doLoadInitial parse dir,
      ∀ p ∈ pc.config.normalizedDomains strings, ∀ p' ∈ pc'.config.normalizedDomains strings,
        isWildcard p = true → isWildcard p' = true → pc.id = pc'.id) :
    dir.KeepsApart parse strings where
  utf8 entry hent _ := hutf8 entry hent
  exact id id' c c' d hc hc' hlists hlists' :=
    hexact ⟨id, c⟩ (mem_doLoadInitial.mpr hc) ⟨id', c'⟩ (mem_doLoadInitial.mpr hc') d
      hlists.1 hlists'.1 hlists.2
  wildcards := by
    rintro d - id id' c c' hc hc' ⟨p, hp, hw, -⟩ ⟨p', hp', hw', -⟩
    exact hwild ⟨id, c⟩ (mem_doLoadInitial.mpr hc) ⟨id', c'⟩ (mem_doLoadInitial.mpr hc') p hp
      p' hp' hw hw'

def survivalAndLobby : Directory := ⟨[survivalToml, lobbyToml], by decide⟩

theorem doLoadInitial_survivalAndLobby : doLoadInitial parseSimpleToml survivalAndLobby =
    [⟨.file "survival.toml", { survivalFile with id := some "survival" }⟩, ⟨.file "lobby.toml",
        { serverFile ["Lobby.example.com", "*.hub.example.com"] "10.0.1.5" with
          id := some "lobby" }⟩] := by
  rw [doLoadInitial, survivalAndLobby, loadsTo_survivalToml.filterMap_cons,
    loadsTo_lobbyToml.filterMap_cons, filterMap_nil]

/-- `lobby.toml` is there at the start and deleted later. -/
theorem reload_eq_restart_lobby :
    ∃ (s₀ s : FileWatch) (fresh : DomainRouter),
      Run (FileWatch.ApartScan parseSimpleToml asciiStrings) s₀ [survivalOnly] s ∧
      (s₀.router.resolve asciiStrings "a.hub.example.com").isSome ∧
      s.router.resolve asciiStrings "a.hub.example.com" =
        fresh.resolve asciiStrings "a.hub.example.com" := by
  have happart : survivalAndLobby.KeepsApart parseSimpleToml asciiStrings := by
    apply keepsApart_of_load (by decide)
    all_goals rw [doLoadInitial_survivalAndLobby]; decide
  have happart' : survivalOnly.KeepsApart parseSimpleToml asciiStrings := by
    apply keepsApart_of_load (by decide)
    all_goals rw [doLoadInitial_survivalOnly]; decide
  have hrun : Run (FileWatch.ApartScan parseSimpleToml asciiStrings)
      (startWatch parseSimpleToml asciiStrings survivalAndLobby) [survivalOnly]
      (scanOnce parseSimpleToml asciiStrings _ survivalOnly) :=
    .cons ⟨valid_survivalOnly, happart', scan_scanOnce⟩ (.nil _)
  refine ⟨_, _, loadRouter parseSimpleToml asciiStrings survivalOnly, hrun, ?_,
    reload_eq_restart happart (fun _ => Iff.rfl) (started_startWatch) hrun
      (fun _ => Iff.rfl) (starts_loadRouter _) _⟩
  decide

end Infrarust
