import Infrarust.Core.Provider.Docker

/-!
# `Infrarust.Proofs.Core.Provider.Docker`: when the provider has caught up

Once the provider watches and has handled every event, it has published what a scan finds, for
every container of which it cannot have missed anything (`published_agrees`). That is an
invariant of every run. While a stream is open, the events that are on their way lead to what a
scan finds (`Settles`). During a scan, what was found and what is still to be inspected do so
(`Scans`).

A change is missed when it comes between a list and the stream that is opened next, since the
list is made first and the stream starts at its opening. `containers_missed` has a container
that is started there and is never published, and one that is stopped there and stays published.
In a run without such changes, in which no call of a scan or an inspection fails, nothing is
missed (`published_eq_scan`).
-/

set_option autoImplicit false

namespace Infrarust

open List Option Dict Machine

variable {toConfig : String → ContainerInfo → ServerConfig}

/-! ### What the provider knows and what it has published -/

variable {configs found : List ProviderConfig} {container : Option Container}
  {containers : Dict String Container} {id : String} {rest : List (String × String)}
  {other : String} {order : Dict.Order String Container}

namespace DockerView

variable {view : DockerView}

/-- The published configurations are those of the known containers. -/
structure Mirrors (view : DockerView) : Prop where
  docker : ∀ name, view.published.lookup (.docker name) = view.known.lookup name
  other : ∀ id : ProviderId, id ≠ .docker id.uniqueId → view.published.lookup id = none

variable {pc : ProviderConfig} {turn : DockerView → ProviderConfig → DockerView}

theorem docker_eq_docker {name} : ProviderId.docker name = .docker other ↔ name = other := by
  simp [ProviderId.docker]

theorem Mirrors.learnBy {event} (h : view.Mirrors)
    (hev : ∀ published, (event pc).publish published = published.insert pc.id pc.config)
    (hpc : pc.id = .docker pc.id.uniqueId) : (view.learnBy event pc).Mirrors where
  docker name := by
    show ((event pc).publish view.published).lookup _ = (view.known.insert _ _).lookup name
    rw [hev, lookup_insert_eq, lookup_insert_eq, h.docker, hpc]
    simp only [docker_eq_docker]
    rfl
  other id hid := by
    show ((event pc).publish view.published).lookup id = none
    have hne : id ≠ pc.id := fun heq => hid (by rw [heq]; exact hpc)
    rw [hev, lookup_insert_eq, if_neg hne, h.other id hid]

theorem Mirrors.learn (h : view.Mirrors) (hpc : pc.id = .docker pc.id.uniqueId) :
    (view.learn pc).Mirrors := by
  refine h.learnBy (fun published => ?_) hpc
  split <;> rfl

theorem Mirrors.forget (h : view.Mirrors) (name) : (view.forget name).Mirrors := by
  rw [DockerView.forget]
  split
  case isFalse => exact h
  case isTrue =>
    refine ⟨fun other => ?_, fun id hid => ?_⟩
    · show (view.published.erase (.docker name)).lookup _ = (view.known.erase name).lookup other
      rw [lookup_erase_eq, lookup_erase_eq, h.docker]
      simp only [docker_eq_docker]
    · show (view.published.erase (.docker name)).lookup id = none
      rw [lookup_erase_eq, h.other id hid, ite_self]

theorem lookup_forget {name} :
    (view.forget name).known.lookup other =
      if other = name then none else view.known.lookup other := by
  rw [forget]
  split
  case isTrue => exact lookup_erase_eq _ _ _
  case isFalse hnone =>
    split
    case isTrue heq =>
      subst heq
      exact not_isSome_iff_eq_none.mp hnone
    case isFalse => rfl

/-- What loops over configurations preserve. -/
theorem Mirrors.foldl
    (hturn : ∀ view pc, Mirrors view → pc.id = .docker pc.id.uniqueId → (turn view pc).Mirrors)
    (hcfgs : ∀ pc ∈ configs, pc.id = .docker pc.id.uniqueId) (h : view.Mirrors) :
    (configs.foldl turn view).Mirrors := by
  induction configs generalizing view with
  | nil => exact h
  | cons pc configs ih =>
    refine ih (fun pc' hpc' => hcfgs pc' (mem_cons_of_mem pc hpc')) ?_
    exact hturn view pc h (hcfgs pc mem_cons_self)

theorem Mirrors.foldl_forget {names : List String} (h : view.Mirrors) :
    (names.foldl DockerView.forget view).Mirrors := by
  induction names generalizing view with
  | nil => exact h
  | cons name names ih => exact ih (h.forget name)

theorem lookup_foldl_forget (names : List String) (view other) :
    (names.foldl forget view).known.lookup other =
      if other ∈ names then none else view.known.lookup other := by
  induction names generalizing view with
  | nil => simp
  | cons name names ih =>
    rw [foldl_cons, ih, lookup_forget]
    by_cases hrest : other ∈ names
    · rw [if_pos hrest, if_pos (mem_cons_of_mem name hrest)]
    · simp [hrest]

/-- Loops that learn insert under the names. -/
theorem known_foldl
    (hturn : ∀ view pc, (turn view pc).known = view.known.insert pc.id.uniqueId pc.config) :
    (configs.foldl turn view).known =
      configs.foldl (fun known pc => known.insert pc.id.uniqueId pc.config) view.known := by
  induction configs generalizing view with
  | nil => rfl
  | cons pc configs ih => rw [foldl_cons, foldl_cons, ih, hturn]

end DockerView

/-! ### What a scan finds -/

/-- What a scan finds under a name. -/
def scanned (toConfig : String → ContainerInfo → ServerConfig) (name : String)
    (container : Option Container) : Option ServerConfig :=
  (container.filter (·.running)).bind fun c => (inspectAndBuild toConfig name c.info).map (·.config)

variable {name : String} {pc : ProviderConfig}

theorem scanned_of_running {c : Container} (h : c.running = true) :
    scanned toConfig name (some c) = (inspectAndBuild toConfig name c.info).map (·.config) := by
  simp [scanned, Option.filter, h]

theorem scanned_of_not_running (h : (container.all fun c => !c.running) = true) :
    scanned toConfig name container = none := by
  cases container with
  | none => rfl
  | some c =>
    have hstop : c.running = false := by simpa using h
    simp [scanned, Option.filter, hstop]

theorem id_of_inspectAndBuild {info} (h : inspectAndBuild toConfig name info = some pc) :
    pc.id = .docker name ∧ info.enabled = true := by
  rw [inspectAndBuild] at h
  split at h
  case isTrue hen =>
    dsimp only at h
    split at h <;> cases h
    exact ⟨rfl, hen⟩
  case isFalse => cases h

theorem mem_scanContainers :
    pc ∈ scanContainers toConfig order containers ↔
      pc.id = .docker pc.id.uniqueId ∧
        scanned toConfig pc.id.uniqueId (containers.lookup pc.id.uniqueId) = some pc.config := by
  rw [scanContainers, mem_filterMap]
  constructor
  · rintro ⟨⟨name, c⟩, hmem, hbuild⟩
    obtain ⟨hmem, hlst⟩ := mem_filter.mp hmem
    have hget := order.mem_iter.mp hmem
    obtain ⟨hid, -⟩ := id_of_inspectAndBuild hbuild
    have hrng : c.running = true := by
      simp only [Container.listed, Bool.and_eq_true] at hlst
      exact hlst.1
    have hname : pc.id.uniqueId = name := by rw [hid]; rfl
    rw [hname, hget, scanned_of_running hrng]
    exact ⟨hid, by rw [show inspectAndBuild toConfig name c.info = some pc from hbuild]; rfl⟩
  · rintro ⟨hid, hscan⟩
    cases hget : containers.lookup pc.id.uniqueId with
    | none =>
      rw [hget] at hscan
      cases hscan
    | some c =>
      rw [hget] at hscan
      cases hrng : c.running with
      | false => simp [scanned, Option.filter, hrng] at hscan
      | true =>
        rw [scanned_of_running hrng] at hscan
        obtain ⟨pc', hbuild, hcfg⟩ := map_eq_some_iff.mp hscan
        obtain ⟨hid', hen⟩ := id_of_inspectAndBuild hbuild
        have heq : pc' = pc := by
          cases pc'
          simp only at hcfg hid' hid
          rw [hcfg, hid', ← hid]
        rw [heq] at hbuild
        refine ⟨(pc.id.uniqueId, c), mem_filter.mpr ⟨order.mem_iter.mpr hget, ?_⟩, hbuild⟩
        simp [Container.listed, hrng, hen]

/-! ### Events on their way -/

/-- What is known of a container: its configuration, or that it was started and is about to be
inspected. -/
inductive Expectation where
  | known (config : Option ServerConfig)
  | started (id : String)

/-- One of the events makes the provider forget the container. -/
def Forgets (queue : List DockerEvent) : Prop := ∃ event ∈ queue, event.action.starts = false

/-- With these events, all of them about the container, the provider gets from what it knows to
what a scan finds. A container that is inspected without result must not be known from before. -/
def Settles (toConfig : String → ContainerInfo → ServerConfig) (name : String)
    (container : Option Container) : List DockerEvent → Expectation → Prop
  | [], .known config => config = scanned toConfig name container
  | [], .started id => ∃ c, container = some c ∧ c.id = id ∧ c.running = true
  | event :: queue, x =>
    if event.action.starts then
      (x = .known none ∨ Forgets queue) ∧ Settles toConfig name container queue (.started event.id)
    else Settles toConfig name container queue (.known none)

section Settles

variable {name : String} {container container' : Option Container} {queue : List DockerEvent}
  {event : DockerEvent} {x : Expectation}

theorem settles_cons_start (hstart : event.action.starts = true) :
    Settles toConfig name container (event :: queue) x ↔
      (x = .known none ∨ Forgets queue) ∧
        Settles toConfig name container queue (.started event.id) := by
  rw [Settles, if_pos hstart]

theorem settles_cons_halt (hhalt : event.action.starts = false) :
    Settles toConfig name container (event :: queue) x ↔
      Settles toConfig name container queue (.known none) := by
  rw [Settles, if_neg (by rw [hhalt]; decide)]

variable {config : Option ServerConfig}

/-- The inspection of a started container finds what a scan finds, unless it will be forgotten. -/
theorem Settles.inspected (h : Settles toConfig name container queue (.started id))
    (hcfg : ∀ c, container = some c → c.id = id →
      config = (inspectAndBuild toConfig name c.info).map (·.config)) :
    Settles toConfig name container queue (.known config) := by
  cases queue with
  | nil =>
    obtain ⟨c, rfl, hid, hrng⟩ := h
    show config = scanned toConfig name (some c)
    rw [scanned_of_running hrng]
    exact hcfg c rfl hid
  | cons e queue =>
    cases hstart : e.action.starts with
    | true =>
      rw [settles_cons_start hstart] at h ⊢
      exact ⟨.inr (h.1.resolve_left nofun), h.2⟩
    | false =>
      rw [settles_cons_halt hstart] at h ⊢
      exact h

/-- What is known of a container that will be forgotten does not matter. -/
theorem Settles.of_forgets {y} (h : Settles toConfig name container queue x)
    (hforg : Forgets queue) : Settles toConfig name container queue y := by
  obtain ⟨e', he', hhalt'⟩ := hforg
  cases queue with
  | nil => cases he'
  | cons e queue =>
    cases hstart : e.action.starts with
    | true =>
      rw [settles_cons_start hstart] at h ⊢
      rcases mem_cons.mp he' with rfl | hrest
      · rw [hstart] at hhalt'
        cases hhalt'
      · exact ⟨.inr ⟨e', hrest, hhalt'⟩, h.2⟩
    | false =>
      rw [settles_cons_halt hstart] at h ⊢
      exact h

/-- An event that makes the provider forget the container settles it, whatever comes before. -/
theorem settles_append_halt (hhalt : event.action.starts = false)
    (hstop : (container.all fun c => !c.running) = true) :
    Settles toConfig name container (queue ++ [event]) x := by
  induction queue generalizing x with
  | nil =>
    rw [nil_append, settles_cons_halt hhalt]
    exact (scanned_of_not_running hstop).symm
  | cons e queue ih =>
    have hforg : Forgets (queue ++ [event]) := ⟨event, by simp, hhalt⟩
    rw [cons_append, Settles]
    split
    · exact ⟨.inr hforg, ih⟩
    · exact ih

/-- An event that tells about a start follows on what settled before it. -/
theorem Settles.append_start (h : Settles toConfig name container queue x)
    (hstart : event.action.starts = true)
    (hpre : (container.all fun c => !c.running) = true)
    (hafter : ∃ c, container' = some c ∧ c.id = event.id ∧ c.running = true) :
    Settles toConfig name container' (queue ++ [event]) x := by
  induction queue generalizing x with
  | nil =>
    rw [nil_append, settles_cons_start hstart]
    refine ⟨.inl ?_, hafter⟩
    cases x with
    | known config =>
      rw [show config = scanned toConfig name container from h, scanned_of_not_running hpre]
    | started id =>
      obtain ⟨c, rfl, -, hrng⟩ := h
      simp [hrng] at hpre
  | cons e queue ih =>
    rw [cons_append]
    cases hestart : e.action.starts with
    | true =>
      rw [settles_cons_start hestart] at h ⊢
      refine ⟨h.1.imp_right ?_, ih h.2⟩
      rintro ⟨e', he', hforget⟩
      exact ⟨e', mem_append_left _ he', hforget⟩
    | false =>
      rw [settles_cons_halt hestart] at h ⊢
      exact ih h

/-- An event of another container does not matter. -/
theorem Settles.of_other
    (h : Settles toConfig name container ((event :: queue).filter (·.name = name)) x)
    (hne : event.name ≠ name) :
    Settles toConfig name container (queue.filter (·.name = name)) x := by
  rwa [filter_cons_of_neg (by simpa using hne)] at h

end Settles

/-! ### Scans -/

/-- What a scan has found under a name, and what it is still going to inspect, is what there is. -/
structure Scans (toConfig : String → ContainerInfo → ServerConfig) (name : String)
    (container : Option Container) (rest : List (String × String)) (found : List ProviderConfig) :
    Prop where
  listed : ∀ id, (name, id) ∈ rest → ∃ c, container = some c ∧ c.id = id ∧ c.running = true
  sound : ∀ pc ∈ found, pc.id.uniqueId = name → scanned toConfig name container = some pc.config
  complete : ∀ config, scanned toConfig name container = some config →
    (∃ id, (name, id) ∈ rest) ∨ ∃ pc ∈ found, pc.id.uniqueId = name

/-- A list has everything that a scan can find. -/
theorem scans_list {name} :
    Scans toConfig name (containers.lookup name)
      (((order.iter containers).filter (·.2.listed)).map fun e => (e.1, e.2.id)) [] where
  listed := by
    intro id hid
    obtain ⟨⟨name', c⟩, hmem, heq⟩ := mem_map.mp hid
    cases heq
    obtain ⟨hmem, hlst⟩ := mem_filter.mp hmem
    simp only [Container.listed, Bool.and_eq_true] at hlst
    exact ⟨c, order.mem_iter.mp hmem, rfl, hlst.1⟩
  sound pc hpc := absurd hpc not_mem_nil
  complete := by
    intro config hcfg
    have hscan : (⟨.docker name, config⟩ : ProviderConfig) ∈
        scanContainers toConfig order containers := mem_scanContainers.mpr ⟨rfl, hcfg⟩
    obtain ⟨⟨name', c⟩, hmem, hbuild⟩ := mem_filterMap.mp hscan
    have hname : name = name' := congrArg ProviderId.uniqueId (id_of_inspectAndBuild hbuild).1
    subst hname
    exact .inl ⟨c.id, mem_map.mpr ⟨(name, c), hmem, rfl⟩⟩

namespace DockerSystem

variable {s s' : DockerSystem} {name : String}

theorem lookup_setContainer {name after} :
    (setContainer containers name after).lookup other =
      if other = name then after else containers.lookup other := by
  cases after with
  | none => exact lookup_erase_eq _ _ _
  | some c => exact lookup_insert_eq _ _ _ _

theorem inspectAndBuild_eq {c} (h : s.containers.lookup name = some c) :
    s.inspectAndBuild toConfig name c.id = Infrarust.inspectAndBuild toConfig name c.info := by
  simp [inspectAndBuild, inspectContainer, h]

theorem id_of_inspectAndBuild (h : s.inspectAndBuild toConfig name id = some pc) :
    pc.id = .docker name := by
  obtain ⟨info, -, hbuild⟩ := bind_eq_some_iff.mp h
  exact (Infrarust.id_of_inspectAndBuild hbuild).1

/-- An inspection of the scan. -/
theorem scans_inspect {n}
    (h : Scans toConfig name (s.containers.lookup name) ((n, id) :: rest) found) :
    Scans toConfig name (s.containers.lookup name) rest
      (found ++ (s.inspectAndBuild toConfig n id).toList) where
  listed id' hid' := h.listed id' (mem_cons_of_mem _ hid')
  sound := by
    intro pc hpc hname
    rcases mem_append.mp hpc with hold | hnew
    · exact h.sound pc hold hname
    · have hbuild := mem_toList.mp hnew
      have hn : n = name := by
        rw [← hname, id_of_inspectAndBuild hbuild]
        rfl
      subst hn
      obtain ⟨c, hc, rfl, hrng⟩ := h.listed id mem_cons_self
      rw [inspectAndBuild_eq hc] at hbuild
      rw [hc, scanned_of_running hrng, hbuild]
      rfl
  complete := by
    intro config hcfg
    rcases h.complete config hcfg with ⟨id', hid'⟩ | ⟨pc, hpc, hname⟩
    · rcases mem_cons.mp hid' with heq | hrest
      · -- it is this one
        cases heq
        obtain ⟨c, hc, rfl, hrng⟩ := h.listed id mem_cons_self
        rw [hc, scanned_of_running hrng] at hcfg
        obtain ⟨pc, hbuild, -⟩ := map_eq_some_iff.mp hcfg
        rw [← inspectAndBuild_eq hc] at hbuild
        refine .inr ⟨pc, mem_append_right _ (mem_toList.mpr hbuild), ?_⟩
        rw [id_of_inspectAndBuild hbuild]
        rfl
      · exact .inl ⟨id', hrest⟩
    · exact .inr ⟨pc, mem_append_left _ hpc, hname⟩

end DockerSystem

namespace DockerView

variable {name : String} {container : Option Container} {found : List ProviderConfig}
  {view : DockerView}

/-- What is learned from a list that has nothing but the right configuration under a name. -/
theorem lookup_foldl_learn (turn : DockerView → ProviderConfig → DockerView) (view)
    (hturn : ∀ view pc, (turn view pc).known = view.known.insert pc.id.uniqueId pc.config)
    {config}
    (hsound : ∀ pc ∈ configs, pc.id.uniqueId = name → config = some pc.config) :
    (configs.foldl turn view).known.lookup name = config ∨
      (∀ pc ∈ configs, pc.id.uniqueId ≠ name) ∧
        (configs.foldl turn view).known.lookup name = view.known.lookup name := by
  rw [known_foldl hturn]
  rcases lookup_foldl_insert_cases (fun pc : ProviderConfig => pc.id.uniqueId)
    ProviderConfig.config configs view.known name with ⟨pc, hpc, hname, hget⟩ | hnone
  · exact .inl (hget.trans (hsound pc hpc hname).symm)
  · exact .inr hnone

theorem scanned_eq_none (h : Scans toConfig name container [] found)
    (hother : ∀ pc ∈ found, pc.id.uniqueId ≠ name) : scanned toConfig name container = none := by
  refine eq_none_iff_forall_ne_some.mpr fun config hcfg => ?_
  rcases h.complete config hcfg with ⟨id, hid⟩ | ⟨pc, hpc, hname⟩
  · cases hid
  · exact hother pc hpc hname

theorem lookup_loadInitial (h : Scans toConfig name container [] found)
    (hnone : view.known.lookup name = none) :
    (view.loadInitial found).known.lookup name = scanned toConfig name container := by
  rcases lookup_foldl_learn (learnBy .added) view (fun _ _ => rfl) h.sound
    with hfound | ⟨hother, hold⟩
  · exact hfound
  · exact hold.trans (hnone.trans (scanned_eq_none h hother).symm)

/-- The map that a resynchronisation makes of what was found has nothing else. -/
theorem mem_of_mem_currentNames {order : Dict.Order String ProviderConfig}
    (h : pc ∈ (order.iter (Dict.collect (fun pc : ProviderConfig => pc.id.uniqueId) some
      found)).map Prod.snd) : pc ∈ found := by
  obtain ⟨⟨k, pc'⟩, hent, rfl⟩ := mem_map.mp h
  have hget := order.mem_iter.mp hent
  rcases lookup_foldl_insert_cases (fun pc : ProviderConfig => pc.id.uniqueId)
    id found ∅ k with ⟨a, ha, -, hval⟩ | ⟨-, hempty⟩
  · cases hget.symm.trans hval
    exact ha
  · cases hget.symm.trans hempty

variable {currentOrder : Dict.Order String ProviderConfig}
  {knownOrder : Dict.Order String ServerConfig}

theorem lookup_resyncContainers (h : Scans toConfig name container [] found) :
    (view.resyncContainers currentOrder knownOrder found).known.lookup name
      = scanned toConfig name container := by
  set currentNames := Dict.collect (fun pc : ProviderConfig => pc.id.uniqueId) some found
    with hnames
  set view₁ := ((currentOrder.iter currentNames).map Prod.snd).foldl learn view with hview₁
  have hrem : name ∈ ((knownOrder.iter view₁.known).map Prod.fst).filter
      (fun name => (currentNames.lookup name).isNone) ↔
      (view₁.known.lookup name).isSome ∧ (currentNames.lookup name).isNone := by
    rw [mem_filter, knownOrder.mem_keys]
  show ((((knownOrder.iter view₁.known).map Prod.fst).filter _).foldl forget view₁).known.lookup
    name = _
  rw [lookup_foldl_forget]
  rcases lookup_foldl_insert_cases (fun pc : ProviderConfig => pc.id.uniqueId)
    id found ∅ name with ⟨pc, hpc, hname, hget⟩ | ⟨hother, hget⟩
  · -- it was found, and the second loop leaves it alone
    have hsome : currentNames.lookup name = some pc := hget
    have hkept : name ∉ ((knownOrder.iter view₁.known).map Prod.fst).filter
        fun name => (currentNames.lookup name).isNone := by
      rw [hrem, hsome]
      simp
    rw [if_neg hkept]
    rcases lookup_foldl_learn learn view (fun _ _ => rfl)
      fun pc hpc => h.sound pc (mem_of_mem_currentNames hpc) with hfound | ⟨hnone, -⟩
    · exact hfound
    · exact absurd hname (hnone pc (mem_map.mpr ⟨(name, pc), currentOrder.mem_iter.mpr hsome, rfl⟩))
  · -- it was not found, and the second loop forgets it
    have hnone : currentNames.lookup name = none := hget
    rw [scanned_eq_none h hother]
    split
    case isTrue => rfl
    case isFalse hkept =>
      rw [hrem, hnone] at hkept
      simpa using hkept

/-- The loops of a scan publish what they learn. -/
theorem Mirrors.loadInitial (h : view.Mirrors)
    (hfound : ∀ pc ∈ found, pc.id = .docker pc.id.uniqueId) : (view.loadInitial found).Mirrors :=
  h.foldl (fun _ _ hview hpc => hview.learnBy (fun _ => rfl) hpc) hfound

theorem Mirrors.resyncContainers (h : view.Mirrors)
    (hfound : ∀ pc ∈ found, pc.id = .docker pc.id.uniqueId) :
    (view.resyncContainers currentOrder knownOrder found).Mirrors := by
  refine Mirrors.foldl_forget (h.foldl (fun _ pc hview hpc => hview.learn hpc) ?_)
  exact fun pc hpc => hfound pc (mem_of_mem_currentNames hpc)

end DockerView

/-! ### Runs -/

namespace DockerSystem

/-- With these events the provider gets to what a scan finds, under every name of which it cannot
have missed anything. -/
def Follows (toConfig : String → ContainerInfo → ServerConfig) (containers : Dict String Container)
    (view : DockerView) (unseen : List String) (queue : List DockerEvent) : Prop :=
  ∀ name, name ∉ unseen → Settles toConfig name (containers.lookup name)
    (queue.filter (·.name = name)) (.known (view.known.lookup name))

/-- What holds in every state. -/
inductive Inv (toConfig : String → ContainerInfo → ServerConfig) : DockerSystem → Prop where
  /-- Nothing is known before the end of the initial load. -/
  | starting {containers view unseen} : view.Mirrors → view.known = ∅ →
    Follows toConfig containers view unseen [] →
    Inv toConfig ⟨containers, none, .starting, view, unseen⟩
  | scanning {containers view unseen resync rest found} : view.Mirrors →
    (resync = false → view.known = ∅) → (∀ pc ∈ found, pc.id = .docker pc.id.uniqueId) →
    (∀ name, name ∉ unseen → Scans toConfig name (containers.lookup name) rest found) →
    Inv toConfig ⟨containers, none, .scanning resync rest found, view, unseen⟩
  | connecting {containers view unseen} : view.Mirrors →
    Follows toConfig containers view unseen [] →
    Inv toConfig ⟨containers, none, .connecting, view, unseen⟩
  | watching {containers view unseen queue} : view.Mirrors →
    Follows toConfig containers view unseen queue →
    Inv toConfig ⟨containers, some queue, .watching, view, unseen⟩
  | inspecting {containers view unseen event queue} : view.Mirrors →
    event.action.starts = true → Follows toConfig containers view unseen (event :: queue) →
    Inv toConfig ⟨containers, some queue, .inspecting event, view, unseen⟩
  | waiting {containers view unseen} : view.Mirrors →
    Follows toConfig containers view unseen [] →
    Inv toConfig ⟨containers, none, .waiting, view, unseen⟩

variable {s s' : DockerSystem} {name : String} {containers : Dict String Container}
  {view : DockerView} {unseen : List String} {queue : List DockerEvent} {event : DockerEvent}

theorem init_inv (containers) : (init containers).Inv toConfig := by
  refine .starting ⟨fun name => rfl, fun id _ => rfl⟩ rfl fun name hname => ?_
  rw [AList.lookup_eq_none.mpr hname, AList.lookup_empty]
  rfl

/-- A name that was not missed now was not missed before. -/
theorem of_not_mem_cons (h : name ∉ other :: unseen) : name ≠ other ∧ name ∉ unseen :=
  not_or.mp (mt mem_cons.mpr h)

/-- Nobody tells the provider. -/
theorem Follows.missed (h : Follows toConfig containers view unseen queue) (changed after) :
    Follows toConfig (setContainer containers changed after) view (changed :: unseen) queue := by
  intro name hname
  obtain ⟨hne, hold⟩ := of_not_mem_cons hname
  rw [lookup_setContainer, if_neg hne]
  exact h name hold

variable {after : Option Container} {label : DockerLabel} {labels : List DockerLabel}

/-- The stream tells the provider. -/
theorem Follows.told (h : Follows toConfig containers view unseen queue)
    (hfits : event.Fits (containers.lookup event.name) after) :
    Follows toConfig (setContainer containers event.name after) view
      (if event.action.starts then unseen else unseen.filter (· ≠ event.name))
      (queue ++ [event]) := by
  intro name hname
  rw [lookup_setContainer, filter_append]
  by_cases heq : name = event.name
  · subst heq
    rw [if_pos rfl, filter_cons_of_pos (by simp)]
    rw [DockerEvent.Fits] at hfits
    cases hstart : event.action.starts with
    | true =>
      rw [if_pos hstart] at hname hfits
      obtain ⟨c, hc, hrun⟩ := (any_eq_true _ _).mp hfits.2
      simp only [Bool.and_eq_true, decide_eq_true_eq] at hrun
      exact (h _ hname).append_start hstart hfits.1 ⟨c, hc, hrun.2, hrun.1⟩
    | false =>
      rw [if_neg (by rw [hstart]; decide)] at hfits
      exact settles_append_halt hstart hfits
  · have hold : name ∉ unseen := by
      split at hname
      · exact hname
      · exact fun hmem => hname (mem_filter.mpr ⟨hmem, decide_eq_true heq⟩)
    rw [if_neg heq, filter_cons_of_neg (by simpa using Ne.symm heq), filter_nil, append_nil]
    exact h name hold

theorem Inv.change (h : s.Inv toConfig) (hfits : event.Fits
    (s.containers.lookup event.name) after) :
    (s.change event after).Inv toConfig := by
  cases h with
  | starting hmir hempty hfol => exact .starting hmir hempty (hfol.missed _ _)
  | scanning hmir hempty hfound hscans =>
    refine .scanning hmir hempty hfound fun name hname => ?_
    obtain ⟨hne, hold⟩ := of_not_mem_cons hname
    rw [lookup_setContainer, if_neg hne]
    exact hscans name hold
  | connecting hmir hfol => exact .connecting hmir (hfol.missed _ _)
  | watching hmir hfol => exact .watching hmir (hfol.told hfits)
  | inspecting hmir hstarts hfol =>
    exact .inspecting hmir hstarts (hfol.told hfits)
  | waiting hmir hfol => exact .waiting hmir (hfol.missed _ _)

/-- A container was left out of the scan. -/
theorem scans_skip {n} (h : Scans toConfig name container ((n, id) :: rest) found)
    (hne : name ≠ n) : Scans toConfig name container rest found := by
  refine ⟨fun id' hid' => h.listed id' (mem_cons_of_mem _ hid'), h.sound, ?_⟩
  intro config hcfg
  refine (h.complete config hcfg).imp_left ?_
  rintro ⟨id', hid'⟩
  rcases mem_cons.mp hid' with heq | hrest
  · exact absurd (Prod.mk.inj heq).1 hne
  · exact ⟨id', hrest⟩

/-- An event that makes the provider forget a container. -/
theorem Follows.forget (h : Follows toConfig containers view unseen (event :: queue))
    (hhalt : event.action.starts = false) :
    Follows toConfig containers (view.forget event.name) unseen queue := by
  intro name hname
  have hset := h name hname
  rw [DockerView.lookup_forget]
  by_cases heq : event.name = name
  · rw [filter_cons_of_pos (by simpa using heq), settles_cons_halt hhalt] at hset
    rw [if_pos heq.symm]
    exact hset
  · rw [if_neg (Ne.symm heq)]
    exact hset.of_other heq

/-- A started container is inspected, and what was built of it is learned. -/
theorem Follows.inspect (h : Follows toConfig s.containers view unseen (event :: queue))
    (hstarts : event.action.starts = true) :
    Follows toConfig s.containers (match s.inspectAndBuild toConfig event.name event.id with
      | some pc => view.learn pc
      | none => view) unseen queue := by
  intro name hname
  have hold := h name hname
  by_cases heq : event.name = name
  · subst heq
    rw [filter_cons_of_pos (by simp), settles_cons_start hstarts] at hold
    obtain ⟨hknown, hstd⟩ := hold
    rcases hknown with hknown | hforg
    · refine hstd.inspected fun c hc hid => ?_
      rw [← hid, inspectAndBuild_eq hc]
      cases hbuild : Infrarust.inspectAndBuild toConfig event.name c.info with
      | none => exact Expectation.known.inj hknown
      | some pc =>
        have hname : pc.id.uniqueId = event.name :=
          congrArg ProviderId.uniqueId (Infrarust.id_of_inspectAndBuild hbuild).1
        show (view.known.insert pc.id.uniqueId pc.config).lookup event.name = some pc.config
        rw [hname, AList.lookup_insert]
    · exact hstd.of_forgets hforg
  · have hset := hold.of_other heq
    split
    case h_1 pc hbuild =>
      have hne : name ≠ pc.id.uniqueId := by
        rw [id_of_inspectAndBuild hbuild]
        exact Ne.symm heq
      show Settles _ _ _ _ (.known ((view.known.insert pc.id.uniqueId pc.config).lookup name))
      rw [lookup_insert_eq, if_neg hne]
      exact hset
    case h_2 => exact hset

/-- One step. Each phase has the labels that it can take. -/
theorem Inv.step (h : s.Inv toConfig) (hstep : Step toConfig s label s') : s'.Inv toConfig := by
  rw [Step] at hstep
  cases label with
  | change event after =>
    rw [next] at hstep
    split at hstep
    case isTrue hfits =>
      cases hstep
      exact h.change hfits
    case isFalse => cases hstep
  | list order =>
    cases h with
    | starting hmir hempty =>
      cases hstep
      exact .scanning hmir (fun _ => hempty) (fun _ h => absurd h not_mem_nil)
        fun name _ => scans_list
    | waiting hmir =>
      cases hstep
      exact .scanning hmir nofun (fun _ h => absurd h not_mem_nil)
        fun name _ => scans_list
    | _ => cases hstep
  | listFails =>
    cases h with
    | starting hmir _ hfol | waiting hmir hfol =>
      cases hstep
      exact .connecting hmir hfol
    | _ => cases hstep
  | inspect answered =>
    cases h with
    | @scanning containers view unseen resync rest found hmir hempty hfound hscans =>
      cases rest with
      | nil => cases hstep
      | cons listed rest =>
        cases answered with
        | true =>
          cases hstep
          refine .scanning hmir hempty (fun pc hpc => ?_) fun name hname =>
            scans_inspect (hscans name hname)
          rcases mem_append.mp hpc with hold | hnew
          · exact hfound pc hold
          · rw [id_of_inspectAndBuild (mem_toList.mp hnew)]
            rfl
        | false =>
          cases hstep
          refine .scanning hmir hempty hfound fun name hname => ?_
          obtain ⟨hne, hold⟩ := of_not_mem_cons hname
          exact scans_skip (hscans name hold) hne
    | _ => cases hstep
  | finishScan currentOrder knownOrder =>
    cases h with
    | @scanning containers view unseen resync rest found hmir hempty hfound hscans =>
      cases rest with
      | cons listed rest => cases resync <;> cases hstep
      | nil =>
        cases resync with
        | false =>
          cases hstep
          refine .connecting (hmir.loadInitial hfound) fun name hname => ?_
          refine DockerView.lookup_loadInitial (hscans name hname) ?_
          rw [hempty rfl, AList.lookup_empty]
        | true =>
          cases hstep
          exact .connecting (hmir.resyncContainers hfound) fun name hname =>
            DockerView.lookup_resyncContainers (hscans name hname)
    | _ => cases hstep
  | connectFails =>
    cases h with
    | connecting hmir hfol =>
      cases hstep
      exact .connecting hmir hfol
    | _ => cases hstep
  | subscribe =>
    cases h with
    | connecting hmir hfol =>
      cases hstep
      exact .watching hmir hfol
    | _ => cases hstep
  | receive =>
    cases h with
    | @watching containers view unseen queue hmir hfol =>
      cases queue with
      | nil => cases hstep
      | cons event queue =>
        simp only [next] at hstep
        split at hstep
        case isTrue hstart =>
          cases hstep
          exact .inspecting hmir hstart hfol
        case isFalse hhalt =>
          cases hstep
          exact .watching (hmir.forget _) (hfol.forget (Bool.eq_false_iff.mpr hhalt))
    | _ => cases hstep
  | inspectEvent answered =>
    cases h with
    | @inspecting containers view unseen event queue hmir hstarts hfol =>
      cases answered with
      | true =>
        cases hstep
        refine .watching ?_ (Follows.inspect (s := ⟨_, _, _, _, _⟩) hfol hstarts)
        split
        case h_1 pc hbuild =>
          refine hmir.learn ?_
          rw [id_of_inspectAndBuild hbuild]
          rfl
        case h_2 => exact hmir
      | false =>
        cases hstep
        refine .watching hmir fun name hname => ?_
        obtain ⟨hne, hold⟩ := of_not_mem_cons hname
        exact (hfol name hold).of_other (Ne.symm hne)
    | _ => cases hstep
  | streamFails =>
    cases h with
    | @watching containers view unseen queue hmir hfol =>
      cases hstep
      refine .waiting hmir fun name hname => ?_
      obtain ⟨hqueue, hold⟩ := not_or.mp (mt mem_append.mpr hname)
      have hnone : queue.filter (·.name = name) = [] := filter_eq_nil_iff.mpr fun e he heq =>
        hqueue (mem_map.mpr ⟨e, he, of_decide_eq_true heq⟩)
      have hset := hfol name hold
      rwa [hnone] at hset
    | _ => cases hstep

/-- What has been published when the provider has caught up, under every name of which it
cannot have missed anything. -/
theorem published_agrees (hrun : Run (Step toConfig) (init containers) labels s)
    (hquiet : s.Quiescent) (hseen : pc.id.uniqueId ∉ s.unseen) :
    s.view.published.lookup pc.id = some pc.config ↔
      pc ∈ scanContainers toConfig order s.containers := by
  have hinv : s.Inv toConfig := hrun.invariant (fun _ _ _ hstep h => h.step hstep)
    (init_inv containers)
  obtain ⟨hph, hstr⟩ := hquiet
  cases hinv with
  | watching hmir hfol =>
    cases hstr
    have hknown := hfol _ hseen
    rw [mem_scanContainers, ← show _ = scanned _ _ _ from hknown, ← hmir.docker]
    by_cases hdocker : pc.id = .docker pc.id.uniqueId
    · rw [← hdocker, and_iff_right rfl]
    · rw [hmir.other pc.id hdocker]
      exact iff_of_false nofun fun h => hdocker h.1
  | _ => cases hph

/-! ### Runs in which nothing is missed -/

/-- A step that the provider does not miss: containers change while a stream is open, or before
a list that is still to come, and the calls of scans and inspections are answered. -/
def Observed (s : DockerSystem) : DockerLabel → Prop
  | .change _ _ => s.stream.isSome ∨ s.phase = .starting ∨ s.phase = .waiting
  | .listFails | .inspect false | .inspectEvent false => False
  | _ => True

instance (s : DockerSystem) : DecidablePred s.Observed := fun label => by
  unfold Observed
  split <;> infer_instance

/-- A step that is not missed. -/
def ObservedStep (toConfig : String → ContainerInfo → ServerConfig) (s : DockerSystem)
    (label : DockerLabel) (s' : DockerSystem) : Prop :=
  s.Observed label ∧ s.next toConfig label = some s'

/-- Only while a list is still to come can something have been missed. -/
def Attentive (s : DockerSystem) : Prop := s.phase = .starting ∨ s.phase = .waiting ∨ s.unseen = []

theorem Attentive.unseen_eq (h : s.Attentive) (hstart : s.phase ≠ .starting)
    (hwait : s.phase ≠ .waiting) : s.unseen = [] :=
  (h.resolve_left hstart).resolve_left hwait

theorem Attentive.step (h : s.Attentive) (hstep : ObservedStep toConfig s label s') :
    s'.Attentive := by
  obtain ⟨hobserved, hnext⟩ := hstep
  -- between a list and the failure of the stream, nothing is added
  have hkept (hstart : s.phase ≠ .starting) (hwait : s.phase ≠ .waiting)
      (huns : s'.unseen = s.unseen) : s'.Attentive :=
    .inr (.inr (huns.trans (h.unseen_eq hstart hwait)))
  cases label with
  | change event after =>
    rw [next] at hnext
    split at hnext <;> cases hnext
    cases hstr : s.stream with
    | none =>
      -- a list is still to come
      have hph : s.phase = .starting ∨ s.phase = .waiting :=
        hobserved.resolve_left (by rw [hstr]; decide)
      rw [DockerSystem.change, hstr]
      exact hph.imp_right .inl
    | some queue =>
      rw [DockerSystem.change, hstr]
      refine h.imp_right (Or.imp_right fun huns => ?_)
      rw [huns, filter_nil, ite_self]
  | list order =>
    rw [next] at hnext
    split at hnext <;> cases hnext <;> exact .inr (.inr rfl)
  | streamFails =>
    rw [next] at hnext
    split at hnext <;> cases hnext
    exact .inr (.inl rfl)
  | listFails => exact hobserved.elim
  | finishScan | connectFails | subscribe | receive =>
    rw [next] at hnext
    repeat' split at hnext
    all_goals cases hnext
    all_goals exact hkept (by simp [*]) (by simp [*]) rfl
  | inspect answered | inspectEvent answered =>
    cases answered with
    | false => exact hobserved.elim
    | true =>
      rw [next] at hnext
      split at hnext <;> cases hnext
      exact hkept (by simp [*]) (by simp [*]) rfl

theorem run_of_observed (h : Run (ObservedStep toConfig) s labels s') :
    Run (Step toConfig) s labels s' := by
  induction h with
  | nil s => exact .nil s
  | cons hstep _ ih => exact .cons hstep.2 ih

/-- In a run in which nothing is missed, a provider that has caught up has published exactly what
a scan finds. -/
theorem published_eq_scan {containers : Dict String Container} {labels : List DockerLabel}
    (hrun : Run (ObservedStep toConfig) (init containers) labels s)
    (hquiet : s.Quiescent) (order : Dict.Order String Container) (pc : ProviderConfig) :
    s.view.published.lookup pc.id = some pc.config ↔
      pc ∈ scanContainers toConfig order s.containers := by
  have hattentive : s.Attentive := hrun.invariant (fun _ _ _ hstep h => h.step hstep) (.inl rfl)
  have huns : s.unseen = [] :=
    hattentive.unseen_eq (by rw [hquiet.1]; nofun) (by rw [hquiet.1]; nofun)
  refine published_agrees (run_of_observed hrun) hquiet ?_
  rw [huns]
  exact not_mem_nil

/-- A container that serves a domain of its own. -/
def lobby (running : Bool) : Container where
  id := "3f4e8a"
  running
  info := { labels := some (AList.insert "infrarust.enable" "true" ∅), address := "172.17.0.2" }

/-- The configuration of a container in the examples. -/
def plainConfig (name : String) (info : ContainerInfo) : ServerConfig :=
  { domains := [name ++ ".docker.local"], addresses := [⟨info.address, 25565⟩] }

def lobbyStarts : DockerLabel := .change ⟨.start, "3f4e8a", "lobby"⟩ (some (lobby true))

def lobbyDies : DockerLabel := .change ⟨.die, "3f4e8a", "lobby"⟩ (some (lobby false))

/-- An initial load without interruption, and the stream. -/
def quickStart : List DockerLabel := [.list .entries, .finishScan .entries .entries, .subscribe]

instance (s : DockerSystem) : Decidable s.Quiescent := inferInstanceAs (Decidable (_ ∧ _))

theorem lobby_published :
    ∃ s, Run (ObservedStep plainConfig) (init ∅)
        (quickStart ++ [lobbyStarts, .receive, .inspectEvent true]) s ∧
      s.Quiescent ∧ ∀ pc, s.view.published.lookup pc.id = some pc.config ↔
        pc ∈ scanContainers plainConfig .entries s.containers := by
  exact exists_run_guarded (P := Quiescent) (by decide) fun s hrun hquiet =>
    ⟨hquiet, published_eq_scan hrun hquiet .entries⟩

/-- A container that starts between the list and the stream is never published, and one that
stops there stays published. -/
theorem containers_missed :
    (∃ s, Run (Step plainConfig) (init ∅)
        [.list .entries, lobbyStarts, .finishScan .entries .entries, .subscribe] s ∧
      s.Quiescent ∧ s.view.published.lookup (.docker "lobby") = none ∧
      scanContainers plainConfig .entries s.containers =
        [⟨.docker "lobby", plainConfig "lobby" (lobby true).info⟩]) ∧
    ∃ s, Run (Step plainConfig) (init (AList.insert "lobby" (lobby true) ∅))
        [.list .entries, .inspect true, .finishScan .entries .entries, lobbyDies, .subscribe] s ∧
      s.Quiescent ∧
      s.view.published.lookup (.docker "lobby") = some (plainConfig "lobby" (lobby true).info) ∧
      scanContainers plainConfig .entries s.containers = [] := by
  constructor <;> exact exists_run (fun _ _ _ h => h) (by decide)

end DockerSystem

end Infrarust
