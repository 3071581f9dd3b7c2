import Infrarust.Core.Provider.Registry
import Infrarust.Proofs.Core.Routing.DomainRouter

/-!
# `Infrarust.Proofs.Core.Routing.Table`: a router that serves a given table

A table says which configuration each id should have. A router *reflects* a table when it
holds exactly these configurations and every exact domain they list belongs to the one that
lists it. If no two configurations of the table share an exact domain or a wildcard match,
all routers that reflect it resolve every query alike (`resolve_eq_of_reflects`), whatever
their histories.

`run_settles` is how a router gets there: each event that brings its id to what the table
says settles that id and unsettles no other, although on the way the router may hold
configurations of the old and of the new state side by side.
-/

set_option autoImplicit false

namespace Infrarust

open DomainRouter List

/-- Which configuration each id should have. -/
abbrev ServerTable := ProviderId → ServerConfig → Prop

/-- An id has at most one configuration, and no two ids list the same exact domain. -/
structure ServerTable.Separate (strings : Strings) (table : ServerTable) : Prop where
  functional : ∀ id c c', table id c → table id c' → c = c'
  exact : ∀ id id' c c' d, table id c → table id' c' → c.Lists strings d →
    c'.Lists strings d → id = id'

/-- Among the domains that nobody lists, no two ids have a wildcard that matches the same. -/
def ServerTable.WildcardsApart (strings : Strings) (table : ServerTable) : Prop :=
  ∀ d, (∀ id c, table id c → ¬c.Lists strings d) →
    ∀ id id' c c', table id c → table id' c' → c.Matches strings d → c'.Matches strings d → id = id'

/-- The router has for `id` what the table says, and `id` owns what it lists. -/
structure DomainRouter.SettledAt (strings : Strings) (table : ServerTable)
    (router : DomainRouter) (id : ProviderId) : Prop where
  holds_iff : ∀ c, router.Holds id c ↔ table id c
  owns : ∀ c d, table id c → c.Lists strings d → router.exactDomains.lookup d = some id

structure DomainRouter.Reflects (strings : Strings) (table : ServerTable)
    (router : DomainRouter) : Prop where
  consistent : router.Consistent strings
  settled : ∀ id, router.SettledAt strings table id

/-- The event brings its id to what the table says. -/
def ProviderEvent.Reaches (table : ServerTable) : ProviderEvent → Prop
  | .added pc => table pc.id pc.config
  | .updated pc => table pc.id pc.config
  | .removed id => ∀ c, ¬table id c

variable {strings : Strings} {table : ServerTable}

/-! ### Equal answers -/

variable {router router' : DomainRouter} {d : String} {id : ProviderId}

namespace DomainRouter

theorem Reflects.matchExact_eq_some (h : router.Reflects strings table) {c} :
    router.matchExact d = some (id, c) ↔ table id c ∧ c.Lists strings d := by
  constructor
  · intro hfound
    obtain ⟨hholds, hlists⟩ := lists_of_matchExact h.consistent hfound
    exact ⟨((h.settled id).holds_iff c).mp hholds, hlists⟩
  · rintro ⟨htable, hlists⟩
    exact DomainRouter.matchExact_eq_some.mpr
      ⟨(h.settled id).owns c d htable hlists, ((h.settled id).holds_iff c).mpr htable⟩

/-- Routers that reflect the same table find the same configuration by wildcard, if no
configuration lists the domain. -/
theorem matchWildcard_eq_of_reflects (hsep : table.Separate strings)
    (hwild : table.WildcardsApart strings) (h : router.Reflects strings table)
    (h' : router'.Reflects strings table) (hnone : ∀ id c, table id c → ¬c.Lists strings d) :
    router.matchWildcard strings d = router'.matchWildcard strings d := by
  -- what one router finds, the other finds as well
  have hfound : ∀ {r r' : DomainRouter}, r.Reflects strings table → r'.Reflects strings table →
      ∀ {id c}, r.matchWildcard strings d = some (id, c) →
        r'.matchWildcard strings d = some (id, c) := by
    intro r r' hr hr' id c hsome
    obtain ⟨hholds, hmat⟩ := matches_of_matchWildcard hr.consistent hsome
    have htable := ((hr.settled id).holds_iff c).mp hholds
    have hisSome := matchWildcard_isSome hr'.consistent
      (((hr'.settled id).holds_iff c).mpr htable) hmat
    obtain ⟨⟨id', c'⟩, hsome'⟩ := Option.isSome_iff_exists.mp hisSome
    obtain ⟨hholds', hmat'⟩ := matches_of_matchWildcard hr'.consistent hsome'
    have htable' := ((hr'.settled id').holds_iff c').mp hholds'
    obtain rfl := hwild d hnone id id' c c' htable htable' hmat hmat'
    obtain rfl := hsep.functional id c c' htable htable'
    exact hsome'
  ext ⟨id, c⟩
  exact ⟨hfound h h', hfound h' h⟩

theorem resolve_eq_of_reflects (hsep : table.Separate strings)
    (hwild : table.WildcardsApart strings) (h : router.Reflects strings table)
    (h' : router'.Reflects strings table) (query) :
    router.resolve strings query = router'.resolve strings query := by
  rw [resolve, resolve]
  set d := strings.toLowercase (normalizeHandshake query)
  have hexact : router.matchExact d = router'.matchExact d := by
    ext ⟨id, c⟩
    exact h.matchExact_eq_some.trans h'.matchExact_eq_some.symm
  rw [← hexact]
  cases hfound : router.matchExact d with
  | some found => rfl
  | none =>
    refine matchWildcard_eq_of_reflects hsep hwild h h' fun id c htable hlists => ?_
    have hsome := h.matchExact_eq_some.mpr ⟨htable, hlists⟩
    rw [hfound] at hsome
    cases hsome

end DomainRouter

/-! ### One event -/

section Event

variable (removeOrder addOrder : ConfigOrder)

variable {j : ProviderId} {router : DomainRouter} {event : ProviderEvent}

/-- An event leaves the configurations of other ids alone. -/
theorem handleEvent_configs_of_ne (event : ProviderEvent) (router) (hj : j ≠ event.id) :
    (handleEvent strings removeOrder addOrder event router).configs.lookup j =
      router.configs.lookup j := by
  cases event with
  | added pc => exact (add_configs_lookup _ _ _ _ _).trans (if_neg hj)
  | updated pc =>
    calc (router.update strings removeOrder addOrder pc.id pc.config).configs.lookup j
        _ = (router.remove removeOrder pc.id).configs.lookup j :=
          (add_configs_lookup _ _ _ _ _).trans (if_neg hj)
        _ = router.configs.lookup j := (remove_configs_lookup _ _ _ _).trans (if_neg hj)
  | removed id => exact (remove_configs_lookup _ _ _ _).trans (if_neg hj)

/-- `remove` takes nothing from other owners. -/
theorem DomainRouter.remove_owner_of_ne (hj : j ≠ id) (h : router.exactDomains.lookup d = some j) :
    (router.remove removeOrder id).exactDomains.lookup d = some j := by
  cases hid : router.configs.lookup id with
  | none => rwa [remove_of_none removeOrder hid]
  | some entry =>
    rw [remove_exactDomains_lookup removeOrder hid, h]
    split
    · simp [Option.filter, hj]
    · rfl

/-- An event leaves the domains of other owners alone, unless its configuration lists
them. -/
theorem handleEvent_owner_of_ne (hsep : table.Separate strings) (hreach : event.Reaches table)
    (hj : j ≠ event.id) {c} (htable : table j c) (hlists : c.Lists strings d)
    (h : router.exactDomains.lookup d = some j) :
    (handleEvent strings removeOrder addOrder event router).exactDomains.lookup d = some j := by
  -- a configuration of the table that is not `j`'s does not list `d`
  have hother : ∀ {id config}, table id config → j ≠ id →
      ¬(d ∈ config.normalizedDomains strings ∧ isWildcard d = false) :=
    fun hcfg hne hlst => hne (hsep.exact _ _ _ _ d htable hcfg hlists hlst)
  cases event with
  | added pc =>
    exact (add_exactDomains_lookup _ _ _ _ _).trans ((if_neg (hother hreach hj)).trans h)
  | updated pc =>
    rw [handleEvent, update, add_exactDomains_lookup, if_neg (hother hreach hj)]
    exact remove_owner_of_ne removeOrder hj h
  | removed id => exact remove_owner_of_ne removeOrder hj h

theorem settledAt_of_ne (hsep : table.Separate strings) (hreach : event.Reaches table)
    (hj : j ≠ event.id) (h : router.SettledAt strings table j) :
    (handleEvent strings removeOrder addOrder event router).SettledAt strings table j where
  holds_iff c := by
    rw [← h.holds_iff c, Holds, handleEvent_configs_of_ne _ _ _ _ hj]
    rfl
  owns c d htable hlists :=
    handleEvent_owner_of_ne removeOrder addOrder hsep hreach hj htable hlists
      (h.owns c d htable hlists)

/-- After `add` the id has the new configuration and owns what it lists. -/
theorem DomainRouter.settledAt_add {config order}
    {router : DomainRouter} (hsep : table.Separate strings) (htable : table id config) :
    (router.add strings order id config).SettledAt strings table id where
  holds_iff c := by
    rw [Holds, add_configs_lookup, if_pos rfl]
    constructor
    · rintro ⟨entry, hent, rfl⟩
      cases hent
      exact htable
    · intro hc
      exact ⟨_, rfl, hsep.functional id config c htable hc⟩
  owns c d hc hlists := by
    obtain rfl := hsep.functional id config c htable hc
    exact (add_exactDomains_lookup _ _ _ _ _).trans (if_pos hlists)

theorem settledAt_self (router) (hsep : table.Separate strings) (hreach : event.Reaches table) :
    (handleEvent strings removeOrder addOrder event router).SettledAt strings table event.id := by
  cases event with
  | added pc => exact settledAt_add hsep hreach
  | updated pc => exact settledAt_add hsep hreach
  | removed id =>
    refine ⟨fun c => iff_of_false ?_ (hreach c), fun c d hc => absurd hc (hreach c)⟩
    rintro ⟨entry, hent, -⟩
    have habs : (router.remove removeOrder id).configs.lookup id = none := by
      rw [remove_configs_lookup, if_pos rfl]
    exact Option.some_ne_none entry (hent.symm.trans habs)

theorem handleEvent_consistent
    (hfresh : ∀ pc, event = .added pc → router.configs.lookup pc.id = none)
    (h : router.Consistent strings) :
    (handleEvent strings removeOrder addOrder event router).Consistent strings := by
  cases event with
  | added pc =>
    exact add_consistent_of_fresh addOrder pc.config h (hfresh pc rfl)
  | updated pc => exact update_consistent removeOrder addOrder pc.id pc.config h
  | removed id => exact remove_consistent removeOrder id h

end Event

/-! ### A run of events -/

/-- Events about different ids, each of which brings its id to what the table says, settle
these ids and keep the settled ones. -/
theorem run_settles {events} (hsep : table.Separate strings)
    (hrun : Machine.Run (EventStep strings) router events router')
    (hreach : ∀ event ∈ events, event.Reaches table) (hids : (events.map ProviderEvent.id).Nodup)
    (hfresh : ∀ pc, .added pc ∈ events → router.configs.lookup pc.id = none)
    (h : router.Consistent strings) :
    router'.Consistent strings ∧
      ∀ id, id ∈ events.map ProviderEvent.id ∨ router.SettledAt strings table id →
        router'.SettledAt strings table id := by
  -- an id that an event has settled is not touched by the later ones, whose ids are others
  induction hrun with
  | nil router => exact ⟨h, fun id hid => hid.resolve_left (not_mem_nil)⟩
  | @cons router middle _ event rest hstep _ ih =>
    obtain ⟨removeOrder, addOrder, rfl⟩ := hstep
    obtain ⟨hnew, hrest⟩ := nodup_cons.mp hids
    have hne : ∀ e ∈ rest, e.id ≠ event.id := fun e he heq => hnew (heq ▸ mem_map_of_mem he)
    have hreachEvent := hreach event mem_cons_self
    have hmiddle := handleEvent_consistent removeOrder addOrder
      (fun pc hpc => hfresh pc (hpc ▸ mem_cons_self)) h
    obtain ⟨hcons, hset⟩ := ih (fun e he => hreach e (mem_cons_of_mem _ he)) hrest (fun pc hpc =>
        (handleEvent_configs_of_ne removeOrder addOrder event router (hne _ hpc)).trans
          (hfresh pc (mem_cons_of_mem _ hpc)))
      hmiddle
    refine ⟨hcons, fun id hid => hset id ?_⟩
    by_cases hself : id = event.id
    · subst hself
      exact .inr (settledAt_self removeOrder addOrder router hsep hreachEvent)
    · refine hid.imp (fun hmem => ?_) (settledAt_of_ne removeOrder addOrder hsep hreachEvent hself)
      exact (mem_cons.mp hmem).resolve_left hself

end Infrarust
