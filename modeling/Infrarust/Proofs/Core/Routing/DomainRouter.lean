import Infrarust.Core.Routing.DomainRouter
import Infrarust.Lib.Machine
import Mathlib.Data.List.DropRight

/-!
# `Infrarust.Proofs.Core.Routing.DomainRouter`: what a domain resolves to

A router is *consistent* when its tables agree about the configurations it holds: an owner
of a domain is there and lists the domain, and the patterns are those of the configurations.
It is *covered* when in addition every listed exact domain has an owner. A consistent and
covered router answers every query from the configurations alone (`answers_of_covered`).

Every `update` and `remove` keeps a router consistent, and so does an `add` of a fresh id.
They do not keep it covered: `remove` takes the owner of a domain away although another
configuration lists the domain too. `resolve_answers` therefore is about the runs whose
calls leave no listed domain without an owner and no stale entry behind, and
`resolve_forgets_shared_domain` is the shortest run that does.
-/

set_option autoImplicit false

namespace Infrarust

open List Machine

/-! ### The domains of a configuration -/

section Spec

variable (strings : Strings)

/-- The domains of a configuration as the router compares them. -/
def ServerConfig.normalizedDomains (config : ServerConfig) : List String :=
  config.domains.map strings.toLowercase

/-- The configuration lists `domain` as an exact domain. -/
def ServerConfig.Lists (config : ServerConfig) (domain : String) : Prop :=
  domain ∈ config.normalizedDomains strings ∧ isWildcard domain = false

/-- A wildcard domain of the configuration matches `domain`. -/
def ServerConfig.Matches (config : ServerConfig) (domain : String) : Prop :=
  ∃ pattern ∈ config.normalizedDomains strings,
    isWildcard pattern = true ∧ strings.wildMatch pattern domain = true

/-- The router holds `config` under `id`. -/
def DomainRouter.Holds (router : DomainRouter) (id : ProviderId) (config : ServerConfig) : Prop :=
  ∃ entry, router.configs.lookup id = some entry ∧ entry.config = config

/-- The router's answers for `domain` are those its configurations call for: it answers
exactly when one of them lists or matches the domain, with one of them that does, and with
one that lists it if there is such a one. -/
structure DomainRouter.Answers (router : DomainRouter) (query domain : String) : Prop where
  isSome_iff : (router.resolve strings query).isSome ↔
    ∃ id config, router.Holds id config ∧
      (config.Lists strings domain ∨ config.Matches strings domain)
  holds : ∀ id config, router.resolve strings query = some (id, config) → router.Holds id config
  lists_or_matches : ∀ id config, router.resolve strings query = some (id, config) →
    config.Lists strings domain ∨
      (config.Matches strings domain ∧
        ∀ id' config', router.Holds id' config' → ¬config'.Lists strings domain)

end Spec

variable {order : ConfigOrder} {id : ProviderId} {router : DomainRouter} {config : ServerConfig}

namespace DomainRouter

variable {strings : Strings}

/-! ### What the writers do to each table -/

variable {router : DomainRouter} {id : ProviderId} {entry : RouterEntry} {config : ServerConfig}
  {domain : String}

/-- A rebuilt pattern list has the wildcard domains of the entries, in any order. -/
theorem mem_rebuildWildcards {raw} :
    ⟨raw, id⟩ ∈ (router.rebuildWildcards order).wildcardPatterns ↔
      ∃ entry, router.configs.lookup id = some entry ∧ raw ∈ entry.domains ∧
        isWildcard raw = true := by
  simp only [rebuildWildcards, mem_flatMap, mem_map, mem_filter, WildcardEntry.mk.injEq]
  constructor
  · rintro ⟨⟨id', entry⟩, hent, domain, hdom, rfl, rfl⟩
    exact ⟨entry, order.mem_iter.mp hent, hdom⟩
  · rintro ⟨entry, hent, hdom⟩
    exact ⟨(id, entry), order.mem_iter.mpr hent, raw, hdom, rfl, rfl⟩

/-- A loop that changes the owner of each exact domain it visits. Visiting a domain once
more changes nothing, so the owner of a domain afterwards depends only on whether the loop
visits it. -/
theorem foldl_lookup (change : Option ProviderId → Option ProviderId)
    {step : Dict String ProviderId → String → Dict String ProviderId}
    (hstep : ∀ owners domain d, (step owners domain).lookup d =
      if d = domain then change (owners.lookup d) else owners.lookup d)
    (hchg : ∀ o, change (change o) = change o)
    (domains : List String) (owners d) :
    (domains.foldl (fun owners domain =>
        if isWildcard domain then owners else step owners domain) owners).lookup d =
      if d ∈ domains ∧ isWildcard d = false then change (owners.lookup d)
      else owners.lookup d := by
  induction domains generalizing owners with
  | nil => simp
  | cons first rest ih =>
    rw [foldl_cons, ih]
    by_cases hfst : d = first
    · subst hfst
      cases hw : isWildcard d <;> simp [hstep, hchg]
    · -- the first step concerns another domain
      have hown : (if isWildcard first then owners else step owners first).lookup d =
          owners.lookup d := by
        split
        · rfl
        · rw [hstep, if_neg hfst]
      rw [hown]
      simp [hfst]

theorem insertDomains_lookup (id domains) (router : DomainRouter) (d) :
    (router.insertDomains id domains).exactDomains.lookup d =
      if d ∈ domains ∧ isWildcard d = false then some id else router.exactDomains.lookup d :=
  foldl_lookup (fun _ => some id)
    (fun owners domain d => Dict.lookup_insert_eq owners domain d id) (fun _ => rfl)
    domains router.exactDomains d

theorem removeDomains_lookup {domains : List String} {d} :
    (router.removeDomains id domains).exactDomains.lookup d =
      if d ∈ domains ∧ isWildcard d = false then
        (router.exactDomains.lookup d).filter (fun owner => !decide (owner = id))
      else router.exactDomains.lookup d :=
  foldl_lookup (fun o => o.filter fun owner => !decide (owner = id))
    (fun owners domain d => Dict.lookup_removeIf owners domain d _)
    (fun o => by cases o <;> simp [Option.filter]; split <;> simp_all)
    domains router.exactDomains d

theorem add_configs_lookup (order id config) (router : DomainRouter) (j) :
    (router.add strings order id config).configs.lookup j =
      if j = id then some ⟨config, config.normalizedDomains strings⟩
      else router.configs.lookup j := by
  unfold add
  dsimp only
  split <;> exact Dict.lookup_insert_eq _ _ _ _

theorem add_exactDomains_lookup (order id config) (router : DomainRouter) (d) :
    (router.add strings order id config).exactDomains.lookup d =
      if d ∈ config.normalizedDomains strings ∧ isWildcard d = false then some id
      else router.exactDomains.lookup d := by
  unfold add
  dsimp only
  split <;> exact insertDomains_lookup _ _ _ _

theorem remove_of_none (order) (h : router.configs.lookup id = none) :
    router.remove order id = router := by
  rw [remove, h]

theorem remove_configs_lookup (order id) (router : DomainRouter) (j) :
    (router.remove order id).configs.lookup j =
      if j = id then none else router.configs.lookup j := by
  cases h : router.configs.lookup id with
  | none =>
    rw [remove_of_none order h]
    split
    case isTrue hj => rw [hj, h]
    case isFalse => rfl
  | some entry =>
    rw [remove, h]
    dsimp only
    split <;> exact Dict.lookup_erase_eq _ _ _

theorem remove_exactDomains_lookup (order) (h : router.configs.lookup id = some entry) (d) :
    (router.remove order id).exactDomains.lookup d =
      if d ∈ entry.domains ∧ isWildcard d = false then
        (router.exactDomains.lookup d).filter (fun owner => !decide (owner = id))
      else router.exactDomains.lookup d := by
  rw [remove, h]
  dsimp only
  split <;> exact removeDomains_lookup

/-! ### Consistent routers -/

/-- The pattern list holds exactly the wildcard domains of the entries. -/
def PatternsCurrent (router : DomainRouter) : Prop :=
  ∀ raw id, ⟨raw, id⟩ ∈ router.wildcardPatterns ↔
    ∃ entry, router.configs.lookup id = some entry ∧ raw ∈ entry.domains ∧ isWildcard raw = true

/-- The three tables agree about the configurations that are there. -/
structure Consistent (strings : Strings) (router : DomainRouter) : Prop where
  normalized : ∀ id entry, router.configs.lookup id = some entry →
    entry.domains = entry.config.normalizedDomains strings
  owner_lists : ∀ d id, router.exactDomains.lookup d = some id →
    ∃ entry, router.configs.lookup id = some entry ∧ d ∈ entry.domains ∧ isWildcard d = false
  patterns : router.PatternsCurrent

/-- Every exact domain that is listed has an owner. -/
def Covered (router : DomainRouter) : Prop :=
  ∀ id entry d, router.configs.lookup id = some entry → d ∈ entry.domains →
    isWildcard d = false → (router.exactDomains.lookup d).isSome

theorem new_consistent : Consistent strings new where
  normalized id entry h := by simp [new] at h
  owner_lists d id h := by simp [new] at h
  patterns raw id := by simp [new]

theorem new_covered : Covered new := by
  intro id entry d h
  simp [new] at h

theorem rebuildWildcards_patternsCurrent : (router.rebuildWildcards order).PatternsCurrent :=
  fun _ _ => mem_rebuildWildcards

/-- `add` rebuilds the patterns only if the new configuration has some. If it has none, an
entry it replaces must have had none either. -/
theorem add_patternsCurrent (h : router.PatternsCurrent)
    (hwild : (config.normalizedDomains strings).any isWildcard = true ∨
      ∀ entry, router.configs.lookup id = some entry → entry.domains.any isWildcard = false) :
    (router.add strings order id config).PatternsCurrent := by
  unfold add
  dsimp only
  split
  case isTrue => exact rebuildWildcards_patternsCurrent
  case isFalse hnew =>
    have hold := hwild.resolve_left hnew
    intro raw j
    show ⟨raw, j⟩ ∈ router.wildcardPatterns ↔ _
    rw [h raw j, Dict.lookup_insert_eq]
    by_cases hj : j = id
    · -- neither the replaced entry nor the new one has a wildcard domain
      subst hj
      simp only [any_eq_true, not_exists, not_and, Bool.not_eq_true] at hnew
      simp only [any_eq_false, Bool.not_eq_true] at hold
      constructor
      · rintro ⟨entry, hent, hraw, hw⟩
        simp [hold entry hent raw hraw] at hw
      · rintro ⟨entry, hent, hraw, hw⟩
        obtain rfl : _ = entry := by simpa using hent
        simp [hnew raw hraw] at hw
    · rw [if_neg hj]
      rfl

theorem remove_patternsCurrent (h : router.PatternsCurrent) :
    (router.remove order id).PatternsCurrent := by
  cases hid : router.configs.lookup id with
  | none => rwa [remove_of_none order hid]
  | some entry =>
    rw [remove, hid]
    dsimp only
    split
    case isTrue => exact rebuildWildcards_patternsCurrent
    case isFalse hold =>
      intro raw j
      show ⟨raw, j⟩ ∈ router.wildcardPatterns ↔ ∃ e, (router.configs.erase id).lookup j = _ ∧ _
      rw [h raw j, Dict.lookup_erase_eq]
      by_cases hj : j = id
      · -- the removed entry has no wildcard domain, so no pattern is its
        subst hj
        simp only [any_eq_true, not_exists, not_and, Bool.not_eq_true] at hold
        simp only [if_true, reduceCtorEq, false_and, exists_false, iff_false]
        rintro ⟨e, he, hraw, hw⟩
        cases hid.symm.trans he
        simp [hold raw hraw] at hw
      · simp [hj]

/-- `add` keeps a router consistent if the configuration it replaces leaves nothing behind:
the new one lists every domain `id` owns, and rebuilds the patterns if the old one had any. -/
theorem add_consistent (h : router.Consistent strings)
    (howned : ∀ d, router.exactDomains.lookup d = some id → d ∈ config.normalizedDomains strings)
    (hwild : (config.normalizedDomains strings).any isWildcard = true ∨
      ∀ entry, router.configs.lookup id = some entry → entry.domains.any isWildcard = false) :
    (router.add strings order id config).Consistent strings where
  normalized j entry hj := by
    rw [add_configs_lookup] at hj
    split at hj
    · cases hj
      rfl
    · exact h.normalized j entry hj
  owner_lists d j hd := by
    rw [add_exactDomains_lookup] at hd
    rw [add_configs_lookup]
    split at hd
    case isTrue hnew =>
      cases hd
      exact ⟨_, if_pos rfl, hnew⟩
    case isFalse hnew =>
      -- an owner from before is another provider: what `id` owned is listed again
      obtain ⟨entry, hent, hlst, hexact⟩ := h.owner_lists d j hd
      have hj : j ≠ id := by
        rintro rfl
        exact hnew ⟨howned d hd, hexact⟩
      exact ⟨entry, by rw [if_neg hj, hent], hlst, hexact⟩
  patterns := add_patternsCurrent h.patterns hwild

/-- An `add` under an id the router does not hold meets the conditions. -/
theorem add_consistent_of_fresh (order config)
    (h : router.Consistent strings) (hfresh : router.configs.lookup id = none) :
    (router.add strings order id config).Consistent strings := by
  refine add_consistent h (fun d hd => ?_) (.inr fun entry hent => ?_)
  · obtain ⟨entry, hent, -⟩ := h.owner_lists d id hd
    simp [hfresh] at hent
  · simp [hfresh] at hent

theorem remove_consistent (order id) (h : router.Consistent strings) :
    (router.remove order id).Consistent strings where
  normalized j entry hj := by
    rw [remove_configs_lookup] at hj
    split at hj
    · cases hj
    · exact h.normalized j entry hj
  owner_lists d j hd := by
    cases hid : router.configs.lookup id with
    | none => rw [remove_of_none order hid] at hd ⊢; exact h.owner_lists d j hd
    | some entry =>
      have hold : router.exactDomains.lookup d = some j := by
        rw [remove_exactDomains_lookup order hid] at hd
        split at hd
        · exact (Option.filter_eq_some_iff.mp hd).1
        · exact hd
      obtain ⟨e, he, hlst, hexact⟩ := h.owner_lists d j hold
      -- `id` lists every domain it owns, so it owns none any more
      have hj : j ≠ id := by
        rintro rfl
        cases hid.symm.trans he
        rw [remove_exactDomains_lookup order hid, if_pos ⟨hlst, hexact⟩, hold] at hd
        simp [Option.filter] at hd
      exact ⟨e, by rw [remove_configs_lookup, if_neg hj, he], hlst, hexact⟩
  patterns := remove_patternsCurrent h.patterns

theorem update_consistent (removeOrder addOrder id config) (h : router.Consistent strings) :
    (router.update strings removeOrder addOrder id config).Consistent strings :=
  add_consistent_of_fresh addOrder config (remove_consistent removeOrder id h)
    (by rw [remove_configs_lookup, if_pos rfl])

/-! ### Answers of a consistent and covered router -/

theorem matchExact_eq_some :
    router.matchExact domain = some (id, config) ↔
      router.exactDomains.lookup domain = some id ∧ router.Holds id config := by
  unfold matchExact Holds
  cases router.exactDomains.lookup domain with
  | none => simp
  | some owner =>
    simp only [Option.map_eq_some_iff, Prod.mk.injEq, Option.some.injEq]
    constructor
    · rintro ⟨entry, hent, rfl, rfl⟩
      exact ⟨rfl, entry, hent, rfl⟩
    · rintro ⟨rfl, entry, hent, rfl⟩
      exact ⟨entry, hent, rfl, rfl⟩

section

variable (h : router.Consistent strings)

include h

/-- What the scan returns is a configuration of the router with a matching pattern. -/
theorem matches_of_matchWildcard
    (hfound : router.matchWildcard strings domain = some (id, config)) :
    router.Holds id config ∧ config.Matches strings domain := by
  obtain ⟨⟨raw, owner⟩, hpattern, hsome⟩ := exists_of_findSome?_eq_some hfound
  split at hsome
  case isFalse => cases hsome
  case isTrue hmatch =>
    obtain ⟨entry, hent, heq⟩ := Option.map_eq_some_iff.mp hsome
    cases heq
    refine ⟨⟨entry, hent, rfl⟩, raw, ?_, ?_, hmatch⟩
    · obtain ⟨e, he, hraw, -⟩ := (h.patterns raw owner).mp hpattern
      cases hent.symm.trans he
      rwa [← h.normalized owner entry hent]
    · exact ((h.patterns raw owner).mp hpattern).choose_spec.2.2

/-- The scan finds something if a configuration of the router matches. -/
theorem matchWildcard_isSome (hholds : router.Holds id config)
    (hmat : config.Matches strings domain) :
    (router.matchWildcard strings domain).isSome := by
  obtain ⟨entry, hent, rfl⟩ := hholds
  obtain ⟨raw, hraw, hw, hmatch⟩ := hmat
  rw [matchWildcard, List.findSome?_isSome_iff]
  refine ⟨⟨raw, id⟩, (h.patterns raw id).mpr ⟨entry, hent, ?_, hw⟩, ?_⟩
  · rwa [h.normalized id entry hent]
  · simp [hmatch, hent]

/-- In a consistent and covered router the exact lookup fails only if no configuration lists
the domain. -/
theorem not_lists_of_matchExact_eq_none (hcov : router.Covered)
    (hnone : router.matchExact domain = none) (hholds : router.Holds id config) :
    ¬config.Lists strings domain := by
  rintro ⟨hlst, hexact⟩
  obtain ⟨entry, hent, rfl⟩ := hholds
  rw [← h.normalized id entry hent] at hlst
  obtain ⟨owner, hown⟩ := Option.isSome_iff_exists.mp (hcov id entry domain hent hlst hexact)
  obtain ⟨e, he, -⟩ := h.owner_lists domain owner hown
  have hsome := matchExact_eq_some.mpr ⟨hown, e, he, rfl⟩
  rw [hnone] at hsome
  cases hsome

/-- An exact answer comes from an owner, and an owner lists the domain. -/
theorem lists_of_matchExact (hfound : router.matchExact domain = some (id, config)) :
    router.Holds id config ∧ config.Lists strings domain := by
  obtain ⟨hown, hholds⟩ := matchExact_eq_some.mp hfound
  obtain ⟨e, he, hlst, hexact⟩ := h.owner_lists domain id hown
  refine ⟨hholds, ?_, hexact⟩
  obtain ⟨entry, hent, rfl⟩ := hholds
  obtain rfl : entry = e := Option.some.inj (hent.symm.trans he)
  rwa [← h.normalized id entry hent]

end

/-- The wildcards are asked only if no configuration owns the domain. -/
theorem resolve_eq_or (router : DomainRouter) (query) :
    router.resolve strings query =
      (router.matchExact (strings.toLowercase (normalizeHandshake query))).or
        (router.matchWildcard strings (strings.toLowercase (normalizeHandshake query))) := by
  rw [resolve]
  cases router.matchExact (strings.toLowercase (normalizeHandshake query)) <;> rfl

theorem answers_of_covered (query) (h : router.Consistent strings) (hcov : router.Covered) :
    router.Answers strings query (strings.toLowercase (normalizeHandshake query)) := by
  have hres := @resolve_eq_or strings router query
  set domain := strings.toLowercase (normalizeHandshake query) with hdom
  refine ⟨?_, ?_, ?_⟩
  · rw [hres]
    cases hfound : router.matchExact domain with
    | some found =>
      obtain ⟨hholds, hlists⟩ := lists_of_matchExact h hfound
      exact iff_of_true rfl ⟨found.1, found.2, hholds, .inl hlists⟩
    | none =>
      constructor
      · intro hsome
        obtain ⟨found, hwild⟩ := Option.isSome_iff_exists.mp hsome
        obtain ⟨hholds, hmat⟩ := matches_of_matchWildcard h hwild
        exact ⟨found.1, found.2, hholds, .inr hmat⟩
      · rintro ⟨id, config, hholds, hlists | hmat⟩
        · exact absurd hlists (not_lists_of_matchExact_eq_none h hcov hfound hholds)
        · exact matchWildcard_isSome h hholds hmat
  · intro id config hfound
    rw [hres, Option.or_eq_some_iff] at hfound
    rcases hfound with hfound | ⟨-, hfound⟩
    · exact (lists_of_matchExact h hfound).1
    · exact (matches_of_matchWildcard h hfound).1
  · intro id config hfound
    rw [hres, Option.or_eq_some_iff] at hfound
    rcases hfound with hfound | ⟨hnone, hfound⟩
    · exact .inl (lists_of_matchExact h hfound).2
    · -- a wildcard answers only for a domain that nobody lists
      refine .inr ⟨(matches_of_matchWildcard h hfound).2, fun id' config' hholds => ?_⟩
      exact not_lists_of_matchExact_eq_none h hcov hnone hholds

/-! ### Which calls keep every listed domain owned -/

/-- No other configuration lists `d`. -/
def OnlyListing (router : DomainRouter) (id : ProviderId) (d : String) : Prop :=
  ∀ j entry, router.configs.lookup j = some entry → j ≠ id → d ∉ entry.domains
deriving Decidable

/-- `add` takes no owner away. -/
theorem add_covered (h : router.Covered) : (router.add strings order id config).Covered := by
  intro j entry d hj hlst hexact
  rw [add_configs_lookup] at hj
  rw [add_exactDomains_lookup]
  split
  case isTrue => rfl
  case isFalse hnew =>
    split at hj
    · cases hj
      exact absurd ⟨hlst, hexact⟩ hnew
    · exact h j entry d hj hlst hexact

/-- After `remove`, a listed domain without an owner was owned by the removed provider. -/
theorem owner_of_remove_eq_none {j d} (h : router.Covered)
    (hj : router.configs.lookup j = some entry) (hlst : d ∈ entry.domains)
    (hexact : isWildcard d = false) (hnone :
    (router.remove order id).exactDomains.lookup d = none) :
    router.exactDomains.lookup d = some id := by
  obtain ⟨owner, hown⟩ := Option.isSome_iff_exists.mp (h j entry d hj hlst hexact)
  cases hid : router.configs.lookup id with
  | none => simp [remove_of_none order hid, hown] at hnone
  | some e =>
    rw [remove_exactDomains_lookup order hid, hown] at hnone
    split at hnone
    · have howned : owner = id := by simpa [Option.filter] using hnone
      rw [hown, howned]
    · cases hnone

theorem remove_covered (h : router.Covered)
    (howned : ∀ d, router.exactDomains.lookup d = some id → router.OnlyListing id d) :
    (router.remove order id).Covered := by
  intro j entry d hj hlst hexact
  rw [remove_configs_lookup] at hj
  split at hj
  case isTrue => cases hj
  case isFalse hne =>
    by_contra hnone
    have hown := owner_of_remove_eq_none h hj hlst hexact (Option.not_isSome_iff_eq_none.mp hnone)
    exact howned d hown j entry hj hne hlst

/-- The second half of `update` gives the domains that are listed again their owner back. -/
theorem update_covered {removeOrder addOrder} (h : router.Covered)
    (howned : ∀ d, router.exactDomains.lookup d = some id →
      d ∈ config.normalizedDomains strings ∨ router.OnlyListing id d) :
    (router.update strings removeOrder addOrder id config).Covered := by
  intro j entry d hj hlst hexact
  rw [update, add_exactDomains_lookup]
  split
  case isTrue => rfl
  case isFalse hnew =>
    rw [update, add_configs_lookup] at hj
    split at hj
    case isTrue =>
      cases hj
      exact absurd ⟨hlst, hexact⟩ hnew
    case isFalse hne =>
      rw [remove_configs_lookup, if_neg hne] at hj
      by_contra hnone
      have hown := owner_of_remove_eq_none h hj hlst hexact (Option.not_isSome_iff_eq_none.mp hnone)
      rcases howned d hown with hmem | honly
      · exact hnew ⟨hmem, hexact⟩
      · exact honly j entry hj hne hlst

end DomainRouter

/-! ### Runs -/

/-- A call of one of the three writers, with the orders its traversals take. -/
inductive RouterCall where
  | add (order : ConfigOrder) (id : ProviderId) (config : ServerConfig)
  | update (removeOrder addOrder : ConfigOrder) (id : ProviderId) (config : ServerConfig)
  | remove (order : ConfigOrder) (id : ProviderId)

namespace RouterCall

open DomainRouter

def run (strings : Strings) : RouterCall → DomainRouter → DomainRouter
  | .add order id config, router => router.add strings order id config
  | .update removeOrder addOrder id config, router =>
    router.update strings removeOrder addOrder id config
  | .remove order id, router => router.remove order id

/-- The call leaves no listed domain without an owner and nothing of a replaced
configuration behind. For `update` and `remove` this fails only when `id` owns a domain
that another configuration lists as well; for `add`, only when it replaces a configuration
of the same id. -/
def LeavesNoGap (strings : Strings) (router : DomainRouter) : RouterCall → Prop
  | .add _ id config =>
    (∀ d, router.exactDomains.lookup d = some id → d ∈ config.normalizedDomains strings) ∧
      ((config.normalizedDomains strings).any isWildcard = true ∨
        ∀ entry, router.configs.lookup id = some entry → entry.domains.any isWildcard = false)
  | .update _ _ id config =>
    ∀ d, router.exactDomains.lookup d = some id →
      d ∈ config.normalizedDomains strings ∨ router.OnlyListing id d
  | .remove _ id => ∀ d, router.exactDomains.lookup d = some id → router.OnlyListing id d

instance (strings : Strings) (router : DomainRouter) (call : RouterCall) :
    Decidable (call.LeavesNoGap strings router) := by
  unfold LeavesNoGap
  split <;> infer_instance

/-- The router takes a call. -/
def Step (strings : Strings) (router : DomainRouter) (call : RouterCall)
    (router' : DomainRouter) : Prop :=
  router' = call.run strings router

/-- The router takes a call that leaves no gap. -/
def GapFreeStep (strings : Strings) (router : DomainRouter) (call : RouterCall)
    (router' : DomainRouter) : Prop :=
  call.LeavesNoGap strings router ∧ Step strings router call router'

variable {strings : Strings}

theorem gapFreeStep_keeps {router' call} (h : GapFreeStep strings router call router')
    (hrouter : router.Consistent strings ∧ router.Covered) :
    router'.Consistent strings ∧ router'.Covered := by
  obtain ⟨hgap, rfl⟩ := h
  obtain ⟨hcons, hcov⟩ := hrouter
  cases call with
  | add order id config =>
    exact ⟨add_consistent hcons hgap.1 hgap.2, add_covered hcov⟩
  | update removeOrder addOrder id config =>
    exact ⟨update_consistent removeOrder addOrder id config hcons, update_covered hcov hgap⟩
  | remove order id =>
    exact ⟨remove_consistent order id hcons, remove_covered hcov hgap⟩

end RouterCall

/-- A domain with no marker and no trailing dot is looked up as it is. -/
theorem normalizeHandshake_of_plain {query : String} (hmarker : '\x00' ∉ query.toList)
    (hdot : query.toList.getLast? ≠ some '.') : normalizeHandshake query = query := by
  have htake : query.toList.takeWhile (· ≠ '\x00') = query.toList := by
    rw [takeWhile_eq_self_iff]
    intro c hc
    exact decide_eq_true fun h => hmarker (h ▸ hc)
  have hdrop : query.toList.rdropWhile (· = '.') = query.toList := by
    rw [rdropWhile_eq_self_iff]
    intro hne hlast
    exact hdot ((List.getLast?_eq_some_getLast hne).trans (by rw [of_decide_eq_true hlast]))
  rw [normalizeHandshake, htake, String.ofList_toList, Text.trimEndMatches]
  show String.ofList (query.toList.rdropWhile (· = '.')) = query
  rw [hdrop, String.ofList_toList]

/-- In every run whose calls leave no gap, the router answers every query without a marker
and without a trailing dot from the configurations it holds at that moment. -/
theorem resolve_answers {strings : Strings} {calls : List RouterCall} {router : DomainRouter}
    (hrun : Run (RouterCall.GapFreeStep strings) DomainRouter.new calls router)
    {query : String} (hmarker : '\x00' ∉ query.toList)
    (hdot : query.toList.getLast? ≠ some '.') :
    router.Answers strings query (strings.toLowercase query) := by
  have hinv : router.Consistent strings ∧ router.Covered :=
    hrun.invariant (I := fun router => router.Consistent strings ∧ router.Covered)
      (fun _ _ _ => RouterCall.gapFreeStep_keeps)
      ⟨DomainRouter.new_consistent, DomainRouter.new_covered⟩
  have hanss := DomainRouter.answers_of_covered query hinv.1 hinv.2
  rwa [normalizeHandshake_of_plain hmarker hdot] at hanss

/-! ### A run with a gap, and one without -/

/-- A server file with the given domains and one backend. -/
def serverFile (domains : List String) (host : String) : ServerConfig :=
  { domains := domains, addresses := [⟨host, 25565⟩] }

def survivalFile : ServerConfig := serverFile ["mc.example.com"] "10.0.1.10"

def eventFile : ServerConfig := serverFile ["mc.example.com", "*.event.example.com"] "10.0.1.11"

/-- Two files list `mc.example.com` and the one that was added last is removed again. -/
def sharedDomainCalls : List RouterCall :=
  [.add .entries (.file "survival.toml") survivalFile, .add .entries (.file "event.toml") eventFile,
    .remove .entries (.file "event.toml")]

/-- After these calls the router holds a configuration that lists `mc.example.com` and
resolves the domain to nothing. -/
theorem resolve_forgets_shared_domain :
    ∃ router, Run (RouterCall.Step asciiStrings) DomainRouter.new sharedDomainCalls router ∧
      router.Holds (.file "survival.toml") survivalFile ∧
      survivalFile.Lists asciiStrings "mc.example.com" ∧
      router.resolve asciiStrings "mc.example.com" = none ∧
      ¬router.Answers asciiStrings "mc.example.com" "mc.example.com" := by
  set router := sharedDomainCalls.foldl (fun router call => call.run asciiStrings router)
    DomainRouter.new with hrouter
  have hholds : router.Holds (.file "survival.toml") survivalFile :=
    ⟨⟨survivalFile, ["mc.example.com"]⟩, by decide, rfl⟩
  have hlists : survivalFile.Lists asciiStrings "mc.example.com" := by
    refine ⟨by decide, by decide⟩
  have hnone : router.resolve asciiStrings "mc.example.com" = none := by decide
  refine ⟨router, .cons rfl (.cons rfl (.cons rfl (.nil _))), hholds, hlists, hnone, ?_⟩
  intro h
  have hsome := h.isSome_iff.mpr ⟨_, _, hholds, .inl hlists⟩
  cases hsome

def creativeFile : ServerConfig :=
  serverFile ["creative.example.com", "*.event.example.com"] "10.0.1.12"

/-- Files with domains of their own come, change and go. -/
def ownDomainCalls : List RouterCall :=
  [.add .entries (.file "survival.toml") survivalFile,
    .add .entries (.file "creative.toml") creativeFile,
    .update .entries .entries (.file "survival.toml") (serverFile ["mc.example.com"] "10.0.1.20"),
    .remove .entries (.file "survival.toml")]

theorem resolve_answers_ownDomainCalls :
    ∃ router, Run (RouterCall.GapFreeStep asciiStrings) DomainRouter.new ownDomainCalls
        router ∧
      router.resolve asciiStrings "Lobby.Event.example.com" =
        some (.file "creative.toml", creativeFile) ∧
      router.Answers asciiStrings "Lobby.Event.example.com" "lobby.event.example.com" := by
  have hrun : Run (RouterCall.GapFreeStep asciiStrings) DomainRouter.new ownDomainCalls
      (ownDomainCalls.foldl (fun router call => call.run asciiStrings router)
        DomainRouter.new) :=
    .cons ⟨by decide, rfl⟩ (.cons ⟨by decide, rfl⟩ (.cons ⟨by decide, rfl⟩
      (.cons ⟨by decide, rfl⟩ (.nil _))))
  exact ⟨_, hrun, by decide, resolve_answers hrun (by decide) (by decide)⟩

/-! ### The order of the additions -/

namespace DomainRouter

variable {strings : Strings} {router : DomainRouter}

/-- Calls of `add` one after the other, each with the order that its traversal takes. -/
def addAll (strings : Strings) (adds : List (ConfigOrder × ProviderId × ServerConfig))
    (router : DomainRouter) : DomainRouter :=
  adds.foldl (fun router add => router.add strings add.1 add.2.1 add.2.2) router

theorem holds_add {j config'} (hfresh : router.configs.lookup id = none) :
    (router.add strings order id config).Holds j config' ↔
      (j, config') = (id, config) ∨ router.Holds j config' := by
  rw [Holds, add_configs_lookup]
  by_cases hj : j = id
  · subst hj
    simp [Holds, hfresh, eq_comm]
  · simp [Holds, hj]

theorem addAll_spec {adds : List (ConfigOrder × ProviderId × ServerConfig)}
    (hrouter : router.Consistent strings ∧ router.Covered) (hids : (adds.map (·.2.1)).Nodup)
    (hfresh : ∀ add ∈ adds, router.configs.lookup add.2.1 = none) :
    ((router.addAll strings adds).Consistent strings ∧ (router.addAll strings adds).Covered) ∧
      ∀ id config, (router.addAll strings adds).Holds id config ↔
        (id, config) ∈ adds.map Prod.snd ∨ router.Holds id config := by
  induction adds generalizing router with
  | nil => exact ⟨hrouter, fun id config => by simp [addAll]⟩
  | cons add adds ih =>
    obtain ⟨order, id, config⟩ := add
    obtain ⟨hid, hids⟩ := nodup_cons.mp hids
    obtain ⟨hnew, hfresh⟩ := forall_mem_cons.mp hfresh
    have hadd := @ih (router.add strings order id config)
      ⟨add_consistent_of_fresh order config hrouter.1 hnew, add_covered hrouter.2⟩
      hids fun other hother => by
        rw [add_configs_lookup, if_neg, hfresh other hother]
        exact fun heq => hid (mem_map.mpr ⟨other, hother, heq⟩)
    refine ⟨hadd.1, fun j config' => (hadd.2 j config').trans ?_⟩
    rw [holds_add hnew, map_cons, mem_cons, or_left_comm, or_assoc]

/-- The configuration that was added last is the first one of its traversal. -/
theorem matchWildcard_add_entries {domain} (hmat : config.Matches strings domain) :
    (router.add strings .entries id config).matchWildcard strings domain = some (id, config) := by
  obtain ⟨raw, hraw, hwild, hmatch⟩ := hmat
  have hany : (config.domains.map strings.toLowercase).any isWildcard = true :=
    any_eq_true.mpr ⟨raw, hraw, hwild⟩
  simp only [add, matchWildcard, if_pos hany, rebuildWildcards, Dict.Order.entries,
    AList.entries_insert, map_cons, flatMap_cons, List.findSome?_append]
  refine Option.or_eq_some_iff.mpr (.inl ?_)
  -- all these patterns are of the one configuration, and one of them matches
  generalize hlist : List.filter isWildcard _ = wildcards
  have hmem : raw ∈ wildcards := hlist ▸ mem_filter.mpr ⟨hraw, hwild⟩
  clear hlist
  induction wildcards with
  | nil => cases hmem
  | cons first wildcards ih =>
    rw [map_cons, List.findSome?_cons]
    by_cases hfst : strings.wildMatch first domain = true
    · simp [hfst]
    · have hne : raw ≠ first := fun heq => hfst (heq ▸ hmatch)
      simp only [hfst]
      exact ih ((mem_cons.mp hmem).resolve_left hne)

def survivalEntry : ProviderId × ServerConfig := (.file "survival.toml", survivalFile)

def anyEntry : ProviderId × ServerConfig :=
  (.file "any.toml", serverFile ["*.example.com"] "10.0.1.13")

def playEntry : ProviderId × ServerConfig := (.file "play.toml", serverFile ["play.*"] "10.0.1.14")

end DomainRouter

end Infrarust
