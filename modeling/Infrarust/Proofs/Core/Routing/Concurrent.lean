import Infrarust.Core.Routing.Concurrent
import Infrarust.Proofs.Core.Routing.DomainRouter

/-!
# `Infrarust.Proofs.Core.Routing.Concurrent`: what a reader sees of an update

The accesses of an update, made one after the other, are `DomainRouter.update`
(`run_updateAccesses`), and the steps of a reader that nobody interrupts are
`DomainRouter.resolve` (`reader_alone`).

Between the first access of an update and its last but one, the tables do not hold the
configuration that is being updated. A reader that comes then finds the owner of its domain
and no configuration for it, and goes on to the wildcards. So an update of an owned domain
is never hidden from its readers: `update_seen_by_reader` gives the schedule for every
router and every update.
-/

set_option autoImplicit false

namespace Infrarust

open DomainRouter List

variable {strings : Strings}

/-! ### The accesses of a call make up the call -/

variable {id : ProviderId} {domains : List String} {router : DomainRouter} {config : ServerConfig}

theorem run_exactInserts :
    ((domains.filter (!isWildcard ·)).map (TableAccess.exactInsert · id)).foldl
      (fun router access => access.run router) router = router.insertDomains id domains := by
  rw [foldl_map, foldl_filter]
  refine foldl_hom (fun owners => { router with exactDomains := owners }) fun _ domain => ?_
  cases isWildcard domain <;> rfl

theorem run_exactRemoves :
    ((domains.filter (!isWildcard ·)).map (TableAccess.exactRemoveIf · id)).foldl
      (fun router access => access.run router) router = router.removeDomains id domains := by
  rw [foldl_map, foldl_filter]
  refine foldl_hom (fun owners => { router with exactDomains := owners }) fun _ domain => ?_
  cases isWildcard domain <;> rfl

theorem run_addAccesses {order} :
    (addAccesses strings order id config).foldl
      (fun router access => access.run router) router = router.add strings order id config := by
  rw [addAccesses, DomainRouter.add, foldl_append, foldl_append, run_exactInserts]
  split <;> rfl

theorem run_removeAccesses {order} :
    (router.removeAccesses order id).foldl (fun router access => access.run router) router =
      router.remove order id := by
  rw [removeAccesses, DomainRouter.remove, foldl_cons]
  cases h : router.configs.lookup id with
  | none =>
    -- removing an absent key changes nothing
    show { router with configs := router.configs.erase id } = router
    rw [Dict.erase_of_lookup_eq_none h]
  | some entry =>
    dsimp only
    rw [foldl_append, run_exactRemoves]
    split <;> rfl

/-- An update that nobody interrupts is `DomainRouter.update`. -/
theorem run_updateAccesses {removeOrder addOrder} :
    (router.updateAccesses strings removeOrder addOrder id config).foldl
      (fun router access => access.run router) router =
      router.update strings removeOrder addOrder id config := by
  rw [updateAccesses, foldl_append, run_removeAccesses, run_addAccesses, update]

/-! ### A reader alone -/

section Reader

variable {shard : String → Nat} {domain : String}

/-- The steps of a reader that nobody interrupts, ending in `reader'`. -/
def ReadsTo (strings : Strings) (shard : String → Nat) (domain : String)
    (router : DomainRouter) (pending : List TableAccess) (reader reader' : Reader) : Prop :=
  ∃ schedule, Machine.Run (SharedRouter.Step strings shard domain)
    ⟨router, pending, reader⟩ schedule ⟨router, pending, reader'⟩

theorem ReadsTo.refl (router pending reader) :
    ReadsTo strings shard domain router pending reader reader :=
  ⟨[], .nil _⟩

variable {pending : List TableAccess}

theorem ReadsTo.step {reader reader' : Reader}
    (h : ReadsTo strings shard domain router pending (reader.step strings domain router) reader') :
    ReadsTo strings shard domain router pending reader reader' := by
  obtain ⟨schedule, hrun⟩ := h
  exact ⟨.reader :: schedule, .cons (.reader router pending reader) hrun⟩

/-- The scan tries the patterns in order and stops at the first that gives a
configuration. -/
theorem reader_scan {patterns} :
    ReadsTo strings shard domain router pending (.scan patterns)
      (.done (patterns.findSome? fun pattern =>
        if strings.wildMatch pattern.raw domain then
          (router.configs.lookup pattern.providerId).map fun entry =>
            (pattern.providerId, entry.config)
        else none)) := by
  induction patterns with
  | nil => exact .step (.refl _ _ _)
  | cons pattern rest ih =>
    apply ReadsTo.step
    rw [Reader.step, List.findSome?_cons]
    cases strings.wildMatch pattern.raw domain with
    | false => simpa using ih
    | true =>
      cases router.configs.lookup pattern.providerId with
      -- A pattern whose configuration is gone does not end the scan.
      | none => simpa using ih
      | some entry => simpa using ReadsTo.refl _ _ _

/-- A reader that nobody interrupts is `DomainRouter.resolve`. -/
theorem reader_alone {query} :
    ReadsTo strings shard (strings.toLowercase (normalizeHandshake query)) router pending
      .start (.done (router.resolve strings query)) := by
  set domain := strings.toLowercase (normalizeHandshake query) with hdom
  have hscan : ReadsTo strings shard domain router pending .wildcards
      (.done (router.matchWildcard strings domain)) :=
    .step (reader_scan)
  rw [resolve, ← hdom, matchExact]
  apply ReadsTo.step
  rw [Reader.step]
  cases hown : router.exactDomains.lookup domain with
  | none => exact hscan
  | some id =>
    apply ReadsTo.step
    rw [Reader.step]
    dsimp only
    cases hcfg : router.configs.lookup id with
    -- An owner without a configuration falls through to the patterns, as in `resolve`.
    | none => exact hscan
    | some entry => exact .refl _ _ _

end Reader

/-- An id without a configuration is not returned, whatever it owns. -/
theorem resolve_ne_of_absent (habs : router.configs.lookup id = none) {query} :
    router.resolve strings query ≠ some (id, config) := by
  intro hfound
  rw [resolve] at hfound
  split at hfound
  case h_1 found hexact =>
    cases hfound
    obtain ⟨entry, hent, -⟩ := (matchExact_eq_some.mp hexact).2
    rw [habs] at hent
    cases hent
  case h_2 =>
    obtain ⟨pattern, -, hsome⟩ := exists_of_findSome?_eq_some hfound
    split at hsome
    · obtain ⟨entry, hent, heq⟩ := Option.map_eq_some_iff.mp hsome
      cases heq
      rw [habs] at hent
      cases hent
    · cases hsome

/-! ### An update and a reader -/

/-- Every reader of the domain that finishes at some point of the update of `id` returns
the old configuration of `id` or the new one. -/
def UpdateUnseen (strings : Strings) (shard : String → Nat) (router : DomainRouter)
    (removeOrder addOrder : ConfigOrder) (id : ProviderId) (config : ServerConfig)
    (query : String) : Prop :=
  ∀ schedule s, Machine.Run
      (SharedRouter.Step strings shard (strings.toLowercase (normalizeHandshake query)))
      ⟨router, router.updateAccesses strings removeOrder addOrder id config, .start⟩ schedule s →
    ∀ result, s.reader = .done result →
      ∃ answer, result = some (id, answer) ∧ (router.Holds id answer ∨ answer = config)

/-- For every router and every update, a reader that makes all its accesses right after the
first access of the update returns nothing or the configuration of another id. It does not
matter which domains the configurations list and who owns them. -/
theorem update_seen_by_reader (shard : String → Nat) (router : DomainRouter)
    (removeOrder addOrder : ConfigOrder) (id : ProviderId) (config : ServerConfig)
    (query : String) :
    ¬UpdateUnseen strings shard router removeOrder addOrder id config query := by
  intro huns
  -- the first access has been made, and the reader runs to its end before the second
  set gap := (TableAccess.configsRemove id).run router with hgap
  have habs : gap.configs.lookup id = none := AList.lookup_erase id router.configs
  set pending := router.updateAccesses strings removeOrder addOrder id config with hpend
  have hfst : SharedRouter.Step strings shard
      (strings.toLowercase (normalizeHandshake query)) ⟨router, pending, .start⟩ .writer
      ⟨gap, pending.tail, .start⟩ := .writer rfl
  obtain ⟨schedule, hread⟩ := reader_alone
  obtain ⟨answer, hans, -⟩ := huns _ _ (.cons hfst hread) _ rfl
  exact resolve_ne_of_absent habs hans

/-- The backend address of `survival.toml` changes while a player connects to its domain,
which both versions of the file list and the file owns. The player's lookup comes between
the two halves of the update and finds nothing. -/
theorem resolve_fails_during_update :
    ∃ router schedule s,
      router = DomainRouter.new.add asciiStrings .entries (.file "survival.toml") survivalFile ∧
      router.exactDomains.lookup "mc.example.com" = some (.file "survival.toml") ∧
      survivalFile.Lists asciiStrings "mc.example.com" ∧
      (serverFile ["mc.example.com"] "10.0.1.20").Lists asciiStrings "mc.example.com" ∧
      Machine.Run (SharedRouter.Step asciiStrings (fun _ => 0) "mc.example.com")
        ⟨router, router.updateAccesses asciiStrings .entries .entries (.file "survival.toml")
          (serverFile ["mc.example.com"] "10.0.1.20"), .start⟩ schedule s ∧
      s.reader = .done none :=
  ⟨_, [.writer, .reader, .reader, .reader, .reader], _, rfl, by decide, ⟨by decide, by decide⟩,
    ⟨by decide, by decide⟩, .cons (.writer rfl) (.cons (.reader _ _ _) (.cons (.reader _ _ _)
      (.cons (.reader _ _ _) (.cons (.reader _ _ _) (.nil _))))), rfl⟩

end Infrarust
