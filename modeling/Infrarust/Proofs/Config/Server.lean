import Infrarust.Config.Server
import Infrarust.Lib.Check

/-!
# `Infrarust.Proofs.Config.Server`: what a configuration that passes its validation is like

`validateServerConfig` reports the first thing that it finds wrong. `ServerConfig.Valid` has all
of what it looks for, and `validateServerConfig_ok_iff` says that a configuration passes exactly
if it is valid. The id is only part of the messages, so a configuration that has passed can be
given one.
-/

set_option autoImplicit false

namespace Infrarust

open Check Bool

/-- What a name of a server and of a network look like. -/
structure IsIdentifier (value : String) : Prop where
  notEmpty : value.isEmpty = false
  short : Text.byteLen value.toList ≤ 64
  chars : ∀ c ∈ value.toList, (c.isLower || c.isDigit || c = '_' || c = '-') = true

/-- A configuration that the providers may hand on. -/
structure ServerConfig.Valid (config : ServerConfig) : Prop where
  /-- A forwarding mode needs a domain. -/
  hasDomain : config.proxyMode.isForwarding → config.domains.isEmpty = false
  /-- A forwarding mode cannot switch servers. -/
  noNetwork : config.proxyMode.isForwarding → config.network = none
  hasAddress : config.addresses.isEmpty = false
  domainsNotBlank : ∀ domain ∈ config.domains, (Text.trim domain).isEmpty = false
  nameOk : ∀ name, config.name = some name → IsIdentifier name
  networkOk : ∀ network, config.network = some network → IsIdentifier network

theorem validateIdentifier_ok_iff {value field serverId} :
    validateIdentifier value field serverId = .ok () ↔ IsIdentifier value := by
  rw [validateIdentifier, test_ok_iff, test_ok_iff, lastTest_ok_iff]
  constructor
  · rintro ⟨hempty, hshort, hchars⟩
    exact ⟨eq_false_iff.mpr hempty, Nat.le_of_not_lt hshort, List.all_eq_true.mp hchars⟩
  · rintro ⟨hempty, hshort, hchars⟩
    exact ⟨eq_false_iff.mp hempty, Nat.not_lt.mpr hshort, List.all_eq_true.mpr hchars⟩

/-- The checks of the two names. -/
theorem validateNames_ok_iff (name network : Option String) (serverId : String) :
    (do
      if let some name := name then
        validateIdentifier name "name" serverId
      if let some network := network then
        validateIdentifier network "network" serverId : Except ConfigError Unit) = .ok () ↔
      (∀ value, name = some value → IsIdentifier value) ∧
        ∀ value, network = some value → IsIdentifier value := by
  have hoptional : ∀ (option : Option String) (field : String), (match option with
        | some value => validateIdentifier value field serverId
        | _ => pure ()) = .ok () ↔ ∀ value, option = some value → IsIdentifier value := by
    intro option field
    cases option with
    | none => exact ⟨fun _ => nofun, fun _ => rfl⟩
    | some value => simp only [validateIdentifier_ok_iff, Option.some.injEq, forall_eq']
  cases name with
  | none =>
    rw [← hoptional network "network"]
    exact ⟨fun h => ⟨nofun, h⟩, And.right⟩
  | some value =>
    rw [← hoptional network "network", ← hoptional (some value) "name"]
    exact seq_ok_iff

theorem validateServerConfig_ok_iff (config) :
    validateServerConfig config = .ok () ↔ config.Valid := by
  have hnames := validateNames_ok_iff config.name config.network config.effectiveId
  rw [validateServerConfig]
  cases hmode : config.proxyMode.isForwarding with
  | true =>
    rw [if_pos rfl, test_ok_iff, test_ok_iff, test_ok_iff, seq_ok_iff,
      forIn_ok_iff, not_eq_true, Option.not_isSome_iff_eq_none, not_eq_true]
    constructor
    · rintro ⟨hdoms, hnetwork, haddrs, hblank, h⟩
      obtain ⟨hname, hnet⟩ := hnames.mp h
      exact ⟨fun _ => hdoms, fun _ => hnetwork, haddrs, hblank, hname, hnet⟩
    · rintro ⟨hdoms, hnetwork, haddrs, hblank, hname, hnet⟩
      exact ⟨hdoms hmode, hnetwork hmode, haddrs, hblank, hnames.mpr ⟨hname, hnet⟩⟩
  | false =>
    have hmode' : ¬config.proxyMode.isForwarding = true := eq_false_iff.mp hmode
    rw [if_neg (by decide), test_ok_iff, seq_ok_iff, forIn_ok_iff, not_eq_true]
    constructor
    · rintro ⟨haddrs, hblank, h⟩
      obtain ⟨hname, hnet⟩ := hnames.mp h
      exact ⟨fun h => absurd h hmode', fun h => absurd h hmode', haddrs, hblank, hname, hnet⟩
    · rintro ⟨-, -, haddrs, hblank, hname, hnet⟩
      exact ⟨haddrs, hblank, hnames.mpr ⟨hname, hnet⟩⟩

end Infrarust
