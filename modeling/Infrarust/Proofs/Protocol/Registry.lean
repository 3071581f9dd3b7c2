import Infrarust.Protocol.Registry

/-!
# `Infrarust.Proofs.Protocol.Registry`: looking a packet up in the default registry

`register` fills tables version by version, so a lookup in the finished registry runs through
every insertion. `registries_register` reads the table of a state, a direction and a version off
the mappings that hold for the version instead (`tableOf`), of which the last registered one wins.
The default registry is `tableRegistry` (`buildDefaultRegistry_eq`), in which a concrete lookup
is evaluated.
-/

set_option autoImplicit false

namespace Infrarust

open PacketRegistration ProtocolVersion PacketRegistry PacketRegistration

namespace PacketRegistration

/-- The versions that `register` fills for a mapping, given the mappings behind it. -/
def versions (mapping : PacketMapping) (rest : List PacketMapping) : List ProtocolVersion :=
  match mapping.last, rest with
  | some last, _ => range mapping.first last
  | none, next :: _ => (range mapping.first next.first).filter (· ≠ next.first)
  | none, [] =>
    range mapping.first (SUPPORTED.getLast?.getD mapping.first)

/-- The mapping holds for a supported version, given the mappings behind it. -/
def covers (version : ProtocolVersion) (mapping : PacketMapping) (rest : List PacketMapping) :
    Bool :=
  decide (mapping.first.num ≤ version.num) &&
    match mapping.last, rest with
    | some last, _ => decide (version.num ≤ last.num)
    | none, next :: _ => decide (version.num < next.first.num)
    | none, [] =>
      decide (version.num ≤ (SUPPORTED.getLast?.getD mapping.first).num)

/-- The mappings that hold for a supported version, the last one first. -/
def covering (version : ProtocolVersion) : List PacketMapping → List PacketMapping
  | [] => []
  | mapping :: rest =>
    covering version rest ++ if covers version mapping rest then [mapping] else []

variable {version : ProtocolVersion} {mapping : PacketMapping} {rest : List PacketMapping}

theorem mem_versions_iff : version ∈ versions mapping rest ↔
    version ∈ SUPPORTED ∧ covers version mapping rest = true := by
  have hnum : ∀ other : ProtocolVersion, version ≠ other ↔ version.num ≠ other.num := by
    intro other
    cases version
    cases other
    simp
  unfold versions covers
  split
  · simp [range]
  · simp only [range, List.mem_filter, Bool.and_eq_true, decide_eq_true_eq, hnum,
      and_assoc, and_congr_right_iff]
    omega
  · simp [range]

theorem nodup_versions : (versions mapping rest).Nodup := by
  have hsup : SUPPORTED.Nodup := by decide
  unfold versions
  split
  · exact hsup.filter _
  · exact (hsup.filter _).filter _
  · exact hsup.filter _

end PacketRegistration

/-- A type that is registered with a mapping. -/
abbrev Registered := PacketType × PacketMapping

/-- Frames with the id are decoded as packets of the type. -/
def Registered.decodes (id : I32) (hit : Registered) : Bool :=
  decide (id = hit.2.id) && !hit.2.encodeOnly

/-- The table of the types that are registered for a state, a direction and a version. The first
one wins. -/
def tableOf (decode : PacketType → DecoderFn) : List Registered → Option VersionRegistry
  | [] => none
  | hits => some
    { idToDecoder := fun id => (hits.find? (·.decodes id)).map fun hit => decode hit.1
      typeToId := fun type => (hits.find? (type = ·.1)).map (·.2.id) }

namespace PacketRegistry

open PacketRegistration (versions covering)

variable {registry : PacketRegistry} {type : PacketType} {decode : PacketType → DecoderFn}
  {state state' : ConnectionState} {direction direction' : Direction} {version : ProtocolVersion}
  {hits : List Registered}

/-! ### One insertion -/

variable {mapping : PacketMapping}

theorem registries_insert (h : registry.registries state direction version = tableOf decode hits) :
    (registry.insert state' direction' version type mapping.id
        (if mapping.encodeOnly then none else some (decode type))).registries state direction version
      = tableOf decode (if state = state' ∧ direction = direction' then (type, mapping) :: hits
          else hits) := by
  unfold insert modifyEntry
  simp only [and_true, h]
  split
  · refine congrArg some ?_
    congr 1 <;> funext key
    · by_cases hid : key = mapping.id <;> cases henc : mapping.encodeOnly <;> cases hits <;>
        simp [tableOf, Registered.decodes, hid, henc]
    · by_cases htype : key = type <;> cases hits <;> simp [tableOf, htype]
  · rfl

/-- Of the insertions for several versions, one is for the version that is looked up. -/
theorem registries_foldl_insert {vs : List ProtocolVersion} (hvs : vs.Nodup) {id decoder} :
    (vs.foldl (fun r v => r.insert state' direction' v type id decoder) registry).registries state
        direction version
      = if version ∈ vs then
          (registry.insert state' direction' version type id decoder).registries state direction
            version
        else registry.registries state direction version := by
  induction vs generalizing registry with
  | nil => rfl
  | cons v vs ih =>
    obtain ⟨hv, hvs⟩ := List.nodup_cons.mp hvs
    rw [List.foldl_cons, ih hvs]
    by_cases hver : version = v
    · subst hver
      simp [hv]
    · simp [insert, modifyEntry, hver]

/-! ### A registration -/

theorem register_cons {decoder rest} :
    register type decoder state direction (mapping :: rest) registry
      = register type decoder state direction rest
        ((versions mapping rest).foldl (fun r version => r.insert state direction version type
          mapping.id (if mapping.encodeOnly then none else some decoder)) registry) := rfl

theorem registries_register {mappings}
    (h : registry.registries state direction version = tableOf decode hits) :
    (register type (decode type) state' direction' mappings registry).registries
        state direction version
      = tableOf decode ((if state = state' ∧ direction = direction' ∧
          version ∈ SUPPORTED then (covering version mappings).map (type, ·)
          else []) ++ hits) := by
  induction mappings generalizing registry hits with
  | nil => simpa [register, covering] using h
  | cons mapping rest ih =>
    rw [register_cons]
    by_cases hver : version ∈ versions mapping rest
    · rw [ih (by
        rw [registries_foldl_insert nodup_versions, if_pos hver]
        exact registries_insert h)]
      obtain ⟨hsup, hcov⟩ := mem_versions_iff.mp hver
      simp only [covering, hcov, hsup, if_true, and_true]
      split <;> simp
    · rw [ih (by
        rw [registries_foldl_insert nodup_versions, if_neg hver]
        exact h)]
      rw [mem_versions_iff, not_and, Bool.not_eq_true] at hver
      by_cases hsup : version ∈ SUPPORTED
      · simp [covering, hver hsup]
      · simp [hsup]

/-! ### The lookups in a table -/

theorem getPacketId_of_table (h : registry.registries state direction version = tableOf decode hits)
    (type) :
    registry.getPacketId type state direction version = (hits.find? (type = ·.1)).map (·.2.id) := by
  rw [getPacketId, h]
  cases hits <;> rfl

theorem decodeFrame_of_table (h : registry.registries state direction version = tableOf decode hits)
    (frame) :
    registry.decodeFrame frame state direction version
      = match hits.find? (·.decodes frame.id) with
        | some hit => (decode hit.1 frame.payload version).map (.typed frame.id)
        | none => .ok (.opaqueFrame frame.id frame.payload) := by
  have hdcr : (tableOf decode hits).bind (·.idToDecoder frame.id)
      = (hits.find? (·.decodes frame.id)).map fun hit => decode hit.1 := by
    cases hits <;> rfl
  rw [decodeFrame, h, hdcr]
  cases hits.find? (·.decodes frame.id) with
  | none => rfl
  | some hit =>
    simp only [Option.map_some]
    cases decode hit.1 frame.payload version <;> rfl

end PacketRegistry

/-! ### The default registry -/

/-- The types of the default registry, the last registered one first. -/
def registered (state : ConnectionState) (direction : Direction) (version : ProtocolVersion) :
    List Registered :=
  defaultEntries.reverse.flatMap fun entry =>
    if state = entry.state ∧ direction = entry.direction ∧
        version ∈ SUPPORTED then
      (covering version entry.mappings).map (entry.type, ·)
    else []

theorem mem_supported_of_mem_registered {state direction version hit} (h : hit ∈ registered state direction version) :
    version ∈ SUPPORTED := by
  obtain ⟨entry, -, hent⟩ := List.mem_flatMap.mp h
  split at hent
  case isTrue hkey => exact hkey.2.2
  case isFalse => cases hent

/-- The default registry, with lookups that are computed. -/
def tableRegistry (decoders : PacketDecoders) : PacketRegistry where
  registries state direction version :=
    tableOf decoders.decoder (registered state direction version)

variable {state : ConnectionState} {direction : Direction} {version : ProtocolVersion} {id : I32}
  {type : PacketType} {packet : Packet} {decoders : PacketDecoders} {frame : PacketFrame}

theorem registries_buildDefaultRegistry (decoders) :
    (buildDefaultRegistry decoders).registries state direction version
      = tableOf decoders.decoder (registered state direction version) := by
  unfold buildDefaultRegistry registered
  rw [← List.foldr_reverse]
  induction defaultEntries.reverse with
  | nil => rfl
  | cons entry entries ih => exact registries_register ih

theorem buildDefaultRegistry_eq (decoders) :
    buildDefaultRegistry decoders = tableRegistry decoders := by
  show (⟨(buildDefaultRegistry decoders).registries⟩ : PacketRegistry) = _
  exact congrArg PacketRegistry.mk (funext fun state => funext fun direction =>
    funext fun version => registries_buildDefaultRegistry decoders)

/-! ### The packets that a decoder returns -/

theorem PacketDecoders.decoder_type (decoders : PacketDecoders) {r}
    (h : decoders.decoder type r version = .ok packet) : packet.type = type := by
  unfold PacketDecoders.decoder at h
  split at h
  case h_1 =>
    split at h <;> cases h
    rfl
  case h_2 =>
    unfold CSetCompression.decode at h
    split at h <;> cases h
    rfl
  case h_3 =>
    split at h <;> cases h
    rfl
  case h_8 => exact decoders.type_eq h
  all_goals
    cases h
    rfl

/-- A packet is decoded by a registration of its type that has the id of the frame. -/
theorem decodeFrame_typed
    (h : (buildDefaultRegistry decoders).decodeFrame frame state direction version
      = .ok (.typed id packet)) :
    ∃ hit ∈ registered state direction version, hit.1 = packet.type ∧ frame.id = hit.2.id := by
  rw [decodeFrame_of_table (registries_buildDefaultRegistry decoders)] at h
  split at h
  case h_1 hit hfind =>
    cases hdecoded : decoders.decoder hit.1 frame.payload version <;> rw [hdecoded] at h <;> cases h
    have hdecodes := List.find?_some hfind
    exact ⟨hit, List.mem_of_find?_eq_some hfind, (decoders.decoder_type hdecoded).symm,
      of_decide_eq_true (Bool.and_eq_true_iff.mp hdecodes).1⟩
  case h_2 => cases h

/-- The packet that a type without fields is decoded as. -/
theorem decodeFrame_of_find
    (hfind : ((registered state direction version).find? (·.decodes frame.id)).map (·.1)
      = some type) (hdec : ∀ r, decoders.decoder type r version = .ok packet) :
    (buildDefaultRegistry decoders).decodeFrame frame state direction version
      = .ok (.typed frame.id packet) := by
  obtain ⟨hit, hhit, rfl⟩ := Option.map_eq_some_iff.mp hfind
  rw [decodeFrame_of_table (registries_buildDefaultRegistry decoders), hhit]
  simp only [hdec]
  rfl

/-! ### One packet type in an empty registry -/

namespace PacketRegistration

/-- The range of a mapping in the list contains the version. -/
inductive InRange (version : ProtocolVersion) : List PacketMapping → PacketMapping → Prop where
  | here {mapping rest}
      (h : covers version mapping rest = true) : InRange version (mapping :: rest) mapping
  | later {mapping other rest}
      (h : InRange version rest mapping) : InRange version (other :: rest) mapping

/-- Each mapping begins behind the one before it, and behind its explicit end. -/
def Ordered (mappings : List PacketMapping) : Prop :=
  mappings.IsChain fun mapping next => mapping.first.num < next.first.num ∧
    ∀ last, mapping.last = some last → last.num < next.first.num

variable {mapping found : PacketMapping} {rest mappings : List PacketMapping}

theorem InRange.first_le (h : Ordered (mapping :: rest))
    (hin : InRange version (mapping :: rest) found) : mapping.first.num ≤ version.num := by
  induction rest generalizing mapping with
  | nil =>
    cases hin with
    | here hcov => exact of_decide_eq_true (Bool.and_eq_true_iff.1 hcov).1
    | later hin => cases hin
  | cons next rest ih =>
    cases hin with
    | here hcov => exact of_decide_eq_true (Bool.and_eq_true_iff.1 hcov).1
    | later hin =>
      obtain ⟨hnext, hrest⟩ := List.isChain_cons_cons.1 h
      have hle := ih hrest hin
      omega

/-- A version in the range of the first mapping is in no other. -/
theorem not_inRange_of_covers (h : Ordered (mapping :: rest))
    (hcov : covers version mapping rest = true) : ¬InRange version rest found := by
  intro hin
  cases rest with
  | nil => cases hin
  | cons next rest =>
    obtain ⟨⟨-, hlast⟩, hrest⟩ := List.isChain_cons_cons.1 h
    have hle := hin.first_le hrest
    unfold covers at hcov
    cases hend : mapping.last with
    | none =>
      simp only [hend, Bool.and_eq_true, decide_eq_true_eq] at hcov
      omega
    | some last =>
      have hlt := hlast last hend
      simp only [hend, Bool.and_eq_true, decide_eq_true_eq] at hcov
      omega

theorem mem_covering_iff : found ∈ covering version mappings ↔ InRange version mappings found := by
  induction mappings with
  | nil => exact ⟨nofun, nofun⟩
  | cons mapping rest ih =>
    rw [covering, List.mem_append, ih]
    constructor
    · rintro (hlater | hhere)
      · exact .later hlater
      · split at hhere
        case isTrue hcov =>
          cases List.mem_singleton.mp hhere
          exact .here hcov
        case isFalse => cases hhere
    · rintro (hcov | hlater)
      · exact .inr (by simp [hcov])
      · exact .inl hlater

theorem covering_eq_nil (h : ∀ found, ¬InRange version mappings found) :
    covering version mappings = [] :=
  List.eq_nil_iff_forall_not_mem.mpr fun found hfound => h found (mem_covering_iff.mp hfound)

/-- One mapping holds for a version at most. -/
theorem covering_eq_of_inRange (h : Ordered mappings) (hin : InRange version mappings found) :
    covering version mappings = [found] := by
  induction hin with
  | here hcov =>
    rw [covering, covering_eq_nil fun found => not_inRange_of_covers h hcov, if_pos hcov]
    rfl
  | later hlater ih =>
    rw [covering, ih h.of_cons, if_neg fun hcov => not_inRange_of_covers h hcov hlater]
    rfl

end PacketRegistration

/-- A packet type that is registered in an empty registry, with mappings in order. For each
supported version the id is that of the one mapping whose range contains the version, frames with
that id are decoded unless the mapping is only for encoding, and all others stay opaque. -/
theorem register_ordered {mappings : List PacketMapping} (h : Ordered mappings)
    (hver : version ∈ SUPPORTED) (type : PacketType) (decode : DecoderFn)
    (state : ConnectionState) (direction : Direction) :
    let registry := register type decode state direction mappings PacketRegistry.new
    (∀ mapping, InRange version mappings mapping →
      (∀ other, InRange version mappings other → other = mapping) ∧
      registry.getPacketId type state direction version = some mapping.id ∧
      ∀ frame, registry.decodeFrame frame state direction version =
        if frame.id = mapping.id ∧ mapping.encodeOnly = false then
          (decode frame.payload version).map (.typed frame.id)
        else .ok (.opaqueFrame frame.id frame.payload)) ∧
    ((∀ mapping, ¬InRange version mappings mapping) →
      registry.getPacketId type state direction version = none ∧
      ∀ frame, registry.decodeFrame frame state direction version =
        .ok (.opaqueFrame frame.id frame.payload)) := by
  intro registry
  have htable : registry.registries state direction version = tableOf (fun _ => decode)
      ((covering version mappings).map (type, ·)) := by
    have hempty : PacketRegistry.new.registries state direction version
        = tableOf (fun _ => decode) [] := rfl
    simp [registry, registries_register hempty, hver]
  have hid := getPacketId_of_table htable type
  have hfr := decodeFrame_of_table htable
  constructor
  · intro mapping hin
    have hone := covering_eq_of_inRange h hin
    rw [hone] at hid hfr
    refine ⟨fun other hother => ?_, by simpa using hid, fun frame => ?_⟩
    · simpa [hone] using mem_covering_iff.mpr hother
    · rw [hfr]
      by_cases hdecodes : frame.id = mapping.id ∧ mapping.encodeOnly = false <;>
        simp [Registered.decodes, hdecodes]
  · intro hno
    rw [covering_eq_nil hno] at hid hfr
    exact ⟨hid, hfr⟩

theorem register_ordered_two :
    let mappings : List PacketMapping :=
      [{ id := 0x01#32, first := .V1_8, last := some .V1_9, encodeOnly := true },
        { id := 0x02#32, first := .V1_13, last := none, encodeOnly := false }]
    let registry := register .knownPacks (fun _ _ => .ok .knownPacks) .login
      .clientbound mappings .new
    registry.getPacketId .knownPacks .login .clientbound .V1_8 = some 0x01#32 ∧
      registry.getPacketId .knownPacks .login .clientbound .V1_21 = some 0x02#32 := by
  intro mappings registry
  have hordered : Ordered mappings := by
    simp [Ordered, mappings, V1_8, V1_9, V1_13]
  have hspec {version : ProtocolVersion} (hver : version ∈ SUPPORTED) :=
    register_ordered hordered hver .knownPacks (fun _ _ => .ok .knownPacks) .login .clientbound
  exact ⟨((hspec (by decide)).1 _ (.here (by decide))).2.1,
    ((hspec (by decide)).1 _ (.later (.here (by decide)))).2.1⟩

/-- Decoders that look at no field. -/
def bareDecoders : PacketDecoders where
  decode
    | .loginSuccess, _, _ => .ok .loginSuccess
    | .other name, _, _ => .ok (.other name)
    | _, _, _ => .error (.incomplete "VarInt")
  type_eq {type r version packet} h := by
    cases type <;> simp at h <;> subst h <;> rfl

end Infrarust
