import Infrarust.Proofs.Core.CodecFilter

/-!
# `Infrarust.Proofs.Core.Limbo.RegistryCache`: whose frames does the cache have?

All sessions of a version add to one list, so the list that is finalized can be mixed from
several of them, and the frames of a session that was aborted stay in it (`captured_mixed`).

`captured_eq_sent` is about the runs in which one session captures a version. While the version is
open, every frame of a configuration phase comes from one and the same backend, up to its
`FinishConfig`. Then what is finalized is what this backend has sent. A frame that the proxy cannot
decode is forwarded and not collected, so every frame has to be decodable too. Sessions of other
versions, and those that come after the end, may do what they like.

The proof has three parts: the calls that an iteration of the loop makes for a frame, read off the
registry (`ReadsConfig`); what the calls do to the cache; and the invariant `Capture.Inv`, which says
for one version whose frames the cache has.
-/

set_option autoImplicit false

namespace Infrarust

open Hoare (Keeps final)
open ProxyLoop
open RegistryCodecCache Option Function Machine PacketRegistry Bool

/-! ### The packets of the configuration phase -/

variable {state : ConnectionState} {frames : List PacketFrame} {version : ProtocolVersion}

/-- `FinishConfig` is registered in the Config state and nowhere else. -/
theorem finishConfig_state (hst : state ≠ .config) {hit}
    (hhit : hit ∈ registered state .clientbound version) : hit.1 ≠ .finishConfig := by
  have hentries : ∀ entry ∈ defaultEntries.reverse, entry.type = .finishConfig →
      entry.state = .config := by decide
  obtain ⟨entry, hentry, hmapped⟩ := List.mem_flatMap.mp hhit
  split at hmapped
  case isFalse => cases hmapped
  case isTrue hkey =>
    obtain ⟨mapping, -, rfl⟩ := List.mem_map.mp hmapped
    intro htype
    exact hst (hkey.1.trans (hentries entry hentry htype))

/-- The ids of `FinishConfig` and `KnownPacks` are decoded as these packets, and no other id is.
None of the packets of the Login state is registered. -/
theorem config_ids : ∀ version ∈ ProtocolVersion.SUPPORTED,
    ∀ hit ∈ registered .config .clientbound version,
      (hit.1 ∈ [PacketType.finishConfig, .knownPacks] →
        ((registered .config .clientbound version).find? (·.decodes hit.2.id)).map (·.1)
          = some hit.1 ∧
        ((registered .config .clientbound version).find? (hit.1 = ·.1)).map (·.2.id)
          = some hit.2.id) ∧
      hit.1 ≠ .setCompression ∧ hit.1 ≠ .loginSuccess ∧ hit.1 ≠ .loginDisconnect ∧
      hit.1 ≠ .disconnect := by
  decide +kernel

section Packets

variable {decoders : PacketDecoders} {frame : PacketFrame}

/-- The registration that decodes a packet of these two. -/
theorem find_of_id {type} (htype : type ∈ [PacketType.finishConfig, .knownPacks])
    (hid : (buildDefaultRegistry decoders).getPacketId type .config .clientbound version
      = some frame.id) :
    ((registered .config .clientbound version).find? (·.decodes frame.id)).map (·.1)
      = some type := by
  rw [getPacketId_of_table (registries_buildDefaultRegistry decoders)] at hid
  obtain ⟨hit, hfind, hfr⟩ := map_eq_some_iff.mp hid
  have hhit := List.mem_of_find?_eq_some hfind
  have hhas := List.find?_some hfind
  obtain rfl := of_decide_eq_true hhas
  rw [← hfr]
  exact ((config_ids version (mem_supported_of_mem_registered hhit) hit hhit).1 htype).1

/-- A decoded packet of the configuration phase is the end of it or one to collect. -/
theorem packet_of_config {id packet}
    (h : (buildDefaultRegistry decoders).decodeFrame frame .config .clientbound version =
      .ok (.typed id packet)) :
    (packet = .finishConfig → isFinishConfig (buildDefaultRegistry decoders) version frame = true) ∧
      packet.type ≠ .setCompression ∧ packet.type ≠ .loginSuccess ∧
      packet.type ≠ .loginDisconnect ∧ packet.type ≠ .disconnect := by
  obtain ⟨hit, hhit, htype, hid⟩ := decodeFrame_typed h
  obtain ⟨hids, hother⟩ := config_ids version (mem_supported_of_mem_registered hhit) hit hhit
  rw [htype] at hids hother
  refine ⟨?_, hother⟩
  rintro rfl
  refine decide_eq_true ?_
  rw [getPacketId_of_table (registries_buildDefaultRegistry decoders), hid]
  exact (hids (by simp [Packet.type])).2

/-- A frame that the registry has no decoder for is no `KnownPacks`. -/
theorem not_knownPacks_of_undecoded {id payload}
    (h : (buildDefaultRegistry decoders).decodeFrame frame .config .clientbound version =
      .ok (.opaqueFrame id payload)) :
    isKnownPacks (buildDefaultRegistry decoders) version frame = false := by
  by_contra hknown
  have hid := of_decide_eq_true (eq_true_of_not_eq_false hknown)
  obtain ⟨hit, hfind, -⟩ := map_eq_some_iff.mp (find_of_id (by simp) hid)
  rw [decodeFrame_of_table (registries_buildDefaultRegistry decoders), hfind] at h
  dsimp only at h
  cases hdecoded : decoders.decoder hit.1 frame.payload version <;> rw [hdecoded] at h <;> cases h

end Packets

/-! ### The calls of an iteration -/

namespace ProxyLoop

variable {ι : Type} {calls : List RegistryCacheCall}

/-- What the calls on the cache say about the frames of the configuration phase. Outside of it the
cache is not used. `FinishConfig` ends it, and every other frame is collected or cannot be decoded. -/
structure ReadsConfig (registry : PacketRegistry) : Prop where
  outside : ∀ {version state frame}, state ≠ .config → loginCalls registry version state frame = []
  apart : ∀ {version frame}, isFinishConfig registry version frame = true →
    isKnownPacks registry version frame = false
  finish : ∀ {version frame}, isFinishConfig registry version frame = true →
    loginCalls registry version .config frame = [.finalize]
  other : ∀ {version frame}, isFinishConfig registry version frame = false →
    loginCalls registry version .config frame =
        (if isKnownPacks registry version frame then [.collectKnownPacksFrame frame]
          else [.collectRegistryFrame frame]) ∨
      (loginCalls registry version .config frame = [] ∧
        ∃ e, registry.decodeFrame frame .config .clientbound version = .error e)

theorem readsConfig_buildDefaultRegistry {decoders} :
    ReadsConfig (buildDefaultRegistry decoders) where
  outside {version state frame} hst := by
    have hfinish : ∀ id, (buildDefaultRegistry decoders).decodeFrame frame state .clientbound
        version ≠ .ok (.typed id .finishConfig) := by
      intro id h
      obtain ⟨hit, hhit, htype, -⟩ := decodeFrame_typed h
      exact finishConfig_state hst hhit htype
    -- the tables of the registry play no part any more
    generalize buildDefaultRegistry decoders = registry at hfinish ⊢
    cases hdec : registry.decodeFrame frame state .clientbound version with
    | error e => rw [loginCalls, hdec]
    | ok decoded =>
      rw [loginCalls, hdec]
      cases decoded with
      | opaqueFrame id payload => exact if_neg hst
      | typed id packet =>
        cases packet with
        | finishConfig => exact absurd hdec (hfinish id)
        | setCompression | loginSuccess | loginDisconnect | disconnect => rfl
        | _ => exact if_neg hst
  apart h := by
    by_contra hknown
    have hid := of_decide_eq_true h
    have hid' := of_decide_eq_true (eq_true_of_not_eq_false hknown)
    cases (find_of_id (by simp) hid).symm.trans (find_of_id (by simp) hid')
  finish h := by
    rw [loginCalls, decodeFrame_of_find (find_of_id (by simp) (of_decide_eq_true h)) fun _ => rfl]
  other {version frame} h := by
    have hpkt := @packet_of_config version decoders frame
    have hopaque := @not_knownPacks_of_undecoded version decoders frame
    generalize buildDefaultRegistry decoders = registry at h hpkt hopaque ⊢
    cases hdec : registry.decodeFrame frame .config .clientbound version with
    | error e => exact .inr ⟨by rw [loginCalls, hdec], e, rfl⟩
    | ok decoded =>
      refine .inl ?_
      cases decoded with
      | opaqueFrame id payload =>
        rw [loginCalls, hdec, hopaque hdec]
        rfl
      | typed id packet =>
        obtain ⟨hfinish, hcompression, hsuccess, hrefused, hdisc⟩ := hpkt hdec
        rw [loginCalls, hdec]
        cases packet with
        | finishConfig => exact absurd (hfinish rfl) (eq_false_iff.mp h)
        | setCompression => exact absurd rfl hcompression
        | loginSuccess => exact absurd rfl hsuccess
        | loginDisconnect => exact absurd rfl hrefused
        | disconnect => exact absurd rfl hdisc
        | _ => rfl

variable (registry : PacketRegistry)

/-- The calls on the cache in one iteration. -/
def iterationCalls (s : Session ι) : LoopEvent → List RegistryCacheCall
  | .backend (.ok (some frame)) _ =>
    if s.backend.state = .play then []
    else loginCalls registry s.client.protocolVersion s.backend.state frame
  | _ => []

/-- The version of the client, and the calls up to now. -/
def CallsAre (version : ProtocolVersion) (calls : List RegistryCacheCall) (s : Session ι) : Prop :=
  s.client.protocolVersion = version ∧ s.cacheCalls = calls

theorem callsAre_clientWrite (frame) :
    Keeps (CallsAre version calls) (clientWrite frame : LoopM ι Unit) := by
  intro s hs
  rw [final_clientWrite]
  exact ⟨(s.client.writeFrame_spec frame).2.1.trans hs.1, hs.2⟩

theorem callsAre_backendWrite (frame) :
    Keeps (CallsAre version calls) (backendWrite frame : LoopM ι Unit) := by
  intro s hs
  rwa [final_backendWrite]

theorem callsAre_setStates (state) :
    Keeps (CallsAre version calls) (setStates state : LoopM ι Unit) :=
  Keeps.modify fun _ hs => hs

theorem callsAre_modifyChain (side) (f : CodecFilterChain ι → CodecFilterChain ι) :
    Keeps (CallsAre version calls) (modifyChain side f) :=
  Keeps.modify fun _ hs => by cases side <;> exact hs

variable {α : Type} {s : Session ι}

/-- A part without calls. -/
theorem callsAre_of_keeps {m : LoopM ι α} (hm : Keeps (CallsAre version calls) m)
    (hs : CallsAre version calls s) :
    CallsAre version (calls ++ []) (final m s) := by
  rw [List.append_nil]
  exact hm s hs

variable [CodecFilterInstance ι]

/-- A backend frame outside of the Play state. -/
theorem callsAre_handleBackendLogin (state frame) (hs : CallsAre version calls s) :
    CallsAre version (calls ++ loginCalls registry version state frame)
      (final (handleBackendLogin registry version state frame) s) := by
  have hreply := loginReply (ι := ι) registry version state frame
  generalize loginCalls registry version state frame = loginCalls,
    handleBackendLogin (ι := ι) registry version state frame = m at hreply ⊢
  cases hreply with
  | forward action =>
    exact callsAre_of_keeps ((callsAre_clientWrite frame).bind fun _ => Keeps.pure action) hs
  | collect call =>
    exact (callsAre_clientWrite frame).bind (fun _ => Keeps.pure _)
      { s with cacheCalls := s.cacheCalls ++ [call] } ⟨hs.1, by rw [hs.2]⟩
  | compression =>
    refine callsAre_of_keeps ?_ hs
    exact Keeps.bind (Keeps.modify fun _ h => h) fun _ =>
      Keeps.bind (Keeps.modify fun _ h => h) fun _ => (callsAre_clientWrite frame).bind fun _ =>
        (callsAre_modifyChain _ _).bind fun _ => Keeps.pure _
  | success =>
    refine callsAre_of_keeps ?_ hs
    exact (callsAre_clientWrite frame).bind fun _ => (callsAre_setStates _).bind fun _ =>
      (callsAre_modifyChain _ _).bind fun _ => Keeps.pure _

theorem playStable_callsAre : PlayStable (CallsAre version calls : Session ι → Prop) where
  clientWrite := callsAre_clientWrite
  backendWrite := callsAre_backendWrite
  serviceCall _ := Keeps.modify fun _ hs => hs
  filtered _ side _ hs := by cases side <;> exact hs

/-- An iteration keeps the version and makes its calls. -/
theorem callsAre_proxyStep (s : Session ι) (event) :
    CallsAre s.client.protocolVersion (s.cacheCalls ++ iterationCalls registry s event)
      (proxyStep registry s event).1 := by
  have hs : CallsAre s.client.protocolVersion s.cacheCalls s := ⟨rfl, rfl⟩
  have hsame : CallsAre s.client.protocolVersion (s.cacheCalls ++ []) s :=
    ⟨rfl, (List.append_nil _).symm⟩
  cases event with
  | client read services =>
    rcases read with e | _ | frame
    · exact hsame
    · exact hsame
    · rw [proxyStep_client_fst]
      show CallsAre _ (s.cacheCalls ++ []) (final (if s.client.state = .play then _ else _) s)
      split
      · exact callsAre_of_keeps (playStable_callsAre.handleClientPlay registry services _ frame) hs
      · exact callsAre_of_keeps (keeps_handleClientLogin (callsAre_backendWrite frame)
          callsAre_setStates callsAre_modifyChain _ _ _) hs
  | backend read services =>
    rcases read with e | _ | frame
    · exact hsame
    · exact hsame
    · rw [proxyStep_backend_fst, iterationCalls]
      show CallsAre _ (s.cacheCalls ++ if s.backend.state = .play then [] else _)
        (final (if s.backend.state = .play then _ else _) s)
      split
      · exact callsAre_of_keeps (playStable_callsAre.handleBackendPlay registry services _ frame) hs
      · exact callsAre_handleBackendLogin registry s.backend.state frame hs
  | command cmd =>
    rw [proxyStep_command_fst]
    exact callsAre_of_keeps (keeps_handlePlayerCommand fun frame _ => callsAre_clientWrite frame) hs
  | shutdown => exact hsame

end ProxyLoop

/-! ### What the calls do to the cache -/

namespace RegistryCodecCache

/-- What a call of a session does to the frames of its version. -/
def callEntry (entry : Option CapturedFrames) : RegistryCacheCall → Option CapturedFrames
  | .collectKnownPacksFrame frame =>
    let entry := entry.getD .new
    some (if entry.finalized then entry else { entry with knownPacksFrame := some frame })
  | .collectRegistryFrame frame =>
    let entry := entry.getD .new
    some (if entry.finalized then entry
      else { entry with registryFrames := entry.registryFrames ++ [frame] })
  | .finalize => entry.map fun entry => { entry with finalized := true }

/-- A call is about the version of its session. -/
theorem call_lookup {cache : RegistryCodecCache} {call version'} :
    (cache.call version call).captured.lookup version' =
      if version' = version then callEntry (cache.captured.lookup version) call
      else cache.captured.lookup version' := by
  cases call with
  | collectKnownPacksFrame frame | collectRegistryFrame frame => exact Dict.lookup_insert_eq _ _ _ _
  | finalize =>
    show (cache.finalize version).captured.lookup version' = _
    rw [finalize]
    cases hent : cache.captured.lookup version with
    | some entry => exact Dict.lookup_insert_eq _ _ _ _
    | none =>
      by_cases hver : version' = version
      · rw [if_pos hver, hver]
        exact hent
      · exact (if_neg hver).symm

theorem calls_lookup (calls : List RegistryCacheCall) (cache version') :
    (calls.foldl (call version) cache).captured.lookup version' =
      if version' = version then calls.foldl callEntry (cache.captured.lookup version)
      else cache.captured.lookup version' := by
  induction calls generalizing cache with
  | nil =>
    split
    case isTrue hver => rw [hver]; rfl
    case isFalse => rfl
  | cons first rest ih =>
    rw [List.foldl_cons, ih, call_lookup, call_lookup, if_pos rfl]
    split <;> rfl

/-- What is finalized stays as it is. -/
theorem foldl_callEntry_of_finalized {calls : List RegistryCacheCall} {packs} :
    calls.foldl callEntry (some ⟨frames, packs, true⟩) = some ⟨frames, packs, true⟩ := by
  induction calls with
  | nil => rfl
  | cons first rest ih => cases first <;> exact ih

end RegistryCodecCache

/-! ### One capture at a time -/

/-- What there is about one version: its frames in the cache, what the backend of each loop has
sent and whether it has finished, and the loop that was the first to add a frame. -/
structure Capture where
  entry : Option CapturedFrames
  sent : Nat → Option (Bool × List PacketFrame)
  collector : Option Nat

/-- If the version is finalized, there is a loop whose frames it has. If not, the frames are those of
the loop that collects, or there are none. -/
inductive Capture.Inv : Capture → Prop where
  | captured {frames packs sent collector id} : sent id = some (true, frames) →
    Inv ⟨some ⟨frames, packs, true⟩, sent, collector⟩
  | untouched {entry sent} :
    (∀ e, entry = some e → e.registryFrames = [] ∧ e.finalized = false) →
    (∀ id finished frames, sent id = some (finished, frames) → frames = []) →
    Inv ⟨entry, sent, none⟩
  | collecting {frames packs sent id} : sent id = some (false, frames) →
    Inv ⟨some ⟨frames, packs, false⟩, sent, some id⟩

namespace Capture

variable {c : Capture} {entry : Option CapturedFrames} {frames : List PacketFrame} {id : Nat}
  {sent : Nat → Option (Bool × List PacketFrame)} {collector : Option Nat} {finished : Bool}

variable {new : Option (Bool × List PacketFrame)}

/-- What a loop that has no frames sends does not matter. -/
theorem sent_update (hsent : ∀ id finished frames, sent id = some (finished, frames) → frames = [])
    (hnew : ∀ finished frames, new = some (finished, frames) → frames = []) :
    ∀ id' finished frames, Function.update sent id new id' = some (finished, frames) →
      frames = [] := by
  intro id' finished frames h
  rw [update_apply] at h
  split at h
  · exact hnew finished frames h
  · exact hsent id' finished frames h

section

variable (h : Inv ⟨entry, sent, collector⟩)

include h

/-- A loop begins, or is one of another version. -/
theorem Inv.start (hfresh : sent id = none)
    (hnew : ∀ finished frames, new = some (finished, frames) → frames = []) :
    Inv ⟨entry, Function.update sent id new, collector⟩ := by
  have hkept : ∀ id' value, sent id' = some value →
      Function.update sent id new id' = some value := by
    intro id' value hval
    rw [update_of_ne, hval]
    rintro rfl
    cases hfresh.symm.trans hval
  cases h with
  | captured hsent => exact .captured (hkept _ _ hsent)
  | untouched hent hsent => exact .untouched hent (sent_update hsent hnew)
  | collecting hsent => exact .collecting (hkept _ _ hsent)

/-- After the end nothing is added to the frames, and nothing is added to the history of a loop whose
phase is over. -/
theorem Inv.of_finalized (hfinal : entry.any (·.finalized) = true) (calls : List RegistryCacheCall)
    {collector' new}
    (hnew : ∀ frames, sent id = some (true, frames) → new = (true, frames)) :
    Inv ⟨calls.foldl callEntry entry, Function.update sent id (some new), collector'⟩ := by
  cases h with
  | @captured frames packs _ _ id' hsent =>
    rw [foldl_callEntry_of_finalized]
    refine @Inv.captured _ _ _ _ id' ?_
    rw [update_apply]
    split
    case isTrue hid => rw [hnew frames (hid ▸ hsent)]
    case isFalse => exact hsent
  | untouched hent =>
    obtain ⟨e, rfl, he⟩ := (any_eq_true _ _).mp hfinal
    rw [(hent e rfl).2] at he
    cases he
  | collecting => cases hfinal

/-- A `KnownPacks` is kept apart. -/
theorem Inv.knownPacks (frame) :
    Inv ⟨callEntry entry (.collectKnownPacksFrame frame), sent, collector⟩ := by
  cases h with
  | captured hsent => exact .captured hsent
  | untouched hent hsent =>
    refine .untouched (fun e he => ?_) hsent
    cases he
    cases entry with
    | none => exact ⟨rfl, rfl⟩
    | some old =>
      obtain ⟨hframes, hopen⟩ := hent old rfl
      simp [hframes, hopen]
  | collecting hsent => exact .collecting hsent

/-- The loop adds a frame, and no other one has. -/
theorem Inv.collect
    (hopen : entry.any (·.finalized) = false) (hsent : sent id = some (finished, frames))
    (honly : ∀ other ∈ collector, other = id) (frame) :
    Inv ⟨callEntry entry (.collectRegistryFrame frame),
      Function.update sent id (some (false, frames ++ [frame])), some id⟩ := by
  cases h with
  | captured => cases hopen
  | untouched hent hall =>
    cases hall id finished frames hsent
    cases entry with
    | none => exact .collecting (update_self ..)
    | some old =>
      obtain ⟨oldFrames, packs, final⟩ := old
      obtain ⟨rfl, rfl⟩ := hent _ rfl
      exact .collecting (update_self ..)
  | collecting hold =>
    obtain rfl := honly _ rfl
    cases hold.symm.trans hsent
    exact .collecting (update_self ..)

/-- The loop ends its phase. -/
theorem Inv.finalize
    (hopen : entry.any (·.finalized) = false) (hsent : sent id = some (finished, frames))
    (honly : ∀ other ∈ collector, other = id) :
    Inv ⟨callEntry entry .finalize, Function.update sent id (some (true, frames)), collector⟩ := by
  cases h with
  | captured => cases hopen
  | untouched hent hall =>
    cases hall id finished frames hsent
    cases entry with
    | none =>
      -- without any frame there is nothing to finalize
      refine .untouched nofun (sent_update hall fun _ _ h => ?_)
      cases h
      rfl
    | some old =>
      obtain ⟨oldFrames, packs, final⟩ := old
      obtain ⟨rfl, rfl⟩ := hent _ rfl
      exact .captured (update_self ..)
  | collecting hold =>
    obtain rfl := honly _ rfl
    cases hold.symm.trans hsent
    exact .captured (update_self ..)

end

end Capture

namespace CaptureSystem

variable {ι : Type}

/-- What the backend of a loop has sent, if the loop is one of the version. -/
def sentBy (version : ProtocolVersion) (link : CaptureLink ι) : Option (Bool × List PacketFrame) :=
  if link.version = version then some (link.finished, link.configFrames) else none

/-- What there is about one version. -/
def capture (s : CaptureSystem ι) (version : ProtocolVersion) : Capture where
  entry := s.cache.captured.lookup version
  sent id := (s.links.lookup id).bind (sentBy version)
  collector := s.collector.lookup version

variable {link : CaptureLink ι} {registry : PacketRegistry}

/-- A step that changes one loop. -/
theorem capture_eq {s s' : CaptureSystem ι} {version id entry collector}
    (hent : s'.cache.captured.lookup version = entry) (hlinks : s'.links = s.links.insert id link)
    (hcoll : s'.collector.lookup version = collector) :
    s'.capture version =
      ⟨entry, Function.update (s.capture version).sent id (sentBy version link), collector⟩ := by
  rw [capture, hent, hcoll, hlinks]
  congr 1
  funext id'
  rw [Dict.lookup_insert_eq, update_apply]
  split <;> rfl

theorem sent_of_lookup {s : CaptureSystem ι} {id} (h : s.links.lookup id = some link) (version) :
    (s.capture version).sent id = sentBy version link := by
  show (s.links.lookup id).bind (sentBy version) = _
  rw [h, bind_some]

/-- The calls of an iteration are about a frame of the configuration phase. -/
theorem calls_of_configFrame (hreads : ProxyLoop.ReadsConfig registry) {event} :
    iterationCalls registry link.session event =
      match link.configFrame event with
      | some frame => loginCalls registry link.version .config frame
      | none => [] := by
  cases event with
  | client read services | command cmd | shutdown => rfl
  | backend read services =>
    rcases read with e | _ | frame
    · rfl
    · rfl
    · rw [iterationCalls, CaptureLink.configFrame]
      by_cases hst : link.session.backend.state = .config
      · rw [if_pos hst, hst, if_neg (by decide)]
        rfl
      · rw [if_neg hst, hreads.outside hst, ite_self]

variable [CodecFilterInstance ι]

/-- When a frame of the configuration phase other than `KnownPacks` arrives for a version that is
not finalized, no other loop has added a frame for the version, the frame can be decoded, and the
phase of its backend is not over. -/
def Exclusive (registry : PacketRegistry) (s : CaptureSystem ι) : CaptureLabel ι → Prop
  | .start _ _ => True
  | .iterate id event =>
    ∀ link ∈ s.links.lookup id, ∀ frame ∈ link.configFrame event,
      isKnownPacks registry link.version frame = false →
      s.cache.hasCaptured link.version = false →
        link.finished = false ∧ (∀ other ∈ s.collector.lookup link.version, other = id) ∧
          (registry.decodeFrame frame .config .clientbound link.version).isOk = true

instance (registry : PacketRegistry) (s : CaptureSystem ι) (label : CaptureLabel ι) :
    Decidable (s.Exclusive registry label) := by
  unfold Exclusive
  cases label <;> infer_instance

/-- The steps in which one session captures a version from its first frame to its end. -/
def ExclusiveStep (registry : PacketRegistry) (s : CaptureSystem ι) (label : CaptureLabel ι)
    (s' : CaptureSystem ι) : Prop :=
  s.Exclusive registry label ∧ Step registry s label s'

/-- An iteration, with the calls that it makes. -/
theorem iterate_spec (registry) (s : CaptureSystem ι) (id) (link : CaptureLink ι) (event) :
    ∃ link' : CaptureLink ι, link'.version = link.version ∧
      link'.finished = (link.observeEvent registry event).finished ∧
      link'.configFrames = (link.observeEvent registry event).configFrames ∧
      s.iterate registry id link event =
        { s.applyCalls link.version id (iterationCalls registry link.session event) with
          links := s.links.insert id link' } := by
  obtain ⟨hver, hcalls⟩ := callsAre_proxyStep registry link.session event
  have hdrop : (proxyStep registry link.session event).1.cacheCalls.drop
      link.session.cacheCalls.length = iterationCalls registry link.session event := by
    rw [hcalls, List.drop_left]
  refine ⟨{ link.observeEvent registry event with
    session := (proxyStep registry link.session event).1
    ended := (proxyStep registry link.session event).2.isSome }, hver, rfl, rfl, ?_⟩
  rw [iterate, ← hdrop]

section Step

variable {s s' : CaptureSystem ι} {id : Nat} {event : ProxyLoop.LoopEvent}

/-- An iteration of a loop, for the other versions. -/
theorem capture_iterate_of_ne (hget : s.links.lookup id = some link)
    (hne : version ≠ link.version) (registry event) :
    (s.iterate registry id link event).capture version = s.capture version := by
  obtain ⟨link', hver, -, -, hnext⟩ := iterate_spec registry s id link event
  have hlink : sentBy version link' = (s.capture version).sent id := by
    rw [sent_of_lookup hget, sentBy, if_neg (hver ▸ Ne.symm hne), sentBy, if_neg (Ne.symm hne)]
  have hcoll : (s.iterate registry id link event).collector.lookup version =
      s.collector.lookup version := by
    rw [hnext]
    dsimp only [applyCalls]
    split
    · rw [Dict.lookup_insert_eq, if_neg hne]
    · rfl
  have hent : (s.iterate registry id link event).cache.captured.lookup version =
      s.cache.captured.lookup version := by
    exact (calls_lookup _ _ _).trans (if_neg hne)
  rw [capture_eq hent (congrArg links hnext) hcoll, hlink, update_eq_self]
  rfl

/-- An iteration of a loop, for its own version. -/
theorem capture_iterate (hreads : ProxyLoop.ReadsConfig registry) (s : CaptureSystem ι) (id)
    (link : CaptureLink ι) (event) :
    ∃ calls, calls = (match link.configFrame event with
        | some frame => loginCalls registry link.version .config frame
        | none => []) ∧
      (s.iterate registry id link event).capture link.version =
        ⟨calls.foldl callEntry (s.capture link.version).entry,
          Function.update (s.capture link.version).sent id
            (some ((link.observeEvent registry event).finished,
              (link.observeEvent registry event).configFrames)),
          if collects calls && (s.capture link.version).collector.isNone then some id
          else (s.capture link.version).collector⟩ := by
  obtain ⟨link', hver, hfin, hcfg, hnext⟩ := iterate_spec registry s id link event
  refine ⟨_, rfl, ?_⟩
  have hcoll : (s.iterate registry id link event).collector.lookup link.version =
      if collects (iterationCalls registry link.session event) &&
        (s.capture link.version).collector.isNone then some id
      else (s.capture link.version).collector := by
    rw [hnext]
    dsimp only [applyCalls]
    split
    case isTrue hfst => rw [Dict.lookup_insert_eq, if_pos rfl, if_pos]; exact hfst
    case isFalse hfst => rw [if_neg]; exacts [rfl, hfst]
  have hent : (s.iterate registry id link event).cache.captured.lookup link.version =
      (iterationCalls registry link.session event).foldl callEntry
        (s.capture link.version).entry := by
    rw [hnext]
    exact (calls_lookup _ _ _).trans (if_pos rfl)
  rw [← calls_of_configFrame hreads, capture_eq hent (congrArg links hnext) hcoll, sentBy,
    if_pos hver, hfin, hcfg]

theorem inv_iterate (hreads : ProxyLoop.ReadsConfig registry)
    (h : (s.capture link.version).Inv) (hget : s.links.lookup id = some link)
    (halone : s.Exclusive registry (.iterate id event)) :
    ((s.iterate registry id link event).capture link.version).Inv := by
  obtain ⟨calls, hcalls, hnext⟩ := capture_iterate hreads s id link event
  have hsent : (s.capture link.version).sent id = some (link.finished, link.configFrames) :=
    (sent_of_lookup hget _).trans (if_pos rfl)
  have hunchanged : Function.update (s.capture link.version).sent id
      (some (link.finished, link.configFrames)) = (s.capture link.version).sent :=
    update_eq_self_iff.mpr hsent.symm
  rw [hnext]
  unfold CaptureLink.observeEvent
  cases hfr : link.configFrame event with
  | none =>
    rw [hfr] at hcalls
    subst hcalls
    rw [hunchanged]
    exact h
  | some frame =>
    rw [hfr] at hcalls
    dsimp only at hcalls ⊢
    cases hcaptured : s.cache.hasCaptured link.version with
    | true =>
      refine h.of_finalized hcaptured calls fun frames hfin => ?_
      obtain ⟨hover, rfl⟩ := Prod.mk.inj (Option.some.inj (hsent.symm.trans hfin))
      rw [CaptureLink.observe, if_pos hover, hover]
    | false =>
      cases hfinish : isFinishConfig registry link.version frame with
      | true =>
        obtain ⟨hopen, honly, -⟩ := halone link hget frame hfr (hreads.apart hfinish) hcaptured
        rw [CaptureLink.observe, if_neg (eq_false_iff.mp hopen), if_pos hfinish]
        rw [hreads.finish hfinish] at hcalls
        subst hcalls
        exact h.finalize hcaptured hsent honly
      | false =>
        cases hknown : isKnownPacks registry link.version frame with
        | true =>
          -- it is not part of the history
          rw [show link.observe registry frame = link by
            rw [CaptureLink.observe, hfinish, hknown]; exact ite_self link, hunchanged]
          rcases hreads.other hfinish with hother | ⟨hother, -⟩
          · rw [hother, hknown, if_pos rfl] at hcalls
            subst hcalls
            exact h.knownPacks frame
          · rw [hother] at hcalls
            subst hcalls
            exact h
        | false =>
          obtain ⟨hopen, honly, hok⟩ := halone link hget frame hfr hknown hcaptured
          rw [CaptureLink.observe, if_neg (eq_false_iff.mp hopen),
            if_neg (eq_false_iff.mp hfinish), if_neg (eq_false_iff.mp hknown)]
          rcases hreads.other hfinish with hother | ⟨-, e, herr⟩
          · rw [hother, hknown, if_neg (by decide)] at hcalls
            subst hcalls
            have hcoll : (if true && (s.capture link.version).collector.isNone then some id
                else (s.capture link.version).collector) = some id := by
              cases hcoll : (s.capture link.version).collector with
              | none => rfl
              | some other => exact congrArg some (honly other hcoll)
            have hinv := h.collect hcaptured hsent honly frame
            rw [← hcoll] at hinv
            rw [hopen]
            exact hinv
          · rw [herr] at hok
            cases hok

theorem inv_step (hreads : ProxyLoop.ReadsConfig registry) {label}
    (hstep : ExclusiveStep registry s label s')
    (h : ∀ version, (s.capture version).Inv) (version) :
    (s'.capture version).Inv := by
  obtain ⟨halone, hstep⟩ := hstep
  cases label with
  | start id session =>
    rw [Step, next] at hstep
    split at hstep
    case isTrue => cases hstep
    case isFalse hfresh =>
      cases hstep
      rw [capture_eq (s := s) rfl rfl rfl]
      refine (h version).start ?_ fun finished frames hnew => ?_
      · rw [not_isSome_iff_eq_none.mp hfresh, bind_none]
      · rw [sentBy] at hnew
        split at hnew <;> cases hnew
        rfl
  | iterate id event =>
    rw [Step, next] at hstep
    split at hstep
    case h_1 => cases hstep
    case h_2 link hget =>
      split at hstep <;> cases hstep
      by_cases hver : version = link.version
      · rw [hver]
        exact inv_iterate hreads (h link.version) hget halone
      · rw [capture_iterate_of_ne hget hver]
        exact h version

end Step

/-- If one session captures a version from its first frame to its end, the finalized frames are
those that the backend of one session has sent before its `FinishConfig`. -/
theorem captured_eq_sent {decoders : PacketDecoders} {labels : List (CaptureLabel ι)}
    {s : CaptureSystem ι}
    (hrun : Run (ExclusiveStep (buildDefaultRegistry decoders)) init labels s)
    {version : ProtocolVersion} {entry : CapturedFrames}
    (hent : s.cache.captured.lookup version = some entry) (hfinal : entry.finalized = true) :
    ∃ id link, s.links.lookup id = some link ∧ link.version = version ∧ link.finished = true ∧
      entry.registryFrames = link.configFrames := by
  have hinv : ∀ version, (s.capture version).Inv :=
    hrun.invariant (fun _ _ _ hstep h => inv_step (readsConfig_buildDefaultRegistry) hstep h)
      fun _ => .untouched nofun nofun
  have hcapture := hinv version
  rw [capture, hent] at hcapture
  generalize s.collector.lookup version = collector at hcapture
  cases hcapture with
  | @captured frames packs _ _ id hsent =>
    obtain ⟨link, hlink, hsent⟩ := bind_eq_some_iff.mp hsent
    rw [sentBy] at hsent
    split at hsent
    case isTrue hver =>
      obtain ⟨hfin, hframes⟩ := Prod.mk.inj (Option.some.inj hsent)
      exact ⟨id, link, hlink, hver, hfin, hframes.symm⟩
    case isFalse => cases hsent
  | untouched hopen =>
    rw [(hopen entry rfl).2] at hfinal
    cases hfinal
  | collecting => cases hfinal

/-! ### Two sessions at once, an aborted one, and one alone -/

/-- A 1.21 session at the beginning of the configuration phase. -/
def configSession : Session Empty :=
  { loginSession with
    client := { loginSession.client with state := .config }
    backend := { loginSession.backend with state := .config } }

/-- The backend of a session sends a frame. -/
def sends (id : Nat) (frame : PacketFrame) : CaptureLabel Empty :=
  .iterate id (.backend (.ok (some frame)) idleServices)

/-- A `CRegistryData`. -/
def registryData (payload : Bytes) : PacketFrame := ⟨0x07#32, payload⟩

/-- A `CFinishConfig`. -/
def finishFrame : PacketFrame := ⟨0x03#32, []⟩

/-- Two sessions are in the configuration phase at the same time. -/
def twoAtOnce : List (CaptureLabel Empty) :=
  [.start 0 configSession, .start 1 configSession, sends 0 (registryData [1]),
    sends 1 (registryData [2]), sends 0 finishFrame]

/-- The first session is aborted after one frame. -/
def oneAborted : List (CaptureLabel Empty) :=
  [.start 0 configSession, sends 0 (registryData [1]), .start 1 configSession,
    sends 1 (registryData [1]), sends 1 (registryData [2]), sends 1 finishFrame]

/-- The finalized frames of 1.21, and that no backend has sent them so. -/
def Unsent (frames : List PacketFrame) (s : CaptureSystem Empty) : Prop :=
  ∃ entry, s.cache.captured.lookup .V1_21 = some entry ∧ entry.finalized = true ∧
    entry.registryFrames = frames ∧
    ∀ id link, s.links.lookup id = some link → entry.registryFrames ≠ link.configFrames

theorem unsent_of_exec {labels}
    (h : (exec (next (buildDefaultRegistry bareDecoders)) labels init).any (fun s =>
      (s.cache.captured.lookup .V1_21).any fun entry => entry.finalized = true ∧
        entry.registryFrames = frames ∧ ∀ id link, s.links.lookup id = some link →
          entry.registryFrames ≠ link.configFrames) = true) :
    ∃ s, Run (Step (buildDefaultRegistry bareDecoders)) init labels s ∧ s.Unsent frames := by
  obtain ⟨s, hexec, hent⟩ := (any_eq_true _ _).mp h
  obtain ⟨entry, hget, hunsent⟩ := (any_eq_true _ _).mp hent
  exact ⟨s, .of_exec (fun _ _ _ h => h) hexec, entry, hget, of_decide_eq_true hunsent⟩

/-- The finalized frames are mixed from two sessions, or have a frame twice. -/
theorem captured_mixed :
    (∃ s, Run (Step (buildDefaultRegistry bareDecoders)) init twoAtOnce s ∧
      s.Unsent [registryData [1], registryData [2]]) ∧
    ∃ s, Run (Step (buildDefaultRegistry bareDecoders)) init oneAborted s ∧
      s.Unsent [registryData [1], registryData [1], registryData [2]] := by
  refine ⟨unsent_of_exec ?_, unsent_of_exec ?_⟩
  all_goals
    decide +kernel

/-- One session captures the version, and another one comes later. -/
def oneAlone : List (CaptureLabel Empty) :=
  [.start 0 configSession, sends 0 (registryData [1]), sends 0 (registryData [2]),
    sends 0 finishFrame, .start 1 configSession, sends 1 (registryData [3])]

theorem captured_alone :
    ∃ s, Run (ExclusiveStep (buildDefaultRegistry bareDecoders)) init oneAlone s ∧
      ∃ entry, s.cache.captured.lookup .V1_21 = some entry ∧
        entry.registryFrames = [registryData [1], registryData [2]] ∧
        ∃ id link, s.links.lookup id = some link ∧ link.version = .V1_21 ∧
          link.finished = true ∧ entry.registryFrames = link.configFrames := by
  refine exists_run_guarded
    (P := fun s => (s.cache.captured.lookup .V1_21).any (fun entry => entry.finalized = true ∧
      entry.registryFrames = [registryData [1], registryData [2]]) = true) ?_ ?_
  · rw [buildDefaultRegistry_eq]
    decide
  · intro s hrun hent
    obtain ⟨entry, hget, hgood⟩ := (any_eq_true _ _).mp hent
    obtain ⟨hfinal, hframes⟩ := of_decide_eq_true hgood
    exact ⟨entry, hget, hframes, captured_eq_sent hrun hget hfinal⟩

end CaptureSystem

end Infrarust
