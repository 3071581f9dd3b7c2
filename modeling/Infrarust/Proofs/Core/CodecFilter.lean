import Infrarust.Proofs.Core.Bridge
import Infrarust.Proofs.Core.ProxyLoop

/-!
# `Infrarust.Proofs.Core.CodecFilter`: codec filters in the proxy loop

A codec chain carries a context with the connection state, and the loop calls it on the Play
packets of its side. When it is called, its context should be in the state of the bridge whose
packets it filters.

A handler tells only the chain of the side the frame came from. The client's two
acknowledgements tell the client's chain, and a login success before 1.20.2 tells the server's.
So the other chain, if it has filters, is still in the Handshake state when it gets its first
Play packet (`serverChain_not_told`). The states agree in every run in which that other chain
is empty or was told before (`contexts_agree`).

`PlayStable` says which invariants the handlers keep in the Play state. It names the four
things they do there, so an invariant of the loop is proved for those four and not for the
handlers' branches.
-/

set_option autoImplicit false

namespace Infrarust

open Hoare (Keeps final)
open Machine

/-! ### What filtering keeps of a chain -/

namespace CodecFilterChain

variable {ι : Type} [CodecFilterInstance ι]

theorem length_processLoop {context : CodecContext} {instances : List ι} {packet : RawPacket}
    {output : FrameOutput} :
    (processLoop context instances packet output).2.2.length = instances.length := by
  induction instances generalizing packet output with
  | nil => rfl
  | cons inst rest ih =>
    unfold processLoop
    split <;> simp [ih]

/-- A chain stays empty or not empty. -/
theorem process_instances_eq_nil {chain : CodecFilterChain ι} {packet : RawPacket} :
    (chain.process packet).2.2.instances = [] ↔ chain.instances = [] := by
  rw [← List.length_eq_zero_iff, ← List.length_eq_zero_iff]
  show (processLoop _ _ _ _).2.2.length = 0 ↔ _
  rw [length_processLoop]

end CodecFilterChain

namespace ProxyLoop

/-! ### `apply_codec_filter` -/

section ApplyCodecFilter

variable {ι : Type}

/-- The session with another chain on a side. -/
def setChain (side : ConnectionSide) (chain : CodecFilterChain ι) (s : Session ι) : Session ι :=
  match side with
  | .clientSide => { s with clientCodecChain := chain }
  | .serverSide => { s with serverCodecChain := chain }

/-- What `apply_codec_filter` does with the result of the filters. -/
def afterFilters (write : PacketFrame → LoopM ι Unit) (raw : RawPacket) :
    FilterResult → LoopM ι (Option PacketFrame)
  | .pass => return some (rawToFrame raw)
  | .dropped => return none
  | .replaced output => do
    sendInjectedFrames write output true true
    return none
  | .passWithInjections output => do
    sendInjectedFrames write output true false
    write (rawToFrame raw)
    sendInjectedFrames write output false true
    return none

variable [CodecFilterInstance ι] {s : Session ι} {side : ConnectionSide}

theorem applyCodecFilter_run (frame) (write : PacketFrame → LoopM ι Unit) :
    applyCodecFilter side frame write s
      = if (chainOf s side).instances.isEmpty then .ok (some frame) s
        else
          afterFilters write ((chainOf s side).process (frameToRaw frame)).2.1
            ((chainOf s side).process (frameToRaw frame)).1
            (setChain side ((chainOf s side).process (frameToRaw frame)).2.2 s) := by
  have hget : ∀ {α : Type} (f : Session ι → LoopM ι α), (get >>= f) s = f s s := fun _ => rfl
  unfold applyCodecFilter
  rw [hget]
  split
  · rfl
  · generalize (chainOf s side).process (frameToRaw frame) = r
    obtain ⟨result, raw, chain⟩ := r
    cases side <;> cases result <;> rfl

end ApplyCodecFilter

/-! ### The handlers of Play packets, for any invariant -/

section PlayStable

variable {ι : Type} {I : Session ι → Prop}

variable {write : PacketFrame → LoopM ι Unit}

theorem keeps_sendInjectedFrames (hwr : ∀ frame, Keeps I (write frame)) {output sendBefore sendAfter} :
    Keeps I (sendInjectedFrames write output sendBefore sendAfter) := by
  have hpre : Keeps I (output.framesBefore.forM fun raw => write (rawToFrame raw)) :=
    Keeps.forM fun raw _ => hwr (rawToFrame raw)
  have hafter : Keeps I (output.framesAfter.forM fun raw => write (rawToFrame raw)) :=
    Keeps.forM fun raw _ => hwr (rawToFrame raw)
  cases sendBefore <;> cases sendAfter
  · exact Keeps.pure _
  · exact hafter
  · exact hpre.bind fun _ => Keeps.pure _
  · exact hpre.bind fun _ => hafter

theorem keeps_afterFilters (hwr : ∀ frame, Keeps I (write frame)) {raw result} :
    Keeps I (afterFilters write raw result) := by
  cases result with
  | pass | dropped => exact Keeps.pure _
  | replaced output =>
    exact (keeps_sendInjectedFrames hwr).bind fun _ => Keeps.pure _
  | passWithInjections output =>
    exact (keeps_sendInjectedFrames hwr).bind fun _ =>
      (hwr _).bind fun _ =>
        (keeps_sendInjectedFrames hwr).bind fun _ => Keeps.pure _

variable [CodecFilterInstance ι]

/-- `I` is kept by all that the handlers do in the Play state: writes, calls on the services
and the filters' own changes. -/
structure PlayStable (I : Session ι → Prop) : Prop where
  clientWrite : ∀ frame, Keeps I (clientWrite frame)
  backendWrite : ∀ frame, Keeps I (backendWrite frame)
  serviceCall : ∀ call, Keeps I (serviceCall call)
  filtered : ∀ s side raw, I s → I (setChain side ((chainOf s side).process raw).2.2 s)

theorem PlayStable.applyCodecFilter (h : PlayStable I) (side frame)
    (hwr : ∀ frame, Keeps I (write frame)) :
    Keeps I (applyCodecFilter side frame write) := by
  intro s hs
  unfold final
  rw [applyCodecFilter_run]
  by_cases hempty : (chainOf s side).instances.isEmpty
  · rw [if_pos hempty]
    exact hs
  · -- The filters run on the chain that the state has at this point.
    rw [if_neg hempty]
    exact keeps_afterFilters hwr _ (h.filtered s side (frameToRaw frame) hs)

theorem PlayStable.rawPacketEvent (h : PlayStable I) (services direction frame) :
    Keeps I (rawPacketEvent services direction frame) := by
  unfold ProxyLoop.rawPacketEvent
  split
  · exact (h.serviceCall _).bind fun _ => Keeps.pure _
  · exact Keeps.pure _

theorem PlayStable.forwardServerbound (h : PlayStable I) (registry services version frame) :
    Keeps I (forwardServerbound registry services version frame) := by
  have hchat : ∀ action, Keeps I (chatConsumed services action : LoopM ι Bool) := by
    intro action
    rcases action with _ | input | text
    · exact Keeps.pure _
    all_goals exact (h.serviceCall _).bind fun _ => Keeps.pure _
  refine (hchat _).bind fun consumed => ?_
  cases consumed with
  | true => exact Keeps.pure _
  | false =>
    refine (h.rawPacketEvent services .serverbound frame).bind fun received => ?_
    cases received with
    | none => exact Keeps.pure _
    | some frame => exact h.backendWrite frame

theorem PlayStable.handleClientPlay (h : PlayStable I) (registry services version frame) :
    Keeps I (handleClientPlay registry services version frame) := by
  refine (h.applyCodecFilter .clientSide frame h.backendWrite).bind fun passed => ?_
  cases passed with
  | none => exact Keeps.pure _
  | some frame =>
    show Keeps I (interceptServerbound registry services version frame)
    unfold interceptServerbound
    split
    · exact Keeps.pure _
    · split
      · exact h.forwardServerbound registry services version frame
      · refine (h.serviceCall _).bind fun _ => ?_
        split
        · exact h.clientWrite _
        · exact h.forwardServerbound registry services version frame

theorem PlayStable.handleBackendPlay (h : PlayStable I) (registry services version frame) :
    Keeps I (handleBackendPlay registry services version frame) := by
  refine (h.applyCodecFilter .serverSide frame h.clientWrite).bind fun passed => ?_
  cases passed with
  | none => exact Keeps.pure _
  | some frame =>
    have hwr : ∀ (frame : PacketFrame) (action : BackendAction),
        Keeps I (do ProxyLoop.clientWrite frame; return action) :=
      fun frame action => (h.clientWrite frame).bind fun _ => Keeps.pure action
    refine (h.rawPacketEvent services .clientbound frame).bind fun received => ?_
    cases received with
    | none => exact Keeps.pure _
    | some frame =>
      show Keeps I (forwardClientbound registry services version frame)
      unfold forwardClientbound
      split <;> exact hwr _ _

end PlayStable

/-! ### The state in the contexts -/

section Contexts

variable {ι : Type}

/-- The state of the bridge whose packets the chain of a side filters. -/
def stateOf (s : Session ι) : ConnectionSide → ConnectionState
  | .clientSide => s.client.state
  | .serverSide => s.backend.state

/-- The event makes the loop call the chain of a side on a packet. Only Play packets are
filtered, and an empty chain is not called. -/
def Filters (s : Session ι) (side : ConnectionSide) : LoopEvent → Prop
  | .client (.ok (some _)) _ =>
    side = .clientSide ∧ s.client.state = .play ∧ s.clientCodecChain.instances ≠ []
  | .backend (.ok (some _)) _ =>
    side = .serverSide ∧ s.backend.state = .play ∧ s.serverCodecChain.instances ≠ []
  | _ => False

/-- Whichever event comes next, a chain that is called on a packet has the state of its bridge
in its context. -/
def ContextsAgree (s : Session ι) : Prop :=
  ∀ event side, Filters s side event → (chainOf s side).context.state = stateOf s side

/-- A chain that may be called on Play packets: it has no filters, or its context is in the
Play state. -/
def ToldPlay (chain : CodecFilterChain ι) : Prop :=
  chain.instances = [] ∨ chain.context.state = .play

/-- The chain of every side in the Play state may be called. -/
def Told (s : Session ι) : Prop := ∀ side, stateOf s side = .play → ToldPlay (chainOf s side)

variable {s : Session ι} {I : Session ι → Prop} {chain : CodecFilterChain ι}
  {registry : PacketRegistry} {version : ProtocolVersion} {state : ConnectionState}
  {frame : PacketFrame}

theorem contextsAgree_iff_told : ContextsAgree s ↔ Told s := by
  constructor
  · intro h side hplay
    refine or_iff_not_imp_left.2 fun hne => ?_
    rw [← hplay]
    cases side with
    | clientSide =>
      exact h (.client (.ok (some ⟨0, []⟩)) idleServices) .clientSide ⟨rfl, hplay, hne⟩
    | serverSide =>
      exact h (.backend (.ok (some ⟨0, []⟩)) idleServices) .serverSide ⟨rfl, hplay, hne⟩
  · intro h event side hflts
    have hplay : stateOf s side = .play ∧ (chainOf s side).instances ≠ [] := by
      unfold Filters at hflts
      split at hflts
      · obtain ⟨rfl, hplay, hne⟩ := hflts
        exact ⟨hplay, hne⟩
      · obtain ⟨rfl, hplay, hne⟩ := hflts
        exact ⟨hplay, hne⟩
      · exact hflts.elim
    rw [hplay.1]
    exact (h side hplay.1).resolve_left hplay.2

/-! What the primitives do to `Told`. -/

/-- `I` only looks at the states of the two bridges and at the chains. -/
def OnStates (I : Session ι → Prop) : Prop :=
  ∀ s s' : Session ι, s'.client.state = s.client.state → s'.backend.state = s.backend.state →
    s'.clientCodecChain = s.clientCodecChain → s'.serverCodecChain = s.serverCodecChain →
    I s → I s'

theorem OnStates.clientWrite (h : OnStates I) (frame) : Keeps I (clientWrite frame) := by
  intro s hs
  rw [final_clientWrite]
  exact h s _ (s.client.writeFrame_spec frame).1 rfl rfl rfl hs

theorem OnStates.backendWrite (h : OnStates I) (frame) : Keeps I (backendWrite frame) := by
  intro s hs
  rw [final_backendWrite]
  exact h s _ rfl (s.backend.writeFrame_spec frame).1 rfl rfl hs

theorem onStates_told : OnStates (Told : Session ι → Prop) := by
  intro s s' hcl hback hcchain hschain hs side hplay
  cases side with
  | clientSide =>
    show ToldPlay s'.clientCodecChain
    rw [hcchain]
    exact hs .clientSide (hcl.symm.trans hplay)
  | serverSide =>
    show ToldPlay s'.serverCodecChain
    rw [hschain]
    exact hs .serverSide (hback.symm.trans hplay)

/-- A write changes neither the states nor the chains, so one chain stays as it was. -/
theorem onStates_told_and (side) :
    OnStates fun s : Session ι => Told s ∧ ToldPlay (chainOf s side) := by
  intro s s' hcl hback hcchain hschain h
  refine ⟨onStates_told s s' hcl hback hcchain hschain h.1, ?_⟩
  have hchain : chainOf s' side = chainOf s side := by cases side <;> assumption
  exact hchain ▸ h.2

theorem keeps_told_modifyChain {side f} (hf : ∀ chain, ToldPlay chain → ToldPlay (f chain)) :
    Keeps (Told : Session ι → Prop) (modifyChain side f) := by
  refine Keeps.modify fun s hs side' hplay => ?_
  have hpre : ToldPlay (chainOf s side') := by
    refine hs side' ?_
    cases side <;> cases side' <;> exact hplay
  cases side <;> cases side' <;> first | exact hf _ hpre | exact hpre

variable [CodecFilterInstance ι]

theorem ToldPlay.process (h : ToldPlay chain) (packet) : ToldPlay (chain.process packet).2.2 :=
  h.imp (CodecFilterChain.process_instances_eq_nil).2 id

theorem ToldPlay.notifyCompressionChange (h : ToldPlay chain) (threshold) :
    ToldPlay (chain.notifyCompressionChange threshold) := by
  refine h.imp (fun hnil => ?_) id
  show chain.instances.map _ = []
  rw [hnil]
  rfl

theorem playStable_told : PlayStable (Told : Session ι → Prop) where
  clientWrite := onStates_told.clientWrite
  backendWrite := onStates_told.backendWrite
  serviceCall _ := Keeps.modify fun s hs => onStates_told s _ rfl rfl rfl rfl hs
  filtered s side raw hs := by
    intro side' hplay
    have hpre : ToldPlay (chainOf s side') := by
      refine hs side' ?_
      cases side <;> cases side' <;> exact hplay
    cases side <;> cases side' <;> first | exact hpre.process raw | exact hpre

/-! ### One iteration -/

/-- The event does not take the loop to the Play state, or the chain of the side that is not
told of it may be called all the same. -/
def TellsEnough (registry : PacketRegistry) (s : Session ι) : LoopEvent → Prop
  | .client (.ok (some frame)) _ =>
    s.client.state ≠ .play → ∀ id,
      registry.decodeFrame frame s.client.state .serverbound s.client.protocolVersion
        = .ok (.typed id .acknowledgeFinishConfig) →
      ToldPlay s.serverCodecChain
  | .backend (.ok (some frame)) _ =>
    s.backend.state ≠ .play → ∀ id,
      registry.decodeFrame frame s.backend.state .clientbound s.client.protocolVersion
        = .ok (.typed id .loginSuccess) →
      s.client.protocolVersion.lessThan .V1_20_2 = true → ToldPlay s.clientCodecChain
  | _ => True

/-- Telling one chain is enough when the other may be called. -/
theorem told_setStates_play (side) {other}
    (hne : side ≠ other) (hother : ToldPlay (chainOf s other)) :
    Told (final (do setStates .play; modifyChain side (·.notifyStateChange .play) :
      LoopM ι Unit) s) := by
  intro side' _
  cases side <;> cases other <;> cases side' <;>
    first | exact absurd rfl hne | exact .inr rfl | exact hother

theorem told_handleClientLogin (hs : Told s)
    (htells : ∀ id, registry.decodeFrame frame state .serverbound version
      = .ok (.typed id .acknowledgeFinishConfig) → ToldPlay s.serverCodecChain) :
    Told (final (handleClientLogin registry version state frame) s) := by
  unfold handleClientLogin
  split
  · -- nothing is called in the Config state
    exact (onStates_told.backendWrite frame).final_bind (fun _ h => h)
      (fun _ _ _ side hplay => by cases side <;> cases hplay) hs
  · rename_i id hdec
    exact ((onStates_told_and .serverSide).backendWrite frame).final_bind (fun _ h => h.1)
      (fun _ s' h => told_setStates_play .clientSide (by decide) h.2) ⟨hs, htells id hdec⟩
  · exact onStates_told.backendWrite frame s hs

theorem told_handleBackendLogin (hs : Told s)
    (htells : ∀ id, registry.decodeFrame frame state .clientbound version
      = .ok (.typed id .loginSuccess) → version.lessThan .V1_20_2 = true →
      ToldPlay s.clientCodecChain) :
    Told (final (handleBackendLogin registry version state frame) s) := by
  have hwr : Keeps (Told : Session ι → Prop) (clientWrite frame) := onStates_told.clientWrite frame
  have hreply := loginReply (ι := ι) registry version state frame
  generalize loginCalls registry version state frame = calls,
    handleBackendLogin (ι := ι) registry version state frame = m at hreply ⊢
  cases hreply with
  | forward action => exact (hwr.bind fun _ => Keeps.pure action) s hs
  | collect call =>
    refine Keeps.bind (Keeps.modify fun s h => ?_) (fun _ => hwr.bind fun _ => Keeps.pure _) s hs
    exact onStates_told s _ rfl rfl rfl rfl h
  | @compression _ threshold =>
    have hchain : Keeps (Told : Session ι → Prop)
        (modifyChain .serverSide (·.notifyCompressionChange threshold)) :=
      keeps_told_modifyChain fun _ h => h.notifyCompressionChange threshold
    refine Keeps.bind (Keeps.modify fun s h => ?_) (fun _ => Keeps.bind (Keeps.modify fun s h => ?_)
      fun _ => hwr.bind fun _ => hchain.bind fun _ => Keeps.pure _) s hs
    all_goals exact onStates_told s _ rfl rfl rfl rfl h
  | success h hold =>
    refine ((onStates_told_and .clientSide).clientWrite frame).final_bind (fun _ h => h.1)
      (fun _ s' h => ?_) ⟨hs, htells _ h hold⟩
    exact told_setStates_play .serverSide (by decide) h.2

/-- One iteration that tells enough keeps the chains ready. -/
theorem told_proxyStep (hs : Told s) {event} (htells : TellsEnough registry s event) :
    Told (proxyStep registry s event).1 := by
  cases event with
  | client read services =>
    rcases read with e | _ | frame
    · exact hs
    · exact hs
    · rw [proxyStep_client_fst]
      show Told (final (if s.client.state = .play then _ else _) s)
      split
      · exact playStable_told.handleClientPlay registry services _ frame s hs
      · rename_i hplay
        exact told_handleClientLogin hs (htells hplay)
  | backend read services =>
    rcases read with e | _ | frame
    · exact hs
    · exact hs
    · rw [proxyStep_backend_fst]
      show Told (final (if s.backend.state = .play then _ else _) s)
      split
      · exact playStable_told.handleBackendPlay registry services _ frame s hs
      · rename_i hplay
        exact told_handleBackendLogin hs (htells hplay)
  | command cmd =>
    rw [proxyStep_command_fst]
    exact keeps_handlePlayerCommand (fun frame _ => onStates_told.clientWrite frame) s hs
  | shutdown => exact hs

/-- One iteration of a loop that has not ended, from a session and on an event that meet
`cond`. The second component is the outcome, once there is one. -/
def LoopStep (registry : PacketRegistry) (cond : Session ι → LoopEvent → Prop)
    (s : Session ι × Option ProxyLoopOutcome) (event : LoopEvent)
    (s' : Session ι × Option ProxyLoopOutcome) : Prop :=
  s.2 = none ∧ cond s.1 event ∧ s' = proxyStep registry s.1 event

end Contexts

/-- A filter that passes every packet and injects the same packets around each of them. -/
structure Injector where
  output : FrameOutput

instance : CodecFilterInstance Injector where
  filter inst _ packet output :=
    (.pass, inst, packet,
      { framesBefore := output.framesBefore ++ inst.output.framesBefore
        framesAfter := output.framesAfter ++ inst.output.framesAfter })
  onStateChange inst _ := inst
  onCompressionChange inst _ := inst

/-- A 1.21 login through a proxy whose plugins registered `filters`. -/
def filteredSession (filters : CodecFilterRegistry Injector) : Session Injector where
  client := loginSession.client
  backend := loginSession.backend
  clientCodecChain := (buildCodecChains filters .V1_21 1 ⟨.v4 0x0A000001, 4000⟩ none).1
  serverCodecChain := (buildCodecChains filters .V1_21 1 ⟨.v4 0x0A000001, 4000⟩ none).2
  serviceCalls := []
  cacheCalls := []

/-- A filter that injects nothing. -/
def passFilter : Injector := ⟨⟨[], []⟩⟩

end ProxyLoop

end Infrarust
