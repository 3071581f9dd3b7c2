import Infrarust.Proofs.Core.CodecFilter

/-!
# `Infrarust.Proofs.Core.Injections`: packets that a filter passes with injections

A filter may inject packets around the one it passes. The passed packet should be treated as
it would be without them: the chat session check, the commands, the chat and packet events,
the disconnect detection and the rewriting of the command tree all come after the filters.

`apply_codec_filter` writes a packet with injections itself and reports it as consumed, so it
gets past all of these stages (`chatSession_passes_with_injection`). Nothing is lost exactly
for the packets that they leave alone (`passesAlike_iff_untouched`). For the converse the two
treatments are compared on a session whose writers take every frame, where a program shows
what it does: the frames it writes to each side, its calls on the services and its result
(`Emits`).
-/

set_option autoImplicit false

namespace Infrarust

open Hoare (Keeps final)
open List

namespace ProxyLoop

variable {direction : Direction} {ι : Type} {registry : PacketRegistry}
  {services : ProxyServices} {version : ProtocolVersion} {side : ConnectionSide}
  {frame : PacketFrame}

section Injections

/-! ### The two treatments -/

/-- The writer to which the packets of a side go. -/
def writeOn : ConnectionSide → PacketFrame → LoopM ι Unit
  | .clientSide => backendWrite
  | .serverSide => clientWrite

/-- What the handler of a side does with a Play packet that the filters passed. -/
def intercept (registry : PacketRegistry) (services : ProxyServices) (version : ProtocolVersion) :
    ConnectionSide → PacketFrame → LoopM ι BackendAction
  | .clientSide, frame => do
    interceptServerbound registry services version frame
    return .continue
  | .serverSide, frame => interceptClientbound registry services version frame

/-- What the handler of a side does behind the filters. -/
def afterPassed (registry : PacketRegistry) (services : ProxyServices)
    (version : ProtocolVersion) (side : ConnectionSide) :
    Option PacketFrame → LoopM ι BackendAction
  | none => return .continue
  | some frame => intercept registry services version side frame

/-- A treatment of a packet, with the injected packets written around it. -/
def around (side : ConnectionSide) (output : FrameOutput) (treatment : LoopM ι BackendAction) :
    LoopM ι BackendAction := do
  sendInjectedFrames (writeOn side) output true false
  let action ← treatment
  sendInjectedFrames (writeOn side) output false true
  return action

/-- The handler of the frames of a side. -/
def handle [CodecFilterInstance ι] (registry : PacketRegistry) (services : ProxyServices) :
    ConnectionSide → PacketFrame → LoopM ι BackendAction
  | .clientSide, frame => do
    handleClientToBackend registry services frame
    return .continue
  | .serverSide, frame => handleBackendToClient registry services frame

/-- A Play packet that two chains pass unchanged, the second with injections, gets the same
treatment behind both, and the injected packets are written around it. -/
def PassesAlike (registry : PacketRegistry) (services : ProxyServices)
    (version : ProtocolVersion) (side : ConnectionSide) (frame : PacketFrame) : Prop :=
  ∀ (ι : Type) [CodecFilterInstance ι] (s : Session ι)
    (plain plain' injecting injecting' : CodecFilterChain ι) (output : FrameOutput),
    stateOf s side = .play → s.client.protocolVersion = version →
    plain.process (frameToRaw frame) = (.pass, frameToRaw frame, plain') →
    injecting.process (frameToRaw frame)
      = (.passWithInjections output, frameToRaw frame, injecting') →
    handle registry services side frame (setChain side plain s)
      = intercept registry services version side frame (setChain side plain' s) ∧
    handle registry services side frame (setChain side injecting s)
      = around side output (intercept registry services version side frame)
          (setChain side injecting' s)

/-- No stage behind the filters has anything to do with the packet. -/
def Untouched (registry : PacketRegistry) (services : ProxyServices) (version : ProtocolVersion) :
    ConnectionSide → PacketFrame → Prop
  | .clientSide, frame =>
    some frame.id ≠ registry.getPacketId .chatSessionUpdate .play .serverbound version ∧
    interceptedTabComplete registry services version frame = none ∧
    detectChatOrCommand registry services version frame = none ∧
    services.hasPacketListeners frame.id .play .serverbound = false
  | .serverSide, frame =>
    services.hasPacketListeners frame.id .play .clientbound = false ∧
    (∀ id reason, registry.decodeFrame frame .play .clientbound version
      ≠ .ok (.typed id (.disconnect reason))) ∧
    -- The command tree may be announced if that leaves it as it was.
    ∀ id tree,
      registry.decodeFrame frame .play .clientbound version = .ok (.typed id (.commands tree)) →
      announcedCommands services version frame id tree = frame

/-! ### An untouched packet -/

theorem rawPacketEvent_of_no_listener
    (h : services.hasPacketListeners frame.id .play direction = false) :
    (rawPacketEvent services direction frame : LoopM ι (Option PacketFrame))
      = pure (some frame) := by
  unfold rawPacketEvent
  rw [h]
  rfl

theorem interceptServerbound_of_untouched
    (h : Untouched registry services version .clientSide frame) :
    (interceptServerbound registry services version frame : LoopM ι Unit) = backendWrite frame := by
  obtain ⟨hsess, htab, hchat, hlis⟩ := h
  unfold interceptServerbound
  rw [if_neg hsess, htab]
  unfold forwardServerbound
  rw [hchat, rawPacketEvent_of_no_listener hlis]
  rfl

/-- The stages behind the filters only write an untouched packet. -/
theorem intercept_of_untouched (h : Untouched registry services version side frame) :
    (intercept registry services version side frame : LoopM ι BackendAction)
      = do writeOn side frame; return .continue := by
  cases side with
  | clientSide =>
    have hunfold : (intercept registry services version .clientSide frame : LoopM ι BackendAction)
        = do interceptServerbound registry services version frame; return .continue := rfl
    rw [hunfold, interceptServerbound_of_untouched h]
    rfl
  | serverSide =>
    obtain ⟨hlis, hdisc, hcmds⟩ := h
    show interceptClientbound registry services version frame = _
    unfold interceptClientbound
    rw [rawPacketEvent_of_no_listener hlis, pure_bind]
    show forwardClientbound registry services version frame = _
    unfold forwardClientbound
    split
    · rename_i id reason hdec
      exact absurd hdec (hdisc id reason)
    · rename_i id tree hdec
      rw [hcmds id tree hdec]
      rfl
    · rfl

/-! ### The handler, by what the filters return -/

variable [CodecFilterInstance ι]

variable {s : Session ι}

/-- The handler of a Play packet: the filters, and the treatment of what they pass. -/
theorem handle_play (hplay : stateOf s side = .play) (hver : s.client.protocolVersion = version) :
    handle registry services side frame s
      = (applyCodecFilter side frame (writeOn side) >>=
          afterPassed registry services version side) s := by
  subst hver
  cases side with
  | clientSide =>
    have hcl : s.client.state = .play := hplay
    have hrun : handleClientToBackend registry services frame s
        = handleClientPlay registry services s.client.protocolVersion frame s := by
      show (if s.client.state = .play then _ else _ : LoopM ι Unit) s = _
      rw [if_pos hcl]
    refine (Hoare.run_bind_congr hrun _).trans ?_
    rw [handleClientPlay, bind_assoc]
    refine congrArg (fun f => (applyCodecFilter .clientSide frame backendWrite >>= f :
      LoopM ι BackendAction) s) (funext fun passed => ?_)
    cases passed <;> rfl
  | serverSide =>
    have hback : s.backend.state = .play := hplay
    show (if s.backend.state = .play then _ else _ : LoopM ι BackendAction) s = _
    rw [if_pos hback]
    refine congrArg (fun f => (applyCodecFilter .serverSide frame clientWrite >>= f :
      LoopM ι BackendAction) s) (funext fun passed => ?_)
    cases passed <;> rfl

variable {chain chain' : CodecFilterChain ι}

/-- A packet that a chain leaves as it was is treated as the chain's verdict says. -/
theorem handle_of_process {verdict} (hplay : stateOf s side = .play)
    (hver : s.client.protocolVersion = version)
    (hprocess : chain.process (frameToRaw frame) = (verdict, frameToRaw frame, chain')) :
    handle registry services side frame (setChain side chain s)
      = (afterFilters (writeOn side) (frameToRaw frame) verdict >>=
          afterPassed registry services version side) (setChain side chain' s) := by
  have hchain : chainOf (setChain side chain s) side = chain := by cases side <;> rfl
  have hset : setChain side chain' (setChain side chain s) = setChain side chain' s := by
    cases side <;> rfl
  have hplay' : stateOf (setChain side chain s) side = .play := by cases side <;> exact hplay
  have hver' : (setChain side chain s).client.protocolVersion = version := by
    cases side <;> exact hver
  rw [handle_play hplay' hver']
  refine Hoare.run_bind_congr ?_ _
  rw [applyCodecFilter_run, hchain]
  obtain ⟨instances, context⟩ := chain
  cases instances with
  | nil =>
    cases hprocess
    rfl
  | cons first rest => rw [if_neg (by simp), hprocess, hset]

/-- A packet that a chain passes with injections is written between them and gets no further. -/
theorem handle_of_injections {output} (hplay : stateOf s side = .play)
    (hver : s.client.protocolVersion = version) (hprocess : chain.process (frameToRaw frame)
      = (.passWithInjections output, frameToRaw frame, chain')) :
    handle registry services side frame (setChain side chain s)
      = around side output (do writeOn side frame; return .continue) (setChain side chain' s) := by
  rw [handle_of_process hplay hver hprocess]
  simp only [afterFilters, around, bind_assoc, pure_bind]
  rfl

end Injections

/-! ### What a program emits -/

section Emits

variable {α β : Type}

/-- What a program does that others see: the frames it writes and its calls on the services. -/
structure Effect where
  toClient : List PacketFrame
  toBackend : List PacketFrame
  calls : List ServiceCall

instance : Append Effect where
  append e e' := ⟨e.toClient ++ e'.toClient, e.toBackend ++ e'.toBackend, e.calls ++ e'.calls⟩

theorem Effect.append_assoc (e e' e'' : Effect) : e ++ e' ++ e'' = e ++ (e' ++ e'') := by
  show Effect.mk _ _ _ = Effect.mk _ _ _
  congr 1 <;> exact List.append_assoc _ _ _

theorem Effect.append_nil (e) : e ++ (⟨[], [], []⟩ : Effect) = e := by
  show Effect.mk _ _ _ = _
  rw [List.append_nil, List.append_nil, List.append_nil]

variable {e e' : Effect}

theorem Effect.append_cancel {e''} (h : e ++ e' = e ++ e'') : e' = e'' := by
  obtain ⟨hcl, hback, hcalls⟩ := Effect.mk.inj h
  obtain ⟨_, _, _⟩ := e''
  cases List.append_cancel_left hcl
  cases List.append_cancel_left hback
  cases List.append_cancel_left hcalls
  rfl

/-- The history of a session. -/
def history (s : Session ι) : Effect := ⟨s.client.written, s.backend.written, s.serviceCalls⟩

/-- An encoder that compresses every frame to nothing, so that no frame is too large. -/
def lenientEncoder : PacketEncoder where
  buf := []
  compressionThreshold := some (BitVec.intMin 32)
  compressor := ⟨fun _ => .ok []⟩

/-- A session whose writers take every frame. -/
structure Lenient (s : Session ι) : Prop where
  clientEncoder : s.client.encoder = lenientEncoder
  clientBudget : s.client.stream.budget = none
  backendEncoder : s.backend.encoder = lenientEncoder
  backendBudget : s.backend.stream.budget = none

/-- From every session whose writers take every frame, the program returns `a` and has the
effect `e`. -/
def Emits (m : LoopM ι α) (a : α) (e : Effect) : Prop :=
  ∀ s, Lenient s → ∃ s', m s = .ok a s' ∧ Lenient s' ∧ history s' = history s ++ e

theorem lenientEncoder_appendFrame :
    ∃ bytes, lenientEncoder.appendFrame frame = .ok { lenientEncoder with buf := bytes } := by
  have hthreshold : ∀ x : I32, (BitVec.intMin 32).toInt ≤ x.toInt := by
    intro x
    have hmin : (BitVec.intMin 32).toInt = -2147483648 := by decide
    have hle := BitVec.le_toInt x
    omega
  have hsize (x : I32) : VarInt.writtenSize x ≤ MAX_PACKET_SIZE :=
    (VarInt.writtenSize_le x).trans (by decide)
  refine ⟨VarInt.encode (BitVec.ofNat 32 (VarInt.writtenSize
    (BitVec.ofNat 32 (VarInt.writtenSize frame.id + frame.payload.length)))) ++
      VarInt.encode (BitVec.ofNat 32 (VarInt.writtenSize frame.id + frame.payload.length)), ?_⟩
  simp [PacketEncoder.appendFrame, PacketEncoder.appendRaw, lenientEncoder, hthreshold,
    Nat.not_lt.2 (hsize _)]

theorem emits_pure (a) : Emits (pure a : LoopM ι α) a ⟨[], [], []⟩ := by
  intro s hs
  exact ⟨s, rfl, hs, (Effect.append_nil _).symm⟩

theorem Emits.bind {m : LoopM ι α} {f : α → LoopM ι β} {a : α} {b : β} {e'' : Effect}
    (hm : Emits m a e) (hf : Emits (f a) b e') (he : e ++ e' = e'') :
    Emits (m >>= f) b e'' := by
  subst he
  intro s hs
  obtain ⟨s', hrun, hs', hhist⟩ := hm s hs
  obtain ⟨s'', hrun', hs'', hhist'⟩ := hf s' hs'
  refine ⟨s'', ?_, hs'', ?_⟩
  · show EStateM.bind m f s = _
    unfold EStateM.bind
    rw [hrun]
    exact hrun'
  · rw [hhist', hhist, Effect.append_assoc]

theorem emits_clientWrite : Emits (clientWrite frame : LoopM ι Unit) () ⟨[frame], [], []⟩ := by
  intro s hs
  obtain ⟨bytes, hbytes⟩ := lenientEncoder_appendFrame
  unfold clientWrite ClientBridge.writeFrame
  rw [hs.clientEncoder, hbytes]
  dsimp only
  rw [TcpStream.writeAll_of_budget hs.clientBudget]
  refine ⟨_, rfl, ⟨rfl, hs.clientBudget, hs.backendEncoder, hs.backendBudget⟩, ?_⟩
  show Effect.mk _ _ _ = Effect.mk _ (_ ++ []) (_ ++ [])
  rw [append_nil, append_nil]
  rfl

theorem emits_backendWrite (frame) :
    Emits (backendWrite frame : LoopM ι Unit) () ⟨[], [frame], []⟩ := by
  intro s hs
  obtain ⟨bytes, hbytes⟩ := lenientEncoder_appendFrame
  unfold backendWrite BackendBridge.writeFrame
  rw [hs.backendEncoder, hbytes]
  dsimp only
  rw [TcpStream.writeAll_of_budget hs.backendBudget]
  refine ⟨_, rfl, ⟨hs.clientEncoder, hs.clientBudget, rfl, hs.backendBudget⟩, ?_⟩
  show Effect.mk _ _ _ = Effect.mk (_ ++ []) _ (_ ++ [])
  rw [append_nil, append_nil]
  rfl

theorem emits_serviceCall {call : ServiceCall} :
    Emits (serviceCall call : LoopM ι Unit) () ⟨[], [], [call]⟩ := by
  intro s hs
  refine ⟨_, rfl, { hs with }, ?_⟩
  show Effect.mk _ _ _ = Effect.mk (_ ++ []) (_ ++ []) _
  rw [append_nil, append_nil]
  rfl

/-- Programs that do the same from one such session emit the same. -/
theorem Emits.unique {m m' : LoopM ι α} {a a'} (h : Emits m a e) (h' : Emits m' a' e')
    {s} (hs : Lenient s) (heq : m s = m' s) : a = a' ∧ e = e' := by
  obtain ⟨t, hrun, -, hhist⟩ := h s hs
  obtain ⟨t', hrun', -, hhist'⟩ := h' s hs
  rw [hrun, hrun'] at heq
  cases heq
  exact ⟨rfl, Effect.append_cancel (hhist.symm.trans hhist')⟩

/-! ### The stages behind the filters -/

/-- The calls of a packet event. -/
def eventCalls (services : ProxyServices) (direction : Direction) (frame : PacketFrame) :
    List ServiceCall :=
  if services.hasPacketListeners frame.id .play direction then
    [.packetEvent (frameToRaw frame) direction]
  else []

theorem eventCalls_eq_nil :
    eventCalls services direction frame = [] ↔
      services.hasPacketListeners frame.id .play direction = false := by
  unfold eventCalls
  cases services.hasPacketListeners frame.id .play direction <;> simp

theorem emits_rawPacketEvent (services direction frame) :
    ∃ received, Emits (rawPacketEvent services direction frame : LoopM ι (Option PacketFrame))
        received ⟨[], [], eventCalls services direction frame⟩ ∧
      (eventCalls services direction frame = [] → received = some frame) := by
  unfold rawPacketEvent eventCalls
  split
  · exact ⟨_, emits_serviceCall.bind (emits_pure _) rfl, fun h => absurd h (cons_ne_nil _ _)⟩
  · exact ⟨_, emits_pure _, fun _ => rfl⟩

/-- The calls of the chat detection. -/
def chatCalls : Option ChatAction → List ServiceCall
  | some (.command input) => [.dispatch input]
  | some (.message text) => [.chatMessage text]
  | none => []

theorem emits_chatConsumed (services action) :
    ∃ consumed, Emits (chatConsumed services action : LoopM ι Bool) consumed
      ⟨[], [], chatCalls action⟩ := by
  rcases action with _ | input | text
  · exact ⟨_, emits_pure _⟩
  all_goals exact ⟨_, emits_serviceCall.bind (emits_pure _) rfl⟩

variable (registry services version frame)

/-- Chat detection and the packet event leave a trace whenever they have something to do. -/
theorem emits_forwardServerbound :
    ∃ e, Emits (forwardServerbound registry services version frame : LoopM ι Unit) () e ∧
      (e = ⟨[], [frame], []⟩ → detectChatOrCommand registry services version frame = none ∧
        services.hasPacketListeners frame.id .play .serverbound = false) := by
  obtain ⟨consumed, hchat⟩ := emits_chatConsumed (ι := ι) services
    (detectChatOrCommand registry services version frame)
  obtain ⟨received, hev, -⟩ := emits_rawPacketEvent (ι := ι) services .serverbound frame
  have hcalls : ∀ {action : Option ChatAction}, chatCalls action = [] → action = none := by
    intro action h
    rcases action with _ | input | text
    · rfl
    all_goals cases h
  cases consumed with
  | true => exact ⟨_, hchat.bind (emits_pure ()) rfl, fun h => by cases h⟩
  | false =>
    cases received with
    | none => exact ⟨_, hchat.bind (hev.bind (emits_pure ()) rfl) rfl, fun h => by cases h⟩
    | some received =>
      refine ⟨_, hchat.bind (hev.bind (emits_backendWrite received) rfl) rfl, fun h => ?_⟩
      have hnil := append_eq_nil_iff.1 (congrArg Effect.calls h)
      exact ⟨hcalls hnil.1, eventCalls_eq_nil.1 (append_eq_nil_iff.1 hnil.2).1⟩

theorem emits_interceptServerbound :
    ∃ e, Emits (interceptServerbound registry services version frame : LoopM ι Unit) () e ∧
      (e = ⟨[], [frame], []⟩ → Untouched registry services version .clientSide frame) := by
  obtain ⟨e, hfwd, hquiet⟩ := emits_forwardServerbound (ι := ι) registry services version
    frame
  unfold interceptServerbound
  split
  · exact ⟨_, emits_pure (), nofun⟩
  · rename_i hsess
    split
    · rename_i htab
      exact ⟨e, hfwd, fun h => ⟨hsess, htab, hquiet h⟩⟩
    · -- The request for completions shows among the calls, whoever answers it.
      split
      · exact ⟨_, emits_serviceCall.bind emits_clientWrite rfl, fun h => by cases h⟩
      · exact ⟨_, emits_serviceCall.bind hfwd rfl, fun h => by
          cases congrArg Effect.calls h⟩

theorem emits_forwardClientbound :
    ∃ action sent, Emits (forwardClientbound registry services version frame :
        LoopM ι BackendAction) action ⟨[sent], [], []⟩ ∧
      (action = .continue → sent = frame →
        (∀ id reason, registry.decodeFrame frame .play .clientbound version
          ≠ .ok (.typed id (.disconnect reason))) ∧
        ∀ id tree, registry.decodeFrame frame .play .clientbound version
          = .ok (.typed id (.commands tree)) →
          announcedCommands services version frame id tree = frame) := by
  unfold forwardClientbound
  split
  · exact ⟨_, _, emits_clientWrite.bind (emits_pure _) rfl, nofun⟩
  · rename_i id tree hdec
    refine ⟨_, _, emits_clientWrite.bind (emits_pure _) rfl, fun _ hsent => ⟨?_, ?_⟩⟩
    · intro id' reason h
      cases hdec.symm.trans h
    · intro id' tree' h
      cases hdec.symm.trans h
      exact hsent
  · rename_i hdisc hcmds
    refine ⟨_, _, emits_clientWrite.bind (emits_pure _) rfl, fun _ _ => ⟨?_, ?_⟩⟩
    · intro id reason h
      exact hdisc id reason h
    · intro id tree h
      exact absurd h (hcmds id tree)

theorem emits_interceptClientbound :
    ∃ action e, Emits (interceptClientbound registry services version frame :
        LoopM ι BackendAction) action e ∧
      (action = .continue → e = ⟨[frame], [], []⟩ →
        Untouched registry services version .serverSide frame) := by
  obtain ⟨received, hev, hsame⟩ := emits_rawPacketEvent (ι := ι) services .clientbound frame
  cases received with
  | none => exact ⟨_, _, hev.bind (emits_pure _) rfl, fun _ h => by cases h⟩
  | some received =>
    obtain ⟨action, sent, hfwd, hquiet⟩ := emits_forwardClientbound (ι := ι) registry services
      version received
    refine ⟨action, _, hev.bind hfwd rfl, fun haction h => ?_⟩
    have hcalls := (append_eq_nil_iff.1 (congrArg Effect.calls h)).1
    -- Without listeners the event passed the packet on as it was.
    cases hsame hcalls
    have hsent : sent = frame := singleton_inj.1 (congrArg Effect.toClient h)
    exact ⟨eventCalls_eq_nil.1 hcalls, hquiet haction hsent⟩

/-- Frames written for the packets of a side. -/
def writtenOn : ConnectionSide → List PacketFrame → Effect
  | .clientSide, frames => ⟨[], frames, []⟩
  | .serverSide, frames => ⟨frames, [], []⟩

variable (side)

theorem emits_writeOn : Emits (writeOn side frame : LoopM ι Unit) () (writtenOn side [frame]) := by
  cases side with
  | clientSide => exact emits_backendWrite frame
  | serverSide => exact emits_clientWrite

/-- A packet whose treatment is to be written and nothing else is untouched. -/
theorem emits_intercept :
    ∃ action e, Emits (intercept registry services version side frame : LoopM ι BackendAction)
        action e ∧
      (action = .continue → e = writtenOn side [frame] →
        Untouched registry services version side frame) := by
  cases side with
  | clientSide =>
    obtain ⟨e, hemits, hquiet⟩ := emits_interceptServerbound (ι := ι) registry services
      version frame
    refine ⟨.continue, e, hemits.bind (emits_pure _) ?_, fun _ => hquiet⟩
    exact Effect.append_nil e
  | serverSide => exact emits_interceptClientbound registry services version frame

/-- A packet injected before each one. -/
def injectBefore : FrameOutput := ⟨[⟨0#32, []⟩], []⟩

theorem emits_around {side : ConnectionSide} {treatment : LoopM ι BackendAction}
    {action} (h : Emits treatment action e) :
    Emits (around side injectBefore treatment) action (writtenOn side [⟨0#32, []⟩] ++ e) := by
  have hpre : Emits (sendInjectedFrames (writeOn side) injectBefore true false : LoopM ι Unit)
      () (writtenOn side [⟨0#32, []⟩]) :=
    ((emits_writeOn side _).bind (emits_pure ()) (Effect.append_nil _)).bind (emits_pure ())
      (Effect.append_nil _)
  have hafter : Emits (sendInjectedFrames (writeOn side) injectBefore false true : LoopM ι Unit)
      () ⟨[], [], []⟩ := emits_pure ()
  refine hpre.bind ?_ rfl
  exact h.bind (hafter.bind (emits_pure action) rfl) (Effect.append_nil e)

end Emits

/-- A session in the Play state whose writers take every frame. -/
def lenientSession (version : ProtocolVersion) : Session Injector :=
  { filteredSession ⟨[]⟩ with
    client := { loginSession.client with
      encoder := lenientEncoder, protocolVersion := version, state := .play }
    backend := { loginSession.backend with encoder := lenientEncoder, state := .play } }

/-- A packet that injections do not get past any stage is one that no stage handles. -/
theorem untouched_of_passesAlike {registry : PacketRegistry} {services : ProxyServices}
    {version side}
    (h : PassesAlike registry services version side frame) :
    Untouched registry services version side frame := by
  let chain (output : FrameOutput) : CodecFilterChain Injector :=
    { instances := [⟨output⟩], context := ⟨version, .play, 1, side⟩ }
  have hplay : stateOf (lenientSession version) side = .play := by cases side <;> rfl
  have hinjects : (chain injectBefore).process (frameToRaw frame)
      = (.passWithInjections injectBefore, frameToRaw frame, chain injectBefore) := rfl
  -- What the code does with the packet, and what it should do.
  have hcode : handle registry services side frame
      (setChain side (chain injectBefore) (lenientSession version)) = _ :=
    handle_of_injections hplay rfl hinjects
  have hspec := (h Injector (lenientSession version) (chain ⟨[], []⟩) (chain ⟨[], []⟩)
    (chain injectBefore) (chain injectBefore) injectBefore hplay rfl rfl hinjects).2
  obtain ⟨action, e, hemits, hquiet⟩ := emits_intercept (ι := Injector) registry services
    version side frame
  have hwrites : Emits (do writeOn side frame; return .continue : LoopM Injector BackendAction)
      .continue (writtenOn side [frame]) :=
    (emits_writeOn side frame).bind (emits_pure _) (Effect.append_nil _)
  obtain ⟨haction, heffect⟩ := (emits_around hemits).unique (emits_around hwrites)
    (by cases side <;> exact ⟨rfl, rfl, rfl, rfl⟩) (hspec.symm.trans hcode)
  exact hquiet haction (Effect.append_cancel heffect)

/-- The treatment of a packet does not depend on whether the filters inject something exactly
when no stage behind them has anything to do with the packet. -/
theorem passesAlike_iff_untouched (registry : PacketRegistry) (services : ProxyServices)
    (version : ProtocolVersion) (side : ConnectionSide) (frame : PacketFrame) :
    PassesAlike registry services version side frame ↔
      Untouched registry services version side frame := by
  refine ⟨untouched_of_passesAlike, ?_⟩
  intro h ι _ s plain plain' injecting injecting' output hplay hver hpass hinjects
  refine ⟨handle_of_process hplay hver hpass, ?_⟩
  rw [handle_of_injections hplay hver hinjects, intercept_of_untouched h]

/-- The packet with which a 1.21 client announces its chat session is dropped. With a filter
that injects a packet before it, it reaches the backend. -/
theorem chatSession_passes_with_injection :
    let registry := buildDefaultRegistry bareDecoders
    let chatSession : PacketFrame := { id := 0x07#32, payload := [] }
    let chain (output : FrameOutput) : CodecFilterChain Injector :=
      { instances := [⟨output⟩], context := ⟨.V1_21, .play, 1, .clientSide⟩ }
    let written (output : FrameOutput) : List PacketFrame :=
      (final (handle registry idleServices .clientSide chatSession)
        (setChain .clientSide (chain output) (lenientSession .V1_21))).backend.written
    written ⟨[], []⟩ = [] ∧
    written injectBefore = [{ id := 0#32, payload := [] }, chatSession] ∧
    ¬ PassesAlike registry idleServices .V1_21 .clientSide chatSession := by
  intro registry chatSession chain written
  have hid : registry.getPacketId .chatSessionUpdate .play .serverbound .V1_21 = some 0x07#32 := by
    decide
  refine ⟨by decide, by decide, fun h => ?_⟩
  exact (untouched_of_passesAlike h).1 hid.symm

end ProxyLoop

end Infrarust
