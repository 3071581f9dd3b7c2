import Infrarust.Proofs.Core.CodecFilter
import Infrarust.Proofs.Protocol.Phases

/-!
# `Infrarust.Proofs.Core.PhaseTracking`: the state in which the loop reads a frame

The loop keeps the state of the connection in both bridges and reads every frame in it. It
moves on when the client acknowledges the end of Login or Config. A server may also take a
playing client back to Config. The loop forwards its StartConfiguration and the client's
answer as any other Play packets, and from then on reads Config frames as Play frames
(`reconfiguration_not_followed`). It does not follow a version that its registry does not know
at all.

`Link` puts a session between two peers that follow the protocol, with the frames that are on
their way. Without a second configuration, and as long as plugins forge no request, the loop is
the relay of `Relay` (`Link.undisturbedStep_inv`), so every frame is read in the state its sender
was in (`sender_states_followed`).
-/

set_option autoImplicit false

namespace Infrarust

open Hoare (Keeps Ensures Attempts final)
open List Machine Option

/-! ### The acknowledgements in the registry -/

/-- The registry has the ids of a version, and the version has a Config state. -/
def ProtocolVersion.Known (version : ProtocolVersion) : Prop :=
  version ∈ ProtocolVersion.SUPPORTED ∧ version.noLessThan .V1_20_2 = true
deriving Decidable

/-- The two acknowledgements are registered in their states, under the ids of the protocol. -/
theorem ack_ids {state} : ∀ version ∈ ProtocolVersion.SUPPORTED,
    version.noLessThan .V1_20_2 = true → ∀ hit ∈ registered state .serverbound version,
      (hit.1 = .loginAcknowledged → state = .login) ∧
      (hit.1 = .acknowledgeFinishConfig → state = .config) ∧
      ((hit.1 = .loginAcknowledged ∨ hit.1 = .acknowledgeFinishConfig) →
        some hit.2.id = followedAck version state) := by
  cases state <;> decide +kernel

theorem ack_decoders : ∀ version ∈ ProtocolVersion.SUPPORTED, version.noLessThan .V1_20_2 = true →
      ((registered .login .serverbound version).find? (·.decodes 0x03)).map (·.1)
        = some .loginAcknowledged ∧
      ((registered .config .serverbound version).find? (·.decodes
        version.finishConfigurationId)).map (·.1) = some .acknowledgeFinishConfig := by
  decide +kernel

variable {decoders : PacketDecoders} {version : ProtocolVersion} {state : ConnectionState}
  {frame : PacketFrame} {id : I32}

/-- A frame that the registry decodes as an acknowledgement is the one of its state. -/
theorem followedAck_of_decoded (hknown : version.Known) {packet}
    (hpkt : packet = .loginAcknowledged ∨ packet = .acknowledgeFinishConfig)
    (h : (buildDefaultRegistry decoders).decodeFrame frame state .serverbound version
      = .ok (.typed id packet)) :
    some frame.id = followedAck version state ∧
      (packet = .loginAcknowledged → state = .login) ∧
      (packet = .acknowledgeFinishConfig → state = .config) := by
  obtain ⟨hit, hhit, htype, hid⟩ := decodeFrame_typed h
  obtain ⟨hlogin, hcfg, hids⟩ := ack_ids version hknown.1 hknown.2 hit hhit
  rw [hid]
  obtain rfl | rfl := hpkt
  · exact ⟨hids (.inl htype), fun _ => hlogin htype, nofun⟩
  · exact ⟨hids (.inr htype), nofun, fun _ => hcfg htype⟩

/-- A frame with the id of an acknowledgement is decoded as one. -/
theorem decoded_of_followedAck (hknown : version.Known)
    (h : some frame.id = followedAck version state) :
    ∃ packet, (packet = .loginAcknowledged ∨ packet = .acknowledgeFinishConfig) ∧
      (buildDefaultRegistry decoders).decodeFrame frame state .serverbound version
        = .ok (.typed frame.id packet) := by
  obtain ⟨hlogin, hcfg⟩ := ack_decoders version hknown.1 hknown.2
  cases state with
  | login =>
    have hid : frame.id = 0x03 := Option.some.inj h
    rw [← hid] at hlogin
    exact ⟨_, .inl rfl, decodeFrame_of_find hlogin fun _ => rfl⟩
  | config =>
    have hid : frame.id = version.finishConfigurationId := Option.some.inj h
    rw [← hid] at hcfg
    exact ⟨_, .inr rfl, decodeFrame_of_find hcfg fun _ => rfl⟩
  | play | handshake | status => cases h

namespace ProxyLoop

/-! ### What an iteration writes -/

variable {ι : Type}

section Progress

/-- From `s` on, the loop has come to the state `state` and has written some frames. -/
structure Progress (s : Session ι) (state : ConnectionState) (toClient toBackend : List PacketFrame)
    (s' : Session ι) : Prop where
  client_state : s'.client.state = state
  backend_state : s'.backend.state = state
  version : s'.client.protocolVersion = s.client.protocolVersion
  client_written : s'.client.written = s.client.written ++ toClient
  backend_written : s'.backend.written = s.backend.written ++ toBackend

variable {s : Session ι} {toClient toBackend : List PacketFrame}

theorem Progress.start (hcl : s.client.state = state) (hback : s.backend.state = state) :
    Progress s state [] [] s :=
  ⟨hcl, hback, rfl, (append_nil _).symm, (append_nil _).symm⟩

variable {s₁ : Session ι}

/-- A change of the session that concerns neither the states nor what was written. -/
theorem Progress.of_eq {s₂ : Session ι} (hs : Progress s state toClient toBackend s₁)
    (hcl : s₂.client.state = s₁.client.state) (hback : s₂.backend.state = s₁.backend.state)
    (hver : s₂.client.protocolVersion = s₁.client.protocolVersion)
    (hwrt : s₂.client.written = s₁.client.written)
    (hbackendWritten : s₂.backend.written = s₁.backend.written) :
    Progress s state toClient toBackend s₂ :=
  ⟨hcl.trans hs.client_state, hback.trans hs.backend_state, hver.trans hs.version,
    hwrt.trans hs.client_written, hbackendWritten.trans hs.backend_written⟩

/-- A write to the client succeeds and is recorded, or fails and leaves no record. -/
theorem attempts_clientWrite :
    Attempts (Progress s state toClient toBackend) (clientWrite frame)
      (Progress s state (toClient ++ [frame]) toBackend) := by
  intro s₁ hs
  obtain ⟨hst, hver, hwrt, hfail⟩ := s₁.client.writeFrame_spec frame
  unfold clientWrite
  rcases hw : s₁.client.writeFrame frame with ⟨e | ⟨⟩, client⟩
  · rw [hw] at hst hver hfail
    exact hs.of_eq hst rfl hver (hfail e rfl) rfl
  · rw [hw] at hst hver hwrt
    refine ⟨hst.trans hs.client_state, hs.backend_state, hver.trans hs.version, ?_,
      hs.backend_written⟩
    rw [hwrt rfl, hs.client_written, append_assoc]

theorem attempts_backendWrite :
    Attempts (Progress s state toClient toBackend) (backendWrite frame)
      (Progress s state toClient (toBackend ++ [frame])) := by
  intro s₁ hs
  obtain ⟨hst, hwrt, hfail⟩ := s₁.backend.writeFrame_spec frame
  unfold backendWrite
  rcases hw : s₁.backend.writeFrame frame with ⟨e | ⟨⟩, backend⟩
  · rw [hw] at hst hfail
    exact hs.of_eq rfl hst rfl rfl (hfail e rfl)
  · rw [hw] at hst hwrt
    refine ⟨hs.client_state, hst.trans hs.backend_state, hs.version, hs.client_written, ?_⟩
    rw [hwrt rfl, hs.backend_written, append_assoc]

theorem ensures_modifyChain {side f} :
    Ensures (Progress s state toClient toBackend) (modifyChain side f)
      (Progress s state toClient toBackend) := by
  refine Ensures.modify fun s₁ hs => ?_
  cases side <;> exact hs.of_eq rfl rfl rfl rfl rfl

theorem ensures_setStates {newState} :
    Ensures (Progress s state toClient toBackend) (setStates newState)
      (Progress s newState toClient toBackend) :=
  Ensures.modify fun _ hs => ⟨rfl, rfl, hs.version, hs.client_written, hs.backend_written⟩

/-- A command writes some of its frames to the client. -/
theorem handlePlayerCommand_progress (hcl : s.client.state = state)
    (hback : s.backend.state = state) {cmd} :
    ∃ toClient, (∀ frame ∈ toClient, frame ∈ commandFrames cmd) ∧
      Progress s state toClient [] (final (handlePlayerCommand cmd) s) := by
  have hkeeps : Keeps (fun s' => ∃ toClient, (∀ frame ∈ toClient, frame ∈ commandFrames cmd) ∧
      Progress s state toClient [] s') (handlePlayerCommand cmd) := by
    refine keeps_handlePlayerCommand fun frame hfr s₁ => ?_
    rintro ⟨toClient, hsub, hs⟩
    obtain hs | hs := attempts_clientWrite.final hs
    · exact ⟨toClient, hsub, hs⟩
    · refine ⟨toClient ++ [frame], fun other hother => ?_, hs⟩
      obtain hother | hother := mem_append.mp hother
      · exact hsub other hother
      · exact mem_singleton.mp hother ▸ hfr
  exact hkeeps s ⟨[], nofun, .start hcl hback⟩

variable [CodecFilterInstance ι]

/-- In the Login and the Config state the loop follows the client's acknowledgements. -/
theorem ensures_handleClientLogin (hknown : version.Known) :
    Ensures (Progress s state [] [])
      (handleClientLogin (buildDefaultRegistry decoders) version state frame)
      (Progress s (follow version state frame) [] [frame]) := by
  have hwr : Ensures (Progress s state [] []) (backendWrite frame) (Progress s state [] [frame]) :=
    attempts_backendWrite.ensures
  unfold handleClientLogin
  split
  case h_1 id hdec =>
    obtain ⟨hack, hlogin, -⟩ := followedAck_of_decoded hknown (.inl rfl) hdec
    obtain rfl := hlogin rfl
    rw [follow_of_eq hack]
    exact hwr.bind fun _ => ensures_setStates.bind fun _ =>
      ensures_modifyChain
  case h_2 id hdec =>
    obtain ⟨hack, -, hcfg⟩ := followedAck_of_decoded hknown (.inr rfl) hdec
    obtain rfl := hcfg rfl
    rw [follow_of_eq hack]
    exact hwr.bind fun _ => ensures_setStates.bind fun _ =>
      ensures_modifyChain
  case h_3 hlogin hcfg =>
    have hne : some frame.id ≠ followedAck version state := by
      intro hack
      obtain ⟨packet, hpkt, hdec⟩ := decoded_of_followedAck hknown hack
      obtain rfl | rfl := hpkt
      · exact hlogin _ hdec
      · exact hcfg _ hdec
    rw [follow_of_ne hne]
    exact hwr

/-- From 1.20.2 on no frame of the backend changes the state. -/
theorem ensures_handleBackendLogin {registry} (hver : version.lessThan .V1_20_2 = false) :
    Ensures (Progress s state [] []) (handleBackendLogin registry version state frame)
      (Progress s state [frame] []) := by
  have hwr (action : BackendAction) : Ensures (Progress s state [] [])
      (do clientWrite frame; return action : LoopM ι BackendAction) (Progress s state [frame] []) :=
    attempts_clientWrite.ensures.bind fun _ => Ensures.pure action
  have hreply := loginReply (ι := ι) registry version state frame
  generalize loginCalls registry version state frame = calls,
    handleBackendLogin (ι := ι) registry version state frame = m at hreply ⊢
  cases hreply with
  | forward action => exact hwr action
  | collect call =>
    exact Ensures.bind (Ensures.modify fun _ hs => hs.of_eq rfl rfl rfl rfl rfl) fun _ => hwr _
  | compression =>
    refine Ensures.bind (Q := Progress s state [] []) (Ensures.modify fun _ hs => ?_) fun _ =>
      Ensures.bind (Q := Progress s state [] []) (Ensures.modify fun _ hs => ?_) fun _ =>
        attempts_clientWrite.ensures.bind fun _ =>
          ensures_modifyChain.bind fun _ => Ensures.pure _
    all_goals exact hs.of_eq rfl rfl rfl rfl rfl
  | success h hold => cases hver.symm.trans hold

/-- In the Play state the loop writes frames and changes no state. -/
theorem playStable_progress {s : Session ι} :
    PlayStable fun s' => ∃ toClient toBackend, Progress s .play toClient toBackend s' where
  clientWrite frame s₁ := by
    rintro ⟨toClient, toBackend, hs⟩
    obtain hs | hs := attempts_clientWrite.final hs
    all_goals exact ⟨_, _, hs⟩
  backendWrite frame s₁ := by
    rintro ⟨toClient, toBackend, hs⟩
    obtain hs | hs := attempts_backendWrite.final hs
    all_goals exact ⟨_, _, hs⟩
  serviceCall call s₁ := by
    rintro ⟨toClient, toBackend, hs⟩
    exact ⟨toClient, toBackend, hs.of_eq rfl rfl rfl rfl rfl⟩
  filtered s₁ side raw := by
    rintro ⟨toClient, toBackend, hs⟩
    refine ⟨toClient, toBackend, ?_⟩
    cases side <;> exact hs.of_eq rfl rfl rfl rfl rfl

/-! ### The iterations -/

variable {registry : PacketRegistry} {services : ProxyServices}

theorem progress_client_play (hcl : s.client.state = .play) (hback : s.backend.state = .play) :
    ∃ toClient toBackend, Progress s .play toClient toBackend
      (proxyStep registry s (.client (.ok (some frame)) services)).1 := by
  rw [proxyStep_client_fst]
  show ∃ toClient toBackend, Progress s .play toClient toBackend
    (final (if s.client.state = .play then _ else _) s)
  rw [if_pos hcl]
  exact playStable_progress.handleClientPlay registry services _ frame s ⟨[], [], .start hcl hback⟩

theorem progress_backend_play (hcl : s.client.state = .play) (hback : s.backend.state = .play) :
    ∃ toClient toBackend, Progress s .play toClient toBackend
      (proxyStep registry s (.backend (.ok (some frame)) services)).1 := by
  rw [proxyStep_backend_fst]
  show ∃ toClient toBackend, Progress s .play toClient toBackend
    (final (if s.backend.state = .play then _ else _) s)
  rw [if_pos hback]
  exact playStable_progress.handleBackendPlay registry services _ frame s ⟨[], [], .start hcl hback⟩

/-- A loop that goes on has forwarded the frame and followed it. -/
theorem progress_client_login (hknown : version.Known)
    (hver : s.client.protocolVersion = version) (hplay : s.client.state ≠ .play)
    (hsame : s.backend.state = s.client.state)
    (hgoes : (proxyStep (buildDefaultRegistry decoders) s
      (.client (.ok (some frame)) services)).2 = none) :
    Progress s (follow version s.client.state frame) [] [frame]
      (proxyStep (buildDefaultRegistry decoders) s (.client (.ok (some frame)) services)).1 := by
  have hhdlr : handleClientToBackend (buildDefaultRegistry decoders) services frame s =
      handleClientLogin (buildDefaultRegistry decoders) version s.client.state frame s := by
    show (if s.client.state = .play then _ else _ : LoopM ι Unit) s = _
    rw [if_neg hplay, hver]
  rw [proxyStep_client_fst]
  unfold final
  simp only [proxyStep] at hgoes
  rw [hhdlr] at hgoes ⊢
  cases hrun : handleClientLogin (buildDefaultRegistry decoders) version s.client.state frame s with
  | error e s' =>
    rw [hrun] at hgoes
    dsimp only at hgoes
    split at hgoes <;> cases hgoes
  | ok u s' => exact ensures_handleClientLogin hknown s u s' (.start rfl hsame) hrun

theorem progress_backend_login (hknown : version.Known)
    (hver : s.client.protocolVersion = version) (hplay : s.client.state ≠ .play)
    (hsame : s.backend.state = s.client.state)
    (hgoes : (proxyStep registry s (.backend (.ok (some frame)) services)).2 = none) :
    Progress s s.client.state [frame] []
      (proxyStep registry s (.backend (.ok (some frame)) services)).1 := by
  have hmodern : version.lessThan .V1_20_2 = false := by
    have hle := hknown.2
    simp only [ProtocolVersion.noLessThan, decide_eq_true_eq] at hle
    simpa [ProtocolVersion.lessThan] using hle
  have hhdlr : handleBackendToClient registry services frame s =
      handleBackendLogin registry version s.client.state frame s := by
    show (if s.backend.state = .play then _ else _ : LoopM ι BackendAction) s = _
    rw [hsame, if_neg hplay, hver]
  rw [proxyStep_backend_fst]
  unfold final
  simp only [proxyStep] at hgoes
  rw [hhdlr] at hgoes ⊢
  cases hrun : handleBackendLogin registry version s.client.state frame s with
  | error e s' =>
    rw [hrun] at hgoes
    cases hgoes
  | ok action s' =>
    exact ensures_handleBackendLogin hmodern s action s' (.start rfl hsame) hrun

end Progress

/-! ### The loop between two peers -/

/-- A session of the loop and its two peers. The frames on their way to the loop come with the
state their sender was in. The peers read what the bridges have written, and each has a count
of the frames it has read. -/
structure Link (ι : Type) where
  session : Session ι
  /-- The loop has ended. -/
  ended : Bool
  client : ClientPeer
  clientRead : Nat
  backend : BackendPeer
  backendRead : Nat
  fromClient : List (ConnectionState × PacketFrame)
  fromBackend : List (ConnectionState × PacketFrame)

inductive LinkEvent where
  | clientSends (frame : PacketFrame)
  | clientReads
  | backendSends (frame : PacketFrame)
  | backendReads
  /-- The loop handles the next frame of the client. -/
  | clientFrame (services : ProxyServices)
  /-- The loop handles the next frame of the backend. -/
  | backendFrame (services : ProxyServices)
  | command (cmd : PlayerCommand)

namespace Link

/-- Both peers are in the state of the session, and nothing is on its way. -/
def start (s : Session ι) : Link ι where
  session := s
  ended := false
  client := ⟨s.client.state, false⟩
  clientRead := s.client.written.length
  backend := ⟨s.client.state, false⟩
  backendRead := s.backend.written.length
  fromClient := []
  fromBackend := []

/-- The loop reads the next frame of each side in the state its sender was in. -/
def Followed (l : Link ι) : Prop :=
  l.ended = false →
    (∀ x ∈ l.fromClient.head?, x.1 = l.session.client.state) ∧
    ∀ x ∈ l.fromBackend.head?, x.1 = l.session.backend.state
deriving Decidable

/-- The relay that the loop is. -/
def relay (l : Link ι) : Relay where
  state := l.session.client.state
  client := l.client
  backend := l.backend
  fromClient := l.fromClient
  fromBackend := l.fromBackend
  toClient := l.session.client.written.drop l.clientRead
  toBackend := l.session.backend.written.drop l.backendRead

/-- What holds as long as the loop runs. -/
structure Inv (version : ProtocolVersion) (l : Link ι) : Prop where
  same : l.session.backend.state = l.session.client.state
  version_eq : l.session.client.protocolVersion = version
  client_le : l.clientRead ≤ l.session.client.written.length
  backend_le : l.backendRead ≤ l.session.backend.written.length
  relay : l.relay.Inv version

variable {toClient toBackend : List PacketFrame}
  {fromClient fromBackend : List (ConnectionState × PacketFrame)}

section Keeps

variable {l : Link ι}

theorem start_inv {s : Session ι} (hsame : s.backend.state = s.client.state)
    (hver : s.client.protocolVersion = version) : (start s).Inv version where
  same := hsame
  version_eq := hver
  client_le := Nat.le_refl _
  backend_le := Nat.le_refl _
  relay := by
    simp only [relay, start, drop_length]
    exact .idle rfl nofun (lacks_nil _) (lacks_nil _)

theorem Inv.followed (hs : l.Inv version) : l.Followed := by
  intro _
  constructor
  · intro x hx
    obtain ⟨rest, hrest⟩ := List.head?_eq_some_iff.mp hx
    exact hs.relay.client_state_eq hrest
  · intro x hx
    obtain ⟨rest, hrest⟩ := List.head?_eq_some_iff.mp hx
    rw [hs.same]
    exact hs.relay.backend_state_eq hrest

/-- An iteration keeps the invariant if the relay takes a step. -/
theorem Inv.of_progress {s} {ended : Bool} (hs : l.Inv version)
    (h : Progress l.session state toClient toBackend s) (hstep : RelayStep version l.relay
      { l.relay with
        state, fromClient, fromBackend
        toClient := l.relay.toClient ++ toClient
        toBackend := l.relay.toBackend ++ toBackend }) :
    Inv version { l with session := s, ended, fromClient, fromBackend } where
  same := h.backend_state.trans h.client_state.symm
  version_eq := h.version.trans hs.version_eq
  client_le := by
    rw [h.client_written, length_append]
    exact Nat.le_trans hs.client_le (Nat.le_add_right _ _)
  backend_le := by
    rw [h.backend_written, length_append]
    exact Nat.le_trans hs.backend_le (Nat.le_add_right _ _)
  relay := by
    simp only [Link.relay, h.client_state, h.client_written, h.backend_written,
      drop_append_of_le_length hs.client_le, drop_append_of_le_length hs.backend_le]
    exact hs.relay.step hstep

theorem Inv.clientReads (hs : l.Inv version)
    (h : l.session.client.written[l.clientRead]? = some frame) :
    Inv version
      { l with client := l.client.read version frame, clientRead := l.clientRead + 1 } := by
  obtain ⟨hlt, hget⟩ := List.getElem?_eq_some_iff.mp h
  have hdrop : l.relay.toClient = frame :: l.session.client.written.drop (l.clientRead + 1) := by
    rw [← hget]
    exact drop_eq_getElem_cons hlt
  exact ⟨hs.same, hs.version_eq, hlt, hs.backend_le, hs.relay.step (.clientReads hdrop)⟩

theorem Inv.backendReads (hs : l.Inv version)
    (h : l.session.backend.written[l.backendRead]? = some frame) :
    Inv version
      { l with backend := l.backend.read version frame, backendRead := l.backendRead + 1 } := by
  obtain ⟨hlt, hget⟩ := List.getElem?_eq_some_iff.mp h
  have hdrop : l.relay.toBackend = frame :: l.session.backend.written.drop (l.backendRead + 1) := by
    rw [← hget]
    exact drop_eq_getElem_cons hlt
  exact ⟨hs.same, hs.version_eq, hs.client_le, hlt, hs.relay.step (.backendReads hdrop)⟩

end Keeps

section Steps

variable [CodecFilterInstance ι] (registry : PacketRegistry) (version : ProtocolVersion)

/-- The loop takes an iteration. -/
def iterate (l : Link ι) (event : LoopEvent) : Link ι :=
  let r := proxyStep registry l.session event
  { l with session := r.1, ended := r.2.isSome }

def next (l : Link ι) : LinkEvent → Option (Link ι)
  | .clientSends frame =>
    (l.client.send version frame).map fun client =>
      { l with client, fromClient := l.fromClient ++ [(l.client.state, frame)] }
  | .clientReads =>
    l.session.client.written[l.clientRead]?.map fun frame =>
      { l with client := l.client.read version frame, clientRead := l.clientRead + 1 }
  | .backendSends frame =>
    (l.backend.send version frame).map fun backend =>
      { l with backend, fromBackend := l.fromBackend ++ [(l.backend.state, frame)] }
  | .backendReads =>
    l.session.backend.written[l.backendRead]?.map fun frame =>
      { l with backend := l.backend.read version frame, backendRead := l.backendRead + 1 }
  | .clientFrame services =>
    match l.ended, l.fromClient with
    | false, x :: rest =>
      some { l.iterate registry (.client (.ok (some x.2)) services) with fromClient := rest }
    | _, _ => none
  | .backendFrame services =>
    match l.ended, l.fromBackend with
    | false, x :: rest =>
      some { l.iterate registry (.backend (.ok (some x.2)) services) with fromBackend := rest }
    | _, _ => none
  | .command cmd => if l.ended then none else some (l.iterate registry (.command cmd))

/-- The frames that an iteration writes to the client. -/
def writes (l : Link ι) (event : LoopEvent) : List PacketFrame :=
  (l.iterate registry event).session.client.written.drop l.session.client.written.length

/-- The backend does not configure a playing client again, and no frame that is written to a
playing client asks it to leave the Play state. A plugin's command has no packet that a client
in the present or a later state would take for a request. -/
def Undisturbed (l : Link ι) : LinkEvent → Prop
  | .backendSends frame =>
    l.backend.state = .play → some frame.id ≠ version.requestId .play
  | .clientFrame services => l.session.client.state = .play →
      ∀ x ∈ l.fromClient.head?, Lacks (version.requestId .play)
        (l.writes registry (.client (.ok (some x.2)) services))
  | .backendFrame services => l.session.client.state = .play →
      ∀ x ∈ l.fromBackend.head?, Lacks (version.requestId .play)
        (l.writes registry (.backend (.ok (some x.2)) services))
  | .command cmd => Silent version (l.session.client.state :: l.session.client.state.later)
      (commandFrames cmd)
  | _ => True

instance (l : Link ι) : DecidablePred (l.Undisturbed registry version) := fun event => by
  unfold Undisturbed
  split <;> infer_instance

def Step (l : Link ι) (event : LinkEvent) (l' : Link ι) : Prop :=
  l.next registry version event = some l'

def UndisturbedStep (l : Link ι) (event : LinkEvent) (l' : Link ι) : Prop :=
  l.Undisturbed registry version event ∧ l.next registry version event = some l'

end Steps

variable [CodecFilterInstance ι] {version : ProtocolVersion} {l l' : Link ι}

variable {registry : PacketRegistry} {event : LoopEvent}

theorem writes_of_progress
    (h : Progress l.session state toClient toBackend (proxyStep registry l.session event).1) :
    l.writes registry event = toClient := by
  show List.drop _ (proxyStep registry l.session event).1.client.written = _
  rw [h.client_written, drop_left]

/-- An iteration in the Play state keeps the invariant if it forges no request. -/
theorem Inv.play (hs : l.Inv version) (hplay : l.session.client.state = .play)
    (h : ∃ toClient toBackend, Progress l.session .play toClient toBackend
      (proxyStep registry l.session event).1)
    (hlacks : Lacks (version.requestId .play) (l.writes registry event))
    (hclients : fromClient <:+ l.fromClient) (hbackends : fromBackend <:+ l.fromBackend) :
    Inv version { l.iterate registry event with fromClient, fromBackend } := by
  obtain ⟨toClient, toBackend, hprog⟩ := h
  rw [writes_of_progress hprog] at hlacks
  refine hs.of_progress hprog ?_
  have hst : l.relay.state = .play := hplay
  rw [← hst]
  exact .play hst hclients hbackends hlacks

/-- The loop handles a frame. In the Play state it forges no request, and before it the relay
forwards the frame unless the loop ends. -/
theorem Inv.iterate (hs : l.Inv version)
    (hplay : l.session.client.state = .play → Lacks (version.requestId .play)
      (l.writes registry event) ∧ ∃ toClient toBackend, Progress l.session .play toClient toBackend
        (proxyStep registry l.session event).1)
    (hlogin : l.session.client.state ≠ .play → (proxyStep registry l.session event).2 = none →
      Progress l.session state toClient toBackend (proxyStep registry l.session event).1)
    (hstep : l.session.client.state ≠ .play → RelayStep version l.relay
      { l.relay with
        state, fromClient, fromBackend
        toClient := l.relay.toClient ++ toClient
        toBackend := l.relay.toBackend ++ toBackend })
    (hclients : fromClient <:+ l.fromClient) (hbackends : fromBackend <:+ l.fromBackend) :
    (l.iterate registry event).ended = true ∨
      Inv version { l.iterate registry event with fromClient, fromBackend } := by
  by_cases hst : l.session.client.state = .play
  · obtain ⟨hlacks, hprog⟩ := hplay hst
    exact .inr (hs.play hst hprog hlacks hclients hbackends)
  · cases hended : (l.iterate registry event).ended with
    | true => exact .inl rfl
    | false =>
      have hgoes : (proxyStep registry l.session event).2 = none :=
        not_isSome_iff_eq_none.mp (Bool.eq_false_iff.mp hended)
      exact .inr (hs.of_progress (hlogin hst hgoes) (hstep hst))

theorem Inv.command {cmd} (hs : l.Inv version)
    (hsilent : Silent version (l.session.client.state :: l.session.client.state.later)
      (commandFrames cmd)) :
    Inv version (l.iterate registry (.command cmd)) := by
  obtain ⟨toClient, hsub, hprog⟩ := handlePlayerCommand_progress rfl hs.same
  rw [← proxyStep_command_fst] at hprog
  refine hs.of_progress hprog ?_
  rw [append_nil]
  exact .say fun state hst frame hfr => hsilent state hst frame (hsub frame hfr)

theorem undisturbedStep_inv (hknown : version.Known) {event}
    (h : l.UndisturbedStep (buildDefaultRegistry decoders) version event l')
    (hs : l.ended = true ∨ l.Inv version) : l'.ended = true ∨ l'.Inv version := by
  obtain ⟨hcalm, hnext⟩ := h
  cases event with
  | clientSends frame =>
    obtain ⟨client, hsend, rfl⟩ := map_eq_some_iff.mp hnext
    exact hs.imp_right fun hs => { hs with relay := hs.relay.step (.clientSends hsend) }
  | clientReads =>
    obtain ⟨frame, hfr, rfl⟩ := map_eq_some_iff.mp hnext
    exact hs.imp_right fun hs => hs.clientReads hfr
  | backendSends frame =>
    obtain ⟨backend, hsend, rfl⟩ := map_eq_some_iff.mp hnext
    exact hs.imp_right fun hs =>
      { hs with relay := hs.relay.step (.backendSends hsend hcalm) }
  | backendReads =>
    obtain ⟨frame, hfr, rfl⟩ := map_eq_some_iff.mp hnext
    exact hs.imp_right fun hs => hs.backendReads hfr
  | clientFrame services =>
    simp only [next] at hnext
    split at hnext <;> cases hnext
    case h_1 x rest hended hfrom =>
      have hs := hs.resolve_left (by simp [hended])
      refine hs.iterate (fun hplay => ⟨hcalm hplay x (by rw [hfrom]; rfl), ?_⟩)
        (progress_client_login hknown hs.version_eq · hs.same) (fun hplay => ?_)
        (hfrom ▸ suffix_cons ..) (suffix_refl _)
      · exact progress_client_play hplay (hs.same.trans hplay)
      · rw [append_nil]
        exact .forwardClient hfrom hplay
  | backendFrame services =>
    simp only [next] at hnext
    split at hnext <;> cases hnext
    case h_1 x rest hended hfrom =>
      have hs := hs.resolve_left (by simp [hended])
      refine hs.iterate (fun hplay => ⟨hcalm hplay x (by rw [hfrom]; rfl), ?_⟩)
        (progress_backend_login hknown hs.version_eq · hs.same) (fun hplay => ?_)
        (suffix_refl _) (hfrom ▸ suffix_cons ..)
      · exact progress_backend_play hplay (hs.same.trans hplay)
      · rw [append_nil]
        exact .forwardBackend hfrom hplay
  | command cmd =>
    simp only [next] at hnext
    split at hnext
    case isTrue => cases hnext
    case isFalse hended =>
      cases hnext
      exact .inr ((hs.resolve_left hended).command hcalm)

/-- In a run between peers that follow the protocol, of a version that the registry knows and
all of whose steps are `Undisturbed`, the loop reads every frame in the state its sender was
in. -/
theorem sender_states_followed (decoders : PacketDecoders) (hknown : version.Known)
    {s : Session ι} (hsame : s.backend.state = s.client.state)
    (hver : s.client.protocolVersion = version) {events : List LinkEvent}
    (hrun : Run (UndisturbedStep (buildDefaultRegistry decoders) version) (start s) events
      l) :
    l.Followed := by
  have hl : l.ended = true ∨ l.Inv version :=
    hrun.invariant (fun _ _ _ hstep => undisturbedStep_inv hknown hstep)
      (.inr (start_inv hsame hver))
  obtain hended | hl := hl
  · intro hrng
    rw [hended] at hrng
    cases hrng
  · exact hl.followed

/-! ### A second configuration, and a version that is too new -/

/-- The backend sends a request, the loop forwards it and the client reads it, and the client's
answer takes the same way back. -/
def round (request ack : I32) : List LinkEvent :=
  [.backendSends ⟨request, []⟩, .backendFrame idleServices, .clientReads,
    .clientSends ⟨ack, []⟩, .clientFrame idleServices, .backendReads]

/-- A login through Config to Play, in 1.21. -/
def joining : List LinkEvent := round 0x02 0x03 ++ round 0x03 0x03

/-- A login with a protocol version behind the last one that the registry has. -/
def tooNew : Session Empty :=
  { loginSession with client := { loginSession.client with protocolVersion := ⟨775⟩ } }

/-- After StartConfiguration and its acknowledgement the backend sends a frame of the Config
state, which the loop will read as one of the Play state. A client of an unknown version
acknowledges the login, and the loop will read its next frame as one of the Login state. -/
theorem reconfiguration_not_followed :
    (∃ l, Run (Step (buildDefaultRegistry bareDecoders) .V1_21) (start loginSession)
      (joining ++ round 0x69 0x0C ++ [.backendSends ⟨0x07, []⟩]) l ∧
      l.ended = false ∧ l.fromBackend = [(.config, ⟨0x07, []⟩)] ∧
      l.session.backend.state = .play ∧ ¬l.Followed) ∧
    ∃ l, Run (Step (buildDefaultRegistry bareDecoders) ⟨775⟩) (start tooNew)
      (round 0x02 0x03 ++ [.clientSends ⟨0x00, []⟩]) l ∧
      l.ended = false ∧ l.fromClient = [(.config, ⟨0x00, []⟩)] ∧
      l.session.client.state = .login ∧ ¬l.Followed := by
  constructor
  all_goals
    refine exists_run (fun _ _ _ h => h) ?_
    rw [buildDefaultRegistry_eq]
    decide

/-- A login up to the first Play frame of the client. -/
theorem sender_states_followed_joining :
    ∃ l, Run (UndisturbedStep (buildDefaultRegistry bareDecoders) .V1_21)
      (start loginSession) (joining ++ [.clientSends ⟨0x00, []⟩]) l ∧
      l.ended = false ∧ l.fromClient = [(.play, ⟨0x00, []⟩)] ∧ l.Followed := by
  refine exists_run_guarded
    (P := fun l => l.ended = false ∧ l.fromClient = [(.play, ⟨0x00, []⟩)]) ?_ ?_
  · rw [buildDefaultRegistry_eq]
    decide
  · rintro l hrun ⟨hended, hfrom⟩
    have hknown : ProtocolVersion.V1_21.Known := by decide
    exact ⟨hended, hfrom, sender_states_followed bareDecoders hknown rfl rfl hrun⟩

end Link

end ProxyLoop

end Infrarust
