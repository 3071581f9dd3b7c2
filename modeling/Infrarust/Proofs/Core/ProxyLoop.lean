import Infrarust.Lib.Hoare
import Infrarust.Lib.Machine
import Infrarust.Core.Limbo.RegistryCache
import Infrarust.Proofs.Protocol.Packet

/-!
# `Infrarust.Proofs.Core.ProxyLoop`: what the client reads during login

The peer of the client bridge decrypts what the proxy sends, starts without compression, and
switches it on right after a frame that announces it. It should read exactly the frames that
the loop handed to the client writer.

It does as long as the loop hands over no such announcement (`peer_reads_written`). The
announcement itself is the exception. `handle_backend_to_client` switches the client's
encoder before it writes the frame, so the frame leaves the proxy in the compressed format,
which the peer does not expect yet (`peer_misreads_setCompression`). The other branches of the
handler write first and change state afterwards.

The invariant `InStep` is about the client bridge alone. Either everything sent so far
decodes to the accepted frames with nothing pending, or a write was cut short. Then no
further byte can be sent, and the cut frame is not decoded.
-/

set_option autoImplicit false

namespace Infrarust

open Framing (Framer Step Status)
open StoredZlib PacketDecoder Machine List

namespace ProxyLoop

/-! ### The peer -/

variable (registry : PacketRegistry) (version : ProtocolVersion)

/-- The threshold that a frame announces to a client in the Login state. -/
def announces (frame : PacketFrame) : Option I32 :=
  match registry.decodeFrame frame .login .clientbound version with
  | .ok (.typed _ (.setCompression threshold)) => some threshold
  | _ => none

/-- What the peer's decoder does right after a frame. -/
def afterFrame (frame : PacketFrame) (_ : Unit) (d : PacketDecoder) : PacketDecoder × Unit :=
  match announces registry version frame with
  | some threshold => (d.setCompression threshold, ())
  | none => (d, ())

/-- The decoder of a client that follows the announcements. -/
def peer : Framer (PacketDecoder × Unit) UInt8 PacketFrame ProtocolError :=
  framer.hooked (afterFrame registry version) (by
      intro frame _ d t
      unfold afterFrame
      cases announces registry version frame <;> rfl)
    (by
      intro frame _ d
      unfold afterFrame
      cases announces registry version frame <;> rfl)

/-- The bytes that a peer with the proxy's cipher state gets out of the stream. -/
def decryptWith : Option EncryptCipher → Bytes → Bytes
  | none, data => data
  | some cipher, data => (Cfb8.decrypt cipher.keystream cipher.register data).1

/-- What the peer reads from `sent` when it starts with the cipher state `cipher` and without
compression. -/
def peerReads (z : ZlibDecompressor) (cipher : Option EncryptCipher) (sent : Bytes) :
    List PacketFrame × Status (PacketDecoder × Unit) ProtocolError :=
  (peer registry version).drain
    ((peer registry version).push (PacketDecoder.new z, ()) (decryptWith cipher sent))

variable (cipher : Option EncryptCipher)

theorem decryptWith_encryptWith (plain data n) :
    decryptWith cipher ((encryptWith cipher plain).1
        ++ ((encryptWith (encryptWith cipher plain).2 data).1.take n))
      = plain ++ data.take n := by
  cases cipher with
  | none => rfl
  | some cipher =>
    simp only [decryptWith, encryptWith, EncryptCipher.encrypt, Cfb8.decrypt_append,
      Cfb8.decrypt_encrypt, Cfb8.decrypt_take]

theorem encryptWith_append (plain data) :
    encryptWith cipher (plain ++ data)
      = ((encryptWith cipher plain).1 ++ (encryptWith (encryptWith cipher plain).2 data).1,
          (encryptWith (encryptWith cipher plain).2 data).2) := by
  cases cipher with
  | none => rfl
  | some cipher => simp only [encryptWith, EncryptCipher.encrypt, Cfb8.encrypt_append]

theorem length_encryptWith (data) : (encryptWith cipher data).1.length = data.length := by
  cases cipher with
  | none => rfl
  | some cipher => exact Cfb8.length_encrypt _ _ _

/-! ### One write -/

/-- The client bridge is in step with the peer. `start` is the cipher state at the start of
the loop. -/
structure InStep (registry : PacketRegistry) (version : ProtocolVersion)
    (z : ZlibDecompressor) (start : Option EncryptCipher) (c : ClientBridge) : Prop where
  version_eq : c.protocolVersion = version
  threshold : c.encoder.compressionThreshold = none
  buf : c.encoder.buf = []
  stream :
    -- All that was sent belongs to accepted frames.
    (∃ plain, encryptWith start plain = (c.stream.sent, c.encryptCipher) ∧
      (peer registry version).drain ((peer registry version).push (PacketDecoder.new z, ()) plain)
        = (c.written, .waiting (PacketDecoder.new z, ()))) ∨
    -- A write was cut short.
    (c.stream.budget = some 0 ∧
      ∃ st, peerReads registry version z start c.stream.sent = (c.written, .waiting st))

variable {c : ClientBridge} {registry : PacketRegistry} {version : ProtocolVersion}
  {frame : PacketFrame} {z : ZlibDecompressor} {start : Option EncryptCipher}

/-- Everything `write_frame` can do without compression and with an empty buffer. -/
theorem writeFrame_cases (hth : c.encoder.compressionThreshold = none) (hbuf : c.encoder.buf = [])
    (frame z) :
    (c.writeFrame frame).2 = c ∨
    ∃ block, framer.Encodes (PacketDecoder.new z) block frame (PacketDecoder.new z) ∧
      (c.writeFrame frame).2 =
        { c with
          encryptCipher := (encryptWith c.encryptCipher block).2
          stream := (c.stream.writeAll (encryptWith c.encryptCipher block).1).2
          written := match (c.stream.writeAll (encryptWith c.encryptCipher block).1).1 with
            | .ok () => c.written ++ [frame]
            | .error _ => c.written } := by
  unfold ClientBridge.writeFrame
  cases happ : c.encoder.appendFrame frame with
  | error e => exact .inl rfl
  | ok e' =>
    obtain ⟨block, rfl, hblock⟩ := PacketEncoder.appendRaw_spec_of_none hth happ z
    refine .inr ⟨block, hblock, ?_⟩
    have htake : ({ c.encoder with buf := c.encoder.buf ++ block } : PacketEncoder).take
        = (block, c.encoder) := by
      generalize c.encoder = e at hbuf
      cases e
      cases hbuf
      rfl
    simp only [htake]
    rcases hw : c.stream.writeAll (encryptWith c.encryptCipher block).1 with ⟨_ | ⟨⟩, stream⟩ <;>
      rfl

/-- A frame that announces nothing leaves the peer's decoder as it was. -/
theorem peer_encodes (hquiet : announces registry version frame = none) {block}
    (h : framer.Encodes (PacketDecoder.new z) block frame (PacketDecoder.new z)) :
    (peer registry version).Encodes (PacketDecoder.new z, ()) block frame
      (PacketDecoder.new z, ()) := by
  have hhook : (peer registry version).Encodes (PacketDecoder.new z, ()) block frame
      (afterFrame registry version frame () (PacketDecoder.new z)) := h.hooked ()
  rwa [afterFrame, hquiet] at hhook

theorem peer_next_new (registry version z) :
    (peer registry version).next (PacketDecoder.new z, ()) = .more :=
  Framer.hooked_next_of_more (step_of_buf_nil (d := PacketDecoder.new z) rfl) ()

/-- A write sends everything, or as much as the stream still takes. -/
theorem writeAll_cases (s : TcpStream) (data) :
    (∃ budget, s.writeAll data = (.ok (), { s with sent := s.sent ++ data, budget })) ∨
    (∃ n < data.length, s.budget = some n ∧
      s.writeAll data
        = (.error s.failure, { s with sent := s.sent ++ data.take n, budget := some 0 })) := by
  unfold TcpStream.writeAll
  cases hb : s.budget with
  | none => exact .inl ⟨none, by simp [← hb]⟩
  | some n =>
    by_cases hle : data.length ≤ n
    · exact .inl ⟨some (n - data.length), by simp [hle]⟩
    · exact .inr ⟨n, by omega, rfl, by simp [hle]⟩

/-- A stream that takes nothing any more stays as it is. -/
theorem writeAll_of_exhausted {s : TcpStream} {data : Bytes} (hb : s.budget = some 0)
    (hdata : 0 < data.length) : s.writeAll data = (.error s.failure, s) := by
  unfold TcpStream.writeAll
  rw [hb]
  simp only [if_neg (Nat.not_le.mpr hdata), take_zero, append_nil, ← hb]

/-- The peer waits for the rest of a frame that was cut. -/
theorem peer_next_take {block n}
    (h : (peer registry version).Encodes (PacketDecoder.new z, ()) block frame
      (PacketDecoder.new z, ())) (hn : n < block.length) :
    (peer registry version).next
      ((peer registry version).push (PacketDecoder.new z, ()) (block.take n)) = .more := by
  have hsplit : (peer registry version).Encodes (PacketDecoder.new z, ())
      (block.take n ++ block.drop n) frame (PacketDecoder.new z, ()) := by
    rwa [take_append_drop]
  exact (peer registry version).next_of_encodes_append hsplit rfl (by simpa using hn)

/-- The step lemma: handing over a frame that announces nothing keeps the bridge in step. -/
theorem InStep.writeFrame (h : InStep registry version z start c)
    (hquiet : announces registry version frame = none) :
    InStep registry version z start (c.writeFrame frame).2 := by
  rcases writeFrame_cases h.threshold h.buf frame z with hsame | ⟨block, hblock, hafter⟩
  · rw [hsame]
    exact h
  have hpeer := peer_encodes hquiet hblock
  have hwaits := peer_next_new registry version z
  rw [hafter]
  refine ⟨h.version_eq, h.threshold, h.buf, ?_⟩
  rcases h.stream with ⟨plain, hplain, hdrain⟩ | ⟨hbud, st, hreads⟩
  · have hsent : c.stream.sent = (encryptWith start plain).1 := by rw [hplain]
    have hciph : c.encryptCipher = (encryptWith start plain).2 := by rw [hplain]
    rcases writeAll_cases c.stream (encryptWith c.encryptCipher block).1 with
      ⟨budget, hw⟩ | ⟨n, hn, -, hw⟩
    · left
      rw [hw]
      refine ⟨plain ++ block, ?_, ?_⟩
      · rw [encryptWith_append, ← hsent, ← hciph]
      · exact (peer registry version).drain_push_append_of_encodes hdrain hpeer hwaits
    · -- The frame was cut after `n` bytes, and the peer waits for the rest of it.
      right
      rw [hw]
      rw [length_encryptWith] at hn
      have hcut := peer_next_take hpeer hn
      refine ⟨rfl, (peer registry version).push (PacketDecoder.new z, ()) (block.take n), ?_⟩
      rw [peerReads, hsent, hciph, decryptWith_encryptWith]
      exact (peer registry version).drain_push_append_of_more hdrain hcut
  · -- A write was cut before. The stream takes nothing any more.
    right
    have hpos : 0 < (encryptWith c.encryptCipher block).1.length := by
      rw [length_encryptWith]
      exact length_pos_iff.2 (hpeer.ne_nil hwaits)
    rw [writeAll_of_exhausted hbud hpos]
    exact ⟨hbud, st, hreads⟩

/-- What the peer of a bridge that is in step reads: the accepted frames, and no error. -/
theorem InStep.peerReads_eq (h : InStep registry version z start c) :
    ∃ st, peerReads registry version z start c.stream.sent = (c.written, .waiting st) := by
  rcases h.stream with ⟨plain, hplain, hdrain⟩ | ⟨-, hreads⟩
  · have hdec := decryptWith_encryptWith start plain [] 0
    rw [hplain, take_zero, append_nil, take_nil, append_nil] at hdec
    refine ⟨(PacketDecoder.new z, ()), ?_⟩
    rw [peerReads, hdec]
    exact hdrain
  · exact hreads

/-! ### The handlers -/

section Handlers

variable {ι : Type} {registry : PacketRegistry} {version : ProtocolVersion}
  {z : ZlibDecompressor} {start : Option EncryptCipher}

open Hoare (Keeps final)

/-- The invariant of a session. -/
def SessionInStep (registry : PacketRegistry) (version : ProtocolVersion) (z : ZlibDecompressor)
    (start : Option EncryptCipher) (s : Session ι) : Prop :=
  InStep registry version z start s.client

variable {frame : PacketFrame}

/-- A write changes its bridge and nothing else. -/
theorem final_clientWrite {s : Session ι} :
    final (clientWrite frame) s = { s with client := (s.client.writeFrame frame).2 } := by
  unfold final clientWrite
  rcases s.client.writeFrame frame with ⟨_ | ⟨⟩, client⟩ <;> rfl

theorem final_backendWrite {s : Session ι} :
    final (backendWrite frame) s = { s with backend := (s.backend.writeFrame frame).2 } := by
  unfold final backendWrite
  rcases s.backend.writeFrame frame with ⟨_ | ⟨⟩, backend⟩ <;> rfl

theorem keeps_clientWrite (hquiet : announces registry version frame = none) :
    Keeps (SessionInStep registry version z start) (clientWrite frame : LoopM ι Unit) := by
  intro s hs
  rw [final_clientWrite]
  exact InStep.writeFrame hs hquiet

theorem keeps_backendWrite (frame : PacketFrame) :
    Keeps (SessionInStep registry version z start) (backendWrite frame : LoopM ι Unit) := by
  intro s hs
  rwa [final_backendWrite]

theorem keeps_setStates (state : ConnectionState) :
    Keeps (SessionInStep registry version z start) (setStates state : LoopM ι Unit) :=
  Keeps.modify fun _ hs => { hs with }

theorem keeps_modifyChain (side : ConnectionSide) (f : CodecFilterChain ι → CodecFilterChain ι) :
    Keeps (SessionInStep registry version z start) (modifyChain side f) :=
  Keeps.modify fun _ hs => by cases side <;> exact hs

/-- The frames that a command hands to the client writer. -/
def commandFrames : PlayerCommand → List PacketFrame
  | .sendMessage (.ok frame) => [frame]
  | .sendActionBar (.ok frame) => [frame]
  | .sendTitle (.ok frames) => frames
  | .sendPacket rawPacket => [rawToFrame rawPacket]
  | .kick (.ok frame) => [frame]
  | _ => []

variable {I : Session ι → Prop}

/-- A command keeps what the writes of its frames keep. -/
theorem keeps_handlePlayerCommand {cmd}
    (hwr : ∀ frame ∈ commandFrames cmd, Keeps I (clientWrite frame)) :
    Keeps I (handlePlayerCommand cmd) := by
  have hreturn : ∀ frame ∈ commandFrames cmd, ∀ result : CommandResult,
      Keeps I (do clientWrite frame; return result) :=
    fun frame hf result => (hwr frame hf).bind fun _ => Keeps.pure result
  cases cmd with
  | sendMessage frame | sendActionBar frame =>
    cases frame with
    | error e => exact Keeps.throw e
    | ok frame => exact hreturn frame (by simp [commandFrames]) _
  | sendTitle frames =>
    cases frames with
    | error e => exact Keeps.throw e
    | ok frames => exact (Keeps.forM hwr).bind fun _ => Keeps.pure _
  | sendPacket rawPacket => exact hreturn _ (by simp [commandFrames]) _
  | kick frame =>
    cases frame with
    | error e => exact Keeps.throw e
    | ok frame => exact hreturn frame (by simp [commandFrames]) _
  | switchServer target => exact Keeps.pure _

variable [CodecFilterInstance ι]

/-- A client frame outside of the Play state does not reach the client writer. -/
theorem keeps_handleClientLogin (hwr : Keeps I (backendWrite frame))
    (hstates : ∀ state, Keeps I (setStates state)) (hchain : ∀ side f, Keeps I (modifyChain side f))
    (registry : PacketRegistry) (version : ProtocolVersion) (state : ConnectionState) :
    Keeps I (handleClientLogin registry version state frame) := by
  unfold handleClientLogin
  split
  · exact hwr.bind fun _ => (hstates _).bind fun _ => hchain _ _
  · exact hwr.bind fun _ => (hstates _).bind fun _ => hchain _ _
  · exact hwr

/-- The calls on the cache for a backend frame outside of the Play state. -/
def loginCalls (registry : PacketRegistry) (version : ProtocolVersion) (state : ConnectionState)
    (frame : PacketFrame) : List RegistryCacheCall :=
  match registry.decodeFrame frame state .clientbound version with
  | .ok (.typed _ .finishConfig) => [.finalize]
  | .ok (.typed _ (.setCompression _)) | .ok (.typed _ .loginSuccess)
  | .ok (.typed _ (.loginDisconnect _)) | .ok (.typed _ (.disconnect _)) => []
  | .ok (.typed _ _) =>
    if state = .config then
      if isKnownPacks registry version frame then [.collectKnownPacksFrame frame]
      else [.collectRegistryFrame frame]
    else []
  | .ok (.opaqueFrame _ _) => if state = .config then [.collectRegistryFrame frame] else []
  | .error _ => []

/-- What the loop does with a backend frame outside of the Play state, and the calls on the cache
that are part of it. -/
inductive LoginReply (registry : PacketRegistry) (version : ProtocolVersion)
    (state : ConnectionState) (frame : PacketFrame) :
    List RegistryCacheCall → LoopM ι BackendAction → Prop
  | forward (action : BackendAction) :
    LoginReply registry version state frame [] (do clientWrite frame; return action)
  | collect (call : RegistryCacheCall) :
    LoginReply registry version state frame [call]
      (do cacheCall call; clientWrite frame; return .continue)
  | compression {id threshold : I32} (h : registry.decodeFrame frame state .clientbound version =
      .ok (.typed id (.setCompression threshold))) :
    LoginReply registry version state frame [] (do
      modify fun s => { s with backend := s.backend.setCompression threshold }
      modify fun s => { s with client := s.client.setCompression threshold }
      clientWrite frame
      modifyChain .serverSide (·.notifyCompressionChange threshold)
      return .continue)
  | success {id : I32} (h : registry.decodeFrame frame state .clientbound version =
      .ok (.typed id .loginSuccess)) (hold : version.lessThan .V1_20_2 = true) :
    LoginReply registry version state frame [] (do
      clientWrite frame
      setStates .play
      modifyChain .serverSide (·.notifyStateChange .play)
      return .continue)

theorem loginReply (registry : PacketRegistry) (version : ProtocolVersion)
    (state : ConnectionState) (frame : PacketFrame) :
    LoginReply (ι := ι) registry version state frame (loginCalls registry version state frame)
      (handleBackendLogin registry version state frame) := by
  unfold handleBackendLogin loginCalls
  cases hdec : registry.decodeFrame frame state .clientbound version with
  | error e => exact .forward _
  | ok decoded =>
    cases decoded with
    | opaqueFrame id payload =>
      dsimp only
      split
      · exact .collect _
      · exact .forward _
    | typed id packet =>
      cases packet with
      | setCompression threshold => exact .compression hdec
      | loginSuccess =>
        dsimp only
        split
        case isTrue hold => exact .success hdec hold
        case isFalse => exact .forward _
      | finishConfig => exact .collect _
      | loginDisconnect reason | disconnect reason => exact .forward _
      | _ =>
        -- the other packets are collected in the Config state
        simp only [isKnownPacks, decide_eq_true_eq]
        split
        · split <;> exact .collect _
        · exact .forward _

/-- A backend frame that announces nothing is handed over and keeps the bridge in step. -/
theorem keeps_handleBackendLogin (hquiet : announces registry version frame = none) :
    Keeps (SessionInStep registry version z start)
      (handleBackendLogin registry version .login frame : LoopM ι BackendAction) := by
  have hreply := loginReply (ι := ι) registry version .login frame
  generalize loginCalls registry version .login frame = calls,
    handleBackendLogin (ι := ι) registry version .login frame = m at hreply ⊢
  cases hreply with
  | forward action => exact (keeps_clientWrite hquiet).bind fun _ => Keeps.pure action
  | collect call =>
    exact Keeps.bind (Keeps.modify fun _ hs => hs) fun _ =>
      (keeps_clientWrite hquiet).bind fun _ => Keeps.pure _
  | compression h => simp [announces, h] at hquiet
  | success =>
    exact (keeps_clientWrite hquiet).bind fun _ => (keeps_setStates _).bind fun _ =>
      (keeps_modifyChain _ _).bind fun _ => Keeps.pure _

/-- The event hands no announcement of compression to the client writer. -/
def Quiet (registry : PacketRegistry) (version : ProtocolVersion) : LoopEvent → Prop
  | .backend (.ok (some frame)) _ => announces registry version frame = none
  | .command cmd => ∀ frame ∈ commandFrames cmd, announces registry version frame = none
  | _ => True

/-! An iteration ends in the state in which its handler ends. -/

theorem proxyStep_client_fst (s : Session ι) (frame : PacketFrame) (services : ProxyServices) :
    (proxyStep registry s (.client (.ok (some frame)) services)).1
      = final (handleClientToBackend registry services frame) s := by
  simp only [proxyStep, final]
  cases handleClientToBackend registry services frame s with
  | ok a s' => rfl
  | error e s' =>
    dsimp only
    split <;> rfl

theorem proxyStep_backend_fst (s : Session ι) (frame : PacketFrame) (services : ProxyServices) :
    (proxyStep registry s (.backend (.ok (some frame)) services)).1
      = final (handleBackendToClient registry services frame) s := by
  simp only [proxyStep, final]
  cases handleBackendToClient registry services frame s with
  | ok action s' => cases action <;> rfl
  | error e s' => rfl

theorem proxyStep_command_fst (s : Session ι) (cmd : PlayerCommand) :
    (proxyStep registry s (.command cmd)).1 = final (handlePlayerCommand cmd) s := by
  simp only [proxyStep, final]
  cases handlePlayerCommand cmd s with
  | ok result s' => cases result <;> rfl
  | error e s' => rfl

/-- One iteration in the Login state keeps the bridge in step. -/
theorem proxyStep_inStep {s : Session ι} (hs : SessionInStep registry version z start s)
    (hcl : s.client.state = .login) (hback : s.backend.state = .login)
    {event : LoopEvent} (hquiet : Quiet registry version event) :
    SessionInStep registry version z start (proxyStep registry s event).1 := by
  cases event with
  | client read services =>
    rcases read with e | _ | frame
    · exact hs
    · exact hs
    · rw [proxyStep_client_fst]
      -- The handler reads the state first, and it is not Play.
      have hlogin : final (handleClientToBackend registry services frame) s
          = final (handleClientLogin registry s.client.protocolVersion .login frame) s := by
        show final (if s.client.state = .play then _ else _) s = _
        rw [hcl, if_neg (by decide)]
      rw [hlogin]
      exact keeps_handleClientLogin (keeps_backendWrite frame) keeps_setStates keeps_modifyChain
        _ _ _ s hs
  | backend read services =>
    rcases read with e | _ | frame
    · exact hs
    · exact hs
    · rw [proxyStep_backend_fst]
      have hlogin : final (handleBackendToClient registry services frame) s
          = final (handleBackendLogin registry version .login frame) s := by
        show final (if s.backend.state = .play then _ else _) s = _
        rw [hback, if_neg (by decide), hs.version_eq]
      rw [hlogin]
      exact keeps_handleBackendLogin hquiet s hs
  | command cmd =>
    rw [proxyStep_command_fst]
    exact keeps_handlePlayerCommand (fun frame hf => keeps_clientWrite (hquiet frame hf)) s hs
  | shutdown => exact hs

end Handlers

/-! ### Runs in the Login state -/

/-- One iteration of a loop that has not ended and is in the Login state, on an event that
meets `cond`. The second component is the outcome, once there is one. -/
def LoginStep {ι : Type} [CodecFilterInstance ι] (registry : PacketRegistry)
    (cond : LoopEvent → Prop) (s : Session ι × Option ProxyLoopOutcome) (event : LoopEvent)
    (s' : Session ι × Option ProxyLoopOutcome) : Prop :=
  s.2 = none ∧ s.1.client.state = .login ∧ s.1.backend.state = .login ∧ cond event ∧
    s' = proxyStep registry s.1 event

/-- A session at the start of the loop: the client has no compression, and the stream and
the history are counted from here. -/
structure LoopStart {ι : Type} (s : Session ι) : Prop where
  threshold : s.client.encoder.compressionThreshold = none
  buf : s.client.encoder.buf = []
  sent : s.client.stream.sent = []
  written : s.client.written = []

/-- The peer of the session that started as `s₀` reads the frames handed to the client
writer, in order, and no error. -/
def ReadsWritten {ι : Type} (registry : PacketRegistry) (z : ZlibDecompressor)
    (s₀ s : Session ι) : Prop :=
  ∃ st, peerReads registry s₀.client.protocolVersion z s₀.client.encryptCipher s.client.stream.sent
    = (s.client.written, .waiting st)

theorem LoopStart.inStep {ι : Type} {s : Session ι} (h : LoopStart s) (registry : PacketRegistry)
    (z : ZlibDecompressor) :
    SessionInStep registry s.client.protocolVersion z s.client.encryptCipher s := by
  refine ⟨rfl, h.threshold, h.buf, .inl ⟨[], ?_, ?_⟩⟩
  · rw [h.sent]
    cases s.client.encryptCipher <;> rfl
  · rw [h.written, Framer.push_nil]
    exact Framer.drain_of_more _ (peer_next_new _ _ z)

/-- In every run in the Login state in which no announcement of compression is handed to the
client writer, the peer reads in every state reached exactly the frames handed over. -/
theorem peer_reads_written {ι : Type} [CodecFilterInstance ι] (registry : PacketRegistry)
    (z : ZlibDecompressor) {s₀ : Session ι} (hstart : LoopStart s₀) {events : List LoopEvent}
    {s : Session ι × Option ProxyLoopOutcome}
    (hrun : Run (LoginStep registry (Quiet registry s₀.client.protocolVersion))
      (s₀, none) events s) :
    ReadsWritten registry z s₀ s.1 := by
  have hinv : SessionInStep registry s₀.client.protocolVersion z s₀.client.encryptCipher s.1 := by
    refine hrun.invariant (I := fun s =>
      SessionInStep registry s₀.client.protocolVersion z s₀.client.encryptCipher s.1) ?_
      (hstart.inStep registry z)
    rintro s event s' ⟨-, hcl, hback, hquiet, rfl⟩ hs
    exact proxyStep_inStep hs hcl hback hquiet
  exact hinv.peerReads_eq

/-! ### A concrete session -/

/-- A connection without codec filters. -/
instance : CodecFilterInstance Empty where
  filter inst := inst.elim
  onStateChange inst := inst.elim
  onCompressionChange inst := inst.elim

/-- A 1.21 login through a proxy without plugins, before the first packet of the backend. -/
def loginSession : Session Empty where
  client :=
    { stream := { sent := [], budget := none, failure := .other }
      decoder := .new (Flate2.decompressor inflate)
      encoder := .new (Flate2.compressor deflate)
      encryptCipher := none
      protocolVersion := .V1_21
      state := .login
      written := [] }
  backend :=
    { stream := { sent := [], budget := none, failure := .other }
      decoder := .new (Flate2.decompressor inflate)
      encoder := .new (Flate2.compressor deflate)
      state := .login
      protocolVersion := .V1_21
      written := [] }
  clientCodecChain := { instances := [], context := ⟨.V1_21, .handshake, 1, .clientSide⟩ }
  serverCodecChain := { instances := [], context := ⟨.V1_21, .handshake, 1, .serverSide⟩ }
  serviceCalls := []
  cacheCalls := []

/-- Services of a proxy on which nothing listens. -/
def idleServices : ProxyServices where
  isPluginCommand _ := false
  tabCompleteForPlayer _ := []
  dispatch _ := false
  chatMessage _ := .allow
  hasPacketListeners _ _ _ := false
  firePacketEvent _ _ := .pass
  announceProxyCommands := false
  injectProxyCommands tree _ := .ok tree
  decodeChatCommand _ _ := .error (.incomplete "VarInt")
  decodeChatMessage _ _ := .error (.incomplete "VarInt")
  encodeTabComplete _ _ := .ok []

/-- The part of the default registry that decodes `CSetCompression`. -/
def loginRegistry : PacketRegistry := registerSetCompression .new

/-- A backend announces the threshold 256. The frame is handed to the client writer with id 3,
and the peer reads a frame with id 0 instead. -/
theorem peer_misreads_setCompression :
    let frame : PacketFrame := { id := 3#32, payload := CSetCompression.encode 256#32 }
    let s := proxyStep loginRegistry loginSession (.backend (.ok (some frame)) idleServices)
    LoopStart loginSession ∧
    announces loginRegistry .V1_21 frame = some 256#32 ∧
    Run (LoginStep loginRegistry fun _ => True) (loginSession, none)
      [.backend (.ok (some frame)) idleServices] s ∧
    s.1.client.written = [frame] ∧
    (peerReads loginRegistry .V1_21 (Flate2.decompressor inflate) none
      s.1.client.stream.sent).1 = [{ id := 0#32, payload := 3 :: frame.payload }] ∧
    ¬ ReadsWritten loginRegistry (Flate2.decompressor inflate) loginSession s.1 := by
  intro frame s
  have hwrt : s.1.client.written = [frame] := by decide
  have hreads : (peerReads loginRegistry .V1_21 (Flate2.decompressor inflate) none
      s.1.client.stream.sent).1 = [{ id := 0#32, payload := 3 :: frame.payload }] := by decide
  refine ⟨⟨rfl, rfl, rfl, rfl⟩, by decide, ?_, hwrt, hreads, ?_⟩
  · exact .cons ⟨rfl, rfl, rfl, trivial, rfl⟩ (.nil _)
  · rintro ⟨st, hst⟩
    have hframes : [{ id := 0#32, payload := 3 :: frame.payload }] = [frame] :=
      hreads.symm.trans ((congrArg Prod.fst hst).trans hwrt)
    exact absurd hframes (by decide)

/-- A login in which the backend asks a plugin question, the client answers it and the proxy
shuts down. -/
theorem peer_reads_written_plugin_request :
    let request : PacketFrame := { id := 4#32, payload := [1, 97] }
    let events : List LoopEvent := [.backend (.ok (some request)) idleServices,
      .client (.ok (some { id := 2#32, payload := [1, 0] })) idleServices, .shutdown]
    ∃ s : Session Empty × Option ProxyLoopOutcome, s.1.client.written = [request] ∧
      Run (LoginStep loginRegistry (Quiet loginRegistry .V1_21)) (loginSession, none)
        events s ∧
      ReadsWritten loginRegistry (Flate2.decompressor inflate) loginSession s.1 := by
  intro request events
  have hrun : Run (LoginStep loginRegistry (Quiet loginRegistry .V1_21))
      (loginSession, none) events _ :=
    .cons ⟨rfl, rfl, rfl, show announces loginRegistry .V1_21 request = none by decide, rfl⟩
      (.cons ⟨by decide, by decide, by decide, trivial, rfl⟩
        (.cons ⟨by decide, by decide, by decide, trivial, rfl⟩ (.nil _)))
  exact ⟨_, by decide, hrun, peer_reads_written loginRegistry _ ⟨rfl, rfl, rfl, rfl⟩ hrun⟩

end ProxyLoop

end Infrarust
