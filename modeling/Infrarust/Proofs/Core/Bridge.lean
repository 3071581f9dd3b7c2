import Infrarust.Core.MojangAuth
import Infrarust.Lib.Machine
import Infrarust.Proofs.Protocol.Packet
import Infrarust.Proofs.Protocol.Registry

/-!
# `Infrarust.Proofs.Core.Bridge`: what a frame of an encrypted connection is decoded from

A call of `readFrame` reads some bytes off the stream, which pass the cipher when one is set,
and then takes a frame off the decoder's buffer. `Inlet.Reads` says what the first part does to
a connection, and `readFrame_reads` that this is all a call does before its last attempt.

The buffer is shared by the plaintext and the encrypted phase. So a frame of the encrypted
phase is made of decrypted bytes only when `enableEncryption` finds no plaintext in the buffer
(`readFrame_decrypted`). `authenticate` does not see to that: a client that sends a packet
right behind its encryption response has it read as one of the encrypted session
(`authenticate_reads_plaintext`).
-/

set_option autoImplicit false

namespace Infrarust

open Framing (Framer)
open PacketDecoder List

/-! ### The state of a connection -/

/-- `write_frame` records the frame that it has sent and changes no state. -/
theorem ClientBridge.writeFrame_spec (c : ClientBridge) (frame) :
    (c.writeFrame frame).2.state = c.state ∧
    (c.writeFrame frame).2.protocolVersion = c.protocolVersion ∧
    ((c.writeFrame frame).1 = .ok () → (c.writeFrame frame).2.written = c.written ++ [frame]) ∧
    ∀ e, (c.writeFrame frame).1 = .error e → (c.writeFrame frame).2.written = c.written := by
  unfold writeFrame
  split
  · simp
  · dsimp only
    split <;> simp

theorem BackendBridge.writeFrame_spec (b : BackendBridge) (frame) :
    (b.writeFrame frame).2.state = b.state ∧
    ((b.writeFrame frame).1 = .ok () → (b.writeFrame frame).2.written = b.written ++ [frame]) ∧
    ∀ e, (b.writeFrame frame).1 = .error e → (b.writeFrame frame).2.written = b.written := by
  unfold writeFrame
  split
  · simp
  · dsimp only
    split <;> simp

theorem BackendBridge.state_sendPacket (b : BackendBridge) (registry type direction)
    (encode : ProtocolVersion → Except ProtocolError Bytes) :
    (b.sendPacket registry type direction encode).2.state = b.state := by
  unfold sendPacket
  split
  · rfl
  · split
    · rfl
    · exact (b.writeFrame_spec _).1

/-! ### Reading off the stream -/

theorem readSegment_spec (max) : ∀ segments : List Bytes, match readSegment max segments with
    | some (data, rest) =>
      segments.flatten = data ++ rest.flatten ∧ (0 < max → data ≠ []) ∧ data.length ≤ max
    | none => segments.flatten = [] := by
  intro segments
  induction segments with
  | nil => rfl
  | cons segment rest ih =>
    rw [readSegment]
    by_cases hempty : segment = []
    · rw [if_pos hempty, hempty]
      exact ih
    · rw [if_neg hempty]
      refine ⟨?_, fun hmax => ?_, length_take_le _ _⟩
      · rw [flatten_cons, flatten_cons, ← append_assoc, take_append_drop]
      · simp [take_eq_nil_iff, hempty]
        omega

/-- A read takes its bytes off the front of what the peer sent, and changes nothing else. -/
theorem TcpStream.read_spec (s : TcpStream) (max) :
    match s.read max with
    | (.ok data, s') => s.incoming.flatten = data ++ s'.incoming.flatten ∧
      ∃ incoming, s' = { s with incoming }
    | (.error _, s') => s.incoming.flatten = s'.incoming.flatten ∧
      ∃ incoming, s' = { s with incoming } := by
  have hspec := readSegment_spec max s.incoming
  rw [TcpStream.read]
  cases hseg : readSegment max s.incoming with
  | some r =>
    rw [hseg] at hspec
    exact ⟨hspec.1, _, rfl⟩
  | none =>
    rw [hseg] at hspec
    cases s.ending <;> exact ⟨hspec, _, rfl⟩

theorem TcpStream.writeAll_of_budget {s : TcpStream} (h : s.budget = none) (data) :
    s.writeAll data = (.ok (), { s with sent := s.sent ++ data }) := by
  rw [writeAll, h]

/-- A read of some bytes gives the first ones, or nothing when the stream is at its end. -/
theorem TcpStream.read_cases (s : TcpStream) {size} (hsize : 0 < size) :
    (s.incoming.flatten = [] ∧ s.read size
      = (match s.ending with | .ok () => .ok [] | .error kind => .error kind,
          { s with incoming := [] })) ∨
    ∃ b data incoming, readSegment size s.incoming = some (b :: data, incoming) ∧
      s.read size = (.ok (b :: data), { s with incoming }) ∧
      s.incoming.flatten = b :: data ++ incoming.flatten ∧ (b :: data).length ≤ size := by
  have hspec := readSegment_spec size s.incoming
  rw [TcpStream.read]
  cases hseg : readSegment size s.incoming with
  | none =>
    rw [hseg] at hspec
    exact .inl ⟨hspec, by cases s.ending <;> rfl⟩
  | some r =>
    obtain ⟨data, incoming⟩ := r
    rw [hseg] at hspec
    obtain ⟨b, data, rfl⟩ := exists_cons_of_ne_nil (hspec.2.1 hsize)
    exact .inr ⟨b, data, incoming, rfl, rfl, hspec.1, hspec.2.2⟩

variable {cipher : Option DecryptCipher}

theorem decryptWith_append {bs cs} :
    decryptWith cipher (bs ++ cs)
      = ((decryptWith cipher bs).1 ++ (decryptWith (decryptWith cipher bs).2 cs).1,
          (decryptWith (decryptWith cipher bs).2 cs).2) := by
  cases cipher with
  | none => rfl
  | some c =>
    simp only [decryptWith, DecryptCipher.decrypt, Cfb8.decrypt_append c.keystream bs cs]

theorem isSome_decryptWith {bs} : (decryptWith cipher bs).2.isSome = cipher.isSome := by
  cases cipher <;> rfl

namespace Inlet

/-- The bytes `raw` were read off the stream and handed to the decoder. -/
structure Reads (i : Inlet) (raw : Bytes) (i' : Inlet) : Prop where
  stream : i.stream.incoming.flatten = raw ++ i'.stream.incoming.flatten ∧
    ∃ incoming, i'.stream = { i.stream with incoming }
  decoder : i'.decoder = i.decoder.queueBytes (decryptWith i.cipher raw).1
  cipher : i'.cipher = (decryptWith i.cipher raw).2
  queued : i'.queued = i.queued ++ (decryptWith i.cipher raw).1.map (·, i.cipher.isSome)

theorem decryptWith_nil : decryptWith cipher [] = ([], cipher) := by
  cases cipher <;> rfl

variable {i i' : Inlet}

theorem Reads.nil (hstr : i.stream.incoming.flatten = i'.stream.incoming.flatten ∧
      ∃ incoming, i'.stream = { i.stream with incoming })
    (hrest : i' = { i with stream := i'.stream }) : i.Reads [] i' := by
  rw [hrest]
  exact ⟨hstr, by simp [decryptWith_nil, queueBytes], by simp [decryptWith_nil],
    by simp [decryptWith_nil]⟩

theorem Reads.trans {i₁ i₂ raw raw'} (h : i.Reads raw i₁) (h' : i₁.Reads raw' i₂) :
    i.Reads (raw ++ raw') i₂ where
  stream := by
    obtain ⟨hbytes, incoming, hstr⟩ := h.stream
    obtain ⟨hbytes', incoming', hstr'⟩ := h'.stream
    exact ⟨by rw [hbytes, hbytes', append_assoc], incoming', by rw [hstr', hstr]⟩
  decoder := by
    rw [h'.decoder, h.decoder, h.cipher, decryptWith_append]
    exact (framer.push_append _ _ _).symm
  cipher := by rw [h'.cipher, h.cipher, decryptWith_append]
  queued := by
    rw [h'.queued, h.queued, h.cipher, decryptWith_append, isSome_decryptWith]
    simp

/-- A read of the loop. -/
theorem reads_queue (i : Inlet) (size) {data stream} (h : i.stream.read size = (.ok data, stream)) :
    i.Reads data ({ i with stream }.queue data) where
  stream := by
    have hread := i.stream.read_spec size
    rw [h] at hread
    exact hread
  decoder := rfl
  cipher := rfl
  queued := rfl

/-- The loop reads some bytes, then makes at most one attempt that is not "not yet", and a
frame that it returns comes from that attempt. -/
theorem readFrameLoop_reads (size fuel) : ∀ i : Inlet, ∃ raw i₁, i.Reads raw i₁ ∧
    (readFrameLoop size fuel i).2 = { i₁ with decoder := (readFrameLoop size fuel i).2.decoder } ∧
    ((readFrameLoop size fuel i).2.decoder = i₁.decoder ∨
      (readFrameLoop size fuel i).2.decoder = i₁.decoder.tryNextFrame.2) ∧
    ∀ frame, (readFrameLoop size fuel i).1 = .ok (some frame) →
      i₁.decoder.tryNextFrame = (.ok (some frame), (readFrameLoop size fuel i).2.decoder) := by
  induction fuel with
  | zero =>
    intro i
    refine ⟨[], i, .nil ⟨rfl, _, rfl⟩ rfl, rfl, .inl rfl, ?_⟩
    intro frame h
    simp [readFrameLoop] at h
  | succ fuel ih =>
    intro i
    rw [readFrameLoop]
    rcases htry : i.decoder.tryNextFrame with ⟨e | _ | frame, decoder⟩
    case error => exact ⟨[], i, .nil ⟨rfl, _, rfl⟩ rfl, rfl, .inr (by rw [htry]), by simp⟩
    case ok.some =>
      refine ⟨[], i, .nil ⟨rfl, _, rfl⟩ rfl, rfl, .inr (by rw [htry]), fun f hf => ?_⟩
      rw [htry]
      simpa using hf
    case ok.none =>
      -- "Not yet" leaves the decoder alone, so the turn only reads.
      have hsame : decoder = i.decoder := by
        simpa [htry] using (tryNextFrame_progress i.decoder).1
      subst hsame
      have hread := i.stream.read_spec size
      rcases hstr : i.stream.read size with ⟨kind | data, stream⟩
      case error =>
        rw [hstr] at hread
        exact ⟨[], { i with stream }, .nil hread rfl, rfl, .inl rfl, by simp⟩
      case ok =>
        cases data with
        | nil =>
          rw [hstr] at hread
          exact ⟨[], { i with stream }, .nil hread rfl, rfl, .inl rfl, by simp⟩
        | cons b data =>
          obtain ⟨raw, i₁, hreads, hrest⟩ := ih ({ i with stream }.queue (b :: data))
          exact ⟨b :: data ++ raw, i₁, (i.reads_queue size hstr).trans hreads, hrest⟩

theorem stream_readFrameLoop (size fuel i) :
    ∃ incoming, (readFrameLoop size fuel i).2.stream = { i.stream with incoming } := by
  obtain ⟨raw, i₁, hreads, hrest, -⟩ := readFrameLoop_reads size fuel i
  rw [hrest]
  exact hreads.stream.2

/-! ### The bytes in the buffer and the bytes of a frame -/

/-- How many of the queued bytes have left the buffer. -/
def offset (i : Inlet) : Nat := i.queued.length - i.decoder.buf.length

/-- The queued bytes that are still in the buffer. -/
def pending (i : Inlet) : List (UInt8 × Bool) := i.queued.drop i.offset

/-- The queued bytes that were taken off the buffer between two states of a connection. -/
def consumed (i i' : Inlet) : List (UInt8 × Bool) := (i'.queued.take i'.offset).drop i.offset

/-- The buffer holds the end of what was queued. -/
def Sound (i : Inlet) : Prop := i.decoder.buf <:+ i.queued.map Prod.fst

theorem Sound.pending_eq (h : i.Sound) : i.pending.map Prod.fst = i.decoder.buf := by
  obtain ⟨past, hpast⟩ := h
  have hlen := congrArg List.length hpast
  simp only [length_append, length_map] at hlen
  have hoffset : i.offset = past.length := by
    rw [offset]
    omega
  rw [pending, map_drop, ← hpast, hoffset, drop_left]

/-- What a call of `readFrame` does to the buffer: `new` bytes come in behind it, and some
bytes go off its front. -/
structure Turns (i : Inlet) (new : List (UInt8 × Bool)) (i' : Inlet) : Prop where
  queued : i'.queued = i.queued ++ new
  tagged : ∀ b ∈ new, b.2 = i.cipher.isSome
  cipher : i'.cipher.isSome = i.cipher.isSome
  decoder : i'.decoder.buf <:+ i.decoder.buf ++ new.map Prod.fst

variable {new : List (UInt8 × Bool)}

theorem Turns.sound (h : i.Turns new i') (hi : i.Sound) : i'.Sound := by
  obtain ⟨past, hpast⟩ := hi
  rw [Sound, h.queued, map_append, ← hpast, append_assoc]
  exact h.decoder.trans (suffix_append _ _)

theorem Turns.split (h : i.Turns new i') (hi : i.Sound) :
    i.pending ++ new = i.consumed i' ++ i'.pending := by
  have hi' := h.sound hi
  have hlen := congrArg List.length h.queued
  have hle := hi.length_le
  have hle' := hi'.length_le
  have hbuf := h.decoder.length_le
  simp only [length_append, length_map] at hlen hle hle' hbuf
  have hold : i.pending ++ new = i'.queued.drop i.offset := by
    rw [pending, h.queued, drop_append_of_le_length]
    rw [offset]
    omega
  have hsplit := take_append_drop i'.offset i'.queued
  rw [hold, consumed, pending, ← drop_append_of_le_length, hsplit]
  rw [length_take, offset, offset]
  omega

/-- With a cipher and no plaintext in the buffer, neither what goes off the buffer nor what
stays in it is plaintext. -/
theorem Turns.decrypted (h : i.Turns new i') (hi : i.Sound) (hciph : i.cipher.isSome)
    (hclean : ∀ b ∈ i.pending, b.2 = true) : ∀ b ∈ i.consumed i' ++ i'.pending, b.2 = true := by
  intro b hb
  rw [← h.split hi] at hb
  rcases mem_append.mp hb with hold | hnew
  · exact hclean b hold
  · rw [h.tagged b hnew]
    exact hciph

theorem readFrame_turns (size) (i : Inlet) :
    ∃ new, i.Turns new (i.readFrame size).2 ∧
      ∀ frame, (i.readFrame size).1 = .ok (some frame) →
        (i.decoder.queueBytes (new.map Prod.fst)).tryNextFrame
          = (.ok (some frame), (i.readFrame size).2.decoder) := by
  rw [readFrame]
  obtain ⟨raw, i₁, hreads, hrest, hdcr, hfr⟩ :=
    readFrameLoop_reads size (i.stream.incoming.flatten.length + 1) i
  have hfst : ∀ text : Bytes, (text.map (·, i.cipher.isSome)).map Prod.fst = text := by
    intro text
    simp [Function.comp_def]
  refine ⟨(decryptWith i.cipher raw).1.map (·, i.cipher.isSome), ⟨?_, ?_, ?_, ?_⟩, ?_⟩
  · rw [hrest]
    exact hreads.queued
  · simp
  · rw [hrest]
    simp only [hreads.cipher, isSome_decryptWith]
  · rw [hfst]
    have hbuf : i₁.decoder.buf = i.decoder.buf ++ (decryptWith i.cipher raw).1 := by
      rw [hreads.decoder]
      rfl
    rw [← hbuf]
    rcases hdcr with h | h
    · rw [h]
    · rw [h]
      exact (tryNextFrame_buf _).2
  · intro frame h
    rw [hfst, ← hreads.decoder]
    exact hfr frame h

/-- A frame is decoded from the bytes that its call took off the buffer. -/
theorem readFrame_decodes {size frame} (hi : i.Sound)
    (h : i.readFrame size = (.ok (some frame), i')) :
    tryNextFrame { i.decoder with buf := (i.consumed i').map Prod.fst }
      = (.ok (some frame), { i.decoder with buf := [] }) := by
  obtain ⟨new, hturns, hfr⟩ := i.readFrame_turns size
  rw [h] at hturns hfr
  have htry := hfr frame rfl
  obtain ⟨used, hused, henc⟩ := encodes_of_tryNextFrame htry
  have hconsumed : used = (i.consumed i').map Prod.fst := by
    have hsplit := congrArg (List.map Prod.fst) (hturns.split hi)
    rw [map_append, map_append, hi.pending_eq, (hturns.sound hi).pending_eq] at hsplit
    exact append_cancel_right (hused.symm.trans hsplit)
  have hself := henc []
  rw [append_nil, hconsumed] at hself
  exact (step_eq_item_iff _ _ _).1 hself

end Inlet

/-! ### Runs of a client's bridge -/

namespace ClientBridge

/-- The calls that are made on the bridge of a client. `disconnect` is one of `sendPacket`
before the stream is closed. -/
inductive Op where
  | readFrame
  | writeFrame (frame : PacketFrame)
  | sendPacket (registry : PacketRegistry) (type : PacketType) (direction : Direction)
      (encode : ProtocolVersion → Except ProtocolError Bytes)
  | setCompression (threshold : I32)
  | setState (state : ConnectionState)
  | enableEncryption (aes : Bytes → Bytes → UInt8) (key : Bytes)

variable (c : ClientBridge)

/-- The bridge after a call. -/
def Op.apply : Op → ClientBridge
  | .readFrame => c.readFrame.2
  | .writeFrame frame => (c.writeFrame frame).2
  | .sendPacket registry type direction encode => (c.sendPacket registry type direction encode).2
  | .setCompression threshold => c.setCompression threshold
  | .setState state => c.setState state
  | .enableEncryption aes key => c.enableEncryption aes key

/-- The buffer holds no byte that was queued in plaintext. -/
def NoPlaintext : Prop := ∀ b ∈ c.inlet.pending, b.2 = true

/-- A call that does not switch to encryption over plaintext in the buffer. -/
def Op.Clean : Op → Prop
  | .enableEncryption .. => c.NoPlaintext
  | _ => True

/-- A step of a run in which no call switches to encryption over plaintext in the buffer. -/
def CleanStep (op : Op) (c' : ClientBridge) : Prop := op.Clean c ∧ op.apply c = c'

/-- What holds in every state of such a run. -/
structure Separated (c : ClientBridge) : Prop where
  sound : c.inlet.Sound
  clean : c.decryptCipher.isSome → c.NoPlaintext

theorem separated_new {deflate inflate stream buffered version} :
    (ClientBridge.new deflate inflate stream buffered version).Separated where
  sound := by
    simp [Inlet.Sound, inlet, new, queueBytes, PacketDecoder.new, Function.comp_def]
  clean := nofun

theorem inlet_readFrame : c.readFrame.2.inlet = (c.inlet.readFrame 4096).2 := rfl

variable {c : ClientBridge}

theorem Separated.readFrame (h : c.Separated) : c.readFrame.2.Separated := by
  obtain ⟨new, hturns, -⟩ := c.inlet.readFrame_turns 4096
  refine ⟨hturns.sound h.sound, fun hciph b hb => ?_⟩
  have hpre : c.decryptCipher.isSome := hturns.cipher ▸ hciph
  exact hturns.decrypted h.sound hpre (h.clean hpre) b (mem_append_right _ hb)

/-- Only reading and the switch to encryption touch what `Separated` is about. -/
theorem Separated.of_reads_same {c' : ClientBridge} (h : c.Separated)
    (hbuf : c'.decoder.buf = c.decoder.buf) (hqd : c'.queued = c.queued)
    (hciph : c'.decryptCipher = c.decryptCipher) : c'.Separated := by
  have hpend : c'.inlet.pending = c.inlet.pending := by
    simp only [Inlet.pending, Inlet.offset, inlet, hbuf, hqd]
  refine ⟨?_, fun hsome => ?_⟩
  · have hsound := h.sound
    simp only [Inlet.Sound, inlet] at hsound ⊢
    rw [hbuf, hqd]
    exact hsound
  · rw [NoPlaintext, hpend]
    exact h.clean (hciph ▸ hsome)

theorem writeFrame_reads_same (c : ClientBridge) (frame) :
    (c.writeFrame frame).2.decoder.buf = c.decoder.buf ∧
      (c.writeFrame frame).2.queued = c.queued ∧
      (c.writeFrame frame).2.decryptCipher = c.decryptCipher := by
  rw [writeFrame]
  split
  · exact ⟨rfl, rfl, rfl⟩
  · simp only
    split <;> exact ⟨rfl, rfl, rfl⟩

theorem Separated.writeFrame (h : c.Separated) (frame) : (c.writeFrame frame).2.Separated := by
  obtain ⟨hbuf, hqd, hciph⟩ := c.writeFrame_reads_same frame
  exact h.of_reads_same hbuf hqd hciph

theorem Separated.step {c' op} (hstep : CleanStep c op c') (h : c.Separated) : c'.Separated := by
  obtain ⟨hclean, rfl⟩ := hstep
  cases op with
  | readFrame => exact h.readFrame
  | writeFrame frame => exact h.writeFrame frame
  | sendPacket registry type direction encode =>
    rw [Op.apply, sendPacket]
    split
    · exact h
    · split
      · exact h
      · exact h.writeFrame _
  | setCompression threshold | setState state => exact h.of_reads_same rfl rfl rfl
  | enableEncryption aes key =>
    refine ⟨h.sound, fun _ => ?_⟩
    exact hclean

/-- Suppose that no call of `enableEncryption` finds plaintext in the decoder's buffer. Then,
whatever the client sends, however it arrives and whatever else is called, a frame that is read
after encryption was enabled is decoded from the bytes that the call took off the buffer, and
all of them were decrypted. -/
theorem readFrame_decrypted {deflate : ZlibCompressor} {inflate : ZlibDecompressor}
    {stream : TcpStream} {buffered : Bytes} {version : ProtocolVersion} {ops : List Op}
    {c c' : ClientBridge} {frame : PacketFrame}
    (hrun : Machine.Run CleanStep (.new deflate inflate stream buffered version) ops c)
    (hciph : c.decryptCipher.isSome) (hread : c.readFrame = (.ok (some frame), c')) :
    tryNextFrame
        { c.decoder with buf := (c.inlet.consumed c'.inlet).map Prod.fst }
      = (.ok (some frame), { c.decoder with buf := [] }) ∧
    ∀ b ∈ c.inlet.consumed c'.inlet, b.2 = true := by
  have hc : c.Separated := hrun.invariant (fun _ _ _ hstep => Separated.step hstep) (separated_new)
  have hinlet : c.inlet.readFrame 4096 = (.ok (some frame), c'.inlet) := by
    rw [Prod.ext_iff] at hread ⊢
    exact ⟨hread.1, congrArg inlet hread.2⟩
  refine ⟨Inlet.readFrame_decodes hc.sound hinlet, fun b hb => ?_⟩
  obtain ⟨new, hturns, -⟩ := c.inlet.readFrame_turns 4096
  rw [hinlet] at hturns
  exact hturns.decrypted hc.sound hciph (hc.clean hciph) b (mem_append_left _ hb)

/-! ### The Mojang authentication -/

/-- A stand-in for AES: the key byte is the sum of the key's and the register's bytes. -/
def sumCipher (key register : Bytes) : UInt8 := (key ++ register).foldl (· + ·) 0

/-- An authentication whose RSA texts are their own ciphertexts. The session server knows
everyone. -/
def openAuth : MojangAuth where
  rsaDecrypt := .ok
  publicKeyDer := [0x30]
  sha1 _ := []
  hasJoined username _ := .profile { uuid := 1#128, username, properties := [] }

/-- The `EncryptionResponse` of a 1.21 client with the key of sixteen sevens, for the token
`[1, 2, 3, 4]`. -/
def encryptionResponse : Bytes := [23, 0x01, 16] ++ List.replicate 16 7 ++ [4, 1, 2, 3, 4]

/-- The bridge of a 1.21 client that sends the segments `incoming`. -/
def clientSending (incoming : List Bytes) : ClientBridge :=
  .new (Flate2.compressor StoredZlib.deflate) (Flate2.decompressor StoredZlib.inflate)
    { sent := [], budget := none, failure := .other, incoming } [] .V1_21

/-- What `authenticate` does to the bridge of its client is a sequence of calls. -/
theorem authenticate_run {auth : MojangAuth} {aes token username registry} :
    ∃ ops, Machine.Run (fun c op c' => Op.apply c op = c') c ops
      (auth.authenticate aes token c username registry).2 := by
  rw [MojangAuth.authenticate]
  set request : CEncryptionRequest := ⟨"", auth.publicKeyDer, token, true⟩
  have hsend : Op.apply c (.sendPacket registry .encryptionRequest .clientbound request.encode)
      = (c.sendPacket registry .encryptionRequest .clientbound request.encode).2 := rfl
  rcases h : c.sendPacket registry .encryptionRequest .clientbound request.encode with
    ⟨e | ⟨⟩, c₁⟩
  case error => exact ⟨[_], .cons (hsend.trans (by rw [h])) (.nil _)⟩
  rw [h] at hsend
  simp only
  rcases h₁ : c₁.readFrame with ⟨e | _ | frame, c₂⟩
  all_goals have hread : Op.apply c₁ .readFrame = c₂ := by rw [Op.apply, h₁]
  case error => exact ⟨[_, _], .cons hsend (.cons hread (.nil _))⟩
  case ok.none => exact ⟨[_, _], .cons hsend (.cons hread (.nil _))⟩
  simp only
  cases MojangAuth.expectResponse registry c₂.protocolVersion frame >>=
      auth.verifyResponse token username with
  | error e => exact ⟨[_, _], .cons hsend (.cons hread (.nil _))⟩
  | ok answer =>
    exact ⟨[_, _, .enableEncryption aes answer.1], .cons hsend (.cons hread (.cons rfl (.nil _)))⟩

/-- A client sends its encryption response and, in the same segment, a login acknowledgement
in plaintext. The authentication succeeds, and the next frame that is read on the encrypted
connection is the acknowledgement, whose two bytes were never decrypted. -/
theorem authenticate_reads_plaintext :
    let client := clientSending [encryptionResponse ++ [0x01, 0x03]]
    let r := openAuth.authenticate sumCipher [1, 2, 3, 4] client "steve"
      (buildDefaultRegistry bareDecoders)
    r.1 = .ok { uuid := 1#128, username := "steve", properties := [] } ∧
    r.2.decryptCipher.isSome ∧
    r.2.readFrame.1 = .ok (some { id := 0x03#32, payload := [] }) ∧
    r.2.inlet.consumed r.2.readFrame.2.inlet = [(0x01, false), (0x03, false)] := by
  decide +kernel

/-- The client waits for the answer to its response before it sends the acknowledgement, and
encrypts it. -/
theorem readFrame_decrypted_after_wait :
    let key := List.replicate 16 7
    let ack := (Cfb8.encrypt (sumCipher key) key [0x01, 0x03]).1
    let c := (clientSending [encryptionResponse, ack]).readFrame.2.enableEncryption sumCipher key
    c.readFrame.1 = .ok (some { id := 0x03#32, payload := [] }) ∧
    (tryNextFrame
        { c.decoder with buf := (c.inlet.consumed c.readFrame.2.inlet).map Prod.fst }
      = (.ok (some { id := 0x03#32, payload := [] }), { c.decoder with buf := [] }) ∧
    ∀ b ∈ c.inlet.consumed c.readFrame.2.inlet, b.2 = true) := by
  intro key ack c
  have hfr : c.readFrame.1 = .ok (some { id := 0x03#32, payload := [] }) := by decide
  have hclean : (clientSending [encryptionResponse, ack]).readFrame.2.NoPlaintext := by
    have hnone : (clientSending [encryptionResponse, ack]).readFrame.2.inlet.pending = [] := by
      decide +kernel
    simp [NoPlaintext, hnone]
  have hrun : Machine.Run CleanStep (clientSending [encryptionResponse, ack])
      [.readFrame, .enableEncryption sumCipher key] c :=
    .cons ⟨trivial, rfl⟩ (.cons ⟨hclean, rfl⟩ (.nil _))
  exact ⟨hfr, readFrame_decrypted hrun rfl (Prod.ext hfr rfl)⟩

end ClientBridge

end Infrarust
