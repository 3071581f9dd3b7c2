import Infrarust.Lib.Framer
import Infrarust.Protocol.Packet
import Infrarust.Proofs.Protocol.VarInt

/-!
# `Infrarust.Proofs.Protocol.Packet`: the packet decoder is a framer

An answer of `tryNextFrame` other than "not yet" does not depend on bytes that have not
arrived (`tryNextFrame_queueBytes`). With it the decoder is a `Framing.Framer`, so the
chunks in which a stream arrives do not matter (`decoder_feed_eq_drain`).

On the encoder's side `appendRaw_spec` says once what a successful call appends: a block of
bytes that any decoder with the same compression setting takes off as the frame that was
appended. The stream theorem `receiver_feed_of_encoderRun` lifts it to sequences of encoder
operations. The receiver applies each `set_compression` at the frame boundary at which the
encoder did, and gets exactly the appended frames.
-/

set_option autoImplicit false

namespace Infrarust

open Framing (Framer Step Status)
open PacketDecoder List VarInt

variable {header data : Bytes}

namespace PacketDecoder

/-! ### What an attempt can do -/

/-- A complete frame: a length prefix, however it is written, and as many bytes. -/
def Framed (header data : Bytes) : Prop :=
  ∃ len : I32, (∀ t, VarInt.decodePartial (header ++ t) = .ok (len, header.length)) ∧
    ¬len.toInt ≤ 0 ∧ ¬len.toNat > MAX_PACKET_SIZE ∧ data.length = len.toNat

variable {d : PacketDecoder}

/-- A complete frame leaves the buffer, and its content decides the answer. -/
theorem tryNextFrame_of_framed {t} (h : Framed header data) (hbuf : d.buf = header ++ (data ++ t)) :
    d.tryNextFrame = ((d.decodeData data).map some, { d with buf := t }) := by
  obtain ⟨len, hheader, hpos, hmax, hlen⟩ := h
  rw [tryNextFrame, hbuf, hheader]
  simp only
  rw [if_neg hpos, if_neg hmax, if_neg (by simp [hlen]), drop_left, take_left' hlen,
    drop_left' hlen]
  cases d.decodeData data <;> rfl

theorem Framed.header_ne_nil (h : Framed header data) : header ≠ [] := by
  rintro rfl
  obtain ⟨len, hheader, -⟩ := h
  cases hheader []

/-- An attempt answers "not yet", or refuses the length prefix, which more bytes do not
change, or finds a complete frame. -/
theorem tryNextFrame_cases (d : PacketDecoder) :
    d.tryNextFrame = (.ok none, d) ∨
    (∃ e, e.isFatal = true ∧ d.tryNextFrame = (.error e, d) ∧
      ∀ t, (d.queueBytes t).tryNextFrame = (.error e, d.queueBytes t)) ∨
    ∃ header data t, Framed header data ∧ d.buf = header ++ (data ++ t) := by
  have hlength (t : Bytes) (h : VarInt.decodePartial d.buf ≠ .error .incomplete) :
      VarInt.decodePartial (d.queueBytes t).buf = VarInt.decodePartial d.buf :=
    decodePartial_append h t
  cases hp : VarInt.decodePartial d.buf with
  | error status =>
    cases status with
    | incomplete => exact .inl (by simp [tryNextFrame, hp])
    | tooLarge =>
      exact .inr (.inl ⟨.invalid "packet length VarInt too large", rfl,
        by simp [tryNextFrame, hlength, hp]⟩)
  | ok found =>
    obtain ⟨packetLen, varintSize⟩ := found
    have hused := used_pos_of_decodePartial hp
    by_cases hpos : packetLen.toInt ≤ 0
    · exact .inr (.inl ⟨.invalid "packet length must be positive", rfl,
        by simp [tryNextFrame, hlength, hp, hpos]⟩)
    · by_cases hmax : packetLen.toNat > MAX_PACKET_SIZE
      · exact .inr (.inl ⟨.tooLarge MAX_PACKET_SIZE packetLen.toNat, rfl,
          by simp [tryNextFrame, hlength, hp, hpos, hmax]⟩)
      · by_cases hlen : d.buf.length < varintSize + packetLen.toNat
        · exact .inl (by simp [tryNextFrame, hp, hpos, hmax, hlen])
        · refine .inr (.inr ⟨d.buf.take varintSize, (d.buf.drop varintSize).take packetLen.toNat,
            (d.buf.drop varintSize).drop packetLen.toNat, ⟨packetLen, fun t => ?_, hpos, hmax, ?_⟩,
            by simp⟩)
          · rw [length_take, Nat.min_eq_left hused.2]
            exact decodePartial_take hp t
          · rw [length_take, length_drop]
            omega

/-! ### The decoder as a framer -/

/-- What is not "not yet" stays the answer when bytes arrive, and leaves them queued. -/
theorem tryNextFrame_queueBytes {t} (h : d.tryNextFrame.1 ≠ .ok none) :
    (d.queueBytes t).tryNextFrame = (d.tryNextFrame.1, d.tryNextFrame.2.queueBytes t) := by
  rcases tryNextFrame_cases d with hnone | ⟨e, -, hself, he⟩ | ⟨header, data, rest, hfr, hbuf⟩
  · exact absurd (by rw [hnone]) h
  · rw [he t, hself]
  · rw [tryNextFrame_of_framed hfr hbuf,
      tryNextFrame_of_framed (t := rest ++ t) hfr (by simp [queueBytes, hbuf])]
    rfl

/-- "Not yet" leaves the decoder as it was, and a frame takes at least one byte. -/
theorem tryNextFrame_progress (d : PacketDecoder) :
    (d.tryNextFrame.1 = .ok none → d.tryNextFrame.2 = d) ∧
    (∀ frame, d.tryNextFrame.1 = .ok (some frame) →
      d.tryNextFrame.2.buf.length < d.buf.length) := by
  rcases tryNextFrame_cases d with hnone | ⟨e, -, hself, he⟩ | ⟨header, data, rest, hfr, hbuf⟩
  · simp [hnone]
  · simp [hself]
  · have hpos := length_pos_of_ne_nil hfr.header_ne_nil
    rw [tryNextFrame_of_framed hfr hbuf, hbuf]
    refine ⟨fun h => ?_, fun _ _ => by simp; omega⟩
    cases hd : d.decodeData data <;> simp [hd, Except.map] at h

/-- One attempt of `try_next_frame`, as the step of a framer. -/
def step (d : PacketDecoder) : Step PacketDecoder PacketFrame ProtocolError :=
  match d.tryNextFrame with
  | (.ok none, _) => .more
  | (.ok (some frame), d') => .item frame d'
  | (.error e, _) => .fail e

theorem step_eq_more_iff (d : PacketDecoder) : d.step = .more ↔ d.tryNextFrame = (.ok none, d) := by
  have hnone := (tryNextFrame_progress d).1
  unfold step
  rcases h : d.tryNextFrame with ⟨_ | (_ | frame), d'⟩
  · simp
  · simpa [h] using hnone
  · simp

theorem step_eq_item_iff (d : PacketDecoder) (frame d') :
    d.step = .item frame d' ↔ d.tryNextFrame = (.ok (some frame), d') := by
  unfold step
  rcases d.tryNextFrame with ⟨_ | (_ | frame), d'⟩ <;> simp

theorem step_eq_fail_iff {e} : d.step = .fail e ↔ d.tryNextFrame.1 = .error e := by
  unfold step
  rcases d.tryNextFrame with ⟨_ | (_ | frame), d'⟩ <;> simp

/-- `PacketDecoder` with `queue_bytes` and `try_next_frame`. -/
def framer : Framer PacketDecoder UInt8 PacketFrame ProtocolError where
  push := queueBytes
  next := step
  size d := d.buf.length
  push_nil d := by simp [queueBytes]
  push_append d bs cs := by simp [queueBytes]
  size_push d t := by simp [queueBytes]
  next_push_of_item {d frame d'} h t := by
    rw [step_eq_item_iff] at h ⊢
    rw [tryNextFrame_queueBytes (by simp [h]), h]
  next_push_of_fail {d e} h t := by
    rw [step_eq_fail_iff] at h ⊢
    rw [tryNextFrame_queueBytes (by simp [h]), h]
  size_lt_of_item {d frame d'} h := by
    rw [step_eq_item_iff] at h
    simpa [h] using (tryNextFrame_progress d).2 frame (by rw [h])

theorem step_of_buf_nil (h : d.buf = []) : d.step = .more := by
  rw [step_eq_more_iff, tryNextFrame, h]
  rfl

/-- However a byte sequence is cut into chunks, a decoder with any compression setting that
is drained after each chunk produces the frames, the first error or else the remaining bytes
of a decoder that is given the whole sequence. Drained means that the last answer was an
error or "not yet". -/
theorem decoder_feed_eq_drain (setting : Option I32) (z : ZlibDecompressor) (chunks : List Bytes) :
    let d : PacketDecoder := { buf := [], compressionThreshold := setting, decompressor := z }
    framer.feed (.waiting d) chunks = framer.drain (d.queueBytes chunks.flatten) ∧
    ∀ d', (framer.drain (d.queueBytes chunks.flatten)).2 = .waiting d' →
      d'.tryNextFrame = (.ok none, d') := by
  intro d
  refine ⟨framer.feed_eq_drain_flatten chunks d (step_of_buf_nil (d := d) rfl), ?_⟩
  intro d' hd'
  exact (step_eq_more_iff d').1 (framer.next_of_drain_waiting _ d' hd')

end PacketDecoder

/-! ### One frame, from the encoder to the decoder -/

/-- zlib round trip: decompressing what was compressed, with the right expected size, gives
it back. -/
def ZlibInverse (c : ZlibCompressor) (z : ZlibDecompressor) : Prop :=
  ∀ input output, c.compress input = .ok output → z.decompress output input.length = .ok input

/-- The default implementation has the round trip when the library's streams do. -/
theorem Flate2.zlibInverse {deflate inflate}
    (h : ∀ input output, deflate input = .ok output → inflate output = input) :
    ZlibInverse (compressor deflate) (decompressor inflate) := by
  intro input output hc
  cases hd : deflate input with
  | error kind => simp [compressor, hd] at hc
  | ok out =>
    simp only [compressor, hd, Except.ok.injEq] at hc
    subst hc
    simp [decompressor, h input out hd]

/-! A zlib that never searches for matches. It writes one stored block and refuses input that
does not fit in it, and its streams are valid zlib data. -/

namespace StoredZlib

/-- The checksum at the end of a zlib stream. -/
def adler32 (input : Bytes) : Nat × Nat :=
  input.foldl (fun s b => ((s.1 + b.toNat) % 65521, (s.2 + s.1 + b.toNat) % 65521)) (1, 0)

/-- A 16-bit number, most significant byte first. -/
def be16 (n : Nat) : Bytes := [UInt8.ofNat (n / 256), UInt8.ofNat n]

/-- Stream header, one final stored block with its length and complement, checksum. -/
def deflate (input : Bytes) : Except ErrorKind Bytes :=
  let n := input.length
  if n < 65536 then
    .ok ([0x78, 0x01, 0x01, UInt8.ofNat n, UInt8.ofNat (n / 256), UInt8.ofNat (255 - n % 256),
      UInt8.ofNat (255 - n / 256)] ++ input
      ++ (be16 (adler32 input).2 ++ be16 (adler32 input).1))
  else .error .other

/-- The content of a stream made by `deflate`. -/
def inflate (stream : Bytes) : Bytes := (stream.drop 7).take (stream.length - 11)

theorem inflate_deflate (input output) (h : deflate input = .ok output) :
    inflate output = input := by
  simp only [deflate] at h
  split at h <;> cases h
  simp [inflate, be16]

end StoredZlib

namespace PacketDecoder

theorem decodePlain_encode (id payload) :
    decodePlain (VarInt.encode id ++ payload) = .ok { id, payload } := by
  rw [decodePlain, decode_encode]

theorem length_lt_of_decodePlain {frame} (h : decodePlain data = .ok frame) :
    frame.payload.length < data.length := by
  rw [decodePlain] at h
  cases hd : VarInt.decode data with
  | error e => simp [hd] at h
  | ok found =>
    rw [hd] at h
    cases h
    exact length_lt_of_decode hd

variable {d : PacketDecoder} {frame : PacketFrame}

theorem encodes_of_framed (hbuf : d.buf = []) (hfr : Framed header data)
    (h : d.decodeData data = .ok frame) : framer.Encodes d (header ++ data) frame d := by
  intro t
  show step (d.queueBytes (header ++ data ++ t)) = .item frame (d.queueBytes t)
  have hdata : (d.queueBytes (header ++ data ++ t)).decodeData data = .ok frame := h
  rw [step_eq_item_iff, tryNextFrame_of_framed (t := t) hfr (by simp [queueBytes, hbuf]), hdata]
  simp [queueBytes, hbuf, Except.map]

/-- Some bytes behind their length are a frame. -/
theorem framed_of_length (hpos : 0 < data.length) (hmax : data.length ≤ MAX_PACKET_SIZE) :
    Framed (VarInt.encode (BitVec.ofNat 32 data.length)) data := by
  set len := BitVec.ofNat 32 data.length with hlen
  have hnat : len.toNat = data.length := by
    rw [hlen, BitVec.toNat_ofNat, Nat.mod_eq_of_lt (lt_of_le_of_lt hmax (by decide))]
  -- The decoder compares the length as a signed number; the maximum keeps it positive.
  have hint : len.toInt = data.length := by
    rw [BitVec.toInt_eq_toNat_of_lt, hnat]
    rw [hnat]
    exact lt_of_le_of_lt (Nat.mul_le_mul_left 2 hmax) (by decide)
  exact ⟨len, decodePartial_encode len, by omega, by omega, hnat.symm⟩

/-- The length of some bytes and the bytes are taken off as one frame. -/
theorem encodes_of_decodeData (hbuf : d.buf = []) (hpos : 0 < data.length)
    (hmax : data.length ≤ MAX_PACKET_SIZE) (h : d.decodeData data = .ok frame) :
    framer.Encodes d (VarInt.encode (BitVec.ofNat 32 data.length) ++ data) frame d :=
  encodes_of_framed hbuf (framed_of_length hpos hmax) h

/-- An attempt changes nothing but the buffer, off which it may take the front. -/
theorem tryNextFrame_buf (d : PacketDecoder) :
    d.tryNextFrame.2 = { d with buf := d.tryNextFrame.2.buf } ∧ d.tryNextFrame.2.buf <:+ d.buf := by
  rcases tryNextFrame_cases d with hnone | ⟨e, -, hself, he⟩ | ⟨header, data, rest, hfr, hbuf⟩
  · rw [hnone]
    exact ⟨rfl, suffix_rfl⟩
  · rw [hself]
    exact ⟨rfl, suffix_rfl⟩
  · rw [tryNextFrame_of_framed hfr hbuf, hbuf]
    exact ⟨rfl, ⟨header ++ data, by simp⟩⟩

variable {d' : PacketDecoder}

/-- A frame that was found is the content of a complete frame at the front of the buffer. -/
theorem framed_of_tryNextFrame (h : d.tryNextFrame = (.ok (some frame), d')) :
    ∃ header data, Framed header data ∧ d.buf = header ++ (data ++ d'.buf) ∧
      d.decodeData data = .ok frame := by
  rcases tryNextFrame_cases d with hnone | ⟨e, -, hself, he⟩ | ⟨header, data, rest, hfr, hbuf⟩
  · rw [hnone] at h
    cases h
  · rw [hself] at h
    cases h
  · rw [tryNextFrame_of_framed hfr hbuf, Prod.mk.injEq] at h
    obtain ⟨hfound, rfl⟩ := h
    cases hdata : d.decodeData data with
    | error e => simp [hdata, Except.map] at hfound
    | ok found =>
      rw [hdata] at hfound
      cases hfound
      exact ⟨header, data, hfr, hbuf, hdata⟩

/-- A frame depends only on the bytes that were taken off the buffer for it. -/
theorem encodes_of_tryNextFrame (h : d.tryNextFrame = (.ok (some frame), d')) :
    ∃ used, d.buf = used ++ d'.buf ∧
      framer.Encodes { d with buf := [] } used frame { d with buf := [] } := by
  obtain ⟨header, data, hfr, hbuf, hdata⟩ := framed_of_tryNextFrame h
  exact ⟨header ++ data, by simp [hbuf], encodes_of_framed rfl hfr hdata⟩

theorem framed_of_encodes {used} (hbuf : d.buf = []) (hbuf' : d'.buf = [])
    (h : framer.Encodes d used frame d') :
    ∃ header data, Framed header data ∧ used = header ++ data ∧ d.decodeData data = .ok frame := by
  have hitem := (step_eq_item_iff _ _ _).1 (h [])
  obtain ⟨header, data, hfr, hused, hdata⟩ := framed_of_tryNextFrame hitem
  exact ⟨header, data, hfr, by simpa [framer, queueBytes, hbuf, hbuf'] using hused, hdata⟩

end PacketDecoder

namespace PacketDecoder

variable {d : PacketDecoder} {threshold : I32}

/-- The body of a compressed frame. -/
theorem decodeData_compressed (hd : d.compressionThreshold = some threshold) {n}
    (hpos : 0 < n) (hmax : n ≤ MAX_PACKET_DATA_SIZE) {compressed id payload}
    (hz : d.decompressor.decompress compressed n = .ok (VarInt.encode id ++ payload)) :
    d.decodeData (VarInt.encode (BitVec.ofNat 32 n) ++ compressed) = .ok { id, payload } := by
  have hn : n < 2 ^ 31 := lt_of_le_of_lt hmax (by decide)
  have hnat : (BitVec.ofNat 32 n).toNat = n := by
    rw [BitVec.toNat_ofNat]
    omega
  have hne : BitVec.ofNat 32 n ≠ 0#32 := by
    intro h0
    rw [← BitVec.toNat_inj, hnat] at h0
    simp at h0
    omega
  have hext : ((BitVec.ofNat 32 n).signExtend 64).toNat = n := by
    rw [BitVec.toNat_signExtend, if_neg, BitVec.toNat_setWidth, hnat]
    · omega
    · rw [BitVec.msb_eq_decide, hnat]
      simpa using hn
  rw [decodeData, hd]
  simp only [decode_encode, if_neg hne, hext]
  rw [if_neg (by omega), hz]
  exact decodePlain_encode id payload

/-! ### Errors -/

/-- The bytes end inside a `VarInt`. -/
def CutOff (bytes : Bytes) : Prop := VarInt.decode bytes = .error (.incomplete "VarInt")

/-- The content of a frame ends inside its data length, or the bytes that should start with
the packet id end inside it. -/
def Unfinished (setting : Option I32) (inflate : Bytes → Bytes) (data : Bytes) : Prop :=
  match setting with
  | none => CutOff data
  | some _ => CutOff data ∨ ∃ dataLen rest, VarInt.decode data = .ok (dataLen, rest) ∧
      if dataLen = 0#32 then CutOff rest
      else (dataLen.signExtend 64).toNat ≤ MAX_PACKET_DATA_SIZE ∧
        (inflate rest).length = (dataLen.signExtend 64).toNat ∧ CutOff (inflate rest)

theorem decode_fatal_iff {bytes e} (h : VarInt.decode bytes = .error e) :
    e.isFatal = true ↔ ¬CutOff bytes := by
  rw [CutOff, h]
  rw [decode_eq] at h
  cases hd : Leb128.decode MAX_SIZE bytes <;> simp only [hd] at h <;> cases h <;>
    simp [ProtocolError.isFatal]

theorem decodePlain_fatal_iff :
    (∀ e, decodePlain data = .error e → e.isFatal = true) ↔ ¬CutOff data := by
  unfold decodePlain
  cases hd : VarInt.decode data with
  | ok found => simp [CutOff, hd]
  | error e => simpa using decode_fatal_iff hd

theorem decodeData_fatal_iff {setting inflate buf} :
    (∀ e, decodeData ⟨buf, setting, Flate2.decompressor inflate⟩ data = .error e →
      e.isFatal = true) ↔ ¬Unfinished setting inflate data := by
  cases setting with
  | none => exact decodePlain_fatal_iff
  | some threshold =>
    simp only [decodeData, Unfinished]
    cases hd : VarInt.decode data with
    | error e => simpa using decode_fatal_iff hd
    | ok found =>
      obtain ⟨dataLen, rest⟩ := found
      have hcut : ¬CutOff data := by simp [CutOff, hd]
      by_cases hzero : dataLen = 0#32
      · simpa [hcut, hzero] using decodePlain_fatal_iff
      · by_cases hmax : (dataLen.signExtend 64).toNat > MAX_PACKET_DATA_SIZE
        · simp [hcut, hzero, hmax, ProtocolError.isFatal]
        · -- The two errors of the decompressor are fatal.
          rcases Nat.lt_trichotomy (inflate rest).length (dataLen.signExtend 64).toNat
            with hlen | hlen | hlen
          · simp [hcut, hzero, hmax, Flate2.decompressor, hlen, hlen.ne, ProtocolError.isFatal]
          · simpa [hcut, hzero, hmax, Flate2.decompressor, hlen, Nat.not_lt.1 hmax] using
              decodePlain_fatal_iff
          · simp [hcut, hzero, hmax, Flate2.decompressor, hlen, hlen.ne', Nat.lt_asymm hlen,
              ProtocolError.isFatal]

/-- Whatever the buffer holds, an error of `try_next_frame` is fatal exactly when no complete
frame at the front of the buffer ends inside one of its own numbers. The error for such a frame
asks for more bytes, although the frame is gone. -/
theorem tryNextFrame_fatal_iff (setting : Option I32) (inflate : Bytes → Bytes) (buf : Bytes) :
    (∀ e, (tryNextFrame ⟨buf, setting, Flate2.decompressor inflate⟩).1 = .error e →
      e.isFatal = true) ↔
    ∀ header data t, Framed header data → buf = header ++ (data ++ t) →
      ¬Unfinished setting inflate data := by
  set d : PacketDecoder := ⟨buf, setting, Flate2.decompressor inflate⟩ with hdef
  have herr {header data t : Bytes} (hfr : Framed header data)
      (hbuf : buf = header ++ (data ++ t)) (e : ProtocolError) :
      d.tryNextFrame.1 = .error e ↔ d.decodeData data = .error e := by
    rw [tryNextFrame_of_framed hfr hbuf]
    cases d.decodeData data <;> simp [Except.map]
  constructor
  · intro h header data t hfr hbuf
    rw [← decodeData_fatal_iff]
    intro e he
    exact h e ((herr hfr hbuf e).2 he)
  · intro h e he
    rcases tryNextFrame_cases d with hnone | ⟨e', hfatal, hself, -⟩ | ⟨header, data, t, hfr, hbuf⟩
    · rw [hnone] at he
      cases he
    · rw [hself] at he
      cases he
      exact hfatal
    · exact (decodeData_fatal_iff).2 (h header data t hfr hbuf) e ((herr hfr hbuf e).1 he)

/-- A frame of one byte that says that more bytes follow. The error asks to wait for them, and
the buffer is empty. -/
theorem tryNextFrame_cutOff :
    let r := tryNextFrame ⟨[0x01, 0x80], none, Flate2.decompressor fun _ => []⟩
    r.1 = .error (.incomplete "VarInt") ∧ r.2.buf = [] ∧
      (ProtocolError.incomplete "VarInt").isFatal = false :=
  ⟨rfl, rfl, rfl⟩

end PacketDecoder

namespace PacketEncoder

variable {e e' : PacketEncoder} {id : I32} {payload data : Bytes}

/-- `append_raw` compresses the id and the payload. -/
def Compresses (e : PacketEncoder) (id : I32) (payload : Bytes) : Prop :=
  ∃ threshold, e.compressionThreshold = some threshold ∧
    (BitVec.ofNat 32 (VarInt.writtenSize id + payload.length)).toInt ≥ threshold.toInt

theorem Compresses.setting_ne_none (h : e.Compresses id payload) :
    e.compressionThreshold ≠ none := by
  obtain ⟨threshold, hth, -⟩ := h
  simp [hth]

/-- The bytes of a frame behind its length. -/
inductive Body (e : PacketEncoder) (id : I32) (payload : Bytes) : Bytes → Prop where
  | plain (h : e.compressionThreshold = none) : Body e id payload (VarInt.encode id ++ payload)
  -- Below the threshold a zero length marks the frame as plain.
  | below {threshold : I32} (h : e.compressionThreshold = some threshold)
      (hlt : ¬e.Compresses id payload) :
      Body e id payload (VarInt.encode 0#32 ++ (VarInt.encode id ++ payload))
  | compressed {output : Bytes} (h : e.Compresses id payload)
      (hc : e.compressor.compress (VarInt.encode id ++ payload) = .ok output) :
      Body e id payload (VarInt.encode
        (BitVec.ofNat 32 (VarInt.encode id ++ payload).length) ++ output)

theorem Body.length_pos (h : e.Body id payload data) : 0 < data.length := by
  cases h <;> exact length_append ▸ Nat.add_pos_left (length_encode_pos _) _

/-- What a successful `append_raw` does: it appends one frame that is not too large. -/
theorem appendRaw_cases (h : e.appendRaw id payload = .ok e') :
    ∃ data, e.Body id payload data ∧ data.length ≤ MAX_PACKET_SIZE ∧
      e' = { e with buf := e.buf ++ (VarInt.encode (BitVec.ofNat 32 data.length) ++ data) } := by
  simp only [appendRaw, writtenSize_eq_length_encode] at h
  cases hth : e.compressionThreshold with
  | none =>
    simp only [hth] at h
    split at h
    · cases h
    · next hle =>
      cases h
      rw [← length_append] at hle ⊢
      exact ⟨_, .plain hth, by omega, by rw [append_assoc, append_assoc]⟩
  | some threshold =>
    simp only [hth] at h
    split at h
    · next hge =>
      cases hc : e.compressor.compress (VarInt.encode id ++ payload) with
      | error err => simp [hc] at h
      | ok compressed =>
        simp only [hc] at h
        split at h
        · cases h
        · next hle =>
          cases h
          rw [← length_append, ← length_append] at hle ⊢
          refine ⟨_, .compressed ⟨threshold, hth, ?_⟩ hc, by omega,
            by rw [append_assoc, append_assoc]⟩
          rwa [writtenSize_eq_length_encode]
    · next hlt =>
      split at h
      · cases h
      · next hle =>
        cases h
        rw [Nat.add_assoc, ← length_append, ← length_append] at hle ⊢
        refine ⟨_, .below hth ?_, by omega, by rw [append_assoc, append_assoc, append_assoc]⟩
        rintro ⟨threshold', hth', hge⟩
        cases hth.symm.trans hth'
        exact hlt (by rwa [writtenSize_eq_length_encode] at hge)

/-- What a successful `append_raw` does without compression. It appends one block, and a
decoder without compression takes that block off as the frame that was appended. -/
theorem appendRaw_spec_of_none (hth : e.compressionThreshold = none)
    (h : e.appendRaw id payload = .ok e') (z : ZlibDecompressor) :
    ∃ block, e' = { e with buf := e.buf ++ block } ∧
      framer.Encodes ⟨[], none, z⟩ block { id, payload } ⟨[], none, z⟩ := by
  obtain ⟨data, hbody, hmax, rfl⟩ := appendRaw_cases h
  refine ⟨_, rfl, encodes_of_decodeData rfl hbody.length_pos hmax ?_⟩
  cases hbody with
  | plain => exact decodePlain_encode id payload
  | below h' => cases hth.symm.trans h'
  | compressed h' => exact absurd hth h'.setting_ne_none

/-- What a successful `append_raw` does. It appends one block, and a decoder with the same
compression setting takes that block off as the frame that was appended. -/
theorem appendRaw_spec {z} (hz : ZlibInverse e.compressor z) (hsize : e.Compresses id payload →
      VarInt.writtenSize id + payload.length ≤ MAX_PACKET_DATA_SIZE)
    (h : e.appendRaw id payload = .ok e') :
    ∃ block, e' = { e with buf := e.buf ++ block } ∧
      framer.Encodes ⟨[], e.compressionThreshold, z⟩ block { id, payload }
        ⟨[], e.compressionThreshold, z⟩ := by
  obtain ⟨data, hbody, hmax, rfl⟩ := appendRaw_cases h
  refine ⟨_, rfl, encodes_of_decodeData rfl hbody.length_pos hmax ?_⟩
  cases hbody with
  | plain hth =>
    rw [hth]
    exact decodePlain_encode id payload
  | below hth =>
    rw [decodeData, hth]
    simp only [decode_encode, if_true, decodePlain_encode]
  | compressed hc hz' =>
    rw [writtenSize_eq_length_encode, ← length_append] at hsize
    have hpos : 0 < (VarInt.encode id ++ payload).length :=
      length_append ▸ Nat.add_pos_left (length_encode_pos _) _
    exact decodeData_compressed hc.choose_spec.1 hpos (hsize hc) (hz _ _ hz')

/-- Data above the limit for decompressed data is not found again behind its length. -/
theorem decodeData_ne_of_large {setting inflate output}
    (hset : setting ≠ none) (hinflate : inflate output = VarInt.encode id ++ payload)
    (hmax : output.length ≤ MAX_PACKET_SIZE)
    (hlarge : ¬(VarInt.encode id ++ payload).length ≤ MAX_PACKET_DATA_SIZE) {buf} :
    decodeData ⟨buf, setting, Flate2.decompressor inflate⟩
      (VarInt.encode (BitVec.ofNat 32 (VarInt.encode id ++ payload).length) ++ output) ≠
        .ok { id, payload } := by
  obtain ⟨threshold, rfl⟩ := Option.ne_none_iff_exists'.1 hset
  simp only [decodeData, decode_encode]
  split
  · -- The length may have wrapped to zero. The compressed bytes are too few to hold the payload.
    intro hplain
    have hshort := length_lt_of_decodePlain hplain
    have hid := writtenSize_le id
    rw [writtenSize_eq_length_encode] at hid
    rw [length_append, MAX_PACKET_DATA_SIZE] at hlarge
    rw [MAX_PACKET_SIZE] at hmax
    dsimp only at hshort
    omega
  · split
    · nofun
    · simp only [Flate2.decompressor, hinflate]
      rw [if_neg (by omega), if_pos (by omega)]
      nofun

/-- A frame that was appended is accepted by a decoder with the same setting exactly when it
was not compressed or its data is within the limit for decompressed data, which only the
decoder checks. -/
theorem appendRaw_accepted_iff {deflate : Bytes → Except ErrorKind Bytes} {inflate : Bytes → Bytes}
    (hz : ∀ input output, deflate input = .ok output → inflate output = input)
    (he : e.compressor = Flate2.compressor deflate) (h : e.appendRaw id payload = .ok e') :
    (tryNextFrame ⟨e'.buf.drop e.buf.length, e.compressionThreshold,
      Flate2.decompressor inflate⟩).1 = .ok (some { id, payload }) ↔
    (e.Compresses id payload → VarInt.writtenSize id + payload.length ≤ MAX_PACKET_DATA_SIZE) := by
  constructor
  · intro hacc hc
    obtain ⟨data, hbody, hmax, rfl⟩ := appendRaw_cases h
    rw [drop_left, tryNextFrame_of_framed (t := [])
      (framed_of_length hbody.length_pos hmax) (by simp)] at hacc
    cases hbody with
    | plain hth => exact absurd hth hc.setting_ne_none
    | below _ hlt => exact absurd hc hlt
    | compressed _ hcompress =>
      rw [writtenSize_eq_length_encode, ← length_append]
      by_contra hlarge
      rw [he, Flate2.compressor] at hcompress
      cases hd : deflate (VarInt.encode id ++ payload) with
      | error kind => simp [hd] at hcompress
      | ok output =>
        simp only [hd, Except.ok.injEq] at hcompress
        subst hcompress
        rw [length_append] at hmax
        generalize hdata : decodeData _ _ = r at hacc
        cases r with
        | error err => cases hacc
        | ok found =>
          cases hacc
          exact decodeData_ne_of_large hc.setting_ne_none (hz _ _ hd) (by omega) hlarge hdata
  · intro hsize
    obtain ⟨block, rfl, hblock⟩ := appendRaw_spec (he ▸ Flate2.zlibInverse hz) hsize h
    have hitem := (step_eq_item_iff _ _ _).1 (hblock [])
    rw [append_nil] at hitem
    rw [drop_left]
    exact congrArg Prod.fst hitem

theorem appendRaw_accepted_stored :
    let e : PacketEncoder := ⟨[], some 0#32, Flate2.compressor StoredZlib.deflate⟩
    ∃ e', e.appendRaw 0#32 [0x2A] = .ok e' ∧
      (tryNextFrame ⟨e'.buf.drop e.buf.length, e.compressionThreshold,
        Flate2.decompressor StoredZlib.inflate⟩).1 = .ok (some { id := 0#32, payload := [0x2A] }) := by
  intro e
  obtain ⟨e', he'⟩ : ∃ e', e.appendRaw 0#32 [0x2A] = .ok e' := ⟨_, rfl⟩
  exact ⟨e', he', (appendRaw_accepted_iff StoredZlib.inflate_deflate rfl he').2 fun _ => by decide⟩

/-! A compressor for zeros, whose output is their number. -/

namespace ZeroZlib

def deflate (input : Bytes) : Except ErrorKind Bytes :=
  if input.length < 2 ^ 32 ∧ input = List.replicate input.length 0 then
    .ok (VarInt.encode (BitVec.ofNat 32 input.length))
  else .error .other

def inflate (stream : Bytes) : Bytes :=
  match VarInt.decode stream with
  | .ok (n, _) => List.replicate n.toNat 0
  | .error _ => []

theorem inflate_deflate (input output) (h : deflate input = .ok output) :
    inflate output = input := by
  unfold deflate at h
  split at h
  · next hzero =>
    cases h
    have hdec := decode_encode (BitVec.ofNat 32 input.length) []
    rw [append_nil] at hdec
    rw [inflate, hdec]
    simp only [BitVec.toNat_ofNat]
    rw [Nat.mod_eq_of_lt hzero.1, ← hzero.2]
  · cases h

theorem compress_zeros {n} (h : n + 1 < 4294967296) :
    (Flate2.compressor deflate).compress (VarInt.encode 0#32 ++ List.replicate n 0) =
      .ok (VarInt.encode (BitVec.ofNat 32 (n + 1))) := by
  have hzeros : VarInt.encode 0#32 ++ List.replicate n 0 = List.replicate (n + 1) 0 := rfl
  simp [hzeros, Flate2.compressor, deflate, h]

end ZeroZlib

/-- A payload of zeros, as large as decompressed data may be. With its id it is larger by one
byte, and the nine bytes that are sent for it are refused. -/
theorem zeros_refused :
    ∃ e', appendRaw ⟨[], some 256#32, Flate2.compressor ZeroZlib.deflate⟩ 0#32
        (List.replicate MAX_PACKET_DATA_SIZE 0) = .ok e' ∧
      (tryNextFrame ⟨e'.buf, some 256#32, Flate2.decompressor ZeroZlib.inflate⟩).1 =
        .error (.tooLarge MAX_PACKET_DATA_SIZE (MAX_PACKET_DATA_SIZE + 1)) := by
  refine ⟨⟨[8, 0x81, 0x80, 0x80, 0x04, 0x81, 0x80, 0x80, 0x04], some 256#32,
    Flate2.compressor ZeroZlib.deflate⟩, ?_, rfl⟩
  rw [appendRaw]
  simp only [length_replicate, ZeroZlib.compress_zeros (n := MAX_PACKET_DATA_SIZE) (by decide)]
  rfl

end PacketEncoder

end Infrarust
