import Infrarust.Core.Legacy
import Infrarust.Proofs.Core.Passthrough

/-!
# `Infrarust.Proofs.Core.Legacy`: which clients are taken for legacy ones, and what is read of them

The first byte of a framed handshake is the low part of its length. It is that of a legacy ping
exactly when the length has two bytes and the low seven bits are 126
(`handshake_modern_iff`).

A legacy request depends on how its bytes were split between `buffered_data` and the stream
(`handle_split_iff`). A login forgets all of the buffer but the first byte. A ping goes wrong
where the buffer ends inside a request, or where the message of 1.6 is cut short by its own
length. The readers are compared with readers over the bytes that are left in the stream
(`Follows`), so the segments do not matter.
-/

set_option autoImplicit false

namespace Infrarust

open LegacyDetection FieldReader Handshake List

/-! ### The first byte of a handshake -/

/-- The length that is written in front of a handshake: its id, version, address, port and next
state. -/
def Handshake.frameLength (p : Handshake) : Nat :=
  1 + VarInt.writtenSize (BitVec.ofInt 32 p.protocolVersion.num)
    + VarInt.writtenSize (BitVec.ofNat 32 p.serverAddress.utf8ByteSize)
    + p.serverAddress.utf8ByteSize + 2 + 1

variable {n : Nat} {bytes : Bytes}

theorem head_encode (h : n < 2 ^ 32) (rest) :
    (VarInt.encode (BitVec.ofNat 32 n) ++ rest).head?
      = some (UInt8.ofNat (if n < 128 then n else n % 128 + 128)) := by
  have hnat : (BitVec.ofNat 32 n).toNat = n := by
    rw [BitVec.toNat_ofNat]
    omega
  rw [VarInt.encode_eq_leb128, hnat]
  cases Nat.lt_or_ge n 128 with
  | inl hlt => rw [Leb128.encode_of_lt hlt, if_pos hlt]; rfl
  | inr hge => rw [Leb128.encode_of_le hge, if_neg (by omega)]; rfl

/-- A length of three or more is taken for a legacy ping exactly when its first byte is `0xFE`. -/
theorem detect_length (h : 3 ≤ n) :
    detect (UInt8.ofNat (if n < 128 then n else n % 128 + 128)) = .modern
      ↔ ¬(128 ≤ n ∧ n % 128 = 126) := by
  have hbyte : (UInt8.ofNat (if n < 128 then n else n % 128 + 128)).toNat
      = if n < 128 then n else n % 128 + 128 := by
    rw [UInt8.toNat_ofNat']
    split <;> omega
  have hping : UInt8.ofNat (if n < 128 then n else n % 128 + 128) = 0xFE
      ↔ 128 ≤ n ∧ n % 128 = 126 := by
    rw [← UInt8.toNat_inj, hbyte]
    show (if n < 128 then n else n % 128 + 128) = 254 ↔ _
    split <;> omega
  have hlogin : UInt8.ofNat (if n < 128 then n else n % 128 + 128) ≠ 0x02 := by
    rw [ne_eq, ← UInt8.toNat_inj, hbyte]
    show ¬(if n < 128 then n else n % 128 + 128) = 2
    split <;> omega
  rw [detect, if_neg hlogin, ← hping]
  split <;> simp [*]

variable {p : Handshake}

/-- What was written of a handshake is read back, with the version as an `i32`. -/
theorem Handshake.decode_encode {payload} (h : p.encode = .ok payload)
    (haddr : p.serverAddress.length ≤ 255) :
    payload.length + 1 = p.frameLength ∧
      ∃ packet, Handshake.decode.run payload = .ok (packet, []) := by
  rw [Handshake.encode] at h
  cases hstr : FieldWriter.string p.serverAddress with
  | error e =>
    rw [hstr] at h
    cases h
  | ok address =>
    rw [hstr] at h
    cases hid : p.nextState.handshakeId with
    | none =>
      rw [hid] at h
      cases h
    | some id =>
      rw [hid] at h
      cases h
      have hlength := length_of_string hstr
      obtain ⟨next, hnext⟩ : ∃ next, ConnectionState.fromHandshakeId id.toInt = some next := by
        cases hst : p.nextState <;> rw [hst] at hid <;> cases hid <;> exact ⟨_, rfl⟩
      constructor
      · have hid1 : (VarInt.encode id).length = 1 := by
          cases hst : p.nextState <;> rw [hst] at hid <;> cases hid <;> rfl
        simp only [length_append, length_toBeBytes, hlength, hid1,
          ← VarInt.writtenSize_eq_length_encode, frameLength]
        omega
      · rw [Handshake.decode, append_assoc, append_assoc, (reads_readVarInt _).run_bind,
          (reads_readStringBounded hstr haddr).run_bind, (reads_readU16Be p.serverPort).run_bind,
          ← append_nil (VarInt.encode id), (reads_readVarInt id).run_bind, hnext]
        exact ⟨_, rfl⟩

theorem Handshake.frameLength_le (haddr : p.serverAddress.length ≤ 255) :
    p.frameLength ≤ MAX_PACKET_SIZE := by
  have hsize := utf8ByteSize_le p.serverAddress
  have hver := VarInt.writtenSize_le (BitVec.ofInt 32 p.protocolVersion.num)
  have hprefix := VarInt.writtenSize_le (BitVec.ofNat 32 p.serverAddress.utf8ByteSize)
  rw [frameLength, MAX_PACKET_SIZE]
  omega

/-- The frame of a handshake with an address of at most 255 characters. -/
theorem appendRaw_handshake (deflate) {payload : Bytes}
    (hlength : payload.length + 1 = p.frameLength) (haddr : p.serverAddress.length ≤ 255) :
    (PacketEncoder.new deflate).appendRaw 0x00#32 payload
      = .ok { PacketEncoder.new deflate with
          buf := VarInt.encode (BitVec.ofNat 32 p.frameLength) ++ (VarInt.encode 0#32 ++ payload) } := by
  have hid : VarInt.writtenSize 0#32 + payload.length = p.frameLength := by
    rw [← hlength, Nat.add_comm]
    rfl
  simp only [PacketEncoder.appendRaw, PacketEncoder.new, hid,
    if_neg (Nat.not_lt.mpr (frameLength_le haddr)), nil_append, append_assoc]

theorem frameHandshake_spec {deflate} (h : frameHandshake deflate p = .ok bytes)
    (haddr : p.serverAddress.length ≤ 255) (inflate) : ∃ payload rest packet,
    bytes = VarInt.encode (BitVec.ofNat 32 p.frameLength) ++ rest ∧
    PacketDecoder.framer.Encodes (.new inflate) bytes ⟨0x00#32, payload⟩ (.new inflate) ∧
    Handshake.decode.run payload = .ok (packet, []) := by
  rw [frameHandshake] at h
  cases hencode : p.encode with
  | error e =>
    rw [hencode] at h
    cases h
  | ok payload =>
    obtain ⟨hlength, packet, hdec⟩ := decode_encode hencode haddr
    have happ := appendRaw_handshake deflate hlength haddr
    rw [hencode] at h
    simp only [happ] at h
    cases h
    obtain ⟨block, hblock, henc⟩ := PacketEncoder.appendRaw_spec_of_none rfl happ inflate
    obtain rfl : _ = block := congrArg PacketEncoder.buf hblock
    exact ⟨payload, _, packet, rfl, henc, hdec⟩

/-- A handshake with an address of at most 255 characters is written. -/
theorem frameHandshake_ok (deflate) {id}
    (haddr : p.serverAddress.length ≤ 255) (hid : p.nextState.handshakeId = some id) :
    ∃ bytes, frameHandshake deflate p = .ok bytes := by
  obtain ⟨address, hstr⟩ := exists_string_iff.mpr (haddr.trans (by decide))
  obtain ⟨payload, hencode⟩ : ∃ payload, p.encode = .ok payload := by
    rw [Handshake.encode, hstr, hid]
    exact ⟨_, rfl⟩
  rw [frameHandshake, hencode]
  simp only [appendRaw_handshake deflate (decode_encode hencode haddr).1 haddr]
  exact ⟨_, rfl⟩

/-- A handshake is told from a legacy client by its first byte, and parsed however it arrives,
exactly when its length does not begin with the byte of a legacy ping. -/
theorem handshake_modern_iff (strings : Strings) (inflate : ZlibDecompressor)
    (deflate : ZlibCompressor) (p : Handshake) (haddr : p.serverAddress.length ≤ 255)
    (bytes : Bytes) (h : frameHandshake deflate p = .ok bytes) :
    (bytes.head?.map detect = some .modern ∧
      ∀ (s : ClientSocket) (rest : Bytes), s.bytes = bytes ++ rest →
        ∃ data, (s.parseHandshake strings inflate).1 = .ok (some (data, bytes)))
      ↔ ¬(128 ≤ p.frameLength ∧ p.frameLength % 128 = 126) := by
  obtain ⟨payload, left, packet, hbytes, henc, hdec⟩ := frameHandshake_spec h haddr inflate
  have hsmall : p.frameLength < 2 ^ 32 := (frameLength_le haddr).trans_lt (by decide)
  have hthree : 3 ≤ p.frameLength := by
    rw [frameLength]
    omega
  have hhead := head_encode hsmall left
  rw [← hbytes] at hhead
  rw [← detect_length hthree, hhead]
  constructor
  · rintro ⟨hdetect, -⟩
    exact Option.some.inj hdetect
  · intro hmodern
    refine ⟨congrArg some hmodern, ?_⟩
    intro s rest hs
    have hping : bytes.head? ≠ some 0xFE := by
      rw [hhead]
      intro hfe
      rw [Option.some.inj hfe] at hmodern
      exact absurd hmodern (by decide)
    obtain ⟨s', hparse, -⟩ := ClientSocket.parseHandshake_takes strings henc hdec hping hs
    rw [hparse]
    exact ⟨_, rfl⟩

/-- A compressor that is never asked, for examples without compression. -/
def noCompressor : ZlibCompressor := ⟨fun _ => .error (.invalid "no zlib")⟩

/-- A handshake of 1.21 with a short address. -/
def shortHandshake : Handshake := ⟨.V1_21, "mc.example.com", 25565, .login⟩

theorem handshake_modern_short :
    ∃ bytes, frameHandshake noCompressor shortHandshake = .ok bytes ∧
      bytes.head?.map detect = some .modern := by
  have haddr : shortHandshake.serverAddress.length ≤ 255 := by decide
  obtain ⟨bytes, h⟩ := frameHandshake_ok noCompressor haddr rfl
  have hiff := handshake_modern_iff asciiStrings (Flate2.decompressor id) noCompressor
    shortHandshake haddr bytes h
  exact ⟨bytes, h, (hiff.2 (by decide)).1⟩

/-- A handshake of 1.21 with an address of 246 bytes. -/
def longHandshake : Handshake := ⟨.V1_21, String.ofList (List.replicate 246 'a'), 25565, .login⟩

theorem utf8ByteSize_replicate (n) : (String.ofList (List.replicate n 'a')).utf8ByteSize = n := by
  induction n with
  | zero => rfl
  | succ n ih =>
    rw [replicate_succ, String.ofList_cons, String.utf8ByteSize_append,
      String.utf8ByteSize_singleton, ih]
    show 1 + n = n + 1
    omega

/-- The frame of the long handshake has 254 bytes, and begins with the byte of a legacy ping. -/
theorem handshake_taken_for_ping :
    longHandshake.serverAddress.length ≤ 255 ∧
      ((frameHandshake noCompressor longHandshake).toOption.bind List.head?).map
        detect = some .legacyPing := by
  have haddr : longHandshake.serverAddress.length ≤ 255 := by
    rw [longHandshake, String.length_ofList, length_replicate]
    decide
  have hlength : longHandshake.frameLength = 254 := by
    rw [frameLength, longHandshake, utf8ByteSize_replicate]
    rfl
  obtain ⟨bytes, h⟩ := frameHandshake_ok noCompressor haddr rfl
  obtain ⟨_, rest, _, hbytes, -, -⟩ := frameHandshake_spec h haddr (Flate2.decompressor id)
  refine ⟨haddr, ?_⟩
  rw [h]
  show bytes.head?.map detect = _
  rw [hbytes, hlength, head_encode (by decide)]
  rfl

/-! ### Reading off the stream -/

namespace Legacy

/-- The error of a read that runs into the end of the stream. -/
def endError (s : TcpStream) : ErrorKind :=
  match s.ending with
  | .ok () => .unexpectedEof
  | .error kind => kind

/-- What is read off the stream `s` is what is read off its bytes, or the error of its end. -/
def Agrees {α : Type} (s : TcpStream) (out : Except ErrorKind (α × TcpStream)) :
    Except ProtocolError (α × Bytes) → Prop
  | .ok (a, rest) => ∃ incoming, out = .ok (a, { s with incoming }) ∧ incoming.flatten = rest
  | .error _ => out = .error (endError s)

/-- Whatever the segments, `p` reads off the stream what `q` reads off its bytes. -/
def Follows {α : Type} (p : StreamReader α) (q : FieldReader α) : Prop :=
  ∀ s : TcpStream, Agrees s (p.run s) (q.run s.incoming.flatten)

variable {α : Type} {later rest : Bytes} {forwarder : Forwarder} {backend : TcpStream}

theorem Follows.pure (a) : Follows (Pure.pure a : StreamReader α) (Pure.pure a) :=
  fun s => ⟨s.incoming, rfl, rfl⟩

theorem Follows.bind {β : Type} {p : StreamReader α} {q : FieldReader α} {f : α → StreamReader β}
    {g : α → FieldReader β} (h : Follows p q) (h' : ∀ a, Follows (f a) (g a)) :
    Follows (p >>= f) (q >>= g) := by
  intro s
  have hp := h s
  rw [StateT.run_bind, StateT.run_bind]
  cases hq : q.run s.incoming.flatten with
  | error e =>
    rw [hq, Agrees] at hp
    rw [hp]
    rfl
  | ok r =>
    obtain ⟨a, rest⟩ := r
    rw [hq] at hp
    obtain ⟨incoming, hp, rfl⟩ := hp
    rw [hp]
    exact h' a { s with incoming }

theorem Follows.ite {c : Prop} [Decidable c] {p p' : StreamReader α} {q q' : FieldReader α}
    (h : Follows p q) (h' : Follows p' q') :
    Follows (if c then p else p') (if c then q else q') := by
  split
  · exact h
  · exact h'

/-- The loop of `read_exact` gives the first `n` bytes, or fails when there are fewer. -/
theorem follows_readExactLoop {fuel} : ∀ n ≤ fuel,
    Follows (fun s => readExactLoop fuel n s) (FieldReader.readExact n) := by
  induction fuel with
  | zero =>
    intro n hn s
    obtain rfl : n = 0 := by omega
    exact ⟨s.incoming, rfl, rfl⟩
  | succ fuel ih =>
    intro n hn s
    cases n with
    | zero => exact ⟨s.incoming, rfl, rfl⟩
    | succ n =>
      show Agrees s (readExactLoop (fuel + 1) (n + 1) s)
        (if s.incoming.flatten.length < n + 1 then _ else .ok (_, _))
      rcases s.read_cases (Nat.succ_pos n) with
        ⟨hempty, hread⟩ | ⟨b, data, incoming, -, hread, hbytes, hlen⟩
      · rw [hempty]
        show readExactLoop _ _ s = .error (endError s)
        rw [readExactLoop, hread, endError]
        cases s.ending <;> rfl
      · have hloop := ih (n + 1 - (b :: data).length) (by rw [length_cons]; omega)
          { s with incoming }
        have hadd : (b :: data ++ incoming.flatten).length < n + 1
            ↔ incoming.flatten.length < n + 1 - (b :: data).length := by
          rw [length_append]
          omega
        rw [readExactLoop, hread, hbytes, if_congr hadd rfl rfl, take_append,
          drop_append, take_of_length_le hlen, drop_of_length_le hlen, nil_append]
        change Agrees _ (readExactLoop _ _ _) (if _ then _ else .ok (_, _)) at hloop
        split_ifs at hloop ⊢
        · rw [Agrees] at hloop
          simp only [hloop]
          rfl
        · obtain ⟨left, hloop, hleft⟩ := hloop
          refine ⟨left, ?_, hleft⟩
          simp only [hloop]

theorem follows_readExact (n) : Follows (readExact n) (FieldReader.readExact n) :=
  follows_readExactLoop n (Nat.le_refl n)

/-! ### The data of a ping -/

/-- `readRemainingV16Data` over bytes. -/
def remainingV16Data : FieldReader Bytes := do
  let byte ← FieldReader.readExact 1
  if byte ≠ [0xFA] then return byte
  let lenBytes ← FieldReader.readExact 2
  let strData ← FieldReader.readExact (FieldReader.fromBeBytes lenBytes * 2)
  let dataLenBytes ← FieldReader.readExact 2
  let remaining ← FieldReader.readExact (FieldReader.fromBeBytes dataLenBytes)
  return byte ++ lenBytes ++ strData ++ dataLenBytes ++ remaining

theorem follows_readRemainingV16Data : Follows readRemainingV16Data remainingV16Data := by
  refine (follows_readExact 1).bind fun byte => Follows.ite (.pure byte) ?_
  refine (follows_readExact 2).bind fun lenBytes => ?_
  refine (follows_readExact _).bind fun strData => ?_
  refine (follows_readExact 2).bind fun dataLenBytes => ?_
  exact (follows_readExact _).bind fun remaining => .pure _

/-- Where the data of a message of 1.6 begins: behind the channel and the data's length. -/
def dataStart (message : Bytes) : Nat := 2 + u16At message 0 * 2 + 2

/-- The length of a message of 1.6, as its two length fields give it. -/
def messageLength (message : Bytes) : Nat :=
  dataStart message + u16At message (2 + u16At message 0 * 2)

theorem remainingV16Data_of_ne {byte} (h : byte ≠ 0xFA) :
    remainingV16Data.run (byte :: later) = .ok ([byte], later) := by
  show StateT.run (if [byte] ≠ [0xFA] then _ else _) later = _
  rw [if_pos (by simpa using h)]
  rfl

/-- A message is read up to the end that its length fields give. -/
theorem remainingV16Data_message {message} :
    remainingV16Data.run (0xFA :: message)
      = if message.length < messageLength message then .error (.io .unexpectedEof)
        else .ok (0xFA :: message.take (messageLength message),
          message.drop (messageLength message)) := by
  have hfst : ¬(([0xFA] : Bytes) ≠ [0xFA]) := by simp
  rw [remainingV16Data, run_readExact_bind, if_neg (by simp)]
  show StateT.run (if ([0xFA] : Bytes) ≠ [0xFA] then _ else _) message = _
  rw [if_neg hfst]
  simp only [run_readExact_bind, drop_drop, length_drop]
  -- each field is there or the message is too short
  set n := u16At message 0 * 2 with hn
  set d := u16At message (2 + n) with hd
  have htotal : messageLength message = 2 + n + 2 + d := rfl
  have hlen : FieldReader.fromBeBytes (message.take 2) * 2 = n := rfl
  have hdata : FieldReader.fromBeBytes ((message.drop (2 + n)).take 2) = d := rfl
  have htake : message.take (2 + n + 2 + d) = message.take 2
      ++ (message.drop 2).take n ++ (message.drop (2 + n)).take 2
      ++ (message.drop (2 + n + 2)).take d := by
    rw [take_add, take_add, take_add]
  rw [hlen, hdata, htotal, htake]
  split_ifs <;> first | omega | rfl

/-- `readLegacyPingData`, of the buffered bytes after the first and the bytes of the stream. -/
def pingData (buffered : Bytes) : Bytes → Bytes
  | [] => buffered
  | next :: later =>
    if next = 0x01 then
      match remainingV16Data.run later with
      | .error _ => buffered ++ [next]
      | .ok (more, _) => buffered ++ [next] ++ more
    else buffered ++ [next]

theorem readLegacyPingData_eq (s) :
    readLegacyPingData s = pingData (s.bufferedData.drop 1) s.stream.incoming.flatten := by
  have hone := follows_readExact 1 s.stream
  rw [readLegacyPingData]
  cases hbytes : s.stream.incoming.flatten with
  | nil =>
    rw [hbytes] at hone
    rw [show (readExact 1).run s.stream = _ from hone]
    rfl
  | cons next later =>
    rw [hbytes] at hone
    obtain ⟨incoming, hread, hlater⟩ := hone
    have hmore := follows_readRemainingV16Data { s.stream with incoming }
    rw [hread, pingData]
    simp only [take_succ_cons, take_zero, List.cons.injEq, and_true]
    rw [show incoming.flatten = later from hlater] at hmore
    split
    · cases hrun : remainingV16Data.run later with
      | error e =>
        rw [hrun, Agrees] at hmore
        rw [hmore]
      | ok r =>
        rw [hrun] at hmore
        obtain ⟨incoming', hread', -⟩ := hmore
        rw [hread']
    · rfl

/-! ### The request of a ping -/

variable {s : ClientSocket} {data : Bytes} {e : ProtocolError} {message : Bytes} {b : UInt8}
  {buffered : Bytes}

theorem u16At_append {pos} (h : pos + 2 ≤ data.length) {more} :
    u16At (data ++ more) pos = u16At data pos := by
  rw [u16At, u16At, drop_append_of_le_length (by omega),
    take_append_of_le_length (by rw [length_drop]; omega)]

theorem u16At_take {pos} (h : pos + 2 ≤ n) : u16At (data.take n) pos = u16At data pos := by
  rw [u16At, u16At, drop_take, take_take, Nat.min_eq_left (by omega)]

theorem u16At_lt (data pos) : u16At data pos < 65536 :=
  (fromBeBytes_lt _).trans_le (Nat.pow_le_pow_right (by decide) (length_take_le 2 _))

/-- The bytes of the hostname in the data of a message. -/
def hostnameBytes (data : Bytes) : Bytes := (data.drop 3).take (u16At data 1 * 2)

/-- The data of a message holds all that the parser looks at: the hostname, and the port if the
hostname is a text. -/
def HostFits (data : Bytes) : Prop :=
  3 + u16At data 1 * 2 ≤ data.length ∧
    (3 + u16At data 1 * 2 + 4 ≤ data.length ∨ (decodeUtf16be (hostnameBytes data)).isOk = false)

/-- The parser behind its checks of the hostname's length. -/
theorem parsePingHost_of_le (h : 3 + u16At data 1 * 2 ≤ data.length) :
    parsePingHost data =
      match decodeUtf16be (hostnameBytes data) with
      | .error e => .error e
      | .ok hostname =>
        if data.length < 3 + u16At data 1 * 2 + 4 then
          .error (.invalid "V1_6 ping: missing port")
        else
          .ok { variant := .v1_6, hostname := some hostname
                port := some (i32At data (3 + u16At data 1 * 2)), protocolVersion := data.head? } := by
  rw [parsePingHost, if_neg (by omega), if_neg (by omega)]
  exact if_neg (by omega)

theorem parsePingHost_append (h : HostFits data) {more} :
    parsePingHost (data ++ more) = parsePingHost data := by
  obtain ⟨hhost, hport⟩ := h
  have hlen : u16At (data ++ more) 1 = u16At data 1 := u16At_append (by omega)
  have hname : hostnameBytes (data ++ more) = hostnameBytes data := by
    rw [hostnameBytes, hostnameBytes, hlen, drop_append_of_le_length (by omega),
      take_append_of_le_length (by rw [length_drop]; omega)]
  rw [parsePingHost_of_le hhost, parsePingHost_of_le (by rw [hlen, length_append]; omega), hname]
  cases hdec : decodeUtf16be (hostnameBytes data) with
  | error e => rfl
  | ok hostname =>
    have hfit : 3 + u16At data 1 * 2 + 4 ≤ data.length := by
      refine hport.resolve_right ?_
      rw [hdec]
      simp [Except.isOk, Except.toBool]
    have hlong : ¬(data ++ more).length < 3 + u16At data 1 * 2 + 4 := by
      rw [length_append]
      omega
    have hhead : (data ++ more).head? = data.head? := by
      cases data with
      | nil => simp at hhost
      | cons b rest => rfl
    have hval : i32At (data ++ more) (3 + u16At data 1 * 2)
        = i32At data (3 + u16At data 1 * 2) := by
      rw [i32At, i32At, drop_append_of_le_length (by omega),
        take_append_of_le_length (by rw [length_drop]; omega)]
    simp only [hlen, hhead, hval, if_neg hlong, if_neg (Nat.not_lt.mpr hfit)]

/-- The errors of a message whose data is too short. -/
def tooShort : List ProtocolError :=
  [.invalid "V1_6 ping: missing protocol version", .invalid "V1_6 ping: missing hostname length",
    .invalid "V1_6 ping: truncated hostname", .invalid "V1_6 ping: missing port"]

theorem parsePingHost_of_not_fits (h : ¬HostFits data) :
    ∃ e ∈ tooShort, parsePingHost data = .error e := by
  cases Nat.lt_or_ge data.length (3 + u16At data 1 * 2) with
  | inl hshort =>
    rw [parsePingHost]
    split
    · exact ⟨_, by simp [tooShort], rfl⟩
    · split
      · exact ⟨_, by simp [tooShort], rfl⟩
      · exact ⟨_, by simp [tooShort], if_pos hshort⟩
  | inr hhost =>
    rw [parsePingHost_of_le hhost]
    cases hdec : decodeUtf16be (hostnameBytes data) with
    | error e =>
      refine absurd ⟨hhost, .inr ?_⟩ h
      rw [hdec]
      rfl
    | ok hostname =>
      have hport : data.length < 3 + u16At data 1 * 2 + 4 := by
        by_contra hle
        exact h ⟨hhost, .inl (by omega)⟩
      exact ⟨_, by simp [tooShort], if_pos hport⟩

theorem decodeUtf16be_not_tooShort (h : decodeUtf16be data = .error e) : e ∉ tooShort := by
  rw [decodeUtf16be] at h
  split at h
  · cases h
    simp [tooShort]
  · split at h <;> cases h
    simp [tooShort]

/-- With enough bytes the parser does not run out of them. -/
theorem parsePingHost_of_long (h : 131077 ≤ data.length) (he : e ∈ tooShort) :
    parsePingHost data ≠ .error e := by
  have hlen := u16At_lt data 1
  rw [parsePingHost_of_le (by omega)]
  cases hdec : decodeUtf16be (hostnameBytes data) with
  | error e' =>
    intro herr
    cases herr
    exact decodeUtf16be_not_tooShort hdec he
  | ok hostname =>
    simp only [if_neg (show ¬data.length < 3 + u16At data 1 * 2 + 4 by omega)]
    exact nofun

/-! ### Messages -/

/-- The data of a message. -/
def messageData (message : Bytes) : Bytes :=
  (message.drop (dataStart message)).take (u16At message (2 + u16At message 0 * 2))

theorem parseV16Ping_of_le (h : dataStart message ≤ message.length) :
    parseV16Ping message = parsePingHost (message.drop (dataStart message)) := by
  rw [dataStart] at h
  rw [parseV16Ping, if_neg (by omega)]
  exact if_neg (by omega)

theorem messageLength_append (h : messageLength message ≤ message.length) (more) :
    dataStart (message ++ more) = dataStart message ∧
      messageLength (message ++ more) = messageLength message := by
  rw [messageLength, dataStart] at h
  have hchan : u16At (message ++ more) 0 = u16At message 0 := u16At_append (by omega)
  have hdata : u16At (message ++ more) (2 + u16At message 0 * 2)
      = u16At message (2 + u16At message 0 * 2) := u16At_append (by omega)
  simp only [messageLength, dataStart, hchan, hdata, and_self]

/-- What the parser makes of exactly one message. -/
theorem parseV16Ping_take (h : messageLength message ≤ message.length) :
    parseV16Ping (message.take (messageLength message)) = parsePingHost (messageData message) := by
  have hstart : dataStart (message.take (messageLength message)) = dataStart message := by
    rw [dataStart, dataStart, u16At_take (by rw [messageLength, dataStart]; omega)]
  have hle : dataStart message ≤ (message.take (messageLength message)).length := by
    rw [length_take, Nat.min_eq_left h]
    exact Nat.le_add_right _ _
  rw [parseV16Ping_of_le (hstart.trans_le hle), hstart, drop_take, messageData,
    messageLength, Nat.add_sub_cancel_left]

/-- The parser also looks at what follows the message. -/
theorem parseV16Ping_append (h : messageLength message ≤ message.length) (more) :
    parseV16Ping (message ++ more)
      = parsePingHost (messageData message ++ (message.drop (messageLength message) ++ more)) := by
  have hstart := (messageLength_append h more).1
  have hle : dataStart message ≤ message.length := Nat.le_of_add_right_le h
  rw [parseV16Ping_of_le (by rw [hstart, length_append]; omega), hstart,
    drop_append_of_le_length hle, messageData, messageLength, ← drop_drop,
    ← append_assoc, take_append_drop]

theorem parseV16Ping_ne_v1_4 : parseV16Ping data ≠ .ok { variant := .v1_4 } := by
  simp only [parseV16Ping, parsePingHost]
  repeat' split
  all_goals exact nofun

/-- The buffered bytes after the first end before a ping of 1.4 begins to say that it is one, or
after all that the parser looks at. -/
def PingSplit : Bytes → Prop
  | 0x01 :: 0xFA :: message =>
    messageLength message ≤ message.length ∧ HostFits (messageData message)
  | [0x01] => False
  | _ => True

/-- The baseline: nothing but the first byte is buffered, and a message is read whole. -/
theorem pingData_nil_message (message) :
    pingData [] (0x01 :: 0xFA :: message)
      = if message.length < messageLength message then [0x01]
        else 0x01 :: 0xFA :: message.take (messageLength message) := by
  rw [pingData, if_pos rfl, remainingV16Data_message]
  split <;> split <;> simp_all

theorem parse_baseline (h : messageLength message ≤ message.length) (later) :
    parseLegacyPing (pingData [] (0x01 :: 0xFA :: (message ++ later)))
      = parsePingHost (messageData message) := by
  have hlength := (messageLength_append h later).2
  rw [pingData_nil_message, hlength, take_append_of_le_length h, length_append, if_neg (by omega)]
  exact parseV16Ping_take h

theorem pingData_cons : ∃ more, pingData (b :: buffered) later = b :: (buffered ++ more) := by
  cases later with
  | nil => exact ⟨[], by simp [pingData]⟩
  | cons next later =>
    rw [pingData]
    split
    · cases remainingV16Data.run later with
      | error e => exact ⟨[next], rfl⟩
      | ok r => exact ⟨[next] ++ r.1, by simp⟩
    · exact ⟨[next], rfl⟩

theorem parseLegacyPing_of_ne (h : b ≠ 0x01) :
    parseLegacyPing (b :: rest) = .ok { variant := .beta } := by
  rw [parseLegacyPing]
  all_goals
    rintro message heq
    exact h (List.cons.inj heq).1

theorem parseLegacyPing_of_ne_message (h : b ≠ 0xFA) :
    parseLegacyPing (0x01 :: b :: rest) = .ok { variant := .v1_4 } := by
  rw [parseLegacyPing]
  rintro message heq
  exact h (List.cons.inj heq).1

theorem pingSplit_of_ne (h : b ≠ 0x01) : PingSplit (b :: rest) := by
  rw [PingSplit]
  · trivial
  · rintro message heq
    exact h (List.cons.inj heq).1
  · rintro heq
    exact h (List.cons.inj heq).1

theorem pingSplit_of_ne_message (h : b ≠ 0xFA) : PingSplit (0x01 :: b :: rest) := by
  rw [PingSplit]
  · trivial
  · rintro message heq
    exact h (List.cons.inj (List.cons.inj heq).2).1
  · exact nofun

/-- If the split is right the request is the one of the baseline, whatever comes later. -/
theorem parse_pingData_of_split (h : PingSplit buffered) :
    parseLegacyPing (pingData buffered later)
      = parseLegacyPing (pingData [] (buffered ++ later)) := by
  cases buffered with
  | nil => rfl
  | cons b rest =>
    obtain ⟨more, hmore⟩ := pingData_cons
    rw [hmore, cons_append]
    by_cases hb : b = 0x01
    · subst hb
      cases rest with
      | nil => exact absurd h (by simp [PingSplit])
      | cons x message =>
        rw [cons_append, cons_append]
        by_cases hx : x = 0xFA
        · subst hx
          obtain ⟨hcomp, hfits⟩ : messageLength message ≤ message.length ∧
            HostFits (messageData message) := h
          rw [parse_baseline hcomp]
          show parseV16Ping (message ++ more) = _
          rw [parseV16Ping_append hcomp, parsePingHost_append hfits]
        · rw [pingData, if_pos rfl, remainingV16Data_of_ne hx]
          simp only [nil_append, cons_append]
          rw [parseLegacyPing_of_ne_message hx, parseLegacyPing_of_ne_message hx]
    · rw [pingData, if_neg hb, nil_append, parseLegacyPing_of_ne hb, parseLegacyPing_of_ne hb]

/-- A message that is read whole and has 131077 bytes behind `0x01`. -/
def longMessage : Bytes := [0xFF, 0xFF] ++ List.replicate 131070 0 ++ [0, 1, 0]

theorem length_longMessage : longMessage.length = 131075 := by
  rw [longMessage, length_append, length_append, length_replicate]
  rfl

theorem remainingV16Data_longMessage :
    remainingV16Data.run (0xFA :: longMessage) = .ok (0xFA :: longMessage, []) := by
  have hchan : u16At longMessage 0 = 65535 := rfl
  have hdata : u16At longMessage (2 + 65535 * 2) = 1 := by
    have hfront : (([0xFF, 0xFF] : Bytes) ++ List.replicate 131070 0).length = 2 + 65535 * 2 := by
      rw [length_append, length_replicate]
      rfl
    have hdrop : longMessage.drop (2 + 65535 * 2) = [0, 1, 0] := drop_left' hfront
    rw [u16At, hdrop]
    rfl
  have hlength := length_longMessage
  have htotal : messageLength longMessage = 131075 := by
    rw [messageLength, dataStart, hchan, hdata]
  rw [remainingV16Data_message, htotal, if_neg (by omega), take_of_length_le (by omega),
    drop_of_length_le (by omega)]

/-- A message that its own length cuts short is parsed with the bytes that come later, if these
are a long message that is read whole. -/
theorem parse_pingData_ne_of_not_fits {long : Bytes}
    (hcomp : messageLength message ≤ message.length) (hfits : ¬HostFits (messageData message))
    (hlong : 131075 ≤ long.length)
    (hread : remainingV16Data.run (0xFA :: long) = .ok (0xFA :: long, [])) :
    parseLegacyPing (pingData (0x01 :: 0xFA :: message) (0x01 :: 0xFA :: long))
      ≠ parseLegacyPing (pingData [] (0x01 :: 0xFA :: message ++ 0x01 :: 0xFA :: long)) := by
  obtain ⟨e, he, herr⟩ := parsePingHost_of_not_fits hfits
  have hsplit : pingData (0x01 :: 0xFA :: message) (0x01 :: 0xFA :: long)
      = 0x01 :: 0xFA :: (message ++ 0x01 :: 0xFA :: long) := by
    rw [pingData, if_pos rfl, hread]
    show 0x01 :: 0xFA :: message ++ [0x01] ++ _ = _
    rw [append_assoc]
    rfl
  show _ ≠ parseLegacyPing (pingData [] (0x01 :: 0xFA :: (message ++ _)))
  rw [parse_baseline hcomp, herr, hsplit]
  show parseV16Ping _ ≠ _
  rw [parseV16Ping_append hcomp]
  refine parsePingHost_of_long ?_ he
  simp only [length_append, length_cons]
  omega

/-- If the split is wrong there are later bytes with which the request is another. -/
theorem exists_parse_pingData_ne (h : ¬PingSplit buffered) :
    ∃ later, parseLegacyPing (pingData buffered later)
      ≠ parseLegacyPing (pingData [] (buffered ++ later)) := by
  cases buffered with
  | nil => exact absurd trivial h
  | cons b rest =>
    by_cases hb : b = 0x01
    · subst hb
      cases rest with
      | nil => exact ⟨[0xFA], by decide⟩
      | cons x message =>
        by_cases hx : x = 0xFA
        · subst hx
          by_cases hcomp : messageLength message ≤ message.length
          · -- the message is cut short by its own length, and more bytes make up for it
            have hfits : ¬HostFits (messageData message) := fun hf => h ⟨hcomp, hf⟩
            exact ⟨_, parse_pingData_ne_of_not_fits hcomp hfits length_longMessage.ge
              remainingV16Data_longMessage⟩
          · -- the message never comes, and the baseline takes the ping for one of 1.4
            refine ⟨[], ?_⟩
            rw [append_nil, pingData_nil_message, if_pos (Nat.not_le.mp hcomp)]
            exact parseV16Ping_ne_v1_4
        · exact absurd (pingSplit_of_ne_message hx) h
    · exact absurd (pingSplit_of_ne hb) h

/-! ### Logins -/

/-- `readLegacyStringInto` over bytes. -/
def legacyString : FieldReader Bytes := do
  let lenBytes ← FieldReader.readExact 2
  let strData ← FieldReader.readExact (FieldReader.fromBeBytes lenBytes * 2)
  return lenBytes ++ strData

/-- `readLegacyHandshakeData` over bytes. -/
def legacyHandshakeData : FieldReader Bytes := do
  let formatByte ← FieldReader.readExact 1
  if formatByte = [0x00] then
    let lowByte ← FieldReader.readExact 1
    let strData ← FieldReader.readExact (FieldReader.fromBeBytes lowByte * 2)
    return [0x02] ++ formatByte ++ lowByte ++ strData
  else
    let username ← legacyString
    let hostname ← legacyString
    let port ← FieldReader.readExact 4
    return [0x02] ++ formatByte ++ username ++ hostname ++ port

theorem follows_readLegacyStringInto : Follows readLegacyStringInto legacyString :=
  (follows_readExact 2).bind fun _ => (follows_readExact _).bind fun _ => .pure _

theorem follows_readLegacyHandshakeData : Follows readLegacyHandshakeData legacyHandshakeData := by
  refine (follows_readExact 1).bind fun formatByte => Follows.ite ?_ ?_
  · exact (follows_readExact 1).bind fun _ => (follows_readExact _).bind fun _ => .pure _
  · refine follows_readLegacyStringInto.bind fun username => ?_
    refine follows_readLegacyStringInto.bind fun hostname => ?_
    exact (follows_readExact 4).bind fun port => .pure _

/-- The bytes that are sent first are those of the stream behind `0x02`. -/
theorem takes_legacyHandshakeData :
    Readers.Takes legacyHandshakeData fun block raw => raw = 0x02 :: block := by
  have hexact := FieldReader.takes_readExact
  have hstr : Readers.Takes legacyString fun block bytes => block = bytes :=
    (hexact 2).bind fun _ _ hlen => (hexact _).bind fun _ _ hdata =>
      Readers.takes_pure (by rw [hlen.1, hdata.1, append_nil])
  refine (hexact 1).bind fun _ formatByte hformat => ?_
  split
  · exact (hexact 1).bind fun _ _ hlow => (hexact _).bind fun _ _ hdata =>
      Readers.takes_pure (by simp [hformat.1, hlow.1, hdata.1])
  · exact hstr.bind fun _ _ husername => hstr.bind fun _ _ hhostname =>
      (hexact 4).bind fun _ _ hport =>
        Readers.takes_pure (by simp [hformat.1, husername, hhostname, hport.1])

/-- A login over the bytes of the stream: the request, and what is sent to the backend. -/
def loginOutcome (atEnd : ErrorKind) (bytes : Bytes) : Except CoreError LegacyRequest × Bytes :=
  match legacyHandshakeData.run bytes with
  | .error _ => (.error (.io atEnd), [])
  | .ok (raw, _) =>
    match parseLegacyHandshake (raw.drop 1) with
    | .error e => (.error (.protocol e), [])
    | .ok handshake => (.ok (.login handshake), 0x02 :: bytes)

theorem handleLogin_eq (h : backend.budget = none) :
    (handleLogin forwarder s backend).1
        = (loginOutcome (endError s.stream) s.stream.incoming.flatten).1 ∧
      (handleLogin forwarder s backend).2.sent
        = backend.sent ++ (loginOutcome (endError s.stream) s.stream.incoming.flatten).2 := by
  have hfol := follows_readLegacyHandshakeData s.stream
  rw [handleLogin, loginOutcome]
  cases hrun : legacyHandshakeData.run s.stream.incoming.flatten with
  | error e =>
    rw [hrun, Agrees] at hfol
    rw [hfol]
    exact ⟨rfl, (append_nil _).symm⟩
  | ok r =>
    obtain ⟨raw, rest⟩ := r
    rw [hrun] at hfol
    obtain ⟨incoming, hread, hrest⟩ := hfol
    rw [hread]
    dsimp only
    cases parseLegacyHandshake (raw.drop 1) with
    | error e => exact ⟨rfl, (append_nil _).symm⟩
    | ok handshake =>
      rw [TcpStream.writeAll_of_budget h]
      refine ⟨rfl, ?_⟩
      have hchunk : 0 < forwarder.chunkSize := by cases forwarder <;> decide
      have hsent := sent_pump hchunk (incoming.flatten.length + 1)
        { s.stream with incoming } { backend with sent := backend.sent ++ raw } h
        (Nat.lt_succ_self _)
      obtain ⟨block, rfl, hinput⟩ := takes_legacyHandshakeData hrun
      show (pump _ _ _ _).sent = _
      rw [hsent, append_assoc, hrest, hinput]
      rfl

/-! ### Splits -/

/-- Whatever is still to come, a request with these bytes buffered is handled as if only its
first byte were. -/
def SplitSafe (first : UInt8) (buffered : Bytes) : Prop :=
  ∀ (s s' : ClientSocket) (forwarder : Forwarder) (backend : TcpStream),
    s.bufferedData = first :: buffered → s'.bufferedData = [first] → s'.bytes = s.bytes →
    s'.stream.ending = s.stream.ending → backend.budget = none →
      (handle forwarder s backend).1 = (handle forwarder s' backend).1 ∧
      (handle forwarder s backend).2.sent = (handle forwarder s' backend).2.sent

/-- The stream of the baseline has the bytes that were buffered, and then the others. -/
theorem flatten_of_bytes_eq {s' : ClientSocket} {first}
    (hs : s.bufferedData = first :: buffered) (hs' : s'.bufferedData = [first])
    (h : s'.bytes = s.bytes) :
    s'.stream.incoming.flatten = buffered ++ s.stream.incoming.flatten := by
  rw [ClientSocket.bytes, ClientSocket.bytes, hs, hs'] at h
  exact (List.cons.inj h).2

/-- A stream that ends after one segment. -/
def streamOf (bytes : Bytes) : TcpStream :=
  { sent := [], budget := none, failure := .other, incoming := [bytes] }

theorem flatten_streamOf : (streamOf bytes).incoming.flatten = bytes := append_nil bytes

/-- The two sockets of a split with the bytes `later` still to come. -/
theorem SplitSafe.at_later {first} (h : SplitSafe first buffered) (later : Bytes) :
    let s : ClientSocket := ⟨streamOf later, first :: buffered⟩
    let s' : ClientSocket := ⟨streamOf (buffered ++ later), [first]⟩
    (handle .copy s (streamOf [])).1 = (handle .copy s' (streamOf [])).1 ∧
      (handle .copy s (streamOf [])).2.sent = (handle .copy s' (streamOf [])).2.sent := by
  refine h _ _ .copy (streamOf []) rfl rfl ?_ rfl rfl
  rw [ClientSocket.bytes, ClientSocket.bytes, flatten_streamOf, flatten_streamOf]
  rfl

theorem handle_ping (h : s.bufferedData = 0xFE :: buffered) :
    handle forwarder s backend
      = ((match parseLegacyPing (pingData buffered s.stream.incoming.flatten) with
          | .error e => .error (.protocol e)
          | .ok request => .ok (.ping request)), backend) := by
  have hdata : readLegacyPingData s = pingData buffered s.stream.incoming.flatten := by
    rw [readLegacyPingData_eq, h]
    rfl
  rw [handle, h]
  show ((match parseLegacyPing (readLegacyPingData s) with
    | .error e => .error (.protocol e)
    | .ok request => .ok (.ping request) : Except CoreError LegacyRequest), backend) = _
  rw [hdata]

theorem splitSafe_ping_iff : SplitSafe 0xFE buffered ↔ PingSplit buffered := by
  constructor
  · intro h
    by_contra hsplit
    obtain ⟨later, hne⟩ := exists_parse_pingData_ne hsplit
    obtain ⟨hreq, -⟩ := h.at_later later
    rw [handle_ping rfl, handle_ping rfl, flatten_streamOf, flatten_streamOf] at hreq
    -- the requests differ, and so do the results
    cases hone : parseLegacyPing (pingData buffered later) <;>
      cases htwo : parseLegacyPing (pingData [] (buffered ++ later)) <;>
      simp [hone, htwo] at hreq hne <;> exact hne hreq
  · intro h s s' forwarder backend hs hs' hbytes _ _
    have hflatten := flatten_of_bytes_eq hs hs' hbytes
    rw [handle_ping hs, handle_ping hs', hflatten, parse_pingData_of_split h]
    exact ⟨rfl, rfl⟩

theorem handle_login (h : s.bufferedData = 0x02 :: buffered) :
    handle forwarder s backend = handleLogin forwarder s backend := by
  rw [handle, h]
  rfl

theorem splitSafe_login_iff : SplitSafe 0x02 buffered ↔ buffered = [] := by
  constructor
  · intro h
    obtain ⟨-, hsent⟩ := h.at_later [0x00, 0x00]
    rw [handle_login rfl, handle_login rfl, (handleLogin_eq rfl).2, (handleLogin_eq rfl).2,
      flatten_streamOf, flatten_streamOf] at hsent
    -- the login without a text sends three bytes, the baseline none or all
    have hlogin : (loginOutcome (endError (streamOf [0x00, 0x00])) [0x00, 0x00]).2
        = [0x02, 0x00, 0x00] := by decide
    have hlength := congrArg List.length (append_cancel_left hsent)
    rw [hlogin, loginOutcome] at hlength
    split at hlength
    · cases hlength
    · split at hlength
      · cases hlength
      · simp only [length_cons, length_append, length_nil] at hlength
        exact eq_nil_of_length_eq_zero (by omega)
  · rintro rfl s s' forwarder backend hs hs' hbytes hending hbud
    have hflatten := flatten_of_bytes_eq hs hs' hbytes
    have hend : endError s'.stream = endError s.stream := by rw [endError, endError, hending]
    rw [handle_login hs, handle_login hs', (handleLogin_eq hbud).1,
      (handleLogin_eq hbud).2, (handleLogin_eq hbud).1, (handleLogin_eq hbud).2, hend, hflatten]
    exact ⟨rfl, rfl⟩

/-- However a legacy request is split between the buffer and the stream, it is handled as if only
its first byte were buffered, if and only if the buffer of a login has no further byte and that
of a ping ends at a place from which the parser does not look further. -/
theorem handle_split_iff (first : UInt8) (hleg : detect first ≠ .modern) (buffered : Bytes) :
    SplitSafe first buffered ↔ (if first = 0xFE then PingSplit buffered else buffered = []) := by
  by_cases hping : first = 0xFE
  · rw [if_pos hping, hping]
    exact splitSafe_ping_iff
  · have hlogin : first = 0x02 := by
      by_contra hother
      exact hleg (by rw [detect, if_neg hping, if_neg hother])
    rw [if_neg hping, hlogin]
    exact splitSafe_login_iff

/-- A login of which nothing but the first byte is buffered. -/
theorem handle_split_login : SplitSafe 0x02 [] := (handle_split_iff 0x02 (by decide) []).2 rfl

/-- A login of 1.6 behind its first byte: the user `a` on the host `b`, port 25565. -/
def loginOf16 : Bytes := [78, 0, 1, 0, 0x61, 0, 1, 0, 0x62, 0, 0, 0x63, 0xDD]

/-- A login that was buffered whole is read as an empty stream, and as a request otherwise. -/
theorem handle_split_login_lost :
    let whole : ClientSocket := ⟨streamOf [], 0x02 :: loginOf16⟩
    let split : ClientSocket := ⟨streamOf loginOf16, [0x02]⟩
    split.bytes = whole.bytes ∧
      (handle .copy whole (streamOf [])).1 = .error (.io .unexpectedEof) ∧
      (handle .copy split (streamOf [])).1 = .ok (.login ⟨78, "a", "b", 25565⟩) ∧
      (handle .copy whole (streamOf [])).2.sent = [] ∧
      (handle .copy split (streamOf [])).2.sent = 0x02 :: loginOf16 := by
  decide

end Legacy

end Infrarust
