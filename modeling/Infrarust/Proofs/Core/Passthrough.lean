import Infrarust.Core.Passthrough
import Infrarust.Proofs.Protocol.Codec
import Infrarust.Proofs.Core.Bridge

/-!
# `Infrarust.Proofs.Core.Passthrough`: which bytes of a client get to a passthrough backend

A parser of the first packets reads until its packet is complete, so it may have read further.
What is left over goes from the handshake's parser to the login start's, and from there nowhere:
the passthrough handler writes the two raw packets and copies what is still to be read. So the
backend gets all of the client's bytes only if the reads happen to end with the login start
(`passthroughBytes_exact_iff`). `ReadEnd` says where the reads end, in terms of the segments in
which the bytes arrive.
-/

set_option autoImplicit false

namespace Infrarust

open PacketDecoder List ClientSocket

/-! ### Where reads end -/

/-- A number of bytes after which one of the reads of at most `size` bytes ends. -/
def AtReadEnd (size : Nat) : List Bytes → Nat → Prop
  | [], n => n = 0
  | segment :: rest, n =>
    if segment.length ≤ n then AtReadEnd size rest (n - segment.length) else size ∣ n

instance decidableAtReadEnd (size : Nat) :
    ∀ (segments : List Bytes) (n : Nat), Decidable (AtReadEnd size segments n)
  | [], n => inferInstanceAs (Decidable (n = 0))
  | segment :: rest, n =>
    have := decidableAtReadEnd size rest (n - segment.length)
    inferInstanceAs (Decidable
      (if segment.length ≤ n then AtReadEnd size rest (n - segment.length) else size ∣ n))

theorem atReadEnd_zero (size segments) : AtReadEnd size segments 0 := by
  induction segments with
  | nil => rfl
  | cons segment rest ih =>
    rw [AtReadEnd, Nat.zero_sub]
    split
    · exact ih
    · exact Nat.dvd_zero size

variable {size : Nat} {buffered : Bytes} {segments : List Bytes}

/-- No read ends inside the next one. -/
theorem atReadEnd_readSegment {data} :
    ∀ {segments rest}, readSegment size segments = some (data, rest) →
      ∀ m, 0 < m →
        (AtReadEnd size segments m ↔ data.length ≤ m ∧ AtReadEnd size rest (m - data.length)) := by
  intro segments
  induction segments with
  | nil => intro rest h; cases h
  | cons segment segments ih =>
    intro rest h m hm
    rw [readSegment] at h
    by_cases hempty : segment = []
    · rw [if_pos hempty] at h
      rw [AtReadEnd, if_pos (by simp [hempty]), ← ih h m hm, hempty]
      rfl
    · rw [if_neg hempty] at h
      cases h
      rw [AtReadEnd, AtReadEnd, length_take, length_drop]
      by_cases hshort : segment.length ≤ size
      · -- the segment is read at once
        rw [Nat.min_eq_right hshort, Nat.sub_eq_zero_of_le hshort, if_pos (Nat.zero_le _),
          Nat.sub_zero]
        by_cases hlen : segment.length ≤ m
        · simp [hlen]
        · have hdvd : ¬size ∣ m := Nat.not_dvd_of_pos_of_lt hm (by omega)
          simp [hlen, hdvd]
      · rw [Nat.min_eq_left (by omega)]
        by_cases hlen : segment.length ≤ m
        · rw [if_pos hlen, if_pos (by omega),
            show m - size - (segment.length - size) = m - segment.length by omega]
          exact (and_iff_right (by omega)).symm
        · rw [if_neg hlen]
          by_cases hle : size ≤ m
          · rw [if_neg (by omega), and_iff_right hle]
            exact (Nat.dvd_sub_iff_left hle (Nat.dvd_refl size)).symm
          · have hdvd : ¬size ∣ m := Nat.not_dvd_of_pos_of_lt hm (by omega)
            simp [hdvd, hle]

/-- A number of bytes after which a read ends, when `buffered` was read before. -/
def ReadEnd (size : Nat) (buffered : Bytes) (segments : List Bytes) (n : Nat) : Prop :=
  buffered.length ≤ n ∧ AtReadEnd size segments (n - buffered.length)

theorem readEnd_zero : ReadEnd size buffered segments 0 ↔ buffered = [] := by
  rw [ReadEnd, Nat.zero_sub, and_iff_left (atReadEnd_zero _ _)]
  simp

theorem readEnd_readSegment {data rest}
    (h : readSegment size segments = some (data, rest)) {n} (hn : buffered.length < n) :
    ReadEnd size buffered segments n ↔ ReadEnd size (buffered ++ data) rest n := by
  rw [ReadEnd, ReadEnd, atReadEnd_readSegment h _ (by omega), length_append, Nat.sub_sub]
  constructor
  · rintro ⟨hle, hdata, hend⟩
    exact ⟨by omega, hend⟩
  · rintro ⟨hle, hend⟩
    exact ⟨by omega, by omega, hend⟩

/-! ### Taking a packet off the stream -/

namespace Inlet

variable {size : Nat} {d : PacketDecoder} {frame : PacketFrame} {packet : Bytes}

/-- What a reading loop comes to on a stream that begins with the frame `packet`. The bytes that
are left, in the buffer and on the stream, are `rest`, and reads end where they did. -/
structure Taken (size : Nat) (d : PacketDecoder) (packet buffered rest : Bytes) (i i' : Inlet)
    (remaining : Bytes) : Prop where
  decoder : i'.decoder = d.queueBytes remaining
  queued : ∃ raw : Bytes, i'.queued = i.queued ++ raw.map (·, false) ∧
    buffered ++ raw = packet ++ remaining
  stream : i'.stream = { i.stream with incoming := i'.stream.incoming }
  rest : remaining ++ i'.stream.incoming.flatten = rest
  readEnd : ∀ n, packet.length ≤ n → (ReadEnd size buffered i.stream.incoming n ↔
    ReadEnd size remaining i'.stream.incoming (n - packet.length))

theorem readFrameLoop_takes (hsize : 0 < size) (hd : d.buf = [])
    (henc : framer.Encodes d packet frame d) {fuel} :
    ∀ (i : Inlet) (buffered rest : Bytes), i.cipher = none →
      i.decoder = d.queueBytes buffered →
      buffered ++ i.stream.incoming.flatten = packet ++ rest →
      i.stream.incoming.flatten.length < fuel →
      ∃ i' remaining, readFrameLoop size fuel i = (.ok (some frame), i') ∧
        Taken size d packet buffered rest i i' remaining := by
  induction fuel with
  | zero => intro i buffered rest _ _ _ hfuel; omega
  | succ fuel ih =>
    intro i buffered rest hciph hdcr hbytes hfuel
    rw [readFrameLoop]
    by_cases hlen : packet.length ≤ buffered.length
    · -- the frame is in the buffer
      obtain ⟨remaining, rfl⟩ : packet <+: buffered :=
        prefix_of_prefix_length_le ⟨rest, hbytes.symm⟩ (prefix_append _ _) hlen
      have htry : i.decoder.tryNextFrame = (.ok (some frame), d.queueBytes remaining) := by
        rw [hdcr]
        exact (step_eq_item_iff _ _ _).1 (henc remaining)
      rw [htry]
      refine ⟨_, remaining, rfl, rfl, ⟨[], by simp, by simp⟩, rfl, ?_, fun n hn => ?_⟩
      · simpa using hbytes
      · simp only [ReadEnd, length_append, Nat.sub_sub]
        exact and_congr_left fun _ => by omega
    · obtain ⟨t, rfl⟩ : buffered <+: packet :=
        prefix_of_prefix_length_le ⟨_, hbytes⟩ (prefix_append _ _) (by omega)
      have ht : t ≠ [] := by
        rintro rfl
        simp at hlen
      have htry : i.decoder.tryNextFrame = (.ok none, i.decoder) := by
        rw [hdcr]
        exact (step_eq_more_iff _).1 (framer.next_of_encodes_append
          henc (length_eq_zero_iff.mpr hd) ht)
      have hflatten : i.stream.incoming.flatten = t ++ rest := by
        simpa [append_assoc] using hbytes
      rcases i.stream.read_cases hsize with
        ⟨hempty, -⟩ | ⟨b, data, segments, hseg, hread, hdata, -⟩
      · rw [hflatten] at hempty
        simp [ht] at hempty
      · rw [htry, hread]
        obtain ⟨i', remaining, hloop, htaken⟩ := ih
          ({ i with stream := { i.stream with incoming := segments } }.queue (b :: data))
          (buffered ++ b :: data) rest (by rw [queue, hciph]; rfl)
          (by rw [queue, hdcr, hciph]; exact (framer.push_append d _ _).symm)
          (by rw [append_assoc, ← hbytes, hdata]; rfl)
          (by
            have hlength := congrArg List.length hdata
            simp only [length_append, length_cons] at hlength
            show segments.flatten.length < fuel
            omega)
        refine ⟨i', remaining, hloop, htaken.decoder, ?_, ?_, htaken.rest, fun n hn => ?_⟩
        · obtain ⟨raw, hqd, hraw⟩ := htaken.queued
          refine ⟨b :: data ++ raw, ?_, by rw [← append_assoc]; exact hraw⟩
          rw [hqd, queue, hciph]
          simp [decryptWith]
        · exact htaken.stream
        · have hpos := length_pos_iff.mpr ht
          rw [readEnd_readSegment hseg (by rw [length_append] at hn; omega)]
          exact htaken.readEnd n hn

/-- On a stream that begins with a frame, `readFrame` returns the frame. -/
theorem readFrame_takes (hsize : 0 < size) (hd : d.buf = [])
    (henc : framer.Encodes d packet frame d) {i : Inlet} {rest}
    (hciph : i.cipher = none) (hdcr : i.decoder = d.queueBytes buffered)
    (hbytes : buffered ++ i.stream.incoming.flatten = packet ++ rest) :
    ∃ i' remaining, i.readFrame size = (.ok (some frame), i') ∧
      Taken size d packet buffered rest i i' remaining :=
  readFrameLoop_takes hsize hd henc i buffered rest hciph hdcr hbytes (Nat.lt_succ_self _)

end Inlet

namespace ClientSocket

variable {inflate : ZlibDecompressor} {frame : PacketFrame} {packet rest : Bytes}

/-- The bytes that a client has sent and that the handler has not taken. -/
def bytes (s : ClientSocket) : Bytes := s.bufferedData ++ s.stream.incoming.flatten

/-- A read of the parsers ends after `n` of these bytes. -/
def ReadEndsAt (s : ClientSocket) (n : Nat) : Prop :=
  ReadEnd 1024 s.bufferedData s.stream.incoming n

/-- A parser takes the first frame off the client's bytes. -/
theorem readPacket_takes {s : ClientSocket}
    (henc : framer.Encodes (.new inflate) packet frame (.new inflate))
    (hbytes : s.bytes = packet ++ rest) :
    ∃ s' : ClientSocket, s.readPacket inflate = (.ok (frame, packet, s'.bufferedData), s'.stream) ∧
      s'.bytes = rest ∧
      ∀ n, packet.length ≤ n → (s.ReadEndsAt n ↔ s'.ReadEndsAt (n - packet.length)) := by
  set inlet : Inlet :=
    { stream := s.stream, decoder := (PacketDecoder.new inflate).queueBytes s.bufferedData
      cipher := none, queued := s.bufferedData.map (·, false) } with hinlet
  obtain ⟨i', remaining, hread, htaken⟩ :=
    Inlet.readFrame_takes (i := inlet) (by decide : 0 < 1024) rfl henc rfl rfl hbytes
  refine ⟨{ stream := i'.stream, bufferedData := remaining }, ?_, htaken.rest, htaken.readEnd⟩
  obtain ⟨raw, hqd, hraw⟩ := htaken.queued
  have hrem : i'.decoder.intoRemaining = remaining := by
    rw [htaken.decoder]
    rfl
  have hrawData : i'.queued.map Prod.fst = packet ++ remaining := by
    rw [hqd, ← hraw, hinlet]
    simp [Function.comp_def]
  rw [readPacket, ← hinlet, hread]
  simp only [hrem, hrawData, length_append, Nat.add_sub_cancel, take_left']

end ClientSocket

/-- The bytes are those of one frame: a decoder that is given them returns it and is left
empty. -/
def IsFrame (inflate : ZlibDecompressor) (bytes : Bytes) (frame : PacketFrame) : Prop :=
  let r := ((PacketDecoder.new inflate).queueBytes bytes).tryNextFrame
  r.1 = .ok (some frame) ∧ r.2.buf = []
deriving Decidable

variable {inflate : ZlibDecompressor}

theorem IsFrame.encodes {bytes frame} (h : IsFrame inflate bytes frame) :
    framer.Encodes (.new inflate) bytes frame (.new inflate) := by
  obtain ⟨used, hused, henc⟩ := encodes_of_tryNextFrame (Prod.ext h.1 rfl)
  rw [h.2, append_nil] at hused
  have hbytes : bytes = used := hused
  rw [hbytes]
  exact henc

/-- A login: one frame with a handshake that asks for it, and one with a login start of the
handshake's version. -/
def LoginBytes (inflate : ZlibDecompressor) (handshake loginStart : Bytes) : Prop :=
  ∃ payload packet payload' packet',
    IsFrame inflate handshake ⟨0x00#32, payload⟩ ∧ IsFrame inflate loginStart ⟨0x00#32, payload'⟩ ∧
    (Handshake.decode.run payload).toOption.map Prod.fst = some packet ∧
    packet.nextState = .login ∧
    ((SLoginStart.decode packet.protocolVersion).run payload').toOption.map Prod.fst = some packet'

theorem exists_of_toOption_map {ε α β : Type} {x : Except ε (α × β)} {a}
    (h : x.toOption.map Prod.fst = some a) : ∃ b, x = .ok (a, b) := by
  cases x with
  | error e => cases h
  | ok p =>
    obtain ⟨a', b⟩ := p
    cases h
    exact ⟨b, rfl⟩

/-! ### The first byte -/

theorem readVarInt_singleton {b} :
    FieldReader.readVarInt.run [b] = .error (.io .unexpectedEof) ∨
      ∃ v, FieldReader.readVarInt.run [b] = .ok (v, []) := by
  rw [FieldReader.readVarInt_eq, VarInt.MAX_SIZE, Leb128.decode]
  by_cases hlast : b.toNat < 128
  · rw [if_pos hlast]
    exact .inr ⟨_, rfl⟩
  · rw [if_neg hlast]
    exact .inl rfl

/-- A handshake has two bytes and more. -/
theorem two_le_length_of_decode {payload r}
    (h : Handshake.decode.run payload = .ok r) : 2 ≤ payload.length := by
  match payload with
  | [] => cases h
  | [b] =>
    rw [Handshake.decode, StateT.run_bind] at h
    rcases readVarInt_singleton with herr | ⟨v, hok⟩
    · rw [herr] at h
      cases h
    · rw [hok] at h
      cases h
  | b :: b' :: rest => simp

/-- A login does not begin with the first byte of a legacy login. -/
theorem head_ne_legacyLogin {payload packet id}
    (henc : framer.Encodes (.new inflate) packet ⟨id, payload⟩ (.new inflate))
    (hlen : 2 ≤ payload.length) : packet.head? ≠ some 0x02 := by
  intro hhead
  obtain ⟨header, data, ⟨len, hheader, -, -, hdata⟩, rfl, hplain⟩ := framed_of_encodes rfl rfl henc
  have hshort := length_lt_of_decodePlain hplain
  obtain ⟨t, ht⟩ : ∃ t, header ++ data = 0x02 :: t := List.head?_eq_some_iff.1 hhead
  -- The first byte is a complete length prefix that announces two bytes.
  have hprefix : VarInt.decodePartial (0x02 :: t) = .ok (0x02#32, 1) := rfl
  rw [← ht, hheader data, Except.ok.injEq, Prod.mk.injEq] at hprefix
  rw [hdata, hprefix.1] at hshort
  exact absurd hshort (Nat.not_lt.mpr hlen)

namespace ClientSocket

/-- The first byte is looked at and stays with the others. -/
theorem firstByte_eq {s : ClientSocket} {b t} (h : s.bytes = b :: t) :
    s.firstByte = (.ok b, s.firstByte.2) ∧ s.firstByte.2.bytes = s.bytes := by
  rw [bytes] at h
  rw [firstByte, bytes, bytes]
  cases hbuffer : s.bufferedData with
  | cons b' buffered =>
    rw [hbuffer] at h
    cases h
    exact ⟨rfl, by rw [hbuffer]⟩
  | nil =>
    rw [hbuffer, nil_append] at h
    rcases s.stream.read_cases Nat.one_pos with ⟨hempty, -⟩ | ⟨b', data, rest, -, hread, hdata, -⟩
    · rw [h] at hempty
      cases hempty
    · have hb : b' = b := by
        rw [h] at hdata
        cases hdata
        rfl
      rw [hread]
      exact ⟨by rw [hb], hdata.symm⟩

variable {strings : Strings} {inflate : ZlibDecompressor} {s : ClientSocket}
  {packet rest payload : Bytes}

theorem parseHandshake_takes (strings) {handshake left}
    (henc : framer.Encodes (.new inflate) packet ⟨0x00#32, payload⟩ (.new inflate))
    (hdec : Handshake.decode.run payload = .ok (handshake, left))
    (hhead : packet.head? ≠ some 0xFE) (hbytes : s.bytes = packet ++ rest) :
    ∃ s' : ClientSocket, s.parseHandshake strings inflate
        = (.ok (some (.ofHandshake strings handshake, packet)), s') ∧
      s'.bytes = rest ∧ ∀ n, packet.length ≤ n →
        (s.firstByte.2.ReadEndsAt n ↔ s'.ReadEndsAt (n - packet.length)) := by
  have hlogin := head_ne_legacyLogin henc (two_le_length_of_decode hdec)
  obtain ⟨b, t, rfl⟩ : ∃ b t, packet = b :: t := by
    refine exists_cons_of_ne_nil ?_
    rintro rfl
    have hmore := step_of_buf_nil (d := (PacketDecoder.new inflate).queueBytes []) rfl
    exact absurd (hmore.symm.trans (henc [])) (by simp)
  obtain ⟨hfst, hsame⟩ := firstByte_eq hbytes
  have hmodern : LegacyDetection.detect b = .modern := by
    simp only [List.head?_cons, ne_eq, Option.some.injEq] at hhead hlogin
    rw [LegacyDetection.detect, if_neg hhead, if_neg hlogin]
  obtain ⟨s', hread, hrest, hends⟩ := readPacket_takes henc (hsame.trans hbytes)
  refine ⟨s', ?_, hrest, hends⟩
  rw [parseHandshake, hfst]
  simp only [hmodern, hread, hdec, ne_eq, not_true_eq_false, if_false]

theorem parseLoginStart_takes {version loginStart left}
    (henc : framer.Encodes (.new inflate) packet ⟨0x00#32, payload⟩ (.new inflate))
    (hdec : (SLoginStart.decode version).run payload = .ok (loginStart, left))
    (hbytes : s.bytes = packet ++ rest) :
    ∃ s' : ClientSocket, s.parseLoginStart inflate version
        = (.ok (⟨loginStart.name, loginStart.uuid⟩, packet), s') ∧
      s'.bytes = rest ∧ ∀ n, packet.length ≤ n →
        (s.ReadEndsAt n ↔ s'.ReadEndsAt (n - packet.length)) := by
  obtain ⟨s', hread, hrest, hends⟩ := readPacket_takes henc hbytes
  refine ⟨s', ?_, hrest, hends⟩
  rw [parseLoginStart, hread]
  simp only [hdec, ne_eq, not_true_eq_false, if_false]

end ClientSocket

/-! ### Writing to the backend -/

/-- The forwarders copy all that is left of the client's stream. -/
theorem sent_pump {chunkSize} (hsize : 0 < chunkSize) (fuel) :
    ∀ client backend : TcpStream, backend.budget = none →
      client.incoming.flatten.length < fuel →
      (pump chunkSize fuel client backend).sent = backend.sent ++ client.incoming.flatten := by
  induction fuel with
  | zero => intro client backend _ hfuel; omega
  | succ fuel ih =>
    intro client backend hbud hfuel
    rcases client.read_cases hsize with ⟨hempty, hread⟩ | ⟨b, data, rest, -, hread, hdata, -⟩
    · rw [pump, hread, hempty, append_nil]
      cases client.ending <;> rfl
    · have hlength := congrArg List.length hdata
      simp only [length_append, length_cons] at hlength
      have hrest := ih { client with incoming := rest }
        { backend with sent := backend.sent ++ b :: data } hbud
        (by show rest.flatten.length < fuel; omega)
      rw [pump, hread]
      simp only [TcpStream.writeAll_of_budget hbud, hrest, hdata, append_assoc]

/-- Suppose that a client's bytes begin with a login, and that the server neither rewrites the
domain nor forwards identities. However the bytes arrive, the backend gets exactly the client's
bytes if and only if the first byte is not that of a legacy ping and a read of the parsers ends
where the login start does. -/
theorem passthroughBytes_exact_iff (strings : Strings) {inflate : ZlibDecompressor}
    (deflate : ZlibCompressor) (texts : ForwardingTexts) (global : GlobalForwarding)
    (clientIp : IpAddr) (freshUuid : Uuid) {config : ServerConfig} {s : ClientSocket}
    {backend : TcpStream} {handshake loginStart rest : Bytes}
    (hlogin : LoginBytes inflate handshake loginStart)
    (hbytes : s.bytes = handshake ++ loginStart ++ rest)
    (hrewrite : config.domainRewrite = .none)
    (hfwd : resolveForwardingHandler texts global config = .none)
    (hsent : backend.sent = []) (hbud : backend.budget = none) :
    (passthroughBytes strings inflate deflate texts global clientIp freshUuid config s
        backend).sent = s.bytes ↔
      handshake.head? ≠ some 0xFE ∧ s.firstByte.2.ReadEndsAt (handshake ++ loginStart).length := by
  obtain ⟨payload, packet, payload', packet', henc, henc', hdec, hst, hdec'⟩ := hlogin
  replace henc := henc.encodes
  replace henc' := henc'.encodes
  obtain ⟨left, hdec⟩ := exists_of_toOption_map hdec
  obtain ⟨left', hdec'⟩ := exists_of_toOption_map hdec'
  rw [append_assoc] at hbytes
  by_cases hhead : handshake.head? = some 0xFE
  · -- a legacy client: nothing gets to the backend
    obtain ⟨t, rfl⟩ : ∃ t, handshake = 0xFE :: t := by
      cases handshake with
      | nil => cases hhead
      | cons b t =>
        cases hhead
        exact ⟨t, rfl⟩
    -- a client whose first byte is that of a legacy ping is not parsed further
    rw [passthroughBytes, ClientSocket.parseHandshake, (firstByte_eq hbytes).1]
    simp [LegacyDetection.detect, hsent, hbytes]
  · obtain ⟨s₁, hparse, hrest, hends⟩ :=
      parseHandshake_takes strings henc hdec hhead hbytes
    obtain ⟨s₂, hparse', hrest', hends'⟩ := parseLoginStart_takes henc' hdec' hrest
    have hintent : (HandshakeData.ofHandshake strings packet).intent = .login := by
      rw [HandshakeData.ofHandshake, hst]
    have hinitial : forwardInitialPackets texts deflate global (.ofHandshake strings packet)
          [handshake, loginStart] config ⟨clientIp, packet'.uuid.getD freshUuid, packet'.name, [],
            packet.protocolVersion⟩ backend
        = (.ok (), { backend with sent := handshake ++ loginStart }) := by
      rw [forwardInitialPackets, hfwd, hrewrite]
      simp [writePackets, TcpStream.writeAll_of_budget, hbud, hsent]
    have hres : (passthroughBytes strings inflate deflate texts global clientIp freshUuid
          config s backend).sent = handshake ++ loginStart ++ s₂.stream.incoming.flatten := by
      have hsize : 0 < (selectForwarder config.proxyMode).chunkSize := by
        cases selectForwarder config.proxyMode <;> decide
      rw [passthroughBytes, hparse]
      simp only [hintent, ne_eq, not_true_eq_false, if_false]
      have hver : (HandshakeData.ofHandshake strings packet).protocolVersion
          = packet.protocolVersion := rfl
      rw [hver, hparse']
      simp only [hinitial, Forwarder.forward]
      rw [sent_pump hsize]
      · exact hbud
      · exact Nat.lt_succ_self _
    -- what is lost is what the parsers have read too much
    have hlost : s₂.bufferedData = [] ↔
        s.firstByte.2.ReadEndsAt (handshake ++ loginStart).length := by
      rw [hends _ (by simp), length_append, Nat.add_sub_cancel_left, hends' _ (le_refl _),
        Nat.sub_self, ClientSocket.ReadEndsAt, readEnd_zero]
    rw [hres, hbytes, ← hrest', ← hlost, ClientSocket.bytes, and_iff_right hhead, ← append_assoc]
    constructor
    · intro h
      have hlength := congrArg List.length h
      simp only [length_append] at hlength
      exact length_eq_zero_iff.mp (by omega)
    · intro h
      rw [h, nil_append]

/-! ### A login in one segment and in two -/

/-- The handshake of a 1.21 client for `a` at port 25565. -/
def handshakeBytes : Bytes := [8, 0x00, 0xFF, 0x05, 1, 0x61, 0x63, 0xDD, 2]

/-- The login start of `steve` with the nil UUID. -/
def loginStartBytes : Bytes := [23, 0x00, 5, 0x73, 0x74, 0x65, 0x76, 0x65] ++ List.replicate 16 0

/-- The client of a login that arrives in the given segments. -/
def socketReading (incoming : List Bytes) : ClientSocket :=
  { stream := { sent := [], budget := none, failure := .other, incoming }, bufferedData := [] }

/-- Library functions that print nothing. -/
def plainTexts : ForwardingTexts where
  ip _ := ""
  properties _ := "[]"
  fromUtf8Lossy _ := ""
  hmacSha256 _ _ := []

/-- A passthrough login at a server without any settings, for a backend that takes everything. -/
def passthroughSteve (s : ClientSocket) : TcpStream :=
  passthroughBytes asciiStrings (Flate2.decompressor StoredZlib.inflate)
    (Flate2.compressor StoredZlib.deflate) plainTexts .none
    (.v4 0x0A000001) 1#128 { addresses := [⟨"backend", 25565⟩] } s
    { sent := [], budget := none, failure := .other }

theorem loginBytes_steve :
    LoginBytes (Flate2.decompressor StoredZlib.inflate) handshakeBytes loginStartBytes :=
  ⟨handshakeBytes.drop 2, ⟨.V1_21, "a", 25565, .login⟩, loginStartBytes.drop 2,
    ⟨"steve", some 0#128, none⟩, by decide⟩

/-- The client's next two bytes come in the segment of its login start. The backend gets the
two packets, and the bytes behind them are lost. -/
theorem passthroughBytes_loses_rest :
    let s := socketReading [handshakeBytes ++ loginStartBytes ++ [0x01, 0x03]]
    LoginBytes (Flate2.decompressor StoredZlib.inflate) handshakeBytes loginStartBytes ∧
    s.bytes = handshakeBytes ++ loginStartBytes ++ [0x01, 0x03] ∧
    (passthroughSteve s).sent = handshakeBytes ++ loginStartBytes ∧
    (passthroughSteve s).sent ≠ s.bytes :=
  ⟨loginBytes_steve, by decide⟩

/-- They come in a segment of their own. -/
theorem passthroughBytes_exact_two_segments :
    let s := socketReading [handshakeBytes ++ loginStartBytes, [0x01, 0x03]]
    s.firstByte.2.ReadEndsAt (handshakeBytes ++ loginStartBytes).length ∧
    (passthroughSteve s).sent = s.bytes := by
  intro s
  have hends : s.firstByte.2.ReadEndsAt (handshakeBytes ++ loginStartBytes).length :=
    ⟨by decide, by decide⟩
  exact ⟨hends, (passthroughBytes_exact_iff asciiStrings _ _ .none _ _ loginBytes_steve
    (by decide : s.bytes = handshakeBytes ++ loginStartBytes ++ [0x01, 0x03]) rfl rfl rfl rfl).mpr
    ⟨by decide, hends⟩⟩

end Infrarust
