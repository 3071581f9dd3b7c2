import Infrarust.Core.Status.Handler
import Infrarust.Proofs.Core.Passthrough
import Infrarust.Proofs.Core.Server

/-!
# `Infrarust.Proofs.Core.Status.Handler`: which status requests are answered

A client that sends a status request and a ping gets both answers exactly if the reads that
find the request end with it (`handle_answers_iff`). The decoder of the request is dropped with
what it has read beyond it, so a ping that comes in the same read is lost. What is left of the
ping is shorter than a ping. It can be a packet of another kind all the same, and such a packet is
answered with zero. So a ping with payload zero that has lost its first byte is answered as if
nothing had happened: `01 00` is a frame of its own.

The bytes the handler has read are in the buffer of the connection when it starts, or they come
in reads of 512 bytes. `ReadEnd` says where one of these reads ends.

A domain that no configuration has is turned away by the pipeline, and `handle_connection` then
returns without an answer for a status request. The default MOTD is what the handler falls back
on when there is no route, but the handler is not called without one
(`unknown_domain_status_unanswered`).
-/

set_option autoImplicit false

namespace Infrarust

open FieldWriter (toBeBytes)
open FieldReader PacketDecoder List ClientSocket

/-! ### Frames without compression -/

namespace PacketDecoder

variable {inflate : ZlibDecompressor} {used : Bytes} {frame : PacketFrame}

/-- A frame has a byte for its length and one for its id. -/
theorem length_payload_of_encodes (h : framer.Encodes (.new inflate) used frame (.new inflate)) :
    frame.payload.length + 2 ≤ used.length := by
  obtain ⟨header, data, hfr, rfl, hdata⟩ := framed_of_encodes rfl rfl h
  have hheader := length_pos_of_ne_nil hfr.header_ne_nil
  have hshort := length_lt_of_decodePlain hdata
  rw [length_append]
  omega

/-- No frame has the length zero. -/
theorem head_ne_zero_of_encodes (h : framer.Encodes (.new inflate) used frame (.new inflate)) :
    used.head? ≠ some 0x00 := by
  intro hhead
  cases used with
  | nil => cases hhead
  | cons b t =>
    cases hhead
    have hitem := h []
    have htry : ((PacketDecoder.new inflate).queueBytes (0x00 :: t)).tryNextFrame
        = (.ok (some frame), (PacketDecoder.new inflate).queueBytes []) :=
      (step_eq_item_iff _ _ _).1 hitem
    cases htry

end PacketDecoder

/-! ### The packets of the client -/

/-- A `SStatusRequest` as a client sends it. -/
def statusRequest : Bytes := [0x01, 0x00]

/-- A `SPingRequest` as a client sends it. -/
def pingRequest (payload : BitVec 64) : Bytes := 0x09 :: 0x01 :: toBeBytes 8 payload

theorem length_pingRequest (payload) : (pingRequest payload).length = 10 := by
  rw [pingRequest, length_cons, length_cons, length_toBeBytes]

theorem encodes_statusRequest (inflate) :
    framer.Encodes (.new inflate) statusRequest ⟨0x00#32, []⟩ (.new inflate) :=
  IsFrame.encodes ⟨rfl, rfl⟩

theorem encodes_pingRequest (inflate payload) :
    framer.Encodes (.new inflate) (pingRequest payload)
      ⟨0x01#32, toBeBytes 8 payload⟩ (.new inflate) := by
  have hlength : (VarInt.encode 0x01#32 ++ toBeBytes 8 payload).length = 9 := by
    rfl
  have henc := encodes_of_decodeData (d := .new inflate) rfl
    (show 0 < (VarInt.encode 0x01#32 ++ toBeBytes 8 payload).length by omega)
    (by rw [hlength]; decide) (decodePlain_encode 0x01#32 (toBeBytes 8 payload))
  rw [hlength] at henc
  exact henc

/-- A packet that fits goes out as its length, its id and its payload. -/
theorem frameStatusPacket_ok_iff {deflate packetId payload frame} :
    frameStatusPacket deflate packetId payload = .ok frame ↔
      ∃ data, payload = .ok data ∧
        VarInt.writtenSize packetId + data.length ≤ MAX_PACKET_SIZE ∧
        frame = VarInt.encode (BitVec.ofNat 32 (VarInt.writtenSize packetId + data.length))
          ++ VarInt.encode packetId ++ data := by
  cases payload with
  | error e => simp [frameStatusPacket]
  | ok data =>
    simp only [frameStatusPacket, PacketEncoder.appendRaw, PacketEncoder.new]
    cases Nat.lt_or_ge MAX_PACKET_SIZE (VarInt.writtenSize packetId + data.length) with
    | inl h =>
      simp [h]
    | inr h =>
      rw [if_neg (Nat.not_lt.mpr h)]
      simp [PacketEncoder.take, h, eq_comm]

/-- A payload takes eight bytes. -/
theorem StatusPacket.length_of_decode {frame payload}
    (h : StatusPacket.decode frame = .ok (some (.pingRequest payload))) :
    8 ≤ frame.payload.length := by
  rw [decode] at h
  split at h
  · cases h
  · split at h
    · cases hread : readI64Be.run frame.payload with
      | error e =>
        rw [hread] at h
        cases h
      | ok r =>
        obtain ⟨block, rfl, hpay⟩ := takes_readI64Be hread
        simp [hpay, length_toBeBytes]
    · cases h

/-- The answer to a ping has the bytes of the ping. -/
theorem framePingResponse_eq (deflate payload) :
    framePingResponse deflate payload = .ok (pingRequest payload) := by
  have hlength := length_toBeBytes 8 payload
  refine frameStatusPacket_ok_iff.mpr ⟨_, rfl, ?_, ?_⟩
  · rw [hlength]
    decide
  · rw [hlength]
    rfl

theorem pingRequest_injective {p q} (h : pingRequest p = pingRequest q) : p = q := by
  have hbytes : toBeBytes 8 p = toBeBytes 8 q := (List.cons.inj (List.cons.inj h).2).2
  have hp := reads_readI64Be p []
  rw [hbytes, reads_readI64Be q []] at hp
  cases hp
  rfl

/-- A response can be sent if a packet can hold its text. -/
theorem exists_frameStatusResponse_iff (deflate json) :
    (∃ frame, frameStatusResponse deflate json = .ok frame) ↔ json.length ≤ 32767 := by
  constructor
  · rintro ⟨frame, h⟩
    obtain ⟨data, hstr, -, -⟩ := frameStatusPacket_ok_iff.mp h
    exact exists_string_iff.mp ⟨data, hstr⟩
  · intro hlen
    obtain ⟨data, hstr⟩ := exists_string_iff.mpr hlen
    have hdata : data.length ≤ 5 + 4 * 32767 := by
      have hsize := utf8ByteSize_le json
      have hcount := VarInt.writtenSize_le (BitVec.ofNat 32 json.utf8ByteSize)
      rw [length_of_string hstr]
      omega
    have hmax : VarInt.writtenSize 0x00#32 + data.length ≤ MAX_PACKET_SIZE := by
      have hid := VarInt.writtenSize_le 0x00#32
      have hlimit : MAX_PACKET_SIZE = 2097152 := rfl
      omega
    exact ⟨_, frameStatusPacket_ok_iff.mpr ⟨data, hstr, hmax, rfl⟩⟩

/-! ### Reading a frame -/

namespace ClientSocket

variable {deflate : ZlibCompressor} {inflate : ZlibDecompressor}

variable {frame : PacketFrame} {s : ClientSocket}

/-- A reading loop takes the first frame. The bytes `lost` were read beyond it. -/
theorem readStatusFrame_takes (s : ClientSocket) (queued) {packet rest}
    (henc : framer.Encodes (.new inflate) packet frame (.new inflate))
    (hbytes : queued ++ s.stream.incoming.flatten = packet ++ rest) :
    ∃ lost incoming, readStatusFrame inflate s queued
        = (.ok frame, { s with stream := { s.stream with incoming } }) ∧
      lost ++ incoming.flatten = rest ∧
      ∀ n, packet.length ≤ n → (ReadEnd 512 queued s.stream.incoming n ↔
        ReadEnd 512 lost incoming (n - packet.length)) := by
  set inlet : Inlet :=
    { stream := s.stream, decoder := (PacketDecoder.new inflate).queueBytes queued
      cipher := none, queued := [] } with hinlet
  obtain ⟨i', lost, hread, htaken⟩ :=
    Inlet.readFrame_takes (i := inlet) (by decide : 0 < 512) rfl henc rfl rfl hbytes
  refine ⟨lost, i'.stream.incoming, ?_, htaken.rest, htaken.readEnd⟩
  rw [readStatusFrame, ← hinlet]
  simp only [hread]
  exact congrArg (fun stream => (Except.ok frame, { s with stream })) htaken.stream

/-- A frame that was found is made of the first bytes of the stream. -/
theorem encodes_of_readStatusFrame {s'} (h : readStatusFrame inflate s [] = (.ok frame, s')) :
    ∃ used rest, s.stream.incoming.flatten = used ++ rest ∧
      framer.Encodes (.new inflate) used frame (.new inflate) := by
  set inlet : Inlet :=
    { stream := s.stream, decoder := (PacketDecoder.new inflate).queueBytes []
      cipher := none, queued := [] } with hinlet
  rw [readStatusFrame, ← hinlet, Inlet.readFrame] at h
  obtain ⟨raw, i₁, hreads, -, -, hfr⟩ :=
    Inlet.readFrameLoop_reads 512 (inlet.stream.incoming.flatten.length + 1) inlet
  rcases hloop : Inlet.readFrameLoop 512 (inlet.stream.incoming.flatten.length + 1) inlet
    with ⟨e | _ | found, i'⟩
  · rw [hloop] at h
    cases h
  · rw [hloop] at h
    cases h
  · simp only [hloop, Prod.mk.injEq, Except.ok.injEq] at h
    obtain ⟨rfl, -⟩ := h
    rw [hloop] at hfr
    obtain ⟨used, hused, henc⟩ := encodes_of_tryNextFrame (hfr found rfl)
    have hdcr : i₁.decoder = (PacketDecoder.new inflate).queueBytes raw := hreads.decoder
    rw [hdcr] at hused henc
    refine ⟨used, i'.decoder.buf ++ i₁.stream.incoming.flatten, ?_, henc⟩
    rw [← append_assoc, ← hused]
    exact hreads.stream.1

theorem stream_readStatusFrame (inflate s queued) :
    ∃ incoming, (readStatusFrame inflate s queued).2
      = { s with stream := { s.stream with incoming } } := by
  set inlet : Inlet :=
    { stream := s.stream, decoder := (PacketDecoder.new inflate).queueBytes queued
      cipher := none, queued := [] } with hinlet
  obtain ⟨incoming, hstream⟩ : ∃ incoming, (inlet.readFrame 512).2.stream
      = { s.stream with incoming } := inlet.stream_readFrameLoop _ _
  refine ⟨incoming, ?_⟩
  rw [← hstream, readStatusFrame, ← hinlet]
  rcases inlet.readFrame 512 with ⟨e | _ | frame, i'⟩ <;> rfl

theorem sendPacket_ok (hbud : s.stream.budget = none) (bytes) :
    s.sendPacket (.ok bytes)
      = (.ok (), { s with stream := { s.stream with sent := s.stream.sent ++ bytes } }) := by
  rw [sendPacket, TcpStream.writeAll_of_budget hbud]

/-! ### The second packet -/

/-- A frame that was read is answered with the payload `q`. -/
theorem handlePingPong_of_read (hbud : s.stream.budget = none) {incoming : List Bytes}
    (hread : readStatusFrame inflate s []
      = (.ok frame, { s with stream := { s.stream with incoming } })) {q : BitVec 64}
    (hdec : StatusPacket.decode frame = .ok (some (.pingRequest q)) ∨
      q = 0 ∧ ∃ packet, StatusPacket.decode frame = .ok packet ∧
        ∀ payload, packet ≠ some (.pingRequest payload)) :
    (s.handlePingPong deflate inflate).2.stream.sent = s.stream.sent ++ pingRequest q := by
  have hsend : ∀ bytes, (sendPacket { s with stream := { s.stream with incoming } }
      (.ok bytes)).2.stream.sent = s.stream.sent ++ bytes := fun bytes =>
    congrArg (·.2.stream.sent)
      (sendPacket_ok (s := { s with stream := { s.stream with incoming } }) hbud bytes)
  rw [handlePingPong, hread]
  rcases hdec with hping | ⟨rfl, packet, hother, hne⟩
  · simp only [hping, framePingResponse_eq]
    exact hsend _
  · rcases packet with _ | _ | payload
    · simp only [hother, framePingResponse_eq]
      exact hsend _
    · simp only [hother, framePingResponse_eq]
      exact hsend _
    · exact absurd rfl (hne payload)

/-- A ping that comes whole is answered. -/
theorem handlePingPong_sent {p} (hbud : s.stream.budget = none)
    (hbytes : s.stream.incoming.flatten = pingRequest p) :
    (s.handlePingPong deflate inflate).2.stream.sent = s.stream.sent ++ pingRequest p := by
  obtain ⟨lost, incoming, hread, -, -⟩ :=
    readStatusFrame_takes s [] (encodes_pingRequest inflate p)
      (show [] ++ s.stream.incoming.flatten = pingRequest p ++ [] by simp [hbytes])
  have hdec : StatusPacket.decode ⟨0x01#32, toBeBytes 8 p⟩ = .ok (some (.pingRequest p)) := by
    have hid : ¬(0x01#32 : I32) = 0x00#32 := by decide
    have hpay := reads_readI64Be p []
    rw [append_nil] at hpay
    rw [StatusPacket.decode, if_neg hid, if_pos rfl, hpay]
  exact handlePingPong_of_read hbud hread (.inl hdec)

/-- Less than a ping is answered with zero, if it begins with a frame, or not at all. -/
theorem handlePingPong_short (deflate inflate)
    (hbud : s.stream.budget = none) (hbytes : s.stream.incoming.flatten.length < 10) :
    (s.handlePingPong deflate inflate).2.stream.sent = s.stream.sent ∨
      (s.handlePingPong deflate inflate).2.stream.sent = s.stream.sent ++ pingRequest 0 ∧
      ∃ used rest frame, s.stream.incoming.flatten = used ++ rest ∧
        framer.Encodes (.new inflate) used frame (.new inflate) := by
  obtain ⟨incoming, hstream⟩ := stream_readStatusFrame inflate s []
  rcases hread : readStatusFrame inflate s [] with ⟨e | frame, s'⟩
  · rw [hread] at hstream
    subst hstream
    rw [handlePingPong, hread]
    exact .inl rfl
  · obtain ⟨used, rest, hused, henc⟩ := encodes_of_readStatusFrame hread
    rw [hread] at hstream
    subst hstream
    have hpay := length_payload_of_encodes henc
    have hlength := congrArg List.length hused
    rw [length_append] at hlength
    cases hdec : StatusPacket.decode frame with
    | error e =>
      refine .inl ?_
      rw [handlePingPong, hread]
      simp only [hdec]
    | ok packet =>
      refine .inr ⟨handlePingPong_of_read hbud hread (.inr ⟨rfl, packet, hdec, ?_⟩),
        used, rest, frame, hused, henc⟩
      -- the frame has no room for the eight bytes of a payload
      rintro payload rfl
      have hlong := StatusPacket.length_of_decode hdec
      omega

/-- When the bytes `lost` of a ping are gone, it is answered only if there are none, or if what is
left of it says the same. -/
theorem handlePingPong_lost_iff {p lost} (hbud : s.stream.budget = none)
    (hbytes : lost ++ s.stream.incoming.flatten = pingRequest p) :
    (s.handlePingPong deflate inflate).2.stream.sent = s.stream.sent ++ pingRequest p ↔
      lost = [] ∨ p = 0 ∧ lost.length = 1 := by
  cases lost with
  | nil => exact iff_of_true (handlePingPong_sent hbud hbytes) (.inl rfl)
  | cons b lost =>
    have hlength := congrArg List.length hbytes
    rw [length_pingRequest, length_append, length_cons] at hlength
    constructor
    · intro hsent
      rcases handlePingPong_short deflate inflate hbud (by omega)
        with hnone | ⟨hzero, used, rest, frame, hused, henc⟩
      · -- no answer at all
        rw [hnone] at hsent
        have hnil : pingRequest p = [] := self_eq_append_right.mp hsent
        cases hnil
      · have hp : p = 0 := by
          rw [hsent] at hzero
          exact pingRequest_injective (append_cancel_left hzero)
        subst hp
        refine .inr ⟨rfl, ?_⟩
        cases lost with
        | nil => rfl
        | cons b' lost =>
          -- what is left has zeros only, and no frame begins with one
          exfalso
          have hzeros : lost ++ s.stream.incoming.flatten = List.replicate 8 0x00 := by
            exact (List.cons.inj (List.cons.inj hbytes).2).2
          cases used with
          | nil =>
            have htwo := length_payload_of_encodes henc
            exact absurd htwo (by simp)
          | cons x used =>
            have hx : x = 0x00 := by
              refine eq_of_mem_replicate (n := 8) ?_
              rw [← hzeros, hused]
              simp
            subst hx
            exact head_ne_zero_of_encodes henc rfl
    · rintro (hnil | ⟨rfl, hone⟩)
      · cases hnil
      · have hlost : lost = [] := length_eq_zero_iff.mp (Nat.succ.inj hone)
        subst hlost
        have hrest : s.stream.incoming.flatten = statusRequest ++ List.replicate 7 0x00 :=
          (List.cons.inj hbytes).2
        obtain ⟨_, incoming, hread, -, -⟩ := readStatusFrame_takes s []
          (encodes_statusRequest inflate) hrest
        exact handlePingPong_of_read hbud hread (.inr ⟨rfl, _, rfl, nofun⟩)

end ClientSocket

/-! ### The whole exchange -/

section Exchange

variable (handler : StatusHandler) (world : StatusWorld) (deflate : ZlibCompressor)
  (inflate : ZlibDecompressor) (routing : Option RoutingData)

/-- The client gets one status response, and then its payload back. -/
def Answers (p : BitVec 64) (s : ClientSocket) : Prop :=
  ∃ json status pong, handler.response world routing = .ok json ∧
    frameStatusResponse deflate json = .ok status ∧ framePingResponse deflate p = .ok pong ∧
    (handler.handle world deflate inflate routing s).2.stream.sent = s.stream.sent ++ status ++ pong

/-- There is a response, and it fits into a packet. -/
def Sendable : Prop := ∃ json, handler.response world routing = .ok json ∧ json.length ≤ 32767

variable {handler world routing}

/-- A client is answered exactly if a read ends with its status request, or if it pings with
zero and a read ends one byte later. -/
theorem handle_answers_iff {s : ClientSocket} {p : BitVec 64} (hbud : s.stream.budget = none)
    (hbytes : s.bytes = statusRequest ++ pingRequest p) :
    Answers handler world deflate inflate routing p s ↔
      Sendable handler world routing ∧
      (ReadEnd 512 s.bufferedData s.stream.incoming statusRequest.length ∨
        p = 0 ∧ ReadEnd 512 s.bufferedData s.stream.incoming (statusRequest.length + 1)) := by
  obtain ⟨lost, incoming, hread, hlost, hend⟩ :=
    readStatusFrame_takes { s with bufferedData := [] } s.bufferedData
      (encodes_statusRequest inflate) hbytes
  have hreq : s.readStatusRequest inflate
      = (.ok (), { stream := { s.stream with incoming }, bufferedData := [] }) := by
    rw [ClientSocket.readStatusRequest, hread]
  -- the handler's answers when there is a response that can be sent
  have hhdl : ∀ {json status}, handler.response world routing = .ok json →
      frameStatusResponse deflate json = .ok status →
      ((handler.handle world deflate inflate routing s).2.stream.sent
          = s.stream.sent ++ status ++ pingRequest p ↔ lost = [] ∨ p = 0 ∧ lost.length = 1) := by
    intro json status hresp hstat
    have hsent := sendPacket_ok
      (s := { stream := { s.stream with incoming }, bufferedData := [] }) hbud status
    rw [StatusHandler.handle, hreq]
    simp only [hresp, hstat]
    rw [hsent]
    exact handlePingPong_lost_iff (s := { stream :=
      { s.stream with incoming, sent := s.stream.sent ++ status }, bufferedData := [] })
      hbud hlost
  have hcond : lost = [] ∨ p = 0 ∧ lost.length = 1 ↔
      (ReadEnd 512 s.bufferedData s.stream.incoming statusRequest.length ∨
        p = 0 ∧ ReadEnd 512 s.bufferedData s.stream.incoming (statusRequest.length + 1)) := by
    have hone : lost ≠ [] → (ReadEnd 512 lost incoming 1 ↔ lost.length = 1) := by
      intro hne
      have hpos := length_pos_iff.mpr hne
      rw [ReadEnd, Nat.sub_eq_zero_of_le hpos, and_iff_left (atReadEnd_zero _ _)]
      omega
    rw [hend _ (Nat.le_refl _), hend _ (Nat.le_add_right _ 1), Nat.sub_self, Nat.add_sub_cancel_left,
      readEnd_zero]
    by_cases hne : lost = []
    · exact iff_of_true (.inl hne) (.inl hne)
    · rw [hone hne]
  rw [← hcond]
  constructor
  · rintro ⟨json, status, pong, hresp, hstat, hpong, hsent⟩
    rw [framePingResponse_eq] at hpong
    cases hpong
    exact ⟨⟨json, hresp, (exists_frameStatusResponse_iff deflate json).mp ⟨status, hstat⟩⟩,
      (hhdl hresp hstat).mp hsent⟩
  · rintro ⟨⟨json, hresp, hlength⟩, hlost⟩
    obtain ⟨status, hstat⟩ := (exists_frameStatusResponse_iff deflate json).mpr hlength
    exact ⟨json, status, _, hresp, hstat, framePingResponse_eq deflate p,
      (hhdl hresp hstat).mpr hlost⟩

end Exchange

/-- A handler without servers, default texts and icons. -/
def plainHandler : StatusHandler where
  serverManager := none
  defaultMotd := none
  faviconCache := fun _ => none
  countByServer := fun _ => 0

/-- No backend is asked and no plugin listens. The JSON is a fixed text. -/
def plainWorld : StatusWorld where
  relayOrCache := fun _ _ => .synthetic "backend" none none none
  onPing := id
  toJson := fun _ => .ok "OK"

/-- A client whose bytes come in these segments. -/
def socketOf (segments : List Bytes) : ClientSocket where
  stream := { sent := [], budget := none, failure := .brokenPipe, incoming := segments }
  bufferedData := []

/-- What the plain handler does with these segments. -/
def plainHandle (segments : List Bytes) : Except CoreError Unit × ClientSocket :=
  plainHandler.handle plainWorld (Flate2.compressor StoredZlib.deflate)
    (Flate2.decompressor StoredZlib.inflate) none (socketOf segments)

/-- The plain handler answers a client with payload 5. -/
def PlainAnswers (segments : List Bytes) : Prop :=
  Answers plainHandler plainWorld (Flate2.compressor StoredZlib.deflate)
    (Flate2.decompressor StoredZlib.inflate) none 5 (socketOf segments)

theorem handle_answers_separate_segments : PlainAnswers [statusRequest, pingRequest 5] :=
  (handle_answers_iff _ _ rfl rfl).mpr ⟨⟨"OK", rfl, by decide⟩, .inl ⟨by decide, by decide⟩⟩

/-- Request and ping in one segment: the ping is dropped with the decoder that read it. -/
theorem handle_loses_ping_in_same_segment :
    (plainHandle [statusRequest ++ pingRequest 5]).1 = .error .connectionClosed ∧
      ¬PlainAnswers [statusRequest ++ pingRequest 5] := by
  have hsent : (plainHandle [statusRequest ++ pingRequest 5]).2.stream.sent
      = [0x04, 0x00, 0x02, 0x4F, 0x4B] := by decide +kernel
  have hfr : frameStatusResponse (Flate2.compressor StoredZlib.deflate) "OK"
      = .ok [0x04, 0x00, 0x02, 0x4F, 0x4B] := by decide +kernel
  refine ⟨by decide +kernel, ?_⟩
  rintro ⟨json, status, pong, hresp, hstat, hpong, hboth⟩
  cases hresp
  cases hfr.symm.trans hstat
  cases (framePingResponse_eq _ _).symm.trans hpong
  exact absurd (hsent.symm.trans hboth) (by decide)

/-! ### Domains that no configuration has -/

section UnknownDomain

variable {strings : Strings} {env : ProxyEnv} {bans : Checkpoint → BanView}
  {handler : StatusHandler} {world : StatusWorld} {conn : Connection}

/-- A connection that gets a response is handed to the status handler, and it has a route. -/
theorem statusResponse_routed {response}
    (h : statusResponse strings env bans handler world conn = some response) :
    (∀ offlineUuid, handleConnection strings env offlineUuid bans conn = [.status]) ∧
      ∃ handshake start id config, conn.client = .modern (.ok handshake) start ∧
        env.router.resolve strings (HandshakeData.ofHandshake strings handshake).domain
          = some (id, config) ∧
        response = world.onPing
          (handler.resolveResponse world (some ⟨config, config.effectiveId⟩)) := by
  rw [statusResponse] at h
  split at h
  case h_1 ctx hpass =>
    obtain ⟨-, handshake, start, id, config, hcl, hres, -, rfl⟩ := commonPipeline_proceed hpass
    split at h <;> cases h
    case isTrue hstat =>
      refine ⟨fun offlineUuid => ?_, handshake, start, id, config, hcl, hres, rfl⟩
      have hintent : (HandshakeData.ofHandshake strings handshake).intent = .status := by
        simpa using hstat
      rw [handleConnection]
      simp only [hpass, hintent]
  all_goals cases h

/-- A client asks for the status of a domain that no configuration has, and such connections are
not to be dropped. -/
def UnknownDomainPing (strings : Strings) (env : ProxyEnv) (conn : Connection) : Prop :=
  env.dropUnknownDomain = false ∧
    ∃ handshake start, conn.client = .modern (.ok handshake) start ∧
      handshake.nextState = .status ∧
      env.router.resolve strings (HandshakeData.ofHandshake strings handshake).domain = none

/-- The client gets the default MOTD as its response. -/
def AnsweredByDefaultMotd (strings : Strings) (env : ProxyEnv) (bans : Checkpoint → BanView)
    (handler : StatusHandler) (world : StatusWorld) (conn : Connection) : Prop :=
  statusResponse strings env bans handler world conn
    = some (world.onPing handler.buildDefaultMotdResponse)

/-- The default MOTD is no answer to a status request for an unknown domain: there is none. -/
theorem unknown_domain_status_unanswered (h : UnknownDomainPing strings env conn) :
    ¬AnsweredByDefaultMotd strings env bans handler world conn := by
  obtain ⟨-, handshake, start, hcl, -, hunknown⟩ := h
  intro hans
  obtain ⟨-, handshake', start', id, config, hcl', hres, -⟩ := statusResponse_routed hans
  rw [hcl] at hcl'
  cases hcl'
  rw [hunknown] at hres
  cases hres

end UnknownDomain

/-- A status request for a domain of nobody. -/
def lostPing : Connection :=
  { clientIp := .v4 0xC0A80114#32, freshUuid := 7
    client := .modern (.ok ⟨⟨765⟩, "nowhere.example.com", 25565, .status⟩)
      (.error .connectionClosed) }

/-- The default MOTD is configured. -/
def welcomingHandler : StatusHandler :=
  { plainHandler with defaultMotd := some { online := some ⟨"Welcome", none, none, none⟩ } }

theorem lostPing_unanswered :
    ¬AnsweredByDefaultMotd asciiStrings (.permissive .new) (fun _ => ⟨.new, 0⟩) welcomingHandler
      plainWorld lostPing :=
  unknown_domain_status_unanswered ⟨rfl, _, _, rfl, rfl, by decide⟩

/-- Nothing stands in the way of the connection but its domain, and nothing happens on it. -/
theorem lostPing_ignored :
    statusResponse asciiStrings (.permissive .new) (fun _ => ⟨.new, 0⟩) welcomingHandler
        plainWorld lostPing = none ∧
      handleConnection asciiStrings (.permissive .new) (fun _ => 0) (fun _ => ⟨.new, 0⟩) lostPing
        = [] ∧
      welcomingHandler.buildDefaultMotdResponse.description = .text "Welcome" := by
  refine ⟨by decide, by decide, by decide⟩

end Infrarust
