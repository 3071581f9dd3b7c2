import Infrarust.Proofs.Protocol.Packet

/-!
# `Infrarust.Proofs.Protocol.PacketStream`: what the encoder sends, the decoder receives

A sequence of encoder operations mixes appended packets with changes of the compression
threshold and with `take`. The stream is everything that was taken. The receiver is a
`PacketDecoder` that makes the same changes at the same frame boundaries. `schedule` lists
them: those before the first frame, and then those after each frame.

`receiver_feed_of_runOps` says that the receiver gets exactly the appended packets, in
order, from any chunking of the stream, and ends waiting with no bytes left. The induction
is on the operations. Its invariant is that draining what the remaining operations add to
the stream gives the remaining frames.
-/

set_option autoImplicit false

namespace Infrarust

open Framing (Framer Step Status)
open PacketDecoder

/-- The operations of a `PacketEncoder`. -/
inductive EncoderOp where
  | appendRaw (packetId : I32) (payload : Bytes)
  | appendFrame (frame : PacketFrame)
  | setCompression (threshold : I32)
  | take

/-- One operation on an encoder and the bytes taken from it so far. -/
def EncoderOp.run : EncoderOp → PacketEncoder × Bytes →
    Except ProtocolError (PacketEncoder × Bytes)
  | .appendRaw packetId payload, (e, taken) =>
    match e.appendRaw packetId payload with
    | .ok e' => .ok (e', taken)
    | .error err => .error err
  | .appendFrame frame, (e, taken) =>
    match e.appendFrame frame with
    | .ok e' => .ok (e', taken)
    | .error err => .error err
  | .setCompression threshold, (e, taken) => .ok (e.setCompression threshold, taken)
  | .take, (e, taken) => .ok (e.take.2, taken ++ e.take.1)

/-- A sequence of operations, all of which return `Ok`. -/
def runOps : List EncoderOp → PacketEncoder × Bytes → Except ProtocolError (PacketEncoder × Bytes)
  | [], st => .ok st
  | op :: ops, st =>
    match op.run st with
    | .ok st' => runOps ops st'
    | .error err => .error err

/-- The packet that an operation appends. -/
def EncoderOp.frame? : EncoderOp → Option PacketFrame
  | .appendRaw packetId payload => some { id := packetId, payload }
  | .appendFrame frame => some frame
  | .setCompression _ => none
  | .take => none

/-- The thresholds set before the first frame, and those set after each frame. -/
def schedule : List EncoderOp → List I32 × List (List I32)
  | [] => ([], [])
  | .setCompression threshold :: ops => (threshold :: (schedule ops).1, (schedule ops).2)
  | .take :: ops => schedule ops
  | .appendRaw _ _ :: ops => ([], (schedule ops).1 :: (schedule ops).2)
  | .appendFrame _ :: ops => ([], (schedule ops).1 :: (schedule ops).2)

namespace Receiver

/-- Applies `set_compression` for each threshold. -/
def switch (d : PacketDecoder) (thresholds : List I32) : PacketDecoder :=
  thresholds.foldl PacketDecoder.setCompression d

/-- What the receiver does after a frame: the next entry of the schedule. -/
def afterFrame (_ : PacketFrame) : List (List I32) → PacketDecoder →
    PacketDecoder × List (List I32)
  | [], d => (d, [])
  | thresholds :: later, d => (switch d thresholds, later)

theorem switch_queueBytes {thresholds} : ∀ (d : PacketDecoder) (t : Bytes),
    switch (d.queueBytes t) thresholds = (switch d thresholds).queueBytes t := by
  induction thresholds with
  | nil => intro d t; rfl
  | cons threshold rest ih => intro d t; exact ih (d.setCompression threshold) t

theorem switch_buf {thresholds} : ∀ d : PacketDecoder, (switch d thresholds).buf = d.buf := by
  induction thresholds with
  | nil => intro d; rfl
  | cons threshold rest ih => intro d; exact ih (d.setCompression threshold)

/-- The decoder that follows a schedule. -/
def framer : Framer (PacketDecoder × List (List I32)) UInt8 PacketFrame ProtocolError :=
  PacketDecoder.framer.hooked afterFrame (by
      intro frame later d t
      cases later with
      | nil => rfl
      | cons thresholds later =>
        show (switch (d.queueBytes t) thresholds, later) = _
        rw [switch_queueBytes]
        rfl)
    (by
      intro frame later d
      cases later with
      | nil => rfl
      | cons thresholds later =>
        show (switch d thresholds).buf.length = d.buf.length
        rw [switch_buf])

/-- The receiver before the first byte: it has made the changes before the first frame. -/
def start (d : PacketDecoder) (ops : List EncoderOp) : PacketDecoder × List (List I32) :=
  (switch d (schedule ops).1, (schedule ops).2)

variable {d : PacketDecoder}

theorem next_of_buf_nil (h : d.buf = []) {later} : framer.next (d, later) = .more :=
  Framer.hooked_next_of_more (step_of_buf_nil h) later

theorem start_next (h : d.buf = []) (ops) : framer.next (start d ops) = .more :=
  next_of_buf_nil (by rw [switch_buf, h])

end Receiver

/-- Everything a successful operation can do. -/
theorem EncoderOp.run_cases {op : EncoderOp} {e e' taken taken'}
    (h : op.run (e, taken) = .ok (e', taken')) :
    (∃ frame, op.frame? = some frame ∧
      (∀ ops, schedule (op :: ops) = ([], (schedule ops).1 :: (schedule ops).2)) ∧
      e.appendRaw frame.id frame.payload = .ok e' ∧ taken' = taken) ∨
    (∃ threshold, op = .setCompression threshold ∧ e' = e.setCompression threshold ∧
      taken' = taken) ∨
    (op = .take ∧ e' = { e with buf := [] } ∧ taken' = taken ++ e.buf) := by
  cases op with
  | appendRaw packetId payload =>
    refine .inl ⟨{ id := packetId, payload }, rfl, fun _ => rfl, ?_⟩
    cases happ : e.appendRaw packetId payload <;> simp [run, happ] at h
    exact ⟨congrArg _ h.1, h.2.symm⟩
  | appendFrame frame =>
    refine .inl ⟨frame, rfl, fun _ => rfl, ?_⟩
    cases happ : e.appendRaw frame.id frame.payload <;>
      simp [run, PacketEncoder.appendFrame, happ] at h
    exact ⟨congrArg _ h.1, h.2.symm⟩
  | setCompression threshold =>
    cases h
    exact .inr (.inl ⟨threshold, rfl, rfl, rfl⟩)
  | take =>
    cases h
    exact .inr (.inr ⟨rfl, rfl, rfl⟩)

variable {z : ZlibDecompressor}

/-- A block that encodes one frame, in front of a stream that the receiver drains. -/
theorem receiver_drain_append {setting block stream frame frames ops st}
    (hblock : PacketDecoder.framer.Encodes ⟨[], setting, z⟩ block frame ⟨[], setting, z⟩)
    (hdrain : Receiver.framer.drain
      (Receiver.framer.push (Receiver.start ⟨[], setting, z⟩ ops) stream) = (frames, st)) :
    Receiver.framer.drain (Receiver.framer.push
      (⟨[], setting, z⟩, (schedule ops).1 :: (schedule ops).2) (block ++ stream))
      = (frame :: frames, st) := by
  rw [Receiver.framer.drain_push_of_encodes (hblock.hooked _) stream]
  -- The hook has made the changes that come before the first frame of `ops`.
  show (frame :: (Receiver.framer.drain (Receiver.framer.push
      (Receiver.start ⟨[], setting, z⟩ ops) stream)).1, (Receiver.framer.drain (Receiver.framer.push
      (Receiver.start ⟨[], setting, z⟩ ops) stream)).2) = _
  rw [hdrain]

/-- The invariant of the stream: what the remaining operations add to it, drained by a
receiver that has caught up with the encoder, gives the remaining frames. -/
theorem receiver_drain_of_runOps (ops : List EncoderOp) :
    ∀ {e e' : PacketEncoder} {taken taken'}, ZlibInverse e.compressor z →
      (∀ frame ∈ ops.filterMap EncoderOp.frame?,
        VarInt.writtenSize frame.id + frame.payload.length ≤ MAX_PACKET_DATA_SIZE) →
      runOps ops (e, taken) = .ok (e', taken') →
      ∃ block, taken' ++ e'.buf = taken ++ e.buf ++ block ∧
        Receiver.framer.drain
            (Receiver.framer.push (Receiver.start ⟨[], e.compressionThreshold, z⟩ ops) block)
          = (ops.filterMap EncoderOp.frame?, .waiting (⟨[], e'.compressionThreshold, z⟩, [])) := by
  induction ops with
  | nil =>
    intro e e' taken taken' _ _ hrun
    cases hrun
    refine ⟨[], (List.append_nil _).symm, ?_⟩
    exact Receiver.framer.drain_of_more (Receiver.start_next rfl [])
  | cons op ops ih =>
    intro e e' taken taken' hz hsize hrun
    rw [runOps] at hrun
    cases hop : op.run (e, taken) with
    | error err => simp [hop] at hrun
    | ok st =>
      obtain ⟨e₁, taken₁⟩ := st
      rw [hop] at hrun
      rcases EncoderOp.run_cases hop with
        ⟨frame, hfr, hsched, happ, rfl⟩ | ⟨threshold, rfl, rfl, rfl⟩ | ⟨rfl, rfl, rfl⟩
      · -- A frame was appended. The receiver takes its block off first.
        rw [List.filterMap_cons_some hfr] at hsize ⊢
        rw [List.forall_mem_cons] at hsize
        obtain ⟨block, rfl, hblock⟩ := PacketEncoder.appendRaw_spec hz (fun _ => hsize.1) happ
        obtain ⟨stream, hstr, hdrain⟩ := ih (by exact hz) hsize.2 hrun
        refine ⟨block ++ stream, ?_, ?_⟩
        · rw [hstr]
          simp
        · rw [Receiver.start, hsched]
          exact receiver_drain_append hblock hdrain
      · -- The setting changed. The receiver has made the change before it starts.
        exact ih (by exact hz) hsize hrun
      · -- The bytes so far were taken, which moves them and adds none.
        obtain ⟨stream, hstr, hdrain⟩ := ih (by exact hz) hsize hrun
        refine ⟨stream, ?_, hdrain⟩
        rw [hstr]
        simp

/-- The receiver of a stream of encoder operations that all succeed gets exactly the
appended packets, in order, from any chunking, and then waits with no bytes left. -/
theorem receiver_feed_of_runOps (c : ZlibCompressor) (z : ZlibDecompressor)
    (hz : ZlibInverse c z) (ops : List EncoderOp)
    (hsize : ∀ frame ∈ ops.filterMap EncoderOp.frame?,
      VarInt.writtenSize frame.id + frame.payload.length ≤ MAX_PACKET_DATA_SIZE)
    (e : PacketEncoder) (taken : Bytes)
    (hrun : runOps ops (PacketEncoder.new c, []) = .ok (e, taken))
    (chunks : List Bytes) (hchunks : chunks.flatten = taken ++ e.take.1) :
    ∃ d : PacketDecoder,
      Receiver.framer.feed (.waiting (Receiver.start (PacketDecoder.new z) ops)) chunks
        = (ops.filterMap EncoderOp.frame?, .waiting (d, [])) ∧
      d.intoRemaining = [] ∧ d.tryNextFrame = (.ok none, d) := by
  obtain ⟨block, hblock, hdrain⟩ := receiver_drain_of_runOps ops hz hsize hrun
  have hstr : chunks.flatten = block := by
    rw [hchunks]
    simpa [PacketEncoder.take, PacketEncoder.new] using hblock
  refine ⟨⟨[], e.compressionThreshold, z⟩, ?_, rfl, ?_⟩
  · rw [Receiver.framer.feed_eq_drain_flatten chunks _ (Receiver.start_next rfl ops), hstr]
    exact hdrain
  · exact (step_eq_more_iff _).1 (step_of_buf_nil rfl)

/-- Two packets, the second of them above a threshold that is set in between, taken at once
and delivered in three chunks that cut through both length prefixes. -/
theorem receiver_feed_of_runOps_two :
    let c := Flate2.compressor StoredZlib.deflate
    let z := Flate2.decompressor StoredZlib.inflate
    let ops : List EncoderOp :=
      [.appendRaw 0#32 [1, 2], .setCompression 2#32, .appendFrame { id := 5#32, payload := [7] }]
    ∃ e, runOps ops (PacketEncoder.new c, []) = .ok (e, []) ∧
      ∃ d : PacketDecoder,
        Receiver.framer.feed (.waiting (Receiver.start (PacketDecoder.new z) ops))
            [[], e.take.1.take 4, e.take.1.drop 4]
          = ([{ id := 0#32, payload := [1, 2] }, { id := 5#32, payload := [7] }],
              .waiting (d, [])) ∧
        d.intoRemaining = [] ∧ d.tryNextFrame = (.ok none, d) := by
  intro c z ops
  refine ⟨_, rfl, ?_⟩
  exact receiver_feed_of_runOps c z (Flate2.zlibInverse StoredZlib.inflate_deflate) ops (by decide) _ [] rfl _
    (by simp [List.take_append_drop])

end Infrarust
