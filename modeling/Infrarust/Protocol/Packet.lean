import Infrarust.Protocol.VarInt

/-!
# `Infrarust.Protocol.Packet`: packet framing and compression

A packet travels as a length, an id and a payload. Once compression is on, a second length
says whether the id and the payload are zlib data or, when it is zero, plain.
`PacketEncoder` collects frames in a buffer that `take` empties, and `PacketDecoder` takes
frames off the bytes queued so far.

zlib itself is a third-party library behind two traits of the source, and so are the
structures `ZlibCompressor` and `ZlibDecompressor` here. The default implementation is
`Flate2`, whose wrapper code is modelled over the stream the library produces. The scratch
buffers that the source keeps to avoid allocations hold nothing between two calls and are
left out.
-/

set_option autoImplicit false

namespace Infrarust

/-- The largest frame, as announced by its length prefix. -/
def MAX_PACKET_SIZE : Nat := 2097152

/-- The largest packet after decompression. -/
def MAX_PACKET_DATA_SIZE : Nat := 8388608

/-- `PacketFrame`: a packet id and its undecoded payload. -/
structure PacketFrame where
  id : I32
  payload : Bytes
deriving DecidableEq, Repr

/-- The trait `ZlibCompressor`. -/
structure ZlibCompressor where
  compress : Bytes → Except ProtocolError Bytes

/-- The trait `ZlibDecompressor`. The number is the expected size of the result. -/
structure ZlibDecompressor where
  decompress : Bytes → Nat → Except ProtocolError Bytes

namespace Flate2

/-- `Flate2Compressor`, over the library's encoder. -/
def compressor (deflate : Bytes → Except ErrorKind Bytes) : ZlibCompressor where
  compress input :=
    match deflate input with
    | .ok output => .ok output
    | .error kind => .error (.io kind)

/-- `Flate2Decompressor`. `inflate` gives the bytes that the library's decoder yields before
the end of the stream or its first error. -/
def decompressor (inflate : Bytes → Bytes) : ZlibDecompressor where
  decompress input expectedSize :=
    let stream := inflate input
    -- `read_exact` fills the output or fails.
    if stream.length < expectedSize then
      .error (.invalid "failed to decompress packet data")
    -- One more read finds out whether there is extra data. Its error counts as none.
    else if stream.length > expectedSize then
      .error (.invalid "decompressed data larger than expected size")
    else .ok stream

end Flate2

structure PacketEncoder where
  buf : Bytes
  compressionThreshold : Option I32
  compressor : ZlibCompressor

namespace PacketEncoder

def new (compressor : ZlibCompressor) : PacketEncoder :=
  { buf := [], compressionThreshold := none, compressor }

/-- `PacketEncoder::append_raw`. All checks come before the first write, so an error leaves
the encoder as it was. -/
def appendRaw (e : PacketEncoder) (packetId : I32) (payload : Bytes) :
    Except ProtocolError PacketEncoder :=
  let packetIdSize := VarInt.writtenSize packetId
  match e.compressionThreshold with
  | none =>
    let dataLen := packetIdSize + payload.length
    if dataLen > MAX_PACKET_SIZE then .error (.tooLarge MAX_PACKET_SIZE dataLen)
    else .ok { e with buf := e.buf ++ VarInt.encode (BitVec.ofNat 32 dataLen)
      ++ VarInt.encode packetId ++ payload }
  | some threshold =>
    let uncompressedLen := packetIdSize + payload.length
    -- `as i32` wraps, and the comparison is signed: a negative threshold compresses everything.
    if (BitVec.ofNat 32 uncompressedLen).toInt ≥ threshold.toInt then
      match e.compressor.compress (VarInt.encode packetId ++ payload) with
      | .error err => .error err
      | .ok compressed =>
        let dataLenVarint := BitVec.ofNat 32 uncompressedLen
        -- Only the compressed size is limited here.
        let packetLen := VarInt.writtenSize dataLenVarint + compressed.length
        if packetLen > MAX_PACKET_SIZE then .error (.tooLarge MAX_PACKET_SIZE packetLen)
        else .ok { e with buf := e.buf ++ VarInt.encode (BitVec.ofNat 32 packetLen)
          ++ VarInt.encode dataLenVarint ++ compressed }
    else
      -- A data length of zero says that the rest is not compressed.
      let dataLenVarint := 0#32
      let packetLen := VarInt.writtenSize dataLenVarint + packetIdSize + payload.length
      if packetLen > MAX_PACKET_SIZE then .error (.tooLarge MAX_PACKET_SIZE packetLen)
      else .ok { e with buf := e.buf ++ VarInt.encode (BitVec.ofNat 32 packetLen)
        ++ VarInt.encode dataLenVarint ++ VarInt.encode packetId ++ payload }

def appendFrame (e : PacketEncoder) (frame : PacketFrame) : Except ProtocolError PacketEncoder :=
  e.appendRaw frame.id frame.payload

/-- `PacketEncoder::take`: the collected bytes, and the encoder with an empty buffer. -/
def take (e : PacketEncoder) : Bytes × PacketEncoder := (e.buf, { e with buf := [] })

def setCompression (e : PacketEncoder) (threshold : I32) : PacketEncoder :=
  { e with compressionThreshold := some threshold }

end PacketEncoder

structure PacketDecoder where
  buf : Bytes
  compressionThreshold : Option I32
  decompressor : ZlibDecompressor

namespace PacketDecoder

def new (decompressor : ZlibDecompressor) : PacketDecoder :=
  { buf := [], compressionThreshold := none, decompressor }

variable (d : PacketDecoder)

def queueBytes (bytes : Bytes) : PacketDecoder := { d with buf := d.buf ++ bytes }

def setCompression (threshold : I32) : PacketDecoder :=
  { d with compressionThreshold := some threshold }

def intoRemaining : Bytes := d.buf

/-- An id followed by the payload. -/
def decodePlain (data : Bytes) : Except ProtocolError PacketFrame :=
  match VarInt.decode data with
  | .ok (packetId, payload) => .ok { id := packetId, payload }
  | .error e => .error e

/-- The part of `try_next_frame` that decodes the bytes of one complete frame. -/
def decodeData (data : Bytes) : Except ProtocolError PacketFrame :=
  match d.compressionThreshold with
  | none => decodePlain data
  | some _ =>
    match VarInt.decode data with
    | .error e => .error e
    | .ok (dataLen, rest) =>
      if dataLen = 0#32 then decodePlain rest
      else
        -- `as usize` sign-extends, so a negative length is far above the limit.
        let dataLen := (dataLen.signExtend 64).toNat
        if dataLen > MAX_PACKET_DATA_SIZE then .error (.tooLarge MAX_PACKET_DATA_SIZE dataLen)
        else
          match d.decompressor.decompress rest dataLen with
          | .error e => .error e
          | .ok output => decodePlain output

/-- `PacketDecoder::try_next_frame`: the result and the decoder afterwards. A frame whose
content is malformed has been consumed when the error is returned. -/
def tryNextFrame : Except ProtocolError (Option PacketFrame) × PacketDecoder :=
  match VarInt.decodePartial d.buf with
  | .error .incomplete => (.ok none, d)
  | .error .tooLarge => (.error (.invalid "packet length VarInt too large"), d)
  | .ok (packetLen, varintSize) =>
    -- These two errors consume nothing, so the next call finds the same prefix again.
    if packetLen.toInt ≤ 0 then (.error (.invalid "packet length must be positive"), d)
    else
      let packetLen := packetLen.toNat
      if packetLen > MAX_PACKET_SIZE then
        (.error (.tooLarge MAX_PACKET_SIZE packetLen), d)
      else if d.buf.length < varintSize + packetLen then (.ok none, d)
      else
        let buf := d.buf.drop varintSize
        let data := buf.take packetLen
        -- The frame leaves the buffer whether or not its content can be decoded.
        let d' := { d with buf := buf.drop packetLen }
        match d.decodeData data with
        | .ok frame => (.ok (some frame), d')
        | .error e => (.error e, d')

end PacketDecoder

end Infrarust
