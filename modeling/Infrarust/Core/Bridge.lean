import Infrarust.Lib.Cfb8
import Infrarust.Protocol.Registry

/-!
# `Infrarust.Core.Bridge`: the two connections of a session

`ClientBridge` and `BackendBridge` wrap a TCP stream with a packet encoder and decoder. The
client side may also be encrypted with AES-128 in byte-wise cipher feedback, where AES is a
third-party cipher and enters as the key byte it yields for a register.

A stream takes a number of further bytes and then fails, so that a write can be cut short. The
peer's bytes arrive in segments, and a read returns at most the rest of one of them. What a read
queues in the decoder has passed the decryption cipher when one is set, so the two phases of a
connection share the decoder's buffer.

`ClientBridge.written` and `BackendBridge.written` are history variables: they list the frames
that `writeFrame` has accepted and nothing reads them. `ClientBridge.queued` is one too: it has
each byte that the decoder was given, with whether it was decrypted.
-/

set_option autoImplicit false

namespace Infrarust

/-- The variants of `CoreError` that a connection can meet. -/
inductive CoreError where
  | protocol (e : ProtocolError)
  | io (kind : ErrorKind)
  | auth (message : String)
  | connectionClosed
  | rejected (message : String)
  | timeout (message : String)
  | missingExtension (name : String)
  | transport (message : String)
  | other (message : String)
deriving DecidableEq, Repr

def CoreError.isExpectedDisconnect : CoreError → Bool
  | .io .connectionReset => true
  | .io .brokenPipe => true
  | .io .connectionAborted => true
  | .io .unexpectedEof => true
  | .connectionClosed => true
  | .transport _ => true
  | _ => false

/-- A `TcpStream`: what was sent, how much the peer still takes before writes fail with
`failure`, and the segments of the peer that were not read yet. After them a read finds
`ending`, the end of the stream or an error. -/
structure TcpStream where
  sent : Bytes
  budget : Option Nat
  failure : ErrorKind
  incoming : List Bytes := []
  ending : Except ErrorKind Unit := .ok ()

/-- `AsyncWriteExt::write_all`. A failed write may have sent the beginning of the data. -/
def TcpStream.writeAll (s : TcpStream) (data : Bytes) : Except ErrorKind Unit × TcpStream :=
  match s.budget with
  | none => (.ok (), { s with sent := s.sent ++ data })
  | some n =>
    if data.length ≤ n then
      (.ok (), { s with sent := s.sent ++ data, budget := some (n - data.length) })
    else (.error s.failure, { s with sent := s.sent ++ data.take n, budget := some 0 })

/-- `AsyncWriteExt::shutdown`. The writes that follow fail. -/
def TcpStream.shutdown (s : TcpStream) : TcpStream :=
  { s with budget := some 0, failure := .brokenPipe }

/-- At most `max` bytes of the first segment that has any, and the segments that are left. -/
def readSegment (max : Nat) : List Bytes → Option (Bytes × List Bytes)
  | [] => none
  | segment :: rest =>
    if segment = [] then readSegment max rest
    else some (segment.take max, segment.drop max :: rest)

/-- `AsyncReadExt::read` into a buffer of `max` bytes. No bytes is the end of the stream. -/
def TcpStream.read (s : TcpStream) (max : Nat) : Except ErrorKind Bytes × TcpStream :=
  match readSegment max s.incoming with
  | some (data, rest) => (.ok data, { s with incoming := rest })
  | none =>
    match s.ending with
    | .ok () => (.ok [], { s with incoming := [] })
    | .error kind => (.error kind, { s with incoming := [] })

/-- `EncryptCipher`: AES-128-CFB8 under a session key. -/
structure EncryptCipher where
  keystream : Bytes → UInt8
  register : Bytes

/-- `EncryptCipher::new`. The initial register is the key. -/
def EncryptCipher.new (aes : Bytes → Bytes → UInt8) (key : Bytes) : EncryptCipher :=
  { keystream := aes key, register := key }

def EncryptCipher.encrypt (c : EncryptCipher) (data : Bytes) : Bytes × EncryptCipher :=
  let r := Cfb8.encrypt c.keystream c.register data
  (r.1, { c with register := r.2 })

/-- The data as it goes to the stream, encrypted when a cipher is set. -/
def encryptWith : Option EncryptCipher → Bytes → Bytes × Option EncryptCipher
  | none, data => (data, none)
  | some cipher, data => ((cipher.encrypt data).1, some (cipher.encrypt data).2)

structure DecryptCipher where
  keystream : Bytes → UInt8
  register : Bytes

def DecryptCipher.new (aes : Bytes → Bytes → UInt8) (key : Bytes) : DecryptCipher :=
  { keystream := aes key, register := key }

def DecryptCipher.decrypt (c : DecryptCipher) (data : Bytes) : Bytes × DecryptCipher :=
  let r := Cfb8.decrypt c.keystream c.register data
  (r.1, { c with register := r.2 })

/-- The data as it goes to the decoder, decrypted when a cipher is set. -/
def decryptWith : Option DecryptCipher → Bytes → Bytes × Option DecryptCipher
  | none, data => (data, none)
  | some cipher, data => ((cipher.decrypt data).1, some (cipher.decrypt data).2)

/-- What a connection reads with. -/
structure Inlet where
  stream : TcpStream
  decoder : PacketDecoder
  cipher : Option DecryptCipher
  /-- The bytes that the decoder was given, and whether the cipher decrypted them. The parsers
  of the first packets keep them as their `raw_data`. -/
  queued : List (UInt8 × Bool)

namespace Inlet

/-- Decrypts the bytes of a read and hands them to the decoder. -/
def queue (i : Inlet) (data : Bytes) : Inlet :=
  let r := decryptWith i.cipher data
  { i with decoder := i.decoder.queueBytes r.1
           cipher := r.2
           queued := i.queued ++ r.1.map (·, i.cipher.isSome) }

/-- The loop that the bridges and the parsers of the first packets read a frame with, in reads
of at most `size` bytes. Each turn but the last reads a byte or more, so `fuel` above the number
of bytes to come is enough. -/
def readFrameLoop (size : Nat) : (fuel : Nat) → Inlet →
    Except CoreError (Option PacketFrame) × Inlet
  | 0, i => (.ok none, i)
  | fuel + 1, i =>
    match i.decoder.tryNextFrame with
    | (.error e, decoder) => (.error (.protocol e), { i with decoder })
    | (.ok (some frame), decoder) => (.ok (some frame), { i with decoder })
    | (.ok none, decoder) =>
      match i.stream.read size with
      | (.error kind, stream) => (.error (.io kind), { i with decoder, stream })
      | (.ok [], stream) => (.ok none, { i with decoder, stream })
      | (.ok (b :: data), stream) =>
        readFrameLoop size fuel ({ i with decoder, stream }.queue (b :: data))

/-- Reads until a frame is complete. There is none when the stream ends first. -/
def readFrame (size : Nat) (i : Inlet) : Except CoreError (Option PacketFrame) × Inlet :=
  readFrameLoop size (i.stream.incoming.flatten.length + 1) i

end Inlet

/-- The text components that a reason is put into. -/
structure ReasonTexts where
  /-- The component in JSON. -/
  json : String → String
  /-- The component in network NBT. -/
  nbt : String → Bytes

structure ClientBridge where
  stream : TcpStream
  decoder : PacketDecoder
  encoder : PacketEncoder
  encryptCipher : Option EncryptCipher
  decryptCipher : Option DecryptCipher := none
  protocolVersion : ProtocolVersion
  state : ConnectionState
  /-- The frames that `writeFrame` has accepted. -/
  written : List PacketFrame
  queued : List (UInt8 × Bool) := []

namespace ClientBridge

/-- `ClientBridge::new`. The bytes that the first packets were read with and that are left over
go to the decoder. -/
def new (deflate : ZlibCompressor) (inflate : ZlibDecompressor) (stream : TcpStream)
    (bufferedData : Bytes) (protocolVersion : ProtocolVersion) : ClientBridge where
  stream
  decoder := (PacketDecoder.new inflate).queueBytes bufferedData
  encoder := .new deflate
  encryptCipher := none
  protocolVersion
  state := .login
  written := []
  queued := bufferedData.map (·, false)

variable (c : ClientBridge)

/-- The part of the bridge that reads. -/
def inlet : Inlet :=
  { stream := c.stream, decoder := c.decoder, cipher := c.decryptCipher, queued := c.queued }

def readFrame : Except CoreError (Option PacketFrame) × ClientBridge :=
  let (result, i) := c.inlet.readFrame 4096
  (result, { c with stream := i.stream, decoder := i.decoder, decryptCipher := i.cipher,
                    queued := i.queued })

/-- `ClientBridge::enable_encryption`. The decoder's buffer is left as it is. -/
def enableEncryption (aes : Bytes → Bytes → UInt8) (key : Bytes) : ClientBridge :=
  { c with encryptCipher := some (.new aes key), decryptCipher := some (.new aes key) }

def writeFrame (frame : PacketFrame) : Except CoreError Unit × ClientBridge :=
  match c.encoder.appendFrame frame with
  | .error e => (.error (.protocol e), c)
  | .ok encoder =>
    let (data, encoder) := encoder.take
    let (data, cipher) := encryptWith c.encryptCipher data
    match c.stream.writeAll data with
    | (.ok (), stream) =>
      (.ok (), { c with encoder, encryptCipher := cipher, stream, written := c.written ++ [frame] })
    | (.error kind, stream) =>
      (.error (.io kind), { c with encoder, encryptCipher := cipher, stream })

/-- `ClientBridge::send_packet`, for a packet of a type with its direction and its encoding. -/
def sendPacket (registry : PacketRegistry) (type : PacketType)
    (direction : Direction) (encode : ProtocolVersion → Except ProtocolError Bytes) :
    Except CoreError Unit × ClientBridge :=
  match registry.getPacketId type c.state direction c.protocolVersion with
  | none =>
    (.error (.auth ("no packet ID for " ++ type.name ++ " in " ++ c.state.debug ++ "/"
      ++ c.protocolVersion.debug)), c)
  | some id =>
    match encode c.protocolVersion with
    | .error e => (.error (.protocol e), c)
    | .ok payload => c.writeFrame { id, payload }

def setCompression (threshold : I32) : ClientBridge :=
  { c with decoder := c.decoder.setCompression threshold,
           encoder := c.encoder.setCompression threshold }

def setState (state : ConnectionState) : ClientBridge := { c with state }

/-- Sends a packet whether or not that works, and closes the connection. -/
def sendLast (registry : PacketRegistry) (type : PacketType)
    (encode : ProtocolVersion → Except ProtocolError Bytes) : ClientBridge :=
  let c := (c.sendPacket registry type .clientbound encode).2
  { c with stream := c.stream.shutdown }

/-- `ClientBridge::disconnect`. Nobody looks at how it ends. -/
def disconnect (texts : ReasonTexts) (registry : PacketRegistry) (reason : String)
    (c : ClientBridge) : ClientBridge :=
  match c.state with
  | .login => c.sendLast registry .loginDisconnect fun _ => FieldWriter.string (texts.json reason)
  | .config =>
    if c.protocolVersion.lessThan .V1_20_3 then
      match FieldWriter.string (texts.json reason) with
      -- it returns before it has closed the connection
      | .error _ => c
      | .ok bytes => c.sendLast registry (.other "CConfigDisconnect") fun _ => .ok bytes
    else c.sendLast registry (.other "CConfigDisconnect") fun _ => .ok (texts.nbt reason)
  | .play => c.sendLast registry .disconnect fun version =>
      if version.lessThan .V1_20_3 then FieldWriter.string (texts.json reason)
      else .ok (texts.nbt reason)
  | _ => { c with stream := c.stream.shutdown }

end ClientBridge

structure BackendBridge where
  stream : TcpStream
  decoder : PacketDecoder
  encoder : PacketEncoder
  state : ConnectionState
  protocolVersion : ProtocolVersion
  /-- The frames that `writeFrame` has accepted. -/
  written : List PacketFrame

namespace BackendBridge

def new (deflate : ZlibCompressor) (inflate : ZlibDecompressor) (stream : TcpStream)
    (protocolVersion : ProtocolVersion) : BackendBridge where
  stream
  decoder := .new inflate
  encoder := .new deflate
  state := .login
  protocolVersion
  written := []

variable (b : BackendBridge)

/-- `BackendBridge::read_frame`. A backend is not encrypted. -/
def readFrame : Except CoreError (Option PacketFrame) × BackendBridge :=
  let (result, i) := Inlet.readFrame 4096
    { stream := b.stream, decoder := b.decoder, cipher := none, queued := [] }
  (result, { b with stream := i.stream, decoder := i.decoder })

def writeFrame (frame : PacketFrame) : Except CoreError Unit × BackendBridge :=
  match b.encoder.appendFrame frame with
  | .error e => (.error (.protocol e), b)
  | .ok encoder =>
    let (data, encoder) := encoder.take
    match b.stream.writeAll data with
    | (.ok (), stream) => (.ok (), { b with encoder, stream, written := b.written ++ [frame] })
    | (.error kind, stream) => (.error (.io kind), { b with encoder, stream })

/-- `BackendBridge::send_packet`, for a packet of a type with its direction and its encoding. -/
def sendPacket (registry : PacketRegistry) (type : PacketType)
    (direction : Direction) (encode : ProtocolVersion → Except ProtocolError Bytes) :
    Except CoreError Unit × BackendBridge :=
  match registry.getPacketId type b.state direction b.protocolVersion with
  | none =>
    (.error (.auth ("no packet ID for " ++ type.name ++ " in " ++ b.state.debug)), b)
  | some id =>
    match encode b.protocolVersion with
    | .error e => (.error (.protocol e), b)
    | .ok payload => b.writeFrame { id, payload }

def setCompression (threshold : I32) : BackendBridge :=
  { b with decoder := b.decoder.setCompression threshold,
           encoder := b.encoder.setCompression threshold }

def setState (state : ConnectionState) : BackendBridge := { b with state }

end BackendBridge

end Infrarust
