import Infrarust.Core.Passthrough

/-!
# `Infrarust.Core.Legacy`: clients from before 1.7

A client from before 1.7 does not send frames. `LegacyHandler` tells a ping from a login by the
first byte, which the handshake parser has left in `buffered_data`. It reads the request off the
stream, parses it and, for a login, sends it to the backend and copies the stream.

The stream stands for what arrives before the timeouts of the handler. A read that is given up
then ends like one that finds the end of the stream.
-/

set_option autoImplicit false

namespace Infrarust

/-! ### Reading -/

/-- The loop of `AsyncReadExt::read_exact`. A read gives a byte or more, so `fuel` of `n` is
enough. -/
def readExactLoop : (fuel n : Nat) → TcpStream → Except ErrorKind (Bytes × TcpStream)
  | _, 0, s => .ok ([], s)
  | 0, _ + 1, _ => .error .unexpectedEof
  | fuel + 1, n + 1, s =>
    match s.read (n + 1) with
    | (.error kind, _) => .error kind
    | (.ok [], _) => .error .unexpectedEof
    | (.ok (b :: data), s) =>
      match readExactLoop fuel (n + 1 - (b :: data).length) s with
      | .error kind => .error kind
      | .ok (more, s) => .ok (b :: data ++ more, s)

/-- A function that reads off a stream. -/
abbrev StreamReader := StateT TcpStream (Except ErrorKind)

namespace Legacy

/-- `AsyncReadExt::read_exact` for `n` bytes. -/
def readExact (n : Nat) : StreamReader Bytes := fun s => readExactLoop n n s

variable (data : Bytes)

/-- `u16::from_be_bytes` of the two bytes at a position. -/
def u16At (pos : Nat) : Nat := FieldReader.fromBeBytes ((data.drop pos).take 2)

/-- `i32::from_be_bytes` of the four bytes at a position. -/
def i32At (pos : Nat) : Int :=
  (BitVec.ofNat 32 (FieldReader.fromBeBytes ((data.drop pos).take 4))).toInt

/-- `chunks_exact(2)`, each chunk a number. -/
def codeUnits : Bytes → List Nat
  | high :: low :: rest => FieldReader.fromBeBytes [high, low] :: codeUnits rest
  | _ => []

def decodeUtf16be : Except ProtocolError String :=
  if data.length % 2 ≠ 0 then .error (.invalid "UTF-16BE data has odd length")
  else
    match Text.fromUtf16 (codeUnits data) with
    | none => .error (.invalid "invalid UTF-16BE string")
    | some s => .ok s

/-! ### Pings -/

inductive LegacyPingVariant where
  | beta
  | v1_4
  | v1_6
deriving DecidableEq, Repr

structure LegacyPingRequest where
  variant : LegacyPingVariant
  hostname : Option String := none
  port : Option Int := none
  protocolVersion : Option UInt8 := none
deriving DecidableEq, Repr

/-- `read_remaining_v1_6_data`: what follows `0xFE 0x01`. -/
def readRemainingV16Data : StreamReader Bytes := do
  let byte ← readExact 1
  if byte ≠ [0xFA] then return byte
  let lenBytes ← readExact 2
  let strData ← readExact (FieldReader.fromBeBytes lenBytes * 2)
  let dataLenBytes ← readExact 2
  let remaining ← readExact (FieldReader.fromBeBytes dataLenBytes)
  return byte ++ lenBytes ++ strData ++ dataLenBytes ++ remaining

/-- `read_legacy_ping_data`: what follows `0xFE`. -/
def readLegacyPingData (s : ClientSocket) : Bytes :=
  let data := s.bufferedData.drop 1
  match (readExact 1).run s.stream with
  | .error _ => data
  | .ok (next, stream) =>
    if next = [0x01] then
      match readRemainingV16Data.run stream with
      | .error _ => data ++ next
      | .ok (more, _) => data ++ next ++ more
    else data ++ next

/-- The part of `parse_v1_6_ping` behind the channel, with the data of the message. -/
def parsePingHost : Except ProtocolError LegacyPingRequest :=
  if data.length < 1 then .error (.invalid "V1_6 ping: missing protocol version")
  else if data.length < 3 then .error (.invalid "V1_6 ping: missing hostname length")
  else
    let hostnameBytes := u16At data 1 * 2
    if data.length < 3 + hostnameBytes then .error (.invalid "V1_6 ping: truncated hostname")
    else
      match decodeUtf16be ((data.drop 3).take hostnameBytes) with
      | .error e => .error e
      | .ok hostname =>
        if data.length < 3 + hostnameBytes + 4 then .error (.invalid "V1_6 ping: missing port")
        else
          .ok { variant := .v1_6, hostname := some hostname
                port := some (i32At data (3 + hostnameBytes)), protocolVersion := data.head? }

/-- `parse_v1_6_ping`: what follows `0xFE 0x01 0xFA`. The length of the data is not looked at. -/
def parseV16Ping : Except ProtocolError LegacyPingRequest :=
  if data.length < 2 then .error (.invalid "V1_6 ping: missing channel name length")
  else
    let offset := 2 + u16At data 0 * 2
    if data.length < offset + 2 then .error (.invalid "V1_6 ping: truncated channel name")
    else parsePingHost (data.drop (offset + 2))

/-- `parse_legacy_ping`: what follows `0xFE`. -/
def parseLegacyPing : Bytes → Except ProtocolError LegacyPingRequest
  | 0x01 :: 0xFA :: data => parseV16Ping data
  | 0x01 :: _ => .ok { variant := .v1_4 }
  | _ => .ok { variant := .beta }

/-! ### Logins -/

def readLegacyStringInto : StreamReader Bytes := do
  let lenBytes ← readExact 2
  let strData ← readExact (FieldReader.fromBeBytes lenBytes * 2)
  return lenBytes ++ strData

/-- `read_legacy_handshake_data`. Of `buffered_data` it only takes the first byte. -/
def readLegacyHandshakeData : StreamReader Bytes := do
  let formatByte ← readExact 1
  if formatByte = [0x00] then
    let lowByte ← readExact 1
    let strData ← readExact (FieldReader.fromBeBytes lowByte * 2)
    return [0x02] ++ formatByte ++ lowByte ++ strData
  else
    let username ← readLegacyStringInto
    let hostname ← readLegacyStringInto
    let port ← readExact 4
    return [0x02] ++ formatByte ++ username ++ hostname ++ port

/-- `read_string16`: the text and the position behind it. -/
def readString16 (pos : Nat) (context : String) :
    Except ProtocolError (String × Nat) := do
  if data.length < pos + 2 then
    throw (.invalid ("legacy handshake: missing " ++ context ++ " length"))
  let byteCount := u16At data pos * 2
  let start := pos + 2
  if data.length < start + byteCount then
    throw (.invalid ("legacy handshake: truncated " ++ context))
  return (← decodeUtf16be ((data.drop start).take byteCount), start + byteCount)

def parsePre13ConnectionString (s : String) : LegacyHandshake :=
  match Text.splitOnce ';' s with
  | none => { protocolVersion := 0, username := s, hostname := "", port := 25565 }
  | some (username, hostPort) =>
    match Text.rsplitOnce ':' hostPort with
    | none => { protocolVersion := 0, username, hostname := hostPort, port := 25565 }
    | some (hostname, portStr) =>
      { protocolVersion := 0, username, hostname, port := (Text.parseI32 portStr).getD 25565 }

/-- `parse_legacy_handshake`: what follows `0x02`. -/
def parseLegacyHandshake : Except ProtocolError LegacyHandshake := do
  match data with
  | [] => throw (.invalid "legacy handshake: missing format byte")
  | 0x00 :: rest =>
    match rest with
    | [] => throw (.invalid "legacy handshake: missing string length")
    | low :: string =>
      let byteCount := low.toNat * 2
      if string.length < byteCount then
        throw (.invalid "legacy handshake: truncated connection string")
      return parsePre13ConnectionString (← decodeUtf16be (string.take byteCount))
  | protocolVersion :: _ =>
    let (username, pos) ← readString16 data 1 "username"
    let (hostname, pos) ← readString16 data pos "hostname"
    if data.length < pos + 4 then throw (.invalid "legacy handshake: missing port")
    return { protocolVersion, username, hostname, port := i32At data pos }

/-! ### The handler -/

/-- What a legacy client asks for. -/
inductive LegacyRequest where
  | ping (request : LegacyPingRequest)
  | login (handshake : LegacyHandshake)
  | unknown
deriving DecidableEq, Repr

/-- `handle_ping`, up to the request. -/
def handlePing (s : ClientSocket) : Except CoreError LegacyRequest :=
  match parseLegacyPing (readLegacyPingData s) with
  | .error e => .error (.protocol e)
  | .ok request => .ok (.ping request)

/-- `handle_login`: the request, and the stream of the backend that it is routed to. -/
def handleLogin (forwarder : Forwarder) (s : ClientSocket) (backend : TcpStream) :
    Except CoreError LegacyRequest × TcpStream :=
  match readLegacyHandshakeData.run s.stream with
  | .error kind => (.error (.io kind), backend)
  | .ok (rawData, client) =>
    match parseLegacyHandshake (rawData.drop 1) with
    | .error e => (.error (.protocol e), backend)
    | .ok handshake =>
      match backend.writeAll rawData with
      | (.error kind, backend) => (.error (.io kind), backend)
      | (.ok (), backend) => (.ok (.login handshake), forwarder.forward client backend)

def handle (forwarder : Forwarder) (s : ClientSocket) (backend : TcpStream) :
    Except CoreError LegacyRequest × TcpStream :=
  match s.bufferedData.head?.getD 0 with
  | 0xFE => (handlePing s, backend)
  | 0x02 => handleLogin forwarder s backend
  | _ => (.ok .unknown, backend)

end Legacy

end Infrarust
