import Infrarust.Core.Bridge
import Infrarust.Core.ConnectionRegistry
import Infrarust.Lib.Text

/-!
# `Infrarust.Core.MojangAuth`: the Mojang authentication of a client

The proxy sends its public key and a token, reads the client's answer, asks the session server
for the player's profile and then encrypts the connection. RSA, SHA-1 and the session server
are third-party code and enter as the fields of `MojangAuth`.
-/

set_option autoImplicit false

namespace Infrarust

/-- What a request to the session server comes to. -/
inductive SessionResponse where
  | sendFailed (e : String)
  | unsuccessful (status : String)
  | notAProfile (e : String)
  | profile (profile : GameProfile)

structure MojangAuth where
  rsaDecrypt : Bytes → Except String Bytes
  publicKeyDer : Bytes
  sha1 : Bytes → Bytes
  /-- The session server, for a username and a server hash. -/
  hasJoined : String → String → SessionResponse

/-- `minecraft_server_hash`: the digest as a signed number. -/
def minecraftServerHash (sha1 : Bytes → Bytes) (serverId : String) (sharedSecret : Bytes)
    (publicKeyDer : Bytes) : String :=
  let digest := sha1 (serverId.toByteArray.toList ++ sharedSecret ++ publicKeyDer)
  let n := FieldReader.fromBeBytes digest
  if 2 * n < 256 ^ digest.length then Text.hex 1 n
  else "-" ++ Text.hex 1 (256 ^ digest.length - n)

/-- The bits of a UUID that neither the version nor the variant takes. -/
def Uuid.FREE_BITS : BitVec 128 := 0xFFFFFFFFFFFF0FFF3FFFFFFFFFFFFFFF#128

/-- `Builder::from_md5_bytes`: a digest with version 3 and the variant of RFC 4122. -/
def Uuid.fromMd5 (digest : BitVec 128) : Uuid :=
  digest &&& Uuid.FREE_BITS ||| 0x00000000000030008000000000000000#128

/-- `Uuid::new_v3`, which hashes the bytes of the namespace and then the name. -/
def Uuid.newV3 (md5 : Bytes → BitVec 128) (domain : Uuid) (name : Bytes) : Uuid :=
  Uuid.fromMd5 (md5 (FieldWriter.toBeBytes 16 domain ++ name))

def offlineUuid (md5 : Bytes → BitVec 128) (username : String) : Uuid :=
  Uuid.newV3 md5 0 ("OfflinePlayer:" ++ username).toByteArray.toList

namespace MojangAuth

def verifySession (auth : MojangAuth) (username serverHash : String) :
    Except CoreError GameProfile :=
  match auth.hasJoined username serverHash with
  | .sendFailed e => .error (.auth ("session server request failed: " ++ e))
  | .unsuccessful status => .error (.auth ("session server returned " ++ status))
  | .notAProfile e => .error (.auth ("failed to parse game profile: " ++ e))
  | .profile profile => .ok profile

/-- The `EncryptionResponse` in a frame. -/
def expectResponse (registry : PacketRegistry) (version : ProtocolVersion) (frame : PacketFrame) :
    Except CoreError SEncryptionResponse :=
  match registry.decodeFrame frame .login .serverbound version with
  | .error e => .error (.protocol e)
  | .ok (.typed _ (.encryptionResponse response)) => .ok response
  | .ok (.typed _ packet) =>
    .error (.auth ("expected EncryptionResponse, got " ++ packet.type.name))
  | .ok (.opaqueFrame id _) =>
    .error (.auth ("expected EncryptionResponse, got opaque packet 0x" ++ Text.hex 2 id.toNat))

/-- What `authenticate` makes of the response: the key of the session and the profile. -/
def verifyResponse (auth : MojangAuth) (verifyToken : Bytes) (username : String)
    (response : SEncryptionResponse) : Except CoreError (Bytes × GameProfile) :=
  match auth.rsaDecrypt response.sharedSecret with
  | .error e => .error (.auth ("shared secret decrypt failed: " ++ e))
  | .ok sharedSecret =>
    if sharedSecret.length ≠ 16 then
      .error (.auth ("shared secret must be 16 bytes, got " ++ toString sharedSecret.length))
    else
      match auth.rsaDecrypt response.verifyToken with
      | .error e => .error (.auth ("verify token decrypt failed: " ++ e))
      | .ok decryptedToken =>
        if decryptedToken ≠ verifyToken then .error (.auth "verify token mismatch")
        else
          let serverHash := minecraftServerHash auth.sha1 "" sharedSecret auth.publicKeyDer
          (auth.verifySession username serverHash).map (sharedSecret, ·)

/-- `MojangAuth::authenticate`, with the random token `verifyToken`. -/
def authenticate (auth : MojangAuth) (aes : Bytes → Bytes → UInt8) (verifyToken : Bytes)
    (client : ClientBridge) (username : String) (registry : PacketRegistry) :
    Except CoreError GameProfile × ClientBridge :=
  let request : CEncryptionRequest :=
    { serverId := "", publicKey := auth.publicKeyDer, verifyToken, shouldAuthenticate := true }
  match client.sendPacket registry .encryptionRequest .clientbound request.encode with
  | (.error e, client) => (.error e, client)
  | (.ok (), client) =>
    match client.readFrame with
    | (.error e, client) => (.error e, client)
    | (.ok none, client) => (.error .connectionClosed, client)
    | (.ok (some frame), client) =>
      match expectResponse registry client.protocolVersion frame >>=
          auth.verifyResponse verifyToken username with
      | .error e => (.error e, client)
      | .ok (key, profile) => (.ok profile, client.enableEncryption aes key)

end MojangAuth

end Infrarust
