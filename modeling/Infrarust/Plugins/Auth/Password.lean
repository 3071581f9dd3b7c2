import Infrarust.Plugins.Auth.Storage

/-!
# `Infrarust.Plugins.Auth.Password`: hashing and verification

The hash functions come from libraries and are parameters. `Crypto.Sound` is the assumption
on them: verification accepts only the password a hash was made from.
-/

set_option autoImplicit false

namespace Infrarust.Auth

structure HashingConfig where
  argon2MemoryCost : UInt32 := 19456
  argon2TimeCost : UInt32 := 2
  argon2Parallelism : UInt32 := 1
  migrateLegacyHashes : Bool := true
deriving DecidableEq, Repr

/-- `AuthError::Hashing`. Its text is only logged. -/
inductive AuthError where
  | hashing
deriving DecidableEq, Repr

/-- The functions of the `argon2` and `bcrypt` crates. Verification fails on a text that is
not a hash of the format. -/
structure Crypto where
  argon2Hash : HashingConfig → (password salt : String) → Except AuthError String
  argon2Verify : (password hash : String) → Except AuthError Bool
  bcryptVerify : (password hash : String) → Except AuthError Bool

variable (crypto : Crypto)

/-- `hash_password`, with the salt it draws. -/
def hashPassword (config : HashingConfig) (salt password : String) :
    Except AuthError PasswordHash :=
  (crypto.argon2Hash config password salt).map PasswordHash.mk

def isBcryptHash (hash : String) : Bool :=
  Text.startsWith hash "$2b$" || Text.startsWith hash "$2a$"

def verifyPasswordSync (password hashStr : String) : Except AuthError Bool :=
  if Text.startsWith hashStr "$argon2" then crypto.argon2Verify password hashStr
  else if isBcryptHash hashStr then crypto.bcryptVerify password hashStr
  else .error .hashing

def verifyPassword (password : String) (hash : PasswordHash) : Except AuthError Bool :=
  verifyPasswordSync crypto password hash.value

def verifyAndMigrate (config : HashingConfig) (salt password : String) (hash : PasswordHash) :
    Except AuthError (Bool × Option PasswordHash) := do
  let verified ← verifyPassword crypto password hash
  if verified && config.migrateLegacyHashes && isBcryptHash hash.value then
    let newHash ← hashPassword crypto config salt password
    return (true, some newHash)
  else
    return (verified, none)

def dummyPassword : String := "dummy-timing-attack-resistance-value"

def generateDummyHash (config : HashingConfig) (salt : String) : Except AuthError PasswordHash :=
  hashPassword crypto config salt dummyPassword

/-- Verification accepts only the password a hash was made from. -/
def Crypto.Sound (crypto : Crypto) : Prop :=
  ∀ config salt password password' hash, hashPassword crypto config salt password = .ok hash →
      verifyPassword crypto password' hash = .ok true → password' = password

end Infrarust.Auth
