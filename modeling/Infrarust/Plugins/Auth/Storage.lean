import Infrarust.Core.ConnectionRegistry
import Infrarust.Core.Routing.DomainRouter

/-!
# `Infrarust.Plugins.Auth.Storage`: accounts and the storage that keeps them

Accounts are kept under the lower-case name. Times are seconds since the epoch. Every method
of the storage is one access to the map of accounts.
-/

set_option autoImplicit false

namespace Infrarust.Auth

/-- `Username`: a name in lower case. -/
structure Username where
  value : String
deriving DecidableEq, Repr

def Username.new (strings : Strings) (raw : String) : Username := ⟨strings.toLowercase raw⟩

structure PasswordHash where
  value : String
deriving DecidableEq, Repr

structure PremiumInfo where
  mojangUuid : Uuid
  forceCracked : Bool
  firstPremiumLogin : Nat
  lastPremiumLogin : Option Nat
deriving DecidableEq, Repr

structure AuthAccount where
  username : Username
  displayName : String
  passwordHash : Option PasswordHash
  registeredAt : Nat
  lastLogin : Option Nat
  lastIp : Option IpAddr
  loginCount : Nat
  premiumInfo : Option PremiumInfo
deriving DecidableEq, Repr

inductive AuthStorageError where
  | accountAlreadyExists (username : String)
  | accountNotFound (username : String)
  | io
  | serialization (message : String)
deriving DecidableEq, Repr

structure JsonFileStorage where
  accounts : Dict Username AuthAccount
  dirty : Bool

namespace JsonFileStorage

variable (storage : JsonFileStorage)

variable (username : Username)

/-- `has_account_blocking`. -/
def hasAccount : Bool := (storage.accounts.lookup username).isSome

/-- `get_account_blocking`. -/
def getAccount : Option AuthAccount := storage.accounts.lookup username

/-- Writes an account and marks the storage dirty. -/
def put (account : AuthAccount) (username : Username) : JsonFileStorage :=
  { accounts := storage.accounts.insert username account, dirty := true }

def createAccount (account : AuthAccount) : Except AuthStorageError JsonFileStorage :=
  match storage.accounts.lookup account.username with
  | some _ => .error (.accountAlreadyExists account.username.value)
  | none => .ok (storage.put account account.username)

def updatePasswordHash (newHash : PasswordHash) : Except AuthStorageError JsonFileStorage :=
  match storage.accounts.lookup username with
  | some account => .ok (storage.put { account with passwordHash := some newHash } username)
  | none => .error (.accountNotFound username.value)

def deleteAccount : JsonFileStorage :=
  match storage.accounts.lookup username with
  | some _ => { accounts := storage.accounts.erase username, dirty := true }
  | none => storage

def updateLastLogin (ip : IpAddr) (now : Nat) : JsonFileStorage :=
  match storage.accounts.lookup username with
  | some account =>
    storage.put { account with
      lastLogin := some now, lastIp := some ip, loginCount := account.loginCount + 1 } username
  | none => storage

def updatePremiumInfo (premiumInfo : Option PremiumInfo) :
    Except AuthStorageError JsonFileStorage :=
  match storage.accounts.lookup username with
  | some account => .ok (storage.put { account with premiumInfo := premiumInfo } username)
  | none => .error (.accountNotFound username.value)

end JsonFileStorage

/-- A call of the storage that changes it. -/
inductive StorageTask where
  | createAccount (account : AuthAccount)
  | updatePasswordHash (username : Username) (newHash : PasswordHash)
  | deleteAccount (username : Username)
  | updateLastLogin (username : Username) (ip : IpAddr) (now : Nat)
  | updatePremiumInfo (username : Username) (premiumInfo : Option PremiumInfo)
deriving DecidableEq, Repr

/-- Makes the call. An error leaves the storage as it is. -/
def StorageTask.run (storage : JsonFileStorage) : StorageTask → JsonFileStorage
  | createAccount account => (storage.createAccount account).toOption.getD storage
  | updatePasswordHash username newHash =>
    (storage.updatePasswordHash username newHash).toOption.getD storage
  | deleteAccount username => storage.deleteAccount username
  | updateLastLogin username ip now => storage.updateLastLogin username ip now
  | updatePremiumInfo username premiumInfo =>
    (storage.updatePremiumInfo username premiumInfo).toOption.getD storage

end Infrarust.Auth
