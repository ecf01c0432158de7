/-
This file defines the identities that are stored in the configuration and in the key store.
-/

import SubnetDesk.Construction.Lan.DeviceName
import Mathlib.Logic.Function.Basic

namespace SubnetDesk.Identities

open AsciiCase
open SubnetDesk.Lan (Text trim isControl isFingerprint)

def maxIdentityNameLen : Nat := 64

structure LanIdentity where
  id : Text
  name : Text
  username : Text
  createdAt : Int
  updatedAt : Int
deriving DecidableEq

/-- The local configuration as it is read and written outside this repository. -/
structure LocalConfig (Config : Type) where
  identity : Config → Text → Option LanIdentity
  nameExists : Config → Text → Option Text → Bool
  defaultId : Config → Text
  boundId : Config → Text → Text
  storeIdentity : Config → LanIdentity → Config
  removeIdentity : Config → Text → Config
  setDefaultId : Config → Text → Config
  bindIdentity : Config → Text → Text → Config

/-- A setter changes what its name says, and removing an identity clears it as the default. -/
structure LocalConfig.Lawful {Config : Type} (api : LocalConfig Config) : Prop where
  identity_id : ∀ config id identity, api.identity config id = some identity → identity.id = id
  identity_store : ∀ config identity, api.identity (api.storeIdentity config identity) =
    Function.update (api.identity config) identity.id (some identity)
  default_store : ∀ config identity, api.defaultId (api.storeIdentity config identity) =
    api.defaultId config
  bound_store : ∀ config identity, api.boundId (api.storeIdentity config identity) =
    api.boundId config
  identity_remove : ∀ config id, api.identity (api.removeIdentity config id) =
    Function.update (api.identity config) id none
  default_remove : ∀ config id, api.defaultId (api.removeIdentity config id) =
    if api.defaultId config = id then [] else api.defaultId config
  bound_remove : ∀ config id, (∀ fingerprint, api.boundId config fingerprint ≠ id) →
    api.boundId (api.removeIdentity config id) = api.boundId config
  identity_setDefault : ∀ config id, api.identity (api.setDefaultId config id) =
    api.identity config
  default_setDefault : ∀ config id, api.defaultId (api.setDefaultId config id) = id
  bound_setDefault : ∀ config id, api.boundId (api.setDefaultId config id) = api.boundId config
  identity_bind : ∀ config fingerprint id, api.identity (api.bindIdentity config fingerprint id) =
    api.identity config

/-- What is checked outside this repository, with the clock. -/
structure Checks where
  parseUuid : Text → Option Text
  validateUsername : Text → Except Text Text
  validatePassword : Text → Except Text Unit
  now : Int

/-- The configuration, and the passwords of the key store. They are text and never other bytes. -/
structure Stores (Config : Type) where
  config : Config
  passwords : Text → Option Text
  rememberedUsername : Text → Option Text
  rememberedPassword : Text → Option Text

/-- The error of each call, and whether a call without a result has no effect. -/
structure CreateFaults where
  openEntry : Option Text := none
  setPassword : Option Text := none
  store : Bool := false
  setDefault : Option Text := none

structure DeleteFaults where
  openEntry : Option Text := none
  deletePassword : Option Text := none
  remove : Bool := false

structure ImportFaults where
  readRemembered : Bool := false
  create : CreateFaults := {}
  bind : Option Text := none
  delete : DeleteFaults := {}
  clearPassword : Bool := false
  clearConfig : Bool := false

section Operations

variable {Config : Type} (api : LocalConfig Config) (checks : Checks)

def validateIdentityName (name : Text) : Except Text Text :=
  if trim name = [] then .error "Identity name is required".toList
  else if maxIdentityNameLen < (Utf8.encode (trim name)).length then
    .error "Identity name is too long".toList
  else if (trim name).any isControl then
    .error "Identity name contains control characters".toList
  else .ok (trim name)

def validateIdentityId (identityId : Text) : Except Text Text :=
  match checks.parseUuid identityId with
  | some id => .ok id
  | none => .error "Invalid LAN identity ID".toList

def ensureUniqueName (config : Config) (name : Text) (excludingId : Option Text) :
    Except Text Unit :=
  if api.nameExists config name excludingId then
    .error "An identity with this name already exists".toList
  else .ok ()

def openError (error : Text) : Text :=
  "Failed to open the operating system credential store: ".toList ++ error

/-- The error of setting a password. The message says what fails. -/
def setPasswordError (faults : CreateFaults) (message : String) : Option Text :=
  (faults.openEntry.map openError).or (faults.setPassword.map (message.toList ++ ·))

def Stores.setPassword (stores : Stores Config) (id password : Text) : Stores Config :=
  { stores with passwords := Function.update stores.passwords id (some password) }

def Stores.storeIdentity (stores : Stores Config) (fault : Bool) (identity : LanIdentity) :
    Stores Config :=
  if fault then stores else { stores with config := api.storeIdentity stores.config identity }

def Stores.setDefault (stores : Stores Config) (id : Text) : Stores Config :=
  { stores with config := api.setDefaultId stores.config id }

/-- The checks of a new identity, before anything is written. -/
def checkNew (config : Config) (name username password : Text) : Except Text (Text × Text) := do
  let name ← validateIdentityName name
  let username ← checks.validateUsername username
  checks.validatePassword password
  ensureUniqueName api config name none
  return (name, username)

def create (identityId name username password : Text) (makeDefault : Bool) (faults : CreateFaults)
    (stores : Stores Config) : Except Text Text × Stores Config :=
  match checkNew api checks stores.config name username password with
  | .error error => (.error error, stores)
  | .ok (name, username) =>
      match setPasswordError faults "Failed to save the LAN identity password: " with
      | some error => (.error error, stores)
      | none =>
          let stored := (stores.setPassword identityId password).storeIdentity api faults.store
            ⟨identityId, name, username, checks.now, checks.now⟩
          match makeDefault, faults.setDefault with
          | false, _ => (.ok identityId, stored)
          | true, some error => (.error error, stored)
          | true, none => (.ok identityId, stored.setDefault api identityId)

/-- The checks of a changed identity, before anything is written. -/
def checkChange (config : Config) (identityId name username : Text) (password : Option Text) :
    Except Text (Text × LanIdentity × Text × Text) := do
  let identityId ← validateIdentityId checks identityId
  let name ← validateIdentityName name
  let username ← checks.validateUsername username
  ensureUniqueName api config name (some identityId)
  match api.identity config identityId with
  | none => .error "LAN identity does not exist".toList
  | some identity =>
      (password.elim (.ok ()) checks.validatePassword : Except Text Unit)
      return (identityId, identity, name, username)

/-- The stores after the default is chosen. -/
def finishUpdate (identityId : Text) (makeDefault : Bool) (fault : Option Text)
    (stores : Stores Config) : Except Text Unit × Stores Config :=
  if makeDefault ∨ api.defaultId stores.config = identityId then
    match fault with
    | some error => (.error error, stores)
    | none => (.ok (), stores.setDefault api (if makeDefault then identityId else []))
  else (.ok (), stores)

def update (identityId name username : Text) (password : Option Text) (makeDefault : Bool)
    (faults : CreateFaults) (stores : Stores Config) : Except Text Unit × Stores Config :=
  match checkChange api checks stores.config identityId name username password with
  | .error error => (.error error, stores)
  | .ok (identityId, identity, name, username) =>
      let changed := { identity with name := name, username := username, updatedAt := checks.now }
      match password with
      | none =>
          finishUpdate api identityId makeDefault faults.setDefault
            (stores.storeIdentity api faults.store changed)
      | some password =>
          match setPasswordError faults "Failed to update the LAN identity password: " with
          | some error => (.error error, stores)
          | none =>
              finishUpdate api identityId makeDefault faults.setDefault
                ((stores.setPassword identityId password).storeIdentity api faults.store changed)

/-- The error of deleting a password. A missing password is no error. -/
def deletePasswordError (faults : DeleteFaults) : Option Text :=
  (faults.openEntry.map openError).or
    (faults.deletePassword.map ("Failed to delete the LAN identity password: ".toList ++ ·))

def delete (identityId : Text) (faults : DeleteFaults) (stores : Stores Config) :
    Except Text Unit × Stores Config :=
  match validateIdentityId checks identityId with
  | .error error => (.error error, stores)
  | .ok identityId =>
      match api.identity stores.config identityId with
      | none => (.error "LAN identity does not exist".toList, stores)
      | some _ =>
          match deletePasswordError faults with
          | some error => (.error error, stores)
          | none =>
              (.ok (), { stores with
                passwords := Function.update stores.passwords identityId none
                config := if faults.remove then stores.config
                  else api.removeIdentity stores.config identityId })

def bind (fingerprint identityId : Text) (fault : Option Text) (stores : Stores Config) :
    Except Text Unit × Stores Config :=
  match (if identityId = [] then .ok [] else validateIdentityId checks identityId :
      Except Text Text) with
  | .error error => (.error error, stores)
  | .ok identityId =>
      match fault with
      | some error => (.error error, stores)
      | none => (.ok (), { stores with
          config := api.bindIdentity stores.config fingerprint identityId })

def lanCredentialConfigId (fingerprint : Text) : Option Text :=
  if isFingerprint fingerprint then
    some ("lan-credential-".toList ++ toAsciiLowercase fingerprint)
  else none

/-- The remembered credential, where the configuration and the key store can be read. -/
def loadRemembered (fingerprint : Text) (fault : Bool) (stores : Stores Config) :
    Option (Text × Text) := do
  let configId ← lanCredentialConfigId fingerprint
  let username ← stores.rememberedUsername configId
  if (checks.validateUsername username).toBool = false ∨ fault then none
  else
    let password ← stores.rememberedPassword configId
    if (checks.validatePassword password).toBool then some (username, password) else none

def clearRemembered (fingerprint : Text) (faults : ImportFaults) (stores : Stores Config) :
    Stores Config :=
  match lanCredentialConfigId fingerprint with
  | none => stores
  | some configId =>
      { stores with
        rememberedPassword := if faults.clearPassword then stores.rememberedPassword
          else Function.update stores.rememberedPassword configId none
        rememberedUsername := if faults.clearConfig then stores.rememberedUsername
          else Function.update stores.rememberedUsername configId none }

def importLegacyCredential (identityId fingerprint name : Text) (makeDefault : Bool)
    (faults : ImportFaults) (stores : Stores Config) : Except Text Text × Stores Config :=
  match loadRemembered checks fingerprint faults.readRemembered stores with
  | none => (.error "No remembered credential exists for this device".toList, stores)
  | some (username, password) =>
      match create api checks identityId name username password makeDefault faults.create stores with
      | (.error error, created) => (.error error, created)
      | (.ok identityId, created) =>
          match bind api checks fingerprint identityId faults.bind created with
          | (.error error, failed) => (.error error, (delete api checks identityId faults.delete failed).2)
          | (.ok (), bound) => (.ok identityId, clearRemembered fingerprint faults bound)

/-- An operation with its arguments, the new identifier and the failures of its calls. -/
inductive Request where
  | create (identityId name username password : Text) (makeDefault : Bool) (faults : CreateFaults)
  | update (identityId name username : Text) (password : Option Text) (makeDefault : Bool)
      (faults : CreateFaults)
  | delete (identityId : Text) (faults : DeleteFaults)
  | importLegacyCredential (identityId fingerprint name : Text) (makeDefault : Bool)
      (faults : ImportFaults)

/-- Whether an operation succeeds, and the stores after it. -/
def Request.run (stores : Stores Config) : Request → Bool × Stores Config
  | .create identityId name username password makeDefault faults =>
      let done := Identities.create api checks identityId name username password makeDefault faults stores
      (done.1.toBool, done.2)
  | .update identityId name username password makeDefault faults =>
      let done := Identities.update api checks identityId name username password makeDefault faults stores
      (done.1.toBool, done.2)
  | .delete identityId faults =>
      let done := Identities.delete api checks identityId faults stores
      (done.1.toBool, done.2)
  | .importLegacyCredential identityId fingerprint name makeDefault faults =>
      let done := Identities.importLegacyCredential api checks identityId fingerprint name makeDefault faults
        stores
      (done.1.toBool, done.2)

end Operations

end SubnetDesk.Identities
