/-
This file defines update manifests, their validation, the checks on a downloaded package, and the loop
that writes a response to a file and checks its size and its digest.
-/

import SubnetDesk.Foundation.Trimming

namespace SubnetDesk.SoftwareUpdate
open AsciiCase

structure UpdateArtifact where
  url : String
  size : Nat
  sha256 : String
deriving DecidableEq

structure UpdateManifest where
  schema : Nat
  sequence : Nat
  channel : String
  version : String
  publishedAt : String
  expiresAt : String
  minSupportedVersion : Option String
  mandatoryAfter : Option String
  releaseNotesUrl : String
  artifacts : List (String × UpdateArtifact)
deriving DecidableEq

/-- The parts of an address that the checks read. -/
structure Url where
  scheme : String
  host : Option String
  username : String
  password : Option String
  fragment : Option String
deriving DecidableEq

/-- What the updater takes from its build, its platform and other libraries. Times are milliseconds. -/
structure Platform where
  packageVersion : String
  getVersionNumber : String → Int
  parseFromRfc3339 : String → Option Int
  parseUrl : String → Except String Url
  artifactKey : Except String String
  disabledReason : Option String
  sha256 : List UInt8 → String
  signed : List UInt8 → Bool

def maxPackageBytes : Nat := 1024 * 1024 * 1024

def dayMs : Int := 24 * 60 * 60 * 1000

def decimal (digits : List Char) : Nat :=
  digits.foldl (fun value digit => value * 10 + (digit.toNat - '0'.toNat)) 0

/-- Parsing as `u32` accepts a plus sign before the digits. -/
def isU32 (part : List Char) : Bool :=
  let digits := if part.head? = some '+' then part.tail else part
  !digits.isEmpty && digits.all Char.isDigit && decimal digits < 2 ^ 32

def coreSupported (core : List Char) : Bool :=
  let parts := core.splitOn '.'
  parts.length == 3 && parts.all fun part => !part.isEmpty && isU32 part

def isSupportedVersion (version : String) : Bool :=
  match version.toList.splitOn '-' with
  | [core] => coreSupported core
  | [core, patch] => coreSupported core && !patch.isEmpty && isU32 patch
  | _ => false

section Checks

variable (platform : Platform)

/-- The accepted sequence is read from the configuration. -/
def validateManifest (accepted : Nat) (now : Int) (manifest : UpdateManifest) :
    Except String Unit := do
  if manifest.schema ≠ 1 ∨ manifest.channel ≠ "stable" then
    throw "Unsupported software update manifest"
  if !isSupportedVersion manifest.version then
    throw "Software update manifest has an invalid version"
  let some published := platform.parseFromRfc3339 manifest.publishedAt
    | throw "Invalid update manifest publication time"
  if published > now + dayMs then
    throw "Software update manifest publication time is in the future"
  let some expires := platform.parseFromRfc3339 manifest.expiresAt
    | throw "Invalid update manifest expiration"
  if expires ≤ published then throw "Software update manifest is incomplete"
  if expires < now then throw "Software update manifest has expired"
  if manifest.sequence < accepted then throw "Rejected a rolled-back software update manifest"
  match manifest.minSupportedVersion with
  | some minimum =>
      if !isSupportedVersion minimum ∨
          platform.getVersionNumber minimum > platform.getVersionNumber manifest.version then
        throw "Invalid minimum supported version"
  | none => pure ()

/-- The manifest offers no newer version than the running one. -/
def upToDate (manifest : UpdateManifest) : Bool :=
  platform.getVersionNumber manifest.version ≤ platform.getVersionNumber platform.packageVersion

def isHexDigit (char : Char) : Bool :=
  char.isDigit || ('a' ≤ char && char ≤ 'f') || ('A' ≤ char && char ≤ 'F')

def validateArtifact (artifact : UpdateArtifact) : Except String Unit := do
  let url ← platform.parseUrl artifact.url
  if url.scheme ≠ "https" ∨ url.host = none ∨ url.username ≠ "" ∨ url.password ≠ none ∨
      url.fragment ≠ none then
    throw "Update artifact URL is not a safe HTTPS URL"
  if artifact.size = 0 ∨ artifact.size > maxPackageBytes then
    throw "Update artifact has an invalid size"
  if artifact.sha256.utf8ByteSize ≠ 64 ∨ !artifact.sha256.toList.all isHexDigit then
    throw "Update artifact has an invalid SHA-256 digest"

/-- The artifact of a newer manifest for this platform. -/
def selectArtifact (manifest : UpdateManifest) : Except String UpdateArtifact := do
  let key ← platform.artifactKey
  let some artifact := manifest.artifacts.lookup key
    | throw s!"Release does not contain an artifact for {key}"
  validateArtifact platform artifact
  pure artifact

def isMandatory (now : Int) (manifest : UpdateManifest) : Bool :=
  (manifest.minSupportedVersion.any fun minimum =>
    platform.getVersionNumber platform.packageVersion < platform.getVersionNumber minimum) ||
  manifest.mandatoryAfter.any fun value =>
    (platform.parseFromRfc3339 value).any (· ≤ now)

/-- A file with the bytes that were written to it. -/
structure Package where
  path : String
  content : List UInt8
deriving DecidableEq

/-- The checks at the end of `stream_package`. -/
def checkPackage (artifact : UpdateArtifact) (content : List UInt8) : Except String Unit := do
  if content.length ≠ artifact.size then throw "Downloaded update package is incomplete"
  if !eqIgnoreAsciiCase (platform.sha256 content).toList artifact.sha256.toList then
    throw "Downloaded update package failed SHA-256 verification"

/-- A package has the size and the digest of an artifact, and a signature of the platform. -/
structure VerifiedFor (artifact : UpdateArtifact) (package : Package) : Prop where
  size : package.content.length = artifact.size
  digest : eqIgnoreAsciiCase (platform.sha256 package.content).toList artifact.sha256.toList = true
  signature : platform.signed package.content = true

end Checks

/-- A hash function that is fed piece by piece, with its digest as hexadecimal text. -/
structure Hasher where
  State : Type
  new : State
  update : State → List UInt8 → State
  finalize : State → String

/-- The digest depends on the bytes alone and not on the pieces. -/
structure Hasher.Digests (hasher : Hasher) (sha256 : List UInt8 → String) : Prop where
  pieces : ∀ chunks : List (List UInt8),
    hasher.finalize (chunks.foldl hasher.update hasher.new) = sha256 chunks.flatten

/-- The bytes of one read, which fit the buffer, and the errors of the read and of its write. A
failed write may have written some of the bytes. -/
structure ReadTurn where
  bytes : List UInt8
  nonempty : bytes ≠ []
  fits : bytes.length ≤ 64 * 1024
  readError : Option String
  writeError : Option (String × Nat)

/-- The reads of a response, and the errors of the other calls. -/
structure Transfer where
  openError : Option String
  turns : List ReadTurn
  endError : Option String
  syncError : Option String

def Transfer.body (transfer : Transfer) : List UInt8 := transfer.turns.flatMap ReadTurn.bytes

/-- The variables of the loop, and as history what was published and the operands of the sums and of
the products. -/
structure Streamed (hasher : Hasher) where
  file : List UInt8
  hashed : hasher.State
  downloaded : Nat
  lastProgress : Nat
  published : List Nat
  sums : List (Nat × Nat)
  products : List Nat

def checkedAddU64 (first second : Nat) : Option Nat :=
  if first + second < 2 ^ 64 then some (first + second) else none

def saturatingMulU64 (first second : Nat) : Nat := min (first * second) (2 ^ 64 - 1)

section Stream

variable {hasher : Hasher} (artifact : UpdateArtifact)

def Streamed.start (hasher : Hasher) : Streamed hasher where
  file := []
  hashed := hasher.new
  downloaded := 0
  lastProgress := 0
  published := []
  sums := []
  products := []

/-- The progress is a number of eight bits. -/
def Streamed.publish (streamed : Streamed hasher) : Streamed hasher :=
  let progress := saturatingMulU64 streamed.downloaded 100 / artifact.size % 256
  let computed := { streamed with products := streamed.products ++ [streamed.downloaded] }
  if progress ≠ streamed.lastProgress then
    { computed with
      lastProgress := progress
      published := streamed.published ++ [progress] }
  else computed

/-- One turn of the loop of `stream_package`, with its error. -/
def Streamed.turn (streamed : Streamed hasher) (turn : ReadTurn) :
    Option String × Streamed hasher :=
  match turn.readError with
  | some error => (some error, streamed)
  | none =>
      let summed := { streamed with
        sums := streamed.sums ++ [(streamed.downloaded, turn.bytes.length)] }
      match checkedAddU64 streamed.downloaded turn.bytes.length with
      | none => (some "Update package size overflow", summed)
      | some downloaded =>
          let counted := { summed with downloaded := downloaded }
          if downloaded > artifact.size ∨ downloaded > maxPackageBytes then
            (some "Update package exceeds the signed size", counted)
          else
            match turn.writeError with
            | some (error, written) =>
                (some error, { counted with file := counted.file ++ turn.bytes.take written })
            | none =>
                (none, Streamed.publish artifact { counted with
                  file := counted.file ++ turn.bytes
                  hashed := hasher.update counted.hashed turn.bytes })

/-- The loop ends with the first error. -/
def Streamed.turns (streamed : Streamed hasher) : List ReadTurn → Option String × Streamed hasher
  | [] => (none, streamed)
  | turn :: rest =>
      match streamed.turn artifact turn with
      | (some error, stopped) => (some error, stopped)
      | (none, next) => next.turns rest

/-- The checks after the loop. -/
def Streamed.finish (streamed : Streamed hasher) (syncError : Option String) : Option String :=
  match syncError with
  | some error => some error
  | none =>
      if streamed.downloaded ≠ artifact.size then some "Downloaded update package is incomplete"
      else if !eqIgnoreAsciiCase (hasher.finalize streamed.hashed).toList artifact.sha256.toList then
        some "Downloaded update package failed SHA-256 verification"
      else none

/-- The error of `stream_package`, and what was written once the file was open. -/
def streamPackage (hasher : Hasher) (transfer : Transfer) :
    Option String × Option (Streamed hasher) :=
  match transfer.openError with
  | some error => (some error, none)
  | none =>
      match (Streamed.start hasher).turns artifact transfer.turns with
      | (some error, stopped) => (some error, some stopped)
      | (none, streamed) =>
          match transfer.endError with
          | some error => (some error, some streamed)
          | none => (streamed.finish artifact transfer.syncError, some streamed)

end Stream

end SubnetDesk.SoftwareUpdate
