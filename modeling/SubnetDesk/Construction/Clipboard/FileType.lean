/-
This file defines the file descriptors that a peer sends, and their parser.
-/

import SubnetDesk.Foundation.Bytes
import SubnetDesk.Foundation.Utf16
import SubnetDesk.Construction.FileTransfer.Names

namespace SubnetDesk.Clipboard.FileList

open FileTree

inductive CliprdrError where
  | invalidRequest
  | fileError
  | conversionFailure
deriving DecidableEq

/-- A parser rejects its input, or it would read out of bounds or overflow. -/
inductive Failure where
  | rejected (error : CliprdrError)
  | outOfBounds
  | overflow
deriving DecidableEq

inductive FileType where
  | file
  | directory
deriving DecidableEq

def permRead : Nat := 0o444
def permRw : Nat := 0o644
def permSelfRo : Nat := 0o400
def permRwx : Nat := 0o755

def flagsFdAttributes : Nat := 0x04
def flagsFdSize : Nat := 0x40
def flagsFdLastWrite : Nat := 0x20
def flagsFdProgressui : Nat := 0x4000
def flagsFdUnixMode : Nat := 0x08

def fileNameCodeUnits : Nat := 260
def fileNameFieldSize : Nat := fileNameCodeUnits * 2
def fileDescriptorSize : Nat := 592
def ldapEpochDelta : Nat := 116444772610000000

/-- Times are in nanoseconds after the Unix epoch. -/
structure FileDescription where
  connId : Int
  name : Path
  kind : FileType
  atime : Nat
  lastModified : Nat
  lastMetadataChanged : Nat
  creationTime : Nat
  size : Nat
  perm : Nat
deriving DecidableEq

def hasDrive : Path → Bool
  | letter :: ':' :: '/' :: _ => letter.isAlpha
  | _ => false

def validateFileName (name : Path) : Except CliprdrError Unit :=
  if hasDrive name ∨ (name.splitOn '/').any fun component => component = [] ∨ component = dot then
    .error .invalidRequest
  else
    match FileTransfer.validateFileNameNoTraversal name with
    | .error _ => .error .invalidRequest
    | .ok _ => .ok ()

/-- The cursor panics where there are not enough bytes. -/
def advance (count : Nat) (bytes : List UInt8) : Except Failure (List UInt8 × List UInt8) :=
  match Bytes.split count bytes with
  | some read => .ok read
  | none => .error .outOfBounds

def getLe (width : Nat) (bytes : List UInt8) : Except Failure (Nat × List UInt8) :=
  (advance width bytes).map fun read => (Bytes.ofLe read.1, read.2)

/-- The fields of a descriptor as they are read. -/
structure RawDescriptor where
  flags : Nat
  attributes : Nat
  perm : Nat
  lastWriteTime : Nat
  fileSizeHigh : Nat
  fileSizeLow : Nat
  block : List UInt8
deriving DecidableEq

def readDescriptor (bytes : List UInt8) : Except Failure (RawDescriptor × List UInt8) := do
  let (flags, bytes) ← getLe 4 bytes
  let (_, bytes) ← advance 32 bytes
  let (attributes, bytes) ← getLe 4 bytes
  let (_, bytes) ← advance 12 bytes
  let (perm, bytes) ← getLe 4 bytes
  let (lastWriteTime, bytes) ← getLe 8 bytes
  let (fileSizeHigh, bytes) ← getLe 4 bytes
  let (fileSizeLow, bytes) ← getLe 4 bytes
  let (block, bytes) ← advance fileNameFieldSize bytes
  pure (⟨flags, attributes, perm % 2 ^ 16, lastWriteTime, fileSizeHigh, fileSizeLow, block⟩, bytes)

/-- The code units of a block of bytes. -/
def codeUnits : List UInt8 → List Nat
  | low :: high :: rest => (low.toNat + 256 * high.toNat) :: codeUnits rest
  | _ => []

def RawDescriptor.filePerm (raw : RawDescriptor) : Nat :=
  if raw.flags &&& flagsFdUnixMode ≠ 0 then raw.perm
  else if raw.attributes = 0x80 then permRwx
  else if raw.attributes &&& 0x01 ≠ 0 then permRead
  else if raw.attributes &&& 0x02 ≠ 0 then permSelfRo
  else if raw.attributes &&& 0x10 ≠ 0 then permRwx
  else permRw

def RawDescriptor.kind (raw : RawDescriptor) : FileType :=
  if raw.attributes &&& 0x10 ≠ 0 then .directory else .file

/-- The product of a time beyond the epoch may leave its word. -/
def RawDescriptor.lastModified (raw : RawDescriptor) : Except Failure Nat :=
  if raw.flags &&& flagsFdLastWrite ≠ 0 ∧ ldapEpochDelta ≤ raw.lastWriteTime then
    let nanos := (raw.lastWriteTime - ldapEpochDelta) * 100
    if nanos < 2 ^ 64 then .ok nanos else .error .overflow
  else .ok 0

/-- The text in front of the terminator, which need not exist. -/
def RawDescriptor.text (raw : RawDescriptor) : Except CliprdrError Path :=
  match (codeUnits raw.block).idxOf? 0 with
  | none => .error .invalidRequest
  | some nameEnd =>
      match Utf16.decode ((codeUnits raw.block).take nameEnd) with
      | none => .error .conversionFailure
      | some text => .ok text

def replaceBackslash (text : Path) : Path := text.map fun c => if c = '\\' then '/' else c

/-- The second part of `parse_file_descriptor`. -/
def RawDescriptor.describe (raw : RawDescriptor) (connId : Int) : Except Failure FileDescription :=
  match raw.text with
  | .error error => .error (.rejected error)
  | .ok text =>
      if raw.flags &&& flagsFdAttributes = 0 then .error (.rejected .invalidRequest)
      else
        match raw.lastModified with
        | .error failure => .error failure
        | .ok lastModified =>
            let name := replaceBackslash text
            match validateFileName name with
            | .error error => .error (.rejected error)
            | .ok _ =>
                .ok {
                  connId := connId
                  name := name
                  kind := raw.kind
                  atime := lastModified
                  lastModified := lastModified
                  lastMetadataChanged := lastModified
                  creationTime := lastModified
                  size := raw.fileSizeHigh * 2 ^ 32 + raw.fileSizeLow
                  perm := raw.filePerm }

def parseFileDescriptor (bytes : List UInt8) (connId : Int) :
    Except Failure (FileDescription × List UInt8) := do
  let (raw, bytes) ← readDescriptor bytes
  let description ← raw.describe connId
  pure (description, bytes)

def parseEach (connId : Int) : Nat → List UInt8 → Except Failure (List FileDescription)
  | 0, _ => .ok []
  | count + 1, bytes => do
      let (description, bytes) ← parseFileDescriptor bytes connId
      let rest ← parseEach connId count bytes
      pure (description :: rest)

def parseFileDescriptors (pdu : List UInt8) (connId : Int) :
    Except Failure (List FileDescription) :=
  if pdu.length < 4 then .error (.rejected .invalidRequest)
  else do
    let (count, data) ← getLe 4 pdu
    if data.length = 0 ∧ count = 0 then .ok []
    else if data.length ≠ fileDescriptorSize * count then .error (.rejected .invalidRequest)
    else parseEach connId count data

end SubnetDesk.Clipboard.FileList
