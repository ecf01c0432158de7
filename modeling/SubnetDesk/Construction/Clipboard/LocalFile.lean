/-
This file defines the list of the local files of a selection, and the descriptors that are sent for
it. A local file is seen here as one that is announced.
-/

import SubnetDesk.Construction.Clipboard.FileType

namespace SubnetDesk.Clipboard.FileList

open FileTree

/-- A file name is any bytes, and bytes that are not Unicode stand between characters. -/
inductive OsChar where
  | char (value : Char)
  | invalid (bytes : List UInt8)
deriving DecidableEq

abbrev OsSegment := List OsChar

def toStringLossy (name : List OsChar) : List Char :=
  name.map fun
    | .char value => value
    | .invalid _ => Char.ofNat 0xFFFD

/-- A path is compared and cut by its components. -/
structure OsPath where
  absolute : Bool
  components : List OsSegment
deriving DecidableEq

namespace OsPath

def text (path : OsPath) : List OsChar :=
  (if path.absolute then [.char '/'] else []) ++
    [OsChar.char '/'].intercalate path.components

/-- The root and the empty path have no parent. -/
def parent (path : OsPath) : Option OsPath :=
  if path.components = [] then none
  else some { path with components := path.components.dropLast }

def stripPrefix (path root : OsPath) : Option OsPath :=
  if root.absolute = path.absolute ∧ root.components <+: path.components then
    some ⟨false, path.components.drop root.components.length⟩
  else if root.absolute = false ∧ root.components = [] then some path
  else none

def push (path : OsPath) (name : OsSegment) : OsPath :=
  { path with components := path.components ++ [name] }

end OsPath

/-- The time is in nanoseconds after the Unix epoch. -/
structure Metadata where
  len : BitVec 64
  isDir : Bool
  modified : Option Int
  mode : BitVec 32
deriving DecidableEq

/-- The text of the name is kept beside the relative path that it stands for. -/
structure LocalFile where
  path : OsPath
  relativePath : List OsChar
  descriptorName : Path
  size : BitVec 64
  lastWriteTime : Int
  isDir : Bool
  perm : BitVec 32
  readOnly : Bool
  hidden : Bool
  system : Bool
  archive : Bool
  normal : Bool
deriving DecidableEq

def maxFileNameCodeUnits : Nat := fileNameCodeUnits - 1

def validatedDescriptorName (relativeRoot path : OsPath) :
    Except CliprdrError (List OsChar × Path) :=
  match path.stripPrefix relativeRoot with
  | none => .error .invalidRequest
  | some descriptorPath =>
      if descriptorPath.absolute then .error .invalidRequest
      else
        let descriptorName := toStringLossy descriptorPath.text
        match validateFileName descriptorName with
        | .error error => .error error
        | .ok _ =>
            if maxFileNameCodeUnits < (Utf16.encode descriptorName).length then
              .error .invalidRequest
            else .ok (descriptorPath.text, descriptorName)

/-- The metadata are those of the path, with its links followed. -/
def LocalFile.tryOpen (metadata : OsPath → Option Metadata) (relativeRoot path : OsPath) :
    Except CliprdrError LocalFile :=
  match validatedDescriptorName relativeRoot path with
  | .error error => .error error
  | .ok (relativePath, descriptorName) =>
      match metadata path with
      | none => .error .fileError
      | some mt =>
          let readOnly := decide (mt.mode &&& 0o222 = 0)
          let hidden := decide ((toStringLossy path.text).head? = some '.')
          .ok {
            path := path
            relativePath := relativePath
            descriptorName := descriptorName
            size := mt.len
            lastWriteTime := mt.modified.getD 0
            isDir := mt.isDir
            perm := mt.mode
            readOnly := readOnly
            hidden := hidden
            system := false
            archive := false
            normal := !(mt.isDir || readOnly || false || hidden || false) }

def LocalFile.putDescriptorName (file : LocalFile) : Except CliprdrError (List UInt8) :=
  match validateFileName file.descriptorName with
  | .error error => .error error
  | .ok _ =>
      let name := (Utf16.encode file.descriptorName).flatMap (Bytes.le 2)
      let nameFieldSize := name.length + 2
      if fileNameFieldSize < nameFieldSize then .error .invalidRequest
      else .ok (name ++ Bytes.le 2 0 ++ List.replicate (fileNameFieldSize - nameFieldSize) 0)

def LocalFile.fileAttributes (file : LocalFile) : Nat :=
  (if file.readOnly then 0x1 else 0) ||| (if file.hidden then 0x2 else 0) |||
    (if file.system then 0x4 else 0) ||| (if file.isDir then 0x10 else 0) |||
    (if file.archive then 0x20 else 0) ||| (if file.normal then 0x80 else 0)

/-- A time before the epoch counts as the epoch. -/
def LocalFile.win32Time (file : LocalFile) : Nat :=
  file.lastWriteTime.toNat % 2 ^ 64 / 100 + ldapEpochDelta

def descriptorFlags : Nat :=
  flagsFdSize ||| flagsFdLastWrite ||| flagsFdAttributes ||| flagsFdProgressui ||| flagsFdUnixMode

def LocalFile.asBin (file : LocalFile) : Except CliprdrError (List UInt8) :=
  match file.putDescriptorName with
  | .error error => .error error
  | .ok name =>
      .ok (List.flatten [Bytes.le 4 descriptorFlags, List.replicate 32 0,
        Bytes.le 4 file.fileAttributes, List.replicate 12 0, Bytes.le 4 file.perm.toNat,
        Bytes.le 8 file.win32Time, Bytes.le 4 (file.size.toNat / 2 ^ 32),
        Bytes.le 4 (file.size.toNat % 2 ^ 32), name])

def putFiles : List LocalFile → Except CliprdrError (List UInt8)
  | [] => .ok []
  | file :: rest =>
      match file.asBin with
      | .error error => .error error
      | .ok bytes => (putFiles rest).map (bytes ++ ·)

def buildFileListPdu (files : List LocalFile) : Except CliprdrError (List UInt8) :=
  (putFiles files).map (Bytes.le 4 (files.length % 2 ^ 32) ++ ·)

/-- The file system as the list is made. -/
structure FileSystem where
  metadata : OsPath → Option Metadata
  readDir : OsPath → Option (List OsSegment)

/-- The paths that are left to visit, and what has been listed. -/
structure Listing where
  fileList : List LocalFile
  visited : List OsPath

/-- Directories are walked in depth. The fuel bounds the depth of the walk. -/
def constrFileLst (system : FileSystem) (relativeRoot : OsPath) :
    Nat → OsPath → Listing → Except CliprdrError Listing
  | 0, _, _ => .error .fileError
  | fuel + 1, path, listing =>
      if path ∈ listing.visited then .ok listing
      else
        match LocalFile.tryOpen system.metadata relativeRoot path with
        | .error error => .error error
        | .ok localFile =>
            let listing := ⟨listing.fileList ++ [localFile], path :: listing.visited⟩
            match system.metadata path with
            | none => .error .fileError
            | some mt =>
                if mt.isDir then
                  match system.readDir path with
                  | none => .error .fileError
                  | some names =>
                      names.foldlM
                        (fun listing name =>
                          constrFileLst system relativeRoot fuel (path.push name) listing)
                        listing
                else .ok listing

def constructFrom (system : FileSystem) (fuel : Nat) :
    List OsPath → List LocalFile → Except CliprdrError (List LocalFile)
  | [], fileList => .ok fileList
  | path :: rest, fileList =>
      match path.parent with
      | none => .error .invalidRequest
      | some relativeRoot =>
          match constrFileLst system relativeRoot fuel path ⟨fileList, []⟩ with
          | .error error => .error error
          | .ok listing => constructFrom system fuel rest listing.fileList

/-- A selection is accepted where the walk ends, which a limit on the length of paths ensures. -/
def constructFileList (system : FileSystem) (fuel : Nat) (paths : List OsPath) :
    Except CliprdrError (List LocalFile) :=
  if paths = [] then .error .invalidRequest else constructFrom system fuel paths []

end SubnetDesk.Clipboard.FileList
