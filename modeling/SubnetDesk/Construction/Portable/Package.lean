/-
This file defines how the portable packer writes a folder, and how the program unpacks it.
-/

import SubnetDesk.Construction.FileTransfer.Names
import SubnetDesk.Foundation.Bytes
import SubnetDesk.Foundation.Utf8

namespace SubnetDesk.Portable

open FileTree
open FileTransfer (components push Component)

/-- The entries of a folder come in any order. -/
inductive Entry where
  | file (name : Segment) (content : Bytes)
  | folder (name : Segment) (entries : List Entry)

/-- The compression is lossless, and a digest has thirty-two hexadecimal digits. -/
structure Codec where
  compress : Bytes → Bytes
  decompress : Bytes → Option Bytes
  md5 : Bytes → List Char
  lossless : ∀ content, decompress (compress content) = some content
  digits : ∀ content, (Utf8.encode (md5 content)).length = 32

section Generate

/-- This is `os.path.join` on the two platforms, for a name without a separator. -/
def joinName (separator : Char) (root : Path) (name : Segment) : Path := root ++ separator :: name

def filesIn (separator : Char) (root : Path) (entries : List Entry) : List (Path × Bytes) :=
  entries.filterMap fun
    | .file name content => some (joinName separator root name, content)
    | .folder _ _ => none

mutual

def walkFolder (separator : Char) (root : Path) : Entry → List (Path × Bytes)
  | .file _ _ => []
  | .folder name entries =>
      filesIn separator (joinName separator root name) entries ++
        walkFolders separator (joinName separator root name) entries

def walkFolders (separator : Char) (root : Path) : List Entry → List (Path × Bytes)
  | [] => []
  | entry :: rest => walkFolder separator root entry ++ walkFolders separator root rest

end

/-- The files of a folder come before those of its folders. -/
def walk (separator : Char) (root : Path) (entries : List Entry) : List (Path × Bytes) :=
  filesIn separator root entries ++ walkFolders separator root entries

structure Record where
  path : Path
  compressedData : Bytes
  md5Code : List Char
deriving DecidableEq

/-- A key that is there keeps its place. -/
def insertKey (record : Record) : List Record → List Record
  | [] => [record]
  | other :: rest =>
      if other.path = record.path then record :: rest else other :: insertKey record rest

def generateMd5Table (codec : Codec) (separator : Char) (entries : List Entry) : List Record :=
  (walk separator dot entries).foldl
    (fun res file => insertKey ⟨file.1, codec.compress file.2, codec.md5 file.2⟩ res) []

def lengthCount : Nat := 4

/-- This is `to_bytes`, which fails on overflow. -/
def toBytes (value : Nat) : Option Bytes :=
  if value < 256 ^ lengthCount then some (Bytes.le lengthCount value).reverse else none

def identifier : List Char := ['r', 'u', 's', 't', 'd', 'e', 's', 'k']

def writeRecord (record : Record) : Option Bytes :=
  match toBytes (Utf8.encode record.path).length, toBytes record.compressedData.length with
  | some pathLength, some dataLength =>
      some (pathLength ++ Utf8.encode record.path ++ dataLength ++ record.compressedData ++
        Utf8.encode record.md5Code)
  | _, _ => none

def writeRecords : List Record → Option Bytes
  | [] => some []
  | record :: rest =>
      match writeRecord record, writeRecords rest with
      | some first, some later => some (first ++ later)
      | _, _ => none

def writePackageMetadata (table : List Record) (exe : Path) : Option Bytes :=
  (writeRecords table).map fun records =>
    Utf8.encode identifier ++ records ++ Utf8.encode identifier ++ Utf8.encode exe

end Generate

section BinReader

def identifierLength : Nat := 8

def md5Length : Nat := 32

structure BinaryData where
  md5Code : Bytes
  raw : Bytes
  path : Path
deriving DecidableEq

structure BinaryReader where
  files : List BinaryData
  exe : Path
deriving DecidableEq

def fromBeBytes (bytes : Bytes) : Nat := Bytes.ofLe bytes.reverse

/-- A slice that is out of range panics. -/
def readRecord (bytes : Bytes) : Option (BinaryData × Bytes) :=
  match Bytes.split lengthCount bytes with
  | none => none
  | some (pathLength, rest) =>
      match Bytes.split (fromBeBytes pathLength) rest with
      | none => none
      | some (path, rest) =>
          match Bytes.split lengthCount rest with
          | none => none
          | some (fileLength, rest) =>
              match Bytes.split (fromBeBytes fileLength) rest with
              | none => none
              | some (raw, rest) =>
                  match Bytes.split md5Length rest with
                  | none => none
                  | some (md5, rest) =>
                      some ({ md5Code := md5, raw := raw, path := Utf8.lossy path }, rest)

theorem split_length {count : Nat} {bytes front rest : Bytes}
    (split : Bytes.split count bytes = some (front, rest)) : rest.length + count = bytes.length := by
  unfold Bytes.split at split
  split at split
  next enough =>
    obtain ⟨-, rfl⟩ := Prod.mk.inj (Option.some.inj split)
    rw [List.length_drop]
    omega
  next => cases split

theorem readRecord_length {bytes rest : Bytes} {data : BinaryData}
    (read : readRecord bytes = some (data, rest)) : rest.length < bytes.length := by
  unfold readRecord at read
  cases first : Bytes.split lengthCount bytes with
  | none => simp [first] at read
  | some one =>
      simp only [first] at read
      cases second : Bytes.split (fromBeBytes one.1) one.2 with
      | none => simp [second] at read
      | some two =>
          simp only [second] at read
          cases third : Bytes.split lengthCount two.2 with
          | none => simp [third] at read
          | some three =>
              simp only [third] at read
              cases fourth : Bytes.split (fromBeBytes three.1) three.2 with
              | none => simp [fourth] at read
              | some four =>
                  simp only [fourth] at read
                  cases fifth : Bytes.split md5Length four.2 with
                  | none => simp [fifth] at read
                  | some five =>
                      simp only [fifth, Option.some.injEq, Prod.mk.injEq] at read
                      have lengths := split_length first
                      have more := split_length second
                      have again := split_length third
                      have raw := split_length fourth
                      have last := split_length fifth
                      rw [lengthCount] at lengths
                      rw [← read.2]
                      omega

/-- The records are read until the identifier comes again. -/
def readRecords (bytes : Bytes) : Option (List BinaryData × Bytes) :=
  match Bytes.split identifierLength bytes with
  | none => none
  | some (iden, rest) =>
      if Utf8.lossy iden = identifier then some ([], rest)
      else
        match _read : readRecord bytes with
        | none => none
        | some (data, rest) =>
            match readRecords rest with
            | none => none
            | some (parsed, rest) => some (data :: parsed, rest)
termination_by bytes.length
decreasing_by exact readRecord_length _read

/-- This is `BinaryReader::read`. -/
def readBinary (bytes : Bytes) : Option BinaryReader :=
  if bytes.length ≤ identifierLength then none
  else if Utf8.lossy (bytes.take identifierLength) ≠ identifier then none
  else
    match readRecords (bytes.drop identifierLength) with
    | none => none
    | some (files, rest) => some { files := files, exe := Utf8.lossy rest }

def replaceBackslash (path : Path) : Path := path.map fun char => if char = '\\' then '/' else char

def Component.isNormal : Component → Bool
  | .normal _ => true
  | _ => false

inductive IoError where
  | invalidData
  | fault (fault : Fault)

/-- An operation may fail, and what it made before that stays. -/
abbrev IoResult := Except IoError Unit × Tree

/-- This is `create_dir_all` on the parent of a path, where it is missing. -/
def createParent (tree : Tree) (path : Path) : IoResult :=
  let next := tree.createParents path
  match next.walk true maxLinks (startOf tree.cwd path) (parentSegments path) with
  | .error fault => (.error (.fault fault), next)
  | .ok place =>
      if next.node place = some .dir then (.ok (), next) else (.error (.fault .notADirectory), next)

/-- This is `fs::write`. -/
def writeFile (tree : Tree) (path : Path) (content : Bytes) : IoResult :=
  match tree.create path with
  | .error fault => (.error (.fault fault), tree)
  | .ok (next, file) =>
      (.ok (), match file.inode with
        | some inode => next.setData inode content
        | none => next)

def BinaryData.decompressTo (codec : Codec) (tree : Tree) (data : BinaryData) (path : Path) : IoResult :=
  match codec.decompress data.raw with
  | none => (.error .invalidData, tree)
  | some content => writeFile tree path content

/-- A file that is there is kept where its digest is the recorded one. -/
def BinaryData.writeOver (codec : Codec) (tree : Tree) (data : BinaryData) (path : Path) : IoResult :=
  if tree.pathExists path then
    match tree.fileBytes path with
    | none => (.error (.fault .isADirectory), tree)
    | some old =>
        if codec.md5 old = Utf8.lossy data.md5Code then (.ok (), tree)
        else data.decompressTo codec tree path
  else data.decompressTo codec tree path

def BinaryData.writeToFile (codec : Codec) (tree : Tree) (data : BinaryData) (root : Path) : IoResult :=
  let normalized := replaceBackslash data.path
  if (components normalized).any (!Component.isNormal ·) || normalized.any (· = ':') then
    (.error .invalidData, tree)
  else
    match createParent tree (push root normalized) with
    | (.error err, next) => (.error err, next)
    | (.ok _, next) => data.writeOver codec next (push root normalized)

def writeFiles (codec : Codec) (root : Path) : Tree → List BinaryData → IoResult
  | tree, [] => (.ok (), tree)
  | tree, data :: rest =>
      match data.writeToFile codec tree root with
      | (.ok _, next) => writeFiles codec root next rest
      | (.error err, next) => (.error err, next)

def appMetadataConfig : Path := "meta.toml".toList

/-- The timestamp is written where there is one, and a failure is ignored. -/
def writeMeta (tree : Tree) (dir : Path) (timestamp : Option Bytes) : Tree :=
  match timestamp with
  | none => tree
  | some line => (writeFile tree (push dir appMetadataConfig) line).2

/-- The files are unpacked one after another, and the first failure ends the setup. -/
def setup (codec : Codec) (tree : Tree) (reader : BinaryReader) (dir : Path)
    (timestamp : Option Bytes) : Tree × Option Path :=
  match writeFiles codec dir tree reader.files with
  | (.ok _, next) => (writeMeta next dir timestamp, some (push dir reader.exe))
  | (.error _, next) => (next, none)

end BinReader

end SubnetDesk.Portable
