/-
This file defines the requests for the contents of clipboard files, from the mounted file system of one
side to the open files of the other side. A local file is seen here as one that is read. The
descriptors of a selection have records of their own.
-/

import Mathlib.Tactic

namespace SubnetDesk.Clipboard

inductive CliprdrError where
  | invalidRequest
  | fileError
deriving DecidableEq

/-- The fields of a message are signed, so that a cast to a wider word extends the sign. -/
structure FileContentsMessage where
  streamId : BitVec 32
  listIndex : BitVec 32
  dwFlags : BitVec 32
  nPositionLow : BitVec 32
  nPositionHigh : BitVec 32
  cbRequested : BitVec 32
deriving DecidableEq

/-- The request that `read_node` builds for a file at a place in the list of the peer. -/
def readNode (streamId : BitVec 32) (index offset : BitVec 64) (size : BitVec 32) :
    FileContentsMessage where
  streamId := streamId
  listIndex := index.truncate 32
  dwFlags := 2
  nPositionLow := (offset &&& 0xFFFFFFFF).truncate 32
  nPositionHigh := (offset.sshiftRight 32).truncate 32
  cbRequested := size

inductive FileContentsRequest where
  | size (streamId : BitVec 32) (fileIdx : BitVec 64)
  | range (streamId : BitVec 32) (fileIdx offset length : BitVec 64)
deriving DecidableEq

/-- The first part of `read_file_contents`. -/
def decodeRequest (message : FileContentsMessage) : Except CliprdrError FileContentsRequest :=
  if message.dwFlags = 1 then
    .ok (.size message.streamId (message.listIndex.signExtend 64))
  else if message.dwFlags = 2 then
    .ok (.range message.streamId (message.listIndex.signExtend 64)
      (message.nPositionHigh.signExtend 64 <<< 32 ||| message.nPositionLow.signExtend 64)
      (message.cbRequested.signExtend 64))
  else .error .invalidRequest

/-- What an open of the path gives, and whether it is a regular file, stands beside the entry. An open
file has a position. -/
structure LocalFile where
  path : String
  disk : Option (List UInt8)
  handle : Option Nat
  offset : Nat
  size : BitVec 64
  isDir : Bool
  isFile : Bool
deriving DecidableEq

def LocalFile.loadHandle (file : LocalFile) : Except CliprdrError LocalFile :=
  if file.isDir = false ∧ file.handle = none then
    match file.disk with
    | none => .error .fileError
    | some _ => .ok { file with handle := some 0 }
  else .ok file

def LocalFile.invalidateHandle (file : LocalFile) : LocalFile :=
  { file with offset := 0, handle := none }

/-- A read fails at the end of the file. The file is closed after its last byte. -/
def LocalFile.readExactAt (file : LocalFile) (length offset : Nat) :
    Except CliprdrError (List UInt8) × LocalFile :=
  match file.loadHandle with
  | .error error => (.error error, file)
  | .ok file =>
      match file.handle, file.disk with
      | some position, some content =>
          let start := if offset ≠ file.offset then offset else position
          if content.length < start + length then (.error .fileError, file.invalidateHandle)
          else
            let read := { file with handle := some (start + length), offset := offset + length }
            (.ok ((content.drop start).take length),
              if file.size.toNat ≤ offset + length then read.invalidateHandle else read)
      | _, _ => (.error .fileError, file)

structure ClipFiles where
  fileList : List LocalFile
  firstFileIndex : Option Nat
deriving DecidableEq

inductive ClipboardFile where
  | files (files : List (String × BitVec 64))
  | fileContentsResponse (msgFlags streamId : BitVec 32) (requestedData : List UInt8)
deriving DecidableEq

def toLeBytes (value : BitVec 64) : List UInt8 :=
  (List.range 8).map fun place => UInt8.ofNat (value.toNat / 256 ^ place)

/-- Only regular files count. -/
def ClipFiles.getFilesForAudit (files : ClipFiles) : FileContentsRequest → Option ClipboardFile
  | .range _ fileIdx offset _ =>
      if some fileIdx.toNat = files.firstFileIndex ∧ offset = 0 then
        match files.fileList.filter LocalFile.isFile with
        | [] => none
        | listed => some (.files (listed.map fun file => (file.path, file.size)))
      else none
  | .size _ _ => none

/-- The next file that is not a directory is opened in advance. -/
def loadNext : List LocalFile → Except CliprdrError (List LocalFile)
  | [] => .ok []
  | file :: rest =>
      if file.isDir then (loadNext rest).map (file :: ·)
      else file.loadHandle.map (· :: rest)

def ClipFiles.hotReload (files : ClipFiles) (fileIdx : Nat) : Except CliprdrError ClipFiles :=
  (loadNext (files.fileList.drop (fileIdx + 1))).map fun later =>
    { files with fileList := files.fileList.take (fileIdx + 1) ++ later }

/-- A failure to open the next file replaces the response. -/
def ClipFiles.respond (files : ClipFiles) (fileIdx : Nat) (response : ClipboardFile) :
    Except CliprdrError ClipboardFile × ClipFiles :=
  match files.hotReload fileIdx with
  | .error error => (.error error, files)
  | .ok reloaded => (.ok response, reloaded)

def ClipFiles.serveFileContents (files : ClipFiles) (request : FileContentsRequest) :
    Except CliprdrError ClipboardFile × ClipFiles :=
  match request with
  | .size streamId fileIdx =>
      match files.fileList[fileIdx.toNat]? with
      | none => (.error .invalidRequest, files)
      | some file =>
          files.respond fileIdx.toNat (.fileContentsResponse 1 streamId (toLeBytes file.size))
  | .range streamId fileIdx offset length =>
      match files.fileList[fileIdx.toNat]? with
      | none => (.error .invalidRequest, files)
      | some file =>
          if file.size < offset then (.error .invalidRequest, files)
          else
            let readSize := if file.size < offset + length then file.size - offset else length
            let read := file.readExactAt readSize.toNat offset.toNat
            let files := { files with fileList := files.fileList.set fileIdx.toNat read.2 }
            match read.1 with
            | .error error => (.error error, files)
            | .ok data =>
                files.respond fileIdx.toNat (.fileContentsResponse 1 streamId data)

def ClipFiles.readFileContents (files : ClipFiles) (message : FileContentsMessage) :
    List (Except CliprdrError ClipboardFile) × ClipFiles :=
  match decodeRequest message with
  | .error error => ([.error error], files)
  | .ok request =>
      let served := files.serveFileContents request
      (((files.getFilesForAudit request).toList.map .ok) ++ [served.1], served.2)

/-- The bytes of the buffer of a range. A sum beyond the word panics where overflows are checked, and
a buffer beyond the address range panics everywhere. -/
def readBuffer (overflowChecks : Bool) (size offset length : BitVec 64) : Option Nat :=
  if overflowChecks ∧ 2 ^ 64 ≤ offset.toNat + length.toNat then none
  else
    let readSize := if size < offset + length then size - offset else length
    if readSize.toNat < 2 ^ 63 then some readSize.toNat else none

def ClipFiles.buffer (overflowChecks : Bool) (files : ClipFiles) :
    FileContentsRequest → Option Nat
  | .size _ _ => some 0
  | .range _ fileIdx offset length =>
      match files.fileList[fileIdx.toNat]? with
      | none => some 0
      | some file =>
          if file.size < offset then some 0 else readBuffer overflowChecks file.size offset length

/-- A request is answered, or panics before its read. -/
def ClipFiles.receive (overflowChecks : Bool) (files : ClipFiles)
    (message : FileContentsMessage) :
    Option (List (Except CliprdrError ClipboardFile) × ClipFiles) :=
  match decodeRequest message with
  | .error _ => some (files.readFileContents message)
  | .ok request => (files.buffer overflowChecks request).map fun _ => files.readFileContents message

/-- The requests of a peer, one after the other. -/
def ClipFiles.receiveAll (overflowChecks : Bool) (files : ClipFiles) :
    List FileContentsMessage → Option ClipFiles
  | [] => some files
  | message :: rest =>
      match files.receive overflowChecks message with
      | none => none
      | some received => received.2.receiveAll overflowChecks rest

end SubnetDesk.Clipboard
