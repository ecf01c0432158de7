/-
This file defines the transfer job, its messages, and the answers of the operating system.
-/

import SubnetDesk.Foundation.FileTree

namespace SubnetDesk.FileTransfer

open FileTree

inductive JobType where
  | generic
  | printer
deriving DecidableEq

structure FileEntry where
  name : Path
  size : Nat
  modifiedTime : Nat
deriving DecidableEq

structure FileDigest where
  size : Nat
  modified : Nat
deriving DecidableEq

/-- A cursor reads and writes its own bytes at a position. -/
structure Cursor where
  bytes : Bytes
  pos : Nat
deriving DecidableEq

inductive DataSource where
  | filePath (path : Path)
  | memoryCursor (cursor : Cursor)
deriving DecidableEq

inductive DataStream where
  | fileStream (file : Handle)
  | bufStream (cursor : Cursor)
deriving DecidableEq

structure TransferJob where
  id : Int
  type : JobType
  dataSource : DataSource
  isLastJob : Bool
  isResume : Bool
  fileNum : Int
  files : List FileEntry
  dataStream : Option DataStream
  totalSize : Nat
  finishedSize : Nat
  transferred : Nat
  enableOverwriteDetection : Bool
  fileConfirmed : Bool
  fileSkipped : Bool
  fileIsWaiting : Bool
  defaultOverwriteStrategy : Option Bool
  digest : FileDigest
deriving DecidableEq

/-- This lookup is the check `file_num as usize >= files.len()` with the index that follows it.
A negative number becomes a `usize` above the length of every vector. -/
def entryAt (files : List FileEntry) (fileNum : Int) : Option FileEntry :=
  if fileNum < 0 then none else files[fileNum.toNat]?

def TransferJob.currentEntry (job : TransferJob) : Option FileEntry :=
  entryAt job.files job.fileNum

/-- A fault names the operation on the file whose index it carries. -/
inductive JobError where
  | wrongId
  | wrongFileNumber
  | fileIsNone
  | dataStreamIsNone
  | noDigestForBufStream
  | nullBytes
  | pathTraversal
  | absolutePath
  | emptyFileName
  | symlinkComponent
  | validateComponent (path : Path) (fault : Fault)
  | invalidComponent
  | skipped
  | openFile (file : Int) (fault : Fault)
  | statFile (file : Int) (fault : Fault)
  | readFile (file : Int) (fault : Fault)
  | writeFile (fault : Fault)
deriving DecidableEq

/-- This is the text that the error message carries. -/
def JobError.text : JobError → String
  | .wrongId => "Wrong id"
  | .wrongFileNumber => "Wrong file number"
  | .fileIsNone => "file is None"
  | .dataStreamIsNone => "data stream is None"
  | .noDigestForBufStream => "No digest for buf stream"
  | .nullBytes => "file name contains null bytes"
  | .pathTraversal => "path traversal detected in file name"
  | .absolutePath => "absolute path detected in file name"
  | .emptyFileName => "empty file name in multi-file transfer"
  | .symlinkComponent => "symlink path component is not allowed"
  | .validateComponent path fault =>
      "failed to validate path component '" ++ String.ofList path ++ "': " ++ fault.text
  | .invalidComponent => "invalid file name component"
  | .skipped => "skipped"
  | .openFile _ fault => fault.text
  | .statFile _ fault => fault.text
  | .readFile _ fault => fault.text
  | .writeFile fault => fault.text

/-- This is the index of the listed file whose operation failed. -/
def JobError.file? : JobError → Option Int
  | .openFile file _ => some file
  | .statFile file _ => some file
  | .readFile file _ => some file
  | _ => none

structure FileTransferBlock where
  id : Int
  fileNum : Int
  data : Bytes
  compressed : Bool
deriving DecidableEq

structure FileTransferDigest where
  id : Int
  fileNum : Int
  lastModified : Nat
  fileSize : Nat
  isUpload : Bool
  isIdentical : Bool
  transferredSize : Nat
  isResume : Bool
deriving DecidableEq

/-- The message of a failed operation keeps its cause until the text is written. -/
inductive Message where
  | digest (digest : FileTransferDigest)
  | block (block : FileTransferBlock)
  | error (id : Int) (err : JobError) (fileNum : Int)
  | done (id : Int) (fileNum : Int)
deriving DecidableEq

inductive ConfirmUnion where
  | skip (skip : Bool)
  | offsetBlk (offset : Nat)
deriving DecidableEq

structure FileTransferSendConfirmRequest where
  id : Int
  fileNum : Int
  union : Option ConfirmUnion
deriving DecidableEq

/-- These are the answers of the operating system to the calls of one job in one step.
A fault here fails the call even where the file tree would allow it. The metadata of a present
entry is never reported as missing, so its fault is a text. -/
structure Io where
  lstat : Path → Option String
  openFile : Option Fault
  stat : Option Fault
  modified : Nat
  readFault : Nat → Option Fault
  readSize : Nat → Nat
  seek : Option Fault
  sync : Option Fault
  removeDigest : Option Fault
  create : Option Fault
  writeDigest : Option Fault
  writeAll : Option (Nat × Fault)
  finishDigest : Option Fault
  finishRename : Option Fault
  cancelDownload : Option Fault
  cancelDigest : Option Fault

/-- No call fails, and every read returns one byte more than `short`. -/
def Io.clean (short : Nat → Nat) (modified : Nat) : Io :=
  ⟨fun _ => none, none, none, modified, fun _ => none, short, none, none, none, none, none, none,
    none, none, none, none⟩

/-- An injected fault replaces the result of a call. -/
def orFault {A : Type} (fault : Option Fault) (result : Except Fault A) : Except Fault A :=
  match fault with
  | some fault => .error fault
  | none => result

/-- The codec stands for the compression and digest formats outside this repository. -/
structure Codec where
  compress : Bytes → Bytes
  decompress : Bytes → Bytes
  digestToJson : FileDigest → Bytes
  digestFromJson : Bytes → Option FileDigest

/-- This codec never makes a block shorter. -/
def Codec.plain : Codec := ⟨id, id, fun _ => [], fun _ => none⟩

def TransferJob.setFileConfirmed (job : TransferJob) (confirmed : Bool) : TransferJob :=
  { job with fileConfirmed := confirmed, fileSkipped := false }

def TransferJob.setFileIsWaiting (job : TransferJob) (waiting : Bool) : TransferJob :=
  { job with fileIsWaiting := waiting }

def TransferJob.setDigest (job : TransferJob) (size modified : Nat) : TransferJob :=
  { job with digest := ⟨size, modified⟩ }

def TransferJob.setOverwriteStrategy (job : TransferJob) (strategy : Option Bool) : TransferJob :=
  { job with defaultOverwriteStrategy := strategy }

/-- The whole task is skipped when its only file is skipped. -/
def TransferJob.jobSkipped (job : TransferJob) : Bool :=
  job.fileSkipped && job.files.length == 1

/-- This is the check after a read that returns no block. -/
def TransferJob.jobCompleted (job : TransferJob) : Bool :=
  !job.enableOverwriteDetection || (!job.fileConfirmed && !job.fileIsWaiting)

def TransferJob.jobError (job : TransferJob) : Option JobError :=
  if job.jobSkipped then some .skipped else none

def TransferJob.setFileSkipped (job : TransferJob) : TransferJob :=
  { (({ job with dataStream := none }.setFileConfirmed false).setFileIsWaiting false) with
    fileNum := job.fileNum + 1, fileSkipped := true }

def TransferJob.setFinishedSizeOnResume (job : TransferJob) : TransferJob :=
  if job.isResume ∧ 0 < job.fileNum then
    { job with finishedSize := ((job.files.take job.fileNum.toNat).map FileEntry.size).sum }
  else job

/-- A new job has no stream and no flag set. -/
def TransferJob.new (id : Int) (type : JobType) (dataSource : DataSource) (fileNum : Int)
    (files : List FileEntry) (totalSize : Nat) (enableOverwriteDetection : Bool) : TransferJob where
  id := id
  type := type
  dataSource := dataSource
  isLastJob := false
  isResume := false
  fileNum := fileNum
  files := files
  dataStream := none
  totalSize := totalSize
  finishedSize := 0
  transferred := 0
  enableOverwriteDetection := enableOverwriteDetection
  fileConfirmed := false
  fileSkipped := false
  fileIsWaiting := false
  defaultOverwriteStrategy := none
  digest := ⟨0, 0⟩

def TransferJob.newWrite (id : Int) (type : JobType) (dataSource : DataSource) (fileNum : Int)
    (enableOverwriteDetection : Bool) : TransferJob :=
  TransferJob.new id type dataSource fileNum [] 0 enableOverwriteDetection

/-- The caller lists the files, because a directory listing is outside this model. -/
def TransferJob.newRead (id : Int) (type : JobType) (dataSource : DataSource) (fileNum : Int)
    (listed : List FileEntry) (enableOverwriteDetection : Bool) : TransferJob :=
  match dataSource with
  | .filePath _ =>
      TransferJob.new id type dataSource fileNum listed ((listed.map FileEntry.size).sum)
        enableOverwriteDetection
  | .memoryCursor cursor =>
      TransferJob.new id type dataSource fileNum [] cursor.bytes.length enableOverwriteDetection

/-- This is the first job with the given id. -/
def getJob (id : Int) (jobs : List TransferJob) : Option TransferJob :=
  jobs.find? fun job => job.id = id

/-- The update replaces only the first job with the given id. -/
def updateJob (id : Int) (update : TransferJob → TransferJob) : List TransferJob → List TransferJob
  | [] => []
  | job :: rest =>
      if job.id = id then update job :: rest else job :: updateJob id update rest

def removeJob (id : Int) (jobs : List TransferJob) : List TransferJob :=
  jobs.eraseP fun job => job.id = id

end SubnetDesk.FileTransfer
