/-
This file defines the read side of a transfer job, the confirmation of its files, and the
confirmation that moves a job to an offset of its file.
-/

import SubnetDesk.Construction.FileTransfer.Names

namespace SubnetDesk.FileTransfer

open FileTree

/-- This is the text after the last dot. -/
def getExt (name : Path) : Path :=
  if name.contains '.' then (name.reverse.takeWhile (· ≠ '.')).reverse else []

def compressedExts : List Path :=
  ["xz", "gz", "zip", "7z", "rar", "bz2", "tgz", "png", "jpg"].map String.toList

def isCompressedFile (name : Path) : Bool := compressedExts.contains (getExt name)

/-- The open moves past a file that cannot be opened. It returns true when the job is done. -/
def TransferJob.openDataStream (tree : Tree) (io : Io) (job : TransferJob) :
    TransferJob × Except JobError Bool :=
  match job.dataSource with
  | .filePath base =>
      match job.currentEntry with
      | none => ({ job with dataStream := none }, .ok true)
      | some entry =>
          match job.dataStream with
          | some _ => (job, .ok false)
          | none =>
              match orFault io.openFile (tree.openRead (join base entry.name)) with
              | .ok file =>
                  ({ job with
                      dataStream := some (.fileStream file)
                      fileConfirmed := false
                      fileIsWaiting := false }, .ok false)
              | .error fault =>
                  ({ job with
                      fileNum := job.fileNum + 1
                      fileConfirmed := false
                      fileIsWaiting := false }, .error (.openFile job.fileNum fault))
  | .memoryCursor cursor =>
      match job.dataStream with
      | some _ => (job, .ok false)
      | none =>
          ({ job with
              dataSource := .memoryCursor ⟨[], 0⟩
              dataStream := some (.bufStream cursor) }, .ok false)

/-- The digest is the pair of the modification time and the length of the open file. -/
def TransferJob.getCurrentDigest (tree : Tree) (io : Io) (job : TransferJob) :
    Except JobError (Nat × Nat) :=
  match job.dataStream with
  | none => .error .fileIsNone
  | some (.bufStream _) => .error .noDigestForBufStream
  | some (.fileStream file) =>
      match io.stat with
      | some fault => .error (.statFile job.fileNum fault)
      | none => .ok (io.modified, (file.inode.elim [] tree.data).length)

/-- This condition asks the peer before the file is sent. -/
def TransferJob.needsDigest (job : TransferJob) : Bool :=
  job.type = .generic && job.enableOverwriteDetection && !job.fileConfirmed && !job.fileIsWaiting

/-- A send that fails is a fault of the digest, because both leave the job unchanged. -/
def TransferJob.initDataStream (tree : Tree) (io : Io) (job : TransferJob) :
    TransferJob × Except JobError (List Message) :=
  match job.openDataStream tree io with
  | (opened, .error err) => (opened, .error err)
  | (opened, .ok true) => (opened, .ok [])
  | (opened, .ok false) =>
      if opened.needsDigest then
        match opened.getCurrentDigest tree io with
        | .error err => (opened, .error err)
        | .ok (lastModified, fileSize) =>
            (opened.setFileIsWaiting true,
              .ok [.digest ⟨opened.id, opened.fileNum, lastModified, fileSize, false, false, 0,
                opened.isResume⟩])
      else (opened, .ok [])

/-- The connection manager returns the digest instead of sending it. -/
def TransferJob.initDataStreamForCm (tree : Tree) (io : Io) (job : TransferJob) :
    TransferJob × Except JobError (Option (Nat × Nat)) :=
  match job.openDataStream tree io with
  | (opened, .error err) => (opened, .error err)
  | (opened, .ok true) => (opened, .ok none)
  | (opened, .ok false) =>
      if opened.needsDigest then
        match opened.getCurrentDigest tree io with
        | .error err => (opened, .error err)
        | .ok digest => (opened.setFileIsWaiting true, .ok (some digest))
      else (opened, .ok none)

/-- A read returns at least one byte unless the stream is at its end or the room is empty. -/
def DataStream.read (tree : Tree) (io : Io) (call room : Nat) :
    DataStream → Except Fault (Bytes × DataStream)
  | .fileStream file =>
      match io.readFault call, file.readable, file.inode with
      | some fault, _, _ => .error fault
      | none, false, _ => .error .badDescriptor
      | none, true, none => .error .isADirectory
      | none, true, some inode =>
          let chunk := ((tree.data inode).drop file.pos).take (min room (io.readSize call + 1))
          .ok (chunk, .fileStream { file with pos := file.pos + chunk.length })
  | .bufStream cursor =>
      let chunk := (cursor.bytes.drop cursor.pos).take (min room (io.readSize call + 1))
      .ok (chunk, .bufStream { cursor with pos := cursor.pos + chunk.length })

def bufSize : Nat := 128 * 1024

/-- The loop stops at an empty read or at a full buffer. Every other turn adds a byte, so the
buffer size is enough fuel. -/
def fillBuffer (tree : Tree) (io : Io) :
    Nat → Nat → DataStream → Bytes → Except Fault (DataStream × Bytes)
  | 0, _, stream, buffer => .ok (stream, buffer)
  | fuel + 1, call, stream, buffer =>
      match stream.read tree io call (bufSize - buffer.length) with
      | .error fault => .error fault
      | .ok (chunk, next) =>
          if chunk.length = 0 ∨ (buffer ++ chunk).length = bufSize then .ok (next, buffer ++ chunk)
          else fillBuffer tree io fuel (call + 1) next (buffer ++ chunk)

/-- The name decides whether a block is worth compressing. -/
def TransferJob.blockName (job : TransferJob) : Path :=
  match job.dataSource with
  | .memoryCursor _ => []
  | .filePath base =>
      match job.currentEntry with
      | none => []
      | some entry => if job.files.length = 1 ∧ entry.name = [] then fileName base else entry.name

/-- The payload is compressed only when that makes it shorter. -/
def TransferJob.payload (codec : Codec) (job : TransferJob) (buffer : Bytes) : Bytes × Bool :=
  match job.dataSource with
  | .memoryCursor _ => (buffer, false)
  | .filePath _ =>
      if isCompressedFile job.blockName = false ∧ (codec.compress buffer).length < buffer.length then
        (codec.compress buffer, true)
      else (buffer, false)

/-- The stream and both flags are dropped when the job leaves its file. -/
def TransferJob.leaveFile (job : TransferJob) : TransferJob :=
  { job with
    fileNum := job.fileNum + 1
    dataStream := none
    fileConfirmed := false
    fileIsWaiting := false }

/-- This part of `read` sends the filled buffer. -/
def TransferJob.emitBlock (codec : Codec) (job : TransferJob) (stream : DataStream)
    (buffer : Bytes) : TransferJob × Except JobError (Option FileTransferBlock) :=
  if buffer.length = 0 then
    match job.dataSource with
    | .memoryCursor _ => ({ job with dataStream := none }, .ok none)
    | .filePath _ => (job.leaveFile, .ok (some ⟨job.id, job.fileNum, [], false⟩))
  else
    let (data, compressed) := job.payload codec buffer
    ({ job with
        dataStream := some stream
        finishedSize := job.finishedSize + buffer.length
        transferred := job.transferred + data.length },
      .ok (some ⟨job.id, job.fileNum, data, compressed⟩))

/-- This part of `read` fills the buffer from the current stream. -/
def TransferJob.readStream (codec : Codec) (tree : Tree) (io : Io) (job : TransferJob) :
    TransferJob × Except JobError (Option FileTransferBlock) :=
  match job.dataStream with
  | none => (job, .error .dataStreamIsNone)
  | some stream =>
      match fillBuffer tree io bufSize 0 stream [] with
      | .error fault => (job.leaveFile, .error (.readFile job.fileNum fault))
      | .ok (next, buffer) => job.emitBlock codec next buffer

def TransferJob.read (codec : Codec) (tree : Tree) (io : Io) (job : TransferJob) :
    TransferJob × Except JobError (Option FileTransferBlock) :=
  if job.type = .generic ∧ job.enableOverwriteDetection = true ∧ job.fileConfirmed = false then
    (job, .ok none)
  else
    match job.dataSource with
    | .memoryCursor _ => job.readStream codec tree io
    | .filePath _ =>
        match job.currentEntry with
        | none => ({ job with dataStream := none }, .ok none)
        | some _ => job.readStream codec tree io

/-- The stream is replaced only when the seek succeeds. -/
def TransferJob.seekTo (io : Io) (job : TransferJob) (file : Handle) (offset : Nat) : TransferJob :=
  match io.seek with
  | some _ => job
  | none =>
      { job with
        dataStream := some (.fileStream { file with pos := offset })
        transferred := job.transferred + offset
        finishedSize := job.finishedSize + offset }

/-- A writer finds both side files and a reader finds the file itself. -/
def TransferJob.setStreamOffset (tree : Tree) (io : Io) (job : TransferJob) (fileNum : Int)
    (offset : Nat) : TransferJob × Tree :=
  match entryAt job.files fileNum, job.dataSource with
  | some entry, .filePath base =>
      match job.resolveEntryPath tree io base entry.name with
      | none => (job, tree)
      | some path =>
          if tree.pathExists (downloadPath path) && tree.pathExists (digestPath path) then
            match orFault io.openFile (tree.openWrite (downloadPath path)) with
            | .error _ => (job, tree)
            | .ok (opened, file) => (job.seekTo io file offset, opened)
          else if tree.pathExists path then
            match orFault io.openFile (tree.openRead path) with
            | .error _ => (job, tree)
            | .ok file => (job.seekTo io file offset, tree)
          else (job, tree)
  | _, _ => (job, tree)

/-- A request for another file number is ignored. -/
def TransferJob.confirm (tree : Tree) (io : Io) (request : FileTransferSendConfirmRequest)
    (job : TransferJob) : TransferJob × Tree :=
  if job.fileNum ≠ request.fileNum then (job, tree)
  else
    match request.union with
    | some (.skip true) => (job.setFileSkipped, tree)
    | some (.skip false) => (job.setFileConfirmed true, tree)
    | some (.offsetBlk offset) =>
        if 0 < offset then
          (job.setFileConfirmed true).setStreamOffset tree io request.fileNum offset
        else (job.setFileConfirmed true, tree)
    | none => (job, tree)

end SubnetDesk.FileTransfer
