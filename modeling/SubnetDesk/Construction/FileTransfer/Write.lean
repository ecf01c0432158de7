/-
This file defines the write side of a transfer job.
-/

import SubnetDesk.Construction.FileTransfer.Read
import SubnetDesk.Foundation.Machine

namespace SubnetDesk.FileTransfer

open FileTree

/-- This is the `.ok()` of a result whose fault is ignored. -/
def orKeep (tree : Tree) (result : Except Fault Tree) : Tree :=
  match result with
  | .ok next => next
  | .error _ => tree

/-- This is the path of the current entry of a generic path job. -/
def TransferJob.currentPath (tree : Tree) (io : Io) (job : TransferJob) : Option Path :=
  match job.type, job.dataSource, job.currentEntry with
  | .generic, .filePath base, some entry => job.resolveEntryPath tree io base entry.name
  | _, _, _ => none

/-- This is the part of `modify_time` that moves the side files of one path. -/
def finishPath (tree : Tree) (io : Io) (path : Path) : Tree :=
  let cleaned := orKeep tree (orFault io.finishDigest (tree.removeFile (digestPath path)))
  orKeep cleaned (orFault io.finishRename (cleaned.rename (downloadPath path) path))

/-- The download of the current entry takes its final name, whoever made it. -/
def TransferJob.modifyTime (tree : Tree) (io : Io) (job : TransferJob) : Tree :=
  match job.currentPath tree io with
  | none => tree
  | some path => finishPath tree io path

/-- The download of the current entry can take its final name. -/
def TransferJob.Renames (tree : Tree) (io : Io) (job : TransferJob) : Prop :=
  ∃ path, job.currentPath tree io = some path ∧
    let cleaned := orKeep tree (orFault io.finishDigest (tree.removeFile (digestPath path)))
    ∃ next, orFault io.finishRename (cleaned.rename (downloadPath path) path) = .ok next

instance (tree : Tree) (io : Io) (job : TransferJob) : Decidable (job.Renames tree io) :=
  match resolved : job.currentPath tree io with
  | none => .isFalse fun ⟨_, found, _⟩ => by
      rw [resolved] at found
      cases found
  | some path =>
      match renamed : orFault io.finishRename
          ((orKeep tree (orFault io.finishDigest (tree.removeFile (digestPath path)))).rename
            (downloadPath path) path) with
      | .ok next => .isTrue ⟨path, resolved, next, renamed⟩
      | .error _ => .isFalse fun ⟨_, found, next, success⟩ => by
          obtain rfl := Option.some.inj (resolved.symm.trans found)
          rw [renamed] at success
          cases success

def cancelPath (tree : Tree) (io : Io) (path : Path) : Tree :=
  let cleaned := orKeep tree (orFault io.cancelDownload (tree.removeFile (downloadPath path)))
  orKeep cleaned (orFault io.cancelDigest (cleaned.removeFile (digestPath path)))

def TransferJob.removeDownloadFile (tree : Tree) (io : Io) (job : TransferJob) : Tree :=
  match job.currentPath tree io with
  | none => tree
  | some path => cancelPath tree io path

/-- This is `std::fs::write` with an ignored fault. -/
def writeDigest (codec : Codec) (tree : Tree) (io : Io) (path : Path) (digest : FileDigest) : Tree :=
  match orFault io.writeDigest (tree.create (digestPath path)) with
  | .error _ => tree
  | .ok (opened, file) =>
      file.inode.elim opened fun inode => opened.setData inode (codec.digestToJson digest)

/-- The side files of a path are made in this order. -/
def openDownload (codec : Codec) (tree : Tree) (io : Io) (path : Path) (digest : FileDigest) :
    Tree × Except JobError Handle :=
  let parents := tree.createParents path
  let cleaned :=
    if parents.pathExists (digestPath path) then
      orFault io.removeDigest (parents.removeFile (digestPath path))
    else .ok parents
  match cleaned with
  | .error fault => (parents, .error (.writeFile fault))
  | .ok cleaned =>
      match orFault io.create (cleaned.create (downloadPath path)) with
      | .error fault => (cleaned, .error (.writeFile fault))
      | .ok (opened, file) => (writeDigest codec opened io path digest, .ok file)

/-- A printer job writes to its base path and has no side files. -/
def TransferJob.openTarget (codec : Codec) (tree : Tree) (io : Io) (base name : Path)
    (job : TransferJob) : Tree × Except JobError Handle :=
  match job.type with
  | .printer =>
      match orFault io.create (tree.create base) with
      | .error fault => (tree, .error (.writeFile fault))
      | .ok (opened, file) => (opened, .ok file)
  | .generic =>
      match joinValidatedPath tree io base name with
      | .error err => (tree, .error err)
      | .ok path => openDownload codec tree io path job.digest

/-- Only a file stream is flushed to the disk. -/
def TransferJob.syncFault (io : Io) (job : TransferJob) : Option Fault :=
  match job.dataStream with
  | some (.fileStream _) => io.sync
  | _ => none

/-- This part of `write` leaves the old file and opens the one that the block names. A failure
after the file number moved keeps the old stream. -/
def TransferJob.switchFile (codec : Codec) (tree : Tree) (io : Io) (base : Path) (fileNum : Int)
    (entry : FileEntry) (job : TransferJob) : TransferJob × Tree × Except JobError Unit :=
  let finished := job.modifyTime tree io
  match job.syncFault io with
  | some fault => (job, finished, .error (.writeFile fault))
  | none =>
      let moved := { job with fileNum := fileNum }
      match moved.openTarget codec finished io base entry.name with
      | (opened, .error err) => (moved, opened, .error err)
      | (opened, .ok file) =>
          ({ moved with dataStream := some (.fileStream file) }, opened, .ok ())

/-- A write that fails has stored a part of its bytes. -/
def writtenPart (io : Io) (bytes : Bytes) : Bytes :=
  match io.writeAll with
  | none => bytes
  | some (count, _) => bytes.take count

/-- A file takes the bytes of a write in chunks of this size. -/
def maxBufSize : Nat := 2 * 1024 * 1024

/-- Every chunk is stored in the background. The fault in the last chunk of a write waits for the
next write, and the fault in another chunk is the answer to the chunk after it. -/
def chunkFault (length : Nat) : Option (Nat × Fault) → Option Fault × Option Fault
  | none => (none, none)
  | some (count, fault) =>
      if length ≤ count then (none, none)
      else if length ≤ (count / maxBufSize + 1) * maxBufSize then (some fault, none)
      else (none, some fault)

/-- This is `write_all`. Nothing is written for no bytes, and the fault of an earlier write is
answered before anything is stored. A file that was opened for reading stores nothing. -/
def DataStream.writeAll (tree : Tree) (io : Io) (bytes : Bytes) :
    DataStream → DataStream × Tree × Option Fault
  | .fileStream file =>
      if bytes = [] then (.fileStream file, tree, none)
      else
        match file.lastWriteErr with
        | some fault => (.fileStream { file with lastWriteErr := none }, tree, some fault)
        | none =>
            match file.writable, file.inode with
            | true, some inode =>
                let (waiting, answer) := chunkFault bytes.length io.writeAll
                (.fileStream { file with
                    pos := file.pos + (writtenPart io bytes).length
                    lastWriteErr := waiting },
                  tree.setData inode (overwrite (tree.data inode) file.pos (writtenPart io bytes)),
                  answer)
            | _, _ =>
                let (waiting, answer) := chunkFault bytes.length (some (0, .badDescriptor))
                (.fileStream { file with lastWriteErr := waiting }, tree, answer)
  | .bufStream cursor =>
      (.bufStream ⟨overwrite cursor.bytes cursor.pos bytes, cursor.pos + bytes.length⟩, tree, none)

/-- These bytes of a write reach the stream. -/
def DataStream.storedPart (io : Io) (bytes : Bytes) : DataStream → Bytes
  | .fileStream file => if file.lastWriteErr = none then writtenPart io bytes else []
  | .bufStream _ => bytes

/-- The stored bytes of a block are its decompressed data. -/
def FileTransferBlock.decoded (codec : Codec) (block : FileTransferBlock) : Bytes :=
  if block.compressed then codec.decompress block.data else block.data

/-- These bytes of a block reach the open stream. -/
def TransferJob.storedPart (codec : Codec) (io : Io) (block : FileTransferBlock)
    (job : TransferJob) : Bytes :=
  job.dataStream.elim [] fun stream => stream.storedPart io (block.decoded codec)

/-- This part of `write` appends the block to the open stream. -/
def TransferJob.writeStream (codec : Codec) (tree : Tree) (io : Io) (block : FileTransferBlock)
    (job : TransferJob) : TransferJob × Tree × Except JobError Unit :=
  match job.dataStream with
  | none => (job, tree, .error (if block.compressed then .dataStreamIsNone else .fileIsNone))
  | some stream =>
      match stream.writeAll tree io (block.decoded codec) with
      | (next, written, some fault) =>
          ({ job with dataStream := some next }, written, .error (.writeFile fault))
      | (next, written, none) =>
          ({ job with
              dataStream := some next
              finishedSize := job.finishedSize + (block.decoded codec).length
              transferred := job.transferred + block.data.length }, written, .ok ())

/-- A block for another file or without a stream first opens its file. -/
def TransferJob.prepare (codec : Codec) (tree : Tree) (io : Io) (block : FileTransferBlock)
    (job : TransferJob) : TransferJob × Tree × Except JobError Unit :=
  match job.dataSource with
  | .filePath base =>
      match entryAt job.files block.fileNum with
      | none => (job, tree, .error .wrongFileNumber)
      | some entry =>
          if block.fileNum ≠ job.fileNum ∨ job.dataStream = none then
            job.switchFile codec tree io base block.fileNum entry
          else (job, tree, .ok ())
  | .memoryCursor cursor =>
      match job.dataStream with
      | some _ => (job, tree, .ok ())
      | none => ({ job with dataStream := some (.bufStream cursor) }, tree, .ok ())

def TransferJob.write (codec : Codec) (tree : Tree) (io : Io) (block : FileTransferBlock)
    (job : TransferJob) : TransferJob × Tree × Except JobError Unit :=
  if block.id ≠ job.id then (job, tree, .error .wrongId)
  else
    match job.prepare codec tree io block with
    | (next, prepared, .error err) => (next, prepared, .error err)
    | (next, prepared, .ok _) => next.writeStream codec prepared io block

/-- A write job and the tree that it changes. -/
structure Writer where
  job : TransferJob
  tree : Tree

/-- These calls change the write job or its files. The job is dropped after `finish` and `cancel`. -/
inductive WriteStep where
  | setDigest (size modified : Nat)
  | write (io : Io) (block : FileTransferBlock)
  | confirm (io : Io) (request : FileTransferSendConfirmRequest)
  | finish (io : Io)
  | cancel (io : Io)

def Writer.step (codec : Codec) (writer : Writer) : WriteStep → Writer × List (Except JobError Unit)
  | .setDigest size modified => (⟨writer.job.setDigest size modified, writer.tree⟩, [])
  | .write io block =>
      let (job, tree, result) := writer.job.write codec writer.tree io block
      (⟨job, tree⟩, [result])
  | .confirm io request =>
      let (job, tree) := writer.job.confirm writer.tree io request
      (⟨job, tree⟩, [])
  | .finish io => (⟨writer.job, writer.job.modifyTime writer.tree io⟩, [])
  | .cancel io => (⟨writer.job, writer.job.removeDownloadFile writer.tree io⟩, [])

/-- The session answers every write with its result. -/
def writeSession (codec : Codec) : Machine Writer WriteStep (Except JobError Unit) where
  step := Writer.step codec

end SubnetDesk.FileTransfer
