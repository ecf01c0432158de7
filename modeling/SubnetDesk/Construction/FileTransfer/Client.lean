/-
This file defines the write jobs of the client and the messages that drive them.
-/

import SubnetDesk.Construction.FileTransfer.Write

namespace SubnetDesk.FileTransfer

open FileTree

/-- These are the answers of the operating system to the check of a digest. The modification time
of the local file has seconds and nanoseconds. -/
structure CheckIo where
  readDigest : Option Fault
  statDownload : Option Fault
  stat : Option Fault
  directorySize : Nat
  seconds : Nat
  nanoseconds : Nat

inductive DigestCheckResult where
  | isSame
  | needConfirm (digest : FileTransferDigest)
  | noSuchFile
deriving DecidableEq

/-- This is the length in the metadata of a path. -/
def metadataLength (tree : Tree) (check : CheckIo) (path : Path) : Option Nat :=
  match tree.resolve true path with
  | .error _ => none
  | .ok place =>
      match tree.node place with
      | some (.file inode) => some (tree.data inode).length
      | some .dir => some check.directorySize
      | _ => none

/-- This is the part of the check that finds an interrupted download of the same file. -/
def resumableLength (codec : Codec) (tree : Tree) (check : CheckIo) (path : Path)
    (digest : FileTransferDigest) : Option Nat :=
  match check.readDigest, tree.fileBytes (digestPath path) with
  | none, some content =>
      match codec.digestFromJson content with
      | none => none
      | some stored =>
          if stored.modified = digest.lastModified ∧ stored.size = digest.fileSize then
            match check.statDownload, metadataLength tree check (downloadPath path) with
            | none, some length => if 0 < length then some length else none
            | _, _ => none
          else none
  | _, _ => none

/-- The digest of the answer names the local file and leaves the other fields at their defaults. -/
def checkedDigest (digest : FileTransferDigest) (lastModified fileSize : Nat) (isIdentical : Bool)
    (transferredSize : Nat) : FileTransferDigest :=
  ⟨digest.id, digest.fileNum, lastModified, fileSize, false, isIdentical, transferredSize, false⟩

/-- An interrupted download comes before an existing file. -/
def isWriteNeedConfirmation (codec : Codec) (tree : Tree) (check : CheckIo) (isResume : Bool)
    (path : Path) (digest : FileTransferDigest) : Except Fault DigestCheckResult :=
  let resumable :=
    if isResume && tree.pathExists (digestPath path) && tree.pathExists (downloadPath path) then
      resumableLength codec tree check path digest
    else none
  match resumable with
  | some length =>
      .ok (.needConfirm (checkedDigest digest digest.lastModified digest.fileSize true length))
  | none =>
      match tree.fileBytes path with
      | none => .ok .noSuchFile
      | some bytes =>
          match check.stat with
          | some fault => .error fault
          | none =>
              let isIdentical : Bool := digest.lastModified = check.seconds ∧
                check.nanoseconds = 0 ∧ digest.fileSize = bytes.length
              .ok (.needConfirm (checkedDigest digest check.seconds bytes.length isIdentical 0))

/-- A result without a decision asks the user. -/
def confirmUnion (job : TransferJob) : DigestCheckResult → Option ConfirmUnion
  | .isSame => some (.skip true)
  | .noSuchFile => some (.offsetBlk 0)
  | .needConfirm digest =>
      if digest.isIdentical && job.isResume && decide (0 < digest.transferredSize) then
        some (.offsetBlk digest.transferredSize)
      else
        job.defaultOverwriteStrategy.map fun overwrite =>
          if overwrite then .offsetBlk 0 else .skip true

/-- These are the write jobs of the client and the tree that they change. -/
structure Client where
  writeJobs : List TransferJob
  tree : Tree

/-- The user or the peer takes these steps. -/
inductive ClientStep where
  | sendFiles (id : Int) (type : JobType) (target : Path) (fileNum : Int) (overwriteDetection : Bool)
  | addJob (id : Int) (type : JobType) (target : Path) (fileNum : Int) (overwriteDetection : Bool)
  | resumeJob (id : Int)
  | cancelJob (io : Io) (id : Int)
  | setConfirmOverrideFile (io : Io) (id fileNum : Int) (needOverride remember : Bool)
  | dir (io : Io) (peerIsWindows : Bool) (id : Int) (entries : List FileEntry)
  | digest (io : Io) (check : CheckIo) (supportsResume : Bool) (digest : FileTransferDigest)
  | block (io : Io) (block : FileTransferBlock)
  | done (io : Io) (id fileNum : Int)
  | error (id : Int) (err : JobError) (fileNum : Int)

/-- A finished job reports the file that its download replaced and the arguments of
`handle_job_status`. -/
inductive ClientEvent where
  | started (id : Int)
  | wrote (id fileNum : Int) (result : Except JobError Unit)
  | sent (request : FileTransferSendConfirmRequest)
  | overrideFileConfirm (id fileNum : Int) (path : Path) (isIdentical : Bool)
  | finished (id fileNum : Int) (renamed : Option Int) (err : Option JobError)
  | failed (id fileNum : Int) (err : JobError)

/-- A new job with a used number stays behind the job in use. -/
def Client.addWrite (client : Client) (job : TransferJob) : Client × List ClientEvent :=
  ({ client with writeJobs := client.writeJobs ++ [job] },
    if getJob job.id client.writeJobs = none then [.started job.id] else [])

def Client.cancelTransferJob (client : Client) (io : Io) (id : Int) : Client :=
  match getJob id client.writeJobs with
  | none => client
  | some job => ⟨removeJob id client.writeJobs, job.removeDownloadFile client.tree io⟩

/-- A confirmation goes to the job and to the peer. -/
def Client.confirmWrite (client : Client) (io : Io) (job : TransferJob)
    (request : FileTransferSendConfirmRequest) : Client × List ClientEvent :=
  let (confirmed, tree) := job.confirm client.tree io request
  (⟨updateJob job.id (fun _ => confirmed) client.writeJobs, tree⟩, [.sent request])

def Client.setConfirmOverrideFile (client : Client) (io : Io) (id fileNum : Int)
    (needOverride remember : Bool) : Client × List ClientEvent :=
  match getJob id client.writeJobs with
  | none => (client, [])
  | some job =>
      let chosen := if remember then job.setOverwriteStrategy (some needOverride) else job
      client.confirmWrite io chosen
        ⟨id, fileNum, some (if needOverride then .offsetBlk 0 else .skip true)⟩

/-- A peer on Windows separates the segments of a name by backslashes. -/
def transformWindowsPath (entries : List FileEntry) : List FileEntry :=
  entries.map fun entry =>
    { entry with name := entry.name.map fun c => if c = '\\' then '/' else c }

/-- A rejected list cancels the job. -/
def Client.handleDir (client : Client) (io : Io) (id : Int) (entries : List FileEntry) :
    Client × List ClientEvent :=
  match getJob id client.writeJobs with
  | none => (client, [])
  | some job =>
      match job.setFiles client.tree io entries with
      | .ok listed =>
          (⟨updateJob id (fun _ => listed.setFinishedSizeOnResume) client.writeJobs, client.tree⟩, [])
      | .error err => (client.cancelTransferJob io id, [.failed id (-1) err])

/-- A digest of an uploaded file belongs to a read job. -/
def Client.handleDigest (codec : Codec) (client : Client) (io : Io) (check : CheckIo)
    (supportsResume : Bool) (digest : FileTransferDigest) : Client × List ClientEvent :=
  if digest.isUpload then (client, [])
  else
    match getJob digest.id client.writeJobs with
    | none => (client, [])
    | some job =>
        match entryAt job.files digest.fileNum, job.dataSource with
        | some entry, .filePath base =>
            let noted := job.setDigest digest.fileSize digest.lastModified
            let stored : Client :=
              ⟨updateJob digest.id (fun _ => noted) client.writeJobs, client.tree⟩
            match isWriteNeedConfirmation codec client.tree check (supportsResume && job.isResume)
                (join base entry.name) digest with
            | .error _ => (stored, [])
            | .ok result =>
                match confirmUnion noted result, result with
                | some union, _ => stored.confirmWrite io noted ⟨digest.id, digest.fileNum, some union⟩
                | none, .needConfirm local_ =>
                    (stored, [.overrideFileConfirm digest.id digest.fileNum (join base entry.name)
                      local_.isIdentical])
                | none, _ => (stored, [])
        | _, _ => (client, [])

/-- The result of the write is dropped. -/
def Client.handleBlock (codec : Codec) (client : Client) (io : Io) (block : FileTransferBlock) :
    Client × List ClientEvent :=
  match getJob block.id client.writeJobs with
  | none => (client, [])
  | some job =>
      let (written, tree, result) := job.write codec client.tree io block
      (⟨updateJob block.id (fun _ => written) client.writeJobs, tree⟩,
        [.wrote block.id block.fileNum result])

/-- This is the file that takes its final name in `modify_time`. -/
def TransferJob.renamedFile (tree : Tree) (io : Io) (job : TransferJob) : Option Int :=
  match job.currentPath tree io with
  | none => none
  | some path =>
      let cleaned := orKeep tree (orFault io.finishDigest (tree.removeFile (digestPath path)))
      match orFault io.finishRename (cleaned.rename (downloadPath path) path) with
      | .ok _ => some job.fileNum
      | .error _ => none

/-- The status is reported for an unknown job too. -/
def Client.handleDone (client : Client) (io : Io) (id fileNum : Int) : Client × List ClientEvent :=
  match getJob id client.writeJobs with
  | none => (client, [.finished id fileNum none none])
  | some job =>
      (⟨removeJob id client.writeJobs, job.modifyTime client.tree io⟩,
        [.finished id fileNum (job.renamedFile client.tree io) job.jobError])

def Client.step (codec : Codec) (client : Client) : ClientStep → Client × List ClientEvent
  | .sendFiles id type target fileNum overwriteDetection =>
      client.addWrite (.newWrite id type (.filePath target) fileNum overwriteDetection)
  | .addJob id type target fileNum overwriteDetection =>
      client.addWrite
        { TransferJob.newWrite id type (.filePath target) fileNum overwriteDetection with
          isLastJob := true }
  | .resumeJob id =>
      ({ client with
          writeJobs := updateJob id (fun job => { job with isLastJob := false, isResume := true })
            client.writeJobs }, [])
  | .cancelJob io id => (client.cancelTransferJob io id, [])
  | .setConfirmOverrideFile io id fileNum needOverride remember =>
      client.setConfirmOverrideFile io id fileNum needOverride remember
  | .dir io peerIsWindows id entries =>
      client.handleDir io id (if peerIsWindows then transformWindowsPath entries else entries)
  | .digest io check supportsResume digest =>
      client.handleDigest codec io check supportsResume digest
  | .block io block => client.handleBlock codec io block
  | .done io id fileNum => client.handleDone io id fileNum
  | .error id err fileNum =>
      ({ client with writeJobs := removeJob id client.writeJobs }, [.failed id fileNum err])

def clientSession (codec : Codec) : Machine Client ClientStep ClientEvent where
  step := Client.step codec

end SubnetDesk.FileTransfer
