/-
This file defines the two drivers that send the files of read jobs.
-/

import SubnetDesk.Construction.FileTransfer.Read

namespace SubnetDesk.FileTransfer

open FileTree

/-- The operating system answers each job of the list separately. -/
abbrev Answers := Nat → Io

def Answers.tail (io : Answers) : Answers := fun index => io (index + 1)

/-- A job that failed to start reports its file number after the call. -/
def initJob (tree : Tree) (io : Io) (job : TransferJob) : TransferJob × List Message :=
  if job.isLastJob then (job, [])
  else
    match job.initDataStream tree io with
    | (next, .ok sent) => (next, sent)
    | (next, .error err) => (next, [.error next.id err next.fileNum])

def initJobs (tree : Tree) : Answers → List TransferJob → List TransferJob × List Message
  | _, [] => ([], [])
  | io, job :: rest =>
      ((initJob tree (io 0) job).1 :: (initJobs tree io.tail rest).1,
        (initJob tree (io 0) job).2 ++ (initJobs tree io.tail rest).2)

/-- The end of a job is a message and the request to remove it. -/
def completion (job : TransferJob) : List Message × Bool :=
  if job.jobCompleted then
    match job.jobError with
    | some err => ([.error job.id err job.fileNum], true)
    | none => ([.done job.id job.fileNum], true)
  else ([], false)

/-- One read sends a block, an error, or the end of the job. -/
def readJob (codec : Codec) (tree : Tree) (io : Io) (job : TransferJob) :
    TransferJob × List Message × Bool :=
  match job.read codec tree io with
  | (next, .error err) => (next, [.error next.id err next.fileNum], false)
  | (next, .ok (some block)) => (next, [.block block], false)
  | (next, .ok none) => (next, completion next)

/-- The loop handles the first job that is not a waiting job and then stops. -/
def readFirst (codec : Codec) (tree : Tree) :
    Answers → List TransferJob → List TransferJob × List Message × List Int
  | _, [] => ([], [], [])
  | io, job :: rest =>
      if job.isLastJob then
        let (others, sent, finished) := readFirst codec tree io.tail rest
        (job :: others, sent, finished)
      else
        let (next, sent, finished) := readJob codec tree (io 0) job
        (next :: rest, sent, if finished then [next.id] else [])

def removeJobs (finished : List Int) (jobs : List TransferJob) : List TransferJob :=
  finished.foldl (fun jobs id => removeJob id jobs) jobs

/-- Every job is started before the first one is read. -/
def handleReadJobs (codec : Codec) (tree : Tree) (io : Answers) (jobs : List TransferJob) :
    List TransferJob × List Message :=
  let (started, opening) := initJobs tree io jobs
  let (read, sent, finished) := readFirst codec tree io started
  (removeJobs finished read, opening ++ sent)

/-- These are the messages from the connection manager to the connection. -/
inductive Data where
  | fileDigestFromCm (id fileNum : Int) (lastModified fileSize : Nat) (isResume : Bool) (connId : Int)
  | fileBlockFromCm (id fileNum : Int) (data : Bytes) (compressed : Bool) (connId : Int)
  | fileReadError (id fileNum : Int) (err : JobError) (connId : Int)
  | fileReadDone (id fileNum connId : Int)
deriving DecidableEq

/-- The connection forwards each message to the peer. -/
def Data.message : Data → Message
  | .fileDigestFromCm id fileNum lastModified fileSize isResume _ =>
      .digest ⟨id, fileNum, lastModified, fileSize, false, false, 0, isResume⟩
  | .fileBlockFromCm id fileNum data compressed _ => .block ⟨id, fileNum, data, compressed⟩
  | .fileReadError id fileNum err _ => .error id err fileNum
  | .fileReadDone id fileNum _ => .done id fileNum

def initReadJobForCm (tree : Tree) (io : Io) (connId : Int) (job : TransferJob) :
    TransferJob × Except JobError (List Data) :=
  match job.initDataStreamForCm tree io with
  | (next, .error err) => (next, .error err)
  | (next, .ok none) => (next, .ok [])
  | (next, .ok (some (lastModified, fileSize))) =>
      (next, .ok [.fileDigestFromCm next.id next.fileNum lastModified fileSize next.isResume connId])

def completionForCm (connId : Int) (job : TransferJob) : List Data × Bool :=
  if job.jobCompleted then
    match job.jobError with
    | some err => ([.fileReadError job.id job.fileNum err connId], true)
    | none => ([.fileReadDone job.id job.fileNum connId], true)
  else ([], false)

/-- A read error also finishes the job here. -/
def readJobForCm (codec : Codec) (tree : Tree) (io : Io) (connId : Int) (job : TransferJob) :
    TransferJob × List Data × Bool :=
  match job.read codec tree io with
  | (next, .error err) => (next, [.fileReadError next.id next.fileNum err connId], true)
  | (next, .ok (some block)) =>
      (next, [.fileBlockFromCm block.id block.fileNum block.data block.compressed connId], false)
  | (next, .ok none) => (next, completionForCm connId next)

/-- The loop goes on to the next job only after a job that failed to start. -/
def readTick (codec : Codec) (tree : Tree) (connId : Int) :
    Answers → List TransferJob → List TransferJob × List Data × List Int
  | _, [] => ([], [], [])
  | io, job :: rest =>
      if job.isLastJob then
        let (others, sent, finished) := readTick codec tree connId io.tail rest
        (job :: others, sent, finished)
      else
        match initReadJobForCm tree (io 0) connId job with
        | (next, .error err) =>
            let (others, sent, finished) := readTick codec tree connId io.tail rest
            (next :: others, .fileReadError next.id next.fileNum err connId :: sent,
              next.id :: finished)
        | (next, .ok opening) =>
            let (read, sent, finished) := readJobForCm codec tree (io 0) connId next
            (read :: rest, opening ++ sent, if finished then [read.id] else [])

def handleReadJobsTick (codec : Codec) (tree : Tree) (io : Answers) (connId : Int)
    (jobs : List TransferJob) : List TransferJob × List Data :=
  let (read, sent, finished) := readTick codec tree connId io jobs
  (removeJobs finished read, sent)

/-- A confirmation that reaches the connection goes to its own read job. -/
def confirmReadJob (tree : Tree) (io : Io) (request : FileTransferSendConfirmRequest)
    (jobs : List TransferJob) : List TransferJob :=
  updateJob request.id (fun job => (job.confirm tree io request).1) jobs

/-- This is the message that the connection forwards to its connection manager. -/
structure SendConfirmForRead where
  id : Int
  fileNum : Int
  skip : Bool
  offsetBlk : Nat
  connId : Int
deriving DecidableEq

/-- The getters of an unset or different union value return their defaults. -/
def forwardConfirm (connId : Int) (request : FileTransferSendConfirmRequest) : SendConfirmForRead where
  id := request.id
  fileNum := request.fileNum
  skip := match request.union with
    | some (.skip skip) => skip
    | _ => false
  offsetBlk := match request.union with
    | some (.offsetBlk offset) => offset
    | _ => 0
  connId := connId

/-- The request is rebuilt with the file number that the job has now. -/
def rebuildConfirm (confirm : SendConfirmForRead) (job : TransferJob) :
    FileTransferSendConfirmRequest where
  id := confirm.id
  fileNum := job.fileNum
  union := some (if confirm.skip then .skip true else .offsetBlk confirm.offsetBlk)

/-- This is the `SendConfirmForRead` branch of `handle_fs`. -/
def handleFsSendConfirmForRead (tree : Tree) (io : Io) (confirm : SendConfirmForRead)
    (jobs : List TransferJob) : List TransferJob :=
  updateJob confirm.id (fun job => (job.confirm tree io (rebuildConfirm confirm job)).1) jobs

end SubnetDesk.FileTransfer
