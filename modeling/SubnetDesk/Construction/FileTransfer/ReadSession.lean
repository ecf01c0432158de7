/-
This file defines the life of the read jobs of one connection and routes the confirmations of a peer
to them.
-/

import SubnetDesk.Construction.FileTransfer.ReadDriver
import SubnetDesk.Foundation.Machine

namespace SubnetDesk.FileTransfer

open FileTree

/-- A saved job is pushed as a waiting job and starts when the user resumes it. -/
inductive ReadStep where
  | push (id : Int) (type : JobType) (dataSource : DataSource) (fileNum : Int)
      (listed : List FileEntry) (overwriteDetection waiting : Bool)
  | cancel (id : Int)
  | resume (id : Int)
  | overwriteStrategy (id : Int) (strategy : Option Bool)
  | confirm (tree : Tree) (io : Io) (request : FileTransferSendConfirmRequest)
  | tick (tree : Tree) (io : Answers)

inductive ReadEvent where
  | pushed (job : TransferJob)
  | skipped (id fileNum : Int)
  | sent (message : Message)
deriving DecidableEq

def TransferJob.resume (job : TransferJob) : TransferJob :=
  match job.dataSource with
  | .filePath _ => { job with isLastJob := false, isResume := true }.setFinishedSizeOnResume
  | .memoryCursor _ => job

/-- The peer skips the current file of the first job with the given id. -/
def skippedBy (request : FileTransferSendConfirmRequest) (jobs : List TransferJob) :
    List ReadEvent :=
  match getJob request.id jobs with
  | none => []
  | some job =>
      if job.fileNum = request.fileNum ∧ request.union = some (.skip true) then
        [.skipped job.id job.fileNum]
      else []

/-- A driver reads the jobs of the list and sends their messages. -/
abbrev Driver := Tree → Answers → List TransferJob → List TransferJob × List Message

def sessionStep (driver : Driver) (jobs : List TransferJob) :
    ReadStep → List TransferJob × List ReadEvent
  | .push id type dataSource fileNum listed overwriteDetection waiting =>
      let job := { TransferJob.newRead id type dataSource fileNum listed overwriteDetection with
        isLastJob := waiting }
      (jobs ++ [job], [.pushed job])
  | .cancel id => (removeJob id jobs, [])
  | .resume id => (updateJob id TransferJob.resume jobs, [])
  | .overwriteStrategy id strategy =>
      (updateJob id (fun job => job.setOverwriteStrategy strategy) jobs, [])
  | .confirm tree io request => (confirmReadJob tree io request jobs, skippedBy request jobs)
  | .tick tree io => ((driver tree io jobs).1, (driver tree io jobs).2.map ReadEvent.sent)

/-- This session sends its messages to the peer itself. -/
def readSession (codec : Codec) : Machine (List TransferJob) ReadStep ReadEvent where
  step := sessionStep (handleReadJobs codec)

/-- The connection forwards each message of the connection manager. -/
def cmDriver (codec : Codec) (connId : Int) : Driver := fun tree io jobs =>
  ((handleReadJobsTick codec tree io connId jobs).1,
    (handleReadJobsTick codec tree io connId jobs).2.map Data.message)

def cmSession (codec : Codec) (connId : Int) : Machine (List TransferJob) ReadStep ReadEvent where
  step := sessionStep (cmDriver codec connId)

/-- A driver calls these operations of one read job. -/
inductive JobCall where
  | init (io : Io)
  | read (io : Io)
  | confirm (io : Io) (request : FileTransferSendConfirmRequest)

def callStep (codec : Codec) (tree : Tree) (job : TransferJob) :
    JobCall → TransferJob × List FileTransferBlock
  | .init io => ((job.initDataStream tree io).1, [])
  | .read io =>
      match job.read codec tree io with
      | (next, .ok (some block)) => (next, [block])
      | (next, _) => (next, [])
  | .confirm io request => ((job.confirm tree io request).1, [])

/-- The calls of one read job emit its blocks. -/
def readCalls (codec : Codec) (tree : Tree) : Machine TransferJob JobCall FileTransferBlock where
  step := callStep codec tree

/-- The connection reads some jobs itself and leaves the others to its connection manager. -/
structure ServerReads where
  readJobs : List TransferJob
  cmReadJobIds : List Int
  cmReadJobs : List TransferJob

/-- The steps of the two lists run in any order. A confirmation arrives from the peer, or the user
of the client answers for an own job. -/
inductive ServerStep where
  | own (step : ReadStep)
  | manager (step : ReadStep)
  | startCmRead (id : Int)
  | endCmRead (id : Int)
  | sendConfirm (tree : Tree) (io : Io) (request : FileTransferSendConfirmRequest)

/-- This event records one confirmation with its job before and after it. -/
structure Answered where
  request : FileTransferSendConfirmRequest
  before : TransferJob
  after : TransferJob
deriving DecidableEq

/-- The event names the job that an update with the id of the request changes. -/
def answered (request : FileTransferSendConfirmRequest) (update : TransferJob → TransferJob)
    (jobs : List TransferJob) : List Answered :=
  match getJob request.id jobs with
  | none => []
  | some job => [⟨request, job, update job⟩]

/-- The connection manager has no confirmation of its own. -/
def managerStep (codec : Codec) (connId : Int) (jobs : List TransferJob) :
    ReadStep → List TransferJob
  | .confirm _ _ _ => jobs
  | step => (sessionStep (cmDriver codec connId) jobs step).1

def ownStep (codec : Codec) (jobs : List TransferJob) :
    ReadStep → List TransferJob × List Answered
  | .confirm tree io request =>
      (confirmReadJob tree io request jobs,
        answered request (fun job => (job.confirm tree io request).1) jobs)
  | step => ((sessionStep (handleReadJobs codec) jobs step).1, [])

/-- This is the `SendConfirm` branch of the connection. An own job has priority, and a request for
neither list goes to the write jobs. -/
def handleSendConfirm (tree : Tree) (io : Io) (connId : Int)
    (request : FileTransferSendConfirmRequest) (state : ServerReads) :
    ServerReads × List Answered :=
  match getJob request.id state.readJobs with
  | some _ =>
      ({ state with readJobs := confirmReadJob tree io request state.readJobs },
        answered request (fun job => (job.confirm tree io request).1) state.readJobs)
  | none =>
      if state.cmReadJobIds.contains request.id then
        let forwarded := forwardConfirm connId request
        ({ state with
            cmReadJobs := handleFsSendConfirmForRead tree io forwarded state.cmReadJobs },
          answered request (fun job => (job.confirm tree io (rebuildConfirm forwarded job)).1)
            state.cmReadJobs)
      else (state, [])

def serverSession (codec : Codec) (connId : Int) : Machine ServerReads ServerStep Answered where
  step state
    | .own step =>
        ({ state with readJobs := (ownStep codec state.readJobs step).1 },
          (ownStep codec state.readJobs step).2)
    | .manager step =>
        ({ state with cmReadJobs := managerStep codec connId state.cmReadJobs step }, [])
    | .startCmRead id => ({ state with cmReadJobIds := id :: state.cmReadJobIds }, [])
    | .endCmRead id =>
        ({ state with cmReadJobIds := state.cmReadJobIds.filter fun other => other ≠ id }, [])
    | .sendConfirm tree io request => handleSendConfirm tree io connId request state

end SubnetDesk.FileTransfer
