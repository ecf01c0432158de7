import SubnetDesk.Construction.FileTransfer.ReadSession
import SubnetDesk.Proof.FileTransfer.DriverAgreement

namespace SubnetDesk.FileTransfer
open FileTree

/-- A confirmation changes a job only when it names the current file of the job. -/
def Answered.OnTarget (event : Answered) : Prop :=
  event.after ≠ event.before → event.request.fileNum = event.before.fileNum

/-- The current file of the job can be opened at an offset. -/
def TransferJob.Seekable (tree : Tree) (io : Io) (job : TransferJob) : Prop :=
  io.seek = none ∧ ∃ entry base path, entryAt job.files job.fileNum = some entry ∧
    job.dataSource = .filePath base ∧ job.resolveEntryPath tree io base entry.name = some path ∧
    if tree.pathExists (downloadPath path) && tree.pathExists (digestPath path) then
      ∃ opened, orFault io.openFile (tree.openWrite (downloadPath path)) = .ok opened
    else tree.pathExists path = true ∧ ∃ file, orFault io.openFile (tree.openRead path) = .ok file

/-- A seek changes a job without a fault. -/
theorem seekTo_ne (io : Io) (job : TransferJob) (file : Handle) (offset : Nat)
    (positive : 0 < offset) : job.seekTo io file offset ≠ job ↔ io.seek = none := by
  unfold TransferJob.seekTo
  split
  next fault refused => simp [refused]
  next quiet =>
    refine ⟨fun _ => quiet, fun _ same => ?_⟩
    have counter := congrArg TransferJob.transferred same
    simp only at counter
    omega

/-- A positive offset changes the job exactly when its current file can be opened there. -/
theorem setStreamOffset_ne (tree : Tree) (io : Io) (job : TransferJob) (offset : Nat)
    (positive : 0 < offset) :
    (job.setStreamOffset tree io job.fileNum offset).1 ≠ job ↔ job.Seekable tree io := by
  unfold TransferJob.setStreamOffset TransferJob.Seekable
  split
  next entry base current source =>
    simp only [current, source, Option.some.injEq, DataSource.filePath.injEq, exists_and_left,
      exists_eq_left']
    split
    next refused => simp [refused]
    next path resolved =>
      simp only [resolved, Option.some.injEq, exists_eq_left']
      split
      next sides =>
        cases opened : orFault io.openFile (tree.openWrite (downloadPath path)) with
        | error fault => simp
        | ok file => simpa using seekTo_ne io job file.2 offset positive
      next =>
        split
        next present =>
          cases opened : orFault io.openFile (tree.openRead path) with
          | error fault => simp [present]
          | ok file => simpa [present] using seekTo_ne io job file offset positive
        next absent => simp [absent]
  next other =>
    simp only [ne_eq, not_true_eq_false, false_iff]
    rintro ⟨_, entry, base, _, current, source, _⟩
    exact other entry base current source

/-- A forwarded confirmation does nothing when the current file is already confirmed and the
offset moves no stream. -/
def SendConfirmForRead.Idle (tree : Tree) (io : Io) (confirm : SendConfirmForRead)
    (job : TransferJob) : Prop :=
  confirm.skip = false ∧ job.fileConfirmed = true ∧ job.fileSkipped = false ∧
    (0 < confirm.offsetBlk → ¬ job.Seekable tree io)

theorem setFileConfirmed_ne (job : TransferJob) :
    job.setFileConfirmed true ≠ job ↔ ¬ (job.fileConfirmed = true ∧ job.fileSkipped = false) := by
  cases job
  simp [TransferJob.setFileConfirmed, eq_comm]

theorem setFileSkipped_ne (job : TransferJob) : job.setFileSkipped ≠ job := by
  intro same
  have counter := congrArg TransferJob.fileNum same
  simp [TransferJob.setFileSkipped] at counter

/-- A confirmation with an offset sets both flags of the job. -/
theorem confirmed_offset_flags (tree : Tree) (io : Io) (job : TransferJob) (offset : Nat) :
    ((job.setFileConfirmed true).setStreamOffset tree io job.fileNum offset).1.fileConfirmed = true ∧
      ((job.setFileConfirmed true).setStreamOffset tree io job.fileNum offset).1.fileSkipped =
        false := by
  obtain ⟨stream, transferred, finished, same, _⟩ :=
    setStreamOffset_shape tree io (job.setFileConfirmed true) job.fileNum offset
  rw [same]
  exact ⟨rfl, rfl⟩

/-- The rebuilt request leaves the job unchanged exactly when it is idle. -/
theorem rebuildConfirm_unchanged (tree : Tree) (io : Io) (confirm : SendConfirmForRead)
    (job : TransferJob) :
    (job.confirm tree io (rebuildConfirm confirm job)).1 = job ↔ confirm.Idle tree io job := by
  unfold TransferJob.confirm rebuildConfirm SendConfirmForRead.Idle
  cases skip : confirm.skip with
  | true =>
      simp only [ne_eq, not_true_eq_false, ite_false, ite_true]
      exact iff_of_false (setFileSkipped_ne job) (by simp)
  | false =>
      simp only [ne_eq, not_true_eq_false, ite_false, Bool.false_eq_true, true_and]
      by_cases flags : job.fileConfirmed = true ∧ job.fileSkipped = false
      · have same : job.setFileConfirmed true = job :=
          not_not.mp fun changed => (setFileConfirmed_ne job).mp changed flags
        rw [same]
        simp only [flags, true_and]
        by_cases positive : 0 < confirm.offsetBlk
        · simp only [positive, ite_true, forall_const]
          exact not_iff_not.mp (by rw [not_not]; exact setStreamOffset_ne tree io job _ positive)
        · simp [positive]
      · refine iff_of_false (fun same => ?_) fun idle => flags ⟨idle.1, idle.2.1⟩
        split at same
        next =>
          obtain ⟨confirmed, skipped⟩ := confirmed_offset_flags tree io job confirm.offsetBlk
          rw [same] at confirmed skipped
          exact flags ⟨confirmed, skipped⟩
        next => exact (setFileConfirmed_ne job).mpr flags same

theorem answered_onTarget (request : FileTransferSendConfirmRequest)
    (update : TransferJob → TransferJob) (jobs : List TransferJob) :
    (∀ event ∈ answered request update jobs, event.OnTarget) ↔
      ∀ job, getJob request.id jobs = some job → update job ≠ job →
        request.fileNum = job.fileNum := by
  unfold answered
  cases found : getJob request.id jobs with
  | none => simp
  | some job => simp [Answered.OnTarget]

/-- The job itself compares the file number of the request with its own. -/
theorem confirm_onTarget (tree : Tree) (io : Io) (request : FileTransferSendConfirmRequest)
    (job : TransferJob) (changed : (job.confirm tree io request).1 ≠ job) :
    request.fileNum = job.fileNum := by
  by_contra other
  exact changed (by rw [TransferJob.confirm, if_pos (Ne.symm other)])

/-- A confirmation that reaches a job of the connection manager names its current file, or the
job needs no confirmation and moves no stream. -/
def ManagerOnTarget (connId : Int) (state : ServerReads) : ServerStep → Prop
  | .sendConfirm tree io request =>
      getJob request.id state.readJobs = none → request.id ∈ state.cmReadJobIds →
        ∀ job, getJob request.id state.cmReadJobs = some job →
          request.fileNum = job.fileNum ∨ (forwardConfirm connId request).Idle tree io job
  | _ => True

/-- A request hits where the manager does. -/
theorem handleSendConfirm_onTarget (tree : Tree) (io : Io) (connId : Int)
    (request : FileTransferSendConfirmRequest) (state : ServerReads) :
    (∀ event ∈ (handleSendConfirm tree io connId request state).2, event.OnTarget) ↔
      ManagerOnTarget connId state (.sendConfirm tree io request) := by
  unfold handleSendConfirm ManagerOnTarget
  cases own : getJob request.id state.readJobs with
  | some job =>
      simp only [own, reduceCtorEq, false_implies, iff_true]
      exact (answered_onTarget _ _ _).mpr fun job _ => confirm_onTarget tree io request job
  | none =>
      by_cases known : request.id ∈ state.cmReadJobIds
      · simp only [own, List.contains_iff_mem, known, ite_true, forall_const]
        rw [answered_onTarget]
        refine forall₂_congr fun job _ => ?_
        rw [ne_eq, rebuildConfirm_unchanged, or_comm]
        exact or_iff_not_imp_left.symm
      · simp [known]

/-- One step hits where the manager does. -/
theorem serverSession_onTarget (codec : Codec) (connId : Int) (state : ServerReads)
    (step : ServerStep) :
    (∀ event ∈ ((serverSession codec connId).step state step).2, event.OnTarget) ↔
      ManagerOnTarget connId state step := by
  cases step with
  | own inner =>
      simp only [ManagerOnTarget, iff_true]
      cases inner with
      | confirm tree io request =>
          exact (answered_onTarget _ _ _).mpr fun job _ => confirm_onTarget tree io request job
      | push | cancel | resume | overwriteStrategy | tick => simp [serverSession, ownStep]
  | manager inner => simp [serverSession, ManagerOnTarget]
  | startCmRead id => simp [serverSession, ManagerOnTarget]
  | endCmRead id => simp [serverSession, ManagerOnTarget]
  | sendConfirm tree io request => exact handleSendConfirm_onTarget tree io connId request state

/-- In a run of the connection, no confirmation touches another file exactly when every
confirmation that is forwarded to the connection manager names the current file or is idle. -/
theorem confirm_onTarget_iff (codec : Codec) (connId : Int) (state : ServerReads)
    (steps : List ServerStep) :
    (∀ event ∈ ((serverSession codec connId).run state steps).2, event.OnTarget) ↔
      (serverSession codec connId).Guarded (ManagerOnTarget connId) state steps :=
  (serverSession codec connId).run_outputs_iff _ _ (serverSession_onTarget codec connId) state steps

/-- The peer skips the first file twice. -/
def repeatedSkip : List ServerStep :=
  let skip := ServerStep.sendConfirm pairTree (Io.clean id 0) ⟨1, 0, some (.skip true)⟩
  let tick := ServerStep.manager (.tick pairTree fun _ => Io.clean id 0)
  [.startCmRead 1,
    .manager (.push 1 .generic (.filePath "/b".toList) 0 [⟨['x'], 2, 0⟩, ⟨['y'], 2, 0⟩] true false),
    tick, skip, tick, skip]

/-- The second copy of the request skips the second file. -/
theorem repeatedSkip_offTarget :
    ¬ ∀ event ∈ ((serverSession .plain 7).run ⟨[], [], []⟩ repeatedSkip).2, event.OnTarget := by
  intro onTarget
  have trace : ((serverSession .plain 7).run ⟨[], [], []⟩ repeatedSkip).2.map
      (fun event => (event.request.fileNum, event.before.fileNum, event.after.fileNum)) =
        [(0, 0, 1), (0, 1, 2)] := by decide +kernel
  have second : ∃ event ∈ ((serverSession .plain 7).run ⟨[], [], []⟩ repeatedSkip).2,
      (event.request.fileNum, event.before.fileNum, event.after.fileNum) = (0, 1, 2) := by
    rw [← List.mem_map, trace]
    simp
  obtain ⟨event, member, numbers⟩ := second
  obtain ⟨request, before, after⟩ : event.request.fileNum = 0 ∧ event.before.fileNum = 1 ∧
      event.after.fileNum = 2 := by simpa using numbers
  have target := onTarget event member fun same => by
    rw [same] at after
    omega
  omega

end SubnetDesk.FileTransfer
