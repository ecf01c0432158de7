import SubnetDesk.Construction.FileTransfer.Client

namespace SubnetDesk.FileTransfer
open FileTree

/-- These are the files of the job whose blocks could not be written since the job started. -/
def failedFiles (id : Int) (past : List ClientEvent) : List Int :=
  past.foldl (fun failed event =>
    match event with
    | .started other => if other = id then [] else failed
    | .wrote other fileNum (.error _) => if other = id then fileNum :: failed else failed
    | _ => failed) []

/-- A job with a failed block does not finish as successful. -/
def ClientEvent.Honest (past : List ClientEvent) : ClientEvent → Prop
  | .finished id _ renamed err =>
      failedFiles id past ≠ [] → err ≠ none ∧ ∀ file ∈ renamed, file ∉ failedFiles id past
  | _ => True

instance (past : List ClientEvent) : ∀ event : ClientEvent, Decidable (event.Honest past)
  | .finished id _ renamed err =>
      inferInstanceAs (Decidable (failedFiles id past ≠ [] →
        err ≠ none ∧ ∀ file ∈ renamed, file ∉ failedFiles id past))
  | .started _ | .wrote _ _ _ | .sent _ | .overrideFileConfirm _ _ _ _ | .failed _ _ _ =>
      inferInstanceAs (Decidable True)

/-- A job with a failed block is finished only after the peer skipped its only file and while its
file number stands at no failed file with a download. -/
def SkippedAfterFailure (past : List ClientEvent) (client : Client) : ClientStep → Prop
  | .done io id _ =>
      failedFiles id past ≠ [] → ∃ job, getJob id client.writeJobs = some job ∧
        job.files.length = 1 ∧ job.fileSkipped = true ∧
        (job.fileNum ∈ failedFiles id past → ¬ job.Renames client.tree io)
  | _ => True

theorem renamedFile_mem (tree : Tree) (io : Io) (job : TransferJob) (file : Int) :
    file ∈ job.renamedFile tree io ↔ job.Renames tree io ∧ file = job.fileNum := by
  unfold TransferJob.renamedFile TransferJob.Renames
  cases resolved : job.currentPath tree io with
  | none => simp
  | some path =>
      simp only [Option.some.injEq, exists_eq_left']
      split
      next next_ renamed => simp [renamed, eq_comm]
      next fault refused => simp [refused]

theorem jobError_ne_none (job : TransferJob) :
    job.jobError ≠ none ↔ job.files.length = 1 ∧ job.fileSkipped = true := by
  simp [TransferJob.jobError, TransferJob.jobSkipped, and_comm]

theorem handleDone_honest (past : List ClientEvent) (client : Client) (io : Io) (id fileNum : Int) :
    Machine.Judged ClientEvent.Honest past (client.handleDone io id fileNum).2 ↔
      SkippedAfterFailure past client (.done io id fileNum) := by
  simp only [Client.handleDone, SkippedAfterFailure]
  cases found : getJob id client.writeJobs with
  | none => simp [Machine.Judged, ClientEvent.Honest]
  | some job =>
      simp only [Machine.Judged, ClientEvent.Honest, and_true, Option.some.injEq, exists_eq_left']
      refine imp_congr_right fun _ => ?_
      rw [jobError_ne_none, and_assoc]
      refine and_congr_right fun _ => and_congr_right fun _ => ?_
      simp only [renamedFile_mem, and_imp]
      constructor
      · intro kept member renames
        exact kept job.fileNum renames rfl member
      · rintro kept file renames rfl member
        exact kept member renames

/-- Only the end of a job reports a finished job. -/
theorem step_honest (codec : Codec) (past : List ClientEvent) (client : Client) (step : ClientStep) :
    Machine.Judged ClientEvent.Honest past (client.step codec step).2 ↔
      SkippedAfterFailure past client step := by
  have single : ∀ event : ClientEvent, event.Honest past →
      Machine.Judged ClientEvent.Honest past [event] := fun event honest => ⟨honest, trivial⟩
  cases step with
  | done io id fileNum => exact handleDone_honest past client io id fileNum
  | sendFiles | addJob =>
      refine iff_of_true ?_ trivial
      simp only [Client.step, Client.addWrite]
      split
      · exact single _ trivial
      · trivial
  | resumeJob | cancelJob => exact iff_of_true trivial trivial
  | error => exact iff_of_true (single _ trivial) trivial
  | setConfirmOverrideFile =>
      refine iff_of_true ?_ trivial
      simp only [Client.step, Client.setConfirmOverrideFile]
      split
      · trivial
      · exact single _ trivial
  | dir =>
      refine iff_of_true ?_ trivial
      simp only [Client.step, Client.handleDir]
      repeat' split
      all_goals trivial
  | digest =>
      refine iff_of_true ?_ trivial
      simp only [Client.step, Client.handleDigest]
      repeat' split
      all_goals trivial
  | block =>
      refine iff_of_true ?_ trivial
      simp only [Client.step, Client.handleBlock]
      split
      · trivial
      · exact single _ trivial

/-- In a run of the client, no job with a failed block finishes as successful exactly when every
such job is skipped before its end. -/
theorem failedWrites_reported_iff (codec : Codec) (client : Client) (steps : List ClientStep) :
    Machine.Judged ClientEvent.Honest [] ((clientSession codec).run client steps).2 ↔
      (clientSession codec).GuardedAfter SkippedAfterFailure [] client steps :=
  (clientSession codec).run_judged_iff _ _ (step_honest codec) [] client steps

/-- The job receives these blocks of its only file, and the peer reports the end. -/
def failedRun (blocks : List (Io × FileTransferBlock)) : List ClientStep :=
  [.sendFiles 1 .generic "/b".toList 0 false, .dir (Io.clean id 0) false 1 [⟨['x'], 3, 0⟩]] ++
    (blocks.map fun block => .block block.1 block.2) ++ [.done (Io.clean id 0) 1 0]

/-- The disk is full after one byte of the block. -/
def fullDisk : Io := { Io.clean id 0 with writeAll := some (1, .other "No space left on device") }

/-- The download cannot be made. -/
def deniedCreate : Io := { Io.clean id 0 with create := some (.other "Permission denied") }

/-- The write of the second block answers with the fault of the first one. The job finishes without
an error, and the partial file takes its final name. A job whose file cannot be made finishes
without an error too. -/
theorem failedRun_reported_done :
    let client : Client := ⟨[], Tree.ofFiles [[['b']]] [] []⟩
    let full := (clientSession .plain).run client
      (failedRun [(fullDisk, ⟨1, 0, [3, 4], false⟩), (Io.clean id 0, ⟨1, 0, [5], false⟩)])
    let denied := (clientSession .plain).run client
      (failedRun [(deniedCreate, ⟨1, 0, [3, 4], false⟩)])
    ¬ Machine.Judged ClientEvent.Honest [] full.2 ∧
      full.1.tree.fileBytes "/b/x".toList = some [3] ∧
      ¬ Machine.Judged ClientEvent.Honest [] denied.2 := by
  decide +kernel

end SubnetDesk.FileTransfer
