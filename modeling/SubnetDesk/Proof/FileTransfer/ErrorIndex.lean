import SubnetDesk.Proof.FileTransfer.DriverAgreement

namespace SubnetDesk.FileTransfer
open FileTree

/-- A failed digest names its own file, and a failed open or read names the next one. -/
def NamedBy (err : JobError) (fileNum : Int) : Prop :=
  ∀ file, err.file? = some file →
    ((∃ fault, err = .statFile file fault) ∧ fileNum = file) ∨
      (((∃ fault, err = .openFile file fault) ∨ ∃ fault, err = .readFile file fault) ∧
        fileNum = file + 1)

/-- An error of a digest names its file. -/
theorem getCurrentDigest_named {tree : Tree} {io : Io} {job : TransferJob} {err : JobError}
    (refused : job.getCurrentDigest tree io = .error err) : NamedBy err job.fileNum := by
  intro file cause
  unfold TransferJob.getCurrentDigest at refused
  split at refused
  next => cases refused; cases cause
  next => cases refused; cases cause
  next handle present =>
    split at refused
    next fault _ =>
      cases refused
      cases cause
      exact .inl ⟨⟨fault, rfl⟩, rfl⟩
    next => cases refused

/-- An error of a start names its file. -/
theorem initDataStream_named {tree : Tree} {io : Io} {job next : TransferJob} {err : JobError}
    (outcome : InitOutcome tree io job (next, .error err)) : NamedBy err next.fileNum := by
  cases outcome with
  | openFailed _ _ opening =>
      intro file cause
      cases opening with
      | failed base entry fault source current absent refused =>
          cases cause
          exact .inr ⟨.inl ⟨fault, rfl⟩, rfl⟩
  | digestFailed _ _ opening needed refused => exact getCurrentDigest_named refused

/-- An error of a read names its file. -/
theorem read_named {codec : Codec} {tree : Tree} {io : Io} {job next : TransferJob} {err : JobError}
    (outcome : ReadOutcome codec tree io job (next, .error err)) : NamedBy err next.fileNum := by
  intro file cause
  cases outcome with
  | noStream absent => cases cause
  | failed stream fault present refused =>
      cases cause
      exact .inr ⟨.inr ⟨fault, rfl⟩, rfl⟩

theorem initJob_named (tree : Tree) (io : Io) (job : TransferJob) (id fileNum : Int) (err : JobError)
    (sent : .error id err fileNum ∈ (initJob tree io job).2) : NamedBy err fileNum := by
  have outcome := initDataStream_outcome tree io job
  unfold initJob at sent
  split at sent
  next => simp at sent
  next =>
    split at sent
    next next_ messages equal =>
      rw [equal] at outcome
      cases outcome <;> simp at sent
    next next_ failure equal =>
      rw [equal] at outcome
      obtain ⟨_, rfl, rfl⟩ : id = next_.id ∧ err = failure ∧ fileNum = next_.fileNum := by
        simpa using sent
      exact initDataStream_named outcome

theorem readJob_named (codec : Codec) (tree : Tree) (io : Io) (job : TransferJob) (id fileNum : Int)
    (err : JobError) (sent : .error id err fileNum ∈ (readJob codec tree io job).2.1) :
    NamedBy err fileNum := by
  have outcome := read_outcome codec tree io job
  unfold readJob at sent
  split at sent
  next next_ failure equal =>
    rw [equal] at outcome
    obtain ⟨_, rfl, rfl⟩ : id = next_.id ∧ err = failure ∧ fileNum = next_.fileNum := by
      simpa using sent
    exact read_named outcome
  next => simp at sent
  next next_ equal =>
    unfold completion TransferJob.jobError at sent
    intro file cause
    split at sent
    next =>
      split at sent
      next failure skipped =>
        obtain ⟨_, rfl, _⟩ : id = next_.id ∧ err = failure ∧ fileNum = next_.fileNum := by
          simpa using sent
        split at skipped
        · cases skipped
          cases cause
        · cases skipped
      next => simp at sent
    next => simp at sent

/-- The errors of all starts name their files. -/
theorem initJobs_named (tree : Tree) (io : Answers) (jobs : List TransferJob) (id fileNum : Int)
    (err : JobError) (sent : .error id err fileNum ∈ (initJobs tree io jobs).2) :
    NamedBy err fileNum := by
  induction jobs generalizing io with
  | nil => simp [initJobs] at sent
  | cons job rest ih =>
      rcases List.mem_append.mp sent with first | later
      · exact initJob_named tree (io 0) job id fileNum err first
      · exact ih io.tail later

/-- The errors of a tick name their files. -/
theorem handleReadJobs_named (codec : Codec) (tree : Tree) (io : Answers) (jobs : List TransferJob)
    (id fileNum : Int) (err : JobError)
    (sent : .error id err fileNum ∈ (handleReadJobs codec tree io jobs).2) :
    NamedBy err fileNum := by
  rw [handleReadJobs_sent] at sent
  rcases List.mem_append.mp sent with opening | reading
  · exact initJobs_named tree io jobs id fileNum err opening
  · cases found : firstActive io jobs with
    | none => simp [found] at reading
    | some active =>
        rw [found] at reading
        exact readJob_named codec tree active.1 _ id fileNum err reading

theorem readTick_named (codec : Codec) (tree : Tree) (connId : Int) (io : Answers)
    (jobs : List TransferJob) (id fileNum : Int) (err : JobError)
    (sent : .error id err fileNum ∈ (readTick codec tree connId io jobs).2.1.map Data.message) :
    NamedBy err fileNum := by
  induction jobs generalizing io with
  | nil => simp [readTick] at sent
  | cons job rest ih =>
      unfold readTick at sent
      split at sent
      next => exact ih io.tail sent
      next active =>
        have outcome := initDataStream_outcome tree (io 0) job
        obtain ⟨sameJob, sameSent⟩ := initReadJobForCm_message tree (io 0) connId job
        split at sent
        next next_ failure equal =>
          rw [equal] at sameJob sameSent
          have opening : job.initDataStream tree (io 0) = (next_, .error failure) :=
            Prod.ext sameJob.symm sameSent.symm
          rw [opening] at outcome
          rcases List.mem_cons.mp sent with first | later
          · obtain ⟨_, rfl, rfl⟩ : id = next_.id ∧ err = failure ∧ fileNum = next_.fileNum := by
              simpa [Data.message] using first
            exact initDataStream_named outcome
          · exact ih io.tail later
        next next_ opening equal =>
          rw [equal] at sameJob sameSent
          have ready : job.initDataStream tree (io 0) = (next_, .ok (opening.map Data.message)) :=
            Prod.ext sameJob.symm sameSent.symm
          rw [ready] at outcome
          rw [List.map_append] at sent
          rcases List.mem_append.mp sent with first | later
          · generalize opening.map Data.message = messages at outcome first
            cases outcome <;> simp at first
          · rw [(readJobForCm_message codec tree (io 0) connId next_).2.1] at later
            exact readJob_named codec tree (io 0) next_ id fileNum err later

/-- In both drivers, the reported number is the index of the failed file exactly when the failed
operation is its digest. -/
theorem fileError_index_iff_digest (codec : Codec) (tree : Tree) (io : Answers) (connId : Int)
    (jobs : List TransferJob) (id fileNum file : Int) (err : JobError)
    (cause : err.file? = some file)
    (sent : .error id err fileNum ∈ (handleReadJobs codec tree io jobs).2 ∨
      .error id err fileNum ∈ (cmDriver codec connId tree io jobs).2) :
    fileNum = file ↔ ∃ fault, err = .statFile file fault := by
  have named : NamedBy err fileNum := by
    rcases sent with network | manager
    · exact handleReadJobs_named codec tree io jobs id fileNum err network
    · exact readTick_named codec tree connId io jobs id fileNum err manager
  rcases named file cause with ⟨digest, rfl⟩ | ⟨other, rfl⟩
  · exact ⟨fun _ => digest, fun _ => rfl⟩
  · constructor
    · intro same
      omega
    · rintro ⟨fault, rfl⟩
      rcases other with ⟨_, impossible⟩ | ⟨_, impossible⟩ <;> cases impossible

def diskFault : Fault := .other "Input/output error (os error 5)"

theorem fileError_index_iff_digest_pairJob :
    .error 1 (.statFile 0 diskFault) 0 ∈ (handleReadJobs .plain pairTree
        (fun _ => { Io.clean id 0 with stat := some diskFault }) [pairJob 1 true]).2 ∧
      ((0 : Int) = 0 ↔ ∃ fault, JobError.statFile 0 diskFault = .statFile 0 fault) := by
  have sent : .error 1 (.statFile 0 diskFault) 0 ∈ (handleReadJobs .plain pairTree
      (fun _ => { Io.clean id 0 with stat := some diskFault }) [pairJob 1 true]).2 := by
    decide +kernel
  exact ⟨sent, fileError_index_iff_digest .plain pairTree _ 7 [pairJob 1 true] 1 0 0 _ rfl
    (.inl sent)⟩

/-- Both drivers report the unreadable first file with the number of the second one. -/
theorem fileError_index_advanced :
    let refused : Answers := fun _ => { Io.clean id 0 with openFile := some diskFault }
    let broken : Answers := fun _ => { Io.clean id 0 with readFault := fun _ => some diskFault }
    .error 1 (.openFile 0 diskFault) 1 ∈
        (handleReadJobs .plain pairTree refused [pairJob 1 false]).2 ∧
      .error 1 (.openFile 0 diskFault) 1 ∈
        (cmDriver .plain 7 pairTree refused [pairJob 1 false]).2 ∧
      .error 1 (.readFile 0 diskFault) 1 ∈
        (handleReadJobs .plain pairTree broken [pairJob 1 false]).2 ∧
      .error 1 (.readFile 0 diskFault) 1 ∈
        (cmDriver .plain 7 pairTree broken [pairJob 1 false]).2 := by
  decide +kernel

end SubnetDesk.FileTransfer
