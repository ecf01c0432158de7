import SubnetDesk.Proof.FileTransfer.ReadProgress

namespace SubnetDesk.FileTransfer
open FileTree

/-- The job sends its end only after it passed its whole list and settled every file. -/
def DoneMeansSettled (past : List ReadEvent) : Prop :=
  ∀ id fileNum, .sent (.done id fileNum) ∈ past →
    ∃ job, .pushed job ∈ past ∧ job.id = id ∧ (job.files.length : Int) ≤ fileNum ∧
      ∀ file, job.fileNum ≤ file → file < job.files.length → Settled past id file

/-- The current file is not open yet and cannot be opened. -/
def TransferJob.FailsOpen (tree : Tree) (io : Io) (job : TransferJob) : Prop :=
  ∃ base entry fault, job.dataSource = .filePath base ∧ job.currentEntry = some entry ∧
    job.dataStream = none ∧
    orFault io.openFile (tree.openRead (join base entry.name)) = .error fault

/-- The digest of the current file is needed and cannot be taken. -/
def TransferJob.FailsDigest (tree : Tree) (io : Io) (job : TransferJob) : Prop :=
  io.stat ≠ none ∧ job.currentEntry ≠ none ∧ ¬ job.FailsOpen tree io ∧
    (job.dataStream = none ∨ (job.fileConfirmed = false ∧ job.fileIsWaiting = false))

/-- With overwrite detection, only the last file may fail to start. -/
def TransferJob.StartsCleanly (tree : Tree) (io : Io) (job : TransferJob) : Prop :=
  job.type = .generic → job.enableOverwriteDetection = true →
    (job.FailsOpen tree io → (job.files.length : Int) ≤ job.fileNum + 1) ∧
      ¬ job.FailsDigest tree io

/-- Jobs start at a file number of their list, and the job that a tick reads starts cleanly. -/
def CleanStart (jobs : List TransferJob) : ReadStep → Prop
  | .push _ _ _ fileNum _ _ _ => 0 ≤ fileNum
  | .tick tree io => ∀ answers job, firstActive io jobs = some (answers, job) →
      job.StartsCleanly tree answers
  | _ => True

/-- A digest of an open file fails only by a fault of its metadata. -/
theorem digest_fault {tree : Tree} {io : Io} {job : TransferJob} {file : Handle} {err : JobError}
    (present : job.dataStream = some (.fileStream file))
    (refused : job.getCurrentDigest tree io = .error err) : io.stat ≠ none := by
  intro quiet
  simp [TransferJob.getCurrentDigest, present, quiet] at refused

/-- A started job that neither waits nor is confirmed has passed its list. -/
theorem started_past {tree : Tree} {io : Io} {job next : TransferJob}
    {result : Except JobError (List Message)} (outcome : InitOutcome tree io job (next, result))
    (start : 0 ≤ job.fileNum) (sourced : job.Sourced) (clean : job.StartsCleanly tree io)
    (generic : next.type = .generic) (detection : next.enableOverwriteDetection = true)
    (unconfirmed : next.fileConfirmed = false) (idle : next.fileIsWaiting = false) :
    (next.files.length : Int) ≤ next.fileNum := by
  cases outcome with
  | openFailed _ _ opening =>
      cases opening with
      | failed base entry fault source current absent refused =>
          exact (clean generic detection).1 ⟨base, entry, fault, source, current, absent, refused⟩
  | finished _ opening =>
      cases opening with
      | finished base source past => exact length_le_of_currentEntry start past
  | digestFailed _ err opening needed refused =>
      cases opening with
      | keptFile base entry stream source current present =>
          cases stream with
          | bufStream cursor => exact absurd present (sourced.fileStream base cursor source)
          | fileStream file =>
              refine absurd ⟨digest_fault present refused, ?_, ?_, .inr ⟨unconfirmed, idle⟩⟩
                (clean generic detection).2
              · rw [current]
                exact Option.some_ne_none entry
              · rintro ⟨_, _, _, _, _, absent, _⟩
                rw [present] at absent
                cases absent
      | opened base entry file source current absent found =>
          refine absurd ⟨digest_fault rfl refused, ?_, ?_, .inl absent⟩ (clean generic detection).2
          · rw [current]
            exact Option.some_ne_none entry
          · rintro ⟨otherBase, otherEntry, fault, otherSource, otherCurrent, _, failed⟩
            rw [source] at otherSource
            rw [current] at otherCurrent
            cases otherSource
            cases otherCurrent
            cases found.symm.trans failed
      | keptCursor cursor stream source present =>
          rw [sourced.noFiles cursor source]
          exact start
      | openedCursor cursor source absent =>
          change (job.files.length : Int) ≤ job.fileNum
          rw [sourced.noFiles cursor source]
          exact start
  | asked next_ lastModified fileSize opening needed taken => cases idle
  | ready _ opening needless =>
      simp [TransferJob.needsDigest, generic, detection, unconfirmed, idle] at needless

/-- Starting a job never sends its end. -/
theorem initJobs_no_done (tree : Tree) (io : Answers) (jobs : List TransferJob) (id fileNum : Int) :
    .done id fileNum ∉ (initJobs tree io jobs).2 := by
  induction jobs generalizing io with
  | nil => simp [initJobs]
  | cons job rest ih =>
      have first : .done id fileNum ∉ (initJob tree (io 0) job).2 := by
        have outcome := initDataStream_outcome tree (io 0) job
        unfold initJob
        split
        next => simp
        next =>
          split
          next next_ sent equal =>
            rw [equal] at outcome
            cases outcome <;> simp
          next => simp
      simp only [initJobs, List.mem_append, not_or]
      exact ⟨first, ih io.tail⟩

/-- The end of a job names the job and its own file number. -/
theorem readJob_done (codec : Codec) (tree : Tree) (io : Io) (job : TransferJob) (id fileNum : Int)
    (sent : .done id fileNum ∈ (readJob codec tree io job).2.1) :
    ∃ next, job.read codec tree io = (next, .ok none) ∧ next.jobCompleted = true ∧
      next.id = id ∧ next.fileNum = fileNum := by
  unfold readJob at sent
  split at sent
  next => simp at sent
  next => simp at sent
  next next_ equal =>
    unfold completion at sent
    split at sent
    next completed =>
      split at sent
      next => simp at sent
      next =>
        obtain ⟨rfl, rfl⟩ : id = next_.id ∧ fileNum = next_.fileNum := by simpa using sent
        exact ⟨next_, equal, completed, rfl, rfl⟩
    next => simp at sent

/-- A job that starts cleanly sends its end only past its list. -/
theorem readJob_done_past (codec : Codec) (tree : Tree) (io : Io) (job : TransferJob)
    (active : job.isLastJob = false) (start : 0 ≤ job.fileNum) (sourced : job.Sourced)
    (clean : job.StartsCleanly tree io) (id fileNum : Int)
    (sent : .done id fileNum ∈ (readJob codec tree io (initJob tree io job).1).2.1) :
    id = job.id ∧ (readJob codec tree io (initJob tree io job).1).1.fileNum = fileNum ∧
      (job.files.length : Int) ≤ fileNum := by
  obtain ⟨next, read, completed, rfl, rfl⟩ := readJob_done codec tree io _ id fileNum sent
  have started := initJob_progress tree io job
  have final : (readJob codec tree io (initJob tree io job).1).1 = next := by simp [readJob, read]
  have moved := readJob_progress codec tree io (initJob tree io job).1
  rw [final] at moved
  refine ⟨moved.id.trans started.id, by rw [final], ?_⟩
  have outcome := read_outcome codec tree io (initJob tree io job).1
  rw [read] at outcome
  have opening : ∃ result, InitOutcome tree io job ((initJob tree io job).1, result) := by
    refine ⟨(job.initDataStream tree io).2, ?_⟩
    have same : (initJob tree io job).1 = (job.initDataStream tree io).1 := by
      unfold initJob
      rw [active]
      cases equal : job.initDataStream tree io with
      | mk next_ result => cases result <;> rfl
    rw [same]
    exact initDataStream_outcome tree io job
  obtain ⟨result, opening⟩ := opening
  rw [← started.files]
  cases outcome with
  | unconfirmed generic detection unconfirmed =>
      have idle : (initJob tree io job).1.fileIsWaiting = false := by
        simpa [TransferJob.jobCompleted, detection, unconfirmed] using completed
      exact started_past opening start sourced clean generic detection unconfirmed idle
  | past base source none_ =>
      exact length_le_of_currentEntry (start.trans started.forward) none_
  | cursorEnd cursor source =>
      rw [(started.sourced sourced).noFiles cursor source]
      exact start.trans started.forward

theorem firstActive_mem {io : Answers} {jobs : List TransferJob} {answers : Io} {job : TransferJob}
    (found : firstActive io jobs = some (answers, job)) : job ∈ jobs ∧ job.isLastJob = false := by
  induction jobs generalizing io with
  | nil => cases found
  | cons head rest ih =>
      unfold firstActive at found
      split at found
      next =>
        obtain ⟨member, active⟩ := ih found
        exact ⟨List.mem_cons_of_mem _ member, active⟩
      next active =>
        obtain ⟨_, rfl⟩ := Prod.mk.inj (Option.some.inj found)
        exact ⟨by simp, Bool.eq_false_iff.mpr active⟩

/-- Every job of the list descends from a pushed job, and no end was sent too early. -/
structure ReadInvariant (jobs : List TransferJob) (past : List ReadEvent) : Prop where
  tracked : ∀ job ∈ jobs, ∃ origin, .pushed origin ∈ past ∧ 0 ≤ origin.fileNum ∧
    Progress origin job past
  sourced : ∀ job ∈ jobs, job.Sourced
  done : DoneMeansSettled past

/-- A step keeps the invariant when it moves every job with progress and ends only jobs that
passed their list. -/
theorem ReadInvariant.advance {jobs next : List TransferJob} {past events : List ReadEvent}
    (holds : ReadInvariant jobs past)
    (moves : ∀ job ∈ next, ∃ origin ∈ jobs, Progress origin job events)
    (ends : ∀ id fileNum, .sent (.done id fileNum) ∈ events → ∃ job ∈ jobs, ∃ final,
      Progress job final events ∧ job.id = id ∧ final.fileNum = fileNum ∧
        (job.files.length : Int) ≤ fileNum) :
    ReadInvariant next (past ++ events) where
  tracked := by
    intro job member
    obtain ⟨before, known, after⟩ := moves job member
    obtain ⟨origin, pushed, start, progress⟩ := holds.tracked before known
    exact ⟨origin, by simp [pushed], start, progress.trans after⟩
  sourced := by
    intro job member
    obtain ⟨before, known, after⟩ := moves job member
    exact after.sourced (holds.sourced before known)
  done := by
    intro id fileNum sent
    rcases List.mem_append.mp sent with old | fresh
    · obtain ⟨job, pushed, same, past_, settled⟩ := holds.done id fileNum old
      exact ⟨job, by simp [pushed], same, past_, fun file lower upper =>
        (settled file lower upper).mono (List.subset_append_left _ _)⟩
    · obtain ⟨job, known, final, after, rfl, rfl, past_⟩ := ends id fileNum fresh
      obtain ⟨origin, pushed, start, before⟩ := holds.tracked job known
      have whole := before.trans after
      refine ⟨origin, by simp [pushed], before.id.symm, before.files ▸ past_, ?_⟩
      intro file lower upper
      rw [before.id]
      exact whole.settled file lower (by rw [before.files] at past_; omega)

/-- The start of the job that is read is part of the tick. -/
theorem firstActive_sent (tree : Tree) (io : Answers) (jobs : List TransferJob) (answers : Io)
    (job : TransferJob) (found : firstActive io jobs = some (answers, job)) :
    (initJob tree answers job).2 ⊆ (initJobs tree io jobs).2 := by
  induction jobs generalizing io with
  | nil => cases found
  | cons head rest ih =>
      unfold firstActive at found
      simp only [initJobs]
      split at found
      next => exact List.Subset.trans (ih io.tail found) (List.subset_append_right _ _)
      next =>
        obtain ⟨rfl, rfl⟩ := Prod.mk.inj (Option.some.inj found)
        exact List.subset_append_left _ _

/-- A tick that starts its job cleanly keeps the invariant. -/
theorem ReadInvariant.tick (codec : Codec) {tree : Tree} {io : Answers} {jobs : List TransferJob}
    {past : List ReadEvent} (holds : ReadInvariant jobs past)
    (clean : CleanStart jobs (.tick tree io)) :
    ReadInvariant (handleReadJobs codec tree io jobs).1
      (past ++ (handleReadJobs codec tree io jobs).2.map .sent) := by
  refine holds.advance (handleReadJobs_progress codec tree io jobs) ?_
  intro id fileNum sent
  obtain ⟨message, member, same⟩ := List.mem_map.mp sent
  cases same
  rw [handleReadJobs_sent] at member ⊢
  rcases List.mem_append.mp member with opening | reading
  · exact absurd opening (initJobs_no_done tree io jobs id fileNum)
  · cases found : firstActive io jobs with
    | none => simp [found] at reading
    | some active =>
        obtain ⟨answers, job⟩ := active
        rw [found] at reading
        obtain ⟨known, running⟩ := firstActive_mem found
        obtain ⟨origin, pushed, start, progress⟩ := holds.tracked job known
        obtain ⟨same, final, past_⟩ := readJob_done_past codec tree answers job running
          (start.trans progress.forward) (holds.sourced job known) (clean answers job found)
          id fileNum reading
        refine ⟨job, known, (readJob codec tree answers (initJob tree answers job).1).1, ?_,
          same.symm, final, past_⟩
        have whole := (initJob_progress tree answers job).trans
          (readJob_progress codec tree answers (initJob tree answers job).1)
        refine whole.mono ?_
        rw [List.map_append]
        exact List.append_subset.mpr
          ⟨List.Subset.trans (List.map_subset _ (firstActive_sent tree io jobs answers job found))
            (List.subset_append_left _ _), List.subset_append_right _ _⟩

/-- A skip ends no job. -/
theorem skippedBy_no_done (request : FileTransferSendConfirmRequest) (jobs : List TransferJob)
    (id fileNum : Int) : .sent (.done id fileNum) ∉ skippedBy request jobs := by
  unfold skippedBy
  repeat' split
  all_goals simp

/-- A resumed job only changes its flags and its counter. -/
theorem resume_progress (job : TransferJob) (events : List ReadEvent) :
    Progress job job.resume events := by
  unfold TransferJob.resume
  split
  next =>
    unfold TransferJob.setFinishedSizeOnResume
    split <;> exact .still rfl rfl rfl fun holds => holds.congr rfl rfl fun _ present => ⟨_, present⟩
  next => exact .still rfl rfl rfl id

/-- An update with progress keeps the invariant. -/
theorem ReadInvariant.update {jobs : List TransferJob} {past events : List ReadEvent}
    (holds : ReadInvariant jobs past) (id : Int) (update : TransferJob → TransferJob)
    (moves : ∀ job, getJob id jobs = some job → Progress job (update job) events)
    (silent : ∀ id fileNum, .sent (.done id fileNum) ∉ events) :
    ReadInvariant (updateJob id update jobs) (past ++ events) := by
  refine holds.advance ?_ fun id fileNum sent => absurd sent (silent id fileNum)
  intro next member
  rcases mem_updateJob id update jobs next member with kept | ⟨job, found, known, rfl⟩
  · exact ⟨next, kept, .still rfl rfl rfl fun holds => holds⟩
  · exact ⟨job, known, moves job found⟩

/-- A new job has its source. -/
theorem newRead_sourced (id : Int) (type : JobType) (dataSource : DataSource) (fileNum : Int)
    (listed : List FileEntry) (detection waiting : Bool) :
    { TransferJob.newRead id type dataSource fileNum listed detection with
      isLastJob := waiting : TransferJob }.Sourced := by
  cases dataSource with
  | filePath base =>
      constructor
      · intro _ _ _ absent
        cases absent
      · intro _ memory
        cases memory
  | memoryCursor cursor =>
      constructor
      · intro _ _ path
        cases path
      · intro _ _
        rfl

theorem newRead_fileNum (id : Int) (type : JobType) (dataSource : DataSource) (fileNum : Int)
    (listed : List FileEntry) (detection : Bool) :
    (TransferJob.newRead id type dataSource fileNum listed detection).fileNum = fileNum := by
  cases dataSource <;> rfl

/-- One clean step keeps the invariant. -/
theorem sessionStep_invariant (codec : Codec) (jobs : List TransferJob) (past : List ReadEvent)
    (step : ReadStep) (clean : CleanStart jobs step) (holds : ReadInvariant jobs past) :
    ReadInvariant (sessionStep (handleReadJobs codec) jobs step).1
      (past ++ (sessionStep (handleReadJobs codec) jobs step).2) := by
  cases step with
  | push id type dataSource fileNum listed detection waiting =>
      refine ⟨?_, ?_, ?_⟩
      · intro job member
        rcases List.mem_append.mp member with old | new
        · obtain ⟨origin, pushed, start, progress⟩ := holds.tracked job old
          exact ⟨origin, by simp [pushed], start, progress.mono (List.subset_append_left _ _)⟩
        · obtain rfl := List.mem_singleton.mp new
          refine ⟨_, List.mem_append.mpr (.inr (List.mem_singleton.mpr rfl)), ?_,
            .still rfl rfl rfl fun holds => holds⟩
          exact (newRead_fileNum id type dataSource fileNum listed detection).symm ▸ clean
      · intro job member
        rcases List.mem_append.mp member with old | new
        · exact holds.sourced job old
        · obtain rfl := List.mem_singleton.mp new
          exact newRead_sourced id type dataSource fileNum listed detection waiting
      · exact (holds.advance (fun job known => ⟨job, known, .still rfl rfl rfl fun holds => holds⟩)
          fun id fileNum sent => by simp [sessionStep] at sent).done
  | cancel id =>
      refine holds.advance ?_ fun id fileNum sent => by simp [sessionStep] at sent
      intro job member
      exact ⟨job, List.mem_of_mem_eraseP member, .still rfl rfl rfl fun holds => holds⟩
  | resume id =>
      exact holds.update id _ (fun job _ => resume_progress job _) fun _ _ sent => by cases sent
  | overwriteStrategy id strategy =>
      refine holds.update id _ (fun job _ => ?_) fun _ _ sent => by cases sent
      exact .still rfl rfl rfl fun holds => holds.congr rfl rfl fun _ present => ⟨_, present⟩
  | confirm tree io request =>
      refine holds.update request.id _ (fun job found => ?_) (skippedBy_no_done request jobs)
      refine confirm_progress tree io request job _ fun current skip => ?_
      simp [sessionStep, skippedBy, found, current, skip]
  | tick tree io => exact holds.tick codec clean

/-- In every run whose ticks start their job cleanly, the end of a job is sent only after every
file of its list was sent, skipped, or reported. -/
theorem handleReadJobs_done_settled (codec : Codec) (steps : List ReadStep)
    (clean : (readSession codec).Guarded CleanStart [] steps) :
    DoneMeansSettled ((readSession codec).run [] steps).2 := by
  have empty : ReadInvariant [] [] := ⟨by simp, by simp, by simp [DoneMeansSettled]⟩
  have final := (readSession codec).run_invariant CleanStart ReadInvariant
    (fun jobs past step => sessionStep_invariant codec jobs past step) [] [] steps empty clean
  simpa using final.done

/-- The base directory holds the second listed file only. -/
def missingFirst : Tree := Tree.ofFiles [[['b']]] [] [([['b'], ['y']], [1, 2])]

/-- The first file is confirmed and read to its end, the last one cannot be opened. -/
def confirmedRun : List ReadStep :=
  let tick := ReadStep.tick missingFirst fun _ => Io.clean id 0
  [.push 1 .generic (.filePath "/b".toList) 0 [⟨['y'], 2, 0⟩, ⟨['x'], 3, 0⟩] true false, tick,
    .confirm missingFirst (Io.clean id 0) ⟨1, 0, some (.offsetBlk 0)⟩, tick, tick, tick]

/-- A job starts cleanly at its last file, with an open file, and at a file that is present. -/
theorem startsCleanly_missingFirst (job : TransferJob)
    (started : (job.files.length : Int) ≤ job.fileNum + 1 ∨ job.dataStream.isSome = true ∨
      (job.dataSource = .filePath "/b".toList ∧ job.currentEntry = some ⟨['y'], 2, 0⟩)) :
    job.StartsCleanly missingFirst (Io.clean id 0) := by
  intro _ _
  refine ⟨fun failing => ?_, fun failed => failed.1 rfl⟩
  obtain ⟨base, entry, fault, source, current, absent, refused⟩ := failing
  obtain last | present | ⟨folder, first⟩ := started
  · exact last
  · rw [absent] at present
    cases present
  · cases folder.symm.trans source
    cases first.symm.trans current
    have opened : (orFault (Io.clean id 0).openFile
        (missingFirst.openRead (join "/b".toList ['y']))).toOption.isSome = true := by
      decide +kernel
    rw [refused] at opened
    cases opened

theorem handleReadJobs_done_settled_confirmedRun :
    (readSession .plain).Guarded CleanStart [] confirmedRun ∧
      .sent (.error 1 (.openFile 1 .notFound) 2) ∈ ((readSession .plain).run [] confirmedRun).2 ∧
      .sent (.done 1 2) ∈ ((readSession .plain).run [] confirmedRun).2 ∧
      DoneMeansSettled ((readSession .plain).run [] confirmedRun).2 := by
  have clean : (readSession .plain).Guarded CleanStart [] confirmedRun := by
    refine ⟨Int.le_refl 0, ?_, trivial, ?_, ?_, ?_, trivial⟩
    all_goals
      intro answers job found
      obtain ⟨rfl, rfl⟩ := Prod.mk.inj (Option.some.inj found)
      exact startsCleanly_missingFirst _ (by decide +kernel)
  exact ⟨clean, by decide +kernel, by decide +kernel,
    handleReadJobs_done_settled .plain confirmedRun clean⟩

def missingRun : List ReadStep :=
  [.push 1 .generic (.filePath "/b".toList) 0 [⟨['x'], 2, 0⟩, ⟨['y'], 2, 0⟩] true false,
    .tick missingFirst fun _ => Io.clean id 0]

/-- The first file is missing, so the job ends before its second file was offered. -/
theorem handleReadJobs_done_early :
    ¬ DoneMeansSettled ((readSession .plain).run [] missingRun).2 := by
  have trace : ((readSession .plain).run [] missingRun).2 =
      [.pushed (TransferJob.newRead 1 .generic (.filePath "/b".toList) 0
        [⟨['x'], 2, 0⟩, ⟨['y'], 2, 0⟩] true),
        .sent (.error 1 (.openFile 0 .notFound) 1), .sent (.done 1 1)] := by decide +kernel
  rw [trace]
  intro settled
  obtain ⟨job, pushed, _, past, _⟩ := settled 1 1 (by simp)
  obtain rfl : job = _ := by simpa using pushed
  exact absurd past (by decide)

end SubnetDesk.FileTransfer
