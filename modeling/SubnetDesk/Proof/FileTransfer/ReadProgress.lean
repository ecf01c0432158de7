import SubnetDesk.Construction.FileTransfer.Read
import SubnetDesk.Construction.FileTransfer.ReadSession
import SubnetDesk.Proof.FileTransfer.ReadOutcomes

namespace SubnetDesk.FileTransfer
open FileTree

/-- These bytes are still ahead of the stream. -/
def DataStream.rest (tree : Tree) : DataStream → Bytes
  | .fileStream file => (file.inode.elim [] tree.data).drop file.pos
  | .bufStream cursor => cursor.bytes.drop cursor.pos

/-- A stream reads the same file or the same cursor after a read. -/
def DataStream.SameSource : DataStream → DataStream → Prop
  | .fileStream first, .fileStream second =>
      second.inode = first.inode ∧ second.readable = first.readable ∧
        second.writable = first.writable
  | .bufStream _, .bufStream _ => True
  | _, _ => False

theorem DataStream.SameSource.trans {first second third : DataStream}
    (before : first.SameSource second) (after : second.SameSource third) :
    first.SameSource third := by
  cases first <;> cases second <;> cases third <;> simp_all [SameSource]

/-- A chunk is a prefix of the remaining bytes that is empty only at their end. -/
theorem chunk_spec (bytes : Bytes) (room size : Nat) :
    let chunk := bytes.take (min room (size + 1))
    chunk ++ bytes.drop chunk.length = bytes ∧ chunk.length ≤ room ∧
      (chunk.length = 0 → 0 < room → bytes = []) := by
  refine ⟨List.prefix_iff_eq_append.mp (List.take_prefix _ _), ?_, ?_⟩
  · simp only [List.length_take]
    omega
  · intro empty positive
    have : bytes.length = 0 := by
      simp only [List.length_take] at empty
      omega
    exact List.length_eq_zero_iff.mp this

/-- One read takes a prefix of the remaining bytes. -/
theorem DataStream.read_spec (tree : Tree) (io : Io) (call room : Nat) (stream next : DataStream)
    (chunk : Bytes) (result : stream.read tree io call room = .ok (chunk, next)) :
    chunk ++ next.rest tree = stream.rest tree ∧ chunk.length ≤ room ∧
      (chunk.length = 0 → 0 < room → next.rest tree = []) ∧ stream.SameSource next := by
  cases stream with
  | fileStream file =>
      rcases file with ⟨inode, pos, readable, writable⟩
      rcases faulty : io.readFault call with _ | fault
      · rcases readable with _ | _
        · simp [DataStream.read, faulty] at result
        · rcases inode with _ | inode
          · simp [DataStream.read, faulty] at result
          · obtain ⟨whole, sizes, stops⟩ := chunk_spec ((tree.data inode).drop pos) room (io.readSize call)
            simp only [DataStream.read, faulty, Except.ok.injEq, Prod.mk.injEq] at result
            obtain ⟨rfl, rfl⟩ := result
            refine ⟨?_, sizes, ?_, by simp [SameSource]⟩
            · simpa only [DataStream.rest, Option.elim, ← List.drop_drop] using whole
            · intro empty positive
              simp only [DataStream.rest, Option.elim, ← List.drop_drop, stops empty positive,
                List.drop_nil]
      · simp [DataStream.read, faulty] at result
  | bufStream cursor =>
      obtain ⟨whole, sizes, stops⟩ := chunk_spec (cursor.bytes.drop cursor.pos) room (io.readSize call)
      simp only [DataStream.read, Except.ok.injEq, Prod.mk.injEq] at result
      obtain ⟨rfl, rfl⟩ := result
      refine ⟨?_, sizes, ?_, trivial⟩
      · simpa only [DataStream.rest, ← List.drop_drop] using whole
      · intro empty positive
        simp only [DataStream.rest, ← List.drop_drop, stops empty positive, List.drop_nil]

/-- The filled buffer is a prefix of the remaining bytes that stops only at the end of the
stream or at the buffer size. -/
theorem fillBuffer_spec (tree : Tree) (io : Io) (fuel call : Nat) (stream next : DataStream)
    (buffer filled : Bytes) (room : buffer.length < bufSize) (enough : bufSize ≤ buffer.length + fuel)
    (result : fillBuffer tree io fuel call stream buffer = .ok (next, filled)) :
    ∃ taken, filled = buffer ++ taken ∧ taken ++ next.rest tree = stream.rest tree ∧
      (filled.length = bufSize ∨ next.rest tree = []) ∧ stream.SameSource next := by
  induction fuel generalizing call stream buffer with
  | zero => omega
  | succ fuel ih =>
      unfold fillBuffer at result
      split at result
      · cases result
      · next chunk middle read =>
        obtain ⟨whole, sizes, stops, source⟩ := stream.read_spec tree io call _ middle chunk read
        split at result
        · next ended =>
          obtain ⟨rfl, rfl⟩ := Prod.mk.inj (Except.ok.inj result)
          refine ⟨chunk, rfl, whole, ?_, source⟩
          rcases ended with empty | full
          · exact .inr (stops empty (by omega))
          · exact .inl full
        · next unfinished =>
          have grown : (buffer ++ chunk).length = buffer.length + chunk.length := List.length_append
          obtain ⟨taken, rfl, remaining, stopped, tail⟩ :=
            ih (call + 1) middle (buffer ++ chunk) (by omega) (by omega) result
          refine ⟨chunk ++ taken, by rw [List.append_assoc], ?_, stopped, source.trans tail⟩
          rw [List.append_assoc, remaining, whole]

/-- A readable file without read faults always fills the buffer. -/
theorem fillBuffer_ok (tree : Tree) (io : Io) (fuel call : Nat) (file : Handle) (buffer : Bytes)
    (inode : Nat) (quiet : ∀ call, io.readFault call = none) (present : file.inode = some inode)
    (readable : file.readable = true) :
    ∃ result, fillBuffer tree io fuel call (.fileStream file) buffer = .ok result := by
  induction fuel generalizing call file buffer with
  | zero => exact ⟨_, rfl⟩
  | succ fuel ih =>
      have read : DataStream.read tree io call (bufSize - buffer.length) (.fileStream file) =
          .ok (((tree.data inode).drop file.pos).take
              (min (bufSize - buffer.length) (io.readSize call + 1)),
            .fileStream { file with pos := file.pos + (((tree.data inode).drop file.pos).take
              (min (bufSize - buffer.length) (io.readSize call + 1))).length }) := by
        simp [DataStream.read, quiet call, present, readable]
      simp only [fillBuffer, read]
      split
      · exact ⟨_, rfl⟩
      · exact ih _ { file with pos := _ } _ present readable

/-- A file is settled when it was sent to its end, skipped by the peer, or reported as failed. -/
def Settled (events : List ReadEvent) (id file : Int) : Prop :=
  .sent (.block ⟨id, file, [], false⟩) ∈ events ∨ .skipped id file ∈ events ∨
    ∃ err fileNum, .sent (.error id err fileNum) ∈ events ∧ err.file? = some file

theorem Settled.mono {first second : List ReadEvent} {id file : Int} (settled : Settled first id file)
    (within : first ⊆ second) : Settled second id file := by
  rcases settled with ended | skipped | ⟨err, fileNum, sent, cause⟩
  · exact .inl (within ended)
  · exact .inr (.inl (within skipped))
  · exact .inr (.inr ⟨err, fileNum, within sent, cause⟩)

/-- A path job streams a file, and a cursor job lists no files. -/
structure TransferJob.Sourced (job : TransferJob) : Prop where
  fileStream : ∀ base cursor, job.dataSource = .filePath base →
    job.dataStream ≠ some (.bufStream cursor)
  noFiles : ∀ cursor, job.dataSource = .memoryCursor cursor → job.files = []

/-- A step moves a job forward only over files that its events settle. -/
structure Progress (job next : TransferJob) (events : List ReadEvent) : Prop where
  id : next.id = job.id
  files : next.files = job.files
  forward : job.fileNum ≤ next.fileNum
  settled : ∀ file, job.fileNum ≤ file → file < next.fileNum → Settled events job.id file
  sourced : job.Sourced → next.Sourced

/-- Two stretches are one. -/
theorem Progress.trans {job middle next : TransferJob} {first second : List ReadEvent}
    (before : Progress job middle first) (after : Progress middle next second) :
    Progress job next (first ++ second) where
  id := after.id.trans before.id
  files := after.files.trans before.files
  forward := before.forward.trans after.forward
  settled := by
    intro file lower upper
    by_cases early : file < middle.fileNum
    · exact (before.settled file lower early).mono (List.subset_append_left _ _)
    · have late := after.settled file (by omega) upper
      rw [before.id] at late
      exact late.mono (List.subset_append_right _ _)
  sourced := fun holds => after.sourced (before.sourced holds)

theorem Progress.mono {job next : TransferJob} {first second : List ReadEvent}
    (progress : Progress job next first) (within : first ⊆ second) : Progress job next second where
  id := progress.id
  files := progress.files
  forward := progress.forward
  settled := fun file lower upper => (progress.settled file lower upper).mono within
  sourced := progress.sourced

/-- A step that keeps the file number settles nothing. -/
theorem Progress.still {job next : TransferJob} {events : List ReadEvent} (id : next.id = job.id)
    (files : next.files = job.files) (same : next.fileNum = job.fileNum)
    (sourced : job.Sourced → next.Sourced) : Progress job next events where
  id := id
  files := files
  forward := le_of_eq same.symm
  settled := fun file lower upper => by omega
  sourced := sourced

/-- A step that leaves the current file settles exactly that file. -/
theorem Progress.leave {job next : TransferJob} {events : List ReadEvent} (id : next.id = job.id)
    (files : next.files = job.files) (moved : next.fileNum = job.fileNum + 1)
    (settles : Settled events job.id job.fileNum) (sourced : job.Sourced → next.Sourced) :
    Progress job next events where
  id := id
  files := files
  forward := by omega
  settled := by
    intro file lower upper
    have same : file = job.fileNum := by omega
    rwa [same]
  sourced := sourced

/-- Sourcing reads only the data source, the stream, and the list. -/
theorem TransferJob.Sourced.congr {job next : TransferJob} (holds : job.Sourced)
    (source : next.dataSource = job.dataSource) (files : next.files = job.files)
    (stream : ∀ cursor, next.dataStream = some (.bufStream cursor) →
      ∃ old, job.dataStream = some (.bufStream old)) : next.Sourced where
  fileStream := by
    intro base cursor path present
    rw [source] at path
    obtain ⟨old, kept⟩ := stream cursor present
    exact holds.fileStream base old path kept
  noFiles := by
    intro cursor memory
    rw [source] at memory
    rw [files]
    exact holds.noFiles cursor memory

/-- A fault of the open settles the file that it leaves. -/
theorem OpenOutcome.progress {tree : Tree} {io : Io} {job next : TransferJob}
    {result : Except JobError Bool} (outcome : OpenOutcome tree io job (next, result))
    (events : List ReadEvent)
    (reported : ∀ err, result = .error err → ∃ fileNum, .sent (.error job.id err fileNum) ∈ events) :
    Progress job next events := by
  cases outcome with
  | finished base source past =>
      exact .still rfl rfl rfl fun holds => holds.congr rfl rfl fun _ absent => by cases absent
  | keptFile base entry stream source current present => exact .still rfl rfl rfl id
  | opened base entry file source current absent found =>
      exact .still rfl rfl rfl fun holds => holds.congr rfl rfl fun _ other => by cases other
  | failed base entry fault source current absent refused =>
      obtain ⟨fileNum, member⟩ := reported _ rfl
      exact .leave rfl rfl rfl (.inr (.inr ⟨_, fileNum, member, rfl⟩)) fun holds =>
        holds.congr rfl rfl fun _ present => ⟨_, present⟩
  | keptCursor cursor stream source present => exact .still rfl rfl rfl id
  | openedCursor cursor source absent =>
      refine .still rfl rfl rfl fun holds => ⟨?_, ?_⟩
      · intro base other path
        cases path
      · intro other memory
        exact holds.noFiles cursor source

/-- A start makes progress. -/
theorem initJob_progress (tree : Tree) (io : Io) (job : TransferJob) :
    Progress job (initJob tree io job).1 ((initJob tree io job).2.map .sent) := by
  have outcome := initDataStream_outcome tree io job
  unfold initJob
  split
  next => exact .still rfl rfl rfl id
  next =>
    split
    next next_ sent equal =>
      rw [equal] at outcome
      cases outcome with
      | finished _ opening => exact opening.progress _ (by simp)
      | asked next_ lastModified fileSize opening needed taken =>
          exact (opening.progress [] (by simp)).trans
            (.still rfl rfl rfl fun holds => holds.congr rfl rfl fun _ present => ⟨_, present⟩)
      | ready _ opening needless => exact opening.progress _ (by simp)
    next next_ err equal =>
      rw [equal] at outcome
      cases outcome with
      | openFailed _ _ opening =>
          have id : next_.id = job.id := by cases opening; rfl
          exact opening.progress _ fun other same => ⟨next_.fileNum, by simp_all⟩
      | digestFailed _ _ opening needed refused => exact opening.progress _ (by simp)

/-- A turn makes progress. -/
theorem readJob_progress (codec : Codec) (tree : Tree) (io : Io) (job : TransferJob) :
    Progress job (readJob codec tree io job).1 ((readJob codec tree io job).2.1.map .sent) := by
  have outcome := read_outcome codec tree io job
  have left : ∀ events, Settled events job.id job.fileNum → Progress job job.leaveFile events :=
    fun events settles => .leave rfl rfl rfl settles fun holds =>
      holds.congr rfl rfl fun _ absent => by cases absent
  have dropped : ∀ events, Progress job { job with dataStream := none } events :=
    fun events => .still rfl rfl rfl fun holds => holds.congr rfl rfl fun _ absent => by cases absent
  unfold readJob
  split
  next next_ err equal =>
    rw [equal] at outcome
    cases outcome with
    | noStream absent => exact .still rfl rfl rfl id
    | failed stream fault present refused =>
        exact left _ (.inr (.inr ⟨.readFile job.fileNum fault, job.fileNum + 1, by
          simp [TransferJob.leaveFile], rfl⟩))
  next next_ block equal =>
    rw [equal] at outcome
    cases outcome with
    | fileEnd base entry stream next_ source current present filled => exact left _ (.inl (by simp))
    | block stream next_ buffer present filled nonempty =>
        obtain ⟨_, _, _, _, source⟩ := fillBuffer_spec tree io bufSize 0 stream next_ [] buffer
          (by decide) (by simp) filled
        refine .still rfl rfl rfl fun holds => holds.congr rfl rfl fun cursor replaced => ?_
        obtain rfl := Option.some.inj replaced
        cases stream with
        | fileStream file => cases source
        | bufStream old => exact ⟨old, present⟩
  next next_ equal =>
    rw [equal] at outcome
    cases outcome with
    | unconfirmed generic detection open_ => exact .still rfl rfl rfl id
    | past base source none_ => exact dropped _
    | cursorEnd cursor source => exact dropped _

/-- Every started job comes from a job of the list. -/
theorem initJobs_progress (tree : Tree) (io : Answers) (jobs : List TransferJob) :
    ∀ next ∈ (initJobs tree io jobs).1,
      ∃ job ∈ jobs, Progress job next ((initJobs tree io jobs).2.map .sent) := by
  induction jobs generalizing io with
  | nil => simp [initJobs]
  | cons job rest ih =>
      intro next member
      simp only [initJobs, List.mem_cons] at member
      simp only [initJobs, List.map_append]
      rcases member with rfl | later
      · exact ⟨job, by simp, (initJob_progress tree (io 0) job).mono (List.subset_append_left _ _)⟩
      · obtain ⟨origin, known, progress⟩ := ih io.tail next later
        exact ⟨origin, by simp [known], progress.mono (List.subset_append_right _ _)⟩

/-- The read moves only the first active job. -/
theorem readFirst_progress (codec : Codec) (tree : Tree) (io : Answers) (jobs : List TransferJob) :
    ∀ next ∈ (readFirst codec tree io jobs).1,
      ∃ job ∈ jobs, Progress job next ((readFirst codec tree io jobs).2.1.map .sent) := by
  induction jobs generalizing io with
  | nil => simp [readFirst]
  | cons job rest ih =>
      intro next member
      unfold readFirst at member ⊢
      split
      next waiting =>
        simp only [waiting, ite_true, List.mem_cons] at member
        rcases member with rfl | later
        · exact ⟨next, by simp, .still rfl rfl rfl id⟩
        · obtain ⟨origin, known, progress⟩ := ih io.tail next later
          exact ⟨origin, by simp [known], progress⟩
      next active =>
        simp only [active, Bool.false_eq_true, ite_false, List.mem_cons] at member
        rcases member with rfl | later
        · exact ⟨job, by simp, readJob_progress codec tree (io 0) job⟩
        · exact ⟨next, by simp [later], .still rfl rfl rfl id⟩

theorem mem_of_mem_removeJobs (finished : List Int) (jobs : List TransferJob) (job : TransferJob)
    (member : job ∈ removeJobs finished jobs) : job ∈ jobs := by
  induction finished generalizing jobs with
  | nil => exact member
  | cons id rest ih => exact List.mem_of_mem_eraseP (ih (removeJob id jobs) member)

/-- Every job that a tick leaves comes from a job of the list. -/
theorem handleReadJobs_progress (codec : Codec) (tree : Tree) (io : Answers)
    (jobs : List TransferJob) :
    ∀ next ∈ (handleReadJobs codec tree io jobs).1,
      ∃ job ∈ jobs, Progress job next ((handleReadJobs codec tree io jobs).2.map .sent) := by
  intro next member
  have kept := mem_of_mem_removeJobs _ _ next member
  obtain ⟨started, known, after⟩ := readFirst_progress codec tree io _ next kept
  obtain ⟨job, listed, before⟩ := initJobs_progress tree io jobs started known
  refine ⟨job, listed, ?_⟩
  simpa [handleReadJobs] using before.trans after

/-- A seek changes only the stream and the two counters. -/
theorem setStreamOffset_shape (tree : Tree) (io : Io) (job : TransferJob) (fileNum : Int)
    (offset : Nat) :
    ∃ stream transferred finished, (job.setStreamOffset tree io fileNum offset).1 =
        { job with dataStream := stream, transferred := transferred, finishedSize := finished } ∧
      (stream = job.dataStream ∨ ∃ file, stream = some (.fileStream file)) := by
  have sought : ∀ file, ∃ stream transferred finished, job.seekTo io file offset =
        { job with dataStream := stream, transferred := transferred, finishedSize := finished } ∧
      (stream = job.dataStream ∨ ∃ file, stream = some (.fileStream file)) := by
    intro file
    unfold TransferJob.seekTo
    split
    · exact ⟨_, _, _, rfl, .inl rfl⟩
    · exact ⟨_, _, _, rfl, .inr ⟨_, rfl⟩⟩
  have kept : ∃ stream transferred finished, job =
        { job with dataStream := stream, transferred := transferred, finishedSize := finished } ∧
      (stream = job.dataStream ∨ ∃ file, stream = some (.fileStream file)) :=
    ⟨_, _, _, rfl, .inl rfl⟩
  unfold TransferJob.setStreamOffset
  repeat' split
  all_goals first | exact kept | exact sought _

/-- A confirmation moves the job only by a skip, which is an event of its own. -/
theorem confirm_progress (tree : Tree) (io : Io) (request : FileTransferSendConfirmRequest)
    (job : TransferJob) (events : List ReadEvent)
    (skipped : job.fileNum = request.fileNum → request.union = some (.skip true) →
      .skipped job.id job.fileNum ∈ events) :
    Progress job (job.confirm tree io request).1 events := by
  have still : ∀ confirmed flag, Progress job { job with fileConfirmed := confirmed, fileSkipped := flag }
      events := fun confirmed flag => .still rfl rfl rfl fun holds =>
    holds.congr rfl rfl fun _ present => ⟨_, present⟩
  unfold TransferJob.confirm
  split
  next => exact .still rfl rfl rfl id
  next current =>
    split
    next skip =>
      refine .leave rfl rfl rfl (.inr (.inl (skipped (not_not.mp current) skip))) fun holds => ?_
      exact holds.congr rfl rfl fun _ absent => by cases absent
    next => exact still true false
    next offset union =>
      split
      next =>
        obtain ⟨stream, transferred, finished, same, kind⟩ :=
          setStreamOffset_shape tree io (job.setFileConfirmed true) request.fileNum offset
        rw [same]
        refine .still rfl rfl rfl fun holds => holds.congr rfl rfl fun cursor present => ?_
        rcases kind with kept | ⟨file, opened⟩
        · exact ⟨cursor, kept.symm.trans present⟩
        · cases opened.symm.trans present
      next => exact still true false
    next => exact .still rfl rfl rfl id

/-- An update of one job keeps every other job. -/
theorem mem_updateJob (id : Int) (update : TransferJob → TransferJob) (jobs : List TransferJob)
    (next : TransferJob) (member : next ∈ updateJob id update jobs) :
    next ∈ jobs ∨ ∃ job, getJob id jobs = some job ∧ job ∈ jobs ∧ next = update job := by
  induction jobs with
  | nil => cases member
  | cons job rest ih =>
      unfold updateJob at member
      split at member
      next same =>
        rcases List.mem_cons.mp member with rfl | later
        · exact .inr ⟨job, by simp [getJob, same], by simp, rfl⟩
        · exact .inl (by simp [later])
      next different =>
        rcases List.mem_cons.mp member with rfl | later
        · exact .inl (by simp)
        · rcases ih later with kept | ⟨origin, found, listed, rfl⟩
          · exact .inl (by simp [kept])
          · exact .inr ⟨origin, by simpa [getJob, different] using found, by simp [listed], rfl⟩

/-- This is the job that the next tick reads, with the answers it gets. -/
def firstActive : Answers → List TransferJob → Option (Io × TransferJob)
  | _, [] => none
  | io, job :: rest => if job.isLastJob then firstActive io.tail rest else some (io 0, job)

theorem initJob_isLastJob (tree : Tree) (io : Io) (job : TransferJob) :
    (initJob tree io job).1.isLastJob = job.isLastJob := by
  have opened : ∀ next result, OpenOutcome tree io job (next, result) →
      next.isLastJob = job.isLastJob := by
    intro next result outcome
    cases outcome <;> rfl
  have outcome := initDataStream_outcome tree io job
  unfold initJob
  split
  next => rfl
  next =>
    split
    next next_ sent equal =>
      rw [equal] at outcome
      cases outcome with
      | finished _ opening => exact opened _ _ opening
      | asked next_ lastModified fileSize opening needed taken => exact opened next_ _ opening
      | ready _ opening needless => exact opened _ _ opening
    next next_ err equal =>
      rw [equal] at outcome
      cases outcome with
      | openFailed _ _ opening => exact opened _ _ opening
      | digestFailed _ _ opening needed refused => exact opened _ _ opening

/-- Starting the jobs does not change which job is read. -/
theorem firstActive_initJobs (tree : Tree) (io : Answers) (jobs : List TransferJob) :
    firstActive io (initJobs tree io jobs).1 =
      (firstActive io jobs).map fun active => (active.1, (initJob tree active.1 active.2).1) := by
  induction jobs generalizing io with
  | nil => rfl
  | cons job rest ih =>
      simp only [initJobs, firstActive, initJob_isLastJob]
      split
      · exact ih io.tail
      · rfl

/-- The messages of the read are those of the first active job. -/
theorem readFirst_sent (codec : Codec) (tree : Tree) (io : Answers) (jobs : List TransferJob) :
    (readFirst codec tree io jobs).2.1 =
      ((firstActive io jobs).elim [] fun active => (readJob codec tree active.1 active.2).2.1) := by
  induction jobs generalizing io with
  | nil => rfl
  | cons job rest ih =>
      simp only [readFirst, firstActive]
      split
      · exact ih io.tail
      · rfl

/-- A tick sends the messages of all starts and then those of one read. -/
theorem handleReadJobs_sent (codec : Codec) (tree : Tree) (io : Answers) (jobs : List TransferJob) :
    (handleReadJobs codec tree io jobs).2 = (initJobs tree io jobs).2 ++
      (firstActive io jobs).elim [] fun active =>
        (readJob codec tree active.1 (initJob tree active.1 active.2).1).2.1 := by
  simp only [handleReadJobs, readFirst_sent, firstActive_initJobs]
  cases firstActive io jobs <;> rfl

end SubnetDesk.FileTransfer
