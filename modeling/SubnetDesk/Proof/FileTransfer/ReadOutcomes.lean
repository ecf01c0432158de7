import SubnetDesk.Construction.FileTransfer.ReadDriver

namespace SubnetDesk.FileTransfer
open FileTree

theorem length_le_of_currentEntry {job : TransferJob} (start : 0 ≤ job.fileNum)
    (past : job.currentEntry = none) : (job.files.length : Int) ≤ job.fileNum := by
  unfold TransferJob.currentEntry entryAt at past
  rw [if_neg (by omega), List.getElem?_eq_none_iff] at past
  omega

theorem currentEntry_past {job : TransferJob} (past : (job.files.length : Int) ≤ job.fileNum) :
    job.currentEntry = none := by
  rw [TransferJob.currentEntry, entryAt, if_neg (by omega), List.getElem?_eq_none_iff]
  omega

/-- These are all the results of opening the current file. -/
inductive OpenOutcome (tree : Tree) (io : Io) (job : TransferJob) :
    TransferJob × Except JobError Bool → Prop
  | finished (base : Path) (source : job.dataSource = .filePath base)
      (past : job.currentEntry = none) :
      OpenOutcome tree io job ({ job with dataStream := none }, .ok true)
  | keptFile (base : Path) (entry : FileEntry) (stream : DataStream)
      (source : job.dataSource = .filePath base) (current : job.currentEntry = some entry)
      (present : job.dataStream = some stream) : OpenOutcome tree io job (job, .ok false)
  | opened (base : Path) (entry : FileEntry) (file : Handle)
      (source : job.dataSource = .filePath base) (current : job.currentEntry = some entry)
      (absent : job.dataStream = none)
      (found : orFault io.openFile (tree.openRead (join base entry.name)) = .ok file) :
      OpenOutcome tree io job
        ({ job with
            dataStream := some (.fileStream file)
            fileConfirmed := false
            fileIsWaiting := false }, .ok false)
  | failed (base : Path) (entry : FileEntry) (fault : Fault)
      (source : job.dataSource = .filePath base) (current : job.currentEntry = some entry)
      (absent : job.dataStream = none)
      (refused : orFault io.openFile (tree.openRead (join base entry.name)) = .error fault) :
      OpenOutcome tree io job
        ({ job with
            fileNum := job.fileNum + 1
            fileConfirmed := false
            fileIsWaiting := false }, .error (.openFile job.fileNum fault))
  | keptCursor (cursor : Cursor) (stream : DataStream)
      (source : job.dataSource = .memoryCursor cursor) (present : job.dataStream = some stream) :
      OpenOutcome tree io job (job, .ok false)
  | openedCursor (cursor : Cursor) (source : job.dataSource = .memoryCursor cursor)
      (absent : job.dataStream = none) :
      OpenOutcome tree io job
        ({ job with
            dataSource := .memoryCursor ⟨[], 0⟩
            dataStream := some (.bufStream cursor) }, .ok false)

/-- An open has one of the outcomes. -/
theorem openDataStream_outcome (tree : Tree) (io : Io) (job : TransferJob) :
    OpenOutcome tree io job (job.openDataStream tree io) := by
  unfold TransferJob.openDataStream
  split
  next base source =>
    split
    next past => exact .finished base source past
    next entry current =>
      split
      next stream present => exact .keptFile base entry stream source current present
      next absent =>
        split
        next file found => exact .opened base entry file source current absent found
        next fault refused => exact .failed base entry fault source current absent refused
  next cursor source =>
    split
    next stream present => exact .keptCursor cursor stream source present
    next absent => exact .openedCursor cursor source absent

/-- These are all the results of one read. -/
inductive ReadOutcome (codec : Codec) (tree : Tree) (io : Io) (job : TransferJob) :
    TransferJob × Except JobError (Option FileTransferBlock) → Prop
  | unconfirmed (generic : job.type = .generic) (detection : job.enableOverwriteDetection = true)
      (open_ : job.fileConfirmed = false) : ReadOutcome codec tree io job (job, .ok none)
  | past (base : Path) (source : job.dataSource = .filePath base)
      (none_ : job.currentEntry = none) :
      ReadOutcome codec tree io job ({ job with dataStream := none }, .ok none)
  | noStream (absent : job.dataStream = none) :
      ReadOutcome codec tree io job (job, .error .dataStreamIsNone)
  | failed (stream : DataStream) (fault : Fault) (present : job.dataStream = some stream)
      (refused : fillBuffer tree io bufSize 0 stream [] = .error fault) :
      ReadOutcome codec tree io job (job.leaveFile, .error (.readFile job.fileNum fault))
  | cursorEnd (cursor : Cursor) (source : job.dataSource = .memoryCursor cursor) :
      ReadOutcome codec tree io job ({ job with dataStream := none }, .ok none)
  | fileEnd (base : Path) (entry : FileEntry) (stream next : DataStream)
      (source : job.dataSource = .filePath base) (current : job.currentEntry = some entry)
      (present : job.dataStream = some stream)
      (filled : fillBuffer tree io bufSize 0 stream [] = .ok (next, [])) :
      ReadOutcome codec tree io job
        (job.leaveFile, .ok (some ⟨job.id, job.fileNum, [], false⟩))
  | block (stream next : DataStream) (buffer : Bytes) (present : job.dataStream = some stream)
      (filled : fillBuffer tree io bufSize 0 stream [] = .ok (next, buffer))
      (nonempty : buffer ≠ []) :
      ReadOutcome codec tree io job
        ({ job with
            dataStream := some next
            finishedSize := job.finishedSize + buffer.length
            transferred := job.transferred + (job.payload codec buffer).1.length },
          .ok (some ⟨job.id, job.fileNum, (job.payload codec buffer).1,
            (job.payload codec buffer).2⟩))

/-- The current entry excludes the end of a file path job. -/
theorem readStream_outcome (codec : Codec) (tree : Tree) (io : Io) (job : TransferJob)
    (inside : ∀ base, job.dataSource = .filePath base → ∃ entry, job.currentEntry = some entry) :
    ReadOutcome codec tree io job (job.readStream codec tree io) := by
  unfold TransferJob.readStream
  split
  next absent => exact .noStream absent
  next stream present =>
    split
    next fault refused => exact .failed stream fault present refused
    next next_ buffer filled =>
      unfold TransferJob.emitBlock
      split
      next empty =>
        have nil : buffer = [] := List.length_eq_zero_iff.mp empty
        subst nil
        split
        next cursor source => exact .cursorEnd cursor source
        next base source =>
          obtain ⟨entry, current⟩ := inside base source
          exact .fileEnd base entry stream next_ source current present filled
      next nonempty =>
        exact .block stream next_ buffer present filled
          (fun nil => nonempty (List.length_eq_zero_iff.mpr nil))

/-- A read has one of the outcomes. -/
theorem read_outcome (codec : Codec) (tree : Tree) (io : Io) (job : TransferJob) :
    ReadOutcome codec tree io job (job.read codec tree io) := by
  unfold TransferJob.read
  split
  next waiting => exact .unconfirmed waiting.1 waiting.2.1 waiting.2.2
  next =>
    split
    next cursor source =>
      apply readStream_outcome
      intro base other
      rw [source] at other
      cases other
    next base source =>
      split
      next past => exact .past base source past
      next entry current =>
        apply readStream_outcome
        intro _ _
        exact ⟨entry, current⟩

/-- These are all the results of starting a job. The outcome keeps the opened job. -/
inductive InitOutcome (tree : Tree) (io : Io) (job : TransferJob) :
    TransferJob × Except JobError (List Message) → Prop
  | openFailed (next : TransferJob) (err : JobError)
      (opening : OpenOutcome tree io job (next, .error err)) :
      InitOutcome tree io job (next, .error err)
  | finished (next : TransferJob) (opening : OpenOutcome tree io job (next, .ok true)) :
      InitOutcome tree io job (next, .ok [])
  | digestFailed (next : TransferJob) (err : JobError)
      (opening : OpenOutcome tree io job (next, .ok false)) (needed : next.needsDigest = true)
      (refused : next.getCurrentDigest tree io = .error err) :
      InitOutcome tree io job (next, .error err)
  | asked (next : TransferJob) (lastModified fileSize : Nat)
      (opening : OpenOutcome tree io job (next, .ok false)) (needed : next.needsDigest = true)
      (taken : next.getCurrentDigest tree io = .ok (lastModified, fileSize)) :
      InitOutcome tree io job (next.setFileIsWaiting true,
        .ok [.digest ⟨next.id, next.fileNum, lastModified, fileSize, false, false, 0,
          next.isResume⟩])
  | ready (next : TransferJob) (opening : OpenOutcome tree io job (next, .ok false))
      (needless : next.needsDigest = false) : InitOutcome tree io job (next, .ok [])

/-- A start has one of the outcomes. -/
theorem initDataStream_outcome (tree : Tree) (io : Io) (job : TransferJob) :
    InitOutcome tree io job (job.initDataStream tree io) := by
  have opening := openDataStream_outcome tree io job
  unfold TransferJob.initDataStream
  split
  next next_ err equal => exact .openFailed next_ err (equal ▸ opening)
  next next_ equal => exact .finished next_ (equal ▸ opening)
  next next_ equal =>
    split
    next needed =>
      split
      next err refused => exact .digestFailed next_ err (equal ▸ opening) needed refused
      next lastModified fileSize taken =>
        exact .asked next_ lastModified fileSize (equal ▸ opening) needed taken
    next needless =>
      exact .ready next_ (equal ▸ opening) (Bool.eq_false_iff.mpr needless)

end SubnetDesk.FileTransfer
