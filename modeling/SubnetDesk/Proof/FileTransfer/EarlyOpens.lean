import SubnetDesk.Foundation.FileWalk
import SubnetDesk.Proof.FileTransfer.ReadProgress

namespace SubnetDesk.FileTransfer
open FileTree

/-- Both starts of a job open the same stream and send the same digest. -/
theorem initReadJobForCm_message (tree : Tree) (io : Io) (connId : Int) (job : TransferJob) :
    (initReadJobForCm tree io connId job).1 = (job.initDataStream tree io).1 ∧
      (initReadJobForCm tree io connId job).2.map (List.map Data.message) =
        (job.initDataStream tree io).2 := by
  unfold initReadJobForCm TransferJob.initDataStreamForCm TransferJob.initDataStream
  rcases job.openDataStream tree io with ⟨opened, _ | finished⟩
  · exact ⟨rfl, rfl⟩
  · cases finished with
    | true => exact ⟨rfl, rfl⟩
    | false =>
        by_cases needed : opened.needsDigest = true
        · simp only [needed, ite_true]
          cases opened.getCurrentDigest tree io with
          | error err => exact ⟨rfl, rfl⟩
          | ok digest => exact ⟨rfl, rfl⟩
        · simp [Bool.eq_false_iff.mpr needed, Except.map]

/-- Both reads of a job send the same message. They differ only in the end after a fault. -/
theorem readJobForCm_message (codec : Codec) (tree : Tree) (io : Io) (connId : Int)
    (job : TransferJob) :
    (readJobForCm codec tree io connId job).1 = (readJob codec tree io job).1 ∧
      (readJobForCm codec tree io connId job).2.1.map Data.message =
        (readJob codec tree io job).2.1 ∧
      ((∃ result, (job.read codec tree io).2 = .ok result) →
        (readJobForCm codec tree io connId job).2.2 = (readJob codec tree io job).2.2) := by
  unfold readJobForCm readJob
  rcases job.read codec tree io with ⟨next, _ | _ | block⟩
  · exact ⟨rfl, rfl, fun ⟨_, impossible⟩ => by cases impossible⟩
  · refine ⟨rfl, ?_, fun _ => ?_⟩
    all_goals
      simp only [completionForCm, completion]
      split
      · split <;> rfl
      · rfl
  · exact ⟨rfl, rfl, fun _ => rfl⟩

/-- No call of the job fails in this tick. -/
def TransferJob.Succeeds (codec : Codec) (tree : Tree) (io : Io) (job : TransferJob) : Prop :=
  (∃ sent, (job.initDataStream tree io).2 = .ok sent) ∧
    ∃ block, (TransferJob.read codec tree io (job.initDataStream tree io).1).2 = .ok block

/-- The flags of a job ask for a confirmation of its current file. -/
def TransferJob.flagged (job : TransferJob) (confirmed waiting : Bool) : TransferJob :=
  { job with fileConfirmed := confirmed, fileIsWaiting := waiting }

/-- The job holds what its open leads to. -/
def TransferJob.placed (job : TransferJob) (source : DataSource) (stream : Option DataStream)
    (confirmed waiting : Bool) : TransferJob :=
  { job with
    dataSource := source
    dataStream := stream
    fileConfirmed := confirmed
    fileIsWaiting := waiting }

/-- The open of the current file leads to a source and a stream. -/
inductive Opens (tree : Tree) (job : TransferJob) : DataSource → Option DataStream → Prop
  | finished (base : Path) (source : job.dataSource = .filePath base)
      (past : job.currentEntry = none) : Opens tree job job.dataSource none
  | kept (stream : DataStream) (present : job.dataStream = some stream)
      (inside : ∀ base, job.dataSource = .filePath base → job.currentEntry ≠ none) :
      Opens tree job job.dataSource (some stream)
  | opened (base : Path) (entry : FileEntry) (file : Handle)
      (source : job.dataSource = .filePath base) (current : job.currentEntry = some entry)
      (absent : job.dataStream = none)
      (found : tree.openRead (join base entry.name) = .ok file) :
      Opens tree job job.dataSource (some (.fileStream file))
  | openedCursor (cursor : Cursor) (source : job.dataSource = .memoryCursor cursor)
      (absent : job.dataStream = none) :
      Opens tree job (.memoryCursor ⟨[], 0⟩) (some (.bufStream cursor))

/-- The paths of two trees lead to the same files. -/
structure SameFiles (origin tree : Tree) : Prop where
  node : tree.node = origin.node
  cwd : tree.cwd = origin.cwd

/-- The same files open alike. -/
theorem SameFiles.openRead {origin tree : Tree} (same : SameFiles origin tree) (path : Path) :
    tree.openRead path = origin.openRead path := by
  rw [Tree.openRead, Tree.openRead, Tree.resolve_congr same.node same.cwd, same.node]

section Opening

variable {origin tree : Tree} {io : Io} {job next : TransferJob} {source other : DataSource}
  {stream another : Option DataStream} {finished : Bool}

/-- An outcome opens what the job opens. -/
theorem Opens.of_outcome (same : SameFiles origin tree)
    (outcome : OpenOutcome tree io job (next, .ok finished)) (quiet : io.openFile = none) :
    ∃ source stream confirmed waiting, Opens origin job source stream ∧
      next = job.placed source stream confirmed waiting := by
  cases outcome with
  | finished base source past => exact ⟨_, _, _, _, .finished base source past, rfl⟩
  | keptFile base entry stream source current present =>
      refine ⟨job.dataSource, some stream, job.fileConfirmed, job.fileIsWaiting,
        .kept stream present ?_, by rw [← present]; rfl⟩
      intro _ _
      simp [current]
  | opened base entry file source current absent found =>
      rw [quiet, same.openRead] at found
      exact ⟨_, _, _, _, .opened base entry file source current absent found, rfl⟩
  | keptCursor cursor stream source present =>
      refine ⟨job.dataSource, some stream, job.fileConfirmed, job.fileIsWaiting,
        .kept stream present ?_, by rw [← present]; rfl⟩
      intro base path
      rw [source] at path
      cases path
  | openedCursor cursor source absent => exact ⟨_, _, _, _, .openedCursor cursor source absent, rfl⟩

/-- A job opens one source. -/
theorem Opens.unique (first : Opens origin job source stream)
    (second : Opens origin job other another) : source = other ∧ stream = another := by
  cases first with
  | finished base path past =>
      cases second with
      | finished => exact ⟨rfl, rfl⟩
      | kept stream present inside => exact absurd past (inside base path)
      | opened base_ entry file path_ current => rw [past] at current; cases current
      | openedCursor cursor path_ => rw [path] at path_; cases path_
  | kept held present inside =>
      cases second with
      | finished base path past => exact absurd past (inside base path)
      | kept stream present_ => exact ⟨rfl, present.symm.trans present_⟩
      | opened base_ entry file path_ current absent => rw [present] at absent; cases absent
      | openedCursor cursor path_ absent => rw [present] at absent; cases absent
  | opened base entry file path current absent found =>
      cases second with
      | finished base_ path_ past => rw [past] at current; cases current
      | kept stream present => rw [present] at absent; cases absent
      | opened base_ entry_ file_ path_ current_ absent_ found_ =>
          obtain rfl : base = base_ := by simpa using path.symm.trans path_
          obtain rfl := Option.some.inj (current.symm.trans current_)
          rw [Except.ok.inj (found.symm.trans found_)]
          exact ⟨rfl, rfl⟩
      | openedCursor cursor path_ => rw [path] at path_; cases path_
  | openedCursor cursor path absent =>
      cases second with
      | finished base path_ => rw [path] at path_; cases path_
      | kept stream present => rw [present] at absent; cases absent
      | opened base entry file path_ => rw [path] at path_; cases path_
      | openedCursor cursor_ path_ =>
          obtain rfl : cursor = cursor_ := by simpa using path.symm.trans path_
          exact ⟨rfl, rfl⟩

/-- An open job opens the same again. -/
theorem Opens.again (opens : Opens origin job source stream) (confirmed waiting : Bool) :
    Opens origin (job.placed source stream confirmed waiting) source stream := by
  cases opens with
  | finished base path past => exact .finished base path past
  | kept held present inside => exact .kept held rfl inside
  | opened base entry file path current absent found =>
      refine .kept _ rfl ?_
      intro _ _ none_
      exact absurd (current.symm.trans none_) (by simp)
  | openedCursor cursor path absent =>
      refine .kept _ rfl ?_
      rintro base ⟨⟩

theorem Opens.openDataStream (opens : Opens origin job source stream) (same : SameFiles origin tree)
    (quiet : io.openFile = none) :
    ∃ confirmed waiting finished, job.openDataStream tree io =
      (job.placed source stream confirmed waiting, .ok finished) := by
  have outcome := openDataStream_outcome tree io job
  rcases result : job.openDataStream tree io with ⟨next, err | finished⟩
  · rw [result] at outcome
    cases outcome with
    | failed base entry fault path current absent refused =>
        rw [quiet, same.openRead] at refused
        cases opens with
        | finished base_ path_ past => rw [past] at current; cases current
        | kept held present => rw [present] at absent; cases absent
        | opened base_ entry_ file path_ current_ absent_ found =>
            obtain rfl : base = base_ := by simpa using path.symm.trans path_
            obtain rfl := Option.some.inj (current.symm.trans current_)
            rw [orFault, found] at refused
            cases refused
        | openedCursor cursor path_ => rw [path] at path_; cases path_
  · rw [result] at outcome
    obtain ⟨source_, stream_, confirmed, waiting, opens_, rfl⟩ := Opens.of_outcome same outcome quiet
    obtain ⟨rfl, rfl⟩ := opens.unique opens_
    exact ⟨confirmed, waiting, finished, rfl⟩

end Opening

section Flags

variable {codec : Codec} {tree : Tree} {io : Io} {job : TransferJob}

/-- Without overwrite detection no decision of a read looks at the flags. -/
theorem read_flagged (codec : Codec) (tree : Tree) (io : Io)
    (off : job.enableOverwriteDetection = false) (confirmed waiting : Bool) :
    ∃ after asked, (job.flagged confirmed waiting).read codec tree io =
      ((job.read codec tree io).1.flagged after asked, (job.read codec tree io).2) := by
  have stream : ∃ after asked, (job.flagged confirmed waiting).readStream codec tree io =
      ((job.readStream codec tree io).1.flagged after asked,
        (job.readStream codec tree io).2) := by
    simp only [TransferJob.readStream, TransferJob.flagged]
    split
    next => exact ⟨confirmed, waiting, rfl⟩
    next stream present =>
      split
      next => exact ⟨false, false, rfl⟩
      next next_ buffer filled =>
        simp only [TransferJob.emitBlock]
        split
        next =>
          split
          next => exact ⟨confirmed, waiting, rfl⟩
          next => exact ⟨false, false, rfl⟩
        next => exact ⟨confirmed, waiting, rfl⟩
  have confirmable : ∀ other : TransferJob, other.enableOverwriteDetection = false →
      ¬ (other.type = .generic ∧ other.enableOverwriteDetection = true ∧
        other.fileConfirmed = false) := by
    rintro other plain ⟨-, detection, -⟩
    rw [plain] at detection
    cases detection
  rw [TransferJob.read, TransferJob.read, if_neg (confirmable job off),
    if_neg (confirmable (job.flagged confirmed waiting) off)]
  rw [show (job.flagged confirmed waiting).dataSource = job.dataSource from rfl,
    show (job.flagged confirmed waiting).currentEntry = job.currentEntry from rfl]
  cases job.dataSource with
  | memoryCursor cursor => exact stream
  | filePath base =>
      cases job.currentEntry with
      | none => exact ⟨confirmed, waiting, rfl⟩
      | some entry => exact stream

theorem read_detection (codec : Codec) (tree : Tree) (io : Io) (job : TransferJob) :
    (job.read codec tree io).1.enableOverwriteDetection = job.enableOverwriteDetection := by
  have outcome := read_outcome codec tree io job
  generalize job.read codec tree io = result at outcome
  cases outcome <;> rfl

/-- A turn keeps the detection. -/
theorem readJob_detection (codec : Codec) (tree : Tree) (io : Io) (job : TransferJob) :
    (readJob codec tree io job).1.enableOverwriteDetection = job.enableOverwriteDetection := by
  have kept := read_detection codec tree io job
  unfold readJob
  generalize job.read codec tree io = result at kept
  rcases result with ⟨next, err | _ | block⟩
  · exact kept
  · exact kept
  · exact kept

/-- Without detection no flag ends a job. -/
theorem completion_flagged (off : job.enableOverwriteDetection = false) (confirmed waiting : Bool) :
    completion (job.flagged confirmed waiting) = completion job := by
  simp [completion, TransferJob.flagged, TransferJob.jobCompleted, off, TransferJob.jobError,
    TransferJob.jobSkipped]

/-- Without detection no flag changes a turn. -/
theorem readJob_flagged (codec : Codec) (tree : Tree) (io : Io)
    (off : job.enableOverwriteDetection = false) (confirmed waiting : Bool) :
    ∃ after asked, readJob codec tree io (job.flagged confirmed waiting) =
      ((readJob codec tree io job).1.flagged after asked, (readJob codec tree io job).2) := by
  obtain ⟨after, asked, same⟩ := read_flagged codec tree io off confirmed waiting
  have kept := (read_detection codec tree io job).trans off
  unfold readJob
  rw [same]
  generalize job.read codec tree io = result at kept
  rcases result with ⟨next, err | _ | block⟩
  · exact ⟨after, asked, rfl⟩
  · refine ⟨after, asked, ?_⟩
    dsimp only
    rw [completion_flagged kept]
  · exact ⟨after, asked, rfl⟩

end Flags

/-- The other driver may have opened the file of a later job already, and its flags may differ
where they decide nothing. -/
inductive Leader (origin : Tree) (job leading : TransferJob) : Prop
  | same (equal : leading = job)
  | flagged (off : job.enableOverwriteDetection = false) (confirmed waiting : Bool)
      (equal : leading = job.flagged confirmed waiting)
  | ahead (off : job.enableOverwriteDetection = false) (source : DataSource)
      (stream : Option DataStream) (confirmed waiting : Bool)
      (opens : Opens origin job source stream)
      (equal : leading = job.placed source stream confirmed waiting)

/-- The paths lead to the same files in every tick, and no memory job is skipped. -/
def Unmoved (origin : Tree) (jobs : List TransferJob) : ReadStep → Prop
  | .tick tree io => SameFiles origin tree ∧ ∀ index, (io index).openFile = none
  | .confirm _ _ request =>
      request.union = some (.skip true) → ∀ job, getJob request.id jobs = some job →
        ∃ path, job.dataSource = .filePath path
  | _ => True

section Leading

variable {origin tree : Tree} {io : Io} {job leading : TransferJob}

/-- What a job opens depends on its place. -/
theorem Opens.congr {other : TransferJob} {source : DataSource} {stream : Option DataStream}
    (opens : Opens origin job source stream) (sources : other.dataSource = job.dataSource)
    (entries : other.currentEntry = job.currentEntry) (streams : other.dataStream = job.dataStream) :
    Opens origin other source stream := by
  cases opens with
  | finished base path past =>
      rw [← sources]
      exact .finished base (sources.trans path) (entries.trans past)
  | kept held present inside =>
      rw [← sources]
      refine .kept held (streams.trans present) ?_
      rw [sources, entries]
      exact inside
  | opened base entry file path current absent found =>
      rw [← sources]
      exact .opened base entry file (sources.trans path) (entries.trans current)
        (streams.trans absent) found
  | openedCursor cursor path absent =>
      exact .openedCursor cursor (sources.trans path) (streams.trans absent)

/-- The jobs have the same id. -/
theorem Leader.id (leads : Leader origin job leading) : leading.id = job.id := by
  cases leads with
  | same equal => rw [equal]
  | flagged off confirmed waiting equal => rw [equal]; rfl
  | ahead off source stream confirmed waiting opens equal => rw [equal]; rfl

/-- The jobs are at the same file. -/
theorem Leader.fileNum (leads : Leader origin job leading) : leading.fileNum = job.fileNum := by
  cases leads with
  | same equal => rw [equal]
  | flagged off confirmed waiting equal => rw [equal]; rfl
  | ahead off source stream confirmed waiting opens equal => rw [equal]; rfl

theorem Leader.isLastJob (leads : Leader origin job leading) : leading.isLastJob = job.isLastJob := by
  cases leads with
  | same equal => rw [equal]
  | flagged off confirmed waiting equal => rw [equal]; rfl
  | ahead off source stream confirmed waiting opens equal => rw [equal]; rfl

theorem Leader.detection (leads : Leader origin job leading) :
    leading.enableOverwriteDetection = job.enableOverwriteDetection := by
  cases leads with
  | same equal => rw [equal]
  | flagged off confirmed waiting equal => rw [equal]; rfl
  | ahead off source stream confirmed waiting opens equal => rw [equal]; rfl

/-- The open of the leading job leads to what the other job would open. -/
theorem Leader.opened (leads : Leader origin job leading) {source : DataSource}
    {stream : Option DataStream} (opens : Opens origin leading source stream) :
    Opens origin job source stream ∧ ∀ confirmed waiting,
      leading.placed source stream confirmed waiting = job.placed source stream confirmed waiting := by
  cases leads with
  | same equal =>
      rw [equal] at opens ⊢
      exact ⟨opens, fun _ _ => rfl⟩
  | flagged off confirmed waiting equal =>
      rw [equal] at opens ⊢
      exact ⟨opens.congr rfl rfl rfl, fun _ _ => rfl⟩
  | ahead off source_ stream_ confirmed waiting opens_ equal =>
      rw [equal] at opens ⊢
      obtain ⟨rfl, rfl⟩ := (opens_.again confirmed waiting).unique opens
      exact ⟨opens_, fun _ _ => rfl⟩

/-- This is the handle that an offset of a file leads to. -/
def seekHandle (tree : Tree) (io : Io) (job : TransferJob) (fileNum : Int) (offset : Nat) :
    Option Handle :=
  match entryAt job.files fileNum, job.dataSource with
  | some entry, .filePath base =>
      match job.resolveEntryPath tree io base entry.name with
      | none => none
      | some path =>
          let opened :=
            if tree.pathExists (downloadPath path) && tree.pathExists (digestPath path) then
              (orFault io.openFile (tree.openWrite (downloadPath path))).map Prod.snd
            else if tree.pathExists path then orFault io.openFile (tree.openRead path)
            else .error .notFound
          match opened, io.seek with
          | .ok file, none => some { file with pos := offset }
          | _, _ => none
  | _, _ => none

/-- The job reads on from the handle. -/
def TransferJob.movedTo (job : TransferJob) (offset : Nat) : Option Handle → TransferJob
  | none => job
  | some file =>
      { job with
        dataStream := some (.fileStream file)
        transferred := job.transferred + offset
        finishedSize := job.finishedSize + offset }

/-- A seek moves the source of a job. -/
theorem setStreamOffset_eq (tree : Tree) (io : Io) (job : TransferJob) (fileNum : Int)
    (offset : Nat) :
    (job.setStreamOffset tree io fileNum offset).1 =
      job.movedTo offset (seekHandle tree io job fileNum offset) := by
  cases listed : entryAt job.files fileNum with
  | none =>
      simp only [TransferJob.setStreamOffset, seekHandle, listed]
      rfl
  | some entry =>
      cases source : job.dataSource with
      | memoryCursor cursor =>
          simp only [TransferJob.setStreamOffset, seekHandle, listed, source]
          rfl
      | filePath base =>
          cases resolved : job.resolveEntryPath tree io base entry.name with
          | none =>
              simp only [TransferJob.setStreamOffset, seekHandle, listed, source, resolved]
              rfl
          | some path =>
              simp only [TransferJob.setStreamOffset, seekHandle, listed, source, resolved]
              split
              next =>
                cases orFault io.openFile (tree.openWrite (downloadPath path)) with
                | error fault => rfl
                | ok result => cases seek : io.seek <;> simp [TransferJob.seekTo, seek, Except.map,
                    TransferJob.movedTo]
              next =>
                split
                next =>
                  cases orFault io.openFile (tree.openRead path) with
                  | error fault => rfl
                  | ok file => cases seek : io.seek <;> simp [TransferJob.seekTo, seek,
                      TransferJob.movedTo]
                next => rfl

theorem seekHandle_congr {other : TransferJob} (files : other.files = job.files)
    (kind : other.type = job.type) (sources : other.dataSource = job.dataSource) (fileNum : Int)
    (offset : Nat) :
    seekHandle tree io other fileNum offset = seekHandle tree io job fileNum offset := by
  unfold seekHandle TransferJob.resolveEntryPath
  rw [files, kind, sources]

/-- A job in memory has no file to seek. -/
theorem seekHandle_memory {cursor : Cursor} (source : job.dataSource = .memoryCursor cursor)
    (fileNum : Int) (offset : Nat) : seekHandle tree io job fileNum offset = none := by
  unfold seekHandle
  rw [source]
  cases entryAt job.files fileNum <;> rfl

/-- A file job keeps its source. -/
theorem Opens.of_file {source : DataSource} {stream : Option DataStream} {base : Path}
    (opens : Opens origin job source stream) (path : job.dataSource = .filePath base) :
    source = job.dataSource := by
  cases opens with
  | openedCursor cursor memory =>
      rw [path] at memory
      cases memory
  | _ => rfl

/-- A job in memory opens its cursor. -/
theorem Opens.of_memory {source : DataSource} {stream : Option DataStream} {cursor : Cursor}
    (opens : Opens origin job source stream) (memory : job.dataSource = .memoryCursor cursor) :
    ∃ left, source = .memoryCursor left := by
  cases opens with
  | openedCursor held => exact ⟨_, rfl⟩
  | _ => exact ⟨cursor, memory⟩

/-- The jobs have the same base. -/
theorem Leader.file (leads : Leader origin job leading) {path : Path}
    (source : leading.dataSource = .filePath path) : job.dataSource = .filePath path := by
  cases leads with
  | same equal =>
      rw [equal] at source
      exact source
  | flagged off confirmed waiting equal =>
      rw [equal] at source
      exact source
  | ahead off source_ stream confirmed waiting opens equal =>
      have placed : source_ = .filePath path := by
        rw [equal] at source
        exact source
      cases held : job.dataSource with
      | filePath base =>
          rw [← held, ← opens.of_file held]
          exact placed
      | memoryCursor cursor =>
          obtain ⟨left, rfl⟩ := opens.of_memory held
          cases placed

/-- A confirmation of a later job does the same whether its file is open already or not. -/
theorem Leader.confirm (leads : Leader origin job leading) (request : FileTransferSendConfirmRequest)
    (file : request.union = some (.skip true) → ∃ path, job.dataSource = .filePath path) :
    Leader origin (job.confirm tree io request).1 (leading.confirm tree io request).1 := by
  have number := leads.fileNum
  have unchanged := leads
  unfold TransferJob.confirm
  rw [number]
  by_cases other : job.fileNum ≠ request.fileNum
  · rw [if_pos other, if_pos other]
    exact leads
  · rw [if_neg other, if_neg other]
    rcases union : request.union with _ | skip | offset
    · exact leads
    · cases skip with
      | true =>
          obtain ⟨path, source⟩ := file union
          cases leads with
          | same equal => exact .same (by rw [equal])
          | flagged off confirmed waiting equal => exact .same (by rw [equal]; rfl)
          | ahead off source_ stream confirmed waiting opens equal =>
              exact .same (by rw [equal, opens.of_file source]; rfl)
      | false =>
          cases leads with
          | same equal => exact .same (by rw [equal])
          | flagged off confirmed waiting equal =>
              exact .flagged off true waiting (by rw [equal]; rfl)
          | ahead off source stream confirmed waiting opens equal =>
              exact .ahead off source stream true waiting (opens.congr rfl rfl rfl)
                (by rw [equal]; rfl)
    · by_cases positive : 0 < offset
      · simp only [if_pos positive, setStreamOffset_eq]
        cases leads with
        | same equal => exact .same (by rw [equal])
        | flagged off confirmed waiting equal =>
            have ready : leading.setFileConfirmed true =
                (job.setFileConfirmed true).flagged true waiting := by
              rw [equal]
              rfl
            have found : seekHandle tree io ((job.setFileConfirmed true).flagged true waiting)
                request.fileNum offset =
                seekHandle tree io (job.setFileConfirmed true) request.fileNum offset :=
              seekHandle_congr rfl rfl rfl _ _
            rw [ready, found]
            cases seekHandle tree io (job.setFileConfirmed true) request.fileNum offset with
            | none => exact .flagged off true waiting rfl
            | some handle => exact .flagged off true waiting rfl
        | ahead off source stream confirmed waiting opens equal =>
            have ready : leading.setFileConfirmed true =
                (job.setFileConfirmed true).placed source stream true waiting := by
              rw [equal]
              rfl
            have still : Opens origin (job.setFileConfirmed true) source stream :=
              opens.congr rfl rfl rfl
            rw [ready]
            cases path : job.dataSource with
            | memoryCursor cursor =>
                obtain ⟨left, rfl⟩ := opens.of_memory path
                have here : seekHandle tree io (job.setFileConfirmed true) request.fileNum offset =
                    none := seekHandle_memory path _ _
                have there : seekHandle tree io ((job.setFileConfirmed true).placed
                    (.memoryCursor left) stream true waiting) request.fileNum offset = none :=
                  seekHandle_memory rfl _ _
                rw [here, there]
                exact .ahead off _ stream true waiting still rfl
            | filePath base =>
                obtain rfl := opens.of_file path
                have found : seekHandle tree io ((job.setFileConfirmed true).placed job.dataSource
                    stream true waiting) request.fileNum offset =
                    seekHandle tree io (job.setFileConfirmed true) request.fileNum offset :=
                  seekHandle_congr rfl rfl rfl _ _
                rw [found]
                cases seekHandle tree io (job.setFileConfirmed true) request.fileNum offset with
                | none => exact .ahead off _ stream true waiting still rfl
                | some handle => exact .flagged off true waiting rfl
      · simp only [if_neg positive]
        cases leads with
        | same equal => exact .same (by rw [equal])
        | flagged off confirmed waiting equal =>
            exact .flagged off true waiting (by rw [equal]; rfl)
        | ahead off source stream confirmed waiting opens equal =>
            exact .ahead off source stream true waiting (opens.congr rfl rfl rfl)
              (by rw [equal]; rfl)

/-- Without overwrite detection a started job has only opened its file. -/
theorem initDataStream_plain {next : TransferJob} {finished : Bool}
    (off : next.enableOverwriteDetection = false)
    (opened : job.openDataStream tree io = (next, .ok finished)) (connId : Int) :
    job.initDataStream tree io = (next, .ok []) ∧
      initReadJobForCm tree io connId job = (next, .ok []) := by
  have needless : next.needsDigest = false := by simp [TransferJob.needsDigest, off]
  unfold initReadJobForCm TransferJob.initDataStreamForCm TransferJob.initDataStream
  rw [opened]
  cases finished with
  | true => exact ⟨rfl, rfl⟩
  | false =>
      dsimp only
      rw [needless]
      exact ⟨rfl, rfl⟩

/-- A started job has opened its file. -/
theorem initDataStream_opened {sent : List Message}
    (started : (job.initDataStream tree io).2 = .ok sent) :
    ∃ next finished, OpenOutcome tree io job (next, .ok finished) ∧
      job.openDataStream tree io = (next, .ok finished) := by
  have outcome := openDataStream_outcome tree io job
  rcases opened : job.openDataStream tree io with ⟨next, err | finished⟩
  · rw [TransferJob.initDataStream, opened] at started
    cases started
  · rw [opened] at outcome
    exact ⟨next, finished, outcome, rfl⟩

/-- A leading job opens nothing else than the other job would open. -/
theorem Leader.started (leads : Leader origin job leading) (same : SameFiles origin tree)
    (quiet : io.openFile = none) (off : leading.enableOverwriteDetection = false)
    {sent : List Message} (started : (leading.initDataStream tree io).2 = .ok sent) (connId : Int) :
    ∃ source stream confirmed waiting after asked, Opens origin job source stream ∧
      leading.initDataStream tree io = (job.placed source stream confirmed waiting, .ok []) ∧
      initReadJobForCm tree io connId job = (job.placed source stream after asked, .ok []) := by
  obtain ⟨next, finished, outcome, opened⟩ := initDataStream_opened started
  obtain ⟨source, stream, confirmed, waiting, opens, rfl⟩ := Opens.of_outcome same outcome quiet
  obtain ⟨here, placed⟩ := leads.opened opens
  obtain ⟨after, asked, finished_, there⟩ := here.openDataStream same quiet
  refine ⟨source, stream, confirmed, waiting, after, asked, here, ?_, ?_⟩
  · rw [← placed]
    have plain : (leading.placed source stream confirmed waiting).enableOverwriteDetection = false :=
      off
    exact (initDataStream_plain plain opened connId).1
  · have plain : (job.placed source stream after asked).enableOverwriteDetection = false :=
      leads.detection.symm.trans off
    exact (initDataStream_plain plain there connId).2

end Leading

/-- Only the first active job may ask for a confirmation, and every other one starts. -/
def Follow (tree : Tree) : Answers → List TransferJob → Prop
  | _, [] => True
  | io, job :: rest =>
      (job.isLastJob = false → job.enableOverwriteDetection = false ∧
        ∃ sent, (job.initDataStream tree (io 0)).2 = .ok sent) ∧ Follow tree io.tail rest

/-- No call of an active job fails. -/
def CalmTick (codec : Codec) (tree : Tree) : Answers → List TransferJob → Prop
  | _, [] => True
  | io, job :: rest =>
      if job.isLastJob then CalmTick codec tree io.tail rest
      else job.Succeeds codec tree (io 0) ∧ Follow tree io.tail rest

section Lists

variable {origin tree : Tree} {codec : Codec} {jobs leading : List TransferJob}

/-- The start of all jobs keeps them together. -/
theorem initJobs_leads (leads : List.Forall₂ (Leader origin) jobs leading)
    (same : SameFiles origin tree) {io : Answers} (quiet : ∀ index, (io index).openFile = none)
    (follow : Follow tree io leading) :
    (initJobs tree io leading).2 = [] ∧
      List.Forall₂ (Leader origin) jobs (initJobs tree io leading).1 := by
  induction leads generalizing io with
  | nil => exact ⟨rfl, .nil⟩
  | @cons job leader rest others first _ ih =>
      obtain ⟨start, follow⟩ := follow
      have later : ∀ index, (io.tail index).openFile = none := fun index => quiet (index + 1)
      obtain ⟨silent, led⟩ := ih later follow
      simp only [initJobs]
      by_cases waiting : leader.isLastJob = true
      · have kept : initJob tree (io 0) leader = (leader, []) := by rw [initJob, if_pos waiting]
        rw [kept, silent]
        exact ⟨rfl, .cons first led⟩
      · obtain ⟨off, sent, started⟩ := start (Bool.eq_false_iff.mpr waiting)
        obtain ⟨source, stream, confirmed, asks, _, _, opens, opened, -⟩ :=
          first.started same (quiet 0) off started 0
        have placed : initJob tree (io 0) leader =
            (job.placed source stream confirmed asks, []) := by
          rw [initJob, if_neg waiting, opened]
        rw [placed, silent]
        exact ⟨rfl, .cons (.ahead (first.detection.symm.trans off) source stream confirmed asks opens
          rfl) led⟩

/-- The first active job starts and reads in the same way in both drivers. -/
theorem readTick_leads_active {job leader : TransferJob} {io : Io} (first : Leader origin job leader)
    (same : SameFiles origin tree) (quiet : io.openFile = none) (active : leader.isLastJob = false)
    (succeeds : leader.Succeeds codec tree io) (connId : Int) :
    ∃ next data, initReadJobForCm tree io connId job = (next, .ok data) ∧
      data.map Data.message = (initJob tree io leader).2 ∧
      (readJobForCm codec tree io connId next).2.1.map Data.message =
        (readJob codec tree io (initJob tree io leader).1).2.1 ∧
      (readJobForCm codec tree io connId next).2.2 =
        (readJob codec tree io (initJob tree io leader).1).2.2 ∧
      Leader origin (readJobForCm codec tree io connId next).1
        (readJob codec tree io (initJob tree io leader).1).1 := by
  obtain ⟨⟨sent, started⟩, block, read⟩ := succeeds
  have begun : initJob tree io leader = ((leader.initDataStream tree io).1, sent) := by
    rw [initJob, if_neg (by simp [active])]
    generalize leader.initDataStream tree io = result at started ⊢
    rcases result with ⟨next, err | sent_⟩
    · cases started
    · cases started
      rfl
  rw [begun]
  dsimp only
  by_cases equal : leader = job
  · subst equal
    obtain ⟨sameJob, sameSent⟩ := initReadJobForCm_message tree io connId leader
    rcases manager : initReadJobForCm tree io connId leader with ⟨next, err | data⟩
    · rw [manager, started] at sameSent
      cases sameSent
    · rw [manager, started] at sameSent
      rw [manager] at sameJob
      dsimp only at sameJob
      obtain ⟨sameRead, sameMessages, sameEnd⟩ := readJobForCm_message codec tree io connId next
      rw [← sameJob] at read ⊢
      exact ⟨next, data, rfl, Except.ok.inj sameSent, sameMessages, sameEnd ⟨block, read⟩,
        .same sameRead.symm⟩
  · have off : leader.enableOverwriteDetection = false := by
      cases first with
      | same same_ => exact absurd same_ equal
      | flagged off confirmed waiting same_ => rw [same_]; exact off
      | ahead off source stream confirmed waiting opens same_ => rw [same_]; exact off
    obtain ⟨source, stream, confirmed, waiting, after, asked, opens, opened, manager⟩ :=
      first.started same quiet off started connId
    have silent : sent = [] := by
      rw [opened] at started
      exact (Except.ok.inj started).symm
    have plain : (job.placed source stream after asked).enableOverwriteDetection = false :=
      first.detection.symm.trans off
    rw [opened] at read ⊢
    dsimp only at read ⊢
    obtain ⟨_, _, reads⟩ := read_flagged codec tree io plain confirmed waiting
    obtain ⟨_, _, readsJob⟩ := readJob_flagged codec tree io plain confirmed waiting
    obtain ⟨sameRead, sameMessages, sameEnd⟩ :=
      readJobForCm_message codec tree io connId (job.placed source stream after asked)
    have succeeded : ((job.placed source stream after asked).read codec tree io).2 = .ok block := by
      rw [← read]
      exact (congrArg Prod.snd reads).symm
    have leading : readJob codec tree io (job.placed source stream confirmed waiting) = _ := readsJob
    rw [leading]
    refine ⟨_, [], manager, by rw [silent]; rfl, sameMessages, sameEnd ⟨block, succeeded⟩, ?_⟩
    rw [sameRead]
    exact .flagged ((readJob_detection codec tree io _).trans plain) _ _ rfl

/-- A tick of a calm list does the same in both drivers. -/
theorem readTick_leads (leads : List.Forall₂ (Leader origin) jobs leading)
    (same : SameFiles origin tree) {io : Answers} (quiet : ∀ index, (io index).openFile = none)
    (calm : CalmTick codec tree io leading) (connId : Int) :
    let started := initJobs tree io leading
    let read := readFirst codec tree io started.1
    let tick := readTick codec tree connId io jobs
    tick.2.1.map Data.message = started.2 ++ read.2.1 ∧ tick.2.2 = read.2.2 ∧
      List.Forall₂ (Leader origin) tick.1 read.1 := by
  induction leads generalizing io with
  | nil => exact ⟨rfl, rfl, .nil⟩
  | @cons job leader rest others first behind ih =>
      have later : ∀ index, (io.tail index).openFile = none := fun index => quiet (index + 1)
      by_cases waiting : leader.isLastJob = true
      · have kept : initJob tree (io 0) leader = (leader, []) := by rw [initJob, if_pos waiting]
        have waits : job.isLastJob = true := first.isLastJob.symm.trans waiting
        rw [CalmTick, if_pos waiting] at calm
        obtain ⟨messages, finished, led⟩ := ih later calm
        simp only [initJobs, kept, readFirst, readTick, waiting, waits, if_true, List.nil_append]
        exact ⟨messages, finished, .cons first led⟩
      · have active := Bool.eq_false_iff.mpr waiting
        have runs : job.isLastJob = false := first.isLastJob.symm.trans active
        rw [CalmTick, if_neg waiting] at calm
        obtain ⟨silent, led⟩ := initJobs_leads behind same later calm.2
        obtain ⟨next, data, manager, opening, messages, finished, after⟩ :=
          readTick_leads_active first same (quiet 0) active calm.1 connId
        have running : (initJob tree (io 0) leader).1.isLastJob = false := by
          rw [initJob_isLastJob, active]
        simp only [initJobs, readFirst, readTick, runs, running, Bool.false_eq_true, if_false,
          manager, silent, List.append_nil, List.map_append, opening, messages, finished]
        refine ⟨trivial, ?_, .cons after led⟩
        rw [after.id]

/-- A removed job is removed on both sides. -/
theorem removeJob_leads (leads : List.Forall₂ (Leader origin) jobs leading) (id : Int) :
    List.Forall₂ (Leader origin) (removeJob id jobs) (removeJob id leading) := by
  unfold removeJob
  induction leads with
  | nil => exact .nil
  | @cons job leader rest others first behind ih =>
      by_cases same : job.id = id
      · simp only [List.eraseP_cons, first.id, same, decide_true, cond_true]
        exact behind
      · simp only [List.eraseP_cons, first.id, same, decide_false, cond_false]
        exact .cons first ih

theorem removeJobs_leads (leads : List.Forall₂ (Leader origin) jobs leading) (finished : List Int) :
    List.Forall₂ (Leader origin) (removeJobs finished jobs) (removeJobs finished leading) := by
  unfold removeJobs
  induction finished generalizing jobs leading with
  | nil => exact leads
  | cons id rest ih => exact ih (removeJob_leads leads id)

/-- An update on both sides keeps them together. -/
theorem updateJob_leads (leads : List.Forall₂ (Leader origin) jobs leading) (id : Int)
    {update updates : TransferJob → TransferJob}
    (keeps : ∀ job leader, getJob id jobs = some job → Leader origin job leader →
      Leader origin (update job) (updates leader)) :
    List.Forall₂ (Leader origin) (updateJob id update jobs) (updateJob id updates leading) := by
  induction leads with
  | nil => exact .nil
  | @cons job leader rest others first behind ih =>
      by_cases same : job.id = id
      · simp only [updateJob, first.id, same, if_true]
        exact .cons (keeps job leader (by simp [getJob, same]) first) behind
      · simp only [updateJob, first.id, same, if_false]
        refine .cons first (ih fun found leader known => keeps found leader ?_)
        simpa [getJob, same] using known

/-- Both lists find their job or none. -/
theorem getJob_leads (leads : List.Forall₂ (Leader origin) jobs leading) (id : Int) :
    (getJob id jobs = none ∧ getJob id leading = none) ∨
      ∃ job leader, getJob id jobs = some job ∧ getJob id leading = some leader ∧
        Leader origin job leader := by
  induction leads with
  | nil => exact .inl ⟨rfl, rfl⟩
  | @cons job leader rest others first behind ih =>
      by_cases same : job.id = id
      · exact .inr ⟨job, leader, by simp [getJob, same], by simp [getJob, first.id, same], first⟩
      · simpa [getJob, first.id, same] using ih

theorem resume_file {job : TransferJob} {base : Path} (path : job.dataSource = .filePath base) :
    job.resume = { job with
      isLastJob := false
      isResume := true
      finishedSize := if 0 < job.fileNum then
        ((job.files.take job.fileNum.toNat).map FileEntry.size).sum else job.finishedSize } := by
  rw [TransferJob.resume, path]
  dsimp only
  rw [TransferJob.setFinishedSizeOnResume]
  by_cases started : 0 < job.fileNum
  · simp [started]
  · simp [started]

theorem resume_memory {job : TransferJob} {cursor : Cursor}
    (memory : job.dataSource = .memoryCursor cursor) : job.resume = job := by
  rw [TransferJob.resume, memory]

/-- A resumed job stays with its leader. -/
theorem Leader.resume {job leader : TransferJob} (leads : Leader origin job leader) :
    Leader origin job.resume leader.resume := by
  cases leads with
  | same equal => exact .same (by rw [equal])
  | flagged off confirmed waiting equal =>
      rw [equal]
      cases source : job.dataSource with
      | memoryCursor cursor =>
          have memory : (job.flagged confirmed waiting).dataSource = .memoryCursor cursor := source
          rw [resume_memory source, resume_memory memory]
          exact .flagged off confirmed waiting rfl
      | filePath base =>
          have path : (job.flagged confirmed waiting).dataSource = .filePath base := source
          rw [resume_file source, resume_file path]
          exact .flagged off confirmed waiting rfl
  | ahead off source stream confirmed waiting opens equal =>
      rw [equal]
      cases held : job.dataSource with
      | memoryCursor cursor =>
          obtain ⟨left, rfl⟩ := opens.of_memory held
          have memory : (job.placed (.memoryCursor left) stream confirmed waiting).dataSource =
            .memoryCursor left := rfl
          rw [resume_memory held, resume_memory memory]
          exact .ahead off _ stream confirmed waiting opens rfl
      | filePath base =>
          obtain rfl := opens.of_file held
          have path : (job.placed job.dataSource stream confirmed waiting).dataSource =
            .filePath base := held
          rw [resume_file held, resume_file path]
          exact .ahead off _ stream confirmed waiting (opens.congr rfl rfl rfl) rfl

/-- A strategy keeps them together. -/
theorem Leader.setOverwriteStrategy {job leader : TransferJob} (leads : Leader origin job leader)
    (strategy : Option Bool) :
    Leader origin (job.setOverwriteStrategy strategy) (leader.setOverwriteStrategy strategy) := by
  cases leads with
  | same equal => exact .same (by rw [equal])
  | flagged off confirmed waiting equal =>
      rw [equal]
      exact .flagged off confirmed waiting rfl
  | ahead off source stream confirmed waiting opens equal =>
      rw [equal]
      exact .ahead off source stream confirmed waiting (opens.congr rfl rfl rfl) rfl

end Lists

end SubnetDesk.FileTransfer
