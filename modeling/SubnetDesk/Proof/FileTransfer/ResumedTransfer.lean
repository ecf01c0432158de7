import SubnetDesk.Construction.FileTransfer.ResumeSession
import SubnetDesk.Proof.FileTransfer.ReadTransfer
import SubnetDesk.Proof.FileTransfer.WriteTransfer

namespace SubnetDesk.FileTransfer
open FileTree

def blocksOf (flight : List Message) : List FileTransferBlock :=
  flight.filterMap fun
    | .block block => some block
    | _ => none

/-- The writer stands at the file, finds the digest beside the download, and opens the download. -/
def Writer.CanContinue (writer : Writer) (io : Io) (file : Int) : Prop :=
  writer.job.fileNum = file ∧ io.openFile = none ∧ io.seek = none ∧
    ∀ entry base, entryAt writer.job.files file = some entry →
      writer.job.dataSource = .filePath base →
        (writer.job.resolveEntryPath writer.tree io base entry.name).isSome = true ∧
          writer.tree.pathExists (digestPath (join base entry.name)) = true

/-- The reader has no side files of its own file, and opens that file. -/
def TransferJob.CanSeek (source : Tree) (io : Io) (job : TransferJob) : Prop :=
  io.openFile = none ∧ io.seek = none ∧
    ∀ entry base, job.currentEntry = some entry → job.dataSource = .filePath base →
      (job.resolveEntryPath source io base entry.name).isSome = true ∧
        (source.pathExists (downloadPath (join base entry.name)) &&
          source.pathExists (digestPath (join base entry.name))) = false

/-- Every read and write succeeds, and both jobs can act on a confirmed offset. -/
def ResumeState.Resumable (source : Tree) (state : ResumeState) : ResumeStep → Prop
  | .read io => ∀ call, io.readFault call = none
  | .store io => io.writeAll = none
  | .answer io (.offsetBlk (_ + 1)) =>
      ∀ digest rest, state.flight = .digest digest :: rest →
        state.writer.CanContinue io digest.fileNum
  | .receive io =>
      ∀ request rest, state.requests = request :: rest → ∀ offset,
        request.union = some (.offsetBlk (offset + 1)) → state.reader.CanSeek source io
  | _ => True

/-- The download holds the old bytes and over them what the writer has taken from the offset on. The
reader has sent the source file from the offset on. -/
structure Resumption.Continues (codec : Codec) (state : ResumeState) (resumption : Resumption) :
    Prop where
  download : state.writer.tree.fileBytes resumption.download =
    some (overwrite resumption.kept resumption.offset resumption.stored)
  underway : resumption.stored ++ received codec resumption.file (blocksOf state.flight) =
    resumption.sent
  sent : resumption.sent <+: resumption.content.drop resumption.offset
  complete : state.reader.fileNum ≠ resumption.file →
    resumption.sent = resumption.content.drop resumption.offset

/-- The reader has asked for its current file and waits for the answer. -/
structure TransferJob.Asked (job : TransferJob) : Prop where
  generic : job.type = .generic
  detection : job.enableOverwriteDetection = true
  unconfirmed : job.fileConfirmed = false
  waiting : job.fileIsWaiting = true
  stream : ∃ stream, job.dataStream = some stream
  current : ∃ entry, job.currentEntry = some entry

/-- One question or answer is under way while the reader waits, and none otherwise. -/
inductive ResumeState.Phase (state : ResumeState) : Prop where
  | quiet (blocks : List FileTransferBlock) (flight : state.flight = blocks.map .block)
      (requests : state.requests = [])
  | asked (blocks : List FileTransferBlock) (digest : FileTransferDigest)
      (flight : state.flight = blocks.map .block ++ [.digest digest])
      (current : digest.fileNum = state.reader.fileNum) (requests : state.requests = [])
      (asked : state.reader.Asked)
  | answered (request : FileTransferSendConfirmRequest) (flight : state.flight = [])
      (requests : state.requests = [request]) (current : request.fileNum = state.reader.fileNum)
      (asked : state.reader.Asked)

/-- The job reads the resumed file behind its offset, or has left it. -/
def Resumption.Reads (source : Tree) (resumption : Resumption) (job : TransferJob) : Prop :=
  (job.fileNum = resumption.file ∧ job.fileConfirmed = true ∧
      (∃ entry, job.currentEntry = some entry) ∧ (∃ stream, job.dataStream = some stream) ∧
      AheadOf source resumption.sent (resumption.content.drop resumption.offset) job.dataStream) ∨
    (resumption.file < job.fileNum ∧
      resumption.sent = resumption.content.drop resumption.offset)

/-- The writer has confirmed the offset, and the request to the reader is under way. -/
structure Resumption.Pending (source : Tree) (resumption : Resumption) (state : ResumeState) :
    Prop where
  request : ∃ request offset, state.requests = [request] ∧
    request.union = some (.offsetBlk (offset + 1)) ∧ resumption.offset = offset + 1
  current : state.reader.fileNum = resumption.file
  silent : resumption.sent = []
  content : ∃ base entry, state.reader.dataSource = .filePath base ∧
    state.reader.currentEntry = some entry ∧
    source.fileBytes (join base entry.name) = some resumption.content

/-- The writer holds the download open behind the bytes that it has taken. -/
structure Resumption.Stores (resumption : Resumption) (writer : Writer) : Prop where
  fileNum : writer.job.fileNum = resumption.file
  target : ∃ base entry, writer.job.dataSource = .filePath base ∧
    entryAt writer.job.files resumption.file = some entry
  stream : ∃ place inode, writer.tree.resolve true resumption.download = .ok place ∧
    writer.tree.node place = some (.file inode) ∧
    writer.job.dataStream = some (.fileStream
      ⟨some inode, resumption.offset + resumption.stored.length, false, true, none⟩) ∧
    writer.tree.data inode = overwrite resumption.kept resumption.offset resumption.stored

structure Resumption.Active (codec : Codec) (source : Tree) (state : ResumeState)
    (resumption : Resumption) : Prop where
  stores : resumption.Stores state.writer
  underway : resumption.stored ++ received codec resumption.file (blocksOf state.flight) =
    resumption.sent
  reads : resumption.Pending source state ∨ resumption.Reads source state.reader

/-- The bytes stored are those of the file. -/
theorem Resumption.Stores.fileBytes {resumption : Resumption} {writer : Writer}
    (stores : resumption.Stores writer) :
    writer.tree.fileBytes resumption.download =
      some (overwrite resumption.kept resumption.offset resumption.stored) := by
  obtain ⟨place, inode, resolved, present, -, data⟩ := stores.stream
  simp only [Tree.fileBytes, Tree.openRead, resolved, present, Option.map_some, data]

/-- What was sent starts the content. -/
theorem AheadOf.starts {tree : Tree} {sent content : Bytes} {stream : Option DataStream}
    (ahead : AheadOf tree sent content stream) : sent <+: content := by
  cases stream with
  | none =>
      rw [show sent = [] from ahead]
      exact List.nil_prefix
  | some stream =>
      cases stream with
      | fileStream file => exact ⟨_, ahead.2.2⟩
      | bufStream cursor => exact ahead.elim

/-- An active resumption goes on. -/
theorem Resumption.Active.continues {codec : Codec} {source : Tree} {state : ResumeState}
    {resumption : Resumption} (active : resumption.Active codec source state) :
    resumption.Continues codec state := by
  refine ⟨active.stores.fileBytes, active.underway, ?_, fun left => ?_⟩
  · rcases active.reads with pending | ⟨-, -, -, -, ahead⟩ | ⟨-, whole⟩
    · rw [pending.silent]
      exact List.nil_prefix
    · exact ahead.starts
    · rw [whole]
  · rcases active.reads with pending | ⟨current, -⟩ | ⟨-, whole⟩
    · exact absurd pending.current left
    · exact absurd current left
    · exact whole

section Reader

variable {codec : Codec} {source : Tree} {io : Io} {job : TransferJob} {base : Path}

/-- The job keeps its number and its source and does not go back in its list. -/
structure TransferJob.Advances (job next : TransferJob) : Prop where
  id : next.id = job.id
  source : next.dataSource = job.dataSource
  fileNum : job.fileNum ≤ next.fileNum

theorem TransferJob.Advances.refl (job : TransferJob) : job.Advances job := ⟨rfl, rfl, le_refl _⟩

/-- An open advances a job. -/
theorem OpenOutcome.advances {result : TransferJob × Except JobError Bool}
    (outcome : OpenOutcome source io job result) (path : job.dataSource = .filePath base) :
    job.Advances result.1 := by
  cases outcome with
  | finished => exact ⟨rfl, rfl, le_refl _⟩
  | keptFile => exact .refl job
  | opened => exact ⟨rfl, rfl, le_refl _⟩
  | failed => exact ⟨rfl, rfl, Int.le_add_one (le_refl _)⟩
  | keptCursor => exact .refl job
  | openedCursor cursor other =>
      rw [path] at other
      cases other

/-- An open job has a stream for an entry of its list. -/
theorem OpenOutcome.ready {next : TransferJob}
    (outcome : OpenOutcome source io job (next, .ok false))
    (path : job.dataSource = .filePath base) :
    (∃ stream, next.dataStream = some stream) ∧ ∃ entry, next.currentEntry = some entry := by
  cases outcome with
  | keptFile _ entry stream _ current present => exact ⟨⟨stream, present⟩, entry, current⟩
  | opened _ entry file _ current absent found => exact ⟨⟨_, rfl⟩, entry, current⟩
  | keptCursor cursor stream other present =>
      rw [path] at other
      cases other
  | openedCursor cursor other =>
      rw [path] at other
      cases other

/-- A start sends nothing, or the question of the job that now waits. -/
theorem initDataStream_advances (source : Tree) (io : Io)
    (path : job.dataSource = .filePath base) :
    job.Advances (job.initDataStream source io).1 ∧
      ∀ sent, (job.initDataStream source io).2 = .ok sent → sent = [] ∨
        ∃ digest, sent = [.digest digest] ∧
          digest.fileNum = (job.initDataStream source io).1.fileNum ∧
          (job.initDataStream source io).1.Asked := by
  have outcome := initDataStream_outcome source io job
  generalize job.initDataStream source io = result at outcome
  cases outcome with
  | openFailed next err opening => exact ⟨opening.advances path, by simp⟩
  | finished next opening =>
      exact ⟨opening.advances path, fun sent same => .inl (Except.ok.inj same).symm⟩
  | digestFailed next err opening needed refused => exact ⟨opening.advances path, by simp⟩
  | asked next lastModified fileSize opening needed taken =>
      obtain ⟨id, kept, fileNum⟩ := opening.advances path
      refine ⟨⟨id, kept, fileNum⟩, fun sent same => .inr ⟨_, (Except.ok.inj same).symm, rfl, ?_⟩⟩
      obtain ⟨stream, current⟩ := opening.ready path
      simp only [TransferJob.needsDigest, Bool.and_eq_true, decide_eq_true_eq,
        Bool.not_eq_true'] at needed
      exact ⟨needed.1.1.1, needed.1.1.2, needed.1.2, rfl, stream, current⟩
  | ready next opening needless =>
      exact ⟨opening.advances path, fun sent same => .inl (Except.ok.inj same).symm⟩

/-- A job with an open file and no question to ask is not changed by a start. -/
theorem initDataStream_settled (source : Tree) (io : Io)
    (path : job.dataSource = .filePath base) (stream : ∃ stream, job.dataStream = some stream)
    (current : ∃ entry, job.currentEntry = some entry) (needless : job.needsDigest = false) :
    job.initDataStream source io = (job, .ok []) := by
  obtain ⟨stream, present⟩ := stream
  obtain ⟨entry, current⟩ := current
  have opened : job.openDataStream source io = (job, .ok false) := by
    simp only [TransferJob.openDataStream, path, current, present]
  simp only [TransferJob.initDataStream, opened, needless, Bool.false_eq_true, if_false]

/-- A waiting job is not changed by a start. -/
theorem TransferJob.Asked.start (asked : job.Asked) (source : Tree) (io : Io)
    (path : job.dataSource = .filePath base) : job.initDataStream source io = (job, .ok []) := by
  refine initDataStream_settled source io path asked.stream asked.current ?_
  rw [TransferJob.needsDigest, asked.waiting, Bool.not_true, Bool.and_false]

/-- A job that has asked reads nothing. -/
theorem TransferJob.Asked.read (asked : job.Asked) (codec : Codec) (source : Tree) (io : Io) :
    job.read codec source io = (job, .ok none) :=
  if_pos ⟨asked.generic, asked.detection, asked.unconfirmed⟩

/-- A read advances a job in order. -/
theorem read_keeps (codec : Codec) (source : Tree) (io : Io) (job : TransferJob) :
    job.Advances (job.read codec source io).1 ∧
      ∀ block, (job.read codec source io).2 = .ok (some block) →
        block.id = job.id ∧ block.fileNum = job.fileNum := by
  have outcome := read_outcome codec source io job
  generalize job.read codec source io = result at outcome
  cases outcome with
  | unconfirmed => exact ⟨.refl job, by simp⟩
  | past => exact ⟨⟨rfl, rfl, le_refl _⟩, by simp⟩
  | noStream => exact ⟨.refl job, by simp⟩
  | failed => exact ⟨⟨rfl, rfl, Int.le_add_one (le_refl _)⟩, by simp⟩
  | cursorEnd => exact ⟨⟨rfl, rfl, le_refl _⟩, by simp⟩
  | fileEnd =>
      refine ⟨⟨rfl, rfl, Int.le_add_one (le_refl _)⟩, fun block same => ?_⟩
      rw [← Option.some.inj (Except.ok.inj same)]
      exact ⟨rfl, rfl⟩
  | block =>
      refine ⟨⟨rfl, rfl, le_refl _⟩, fun block same => ?_⟩
      rw [← Option.some.inj (Except.ok.inj same)]
      exact ⟨rfl, rfl⟩

/-- A confirmation advances a job. -/
theorem confirm_advances (source : Tree) (io : Io) (request : FileTransferSendConfirmRequest)
    (job : TransferJob) : job.Advances (job.confirm source io request).1 := by
  unfold TransferJob.confirm
  split
  next => exact .refl job
  next =>
    split
    next => exact ⟨rfl, rfl, Int.le_add_one (le_refl _)⟩
    next => exact ⟨rfl, rfl, le_refl _⟩
    next offset _ =>
      split
      next =>
        obtain ⟨stream, transferred, finished, same, -⟩ := setStreamOffset_shape source io
          (job.setFileConfirmed true) request.fileNum offset
        rw [same]
        exact ⟨rfl, rfl, le_refl _⟩
      next => exact ⟨rfl, rfl, le_refl _⟩
    next => exact .refl job

/-- A job whose entry resolves goes to the confirmed offset of the download or of the file. -/
theorem confirm_offset {tree : Tree} {request : FileTransferSendConfirmRequest} {entry : FileEntry}
    {offset : Nat} (current : request.fileNum = job.fileNum)
    (union : request.union = some (.offsetBlk (offset + 1)))
    (path : job.dataSource = .filePath base) (listed : job.currentEntry = some entry)
    (resolves : (job.resolveEntryPath tree io base entry.name).isSome = true)
    (opens : io.openFile = none) :
    job.confirm tree io request =
      if tree.pathExists (downloadPath (join base entry.name)) &&
          tree.pathExists (digestPath (join base entry.name)) then
        match tree.openWrite (downloadPath (join base entry.name)) with
        | .error _ => (job.setFileConfirmed true, tree)
        | .ok (opened, file) => ((job.setFileConfirmed true).seekTo io file (offset + 1), opened)
      else if tree.pathExists (join base entry.name) then
        match tree.openRead (join base entry.name) with
        | .error _ => (job.setFileConfirmed true, tree)
        | .ok file => ((job.setFileConfirmed true).seekTo io file (offset + 1), tree)
      else (job.setFileConfirmed true, tree) := by
  obtain ⟨found, resolved⟩ := Option.isSome_iff_exists.mp resolves
  obtain rfl := resolveEntryPath_eq resolved
  have listed_ : entryAt (job.setFileConfirmed true).files request.fileNum = some entry := by
    rw [current]
    exact listed
  have path_ : (job.setFileConfirmed true).dataSource = .filePath base := path
  have resolved_ : (job.setFileConfirmed true).resolveEntryPath tree io base entry.name =
      some (join base entry.name) := resolved
  simp only [TransferJob.confirm, current, ne_eq, not_true_eq_false, if_false, union,
    Nat.succ_pos, if_true, TransferJob.setStreamOffset]
  rw [current] at listed_
  rcases written : tree.openWrite (downloadPath (join base entry.name)) with fault | opened
  · cases read : tree.openRead (join base entry.name) <;>
      simp only [listed_, path_, resolved_, opens, orFault, written, read]
  · cases read : tree.openRead (join base entry.name) <;>
      simp only [listed_, path_, resolved_, opens, orFault, written, read]

/-- A confirmed offset moves the open file of a reader to that offset. -/
theorem confirm_seeks {request : FileTransferSendConfirmRequest} {entry : FileEntry} {offset : Nat}
    {content : Bytes} (current : request.fileNum = job.fileNum)
    (union : request.union = some (.offsetBlk (offset + 1)))
    (path : job.dataSource = .filePath base) (listed : job.currentEntry = some entry)
    (present : source.fileBytes (join base entry.name) = some content)
    (seeks : job.CanSeek source io) :
    ∃ inode, source.data inode = content ∧
      (job.confirm source io request).1 =
        { job.setFileConfirmed true with
          dataStream := some (.fileStream ⟨some inode, offset + 1, true, false, none⟩)
          transferred := job.transferred + (offset + 1)
          finishedSize := job.finishedSize + (offset + 1) } := by
  obtain ⟨opens, seek, reachable⟩ := seeks
  obtain ⟨resolves, sideless⟩ := reachable entry base listed path
  obtain ⟨inode, opened, bytes⟩ := Tree.fileBytes_open present
  refine ⟨inode, bytes, ?_⟩
  rw [confirm_offset current union path listed resolves opens, sideless,
    if_neg Bool.false_ne_true, if_pos (Tree.fileBytes_exists present), opened]
  dsimp only
  rw [TransferJob.seekTo, seek]
  rfl

variable {resumption : Resumption}

/-- A start keeps the place of the reader. -/
theorem Resumption.Reads.start (reads : resumption.Reads source job) (io : Io)
    (path : job.dataSource = .filePath base) :
    resumption.Reads source (job.initDataStream source io).1 := by
  rcases reads with ⟨current, confirmed, listed, stream, ahead⟩ | ⟨past, whole⟩
  · have needless : job.needsDigest = false := by
      rw [TransferJob.needsDigest, confirmed, Bool.not_true, Bool.and_false, Bool.false_and]
    rw [initDataStream_settled source io path stream listed needless]
    exact .inl ⟨current, confirmed, listed, stream, ahead⟩
  · have forward := (initDataStream_advances source io path).1.fileNum
    exact .inr ⟨lt_of_lt_of_le past forward, whole⟩

/-- A block of the resumed file continues what was sent, and the end of the file completes it. -/
theorem Resumption.Reads.read (reads : resumption.Reads source job)
    (lossless : ∀ bytes, codec.decompress (codec.compress bytes) = bytes)
    (path : job.dataSource = .filePath base) (quiet : ∀ call, io.readFault call = none) :
    (∀ block, (job.read codec source io).2 = .ok (some block) →
        (resumption.send codec block).Reads source (job.read codec source io).1) ∧
      ((∀ block, (job.read codec source io).2 ≠ .ok (some block)) →
        resumption.Reads source (job.read codec source io).1) := by
  rcases reads with ⟨current, confirmed, ⟨entry, listed⟩, ⟨stream, present⟩, ahead⟩ | ⟨past, whole⟩
  · have outcome := read_outcome codec source io job
    rw [present] at ahead
    generalize job.read codec source io = result at outcome
    cases outcome with
    | unconfirmed _ _ unconfirmed =>
        rw [confirmed] at unconfirmed
        cases unconfirmed
    | past _ _ absent => cases absent.symm.trans listed
    | noStream absent => cases absent.symm.trans present
    | failed stream_ fault present_ refused =>
        obtain rfl := Option.some.inj (present.symm.trans present_)
        obtain ⟨filled, fills⟩ := ahead.fills quiet
        cases fills.symm.trans refused
    | cursorEnd cursor other => cases other.symm.trans path
    | fileEnd _ _ stream_ next _ _ present_ filled =>
        obtain rfl := Option.some.inj (present.symm.trans present_)
        refine ⟨fun block same => ?_, fun none_ => absurd rfl (none_ _)⟩
        obtain rfl := Option.some.inj (Except.ok.inj same)
        have sent : resumption.sent = resumption.content.drop resumption.offset :=
          ahead.complete filled
        rw [Resumption.send, if_pos current]
        refine .inr ⟨?_, ?_⟩
        · show resumption.file < job.fileNum + 1
          omega
        · exact (List.append_nil _).trans sent
    | block stream_ next buffer present_ filled nonempty =>
        obtain rfl := Option.some.inj (present.symm.trans present_)
        refine ⟨fun block same => ?_, fun none_ => absurd rfl (none_ _)⟩
        obtain rfl := Option.some.inj (Except.ok.inj same)
        rw [Resumption.send, if_pos current,
          (payload_decoded codec job buffer job.id job.fileNum lossless nonempty).1]
        exact .inl ⟨current, confirmed, ⟨entry, listed⟩, ⟨next, rfl⟩, ahead.block filled⟩
  · obtain ⟨⟨_, _, forward⟩, tags⟩ := read_keeps codec source io job
    refine ⟨fun block same => ?_, fun _ => .inr ⟨lt_of_lt_of_le past forward, whole⟩⟩
    rw [Resumption.send, if_neg (by rw [(tags block same).2]; omega)]
    exact .inr ⟨lt_of_lt_of_le past forward, whole⟩

/-- The reader starts behind the confirmed offset when it gets the request. -/
theorem Resumption.Pending.receive {state : ResumeState}
    {request : FileTransferSendConfirmRequest} (pending : resumption.Pending source state)
    (requests : state.requests = [request]) (current : request.fileNum = state.reader.fileNum)
    (seeks : ∀ offset, request.union = some (.offsetBlk (offset + 1)) →
      state.reader.CanSeek source io) :
    resumption.Reads source (state.reader.confirm source io request).1 := by
  obtain ⟨⟨request_, offset, requests_, union, start⟩, fileNum, silent, base, entry, path, listed,
    present⟩ := pending
  obtain rfl : request_ = request := List.head_eq_of_cons_eq (requests_.symm.trans requests)
  obtain ⟨inode, bytes, confirmed⟩ :=
    confirm_seeks current union path listed present (seeks offset union)
  rw [confirmed]
  refine .inl ⟨fileNum, rfl, ⟨entry, listed⟩, ⟨_, rfl⟩, ⟨inode, rfl⟩, rfl, ?_⟩
  rw [silent, List.nil_append, start, ← bytes]
  rfl

end Reader

section Writing

variable {codec : Codec} {io : Io} {writer : Writer} {resumption : Resumption}
  {block : FileTransferBlock}

theorem prepare_id (codec : Codec) (tree : Tree) (io : Io) (block : FileTransferBlock)
    (job : TransferJob) : (job.prepare codec tree io block).1.id = job.id := by
  unfold TransferJob.prepare
  split
  next =>
    split
    next => rfl
    next =>
      split
      next =>
        unfold TransferJob.switchFile
        split
        next => rfl
        next =>
          dsimp only
          split
          next => rfl
          next => rfl
      next => rfl
  next =>
    split
    next => rfl
    next => rfl

theorem write_id (codec : Codec) (tree : Tree) (io : Io) (block : FileTransferBlock)
    (job : TransferJob) : (job.write codec tree io block).1.id = job.id := by
  have prepared := prepare_id codec tree io block job
  unfold TransferJob.write
  split
  next => rfl
  next =>
    split
    next equal =>
      rw [equal] at prepared
      exact prepared
    next ready tree_ _ equal =>
      rw [equal] at prepared
      obtain ⟨_, _, _, shape, -⟩ := writeStream_shape codec tree_ io block ready
      rw [shape]
      exact prepared

/-- A block of the resumed file goes behind the stored bytes. -/
theorem Resumption.Stores.write (stores : resumption.Stores writer) (quiet : io.writeAll = none)
    (sameId : block.id = writer.job.id) (sameFile : block.fileNum = resumption.file) :
    let result := writer.job.write codec writer.tree io block
    Resumption.Stores { resumption with stored := resumption.stored ++ block.decoded codec }
      ⟨result.1, result.2.1⟩ := by
  obtain ⟨fileNum, ⟨base, entry, path, listed⟩, place, inode, resolved, present, stream, data⟩ :=
    stores
  have continued := write_continued codec writer.tree io block sameId path (sameFile ▸ listed)
    (sameFile.trans fileNum.symm) (by simp [stream])
  obtain ⟨later, finished, transferred, err, written, calm⟩ :=
    writeStream_file codec writer.tree io block stream
  obtain rfl := calm rfl quiet
  rw [continued, written]
  simp only [DataStream.storedPart, if_pos, writtenPart, quiet]
  refine ⟨fileNum, ⟨base, entry, path, listed⟩, place, inode, ?_, present, ?_, ?_⟩
  · exact (Tree.resolve_setData ..).trans resolved
  · rw [List.length_append, Nat.add_assoc]
  · rw [data, overwrite_append]
    exact Function.update_self ..

/-- A confirmed offset opens the old download at that offset. -/
theorem Resumption.Stores.resumed (request : FileTransferSendConfirmRequest) {entry : FileEntry}
    {base : Path} {offset : Nat} {kept : Bytes}
    (union : request.union = some (.offsetBlk (offset + 1)))
    (path : writer.job.dataSource = .filePath base)
    (listed : entryAt writer.job.files request.fileNum = some entry)
    (present : writer.tree.fileBytes (downloadPath (join base entry.name)) = some kept)
    (continues : writer.CanContinue io request.fileNum) (size modified : Nat) (content : Bytes) :
    let result := (writer.job.setDigest size modified).confirm writer.tree io request
    Resumption.Stores ⟨request.fileNum, offset + 1, downloadPath (join base entry.name), content, kept,
      [], []⟩ ⟨result.1, result.2⟩ := by
  obtain ⟨current, opens, seek, reachable⟩ := continues
  obtain ⟨resolves, digest⟩ := reachable entry base listed path
  have current_ : request.fileNum = (writer.job.setDigest size modified).fileNum := current.symm
  have listed_ : (writer.job.setDigest size modified).currentEntry = some entry := by
    rw [TransferJob.currentEntry]
    exact current ▸ listed
  obtain ⟨place, inode, resolved, node, bytes⟩ := Tree.fileBytes_place present
  have confirmed := confirm_offset current_ union path listed_ resolves opens
  rw [Tree.fileBytes_exists present, digest, Bool.and_self, if_pos rfl] at confirmed
  simp only [Tree.openWrite, resolved, node, TransferJob.seekTo, seek] at confirmed
  rw [confirmed]
  refine ⟨current, ⟨base, entry, path, listed⟩, place, inode, ?_, node, rfl, ?_⟩
  · exact (Tree.resolve_record ..).trans resolved
  · rw [overwrite, if_pos rfl]
    exact bytes

end Writing

theorem blocksOf_append (first second : List Message) :
    blocksOf (first ++ second) = blocksOf first ++ blocksOf second := List.filterMap_append

/-- The reader, the writer, and the messages between them belong to one job. -/
structure ResumeState.Consistent (codec : Codec) (source : Tree) (base : Path)
    (state : ResumeState) : Prop where
  path : state.reader.dataSource = .filePath base
  id : state.writer.job.id = state.reader.id
  ids : ∀ block ∈ blocksOf state.flight, block.id = state.reader.id
  phase : state.Phase
  active : ∀ resumption, state.resumption = some resumption →
    resumption.Active codec source state

section Steps

variable {codec : Codec} {source : Tree} {base : Path} {state : ResumeState}
  {resumption : Resumption}

/-- Either blocks or a question are underway. -/
theorem ResumeState.Phase.quiet_or_asked (phase : state.Phase) :
    (∃ blocks : List FileTransferBlock, state.flight = blocks.map .block ∧ state.requests = []) ∨
      state.reader.Asked := by
  cases phase with
  | quiet blocks flight requests => exact .inl ⟨blocks, flight, requests⟩
  | asked _ _ _ _ _ asked => exact .inr asked
  | answered _ _ _ _ asked => exact .inr asked

/-- A question comes after all blocks, and the reader waits for its answer. -/
theorem ResumeState.Phase.question {digest : FileTransferDigest} {rest : List Message}
    (phase : state.Phase) (flight : state.flight = .digest digest :: rest) :
    rest = [] ∧ state.requests = [] ∧ digest.fileNum = state.reader.fileNum ∧
      state.reader.Asked := by
  cases phase with
  | quiet blocks empty _ =>
      rw [flight] at empty
      cases blocks with
      | nil => cases empty
      | cons block blocks => cases empty
  | asked blocks digest_ whole current requests asked =>
      rw [flight] at whole
      cases blocks with
      | nil =>
          cases whole
          exact ⟨rfl, requests, current, asked⟩
      | cons block blocks => cases whole
  | answered _ empty => cases flight.symm.trans empty

/-- An answer is alone under way, and it is for the file that the reader waits for. -/
theorem ResumeState.Phase.reply {request : FileTransferSendConfirmRequest}
    {rest : List FileTransferSendConfirmRequest} (phase : state.Phase)
    (requests : state.requests = request :: rest) :
    rest = [] ∧ state.flight = [] ∧ request.fileNum = state.reader.fileNum ∧
      state.reader.Asked := by
  cases phase with
  | quiet _ _ empty => cases requests.symm.trans empty
  | asked _ _ _ _ empty => cases requests.symm.trans empty
  | answered request_ flight alone current asked =>
      cases requests.symm.trans alone
      exact ⟨rfl, flight, current, asked⟩

/-- The phase goes on when the writer takes a block. -/
theorem ResumeState.Phase.store {block : FileTransferBlock} {rest : List Message}
    (phase : state.Phase) (flight : state.flight = .block block :: rest) (writer : Writer)
    (resumption : Option Resumption) :
    ResumeState.Phase
      { state with flight := rest, writer := writer, resumption := resumption } := by
  cases phase with
  | quiet blocks whole requests =>
      rw [flight] at whole
      cases blocks with
      | nil => cases whole
      | cons _ blocks =>
          cases whole
          exact .quiet blocks rfl requests
  | asked blocks digest whole current requests asked =>
      rw [flight] at whole
      cases blocks with
      | nil => cases whole
      | cons _ blocks =>
          cases whole
          exact .asked blocks digest rfl current requests asked
  | answered _ empty => cases flight.symm.trans empty

/-- No request is under way, so the reader is at the offset or past the file. -/
theorem Resumption.Active.quiet (active : resumption.Active codec source state)
    (requests : state.requests = []) : resumption.Reads source state.reader := by
  rcases active.reads with ⟨⟨request, _, alone, _⟩, _⟩ | reads
  · cases requests.symm.trans alone
  · exact reads

/-- A reader that waits for an answer has left the resumed file. -/
theorem Resumption.Reads.left {job : TransferJob} (reads : resumption.Reads source job)
    (asked : job.Asked) : resumption.file < job.fileNum ∧
      resumption.sent = resumption.content.drop resumption.offset := by
  rcases reads with ⟨_, confirmed, _⟩ | past
  · cases confirmed.symm.trans asked.unconfirmed
  · exact past

theorem Resumption.send_underway {block : FileTransferBlock} {blocks : List FileTransferBlock}
    (underway : resumption.stored ++ received codec resumption.file blocks = resumption.sent) :
    (resumption.send codec block).stored ++
        received codec (resumption.send codec block).file (blocks ++ [block]) =
      (resumption.send codec block).sent := by
  unfold Resumption.send
  split
  next same =>
    dsimp only
    rw [received_append, ← List.append_assoc, underway, ← same, received_same]
  next other => rw [received_append, received_other codec _ block other, List.append_nil, underway]

/-- A block is stored at its place. -/
theorem Resumption.Stores.send {writer : Writer} (stores : resumption.Stores writer)
    (codec : Codec) (block : FileTransferBlock) :
    (resumption.send codec block).Stores writer := by
  unfold Resumption.send
  split
  next => exact ⟨stores.fileNum, stores.target, stores.stream⟩
  next => exact stores

/-- A start is consistent. -/
theorem ResumeState.Consistent.start (consistent : state.Consistent codec source base) (io : Io) :
    ((resumeSession codec source).step state (.start io)).1.Consistent codec source base := by
  rcases consistent.phase.quiet_or_asked with ⟨blocks, flight, requests⟩ | asked
  · obtain ⟨advances, questions⟩ := initDataStream_advances source io consistent.path
    have reads : ∀ resumption, state.resumption = some resumption →
        resumption.Reads source (state.reader.initDataStream source io).1 :=
      fun resumption present =>
        ((consistent.active resumption present).quiet requests).start io consistent.path
    simp only [resumeSession]
    generalize state.reader.initDataStream source io = result at advances questions reads
    rcases result with ⟨reader, err | sent⟩
    · exact ⟨advances.source.trans consistent.path, consistent.id.trans advances.id.symm,
        fun block member => (consistent.ids block member).trans advances.id.symm,
        .quiet blocks flight requests, fun resumption present =>
          ⟨(consistent.active resumption present).stores,
            (consistent.active resumption present).underway, .inr (reads resumption present)⟩⟩
    · have silent : blocksOf (state.flight ++ sent) = blocksOf state.flight := by
        rcases questions sent rfl with rfl | ⟨digest, rfl, _⟩
        · rw [List.append_nil]
        · rw [blocksOf_append]
          exact List.append_nil _
      refine ⟨advances.source.trans consistent.path, consistent.id.trans advances.id.symm,
        fun block member => ?_, ?_, fun resumption present => ?_⟩
      · rw [silent] at member
        exact (consistent.ids block member).trans advances.id.symm
      · rcases questions sent rfl with rfl | ⟨digest, rfl, current, asked⟩
        · exact .quiet blocks ((List.append_nil _).trans flight) requests
        · exact .asked blocks digest (by rw [flight]) current requests asked
      · refine ⟨(consistent.active resumption present).stores, ?_, .inr (reads resumption present)⟩
        rw [silent]
        exact (consistent.active resumption present).underway
  · simp only [resumeSession, asked.start source io consistent.path, List.append_nil]
    exact consistent

/-- A read is consistent. -/
theorem ResumeState.Consistent.read (consistent : state.Consistent codec source base) {io : Io}
    (lossless : ∀ bytes, codec.decompress (codec.compress bytes) = bytes)
    (quiet : ∀ call, io.readFault call = none) :
    ((resumeSession codec source).step state (.read io)).1.Consistent codec source base := by
  rcases consistent.phase.quiet_or_asked with ⟨blocks, flight, requests⟩ | asked
  · obtain ⟨advances, tags⟩ := read_keeps codec source io state.reader
    have reads : ∀ resumption, state.resumption = some resumption → _ :=
      fun resumption present => ((consistent.active resumption present).quiet requests).read
        lossless consistent.path quiet
    have silent : (∀ block, (state.reader.read codec source io).2 ≠ .ok (some block)) →
        ResumeState.Consistent codec source base
          { state with reader := (state.reader.read codec source io).1 } := by
      intro none_
      exact ⟨advances.source.trans consistent.path, consistent.id.trans advances.id.symm,
        fun block member => (consistent.ids block member).trans advances.id.symm,
        .quiet blocks flight requests, fun resumption present =>
          ⟨(consistent.active resumption present).stores,
            (consistent.active resumption present).underway,
            .inr ((reads resumption present).2 none_)⟩⟩
    simp only [resumeSession]
    generalize state.reader.read codec source io = result at advances tags reads silent
    rcases result with ⟨reader, err | _ | block⟩
    · exact silent (by simp)
    · exact silent (by simp)
    · obtain ⟨id, current⟩ := tags block rfl
      refine ⟨advances.source.trans consistent.path, consistent.id.trans advances.id.symm,
        fun other member => ?_, .quiet (blocks ++ [block]) (by simp [flight]) requests,
        fun resumption present => ?_⟩
      · rw [blocksOf_append] at member
        rcases List.mem_append.mp member with old | new
        · exact (consistent.ids other old).trans advances.id.symm
        · rw [List.mem_singleton.mp new, id]
          exact advances.id.symm
      · obtain ⟨before, known, rfl⟩ := Option.map_eq_some_iff.mp present
        have active := consistent.active before known
        refine ⟨active.stores.send codec block, ?_, .inr ((reads before known).1 block rfl)⟩
        rw [blocksOf_append]
        exact Resumption.send_underway active.underway
  · simp only [resumeSession, asked.read]
    exact consistent

/-- A stored block is consistent. -/
theorem ResumeState.Consistent.store (consistent : state.Consistent codec source base) {io : Io}
    (quiet : io.writeAll = none) :
    ((resumeSession codec source).step state (.store io)).1.Consistent codec source base := by
  simp only [resumeSession]
  split
  next block rest flight =>
    have sameId : block.id = state.writer.job.id := by
      rw [consistent.id]
      exact consistent.ids block (by simp [flight, blocksOf])
    refine ⟨consistent.path, ?_, fun other member => ?_, consistent.phase.store flight _ _,
      fun resumption present => ?_⟩
    · exact (write_id codec _ io block _).trans consistent.id
    · refine consistent.ids other ?_
      rw [flight]
      exact List.mem_cons_of_mem _ member
    · obtain ⟨before, known, stored⟩ := Option.bind_eq_some_iff.mp present
      have active := consistent.active before known
      unfold Resumption.store at stored
      split at stored
      next same =>
        obtain rfl := Option.some.inj stored
        refine ⟨active.stores.write quiet sameId same, ?_, ?_⟩
        · have underway := active.underway
          rw [flight, show blocksOf (.block block :: rest) = [block] ++ blocksOf rest from rfl,
            received_append, ← same, received_same, same] at underway
          rw [← underway]
          exact List.append_assoc ..
        · rcases active.reads with pending | reads
          · exact .inl ⟨pending.request, pending.current, pending.silent, pending.content⟩
          · exact .inr reads
      next => cases stored
  next => exact consistent

/-- A request with an offset resumes the file at both sides, and another one keeps the resumption
of an earlier file. -/
theorem ResumeState.answered_active {io : Io} {digest : FileTransferDigest} {union : ConfirmUnion}
    (consistent : state.Consistent codec source base) (flight : state.flight = [.digest digest])
    (guard : state.Resumable source (.answer io union))
    (present : state.answered source digest.fileNum union = some resumption) :
    resumption.Active codec source
      ((resumeSession codec source).step state (.answer io union)).1 := by
  obtain ⟨_, requests, current, asked⟩ := consistent.phase.question flight
  unfold ResumeState.answered at present
  split at present
  next offset =>
    unfold ResumeState.resume at present
    split at present
    next entry path target targetPath listed source_ targeted target_ =>
      split at present
      next content kept reads holds =>
        obtain rfl := Option.some.inj present
        simp only [resumeSession, flight]
        let request : FileTransferSendConfirmRequest :=
          ⟨digest.id, digest.fileNum, some (.offsetBlk (offset + 1))⟩
        refine ⟨?_, rfl, .inl ⟨⟨request, offset, ?_, rfl, rfl⟩, current.symm, rfl, path, entry,
          source_, ?_, reads⟩⟩
        · exact Resumption.Stores.resumed request rfl target_ targeted holds
            (guard digest [] flight) _ _ content
        · rw [requests]
          rfl
        · rw [TransferJob.currentEntry, ← current]
          exact listed
      next => cases present
    next => cases present
  next =>
    obtain ⟨known, other⟩ := Option.filter_eq_some_iff.mp present
    have active := consistent.active resumption known
    have other : resumption.file ≠ digest.fileNum := by simpa using other
    have past := (active.quiet requests).left asked
    have ignored : ((state.writer.job.setDigest digest.fileSize digest.lastModified).confirm
        state.writer.tree io ⟨digest.id, digest.fileNum, some union⟩) =
        (state.writer.job.setDigest digest.fileSize digest.lastModified, state.writer.tree) := by
      rw [TransferJob.confirm, if_pos]
      exact fun same => other (active.stores.fileNum.symm.trans same)
    have underway := active.underway
    rw [flight] at underway
    simp only [resumeSession, flight, ignored]
    exact ⟨⟨active.stores.fileNum, active.stores.target, active.stores.stream⟩, underway,
      .inr (.inr past)⟩

/-- An answer is consistent. -/
theorem ResumeState.Consistent.answer (consistent : state.Consistent codec source base) {io : Io}
    {union : ConfirmUnion} (guard : state.Resumable source (.answer io union)) :
    ((resumeSession codec source).step state (.answer io union)).1.Consistent codec source
      base := by
  by_cases question : ∃ digest rest, state.flight = .digest digest :: rest
  · obtain ⟨digest, rest, flight⟩ := question
    obtain ⟨rfl, requests, current, asked⟩ := consistent.phase.question flight
    have active := fun resumption
        (present : state.answered source digest.fileNum union = some resumption) =>
      answered_active consistent flight guard present
    simp only [resumeSession, flight] at active ⊢
    refine ⟨consistent.path, ?_, fun block member => ?_, ?_, active⟩
    · exact (confirm_advances _ io _ _).id.trans consistent.id
    · cases member
    · exact .answered _ rfl (by rw [requests]; rfl) current asked
  · simp only [resumeSession]
    split
    next digest rest flight => exact absurd ⟨digest, rest, flight⟩ question
    next => exact consistent

/-- The receipt of an answer is consistent. -/
theorem ResumeState.Consistent.receive (consistent : state.Consistent codec source base) {io : Io}
    (guard : state.Resumable source (.receive io)) :
    ((resumeSession codec source).step state (.receive io)).1.Consistent codec source base := by
  simp only [resumeSession]
  split
  next request rest requests =>
    obtain ⟨rfl, flight, current, asked⟩ := consistent.phase.reply requests
    have advances := confirm_advances source io request state.reader
    refine ⟨advances.source.trans consistent.path, consistent.id.trans advances.id.symm,
      fun block member => (consistent.ids block member).trans advances.id.symm,
      .quiet [] flight rfl, fun resumption present => ?_⟩
    have active := consistent.active resumption present
    refine ⟨active.stores, active.underway, .inr ?_⟩
    rcases active.reads with pending | reads
    · exact pending.receive requests current (guard request [] requests)
    · obtain ⟨past, whole⟩ := reads.left asked
      exact .inr ⟨lt_of_lt_of_le past advances.fileNum, whole⟩
  next => exact consistent

/-- The end is consistent. -/
theorem ResumeState.Consistent.finish (consistent : state.Consistent codec source base) (io : Io) :
    ((resumeSession codec source).step state (.finish io)).1.Consistent codec source base := by
  refine ⟨consistent.path, consistent.id, consistent.ids, ?_, by simp [resumeSession]⟩
  cases consistent.phase with
  | quiet blocks flight requests => exact .quiet blocks flight requests
  | asked blocks digest flight current requests asked =>
      exact .asked blocks digest flight current requests asked
  | answered request flight requests current asked =>
      exact .answered request flight requests current asked

/-- One step is consistent. -/
theorem ResumeState.Consistent.step {step : ResumeStep}
    (consistent : state.Consistent codec source base)
    (lossless : ∀ bytes, codec.decompress (codec.compress bytes) = bytes)
    (guard : state.Resumable source step) :
    ((resumeSession codec source).step state step).1.Consistent codec source base := by
  cases step with
  | start io => exact consistent.start io
  | read io => exact consistent.read lossless guard
  | store io => exact consistent.store guard
  | answer io union => exact consistent.answer guard
  | receive io => exact consistent.receive guard
  | finish io => exact consistent.finish io

end Steps

/-- In every run that can act on its offsets, the writer continues each resumed download with the
bytes that the reader sends from the offset on. -/
theorem resumed_transfer (codec : Codec) (source : Tree) (base : Path) (origin : ResumeState)
    (steps : List ResumeStep)
    (lossless : ∀ bytes, codec.decompress (codec.compress bytes) = bytes)
    (path : origin.reader.dataSource = .filePath base)
    (sameId : origin.writer.job.id = origin.reader.id)
    (fresh : origin.flight = [] ∧ origin.requests = [] ∧ origin.resumption = none)
    (resumable : (resumeSession codec source).Guarded (ResumeState.Resumable source) origin steps) :
    let final := ((resumeSession codec source).run origin steps).1
    ∀ resumption, final.resumption = some resumption → resumption.Continues codec final := by
  obtain ⟨flight, requests, unresumed⟩ := fresh
  have start : origin.Consistent codec source base :=
    ⟨path, sameId, by simp [flight, blocksOf], .quiet [] flight requests, by simp [unresumed]⟩
  have consistent := (resumeSession codec source).run_invariant (ResumeState.Resumable source)
    (fun state _ => state.Consistent codec source base)
    (fun _ _ _ guard before => before.step lossless guard) origin [] steps start resumable
  intro final resumption present
  exact (consistent.active resumption present).continues

def resumeFiles : List FileEntry := [⟨['x'], 1, 0⟩, ⟨['y'], 3, 0⟩]

def resumeSource : Tree :=
  Tree.ofFiles [[['s']]] [] [([['s'], ['x']], [9]), ([['s'], ['y']], [1, 2, 3])]

def resumeTarget : Tree :=
  Tree.ofFiles [[['b']]] [] [([['b'], "y.download".toList], [7, 7]),
    ([['b'], "y.digest".toList], [0])]

def resumeOrigin : ResumeState where
  reader := { TransferJob.newRead 1 .generic (.filePath "/s".toList) 0 resumeFiles true with
    isResume := true }
  writer := ⟨{ TransferJob.newWrite 1 .generic (.filePath "/b".toList) 0 true with
    files := resumeFiles, isResume := true }, resumeTarget⟩

def skipFirst : List ResumeStep :=
  let io := Io.clean id 0
  [.start io, .answer io (.skip true), .receive io, .start io]

def resumeSecond : List ResumeStep :=
  let io := Io.clean id 0
  [.answer io (.offsetBlk 2), .receive io, .read io, .store io, .read io, .store io]

theorem skipFirst_resumable :
    (resumeSession .plain resumeSource).Guarded (ResumeState.Resumable resumeSource) resumeOrigin
      skipFirst := by
  refine ⟨trivial, trivial, ?_, trivial, trivial⟩
  intro request rest requests offset union
  cases requests
  cases union

theorem resumeSecond_resumable :
    (resumeSession .plain resumeSource).Guarded (ResumeState.Resumable resumeSource)
      ((resumeSession .plain resumeSource).run resumeOrigin skipFirst).1 resumeSecond := by
  refine ⟨?_, ?_, fun _ => rfl, rfl, fun _ => rfl, rfl, trivial⟩
  · intro digest rest flight
    cases flight
    refine ⟨by decide +kernel, rfl, rfl, fun entry base listed path => ?_⟩
    cases path
    cases listed
    decide +kernel
  · intro request rest requests offset union
    refine ⟨rfl, rfl, fun entry base listed path => ?_⟩
    cases path
    cases listed
    decide +kernel

theorem resumed_transfer_skipped :
    let final := ((resumeSession .plain resumeSource).run resumeOrigin
      (skipFirst ++ resumeSecond)).1
    final.writer.tree.fileBytes "/b/y.download".toList = some [7, 7, 3] ∧
      final.resumption = some ⟨1, 2, "/b/y.download".toList, [1, 2, 3], [7, 7], [3], [3]⟩ ∧
      ∀ resumption, final.resumption = some resumption → resumption.Continues .plain final :=
  ⟨by decide +kernel, by decide +kernel,
    resumed_transfer .plain resumeSource "/s".toList resumeOrigin (skipFirst ++ resumeSecond)
      (fun _ => rfl) rfl (by decide) ⟨rfl, rfl, rfl⟩
      (((resumeSession .plain resumeSource).guarded_append _ _ _ _).mpr
        ⟨skipFirst_resumable, resumeSecond_resumable⟩)⟩

/-- The first file is sent before the second one is resumed behind two bytes. -/
def sentThenResumed : List ResumeStep :=
  let io := Io.clean id 0
  [.start io, .answer io (.offsetBlk 0), .receive io, .read io, .read io, .store io, .store io,
    .start io, .answer io (.offsetBlk 2), .receive io, .read io, .store io]

/-- The writer still stands at the first file when the offset of the second one is confirmed. It
ignores the request, and the next block truncates the old download. -/
theorem resumed_transfer_truncates :
    let final := ((resumeSession .plain resumeSource).run resumeOrigin sentThenResumed).1
    ∃ resumption, final.resumption = some resumption ∧ resumption.offset = 2 ∧
      resumption.kept = [7, 7] ∧ resumption.stored = [3] ∧
      final.writer.tree.fileBytes resumption.download = some [3] ∧
      ¬ resumption.Continues .plain final := by
  intro final
  have recorded : final.resumption =
      some ⟨1, 2, "/b/y.download".toList, [1, 2, 3], [7, 7], [3], [3]⟩ := by decide +kernel
  have truncated : final.writer.tree.fileBytes "/b/y.download".toList = some [3] := by
    decide +kernel
  refine ⟨_, recorded, rfl, rfl, rfl, truncated, fun continues => ?_⟩
  have download := truncated.symm.trans continues.download
  revert download
  decide

end SubnetDesk.FileTransfer
