import SubnetDesk.Construction.FileTransfer.Write
import SubnetDesk.Foundation.FileOps
import SubnetDesk.Proof.FileTransfer.DriverAgreement

namespace SubnetDesk.FileTransfer
open FileTree

/-- These bytes reach the receiver for one file number. -/
def received (codec : Codec) (file : Int) (blocks : List FileTransferBlock) : Bytes :=
  (blocks.filter fun block => block.fileNum = file).flatMap (FileTransferBlock.decoded codec)

/-- An empty uncompressed block marks the end of a file. -/
def FileTransferBlock.isEnd (block : FileTransferBlock) : Bool :=
  block.data = [] ∧ block.compressed = false

/-- The blocks of a file end with their only end mark. -/
def EndsOnce (file : Int) (blocks : List FileTransferBlock) : Prop :=
  ∃ front last, (blocks.filter fun block => block.fileNum = file) = front ++ [last] ∧
    last.isEnd = true ∧ ∀ block ∈ front, block.isEnd = false

/-- The file number indexes the contents from the start of the job. -/
def sizeBefore (contents : Int → Bytes) (start file : Int) : Nat :=
  ∑ step ∈ Finset.range (file - start).toNat, (contents (start + step)).length

theorem sizeBefore_succ (contents : Int → Bytes) (start file : Int) (forward : start ≤ file) :
    sizeBefore contents start (file + 1) = sizeBefore contents start file + (contents file).length := by
  have count : (file + 1 - start).toNat = (file - start).toNat + 1 := by omega
  have place : start + ((file - start).toNat : Int) = file := by omega
  rw [sizeBefore, count, Finset.sum_range_succ, place, sizeBefore]

theorem received_append (codec : Codec) (file : Int) (first second : List FileTransferBlock) :
    received codec file (first ++ second) =
      received codec file first ++ received codec file second := by
  simp [received]

/-- A block of another file adds nothing. -/
theorem received_other (codec : Codec) (file : Int) (block : FileTransferBlock)
    (other : block.fileNum ≠ file) : received codec file [block] = [] := by
  simp [received, other]

theorem received_same (codec : Codec) (block : FileTransferBlock) :
    received codec block.fileNum [block] = block.decoded codec := by
  simp [received]

/-- The payload of a buffer decodes to the buffer and is no end mark. -/
theorem payload_decoded (codec : Codec) (job : TransferJob) (buffer : Bytes) (id file : Int)
    (lossless : ∀ bytes, codec.decompress (codec.compress bytes) = bytes) (nonempty : buffer ≠ []) :
    let block : FileTransferBlock :=
      ⟨id, file, (job.payload codec buffer).1, (job.payload codec buffer).2⟩
    block.decoded codec = buffer ∧ block.isEnd = false := by
  unfold TransferJob.payload FileTransferBlock.decoded FileTransferBlock.isEnd
  split
  · simp [nonempty]
  · split
    · simp [lossless]
    · simp [nonempty]

/-- The call succeeds whenever the file tree allows it. -/
structure Io.Quiet (io : Io) : Prop where
  openFile : io.openFile = none
  stat : io.stat = none
  readFault : ∀ call, io.readFault call = none

/-- Every open and read succeeds, and every confirmation asks for the whole file. -/
def JobCall.Plain : JobCall → Prop
  | .init io => io.Quiet
  | .read io => io.Quiet
  | .confirm _ request => request.union = some (.offsetBlk 0)

/-- The job lists files with these contents from its start on. -/
structure Lists (tree : Tree) (job : TransferJob) (contents : Int → Bytes) (base : Path) : Prop where
  generic : job.type = .generic
  source : job.dataSource = .filePath base
  bytes : ∀ file entry, job.fileNum ≤ file → entryAt job.files file = some entry →
    tree.fileBytes (join base entry.name) = some (contents file)

/-- The open stream is ahead of the bytes that were sent for the current file. -/
def AheadOf (tree : Tree) (sent content : Bytes) : Option DataStream → Prop
  | none => sent = []
  | some (.fileStream file) =>
      (∃ inode, file.inode = some inode) ∧ file.readable = true ∧
        sent ++ DataStream.rest tree (.fileStream file) = content
  | some (.bufStream _) => False

/-- A filled buffer moves bytes from the stream to the sent ones. -/
theorem AheadOf.block {tree : Tree} {io : Io} {sent content buffer : Bytes}
    {stream next : DataStream} (ahead : AheadOf tree sent content (some stream))
    (filled : fillBuffer tree io bufSize 0 stream [] = .ok (next, buffer)) :
    AheadOf tree (sent ++ buffer) content (some next) := by
  obtain ⟨taken, whole, remaining, _, source⟩ :=
    fillBuffer_spec tree io bufSize 0 stream next [] buffer (by decide) (by simp) filled
  rw [List.nil_append] at whole
  subst whole
  cases stream with
  | bufStream cursor => exact ahead.elim
  | fileStream file =>
      cases next with
      | bufStream cursor => exact source.elim
      | fileStream moved =>
          obtain ⟨inode, readable, rest⟩ := ahead
          obtain ⟨sameInode, sameRead, _⟩ := source
          refine ⟨sameInode ▸ inode, sameRead.trans readable, ?_⟩
          rw [List.append_assoc, remaining]
          exact rest

/-- A stream behind the sent bytes fills its buffer. -/
theorem AheadOf.fills {tree : Tree} {io : Io} {sent content : Bytes} {stream : DataStream}
    (ahead : AheadOf tree sent content (some stream)) (quiet : ∀ call, io.readFault call = none) :
    ∃ filled, fillBuffer tree io bufSize 0 stream [] = .ok filled := by
  cases stream with
  | bufStream cursor => exact ahead.elim
  | fileStream file =>
      obtain ⟨⟨inode, known⟩, readable, _⟩ := ahead
      exact fillBuffer_ok tree io bufSize 0 file [] inode quiet known readable

/-- An empty buffer comes after the last byte. -/
theorem AheadOf.complete {tree : Tree} {io : Io} {sent content : Bytes}
    {stream next : DataStream} (ahead : AheadOf tree sent content (some stream))
    (filled : fillBuffer tree io bufSize 0 stream [] = .ok (next, [])) : sent = content := by
  obtain ⟨taken, whole, remaining, stopped, _⟩ :=
    fillBuffer_spec tree io bufSize 0 stream next [] [] (by decide) (by simp) filled
  have empty : taken = [] := whole.symm
  have drained : next.rest tree = [] := stopped.resolve_left (by decide)
  rw [empty, drained] at remaining
  cases stream with
  | bufStream cursor => exact ahead.elim
  | fileStream file =>
      obtain ⟨_, _, rest⟩ := ahead
      rwa [← remaining, List.append_nil, List.append_nil] at rest

/-- The emitted blocks hold every file before the current one and a part of the current one. -/
structure ReadTrace (codec : Codec) (tree : Tree) (contents : Int → Bytes) (origin job : TransferJob)
    (blocks : List FileTransferBlock) : Prop where
  type : job.type = origin.type
  source : job.dataSource = origin.dataSource
  files : job.files = origin.files
  id : job.id = origin.id
  forward : origin.fileNum ≤ job.fileNum
  bounded : job.fileNum = origin.fileNum ∨ job.fileNum ≤ origin.files.length
  sorted : blocks.Pairwise fun first second => first.fileNum ≤ second.fileNum
  tags : ∀ block ∈ blocks, block.id = origin.id ∧ origin.fileNum ≤ block.fileNum ∧
    block.fileNum ≤ job.fileNum
  ended : ∀ file, origin.fileNum ≤ file → file < job.fileNum →
    received codec file blocks = contents file ∧ EndsOnce file blocks
  inside : ∀ stream, job.dataStream = some stream → ∃ entry, job.currentEntry = some entry
  open_ : ∀ block ∈ blocks, block.fileNum = job.fileNum → block.isEnd = false
  ahead : AheadOf tree (received codec job.fileNum blocks) (contents job.fileNum) job.dataStream
  size : job.finishedSize = origin.finishedSize +
    sizeBefore contents origin.fileNum job.fileNum + (received codec job.fileNum blocks).length

/-- The trace reads neither the flags nor the counter of sent bytes. -/
theorem ReadTrace.congr {codec : Codec} {tree : Tree} {contents : Int → Bytes}
    {origin job next : TransferJob} {blocks : List FileTransferBlock}
    (trace : ReadTrace codec tree contents origin job blocks) (type : next.type = job.type)
    (source : next.dataSource = job.dataSource) (files : next.files = job.files)
    (id : next.id = job.id) (fileNum : next.fileNum = job.fileNum)
    (stream : next.dataStream = job.dataStream) (size : next.finishedSize = job.finishedSize) :
    ReadTrace codec tree contents origin next blocks where
  type := type.trans trace.type
  source := source.trans trace.source
  files := files.trans trace.files
  id := id.trans trace.id
  forward := fileNum ▸ trace.forward
  bounded := fileNum ▸ trace.bounded
  sorted := trace.sorted
  tags := fileNum ▸ trace.tags
  ended := fileNum ▸ trace.ended
  inside := by
    intro open_ present
    obtain ⟨entry, current⟩ := trace.inside open_ (stream ▸ present)
    refine ⟨entry, ?_⟩
    rw [TransferJob.currentEntry, files, fileNum]
    exact current
  open_ := fileNum ▸ trace.open_
  ahead := by
    rw [fileNum, stream]
    exact trace.ahead
  size := by
    rw [size, fileNum]
    exact trace.size

/-- A job past its list has no stream. -/
theorem ReadTrace.noStream {codec : Codec} {tree : Tree} {contents : Int → Bytes}
    {origin job : TransferJob} {blocks : List FileTransferBlock}
    (trace : ReadTrace codec tree contents origin job blocks) (past : job.currentEntry = none) :
    job.dataStream = none := by
  cases present : job.dataStream with
  | none => rfl
  | some stream =>
      obtain ⟨entry, current⟩ := trace.inside stream present
      rw [past] at current
      cases current

/-- The current file opens at its first byte. -/
theorem ReadTrace.opens {codec : Codec} {tree : Tree} {io : Io} {contents : Int → Bytes}
    {base other : Path} {origin job : TransferJob} {blocks : List FileTransferBlock}
    {entry : FileEntry} (trace : ReadTrace codec tree contents origin job blocks)
    (lists : Lists tree origin contents base) (quiet : io.Quiet)
    (source : job.dataSource = .filePath other) (current : job.currentEntry = some entry) :
    ∃ inode, orFault io.openFile (tree.openRead (join other entry.name)) =
        .ok ⟨some inode, 0, true, false, none⟩ ∧ tree.data inode = contents job.fileNum := by
  obtain rfl : base = other := by
    simpa using (lists.source.symm.trans trace.source.symm).trans source
  rw [TransferJob.currentEntry, trace.files] at current
  obtain ⟨inode, reads, content⟩ :=
    Tree.fileBytes_open (lists.bytes job.fileNum entry trace.forward current)
  exact ⟨inode, by simp [orFault, quiet.openFile, reads], content⟩

/-- The open stream fills its buffer. -/
theorem ReadTrace.fills {codec : Codec} {tree : Tree} {io : Io} {contents : Int → Bytes}
    {origin job : TransferJob} {blocks : List FileTransferBlock} {stream : DataStream}
    (trace : ReadTrace codec tree contents origin job blocks) (quiet : io.Quiet)
    (present : job.dataStream = some stream) :
    ∃ filled, fillBuffer tree io bufSize 0 stream [] = .ok filled := by
  have ahead := trace.ahead
  rw [present] at ahead
  exact ahead.fills quiet.readFault

/-- An opened file is ahead of all its bytes. -/
theorem OpenOutcome.trace {codec : Codec} {tree : Tree} {io : Io} {contents : Int → Bytes}
    {base : Path} {origin job next : TransferJob} {result : Except JobError Bool}
    {blocks : List FileTransferBlock} (outcome : OpenOutcome tree io job (next, result))
    (lists : Lists tree origin contents base) (quiet : io.Quiet)
    (trace : ReadTrace codec tree contents origin job blocks) :
    ReadTrace codec tree contents origin next blocks := by
  have path : job.dataSource = .filePath base := trace.source.trans lists.source
  cases outcome with
  | finished other source past =>
      exact trace.congr rfl rfl rfl rfl rfl (trace.noStream past).symm rfl
  | keptFile other entry stream source current present => exact trace
  | opened other entry file source current absent opened =>
      obtain ⟨inode, reads, content⟩ := trace.opens lists quiet source current
      obtain rfl : file = ⟨some inode, 0, true, false, none⟩ := by simpa [reads] using opened.symm
      have nothing : received codec job.fileNum blocks = [] := by
        simpa [AheadOf, absent] using trace.ahead
      exact { trace with
        inside := fun _ _ => ⟨entry, current⟩
        ahead := ⟨⟨inode, rfl⟩, rfl, by
          show received codec job.fileNum blocks ++ _ = _
          rw [nothing]
          simpa [DataStream.rest] using content⟩ }
  | failed other entry fault source current absent refused =>
      obtain ⟨inode, reads, _⟩ := trace.opens lists quiet source current
      cases refused.symm.trans reads
  | keptCursor cursor stream source present => cases path.symm.trans source
  | openedCursor cursor source absent => cases path.symm.trans source

/-- The start of a file keeps the trace. -/
theorem initDataStream_trace {codec : Codec} {tree : Tree} {io : Io} {contents : Int → Bytes}
    {base : Path} {origin job : TransferJob} {blocks : List FileTransferBlock}
    (lists : Lists tree origin contents base) (quiet : io.Quiet)
    (trace : ReadTrace codec tree contents origin job blocks) :
    ReadTrace codec tree contents origin (job.initDataStream tree io).1 blocks := by
  have outcome := initDataStream_outcome tree io job
  generalize job.initDataStream tree io = result at outcome
  cases outcome with
  | openFailed _ _ opening => exact opening.trace lists quiet trace
  | finished _ opening => exact opening.trace lists quiet trace
  | digestFailed _ _ opening needed refused => exact opening.trace lists quiet trace
  | asked _ lastModified fileSize opening needed taken =>
      exact (opening.trace lists quiet trace).congr rfl rfl rfl rfl rfl rfl rfl
  | ready _ opening needless => exact opening.trace lists quiet trace

/-- A confirmation keeps the trace. -/
theorem confirm_trace {codec : Codec} {tree : Tree} {io : Io} {contents : Int → Bytes}
    {origin job : TransferJob} {blocks : List FileTransferBlock}
    {request : FileTransferSendConfirmRequest} (whole : request.union = some (.offsetBlk 0))
    (trace : ReadTrace codec tree contents origin job blocks) :
    ReadTrace codec tree contents origin (job.confirm tree io request).1 blocks := by
  unfold TransferJob.confirm
  split
  · exact trace
  · simp only [whole, lt_irrefl, ite_false]
    exact trace.congr rfl rfl rfl rfl rfl rfl rfl

/-- The blocks of earlier files do not change when the current file gets another block. -/
theorem endsOnce_append {file : Int} {blocks : List FileTransferBlock} {block : FileTransferBlock}
    (other : block.fileNum ≠ file) (ends : EndsOnce file blocks) :
    EndsOnce file (blocks ++ [block]) := by
  simpa [EndsOnce, other] using ends

/-- A block of the current file keeps the order and every earlier file. -/
theorem ReadTrace.append {codec : Codec} {tree : Tree} {contents : Int → Bytes}
    {origin job : TransferJob} {blocks : List FileTransferBlock} {block : FileTransferBlock}
    (trace : ReadTrace codec tree contents origin job blocks) (id : block.id = job.id)
    (current : block.fileNum = job.fileNum) :
    ((blocks ++ [block]).Pairwise fun first second => first.fileNum ≤ second.fileNum) ∧
      (∀ other ∈ blocks ++ [block], other.id = origin.id ∧ origin.fileNum ≤ other.fileNum ∧
        other.fileNum ≤ job.fileNum) ∧
      ∀ file, origin.fileNum ≤ file → file < job.fileNum →
        received codec file (blocks ++ [block]) = contents file ∧ EndsOnce file (blocks ++ [block]) := by
  refine ⟨?_, ?_, ?_⟩
  · refine List.pairwise_append.mpr ⟨trace.sorted, List.pairwise_singleton _ _, ?_⟩
    intro other member final same
    rw [List.mem_singleton.mp same, current]
    exact (trace.tags other member).2.2
  · intro other member
    rcases List.mem_append.mp member with old | new
    · exact trace.tags other old
    · rw [List.mem_singleton.mp new, id, current]
      exact ⟨trace.id, trace.forward, le_refl _⟩
  · intro file lower upper
    obtain ⟨bytes, ends⟩ := trace.ended file lower upper
    have other : block.fileNum ≠ file := by omega
    refine ⟨?_, endsOnce_append other ends⟩
    rw [received_append, received_other codec file block other, List.append_nil, bytes]

/-- A filled buffer moves bytes from the stream to the blocks. -/
theorem ReadTrace.block {codec : Codec} {tree : Tree} {io : Io} {contents : Int → Bytes}
    {origin job : TransferJob} {blocks : List FileTransferBlock} {stream next : DataStream}
    {buffer : Bytes} (lossless : ∀ bytes, codec.decompress (codec.compress bytes) = bytes)
    (trace : ReadTrace codec tree contents origin job blocks)
    (present : job.dataStream = some stream)
    (filled : fillBuffer tree io bufSize 0 stream [] = .ok (next, buffer)) (nonempty : buffer ≠ []) :
    ReadTrace codec tree contents origin
      { job with
        dataStream := some next
        finishedSize := job.finishedSize + buffer.length
        transferred := job.transferred + (job.payload codec buffer).1.length }
      (blocks ++ [⟨job.id, job.fileNum, (job.payload codec buffer).1,
        (job.payload codec buffer).2⟩]) := by
  obtain ⟨decodes, unended⟩ :=
    payload_decoded codec job buffer job.id job.fileNum lossless nonempty
  set block : FileTransferBlock :=
    ⟨job.id, job.fileNum, (job.payload codec buffer).1, (job.payload codec buffer).2⟩
  obtain ⟨sorted, tags, ended⟩ := trace.append (show block.id = job.id from rfl) rfl
  have grown : received codec job.fileNum (blocks ++ [block]) =
      received codec job.fileNum blocks ++ buffer := by
    rw [received_append, ← decodes]
    exact congrArg _ (received_same codec block)
  have behind := trace.ahead
  rw [present] at behind
  exact {
    type := trace.type
    source := trace.source
    files := trace.files
    id := trace.id
    forward := trace.forward
    bounded := trace.bounded
    sorted := sorted
    tags := tags
    ended := ended
    inside := fun _ _ => trace.inside stream present
    open_ := by
      intro other member same
      rcases List.mem_append.mp member with old | new
      · exact trace.open_ other old same
      · rwa [List.mem_singleton.mp new]
    ahead := by
      show AheadOf tree (received codec job.fileNum (blocks ++ [block])) _ (some next)
      rw [grown]
      exact behind.block filled
    size := by
      show job.finishedSize + buffer.length = _ + sizeBefore contents origin.fileNum job.fileNum +
        (received codec job.fileNum (blocks ++ [block])).length
      rw [grown, List.length_append, trace.size]
      omega }

/-- An empty buffer ends the current file. -/
theorem ReadTrace.endFile {codec : Codec} {tree : Tree} {io : Io} {contents : Int → Bytes}
    {origin job : TransferJob} {blocks : List FileTransferBlock} {entry : FileEntry}
    {stream next : DataStream} (trace : ReadTrace codec tree contents origin job blocks)
    (current : job.currentEntry = some entry) (present : job.dataStream = some stream)
    (filled : fillBuffer tree io bufSize 0 stream [] = .ok (next, [])) :
    ReadTrace codec tree contents origin job.leaveFile
      (blocks ++ [⟨job.id, job.fileNum, [], false⟩]) := by
  set block : FileTransferBlock := ⟨job.id, job.fileNum, [], false⟩
  obtain ⟨sorted, tags, ended⟩ := trace.append (show block.id = job.id from rfl) rfl
  have unchanged : received codec job.fileNum (blocks ++ [block]) =
      received codec job.fileNum blocks := by
    rw [received_append, received_same codec block]
    exact List.append_nil _
  have complete : received codec job.fileNum blocks = contents job.fileNum := by
    have behind := trace.ahead
    rw [present] at behind
    exact behind.complete filled
  have later : ∀ other ∈ blocks ++ [block], other.fileNum ≠ job.fileNum + 1 := by
    intro other member
    have := (tags other member).2.2
    omega
  have none_ : received codec (job.fileNum + 1) (blocks ++ [block]) = [] := by
    rw [received, List.filter_eq_nil_iff.mpr (by simpa using later), List.flatMap_nil]
  exact {
    type := trace.type
    source := trace.source
    files := trace.files
    id := trace.id
    forward := by
      have := trace.forward
      show _ ≤ job.fileNum + 1
      omega
    bounded := by
      right
      show job.fileNum + 1 ≤ _
      rw [TransferJob.currentEntry, entryAt, trace.files] at current
      split at current
      · cases current
      · have := (List.getElem?_eq_some_iff.mp current).1
        omega
    sorted := sorted
    tags := by
      intro other member
      obtain ⟨id, lower, upper⟩ := tags other member
      refine ⟨id, lower, ?_⟩
      show _ ≤ job.fileNum + 1
      omega
    ended := by
      intro file lower upper
      rcases Int.lt_or_eq_of_le (Int.lt_add_one_iff.mp upper) with earlier | rfl
      · exact ended file lower earlier
      · refine ⟨unchanged.trans complete, blocks.filter (fun other => other.fileNum = job.fileNum),
          block, ?_, rfl, ?_⟩
        · simp [block]
        · intro other member
          obtain ⟨old, same⟩ := List.mem_filter.mp member
          exact trace.open_ other old (by simpa using same)
    inside := fun _ absent => by cases absent
    open_ := fun other member same => absurd same (later other member)
    ahead := none_
    size := by
      show job.finishedSize = _ + sizeBefore contents origin.fileNum (job.fileNum + 1) +
        (received codec (job.fileNum + 1) (blocks ++ [block])).length
      rw [none_, sizeBefore_succ contents origin.fileNum job.fileNum trace.forward, trace.size,
        complete]
      simp only [List.length_nil]
      omega }

/-- One call keeps the trace. -/
theorem callStep_trace {codec : Codec} {tree : Tree} {contents : Int → Bytes} {base : Path}
    {origin job : TransferJob} {blocks : List FileTransferBlock} {call : JobCall}
    (lossless : ∀ bytes, codec.decompress (codec.compress bytes) = bytes)
    (lists : Lists tree origin contents base) (plain : call.Plain)
    (trace : ReadTrace codec tree contents origin job blocks) :
    ReadTrace codec tree contents origin (callStep codec tree job call).1
      (blocks ++ (callStep codec tree job call).2) := by
  cases call with
  | init io => simpa [callStep] using initDataStream_trace lists plain trace
  | confirm io request => simpa [callStep] using confirm_trace plain trace
  | read io =>
      have outcome := read_outcome codec tree io job
      simp only [callStep]
      generalize job.read codec tree io = result at outcome ⊢
      cases outcome with
      | unconfirmed generic detection open_ => simpa using trace
      | past other source none_ =>
          have dropped : ReadTrace codec tree contents origin { job with dataStream := none } blocks :=
            trace.congr rfl rfl rfl rfl rfl (trace.noStream none_).symm rfl
          simpa using dropped
      | noStream absent => simpa using trace
      | failed stream fault present refused =>
          obtain ⟨filled, success⟩ := trace.fills plain present
          cases refused.symm.trans success
      | cursorEnd cursor source => cases (source.symm.trans trace.source).trans lists.source
      | fileEnd other entry stream next source current present filled =>
          exact trace.endFile current present filled
      | block stream next buffer present filled nonempty =>
          exact trace.block lossless present filled nonempty

/-- All calls keep the trace. -/
theorem readCalls_trace {codec : Codec} {tree : Tree} {contents : Int → Bytes} {base : Path}
    {origin job : TransferJob} {blocks : List FileTransferBlock} {calls : List JobCall}
    (lossless : ∀ bytes, codec.decompress (codec.compress bytes) = bytes)
    (lists : Lists tree origin contents base) (plain : ∀ call ∈ calls, call.Plain)
    (trace : ReadTrace codec tree contents origin job blocks) :
    ReadTrace codec tree contents origin ((readCalls codec tree).run job calls).1
      (blocks ++ ((readCalls codec tree).run job calls).2) := by
  induction calls generalizing job blocks with
  | nil => simpa [Machine.run] using trace
  | cons call rest ih =>
      have next := callStep_trace lossless lists (plain call (by simp)) trace
      have final := ih (fun other member => plain other (by simp [member])) next
      simpa only [Machine.run, readCalls, List.append_assoc] using final

/-- A job without a stream has an empty trace. -/
theorem ReadTrace.start (codec : Codec) (tree : Tree) (contents : Int → Bytes) (job : TransferJob)
    (fresh : job.dataStream = none) : ReadTrace codec tree contents job job [] where
  type := rfl
  source := rfl
  files := rfl
  id := rfl
  forward := le_refl _
  bounded := .inl rfl
  sorted := .nil
  tags := by simp
  ended := fun file lower upper => by omega
  inside := fun stream present => by rw [fresh] at present; cases present
  open_ := by simp
  ahead := by simp [AheadOf, fresh, received]
  size := by simp [sizeBefore, received]

/-- Each round starts the job, confirms its current file, and reads once. -/
def roundCalls (job : TransferJob) (opening reading : Io) : List JobCall :=
  [.init opening, .confirm opening ⟨job.id, job.fileNum, some (.offsetBlk 0)⟩, .read reading]

def drivenCalls (codec : Codec) (tree : Tree) (io : Nat → Io) : Nat → TransferJob → List JobCall
  | 0, _ => []
  | rounds + 1, job =>
      roundCalls job (io (2 * rounds)) (io (2 * rounds + 1)) ++
        drivenCalls codec tree io rounds
          ((readCalls codec tree).run job
            (roundCalls job (io (2 * rounds)) (io (2 * rounds + 1)))).1

/-- A job inside its list has a stream after its start. -/
theorem initDataStream_ready {codec : Codec} {tree : Tree} {io : Io} {contents : Int → Bytes}
    {base : Path} {origin job : TransferJob} {blocks : List FileTransferBlock} {entry : FileEntry}
    (lists : Lists tree origin contents base) (quiet : io.Quiet)
    (trace : ReadTrace codec tree contents origin job blocks)
    (current : job.currentEntry = some entry) :
    (job.initDataStream tree io).1.dataStream ≠ none ∧
      (job.initDataStream tree io).1.fileNum = job.fileNum ∧
      (job.initDataStream tree io).1.finishedSize = job.finishedSize := by
  have outcome := initDataStream_outcome tree io job
  generalize job.initDataStream tree io = result at outcome
  have ready : ∀ next result, OpenOutcome tree io job (next, .ok result) → next.dataStream ≠ none ∧
      next.fileNum = job.fileNum ∧ next.finishedSize = job.finishedSize := by
    intro next result opening
    cases opening with
    | finished other source past => rw [past] at current; cases current
    | keptFile other entry stream source current present => simp [present]
    | opened other entry file source current absent found => simp
    | keptCursor cursor stream source present => simp [present]
    | openedCursor cursor source absent => simp
  cases outcome with
  | openFailed _ _ opening =>
      cases opening with
      | failed other entry fault source current absent refused =>
          obtain ⟨inode, reads, _⟩ := trace.opens lists quiet source current
          cases refused.symm.trans reads
  | finished _ opening => exact ready _ _ opening
  | digestFailed _ _ opening needed refused => exact ready _ _ opening
  | asked next lastModified fileSize opening needed taken => exact ready next _ opening
  | ready _ opening needless => exact ready _ _ opening

/-- A read of a confirmed file sends bytes or leaves the file. -/
theorem read_advances {codec : Codec} {tree : Tree} {io : Io} {contents : Int → Bytes} {base : Path}
    {origin job : TransferJob} {blocks : List FileTransferBlock} {entry : FileEntry}
    (lists : Lists tree origin contents base) (quiet : io.Quiet)
    (trace : ReadTrace codec tree contents origin job blocks)
    (current : job.currentEntry = some entry) (present : job.dataStream ≠ none)
    (confirmed : job.fileConfirmed = true) :
    job.finishedSize + job.fileNum <
      (callStep codec tree job (.read io)).1.finishedSize +
        (callStep codec tree job (.read io)).1.fileNum := by
  have outcome := read_outcome codec tree io job
  simp only [callStep]
  generalize job.read codec tree io = result at outcome ⊢
  cases outcome with
  | unconfirmed generic detection open_ => rw [confirmed] at open_; cases open_
  | past other source none_ => rw [none_] at current; cases current
  | noStream absent => exact absurd absent present
  | failed stream fault open_ refused =>
      obtain ⟨filled, success⟩ := trace.fills quiet open_
      cases refused.symm.trans success
  | cursorEnd cursor source => cases (source.symm.trans trace.source).trans lists.source
  | fileEnd other entry stream next source current open_ filled =>
      simp only [TransferJob.leaveFile]
      omega
  | block stream next buffer open_ filled nonempty =>
      have := List.length_pos_of_ne_nil nonempty
      simp only [Nat.cast_add]
      omega

/-- A round sends bytes of the current file or leaves it. -/
theorem roundCalls_advances {codec : Codec} {tree : Tree} {opening reading : Io}
    {contents : Int → Bytes} {base : Path} {origin job : TransferJob}
    {blocks : List FileTransferBlock} {entry : FileEntry}
    (lists : Lists tree origin contents base) (opens : opening.Quiet) (reads : reading.Quiet)
    (trace : ReadTrace codec tree contents origin job blocks)
    (current : job.currentEntry = some entry) :
    let next := ((readCalls codec tree).run job (roundCalls job opening reading)).1
    job.finishedSize + job.fileNum < next.finishedSize + next.fileNum := by
  obtain ⟨present, sameFile, sameSize⟩ := initDataStream_ready lists opens trace current
  have started := initDataStream_trace lists opens trace
  have confirm : ((job.initDataStream tree opening).1.confirm tree opening
      ⟨job.id, job.fileNum, some (.offsetBlk 0)⟩).1 =
        (job.initDataStream tree opening).1.setFileConfirmed true := by
    simp [TransferJob.confirm, sameFile]
  have confirmed : ReadTrace codec tree contents origin
      ((job.initDataStream tree opening).1.setFileConfirmed true) blocks :=
    started.congr rfl rfl rfl rfl rfl rfl rfl
  have inside : ((job.initDataStream tree opening).1.setFileConfirmed true).currentEntry =
      some entry := by
    show entryAt (job.initDataStream tree opening).1.files
      (job.initDataStream tree opening).1.fileNum = some entry
    rw [sameFile, started.files, ← trace.files]
    exact current
  have advanced := read_advances lists reads confirmed inside present rfl
  simp only [roundCalls, Machine.run, readCalls, callStep, confirm] at advanced ⊢
  calc (job.finishedSize : Int) + job.fileNum
      = (job.initDataStream tree opening).1.finishedSize +
          (job.initDataStream tree opening).1.fileNum := by rw [sameSize, sameFile]
    _ < _ := advanced

/-- Later files come after more bytes. -/
theorem sizeBefore_mono (contents : Int → Bytes) (start : Int) {file later : Int}
    (order : file ≤ later) : sizeBefore contents start file ≤ sizeBefore contents start later :=
  Finset.sum_le_sum_of_subset (Finset.range_subset_range.mpr (by omega))

/-- The counters of an unfinished job are bounded by its list. -/
theorem ReadTrace.counters {codec : Codec} {tree : Tree} {contents : Int → Bytes}
    {origin job : TransferJob} {blocks : List FileTransferBlock}
    (trace : ReadTrace codec tree contents origin job blocks)
    (unfinished : job.fileNum < origin.files.length) :
    (job.finishedSize : Int) + job.fileNum < origin.finishedSize +
      sizeBefore contents origin.fileNum origin.files.length + origin.files.length := by
  have part : (received codec job.fileNum blocks).length ≤ (contents job.fileNum).length := by
    have behind := trace.ahead
    cases present : job.dataStream with
    | none =>
        rw [present] at behind
        rw [show received codec job.fileNum blocks = [] from behind]
        exact Nat.zero_le _
    | some stream =>
        rw [present] at behind
        cases stream with
        | bufStream cursor => exact behind.elim
        | fileStream file =>
            rw [← behind.2.2, List.length_append]
            omega
  have total := sizeBefore_mono contents origin.fileNum (Int.add_one_le_iff.mpr unfinished)
  rw [sizeBefore_succ contents origin.fileNum job.fileNum trace.forward] at total
  have size := trace.size
  omega

theorem roundCalls_plain (job : TransferJob) {opening reading : Io} (opens : opening.Quiet)
    (reads : reading.Quiet) : ∀ call ∈ roundCalls job opening reading, call.Plain := by
  simp [roundCalls, JobCall.Plain, opens, reads]

/-- The calls of the driver are plain. -/
theorem drivenCalls_plain (codec : Codec) (tree : Tree) {io : Nat → Io} (rounds : Nat)
    (job : TransferJob) (quiet : ∀ call, (io call).Quiet) :
    ∀ call ∈ drivenCalls codec tree io rounds job, call.Plain := by
  induction rounds generalizing job with
  | zero => simp [drivenCalls]
  | succ rounds ih =>
      rw [drivenCalls, List.forall_mem_append]
      exact ⟨roundCalls_plain job (quiet _) (quiet _), ih _⟩

/-- A job past its list stays there. -/
theorem ReadTrace.stays {codec : Codec} {tree : Tree} {contents : Int → Bytes} {base : Path}
    {origin job : TransferJob} {blocks : List FileTransferBlock} {calls : List JobCall}
    (lossless : ∀ bytes, codec.decompress (codec.compress bytes) = bytes)
    (lists : Lists tree origin contents base)
    (trace : ReadTrace codec tree contents origin job blocks) (past : job.currentEntry = none)
    (plain : ∀ call ∈ calls, call.Plain) :
    job.fileNum ≤ ((readCalls codec tree).run job calls).1.fileNum := by
  have later : Lists tree job contents base := {
    generic := trace.type.trans lists.generic
    source := trace.source.trans lists.source
    bytes := by
      intro file entry lower listed
      rw [trace.files] at listed
      exact lists.bytes file entry (trace.forward.trans lower) listed }
  have restarted := ReadTrace.start codec tree contents job (trace.noStream past)
  exact (readCalls_trace lossless later plain restarted).forward

/-- Every round before the end of the list raises the counters. -/
theorem drivenCalls_advances {codec : Codec} {tree : Tree} {io : Nat → Io} {contents : Int → Bytes}
    {base : Path} {origin job : TransferJob} {blocks : List FileTransferBlock} (rounds : Nat)
    (lossless : ∀ bytes, codec.decompress (codec.compress bytes) = bytes)
    (lists : Lists tree origin contents base) (quiet : ∀ call, (io call).Quiet)
    (start : 0 ≤ origin.fileNum) (trace : ReadTrace codec tree contents origin job blocks) :
    let final := ((readCalls codec tree).run job (drivenCalls codec tree io rounds job)).1
    (origin.files.length : Int) ≤ final.fileNum ∨
      job.finishedSize + job.fileNum + rounds ≤ final.finishedSize + final.fileNum := by
  induction rounds generalizing job blocks with
  | zero => exact .inr (by simp [drivenCalls, Machine.run])
  | succ rounds ih =>
      cases current : job.currentEntry with
      | none =>
          have past : (job.files.length : Int) ≤ job.fileNum :=
            length_le_of_currentEntry (start.trans trace.forward) current
          have kept := trace.stays lossless lists current
            (drivenCalls_plain codec tree (rounds + 1) job quiet)
          rw [trace.files] at past
          exact .inl (past.trans kept)
      | some entry =>
          have plain := roundCalls_plain job (quiet (2 * rounds)) (quiet (2 * rounds + 1))
          have advanced := roundCalls_advances lists (quiet (2 * rounds)) (quiet (2 * rounds + 1))
            trace current
          have tail := ih (readCalls_trace lossless lists plain trace)
          simp only [drivenCalls, Machine.run_append] at advanced tail ⊢
          rcases tail with finished | raised
          · exact .inl finished
          · right
            push_cast at raised ⊢
            omega

/-- A job past its list counted every byte of its files. -/
theorem ReadTrace.total {codec : Codec} {tree : Tree} {contents : Int → Bytes}
    {origin job : TransferJob} {blocks : List FileTransferBlock}
    (trace : ReadTrace codec tree contents origin job blocks)
    (complete : (origin.files.length : Int) ≤ job.fileNum) :
    job.finishedSize =
      origin.finishedSize + sizeBefore contents origin.fileNum origin.files.length := by
  have past : job.currentEntry = none := currentEntry_past (by rw [trace.files]; exact complete)
  have nothing : received codec job.fileNum blocks = [] := by
    have behind := trace.ahead
    rw [trace.noStream past] at behind
    exact behind
  have same : sizeBefore contents origin.fileNum job.fileNum =
      sizeBefore contents origin.fileNum origin.files.length := by
    rcases trace.bounded with still | inside
    · have late : (origin.files.length : Int) - origin.fileNum ≤ 0 := by omega
      simp [sizeBefore, still, Int.toNat_of_nonpos late]
    · rw [le_antisymm inside complete]
  rw [trace.size, nothing, same]
  rfl

/-- The blocks of a run have ordered file numbers. Once the job has passed its list, the blocks of
every file decode to its bytes and end with one end mark, and the job counted every byte. The job
passes its list after enough rounds. -/
theorem readCalls_reproduce_files (codec : Codec) (tree : Tree) (contents : Int → Bytes)
    (base : Path) (job : TransferJob) (calls : List JobCall)
    (lossless : ∀ bytes, codec.decompress (codec.compress bytes) = bytes)
    (lists : Lists tree job contents base) (fresh : job.dataStream = none)
    (plain : ∀ call ∈ calls, call.Plain) :
    let final := ((readCalls codec tree).run job calls).1
    let blocks := ((readCalls codec tree).run job calls).2
    (blocks.Pairwise fun first second => first.fileNum ≤ second.fileNum) ∧
      ((job.files.length : Int) ≤ final.fileNum →
        (∀ file, job.fileNum ≤ file → file < job.files.length →
          received codec file blocks = contents file ∧ EndsOnce file blocks) ∧
        final.finishedSize =
          job.finishedSize + sizeBefore contents job.fileNum job.files.length) ∧
      (∀ (io : Nat → Io) (rounds : Nat), (∀ call, (io call).Quiet) → 0 ≤ job.fileNum →
        sizeBefore contents job.fileNum job.files.length + job.files.length ≤
          rounds + job.fileNum →
        (job.files.length : Int) ≤
          ((readCalls codec tree).run job (drivenCalls codec tree io rounds job)).1.fileNum) := by
  have begun := ReadTrace.start codec tree contents job fresh
  have trace := readCalls_trace lossless lists plain begun
  rw [List.nil_append] at trace
  refine ⟨trace.sorted, fun complete => ⟨fun file lower upper =>
    trace.ended file lower (by omega), ?_⟩, fun io rounds quiet start enough => ?_⟩
  · exact trace.total complete
  · by_contra unfinished
    have whole := readCalls_trace lossless lists (drivenCalls_plain codec tree rounds job quiet) begun
    have bounded := whole.counters (by omega)
    rcases drivenCalls_advances rounds lossless lists quiet start begun with finished | raised
    · exact unfinished finished
    · omega

def pairContents (file : Int) : Bytes := if file = 0 then [1, 2] else [3, 4]

theorem pairJob_lists : Lists pairTree (pairJob 1 true) pairContents "/b".toList where
  generic := rfl
  source := rfl
  bytes := by
    intro file entry lower listed
    replace lower : (0 : Int) ≤ file := lower
    rw [entryAt, if_neg (not_lt.mpr lower)] at listed
    have inside : file.toNat < 2 := (List.getElem?_eq_some_iff.mp listed).1
    have place : file = 0 ∨ file = 1 := by omega
    rcases place with rfl | rfl
    all_goals
      obtain rfl := Option.some.inj listed
      decide +kernel

theorem readCalls_reproduce_files_pairJob :
    let calls := drivenCalls .plain pairTree (fun _ => Io.clean id 0) 6 (pairJob 1 true)
    let blocks := ((readCalls .plain pairTree).run (pairJob 1 true) calls).2
    (∀ call ∈ calls, call.Plain) ∧ received .plain 0 blocks = [1, 2] ∧ EndsOnce 0 blocks ∧
      received .plain 1 blocks = [3, 4] ∧ EndsOnce 1 blocks := by
  intro calls blocks
  have quiet : (Io.clean id 0).Quiet := ⟨rfl, rfl, fun _ => rfl⟩
  have plain : ∀ call ∈ calls, call.Plain :=
    drivenCalls_plain .plain pairTree 6 (pairJob 1 true) fun _ => quiet
  obtain ⟨_, complete, finishes⟩ := readCalls_reproduce_files .plain pairTree pairContents "/b".toList
    (pairJob 1 true) calls (fun _ => rfl) pairJob_lists rfl plain
  obtain ⟨files, _⟩ := complete (finishes (fun _ => Io.clean id 0) 6 (fun _ => quiet) (le_refl 0)
    (by decide))
  obtain ⟨first, firstEnd⟩ := files 0 (le_refl 0) (by decide)
  obtain ⟨second, secondEnd⟩ := files 1 (by decide) (by decide)
  exact ⟨plain, first, firstEnd, second, secondEnd⟩

end SubnetDesk.FileTransfer
