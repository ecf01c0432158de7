import SubnetDesk.Proof.FileTransfer.FileDelivery

namespace SubnetDesk.FileTransfer
open FileTree

/-- The delivered file replaces its place, and its side files are gone. -/
def deliver (store : Location → Option Bytes) (slot : Slot) (bytes : Bytes) :
    Location → Option Bytes := fun place =>
  if place = slot.final then some bytes
  else if place = slot.download ∨ place = slot.digest then none
  else store place

/-- The job writes the listed files below its base directory. -/
structure Writes (id : Int) (base : Path) (files : List FileEntry) (job : TransferJob) : Prop where
  id : job.id = id
  generic : job.type = .generic
  source : job.dataSource = .filePath base
  files : job.files = files

/-- The tree holds the files of the store, and the first files of the list can be found. -/
structure Stocked (origin : Tree) (root : Location) (base : Path) (files : List FileEntry)
    (store : Location → Option Bytes) (count : Nat) (tree : Tree) : Prop where
  linked : Linked origin tree
  unshared : tree.Unshared root (SidePlace root base files)
  stored : ∀ place, root <+: place → tree.fileAt place = store place
  reachable : ∀ index entry, index < count → files[index]? = some entry →
    Reachable tree root base entry.name

/-- The job has received these bytes for one file, and the other files are those of the store. -/
structure Receiving (origin : Tree) (root : Location) (base : Path) (files : List FileEntry)
    (store : Location → Option Bytes) (index : Nat) (entry : FileEntry) (bytes : Bytes)
    (writer : Writer) : Prop where
  fileNum : writer.job.fileNum = index
  listed : files[index]? = some entry
  linked : Linked origin writer.tree
  unshared : writer.tree.Unshared root (SidePlace root base files)
  reachable : ∀ index_ entry, index_ < index + 1 → files[index_]? = some entry →
    Reachable writer.tree root base entry.name
  stream : ∃ inode, writer.job.dataStream =
      some (.fileStream ⟨some inode, bytes.length, false, true, none⟩) ∧
    writer.tree.node (slot root base entry.name).download = some (.file inode)
  stored : writer.tree.fileAt (slot root base entry.name).download = some bytes
  others : ∀ place, root <+: place → place ≠ (slot root base entry.name).download →
    place ≠ (slot root base entry.name).digest → writer.tree.fileAt place = store place

theorem downloadSide {root : Location} {base : Path} {files : List FileEntry} {entry : FileEntry}
    (member : entry ∈ files) : SidePlace root base files (slot root base entry.name).download :=
  ⟨entry, member, .inl rfl⟩

theorem digestSide {root : Location} {base : Path} {files : List FileEntry} {entry : FileEntry}
    (member : entry ∈ files) : SidePlace root base files (slot root base entry.name).digest :=
  ⟨entry, member, .inr rfl⟩

theorem setData_self (tree : Tree) (inode : Nat) : tree.setData inode (tree.data inode) = tree := by
  rw [Tree.setData, Function.update_eq_self]

/-- A writable file stores a write at its position, and a fault is still waiting afterwards only
where one was waiting or has happened. -/
theorem writeAll_file (tree : Tree) (io : Io) (bytes : Bytes) (inode pos : Nat) (readable : Bool)
    (waiting : Option Fault) :
    let file : Handle := ⟨some inode, pos, readable, true, waiting⟩
    let stored := DataStream.storedPart io bytes (.fileStream file)
    ∃ later answer, DataStream.writeAll tree io bytes (.fileStream file) =
        (.fileStream ⟨some inode, pos + stored.length, readable, true, later⟩,
          tree.setData inode (overwrite (tree.data inode) pos stored), answer) ∧
      (waiting = none → io.writeAll = none → later = none) := by
  intro file stored
  have unstored : stored = [] → tree.setData inode (overwrite (tree.data inode) pos stored) = tree := by
    intro empty
    rw [empty, overwrite, if_pos rfl, setData_self]
  unfold DataStream.writeAll
  dsimp only
  split
  next empty =>
    have nothing : stored = [] := by
      simp only [stored, DataStream.storedPart, writtenPart, empty, List.take_nil]
      split
      · split
        · rfl
        · rfl
      · rfl
    refine ⟨waiting, none, ?_, fun quiet _ => quiet⟩
    rw [unstored nothing, nothing]
    rfl
  next =>
    cases waiting with
    | some fault =>
        have nothing : stored = [] := rfl
        refine ⟨none, some fault, ?_, by simp⟩
        rw [unstored nothing, nothing]
        rfl
    | none =>
        have written : stored = writtenPart io bytes := rfl
        refine ⟨(chunkFault bytes.length io.writeAll).1, (chunkFault bytes.length io.writeAll).2, ?_,
          fun _ quiet => by rw [quiet]; rfl⟩
        rw [written]

/-- A writable stream stores a block at its position. -/
theorem writeStream_file (codec : Codec) (tree : Tree) (io : Io) (block : FileTransferBlock)
    {job : TransferJob} {inode pos : Nat} {readable : Bool} {waiting : Option Fault}
    (stream : job.dataStream = some (.fileStream ⟨some inode, pos, readable, true, waiting⟩)) :
    let stored := DataStream.storedPart io (block.decoded codec)
      (.fileStream ⟨some inode, pos, readable, true, waiting⟩)
    ∃ later finished transferred err, job.writeStream codec tree io block =
      ({ job with
          dataStream := some (.fileStream ⟨some inode, pos + stored.length, readable, true, later⟩)
          finishedSize := finished
          transferred := transferred },
        tree.setData inode (overwrite (tree.data inode) pos stored), err) ∧
      (waiting = none → io.writeAll = none → later = none) := by
  intro stored
  obtain ⟨later, answer, written, quiet⟩ := writeAll_file tree io (block.decoded codec) inode pos
    readable waiting
  rw [TransferJob.writeStream, stream]
  dsimp only
  rw [written]
  cases answer with
  | none => exact ⟨later, _, _, _, rfl, quiet⟩
  | some fault => exact ⟨later, _, _, _, rfl, quiet⟩

/-- A stored block changes the open stream and its file. -/
theorem writeStream_shape (codec : Codec) (tree : Tree) (io : Io) (block : FileTransferBlock)
    (job : TransferJob) :
    ∃ stream finished transferred, (job.writeStream codec tree io block).1 =
        { job with dataStream := stream, finishedSize := finished, transferred := transferred } ∧
      ((job.writeStream codec tree io block).2.1 = tree ∨
        ∃ inode bytes, (job.writeStream codec tree io block).2.1 = tree.setData inode bytes) := by
  unfold TransferJob.writeStream
  split
  next => exact ⟨job.dataStream, job.finishedSize, job.transferred, rfl, .inl rfl⟩
  next stream present =>
    have kept : (stream.writeAll tree io (block.decoded codec)).2.1 = tree ∨
        ∃ inode bytes, (stream.writeAll tree io (block.decoded codec)).2.1 =
          tree.setData inode bytes := by
      cases stream with
      | bufStream cursor => exact .inl rfl
      | fileStream file =>
          obtain ⟨_, _, _, _, equal, changed⟩ :=
            writeAll_handle tree io (block.decoded codec) file
          rw [equal]
          exact changed.imp_right fun ⟨inode, stored, _, _, same⟩ => ⟨inode, stored, same⟩
    split
    next equal =>
      rw [equal] at kept
      exact ⟨_, _, _, rfl, kept⟩
    next equal =>
      rw [equal] at kept
      exact ⟨_, _, _, rfl, kept⟩

/-- A generic job writes to the download of the validated path. -/
theorem openTarget_generic (codec : Codec) (tree : Tree) (io : Io) (base name : Path)
    {job : TransferJob} (generic : job.type = .generic) :
    job.openTarget codec tree io base name =
      match joinValidatedPath tree io base name with
      | .error err => (tree, .error err)
      | .ok path => openDownload codec tree io path job.digest := by
  cases joined : joinValidatedPath tree io base name with
  | error err => simp only [TransferJob.openTarget, generic, joined]
  | ok path => simp only [TransferJob.openTarget, generic, joined]

/-- A block for another file first leaves the old file and opens its own. -/
theorem write_switched (codec : Codec) (tree : Tree) (io : Io) (block : FileTransferBlock)
    {job : TransferJob} {base : Path} {entry : FileEntry} (sameId : block.id = job.id)
    (source : job.dataSource = .filePath base) (found : entryAt job.files block.fileNum = some entry)
    (switches : block.fileNum ≠ job.fileNum ∨ job.dataStream = none)
    (quiet : job.syncFault io = none) :
    job.write codec tree io block =
      match { job with fileNum := block.fileNum }.openTarget codec (job.modifyTime tree io) io base
          entry.name with
      | (opened, .error err) => ({ job with fileNum := block.fileNum }, opened, .error err)
      | (opened, .ok file) =>
          { job with
            fileNum := block.fileNum
            dataStream := some (.fileStream file) }.writeStream codec opened io block := by
  have prepared : job.prepare codec tree io block =
      job.switchFile codec tree io base block.fileNum entry := by
    rw [TransferJob.prepare, source]
    simp only [found, if_pos switches]
  rw [TransferJob.write, if_neg (not_not.mpr sameId), prepared, TransferJob.switchFile, quiet]
  dsimp only
  generalize TransferJob.openTarget codec (job.modifyTime tree io) io base entry.name _ = result
  rcases result with ⟨opened, err | file⟩
  · rfl
  · rfl

/-- A block of the open file is only stored. -/
theorem write_continued (codec : Codec) (tree : Tree) (io : Io) (block : FileTransferBlock)
    {job : TransferJob} {base : Path} {entry : FileEntry} (sameId : block.id = job.id)
    (source : job.dataSource = .filePath base) (found : entryAt job.files block.fileNum = some entry)
    (sameFile : block.fileNum = job.fileNum) (open_ : job.dataStream ≠ none) :
    job.write codec tree io block = job.writeStream codec tree io block := by
  have prepared : job.prepare codec tree io block = (job, tree, .ok ()) := by
    rw [TransferJob.prepare, source]
    simp only [found]
    rw [if_neg (by simp [sameFile, open_])]
  rw [TransferJob.write, if_neg (not_not.mpr sameId), prepared]

section Calls

variable {origin : Tree} {root : Location} {base : Path} {files : List FileEntry}
  {store : Location → Option Bytes} {index : Nat} {entry : FileEntry} {bytes : Bytes}
  {writer : Writer} {id : Int} {io : Io} {codec : Codec} {block : FileTransferBlock}

/-- The current path is that of the entry. -/
theorem Writes.currentPath (writes : Writes id base files writer.job) (fileNum : writer.job.fileNum = index)
    (listed : files[index]? = some entry) {path : Path}
    (resolved : writer.job.currentPath writer.tree io = some path) : path = join base entry.name := by
  have current : writer.job.currentEntry = some entry := by
    simp [TransferJob.currentEntry, entryAt, fileNum, writes.files, listed]
  simp only [TransferJob.currentPath, writes.generic, writes.source, current] at resolved
  exact resolveEntryPath_eq resolved

/-- The end of one file delivers it. -/
theorem Receiving.modifyTime (receiving : Receiving origin root base files store index entry bytes writer)
    (writes : Writes id base files writer.job)
    (located : ∀ entry ∈ files, Located origin root base entry.name) (faultless : io.Faultless)
    (renames : writer.job.Renames writer.tree io) :
    Stocked origin root base files (deliver store (slot root base entry.name) bytes) (index + 1)
      (writer.job.modifyTime writer.tree io) := by
  obtain ⟨path, resolved, renamed⟩ := renames
  obtain rfl := writes.currentPath receiving.fileNum receiving.listed resolved
  obtain ⟨inode, _, present⟩ := receiving.stream
  have member : entry ∈ files := List.mem_of_getElem? receiving.listed
  have reachable := receiving.reachable index entry (Nat.lt_succ_self _) receiving.listed
  obtain ⟨changes, final, download, digest⟩ := (located entry member).finishPath receiving.linked
    receiving.unshared (downloadSide member) reachable.anchored faultless present renamed
  have finished : writer.job.modifyTime writer.tree io =
      finishPath writer.tree io (join base entry.name) := by
    rw [TransferJob.modifyTime, resolved]
  rw [finished]
  refine ⟨changes.linked receiving.linked, changes.unshared, fun place below => ?_,
    fun other entry_ earlier found => (receiving.reachable other entry_ earlier found).mono changes⟩
  unfold deliver
  split
  next same => rw [same, final, receiving.stored]
  next notFinal =>
    split
    next side =>
      rcases side with rfl | rfl
      · exact download
      · exact digest
    next neither =>
      obtain ⟨notDownload, notDigest⟩ := not_or.mp neither
      rw [changes.kept place below (by simp [notFinal, notDownload, notDigest])]
      exact receiving.others place below notDownload notDigest

/-- A block of the open file goes to the end of its download. -/
theorem Receiving.writeStream
    (receiving : Receiving origin root base files store index entry bytes writer)
    (writes : Writes id base files writer.job) (faultless : io.Faultless) (codec : Codec)
    (block : FileTransferBlock) :
    let result := writer.job.writeStream codec writer.tree io block
    Receiving origin root base files store index entry (bytes ++ block.decoded codec)
      ⟨result.1, result.2.1⟩ ∧ Writes id base files result.1 := by
  obtain ⟨inode, stream, present⟩ := receiving.stream
  have held : writer.tree.data inode = bytes := by
    have stored := receiving.stored
    rw [Tree.fileAt_file present] at stored
    exact Option.some.inj stored
  have member : entry ∈ files := List.mem_of_getElem? receiving.listed
  have below := (slot_below root base entry.name).2.1
  have changes := setData_changes present (downloadSide member) below receiving.unshared
    (bytes ++ block.decoded codec)
  obtain ⟨later, finished, transferred, err, written, calm⟩ :=
    writeStream_file codec writer.tree io block stream
  obtain rfl := calm rfl faultless.writeAll
  rw [written]
  simp only [DataStream.storedPart, if_pos, writtenPart, faultless.writeAll, held, overwrite_end]
  refine ⟨⟨receiving.fileNum, receiving.listed, changes.linked receiving.linked, changes.unshared,
    fun other entry_ earlier found => (receiving.reachable other entry_ earlier found).mono changes,
    ⟨inode, by rw [List.length_append], present⟩, ?_, ?_⟩, writes.id, writes.generic, writes.source,
    writes.files⟩
  · exact Tree.fileAt_setData present _
  · intro place inside notDownload notDigest
    exact (changes.kept place inside (by simpa using notDownload)).trans
      (receiving.others place inside notDownload notDigest)

/-- The first block of a file opens its download. -/
theorem Stocked.write (writes : Writes id base files writer.job)
    (stocked : Stocked origin root base files store index (writer.job.modifyTime writer.tree io))
    (located : ∀ entry ∈ files, Located origin root base entry.name) (faultless : io.Faultless)
    (sameId : block.id = id) (sameFile : block.fileNum = index) (listed : files[index]? = some entry)
    (switches : block.fileNum ≠ writer.job.fileNum ∨ writer.job.dataStream = none)
    (success : (writer.job.write codec writer.tree io block).2.2 = .ok ()) :
    let result := writer.job.write codec writer.tree io block
    Receiving origin root base files store index entry (block.decoded codec)
      ⟨result.1, result.2.1⟩ ∧ Writes id base files result.1 := by
  have found : entryAt writer.job.files block.fileNum = some entry := by
    simp [entryAt, sameFile, writes.files, listed]
  have quiet : writer.job.syncFault io = none := by
    unfold TransferJob.syncFault
    split
    · exact faultless.sync
    · rfl
  have member : entry ∈ files := List.mem_of_getElem? listed
  have switched := write_switched codec writer.tree io block (sameId.trans writes.id.symm)
    writes.source found switches quiet
  have generic : ({ writer.job with fileNum := block.fileNum } : TransferJob).type = .generic :=
    writes.generic
  rw [openTarget_generic codec _ io base entry.name generic] at switched
  cases joined : joinValidatedPath (writer.job.modifyTime writer.tree io) io base entry.name with
  | error err =>
      rw [switched, joined] at success
      cases success
  | ok path =>
      obtain rfl := joinValidatedPath_eq joined
      rw [joined] at switched
      dsimp only at switched
      rcases opening : openDownload codec (writer.job.modifyTime writer.tree io) io
        (join base entry.name) writer.job.digest with ⟨opened, err | file⟩
      · rw [switched, opening] at success
        cases success
      · obtain ⟨inode, rfl, present, empty, changes, anchored⟩ :=
          (located entry member).openDownload stocked.linked stocked.unshared (downloadSide member)
            (digestSide member) opening
        have parent : opened.node (slot root base entry.name).download.dropLast = some .dir :=
          opened.rooted _ _ present (by simp [slot, sidePlace])
        let ready : Writer := ⟨{ writer.job with
          fileNum := block.fileNum, dataStream := some (.fileStream ⟨some inode, 0, false, true, none⟩) },
          opened⟩
        have start : Receiving origin root base files store index entry [] ready := by
          refine ⟨sameFile, listed, changes.linked stocked.linked, changes.unshared, ?_,
            ⟨inode, rfl, present⟩, empty, ?_⟩
          · intro other entry_ earlier known
            rcases Nat.lt_succ_iff_lt_or_eq.mp earlier with before | rfl
            · exact (stocked.reachable other entry_ before known).mono changes
            · obtain rfl : entry = entry_ := Option.some.inj (listed.symm.trans known)
              exact ⟨anchored, parent⟩
          · intro place below notDownload notDigest
            exact (changes.kept place below (by simp [notDownload, notDigest])).trans
              (stocked.stored place below)
        have kept : Writes id base files ready.job :=
          ⟨writes.id, writes.generic, writes.source, writes.files⟩
        rw [opening] at switched
        rw [switched]
        exact start.writeStream kept faultless codec block

/-- A file that is received is open. -/
theorem Receiving.opened
    (receiving : Receiving origin root base files store index entry bytes writer) :
    writer.job.dataStream ≠ none := by
  obtain ⟨_, stream, _⟩ := receiving.stream
  simp [stream]

theorem drop_listed (listed : files[index]? = some entry) :
    files.drop index = entry :: files.drop (index + 1) := by
  obtain ⟨bound, same⟩ := List.getElem?_eq_some_iff.mp listed
  rw [List.drop_eq_getElem_cons bound, same]

theorem Writes.found (writes : Writes id base files writer.job) (sameFile : block.fileNum = index)
    (listed : files[index]? = some entry) :
    entryAt writer.job.files block.fileNum = some entry := by
  simp [entryAt, sameFile, writes.files, listed]

end Calls

/-- These calls write the blocks of one file. -/
structure BlocksOf (id : Int) (index : Nat) (calls : List (Io × FileTransferBlock)) : Prop where
  faultless : ∀ call ∈ calls, call.1.Faultless
  id : ∀ call ∈ calls, call.2.id = id
  file : ∀ call ∈ calls, call.2.fileNum = index

def payload (codec : Codec) (calls : List (Io × FileTransferBlock)) : Bytes :=
  (calls.map fun call => call.2.decoded codec).flatten

def writeSteps (calls : List (Io × FileTransferBlock)) : List WriteStep :=
  calls.map fun call => .write call.1 call.2

/-- Every call of the step succeeds, and a finished download takes its final name. -/
def Succeeds (codec : Codec) (writer : Writer) : WriteStep → Prop
  | .write io block =>
      (writer.job.write codec writer.tree io block).2.2 = .ok () ∧
        (writer.job.dataStream ≠ none → block.fileNum ≠ writer.job.fileNum →
          writer.job.Renames writer.tree io)
  | .finish io => writer.job.dataStream ≠ none → writer.job.Renames writer.tree io
  | _ => True

instance (codec : Codec) (writer : Writer) : ∀ step, Decidable (Succeeds codec writer step)
  | .write _ _ => inferInstanceAs (Decidable (_ ∧ _))
  | .finish io =>
      inferInstanceAs (Decidable (writer.job.dataStream ≠ none → writer.job.Renames writer.tree io))
  | .setDigest _ _ | .confirm _ _ | .cancel _ => inferInstanceAs (Decidable True)

section Runs

variable {origin : Tree} {root : Location} {base : Path} {files : List FileEntry}
  {store : Location → Option Bytes} {index : Nat} {entry : FileEntry} {bytes : Bytes}
  {writer : Writer} {id : Int} {io : Io} {codec : Codec}

/-- The later blocks of a file follow its first one. -/
theorem Receiving.run (calls : List (Io × FileTransferBlock))
    (receiving : Receiving origin root base files store index entry bytes writer)
    (writes : Writes id base files writer.job) (blocks : BlocksOf id index calls) :
    let next := ((writeSession codec).run writer (writeSteps calls)).1
    Receiving origin root base files store index entry (bytes ++ payload codec calls) next ∧
      Writes id base files next.job := by
  induction calls generalizing writer bytes with
  | nil =>
      rw [payload, List.map_nil, List.flatten_nil, List.append_nil]
      exact ⟨receiving, writes⟩
  | cons call rest ih =>
      have sameFile := blocks.file call (by simp)
      obtain ⟨inode, stream, _⟩ := receiving.stream
      have continued := write_continued codec writer.tree call.1 call.2
        ((blocks.id call (by simp)).trans writes.id.symm) writes.source
        (writes.found sameFile receiving.listed) (sameFile.trans receiving.fileNum.symm)
        (by simp [stream])
      obtain ⟨stored, kept⟩ := receiving.writeStream writes
        (blocks.faultless call (by simp)) codec call.2
      rw [← continued] at stored kept
      have later : BlocksOf id index rest :=
        ⟨fun other member => blocks.faultless other (by simp [member]),
          fun other member => blocks.id other (by simp [member]),
          fun other member => blocks.file other (by simp [member])⟩
      have tail := ih stored kept later
      rw [List.append_assoc] at tail
      exact tail

/-- The first block of a file opens its download, and the later ones follow it. -/
theorem Stocked.run (call : Io × FileTransferBlock) (rest : List (Io × FileTransferBlock))
    (writes : Writes id base files writer.job)
    (stocked : Stocked origin root base files store index
      (writer.job.modifyTime writer.tree call.1))
    (located : ∀ entry ∈ files, Located origin root base entry.name)
    (blocks : BlocksOf id index (call :: rest)) (listed : files[index]? = some entry)
    (switches : call.2.fileNum ≠ writer.job.fileNum ∨ writer.job.dataStream = none)
    (success : (writer.job.write codec writer.tree call.1 call.2).2.2 = .ok ()) :
    let next := ((writeSession codec).run writer (writeSteps (call :: rest))).1
    Receiving origin root base files store index entry (payload codec (call :: rest)) next ∧
      Writes id base files next.job := by
  obtain ⟨receiving, kept⟩ := stocked.write writes located (blocks.faultless call (by simp))
    (blocks.id call (by simp)) (blocks.file call (by simp)) listed switches success
  have later : BlocksOf id index rest :=
    ⟨fun other member => blocks.faultless other (by simp [member]),
      fun other member => blocks.id other (by simp [member]),
      fun other member => blocks.file other (by simp [member])⟩
  exact receiving.run rest kept later

/-- The files of a list are delivered one after the other. -/
def deliverAll (root : Location) (base : Path) :
    (Location → Option Bytes) → List FileEntry → List Bytes → Location → Option Bytes
  | store, entry :: entries, bytes :: contents =>
      deliverAll root base (deliver store (slot root base entry.name) bytes) entries contents
  | store, _, _ => store

/-- The blocks of the remaining files arrive in order and end with the end of the job. -/
theorem Receiving.deliverRest (groups : List (List (Io × FileTransferBlock)))
    (receiving : Receiving origin root base files store index entry bytes writer)
    (writes : Writes id base files writer.job)
    (located : ∀ entry ∈ files, Located origin root base entry.name)
    (filled : ∀ calls ∈ groups, calls ≠ [])
    (blocks : ∀ offset calls, groups[offset]? = some calls → BlocksOf id (index + 1 + offset) calls)
    (complete : files.length = index + 1 + groups.length) (faultless : io.Faultless)
    (succeeds : (writeSession codec).Guarded (Succeeds codec) writer
      (groups.flatMap writeSteps ++ [.finish io])) :
    Stocked origin root base files
      (deliverAll root base store (files.drop index) (bytes :: groups.map (payload codec)))
      files.length
      ((writeSession codec).run writer (groups.flatMap writeSteps ++ [.finish io])).1.tree := by
  induction groups generalizing writer bytes index entry store with
  | nil =>
      have delivered := receiving.modifyTime writes located faultless (succeeds.1 receiving.opened)
      rw [drop_listed receiving.listed, List.drop_eq_nil_of_le (by rw [complete]; simp), complete]
      exact delivered
  | cons calls groups ih =>
      obtain ⟨call, rest, rfl⟩ := List.exists_cons_of_ne_nil (filled calls (by simp))
      have mine : BlocksOf id (index + 1) (call :: rest) := blocks 0 _ rfl
      rw [List.length_cons] at complete
      have more : index + 1 < files.length := by omega
      have next : files[index + 1]? = some files[index + 1] := List.getElem?_eq_getElem more
      have other : call.2.fileNum ≠ writer.job.fileNum := by
        rw [mine.file call (by simp), receiving.fileNum]
        omega
      rw [List.flatMap_cons, List.append_assoc] at succeeds ⊢
      obtain ⟨first, tail⟩ := ((writeSession codec).guarded_append _ _ _ _).mp succeeds
      obtain ⟨success, renames⟩ := first.1
      have stocked := receiving.modifyTime writes located (mine.faultless call (by simp))
        (renames receiving.opened other)
      obtain ⟨started, kept⟩ := stocked.run call rest writes located mine next (.inl other) success
      have later : ∀ offset calls, groups[offset]? = some calls →
          BlocksOf id (index + 1 + 1 + offset) calls := by
        intro offset calls found
        have shifted := blocks (offset + 1) calls (by simpa using found)
        rwa [show index + 1 + (offset + 1) = index + 1 + 1 + offset by omega] at shifted
      rw [(writeSession codec).run_append, drop_listed receiving.listed]
      exact ih started kept (fun calls member => filled calls (by simp [member])) later
        (by omega) tail

end Runs

/-- The file of the first entry is no side file of the second one. -/
def SidesApart (root : Location) (base : Path) (first second : FileEntry) : Prop :=
  (slot root base first.name).final ≠ (slot root base second.name).download ∧
    (slot root base first.name).final ≠ (slot root base second.name).digest

instance (root : Location) (base : Path) (first second : FileEntry) :
    Decidable (SidesApart root base first second) := inferInstanceAs (Decidable (_ ∧ _))

/-- A place that is no delivered file loses its bytes exactly when it is a side file. -/
theorem deliverAll_other (root : Location) (base : Path) (store : Location → Option Bytes)
    (entries : List FileEntry) (contents : List Bytes) (complete : entries.length = contents.length)
    (place : Location) (away : ∀ entry ∈ entries, place ≠ (slot root base entry.name).final) :
    deliverAll root base store entries contents place =
      if ∃ entry ∈ entries, place = (slot root base entry.name).download ∨
        place = (slot root base entry.name).digest then none else store place := by
  induction entries generalizing store contents with
  | nil => simp [deliverAll]
  | cons entry entries ih =>
      obtain ⟨bytes, contents, rfl⟩ := List.exists_cons_of_length_eq_add_one complete.symm
      rw [deliverAll, ih _ contents (by simpa using complete)
        fun other member => away other (by simp [member])]
      simp only [deliver, if_neg (away entry (by simp)), List.mem_cons, exists_eq_or_imp]
      by_cases later : ∃ other ∈ entries, place = (slot root base other.name).download ∨
          place = (slot root base other.name).digest
      · rw [if_pos later, if_pos (.inr later)]
      · rw [if_neg later]
        by_cases now : place = (slot root base entry.name).download ∨
            place = (slot root base entry.name).digest
        · rw [if_pos now, if_pos (.inl now)]
        · rw [if_neg now, if_neg (not_or.mpr ⟨now, later⟩)]

/-- All files are kept exactly when no file is a side file of a later one. -/
theorem deliverAll_complete_iff (root : Location) (base : Path)
    (store : Location → Option Bytes) (entries : List FileEntry) (contents : List Bytes)
    (complete : entries.length = contents.length)
    (distinct : entries.Pairwise fun first second =>
      (slot root base first.name).final ≠ (slot root base second.name).final) :
    (∀ (index : Nat) (entry : FileEntry) (bytes : Bytes), entries[index]? = some entry →
      contents[index]? = some bytes →
        deliverAll root base store entries contents (slot root base entry.name).final = some bytes) ↔
      entries.Pairwise (SidesApart root base) := by
  induction entries generalizing store contents with
  | nil => simp
  | cons entry entries ih =>
      obtain ⟨bytes, contents, rfl⟩ := List.exists_cons_of_length_eq_add_one complete.symm
      obtain ⟨apart, distinct⟩ := List.pairwise_cons.mp distinct
      have shorter : entries.length = contents.length := by simpa using complete
      have first : deliverAll root base store (entry :: entries) (bytes :: contents)
          (slot root base entry.name).final = some bytes ↔
            ∀ other ∈ entries, SidesApart root base entry other := by
        rw [deliverAll, deliverAll_other root base _ entries contents shorter _ apart]
        simp [deliver, SidesApart]
      rw [List.pairwise_cons, ← first, ← ih (deliver store (slot root base entry.name) bytes) contents
        shorter distinct]
      constructor
      · intro all
        exact ⟨all 0 entry bytes rfl rfl,
          fun index other content found stored => all (index + 1) other content found stored⟩
      · rintro ⟨now, later⟩ index other content found stored
        cases index with
        | zero =>
            obtain rfl : entry = other := by simpa using found
            obtain rfl : bytes = content := by simpa using stored
            exact now
        | succ index => exact later index other content found stored

/-- The base path leads to the destination directory. With an empty name it ends with the name of a
file in that directory. -/
structure Destination (tree : Tree) (base : Path) (root : Location) (files : List FileEntry) :
    Prop where
  anchor : ∀ entry ∈ files, BaseAt tree (anchorPath base entry.name) root
  single : ∀ entry ∈ files, entry.name = [] → Relative (leaf base)

/-- The destination of a job is located. -/
theorem Destination.located {tree : Tree} {io : Io} {base : Path} {root : Location}
    {files : List FileEntry} {job next : TransferJob}
    (destination : Destination tree base root files)
    (unlinked : ∀ place target, tree.node place = some (.symlink target) → ¬ root <+: place)
    (source : job.dataSource = .filePath base) (accepted : job.setFiles tree io files = .ok next) :
    ∀ entry ∈ files, Located tree root base entry.name := by
  obtain ⟨_, names, _⟩ := setFiles_accepted source accepted
  intro entry member
  obtain ⟨_, download, digest⟩ := slot_below root base entry.name
  refine ⟨destination.anchor entry member, ?_, ?_, fun place target linked => ?_⟩
  · unfold anchorName
    split
    next empty => exact destination.single entry member empty
    next named => exact names entry member named
  · have free := tree.unlinked_below unlinked [] (clean (parts (anchorName base entry.name)))
    rwa [List.append_nil] at free
  · have free := unlinked place target linked
    exact ⟨fun inside => free (download.trans inside), fun inside => free (digest.trans inside)⟩

/-- The first call of a new job keeps the links, and no side file gets a second name. -/
theorem Writes.modifyTime {origin tree : Tree} {root : Location} {base : Path}
    {files : List FileEntry} {id : Int} {job : TransferJob} (writes : Writes id base files job)
    (located : ∀ entry ∈ files, Located origin root base entry.name) (linked : Linked origin tree)
    (separate : files.Pairwise (NotNested root base))
    (unshared : tree.Unshared root (SidePlace root base files)) (io : Io) :
    Linked origin (job.modifyTime tree io) ∧
      (job.modifyTime tree io).Unshared root (SidePlace root base files) := by
  unfold TransferJob.modifyTime
  split
  next => exact ⟨linked, unshared⟩
  next path resolved =>
    unfold TransferJob.currentPath at resolved
    split at resolved
    next other entry _ source current =>
      obtain rfl : base = other := by simpa using writes.source.symm.trans source
      have member : entry ∈ files := writes.files ▸ entryAt_mem current
      rw [resolveEntryPath_eq resolved]
      exact (located entry member).finishLinked linked unshared (downloadSide member)
        (sidePlace_clear separate member) io
    next => cases resolved

/-- In every run that sends the blocks of all files in order and in which every call succeeds, each
path holds the bytes of its file exactly when no listed file is a side file of a later one. -/
theorem writeSession_delivers_iff (codec : Codec) (tree : Tree) (io finishIo : Io) (base : Path)
    (root : Location) (files : List FileEntry) (job next : TransferJob)
    (groups : List (List (Io × FileTransferBlock)))
    (generic : job.type = .generic) (source : job.dataSource = .filePath base)
    (fresh : job.dataStream = none) (destination : Destination tree base root files)
    (unlinked : ∀ place target, tree.node place = some (.symlink target) → ¬ root <+: place)
    (unshared : tree.Unshared root (SidePlace root base files))
    (accepted : job.setFiles tree io files = .ok next)
    (separate : files.Pairwise (NotNested root base))
    (complete : files.length = groups.length) (filled : ∀ calls ∈ groups, calls ≠ [])
    (blocks : ∀ index calls, groups[index]? = some calls → BlocksOf job.id index calls)
    (faultless : finishIo.Faultless)
    (succeeds : (writeSession codec).Guarded (Succeeds codec) ⟨next, tree⟩
      (groups.flatMap writeSteps ++ [.finish finishIo])) :
    let final := ((writeSession codec).run ⟨next, tree⟩
      (groups.flatMap writeSteps ++ [.finish finishIo])).1.tree
    (∀ (index : Nat) (entry : FileEntry) (calls : List (Io × FileTransferBlock)),
      files[index]? = some entry → groups[index]? = some calls →
        final.fileBytes (join base entry.name) = some (payload codec calls)) ↔
      files.Pairwise (SidesApart root base) := by
  intro final
  have located := destination.located unlinked source accepted
  obtain ⟨same, _, _⟩ := setFiles_accepted source accepted
  have writes : Writes job.id base files next := by
    rw [same]
    exact ⟨rfl, generic, source, rfl⟩
  have closed : next.dataStream = none := by
    rw [same]
    exact fresh
  have distinct : files.Pairwise fun first second =>
      (slot root base first.name).final ≠ (slot root base second.name).final := by
    refine separate.imp fun nested same => nested.1 ?_
    rw [same]
  cases files with
  | nil => simp
  | cons entry files =>
      obtain ⟨calls, rest, rfl⟩ := List.exists_cons_of_length_eq_add_one complete.symm
      obtain ⟨call, calls, rfl⟩ := List.exists_cons_of_ne_nil (filled calls (by simp))
      have mine : BlocksOf job.id 0 (call :: calls) := blocks 0 _ rfl
      have later : ∀ offset calls, rest[offset]? = some calls → BlocksOf job.id (0 + 1 + offset) calls := by
        intro offset calls found
        have shifted := blocks (offset + 1) calls (by simpa using found)
        rwa [show offset + 1 = 0 + 1 + offset by omega] at shifted
      have steps : (writeSession codec).Guarded (Succeeds codec) ⟨next, tree⟩
          (writeSteps (call :: calls) ++ (rest.flatMap writeSteps ++ [.finish finishIo])) := by
        rw [← List.append_assoc]
        exact succeeds
      obtain ⟨first, tail⟩ := ((writeSession codec).guarded_append _ _ _ _).mp steps
      obtain ⟨linked, apart⟩ := writes.modifyTime located (.refl tree) separate unshared call.1
      have stocked : Stocked tree root base (entry :: files) (next.modifyTime tree call.1).fileAt 0
          (next.modifyTime tree call.1) := ⟨linked, apart, fun _ _ => rfl, by simp⟩
      have start : Writes job.id base (entry :: files) (⟨next, tree⟩ : Writer).job := writes
      obtain ⟨receiving, kept⟩ := Stocked.run call calls start stocked located mine rfl (.inr closed)
        first.1.1
      have delivered := receiving.deliverRest rest kept located
        (fun calls member => filled calls (by simp [member])) later
        (by simpa [Nat.add_comm] using complete) faultless tail
      rw [← (writeSession codec).run_append, ← List.append_assoc] at delivered
      have reads : ∀ (index : Nat) (other : FileEntry), (entry :: files)[index]? = some other →
          final.fileBytes (join base other.name) =
            deliverAll root base (next.modifyTime tree call.1).fileAt (entry :: files)
              (((call :: calls) :: rest).map (payload codec)) (slot root base other.name).final := by
        intro index other found
        have member : other ∈ entry :: files := List.mem_of_getElem? found
        obtain ⟨bound, _⟩ := List.getElem?_eq_some_iff.mp found
        have reachable := delivered.reachable index other bound found
        exact ((located other member).fileBytes delivered.linked reachable.anchored
          reachable.parent).trans (delivered.stored _ (slot_below root base other.name).1)
      rw [← deliverAll_complete_iff root base (next.modifyTime tree call.1).fileAt (entry :: files)
        (((call :: calls) :: rest).map (payload codec)) (by simpa using complete) distinct]
      constructor
      · intro all index other bytes found stored
        rw [List.getElem?_map, Option.map_eq_some_iff] at stored
        obtain ⟨group, known, rfl⟩ := stored
        rw [← reads index other found]
        exact all index other group found known
      · intro all index other group found known
        rw [reads index other found]
        exact all index other _ found (by rw [List.getElem?_map, known]; rfl)

/-- The destination directory holds an old file and an old download. -/
def oldTree : Tree :=
  Tree.ofFiles [[['b']]] [] [([['b'], ['x']], [9]), ([['b'], "x.download".toList], [8, 8, 8])]

def newJob : TransferJob := TransferJob.newWrite 1 .generic (.filePath "/b".toList) 0 false

/-- The sample base is a directory. -/
theorem oldTree_base : BaseAt oldTree "/b".toList [['b']] where
  nonempty := by decide
  reaches := ⟨maxLinks, .down _ _ _ _ ['b'] [] (by decide) (by decide) (by decide +kernel) (.here _ _)⟩
  directory := by decide +kernel

theorem Io.clean_faultless : (Io.clean id 0).Faultless := ⟨fun _ => rfl, rfl, rfl, rfl, rfl, rfl, rfl, rfl⟩

theorem writeSession_delivers_iff_oldTree :
    let files : List FileEntry := [⟨['x'], 3, 0⟩, ⟨['y'], 1, 0⟩]
    let groups : List (List (Io × FileTransferBlock)) :=
      [[(Io.clean id 0, ⟨1, 0, [1, 2], false⟩), (Io.clean id 0, ⟨1, 0, [3], false⟩)],
        [(Io.clean id 0, ⟨1, 1, [4], false⟩)]]
    let next := { newJob with totalSize := 4, files := files }
    let final := ((writeSession .plain).run ⟨next, oldTree⟩
      (groups.flatMap writeSteps ++ [.finish (Io.clean id 0)])).1.tree
    (∀ (index : Nat) (entry : FileEntry) (calls : List (Io × FileTransferBlock)),
      files[index]? = some entry → groups[index]? = some calls →
        final.fileBytes (join "/b".toList entry.name) = some (payload .plain calls)) ↔
      files.Pairwise (SidesApart [['b']] "/b".toList) := by
  intro files groups next
  have accepted : newJob.setFiles oldTree (Io.clean id 0) files = .ok next := by decide +kernel
  have destination : Destination oldTree "/b".toList [['b']] files := by
    refine ⟨fun entry member => ?_, by simp [files]⟩
    have named : entry.name ≠ [] := by
      rcases List.mem_cons.mp member with rfl | member
      · simp
      · rw [List.mem_singleton.mp member]
        simp
    rw [anchorPath, if_neg named]
    exact oldTree_base
  refine writeSession_delivers_iff .plain oldTree (Io.clean id 0) (Io.clean id 0) "/b".toList [['b']]
    files newJob next groups rfl rfl rfl destination ?_
    (Tree.singleNames_unshared (by decide +kernel) _ _) accepted (by decide +kernel) rfl
    (by simp [groups]) ?_ Io.clean_faultless (by decide +kernel)
  · intro place target linked
    exact absurd linked (Tree.linkFree_unlinked (by decide +kernel) place target)
  · intro index calls found
    match index, found with
    | 0, found =>
        obtain rfl := Option.some.inj found
        exact ⟨by simp [Io.clean_faultless], by decide, by decide⟩
    | 1, found =>
        obtain rfl := Option.some.inj found
        exact ⟨by simp [Io.clean_faultless], by decide, by decide⟩

/-- The download and the digest of the second file replace a first file with such a name. -/
theorem writeSession_sides_clash :
    let block : Int → Bytes → WriteStep := fun fileNum bytes =>
      .write (Io.clean id 0) ⟨1, fileNum, bytes, false⟩
    let steps := [block 0 [1, 2], block 1 [3], WriteStep.finish (Io.clean id 0)]
    ∀ first ∈ ["x.download".toList, "x.digest".toList],
      let next := { newJob with totalSize := 3, files := [⟨first, 2, 0⟩, ⟨['x'], 1, 0⟩] }
      newJob.setFiles oldTree (Io.clean id 0) [⟨first, 2, 0⟩, ⟨['x'], 1, 0⟩] = .ok next ∧
        (writeSession .plain).Guarded (Succeeds .plain) ⟨next, oldTree⟩ steps ∧
        ((writeSession .plain).run ⟨next, oldTree⟩ steps).1.tree.fileBytes
          (join "/b".toList first) = none := by
  decide +kernel

end SubnetDesk.FileTransfer
