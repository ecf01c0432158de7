import SubnetDesk.Proof.FileTransfer.EntryPaths

namespace SubnetDesk.FileTransfer
open FileTree

/-- No link stands at a side file of a listed name or below it. -/
def SidesUnlinked (tree : Tree) (root : Location) (files : List FileEntry) : Prop :=
  ∀ entry ∈ files, ∀ place target, tree.node place = some (.symlink target) →
    ¬ sidePlace root entry.name downloadSuffix <+: place ∧
      ¬ sidePlace root entry.name digestSuffix <+: place

/-- The list was accepted below this base directory. -/
structure Accepted (tree : Tree) (base : Path) (root : Location) (files : List FileEntry) : Prop where
  base : BaseAt tree base root
  names : ∀ entry ∈ files, Relative entry.name ∧ tree.Unlinked root (clean (parts entry.name))
  sides : SidesUnlinked tree root files

/-- The file was opened for writing at a place below the base directory. -/
def OpenedBelow (root : Location) (tree : Tree) (inode : Nat) : Prop :=
  ∃ place, root <+: place ∧ .opened place inode ∈ tree.journal

/-- Every touched file lies below the base directory, and only opened files get other bytes. -/
structure Contained (root : Location) (tree next : Tree) : Prop where
  links : SameLinks tree next
  cwd : next.cwd = tree.cwd
  journal : ∃ touches, next.journal = tree.journal ++ touches ∧
    ∀ touch ∈ touches, ∀ place ∈ touch.places, root <+: place
  data : ∀ inode, next.data inode ≠ tree.data inode → OpenedBelow root next inode

/-- An inode stays one below the base. -/
theorem OpenedBelow.mono {root : Location} {tree next : Tree} {inode : Nat}
    (opened : OpenedBelow root tree inode) (contained : Contained root tree next) :
    OpenedBelow root next inode := by
  obtain ⟨place, below, member⟩ := opened
  obtain ⟨touches, journal, _⟩ := contained.journal
  exact ⟨place, below, by simp [journal, member]⟩

theorem Contained.refl (root : Location) (tree : Tree) : Contained root tree tree :=
  ⟨.refl tree, rfl, ⟨[], by simp, by simp⟩, fun _ changed => absurd rfl changed⟩

/-- Changes below the base add up. -/
theorem Contained.trans {root : Location} {first second third : Tree}
    (before : Contained root first second) (after : Contained root second third) :
    Contained root first third where
  links := before.links.trans after.links
  cwd := after.cwd.trans before.cwd
  journal := by
    obtain ⟨old, oldJournal, oldBelow⟩ := before.journal
    obtain ⟨new, newJournal, newBelow⟩ := after.journal
    refine ⟨old ++ new, by rw [newJournal, oldJournal, List.append_assoc], fun touch member => ?_⟩
    rcases List.mem_append.mp member with first | second
    · exact oldBelow touch first
    · exact newBelow touch second
  data := by
    intro inode changed
    by_cases same : third.data inode = second.data inode
    · exact (before.data inode (same ▸ changed)).mono after
    · exact after.data inode same

/-- A call that adds one touch below the base directory writes only the file it opens. -/
theorem Contained.record {root : Location} {tree next : Tree} (links : SameLinks tree next)
    (cwd : next.cwd = tree.cwd) (touch : Touch) (journal : next.journal = tree.journal ++ [touch])
    (below : ∀ place ∈ touch.places, root <+: place)
    (data : ∀ inode, next.data inode = tree.data inode ∨ ∃ place, touch = .opened place inode) :
    Contained root tree next where
  links := links
  cwd := cwd
  journal := ⟨[touch], journal, by simpa using below⟩
  data := by
    intro inode changed
    rcases data inode with same | ⟨place, rfl⟩
    · exact absurd same changed
    · exact ⟨place, below place (by simp [Touch.places]), by simp [journal]⟩

/-- New directories change nothing else. -/
theorem dirsAdded_contained {tree next : Tree} (added : DirsAdded tree next) (root : Location) :
    Contained root tree next where
  links := added.sameLinks
  cwd := added.cwd
  journal := ⟨[], by simp [added.journal], by simp⟩
  data := fun inode changed => absurd (by rw [added.data]) changed

/-- A new file below the base is contained. -/
theorem created_contained {root : Location} {tree next : Tree} {place : Location} {inode : Nat}
    (created : Created tree next place inode) (below : root <+: place) :
    Contained root tree next ∧ OpenedBelow root next inode := by
  refine ⟨.record created.sameLinks created.cwd _ created.journal ?_ fun other => ?_,
    place, below, by simp [created.journal]⟩
  · simpa [Touch.places] using below
  · by_cases same : other = inode
    · exact .inr ⟨place, by rw [same]⟩
    · left
      rw [created.data, Function.update_of_ne same]

/-- A write to an inode below is contained. -/
theorem setData_contained {root : Location} {tree : Tree} {inode : Nat} (bytes : Bytes)
    (opened : OpenedBelow root tree inode) : Contained root tree (tree.setData inode bytes) where
  links := .refl tree
  cwd := rfl
  journal := ⟨[], by simp [Tree.setData], by simp⟩
  data := by
    intro other changed
    have same : other = inode := by
      by_contra different
      exact changed (Function.update_of_ne different ..)
    rw [same]
    exact opened

theorem sideSuffix {suffix : Path} (kind : suffix = downloadSuffix ∨ suffix = digestSuffix) :
    SideSuffix suffix := by
  rcases kind with rfl | rfl
  · exact downloadSuffix_side
  · exact digestSuffix_side

/-- An ignored fault keeps the tree. -/
theorem orKeep_contained {root : Location} {tree : Tree} {fault : Option Fault}
    {result : Except Fault Tree} (kept : ∀ next, result = .ok next → Contained root tree next) :
    Contained root tree (orKeep tree (orFault fault result)) := by
  unfold orKeep
  split
  next next_ success => exact kept next_ (orFault_ok success)
  next => exact .refl root tree

section Calls

variable {origin tree next : Tree} {base : Path} {root : Location} {files : List FileEntry}
  {entry : FileEntry}

/-- The base directory stays where it is. -/
theorem Contained.leads (contained : Contained root origin tree)
    (accepted : Accepted origin base root files) : Leads tree base root :=
  accepted.base.leads contained.links contained.cwd

/-- The listed names stay free of links. -/
theorem Contained.unlinked (contained : Contained root origin tree)
    (accepted : Accepted origin base root files) (listed : entry ∈ files) :
    tree.Unlinked root (clean (parts entry.name)) :=
  (accepted.names entry listed).2.mono fun place target => (contained.links place target).mpr

/-- The side files stay free of links. -/
theorem Contained.sides (contained : Contained root origin tree)
    (accepted : Accepted origin base root files) (listed : entry ∈ files) {suffix : Path}
    (kind : suffix = downloadSuffix ∨ suffix = digestSuffix) (place : Location) (target : Path)
    (linked : tree.node place = some (.symlink target)) :
    ¬ sidePlace root entry.name suffix <+: place := by
  have free := accepted.sides entry listed place target ((contained.links place target).mpr linked)
  rcases kind with rfl | rfl
  · exact free.1
  · exact free.2

/-- Every call on a side file resolves to its place. -/
theorem Contained.side (contained : Contained root origin tree)
    (accepted : Accepted origin base root files) (listed : entry ∈ files) {suffix : Path}
    (kind : suffix = downloadSuffix ∨ suffix = digestSuffix) {follow : Bool} {place : Location}
    (resolved : tree.resolve follow (push base entry.name ++ suffix) = .ok place) :
    place = sidePlace root entry.name suffix := by
  refine resolve_side (contained.leads accepted) (accepted.names entry listed).1 (sideSuffix kind)
    (contained.unlinked accepted listed) ?_ resolved
  intro _ target linked
  exact contained.sides accepted listed kind _ target linked (List.prefix_refl _)

/-- The removal of a side file is contained. -/
theorem Contained.removeSide (contained : Contained root origin tree)
    (accepted : Accepted origin base root files) (listed : entry ∈ files) {suffix : Path}
    (kind : suffix = downloadSuffix ∨ suffix = digestSuffix)
    (removed : tree.removeFile (push base entry.name ++ suffix) = .ok next) :
    Contained root tree next := by
  obtain ⟨place, resolved, removed⟩ := removeFile_ok removed
  obtain rfl := contained.side accepted listed kind resolved
  refine .record (removed.sameLinks ?_) removed.cwd _ removed.journal ?_ ?_
  · intro target linked
    exact contained.sides accepted listed kind _ target linked (List.prefix_refl _)
  · simp [Touch.places, sidePlace_below]
  · exact fun inode => .inl (by rw [removed.data])

/-- A new side file is contained. -/
theorem Contained.createSide (contained : Contained root origin tree)
    (accepted : Accepted origin base root files) (listed : entry ∈ files) {suffix : Path}
    (kind : suffix = downloadSuffix ∨ suffix = digestSuffix) {file : Handle}
    (created : tree.create (push base entry.name ++ suffix) = .ok (next, file)) :
    Contained root tree next ∧ ∃ inode, file.inode = some inode ∧ OpenedBelow root next inode := by
  obtain ⟨place, inode, resolved, rfl, created⟩ := create_ok created
  obtain rfl := contained.side accepted listed kind resolved
  obtain ⟨after, opened⟩ := created_contained created (sidePlace_below root _ _)
  exact ⟨after, inode, rfl, opened⟩

/-- An opened side file is contained. -/
theorem Contained.openSide (contained : Contained root origin tree)
    (accepted : Accepted origin base root files) (listed : entry ∈ files) {suffix : Path}
    (kind : suffix = downloadSuffix ∨ suffix = digestSuffix) {file : Handle}
    (opened : tree.openWrite (push base entry.name ++ suffix) = .ok (next, file)) :
    Contained root tree next ∧ ∃ inode, file.inode = some inode ∧ OpenedBelow root next inode := by
  obtain ⟨place, inode, resolved, rfl, result⟩ := openWrite_ok opened
  obtain rfl := contained.side accepted listed kind resolved
  have below := sidePlace_below root entry.name suffix
  rcases result with ⟨_, rfl⟩ | ⟨_, created⟩
  · refine ⟨.record (.refl tree) rfl (.opened _ inode) rfl ?_ fun _ => .inl rfl, inode, rfl, _, below,
      by simp [Tree.record]⟩
    simpa [Touch.places] using below
  · obtain ⟨after, opened⟩ := created_contained created below
    exact ⟨after, inode, rfl, opened⟩

/-- The promotion of a file is contained. -/
theorem Contained.renameSide (contained : Contained root origin tree)
    (accepted : Accepted origin base root files) (listed : entry ∈ files)
    (renamed : tree.rename (push base entry.name ++ downloadSuffix) (push base entry.name) =
      .ok next) : Contained root tree next := by
  obtain ⟨source, target, node, sourceFound, targetFound, _, result⟩ := rename_ok renamed
  obtain rfl := contained.side accepted listed (.inl rfl) sourceFound
  have unlinked := contained.unlinked accepted listed
  obtain rfl := resolve_entry (contained.leads accepted) (accepted.names entry listed).1 unlinked
    targetFound
  rcases result with ⟨rfl, _⟩ | moved
  · exact .refl root next
  · refine .record (moved.sameLinks ?_ ?_) moved.cwd _ moved.journal ?_ ?_
    · intro link linked
      by_cases top : clean (parts entry.name) = []
      · rw [entryPlace, top, List.append_nil] at linked
        cases accepted.base.directory.symm.trans ((contained.links root link).mpr linked)
      · exact unlinked.last top link linked
    · exact fun place link => contained.sides accepted listed (.inl rfl) place link
    · simp [Touch.places, sidePlace_below, entryPlace_below]
    · exact fun inode => .inl (by rw [moved.data])

/-- The end of a file is contained. -/
theorem Contained.finishPath (contained : Contained root origin tree)
    (accepted : Accepted origin base root files) (listed : entry ∈ files) (io : Io) :
    Contained root tree (finishPath tree io (push base entry.name)) := by
  have cleaned : Contained root tree (orKeep tree
      (orFault io.finishDigest (tree.removeFile (digestPath (push base entry.name))))) :=
    orKeep_contained fun _ removed => contained.removeSide accepted listed (.inr rfl) removed
  exact cleaned.trans (orKeep_contained fun _ renamed =>
    (contained.trans cleaned).renameSide accepted listed renamed)

/-- The removal of a file is contained. -/
theorem Contained.cancelPath (contained : Contained root origin tree)
    (accepted : Accepted origin base root files) (listed : entry ∈ files) (io : Io) :
    Contained root tree (cancelPath tree io (push base entry.name)) := by
  have cleaned : Contained root tree (orKeep tree
      (orFault io.cancelDownload (tree.removeFile (downloadPath (push base entry.name))))) :=
    orKeep_contained fun _ removed => contained.removeSide accepted listed (.inl rfl) removed
  exact cleaned.trans (orKeep_contained fun _ removed =>
    (contained.trans cleaned).removeSide accepted listed (.inr rfl) removed)

/-- A written digest is contained. -/
theorem Contained.writeDigest (contained : Contained root origin tree)
    (accepted : Accepted origin base root files) (listed : entry ∈ files) (codec : Codec) (io : Io)
    (digest : FileDigest) :
    Contained root tree (writeDigest codec tree io (push base entry.name) digest) := by
  unfold FileTransfer.writeDigest
  split
  next => exact .refl root tree
  next opened file created =>
    obtain ⟨made, inode, handle, below⟩ :=
      contained.createSide accepted listed (.inr rfl) (orFault_ok created)
    rw [handle]
    exact made.trans (setData_contained _ below)

/-- The opened download lies below the base directory. -/
theorem Contained.openDownload (contained : Contained root origin tree)
    (accepted : Accepted origin base root files) (listed : entry ∈ files) (codec : Codec) (io : Io)
    (digest : FileDigest) :
    let result := openDownload codec tree io (push base entry.name) digest
    Contained root tree result.1 ∧ ∀ file, result.2 = .ok file →
      ∃ inode, file.inode = some inode ∧ OpenedBelow root result.1 inode := by
  have parents := dirsAdded_contained (createParents_added tree (push base entry.name)) root
  unfold FileTransfer.openDownload
  dsimp only
  split
  next => exact ⟨parents, by simp⟩
  next cleanedTree success =>
    have cleaned : Contained root tree cleanedTree := by
      split at success
      · exact parents.trans ((contained.trans parents).removeSide accepted listed (.inr rfl)
          (orFault_ok success))
      · exact Except.ok.inj success ▸ parents
    split
    next => exact ⟨cleaned, by simp⟩
    next opened file created =>
      obtain ⟨made, inode, handle, below⟩ := (contained.trans cleaned).createSide accepted listed
        (.inl rfl) (orFault_ok created)
      have noted := (contained.trans (cleaned.trans made)).writeDigest accepted listed codec io digest
      refine ⟨(cleaned.trans made).trans noted, fun other same => ?_⟩
      obtain rfl := Except.ok.inj same
      exact ⟨inode, handle, below.mono noted⟩

end Calls

/-- The job writes the accepted list below its base and holds a stream that it opened there. -/
structure Confined (origin : Tree) (base : Path) (root : Location) (files : List FileEntry)
    (job : TransferJob) (tree : Tree) : Prop where
  generic : job.type = .generic
  source : job.dataSource = .filePath base
  files : job.files = files
  contained : Contained root origin tree
  stream : ∀ file inode, job.dataStream = some (.fileStream file) → file.writable = true →
    file.inode = some inode → OpenedBelow root tree inode

section Steps

variable {origin tree next : Tree} {base : Path} {root : Location} {files : List FileEntry}
  {job other : TransferJob}

theorem Confined.moved (confined : Confined origin base root files job tree)
    (after : Contained root tree next) : Confined origin base root files job next where
  generic := confined.generic
  source := confined.source
  files := confined.files
  contained := confined.contained.trans after
  stream := fun file inode present writable known =>
    (confined.stream file inode present writable known).mono after

/-- A job with the same list and no new writable stream stays confined. -/
theorem Confined.congr (confined : Confined origin base root files job tree)
    (type : other.type = job.type) (source : other.dataSource = job.dataSource)
    (sameFiles : other.files = job.files)
    (stream : ∀ file inode, other.dataStream = some (.fileStream file) → file.writable = true →
      file.inode = some inode → OpenedBelow root tree inode) :
    Confined origin base root files other tree where
  generic := type.trans confined.generic
  source := source.trans confined.source
  files := sameFiles.trans confined.files
  contained := confined.contained
  stream := stream

/-- The path of a listed entry is its name pushed to the base. -/
theorem Accepted.join_eq (accepted : Accepted origin base root files) {entry : FileEntry}
    (listed : entry ∈ files) : join base entry.name = push base entry.name := by
  rw [join, if_neg (accepted.names entry listed).1.nonempty]

/-- The current file is one of the list. -/
theorem Confined.currentPath (confined : Confined origin base root files job tree)
    (accepted : Accepted origin base root files) {io : Io} {path : Path}
    (resolved : job.currentPath tree io = some path) :
    ∃ entry ∈ files, path = push base entry.name := by
  unfold TransferJob.currentPath at resolved
  split at resolved
  next otherBase entry generic source current =>
    obtain rfl : base = otherBase := by simpa using confined.source.symm.trans source
    have listed : entry ∈ files := confined.files ▸ entryAt_mem current
    exact ⟨entry, listed, (resolveEntryPath_eq resolved).trans (accepted.join_eq listed)⟩
  next => cases resolved

/-- The end of a file keeps the bounds. -/
theorem Confined.modifyTime (confined : Confined origin base root files job tree)
    (accepted : Accepted origin base root files) (io : Io) :
    Confined origin base root files job (job.modifyTime tree io) := by
  unfold TransferJob.modifyTime
  split
  next => exact confined
  next path resolved =>
    obtain ⟨entry, listed, rfl⟩ := confined.currentPath accepted resolved
    exact confined.moved (confined.contained.finishPath accepted listed io)

/-- A cancelled file keeps the bounds. -/
theorem Confined.removeDownloadFile (confined : Confined origin base root files job tree)
    (accepted : Accepted origin base root files) (io : Io) :
    Confined origin base root files job (job.removeDownloadFile tree io) := by
  unfold TransferJob.removeDownloadFile
  split
  next => exact confined
  next path resolved =>
    obtain ⟨entry, listed, rfl⟩ := confined.currentPath accepted resolved
    exact confined.moved (confined.contained.cancelPath accepted listed io)

/-- An opened file keeps the bounds. -/
theorem Confined.openTarget (confined : Confined origin base root files job tree)
    (accepted : Accepted origin base root files) (codec : Codec) (io : Io) {entry : FileEntry}
    (listed : entry ∈ files) :
    let result := job.openTarget codec tree io base entry.name
    Contained root tree result.1 ∧ ∀ file, result.2 = .ok file →
      ∃ inode, file.inode = some inode ∧ OpenedBelow root result.1 inode := by
  rw [TransferJob.openTarget, confined.generic]
  dsimp only
  split
  next => exact ⟨.refl root tree, by simp⟩
  next path joined =>
    obtain rfl := (joinValidatedPath_eq joined).trans (accepted.join_eq listed)
    exact confined.contained.openDownload accepted listed codec io job.digest

/-- A switch of files keeps the bounds. -/
theorem Confined.switchFile (confined : Confined origin base root files job tree)
    (accepted : Accepted origin base root files) (codec : Codec) (io : Io) (fileNum : Int)
    {entry : FileEntry} (listed : entry ∈ files) :
    Confined origin base root files (job.switchFile codec tree io base fileNum entry).1
      (job.switchFile codec tree io base fileNum entry).2.1 := by
  have finished := confined.modifyTime accepted io
  have moved : Confined origin base root files { job with fileNum := fileNum }
      (job.modifyTime tree io) := finished.congr rfl rfl rfl finished.stream
  obtain ⟨after, made⟩ := moved.openTarget accepted codec io listed
  unfold TransferJob.switchFile
  dsimp only
  split
  next => exact finished
  next =>
    split
    next next_ err equal =>
      rw [equal] at after
      exact moved.moved after
    next next_ file equal =>
      rw [equal] at after made
      refine (moved.moved after).congr rfl rfl rfl fun other inode present _ known => ?_
      obtain ⟨number, handle, opened⟩ := made file rfl
      obtain rfl : file = other := by simpa using present
      obtain rfl : number = inode := by simpa using handle.symm.trans known
      exact opened

/-- A written block keeps the bounds. -/
theorem Confined.writeStream (confined : Confined origin base root files job tree) (codec : Codec)
    (io : Io) (block : FileTransferBlock) :
    Confined origin base root files (job.writeStream codec tree io block).1
      (job.writeStream codec tree io block).2.1 := by
  have stored : ∀ stream bytes, job.dataStream = some stream →
      Contained root tree (stream.writeAll tree io bytes).2.1 ∧
        ∀ file inode, (stream.writeAll tree io bytes).1 = .fileStream file →
          file.writable = true → file.inode = some inode → OpenedBelow root tree inode := by
    intro stream bytes present
    cases stream with
    | bufStream cursor => exact ⟨.refl root tree, by simp [DataStream.writeAll]⟩
    | fileStream file =>
        obtain ⟨pos, waiting, written, answer, equal, changed⟩ := writeAll_handle tree io bytes file
        rw [equal]
        refine ⟨?_, fun other inode same writable handle => ?_⟩
        · rcases changed with rfl | ⟨inode, data, writable, known, rfl⟩
          · exact .refl root _
          · exact setData_contained _ (confined.stream file inode present writable known)
        · obtain rfl := DataStream.fileStream.inj same
          exact confined.stream file inode present writable handle
  unfold TransferJob.writeStream
  split
  next => exact confined
  next stream present =>
    obtain ⟨after, kept⟩ := stored stream (block.decoded codec) present
    split
    next next_ written fault equal =>
      rw [equal] at after kept
      refine (confined.moved after).congr rfl rfl rfl fun file inode same writable known => ?_
      exact (kept file inode (Option.some.inj same) writable known).mono after
    next next_ written equal =>
      rw [equal] at after kept
      refine (confined.moved after).congr rfl rfl rfl fun file inode same writable known => ?_
      exact (kept file inode (Option.some.inj same) writable known).mono after

/-- A block keeps the bounds. -/
theorem Confined.write (confined : Confined origin base root files job tree)
    (accepted : Accepted origin base root files) (codec : Codec) (io : Io)
    (block : FileTransferBlock) :
    Confined origin base root files (job.write codec tree io block).1
      (job.write codec tree io block).2.1 := by
  have prepared : Confined origin base root files (job.prepare codec tree io block).1
      (job.prepare codec tree io block).2.1 := by
    rw [TransferJob.prepare, confined.source]
    dsimp only
    split
    next => exact confined
    next entry found =>
      split
      next =>
        exact confined.switchFile accepted codec io block.fileNum
          (confined.files ▸ entryAt_mem found)
      next => exact confined
  unfold TransferJob.write
  split
  next => exact confined
  next =>
    split
    next next_ tree_ err equal =>
      rw [equal] at prepared
      exact prepared
    next next_ tree_ equal =>
      rw [equal] at prepared
      exact prepared.writeStream codec io block

/-- A seek keeps the bounds. -/
theorem Confined.seekTo (confined : Confined origin base root files job tree) (io : Io)
    (file : Handle) (offset : Nat)
    (opened : ∀ inode, file.writable = true → file.inode = some inode →
      OpenedBelow root tree inode) :
    Confined origin base root files (job.seekTo io file offset) tree := by
  unfold TransferJob.seekTo
  split
  next => exact confined
  next =>
    refine confined.congr rfl rfl rfl fun other inode present writable known => ?_
    obtain rfl : _ = other := by simpa using present
    exact opened inode writable known

/-- A resumed file keeps the bounds. -/
theorem Confined.setStreamOffset (confined : Confined origin base root files job tree)
    (accepted : Accepted origin base root files) (io : Io) (fileNum : Int) (offset : Nat) :
    Confined origin base root files (job.setStreamOffset tree io fileNum offset).1
      (job.setStreamOffset tree io fileNum offset).2 := by
  unfold TransferJob.setStreamOffset
  split
  next entry otherBase found source =>
    obtain rfl : base = otherBase := by simpa using confined.source.symm.trans source
    have listed : entry ∈ files := confined.files ▸ entryAt_mem found
    split
    next => exact confined
    next path resolved =>
      obtain rfl := (resolveEntryPath_eq resolved).trans (accepted.join_eq listed)
      split
      next =>
        split
        next => exact confined
        next opened file success =>
          obtain ⟨after, number, handle, below⟩ :=
            confined.contained.openSide accepted listed (.inl rfl) (orFault_ok success)
          refine (confined.moved after).seekTo io file offset fun inode _ known => ?_
          obtain rfl : number = inode := by simpa using handle.symm.trans known
          exact below
      next =>
        split
        next =>
          split
          next => exact confined
          next file success =>
            refine confined.seekTo io file offset fun _ writable _ => ?_
            rw [openRead_readOnly (orFault_ok success)] at writable
            cases writable
        next => exact confined
  next => exact confined

/-- A confirmation keeps the bounds. -/
theorem Confined.confirm (confined : Confined origin base root files job tree)
    (accepted : Accepted origin base root files) (io : Io)
    (request : FileTransferSendConfirmRequest) :
    Confined origin base root files (job.confirm tree io request).1
      (job.confirm tree io request).2 := by
  have confirmed : Confined origin base root files (job.setFileConfirmed true) tree :=
    confined.congr rfl rfl rfl confined.stream
  unfold TransferJob.confirm
  split
  next => exact confined
  next =>
    split
    next => exact confined.congr rfl rfl rfl fun file inode absent => by cases absent
    next => exact confirmed
    next offset _ =>
      split
      next => exact confirmed.setStreamOffset accepted io request.fileNum offset
      next => exact confirmed
    next => exact confined

/-- One call of the write session touches only files below the base directory. -/
theorem Confined.step {writer : Writer}
    (confined : Confined origin base root files writer.job writer.tree)
    (accepted : Accepted origin base root files) (codec : Codec) (step : WriteStep) :
    Confined origin base root files (writer.step codec step).1.job
      (writer.step codec step).1.tree := by
  cases step with
  | setDigest size modified => exact confined.congr rfl rfl rfl confined.stream
  | write io block => exact confined.write accepted codec io block
  | confirm io request => exact confined.confirm accepted io request
  | finish io => exact confined.modifyTime accepted io
  | cancel io => exact confined.removeDownloadFile accepted io

end Steps

/-- In every run of a generic job with an accepted list of names, every file that the job creates,
truncates, writes, renames, or deletes lies below the base directory, as long as no link stands at
a side file of the list. -/
theorem writeSession_contained (codec : Codec) (tree : Tree) (io : Io) (base : Path)
    (root : Location) (files : List FileEntry) (job next : TransferJob) (steps : List WriteStep)
    (generic : job.type = .generic) (source : job.dataSource = .filePath base)
    (fresh : job.dataStream = none) (at_ : BaseAt tree base root)
    (named : ∀ entry ∈ files, entry.name ≠ []) (sides : SidesUnlinked tree root files)
    (accepted : job.setFiles tree io files = .ok next) :
    Contained root tree ((writeSession codec).run ⟨next, tree⟩ steps).1.tree := by
  obtain ⟨rfl, names⟩ := setFiles_ok source at_ named accepted
  have list : Accepted tree base root files := ⟨at_, names, sides⟩
  have start : Confined tree base root files
      { job with totalSize := (files.map FileEntry.size).sum, files := files } tree :=
    ⟨generic, source, rfl, .refl root tree, fun file inode present => by
      rw [show job.dataStream = _ from fresh] at present
      cases present⟩
  have final := (writeSession codec).run_invariant (fun _ _ => True)
    (fun writer _ => Confined tree base root files writer.job writer.tree)
    (fun writer past step _ confined => confined.step list codec step)
    ⟨_, tree⟩ [] steps start ((writeSession codec).guarded_true _ _)
  exact final.contained

/-- The named places decide whether links stand at side files. -/
theorem sidesUnlinked_of_names {tree : Tree} {root : Location} {files : List FileEntry}
    (checked : ∀ place ∈ tree.names, ((tree.node place).all fun node => !node.isSymlink) = true ∨
      ∀ entry ∈ files, ¬ sidePlace root entry.name downloadSuffix <+: place ∧
        ¬ sidePlace root entry.name digestSuffix <+: place) :
    SidesUnlinked tree root files := by
  intro entry listed place target linked
  obtain free | apart := checked place (tree.named place _ linked)
  · rw [linked] at free
    cases free
  · exact apart entry listed

/-- The base directory holds a file and a link out of the directory. -/
def baseTree : Tree :=
  Tree.ofFiles [[['b']]] [([['b'], ['l']], "/".toList)] [([['b'], ['x']], [1, 2])]

def baseJob : TransferJob := TransferJob.newWrite 1 .generic (.filePath "/b".toList) 0 false

theorem baseTree_base : BaseAt baseTree "/b".toList [['b']] where
  nonempty := by decide
  reaches := ⟨maxLinks, .down _ _ _ _ ['b'] [] (by decide) (by decide) (by decide +kernel) (.here _ _)⟩
  directory := by decide +kernel

/-- The first file is replaced, and the second one is new. -/
def baseFiles : List FileEntry := [⟨['x'], 2, 0⟩, ⟨['y'], 1, 0⟩]

def baseSteps : List WriteStep :=
  [.write (Io.clean id 0) ⟨1, 0, [3, 4], false⟩, .write (Io.clean id 0) ⟨1, 1, [6], false⟩,
    .finish (Io.clean id 0)]

theorem writeSession_contained_baseTree :
    let next := { baseJob with totalSize := 3, files := baseFiles }
    let final := ((writeSession .plain).run ⟨next, baseTree⟩ baseSteps).1.tree
    baseJob.setFiles baseTree (Io.clean id 0) baseFiles = .ok next ∧
      final.fileBytes "/b/x".toList = some [3, 4] ∧ final.fileBytes "/b/y".toList = some [6] ∧
      Contained [['b']] baseTree final := by
  intro next final
  have accepted : baseJob.setFiles baseTree (Io.clean id 0) baseFiles = .ok next := by
    decide +kernel
  have sides : SidesUnlinked baseTree [['b']] baseFiles :=
    sidesUnlinked_of_names (by decide +kernel)
  exact ⟨accepted, by decide +kernel, by decide +kernel,
    writeSession_contained .plain baseTree (Io.clean id 0) "/b".toList [['b']] baseFiles baseJob
      next baseSteps rfl rfl rfl baseTree_base (by decide +kernel) sides accepted⟩

/-- The download of the second listed name is a link to a file outside the base directory. -/
def linkedTree : Tree :=
  Tree.ofFiles [[['b']]] [([['b'], "x.download".toList], "/s".toList)] [([['s']], [1, 2])]

/-- The first block of an accepted name truncates a file outside the base directory through a link,
and an accepted empty name makes a file beside the base directory. -/
theorem writeSession_escapes :
    (∃ job, baseJob.setFiles linkedTree (Io.clean id 0) [⟨['y'], 0, 0⟩, ⟨['x'], 2, 0⟩] = .ok job ∧
      let final := ((writeSession .plain).run ⟨job, linkedTree⟩
        [.write (Io.clean id 0) ⟨1, 0, [], false⟩,
          .write (Io.clean id 0) ⟨1, 1, [3, 4], false⟩]).1.tree
      .opened [['s']] 0 ∈ final.journal ∧ final.fileBytes "/s".toList = some [3, 4]) ∧
      (∃ job, baseJob.setFiles baseTree (Io.clean id 0) [⟨[], 2, 0⟩] = .ok job ∧
        .opened ["b.download".toList] 1 ∈ ((writeSession .plain).run ⟨job, baseTree⟩
          [.write (Io.clean id 0) ⟨1, 0, [3, 4], false⟩]).1.tree.journal) ∧
      ¬ [['b']] <+: [['s']] ∧ ¬ [['b']] <+: ["b.download".toList] := by
  refine ⟨⟨{ baseJob with totalSize := 2, files := [⟨['y'], 0, 0⟩, ⟨['x'], 2, 0⟩] },
    by decide +kernel, by decide +kernel⟩, ⟨{ baseJob with totalSize := 2, files := [⟨[], 2, 0⟩] },
    by decide +kernel, by decide +kernel⟩, by decide, by decide⟩

end SubnetDesk.FileTransfer
