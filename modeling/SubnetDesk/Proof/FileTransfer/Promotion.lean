import SubnetDesk.Proof.FileTransfer.WriteTransfer

namespace SubnetDesk.FileTransfer
open FileTree

/-- The job has accepted these bytes for one file, on top of an older download from its offset on. -/
structure Intake where
  file : Int
  kept : Bytes
  offset : Nat
  accepted : Bytes
deriving DecidableEq

/-- This is the download that the accepted bytes make. -/
def Intake.bytes (intake : Intake) : Bytes :=
  overwrite intake.kept intake.offset intake.accepted

/-- Bytes of another file spoil the download. -/
def Intake.accept (intake : Intake) (file : Int) (bytes : Bytes) : Option Intake :=
  if intake.file = file then some { intake with accepted := intake.accepted ++ bytes } else none

/-- A block for another file, or without a stream, starts from nothing. -/
def TransferJob.Switches (job : TransferJob) (block : FileTransferBlock) : Prop :=
  block.fileNum ≠ job.fileNum ∨ job.dataStream = none

instance (job : TransferJob) (block : FileTransferBlock) : Decidable (job.Switches block) :=
  inferInstanceAs (Decidable (_ ∨ _))

/-- A refused block changes nothing. -/
def trackWrite (codec : Codec) (writer : Writer) (io : Io) (block : FileTransferBlock)
    (intake : Option Intake) : Option Intake :=
  if block.id ≠ writer.job.id then intake
  else
    match writer.job.prepare codec writer.tree io block with
    | (_, _, .error _) => intake
    | (ready, _, .ok _) =>
        (if writer.job.Switches block then some ⟨block.fileNum, [], 0, []⟩ else intake).bind
          fun intake => intake.accept block.fileNum (ready.storedPart codec io block)

/-- A confirmed offset keeps the old download, and a skipped file is left. -/
def trackConfirm (writer : Writer) (io : Io) (request : FileTransferSendConfirmRequest)
    (intake : Option Intake) : Option Intake :=
  if writer.job.fileNum ≠ request.fileNum then intake
  else
    match request.union with
    | some (.skip true) => none
    | some (.offsetBlk offset) =>
        let (job, tree) := writer.job.confirm writer.tree io request
        if job.transferred = writer.job.transferred then intake
        else
          match job.dataStream with
          | some (.fileStream ⟨some inode, _, _, true, _⟩) =>
              some ⟨request.fileNum, tree.data inode, offset, []⟩
          | _ => none
    | _ => intake

def track (codec : Codec) (writer : Writer) (intake : Option Intake) :
    WriteStep → Option Intake
  | .write io block => trackWrite codec writer io block intake
  | .confirm io request => trackConfirm writer io request intake
  | _ => intake

/-- This session shows the touches of every step with the intake before it. -/
def trackedSession (codec : Codec) :
    Machine (Writer × Option Intake) WriteStep (Option Intake × Touch) where
  step state step :=
    let next := (state.1.step codec step).1
    ((next, track codec state.1 state.2 step),
      (next.tree.journal.drop state.1.tree.journal.length).map fun touch => (state.2, touch))

/-- A listed file is touched only when its own download replaces it. -/
def OwnPromotion (root : Location) (base : Path) (files : List FileEntry)
    (intake : Option Intake) (touch : Touch) : Prop :=
  ∀ fileNum entry, entryAt files fileNum = some entry →
    (slot root base entry.name).final ∈ touch.places →
      ∃ own, intake = some own ∧ own.file = fileNum ∧
        touch = .renamed (slot root base entry.name).download (slot root base entry.name).final
          (some own.bytes)

/-- The step ends the current file of the job. -/
def WriteStep.EndsFile (job : TransferJob) : WriteStep → Option Io
  | .write io block =>
      if block.id = job.id ∧ entryAt job.files block.fileNum ≠ none ∧ job.Switches block then some io
      else none
  | .finish io => some io
  | _ => none

/-- The job holds the download of its current file open. -/
def HoldsOpen (root : Location) (base : Path) (writer : Writer) (intake : Option Intake) : Prop :=
  match intake, writer.job.currentEntry, writer.job.dataStream with
  | some own, some entry, some (.fileStream ⟨some inode, _, _, true, _⟩) =>
      own.file = writer.job.fileNum ∧
        writer.tree.node (slot root base entry.name).download = some (.file inode)
  | _, _, _ => False

instance (root : Location) (base : Path) (writer : Writer) (intake : Option Intake) :
    Decidable (HoldsOpen root base writer intake) := by
  unfold HoldsOpen
  split <;> infer_instance

/-- A download takes its final name only when the job holds it open for the same file. -/
def PromotesOwn (root : Location) (base : Path) (state : Writer × Option Intake)
    (step : WriteStep) : Prop :=
  ∀ io ∈ step.EndsFile state.1.job, state.1.job.Renames state.1.tree io →
    HoldsOpen root base state.1 state.2

instance (root : Location) (base : Path) (state : Writer × Option Intake) (step : WriteStep) :
    Decidable (PromotesOwn root base state step) := inferInstanceAs (Decidable (∀ _ ∈ _, _ → _))

section Files

variable {origin tree next : Tree} {root : Location} {base name : Path} {good : Touch → Prop}

/-- The end of a file adds good touches when a renamed download is good. -/
theorem Located.finishPath_preserves (located : Located origin root base name)
    (linked : Linked origin tree) (io : Io)
    (removed : good (.removed (slot root base name).digest))
    (renamed : (∃ next, orFault io.finishRename
        ((orKeep tree (orFault io.finishDigest (tree.removeFile (digestPath (join base name))))).rename
          (downloadPath (join base name)) (join base name)) = .ok next) →
      ∀ entry, tree.node (slot root base name).download = some entry →
        good (.renamed (slot root base name).download (slot root base name).final
          (tree.content entry))) :
    Preserves good tree (FileTransfer.finishPath tree io (join base name)) := by
  have cleaned : ∀ cleaned, orKeep tree (orFault io.finishDigest
      (tree.removeFile (digestPath (join base name)))) = cleaned →
      Preserves good tree cleaned ∧ cleaned.data = tree.data ∧
        cleaned.node (slot root base name).download = tree.node (slot root base name).download := by
    rintro cleaned rfl
    unfold orKeep
    split
    next next_ success =>
      obtain ⟨place, resolved, gone⟩ := removeFile_ok (orFault_ok success)
      obtain ⟨rfl, _⟩ := located.resolveDigest linked resolved
      refine ⟨gone.preserves (located.digestFree linked) removed, gone.data, ?_⟩
      rw [gone.node, Function.update_of_ne (slot_download_ne_digest root base name name)]
    next => exact ⟨.refl tree, rfl, rfl⟩
  unfold FileTransfer.finishPath
  dsimp only
  obtain ⟨before, data, node⟩ := cleaned _ rfl
  generalize orKeep tree _ = middle at before data node renamed ⊢
  refine before.trans ?_
  unfold orKeep
  split
  next next_ success =>
    have still := before.linked linked
    obtain ⟨source, target, entry, sourceFound, targetFound, present, result⟩ :=
      rename_ok (orFault_ok success)
    obtain ⟨rfl, _⟩ := located.resolveDownload still sourceFound
    obtain rfl := located.resolveFinal still targetFound
    rcases result with ⟨rfl, _⟩ | moved
    · exact .refl _
    · refine moved.preserves (located.finalFree still) ?_ ?_
      · intro place link found
        exact (located.sides place link ((still.links place link).mpr found)).1
      · have same : middle.content entry = tree.content entry := by
          cases entry <;> simp [Tree.content, data]
        rw [same]
        exact renamed ⟨next_, success⟩ entry (node ▸ present)
  next => exact .refl _

/-- Both side files may be opened and removed. -/
structure SidesGood (good : Touch → Prop) (slot : Slot) : Prop where
  opened : ∀ inode, good (.opened slot.download inode) ∧ good (.opened slot.digest inode)
  removed : good (.removed slot.download) ∧ good (.removed slot.digest)

theorem Located.cancelPath_preserves (located : Located origin root base name)
    (linked : Linked origin tree) (sides : SidesGood good (slot root base name)) (io : Io) :
    Preserves good tree (cancelPath tree io (join base name)) := by
  have first : Preserves good tree (orKeep tree (orFault io.cancelDownload
      (tree.removeFile (downloadPath (join base name))))) := by
    unfold orKeep
    split
    next next_ success =>
      obtain ⟨place, resolved, removed⟩ := removeFile_ok (orFault_ok success)
      obtain ⟨rfl, _⟩ := located.resolveDownload linked resolved
      exact removed.preserves (located.downloadFree linked) sides.removed.1
    next => exact .refl tree
  have still := first.linked linked
  unfold cancelPath
  dsimp only
  generalize orKeep tree _ = middle at first still ⊢
  refine first.trans ?_
  unfold orKeep
  split
  next next_ success =>
    obtain ⟨place, resolved, removed⟩ := removeFile_ok (orFault_ok success)
    obtain ⟨rfl, _⟩ := located.resolveDigest still resolved
    exact removed.preserves (located.digestFree still) sides.removed.2
  next => exact .refl middle

/-- A new digest takes a number that no old file has. -/
theorem Located.writeDigest_preserves (located : Located origin root base name)
    (linked : Linked origin tree) (sides : SidesGood good (slot root base name)) (codec : Codec)
    (io : Io) (digest : FileDigest) (absent : tree.node (slot root base name).digest = none) :
    Preserves good tree (FileTransfer.writeDigest codec tree io (join base name) digest) := by
  unfold FileTransfer.writeDigest
  split
  next => exact .refl tree
  next opened file success =>
    obtain ⟨place, inode, resolved, rfl, created⟩ := create_ok (orFault_ok success)
    obtain ⟨rfl, _⟩ := located.resolveDigest linked resolved
    have before := created.preserves absent (sides.opened inode).2
    rw [Option.elim_some]
    refine ⟨before.links, before.cwd, before.counter, fun other old => ?_, before.touches⟩
    rcases created.origin with ⟨_, rfl⟩ | present
    · exact (Function.update_of_ne (Nat.ne_of_lt old) ..).trans (before.data other old)
    · cases absent.symm.trans present

/-- A resumed download keeps its bytes. -/
theorem Located.openWrite_preserves (located : Located origin root base name)
    (linked : Linked origin tree) (sides : SidesGood good (slot root base name)) {file : Handle}
    (opened : tree.openWrite (downloadPath (join base name)) = .ok (next, file)) :
    Preserves good tree next ∧ ∃ inode, file = ⟨some inode, 0, false, true, none⟩ ∧ inode < next.next := by
  obtain ⟨place, inode, resolved, rfl, result⟩ := openWrite_ok opened
  obtain ⟨rfl, _⟩ := located.resolveDownload linked resolved
  have fine := (sides.opened inode).1
  rcases result with ⟨present, rfl⟩ | ⟨absent, created⟩
  · exact ⟨record_preserves fine, inode, rfl, tree.numbered _ inode present⟩
  · have present : next.node (slot root base name).download = some (.file inode) := by
      rw [created.node, Function.update_self]
    exact ⟨created.preserves absent fine, inode, rfl, next.numbered _ inode present⟩

/-- A refused open keeps all bytes, and an open download is empty. -/
theorem Located.openDownload_tracked (located : Located origin root base name)
    (linked : Linked origin tree) (sides : SidesGood good (slot root base name)) (codec : Codec)
    (io : Io) (digest : FileDigest) :
    let result := FileTransfer.openDownload codec tree io (join base name) digest
    Linked origin result.1 ∧
      Touches good tree result.1 ∧
      ((∃ err, result.2 = .error err) → Preserves good tree result.1) ∧
      ∀ file, result.2 = .ok file → ∃ inode, file = ⟨some inode, 0, false, true, none⟩ ∧
        inode < result.1.next ∧ result.1.data inode = [] := by
  have parents : Preserves good tree (tree.createParents (join base name)) :=
    (createParents_added tree _).preserves
  unfold FileTransfer.openDownload
  dsimp only
  split
  next fault _ => exact ⟨parents.linked linked, parents.touches, fun _ => parents, by simp⟩
  next cleaned success =>
    have cleaning : Preserves good tree cleaned ∧
        (Anchored cleaned root base name → cleaned.node (slot root base name).digest = none) := by
      have still := parents.linked linked
      split at success
      next =>
        obtain ⟨place, resolved, removed⟩ := removeFile_ok (orFault_ok success)
        obtain ⟨rfl, _⟩ := located.resolveDigest still resolved
        refine ⟨parents.trans (removed.preserves (located.digestFree still) sides.removed.2), ?_⟩
        intro _
        rw [removed.node, Function.update_self]
      next missing =>
        obtain rfl := Except.ok.inj success
        refine ⟨parents, fun anchored => ?_⟩
        cases present : (tree.createParents (join base name)).node (slot root base name).digest with
        | none => rfl
        | some entry =>
            have resolved := located.findDigest still anchored true present
            exact absurd (by simp [Tree.pathExists, resolved, present]) missing
    obtain ⟨before, cleared⟩ := cleaning
    split
    next fault _ => exact ⟨before.linked linked, before.touches, fun _ => before, by simp⟩
    next between file created =>
      obtain ⟨place, inode, resolved, rfl, created⟩ := create_ok (orFault_ok created)
      have still := before.linked linked
      obtain ⟨rfl, anchored⟩ := located.resolveDownload still resolved
      have linkedBetween : Linked origin between :=
        ⟨still.links.trans created.sameLinks, created.cwd.trans still.cwd⟩
      have absent : between.node (slot root base name).digest = none := by
        rw [created.node, Function.update_of_ne (slot_download_ne_digest root base name name).symm]
        exact cleared anchored
      have after := located.writeDigest_preserves linkedBetween sides codec io digest absent
      have present : between.node (slot root base name).download = some (.file inode) := by
        rw [created.node, Function.update_self]
      have numbered := between.numbered _ inode present
      refine ⟨after.linked linkedBetween, ?_, by simp, ?_⟩
      · exact (before.touches.trans (.one created.journal (sides.opened inode).1)).trans after.touches
      · rintro handle same
        obtain rfl := Except.ok.inj same
        refine ⟨inode, rfl, lt_of_lt_of_le numbered after.counter, ?_⟩
        rw [after.data inode numbered, created.data, Function.update_self]

end Files

/-- The listed files are different, and none of them is a side file. -/
structure NamesApart (root : Location) (base : Path) (files : List FileEntry) : Prop where
  distinct : files.Pairwise fun first second =>
    (slot root base first.name).final ≠ (slot root base second.name).final
  sides : ∀ first ∈ files, ∀ second ∈ files, SidesApart root base first second

/-- The invariant ties the open stream to the bytes that the job has accepted. -/
structure Tracked (origin : Tree) (root : Location) (base : Path) (files : List FileEntry)
    (writer : Writer) (intake : Option Intake) : Prop where
  generic : writer.job.type = .generic
  source : writer.job.dataSource = .filePath base
  files : writer.job.files = files
  linked : Linked origin writer.tree
  stream : ∀ own, intake = some own → ∃ (inode : Nat) (waiting : Option Fault),
    writer.job.dataStream =
      some (.fileStream ⟨some inode, own.offset + own.accepted.length, false, true, waiting⟩) ∧
    inode < writer.tree.next ∧ writer.tree.data inode = own.bytes

section Steps

variable {origin : Tree} {root : Location} {base : Path} {files : List FileEntry} {writer : Writer}
  {intake : Option Intake} {entry : FileEntry} {codec : Codec} {io : Io}
  {block : FileTransferBlock}

theorem NamesApart.sidesGood (apart : NamesApart root base files) (member : entry ∈ files) :
    SidesGood (OwnPromotion root base files intake) (slot root base entry.name) := by
  have away : ∀ place, place = (slot root base entry.name).download ∨
      place = (slot root base entry.name).digest → ∀ fileNum other,
      entryAt files fileNum = some other → (slot root base other.name).final ≠ place := by
    rintro place kind fileNum other found same
    obtain ⟨notDownload, notDigest⟩ := apart.sides other (entryAt_mem found) entry member
    rcases kind with rfl | rfl
    · exact notDownload same
    · exact notDigest same
  constructor
  · intro inode
    refine ⟨fun fileNum other found final => ?_, fun fileNum other found final => ?_⟩
    · exact absurd (by simpa [Touch.places] using final) (away _ (.inl rfl) fileNum other found)
    · exact absurd (by simpa [Touch.places] using final) (away _ (.inr rfl) fileNum other found)
  · refine ⟨fun fileNum other found final => ?_, fun fileNum other found final => ?_⟩
    · exact absurd (by simpa [Touch.places] using final) (away _ (.inl rfl) fileNum other found)
    · exact absurd (by simpa [Touch.places] using final) (away _ (.inr rfl) fileNum other found)

/-- Two numbers of the same file are equal. -/
theorem NamesApart.number (apart : NamesApart root base files) {first second : Int}
    {other : FileEntry} (firstFound : entryAt files first = some entry)
    (secondFound : entryAt files second = some other)
    (same : (slot root base entry.name).final = (slot root base other.name).final) :
    first = second := by
  unfold entryAt at firstFound secondFound
  split at firstFound
  next => cases firstFound
  next firstSign =>
    split at secondFound
    next => cases secondFound
    next secondSign =>
      obtain ⟨firstBound, rfl⟩ := List.getElem?_eq_some_iff.mp firstFound
      obtain ⟨secondBound, rfl⟩ := List.getElem?_eq_some_iff.mp secondFound
      have order := List.pairwise_iff_getElem.mp apart.distinct
      rcases Nat.lt_trichotomy first.toNat second.toNat with less | equal | more
      · exact absurd same (order _ _ firstBound secondBound less)
      · omega
      · exact absurd same.symm (order _ _ secondBound firstBound more)

/-- The download of the current file is a good promotion when the job holds it open. -/
theorem NamesApart.promotion (apart : NamesApart root base files) {fileNum : Int} {own : Intake}
    (found : entryAt files fileNum = some entry) (known : intake = some own)
    (sameFile : own.file = fileNum) :
    OwnPromotion root base files intake
      (.renamed (slot root base entry.name).download (slot root base entry.name).final
        (some own.bytes)) := by
  intro other entry_ otherFound member
  have final : (slot root base entry_.name).final = (slot root base entry.name).final := by
    rcases (by simpa [Touch.places] using member : _ ∨ _) with side | same
    · exact absurd side (apart.sides entry_ (entryAt_mem otherFound) entry (entryAt_mem found)).1
    · exact same
  obtain rfl := apart.number otherFound found final
  obtain rfl := Option.some.inj (otherFound.symm.trans found)
  exact ⟨own, known, sameFile, rfl⟩

theorem Tracked.preserve {good : Touch → Prop} {next : Tree}
    (tracked : Tracked origin root base files writer intake)
    (preserves : Preserves good writer.tree next) :
    Tracked origin root base files ⟨writer.job, next⟩ intake where
  generic := tracked.generic
  source := tracked.source
  files := tracked.files
  linked := preserves.linked tracked.linked
  stream := by
    intro own known
    obtain ⟨inode, waiting, stream, old, data⟩ := tracked.stream own known
    exact ⟨inode, waiting, stream, lt_of_lt_of_le old preserves.counter,
      (preserves.data inode old).trans data⟩

theorem Tracked.currentPath (tracked : Tracked origin root base files writer intake) {path : Path}
    (resolved : writer.job.currentPath writer.tree io = some path) :
    ∃ entry ∈ files, join base entry.name = path ∧ writer.job.currentEntry = some entry := by
  unfold TransferJob.currentPath at resolved
  split at resolved
  next other entry _ source current =>
    obtain rfl : base = other := by simpa using tracked.source.symm.trans source
    exact ⟨entry, tracked.files ▸ entryAt_mem current, (resolveEntryPath_eq resolved).symm, current⟩
  next => cases resolved

/-- The end of a file touches listed files only as its own promotion. -/
theorem Tracked.modifyTime (tracked : Tracked origin root base files writer intake)
    (located : ∀ entry ∈ files, Located origin root base entry.name)
    (apart : NamesApart root base files)
    (own : writer.job.Renames writer.tree io → HoldsOpen root base writer intake) :
    Preserves (OwnPromotion root base files intake) writer.tree
      (writer.job.modifyTime writer.tree io) := by
  unfold TransferJob.modifyTime
  split
  next => exact .refl _
  next path resolved =>
    obtain ⟨entry, member, rfl, current⟩ := tracked.currentPath resolved
    refine (located entry member).finishPath_preserves tracked.linked io
      (apart.sidesGood member).removed.2 fun renames node present => ?_
    have holds := own ⟨_, resolved, renames⟩
    unfold HoldsOpen at holds
    split at holds
    next own_ entry_ inode pos readable waiting listed stream =>
      obtain ⟨sameFile, download⟩ := holds
      obtain rfl := Option.some.inj (current.symm.trans listed)
      obtain rfl := Option.some.inj (download.symm.trans present)
      obtain ⟨number, _, opened, _, data⟩ := tracked.stream own_ rfl
      obtain ⟨rfl, _⟩ : number = inode ∧ _ := by simpa using opened.symm.trans stream
      rw [Tree.content, data]
      exact apart.promotion (tracked.files ▸ current) rfl sameFile
    next => exact holds.elim

/-- A stored block belongs to the intake of its own file. -/
theorem Tracked.writeStream (tracked : Tracked origin root base files writer intake)
    (codec : Codec) (io : Io) (block : FileTransferBlock) :
    let result := writer.job.writeStream codec writer.tree io block
    Tracked origin root base files ⟨result.1, result.2.1⟩
        (intake.bind fun own => own.accept block.fileNum (writer.job.storedPart codec io block)) ∧
      result.2.1.journal = writer.tree.journal := by
  obtain ⟨stream, finished, transferred, job, tree⟩ :=
    writeStream_shape codec writer.tree io block writer.job
  have journal : (writer.job.writeStream codec writer.tree io block).2.1.journal =
      writer.tree.journal := by
    rcases tree with same | ⟨inode, bytes, same⟩
    · rw [same]
    · rw [same]
      rfl
  have linked : Linked origin (writer.job.writeStream codec writer.tree io block).2.1 := by
    rcases tree with same | ⟨inode, bytes, same⟩
    · rw [same]
      exact tracked.linked
    · rw [same]
      exact ⟨tracked.linked.links, tracked.linked.cwd⟩
  refine ⟨⟨by rw [job]; exact tracked.generic, by rw [job]; exact tracked.source,
    by rw [job]; exact tracked.files, linked, fun own accepted => ?_⟩, journal⟩
  obtain ⟨old, known, added⟩ := Option.bind_eq_some_iff.mp accepted
  obtain ⟨inode, waiting, opened, numbered, data⟩ := tracked.stream old known
  unfold Intake.accept at added
  split at added
  next =>
    obtain rfl := Option.some.inj added
    obtain ⟨later, _, _, err, written, -⟩ := writeStream_file codec writer.tree io block opened
    rw [written, TransferJob.storedPart, opened, Option.elim]
    refine ⟨inode, later, by rw [List.length_append, Nat.add_assoc], numbered, ?_⟩
    rw [data, Intake.bytes, overwrite_append]
    exact Function.update_self ..
  next => cases added

/-- The old file is ended, and a new one starts empty when its download opens. -/
theorem Tracked.switchFile (tracked : Tracked origin root base files writer intake)
    (located : ∀ entry ∈ files, Located origin root base entry.name)
    (apart : NamesApart root base files) (member : entry ∈ files) (codec : Codec) (fileNum : Int)
    (finished : Preserves (OwnPromotion root base files intake) writer.tree
      (writer.job.modifyTime writer.tree io)) :
    let result := writer.job.switchFile codec writer.tree io base fileNum entry
    Touches (OwnPromotion root base files intake) writer.tree result.2.1 ∧
      Tracked origin root base files ⟨result.1, result.2.1⟩
        (match result.2.2 with
        | .ok _ => some ⟨fileNum, [], 0, []⟩
        | .error _ => intake) := by
  have after := tracked.preserve finished
  unfold TransferJob.switchFile
  dsimp only
  split
  next => exact ⟨finished.touches, after⟩
  next =>
    rw [openTarget_generic codec _ io base entry.name
      (show ({ writer.job with fileNum := fileNum } : TransferJob).type = .generic from
        tracked.generic)]
    have moved : Tracked origin root base files
        ⟨{ writer.job with fileNum := fileNum }, writer.job.modifyTime writer.tree io⟩ intake :=
      ⟨after.generic, after.source, after.files, after.linked, after.stream⟩
    cases joined : joinValidatedPath (writer.job.modifyTime writer.tree io) io base entry.name with
    | error err => exact ⟨finished.touches, moved⟩
    | ok path =>
        obtain rfl := joinValidatedPath_eq joined
        have sides : SidesGood (OwnPromotion root base files intake) (slot root base entry.name) :=
          apart.sidesGood member
        obtain ⟨linked, touches, refused, opened⟩ :=
          (located entry member).openDownload_tracked after.linked sides codec io writer.job.digest
        dsimp only
        rcases opening : openDownload codec (writer.job.modifyTime writer.tree io) io
          (join base entry.name) writer.job.digest with ⟨next, err | file⟩
        · rw [opening] at touches refused
          exact ⟨finished.touches.trans touches, moved.preserve (refused ⟨err, rfl⟩)⟩
        · rw [opening] at linked touches opened
          refine ⟨finished.touches.trans touches, after.generic, after.source, after.files, linked, ?_⟩
          intro own known
          obtain rfl : _ = own := Option.some.inj known
          obtain ⟨inode, rfl, numbered, empty⟩ := opened file rfl
          exact ⟨inode, none, rfl, numbered, empty⟩

/-- One block touches listed files only as the own promotion of the file before it. -/
theorem Tracked.write (tracked : Tracked origin root base files writer intake)
    (located : ∀ entry ∈ files, Located origin root base entry.name)
    (apart : NamesApart root base files) (codec : Codec) (io : Io) (block : FileTransferBlock)
    (own : PromotesOwn root base (writer, intake) (.write io block)) :
    let result := writer.job.write codec writer.tree io block
    Touches (OwnPromotion root base files intake) writer.tree result.2.1 ∧
      Tracked origin root base files ⟨result.1, result.2.1⟩
        (trackWrite codec writer io block intake) := by
  unfold TransferJob.write trackWrite
  by_cases sameId : block.id = writer.job.id
  · rw [if_neg (not_not.mpr sameId), if_neg (not_not.mpr sameId)]
    have prepared : ∀ prepared, writer.job.prepare codec writer.tree io block = prepared →
        Touches (OwnPromotion root base files intake) writer.tree prepared.2.1 ∧
          Tracked origin root base files ⟨prepared.1, prepared.2.1⟩
            (match prepared.2.2 with
            | .ok _ =>
                if writer.job.Switches block then some ⟨block.fileNum, [], 0, []⟩ else intake
            | .error _ => intake) := by
      rintro prepared rfl
      rw [TransferJob.prepare, tracked.source]
      dsimp only
      split
      next => exact ⟨.same rfl, tracked⟩
      next entry found =>
        have member : entry ∈ files := tracked.files ▸ entryAt_mem found
        split
        next switches =>
          have ends : WriteStep.EndsFile writer.job (.write io block) = some io :=
            if_pos ⟨sameId, by simp [found], switches⟩
          have finished := tracked.modifyTime located apart (own io ends)
          obtain ⟨touches, after⟩ :=
            tracked.switchFile located apart member codec block.fileNum finished
          refine ⟨touches, ?_⟩
          rw [if_pos (show writer.job.Switches block from switches)]
          exact after
        next stays =>
          refine ⟨.same rfl, ?_⟩
          rw [if_neg (show ¬ writer.job.Switches block from stays)]
          exact tracked
    obtain ⟨touches, after⟩ := prepared _ rfl
    generalize writer.job.prepare codec writer.tree io block = result at touches after ⊢
    rcases result with ⟨job, tree, err | done⟩
    · exact ⟨touches, after⟩
    · obtain ⟨stored, journal⟩ := after.writeStream codec io block
      exact ⟨touches.trans (.same journal), stored⟩
  · rw [if_pos sameId, if_pos sameId]
    exact ⟨.same rfl, tracked⟩

/-- A confirmed offset takes over the old download, and every other outcome keeps its bytes. -/
theorem Tracked.setStreamOffset (tracked : Tracked origin root base files writer intake)
    (located : ∀ entry ∈ files, Located origin root base entry.name)
    (apart : NamesApart root base files) (io : Io) (fileNum : Int) (offset : Nat)
    (positive : 0 < offset) :
    let result := writer.job.setStreamOffset writer.tree io fileNum offset
    Touches (OwnPromotion root base files intake) writer.tree result.2 ∧
      Tracked origin root base files ⟨result.1, result.2⟩
        (if result.1.transferred = writer.job.transferred then intake
        else
          match result.1.dataStream with
          | some (.fileStream ⟨some inode, _, _, true, _⟩) =>
              some ⟨fileNum, result.2.data inode, offset, []⟩
          | _ => none) := by
  have same : Touches (OwnPromotion root base files intake) writer.tree writer.tree ∧
      Tracked origin root base files writer intake := ⟨.same rfl, tracked⟩
  unfold TransferJob.setStreamOffset
  dsimp only
  split
  next entry base_ found source =>
    obtain rfl : base = base_ := by simpa using tracked.source.symm.trans source
    have member : entry ∈ files := tracked.files ▸ entryAt_mem found
    split
    next => simpa using same
    next path resolved =>
      obtain rfl := resolveEntryPath_eq resolved
      split
      next =>
        split
        next => simpa using same
        next opened file success =>
          obtain ⟨preserves, inode, rfl, numbered⟩ := (located entry member).openWrite_preserves
            tracked.linked (apart.sidesGood member) (orFault_ok success)
          refine ⟨?_, ?_⟩
          · unfold TransferJob.seekTo
            split <;> exact preserves.touches
          · have after := tracked.preserve preserves
            unfold TransferJob.seekTo
            split
            next => simpa using after
            next =>
              have moved : writer.job.transferred + offset ≠ writer.job.transferred := by omega
              dsimp only
              rw [if_neg moved]
              refine ⟨after.generic, after.source, after.files, after.linked, fun own known => ?_⟩
              obtain rfl : _ = own := Option.some.inj known
              exact ⟨inode, none, rfl, numbered, rfl⟩
      next =>
        split
        next =>
          split
          next => simpa using same
          next file success =>
            have readOnly := openRead_readOnly (orFault_ok success)
            unfold TransferJob.seekTo
            split
            next => simpa using same
            next =>
              have moved : writer.job.transferred + offset ≠ writer.job.transferred := by omega
              dsimp only
              rw [if_neg moved, readOnly]
              exact ⟨.same rfl, tracked.generic, tracked.source, tracked.files, tracked.linked, by simp⟩
        next => simpa using same
  next => simpa using same

theorem Tracked.confirm (tracked : Tracked origin root base files writer intake)
    (located : ∀ entry ∈ files, Located origin root base entry.name)
    (apart : NamesApart root base files) (io : Io) (request : FileTransferSendConfirmRequest) :
    let result := writer.job.confirm writer.tree io request
    Touches (OwnPromotion root base files intake) writer.tree result.2 ∧
      Tracked origin root base files ⟨result.1, result.2⟩ (trackConfirm writer io request intake) := by
  have confirmed : Tracked origin root base files ⟨writer.job.setFileConfirmed true, writer.tree⟩
      intake := ⟨tracked.generic, tracked.source, tracked.files, tracked.linked, tracked.stream⟩
  unfold trackConfirm TransferJob.confirm
  by_cases other : writer.job.fileNum ≠ request.fileNum
  · rw [if_pos other, if_pos other]
    exact ⟨.same rfl, tracked⟩
  · simp only [if_neg other]
    rcases union : request.union with _ | skip | offset
    · exact ⟨.same rfl, tracked⟩
    · cases skip with
      | false => exact ⟨.same rfl, confirmed⟩
      | true =>
          exact ⟨.same rfl, tracked.generic, tracked.source, tracked.files, tracked.linked, by simp⟩
    · by_cases positive : 0 < offset
      · simp only [if_pos positive]
        exact confirmed.setStreamOffset located apart io request.fileNum offset positive
      · simp only [if_neg positive]
        exact ⟨.same rfl, by simpa [TransferJob.setFileConfirmed] using confirmed⟩

theorem Tracked.removeDownloadFile (tracked : Tracked origin root base files writer intake)
    (located : ∀ entry ∈ files, Located origin root base entry.name)
    (apart : NamesApart root base files) (io : Io) :
    Preserves (OwnPromotion root base files intake) writer.tree
      (writer.job.removeDownloadFile writer.tree io) := by
  unfold TransferJob.removeDownloadFile
  split
  next => exact .refl _
  next path resolved =>
    obtain ⟨entry, member, rfl, _⟩ := tracked.currentPath resolved
    have sides : SidesGood (OwnPromotion root base files intake) (slot root base entry.name) :=
      apart.sidesGood member
    exact (located entry member).cancelPath_preserves tracked.linked sides io

/-- One step touches listed files only as its own promotion and keeps the invariant. -/
theorem Tracked.step (tracked : Tracked origin root base files writer intake)
    (located : ∀ entry ∈ files, Located origin root base entry.name)
    (apart : NamesApart root base files) (codec : Codec) (step : WriteStep)
    (own : PromotesOwn root base (writer, intake) step) :
    Touches (OwnPromotion root base files intake) writer.tree (writer.step codec step).1.tree ∧
      Tracked origin root base files (writer.step codec step).1 (track codec writer intake step) := by
  cases step with
  | setDigest size modified =>
      exact ⟨.same rfl, tracked.generic, tracked.source, tracked.files, tracked.linked,
        tracked.stream⟩
  | write io block => exact tracked.write located apart codec io block own
  | confirm io request => exact tracked.confirm located apart io request
  | finish io =>
      have finished := tracked.modifyTime located apart (own io rfl)
      exact ⟨finished.touches, tracked.preserve finished⟩
  | cancel io =>
      have cancelled := tracked.removeDownloadFile located apart io
      exact ⟨cancelled.touches, tracked.preserve cancelled⟩

end Steps

/-- No link stands at a side file of the list or below it. With an empty name the base is no link. -/
def SidesFree (tree : Tree) (root : Location) (base : Path) (files : List FileEntry) : Prop :=
  ∀ entry ∈ files, (∀ place target, tree.node place = some (.symlink target) →
      ¬ (slot root base entry.name).download <+: place ∧
        ¬ (slot root base entry.name).digest <+: place) ∧
    (entry.name = [] → ∀ target,
      tree.node (slot root base entry.name).final ≠ some (.symlink target))

/-- The files of an accepted list have fixed places. -/
theorem SidesFree.located {tree : Tree} {io : Io} {base : Path} {root : Location}
    {files : List FileEntry} {job next : TransferJob} (free : SidesFree tree root base files)
    (destination : Destination tree base root files) (source : job.dataSource = .filePath base)
    (accepted : job.setFiles tree io files = .ok next) :
    ∀ entry ∈ files, Located tree root base entry.name := by
  obtain ⟨_, names, checked⟩ := setFiles_accepted source accepted
  intro entry member
  obtain ⟨sides, plain⟩ := free entry member
  have anchor := destination.anchor entry member
  by_cases empty : entry.name = []
  · have relative := destination.single entry member empty
    have name : anchorName base entry.name = leaf base := if_pos empty
    refine ⟨anchor, name ▸ relative, ?_, sides⟩
    have final := plain empty
    rw [slot, entryPlace, name] at final
    rw [name]
    rw [parts_leaf (leaf_no_slash base) relative.nonempty] at final ⊢
    by_cases dotted : leaf base = dot
    · simp [clean, dotted, Tree.Unlinked]
    · have single : clean [leaf base] = [leaf base] := by simp [clean, dotted]
      rw [single] at final ⊢
      exact ⟨final, fun _ => trivial⟩
  · have name : anchorName base entry.name = entry.name := if_neg empty
    have path : anchorPath base entry.name = base := if_neg empty
    have relative := names entry member empty
    refine ⟨anchor, by rw [name]; exact relative, ?_, sides⟩
    rw [path] at anchor
    obtain ⟨left, reaches⟩ := anchor.reaches
    rw [name]
    exact validateNoSymlinkComponents_unlinked anchor.nonempty relative reaches (checked entry member)

/-- In every run in which a download takes its final name only while the job holds it open for the
same file, a listed file is replaced only by the bytes that the job has accepted for it. -/
theorem promotions_own (codec : Codec) (tree : Tree) (io : Io) (base : Path) (root : Location)
    (files : List FileEntry) (job next : TransferJob) (steps : List WriteStep)
    (generic : job.type = .generic) (source : job.dataSource = .filePath base)
    (destination : Destination tree base root files) (free : SidesFree tree root base files)
    (apart : NamesApart root base files) (accepted : job.setFiles tree io files = .ok next)
    (own : (trackedSession codec).Guarded (PromotesOwn root base) (⟨next, tree⟩, none) steps) :
    ∀ output ∈ ((trackedSession codec).run (⟨next, tree⟩, none) steps).2,
      OwnPromotion root base files output.1 output.2 := by
  have located := free.located destination source accepted
  obtain ⟨rfl, _, _⟩ := setFiles_accepted source accepted
  have final := (trackedSession codec).run_invariant (PromotesOwn root base)
    (fun state past => Tracked tree root base files state.1 state.2 ∧
      ∀ output ∈ past, OwnPromotion root base files output.1 output.2) ?_ _ [] steps
    ⟨⟨generic, source, rfl, .refl tree, by simp⟩, by simp⟩ own
  · simpa using final.2
  rintro ⟨writer, intake⟩ past step guard ⟨tracked, good⟩
  obtain ⟨⟨touches, journal, fine⟩, after⟩ := tracked.step located apart codec step guard
  refine ⟨after, fun output member => ?_⟩
  rcases List.mem_append.mp member with old | new
  · exact good output old
  · obtain ⟨touch, added, rfl⟩ := List.mem_map.mp new
    rw [journal, List.drop_left] at added
    exact fine touch added

/-- The first block of an empty directory ends no old file, and the end of the job promotes it. -/
theorem promotions_own_newJob :
    let files : List FileEntry := [⟨['x'], 2, 0⟩]
    let next := { newJob with totalSize := 2, files := files }
    let tree := Tree.ofFiles [[['b']]] [] [([['b'], ['x']], [9])]
    let steps := [WriteStep.write (Io.clean id 0) ⟨1, 0, [1, 2], false⟩, .finish (Io.clean id 0)]
    ((trackedSession .plain).run (⟨next, tree⟩, none) steps).2.getLast? =
        some (some ⟨0, [], 0, [1, 2]⟩,
          .renamed [['b'], "x.download".toList] [['b'], ['x']] (some [1, 2])) ∧
      ∀ output ∈ ((trackedSession .plain).run (⟨next, tree⟩, none) steps).2,
        OwnPromotion [['b']] "/b".toList files output.1 output.2 := by
  intro files next tree steps
  have accepted : newJob.setFiles tree (Io.clean id 0) files = .ok next := by decide +kernel
  have base : BaseAt tree "/b".toList [['b']] :=
    ⟨by decide, ⟨maxLinks, .down _ _ _ _ ['b'] [] (by decide) (by decide) (by decide +kernel)
      (.here _ _)⟩, by decide +kernel⟩
  have unlinked := Tree.linkFree_unlinked (show tree.linkFree = true by decide +kernel)
  refine ⟨by decide +kernel, promotions_own .plain tree (Io.clean id 0) "/b".toList [['b']] files newJob
    next steps rfl rfl ⟨?_, by simp [files]⟩ ?_ ⟨by simp [files], ?_⟩ accepted (by decide +kernel)⟩
  · intro entry member
    obtain rfl := List.mem_singleton.mp member
    exact base
  · exact fun entry _ => ⟨fun place target linked => absurd linked (unlinked place target),
      fun _ target => unlinked _ target⟩
  · intro first firstMember second secondMember
    obtain rfl := List.mem_singleton.mp firstMember
    obtain rfl := List.mem_singleton.mp secondMember
    decide +kernel

/-- The first block of a new job promotes the download that an older job has left, and so does the
end of a job without blocks. -/
theorem promotions_stale :
    let files : List FileEntry := [⟨['x'], 2, 0⟩]
    let next := { newJob with totalSize := 2, files := files }
    newJob.setFiles oldTree (Io.clean id 0) files = .ok next ∧
      ∀ step ∈ [WriteStep.write (Io.clean id 0) ⟨1, 0, [1, 2], false⟩, .finish (Io.clean id 0)],
        ((trackedSession .plain).run (⟨next, oldTree⟩, none) [step]).1.1.tree.fileBytes
            "/b/x".toList = some [8, 8, 8] ∧
          ¬ ∀ output ∈ ((trackedSession .plain).run (⟨next, oldTree⟩, none) [step]).2,
            OwnPromotion [['b']] "/b".toList files output.1 output.2 := by
  intro files next
  refine ⟨by decide +kernel, fun step member => ⟨?_, fun good => ?_⟩⟩
  · revert step
    decide +kernel
  · have stale : (none, Touch.renamed [['b'], "x.download".toList] [['b'], ['x']] (some [8, 8, 8])) ∈
        ((trackedSession .plain).run (⟨next, oldTree⟩, none) [step]).2 := by
      clear good
      revert step
      decide +kernel
    obtain ⟨own, known, _⟩ := good _ stale 0 ⟨['x'], 2, 0⟩ rfl (by decide +kernel)
    cases known

end SubnetDesk.FileTransfer
