import SubnetDesk.Proof.FileTransfer.Slots

namespace SubnetDesk.FileTransfer
open FileTree

/-- No call of the write side fails by itself. -/
structure Io.Faultless (io : Io) : Prop where
  lstat : ∀ path, io.lstat path = none
  sync : io.sync = none
  removeDigest : io.removeDigest = none
  create : io.create = none
  writeDigest : io.writeDigest = none
  writeAll : io.writeAll = none
  finishDigest : io.finishDigest = none
  finishRename : io.finishRename = none

section Files

variable {origin tree next : Tree} {root : Location} {own : Location → Prop} {base name : Path}
  {io : Io}

/-- The digest of a listed file is gone before its download is renamed. -/
theorem Located.removeDigest (located : Located origin root base name)
    (linked : Linked origin tree) (unshared : tree.Unshared root own)
    (anchored : Anchored tree root base name) :
    let cleaned := orKeep tree (tree.removeFile (digestPath (join base name)))
    Changes root own [(slot root base name).digest] tree cleaned ∧
      cleaned.fileAt (slot root base name).digest = none ∧
      cleaned.node (slot root base name).download = tree.node (slot root base name).download := by
  dsimp only
  cases removed : tree.removeFile (digestPath (join base name)) with
  | ok cleaned =>
      obtain ⟨place, resolved, removed⟩ := removeFile_ok removed
      obtain ⟨rfl, _⟩ := located.resolveDigest linked resolved
      refine ⟨removed.changes unshared (located.digestFree linked), removed.fileAt, ?_⟩
      rw [orKeep, removed.node, Function.update_of_ne]
      exact slot_download_ne_digest root base name name
  | error fault =>
      refine ⟨.refl unshared, ?_, rfl⟩
      cases stored : tree.fileAt (slot root base name).digest with
      | none => exact stored
      | some bytes =>
          obtain ⟨inode, present, _⟩ := Tree.fileAt_some stored
          have resolved := located.findDigest linked anchored false present
          simp [Tree.removeFile, resolved, present] at removed

/-- A finished download becomes the file, and both side files are gone. -/
theorem Located.finishPath (located : Located origin root base name) (linked : Linked origin tree)
    (unshared : tree.Unshared root own) (owned : own (slot root base name).download)
    (anchored : Anchored tree root base name) (faultless : io.Faultless)
    {inode : Nat} (present : tree.node (slot root base name).download = some (.file inode))
    (renames : ∃ next, orFault io.finishRename
      ((orKeep tree (orFault io.finishDigest (tree.removeFile (digestPath (join base name))))).rename
        (downloadPath (join base name)) (join base name)) = .ok next) :
    let next := finishPath tree io (join base name)
    Changes root own [(slot root base name).final, (slot root base name).download,
        (slot root base name).digest] tree next ∧
      next.fileAt (slot root base name).final = tree.fileAt (slot root base name).download ∧
      next.fileAt (slot root base name).download = none ∧
      next.fileAt (slot root base name).digest = none := by
  obtain ⟨cleaning, digestGone, kept⟩ := located.removeDigest linked unshared anchored
  obtain ⟨next, renamed⟩ := renames
  simp only [FileTransfer.finishPath, faultless.finishDigest, faultless.finishRename, orFault] at renamed ⊢
  rw [renamed]
  obtain ⟨source, target, entry, sourceFound, targetFound, found, result⟩ := rename_ok renamed
  have still := cleaning.linked linked
  obtain ⟨rfl, _⟩ := located.resolveDownload still sourceFound
  obtain rfl := located.resolveFinal still targetFound
  obtain ⟨finalBelow, downloadBelow, _⟩ := slot_below root base name
  have apart := slot_final_ne_download root base name
  rw [kept, present] at found
  obtain rfl : Node.file inode = entry := Option.some.inj found
  rcases result with ⟨_, shared⟩ | moved
  · exact absurd (cleaning.unshared _ _ inode owned downloadBelow finalBelow (kept ▸ present) shared)
      apart
  · have moving := moved.changes cleaning.unshared owned downloadBelow (located.finalFree still)
    obtain ⟨arrived, left⟩ := moved.fileAt
    have sides := slot_download_ne_digest root base name name
    refine ⟨(cleaning.mono (by simp)).trans (moving.mono (by simp)), ?_, left apart.symm, ?_⟩
    · exact arrived.trans (cleaning.kept _ downloadBelow (by simpa using sides))
    · rw [orKeep, moving.kept _ (slot_below root base name).2.2, digestGone]
      have other := slot_final_ne_digest root base name
      simp only [List.mem_cons, List.not_mem_nil, or_false, not_or]
      exact ⟨sides.symm, other.symm⟩

/-- The end of a file keeps the links, and no file gets a second name. -/
theorem Located.finishLinked (located : Located origin root base name)
    (linked : Linked origin tree) (unshared : tree.Unshared root own)
    (owned : own (slot root base name).download)
    (clear : ¬ (slot root base name).final <+: (slot root base name).download → ∀ place, own place →
      (slot root base name).final <+: place → place = (slot root base name).final) (io : Io) :
    Linked origin (FileTransfer.finishPath tree io (join base name)) ∧
      (FileTransfer.finishPath tree io (join base name)).Unshared root own := by
  have cleaned : ∀ cleaned, orKeep tree (orFault io.finishDigest
      (tree.removeFile (digestPath (join base name)))) = cleaned →
      Linked origin cleaned ∧ cleaned.Unshared root own := by
    rintro cleaned rfl
    unfold orKeep
    split
    next next_ success =>
      obtain ⟨place, resolved, removed⟩ := removeFile_ok (orFault_ok success)
      obtain ⟨rfl, _⟩ := located.resolveDigest linked resolved
      have changes := removed.changes unshared (located.digestFree linked)
      exact ⟨changes.linked linked, changes.unshared⟩
    next => exact ⟨linked, unshared⟩
  unfold FileTransfer.finishPath
  dsimp only
  obtain ⟨still, apart⟩ := cleaned _ rfl
  generalize orKeep tree _ = middle at still apart ⊢
  unfold orKeep
  split
  next next_ success =>
    obtain ⟨source, target, entry, sourceFound, targetFound, _, result⟩ :=
      rename_ok (orFault_ok success)
    obtain ⟨rfl, _⟩ := located.resolveDownload still sourceFound
    obtain rfl := located.resolveFinal still targetFound
    rcases result with ⟨rfl, _⟩ | moved
    · exact ⟨still, apart⟩
    · have below := (slot_below root base name).2.1
      have free := located.finalFree still
      refine ⟨⟨still.links.trans (moved.sameLinks free ?_), moved.cwd.trans still.cwd⟩, ?_⟩
      · intro place link found
        exact (located.sides place link ((still.links place link).mpr found)).1
      · cases entry with
        | file inode => exact (moved.changes apart owned below free).unshared
        | symlink target => exact absurd moved.present (located.downloadFree still target)
        | dir =>
            refine moved.unshared_dir apart below (clear fun inside => ?_)
            have absent := moved.replaced _ inside (slot_final_ne_download root base name).symm
            cases absent.symm.trans moved.present
  next => exact ⟨still, apart⟩

/-- The digest is written beside the download. -/
theorem Located.writeDigest (located : Located origin root base name) (linked : Linked origin tree)
    (unshared : tree.Unshared root own) (owned : own (slot root base name).digest) (codec : Codec)
    (io : Io) (digest : FileDigest) :
    let next := writeDigest codec tree io (join base name) digest
    Changes root own [(slot root base name).digest] tree next ∧
      next.node (slot root base name).download = tree.node (slot root base name).download := by
  unfold FileTransfer.writeDigest
  dsimp only
  split
  next => exact ⟨.refl unshared, rfl⟩
  next opened file success =>
    obtain ⟨place, inode, resolved, rfl, created⟩ := create_ok (orFault_ok success)
    obtain ⟨rfl, _⟩ := located.resolveDigest linked resolved
    have below := (slot_below root base name).2.2
    have making := created.changes unshared owned below
    have present : opened.node (slot root base name).digest = some (.file inode) := by
      rw [created.node, Function.update_self]
    refine ⟨making.trans (setData_changes present owned below making.unshared _), ?_⟩
    rw [Option.elim_some, Tree.setData, created.node, Function.update_of_ne]
    exact slot_download_ne_digest root base name name

/-- An opened download is empty, and no other file has changed. -/
theorem Located.openDownload (located : Located origin root base name)
    (linked : Linked origin tree) (unshared : tree.Unshared root own)
    (download : own (slot root base name).download) (digest_ : own (slot root base name).digest)
    {io : Io} {codec : Codec}
    {digest : FileDigest} {file : Handle}
    (opened : openDownload codec tree io (join base name) digest = (next, .ok file)) :
    ∃ inode, file = ⟨some inode, 0, false, true, none⟩ ∧
      next.node (slot root base name).download = some (.file inode) ∧
      next.fileAt (slot root base name).download = some [] ∧
      Changes root own [(slot root base name).download, (slot root base name).digest] tree next ∧
      Anchored next root base name := by
  have making : Changes root own [(slot root base name).digest] tree
      (tree.createParents (join base name)) := (createParents_added tree _).changes unshared
  unfold FileTransfer.openDownload at opened
  dsimp only at opened
  split at opened
  next => cases opened
  next cleaned success =>
    have cleaning : Changes root own [(slot root base name).digest] tree cleaned := by
      split at success
      next =>
        obtain ⟨place, resolved, removed⟩ := removeFile_ok (orFault_ok success)
        have still := making.linked linked
        obtain ⟨rfl, _⟩ := located.resolveDigest still resolved
        exact making.trans (removed.changes making.unshared (located.digestFree still))
      next => exact Except.ok.inj success ▸ making
    split at opened
    next => cases opened
    next between handle created =>
      obtain ⟨place, inode, resolved, rfl, created⟩ := create_ok (orFault_ok created)
      have still := cleaning.linked linked
      obtain ⟨rfl, anchored⟩ := located.resolveDownload still resolved
      have creating := created.changes cleaning.unshared download (slot_below root base name).2.1
      obtain ⟨noting, kept⟩ := located.writeDigest (creating.linked still) creating.unshared digest_
        codec io digest
      obtain ⟨rfl, same⟩ := Prod.mk.inj opened
      obtain rfl := Except.ok.inj same
      have apart := slot_download_ne_digest root base name name
      refine ⟨inode, rfl, ?_, ?_, ?_, (anchored.mono creating).mono noting⟩
      · rw [kept, created.node, Function.update_self]
      · rw [noting.kept _ (slot_below root base name).2.1 (by simpa using apart), created.fileAt]
      · exact ((cleaning.mono (by simp)).trans (creating.mono (by simp))).trans
          (noting.mono (by simp))

end Files

/-- A listed file can be found below the base directory. -/
structure Reachable (tree : Tree) (root : Location) (base name : Path) : Prop where
  anchored : Anchored tree root base name
  parent : tree.node (slot root base name).download.dropLast = some .dir

theorem Reachable.mono {root : Location} {own : Location → Prop} {base name : Path}
    {touched : List Location} {tree next : Tree} (reachable : Reachable tree root base name)
    (changes : Changes root own touched tree next) : Reachable next root base name :=
  ⟨reachable.anchored.mono changes, changes.dirs _ reachable.parent⟩

end SubnetDesk.FileTransfer
