import SubnetDesk.Foundation.FileWalk

namespace FileTree

/-- The call leaves one empty file at the place. -/
structure Created (tree next : Tree) (place : Location) (inode : Nat) : Prop where
  node : next.node = Function.update tree.node place (some (.file inode))
  data : next.data = Function.update tree.data inode []
  origin : (tree.Vacant place ∧ inode = tree.next) ∨ tree.node place = some (.file inode)
  counter : tree.next ≤ next.next
  cwd : next.cwd = tree.cwd
  journal : next.journal = tree.journal ++ [.opened place inode]

theorem addFile_created (tree : Tree) (place : Location) (vacant : tree.Vacant place) :
    Created tree ((tree.addFile place).record (.opened place tree.next)) place tree.next := by
  rw [Tree.addFile, dif_pos vacant]
  exact ⟨rfl, rfl, .inl ⟨vacant, rfl⟩, Nat.le_succ _, rfl, rfl⟩

theorem create_ok {tree next : Tree} {path : Path} {file : Handle}
    (created : tree.create path = .ok (next, file)) :
    ∃ place inode, tree.resolve true path = .ok place ∧ file = ⟨some inode, 0, false, true, none⟩ ∧
      Created tree next place inode := by
  unfold Tree.create at created
  split at created
  next => cases created
  next place resolved =>
    split at created
    next inode present =>
      obtain ⟨rfl, rfl⟩ := Prod.mk.inj (Except.ok.inj created)
      refine ⟨place, inode, resolved, rfl, ⟨?_, rfl, .inr present, le_refl _, rfl, rfl⟩⟩
      exact (Function.update_eq_self_iff.mpr present.symm).symm
    next => cases created
    next => cases created
    next absent =>
      split at created
      next vacant =>
        obtain ⟨rfl, rfl⟩ := Prod.mk.inj (Except.ok.inj created)
        exact ⟨place, tree.next, resolved, rfl, addFile_created tree place vacant⟩
      next => cases created

/-- A file that is present keeps its bytes. -/
theorem openWrite_ok {tree next : Tree} {path : Path} {file : Handle}
    (opened : tree.openWrite path = .ok (next, file)) :
    ∃ place inode, tree.resolve true path = .ok place ∧ file = ⟨some inode, 0, false, true, none⟩ ∧
      ((tree.node place = some (.file inode) ∧ next = tree.record (.opened place inode)) ∨
        (tree.node place = none ∧ Created tree next place inode)) := by
  unfold Tree.openWrite at opened
  split at opened
  next => cases opened
  next place resolved =>
    split at opened
    next inode present =>
      obtain ⟨rfl, rfl⟩ := Prod.mk.inj (Except.ok.inj opened)
      exact ⟨place, inode, resolved, rfl, .inl ⟨present, rfl⟩⟩
    next => cases opened
    next => cases opened
    next absent =>
      split at opened
      next vacant =>
        obtain ⟨rfl, rfl⟩ := Prod.mk.inj (Except.ok.inj opened)
        exact ⟨place, tree.next, resolved, rfl, .inr ⟨absent, addFile_created tree place vacant⟩⟩
      next => cases opened

theorem openRead_readOnly {tree : Tree} {path : Path} {file : Handle}
    (opened : tree.openRead path = .ok file) : file.writable = false := by
  unfold Tree.openRead at opened
  repeat' split at opened
  all_goals cases opened
  all_goals rfl

/-- The call removes one entry that is no directory. -/
structure Removed (tree next : Tree) (place : Location) : Prop where
  node : next.node = Function.update tree.node place none
  old : tree.node place ≠ none ∧ tree.node place ≠ some .dir
  data : next.data = tree.data
  counter : next.next = tree.next
  cwd : next.cwd = tree.cwd
  journal : next.journal = tree.journal ++ [.removed place]

theorem removeFile_ok {tree next : Tree} {path : Path}
    (removed : tree.removeFile path = .ok next) :
    ∃ place, tree.resolve false path = .ok place ∧ Removed tree next place := by
  unfold Tree.removeFile at removed
  split at removed
  next => cases removed
  next place resolved =>
    split at removed
    next => cases removed
    next entry file present =>
      have plain : tree.node place ≠ some .dir := by
        rw [present]
        exact fun same => file (Option.some.inj same)
      refine ⟨place, resolved, ?_⟩
      rw [← Except.ok.inj removed, Tree.erase, dif_neg plain]
      exact ⟨rfl, ⟨by simp [present], plain⟩, rfl, rfl, rfl, rfl⟩
    next => cases removed

/-- The call moves one entry over a file, an empty directory, or a free place. -/
structure Moved (tree next : Tree) (source target : Location) (entry : Node) : Prop where
  node : next.node = tree.moved source target
  movable : tree.Movable source target
  present : tree.node source = some entry
  onto : entry ≠ .dir → tree.node target ≠ some .dir
  replaced : ∀ place, target <+: place → place ≠ target → tree.node place = none
  data : next.data = tree.data
  counter : next.next = tree.next
  cwd : next.cwd = tree.cwd
  journal : next.journal = tree.journal ++ [.renamed source target (tree.content entry)]

theorem moveRecorded_ok {tree next : Tree} {source target : Location} {entry : Node}
    (present : tree.node source = some entry)
    (onto : entry ≠ .dir → tree.node target ≠ some .dir)
    (replaced : ∀ place, target <+: place → place ≠ target → tree.node place = none)
    (moved : tree.moveRecorded source target entry = .ok next) :
    Moved tree next source target entry := by
  unfold Tree.moveRecorded at moved
  split at moved
  next movable =>
    rw [← Except.ok.inj moved, Tree.move, dif_pos movable]
    exact ⟨rfl, movable, present, onto, replaced, rfl, rfl, rfl, rfl⟩
  next => cases moved

/-- Nothing stands below a place that is no directory. -/
theorem Tree.nothing_below (tree : Tree) {place : Location} (other : tree.node place ≠ some .dir) :
    ∀ below, place <+: below → below ≠ place → tree.node below = none := by
  rintro _ ⟨rest, rfl⟩ different
  cases present : tree.node (place ++ rest) with
  | none => rfl
  | some entry =>
      refine absurd (tree.above present ?_) other
      rintro rfl
      exact different (List.append_nil _)

theorem Tree.empty_below (tree : Tree) {place : Location} (childless : tree.hasChild place = false) :
    ∀ below, place <+: below → below ≠ place → tree.node below = none := by
  intro below inside different
  cases present : tree.node below with
  | none => rfl
  | some entry =>
      have child : tree.hasChild place = true := by
        refine List.any_eq_true.mpr ⟨below, tree.named below entry present, ?_⟩
        simp [inside, different, present]
      rw [childless] at child
      cases child

/-- A rename that changes nothing names one file twice. -/
theorem rename_ok {tree next : Tree} {source target : Path}
    (renamed : tree.rename source target = .ok next) :
    ∃ from_ to_ entry, tree.resolve false source = .ok from_ ∧ tree.resolve false target = .ok to_ ∧
      tree.node from_ = some entry ∧
      ((next = tree ∧ tree.node to_ = some entry) ∨ Moved tree next from_ to_ entry) := by
  unfold Tree.rename at renamed
  split at renamed
  next => cases renamed
  next => cases renamed
  next from_ to_ sourceFound targetFound =>
    split at renamed
    next => cases renamed
    next entry present =>
      refine ⟨from_, to_, entry, sourceFound, targetFound, present, ?_⟩
      unfold Tree.renameAt at renamed
      split at renamed
      next directory occupied =>
        have isDir : entry = .dir := by cases entry <;> simp [Node.isDir] at directory ⊢
        split at renamed
        next same =>
          left
          rw [← Except.ok.inj renamed, occupied, isDir]
          exact ⟨rfl, rfl⟩
        next =>
          split at renamed
          next => cases renamed
          next childless =>
            right
            exact moveRecorded_ok present (fun other => absurd isDir other)
              (tree.empty_below (Bool.eq_false_iff.mpr childless)) renamed
      next => cases renamed
      next directory vacant =>
        right
        exact moveRecorded_ok present (fun _ => by simp [vacant])
          (tree.nothing_below (by simp [vacant])) renamed
      next => cases renamed
      next other notDir plain occupied =>
        have free : tree.node to_ ≠ some .dir := by
          rw [occupied]
          exact fun same => notDir (Option.some.inj same)
        split at renamed
        next same =>
          left
          refine ⟨(Except.ok.inj renamed).symm, ?_⟩
          rcases same with same | same
          · rw [← same]
            exact present
          · rw [occupied]
            cases entry <;> cases other <;> simp_all [Node.sameFile]
        next =>
          right
          exact moveRecorded_ok present (fun _ => free) (tree.nothing_below free) renamed
      next plain vacant =>
        right
        exact moveRecorded_ok present (fun _ => by simp [vacant])
          (tree.nothing_below (by simp [vacant])) renamed

/-- The call adds only directories. -/
structure DirsAdded (tree next : Tree) : Prop where
  node : ∀ place, next.node place = tree.node place ∨
    (tree.node place = none ∧ next.node place = some .dir)
  data : next.data = tree.data
  counter : next.next = tree.next
  cwd : next.cwd = tree.cwd
  journal : next.journal = tree.journal

theorem DirsAdded.refl (tree : Tree) : DirsAdded tree tree := ⟨fun _ => .inl rfl, rfl, rfl, rfl, rfl⟩

theorem DirsAdded.trans {first second third : Tree} (before : DirsAdded first second)
    (after : DirsAdded second third) : DirsAdded first third where
  node := by
    intro place
    rcases before.node place with same | ⟨absent, made⟩
    · rw [← same]
      exact after.node place
    · rcases after.node place with same | ⟨none_, _⟩
      · exact .inr ⟨absent, same.trans made⟩
      · rw [made] at none_
        cases none_
  data := after.data.trans before.data
  counter := after.counter.trans before.counter
  cwd := after.cwd.trans before.cwd
  journal := after.journal.trans before.journal

theorem addDir_added (tree : Tree) (place : Location) : DirsAdded tree (tree.addDir place) := by
  unfold Tree.addDir Tree.addNode
  split
  next vacant =>
    refine ⟨fun other => ?_, rfl, rfl, rfl, rfl⟩
    by_cases same : other = place
    · right
      rw [same]
      exact ⟨vacant.2.1, Function.update_self ..⟩
    · exact .inl (Function.update_of_ne same ..)
  next => exact .refl tree

theorem createDirsFrom_added (tree : Tree) (current : Location) (route : List Segment) :
    DirsAdded tree (tree.createDirsFrom current route) := by
  induction route generalizing tree current with
  | nil => exact .refl tree
  | cons segment rest ih =>
      unfold Tree.createDirsFrom
      repeat' split
      all_goals first | exact ih _ _ | exact .refl tree | exact (addDir_added tree _).trans (ih _ _)

theorem createParents_added (tree : Tree) (path : Path) : DirsAdded tree (tree.createParents path) :=
  createDirsFrom_added tree _ _

theorem Created.sameLinks {tree next : Tree} {place : Location} {inode : Nat}
    (created : Created tree next place inode) : SameLinks tree next := by
  intro other target
  rw [created.node]
  by_cases same : other = place
  · rw [same, Function.update_self]
    rcases created.origin with ⟨vacant, _⟩ | present
    · simp [vacant.2.1]
    · simp [present]
  · rw [Function.update_of_ne same]

theorem Removed.sameLinks {tree next : Tree} {place : Location} (removed : Removed tree next place)
    (unlinked : ∀ target, tree.node place ≠ some (.symlink target)) : SameLinks tree next := by
  intro other target
  rw [removed.node]
  by_cases same : other = place
  · rw [same, Function.update_self]
    simp [unlinked target]
  · rw [Function.update_of_ne same]

/-- A moved entry without links keeps all links in their places. -/
theorem Moved.sameLinks {tree next : Tree} {source target : Location} {entry : Node}
    (moved : Moved tree next source target entry)
    (unlinked : ∀ link, tree.node target ≠ some (.symlink link))
    (free : ∀ place link, tree.node place = some (.symlink link) → ¬ source <+: place) :
    SameLinks tree next := by
  intro place link
  rw [moved.node, Tree.moved]
  split
  next inside =>
    obtain ⟨rest, rfl⟩ := inside
    rw [List.drop_left]
    refine iff_of_false (fun linked => ?_) fun linked => free _ link linked (List.prefix_append _ _)
    by_cases top : target ++ rest = target
    · exact unlinked link (top ▸ linked)
    · rw [moved.replaced _ (List.prefix_append _ _) top] at linked
      cases linked
  next =>
    split
    next below => exact iff_of_false (fun linked => free place link linked below) (by simp)
    next => exact Iff.rfl

theorem DirsAdded.sameLinks {tree next : Tree} (added : DirsAdded tree next) :
    SameLinks tree next := by
  intro place target
  rcases added.node place with same | ⟨absent, made⟩
  · rw [same]
  · simp [absent, made]

/-- The call adds only good touches to the journal. -/
def Touches (good : Touch → Prop) (tree next : Tree) : Prop :=
  ∃ touches, next.journal = tree.journal ++ touches ∧ ∀ touch ∈ touches, good touch

/-- The call keeps the bytes of every old file and adds only good touches to the journal. -/
structure Preserves (good : Touch → Prop) (tree next : Tree) : Prop where
  links : SameLinks tree next
  cwd : next.cwd = tree.cwd
  counter : tree.next ≤ next.next
  data : ∀ inode, inode < tree.next → next.data inode = tree.data inode
  touches : Touches good tree next

section Preserved

variable {good : Touch → Prop} {tree middle next : Tree} {place source target : Location}
  {inode : Nat} {entry : Node}

theorem Touches.same (journal : next.journal = tree.journal) : Touches good tree next :=
  ⟨[], by simp [journal], by simp⟩

theorem Touches.one {touch : Touch} (journal : next.journal = tree.journal ++ [touch])
    (fine : good touch) : Touches good tree next :=
  ⟨[touch], journal, by simpa using fine⟩

theorem Touches.trans (before : Touches good tree middle) (after : Touches good middle next) :
    Touches good tree next := by
  obtain ⟨first, firstJournal, firstGood⟩ := before
  obtain ⟨second, secondJournal, secondGood⟩ := after
  refine ⟨first ++ second, by rw [secondJournal, firstJournal, List.append_assoc], ?_⟩
  intro touch member
  rcases List.mem_append.mp member with early | late
  · exact firstGood touch early
  · exact secondGood touch late

theorem Preserves.refl (tree : Tree) : Preserves good tree tree :=
  ⟨.refl tree, rfl, le_refl _, fun _ _ => rfl, .same rfl⟩

theorem Preserves.trans (before : Preserves good tree middle) (after : Preserves good middle next) :
    Preserves good tree next where
  links := before.links.trans after.links
  cwd := after.cwd.trans before.cwd
  counter := before.counter.trans after.counter
  data := fun inode old =>
    (after.data inode (lt_of_lt_of_le old before.counter)).trans (before.data inode old)
  touches := before.touches.trans after.touches

theorem DirsAdded.preserves (added : DirsAdded tree next) : Preserves good tree next :=
  ⟨added.sameLinks, added.cwd, added.counter.ge, fun _ _ => by rw [added.data],
    .same added.journal⟩

theorem Removed.preserves (removed : Removed tree next place)
    (unlinked : ∀ target, tree.node place ≠ some (.symlink target)) (fine : good (.removed place)) :
    Preserves good tree next :=
  ⟨removed.sameLinks unlinked, removed.cwd, removed.counter.ge, fun _ _ => by rw [removed.data],
    .one removed.journal fine⟩

theorem Moved.preserves (moved : Moved tree next source target entry)
    (unlinked : ∀ link, tree.node target ≠ some (.symlink link))
    (free : ∀ place link, tree.node place = some (.symlink link) → ¬ source <+: place)
    (fine : good (.renamed source target (tree.content entry))) : Preserves good tree next :=
  ⟨moved.sameLinks unlinked free, moved.cwd, moved.counter.ge, fun _ _ => by rw [moved.data],
    .one moved.journal fine⟩

/-- A new file takes a number that no old file has. -/
theorem Created.preserves (created : Created tree next place inode) (absent : tree.node place = none)
    (fine : good (.opened place inode)) : Preserves good tree next := by
  refine ⟨created.sameLinks, created.cwd, created.counter, fun other old => ?_,
    .one created.journal fine⟩
  rcases created.origin with ⟨_, rfl⟩ | present
  · rw [created.data, Function.update_of_ne (Nat.ne_of_lt old)]
  · cases absent.symm.trans present

theorem record_preserves {touch : Touch} (fine : good touch) : Preserves good tree (tree.record touch) :=
  ⟨.refl tree, rfl, le_refl _, fun _ _ => rfl, .one rfl fine⟩

end Preserved

/-- A path with bytes leads to a file. -/
theorem Tree.fileBytes_place {tree : Tree} {path : Path} {bytes : Bytes}
    (present : tree.fileBytes path = some bytes) :
    ∃ place inode, tree.resolve true path = .ok place ∧ tree.node place = some (.file inode) ∧
      tree.data inode = bytes := by
  unfold Tree.fileBytes Tree.openRead at present
  cases resolved : tree.resolve true path with
  | error fault => simp [resolved] at present
  | ok place =>
      rcases found : tree.node place with _ | inode | _ | target
      · simp [resolved, found] at present
      · exact ⟨place, inode, rfl, found, by simpa [resolved, found] using present⟩
      · simp [resolved, found] at present
      · simp [resolved, found] at present

theorem Tree.fileBytes_open {tree : Tree} {path : Path} {bytes : Bytes}
    (present : tree.fileBytes path = some bytes) :
    ∃ inode, tree.openRead path = .ok ⟨some inode, 0, true, false, none⟩ ∧ tree.data inode = bytes := by
  obtain ⟨place, inode, resolved, found, data⟩ := fileBytes_place present
  exact ⟨inode, by simp only [Tree.openRead, resolved, found], data⟩

theorem Tree.fileBytes_exists {tree : Tree} {path : Path} {bytes : Bytes}
    (present : tree.fileBytes path = some bytes) : tree.pathExists path = true := by
  obtain ⟨place, inode, resolved, found, -⟩ := fileBytes_place present
  simp only [Tree.pathExists, resolved, found, Option.isSome_some]

theorem overwrite_end (old new : Bytes) : overwrite old old.length new = old ++ new := by
  unfold overwrite
  split
  next empty => simp [empty]
  next => simp [List.drop_eq_nil_of_le]

/-- A write in the middle keeps the front and replaces the start of the back. -/
theorem overwrite_middle (front back new : Bytes) (filled : new ≠ []) :
    overwrite (front ++ back) front.length new = front ++ new ++ back.drop new.length := by
  rw [overwrite, if_neg filled, List.take_left, List.length_append, Nat.sub_eq_zero_of_le (by omega),
    List.replicate_zero, List.append_nil, ← List.drop_drop, List.drop_left]

/-- Two writes in a row are one write of all their bytes. -/
theorem overwrite_append (old first second : Bytes) (pos : Nat) :
    overwrite (overwrite old pos first) (pos + first.length) second =
      overwrite old pos (first ++ second) := by
  by_cases firstEmpty : first = []
  · simp [firstEmpty, overwrite]
  · by_cases secondEmpty : second = []
    · simp [secondEmpty, overwrite]
    · let front := old.take pos ++ List.replicate (pos - old.length) 0 ++ first
      have length : front.length = pos + first.length := by
        simp only [front, List.length_append, List.length_take, List.length_replicate]
        omega
      have inner : overwrite old pos first = front ++ old.drop (pos + first.length) :=
        if_neg firstEmpty
      have both : first ++ second ≠ [] := by simp [firstEmpty]
      calc overwrite (overwrite old pos first) (pos + first.length) second
          = overwrite (front ++ old.drop (pos + first.length)) front.length second := by
            rw [inner, length]
        _ = front ++ second ++ (old.drop (pos + first.length)).drop second.length :=
            overwrite_middle _ _ _ secondEmpty
        _ = overwrite old pos (first ++ second) := by
            rw [overwrite, if_neg both, List.drop_drop, List.length_append, Nat.add_assoc]
            simp only [front, List.append_assoc]

/-- The named places decide whether a tree has links. -/
def Tree.linkFree (tree : Tree) : Bool :=
  tree.names.all fun place => (tree.node place).all fun entry => !entry.isSymlink

theorem Tree.linkFree_unlinked {tree : Tree} (free : tree.linkFree = true) (place : Location)
    (target : Path) : tree.node place ≠ some (.symlink target) := by
  intro linked
  have checked := List.all_eq_true.mp free place (tree.named place _ linked)
  rw [linked] at checked
  cases checked

end FileTree
