/-
This file reads a file tree as a map from places to bytes and says which places a call changes.
-/

import SubnetDesk.Foundation.FileOps

namespace FileTree

/-- These are the bytes of the file at a place. -/
def Tree.fileAt (tree : Tree) (place : Location) : Option Bytes :=
  (tree.node place).bind tree.content

theorem Tree.fileAt_file {tree : Tree} {place : Location} {inode : Nat}
    (present : tree.node place = some (.file inode)) :
    tree.fileAt place = some (tree.data inode) := by
  rw [fileAt, present]
  rfl

/-- Only a file holds bytes. -/
theorem Tree.fileAt_some {tree : Tree} {place : Location} {bytes : Bytes}
    (stored : tree.fileAt place = some bytes) :
    ∃ inode, tree.node place = some (.file inode) ∧ tree.data inode = bytes := by
  unfold fileAt at stored
  cases present : tree.node place with
  | none => simp [present] at stored
  | some entry =>
      cases entry with
      | file inode => exact ⟨inode, rfl, by simpa [present, content] using stored⟩
      | dir => simp [present, content] at stored
      | symlink target => simp [present, content] at stored

/-- The same entry with the same bytes reads the same. -/
theorem Tree.fileAt_congr {tree next : Tree} {place : Location}
    (node : next.node place = tree.node place)
    (data : ∀ inode, tree.node place = some (.file inode) → next.data inode = tree.data inode) :
    next.fileAt place = tree.fileAt place := by
  rw [fileAt, fileAt, node]
  cases present : tree.node place with
  | none => rfl
  | some entry =>
      cases entry with
      | file inode => simp [content, data inode present]
      | dir => rfl
      | symlink target => rfl

theorem Tree.fileAt_setData {tree : Tree} {place : Location} {inode : Nat}
    (present : tree.node place = some (.file inode)) (bytes : Bytes) :
    (tree.setData inode bytes).fileAt place = some bytes := by
  have kept : (tree.setData inode bytes).node place = some (.file inode) := present
  rw [Tree.fileAt_file kept]
  exact congrArg some (Function.update_self ..)

/-- A file at an owned place has no second name below the root. -/
def Tree.Unshared (tree : Tree) (root : Location) (own : Location → Prop) : Prop :=
  ∀ place other inode, own place → root <+: place → root <+: other →
    tree.node place = some (.file inode) → tree.node other = some (.file inode) → other = place

/-- The call changes only files at the listed places and keeps every directory and link. -/
structure Changes (root : Location) (own : Location → Prop) (touched : List Location)
    (tree next : Tree) : Prop where
  links : SameLinks tree next
  cwd : next.cwd = tree.cwd
  dirs : ∀ place, tree.node place = some .dir → next.node place = some .dir
  unshared : next.Unshared root own
  kept : ∀ place, root <+: place → place ∉ touched → next.fileAt place = tree.fileAt place

/-- The tree has the links and the working directory of the first tree. -/
structure Linked (origin tree : Tree) : Prop where
  links : SameLinks origin tree
  cwd : tree.cwd = origin.cwd

section Calls

variable {root place source target : Location} {own : Location → Prop}
  {touched more : List Location}
  {origin tree middle next : Tree} {inode : Nat} {entry : Node}

theorem Changes.refl (unshared : tree.Unshared root own) : Changes root own touched tree tree :=
  ⟨.refl tree, rfl, fun _ directory => directory, unshared, fun _ _ _ => rfl⟩

theorem Changes.trans (before : Changes root own touched tree middle)
    (after : Changes root own touched middle next) : Changes root own touched tree next where
  links := before.links.trans after.links
  cwd := after.cwd.trans before.cwd
  dirs := fun place directory => after.dirs place (before.dirs place directory)
  unshared := after.unshared
  kept := fun place below away =>
    (after.kept place below away).trans (before.kept place below away)

theorem Changes.mono (changes : Changes root own touched tree next) (included : touched ⊆ more) :
    Changes root own more tree next where
  links := changes.links
  cwd := changes.cwd
  dirs := changes.dirs
  unshared := changes.unshared
  kept := fun place below away => changes.kept place below fun member => away (included member)

theorem Linked.refl (tree : Tree) : Linked tree tree := ⟨.refl tree, rfl⟩

theorem Changes.linked (changes : Changes root own touched tree next) (linked : Linked origin tree) :
    Linked origin next :=
  ⟨linked.links.trans changes.links, changes.cwd.trans linked.cwd⟩

theorem Preserves.linked {good : Touch → Prop} (preserves : Preserves good tree next)
    (linked : Linked origin tree) : Linked origin next :=
  ⟨linked.links.trans preserves.links, preserves.cwd.trans linked.cwd⟩

/-- The file that a call creates at an owned place is no other file below the root. -/
theorem Created.alone (created : Created tree next place inode) (unshared : tree.Unshared root own)
    (owned : own place) (below : root <+: place) {other : Location} (inside : root <+: other)
    (different : other ≠ place) : tree.node other ≠ some (.file inode) := by
  intro present
  rcases created.origin with ⟨_, rfl⟩ | old
  · exact absurd (tree.numbered other _ present) (lt_irrefl _)
  · exact different (unshared place other inode owned below inside old present)

theorem Created.changes (created : Created tree next place inode) (unshared : tree.Unshared root own)
    (owned : own place) (below : root <+: place) : Changes root own [place] tree next where
  links := created.sameLinks
  cwd := created.cwd
  dirs := by
    intro other directory
    rw [created.node, Function.update_of_ne]
    · exact directory
    · rintro rfl
      rcases created.origin with ⟨vacant, _⟩ | old
      · cases vacant.2.1.symm.trans directory
      · cases old.symm.trans directory
  unshared := by
    intro first second number firstOwned firstBelow secondBelow firstFile secondFile
    rw [created.node] at firstFile secondFile
    by_cases firstPlace : first = place <;> by_cases secondPlace : second = place
    · rw [firstPlace, secondPlace]
    · rw [firstPlace, Function.update_self] at firstFile
      rw [Function.update_of_ne secondPlace, ← firstFile] at secondFile
      exact absurd secondFile (created.alone unshared owned below secondBelow secondPlace)
    · rw [secondPlace, Function.update_self] at secondFile
      rw [Function.update_of_ne firstPlace, ← secondFile] at firstFile
      exact absurd firstFile (created.alone unshared owned below firstBelow firstPlace)
    · rw [Function.update_of_ne firstPlace] at firstFile
      rw [Function.update_of_ne secondPlace] at secondFile
      exact unshared first second number firstOwned firstBelow secondBelow firstFile secondFile
  kept := by
    intro other inside away
    have different : other ≠ place := by simpa using away
    refine Tree.fileAt_congr (by rw [created.node, Function.update_of_ne different]) ?_
    intro number present
    rw [created.data, Function.update_of_ne]
    rintro rfl
    exact created.alone unshared owned below inside different present

theorem Created.fileAt (created : Created tree next place inode) : next.fileAt place = some [] := by
  have present : next.node place = some (.file inode) := by rw [created.node, Function.update_self]
  rw [Tree.fileAt_file present, created.data, Function.update_self]

theorem Removed.changes (removed : Removed tree next place) (unshared : tree.Unshared root own)
    (unlinked : ∀ link, tree.node place ≠ some (.symlink link)) : Changes root own [place] tree next where
  links := removed.sameLinks unlinked
  cwd := removed.cwd
  dirs := by
    intro other directory
    rw [removed.node, Function.update_of_ne]
    · exact directory
    · rintro rfl
      exact removed.old.2 directory
  unshared := by
    intro first second number owned firstBelow secondBelow firstFile secondFile
    have old : ∀ other, next.node other = some (.file number) →
        tree.node other = some (.file number) := by
      intro other present
      by_cases same : other = place
      · rw [removed.node, same, Function.update_self] at present
        cases present
      · rwa [removed.node, Function.update_of_ne same] at present
    exact unshared first second number owned firstBelow secondBelow (old first firstFile)
      (old second secondFile)
  kept := by
    intro other _ away
    have different : other ≠ place := by simpa using away
    exact Tree.fileAt_congr (by rw [removed.node, Function.update_of_ne different])
      fun _ _ => by rw [removed.data]

theorem Removed.fileAt (removed : Removed tree next place) : next.fileAt place = none := by
  rw [Tree.fileAt, removed.node, Function.update_self]
  rfl

theorem DirsAdded.changes (added : DirsAdded tree next) (unshared : tree.Unshared root own) :
    Changes root own touched tree next where
  links := added.sameLinks
  cwd := added.cwd
  dirs := by
    intro place directory
    rcases added.node place with same | ⟨absent, _⟩
    · rw [same]
      exact directory
    · cases absent.symm.trans directory
  unshared := by
    intro first second number owned firstBelow secondBelow firstFile secondFile
    have old : ∀ other, next.node other = some (.file number) →
        tree.node other = some (.file number) := by
      intro other present
      rcases added.node other with same | ⟨_, made⟩
      · rw [← same]
        exact present
      · cases made.symm.trans present
    exact unshared first second number owned firstBelow secondBelow (old first firstFile)
      (old second secondFile)
  kept := by
    intro place _ _
    rcases added.node place with same | ⟨absent, made⟩
    · exact Tree.fileAt_congr same fun _ _ => by rw [added.data]
    · rw [Tree.fileAt, Tree.fileAt, absent, made]
      rfl

theorem setData_changes (present : tree.node place = some (.file inode)) (owned : own place)
    (below : root <+: place) (unshared : tree.Unshared root own) (bytes : Bytes) :
    Changes root own [place] tree (tree.setData inode bytes) where
  links := .refl tree
  cwd := rfl
  dirs := fun _ directory => directory
  unshared := unshared
  kept := by
    intro other inside away
    refine Tree.fileAt_congr rfl fun number old => Function.update_of_ne ?_ ..
    rintro rfl
    exact away (by simpa using unshared place other number owned below inside present old)

/-- A moved file leaves its old place and changes nothing else. -/
theorem Moved.node_file (moved : Moved tree next source target (.file inode)) (place : Location) :
    next.node place = if place = target then some (.file inode)
      else if place = source then none else tree.node place := by
  have nothing := tree.nothing_below (by rw [moved.present]; simp)
  rw [moved.node, Tree.moved]
  split
  next inside =>
    obtain ⟨rest, rfl⟩ := inside
    rw [List.drop_left]
    split
    next top =>
      obtain rfl : rest = [] := by simpa using top
      rw [List.append_nil]
      exact moved.present
    next deeper =>
      have longer : rest ≠ [] := by
        rintro rfl
        exact deeper (List.append_nil _)
      rw [nothing _ (List.prefix_append _ _) (by simpa using longer),
        moved.replaced _ (List.prefix_append _ _) deeper]
      split <;> rfl
  next away =>
    have different : place ≠ target := by
      rintro rfl
      exact away (List.prefix_refl _)
    rw [if_neg different]
    split
    next inside =>
      split
      next => rfl
      next other => rw [nothing place inside other]
    next outside =>
      rw [if_neg]
      rintro rfl
      exact outside (List.prefix_refl _)

theorem Moved.changes (moved : Moved tree next source target (.file inode))
    (unshared : tree.Unshared root own) (owned : own source) (below : root <+: source)
    (unlinked : ∀ link, tree.node target ≠ some (.symlink link)) :
    Changes root own [source, target] tree next where
  links := by
    intro place link
    rw [moved.node_file]
    split
    next same => simp [same, unlinked link]
    next =>
      split
      next same => simp [same, moved.present]
      next => exact Iff.rfl
  cwd := moved.cwd
  dirs := by
    intro place directory
    rw [moved.node_file, if_neg, if_neg]
    · exact directory
    · rintro rfl
      cases moved.present.symm.trans directory
    · rintro rfl
      exact moved.onto (by simp) directory
  unshared := by
    intro first second number firstOwned firstBelow secondBelow firstFile secondFile
    have old : ∀ other, next.node other = some (.file number) →
        (other = target ∧ number = inode) ∨ (other ≠ source ∧ tree.node other = some (.file number)) := by
      intro other present
      rw [moved.node_file] at present
      split at present
      next same => exact .inl ⟨same, by simpa [eq_comm] using present⟩
      next =>
        split at present
        next => cases present
        next away => exact .inr ⟨away, present⟩
    have alone : ∀ other, root <+: other → other ≠ source → tree.node other ≠ some (.file inode) :=
      fun other inside away present =>
        away (unshared source other inode owned below inside moved.present present)
    rcases old first firstFile with ⟨rfl, rfl⟩ | ⟨firstAway, firstOld⟩ <;>
      rcases old second secondFile with ⟨rfl, same⟩ | ⟨secondAway, secondOld⟩
    · rfl
    · exact absurd secondOld (alone second secondBelow secondAway)
    · rw [same] at firstOld
      exact absurd firstOld (alone first firstBelow firstAway)
    · exact unshared first second number firstOwned firstBelow secondBelow firstOld secondOld
  kept := by
    intro place _ away
    obtain ⟨notSource, notTarget⟩ : place ≠ source ∧ place ≠ target := by simpa using away
    refine Tree.fileAt_congr ?_ fun _ _ => by rw [moved.data]
    rw [moved.node_file, if_neg notTarget, if_neg notSource]

theorem Moved.fileAt (moved : Moved tree next source target (.file inode)) :
    next.fileAt target = tree.fileAt source ∧ (source ≠ target → next.fileAt source = none) := by
  refine ⟨?_, fun different => ?_⟩
  · have present : next.node target = some (.file inode) := by rw [moved.node_file, if_pos rfl]
    rw [Tree.fileAt_file present, Tree.fileAt_file moved.present, moved.data]
  · rw [Tree.fileAt, moved.node_file, if_neg different, if_pos rfl]
    rfl

/-- A directory that moves over no owned place gives no owned file a second name. -/
theorem Moved.unshared_dir (moved : Moved tree next source target .dir)
    (unshared : tree.Unshared root own) (below : root <+: source)
    (clear : ∀ place, own place → target <+: place → place = target) :
    next.Unshared root own := by
  intro place other number owned placeBelow otherBelow placeFile otherFile
  have outside : ¬ target <+: place := by
    intro inside
    have top := clear place owned inside
    rw [moved.node, Tree.moved, if_pos inside, top, List.drop_length, List.append_nil,
      moved.present] at placeFile
    cases placeFile
  rw [moved.node, Tree.moved, if_neg outside] at placeFile
  split at placeFile
  next => cases placeFile
  next away =>
    rw [moved.node, Tree.moved] at otherFile
    split at otherFile
    next inside =>
      obtain ⟨rest, rfl⟩ := inside
      rw [List.drop_left] at otherFile
      have same := unshared place (source ++ rest) number owned placeBelow
        (below.trans (List.prefix_append _ _)) placeFile otherFile
      exact absurd (same ▸ List.prefix_append _ _) away
    next =>
      split at otherFile
      next => cases otherFile
      next => exact unshared place other number owned placeBelow otherBelow placeFile otherFile

end Calls

/-- The named places decide whether a file has two names. -/
def Tree.singleNames (tree : Tree) : Bool :=
  tree.names.all fun first => tree.names.all fun second =>
    first = second ∨ (tree.node first).bind tree.content = none ∨ tree.node first ≠ tree.node second

theorem Tree.singleNames_unshared {tree : Tree} (single : tree.singleNames = true) (root : Location)
    (own : Location → Prop) : tree.Unshared root own := by
  intro place other inode _ _ _ first second
  have checked := List.all_eq_true.mp (List.all_eq_true.mp single other (tree.named other _ second))
    place (tree.named place _ first)
  simpa [first, second, content] using checked

end FileTree
