/-
This file defines a Unix file tree with inodes, directories, and symbolic links.
-/

import Mathlib.Data.List.Basic
import Mathlib.Tactic

namespace FileTree

/-- A segment is the text between two slashes of a path. -/
abbrev Segment := List Char

abbrev Path := List Char

/-- A location lists the segments from the root to one entry. -/
abbrev Location := List Segment

abbrev Bytes := List UInt8

inductive Node where
  | file (inode : Nat)
  | dir
  | symlink (target : Path)
deriving DecidableEq

def Node.isSymlink : Node → Bool
  | .symlink _ => true
  | _ => false

def Node.isDir : Node → Bool
  | .dir => true
  | _ => false

inductive Fault where
  | notFound
  | notADirectory
  | isADirectory
  | directoryNotEmpty
  | invalidArgument
  | filesystemLoop
  | badDescriptor
  | other (text : String)
deriving DecidableEq

/-- This text is the Linux message of the fault. -/
def Fault.text : Fault → String
  | .notFound => "No such file or directory (os error 2)"
  | .notADirectory => "Not a directory (os error 20)"
  | .isADirectory => "Is a directory (os error 21)"
  | .directoryNotEmpty => "Directory not empty (os error 39)"
  | .invalidArgument => "Invalid argument (os error 22)"
  | .filesystemLoop => "Too many levels of symbolic links (os error 40)"
  | .badDescriptor => "Bad file descriptor (os error 9)"
  | .other text => text

/-- The journal names every file that a call opens for writing, removes, or renames. -/
inductive Touch where
  | opened (place : Location) (inode : Nat)
  | removed (place : Location)
  | renamed (source target : Location) (content : Option Bytes)
deriving DecidableEq

def Touch.places : Touch → List Location
  | .opened place _ => [place]
  | .removed place => [place]
  | .renamed source target _ => [source, target]

/-- Every entry stands in a directory, and every inode is below the next free inode. -/
structure Tree where
  cwd : Location
  node : Location → Option Node
  names : List Location
  data : Nat → Bytes
  next : Nat
  journal : List Touch
  root : node [] = some .dir
  rooted : ∀ place entry, node place = some entry → place ≠ [] → node place.dropLast = some .dir
  named : ∀ place entry, node place = some entry → place ∈ names
  numbered : ∀ place inode, node place = some (.file inode) → inode < next

/-- This tree holds only its root directory. -/
def Tree.empty : Tree where
  cwd := []
  node := fun place => if place = [] then some .dir else none
  names := [[]]
  data := fun _ => []
  next := 0
  journal := []
  root := rfl
  rooted := by
    intro place entry present nonempty
    simp [nonempty] at present
  named := by
    intro place entry present
    by_cases top : place = []
    · simp [top]
    · simp [top] at present
  numbered := by
    intro place inode present
    by_cases top : place = [] <;> simp [top] at present

/-- A new entry needs a free place in a directory. -/
def Tree.Vacant (tree : Tree) (place : Location) : Prop :=
  place ≠ [] ∧ tree.node place = none ∧ tree.node place.dropLast = some .dir

instance (tree : Tree) (place : Location) : Decidable (tree.Vacant place) :=
  inferInstanceAs (Decidable (_ ∧ _ ∧ _))

/-- An entry that takes a vacant place keeps every other entry in its directory. -/
theorem rooted_update (tree : Tree) (place : Location) (added : Node) (vacant : tree.Vacant place) :
    ∀ other entry, Function.update tree.node place (some added) other = some entry → other ≠ [] →
      Function.update tree.node place (some added) other.dropLast = some .dir := by
  obtain ⟨nonempty, free, parent⟩ := vacant
  intro other entry present below
  have kept : tree.node other.dropLast = some .dir := by
    by_cases same : other = place
    · rw [same]
      exact parent
    · rw [Function.update_of_ne same] at present
      exact tree.rooted other entry present below
  have different : other.dropLast ≠ place := by
    intro same
    rw [same, free] at kept
    cases kept
  rw [Function.update_of_ne different]
  exact kept

theorem named_update (tree : Tree) (place : Location) (added : Node) :
    ∀ other entry, Function.update tree.node place (some added) other = some entry →
      other ∈ place :: tree.names := by
  intro other entry present
  by_cases same : other = place
  · simp [same]
  · rw [Function.update_of_ne same] at present
    exact List.mem_cons_of_mem _ (tree.named other entry present)

/-- The entry is added only when its place is vacant. -/
def Tree.addNode (tree : Tree) (place : Location) (added : Node)
    (unnumbered : ∀ inode, added ≠ .file inode) : Tree :=
  if vacant : tree.Vacant place then
    { tree with
      node := Function.update tree.node place (some added)
      names := place :: tree.names
      root := by
        rw [Function.update_of_ne vacant.1.symm]
        exact tree.root
      rooted := rooted_update tree place added vacant
      named := named_update tree place added
      numbered := by
        intro other inode present
        by_cases same : other = place
        · rw [same, Function.update_self] at present
          exact absurd (Option.some.inj present) (unnumbered inode)
        · rw [Function.update_of_ne same] at present
          exact tree.numbered other inode present }
  else tree

/-- A new file takes the next inode and holds no bytes. -/
def Tree.addFile (tree : Tree) (place : Location) : Tree :=
  if vacant : tree.Vacant place then
    { tree with
      node := Function.update tree.node place (some (.file tree.next))
      names := place :: tree.names
      data := Function.update tree.data tree.next []
      next := tree.next + 1
      root := by
        rw [Function.update_of_ne vacant.1.symm]
        exact tree.root
      rooted := rooted_update tree place _ vacant
      named := named_update tree place _
      numbered := by
        intro other inode present
        by_cases same : other = place
        · rw [same, Function.update_self] at present
          have : tree.next = inode := by simpa using present
          omega
        · rw [Function.update_of_ne same] at present
          have := tree.numbered other inode present
          omega }
  else tree

def Tree.addDir (tree : Tree) (place : Location) : Tree := tree.addNode place .dir (by simp)

def Tree.addLink (tree : Tree) (place : Location) (target : Path) : Tree :=
  tree.addNode place (.symlink target) (by simp)

def Tree.setData (tree : Tree) (inode : Nat) (bytes : Bytes) : Tree :=
  { tree with data := Function.update tree.data inode bytes }

/-- The directories come first and from the top down, and the files get the inodes zero, one, and
so on. -/
def Tree.ofFiles (dirs : List Location) (links : List (Location × Path))
    (files : List (Location × Bytes)) : Tree :=
  let withDirs := dirs.foldl Tree.addDir Tree.empty
  let withLinks := links.foldl (fun tree link => tree.addLink link.1 link.2) withDirs
  files.foldl (fun tree file => (tree.addFile file.1).setData tree.next file.2) withLinks

def dot : Segment := ['.']

def dotdot : Segment := ['.', '.']

/-- A trailing slash asks for a directory, so it leaves a final dot segment. -/
def segments (path : Path) : List Segment :=
  (path.splitOn '/').filter (· ≠ []) ++ if path.getLast? = some '/' then [dot] else []

/-- A path starts at the root or at the given directory. -/
def startOf (current : Location) (path : Path) : Location :=
  if path.head? = some '/' then [] else current

/-- The walk resolves one segment at a time and hands every link to `onLink`. -/
def Tree.walkWith (tree : Tree) (follow : Bool)
    (onLink : Location → List Segment → Except Fault Location) :
    Location → List Segment → Except Fault Location
  | current, [] => .ok current
  | current, segment :: rest =>
      if segment = dot then tree.walkWith follow onLink current rest
      else if segment = dotdot then tree.walkWith follow onLink current.dropLast rest
      else
        match tree.node (current ++ [segment]) with
        | some .dir => tree.walkWith follow onLink (current ++ [segment]) rest
        | some (.symlink target) =>
            if rest = [] ∧ follow = false then .ok (current ++ [segment])
            else onLink (startOf current target) (segments target ++ rest)
        | some (.file _) =>
            if rest = [] then .ok (current ++ [segment]) else .error .notADirectory
        | none =>
            if rest = [] ∧ tree.node current = some .dir then .ok (current ++ [segment])
            else .error .notFound

/-- The budget bounds the number of links that one walk may follow. -/
def Tree.walk (tree : Tree) (follow : Bool) :
    Nat → Location → List Segment → Except Fault Location
  | 0 => tree.walkWith follow fun _ _ => .error .filesystemLoop
  | budget + 1 => tree.walkWith follow (tree.walk follow budget)

def maxLinks : Nat := 40

/-- The resolved location need not exist, but its parent directory does. -/
def Tree.resolve (tree : Tree) (follow : Bool) (path : Path) : Except Fault Location :=
  if path = [] then .error .notFound
  else tree.walk follow maxLinks (startOf tree.cwd path) (segments path)

/-- This is the `symlink_metadata` operation. -/
def Tree.symlinkMetadata (tree : Tree) (path : Path) : Except Fault Node :=
  match tree.resolve false path with
  | .error fault => .error fault
  | .ok place =>
      match tree.node place with
      | some node => .ok node
      | none => .error .notFound

/-- This is the `exists` operation, which follows links and hides faults. -/
def Tree.pathExists (tree : Tree) (path : Path) : Bool :=
  match tree.resolve true path with
  | .error _ => false
  | .ok place => (tree.node place).isSome

/-- A handle refers to an inode, so it survives a rename of its file. Its writes go on in the
background, and the fault of the last one waits in the handle. -/
structure Handle where
  inode : Option Nat
  pos : Nat
  readable : Bool
  writable : Bool
  lastWriteErr : Option Fault
deriving DecidableEq

/-- This is the `File::open` operation. A directory opens but cannot be read. -/
def Tree.openRead (tree : Tree) (path : Path) : Except Fault Handle :=
  match tree.resolve true path with
  | .error fault => .error fault
  | .ok place =>
      match tree.node place with
      | some (.file inode) => .ok ⟨some inode, 0, true, false, none⟩
      | some .dir => .ok ⟨none, 0, true, false, none⟩
      | some (.symlink _) => .error .filesystemLoop
      | none => .error .notFound

/-- These are the bytes that a reader of the path gets. -/
def Tree.fileBytes (tree : Tree) (path : Path) : Option Bytes :=
  match tree.openRead path with
  | .ok file => file.inode.map tree.data
  | .error _ => none

def Tree.record (tree : Tree) (touch : Touch) : Tree :=
  { tree with journal := tree.journal ++ [touch] }

/-- A directory is never erased, so no entry loses its parent. -/
def Tree.erase (tree : Tree) (place : Location) : Tree :=
  if directory : tree.node place = some .dir then tree
  else
    { tree with
      node := Function.update tree.node place none
      root := by
        rw [Function.update_of_ne]
        · exact tree.root
        · rintro rfl
          exact directory tree.root
      rooted := by
        intro other entry present below
        have away : other ≠ place := by
          rintro rfl
          simp at present
        rw [Function.update_of_ne away] at present
        have parent := tree.rooted other entry present below
        rw [Function.update_of_ne]
        · exact parent
        · intro same
          exact directory (same ▸ parent)
      named := by
        intro other entry present
        by_cases same : other = place
        · simp [same] at present
        · rw [Function.update_of_ne same] at present
          exact tree.named other entry present
      numbered := by
        intro other inode present
        by_cases same : other = place
        · simp [same] at present
        · rw [Function.update_of_ne same] at present
          exact tree.numbered other inode present }

/-- The target needs a directory that is not part of the source. -/
def Tree.Movable (tree : Tree) (source target : Location) : Prop :=
  source ≠ [] ∧ target ≠ [] ∧ tree.node target.dropLast = some .dir ∧ ¬ source <+: target

instance (tree : Tree) (source target : Location) : Decidable (tree.Movable source target) :=
  inferInstanceAs (Decidable (_ ∧ _ ∧ _ ∧ _))

/-- The moved entry takes the target place, and its descendants move with it. -/
def Tree.moved (tree : Tree) (source target place : Location) : Option Node :=
  if target <+: place then tree.node (source ++ place.drop target.length)
  else if source <+: place then none
  else tree.node place

theorem below_of_dropLast {first second : Location} (below : first <+: second.dropLast) :
    first <+: second :=
  below.trans <| List.dropLast_prefix second

theorem Tree.moved_rooted (tree : Tree) {source target : Location}
    (movable : tree.Movable source target) :
    ∀ place entry, tree.moved source target place = some entry → place ≠ [] →
      tree.moved source target place.dropLast = some .dir := by
  obtain ⟨_, nonempty, parent, outside⟩ := movable
  intro place entry present below
  unfold Tree.moved at present ⊢
  split at present
  next inside =>
    obtain ⟨rest, rfl⟩ := inside
    rw [List.drop_left] at present
    rcases List.eq_nil_or_concat rest with rfl | ⟨front, last, rfl⟩
    · have shorter : ¬ target <+: target.dropLast := by
        intro longer
        have := longer.length_le
        have := List.length_pos_of_ne_nil nonempty
        rw [List.length_dropLast] at *
        omega
      rw [List.append_nil, if_neg shorter, if_neg fun within => outside (below_of_dropLast within)]
      exact parent
    · rw [List.concat_eq_append, ← List.append_assoc] at present ⊢
      rw [List.dropLast_concat, if_pos (List.prefix_append _ _), List.drop_left]
      have kept := tree.rooted _ entry present (by simp)
      rwa [List.dropLast_concat] at kept
  next away =>
    split at present
    next => cases present
    next apart =>
      rw [if_neg fun within => away (below_of_dropLast within),
        if_neg fun within => apart (below_of_dropLast within)]
      exact tree.rooted place entry present below

/-- The tree changes only when the target can take the source. -/
def Tree.move (tree : Tree) (source target : Location) : Tree :=
  if movable : tree.Movable source target then
    { tree with
      node := tree.moved source target
      names := tree.names ++ tree.names.map fun place => target ++ place.drop source.length
      root := by
        rw [Tree.moved, if_neg (by simpa using movable.2.1), if_neg (by simpa using movable.1)]
        exact tree.root
      rooted := tree.moved_rooted movable
      named := by
        intro place entry present
        unfold Tree.moved at present
        split at present
        next inside =>
          obtain ⟨rest, rfl⟩ := inside
          rw [List.drop_left] at present
          refine List.mem_append.mpr (.inr (List.mem_map.mpr ⟨_, tree.named _ entry present, ?_⟩))
          rw [List.drop_left]
        next =>
          split at present
          next => cases present
          next => exact List.mem_append.mpr (.inl (tree.named place entry present))
      numbered := by
        intro place inode present
        unfold Tree.moved at present
        split at present
        next => exact tree.numbered _ inode present
        next =>
          split at present
          next => cases present
          next => exact tree.numbered place inode present }
  else tree

/-- This is the `File::create` operation, which truncates an existing file. -/
def Tree.create (tree : Tree) (path : Path) : Except Fault (Tree × Handle) :=
  match tree.resolve true path with
  | .error fault => .error fault
  | .ok place =>
      match tree.node place with
      | some (.file inode) =>
          .ok ((tree.setData inode []).record (.opened place inode), ⟨some inode, 0, false, true, none⟩)
      | some .dir => .error .isADirectory
      | some (.symlink _) => .error .filesystemLoop
      | none =>
          if tree.Vacant place then
            .ok ((tree.addFile place).record (.opened place tree.next),
              ⟨some tree.next, 0, false, true, none⟩)
          else .error .notFound

/-- This is the `OpenOptions` call that creates a missing file and keeps an old one. -/
def Tree.openWrite (tree : Tree) (path : Path) : Except Fault (Tree × Handle) :=
  match tree.resolve true path with
  | .error fault => .error fault
  | .ok place =>
      match tree.node place with
      | some (.file inode) => .ok (tree.record (.opened place inode), ⟨some inode, 0, false, true, none⟩)
      | some .dir => .error .isADirectory
      | some (.symlink _) => .error .filesystemLoop
      | none =>
          if tree.Vacant place then
            .ok ((tree.addFile place).record (.opened place tree.next),
              ⟨some tree.next, 0, false, true, none⟩)
          else .error .notFound

/-- This is the `remove_file` operation, which removes a link itself. -/
def Tree.removeFile (tree : Tree) (path : Path) : Except Fault Tree :=
  match tree.resolve false path with
  | .error fault => .error fault
  | .ok place =>
      match tree.node place with
      | some .dir => .error .isADirectory
      | some _ => .ok ((tree.erase place).record (.removed place))
      | none => .error .notFound

def Tree.hasChild (tree : Tree) (place : Location) : Bool :=
  tree.names.any fun name => place <+: name ∧ name ≠ place ∧ tree.node name ≠ none

def Tree.content (tree : Tree) : Node → Option Bytes
  | .file inode => some (tree.data inode)
  | _ => none

/-- Two names of one inode are the same file. -/
def Node.sameFile : Node → Node → Bool
  | .file first, .file second => first = second
  | _, _ => false

/-- The journal keeps the content of a moved file. -/
def Tree.moveRecorded (tree : Tree) (source target : Location) (node : Node) : Except Fault Tree :=
  if tree.Movable source target then
    .ok ((tree.move source target).record (.renamed source target (tree.content node)))
  else .error .invalidArgument

/-- A file replaces a file, and a directory replaces an empty directory. -/
def Tree.renameAt (tree : Tree) (source target : Location) (node : Node) : Except Fault Tree :=
  match node.isDir, tree.node target with
  | true, some .dir =>
      if source = target then .ok tree
      else if tree.hasChild target then .error .directoryNotEmpty
      else tree.moveRecorded source target node
  | true, some _ => .error .notADirectory
  | true, none => tree.moveRecorded source target node
  | false, some .dir => .error .isADirectory
  | false, some other =>
      if source = target ∨ node.sameFile other = true then .ok tree
      else tree.moveRecorded source target node
  | false, none => tree.moveRecorded source target node

/-- This is the `rename` operation, which never follows the last link. -/
def Tree.rename (tree : Tree) (source target : Path) : Except Fault Tree :=
  match tree.resolve false source, tree.resolve false target with
  | .error fault, _ => .error fault
  | _, .error fault => .error fault
  | .ok from_, .ok to_ =>
      match tree.node from_ with
      | none => .error .notFound
      | some node => tree.renameAt from_ to_ node

/-- Missing directories are made from the top down. The caller ignores the fault. -/
def Tree.createDirsFrom (tree : Tree) (current : Location) : List Segment → Tree
  | [] => tree
  | segment :: rest =>
      if segment = dot then tree.createDirsFrom current rest
      else if segment = dotdot then tree.createDirsFrom current.dropLast rest
      else
        match tree.node (current ++ [segment]) with
        | some .dir => tree.createDirsFrom (current ++ [segment]) rest
        | none => (tree.addDir (current ++ [segment])).createDirsFrom (current ++ [segment]) rest
        | some (.file _) => tree
        | some (.symlink target) =>
            match tree.walk true maxLinks (startOf current target) (segments target) with
            | .error _ => tree
            | .ok place =>
                if tree.node place = some .dir then tree.createDirsFrom place rest else tree

/-- The parent of a path drops its last component and ignores dot components. -/
def parentSegments (path : Path) : List Segment :=
  ((segments path).filter (· ≠ dot)).dropLast

/-- This is the `create_dir_all` operation on the parent of a path. -/
def Tree.createParents (tree : Tree) (path : Path) : Tree :=
  tree.createDirsFrom (startOf tree.cwd path) (parentSegments path)

/-- A write past the end fills the gap with zero bytes, and an empty write does nothing. -/
def overwrite (old : Bytes) (pos : Nat) (new : Bytes) : Bytes :=
  if new = [] then old
  else old.take pos ++ List.replicate (pos - old.length) 0 ++ new ++ old.drop (pos + new.length)

end FileTree
