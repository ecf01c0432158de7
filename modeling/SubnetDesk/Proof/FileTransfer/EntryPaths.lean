import SubnetDesk.Construction.FileTransfer.Write
import SubnetDesk.Foundation.FileOps

namespace SubnetDesk.FileTransfer
open FileTree

/-- This is the place of a listed name below the base directory. -/
def entryPlace (root : Location) (name : Path) : Location := root ++ clean (parts name)

/-- This is the place of a side file of a listed name. -/
def sidePlace (root : Location) (name suffix : Path) : Location :=
  root ++ clean (parts (stem name)) ++ [leaf name ++ suffix]

/-- A file lies below the base. -/
theorem entryPlace_below (root : Location) (name : Path) : root <+: entryPlace root name :=
  List.prefix_append _ _

/-- A side file lies below the base. -/
theorem sidePlace_below (root : Location) (name suffix : Path) : root <+: sidePlace root name suffix := by
  rw [sidePlace, List.append_assoc]
  exact List.prefix_append _ _

/-- A write changes at most the position and the waiting fault of a handle, and it stores only where
the handle is writable. -/
theorem writeAll_handle (tree : Tree) (io : Io) (bytes : Bytes) (file : Handle) :
    ∃ pos waiting written answer, DataStream.writeAll tree io bytes (.fileStream file) =
        (.fileStream { file with
          pos := pos
          lastWriteErr := waiting }, written, answer) ∧
      (written = tree ∨ ∃ inode stored, file.writable = true ∧ file.inode = some inode ∧
        written = tree.setData inode stored) := by
  unfold DataStream.writeAll
  dsimp only
  split
  next => exact ⟨file.pos, file.lastWriteErr, tree, none, rfl, .inl rfl⟩
  next =>
    split
    next fault _ => exact ⟨file.pos, none, tree, some fault, rfl, .inl rfl⟩
    next =>
      split
      next inode writable known => exact ⟨_, _, _, _, rfl, .inr ⟨inode, _, writable, known, rfl⟩⟩
      next => exact ⟨file.pos, _, tree, _, rfl, .inl rfl⟩

/-- A peer may choose such a name for a file below the base directory. -/
structure Relative (name : Path) : Prop where
  nonempty : name ≠ []
  relative : name.head? ≠ some '/'
  below : dotdot ∉ parts name

/-- A pushed name follows the segments of its base. -/
theorem push_shape (base name : Path) (nonempty : base ≠ []) (relative : name.head? ≠ some '/') :
    ∃ front, push base name = front ++ '/' :: name ∧ parts front = parts base ∧
      ∀ cwd rest, startOf cwd (push base name ++ rest) = startOf cwd base := by
  have head : ∀ rest : Path, (base ++ rest).head? = base.head? := by
    intro rest
    cases base with
    | nil => exact absurd rfl nonempty
    | cons first tail => rfl
  unfold push
  rw [if_neg relative]
  split
  next slash =>
    have ended : base.getLast? = some '/' := slash.resolve_left nonempty
    obtain ⟨front, rfl⟩ : ∃ front, base = front ++ ['/'] := by
      obtain ⟨front, last⟩ := List.getLast?_eq_some_iff.mp ended
      exact ⟨front, last⟩
    refine ⟨front, by simp, ?_, ?_⟩
    · rw [parts_slash, parts_nil, List.append_nil]
    · intro cwd rest
      rw [startOf, startOf, List.append_assoc, head]
  next =>
    refine ⟨base, rfl, rfl, ?_⟩
    intro cwd rest
    rw [startOf, startOf, List.append_assoc, head]

/-- The base path leads to this directory. -/
structure BaseAt (tree : Tree) (base : Path) (root : Location) : Prop where
  nonempty : base ≠ []
  reaches : ∃ left, tree.Reaches maxLinks (startOf tree.cwd base) (parts base) left root
  directory : tree.node root = some .dir

/-- The base path leads to no other directory. -/
def Leads (tree : Tree) (base : Path) (root : Location) : Prop :=
  base ≠ [] ∧ ∀ left place,
    tree.Reaches maxLinks (startOf tree.cwd base) (parts base) left place → place = root

theorem BaseAt.leads {first second : Tree} {base : Path} {root : Location}
    (at_ : BaseAt first base root) (same : SameLinks first second) (cwd : second.cwd = first.cwd) :
    Leads second base root := by
  obtain ⟨nonempty, ⟨left, reaches⟩, _⟩ := at_
  refine ⟨nonempty, fun other place again => ?_⟩
  rw [cwd] at again
  exact (reaches.unique same again).1.symm

/-- A path below the base passes the base directory. -/
theorem resolve_below {tree : Tree} {base name rest : Path} {root place : Location} {follow : Bool}
    (leads : Leads tree base root) (relative : name.head? ≠ some '/') (more : name ++ rest ≠ [])
    (resolved : tree.resolve follow (push base name ++ rest) = .ok place) :
    ∃ left, tree.Reaches maxLinks (startOf tree.cwd base) (parts base) left root ∧
      tree.walk follow left root (segments (name ++ rest)) = .ok place := by
  obtain ⟨front, shape, sameParts, start⟩ := push_shape base name leads.1 relative
  have route : segments (push base name ++ rest) = parts base ++ segments (name ++ rest) := by
    rw [shape, List.append_assoc, List.cons_append, segments_slash front _ more, sameParts]
  have filled : push base name ++ rest ≠ [] := by simp [shape]
  rw [Tree.resolve, if_neg filled, start tree.cwd rest, route] at resolved
  obtain ⟨left, middle, reaches, tail⟩ :=
    tree.exists_reaches follow _ _ _ _ _ (segments_ne_nil more) resolved
  obtain rfl := leads.2 left middle reaches
  exact ⟨left, reaches, tail⟩

/-- A listed name without links resolves to its place. -/
theorem resolve_entry {tree : Tree} {base name : Path} {root place : Location} {follow : Bool}
    (leads : Leads tree base root) (listed : Relative name)
    (unlinked : tree.Unlinked root (clean (parts name)))
    (resolved : tree.resolve follow (push base name) = .ok place) :
    place = entryPlace root name := by
  rw [← List.append_nil (push base name)] at resolved
  obtain ⟨left, _, walked⟩ := resolve_below leads listed.relative (by simpa using listed.nonempty)
    resolved
  rw [List.append_nil] at walked
  have below : dotdot ∉ segments name := by
    rw [segments_eq, List.mem_append, not_or]
    refine ⟨listed.below, ?_⟩
    split <;> simp [dotdot, dot]
  rw [← clean_segments] at unlinked
  rw [Tree.walk_straight below unlinked walked, entryPlace, clean_segments]

/-- Both suffixes give a segment of their own. -/
structure SideSuffix (suffix : Path) : Prop where
  plain : '/' ∉ suffix
  long : 3 ≤ suffix.length

theorem downloadSuffix_side : SideSuffix downloadSuffix := ⟨by decide, by decide⟩

theorem digestSuffix_side : SideSuffix digestSuffix := ⟨by decide, by decide⟩

theorem SideSuffix.segment {suffix : Path} (side : SideSuffix suffix) (segment : Segment) :
    segment ++ suffix ≠ dot ∧ segment ++ suffix ≠ dotdot := by
  have long := side.long
  constructor
  all_goals
    intro same
    have size := congrArg List.length same
    simp only [List.length_append, dot, dotdot, List.length_cons, List.length_nil] at size
    omega

/-- A side file of a listed name resolves to its place, unless a link is followed there. -/
theorem resolve_side {tree : Tree} {base name suffix : Path} {root place : Location} {follow : Bool}
    (leads : Leads tree base root) (listed : Relative name) (side : SideSuffix suffix)
    (unlinked : tree.Unlinked root (clean (parts name)))
    (last : follow = true → ∀ target,
      tree.node (sidePlace root name suffix) ≠ some (.symlink target))
    (resolved : tree.resolve follow (push base name ++ suffix) = .ok place) :
    place = sidePlace root name suffix := by
  have filled : suffix ≠ [] := by
    rintro rfl
    exact absurd side.long (by simp)
  obtain ⟨left, _, walked⟩ := resolve_below leads listed.relative (by simp [filled]) resolved
  rw [segments_suffix name suffix side.plain (by simp [filled])] at walked
  obtain ⟨rest, middle, reaches, tail⟩ := tree.exists_reaches follow _ _ _ _ _ (by simp) walked
  rw [parts_split, clean_append] at unlinked
  have above : dotdot ∉ parts (stem name) := by
    intro member
    have := listed.below
    rw [parts_split] at this
    exact this (by simp [member])
  obtain ⟨rfl, _, _⟩ := reaches.straight above unlinked
  obtain ⟨named, below⟩ := side.segment (leaf name)
  exact Tree.walk_last named below last tail

/-- The check of a route finds every link on it. -/
theorem validateComponents_unlinked {tree : Tree} {io : Io} {current : Path} {left : Nat}
    {place : Location} {route : List Segment} (nonempty : current ≠ [])
    (named : ∀ segment ∈ route, '/' ∉ segment ∧ segment ≠ [] ∧ segment ≠ dot ∧ segment ≠ dotdot)
    (reaches : tree.Reaches maxLinks (startOf tree.cwd current) (parts current) left place)
    (checked : validateComponents tree io current (route.map .normal) = .ok ()) :
    tree.Unlinked place route := by
  induction route generalizing current place with
  | nil => trivial
  | cons segment rest ih =>
      obtain ⟨plain, filled, notDot, notDotdot⟩ := named segment (by simp)
      have relative : segment.head? ≠ some '/' := fun slash => plain (List.mem_of_head? slash)
      obtain ⟨front, shape, sameParts, start⟩ := push_shape current segment nonempty relative
      have route : segments (push current segment) = parts current ++ [segment] := by
        rw [shape, segments_slash front segment filled, sameParts, segments_leaf plain filled]
      have metadata : ∀ target, tree.node (place ++ [segment]) = some (.symlink target) →
          tree.symlinkMetadata (push current segment) = .ok (.symlink target) := by
        intro target linked
        have pushed : push current segment ≠ [] := by simp [shape]
        have walked := reaches.walk false [segment] (.inl (by simp))
        rw [Tree.walk_cons, if_neg notDot, if_neg notDotdot, linked] at walked
        have started := start tree.cwd []
        rw [List.append_nil] at started
        simp [Tree.symlinkMetadata, Tree.resolve, pushed, started, route, walked, linked]
      rw [List.map_cons, validateComponents] at checked
      refine ⟨fun target linked => ?_, fun directory => ?_⟩
      · rw [metadata target linked] at checked
        cases fault : io.lstat (push current segment) with
        | none => simp [fault, orFault, Node.isSymlink] at checked
        | some text => simp [fault, orFault] at checked
      · have onward : validateComponents tree io (push current segment) (rest.map .normal) = .ok () := by
          split at checked
          next => split at checked <;> first | cases checked | exact checked
          next => exact checked
          next => cases checked
        have started := start tree.cwd []
        rw [List.append_nil] at started
        refine ih (by simp [shape]) (fun other member => named other (by simp [member])) ?_ onward
        rw [started, shape, parts_slash, sameParts, parts_leaf plain filled]
        exact reaches.append (.down _ _ _ _ _ _ notDot notDotdot directory (.here _ _))

/-- A valid name is relative. -/
theorem validateFileNameNoTraversal_ok {name : Path} (nonempty : name ≠ [])
    (valid : validateFileNameNoTraversal name = .ok ()) : Relative name := by
  unfold validateFileNameNoTraversal at valid
  split at valid
  next => cases valid
  next =>
    split at valid
    next => cases valid
    next plain =>
      split at valid
      next => cases valid
      next relative =>
        refine ⟨nonempty, relative, fun member => plain ?_⟩
        exact List.any_eq_true.mpr ⟨dotdot, member, by simp⟩

/-- The components of a listed name are its segments. -/
theorem components_relative {name : Path} (listed : Relative name) :
    ∃ start, (start = [] ∨ start = [Component.curDir]) ∧
      components name = start ++ (clean (parts name)).map .normal := by
  have route : ((name.splitOn '/').filter fun segment => segment ≠ [] ∧ segment ≠ dot) =
      clean (parts name) := by
    rw [clean, parts, List.filter_filter]
    refine List.filter_congr fun segment _ => ?_
    simp [and_comm]
  have normal : (clean (parts name)).map component = (clean (parts name)).map .normal := by
    refine List.map_congr_left fun segment member => if_neg ?_
    rintro rfl
    exact listed.below (List.mem_filter.mp member).1
  unfold components
  rw [if_neg listed.relative, route, normal]
  split
  · exact ⟨_, .inr rfl, rfl⟩
  · exact ⟨_, .inl rfl, rfl⟩

/-- A checked name passes no link. -/
theorem validateNoSymlinkComponents_unlinked {tree : Tree} {io : Io} {base name : Path}
    {left : Nat} {root : Location} (nonempty : base ≠ []) (listed : Relative name)
    (reaches : tree.Reaches maxLinks (startOf tree.cwd base) (parts base) left root)
    (checked : validateNoSymlinkComponents tree io base name = .ok ()) :
    tree.Unlinked root (clean (parts name)) := by
  rw [validateNoSymlinkComponents, if_neg listed.nonempty] at checked
  obtain ⟨start, kind, shape⟩ := components_relative listed
  have route : validateComponents tree io base ((clean (parts name)).map .normal) = .ok () := by
    rw [shape] at checked
    rcases kind with rfl | rfl
    · exact checked
    · exact checked
  refine validateComponents_unlinked nonempty ?_ reaches route
  intro segment member
  obtain ⟨part, notDot⟩ := List.mem_filter.mp member
  obtain ⟨filled, plain⟩ := parts_plain part
  refine ⟨plain, filled, by simpa using notDot, ?_⟩
  rintro rfl
  exact listed.below part

theorem validateEach_relative {files : List FileEntry} (valid : validateEach files = .ok ()) :
    ∀ entry ∈ files, Relative entry.name := by
  induction files with
  | nil => simp
  | cons file rest ih =>
      unfold validateEach at valid
      split at valid
      next => cases valid
      next nonempty =>
        split at valid
        next => cases valid
        next accepted =>
          intro entry member
          rcases List.mem_cons.mp member with rfl | later
          · exact validateFileNameNoTraversal_ok nonempty accepted
          · exact ih valid entry later

theorem validateFiles_each {tree : Tree} {io : Io} {base : Path} {files : List FileEntry}
    (valid : validateFiles tree io base files = .ok ()) :
    ∀ entry ∈ files, validateNoSymlinkComponents tree io base entry.name = .ok () := by
  induction files with
  | nil => simp
  | cons file rest ih =>
      unfold validateFiles at valid
      split at valid
      next => cases valid
      next accepted =>
        intro entry member
        rcases List.mem_cons.mp member with rfl | later
        · exact accepted
        · exact ih valid entry later

/-- Only the name of a single file may be empty. -/
theorem validateTransferFileNames_relative {files : List FileEntry}
    (valid : validateTransferFileNames files = .ok ()) :
    ∀ entry ∈ files, entry.name ≠ [] → Relative entry.name := by
  intro entry member named
  unfold validateTransferFileNames at valid
  split at valid
  next single =>
    obtain ⟨length, first⟩ := single
    obtain ⟨only, rfl⟩ := List.length_eq_one_iff.mp length
    obtain rfl := List.mem_singleton.mp member
    exact absurd (Option.some.inj first) named
  next => exact validateEach_relative valid entry member

/-- An accepted list has valid names, and every name was checked for links. -/
theorem setFiles_accepted {tree : Tree} {io : Io} {files : List FileEntry} {job next : TransferJob}
    {base : Path} (source : job.dataSource = .filePath base)
    (accepted : job.setFiles tree io files = .ok next) :
    next = { job with totalSize := (files.map FileEntry.size).sum, files := files } ∧
      (∀ entry ∈ files, entry.name ≠ [] → Relative entry.name) ∧
      ∀ entry ∈ files, validateNoSymlinkComponents tree io base entry.name = .ok () := by
  unfold TransferJob.setFiles at accepted
  rw [source] at accepted
  dsimp only at accepted
  split at accepted
  next => cases accepted
  next names =>
    split at accepted
    next => cases accepted
    next checked =>
      refine ⟨?_, validateTransferFileNames_relative names, validateFiles_each checked⟩
      rw [source]
      exact (Except.ok.inj accepted).symm

/-- An accepted list has relative names that meet no link, unless its only name is empty. -/
theorem setFiles_ok {tree : Tree} {io : Io} {files : List FileEntry} {job next : TransferJob}
    {base : Path} {root : Location} (source : job.dataSource = .filePath base)
    (at_ : BaseAt tree base root) (nonempty : ∀ entry ∈ files, entry.name ≠ [])
    (accepted : job.setFiles tree io files = .ok next) :
    next = { job with totalSize := (files.map FileEntry.size).sum, files := files } ∧
      ∀ entry ∈ files, Relative entry.name ∧ tree.Unlinked root (clean (parts entry.name)) := by
  obtain ⟨same, names, checked⟩ := setFiles_accepted source accepted
  obtain ⟨filled, ⟨left, reaches⟩, _⟩ := at_
  refine ⟨same, fun entry member => ?_⟩
  have relative := names entry member (nonempty entry member)
  exact ⟨relative, validateNoSymlinkComponents_unlinked filled relative reaches
    (checked entry member)⟩

/-- A checked path is the joined one. -/
theorem joinValidatedPath_eq {tree : Tree} {io : Io} {base name path : Path}
    (joined : joinValidatedPath tree io base name = .ok path) : path = join base name := by
  unfold joinValidatedPath at joined
  split at joined
  next => cases joined
  next =>
    split at joined
    next => cases joined
    next => exact (Except.ok.inj joined).symm

/-- The path of an entry is its name below the base, if the job accepts the name. -/
theorem resolveEntryPath_eq {tree : Tree} {io : Io} {job : TransferJob}
    {base name path : Path}
    (resolved : job.resolveEntryPath tree io base name = some path) : path = join base name := by
  unfold TransferJob.resolveEntryPath at resolved
  split at resolved
  next =>
    split at resolved
    next joined => rw [← Option.some.inj resolved, joinValidatedPath_eq joined]
    next => cases resolved
  next => exact (Option.some.inj resolved).symm

/-- A current entry is listed. -/
theorem entryAt_mem {files : List FileEntry} {fileNum : Int} {entry : FileEntry}
    (found : entryAt files fileNum = some entry) : entry ∈ files := by
  unfold entryAt at found
  split at found
  · cases found
  · exact List.mem_of_getElem? found

/-- A call without an injected fault has the result of the tree. -/
theorem orFault_ok {A : Type} {fault : Option Fault} {result : Except Fault A} {value : A}
    (success : orFault fault result = .ok value) : result = .ok value := by
  cases fault with
  | none => exact success
  | some fault => cases success

end SubnetDesk.FileTransfer
