import SubnetDesk.Construction.Clipboard.LocalFile

namespace SubnetDesk.Clipboard.FileList

open FileTree

namespace OsPath

/-- A path extends another one by further names. -/
def Extends (start path : OsPath) : Prop :=
  start.absolute = path.absolute ∧ start.components <+: path.components

theorem Extends.refl (path : OsPath) : path.Extends path := ⟨rfl, List.prefix_refl _⟩

/-- An extension of an extension is one. -/
theorem Extends.trans {first second third : OsPath} (lower : first.Extends second)
    (upper : second.Extends third) : first.Extends third :=
  ⟨lower.1.trans upper.1, lower.2.trans upper.2⟩

theorem extends_push (path : OsPath) (name : OsSegment) : path.Extends (path.push name) :=
  ⟨rfl, List.prefix_append _ _⟩

theorem length_push (path : OsPath) (name : OsSegment) :
    (path.push name).components.length = path.components.length + 1 := by
  simp [push]

theorem Extends.length_le {start path : OsPath} (extends_ : start.Extends path) :
    start.components.length ≤ path.components.length := extends_.2.length_le

/-- Two siblings have no common extension. -/
theorem name_eq_of_extends {path other : OsPath} {first second : OsSegment}
    (one : (path.push first).Extends other) (two : (path.push second).Extends other) :
    first = second := by
  have same := List.prefix_of_prefix_length_le one.2 two.2 (by simp [push])
  simpa [push] using same

/-- A parent is the path without its last name. -/
theorem parent_eq_some_iff {path root : OsPath} :
    path.parent = some root ↔ ∃ name, path = root.push name := by
  unfold parent push
  constructor
  · intro found
    split at found
    next => cases found
    next some_ =>
      cases found
      exact ⟨path.components.getLast some_, by rw [List.dropLast_append_getLast]⟩
  · rintro ⟨name, rfl⟩
    simp

end OsPath

/-- The directory or the target of a link at a path. -/
def FileSystem.isDir (system : FileSystem) (path : OsPath) : Bool :=
  (system.metadata path).any Metadata.isDir

def FileSystem.entries (system : FileSystem) (path : OsPath) : List OsSegment :=
  if system.isDir path then (system.readDir path).getD [] else []

/-- The entries below a path, through links. -/
inductive Reaches (system : FileSystem) (top : OsPath) : OsPath → Prop where
  | top : Reaches system top top
  | entry {path : OsPath} {name : OsSegment} : Reaches system top path →
      name ∈ system.entries path → Reaches system top (path.push name)

/-- What an entry needs to be listed. -/
structure Listable (system : FileSystem) (root path : OsPath) : Prop where
  named : ∃ names, validatedDescriptorName root path = .ok names
  known : (system.metadata path).isSome = true
  readable : system.isDir path = true → (system.readDir path).isSome = true

/-- What is reached lies below the top. -/
theorem Reaches.extends {system : FileSystem} {top path : OsPath}
    (reaches : Reaches system top path) : top.Extends path := by
  induction reaches with
  | top => exact .refl top
  | entry _ _ inductionHypothesis => exact inductionHypothesis.trans (OsPath.extends_push _ _)

/-- A path is the top or lies below an entry. -/
theorem reaches_iff {system : FileSystem} {top path : OsPath} :
    Reaches system top path ↔
      path = top ∨ ∃ name ∈ system.entries top, Reaches system (top.push name) path := by
  constructor
  · intro reaches
    induction reaches with
    | top => exact .inl rfl
    | entry _ member inductionHypothesis =>
        obtain rfl | ⟨first, listed, below⟩ := inductionHypothesis
        · exact .inr ⟨_, member, .top⟩
        · exact .inr ⟨first, listed, .entry below member⟩
  · rintro (rfl | ⟨name, listed, below⟩)
    · exact .top
    · induction below with
      | top => exact .entry .top listed
      | entry _ member inductionHypothesis => exact .entry inductionHypothesis member

section Depth

theorem length_le_intercalate {α : Type} (separator : α) (parts : List (List α)) :
    parts.length ≤ ([separator].intercalate parts).length + 1 := by
  induction parts with
  | nil => simp
  | cons part rest inductionHypothesis =>
      cases rest with
      | nil => simp
      | cons next rest =>
          rw [List.intercalate_cons_cons, List.length_append, List.length_append]
          simp only [List.length_cons, List.length_nil] at inductionHypothesis ⊢
          omega

theorem length_le_encode (text : List Char) : text.length ≤ (Utf16.encode text).length := by
  induction text with
  | nil => exact Nat.le_refl _
  | cons char rest inductionHypothesis =>
      have positive : 0 < (Utf16.units char).length := by
        unfold Utf16.units
        split <;> simp
      simp only [Utf16.encode, List.flatMap_cons, List.length_append, List.length_cons] at *
      omega

/-- A name that fits into its descriptor has a bounded number of components. -/
theorem depth_le_of_named {root path : OsPath} (extends_ : root.Extends path)
    {names : List OsChar × Path} (named : validatedDescriptorName root path = .ok names) :
    path.components.length ≤ root.components.length + (maxFileNameCodeUnits + 1) := by
  unfold validatedDescriptorName OsPath.stripPrefix at named
  rw [if_pos ⟨extends_.1, extends_.2⟩] at named
  simp only [Bool.false_eq_true, if_false] at named
  split at named
  next => cases named
  next =>
    split at named
    next => cases named
    next short =>
      have units := length_le_encode
        (toStringLossy (OsPath.text ⟨false, path.components.drop root.components.length⟩))
      have parts := length_le_intercalate (OsChar.char '/')
        (path.components.drop root.components.length)
      simp only [toStringLossy, OsPath.text, Bool.false_eq_true, if_false, List.nil_append,
        List.length_map, List.length_drop] at units parts short
      omega

end Depth

section Steps

variable {system : FileSystem} {root path : OsPath}

/-- What can be listed can be opened. -/
theorem tryOpen_of_listable (listable : Listable system root path) :
    ∃ file, LocalFile.tryOpen system.metadata root path = .ok file ∧ file.path = path ∧
      file.isDir = system.isDir path := by
  obtain ⟨names, named⟩ := listable.named
  obtain ⟨mt, known⟩ := Option.isSome_iff_exists.mp listable.known
  unfold LocalFile.tryOpen
  rw [named, known]
  refine ⟨_, rfl, rfl, ?_⟩
  rw [FileSystem.isDir, known]
  rfl

/-- What was opened has a valid name. -/
theorem named_of_tryOpen {file : LocalFile}
    (opened : LocalFile.tryOpen system.metadata root path = .ok file) :
    ∃ names, validatedDescriptorName root path = .ok names := by
  unfold LocalFile.tryOpen at opened
  split at opened
  next => cases opened
  next relativePath descriptorName named => exact ⟨_, named⟩

/-- What was opened has metadata. -/
theorem known_of_tryOpen {file : LocalFile}
    (opened : LocalFile.tryOpen system.metadata root path = .ok file) :
    ∃ mt, system.metadata path = some mt := by
  unfold LocalFile.tryOpen at opened
  split at opened
  next => cases opened
  next =>
    split at opened
    next => cases opened
    next mt known => exact ⟨mt, known⟩

/-- The visit of the names of a directory. -/
def constrEntries (system : FileSystem) (root : OsPath) (fuel : Nat) (path : OsPath)
    (names : List OsSegment) (listing : Listing) : Except CliprdrError Listing :=
  names.foldlM (fun listing name => constrFileLst system root fuel (path.push name) listing) listing

/-- A path that was visited is left out. -/
theorem constrFileLst_seen {listing : Listing} (fuel : Nat) (seen : path ∈ listing.visited) :
    constrFileLst system root (fuel + 1) path listing = .ok listing := by
  rw [constrFileLst, if_pos seen]

/-- An entry that can be listed is listed before the entries below it. -/
theorem constrFileLst_listable {listing : Listing} (fuel : Nat) (fresh : path ∉ listing.visited)
    (listable : Listable system root path) :
    ∃ file, file.path = path ∧ file.isDir = system.isDir path ∧
      constrFileLst system root (fuel + 1) path listing =
        constrEntries system root fuel path (system.entries path)
          ⟨listing.fileList ++ [file], path :: listing.visited⟩ := by
  obtain ⟨file, opened, same, kind⟩ := tryOpen_of_listable listable
  obtain ⟨mt, known⟩ := Option.isSome_iff_exists.mp listable.known
  have directory : system.isDir path = mt.isDir := by rw [FileSystem.isDir, known]; rfl
  refine ⟨file, same, kind, ?_⟩
  rw [constrFileLst, if_neg fresh, opened]
  dsimp only
  rw [known, FileSystem.entries, directory]
  dsimp only
  cases isDir : mt.isDir with
  | false => rfl
  | true =>
      obtain ⟨names, readable⟩ := Option.isSome_iff_exists.mp
        (listable.readable (directory.trans isDir))
      rw [readable]
      rfl

/-- What cannot be listed is an error. -/
theorem constrFileLst_not_listable {listing : Listing} (fuel : Nat)
    (fresh : path ∉ listing.visited) (broken : ¬ Listable system root path) :
    ∃ error, constrFileLst system root (fuel + 1) path listing = .error error := by
  rw [constrFileLst, if_neg fresh]
  cases opened : LocalFile.tryOpen system.metadata root path with
  | error error => exact ⟨error, rfl⟩
  | ok file =>
      obtain ⟨mt, known⟩ := known_of_tryOpen opened
      have directory : system.isDir path = mt.isDir := by rw [FileSystem.isDir, known]; rfl
      rw [known]
      dsimp only
      cases isDir : mt.isDir with
      | false =>
          refine absurd ⟨named_of_tryOpen opened, Option.isSome_iff_exists.mpr ⟨mt, known⟩,
            fun folder => ?_⟩ broken
          rw [directory, isDir] at folder
          cases folder
      | true =>
          cases readable : system.readDir path with
          | none => exact ⟨_, rfl⟩
          | some names =>
              refine absurd ⟨named_of_tryOpen opened, Option.isSome_iff_exists.mpr ⟨mt, known⟩,
                fun _ => ?_⟩ broken
              rw [readable]
              rfl

end Steps

section Walks

variable {system : FileSystem} {root path : OsPath} {before middle after : Listing}
variable {starts : List OsPath} {added first second : List LocalFile}

/-- What a visit of some paths adds to a listing. -/
structure Walked (system : FileSystem) (root : OsPath) (starts : List OsPath)
    (before after : Listing) (added : List LocalFile) : Prop where
  fileList : after.fileList = before.fileList ++ added
  visited : ∀ path, path ∈ after.visited ↔
    path ∈ before.visited ∨ ∃ file ∈ added, file.path = path
  fresh : ∀ file ∈ added, file.path ∉ before.visited
  reached : ∀ file ∈ added, ∃ start ∈ starts, Reaches system start file.path
  listable : ∀ file ∈ added, Listable system root file.path
  kind : ∀ file ∈ added, file.isDir = system.isDir file.path
  order : added.Pairwise fun earlier later => earlier.path ≠ later.path ∧
    ∀ name, earlier.path ≠ later.path.push name
  complete : ∀ start ∈ starts, ∀ path, Reaches system start path → path ∈ after.visited

/-- A walk from nowhere adds nothing. -/
theorem Walked.nothing (listing : Listing) : Walked system root [] listing listing [] where
  fileList := (List.append_nil _).symm
  visited _ := by simp
  fresh _ member := nomatch member
  reached _ member := nomatch member
  listable _ member := nomatch member
  kind _ member := nomatch member
  order := .nil
  complete _ member := nomatch member

/-- A path whose entries have been visited is left out. -/
theorem Walked.seen {listing : Listing}
    (done : ∀ below, Reaches system path below → below ∈ listing.visited) :
    Walked system root [path] listing listing [] where
  fileList := (List.append_nil _).symm
  visited _ := by simp
  fresh _ member := nomatch member
  reached _ member := nomatch member
  listable _ member := nomatch member
  kind _ member := nomatch member
  order := .nil
  complete start member below reaches := done below (List.mem_singleton.mp member ▸ reaches)

/-- What was visited stays visited. -/
theorem Walked.mono (walked : Walked system root starts before after added)
    (member : path ∈ before.visited) : path ∈ after.visited :=
  (walked.visited path).mpr (.inl member)

/-- Visits of siblings follow one another. -/
theorem Walked.append {name : OsSegment} {names : List OsSegment}
    (one : Walked system root [path.push name] before middle first)
    (others : Walked system root (names.map path.push) middle after second) :
    Walked system root ((name :: names).map path.push) before after (first ++ second) where
  fileList := by rw [others.fileList, one.fileList, List.append_assoc]
  visited other := by
    rw [others.visited, one.visited]
    simp only [List.mem_append, or_and_right, exists_or, or_assoc]
  fresh file member := by
    obtain early | late := List.mem_append.mp member
    · exact one.fresh file early
    · exact fun seen => others.fresh file late (one.mono seen)
  reached file member := by
    obtain early | late := List.mem_append.mp member
    · obtain ⟨start, same, reaches⟩ := one.reached file early
      rw [List.mem_singleton.mp same] at reaches
      exact ⟨path.push name, List.mem_cons_self, reaches⟩
    · obtain ⟨start, listed, reaches⟩ := others.reached file late
      exact ⟨start, List.mem_cons_of_mem _ listed, reaches⟩
  listable file member := (List.mem_append.mp member).elim (one.listable file)
    (others.listable file)
  kind file member := (List.mem_append.mp member).elim (one.kind file) (others.kind file)
  order := by
    refine List.pairwise_append.mpr ⟨one.order, others.order, fun early inFirst late inSecond => ?_⟩
    have visited : early.path ∈ middle.visited :=
      (one.visited _).mpr (.inr ⟨early, inFirst, rfl⟩)
    refine ⟨fun same => others.fresh late inSecond (same ▸ visited), fun child same => ?_⟩
    obtain ⟨start, isFirst, reachesEarly⟩ := one.reached early inFirst
    rw [List.mem_singleton.mp isFirst] at reachesEarly
    obtain ⟨other, isOther, reachesLate⟩ := others.reached late inSecond
    obtain ⟨sibling, -, rfl⟩ := List.mem_map.mp isOther
    have apart := OsPath.name_eq_of_extends reachesEarly.extends
      (same ▸ reachesLate.extends.trans (OsPath.extends_push late.path child))
    rw [← apart] at reachesLate
    exact others.fresh late inSecond (one.complete _ List.mem_cons_self _ reachesLate)
  complete start member below reaches := by
    obtain rfl | later := List.mem_cons.mp member
    · exact others.mono (one.complete _ List.mem_cons_self _ reaches)
    · exact others.complete start later below reaches

/-- A directory comes before the entries below it. -/
theorem Walked.directory {file : LocalFile} (fresh : path ∉ before.visited)
    (same : file.path = path) (kind : file.isDir = system.isDir path)
    (listable : Listable system root path)
    (walked : Walked system root ((system.entries path).map path.push)
      ⟨before.fileList ++ [file], path :: before.visited⟩ after added) :
    Walked system root [path] before after (file :: added) where
  fileList := by rw [walked.fileList, List.append_assoc, List.singleton_append]
  visited other := by
    rw [walked.visited]
    simp only [List.mem_cons, exists_eq_or_imp, same]
    constructor
    · rintro ((rfl | seen) | listed)
      · exact .inr (.inl rfl)
      · exact .inl seen
      · exact .inr (.inr listed)
    · rintro (seen | rfl | listed)
      · exact .inl (.inr seen)
      · exact .inl (.inl rfl)
      · exact .inr listed
  fresh other member := by
    obtain rfl | later := List.mem_cons.mp member
    · exact same ▸ fresh
    · exact fun seen => walked.fresh other later (List.mem_cons_of_mem _ seen)
  reached other member := by
    refine ⟨path, List.mem_singleton_self path, ?_⟩
    obtain rfl | later := List.mem_cons.mp member
    · exact same ▸ .top
    · obtain ⟨start, listed, reaches⟩ := walked.reached other later
      obtain ⟨name, entry, rfl⟩ := List.mem_map.mp listed
      exact reaches_iff.mpr (.inr ⟨name, entry, reaches⟩)
  listable other member := by
    obtain rfl | later := List.mem_cons.mp member
    · exact same ▸ listable
    · exact walked.listable other later
  kind other member := by
    obtain rfl | later := List.mem_cons.mp member
    · exact same ▸ kind
    · exact walked.kind other later
  order := by
    refine List.pairwise_cons.mpr ⟨fun later member => ?_, walked.order⟩
    rw [same]
    refine ⟨fun equal => walked.fresh later member (equal ▸ List.mem_cons_self), ?_⟩
    intro name equal
    obtain ⟨start, listed, reaches⟩ := walked.reached later member
    obtain ⟨entry, -, rfl⟩ := List.mem_map.mp listed
    have longer := reaches.extends.length_le
    have length := congrArg (fun path => path.components.length) equal
    simp only [OsPath.length_push] at longer length
    omega
  complete start member below reaches := by
    rw [List.mem_singleton.mp member] at reaches
    obtain rfl | ⟨name, entry, rest⟩ := reaches_iff.mp reaches
    · exact walked.mono List.mem_cons_self
    · exact walked.complete _ (List.mem_map_of_mem entry) below rest

end Walks

section Runs

variable {system : FileSystem} {root path : OsPath} {before middle after : Listing}

/-- Either all entries below a path have been visited, or none has. -/
def Settled (system : FileSystem) (path : OsPath) (listing : Listing) : Prop :=
  (∀ below, Reaches system path below → below ∈ listing.visited) ∨
    ∀ below, path.Extends below → below ∉ listing.visited

/-- A visit lists all entries, or it stops at one that cannot be listed. -/
inductive WalkResult (system : FileSystem) (root : OsPath) (starts : List OsPath)
    (before : Listing) : Except CliprdrError Listing → Prop where
  | listed {after : Listing} {added : List LocalFile}
      (walked : Walked system root starts before after added) :
      WalkResult system root starts before (.ok after)
  | broken {error : CliprdrError} {start path : OsPath} (listed : start ∈ starts)
      (reaches : Reaches system start path) (broken : ¬ Listable system root path) :
      WalkResult system root starts before (.error error)

/-- A walk leaves its siblings settled. -/
theorem Settled.sibling {name other : OsSegment} {added : List LocalFile}
    (settled : Settled system (path.push other) before)
    (walked : Walked system root [path.push name] before middle added) :
    Settled system (path.push other) middle := by
  obtain done | untouched := settled
  · exact .inl fun below reaches => walked.mono (done below reaches)
  · by_cases same : other = name
    · subst same
      exact .inl (walked.complete _ List.mem_cons_self)
    · refine .inr fun below extends_ seen => ?_
      obtain early | ⟨file, member, rfl⟩ := (walked.visited below).mp seen
      · exact untouched below extends_ early
      · obtain ⟨start, first, reaches⟩ := walked.reached file member
        rw [List.mem_singleton.mp first] at reaches
        exact same (OsPath.name_eq_of_extends extends_ reaches.extends)

/-- Names are visited one after another. -/
theorem constrEntries_spec (fuel : Nat) (names : List OsSegment)
    (visit : ∀ name listing, Settled system (path.push name) listing →
      WalkResult system root [path.push name] listing
        (constrFileLst system root fuel (path.push name) listing))
    (settled : ∀ name ∈ names, Settled system (path.push name) before) :
    WalkResult system root (names.map path.push) before
      (constrEntries system root fuel path names before) := by
  induction names generalizing before with
  | nil => exact .listed (.nothing before)
  | cons name names inductionHypothesis =>
      have first := visit name before (settled name List.mem_cons_self)
      rw [constrEntries, List.foldlM_cons]
      generalize constrFileLst system root fuel (path.push name) before = result at first
      cases first with
      | listed walked =>
          have rest := inductionHypothesis fun other member =>
            (settled other (List.mem_cons_of_mem name member)).sibling walked
          change WalkResult system root _ _ (constrEntries system root fuel path names _)
          generalize constrEntries system root fuel path names _ = result at rest
          cases rest with
          | listed others => exact .listed (walked.append others)
          | broken listed reaches broken =>
              exact .broken (List.mem_cons_of_mem _ listed) reaches broken
      | broken listed reaches broken =>
          rw [List.mem_singleton.mp listed] at reaches
          exact .broken List.mem_cons_self reaches broken

/-- The deepest call is made for a path whose parent still has a name that fits. -/
def maxDepth : Nat := maxFileNameCodeUnits + 2

/-- The fuel lasts for the depth that is left. -/
structure Fueled (root path : OsPath) (fuel : Nat) : Prop where
  below : root.Extends path
  shallow : path.components.length ≤ root.components.length + maxDepth
  enough : root.components.length + maxDepth + 1 ≤ fuel + path.components.length

theorem Fueled.positive {fuel : Nat} (fueled : Fueled root path fuel) : 0 < fuel := by
  have shallow := fueled.shallow
  have enough := fueled.enough
  omega

/-- A step into a directory takes one unit. -/
theorem Fueled.push {fuel : Nat} (fueled : Fueled root path (fuel + 1))
    {names : List OsChar × Path} (named : validatedDescriptorName root path = .ok names)
    (name : OsSegment) : Fueled root (path.push name) fuel := by
  have short := depth_le_of_named fueled.below named
  have enough := fueled.enough
  refine ⟨fueled.below.trans (OsPath.extends_push path name), ?_, ?_⟩ <;>
    rw [OsPath.length_push] <;> unfold maxDepth at * <;> omega

/-- With enough fuel a visit stops only at an entry that cannot be listed. -/
theorem constrFileLst_spec {fuel : Nat} (fueled : Fueled root path fuel)
    (settled : Settled system path before) :
    WalkResult system root [path] before (constrFileLst system root fuel path before) := by
  induction fuel generalizing path before with
  | zero => exact absurd fueled.positive (Nat.lt_irrefl 0)
  | succ fuel inductionHypothesis =>
      by_cases seen : path ∈ before.visited
      · rw [constrFileLst_seen fuel seen]
        obtain done | untouched := settled
        · exact .listed (.seen done)
        · exact absurd seen (untouched path (.refl path))
      · have untouched : ∀ below, path.Extends below → below ∉ before.visited :=
          settled.resolve_left fun done => seen (done path .top)
        by_cases listable : Listable system root path
        · obtain ⟨file, same, kind, step⟩ := constrFileLst_listable fuel seen listable
          obtain ⟨names, named⟩ := listable.named
          have apart : ∀ name ∈ system.entries path, Settled system (path.push name)
              ⟨before.fileList ++ [file], path :: before.visited⟩ := by
            refine fun name _ => .inr fun below extends_ visited => ?_
            obtain rfl | earlier := List.mem_cons.mp visited
            · have longer := extends_.length_le
              rw [OsPath.length_push] at longer
              omega
            · exact untouched below ((OsPath.extends_push path name).trans extends_) earlier
          have rest := constrEntries_spec fuel (system.entries path)
            (fun name listing => inductionHypothesis (fueled.push named name)) apart
          rw [step]
          generalize constrEntries system root fuel path _ _ = result at rest
          cases rest with
          | listed walked => exact .listed (.directory seen same kind listable walked)
          | broken listed reaches broken =>
              obtain ⟨name, entry, rfl⟩ := List.mem_map.mp listed
              exact .broken List.mem_cons_self (reaches_iff.mpr (.inr ⟨name, entry, reaches⟩))
                broken
        · obtain ⟨error, stopped⟩ := constrFileLst_not_listable fuel seen listable
          rw [stopped]
          exact .broken List.mem_cons_self .top listable

/-- More fuel changes nothing where the fuel lasts. -/
theorem constrFileLst_succ {fuel : Nat} (fueled : Fueled root path fuel) (listing : Listing) :
    constrFileLst system root (fuel + 1) path listing =
      constrFileLst system root fuel path listing := by
  induction fuel generalizing path listing with
  | zero => exact absurd fueled.positive (Nat.lt_irrefl 0)
  | succ fuel inductionHypothesis =>
      rw [constrFileLst]
      conv_rhs => rw [constrFileLst]
      split
      next => rfl
      next =>
        cases opened : LocalFile.tryOpen system.metadata root path with
        | error error => rfl
        | ok file =>
            obtain ⟨names, named⟩ := named_of_tryOpen opened
            have same : (fun (listing : Listing) name =>
                constrFileLst system root (fuel + 1) (path.push name) listing) =
                fun listing name => constrFileLst system root fuel (path.push name) listing := by
              funext listing name
              exact inductionHypothesis (fueled.push named name) listing
            dsimp only
            rw [same]

end Runs

section Selections

variable {system : FileSystem} {fuel : Nat}

/-- A listing that follows on files that have been listed. -/
def Listing.follow (files : List LocalFile) (listing : Listing) : Listing :=
  ⟨files ++ listing.fileList, listing.visited⟩

/-- A visit does not look at the files that have been listed. -/
theorem constrFileLst_follow {root path : OsPath} (files : List LocalFile) (listing : Listing) :
    constrFileLst system root fuel path (listing.follow files) =
      (constrFileLst system root fuel path listing).map (Listing.follow files) := by
  induction fuel generalizing path listing with
  | zero => rfl
  | succ fuel inductionHypothesis =>
      rw [constrFileLst]
      conv_rhs => rw [constrFileLst]
      change (if path ∈ listing.visited then _ else _) = _
      split
      next => rfl
      next =>
        cases LocalFile.tryOpen system.metadata root path with
        | error error => rfl
        | ok file =>
            dsimp only
            cases system.metadata path with
            | none => rfl
            | some mt =>
                dsimp only
                split
                next =>
                  cases system.readDir path with
                  | none => rfl
                  | some names =>
                      dsimp only [Listing.follow]
                      rw [List.append_assoc]
                      change List.foldlM _ (Listing.follow files
                        ⟨listing.fileList ++ [file], path :: listing.visited⟩) names = _
                      generalize (⟨_, _⟩ : Listing) = start
                      induction names generalizing start with
                      | nil => rfl
                      | cons name names rest =>
                          rw [List.foldlM_cons, List.foldlM_cons, inductionHypothesis]
                          cases constrFileLst system root fuel (path.push name) start with
                          | error error => rfl
                          | ok middle => exact rest middle
                next =>
                  dsimp only [Listing.follow, Except.map]
                  rw [List.append_assoc]

/-- The files that are listed for a selected path. -/
def Selected (system : FileSystem) (fuel : Nat) (top : OsPath) (files : List LocalFile) : Prop :=
  constructFileList system fuel [top] = .ok files ∧ ∃ root after, top.parent = some root ∧
    Walked system root [top] ⟨[], []⟩ after files

/-- An entry below a selected path that cannot be listed. -/
def Unlistable (system : FileSystem) (top path : OsPath) : Prop :=
  Reaches system top path ∧ ∀ root, top.parent = some root → ¬ Listable system root path

/-- A selection has the depth that it needs. -/
theorem fueled_selected {root : OsPath} {name : OsSegment} (enough : maxDepth ≤ fuel) :
    Fueled root (root.push name) fuel := by
  refine ⟨OsPath.extends_push root name, ?_, ?_⟩ <;> rw [OsPath.length_push] <;>
    unfold maxDepth at * <;> omega

/-- The list of a selection is made of the lists of its paths. -/
theorem constructFrom_spec (system : FileSystem) (enough : maxDepth ≤ fuel) (paths : List OsPath)
    (fileList : List LocalFile) :
    (∃ sections, constructFrom system fuel paths fileList = .ok (fileList ++ sections.flatten) ∧
      List.Forall₂ (Selected system fuel) paths sections) ∨
    ∃ error, constructFrom system fuel paths fileList = .error error ∧
      ∃ top ∈ paths, ∃ path, Unlistable system top path := by
  induction paths generalizing fileList with
  | nil => exact .inl ⟨[], by simp [constructFrom], .nil⟩
  | cons top rest inductionHypothesis =>
      rw [constructFrom]
      cases parent : top.parent with
      | none =>
          refine .inr ⟨_, rfl, top, List.mem_cons_self, top, .top, fun root found => ?_⟩
          rw [parent] at found
          cases found
      | some root =>
          obtain ⟨name, rfl⟩ := OsPath.parent_eq_some_iff.mp parent
          have walk : WalkResult system root [root.push name] ⟨[], []⟩
              (constrFileLst system root fuel (root.push name) ⟨[], []⟩) :=
            constrFileLst_spec (fueled_selected enough) (.inr fun _ _ seen => nomatch seen)
          have start : (⟨fileList, []⟩ : Listing) = Listing.follow fileList ⟨[], []⟩ := by
            rw [Listing.follow, List.append_nil]
          dsimp only
          rw [start, constrFileLst_follow]
          cases found : constrFileLst system root fuel (root.push name) ⟨[], []⟩ with
          | error error =>
              rw [found] at walk
              cases walk with
              | broken listed reaches broken =>
                  rw [List.mem_singleton.mp listed] at reaches
                  refine .inr ⟨_, rfl, _, List.mem_cons_self, _, reaches, fun other same => ?_⟩
                  cases parent.symm.trans same
                  exact broken
          | ok after =>
              rw [found] at walk
              cases walk with
              | listed walked =>
                  rename_i added
                  have alone : Selected system fuel (root.push name) added := by
                    refine ⟨?_, root, after, parent, walked⟩
                    rw [constructFileList, if_neg (List.cons_ne_nil _ _), constructFrom, parent]
                    dsimp only
                    rw [found]
                    exact congrArg Except.ok walked.fileList
                  have listed : (Listing.follow fileList after).fileList = fileList ++ added :=
                    congrArg (fileList ++ ·) walked.fileList
                  dsimp only [Except.map]
                  rw [listed]
                  obtain ⟨sections, listed, each⟩ | ⟨error, stopped, other, member, broken⟩ :=
                    inductionHypothesis (fileList ++ added)
                  · refine .inl ⟨added :: sections, ?_, .cons alone each⟩
                    rw [listed, List.flatten_cons, List.append_assoc]
                  · exact .inr ⟨error, stopped, other, List.mem_cons_of_mem _ member, broken⟩

/-- More fuel lists the same files. -/
theorem constructFrom_succ (enough : maxDepth ≤ fuel) (paths : List OsPath)
    (fileList : List LocalFile) :
    constructFrom system (fuel + 1) paths fileList = constructFrom system fuel paths fileList := by
  induction paths generalizing fileList with
  | nil => rfl
  | cons top rest inductionHypothesis =>
      rw [constructFrom]
      conv_rhs => rw [constructFrom]
      cases parent : top.parent with
      | none => rfl
      | some root =>
          obtain ⟨name, rfl⟩ := OsPath.parent_eq_some_iff.mp parent
          dsimp only
          rw [constrFileLst_succ (fueled_selected enough)]
          split
          next => rfl
          next listing _ => exact inductionHypothesis listing.fileList

/-- Enough fuel lists the same files. -/
theorem constructFileList_eq (enough : maxDepth ≤ fuel) (paths : List OsPath) :
    constructFileList system fuel paths = constructFileList system maxDepth paths := by
  induction fuel, enough using Nat.le_induction with
  | base => rfl
  | succ fuel enough inductionHypothesis =>
      rw [← inductionHypothesis, constructFileList, constructFileList,
        constructFrom_succ enough]

end Selections

section Cycles

variable {Id : Type} {system : FileSystem} {identity : OsPath → Id} {top path : OsPath}
variable {fuel : Nat}

/-- One entry under two paths: a directory, or a name in one directory. -/
def SameEntry (system : FileSystem) (identity : OsPath → Id) (first second : OsPath) : Prop :=
  first = second ∨
    (system.isDir first = true ∧ system.isDir second = true ∧ identity first = identity second) ∨
    ∃ folder other name, first = folder.push name ∧ second = other.push name ∧
      identity folder = identity other

/-- Everything below a selected path is listed, parents come before their children, and no
directory comes twice. -/
structure ListedOnce (system : FileSystem) (identity : OsPath → Id) (top : OsPath)
    (files : List LocalFile) : Prop where
  reached : ∀ file ∈ files, Reaches system top file.path
  complete : ∀ path, Reaches system top path →
    ∃ file ∈ files, SameEntry system identity path file.path
  parentsFirst : files.Pairwise fun earlier later => ∀ name, earlier.path ≠ later.path.push name
  once : files.Pairwise fun earlier later => earlier.isDir = true → later.isDir = true →
    identity earlier.path ≠ identity later.path

/-- A path to an entry with the directories that it passes, none of them twice. -/
inductive Straight (system : FileSystem) (identity : OsPath → Id) (top : OsPath) :
    OsPath → List OsPath → Prop where
  | top : Straight system identity top top []
  | entry {path : OsPath} {name : OsSegment} {passed : List OsPath} :
      Straight system identity top path passed →
      (∀ other ∈ passed, identity other ≠ identity path) → name ∈ system.entries path →
      Straight system identity top (path.push name) (path :: passed)

/-- An entry cannot be listed, and no cycle leads to it. -/
def GenuineFault (system : FileSystem) (identity : OsPath → Id) (top : OsPath) : Prop :=
  ∃ path passed, Straight system identity top path passed ∧
    (system.isDir path = true → ∀ other ∈ passed, identity other ≠ identity path) ∧
    ∀ root, top.parent = some root → ¬ Listable system root path

/-- No directory is reached by two paths. -/
def OnePathEach (system : FileSystem) (identity : OsPath → Id) (top : OsPath) : Prop :=
  ∀ first second, Reaches system top first → Reaches system top second →
    system.isDir first = true → system.isDir second = true → identity first = identity second →
      first = second

/-- Cycles of links neither stop a list nor repeat a directory in it. -/
structure CyclesHarmless (system : FileSystem) (identity : OsPath → Id)
    (construct : List OsPath → Except CliprdrError (List LocalFile)) (paths : List OsPath) :
    Prop where
  listed : ∀ files, construct paths = .ok files → ∃ sections, files = sections.flatten ∧
    List.Forall₂ (fun top section_ => construct [top] = .ok section_ ∧
      ListedOnce system identity top section_) paths sections
  failed : ∀ error, construct paths = .error error →
    ∃ top ∈ paths, GenuineFault system identity top

/-- A straight path is reached. -/
theorem Straight.reaches {passed : List OsPath}
    (straight : Straight system identity top path passed) : Reaches system top path := by
  induction straight with
  | top => exact .top
  | entry _ _ member inductionHypothesis => exact .entry inductionHypothesis member

theorem isDir_of_entries {name : OsSegment} (member : name ∈ system.entries path) :
    system.isDir path = true := by
  unfold FileSystem.entries at member
  split at member
  next directory => exact directory
  next => cases member

/-- Where every directory has one path, no path passes a directory twice. -/
theorem OnePathEach.straight (single : OnePathEach system identity top)
    (reaches : Reaches system top path) : ∃ passed, Straight system identity top path passed ∧
      (system.isDir path = true → ∀ other ∈ passed, identity other ≠ identity path) := by
  suffices ∃ passed, Straight system identity top path passed ∧
      ∀ other ∈ passed, Reaches system top other ∧ system.isDir other = true ∧
        other.components.length < path.components.length by
    obtain ⟨passed, straight, shorter⟩ := this
    refine ⟨passed, straight, fun directory other member same => ?_⟩
    obtain ⟨reachesOther, otherDirectory, less⟩ := shorter other member
    have equal := single other path reachesOther reaches otherDirectory directory same
    exact absurd (equal ▸ less) (Nat.lt_irrefl _)
  induction reaches with
  | top => exact ⟨[], .top, fun _ member => nomatch member⟩
  | entry reaches member inductionHypothesis =>
      rename_i folder name
      obtain ⟨passed, straight, shorter⟩ := inductionHypothesis
      have directory := isDir_of_entries member
      refine ⟨folder :: passed, .entry straight ?_ member, ?_⟩
      · intro other inside same
        obtain ⟨reachesOther, otherDirectory, less⟩ := shorter other inside
        have equal := single other folder reachesOther reaches otherDirectory directory same
        exact absurd (equal ▸ less) (Nat.lt_irrefl _)
      · rw [List.forall_mem_cons, OsPath.length_push]
        refine ⟨⟨reaches, directory, Nat.lt_succ_self _⟩, fun other inside => ?_⟩
        obtain ⟨reachesOther, otherDirectory, less⟩ := shorter other inside
        exact ⟨reachesOther, otherDirectory, Nat.lt_succ_of_lt less⟩

/-- A list holds every path below the selected one, and each only once. -/
theorem Selected.complete {files : List LocalFile} (selected : Selected system fuel top files) :
    ∀ path, Reaches system top path → ∃ file ∈ files, file.path = path := by
  obtain ⟨-, root, after, -, walked⟩ := selected
  intro path reaches
  have seen := (walked.visited path).mp (walked.complete top List.mem_cons_self path reaches)
  exact seen.resolve_left fun none_ => nomatch none_

/-- Files are listed once on single paths. -/
theorem Selected.listedOnce_iff {files : List LocalFile}
    (selected : Selected system fuel top files) :
    ListedOnce system identity top files ↔ OnePathEach system identity top := by
  have complete := selected.complete
  obtain ⟨-, root, after, -, walked⟩ := selected
  have reached : ∀ file ∈ files, Reaches system top file.path := by
    intro file member
    obtain ⟨start, same, reaches⟩ := walked.reached file member
    exact List.mem_singleton.mp same ▸ reaches
  constructor
  · intro once first second reachesFirst reachesSecond folder other same
    obtain ⟨one, inOne, rfl⟩ := complete first reachesFirst
    obtain ⟨two, inTwo, rfl⟩ := complete second reachesSecond
    by_contra apart
    have symmetric : Std.Symm fun earlier later : LocalFile =>
        earlier.isDir = true → later.isDir = true →
          identity earlier.path ≠ identity later.path :=
      ⟨fun _ _ related left right equal => related right left equal.symm⟩
    refine once.once.forall inOne inTwo (fun equal => apart (equal ▸ rfl)) ?_ ?_ same
    · exact (walked.kind one inOne).trans folder
    · exact (walked.kind two inTwo).trans other
  · intro single
    refine ⟨reached, fun path reaches => ?_, walked.order.imp fun related => related.2, ?_⟩
    · obtain ⟨file, member, same⟩ := complete path reaches
      exact ⟨file, member, .inl same.symm⟩
    · refine walked.order.imp_of_mem fun {earlier later} inEarlier inLater related => ?_
      intro folder other same
      rw [walked.kind earlier inEarlier] at folder
      rw [walked.kind later inLater] at other
      exact related.1 (single _ _ (reached _ inEarlier) (reached _ inLater) folder other same)

/-- A genuine fault stops the list. -/
theorem GenuineFault.unlistable (fault : GenuineFault system identity top) :
    ∃ path, Unlistable system top path := by
  obtain ⟨path, passed, straight, -, broken⟩ := fault
  exact ⟨path, straight.reaches, broken⟩

theorem forall₂_imp_of_mem {α β : Type} {related other : α → β → Prop} {lefts : List α}
    {rights : List β} (all : List.Forall₂ related lefts rights)
    (implies : ∀ left ∈ lefts, ∀ right, related left right → other left right) :
    List.Forall₂ other lefts rights := by
  induction all with
  | nil => exact .nil
  | cons here _ inductionHypothesis =>
      obtain ⟨first, rest⟩ := List.forall_mem_cons.mp implies
      exact .cons (first _ here) (inductionHypothesis rest)

theorem exists_of_forall₂ {α β : Type} {related : α → β → Prop} {lefts : List α} {rights : List β}
    (all : List.Forall₂ related lefts rights) : ∀ left ∈ lefts, ∃ right, related left right := by
  induction all with
  | nil => exact fun _ member => nomatch member
  | cons here _ inductionHypothesis =>
      exact List.forall_mem_cons.mpr ⟨⟨_, here⟩, inductionHypothesis⟩

/-- A whole list has no fault. -/
theorem Selected.not_unlistable {files : List LocalFile} (selected : Selected system fuel top files) :
    ¬ Unlistable system top path := by
  rintro ⟨reaches, broken⟩
  obtain ⟨file, member, rfl⟩ := selected.complete path reaches
  obtain ⟨-, root, after, parent, walked⟩ := selected
  exact broken root parent (walked.listable file member)

/-- Links are followed into directories that have another path, so a cycle ends at a name that does
not fit, and a directory with two paths is listed twice. -/
theorem link_cycles_harmless_iff (system : FileSystem) (identity : OsPath → Id) {fuel : Nat}
    (enough : maxDepth ≤ fuel) {paths : List OsPath} (some_ : paths ≠ []) :
    constructFileList system fuel paths = constructFileList system maxDepth paths ∧
    (CyclesHarmless system identity (constructFileList system fuel) paths ↔
      (∀ top ∈ paths, OnePathEach system identity top) ∨
        ∃ top ∈ paths, GenuineFault system identity top) := by
  refine ⟨constructFileList_eq enough paths, ?_⟩
  have whole : constructFileList system fuel paths = constructFrom system fuel paths [] := by
    rw [constructFileList, if_neg some_]
  obtain ⟨sections, listed, each⟩ | ⟨error, stopped, top, member, path, broken⟩ :=
    constructFrom_spec system enough paths []
  · rw [← whole, List.nil_append] at listed
    have noFault : ¬ ∃ top ∈ paths, GenuineFault system identity top := by
      rintro ⟨top, member, fault⟩
      obtain ⟨files, selected⟩ := exists_of_forall₂ each top member
      obtain ⟨path, broken⟩ := fault.unlistable
      exact selected.not_unlistable broken
    constructor
    · intro harmless
      refine .inl fun top member => ?_
      obtain ⟨files, selected⟩ := exists_of_forall₂ each top member
      obtain ⟨others, -, claimed⟩ := harmless.listed _ listed
      obtain ⟨other, same, once⟩ := exists_of_forall₂ claimed top member
      cases selected.1.symm.trans same
      exact selected.listedOnce_iff.mp once
    · rintro (single | fault)
      · refine ⟨fun files same => ?_, fun error same => ?_⟩
        · cases listed.symm.trans same
          refine ⟨sections, rfl, forall₂_imp_of_mem each fun top member files selected => ?_⟩
          exact ⟨selected.1, selected.listedOnce_iff.mpr (single top member)⟩
        · cases listed.symm.trans same
      · exact absurd fault noFault
  · rw [← whole] at stopped
    constructor
    · exact fun harmless => .inr (harmless.failed error stopped)
    · intro either
      refine ⟨fun files same => ?_, fun error' _ => ?_⟩
      · cases stopped.symm.trans same
      · refine either.elim (fun single => ?_) id
        obtain ⟨passed, straight, fresh⟩ := (single top member).straight broken.1
        exact ⟨top, member, path, passed, straight, fresh, broken.2⟩

end Cycles

section Trees

/-- The location that a path leads to, through its links. -/
def treeIdentity (tree : Tree) (path : OsPath) : Option Location :=
  (tree.resolve true (toStringLossy path.text)).toOption

/-- A tree whose names are Unicode, as a file system. -/
def FileSystem.ofTree (tree : Tree) : FileSystem where
  metadata path := ((treeIdentity tree path).bind tree.node).map fun node =>
    { len := 0
      isDir := node.isDir
      modified := some 0
      mode := 0o755 }
  readDir path := (treeIdentity tree path).map fun place =>
    (tree.names.filter fun name => name ≠ [] ∧ name.dropLast = place).map fun name =>
      (name.getLast?.getD []).map OsChar.char

/-- A directory with a link to itself. -/
def loopTree : Tree := Tree.ofFiles [[['d']]] [([['d'], ['s']], dot)] []

/-- A directory with another one and a link to that. -/
def twinTree : Tree := Tree.ofFiles [[['d']], [['d'], ['a']]] [([['d'], ['b']], ['a'])] []

def selectedDirectory : OsPath := ⟨true, [[.char 'd']]⟩

def twinFiles : List LocalFile :=
  (constructFileList (.ofTree twinTree) maxDepth [selectedDirectory]).toOption.getD []

/-- A link to its own directory stops the list. -/
theorem loop_fails :
    constructFileList (.ofTree loopTree) maxDepth [selectedDirectory] = .error .fileError := by
  decide +kernel

/-- A link to a sibling does not stop the list. -/
theorem twin_listed :
    constructFileList (.ofTree twinTree) maxDepth [selectedDirectory] = .ok twinFiles := by
  decide +kernel

/-- A directory with a file and a directory below it, beside one with a link to itself. -/
def mixedTree : Tree :=
  Tree.ofFiles [[['d']], [['e']], [['e'], ['a']]] [([['d'], ['s']], dot)]
    [([['e'], ['a'], ['f']], [1])]

/-- The plain directory is selected first, the one with the link after it. -/
def mixedSelection : List OsPath := [⟨true, [[.char 'e']]⟩, selectedDirectory]

theorem mixed_harmless_iff :
    ((constructFileList (.ofTree mixedTree) 300 (mixedSelection.take 1)).toOption.map List.length =
        some 3 ∧
      constructFileList (.ofTree mixedTree) 300 mixedSelection = .error .fileError) ∧
    constructFileList (.ofTree mixedTree) 300 mixedSelection =
      constructFileList (.ofTree mixedTree) maxDepth mixedSelection ∧
    (CyclesHarmless (.ofTree mixedTree) (treeIdentity mixedTree)
        (constructFileList (.ofTree mixedTree) 300) mixedSelection ↔
      (∀ top ∈ mixedSelection, OnePathEach (.ofTree mixedTree) (treeIdentity mixedTree) top) ∨
        ∃ top ∈ mixedSelection, GenuineFault (.ofTree mixedTree) (treeIdentity mixedTree) top) :=
  ⟨⟨by decide +kernel, by decide +kernel⟩,
    link_cycles_harmless_iff _ _ (by decide) (List.cons_ne_nil _ _)⟩

/-- Only the directory and its link are reached without passing the directory twice. -/
theorem loop_straight {path : OsPath} {passed : List OsPath}
    (straight : Straight (.ofTree loopTree) (treeIdentity loopTree) selectedDirectory path passed) :
    (path = selectedDirectory ∧ passed = []) ∨
      (path = selectedDirectory.push [.char 's'] ∧ passed = [selectedDirectory]) := by
  induction straight with
  | top => exact .inl ⟨rfl, rfl⟩
  | entry _ apart member inductionHypothesis =>
      obtain ⟨rfl, rfl⟩ | ⟨rfl, rfl⟩ := inductionHypothesis
      · have only : (FileSystem.ofTree loopTree).entries selectedDirectory = [[.char 's']] := by
          decide +kernel
        rw [only] at member
        exact .inr ⟨congrArg _ (List.mem_singleton.mp member), rfl⟩
      · exact absurd (by decide +kernel) (apart selectedDirectory List.mem_cons_self)

/-- A link to its own directory stops the list, and a link to a sibling lists that twice. -/
theorem link_cycle_harms :
    (constructFileList (.ofTree loopTree) maxDepth [selectedDirectory] = .error .fileError ∧
      ¬ CyclesHarmless (.ofTree loopTree) (treeIdentity loopTree)
        (constructFileList (.ofTree loopTree) maxDepth) [selectedDirectory]) ∧
    (constructFileList (.ofTree twinTree) maxDepth [selectedDirectory] = .ok twinFiles ∧
      ¬ twinFiles.Pairwise fun earlier later => earlier.isDir = true → later.isDir = true →
        treeIdentity twinTree earlier.path ≠ treeIdentity twinTree later.path) := by
  refine ⟨⟨loop_fails, fun harmless => ?_⟩, twin_listed, by decide +kernel⟩
  obtain ⟨top, member, path, passed, straight, fresh, broken⟩ := harmless.failed _ loop_fails
  rw [List.mem_singleton.mp member] at straight broken
  have parent : selectedDirectory.parent = some ⟨true, []⟩ := by decide
  obtain ⟨rfl, rfl⟩ | ⟨rfl, rfl⟩ := loop_straight straight
  · refine broken ⟨true, []⟩ parent ⟨⟨([.char 'd'], ['d']), ?_⟩, ?_, fun _ => ?_⟩ <;>
      decide +kernel
  · exact fresh (by decide +kernel) selectedDirectory List.mem_cons_self (by decide +kernel)

end Trees

end SubnetDesk.Clipboard.FileList
