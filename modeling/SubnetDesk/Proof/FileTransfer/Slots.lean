import SubnetDesk.Proof.FileTransfer.EntryPaths
import SubnetDesk.Foundation.FileStore

namespace SubnetDesk.FileTransfer
open FileTree

/-- These are the places of a listed file and of its two side files. -/
structure Slot where
  final : Location
  download : Location
  digest : Location
deriving DecidableEq

/-- A listed file lies below this path. The base itself is the file when the name is empty. -/
def anchorPath (base name : Path) : Path :=
  if name = [] then if stem base = [] then dot else stem base else base

def anchorName (base name : Path) : Path := if name = [] then leaf base else name

def slot (root : Location) (base name : Path) : Slot :=
  ⟨entryPlace root (anchorName base name), sidePlace root (anchorName base name) downloadSuffix,
    sidePlace root (anchorName base name) digestSuffix⟩

/-- An empty name and the name of the base lead to the same place. -/
theorem resolve_join (tree : Tree) (follow : Bool) (base name suffix : Path)
    (named : name = [] → leaf base ≠ []) :
    tree.resolve follow (join base name ++ suffix) =
      tree.resolve follow (push (anchorPath base name) (anchorName base name) ++ suffix) := by
  unfold join anchorPath anchorName
  split
  next empty =>
    have filled := named empty
    have plain : (leaf base).head? ≠ some '/' := fun slash =>
      leaf_no_slash base (List.mem_of_head? slash)
    have whole := stem_append_leaf base
    split
    next none_ =>
      rw [none_, List.nil_append] at whole
      rw [whole] at plain filled ⊢
      obtain ⟨first, rest, rfl⟩ := List.exists_cons_of_ne_nil filled
      have start : startOf tree.cwd (first :: rest ++ suffix) = tree.cwd := if_neg plain
      have pushed : push dot (first :: rest) ++ suffix = dot ++ '/' :: (first :: rest ++ suffix) := by
        rw [push, if_neg plain, if_neg (by decide), List.append_assoc, List.cons_append]
      rw [pushed, Tree.resolve, if_neg (by simp), Tree.resolve, if_neg (by simp), start,
        segments_slash dot _ (by simp), show parts dot = [dot] by decide, List.singleton_append,
        Tree.walk_cons, if_pos rfl]
      rfl
    next some_ =>
      obtain ⟨front, ended⟩ := (stem_cases base).resolve_left some_
      rw [push, if_neg plain, if_pos (.inr (by simp [ended])), whole]
  next => rfl

/-- A side file lies beside its file. -/
theorem sidePlace_dropLast (root : Location) (name suffix : Path) :
    (sidePlace root name suffix).dropLast = root ++ clean (parts (stem name)) :=
  List.dropLast_concat

/-- A place above a side file is above its file too. -/
theorem prefix_sidePlace {root place : Location} {name suffix : Path}
    (above : place <+: sidePlace root name suffix) :
    place = sidePlace root name suffix ∨
      place <+: root ++ clean (parts (stem name)) := by
  rcases List.prefix_concat_iff.mp above with same | shorter
  · exact .inl same
  · exact .inr shorter

/-- A name without a last segment is the place of its own directory. -/
theorem entryPlace_eq (root : Location) (name : Path) :
    entryPlace root name = root ++ clean (parts (stem name)) ++
      if leaf name = [] ∨ leaf name = dot then [] else [leaf name] := by
  rw [entryPlace, parts_split, clean_append, List.append_assoc]
  congr 2
  by_cases empty : leaf name = []
  · simp [empty, clean]
  · by_cases dotted : leaf name = dot
    · simp [dotted, clean, dot]
    · simp [empty, dotted, clean]

/-- A file is not its side file. -/
theorem entryPlace_ne_sidePlace (root : Location) (name : Path) {suffix : Path}
    (side : SideSuffix suffix) : entryPlace root name ≠ sidePlace root name suffix := by
  have long := side.long
  rw [entryPlace_eq, sidePlace]
  intro same
  have last := List.append_cancel_left same
  split at last
  next => cases last
  next =>
    have size := congrArg List.length (List.singleton_inj.mp last)
    rw [List.length_append] at size
    omega

/-- The two kinds of side files differ. -/
theorem download_ne_digest (root : Location) (first second : Path) :
    sidePlace root first downloadSuffix ≠ sidePlace root second digestSuffix := by
  intro same
  have last := congrArg List.getLast? same
  simp only [sidePlace, List.getLast?_concat, Option.some.injEq] at last
  have letter := congrArg List.getLast? last
  rw [List.getLast?_append, List.getLast?_append, show downloadSuffix.getLast? = some 'd' by decide,
    show digestSuffix.getLast? = some 't' by decide] at letter
  simp at letter

theorem slot_final_ne_download (root : Location) (base name : Path) :
    (slot root base name).final ≠ (slot root base name).download :=
  entryPlace_ne_sidePlace root _ downloadSuffix_side

theorem slot_final_ne_digest (root : Location) (base name : Path) :
    (slot root base name).final ≠ (slot root base name).digest :=
  entryPlace_ne_sidePlace root _ digestSuffix_side

theorem slot_download_ne_digest (root : Location) (base first second : Path) :
    (slot root base first).download ≠ (slot root base second).digest :=
  download_ne_digest root _ _

/-- The files of a slot lie below the base. -/
theorem slot_below (root : Location) (base name : Path) :
    root <+: (slot root base name).final ∧ root <+: (slot root base name).download ∧
      root <+: (slot root base name).digest :=
  ⟨entryPlace_below _ _, sidePlace_below _ _ _, sidePlace_below _ _ _⟩

/-- These are the places of the side files of a list. -/
def SidePlace (root : Location) (base : Path) (files : List FileEntry) (place : Location) : Prop :=
  ∃ entry ∈ files, place = (slot root base entry.name).download ∨
    place = (slot root base entry.name).digest

/-- The files of two entries lie in no common path. -/
def NotNested (root : Location) (base : Path) (first second : FileEntry) : Prop :=
  ¬ (slot root base first.name).final <+: (slot root base second.name).final ∧
    ¬ (slot root base second.name).final <+: (slot root base first.name).final

instance (root : Location) (base : Path) (first second : FileEntry) :
    Decidable (NotNested root base first second) := inferInstanceAs (Decidable (_ ∧ _))

instance (root : Location) (base : Path) : Std.Symm (NotNested root base) :=
  ⟨fun _ _ apart => ⟨apart.2, apart.1⟩⟩

/-- No side file of the list lies below a listed file that has its download beside it. -/
theorem sidePlace_clear {root : Location} {base : Path} {files : List FileEntry}
    (separate : files.Pairwise (NotNested root base)) {entry : FileEntry} (listed : entry ∈ files)
    (beside : ¬ (slot root base entry.name).final <+: (slot root base entry.name).download)
    (place : Location) (side : SidePlace root base files place)
    (below : (slot root base entry.name).final <+: place) :
    place = (slot root base entry.name).final := by
  obtain ⟨other, member, kind⟩ := side
  have parent : ∀ suffix, place = sidePlace root (anchorName base other.name) suffix →
      place ≠ (slot root base entry.name).final →
      (slot root base entry.name).final <+:
        root ++ clean (parts (stem (anchorName base other.name))) := by
    rintro suffix rfl different
    exact (prefix_sidePlace below).resolve_left different.symm
  by_contra different
  have above : (slot root base entry.name).final <+:
      root ++ clean (parts (stem (anchorName base other.name))) := by
    rcases kind with same | same
    · exact parent downloadSuffix same different
    · exact parent digestSuffix same different
  by_cases same : entry = other
  · subst same
    exact beside (above.trans (List.prefix_append _ _))
  · have apart := separate.forall listed member same
    refine apart.1 (above.trans ?_)
    rw [slot, entryPlace_eq]
    exact List.prefix_append _ _

/-- The name meets no link below the base directory, and neither do its side files. -/
structure Located (origin : Tree) (root : Location) (base name : Path) : Prop where
  anchor : BaseAt origin (anchorPath base name) root
  relative : Relative (anchorName base name)
  unlinked : origin.Unlinked root (clean (parts (anchorName base name)))
  sides : ∀ place target, origin.node place = some (.symlink target) →
    ¬ (slot root base name).download <+: place ∧ ¬ (slot root base name).digest <+: place

/-- The base path leads to the directory in this tree. -/
def Anchored (tree : Tree) (root : Location) (base name : Path) : Prop :=
  ∃ left, tree.Reaches maxLinks (startOf tree.cwd (anchorPath base name))
    (parts (anchorPath base name)) left root

section Places

variable {origin tree next : Tree} {root place : Location} {base name : Path}

/-- An anchor stays one. -/
theorem Anchored.mono {own : Location → Prop} {touched : List Location}
    (anchored : Anchored tree root base name) (changes : Changes root own touched tree next) :
    Anchored next root base name := by
  obtain ⟨left, reaches⟩ := anchored
  refine ⟨left, ?_⟩
  rw [changes.cwd]
  exact reaches.mono changes.dirs changes.links

/-- An empty name has a base with a name. -/
theorem Located.named (located : Located origin root base name) (empty : name = []) :
    leaf base ≠ [] := by
  have nonempty := located.relative.nonempty
  rwa [anchorName, if_pos empty] at nonempty

/-- The base leads to its place. -/
theorem Located.leads (located : Located origin root base name) (linked : Linked origin tree) :
    Leads tree (anchorPath base name) root :=
  located.anchor.leads linked.links linked.cwd

/-- A listed name passes no link. -/
theorem Located.unlinkedNow (located : Located origin root base name) (linked : Linked origin tree) :
    tree.Unlinked root (clean (parts (anchorName base name))) :=
  located.unlinked.mono fun place target => (linked.links place target).mpr

/-- A name leads to its own place. -/
theorem Located.resolveFinal (located : Located origin root base name) (linked : Linked origin tree)
    {follow : Bool} (resolved : tree.resolve follow (join base name) = .ok place) :
    place = (slot root base name).final := by
  rw [← List.append_nil (join base name), resolve_join tree follow base name [] located.named,
    List.append_nil] at resolved
  exact resolve_entry (located.leads linked) located.relative (located.unlinkedNow linked) resolved

/-- A side file resolves to its place, and its path passes the base directory. -/
theorem Located.resolveSide (located : Located origin root base name) (linked : Linked origin tree)
    {suffix : Path} (side : SideSuffix suffix)
    (free : ∀ target, tree.node (sidePlace root (anchorName base name) suffix) ≠
      some (.symlink target))
    {follow : Bool} (resolved : tree.resolve follow (join base name ++ suffix) = .ok place) :
    place = sidePlace root (anchorName base name) suffix ∧ Anchored tree root base name := by
  rw [resolve_join tree follow base name suffix located.named] at resolved
  have leads := located.leads linked
  have filled : anchorName base name ++ suffix ≠ [] := by simp [located.relative.nonempty]
  obtain ⟨left, reaches, _⟩ := resolve_below leads located.relative.relative filled resolved
  exact ⟨resolve_side leads located.relative side (located.unlinkedNow linked) (fun _ => free)
    resolved, left, reaches⟩

/-- A download is not a link. -/
theorem Located.downloadFree (located : Located origin root base name)
    (linked : Linked origin tree) (target : Path) :
    tree.node (slot root base name).download ≠ some (.symlink target) := fun link =>
  (located.sides _ target ((linked.links _ target).mpr link)).1 (List.prefix_refl _)

theorem Located.digestFree (located : Located origin root base name)
    (linked : Linked origin tree) (target : Path) :
    tree.node (slot root base name).digest ≠ some (.symlink target) := fun link =>
  (located.sides _ target ((linked.links _ target).mpr link)).2 (List.prefix_refl _)

theorem Located.finalFree (located : Located origin root base name) (linked : Linked origin tree)
    (target : Path) : tree.node (slot root base name).final ≠ some (.symlink target) := by
  intro link
  have old := (linked.links _ target).mpr link
  by_cases top : clean (parts (anchorName base name)) = []
  · rw [slot, entryPlace, top, List.append_nil, located.anchor.directory] at old
    cases old
  · exact located.unlinked.last top target old

/-- A download leads to its own place. -/
theorem Located.resolveDownload (located : Located origin root base name)
    (linked : Linked origin tree) {follow : Bool}
    (resolved : tree.resolve follow (downloadPath (join base name)) = .ok place) :
    place = (slot root base name).download ∧ Anchored tree root base name :=
  located.resolveSide linked downloadSuffix_side (located.downloadFree linked) resolved

/-- A digest leads to its own place. -/
theorem Located.resolveDigest (located : Located origin root base name)
    (linked : Linked origin tree) {follow : Bool}
    (resolved : tree.resolve follow (digestPath (join base name)) = .ok place) :
    place = (slot root base name).digest ∧ Anchored tree root base name :=
  located.resolveSide linked digestSuffix_side (located.digestFree linked) resolved

/-- A present entry is found under its path. -/
theorem Located.find (located : Located origin root base name)
    (anchored : Anchored tree root base name) (follow : Bool) (suffix : Path)
    (plain : '/' ∉ suffix) {segment : Segment} (last : segment = leaf (anchorName base name) ++ suffix)
    (filled : segment ≠ []) (notDot : segment ≠ dot) (notDotdot : segment ≠ dotdot) {entry : Node}
    (present : tree.node (root ++ clean (parts (stem (anchorName base name))) ++ [segment]) =
      some entry)
    (unlinked : ∀ target, entry ≠ .symlink target) :
    tree.resolve follow (join base name ++ suffix) =
      .ok (root ++ clean (parts (stem (anchorName base name))) ++ [segment]) := by
  obtain ⟨left, reaches⟩ := anchored
  have relative := located.relative
  obtain ⟨front, shape, sameParts, start⟩ := push_shape (anchorPath base name)
    (anchorName base name) located.anchor.nonempty relative.relative
  have more : anchorName base name ++ suffix ≠ [] := by simp [relative.nonempty]
  have route : segments (push (anchorPath base name) (anchorName base name) ++ suffix) =
      parts (anchorPath base name) ++ (parts (stem (anchorName base name)) ++ [segment]) := by
    rw [shape, List.append_assoc, List.cons_append, segments_slash front _ more, sameParts,
      segments_suffix _ suffix plain (last ▸ filled), last]
  have above : dotdot ∉ parts (stem (anchorName base name)) := by
    intro member
    have below := relative.below
    rw [parts_split] at below
    exact below (by simp [member])
  have directory := tree.above present (by simp)
  rw [resolve_join tree follow base name suffix located.named, Tree.resolve,
    if_neg (by simp [shape]), start tree.cwd suffix, route, reaches.walk follow _ (.inl (by simp)),
    (tree.reaches_above left root _ above directory).walk follow _ (.inl (by simp)),
    Tree.walk_cons, if_neg notDot, if_neg notDotdot, present]
  cases entry with
  | file inode => rfl
  | dir => exact Tree.walk_nil ..
  | symlink target => exact absurd rfl (unlinked target)

/-- A side file is found at its place. -/
theorem Located.findSide (located : Located origin root base name)
    (anchored : Anchored tree root base name) (follow : Bool) {suffix : Path}
    (side : SideSuffix suffix) {entry : Node}
    (present : tree.node (sidePlace root (anchorName base name) suffix) = some entry)
    (unlinked : ∀ target, entry ≠ .symlink target) :
    tree.resolve follow (join base name ++ suffix) =
      .ok (sidePlace root (anchorName base name) suffix) := by
  obtain ⟨notDot, notDotdot⟩ := side.segment (leaf (anchorName base name))
  have filled : leaf (anchorName base name) ++ suffix ≠ [] := by
    intro empty
    have long := side.long
    rw [(List.append_eq_nil_iff.mp empty).2] at long
    simp at long
  exact located.find anchored follow suffix side.plain rfl filled notDot notDotdot present unlinked

theorem Located.findDigest (located : Located origin root base name) (linked : Linked origin tree)
    (anchored : Anchored tree root base name) (follow : Bool) {entry : Node}
    (present : tree.node (slot root base name).digest = some entry) :
    tree.resolve follow (digestPath (join base name)) = .ok (slot root base name).digest :=
  located.findSide anchored follow digestSuffix_side present
    fun target same => located.digestFree linked target (same ▸ present)

/-- A file beside its download is found under its path. -/
theorem Located.findFinal (located : Located origin root base name)
    (anchored : Anchored tree root base name) {inode : Nat}
    (present : tree.node (slot root base name).final = some (.file inode))
    (parent : tree.node (slot root base name).download.dropLast = some .dir) :
    tree.resolve true (join base name) = .ok (slot root base name).final := by
  have found : ∀ proper : ¬ (leaf (anchorName base name) = [] ∨ leaf (anchorName base name) = dot),
      tree.resolve true (join base name ++ []) = .ok (root ++
        clean (parts (stem (anchorName base name))) ++ [leaf (anchorName base name)]) := by
    intro proper
    obtain ⟨filled, notDot⟩ := not_or.mp proper
    have notDotdot : leaf (anchorName base name) ≠ dotdot := by
      intro same
      have below := located.relative.below
      rw [parts_split, if_neg filled, same] at below
      simp at below
    rw [slot, entryPlace_eq, if_neg proper] at present
    exact located.find anchored true [] (by simp) (by simp) filled notDot notDotdot present (by simp)
  rw [slot, sidePlace_dropLast] at parent
  rw [slot, entryPlace_eq] at present ⊢
  split at present
  next =>
    rw [List.append_nil, parent] at present
    cases present
  next proper =>
    rw [List.append_nil] at found
    rw [if_neg proper, found proper]

/-- The path of a listed file reads the file at its place. -/
theorem Located.fileBytes (located : Located origin root base name) (linked : Linked origin tree)
    (anchored : Anchored tree root base name)
    (parent : tree.node (slot root base name).download.dropLast = some .dir) :
    tree.fileBytes (join base name) = tree.fileAt (slot root base name).final := by
  cases stored : tree.fileAt (slot root base name).final with
  | some bytes =>
      obtain ⟨inode, present, data⟩ := Tree.fileAt_some stored
      simp [Tree.fileBytes, Tree.openRead, located.findFinal anchored present parent, present, data]
  | none =>
      unfold Tree.fileBytes Tree.openRead
      cases resolved : tree.resolve true (join base name) with
      | error fault => rfl
      | ok place =>
          obtain rfl := located.resolveFinal linked resolved
          cases present : tree.node (slot root base name).final with
          | none => simp [present]
          | some entry =>
              cases entry with
              | dir => simp [present]
              | symlink target => simp [present]
              | file inode =>
                  rw [Tree.fileAt_file present] at stored
                  cases stored

end Places

end SubnetDesk.FileTransfer
