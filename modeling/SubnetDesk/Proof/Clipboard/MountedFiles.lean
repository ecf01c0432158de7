import SubnetDesk.Proof.Clipboard.DescriptorRoundTrip
import SubnetDesk.Proof.Clipboard.FuseTree

namespace SubnetDesk.Clipboard.FileList

open FileTree FileTransfer

variable {now : Nat} {file : FileDescription} {files : List FileDescription}
  {growth after : Growth} {node : FuseNode} {tree : List FuseNode}

/-- The components of the name of a description. -/
def FileDescription.route (file : FileDescription) : List Segment := file.name.splitOn '/'

/-- A safe name has plain components. -/
theorem Inside.components_eq {name : Path} (inside : Inside name) :
    FileTransfer.components name = (name.splitOn '/').map Component.normal := by
  have first : (name.splitOn '/').head? ≠ some dot := by
    intro same
    exact (inside.components dot (List.mem_of_head? same)).2.1 rfl
  have whole : (name.splitOn '/').filter (fun segment => segment ≠ [] ∧ segment ≠ dot) =
      name.splitOn '/' := by
    rw [List.filter_eq_self]
    intro segment member
    obtain ⟨nonempty, plain, -⟩ := inside.components segment member
    simp [nonempty, plain]
  unfold FileTransfer.components
  rw [if_neg inside.relative, if_neg first, whole, List.nil_append]
  apply List.map_congr_left
  intro segment member
  exact if_neg (inside.components segment member).2.2

/-- A path is at the top, or under a directory that is listed before it. -/
def Follows (files : List FileDescription) (before : Nat) (file : FileDescription) : Prop :=
  file.route.dropLast = [] ∨ ∃ above < before, ∃ directory : FileDescription,
    files[above]? = some directory ∧ directory.kind = .directory ∧
      directory.route = file.route.dropLast

def Closed (files : List FileDescription) : Prop :=
  ∀ (place : Nat) (file : FileDescription), files[place]? = some file → Follows files place file

/-- The map finds the root and every directory of the list. -/
def Finds (files : List FileDescription) (map : SubRootMap) : Prop :=
  map [] = some 1 ∧ ∀ (place : Nat) (directory : FileDescription),
    files[place]? = some directory → directory.kind = .directory →
      map (directory.route.map .normal) = some (place + 2)

/-- The parent of a path is the root for a path at the top, and else the directory above it. -/
def Above (files : List FileDescription) (file : FileDescription) (parent : Nat) : Prop :=
  parent = 1 ∧ file.route.dropLast = [] ∨
    ∃ (above : Nat) (directory : FileDescription), parent = above + 2 ∧
      files[above]? = some directory ∧ directory.kind = .directory ∧
        directory.route = file.route.dropLast

/-- Every node stands under the directory above its path. -/
def Placed (files : List FileDescription) (tree : List FuseNode) : Prop :=
  ∀ (place : Nat) (file : FileDescription), files[place]? = some file →
    ∃ node parent, tree[place + 1]? = some node ∧ node.parent = some parent ∧ Above files file parent

theorem route_ne_nil (file : FileDescription) : file.route ≠ [] := splitOn_ne_nil file.name

theorem parentComponents_route (file : FileDescription) :
    parentComponents (file.route.map .normal) = some (file.route.dropLast.map .normal) := by
  unfold parentComponents
  rw [List.getLast?_map, List.getLast?_eq_getLast_of_ne_nil (route_ne_nil file), Option.map_some,
    List.map_dropLast]

theorem fileNameOf_route (file : FileDescription) :
    fileNameOf (file.route.map .normal) = some (file.route.getLast (route_ne_nil file)) := by
  unfold fileNameOf
  rw [List.getLast?_map, List.getLast?_eq_getLast_of_ne_nil (route_ne_nil file), Option.map_some]

/-- At the start nothing is found. -/
theorem Finds.start : Finds [] (Growth.start now).subRootMap :=
  ⟨rfl, fun _ _ found => by simp at found⟩

theorem getElem?_concat_old {first : List FileDescription} {place : Nat} {old last : FileDescription}
    (found : (first ++ [last])[place]? = some old) :
    first[place]? = some old ∨ place = first.length ∧ old = last := by
  by_cases inside : place < first.length
  · rw [List.getElem?_append_left inside] at found
    exact .inl found
  · rw [List.getElem?_append_right (Nat.le_of_not_lt inside)] at found
    obtain ⟨here, equal⟩ := List.getElem?_eq_some_iff.mp found
    rw [List.length_singleton] at here
    have same : place = first.length := by omega
    subst same
    simp only [Nat.sub_self, List.getElem_singleton] at equal
    exact .inr ⟨rfl, equal.symm⟩

/-- The loop puts a file under the directory above it. -/
theorem Finds.parentInode {first : List FileDescription} (finds : Finds first growth.subRootMap)
    (normal : components file.name = file.route.map .normal)
    (follows : Follows first first.length file) : Above first file (growth.parentInode file) := by
  unfold Growth.parentInode
  rw [normal, parentComponents_route]
  cases follows with
  | inl top =>
      rw [top]
      refine .inl ⟨?_, top⟩
      simp only [List.map_nil, finds.1, Option.getD_some]
  | inr under =>
      obtain ⟨above, -, directory, found, kind, equal⟩ := under
      refine .inr ⟨above, directory, ?_, found, kind, equal⟩
      rw [← equal]
      simp only [finds.2 above directory found kind, Option.getD_some]

/-- An added file is found. -/
theorem Finds.add {first : List FileDescription} (finds : Finds first growth.subRootMap)
    (length : growth.tree.length = first.length + 1)
    (normal : components file.name = file.route.map .normal)
    (fresh : ∀ old ∈ first, old.route ≠ file.route) (added : growth.add now file = .ok after) :
    Finds (first ++ [file]) after.subRootMap := by
  have injective : ∀ {one other : List Segment},
      one.map Component.normal = other.map Component.normal → one = other := by
    intro one other same
    exact List.map_injective_iff.mpr (fun _ _ => Component.normal.inj) same
  unfold Growth.add at added
  dsimp only at added
  split at added
  next => cases added
  next baseName _ =>
    cases added
    dsimp only
    rw [normal]
    constructor
    · split
      next =>
        rw [Function.update_of_ne, finds.1]
        intro empty
        exact route_ne_nil file (List.map_eq_nil_iff.mp empty.symm)
      next => exact finds.1
    · intro place directory found kind
      cases getElem?_concat_old found with
      | inl old =>
          have different := fresh directory (List.mem_of_getElem? old)
          split
          next =>
            rw [Function.update_of_ne (fun same => different (injective same))]
            exact finds.2 place directory old kind
          next => exact finds.2 place directory old kind
      | inr last =>
          obtain ⟨rfl, rfl⟩ := last
          rw [if_pos kind, Function.update_self, length]
          rfl

/-- A directory stays above its files. -/
theorem Above.append {first : List FileDescription} {parent : Nat} (above : Above first file parent)
    (last : FileDescription) : Above (first ++ [last]) file parent := by
  refine above.imp_right ?_
  rintro ⟨place, directory, equal, found, rest⟩
  obtain ⟨inside, -⟩ := List.getElem?_eq_some_iff.mp found
  exact ⟨place, directory, equal, by rwa [List.getElem?_append_left inside], rest⟩

/-- An added file is at its place. -/
theorem Placed.add {first : List FileDescription} (placed : Placed first growth.tree)
    (length : growth.tree.length = first.length + 1)
    (above : Above first file (growth.parentInode file))
    (added : growth.add now file = .ok after) : Placed (first ++ [file]) after.tree := by
  unfold Growth.add at added
  dsimp only at added
  split at added
  next => cases added
  next baseName _ =>
    cases added
    intro place other found
    cases getElem?_concat_old found with
    | inl old =>
        obtain ⟨node, parent, here, up, fits⟩ := placed place other old
        obtain ⟨inside, -⟩ := List.getElem?_eq_some_iff.mp here
        refine ⟨_, parent, by rw [grow_old inside, here]; rfl, ?_, fits.append file⟩
        split
        next => exact up
        next => exact up
    | inr last =>
        obtain ⟨rfl, rfl⟩ := last
        exact ⟨_, _, by rw [← length]; exact grow_new _ _ _ _, rfl, above.append other⟩

/-- A file with plain components is added. -/
theorem Growth.add_ok (normal : components file.name = file.route.map .normal) :
    ∃ after, growth.add now file = .ok after := by
  unfold Growth.add
  rw [normal, fileNameOf_route]
  exact ⟨_, rfl⟩

/-- A closed list of different normal paths gives a tree in which every node is under its directory. -/
theorem placed_foldlM (rest : List FileDescription) {first : List FileDescription}
    (inside : ∀ file ∈ rest, Inside file.name) (closed : Closed (first ++ rest))
    (distinct : ((first ++ rest).map FileDescription.route).Nodup)
    (grown : Grown first growth.tree) (mapped : Mapped first growth.subRootMap)
    (finds : Finds first growth.subRootMap) (placed : Placed first growth.tree) :
    ∃ after, rest.foldlM (Growth.add now) growth = .ok after ∧
      Placed (first ++ rest) after.tree := by
  induction rest generalizing first growth with
  | nil => exact ⟨growth, rfl, by rwa [List.append_nil]⟩
  | cons file rest ih =>
      rw [List.forall_mem_cons] at inside
      have normal : components file.name = file.route.map .normal := inside.1.components_eq
      obtain ⟨next, step⟩ : ∃ next, growth.add now file = .ok next := Growth.add_ok normal
      have whole : first ++ file :: rest = (first ++ [file]) ++ rest := by
        rw [List.append_assoc, List.singleton_append]
      have follows : Follows first first.length file := by
        have here : (first ++ file :: rest)[first.length]? = some file := by simp
        refine (closed first.length file here).imp_right ?_
        rintro ⟨above, early, directory, found, fits⟩
        rw [List.getElem?_append_left early] at found
        exact ⟨above, early, directory, found, fits⟩
      have fresh : ∀ old ∈ first, old.route ≠ file.route := by
        intro old member same
        rw [List.map_append, List.map_cons] at distinct
        have apart := (List.nodup_append.mp distinct).2.2
        exact apart old.route (List.mem_map_of_mem member) file.route List.mem_cons_self same
      rw [whole] at closed distinct
      obtain ⟨after, built, under⟩ := ih inside.2 closed distinct (grown.add mapped step)
        (mapped.add grown.length step) (finds.add grown.length normal fresh step)
        (placed.add grown.length (finds.parentInode normal follows) step)
      refine ⟨after, ?_, by rwa [whole]⟩
      rw [List.foldlM_cons, step]
      exact built

/-- A closed list is built. -/
theorem buildTree_placed (inside : ∀ file ∈ files, Inside file.name) (closed : Closed files)
    (distinct : (files.map FileDescription.route).Nodup) :
    ∃ tree, buildTree now files = .ok tree ∧ Grown files tree ∧ Placed files tree := by
  have start : Placed [] (Growth.start now).tree := fun _ _ found => by simp at found
  obtain ⟨after, built, placed⟩ : ∃ after,
      files.foldlM (Growth.add now) (Growth.start now) = .ok after ∧ Placed ([] ++ files) after.tree :=
    placed_foldlM files inside closed distinct Grown.start Mapped.start Finds.start start
  refine ⟨after.tree, ?_, ?_, placed⟩
  · rw [buildTree, built]
    rfl
  · exact grown_foldlM files Grown.start Mapped.start built

/-- An answer of a lookup is a file of the list under that parent. -/
theorem lookup_ok (grown : Grown files tree) {parent : Nat} {name : OsSegment}
    {attributes : InodeAttributes} (found : lookup tree parent name = .ok attributes) :
    OsSegment.len name ≤ maxNameLen ∧
      ∃ place file node, files[place]? = some file ∧ tree[place + 1]? = some node ∧
        Stands place file node ∧ attributes = node.attributes ∧ name = osName node.name := by
  unfold lookup at found
  split at found
  next => cases found
  next short =>
    refine ⟨Nat.le_of_not_lt short, ?_⟩
    split at found
    next => cases found
    next entry here =>
      split at found
      next => cases found
      next =>
        split at found
        next child hit =>
          cases found
          have named := List.find?_some hit
          rw [decide_eq_true_eq] at named
          obtain ⟨inode, member, atInode⟩ := List.mem_filterMap.mp (List.mem_of_find?_eq_some hit)
          rw [grown.linked _ _ here, mem_childrenOf] at member
          obtain ⟨place, other, rfl, same, above⟩ := member
          rw [Nat.add_sub_cancel, same] at atInode
          cases atInode
          cases place with
          | zero =>
              obtain ⟨root, top, none_, -⟩ := grown.root
              cases same.symm.trans top
              cases above.symm.trans none_
          | succ place =>
              obtain ⟨inside, -⟩ := List.getElem?_eq_some_iff.mp same
              rw [grown.length] at inside
              have listed : files[place]? = some files[place] :=
                List.getElem?_eq_getElem (by omega)
              obtain ⟨node, again, stands, -⟩ := grown.stands place _ listed
              cases same.symm.trans again
              exact ⟨place, _, _, listed, same, stands, rfl, named.symm⟩
        next => cases found

theorem Above.dropLast_eq {one other : FileDescription} {parent : Nat}
    (first : Above files one parent) (second : Above files other parent) :
    one.route.dropLast = other.route.dropLast := by
  cases first with
  | inl top =>
      cases second with
      | inl alsoTop => rw [top.2, alsoTop.2]
      | inr under =>
          obtain ⟨above, directory, equal, -⟩ := under
          omega
  | inr under =>
      obtain ⟨above, directory, equal, found, kind, same⟩ := under
      cases second with
      | inl top => omega
      | inr alsoUnder =>
          obtain ⟨place, folder, alsoEqual, alsoFound, -, alsoSame⟩ := alsoUnder
          have here : place = above := by omega
          subst here
          cases found.symm.trans alsoFound
          rw [← same, ← alsoSame]

/-- What a tree of a closed list of different normal paths satisfies. -/
structure Planted (files : List FileDescription) (tree : List FuseNode) : Prop where
  inside : ∀ file ∈ files, Inside file.name
  distinct : (files.map FileDescription.route).Nodup
  grown : Grown files tree
  placed : Placed files tree

namespace Planted

variable (planted : Planted files tree)
include planted

/-- A node has the last component of its path as its name. -/
theorem name_eq {place : Nat} (found : files[place]? = some file)
    (atNode : tree[place + 1]? = some node) :
    node.name = file.route.getLast (route_ne_nil file) := by
  obtain ⟨other, here, stands, -⟩ := planted.grown.stands place file found
  cases atNode.symm.trans here
  have named := stands.2.2.2.2.2
  rw [(planted.inside file (List.mem_of_getElem? found)).components_eq] at named
  exact (Option.some.inj ((fileNameOf_route file).symm.trans named)).symm

/-- Two nodes with one name under one parent are one node. -/
theorem child_unique {first second : Nat} {one other : FuseNode} {parent : Nat}
    (atFirst : tree[first]? = some one) (atSecond : tree[second]? = some other)
    (above : one.parent = some parent) (alsoAbove : other.parent = some parent)
    (same : one.name = other.name) : first = second := by
  have listed : ∀ {place : Nat} {node : FuseNode}, tree[place]? = some node →
      node.parent = some parent → ∃ before file, place = before + 1 ∧
        files[before]? = some file ∧ Above files file parent := by
    intro place node here up
    cases place with
    | zero =>
        obtain ⟨root, top, none_, -⟩ := planted.grown.root
        cases here.symm.trans top
        cases up.symm.trans none_
    | succ place =>
        obtain ⟨inside, -⟩ := List.getElem?_eq_some_iff.mp here
        rw [planted.grown.length] at inside
        have found : files[place]? = some files[place] := List.getElem?_eq_getElem (by omega)
        obtain ⟨again, parent, there, upAgain, fits⟩ := planted.placed place _ found
        cases here.symm.trans there
        cases up.symm.trans upAgain
        exact ⟨place, _, rfl, found, fits⟩
  obtain ⟨place, file, rfl, found, fits⟩ := listed atFirst above
  obtain ⟨place', file', rfl, found', fits'⟩ := listed atSecond alsoAbove
  have routes : file.route = file'.route := by
    rw [← List.dropLast_append_getLast (route_ne_nil file),
      ← List.dropLast_append_getLast (route_ne_nil file'), fits.dropLast_eq fits',
      ← planted.name_eq found atFirst, ← planted.name_eq found' atSecond, same]
  have first : (files.map FileDescription.route)[place]? = some file.route := by
    rw [List.getElem?_map, found, Option.map_some]
  have second : (files.map FileDescription.route)[place']? = some file.route := by
    rw [List.getElem?_map, found', Option.map_some, routes]
  obtain ⟨inside, -⟩ := List.getElem?_eq_some_iff.mp first
  rw [(List.getElem?_inj inside planted.distinct).mp (first.trans second.symm)]

/-- A lookup of the name of a node under its parent finds the node. -/
theorem lookup_child {place : Nat} {parent : Nat} (atNode : tree[place]? = some node)
    (above : node.parent = some parent) (short : OsSegment.len (osName node.name) ≤ maxNameLen) :
    lookup tree parent (osName node.name) = .ok node.attributes := by
  obtain ⟨before, rfl, directory, atParent, kind⟩ : ∃ before, parent = before + 1 ∧
      ∃ directory, tree[before]? = some directory ∧ directory.attributes.kind = .directory := by
    cases place with
    | zero =>
        obtain ⟨root, top, none_, -⟩ := planted.grown.root
        cases atNode.symm.trans top
        cases above.symm.trans none_
    | succ place =>
        obtain ⟨inside, -⟩ := List.getElem?_eq_some_iff.mp atNode
        rw [planted.grown.length] at inside
        obtain ⟨again, there, -, before, up, -, directory, found, kind⟩ :=
          planted.grown.stands place files[place] (List.getElem?_eq_getElem (by omega))
        cases atNode.symm.trans there
        cases above.symm.trans up
        exact ⟨before, rfl, directory, found, kind⟩
  unfold lookup
  rw [if_neg (Nat.not_lt.mpr short)]
  simp only [Nat.add_sub_cancel, atParent, kind, ne_eq, not_true_eq_false, if_false]
  have member : node ∈ directory.children.filterMap fun inode => tree[inode - 1]? := by
    rw [planted.grown.linked _ _ atParent, List.mem_filterMap]
    exact ⟨place + 1, mem_childrenOf.mpr ⟨place, node, rfl, atNode, above⟩, atNode⟩
  cases hit : (directory.children.filterMap fun inode => tree[inode - 1]?).find?
      (fun child => child.name.map OsChar.char = osName node.name) with
  | none =>
      have all := List.find?_eq_none.mp hit node member
      rw [decide_eq_true_eq] at all
      exact absurd rfl all
  | some child =>
      have named := List.find?_some hit
      rw [decide_eq_true_eq] at named
      obtain ⟨inode, inside, atInode⟩ := List.mem_filterMap.mp (List.mem_of_find?_eq_some hit)
      rw [planted.grown.linked _ _ atParent, mem_childrenOf] at inside
      obtain ⟨other, again, rfl, there, up⟩ := inside
      rw [Nat.add_sub_cancel, there] at atInode
      cases atInode
      have same : child.name = node.name :=
        List.map_injective_iff.mpr (fun _ _ => OsChar.char.inj) named
      have here := planted.child_unique there atNode up above same
      subst here
      cases there.symm.trans atNode
      rfl

end Planted

theorem lookupPath_append (first second : List OsSegment) (inode : Nat) :
    lookupPath tree inode (first ++ second) =
      match lookupPath tree inode first with
      | .error errno => .error errno
      | .ok reached => lookupPath tree reached second := by
  induction first generalizing inode with
  | nil => rfl
  | cons name rest ih =>
      rw [List.cons_append, lookupPath, lookupPath]
      cases lookup tree inode name with
      | error errno => rfl
      | ok attributes => exact ih attributes.inode

/-- The components of a path lead to the node of the file. -/
theorem Planted.lookupPath_route (planted : Planted files tree)
    (short : ∀ file ∈ files, ∀ segment ∈ file.route, OsSegment.len (osName segment) ≤ maxNameLen)
    {place : Nat} (found : files[place]? = some file) :
    lookupPath tree 1 (file.route.map osName) = .ok (place + 2) := by
  induction depth : file.route.length using Nat.strong_induction_on generalizing place file with
  | h depth ih =>
      obtain ⟨node, parent, atNode, above, fits⟩ := planted.placed place file found
      have last := planted.name_eq found atNode
      have length := short file (List.mem_of_getElem? found) node.name (by
        rw [last]
        exact List.getLast_mem _)
      obtain ⟨again, there, stands, -⟩ := planted.grown.stands place file found
      cases atNode.symm.trans there
      have front : lookupPath tree 1 (file.route.dropLast.map osName) = .ok parent := by
        cases fits with
        | inl top =>
            rw [top.1, top.2]
            rfl
        | inr under =>
            obtain ⟨before, directory, rfl, listed, -, equal⟩ := under
            rw [← equal]
            refine ih directory.route.length ?_ listed rfl
            have some_ := List.length_pos_of_ne_nil (route_ne_nil file)
            rw [equal, List.length_dropLast]
            omega
      have split : file.route.map osName =
          file.route.dropLast.map osName ++ [osName node.name] := by
        rw [last, ← List.map_singleton, ← List.map_append,
          List.dropLast_append_getLast (route_ne_nil file)]
      rw [split, lookupPath_append, front]
      simp only [lookupPath, planted.lookup_child atNode above length, stands.2.2.1]

/-- A path that leads to a node has short components, each of them the name of a node. -/
theorem lookupPath_ok (grown : Grown files tree) {segments : List OsSegment} {inode reached : Nat}
    (found : lookupPath tree inode segments = .ok reached) :
    ∀ segment ∈ segments, OsSegment.len segment ≤ maxNameLen ∧
      ∃ file ∈ files, ∃ name, fileNameOf (components file.name) = some name ∧
        segment = osName name := by
  induction segments generalizing inode with
  | nil => nofun
  | cons segment rest ih =>
      rw [lookupPath] at found
      split at found
      next => cases found
      next attributes hit =>
        obtain ⟨short, place, file, node, listed, -, stands, -, named⟩ := lookup_ok grown hit
        rw [List.forall_mem_cons]
        exact ⟨⟨short, file, List.mem_of_getElem? listed, node.name, stands.2.2.2.2.2, named⟩,
          ih found⟩

end SubnetDesk.Clipboard.FileList
