import SubnetDesk.Proof.Clipboard.MountedFiles

namespace SubnetDesk.Clipboard.FileList

open FileTree FileTransfer

variable {file : LocalFile} {files : List LocalFile}

def separator : OsChar := .char '/'

/-- The components of the relative path of a file. -/
def LocalFile.route (file : LocalFile) : List OsSegment := file.relativePath.splitOn separator

/-- The name of a directory entry is not empty and has no separator. -/
def OsSegment.Proper (name : OsSegment) : Prop := name ≠ [] ∧ separator ∉ name

def FileSystem.Proper (system : FileSystem) : Prop :=
  ∀ path names, system.readDir path = some names → ∀ name ∈ names, OsSegment.Proper name

def FollowsFile (files : List LocalFile) (before : Nat) (file : LocalFile) : Prop :=
  file.route.dropLast = [] ∨ ∃ above < before, ∃ directory : LocalFile,
    files[above]? = some directory ∧ directory.isDir = true ∧
      directory.route = file.route.dropLast

def ClosedFiles (files : List LocalFile) : Prop :=
  ∀ (place : Nat) (file : LocalFile), files[place]? = some file → FollowsFile files place file

/-- A file below a listed directory fits. -/
theorem ClosedFiles.concat (closed : ClosedFiles files)
    (follows : file.route.dropLast = [] ∨
      ∃ directory ∈ files, directory.isDir = true ∧ directory.route = file.route.dropLast) :
    ClosedFiles (files ++ [file]) := by
  intro place other found
  by_cases old : place < files.length
  · rw [List.getElem?_append_left old] at found
    refine (closed place other found).imp_right ?_
    rintro ⟨above, early, directory, listed, fits⟩
    exact ⟨above, early, directory, by rwa [List.getElem?_append_left (by omega)], fits⟩
  · rw [List.getElem?_append_right (Nat.le_of_not_lt old)] at found
    obtain ⟨inside, equal⟩ := List.getElem?_eq_some_iff.mp found
    rw [List.length_singleton] at inside
    have last : place = files.length := by omega
    subst last
    simp only [Nat.sub_self, List.getElem_singleton] at equal
    subst equal
    refine follows.imp_right ?_
    rintro ⟨directory, member, fits⟩
    obtain ⟨above, here, rfl⟩ := List.mem_iff_getElem.mp member
    exact ⟨above, here, files[above], by
      rw [List.getElem?_append_left here, List.getElem?_eq_getElem here], fits⟩

/-- A path below a root has the components behind the root. -/
theorem LocalFile.tryOpen_route {metadata : OsPath → Option Metadata} {root : OsPath}
    {rest : List OsSegment} (some_ : rest ≠ []) (proper : ∀ name ∈ rest, OsSegment.Proper name)
    (opened : tryOpen metadata root { root with components := root.components ++ rest } = .ok file) :
    file.route = rest ∧ ∃ mt, metadata { root with components := root.components ++ rest } = some mt ∧
      file.isDir = mt.isDir := by
  have stripped : OsPath.stripPrefix { root with components := root.components ++ rest } root =
      some ⟨false, rest⟩ := by
    unfold OsPath.stripPrefix
    rw [if_pos ⟨rfl, List.prefix_append _ _⟩, List.drop_left]
  unfold tryOpen validatedDescriptorName at opened
  rw [stripped] at opened
  simp only [Bool.false_eq_true, if_false] at opened
  split at opened
  next => cases opened
  next relativePath descriptorName validated =>
    split at validated
    next => cases validated
    next =>
      split at validated
      next => cases validated
      next =>
        cases validated
        split at opened
        next => cases opened
        next mt found =>
          cases opened
          refine ⟨?_, mt, found, rfl⟩
          have text : (OsPath.text ⟨false, rest⟩).splitOn separator = rest := by
            simp only [OsPath.text, Bool.false_eq_true, if_false, List.nil_append]
            exact List.splitOn_intercalate separator (fun name member => (proper name member).2)
              some_
          exact text

/-- A walk extends a closed list to a closed one. -/
theorem constrFileLst_closed {system : FileSystem} (normal : system.Proper) {root : OsPath}
    (fuel : Nat) {rest : List OsSegment} {listing after : Listing}
    (listed : constrFileLst system root fuel { root with components := root.components ++ rest }
      listing = .ok after)
    (some_ : rest ≠ []) (proper : ∀ name ∈ rest, OsSegment.Proper name)
    (closed : ClosedFiles listing.fileList)
    (under : rest.dropLast = [] ∨ ∃ directory ∈ listing.fileList, directory.isDir = true ∧
      directory.route = rest.dropLast) :
    ClosedFiles after.fileList ∧ listing.fileList ⊆ after.fileList := by
  induction fuel generalizing rest listing after with
  | zero => cases listed
  | succ fuel ih =>
      rw [constrFileLst] at listed
      split at listed
      next =>
        cases listed
        exact ⟨closed, fun _ member => member⟩
      next =>
        split at listed
        next => cases listed
        next localFile opened =>
          obtain ⟨route, mt, found, kind⟩ := LocalFile.tryOpen_route some_ proper opened
          have added : ClosedFiles (listing.fileList ++ [localFile]) := by
            apply closed.concat
            rwa [route]
          have kept : listing.fileList ⊆ listing.fileList ++ [localFile] :=
            List.subset_append_left _ _
          simp only [found] at listed
          split at listed
          next directory =>
            split at listed
            next => cases listed
            next names entries =>
              have entry := normal _ _ entries
              have here : localFile ∈ listing.fileList ++ [localFile] :=
                List.mem_append_right _ (List.mem_singleton_self _)
              have folder : localFile.isDir = true := kind.trans directory
              clear opened entries closed under
              revert listed
              generalize OsPath.mk _ _ :: listing.visited = visited
              generalize listing.fileList ++ [localFile] = fileList at added kept here ⊢
              intro listed
              induction names generalizing fileList visited with
              | nil =>
                  cases listed
                  exact ⟨added, kept⟩
              | cons name others walk =>
                  rw [List.foldlM_cons] at listed
                  rw [List.forall_mem_cons] at entry
                  have path : OsPath.push { root with components := root.components ++ rest } name =
                      { root with components := root.components ++ (rest ++ [name]) } := by
                    rw [OsPath.push, List.append_assoc]
                  rw [path] at listed
                  cases step : constrFileLst system root fuel
                      { root with components := root.components ++ (rest ++ [name]) }
                      ⟨fileList, visited⟩ with
                  | error error =>
                      rw [step] at listed
                      cases listed
                  | ok next =>
                      rw [step] at listed
                      obtain ⟨nextClosed, grows⟩ := ih step (by simp)
                        (by
                          rw [List.forall_mem_append]
                          exact ⟨proper, by simpa using entry.1⟩) added
                        (.inr ⟨localFile, here, folder, by rw [List.dropLast_concat, route]⟩)
                      exact walk entry.2 _ _ nextClosed (fun _ member => grows (kept member))
                        (grows here) listed
          next =>
            cases listed
            exact ⟨added, kept⟩

/-- A list has the parents of its files. -/
theorem constructFileList_closed {system : FileSystem} (normal : system.Proper) {fuel : Nat}
    {paths : List OsPath}
    (selected : ∀ path ∈ paths, ∀ name ∈ path.components, OsSegment.Proper name)
    (accepted : constructFileList system fuel paths = .ok files) : ClosedFiles files := by
  unfold constructFileList at accepted
  split at accepted
  next => cases accepted
  next =>
    have walk : ∀ paths : List OsPath,
        (∀ path ∈ paths, ∀ name ∈ path.components, OsSegment.Proper name) → ∀ fileList,
        constructFrom system fuel paths fileList = .ok files → ClosedFiles fileList →
          ClosedFiles files := by
      intro paths
      induction paths with
      | nil =>
          intro _ fileList ended closed
          cases ended
          exact closed
      | cons path rest ih =>
          intro selected fileList listed closed
          rw [List.forall_mem_cons] at selected
          rw [constructFrom] at listed
          split at listed
          next => cases listed
          next relativeRoot parent =>
            split at listed
            next => cases listed
            next listing step =>
              unfold OsPath.parent at parent
              split at parent
              next => cases parent
              next some_ =>
                cases parent
                have last := path.components.getLast_mem some_
                have first : constrFileLst system ⟨path.absolute, path.components.dropLast⟩ fuel
                    ⟨path.absolute, path.components.dropLast ++ [path.components.getLast some_]⟩
                    ⟨fileList, []⟩ = .ok listing := by
                  rw [List.dropLast_append_getLast]
                  exact step
                have walked := constrFileLst_closed normal fuel first (by simp)
                  (by simpa using selected.1 _ last) closed (.inl rfl)
                exact ih selected.2 _ listed walked.1
    exact walk paths selected [] accepted (fun _ _ found => by simp at found)

theorem intercalate_map {α β : Type} (f : α → β) (separator : α) (parts : List (List α)) :
    [f separator].intercalate (parts.map (·.map f)) = ([separator].intercalate parts).map f := by
  induction parts with
  | nil => rfl
  | cons first rest ih =>
      cases rest with
      | nil => simp
      | cons second others =>
          rw [List.intercalate_cons_cons, List.map_append, List.map_append, ← ih, List.map_cons,
            List.map_cons, List.intercalate_cons_cons]
          rfl

theorem mem_intercalate {α : Type} {separator letter : α} {parts : List (List α)}
    (member : letter ∈ [separator].intercalate parts) :
    letter = separator ∨ ∃ part ∈ parts, letter ∈ part := by
  induction parts with
  | nil => cases member
  | cons first rest ih =>
      cases rest with
      | nil => exact .inr ⟨first, List.mem_cons_self, by simpa using member⟩
      | cons second others =>
          rw [List.intercalate_cons_cons, List.mem_append, List.mem_append,
            List.mem_singleton] at member
          obtain (within | rfl) | later := member
          · exact .inr ⟨first, List.mem_cons_self, within⟩
          · exact .inl rfl
          · refine (ih later).imp_right ?_
            rintro ⟨part, inside, within⟩
            exact ⟨part, List.mem_cons_of_mem _ inside, within⟩

theorem mem_intercalate_of_mem {α : Type} {separator letter : α} {parts : List (List α)}
    {part : List α} (member : part ∈ parts) (within : letter ∈ part) :
    letter ∈ [separator].intercalate parts := by
  induction parts with
  | nil => cases member
  | cons first rest ih =>
      cases rest with
      | nil =>
          obtain rfl := List.mem_singleton.mp member
          simpa using within
      | cons second others =>
          rw [List.intercalate_cons_cons]
          cases List.mem_cons.mp member with
          | inl here =>
              subst here
              exact List.mem_append_left _ (List.mem_append_left _ within)
          | inr later => exact List.mem_append_right _ (ih later)

/-- A route is the name of the file. -/
theorem FileDescription.intercalate_route (description : FileDescription) :
    ['/'].intercalate description.route = description.name := List.intercalate_splitOn '/'

/-- A route is the path of the file. -/
theorem LocalFile.intercalate_route (file : LocalFile) :
    [separator].intercalate file.route = file.relativePath := List.intercalate_splitOn separator

theorem mem_of_mem_relativePath {letter : OsChar} (member : letter ∈ file.relativePath) :
    letter = separator ∨ ∃ segment ∈ file.route, letter ∈ segment := by
  rw [← file.intercalate_route] at member
  exact mem_intercalate member

theorem route_map_osName (description : FileDescription) :
    (osName description.name).splitOn separator = description.route.map osName := by
  have clean : ∀ segment ∈ description.route.map osName, separator ∉ segment := by
    intro segment member
    obtain ⟨name, inside, rfl⟩ := List.mem_map.mp member
    intro slash
    obtain ⟨letter, within, same⟩ := List.mem_map.mp slash
    cases OsChar.char.inj same
    exact splitOn_no_slash description.name name inside within
  have whole : [separator].intercalate (description.route.map osName) =
      osName description.name := by
    have mapped := intercalate_map OsChar.char '/' description.route
    rwa [description.intercalate_route] at mapped
  rw [← whole]
  exact List.splitOn_intercalate separator clean (by simpa using route_ne_nil description)

/-- A description has the route of the file. -/
theorem Resembles.route {description : FileDescription} (resembles : Resembles file description) :
    file.route = description.route.map osName := by
  rw [← route_map_osName, LocalFile.route, ← resembles.name]
  rfl

/-- Different names stay different. -/
theorem osName_injective : Function.Injective osName :=
  List.map_injective_iff.mpr fun _ _ => OsChar.char.inj

/-- The descriptions of a list are closed with it. -/
theorem ClosedFiles.resembling {descriptions : List FileDescription}
    (pairs : List.Forall₂ Resembles files descriptions) (closed : ClosedFiles files) :
    Closed descriptions := by
  intro place description found
  obtain ⟨inside, rfl⟩ := List.getElem?_eq_some_iff.mp found
  have here : place < files.length := pairs.length_eq ▸ inside
  have resembles : Resembles files[place] descriptions[place] := List.Forall₂.get pairs here inside
  have drop : files[place].route.dropLast = descriptions[place].route.dropLast.map osName := by
    rw [resembles.route, List.map_dropLast]
  cases closed place _ (List.getElem?_eq_getElem here) with
  | inl top =>
      rw [drop, List.map_eq_nil_iff] at top
      exact .inl top
  | inr under =>
      obtain ⟨above, early, directory, listed, kind, equal⟩ := under
      obtain ⟨atAbove, rfl⟩ := List.getElem?_eq_some_iff.mp listed
      have alsoAbove : above < descriptions.length := pairs.length_eq ▸ atAbove
      have parent : Resembles files[above] descriptions[above] :=
        List.Forall₂.get pairs atAbove alsoAbove
      refine .inr ⟨above, early, _, List.getElem?_eq_getElem alsoAbove, ?_, ?_⟩
      · rw [parent.kind, if_pos kind]
      · rw [parent.route, drop] at equal
        exact List.map_injective_iff.mpr osName_injective equal

/-- A tree stands for a list of files: it has a node for each file and one root, its links agree,
every other node is in one directory under a name of its own, and the path of a file leads to its
node. -/
structure FaithfulTree (connId : Int) (files : List LocalFile) (tree : List FuseNode) : Prop where
  length : tree.length = files.length + 1
  root : ∃ node : FuseNode, tree[0]? = some node ∧ node.parent = none ∧
    node.attributes.kind = .directory ∧ node.attributes.inode = 1
  nodes : ∀ (place : Nat) (file : LocalFile), files[place]? = some file →
    ∃ node : FuseNode, tree[place + 1]? = some node ∧
      node.index = place ∧ node.connId = connId ∧ node.attributes.inode = place + 2 ∧
        node.attributes.kind = (if file.isDir then .directory else .file) ∧
        node.attributes.size = file.size.toNat ∧
        file.route.getLast? = some (osName node.name)
  linked : ∀ place node, tree[place]? = some node → ∀ inode, inode ∈ node.children ↔
    ∃ below child, inode = below + 1 ∧ tree[below]? = some child ∧
      child.parent = some (place + 1)
  once : ∀ place, place ≠ 0 → place < tree.length → ∃! parent : Nat, ∃ directory : FuseNode,
    tree[parent]? = some directory ∧ directory.attributes.kind = .directory ∧
      place + 1 ∈ directory.children
  names : ∀ directory ∈ tree,
    (directory.children.map fun inode => (tree[inode - 1]?).map (·.name)).Nodup
  reached : ∀ place file, files[place]? = some file → lookupPath tree 1 file.route = .ok (place + 2)

/-- The components of the path of a file fit into a name. -/
def LocalFile.Reachable (file : LocalFile) : Prop :=
  ∀ segment ∈ file.route, OsSegment.len segment ≤ maxNameLen

section Planted

variable {connId : Int} {descriptions : List FileDescription} {tree : List FuseNode}

/-- A child is one with the parent's route. -/
theorem Planted.linked_iff (planted : Planted descriptions tree) {place : Nat} {node : FuseNode}
    (found : tree[place]? = some node) (inode : Nat) :
    inode ∈ node.children ↔ ∃ below child, inode = below + 1 ∧ tree[below]? = some child ∧
      child.parent = some (place + 1) := by
  rw [planted.grown.linked place node found, mem_childrenOf]

/-- The names in a directory differ. -/
theorem Planted.names_nodup (planted : Planted descriptions tree) {directory : FuseNode}
    (member : directory ∈ tree) :
    (directory.children.map fun inode => (tree[inode - 1]?).map (·.name)).Nodup := by
  obtain ⟨place, inside, rfl⟩ := List.mem_iff_getElem.mp member
  have found : tree[place]? = some tree[place] := List.getElem?_eq_getElem inside
  refine List.Nodup.map_on ?_ ?_
  · intro first atFirst second atSecond same
    obtain ⟨below, child, rfl, here, above⟩ := (planted.linked_iff found first).mp atFirst
    obtain ⟨alsoBelow, other, rfl, there, alsoAbove⟩ := (planted.linked_iff found second).mp atSecond
    rw [Nat.add_sub_cancel, Nat.add_sub_cancel, here, there] at same
    rw [planted.child_unique here there above alsoAbove (Option.some.inj same)]
  · rw [planted.grown.linked place _ found]
    exact childrenOf_nodup tree (place + 1)

/-- A file is in one directory. -/
theorem Planted.in_one_directory (planted : Planted descriptions tree) {place : Nat}
    (below : place ≠ 0) (inside : place < tree.length) :
    ∃! parent : Nat, ∃ directory : FuseNode, tree[parent]? = some directory ∧
      directory.attributes.kind = .directory ∧ place + 1 ∈ directory.children := by
  obtain ⟨place, rfl⟩ := Nat.exists_eq_succ_of_ne_zero below
  rw [planted.grown.length] at inside
  obtain ⟨node, atNode, -, parent, above, -, directory, found, kind⟩ :=
    planted.grown.stands place descriptions[place] (List.getElem?_eq_getElem (by omega))
  refine ⟨parent, ⟨directory, found, kind, ?_⟩, ?_⟩
  · exact (planted.linked_iff found _).mpr ⟨place + 1, node, rfl, atNode, above⟩
  · rintro other ⟨folder, here, -, listed⟩
    obtain ⟨again, child, equal, there, up⟩ := (planted.linked_iff here _).mp listed
    cases Nat.succ.inj equal
    cases there.symm.trans atNode
    rw [above] at up
    exact (Nat.succ.inj (Option.some.inj up)).symm

/-- A tree of the descriptions of files stands for the files. -/
theorem Planted.faithful (planted : Planted descriptions tree)
    (pairs : List.Forall₂ Resembles files descriptions)
    (owned : ∀ description ∈ descriptions, description.connId = connId)
    (reachable : ∀ file ∈ files, file.Reachable) : FaithfulTree connId files tree := by
  have described : ∀ (place : Nat) (file : LocalFile), files[place]? = some file → ∃ description,
      descriptions[place]? = some description ∧ Resembles file description := by
    intro place file found
    obtain ⟨inside, rfl⟩ := List.getElem?_eq_some_iff.mp found
    have here : place < descriptions.length := pairs.length_eq ▸ inside
    exact ⟨descriptions[place], List.getElem?_eq_getElem here, List.Forall₂.get pairs inside here⟩
  have short : ∀ description ∈ descriptions, ∀ segment ∈ description.route,
      OsSegment.len (osName segment) ≤ maxNameLen := by
    intro description member segment within
    obtain ⟨place, inside, rfl⟩ := List.mem_iff_getElem.mp member
    have here : place < files.length := pairs.length_eq ▸ inside
    have resembles : Resembles files[place] descriptions[place] := List.Forall₂.get pairs here inside
    apply reachable files[place] (List.getElem_mem here)
    rw [resembles.route]
    exact List.mem_map_of_mem within
  refine ⟨?_, planted.grown.root, ?_, ?_, ?_, ?_, ?_⟩
  · rw [planted.grown.length, pairs.length_eq]
  · intro place file found
    obtain ⟨description, listed, resembles⟩ := described place file found
    obtain ⟨node, atNode, stands, -⟩ := planted.grown.stands place description listed
    refine ⟨node, atNode, stands.1, ?_, stands.2.2.1, ?_, ?_, ?_⟩
    · rw [stands.2.1, owned description (List.mem_of_getElem? listed)]
    · rw [stands.2.2.2.1, resembles.kind]
    · rw [stands.2.2.2.2.1, resembles.size]
    · rw [planted.name_eq listed atNode, resembles.route, List.getLast?_map,
        List.getLast?_eq_getLast_of_ne_nil (route_ne_nil description), Option.map_some]
  · intro place node found inode
    exact planted.linked_iff found inode
  · intro place below inside
    exact planted.in_one_directory below inside
  · intro directory member
    exact planted.names_nodup member
  · intro place file found
    obtain ⟨description, listed, resembles⟩ := described place file found
    rw [resembles.route]
    exact planted.lookupPath_route short listed

end Planted

/-- The paths of a faithful tree differ. -/
theorem FaithfulTree.distinct {connId : Int} {tree : List FuseNode}
    (faithful : FaithfulTree connId files tree) : (files.map LocalFile.relativePath).Nodup := by
  rw [List.Nodup, List.pairwise_iff_getElem]
  intro first second atFirst atSecond early same
  rw [List.getElem_map, List.getElem_map] at same
  rw [List.length_map] at atFirst atSecond
  have one := faithful.reached first _ (List.getElem?_eq_getElem atFirst)
  have other := faithful.reached second _ (List.getElem?_eq_getElem atSecond)
  have routes : files[first].route = files[second].route := congrArg (List.splitOn separator) same
  rw [routes, other] at one
  have equal := Except.ok.inj one
  omega

/-- The paths that lead to their nodes have plain and short components. -/
theorem FaithfulTree.plain_reachable {connId : Int} {tree : List FuseNode}
    {descriptions : List FileDescription} (faithful : FaithfulTree connId files tree)
    (grown : Grown descriptions tree)
    (inside : ∀ description ∈ descriptions, Inside description.name) :
    ∀ file ∈ files, file.Plain ∧ file.Reachable := by
  intro file member
  obtain ⟨place, here, rfl⟩ := List.mem_iff_getElem.mp member
  have known := lookupPath_ok grown (faithful.reached place _ (List.getElem?_eq_getElem here))
  refine ⟨?_, fun segment within => (known segment within).1⟩
  intro letter within
  obtain rfl | ⟨segment, part, letterIn⟩ := mem_of_mem_relativePath within
  · exact ⟨'/', rfl, by decide⟩
  · obtain ⟨-, description, listed, name, last, rfl⟩ := known segment part
    obtain ⟨value, valueIn, rfl⟩ := List.mem_map.mp letterIn
    refine ⟨value, rfl, ?_⟩
    rintro rfl
    rw [(inside description listed).components_eq] at last
    have base : description.route.getLast (route_ne_nil description) = name :=
      Option.some.inj ((fileNameOf_route description).symm.trans last)
    apply (inside description listed).unixSeparators
    rw [← description.intercalate_route]
    exact mem_intercalate_of_mem (base ▸ List.getLast_mem (route_ne_nil description)) valueIn

theorem map_relativePath {descriptions : List FileDescription}
    (pairs : List.Forall₂ Resembles files descriptions) :
    descriptions.map ((fun route => osName (['/'].intercalate route)) ∘ FileDescription.route) =
      files.map LocalFile.relativePath := by
  induction pairs with
  | nil => rfl
  | cons head tail ih =>
      rw [List.map_cons, List.map_cons, ih, Function.comp_apply, FileDescription.intercalate_route]
      exact congrArg (· :: _) head.name

/-- The list of the files is parsed, and the tree that is made of it stands for the files. -/
def Mounted (connId : Int) (now : Nat) (files : List LocalFile) : Prop :=
  ∃ pdu descriptions tree, buildFileListPdu files = .ok pdu ∧
    parseFileDescriptors pdu connId = .ok descriptions ∧
    buildTree now descriptions = .ok tree ∧ FaithfulTree connId files tree

/-- The tree that is mounted for an accepted selection stands for its files exactly when their number
fits into its field, their names are plain and short, and no two of them have one relative path. -/
theorem mounted_tree_iff {system : FileSystem} (normal : system.Proper) {fuel : Nat}
    {paths : List OsPath}
    (selected : ∀ path ∈ paths, ∀ name ∈ path.components, OsSegment.Proper name)
    (accepted : constructFileList system fuel paths = .ok files) (connId : Int) (now : Nat) :
    Mounted connId now files ↔
      files.length < 2 ^ 32 ∧ (∀ file ∈ files, file.Plain ∧ file.Reachable) ∧
        (files.map LocalFile.relativePath).Nodup := by
  have sendable := constructFileList_sendable accepted
  have closed := constructFileList_closed normal selected accepted
  constructor
  · rintro ⟨pdu, descriptions, tree, built, parsed, grew, faithful⟩
    rw [buildFileListPdu_eq sendable] at built
    cases built
    obtain ⟨sized, inside⟩ := parse_ok parsed
    exact ⟨(wellSized_pduOf sendable).mp sized,
      faithful.plain_reachable (buildTree_grown grew) inside, faithful.distinct⟩
  · rintro ⟨short, known, distinct⟩
    obtain ⟨descriptions, parsed, pairs⟩ : ∃ descriptions,
        parseFileDescriptors (pduOf files) connId = .ok descriptions ∧
          List.Forall₂ Resembles files descriptions :=
      parse_pduOf sendable (fun file member => (known file member).1) short
    obtain ⟨-, inside⟩ := parse_ok parsed
    have routes : (descriptions.map FileDescription.route).Nodup := by
      refine List.Nodup.of_map (fun route => osName (['/'].intercalate route)) ?_
      rwa [List.map_map, map_relativePath pairs]
    obtain ⟨tree, grew, grown, placed⟩ : ∃ tree, buildTree now descriptions = .ok tree ∧
        Grown descriptions tree ∧ Placed descriptions tree :=
      buildTree_placed inside (closed.resembling pairs) routes
    have planted : Planted descriptions tree := ⟨inside, routes, grown, placed⟩
    exact ⟨_, descriptions, tree, buildFileListPdu_eq sendable, parsed, grew,
      planted.faithful pairs (parse_connId parsed) fun file member => (known file member).2⟩

/-- The list of one file is mounted. -/
theorem one_file_mounted : Mounted 0 0 (oneFileList ['a']) := by
  have normal : (oneFile ['a']).Proper := by
    intro path names found name member
    unfold oneFile at found
    dsimp only at found
    split at found
    next =>
      cases found
      rw [List.mem_singleton.mp member]
      unfold OsSegment.Proper
      decide
    next => cases found
  have selected : ∀ path ∈ [directoryPath], ∀ name ∈ path.components, OsSegment.Proper name := by
    unfold OsSegment.Proper
    decide
  have reachable : ∀ file ∈ oneFileList ['a'], file.Reachable := by
    unfold LocalFile.Reachable
    decide +kernel
  exact (mounted_tree_iff normal selected oneFileList_accepted 0 0).mpr ⟨by decide +kernel,
    fun file member => ⟨oneFileList_plain file member, reachable file member⟩, by decide +kernel⟩

/-- Two directories with one file each, under one name. -/
def twoFiles : FileSystem where
  metadata path :=
    if path.components.getLast? = some (osName ['x']) then some ⟨5, false, some 0, 0o100644⟩ else none
  readDir _ := none

def sameNamePaths : List OsPath :=
  [⟨true, [osName ['a'], osName ['x']]⟩, ⟨true, [osName ['b'], osName ['x']]⟩]

def sameNameFiles : List LocalFile := (constructFileList twoFiles 1 sameNamePaths).toOption.getD []

/-- Two files of one name from two directories are accepted, and both are put under the root with that
name. No lookup reaches the second. -/
theorem second_file_hidden :
    constructFileList twoFiles 1 sameNamePaths = .ok sameNameFiles ∧
      ((buildFileListPdu sameNameFiles).toOption.bind fun pdu =>
        (parseFileDescriptors pdu 0).toOption.bind fun descriptions =>
          (buildTree 0 descriptions).toOption.map fun tree =>
            (tree.map (·.name), lookupPath tree 1 [osName ['x']])) =
        some ([['/'], ['x'], ['x']], .ok 2) ∧
      ¬ Mounted 0 0 sameNameFiles := by
  refine ⟨by decide +kernel, by decide +kernel, ?_⟩
  rintro ⟨pdu, descriptions, tree, -, -, -, faithful⟩
  have distinct := faithful.distinct
  revert distinct
  decide +kernel

end SubnetDesk.Clipboard.FileList
