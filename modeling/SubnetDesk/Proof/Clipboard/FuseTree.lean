import SubnetDesk.Construction.Clipboard.Fuse

namespace SubnetDesk.Clipboard.FileList

open FileTree FileTransfer

variable {now : Nat} {file : FileDescription} {files : List FileDescription}
  {growth after : Growth} {node : FuseNode}

/-- The inodes whose nodes have the given parent, in the order of the tree. -/
def childrenOf (tree : List FuseNode) (parent : Nat) : List Nat :=
  ((List.range tree.length).filter fun place =>
    (tree[place]?.bind FuseNode.parent) = some parent).map (· + 1)

/-- The node that stands for a file of the list. -/
def Stands (place : Nat) (file : FileDescription) (node : FuseNode) : Prop :=
  node.index = place ∧ node.connId = file.connId ∧ node.attributes.inode = place + 2 ∧
    node.attributes.kind = file.kind ∧ node.attributes.size = file.size ∧
    fileNameOf (components file.name) = some node.name

/-- A tree that has grown from a list: its nodes stand for the files, the links agree, and parents are
directories that stand before their children. -/
structure Grown (files : List FileDescription) (tree : List FuseNode) : Prop where
  length : tree.length = files.length + 1
  root : ∃ node, tree[0]? = some node ∧ node.parent = none ∧
    node.attributes.kind = .directory ∧ node.attributes.inode = 1
  stands : ∀ place file, files[place]? = some file →
    ∃ node, tree[place + 1]? = some node ∧ Stands place file node ∧
      ∃ parent, node.parent = some (parent + 1) ∧ parent ≤ place ∧
        ∃ directory, tree[parent]? = some directory ∧ directory.attributes.kind = .directory
  linked : ∀ place node, tree[place]? = some node → node.children = childrenOf tree (place + 1)

/-- The map knows directories of the list only, under their paths. -/
def Mapped (files : List FileDescription) (map : SubRootMap) : Prop :=
  ∀ key inode, map key = some inode →
    inode = 1 ∧ (key = [.rootDir] ∨ key = []) ∨
      ∃ place directory, inode = place + 2 ∧ files[place]? = some directory ∧
        directory.kind = .directory ∧ components directory.name = key

theorem modify_parent (tree : List FuseNode) (parent inode place : Nat) :
    ((tree.modify parent (·.addChild inode))[place]?.bind FuseNode.parent) =
      tree[place]?.bind FuseNode.parent := by
  rw [List.getElem?_modify]
  cases tree[place]? with
  | none => rfl
  | some node =>
      by_cases here : parent = place
      · simp [here, FuseNode.addChild]
      · simp [here]

/-- A new node is a child of its parent only. -/
theorem childrenOf_grow (tree : List FuseNode) (parent inode : Nat) (node : FuseNode)
    (other : Nat) :
    childrenOf (tree.modify parent (·.addChild inode) ++ [node]) other =
      childrenOf tree other ++ if node.parent = some other then [tree.length + 1] else [] := by
  have old : ∀ place ∈ List.range tree.length,
      decide (((tree.modify parent (·.addChild inode) ++ [node])[place]?.bind FuseNode.parent) =
        some other) = decide ((tree[place]?.bind FuseNode.parent) = some other) := by
    intro place member
    rw [List.mem_range] at member
    rw [List.getElem?_append_left (by rwa [List.length_modify]), modify_parent]
  have new : (tree.modify parent (·.addChild inode) ++ [node])[tree.length]? = some node := by
    rw [List.getElem?_append_right (by rw [List.length_modify]), List.length_modify, Nat.sub_self]
    rfl
  unfold childrenOf
  rw [List.length_append, List.length_modify, List.length_singleton, List.range_succ,
    List.filter_append, List.filter_congr old, List.map_append]
  congr 1
  rw [List.filter_singleton, new]
  by_cases same : node.parent = some other
  · simp [same]
  · simp [same]

theorem Mapped.start : Mapped [] (Growth.start now).subRootMap := by
  intro key inode found
  simp only [Growth.start] at found
  split at found
  next root =>
    cases found
    exact .inl ⟨rfl, root⟩
  next => cases found

theorem Grown.start : Grown [] (Growth.start now).tree where
  length := rfl
  root := ⟨_, rfl, rfl, rfl, rfl⟩
  stands _ _ found := by simp at found
  linked place node found := by
    cases place with
    | zero =>
        cases found
        rfl
    | succ place => simp [Growth.start] at found

/-- The parent of a file is the root, or a directory of the list under the parent path. -/
theorem Mapped.parentInode (mapped : Mapped files growth.subRootMap)
    (file : FileDescription) :
    growth.parentInode file = 1 ∨
      ∃ place directory, growth.parentInode file = place + 2 ∧ files[place]? = some directory ∧
        directory.kind = .directory ∧
        parentComponents (components file.name) = some (components directory.name) := by
  unfold Growth.parentInode
  cases above : parentComponents (components file.name) with
  | none => exact .inl rfl
  | some key =>
      dsimp only
      cases found : growth.subRootMap key with
      | none => exact .inl rfl
      | some inode =>
          cases mapped key inode found with
          | inl root => exact .inl root.1
          | inr listed =>
              obtain ⟨place, directory, rfl, here, kind, rfl⟩ := listed
              exact .inr ⟨place, directory, rfl, here, kind, rfl⟩

theorem Mapped.append {map : SubRootMap} (mapped : Mapped files map) (file : FileDescription) :
    Mapped (files ++ [file]) map := by
  intro key inode found
  refine (mapped key inode found).imp_right ?_
  rintro ⟨place, directory, equal, here, rest⟩
  obtain ⟨inside, -⟩ := List.getElem?_eq_some_iff.mp here
  exact ⟨place, directory, equal, by rwa [List.getElem?_append_left inside], rest⟩

/-- An added directory is mapped. -/
theorem Mapped.add (mapped : Mapped files growth.subRootMap)
    (length : growth.tree.length = files.length + 1)
    (added : growth.add now file = .ok after) : Mapped (files ++ [file]) after.subRootMap := by
  unfold Growth.add at added
  dsimp only at added
  split at added
  next => cases added
  next baseName _ =>
    cases added
    dsimp only
    split
    next directory =>
      intro key inode found
      by_cases here : key = components file.name
      · subst here
        rw [Function.update_self, length] at found
        cases found
        exact .inr ⟨files.length, file, rfl, by simp, directory, rfl⟩
      · rw [Function.update_of_ne here] at found
        exact mapped.append file key inode found
    next => exact mapped.append file

/-- A new node changes the children of one. -/
theorem grow_old {tree : List FuseNode} {place : Nat} (inside : place < tree.length)
    (parent inode : Nat) (node : FuseNode) :
    (tree.modify parent (·.addChild inode) ++ [node])[place]? =
      tree[place]?.map fun old => if parent = place then old.addChild inode else old := by
  rw [List.getElem?_append_left (by rwa [List.length_modify]), List.getElem?_modify]
  by_cases here : parent = place
  · simp [here]
  · simp [here]

theorem grow_new (tree : List FuseNode) (parent inode : Nat) (node : FuseNode) :
    (tree.modify parent (·.addChild inode) ++ [node])[tree.length]? = some node := by
  rw [List.getElem?_append_right (by rw [List.length_modify]), List.length_modify, Nat.sub_self]
  rfl

theorem directory_grow {tree : List FuseNode} {place : Nat} {folder : FuseNode}
    (here : tree[place]? = some folder) (kind : folder.attributes.kind = .directory)
    (parent inode : Nat) (node : FuseNode) :
    ∃ folder, (tree.modify parent (·.addChild inode) ++ [node])[place]? = some folder ∧
      folder.attributes.kind = .directory := by
  obtain ⟨inside, -⟩ := List.getElem?_eq_some_iff.mp here
  refine ⟨_, by rw [grow_old inside, here]; rfl, ?_⟩
  split
  next => exact kind
  next => exact kind

/-- A node still stands for its file. -/
theorem Stands.grow {place : Nat} (stands : Stands place file node) (parent inode here : Nat) :
    Stands place file (if parent = here then node.addChild inode else node) := by
  split
  next => exact stands
  next => exact stands

/-- A node has a parent that stands before it. -/
theorem Grown.parent_lt {tree : List FuseNode} (grown : Grown files tree) {place : Nat}
    (found : tree[place]? = some node) {parent : Nat} (above : node.parent = some parent) :
    parent ≤ place := by
  cases place with
  | zero =>
      obtain ⟨root, here, none_, -⟩ := grown.root
      cases found.symm.trans here
      cases above.symm.trans none_
  | succ place =>
      obtain ⟨inside, -⟩ := List.getElem?_eq_some_iff.mp found
      rw [grown.length] at inside
      obtain ⟨other, here, -, before, equal, early, -⟩ :=
        grown.stands place files[place] (List.getElem?_eq_getElem (by omega))
      cases found.symm.trans here
      cases above.symm.trans equal
      omega

/-- A missing parent has no children. -/
theorem Grown.childrenOf_late {tree : List FuseNode} (grown : Grown files tree) {parent : Nat}
    (late : tree.length < parent) : childrenOf tree parent = [] := by
  unfold childrenOf
  rw [List.map_eq_nil_iff, List.filter_eq_nil_iff]
  intro place member same
  rw [List.mem_range] at member
  rw [List.getElem?_eq_getElem member, Option.bind_some, decide_eq_true_eq] at same
  have early := grown.parent_lt (List.getElem?_eq_getElem member) same
  omega

/-- The loop keeps a grown tree, whatever the list is. -/
theorem Grown.add (grown : Grown files growth.tree) (mapped : Mapped files growth.subRootMap)
    (added : growth.add now file = .ok after) : Grown (files ++ [file]) after.tree := by
  have length := grown.length
  obtain ⟨parent, equal, early, directory, atParent, kind⟩ : ∃ parent,
      growth.parentInode file = parent + 1 ∧ parent ≤ files.length ∧
        ∃ directory, growth.tree[parent]? = some directory ∧
          directory.attributes.kind = .directory := by
    cases mapped.parentInode file with
    | inl top =>
        obtain ⟨root, here, -, kind, -⟩ := grown.root
        exact ⟨0, top, Nat.zero_le _, root, here, kind⟩
    | inr listed =>
        obtain ⟨place, folder, equal, here, kind, -⟩ := listed
        obtain ⟨inside, -⟩ := List.getElem?_eq_some_iff.mp here
        obtain ⟨node, atNode, stands, -⟩ := grown.stands place folder here
        exact ⟨place + 1, equal, inside, node, atNode, stands.2.2.2.1.trans kind⟩
  unfold Growth.add at added
  simp only [equal, Nat.add_sub_cancel] at added
  split at added
  next => cases added
  next baseName named =>
    cases added
    have inode : growth.tree.length + fuseRootId = growth.tree.length + 1 := rfl
    refine ⟨?_, ?_, ?_, ?_⟩
    · simp [length]
    · obtain ⟨root, here, none_, rootKind, rootInode⟩ := grown.root
      refine ⟨_, by rw [grow_old (by omega), here]; rfl, ?_⟩
      split
      next => exact ⟨none_, rootKind, rootInode⟩
      next => exact ⟨none_, rootKind, rootInode⟩
    · intro place other found
      by_cases old : place < files.length
      · rw [List.getElem?_append_left old] at found
        obtain ⟨node, here, stands, above, up, before, folder, atFolder, folderKind⟩ :=
          grown.stands place other found
        refine ⟨_, by rw [grow_old (by omega), here]; rfl, stands.grow _ _ _, above, ?_, before,
          directory_grow atFolder folderKind _ _ _⟩
        split
        next => exact up
        next => exact up
      · obtain ⟨inside, -⟩ := List.getElem?_eq_some_iff.mp found
        rw [List.length_append, List.length_singleton] at inside
        have last : place = files.length := by omega
        subst last
        rw [List.getElem?_append_right (le_refl _), Nat.sub_self] at found
        cases found
        refine ⟨_, by rw [← length]; exact grow_new _ _ _ _, ?_, parent, rfl, early,
          directory_grow atParent kind _ _ _⟩
        refine ⟨?_, rfl, ?_, rfl, rfl, named⟩
        · simp [FuseNode.fromDescription, length, fuseRootId]
        · simp [FuseNode.fromDescription, length, fuseRootId]
    · intro place node found
      rw [childrenOf_grow]
      by_cases old : place < growth.tree.length
      · rw [grow_old old, List.getElem?_eq_getElem old, Option.map_some, Option.some.injEq] at found
        have before := grown.linked place _ (List.getElem?_eq_getElem old)
        subst found
        by_cases here : parent = place
        · subst here
          simp [FuseNode.addChild, before, fuseRootId]
        · have other : ¬ parent + 1 = place + 1 := by omega
          simp [here, before]
      · obtain ⟨inside, -⟩ := List.getElem?_eq_some_iff.mp found
        rw [List.length_append, List.length_modify, List.length_singleton] at inside
        have last : place = growth.tree.length := by omega
        subst last
        rw [grow_new] at found
        cases found
        rw [grown.childrenOf_late (Nat.lt_succ_self _)]
        have other : parent ≠ growth.tree.length := by omega
        simp [FuseNode.fromDescription, other]

/-- A list that is built is a grown tree. -/
theorem grown_foldlM (rest : List FileDescription) {first : List FileDescription}
    (grown : Grown first growth.tree) (mapped : Mapped first growth.subRootMap)
    (built : rest.foldlM (Growth.add now) growth = .ok after) :
    Grown (first ++ rest) after.tree := by
  induction rest generalizing first growth with
  | nil =>
      cases built
      rwa [List.append_nil]
  | cons file rest ih =>
      rw [List.foldlM_cons] at built
      cases step : growth.add now file with
      | error error =>
          rw [step] at built
          cases built
      | ok next =>
          rw [step] at built
          have whole := ih (grown.add mapped step) (mapped.add grown.length step) built
          rwa [List.append_assoc] at whole

/-- Every list that gives a tree gives a grown one. -/
theorem buildTree_grown {tree : List FuseNode} (built : buildTree now files = .ok tree) :
    Grown files tree := by
  unfold buildTree at built
  cases result : files.foldlM (Growth.add now) (Growth.start now) with
  | error error =>
      rw [result] at built
      cases built
  | ok after =>
      rw [result] at built
      cases built
      exact grown_foldlM files Grown.start Mapped.start result

/-- The children are the nodes with the parent. -/
theorem mem_childrenOf {tree : List FuseNode} {parent inode : Nat} :
    inode ∈ childrenOf tree parent ↔
      ∃ place node, inode = place + 1 ∧ tree[place]? = some node ∧ node.parent = some parent := by
  unfold childrenOf
  rw [List.mem_map]
  constructor
  · rintro ⟨place, member, rfl⟩
    rw [List.mem_filter, List.mem_range, decide_eq_true_eq] at member
    obtain ⟨inside, above⟩ := member
    rw [List.getElem?_eq_getElem inside, Option.bind_some] at above
    exact ⟨place, tree[place], rfl, List.getElem?_eq_getElem inside, above⟩
  · rintro ⟨place, node, rfl, found, above⟩
    refine ⟨place, ?_, rfl⟩
    obtain ⟨inside, -⟩ := List.getElem?_eq_some_iff.mp found
    rw [List.mem_filter, List.mem_range, decide_eq_true_eq, found, Option.bind_some]
    exact ⟨inside, above⟩

/-- The children differ. -/
theorem childrenOf_nodup (tree : List FuseNode) (parent : Nat) : (childrenOf tree parent).Nodup := by
  unfold childrenOf
  exact (List.nodup_range.filter _).map (add_left_injective 1)

end SubnetDesk.Clipboard.FileList
