import SubnetDesk.Proof.Clipboard.FuseTree
import SubnetDesk.Proof.Clipboard.SharedReads

namespace SubnetDesk.Clipboard.FileList

open FileTree

variable {context next : FuseContext} {server : FuseServer} {ino fh now : Nat}
  {files : List FileDescription} {tree : List FuseNode} {node : FuseNode} {entry : FuseEntry}
  {entries : List DirEntry} {past outputs : List MountOutput}

/-- A page of one handle, with the offset it was asked for. -/
def pageOf (ino fh : Nat) : MountOutput → Option (Nat × List DirEntry)
  | .reply call (.page entries) =>
      if call.ino = ino ∧ call.fh = fh then some (call.offset, entries) else none
  | _ => none

def pagesOf (ino fh : Nat) (outputs : List MountOutput) : List (Nat × List DirEntry) :=
  outputs.filterMap (pageOf ino fh)

/-- The page is read from the directory of a tree, up to the room of its buffer. -/
def ReadFrom (tree : List FuseNode) (ino : Nat) (page : Nat × List DirEntry) : Prop :=
  ∃ (node : FuseNode) (entries : List DirEntry), ino ≠ 0 ∧ tree[ino - 1]? = some node ∧
    dirEntries tree ino node = some entries ∧ page.2 <+: entries.drop page.1 ∧
    (page.2 = [] → entries.drop page.1 = [])

/-- All pages of a handle are read from one tree, which is the current one as long as the handle is
open. -/
structure Streams (outputs : List MountOutput) (context : FuseContext) : Prop where
  ordered : Ordered context
  grown : context.server.nodes = [] ∨ ∃ files, Grown files context.server.nodes
  streams : ∀ ino fh, ∃ (files : List FileDescription) (tree : List FuseNode), Grown files tree ∧
    (fh ∈ context.server.handlersAt ino → context.server.nodes = tree) ∧
    ∀ page ∈ pagesOf ino fh outputs, fh < context.server.fileHandleCounter ∧ ReadFrom tree ino page
  quiet : ∀ call, .reply call .panicked ∉ outputs

theorem nodes_getElem? (server : FuseServer) (place : Nat) :
    server.nodes[place]? = (server.files[place]?).map FuseEntry.node := List.getElem?_map

theorem nodes_of_entry (here : server.entry ino = some entry) :
    ino ≠ 0 ∧ server.nodes[ino - 1]? = some entry.node := by
  unfold FuseServer.entry at here
  split at here
  next => cases here
  next positive =>
    refine ⟨positive, ?_⟩
    rw [nodes_getElem?, here]
    rfl

/-- New handles change no node. -/
theorem nodes_setHandles (server : FuseServer) (ino : Nat) (handles : FileHandles) :
    (server.setHandles ino handles).nodes = server.nodes := by
  apply List.ext_getElem?
  intro place
  rw [nodes_getElem?, nodes_getElem?, FuseServer.setHandles, List.getElem?_modify]
  cases server.files[place]? with
  | none => rfl
  | some entry =>
      by_cases same : ino - 1 = place
      · simp [same]
      · simp [same]

/-- A loaded list is a grown tree. -/
theorem nodes_loaded {loaded : FuseServer} (ok : server.loadFileList now files = .ok loaded) :
    Grown files loaded.nodes := by
  obtain ⟨tree, built, listed, -⟩ := loadFileList_eq ok
  have same : loaded.nodes = tree := by
    rw [FuseServer.nodes, listed, List.map_map]
    exact List.map_id tree
  rw [same]
  exact buildTree_grown built

/-- A step keeps the tree and opens no handle but a new one, or it leaves no handle. -/
inductive Rooted (context next : FuseContext) : Prop
  | kept (nodes : next.server.nodes = context.server.nodes)
      (handlers : ∀ ino, ∀ fh ∈ next.server.handlersAt ino,
        fh ∈ context.server.handlersAt ino ∨ fh = context.server.fileHandleCounter)
  | cleared (grown : ∃ files, Grown files next.server.nodes)
      (handlers : ∀ ino, next.server.handlersAt ino = [])

/-- The same files keep the roots. -/
theorem Rooted.of_files (files : next.server.files = context.server.files) : Rooted context next := by
  refine .kept (congrArg (List.map FuseEntry.node) files) ?_
  intro ino fh member
  rw [FuseServer.handlersAt_congr files] at member
  exact .inl member

/-- A changed handle keeps the roots. -/
theorem Rooted.changed {changed : FuseServer} {handlers : List Nat}
    (files : changed.files = context.server.files) (here : context.server.entry ino = some entry)
    (new : ∀ fh ∈ handlers, fh ∈ entry.fileHandlers.handlers ∨
      fh = context.server.fileHandleCounter) :
    Rooted context (context.withHandlers changed ino entry handlers) := by
  have same : changed.entry ino = some entry := by
    unfold FuseServer.entry
    rw [files]
    exact here
  refine .kept ?_ ?_
  · show (changed.setHandles ino _).nodes = _
    rw [nodes_setHandles, FuseServer.nodes, files]
    rfl
  · intro other fh member
    have replaced := FuseServer.handlersAt_setHandles same
      { entry.fileHandlers with handlers := handlers } other
    rw [show (context.withHandlers changed ino entry handlers).server.handlersAt other = _
      from replaced] at member
    split at member
    next equal =>
      rw [equal, FuseServer.handlersAt_eq here]
      exact new fh member
    next =>
      rw [FuseServer.handlersAt_congr files] at member
      exact .inl member

/-- Every step keeps the roots. -/
theorem Stepped.rooted {emitted : List FuseOutput} (stepped : Stepped context next emitted) :
    Rooted context next := by
  cases stepped with
  | calm calm => exact .of_files rfl
  | started now =>
      by_cases empty : context.server.files = []
      · refine .cleared ⟨[], ?_⟩ ?_
        · show Grown [] (context.server.init now).nodes
          rw [FuseServer.init, if_pos empty]
          exact Grown.start
        · intro ino
          show (context.server.init now).handlersAt ino = []
          rw [init_handlersAt, FuseServer.handlersAt, FuseServer.entry, empty]
          split
          next found =>
            split at found
            next => cases found
            next => cases found
          next => rfl
      · refine .of_files ?_
        show (context.server.init now).files = _
        rw [FuseServer.init, if_neg empty]
  | loaded idle parsed loaded =>
      exact .cleared ⟨_, nodes_loaded loaded⟩ (loadFileList_handlersAt loaded)
  | emptied idle meant loaded =>
      exact .cleared ⟨_, nodes_loaded loaded⟩ (loadFileList_handlersAt loaded)
  | opened idle here =>
      refine .changed rfl here ?_
      intro fh member
      rcases List.mem_append.mp member with old | new
      · exact .inl old
      · exact .inr (List.mem_singleton.mp new)
  | released idle here found =>
      exact .changed rfl here fun fh member => .inl (List.mem_of_mem_eraseIdx member)
  | asked idle here found regular number connId => exact .of_files rfl
  | skipped queue => exact .of_files rfl
  | resent waits queue retried => exact .of_files rfl
  | ended queue => exact .of_files rfl
  | answered waits queue clip success => exact .of_files rfl
  | delivered reply => exact .of_files rfl

theorem counter_loaded {loaded : FuseServer} (ok : server.loadFileList now files = .ok loaded) :
    loaded.fileHandleCounter = server.fileHandleCounter := by
  unfold FuseServer.loadFileList at ok
  cases built : buildTree now files with
  | error error =>
      rw [built] at ok
      cases ok
  | ok tree =>
      rw [built] at ok
      cases ok
      rfl

/-- The counter never falls. -/
theorem Stepped.counter {emitted : List FuseOutput}
    (fresh : context.server.fileHandleCounter + 1 < 2 ^ 64)
    (stepped : Stepped context next emitted) :
    context.server.fileHandleCounter ≤ next.server.fileHandleCounter := by
  cases stepped with
  | started now => exact (init_counter context.server now).ge
  | loaded idle parsed loaded => exact (counter_loaded loaded).ge
  | emptied idle meant loaded => exact (counter_loaded loaded).ge
  | opened idle here =>
      show context.server.fileHandleCounter ≤ (context.server.fileHandleCounter + 1) % 2 ^ 64
      rw [Nat.mod_eq_of_lt fresh]
      exact Nat.le_succ _
  | _ => exact le_rfl

theorem handlersAt_of_nodes (empty : server.nodes = []) (ino : Nat) : server.handlersAt ino = [] := by
  cases here : server.entry ino with
  | none => rw [FuseServer.handlersAt, here]
  | some entry =>
      have found := (nodes_of_entry here).2
      rw [empty] at found
      cases found

/-- A step keeps the listings. -/
theorem Streams.stepped (streams : Streams past context)
    (fresh : context.server.fileHandleCounter + 1 < 2 ^ 64) {emitted : List FuseOutput}
    (stepped : Stepped context next emitted) :
    Streams (past ++ emitted.map MountOutput.context) next := by
  have silent : ∀ ino fh, pagesOf ino fh (past ++ emitted.map MountOutput.context) =
      pagesOf ino fh past := by
    intro ino fh
    rw [pagesOf, List.filterMap_append, List.filterMap_map]
    have none : (pageOf ino fh ∘ MountOutput.context) = fun _ => none := rfl
    rw [none]
    simp [pagesOf]
  have counter := stepped.counter fresh
  refine ⟨streams.ordered.step fresh stepped, ?_, ?_, ?_⟩
  · cases stepped.rooted with
    | kept nodes handlers =>
        rw [nodes]
        exact streams.grown
    | cleared grown handlers => exact .inr grown
  · intro ino fh
    rw [silent]
    obtain ⟨files, tree, grown, current, pages⟩ := streams.streams ino fh
    cases stepped.rooted with
    | cleared _ handlers =>
        refine ⟨files, tree, grown, ?_, fun page member => ?_⟩
        · intro member
          rw [handlers] at member
          cases member
        · exact ⟨(pages page member).1.trans_le counter, (pages page member).2⟩
    | kept nodes handlers =>
        by_cases old : fh < context.server.fileHandleCounter
        · refine ⟨files, tree, grown, fun member => ?_, fun page member =>
            ⟨(pages page member).1.trans_le counter, (pages page member).2⟩⟩
          rcases handlers ino fh member with held | new
          · exact nodes.trans (current held)
          · exact absurd new old.ne
        · have unread : ∀ page ∈ pagesOf ino fh past, False :=
            fun page member => old (pages page member).1
          rcases streams.grown with empty | ⟨listed, planted⟩
          · refine ⟨files, tree, grown, fun member => ?_, fun page member => (unread page member).elim⟩
            rw [handlersAt_of_nodes (nodes.trans empty)] at member
            cases member
          · exact ⟨listed, context.server.nodes, planted, fun _ => nodes,
              fun page member => (unread page member).elim⟩
  · intro call member
    rcases List.mem_append.mp member with old | new
    · exact streams.quiet call old
    · obtain ⟨output, -, same⟩ := List.mem_map.mp new
      cases same

/-- A read succeeds where every part does. -/
theorem mapM_isSome {Item Result : Type} {items : List Item} {read : Item → Option Result}
    (all : ∀ item ∈ items, (read item).isSome) : (items.mapM read).isSome := by
  induction items with
  | nil => rfl
  | cons first rest ih =>
      rw [List.forall_mem_cons] at all
      obtain ⟨one, here⟩ := Option.isSome_iff_exists.mp all.1
      obtain ⟨others, there⟩ := Option.isSome_iff_exists.mp (ih all.2)
      simp [List.mapM_cons, here, there]

theorem mapM_map_fst {nodes : List FuseNode} {inodes : List Nat}
    {children : List (Nat × FileType × Path)}
    (read : inodes.mapM (childEntry nodes) = some children) : children.map Prod.fst = inodes := by
  induction inodes generalizing children with
  | nil =>
      cases read
      rfl
  | cons first rest ih =>
      simp only [List.mapM_cons, Option.bind_eq_bind, Option.bind_eq_some_iff, Option.pure_def,
        Option.some.injEq] at read
      obtain ⟨one, here, others, there, rfl⟩ := read
      have inode : one.1 = first := by
        unfold childEntry at here
        split at here
        next => cases here
        next =>
          obtain ⟨node, -, rfl⟩ := Option.map_eq_some_iff.mp here
          rfl
      rw [List.map_cons, inode, ih there]

/-- A number changes no inode. -/
theorem numbered_ino (entries : List (Nat × FileType × Path)) :
    (numbered entries).map DirEntry.ino = entries.map Prod.fst := by
  apply List.ext_getElem?
  intro place
  rw [List.getElem?_map, List.getElem?_map, numbered, List.getElem?_mapIdx, Option.map_map]
  rfl

/-- A directory of a grown tree is listed: itself, its parent, and each of its children once. -/
theorem Grown.dirEntries (grown : Grown files tree) (positive : ino ≠ 0)
    (found : tree[ino - 1]? = some node) :
    ∃ entries, FileList.dirEntries tree ino node = some entries ∧
      entries.map DirEntry.ino = ino :: node.parent.toList ++ childrenOf tree ino := by
  have place : ino - 1 + 1 = ino := Nat.succ_pred positive
  have children : node.children = childrenOf tree ino := by
    rw [grown.linked (ino - 1) node found, place]
  have all : ∀ inode ∈ node.children, (childEntry tree inode).isSome := by
    intro inode member
    rw [children] at member
    obtain ⟨place, child, rfl, here, -⟩ := mem_childrenOf.mp member
    simp [childEntry, here]
  obtain ⟨read, listed⟩ := Option.isSome_iff_exists.mp (mapM_isSome all)
  refine ⟨_, by rw [FileList.dirEntries, listed]; rfl, ?_⟩
  rw [numbered_ino, List.map_append, mapM_map_fst listed, children]
  cases node.parent with
  | none => rfl
  | some parent => rfl

/-- A page keeps the listings. -/
theorem Streams.readdir (streams : Streams past context) (call : ReaddirCall)
    (roomy : ∀ entry, call.fits [] entry = true) :
    Streams (past ++ [.reply call (context.server.readdir call)]) context := by
  have reads : context.server.readdir call ≠ .panicked ∧
      ∀ page, context.server.readdir call = .page page →
        call.fh ∈ context.server.handlersAt call.ino ∧
          ReadFrom context.server.nodes call.ino (call.offset, page) := by
    unfold FuseServer.readdir
    split
    next => exact ⟨by rintro ⟨⟩, by rintro page ⟨⟩⟩
    next entry here =>
      split
      next => exact ⟨by rintro ⟨⟩, by rintro page ⟨⟩⟩
      next held =>
        split
        next => exact ⟨by rintro ⟨⟩, by rintro page ⟨⟩⟩
        next =>
          obtain ⟨positive, found⟩ := nodes_of_entry here
          have opened : call.fh ∈ context.server.handlersAt call.ino := by
            rw [FuseServer.handlersAt_eq here]
            exact haveHandler_mem (by simpa using held)
          rcases streams.grown with empty | ⟨files, grown⟩
          · rw [empty] at found
            cases found
          · obtain ⟨entries, listed, -⟩ := grown.dirEntries positive found
            rw [listed]
            refine ⟨by rintro ⟨⟩, ?_⟩
            rintro page ⟨⟩
            refine ⟨opened, entry.node, entries, positive, found, listed, ?_, ?_⟩
            · exact Paging.fill_prefix call.fits [] (entries.drop call.offset)
            · exact Paging.eq_nil_of_fill roomy
  refine ⟨streams.ordered, streams.grown, ?_, ?_⟩
  · intro ino fh
    obtain ⟨files, tree, grown, current, pages⟩ := streams.streams ino fh
    refine ⟨files, tree, grown, current, fun page member => ?_⟩
    rw [pagesOf, List.filterMap_append] at member
    rcases List.mem_append.mp member with old | new
    · exact pages page old
    · obtain ⟨output, single, read⟩ := List.mem_filterMap.mp new
      rw [List.mem_singleton.mp single] at read
      cases reply : context.server.readdir call with
      | failed errno =>
          rw [reply] at read
          cases read
      | panicked =>
          rw [reply] at read
          cases read
      | page entries =>
          obtain ⟨opened, source⟩ := reads.2 entries reply
          rw [reply, pageOf] at read
          split at read
          next same =>
            cases read
            obtain ⟨rfl, rfl⟩ := same
            rw [← current opened]
            exact ⟨streams.ordered.below call.ino call.fh opened, source⟩
          next => cases read
  · intro other member
    rcases List.mem_append.mp member with old | new
    · exact streams.quiet other old
    · rw [List.mem_singleton] at new
      injection new with same panicked
      exact reads.1 panicked.symm

/-- One event keeps the listings. -/
theorem Streams.mount (streams : Streams past context) (event : MountEvent)
    (fresh : context.server.fileHandleCounter + 1 < 2 ^ 64)
    (roomy : ∀ call, event = .readdir call → ∀ entry, call.fits [] entry = true) :
    Streams (past ++ (FuseContext.mount.step context event).2)
      (FuseContext.mount.step context event).1 := by
  cases event with
  | context event => exact streams.stepped fresh (step_stepped context event)
  | readdir call =>
      simp only [FuseContext.mount, FuseContext.mountStep]
      split
      next =>
        rw [List.append_nil]
        exact streams
      next => exact streams.readdir call (roomy call rfl)

theorem streams_new (mountPoint : Path) : Streams [] (FuseContext.new mountPoint) where
  ordered := Ordered.new mountPoint
  grown := .inl rfl
  streams ino fh := by
    refine ⟨[], _, (Grown.start : Grown [] (Growth.start 0).tree), ?_, by simp [pagesOf]⟩
    intro member
    rw [handlersAt_of_nodes rfl] at member
    cases member
  quiet := by simp

/-- The kernel reads a directory page by page while the other calls go on. Pages that resume each other
through one handle are a part of one listing, and all of it where the last one is empty. The listing
is that of a tree that has grown from an accepted list. -/
theorem readdir_pages (mountPoint : Path) (events : List MountEvent)
    (fresh : FuseContext.mount.Guarded
      (fun context _ => context.server.fileHandleCounter + 1 < 2 ^ 64)
      (FuseContext.new mountPoint) events)
    (roomy : ∀ call, .readdir call ∈ events → ∀ entry, call.fits [] entry = true) (ino fh : Nat)
    (pages : List (Nat × List DirEntry)) (nonempty : pages ≠ [])
    (sublist : pages.Sublist
      (pagesOf ino fh (FuseContext.mount.run (FuseContext.new mountPoint) events).2))
    (resumes : Paging.Resumes 0 pages) :
    ∃ (files : List FileDescription) (tree : List FuseNode) (node : FuseNode)
        (entries : List DirEntry),
      Grown files tree ∧ tree[ino - 1]? = some node ∧ dirEntries tree ino node = some entries ∧
      entries.map DirEntry.ino = ino :: node.parent.toList ++ childrenOf tree ino ∧
      (pages.map Prod.snd).flatten <+: entries ∧
      ∀ last, pages.getLast? = some (last, []) → (pages.map Prod.snd).flatten = entries := by
  have guarded : FuseContext.mount.Guarded
      (fun context event => context.server.fileHandleCounter + 1 < 2 ^ 64 ∧
        ∀ call, event = .readdir call → ∀ entry, call.fits [] entry = true)
      (FuseContext.new mountPoint) events := by
    rw [Machine.guarded_iff_split] at fresh ⊢
    intro before event after split
    refine ⟨fresh before event after split, ?_⟩
    rintro call rfl
    exact roomy call (by rw [split]; simp)
  have streams := FuseContext.mount.run_invariant _ (fun context past => Streams past context)
    (fun context past event met streams => streams.mount event met.1 met.2)
    (FuseContext.new mountPoint) [] events (streams_new mountPoint) guarded
  rw [List.nil_append] at streams
  obtain ⟨files, tree, grown, -, read⟩ := streams.streams ino fh
  obtain ⟨first, rest, rfl⟩ := List.exists_cons_of_ne_nil nonempty
  obtain ⟨node, entries, positive, found, listed, -⟩ :=
    (read first (sublist.subset List.mem_cons_self)).2
  have parts : ∀ page ∈ first :: rest, page.2 <+: entries.drop page.1 ∧
      (page.2 = [] → entries.drop page.1 = []) := by
    intro page member
    obtain ⟨other, others, -, there, again, part, empty⟩ := (read page (sublist.subset member)).2
    cases Option.some.inj (found.symm.trans there)
    cases Option.some.inj (listed.symm.trans again)
    exact ⟨part, empty⟩
  obtain ⟨same, again, inodes⟩ := grown.dirEntries positive found
  cases Option.some.inj (listed.symm.trans again)
  refine ⟨files, tree, node, entries, grown, found, listed, inodes, ?_, ?_⟩
  · exact Paging.flatten_prefix (fun page member => (parts page member).1) resumes
  · intro last ends
    have left := (parts _ (List.mem_of_getLast? ends)).2 rfl
    exact Paging.flatten_whole (fun page member => (parts page member).1) resumes ends left

/-- A buffer with room for two entries. -/
def twoEntries (ino fh offset : Nat) : ReaddirCall := ⟨ino, fh, offset, fun page _ => page.length < 2⟩

/-- The root directory with one file is read in a page while the file is opened, and a last page. -/
def samplePages : List MountEvent :=
  [.context (.formatDataResponse 1 5 (samplePdu 0 [97]) 0), .context (.opendir 1),
    .readdir (twoEntries 1 0 0), .context (.openFile 2), .readdir (twoEntries 1 0 2)]

theorem readdir_pages_sample :
    ∃ (files : List FileDescription) (tree : List FuseNode) (node : FuseNode)
        (entries : List DirEntry),
      Grown files tree ∧ tree[1 - 1]? = some node ∧ dirEntries tree 1 node = some entries ∧
      entries.map DirEntry.ino = 1 :: node.parent.toList ++ childrenOf tree 1 ∧
      [⟨1, 1, .directory, ['.']⟩, ⟨2, 2, .file, ['a']⟩] <+: entries ∧
      ∀ last, some (2, []) = some (last, ([] : List DirEntry)) →
        [⟨1, 1, .directory, ['.']⟩, ⟨2, 2, .file, ['a']⟩] = entries := by
  refine readdir_pages "/m".toList samplePages (by decide +kernel) ?_ 1 0
    [(0, [⟨1, 1, .directory, ['.']⟩, ⟨2, 2, .file, ['a']⟩]), (2, [])] (by simp) ?_
    ⟨rfl, rfl, trivial⟩
  · intro call member entry
    simp only [samplePages, List.mem_cons, List.not_mem_nil, reduceCtorEq, false_or, or_false,
      MountEvent.readdir.injEq] at member
    rcases member with rfl | rfl
    · rfl
    · rfl
  · have pages : pagesOf 1 0 (FuseContext.mount.run (FuseContext.new "/m".toList) samplePages).2 =
        [(0, [⟨1, 1, .directory, ['.']⟩, ⟨2, 2, .file, ['a']⟩]), (2, [])] := by
      decide +kernel
    rw [pages]

end SubnetDesk.Clipboard.FileList
