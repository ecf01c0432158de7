import SubnetDesk.Construction.Clipboard.FuseContext
import SubnetDesk.Proof.Clipboard.MountedFiles

namespace SubnetDesk.Clipboard.FileList

open FileTree FileTransfer BinarySearch

/-- The openings of a handle on an inode, without the ones that are released or that went with their
list. -/
def heldAfter (ino fh count : Nat) : FuseOutput → Nat
  | .loaded _ _ _ => 0
  | .emptied _ _ => 0
  | .opened other handle => if other = ino ∧ handle = fh then count + 1 else count
  | .released other handle => if other = ino ∧ handle = fh then count - 1 else count
  | _ => count

def held (past : List FuseOutput) (ino fh : Nat) : Nat := past.foldl (heldAfter ino fh) 0

def supplierAfter (supplier : Option (Nat × Int)) : FuseOutput → Option (Nat × Int)
  | .loaded peer connId _ => some (peer, connId)
  | .emptied _ _ => none
  | _ => supplier

/-- The connection that the current list comes from, with its id. -/
def supplier (past : List FuseOutput) : Option (Nat × Int) := past.foldl supplierAfter none

/-- The data of a read come from the supplier of the list, in answer to this read, and no other
connection empties its list. -/
def Served (past : List FuseOutput) : FuseOutput → Prop
  | .data number ino fh bytes =>
      0 < held past ino fh ∧
        ∃ peer connId request msgFlags, supplier past = some (peer, connId) ∧
          .requested number ino fh connId request ∈ past ∧
          .delivered ⟨peer, some number,
            .fileContentsResponse msgFlags request.streamId bytes⟩ ∈ past ∧
          bytes.length ≤ request.cbRequested.toNat
  | .emptied peer _ => ∀ owner, supplier past = some owner → owner.1 = peer
  | _ => True

/-- The data of a read are those of a successful response with the stream id of its own request,
which went to the supplier of the list. -/
def Answered (past : List FuseOutput) (number ino fh : Nat) (bytes : List UInt8) : Prop :=
  ∃ peer connId request, supplier past = some (peer, connId) ∧
    .requested number ino fh connId request ∈ past ∧
    (∀ ino fh connId other, .requested number ino fh connId other ∈ past → other = request) ∧
    ∃ reply msgFlags, .delivered reply ∈ past ∧ msgFlags &&& 1 ≠ 0 ∧
      reply.clip = .fileContentsResponse msgFlags request.streamId bytes

/-- An id other than zero empties the list that was loaded under it. -/
def Kept (past : List FuseOutput) : FuseOutput → Prop
  | .data number ino fh bytes => 0 < held past ino fh ∧ Answered past number ino fh bytes
  | .emptied _ connId => connId ≠ 0 → ∀ owner, supplier past = some owner → owner.2 = connId
  | .panicked => False
  | _ => True

/-- These outputs tell of no change. -/
def Calm : FuseOutput → Prop
  | .found _ => True
  | .failed _ => True
  | .rejected _ => True
  | .refused _ _ => True
  | _ => False

/-- These outputs leave the list and the handles as they are. -/
def Still : FuseOutput → Prop
  | .opened _ _ => False
  | .released _ _ => False
  | .loaded _ _ _ => False
  | .emptied _ _ => False
  | _ => True

/-- The queue and the waiting read of a context after a turn of the loop. -/
def FuseContext.after (context : FuseContext) (rx : List PeerReply)
    (pending : Option PendingRead) : FuseContext :=
  { context with
    server := { context.server with rx := rx }
    pending := pending }

/-- The handlers of one entry are replaced. -/
def FuseContext.withHandlers (context : FuseContext) (server : FuseServer) (ino : Nat)
    (entry : FuseEntry) (handlers : List Nat) : FuseContext :=
  { context with server := server.setHandles ino { entry.fileHandlers with handlers := handlers } }

/-- What a step can do. -/
inductive Stepped (context : FuseContext) : FuseContext → List FuseOutput → Prop
  | calm {outputs : List FuseOutput} (calm : ∀ output ∈ outputs, Calm output) :
      Stepped context context outputs
  | started (now : Nat) : Stepped context { context with server := context.server.init now } []
  | loaded (idle : context.pending = none) {peer now : Nat} {connId : Int} {formatData : List UInt8}
      {files : List FileDescription} {server : FuseServer} {urls : List Path}
      (parsed : parseFileDescriptors formatData connId = .ok files)
      (loaded : context.server.loadFileList now files = .ok server) :
      Stepped context { context with server := server, connId := connId }
        [.loaded peer connId urls]
  | emptied (idle : context.pending = none) {peer now : Nat} {connId : Int} {server : FuseServer}
      (meant : connId = 0 ∨ context.connId = connId)
      (loaded : context.server.loadFileList now [] = .ok server) :
      Stepped context { context with server := server } [.emptied peer connId]
  | opened (idle : context.pending = none) {ino : Nat} {entry : FuseEntry}
      (here : context.server.entry ino = some entry) :
      Stepped context
        (context.withHandlers context.server.allocFd.2 ino entry
          (entry.fileHandlers.handlers ++ [context.server.fileHandleCounter]))
        [.opened ino context.server.fileHandleCounter]
  | released (idle : context.pending = none) {ino fh idx : Nat} {entry : FuseEntry}
      (here : context.server.entry ino = some entry)
      (found : entry.fileHandlers.handlers[idx]? = some fh) :
      Stepped context
        (context.withHandlers context.server ino entry
          (entry.fileHandlers.handlers.eraseIdx idx))
        [.released ino fh]
  | asked (idle : context.pending = none) {read : PendingRead} {entry : FuseEntry}
      (here : context.server.entry read.ino = some entry)
      (found : read.fh ∈ entry.fileHandlers.handlers)
      (regular : entry.node.attributes.kind = .file) (number : read.number = context.reads)
      (connId : read.connId = entry.node.connId) :
      Stepped context { context with reads := context.reads + 1, pending := some read }
        [read.output]
  | skipped {reply : PeerReply} {rest : List PeerReply} (queue : context.server.rx = reply :: rest) :
      Stepped context (context.after rest context.pending) []
  | resent {read again : PendingRead} {reply : PeerReply} {rest : List PeerReply}
      (waits : context.pending = some read) (queue : context.server.rx = reply :: rest)
      (retried : again = { read with retryTimes := read.retryTimes + 1 }) :
      Stepped context (context.after rest (some again)) [again.output]
  | ended {rest : List PeerReply} (queue : rest <:+ context.server.rx) :
      Stepped context (context.after rest none) [.failed .inputOutput]
  | answered {read : PendingRead} {reply : PeerReply} {rest : List PeerReply}
      {msgFlags : BitVec 32} {bytes : List UInt8} (waits : context.pending = some read)
      (queue : context.server.rx = reply :: rest)
      (clip : reply.clip = .fileContentsResponse msgFlags read.request.streamId bytes)
      (success : msgFlags &&& 1 ≠ 0) :
      Stepped context (context.after rest none) [.data read.number read.ino read.fh bytes]
  | delivered (reply : PeerReply) :
      Stepped context (context.after (context.server.rx ++ [reply]) context.pending)
        [.delivered reply]

variable {context : FuseContext} {server : FuseServer} {past outputs : List FuseOutput}
  {ino fh now : Nat} {entry : FuseEntry}

/-- A handle that the search finds is there. -/
theorem haveHandler_mem {handles : FileHandles} (have_ : handles.haveHandler fh = true) :
    fh ∈ handles.handlers := by
  obtain ⟨place, found⟩ := Option.isSome_iff_exists.mp have_
  exact List.mem_of_getElem? (binarySearch_sound found)

/-- A release takes one copy of the handle. -/
theorem unregister_some {handles left : FileHandles} (removed : handles.unregister fh = some left) :
    ∃ idx, handles.handlers[idx]? = some fh ∧
      left = { handles with handlers := handles.handlers.eraseIdx idx } := by
  unfold FileHandles.unregister at removed
  rw [Option.map_eq_some_iff] at removed
  obtain ⟨idx, found, equal⟩ := removed
  exact ⟨idx, binarySearch_sound found, equal.symm⟩

theorem Stepped.failed (context : FuseContext) (errno : CallErrno) :
    Stepped context context [.failed errno] :=
  .calm (List.forall_mem_singleton.mpr trivial)

theorem Stepped.nothing (context : FuseContext) : Stepped context context [] :=
  .calm (fun _ member => absurd member List.not_mem_nil)

/-- A call of the kernel takes a step, where its own outcome is one. -/
theorem whileIdle_stepped (context : FuseContext)
    (call : FuseServer → FuseServer × List FuseOutput)
    (steps : context.pending = none →
      Stepped context { context with server := (call context.server).1 } (call context.server).2) :
    Stepped context (context.whileIdle call).1 (context.whileIdle call).2 := by
  unfold FuseContext.whileIdle
  cases waits : context.pending with
  | none =>
      have next := steps waits
      rw [waits] at next
      exact next
  | some read => exact .nothing context

/-- The open of an entry is a step. -/
theorem openEntry_stepped (context : FuseContext) (kind : FileType) (wrongKind : CallErrno)
    (ino : Nat) (idle : context.pending = none) :
    Stepped context
      { context with server := (context.server.openEntry kind wrongKind ino).1 }
      [(context.server.openEntry kind wrongKind ino).2] := by
  unfold FuseServer.openEntry
  cases here : context.server.entry ino with
  | none => exact .failed context _
  | some entry =>
      dsimp only
      split
      next => exact .failed context _
      next =>
        split
        next => exact .failed context _
        next unmarked =>
          unfold FileHandles.addHandler
          rw [if_neg unmarked]
          exact .opened idle here

/-- The release of a handle is a step. -/
theorem release_stepped (context : FuseContext) (ino fh : Nat) (idle : context.pending = none) :
    Stepped context { context with server := (context.server.release ino fh).1 }
      [(context.server.release ino fh).2] := by
  unfold FuseServer.release
  cases here : context.server.entry ino with
  | none => exact .failed context _
  | some entry =>
      dsimp only
      cases removed : entry.fileHandlers.unregister fh with
      | none => exact .failed context _
      | some left =>
          obtain ⟨idx, found, rfl⟩ := unregister_some removed
          exact .released idle here found

theorem releasedir_stepped (context : FuseContext) (ino fh : Nat)
    (idle : context.pending = none) :
    Stepped context { context with server := (context.server.releasedir ino fh).1 }
      [(context.server.releasedir ino fh).2] := by
  unfold FuseServer.releasedir
  cases here : context.server.entry ino with
  | none => exact .failed context _
  | some entry =>
      dsimp only
      split
      next => exact .failed context _
      next =>
        split
        next have_ =>
          cases removed : entry.fileHandlers.unregister fh with
          | none =>
              unfold FileHandles.unregister at removed
              rw [Option.map_eq_none_iff] at removed
              unfold FileHandles.haveHandler at have_
              rw [removed] at have_
              cases have_
          | some left =>
              obtain ⟨idx, found, rfl⟩ := unregister_some removed
              exact .released idle here found
        next => exact .failed context _

/-- A readable file is there and open. -/
theorem readable_ok {node : FuseNode} (readable : server.readable ino fh = .ok node) :
    ∃ entry, server.entry ino = some entry ∧ fh ∈ entry.fileHandlers.handlers ∧
      entry.node.attributes.kind = .file ∧ node = entry.node := by
  unfold FuseServer.readable at readable
  cases here : server.entry ino with
  | none =>
      rw [here] at readable
      cases readable
  | some entry =>
      rw [here] at readable
      dsimp only at readable
      split at readable
      next => cases readable
      next have_ =>
        rw [Bool.not_eq_false] at have_
        split at readable
        next => cases readable
        next regular =>
          split at readable
          next => cases readable
          next =>
            cases readable
            exact ⟨entry, rfl, haveHandler_mem have_, not_not.mp regular, rfl⟩

/-- The request of a read is a step. -/
theorem read_stepped (context : FuseContext) (ino fh : Nat) (offset : BitVec 64)
    (size streamId : BitVec 32) (sent : Bool) :
    Stepped context (context.read ino fh offset size streamId sent).1
      (context.read ino fh offset size streamId sent).2 := by
  unfold FuseContext.read
  cases waits : context.pending with
  | some read => exact .nothing context
  | none =>
      dsimp only
      cases readable : context.server.readable ino fh with
      | error errno => exact .failed context errno
      | ok node =>
          obtain ⟨entry, here, found, regular, rfl⟩ := readable_ok readable
          dsimp only
          split
          next => exact .asked waits here found regular rfl rfl
          next => exact .failed context _

/-- The receipt of an answer is a step. -/
theorem receive_stepped (context : FuseContext) (sent : Bool) :
    Stepped context (context.receive sent).1 (context.receive sent).2 := by
  unfold FuseContext.receive
  split
  next read reply rest waits queue =>
    have ended : Stepped context (context.after rest none) [.failed .inputOutput] :=
      .ended (queue ▸ List.suffix_cons reply rest)
    have skipped := Stepped.skipped queue
    unfold FuseContext.turn
    split
    next msgFlags streamId bytes clip =>
      split
      next => exact skipped
      next same =>
        rw [not_not] at same
        subst same
        split
        next =>
          dsimp only
          split
          next => exact ended
          next =>
            split
            next => exact .resent waits queue rfl
            next => exact ended
        next success => exact .answered waits queue clip success
    next => exact ended
  next => exact .nothing context

/-- A timeout is a step. -/
theorem timeout_stepped (context : FuseContext) :
    Stepped context context.timeout.1 context.timeout.2 := by
  unfold FuseContext.timeout
  split
  next read waits empty =>
    have ended : Stepped context (context.after context.server.rx none) [.failed .inputOutput] :=
      .ended List.suffix_rfl
    exact ended
  next => exact .nothing context

/-- Emptying the files of a peer is a step. -/
theorem tryEmpty_stepped (context : FuseContext) (peer : Nat) (connId : Int) (now : Nat) :
    Stepped context (context.emptyLocalFiles peer connId now).1
      (context.emptyLocalFiles peer connId now).2 := by
  unfold FuseContext.emptyLocalFiles
  split
  next => exact .calm (List.forall_mem_singleton.mpr trivial)
  next meant =>
    have allowed : connId = 0 ∨ context.connId = connId := by
      rw [not_and_or, not_not, not_not] at meant
      exact meant
    cases waits : context.pending with
    | some read => exact .nothing context
    | none =>
        dsimp only
        cases loaded : context.server.loadFileList now [] with
        | error error => cases loaded
        | ok server =>
            have next : Stepped context { context with server := server }
                [.emptied peer connId] := .emptied waits allowed loaded
            rw [waits] at next
            exact next

/-- A list of a peer is a step. -/
theorem formatDataResponse_stepped (context : FuseContext) (peer : Nat) (connId : Int)
    (formatData : List UInt8) (now : Nat) (idle : context.pending = none) :
    Stepped context (context.formatDataResponseToUrls peer connId formatData now).1
      (context.formatDataResponseToUrls peer connId formatData now).2 := by
  unfold FuseContext.formatDataResponseToUrls
  cases parsed : parseFileDescriptors formatData connId with
  | error failure => exact .calm (List.forall_mem_singleton.mpr trivial)
  | ok files =>
      dsimp only
      cases loaded : context.server.loadFileList now files with
      | error error => exact .calm (List.forall_mem_singleton.mpr trivial)
      | ok server => exact .loaded idle parsed loaded

/-- A lookup opens, asks and delivers nothing. -/
theorem lookup_calm (server : FuseServer) (parent : Nat) (name : OsSegment) :
    ∀ output ∈ [server.lookup parent name], Calm output := by
  rw [List.forall_mem_singleton]
  unfold FuseServer.lookup
  split
  next => trivial
  next => trivial

/-- Every event takes one of these steps. -/
theorem step_stepped (context : FuseContext) (event : FuseEvent) :
    Stepped context (context.step event).1 (context.step event).2 := by
  cases event with
  | init now => exact whileIdle_stepped context _ fun _ => .started now
  | lookup parent name =>
      exact whileIdle_stepped context _ fun _ => .calm (lookup_calm context.server parent name)
  | opendir ino => exact whileIdle_stepped context _ (openEntry_stepped context _ _ ino)
  | openFile ino => exact whileIdle_stepped context _ (openEntry_stepped context _ _ ino)
  | release ino fh => exact whileIdle_stepped context _ (release_stepped context ino fh)
  | releasedir ino fh => exact whileIdle_stepped context _ (releasedir_stepped context ino fh)
  | read ino fh offset size streamId sent =>
      exact read_stepped context ino fh offset size streamId sent
  | receive sent => exact receive_stepped context sent
  | timeout => exact timeout_stepped context
  | formatDataResponse peer connId formatData now =>
      unfold FuseContext.step
      cases waits : context.pending with
      | some read => exact .nothing context
      | none => exact formatDataResponse_stepped context peer connId formatData now waits
  | tryEmpty peer connId now => exact tryEmpty_stepped context peer connId now
  | fileContentsResponse reply => exact .delivered reply

section Records

theorem held_append (past : List FuseOutput) (output : FuseOutput) (ino fh : Nat) :
    held (past ++ [output]) ino fh = heldAfter ino fh (held past ino fh) output := by
  simp [held]

theorem supplier_append (past : List FuseOutput) (output : FuseOutput) :
    supplier (past ++ [output]) = supplierAfter (supplier past) output := by
  simp [supplier]

/-- An open counts for its own handle. -/
theorem heldAfter_opened (ino fh count other handle : Nat) :
    heldAfter ino fh count (.opened other handle) =
      if other = ino ∧ handle = fh then count + 1 else count :=
  rfl

/-- A release counts for its own handle. -/
theorem heldAfter_released (ino fh count other handle : Nat) :
    heldAfter ino fh count (.released other handle) =
      if other = ino ∧ handle = fh then count - 1 else count :=
  rfl

/-- Other outputs hold no handle. -/
theorem held_still (still : ∀ output ∈ outputs, Still output) (ino fh : Nat) :
    held (past ++ outputs) ino fh = held past ino fh := by
  induction outputs using List.reverseRecOn with
  | nil => rw [List.append_nil]
  | append_singleton rest output ih =>
      rw [List.forall_mem_append, List.forall_mem_singleton] at still
      rw [← List.append_assoc, held_append, ih still.1]
      cases output with
      | opened other handle => exact absurd still.2 id
      | released other handle => exact absurd still.2 id
      | loaded peer connId urls => exact absurd still.2 id
      | emptied peer connId => exact absurd still.2 id
      | _ => rfl

/-- Other outputs keep the supplier. -/
theorem supplier_still (still : ∀ output ∈ outputs, Still output) :
    supplier (past ++ outputs) = supplier past := by
  induction outputs using List.reverseRecOn with
  | nil => rw [List.append_nil]
  | append_singleton rest output ih =>
      rw [List.forall_mem_append, List.forall_mem_singleton] at still
      rw [← List.append_assoc, supplier_append, ih still.1]
      cases output with
      | loaded peer connId urls => exact absurd still.2 id
      | emptied peer connId => exact absurd still.2 id
      | _ => rfl

def FuseServer.handlersAt (server : FuseServer) (ino : Nat) : List Nat :=
  match server.entry ino with
  | some entry => entry.fileHandlers.handlers
  | none => []

theorem FuseServer.handlersAt_eq (here : server.entry ino = some entry) :
    server.handlersAt ino = entry.fileHandlers.handlers := by
  rw [handlersAt, here]

theorem FuseServer.handlersAt_congr {other : FuseServer} (files : other.files = server.files) :
    other.handlersAt = server.handlersAt := by
  funext ino
  rw [handlersAt, handlersAt, entry, entry, files]

theorem FuseServer.mem_of_entry (here : server.entry ino = some entry) :
    entry ∈ server.files := by
  unfold FuseServer.entry at here
  split at here
  next => cases here
  next => exact List.mem_of_getElem? here

/-- New handles change one entry. -/
theorem FuseServer.entry_setHandles (here : server.entry ino = some entry)
    (handles : FileHandles) (other : Nat) :
    (server.setHandles ino handles).entry other =
      if other = ino then some { entry with fileHandlers := handles } else server.entry other := by
  unfold FuseServer.entry at here ⊢
  split at here
  next => cases here
  next positive =>
    unfold setHandles
    rw [List.getElem?_modify]
    by_cases same : other = ino
    · subst same
      rw [if_neg positive, if_pos rfl, here]
      simp
    · rw [if_neg same]
      split
      next => rfl
      next =>
        have apart : ¬ ino - 1 = other - 1 := by omega
        simp [apart]

/-- New handles count at one inode. -/
theorem FuseServer.handlersAt_setHandles (here : server.entry ino = some entry)
    (handles : FileHandles) (other : Nat) :
    (server.setHandles ino handles).handlersAt other =
      if other = ino then handles.handlers else server.handlersAt other := by
  unfold handlersAt
  rw [entry_setHandles here]
  by_cases same : other = ino
  · rw [if_pos same, if_pos same]
  · rw [if_neg same, if_neg same]

/-- A handle that is removed by its place goes once. -/
theorem count_eraseIdx {handlers : List Nat} {idx : Nat} (found : handlers[idx]? = some fh)
    (other : Nat) :
    (handlers.eraseIdx idx).count other =
      if fh = other then handlers.count other - 1 else handlers.count other := by
  obtain ⟨inside, equal⟩ := List.getElem?_eq_some_iff.mp found
  have whole := (List.getElem_cons_eraseIdx_perm inside).count_eq other
  rw [equal, List.count_cons] at whole
  by_cases same : fh = other
  · rw [if_pos same]
    rw [if_pos (beq_iff_eq.mpr same)] at whole
    omega
  · rw [if_neg same]
    rw [if_neg (by simpa using same)] at whole
    omega

end Records

section Lists

variable {files : List FileDescription} {connId : Int}

/-- The regular files of a tree carry the id of its list. -/
theorem buildTree_supplied {tree : List FuseNode} (sent : ∀ file ∈ files, file.connId = connId)
    (built : buildTree now files = .ok tree) :
    ∀ node ∈ tree, node.attributes.kind = .file → node.connId = connId := by
  have grown := buildTree_grown built
  intro node member regular
  obtain ⟨place, here⟩ := List.getElem?_of_mem member
  cases place with
  | zero =>
      obtain ⟨root, atRoot, -, kind, -⟩ := grown.root
      cases here.symm.trans atRoot
      cases kind.symm.trans regular
  | succ place =>
      have inside := (List.getElem?_eq_some_iff.mp here).1
      rw [grown.length] at inside
      have found := List.getElem?_eq_getElem (Nat.lt_of_succ_lt_succ inside)
      obtain ⟨other, same, stands, -⟩ := grown.stands place _ found
      cases here.symm.trans same
      rw [stands.2.1]
      exact sent _ (List.getElem_mem _)

/-- A loaded list is a tree without handles. -/
theorem loadFileList_eq {loaded : FuseServer} (ok : server.loadFileList now files = .ok loaded) :
    ∃ tree, buildTree now files = .ok tree ∧ loaded.files = tree.map FuseEntry.new ∧
      loaded.rx = server.rx := by
  unfold FuseServer.loadFileList at ok
  cases built : buildTree now files with
  | error error =>
      rw [built] at ok
      cases ok
  | ok tree =>
      rw [built] at ok
      cases ok
      exact ⟨tree, rfl, rfl, rfl⟩

/-- A loaded list has no handles. -/
theorem loadFileList_handlersAt {loaded : FuseServer}
    (ok : server.loadFileList now files = .ok loaded) (ino : Nat) :
    loaded.handlersAt ino = [] := by
  obtain ⟨tree, -, listed, -⟩ := loadFileList_eq ok
  cases here : loaded.entry ino with
  | none => rw [FuseServer.handlersAt, here]
  | some entry =>
      have member := FuseServer.mem_of_entry here
      rw [listed] at member
      obtain ⟨node, -, rfl⟩ := List.mem_map.mp member
      exact FuseServer.handlersAt_eq here

/-- The regular files of a loaded list carry its id. -/
theorem loadFileList_supplied {loaded : FuseServer} (sent : ∀ file ∈ files, file.connId = connId)
    (ok : server.loadFileList now files = .ok loaded) :
    ∀ entry ∈ loaded.files, entry.node.attributes.kind = .file → entry.node.connId = connId := by
  obtain ⟨tree, built, listed, -⟩ := loadFileList_eq ok
  rw [listed]
  intro entry member
  obtain ⟨node, here, rfl⟩ := List.mem_map.mp member
  exact buildTree_supplied sent built node here

theorem init_handlersAt (server : FuseServer) (now ino : Nat) :
    (server.init now).handlersAt ino = server.handlersAt ino := by
  unfold FuseServer.init
  split
  next empty =>
    unfold FuseServer.handlersAt FuseServer.entry
    rw [empty]
    by_cases root : ino - 1 = 0
    · by_cases zero : ino = 0
      · simp [zero]
      · simp [zero, root, FuseEntry.new, FileHandles.new]
    · rw [List.getElem?_nil, List.getElem?_eq_none (by simp; omega)]
  next => rfl

theorem init_counter (server : FuseServer) (now : Nat) :
    (server.init now).fileHandleCounter = server.fileHandleCounter := by
  unfold FuseServer.init
  split
  next => rfl
  next => rfl

end Lists

/-- A read that waits has an open handle on a file of the current list, and its only request is in
the records. -/
structure Waiting (past : List FuseOutput) (read : PendingRead) : Prop where
  holds : 0 < held past read.ino read.fh
  supplied : ∃ peer, supplier past = some (peer, read.connId)
  sent : read.output ∈ past
  unique : ∀ ino fh connId request,
    .requested read.number ino fh connId request ∈ past → request = read.request

/-- The context agrees with what is recorded of its past. -/
structure Recorded (past : List FuseOutput) (context : FuseContext) : Prop where
  handlers : ∀ ino fh, (context.server.handlersAt ino).count fh = held past ino fh
  supplied : ∀ entry ∈ context.server.files, entry.node.attributes.kind = .file →
    ∃ peer, supplier past = some (peer, entry.node.connId)
  owner : ∀ other, supplier past = some other → other.2 = context.connId
  queue : ∀ reply ∈ context.server.rx, .delivered reply ∈ past
  numbered : ∀ number ino fh connId request,
    .requested number ino fh connId request ∈ past → number < context.reads
  waiting : ∀ read, context.pending = some read → Waiting past read

/-- A waiting read goes on waiting. -/
theorem Waiting.still {read : PendingRead} (waiting : Waiting past read)
    (still : ∀ output ∈ outputs, Still output)
    (same : ∀ ino fh connId request,
      .requested read.number ino fh connId request ∈ outputs → request = read.request) :
    Waiting (past ++ outputs) read where
  holds := by
    rw [held_still still]
    exact waiting.holds
  supplied := by
    rw [supplier_still still]
    exact waiting.supplied
  sent := List.mem_append_left _ waiting.sent
  unique := by
    intro ino fh connId request member
    cases List.mem_append.mp member with
    | inl old => exact waiting.unique _ _ _ _ old
    | inr new => exact same _ _ _ _ new

/-- A step that changes neither the list nor the handles keeps the records. -/
theorem Recorded.still {next : FuseContext} (recorded : Recorded past context)
    (still : ∀ output ∈ outputs, Still output) (files : next.server.files = context.server.files)
    (connId : next.connId = context.connId)
    (queue : ∀ reply ∈ next.server.rx, .delivered reply ∈ past ++ outputs)
    (numbered : ∀ number ino fh connId request,
      .requested number ino fh connId request ∈ past ++ outputs → number < next.reads)
    (waiting : ∀ read, next.pending = some read → Waiting (past ++ outputs) read) :
    Recorded (past ++ outputs) next where
  handlers := by
    intro ino fh
    rw [FuseServer.handlersAt_congr files, held_still still]
    exact recorded.handlers ino fh
  supplied := by
    rw [files, supplier_still still]
    exact recorded.supplied
  owner := by
    rw [connId, supplier_still still]
    exact recorded.owner
  queue := queue
  numbered := numbered
  waiting := waiting

theorem Calm.still {output : FuseOutput} (calm : Calm output) : Still output := by
  cases output with
  | found result => trivial
  | failed errno => trivial
  | rejected failure => trivial
  | refused peer connId => trivial
  | _ => exact absurd calm id

/-- Calm outputs judge nothing. -/
theorem judged_calm (past : List FuseOutput) (calm : ∀ output ∈ outputs, Calm output) :
    Machine.Judged Kept past outputs := by
  induction outputs generalizing past with
  | nil => trivial
  | cons output rest ih =>
      rw [List.forall_mem_cons] at calm
      refine ⟨?_, ih _ calm.2⟩
      cases output with
      | found result => trivial
      | failed errno => trivial
      | rejected failure => trivial
      | refused peer connId => trivial
      | _ => exact absurd calm.1 id

/-- Calm outputs ask for nothing. -/
theorem not_requested_calm {number ino fh : Nat} {connId : Int} {request : FileContentsMessage}
    (calm : ∀ output ∈ outputs, Calm output) :
    .requested number ino fh connId request ∉ outputs :=
  fun member => calm _ member

/-- A request that is not new was recorded before. -/
theorem requested_append {number ino fh : Nat} {connId : Int} {request : FileContentsMessage}
    {output : FuseOutput} (member : .requested number ino fh connId request ∈ past ++ [output])
    (other : output ≠ .requested number ino fh connId request) :
    .requested number ino fh connId request ∈ past := by
  rw [List.mem_append, List.mem_singleton] at member
  exact member.resolve_right other.symm

/-- Calm outputs change no record. -/
theorem Recorded.calm (recorded : Recorded past context)
    (calm : ∀ output ∈ outputs, Calm output) : Recorded (past ++ outputs) context := by
  have still : ∀ output ∈ outputs, Still output := fun output member => (calm output member).still
  refine recorded.still still rfl rfl ?_ ?_ ?_
  · intro reply member
    exact List.mem_append_left _ (recorded.queue reply member)
  · intro number ino fh connId request member
    have old := (List.mem_append.mp member).resolve_right (not_requested_calm calm)
    exact recorded.numbered _ _ _ _ _ old
  · intro read waits
    refine (recorded.waiting read waits).still still ?_
    intro ino fh connId request member
    exact absurd member (not_requested_calm calm)

/-- The start of a mount changes no record. -/
theorem Recorded.started (recorded : Recorded past context) (now : Nat) :
    Recorded past { context with server := context.server.init now } where
  handlers := by
    intro ino fh
    rw [init_handlersAt]
    exact recorded.handlers ino fh
  supplied := by
    unfold FuseServer.init
    split
    next =>
      intro entry member regular
      rw [List.mem_singleton] at member
      subst member
      cases regular
    next => exact recorded.supplied
  owner := recorded.owner
  queue := by
    unfold FuseServer.init
    split
    next => exact recorded.queue
    next => exact recorded.queue
  numbered := recorded.numbered
  waiting := recorded.waiting

/-- A list replaces the one before it, with all handles. -/
theorem Recorded.replaced (recorded : Recorded past context) (idle : context.pending = none)
    {files : List FileDescription} {connId : Int} {loaded : FuseServer} {output : FuseOutput}
    {next : FuseContext} (sent : ∀ file ∈ files, file.connId = connId)
    (ok : context.server.loadFileList now files = .ok loaded)
    (server : next.server = loaded) (reads : next.reads = context.reads)
    (pending : next.pending = context.pending)
    (cleared : ∀ count ino fh, heldAfter ino fh count output = 0)
    (supplied : ∀ entry ∈ loaded.files, entry.node.attributes.kind = .file →
      ∃ peer, supplierAfter (supplier past) output = some (peer, connId))
    (owner : ∀ other, supplierAfter (supplier past) output = some other →
      other.2 = next.connId)
    (other : ∀ number ino fh connId request,
      output ≠ .requested number ino fh connId request) :
    Recorded (past ++ [output]) next := by
  obtain ⟨-, -, -, rx⟩ := loadFileList_eq ok
  have regular := loadFileList_supplied sent ok
  subst server
  refine ⟨?_, ?_, ?_, ?_, ?_, ?_⟩
  · intro ino fh
    rw [loadFileList_handlersAt ok, held_append, cleared]
    rfl
  · intro entry member kind
    rw [supplier_append, regular entry member kind]
    exact supplied entry member kind
  · rw [supplier_append]
    exact owner
  · rw [rx]
    intro reply member
    exact List.mem_append_left _ (recorded.queue reply member)
  · rw [reads]
    intro number ino fh connId request member
    exact recorded.numbered _ _ _ _ _ (requested_append member (other _ _ _ _ _))
  · rw [pending, idle]
    nofun

/-- The handles of one entry change as the records do. -/
theorem Recorded.changed (recorded : Recorded past context) (idle : context.pending = none)
    {changed : FuseServer} {output : FuseOutput} {handlers : List Nat}
    (files : changed.files = context.server.files) (rx : changed.rx = context.server.rx)
    (here : context.server.entry ino = some entry)
    (counted : ∀ other handle, heldAfter other handle (held past other handle) output =
      if other = ino then handlers.count handle else held past other handle)
    (supplied : supplierAfter (supplier past) output = supplier past)
    (other : ∀ number ino fh connId request,
      output ≠ .requested number ino fh connId request) :
    Recorded (past ++ [output]) (context.withHandlers changed ino entry handlers) := by
  have same : changed.entry ino = some entry := by
    unfold FuseServer.entry
    rw [files]
    exact here
  refine ⟨?_, ?_, ?_, ?_, ?_, ?_⟩
  · intro place handle
    have kept := recorded.handlers place handle
    unfold FuseContext.withHandlers
    dsimp only
    rw [FuseServer.handlersAt_setHandles same, held_append, counted, ← kept,
      FuseServer.handlersAt_congr files]
    split
    next => rfl
    next => rfl
  · intro changedEntry member kind
    rw [supplier_append, supplied]
    obtain ⟨place, found⟩ := List.getElem?_of_mem member
    unfold FuseContext.withHandlers FuseServer.setHandles at found
    dsimp only at found
    rw [List.getElem?_modify, Option.map_eq_map, Option.map_eq_some_iff] at found
    obtain ⟨old, atPlace, rfl⟩ := found
    rw [files] at atPlace
    have listed := List.mem_of_getElem? atPlace
    by_cases target : ino - 1 = place
    · rw [if_pos target] at kind ⊢
      exact recorded.supplied old listed kind
    · rw [if_neg target] at kind ⊢
      exact recorded.supplied old listed kind
  · rw [supplier_append, supplied]
    exact recorded.owner
  · intro reply member
    have queued : reply ∈ context.server.rx := by
      rw [← rx]
      exact member
    exact List.mem_append_left _ (recorded.queue reply queued)
  · intro number ino fh connId request member
    exact recorded.numbered _ _ _ _ _ (requested_append member (other _ _ _ _ _))
  · intro read waits
    cases idle.symm.trans waits

/-- An open adds its handle to the record. -/
theorem Recorded.opened (recorded : Recorded past context) (idle : context.pending = none)
    (here : context.server.entry ino = some entry) (fh : Nat) :
    Recorded (past ++ [.opened ino fh])
      (context.withHandlers context.server.allocFd.2 ino entry
        (entry.fileHandlers.handlers ++ [fh])) := by
  refine recorded.changed idle rfl rfl here ?_ rfl nofun
  intro other handle
  rw [heldAfter_opened]
  by_cases target : other = ino
  · subst target
    have kept := recorded.handlers other handle
    rw [FuseServer.handlersAt_eq here] at kept
    rw [if_pos rfl, List.count_append, kept, List.count_singleton]
    by_cases same : fh = handle
    · simp [same]
    · simp [same]
  · rw [if_neg target, if_neg (fun both => target both.1.symm)]

/-- A release takes its handle from the record. -/
theorem Recorded.released (recorded : Recorded past context) (idle : context.pending = none)
    {idx : Nat} (here : context.server.entry ino = some entry)
    (found : entry.fileHandlers.handlers[idx]? = some fh) :
    Recorded (past ++ [.released ino fh])
      (context.withHandlers context.server ino entry
        (entry.fileHandlers.handlers.eraseIdx idx)) := by
  refine recorded.changed idle rfl rfl here ?_ rfl nofun
  intro other handle
  rw [heldAfter_released]
  by_cases target : other = ino
  · subst target
    have kept := recorded.handlers other handle
    rw [FuseServer.handlersAt_eq here] at kept
    rw [if_pos rfl, count_eraseIdx found, kept]
    simp
  · rw [if_neg target, if_neg (fun both => target both.1.symm)]

/-- A read begins on an open handle of a file, with a number of its own. -/
theorem Recorded.asked (recorded : Recorded past context) {read : PendingRead}
    (here : context.server.entry read.ino = some entry)
    (found : read.fh ∈ entry.fileHandlers.handlers)
    (regular : entry.node.attributes.kind = .file) (number : read.number = context.reads)
    (connId : read.connId = entry.node.connId) :
    Recorded (past ++ [read.output])
      { context with reads := context.reads + 1, pending := some read } := by
  have still : ∀ output ∈ [read.output], Still output := List.forall_mem_singleton.mpr trivial
  refine recorded.still still rfl rfl ?_ ?_ ?_
  · intro reply member
    exact List.mem_append_left _ (recorded.queue reply member)
  · intro other ino fh connId request member
    cases List.mem_append.mp member with
    | inl old => exact Nat.lt_succ_of_lt (recorded.numbered _ _ _ _ _ old)
    | inr new =>
        cases List.mem_singleton.mp new
        exact Nat.lt_succ_of_le (le_of_eq number)
  · intro other waits
    cases waits
    refine ⟨?_, ?_, List.mem_append_right _ (List.mem_singleton_self _), ?_⟩
    · rw [held_still still, ← recorded.handlers, FuseServer.handlersAt_eq here]
      exact List.count_pos_iff.mpr found
    · rw [supplier_still still, connId]
      exact recorded.supplied entry (FuseServer.mem_of_entry here) regular
    · intro ino fh connId request member
      cases List.mem_append.mp member with
      | inl old =>
          have earlier := recorded.numbered _ _ _ _ _ old
          omega
      | inr new =>
          cases List.mem_singleton.mp new
          rfl

/-- A turn of the loop takes responses from the channel, and asks for nothing new. -/
theorem Recorded.after (recorded : Recorded past context) {rx : List PeerReply}
    {pending : Option PendingRead} (still : ∀ output ∈ outputs, Still output)
    (known : ∀ number ino fh connId request,
      .requested number ino fh connId request ∈ outputs →
        .requested number ino fh connId request ∈ past)
    (queue : ∀ reply ∈ rx, .delivered reply ∈ past ++ outputs)
    (waiting : ∀ read, pending = some read → Waiting past read) :
    Recorded (past ++ outputs) (context.after rx pending) := by
  refine recorded.still still rfl rfl queue ?_ ?_
  · intro number ino fh connId request member
    cases List.mem_append.mp member with
    | inl old => exact recorded.numbered _ _ _ _ _ old
    | inr new => exact recorded.numbered _ _ _ _ _ (known _ _ _ _ _ new)
  · intro read waits
    refine (waiting read waits).still still ?_
    intro ino fh connId request member
    exact (waiting read waits).unique _ _ _ _ (known _ _ _ _ _ member)

/-- The response that ends a read successfully is recorded, as the request of the read is. -/
theorem Recorded.answered (recorded : Recorded past context) {read : PendingRead}
    {reply : PeerReply} {msgFlags : BitVec 32} {bytes : List UInt8}
    (waits : context.pending = some read) (queued : reply ∈ context.server.rx)
    (clip : reply.clip = .fileContentsResponse msgFlags read.request.streamId bytes)
    (success : msgFlags &&& 1 ≠ 0) : Kept past (.data read.number read.ino read.fh bytes) := by
  have waiting := recorded.waiting read waits
  obtain ⟨peer, supplied⟩ := waiting.supplied
  have delivered := recorded.queue reply queued
  exact ⟨waiting.holds, peer, read.connId, read.request, supplied, waiting.sent, waiting.unique,
    reply, msgFlags, delivered, success, clip⟩

/-- The answers still queued were delivered. -/
theorem Recorded.left (recorded : Recorded past context) {rest : List PeerReply}
    (queue : rest <:+ context.server.rx) :
    ∀ reply ∈ rest, .delivered reply ∈ past ++ outputs := by
  intro reply member
  exact List.mem_append_left _ (recorded.queue reply (queue.mem member))

/-- An empty list ends the record of handles. -/
theorem Recorded.emptied (recorded : Recorded past context) (idle : context.pending = none)
    (peer : Nat) (connId : Int) {loaded : FuseServer}
    (ok : context.server.loadFileList now [] = .ok loaded) :
    Recorded (past ++ [.emptied peer connId]) { context with server := loaded } := by
  have sent : ∀ file ∈ ([] : List FileDescription), file.connId = connId :=
    fun _ member => absurd member List.not_mem_nil
  refine recorded.replaced idle sent ok rfl rfl rfl (fun _ _ _ => rfl) ?_ nofun nofun
  cases ok
  intro entry member regular
  change entry ∈ [FuseEntry.new (FuseNode.newRoot now)] at member
  rw [List.mem_singleton] at member
  subst member
  cases regular

/-- A step keeps the records, and what it emits agrees with them. -/
theorem Recorded.step {next : FuseContext} (recorded : Recorded past context)
    (stepped : Stepped context next outputs) :
    Machine.Judged Kept past outputs ∧ Recorded (past ++ outputs) next := by
  cases stepped with
  | calm calm => exact ⟨judged_calm past calm, recorded.calm calm⟩
  | started now =>
      rw [List.append_nil]
      exact ⟨trivial, recorded.started now⟩
  | loaded idle parsed loaded =>
      refine ⟨⟨trivial, trivial⟩, recorded.replaced idle (parse_connId parsed) loaded rfl rfl rfl
        (fun _ _ _ => rfl) (fun _ _ _ => ⟨_, rfl⟩) ?_ nofun⟩
      rintro other ⟨⟩
      rfl
  | emptied idle meant loaded =>
      refine ⟨⟨?_, trivial⟩, recorded.emptied idle _ _ loaded⟩
      intro positive owner supplied
      exact (recorded.owner owner supplied).trans (meant.resolve_left positive)
  | opened idle here => exact ⟨⟨trivial, trivial⟩, recorded.opened idle here _⟩
  | released idle here found => exact ⟨⟨trivial, trivial⟩, recorded.released idle here found⟩
  | asked idle here found regular number connId =>
      exact ⟨⟨trivial, trivial⟩, recorded.asked here found regular number connId⟩
  | @skipped reply rest queue =>
      have suffix : rest <:+ context.server.rx := queue ▸ List.suffix_cons reply rest
      refine ⟨trivial, recorded.after ?_ ?_ (recorded.left suffix) recorded.waiting⟩
      · intro output member
        exact absurd member List.not_mem_nil
      · intro number ino fh connId request member
        exact absurd member List.not_mem_nil
  | @resent read again reply rest waits queue retried =>
      have suffix : rest <:+ context.server.rx := queue ▸ List.suffix_cons reply rest
      have waiting := recorded.waiting read waits
      subst retried
      refine ⟨⟨trivial, trivial⟩, recorded.after ?_ ?_ (recorded.left suffix) ?_⟩
      · exact List.forall_mem_singleton.mpr trivial
      · intro number ino fh connId request member
        rw [List.mem_singleton.mp member]
        exact waiting.sent
      · intro other same
        cases same
        exact ⟨waiting.holds, waiting.supplied, waiting.sent, waiting.unique⟩
  | ended queue =>
      refine ⟨⟨trivial, trivial⟩, recorded.after ?_ ?_ (recorded.left queue) nofun⟩
      · exact List.forall_mem_singleton.mpr trivial
      · intro number ino fh connId request member
        cases List.mem_singleton.mp member
  | @answered read reply rest msgFlags bytes waits queue clip success =>
      have suffix : rest <:+ context.server.rx := queue ▸ List.suffix_cons reply rest
      have queued : reply ∈ context.server.rx := queue ▸ List.mem_cons_self
      refine ⟨⟨recorded.answered waits queued clip success, trivial⟩,
        recorded.after ?_ ?_ (recorded.left suffix) nofun⟩
      · exact List.forall_mem_singleton.mpr trivial
      · intro number ino fh connId request member
        cases List.mem_singleton.mp member
  | delivered reply =>
      refine ⟨⟨trivial, trivial⟩, recorded.after ?_ ?_ ?_ recorded.waiting⟩
      · exact List.forall_mem_singleton.mpr trivial
      · intro number ino fh connId request member
        cases List.mem_singleton.mp member
      · intro other member
        cases List.mem_append.mp member with
        | inl old => exact List.mem_append_left _ (recorded.queue other old)
        | inr new =>
            rw [List.mem_singleton.mp new]
            exact List.mem_append_right _ (List.mem_singleton_self _)

/-- A new context has nothing on record. -/
theorem Recorded.new (mountPoint : Path) : Recorded [] (FuseContext.new mountPoint) where
  handlers ino fh := by
    cases ino with
    | zero => rfl
    | succ place => rfl
  supplied := nofun
  owner := nofun
  queue := nofun
  numbered := nofun
  waiting := nofun

/-- The steps keep the records along every run. -/
theorem run_recorded (mountPoint : Path) (events : List FuseEvent) :
    Machine.Judged Kept [] (FuseContext.machine.run (FuseContext.new mountPoint) events).2 ∧
      Recorded (FuseContext.machine.run (FuseContext.new mountPoint) events).2
        (FuseContext.machine.run (FuseContext.new mountPoint) events).1 :=
  FuseContext.machine.run_judged Recorded Kept
    (fun _ context event recorded => recorded.step (step_stepped context event))
    [] (FuseContext.new mountPoint) events (Recorded.new mountPoint)

/-- Handlers are sorted, and later ones are greater. -/
structure Ordered (context : FuseContext) : Prop where
  sorted : ∀ ino, (context.server.handlersAt ino).Pairwise (· < ·)
  below : ∀ ino, ∀ fh ∈ context.server.handlersAt ino, fh < context.server.fileHandleCounter

/-- The order depends on handles and counter only. -/
theorem Ordered.of_files {next : FuseContext} (ordered : Ordered context)
    (handlers : ∀ ino, next.server.handlersAt ino = context.server.handlersAt ino)
    (counter : next.server.fileHandleCounter = context.server.fileHandleCounter) :
    Ordered next where
  sorted ino := by
    rw [handlers]
    exact ordered.sorted ino
  below ino := by
    rw [handlers, counter]
    exact ordered.below ino

/-- A loaded list has no handles out of order. -/
theorem Ordered.loaded {files : List FileDescription} {loaded : FuseServer} {next : FuseContext}
    (ok : context.server.loadFileList now files = .ok loaded) (server : next.server = loaded) :
    Ordered next := by
  subst server
  have empty := loadFileList_handlersAt ok
  constructor
  · intro ino
    rw [empty]
    exact .nil
  · intro ino fh member
    rw [empty] at member
    cases member

/-- The handles of one entry are replaced by sorted ones below the counter. -/
theorem Ordered.changed (ordered : Ordered context) {changed : FuseServer} {handlers : List Nat}
    (files : changed.files = context.server.files)
    (counter : context.server.fileHandleCounter ≤ changed.fileHandleCounter)
    (here : context.server.entry ino = some entry) (sorted : handlers.Pairwise (· < ·))
    (below : ∀ fh ∈ handlers, fh < changed.fileHandleCounter) :
    Ordered (context.withHandlers changed ino entry handlers) := by
  have same : changed.entry ino = some entry := by
    unfold FuseServer.entry
    rw [files]
    exact here
  have handlersAt : ∀ other, (context.withHandlers changed ino entry handlers).server.handlersAt
      other = if other = ino then handlers else context.server.handlersAt other := by
    intro other
    rw [← FuseServer.handlersAt_congr files]
    exact FuseServer.handlersAt_setHandles same _ other
  constructor
  · intro other
    rw [handlersAt]
    split
    next => exact sorted
    next => exact ordered.sorted other
  · intro other fh member
    rw [handlersAt] at member
    split at member
    next => exact below fh member
    next => exact lt_of_lt_of_le (ordered.below other fh member) counter

/-- A step keeps the order as long as the counter does not wrap around. -/
theorem Ordered.step {next : FuseContext} (ordered : Ordered context)
    (fresh : context.server.fileHandleCounter + 1 < 2 ^ 64)
    (stepped : Stepped context next outputs) : Ordered next := by
  cases stepped with
  | calm calm => exact ordered
  | started now => exact ordered.of_files (init_handlersAt _ now) (init_counter _ now)
  | loaded idle parsed loaded => exact .loaded loaded rfl
  | emptied idle meant loaded => exact .loaded loaded rfl
  | @opened idle ino entry here =>
      have counter : context.server.allocFd.2.fileHandleCounter =
          context.server.fileHandleCounter + 1 := Nat.mod_eq_of_lt fresh
      have sorted := ordered.sorted ino
      have below := ordered.below ino
      rw [FuseServer.handlersAt_eq here] at sorted below
      refine ordered.changed rfl (by omega) here ?_ ?_
      · rw [List.pairwise_append]
        refine ⟨sorted, List.pairwise_singleton _ _, ?_⟩
        intro fh member last equal
        rw [List.mem_singleton.mp equal]
        exact below fh member
      · intro fh member
        rw [counter]
        cases List.mem_append.mp member with
        | inl old => exact Nat.lt_succ_of_lt (below fh old)
        | inr new =>
            rw [List.mem_singleton.mp new]
            exact Nat.lt_succ_self _
  | @released idle ino fh idx entry here found =>
      have sorted := ordered.sorted ino
      have below := ordered.below ino
      rw [FuseServer.handlersAt_eq here] at sorted below
      refine ordered.changed rfl (le_refl _) here (sorted.sublist (List.eraseIdx_sublist _ _)) ?_
      intro handle member
      exact below handle (List.mem_of_mem_eraseIdx member)
  | asked idle here found regular number connId =>
      exact ordered.of_files (fun _ => rfl) rfl
  | skipped queue => exact ordered.of_files (fun _ => rfl) rfl
  | resent waits queue retried => exact ordered.of_files (fun _ => rfl) rfl
  | ended queue => exact ordered.of_files (fun _ => rfl) rfl
  | answered waits queue clip success => exact ordered.of_files (fun _ => rfl) rfl
  | delivered reply => exact ordered.of_files (fun _ => rfl) rfl

/-- A new context is ordered. -/
theorem Ordered.new (mountPoint : Path) : Ordered (FuseContext.new mountPoint) where
  sorted ino := by
    cases ino with
    | zero => exact .nil
    | succ place => exact .nil
  below ino fh member := by
    cases ino with
    | zero => cases member
    | succ place => cases member

/-- The search finds exactly the handles that are open, until the counter wraps around. -/
theorem haveHandler_iff_held (mountPoint : Path) (events : List FuseEvent)
    (fresh : FuseContext.machine.Guarded
      (fun context _ => context.server.fileHandleCounter + 1 < 2 ^ 64)
      (FuseContext.new mountPoint) events)
    (here : (FuseContext.machine.run (FuseContext.new mountPoint) events).1.server.entry ino =
      some entry) (fh : Nat) :
    entry.fileHandlers.haveHandler fh = true ↔
      0 < held (FuseContext.machine.run (FuseContext.new mountPoint) events).2 ino fh := by
  have recorded := (run_recorded mountPoint events).2
  have ordered := FuseContext.machine.run_invariant _ (fun context _ => Ordered context)
    (fun context _ event fresh ordered => ordered.step fresh (step_stepped context event))
    _ [] events (Ordered.new mountPoint) fresh
  have sorted := ordered.sorted ino
  rw [FuseServer.handlersAt_eq here] at sorted
  unfold FileHandles.haveHandler
  rw [binarySearch_isSome_iff sorted, ← recorded.handlers, FuseServer.handlersAt_eq here,
    List.count_pos_iff]

/-- A file is opened twice, and its first handle is released. -/
def sampleHandles : List FuseEvent :=
  [.formatDataResponse 1 5 (samplePdu 0 [97]) 0, .openFile 2, .openFile 2, .release 2 0]

theorem haveHandler_iff_held_sample :
    ∃ entry : FuseEntry,
      (FuseContext.machine.run (FuseContext.new "/m".toList) sampleHandles).1.server.entry 2 =
        some entry ∧
      ∀ fh, entry.fileHandlers.haveHandler fh = true ↔
        0 < held (FuseContext.machine.run (FuseContext.new "/m".toList) sampleHandles).2 2 fh := by
  have listed :
      ((FuseContext.machine.run (FuseContext.new "/m".toList) sampleHandles).1.server.entry
        2).isSome := by
    decide +kernel
  obtain ⟨entry, here⟩ := Option.isSome_iff_exists.mp listed
  exact ⟨entry, here, haveHandler_iff_held "/m".toList sampleHandles (by decide +kernel) here⟩

/-- The successful responses with the stream id of a read are answers of the supplier that are not
too long, and an id other than zero belongs to one connection. -/
def Honest (past : List FuseOutput) : FuseOutput → Prop
  | .data number _ _ _ =>
      ∀ ino fh connId request, .requested number ino fh connId request ∈ past →
        ∀ peer answers msgFlags bytes,
          .delivered ⟨peer, answers, .fileContentsResponse msgFlags request.streamId bytes⟩ ∈ past →
          msgFlags &&& 1 ≠ 0 →
          (∀ owner, supplier past = some owner → owner.1 = peer) ∧ answers = some number ∧
            bytes.length ≤ request.cbRequested.toNat
  | .emptied peer connId =>
      ∀ owner, supplier past = some owner → connId ≠ 0 ∧ (owner.2 = connId → owner.1 = peer)
  | _ => True

/-- An honest supplier serves what is kept. -/
theorem served_of_kept (past : List FuseOutput) (output : FuseOutput) (kept : Kept past output)
    (honest : Honest past output) : Served past output := by
  cases output with
  | data number ino fh bytes =>
      obtain ⟨holds, peer, connId, request, supplied, sent, -, reply, msgFlags, delivered, success,
        clip⟩ := kept
      obtain ⟨sender, answers, other⟩ := reply
      dsimp only at clip
      subst clip
      obtain ⟨own, answer, short⟩ :=
        honest _ _ _ _ sent sender answers msgFlags bytes delivered success
      have same : peer = sender := own _ supplied
      rw [answer, ← same] at delivered
      exact ⟨holds, peer, connId, request, msgFlags, supplied, sent, delivered, short⟩
  | emptied peer connId =>
      intro owner supplied
      obtain ⟨positive, single⟩ := honest owner supplied
      exact single (kept positive owner supplied)
  | _ => trivial

/-- Every output of a run agrees with the outputs before it, whatever the order of the events is.
Where the responses are honest, the data come from the supplier. -/
theorem shared_context_answers (mountPoint : Path) (events : List FuseEvent) :
    Machine.Judged Kept [] (FuseContext.machine.run (FuseContext.new mountPoint) events).2 ∧
      (Machine.Judged Honest [] (FuseContext.machine.run (FuseContext.new mountPoint) events).2 →
        Machine.Judged Served []
          (FuseContext.machine.run (FuseContext.new mountPoint) events).2) := by
  have kept := (run_recorded mountPoint events).1
  exact ⟨kept, fun honest => Machine.judged_imp served_of_kept kept honest⟩

/-- A list with one file is loaded, and a read of the file gets one response. -/
def sampleRead (size : BitVec 32) (reply : PeerReply) : List FuseEvent :=
  [.formatDataResponse 1 5 (samplePdu 0 [97]) 0, .openFile 2, .read 2 0 0 size 7 true,
    .fileContentsResponse reply, .receive true]

def sampleOutputs (size : BitVec 32) (reply : PeerReply) (bytes : List UInt8) : List FuseOutput :=
  [.loaded 1 5 ["/m/a".toList], .opened 2 0, .requested 0 2 0 5 (readNode 7 0 0 size),
    .delivered reply, .data 0 2 0 bytes]

def sampleRun (events : List FuseEvent) : List FuseOutput :=
  (FuseContext.machine.run (FuseContext.new "/m".toList) events).2

/-- A supplier that answers its own read and empties its own list is served as it should be. -/
theorem honest_supplier_serves :
    Machine.Judged Served [] (sampleRun (sampleRead 4 ⟨1, some 0, .fileContentsResponse 1 7 [0]⟩ ++
      [.tryEmpty 1 5 0])) := by
  have outputs : sampleRun (sampleRead 4 ⟨1, some 0, .fileContentsResponse 1 7 [0]⟩ ++
      [.tryEmpty 1 5 0]) =
      sampleOutputs 4 ⟨1, some 0, .fileContentsResponse 1 7 [0]⟩ [0] ++ [.emptied 1 5] := by
    decide +kernel
  refine (shared_context_answers "/m".toList _).2 ?_
  change Machine.Judged Honest [] (sampleRun _)
  rw [outputs]
  refine ⟨trivial, trivial, trivial, trivial, ?_, ?_, trivial⟩
  · intro ino fh connId request sent peer answers msgFlags bytes delivered success
    simp at sent delivered
    obtain ⟨-, -, -, rfl⟩ := sent
    obtain ⟨rfl, rfl, -, -, rfl⟩ := delivered
    refine ⟨?_, rfl, by decide⟩
    rintro owner ⟨⟩
    rfl
  · rintro owner ⟨⟩
    exact ⟨by decide, fun _ => rfl⟩

/-- The data of another connection are taken, data may be too long, and the id zero empties the list
of another connection. -/
theorem shared_context_confuses :
    ¬ Machine.Judged Served []
        (sampleRun (sampleRead 4 ⟨2, none, .fileContentsResponse 1 7 [0]⟩)) ∧
      ¬ Machine.Judged Served []
        (sampleRun (sampleRead 1 ⟨1, some 0, .fileContentsResponse 1 7 [0, 0]⟩)) ∧
      ¬ Machine.Judged Served []
        (sampleRun [.formatDataResponse 1 5 (samplePdu 0 [97]) 0, .tryEmpty 2 0 0]) := by
  have foreign : sampleRun (sampleRead 4 ⟨2, none, .fileContentsResponse 1 7 [0]⟩) =
      sampleOutputs 4 ⟨2, none, .fileContentsResponse 1 7 [0]⟩ [0] := by
    decide +kernel
  have long : sampleRun (sampleRead 1 ⟨1, some 0, .fileContentsResponse 1 7 [0, 0]⟩) =
      sampleOutputs 1 ⟨1, some 0, .fileContentsResponse 1 7 [0, 0]⟩ [0, 0] := by
    decide +kernel
  have cleared : sampleRun [.formatDataResponse 1 5 (samplePdu 0 [97]) 0, .tryEmpty 2 0 0] =
      [.loaded 1 5 ["/m/a".toList], .emptied 2 0] := by
    decide +kernel
  rw [foreign, long, cleared]
  refine ⟨?_, ?_, ?_⟩
  · rintro ⟨-, -, -, -, ⟨-, peer, connId, request, msgFlags, supplied, sent, delivered, short⟩, -⟩
    cases supplied
    simp at delivered
  · rintro ⟨-, -, -, -, ⟨-, peer, connId, request, msgFlags, supplied, sent, delivered, short⟩, -⟩
    simp at sent
    obtain ⟨-, rfl⟩ := sent
    revert short
    decide
  · rintro ⟨-, served, -⟩
    have same : 1 = 2 := served (1, 5) rfl
    cases same

end SubnetDesk.Clipboard.FileList
