/-
This file defines the server of the mounted tree, with its open handles, its reads and its directories,
and the context that all connections share.
-/

import SubnetDesk.Construction.Clipboard.FileContents
import SubnetDesk.Construction.Clipboard.Fuse
import SubnetDesk.Foundation.BinarySearch
import SubnetDesk.Foundation.Machine
import SubnetDesk.Foundation.Paging

namespace SubnetDesk.Clipboard.FileList

open FileTree FileTransfer BinarySearch

def readRetry : Nat := 3

/-- The handlers are sorted from small to big. -/
structure FileHandles where
  handlers : List Nat
  gc : Bool
deriving DecidableEq

namespace FileHandles

def new : FileHandles := ⟨[], false⟩

def marked (handles : FileHandles) : Bool := handles.gc

/-- A marked counter panics. -/
def addHandler (handles : FileHandles) (fh : Nat) : Option FileHandles :=
  if handles.marked then none else some { handles with handlers := handles.handlers ++ [fh] }

def haveHandler (handles : FileHandles) (handler : Nat) : Bool :=
  (binarySearch handles.handlers handler).isSome

def unregister (handles : FileHandles) (handler : Nat) : Option FileHandles :=
  (binarySearch handles.handlers handler).map fun idx =>
    { handles with handlers := handles.handlers.eraseIdx idx }

end FileHandles

/-- A node of the tree stands with its handles. -/
structure FuseEntry where
  node : FuseNode
  fileHandlers : FileHandles
deriving DecidableEq

def FuseEntry.new (node : FuseNode) : FuseEntry := ⟨node, FileHandles.new⟩

/-- A response carries the connection that sends it and the read that it answers. The server looks at
neither of them. -/
structure PeerReply where
  peer : Nat
  answers : Option Nat
  clip : ClipboardFile
deriving DecidableEq

structure FuseServer where
  generation : Nat
  files : List FuseEntry
  fileHandleCounter : Nat
  rx : List PeerReply
deriving DecidableEq

inductive CallErrno where
  | noEntry
  | notDirectory
  | busy
  | badFile
  | fileTable
  | inputOutput
deriving DecidableEq

/-- Reads are numbered. A request shows the handle and the connection id of its read. -/
inductive FuseOutput where
  | found (result : Except Errno (InodeAttributes × Nat))
  | failed (errno : CallErrno)
  | panicked
  | opened (ino fh : Nat)
  | released (ino fh : Nat)
  | rejected (failure : Failure)
  | loaded (peer : Nat) (connId : Int) (urls : List Path)
  | refused (peer : Nat) (connId : Int)
  | emptied (peer : Nat) (connId : Int)
  | requested (number ino fh : Nat) (connId : Int) (request : FileContentsMessage)
  | delivered (reply : PeerReply)
  | data (number ino fh : Nat) (bytes : List UInt8)
deriving DecidableEq

namespace FuseServer

def new : FuseServer := ⟨0, [], 0, []⟩

/-- The place of the inode zero wraps around, so that it has no entry. -/
def entry (server : FuseServer) (ino : Nat) : Option FuseEntry :=
  if ino = 0 then none else server.files[ino - 1]?

def setHandles (server : FuseServer) (ino : Nat) (handles : FileHandles) : FuseServer :=
  { server with
    files := server.files.modify (ino - 1) fun entry => { entry with fileHandlers := handles } }

def loadFileList (server : FuseServer) (now : Nat) (files : List FileDescription) :
    Except CliprdrError FuseServer :=
  (buildTree now files).map fun tree =>
    { server with
      files := tree.map FuseEntry.new
      generation := (server.generation + 1) % 2 ^ 64 }

/-- A server without a list gets a root. -/
def init (server : FuseServer) (now : Nat) : FuseServer :=
  if server.files = [] then { server with files := [FuseEntry.new (FuseNode.newRoot now)] }
  else server

def lookup (server : FuseServer) (parent : Nat) (name : OsSegment) : FuseOutput :=
  if parent = 0 ∧ OsSegment.len name ≤ maxNameLen then .found (.error .noEntry)
  else
    .found ((FileList.lookup (server.files.map FuseEntry.node) parent name).map fun attributes =>
      (attributes, server.generation))

def allocFd (server : FuseServer) : Nat × FuseServer :=
  (server.fileHandleCounter,
    { server with fileHandleCounter := (server.fileHandleCounter + 1) % 2 ^ 64 })

/-- An entry is opened where its kind is the one that the call asks for. -/
def openEntry (kind : FileType) (wrongKind : CallErrno) (server : FuseServer) (ino : Nat) :
    FuseServer × FuseOutput :=
  match server.entry ino with
  | none => (server, .failed .noEntry)
  | some entry =>
      if entry.node.attributes.kind ≠ kind then (server, .failed wrongKind)
      else if entry.fileHandlers.marked then (server, .failed .busy)
      else
        let (fh, server) := server.allocFd
        match entry.fileHandlers.addHandler fh with
        | none => (server, .panicked)
        | some handles => (server.setHandles ino handles, .opened ino fh)

def opendir (server : FuseServer) (ino : Nat) : FuseServer × FuseOutput :=
  server.openEntry .directory .notDirectory ino

def openFile (server : FuseServer) (ino : Nat) : FuseServer × FuseOutput :=
  server.openEntry .file .fileTable ino

def release (server : FuseServer) (ino fh : Nat) : FuseServer × FuseOutput :=
  match server.entry ino with
  | none => (server, .failed .noEntry)
  | some entry =>
      match entry.fileHandlers.unregister fh with
      | none => (server, .failed .badFile)
      | some handles => (server.setHandles ino handles, .released ino fh)

/-- The result of the second search is ignored. -/
def releasedir (server : FuseServer) (ino fh : Nat) : FuseServer × FuseOutput :=
  match server.entry ino with
  | none => (server, .failed .noEntry)
  | some entry =>
      if entry.node.attributes.kind ≠ .directory then (server, .failed .notDirectory)
      else if entry.fileHandlers.haveHandler fh then
        match entry.fileHandlers.unregister fh with
        | none => (server, .released ino fh)
        | some handles => (server.setHandles ino handles, .released ino fh)
      else (server, .failed .badFile)

/-- The checks of `read` before it asks the peer. -/
def readable (server : FuseServer) (ino fh : Nat) : Except CallErrno FuseNode :=
  match server.entry ino with
  | none => .error .noEntry
  | some entry =>
      if entry.fileHandlers.haveHandler fh = false then .error .badFile
      else if entry.node.attributes.kind ≠ .file then .error .fileTable
      else if entry.fileHandlers.marked then .error .busy
      else .ok entry.node

/-- The names right in the root. -/
def listRoot (server : FuseServer) : List Path :=
  match server.files with
  | [] => []
  | root :: _ =>
      root.node.children.filterMap fun inode => (server.entry inode).map fun child => child.node.name

end FuseServer

/-- A read that waits for a response. -/
structure PendingRead where
  number : Nat
  ino : Nat
  fh : Nat
  connId : Int
  request : FileContentsMessage
  retryTimes : Nat
deriving DecidableEq

def PendingRead.output (read : PendingRead) : FuseOutput :=
  .requested read.number read.ino read.fh read.connId read.request

/-- The server is locked as long as a read waits. -/
structure FuseContext where
  server : FuseServer
  mountPoint : Path
  connId : Int
  reads : Nat
  pending : Option PendingRead
deriving DecidableEq

/-- A connection that closes empties the list as one that sends `TryEmpty` does. -/
inductive FuseEvent where
  | init (now : Nat)
  | lookup (parent : Nat) (name : OsSegment)
  | opendir (ino : Nat)
  | openFile (ino : Nat)
  | release (ino fh : Nat)
  | releasedir (ino fh : Nat)
  | read (ino fh : Nat) (offset : BitVec 64) (size streamId : BitVec 32) (sent : Bool)
  | receive (sent : Bool)
  | timeout
  | formatDataResponse (peer : Nat) (connId : Int) (formatData : List UInt8) (now : Nat)
  | tryEmpty (peer : Nat) (connId : Int) (now : Nat)
  | fileContentsResponse (reply : PeerReply)
deriving DecidableEq

namespace FuseContext

def new (mountPoint : Path) : FuseContext := ⟨FuseServer.new, mountPoint, 0, 0, none⟩

/-- A call of the kernel waits for the read before it. -/
def whileIdle (context : FuseContext) (call : FuseServer → FuseServer × List FuseOutput) :
    FuseContext × List FuseOutput :=
  match context.pending with
  | some _ => (context, [])
  | none => ({ context with server := (call context.server).1 }, (call context.server).2)

def formatDataResponseToUrls (context : FuseContext) (peer : Nat) (connId : Int)
    (formatData : List UInt8) (now : Nat) : FuseContext × List FuseOutput :=
  match parseFileDescriptors formatData connId with
  | .error failure => (context, [.rejected failure])
  | .ok files =>
      match context.server.loadFileList now files with
      | .error error => (context, [.rejected (.rejected error)])
      | .ok server =>
          ({ context with server := server, connId := connId },
            [.loaded peer connId (server.listRoot.map (join context.mountPoint))])

/-- Zero stands for all connections. The outcome of the empty list is ignored. -/
def emptyLocalFiles (context : FuseContext) (peer : Nat) (connId : Int) (now : Nat) :
    FuseContext × List FuseOutput :=
  if connId ≠ 0 ∧ context.connId ≠ connId then (context, [.refused peer connId])
  else
    match context.pending with
    | some _ => (context, [])
    | none =>
        match context.server.loadFileList now [] with
        | .error _ => (context, [.emptied peer connId])
        | .ok server => ({ context with server := server }, [.emptied peer connId])

/-- A read that passes its checks draws a stream id and asks the connection of its node. -/
def read (context : FuseContext) (ino fh : Nat) (offset : BitVec 64) (size streamId : BitVec 32)
    (sent : Bool) : FuseContext × List FuseOutput :=
  match context.pending with
  | some _ => (context, [])
  | none =>
      match context.server.readable ino fh with
      | .error errno => (context, [.failed errno])
      | .ok node =>
          let pending : PendingRead := {
            number := context.reads
            ino := ino
            fh := fh
            connId := node.connId
            request := readNode streamId (BitVec.ofNat 64 node.index) offset size
            retryTimes := 0 }
          if sent then
            ({ context with reads := context.reads + 1, pending := some pending },
              [pending.output])
          else (context, [.failed .inputOutput])

def fail (context : FuseContext) : FuseContext × List FuseOutput :=
  ({ context with pending := none }, [.failed .inputOutput])

/-- One turn of the loop of `read_node`, with the response that it takes. -/
def turn (context : FuseContext) (read : PendingRead) (clip : ClipboardFile) (sent : Bool) :
    FuseContext × List FuseOutput :=
  match clip with
  | .fileContentsResponse msgFlags streamId requestedData =>
      if streamId ≠ read.request.streamId then (context, [])
      else if msgFlags &&& 1 = 0 then
        let again := { read with retryTimes := read.retryTimes + 1 }
        if readRetry < again.retryTimes then context.fail
        else if sent then ({ context with pending := some again }, [again.output])
        else context.fail
      else ({ context with pending := none }, [.data read.number read.ino read.fh requestedData])
  | .files _ => context.fail

def receive (context : FuseContext) (sent : Bool) : FuseContext × List FuseOutput :=
  match context.pending, context.server.rx with
  | some read, reply :: rest =>
      turn { context with server := { context.server with rx := rest } } read reply.clip sent
  | _, _ => (context, [])

/-- A wait times out on an empty channel only. -/
def timeout (context : FuseContext) : FuseContext × List FuseOutput :=
  match context.pending, context.server.rx with
  | some _, [] => context.fail
  | _, _ => (context, [])

/-- Every connection sends into the one channel, also while a read waits. -/
def handleFileContentResponse (context : FuseContext) (reply : PeerReply) :
    FuseContext × List FuseOutput :=
  ({ context with server := { context.server with rx := context.server.rx ++ [reply] } },
    [.delivered reply])

def step (context : FuseContext) : FuseEvent → FuseContext × List FuseOutput
  | .init now => context.whileIdle fun server => (server.init now, [])
  | .lookup parent name => context.whileIdle fun server => (server, [server.lookup parent name])
  | .opendir ino => context.whileIdle fun server => ((server.opendir ino).1, [(server.opendir ino).2])
  | .openFile ino =>
      context.whileIdle fun server => ((server.openFile ino).1, [(server.openFile ino).2])
  | .release ino fh =>
      context.whileIdle fun server => ((server.release ino fh).1, [(server.release ino fh).2])
  | .releasedir ino fh =>
      context.whileIdle fun server => ((server.releasedir ino fh).1, [(server.releasedir ino fh).2])
  | .read ino fh offset size streamId sent => context.read ino fh offset size streamId sent
  | .receive sent => context.receive sent
  | .timeout => context.timeout
  | .formatDataResponse peer connId formatData now =>
      match context.pending with
      | some _ => (context, [])
      | none => context.formatDataResponseToUrls peer connId formatData now
  | .tryEmpty peer connId now => context.emptyLocalFiles peer connId now
  | .fileContentsResponse reply => context.handleFileContentResponse reply

def machine : Machine FuseContext FuseEvent FuseOutput := ⟨step⟩

end FuseContext

structure DirEntry where
  ino : Nat
  offset : Nat
  kind : FileType
  name : Path
deriving DecidableEq

inductive DirReply where
  | failed (errno : CallErrno)
  | panicked
  | page (entries : List DirEntry)
deriving DecidableEq

/-- The buffer of a reply tells whether an entry fits behind the ones in it. -/
structure ReaddirCall where
  ino : Nat
  fh : Nat
  offset : Nat
  fits : List DirEntry → DirEntry → Bool

/-- An inode without a node panics. -/
def childEntry (nodes : List FuseNode) (inode : Nat) : Option (Nat × FileType × Path) :=
  if inode = 0 then none
  else (nodes[inode - 1]?).map fun child => (inode, child.attributes.kind, child.name)

/-- Every entry carries the offset behind it. -/
def numbered (entries : List (Nat × FileType × Path)) : List DirEntry :=
  entries.mapIdx fun place entry => ⟨entry.1, place + 1, entry.2.1, entry.2.2⟩

def dirEntries (nodes : List FuseNode) (ino : Nat) (node : FuseNode) : Option (List DirEntry) :=
  (node.children.mapM (childEntry nodes)).map fun children =>
    numbered ((ino, .directory, ['.']) ::
      (node.parent.map fun parent => (parent, FileType.directory, ['.', '.'])).toList ++ children)

namespace FuseServer

def nodes (server : FuseServer) : List FuseNode := server.files.map FuseEntry.node

def readdir (server : FuseServer) (call : ReaddirCall) : DirReply :=
  match server.entry call.ino with
  | none => .failed .noEntry
  | some entry =>
      if entry.fileHandlers.haveHandler call.fh = false then .failed .badFile
      else if entry.node.attributes.kind ≠ .directory then .failed .notDirectory
      else
        match dirEntries server.nodes call.ino entry.node with
        | none => .panicked
        | some entries => .page (Paging.fill call.fits [] (entries.drop call.offset))

end FuseServer

inductive MountEvent where
  | context (event : FuseEvent)
  | readdir (call : ReaddirCall)

inductive MountOutput where
  | context (output : FuseOutput)
  | reply (call : ReaddirCall) (reply : DirReply)

namespace FuseContext

def mountStep (context : FuseContext) : MountEvent → FuseContext × List MountOutput
  | .context event => ((context.step event).1, (context.step event).2.map .context)
  | .readdir call =>
      match context.pending with
      | some _ => (context, [])
      | none => (context, [.reply call (context.server.readdir call)])

def mount : Machine FuseContext MountEvent MountOutput := ⟨mountStep⟩

end FuseContext

end SubnetDesk.Clipboard.FileList
