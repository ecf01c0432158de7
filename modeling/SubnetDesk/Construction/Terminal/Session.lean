/-
This file defines a terminal session: its reader thread, its polls, resizes and reconnects, and the
runs of one session, with whole polls and with polls in parts.
-/

import SubnetDesk.Construction.Terminal.Output

namespace SubnetDesk.Terminal

def channelBufferSize : Nat := 500

def compressThreshold : Nat := 512

def defaultReconnectBufferBytes : Nat := 8 * 1024

def maxSigwinchPhaseAttempts : Nat := 3

inductive SigwinchPhase where
  | idle
  | tempResize (retries : Nat)
  | restore (retries : Nat)
deriving DecidableEq

inductive SigwinchAction where
  | tempResize
  | restore
deriving DecidableEq

inductive SessionState where
  | closed
  | active (pendingBuffer : Option Bytes) (sigwinch : SigwinchPhase)
deriving DecidableEq

structure PtySize where
  rows : UInt16
  cols : UInt16
deriving DecidableEq

/-- A child has an exit code once it has exited. -/
structure Child where
  exitCode : Option Int := none
deriving DecidableEq

/-- The compression of the payloads, whose code is outside this repository. -/
structure Compression where
  compress : Bytes → Bytes
  decompress : Bytes → Bytes
  lossless : ∀ data, decompress (compress data) = data

inductive TerminalResponse where
  | opened (terminalId : Int) (success : Bool) (message : String) (pid : Nat) (serviceId : String)
      (persistentSessions : List Int) (replayTerminalOutput : Bool)
  | data (terminalId : Int) (payload : Bytes) (compressed : Bool)
  | closed (terminalId : Int) (exitCode : Int)
deriving DecidableEq

/-- Long data is sent compressed when that makes it shorter. -/
def createTerminalDataResponse (compression : Compression) (terminalId : Int) (data : Bytes) :
    TerminalResponse :=
  if compressThreshold < data.length ∧ (compression.compress data).length < data.length then
    .data terminalId (compression.compress data) true
  else .data terminalId data false

/-- The output that a client reads from a response. -/
def TerminalResponse.content (compression : Compression) : TerminalResponse → Bytes
  | .data _ payload compressed => if compressed then compression.decompress payload else payload
  | _ => []

def emittedBytes (compression : Compression) (responses : List TerminalResponse) : Bytes :=
  (responses.map (TerminalResponse.content compression)).flatten

structure ReaderThread where
  utf8Chunks : Utf8ChunkAccumulator := {}
  finished : Bool := false
deriving DecidableEq

/-- The serial names a session, and the size of its terminal is absent without a terminal. -/
structure TerminalSession where
  serial : Nat
  ptySize : Option PtySize
  isHelperMode : Bool := false
  child : Option Child
  outputRx : Option (List Bytes) := some []
  exiting : Bool := false
  reader : ReaderThread := {}
  outputBuffer : OutputBuffer := {}
  pid : Nat
  rows : UInt16
  cols : UInt16
  closedMessageSent : Bool := false
  state : SessionState
deriving DecidableEq

/-- A new session runs its shell and streams to the client. -/
def TerminalSession.spawned (serial pid rows cols : Nat) (isHelperMode : Bool) :
    TerminalSession where
  serial := serial
  ptySize := some ⟨UInt16.ofNat rows, UInt16.ofNat cols⟩
  isHelperMode := isHelperMode
  child := if isHelperMode then none else some {}
  pid := pid
  rows := UInt16.ofNat rows
  cols := UInt16.ofNat cols
  state := .active none .idle

/-- The receiver of the channel keeps what was sent, up to the size of the channel. -/
def TerminalSession.trySendOutput (session : TerminalSession) (data : Bytes) :
    TerminalSession × Bool :=
  match session.outputRx with
  | none => (session, true)
  | some chunks =>
      if chunks.length < channelBufferSize then
        ({ session with outputRx := some (chunks ++ [data]) }, false)
      else (session, false)

inductive ReaderRead where
  | data (first : UInt8) (more : Bytes)
  | eof
  | wouldBlock
  | error
deriving DecidableEq

/-- The reader thread acts on one read of the terminal. -/
def TerminalSession.readerStep (session : TerminalSession) : ReaderRead → TerminalSession
  | .eof =>
      let (chunks, held) := session.reader.utf8Chunks.finish
      let sent :=
        match held with
        | some data => (session.trySendOutput data).1
        | none => session
      { sent with reader := ⟨chunks, true⟩ }
  | .data first more =>
      if session.exiting then { session with reader := { session.reader with finished := true } }
      else
        let (chunks, chunk) := session.reader.utf8Chunks.pushChunk (first :: more)
        match chunk with
        | none => { session with reader := { session.reader with utf8Chunks := chunks } }
        | some data =>
            let (sent, disconnected) := session.trySendOutput data
            { sent with reader := ⟨chunks, disconnected⟩ }
  | .wouldBlock =>
      if session.exiting then { session with reader := { session.reader with finished := true } }
      else session
  | .error => { session with reader := { session.reader with finished := true } }

/-- A finished thread takes no step. -/
def TerminalSession.read (session : TerminalSession) (read : ReaderRead) : TerminalSession :=
  if session.reader.finished then session else session.readerStep read

/-- The session has ended when its reader has finished or its child has exited. -/
def TerminalSession.ended (session : TerminalSession) (waitFails : Bool) : Bool :=
  session.reader.finished ||
    match session.child with
    | some child => child.exitCode.isSome && !waitFails
    | none => false

/-- The end of a session is reported once. -/
def TerminalSession.checkClosed (session : TerminalSession) (waitFails : Bool) :
    TerminalSession × Bool :=
  if session.closedMessageSent then (session, false)
  else ({ session with closedMessageSent := session.ended waitFails }, session.ended waitFails)

/-- All output of the channel goes to the history buffer. -/
def TerminalSession.drain (session : TerminalSession) : TerminalSession × List Bytes :=
  match session.outputRx with
  | none => (session, [])
  | some chunks =>
      ({ session with
          outputRx := some []
          outputBuffer := chunks.foldl OutputBuffer.append session.outputBuffer }, chunks)

def SigwinchPhase.advance : SigwinchPhase → SigwinchPhase × Option SigwinchAction
  | .idle => (.idle, none)
  | .tempResize 0 => (.idle, none)
  | .tempResize (retries + 1) => (.tempResize retries, some .tempResize)
  | .restore 0 => (.idle, none)
  | .restore (retries + 1) => (.restore retries, some .restore)

/-- Both operations stop at the bounds of a 16-bit number. -/
def saturatingSub (value : UInt16) : UInt16 := if value = 0 then 0 else value - 1

def saturatingAdd (value : UInt16) : UInt16 := if value = 65535 then value else value + 1

def SigwinchAction.targetRows (rows : UInt16) : SigwinchAction → UInt16
  | .tempResize => if 2 < rows then saturatingSub rows else saturatingAdd rows
  | .restore => rows

/-- A redraw asks for this size of the terminal, unless the session has no size. -/
def TerminalSession.sigwinchSize (session : TerminalSession) (action : SigwinchAction) :
    Option PtySize :=
  if session.rows = 0 ∨ session.cols = 0 then none
  else session.ptySize.map fun _ => ⟨action.targetRows session.rows, session.cols⟩

/-- The terminal is resized directly or by a message to the helper. -/
def TerminalSession.doSigwinchResize (session : TerminalSession) (action : SigwinchAction)
    (resizes : Bool) : TerminalSession × Bool :=
  match session.sigwinchSize action with
  | none => (session, false)
  | some size => if resizes then ({ session with ptySize := some size }, true) else (session, false)

/-- A redraw that has started resizes the terminal in the next poll. -/
def TerminalSession.startsRedraw (session : TerminalSession) : Bool :=
  match session.state with
  | .active _ (.tempResize (_ + 1)) => true
  | _ => false

def SigwinchAction.next : SigwinchAction → SigwinchPhase
  | .tempResize => .restore maxSigwinchPhaseAttempts
  | .restore => .idle

/-- The two phases of the redraw are two resizes in two polls. -/
def TerminalSession.redraw (session : TerminalSession) (sigwinch : SigwinchPhase)
    (resizes : Bool) : TerminalSession :=
  let waiting := { session with state := .active none sigwinch.advance.1 }
  match sigwinch.advance.2 with
  | none => waiting
  | some action =>
      let (resized, done) := waiting.doSigwinchResize action resizes
      if done then { resized with state := .active none action.next } else resized

/-- A pending buffer is answered once, before the live output. -/
def replayResponses (compression : Compression) (terminalId : Int) :
    Option Bytes → List TerminalResponse
  | some buffer =>
      if buffer ≠ [] then [createTerminalDataResponse compression terminalId buffer] else []
  | none => []

/-- An active session answers with its replay and then with the received output. -/
def TerminalSession.respond (compression : Compression) (terminalId : Int)
    (session : TerminalSession) (received : List Bytes) (resizes : Bool) :
    TerminalSession × List TerminalResponse :=
  match session.state with
  | .closed => (session, [])
  | .active pendingBuffer sigwinch =>
      (session.redraw sigwinch resizes,
        replayResponses compression terminalId pendingBuffer ++
          received.map (createTerminalDataResponse compression terminalId))

/-- What the system answers during the poll of one session. -/
structure PollAnswer where
  locked : Bool := false
  waitFails : Bool := false
  resizes : Bool := true
  reapFails : Bool := false

/-- The poll reads the channel after the check and before the answer. -/
def TerminalSession.stream (compression : Compression) (terminalId : Int)
    (session : TerminalSession) (resizes : Bool) : TerminalSession × List TerminalResponse :=
  session.drain.1.respond compression terminalId session.drain.2 resizes

/-- Polling reports whether the session has ended. -/
def TerminalSession.poll (compression : Compression) (terminalId : Int)
    (session : TerminalSession) (answer : PollAnswer) :
    TerminalSession × List TerminalResponse × Bool :=
  let (checked, closed) := session.checkClosed answer.waitFails
  ((checked.stream compression terminalId answer.resizes).1,
    (checked.stream compression terminalId answer.resizes).2, closed)

/-- The backlog of the channel joins the history before the replay is cut. -/
def TerminalSession.reopen (session : TerminalSession) : TerminalSession × Bool :=
  let history := session.outputBuffer.getRecent defaultReconnectBufferBytes
  let backlog := (session.outputRx.getD []).take channelBufferSize
  let outputBuffer := backlog.foldl OutputBuffer.append session.outputBuffer
  let buffer :=
    if backlog ≠ [] then outputBuffer.getRecent defaultReconnectBufferBytes else history
  ({ session with
      outputRx := session.outputRx.map (List.drop channelBufferSize)
      outputBuffer := outputBuffer
      state := .active (if buffer ≠ [] then some buffer else none)
        (.tempResize maxSigwinchPhaseAttempts) },
    decide (buffer ≠ []))

/-- The size of the session changes even when the terminal refuses it. -/
def TerminalSession.handleResize (session : TerminalSession) (rows cols : Nat) (resizes : Bool) :
    TerminalSession × Bool :=
  let sized := { session with rows := UInt16.ofNat rows, cols := UInt16.ofNat cols }
  match session.ptySize with
  | none => (sized, true)
  | some _ =>
      if resizes then
        ({ sized with ptySize := some ⟨UInt16.ofNat rows, UInt16.ofNat cols⟩ }, true)
      else (sized, session.isHelperMode)

/-- A stopped session is closed, its channels are gone and its child is killed. -/
def TerminalSession.stop (session : TerminalSession) : TerminalSession :=
  { session with
    state := .closed
    exiting := true
    outputRx := none
    ptySize := none
    child := none }

/-- What one session receives when every request and every poll holds its lock. -/
inductive SessionInput where
  | send (data : Bytes)
  | reset
  | reopen (rows cols : Nat)
  | resize (rows cols : Nat) (resizes : Bool)
  | poll (answer : PollAnswer)

/-- The record holds what the channel accepted and the size the client requested last. -/
structure SessionRecord where
  session : TerminalSession
  received : List Bytes := []
  requested : PtySize

def SessionRecord.spawned (serial pid rows cols : Nat) (isHelperMode : Bool) : SessionRecord where
  session := .spawned serial pid rows cols isHelperMode
  requested := ⟨UInt16.ofNat rows, UInt16.ofNat cols⟩

/-- The channel accepts a chunk while it has room. -/
def TerminalSession.accepts (session : TerminalSession) : Bool :=
  match session.outputRx with
  | none => false
  | some chunks => chunks.length < channelBufferSize

/-- A reset closes the session for the client that is gone. -/
def TerminalSession.reset (session : TerminalSession) : TerminalSession :=
  { session with state := .closed }

/-- A reopen requests a size too, which the session does not take over. -/
def sessionMachine (compression : Compression) (terminalId : Int) :
    Machine SessionRecord SessionInput TerminalResponse where
  step record
    | .send data =>
        ({ record with
            session := (record.session.trySendOutput data).1
            received := if record.session.accepts then record.received ++ [data]
              else record.received }, [])
    | .reset => ({ record with session := record.session.reset }, [])
    | .reopen rows cols =>
        ({ record with
            session := record.session.reopen.1
            requested := ⟨UInt16.ofNat rows, UInt16.ofNat cols⟩ }, [])
    | .resize rows cols resizes =>
        ({ record with
            session := (record.session.handleResize rows cols resizes).1
            requested := ⟨UInt16.ofNat rows, UInt16.ofNat cols⟩ }, [])
    | .poll answer =>
        let (session, responses, _) := record.session.poll compression terminalId answer
        ({ record with session := session }, responses)

/-- A client keeps its stream until the session is reset or opened again. -/
def SessionInput.continues : SessionInput → Bool
  | .reset | .reopen _ _ => false
  | _ => true

/-- A poll checks the session, streams its output and then cleans up. -/
inductive PollStage where
  | waiting
  | checked (closing : Bool)
  | streamed (closing : Bool)
  | removed
deriving DecidableEq

inductive WatchInput where
  | read (read : ReaderRead)
  | exit (code : Int)
  | check (waitFails : Bool)
  | stream (resizes : Bool)
  | cleanUp (reapFails : Bool)
deriving DecidableEq

/-- The watch of a session counts the bytes that its reader has read. -/
structure SessionWatch where
  session : TerminalSession
  stage : PollStage := .waiting
  readBytes : Bytes := []
deriving DecidableEq

def ReaderRead.bytes : ReaderRead → Bytes
  | .data first more => first :: more
  | _ => []

/-- A running child exits once. -/
def TerminalSession.exit (session : TerminalSession) (code : Int) : TerminalSession :=
  { session with child := session.child.map fun child => ⟨child.exitCode.or (some code)⟩ }

/-- The exit code is read from a child that is at hand. -/
def TerminalSession.reapedCode (session : TerminalSession) (reapFails : Bool) : Int :=
  if reapFails then 0
  else (session.child.bind Child.exitCode).getD 0

/-- The reader and the child act between the parts of a poll. -/
def watchMachine (compression : Compression) (terminalId : Int) :
    Machine SessionWatch WatchInput TerminalResponse where
  step watch input :=
    match input, watch.stage with
    | .read read, _ =>
        ({ watch with
            session := watch.session.read read
            readBytes := if watch.session.reader.finished then watch.readBytes
              else watch.readBytes ++ read.bytes }, [])
    | .exit code, _ => ({ watch with session := watch.session.exit code }, [])
    | .check waitFails, .waiting =>
        let (session, closing) := watch.session.checkClosed waitFails
        ({ watch with session := session, stage := .checked closing }, [])
    | .stream resizes, .checked closing =>
        let (session, responses) := watch.session.stream compression terminalId resizes
        ({ watch with session := session, stage := .streamed closing }, responses)
    | .cleanUp _, .streamed false => ({ watch with stage := .waiting }, [])
    | .cleanUp reapFails, .streamed true =>
        ({ watch with session := watch.session.stop, stage := .removed },
          [.closed terminalId (watch.session.reapedCode reapFails)])
    | _, _ => (watch, [])

end SubnetDesk.Terminal
