/-
This file defines the stream of one consumer: the capture worker, the forwarding task, the display
cache, and the consumer that acknowledges its frames. The consumer is admitted, and the slots of
the workers are left to the definition of the admission.
-/

import SubnetDesk.Construction.Drm.Admission
import SubnetDesk.Construction.Drm.Geometry
import SubnetDesk.Foundation.Machine

namespace SubnetDesk.Drm

def drmPeerAuthorized (peerUid activeUid : Option UInt32) : Bool :=
  match peerUid with
  | some 0 => true
  | some uid => activeUid == some uid
  | none => false

def drmFrameCredit : Int := 2

def maxAckReads : Nat := 64

def ackBufferBytes : Nat := 64

def maxStalled : Nat := 150

/-- The number of bytes of a picture, in the saturating arithmetic of a machine word. -/
def bytesNeeded (width height : UInt32) : Nat :=
  min (min (width.toNat * height.toNat) (2 ^ 64 - 1) * 4) (2 ^ 64 - 1)

/-- A cursor knows, as history, the active uid at its grab. -/
structure Cursor where
  id : UInt64
  width : UInt32
  height : UInt32
  hotx : Int32
  hoty : Int32
  colors : Bytes
  under : Option UInt32

section Messages

variable (Image : Type)

/-- A frame is the descriptor of a buffer together with its fd, or a copy of the pixels. -/
inductive FrameData where
  | dmabuf (image : Image)
  | cpu (width height : UInt32) (data : Bytes)

/-- A frame knows, as history, the active uid at its grab. -/
structure Frame where
  data : FrameData Image
  under : Option UInt32

inductive DrmProducerMsg where
  | displays (list : List DrmDisplayInfo)
  | frame (frame : Frame Image)
  | cursor (cursor : Cursor)

/-- A body follows its header as raw bytes. A header and a body know, as history, what they belong
to. -/
inductive WireMsg where
  | drmDisplayList (list : List DrmDisplayInfo)
  | drmDisplaysChanged (list : List DrmDisplayInfo)
  | drmFrameDmabuf (frame : Frame Image)
  | drmFrame (width height : UInt32) (frame : Frame Image)
  | frameBody (data : Bytes) (frame : Frame Image)
  | drmCursor (cursor : Cursor)
  | cursorBody (colors : Bytes) (cursor : Cursor)

/-- What the two kinds of grabs would return of a scanout. -/
structure Scanout where
  image : Image
  width : UInt32
  height : UInt32
  data : Bytes

inductive GrabOutcome where
  | grabbed (scanout : Scanout Image)
  | wouldBlock
  | unsupported
  | failed

end Messages

/-- A refresh worker compares what it enumerated, and bumps the generation after a change. -/
inductive Refresher where
  | idle
  | comparing (fresh : List DrmDisplayInfo)
  | bumping

/-- The state that the connections share. The contents of the cache since the last bump of the
generation are history. -/
structure DisplayHub where
  activeUid : Option UInt32
  topology : List DrmDisplayInfo
  cache : List DrmDisplayInfo
  generation : Nat
  contents : List (List DrmDisplayInfo)
  refresher : Refresher

/-- A turn of the single worker of `schedule_drm_cache_refresh`. -/
def refreshCache (hub : DisplayHub) (panics : Bool) : DisplayHub :=
  match hub.refresher with
  | .idle => { hub with refresher := .comparing (if panics then [] else hub.topology) }
  | .comparing fresh =>
      if hub.cache ≠ fresh then
        { hub with cache := fresh, contents := fresh :: hub.contents, refresher := .bumping }
      else { hub with refresher := .idle }
  | .bumping =>
      { hub with
        generation := hub.generation + 1, contents := [hub.cache], refresher := .idle }

inductive WorkerPlace where
  | enumerating
  | choosing
  | opening
  | checking
  | gating
  | grabbing
  | cursoring
  | sleeping
  | exited

/-- A worker with an offered message waits for room in the queue before it goes on. -/
structure Worker (Image : Type) where
  place : WorkerPlace
  offered : Option (DrmProducerMsg Image)
  useDmabuf : Bool
  lastCursorId : UInt64
  stalled : Nat

/-- The places between two suspensions or two looks at shared state. The drains of the
acknowledgements have some reads left. -/
inductive TaskPlace where
  | awaiting
  | sendingList
  | starting
  | sampling
  | draining (reads : Nat)
  | gating
  | selecting
  | authorizing
  | loading
  | rereading
  | announcing (fresh : List DrmDisplayInfo)
  | fetching
  | handling
  | cursorBody
  | taking
  | redraining (reads : Nat)
  | deciding
  | frameBody
  | ended

/-- The message in hand is `first`, and later `msg`. It stays in hand until it is sent. -/
structure ForwardTask (Image : Type) where
  place : TaskPlace
  displays : List DrmDisplayInfo
  seenGen : Nat
  credit : Int
  heldFrame : Option (Frame Image)
  latestFrame : Option (Frame Image)
  msg : Option (DrmProducerMsg Image)

inductive ConsumerPlace where
  | handshaking
  | reading
  | frameBody (width height : UInt32)
  | acking
  | cursorBody (width height : UInt32)
  | gone

structure Consumer where
  place : ConsumerPlace
  needCpu : Bool

/-- What the worker made, what the task took and sent, what the consumer read, and the number of
frames that it acknowledged. -/
structure StreamHistory (Image : Type) where
  produced : List (DrmProducerMsg Image)
  received : List (DrmProducerMsg Image)
  sent : List (WireMsg Image)
  read : List (WireMsg Image)
  acked : Nat

/-- The consumer answers with the index of a display and its need of copied pixels, and later with
one byte for each frame. The choice of the task tells the worker only the latter. -/
structure ForwardState (Image : Type) where
  hub : DisplayHub
  worker : Worker Image
  queue : List (DrmProducerMsg Image)
  gated : Bool
  chosen : Option Bool
  task : ForwardTask Image
  wire : List (WireMsg Image)
  start : Option (Int32 × Bool)
  acks : Nat
  consumer : Consumer
  history : StreamHistory Image

structure WorkerChoice (Image : Type) where
  opens : Bool
  grab : GrabOutcome Image
  cursor : Option Cursor

/-- An await or a read fails, a read takes some bytes, and a wait ends without a message. -/
structure TaskChoice where
  fails : Bool
  size : Nat
  wakes : Bool

inductive ConvertOutcome where
  | converted
  | wouldBlock
  | failed

/-- The thread stops or its wait fails, or a message makes it leave. -/
structure ConsumerChoice where
  stops : Bool
  leaves : Bool
  display : Int32
  needCpu : Bool
  convert : ConvertOutcome

inductive ForwardInput (Image : Type) where
  | switch (activeUid : Option UInt32)
  | plug (topology : List DrmDisplayInfo)
  | refresh (panics : Bool)
  | worker (choice : WorkerChoice Image)
  | task (choice : TaskChoice)
  | consumer (choice : ConsumerChoice)
  | stray (bytes : Nat)

section Steps

variable {Image : Type}

def TaskPlace.isEnded : TaskPlace → Bool
  | .ended => true
  | _ => false

def WorkerPlace.isExited : WorkerPlace → Bool
  | .exited => true
  | _ => false

/-- The worker has a new message for the queue. -/
def offer (state : ForwardState Image) (worker : Worker Image) (msg : DrmProducerMsg Image)
    (next : WorkerPlace) : ForwardState Image :=
  { state with
    worker := { worker with offered := some msg, place := next }
    history := { state.history with produced := state.history.produced ++ [msg] } }

def grabFrame (useDmabuf : Bool) (scanout : Scanout Image) : FrameData Image :=
  if useDmabuf then .dmabuf scanout.image else .cpu scanout.width scanout.height scanout.data

/-- A grab that has no frame for too long, is not supported for pixels, or fails ends the worker. -/
def grab (state : ForwardState Image) (outcome : GrabOutcome Image) : ForwardState Image :=
  let worker := state.worker
  match outcome with
  | .grabbed scanout =>
      offer state { worker with stalled := 0 }
        (.frame ⟨grabFrame worker.useDmabuf scanout, state.hub.activeUid⟩) .cursoring
  | .wouldBlock =>
      { state with
        worker := { worker with
          stalled := worker.stalled + 1
          place := if maxStalled < worker.stalled + 1 then .exited else .sleeping } }
  | .unsupported =>
      if worker.useDmabuf then
        { state with
          worker := { worker with useDmabuf := false, stalled := 0, place := .checking } }
      else { state with worker := { worker with place := .exited } }
  | .failed => { state with worker := { worker with place := .exited } }

/-- The cursor is offered only when its id changes. -/
def readCursor (state : ForwardState Image) (cursor : Option Cursor) : ForwardState Image :=
  let worker := state.worker
  match cursor with
  | none => { state with worker := { worker with place := .sleeping } }
  | some seen =>
      if seen.id ≠ worker.lastCursorId then
        offer state { worker with lastCursorId := seen.id }
          (.cursor { seen with under := state.hub.activeUid }) .sleeping
      else { state with worker := { worker with place := .sleeping } }

/-- The next step of `drm_capture_worker`. The end of the task stops the worker and closes its
queue. -/
def drmCaptureWorker (state : ForwardState Image) (choice : WorkerChoice Image) :
    ForwardState Image :=
  let worker := state.worker
  match worker.offered with
  | some msg =>
      if state.task.place.isEnded then { state with worker := { worker with place := .exited } }
      else if state.queue.length < frameCapacity then
        { state with worker := { worker with offered := none }, queue := state.queue ++ [msg] }
      else state
  | none =>
      match worker.place with
      | .enumerating => offer state worker (.displays state.hub.topology) .choosing
      | .choosing =>
          match state.chosen with
          | some needCpu =>
              { state with worker := { worker with useDmabuf := !needCpu, place := .opening } }
          | none =>
              if state.task.place.isEnded then
                { state with worker := { worker with place := .exited } }
              else state
      | .opening =>
          { state with
            worker := { worker with place := if choice.opens then .checking else .exited } }
      | .checking =>
          { state with
            worker := { worker with
              place := if state.task.place.isEnded then .exited else .gating } }
      | .gating =>
          { state with
            worker := { worker with place := if state.gated then .cursoring else .grabbing } }
      | .grabbing => grab state choice.grab
      | .cursoring => readCursor state choice.cursor
      | .sleeping => { state with worker := { worker with place := .checking } }
      | .exited => state

def taskTo (state : ForwardState Image) (place : TaskPlace) : ForwardState Image :=
  { state with task := { state.task with place := place } }

/-- A message leaves for the consumer. -/
def send (state : ForwardState Image) (msg : WireMsg Image) : ForwardState Image :=
  { state with
    wire := state.wire ++ [msg]
    history := { state.history with sent := state.history.sent ++ [msg] } }

/-- The task takes the oldest message of the queue into its hand. -/
def tryRecv (state : ForwardState Image) (place : TaskPlace) : ForwardState Image :=
  { state with
    queue := state.queue.tail
    task := { state.task with msg := state.queue.head?, place := place }
    history := { state.history with
      received := state.history.received ++ state.queue.head?.toList } }

/-- A closed queue ends the task, and an empty one makes it wait. -/
def recv (state : ForwardState Image) (place : TaskPlace) : ForwardState Image :=
  match state.queue with
  | _ :: _ => tryRecv state place
  | [] => if state.worker.place.isExited then taskTo state .ended else state

/-- One read of `drain_frame_acks`. A read of no byte would block. -/
def drainFrameAcks (state : ForwardState Image) (choice : TaskChoice) (reads : Nat)
    (again : Nat → TaskPlace) (next : TaskPlace) : ForwardState Image :=
  match reads with
  | 0 => taskTo state next
  | left + 1 =>
      let count := min choice.size (min state.acks ackBufferBytes)
      if choice.fails then taskTo state .ended
      else if count = 0 then taskTo state next
      else
        let credit := min (state.task.credit + count) drmFrameCredit
        { state with
          acks := state.acks - count
          task := { state.task with
            credit := credit, place := if drmFrameCredit ≤ credit then next else again left } }

def targetCrtc (displays : List DrmDisplayInfo) (display : Int32) : UInt32 :=
  let selected := if display < 0 then none else displays[display.toInt.toNat]?
  (selected.map DrmDisplayInfo.crtcId).getD 0

/-- The answer of the consumer must name a display that is bound to a CRTC. -/
def receiveStart (state : ForwardState Image) (choice : TaskChoice) : ForwardState Image :=
  match state.start with
  | none => if choice.fails then taskTo state .ended else state
  | some (display, needCpu) =>
      if choice.fails || targetCrtc state.task.displays display == 0 ||
          state.worker.place.isExited then
        taskTo { state with start := none } .ended
      else taskTo { state with start := none, chosen := some needCpu } .sampling

/-- The wait for the first message of a turn. -/
def selectFirst (state : ForwardState Image) (choice : TaskChoice) : ForwardState Image :=
  if state.task.heldFrame.isSome && 0 < state.task.credit then tryRecv state .authorizing
  else if state.task.credit ≤ 0 then
    if choice.fails then taskTo state .ended
    else if choice.wakes then taskTo state .authorizing
    else recv state .authorizing
  else recv state .authorizing

/-- The held frame becomes the latest one, and the turn looks at its first message. -/
def fetch (state : ForwardState Image) : ForwardState Image :=
  let kept := { state with
    task := { state.task with latestFrame := state.task.heldFrame, heldFrame := none } }
  match state.task.msg with
  | some _ => taskTo kept .handling
  | none => tryRecv kept (if state.queue.isEmpty then .redraining maxAckReads else .handling)

/-- A frame replaces the latest one, and a cursor is sent at once. -/
def handle (state : ForwardState Image) (choice : TaskChoice) : ForwardState Image :=
  match state.task.msg with
  | some (.frame frame) =>
      { state with
        task := { state.task with latestFrame := some frame, msg := none, place := .taking } }
  | some (.cursor cursor) =>
      if choice.fails then taskTo state .ended
      else taskTo (send state (.drmCursor cursor)) .cursorBody
  | some (.displays _) | none =>
      { state with task := { state.task with msg := none, place := .taking } }

/-- The cursor whose header was sent is still in the hand. -/
def sendCursorBody (state : ForwardState Image) (choice : TaskChoice) : ForwardState Image :=
  match state.task.msg with
  | some (.cursor cursor) =>
      if choice.fails then taskTo state .ended
      else
        let after := send state (.cursorBody cursor.colors cursor)
        { after with task := { after.task with msg := none, place := .taking } }
  | _ => taskTo state .ended

/-- The last write of a frame and the decrement of the private credit are one step. -/
def sendLast (state : ForwardState Image) (msg : WireMsg Image) : ForwardState Image :=
  let after := send state msg
  { after with
    task := { after.task with
      latestFrame := none, credit := after.task.credit - 1, place := .draining maxAckReads } }

/-- Without credit the latest frame is held. -/
def decideFrame (state : ForwardState Image) (choice : TaskChoice) : ForwardState Image :=
  if state.task.credit ≤ 0 then
    { state with
      task := { state.task with
        heldFrame := state.task.latestFrame, latestFrame := none
        place := .draining maxAckReads } }
  else
    match state.task.latestFrame with
    | none => taskTo state (.draining maxAckReads)
    | some frame =>
        if choice.fails then taskTo state .ended
        else
          match frame.data with
          | .dmabuf _ => sendLast state (.drmFrameDmabuf frame)
          | .cpu width height _ => taskTo (send state (.drmFrame width height frame)) .frameBody

/-- The latest frame is the one whose header was sent. -/
def sendFrameBody (state : ForwardState Image) (choice : TaskChoice) : ForwardState Image :=
  match state.task.latestFrame with
  | some ⟨.cpu width height data, under⟩ =>
      if choice.fails then taskTo state .ended
      else sendLast state (.frameBody data ⟨.cpu width height data, under⟩)
  | _ => taskTo state .ended

/-- The first message of the worker is its list of displays. -/
def awaitDisplays (state : ForwardState Image) : ForwardState Image :=
  match state.queue with
  | .displays list :: _ =>
      let after := tryRecv state .sendingList
      { after with task := { after.task with displays := list, msg := none } }
  | _ => recv state .ended

/-- The next step of the task of `handle_drm_conn`. -/
def handleDrmConn (peerUid : Option UInt32) (state : ForwardState Image) (choice : TaskChoice) :
    ForwardState Image :=
  match state.task.place with
  | .awaiting => awaitDisplays state
  | .sendingList =>
      if choice.fails then taskTo state .ended
      else taskTo (send state (.drmDisplayList state.task.displays)) .starting
  | .starting => receiveStart state choice
  | .sampling =>
      { state with
        task := { state.task with
          seenGen := state.hub.generation, place := .draining maxAckReads } }
  | .draining reads => drainFrameAcks state choice reads .draining .gating
  | .gating =>
      if state.task.credit ≤ 0 && choice.fails then taskTo state .ended
      else taskTo { state with gated := state.task.credit ≤ 0 } .selecting
  | .selecting => selectFirst state choice
  | .authorizing =>
      taskTo state (if drmPeerAuthorized peerUid state.hub.activeUid then .loading else .ended)
  | .loading =>
      if state.hub.generation ≠ state.task.seenGen then
        { state with
          task := { state.task with seenGen := state.hub.generation, place := .rereading } }
      else taskTo state .fetching
  | .rereading => taskTo state (.announcing state.hub.cache)
  | .announcing fresh =>
      if choice.fails then taskTo state .ended
      else taskTo (send state (.drmDisplaysChanged fresh)) .fetching
  | .fetching => fetch state
  | .handling => handle state choice
  | .cursorBody => sendCursorBody state choice
  | .taking =>
      tryRecv state (if state.queue.isEmpty then .redraining maxAckReads else .handling)
  | .redraining reads => drainFrameAcks state choice reads .redraining .deciding
  | .deciding => decideFrame state choice
  | .frameBody => sendFrameBody state choice
  | .ended => state

def consumerTo (state : ForwardState Image) (place : ConsumerPlace) : ForwardState Image :=
  { state with consumer := { state.consumer with place := place } }

/-- The consumer takes the oldest message from the wire. -/
def readMsg (state : ForwardState Image) (place : ConsumerPlace) : ForwardState Image :=
  consumerTo
    { state with
      wire := state.wire.tail
      history := { state.history with
        read := state.history.read ++ state.wire.head?.toList } } place

/-- The place of the consumer after a message of the loop. Raw bytes are no message, and a changed
list may end the stream. -/
def ConsumerPlace.afterMsg (needCpu : Bool) (choice : ConsumerChoice) :
    WireMsg Image → ConsumerPlace
  | .drmFrameDmabuf _ =>
      if needCpu then .gone
      else
        match choice.convert with
        | .converted | .wouldBlock => .acking
        | .failed => .gone
  | .drmFrame width height _ =>
      if width = 0 ∨ height = 0 then .gone else .frameBody width height
  | .drmCursor cursor => .cursorBody cursor.width cursor.height
  | .drmDisplaysChanged _ => if choice.leaves then .gone else .reading
  | .drmDisplayList _ => .reading
  | .frameBody _ _ | .cursorBody _ _ => .gone

/-- A body that is shorter than its picture ends the stream. -/
def ConsumerPlace.afterBody (body : Bytes) (width height : UInt32) (next : ConsumerPlace) :
    ConsumerPlace :=
  if body.length < bytesNeeded width height then .gone else next

/-- The next step of `recv_thread`. A header is followed by its own body. -/
def recvThread (state : ForwardState Image) (choice : ConsumerChoice) : ForwardState Image :=
  if choice.stops then consumerTo state .gone
  else
    match state.consumer.place, state.wire with
    | .gone, _ => state
    | .acking, _ =>
        consumerTo
          { state with
            acks := state.acks + 1
            history := { state.history with acked := state.history.acked + 1 } } .reading
    | _, [] => state
    | .handshaking, .drmDisplayList _ :: _ =>
        if choice.leaves then readMsg state .gone
        else
          { readMsg state .reading with
            start := some (choice.display, choice.needCpu)
            consumer := ⟨.reading, choice.needCpu⟩ }
    | .reading, msg :: _ =>
        readMsg state (ConsumerPlace.afterMsg state.consumer.needCpu choice msg)
    | .frameBody width height, .frameBody data _ :: _ =>
        readMsg state (ConsumerPlace.afterBody data width height .acking)
    | .cursorBody width height, .cursorBody colors _ :: _ =>
        readMsg state (ConsumerPlace.afterBody colors width height .reading)
    | _, _ :: _ => readMsg state .gone

def DrmProducerMsg.frame? : DrmProducerMsg Image → Option (Frame Image)
  | .frame carried => some carried
  | _ => none

def DrmProducerMsg.cursor? : DrmProducerMsg Image → Option Cursor
  | .cursor carried => some carried
  | _ => none

/-- The active uid at the grab, for a frame or a cursor. -/
def DrmProducerMsg.under? : DrmProducerMsg Image → Option (Option UInt32)
  | .displays _ => none
  | .frame carried => some carried.under
  | .cursor carried => some carried.under

/-- The frame that a message on the wire completes. -/
def WireMsg.frame? : WireMsg Image → Option (Frame Image)
  | .drmFrameDmabuf carried | .frameBody _ carried => some carried
  | _ => none

def WireMsg.cursor? : WireMsg Image → Option Cursor
  | .cursorBody _ carried => some carried
  | _ => none

/-- The active uid at the grab, for every part of a frame or a cursor. -/
def WireMsg.under? : WireMsg Image → Option (Option UInt32)
  | .drmFrameDmabuf carried | .drmFrame _ _ carried | .frameBody _ carried => some carried.under
  | .drmCursor carried | .cursorBody _ carried => some carried.under
  | .drmDisplayList _ | .drmDisplaysChanged _ => none

def WireMsg.list? : WireMsg Image → Option (List DrmDisplayInfo)
  | .drmDisplayList list | .drmDisplaysChanged list => some list
  | _ => none

/-- A consumer that runs other code than `recv_thread` may write stray bytes. -/
def forwardStep (peerUid : Option UInt32) (state : ForwardState Image) :
    ForwardInput Image → ForwardState Image
  | .switch activeUid => { state with hub := { state.hub with activeUid := activeUid } }
  | .plug topology => { state with hub := { state.hub with topology := topology } }
  | .refresh panics => { state with hub := refreshCache state.hub panics }
  | .worker choice => drmCaptureWorker state choice
  | .task choice => handleDrmConn peerUid state choice
  | .consumer choice => recvThread state choice
  | .stray bytes => { state with acks := state.acks + bytes }

def forwarding (peerUid : Option UInt32) :
    Machine (ForwardState Image) (ForwardInput Image) Empty where
  step state input := (forwardStep peerUid state input, [])

/-- The connection starts with the service, before any event of the shared state. -/
def initialForward : ForwardState Image where
  hub := ⟨none, [], [], 0, [[]], .idle⟩
  worker := ⟨.enumerating, none, true, 0, 0⟩
  queue := []
  gated := false
  chosen := none
  task := ⟨.awaiting, [], 0, drmFrameCredit, none, none, none⟩
  wire := []
  start := none
  acks := 0
  consumer := ⟨.handshaking, false⟩
  history := ⟨[], [], [], [], 0⟩

end Steps

end SubnetDesk.Drm
