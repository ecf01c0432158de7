import SubnetDesk.Construction.Drm.Forward

namespace SubnetDesk.Drm

variable {Image : Type} {state : ForwardState Image}

/-- A step of the worker keeps its messages, makes a new one, or puts one into the queue. -/
inductive CaptureMoved (state : ForwardState Image) :
    Option (DrmProducerMsg Image) → List (DrmProducerMsg Image) →
      List (DrmProducerMsg Image) → Prop where
  | kept : CaptureMoved state state.worker.offered state.queue state.history.produced
  | made (msg : DrmProducerMsg Image) (idle : state.worker.offered = none)
      (under : ∀ uid, msg.under? = some uid → uid = state.hub.activeUid) :
      CaptureMoved state (some msg) state.queue (state.history.produced ++ [msg])
  | queued (msg : DrmProducerMsg Image) (offered : state.worker.offered = some msg)
      (room : state.queue.length < frameCapacity) :
      CaptureMoved state none (state.queue ++ [msg]) state.history.produced

/-- The worker changes only its own state, the queue, and its history. -/
theorem drmCaptureWorker_moved (state : ForwardState Image) (choice : WorkerChoice Image) :
    ∃ worker queue produced,
      drmCaptureWorker state choice =
        { state with
          worker := worker, queue := queue
          history := { state.history with produced := produced } } ∧
      CaptureMoved state worker.offered queue produced := by
  unfold drmCaptureWorker
  dsimp only
  split
  next msg offered =>
    split
    next => exact ⟨_, _, _, rfl, .kept⟩
    next =>
      split
      next room => exact ⟨_, _, _, rfl, .queued msg offered room⟩
      next => exact ⟨_, _, _, rfl, .kept⟩
  next idle =>
    split
    next => exact ⟨_, _, _, rfl, .made _ idle (by simp [DrmProducerMsg.under?])⟩
    next =>
      split
      next => exact ⟨_, _, _, rfl, .kept⟩
      next =>
        split
        next => exact ⟨_, _, _, rfl, .kept⟩
        next => exact ⟨_, _, _, rfl, .kept⟩
    next => exact ⟨_, _, _, rfl, .kept⟩
    next => exact ⟨_, _, _, rfl, .kept⟩
    next => exact ⟨_, _, _, rfl, .kept⟩
    next =>
      unfold grab
      dsimp only
      split
      next => exact ⟨_, _, _, rfl, .made _ idle (by simp [DrmProducerMsg.under?])⟩
      next => exact ⟨_, _, _, rfl, .kept⟩
      next =>
        split
        next => exact ⟨_, _, _, rfl, .kept⟩
        next => exact ⟨_, _, _, rfl, .kept⟩
      next => exact ⟨_, _, _, rfl, .kept⟩
    next =>
      unfold readCursor
      dsimp only
      split
      next => exact ⟨_, _, _, rfl, .kept⟩
      next =>
        split
        next => exact ⟨_, _, _, rfl, .made _ idle (by simp [DrmProducerMsg.under?])⟩
        next => exact ⟨_, _, _, rfl, .kept⟩
    next => exact ⟨_, _, _, rfl, .kept⟩
    next => exact ⟨_, _, _, rfl, .kept⟩

/-- A step of the consumer keeps the channels, acknowledges a frame, or reads a message. -/
inductive ConsumerMoved (state : ForwardState Image) :
    List (WireMsg Image) → List (WireMsg Image) → Nat → Nat → ConsumerPlace → Prop where
  | kept (place : ConsumerPlace) (same : place = state.consumer.place ∨ place = .gone) :
      ConsumerMoved state state.wire state.history.read state.acks state.history.acked place
  | acked (acking : state.consumer.place = .acking) :
      ConsumerMoved state state.wire state.history.read (state.acks + 1)
        (state.history.acked + 1) .reading
  | read (msg : WireMsg Image) (rest : List (WireMsg Image)) (place : ConsumerPlace)
      (head : state.wire = msg :: rest)
      (calm : state.consumer.place ≠ .acking ∧ state.consumer.place ≠ .gone)
      (frame : place ≠ .gone → (place = .acking ↔ msg.frame?.isSome = true)) :
      ConsumerMoved state rest (state.history.read ++ [msg]) state.acks state.history.acked place

theorem afterMsg_acking {needCpu : Bool} {choice : ConsumerChoice} {msg : WireMsg Image}
    (alive : ConsumerPlace.afterMsg needCpu choice msg ≠ .gone) :
    ConsumerPlace.afterMsg needCpu choice msg = .acking ↔ msg.frame?.isSome = true := by
  cases msg with
  | drmFrameDmabuf carried =>
      simp only [ConsumerPlace.afterMsg] at alive ⊢
      split at alive
      next => contradiction
      next cpu =>
        cases convert : choice.convert with
        | converted => simp [cpu, WireMsg.frame?]
        | wouldBlock => simp [cpu, WireMsg.frame?]
        | failed => simp [convert] at alive
  | drmFrame width height carried =>
      simp only [ConsumerPlace.afterMsg, WireMsg.frame?]
      split <;> simp
  | drmDisplaysChanged list =>
      simp only [ConsumerPlace.afterMsg, WireMsg.frame?]
      split <;> simp
  | drmDisplayList list => simp [ConsumerPlace.afterMsg, WireMsg.frame?]
  | drmCursor carried => simp [ConsumerPlace.afterMsg, WireMsg.frame?]
  | frameBody data carried => contradiction
  | cursorBody colors carried => contradiction

theorem afterBody_eq {body : Bytes} {width height : UInt32} {next : ConsumerPlace}
    (alive : ConsumerPlace.afterBody body width height next ≠ .gone) :
    ConsumerPlace.afterBody body width height next = next := by
  unfold ConsumerPlace.afterBody at alive ⊢
  split at alive
  next => contradiction
  next full => rw [if_neg full]

/-- A consumer reads the head of the wire. -/
theorem readMsg_eq {msg : WireMsg Image} {rest : List (WireMsg Image)}
    (head : state.wire = msg :: rest) (place : ConsumerPlace) :
    readMsg state place =
      { state with
        wire := rest
        consumer := { state.consumer with place := place }
        history := { state.history with read := state.history.read ++ [msg] } } := by
  simp [readMsg, consumerTo, head]

/-- The consumer changes only its own state, the channels at its side, and its history. -/
theorem recvThread_moved (state : ForwardState Image) (choice : ConsumerChoice) :
    ∃ wire start acks consumer read acked,
      recvThread state choice =
        { state with
          wire := wire, start := start, acks := acks, consumer := consumer
          history := { state.history with read := read, acked := acked } } ∧
      ConsumerMoved state wire read acks acked consumer.place := by
  unfold recvThread
  split
  next => exact ⟨_, _, _, _, _, _, rfl, .kept .gone (.inr rfl)⟩
  next =>
    split
    next => exact ⟨_, _, _, _, _, _, rfl, .kept _ (.inl rfl)⟩
    next acking => exact ⟨_, _, _, _, _, _, rfl, .acked acking⟩
    next => exact ⟨_, _, _, _, _, _, rfl, .kept _ (.inl rfl)⟩
    next list rest handshaking head =>
      have calm : state.consumer.place ≠ .acking ∧ state.consumer.place ≠ .gone := by
        simp [handshaking]
      rw [readMsg_eq head, readMsg_eq head]
      split
      next => exact ⟨_, _, _, _, _, _, rfl, .read _ rest .gone head calm (by simp)⟩
      next =>
        exact ⟨_, _, _, _, _, _, rfl, .read _ rest .reading head calm (by simp [WireMsg.frame?])⟩
    next msg rest reading head =>
      rw [readMsg_eq head]
      exact ⟨_, _, _, _, _, _, rfl, .read msg rest _ head (by simp [reading]) afterMsg_acking⟩
    next width height data carried rest waiting head =>
      rw [readMsg_eq head]
      refine ⟨_, _, _, _, _, _, rfl, .read _ rest _ head (by simp [waiting]) ?_⟩
      intro alive
      simp [afterBody_eq alive, WireMsg.frame?]
    next width height colors carried rest waiting head =>
      rw [readMsg_eq head]
      refine ⟨_, _, _, _, _, _, rfl, .read _ rest _ head (by simp [waiting]) ?_⟩
      intro alive
      simp [afterBody_eq alive, WireMsg.frame?]
    next msg rest head awake calm _ _ _ _ =>
      rw [readMsg_eq head]
      exact ⟨_, _, _, _, _, _, rfl, .read msg rest .gone head ⟨calm, awake⟩ (by simp)⟩

/-- A read of acknowledgements takes some bytes, adds them to the credit, and goes on to read, to the
next place, or to the end. -/
theorem drainFrameAcks_moved (state : ForwardState Image) (choice : TaskChoice) (reads : Nat)
    (again : Nat → TaskPlace) (next : TaskPlace) :
    ∃ count credit place,
      drainFrameAcks state choice reads again next =
        { state with
          acks := state.acks - count
          task := { state.task with credit := credit, place := place } } ∧
      count ≤ state.acks ∧
      (count = 0 ∧ credit = state.task.credit ∨
        credit = min (state.task.credit + count) drmFrameCredit) ∧
      (place = .ended ∨ place = next ∨ ∃ left, place = again left) := by
  unfold drainFrameAcks
  split
  next => exact ⟨0, _, _, rfl, by omega, .inl ⟨rfl, rfl⟩, .inr (.inl rfl)⟩
  next left =>
    dsimp only
    split
    next => exact ⟨0, _, _, rfl, by omega, .inl ⟨rfl, rfl⟩, .inl rfl⟩
    next =>
      split
      next => exact ⟨0, _, _, rfl, by omega, .inl ⟨rfl, rfl⟩, .inr (.inl rfl)⟩
      next =>
        refine ⟨_, _, _, rfl, by omega, .inr rfl, ?_⟩
        split
        next => exact .inr (.inl rfl)
        next => exact .inr (.inr ⟨left, rfl⟩)

/-- What a step of the task can do to the channels and the credit. -/
inductive ForwardMoved (state : ForwardState Image) : ForwardState Image → Prop where
  | stayed (task : ForwardTask Image) (gated : Bool) (chosen : Option Bool)
      (start : Option (Int32 × Bool)) (credit : task.credit = state.task.credit)
      (place : task.place ≠ .frameBody) :
      ForwardMoved state
        { state with task := task, gated := gated, chosen := chosen, start := start }
  | drained (task : ForwardTask Image) (count : Nat) (enough : count ≤ state.acks)
      (credit : count = 0 ∧ task.credit = state.task.credit ∨
        task.credit = min (state.task.credit + count) drmFrameCredit)
      (place : task.place ≠ .frameBody) :
      ForwardMoved state { state with task := task, acks := state.acks - count }
  | took (task : ForwardTask Image) (credit : task.credit = state.task.credit)
      (place : task.place ≠ .frameBody) :
      ForwardMoved state
        { state with
          task := task
          queue := state.queue.tail
          history := { state.history with
            received := state.history.received ++ state.queue.head?.toList } }
  | sent (task : ForwardTask Image) (msg : WireMsg Image) (part : msg.frame? = none)
      (credit : task.credit = state.task.credit)
      (place : task.place = .frameBody → 0 < state.task.credit) :
      ForwardMoved state { send state msg with task := task }
  | paid (task : ForwardTask Image) (msg : WireMsg Image) (frame : Frame Image)
      (whole : msg.frame? = some frame) (latest : state.task.latestFrame = some frame)
      (able : state.task.place = .deciding ∧ 0 < state.task.credit ∨
        state.task.place = .frameBody)
      (credit : task.credit = state.task.credit - 1) (place : task.place ≠ .frameBody) :
      ForwardMoved state { send state msg with task := task }

/-- A task moves on by the rules. -/
theorem taskTo_moved (state : ForwardState Image) {place : TaskPlace}
    (notBody : place ≠ .frameBody) : ForwardMoved state (taskTo state place) :=
  .stayed _ _ _ _ rfl notBody

/-- A poll of the queue moves by the rules. -/
theorem tryRecv_moved (state : ForwardState Image) {place : TaskPlace}
    (notBody : place ≠ .frameBody) : ForwardMoved state (tryRecv state place) :=
  .took _ rfl notBody

/-- A receipt moves by the rules. -/
theorem recv_moved (state : ForwardState Image) {place : TaskPlace}
    (notBody : place ≠ .frameBody) (here : state.task.place ≠ .frameBody) :
    ForwardMoved state (recv state place) := by
  unfold recv
  split
  next => exact tryRecv_moved state notBody
  next =>
    split
    next => exact taskTo_moved state nofun
    next => exact .stayed state.task _ _ _ rfl here

/-- Drained credits move by the rules. -/
theorem drainFrameAcks_forwardMoved (state : ForwardState Image) (choice : TaskChoice) (reads : Nat)
    {again : Nat → TaskPlace} {next : TaskPlace} (againBody : ∀ left, again left ≠ .frameBody)
    (nextBody : next ≠ .frameBody) :
    ForwardMoved state (drainFrameAcks state choice reads again next) := by
  obtain ⟨count, credit, place, after, enough, account, moved⟩ :=
    drainFrameAcks_moved state choice reads again next
  rw [after]
  apply ForwardMoved.drained _ count enough account
  obtain rfl | rfl | ⟨left, rfl⟩ := moved
  · exact nofun
  · exact nextBody
  · exact againBody left

theorem selectFirst_moved (choice : TaskChoice) (here : state.task.place = .selecting) :
    ForwardMoved state (selectFirst state choice) := by
  have received : ForwardMoved state (recv state .authorizing) :=
    recv_moved state nofun (by simp [here])
  unfold selectFirst
  split
  next => exact tryRecv_moved state nofun
  next =>
    split
    next =>
      split
      next => exact taskTo_moved state nofun
      next =>
        split
        next => exact taskTo_moved state nofun
        next => exact received
    next => exact received

theorem receiveStart_moved (choice : TaskChoice) (here : state.task.place = .starting) :
    ForwardMoved state (receiveStart state choice) := by
  unfold receiveStart
  split
  next =>
    split
    next => exact taskTo_moved state nofun
    next => exact .stayed state.task _ _ _ rfl (by simp [here])
  next =>
    split
    next => exact .stayed _ _ _ _ rfl nofun
    next => exact .stayed _ _ _ _ rfl nofun

theorem awaitDisplays_moved (here : state.task.place = .awaiting) :
    ForwardMoved state (awaitDisplays state) := by
  unfold awaitDisplays
  split
  next => exact .took _ rfl nofun
  next => exact recv_moved state nofun (by simp [here])

theorem fetch_moved (state : ForwardState Image) : ForwardMoved state (fetch state) := by
  unfold fetch
  split
  next => exact .stayed _ _ _ _ rfl nofun
  next =>
    refine .took _ rfl ?_
    show (if state.queue.isEmpty then TaskPlace.redraining maxAckReads else .handling) ≠ .frameBody
    split <;> exact nofun

theorem handle_moved (state : ForwardState Image) (choice : TaskChoice) :
    ForwardMoved state (handle state choice) := by
  unfold handle
  split
  next => exact .stayed _ _ _ _ rfl nofun
  next =>
    split
    next => exact taskTo_moved state nofun
    next => exact .sent _ _ rfl rfl nofun
  next => exact .stayed _ _ _ _ rfl nofun
  next => exact .stayed _ _ _ _ rfl nofun

/-- A cursor moves by the rules. -/
theorem sendCursorBody_moved (state : ForwardState Image) (choice : TaskChoice) :
    ForwardMoved state (sendCursorBody state choice) := by
  unfold sendCursorBody
  split
  next =>
    split
    next => exact taskTo_moved state nofun
    next => exact .sent _ _ rfl rfl nofun
  next => exact taskTo_moved state nofun

/-- A decision moves by the rules. -/
theorem decideFrame_moved (choice : TaskChoice) (here : state.task.place = .deciding) :
    ForwardMoved state (decideFrame state choice) := by
  unfold decideFrame
  split
  next => exact .stayed _ _ _ _ rfl nofun
  next funded =>
    have able : 0 < state.task.credit := by omega
    split
    next => exact taskTo_moved state nofun
    next frame latest =>
      split
      next => exact taskTo_moved state nofun
      next =>
        split
        next => exact .paid _ _ frame rfl latest (.inl ⟨here, able⟩) rfl nofun
        next => exact .sent _ _ rfl rfl (fun _ => able)

/-- A frame moves by the rules. -/
theorem sendFrameBody_moved (choice : TaskChoice) (here : state.task.place = .frameBody) :
    ForwardMoved state (sendFrameBody state choice) := by
  unfold sendFrameBody
  split
  next latest =>
    split
    next => exact taskTo_moved state nofun
    next => exact .paid _ _ _ rfl latest (.inr here) rfl nofun
  next => exact taskTo_moved state nofun

/-- Every step of the task moves by the rules. -/
theorem handleDrmConn_moved (peerUid : Option UInt32) (state : ForwardState Image)
    (choice : TaskChoice) : ForwardMoved state (handleDrmConn peerUid state choice) := by
  unfold handleDrmConn
  split
  next here => exact awaitDisplays_moved here
  next =>
    split
    next => exact taskTo_moved state nofun
    next => exact .sent _ _ rfl rfl nofun
  next here => exact receiveStart_moved choice here
  next => exact .stayed _ _ _ _ rfl nofun
  next reads _ => exact drainFrameAcks_forwardMoved state choice reads nofun nofun
  next =>
    split
    next => exact taskTo_moved state nofun
    next => exact .stayed _ _ _ _ rfl nofun
  next here => exact selectFirst_moved choice here
  next =>
    split
    next => exact taskTo_moved state nofun
    next => exact taskTo_moved state nofun
  next =>
    split
    next => exact .stayed _ _ _ _ rfl nofun
    next => exact taskTo_moved state nofun
  next => exact taskTo_moved state nofun
  next =>
    split
    next => exact taskTo_moved state nofun
    next => exact .sent _ _ rfl rfl nofun
  next => exact fetch_moved state
  next => exact handle_moved state choice
  next => exact sendCursorBody_moved state choice
  next =>
    apply tryRecv_moved
    split <;> exact nofun
  next reads _ => exact drainFrameAcks_forwardMoved state choice reads nofun nofun
  next here => exact decideFrame_moved choice here
  next here => exact sendFrameBody_moved choice here
  next here => exact .stayed state.task _ _ _ rfl (by simp [here])

/-- The three sides go on without an error. -/
def goTask : ForwardInput Nat := .task ⟨false, ackBufferBytes, false⟩

def goWorker (image : Nat) : ForwardInput Nat :=
  .worker ⟨true, .grabbed ⟨image, 1, 1, [0, 0, 0, 0]⟩, none⟩

def goCursor (id : UInt64) : ForwardInput Nat :=
  .worker ⟨true, .wouldBlock, some ⟨id, 1, 1, 0, 0, [0, 0, 0, 0], none⟩⟩

def goConsumer : ForwardInput Nat := .consumer ⟨false, false, 0, false, .converted⟩

def sampleDisplay (crtcId : UInt32) : DrmDisplayInfo := ⟨[], crtcId, 0, 0, 1, 1, true, [], []⟩

/-- A consumer of the active user has its list, and its worker waits for the choice. -/
def sampleHandshake : List (ForwardInput Nat) :=
  [.switch (some 1000), .plug [sampleDisplay 41], goWorker 0, goWorker 0, goTask, goTask,
    goConsumer]

/-- The stream has begun, and the worker is about to grab. -/
def sampleStart : List (ForwardInput Nat) :=
  sampleHandshake ++ [goTask, goTask] ++ List.replicate 4 (goWorker 0)

end SubnetDesk.Drm
