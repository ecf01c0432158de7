import SubnetDesk.Proof.Drm.ForwardSteps

namespace SubnetDesk.Drm

variable {Image : Type}

/-- Every message is with the worker, in the queue, or with the task, and every message on the wire
is with the consumer or under way. -/
structure Conserved (state : ForwardState Image) : Prop where
  produced : state.history.received ++ (state.queue ++ state.worker.offered.toList) =
    state.history.produced
  sent : state.history.read ++ state.wire = state.history.sent

/-- The sent frames are older than the kept one, which is the newest of the taken frames. -/
def Kept (sent taken : List (Frame Image)) : Option (Frame Image) → Prop
  | none => sent.Sublist taken
  | some newest => ∃ older, taken = older ++ [newest] ∧ sent.Sublist older

/-- What was sent is a part of what was taken. -/
theorem Kept.sublist {sent taken : List (Frame Image)} {kept : Option (Frame Image)}
    (keeps : Kept sent taken kept) : sent.Sublist taken := by
  cases kept with
  | none => exact keeps
  | some newest =>
      obtain ⟨older, rfl, sublist⟩ := keeps
      exact sublist.trans (List.sublist_append_left older [newest])

/-- A newer frame takes the place of the kept one. -/
theorem Kept.replace {sent taken : List (Frame Image)} {kept : Option (Frame Image)}
    (keeps : Kept sent taken kept) (frame : Frame Image) :
    Kept sent (taken ++ [frame]) (some frame) := ⟨taken, rfl, keeps.sublist⟩

/-- A kept frame is sent and kept no more. -/
theorem Kept.send {sent taken : List (Frame Image)} {frame : Frame Image}
    (keeps : Kept sent taken (some frame)) : Kept (sent ++ [frame]) taken none := by
  obtain ⟨older, rfl, sublist⟩ := keeps
  exact sublist.append (List.Sublist.refl [frame])

def ForwardTask.kept (task : ForwardTask Image) : Option (Frame Image) :=
  task.latestFrame.or task.heldFrame

/-- Here the task has no message in its hand. -/
def TaskPlace.handFree : TaskPlace → Bool
  | .authorizing | .loading | .rereading | .announcing _ | .fetching | .handling | .cursorBody
  | .ended => false
  | _ => true

/-- Here the held frame has become the latest one. -/
def TaskPlace.fetched : TaskPlace → Bool
  | .handling | .cursorBody | .taking | .redraining _ | .deciding | .frameBody => true
  | _ => false

/-- What the task has in its hand fits its place. -/
structure Placed (task : ForwardTask Image) : Prop where
  free : task.place.handFree = true → task.msg = none
  fetched : task.place.fetched = true → task.heldFrame = none
  unfetched : task.place.fetched = false → task.place.isEnded = false → task.latestFrame = none

/-- All received cursors are sent or in the hand, and all received frames were taken or are in the
hand. -/
structure Handled (task : ForwardTask Image) (received : List (DrmProducerMsg Image))
    (sent : List (WireMsg Image)) : Prop where
  cursors : sent.filterMap WireMsg.cursor? ++ task.msg.toList.filterMap DrmProducerMsg.cursor? =
    received.filterMap DrmProducerMsg.cursor?
  frames : ∃ taken, taken ++ task.msg.toList.filterMap DrmProducerMsg.frame? =
      received.filterMap DrmProducerMsg.frame? ∧
    Kept (sent.filterMap WireMsg.frame?) taken task.kept
  placed : Placed task

def ForwardState.Handled (state : ForwardState Image) : Prop :=
  Drm.Handled state.task state.history.received state.history.sent

theorem TaskPlace.isEnded_of_fetched {place : TaskPlace} (fetched : place.fetched = true) :
    place.isEnded = false := by
  cases place <;> first | rfl | cases fetched

/-- The task moves on with its hands in order. -/
theorem Placed.goTo {task : ForwardTask Image} (placed : Placed task) (place : TaskPlace)
    (msg : Option (DrmProducerMsg Image)) (free : place.handFree = true → msg = none)
    (same : place.isEnded = false → place.fetched = task.place.fetched)
    (running : task.place.isEnded = false) : Placed { task with msg := msg, place := place } where
  free := free
  fetched here := placed.fetched (by
    rw [← same (TaskPlace.isEnded_of_fetched here)]
    exact here)
  unfetched here alive := placed.unfetched (by
    rw [← same alive]
    exact here) running

variable {state : ForwardState Image}

/-- The task moves between two places with the same things in its hand. -/
theorem Handled.goTo {task : ForwardTask Image} {received : List (DrmProducerMsg Image)}
    {sent : List (WireMsg Image)} (handled : Handled task received sent) (seenGen : Nat)
    (credit : Int) (place : TaskPlace) (free : place.handFree = true → task.msg = none)
    (same : place.isEnded = false → place.fetched = task.place.fetched)
    (running : task.place.isEnded = false) :
    Handled { task with seenGen := seenGen, credit := credit, place := place } received sent where
  cursors := handled.cursors
  frames := handled.frames
  placed := by
    have placed := handled.placed.goTo place task.msg free same running
    exact ⟨placed.free, placed.fetched, placed.unfetched⟩

/-- A move of the task handles its messages. -/
theorem taskTo_handled (handled : state.Handled) (place : TaskPlace)
    (free : place.handFree = true → state.task.msg = none)
    (same : place.isEnded = false → place.fetched = state.task.place.fetched)
    (running : state.task.place.isEnded = false) : (taskTo state place).Handled :=
  Handled.goTo handled _ _ place free same running

/-- A task without a message takes one into its hand. -/
theorem tryRecv_handled (handled : state.Handled) (place : TaskPlace)
    (empty : state.task.msg = none)
    (free : place.handFree = true → state.queue.head? = none)
    (same : place.isEnded = false → place.fetched = state.task.place.fetched)
    (running : state.task.place.isEnded = false) : (tryRecv state place).Handled := by
  obtain ⟨taken, split, keeps⟩ := handled.frames
  have cursors := handled.cursors
  rw [empty] at split cursors
  simp only [Option.toList_none, List.filterMap_nil, List.append_nil] at split cursors
  refine ⟨?_, ⟨taken, ?_, keeps⟩, handled.placed.goTo place _ free same running⟩
  · show _ = (state.history.received ++ state.queue.head?.toList).filterMap _
    rw [List.filterMap_append, ← cursors]
    rfl
  · show _ = (state.history.received ++ state.queue.head?.toList).filterMap _
    rw [List.filterMap_append, ← split]
    rfl

/-- A received message is handled. -/
theorem recv_handled (handled : state.Handled) (place : TaskPlace)
    (empty : state.task.msg = none) (free : place.handFree = false)
    (same : place.isEnded = false → place.fetched = state.task.place.fetched)
    (running : state.task.place.isEnded = false) : (recv state place).Handled := by
  unfold recv
  split
  next => exact tryRecv_handled handled place empty (by simp [free]) same running
  next =>
    split
    next => exact taskTo_handled handled .ended nofun nofun running
    next => exact handled

/-- Drained credits are handled. -/
theorem drainFrameAcks_handled (handled : state.Handled) (choice : TaskChoice) (reads : Nat)
    {again : Nat → TaskPlace} {next : TaskPlace} (empty : state.task.msg = none)
    (running : state.task.place.isEnded = false)
    (againFetched : ∀ left, (again left).fetched = state.task.place.fetched)
    (nextFetched : next.fetched = state.task.place.fetched) :
    (drainFrameAcks state choice reads again next).Handled := by
  obtain ⟨count, credit, place, after, -, -, moved⟩ :=
    drainFrameAcks_moved state choice reads again next
  rw [after]
  apply Handled.goTo handled _ credit place (fun _ => empty) _ running
  intro alive
  obtain rfl | rfl | ⟨left, rfl⟩ := moved
  · cases alive
  · exact nextFetched
  · exact againFetched left

/-- A message that completes no frame and no cursor changes no account. -/
theorem send_handled (handled : state.Handled) (msg : WireMsg Image)
    (noFrame : msg.frame? = none) (noCursor : msg.cursor? = none) :
    (send state msg).Handled where
  cursors := by
    simpa [send, noCursor] using handled.cursors
  frames := by
    simpa [send, noFrame] using handled.frames
  placed := handled.placed

/-- A list of displays leaves the hand without a trace. -/
theorem Handled.discard {task after : ForwardTask Image}
    {received : List (DrmProducerMsg Image)} {sent : List (WireMsg Image)}
    (handled : Handled task received sent)
    (noCursor : task.msg.toList.filterMap DrmProducerMsg.cursor? = [])
    (noFrame : task.msg.toList.filterMap DrmProducerMsg.frame? = [])
    (empty : after.msg = none) (same : after.kept = task.kept) (placed : Placed after) :
    Handled after received sent where
  cursors := by
    rw [empty, ← handled.cursors, noCursor]
    rfl
  frames := by
    obtain ⟨taken, split, keeps⟩ := handled.frames
    rw [noFrame] at split
    rw [empty, same]
    exact ⟨taken, split, keeps⟩
  placed := placed

/-- The wait for the displays is handled. -/
theorem awaitDisplays_handled (handled : state.Handled) (place : state.task.place = .awaiting) :
    (awaitDisplays state).Handled := by
  have running : state.task.place.isEnded = false := by rw [place]; rfl
  have empty := handled.placed.free (by rw [place]; rfl)
  unfold awaitDisplays
  split
  next list rest head =>
    have taken := tryRecv_handled handled .ended empty nofun nofun running
    have placed := handled.placed.goTo .sendingList none (fun _ => rfl)
      (fun _ => by rw [place]; rfl) running
    have msg : (tryRecv state .ended).task.msg = some (.displays list) := by
      simp [tryRecv, head]
    refine Handled.discard taken (by rw [msg]; rfl) (by rw [msg]; rfl) rfl rfl ?_
    exact ⟨placed.free, placed.fetched, placed.unfetched⟩
  next => exact recv_handled handled .ended empty rfl nofun running

/-- The first message is handled. -/
theorem receiveStart_handled (handled : state.Handled) (choice : TaskChoice)
    (place : state.task.place = .starting) : (receiveStart state choice).Handled := by
  have running : state.task.place.isEnded = false := by rw [place]; rfl
  have empty := handled.placed.free (by rw [place]; rfl)
  unfold receiveStart
  split
  next =>
    split
    next => exact taskTo_handled handled .ended nofun nofun running
    next => exact handled
  next =>
    split
    next => exact Handled.goTo handled _ _ .ended nofun nofun running
    next =>
      exact Handled.goTo handled _ _ .sampling (fun _ => empty) (fun _ => by rw [place]; rfl)
        running

/-- The first choice is handled. -/
theorem selectFirst_handled (handled : state.Handled) (choice : TaskChoice)
    (place : state.task.place = .selecting) : (selectFirst state choice).Handled := by
  have running : state.task.place.isEnded = false := by rw [place]; rfl
  have empty := handled.placed.free (by rw [place]; rfl)
  have same : TaskPlace.authorizing.fetched = state.task.place.fetched := by rw [place]; rfl
  have received := recv_handled handled .authorizing empty rfl (fun _ => same) running
  unfold selectFirst
  split
  next => exact tryRecv_handled handled .authorizing empty nofun (fun _ => same) running
  next =>
    split
    next =>
      split
      next => exact taskTo_handled handled .ended nofun nofun running
      next =>
        split
        next => exact taskTo_handled handled .authorizing nofun (fun _ => same) running
        next => exact received
    next => exact received

/-- A fetched message is handled. -/
theorem fetch_handled (handled : state.Handled) (place : state.task.place = .fetching) :
    (fetch state).Handled := by
  have latest := handled.placed.unfetched (by rw [place]; rfl) (by rw [place]; rfl)
  let kept : ForwardState Image := { state with
    task := { state.task with
      latestFrame := state.task.heldFrame, heldFrame := none, place := .handling } }
  have keeps : kept.Handled := by
    refine ⟨handled.cursors, ?_, ⟨nofun, fun _ => rfl, nofun⟩⟩
    have frames := handled.frames
    simpa [kept, ForwardTask.kept, latest] using frames
  unfold fetch
  dsimp only
  split
  next => exact keeps
  next empty =>
    show (tryRecv kept _).Handled
    apply tryRecv_handled keeps _ empty
    · cases queue : state.queue with
      | nil => exact fun _ => rfl
      | cons => exact nofun
    · cases queue : state.queue with
      | nil => exact fun _ => rfl
      | cons => exact fun _ => rfl
    · rfl

/-- A handled message is out of the hand. -/
theorem handle_handled (handled : state.Handled) (choice : TaskChoice)
    (place : state.task.place = .handling) : (handle state choice).Handled := by
  have running : state.task.place.isEnded = false := by rw [place]; rfl
  have held := handled.placed.fetched (by rw [place]; rfl)
  obtain ⟨taken, split, keeps⟩ := handled.frames
  unfold handle
  split
  next frame msg =>
    have cursors := handled.cursors
    rw [msg] at cursors split
    refine ⟨cursors, ⟨taken ++ [frame], ?_, ?_⟩, ⟨fun _ => rfl, fun _ => held, nofun⟩⟩
    · rw [← split]
      simp [DrmProducerMsg.frame?]
    · exact keeps.replace frame
  next cursor msg =>
    split
    next => exact taskTo_handled handled .ended nofun nofun running
    next =>
      have sends := send_handled handled (.drmCursor cursor) rfl rfl
      exact taskTo_handled sends .cursorBody nofun (fun _ => by rw [send, place]; rfl) running
  next list msg =>
    refine Handled.discard handled (by rw [msg]; rfl) (by rw [msg]; rfl) rfl rfl ?_
    exact ⟨fun _ => rfl, fun _ => held, nofun⟩
  next msg =>
    refine Handled.discard handled (by rw [msg]; rfl) (by rw [msg]; rfl) rfl rfl ?_
    exact ⟨fun _ => rfl, fun _ => held, nofun⟩

/-- A sent cursor is handled. -/
theorem sendCursorBody_handled (handled : state.Handled) (choice : TaskChoice)
    (place : state.task.place = .cursorBody) : (sendCursorBody state choice).Handled := by
  have running : state.task.place.isEnded = false := by rw [place]; rfl
  have held := handled.placed.fetched (by rw [place]; rfl)
  obtain ⟨taken, split, keeps⟩ := handled.frames
  have cursors := handled.cursors
  unfold sendCursorBody
  split
  next cursor msg =>
    split
    next => exact taskTo_handled handled .ended nofun nofun running
    next =>
      rw [msg] at cursors split
      refine ⟨?_, ⟨taken, split, ?_⟩, ⟨fun _ => rfl, fun _ => held, nofun⟩⟩
      · simpa [send, WireMsg.cursor?, DrmProducerMsg.cursor?] using cursors
      · have noFrame : (.cursorBody cursor.colors cursor : WireMsg Image).frame? = none := rfl
        simpa [send, noFrame, ForwardTask.kept] using keeps
  next => exact taskTo_handled handled .ended nofun nofun running

/-- A complete frame leaves the hand. -/
theorem sendLast_handled (handled : state.Handled) {frame : Frame Image} (msg : WireMsg Image)
    (empty : state.task.msg = none) (held : state.task.heldFrame = none)
    (latest : state.task.latestFrame = some frame) (carries : msg.frame? = some frame)
    (noCursor : msg.cursor? = none) : (sendLast state msg).Handled := by
  obtain ⟨taken, split, keeps⟩ := handled.frames
  refine ⟨?_, ⟨taken, split, ?_⟩, ⟨fun _ => empty, nofun, fun _ _ => rfl⟩⟩
  · simpa [sendLast, send, noCursor] using handled.cursors
  · have kept : state.task.kept = some frame := by rw [ForwardTask.kept, latest]; rfl
    rw [kept] at keeps
    simpa [sendLast, send, carries, ForwardTask.kept, held] using keeps.send

/-- The decision on a frame is handled. -/
theorem decideFrame_handled (handled : state.Handled) (choice : TaskChoice)
    (place : state.task.place = .deciding) : (decideFrame state choice).Handled := by
  have running : state.task.place.isEnded = false := by rw [place]; rfl
  have held := handled.placed.fetched (by rw [place]; rfl)
  have empty := handled.placed.free (by rw [place]; rfl)
  unfold decideFrame
  split
  next =>
    refine ⟨handled.cursors, ?_, ⟨fun _ => empty, nofun, fun _ _ => rfl⟩⟩
    have frames := handled.frames
    simpa [ForwardTask.kept, held] using frames
  next =>
    split
    next latest =>
      exact ⟨handled.cursors, handled.frames, ⟨fun _ => empty, nofun, fun _ _ => latest⟩⟩
    next frame latest =>
      split
      next => exact taskTo_handled handled .ended nofun nofun running
      next =>
        split
        next => exact sendLast_handled handled _ empty held latest rfl rfl
        next width height data _ =>
          have sends := send_handled handled (.drmFrame width height frame) rfl rfl
          exact taskTo_handled sends .frameBody (fun _ => empty)
            (fun _ => by rw [send, place]; rfl) running

/-- A sent frame is handled. -/
theorem sendFrameBody_handled (handled : state.Handled) (choice : TaskChoice)
    (place : state.task.place = .frameBody) : (sendFrameBody state choice).Handled := by
  have running : state.task.place.isEnded = false := by rw [place]; rfl
  have held := handled.placed.fetched (by rw [place]; rfl)
  have empty := handled.placed.free (by rw [place]; rfl)
  unfold sendFrameBody
  split
  next width height data under latest =>
    split
    next => exact taskTo_handled handled .ended nofun nofun running
    next => exact sendLast_handled handled _ empty held latest rfl rfl
  next => exact taskTo_handled handled .ended nofun nofun running

/-- Every step of the task keeps the account of its messages. -/
theorem handleDrmConn_handled (peerUid : Option UInt32) (handled : state.Handled)
    (choice : TaskChoice) : (handleDrmConn peerUid state choice).Handled := by
  have ends (running : state.task.place.isEnded = false) : (taskTo state .ended).Handled :=
    taskTo_handled handled .ended nofun nofun running
  cases place : state.task.place with
  | awaiting =>
      simp only [handleDrmConn, place]
      exact awaitDisplays_handled handled place
  | sendingList =>
      simp only [handleDrmConn, place]
      split
      next => exact ends (by rw [place]; rfl)
      next =>
        have sends := send_handled handled (.drmDisplayList state.task.displays) rfl rfl
        exact taskTo_handled sends .starting (fun _ => handled.placed.free (by rw [place]; rfl))
          (fun _ => by rw [send, place]; rfl) (by rw [send, place]; rfl)
  | starting =>
      simp only [handleDrmConn, place]
      exact receiveStart_handled handled choice place
  | sampling =>
      simp only [handleDrmConn, place]
      exact Handled.goTo handled _ _ (.draining maxAckReads)
        (fun _ => handled.placed.free (by rw [place]; rfl)) (fun _ => by rw [place]; rfl)
        (by rw [place]; rfl)
  | draining reads =>
      simp only [handleDrmConn, place]
      exact drainFrameAcks_handled handled choice reads (handled.placed.free (by rw [place]; rfl))
        (by rw [place]; rfl) (fun _ => by rw [place]; rfl) (by rw [place]; rfl)
  | gating =>
      simp only [handleDrmConn, place]
      split
      next => exact ends (by rw [place]; rfl)
      next =>
        exact Handled.goTo handled _ _ .selecting
          (fun _ => handled.placed.free (by rw [place]; rfl)) (fun _ => by rw [place]; rfl)
          (by rw [place]; rfl)
  | selecting =>
      simp only [handleDrmConn, place]
      exact selectFirst_handled handled choice place
  | authorizing =>
      simp only [handleDrmConn, place]
      split
      next =>
        exact taskTo_handled handled .loading nofun (fun _ => by rw [place]; rfl)
          (by rw [place]; rfl)
      next => exact ends (by rw [place]; rfl)
  | loading =>
      simp only [handleDrmConn, place]
      split
      next =>
        exact Handled.goTo handled _ _ .rereading nofun (fun _ => by rw [place]; rfl)
          (by rw [place]; rfl)
      next =>
        exact taskTo_handled handled .fetching nofun (fun _ => by rw [place]; rfl)
          (by rw [place]; rfl)
  | rereading =>
      simp only [handleDrmConn, place]
      exact taskTo_handled handled _ nofun (fun _ => by rw [place]; rfl) (by rw [place]; rfl)
  | announcing fresh =>
      simp only [handleDrmConn, place]
      split
      next => exact ends (by rw [place]; rfl)
      next =>
        have sends := send_handled handled (.drmDisplaysChanged fresh) rfl rfl
        exact taskTo_handled sends .fetching nofun (fun _ => by rw [send, place]; rfl)
          (by rw [send, place]; rfl)
  | fetching =>
      simp only [handleDrmConn, place]
      exact fetch_handled handled place
  | handling =>
      simp only [handleDrmConn, place]
      exact handle_handled handled choice place
  | cursorBody =>
      simp only [handleDrmConn, place]
      exact sendCursorBody_handled handled choice place
  | taking =>
      simp only [handleDrmConn, place]
      apply tryRecv_handled handled _ (handled.placed.free (by rw [place]; rfl))
      · cases state.queue with
        | nil => exact fun _ => rfl
        | cons => exact nofun
      · rw [place]
        cases state.queue with
        | nil => exact fun _ => rfl
        | cons => exact fun _ => rfl
      · rw [place]
        rfl
  | redraining reads =>
      simp only [handleDrmConn, place]
      exact drainFrameAcks_handled handled choice reads (handled.placed.free (by rw [place]; rfl))
        (by rw [place]; rfl) (fun _ => by rw [place]; rfl) (by rw [place]; rfl)
  | deciding =>
      simp only [handleDrmConn, place]
      exact decideFrame_handled handled choice place
  | frameBody =>
      simp only [handleDrmConn, place]
      exact sendFrameBody_handled handled choice place
  | ended =>
      simp only [handleDrmConn, place]
      exact handled

/-- A move of the task loses no credit. -/
theorem ForwardMoved.conserved {after : ForwardState Image} (moved : ForwardMoved state after)
    (conserved : Conserved state) : Conserved after := by
  have sends (msg : WireMsg Image) : state.history.read ++ (state.wire ++ [msg]) =
      state.history.sent ++ [msg] := by
    rw [← List.append_assoc, conserved.sent]
  cases moved with
  | stayed task gated chosen start => exact ⟨conserved.produced, conserved.sent⟩
  | drained task count => exact ⟨conserved.produced, conserved.sent⟩
  | sent task msg => exact ⟨conserved.produced, sends msg⟩
  | paid task msg => exact ⟨conserved.produced, sends msg⟩
  | took task =>
      refine ⟨?_, conserved.sent⟩
      rw [← conserved.produced]
      cases state.queue with
      | nil => simp
      | cons head rest => simp

/-- The worker loses no credit. -/
theorem drmCaptureWorker_conserved (conserved : Conserved state) (choice : WorkerChoice Image) :
    Conserved (drmCaptureWorker state choice) := by
  obtain ⟨worker, queue, produced, after, moved⟩ := drmCaptureWorker_moved state choice
  rw [after]
  refine ⟨?_, conserved.sent⟩
  have account := conserved.produced
  show state.history.received ++ (queue ++ worker.offered.toList) = produced
  generalize worker.offered = offered at moved ⊢
  cases moved with
  | kept => exact account
  | made msg idle under =>
      rw [idle] at account
      rw [← account]
      simp
  | queued msg offered =>
      rw [offered] at account
      rw [← account]
      simp

/-- The consumer loses no credit. -/
theorem recvThread_conserved (conserved : Conserved state) (choice : ConsumerChoice) :
    Conserved (recvThread state choice) := by
  obtain ⟨wire, start, acks, consumer, read, acked, after, moved⟩ := recvThread_moved state choice
  rw [after]
  refine ⟨conserved.produced, ?_⟩
  have account := conserved.sent
  show read ++ wire = state.history.sent
  generalize consumer.place = place at moved
  cases moved with
  | kept => exact account
  | acked => exact account
  | read msg rest place head =>
      rw [head] at account
      rw [← account]
      simp

/-- The consumer has read a frame and has not acknowledged it yet. -/
def ConsumerPlace.owes : ConsumerPlace → Nat
  | .acking => 1
  | _ => 0

theorem ConsumerPlace.owes_eq_zero {place : ConsumerPlace} (calm : place ≠ .acking) :
    place.owes = 0 := by
  cases place <;> first | rfl | contradiction

/-- A living consumer owes exactly what it has read and not acknowledged. -/
structure Acknowledged (place : ConsumerPlace) (read : List (WireMsg Image)) (acked : Nat) :
    Prop where
  within : acked + place.owes ≤ (read.filterMap WireMsg.frame?).length
  alive : place ≠ .gone → acked + place.owes = (read.filterMap WireMsg.frame?).length

/-- A consumer acknowledges what it read. -/
theorem ConsumerMoved.acknowledged {wire read : List (WireMsg Image)} {acks acked : Nat}
    {place : ConsumerPlace} (moved : ConsumerMoved state wire read acks acked place)
    (holds : Acknowledged state.consumer.place state.history.read state.history.acked) :
    Acknowledged place read acked := by
  have within := holds.within
  cases moved with
  | kept place same =>
      obtain rfl | rfl := same
      · exact holds
      · exact ⟨Nat.le_trans (Nat.le_add_right _ _) within, nofun⟩
  | acked acking =>
      rw [acking] at holds
      exact ⟨holds.within, fun _ => holds.alive nofun⟩
  | read msg rest place head calm frame =>
      have owed := holds.alive calm.2
      rw [ConsumerPlace.owes_eq_zero calm.1] at owed
      have longer : ((state.history.read ++ [msg]).filterMap WireMsg.frame?).length =
          (state.history.read.filterMap WireMsg.frame?).length +
            ([msg].filterMap WireMsg.frame?).length := by
        rw [List.filterMap_append, List.length_append]
      by_cases gone : place = .gone
      · refine ⟨?_, fun alive => absurd gone alive⟩
        rw [gone, longer, ← owed]
        exact Nat.le_add_right _ _
      · have owes : place.owes = ([msg].filterMap WireMsg.frame?).length := by
          cases whole : msg.frame? with
          | some carried =>
              rw [(frame gone).mpr (by rw [whole]; rfl), List.filterMap_cons_some whole]
              rfl
          | none =>
              have reading : place ≠ .acking := fun acking => by
                simpa [whole] using (frame gone).mp acking
              rw [ConsumerPlace.owes_eq_zero reading, List.filterMap_cons_none whole]
              rfl
        have settled : state.history.acked + place.owes =
            ((state.history.read ++ [msg]).filterMap WireMsg.frame?).length := by
          rw [longer, ← owed, owes, Nat.add_zero]
        exact ⟨Nat.le_of_eq settled, fun _ => settled⟩

/-- The credit, the frames that are not acknowledged, and the bytes under way make up the whole
credit. -/
structure Balanced (state : ForwardState Image) : Prop where
  account : state.task.credit +
      ((state.history.sent.filterMap WireMsg.frame?).length - state.history.acked) + state.acks =
    drmFrameCredit
  acked : Acknowledged state.consumer.place state.history.read state.history.acked
  nonnegative : 0 ≤ state.task.credit
  paying : state.task.place = .frameBody → 0 < state.task.credit

/-- No frame is acknowledged twice. -/
theorem Balanced.acked_le (balanced : Balanced state) (conserved : Conserved state) :
    state.history.acked ≤ (state.history.sent.filterMap WireMsg.frame?).length := by
  have within := balanced.acked.within
  rw [← conserved.sent, List.filterMap_append, List.length_append]
  omega

/-- A move of the task keeps the balance. -/
theorem ForwardMoved.balanced {after : ForwardState Image} (moved : ForwardMoved state after)
    (conserved : Conserved state) (balanced : Balanced state) : Balanced after := by
  have account := balanced.account
  have nonnegative := balanced.nonnegative
  have acked := balanced.acked_le conserved
  cases moved with
  | stayed task gated chosen start credit place =>
      rw [← credit] at account nonnegative
      exact ⟨account, balanced.acked, nonnegative, fun here => absurd here place⟩
  | took task credit place =>
      rw [← credit] at account nonnegative
      exact ⟨account, balanced.acked, nonnegative, fun here => absurd here place⟩
  | drained task count enough credit place =>
      refine ⟨?_, balanced.acked, ?_, fun here => absurd here place⟩
      · show task.credit + ((state.history.sent.filterMap WireMsg.frame?).length -
          state.history.acked) + ((state.acks - count : Nat) : Int) = drmFrameCredit
        obtain ⟨zero, same⟩ | added := credit
        · rw [zero, same]
          exact account
        · rw [added]
          unfold drmFrameCredit at account ⊢
          omega
      · show 0 ≤ task.credit
        unfold drmFrameCredit at credit
        omega
  | sent task msg part credit place =>
      refine ⟨?_, balanced.acked, credit ▸ nonnegative, fun here => credit ▸ place here⟩
      show task.credit + (((state.history.sent ++ [msg]).filterMap WireMsg.frame?).length -
        state.history.acked) + state.acks = drmFrameCredit
      rw [credit, List.filterMap_append, List.filterMap_cons_none part]
      simpa using account
  | paid task msg frame whole latest able credit place =>
      have funded : 0 < state.task.credit := by
        cases able with
        | inl ready => exact ready.2
        | inr here => exact balanced.paying here
      refine ⟨?_, balanced.acked, ?_, fun here => absurd here place⟩
      · show task.credit + (((state.history.sent ++ [msg]).filterMap WireMsg.frame?).length -
          state.history.acked) + state.acks = drmFrameCredit
        rw [credit, List.filterMap_append, List.filterMap_cons_some whole]
        simp only [List.length_append, List.filterMap_nil, List.length_singleton]
        push_cast
        omega
      · show 0 ≤ task.credit
        omega

/-- The consumer keeps the balance. -/
theorem recvThread_balanced (balanced : Balanced state) (choice : ConsumerChoice) :
    Balanced (recvThread state choice) := by
  have account := balanced.account
  obtain ⟨wire, start, acks, consumer, read, acked, after, moved⟩ := recvThread_moved state choice
  rw [after]
  refine ⟨?_, moved.acknowledged balanced.acked, balanced.nonnegative, balanced.paying⟩
  show state.task.credit +
    ((state.history.sent.filterMap WireMsg.frame?).length - acked) + acks = drmFrameCredit
  generalize consumer.place = place at moved
  cases moved with
  | kept => exact account
  | acked acking =>
      push_cast
      omega
  | read => exact account

/-- The consumer runs `recv_thread` and writes no stray byte. -/
def ForwardInput.honest : ForwardInput Image → Bool
  | .stray _ => false
  | _ => true

/-- The messages, the hand of the task, and the credit are in order. -/
structure Accounted (state : ForwardState Image) : Prop where
  conserved : Conserved state
  handled : state.Handled
  balanced : Balanced state

/-- One step accounts for every credit. -/
theorem forwardStep_accounted (peerUid : Option UInt32) (accounted : Accounted state)
    (input : ForwardInput Image) (honest : input.honest = true) :
    Accounted (forwardStep peerUid state input) := by
  obtain ⟨conserved, handled, balanced⟩ := accounted
  cases input with
  | switch activeUid =>
      exact ⟨⟨conserved.produced, conserved.sent⟩, handled,
        ⟨balanced.account, balanced.acked, balanced.nonnegative, balanced.paying⟩⟩
  | plug topology =>
      exact ⟨⟨conserved.produced, conserved.sent⟩, handled,
        ⟨balanced.account, balanced.acked, balanced.nonnegative, balanced.paying⟩⟩
  | refresh panics =>
      exact ⟨⟨conserved.produced, conserved.sent⟩, handled,
        ⟨balanced.account, balanced.acked, balanced.nonnegative, balanced.paying⟩⟩
  | stray bytes => cases honest
  | task choice =>
      have moved := handleDrmConn_moved peerUid state choice
      exact ⟨moved.conserved conserved, handleDrmConn_handled peerUid handled choice,
        moved.balanced conserved balanced⟩
  | worker choice =>
      have kept := drmCaptureWorker_conserved conserved choice
      obtain ⟨worker, queue, produced, after, -⟩ := drmCaptureWorker_moved state choice
      simp only [forwardStep]
      rw [after] at kept ⊢
      exact ⟨kept, handled,
        ⟨balanced.account, balanced.acked, balanced.nonnegative, balanced.paying⟩⟩
  | consumer choice =>
      have kept := recvThread_conserved conserved choice
      have paid := recvThread_balanced balanced choice
      obtain ⟨wire, start, acks, consumer, read, acked, after, -⟩ := recvThread_moved state choice
      simp only [forwardStep]
      rw [after] at kept paid ⊢
      exact ⟨kept, handled, paid⟩

/-- Every run accounts for every credit. -/
theorem forwarding_accounted (peerUid : Option UInt32) (inputs : List (ForwardInput Image))
    (honest : ∀ input ∈ inputs, input.honest = true) :
    Accounted ((forwarding peerUid).run initialForward inputs).1 := by
  apply (forwarding peerUid).run_invariant (fun _ input => input.honest = true)
    (fun state _ => Accounted state) _ initialForward [] inputs
  · exact ⟨⟨rfl, rfl⟩, ⟨rfl, ⟨[], rfl, List.Sublist.refl []⟩, ⟨fun _ => rfl, nofun, fun _ _ => rfl⟩⟩,
      ⟨rfl, ⟨Nat.le_refl 0, fun _ => rfl⟩, Int.le_of_lt (by decide : (0 : Int) < 2), nofun⟩⟩
  · exact (forwarding peerUid).guarded_of_forall _ inputs honest
  · intro state _ input honest accounted
    exact forwardStep_accounted peerUid accounted input honest

def StreamHistory.producedFrames (history : StreamHistory Image) : List (Frame Image) :=
  history.produced.filterMap DrmProducerMsg.frame?

def StreamHistory.receivedFrames (history : StreamHistory Image) : List (Frame Image) :=
  history.received.filterMap DrmProducerMsg.frame?

def StreamHistory.sentFrames (history : StreamHistory Image) : List (Frame Image) :=
  history.sent.filterMap WireMsg.frame?

def StreamHistory.readFrames (history : StreamHistory Image) : List (Frame Image) :=
  history.read.filterMap WireMsg.frame?

def StreamHistory.producedCursors (history : StreamHistory Image) : List Cursor :=
  history.produced.filterMap DrmProducerMsg.cursor?

def StreamHistory.sentCursors (history : StreamHistory Image) : List Cursor :=
  history.sent.filterMap WireMsg.cursor?

def StreamHistory.readCursors (history : StreamHistory Image) : List Cursor :=
  history.read.filterMap WireMsg.cursor?

/-- The cursors with the task, in the queue, and with the worker. -/
def ForwardState.waitingCursors (state : ForwardState Image) : List Cursor :=
  (state.task.msg.toList ++ (state.queue ++ state.worker.offered.toList)).filterMap
    DrmProducerMsg.cursor?

/-- Frames are sent in order. -/
theorem Accounted.sentFrames_sublist (accounted : Accounted state) :
    state.history.sentFrames.Sublist state.history.producedFrames := by
  obtain ⟨taken, split, keeps⟩ := accounted.handled.frames
  have received : taken.Sublist state.history.receivedFrames := by
    rw [StreamHistory.receivedFrames, ← split]
    exact List.sublist_append_left taken _
  have produced : state.history.receivedFrames.Sublist state.history.producedFrames := by
    rw [StreamHistory.producedFrames, ← accounted.conserved.produced, List.filterMap_append]
    exact List.sublist_append_left _ _
  exact (keeps.sublist.trans received).trans produced

/-- No cursor is lost. -/
theorem Accounted.cursors_kept (accounted : Accounted state) :
    state.history.sentCursors ++ state.waitingCursors = state.history.producedCursors := by
  rw [StreamHistory.producedCursors, ← accounted.conserved.produced, List.filterMap_append,
    ← accounted.handled.cursors, ForwardState.waitingCursors, List.filterMap_append,
    List.append_assoc]
  rfl

/-- Frames are read in order. -/
theorem Conserved.readFrames_prefix (conserved : Conserved state) :
    state.history.readFrames <+: state.history.sentFrames := by
  rw [StreamHistory.sentFrames, ← conserved.sent, List.filterMap_append]
  exact List.prefix_append _ _

/-- Cursors are read in order. -/
theorem Conserved.readCursors_prefix (conserved : Conserved state) :
    state.history.readCursors <+: state.history.sentCursors := by
  rw [StreamHistory.sentCursors, ← conserved.sent, List.filterMap_append]
  exact List.prefix_append _ _

/-- The task sends the newest frame that it has received. -/
theorem ForwardMoved.newest {after : ForwardState Image} (moved : ForwardMoved state after)
    (handled : state.Handled) {frame : Frame Image}
    (grows : after.history.sentFrames = state.history.sentFrames ++ [frame]) :
    state.history.receivedFrames.getLast? = some frame := by
  cases moved with
  | stayed => simp at grows
  | drained => simp at grows
  | took => simp [StreamHistory.sentFrames] at grows
  | sent task msg part => simp [StreamHistory.sentFrames, send, part] at grows
  | paid task msg newest whole latest able =>
      have same : newest = frame := by
        simpa [StreamHistory.sentFrames, send, whole] using grows
      have free : state.task.place.handFree = true := by
        obtain ⟨here, -⟩ | here := able
        · rw [here]
          rfl
        · rw [here]
          rfl
      have kept : state.task.kept = some newest := by rw [ForwardTask.kept, latest]; rfl
      obtain ⟨taken, split, keeps⟩ := handled.frames
      rw [handled.placed.free free] at split
      rw [kept] at keeps
      obtain ⟨older, rfl, -⟩ := keeps
      rw [StreamHistory.receivedFrames, ← split, ← same]
      simp

/-- A frame that is sent is the newest. -/
theorem forwardStep_newest (peerUid : Option UInt32) (handled : state.Handled)
    (input : ForwardInput Image) {frame : Frame Image}
    (grows : (forwardStep peerUid state input).history.sentFrames =
      state.history.sentFrames ++ [frame]) :
    state.history.receivedFrames.getLast? = some frame := by
  cases input with
  | task choice => exact (handleDrmConn_moved peerUid state choice).newest handled grows
  | worker choice =>
      obtain ⟨worker, queue, produced, after, -⟩ := drmCaptureWorker_moved state choice
      simp [forwardStep, after, StreamHistory.sentFrames] at grows
  | consumer choice =>
      obtain ⟨wire, start, acks, consumer, read, acked, after, -⟩ := recvThread_moved state choice
      simp [forwardStep, after, StreamHistory.sentFrames] at grows
  | switch activeUid => simp [forwardStep] at grows
  | plug topology => simp [forwardStep] at grows
  | refresh panics => simp [forwardStep] at grows
  | stray bytes => simp [forwardStep] at grows

/-- At every time the credit, the frames that are not acknowledged, and the acknowledgements under
way make up the whole credit. The consumer gets the newest frames in order, and every cursor. -/
theorem credit_conserved (peerUid : Option UInt32) (inputs : List (ForwardInput Image))
    (honest : ∀ input ∈ inputs, input.honest = true) :
    let state := ((forwarding peerUid).run initialForward inputs).1
    let history := state.history
    (state.task.credit + (history.sentFrames.length - history.acked) + state.acks =
        drmFrameCredit ∧
      0 ≤ state.task.credit ∧ history.acked ≤ history.sentFrames.length ∧
      history.sentFrames.length ≤ history.acked + drmFrameCredit ∧
      state.task.credit + state.acks ≤ drmFrameCredit ∧
      (state.consumer.place ≠ .gone →
        history.acked + state.consumer.place.owes = history.readFrames.length)) ∧
    (history.readFrames <+: history.sentFrames ∧
      history.sentFrames.Sublist history.producedFrames ∧
      ∀ input frame, (forwardStep peerUid state input).history.sentFrames =
        history.sentFrames ++ [frame] → history.receivedFrames.getLast? = some frame) ∧
    (history.readCursors <+: history.sentCursors ∧
      history.sentCursors ++ state.waitingCursors = history.producedCursors) := by
  have accounted := forwarding_accounted peerUid inputs honest
  have account := accounted.balanced.account
  have nonnegative := accounted.balanced.nonnegative
  have acked := accounted.balanced.acked_le accounted.conserved
  refine ⟨⟨account, nonnegative, acked, ?_, ?_, accounted.balanced.acked.alive⟩,
    ⟨accounted.conserved.readFrames_prefix, accounted.sentFrames_sublist, ?_⟩,
    accounted.conserved.readCursors_prefix, accounted.cursors_kept⟩
  · rw [StreamHistory.sentFrames]
    omega
  · omega
  · intro input frame grows
    exact forwardStep_newest peerUid accounted.handled input grows

/-- One frame goes through the queue and the wire, and its acknowledgement is under way. -/
def sampleStream : List (ForwardInput Nat) :=
  sampleStart ++ List.replicate 2 (goWorker 7) ++ List.replicate 12 goTask ++
    List.replicate 2 goConsumer

theorem credit_conserved_sample :
    (∀ input ∈ sampleStream, input.honest = true) ∧
    let state := ((forwarding (some 1000)).run initialForward sampleStream).1
    state.history.readFrames.length = 1 ∧ state.acks = 1 ∧
      state.task.credit + (state.history.sentFrames.length - state.history.acked) + state.acks =
        drmFrameCredit :=
  ⟨by decide, by decide +kernel, by decide +kernel,
    (credit_conserved (some 1000) sampleStream (by decide)).1.1⟩

end SubnetDesk.Drm
