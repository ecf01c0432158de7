import SubnetDesk.Proof.Drm.ForwardSteps

namespace SubnetDesk.Drm

variable {Image : Type} {state after : ForwardState Image} {peerUid : Option UInt32}

/-- Something was grabbed while the active uid differed from the uid of the consumer. -/
def foreign (peerUid : Option UInt32) (under : Option (Option UInt32)) : Bool :=
  under.any (· != peerUid)

/-- The messages that the task has not looked at. -/
def ForwardState.pending (state : ForwardState Image) : List (DrmProducerMsg Image) :=
  state.task.msg.toList ++ state.queue

/-- The check of this turn has passed, and the turn still takes messages. -/
def TaskPlace.checked : TaskPlace → Bool
  | .loading | .rereading | .announcing _ | .fetching | .handling | .cursorBody | .taking => true
  | _ => false

def ForwardTask.Keeps (task : ForwardTask Image) (frame : Frame Image) : Prop :=
  task.latestFrame = some frame ∨ task.heldFrame = some frame

/-- What is foreign waits while another session is active, and is out of reach behind a check. -/
structure Cleared (peerUid : Option UInt32) (state : ForwardState Image) : Prop where
  waiting : ∀ msg ∈ state.worker.offered.toList ++ state.pending,
    foreign peerUid msg.under? = true → state.hub.activeUid ≠ peerUid
  window : state.task.place.checked = true →
    ∀ msg ∈ state.pending, foreign peerUid msg.under? = false
  kept : ∀ frame, state.task.Keeps frame → frame.under = peerUid
  sent : ∀ msg ∈ state.history.sent, foreign peerUid msg.under? = false

/-- Where a new message on the wire comes from. -/
inductive Source (state : ForwardState Image) (msg : WireMsg Image) : Prop where
  | list (none : msg.under? = none)
  | frame (frame : Frame Image) (keeps : state.task.Keeps frame)
      (under : msg.under? = some frame.under)
  | cursor (cursor : Cursor) (checked : state.task.place.checked = true)
      (hand : .cursor cursor ∈ state.pending) (under : msg.under? = some cursor.under)

/-- What a step of the task takes, keeps, and sends. -/
structure Advances (peerUid : Option UInt32) (state after : ForwardState Image) : Prop where
  hub : after.hub = state.hub
  worker : after.worker = state.worker
  pending : after.pending ⊆ state.pending
  checked : after.task.place.checked = true →
    state.task.place.checked = true ∨ state.hub.activeUid = peerUid
  kept : ∀ frame, after.task.Keeps frame →
    state.task.Keeps frame ∨ state.task.place.checked = true ∧ .frame frame ∈ state.pending
  sent : ∀ msg ∈ after.history.sent, msg ∈ state.history.sent ∨ Source state msg

theorem Cleared.advance (cleared : Cleared peerUid state) (step : Advances peerUid state after) :
    Cleared peerUid after where
  waiting msg member strange := by
    rw [step.worker] at member
    rw [step.hub]
    refine cleared.waiting msg ?_ strange
    rw [List.mem_append] at member ⊢
    exact member.imp_right fun later => step.pending later
  window here msg member := by
    have earlier := step.pending member
    cases step.checked here with
    | inl before => exact cleared.window before msg earlier
    | inr active =>
        by_contra strange
        rw [Bool.not_eq_false] at strange
        exact cleared.waiting msg (List.mem_append_right _ earlier) strange active
  kept frame keeps := by
    cases step.kept frame keeps with
    | inl before => exact cleared.kept frame before
    | inr taken =>
        have clean := cleared.window taken.1 _ taken.2
        simpa [foreign, DrmProducerMsg.under?] using clean
  sent msg member := by
    cases step.sent msg member with
    | inl before => exact cleared.sent msg before
    | inr source =>
        cases source with
        | list none => rw [none]; rfl
        | frame frame keeps under =>
            rw [under, cleared.kept frame keeps]
            simp [foreign]
        | cursor cursor checked hand under =>
            rw [under]
            exact cleared.window checked _ hand

theorem pending_subset {task : ForwardTask Image}
    (msg : task.msg = state.task.msg ∨ task.msg = none) :
    task.msg.toList ++ state.queue ⊆ state.pending := by
  obtain same | none := msg
  · rw [same]
    exact List.Subset.refl _
  · rw [none]
    exact List.subset_append_right _ _

/-- A move of the task sends nothing foreign. -/
theorem advances_goTo (task : ForwardTask Image) (gated : Bool) (chosen : Option Bool)
    (start : Option (Int32 × Bool)) (acks : Nat)
    (msg : task.msg = state.task.msg ∨ task.msg = none)
    (kept : ∀ frame, task.Keeps frame →
      state.task.Keeps frame ∨ state.task.place.checked = true ∧ .frame frame ∈ state.pending)
    (checked : task.place.checked = true →
      state.task.place.checked = true ∨ state.hub.activeUid = peerUid) :
    Advances peerUid state
      { state with
        task := task, gated := gated, chosen := chosen, start := start, acks := acks } where
  hub := rfl
  worker := rfl
  pending := pending_subset msg
  checked := checked
  kept := kept
  sent := fun _ => .inl

theorem advances_taskTo (state : ForwardState Image) (place : TaskPlace)
    (checked : place.checked = true →
      state.task.place.checked = true ∨ state.hub.activeUid = peerUid) :
    Advances peerUid state (taskTo state place) :=
  advances_goTo _ _ _ _ _ (.inl rfl) (fun _ => .inl) checked

/-- The end sends nothing foreign. -/
theorem advances_ended (state : ForwardState Image) :
    Advances peerUid state (taskTo state .ended) :=
  advances_taskTo state .ended nofun

/-- A checked message is not foreign. -/
theorem advances_send (task : ForwardTask Image) {msg : WireMsg Image} (source : Source state msg)
    (hand : task.msg = state.task.msg ∨ task.msg = none)
    (kept : ∀ frame, task.Keeps frame → state.task.Keeps frame)
    (checked : task.place.checked = true → state.task.place.checked = true) :
    Advances peerUid state { send state msg with task := task } where
  hub := rfl
  worker := rfl
  pending := pending_subset hand
  checked here := .inl (checked here)
  kept frame keeps := .inl (kept frame keeps)
  sent other member := by
    obtain before | new := List.mem_append.mp member
    · exact .inl before
    · rw [List.mem_singleton.mp new]
      exact .inr source

/-- The task takes a message from the queue. -/
theorem advances_take (task : ForwardTask Image)
    (msg : task.msg = state.queue.head? ∨ task.msg = none)
    (kept : ∀ frame, task.Keeps frame → state.task.Keeps frame)
    (checked : task.place.checked = true →
      state.task.place.checked = true ∨ state.hub.activeUid = peerUid) :
    Advances peerUid state
      { state with
        task := task
        queue := state.queue.tail
        history := { state.history with
          received := state.history.received ++ state.queue.head?.toList } } where
  hub := rfl
  worker := rfl
  pending := by
    show task.msg.toList ++ state.queue.tail ⊆ state.task.msg.toList ++ state.queue
    apply List.Subset.trans _ (List.subset_append_right _ _)
    obtain head | none := msg
    · rw [head]
      cases state.queue with
      | nil => exact List.Subset.refl _
      | cons first rest => exact List.Subset.refl _
    · rw [none]
      exact List.tail_subset state.queue
  checked := checked
  kept frame keeps := .inl (kept frame keeps)
  sent := fun _ => .inl

/-- A poll of the queue sends nothing foreign. -/
theorem advances_tryRecv (state : ForwardState Image) (place : TaskPlace)
    (checked : place.checked = true →
      state.task.place.checked = true ∨ state.hub.activeUid = peerUid) :
    Advances peerUid state (tryRecv state place) :=
  advances_take _ (.inl rfl) (fun _ => id) checked

/-- A receipt sends nothing foreign. -/
theorem advances_recv (state : ForwardState Image) (place : TaskPlace)
    (checked : place.checked = true → state.task.place.checked = true) :
    Advances peerUid state (recv state place) := by
  unfold recv
  split
  next => exact advances_tryRecv state place fun here => .inl (checked here)
  next =>
    split
    next => exact advances_ended state
    next => exact advances_goTo state.task _ _ _ _ (.inl rfl) (fun _ => .inl) .inl

/-- Drained credits send nothing foreign. -/
theorem drainFrameAcks_advances (state : ForwardState Image) (choice : TaskChoice) (reads : Nat)
    {again : Nat → TaskPlace} {next : TaskPlace}
    (againUnchecked : ∀ left, (again left).checked = false) (nextUnchecked : next.checked = false) :
    Advances peerUid state (drainFrameAcks state choice reads again next) := by
  obtain ⟨count, credit, place, after, -, -, moved⟩ :=
    drainFrameAcks_moved state choice reads again next
  rw [after]
  refine advances_goTo _ _ _ _ _ (.inl rfl) (fun _ => .inl) ?_
  intro here
  obtain rfl | rfl | ⟨left, rfl⟩ := moved
  · cases here
  · rw [nextUnchecked] at here
    cases here
  · rw [againUnchecked] at here
    cases here

/-- The wait sends nothing foreign. -/
theorem awaitDisplays_advances (state : ForwardState Image) :
    Advances peerUid state (awaitDisplays state) := by
  unfold awaitDisplays
  split
  next => exact advances_take _ (.inr rfl) (fun _ => id) nofun
  next => exact advances_recv state .ended nofun

/-- The first message sends nothing foreign. -/
theorem receiveStart_advances (state : ForwardState Image) (choice : TaskChoice) :
    Advances peerUid state (receiveStart state choice) := by
  unfold receiveStart
  split
  next =>
    split
    next => exact advances_ended state
    next => exact advances_goTo state.task _ _ _ _ (.inl rfl) (fun _ => .inl) .inl
  next =>
    split
    next => exact advances_goTo _ _ _ _ _ (.inl rfl) (fun _ => .inl) nofun
    next => exact advances_goTo _ _ _ _ _ (.inl rfl) (fun _ => .inl) nofun

/-- The first choice sends nothing foreign. -/
theorem selectFirst_advances (state : ForwardState Image) (choice : TaskChoice) :
    Advances peerUid state (selectFirst state choice) := by
  unfold selectFirst
  split
  next => exact advances_tryRecv state .authorizing nofun
  next =>
    split
    next =>
      split
      next => exact advances_ended state
      next =>
        split
        next => exact advances_taskTo state .authorizing nofun
        next => exact advances_recv state .authorizing nofun
    next => exact advances_recv state .authorizing nofun

/-- A fetch after the check sends nothing foreign. -/
theorem fetch_advances (here : state.task.place.checked = true) :
    Advances peerUid state (fetch state) := by
  have kept (task : ForwardTask Image) (latest : task.latestFrame = state.task.heldFrame)
      (held : task.heldFrame = none) (frame : Frame Image) (keeps : task.Keeps frame) :
      state.task.Keeps frame := by
    obtain newest | old := keeps
    · exact .inr (latest ▸ newest)
    · simp [held] at old
  unfold fetch
  split
  next =>
    refine advances_goTo _ _ _ _ _ (.inl rfl) ?_ fun _ => .inl here
    exact fun frame keeps => .inl (kept _ rfl rfl frame keeps)
  next => exact advances_take _ (.inl rfl) (kept _ rfl rfl) fun _ => .inl here

/-- A handled message is not foreign. -/
theorem handle_advances (choice : TaskChoice) (here : state.task.place = .handling) :
    Advances peerUid state (handle state choice) := by
  have checked : state.task.place.checked = true := by rw [here]; rfl
  unfold handle
  split
  next frame msg =>
    refine advances_goTo _ _ _ _ _ (.inr rfl) ?_ fun _ => .inl checked
    intro other keeps
    obtain newest | old := keeps
    · refine .inr ⟨checked, ?_⟩
      rw [← Option.some.inj newest, ForwardState.pending, msg]
      exact List.mem_cons_self
    · exact .inl (.inr old)
  next cursor msg =>
    split
    next => exact advances_ended state
    next =>
      have hand : .cursor cursor ∈ state.pending := by
        rw [ForwardState.pending, msg]
        exact List.mem_cons_self
      exact advances_send _ (.cursor cursor checked hand rfl) (.inl rfl) (fun _ => id)
        fun _ => checked
  next => exact advances_goTo _ _ _ _ _ (.inr rfl) (fun _ => .inl) fun _ => .inl checked
  next => exact advances_goTo _ _ _ _ _ (.inr rfl) (fun _ => .inl) fun _ => .inl checked

/-- A cursor is not foreign. -/
theorem sendCursorBody_advances (choice : TaskChoice) (here : state.task.place = .cursorBody) :
    Advances peerUid state (sendCursorBody state choice) := by
  have checked : state.task.place.checked = true := by rw [here]; rfl
  unfold sendCursorBody
  split
  next cursor msg =>
    split
    next => exact advances_ended state
    next =>
      have hand : .cursor cursor ∈ state.pending := by
        rw [ForwardState.pending, msg]
        exact List.mem_cons_self
      exact advances_send _ (.cursor cursor checked hand rfl) (.inr rfl) (fun _ => id)
        fun _ => checked
  next => exact advances_ended state

/-- A part of the latest frame is sent. -/
theorem sendLast_advances {frame : Frame Image} (latest : state.task.latestFrame = some frame)
    {msg : WireMsg Image} (under : msg.under? = some frame.under) :
    Advances peerUid state (sendLast state msg) := by
  refine advances_send _ (.frame frame (.inl latest) under) (.inl rfl) ?_ nofun
  intro other keeps
  obtain newest | old := keeps
  · cases newest
  · exact .inr old

/-- A decision sends nothing foreign. -/
theorem decideFrame_advances (state : ForwardState Image) (choice : TaskChoice) :
    Advances peerUid state (decideFrame state choice) := by
  unfold decideFrame
  split
  next =>
    refine advances_goTo _ _ _ _ _ (.inl rfl) ?_ nofun
    intro other keeps
    obtain newest | old := keeps
    · cases newest
    · exact .inl (.inl old)
  next =>
    split
    next => exact advances_taskTo state _ nofun
    next frame latest =>
      split
      next => exact advances_ended state
      next =>
        split
        next => exact sendLast_advances latest rfl
        next =>
          exact advances_send _ (.frame frame (.inl latest) rfl) (.inl rfl) (fun _ => id) nofun

/-- A frame is not foreign. -/
theorem sendFrameBody_advances (state : ForwardState Image) (choice : TaskChoice) :
    Advances peerUid state (sendFrameBody state choice) := by
  unfold sendFrameBody
  split
  next latest =>
    split
    next => exact advances_ended state
    next => exact sendLast_advances latest rfl
  next => exact advances_ended state

/-- Only the active user is authorized. -/
theorem drmPeerAuthorized_active {activeUid : Option UInt32} (notRoot : peerUid ≠ some 0)
    (authorized : drmPeerAuthorized peerUid activeUid = true) : activeUid = peerUid := by
  unfold drmPeerAuthorized at authorized
  split at authorized
  next => exact absurd rfl notRoot
  next uid _ => exact beq_iff_eq.mp authorized
  next => cases authorized

/-- No step of the task sends foreign messages. -/
theorem handleDrmConn_advances (notRoot : peerUid ≠ some 0) (state : ForwardState Image)
    (choice : TaskChoice) : Advances peerUid state (handleDrmConn peerUid state choice) := by
  unfold handleDrmConn
  split
  next => exact awaitDisplays_advances state
  next =>
    split
    next => exact advances_ended state
    next => exact advances_send _ (.list rfl) (.inl rfl) (fun _ => id) nofun
  next => exact receiveStart_advances state choice
  next => exact advances_goTo _ _ _ _ _ (.inl rfl) (fun _ => .inl) nofun
  next reads _ => exact drainFrameAcks_advances state choice reads (fun _ => rfl) rfl
  next =>
    split
    next => exact advances_ended state
    next => exact advances_goTo _ _ _ _ _ (.inl rfl) (fun _ => .inl) nofun
  next => exact selectFirst_advances state choice
  next =>
    split
    next authorized =>
      exact advances_taskTo state .loading fun _ =>
        .inr (drmPeerAuthorized_active notRoot authorized)
    next => exact advances_ended state
  next here =>
    have checked : state.task.place.checked = true := by rw [here]; rfl
    split
    next => exact advances_goTo _ _ _ _ _ (.inl rfl) (fun _ => .inl) fun _ => .inl checked
    next => exact advances_taskTo state .fetching fun _ => .inl checked
  next here => exact advances_taskTo state _ fun _ => .inl (by rw [here]; rfl)
  next here =>
    split
    next => exact advances_ended state
    next =>
      exact advances_send _ (.list rfl) (.inl rfl) (fun _ => id) fun _ => by rw [here]; rfl
  next here => exact fetch_advances (by rw [here]; rfl)
  next here => exact handle_advances choice here
  next here => exact sendCursorBody_advances choice here
  next here => exact advances_tryRecv state _ fun _ => .inl (by rw [here]; rfl)
  next reads _ => exact drainFrameAcks_advances state choice reads (fun _ => rfl) rfl
  next => exact decideFrame_advances state choice
  next => exact sendFrameBody_advances state choice
  next => exact advances_goTo state.task _ _ _ _ (.inl rfl) (fun _ => .inl) .inl

/-- Nothing foreign enters the queue behind the check of a turn, and the session of the consumer does
not become active while something foreign waits. -/
def InTime (peerUid : Option UInt32) (state : ForwardState Image) : ForwardInput Image → Prop
  | .worker _ => state.task.place.checked = true → state.queue.length < frameCapacity →
      ∀ msg ∈ state.worker.offered.toList, foreign peerUid msg.under? = false
  | .switch activeUid => activeUid = peerUid →
      ∀ msg ∈ state.worker.offered.toList ++ state.pending, foreign peerUid msg.under? = false
  | _ => True

instance decidableInTime (peerUid : Option UInt32) (state : ForwardState Image) :
    (input : ForwardInput Image) → Decidable (InTime peerUid state input)
  | .worker _ => inferInstanceAs (Decidable (_ → _))
  | .switch _ => inferInstanceAs (Decidable (_ → _))
  | .plug _ | .refresh _ | .task _ | .consumer _ | .stray _ => inferInstanceAs (Decidable True)

/-- A switch in time clears what waits. -/
theorem drmCaptureWorker_cleared (cleared : Cleared peerUid state) (choice : WorkerChoice Image)
    (inTime : InTime peerUid state (.worker choice)) :
    Cleared peerUid (drmCaptureWorker state choice) := by
  obtain ⟨worker, queue, produced, after, moved⟩ := drmCaptureWorker_moved state choice
  rw [after]
  suffices reach : (∀ msg ∈ worker.offered.toList ++ (state.task.msg.toList ++ queue),
        foreign peerUid msg.under? = true → state.hub.activeUid ≠ peerUid) ∧
      (state.task.place.checked = true →
        ∀ msg ∈ state.task.msg.toList ++ queue, foreign peerUid msg.under? = false) from
    ⟨reach.1, reach.2, cleared.kept, cleared.sent⟩
  generalize worker.offered = offered at moved ⊢
  cases moved with
  | kept => exact ⟨cleared.waiting, cleared.window⟩
  | made msg idle under =>
      refine ⟨?_, cleared.window⟩
      intro other member strange
      obtain rfl | before := List.mem_cons.mp member
      · cases here : other.under? with
        | none => simp [foreign, here] at strange
        | some uid =>
            rw [← under uid here]
            simpa [foreign, here] using strange
      · exact cleared.waiting other (List.mem_append_right _ before) strange
  | queued msg offered room =>
      have known := cleared.waiting
      rw [offered] at known
      refine ⟨?_, ?_⟩
      · intro other member strange
        refine known other ?_ strange
        simp only [ForwardState.pending, Option.toList_some, Option.toList_none, List.mem_append,
          List.mem_singleton, List.not_mem_nil] at member ⊢
        tauto
      · intro checked other member
        rw [← List.append_assoc] at member
        obtain before | new := List.mem_append.mp member
        · exact cleared.window checked other before
        · rw [List.mem_singleton.mp new]
          exact inTime checked room msg (by rw [offered]; exact List.mem_cons_self)

/-- One step in time keeps the queue clear. -/
theorem forwardStep_cleared (notRoot : peerUid ≠ some 0) (cleared : Cleared peerUid state)
    (input : ForwardInput Image) (inTime : InTime peerUid state input) :
    Cleared peerUid (forwardStep peerUid state input) := by
  cases input with
  | switch activeUid =>
      refine ⟨?_, cleared.window, cleared.kept, cleared.sent⟩
      intro msg member strange active
      have clean := inTime active msg member
      rw [strange] at clean
      cases clean
  | plug topology => exact ⟨cleared.waiting, cleared.window, cleared.kept, cleared.sent⟩
  | refresh panics =>
      have same : (refreshCache state.hub panics).activeUid = state.hub.activeUid := by
        unfold refreshCache
        split
        next => rfl
        next =>
          split
          next => rfl
          next => rfl
        next => rfl
      refine ⟨?_, cleared.window, cleared.kept, cleared.sent⟩
      intro msg member strange
      exact same ▸ cleared.waiting msg member strange
  | stray bytes => exact ⟨cleared.waiting, cleared.window, cleared.kept, cleared.sent⟩
  | worker choice => exact drmCaptureWorker_cleared cleared choice inTime
  | task choice => exact cleared.advance (handleDrmConn_advances notRoot state choice)
  | consumer choice =>
      obtain ⟨wire, start, acks, consumer, read, acked, after, -⟩ := recvThread_moved state choice
      simp only [forwardStep]
      rw [after]
      exact ⟨cleared.waiting, cleared.window, cleared.kept, cleared.sent⟩

/-- A stream whose steps are all in time sends nothing that was grabbed under another uid. -/
theorem sent_under_peer (notRoot : peerUid ≠ some 0) (inputs : List (ForwardInput Image))
    (inTime : (forwarding peerUid).Guarded (InTime peerUid) initialForward inputs) :
    ∀ msg ∈ ((forwarding peerUid).run initialForward inputs).1.history.sent,
      ∀ uid, msg.under? = some uid → uid = peerUid := by
  have cleared : Cleared peerUid ((forwarding peerUid).run initialForward inputs).1 := by
    apply (forwarding peerUid).run_invariant (InTime peerUid)
      (fun state _ => Cleared peerUid state) _ initialForward [] inputs _ inTime
    · intro state _ input inTime cleared
      exact forwardStep_cleared notRoot cleared input inTime
    · exact ⟨nofun, nofun, nofun, nofun⟩
  intro msg member uid under
  have clean := cleared.sent msg member
  rw [under] at clean
  simpa [foreign] using clean

/-- The active user changes after the end of the turn, and the stream ends at the next check. -/
def switchedAfterTurn : List (ForwardInput Nat) :=
  sampleStart ++ List.replicate 2 (goWorker 7) ++ List.replicate 10 goTask ++
    [.switch (some 1001)] ++ List.replicate 6 (goWorker 8) ++ List.replicate 5 goTask

theorem sent_under_peer_switched :
    ((forwarding (some 1000)).Guarded (InTime (some 1000)) initialForward switchedAfterTurn) ∧
    ∀ msg ∈ ((forwarding (some 1000)).run initialForward switchedAfterTurn).1.history.sent,
      ∀ uid, msg.under? = some uid → uid = some 1000 :=
  ⟨by decide +kernel, sent_under_peer (by decide) switchedAfterTurn (by decide +kernel)⟩

/-- The active user changes while the task sends a cursor, and the worker queues a new frame. -/
def switchedInTurn : List (ForwardInput Nat) :=
  sampleStart ++ [goWorker 7, goWorker 7, goCursor 5, goCursor 5] ++ List.replicate 9 goTask ++
    [.switch (some 1001)] ++ List.replicate 6 (goWorker 8) ++ List.replicate 6 goTask

theorem foreign_frame_sent :
    ¬ ∀ msg ∈ ((forwarding (some 1000)).run initialForward switchedInTurn).1.history.sent,
      ∀ uid, msg.under? = some uid → uid = some 1000 := by
  intro clean
  have strange : (((forwarding (some 1000)).run initialForward switchedInTurn).1.history.sent.any
      fun msg => msg.under? == some (some 1001)) = true := by decide +kernel
  obtain ⟨msg, member, under⟩ := List.any_eq_true.mp strange
  have same := clean msg member (some 1001) (beq_iff_eq.mp under)
  exact absurd same (by decide)

end SubnetDesk.Drm
