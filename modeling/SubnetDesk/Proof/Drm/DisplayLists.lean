import SubnetDesk.Proof.Drm.ForwardSteps

namespace SubnetDesk.Drm

variable {Image : Type} {state after : ForwardState Image}

/-- What the task owes to the consumer at its place. -/
inductive ListStage where
  | handshake
  | informed
  | rereading
  | announcing (fresh : List DrmDisplayInfo)
  | closed

def TaskPlace.stage : TaskPlace → ListStage
  | .awaiting | .sendingList | .starting | .sampling => .handshake
  | .rereading => .rereading
  | .announcing fresh => .announcing fresh
  | .ended => .closed
  | _ => .informed

/-- The last list of displays that was sent. -/
def StreamHistory.lastList (history : StreamHistory Image) : Option (List DrmDisplayInfo) :=
  (history.sent.filterMap WireMsg.list?).getLast?

/-- A list is one that the cache has held at the current generation. -/
def DisplayHub.Held (hub : DisplayHub) (list : Option (List DrmDisplayInfo)) : Prop :=
  ∃ held ∈ hub.contents, list = some held

instance decidableHeld (hub : DisplayHub) (list : Option (List DrmDisplayInfo)) :
    Decidable (hub.Held list) := inferInstanceAs (Decidable (∃ held ∈ hub.contents, _))

def ListStage.Current (hub : DisplayHub) (seenGen : Nat) (list : Option (List DrmDisplayInfo)) :
    ListStage → Prop
  | .informed => hub.generation = seenGen → hub.Held list
  | .announcing fresh => hub.generation = seenGen → hub.Held (some fresh)
  | .handshake | .rereading | .closed => True

/-- A task that has seen the generation has sent what the cache held then. -/
structure Current (state : ForwardState Image) : Prop where
  cached : state.hub.cache ∈ state.hub.contents
  seen : state.task.seenGen ≤ state.hub.generation
  list : state.task.place.stage.Current state.hub state.task.seenGen state.history.lastList

/-- A step of the task stays in its stage, or ends. -/
structure Steady (state after : ForwardState Image) : Prop where
  hub : after.hub = state.hub
  seenGen : after.task.seenGen = state.task.seenGen
  lists : after.history.lastList = state.history.lastList
  stage : after.task.place.stage = state.task.place.stage ∨ after.task.place.stage = .closed

/-- A steady step keeps the list current. -/
theorem Current.steady (current : Current state) (steady : Steady state after) :
    Current after where
  cached := by
    rw [steady.hub]
    exact current.cached
  seen := by
    rw [steady.hub, steady.seenGen]
    exact current.seen
  list := by
    cases steady.stage with
    | inl same =>
        rw [same, steady.hub, steady.seenGen, steady.lists]
        exact current.list
    | inr closed =>
        rw [closed]
        trivial

/-- A move of the task is steady. -/
theorem steady_goTo (task : ForwardTask Image) (gated : Bool) (chosen : Option Bool)
    (start : Option (Int32 × Bool)) (acks : Nat) (seenGen : task.seenGen = state.task.seenGen)
    (stage : task.place.stage = state.task.place.stage ∨ task.place.stage = .closed) :
    Steady state
      { state with
        task := task, gated := gated, chosen := chosen, start := start, acks := acks } :=
  ⟨rfl, seenGen, rfl, stage⟩

theorem steady_taskTo (state : ForwardState Image) (place : TaskPlace)
    (stage : place.stage = state.task.place.stage ∨ place.stage = .closed) :
    Steady state (taskTo state place) := ⟨rfl, rfl, rfl, stage⟩

theorem steady_ended (state : ForwardState Image) : Steady state (taskTo state .ended) :=
  steady_taskTo state .ended (.inr rfl)

/-- A poll of the queue is steady. -/
theorem steady_tryRecv (state : ForwardState Image) (place : TaskPlace)
    (stage : place.stage = state.task.place.stage ∨ place.stage = .closed) :
    Steady state (tryRecv state place) := ⟨rfl, rfl, rfl, stage⟩

/-- A receipt is steady. -/
theorem steady_recv (state : ForwardState Image) (place : TaskPlace)
    (stage : place.stage = state.task.place.stage ∨ place.stage = .closed) :
    Steady state (recv state place) := by
  unfold recv
  split
  next => exact steady_tryRecv state place stage
  next =>
    split
    next => exact steady_ended state
    next => exact ⟨rfl, rfl, rfl, .inl rfl⟩

/-- A message without a list is steady. -/
theorem steady_send (task : ForwardTask Image) {msg : WireMsg Image} (noList : msg.list? = none)
    (seenGen : task.seenGen = state.task.seenGen)
    (stage : task.place.stage = state.task.place.stage ∨ task.place.stage = .closed) :
    Steady state { send state msg with task := task } where
  hub := rfl
  seenGen := seenGen
  lists := by simp [StreamHistory.lastList, send, noList]
  stage := stage

/-- Drained credits are steady. -/
theorem drainFrameAcks_steady (state : ForwardState Image) (choice : TaskChoice) (reads : Nat)
    {again : Nat → TaskPlace} {next : TaskPlace}
    (againStage : ∀ left, (again left).stage = state.task.place.stage)
    (nextStage : next.stage = state.task.place.stage) :
    Steady state (drainFrameAcks state choice reads again next) := by
  obtain ⟨count, credit, place, after, -, -, moved⟩ :=
    drainFrameAcks_moved state choice reads again next
  rw [after]
  refine steady_goTo _ _ _ _ _ rfl ?_
  obtain rfl | rfl | ⟨left, rfl⟩ := moved
  · exact .inr rfl
  · exact .inl nextStage
  · exact .inl (againStage left)

/-- The first message is steady. -/
theorem receiveStart_steady (choice : TaskChoice) (here : state.task.place = .starting) :
    Steady state (receiveStart state choice) := by
  unfold receiveStart
  split
  next =>
    split
    next => exact steady_ended state
    next => exact ⟨rfl, rfl, rfl, .inl rfl⟩
  next =>
    split
    next => exact steady_goTo _ _ _ _ _ rfl (.inr rfl)
    next => exact steady_goTo _ _ _ _ _ rfl (.inl (by rw [here]; rfl))

/-- The wait is steady. -/
theorem awaitDisplays_steady (here : state.task.place = .awaiting) :
    Steady state (awaitDisplays state) := by
  unfold awaitDisplays
  split
  next => exact ⟨rfl, rfl, rfl, .inl (by rw [here]; rfl)⟩
  next => exact steady_recv state .ended (.inr rfl)

/-- The first choice is steady. -/
theorem selectFirst_steady (informed : state.task.place.stage = .informed) (choice : TaskChoice) :
    Steady state (selectFirst state choice) := by
  have waits : Steady state (recv state .authorizing) :=
    steady_recv state .authorizing (.inl (by rw [informed]; rfl))
  unfold selectFirst
  split
  next => exact steady_tryRecv state .authorizing (.inl (by rw [informed]; rfl))
  next =>
    split
    next =>
      split
      next => exact steady_ended state
      next =>
        split
        next => exact steady_taskTo state .authorizing (.inl (by rw [informed]; rfl))
        next => exact waits
    next => exact waits

/-- A fetched message is steady. -/
theorem fetch_steady (informed : state.task.place.stage = .informed) :
    Steady state (fetch state) := by
  unfold fetch
  split
  next => exact steady_goTo _ _ _ _ _ rfl (.inl (by rw [informed]; rfl))
  next =>
    refine ⟨rfl, rfl, rfl, .inl ?_⟩
    rw [informed]
    cases state.queue with
    | nil => rfl
    | cons => rfl

/-- A handled message is steady. -/
theorem handle_steady (informed : state.task.place.stage = .informed) (choice : TaskChoice) :
    Steady state (handle state choice) := by
  unfold handle
  split
  next => exact steady_goTo _ _ _ _ _ rfl (.inl (by rw [informed]; rfl))
  next =>
    split
    next => exact steady_ended state
    next => exact steady_send _ rfl rfl (.inl (by rw [informed]; rfl))
  next => exact steady_goTo _ _ _ _ _ rfl (.inl (by rw [informed]; rfl))
  next => exact steady_goTo _ _ _ _ _ rfl (.inl (by rw [informed]; rfl))

/-- A cursor is steady. -/
theorem sendCursorBody_steady (informed : state.task.place.stage = .informed) (choice : TaskChoice) :
    Steady state (sendCursorBody state choice) := by
  unfold sendCursorBody
  split
  next =>
    split
    next => exact steady_ended state
    next => exact steady_send _ rfl rfl (.inl (by rw [informed]; rfl))
  next => exact steady_ended state

/-- A decision is steady. -/
theorem decideFrame_steady (informed : state.task.place.stage = .informed) (choice : TaskChoice) :
    Steady state (decideFrame state choice) := by
  unfold decideFrame
  split
  next => exact steady_goTo _ _ _ _ _ rfl (.inl (by rw [informed]; rfl))
  next =>
    split
    next => exact steady_taskTo state _ (.inl (by rw [informed]; rfl))
    next =>
      split
      next => exact steady_ended state
      next =>
        split
        next => exact steady_send _ rfl rfl (.inl (by rw [informed]; rfl))
        next => exact steady_send _ rfl rfl (.inl (by rw [informed]; rfl))

/-- A frame is steady. -/
theorem sendFrameBody_steady (informed : state.task.place.stage = .informed) (choice : TaskChoice) :
    Steady state (sendFrameBody state choice) := by
  unfold sendFrameBody
  split
  next =>
    split
    next => exact steady_ended state
    next => exact steady_send _ rfl rfl (.inl (by rw [informed]; rfl))
  next => exact steady_ended state

def TaskPlace.isSampling : TaskPlace → Bool
  | .sampling => true
  | _ => false

/-- The list of the handshake is current when the task samples the generation. -/
def SampledInTime (state : ForwardState Image) : ForwardInput Image → Prop
  | .task _ => state.task.place.isSampling = true → state.hub.Held state.history.lastList
  | _ => True

instance decidableSampledInTime (state : ForwardState Image) :
    (input : ForwardInput Image) → Decidable (SampledInTime state input)
  | .task _ => inferInstanceAs (Decidable (_ → _))
  | .switch _ | .plug _ | .refresh _ | .worker _ | .consumer _ | .stray _ =>
      inferInstanceAs (Decidable True)

/-- A step of the task keeps the list current. -/
theorem handleDrmConn_current (peerUid : Option UInt32) (current : Current state)
    (choice : TaskChoice) (sampled : SampledInTime state (.task choice)) :
    Current (handleDrmConn peerUid state choice) := by
  unfold handleDrmConn
  split
  next here => exact current.steady (awaitDisplays_steady here)
  next =>
    split
    next => exact current.steady (steady_ended state)
    next => exact ⟨current.cached, current.seen, trivial⟩
  next here => exact current.steady (receiveStart_steady choice here)
  next here =>
    exact ⟨current.cached, Nat.le_refl _, fun _ => sampled (by rw [here]; rfl)⟩
  next reads here =>
    exact current.steady (drainFrameAcks_steady state choice reads (fun _ => by rw [here]; rfl)
      (by rw [here]; rfl))
  next here =>
    split
    next => exact current.steady (steady_ended state)
    next => exact current.steady (steady_goTo _ _ _ _ _ rfl (.inl (by rw [here]; rfl)))
  next here => exact current.steady (selectFirst_steady (by rw [here]; rfl) choice)
  next here =>
    split
    next => exact current.steady (steady_taskTo state .loading (.inl (by rw [here]; rfl)))
    next => exact current.steady (steady_ended state)
  next here =>
    split
    next => exact ⟨current.cached, Nat.le_refl _, trivial⟩
    next => exact current.steady (steady_taskTo state .fetching (.inl (by rw [here]; rfl)))
  next =>
    exact ⟨current.cached, current.seen, fun _ => ⟨state.hub.cache, current.cached, rfl⟩⟩
  next fresh here =>
    split
    next => exact current.steady (steady_ended state)
    next =>
      have last : (send state (.drmDisplaysChanged fresh)).history.lastList = some fresh := by
        simp [StreamHistory.lastList, send, WireMsg.list?]
      have list := current.list
      rw [here] at list
      refine ⟨current.cached, current.seen, ?_⟩
      intro same
      exact last ▸ list same
  next here => exact current.steady (fetch_steady (by rw [here]; rfl))
  next here => exact current.steady (handle_steady (by rw [here]; rfl) choice)
  next here => exact current.steady (sendCursorBody_steady (by rw [here]; rfl) choice)
  next here =>
    refine current.steady (steady_tryRecv state _ (.inl ?_))
    rw [here]
    cases state.queue with
    | nil => rfl
    | cons => rfl
  next reads here =>
    exact current.steady (drainFrameAcks_steady state choice reads (fun _ => by rw [here]; rfl)
      (by rw [here]; rfl))
  next here => exact current.steady (decideFrame_steady (by rw [here]; rfl) choice)
  next here => exact current.steady (sendFrameBody_steady (by rw [here]; rfl) choice)
  next => exact current

/-- A list that stays the same is current. -/
theorem ListStage.Current.grow {hub grown : DisplayHub} {seenGen : Nat}
    {list : Option (List DrmDisplayInfo)} {stage : ListStage}
    (current : stage.Current hub seenGen list) (same : grown.generation = hub.generation)
    (more : hub.contents ⊆ grown.contents) : stage.Current grown seenGen list := by
  have held (list : Option (List DrmDisplayInfo)) (holds : hub.Held list) : grown.Held list := by
    obtain ⟨old, member, rfl⟩ := holds
    exact ⟨old, more member, rfl⟩
  cases stage with
  | informed => exact fun seen => held list (current (same ▸ seen))
  | announcing fresh => exact fun seen => held (some fresh) (current (same ▸ seen))
  | handshake => trivial
  | rereading => trivial
  | closed => trivial

/-- A newer list is one still to be sent. -/
theorem ListStage.Current.later {hub : DisplayHub} {seenGen : Nat}
    (list : Option (List DrmDisplayInfo)) (stage : ListStage) (old : seenGen < hub.generation) :
    stage.Current hub seenGen list := by
  cases stage with
  | informed => exact fun seen => absurd seen (Nat.ne_of_gt old)
  | announcing fresh => exact fun seen => absurd seen (Nat.ne_of_gt old)
  | handshake => trivial
  | rereading => trivial
  | closed => trivial

/-- A bump of the generation makes the task look again, and a change before it only adds a list. -/
theorem refreshCache_current (current : Current state) (panics : Bool) :
    Current { state with hub := refreshCache state.hub panics } := by
  have list := current.list
  unfold refreshCache
  split
  next => exact ⟨current.cached, current.seen, list.grow rfl (List.Subset.refl _)⟩
  next fresh _ =>
    split
    next =>
      exact ⟨List.mem_cons_self, current.seen, list.grow rfl (List.subset_cons_self fresh _)⟩
    next => exact ⟨current.cached, current.seen, list.grow rfl (List.Subset.refl _)⟩
  next =>
    exact ⟨List.mem_cons_self, Nat.le_succ_of_le current.seen,
      ListStage.Current.later _ _ (Nat.lt_succ_of_le current.seen)⟩

/-- One step keeps the list current. -/
theorem forwardStep_current (peerUid : Option UInt32) (current : Current state)
    (input : ForwardInput Image) (sampled : SampledInTime state input) :
    Current (forwardStep peerUid state input) := by
  cases input with
  | switch activeUid =>
      exact ⟨current.cached, current.seen, current.list.grow rfl (List.Subset.refl _)⟩
  | plug topology =>
      exact ⟨current.cached, current.seen, current.list.grow rfl (List.Subset.refl _)⟩
  | refresh panics => exact refreshCache_current current panics
  | stray bytes => exact ⟨current.cached, current.seen, current.list⟩
  | task choice => exact handleDrmConn_current peerUid current choice sampled
  | worker choice =>
      obtain ⟨worker, queue, produced, after, -⟩ := drmCaptureWorker_moved state choice
      simp only [forwardStep]
      rw [after]
      exact ⟨current.cached, current.seen, current.list⟩
  | consumer choice =>
      obtain ⟨wire, start, acks, consumer, read, acked, after, -⟩ := recvThread_moved state choice
      simp only [forwardStep]
      rw [after]
      exact ⟨current.cached, current.seen, current.list⟩

/-- Where the loop finds the generation that it has seen, the consumer has a list that the cache held
at this generation, and elsewhere the turn reads the cache again. -/
theorem seen_list_current (peerUid : Option UInt32) (inputs : List (ForwardInput Image))
    (sampled : (forwarding peerUid).Guarded SampledInTime initialForward inputs) :
    let state := ((forwarding peerUid).run initialForward inputs).1
    state.task.place = .loading →
      (state.hub.generation = state.task.seenGen →
        ∃ held ∈ state.hub.contents, state.history.lastList = some held) ∧
      (state.hub.generation ≠ state.task.seenGen →
        ∀ choice, (handleDrmConn peerUid state choice).task.place = .rereading) := by
  have current : Current ((forwarding peerUid).run initialForward inputs).1 := by
    apply (forwarding peerUid).run_invariant SampledInTime
      (fun state _ => Current state) _ initialForward [] inputs _ sampled
    · intro state _ input sampled current
      exact forwardStep_current peerUid current input sampled
    · exact ⟨List.mem_cons_self, Nat.le_refl 0, trivial⟩
  intro state loading
  have list := current.list
  rw [loading] at list
  refine ⟨list, ?_⟩
  intro differs choice
  simp [handleDrmConn, loading, differs]

/-- The cache is refreshed before the worker enumerates. -/
def refreshedBefore : List (ForwardInput Nat) :=
  .plug [sampleDisplay 41] :: List.replicate 3 (.refresh false) ++ sampleStart ++
    List.replicate 2 (goWorker 7) ++ List.replicate 4 goTask

theorem seen_list_current_refreshed :
    (forwarding (some 1000)).Guarded SampledInTime initialForward refreshedBefore ∧
    let state := ((forwarding (some 1000)).run initialForward refreshedBefore).1
    state.task.place = .loading ∧ state.hub.generation = state.task.seenGen ∧
      ∃ held ∈ state.hub.contents, state.history.lastList = some held :=
  ⟨by decide +kernel, rfl, by decide +kernel,
    (seen_list_current (some 1000) refreshedBefore (by decide +kernel) rfl).1 (by decide +kernel)⟩

/-- A second display is plugged in and published after the list was sent, and before the task samples
the generation. -/
def publishedInHandshake : List (ForwardInput Nat) :=
  .plug [sampleDisplay 41] :: List.replicate 3 (.refresh false) ++ sampleHandshake ++
    [.plug [sampleDisplay 41, sampleDisplay 42]] ++ List.replicate 3 (.refresh false) ++
    List.replicate 2 goTask ++ List.replicate 4 (goWorker 0) ++ List.replicate 2 (goWorker 7) ++
    List.replicate 4 goTask

theorem published_list_missed :
    let state := ((forwarding (some 1000)).run initialForward publishedInHandshake).1
    state.task.place = .loading ∧ state.hub.generation = state.task.seenGen ∧
      ¬ ∃ held ∈ state.hub.contents, state.history.lastList = some held :=
  ⟨rfl, by decide +kernel, by decide +kernel⟩

end SubnetDesk.Drm
