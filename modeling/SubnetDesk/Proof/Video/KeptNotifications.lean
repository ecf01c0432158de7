import SubnetDesk.Proof.Video.FrameTurns

namespace SubnetDesk.FrameNotifiers

/-- A connection that notifies by its id for a frame that is still waited for stands in the table of
the display, and a service takes no notification that another service of its index still needs. -/
def System.Routes (system : System) : Input → Prop
  | .videoReceived id => (system.connections id).closed = none →
      ∀ frame ∈ (system.connections id).received.head?.toList, system.Pending frame →
        ¬ (system.connections id).Notified frame → id ∈ system.displayConnIds frame.service.idx
  | .close id => (system.connections id).closed = none →
      ∀ frame ∈ (system.connections id).sent, system.Pending frame →
        ¬ (system.connections id).Notified frame → id ∈ system.displayConnIds frame.service.idx
  | .tryWaitNext key => ∀ msg ∈ system.taken key, ∀ frame ∈ (system.connections msg.id).sent,
      frame.service ≠ key → frame.service.idx = key.idx → system.Pending frame → msg.Means frame →
        (system.services frame.service).stage = .waiting ∧
          msg.id ∈ (system.services frame.service).fetchedConnIds
  | _ => True

instance decidableRoutes (system : System) : ∀ input, Decidable (system.Routes input)
  | .videoReceived _ | .close _ => inferInstanceAs (Decidable (_ → ∀ _ ∈ _, _ → _ → _))
  | .tryWaitNext _ => inferInstanceAs (Decidable (∀ _ ∈ _, ∀ _ ∈ _, _ → _ → _ → _ → _ ∧ _))
  | .newService _ | .login _ _ | .subscribe _ _ | .unsubscribe _ _ | .run _ | .stop _
  | .handleOneFrame _ _ | .setSend _ | .timeout _ | .unlist _ | .recvVideo _ =>
      inferInstanceAs (Decidable True)

/-- A notification for the frame of a service is in the channel of the display. -/
def System.Announced (system : System) (id : Int) (frame : Frame) : Prop :=
  ∃ queue ∈ system.notifiers frame.service.idx, ∃ msg ∈ queue, msg.id = id ∧ msg.Means frame

/-- Whoever has notified for a frame that is waited for counts or is announced. -/
def System.Kept (system : System) : Prop :=
  ∀ key, (system.services key).receivers.isSome → ∀ id,
    system.frame key ∈ (system.connections id).sent →
    (system.connections id).Notified (system.frame key) →
    ((system.services key).stage = .waiting ∧ id ∈ (system.services key).fetchedConnIds) ∨
      system.Announced id (system.frame key)

theorem Connection.Known.sent_of_notified {connection : Connection} (known : connection.Known)
    {frame : Frame} (notified : connection.Notified frame) : frame ∈ connection.sent := by
  rcases notified with fetch | ack | ended
  · exact known.fetched fetch
  · exact known.acknowledged ack
  · cases closed : connection.closed with
    | none =>
        rw [closed] at ended
        cases ended
    | some queued =>
        rw [closed] at ended
        exact known.closed queued closed ended

theorem Connection.notified_recv {connection : Connection} {first frame : Frame}
    (notified : (connection.recv first).Notified frame) :
    connection.Notified frame ∨ (frame = first ∧ connection.videoAckRequired = false) := by
  rcases notified with fetch | ack | ended
  · dsimp only [Connection.recv] at fetch
    split at fetch
    next => exact .inl (.inl fetch)
    next native =>
      rcases List.mem_append.mp fetch with old | new
      · exact .inl (.inl old)
      · exact .inr ⟨List.mem_singleton.mp new, by simpa using native⟩
  · exact .inl (.inr (.inl ack))
  · exact .inl (.inr (.inr ended))

theorem Connection.notified_acknowledge {connection : Connection} {frame : Frame}
    (notified : connection.acknowledge.Notified frame) :
    connection.Notified frame ∨ connection.received.head? = some frame := by
  rcases notified with fetch | ack | ended
  · exact .inl (.inl fetch)
  · rcases List.mem_append.mp ack with old | new
    · exact .inl (.inr (.inl old))
    · exact .inr (Option.mem_toList.mp new)
  · exact .inl (.inr (.inr ended))

theorem Connection.notified_finish {connection : Connection} {frame : Frame}
    (notified : connection.finish.Notified frame) :
    connection.Notified frame ∨ frame ∈ connection.sent := by
  rcases notified with fetch | ack | ended
  · exact .inl (.inl fetch)
  · exact .inl (.inr (.inl ack))
  · exact .inr ended

theorem System.announced_byConnId {system : System} {msg : Notification} {frame : Frame}
    (listening : (system.notifiers frame.service.idx).isSome)
    (listed : msg.id ∈ system.displayConnIds frame.service.idx) (means : msg.Means frame) :
    (system.notifyVideoFrameFetchedByConnId msg).Announced msg.id frame := by
  obtain ⟨queue, channel⟩ := Option.isSome_iff_exists.mp listening
  refine ⟨queue ++ [msg], ?_, msg, List.mem_append_right _ (List.mem_singleton_self _), rfl, means⟩
  dsimp only [System.notifyVideoFrameFetchedByConnId]
  rw [if_pos listed, channel]
  rfl

/-- A new notification for a frame that is waited for comes to the channel of its display. -/
theorem System.Sound.announced {system : System} (sound : system.Sound) {input : Input}
    (routes : system.Routes input) {id : Int} {frame : Frame} (pending : system.Pending frame)
    (old : ¬ (system.connections id).Notified frame)
    (notified : ((system.step input).connections id).Notified frame) :
    (system.step input).Announced id frame := by
  have listening := sound.listening frame.service fun stopped => by
    have receives := pending.2
    rw [VideoService.receivers, stopped] at receives
    cases receives
  have changes := system.changes id input
  generalize next : (system.step input).connections id = after at changes notified
  cases changes with
  | same => exact absurd notified old
  | login videoAckRequired => exact absurd notified old
  | queued key looping => exact absurd notified old
  | fetched first running head =>
      rcases Connection.notified_recv notified with before | ⟨rfl, native⟩
      · exact absurd before old
      · obtain ⟨queue, channel⟩ := Option.isSome_iff_exists.mp listening
        refine ⟨queue ++ [⟨id, .fetched frame⟩], ?_, ⟨id, .fetched frame⟩,
          List.mem_append_right _ (List.mem_singleton_self _), rfl, .inl rfl⟩
        dsimp only [System.step]
        unfold System.recvVideo
        dsimp only
        rw [running, head]
        dsimp only
        rw [native, if_neg (by simp)]
        dsimp only [System.notifyVideoFrameFetched]
        rw [Function.update_self, System.modifyConnection, channel]
        rfl
  | acknowledged running =>
      rcases Connection.notified_acknowledge notified with before | head
      · exact absurd before old
      · dsimp only [System.step]
        unfold System.videoReceived
        dsimp only
        rw [running, head, if_neg (by simp)]
        refine System.announced_byConnId listening ?_ (.inr (.inl rfl))
        exact routes running frame (by rw [head]; exact List.mem_singleton_self _) pending old
  | finished running =>
      rcases Connection.notified_finish notified with before | sent
      · exact absurd before old
      · dsimp only [System.step]
        unfold System.close
        rw [running, if_neg (by simp)]
        exact System.announced_byConnId listening (routes running frame sent pending old)
          (.inr (.inr rfl))

/-- A notification stays in its channel until a service takes it. -/
theorem System.queue_step (system : System) (input : Input) {idx : Nat} {queue : List Notification}
    (channel : system.notifiers idx = some queue) :
    (∃ more, (system.step input).notifiers idx = some (queue ++ more)) ∨
      ∃ key, input = .tryWaitNext key ∧ key.idx = idx ∧ system.taken key = queue := by
  have queues := system.queues input idx
  generalize (system.step input).notifiers idx = after at queues ⊢
  cases queues with
  | same => exact .inl ⟨[], by rw [channel, List.append_nil]⟩
  | created key here => exact .inl ⟨[], by rw [channel, List.append_nil, Option.getD_some]⟩
  | put msg puts => exact .inl ⟨[msg], by rw [channel, Option.map_some]⟩
  | took key here waiting nonempty =>
      refine .inr ⟨key, rfl, here, ?_⟩
      rw [System.taken, if_pos ⟨waiting, nonempty⟩, here, channel, Option.getD_some]

theorem System.announced_step {system : System} {id : Int} {frame : Frame}
    (announced : system.Announced id frame) (input : Input) :
    (system.step input).Announced id frame ∨
      ∃ key, input = .tryWaitNext key ∧ key.idx = frame.service.idx ∧
        ∃ msg ∈ system.taken key, msg.id = id ∧ msg.Means frame := by
  obtain ⟨queue, channel, msg, member, same, means⟩ := announced
  rcases system.queue_step input channel with ⟨more, kept⟩ | ⟨key, waits, idx, taken⟩
  · exact .inl ⟨queue ++ more, kept, msg, List.mem_append_left _ member, same, means⟩
  · exact .inr ⟨key, waits, idx, msg, taken ▸ member, same, means⟩

/-- After a service took its notifications, all announced connections count. -/
theorem System.Sound.counts {system : System} (sound : system.Sound) {key : ServiceKey}
    (waiting : (system.services key).stage = .waiting) {id : Int}
    (sent : system.frame key ∈ (system.connections id).sent)
    (known : ((system.services key).stage = .waiting ∧
        id ∈ (system.services key).fetchedConnIds) ∨ system.Announced id (system.frame key)) :
    id ∈ (system.services key).fetchedConnIds ∪
      ((system.taken key).map Notification.id).toFinset := by
  rcases known with ⟨-, counted⟩ | ⟨queue, channel, msg, member, same, -⟩
  · exact Finset.mem_union_left _ counted
  · refine Finset.mem_union_right _ (List.mem_toFinset.mpr (List.mem_map.mpr ⟨msg, ?_, same⟩))
    have nonempty : (system.services key).sendConnIds.Nonempty := ⟨id, (sound.receiver waiting).mp sent⟩
    rw [System.taken, if_pos ⟨waiting, nonempty⟩, show system.notifiers key.idx = some queue from channel]
    exact member

theorem System.Kept.step_same {system : System} (kept : system.Kept) (sound : system.Sound)
    {input : Input} (routes : system.Routes input) {key : ServiceKey}
    (turn : (system.services key).SameTurn ((system.step input).services key))
    (receives : (system.services key).receivers.isSome) {id : Int}
    (sent : system.frame key ∈ ((system.step input).connections id).sent)
    (notified : ((system.step input).connections id).Notified (system.frame key)) :
    ((system.services key).stage = .waiting ∧ id ∈ (system.services key).fetchedConnIds) ∨
      (system.step input).Announced id (system.frame key) := by
  have before := System.sent_step (stage_of_receivers receives) sent
  have pending : system.Pending (system.frame key) := ⟨rfl, receives⟩
  by_cases old : (system.connections id).Notified (system.frame key)
  · rcases kept key receives id before old with counted | announced
    · exact .inl counted
    · rcases system.announced_step announced input with
        still | ⟨other, rfl, idx, msg, took, rfl, means⟩
      · exact .inr still
      · refine .inl ?_
        by_cases same : other = key
        · subst same
          have waiting := System.taken_waiting took
          have fetched := turn.fetchedConnIds
          dsimp only [System.step] at fetched
          rw [System.tryWaitNext_services, if_pos (And.intro rfl waiting)] at fetched
          refine ⟨waiting, fetched ▸ Finset.mem_union_right _ ?_⟩
          exact List.mem_toFinset.mpr (List.mem_map_of_mem took)
        · exact routes msg took _ before (Ne.symm same) idx.symm pending means
  · exact .inr (sound.announced routes pending old notified)

theorem System.Kept.step {system : System} (kept : system.Kept) (sound : system.Sound)
    {input : Input} (routes : system.Routes input) : (system.step input).Kept := by
  intro key receives id sent notified
  have pends := system.pends key input receives
  have frames : ((system.step input).services key).number = (system.services key).number →
      (system.step input).frame key = system.frame key := fun number => System.frame_eq number
  have same : (system.services key).SameTurn ((system.step input).services key) →
      (system.services key).receivers.isSome →
      system.frame key ∈ ((system.step input).connections id).sent →
      ((system.step input).connections id).Notified (system.frame key) →
      ((system.services key).stage = .waiting ∧ id ∈ (system.services key).fetchedConnIds) ∨
        (system.step input).Announced id (system.frame key) :=
    fun turn receives => kept.step_same sound routes turn receives
  generalize (system.step input).services key = after at pends receives frames same ⊢
  cases pends with
  | same turn =>
      rw [turn.receivers] at receives
      rw [frames turn.number] at sent notified ⊢
      rw [turn.stage, turn.fetchedConnIds]
      exact same turn receives sent notified
  | sent encoded looping stage number =>
      rw [frames number] at notified
      have changes := system.changes id (.handleOneFrame key encoded)
      generalize (system.step (.handleOneFrame key encoded)).connections id = after at changes notified
      have old : (system.connections id).Notified (system.frame key) := by
        cases changes with
        | same => exact notified
        | queued => exact notified
      exact absurd ((sound.known id).sent_of_notified old) (sound.fresh looping id)
  | set connIds before stage number sendConnIds fetchedConnIds =>
      rw [frames number, system.connections_setSend] at sent notified
      rw [frames number]
      have receives : (system.services key).receivers.isSome := by
        rw [VideoService.receivers, before]
        rfl
      rcases kept key receives id sent notified with ⟨waiting, -⟩ | announced
      · rw [before] at waiting
        cases waiting
      · rcases system.announced_step announced (.setSend key) with still | ⟨other, waits, -⟩
        · exact .inr still
        · cases waits
  | waited before stage number sendConnIds fetchedConnIds =>
      rw [frames number, system.connections_tryWaitNext] at sent notified
      have receives : (system.services key).receivers.isSome := by
        rw [VideoService.receivers, before]
        rfl
      refine .inl ⟨stage, ?_⟩
      rw [fetchedConnIds]
      exact sound.counts before sent (kept key receives id sent notified)

theorem kept_run (inputs : List Input) (routes : notifiers.Guarded System.Routes {} inputs) :
    (notifiers.run {} inputs).1.Sound ∧ (notifiers.run {} inputs).1.Kept :=
  notifiers.run_invariant System.Routes (fun system _ => system.Sound ∧ system.Kept)
    (fun _ _ input routes holds => ⟨holds.1.step input, holds.2.step holds.1 routes⟩) {} [] inputs
    ⟨sound_new, fun _ receives => by cases receives⟩ routes

/-- A wait ends as soon as all receivers of the frame have notified for it, where no notification
that is still needed misses the table or is taken by another service. -/
theorem wait_ends_when_notified (inputs : List Input)
    (routes : notifiers.Guarded System.Routes {} inputs) (before : List Input) (key : ServiceKey)
    (after : List Input) (split : inputs = before ++ .tryWaitNext key :: after)
    (waiting : ((notifiers.run {} before).1.services key).stage = .waiting)
    (notified : ∀ id, (notifiers.run {} before).1.frame key ∈
        ((notifiers.run {} before).1.connections id).sent →
      ((notifiers.run {} before).1.connections id).Notified
        ((notifiers.run {} before).1.frame key)) :
    (((notifiers.run {} before).1.tryWaitNext key).services key).stage = .unlisting := by
  rw [split, Machine.guarded_append] at routes
  obtain ⟨sound, kept⟩ := kept_run before routes.1
  generalize (notifiers.run {} before).1 = system at waiting notified sound kept ⊢
  have receives : (system.services key).receivers.isSome := by
    rw [VideoService.receivers, waiting]
    rfl
  have all : (system.services key).sendConnIds ⊆ (system.services key).fetchedConnIds ∪
      ((system.taken key).map Notification.id).toFinset := by
    intro id member
    have sent := (sound.receiver waiting).mpr member
    exact sound.counts waiting sent (kept key receives id sent (notified id sent))
  rw [System.tryWaitNext_services, if_pos (And.intro rfl waiting)]
  exact if_pos (Finset.card_le_card all)

def display0 : ServiceKey := ⟨.monitor, 0⟩

/-- A web client acknowledges the frame, and the loop of a native client ends. -/
def notifiedTurn : List Input :=
  [.newService display0, .run display0, .login 1 true, .subscribe display0 1,
    .subscribe display0 2, .handleOneFrame display0 true, .recvVideo 1, .setSend display0,
    .videoReceived 1, .close 2]

theorem wait_ends_notifiedTurn :
    (((notifiers.run {} notifiedTurn).1.tryWaitNext display0).services display0).stage =
      .unlisting := by
  have receivers : ((notifiers.run {} notifiedTurn).1.services display0).sendConnIds = {1, 2} := by
    decide +kernel
  refine wait_ends_when_notified (notifiedTurn ++ [.tryWaitNext display0]) (by decide +kernel)
    notifiedTurn display0 [] rfl (by decide +kernel) fun id sent => ?_
  rw [(sound_run notifiedTurn).receiver (by decide +kernel), receivers, Finset.mem_insert,
    Finset.mem_singleton] at sent
  rcases sent with rfl | rfl
  · decide +kernel
  · decide +kernel

/-- The loop of the only receiver ends before the service fills the table. -/
def earlyClose : List Input :=
  [.newService display0, .run display0, .subscribe display0 1, .handleOneFrame display0 true,
    .close 1, .setSend display0]

/-- The notification of a loop that ends before the table is filled is lost, and the wait goes on. -/
theorem early_close_lost :
    ¬ ∀ before key after, earlyClose ++ [.tryWaitNext display0] = before ++ .tryWaitNext key :: after →
      ((notifiers.run {} before).1.services key).stage = .waiting →
      (∀ id, (notifiers.run {} before).1.frame key ∈
          ((notifiers.run {} before).1.connections id).sent →
        ((notifiers.run {} before).1.connections id).Notified
          ((notifiers.run {} before).1.frame key)) →
      (((notifiers.run {} before).1.tryWaitNext key).services key).stage = .unlisting := by
  intro ends
  have receivers : ((notifiers.run {} earlyClose).1.services display0).sendConnIds = {1} := by
    decide +kernel
  have ended := ends earlyClose display0 [] rfl (by decide +kernel) fun id sent => by
    rw [(sound_run earlyClose).receiver (by decide +kernel), receivers, Finset.mem_singleton] at sent
    subst sent
    decide +kernel
  exact absurd ended (by decide +kernel)

end SubnetDesk.FrameNotifiers
