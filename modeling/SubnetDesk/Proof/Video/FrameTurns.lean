import SubnetDesk.Construction.Video.FrameNotifiers

namespace SubnetDesk.FrameNotifiers

/-- All frames that a connection knows were queued to it. -/
structure Connection.Known (connection : Connection) : Prop where
  rxVideo : connection.rxVideo ⊆ connection.sent
  received : connection.received ⊆ connection.sent
  fetched : connection.fetched ⊆ connection.sent
  acknowledged : connection.acknowledged ⊆ connection.sent
  closed : ∀ queued ∈ connection.closed, queued ⊆ connection.sent

/-- The frame of the turn exists once it was sent. -/
def Stage.Turned : Stage → Prop
  | .stopped | .looping => False
  | _ => True

/-- Notifications are never taken back. -/
structure Connection.Grows (before after : Connection) : Prop where
  fetched : before.fetched ⊆ after.fetched
  acknowledged : before.acknowledged ⊆ after.acknowledged
  closed : ∀ queued ∈ before.closed, queued ∈ after.closed

theorem Connection.Grows.refl' (connection : Connection) : connection.Grows connection :=
  ⟨List.Subset.refl _, List.Subset.refl _, fun _ ended => ended⟩

/-- A frame stays done. -/
theorem Connection.Done.grows {before after : Connection} {frame : Frame}
    (done : before.Done frame) (grows : before.Grows after) : after.Done frame := by
  rcases done with fetch | ack | ended
  · exact .inl (grows.fetched fetch)
  · exact .inr (.inl (grows.acknowledged ack))
  · obtain ⟨queued, closed⟩ := Option.isSome_iff_exists.mp ended
    exact .inr (.inr (Option.isSome_iff_exists.mpr ⟨queued, grows.closed queued closed⟩))

/-- A queued frame is kept. -/
theorem Connection.queue_grows (connection : Connection) (frame : Frame) :
    connection.Grows (connection.queue frame) :=
  ⟨List.Subset.refl _, List.Subset.refl _, fun _ ended => ended⟩

/-- A received frame is kept. -/
theorem Connection.recv_grows (connection : Connection) (frame : Frame) :
    connection.Grows (connection.recv frame) := by
  refine ⟨?_, List.Subset.refl _, fun _ ended => ended⟩
  dsimp only [Connection.recv]
  split
  next => exact List.Subset.refl _
  next => exact List.subset_append_left _ _

/-- An acknowledgement is kept. -/
theorem Connection.acknowledge_grows (connection : Connection) :
    connection.Grows connection.acknowledge :=
  ⟨List.Subset.refl _, List.subset_append_left _ _, fun _ ended => ended⟩

/-- The end of a connection loses no frame. -/
theorem Connection.finish_grows {connection : Connection} (open_ : connection.closed = none) :
    connection.Grows connection.finish :=
  ⟨List.Subset.refl _, List.Subset.refl _, fun _ ended => absurd (open_ ▸ ended) (by simp)⟩

/-- Frames have the numbers of past turns, or the one of a turn whose frame was sent, and the
receivers are the connections that the frame was queued to. -/
structure TurnSound (connections : Int → Connection) (key : ServiceKey) (service : VideoService) :
    Prop where
  numbered : ∀ id, ∀ frame ∈ (connections id).sent, frame.service = key →
    frame.number < service.number ∨ (frame.number = service.number ∧ service.stage.Turned)
  receivers : ∀ connIds ∈ service.receivers, ∀ id,
    ⟨key, service.number⟩ ∈ (connections id).sent ↔ id ∈ connIds

/-- A notification in a channel is only sent when it is true. -/
structure System.Sound (system : System) : Prop where
  known : ∀ id, (system.connections id).Known
  honest : ∀ idx, ∀ queue ∈ system.notifiers idx, ∀ msg ∈ queue, ∀ frame, msg.Means frame →
    (system.connections msg.id).Done frame
  listening : ∀ key, (system.services key).stage ≠ .stopped → (system.notifiers key.idx).isSome
  turns : ∀ key, TurnSound system.connections key (system.services key)

/-- A new system is sound. -/
theorem sound_new : System.Sound {} := by
  refine ⟨fun id => ?_, ?_, fun key running => absurd rfl running, fun key => ?_⟩
  · constructor <;> simp
  · intro idx queue member
    cases member
  · constructor
    · intro id frame member
      cases member
    · intro connIds member
      cases member

/-- A service changes soundly in its own turn. -/
theorem System.Sound.modifyService {system : System} (sound : system.Sound) {key : ServiceKey}
    {f : VideoService → VideoService}
    (listening : (f (system.services key)).stage ≠ .stopped → (system.notifiers key.idx).isSome)
    (turn : TurnSound system.connections key (f (system.services key))) :
    (system.modifyService key f).Sound := by
  refine ⟨sound.known, sound.honest, ?_, ?_⟩
  · intro other running
    dsimp only [System.modifyService] at running ⊢
    by_cases same : other = key
    · subst same
      rw [Function.update_self] at running
      exact listening running
    · rw [Function.update_of_ne same] at running
      exact sound.listening other running
  · intro other
    dsimp only [System.modifyService]
    by_cases same : other = key
    · subst same
      rw [Function.update_self]
      exact turn
    · rw [Function.update_of_ne same]
      exact sound.turns other

/-- Between two turns all frames of a service have the numbers of past turns. -/
theorem TurnSound.past {connections : Int → Connection} {key : ServiceKey} {service : VideoService}
    (turn : TurnSound connections key service) (looping : service.stage = .looping) {id : Int}
    {frame : Frame} (member : frame ∈ (connections id).sent) (owner : frame.service = key) :
    frame.number < service.number := by
  rcases turn.numbered id frame member owner with past | ⟨-, turned⟩
  · exact past
  · rw [looping] at turned
    exact turned.elim

/-- A service whose turn and stage are as before is as sound as before. -/
theorem TurnSound.same {connections : Int → Connection} {key : ServiceKey}
    {service next : VideoService} (turn : TurnSound connections key service)
    (number : next.number = service.number) (stage : next.stage = service.stage)
    (sendConnIds : next.sendConnIds = service.sendConnIds) : TurnSound connections key next := by
  have receivers : next.receivers = service.receivers := by
    rw [VideoService.receivers, VideoService.receivers, stage, sendConnIds]
  constructor
  · rw [number, stage]
    exact turn.numbered
  · rw [number, receivers]
    exact turn.receivers

/-- A stage after the wait leaves only the numbers. -/
theorem TurnSound.left {connections : Int → Connection} {key : ServiceKey}
    {service next : VideoService} (turn : TurnSound connections key service)
    (receivers : next.receivers = none)
    (number : service.number < next.number ∨
      (service.number = next.number ∧ (service.stage.Turned → next.stage.Turned))) :
    TurnSound connections key next := by
  refine ⟨fun id frame member same => ?_, fun connIds member => absurd (receivers ▸ member) (by simp)⟩
  rcases turn.numbered id frame member same with past | ⟨present, turned⟩
  · rcases number with later | ⟨equal, -⟩
    · exact .inl (past.trans later)
    · exact .inl (equal ▸ past)
  · rcases number with later | ⟨equal, kept⟩
    · exact .inl (present ▸ later)
    · exact .inr ⟨present.trans equal, kept turned⟩

/-- A turn depends on the frames that were sent. -/
theorem TurnSound.of_sent {before after : Int → Connection} {key : ServiceKey}
    {service : VideoService} (turn : TurnSound before key service)
    (sent : ∀ id, (after id).sent = (before id).sent) : TurnSound after key service := by
  refine ⟨fun id frame member => ?_, fun connIds receives id => ?_⟩
  · exact turn.numbered id frame (sent id ▸ member)
  · rw [sent id]
    exact turn.receivers connIds receives id

/-- The end of a turn is sound. -/
theorem System.Sound.stopTurn {system : System} (sound : system.Sound) {key : ServiceKey}
    (running : (system.services key).stage ≠ .stopped) {stage : Stage}
    (left : stage = .stopped ∨ stage = .looping) : (system.endTurn key stage).Sound := by
  have turn : (system.modifyService key fun service =>
      { service with
        stage := stage
        number := service.number + 1
        sendConnIds := ∅ }).Sound := by
    refine sound.modifyService (fun _ => sound.listening key running) ?_
    exact (sound.turns key).left (by rcases left with rfl | rfl <;> rfl) (.inl (Nat.lt_succ_self _))
  exact ⟨turn.known, turn.honest, turn.listening, turn.turns⟩

/-- A true notification may come to any channels. -/
theorem System.Sound.notified {system : System} (sound : system.Sound) (msg : Notification)
    (honest : ∀ frame, msg.Means frame → (system.connections msg.id).Done frame)
    {channels : Nat → Option (List Notification)}
    (grown : ∀ idx, channels idx = system.notifiers idx ∨
      channels idx = (system.notifiers idx).map (· ++ [msg])) :
    System.Sound { system with notifiers := channels } := by
  refine ⟨sound.known, ?_, ?_, sound.turns⟩
  · intro idx queue found other member
    dsimp only at found
    rcases grown idx with same | more
    · rw [same] at found
      exact sound.honest idx queue found other member
    · rw [more] at found
      obtain ⟨old, before, rfl⟩ := Option.mem_map.mp found
      rcases List.mem_append.mp member with early | late
      · exact sound.honest idx old before other early
      · rw [List.mem_singleton] at late
        subst late
        exact honest
  · intro key running
    have listening := sound.listening key running
    dsimp only
    rcases grown key.idx with same | more
    · rwa [same]
    · rwa [more, Option.isSome_map]

/-- A connection changes soundly if it grows. -/
theorem System.Sound.modifyConnection {system : System} (sound : system.Sound) {id : Int}
    {f : Connection → Connection} (sent : (f (system.connections id)).sent = (system.connections id).sent)
    (known : (f (system.connections id)).Known)
    (grows : (system.connections id).Grows (f (system.connections id))) :
    (system.modifyConnection id f).Sound := by
  have same : ∀ other, ((system.modifyConnection id f).connections other).sent =
      (system.connections other).sent := by
    intro other
    dsimp only [System.modifyConnection]
    by_cases equal : other = id
    · rw [equal, Function.update_self]
      exact sent
    · rw [Function.update_of_ne equal]
  refine ⟨?_, ?_, sound.listening, fun key => (sound.turns key).of_sent same⟩
  · intro other
    dsimp only [System.modifyConnection]
    by_cases equal : other = id
    · rw [equal, Function.update_self]
      exact known
    · rw [Function.update_of_ne equal]
      exact sound.known other
  · intro idx queue found msg member frame means
    have done := sound.honest idx queue found msg member frame means
    dsimp only [System.modifyConnection]
    by_cases equal : msg.id = id
    · rw [equal] at done ⊢
      rw [Function.update_self]
      exact done.grows grows
    · rw [Function.update_of_ne equal]
      exact done

/-- The frame of a turn that comes to its end was sent to no one before. -/
theorem System.Sound.fresh {system : System} (sound : system.Sound) {key : ServiceKey}
    (looping : (system.services key).stage = .looping) (id : Int) :
    system.frame key ∉ (system.connections id).sent := by
  intro member
  exact absurd ((sound.turns key).past looping member rfl) (Nat.lt_irrefl _)

/-- A frame is sent to the subscribers alone. -/
theorem System.sent_sendVideoFrame (system : System) (key : ServiceKey) (id : Int) (frame : Frame) :
    frame ∈ ((system.sendVideoFrame key).connections id).sent ↔
      frame ∈ (system.connections id).sent ∨
        (frame = system.frame key ∧ id ∈ (system.services key).subscribes) := by
  dsimp only [System.sendVideoFrame]
  split
  next live => simp [live, Connection.queue]
  next absent => simp [absent]

/-- The send of a frame is sound. -/
theorem System.Sound.sendVideoFrame {system : System} (sound : system.Sound) {key : ServiceKey}
    (looping : (system.services key).stage = .looping) :
    ((system.sendVideoFrame key).modifyService key fun service =>
      { service with
        stage := .sent service.subscribes
        sendConnIds := ∅ }).Sound := by
  have sent := system.sent_sendVideoFrame key
  refine ⟨?_, ?_, ?_, ?_⟩
  · intro id
    obtain ⟨rxVideo, received, fetched, acknowledged, closed⟩ := sound.known id
    dsimp only [System.modifyService, System.sendVideoFrame]
    split
    next =>
      exact ⟨List.append_subset.mpr ⟨List.subset_append_of_subset_left _ rxVideo,
          List.subset_append_right _ _⟩,
        List.subset_append_of_subset_left _ received,
        List.subset_append_of_subset_left _ fetched,
        List.subset_append_of_subset_left _ acknowledged,
        fun queued ended => List.subset_append_of_subset_left _ (closed queued ended)⟩
    next => exact ⟨rxVideo, received, fetched, acknowledged, closed⟩
  · intro idx queue found msg member frame means
    have done := sound.honest idx queue found msg member frame means
    dsimp only [System.modifyService, System.sendVideoFrame]
    split
    next => exact done
    next => exact done
  · intro other running
    refine sound.listening other ?_
    dsimp only [System.modifyService, System.sendVideoFrame] at running
    by_cases same : other = key
    · rw [same, looping]
      simp
    · rwa [Function.update_of_ne same] at running
  · intro other
    have turn := sound.turns other
    by_cases same : other = key
    · subst same
      dsimp only [System.modifyService]
      rw [Function.update_self]
      constructor
      · intro id frame member owner
        rcases (sent id frame).mp member with old | ⟨rfl, -⟩
        · exact .inl (turn.past looping old owner)
        · exact .inr ⟨rfl, trivial⟩
      · rintro connIds ⟨⟩ id
        refine (sent id _).trans ?_
        constructor
        · rintro (old | ⟨-, live⟩)
          · exact absurd old (sound.fresh looping id)
          · exact live
        · exact fun live => .inr ⟨rfl, live⟩
    · dsimp only [System.modifyService]
      rw [Function.update_of_ne same]
      have apart : ∀ id frame, frame.service = other →
          (frame ∈ ((system.sendVideoFrame key).connections id).sent ↔
            frame ∈ (system.connections id).sent) := by
        intro id frame owner
        rw [sent]
        refine or_iff_left ?_
        rintro ⟨rfl, -⟩
        exact same owner.symm
      constructor
      · intro id frame member owner
        exact turn.numbered id frame ((apart id frame owner).mp member) owner
      · intro connIds receives id
        exact (apart id _ rfl).trans (turn.receivers connIds receives id)

/-- The encoding of a frame is sound. -/
theorem System.Sound.handleOneFrame {system : System} (sound : system.Sound) (key : ServiceKey)
    (encoded : Bool) : (system.handleOneFrame key encoded).Sound := by
  unfold System.handleOneFrame
  split
  next looping =>
    cases encoded with
    | true => exact sound.sendVideoFrame looping
    | false =>
        have turn := sound.turns key
        rw [if_neg (by simp)]
        refine sound.modifyService (fun _ => sound.listening key (by simp [looping])) ⟨?_, ?_⟩
        · intro id frame member same
          exact .inl (turn.past looping member same)
        · rintro connIds ⟨⟩ id
          exact iff_of_false (sound.fresh looping id) (Finset.notMem_empty id)
  next => exact sound

/-- The note of the receivers is sound. -/
theorem System.Sound.setSend {system : System} (sound : system.Sound) (key : ServiceKey) :
    (system.setSend key).Sound := by
  unfold System.setSend
  split
  next connIds sent =>
    have turn := sound.turns key
    have next : (system.modifyService key fun service =>
        { service with
          stage := .waiting
          sendConnIds := connIds
          fetchedConnIds := ∅ }).Sound := by
      refine sound.modifyService (fun _ => sound.listening key (by simp [sent])) ⟨?_, ?_⟩
      · intro id frame member same
        exact (turn.numbered id frame member same).imp_right fun now => ⟨now.1, trivial⟩
      · rintro other ⟨⟩ id
        exact turn.receivers connIds (by rw [VideoService.receivers, sent]; rfl) id
    dsimp only
    split
    next => exact ⟨next.known, next.honest, next.listening, next.turns⟩
    next => exact next
  next => exact sound

/-- Emptying a channel hides no false notification. -/
theorem System.Sound.emptied {system : System} (sound : system.Sound) (idx : Nat) :
    System.Sound
      { system with
        notifiers := Function.update system.notifiers idx
          ((system.notifiers idx).map fun _ => []) } := by
  refine ⟨sound.known, ?_, ?_, sound.turns⟩
  · intro other queue found msg member
    dsimp only at found
    by_cases same : other = idx
    · subst same
      rw [Function.update_self] at found
      obtain ⟨_, -, rfl⟩ := Option.mem_map.mp found
      cases member
    · rw [Function.update_of_ne same] at found
      exact sound.honest other queue found msg member
  · intro key running
    have listening := sound.listening key running
    dsimp only
    by_cases same : key.idx = idx
    · rw [same] at listening ⊢
      rwa [Function.update_self, Option.isSome_map]
    · rwa [Function.update_of_ne same]

/-- A poll of the notifications is sound. -/
theorem System.Sound.tryWaitNext {system : System} (sound : system.Sound) (key : ServiceKey) :
    (system.tryWaitNext key).Sound := by
  unfold System.tryWaitNext
  split
  next waiting =>
    have turn := sound.turns key
    have listening := sound.listening key (by simp [waiting])
    have next : (system.modifyService key fun service =>
        { service with
          fetchedConnIds := (system.services key).fetchedConnIds ∪
            ((system.taken key).map Notification.id).toFinset
          stage :=
            if service.sendConnIds.card ≤ ((system.services key).fetchedConnIds ∪
              ((system.taken key).map Notification.id).toFinset).card then .unlisting
            else .waiting }).Sound := by
      refine sound.modifyService (fun _ => listening) ?_
      split
      next => exact turn.left rfl (.inr ⟨rfl, fun _ => trivial⟩)
      next => exact turn.same rfl waiting.symm rfl
    dsimp only
    split
    next => exact next.emptied key.idx
    next => exact next
  next => exact sound

/-- A received frame was queued. -/
theorem Connection.Known.recv {connection : Connection} (known : connection.Known) {frame : Frame}
    (first : connection.rxVideo.head? = some frame) : (connection.recv frame).Known := by
  obtain ⟨rxVideo, received, fetched, acknowledged, closed⟩ := known
  have sent := rxVideo (List.mem_of_mem_head? first)
  refine ⟨List.Subset.trans (List.tail_subset _) rxVideo, ?_, ?_, acknowledged, closed⟩
  · exact List.append_subset.mpr ⟨received, List.cons_subset.mpr ⟨sent, List.nil_subset _⟩⟩
  · dsimp only [Connection.recv]
    split
    next => exact fetched
    next => exact List.append_subset.mpr ⟨fetched, List.cons_subset.mpr ⟨sent, List.nil_subset _⟩⟩

/-- An acknowledged frame was received. -/
theorem Connection.Known.acknowledge {connection : Connection} (known : connection.Known) :
    connection.acknowledge.Known := by
  obtain ⟨rxVideo, received, fetched, acknowledged, closed⟩ := known
  refine ⟨rxVideo, List.Subset.trans (List.tail_subset _) received, fetched, ?_, closed⟩
  refine List.append_subset.mpr ⟨acknowledged, fun frame member => ?_⟩
  exact received (List.mem_of_mem_head? (Option.mem_toList.mp member))

theorem Connection.Known.finish {connection : Connection} (known : connection.Known) :
    connection.finish.Known := by
  obtain ⟨rxVideo, received, fetched, acknowledged, -⟩ := known
  refine ⟨rxVideo, received, fetched, acknowledged, ?_⟩
  rintro queued ⟨⟩
  exact List.Subset.refl _

theorem System.modifyConnection_self (system : System) (id : Int) (f : Connection → Connection) :
    (system.modifyConnection id f).connections id = f (system.connections id) :=
  Function.update_self id _ _

theorem System.modifyConnection_of_ne (system : System) {id other : Int} (apart : other ≠ id)
    (f : Connection → Connection) :
    (system.modifyConnection id f).connections other = system.connections other :=
  Function.update_of_ne apart _ _

/-- The receipt of a frame is sound. -/
theorem System.Sound.recvVideo {system : System} (sound : system.Sound) (id : Int) :
    (system.recvVideo id).Sound := by
  unfold System.recvVideo
  dsimp only
  split
  next frame open_ first =>
    have next := sound.modifyConnection (f := Connection.recv frame) rfl
      ((sound.known id).recv first) (Connection.recv_grows _ frame)
    split
    next => exact next
    next native =>
      refine next.notified ⟨id, .fetched frame⟩ ?_ fun idx => ?_
      · rintro other (⟨⟨⟩⟩ | means | means)
        · refine .inl ?_
          rw [System.modifyConnection_self, Connection.recv, if_neg native]
          exact List.mem_append_right _ (List.mem_singleton_self _)
        · cases means
        · cases means
      · by_cases same : idx = frame.service.idx
        · rw [same, Function.update_self]
          exact .inr rfl
        · rw [Function.update_of_ne same]
          exact .inl rfl
  next => exact sound

/-- A notification of a done frame is sound. -/
theorem System.Sound.byConnId {system : System} (sound : system.Sound) {msg : Notification}
    (honest : ∀ frame, msg.Means frame → (system.connections msg.id).Done frame) :
    (system.notifyVideoFrameFetchedByConnId msg).Sound :=
  sound.notified msg honest fun idx => by
    split
    next => exact .inr rfl
    next => exact .inl rfl

/-- The note of a client is sound. -/
theorem System.Sound.videoReceived {system : System} (sound : system.Sound) (id : Int) :
    (system.videoReceived id).Sound := by
  unfold System.videoReceived
  dsimp only
  split
  next => exact sound
  next =>
    refine System.Sound.byConnId (sound.modifyConnection rfl (sound.known id).acknowledge
      (Connection.acknowledge_grows _)) ?_
    rintro frame (means | means | means)
    · cases means
    · refine .inr (.inl ?_)
      rw [System.modifyConnection_self]
      refine List.mem_append_right _ ?_
      rw [Option.mem_toList]
      exact Origin.acknowledged.inj means
    · cases means

/-- The close of a connection is sound. -/
theorem System.Sound.close {system : System} (sound : system.Sound) (id : Int) :
    (system.close id).Sound := by
  unfold System.close
  split
  next => exact sound
  next open_ =>
    refine System.Sound.byConnId (sound.modifyConnection rfl (sound.known id).finish
      (Connection.finish_grows (Option.not_isSome_iff_eq_none.mp open_))) ?_
    rintro frame -
    refine .inr (.inr ?_)
    rw [System.modifyConnection_self]
    rfl

/-- A new service is sound. -/
theorem System.Sound.newService {system : System} (sound : system.Sound) (key : ServiceKey) :
    (system.step (.newService key)).Sound := by
  refine ⟨sound.known, ?_, ?_, sound.turns⟩
  · intro idx queue found msg member
    dsimp only [System.step] at found
    by_cases same : idx = key.idx
    · subst same
      rw [Function.update_self] at found
      cases found
      cases channel : system.notifiers key.idx with
      | none =>
          rw [channel] at member
          cases member
      | some old =>
          rw [channel] at member
          exact sound.honest key.idx old channel msg member
    · rw [Function.update_of_ne same] at found
      exact sound.honest idx queue found msg member
  · intro other running
    have listening := sound.listening other running
    dsimp only [System.step]
    by_cases same : other.idx = key.idx
    · rw [same, Function.update_self]
      rfl
    · rwa [Function.update_of_ne same]

/-- One input keeps a system sound. -/
theorem System.Sound.step {system : System} (sound : system.Sound) (input : Input) :
    (system.step input).Sound := by
  cases input with
  | newService key => exact sound.newService key
  | login id videoAckRequired =>
      obtain ⟨rxVideo, received, fetched, acknowledged, closed⟩ := sound.known id
      dsimp only [System.step]
      exact sound.modifyConnection rfl ⟨rxVideo, received, fetched, acknowledged, closed⟩
        ⟨List.Subset.refl _, List.Subset.refl _, fun _ ended => ended⟩
  | subscribe key id =>
      dsimp only [System.step]
      refine sound.modifyService (sound.listening key) ?_
      exact (sound.turns key).same rfl rfl rfl
  | unsubscribe key id =>
      dsimp only [System.step]
      refine sound.modifyService (sound.listening key) ?_
      exact (sound.turns key).same rfl rfl rfl
  | run key =>
      dsimp only [System.step]
      split
      next ready =>
        refine sound.modifyService (fun _ => ready.2) ((sound.turns key).left rfl (.inr ⟨rfl, ?_⟩))
        rw [ready.1]
        exact fun turned => turned
      next => exact sound
  | stop key =>
      dsimp only [System.step]
      split
      next => exact sound
      next running => exact sound.stopTurn running (.inl rfl)
  | handleOneFrame key encoded => exact sound.handleOneFrame key encoded
  | setSend key => exact sound.setSend key
  | tryWaitNext key => exact sound.tryWaitNext key
  | timeout key =>
      dsimp only [System.step]
      split
      next waiting =>
        exact sound.modifyService (fun _ => sound.listening key (by simp [waiting]))
          ((sound.turns key).left rfl (.inr ⟨rfl, fun _ => trivial⟩))
      next => exact sound
  | unlist key =>
      dsimp only [System.step]
      split
      next unlisting => exact sound.stopTurn (by simp [unlisting]) (.inr rfl)
      next => exact sound
  | recvVideo id => exact sound.recvVideo id
  | videoReceived id => exact sound.videoReceived id
  | close id => exact sound.close id

/-- Every run is sound. -/
theorem sound_run (inputs : List Input) : (notifiers.run {} inputs).1.Sound :=
  notifiers.run_invariant (fun _ _ => True) (fun system _ => system.Sound)
    (fun _ _ input _ sound => sound.step input) {} [] inputs sound_new (notifiers.guarded_true _ _)

/-- What a turn is made of, apart from the subscribers. -/
structure VideoService.SameTurn (before after : VideoService) : Prop where
  stage : after.stage = before.stage
  number : after.number = before.number
  sendConnIds : after.sendConnIds = before.sendConnIds
  fetchedConnIds : after.fetchedConnIds = before.fetchedConnIds

theorem VideoService.SameTurn.rfl' (service : VideoService) : service.SameTurn service :=
  ⟨rfl, rfl, rfl, rfl⟩

theorem System.modifyService_self (system : System) (key : ServiceKey)
    (f : VideoService → VideoService) :
    (system.modifyService key f).services key = f (system.services key) :=
  Function.update_self key _ _

theorem System.modifyService_of_ne (system : System) {key other : ServiceKey} (apart : other ≠ key)
    (f : VideoService → VideoService) :
    (system.modifyService key f).services other = system.services other :=
  Function.update_of_ne apart _ _

/-- The steps that leave a service in the wait for a frame, or before it. -/
inductive System.Pends (system : System) (key : ServiceKey) : Input → VideoService → Prop where
  | same {input : Input} {after : VideoService} (turn : (system.services key).SameTurn after) :
      Pends system key input after
  | sent (encoded : Bool) {after : VideoService}
      (looping : (system.services key).stage = .looping)
      (stage : after.stage = .sent (if encoded then (system.services key).subscribes else ∅))
      (number : after.number = (system.services key).number) :
      Pends system key (.handleOneFrame key encoded) after
  | set (connIds : Finset Int) {after : VideoService}
      (before : (system.services key).stage = .sent connIds) (stage : after.stage = .waiting)
      (number : after.number = (system.services key).number)
      (sendConnIds : after.sendConnIds = connIds) (fetchedConnIds : after.fetchedConnIds = ∅) :
      Pends system key (.setSend key) after
  | waited {after : VideoService} (before : (system.services key).stage = .waiting)
      (stage : after.stage = .waiting) (number : after.number = (system.services key).number)
      (sendConnIds : after.sendConnIds = (system.services key).sendConnIds)
      (fetchedConnIds : after.fetchedConnIds = (system.services key).fetchedConnIds ∪
        ((system.taken key).map Notification.id).toFinset) :
      Pends system key (.tryWaitNext key) after

/-- A poll changes its own service only. -/
theorem System.tryWaitNext_services (system : System) (key other : ServiceKey) :
    (system.tryWaitNext key).services other =
      if other = key ∧ (system.services key).stage = .waiting then
        { system.services key with
          fetchedConnIds := (system.services key).fetchedConnIds ∪
            ((system.taken key).map Notification.id).toFinset
          stage := if (system.services key).sendConnIds.card ≤
              ((system.services key).fetchedConnIds ∪
                ((system.taken key).map Notification.id).toFinset).card then .unlisting
            else .waiting }
      else system.services other := by
  unfold System.tryWaitNext
  by_cases waiting : (system.services key).stage = .waiting
  · rw [if_pos waiting]
    dsimp only
    by_cases same : other = key
    · subst same
      have waits : other = other ∧ (system.services other).stage = .waiting := ⟨rfl, waiting⟩
      rw [if_pos waits]
      split
      next =>
        dsimp only
        rw [System.modifyService_self]
      next => rw [System.modifyService_self]
    · have apart : ¬ (other = key ∧ (system.services key).stage = .waiting) :=
        fun both => same both.1
      rw [if_neg apart]
      split
      next =>
        dsimp only
        rw [System.modifyService_of_ne _ same]
      next => rw [System.modifyService_of_ne _ same]
  · rw [if_neg waiting, if_neg fun both => waiting both.2]

theorem System.setSend_services (system : System) {key : ServiceKey} {connIds : Finset Int}
    (sent : (system.services key).stage = .sent connIds) :
    (system.setSend key).services = (system.modifyService key fun service =>
      { service with
        stage := .waiting
        sendConnIds := connIds
        fetchedConnIds := ∅ }).services := by
  unfold System.setSend
  rw [sent]
  dsimp only
  split <;> rfl

/-- Without a sent frame nothing is noted. -/
theorem System.setSend_of_not_sent (system : System) {key : ServiceKey}
    (apart : ∀ connIds, (system.services key).stage ≠ .sent connIds) :
    system.setSend key = system := by
  unfold System.setSend
  split
  next connIds sent => exact absurd sent (apart connIds)
  next => rfl

/-- A receipt changes no service. -/
theorem System.recvVideo_services (system : System) (id : Int) :
    (system.recvVideo id).services = system.services := by
  unfold System.recvVideo
  dsimp only
  split
  next => split <;> rfl
  next => rfl

theorem System.videoReceived_services (system : System) (id : Int) :
    (system.videoReceived id).services = system.services := by
  unfold System.videoReceived
  dsimp only
  split <;> rfl

theorem System.close_services (system : System) (id : Int) :
    (system.close id).services = system.services := by
  unfold System.close
  split <;> rfl

/-- A service that waits has sent its frame. -/
theorem System.pends (system : System) (key : ServiceKey) (input : Input)
    (pending : ((system.step input).services key).receivers.isSome) :
    system.Pends key input ((system.step input).services key) := by
  have apart : ∀ (other : ServiceKey) (f : VideoService → VideoService), key ≠ other →
      system.Pends key input ((system.modifyService other f).services key) := by
    intro other f different
    rw [system.modifyService_of_ne different]
    exact .same (.rfl' _)
  have unchanged : system.Pends key input (system.services key) := .same (.rfl' _)
  cases input with
  | newService other => exact unchanged
  | login id videoAckRequired => exact unchanged
  | recvVideo id =>
      dsimp only [System.step]
      rw [system.recvVideo_services]
      exact unchanged
  | videoReceived id =>
      dsimp only [System.step]
      rw [system.videoReceived_services]
      exact unchanged
  | close id =>
      dsimp only [System.step]
      rw [system.close_services]
      exact unchanged
  | subscribe other id =>
      dsimp only [System.step]
      by_cases different : key = other
      · subst different
        rw [system.modifyService_self]
        exact .same ⟨rfl, rfl, rfl, rfl⟩
      · exact apart other _ different
  | unsubscribe other id =>
      dsimp only [System.step]
      by_cases different : key = other
      · subst different
        rw [system.modifyService_self]
        exact .same ⟨rfl, rfl, rfl, rfl⟩
      · exact apart other _ different
  | run other =>
      dsimp only [System.step] at pending ⊢
      split at pending
      next =>
        rw [if_pos (by assumption)]
        by_cases different : key = other
        · subst different
          rw [system.modifyService_self] at pending
          cases pending
        · exact apart other _ different
      next stays =>
        rw [if_neg stays]
        exact unchanged
  | stop other =>
      dsimp only [System.step] at pending ⊢
      split at pending
      next stopped =>
        rw [if_pos stopped]
        exact unchanged
      next running =>
        rw [if_neg running]
        by_cases different : key = other
        · subst different
          rw [System.endTurn, system.modifyService_self] at pending
          cases pending
        · unfold System.endTurn
          dsimp only
          exact apart other _ different
  | handleOneFrame other encoded =>
      dsimp only [System.step]
      unfold System.handleOneFrame
      by_cases looping : (system.services other).stage = .looping
      · rw [if_pos looping]
        by_cases different : key = other
        · subst different
          cases encoded with
          | true =>
              rw [if_pos rfl, System.modifyService_self]
              exact .sent true looping rfl rfl
          | false =>
              rw [if_neg (by simp), System.modifyService_self]
              exact .sent false looping rfl rfl
        · split
          next =>
            rw [System.modifyService_of_ne _ different]
            exact unchanged
          next => exact apart other _ different
      · rw [if_neg looping]
        exact unchanged
  | setSend other =>
      dsimp only [System.step]
      by_cases sent : ∃ connIds, (system.services other).stage = .sent connIds
      · obtain ⟨connIds, sent⟩ := sent
        rw [system.setSend_services sent]
        by_cases different : key = other
        · subst different
          rw [system.modifyService_self]
          exact .set connIds sent rfl rfl rfl rfl
        · exact apart other _ different
      · rw [system.setSend_of_not_sent fun connIds stage => sent ⟨connIds, stage⟩]
        exact unchanged
  | tryWaitNext other =>
      dsimp only [System.step] at pending ⊢
      rw [system.tryWaitNext_services] at pending ⊢
      by_cases waits : key = other ∧ (system.services other).stage = .waiting
      · obtain ⟨rfl, waiting⟩ := waits
        rw [if_pos ⟨rfl, waiting⟩] at pending ⊢
        refine .waited waiting ?_ rfl rfl rfl
        dsimp only
        split at pending
        next => cases pending
        next more => rw [if_neg more]
      · rw [if_neg waits]
        exact unchanged
  | timeout other =>
      dsimp only [System.step] at pending ⊢
      split at pending
      next waiting =>
        rw [if_pos waiting]
        by_cases different : key = other
        · subst different
          rw [system.modifyService_self] at pending
          cases pending
        · exact apart other _ different
      next stays =>
        rw [if_neg stays]
        exact unchanged
  | unlist other =>
      dsimp only [System.step] at pending ⊢
      split at pending
      next unlisting =>
        rw [if_pos unlisting]
        by_cases different : key = other
        · subst different
          rw [System.endTurn, system.modifyService_self] at pending
          cases pending
        · unfold System.endTurn
          dsimp only
          exact apart other _ different
      next stays =>
        rw [if_neg stays]
        exact unchanged

/-- What a step can do to a connection. -/
inductive System.Changes (system : System) (id : Int) : Input → Connection → Prop where
  | same {input : Input} : Changes system id input (system.connections id)
  | login (videoAckRequired : Bool) :
      Changes system id (.login id videoAckRequired)
        { system.connections id with videoAckRequired := videoAckRequired }
  | queued (key : ServiceKey) (looping : (system.services key).stage = .looping) :
      Changes system id (.handleOneFrame key true)
        ((system.connections id).queue (system.frame key))
  | fetched (frame : Frame) (running : (system.connections id).closed = none)
      (first : (system.connections id).rxVideo.head? = some frame) :
      Changes system id (.recvVideo id) ((system.connections id).recv frame)
  | acknowledged (running : (system.connections id).closed = none) :
      Changes system id (.videoReceived id) (system.connections id).acknowledge
  | finished (running : (system.connections id).closed = none) :
      Changes system id (.close id) (system.connections id).finish

/-- The changes of a connection in one input. -/
theorem System.changes (system : System) (id : Int) (input : Input) :
    system.Changes id input ((system.step input).connections id) := by
  have modified : ∀ (other : Int) (f : Connection → Connection),
      (id = other → system.Changes id input (f (system.connections id))) →
      system.Changes id input ((system.modifyConnection other f).connections id) := by
    intro other f changes
    by_cases same : id = other
    · subst same
      rw [system.modifyConnection_self]
      exact changes rfl
    · rw [system.modifyConnection_of_ne same]
      exact .same
  cases input with
  | newService key => exact .same
  | login other videoAckRequired =>
      dsimp only [System.step]
      refine modified other _ ?_
      rintro rfl
      exact .login videoAckRequired
  | subscribe key other => exact .same
  | unsubscribe key other => exact .same
  | run key =>
      dsimp only [System.step]
      split <;> exact .same
  | stop key =>
      dsimp only [System.step]
      split <;> exact .same
  | handleOneFrame key encoded =>
      dsimp only [System.step]
      unfold System.handleOneFrame
      split
      next looping =>
        cases encoded with
        | true =>
            rw [if_pos rfl]
            dsimp only [System.modifyService, System.sendVideoFrame]
            split
            next => exact .queued key looping
            next => exact .same
        | false => exact .same
      next => exact .same
  | setSend key =>
      dsimp only [System.step]
      unfold System.setSend
      split
      next =>
        dsimp only
        split <;> exact .same
      next => exact .same
  | tryWaitNext key =>
      dsimp only [System.step]
      unfold System.tryWaitNext
      split
      next =>
        dsimp only
        split <;> exact .same
      next => exact .same
  | timeout key =>
      dsimp only [System.step]
      split <;> exact .same
  | unlist key =>
      dsimp only [System.step]
      split <;> exact .same
  | recvVideo other =>
      dsimp only [System.step]
      unfold System.recvVideo
      dsimp only
      split
      next frame running first =>
        have taken : system.Changes id (.recvVideo other)
            ((system.modifyConnection other (Connection.recv frame)).connections id) := by
          refine modified other _ ?_
          rintro rfl
          exact .fetched frame running first
        split
        next => exact taken
        next => exact taken
      next => exact .same
  | videoReceived other =>
      dsimp only [System.step]
      unfold System.videoReceived
      dsimp only
      split
      next => exact .same
      next running =>
        refine modified other _ ?_
        rintro rfl
        exact .acknowledged (Option.not_isSome_iff_eq_none.mp running)
  | close other =>
      dsimp only [System.step]
      unfold System.close
      split
      next => exact .same
      next running =>
        refine modified other _ ?_
        rintro rfl
        exact .finished (Option.not_isSome_iff_eq_none.mp running)

/-- No step takes a notification of a connection back. -/
theorem System.grows (system : System) (input : Input) (id : Int) :
    (system.connections id).Grows ((system.step input).connections id) := by
  have changes := system.changes id input
  generalize (system.step input).connections id = after at changes ⊢
  cases changes with
  | same => exact .refl' _
  | login videoAckRequired => exact ⟨List.Subset.refl _, List.Subset.refl _, fun _ ended => ended⟩
  | queued key looping => exact Connection.queue_grows _ _
  | fetched frame running first => exact Connection.recv_grows _ frame
  | acknowledged running => exact Connection.acknowledge_grows _
  | finished running => exact Connection.finish_grows running

theorem System.frame_eq {system next : System} {key : ServiceKey}
    (number : (next.services key).number = (system.services key).number) :
    next.frame key = system.frame key := by
  rw [System.frame, System.frame, number]

/-- The notifications that a step puts into a channel. -/
inductive System.Puts (system : System) (idx : Nat) : Input → Notification → Prop where
  | fetched (id : Int) (frame : Frame) (here : frame.service.idx = idx)
      (running : (system.connections id).closed = none)
      (first : (system.connections id).rxVideo.head? = some frame)
      (native : (system.connections id).videoAckRequired = false) :
      Puts system idx (.recvVideo id) ⟨id, .fetched frame⟩
  | acknowledged (id : Int) (running : (system.connections id).closed = none)
      (listed : id ∈ system.displayConnIds idx) :
      Puts system idx (.videoReceived id)
        ⟨id, .acknowledged (system.connections id).received.head?⟩
  | closed (id : Int) (running : (system.connections id).closed = none)
      (listed : id ∈ system.displayConnIds idx) : Puts system idx (.close id) ⟨id, .closed⟩

/-- What a step can do to a channel. -/
inductive System.Queues (system : System) (idx : Nat) :
    Input → Option (List Notification) → Prop where
  | same {input : Input} : Queues system idx input (system.notifiers idx)
  | created (key : ServiceKey) (here : key.idx = idx) :
      Queues system idx (.newService key) (some ((system.notifiers idx).getD []))
  | put {input : Input} (msg : Notification) (puts : system.Puts idx input msg) :
      Queues system idx input ((system.notifiers idx).map (· ++ [msg]))
  | took (key : ServiceKey) (here : key.idx = idx)
      (waiting : (system.services key).stage = .waiting)
      (nonempty : (system.services key).sendConnIds.Nonempty) :
      Queues system idx (.tryWaitNext key) ((system.notifiers idx).map fun _ => [])

/-- The changes of a queue in one input. -/
theorem System.queues (system : System) (input : Input) (idx : Nat) :
    system.Queues idx input ((system.step input).notifiers idx) := by
  have byConnId : ∀ (next : System) (msg : Notification), next.notifiers = system.notifiers →
      next.displayConnIds = system.displayConnIds →
      (msg.id ∈ system.displayConnIds idx → system.Puts idx input msg) →
      system.Queues idx input ((next.notifyVideoFrameFetchedByConnId msg).notifiers idx) := by
    intro next msg channels table puts
    dsimp only [System.notifyVideoFrameFetchedByConnId]
    rw [channels, table]
    split
    next listed => exact .put msg (puts listed)
    next => exact .same
  cases input with
  | newService key =>
      dsimp only [System.step]
      by_cases equal : idx = key.idx
      · rw [equal, Function.update_self]
        exact .created key rfl
      · rw [Function.update_of_ne equal]
        exact .same
  | login id videoAckRequired => exact .same
  | subscribe key id => exact .same
  | unsubscribe key id => exact .same
  | run key =>
      dsimp only [System.step]
      split <;> exact .same
  | stop key =>
      dsimp only [System.step]
      split <;> exact .same
  | handleOneFrame key encoded =>
      dsimp only [System.step]
      unfold System.handleOneFrame
      split
      next => split <;> exact .same
      next => exact .same
  | setSend key =>
      dsimp only [System.step]
      unfold System.setSend
      split
      next =>
        dsimp only
        split <;> exact .same
      next => exact .same
  | tryWaitNext key =>
      dsimp only [System.step]
      unfold System.tryWaitNext
      split
      next waiting =>
        dsimp only
        split
        next nonempty =>
          dsimp only [System.modifyService]
          by_cases equal : idx = key.idx
          · subst equal
            rw [Function.update_self]
            exact .took key rfl waiting nonempty
          · rw [Function.update_of_ne equal]
            exact .same
        next => exact .same
      next => exact .same
  | timeout key =>
      dsimp only [System.step]
      split <;> exact .same
  | unlist key =>
      dsimp only [System.step]
      split <;> exact .same
  | recvVideo id =>
      dsimp only [System.step]
      unfold System.recvVideo
      dsimp only
      split
      next frame running first =>
        split
        next => exact .same
        next native =>
          dsimp only [System.notifyVideoFrameFetched, System.modifyConnection]
          by_cases equal : idx = frame.service.idx
          · rw [equal, Function.update_self]
            exact .put _ (.fetched id frame rfl running first (Bool.eq_false_iff.mpr native))
          · rw [Function.update_of_ne equal]
            exact .same
      next => exact .same
  | videoReceived id =>
      dsimp only [System.step]
      unfold System.videoReceived
      dsimp only
      split
      next => exact .same
      next running =>
        exact byConnId _ _ rfl rfl fun listed =>
          .acknowledged id (Option.not_isSome_iff_eq_none.mp running) listed
  | close id =>
      dsimp only [System.step]
      unfold System.close
      split
      next => exact .same
      next running =>
        exact byConnId _ _ rfl rfl fun listed =>
          .closed id (Option.not_isSome_iff_eq_none.mp running) listed

/-- A frame of a turn that has begun is queued to no one else. -/
theorem System.sent_step {system : System} {input : Input} {id : Int} {frame : Frame}
    (running : (system.services frame.service).stage ≠ .looping)
    (sent : frame ∈ ((system.step input).connections id).sent) :
    frame ∈ (system.connections id).sent := by
  have changes := system.changes id input
  generalize (system.step input).connections id = after at changes sent
  cases changes with
  | queued key looping =>
      rcases List.mem_append.mp sent with old | new
      · exact old
      · rw [List.mem_singleton] at new
        subst new
        exact absurd looping running
  | _ => exact sent

/-- A connection that was sent the frame of a wait is one of its receivers. -/
theorem System.Sound.receiver {system : System} (sound : system.Sound) {key : ServiceKey} {id : Int}
    (waiting : (system.services key).stage = .waiting) :
    system.frame key ∈ (system.connections id).sent ↔ id ∈ (system.services key).sendConnIds := by
  refine (sound.turns key).receivers _ ?_ id
  rw [VideoService.receivers, waiting]
  rfl

theorem VideoService.SameTurn.receivers {before after : VideoService} (turn : before.SameTurn after) :
    after.receivers = before.receivers := by
  rw [VideoService.receivers, VideoService.receivers, turn.stage, turn.sendConnIds]

/-- A service with receivers does not loop. -/
theorem stage_of_receivers {service : VideoService} (receives : service.receivers.isSome) :
    service.stage ≠ .looping := by
  intro looping
  rw [VideoService.receivers, looping] at receives
  cases receives

/-- Only a waiting service takes notifications. -/
theorem System.taken_waiting {system : System} {key : ServiceKey} {msg : Notification}
    (took : msg ∈ system.taken key) : (system.services key).stage = .waiting := by
  unfold System.taken at took
  split at took
  next waits => exact waits.1
  next => cases took

/-- The connections do not change while the service prepares its wait or waits. -/
theorem System.connections_setSend (system : System) (key : ServiceKey) (id : Int) :
    ((system.step (.setSend key)).connections id) = system.connections id := by
  have changes := system.changes id (.setSend key)
  generalize (system.step (.setSend key)).connections id = after at changes ⊢
  cases changes
  rfl

theorem System.connections_tryWaitNext (system : System) (key : ServiceKey) (id : Int) :
    ((system.step (.tryWaitNext key)).connections id) = system.connections id := by
  have changes := system.changes id (.tryWaitNext key)
  generalize (system.step (.tryWaitNext key)).connections id = after at changes ⊢
  cases changes
  rfl

end SubnetDesk.FrameNotifiers
