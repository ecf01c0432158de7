import SubnetDesk.Proof.Video.FrameTurns

namespace SubnetDesk.FrameNotifiers

/-- A notification comes from a connection that every frame that is waited for at this index was sent
to. It is meant for the frame, or the connection has notified before. -/
def System.Fits (system : System) (idx : Nat) (msg : Notification) : Prop :=
  ∀ key : ServiceKey, key.idx = idx → ∀ connIds ∈ (system.services key).receivers,
    connIds.Nonempty →
      system.frame key ∈ (system.connections msg.id).sent ∧
        (msg.Means (system.frame key) ∨ (system.connections msg.id).Done (system.frame key))

/-- A step puts only fitting notifications into the channels, and a service sends a frame only while
its channel is empty. -/
structure System.NotifiesOwn (system : System) (input : Input) : Prop where
  fits : ∀ idx msg, system.Puts idx input msg → system.Fits idx msg
  empty : ∀ key, input = .handleOneFrame key true → (system.services key).stage = .looping →
    ∀ queue ∈ system.notifiers key.idx, queue = []

/-- Only connections count that the frame was sent to and that have fetched or acknowledged it or have
ended, and a wait that ends finds this of all its receivers. -/
def System.WaitsForAll (system : System) (key : ServiceKey) : Prop :=
  (system.services key).stage = .waiting →
    (∀ id ∈ ((system.tryWaitNext key).services key).fetchedConnIds,
      system.frame key ∈ (system.connections id).sent ∧
        (system.connections id).Done (system.frame key)) ∧
    (((system.tryWaitNext key).services key).stage = .unlisting →
      ∀ id, system.frame key ∈ (system.connections id).sent →
        (system.connections id).Done (system.frame key))

/-- Whoever counts was sent the frame and is done with it. -/
def System.Counted (system : System) : Prop :=
  ∀ key, (system.services key).stage = .waiting → ∀ id ∈ (system.services key).fetchedConnIds,
    id ∈ (system.services key).sendConnIds ∧ (system.connections id).Done (system.frame key)

/-- The channel of a frame that is waited for holds notifications of done receivers only. -/
def System.Owned (system : System) : Prop :=
  ∀ key, ∀ connIds ∈ (system.services key).receivers, connIds.Nonempty →
    ∀ queue ∈ system.notifiers key.idx, ∀ msg ∈ queue,
      system.frame key ∈ (system.connections msg.id).sent ∧
        (system.connections msg.id).Done (system.frame key)

/-- What stands in a channel after a step stood there before or was put there by the step. -/
theorem System.queued_step {system : System} {input : Input} {idx : Nat}
    {queue : List Notification} (channel : queue ∈ (system.step input).notifiers idx)
    {msg : Notification} (member : msg ∈ queue) :
    (∃ old ∈ system.notifiers idx, msg ∈ old) ∨ system.Puts idx input msg := by
  have queues := system.queues input idx
  generalize (system.step input).notifiers idx = after at queues channel
  cases queues with
  | same => exact .inl ⟨queue, channel, member⟩
  | created key here =>
      cases before : system.notifiers idx with
      | none =>
          rw [before] at channel
          cases channel
          cases member
      | some old =>
          rw [before] at channel
          cases channel
          exact .inl ⟨old, rfl, member⟩
  | put other puts =>
      obtain ⟨old, before, rfl⟩ := Option.mem_map.mp channel
      rcases List.mem_append.mp member with early | late
      · exact .inl ⟨old, before, early⟩
      · rw [List.mem_singleton.mp late]
        exact .inr puts
  | took key here waiting nonempty =>
      obtain ⟨old, before, rfl⟩ := Option.mem_map.mp channel
      cases member

/-- No step takes a frame out of the list of a connection. -/
theorem System.sent_grows (system : System) (input : Input) {id : Int} {frame : Frame}
    (sent : frame ∈ (system.connections id).sent) :
    frame ∈ ((system.step input).connections id).sent := by
  have changes := system.changes id input
  generalize (system.step input).connections id = after at changes ⊢
  cases changes with
  | queued key looping => exact List.mem_append_left _ sent
  | _ => exact sent

/-- A frame that was waited for before keeps a channel of done receivers. -/
theorem System.Owned.step_same {system : System} (owned : system.Owned) (sound : system.Sound)
    {input : Input} (own : system.NotifiesOwn input) {key : ServiceKey} {connIds : Finset Int}
    (receives : connIds ∈ (system.services key).receivers) (nonempty : connIds.Nonempty)
    {queue : List Notification} (channel : queue ∈ (system.step input).notifiers key.idx)
    {msg : Notification} (member : msg ∈ queue) :
    system.frame key ∈ ((system.step input).connections msg.id).sent ∧
      ((system.step input).connections msg.id).Done (system.frame key) := by
  have grows := system.grows input msg.id
  rcases System.queued_step channel member with ⟨old, before, early⟩ | puts
  · obtain ⟨sent, done⟩ := owned key connIds receives nonempty old before msg early
    exact ⟨system.sent_grows input sent, done.grows grows⟩
  · obtain ⟨sent, means | done⟩ := own.fits key.idx msg puts key rfl connIds receives nonempty
    · exact ⟨system.sent_grows input sent,
        (sound.step input).honest key.idx queue channel msg member _ means⟩
    · exact ⟨system.sent_grows input sent, done.grows grows⟩

/-- Fitting notifications keep the channels of the frames that are waited for. -/
theorem System.Owned.step {system : System} (owned : system.Owned) (sound : system.Sound)
    {input : Input} (own : system.NotifiesOwn input) : (system.step input).Owned := by
  intro key connIds receives nonempty queue channel msg member
  have pends := system.pends key input (Option.isSome_of_mem receives)
  generalize next : (system.step input).services key = after at pends receives
  have same : after.number = (system.services key).number →
      (system.step input).frame key = system.frame key := by
    intro number
    exact System.frame_eq (by rw [next]; exact number)
  cases pends with
  | same turn =>
      rw [turn.receivers] at receives
      rw [same turn.number]
      exact owned.step_same sound own receives nonempty channel member
  | sent encoded looping stage number =>
      rw [VideoService.receivers, stage] at receives
      cases receives
      cases encoded with
      | true =>
          rcases System.queued_step channel member with ⟨old, before, early⟩ | puts
          · rw [own.empty key rfl looping old before] at early
            cases early
          · cases puts
      | false => exact absurd nonempty (by simp)
  | set before started stage number sendConnIds fetchedConnIds =>
      rw [VideoService.receivers, stage, sendConnIds] at receives
      rw [same number]
      refine owned.step_same sound own ?_ nonempty channel member
      rw [VideoService.receivers, started]
      exact receives
  | waited before stage number sendConnIds fetchedConnIds =>
      rw [VideoService.receivers, stage, sendConnIds] at receives
      rw [same number]
      refine owned.step_same sound own ?_ nonempty channel member
      rw [VideoService.receivers, before]
      exact receives

/-- What a service takes comes from done receivers. -/
theorem System.Owned.taken {system : System} (owned : system.Owned) (sound : system.Sound)
    {key : ServiceKey} {msg : Notification} (member : msg ∈ system.taken key) :
    msg.id ∈ (system.services key).sendConnIds ∧
      (system.connections msg.id).Done (system.frame key) := by
  unfold System.taken at member
  split at member
  next waits =>
    cases channel : system.notifiers key.idx with
    | none =>
        rw [channel] at member
        cases member
    | some queue =>
        rw [channel] at member
        obtain ⟨sent, done⟩ := owned key (system.services key).sendConnIds
          (by rw [VideoService.receivers, waits.1]; rfl) waits.2 queue channel msg member
        exact ⟨(sound.receiver waits.1).mp sent, done⟩
  next => cases member

/-- The connections that count after a poll are done receivers. -/
theorem System.Owned.waited {system : System} (owned : system.Owned) (sound : system.Sound)
    (counted : system.Counted) {key : ServiceKey}
    (waiting : (system.services key).stage = .waiting) :
    ∀ id ∈ (system.services key).fetchedConnIds ∪
        ((system.taken key).map Notification.id).toFinset,
      id ∈ (system.services key).sendConnIds ∧
        (system.connections id).Done (system.frame key) := by
  intro id member
  rcases Finset.mem_union.mp member with before | now
  · exact counted key waiting id before
  · rw [List.mem_toFinset, List.mem_map] at now
    obtain ⟨msg, took, rfl⟩ := now
    exact owned.taken sound took

/-- Channels of done receivers keep the counts right. -/
theorem System.Counted.step {system : System} (counted : system.Counted) (owned : system.Owned)
    (sound : system.Sound) (input : Input) : (system.step input).Counted := by
  intro key waiting id member
  have grows := system.grows input id
  have pends := system.pends key input (by rw [VideoService.receivers, waiting]; rfl)
  generalize next : (system.step input).services key = after at pends waiting member ⊢
  have same : after.number = (system.services key).number →
      (system.step input).frame key = system.frame key := by
    intro number
    exact System.frame_eq (by rw [next]; exact number)
  cases pends with
  | same turn =>
      rw [turn.stage] at waiting
      rw [turn.fetchedConnIds] at member
      rw [turn.sendConnIds, same turn.number]
      obtain ⟨receiver, done⟩ := counted key waiting id member
      exact ⟨receiver, done.grows grows⟩
  | sent encoded looping stage number =>
      rw [stage] at waiting
      cases waiting
  | set connIds before stage number sendConnIds fetchedConnIds =>
      rw [fetchedConnIds] at member
      exact absurd member (Finset.notMem_empty id)
  | waited before stage number sendConnIds fetchedConnIds =>
      rw [fetchedConnIds] at member
      rw [sendConnIds, same number]
      obtain ⟨receiver, done⟩ := owned.waited sound counted before id member
      exact ⟨receiver, done.grows grows⟩

/-- A wait counts done receivers only, and it ends with all of them counted. -/
theorem System.Owned.waitsForAll {system : System} (owned : system.Owned) (sound : system.Sound)
    (counted : system.Counted) (key : ServiceKey) : system.WaitsForAll key := by
  intro waiting
  have inside := owned.waited sound counted waiting
  rw [System.tryWaitNext_services, if_pos ⟨rfl, waiting⟩]
  dsimp only
  refine ⟨fun id member => ?_, fun ends id sent => ?_⟩
  · obtain ⟨receiver, done⟩ := inside id member
    exact ⟨(sound.receiver waiting).mpr receiver, done⟩
  · split at ends
    next enough =>
      have all := Finset.eq_of_subset_of_card_le (fun id member => (inside id member).1) enough
      refine (inside id ?_).2
      rw [all]
      exact (sound.receiver waiting).mp sent
    next => cases ends

/-- A system without services waits for nothing. -/
theorem counted_new : System.Owned {} ∧ System.Counted {} := by
  refine ⟨fun key connIds receives => ?_, fun key waiting => ?_⟩
  · cases receives
  · cases waiting

/-- Fitting notifications keep the counts right along a run. -/
theorem counted_run (inputs : List Input)
    (own : notifiers.Guarded System.NotifiesOwn {} inputs) :
    (notifiers.run {} inputs).1.Sound ∧ (notifiers.run {} inputs).1.Owned ∧
      (notifiers.run {} inputs).1.Counted :=
  notifiers.run_invariant System.NotifiesOwn
    (fun system _ => system.Sound ∧ system.Owned ∧ system.Counted)
    (fun _ _ input own ⟨sound, owned, counted⟩ =>
      ⟨sound.step input, owned.step sound own, counted.step owned sound input⟩)
    {} [] inputs ⟨sound_new, counted_new⟩ own

/-- Where every notification fits the frames that are waited for and no frame is sent while one is
left, a wait counts and ends for nothing but its own frame. -/
theorem waits_for_all (inputs : List Input)
    (own : notifiers.Guarded System.NotifiesOwn {} inputs) :
    ∀ before key after, inputs = before ++ .tryWaitNext key :: after →
      (notifiers.run {} before).1.WaitsForAll key := by
  intro before key after split
  rw [split, Machine.guarded_append] at own
  obtain ⟨sound, owned, counted⟩ := counted_run before own.1
  exact owned.waitsForAll sound counted key

def monitor0 : ServiceKey := ⟨.monitor, 0⟩

/-- A web client acknowledges the frame twice, and a native client fetches it. -/
def timelyFetch : List Input :=
  [.newService monitor0, .run monitor0, .login 1 true, .subscribe monitor0 1,
    .subscribe monitor0 2, .handleOneFrame monitor0 true, .recvVideo 1, .setSend monitor0,
    .videoReceived 1, .videoReceived 1, .recvVideo 2]

/-- These inputs put nothing into a channel and send no frame. -/
def Input.silent : Input → Bool
  | .handleOneFrame _ _ | .recvVideo _ | .videoReceived _ | .close _ => false
  | _ => true

theorem System.NotifiesOwn.of_silent {system : System} {input : Input}
    (silent : input.silent = true) : system.NotifiesOwn input := by
  refine ⟨fun idx msg puts => ?_, fun key same => ?_⟩
  · cases puts <;> cases silent
  · subst same
    cases silent

/-- A frame may be sent into an empty channel. -/
theorem System.NotifiesOwn.handleOneFrame {system : System} {key : ServiceKey} {encoded : Bool}
    (empty : ∀ queue ∈ system.notifiers key.idx, queue = []) :
    system.NotifiesOwn (.handleOneFrame key encoded) := by
  refine ⟨fun idx msg puts => ?_, fun other same looping => ?_⟩
  · cases puts
  · cases same
    exact empty

/-- A fetch of a native client has to fit at the index of the frame. -/
theorem System.NotifiesOwn.recvVideo {system : System} {id : Int}
    (fits : ∀ frame, (system.connections id).rxVideo.head? = some frame →
      (system.connections id).videoAckRequired = false →
        system.Fits frame.service.idx ⟨id, .fetched frame⟩) :
    system.NotifiesOwn (.recvVideo id) := by
  refine ⟨fun idx msg puts => ?_, fun other same => ?_⟩
  · cases puts with
    | fetched _ frame here running first native =>
        subst here
        exact fits frame first native
  · cases same

/-- An acknowledgement has to fit at every index that its connection watches. -/
theorem System.NotifiesOwn.videoReceived {system : System} {id : Int}
    (fits : ∀ idx, id ∈ system.displayConnIds idx →
      system.Fits idx ⟨id, .acknowledged (system.connections id).received.head?⟩) :
    system.NotifiesOwn (.videoReceived id) := by
  refine ⟨fun idx msg puts => ?_, fun other same => ?_⟩
  · cases puts with
    | acknowledged _ running listed => exact fits idx listed
  · cases same

/-- At one index there are a monitor and a camera. -/
theorem System.fits_of_sources {system : System} {idx : Nat} {msg : Notification}
    (each : ∀ source, (system.services ⟨source, idx⟩).receivers = none ∨
      (system.frame ⟨source, idx⟩ ∈ (system.connections msg.id).sent ∧
        (msg.Means (system.frame ⟨source, idx⟩) ∨
          (system.connections msg.id).Done (system.frame ⟨source, idx⟩)))) :
    system.Fits idx msg := by
  rintro ⟨source, _⟩ rfl connIds receives -
  refine (each source).resolve_left fun none => ?_
  rw [none] at receives
  cases receives

theorem waits_for_all_timelyFetch :
    (notifiers.run {} timelyFetch).1.WaitsForAll monitor0 ∧
      (((notifiers.run {} timelyFetch).1.tryWaitNext monitor0).services monitor0).stage =
        .unlisting := by
  refine ⟨waits_for_all (timelyFetch ++ [.tryWaitNext monitor0]) ?_ timelyFetch monitor0 [] rfl,
    by decide +kernel⟩
  refine ⟨.of_silent rfl, .of_silent rfl, .of_silent rfl, .of_silent rfl, .of_silent rfl,
    .handleOneFrame ?_, .recvVideo ?_, .of_silent rfl, .videoReceived ?_, .videoReceived ?_,
    .recvVideo ?_, .of_silent rfl, trivial⟩
  · rintro queue ⟨⟩
    rfl
  · intro frame first native
    exact absurd native (by decide +kernel)
  · intro idx listed
    cases idx with
    | zero => exact System.fits_of_sources fun source => by cases source <;> decide +kernel
    | succ idx => exact absurd listed (Finset.notMem_empty 1)
  · intro idx listed
    cases idx with
    | zero => exact System.fits_of_sources fun source => by cases source <;> decide +kernel
    | succ idx => exact absurd listed (Finset.notMem_empty 1)
  · intro frame first native
    cases first
    exact System.fits_of_sources fun source => by cases source <;> decide +kernel

/-- A turn of a monitor service whose wait runs into its timeout. -/
def timedOutTurn (key : ServiceKey) : List Input :=
  [.handleOneFrame key true, .setSend key, .timeout key, .unlist key]

/-- The only connection fetches the first frame while the service waits for the second. -/
def lateFetch : List Input :=
  [.newService monitor0, .run monitor0, .subscribe monitor0 1] ++ timedOutTurn monitor0 ++
    [.handleOneFrame monitor0 true, .setSend monitor0, .recvVideo 1]

/-- The late notification for the first frame ends the wait for the second. -/
theorem late_fetch_ends_wait :
    ¬ ∀ before key after, lateFetch ++ [.tryWaitNext monitor0] = before ++ .tryWaitNext key :: after →
      (notifiers.run {} before).1.WaitsForAll key := by
  intro waits
  have waited := (waits lateFetch monitor0 [] rfl (by decide +kernel)).2 (by decide +kernel) 1
    (by decide +kernel)
  exact absurd waited (by decide +kernel)

end SubnetDesk.FrameNotifiers
