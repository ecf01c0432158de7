import SubnetDesk.Construction.Video.VideoService

namespace SubnetDesk.Video
open SubnetDesk.Services

theorem stream_nil : Stream [] :=
  ⟨(fun first member => by cases member), List.isChain_nil⟩

theorem ConnInner.frames_send (inner : ConnInner) (msg : Message) :
    (inner.send msg).frames = inner.frames ++ msg.frame?.toList := by
  rw [ConnInner.send, ConnInner.frames, List.filterMap_append]
  cases found : msg.frame? <;> simp [ConnInner.frames, found]

/-- The next frame of the encoder is the next frame of the stream. -/
structure Encoder.Current (encoder : Encoder) (frames : List VideoFrame) : Prop where
  stream : Stream frames
  empty : frames = [] → encoder.encoded = 0
  last : ∀ last ∈ frames.getLast?,
    (last.encoder = encoder.number ∧ last.index + 1 = encoder.encoded) ∨
      (last.encoder < encoder.number ∧ encoder.encoded = 0)

/-- The stream has no frames of newer encoders. -/
structure Encoder.Past (encoder : Encoder) (frames : List VideoFrame) : Prop where
  stream : Stream frames
  last : ∀ last ∈ frames.getLast?, last.encoder ≤ encoder.number

theorem Encoder.Current.past {encoder : Encoder} {frames : List VideoFrame}
    (current : encoder.Current frames) : encoder.Past frames := by
  refine ⟨current.stream, fun last member => ?_⟩
  rcases current.last last member with ⟨same, -⟩ | ⟨older, -⟩
  · exact same.le
  · exact older.le

/-- A new encoder starts a stream. -/
theorem Encoder.Past.restart {encoder : Encoder} {frames : List VideoFrame}
    (past : encoder.Past frames) : Encoder.Current { number := encoder.number + 1 } frames := by
  refine ⟨past.stream, fun _ => rfl, fun last member => .inr ⟨?_, rfl⟩⟩
  exact Nat.lt_succ_of_le (past.last last member)

theorem Encoder.Current.empty_of_new {encoder : Encoder} (new : encoder.encoded = 0) :
    encoder.Current [] :=
  ⟨stream_nil, fun _ => new, (fun last member => by cases member)⟩

/-- The first frame is a key frame. -/
theorem Encoder.frame_key {encoder : Encoder} (new : encoder.encoded = 0) (key : Bool) :
    (encoder.frame key).index = 0 ∧ (encoder.frame key).key = true := by
  simp [Encoder.frame, new]

/-- The frame of the encoder goes on with the stream. -/
theorem Encoder.Current.send {encoder : Encoder} {frames : List VideoFrame}
    (current : encoder.Current frames) (key : Bool) :
    Encoder.Current { encoder with encoded := encoder.encoded + 1 }
      (frames ++ [encoder.frame key]) := by
  refine ⟨⟨?_, ?_⟩, ?_, ?_⟩
  · intro first member
    cases whole : frames with
    | nil =>
        rw [whole, List.nil_append, List.head?_cons, Option.mem_some_iff] at member
        rw [← member]
        exact Encoder.frame_key (current.empty whole) key
    | cons head rest =>
        rw [whole, List.cons_append, List.head?_cons] at member
        exact current.stream.1 first (by rw [whole]; exact member)
  · rw [List.isChain_append]
    refine ⟨current.stream.2, List.isChain_singleton _, ?_⟩
    intro last member next only
    rw [List.head?_cons, Option.mem_some_iff] at only
    rw [← only]
    rcases current.last last member with ⟨same, index⟩ | ⟨older, new⟩
    · exact .inl ⟨same.symm, index.symm⟩
    · obtain ⟨first, whole⟩ := Encoder.frame_key new key
      exact .inr ⟨older, first, whole⟩
  · intro empty
    simp at empty
  · intro last member
    rw [List.getLast?_append, List.getLast?_singleton, Option.some_or, Option.mem_some_iff] at member
    rw [← member]
    exact .inl ⟨rfl, rfl⟩

/-- The thread still holds the encoder. -/
def Phase.Running : Phase → Prop
  | .checking | .looping | .frameSnapshot | .frameCallback | .frameSwap false | .encoding
  | .sending _ | .waiting => True
  | _ => False

/-- The streams of all live subscribers are whole, and go on where the thread holds its encoder. -/
structure VideoService.Sound (vs : VideoService) : Prop where
  needed : vs.service.needSnapshot = true
  waiting : vs.service.newSubscribes.All fun sub => sub.frames = []
  live : vs.service.subscribes.All fun sub => vs.encoder.Past sub.frames
  running : vs.phase.Running → vs.service.subscribes.All fun sub => vs.encoder.Current sub.frames

/-- Where the snapshot found no live subscriber, no one waits for an encoder that has encoded. -/
def VideoService.Fresh (vs : VideoService) : VideoInput → Prop
  | .tick _ => vs.phase = .frameSwap false →
      vs.service.newSubscribes.entries.isEmpty = true ∨ vs.encoder.encoded = 0
  | _ => True

/-- A new subscriber is sound. -/
theorem VideoService.Sound.onSubscribe {vs : VideoService} (sound : vs.Sound) (id : Int) :
    VideoService.Sound { vs with service := vs.service.onSubscribe { id } } := by
  have new : (ConnInner.frames { id }) = [] := rfl
  refine ⟨(ServiceInner.onSubscribe_needSnapshot _ _).trans sound.needed, ?_, ?_, ?_⟩
  · exact (ServiceInner.onSubscribe_all _ sound.needed sound.live sound.waiting fun _ => new).2
  · exact (ServiceInner.onSubscribe_all _ sound.needed sound.live sound.waiting fun _ => new).1
  · intro running
    exact (ServiceInner.onSubscribe_all _ sound.needed (sound.running running) sound.waiting
      fun _ => new).1

/-- A subscriber that leaves is sound. -/
theorem VideoService.Sound.onUnsubscribe {vs : VideoService} (sound : vs.Sound) (id : Int) :
    VideoService.Sound { vs with service := vs.service.onUnsubscribe id } := by
  refine ⟨(ServiceInner.onUnsubscribe_needSnapshot _ _).trans sound.needed, ?_, ?_, ?_⟩
  · exact (ServiceInner.onUnsubscribe_all id sound.live sound.waiting).2
  · exact (ServiceInner.onUnsubscribe_all id sound.live sound.waiting).1
  · intro running
    exact (ServiceInner.onUnsubscribe_all id (sound.running running) sound.waiting).1

/-- A step that only moves the thread keeps the streams where it does not take up the encoder. -/
theorem VideoService.Sound.moved {vs : VideoService} (sound : vs.Sound) {phase : Phase}
    (held : phase.Running → vs.phase.Running) : VideoService.Sound { vs with phase := phase } :=
  ⟨sound.needed, sound.waiting, sound.live, fun running => sound.running (held running)⟩

/-- The end of the encoder is sound. -/
theorem VideoService.Sound.left {vs : VideoService} (sound : vs.Sound) {phase : Phase}
    (apart : ¬ phase.Running) : VideoService.Sound { vs with phase := phase } :=
  sound.moved fun running => absurd running apart

/-- A check is sound. -/
theorem VideoService.Sound.check {vs : VideoService} (sound : vs.Sound) (check : Check)
    {pass : Phase} (held : pass.Running → vs.phase.Running) : (vs.check check pass).Sound := by
  unfold VideoService.check
  cases check with
  | pass => exact sound.moved held
  | switch => exact sound.left (by simp [Phase.Running])
  | displayChanged => exact sound.left (by simp [Phase.Running])
  | privacyModeChanged owner displayChanged =>
      cases owner with
      | some owner => exact sound.left (by simp [Phase.Running])
      | none => exact sound.left (by cases displayChanged <;> simp [Phase.Running])

/-- Messages without frames change no stream. -/
theorem VideoService.Sound.updatedLive {vs : VideoService} (sound : vs.Sound)
    {f : ConnInner → ConnInner} {phase : Phase} (same : ∀ sub, (f sub).frames = sub.frames)
    (apart : ¬ phase.Running) :
    VideoService.Sound
      { vs with
        service := vs.service.updateLive f
        phase := phase } := by
  refine ⟨sound.needed, sound.waiting, ?_, fun running => absurd running apart⟩
  refine (all_update _ _ _).mpr (sound.live.mono fun sub past => ?_)
  rw [same]
  exact past

theorem VideoService.Sound.updatedNew {vs : VideoService} (sound : vs.Sound)
    {f : ConnInner → ConnInner} {phase : Phase} (same : ∀ sub, (f sub).frames = sub.frames)
    (apart : ¬ phase.Running) :
    VideoService.Sound
      { vs with
        service := vs.service.updateNew f
        phase := phase } := by
  refine ⟨sound.needed, ?_, sound.live, fun running => absurd running apart⟩
  exact (all_update _ _ _).mpr (sound.waiting.mono fun sub empty => (same sub).trans empty)

/-- New subscribers join a new stream. -/
theorem VideoService.Sound.swapped {vs : VideoService} (sound : vs.Sound) {phase : Phase}
    (held : phase.Running → vs.phase.Running ∧
      (vs.service.newSubscribes.entries.isEmpty = true ∨ vs.encoder.encoded = 0)) :
    VideoService.Sound
      { vs with
        service := vs.service.swapNewSubscribes
        phase := phase } := by
  refine ⟨sound.needed, all_empty _, ?_, ?_⟩
  · refine ServiceInner.swap_all sound.live (sound.waiting.mono fun sub empty => ?_)
    rw [empty]
    exact ⟨stream_nil, (fun last member => by cases member)⟩
  · intro running
    obtain ⟨before, fresh⟩ := held running
    refine ServiceInner.swap_all (sound.running before) ?_
    rcases fresh with none | new
    · exact all_of_isEmpty _ none
    · refine sound.waiting.mono fun sub empty => ?_
      rw [empty]
      exact Encoder.Current.empty_of_new new

/-- A new encoder is sound. -/
theorem VideoService.Sound.started {vs : VideoService} (sound : vs.Sound) :
    VideoService.Sound
      { vs with
        encoder := { number := vs.encoder.number + 1 }
        phase := .checking } :=
  ⟨sound.needed, sound.waiting, sound.live.mono fun _ past => past.restart.past,
    fun _ => sound.live.mono fun _ past => past.restart⟩

/-- A sent frame is sound. -/
theorem VideoService.Sound.sent {vs : VideoService} (sound : vs.Sound) (running : vs.phase.Running)
    (key : Bool) :
    VideoService.Sound
      { vs with
        service := vs.service.updateLive (ConnInner.send (.videoFrame (vs.encoder.frame key)))
        encoder := { vs.encoder with encoded := vs.encoder.encoded + 1 }
        phase := .waiting } := by
  have next : (vs.service.subscribes.update
      (ConnInner.send (.videoFrame (vs.encoder.frame key)))).All fun sub =>
        Encoder.Current { vs.encoder with encoded := vs.encoder.encoded + 1 } sub.frames := by
    refine (all_update _ _ _).mpr ((sound.running running).mono fun sub current => ?_)
    rw [ConnInner.frames_send]
    exact current.send key
  exact ⟨sound.needed, sound.waiting, next.mono fun _ current => current.past, fun _ => next⟩

/-- A fresh tick is sound. -/
theorem VideoService.Sound.tick {vs : VideoService} (sound : vs.Sound) (around : Surroundings)
    (fresh : vs.Fresh (.tick around)) : (vs.tick around).Sound := by
  unfold VideoService.tick
  cases phase : vs.phase with
  | outside =>
      dsimp only
      split
      next =>
        cases around.setUp with
        | ready => exact sound.started
        | failed displayChanged =>
            exact sound.left (by cases displayChanged <;> simp [Phase.Running])
      next => exact sound
  | checking => exact sound.moved fun _ => by simp [phase, Phase.Running]
  | looping =>
      have held : ∀ next : Phase, next.Running → vs.phase.Running := by simp [phase, Phase.Running]
      dsimp only
      split
      next =>
        cases around.captured with
        | frame => exact sound.moved (held _)
        | wouldBlock => exact sound.moved (held _)
        | fallBack => exact sound.moved (held _)
        | failed displayChanged => exact sound.moved (held _)
      next => exact sound.check _ (held _)
  | notifying owner displayChanged =>
      refine sound.updatedLive (fun sub => ?_) (by cases displayChanged <;> simp [Phase.Running])
      split
      next => rfl
      next => exact (sub.frames_send _).trans (List.append_nil _)
  | broadcasting =>
      exact sound.updatedLive (fun sub => (sub.frames_send _).trans (List.append_nil _))
        (by simp [Phase.Running])
  | broadcastSnapshot => exact sound.left (by split <;> simp [Phase.Running])
  | broadcastGreeting =>
      exact sound.updatedNew (fun sub => (sub.frames_send _).trans (List.append_nil _))
        (by simp [Phase.Running])
  | broadcastSwap => exact sound.swapped fun running => by cases running
  | frameSnapshot => exact sound.moved fun _ => by simp [phase, Phase.Running]
  | frameCallback => exact sound.moved fun _ => by simp [phase, Phase.Running]
  | frameSwap switch =>
      cases switch with
      | true => exact sound.swapped fun running => by cases running
      | false => exact sound.swapped fun _ => ⟨by simp [phase, Phase.Running], fresh phase⟩
  | encoding =>
      cases around.encoding with
      | encoded key => exact sound.moved fun _ => by simp [phase, Phase.Running]
      | failed switch => exact sound.moved fun _ => by simp [phase, Phase.Running]
  | sending key => exact sound.sent (by simp [phase, Phase.Running]) key
  | waiting => exact sound.check _ fun _ => by simp [phase, Phase.Running]

/-- A fresh input is sound. -/
theorem VideoService.Sound.step {vs : VideoService} (sound : vs.Sound) {input : VideoInput}
    (fresh : vs.Fresh input) : (vs.step input).Sound := by
  cases input with
  | onSubscribe id => exact sound.onSubscribe id
  | onUnsubscribe id => exact sound.onUnsubscribe id
  | tick around => exact sound.tick around fresh

theorem sound_new (name : String) : (VideoService.new name).Sound :=
  ⟨rfl, all_empty _, all_empty _, fun _ => all_empty _⟩

/-- Every subscriber has a whole stream where a snapshot without live subscribers never meets an
encoder that has encoded. -/
theorem streams_whole (name : String) (inputs : List VideoInput)
    (fresh : videoService.Guarded VideoService.Fresh (.new name) inputs) :
    (videoService.run (.new name) inputs).1.service.subscribes.All
        (fun sub => Stream sub.frames) ∧
      (videoService.run (.new name) inputs).1.service.newSubscribes.All
        fun sub => sub.frames = [] := by
  have sound := videoService.run_invariant VideoService.Fresh (fun vs _ => vs.Sound)
    (fun _ _ _ fresh sound => sound.step fresh) (.new name) [] inputs (sound_new name) fresh
  exact ⟨sound.live.mono fun _ past => past.stream, sound.waiting⟩

instance decidableFresh (vs : VideoService) : ∀ input, Decidable (vs.Fresh input)
  | .onSubscribe _ => inferInstanceAs (Decidable True)
  | .onUnsubscribe _ => inferInstanceAs (Decidable True)
  | .tick _ => inferInstanceAs (Decidable (_ → _ ∨ _))

instance (frames : List VideoFrame) : Decidable (Stream frames) :=
  inferInstanceAs (Decidable (_ ∧ _))

/-- The first connection receives the key frame of the first encoder. -/
def firstFrame : List VideoInput :=
  .onSubscribe 1 :: List.replicate 10 (.tick {})

/-- A second connection is promoted by a restart, and both receive the key frame of the new
encoder. -/
def secondJoins : List VideoInput :=
  firstFrame ++ .onSubscribe 2 :: List.replicate 13 (.tick {})

theorem streams_whole_secondJoins :
    (videoService.run (.new "monitor0") secondJoins).1.service.subscribes.All
        (fun sub => Stream sub.frames) ∧
      (videoService.run (.new "monitor0") secondJoins).1.service.newSubscribes.All
        fun sub => sub.frames = [] :=
  streams_whole "monitor0" secondJoins (by decide +kernel)

/-- A connection that takes the place of the only live one receives a delta frame first. -/
theorem replacement_joins_midstream :
    ¬ (videoService.run (.new "monitor0") (firstFrame ++ .onSubscribe 2 :: .onUnsubscribe 1 ::
      List.replicate 7 (.tick {}))).1.service.subscribes.All fun sub => Stream sub.frames := by
  decide +kernel

end SubnetDesk.Video
