import SubnetDesk.Construction.Video.Screenshots

namespace SubnetDesk.Screenshots
open SubnetDesk.FrameNotifiers

/-- A screenshot stands for a request of its display that has no answer yet. -/
structure State.Open (state : State) (key : ServiceKey) (screenshot : Screenshot) : Prop where
  request : state.accepted[screenshot.number]? = some ⟨key, screenshot.sid, screenshot.tx⟩
  unanswered : state.answers screenshot.number = []

structure State.Sound (state : State) : Prop where
  slot : ∀ key, ∀ screenshot ∈ state.screenshots key, state.Open key screenshot
  held : ∀ key, ∀ held ∈ state.held key, state.Open key held.1
  apart : ∀ key, ∀ screenshot ∈ state.screenshots key, ∀ held ∈ state.held key,
    screenshot.number ≠ held.1.number
  own : state.AnswersOwn

theorem sound_new : State.Sound {} := by
  refine ⟨?_, ?_, ?_, ?_⟩
  · intro key screenshot member
    cases member
  · intro key held member
    cases member
  · intro key screenshot member
    cases member
  · intro number
    refine ⟨Nat.zero_le _, fun sent member => ?_⟩
    cases member

theorem State.Open.lt {state : State} {key : ServiceKey} {screenshot : Screenshot}
    (pending : state.Open key screenshot) : screenshot.number < state.accepted.length :=
  (List.getElem?_eq_some_iff.mp pending.request).1

/-- The numbers of all answers are numbers of requests. -/
theorem State.Sound.answers_new {state : State} (sound : state.Sound) {number : Nat}
    (new : state.accepted.length ≤ number) : state.answers number = [] := by
  refine List.eq_nil_iff_forall_not_mem.mpr fun sent member => ?_
  obtain ⟨request, found, -⟩ := (sound.own number).2 sent member
  rw [List.getElem?_eq_none new] at found
  cases found

/-- An open request stays open. -/
theorem State.Open.accept {state next : State} {key : ServiceKey} {screenshot : Screenshot}
    (pending : state.Open key screenshot) (request : Request)
    (accepted : next.accepted = state.accepted ++ [request]) (sent : next.sent = state.sent) :
    next.Open key screenshot := by
  refine ⟨?_, ?_⟩
  · rw [accepted, List.getElem?_append_left pending.lt]
    exact pending.request
  · rw [State.answers, sent]
    exact pending.unanswered

/-- A request is sound. -/
theorem State.Sound.setTakeScreenshot {state : State} (sound : state.Sound) (key : ServiceKey)
    (sid : String) (tx : Int) : (state.setTakeScreenshot key sid tx).Sound := by
  have kept : ∀ other screenshot, state.Open other screenshot →
      (state.setTakeScreenshot key sid tx).Open other screenshot :=
    fun _ _ pending => pending.accept ⟨key, sid, tx⟩ rfl rfl
  refine ⟨?_, fun other held member => kept _ _ (sound.held other held member), ?_, ?_⟩
  · intro other screenshot member
    dsimp only [State.setTakeScreenshot] at member
    by_cases same : other = key
    · subst same
      rw [Function.update_self, Option.mem_some_iff] at member
      subst member
      refine ⟨?_, sound.answers_new (Nat.le_refl _)⟩
      exact List.getElem?_concat_length
    · rw [Function.update_of_ne same] at member
      exact kept other screenshot (sound.slot other screenshot member)
  · intro other screenshot member held waits
    dsimp only [State.setTakeScreenshot] at member waits
    by_cases same : other = key
    · subst same
      rw [Function.update_self, Option.mem_some_iff] at member
      subst member
      exact (sound.held other held waits).lt.ne'
    · rw [Function.update_of_ne same] at member
      exact sound.apart other screenshot member held waits
  · intro number
    obtain ⟨once, own⟩ := sound.own number
    refine ⟨once, fun sent member => ?_⟩
    obtain ⟨request, found, same⟩ := own sent member
    refine ⟨request, ?_, same⟩
    dsimp only [State.setTakeScreenshot]
    rw [List.getElem?_append_left (List.getElem?_eq_some_iff.mp found).1]
    exact found

/-- Open requests of one display may change places. -/
theorem State.Sound.place {state : State} (sound : state.Sound) {key : ServiceKey}
    {slot : Option Screenshot} {hand : Option (Screenshot × Frame)}
    (waits : ∀ screenshot ∈ slot, state.Open key screenshot)
    (holds : ∀ held ∈ hand, state.Open key held.1)
    (apart : ∀ screenshot ∈ slot, ∀ held ∈ hand, screenshot.number ≠ held.1.number) :
    State.Sound
      { state with
        held := Function.update state.held key hand
        screenshots := Function.update state.screenshots key slot } := by
  have kept : ∀ other screenshot, state.Open other screenshot →
      State.Open
        { state with
          held := Function.update state.held key hand
          screenshots := Function.update state.screenshots key slot } other screenshot :=
    fun _ _ pending => ⟨pending.request, pending.unanswered⟩
  refine ⟨?_, ?_, ?_, sound.own⟩
  · intro other screenshot member
    dsimp only at member
    refine kept other screenshot ?_
    by_cases same : other = key
    · subst same
      rw [Function.update_self] at member
      exact waits screenshot member
    · rw [Function.update_of_ne same] at member
      exact sound.slot other screenshot member
  · intro other held member
    dsimp only at member
    refine kept other held.1 ?_
    by_cases same : other = key
    · subst same
      rw [Function.update_self] at member
      exact holds held member
    · rw [Function.update_of_ne same] at member
      exact sound.held other held member
  · intro other screenshot member held waiting
    dsimp only at member waiting
    by_cases same : other = key
    · subst same
      rw [Function.update_self] at member waiting
      exact apart screenshot member held waiting
    · rw [Function.update_of_ne same] at member waiting
      exact sound.apart other screenshot member held waiting

/-- A capture is sound. -/
theorem State.Sound.capture {state : State} (sound : state.Sound) (key : ServiceKey)
    (frame : Frame) : (state.capture key frame).Sound := by
  unfold State.capture
  split
  next => exact sound
  next free =>
    refine sound.place (by simp) (fun held member => ?_) (by simp)
    obtain ⟨screenshot, waits, rfl⟩ := Option.mem_map.mp member
    exact sound.slot key screenshot waits

/-- The request in the hands of a service goes back into the table. -/
theorem State.Sound.putBack {state : State} (sound : state.Sound) {key : ServiceKey}
    {screenshot : Screenshot} {frame : Frame} (holds : state.held key = some (screenshot, frame)) :
    State.Sound
      { state with
        held := Function.update state.held key none
        screenshots := Function.update state.screenshots key
          (some { screenshot with restoreVram := true }) } := by
  have pending := sound.held key (screenshot, frame) holds
  refine sound.place (fun back member => ?_) (by simp) (by simp)
  obtain rfl := Option.mem_some_iff.mp member
  exact ⟨pending.request, pending.unanswered⟩

/-- Screenshots of one number belong to one display. -/
theorem State.Open.key_eq {state : State} {key other : ServiceKey} {first second : Screenshot}
    (left : state.Open key first) (right : state.Open other second)
    (same : first.number = second.number) : key = other := by
  have requests := left.request
  rw [same, right.request, Option.some.injEq] at requests
  exact (congrArg Request.key requests).symm

/-- The request in the hands of a service is answered. -/
theorem State.Sound.answer {state : State} (sound : state.Sound) {key : ServiceKey}
    {screenshot : Screenshot} {frame : Frame} (holds : state.held key = some (screenshot, frame))
    {sent : Sent} (number : sent.number = screenshot.number) (tx : sent.tx = screenshot.tx)
    (sid : sent.response.sid = screenshot.sid) :
    State.Sound
      { state with
        held := Function.update state.held key none
        sent := state.sent ++ [sent] } := by
  have pending := sound.held key (screenshot, frame) holds
  have others : ∀ other shot, state.Open other shot → shot.number ≠ screenshot.number →
      State.Open
        { state with
          held := Function.update state.held key none
          sent := state.sent ++ [sent] } other shot := by
    intro other shot waits different
    refine ⟨waits.request, ?_⟩
    rw [State.answers, List.filter_append]
    refine List.append_eq_nil_iff.mpr ⟨waits.unanswered, ?_⟩
    rw [List.filter_cons_of_neg (by simpa [number] using different.symm), List.filter_nil]
  refine ⟨?_, ?_, ?_, ?_⟩
  · intro other shot member
    have waits := sound.slot other shot member
    refine others other shot waits fun same => ?_
    have equal := waits.key_eq pending same
    subst equal
    exact sound.apart other shot member _ holds same
  · intro other held member
    dsimp only at member
    by_cases same : other = key
    · subst same
      rw [Function.update_self] at member
      cases member
    · rw [Function.update_of_ne same] at member
      have waits := sound.held other held member
      exact others other held.1 waits fun equal => same (waits.key_eq pending equal)
  · intro other shot member held waits
    dsimp only at member waits
    by_cases same : other = key
    · subst same
      rw [Function.update_self] at waits
      cases waits
    · rw [Function.update_of_ne same] at waits
      exact sound.apart other shot member held waits
  · intro asked
    rw [State.answers, List.filter_append]
    by_cases same : asked = screenshot.number
    · subst same
      rw [show state.sent.filter (fun sent => sent.number = screenshot.number) = [] from
        pending.unanswered, List.nil_append, List.filter_cons_of_pos (by simpa using number),
        List.filter_nil]
      refine ⟨Nat.le_refl _, fun only member => ?_⟩
      rw [List.mem_singleton] at member
      subst member
      exact ⟨⟨key, screenshot.sid, screenshot.tx⟩, pending.request, tx, sid⟩
    · rw [List.filter_cons_of_neg (by simpa [number] using Ne.symm same), List.filter_nil,
        List.append_nil]
      exact sound.own asked

section Answers

variable (encodePng : Nat → Nat → List UInt8 → Except String (List UInt8))

theorem handleScreenshot_sent (screenshot : Screenshot) (msg : String) (w h : Nat)
    (data : List UInt8) :
    (handleScreenshot encodePng screenshot msg w h data).number = screenshot.number ∧
      (handleScreenshot encodePng screenshot msg w h data).tx = screenshot.tx ∧
      (handleScreenshot encodePng screenshot msg w h data).response.sid = screenshot.sid := by
  refine ⟨rfl, rfl, ?_⟩
  unfold handleScreenshot
  dsimp only
  split
  next =>
    split
    next => rfl
    next => split <;> rfl
  next => rfl

/-- A texture that was not tried again yet. -/
def Retries (held : Screenshot × Frame) : Prop := held.2 = .texture ∧ held.1.restoreVram = false

/-- A service that has finished has answered the request in its hands or has put it back. -/
theorem State.finish_cases (state : State) {key : ServiceKey} {held : Screenshot × Frame}
    (holds : state.held key = some held) :
    (∃ sent : Sent, (sent.number = held.1.number ∧ sent.tx = held.1.tx ∧
        sent.response.sid = held.1.sid) ∧ ¬ Retries held ∧
        state.finish encodePng key =
          { state with
            held := Function.update state.held key none
            sent := state.sent ++ [sent] }) ∨
      (Retries held ∧ state.finish encodePng key =
        { state with
          held := Function.update state.held key none
          screenshots := Function.update state.screenshots key
            (some { held.1 with restoreVram := true }) }) := by
  obtain ⟨screenshot, frame⟩ := held
  unfold State.finish
  rw [holds]
  dsimp only
  cases frame with
  | pixelBuffer converted =>
      have answered : ¬ Retries (screenshot, .pixelBuffer converted) := fun retries => by
        cases retries.1
      cases converted with
      | ok rgba =>
          exact .inl ⟨_, handleScreenshot_sent encodePng screenshot _ _ _ _, answered, rfl⟩
      | error e =>
          exact .inl ⟨_, handleScreenshot_sent encodePng screenshot _ _ _ _, answered, rfl⟩
  | texture =>
      cases restored : screenshot.restoreVram with
      | true =>
          refine .inl ⟨_, handleScreenshot_sent encodePng screenshot _ _ _ _, fun retries => ?_,
            if_pos rfl⟩
          exact absurd (restored.symm.trans retries.2) (by simp)
      | false => exact .inr ⟨⟨rfl, restored⟩, if_neg (by simp)⟩

/-- An idle service finishes nothing. -/
theorem State.finish_idle (state : State) {key : ServiceKey} (idle : state.held key = none) :
    state.finish encodePng key = state := by
  unfold State.finish
  rw [idle]

/-- One input is sound. -/
theorem State.Sound.step {state : State} (sound : state.Sound) (input : Input) :
    (state.step encodePng input).Sound := by
  cases input with
  | setTakeScreenshot key sid tx => exact sound.setTakeScreenshot key sid tx
  | capture key frame => exact sound.capture key frame
  | finish key =>
      dsimp only [State.step]
      cases holds : state.held key with
      | none =>
          rw [state.finish_idle encodePng holds]
          exact sound
      | some held =>
          rcases state.finish_cases encodePng holds with
            ⟨sent, ⟨number, tx, sid⟩, -, finished⟩ | ⟨-, finished⟩
          · rw [finished]
            exact sound.answer holds number tx sid
          · rw [finished]
            exact sound.putBack holds

/-- The place of a display in the table is free whenever a request comes or is put back. -/
def State.Free (state : State) : Input → Prop
  | .setTakeScreenshot key _ _ => state.screenshots key = none
  | .capture _ _ => True
  | .finish key => ∀ held ∈ state.held key, Retries held → state.screenshots key = none

theorem State.Pending.mono {state next : State} {number : Nat} {request : Request}
    (pending : state.Pending number request)
    (slot : next.screenshots request.key = state.screenshots request.key)
    (held : next.held request.key = state.held request.key) : next.Pending number request := by
  rw [State.Pending, slot, held]
  exact pending

/-- A new request does not lose another exactly when its place is free. -/
theorem State.Sound.keeps_setTakeScreenshot {state : State} (sound : state.Sound)
    (keeps : state.KeepsAll) (key : ServiceKey) (sid : String) (tx : Int) :
    (state.setTakeScreenshot key sid tx).KeepsAll ↔ state.screenshots key = none := by
  constructor
  · intro next
    cases occupied : state.screenshots key with
    | none => rfl
    | some screenshot =>
        have pending := sound.slot key screenshot occupied
        have kept : (state.setTakeScreenshot key sid tx).Open key screenshot :=
          pending.accept ⟨key, sid, tx⟩ rfl rfl
        rcases next screenshot.number _ kept.request with (⟨other, slot, same⟩ | ⟨held, waits, same⟩) | once
        · dsimp only [State.setTakeScreenshot] at slot
          rw [Function.update_self, Option.mem_some_iff] at slot
          subst slot
          exact absurd same pending.lt.ne'
        · exact absurd same.symm (sound.apart key screenshot occupied held waits)
        · rw [kept.unanswered] at once
          cases once
  · intro free number request found
    rcases Nat.lt_or_ge number state.accepted.length with old | new
    · dsimp only [State.setTakeScreenshot] at found
      rw [List.getElem?_append_left old] at found
      rcases keeps number request found with (⟨screenshot, slot, same⟩ | held) | once
      · refine .inl (.inl ⟨screenshot, ?_, same⟩)
        dsimp only [State.setTakeScreenshot]
        rw [Function.update_of_ne]
        · exact slot
        · rintro equal
          rw [equal, free] at slot
          cases slot
      · exact .inl (.inr held)
      · exact .inr once
    · refine .inl (.inl ?_)
      dsimp only [State.setTakeScreenshot] at found ⊢
      rw [List.getElem?_append_right new] at found
      obtain ⟨short, only⟩ := List.getElem?_eq_some_iff.mp found
      have zero : number - state.accepted.length = 0 := by
        rw [List.length_singleton] at short
        omega
      simp only [zero, List.getElem_cons_zero] at only
      subst only
      rw [Function.update_self]
      exact ⟨_, rfl, by dsimp only; omega⟩

/-- A capture loses no request. -/
theorem State.Sound.keeps_capture {state : State} (keeps : state.KeepsAll) (key : ServiceKey)
    (frame : Frame) : (state.capture key frame).KeepsAll := by
  unfold State.capture
  split
  next => exact keeps
  next idle =>
    intro number request found
    rcases keeps number request found with pending | once
    · refine .inl ?_
      by_cases same : request.key = key
      · rcases pending with ⟨screenshot, slot, equal⟩ | ⟨held, waits, -⟩
        · refine .inr ⟨(screenshot, frame), ?_, equal⟩
          dsimp only
          rw [same] at slot ⊢
          rw [Function.update_self, slot]
          rfl
        · rw [same, idle] at waits
          cases waits
      · exact pending.mono (Function.update_of_ne same _ _) (Function.update_of_ne same _ _)
    · exact .inr once

/-- An end loses no request in a free slot. -/
theorem State.Sound.keeps_finish {state : State} (sound : state.Sound) (keeps : state.KeepsAll)
    (key : ServiceKey) :
    (state.finish encodePng key).KeepsAll ↔ state.Free (.finish key) := by
  cases holds : state.held key with
  | none =>
      rw [state.finish_idle encodePng holds]
      refine iff_of_true keeps fun held member => ?_
      rw [holds] at member
      cases member
  | some held =>
      have pending := sound.held key held holds
      rcases state.finish_cases encodePng holds with
        ⟨sent, ⟨number, -⟩, answered, finished⟩ | ⟨retries, finished⟩
      · rw [finished]
        refine iff_of_true ?_ fun other member retries => ?_
        · intro asked request found
          rw [State.answers, List.filter_append]
          by_cases same : asked = held.1.number
          · subst same
            rw [show state.sent.filter (fun sent => sent.number = held.1.number) = [] from
              pending.unanswered, List.nil_append,
              List.filter_cons_of_pos (by simpa using number), List.filter_nil]
            exact .inr rfl
          · rw [List.filter_cons_of_neg (by simpa [number] using Ne.symm same), List.filter_nil,
              List.append_nil]
            rcases keeps asked request found with (slot | ⟨other, waits, equal⟩) | once
            · exact .inl (.inl slot)
            · refine .inl (.inr ⟨other, ?_, equal⟩)
              dsimp only
              rw [Function.update_of_ne]
              · exact waits
              · intro here
                rw [here, holds, Option.mem_some_iff] at waits
                exact same (equal.symm.trans (congrArg (fun pair => pair.1.number) waits.symm))
            · exact .inr once
        · rw [holds, Option.mem_some_iff] at member
          subst member
          exact absurd retries answered
      · rw [finished]
        constructor
        · intro next other member _
          cases occupied : state.screenshots key with
          | none => rfl
          | some screenshot =>
              have waits := sound.slot key screenshot occupied
              have different := sound.apart key screenshot occupied held holds
              rcases next screenshot.number _ waits.request with
                (⟨slot, here, same⟩ | ⟨slot, here, -⟩) | once
              · dsimp only at here
                rw [Function.update_self, Option.mem_some_iff] at here
                subst here
                exact absurd same.symm different
              · dsimp only at here
                rw [Function.update_self] at here
                cases here
              · have unanswered := waits.unanswered
                unfold State.answers at once unanswered
                dsimp only at once
                rw [unanswered] at once
                cases once
        · intro free asked request found
          have empty := free held holds retries
          rcases keeps asked request found with (⟨slot, waits, same⟩ | ⟨other, waits, same⟩) | once
          · refine .inl (.inl ⟨slot, ?_, same⟩)
            dsimp only
            rw [Function.update_of_ne]
            · exact waits
            · intro here
              rw [here, empty] at waits
              cases waits
          · by_cases here : request.key = key
            · rw [here, holds, Option.mem_some_iff] at waits
              subst waits
              refine .inl (.inl ⟨{ held.1 with restoreVram := true }, ?_, same⟩)
              dsimp only
              rw [here, Function.update_self]
              rfl
            · refine .inl (.inr ⟨other, ?_, same⟩)
              dsimp only
              rw [Function.update_of_ne here]
              exact waits
          · exact .inr once

/-- Every run is sound. -/
theorem sound_run (inputs : List Input) :
    ((screenshotService encodePng).run {} inputs).1.Sound :=
  (screenshotService encodePng).run_invariant (fun _ _ => True) (fun state _ => state.Sound)
    (fun _ _ input _ sound => sound.step encodePng input) {} [] inputs sound_new
    ((screenshotService encodePng).guarded_true _ _)

/-- No request is lost along a run exactly when its place is always free. -/
theorem keeps_iff_free (inputs : List Input) :
    (∀ before after, inputs = before ++ after →
      ((screenshotService encodePng).run {} before).1.KeepsAll) ↔
      (screenshotService encodePng).Guarded State.Free {} inputs := by
  have both := (screenshotService encodePng).always_iff_guarded State.Free
    (fun state => state.Sound ∧ state.KeepsAll)
    (fun state input holds => by
      obtain ⟨sound, keeps⟩ := holds
      have next := sound.step encodePng input
      refine (and_iff_right next).trans ?_
      cases input with
      | setTakeScreenshot key sid tx => exact sound.keeps_setTakeScreenshot keeps key sid tx
      | capture key frame => exact iff_of_true (State.Sound.keeps_capture keeps key frame) trivial
      | finish key => exact sound.keeps_finish encodePng keeps key)
    {} inputs ⟨sound_new, fun number request found => by cases found⟩
  rw [← both]
  exact forall₃_congr fun before _ _ => (and_iff_right (sound_run encodePng before)).symm

/-- Later requests for a display wait while its service holds what it captured. -/
structure State.Since (state : State) (key : ServiceKey) (first : Nat)
    (held : Option (Screenshot × Frame)) : Prop where
  held : state.held key = held
  late : first ≤ state.accepted.length
  slot : ∀ screenshot ∈ state.screenshots key, first ≤ screenshot.number

/-- A capture is kept until its end. -/
theorem State.Since.step {state : State} {key : ServiceKey} {first : Nat}
    {held : Option (Screenshot × Frame)} (since : state.Since key first held) {input : Input}
    (other : ¬ input.Serves key) : (state.step encodePng input).Since key first held := by
  cases input with
  | setTakeScreenshot asked sid tx =>
      refine ⟨since.held, ?_, ?_⟩
      · dsimp only [State.step, State.setTakeScreenshot]
        rw [List.length_append]
        exact since.late.trans (Nat.le_add_right _ _)
      · intro screenshot member
        dsimp only [State.step, State.setTakeScreenshot] at member
        by_cases same : key = asked
        · subst same
          rw [Function.update_self, Option.mem_some_iff] at member
          subst member
          exact since.late
        · rw [Function.update_of_ne same] at member
          exact since.slot screenshot member
  | capture asked frame =>
      have apart : key ≠ asked := fun same => other same.symm
      dsimp only [State.step]
      unfold State.capture
      split
      next => exact since
      next =>
        refine ⟨?_, since.late, ?_⟩
        · dsimp only
          rw [Function.update_of_ne apart]
          exact since.held
        · dsimp only
          rw [Function.update_of_ne apart]
          exact since.slot
  | finish asked =>
      have apart : key ≠ asked := fun same => other same.symm
      dsimp only [State.step]
      cases holds : state.held asked with
      | none =>
          rw [state.finish_idle encodePng holds]
          exact since
      | some taken =>
          rcases state.finish_cases encodePng holds with ⟨sent, -, -, finished⟩ | ⟨-, finished⟩
          · rw [finished]
            refine ⟨?_, since.late, since.slot⟩
            dsimp only
            rw [Function.update_of_ne apart]
            exact since.held
          · rw [finished]
            refine ⟨?_, since.late, ?_⟩
            · dsimp only
              rw [Function.update_of_ne apart]
              exact since.held
            · dsimp only
              rw [Function.update_of_ne apart]
              exact since.slot

/-- A run without the end keeps a capture. -/
theorem State.Since.run {state : State} {key : ServiceKey} {first : Nat}
    {held : Option (Screenshot × Frame)} (since : state.Since key first held) (inputs : List Input)
    (others : ∀ input ∈ inputs, ¬ input.Serves key) :
    ((screenshotService encodePng).run state inputs).1.Since key first held :=
  (screenshotService encodePng).run_invariant (fun _ input => ¬ input.Serves key)
    (fun state _ => state.Since key first held)
    (fun _ _ _ other since => since.step encodePng other) state [] inputs since
    ((screenshotService encodePng).guarded_of_forall _ _ others)

/-- A valid frame takes all older requests for its display out of the table. -/
theorem State.since_capture {state : State} {key : ServiceKey} (idle : state.held key = none)
    (frame : Frame) :
    (state.capture key frame).Since key state.accepted.length
      ((state.screenshots key).map fun screenshot => (screenshot, frame)) := by
  unfold State.capture
  rw [idle]
  refine ⟨Function.update_self key _ _, Nat.le_refl _, fun screenshot member => ?_⟩
  dsimp only at member
  rw [Function.update_self] at member
  cases member

/-- After a pixel buffer, no older request for the display waits. -/
theorem State.Since.finished {state : State} {key : ServiceKey} {first : Nat}
    {held : Option (Screenshot × Frame)} (since : state.Since key first held)
    (answers : ∀ taken ∈ held, ¬ Retries taken) {number : Nat} (old : number < first)
    {request : Request} (asked : request.key = key) :
    ¬ (state.finish encodePng key).Pending number request := by
  have late : ∀ screenshot ∈ state.screenshots key, screenshot.number ≠ number :=
    fun screenshot member => (old.trans_le (since.slot screenshot member)).ne'
  cases holds : state.held key with
  | none =>
      rw [state.finish_idle encodePng holds, State.Pending, asked, holds]
      rintro (⟨screenshot, slot, same⟩ | ⟨taken, member, -⟩)
      · exact late screenshot slot same
      · cases member
  | some taken =>
      rcases state.finish_cases encodePng holds with ⟨sent, -, -, finished⟩ | ⟨retries, -⟩
      · rw [finished, State.Pending, asked]
        rintro (⟨screenshot, slot, same⟩ | ⟨other, member, -⟩)
        · exact late screenshot slot same
        · dsimp only at member
          rw [Function.update_self] at member
          cases member
      · exact absurd retries (answers taken (since.held.symm.trans holds))

/-- An accepted request stays accepted. -/
theorem State.accepted_step {state : State} {number : Nat} {request : Request}
    (found : state.accepted[number]? = some request) (input : Input) :
    (state.step encodePng input).accepted[number]? = some request := by
  cases input with
  | setTakeScreenshot key sid tx =>
      dsimp only [State.step, State.setTakeScreenshot]
      rw [List.getElem?_append_left (List.getElem?_eq_some_iff.mp found).1]
      exact found
  | capture key frame =>
      dsimp only [State.step]
      unfold State.capture
      split <;> exact found
  | finish key =>
      dsimp only [State.step]
      cases holds : state.held key with
      | none =>
          rw [state.finish_idle encodePng holds]
          exact found
      | some taken =>
          rcases state.finish_cases encodePng holds with ⟨sent, -, -, finished⟩ | ⟨-, finished⟩
          · rw [finished]
            exact found
          · rw [finished]
            exact found

/-- In every run it stays accepted. -/
theorem State.accepted_run {state : State} {number : Nat} {request : Request}
    (found : state.accepted[number]? = some request) (inputs : List Input) :
    ((screenshotService encodePng).run state inputs).1.accepted[number]? = some request :=
  (screenshotService encodePng).run_invariant (fun _ _ => True)
    (fun state _ => state.accepted[number]? = some request)
    (fun _ _ input _ found => State.accepted_step encodePng found input) state [] inputs found
    ((screenshotService encodePng).guarded_true _ _)

end Answers

/-- All answers are own answers and no request has two; no request is lost exactly when its place in
the table is always free, and then a pixel buffer answers all older requests for its display. -/
theorem screenshots_answered (encodePng : Nat → Nat → List UInt8 → Except String (List UInt8))
    (inputs : List Input) :
    (∀ before after, inputs = before ++ after →
      ((screenshotService encodePng).run {} before).1.AnswersOwn) ∧
    ((∀ before after, inputs = before ++ after →
        ((screenshotService encodePng).run {} before).1.KeepsAll) ↔
      (screenshotService encodePng).Guarded State.Free {} inputs) ∧
    ((screenshotService encodePng).Guarded State.Free {} inputs →
      ∀ before key converted middle after,
        inputs = before ++ (.capture key (.pixelBuffer converted) :: middle) ++ .finish key :: after →
        ((screenshotService encodePng).run {} before).1.held key = none →
        (∀ input ∈ middle, ¬ input.Serves key) →
        ∀ number, ∀ request ∈ ((screenshotService encodePng).run {} before).1.accepted[number]?,
          request.key = key →
          (((screenshotService encodePng).run {} (before ++
            (.capture key (.pixelBuffer converted) :: middle) ++ [.finish key])).1.answers
              number).length = 1) := by
  refine ⟨fun before _ _ => (sound_run encodePng before).own, keeps_iff_free encodePng inputs, ?_⟩
  intro free before key converted middle after split idle others number request found asked
  have keeps := (keeps_iff_free encodePng inputs).mpr free
    (before ++ (.capture key (.pixelBuffer converted) :: middle) ++ [.finish key]) after
    (by simp [split])
  have since := State.since_capture idle (.pixelBuffer converted)
  have later := since.run encodePng middle others
  have accepted := State.accepted_run encodePng found
    ((.capture key (.pixelBuffer converted) :: middle) ++ [.finish key])
  rw [← Machine.run_append, ← List.append_assoc] at accepted
  rcases keeps number request accepted with pending | once
  · refine absurd pending ?_
    rw [Machine.run_append, Machine.run_append]
    refine later.finished encodePng ?_ (List.getElem?_eq_some_iff.mp found).1 asked
    intro taken member retries
    obtain ⟨screenshot, -, rfl⟩ := Option.mem_map.mp member
    cases retries.1
  · exact once

def monitor : ServiceKey := ⟨.monitor, 0⟩

/-- Two clients ask for the same display before it captures a frame. -/
def overlapping : List Input :=
  [.setTakeScreenshot monitor "a" 1, .setTakeScreenshot monitor "b" 2,
    .capture monitor (.pixelBuffer (.ok ⟨1, 1, [0, 0, 0, 0]⟩)), .finish monitor]

/-- The first of two overlapping requests is neither answered nor kept. -/
theorem overlapping_lost :
    ¬ ((screenshotService fun _ _ data => .ok data).run {} overlapping).1.KeepsAll := by
  intro keeps
  have lost := keeps 0 ⟨monitor, "a", 1⟩ rfl
  rcases lost with (⟨screenshot, member, -⟩ | ⟨held, member, -⟩) | once
  · exact absurd member (by
      have empty : ((screenshotService fun _ _ data => .ok data).run {} overlapping).1.screenshots
          monitor = none := by decide +kernel
      rw [empty]
      simp)
  · have empty : (((screenshotService fun _ _ data => .ok data).run {} overlapping).1.held
        monitor).isNone = true := by decide +kernel
    rw [Option.isNone_iff_eq_none.mp empty] at member
    cases member
  · exact absurd once (by decide +kernel)

end SubnetDesk.Screenshots
