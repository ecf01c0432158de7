import Mathlib
import SubnetDesk.Proof.Server.CursorShapes

namespace SubnetDesk.MouseCursor
open SubnetDesk.Services

section Delivery

variable (build : Build) (image : UInt64 → CursorData)

/-- All subscribers are recorded, and the state names the shape that it holds or sends. -/
structure CursorService.Sound (current : CursorService) : Prop where
  needed : current.service.needSnapshot = true
  live : current.service.subscribes.All (MouseCursorSub.Recorded (build.shape image))
  waiting : current.service.newSubscribes.All (MouseCursorSub.Recorded (build.shape image))
  cached : current.state.Cached (build.shape image)
  sending : ∀ msg, current.phase = .sending msg →
    msg.Carries (build.shape image) current.state.hcursor
  named : (∀ msg, current.phase ≠ .sending msg) → current.state.Named

theorem sound_new : CursorService.new.Sound build image where
  needed := rfl
  live := all_empty _
  waiting := all_empty _
  cached := ⟨.inl rfl, fun id msg found => by simp [CursorService.new] at found⟩
  sending := fun msg sends => by cases sends
  named := fun _ data shown => by cases shown

variable {build image}

theorem Message.Carries.shape_eq {shape : UInt64 → CursorData} {id : UInt64} {msg : Message}
    (carries : msg.Carries shape id) : msg.shape = some (shape id) := by
  rw [carries.1]
  rfl

/-- A new subscriber is sound. -/
theorem CursorService.Sound.onSubscribe {current : CursorService}
    (sound : current.Sound build image) (id : Int) :
    CursorService.Sound build image
      { current with service := current.service.onSubscribe (.from { id }) } := by
  obtain ⟨live, waiting⟩ := ServiceInner.onSubscribe_all (.from { id }) sound.needed sound.live
    sound.waiting fun _ => recorded_from (build.shape image) id
  exact ⟨(ServiceInner.onSubscribe_needSnapshot _ _).trans sound.needed, live, waiting,
    sound.cached, sound.sending, sound.named⟩

theorem CursorService.Sound.onUnsubscribe {current : CursorService}
    (sound : current.Sound build image) (id : Int) :
    CursorService.Sound build image
      { current with service := current.service.onUnsubscribe id } := by
  obtain ⟨live, waiting⟩ := ServiceInner.onUnsubscribe_all id sound.live sound.waiting
  exact ⟨(ServiceInner.onUnsubscribe_needSnapshot _ _).trans sound.needed, live, waiting,
    sound.cached, sound.sending, sound.named⟩

/-- Where no message is on its way, the state names its shape. -/
theorem sound_of_named {current : CursorService}
    (needed : current.service.needSnapshot = true)
    (live : current.service.subscribes.All (MouseCursorSub.Recorded (build.shape image)))
    (waiting : current.service.newSubscribes.All (MouseCursorSub.Recorded (build.shape image)))
    (cached : current.state.Cached (build.shape image)) (named : current.state.Named)
    (apart : ∀ msg, current.phase ≠ .sending msg) : current.Sound build image :=
  ⟨needed, live, waiting, cached, fun msg sends => absurd sends (apart msg), fun _ => named⟩

/-- A faithful tick is sound. -/
theorem CursorService.Sound.tick {current : CursorService} (sound : current.Sound build image)
    {cursor : Option (Option UInt64)} {data : Option CursorData}
    (faithful : (CursorInput.tick cursor data).Faithful build image) :
    (current.tick build cursor data).1.Sound build image := by
  have kept := sound
  obtain ⟨needed, live, waiting, cached, sending, named⟩ := sound
  unfold CursorService.tick
  cases phase : current.phase with
  | idle =>
      have settled := named (by simp [phase])
      dsimp only
      split
      next => exact sound_of_named needed live waiting cached settled (by simp)
      next =>
        split
        next => exact sound_of_named needed live waiting cached settled (by simp)
        next => exact kept
  | resetting =>
      refine sound_of_named needed live waiting ⟨.inl rfl, ?_⟩ ?_ (by simp)
      · intro id msg found
        simp at found
      · intro data shown
        cases shown
  | requesting =>
      have settled := named (by simp [phase])
      dsimp only
      cases found : build.lookUp current.state cursor data with
      | failed => exact sound_of_named needed live waiting cached settled (by simp)
      | unchanged => exact sound_of_named needed live waiting cached settled (by simp)
      | changed next msg =>
          obtain ⟨kept, carries⟩ := Build.lookUp_changed faithful cached found
          refine ⟨needed, live, waiting, kept, ?_, fun other => absurd rfl (other msg)⟩
          intro other sends
          cases sends
          exact carries
  | sending msg =>
      have carries := sending msg phase
      refine sound_of_named needed ?_ waiting ⟨.inr ⟨_, carries⟩, cached.cached⟩ ?_ (by simp)
      · exact (all_update _ _ _).mpr (live.mono fun sub recorded => (recorded.carry carries).1)
      · intro data shown
        dsimp only [StateCursor.shape] at shown
        rw [carries.shape_eq] at shown
        cases shown
        exact carries.2.symm
  | polling =>
      have settled := named (by simp [phase])
      dsimp only
      split
      next => exact sound_of_named needed live waiting cached settled (by simp)
      next => exact sound_of_named needed live waiting cached settled (by simp)
  | greeting =>
      have settled := named (by simp [phase])
      refine sound_of_named needed live ?_ cached settled (by simp)
      exact (all_update _ _ _).mpr (waiting.mono fun sub recorded => recorded.known cached.known)
  | swapping =>
      have settled := named (by simp [phase])
      exact sound_of_named needed (ServiceInner.swap_all live waiting) (all_empty _) cached settled
        (by simp)

/-- One faithful input is sound. -/
theorem CursorService.Sound.step {current : CursorService} (sound : current.Sound build image)
    {input : CursorInput} (faithful : input.Faithful build image) :
    (current.step build input).1.Sound build image := by
  cases input with
  | onSubscribe id => exact sound.onSubscribe id
  | onUnsubscribe id => exact sound.onUnsubscribe id
  | tick cursor data => exact sound.tick faithful

/-- Live subscribers show the shape of the state, and waiting ones show nothing before their
greeting. -/
structure CursorService.Shown (current : CursorService) : Prop where
  live : current.service.subscribes.All fun sub => sub.inner.client.shown = current.state.shape
  waiting : current.phase ≠ .swapping →
    current.service.newSubscribes.All fun sub => sub.inner.client.shown = none
  greeted : current.phase = .swapping →
    current.service.newSubscribes.All fun sub => sub.inner.client.shown = current.state.shape
  reset : current.phase = .resetting → current.service.subscribes.entries.isEmpty = true

/-- No other subscriber comes between the greeting of the waiting ones and their promotion, unless
there is no shape yet. -/
def CursorService.Greeted (current : CursorService) : CursorInput → Prop
  | .onSubscribe id => current.phase = .swapping →
      (current.service.subscribes.lookup id).isSome ∨ current.state.shape = none
  | _ => True

instance decidableGreeted (current : CursorService) :
    ∀ input, Decidable (current.Greeted input)
  | .onSubscribe _ => inferInstanceAs (Decidable (_ → _ ∨ _))
  | .onUnsubscribe _ => inferInstanceAs (Decidable True)
  | .tick _ _ => inferInstanceAs (Decidable True)

theorem shown_new : CursorService.new.Shown where
  live := all_empty _
  waiting := fun _ => all_empty _
  greeted := fun _ => all_empty _
  reset := fun _ => rfl

/-- A greeted subscriber is shown. -/
theorem CursorService.Shown.onSubscribe {current : CursorService} (shown : current.Shown)
    (needed : current.service.needSnapshot = true) {id : Int}
    (greeted : current.Greeted (.onSubscribe id)) :
    CursorService.Shown { current with service := current.service.onSubscribe (.from { id }) } := by
  have same := ServiceInner.onSubscribe_subscribes (MouseCursorSub.from { id }) needed
  refine ⟨?_, ?_, ?_, ?_⟩
  · dsimp only
    rw [same]
    exact shown.live
  · intro apart
    exact (ServiceInner.onSubscribe_all _ needed shown.live (shown.waiting apart) fun _ => rfl).2
  · intro swapping
    refine (ServiceInner.onSubscribe_all _ needed shown.live (shown.greeted swapping) ?_).2
    intro absent
    rcases greeted swapping with live | unknown
    · exact absurd (live.symm.trans absent) (by simp)
    · rw [unknown]
      rfl
  · intro resetting
    dsimp only
    rw [same]
    exact shown.reset resetting

theorem CursorService.Shown.onUnsubscribe {current : CursorService} (shown : current.Shown)
    (id : Int) :
    CursorService.Shown { current with service := current.service.onUnsubscribe id } := by
  refine ⟨?_, ?_, ?_, ?_⟩
  · exact (ServiceInner.onUnsubscribe_all (q := fun _ => True) id shown.live fun _ _ => trivial).1
  · intro apart
    exact (ServiceInner.onUnsubscribe_all id shown.live (shown.waiting apart)).2
  · intro swapping
    exact (ServiceInner.onUnsubscribe_all id shown.live (shown.greeted swapping)).2
  · intro resetting
    have empty := shown.reset resetting
    dsimp only
    unfold ServiceInner.onUnsubscribe
    cases current.service.subscribes.lookup id with
    | none => exact empty
    | some _ =>
        rw [List.isEmpty_iff] at empty ⊢
        simp [AList.erase, empty]

/-- Away from the promotion and the reset, only the shape and the subscribers count. -/
theorem shown_of_waiting {current : CursorService}
    (live : current.service.subscribes.All fun sub => sub.inner.client.shown = current.state.shape)
    (waiting : current.service.newSubscribes.All fun sub => sub.inner.client.shown = none)
    (apart : current.phase ≠ .swapping ∧ current.phase ≠ .resetting) : current.Shown :=
  ⟨live, fun _ => waiting, fun swapping => absurd swapping apart.1,
    fun resetting => absurd resetting apart.2⟩

/-- A change carries the shape of its id. -/
theorem lookUp_shape {state next : StateCursor} {msg : Message}
    {cursor : Option (Option UInt64)} {data : Option CursorData}
    (changed : build.lookUp state cursor data = .changed next msg) : next.shape = state.shape := by
  unfold Build.lookUp at changed
  split at changed
  next => cases changed
  next => cases changed
  next =>
    split at changed
    next => cases changed
    next =>
      split at changed
      next =>
        cases changed
        rfl
      next =>
        split at changed
        next => cases changed
        next =>
          cases changed
          rfl

/-- A tick shows the cursor. -/
theorem CursorService.Shown.tick {current : CursorService} (shown : current.Shown)
    (sound : current.Sound build image) (cursor : Option (Option UInt64))
    (data : Option CursorData) : (current.tick build cursor data).1.Shown := by
  have kept := shown
  obtain ⟨live, waiting, greeted, reset⟩ := shown
  unfold CursorService.tick
  cases phase : current.phase with
  | idle =>
      have fresh := waiting (by simp [phase])
      dsimp only
      split
      next => exact shown_of_waiting live fresh (by simp)
      next empty =>
        split
        next =>
          refine ⟨live, fun _ => fresh, (fun swapping => by cases swapping), fun _ => ?_⟩
          rw [ServiceInner.hasSubscribes, Bool.or_eq_true, not_or, Bool.not_eq_true',
            Bool.not_eq_false] at empty
          exact empty.1
        next => exact kept
  | resetting =>
      exact shown_of_waiting (all_of_isEmpty _ (reset phase)) (waiting (by simp [phase])) (by simp)
  | requesting =>
      have fresh := waiting (by simp [phase])
      dsimp only
      cases found : build.lookUp current.state cursor data with
      | failed => exact shown_of_waiting live fresh (by simp)
      | unchanged => exact shown_of_waiting live fresh (by simp)
      | changed next msg =>
          refine shown_of_waiting ?_ fresh (by simp)
          dsimp only
          rw [lookUp_shape found]
          exact live
  | sending msg =>
      have carries := sound.sending msg phase
      refine shown_of_waiting ?_ (waiting (by simp [phase])) (by simp)
      refine (all_update _ _ _).mpr (sound.live.mono fun sub recorded => ?_)
      rw [(recorded.carry carries).2]
      exact carries.shape_eq.symm
  | polling =>
      have fresh := waiting (by simp [phase])
      dsimp only
      split
      next => exact shown_of_waiting live fresh (by simp)
      next => exact shown_of_waiting live fresh (by simp)
  | greeting =>
      have fresh := waiting (by simp [phase])
      refine ⟨live, fun apart => absurd rfl apart, fun _ => ?_, (fun resetting => by cases resetting)⟩
      refine (all_update _ _ _).mpr fun entry member => ?_
      exact (sound.waiting entry member).greeted sound.cached.known (fresh entry member)
  | swapping =>
      exact shown_of_waiting (ServiceInner.swap_all live (greeted phase)) (all_empty _) (by simp)

/-- One input shows the cursor. -/
theorem CursorService.Shown.step {current : CursorService} (shown : current.Shown)
    (sound : current.Sound build image) {input : CursorInput} (greeted : current.Greeted input) :
    (current.step build input).1.Shown := by
  cases input with
  | onSubscribe id => exact shown.onSubscribe sound.needed greeted
  | onUnsubscribe id => exact shown.onUnsubscribe id
  | tick cursor data => exact shown.tick sound cursor data

/-- `run_cursor` leaves the thread idle. -/
theorem returned_idle {current : CursorService} {input : CursorInput} {ok : Bool}
    (returned : .returned ok ∈ (current.step build input).2) :
    (current.step build input).1.phase = .idle := by
  cases input with
  | onSubscribe id => cases returned
  | onUnsubscribe id => cases returned
  | tick cursor data =>
      unfold CursorService.step CursorService.tick at returned ⊢
      dsimp only at returned ⊢
      cases phase : current.phase with
      | idle =>
          rw [phase] at returned
          dsimp only at returned
          split at returned
          next => cases returned
          next => split at returned <;> cases returned
      | requesting =>
          rw [phase] at returned
          dsimp only at returned ⊢
          cases found : build.lookUp current.state cursor data with
          | failed => rfl
          | unchanged =>
              rw [found] at returned
              cases returned
          | changed next msg =>
              rw [found] at returned
              cases returned
      | polling =>
          rw [phase] at returned
          dsimp only at returned ⊢
          split at returned
          next empty => rw [if_pos empty]
          next => cases returned
      | swapping => rfl
      | resetting => rfl
      | sending msg =>
          rw [phase] at returned
          cases returned
      | greeting =>
          rw [phase] at returned
          cases returned

/-- Every run is sound. -/
theorem sound_run (inputs : List CursorInput)
    (faithful : ∀ input ∈ inputs, input.Faithful build image) :
    ((cursorService build).run .new inputs).1.Sound build image :=
  (cursorService build).run_invariant (fun _ input => input.Faithful build image)
    (fun current _ => current.Sound build image)
    (fun _ _ _ faithful sound => sound.step faithful) .new [] inputs (sound_new build image)
    ((cursorService build).guarded_of_forall _ _ faithful)

/-- Every greeted run shows the cursor. -/
theorem shown_run (inputs : List CursorInput)
    (faithful : ∀ input ∈ inputs, input.Faithful build image)
    (greeted : (cursorService build).Guarded CursorService.Greeted .new inputs) :
    ((cursorService build).run .new inputs).1.Shown := by
  have both : (cursorService build).Guarded
      (fun current input => input.Faithful build image ∧ current.Greeted input) .new inputs := by
    rw [Machine.guarded_iff_split] at greeted ⊢
    intro before input after split
    exact ⟨faithful input (by simp [split]), greeted before input after split⟩
  exact ((cursorService build).run_invariant _
    (fun current _ => current.Sound build image ∧ current.Shown)
    (fun _ _ _ guard holds => ⟨holds.1.step guard.1, holds.2.step holds.1 guard.2⟩)
    .new [] inputs ⟨sound_new build image, shown_new⟩ both).2

/-- An id only follows its data, and after every good run of `run_cursor` the live subscribers show
the shape in the state where everyone who was promoted had been greeted. -/
theorem cursor_followed (build : Build) (image : UInt64 → CursorData) (inputs : List CursorInput)
    (faithful : ∀ input ∈ inputs, input.Faithful build image) :
    (∀ before after, inputs = before ++ after →
      ((cursorService build).run .new before).1.service.subscribes.All
          (fun sub => sub.inner.IdsAfterData) ∧
        ((cursorService build).run .new before).1.service.newSubscribes.All
          (fun sub => sub.inner.IdsAfterData)) ∧
    ((cursorService build).Guarded CursorService.Greeted .new inputs →
      ∀ before input after, inputs = before ++ input :: after →
        .returned true ∈
          ((cursorService build).step ((cursorService build).run .new before).1 input).2 →
        ((cursorService build).step
          ((cursorService build).run .new before).1 input).1.Synced) := by
  constructor
  · intro before after split
    have sound : ((cursorService build).run .new before).1.Sound build image := sound_run before
      fun input member => faithful input (by simp [split, member])
    exact ⟨sound.live.mono fun _ recorded => recorded.ordered,
      sound.waiting.mono fun _ recorded => recorded.ordered⟩
  · intro greeted before input after split returned
    rw [split, Machine.guarded_append] at greeted
    have known : ∀ other ∈ before, other.Faithful build image :=
      fun other member => faithful other (by simp [split, member])
    have sound : ((cursorService build).run .new before).1.Sound build image :=
      sound_run before known
    have shown := shown_run before known greeted.1
    have next := sound.step (faithful input (by simp [split]))
    refine ⟨(shown.step sound greeted.2.1).live, next.named fun msg sends => ?_⟩
    have idle := returned_idle returned
    exact absurd (idle.symm.trans sends) (by simp)

end Delivery

/-- A pixel in the colour of its id. -/
def pixel (id : UInt64) : CursorData := ⟨id, 0, 0, 1, 1, [id.toUInt8]⟩

def plainBuild : Build := ⟨true, fun colors => colors⟩

/-- The first subscriber waits for the greeting, which comes after the shape changed to a newer one
than the thread asked for. -/
def greeting : List CursorInput :=
  [.onSubscribe 1, .tick none none, .tick (some (some 5)) (some (pixel 6)), .tick none none,
    .tick none none, .tick none none]

theorem cursor_followed_greeting :
    ((cursorService plainBuild).step ((cursorService plainBuild).run .new greeting).1
      (.tick none none)).1.Synced :=
  (cursor_followed plainBuild pixel (greeting ++ [.tick none none])
    (by
      intro input member
      simp only [greeting, List.cons_append, List.nil_append, List.mem_cons, List.not_mem_nil,
        or_false] at member
      rcases member with rfl | rfl | rfl | rfl | rfl | rfl | rfl <;>
        simp [CursorInput.Faithful, Build.served, plainBuild, pixel])).2
    (by decide +kernel) greeting (.tick none none) [] rfl (by decide +kernel)

/-- A subscriber that comes after the greeting is promoted with nothing shown. -/
theorem late_subscriber_blank :
    (∀ input ∈ greeting ++ [.onSubscribe 2, .tick none none],
      input.Faithful plainBuild pixel) ∧
    .returned true ∈ ((cursorService plainBuild).step ((cursorService plainBuild).run .new
      (greeting ++ [.onSubscribe 2])).1 (.tick none none)).2 ∧
    ¬ ((cursorService plainBuild).step ((cursorService plainBuild).run .new
      (greeting ++ [.onSubscribe 2])).1 (.tick none none)).1.Synced := by
  refine ⟨?_, by decide +kernel, ?_⟩
  · intro input member
    simp only [greeting, List.cons_append, List.nil_append, List.mem_cons, List.not_mem_nil,
      or_false] at member
    rcases member with rfl | rfl | rfl | rfl | rfl | rfl | rfl | rfl <;>
      simp [CursorInput.Faithful, Build.served, plainBuild, pixel]
  · intro synced
    exact absurd synced.1 (by decide +kernel)

end SubnetDesk.MouseCursor
