/-
This file defines a worker slot that many callers share, and proves that the slot has one owner and
that no request is lost.
-/

import SubnetDesk.Foundation.Threads

namespace SingleFlight

/-- A caller announces, knocks at the slot, and launches a worker that runs until no news is left. -/
inductive Phase where
  | knocking
  | launching
  | building
  | beginning
  | working
  | checking
  | releasing
  | rechecking
  | retaking
  | dropping
  | gone
deriving DecidableEq

/-- A worker differs by the mark of a request, by its memory of the last run, by a step of its own
that clears the mark, and by a fallible preparation. -/
structure Flight (Mark Seen : Type) where
  idle : Mark
  request : Mark → Mark
  fresh : Seen
  news : Mark → Seen → Bool
  start : Mark → Seen → Mark × Seen
  clears : Bool
  builds : Bool

/-- The guard of a thread releases the slot only while the thread owns it. The thread remembers how
many requests came before its run. -/
structure Thread (Seen : Type) where
  phase : Phase
  owned : Bool
  seen : Seen
  covers : Nat
deriving DecidableEq

/-- The counts of requests are history. The code has only the slot and the mark. -/
structure Shared (Mark : Type) where
  slot : Bool
  mark : Mark
  count : Nat
  begun : Nat
  completed : List Nat
deriving DecidableEq

abbrev State (Mark Seen : Type) := Threads.State (Shared Mark) (Thread Seen)

/-- A call announces a request. The choice says whether a launch or a preparation succeeds. -/
abbrev Step := Threads.Event Unit Bool Empty

variable {Mark Seen : Type}

def release (shared : Shared Mark) (thread : Thread Seen) : Shared Mark × Thread Seen :=
  if thread.owned then ({ shared with slot := false }, { thread with owned := false })
  else (shared, thread)

/-- The swap of the slot tells whether the thread became its owner. -/
def take (shared : Shared Mark) (thread : Thread Seen) : Shared Mark × Thread Seen :=
  ({ shared with slot := true }, { thread with owned := !shared.slot })

namespace Flight

variable (flight : Flight Mark Seen)

def head : Phase := if flight.clears then .beginning else .checking

def entry : Phase := if flight.builds then .building else flight.head

def initial : State Mark Seen := ⟨⟨false, flight.idle, 0, 0, []⟩, []⟩

def newcomer : Thread Seen := ⟨.knocking, false, flight.fresh, 0⟩

def announce (shared : Shared Mark) : Shared Mark :=
  { shared with mark := flight.request shared.mark, count := shared.count + 1 }

/-- A run starts after every request so far. -/
def startRun (shared : Shared Mark) (thread : Thread Seen) : Shared Mark × Thread Seen :=
  let started := flight.start shared.mark thread.seen
  ({ shared with mark := started.1, begun := shared.count },
    { thread with phase := .working, seen := started.2, covers := shared.count })

/-- A thread makes its next atomic step. -/
def move (shared : Shared Mark) (thread : Thread Seen) (outcome : Bool) :
    Shared Mark × Thread Seen :=
  match thread.phase with
  | .knocking =>
      let (after, taker) := take shared thread
      (after, { taker with phase := if taker.owned then .launching else .gone })
  | .launching => (shared, { thread with phase := if outcome then flight.entry else .dropping })
  | .building => (shared, { thread with phase := if outcome then flight.head else .dropping })
  | .beginning => flight.startRun shared thread
  | .working =>
      ({ shared with completed := shared.completed ++ [thread.covers] },
        { thread with phase := .checking })
  | .checking =>
      if flight.news shared.mark thread.seen then
        if flight.clears then (shared, { thread with phase := .beginning })
        else flight.startRun shared thread
      else (shared, { thread with phase := .releasing })
  | .releasing =>
      let (after, releaser) := release shared thread
      (after, { releaser with phase := .rechecking })
  | .rechecking =>
      (shared, { thread with
        phase := if flight.news shared.mark thread.seen then .retaking else .dropping })
  | .retaking =>
      let (after, taker) := take shared thread
      (after, { taker with phase := if taker.owned then flight.head else .dropping })
  | .dropping =>
      let (after, releaser) := release shared thread
      (after, { releaser with phase := .gone })
  | .gone => (shared, thread)

def program : Threads.Program (Shared Mark) (Thread Seen) Unit Bool Empty Empty where
  enter shared _ := (flight.announce shared, flight.newcomer)
  move shared thread outcome :=
    ((flight.move shared thread outcome).1, (flight.move shared thread outcome).2, [])
  disturb shared _ := shared

/-- Callers and workers take their atomic steps in any order. -/
def machine : Machine (State Mark Seen) Step Empty := flight.program.machine

theorem machine_call (state : State Mark Seen) :
    (flight.machine.step state (.call ())).1 =
      ⟨flight.announce state.shared, state.threads ++ [flight.newcomer]⟩ := rfl

theorem machine_advance {state : State Mark Seen} {index : Nat} {thread : Thread Seen}
    (outcome : Bool) (found : state.threads[index]? = some thread) :
    (flight.machine.step state (.advance index outcome)).1 =
      ⟨(flight.move state.shared thread outcome).1,
        state.threads.set index (flight.move state.shared thread outcome).2⟩ := by
  rw [machine, flight.program.machine_advance outcome found]
  rfl

/-- The phase of a thread tells whether it owns the slot, up to the drop of its guard. -/
def Fits (thread : Thread Seen) : Prop :=
  match thread.phase with
  | .launching | .building | .beginning | .working | .checking | .releasing => thread.owned = true
  | .knocking | .rechecking | .retaking | .gone => thread.owned = false
  | .dropping => True

/-- A step takes the free slot, gives the owned slot back, or leaves the ownership as it is. -/
inductive Handover (shared after : Shared Mark) (thread next : Thread Seen) : Prop
  | same (slot : after.slot = shared.slot) (owned : next.owned = thread.owned)
  | took (free : shared.slot = false) (slot : after.slot = true) (before : thread.owned = false)
      (owned : next.owned = true)
  | gave (before : thread.owned = true) (slot : after.slot = false) (owned : next.owned = false)

theorem take_handover (shared : Shared Mark) (thread : Thread Seen)
    (before : thread.owned = false) :
    Handover shared (take shared thread).1 thread (take shared thread).2 := by
  cases occupied : shared.slot with
  | true => exact .same (by simp [take, occupied]) (by simp [take, occupied, before])
  | false => exact .took occupied rfl before (by simp [take, occupied])

theorem release_handover (shared : Shared Mark) (thread : Thread Seen) :
    Handover shared (release shared thread).1 thread (release shared thread).2 := by
  unfold release
  split
  next before => exact .gave before rfl rfl
  next => exact .same rfl rfl

theorem Handover.atPhase {shared after : Shared Mark} {thread next : Thread Seen}
    (handover : Handover shared after thread next) (phase : Phase) :
    Handover shared after thread { next with phase := phase } := by
  cases handover with
  | same slot owned => exact .same slot owned
  | took free slot before owned => exact .took free slot before owned
  | gave before slot owned => exact .gave before slot owned

theorem move_handover (shared : Shared Mark) {thread : Thread Seen} (outcome : Bool)
    (fits : Fits thread) :
    Handover shared (flight.move shared thread outcome).1 thread
      (flight.move shared thread outcome).2 := by
  unfold move
  unfold Fits at fits
  cases phase : thread.phase with
  | knocking =>
      rw [phase] at fits
      exact (take_handover shared thread fits).atPhase _
  | launching => exact .same rfl rfl
  | building => exact .same rfl rfl
  | beginning => exact .same rfl rfl
  | working => exact .same rfl rfl
  | checking =>
      dsimp only
      split
      next =>
        split
        next => exact .same rfl rfl
        next => exact .same rfl rfl
      next => exact .same rfl rfl
  | releasing => exact (release_handover shared thread).atPhase _
  | rechecking => exact .same rfl rfl
  | retaking =>
      rw [phase] at fits
      exact (take_handover shared thread fits).atPhase _
  | dropping => exact (release_handover shared thread).atPhase _
  | gone => exact .same rfl rfl

theorem fits_head {thread : Thread Seen} (owned : thread.owned = true) :
    Fits { thread with phase := flight.head } := by
  unfold head
  split
  next => exact owned
  next => exact owned

theorem fits_entry {thread : Thread Seen} (owned : thread.owned = true) :
    Fits { thread with phase := flight.entry } := by
  unfold entry
  split
  next => exact owned
  next => exact flight.fits_head owned

theorem release_owned (shared : Shared Mark) (thread : Thread Seen) :
    (release shared thread).2.owned = false := by
  unfold release
  split
  next => rfl
  next unowned => simpa using unowned

theorem move_fits (shared : Shared Mark) {thread : Thread Seen} (outcome : Bool)
    (fits : Fits thread) : Fits (flight.move shared thread outcome).2 := by
  unfold move
  unfold Fits at fits
  cases phase : thread.phase with
  | knocking =>
      cases occupied : shared.slot with
      | true => simp [take, occupied, Fits]
      | false => simp [take, occupied, Fits]
  | launching =>
      rw [phase] at fits
      cases outcome with
      | true => exact flight.fits_entry fits
      | false => trivial
  | building =>
      rw [phase] at fits
      cases outcome with
      | true => exact flight.fits_head fits
      | false => trivial
  | beginning =>
      rw [phase] at fits
      exact fits
  | working =>
      rw [phase] at fits
      exact fits
  | checking =>
      rw [phase] at fits
      dsimp only
      split
      next =>
        split
        next => exact fits
        next => exact fits
      next => exact fits
  | releasing => exact release_owned shared thread
  | rechecking =>
      rw [phase] at fits
      dsimp only
      split
      next => exact fits
      next => trivial
  | retaking =>
      cases occupied : shared.slot with
      | true => simp [take, occupied, Fits]
      | false =>
          simp only [take, occupied, Bool.not_false, if_true]
          have owner : ({ thread with owned := true } : Thread Seen).owned = true := rfl
          exact flight.fits_head owner
  | dropping => exact release_owned shared thread
  | gone =>
      rw [phase] at fits
      simpa [Fits, phase] using fits

/-- The slot is taken exactly while one thread owns it. -/
structure Held (state : State Mark Seen) : Prop where
  fits : ∀ thread ∈ state.threads, Fits thread
  owners : state.threads.countP (·.owned) = state.shared.slot.toNat

theorem held_initial : Held flight.initial := ⟨by simp [initial], rfl⟩

theorem held_step {state : State Mark Seen} (held : Held state) (step : Step) :
    Held (flight.machine.step state step).1 := by
  cases step with
  | call request =>
      rw [flight.machine_call]
      refine ⟨?_, ?_⟩
      · intro thread member
        rcases List.mem_append.mp member with old | new
        · exact held.fits thread old
        · rw [List.mem_singleton.mp new]
          rfl
      · simpa [newcomer, announce] using held.owners
  | advance index outcome =>
      cases found : state.threads[index]? with
      | none =>
          rw [machine, flight.program.machine_absent outcome found]
          exact held
      | some thread =>
          rw [flight.machine_advance outcome found]
          have fits := held.fits thread (List.mem_of_getElem? found)
          refine ⟨?_, ?_⟩
          · intro other member
            rcases List.mem_or_eq_of_mem_set member with old | rfl
            · exact held.fits other old
            · exact flight.move_fits state.shared outcome fits
          · show (state.threads.set index (flight.move state.shared thread outcome).2).countP
                (·.owned) = (flight.move state.shared thread outcome).1.slot.toNat
            have owners := held.owners
            have counted := Threads.countP_set found
              (flight.move state.shared thread outcome).2 (·.owned)
            cases flight.move_handover state.shared outcome fits with
            | same slot owned =>
                rw [slot]
                rw [owned] at counted
                omega
            | took free slot before owned =>
                rw [slot]
                rw [before, owned] at counted
                rw [free] at owners
                simp only [Bool.toNat_true, Bool.toNat_false] at counted owners ⊢
                omega
            | gave before slot owned =>
                have single := Bool.toNat_le state.shared.slot
                rw [slot]
                rw [before, owned] at counted
                simp only [Bool.toNat_true, Bool.toNat_false] at counted ⊢
                omega
  | disturb change => exact change.elim

theorem held_run (steps : List Step) : Held (flight.machine.run flight.initial steps).1 :=
  flight.machine.run_invariant (fun _ _ => True) (fun state _ => Held state)
    (fun _ _ step _ held => flight.held_step held step) flight.initial [] steps
    flight.held_initial (flight.machine.guarded_true flight.initial steps)

/-- Two owners are the same thread. -/
theorem Held.unique {state : State Mark Seen} (held : Held state) {first second : Nat}
    {one other : Thread Seen} (atFirst : state.threads[first]? = some one)
    (atSecond : state.threads[second]? = some other) (owned : one.owned = true)
    (alsoOwned : other.owned = true) : first = second := by
  have single := Bool.toNat_le state.shared.slot
  rw [← held.owners] at single
  exact Threads.holder_unique single atFirst atSecond owned alsoOwned

theorem Held.owner {state : State Mark Seen} (held : Held state)
    (taken : state.shared.slot = true) : ∃ thread ∈ state.threads, thread.owned = true := by
  apply List.countP_pos_iff.mp
  rw [held.owners, taken]
  decide

/-- Only the owner of the slot gives it back. -/
theorem Held.gives {state : State Mark Seen} (held : Held state) {index : Nat} {outcome : Bool}
    (taken : state.shared.slot = true)
    (given : (flight.machine.step state (.advance index outcome)).1.shared.slot = false) :
    ∃ thread, state.threads[index]? = some thread ∧ thread.owned = true := by
  cases found : state.threads[index]? with
  | none =>
      rw [machine, flight.program.machine_absent outcome found, taken] at given
      contradiction
  | some thread =>
      rw [flight.machine_advance outcome found] at given
      refine ⟨thread, rfl, ?_⟩
      cases flight.move_handover state.shared outcome
          (held.fits thread (List.mem_of_getElem? found)) with
      | same slot owned =>
          rw [slot, taken] at given
          contradiction
      | took free slot before owned =>
          rw [free] at taken
          contradiction
      | gave before slot owned => exact before

/-- The mark of a flight tells of every request that no run has begun after. -/
structure Law where
  room : Nat → Prop
  tracks : Mark → Nat → Nat → Prop
  recalls : Seen → Nat → Prop
  idle : tracks flight.idle 0 0
  fresh : ∀ begun, recalls flight.fresh begun
  request : ∀ mark count begun, room (count + 1) → tracks mark count begun →
    tracks (flight.request mark) (count + 1) begun
  start : ∀ mark seen count begun, tracks mark count begun →
    tracks (flight.start mark seen).1 count count ∧ recalls (flight.start mark seen).2 count
  later : ∀ seen begun after, begun ≤ after → recalls seen begun → recalls seen after
  quiet : ∀ mark seen count begun, tracks mark count begun → recalls seen begun →
    flight.news mark seen = false → count ≤ begun

/-- A launch and a preparation succeed, and a request has room. -/
def Succeeds (room : Nat → Prop) (state : State Mark Seen) : Step → Prop
  | .call _ => room (state.shared.count + 1)
  | .advance index outcome =>
      ∀ thread, state.threads[index]? = some thread →
        thread.phase = .launching ∨ thread.phase = .building → outcome = true
  | .disturb _ => True

instance (room : Nat → Prop) [DecidablePred room] (state : State Mark Seen) :
    ∀ step, Decidable (Succeeds room state step)
  | .call _ => inferInstanceAs (Decidable (room _))
  | .advance index outcome =>
      inferInstanceAs (Decidable (∀ thread ∈ state.threads[index]?,
        thread.phase = .launching ∨ thread.phase = .building → outcome = true))
  | .disturb _ => inferInstanceAs (Decidable True)

def Live (thread : Thread Seen) : Prop := thread.phase ≠ .dropping ∧ thread.phase ≠ .gone

/-- Every request has a begun run after it, or a live thread that still looks for it. -/
structure Covered (law : flight.Law) (state : State Mark Seen) : Prop where
  held : Held state
  fine : ∀ thread ∈ state.threads, thread.phase = .dropping → thread.owned = false
  tracks : law.tracks state.shared.mark state.shared.count state.shared.begun
  recalls : ∀ thread ∈ state.threads, law.recalls thread.seen state.shared.begun
  begun : state.shared.begun ≤ state.shared.count
  finished : state.shared.begun = 0 ∨ state.shared.begun ∈ state.shared.completed ∨
    ∃ thread ∈ state.threads, thread.phase = .working ∧ thread.covers = state.shared.begun
  attended : state.shared.begun < state.shared.count → ∃ thread ∈ state.threads, Live thread

theorem covered_initial (law : flight.Law) : flight.Covered law flight.initial where
  held := flight.held_initial
  fine := by simp [initial]
  tracks := law.idle
  recalls := by simp [initial]
  begun := Nat.le_refl 0
  finished := .inl rfl
  attended := by simp [initial]

theorem covered_announce (law : flight.Law) {state : State Mark Seen}
    (covered : flight.Covered law state) (roomy : law.room (state.shared.count + 1)) :
    flight.Covered law (flight.machine.step state (.call ())).1 where
  held := flight.held_step covered.held (.call ())
  fine := by
    intro thread member
    rw [flight.machine_call] at member
    rcases List.mem_append.mp member with old | new
    · exact covered.fine thread old
    · rw [List.mem_singleton.mp new]
      intro dropping
      rfl
  tracks := law.request _ _ _ roomy covered.tracks
  recalls := by
    intro thread member
    rw [flight.machine_call] at member
    rcases List.mem_append.mp member with old | new
    · exact covered.recalls thread old
    · rw [List.mem_singleton.mp new]
      exact law.fresh _
  begun := Nat.le_succ_of_le covered.begun
  finished := by
    rcases covered.finished with none | done | ⟨thread, member, working⟩
    · exact .inl none
    · exact .inr (.inl done)
    · exact .inr (.inr ⟨thread, List.mem_append_left _ member, working⟩)
  attended := by
    intro missing
    refine ⟨flight.newcomer, List.mem_append_right _ (List.mem_singleton_self _), ?_⟩
    exact ⟨by simp [newcomer], by simp [newcomer]⟩

/-- A successful step keeps what the mark and the threads know about the requests. -/
structure Served (law : flight.Law) (shared after : Shared Mark) (thread next : Thread Seen) :
    Prop where
  fine : next.phase = .dropping → next.owned = false
  tracks : law.tracks after.mark after.count after.begun
  recalls : law.recalls next.seen after.begun
  count : after.count = shared.count
  grows : shared.begun ≤ after.begun
  begun : after.begun ≤ after.count
  finished : (after.begun = shared.begun ∧ shared.completed ⊆ after.completed ∧
      (thread.phase = .working → thread.covers ∈ after.completed)) ∨
    (next.phase = .working ∧ next.covers = after.begun)
  attended : after.begun < after.count → Live thread →
    Live next ∨ (shared.slot = true ∧ thread.owned = false)

variable {flight}

/-- A step of the slot and the phase alone serves the requests. -/
theorem served_local {law : flight.Law} {shared : Shared Mark} {thread : Thread Seen}
    (tracks : law.tracks shared.mark shared.count shared.begun)
    (recalls : law.recalls thread.seen shared.begun) (begun : shared.begun ≤ shared.count)
    (idle : thread.phase ≠ .working) (slot owned : Bool) (phase : Phase)
    (fine : phase = .dropping → owned = false)
    (attended : shared.begun < shared.count → Live thread →
      (phase ≠ .dropping ∧ phase ≠ .gone) ∨ (shared.slot = true ∧ thread.owned = false)) :
    flight.Served law shared { shared with slot := slot } thread
      { thread with phase := phase, owned := owned } where
  fine := fine
  tracks := tracks
  recalls := recalls
  count := rfl
  grows := Nat.le_refl _
  begun := begun
  finished := .inl ⟨rfl, List.Subset.refl _, fun working => absurd working idle⟩
  attended := attended

theorem served_start {law : flight.Law} {shared : Shared Mark} {thread : Thread Seen}
    (tracks : law.tracks shared.mark shared.count shared.begun)
    (begun : shared.begun ≤ shared.count) :
    flight.Served law shared (flight.startRun shared thread).1 thread
      (flight.startRun shared thread).2 where
  fine := by simp [startRun]
  tracks := (law.start _ _ _ _ tracks).1
  recalls := (law.start _ _ _ _ tracks).2
  count := rfl
  grows := begun
  begun := Nat.le_refl _
  finished := .inr ⟨rfl, rfl⟩
  attended := by simp [startRun]

theorem head_live : flight.head ≠ .dropping ∧ flight.head ≠ .gone := by
  unfold head
  split
  next => decide
  next => decide

theorem entry_live : flight.entry ≠ .dropping ∧ flight.entry ≠ .gone := by
  unfold entry
  split
  next => decide
  next => exact head_live

theorem release_local (shared : Shared Mark) (thread : Thread Seen) :
    ∃ slot, release shared thread =
      ({ shared with slot := slot }, { thread with owned := false }) := by
  unfold release
  split
  next => exact ⟨false, rfl⟩
  next unowned =>
    have free : thread.owned = false := by simpa using unowned
    refine ⟨shared.slot, ?_⟩
    rw [← free]

theorem move_served {law : flight.Law} {shared : Shared Mark} {thread : Thread Seen}
    (fits : Fits thread) (fine : thread.phase = .dropping → thread.owned = false)
    (tracks : law.tracks shared.mark shared.count shared.begun)
    (recalls : law.recalls thread.seen shared.begun) (begun : shared.begun ≤ shared.count)
    {outcome : Bool}
    (success : thread.phase = .launching ∨ thread.phase = .building → outcome = true) :
    flight.Served law shared (flight.move shared thread outcome).1 thread
      (flight.move shared thread outcome).2 := by
  have step := served_local tracks recalls begun
  unfold Fits at fits
  unfold move
  cases phase : thread.phase with
  | knocking =>
      rw [phase] at fits
      refine step (by simp [phase]) _ _ _ ?_ ?_
      · cases occupied : shared.slot with
        | true => simp [take, occupied]
        | false => simp [take, occupied]
      · intro missing live
        cases occupied : shared.slot with
        | true => exact .inr ⟨rfl, fits⟩
        | false => exact .inl (by simp [take, occupied])
  | launching =>
      rw [success (.inl phase)]
      refine step (by simp [phase]) shared.slot thread.owned flight.entry ?_ ?_
      · intro dropping
        exact absurd dropping entry_live.1
      · intro missing live
        exact .inl entry_live
  | building =>
      rw [success (.inr phase)]
      refine step (by simp [phase]) shared.slot thread.owned flight.head ?_ ?_
      · intro dropping
        exact absurd dropping head_live.1
      · intro missing live
        exact .inl head_live
  | beginning => exact served_start tracks begun
  | working =>
      constructor
      case fine => simp
      case tracks => exact tracks
      case recalls => exact recalls
      case count => rfl
      case grows => exact Nat.le_refl _
      case begun => exact begun
      case finished =>
        refine .inl ⟨rfl, List.subset_append_left _ _, ?_⟩
        intro working
        exact List.mem_append_right _ (List.mem_singleton_self _)
      case attended => simp [Live]
  | checking =>
      dsimp only
      split
      next =>
        split
        next => exact step (by simp [phase]) shared.slot thread.owned .beginning (by simp) (by simp)
        next => exact served_start tracks begun
      next => exact step (by simp [phase]) shared.slot thread.owned .releasing (by simp) (by simp)
  | releasing =>
      obtain ⟨slot, released⟩ := release_local shared thread
      rw [released]
      exact step (by simp [phase]) slot false .rechecking (by simp) (by simp)
  | rechecking =>
      rw [phase] at fits
      cases news : flight.news shared.mark thread.seen with
      | true => exact step (by simp [phase]) shared.slot thread.owned .retaking (by simp) (by simp)
      | false =>
          refine step (by simp [phase]) shared.slot thread.owned .dropping (fun _ => fits) ?_
          intro missing live
          have quiet := law.quiet _ _ _ _ tracks recalls news
          omega
  | retaking =>
      rw [phase] at fits
      refine step (by simp [phase]) _ _ _ ?_ ?_
      · cases occupied : shared.slot with
        | true => simp [take, occupied]
        | false =>
            intro dropping
            exact absurd dropping (by simpa [take, occupied] using head_live.1)
      · intro missing live
        cases occupied : shared.slot with
        | true => exact .inr ⟨rfl, fits⟩
        | false => exact .inl (by simpa [take, occupied] using head_live)
  | dropping =>
      obtain ⟨slot, released⟩ := release_local shared thread
      rw [released]
      refine step (by simp [phase]) slot false .gone (by simp) ?_
      intro missing live
      exact absurd phase live.1
  | gone =>
      refine step (by simp [phase]) shared.slot thread.owned thread.phase ?_ ?_
      · exact fine
      · intro missing live
        exact .inl live

theorem covered_advance {law : flight.Law} {state : State Mark Seen}
    (covered : flight.Covered law state) {index : Nat} {outcome : Bool}
    (success : Succeeds law.room state (.advance index outcome)) :
    flight.Covered law (flight.machine.step state (.advance index outcome)).1 := by
  have held := flight.held_step covered.held (.advance index outcome)
  cases found : state.threads[index]? with
  | none =>
      rw [machine, flight.program.machine_absent outcome found]
      exact covered
  | some thread =>
      have present := List.mem_of_getElem? found
      have served := move_served (covered.held.fits _ present) (covered.fine _ present)
        covered.tracks (covered.recalls _ present) covered.begun (success thread found)
      have replaced : (flight.move state.shared thread outcome).2 ∈
          state.threads.set index (flight.move state.shared thread outcome).2 :=
        List.mem_set (List.getElem?_eq_some_iff.mp found).1 _
      rw [flight.machine_advance outcome found] at held ⊢
      constructor
      case held => exact held
      case fine =>
        intro other member
        rcases List.mem_or_eq_of_mem_set member with old | rfl
        · exact covered.fine other old
        · exact served.fine
      case tracks => exact served.tracks
      case recalls =>
        intro other member
        rcases List.mem_or_eq_of_mem_set member with old | rfl
        · exact law.later _ _ _ served.grows (covered.recalls other old)
        · exact served.recalls
      case begun => exact served.begun
      case finished =>
        rcases served.finished with ⟨same, kept, ends⟩ | started
        · rw [same]
          rcases covered.finished with none | done | ⟨worker, member, working, covers⟩
          · exact .inl none
          · exact .inr (.inl (kept done))
          · by_cases self : worker = thread
            · rw [self] at working covers
              rw [← covers]
              exact .inr (.inl (ends working))
            · exact .inr (.inr ⟨worker, Threads.mem_set_of_ne found member self, working, covers⟩)
        · exact .inr (.inr ⟨_, replaced, started⟩)
      case attended =>
        intro missing
        have before : state.shared.begun < state.shared.count := by
          rw [← served.count]
          exact Nat.lt_of_le_of_lt served.grows missing
        obtain ⟨attendant, member, live⟩ := covered.attended before
        by_cases self : attendant = thread
        · rw [self] at live
          rcases served.attended missing live with still | ⟨taken, unowned⟩
          · exact ⟨_, replaced, still⟩
          · obtain ⟨owner, ownerMember, owned⟩ := covered.held.owner taken
            have other : owner ≠ thread := by
              rintro rfl
              rw [unowned] at owned
              contradiction
            refine ⟨owner, Threads.mem_set_of_ne found ownerMember other, ?_, ?_⟩
            · intro dropping
              rw [covered.fine owner ownerMember dropping] at owned
              contradiction
            · intro gone
              have fits := covered.held.fits owner ownerMember
              simp only [Fits, gone] at fits
              rw [fits] at owned
              contradiction
        · exact ⟨attendant, Threads.mem_set_of_ne found member self, live⟩

theorem covered_run (law : flight.Law) (steps : List Step)
    (success : flight.machine.Guarded (Succeeds law.room) flight.initial steps) :
    flight.Covered law (flight.machine.run flight.initial steps).1 := by
  apply flight.machine.run_invariant (Succeeds law.room) (fun state _ => flight.Covered law state)
    _ flight.initial [] steps (flight.covered_initial law) success
  intro state past step succeeded covered
  cases step with
  | call request => exact flight.covered_announce law covered succeeded
  | advance index outcome => exact covered_advance covered succeeded
  | disturb change => exact change.elim

/-- A complete run has begun after every request as soon as no thread is left. -/
theorem no_lost_request (law : flight.Law) (steps : List Step)
    (success : flight.machine.Guarded (Succeeds law.room) flight.initial steps)
    (quiescent : ∀ thread ∈ (flight.machine.run flight.initial steps).1.threads, thread.phase = .gone)
    {request : Nat}
    (announced : request < (flight.machine.run flight.initial steps).1.shared.count) :
    ∃ covers ∈ (flight.machine.run flight.initial steps).1.shared.completed, request < covers := by
  have covered := covered_run law steps success
  have begun : (flight.machine.run flight.initial steps).1.shared.count ≤
      (flight.machine.run flight.initial steps).1.shared.begun := by
    by_contra missing
    obtain ⟨thread, member, live⟩ := covered.attended (by omega)
    exact live.2 (quiescent thread member)
  rcases covered.finished with none | done | ⟨thread, member, working, covers⟩
  · omega
  · exact ⟨_, done, by omega⟩
  · rw [quiescent thread member] at working
    contradiction

end Flight

end SingleFlight
