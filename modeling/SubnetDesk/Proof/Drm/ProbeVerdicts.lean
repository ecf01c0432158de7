import SubnetDesk.Construction.Drm.Probe

namespace SubnetDesk.Drm

/-- A task holds the flag from its successful swap to the drop of its guard. -/
def ProbeTask.holdsFlag : ProbeTask → Bool
  | .sampling kind | .launching kind _ | .starting kind _ | .querying kind _ _ _ => kind.guarded
  | .dropping => true
  | _ => false

/-- The generation never falls below a sampled one. -/
def ProbeTask.Fits (generation : Nat) : ProbeTask → Prop
  | .swapping kind => kind.guarded = true
  | .sampling kind => kind.guarded = true ∨ kind = .login
  | .launching kind sampled => kind.guarded = true ∧ sampled ≤ generation
  | .starting _ sampled => sampled ≤ generation
  | .querying _ sampled began _ => sampled ≤ began ∧ began ≤ generation
  | _ => True

/-- An unchecked query is under way, and its answer will be published. -/
def ProbeTask.willPublish (shared : ProbeShared) : ProbeTask → Bool
  | .querying (.verdict _) _ _ answer =>
      answer.isSome || drmProbeMaxFailures ≤ shared.probeFailures + 1
  | .querying (.warm _) _ _ answer => answer.any fun list => !list.isEmpty
  | _ => false

/-- A task fits a later generation. -/
theorem ProbeTask.Fits.later {generation after : Nat} (grows : generation ≤ after) :
    ∀ {task : ProbeTask}, task.Fits generation → task.Fits after
  | .swapping _, fits => fits
  | .sampling _, fits => fits
  | .launching _ _, fits => ⟨fits.1, Nat.le_trans fits.2 grows⟩
  | .starting _ _, fits => Nat.le_trans fits grows
  | .querying _ _ _ _, fits => ⟨fits.1, Nat.le_trans fits.2 grows⟩
  | .asking _, _ | .rereading, _ | .dropping, _ | .warming _, _ | .warmChecking _, _
  | .hotplug _, _ | .finished, _ => trivial

/-- A lock after a query publishes at most one verdict and leaves the flag alone. -/
structure Settled (shared after : ProbeShared) : Prop where
  generation : after.generation = shared.generation ∨ after.generation = shared.generation + 1
  inFlight : after.inFlight = shared.inFlight

theorem settled_refl (shared : ProbeShared) : Settled shared shared := ⟨.inl rfl, rfl⟩

/-- A published state is settled. -/
theorem settled_publish (shared : ProbeShared) (next : ProbeState) :
    Settled shared (publishProbeState shared next) := ⟨.inr rfl, rfl⟩

theorem probeAndPublish_settled (shared : ProbeShared) (answer : Answer) :
    Settled shared (probeAndPublish shared answer).1 := by
  unfold probeAndPublish
  split
  next => exact ⟨.inr rfl, rfl⟩
  next => exact settled_publish shared _
  next =>
    dsimp only
    split
    next => exact ⟨.inr rfl, rfl⟩
    next => exact ⟨.inl rfl, rfl⟩

theorem refreshUnavailable_settled (shared : ProbeShared) (answer : Answer) :
    Settled shared (refreshUnavailable shared answer) := by
  unfold refreshUnavailable
  split
  next => exact ⟨.inr rfl, rfl⟩
  next => exact settled_publish shared _

theorem restamp_settled (shared : ProbeShared) : Settled shared (restamp shared) := by
  unfold restamp
  split
  next => exact ⟨.inl rfl, rfl⟩
  next => exact settled_refl shared

/-- A refresh leaves a settled state. -/
theorem refreshAvailable_settled (shared : ProbeShared) (answer : Answer) :
    Settled shared (refreshAvailable shared answer) := by
  unfold refreshAvailable
  dsimp only
  split
  next => exact ⟨.inr rfl, rfl⟩
  next => exact ⟨.inr rfl, rfl⟩
  next =>
    have stamped := restamp_settled { shared with
      refreshFailures := if answer.isSome then 0 else shared.refreshFailures + 1 }
    exact ⟨stamped.generation, stamped.inFlight⟩
  next => exact ⟨.inr rfl, rfl⟩

theorem refreshForLogin_settled (shared : ProbeShared) (answer : Answer) :
    Settled shared (refreshForLogin shared answer) := by
  unfold refreshForLogin
  split
  next => exact settled_publish shared _
  next => exact settled_refl shared

/-- A warm start leaves a settled state. -/
theorem warmPublish_settled (shared : ProbeShared) (answer : Answer) :
    Settled shared (warmPublish shared answer) := by
  unfold warmPublish
  split
  next => exact settled_publish shared _
  next => exact settled_refl shared

theorem swapAvailableDisplays_settled (shared : ProbeShared) (list : List DrmDisplayInfo) :
    Settled shared (swapAvailableDisplays shared list) := by
  unfold swapAvailableDisplays
  split
  next => exact settled_publish shared _
  next => exact settled_publish shared _
  next => exact settled_refl shared

/-- Every kind of probe leaves a settled state. -/
theorem settle_settled (shared : ProbeShared) (kind : ProbeKind) (sampled : Nat)
    (answer : Answer) : Settled shared (settle shared kind sampled answer) := by
  unfold settle
  split
  next => exact probeAndPublish_settled shared answer
  next => exact warmPublish_settled shared answer
  next =>
    split
    next => exact settled_refl shared
    next => exact refreshAvailable_settled shared answer
  next =>
    split
    next => exact settled_refl shared
    next => exact refreshUnavailable_settled shared answer
  next =>
    split
    next => exact settled_refl shared
    next => exact refreshForLogin_settled shared answer

/-- A checked probe publishes only under the generation that it sampled. -/
theorem settle_checked {shared : ProbeShared} {kind : ProbeKind} {sampled : Nat}
    {answer : Answer} (checked : kind.checked = true)
    (published : (settle shared kind sampled answer).generation ≠ shared.generation) :
    shared.generation = sampled := by
  by_contra different
  cases kind with
  | verdict blocking => contradiction
  | warm rounds => contradiction
  | available => exact published (by simp [settle, different])
  | unavailable => exact published (by simp [settle, different])
  | login => exact published (by simp [settle, different])

/-- An unchecked probe publishes exactly when its task says so. -/
theorem settle_unchecked {shared : ProbeShared} {kind : ProbeKind} (sampled began : Nat)
    {answer : Answer} (unchecked : kind.checked = false) :
    (settle shared kind sampled answer).generation ≠ shared.generation ↔
      (ProbeTask.querying kind sampled began answer).willPublish shared = true := by
  cases kind with
  | available => contradiction
  | unavailable => contradiction
  | login => contradiction
  | verdict blocking =>
      rcases answer with _ | _ | ⟨display, rest⟩
      · by_cases many : drmProbeMaxFailures ≤ shared.probeFailures + 1
        · simp [settle, probeAndPublish, publishProbeState, ProbeTask.willPublish, many]
        · simp [settle, probeAndPublish, ProbeTask.willPublish, many]
      · simp [settle, probeAndPublish, publishProbeState, ProbeTask.willPublish]
      · simp [settle, probeAndPublish, publishProbeState, ProbeTask.willPublish]
  | warm rounds =>
      rcases answer with _ | _ | ⟨display, rest⟩
      · simp [settle, warmPublish, ProbeTask.willPublish]
      · simp [settle, warmPublish, ProbeTask.willPublish]
      · simp [settle, warmPublish, publishProbeState, ProbeTask.willPublish]

/-- Only a probe that holds the flag counts the failures. -/
theorem settle_failures {shared : ProbeShared} {kind : ProbeKind} {sampled : Nat}
    {answer : Answer} (unguarded : kind.guarded = false) :
    (settle shared kind sampled answer).probeFailures = shared.probeFailures := by
  cases kind with
  | verdict blocking => contradiction
  | available => contradiction
  | unavailable => contradiction
  | warm rounds =>
      rcases answer with _ | _ | ⟨display, rest⟩
      · rfl
      · rfl
      · rfl
  | login =>
      simp only [settle]
      split
      next => rfl
      next =>
        unfold refreshForLogin
        split
        next => rfl
        next => rfl

def ProbeEvent.isAnswer : ProbeEvent → Bool
  | .answered _ => true
  | .published _ _ _ => false

/-- This structure says all that a step of a task does to the flag, the generation, and the events. -/
structure ProbeMoved (shared : ProbeShared) (task : ProbeTask) (after : ProbeShared)
    (next : ProbeTask) (events : List ProbeEvent) : Prop where
  generation : after.generation = shared.generation ∨ after.generation = shared.generation + 1
  fits : next.Fits after.generation
  flag : next.holdsFlag.toNat + shared.inFlight.toNat =
    task.holdsFlag.toNat + after.inFlight.toNat
  failures : task.holdsFlag = false → after.probeFailures = shared.probeFailures
  fresh : next.willPublish after = true → after.generation = shared.generation ∧
    ∃ kind sampled answer, next = .querying kind sampled shared.generation answer
  events : ∀ kind began generation, .published kind began generation ∈ events →
    generation = shared.generation ∧ after.generation ≠ shared.generation ∧
      ∃ sampled answer, task = .querying kind sampled began answer

/-- A step that only moves its task publishes nothing. -/
theorem probeMoved_local {shared : ProbeShared} {task next : ProbeTask}
    {events : List ProbeEvent} (fits : next.Fits shared.generation)
    (flag : next.holdsFlag = task.holdsFlag) (quiet : next.willPublish shared = false)
    (answers : ∀ event ∈ events, event.isAnswer = true) :
    ProbeMoved shared task shared next events where
  generation := .inl rfl
  fits := fits
  flag := by rw [flag]
  failures _ := rfl
  fresh publishes := by
    rw [quiet] at publishes
    contradiction
  events kind began generation member := by
    have answer := answers _ member
    contradiction

/-- A question moves by the rules. -/
theorem ask_moved (shared : ProbeShared) (blocking : Bool) :
    ProbeMoved shared (.asking blocking) shared (ask shared blocking).1
      (ask shared blocking).2 := by
  unfold ask
  split
  next =>
    dsimp only
    split
    next => exact probeMoved_local rfl rfl rfl (by simp [ProbeEvent.isAnswer])
    next => exact probeMoved_local trivial rfl rfl (by simp [ProbeEvent.isAnswer])
  next =>
    dsimp only
    split
    next => exact probeMoved_local rfl rfl rfl (by simp [ProbeEvent.isAnswer])
    next => exact probeMoved_local trivial rfl rfl (by simp [ProbeEvent.isAnswer])
  next => exact probeMoved_local rfl rfl rfl (by simp)

/-- The flag is taken by the rules. -/
theorem probeMoved_took {shared : ProbeShared} {task next : ProbeTask}
    (free : shared.inFlight = false) (fits : next.Fits shared.generation)
    (before : task.holdsFlag = false) (holds : next.holdsFlag = true)
    (quiet : next.willPublish { shared with inFlight := true } = false) :
    ProbeMoved shared task { shared with inFlight := true } next [] where
  generation := .inl rfl
  fits := fits
  flag := by
    rw [holds, before, free]
    rfl
  failures _ := rfl
  fresh publishes := by
    rw [quiet] at publishes
    contradiction
  events := by simp

/-- The entry moves by the rules. -/
theorem enterFlight_moved {shared : ProbeShared} {kind : ProbeKind}
    (fits : kind.guarded = true) :
    ProbeMoved shared (.swapping kind) (enterFlight shared kind).1 (enterFlight shared kind).2.1
      (enterFlight shared kind).2.2 := by
  unfold enterFlight
  split
  next =>
    split
    next => exact probeMoved_local trivial rfl rfl (by simp)
    next => exact probeMoved_local trivial rfl rfl (by simp [ProbeEvent.isAnswer])
    next => exact probeMoved_local trivial rfl rfl (by simp)
  next free =>
    have unheld : shared.inFlight = false := by simpa using free
    split
    next => exact probeMoved_took unheld (Nat.zero_le _) rfl rfl rfl
    next => exact probeMoved_took unheld ⟨rfl, Nat.zero_le _⟩ rfl rfl rfl
    next => exact probeMoved_took unheld (.inl fits) rfl fits rfl

/-- A sample moves by the rules. -/
theorem sample_moved {shared : ProbeShared} {kind : ProbeKind}
    (fits : kind.guarded = true ∨ kind = .login) :
    ProbeMoved shared (.sampling kind) shared (sample shared kind) [] := by
  rcases fits with guarded | rfl
  · unfold sample
    split
    next => exact probeMoved_local ⟨rfl, Nat.le_refl _⟩ rfl rfl (by simp)
    next =>
      split
      next => exact probeMoved_local ⟨rfl, Nat.le_refl _⟩ rfl rfl (by simp)
      next => exact probeMoved_local trivial rfl rfl (by simp)
    next => contradiction
    next => contradiction
    next => exact probeMoved_local trivial guarded.symm rfl (by simp)
  · cases verdict : shared.state with
    | available since list =>
        simp only [sample, verdict]
        exact probeMoved_local (Nat.le_refl shared.generation) rfl rfl (by simp)
    | unavailable since =>
        simp only [sample, verdict]
        exact probeMoved_local trivial rfl rfl (by simp)
    | unknown =>
        simp only [sample, verdict]
        exact probeMoved_local trivial rfl rfl (by simp)

/-- The last step moves by the rules. -/
theorem settle_moved {shared : ProbeShared} {kind : ProbeKind} {sampled began : Nat}
    {answer : Answer} :
    ProbeMoved shared (.querying kind sampled began answer) (settle shared kind sampled answer)
      (afterSettle kind answer) (settleEvents shared kind sampled began answer) := by
  have settled := settle_settled shared kind sampled answer
  have rests : ∀ after, (afterSettle kind answer).willPublish after = false ∧
      (afterSettle kind answer).Fits after.generation ∧
      (afterSettle kind answer).holdsFlag = kind.guarded := by
    intro after
    cases kind with
    | verdict blocking => exact ⟨rfl, trivial, rfl⟩
    | available => exact ⟨rfl, trivial, rfl⟩
    | unavailable => exact ⟨rfl, trivial, rfl⟩
    | login => exact ⟨rfl, trivial, rfl⟩
    | warm rounds =>
        rcases answer with _ | _ | ⟨display, rest⟩
        · exact ⟨rfl, trivial, rfl⟩
        · exact ⟨rfl, trivial, rfl⟩
        · exact ⟨rfl, trivial, rfl⟩
  obtain ⟨quiet, fits, holds⟩ := rests (settle shared kind sampled answer)
  constructor
  case generation => exact settled.generation
  case fits => exact fits
  case flag => rw [holds, settled.inFlight, ProbeTask.holdsFlag]
  case failures => exact settle_failures
  case fresh =>
    intro publishes
    rw [quiet] at publishes
    contradiction
  case events =>
    intro other start generation member
    simp only [settleEvents, List.mem_append] at member
    rcases member with published | answered
    · split at published
      next changed =>
        simp only [List.mem_singleton, ProbeEvent.published.injEq] at published
        obtain ⟨rfl, rfl, rfl⟩ := published
        exact ⟨rfl, changed, sampled, answer, rfl⟩
      next => simp at published
    · split at answered
      next => simp at answered
      next => simp at answered

/-- Every step of a task moves by the rules. -/
theorem moveProbe_moved {shared : ProbeShared} {task : ProbeTask} (choice : ProbeChoice)
    (fits : task.Fits shared.generation)
    (held : task.holdsFlag = true → shared.inFlight = true) :
    ProbeMoved shared task (moveProbe shared task choice).1 (moveProbe shared task choice).2.1
      (moveProbe shared task choice).2.2 := by
  cases task with
  | asking blocking => exact ask_moved shared blocking
  | swapping kind => exact enterFlight_moved fits
  | rereading => exact probeMoved_local trivial rfl rfl (by simp [moveProbe, ProbeEvent.isAnswer])
  | sampling kind => exact sample_moved fits
  | launching kind sampled =>
      have answers : ∀ event ∈ (if kind = .verdict false then
          [ProbeEvent.answered .unsettled] else []), event.isAnswer = true := by
        split
        next => simp [ProbeEvent.isAnswer]
        next => simp
      simp only [moveProbe]
      split
      next => exact probeMoved_local fits.2 rfl rfl answers
      next => exact probeMoved_local trivial fits.1.symm rfl answers
  | starting kind sampled =>
      constructor
      case generation => exact .inl rfl
      case fits => exact ⟨fits, Nat.le_refl _⟩
      case flag => rfl
      case failures => exact fun _ => rfl
      case fresh => exact fun _ => ⟨rfl, kind, sampled, choice.answer, rfl⟩
      case events => simp [moveProbe]
  | querying kind sampled began answer => exact settle_moved
  | dropping =>
      constructor
      case generation => exact .inl rfl
      case fits => trivial
      case flag =>
        rw [held rfl]
        rfl
      case failures => exact fun _ => rfl
      case fresh =>
        intro publishes
        contradiction
      case events => simp [moveProbe]
  | warming rounds =>
      cases rounds with
      | zero => exact probeMoved_local trivial rfl rfl (by simp [moveProbe])
      | succ rounds =>
          simp only [moveProbe]
          split
          next => exact probeMoved_local trivial rfl rfl (by simp)
          next => exact probeMoved_local trivial rfl rfl (by simp)
  | warmChecking rounds =>
      simp only [moveProbe]
      split
      next => exact probeMoved_local trivial rfl rfl (by simp)
      next => exact probeMoved_local (Nat.zero_le _) rfl rfl (by simp)
  | hotplug list =>
      have settled := swapAvailableDisplays_settled shared list
      constructor
      case generation => exact settled.generation
      case fits => trivial
      case flag =>
        simp only [moveProbe]
        rw [settled.inFlight]
        rfl
      case failures =>
        intro unheld
        simp only [moveProbe]
        unfold swapAvailableDisplays
        split
        next => rfl
        next => rfl
        next => rfl
      case fresh =>
        intro publishes
        contradiction
      case events => simp [moveProbe]
  | finished => exact probeMoved_local trivial rfl rfl (by simp [moveProbe])

/-- One task at most holds the flag, and no sampled generation lies ahead. -/
structure Flown (state : ProbeSystem) : Prop where
  fits : ∀ task ∈ state.threads, task.Fits state.shared.generation
  holders : state.threads.countP (·.holdsFlag) = state.shared.inFlight.toNat

theorem flown_initial : Flown initialProbes := ⟨by simp [initialProbes], rfl⟩

/-- A task with the flag has set it. -/
theorem Flown.held {state : ProbeSystem} (flown : Flown state) {task : ProbeTask}
    (member : task ∈ state.threads) (holds : task.holdsFlag = true) :
    state.shared.inFlight = true := by
  have positive := List.countP_pos_iff.mpr ⟨task, member, holds⟩
  rw [flown.holders] at positive
  cases inFlight : state.shared.inFlight with
  | true => rfl
  | false => simp [inFlight] at positive

/-- A move leaves the flag with one task. -/
theorem Flown.moved {state : ProbeSystem} (flown : Flown state) {index : Nat}
    {task : ProbeTask} (found : state.threads[index]? = some task) (choice : ProbeChoice) :
    ProbeMoved state.shared task (moveProbe state.shared task choice).1
      (moveProbe state.shared task choice).2.1 (moveProbe state.shared task choice).2.2 :=
  moveProbe_moved choice (flown.fits task (List.mem_of_getElem? found))
    (flown.held (List.mem_of_getElem? found))

theorem call_fits (call : ProbeCall) (generation : Nat) :
    call.task.Fits generation ∧ call.task.holdsFlag = false := by
  cases call with
  | availability => exact ⟨trivial, rfl⟩
  | availabilityCached => exact ⟨trivial, rfl⟩
  | refreshAvailableAsync => exact ⟨rfl, rfl⟩
  | refreshUnavailableAsync => exact ⟨rfl, rfl⟩
  | warmAvailability => exact ⟨trivial, rfl⟩
  | refreshDisplaysForLogin => exact ⟨.inr rfl, rfl⟩
  | swapAvailableDisplays list => exact ⟨trivial, rfl⟩

/-- One step leaves the flag with one task. -/
theorem flown_step {state : ProbeSystem} (flown : Flown state)
    (event : Threads.Event ProbeCall ProbeChoice Nat) : Flown (probes.step state event).1 := by
  cases event with
  | call call =>
      obtain ⟨fits, unheld⟩ := call_fits call state.shared.generation
      rw [probes, probeProgram.machine_call]
      refine ⟨?_, ?_⟩
      · intro task member
        rcases List.mem_append.mp member with old | new
        · exact flown.fits task old
        · rw [List.mem_singleton.mp new]
          exact fits
      · show (state.threads ++ [call.task]).countP (·.holdsFlag) = state.shared.inFlight.toNat
        rw [List.countP_append, List.countP_singleton, unheld]
        exact flown.holders
  | advance index choice =>
      cases found : state.threads[index]? with
      | none =>
          rw [probes, probeProgram.machine_absent choice found]
          exact flown
      | some task =>
          have moved := flown.moved found choice
          have grows : state.shared.generation ≤
              (moveProbe state.shared task choice).1.generation := by
            rcases moved.generation with same | next
            · omega
            · omega
          rw [probes, probeProgram.machine_advance choice found]
          refine ⟨?_, ?_⟩
          · intro other member
            rcases List.mem_or_eq_of_mem_set member with old | rfl
            · exact (flown.fits other old).later grows
            · exact moved.fits
          · show (state.threads.set index (moveProbe state.shared task choice).2.1).countP
                (·.holdsFlag) = (moveProbe state.shared task choice).1.inFlight.toNat
            have counted := Threads.countP_set found (moveProbe state.shared task choice).2.1
              (·.holdsFlag)
            have holders := flown.holders
            have flag := moved.flag
            omega
  | disturb passed => exact ⟨flown.fits, flown.holders⟩

/-- In every run one task has the flag. -/
theorem flown_run (events : List (Threads.Event ProbeCall ProbeChoice Nat)) :
    Flown (probes.run initialProbes events).1 :=
  probes.run_invariant (fun _ _ => True) (fun state _ => Flown state)
    (fun _ _ event _ flown => flown_step flown event) initialProbes [] events flown_initial
    (probes.guarded_true initialProbes events)

/-- A verdict is published by the lock after a query, and by a hotplug of an available host. -/
def ProbeTask.publishes (shared : ProbeShared) : ProbeTask → Bool
  | .querying kind sampled _ answer =>
      (settle shared kind sampled answer).generation != shared.generation
  | .hotplug _ => shared.state.isAvailable
  | _ => false

/-- Only a publishing task changes the state. -/
theorem publishes_of_changed {shared : ProbeShared} {task : ProbeTask} {choice : ProbeChoice}
    (changed : (moveProbe shared task choice).1.generation ≠ shared.generation) :
    task.publishes shared = true := by
  cases task with
  | querying kind sampled began answer => simpa [ProbeTask.publishes, moveProbe] using changed
  | hotplug list =>
      cases verdict : shared.state with
      | available since old => simp [ProbeTask.publishes, ProbeState.isAvailable, verdict]
      | unavailable since => simp [moveProbe, swapAvailableDisplays, verdict] at changed
      | unknown => simp [moveProbe, swapAvailableDisplays, verdict] at changed
  | swapping kind =>
      simp only [moveProbe, enterFlight] at changed
      split at changed
      next =>
        split at changed
        next => contradiction
        next => contradiction
        next => contradiction
      next =>
        split at changed
        next => contradiction
        next => contradiction
        next => contradiction
  | warming rounds =>
      cases rounds with
      | zero => contradiction
      | succ rounds => contradiction
  | asking blocking => contradiction
  | rereading => contradiction
  | sampling kind => contradiction
  | launching kind sampled => contradiction
  | starting kind sampled => contradiction
  | dropping => contradiction
  | warmChecking rounds => contradiction
  | finished => contradiction

/-- Nobody publishes a verdict while another task has an unchecked query under way whose answer will
be published. -/
def Unovertaken (state : ProbeSystem) : Threads.Event ProbeCall ProbeChoice Nat → Prop
  | .advance index _ =>
      ∀ task ∈ state.threads[index]?, task.publishes state.shared = true →
        ∀ other ∈ state.threads.zipIdx, other.2 ≠ index →
          other.1.willPublish state.shared = false
  | _ => True

instance (state : ProbeSystem) :
    ∀ event, Decidable (Unovertaken state event)
  | .advance index _ =>
      inferInstanceAs (Decidable (∀ task ∈ state.threads[index]?,
        task.publishes state.shared = true →
          ∀ other ∈ state.threads.zipIdx, other.2 ≠ index →
            other.1.willPublish state.shared = false))
  | .call _ => inferInstanceAs (Decidable True)
  | .disturb _ => inferInstanceAs (Decidable True)

/-- A published result is current when no verdict came since its query began. -/
def ProbeEvent.Current : ProbeEvent → Prop
  | .answered _ => True
  | .published _ began generation => began = generation

/-- No verdict came since the start of an unchecked query that will publish. -/
structure Timely (state : ProbeSystem) (past : List ProbeEvent) : Prop where
  flown : Flown state
  pending : ∀ task ∈ state.threads, task.willPublish state.shared = true →
    ∃ kind sampled answer, task = .querying kind sampled state.shared.generation answer
  events : ∀ event ∈ past, event.Current

/-- A checked probe is current in any case. -/
theorem current_of_checked {state : ProbeSystem} (flown : Flown state) {index : Nat}
    {kind : ProbeKind} {sampled began : Nat} {answer : Answer}
    (found : state.threads[index]? = some (.querying kind sampled began answer))
    (checked : kind.checked = true)
    (published : (settle state.shared kind sampled answer).generation ≠
      state.shared.generation) : began = state.shared.generation := by
  have fits := flown.fits _ (List.mem_of_getElem? found)
  have same := settle_checked checked published
  exact Nat.le_antisymm fits.2 (same ▸ fits.1)

/-- The failures count only under the flag, so they do not change for another verdict probe. -/
theorem willPublish_moved {state : ProbeSystem} (flown : Flown state) {index other : Nat}
    {task otherTask : ProbeTask} (found : state.threads[index]? = some task)
    (atOther : state.threads[other]? = some otherTask) (different : other ≠ index)
    (choice : ProbeChoice) :
    otherTask.willPublish (moveProbe state.shared task choice).1 =
      otherTask.willPublish state.shared := by
  have moved := flown.moved found choice
  cases holds : task.holdsFlag with
  | false =>
      unfold ProbeTask.willPublish
      rw [moved.failures holds]
  | true =>
      cases otherTask with
      | querying kind sampled began answer =>
          cases kind with
          | verdict blocking =>
              have single := Bool.toNat_le state.shared.inFlight
              rw [← flown.holders] at single
              exact absurd (Threads.holder_unique single atOther found rfl holds) different
          | available => rfl
          | unavailable => rfl
          | warm rounds => rfl
          | login => rfl
      | _ => rfl

theorem call_quiet (call : ProbeCall) (shared : ProbeShared) :
    call.task.willPublish shared = false := by
  cases call with
  | availability => rfl
  | availabilityCached => rfl
  | refreshAvailableAsync => rfl
  | refreshUnavailableAsync => rfl
  | warmAvailability => rfl
  | refreshDisplaysForLogin => rfl
  | swapAvailableDisplays list => rfl

/-- A step that is not overtaken is timely. -/
theorem timely_step {state : ProbeSystem} {past : List ProbeEvent}
    (event : Threads.Event ProbeCall ProbeChoice Nat) (unovertaken : Unovertaken state event)
    (timely : Timely state past) :
    Timely (probes.step state event).1 (past ++ (probes.step state event).2) := by
  have flown := flown_step timely.flown event
  cases event with
  | call call =>
      rw [probes, probeProgram.machine_call] at flown ⊢
      refine ⟨flown, ?_, ?_⟩
      · intro task member publishes
        rcases List.mem_append.mp member with old | new
        · exact timely.pending task old publishes
        · rw [List.mem_singleton.mp new] at publishes
          exact absurd ((call_quiet call state.shared).symm.trans publishes) Bool.false_ne_true
      · rw [List.append_nil]
        exact timely.events
  | advance index choice =>
      cases found : state.threads[index]? with
      | none =>
          rw [probes, probeProgram.machine_absent choice found, List.append_nil]
          exact timely
      | some task =>
          have moved := timely.flown.moved found choice
          rw [probes, probeProgram.machine_advance choice found] at flown ⊢
          refine ⟨flown, ?_, ?_⟩
          · intro other member publishes
            obtain ⟨place, atPlace⟩ := List.mem_iff_getElem?.mp member
            by_cases self : index = place
            · have inside := (List.getElem?_eq_some_iff.mp found).1
              rw [← self, List.getElem?_set_self inside] at atPlace
              rw [← Option.some.inj atPlace] at publishes ⊢
              obtain ⟨same, fresh⟩ := moved.fresh publishes
              rw [← same] at fresh
              exact fresh
            · rw [List.getElem?_set_ne self] at atPlace
              have before : other.willPublish state.shared = true := by
                rw [← willPublish_moved timely.flown found atPlace (Ne.symm self) choice]
                exact publishes
              have same : (moveProbe state.shared task choice).1.generation =
                  state.shared.generation := by
                by_contra changed
                have quiet := unovertaken task found (publishes_of_changed changed)
                  (other, place) (List.mk_mem_zipIdx_iff_getElem?.mpr atPlace) (Ne.symm self)
                rw [before] at quiet
                contradiction
              have pending := timely.pending other (List.mem_of_getElem? atPlace) before
              rw [← same] at pending
              exact pending
          · intro event member
            rcases List.mem_append.mp member with old | new
            · exact timely.events event old
            · cases event with
              | answered availability => trivial
              | published kind began generation =>
                  obtain ⟨rfl, changed, sampled, answer, rfl⟩ := moved.events _ _ _ new
                  cases checked : kind.checked with
                  | true => exact current_of_checked timely.flown found checked changed
                  | false =>
                      obtain ⟨_, _, _, same⟩ := timely.pending _ (List.mem_of_getElem? found)
                        ((settle_unchecked sampled began checked).mp changed)
                      exact (ProbeTask.querying.inj same).2.2.1
  | disturb passed =>
      refine ⟨flown, ?_, ?_⟩
      · exact timely.pending
      · show ∀ event ∈ past ++ [], event.Current
        rw [List.append_nil]
        exact timely.events

/-- In such a run every event is timely. -/
theorem timely_run (events : List (Threads.Event ProbeCall ProbeChoice Nat))
    (unovertaken : probes.Guarded Unovertaken initialProbes events) :
    ∀ event ∈ (probes.run initialProbes events).2, event.Current := by
  have timely := probes.run_invariant Unovertaken Timely
    (fun _ _ event unovertaken timely => timely_step event unovertaken timely) initialProbes []
    events ⟨flown_initial, by simp [initialProbes], by simp⟩ unovertaken
  simpa using timely.events

/-- A publishing task changes the generation. -/
theorem changed_of_publishes {shared : ProbeShared} {task : ProbeTask}
    (publishes : task.publishes shared = true) (choice : ProbeChoice) :
    (moveProbe shared task choice).1.generation ≠ shared.generation := by
  cases task with
  | querying kind sampled began answer => simpa [ProbeTask.publishes, moveProbe] using publishes
  | hotplug list =>
      cases verdict : shared.state with
      | available since old =>
          cases list with
          | nil => simp [moveProbe, swapAvailableDisplays, verdict, publishProbeState]
          | cons display rest => simp [moveProbe, swapAvailableDisplays, verdict, publishProbeState]
      | unavailable since => simp [ProbeTask.publishes, ProbeState.isAvailable, verdict] at publishes
      | unknown => simp [ProbeTask.publishes, ProbeState.isAvailable, verdict] at publishes
  | _ => contradiction

/-- Only a task with an answer will publish. -/
theorem querying_of_willPublish {shared : ProbeShared} {task : ProbeTask}
    (publishes : task.willPublish shared = true) :
    ∃ kind sampled began answer, task = .querying kind sampled began answer ∧
      kind.checked = false := by
  cases task with
  | querying kind sampled began answer =>
      refine ⟨kind, sampled, began, answer, rfl, ?_⟩
      cases kind with
      | verdict blocking => rfl
      | warm rounds => rfl
      | available => contradiction
      | unavailable => contradiction
      | login => contradiction
  | _ => contradiction

theorem published_mem {shared : ProbeShared} {kind : ProbeKind} {sampled began : Nat}
    {answer : Answer}
    (changed : (settle shared kind sampled answer).generation ≠ shared.generation) :
    .published kind began shared.generation ∈ settleEvents shared kind sampled began answer := by
  apply List.mem_append_left
  rw [if_pos changed]
  exact List.mem_singleton_self _

/-- An overtaken unchecked query replaces the newer verdict as soon as it ends. -/
theorem overtaken_replaces {state : ProbeSystem} (flown : Flown state) {index : Nat}
    {choice : ProbeChoice} (overtaken : ¬Unovertaken state (.advance index choice)) :
    ∃ place, ∃ event ∈ (probes.run state [.advance index choice, .advance place choice]).2,
      ¬event.Current := by
  simp only [Unovertaken, not_forall] at overtaken
  obtain ⟨task, found, publishes, ⟨other, place⟩, member, different, pending⟩ := overtaken
  have atPlace := List.mk_mem_zipIdx_iff_getElem?.mp member
  have unchanged := willPublish_moved flown found atPlace different choice
  rw [Bool.not_eq_false] at pending
  rw [pending] at unchanged
  obtain ⟨kind, sampled, began, answer, rfl, unchecked⟩ := querying_of_willPublish pending
  have stays : (state.threads.set index (moveProbe state.shared task choice).2.1)[place]? =
      some (.querying kind sampled began answer) := by
    rw [List.getElem?_set_ne (Ne.symm different)]
    exact atPlace
  have changed := (settle_unchecked sampled began unchecked).mpr unchanged
  refine ⟨place, .published kind began (moveProbe state.shared task choice).1.generation, ?_, ?_⟩
  · simp only [Machine.run, probes]
    rw [probeProgram.machine_advance choice found, probeProgram.machine_advance choice stays]
    apply List.mem_append_right
    apply List.mem_append_left
    exact published_mem changed
  · intro current
    have newer := changed_of_publishes publishes choice
    have fits := flown.fits _ (List.mem_of_getElem? atPlace)
    have moved := flown.moved found choice
    have bound : began ≤ state.shared.generation := fits.2
    have same : began = (moveProbe state.shared task choice).1.generation := current
    rcases moved.generation with kept | next
    · exact newer kept
    · omega

/-- No probe replaces a newer verdict in a run in which no unchecked query is overtaken, and an
overtaken query does replace one. The flag admits one probe in any case. -/
theorem probes_keep_newer (events : List (Threads.Event ProbeCall ProbeChoice Nat)) :
    (probes.Guarded Unovertaken initialProbes events →
        ∀ event ∈ (probes.run initialProbes events).2, event.Current) ∧
      (∀ index choice, ¬Unovertaken (probes.run initialProbes events).1 (.advance index choice) →
        ∃ place, ∃ event ∈ (probes.run initialProbes
          (events ++ [.advance index choice, .advance place choice])).2, ¬event.Current) ∧
      ∀ (first second : Nat) (one other : ProbeTask),
        (probes.run initialProbes events).1.threads[first]? = some one →
        (probes.run initialProbes events).1.threads[second]? = some other →
        one.holdsFlag = true → other.holdsFlag = true → first = second := by
  have flown := flown_run events
  refine ⟨timely_run events, ?_, ?_⟩
  · intro index choice overtaken
    obtain ⟨place, event, member, stale⟩ := overtaken_replaces flown overtaken
    refine ⟨place, event, ?_, stale⟩
    rw [probes.run_append_outputs]
    exact List.mem_append_right _ member
  · intro first second one other atFirst atSecond holds alsoHolds
    have single := Bool.toNat_le (probes.run initialProbes events).1.shared.inFlight
    rw [← flown.holders] at single
    exact Threads.holder_unique single atFirst atSecond holds alsoHolds

def onlyDisplay : DrmDisplayInfo := ⟨['D', 'P', '-', '1'], 41, 0, 0, 1920, 1080, true, [], []⟩

def proceed : ProbeChoice := ⟨true, none⟩

def refuse : ProbeChoice := ⟨false, none⟩

def answering (list : List DrmDisplayInfo) : ProbeChoice := ⟨true, some list⟩

/-- The startup probe begins, `availability` probes and publishes, and a hotplug follows. -/
def overtakenWarm : List (Threads.Event ProbeCall ProbeChoice Nat) :=
  [.call .warmAvailability, .advance 0 refuse, .advance 0 proceed,
    .advance 0 (answering [onlyDisplay]), .call .availability, .advance 1 proceed,
    .advance 1 proceed, .advance 1 (answering [onlyDisplay, onlyDisplay]), .advance 1 proceed,
    .advance 1 proceed, .call (.swapAvailableDisplays []), .advance 2 proceed,
    .advance 0 proceed]

/-- The same two probes overtake each other the other way round. -/
def overtakenVerdict : List (Threads.Event ProbeCall ProbeChoice Nat) :=
  [.call .availability, .advance 0 proceed, .advance 0 proceed, .advance 0 (answering []),
    .call .warmAvailability, .advance 1 refuse, .advance 1 proceed,
    .advance 1 (answering [onlyDisplay]), .advance 1 proceed, .advance 0 proceed]

/-- Both unchecked probes replace a verdict that came after their query began. -/
theorem newer_verdict_replaced :
    (∃ event ∈ (probes.run initialProbes overtakenWarm).2, ¬event.Current) ∧
      (probes.run initialProbes overtakenWarm).1.shared.state = .available 0 [onlyDisplay] ∧
      (∃ event ∈ (probes.run initialProbes overtakenVerdict).2, ¬event.Current) ∧
      (probes.run initialProbes overtakenVerdict).1.shared.state = .unavailable 0 := by
  refine ⟨⟨.published (.warm 9) 0 2, ?_, ?_⟩, ?_, ⟨.published (.verdict true) 0 1, ?_, ?_⟩, ?_⟩
  · decide +kernel
  · intro current
    contradiction
  · decide +kernel
  · decide +kernel
  · intro current
    contradiction
  · decide +kernel

/-- A probe of `availability` and a later refresh of its verdict publish one after the other. -/
def probeThenRefresh : List (Threads.Event ProbeCall ProbeChoice Nat) :=
  [.call .availability, .advance 0 proceed, .advance 0 proceed,
    .advance 0 (answering [onlyDisplay]), .advance 0 proceed, .advance 0 proceed,
    .disturb 15000, .call .availabilityCached, .advance 1 proceed, .advance 1 proceed,
    .advance 1 proceed, .advance 1 proceed, .advance 1 (answering []), .advance 1 proceed]

theorem probes_keep_newer_refresh :
    (probes.run initialProbes probeThenRefresh).1.shared.generation = 2 ∧
      ∀ event ∈ (probes.run initialProbes probeThenRefresh).2, event.Current :=
  ⟨by decide +kernel, (probes_keep_newer probeThenRefresh).1 (by decide +kernel)⟩

end SubnetDesk.Drm
