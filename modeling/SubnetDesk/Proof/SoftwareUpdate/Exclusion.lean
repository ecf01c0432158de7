import SubnetDesk.Proof.SoftwareUpdate.Steps

namespace SubnetDesk.SoftwareUpdate

open Threads

variable {platform : Platform} {shared after : Shared} {worker next : Worker}
  {outputs : List Output} {state : Updater}

/-- The flag is cleared by the operation that has set it. -/
def Output.ClearedByOwner : Output → Prop
  | .cleared setter operation => setter = some operation
  | _ => True

instance (output : Output) : Decidable output.ClearedByOwner :=
  match output with
  | .cleared setter operation => inferInstanceAs (Decidable (setter = some operation))
  | .ended _ => inferInstanceAs (Decidable True)
  | .published _ _ => inferInstanceAs (Decidable True)

/-- What a step of a thread does with the flag. -/
inductive FlagStep (shared : Shared) (worker : Worker) : Shared → Worker → List Output → Prop where
  | keeps {after : Shared} {next : Worker} (busy : after.state.busy = shared.state.busy)
      (owner : after.owner = shared.owner) (started : after.started = shared.started)
      (running : next.operation? = worker.operation? ∨ next.operation? = none)
      (released : next.released? = worker.released? ∨ next.released? = none) :
      FlagStep shared worker after next []
  | begins {after : Shared} {next : Worker} (free : shared.state.busy = false)
      (busy : after.state.busy = true) (owner : after.owner = some shared.started)
      (started : after.started = shared.started + 1)
      (running : next.operation? = some shared.started) (released : next.released? = none) :
      FlagStep shared worker after next []
  | ends {after : Shared} {next : Worker} {outputs : List Output} (operation : Nat)
      (own : worker.operation? = some operation ∨
        ∃ error, worker = .reporting operation true error)
      (owner : after.owner = none) (started : after.started = shared.started)
      (running : next.operation? = none)
      (released : next.released? = none ∨ next.released? = some operation)
      (cleared : ∀ output ∈ outputs,
        shared.state.busy = true ∧ output = .cleared shared.owner operation ∨
          output.ClearedByOwner)
      (emitted : shared.state.busy = true → .cleared shared.owner operation ∈ outputs) :
      FlagStep shared worker after next outputs

theorem Shared.release_cleared (shared : Shared) (operation : Nat) (state : UpdateState) :
    (∀ output ∈ (shared.release operation state).2,
      shared.state.busy = true ∧ output = .cleared shared.owner operation) ∧
      (shared.state.busy = true →
        .cleared shared.owner operation ∈ (shared.release operation state).2) := by
  simp only [release]
  split
  next busy =>
    exact ⟨fun output member => ⟨busy, List.mem_singleton.mp member⟩, fun _ => by simp⟩
  next idle => exact ⟨nofun, fun busy => absurd busy idle⟩

/-- A thread that clears the flag ends with the outputs of the release first. -/
theorem flagStep_release (operation : Nat) (update : UpdateState)
    (own : worker.operation? = some operation ∨
      ∃ error, worker = .reporting operation true error)
    (running : next.operation? = none)
    (released : next.released? = none ∨ next.released? = some operation)
    (others : List Output) (silent : ∀ output ∈ others, output.ClearedByOwner) :
    FlagStep shared worker (shared.release operation update).1 next
      ((shared.release operation update).2 ++ others) := by
  obtain ⟨only, emitted⟩ := shared.release_cleared operation update
  refine .ends operation own rfl rfl running released ?_ ?_
  · intro output member
    exact (List.mem_append.mp member).imp (only output) (silent output)
  · exact fun busy => List.mem_append_left _ (emitted busy)

/-- A move sets or clears the flag of its own. -/
theorem Moves.flagStep (moves : Moves platform shared worker after next outputs) :
    FlagStep shared worker after next outputs := by
  cases moves with
  | stays => exact .keeps rfl rfl rfl (.inl rfl) (.inl rfl)
  | fails worker operation error running => exact .keeps rfl rfl rfl (.inl running.symm) (.inr rfl)
  | validates operation manifest fresh => exact .keeps rfl rfl rfl (.inl rfl) (.inl rfl)
  | upToDate operation manifest newest =>
      apply flagStep_release operation _ (.inl rfl) rfl (.inl rfl)
      simp [Output.ClearedByOwner]
  | stores operation manifest artifact => exact .keeps rfl rfl rfl (.inl rfl) (.inl rfl)
  | publishes operation manifest artifact now next follows =>
      have ended : next.operation? = none ∧
          (next.released? = none ∨ next.released? = some operation) := by
        obtain rfl | rfl := follows
        · exact ⟨rfl, .inr rfl⟩
        · exact ⟨rfl, .inl rfl⟩
      apply flagStep_release operation _ (.inl rfl) ended.1 ended.2
      simp [Output.ClearedByOwner]
  | downloads operation artifact free selected =>
      exact .begins free rfl rfl rfl rfl rfl
  | refused operation error => exact .keeps rfl rfl rfl (.inr rfl) (.inl rfl)
  | requests operation artifact path => exact .keeps rfl rfl rfl (.inl rfl) (.inl rfl)
  | receives operation artifact path received bytes lastProgress progress after reported =>
      obtain rfl | rfl := reported
      · exact .keeps rfl rfl rfl (.inl rfl) (.inl rfl)
      · exact .keeps rfl rfl rfl (.inl rfl) (.inl rfl)
  | verifies operation artifact path received lastProgress verified =>
      exact .keeps rfl rfl rfl (.inl rfl) (.inl rfl)
  | ready operation package =>
      rw [← List.append_nil (endReady shared operation package).2]
      exact flagStep_release operation _ (.inl rfl) rfl (.inl rfl) [] nofun
  | installed operation package => exact .keeps rfl rfl rfl (.inr rfl) (.inl rfl)
  | reports operation released error =>
      rw [← List.append_nil (finishError platform shared operation error).2]
      apply flagStep_release operation _ _ rfl (.inl rfl) [] nofun
      cases released with
      | true => exact .inr ⟨error, rfl⟩
      | false => exact .inl rfl

/-- At most one operation is in progress, and it has set the flag. -/
structure OneOperation (state : Updater) : Prop where
  owned : ∀ worker ∈ state.threads, ∀ operation, worker.operation? = some operation →
    state.shared.state.busy = true ∧ state.shared.owner = some operation
  single : state.threads.countP (·.operation?.isSome) ≤ 1

/-- A check that has released the flag does not own it again. -/
structure Exclusive (state : Updater) : Prop extends OneOperation state where
  released : ∀ worker ∈ state.threads, ∀ operation, worker.released? = some operation →
    operation < state.shared.started ∧ state.shared.owner ≠ some operation
  begun : ∀ operation, state.shared.owner = some operation → operation < state.shared.started

/-- A check whose automatic download was refused reports this while an operation has set the flag. -/
def lateReport (state : Updater) : Event → Prop
  | .process (.advance index _) =>
      match state.threads[index]? with
      | some (.reporting _ true _) => state.shared.state.busy = true
      | _ => False
  | _ => False

instance (state : Updater) (event : Event) : Decidable (lateReport state event) := by
  unfold lateReport
  split
  · split <;> infer_instance
  · infer_instance

/-- A new updater is exclusive. -/
theorem exclusive_initial (options : Options) : Exclusive (initialUpdater platform options) :=
  ⟨⟨nofun, Nat.zero_le _⟩, nofun, nofun⟩

/-- While one thread runs an operation, no other thread does. -/
theorem Exclusive.others (exclusive : Exclusive state) {index operation : Nat}
    (found : state.threads[index]? = some worker) (running : worker.operation? = some operation)
    {other : Worker} (member : other ∈ state.threads.set index next) (differs : other ≠ next) :
    other ∈ state.threads ∧ other.operation? = none := by
  obtain ⟨place, atPlace⟩ := List.mem_iff_getElem?.mp member
  have apart : index ≠ place := by
    rintro rfl
    rw [List.getElem?_set_self (List.getElem?_eq_some_iff.mp found).1] at atPlace
    exact differs (Option.some.inj atPlace).symm
  rw [List.getElem?_set_ne apart] at atPlace
  refine ⟨List.mem_of_getElem? atPlace, ?_⟩
  by_contra runs
  have holds : other.operation?.isSome = true := Option.isSome_iff_ne_none.mpr runs
  exact apart (holder_unique exclusive.single found atPlace (by simp [running]) holds)

/-- A worker that goes on leaves it exclusive. -/
theorem Exclusive.keeps (exclusive : Exclusive state) {index : Nat}
    (found : state.threads[index]? = some worker) (busy : after.state.busy = state.shared.state.busy)
    (owner : after.owner = state.shared.owner) (started : after.started = state.shared.started)
    (running : next.operation? = worker.operation? ∨ next.operation? = none)
    (released : next.released? = worker.released? ∨ next.released? = none) :
    Exclusive ⟨after, state.threads.set index next⟩ := by
  have inside := List.mem_of_getElem? found
  refine ⟨⟨?_, ?_⟩, ?_, ?_⟩
  · intro other member operation runs
    simp only [busy, owner]
    obtain old | rfl := List.mem_or_eq_of_mem_set member
    · exact exclusive.owned other old operation runs
    · obtain same | none := running
      · exact exclusive.owned worker inside operation (same ▸ runs)
      · rw [none] at runs
        cases runs
  · have counted := countP_set found next (·.operation?.isSome)
    have bound := exclusive.single
    obtain same | none := running
    · simp only [same] at counted
      show (state.threads.set index next).countP _ ≤ 1
      omega
    · simp only [none, Option.isSome_none, Bool.toNat_false] at counted
      show (state.threads.set index next).countP _ ≤ 1
      omega
  · intro other member operation waits
    simp only [owner, started]
    obtain old | rfl := List.mem_or_eq_of_mem_set member
    · exact exclusive.released other old operation waits
    · obtain same | none := released
      · exact exclusive.released worker inside operation (same ▸ waits)
      · rw [none] at waits
        cases waits
  · simp only [owner, started]
    exact exclusive.begun

/-- Where the flag is clear, no operation is in progress. -/
theorem Exclusive.idle (exclusive : Exclusive state) (free : state.shared.state.busy = false) :
    ∀ worker ∈ state.threads, worker.operation? = none := by
  intro worker member
  cases running : worker.operation? with
  | none => rfl
  | some operation =>
      have busy := (exclusive.owned worker member operation running).1
      rw [free] at busy
      cases busy

/-- A new operation is the only one. -/
theorem Exclusive.begins (exclusive : Exclusive state) (free : state.shared.state.busy = false)
    {threads : List Worker} (new : ∀ other ∈ threads, other ∈ state.threads ∨ other = next)
    (single : threads.countP (·.operation?.isSome) ≤ 1)
    (busy : after.state.busy = true) (owner : after.owner = some state.shared.started)
    (started : after.started = state.shared.started + 1)
    (running : next.operation? = some state.shared.started) (released : next.released? = none) :
    Exclusive ⟨after, threads⟩ := by
  refine ⟨⟨?_, ?_⟩, ?_, ?_⟩
  · intro other member operation runs
    refine ⟨busy, owner.trans ?_⟩
    obtain old | rfl := new other member
    · rw [exclusive.idle free other old] at runs
      cases runs
    · exact running.symm.trans runs
  · exact single
  · intro other member operation waits
    simp only [owner, started]
    obtain old | rfl := new other member
    · have before := (exclusive.released other old operation waits).1
      refine ⟨Nat.lt_succ_of_lt before, ?_⟩
      intro same
      have equal := Option.some.inj same
      omega
    · rw [released] at waits
      cases waits
  · intro operation owns
    simp only [owner] at owns
    cases owns
    simp only [started]
    exact Nat.lt_succ_self _

/-- A free state has no operation. -/
theorem Exclusive.none_counted (exclusive : Exclusive state)
    (free : state.shared.state.busy = false) :
    state.threads.countP (·.operation?.isSome) = 0 := by
  rw [List.countP_eq_zero]
  intro other member
  rw [exclusive.idle free other member]
  nofun

/-- The end of an operation frees the state. -/
theorem Exclusive.ends (exclusive : Exclusive state) {index operation : Nat}
    (found : state.threads[index]? = some worker)
    (own : worker.operation? = some operation ∨
      worker.released? = some operation ∧ state.shared.state.busy = false)
    (owner : after.owner = none) (started : after.started = state.shared.started)
    (running : next.operation? = none)
    (released : next.released? = none ∨ next.released? = some operation) :
    Exclusive ⟨after, state.threads.set index next⟩ := by
  have inside := List.mem_of_getElem? found
  have quiet : ∀ other ∈ state.threads.set index next, other.operation? = none := by
    intro other member
    by_cases same : other = next
    · rw [same]
      exact running
    · obtain own | ⟨-, free⟩ := own
      · exact (exclusive.others found own member same).2
      · have old := (List.mem_or_eq_of_mem_set member).resolve_right same
        exact exclusive.idle free other old
  have before : operation < state.shared.started := by
    obtain own | ⟨own, -⟩ := own
    · exact exclusive.begun operation (exclusive.owned worker inside operation own).2
    · exact (exclusive.released worker inside operation own).1
  refine ⟨⟨?_, ?_⟩, ?_, ?_⟩
  · intro other member operation runs
    rw [quiet other member] at runs
    cases runs
  · have none : (state.threads.set index next).countP (·.operation?.isSome) = 0 := by
      rw [List.countP_eq_zero]
      intro other member
      rw [quiet other member]
      nofun
    show (state.threads.set index next).countP _ ≤ 1
    omega
  · intro other member waiting waits
    simp only [owner, started]
    refine ⟨?_, nofun⟩
    obtain old | rfl := List.mem_or_eq_of_mem_set member
    · exact (exclusive.released other old waiting waits).1
    · obtain none | some := released
      · rw [none] at waits
        cases waits
      · rw [some] at waits
        cases waits
        exact before
  · simp only [owner]
    nofun

/-- A step in time leaves it exclusive. -/
theorem Exclusive.advance (exclusive : Exclusive state) {index : Nat}
    (found : state.threads[index]? = some worker)
    (onTime : ∀ operation error, worker = .reporting operation true error →
      state.shared.state.busy = false)
    (step : FlagStep state.shared worker after next outputs) :
    Exclusive ⟨after, state.threads.set index next⟩ ∧
      ∀ output ∈ outputs, output.ClearedByOwner := by
  have inside := List.mem_of_getElem? found
  cases step with
  | keeps busy owner started running released =>
      exact ⟨exclusive.keeps found busy owner started running released, nofun⟩
  | begins free busy owner started running released =>
      have counted := countP_set found next (·.operation?.isSome)
      have none := exclusive.none_counted free
      simp only [running, Option.isSome_some, Bool.toNat_true] at counted
      refine ⟨exclusive.begins free ?_ ?_ busy owner started running released, nofun⟩
      · exact fun other member => List.mem_or_eq_of_mem_set member
      · omega
  | ends operation own owner started running released cleared emitted =>
      obtain runs | ⟨error, rfl⟩ := own
      · refine ⟨exclusive.ends found (.inl runs) owner started running released, ?_⟩
        intro output member
        obtain ⟨-, rfl⟩ | silent := cleared output member
        · exact (exclusive.owned worker inside operation runs).2
        · exact silent
      · have free := onTime operation error rfl
        refine ⟨exclusive.ends found (.inr ⟨rfl, free⟩) owner started running released, ?_⟩
        intro output member
        obtain ⟨busy, -⟩ | silent := cleared output member
        · rw [free] at busy
          cases busy
        · exact silent

/-- A late report clears the flag of another operation. -/
theorem Exclusive.broken (exclusive : Exclusive state) {index operation : Nat} {error : String}
    (found : state.threads[index]? = some (.reporting operation true error))
    (busy : state.shared.state.busy = true) :
    ∃ output ∈ (finishError platform state.shared operation error).2,
      ¬ output.ClearedByOwner := by
  refine ⟨.cleared state.shared.owner operation,
    (state.shared.release_cleared operation _).2 busy, ?_⟩
  exact (exclusive.released _ (List.mem_of_getElem? found) operation rfl).2

theorem Exclusive.same (exclusive : Exclusive state) {threads : List Worker}
    (old : ∀ other ∈ threads, other ∈ state.threads ∨ other = .done)
    (single : threads.countP (·.operation?.isSome) ≤ 1)
    (busy : after.state.busy = state.shared.state.busy)
    (owner : after.owner = state.shared.owner) (started : after.started = state.shared.started) :
    Exclusive ⟨after, threads⟩ := by
  refine ⟨⟨?_, ?_⟩, ?_, ?_⟩
  · intro other member operation runs
    simp only [busy, owner]
    obtain before | rfl := old other member
    · exact exclusive.owned other before operation runs
    · cases runs
  · exact single
  · intro other member operation waits
    simp only [owner, started]
    obtain before | rfl := old other member
    · exact exclusive.released other before operation waits
    · cases waits
  · simp only [owner, started]
    exact exclusive.begun

/-- A call leaves it exclusive. -/
theorem enter_exclusive (exclusive : Exclusive state) {call : Call}
    (enters : Enters state.shared call after next) : Exclusive ⟨after, state.threads ++ [next]⟩ := by
  have old : ∀ other ∈ state.threads ++ [next], other ∈ state.threads ∨ other = next := by
    intro other member
    exact (List.mem_append.mp member).imp_right List.mem_singleton.mp
  have counted : (state.threads ++ [next]).countP (·.operation?.isSome) =
      state.threads.countP (·.operation?.isSome) + next.operation?.isSome.toNat := by
    rw [List.countP_append, List.countP_singleton]
    cases next.operation?.isSome with
    | true => rfl
    | false => rfl
  have single := exclusive.single
  cases enters with
  | refused => exact exclusive.same old (by rw [counted]; exact single) rfl rfl rfl
  | defers message => exact exclusive.same old (by rw [counted]; exact single) rfl rfl rfl
  | checks change free =>
      have none := exclusive.none_counted free
      exact exclusive.begins free old (by rw [counted, none]; exact Nat.le_refl 1) rfl rfl rfl
        rfl rfl
  | downloads artifact change free selected =>
      have none := exclusive.none_counted free
      exact exclusive.begins free old (by rw [counted, none]; exact Nat.le_refl 1) rfl rfl rfl
        rfl rfl
  | installs package change free present =>
      have none := exclusive.none_counted free
      exact exclusive.begins free old (by rw [counted, none]; exact Nat.le_refl 1) rfl rfl rfl
        rfl rfl

/-- One event in time leaves it exclusive. -/
theorem exclusive_step (exclusive : Exclusive state) (event : Event)
    (onTime : ¬ lateReport state event) :
    Exclusive ((updater platform).step state event).1 ∧
      ∀ output ∈ ((updater platform).step state event).2, output.ClearedByOwner := by
  cases event with
  | restart => exact ⟨⟨⟨nofun, Nat.zero_le _⟩, nofun, nofun⟩, nofun⟩
  | process event =>
      cases event with
      | call call => exact ⟨enter_exclusive exclusive (enter_enters call), nofun⟩
      | disturb preferences =>
          exact ⟨exclusive.same (fun _ => .inl) exclusive.single rfl rfl rfl, nofun⟩
      | advance index choice =>
          show Exclusive ((program platform).machine.step state (.advance index choice)).1 ∧
            ∀ output ∈ ((program platform).machine.step state (.advance index choice)).2,
              output.ClearedByOwner
          cases found : state.threads[index]? with
          | none =>
              rw [(program platform).machine_absent choice found]
              exact ⟨exclusive, nofun⟩
          | some worker =>
              rw [(program platform).machine_advance choice found]
              apply exclusive.advance found _ (move_moves worker choice).flagStep
              rintro operation error rfl
              simpa [lateReport, found] using onTime

/-- A late report breaks the exclusion. -/
theorem exclusive_broken (exclusive : Exclusive state) (event : Event)
    (late : lateReport state event) :
    ∃ output ∈ ((updater platform).step state event).2, ¬ output.ClearedByOwner := by
  cases event with
  | restart => cases late
  | process event =>
      cases event with
      | call call => cases late
      | disturb preferences => cases late
      | advance index choice =>
          simp only [lateReport] at late
          split at late
          next operation error found =>
            show ∃ output ∈ ((program platform).machine.step state (.advance index choice)).2, _
            rw [(program platform).machine_advance choice found]
            show ∃ output ∈ (finishError platform state.shared operation error).2, _
            exact exclusive.broken found late
          next => cases late

/-- A run in time is exclusive. -/
theorem exclusive_run (options : Options) (events : List Event)
    (guarded : (updater platform).Guarded (fun state event => ¬ lateReport state event)
      (initialUpdater platform options) events) :
    Exclusive ((updater platform).run (initialUpdater platform options) events).1 :=
  (updater platform).run_invariant (fun state event => ¬ lateReport state event)
    (fun state _ => Exclusive state)
    (fun _ _ event onTime exclusive => (exclusive_step exclusive event onTime).1)
    (initialUpdater platform options) [] events (exclusive_initial options) guarded

/-- In every state of a run the operations exclude each other and the flag belongs to the operation
in progress, and no operation clears the flag of another one, exactly when no check reports the
refusal of its automatic download while the flag is set. -/
theorem one_operation_iff (options : Options) (events : List Event) :
    ((∀ early, early <+: events →
        OneOperation ((updater platform).run (initialUpdater platform options) early).1) ∧
      ∀ output ∈ ((updater platform).run (initialUpdater platform options) events).2,
        output.ClearedByOwner) ↔
      (updater platform).Guarded (fun state event => ¬ lateReport state event)
        (initialUpdater platform options) events := by
  have outputs := (updater platform).run_outputs_iff_guarded Exclusive
    (fun state event => ¬ lateReport state event) Output.ClearedByOwner
    (fun state event exclusive onTime => exclusive_step exclusive event onTime)
    (fun state event exclusive late => exclusive_broken exclusive event (not_not.mp late))
    (initialUpdater platform options) events (exclusive_initial options)
  constructor
  · exact fun both => outputs.mp both.2
  · intro guarded
    refine ⟨?_, outputs.mpr guarded⟩
    rintro early ⟨rest, rfl⟩
    rw [Machine.guarded_append] at guarded
    exact (exclusive_run options early guarded.1).toOneOperation

/-- A check starts between the release of an earlier one and its automatic download. -/
def overtakenCheck : List Event :=
  checkRun 0 5 'a' ++
    [.process (.call .check), .process (.advance 0 .proceed), .process (.advance 0 .proceed),
      .process (.call .download)]

theorem two_operations_run :
    ¬ OneOperation ((updater samplePlatform).run
        (initialUpdater samplePlatform sampleOptions) overtakenCheck).1 ∧
      ¬ ∀ output ∈ ((updater samplePlatform).run
        (initialUpdater samplePlatform sampleOptions) overtakenCheck).2,
        output.ClearedByOwner := by
  have running : ((updater samplePlatform).run
      (initialUpdater samplePlatform sampleOptions) overtakenCheck).1.threads.countP
      (·.operation?.isSome) = 2 := by decide +kernel
  refine ⟨?_, by decide +kernel⟩
  intro one
  have single := one.single
  omega

end SubnetDesk.SoftwareUpdate
