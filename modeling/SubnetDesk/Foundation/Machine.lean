/-
This file defines deterministic machines, their runs, and the invariant rule for guarded runs.
-/

import Mathlib.Tactic

/-- A machine consumes inputs and emits outputs. -/
structure Machine (State Input Output : Type) where
  step : State → Input → State × List Output

namespace Machine

variable {State Input Output : Type} (machine : Machine State Input Output)

def run : State → List Input → State × List Output
  | state, [] => (state, [])
  | state, input :: rest =>
      ((run (machine.step state input).1 rest).1,
        (machine.step state input).2 ++ (run (machine.step state input).1 rest).2)

theorem run_append (state : State) (first second : List Input) :
    (machine.run state (first ++ second)).1 = (machine.run (machine.run state first).1 second).1 := by
  induction first generalizing state with
  | nil => rfl
  | cons input rest ih => exact ih (machine.step state input).1

/-- The final state is a fold of the single steps. -/
theorem run_foldl (state : State) (inputs : List Input) :
    (machine.run state inputs).1 =
      inputs.foldl (fun current input => (machine.step current input).1) state := by
  induction inputs generalizing state with
  | nil => rfl
  | cons input rest ih => exact ih (machine.step state input).1

theorem run_append_outputs (state : State) (first second : List Input) :
    (machine.run state (first ++ second)).2 =
      (machine.run state first).2 ++ (machine.run (machine.run state first).1 second).2 := by
  induction first generalizing state with
  | nil => rfl
  | cons input rest ih =>
      simp only [List.cons_append, run, List.append_assoc]
      rw [ih]

/-- Every step of a guarded run meets the guard in the state before it. -/
def Guarded (guard : State → Input → Prop) : State → List Input → Prop
  | _, [] => True
  | state, input :: rest =>
      guard state input ∧ Guarded guard (machine.step state input).1 rest

instance decidableGuarded (guard : State → Input → Prop)
    [∀ state input, Decidable (guard state input)] :
    ∀ state inputs, Decidable (machine.Guarded guard state inputs)
  | _, [] => inferInstanceAs (Decidable True)
  | state, input :: rest =>
      have := decidableGuarded guard (machine.step state input).1 rest
      inferInstanceAs (Decidable (_ ∧ _))

theorem guarded_of_forall {good : Input → Prop} (state : State) (inputs : List Input)
    (all : ∀ input ∈ inputs, good input) : machine.Guarded (fun _ input => good input) state inputs := by
  induction inputs generalizing state with
  | nil => trivial
  | cons input rest ih =>
      rw [List.forall_mem_cons] at all
      exact ⟨all.1, ih _ all.2⟩

theorem guarded_true (state : State) (inputs : List Input) :
    machine.Guarded (fun _ _ => True) state inputs :=
  machine.guarded_of_forall state inputs (by simp)

theorem guarded_append (guard : State → Input → Prop) (state : State) (first second : List Input) :
    machine.Guarded guard state (first ++ second) ↔
      machine.Guarded guard state first ∧
        machine.Guarded guard (machine.run state first).1 second := by
  induction first generalizing state with
  | nil => simp [Guarded, run]
  | cons input rest ih =>
      simp only [List.cons_append, Guarded, run]
      rw [ih, and_assoc]

/-- A run is guarded exactly when each of its steps meets the guard in the state that is reached. -/
theorem guarded_iff_split (guard : State → Input → Prop) (state : State) (inputs : List Input) :
    machine.Guarded guard state inputs ↔
      ∀ before input after, inputs = before ++ input :: after →
        guard (machine.run state before).1 input := by
  induction inputs generalizing state with
  | nil => simp [Guarded]
  | cons first rest ih =>
      rw [Guarded, ih]
      constructor
      · rintro ⟨met, later⟩ before input after split
        cases before with
        | nil =>
            rw [List.nil_append] at split
            obtain ⟨rfl, -⟩ := List.cons.inj split
            exact met
        | cons head others =>
            rw [List.cons_append] at split
            obtain ⟨rfl, tail⟩ := List.cons.inj split
            exact later others input after tail
      · intro all
        refine ⟨all [] first rest rfl, fun before input after split => ?_⟩
        exact all (first :: before) input after (by rw [split, List.cons_append])

/-- A step lemma gives the invariant of every guarded run. -/
theorem run_invariant (guard : State → Input → Prop) (invariant : State → List Output → Prop)
    (keeps : ∀ state past input, guard state input → invariant state past →
      invariant (machine.step state input).1 (past ++ (machine.step state input).2))
    (state : State) (past : List Output) (inputs : List Input)
    (holds : invariant state past) (guarded : machine.Guarded guard state inputs) :
    invariant (machine.run state inputs).1 (past ++ (machine.run state inputs).2) := by
  induction inputs generalizing state past with
  | nil => simpa [run] using holds
  | cons input rest ih =>
      have next := keeps state past input guarded.1 holds
      have tail := ih _ _ next guarded.2
      simpa only [run, List.append_assoc] using tail

/-- Where the inputs keep an invariant, all outputs are good exactly when every step meets its exact
guard. -/
theorem run_outputs_iff_of_inputs (invariant : State → Prop) (assumed : Input → Prop)
    (guard : State → Input → Prop) (good : Output → Prop)
    (keeps : ∀ state input, assumed input → invariant state →
      invariant (machine.step state input).1)
    (exact_ : ∀ state input, assumed input → invariant state →
      ((∀ output ∈ (machine.step state input).2, good output) ↔ guard state input))
    (state : State) (inputs : List Input) (holds : invariant state)
    (all : ∀ input ∈ inputs, assumed input) :
    (∀ output ∈ (machine.run state inputs).2, good output) ↔ machine.Guarded guard state inputs := by
  induction inputs generalizing state with
  | nil => simp [run, Guarded]
  | cons input rest ih =>
      rw [List.forall_mem_cons] at all
      simp only [run, Guarded, List.forall_mem_append]
      rw [exact_ state input all.1 holds, ih _ (keeps state input all.1 holds) all.2]

/-- Where an invariant holds, all outputs are good exactly when every step meets its exact guard. -/
theorem run_outputs_iff_of_invariant (invariant : State → Prop)
    (guard : State → Input → Prop) (good : Output → Prop)
    (keeps : ∀ state input, invariant state → invariant (machine.step state input).1)
    (exact_ : ∀ state input, invariant state →
      ((∀ output ∈ (machine.step state input).2, good output) ↔ guard state input))
    (state : State) (inputs : List Input) (holds : invariant state) :
    (∀ output ∈ (machine.run state inputs).2, good output) ↔ machine.Guarded guard state inputs :=
  machine.run_outputs_iff_of_inputs invariant (fun _ => True) guard good
    (fun state input _ => keeps state input) (fun state input _ => exact_ state input)
    state inputs holds fun _ _ => trivial

/-- Where an invariant holds, two guards that agree step by step agree on every run. -/
theorem guarded_iff_of_invariant (invariant : State → Prop)
    (first second : State → Input → Prop)
    (keeps : ∀ state input, invariant state → invariant (machine.step state input).1)
    (agree : ∀ state input, invariant state → (first state input ↔ second state input))
    (state : State) (inputs : List Input) (holds : invariant state) :
    machine.Guarded first state inputs ↔ machine.Guarded second state inputs := by
  induction inputs generalizing state with
  | nil => exact Iff.rfl
  | cons input rest ih =>
      exact and_congr (agree state input holds) (ih _ (keeps state input holds))

/-- The first step that breaks its guard emits a bad output, and guarded steps emit none. -/
theorem run_outputs_iff_guarded (invariant : State → Prop)
    (guard : State → Input → Prop) (good : Output → Prop)
    (keeps : ∀ state input, invariant state → guard state input →
      invariant (machine.step state input).1 ∧ ∀ output ∈ (machine.step state input).2, good output)
    (breaks : ∀ state input, invariant state → ¬ guard state input →
      ∃ output ∈ (machine.step state input).2, ¬ good output)
    (state : State) (inputs : List Input) (holds : invariant state) :
    (∀ output ∈ (machine.run state inputs).2, good output) ↔ machine.Guarded guard state inputs := by
  induction inputs generalizing state with
  | nil => simp [run, Guarded]
  | cons input rest ih =>
      simp only [run, Guarded, List.forall_mem_append]
      by_cases met : guard state input
      · obtain ⟨next, fine⟩ := keeps state input holds met
        rw [ih _ next]
        exact ⟨fun both => ⟨met, both.2⟩, fun both => ⟨fine, both.2⟩⟩
      · obtain ⟨output, member, bad⟩ := breaks state input holds met
        exact ⟨fun both => absurd (both.1 output member) bad, fun both => absurd both.1 met⟩

/-- A property of states holds all along a run exactly when every step meets its exact guard. -/
theorem always_iff_guarded (guard : State → Input → Prop) (good : State → Prop)
    (exact_ : ∀ state input, good state → (good (machine.step state input).1 ↔ guard state input))
    (state : State) (inputs : List Input) (holds : good state) :
    (∀ before after, inputs = before ++ after → good (machine.run state before).1) ↔
      machine.Guarded guard state inputs := by
  induction inputs generalizing state with
  | nil =>
      refine iff_of_true ?_ trivial
      intro before after empty
      obtain ⟨rfl, -⟩ := List.append_eq_nil_iff.mp empty.symm
      exact holds
  | cons input rest ih =>
      constructor
      · intro always
        have next : good (machine.step state input).1 := always [input] rest rfl
        refine ⟨(exact_ state input holds).mp next, (ih _ next).mp ?_⟩
        intro before after split
        exact always (input :: before) after (by rw [split, List.cons_append])
      · rintro ⟨met, guarded⟩ before after split
        cases before with
        | nil => exact holds
        | cons first others =>
            rw [List.cons_append] at split
            obtain ⟨rfl, rfl⟩ := List.cons.inj split
            exact (ih _ ((exact_ state input holds).mpr met)).mpr guarded others after rfl

/-- A property of single outputs holds in a run exactly when every step meets its exact guard. -/
theorem run_outputs_iff (guard : State → Input → Prop) (good : Output → Prop)
    (exact_ : ∀ state input, (∀ output ∈ (machine.step state input).2, good output) ↔
      guard state input)
    (state : State) (inputs : List Input) :
    (∀ output ∈ (machine.run state inputs).2, good output) ↔ machine.Guarded guard state inputs :=
  machine.run_outputs_iff_of_invariant (fun _ => True) guard good (fun _ _ _ => trivial)
    (fun state input _ => exact_ state input) state inputs trivial

/-- A run ends well exactly when it is guarded, where a step that breaks its guard is never made
good. -/
theorem run_good_iff_guarded (guard : State → Input → Prop) (good bad : State → List Output → Prop)
    (keeps : ∀ state past input, good state past → guard state input →
      good (machine.step state input).1 (past ++ (machine.step state input).2))
    (breaks : ∀ state past input, good state past → ¬ guard state input →
      bad (machine.step state input).1 (past ++ (machine.step state input).2))
    (stays : ∀ state past input, bad state past →
      bad (machine.step state input).1 (past ++ (machine.step state input).2))
    (apart : ∀ state past, good state past → ¬ bad state past)
    (state : State) (past : List Output) (inputs : List Input) (holds : good state past) :
    good (machine.run state inputs).1 (past ++ (machine.run state inputs).2) ↔
      machine.Guarded guard state inputs := by
  constructor
  · intro final
    induction inputs generalizing state past with
    | nil => trivial
    | cons input rest ih =>
        rw [run, ← List.append_assoc] at final
        by_cases met : guard state input
        · exact ⟨met, ih _ _ (keeps state past input holds met) final⟩
        · have broken := machine.run_invariant (fun _ _ => True) bad
            (fun state past input _ => stays state past input) _ _ rest
            (breaks state past input holds met) (machine.guarded_true _ _)
          exact absurd broken (apart _ _ final)
  · exact machine.run_invariant guard good
      (fun state past input met kept => keeps state past input kept met) state past inputs holds

/-- Every output meets a condition on itself and on the outputs before it. -/
def Judged (good : List Output → Output → Prop) : List Output → List Output → Prop
  | _, [] => True
  | past, output :: rest => good past output ∧ Judged good (past ++ [output]) rest

instance decidableJudged (good : List Output → Output → Prop)
    [∀ past output, Decidable (good past output)] :
    ∀ past outputs, Decidable (Judged good past outputs)
  | _, [] => inferInstanceAs (Decidable True)
  | past, output :: rest =>
      have := decidableJudged good (past ++ [output]) rest
      inferInstanceAs (Decidable (_ ∧ _))

theorem judged_append (good : List Output → Output → Prop) (past first second : List Output) :
    Judged good past (first ++ second) ↔
      Judged good past first ∧ Judged good (past ++ first) second := by
  induction first generalizing past with
  | nil => simp [Judged]
  | cons output rest ih =>
      simp only [List.cons_append, Judged]
      rw [ih, List.append_assoc, List.singleton_append, and_assoc]

theorem judged_imp {first second third : List Output → Output → Prop}
    (imp : ∀ past output, first past output → second past output → third past output)
    {past outputs : List Output} (one : Judged first past outputs)
    (other : Judged second past outputs) : Judged third past outputs := by
  induction outputs generalizing past with
  | nil => trivial
  | cons output rest ih =>
      obtain ⟨here, later⟩ := one
      obtain ⟨too, after⟩ := other
      exact ⟨imp past output here too, ih later after⟩

/-- A step lemma on the past outputs and the state judges every run. -/
theorem run_judged (invariant : List Output → State → Prop) (good : List Output → Output → Prop)
    (keeps : ∀ past state input, invariant past state →
      Judged good past (machine.step state input).2 ∧
        invariant (past ++ (machine.step state input).2) (machine.step state input).1)
    (past : List Output) (state : State) (inputs : List Input) (holds : invariant past state) :
    Judged good past (machine.run state inputs).2 ∧
      invariant (past ++ (machine.run state inputs).2) (machine.run state inputs).1 := by
  induction inputs generalizing past state with
  | nil =>
      refine ⟨trivial, ?_⟩
      rw [run, List.append_nil]
      exact holds
  | cons input rest ih =>
      obtain ⟨judged, next⟩ := keeps past state input holds
      obtain ⟨later, final⟩ := ih _ _ next
      rw [run, judged_append, ← List.append_assoc]
      exact ⟨⟨judged, later⟩, final⟩

/-- Every step meets the guard after the outputs and in the state before it. -/
def GuardedAfter (guard : List Output → State → Input → Prop) :
    List Output → State → List Input → Prop
  | _, _, [] => True
  | past, state, input :: rest =>
      guard past state input ∧
        GuardedAfter guard (past ++ (machine.step state input).2) (machine.step state input).1 rest

/-- Where an invariant of the outputs and the state holds, all outputs of a run are good exactly when
every step meets its exact guard, and the invariant holds at the end of such a run. -/
theorem run_judged_iff_of_invariant (invariant : List Output → State → Prop)
    (guard : List Output → State → Input → Prop) (good : List Output → Output → Prop)
    (exact_ : ∀ past state input, invariant past state →
      (Judged good past (machine.step state input).2 ↔ guard past state input))
    (keeps : ∀ past state input, invariant past state → guard past state input →
      invariant (past ++ (machine.step state input).2) (machine.step state input).1)
    (past : List Output) (state : State) (inputs : List Input) (holds : invariant past state) :
    (Judged good past (machine.run state inputs).2 ↔
      machine.GuardedAfter guard past state inputs) ∧
      (machine.GuardedAfter guard past state inputs →
        invariant (past ++ (machine.run state inputs).2) (machine.run state inputs).1) := by
  induction inputs generalizing past state with
  | nil => exact ⟨Iff.rfl, fun _ => by simpa [run] using holds⟩
  | cons input rest ih =>
      simp only [run, GuardedAfter]
      rw [judged_append, exact_ past state input holds]
      constructor
      · exact and_congr_right fun met => (ih _ _ (keeps past state input holds met)).1
      · rintro ⟨met, guarded⟩
        rw [← List.append_assoc]
        exact (ih _ _ (keeps past state input holds met)).2 guarded

/-- All outputs of a run are good exactly when every step meets its exact guard. -/
theorem run_judged_iff (guard : List Output → State → Input → Prop)
    (good : List Output → Output → Prop)
    (exact_ : ∀ past state input,
      Judged good past (machine.step state input).2 ↔ guard past state input)
    (past : List Output) (state : State) (inputs : List Input) :
    Judged good past (machine.run state inputs).2 ↔
      machine.GuardedAfter guard past state inputs :=
  (machine.run_judged_iff_of_invariant (fun _ _ => True) guard good
    (fun past state input _ => exact_ past state input) (fun _ _ _ _ _ => trivial)
    past state inputs trivial).1

/-- A step lemma relates the end of a run to what its inputs alone amount to. -/
theorem run_simulated {Account : Type} (next : Account → Input → Account) (assumed : Input → Prop)
    (related : State → List Output → Account → Prop)
    (keeps : ∀ state past account input, assumed input → related state past account →
      related (machine.step state input).1 (past ++ (machine.step state input).2)
        (next account input))
    (state : State) (past : List Output) (account : Account) (inputs : List Input)
    (holds : related state past account) (all : ∀ input ∈ inputs, assumed input) :
    related (machine.run state inputs).1 (past ++ (machine.run state inputs).2)
      (inputs.foldl next account) := by
  induction inputs generalizing state past account with
  | nil =>
      rw [run, List.append_nil]
      exact holds
  | cons input rest ih =>
      rw [List.forall_mem_cons] at all
      have later := ih _ _ _ (keeps state past account input all.1 holds) all.2
      rw [List.append_assoc] at later
      exact later

end Machine
