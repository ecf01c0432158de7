/-
This file defines handlers that read a state and emit effects, and the rules for what the stages of a
handler emit.
-/

import Mathlib.Tactic

/-- Effects change a state one after another. -/
class EffectSystem (State Effect : Type) where
  apply : State → Effect → State

/-- A handler reads the state and emits its effects in order. -/
def Handler (State Effect : Type) := State → List Effect

namespace Handler

variable {State Effect : Type} [EffectSystem State Effect]

def perform (state : State) (effects : List Effect) : State :=
  effects.foldl EffectSystem.apply state

theorem perform_append (state : State) (first second : List Effect) :
    perform state (first ++ second) = perform (perform state first) second :=
  List.foldl_append

/-- The second handler reads the state after the effects of the first. -/
def andThen (first second : Handler State Effect) : Handler State Effect := fun state =>
  first state ++ second (perform state (first state))

/-- A handler in stages, where each stage reads the state after the stages before it. -/
def stages : List (Handler State Effect) → Handler State Effect
  | [] => fun _ => []
  | stage :: rest => andThen stage (stages rest)

/-- Where the invariant holds, a handler emits good effects only. -/
def Emits (invariant : State → Prop) (good : Effect → Prop) (handler : Handler State Effect) : Prop :=
  ∀ state, invariant state → ∀ effect ∈ handler state, good effect

section Rules

variable {invariant : State → Prop} {good : Effect → Prop}
  (keeps : ∀ state effect, invariant state → good effect →
    invariant (EffectSystem.apply state effect))

include keeps in
theorem perform_keeps (state : State) (effects : List Effect) (holds : invariant state)
    (all : ∀ effect ∈ effects, good effect) : invariant (perform state effects) := by
  induction effects generalizing state with
  | nil => exact holds
  | cons effect rest ih =>
      rw [List.forall_mem_cons] at all
      exact ih _ (keeps state effect holds all.1) all.2

include keeps in
theorem emits_andThen {first second : Handler State Effect} (firstEmits : Emits invariant good first)
    (secondEmits : Emits invariant good second) : Emits invariant good (andThen first second) := by
  intro state holds effect member
  rw [andThen, List.mem_append] at member
  cases member with
  | inl early => exact firstEmits state holds effect early
  | inr late =>
      exact secondEmits _ (perform_keeps keeps state _ holds (firstEmits state holds)) effect late

include keeps in
theorem emits_stages {list : List (Handler State Effect)}
    (all : ∀ stage ∈ list, Emits invariant good stage) : Emits invariant good (stages list) := by
  induction list with
  | nil =>
      intro state _ effect member
      exact absurd member List.not_mem_nil
  | cons stage rest ih =>
      rw [List.forall_mem_cons] at all
      exact emits_andThen keeps all.1 (ih all.2)

end Rules

/-- An effect that a stage emits in every state is an effect of the whole handler. -/
theorem mem_stages {list : List (Handler State Effect)} (stage : Handler State Effect)
    {effect : Effect} (member : stage ∈ list) (emits : ∀ state, effect ∈ stage state) (state : State) :
    effect ∈ stages list state := by
  induction list generalizing state with
  | nil => exact absurd member List.not_mem_nil
  | cons head rest ih =>
      rw [stages, andThen, List.mem_append]
      cases member with
      | head => exact Or.inl (emits state)
      | tail _ later => exact Or.inr (ih later _)

end Handler
