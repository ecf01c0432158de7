/-
This file defines machines of threads over a shared memory, and the counting rules for what their
threads hold.
-/

import SubnetDesk.Foundation.Machine

namespace Threads

structure State (Shared Thread : Type) where
  shared : Shared
  threads : List Thread
deriving DecidableEq

/-- A call adds a thread, a thread makes its next atomic step under a choice of its environment, and
the environment disturbs the shared memory. -/
inductive Event (Call Choice Change : Type) where
  | call (call : Call)
  | advance (index : Nat) (choice : Choice)
  | disturb (change : Change)
deriving DecidableEq

structure Program (Shared Thread Call Choice Change Output : Type) where
  enter : Shared → Call → Shared × Thread
  move : Shared → Thread → Choice → Shared × Thread × List Output
  disturb : Shared → Change → Shared

variable {Shared Thread Call Choice Change Output : Type}

namespace Program

variable (program : Program Shared Thread Call Choice Change Output)

/-- The threads and their environment take steps in any order. -/
def machine : Machine (State Shared Thread) (Event Call Choice Change) Output where
  step state
    | .call call =>
        let entered := program.enter state.shared call
        (⟨entered.1, state.threads ++ [entered.2]⟩, [])
    | .advance index choice =>
        match state.threads[index]? with
        | some thread =>
            let moved := program.move state.shared thread choice
            (⟨moved.1, state.threads.set index moved.2.1⟩, moved.2.2)
        | none => (state, [])
    | .disturb change => ({ state with shared := program.disturb state.shared change }, [])

theorem machine_call (state : State Shared Thread) (call : Call) :
    program.machine.step state (.call call) =
      (⟨(program.enter state.shared call).1,
        state.threads ++ [(program.enter state.shared call).2]⟩, []) := rfl

theorem machine_advance {state : State Shared Thread} {index : Nat} {thread : Thread}
    (choice : Choice) (found : state.threads[index]? = some thread) :
    program.machine.step state (.advance index choice) =
      (⟨(program.move state.shared thread choice).1,
        state.threads.set index (program.move state.shared thread choice).2.1⟩,
        (program.move state.shared thread choice).2.2) := by
  simp only [machine, found]

theorem machine_absent {state : State Shared Thread} {index : Nat} (choice : Choice)
    (absent : state.threads[index]? = none) :
    program.machine.step state (.advance index choice) = (state, []) := by
  simp only [machine, absent]

end Program

/-- A replaced thread gives back what it held and takes what its successor holds. -/
theorem countP_set {threads : List Thread} {index : Nat} {thread : Thread}
    (found : threads[index]? = some thread) (next : Thread) (holds : Thread → Bool) :
    (threads.set index next).countP holds + (holds thread).toNat =
      threads.countP holds + (holds next).toNat := by
  obtain ⟨inside, rfl⟩ := List.getElem?_eq_some_iff.mp found
  rw [List.countP_set inside]
  have counted : holds threads[index] = true → 0 < threads.countP holds := by
    intro held
    exact List.countP_pos_iff.mpr ⟨_, List.getElem_mem inside, held⟩
  cases before : holds threads[index] with
  | true =>
      have positive := counted before
      cases holds next with
      | true =>
          simp only [if_true, Bool.toNat_true]
          omega
      | false =>
          simp only [if_true, Bool.false_eq_true, if_false, Bool.toNat_true, Bool.toNat_false]
          omega
  | false =>
      cases holds next with
      | true => simp
      | false => simp

/-- Two holders are one thread where at most one thread holds. -/
theorem holder_unique {threads : List Thread} {holds : Thread → Bool}
    (single : threads.countP holds ≤ 1) {first second : Nat} {one other : Thread}
    (atFirst : threads[first]? = some one) (atSecond : threads[second]? = some other)
    (held : holds one = true) (alsoHeld : holds other = true) : first = second := by
  induction threads generalizing first second with
  | nil => simp at atFirst
  | cons head rest ih =>
      rw [List.countP_cons] at single
      cases first with
      | zero =>
          cases second with
          | zero => rfl
          | succ second =>
              rw [List.getElem?_cons_zero] at atFirst
              rw [List.getElem?_cons_succ] at atSecond
              rw [Option.some.inj atFirst, if_pos held] at single
              have positive := List.countP_pos_iff.mpr
                ⟨other, List.mem_of_getElem? atSecond, alsoHeld⟩
              omega
      | succ first =>
          rw [List.getElem?_cons_succ] at atFirst
          cases second with
          | zero =>
              rw [List.getElem?_cons_zero] at atSecond
              rw [Option.some.inj atSecond, if_pos alsoHeld] at single
              have positive := List.countP_pos_iff.mpr
                ⟨one, List.mem_of_getElem? atFirst, held⟩
              omega
          | succ second =>
              rw [List.getElem?_cons_succ] at atSecond
              rw [ih (by omega) atFirst atSecond]

theorem mem_set_of_ne {threads : List Thread} {index : Nat} {thread next other : Thread}
    (found : threads[index]? = some thread) (member : other ∈ threads) (different : other ≠ thread) :
    other ∈ threads.set index next := by
  obtain ⟨place, atPlace⟩ := List.mem_iff_getElem?.mp member
  apply List.mem_of_getElem? (i := place)
  rw [List.getElem?_set_ne]
  · exact atPlace
  · rintro rfl
    rw [found] at atPlace
    exact different (Option.some.inj atPlace).symm

end Threads
