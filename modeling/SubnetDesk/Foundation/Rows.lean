/-
This file defines lists that are made of blocks of one length, and loops that append a block in
each round.
-/

import Mathlib.Tactic

namespace Rows

section Loop

variable {ε α β : Type} {body : List β → α → Except ε (List β)} {block : α → List β}

theorem foldlM_ok (items : List α) (start : List β)
    (appends : ∀ built, ∀ item ∈ items, body built item = .ok (built ++ block item)) :
    items.foldlM body start = .ok (start ++ items.flatMap block) := by
  induction items generalizing start with
  | nil => simp [pure, Except.pure]
  | cons item rest ih =>
      rw [List.foldlM_cons, appends start item List.mem_cons_self]
      have tail := ih (start ++ block item) fun built other member =>
        appends built other (List.mem_cons_of_mem item member)
      simpa [bind, Except.bind] using tail

/-- A loop whose rounds append or fail with one error fails when one of them does. -/
theorem foldlM_error {failure : ε} (items : List α) (start : List β)
    (rounds : ∀ built, ∀ item ∈ items,
      body built item = .ok (built ++ block item) ∨ body built item = .error failure)
    (failed : ∃ item ∈ items, ∀ built, body built item = .error failure) :
    items.foldlM body start = .error failure := by
  induction items generalizing start with
  | nil =>
      obtain ⟨item, member, -⟩ := failed
      exact absurd member List.not_mem_nil
  | cons item rest ih =>
      rw [List.foldlM_cons]
      cases rounds start item List.mem_cons_self with
      | inr error => rw [error]; rfl
      | inl appended =>
          rw [appended]
          refine ih (start ++ block item)
            (fun built other member => rounds built other (List.mem_cons_of_mem item member)) ?_
          obtain ⟨other, member, fails⟩ := failed
          cases List.mem_cons.1 member with
          | inl same =>
              have error := fails start
              rw [same, appended] at error
              cases error
          | inr later => exact ⟨other, later, fails⟩

theorem foldlM_ok_or_error {failure : ε} (items : List α) (start : List β)
    (rounds : ∀ built, ∀ item ∈ items,
      body built item = .ok (built ++ block item) ∨ body built item = .error failure) :
    items.foldlM body start = .ok (start ++ items.flatMap block) ∨
      items.foldlM body start = .error failure := by
  induction items generalizing start with
  | nil => exact Or.inl (by simp [pure, Except.pure])
  | cons item rest ih =>
      rw [List.foldlM_cons]
      cases rounds start item List.mem_cons_self with
      | inr error =>
          rw [error]
          exact Or.inr rfl
      | inl appended =>
          rw [appended]
          have tail := ih (start ++ block item) fun built other member =>
            rounds built other (List.mem_cons_of_mem item member)
          simpa [bind, Except.bind] using tail

end Loop

section Blocks

variable {α : Type} {size count : Nat} {block : Nat → List α}

theorem length_blocks (sizes : ∀ index < count, (block index).length = size) :
    ((List.range count).flatMap block).length = size * count := by
  induction count with
  | zero => simp
  | succ count ih =>
      rw [List.range_succ, List.flatMap_append, List.length_append,
        ih fun index below => sizes index (Nat.lt_succ_of_lt below), List.flatMap_singleton,
        sizes count (Nat.lt_succ_self count), Nat.mul_succ]

theorem take_drop_blocks (sizes : ∀ index < count, (block index).length = size)
    {index : Nat} (below : index < count) :
    (((List.range count).flatMap block).drop (size * index)).take size = block index := by
  induction count with
  | zero => omega
  | succ count ih =>
      have shorter : ∀ index < count, (block index).length = size := fun index below =>
        sizes index (Nat.lt_succ_of_lt below)
      have length := length_blocks shorter
      rw [List.range_succ, List.flatMap_append, List.flatMap_singleton]
      by_cases last : index = count
      · rw [last, ← length, List.drop_left, ← sizes count (Nat.lt_succ_self count),
          List.take_length]
      · have earlier : index < count := by omega
        have room : size * index + size ≤ size * count := by
          rw [← Nat.mul_succ]
          exact Nat.mul_le_mul_left size earlier
        rw [List.drop_append_of_le_length (by omega),
          List.take_append_of_le_length (by rw [List.length_drop]; omega), ih shorter earlier]

/-- A block inside a longer block is a block of the whole. -/
theorem take_drop_take {items : List α} {start stop : Nat} (inside : start + size ≤ stop) :
    ((items.take stop).drop start).take size = (items.drop start).take size := by
  rw [List.drop_take, List.take_take, Nat.min_eq_left (by omega)]

/-- The element at an index is found in the block that the index falls in. -/
theorem getElem?_block (items : List α) (positive : 0 < size) (index : Nat) :
    ((items.drop (size * (index / size))).take size)[index % size]? = items[index]? := by
  rw [List.getElem?_take_of_lt (Nat.mod_lt index positive), List.getElem?_drop, Nat.div_add_mod]

theorem eq_of_blocks {first second : List α} (positive : 0 < size)
    (firstLength : first.length = size * count) (secondLength : second.length = size * count)
    (same : ∀ index < count,
      (first.drop (size * index)).take size = (second.drop (size * index)).take size) :
    first = second := by
  apply List.ext_getElem?
  intro index
  by_cases inside : index < size * count
  · have below : index / size < count := Nat.div_lt_of_lt_mul inside
    rw [← getElem?_block first positive, same _ below, getElem?_block second positive]
  · rw [List.getElem?_eq_none (by omega), List.getElem?_eq_none (by omega)]

end Blocks

end Rows
