/-
This file defines boxes over an ordered type and the smallest box around a list of them.
-/

import Mathlib.Tactic

/-- A box holds its lower edges and excludes its upper ones. -/
structure Box (α : Type) where
  minX : α
  maxX : α
  minY : α
  maxY : α
deriving DecidableEq

namespace Box

variable {α β : Type}

def map (value : α → β) (box : Box α) : Box β where
  minX := value box.minX
  maxX := value box.maxX
  minY := value box.minY
  maxY := value box.maxY

def join [Min α] [Max α] (first second : Box α) : Box α where
  minX := min first.minX second.minX
  maxX := max first.maxX second.maxX
  minY := min first.minY second.minY
  maxY := max first.maxY second.maxY

def Contains [LE α] [LT α] (box : Box α) (x y : α) : Prop :=
  (box.minX ≤ x ∧ x < box.maxX) ∧ box.minY ≤ y ∧ y < box.maxY

instance [LE α] [LT α] [DecidableLE α] [DecidableLT α] (box : Box α) (x y : α) :
    Decidable (box.Contains x y) := inferInstanceAs (Decidable (_ ∧ _))

/-- Each edge is an edge of one of the boxes, and no box reaches past it. -/
structure IsBounding [LE α] (boxes : List (Box α)) (box : Box α) : Prop where
  minX : IsLeast {edge | ∃ inner ∈ boxes, inner.minX = edge} box.minX
  maxX : IsGreatest {edge | ∃ inner ∈ boxes, inner.maxX = edge} box.maxX
  minY : IsLeast {edge | ∃ inner ∈ boxes, inner.minY = edge} box.minY
  maxY : IsGreatest {edge | ∃ inner ∈ boxes, inner.maxY = edge} box.maxY

section Edges

variable [LE α] {boxes : List (Box α)} {box inner : Box α}

theorem isLeast_map [LE β] {value : α → β} {edge : Box α → α} {low : α}
    (monotone : ∀ first second, first ≤ second → value first ≤ value second)
    (least : IsLeast {place | ∃ inner ∈ boxes, edge inner = place} low) :
    IsLeast {place | ∃ inner ∈ boxes, value (edge inner) = place} (value low) := by
  obtain ⟨⟨inner, member, attained⟩, below⟩ := least
  refine ⟨⟨inner, member, congrArg value attained⟩, ?_⟩
  rintro place ⟨other, otherMember, rfl⟩
  exact monotone low (edge other) (below ⟨other, otherMember, rfl⟩)

theorem isGreatest_map [LE β] {value : α → β} {edge : Box α → α} {high : α}
    (monotone : ∀ first second, first ≤ second → value first ≤ value second)
    (greatest : IsGreatest {place | ∃ inner ∈ boxes, edge inner = place} high) :
    IsGreatest {place | ∃ inner ∈ boxes, value (edge inner) = place} (value high) := by
  obtain ⟨⟨inner, member, attained⟩, above⟩ := greatest
  refine ⟨⟨inner, member, congrArg value attained⟩, ?_⟩
  rintro place ⟨other, otherMember, rfl⟩
  exact monotone (edge other) high (above ⟨other, otherMember, rfl⟩)

theorem IsBounding.map [LE β] {value : α → β} (bounding : IsBounding boxes box)
    (monotone : ∀ first second, first ≤ second → value first ≤ value second) :
    IsBounding (boxes.map (Box.map value)) (box.map value) where
  minX := by simpa [Box.map] using isLeast_map monotone bounding.minX
  maxX := by simpa [Box.map] using isGreatest_map monotone bounding.maxX
  minY := by simpa [Box.map] using isLeast_map monotone bounding.minY
  maxY := by simpa [Box.map] using isGreatest_map monotone bounding.maxY

end Edges

section Order

variable [LE α] [LT α] [Std.IsLinearOrder α] [Std.LawfulOrderLT α] {boxes : List (Box α)}
  {box inner : Box α}

theorem IsBounding.contains (bounding : IsBounding boxes box) (member : inner ∈ boxes) {x y : α}
    (inside : inner.Contains x y) : box.Contains x y := by
  obtain ⟨⟨left, right⟩, top, bottom⟩ := inside
  have low := bounding.minX.2 ⟨inner, member, rfl⟩
  have high := bounding.maxX.2 ⟨inner, member, rfl⟩
  have upper := bounding.minY.2 ⟨inner, member, rfl⟩
  have lower := bounding.maxY.2 ⟨inner, member, rfl⟩
  exact ⟨⟨Std.le_trans low left, Std.lt_of_lt_of_le right high⟩, Std.le_trans upper top,
    Std.lt_of_lt_of_le bottom lower⟩

end Order

section Joins

variable [LE α] [Std.IsLinearOrder α] {boxes : List (Box α)} {box next : Box α}

theorem isLeast_append [Min α] [Std.LawfulOrderMin α] {edge : Box α → α} {low : α}
    (least : IsLeast {place | ∃ inner ∈ boxes, edge inner = place} low) :
    IsLeast {place | ∃ inner ∈ boxes ++ [next], edge inner = place} (min low (edge next)) := by
  obtain ⟨⟨inner, member, attained⟩, below⟩ := least
  constructor
  · cases Std.min_eq_or (a := low) (b := edge next) with
    | inl first => exact ⟨inner, List.mem_append_left _ member, attained.trans first.symm⟩
    | inr second =>
        exact ⟨next, List.mem_append_right _ (List.mem_singleton.2 rfl), second.symm⟩
  · rintro place ⟨other, otherMember, rfl⟩
    cases List.mem_append.1 otherMember with
    | inl earlier => exact Std.le_trans Std.min_le_left (below ⟨other, earlier, rfl⟩)
    | inr last =>
        rw [List.mem_singleton.1 last]
        exact Std.min_le_right

theorem isGreatest_append [Max α] [Std.LawfulOrderMax α] {edge : Box α → α} {high : α}
    (greatest : IsGreatest {place | ∃ inner ∈ boxes, edge inner = place} high) :
    IsGreatest {place | ∃ inner ∈ boxes ++ [next], edge inner = place}
      (max high (edge next)) := by
  obtain ⟨⟨inner, member, attained⟩, above⟩ := greatest
  constructor
  · cases Std.max_eq_or (a := high) (b := edge next) with
    | inl first => exact ⟨inner, List.mem_append_left _ member, attained.trans first.symm⟩
    | inr second =>
        exact ⟨next, List.mem_append_right _ (List.mem_singleton.2 rfl), second.symm⟩
  · rintro place ⟨other, otherMember, rfl⟩
    cases List.mem_append.1 otherMember with
    | inl earlier => exact Std.le_trans (above ⟨other, earlier, rfl⟩) Std.left_le_max
    | inr last =>
        rw [List.mem_singleton.1 last]
        exact Std.right_le_max

theorem isBounding_singleton (box : Box α) : IsBounding [box] box := by
  constructor <;> refine ⟨⟨box, List.mem_singleton.2 rfl, rfl⟩, ?_⟩ <;>
    rintro place ⟨other, member, rfl⟩ <;> rw [List.mem_singleton.1 member] <;> exact Std.le_refl _

variable [Min α] [Max α] [Std.LawfulOrderMin α] [Std.LawfulOrderMax α]

theorem IsBounding.join (bounding : IsBounding boxes box) (next : Box α) :
    IsBounding (boxes ++ [next]) (box.join next) where
  minX := isLeast_append bounding.minX
  maxX := isGreatest_append bounding.maxX
  minY := isLeast_append bounding.minY
  maxY := isGreatest_append bounding.maxY

theorem IsBounding.foldl (bounding : IsBounding boxes box) (rest : List (Box α)) :
    IsBounding (boxes ++ rest) (rest.foldl Box.join box) := by
  induction rest generalizing boxes box with
  | nil => simpa using bounding
  | cons next rest ih => simpa using ih (bounding.join next)

/-- A fold that starts at a neutral box finds the box around a list. -/
theorem isBounding_foldl {start : Box α} (neutral : ∀ box, start.join box = box)
    (nonempty : boxes ≠ []) : IsBounding boxes (boxes.foldl Box.join start) := by
  cases boxes with
  | nil => exact absurd rfl nonempty
  | cons first rest =>
      rw [List.foldl_cons, neutral]
      exact (isBounding_singleton first).foldl rest

end Joins

end Box
