/-
This file defines the binary search of a list, with what it finds in any list and in a sorted list.
-/

import Mathlib.Tactic

namespace BinarySearch

variable {α : Type} [LinearOrder α]

/-- Each turn halves the window from `left` to `right`. -/
def search (items : List α) (item : α) : Nat → Nat → Nat → Option Nat
  | 0, _, _ => none
  | fuel + 1, left, right =>
      if left < right then
        let middle := left + (right - left) / 2
        match items[middle]? with
        | none => none
        | some other =>
            if other < item then search items item fuel (middle + 1) right
            else if item < other then search items item fuel left middle
            else some middle
      else none

def binarySearch (items : List α) (item : α) : Option Nat :=
  search items item items.length 0 items.length

variable {items : List α} {item : α}

/-- A place that is found holds the item, whatever the order of the list is. -/
theorem search_sound {fuel left right place : Nat}
    (found : search items item fuel left right = some place) : items[place]? = some item := by
  induction fuel generalizing left right with
  | zero => cases found
  | succ fuel ih =>
      rw [search] at found
      split at found
      next =>
        dsimp only at found
        split at found
        next => cases found
        next other here =>
          split at found
          next => exact ih found
          next notBelow =>
            split at found
            next => exact ih found
            next notAbove =>
              cases found
              rw [here, le_antisymm (not_lt.mp notAbove) (not_lt.mp notBelow)]
      next => cases found

/-- In a sorted list an item is found at its place. -/
theorem search_complete (sorted : items.Pairwise (· < ·)) {place : Nat}
    (here : items[place]? = some item) {fuel left right : Nat} (low : left ≤ place)
    (high : place < right) (bounded : right ≤ items.length) (enough : right - left ≤ fuel) :
    search items item fuel left right = some place := by
  obtain ⟨inside, atPlace⟩ := List.getElem?_eq_some_iff.mp here
  have ordered := List.pairwise_iff_getElem.mp sorted
  induction fuel generalizing left right with
  | zero => omega
  | succ fuel ih =>
      have within : left + (right - left) / 2 < items.length := by omega
      rw [search, if_pos (by omega)]
      dsimp only
      rw [List.getElem?_eq_getElem within]
      dsimp only
      rcases Nat.lt_trichotomy (left + (right - left) / 2) place with before | equal | after
      · have below := ordered _ _ within inside before
        rw [atPlace] at below
        rw [if_pos below]
        exact ih before high bounded (by omega)
      · subst equal
        rw [atPlace, if_neg (lt_irrefl item), if_neg (lt_irrefl item)]
      · have above := ordered _ _ inside within after
        rw [atPlace] at above
        rw [if_neg (lt_asymm above), if_pos above]
        exact ih low after (by omega) (by omega)

theorem binarySearch_sound {place : Nat} (found : binarySearch items item = some place) :
    items[place]? = some item :=
  search_sound found

theorem binarySearch_isSome_iff (sorted : items.Pairwise (· < ·)) :
    (binarySearch items item).isSome ↔ item ∈ items := by
  constructor
  · intro found
    obtain ⟨place, equal⟩ := Option.isSome_iff_exists.mp found
    exact List.mem_of_getElem? (binarySearch_sound equal)
  · intro member
    obtain ⟨place, here⟩ := List.getElem?_of_mem member
    have inside := (List.getElem?_eq_some_iff.mp here).1
    have found := search_complete sorted here (Nat.zero_le place) inside (le_refl _) (le_refl _)
    exact Option.isSome_iff_exists.mpr ⟨place, found⟩

end BinarySearch
