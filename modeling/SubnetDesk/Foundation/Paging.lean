/-
This file defines pages of bounded room, and the reading of a list page by page.
-/

import Mathlib.Tactic

namespace Paging

variable {Item : Type}

/-- Items are added to a page until one of them does not fit behind the others. -/
def fill (fits : List Item → Item → Bool) : List Item → List Item → List Item
  | page, [] => page
  | page, item :: rest => if fits page item then fill fits (page ++ [item]) rest else page

theorem fill_prefix (fits : List Item → Item → Bool) (page rest : List Item) :
    fill fits page rest <+: page ++ rest := by
  induction rest generalizing page with
  | nil => rw [fill, List.append_nil]
  | cons item rest ih =>
      rw [fill]
      split
      next =>
        have longer := ih (page ++ [item])
        rwa [List.append_assoc, List.singleton_append] at longer
      next => exact List.prefix_append page (item :: rest)

theorem fill_prefix_self (fits : List Item → Item → Bool) (page rest : List Item) :
    page <+: fill fits page rest := by
  induction rest generalizing page with
  | nil => exact List.prefix_rfl
  | cons item rest ih =>
      rw [fill]
      split
      next => exact (List.prefix_append page [item]).trans (ih (page ++ [item]))
      next => exact List.prefix_rfl

/-- A page with room for an item is empty only where nothing is left. -/
theorem eq_nil_of_fill {fits : List Item → Item → Bool} {rest : List Item}
    (roomy : ∀ item, fits [] item = true) (empty : fill fits [] rest = []) : rest = [] := by
  cases rest with
  | nil => rfl
  | cons item rest =>
      rw [fill, if_pos (roomy item)] at empty
      have longer := (fill_prefix_self fits ([] ++ [item]) rest).length_le
      rw [empty] at longer
      simp at longer

/-- Each page starts where the pages before it have ended. -/
def Resumes : Nat → List (Nat × List Item) → Prop
  | _, [] => True
  | start, (offset, page) :: rest => offset = start ∧ Resumes (start + page.length) rest

/-- Pages of one list that resume each other are a part of it. -/
theorem flatten_prefix {listing : List Item} {pages : List (Nat × List Item)} {start : Nat}
    (parts : ∀ page ∈ pages, page.2 <+: listing.drop page.1) (resumes : Resumes start pages) :
    (pages.map Prod.snd).flatten <+: listing.drop start := by
  induction pages generalizing start with
  | nil => exact List.nil_prefix
  | cons page rest ih =>
      rw [List.forall_mem_cons] at parts
      obtain ⟨rfl, later⟩ := resumes
      have tail := ih parts.2 later
      rw [← List.drop_drop] at tail
      have whole := List.prefix_iff_eq_append.mp parts.1
      rw [List.map_cons, List.flatten_cons, ← whole]
      exact (List.prefix_append_right_inj _).mpr tail

/-- Where the last page is empty because nothing is left, the pages are the whole list. -/
theorem flatten_whole {listing : List Item} {pages : List (Nat × List Item)} {start last : Nat}
    (parts : ∀ page ∈ pages, page.2 <+: listing.drop page.1) (resumes : Resumes start pages)
    (ends : pages.getLast? = some (last, [])) (left : listing.drop last = []) :
    (pages.map Prod.snd).flatten = listing.drop start := by
  induction pages generalizing start with
  | nil => simp at ends
  | cons page rest ih =>
      rw [List.forall_mem_cons] at parts
      obtain ⟨rfl, later⟩ := resumes
      have whole := List.prefix_iff_eq_append.mp parts.1
      cases rest with
      | nil =>
          cases ends
          rw [left]
          rfl
      | cons next rest =>
          rw [List.getLast?_cons_cons] at ends
          have tail := ih parts.2 later ends
          rw [← List.drop_drop] at tail
          rw [List.map_cons, List.flatten_cons, tail]
          exact whole

end Paging
