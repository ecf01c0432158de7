/-
This file cuts a list into complete lines and an open rest at the occurrences of a separator.
-/

import Mathlib.Tactic

namespace Lines

variable {α : Type} (separator : α)

/-- A complete line ends with its only separator. -/
def Complete (line : List α) : Prop := ∃ body, separator ∉ body ∧ line = body ++ [separator]

/-- An open line is kept only when it holds something. -/
def openLine (line : List α) : List (List α) := if line = [] then [] else [line]

theorem Complete.ne_nil {line : List α} (complete : Complete separator line) : line ≠ [] := by
  obtain ⟨body, -, rfl⟩ := complete
  simp

theorem Complete.dropLast {line : List α} (complete : Complete separator line) :
    separator ∉ line.dropLast := by
  obtain ⟨body, clean, rfl⟩ := complete
  simpa using clean

theorem Complete.getLast? {line : List α} (complete : Complete separator line) :
    line.getLast? = some separator := by
  obtain ⟨body, -, rfl⟩ := complete
  simp

theorem flatten_openLine (line : List α) : (openLine line).flatten = line := by
  unfold openLine
  split
  next empty => simp [empty]
  next => simp

theorem openLine_eq_nil {line : List α} : openLine line = [] ↔ line = [] := by
  simp [openLine]

variable [DecidableEq α]

def complete (data : List α) : List (List α) :=
  (data.splitOn separator).dropLast.map (· ++ [separator])

def rest (data : List α) : List α := (data.splitOn separator).getLast?.getD []

theorem splitOn_eq (data : List α) :
    data.splitOn separator = (data.splitOn separator).dropLast ++ [rest separator data] := by
  have filled := List.splitOn_ne_nil separator data
  conv_lhs => rw [← List.dropLast_append_getLast filled]
  rw [rest, List.getLast?_eq_getLast_of_ne_nil filled, Option.getD_some]

theorem complete_of_notMem {data : List α} (clean : separator ∉ data) :
    complete separator data = [] := by
  simp [complete, List.splitOn_eq_singleton clean]

theorem rest_of_notMem {data : List α} (clean : separator ∉ data) :
    rest separator data = data := by
  simp [rest, List.splitOn_eq_singleton clean]

theorem complete_append {body data : List α} (clean : separator ∉ body) :
    complete separator (body ++ separator :: data) =
      (body ++ [separator]) :: complete separator data := by
  rw [complete, List.splitOn_append_cons_self_of_not_mem clean,
    List.dropLast_cons_of_ne_nil (List.splitOn_ne_nil separator data), List.map_cons, complete]

theorem rest_append {body data : List α} (clean : separator ∉ body) :
    rest separator (body ++ separator :: data) = rest separator data := by
  rw [rest, List.splitOn_append_cons_self_of_not_mem clean, rest,
    List.getLast?_cons_of_ne_nil (List.splitOn_ne_nil separator data)]

/-- A list is an open rest or starts with a complete line. -/
theorem line_induction {motive : List α → Prop}
    (tail : ∀ data, separator ∉ data → motive data)
    (line : ∀ body data, separator ∉ body → motive data → motive (body ++ separator :: data))
    (data : List α) : motive data := by
  induction size : data.length using Nat.strongRecOn generalizing data with
  | _ length ih =>
      by_cases member : separator ∈ data
      · obtain ⟨body, later, rfl, clean⟩ := List.eq_append_cons_of_mem member
        exact line body later clean (ih later.length (by simp at size; omega) later rfl)
      · exact tail data member

theorem flatten_complete (data : List α) :
    (complete separator data).flatten ++ rest separator data = data := by
  induction data using line_induction separator with
  | tail data clean => simp [complete_of_notMem separator clean, rest_of_notMem separator clean]
  | line body data clean ih =>
      rw [complete_append separator clean, rest_append separator clean, List.flatten_cons,
        List.append_assoc, ih]
      simp

theorem complete_mem (data : List α) :
    ∀ line ∈ complete separator data, Complete separator line := by
  induction data using line_induction separator with
  | tail data clean => simp [complete_of_notMem separator clean]
  | line body data clean ih =>
      rw [complete_append separator clean]
      intro line member
      rcases List.mem_cons.mp member with rfl | later
      · exact ⟨body, clean, rfl⟩
      · exact ih line later

theorem rest_notMem (data : List α) : separator ∉ rest separator data := by
  induction data using line_induction separator with
  | tail data clean => rwa [rest_of_notMem separator clean]
  | line body data clean ih => rwa [rest_append separator clean]

/-- Data ends with the separator when lines were cut off and nothing is left open. -/
theorem getLast?_eq_separator (data : List α) :
    data.getLast? = some separator ↔ rest separator data = [] ∧ complete separator data ≠ [] := by
  induction data using line_induction separator with
  | tail data clean =>
      rw [complete_of_notMem separator clean, rest_of_notMem separator clean]
      refine ⟨fun last => absurd (List.mem_of_getLast? last) clean, by simp⟩
  | line body data clean ih =>
      rw [complete_append separator clean, rest_append separator clean]
      by_cases empty : data = []
      · subst empty
        simp [rest]
      · rw [List.getLast?_append_of_ne_nil _ (by simp), List.getLast?_cons_of_ne_nil empty, ih]
        refine ⟨fun last => ⟨last.1, by simp⟩, fun last => ⟨last.1, fun noLine => ?_⟩⟩
        have whole := flatten_complete separator data
        rw [noLine, last.1] at whole
        exact empty whole.symm

section Pairs

variable (first second : α)

/-- The parts between the occurrences of a pair of entries, from the left. -/
def splitPair : List α → List (List α)
  | [] => [[]]
  | [entry] => [[entry]]
  | entry :: next :: rest =>
      if entry = first ∧ next = second then [] :: splitPair rest
      else (entry :: (splitPair (next :: rest)).headD []) :: (splitPair (next :: rest)).tail

theorem splitPair_ne_nil (data : List α) : splitPair first second data ≠ [] := by
  cases data using splitPair.fun_cases first second with
  | case1 => exact List.cons_ne_nil _ _
  | case2 entry => exact List.cons_ne_nil _ _
  | case3 entry next rest found =>
      rw [splitPair, if_pos found]
      exact List.cons_ne_nil _ _
  | case4 entry next rest missing =>
      rw [splitPair, if_neg missing]
      exact List.cons_ne_nil _ _

theorem intercalate_splitPair (data : List α) :
    [first, second].intercalate (splitPair first second data) = data := by
  induction data using splitPair.induct first second with
  | case1 => rfl
  | case2 entry => rfl
  | case3 entry next rest found inductionHypothesis =>
      rw [splitPair, if_pos found, List.intercalate_cons_of_ne_nil (splitPair_ne_nil _ _ rest),
        inductionHypothesis, found.1, found.2]
      rfl
  | case4 entry next rest missing inductionHypothesis =>
      rw [splitPair, if_neg missing]
      cases parts : splitPair first second (next :: rest) with
      | nil => exact absurd parts (splitPair_ne_nil _ _ _)
      | cons head tail =>
          rw [parts] at inductionHypothesis
          conv_rhs => rw [← inductionHypothesis]
          cases tail with
          | nil => rfl
          | cons other tail => simp [List.intercalate_cons_cons]

end Pairs

end Lines
