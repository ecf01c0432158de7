/-
This file defines the removal of matching entries at both ends of a list, the white space of texts,
and their comparison without the case of ASCII letters.
-/

import Mathlib.Data.List.DropRight
import Mathlib.Tactic

namespace AsciiCase

def toAsciiLowercase (text : List Char) : List Char := text.map Char.toLower

def eqIgnoreAsciiCase (first second : List Char) : Bool :=
  toAsciiLowercase first == toAsciiLowercase second

end AsciiCase

namespace Trimming

/-- The property `White_Space` of Unicode. -/
def isWhitespace (char : Char) : Bool :=
  let code := char.toNat
  (9 ≤ code && code ≤ 13) || code == 0x20 || code == 0x85 || code == 0xA0 || code == 0x1680 ||
    (0x2000 ≤ code && code ≤ 0x200A) || code == 0x2028 || code == 0x2029 || code == 0x202F ||
    code == 0x205F || code == 0x3000

variable {α : Type} {outer : α → Bool} {list : List α}

def trim (outer : α → Bool) (list : List α) : List α :=
  (list.dropWhile outer).rdropWhile outer

/-- A list is trimmed when neither end matches. -/
def Trimmed (outer : α → Bool) (list : List α) : Prop :=
  (∀ entry, list.head? = some entry → outer entry = false) ∧
    ∀ entry, list.getLast? = some entry → outer entry = false

instance decidableTrimmed (outer : α → Bool) (list : List α) : Decidable (Trimmed outer list) :=
  decidable_of_iff
    (list.head?.all (fun entry => !outer entry) = true ∧
      list.getLast?.all (fun entry => !outer entry) = true)
    (by simp [Trimmed, Option.all_eq_true])

theorem trimmed_nil : Trimmed outer [] := by simp [Trimmed]

theorem head_dropWhile (entry : α) (first : (list.dropWhile outer).head? = some entry) :
    outer entry = false := by
  have inner := List.head?_dropWhile_not outer list
  rw [first] at inner
  simpa using inner

theorem getLast_rdropWhile (entry : α) (last : (list.rdropWhile outer).getLast? = some entry) :
    outer entry = false := by
  rw [List.rdropWhile, List.getLast?_reverse] at last
  exact head_dropWhile entry last

theorem rdropWhile_prefix_head (entry : α) (first : (list.rdropWhile outer).head? = some entry) :
    list.head? = some entry := by
  obtain ⟨rest, split⟩ := List.rdropWhile_prefix outer list
  rw [← split, List.head?_append, first]
  rfl

theorem trimmed_trim (outer : α → Bool) (list : List α) : Trimmed outer (trim outer list) :=
  ⟨fun entry first => head_dropWhile entry (rdropWhile_prefix_head entry first),
    fun entry last => getLast_rdropWhile entry last⟩

theorem Trimmed.dropWhile_eq (trimmed : Trimmed outer list) : list.dropWhile outer = list := by
  cases list with
  | nil => rfl
  | cons first rest => exact List.dropWhile_cons_of_neg (by simp [trimmed.1 first rfl])

theorem Trimmed.rdropWhile_eq (trimmed : Trimmed outer list) : list.rdropWhile outer = list := by
  refine List.rdropWhile_eq_self_iff.mpr fun nonempty => ?_
  simp [trimmed.2 _ (List.getLast?_eq_getLast_of_ne_nil nonempty)]

theorem Trimmed.trim_eq (trimmed : Trimmed outer list) : trim outer list = list := by
  rw [trim, trimmed.dropWhile_eq, trimmed.rdropWhile_eq]

theorem trim_eq_nil_iff : trim outer list = [] ↔ ∀ entry ∈ list, outer entry = true := by
  rw [trim, List.rdropWhile_eq_nil_iff]
  constructor
  · intro all
    cases left : list.dropWhile outer with
    | nil => exact List.dropWhile_eq_nil_iff.mp left
    | cons first rest =>
        have inner := head_dropWhile first (by rw [left]; rfl)
        rw [all first (by rw [left]; exact List.mem_cons_self)] at inner
        cases inner
  · exact fun all entry member => all entry ((List.dropWhile_suffix outer).subset member)

theorem trim_isInfix (outer : α → Bool) (list : List α) : trim outer list <:+: list :=
  (List.rdropWhile_prefix outer _).isInfix.trans (List.dropWhile_suffix outer).isInfix

theorem mem_of_mem_trim {entry : α} (member : entry ∈ trim outer list) : entry ∈ list :=
  (trim_isInfix outer list).subset member

theorem length_trim_le (outer : α → Bool) (list : List α) :
    (trim outer list).length ≤ list.length :=
  (trim_isInfix outer list).length_le

/-- A nonempty list stays nonempty when its first entry does not match. -/
theorem rdropWhile_ne_nil {entry : α} (first : list.head? = some entry)
    (inner : outer entry = false) : list.rdropWhile outer ≠ [] := by
  intro empty
  rw [List.rdropWhile_eq_nil_iff] at empty
  rw [empty entry (List.mem_of_head? first)] at inner
  cases inner

/-- A cut list is trimmed when no matching entry comes first, or last below the cut. -/
theorem trimmed_take_iff {count : Nat} (positive : 0 < count) :
    Trimmed outer (list.take count) ↔
      ∀ before entry after, list = before ++ entry :: after → outer entry = true →
        0 < before.length ∧ before.length + 1 ≠ count ∧
          (before.length + 1 < count → after ≠ []) := by
  constructor
  · intro trimmed before entry after split matches_
    have inner (last : (list.take count).getLast? = some entry) : False := by
      rw [trimmed.2 entry last] at matches_
      cases matches_
    refine ⟨List.length_pos_iff.mpr fun empty => ?_, fun cut => inner ?_, fun below empty => inner ?_⟩
    · have first : (list.take count).head? = some entry := by
        rw [List.head?_take, if_neg positive.ne', split, empty]
        rfl
      rw [trimmed.1 entry first] at matches_
      cases matches_
    · rw [split, ← cut, List.append_cons, List.take_left' (by simp)]
      simp
    · rw [split, empty, List.take_of_length_le (by simp; omega)]
      simp
  · intro inside
    refine ⟨fun entry first => ?_, fun entry last => ?_⟩
    · by_contra matches_
      rw [List.head?_take, if_neg positive.ne'] at first
      obtain ⟨rest, split⟩ := List.head?_eq_some_iff.mp first
      exact absurd (inside [] entry rest split (by simpa using matches_)).1 (by simp)
    · by_contra matches_
      obtain ⟨before, split⟩ := List.getLast?_eq_some_iff.mp last
      have whole : list = before ++ entry :: list.drop count := by
        rw [List.append_cons, ← split, List.take_append_drop]
      have size := congrArg List.length split
      rw [List.length_take, List.length_append, List.length_singleton] at size
      obtain ⟨-, uncut, more⟩ := inside before entry _ whole (by simpa using matches_)
      have rest := List.length_pos_iff.mpr (more (by omega))
      rw [List.length_drop] at rest
      omega

theorem filter_eq_split_iff {keep : α → Bool} {kept rest : List α} {entry : α} :
    list.filter keep = kept ++ entry :: rest ↔
      ∃ before after, list = before ++ entry :: after ∧ before.filter keep = kept ∧
        keep entry = true ∧ after.filter keep = rest := by
  constructor
  · intro split
    obtain ⟨first, second, rfl, keptFirst, keptSecond⟩ := List.filter_eq_append_iff.mp split
    obtain ⟨dropped, after, rfl, none_, keptEntry, keptAfter⟩ :=
      List.filter_eq_cons_iff.mp keptSecond
    refine ⟨first ++ dropped, after, by simp, ?_, keptEntry, keptAfter⟩
    rw [List.filter_append, keptFirst, List.filter_eq_nil_iff.mpr none_, List.append_nil]
  · rintro ⟨before, after, rfl, rfl, keptEntry, rfl⟩
    rw [List.filter_append, List.filter_cons_of_pos keptEntry]

end Trimming
