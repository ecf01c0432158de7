/-
This file defines disks of named files, the changes a run makes to them, and the changes that are
left of a run that is stopped.
-/

import Mathlib.Logic.Function.Basic

/-- A file that is missing has no content. -/
abbrev Disk (File Content : Type) := File → Option Content

namespace Disk

variable {File Content : Type}

inductive Change (File Content : Type) where
  | write (file : File) (content : Content)
  | remove (file : File)

def Change.file : Change File Content → File
  | .write file _ => file
  | .remove file => file

def Change.content : Change File Content → Option Content
  | .write _ content => some content
  | .remove _ => none

/-- The change that is left when its write is torn. A removal is not torn. -/
def Change.tear (torn : Content) : Change File Content → Option (Change File Content)
  | .write file _ => some (.write file torn)
  | .remove _ => none

/-- The first changes of a run that is stopped, and the torn one, where the stop is in a write. -/
def performed : List (Change File Content) → Nat → Option Content → List (Change File Content)
  | [], _, _ => []
  | change :: _, 0, torn => (torn.bind change.tear).toList
  | change :: rest, count + 1, torn => change :: performed rest count torn

theorem performed_append_of_lt (first second : List (Change File Content)) (count : Nat)
    (torn : Option Content) (within : count < first.length) :
    performed (first ++ second) count torn = performed first count torn := by
  induction first generalizing count with
  | nil => simp at within
  | cons change rest ih =>
      cases count with
      | zero => rfl
      | succ count =>
          rw [List.cons_append, performed, performed, ih count (by simpa using within)]

theorem performed_append_of_le (first second : List (Change File Content)) (count : Nat)
    (torn : Option Content) (beyond : first.length ≤ count) :
    performed (first ++ second) count torn =
      first ++ performed second (count - first.length) torn := by
  induction first generalizing count with
  | nil => rfl
  | cons change rest ih =>
      cases count with
      | zero => simp at beyond
      | succ count =>
          rw [List.cons_append, performed, ih count (by simpa using beyond), List.cons_append,
            List.length_cons, Nat.add_sub_add_right]

/-- A run that is stopped after its last change is a whole one. -/
theorem performed_all (changes : List (Change File Content)) (torn : Option Content) :
    performed changes changes.length torn = changes := by
  induction changes with
  | nil => rfl
  | cons change rest ih => rw [List.length_cons, performed, ih]

/-- Only files of the run are changed in a part of it. -/
theorem performed_files (changes : List (Change File Content)) (count : Nat)
    (torn : Option Content) (change : Change File Content)
    (member : change ∈ performed changes count torn) :
    ∃ whole ∈ changes, whole.file = change.file := by
  induction changes generalizing count with
  | nil => simp [performed] at member
  | cons first rest ih =>
      cases count with
      | zero =>
          refine ⟨first, List.mem_cons_self, ?_⟩
          rw [performed, Option.mem_toList, Option.bind_eq_some_iff] at member
          obtain ⟨torn, -, torn_⟩ := member
          cases first with
          | write file content => cases torn_; rfl
          | remove file => cases torn_
      | succ count =>
          rw [performed, List.mem_cons] at member
          cases member with
          | inl same => exact ⟨first, List.mem_cons_self, by rw [same]⟩
          | inr later =>
              obtain ⟨whole, inside, same⟩ := ih count later
              exact ⟨whole, List.mem_cons_of_mem _ inside, same⟩

section Apply

variable [DecidableEq File]

def apply (disk : Disk File Content) (change : Change File Content) : Disk File Content :=
  Function.update disk change.file change.content

def applyAll (disk : Disk File Content) (changes : List (Change File Content)) :
    Disk File Content :=
  changes.foldl apply disk

theorem applyAll_append (disk : Disk File Content) (first second : List (Change File Content)) :
    disk.applyAll (first ++ second) = (disk.applyAll first).applyAll second :=
  List.foldl_append

/-- A file that no change is about keeps its content. -/
theorem applyAll_other (disk : Disk File Content) (changes : List (Change File Content))
    (file : File) (other : ∀ change ∈ changes, change.file ≠ file) :
    disk.applyAll changes file = disk file := by
  induction changes generalizing disk with
  | nil => rfl
  | cons change rest ih =>
      rw [List.forall_mem_cons] at other
      exact (ih (disk.apply change) other.2).trans (Function.update_of_ne other.1.symm _ _)

end Apply

end Disk
