/-
This file defines little-endian numbers in byte strings, the reads of a cursor, and frames with a
length in front.
-/

import Mathlib.Tactic

namespace Bytes

/-- The lowest bytes of a number, the least one first. -/
def le : Nat → Nat → List UInt8
  | 0, _ => []
  | width + 1, value => UInt8.ofNat value :: le width (value / 256)

def ofLe : List UInt8 → Nat
  | [] => 0
  | byte :: rest => byte.toNat + 256 * ofLe rest

@[simp] theorem length_le (width value : Nat) : (le width value).length = width := by
  induction width generalizing value with
  | zero => rfl
  | succ width ih => rw [le, List.length_cons, ih]

theorem ofLe_le (width value : Nat) : ofLe (le width value) = value % 256 ^ width := by
  induction width generalizing value with
  | zero => simp [le, ofLe, Nat.mod_one]
  | succ width ih =>
      rw [le, ofLe, ih, pow_succ', Nat.mod_mul]
      rfl

theorem ofLe_le_of_lt {width value : Nat} (small : value < 256 ^ width) :
    ofLe (le width value) = value := by
  rw [ofLe_le, Nat.mod_eq_of_lt small]

theorem le_injective {width first second : Nat} (small : first < 256 ^ width)
    (alsoSmall : second < 256 ^ width) (equal : le width first = le width second) :
    first = second := by
  rw [← ofLe_le_of_lt small, equal, ofLe_le_of_lt alsoSmall]

/-- The first bytes and the rest, where there are enough. -/
def split (count : Nat) (bytes : List UInt8) : Option (List UInt8 × List UInt8) :=
  if count ≤ bytes.length then some (bytes.take count, bytes.drop count) else none

theorem split_append {count : Nat} {front : List UInt8} (length : front.length = count)
    (rest : List UInt8) : split count (front ++ rest) = some (front, rest) := by
  subst length
  simp [split]

theorem split_of_le {count : Nat} {bytes : List UInt8} (enough : count ≤ bytes.length) :
    split count bytes = some (bytes.take count, bytes.drop count) := if_pos enough

/-- A byte string behind its length in eight bytes. -/
def frame (bytes : List UInt8) : List UInt8 := le 8 bytes.length ++ bytes

theorem frame_append_inj {first second rest others : List UInt8} (short : first.length < 256 ^ 8)
    (alsoShort : second.length < 256 ^ 8) (equal : frame first ++ rest = frame second ++ others) :
    first = second ∧ rest = others := by
  rw [frame, frame, List.append_assoc, List.append_assoc] at equal
  obtain ⟨sizes, tails⟩ := List.append_inj equal (by rw [length_le, length_le])
  exact List.append_inj tails (le_injective short alsoShort sizes)

theorem frame_ne_nil (bytes : List UInt8) : frame bytes ≠ [] := by
  rw [frame, ne_eq, List.append_eq_nil_iff]
  rintro ⟨empty, -⟩
  have length := length_le 8 bytes.length
  rw [empty] at length
  cases length

/-- A list of frames determines its byte strings, whatever they contain. -/
theorem flatMap_frame_injective {first second : List (List UInt8)}
    (short : ∀ bytes ∈ first, bytes.length < 256 ^ 8)
    (alsoShort : ∀ bytes ∈ second, bytes.length < 256 ^ 8)
    (equal : first.flatMap frame = second.flatMap frame) : first = second := by
  induction first generalizing second with
  | nil =>
      cases second with
      | nil => rfl
      | cons bytes rest =>
          rw [List.flatMap_cons] at equal
          exact absurd (List.append_eq_nil_iff.mp equal.symm).1 (frame_ne_nil bytes)
  | cons bytes rest ih =>
      cases second with
      | nil =>
          rw [List.flatMap_cons] at equal
          exact absurd (List.append_eq_nil_iff.mp equal).1 (frame_ne_nil bytes)
      | cons others more =>
          rw [List.forall_mem_cons] at short alsoShort
          rw [List.flatMap_cons, List.flatMap_cons] at equal
          obtain ⟨rfl, tails⟩ := frame_append_inj short.1 alsoShort.1 equal
          rw [ih short.2 alsoShort.2 tails]

end Bytes
