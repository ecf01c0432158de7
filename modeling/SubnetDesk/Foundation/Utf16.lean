/-
This file defines the code units of text in UTF-16, and their decoder.
-/

import Mathlib.Tactic

namespace Utf16

/-- A character beyond the first plane is a pair of surrogates. -/
def units (char : Char) : List Nat :=
  if char.toNat < 0x10000 then [char.toNat]
  else
    [0xD800 + (char.toNat - 0x10000) / 0x400, 0xDC00 + (char.toNat - 0x10000) % 0x400]

def encode (text : List Char) : List Nat := text.flatMap units

/-- Surrogates are accepted in pairs only. -/
def decode : List Nat → Option (List Char)
  | [] => some []
  | unit :: rest =>
      if unit < 0xD800 ∨ 0xDFFF < unit then (decode rest).map (Char.ofNat unit :: ·)
      else if 0xDBFF < unit then none
      else
        match rest with
        | [] => none
        | low :: rest =>
            if 0xDC00 ≤ low ∧ low ≤ 0xDFFF then
              (decode rest).map
                (Char.ofNat (0x10000 + (unit - 0xD800) * 0x400 + (low - 0xDC00)) :: ·)
            else none

theorem toNat_valid (char : Char) :
    char.toNat < 0xD800 ∨ 0xDFFF < char.toNat ∧ char.toNat < 0x110000 := by
  exact char.valid

theorem decode_units (char : Char) (rest : List Nat) :
    decode (units char ++ rest) = (decode rest).map (char :: ·) := by
  have valid := toNat_valid char
  unfold units
  split
  next plane =>
    rw [List.singleton_append, decode.eq_def]
    dsimp only
    rw [if_pos (by omega), Char.ofNat_toNat]
  next beyond =>
    have whole : 0x10000 + (0xD800 + (char.toNat - 0x10000) / 0x400 - 0xD800) * 0x400 +
        (0xDC00 + (char.toNat - 0x10000) % 0x400 - 0xDC00) = char.toNat := by omega
    rw [List.cons_append, List.singleton_append, decode, if_neg (by omega), if_neg (by omega)]
    rw [if_pos (by omega), whole, Char.ofNat_toNat]

theorem decode_encode (text : List Char) : decode (encode text) = some text := by
  induction text with
  | nil => rfl
  | cons char rest ih =>
      rw [encode, List.flatMap_cons, decode_units]
      change (decode (encode rest)).map (char :: ·) = _
      rw [ih]
      rfl

/-- Every unit fits into sixteen bits. -/
theorem units_lt {char : Char} {unit : Nat} (member : unit ∈ units char) : unit < 2 ^ 16 := by
  have valid := toNat_valid char
  unfold units at member
  split at member
  next plane =>
    rw [List.mem_singleton] at member
    omega
  next beyond =>
    simp only [List.mem_cons, List.not_mem_nil, or_false] at member
    omega

/-- Only the null character has a zero unit. -/
theorem units_ne_zero {char : Char} (visible : char ≠ Char.ofNat 0) {unit : Nat}
    (member : unit ∈ units char) : unit ≠ 0 := by
  have nonzero : char.toNat ≠ 0 := by
    intro zero
    apply visible
    rw [← Char.ofNat_toNat char, zero]
  unfold units at member
  split at member
  next plane =>
    rw [List.mem_singleton] at member
    omega
  next beyond =>
    simp only [List.mem_cons, List.not_mem_nil, or_false] at member
    omega

end Utf16
