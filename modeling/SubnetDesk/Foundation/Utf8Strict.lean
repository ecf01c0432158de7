/-
This file defines the decoding of byte strings that stops where they are no UTF-8.
-/

import SubnetDesk.Foundation.Utf8

namespace Utf8

/-- The length is missing where the bytes end inside a character. -/
structure Utf8Error where
  validUpTo : Nat
  errorLen : Option Nat

def continues (byte : UInt8) : Bool := 0x80 ≤ byte && byte ≤ 0xBF

/-- The length of the bytes that start no character. -/
def errorLen (first : UInt8) (rest : List UInt8) : Option Nat :=
  if 0xC2 ≤ first ∧ first ≤ 0xDF then
    match rest with
    | [] => none
    | _ :: _ => some 1
  else if 0xE0 ≤ first ∧ first ≤ 0xEF then
    match rest with
    | [] => none
    | [second] => if secondFits first second then none else some 1
    | second :: _ :: _ => if secondFits first second then some 2 else some 1
  else if 0xF0 ≤ first ∧ first ≤ 0xF4 then
    match rest with
    | [] => none
    | [second] => if secondFits first second then none else some 1
    | [second, third] =>
        if secondFits first second then if continues third then none else some 2 else some 1
    | second :: third :: _ :: _ =>
        if secondFits first second then if continues third then some 3 else some 2 else some 1
  else some 1

/-- This is `str::from_utf8`. -/
def fromUtf8 : List UInt8 → Except Utf8Error (List Char)
  | [] => .ok []
  | first :: rest =>
      match decodeChar (first :: rest) with
      | some char =>
          match fromUtf8 (rest.drop (char.utf8Size - 1)) with
          | .ok chars => .ok (char :: chars)
          | .error e => .error { e with validUpTo := char.utf8Size + e.validUpTo }
      | none => .error ⟨0, errorLen first rest⟩
termination_by bytes => bytes.length
decreasing_by
  simp only [List.length_drop, List.length_cons]
  omega

theorem fromUtf8_append (char : Char) (rest : List UInt8) :
    fromUtf8 (String.utf8EncodeChar char ++ rest) =
      match fromUtf8 rest with
      | .ok chars => .ok (char :: chars)
      | .error e => .error { e with validUpTo := char.utf8Size + e.validUpTo } := by
  obtain ⟨first, tail, shape, -⟩ := encodeChar_shape char
  have decoded := decodeChar_encode char rest
  have length := String.length_utf8EncodeChar char
  rw [shape] at decoded length ⊢
  rw [List.cons_append, fromUtf8]
  rw [List.cons_append] at decoded
  rw [decoded]
  have size : char.utf8Size - 1 = tail.length := by
    rw [← length, List.length_cons, Nat.add_sub_cancel]
  dsimp only
  rw [size, List.drop_left]

theorem fromUtf8_encode (chars : List Char) : fromUtf8 (encode chars) = .ok chars := by
  induction chars with
  | nil => rw [encode_nil, fromUtf8]
  | cons char rest ih => rw [encode_cons, fromUtf8_append, ih]

theorem encode_of_fromUtf8 {bytes : List UInt8} {chars : List Char}
    (decoded : fromUtf8 bytes = .ok chars) : encode chars = bytes := by
  induction bytes using fromUtf8.induct generalizing chars with
  | case1 =>
      rw [fromUtf8] at decoded
      cases decoded
      rfl
  | case2 first rest char found decodedRest inside inductionHypothesis =>
      rw [fromUtf8, found] at decoded
      dsimp only at decoded
      rw [inside] at decoded
      cases decoded
      have positive := char.utf8Size_pos
      rw [encode_cons, inductionHypothesis inside]
      conv_rhs => rw [decodeChar_some found]
      rw [← List.drop_succ_cons (a := first), Nat.sub_add_cancel positive]
  | case3 first rest char found error failed inductionHypothesis =>
      rw [fromUtf8, found] at decoded
      dsimp only at decoded
      rw [failed] at decoded
      cases decoded
  | case4 first rest missing =>
      rw [fromUtf8, missing] at decoded
      cases decoded

theorem length_encode_cons (char : Char) (chars : List Char) :
    (encode (char :: chars)).length = char.utf8Size + (encode chars).length := by
  rw [encode_cons, List.length_append, String.length_utf8EncodeChar]

theorem toNat_ofNat_small {value : Nat} (small : value < 256) : (UInt8.ofNat value).toNat = value := by
  rw [UInt8.toNat_ofNat', Nat.mod_eq_of_lt small]

/-- The second byte of a character of three bytes fits its first byte. -/
theorem secondFits_three {v : Nat} (long : 0x7ff < v)
    (scalar : v < 0xD800 ∨ (0xDFFF < v ∧ v ≤ 0xffff)) :
    secondFits (UInt8.ofNat (v / 4096 % 16 + 0xe0)) (UInt8.ofNat (v / 64 % 64 + 0x80)) = true := by
  have first := toNat_ofNat_small (show v / 4096 % 16 + 0xe0 < 256 by omega)
  have second := toNat_ofNat_small (show v / 64 % 64 + 0x80 < 256 by omega)
  unfold secondFits
  simp only [← UInt8.toNat_inj, UInt8.le_iff_toNat_le, first, second, UInt8.reduceToNat]
  split_ifs <;> simp only [Bool.and_eq_true, decide_eq_true_eq] <;> omega

/-- The second byte of a character of four bytes fits its first byte. -/
theorem secondFits_four {v : Nat} (long : 0xffff < v) (scalar : v < 0x110000) :
    secondFits (UInt8.ofNat (v / 262144 % 8 + 0xf0)) (UInt8.ofNat (v / 4096 % 64 + 0x80)) = true := by
  have first := toNat_ofNat_small (show v / 262144 % 8 + 0xf0 < 256 by omega)
  have second := toNat_ofNat_small (show v / 4096 % 64 + 0x80 < 256 by omega)
  unfold secondFits
  simp only [← UInt8.toNat_inj, UInt8.le_iff_toNat_le, first, second, UInt8.reduceToNat]
  split_ifs <;> simp only [Bool.and_eq_true, decide_eq_true_eq] <;> omega

theorem continues_third (v : Nat) : continues (UInt8.ofNat (v % 64 + 0x80)) = true := by
  have third := toNat_ofNat_small (show v % 64 + 0x80 < 256 by omega)
  unfold continues
  simp only [UInt8.le_iff_toNat_le, third, UInt8.reduceToNat, Bool.and_eq_true, decide_eq_true_eq]
  omega

/-- The bytes of a character that is cut off miss bytes. -/
theorem errorLen_part {char : Char} {first : UInt8} {tail rest : List UInt8}
    (shape : String.utf8EncodeChar char = first :: (tail ++ rest)) (open_ : rest ≠ []) :
    errorLen first tail = none := by
  have scalar : char.val.toNat < 0xD800 ∨ (0xDFFF < char.val.toNat ∧ char.val.toNat < 0x110000) :=
    char.valid
  have more := List.length_pos_iff.mpr open_
  unfold String.utf8EncodeChar at shape
  dsimp only at shape
  generalize char.val.toNat = v at shape scalar
  split at shape
  next =>
    have none := (List.cons.inj shape).2
    exact absurd (List.append_eq_nil_iff.mp none.symm).2 open_
  next =>
    split at shape
    next two =>
      obtain ⟨rfl, others⟩ := List.cons.inj shape
      have short := congrArg List.length others
      rw [List.length_append, List.length_singleton] at short
      obtain rfl := List.length_eq_zero_iff.mp (show tail.length = 0 by omega)
      have first := toNat_ofNat_small (show v / 64 % 32 + 0xc0 < 256 by omega)
      refine if_pos ?_
      simp only [UInt8.le_iff_toNat_le, first, UInt8.reduceToNat]
      omega
    next =>
      split at shape
      next three =>
        obtain ⟨rfl, others⟩ := List.cons.inj shape
        have first := toNat_ofNat_small (show v / 4096 % 16 + 0xe0 < 256 by omega)
        have fits := secondFits_three (show 0x7ff < v by omega) (by omega)
        unfold errorLen
        rw [if_neg, if_pos]
        · match tail, others with
          | [], _ => rfl
          | [second], others =>
              obtain ⟨rfl, -⟩ := List.cons.inj others
              exact if_pos fits
          | second :: third :: others, shape =>
              have short := congrArg List.length shape
              simp only [List.length_append, List.length_cons, List.length_nil] at short
              omega
        · simp only [UInt8.le_iff_toNat_le, first, UInt8.reduceToNat]
          omega
        · simp only [UInt8.le_iff_toNat_le, first, UInt8.reduceToNat]
          omega
      next four =>
        obtain ⟨rfl, others⟩ := List.cons.inj shape
        have first := toNat_ofNat_small (show v / 262144 % 8 + 0xf0 < 256 by omega)
        have fits := secondFits_four (show 0xffff < v by omega) (by omega)
        unfold errorLen
        rw [if_neg, if_neg, if_pos]
        · match tail, others with
          | [], _ => rfl
          | [second], others =>
              obtain ⟨rfl, -⟩ := List.cons.inj others
              exact if_pos fits
          | [second, third], others =>
              obtain ⟨rfl, later⟩ := List.cons.inj others
              obtain ⟨rfl, -⟩ := List.cons.inj later
              exact (if_pos fits).trans (if_pos (continues_third _))
          | second :: third :: fourth :: others, shape =>
              have short := congrArg List.length shape
              simp only [List.length_append, List.length_cons, List.length_nil] at short
              omega
        · simp only [UInt8.le_iff_toNat_le, first, UInt8.reduceToNat]
          omega
        · simp only [UInt8.le_iff_toNat_le, first, UInt8.reduceToNat]
          omega
        · simp only [UInt8.le_iff_toNat_le, first, UInt8.reduceToNat]
          omega

/-- A part of a character is no character. -/
theorem decodeChar_part {char : Char} {part rest : List UInt8}
    (shape : String.utf8EncodeChar char = part ++ rest) (open_ : rest ≠ []) :
    decodeChar part = none := by
  cases decoded : decodeChar part with
  | none => rfl
  | some other =>
      have split := decodeChar_some decoded
      have whole := decodeChar_encode other (part.drop other.utf8Size ++ rest)
      rw [← List.append_assoc, ← split, ← shape] at whole
      have same := decodeChar_encode char []
      rw [List.append_nil] at same
      obtain rfl := Option.some.inj (same.symm.trans whole)
      have long := congrArg List.length split
      have total := congrArg List.length shape
      rw [List.length_append, String.length_utf8EncodeChar] at long total
      have more := List.length_pos_iff.mpr open_
      omega

/-- Bytes that end inside a character are valid up to it. -/
theorem fromUtf8_part (left : List Char) {char : Char} {part rest : List UInt8}
    (shape : String.utf8EncodeChar char = part ++ rest) (filled : part ≠ []) (open_ : rest ≠ []) :
    fromUtf8 (encode left ++ part) = .error ⟨(encode left).length, none⟩ := by
  induction left with
  | nil =>
      cases part with
      | nil => exact absurd rfl filled
      | cons first tail =>
          rw [encode_nil, List.nil_append, fromUtf8, decodeChar_part shape open_]
          dsimp only
          rw [errorLen_part shape open_]
          rfl
  | cons head others ih =>
      rw [encode_cons, List.append_assoc, fromUtf8_append, ih, List.length_append,
        String.length_utf8EncodeChar]

end Utf8
