/-
This file relates valid UTF-8 byte strings to the byte classes of their characters, and defines the
decoding that replaces what is no UTF-8.
-/

import Mathlib.Tactic

namespace Utf8

def encode (chars : List Char) : List UInt8 := chars.flatMap String.utf8EncodeChar

/-- A byte string is valid when it encodes a list of characters. -/
def Valid (bytes : List UInt8) : Prop := ∃ chars : List Char, encode chars = bytes

/-- A continuation byte never starts a character. -/
def Continuation (byte : UInt8) : Prop := byte &&& 0xC0 = 0x80

instance (byte : UInt8) : Decidable (Continuation byte) := inferInstanceAs (Decidable (_ = _))

theorem valid_iff_isValidUTF8 (bytes : List UInt8) :
    Valid bytes ↔ bytes.toByteArray.IsValidUTF8 := by
  constructor
  · rintro ⟨chars, rfl⟩
    exact ⟨chars, rfl⟩
  · rintro ⟨chars, eq⟩
    exact ⟨chars, (List.toByteArray_inj.mp eq).symm⟩

instance (bytes : List UInt8) : Decidable (Valid bytes) :=
  decidable_of_iff _ (valid_iff_isValidUTF8 bytes).symm

theorem forall_byte {property : UInt8 → Prop}
    (all : ∀ value : Fin 256, property (UInt8.ofFin value)) (byte : UInt8) : property byte :=
  all byte.toFin

theorem continuation_or (byte : UInt8) : Continuation (byte &&& 0x3f ||| 0x80) := by
  revert byte
  exact forall_byte (by decide +kernel)

theorem ascii_of_le (byte : UInt8) (small : byte ≤ 127) : byte &&& 0x80 = 0 := by
  revert small
  revert byte
  exact forall_byte (by decide +kernel)

/-- The first byte of a character tells its length. -/
inductive Lead : UInt8 → Nat → Prop where
  | one {byte : UInt8} : byte &&& 0x80 = 0 → Lead byte 1
  | two {byte : UInt8} : byte &&& 0xE0 = 0xC0 → Lead byte 2
  | three {byte : UInt8} : byte &&& 0xF0 = 0xE0 → Lead byte 3
  | four {byte : UInt8} : byte &&& 0xF8 = 0xF0 → Lead byte 4

theorem lead_two (byte : UInt8) : (byte &&& 0x1f ||| 0xc0) &&& 0xE0 = 0xC0 := by
  revert byte
  exact forall_byte (by decide +kernel)

theorem lead_three (byte : UInt8) : (byte &&& 0x0f ||| 0xe0) &&& 0xF0 = 0xE0 := by
  revert byte
  exact forall_byte (by decide +kernel)

theorem lead_four (byte : UInt8) : (byte &&& 0x07 ||| 0xf0) &&& 0xF8 = 0xF0 := by
  revert byte
  exact forall_byte (by decide +kernel)

/-- Only a byte below 128 has the lead of a single byte. -/
theorem ascii_not_lead (byte : UInt8) (ascii : byte &&& 0x80 = 0) :
    ¬ Continuation byte ∧ byte &&& 0xE0 ≠ 0xC0 ∧ byte &&& 0xF0 ≠ 0xE0 ∧ byte &&& 0xF8 ≠ 0xF0 := by
  revert ascii
  revert byte
  exact forall_byte (by decide +kernel)

theorem lead_not_continuation {byte : UInt8} {length : Nat} (lead : Lead byte length) :
    ¬ Continuation byte := by
  have masks : ∀ byte : UInt8, Continuation byte →
      byte &&& 0x80 ≠ 0 ∧ byte &&& 0xE0 ≠ 0xC0 ∧ byte &&& 0xF0 ≠ 0xE0 ∧ byte &&& 0xF8 ≠ 0xF0 :=
    forall_byte (by decide +kernel)
  intro continuation
  obtain ⟨noAscii, noTwo, noThree, noFour⟩ := masks byte continuation
  cases lead with
  | one holds => exact noAscii holds
  | two holds => exact noTwo holds
  | three holds => exact noThree holds
  | four holds => exact noFour holds

theorem Lead.length_of_ascii {byte : UInt8} {length : Nat} (lead : Lead byte length)
    (ascii : byte &&& 0x80 = 0) : length = 1 := by
  obtain ⟨-, noTwo, noThree, noFour⟩ := ascii_not_lead byte ascii
  cases lead with
  | one _ => rfl
  | two holds => exact absurd holds noTwo
  | three holds => exact absurd holds noThree
  | four holds => exact absurd holds noFour

/-- A character is one lead byte and at most three continuation bytes. -/
theorem encodeChar_shape (char : Char) :
    ∃ (lead : UInt8) (tail : List UInt8), String.utf8EncodeChar char = lead :: tail ∧
      Lead lead (tail.length + 1) ∧ tail.length ≤ 3 ∧ ∀ byte ∈ tail, Continuation byte := by
  obtain size | size | size | size := char.utf8Size_eq
  · refine ⟨_, [], String.utf8EncodeChar_eq_singleton size, .one ?_, by simp, by simp⟩
    have small := Char.utf8Size_eq_one_iff.mp size
    apply ascii_of_le
    rw [UInt8.le_iff_toNat_le, UInt32.toNat_toUInt8]
    rw [UInt32.le_iff_toNat_le] at small
    simp only [UInt8.reduceToNat, UInt32.reduceToNat] at small ⊢
    omega
  · exact ⟨_, _, String.utf8EncodeChar_eq_cons_cons size, .two (lead_two _), by simp,
      by simp [continuation_or]⟩
  · exact ⟨_, _, String.utf8EncodeChar_eq_cons_cons_cons size, .three (lead_three _), by simp,
      by simp [continuation_or]⟩
  · exact ⟨_, _, String.utf8EncodeChar_eq_cons_cons_cons_cons size, .four (lead_four _), by simp,
      by simp [continuation_or]⟩

@[simp] theorem encode_nil : encode [] = [] := rfl

@[simp] theorem encode_cons (char : Char) (chars : List Char) :
    encode (char :: chars) = String.utf8EncodeChar char ++ encode chars := rfl

theorem encode_append (first second : List Char) :
    encode (first ++ second) = encode first ++ encode second := List.flatMap_append

theorem encode_injective {first second : List Char} (equal : encode first = encode second) :
    first = second := by
  have bytes : (String.ofList first).toByteArray = (String.ofList second).toByteArray := by
    rw [String.toByteArray_ofList, String.toByteArray_ofList]
    exact congrArg List.toByteArray equal
  exact String.ofList_inj.mp (String.toByteArray_inj.mp bytes)

theorem valid_nil : Valid [] := ⟨[], rfl⟩

theorem valid_encode (chars : List Char) : Valid (encode chars) := ⟨chars, rfl⟩

theorem Valid.append {first second : List UInt8} (firstValid : Valid first)
    (secondValid : Valid second) : Valid (first ++ second) := by
  obtain ⟨firstChars, rfl⟩ := firstValid
  obtain ⟨secondChars, rfl⟩ := secondValid
  exact ⟨firstChars ++ secondChars, encode_append firstChars secondChars⟩

theorem valid_flatten {parts : List (List UInt8)} (valid : ∀ part ∈ parts, Valid part) :
    Valid parts.flatten := by
  induction parts with
  | nil => exact valid_nil
  | cons part rest ih =>
      exact (valid part (by simp)).append (ih fun other member => valid other (by simp [member]))

/-- A cut falls between two characters or inside one. -/
theorem cut_encode {chars : List Char} {first second : List UInt8}
    (eq : first ++ second = encode chars) :
    (∃ left right, first = encode left ∧ second = encode right) ∨
      ∃ left char right part rest, first = encode left ++ part ∧ second = rest ++ encode right ∧
        String.utf8EncodeChar char = part ++ rest ∧ part ≠ [] ∧ rest ≠ [] := by
  induction chars generalizing first with
  | nil =>
      obtain ⟨rfl, rfl⟩ := List.append_eq_nil_iff.mp eq
      exact .inl ⟨[], [], rfl, rfl⟩
  | cons char chars ih =>
      rw [encode_cons, List.append_eq_append_iff] at eq
      obtain ⟨rest, charEq, secondEq⟩ | ⟨more, firstEq, charsEq⟩ := eq
      · by_cases noPart : first = []
        · subst noPart
          refine .inl ⟨[], char :: chars, rfl, ?_⟩
          rw [secondEq, encode_cons, charEq, List.nil_append]
        · by_cases noRest : rest = []
          · subst noRest
            refine .inl ⟨[char], chars, ?_, secondEq⟩
            simpa using charEq.symm
          · exact .inr ⟨[], char, chars, first, rest, rfl, secondEq, charEq, noPart, noRest⟩
      · obtain ⟨left, right, moreEq, rightEq⟩ | ⟨left, inner, right, part, rest, moreEq, others⟩ :=
          ih charsEq.symm
        · exact .inl ⟨char :: left, right, by rw [firstEq, moreEq, encode_cons], rightEq⟩
        · exact .inr ⟨char :: left, inner, right, part, rest,
            by rw [firstEq, moreEq, encode_cons, List.append_assoc], others⟩

/-- The part of a character before a cut starts with its lead and the rest continues it. -/
theorem part_shape {char : Char} {part rest : List UInt8}
    (eq : String.utf8EncodeChar char = part ++ rest) (filled : part ≠ []) :
    ∃ lead tail, part = lead :: tail ∧ Lead lead (tail.length + rest.length + 1) ∧
      tail.length + rest.length ≤ 3 ∧ (∀ byte ∈ tail, Continuation byte) ∧
        ∀ byte ∈ rest, Continuation byte := by
  obtain ⟨lead, whole, charEq, leads, short, continues⟩ := encodeChar_shape char
  cases part with
  | nil => exact absurd rfl filled
  | cons first tail =>
      rw [charEq, List.cons_append, List.cons.injEq] at eq
      obtain ⟨rfl, rfl⟩ := eq
      rw [List.length_append] at leads short
      exact ⟨lead, tail, rfl, leads, short, fun byte member => continues byte (by simp [member]),
        fun byte member => continues byte (by simp [member])⟩

theorem encode_head (chars : List Char) :
    ∀ byte ∈ (encode chars).head?, ¬ Continuation byte := by
  cases chars with
  | nil => simp
  | cons char chars =>
      obtain ⟨lead, tail, eq, leads, -⟩ := encodeChar_shape char
      simp only [encode_cons, eq, List.cons_append, List.head?_cons, Option.mem_def,
        Option.some.injEq, forall_eq']
      exact lead_not_continuation leads

/-- A valid string splits before every byte that is not a continuation. -/
theorem Valid.split {first second : List UInt8} (valid : Valid (first ++ second))
    (starts : ∀ byte ∈ second.head?, ¬ Continuation byte) : Valid first ∧ Valid second := by
  obtain ⟨chars, eq⟩ := valid
  obtain ⟨left, right, rfl, rfl⟩ | ⟨left, char, right, part, rest, -, rfl, charEq, filled, open_⟩ :=
    cut_encode eq.symm
  · exact ⟨valid_encode left, valid_encode right⟩
  · obtain ⟨_, _, -, -, -, -, continues⟩ := part_shape charEq filled
    cases rest with
    | nil => exact absurd rfl open_
    | cons byte rest => exact absurd (continues byte (by simp)) (starts byte (by simp))

/-- A valid string splits on both sides of an ASCII byte. -/
theorem Valid.split_ascii {first second : List UInt8} {byte : UInt8}
    (valid : Valid (first ++ byte :: second)) (ascii : byte &&& 0x80 = 0) :
    Valid first ∧ Valid second := by
  obtain ⟨firstValid, chars, eq⟩ := valid.split (by simpa using (ascii_not_lead byte ascii).1)
  refine ⟨firstValid, ?_⟩
  cases chars with
  | nil => simp at eq
  | cons char chars =>
      obtain ⟨lead, tail, charEq, leads, -⟩ := encodeChar_shape char
      rw [encode_cons, charEq, List.cons_append, List.cons.injEq] at eq
      obtain ⟨rfl, rfl⟩ := eq
      have single := leads.length_of_ascii ascii
      obtain rfl := List.length_eq_zero_iff.mp (show tail.length = 0 by omega)
      exact valid_encode chars

/-- Skipping the continuation bytes at a cut reaches the next character. -/
theorem Valid.suffix_starts {first second : List UInt8} (valid : Valid (first ++ second)) :
    ∃ skipped rest, second = skipped ++ rest ∧ skipped.length ≤ 3 ∧
      (∀ byte ∈ skipped, Continuation byte) ∧ (∀ byte ∈ rest.head?, ¬ Continuation byte) ∧
        Valid rest := by
  obtain ⟨chars, eq⟩ := valid
  obtain ⟨left, right, rfl, rfl⟩ | ⟨left, char, right, part, rest, -, rfl, charEq, filled, -⟩ :=
    cut_encode eq.symm
  · exact ⟨[], encode right, rfl, by simp, by simp, encode_head right, valid_encode right⟩
  · obtain ⟨_, _, -, -, short, -, continues⟩ := part_shape charEq filled
    exact ⟨rest, encode right, rfl, by omega, continues, encode_head right, valid_encode right⟩

def replacement : Char := Char.ofNat 0xFFFD

/-- The character at the start of the bytes. -/
def decodeChar (bytes : List UInt8) : Option Char := bytes.toByteArray.utf8DecodeChar? 0

/-- The second bytes that may follow the first byte of a longer character. -/
def secondFits (first second : UInt8) : Bool :=
  if first = 0xE0 then 0xA0 ≤ second && second ≤ 0xBF
  else if first = 0xED then 0x80 ≤ second && second ≤ 0x9F
  else if first = 0xF0 then 0x90 ≤ second && second ≤ 0xBF
  else if first = 0xF4 then 0x80 ≤ second && second ≤ 0x8F
  else 0x80 ≤ second && second ≤ 0xBF

/-- The bytes after the first one that one replacement stands for. -/
def invalidTail (first : UInt8) (rest : List UInt8) : Nat :=
  if 0xE0 ≤ first ∧ first ≤ 0xEF then
    if (rest.take 1).any (secondFits first) then 1 else 0
  else if 0xF0 ≤ first ∧ first ≤ 0xF4 then
    if (rest.take 1).any (secondFits first) then
      if ((rest.drop 1).take 1).any fun byte => 0x80 ≤ byte && byte ≤ 0xBF then 2 else 1
    else 0
  else 0

/-- This is `String::from_utf8_lossy`. -/
def lossy : List UInt8 → List Char
  | [] => []
  | first :: rest =>
      match decodeChar (first :: rest) with
      | some char => char :: lossy (rest.drop (char.utf8Size - 1))
      | none => replacement :: lossy (rest.drop (invalidTail first rest))
termination_by bytes => bytes.length
decreasing_by
  · simp only [List.length_drop, List.length_cons]
    omega
  · simp only [List.length_drop, List.length_cons]
    omega

theorem decodeChar_encode (char : Char) (rest : List UInt8) :
    decodeChar (String.utf8EncodeChar char ++ rest) = some char := by
  rw [decodeChar, List.toByteArray_append]
  exact ByteArray.utf8DecodeChar?_utf8EncodeChar_append

theorem decodeChar_some {bytes : List UInt8} {char : Char} (decoded : decodeChar bytes = some char) :
    bytes = String.utf8EncodeChar char ++ bytes.drop char.utf8Size := by
  obtain ⟨rest, split⟩ := ByteArray.exists_of_utf8DecodeChar?_eq_some decoded
  have lists : bytes = String.utf8EncodeChar char ++ rest.data.toList := by
    apply List.toByteArray_inj.mp
    rw [split, List.toByteArray_append]
    congr 1
    exact ByteArray.ext (by simp)
  conv_rhs => rw [lists]
  rw [List.drop_left' (String.length_utf8EncodeChar char)]
  exact lists

theorem lossy_append (char : Char) (rest : List UInt8) :
    lossy (String.utf8EncodeChar char ++ rest) = char :: lossy rest := by
  obtain ⟨first, tail, shape, -⟩ := encodeChar_shape char
  have decoded := decodeChar_encode char rest
  have length := String.length_utf8EncodeChar char
  rw [shape] at decoded length ⊢
  rw [List.cons_append, lossy]
  rw [List.cons_append] at decoded
  rw [decoded]
  have size : char.utf8Size - 1 = tail.length := by
    rw [← length, List.length_cons, Nat.add_sub_cancel]
  dsimp only
  rw [size, List.drop_left]

/-- What is valid is decoded. -/
theorem lossy_encode (chars : List Char) : lossy (encode chars) = chars := by
  induction chars with
  | nil => rw [encode_nil, lossy]
  | cons char rest ih => rw [encode_cons, lossy_append, ih]

/-- A text without a replacement comes from its own encoding. -/
theorem encode_lossy (bytes : List UInt8) (whole : replacement ∉ lossy bytes) :
    encode (lossy bytes) = bytes := by
  induction bytes using lossy.induct with
  | case1 => rw [lossy, encode_nil]
  | case2 first rest char decoded ih =>
      have split := decodeChar_some decoded
      rw [lossy, decoded] at whole ⊢
      dsimp only at whole ⊢
      rw [List.mem_cons, not_or] at whole
      rw [encode_cons, ih whole.2]
      have positive := char.utf8Size_pos
      rw [← Nat.sub_add_cancel positive, List.drop_succ_cons] at split
      exact split.symm
  | case3 first rest invalid ih =>
      rw [lossy, invalid] at whole
      exact absurd List.mem_cons_self whole

theorem lossy_eq_iff {chars : List Char} (whole : replacement ∉ chars) (bytes : List UInt8) :
    lossy bytes = chars ↔ bytes = encode chars := by
  constructor
  · rintro rfl
    exact (encode_lossy bytes whole).symm
  · rintro rfl
    exact lossy_encode chars

end Utf8
