/-
This file develops the texts in which addresses of the Internet Protocol are printed, and how texts
are read as addresses of version 6.
-/

import Mathlib.Tactic

namespace IpText

/-- The characters of printed addresses. -/
def addressChars : List Char := "0123456789abcdef:.".toList

def octets (bits : BitVec 32) : List Nat :=
  [24, 16, 8, 0].map fun low => (bits.extractLsb' low 8).toNat

def dotted (bits : BitVec 32) : List Char :=
  ['.'].intercalate ((octets bits).map (Nat.toDigits 10))

def segments (bits : BitVec 128) : List Nat :=
  [112, 96, 80, 64, 48, 32, 16, 0].map fun low => (bits.extractLsb' low 16).toNat

/-- The start and the length of the first of the longest runs of zeros. -/
def zeroRun : List Nat → Nat → Nat × Nat → Nat × Nat → Nat × Nat
  | [], _, longest, _ => longest
  | segment :: rest, index, longest, current =>
      if segment = 0 then
        let grown := (if current.2 = 0 then index else current.1, current.2 + 1)
        zeroRun rest (index + 1) (if longest.2 < grown.2 then grown else longest) grown
      else zeroRun rest (index + 1) longest (0, 0)

def joined (segments : List Nat) : List Char :=
  [':'].intercalate (segments.map (Nat.toDigits 16))

/-- Two or more segments that are zero are left out once. -/
def compressed (bits : BitVec 128) : List Char :=
  let run := zeroRun (segments bits) 0 (0, 0) (0, 0)
  if 1 < run.2 then
    joined ((segments bits).take run.1) ++ [':', ':'] ++
      joined ((segments bits).drop (run.1 + run.2))
  else joined (segments bits)

theorem mem_toDigits {base : Nat} (large : 1 < base) {number : Nat} {char : Char}
    (member : char ∈ Nat.toDigits base number) : ∃ digit < base, char = digit.digitChar := by
  induction number using Nat.strongRecOn with
  | ind number inductionHypothesis =>
      rw [Nat.toDigits_eq_if large] at member
      split at member
      next small => exact ⟨number, small, List.mem_singleton.mp member⟩
      next big =>
        obtain earlier | last := List.mem_append.mp member
        · exact inductionHypothesis _ (Nat.div_lt_self (by omega) large) earlier
        · exact ⟨number % base, Nat.mod_lt _ (by omega), List.mem_singleton.mp last⟩

theorem mem_addressChars_of_digit {base : Nat} (large : 1 < base) (small : base ≤ 16)
    {number : Nat} {char : Char} (member : char ∈ Nat.toDigits base number) :
    char ∈ addressChars := by
  obtain ⟨digit, below, rfl⟩ := mem_toDigits large member
  have digits : ∀ digit < 16, digit.digitChar ∈ addressChars := by decide
  exact digits digit (by omega)

theorem mem_of_mem_intercalate {separator : List Char} {parts : List (List Char)} {char : Char}
    (member : char ∈ separator.intercalate parts) :
    char ∈ separator ∨ ∃ part ∈ parts, char ∈ part := by
  induction parts with
  | nil => cases member
  | cons part rest inductionHypothesis =>
      cases rest with
      | nil =>
          rw [List.intercalate_singleton] at member
          exact .inr ⟨part, List.mem_singleton_self part, member⟩
      | cons next rest =>
          rw [List.intercalate_cons_cons, List.mem_append, List.mem_append] at member
          obtain (here | between) | later := member
          · exact .inr ⟨part, List.mem_cons_self, here⟩
          · exact .inl between
          · refine (inductionHypothesis later).imp id fun ⟨other, listed, inside⟩ => ?_
            exact ⟨other, List.mem_cons_of_mem part listed, inside⟩

theorem mem_addressChars_of_intercalate {separator : Char} (known : separator ∈ addressChars)
    {base : Nat} (large : 1 < base) (small : base ≤ 16) {numbers : List Nat} {char : Char}
    (member : char ∈ [separator].intercalate (numbers.map (Nat.toDigits base))) :
    char ∈ addressChars := by
  obtain between | ⟨part, listed, inside⟩ := mem_of_mem_intercalate member
  · exact List.mem_singleton.mp between ▸ known
  · obtain ⟨number, -, rfl⟩ := List.mem_map.mp listed
    exact mem_addressChars_of_digit large small inside

theorem mem_addressChars_of_dotted {bits : BitVec 32} {char : Char} (member : char ∈ dotted bits) :
    char ∈ addressChars :=
  mem_addressChars_of_intercalate (by decide) (by decide) (by decide) member

theorem mem_addressChars_of_compressed {bits : BitVec 128} {char : Char}
    (member : char ∈ compressed bits) : char ∈ addressChars := by
  have inside : ∀ segments, char ∈ joined segments → char ∈ addressChars := fun _ =>
    mem_addressChars_of_intercalate (by decide) (by decide) (by decide)
  unfold compressed at member
  dsimp only at member
  split at member
  next =>
    obtain (first | colons) | second := by
      rwa [List.mem_append, List.mem_append] at member
    · exact inside _ first
    · have colon : char = ':' := by simpa using colons
      exact colon ▸ by decide
    · exact inside _ second
  next => exact inside _ member

theorem colon_notMem_dotted (bits : BitVec 32) : ':' ∉ dotted bits := by
  intro member
  obtain between | ⟨part, listed, inside⟩ := mem_of_mem_intercalate member
  · exact absurd (List.mem_singleton.mp between) (by decide)
  · obtain ⟨number, -, rfl⟩ := List.mem_map.mp listed
    obtain ⟨digit, below, same⟩ := mem_toDigits (by decide) inside
    have digits : ∀ digit < 10, ':' ≠ digit.digitChar := by decide
    exact digits digit below same

theorem dot_notMem_toDigits (number : Nat) : '.' ∉ Nat.toDigits 10 number := by
  intro member
  obtain ⟨digit, below, same⟩ := mem_toDigits (by decide) member
  have digits : ∀ digit < 10, '.' ≠ digit.digitChar := by decide
  exact digits digit below same

theorem octets_injective {first second : BitVec 32} (same : octets first = octets second) :
    first = second := by
  simp only [octets, List.map_cons, List.map_nil, List.cons.injEq, BitVec.extractLsb'_toNat,
    Nat.shiftRight_eq_div_pow] at same
  obtain ⟨high, upper, lower, low, -⟩ := same
  have firstBound := first.isLt
  have secondBound := second.isLt
  apply BitVec.eq_of_toNat_eq
  omega

theorem dotted_injective {first second : BitVec 32} (same : dotted first = dotted second) :
    first = second := by
  have parts (bits : BitVec 32) :
      (dotted bits).splitOn '.' = (octets bits).map (Nat.toDigits 10) := by
    refine List.splitOn_intercalate '.' ?_ (by simp [octets])
    intro part listed
    obtain ⟨number, -, rfl⟩ := List.mem_map.mp listed
    exact dot_notMem_toDigits number
  have digits : (octets first).map (Nat.toDigits 10) = (octets second).map (Nat.toDigits 10) := by
    rw [← parts, ← parts, same]
  refine octets_injective (List.map_injective_iff.mpr ?_ digits)
  intro number other equal
  rw [← Nat.ofDigitChars_ten_toDigits (n := number), equal, Nat.ofDigitChars_ten_toDigits]

theorem mem_intercalate {separator : List Char} {char : Char} (member : char ∈ separator)
    (first second : List Char) (rest : List (List Char)) :
    char ∈ separator.intercalate (first :: second :: rest) := by
  rw [List.intercalate_cons_cons]
  exact List.mem_append_left _ (List.mem_append_right _ member)

theorem colon_mem_compressed (bits : BitVec 128) : ':' ∈ compressed bits := by
  unfold compressed
  dsimp only
  split
  · simp
  · exact mem_intercalate (List.mem_singleton_self ':') _ _ _

example : compressed 1 = "::1".toList := by decide

end IpText

namespace IpParser

/-- A reader takes the front of a text and leaves the rest. -/
abbrev Reader (α : Type) := List Char → Option (α × List Char)

def readChar (expected : Char) : Reader Unit
  | char :: rest => if char = expected then some ((), rest) else none
  | [] => none

def digitValue (radix : Nat) (char : Char) : Option Nat :=
  let value :=
    if '0' ≤ char ∧ char ≤ '9' then char.toNat - '0'.toNat
    else if 'a' ≤ char ∧ char ≤ 'f' then char.toNat - 'a'.toNat + 10
    else if 'A' ≤ char ∧ char ≤ 'F' then char.toNat - 'A'.toNat + 10
    else radix
  if value < radix then some value else none

/-- All digits at the front are read, and too many or too large ones fail. -/
def readNumber (radix maxDigits bound : Nat) (allowZeroPrefix : Bool) : Reader Nat := fun text =>
  let digits := text.takeWhile fun char => (digitValue radix char).isSome
  let number := digits.foldl (fun number char =>
    number * radix + (digitValue radix char).getD 0) 0
  if digits = [] ∨ maxDigits < digits.length ∨ bound ≤ number ∨
      (allowZeroPrefix = false ∧ digits.head? = some '0' ∧ 1 < digits.length) then none
  else some (number, text.drop digits.length)

/-- A separator stands before every item but the first. -/
def readSeparator {α : Type} (separator : Char) (index : Nat) (reader : Reader α) : Reader α :=
  fun text =>
    if index = 0 then reader text
    else (readChar separator text).bind fun read => reader read.2

def readOctets : Nat → Nat → Reader (List Nat)
  | _, 0 => fun text => some ([], text)
  | index, left + 1 => fun text =>
      (readSeparator '.' index (readNumber 10 3 256 false) text).bind fun octet =>
        (readOctets (index + 1) left octet.2).map fun others => (octet.1 :: others.1, others.2)

def readIpv4Addr : Reader (List Nat) := readOctets 0 4

/-- An embedded address of version 4 takes the place of two groups and ends them. -/
def readGroups : Nat → Nat → List Char → List Nat × Bool × List Char
  | _, 0, text => ([], false, text)
  | index, left + 1, text =>
      let embedded := if left = 0 then none else readSeparator ':' index readIpv4Addr text
      match embedded with
      | some ([one, two, three, four], rest) =>
          ([one * 256 + two, three * 256 + four], true, rest)
      | _ =>
          match readSeparator ':' index (readNumber 16 4 65536 true) text with
          | none => ([], false, text)
          | some (group, rest) =>
              let others := readGroups (index + 1) left rest
              (group :: others.1, others.2)

def ofGroups (groups : List Nat) : BitVec 128 :=
  BitVec.ofNat 128 (groups.foldl (fun number group => number * 65536 + group) 0)

/-- The groups that a double colon leaves out are zero, and there is at least one of them. -/
def readIpv6Addr : Reader (BitVec 128) := fun text =>
  let (head, headIpv4, rest) := readGroups 0 8 text
  if head.length = 8 then some (ofGroups head, rest)
  else if headIpv4 then none
  else
    (readChar ':' rest).bind fun first => (readChar ':' first.2).map fun second =>
      let tail := readGroups 0 (7 - head.length) second.2
      (ofGroups (head ++ List.replicate (8 - head.length - tail.1.length) 0 ++ tail.1), tail.2.2)

/-- The whole text has to be read. -/
def ipv6FromStr (text : List Char) : Option (BitVec 128) :=
  match readIpv6Addr text with
  | some (bits, []) => some bits
  | _ => none

example : ipv6FromStr "::ffff:10.0.0.7".toList = some 0xFFFF0A000007 := by decide +kernel

section Colons

theorem readChar_none {expected : Char} {text : List Char} (absent : expected ∉ text) :
    readChar expected text = none := by
  cases text with
  | nil => rfl
  | cons char rest =>
      have different : char ≠ expected := fun same =>
        absent (List.mem_cons.2 (Or.inl same.symm))
      exact if_neg different

theorem readChar_rest {expected : Char} {text : List Char} {read : Unit × List Char}
    (found : readChar expected text = some read) : read.2 ⊆ text := by
  cases text with
  | nil => exact nomatch found
  | cons char rest =>
      rw [readChar] at found
      split at found
      · rw [← Option.some.inj found]
        exact List.subset_cons_self char rest
      · exact nomatch found

theorem readNumber_rest {radix maxDigits bound number : Nat} {allowZeroPrefix : Bool}
    {text rest : List Char}
    (read : readNumber radix maxDigits bound allowZeroPrefix text = some (number, rest)) :
    rest ⊆ text := by
  unfold readNumber at read
  dsimp only at read
  split at read
  · cases read
  · cases read
    exact List.drop_subset _ _

/-- After the first group a text without colons has no other. -/
theorem readGroups_later {index : Nat} (later : 0 < index) (left : Nat) {text : List Char}
    (absent : ':' ∉ text) : readGroups index left text = ([], false, text) := by
  have stuck {α : Type} (reader : Reader α) : readSeparator ':' index reader text = none := by
    rw [readSeparator, if_neg (by omega), readChar_none absent]
    rfl
  cases left with
  | zero => rfl
  | succ left =>
      rw [readGroups, stuck, stuck]
      simp

theorem readOctets_rest {index left : Nat} {text rest : List Char} {octets : List Nat}
    (read : readOctets index left text = some (octets, rest)) : rest ⊆ text := by
  induction left generalizing index text octets with
  | zero =>
      cases read
      exact List.Subset.refl _
  | succ left ih =>
      obtain ⟨octet, first, others⟩ := Option.bind_eq_some_iff.1 read
      obtain ⟨tail, later, same⟩ := Option.map_eq_some_iff.1 others
      cases same
      refine List.Subset.trans (ih later) ?_
      unfold readSeparator at first
      split at first
      · exact readNumber_rest first
      · obtain ⟨dot, dotted, number⟩ := Option.bind_eq_some_iff.1 first
        refine List.Subset.trans (readNumber_rest number) ?_
        exact readChar_rest dotted

/-- Without colons at most two groups are read, and the rest has no colons either. -/
theorem readGroups_first (left : Nat) {text : List Char} (absent : ':' ∉ text) :
    (readGroups 0 left text).1.length ≤ 2 ∧ ':' ∉ (readGroups 0 left text).2.2 := by
  cases left with
  | zero => exact ⟨Nat.zero_le _, absent⟩
  | succ left =>
      rw [readGroups]
      dsimp only
      split
      · next one two three four rest read =>
          refine ⟨Nat.le_refl 2, fun colon => absent ?_⟩
          split at read
          · cases read
          · exact readOctets_rest read colon
      · split
        · exact ⟨Nat.zero_le _, absent⟩
        · next group rest read =>
            have clean : ':' ∉ rest := fun colon => absent (readNumber_rest read colon)
            rw [readGroups_later Nat.one_pos left clean]
            exact ⟨by simp, clean⟩

theorem ipv6FromStr_colon {text : List Char} {bits : BitVec 128}
    (read : ipv6FromStr text = some bits) : ':' ∈ text := by
  by_contra absent
  obtain ⟨few, clean⟩ := readGroups_first 8 absent
  have unread : readIpv6Addr text = none := by
    unfold readIpv6Addr
    dsimp only
    rw [if_neg (by omega)]
    split
    · rfl
    · rw [readChar_none clean]
      rfl
  rw [ipv6FromStr, unread] at read
  cases read

end Colons

end IpParser
