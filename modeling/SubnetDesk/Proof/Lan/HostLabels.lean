import Mathlib
import SubnetDesk.Construction.Lan.DeviceName

namespace SubnetDesk.Lan
open AsciiCase

open Trimming (Trimmed)

def isLabelChar (character : Char) : Bool := character.isAlphanum || character == '-'

/-- The characters that the loop pushes. -/
def isLowerLabelChar (character : Char) : Bool :=
  character.isLower || character.isDigit || character == '-'

def NotBothHyphens (first second : Char) : Prop := ¬ (first = '-' ∧ second = '-')

instance (first second : Char) : Decidable (NotBothHyphens first second) :=
  inferInstanceAs (Decidable (¬ _))

/-- A label of the domain name system whose words are joined by single hyphens. -/
structure DnsLabel (label : Text) : Prop where
  nonempty : 0 < (Utf8.encode label).length
  short : (Utf8.encode label).length ≤ 63
  chars : ∀ character ∈ label, isLabelChar character = true
  noLeadingHyphen : label.head? ≠ some '-'
  noTrailingHyphen : label.getLast? ≠ some '-'
  noAdjacentHyphens : ¬ ['-', '-'] <:+: label

/-- A normalized byte is a letter of a label. -/
theorem normalizedByte_spec (lastWasHyphen : Bool) (byte : UInt8) (character : Char)
    (normalized : normalizedByte lastWasHyphen byte = some character) :
    isLowerLabelChar character = true ∧ (lastWasHyphen = true → character ≠ '-') := by
  have all : ∀ byte, (normalizedByte lastWasHyphen byte).all (fun character =>
      isLowerLabelChar character && (!lastWasHyphen || character != '-')) = true := by
    refine Utf8.forall_byte ?_
    cases lastWasHyphen <;> decide +kernel
  have own := all byte
  rw [normalized, Option.all_some, Bool.and_eq_true] at own
  refine ⟨own.1, fun hyphen => ?_⟩
  simpa [hyphen] using own.2

/-- What the loop has pushed so far. -/
structure Pushed (label : Text × Bool) : Prop where
  chars : ∀ character ∈ label.1, isLowerLabelChar character = true
  chain : List.IsChain NotBothHyphens label.1
  flag : label.2 = (label.1.getLast? == some '-')

/-- One byte keeps the shape of a label. -/
theorem pushed_step {label : Text × Bool} (pushed : Pushed label) (byte : UInt8) :
    Pushed (pushByte label byte) := by
  unfold pushByte
  split
  next character normalized =>
    obtain ⟨lower, noHyphen⟩ := normalizedByte_spec label.2 byte character normalized
    refine ⟨?_, ?_, by simp⟩
    · intro other member
      obtain earlier | rfl := List.mem_append.mp member |>.imp_right List.mem_singleton.mp
      · exact pushed.chars other earlier
      · exact lower
    · refine List.isChain_append.mpr ⟨pushed.chain, .singleton _, ?_⟩
      intro last isLast next isNext both
      cases isNext
      have hyphen : label.2 = true := by
        rw [pushed.flag, isLast, both.1]
        rfl
      exact noHyphen hyphen both.2
  next => exact pushed

/-- All bytes keep the shape of a label. -/
theorem pushed_run (bytes : List UInt8) : Pushed (bytes.foldl pushByte ([], false)) := by
  have run : ∀ label, Pushed label → Pushed (bytes.foldl pushByte label) := by
    induction bytes with
    | nil => exact fun _ pushed => pushed
    | cons byte bytes inductionHypothesis =>
        exact fun label pushed => inductionHypothesis _ (pushed_step pushed byte)
  exact run _ ⟨by simp, .nil, rfl⟩

/-- The base of a label before its length is bounded. -/
structure LabelBase (base : Text) : Prop where
  nonempty : base ≠ []
  chars : ∀ character ∈ base, isLowerLabelChar character = true
  chain : List.IsChain NotBothHyphens base
  trimmed : Trimmed isHyphen base

/-- The fallback is a base of a label. -/
theorem labelBase_fallback : LabelBase labelFallback where
  nonempty := by decide
  chars := List.all_iff_forall_prop.mp (by decide)
  chain := by decide
  trimmed := by decide

def trimmedBase (displayName : Text) : Text :=
  let trimmed := Trimming.trim isHyphen ((Utf8.encode displayName).foldl pushByte ([], false)).1
  if trimmed = [] then labelFallback else trimmed

/-- A trimmed base is one of a label. -/
theorem labelBase_trimmedBase (displayName : Text) : LabelBase (trimmedBase displayName) := by
  have pushed := pushed_run (Utf8.encode displayName)
  unfold trimmedBase
  dsimp only
  split
  · exact labelBase_fallback
  next nonempty =>
    exact {
      nonempty := nonempty
      chars := fun character member => pushed.chars character (Trimming.mem_of_mem_trim member)
      chain := pushed.chain.infix (Trimming.trim_isInfix _ _)
      trimmed := Trimming.trimmed_trim _ _ }

/-- The cut can expose a hyphen at the end, but it never empties the base. -/
theorem LabelBase.cut {base : Text} (labelBase : LabelBase base) {count : Nat}
    (positive : 0 < count) : LabelBase ((base.take count).rdropWhile isHyphen) := by
  have part : (base.take count).rdropWhile isHyphen <:+: base :=
    (List.rdropWhile_prefix isHyphen _).isInfix.trans (List.take_prefix count base).isInfix
  obtain ⟨first, rest, rfl⟩ := List.exists_cons_of_ne_nil labelBase.nonempty
  have inner := labelBase.trimmed.1 first rfl
  have head : ((first :: rest).take count).head? = some first := by
    rw [List.head?_take, if_neg positive.ne']
    rfl
  refine ⟨Trimming.rdropWhile_ne_nil head inner,
    fun character member => labelBase.chars character (part.subset member),
    labelBase.chain.infix part, fun entry isFirst => ?_,
    fun entry isLast => Trimming.getLast_rdropWhile entry isLast⟩
  rw [Trimming.rdropWhile_prefix_head entry isFirst] at head
  cases head
  exact inner

theorem utf8Size_of_ascii {character : Char} (ascii : character.toNat < 128) :
    character.utf8Size = 1 := by
  rw [Char.utf8Size_eq_one_iff, UInt32.le_iff_toNat_le]
  exact Nat.le_of_lt_succ ascii

/-- Plain text has a byte for each letter. -/
theorem length_encode {text : Text} (ascii : ∀ character ∈ text, character.toNat < 128) :
    (Utf8.encode text).length = text.length := by
  induction text with
  | nil => rfl
  | cons character text inductionHypothesis =>
      rw [Utf8.encode_cons, List.length_append, String.length_utf8EncodeChar,
        utf8Size_of_ascii (ascii character (by simp)),
        inductionHypothesis fun other member => ascii other (by simp [member]), List.length_cons]
      omega

/-- Plain text can be cut anywhere. -/
theorem bytePrefix_ascii {text : Text} (ascii : ∀ character ∈ text, character.toNat < 128)
    {count : Nat} (enough : count ≤ text.length) : bytePrefix count text = some (text.take count) := by
  induction text generalizing count with
  | nil =>
      obtain rfl : count = 0 := by simpa using enough
      rfl
  | cons character text inductionHypothesis =>
      cases count with
      | zero => rfl
      | succ count =>
          have size := utf8Size_of_ascii (ascii character (by simp))
          rw [bytePrefix, if_neg (by omega), size, if_pos (by omega), Nat.add_sub_cancel,
            inductionHypothesis (fun other member => ascii other (by simp [member]))
              (by simpa using enough)]
          rfl

theorem isLower_iff (character : Char) :
    character.isLower = true ↔ 97 ≤ character.toNat ∧ character.toNat ≤ 122 := by
  simp [Char.isLower, UInt32.le_iff_toNat_le]

theorem isUpper_iff (character : Char) :
    character.isUpper = true ↔ 65 ≤ character.toNat ∧ character.toNat ≤ 90 := by
  simp [Char.isUpper, UInt32.le_iff_toNat_le]

theorem isDigit_iff (character : Char) :
    character.isDigit = true ↔ 48 ≤ character.toNat ∧ character.toNat ≤ 57 := by
  simp [Char.isDigit, UInt32.le_iff_toNat_le]

theorem isAsciiHexdigit_alphanum {character : Char} (digit : isAsciiHexdigit character = true) :
    character.isAlphanum = true ∧ character.toNat < 128 := by
  simp only [isAsciiHexdigit, Bool.or_eq_true, Bool.and_eq_true, decide_eq_true_eq, isDigit_iff,
    Char.le_def, UInt32.le_iff_toNat_le] at digit
  simp only [Char.isAlphanum, Char.isAlpha, Bool.or_eq_true, isLower_iff, isUpper_iff, isDigit_iff]
  simp only [Char.reduceVal, UInt32.reduceToNat] at digit
  change (_ ∨ (97 ≤ character.toNat ∧ character.toNat ≤ 102)) ∨
    (65 ≤ character.toNat ∧ character.toNat ≤ 70) at digit
  omega

/-- A lower letter of a label stays lower. -/
theorem isLowerLabelChar_spec {character : Char} (lower : isLowerLabelChar character = true) :
    isLabelChar character = true ∧ character.toNat < 128 ∧ character.toLower = character := by
  simp only [isLowerLabelChar, Bool.or_eq_true, isLower_iff, isDigit_iff, beq_iff_eq] at lower
  have notUpper (upper : character.isUpper = true) : False := by
    rw [isUpper_iff] at upper
    obtain (letter | digit) | rfl := lower
    · omega
    · omega
    · exact absurd upper (by decide)
  refine ⟨?_, ?_, ?_⟩
  · simp only [isLabelChar, Char.isAlphanum, Char.isAlpha, Bool.or_eq_true, isLower_iff,
      isUpper_iff, isDigit_iff, beq_iff_eq]
    obtain (letter | digit) | hyphen := lower
    · exact .inl (.inl (.inr letter))
    · exact .inl (.inr digit)
    · exact .inr hyphen
  · obtain (letter | digit) | rfl := lower
    · omega
    · omega
    · decide
  · rw [Char.toLower, dif_neg]
    simpa [Char.isUpper] using notUpper

def poppedBase (displayName : Text) : Text :=
  ((trimmedBase displayName).take 54).rdropWhile isHyphen

/-- A shortened base is one of a label. -/
theorem labelBase_poppedBase (displayName : Text) : LabelBase (poppedBase displayName) :=
  (labelBase_trimmedBase displayName).cut (by decide)

/-- A shortened base has at most 54 letters. -/
theorem length_poppedBase (displayName : Text) : (poppedBase displayName).length ≤ 54 :=
  (List.rdropWhile_prefix _ _).length_le.trans (List.length_take_le _ _)

/-- A fingerprint has sixty-four digits. -/
theorem isFingerprint_spec {fingerprint : Text} (valid : isFingerprint fingerprint = true) :
    fingerprint.length = 64 ∧
      ∀ character ∈ fingerprint, character.isAlphanum = true ∧ character.toNat < 128 := by
  simp only [isFingerprint, Bool.and_eq_true, beq_iff_eq, List.all_eq_true] at valid
  exact ⟨valid.1, fun character member => isAsciiHexdigit_alphanum (valid.2 character member)⟩

/-- The fallback for an empty base is not reached after the cut. -/
theorem dnsHostLabel_eq (displayName : Text) {fingerprint : Text}
    (valid : isFingerprint fingerprint = true) :
    dnsHostLabel displayName fingerprint = poppedBase displayName ++ '-' :: fingerprint.take 8 := by
  obtain ⟨length, digits⟩ := isFingerprint_spec valid
  have suffix : bytePrefix 8 fingerprint = some (fingerprint.take 8) :=
    bytePrefix_ascii (fun character member => (digits character member).2) (by omega)
  have size : (Utf8.encode (fingerprint.take 8)).length = 8 := by
    rw [length_encode fun character member => (digits character (List.mem_of_mem_take member)).2,
      List.length_take, length]
    rfl
  have nonempty := (labelBase_poppedBase displayName).nonempty
  unfold poppedBase trimmedBase at nonempty ⊢
  dsimp only at nonempty ⊢
  rw [dnsHostLabel, suffix]
  dsimp only [Option.getD_some]
  rw [if_neg, size]
  rw [size]
  exact nonempty

theorem head_of_trimmed {base : Text} (trimmed : Trimmed isHyphen base) :
    base.head? ≠ some '-' ∧ base.getLast? ≠ some '-' :=
  ⟨fun first => absurd (trimmed.1 _ first) (by decide),
    fun last => absurd (trimmed.2 _ last) (by decide)⟩

/-- One hyphen in front makes no pair. -/
theorem isChain_hyphen_cons {suffix : Text} (noHyphen : '-' ∉ suffix) :
    List.IsChain NotBothHyphens ('-' :: suffix) := by
  refine List.isChain_cons.mpr ⟨fun next first both => ?_, ?_⟩
  · rw [both.2] at first
    exact noHyphen (List.mem_of_head? first)
  · induction suffix with
    | nil => exact .nil
    | cons character suffix inductionHypothesis =>
        obtain ⟨other, noHyphen⟩ := not_or.mp (mt List.mem_cons.mpr noHyphen)
        exact List.isChain_cons.mpr
          ⟨fun next _ both => other both.1.symm, inductionHypothesis noHyphen⟩

/-- A base and a suffix make a label. -/
theorem dnsLabel_append {base suffix : Text} (labelBase : LabelBase base) (short : base.length ≤ 54)
    (length : suffix.length = 8) (chars : ∀ character ∈ suffix, character.isAlphanum = true)
    (ascii : ∀ character ∈ suffix, character.toNat < 128) :
    DnsLabel (base ++ '-' :: suffix) := by
  have noHyphen : '-' ∉ suffix := fun member => absurd (chars _ member) (by decide)
  have size : (Utf8.encode (base ++ '-' :: suffix)).length = base.length + 9 := by
    rw [length_encode, List.length_append, List.length_cons, length]
    intro character member
    obtain inBase | rfl | inSuffix := by simpa using member
    · exact (isLowerLabelChar_spec (labelBase.chars character inBase)).2.1
    · decide
    · exact ascii character inSuffix
  obtain ⟨noLeading, noTrailing⟩ := head_of_trimmed labelBase.trimmed
  refine ⟨by omega, by omega, ?_, ?_, ?_, ?_⟩
  · intro character member
    obtain inBase | rfl | inSuffix := by simpa using member
    · exact (isLowerLabelChar_spec (labelBase.chars character inBase)).1
    · decide
    · rw [isLabelChar, chars character inSuffix, Bool.true_or]
  · rw [List.head?_append_of_ne_nil _ labelBase.nonempty]
    exact noLeading
  · intro last
    have nonempty : suffix ≠ [] := by
      rintro rfl
      cases length
    rw [List.append_cons, List.getLast?_append_of_ne_nil _ nonempty] at last
    exact noHyphen (List.mem_of_getLast? last)
  · intro adjacent
    have chain : List.IsChain NotBothHyphens (base ++ '-' :: suffix) := by
      refine List.isChain_append.mpr ⟨labelBase.chain, ?_, ?_⟩
      · exact isChain_hyphen_cons noHyphen
      · intro last isLast next isNext both
        rw [both.1] at isLast
        exact noTrailing isLast
    have pair := chain.infix adjacent
    rw [List.isChain_pair] at pair
    exact pair ⟨rfl, rfl⟩

/-- Every label is valid and ends in the first characters of the fingerprint. -/
theorem dnsHostLabel_spec (displayName fingerprint : Text)
    (valid : isFingerprint fingerprint = true) :
    DnsLabel (dnsHostLabel displayName fingerprint) ∧
      (toAsciiLowercase fingerprint = fingerprint →
        toAsciiLowercase (dnsHostLabel displayName fingerprint) =
          dnsHostLabel displayName fingerprint) ∧
      '-' :: fingerprint.take 8 <:+ dnsHostLabel displayName fingerprint := by
  obtain ⟨length, digits⟩ := isFingerprint_spec valid
  have labelBase := labelBase_poppedBase displayName
  rw [dnsHostLabel_eq displayName valid]
  refine ⟨?_, ?_, List.suffix_append _ _⟩
  · have inSuffix {character : Char} (member : character ∈ fingerprint.take 8) :=
      digits character (List.mem_of_mem_take member)
    exact dnsLabel_append labelBase (length_poppedBase displayName) (by simp [length])
      (fun character member => (inSuffix member).1) fun character member => (inSuffix member).2
  · intro lower
    rw [toAsciiLowercase, List.map_append, List.map_cons, List.map_take]
    change toAsciiLowercase (poppedBase displayName) ++ '-' :: (toAsciiLowercase fingerprint).take 8
      = _
    have same : toAsciiLowercase (poppedBase displayName) = poppedBase displayName :=
      (List.map_congr_left fun character member =>
        (isLowerLabelChar_spec (labelBase.chars character member)).2.2).trans (List.map_id' _)
    rw [same, lower]

theorem dnsHostLabel_spec_office :
    DnsLabel (dnsHostLabel "  Office PC!  ".toList (List.replicate 64 'a')) ∧
      dnsHostLabel "  Office PC!  ".toList (List.replicate 64 'a') = "office-pc-aaaaaaaa".toList :=
  ⟨(dnsHostLabel_spec _ _ (by decide)).1, by decide +kernel⟩

end SubnetDesk.Lan
