import SubnetDesk.Construction.SoftwareUpdate.Manifest
import SubnetDesk.Foundation.FilePath

namespace SubnetDesk.SoftwareUpdate

/-- A decimal number of a version. -/
structure Number (part : List Char) : Prop where
  nonempty : part ≠ []
  digits : ∀ char ∈ part, char.isDigit = true
  small : decimal part < 2 ^ 32

/-- A number, or one behind a plus sign. -/
def SignedNumber (part : List Char) : Prop :=
  ∃ digits, Number digits ∧ (part = digits ∨ part = '+' :: digits)

/-- Three numbers between dots, and perhaps one more behind a hyphen. -/
def VersionOf (number : List Char → Prop) (version : List Char) : Prop :=
  ∃ core, (∃ major minor patch, number major ∧ number minor ∧ number patch ∧
      core = major ++ '.' :: (minor ++ '.' :: patch)) ∧
    (version = core ∨ ∃ revision, number revision ∧ version = core ++ '-' :: revision)

/-- A number may carry a sign. -/
theorem isU32_iff {part : List Char} : isU32 part = true ↔ SignedNumber part := by
  have unsigned : ∀ digits : List Char, (!digits.isEmpty && digits.all Char.isDigit &&
      decide (decimal digits < 2 ^ 32)) = true ↔ Number digits := by
    intro digits
    simp only [Bool.and_eq_true, Bool.not_eq_true', List.isEmpty_eq_false_iff, List.all_eq_true,
      decide_eq_true_eq]
    exact ⟨fun both => ⟨both.1.1, both.1.2, both.2⟩,
      fun number => ⟨⟨number.nonempty, number.digits⟩, number.small⟩⟩
  unfold isU32
  dsimp only
  rw [unsigned]
  split
  next plus =>
    obtain ⟨rest, rfl⟩ : ∃ rest, part = '+' :: rest := by
      cases part with
      | nil => cases plus
      | cons first rest => exact ⟨rest, by rw [Option.some.inj plus]⟩
    refine ⟨fun number => ⟨rest, number, .inr rfl⟩, ?_⟩
    rintro ⟨digits, number, rfl | same⟩
    · exact absurd (number.digits '+' List.mem_cons_self) (by decide)
    · cases same
      exact number
  next noPlus =>
    refine ⟨fun number => ⟨part, number, .inl rfl⟩, ?_⟩
    rintro ⟨digits, number, rfl | rfl⟩
    · exact number
    · exact absurd rfl noPlus

theorem SignedNumber.ne_nil {part : List Char} (number : SignedNumber part) : part ≠ [] := by
  obtain ⟨digits, number, rfl | rfl⟩ := number
  · exact number.nonempty
  · exact List.cons_ne_nil _ _

/-- A number has digits and a sign. -/
theorem SignedNumber.chars {part : List Char} (number : SignedNumber part) :
    ∀ char ∈ part, char = '+' ∨ char.isDigit = true := by
  obtain ⟨digits, number, rfl | rfl⟩ := number
  · exact fun char member => .inr (number.digits char member)
  · intro char member
    exact (List.mem_cons.mp member).imp id (number.digits char)

/-- The parts of a text are the texts without the separator that it is made of. -/
theorem splitOn_eq_iff {separator : Char} {text : List Char} {parts : List (List Char)} :
    text.splitOn separator = parts ↔ text = [separator].intercalate parts ∧ parts ≠ [] ∧
      ∀ part ∈ parts, separator ∉ part := by
  constructor
  · rintro rfl
    exact ⟨(List.intercalate_splitOn separator).symm, List.splitOnP_ne_nil _ _,
      FileTree.splitOn_free separator text⟩
  · rintro ⟨rfl, some_, free⟩
    exact List.splitOn_intercalate separator free some_

theorem SignedNumber.free {part : List Char} (number : SignedNumber part) {separator : Char}
    (noPlus : separator ≠ '+') (noDigit : separator.isDigit = false) : separator ∉ part := by
  intro member
  obtain plus | digit := number.chars separator member
  · exact noPlus plus
  · rw [noDigit] at digit
    cases digit

/-- The core is three numbers. -/
theorem coreSupported_iff {core : List Char} : coreSupported core = true ↔
    ∃ major minor patch, SignedNumber major ∧ SignedNumber minor ∧ SignedNumber patch ∧
      core = major ++ '.' :: (minor ++ '.' :: patch) := by
  unfold coreSupported
  dsimp only
  rw [Bool.and_eq_true, beq_iff_eq, List.all_eq_true]
  constructor
  · rintro ⟨three, numbers⟩
    obtain ⟨major, minor, patch, split⟩ := List.length_eq_three.mp three
    obtain ⟨joined, -, -⟩ := splitOn_eq_iff.mp split
    have number : ∀ part ∈ core.splitOn '.', SignedNumber part := fun part member =>
      isU32_iff.mp (Bool.and_eq_true_iff.mp (numbers part member)).2
    rw [split] at number
    refine ⟨major, minor, patch, number major (by simp), number minor (by simp),
      number patch (by simp), ?_⟩
    rw [joined]
    simp [List.intercalate_cons_cons]
  · rintro ⟨major, minor, patch, first, second, third, rfl⟩
    have split : (major ++ '.' :: (minor ++ '.' :: patch)).splitOn '.' = [major, minor, patch] := by
      refine splitOn_eq_iff.mpr ⟨by simp [List.intercalate_cons_cons], by simp, ?_⟩
      simp only [List.forall_mem_cons]
      exact ⟨first.free (by decide) (by decide), second.free (by decide) (by decide),
        third.free (by decide) (by decide), fun _ none_ => nomatch none_⟩
    rw [split]
    refine ⟨rfl, fun part member => ?_⟩
    have number : SignedNumber part := by
      simp only [List.mem_cons, List.not_mem_nil, or_false] at member
      obtain rfl | rfl | rfl := member
      · exact first
      · exact second
      · exact third
    rw [Bool.and_eq_true, isU32_iff, Bool.not_eq_true', List.isEmpty_eq_false_iff]
    exact ⟨number.ne_nil, number⟩

theorem core_free {core : List Char} (supported : coreSupported core = true) : '-' ∉ core := by
  obtain ⟨major, minor, patch, first, second, third, rfl⟩ := coreSupported_iff.mp supported
  have clean : ∀ part, SignedNumber part → '-' ∉ part := fun _ number =>
    number.free (by decide) (by decide)
  simp only [List.mem_append, List.mem_cons, not_or]
  exact ⟨clean major first, by decide, clean minor second, by decide, clean patch third⟩

/-- A supported version may carry signs. -/
theorem isSupportedVersion_iff {version : String} :
    isSupportedVersion version = true ↔ VersionOf SignedNumber version.toList := by
  have revised : ∀ revision : List Char, (!revision.isEmpty && isU32 revision) = true ↔
      SignedNumber revision := by
    intro revision
    rw [Bool.and_eq_true, isU32_iff, Bool.not_eq_true', List.isEmpty_eq_false_iff]
    exact ⟨And.right, fun number => ⟨number.ne_nil, number⟩⟩
  constructor
  · intro supported
    unfold isSupportedVersion at supported
    split at supported
    next core split =>
      obtain ⟨joined, -, -⟩ := splitOn_eq_iff.mp split
      refine ⟨core, coreSupported_iff.mp supported, .inl ?_⟩
      rw [joined, List.intercalate_singleton]
    next core revision split =>
      obtain ⟨joined, -, -⟩ := splitOn_eq_iff.mp split
      rw [Bool.and_assoc, Bool.and_eq_true] at supported
      refine ⟨core, coreSupported_iff.mp supported.1,
        .inr ⟨revision, (revised revision).mp supported.2, ?_⟩⟩
      rw [joined]
      simp [List.intercalate_cons_cons]
    next => cases supported
  · rintro ⟨core, numbers, whole⟩
    have supported := coreSupported_iff.mpr numbers
    have clean := core_free supported
    unfold isSupportedVersion
    obtain same | ⟨revision, number, same⟩ := whole
    · have split : version.toList.splitOn '-' = [core] := by
        refine splitOn_eq_iff.mpr ⟨by rw [same, List.intercalate_singleton], by simp, ?_⟩
        simpa using clean
      rw [split]
      exact supported
    · have split : version.toList.splitOn '-' = [core, revision] := by
        refine splitOn_eq_iff.mpr ⟨?_, by simp, ?_⟩
        · rw [same]
          simp [List.intercalate_cons_cons]
        · simp only [List.forall_mem_cons]
          exact ⟨clean, number.free (by decide) (by decide), fun _ none_ => nomatch none_⟩
      rw [split]
      dsimp only
      rw [Bool.and_assoc, supported, (revised revision).mpr number]
      rfl

/-- A plain number has no sign. -/
theorem number_iff {part : List Char} : Number part ↔ SignedNumber part ∧ '+' ∉ part := by
  constructor
  · intro number
    refine ⟨⟨part, number, .inl rfl⟩, fun member => ?_⟩
    exact absurd (number.digits '+' member) (by decide)
  · rintro ⟨⟨digits, number, rfl | rfl⟩, free⟩
    · exact number
    · exact absurd List.mem_cons_self free

/-- Without a plus sign the signed numbers of a version are numbers. -/
theorem versionOf_number_iff {version : List Char} :
    VersionOf Number version ↔ VersionOf SignedNumber version ∧ '+' ∉ version := by
  constructor
  · rintro ⟨core, ⟨major, minor, patch, first, second, third, rfl⟩, whole⟩
    obtain ⟨first, firstFree⟩ := number_iff.mp first
    obtain ⟨second, secondFree⟩ := number_iff.mp second
    obtain ⟨third, thirdFree⟩ := number_iff.mp third
    have coreFree : '+' ∉ major ++ '.' :: (minor ++ '.' :: patch) := by
      simp only [List.mem_append, List.mem_cons, not_or]
      exact ⟨firstFree, by decide, secondFree, by decide, thirdFree⟩
    obtain rfl | ⟨revision, fourth, rfl⟩ := whole
    · exact ⟨⟨_, ⟨_, _, _, first, second, third, rfl⟩, .inl rfl⟩, coreFree⟩
    · obtain ⟨fourth, fourthFree⟩ := number_iff.mp fourth
      refine ⟨⟨_, ⟨_, _, _, first, second, third, rfl⟩, .inr ⟨_, fourth, rfl⟩⟩, ?_⟩
      rw [List.mem_append, List.mem_cons, not_or, not_or]
      exact ⟨coreFree, by decide, fourthFree⟩
  · rintro ⟨⟨core, ⟨major, minor, patch, first, second, third, rfl⟩, whole⟩, free⟩
    have inCore : '+' ∉ major ++ '.' :: (minor ++ '.' :: patch) → ∃ major' minor' patch',
        Number major' ∧ Number minor' ∧ Number patch' ∧
          major ++ '.' :: (minor ++ '.' :: patch) =
            major' ++ '.' :: (minor' ++ '.' :: patch') := by
      intro coreFree
      simp only [List.mem_append, List.mem_cons, not_or] at coreFree
      obtain ⟨firstFree, -, secondFree, -, thirdFree⟩ := coreFree
      exact ⟨major, minor, patch, number_iff.mpr ⟨first, firstFree⟩,
        number_iff.mpr ⟨second, secondFree⟩, number_iff.mpr ⟨third, thirdFree⟩, rfl⟩
    obtain rfl | ⟨revision, fourth, rfl⟩ := whole
    · exact ⟨_, inCore free, .inl rfl⟩
    · rw [List.mem_append, List.mem_cons, not_or, not_or] at free
      obtain ⟨coreFree, -, fourthFree⟩ := free
      exact ⟨_, inCore coreFree, .inr ⟨revision, number_iff.mpr ⟨fourth, fourthFree⟩, rfl⟩⟩

/-- The versions that are accepted are the decimal ones and those with plus signs. -/
theorem supported_version_iff (version : String) :
    (isSupportedVersion version = true ↔ VersionOf Number version.toList) ↔
      ¬ (VersionOf SignedNumber version.toList ∧ '+' ∈ version.toList) := by
  rw [isSupportedVersion_iff, versionOf_number_iff]
  tauto

/-- A number with a plus sign is accepted. -/
theorem plus_sign_accepted :
    isSupportedVersion "1.+3.0" = true ∧ ¬ VersionOf Number "1.+3.0".toList := by
  refine ⟨by decide, fun version => ?_⟩
  exact (versionOf_number_iff.mp version).2 (by decide)

end SubnetDesk.SoftwareUpdate
