import SubnetDesk.Construction.Clipboard.FileType
import SubnetDesk.Foundation.FilePath

namespace SubnetDesk.Clipboard.FileList

open FileTree

variable {raw : RawDescriptor} {raws : List RawDescriptor} {name : Path} {connId : Int}

/-- The fields of the descriptor at the start of a byte string. -/
def rawAt (bytes : List UInt8) : RawDescriptor where
  flags := Bytes.ofLe (bytes.take 4)
  attributes := Bytes.ofLe ((bytes.drop 36).take 4)
  perm := Bytes.ofLe ((bytes.drop 52).take 4) % 2 ^ 16
  lastWriteTime := Bytes.ofLe ((bytes.drop 56).take 8)
  fileSizeHigh := Bytes.ofLe ((bytes.drop 64).take 4)
  fileSizeLow := Bytes.ofLe ((bytes.drop 68).take 4)
  block := (bytes.drop 72).take fileNameFieldSize

def rawsOf : Nat → List UInt8 → List RawDescriptor
  | 0, _ => []
  | count + 1, bytes => rawAt bytes :: rawsOf count (bytes.drop fileDescriptorSize)

def describeAll (connId : Int) : List RawDescriptor → Except Failure (List FileDescription)
  | [] => .ok []
  | raw :: rest =>
      match raw.describe connId with
      | .error failure => .error failure
      | .ok description => (describeAll connId rest).map (description :: ·)

theorem advance_of_le {count : Nat} {bytes : List UInt8} (enough : count ≤ bytes.length) :
    advance count bytes = .ok (bytes.take count, bytes.drop count) := by
  rw [advance, Bytes.split_of_le enough]

theorem getLe_of_le {width : Nat} {bytes : List UInt8} (enough : width ≤ bytes.length) :
    getLe width bytes = .ok (Bytes.ofLe (bytes.take width), bytes.drop width) := by
  rw [getLe, advance_of_le enough]
  rfl

/-- A descriptor is read from its own bytes. -/
theorem readDescriptor_eq {bytes : List UInt8} (enough : fileDescriptorSize ≤ bytes.length) :
    readDescriptor bytes = .ok (rawAt bytes, bytes.drop fileDescriptorSize) := by
  unfold fileDescriptorSize at enough
  have rest (count : Nat) : (bytes.drop count).length = bytes.length - count := List.length_drop
  unfold readDescriptor
  rw [getLe_of_le (by omega)]
  simp only [bind, Except.bind]
  rw [advance_of_le (by rw [rest]; omega)]
  simp only [List.drop_drop]
  rw [getLe_of_le (by rw [rest]; omega)]
  simp only [List.drop_drop]
  rw [advance_of_le (by rw [rest]; omega)]
  simp only [List.drop_drop]
  rw [getLe_of_le (by rw [rest]; omega)]
  simp only [List.drop_drop]
  rw [getLe_of_le (by rw [rest]; omega)]
  simp only [List.drop_drop]
  rw [getLe_of_le (by rw [rest]; omega)]
  simp only [List.drop_drop]
  rw [getLe_of_le (by rw [rest]; omega)]
  simp only [List.drop_drop]
  rw [advance_of_le (by rw [rest]; unfold fileNameFieldSize fileNameCodeUnits; omega)]
  simp only [List.drop_drop]
  rfl

/-- A descriptor is read from its bytes. -/
theorem parseFileDescriptor_eq {bytes : List UInt8}
    (enough : fileDescriptorSize ≤ bytes.length) :
    parseFileDescriptor bytes connId =
      ((rawAt bytes).describe connId).map fun description =>
        (description, bytes.drop fileDescriptorSize) := by
  rw [parseFileDescriptor, readDescriptor_eq enough]
  rfl

/-- The descriptors are read one by one. -/
theorem parseEach_eq {count : Nat} {bytes : List UInt8}
    (enough : fileDescriptorSize * count ≤ bytes.length) :
    parseEach connId count bytes = describeAll connId (rawsOf count bytes) := by
  induction count generalizing bytes with
  | zero => rfl
  | succ count ih =>
      have first : fileDescriptorSize ≤ bytes.length := by
        unfold fileDescriptorSize at *
        omega
      have rest : fileDescriptorSize * count ≤ (bytes.drop fileDescriptorSize).length := by
        rw [List.length_drop]
        unfold fileDescriptorSize at *
        omega
      rw [parseEach, parseFileDescriptor_eq first, rawsOf, describeAll]
      cases (rawAt bytes).describe connId with
      | error failure => rfl
      | ok description =>
          simp only [Except.map, bind, Except.bind]
          rw [ih rest]
          cases describeAll connId (rawsOf count (bytes.drop fileDescriptorSize)) with
          | error failure => rfl
          | ok descriptions => rfl

/-- The count that a list announces. -/
def announced (pdu : List UInt8) : Nat := Bytes.ofLe (pdu.take 4)

def WellSized (pdu : List UInt8) : Prop :=
  pdu.length = 4 + fileDescriptorSize * announced pdu

instance (pdu : List UInt8) : Decidable (WellSized pdu) := inferInstanceAs (Decidable (_ = _))

/-- A list is parsed where its length is the one of its count. -/
theorem parseFileDescriptors_eq (pdu : List UInt8) (connId : Int) :
    parseFileDescriptors pdu connId =
      if WellSized pdu then describeAll connId (rawsOf (announced pdu) (pdu.drop 4))
      else .error (.rejected .invalidRequest) := by
  have sized_iff : WellSized pdu ↔ pdu.length = 4 + fileDescriptorSize * announced pdu := Iff.rfl
  unfold parseFileDescriptors
  by_cases header : pdu.length < 4
  · rw [if_pos header, if_neg (by rw [sized_iff]; omega)]
  · rw [if_neg header, getLe_of_le (by omega)]
    simp only [bind, Except.bind, List.length_drop]
    change (if pdu.length - 4 = 0 ∧ announced pdu = 0 then _ else
      if pdu.length - 4 ≠ fileDescriptorSize * announced pdu then _ else _) = _
    by_cases sized : WellSized pdu
    · have length := sized_iff.mp sized
      rw [if_pos sized]
      by_cases empty : pdu.length - 4 = 0 ∧ announced pdu = 0
      · rw [if_pos empty, empty.2]
        rfl
      · rw [if_neg empty, if_neg (by omega)]
        exact parseEach_eq (by rw [List.length_drop]; unfold announced at length; omega)
    · have some_ : ¬ (pdu.length - 4 = 0 ∧ announced pdu = 0) := by
        rintro ⟨none_, zero⟩
        rw [sized_iff, zero] at sized
        omega
      have different : pdu.length - 4 ≠ fileDescriptorSize * announced pdu := by
        rw [sized_iff] at sized
        omega
      rw [if_neg sized, if_neg some_, if_pos different]

/-- What a descriptor needs to reach its time. -/
def RawDescriptor.Decodable (raw : RawDescriptor) : Prop :=
  (∃ text, raw.text = .ok text) ∧ raw.flags &&& flagsFdAttributes ≠ 0

/-- The time of a descriptor, in nanoseconds after the epoch, fits into its word. -/
def RawDescriptor.TimeFits (raw : RawDescriptor) : Prop :=
  raw.flags &&& flagsFdLastWrite ≠ 0 ∧ ldapEpochDelta ≤ raw.lastWriteTime →
    (raw.lastWriteTime - ldapEpochDelta) * 100 < 2 ^ 64

def RawDescriptor.Accepted (raw : RawDescriptor) : Prop :=
  raw.Decodable ∧ ∃ text, raw.text = .ok text ∧ validateFileName (replaceBackslash text) = .ok ()

/-- Up to the first descriptor that is rejected, every time that is reached fits. -/
def TimesFit : List RawDescriptor → Prop
  | [] => True
  | raw :: rest => (raw.Decodable → raw.TimeFits) ∧ (raw.Accepted → TimesFit rest)

/-- A time fits or overflows. -/
theorem RawDescriptor.lastModified_cases (raw : RawDescriptor) :
    (raw.TimeFits ∧ ∃ time, raw.lastModified = .ok time) ∨
      ¬ raw.TimeFits ∧ raw.lastModified = .error .overflow := by
  unfold TimeFits lastModified
  by_cases written : raw.flags &&& flagsFdLastWrite ≠ 0 ∧ ldapEpochDelta ≤ raw.lastWriteTime
  · rw [if_pos written]
    dsimp only
    by_cases fits : (raw.lastWriteTime - ldapEpochDelta) * 100 < 2 ^ 64
    · rw [if_pos fits]
      exact .inl ⟨fun _ => fits, _, rfl⟩
    · rw [if_neg fits]
      exact .inr ⟨fun all => fits (all written), rfl⟩
  · rw [if_neg written]
    exact .inl ⟨fun both => absurd both written, 0, rfl⟩

/-- What a descriptor gives: a rejection, an overflow of its time, or a description. -/
inductive Described (connId : Int) (raw : RawDescriptor) : Except Failure FileDescription → Prop where
  | rejected (error : CliprdrError) (undecoded : ¬ raw.Accepted)
      (unreached : raw.Decodable → raw.TimeFits) : Described connId raw (.error (.rejected error))
  | overflows (decodable : raw.Decodable) (late : ¬ raw.TimeFits) :
      Described connId raw (.error .overflow)
  | described (description : FileDescription) (accepted : raw.Accepted) (fits : raw.TimeFits)
      (text : Path) (decoded : raw.text = .ok text)
      (named : description.name = replaceBackslash text)
      (valid : validateFileName description.name = .ok ()) :
      Described connId raw (.ok description)

/-- A descriptor is described by its fields. -/
theorem RawDescriptor.describe_spec (raw : RawDescriptor) (connId : Int) :
    Described connId raw (raw.describe connId) := by
  unfold describe
  cases decoded : raw.text with
  | error error =>
      have undecoded : ¬ raw.Decodable := by
        rintro ⟨⟨text, other⟩, -⟩
        cases decoded.symm.trans other
      exact .rejected error (fun accepted => undecoded accepted.1) fun reached =>
        absurd reached undecoded
  | ok text =>
      dsimp only
      by_cases attributes : raw.flags &&& flagsFdAttributes = 0
      · rw [if_pos attributes]
        exact .rejected _ (fun accepted => accepted.1.2 attributes) fun reached =>
          absurd attributes reached.2
      · rw [if_neg attributes]
        have decodable : raw.Decodable := ⟨⟨text, decoded⟩, attributes⟩
        cases raw.lastModified_cases with
        | inr late =>
            rw [late.2]
            exact .overflows decodable late.1
        | inl early =>
            obtain ⟨fits, time, equal⟩ := early
            rw [equal]
            dsimp only
            cases valid : validateFileName (replaceBackslash text) with
            | error error =>
                refine .rejected error ?_ fun _ => fits
                rintro ⟨-, other, same, ok⟩
                cases decoded.symm.trans same
                cases valid.symm.trans ok
            | ok done =>
                exact .described _ ⟨decodable, text, decoded, valid⟩ fits text decoded rfl valid

/-- A list overflows where a time that is reached does not fit. -/
theorem describeAll_overflow_iff (raws : List RawDescriptor) :
    describeAll connId raws = .error .overflow ↔ ¬ TimesFit raws := by
  induction raws with
  | nil => simp [describeAll, TimesFit]
  | cons raw rest ih =>
      rw [describeAll, TimesFit]
      have spec := raw.describe_spec connId
      cases result : raw.describe connId with
      | error failure =>
          rw [result] at spec
          cases spec with
          | rejected error undecoded unreached =>
              refine iff_of_false (by simp) ?_
              exact not_not.mpr ⟨unreached, fun accepted => absurd accepted undecoded⟩
          | overflows decodable late =>
              exact iff_of_true rfl fun both => late (both.1 decodable)
      | ok description =>
          rw [result] at spec
          cases spec with
          | described _ accepted fits text decoded named valid =>
              dsimp only
              have tail : ((describeAll connId rest).map (description :: ·) = .error .overflow) ↔
                  describeAll connId rest = .error .overflow := by
                cases describeAll connId rest with
                | error failure => simp [Except.map]
                | ok descriptions => simp [Except.map]
              rw [tail, ih]
              simp [accepted, fits]

/-- Enough bytes are never out of bounds. -/
theorem describeAll_bounded (raws : List RawDescriptor) :
    describeAll connId raws ≠ .error .outOfBounds := by
  induction raws with
  | nil => nofun
  | cons raw rest ih =>
      rw [describeAll]
      have spec := raw.describe_spec connId
      cases result : raw.describe connId with
      | error failure =>
          rw [result] at spec
          cases spec with
          | rejected error undecoded unreached => nofun
          | overflows decodable late => nofun
      | ok description =>
          dsimp only
          cases tail : describeAll connId rest with
          | error failure =>
              rw [tail] at ih
              exact ih
          | ok descriptions => nofun

/-- The descriptions of a list that is accepted are those of its descriptors. -/
theorem describeAll_ok {descriptions : List FileDescription}
    (ok : describeAll connId raws = .ok descriptions) :
    List.Forall₂ (fun raw description => raw.describe connId = .ok description) raws
      descriptions := by
  induction raws generalizing descriptions with
  | nil =>
      cases ok
      exact .nil
  | cons raw rest ih =>
      rw [describeAll] at ok
      cases result : raw.describe connId with
      | error failure =>
          rw [result] at ok
          cases ok
      | ok description =>
          rw [result] at ok
          dsimp only at ok
          cases tail : describeAll connId rest with
          | error failure =>
              rw [tail] at ok
              cases ok
          | ok later =>
              rw [tail] at ok
              cases ok
              exact .cons result (ih tail)

/-- Accepted descriptors are described. -/
theorem describeAll_accepts (accepted : ∀ raw ∈ raws, raw.Accepted) (fits : TimesFit raws) :
    ∃ descriptions, describeAll connId raws = .ok descriptions := by
  induction raws with
  | nil => exact ⟨[], rfl⟩
  | cons raw rest ih =>
      rw [List.forall_mem_cons] at accepted
      obtain ⟨descriptions, tail⟩ := ih accepted.2 (fits.2 accepted.1)
      rw [describeAll]
      have spec := raw.describe_spec connId
      cases result : raw.describe connId with
      | error failure =>
          rw [result] at spec
          cases spec with
          | rejected error undecoded unreached => exact absurd accepted.1 undecoded
          | overflows decodable late => exact absurd (fits.1 decodable) late
      | ok description =>
          rw [tail]
          exact ⟨description :: descriptions, rfl⟩

/-- A name starts with a drive letter and a colon. -/
def startsWithDrive : Path → Bool
  | letter :: ':' :: _ => letter.isAlpha
  | _ => false

/-- A name is a normalized relative path, which stays below every directory that it is joined to. -/
structure Inside (name : Path) : Prop where
  nonempty : name ≠ []
  relative : name.head? ≠ some '/'
  visible : Char.ofNat 0 ∉ name
  unixSeparators : '\\' ∉ name
  components : ∀ component ∈ name.splitOn '/',
    component ≠ [] ∧ component ≠ dot ∧ component ≠ dotdot
  below : ∀ mount, parts (FileTransfer.push mount name) = parts mount ++ name.splitOn '/'

/-- A valid name stays inside. -/
theorem validateFileName_ok (valid : validateFileName name = .ok ()) :
    (∀ component ∈ name.splitOn '/',
      component ≠ [] ∧ component ≠ dot ∧ component ≠ dotdot) ∧
      name.head? ≠ some '/' ∧ Char.ofNat 0 ∉ name := by
  unfold validateFileName at valid
  split at valid
  next => cases valid
  next normal =>
    rw [not_or] at normal
    split at valid
    next => cases valid
    next done traversal =>
      unfold FileTransfer.validateFileNameNoTraversal at traversal
      split at traversal
      next => cases traversal
      next visible =>
        split at traversal
        next => cases traversal
        next inside =>
          split at traversal
          next => cases traversal
          next relative =>
            refine ⟨fun component member => ?_, relative, fun null => ?_⟩
            · have plain : component ≠ [] ∧ component ≠ dot := by
                have all := normal.2
                simp only [List.any_eq_true, decide_eq_true_eq, not_exists, not_and,
                  not_or] at all
                exact all component member
              refine ⟨plain.1, plain.2, fun up => inside ?_⟩
              rw [List.any_eq_true]
              exact ⟨component, List.mem_filter.mpr ⟨member, by simpa using plain.1⟩,
                by simpa using up⟩
            · apply visible
              rw [List.any_eq_true]
              exact ⟨_, null, by simp⟩

theorem backslash_not_mem (text : Path) : '\\' ∉ replaceBackslash text := by
  intro member
  obtain ⟨letter, -, equal⟩ := List.mem_map.mp member
  split at equal
  next => exact absurd equal (by decide)
  next different => exact different equal

theorem splitOn_ne_nil (path : Path) : path.splitOn '/' ≠ [] := List.splitOnP_ne_nil _ _

/-- A relative name of plain components extends the path that it is joined to. -/
theorem parts_push (relative : name.head? ≠ some '/')
    (plain : ∀ component ∈ name.splitOn '/', component ≠ []) (mount : Path) :
    parts (FileTransfer.push mount name) = parts mount ++ name.splitOn '/' := by
  have whole : parts name = name.splitOn '/' := by
    unfold parts
    rw [List.filter_eq_self]
    intro component member
    simpa using plain component member
  unfold FileTransfer.push
  rw [if_neg relative]
  split
  next ended =>
    cases ended with
    | inl empty => rw [empty, List.nil_append, parts_nil, List.nil_append, whole]
    | inr slash =>
        obtain ⟨front, rfl⟩ : ∃ front, mount = front ++ ['/'] :=
          ⟨mount.dropLast, (List.dropLast_append_getLast? _ slash).symm⟩
        rw [List.append_assoc, List.singleton_append, parts_slash, parts_slash, parts_nil,
          List.append_nil, whole]
  next => rw [parts_slash, whole]

/-- The name of a description is inside. -/
theorem describe_inside {description : FileDescription}
    (described : raw.describe connId = .ok description) : Inside description.name := by
  have spec := raw.describe_spec connId
  rw [described] at spec
  cases spec with
  | described _ accepted fits text decoded named valid =>
      obtain ⟨components, relative, visible⟩ := validateFileName_ok valid
      have nonempty : description.name ≠ [] := by
        intro empty
        rw [empty] at components
        exact (components [] (by simp)).1 rfl
      refine ⟨nonempty, relative, visible, ?_, components, ?_⟩
      · rw [named]
        exact backslash_not_mem text
      · exact parts_push relative fun component member => (components component member).1

/-- A drive stays one. -/
theorem startsWithDrive_replace (text : Path) :
    startsWithDrive (replaceBackslash text) = startsWithDrive text := by
  match text with
  | [] => rfl
  | [letter] => rfl
  | letter :: second :: rest =>
      have colon : (if second = '\\' then '/' else second) = ':' ↔ second = ':' := by
        split
        next back => simp [back]
        next => rfl
      by_cases same : second = ':'
      · subst same
        simp only [replaceBackslash, List.map_cons]
        by_cases back : letter = '\\'
        · subst back
          rfl
        · rw [if_neg back]
          rfl
      · have other := mt colon.mp same
        simp only [replaceBackslash, List.map_cons]
        unfold startsWithDrive
        split
        next found => exact absurd (List.cons.inj (List.cons.inj found).2).1 other
        next =>
          split
          next found => exact absurd (List.cons.inj (List.cons.inj found).2).1 same
          next => rfl

def RawDescriptor.NamesDrive (raw : RawDescriptor) : Prop :=
  ∃ text, raw.text = .ok text ∧ startsWithDrive text = true

/-- A name starts with a drive as it was sent. -/
theorem describe_drive {description : FileDescription}
    (described : raw.describe connId = .ok description) :
    startsWithDrive description.name = true ↔ raw.NamesDrive := by
  have spec := raw.describe_spec connId
  rw [described] at spec
  cases spec with
  | described _ accepted fits text decoded named valid =>
      rw [named, startsWithDrive_replace]
      constructor
      · exact fun drive => ⟨text, decoded, drive⟩
      · rintro ⟨other, same, drive⟩
        cases decoded.symm.trans same
        exact drive

/-- A described file was accepted. -/
theorem describe_accepted {description : FileDescription}
    (described : raw.describe connId = .ok description) : raw.Accepted := by
  have spec := raw.describe_spec connId
  rw [described] at spec
  cases spec with
  | described _ accepted => exact accepted

/-- A list is rejected, or it has the length of its count and gives so many descriptions, whose names
are inside and start with no drive letter. -/
def ParsesSafely (pdu : List UInt8) (connId : Int) : Prop :=
  match parseFileDescriptors pdu connId with
  | .error (.rejected _) => True
  | .error .outOfBounds => False
  | .error .overflow => False
  | .ok descriptions =>
      pdu.length = 4 + fileDescriptorSize * announced pdu ∧
        descriptions.length = announced pdu ∧
        ∀ description ∈ descriptions,
          Inside description.name ∧ startsWithDrive description.name = false

/-- No time that is reached leaves its word, and a list of accepted descriptors names no drive. -/
def SafeList (pdu : List UInt8) : Prop :=
  WellSized pdu →
    TimesFit (rawsOf (announced pdu) (pdu.drop 4)) ∧
      ((∀ raw ∈ rawsOf (announced pdu) (pdu.drop 4), raw.Accepted) →
        ∀ raw ∈ rawsOf (announced pdu) (pdu.drop 4), ¬ raw.NamesDrive)

theorem length_rawsOf (count : Nat) (bytes : List UInt8) : (rawsOf count bytes).length = count := by
  induction count generalizing bytes with
  | zero => rfl
  | succ count ih => rw [rawsOf, List.length_cons, ih]

theorem forall₂_forall_iff {first : List RawDescriptor} {second : List FileDescription}
    {related : RawDescriptor → FileDescription → Prop} (pairs : List.Forall₂ related first second)
    (good : RawDescriptor → Prop) (fine : FileDescription → Prop)
    (agree : ∀ raw description, related raw description → (good raw ↔ fine description)) :
    (∀ raw ∈ first, good raw) ↔ ∀ description ∈ second, fine description := by
  induction pairs with
  | nil => simp
  | cons head tail ih => rw [List.forall_mem_cons, List.forall_mem_cons, ih, agree _ _ head]

/-- Every list is parsed safely exactly when it is a safe list. -/
theorem parseFileDescriptors_safe_iff (pdu : List UInt8) (connId : Int) :
    ParsesSafely pdu connId ↔ SafeList pdu := by
  unfold ParsesSafely SafeList
  rw [parseFileDescriptors_eq]
  by_cases sized : WellSized pdu
  · rw [if_pos sized]
    simp only [sized, true_implies]
    have overflow : describeAll connId (rawsOf (announced pdu) (pdu.drop 4)) = .error .overflow ↔
        ¬ TimesFit (rawsOf (announced pdu) (pdu.drop 4)) := describeAll_overflow_iff _
    cases result : describeAll connId (rawsOf (announced pdu) (pdu.drop 4)) with
    | error failure =>
        cases failure with
        | outOfBounds => exact absurd result (describeAll_bounded _)
        | overflow => exact iff_of_false id fun both => overflow.mp result both.1
        | rejected error =>
            have fits : TimesFit (rawsOf (announced pdu) (pdu.drop 4)) := by
              rw [result] at overflow
              by_contra late
              cases overflow.mpr late
            refine iff_of_true trivial ⟨fits, fun accepted => ?_⟩
            obtain ⟨descriptions, ok⟩ : ∃ descriptions, describeAll connId _ = .ok descriptions :=
              describeAll_accepts accepted fits
            cases result.symm.trans ok
    | ok descriptions =>
        have pairs := describeAll_ok result
        have fits : TimesFit (rawsOf (announced pdu) (pdu.drop 4)) := by
          rw [result] at overflow
          by_contra late
          cases overflow.mpr late
        have accepted : ∀ raw ∈ rawsOf (announced pdu) (pdu.drop 4), raw.Accepted :=
          (forall₂_forall_iff pairs _ (fun _ => True)
            (fun raw description described => iff_of_true (describe_accepted described) trivial)).mpr
            (fun _ _ => trivial)
        have drives := forall₂_forall_iff pairs (fun raw => ¬ raw.NamesDrive)
          (fun description => Inside description.name ∧
            startsWithDrive description.name = false)
          (fun raw description described => by
            rw [← describe_drive described, Bool.not_eq_true]
            exact (and_iff_right (describe_inside described)).symm)
        have count : descriptions.length = announced pdu := by
          rw [← pairs.length_eq, length_rawsOf]
        constructor
        · rintro ⟨-, -, inside⟩
          exact ⟨fits, fun _ => drives.mpr inside⟩
        · rintro ⟨-, plain⟩
          exact ⟨sized, count, drives.mp (plain accepted)⟩
  · rw [if_neg sized]
    exact iff_of_true trivial fun here => absurd here sized

/-- A description carries its connection. -/
theorem describe_connId {raw : RawDescriptor} {connId : Int} {description : FileDescription}
    (described : raw.describe connId = .ok description) : description.connId = connId := by
  unfold RawDescriptor.describe at described
  split at described
  next => cases described
  next =>
    split at described
    next => cases described
    next =>
      split at described
      next => cases described
      next =>
        dsimp only at described
        split at described
        next => cases described
        next =>
          cases described
          rfl

theorem parse_connId {connId : Int} {pdu : List UInt8} {descriptions : List FileDescription}
    (parsed : parseFileDescriptors pdu connId = .ok descriptions) :
    ∀ description ∈ descriptions, description.connId = connId := by
  rw [parseFileDescriptors_eq] at parsed
  split at parsed
  next =>
    have pairs := describeAll_ok parsed
    have same := forall₂_forall_iff pairs (fun _ => True)
      (fun description => description.connId = connId)
      (fun raw description described => iff_of_true trivial (describe_connId described))
    exact same.mp (fun _ _ => trivial)
  next => cases parsed

/-- A list of one file with a name of ASCII letters. -/
def samplePdu (lastWriteTime : Nat) (name : List UInt8) : List UInt8 :=
  List.flatten [Bytes.le 4 1, Bytes.le 4 (flagsFdAttributes + flagsFdLastWrite),
    List.replicate 32 0, Bytes.le 4 0x80, List.replicate 12 0, Bytes.le 4 0,
    Bytes.le 8 lastWriteTime, Bytes.le 8 0, name.flatMap (fun letter => [letter, 0]),
    List.replicate (fileNameFieldSize - 2 * name.length) 0]

/-- The latest time overflows, and a name that starts with a drive is accepted. -/
theorem late_time_overflows :
    parseFileDescriptors (samplePdu (2 ^ 64 - 1) [97]) 0 = .error .overflow ∧
      (parseFileDescriptors (samplePdu 0 [67, 58, 97]) 0).map (·.map (·.name)) =
        .ok ["C:a".toList] := by
  decide +kernel

end SubnetDesk.Clipboard.FileList
