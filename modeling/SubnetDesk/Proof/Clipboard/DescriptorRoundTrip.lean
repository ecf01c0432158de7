import SubnetDesk.Construction.Clipboard.LocalFile
import SubnetDesk.Proof.Clipboard.DescriptorNames

namespace SubnetDesk.Clipboard.FileList

open FileTree

variable {file : LocalFile} {files : List LocalFile} {connId : Int}

/-- What a file that has been opened satisfies. -/
structure LocalFile.Sendable (file : LocalFile) : Prop where
  named : file.descriptorName = toStringLossy file.relativePath
  valid : validateFileName file.descriptorName = .ok ()
  short : (Utf16.encode file.descriptorName).length ≤ maxFileNameCodeUnits

/-- An opened file can be sent. -/
theorem LocalFile.tryOpen_sendable {metadata : OsPath → Option Metadata}
    {relativeRoot path : OsPath} (opened : tryOpen metadata relativeRoot path = .ok file) :
    file.Sendable := by
  unfold tryOpen at opened
  cases validated : validatedDescriptorName relativeRoot path with
  | error error =>
      rw [validated] at opened
      cases opened
  | ok names =>
      rw [validated] at opened
      dsimp only at opened
      cases found : metadata path with
      | none =>
          rw [found] at opened
          cases opened
      | some mt =>
          rw [found] at opened
          cases opened
          unfold validatedDescriptorName at validated
          split at validated
          next => cases validated
          next descriptorPath stripped =>
            split at validated
            next => cases validated
            next =>
              dsimp only at validated
              cases valid : validateFileName (toStringLossy descriptorPath.text) with
              | error error =>
                  rw [valid] at validated
                  cases validated
              | ok done =>
                  rw [valid] at validated
                  dsimp only at validated
                  split at validated
                  next => cases validated
                  next short =>
                    cases validated
                    exact ⟨rfl, valid, Nat.le_of_not_lt short⟩

/-- Every file of a walk has been opened. -/
theorem constrFileLst_sendable {system : FileSystem} {relativeRoot : OsPath} (fuel : Nat)
    {path : OsPath} {listing after : Listing}
    (listed : constrFileLst system relativeRoot fuel path listing = .ok after)
    (before : ∀ file ∈ listing.fileList, file.Sendable) :
    ∀ file ∈ after.fileList, file.Sendable := by
  induction fuel generalizing path listing after with
  | zero => cases listed
  | succ fuel ih =>
      rw [constrFileLst] at listed
      split at listed
      next =>
        cases listed
        exact before
      next =>
        split at listed
        next => cases listed
        next localFile opened =>
          have added : ∀ file ∈ listing.fileList ++ [localFile], file.Sendable := by
            rw [List.forall_mem_append]
            exact ⟨before, by simpa using LocalFile.tryOpen_sendable opened⟩
          dsimp only at listed
          split at listed
          next => cases listed
          next mt found =>
            split at listed
            next =>
              split at listed
              next => cases listed
              next names entries =>
                clear opened found entries
                revert listed
                generalize path :: listing.visited = visited
                generalize listing.fileList ++ [localFile] = fileList at added ⊢
                intro listed
                induction names generalizing fileList visited with
                | nil =>
                    cases listed
                    exact added
                | cons name rest walk =>
                    rw [List.foldlM_cons] at listed
                    cases step : constrFileLst system relativeRoot fuel (path.push name)
                        ⟨fileList, visited⟩ with
                    | error error =>
                        rw [step] at listed
                        cases listed
                    | ok next =>
                        rw [step] at listed
                        exact walk _ _ (ih step added) listed
            next =>
              cases listed
              exact added

/-- Every listed file can be sent. -/
theorem constructFileList_sendable {system : FileSystem} {fuel : Nat} {paths : List OsPath}
    (accepted : constructFileList system fuel paths = .ok files) :
    ∀ file ∈ files, file.Sendable := by
  unfold constructFileList at accepted
  split at accepted
  next => cases accepted
  next =>
    have walk : ∀ paths fileList, constructFrom system fuel paths fileList = .ok files →
        (∀ file ∈ fileList, file.Sendable) → ∀ file ∈ files, file.Sendable := by
      intro paths
      induction paths with
      | nil =>
          intro fileList ended before
          cases ended
          exact before
      | cons path rest ih =>
          intro fileList listed before
          rw [constructFrom] at listed
          split at listed
          next => cases listed
          next relativeRoot parent =>
            split at listed
            next => cases listed
            next listing step => exact ih _ listed (constrFileLst_sendable fuel step before)
    exact walk paths [] accepted (by simp)

/-- The name of a file with its terminator, in a field of fixed size. -/
def LocalFile.block (file : LocalFile) : List UInt8 :=
  (Utf16.encode file.descriptorName).flatMap (Bytes.le 2) ++ Bytes.le 2 0 ++
    List.replicate
      (fileNameFieldSize - (((Utf16.encode file.descriptorName).flatMap (Bytes.le 2)).length + 2)) 0

/-- The descriptor of a file as bytes. -/
def LocalFile.bin (file : LocalFile) : List UInt8 :=
  List.flatten [Bytes.le 4 descriptorFlags, List.replicate 32 0, Bytes.le 4 file.fileAttributes,
    List.replicate 12 0, Bytes.le 4 file.perm.toNat, Bytes.le 8 file.win32Time,
    Bytes.le 4 (file.size.toNat / 2 ^ 32), Bytes.le 4 (file.size.toNat % 2 ^ 32), file.block]

/-- The fields of the descriptor of a file. -/
def LocalFile.raw (file : LocalFile) : RawDescriptor where
  flags := descriptorFlags
  attributes := file.fileAttributes
  perm := file.perm.toNat % 2 ^ 16
  lastWriteTime := file.win32Time
  fileSizeHigh := file.size.toNat / 2 ^ 32
  fileSizeLow := file.size.toNat % 2 ^ 32
  block := file.block

theorem length_flatMap_le (units : List Nat) : (units.flatMap (Bytes.le 2)).length = 2 * units.length := by
  induction units with
  | nil => rfl
  | cons unit rest ih =>
      rw [List.flatMap_cons, List.length_append, Bytes.length_le, ih, List.length_cons]
      omega

/-- A name fills its field. -/
theorem LocalFile.Sendable.length_block (sendable : file.Sendable) :
    file.block.length = fileNameFieldSize := by
  have short := sendable.short
  simp only [block, List.length_append, length_flatMap_le, Bytes.length_le, List.length_replicate]
  unfold maxFileNameCodeUnits at short
  unfold fileNameFieldSize
  unfold fileNameCodeUnits at *
  omega

/-- A file that can be sent is written. -/
theorem LocalFile.Sendable.asBin_eq (sendable : file.Sendable) : file.asBin = .ok file.bin := by
  have short := sendable.short
  have fits : ¬ fileNameFieldSize <
      ((Utf16.encode file.descriptorName).flatMap (Bytes.le 2)).length + 2 := by
    rw [length_flatMap_le]
    unfold maxFileNameCodeUnits at short
    unfold fileNameFieldSize
    unfold fileNameCodeUnits at *
    omega
  unfold asBin putDescriptorName
  rw [sendable.valid]
  dsimp only
  rw [if_neg fits]
  rfl

/-- A descriptor has its size. -/
theorem LocalFile.Sendable.length_bin (sendable : file.Sendable) :
    file.bin.length = fileDescriptorSize := by
  simp only [bin, List.flatten_cons, List.flatten_nil, List.length_append, Bytes.length_le,
    List.length_replicate, List.length_nil, sendable.length_block]
  rfl

/-- The files are written in order. -/
theorem putFiles_eq (sendable : ∀ file ∈ files, file.Sendable) :
    putFiles files = .ok (files.flatMap LocalFile.bin) := by
  induction files with
  | nil => rfl
  | cons file rest ih =>
      rw [List.forall_mem_cons] at sendable
      rw [putFiles, sendable.1.asBin_eq]
      dsimp only
      rw [ih sendable.2]
      rfl

theorem length_flatMap_bin (sendable : ∀ file ∈ files, file.Sendable) :
    (files.flatMap LocalFile.bin).length = fileDescriptorSize * files.length := by
  induction files with
  | nil => rfl
  | cons file rest ih =>
      rw [List.forall_mem_cons] at sendable
      rw [List.flatMap_cons, List.length_append, sendable.1.length_bin, ih sendable.2,
        List.length_cons, Nat.mul_succ]
      omega

/-- A read takes the front. -/
theorem advance_append {count : Nat} {front : List UInt8} (length : front.length = count)
    (rest : List UInt8) : advance count (front ++ rest) = .ok (front, rest) := by
  rw [advance, Bytes.split_append length]

/-- A number is read back. -/
theorem getLe_append {width value : Nat} (small : value < 256 ^ width) (rest : List UInt8) :
    getLe width (Bytes.le width value ++ rest) = .ok (value, rest) := by
  rw [getLe, advance_append (Bytes.length_le width value)]
  simp only [Except.map, Bytes.ofLe_le_of_lt small]

theorem LocalFile.fileAttributes_lt (file : LocalFile) : file.fileAttributes < 256 ^ 4 := by
  unfold fileAttributes
  cases file.readOnly <;> cases file.hidden <;> cases file.system <;> cases file.isDir <;>
    cases file.archive <;> cases file.normal <;> decide

/-- The attributes tell a directory. -/
theorem LocalFile.fileAttributes_directory (file : LocalFile) :
    file.fileAttributes &&& 0x10 ≠ 0 ↔ file.isDir = true := by
  unfold fileAttributes
  cases file.readOnly <;> cases file.hidden <;> cases file.system <;> cases file.isDir <;>
    cases file.archive <;> cases file.normal <;> decide

/-- A time fits its eight bytes. -/
theorem LocalFile.win32Time_lt (file : LocalFile) : file.win32Time < 256 ^ 8 := by
  unfold win32Time ldapEpochDelta
  omega

/-- The parser reads the fields that have been written. -/
theorem LocalFile.Sendable.readDescriptor_bin (sendable : file.Sendable) (rest : List UInt8) :
    readDescriptor (file.bin ++ rest) = .ok (file.raw, rest) := by
  have perm := file.perm.isLt
  have size := file.size.isLt
  unfold readDescriptor bin
  simp only [List.flatten_cons, List.flatten_nil, List.append_nil, List.append_assoc]
  rw [getLe_append (by decide)]
  simp only [bind, Except.bind]
  rw [advance_append List.length_replicate]
  dsimp only
  rw [getLe_append file.fileAttributes_lt]
  dsimp only
  rw [advance_append List.length_replicate]
  dsimp only
  rw [getLe_append (by omega)]
  dsimp only
  rw [getLe_append file.win32Time_lt]
  dsimp only
  rw [getLe_append (by omega)]
  dsimp only
  rw [getLe_append (by omega)]
  dsimp only
  rw [advance_append sendable.length_block]
  rfl

theorem codeUnits_le {unit : Nat} (small : unit < 2 ^ 16) (rest : List UInt8) :
    codeUnits (Bytes.le 2 unit ++ rest) = unit :: codeUnits rest := by
  have whole : (UInt8.ofNat unit).toNat + 256 * (UInt8.ofNat (unit / 256)).toNat = unit := by
    simp only [UInt8.toNat_ofNat']
    omega
  simp only [Bytes.le, List.cons_append, List.nil_append, codeUnits, whole]

/-- The units of a text are read back. -/
theorem codeUnits_flatMap {units : List Nat} (small : ∀ unit ∈ units, unit < 2 ^ 16)
    (rest : List UInt8) : codeUnits (units.flatMap (Bytes.le 2) ++ rest) = units ++ codeUnits rest := by
  induction units with
  | nil => rfl
  | cons unit others ih =>
      rw [List.forall_mem_cons] at small
      rw [List.flatMap_cons, List.append_assoc, codeUnits_le small.1, ih small.2, List.cons_append]

/-- The text ends at the first zero. -/
theorem idxOf?_terminator {units : List Nat} (visible : 0 ∉ units) (rest : List Nat) :
    (units ++ 0 :: rest).idxOf? 0 = some units.length := by
  induction units with
  | nil => simp [List.idxOf?_cons]
  | cons unit others ih =>
      rw [List.mem_cons, not_or] at visible
      rw [List.cons_append, List.idxOf?_cons, ih visible.2]
      have different : (unit == 0) = false := by simpa using Ne.symm visible.1
      rw [different]
      rfl

/-- The parser finds the text of a name again. -/
theorem LocalFile.Sendable.raw_text (sendable : file.Sendable) :
    file.raw.text = .ok file.descriptorName := by
  obtain ⟨-, -, visible⟩ := validateFileName_ok sendable.valid
  have small : ∀ unit ∈ Utf16.encode file.descriptorName, unit < 2 ^ 16 := by
    intro unit member
    obtain ⟨letter, -, within⟩ := List.mem_flatMap.mp member
    exact Utf16.units_lt within
  have nonzero : 0 ∉ Utf16.encode file.descriptorName := by
    intro member
    obtain ⟨letter, inside, within⟩ := List.mem_flatMap.mp member
    exact Utf16.units_ne_zero (fun null => visible (null ▸ inside)) within rfl
  unfold RawDescriptor.text raw block
  dsimp only
  rw [List.append_assoc, codeUnits_flatMap small, codeUnits_le (by decide),
    idxOf?_terminator nonzero]
  dsimp only
  rw [List.take_left, Utf16.decode_encode]

/-- A description tells what is known of a file. -/
structure Describes (file : LocalFile) (description : FileDescription) : Prop where
  name : description.name.map OsChar.char = file.relativePath
  kind : description.kind = if file.isDir then .directory else .file
  size : description.size = file.size.toNat
  perm : description.perm = file.perm.toNat % 2 ^ 16
  modified : (description.lastModified : Int) = file.lastWriteTime / 100 * 100

/-- A description tells what is known of a file, apart from a time that does not fit. -/
structure Resembles (file : LocalFile) (description : FileDescription) : Prop where
  name : description.name.map OsChar.char = file.relativePath
  kind : description.kind = if file.isDir then .directory else .file
  size : description.size = file.size.toNat
  perm : description.perm = file.perm.toNat % 2 ^ 16
  modified : 0 ≤ file.lastWriteTime ∧ file.lastWriteTime < 2 ^ 64 →
    (description.lastModified : Int) = file.lastWriteTime / 100 * 100

/-- The path of a file is Unicode and has no backslash. -/
def LocalFile.Plain (file : LocalFile) : Prop :=
  ∀ letter ∈ file.relativePath, ∃ value, letter = .char value ∧ value ≠ '\\'

/-- The time of a file is between the epoch and the year 2554. -/
def LocalFile.Dated (file : LocalFile) : Prop :=
  0 ≤ file.lastWriteTime ∧ file.lastWriteTime < 2 ^ 64

/-- A time that is sent fits into its word again. -/
theorem LocalFile.raw_lastModified (file : LocalFile) :
    ∃ time, file.raw.lastModified = .ok time ∧
      (file.Dated → (time : Int) = file.lastWriteTime / 100 * 100) := by
  refine ⟨file.lastWriteTime.toNat % 2 ^ 64 / 100 * 100, ?_, ?_⟩
  · unfold RawDescriptor.lastModified raw win32Time
    dsimp only
    rw [if_pos ⟨by decide, Nat.le_add_left _ _⟩, Nat.add_sub_cancel, if_pos (by omega)]
  · rintro ⟨positive, early⟩
    rw [Nat.mod_eq_of_lt (by omega)]
    omega

/-- A plain name survives as text. -/
theorem toStringLossy_plain {name : List OsChar}
    (plain : ∀ letter ∈ name, ∃ value, letter = .char value ∧ value ≠ '\\') :
    (toStringLossy name).map OsChar.char = name ∧
      replaceBackslash (toStringLossy name) = toStringLossy name := by
  induction name with
  | nil => exact ⟨rfl, rfl⟩
  | cons letter rest ih =>
      rw [List.forall_mem_cons] at plain
      obtain ⟨value, rfl, other⟩ := plain.1
      obtain ⟨whole, kept⟩ := ih plain.2
      refine ⟨congrArg (OsChar.char value :: ·) whole, ?_⟩
      have first : (if value = '\\' then '/' else value) = value := if_neg other
      exact congrArg₂ List.cons first kept

/-- The description of a plain file. -/
theorem LocalFile.Sendable.describe_plain (sendable : file.Sendable) (plain : file.Plain) :
    ∃ description, file.raw.describe connId = .ok description ∧ Resembles file description := by
  obtain ⟨time, modified, exact_⟩ := file.raw_lastModified
  obtain ⟨whole, kept⟩ := toStringLossy_plain plain
  rw [← sendable.named] at whole kept
  have attributes : file.raw.flags &&& flagsFdAttributes ≠ 0 := by
    change descriptorFlags &&& flagsFdAttributes ≠ 0
    decide
  unfold RawDescriptor.describe
  rw [sendable.raw_text, modified]
  dsimp only
  rw [if_neg attributes, kept, sendable.valid]
  refine ⟨_, rfl, whole, ?_, ?_, ?_, exact_⟩
  · unfold RawDescriptor.kind
    by_cases directory : file.isDir = true
    · rw [if_pos directory]
      exact if_pos (file.fileAttributes_directory.mpr directory)
    · rw [if_neg directory]
      exact if_neg (mt file.fileAttributes_directory.mp directory)
  · exact Nat.div_add_mod' _ _
  · have unix : file.raw.flags &&& flagsFdUnixMode ≠ 0 := by
      change descriptorFlags &&& flagsFdUnixMode ≠ 0
      decide
    exact if_pos unix

/-- The descriptors of plain files are read back. -/
theorem parseEach_bin (sendable : ∀ file ∈ files, file.Sendable)
    (plain : ∀ file ∈ files, file.Plain) :
    ∃ descriptions,
      parseEach connId files.length (files.flatMap LocalFile.bin) = .ok descriptions ∧
        List.Forall₂ Resembles files descriptions := by
  induction files with
  | nil => exact ⟨[], rfl, .nil⟩
  | cons file rest ih =>
      rw [List.forall_mem_cons] at sendable plain
      obtain ⟨descriptions, parsed, pairs⟩ := ih sendable.2 plain.2
      obtain ⟨description, described, exact_⟩ : ∃ description,
          file.raw.describe connId = .ok description ∧ Resembles file description :=
        sendable.1.describe_plain plain.1
      refine ⟨description :: descriptions, ?_, .cons exact_ pairs⟩
      rw [List.length_cons, List.flatMap_cons, parseEach, parseFileDescriptor,
        sendable.1.readDescriptor_bin]
      simp only [bind, Except.bind, described, pure, Except.pure, parsed]

/-- A dated file is described. -/
theorem describes_of_resembles {descriptions : List FileDescription}
    (pairs : List.Forall₂ Resembles files descriptions) (dated : ∀ file ∈ files, file.Dated) :
    List.Forall₂ Describes files descriptions := by
  induction pairs with
  | nil => exact .nil
  | cons head tail ih =>
      rw [List.forall_mem_cons] at dated
      exact .cons ⟨head.name, head.kind, head.size, head.perm, head.modified dated.1⟩ (ih dated.2)

/-- The bytes of a list of files. -/
def pduOf (files : List LocalFile) : List UInt8 :=
  Bytes.le 4 (files.length % 2 ^ 32) ++ files.flatMap LocalFile.bin

/-- The message is a count and the files. -/
theorem buildFileListPdu_eq (sendable : ∀ file ∈ files, file.Sendable) :
    buildFileListPdu files = .ok (pduOf files) := by
  rw [buildFileListPdu, putFiles_eq sendable]
  rfl

/-- The message has its length. -/
theorem length_pduOf (sendable : ∀ file ∈ files, file.Sendable) :
    (pduOf files).length = 4 + fileDescriptorSize * files.length := by
  rw [pduOf, List.length_append, Bytes.length_le, length_flatMap_bin sendable]

/-- The count is cut to four bytes. -/
theorem announced_pduOf (files : List LocalFile) :
    announced (pduOf files) = files.length % 2 ^ 32 := by
  unfold announced pduOf
  rw [List.take_left' (Bytes.length_le _ _), Bytes.ofLe_le_of_lt]
  exact Nat.mod_lt _ (by decide)

/-- A list that is parsed has announced all its files. -/
theorem wellSized_pduOf (sendable : ∀ file ∈ files, file.Sendable) :
    WellSized (pduOf files) ↔ files.length < 2 ^ 32 := by
  unfold WellSized
  rw [announced_pduOf, length_pduOf sendable]
  unfold fileDescriptorSize
  have small := Nat.mod_lt files.length (Nat.two_pow_pos 32)
  constructor
  · intro same
    omega
  · intro short
    rw [Nat.mod_eq_of_lt short]

/-- A short list of plain files is parsed into descriptions that resemble them. -/
theorem parse_pduOf (sendable : ∀ file ∈ files, file.Sendable)
    (plain : ∀ file ∈ files, file.Plain) (short : files.length < 2 ^ 32) :
    ∃ descriptions, parseFileDescriptors (pduOf files) connId = .ok descriptions ∧
      List.Forall₂ Resembles files descriptions := by
  obtain ⟨descriptions, parsed, pairs⟩ : ∃ descriptions,
      parseEach connId files.length (files.flatMap LocalFile.bin) = .ok descriptions ∧
        List.Forall₂ Resembles files descriptions := parseEach_bin sendable plain
  refine ⟨descriptions, ?_, pairs⟩
  have rest : (pduOf files).drop 4 = files.flatMap LocalFile.bin :=
    List.drop_left' (Bytes.length_le _ _)
  rw [parseFileDescriptors_eq, if_pos ((wellSized_pduOf sendable).mpr short), announced_pduOf,
    Nat.mod_eq_of_lt short, rest, ← parseEach_eq, parsed]
  rw [length_flatMap_bin sendable]

/-- The parsed list has the same files in the same order. -/
def RoundTrips (connId : Int) (files : List LocalFile) (pdu : List UInt8) : Prop :=
  ∃ descriptions, parseFileDescriptors pdu connId = .ok descriptions ∧
    List.Forall₂ Describes files descriptions

/-- What was parsed has its size and safe names. -/
theorem parse_ok {pdu : List UInt8} {descriptions : List FileDescription}
    (parsed : parseFileDescriptors pdu connId = .ok descriptions) :
    WellSized pdu ∧ ∀ description ∈ descriptions, Inside description.name := by
  rw [parseFileDescriptors_eq] at parsed
  split at parsed
  next sized =>
    refine ⟨sized, ?_⟩
    have pairs := describeAll_ok parsed
    have inside := forall₂_forall_iff pairs (fun _ => True) (fun description => Inside description.name)
      (fun raw description described => iff_of_true trivial (describe_inside described))
    exact inside.mp (fun _ _ => trivial)
  next => cases parsed

/-- A described name was plain. -/
theorem Describes.plain {description : FileDescription} (describes : Describes file description)
    (inside : Inside description.name) : file.Plain := by
  intro letter member
  rw [← describes.name] at member
  obtain ⟨value, within, rfl⟩ := List.mem_map.mp member
  exact ⟨value, rfl, fun back => inside.unixSeparators (back ▸ within)⟩

/-- The list of an accepted selection has the size of its descriptors, and it is parsed into the same
files exactly when their number fits into its field and all their names are plain. -/
theorem pdu_round_trip_iff {system : FileSystem} {fuel : Nat} {paths : List OsPath}
    (accepted : constructFileList system fuel paths = .ok files)
    (dated : ∀ file ∈ files, file.Dated) (connId : Int) :
    ∃ pdu, buildFileListPdu files = .ok pdu ∧
      pdu.length = 4 + fileDescriptorSize * files.length ∧
      (RoundTrips connId files pdu ↔ files.length < 2 ^ 32 ∧ ∀ file ∈ files, file.Plain) := by
  have sendable := constructFileList_sendable accepted
  refine ⟨pduOf files, buildFileListPdu_eq sendable, length_pduOf sendable, ?_⟩
  constructor
  · rintro ⟨descriptions, parsed, pairs⟩
    obtain ⟨sized, inside⟩ := parse_ok parsed
    refine ⟨(wellSized_pduOf sendable).mp sized, ?_⟩
    intro file member
    obtain ⟨index, here, rfl⟩ := List.mem_iff_getElem.mp member
    have there : index < descriptions.length := pairs.length_eq ▸ here
    have describes := List.Forall₂.get pairs here there
    exact describes.plain (inside _ (List.getElem_mem there))
  · rintro ⟨short, plain⟩
    obtain ⟨descriptions, parsed, pairs⟩ : ∃ descriptions,
        parseFileDescriptors (pduOf files) connId = .ok descriptions ∧
          List.Forall₂ Resembles files descriptions := parse_pduOf sendable plain short
    exact ⟨descriptions, parsed, describes_of_resembles pairs dated⟩

def osName (name : List Char) : OsSegment := name.map OsChar.char

/-- One directory with one file of the given name. -/
def oneFile (name : List Char) : FileSystem where
  metadata path :=
    if path.components = [osName ['d']] then some ⟨4096, true, some 0, 0o40755⟩
    else if path.components = [osName ['d'], osName name] then
      some ⟨5, false, some 1700000000123456789, 0o100644⟩
    else none
  readDir path := if path.components = [osName ['d']] then some [osName name] else none

def directoryPath : OsPath := ⟨true, [osName ['d']]⟩

def oneFileList (name : List Char) : List LocalFile :=
  (constructFileList (oneFile name) 2 [directoryPath]).toOption.getD []

theorem oneFileList_accepted :
    constructFileList (oneFile ['a']) 2 [directoryPath] = .ok (oneFileList ['a']) := by
  decide +kernel

theorem oneFileList_plain : ∀ file ∈ oneFileList ['a'], file.Plain := by
  have letters : ∀ file ∈ oneFileList ['a'], ∀ letter ∈ file.relativePath,
      letter = .char 'd' ∨ letter = .char '/' ∨ letter = .char 'a' := by
    decide +kernel
  intro file member letter inside
  obtain rfl | rfl | rfl := letters file member letter inside
  · exact ⟨'d', rfl, by decide⟩
  · exact ⟨'/', rfl, by decide⟩
  · exact ⟨'a', rfl, by decide⟩

theorem one_file_round_trip :
    ∃ pdu, buildFileListPdu (oneFileList ['a']) = .ok pdu ∧ pdu.length = 4 + 592 * 2 ∧
      RoundTrips 0 (oneFileList ['a']) pdu := by
  have dated : ∀ file ∈ oneFileList ['a'], file.Dated := by
    unfold LocalFile.Dated
    decide +kernel
  obtain ⟨pdu, built, length, exact_⟩ := pdu_round_trip_iff oneFileList_accepted dated 0
  exact ⟨pdu, built, length, exact_.mpr ⟨by decide +kernel, oneFileList_plain⟩⟩

/-- A file with a backslash in its name is accepted, and its list is parsed into another name. One
with a backslash at its end makes the whole list invalid. -/
theorem backslash_name_changed :
    ((oneFileList ['a', '\\', 'b']).map (·.relativePath) =
        [osName ['d'], osName ['d', '/', 'a', '\\', 'b']] ∧
      (buildFileListPdu (oneFileList ['a', '\\', 'b'])).toOption.map
          (fun pdu => (parseFileDescriptors pdu 0).map (·.map (·.name))) =
        some (.ok [['d'], ['d', '/', 'a', '/', 'b']])) ∧
    (oneFileList ['a', '\\']).length = 2 ∧
      (buildFileListPdu (oneFileList ['a', '\\'])).toOption.map
          (fun pdu => (parseFileDescriptors pdu 0).map (·.map (·.name))) =
        some (.error (.rejected .invalidRequest)) := by
  decide +kernel

end SubnetDesk.Clipboard.FileList
