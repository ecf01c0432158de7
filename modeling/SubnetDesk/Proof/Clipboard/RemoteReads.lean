import SubnetDesk.Construction.Clipboard.FileContents

namespace SubnetDesk.Clipboard

variable {file other : LocalFile} {files : ClipFiles}

/-- The sign bit of the low half. -/
theorem getLsbD_31_iff (word : BitVec 64) :
    word.getLsbD 31 = false ↔ word.toNat % 2 ^ 32 < 2 ^ 31 := by
  rw [BitVec.getLsbD, Nat.testBit_eq_decide_div_mod_eq, decide_eq_false_iff_not]
  omega

theorem truncate_msb (word : BitVec 64) : (word.truncate 32).msb = word.getLsbD 31 := by
  simp [BitVec.msb_eq_getLsbD_last]

/-- The low half extends its sign. -/
theorem low_getLsbD (offset : BitVec 64) (place : Nat) :
    (((offset &&& 0xFFFFFFFF).truncate 32).signExtend 64).getLsbD place =
      (decide (place < 64) && if place < 32 then offset.getLsbD place else offset.getLsbD 31) := by
  have mask : (offset &&& 0xFFFFFFFF).truncate 32 = offset.truncate 32 := by
    apply BitVec.eq_of_toNat_eq
    have ones : (0xFFFFFFFF : BitVec 64).toNat = 2 ^ 32 - 1 := rfl
    simp only [BitVec.truncate_eq_setWidth, BitVec.toNat_setWidth, BitVec.toNat_and, ones,
      Nat.and_two_pow_sub_one_eq_mod, Nat.mod_mod]
  rw [mask, BitVec.getLsbD_signExtend, truncate_msb]
  congr 1
  split
  next inside => simp [inside]
  next => rfl

/-- The high half keeps its bits. -/
theorem high_getLsbD (offset : BitVec 64) {place : Nat} (inside : place < 32) :
    (((offset.sshiftRight 32).truncate 32).signExtend 64).getLsbD place =
      offset.getLsbD (32 + place) := by
  have small : place < 64 := by omega
  have shifted : 32 + place < 64 := by omega
  rw [BitVec.getLsbD_signExtend, if_pos inside, BitVec.truncate_eq_setWidth,
    BitVec.getLsbD_setWidth, BitVec.getLsbD_sshiftRight, if_pos shifted]
  simp [inside, small]

/-- The two halves of an offset give the offset again where the low half has no sign. -/
theorem halves_eq_iff {offset : BitVec 64} (positive : offset.msb = false) :
    ((offset.sshiftRight 32).truncate 32).signExtend 64 <<< 32 |||
        ((offset &&& 0xFFFFFFFF).truncate 32).signExtend 64 = offset ↔
      offset.toNat % 2 ^ 32 < 2 ^ 31 := by
  rw [← getLsbD_31_iff]
  constructor
  · intro same
    have top := congrArg (BitVec.getLsbD · 63) same
    simp only [BitVec.getLsbD_or, low_getLsbD] at top
    have last : offset.getLsbD 63 = false := by
      rw [← positive, BitVec.msb_eq_getLsbD_last]
    rw [last, Bool.or_eq_false_iff] at top
    simpa using top.2
  · intro unsigned
    apply BitVec.eq_of_getLsbD_eq
    intro place inside
    rw [BitVec.getLsbD_or, BitVec.getLsbD_shiftLeft, low_getLsbD]
    by_cases low : place < 32
    · simp [low, inside]
    · have high : place - 32 < 32 := by omega
      have whole : 32 + (place - 32) = place := by omega
      rw [high_getLsbD offset high, whole, if_neg low, unsigned]
      simp [low, inside]

/-- A small index survives. -/
theorem signExtend_truncate_eq_iff {index : BitVec 64} (positive : index.msb = false) :
    (index.truncate 32).signExtend 64 = index ↔ index.toNat < 2 ^ 31 := by
  have bound : index.toNat < 2 ^ 63 := by
    have small := BitVec.msb_eq_false_iff_two_mul_lt.mp positive
    omega
  have width := getLsbD_31_iff index
  rw [← BitVec.toNat_inj, BitVec.toNat_signExtend, truncate_msb]
  simp only [BitVec.truncate_eq_setWidth, BitVec.toNat_setWidth]
  cases sign : index.getLsbD 31 with
  | false =>
      have low := width.mp sign
      rw [if_neg Bool.false_ne_true]
      omega
  | true =>
      have low : ¬ index.toNat % 2 ^ 32 < 2 ^ 31 := by
        rw [← width, sign]
        nofun
      rw [if_pos rfl]
      omega

/-- A small size survives. -/
theorem signExtend_eq_setWidth_iff (size : BitVec 32) :
    size.signExtend 64 = size.setWidth 64 ↔ size.toNat < 2 ^ 31 := by
  have width : size.msb = false ↔ size.toNat < 2 ^ 31 := by
    rw [BitVec.msb_eq_false_iff_two_mul_lt]
    omega
  rw [← BitVec.toNat_inj, BitVec.toNat_signExtend, ← width]
  cases size.msb with
  | false => simp
  | true => simp

/-- An open file stands where its entry says, and a closed one has no offset. -/
def LocalFile.Aligned (file : LocalFile) : Prop := file.offset = file.handle.getD 0

/-- An entry still stands for the same file. -/
structure SameFile (file other : LocalFile) : Prop where
  disk : other.disk = file.disk
  size : other.size = file.size
  isDir : other.isDir = file.isDir
  aligned : other.Aligned

/-- The same file of the same file. -/
theorem SameFile.trans {last : LocalFile} (first : SameFile file other)
    (second : SameFile other last) : SameFile file last :=
  ⟨second.disk.trans first.disk, second.size.trans first.size, second.isDir.trans first.isDir,
    second.aligned⟩

/-- A file is open or can be opened. -/
def LocalFile.Opens (file : LocalFile) : Prop := file.handle ≠ none ∨ file.disk ≠ none

instance (file : LocalFile) : Decidable file.Opens := inferInstanceAs (Decidable (_ ∨ _))

/-- An opened file is the same file. -/
theorem LocalFile.loadHandle_same (aligned : file.Aligned)
    (loaded : file.loadHandle = .ok other) : SameFile file other := by
  unfold loadHandle at loaded
  split at loaded
  next closed =>
    split at loaded
    next => cases loaded
    next content =>
      cases loaded
      refine ⟨rfl, rfl, rfl, ?_⟩
      rw [Aligned, closed.2] at aligned
      exact aligned
  next =>
    cases loaded
    exact ⟨rfl, rfl, rfl, aligned⟩

/-- A file is loaded where it opens. -/
theorem LocalFile.loadHandle_ok_iff (regular : file.isDir = false) :
    (∃ next, file.loadHandle = .ok next) ↔ file.Opens := by
  unfold loadHandle Opens
  cases handle : file.handle with
  | some position => simp
  | none =>
      cases disk : file.disk with
      | none => simp [regular]
      | some content => simp [regular]

theorem LocalFile.loadHandle_open (regular : file.isDir = false)
    (loaded : file.loadHandle = .ok other) : ∃ position, other.handle = some position := by
  unfold loadHandle at loaded
  split at loaded
  next =>
    split at loaded
    next => cases loaded
    next =>
      cases loaded
      exact ⟨0, rfl⟩
  next opened =>
    cases loaded
    rw [not_and] at opened
    exact Option.ne_none_iff_exists'.mp (opened regular)

/-- A read starts at the offset that it is asked for. -/
theorem LocalFile.Aligned.start_eq (aligned : file.Aligned) {position : Nat}
    (opened : file.handle = some position) (offset : Nat) :
    (if offset ≠ file.offset then offset else position) = offset := by
  rw [Aligned, opened] at aligned
  split
  next => rfl
  next equal => exact aligned.symm.trans (not_not.mp equal).symm

/-- A read leaves the same file. -/
theorem LocalFile.readExactAt_same (aligned : file.Aligned) (length offset : Nat) :
    SameFile file (file.readExactAt length offset).2 := by
  unfold readExactAt
  cases loaded : file.loadHandle with
  | error error => exact ⟨rfl, rfl, rfl, aligned⟩
  | ok next =>
      have same := loadHandle_same aligned loaded
      refine same.trans ?_
      dsimp only
      split
      next position content opened disk =>
        rw [same.aligned.start_eq opened offset]
        split
        next => exact ⟨rfl, rfl, rfl, rfl⟩
        next =>
          dsimp only
          split
          next => exact ⟨rfl, rfl, rfl, rfl⟩
          next => exact ⟨rfl, rfl, rfl, rfl⟩
      next => exact ⟨rfl, rfl, rfl, same.aligned⟩

/-- A read within the file gives its bytes. -/
theorem LocalFile.readExactAt_ok (aligned : file.Aligned) (regular : file.isDir = false)
    {content : List UInt8} (disk : file.disk = some content) {length offset : Nat}
    (within : offset + length ≤ content.length) :
    (file.readExactAt length offset).1 = .ok ((content.drop offset).take length) := by
  obtain ⟨next, loaded⟩ := (loadHandle_ok_iff regular).mpr (.inr (by rw [disk]; nofun))
  obtain ⟨position, opened⟩ := loadHandle_open regular loaded
  have same := loadHandle_same aligned loaded
  have here : next.disk = some content := same.disk.trans disk
  simp only [readExactAt, loaded, opened, here, same.aligned.start_eq opened offset]
  rw [if_neg (by omega)]

theorem forall₂_set {files later : List LocalFile} (same : List.Forall₂ SameFile files later)
    {index : Nat} (found : later[index]? = some file) (changed : SameFile file other) :
    List.Forall₂ SameFile files (later.set index other) := by
  induction same generalizing index with
  | nil => simp at found
  | cons head tail ih =>
      cases index with
      | zero =>
          cases found
          exact .cons (head.trans changed) tail
      | succ index => exact .cons head (ih found)

/-- The next files are the same files. -/
theorem loadNext_same {files later loaded : List LocalFile}
    (same : List.Forall₂ SameFile files later) (ok : loadNext later = .ok loaded) :
    List.Forall₂ SameFile files loaded := by
  induction same generalizing loaded with
  | nil =>
      cases ok
      exact .nil
  | @cons file other files later head tail ih =>
      rw [loadNext] at ok
      split at ok
      next =>
        cases rest : loadNext later with
        | error error =>
            rw [rest] at ok
            cases ok
        | ok reloaded =>
            rw [rest] at ok
            cases ok
            exact .cons head (ih rest)
      next =>
        cases opened : other.loadHandle with
        | error error =>
            rw [opened] at ok
            cases ok
        | ok next =>
            rw [opened] at ok
            cases ok
            exact .cons (head.trans (LocalFile.loadHandle_same head.aligned opened)) tail

/-- The first file behind a place that is not a directory is open or can be opened. -/
def NextOpens (files : List LocalFile) (index : Nat) : Prop :=
  ∀ file ∈ (files.drop (index + 1)).find? (fun file => !file.isDir), file.Opens

instance (files : List LocalFile) (index : Nat) : Decidable (NextOpens files index) :=
  match found : (files.drop (index + 1)).find? (fun file => !file.isDir) with
  | none => .isTrue (by simp [NextOpens, found])
  | some file => decidable_of_iff file.Opens (by simp [NextOpens, found])

/-- The next file is loaded where it opens. -/
theorem loadNext_ok_iff (files : List LocalFile) :
    (∃ loaded, loadNext files = .ok loaded) ↔
      ∀ file ∈ files.find? (fun file => !file.isDir), file.Opens := by
  induction files with
  | nil => simp [loadNext]
  | cons file rest ih =>
      rw [loadNext, List.find?_cons]
      cases directory : file.isDir with
      | true =>
          simp only [if_true, Bool.not_true]
          rw [← ih]
          cases loadNext rest with
          | error error => simp [Except.map]
          | ok loaded => simp [Except.map]
      | false =>
          simp only [Bool.false_eq_true, if_false, Bool.not_false, Option.mem_def,
            Option.some.injEq, forall_eq']
          rw [← LocalFile.loadHandle_ok_iff directory]
          cases file.loadHandle with
          | error error => simp [Except.map]
          | ok loaded => simp [Except.map]

/-- An answer leaves the same files. -/
theorem ClipFiles.respond_same {listed : List LocalFile}
    (same : List.Forall₂ SameFile listed files.fileList) (index : Nat) (response : ClipboardFile) :
    List.Forall₂ SameFile listed (files.respond index response).2.fileList := by
  unfold respond hotReload
  cases loaded : loadNext (files.fileList.drop (index + 1)) with
  | error error => exact same
  | ok later =>
      have whole : List.Forall₂ SameFile (listed.take (index + 1) ++ listed.drop (index + 1))
          (files.fileList.take (index + 1) ++ later) :=
        List.rel_append (List.forall₂_take (index + 1) same)
          (loadNext_same (List.forall₂_drop (index + 1) same) loaded)
      rwa [List.take_append_drop] at whole

/-- An answer needs the next file to open. -/
theorem ClipFiles.respond_ok_iff (index : Nat) (response : ClipboardFile) :
    (files.respond index response).1 = .ok response ↔ NextOpens files.fileList index := by
  unfold NextOpens
  rw [← loadNext_ok_iff]
  unfold respond hotReload
  cases loadNext (files.fileList.drop (index + 1)) with
  | error error => simp [Except.map]
  | ok later => simp [Except.map]

/-- A request leaves the same files. -/
theorem ClipFiles.serveFileContents_same {listed : List LocalFile}
    (same : List.Forall₂ SameFile listed files.fileList) (request : FileContentsRequest) :
    List.Forall₂ SameFile listed (files.serveFileContents request).2.fileList := by
  have aligned (file : LocalFile) (member : file ∈ files.fileList) : file.Aligned := by
    obtain ⟨index, inside, rfl⟩ := List.mem_iff_getElem.mp member
    have related := List.Forall₂.get same (by rw [same.length_eq]; exact inside) inside
    exact related.aligned
  unfold serveFileContents
  split
  next streamId fileIdx =>
    split
    next => exact same
    next file found => exact respond_same same _ _
  next streamId fileIdx offset length =>
    split
    next => exact same
    next file found =>
      split
      next => exact same
      next =>
        have changed := forall₂_set same found (LocalFile.readExactAt_same
          (aligned file (List.mem_of_getElem? found))
          (if file.size < offset + length then file.size - offset else length).toNat
          offset.toNat)
        dsimp only
        split
        next => exact changed
        next data _ => exact respond_same changed _ _

/-- A message leaves the same files. -/
theorem ClipFiles.readFileContents_same {listed : List LocalFile}
    (same : List.Forall₂ SameFile listed files.fileList) (message : FileContentsMessage) :
    List.Forall₂ SameFile listed (files.readFileContents message).2.fileList := by
  unfold readFileContents
  split
  next => exact same
  next request _ => exact serveFileContents_same same request

/-- The peer asks for contents again and again. -/
def ClipFiles.serveAll (files : ClipFiles) (messages : List FileContentsMessage) : ClipFiles :=
  messages.foldl (fun files message => (files.readFileContents message).2) files

/-- All messages leave the same files. -/
theorem ClipFiles.serveAll_same {listed : List LocalFile}
    (same : List.Forall₂ SameFile listed files.fileList) (messages : List FileContentsMessage) :
    List.Forall₂ SameFile listed (files.serveAll messages).fileList := by
  induction messages generalizing files with
  | nil => exact same
  | cons message rest ih => exact ih (readFileContents_same same message)

/-- A range within the file is served exactly where the next file opens. -/
theorem ClipFiles.serveRange_iff {index offset length : BitVec 64} (streamId : BitVec 32)
    {content : List UInt8} (found : files.fileList[index.toNat]? = some file)
    (aligned : file.Aligned) (regular : file.isDir = false) (disk : file.disk = some content)
    (unchanged : content.length = file.size.toNat) (small : file.size.toNat < 2 ^ 63)
    (short : length.toNat < 2 ^ 32) (within : offset.toNat ≤ file.size.toNat) :
    (files.serveFileContents (.range streamId index offset length)).1 =
        .ok (.fileContentsResponse 1 streamId ((content.drop offset.toNat).take length.toNat)) ↔
      NextOpens files.fileList index.toNat := by
  have total : (offset + length).toNat = offset.toNat + length.toNat := by
    rw [BitVec.toNat_add]
    omega
  have rest : (file.size - offset).toNat = file.size.toNat - offset.toNat := by
    rw [BitVec.toNat_sub]
    omega
  have read : (file.readExactAt (if file.size < offset + length then file.size - offset
      else length).toNat offset.toNat).1 = .ok ((content.drop offset.toNat).take length.toNat) := by
    by_cases tail : file.size < offset + length
    · rw [BitVec.lt_def, total] at tail
      rw [if_pos (by rw [BitVec.lt_def, total]; exact tail), rest,
        LocalFile.readExactAt_ok aligned regular disk (by omega)]
      rw [List.take_of_length_le (by rw [List.length_drop]; omega),
        List.take_of_length_le (by rw [List.length_drop]; omega)]
    · rw [if_neg tail, LocalFile.readExactAt_ok aligned regular disk]
      rw [BitVec.lt_def, total] at tail
      omega
  have inside : ¬ file.size < offset := by
    rw [BitVec.lt_def]
    omega
  simp only [serveFileContents, found, if_neg inside, read]
  rw [respond_ok_iff]
  unfold NextOpens
  rw [List.drop_set_of_lt (Nat.lt_succ_self _)]

/-- A file that no request has touched is closed. -/
def LocalFile.Fresh (file : LocalFile) : Prop := file.handle = none ∧ file.offset = 0

instance (file : LocalFile) : Decidable file.Fresh := inferInstanceAs (Decidable (_ ∧ _))

/-- After any requests, the request for a range is decoded into this range and answered with its
bytes exactly when no field of it has its sign bit set and the next file opens. -/
theorem remote_read_exact_iff {start : ClipFiles} (fresh : ∀ file ∈ start.fileList, file.Fresh)
    (messages : List FileContentsMessage) {content : List UInt8} (streamId : BitVec 32)
    (index offset : BitVec 64) (size : BitVec 32)
    (found : start.fileList[index.toNat]? = some file) (regular : file.isDir = false)
    (disk : file.disk = some content) (unchanged : content.length = file.size.toNat)
    (small : file.size.toNat < 2 ^ 63) (place : index.toNat < 2 ^ 63)
    (within : offset.toNat ≤ file.size.toNat) :
    (decodeRequest (readNode streamId index offset size) =
        .ok (.range streamId index offset (size.setWidth 64)) ∧
      ((start.serveAll messages).readFileContents
          (readNode streamId index offset size)).1.getLast? =
        some (.ok (.fileContentsResponse 1 streamId
          ((content.drop offset.toNat).take size.toNat)))) ↔
      index.toNat < 2 ^ 31 ∧ offset.toNat % 2 ^ 32 < 2 ^ 31 ∧ size.toNat < 2 ^ 31 ∧
        NextOpens (start.serveAll messages).fileList index.toNat := by
  have positive (word : BitVec 64) (bound : word.toNat < 2 ^ 63) : word.msb = false := by
    rw [BitVec.msb_eq_false_iff_two_mul_lt]
    omega
  have decoded : decodeRequest (readNode streamId index offset size) =
      .ok (.range streamId index offset (size.setWidth 64)) ↔
        index.toNat < 2 ^ 31 ∧ offset.toNat % 2 ^ 32 < 2 ^ 31 ∧ size.toNat < 2 ^ 31 := by
    rw [← signExtend_truncate_eq_iff (positive index place),
      ← halves_eq_iff (positive offset (by omega)), ← signExtend_eq_setWidth_iff]
    simp [decodeRequest, readNode]
  have same : List.Forall₂ SameFile start.fileList (start.serveAll messages).fileList := by
    apply ClipFiles.serveAll_same
    rw [List.forall₂_same]
    intro file member
    obtain ⟨closed, unread⟩ := fresh file member
    exact ⟨rfl, rfl, rfl, by rw [LocalFile.Aligned, closed, unread]; rfl⟩
  obtain ⟨inside, here⟩ := List.getElem?_eq_some_iff.mp found
  have reached : index.toNat < (start.serveAll messages).fileList.length := by
    rw [← same.length_eq]
    exact inside
  have entry := List.Forall₂.get same inside reached
  simp only [List.get_eq_getElem, here] at entry
  have width : (size.setWidth 64).toNat = size.toNat := by
    rw [BitVec.toNat_setWidth]
    omega
  rw [← entry.size] at unchanged small within
  have served := ClipFiles.serveRange_iff streamId (List.getElem?_eq_getElem reached)
    entry.aligned (entry.isDir.trans regular) (entry.disk.trans disk) unchanged small
    (by rw [width]; exact size.isLt) within
  rw [width] at served
  constructor
  · rintro ⟨ok, response⟩
    obtain ⟨indexed, placed, sized⟩ := decoded.mp ok
    refine ⟨indexed, placed, sized, served.mp ?_⟩
    simpa [ClipFiles.readFileContents, ok] using response
  · rintro ⟨indexed, placed, sized, opens⟩
    have ok := decoded.mpr ⟨indexed, placed, sized⟩
    refine ⟨ok, ?_⟩
    have response := served.mpr opens
    simpa [ClipFiles.readFileContents, ok] using response

def sampleFiles : ClipFiles where
  fileList := [⟨"a.txt", some [1, 2, 3, 4], none, 0, 4, false, true⟩,
    ⟨"b", none, none, 0, 0, true, false⟩,
    ⟨"c.txt", some [5], none, 0, 1, false, true⟩]
  firstFileIndex := some 0

theorem remote_read_exact_again :
    ((sampleFiles.serveAll [readNode 7 0 0 2]).readFileContents (readNode 8 0 1 9)).1.getLast? =
      some (.ok (.fileContentsResponse 1 8 [2, 3, 4])) := by
  have opens : NextOpens (sampleFiles.serveAll [readNode 7 0 0 2]).fileList 0 := by decide
  have disk : sampleFiles.fileList[0].disk = some [1, 2, 3, 4] := rfl
  exact ((remote_read_exact_iff (by decide) [readNode 7 0 0 2] 8 0 1 9 rfl rfl disk rfl
    (by decide) (by decide) (by decide)).mpr ⟨by decide, by decide, by decide, opens⟩).2

/-- One file with zeros only. -/
def zeroFiles (size : BitVec 64) : ClipFiles where
  fileList := [⟨"zeros", some (List.replicate size.toNat 0), none, 0, size, false, true⟩]
  firstFileIndex := some 0

/-- An index beyond the list is an error. -/
theorem readFileContents_beyond {size fileIdx offset length : BitVec 64} {streamId : BitVec 32}
    {message : FileContentsMessage} (first : fileIdx = 0)
    (decoded : decodeRequest message = .ok (.range streamId fileIdx offset length))
    (beyond : size < offset) :
    ((zeroFiles size).readFileContents message).1.getLast? = some (.error .invalidRequest) := by
  subst first
  simp [ClipFiles.readFileContents, decoded, ClipFiles.serveFileContents, zeroFiles, beyond]

/-- The offset at two gibibytes of a longer file is decoded into one beyond its end, and a length of
two gibibytes is not decoded into itself. -/
theorem remote_read_sign_lost :
    (decodeRequest (readNode 7 0 0x80000000 4096) = .ok (.range 7 0 0xFFFFFFFF80000000 4096) ∧
      ((zeroFiles 0x80001000).readFileContents (readNode 7 0 0x80000000 4096)).1.getLast? =
        some (.error .invalidRequest)) ∧
    decodeRequest (readNode 7 0 0 0x80000000) = .ok (.range 7 0 0 0xFFFFFFFF80000000) := by
  have decoded : decodeRequest (readNode 7 0 0x80000000 4096) =
      .ok (.range 7 0 0xFFFFFFFF80000000 4096) := by decide
  refine ⟨⟨decoded, ?_⟩, by decide⟩
  exact readFileContents_beyond rfl decoded (by decide)

end SubnetDesk.Clipboard
