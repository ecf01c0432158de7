import SubnetDesk.Proof.Clipboard.RemoteReads

namespace SubnetDesk.Clipboard

variable {file other : LocalFile} {files : ClipFiles}

/-- An entry as it is listed: a directory has no bytes, and a file has the bytes that its size
tells. -/
structure LocalFile.Listed (file : LocalFile) : Prop where
  fresh : file.Fresh
  small : file.size.toNat < 2 ^ 63
  directory : file.isDir = true → file.disk = none
  unchanged : ∀ content ∈ file.disk, content.length = file.size.toNat

/-- A regular file that can be opened and read. -/
def LocalFile.Readable (file : LocalFile) : Prop := file.isDir = false ∧ file.disk ≠ none

instance (file : LocalFile) : Decidable file.Readable := inferInstanceAs (Decidable (_ ∧ _))

/-- The response that the requested file alone determines. -/
def ClipFiles.expected (files : ClipFiles) : FileContentsRequest → Option ClipboardFile
  | .size streamId fileIdx =>
      (files.fileList[fileIdx.toNat]?).bind fun file =>
        if file.Readable then some (.fileContentsResponse 1 streamId (toLeBytes file.size)) else none
  | .range streamId fileIdx offset length =>
      (files.fileList[fileIdx.toNat]?).bind fun file =>
        if file.Readable ∧ offset.toNat ≤ file.size.toNat then
          some (.fileContentsResponse 1 streamId (((file.disk.getD []).take
            (min (offset.toNat + length.toNat) file.size.toNat)).drop offset.toNat))
        else none

def ClipFiles.recordedSize (files : ClipFiles) : FileContentsRequest → Nat
  | .size _ fileIdx => ((files.fileList[fileIdx.toNat]?).map (·.size.toNat)).getD 0
  | .range _ fileIdx _ _ => ((files.fileList[fileIdx.toNat]?).map (·.size.toNat)).getD 0

/-- A request does not panic, its buffer is within the file, and its last message is the response that
the file alone determines, or a failure. -/
def ClipFiles.AnswersExactly (overflowChecks : Bool) (files : ClipFiles)
    (message : FileContentsMessage) : Prop :=
  ∃ audit answer after,
    files.receive overflowChecks message = some (audit ++ [answer], after) ∧
    (∀ request, decodeRequest message = .ok request →
      ∃ bytes ≤ files.recordedSize request, files.buffer overflowChecks request = some bytes) ∧
    answer.toOption = (decodeRequest message).toOption.bind files.expected

/-- A range must not leave the word, and the file that follows must open, exactly for a size where
the file itself can be read. -/
def ClipFiles.Servable (files : ClipFiles) (message : FileContentsMessage) : Prop :=
  match decodeRequest message with
  | .error _ => True
  | .ok (.size _ fileIdx) => ∀ file ∈ files.fileList[fileIdx.toNat]?,
      (file.Readable ↔ NextOpens files.fileList fileIdx.toNat)
  | .ok (.range _ fileIdx offset length) => ∀ file ∈ files.fileList[fileIdx.toNat]?,
      offset.toNat ≤ file.size.toNat →
        offset.toNat + length.toNat < 2 ^ 64 ∧
          (file.Readable → NextOpens files.fileList fileIdx.toNat)

/-- The buffer of a range within the file is its rest, and there is none exactly where the end of the
range leaves the word. -/
theorem readBuffer_eq (overflowChecks : Bool) {size offset length : BitVec 64}
    (small : size.toNat < 2 ^ 63) (within : offset.toNat ≤ size.toNat) :
    readBuffer overflowChecks size offset length =
      if offset.toNat + length.toNat < 2 ^ 64 then
        some (min (offset.toNat + length.toNat) size.toNat - offset.toNat)
      else none := by
  have sum : (offset + length).toNat = (offset.toNat + length.toNat) % 2 ^ 64 :=
    BitVec.toNat_add offset length
  have rest : (size - offset).toNat = size.toNat - offset.toNat := by
    rw [BitVec.toNat_sub]
    omega
  have bound := length.isLt
  unfold readBuffer
  dsimp only
  by_cases fits : offset.toNat + length.toNat < 2 ^ 64
  · rw [if_neg (by omega), if_pos fits]
    rw [Nat.mod_eq_of_lt fits] at sum
    by_cases tail : size < offset + length
    · rw [if_pos tail, rest, if_pos (by omega)]
      rw [BitVec.lt_def, sum] at tail
      congr 1
      omega
    · rw [if_neg tail]
      rw [BitVec.lt_def, sum] at tail
      rw [if_pos (by omega)]
      congr 1
      omega
  · rw [if_neg fits]
    cases overflowChecks with
    | true => rw [if_pos ⟨rfl, Nat.le_of_not_lt fits⟩]
    | false =>
        have wrapped : ¬ size < offset + length := by
          rw [BitVec.lt_def, sum]
          omega
        rw [if_neg (by simp), if_neg wrapped, if_neg (by omega)]

theorem ClipFiles.receive_ok {overflowChecks : Bool} {message : FileContentsMessage}
    {received : List (Except CliprdrError ClipboardFile) × ClipFiles}
    (ok : files.receive overflowChecks message = some received) :
    received = files.readFileContents message := by
  unfold receive at ok
  split at ok
  next => exact (Option.some.inj ok).symm
  next request _ =>
    cases buffer : files.buffer overflowChecks request with
    | none => simp [buffer] at ok
    | some bytes => simpa [buffer] using ok.symm

/-- Requests that do not panic leave the files that a run of them leaves. -/
theorem ClipFiles.receiveAll_ok {overflowChecks : Bool} {messages : List FileContentsMessage}
    {after : ClipFiles} (ok : files.receiveAll overflowChecks messages = some after) :
    after = files.serveAll messages := by
  induction messages generalizing files with
  | nil => exact (Option.some.inj ok).symm
  | cons message rest ih =>
      rw [receiveAll] at ok
      split at ok
      next => cases ok
      next received answered =>
        rw [receive_ok answered] at ok
        exact ih ok

theorem LocalFile.readExactAt_unreadable (directory : file.isDir = true → file.disk = none)
    (unreadable : ¬ file.Readable) (length offset : Nat) :
    ∃ error, (file.readExactAt length offset).1 = .error error := by
  have gone : file.disk = none := by
    cases kind : file.isDir with
    | true => exact directory kind
    | false => exact not_not.mp fun here => unreadable ⟨kind, here⟩
  unfold readExactAt
  cases loaded : file.loadHandle with
  | error error => exact ⟨error, rfl⟩
  | ok next =>
      have same : next.disk = none := by
        unfold loadHandle at loaded
        split at loaded
        next =>
          rw [gone] at loaded
          cases loaded
        next =>
          cases loaded
          exact gone
      simp [same]

/-- The answer carries the response exactly where the next file opens, and is a failure otherwise. -/
theorem ClipFiles.respond_toOption (index : Nat) (response : ClipboardFile) :
    (files.respond index response).1.toOption =
      if NextOpens files.fileList index then some response else none := by
  split
  next opens =>
    rw [(respond_ok_iff index response).mpr opens]
    rfl
  next closed =>
    rw [← respond_ok_iff index response] at closed
    unfold respond at closed ⊢
    split
    next => rfl
    next reloaded loaded =>
      rw [loaded] at closed
      exact absurd rfl closed

/-- The audit message, if there is one, stands before the one answer. -/
theorem ClipFiles.readFileContents_ok {message : FileContentsMessage}
    {request : FileContentsRequest} (decoded : decodeRequest message = .ok request) :
    files.readFileContents message =
      ((files.getFilesForAudit request).toList.map .ok ++ [(files.serveFileContents request).1],
        (files.serveFileContents request).2) := by
  simp only [readFileContents, decoded]

/-- An entry that is still the listed one. -/
structure LocalFile.Stands (file : LocalFile) : Prop where
  aligned : file.Aligned
  small : file.size.toNat < 2 ^ 63
  directory : file.isDir = true → file.disk = none
  unchanged : ∀ content ∈ file.disk, content.length = file.size.toNat

theorem LocalFile.Listed.stands (listed : file.Listed) (same : SameFile file other) :
    other.Stands where
  aligned := same.aligned
  small := by
    rw [same.size]
    exact listed.small
  directory := by
    rw [same.isDir, same.disk]
    exact listed.directory
  unchanged := by
    rw [same.size, same.disk]
    exact listed.unchanged

theorem nextOpens_set (listed : List LocalFile) (index : Nat) :
    NextOpens (listed.set index file) index ↔ NextOpens listed index := by
  unfold NextOpens
  rw [List.drop_set_of_lt (Nat.lt_succ_self _)]

/-- The answer to a range within a file. -/
theorem ClipFiles.serveRange_toOption {index offset length : BitVec 64} (streamId : BitVec 32)
    (found : files.fileList[index.toNat]? = some file) (stands : file.Stands)
    (within : offset.toNat ≤ file.size.toNat)
    (fits : offset.toNat + length.toNat < 2 ^ 64) :
    (files.serveFileContents (.range streamId index offset length)).1.toOption =
      if NextOpens files.fileList index.toNat then
        files.expected (.range streamId index offset length)
      else none := by
  have small := stands.small
  have inside : ¬ file.size < offset := by
    rw [BitVec.lt_def]
    omega
  have size : (if file.size < offset + length then file.size - offset else length).toNat =
      min (offset.toNat + length.toNat) file.size.toNat - offset.toNat := by
    have sum : (offset + length).toNat = offset.toNat + length.toNat := by
      rw [BitVec.toNat_add, Nat.mod_eq_of_lt fits]
    split
    next tail =>
      rw [BitVec.lt_def, sum] at tail
      rw [BitVec.toNat_sub]
      omega
    next tail =>
      rw [BitVec.lt_def, sum] at tail
      omega
  simp only [serveFileContents, found, if_neg inside, size, expected, Option.bind_some]
  by_cases readable : file.Readable
  · obtain ⟨content, disk⟩ := Option.ne_none_iff_exists'.mp readable.2
    have whole := stands.unchanged content disk
    rw [LocalFile.readExactAt_ok stands.aligned readable.1 disk (by omega)]
    have both : file.Readable ∧ offset.toNat ≤ file.size.toNat := ⟨readable, within⟩
    simp only [respond_toOption, nextOpens_set, if_pos both, disk, Option.getD_some,
      List.drop_take]
  · obtain ⟨error, failed⟩ := LocalFile.readExactAt_unreadable stands.directory readable
      (min (offset.toNat + length.toNat) file.size.toNat - offset.toNat) offset.toNat
    have never : ¬ (file.Readable ∧ offset.toNat ≤ file.size.toNat) := fun both => readable both.1
    rw [failed, if_neg never, ite_self]
    rfl

theorem ClipFiles.serveSize_toOption {index : BitVec 64} (streamId : BitVec 32)
    (found : files.fileList[index.toNat]? = some file) :
    (files.serveFileContents (.size streamId index)).1.toOption =
      if NextOpens files.fileList index.toNat then
        some (.fileContentsResponse 1 streamId (toLeBytes file.size))
      else none := by
  simp only [serveFileContents, found, respond_toOption]

/-- A request is answered exactly where it does not panic, its buffer is within the file and its answer
is the one that the file determines. -/
theorem ClipFiles.answersExactly_iff {overflowChecks : Bool} {message : FileContentsMessage}
    {request : FileContentsRequest} (decoded : decodeRequest message = .ok request) :
    files.AnswersExactly overflowChecks message ↔
      (∃ bytes ≤ files.recordedSize request, files.buffer overflowChecks request = some bytes) ∧
        (files.serveFileContents request).1.toOption = files.expected request := by
  have whole := files.readFileContents_ok decoded
  constructor
  · rintro ⟨audit, answer, after, received, bounded, exact_⟩
    obtain ⟨bytes, small, buffer⟩ := bounded request decoded
    refine ⟨⟨bytes, small, buffer⟩, ?_⟩
    simp only [receive, decoded, buffer, Option.map_some, whole, Option.some.injEq,
      Prod.mk.injEq] at received
    have last := List.append_inj_right' received.1 rfl
    rw [List.singleton_inj.mp last, exact_, decoded]
    rfl
  · rintro ⟨⟨bytes, small, buffer⟩, exact_⟩
    refine ⟨(files.getFilesForAudit request).toList.map .ok, (files.serveFileContents request).1,
      (files.serveFileContents request).2, ?_, ?_, ?_⟩
    · simp only [receive, decoded, buffer, Option.map_some, whole]
    · intro other same
      cases decoded.symm.trans same
      exact ⟨bytes, small, buffer⟩
    · rw [decoded]
      exact exact_

/-- The condition under which a request is answered exactly, for entries that still stand. -/
theorem ClipFiles.answersExactly_iff_servable (overflowChecks : Bool)
    (stands : ∀ file ∈ files.fileList, file.Stands) (message : FileContentsMessage) :
    files.AnswersExactly overflowChecks message ↔ files.Servable message := by
  unfold Servable
  split
  next error decoded =>
    refine iff_of_true ⟨[], .error error, files, ?_, ?_, ?_⟩ trivial
    · simp only [receive, readFileContents, decoded, List.nil_append]
    · intro request same
      cases decoded.symm.trans same
    · rw [decoded]
      rfl
  next streamId index decoded =>
    rw [answersExactly_iff decoded]
    simp only [recordedSize, buffer, expected]
    cases found : files.fileList[index.toNat]? with
    | none => simp [serveFileContents, found, Except.toOption]
    | some file =>
        rw [serveSize_toOption streamId found]
        simp only [Option.mem_def, Option.some.injEq, forall_eq', Option.bind_some]
        have size : ∃ bytes ≤ file.size.toNat, some 0 = some bytes := ⟨0, Nat.zero_le _, rfl⟩
        by_cases opens : NextOpens files.fileList index.toNat
        · by_cases readable : file.Readable
          · simp [opens, readable]
          · simp [opens, readable]
        · by_cases readable : file.Readable
          · simp [opens, readable]
          · simp [opens, readable]
  next streamId index offset length decoded =>
    rw [answersExactly_iff decoded]
    cases found : files.fileList[index.toNat]? with
    | none => simp [serveFileContents, found, Except.toOption, recordedSize, buffer, expected]
    | some file =>
        have stand := stands file (List.mem_of_getElem? found)
        simp only [Option.mem_def, Option.some.injEq, forall_eq']
        by_cases within : offset.toNat ≤ file.size.toNat
        · have inside : ¬ file.size < offset := by
            rw [BitVec.lt_def]
            omega
          simp only [recordedSize, buffer, found, if_neg inside, Option.map_some, Option.getD_some,
            readBuffer_eq overflowChecks stand.small within, forall_const, within]
          by_cases fits : offset.toNat + length.toNat < 2 ^ 64
          · have small : min (offset.toNat + length.toNat) file.size.toNat - offset.toNat ≤
                file.size.toNat := by omega
            rw [serveRange_toOption streamId found stand within fits, if_pos fits]
            simp only [fits, true_and]
            by_cases readable : file.Readable
            · by_cases opens : NextOpens files.fileList index.toNat
              · simp [opens]
              · simp [opens, readable, expected, found, within]
            · simp [readable, expected, found]
          · simp only [fits, if_false, false_and, iff_false]
            rintro ⟨⟨bytes, -, panicked⟩, -⟩
            cases panicked
        · have beyond : file.size < offset := by
            rw [BitVec.lt_def]
            omega
          simp [recordedSize, buffer, found, beyond, within, serveFileContents, expected,
            Except.toOption]

theorem sampleFiles_listed : ∀ file ∈ sampleFiles.fileList, file.Listed := by
  intro file member
  simp only [sampleFiles, List.mem_cons, List.not_mem_nil, or_false] at member
  obtain rfl | rfl | rfl := member
  · exact ⟨by decide, by decide, nofun, by simp⟩
  · exact ⟨by decide, by decide, fun _ => rfl, by simp⟩
  · exact ⟨by decide, by decide, nofun, by simp⟩

/-- A range at the second byte whose length is negative. -/
def negativeLength : FileContentsMessage := ⟨7, 0, 2, 1, 0, -1⟩

/-- The first file can be read, and the file behind the directory is gone. -/
def brokenNeighbour : ClipFiles where
  fileList := [⟨"a.txt", some [1, 2, 3, 4], none, 0, 4, false, true⟩,
    ⟨"b", none, none, 0, 0, true, false⟩,
    ⟨"c.txt", none, none, 0, 1, false, false⟩]
  firstFileIndex := some 0

end SubnetDesk.Clipboard
