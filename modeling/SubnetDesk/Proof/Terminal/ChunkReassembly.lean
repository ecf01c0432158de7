import SubnetDesk.Construction.Terminal.Output

namespace SubnetDesk.Terminal
open Utf8

theorem scanSplitPoint_range (buf : Bytes) (start i : Nat) :
    scanSplitPoint buf start i = buf.length ∨
      (start ≤ scanSplitPoint buf start i ∧ scanSplitPoint buf start i < i) := by
  induction i with
  | zero => exact .inl rfl
  | succ i ih =>
      rw [scanSplitPoint]
      split
      next => exact .inl rfl
      next atStart =>
        dsimp only
        split
        next => exact .inl rfl
        next =>
          split
          next =>
            obtain whole | ⟨low, high⟩ := ih
            · exact .inl whole
            · exact .inr ⟨low, by omega⟩
          next =>
            split
            next => exact .inl rfl
            next =>
              split
              next => exact .inl rfl
              next => exact .inr ⟨by omega, by omega⟩

/-- At most three bytes stand behind the split point. -/
theorem findUtf8SplitPoint_near (buf : Bytes) : buf.length - findUtf8SplitPoint buf ≤ 3 := by
  unfold findUtf8SplitPoint
  split
  next empty => simp [empty]
  next =>
    have range := scanSplitPoint_range buf (buf.length - 3) buf.length
    omega

theorem continuation_not_ascii (byte : UInt8) (continues : Continuation byte) :
    byte &&& 0x80 ≠ 0 := fun ascii => (ascii_not_lead byte ascii).1 continues

theorem lead_seqLen {byte : UInt8} {length : Nat} (lead : Lead byte length) (long : 1 < length) :
    byte &&& 0x80 ≠ 0 ∧ seqLen byte = some length := by
  refine ⟨fun ascii => by have := lead.length_of_ascii ascii; omega, ?_⟩
  have three : ∀ byte : UInt8, byte &&& 0xF0 = 0xE0 → byte &&& 0xE0 ≠ 0xC0 :=
    forall_byte (by decide +kernel)
  have four : ∀ byte : UInt8, byte &&& 0xF8 = 0xF0 →
      byte &&& 0xE0 ≠ 0xC0 ∧ byte &&& 0xF0 ≠ 0xE0 := forall_byte (by decide +kernel)
  cases lead with
  | one _ => omega
  | two holds => simp [seqLen, holds]
  | three holds => simp [seqLen, holds, three byte holds]
  | four holds => simp [seqLen, holds, four byte holds]

/-- The scan passes over the continuation bytes behind a lead byte. -/
theorem scanSplitPoint_tail (front tail : Bytes) (lead : UInt8) (start passed : Nat)
    (low : start ≤ front.length + 1) (within : passed ≤ tail.length)
    (continues : ∀ byte ∈ tail, Continuation byte) :
    scanSplitPoint (front ++ lead :: tail) start (front.length + 1 + passed) =
      scanSplitPoint (front ++ lead :: tail) start (front.length + 1) := by
  induction passed with
  | zero => rfl
  | succ passed ih =>
      have read : (front ++ lead :: tail).getD (front.length + 1 + passed) 0 =
          tail.getD passed 0 := by
        rw [List.getD_eq_getElem?_getD, List.getElem?_append_right (by omega)]
        rw [show front.length + 1 + passed - front.length = passed + 1 by omega]
        rfl
      have inTail : tail.getD passed 0 ∈ tail := by
        rw [List.getD_eq_getElem?_getD, List.getElem?_eq_getElem (by omega)]
        exact List.getElem_mem _
      have byteContinues := continues _ inTail
      have notAscii := continuation_not_ascii _ byteContinues
      rw [← Nat.add_assoc, scanSplitPoint, if_neg (by omega)]
      simp only [read]
      rw [if_neg notAscii, if_pos (show _ &&& _ = _ from byteContinues)]
      exact ih (by omega)

theorem scanSplitPoint_lead (front tail : Bytes) (lead : UInt8) (start length : Nat)
    (low : start ≤ front.length) (leads : Lead lead length) (long : 1 < length) :
    scanSplitPoint (front ++ lead :: tail) start (front.length + 1) =
      if length ≤ tail.length + 1 then front.length + tail.length + 1 else front.length := by
  have read : (front ++ lead :: tail).getD front.length 0 = lead := by
    simp [List.getD_eq_getElem?_getD]
  obtain ⟨notAscii, known⟩ := lead_seqLen leads long
  have notContinued : ¬ lead &&& 0xC0 = 0x80 := lead_not_continuation leads
  rw [scanSplitPoint, if_neg (by omega)]
  simp only [read]
  rw [if_neg notAscii, if_neg notContinued, known]
  have total : (front ++ lead :: tail).length = front.length + tail.length + 1 := by
    simp [Nat.add_assoc]
  have reach : front.length + tail.length + 1 - front.length = tail.length + 1 := by omega
  simp only [total, reach]

/-- A buffer that ends with a whole character is not split. -/
theorem findUtf8SplitPoint_whole (front : Bytes) (char : Char) :
    findUtf8SplitPoint (front ++ String.utf8EncodeChar char) =
      (front ++ String.utf8EncodeChar char).length := by
  obtain ⟨lead, tail, eq, leads, short, continues⟩ := encodeChar_shape char
  have total : (front ++ lead :: tail).length = front.length + 1 + tail.length := by
    simp only [List.length_append, List.length_cons]
    omega
  rw [eq, findUtf8SplitPoint, if_neg (by simp)]
  rw [total, scanSplitPoint_tail front tail lead _ _ (by omega) (Nat.le_refl _) continues]
  by_cases full : tail.length = 3
  · rw [scanSplitPoint, if_pos (by omega), total]
  · by_cases single : tail.length = 0
    · obtain rfl := List.length_eq_zero_iff.mp single
      cases leads with
      | one ascii =>
          rw [scanSplitPoint, if_neg (by simp)]
          simp [List.getD_eq_getElem?_getD, ascii]
    · rw [scanSplitPoint_lead front tail lead _ _ (by omega) leads (by omega)]
      rw [if_pos (Nat.le_refl _)]
      omega

/-- A buffer that ends inside a character is split before that character. -/
theorem findUtf8SplitPoint_part (front : Bytes) {char : Char} {part rest : Bytes}
    (eq : String.utf8EncodeChar char = part ++ rest) (filled : part ≠ []) (cut : rest ≠ []) :
    findUtf8SplitPoint (front ++ part) = front.length := by
  obtain ⟨lead, tail, rfl, leads, short, continues, -⟩ := part_shape eq filled
  have missing := List.length_pos_iff.mpr cut
  have total : (front ++ lead :: tail).length = front.length + 1 + tail.length := by
    simp only [List.length_append, List.length_cons]
    omega
  rw [findUtf8SplitPoint, if_neg (by simp)]
  rw [total, scanSplitPoint_tail front tail lead _ _ (by omega) (Nat.le_refl _) continues]
  rw [scanSplitPoint_lead front tail lead _ _ (by omega) leads (by omega)]
  rw [if_neg (by omega)]

/-- A whole text is not split. -/
theorem findUtf8SplitPoint_encode (chars : List Char) :
    findUtf8SplitPoint (encode chars) = (encode chars).length := by
  obtain rfl | ⟨front, char, rfl⟩ := List.eq_nil_or_concat' chars
  · rfl
  · simpa [encode_append] using findUtf8SplitPoint_whole (encode front) char

/-- The start of a valid stream is cut at its last whole character. -/
theorem findUtf8SplitPoint_valid {buf later : Bytes} (valid : Valid (buf ++ later)) :
    Valid (buf.take (findUtf8SplitPoint buf)) ∧
      Valid (buf.drop (findUtf8SplitPoint buf) ++ later) := by
  obtain ⟨chars, eq⟩ := valid
  obtain ⟨left, right, rfl, rfl⟩ |
    ⟨left, char, right, part, rest, rfl, rfl, charEq, filled, cut⟩ := cut_encode eq.symm
  · rw [findUtf8SplitPoint_encode, List.take_length, List.drop_length, List.nil_append]
    exact ⟨valid_encode left, valid_encode right⟩
  · rw [findUtf8SplitPoint_part _ charEq filled cut, List.take_left, List.drop_left]
    refine ⟨valid_encode left, char :: right, ?_⟩
    rw [encode_cons, charEq, List.append_assoc]

/-- A push loses no byte. -/
theorem Utf8ChunkAccumulator.pushChunk_bytes (chunks : Utf8ChunkAccumulator) (data : Bytes) :
    (chunks.pushChunk data).2.getD [] ++ (chunks.pushChunk data).1.remainder =
      chunks.remainder ++ data := by
  unfold pushChunk
  split
  next empty => simp [empty]
  next =>
    dsimp only
    split
    next => simp
    next =>
      split
      next => simp
      next =>
        have parts := List.take_append_drop (findUtf8SplitPoint (chunks.remainder ++ data))
          (chunks.remainder ++ data)
        split
        next noChunk =>
          rw [noChunk] at parts
          exact parts
        next => exact parts

/-- A push leaves three bytes at most. -/
theorem Utf8ChunkAccumulator.pushChunk_short (chunks : Utf8ChunkAccumulator) (data : Bytes)
    (short : chunks.remainder.length ≤ 3) : (chunks.pushChunk data).1.remainder.length ≤ 3 := by
  unfold pushChunk
  split
  next => exact short
  next =>
    dsimp only
    split
    next => simp
    next =>
      split
      next => simp
      next =>
        rw [List.length_drop]
        exact findUtf8SplitPoint_near _

/-- A chunk of a valid stream is valid, and so is what stands behind it. -/
theorem Utf8ChunkAccumulator.pushChunk_valid {chunks : Utf8ChunkAccumulator} {data later : Bytes}
    (valid : Valid (chunks.remainder ++ (data ++ later))) :
    (∀ chunk ∈ (chunks.pushChunk data).2, Valid chunk) ∧
      Valid ((chunks.pushChunk data).1.remainder ++ later) := by
  have combined : Valid ((chunks.remainder ++ data) ++ later) := by
    rwa [List.append_assoc]
  obtain ⟨before, behind⟩ := findUtf8SplitPoint_valid combined
  unfold pushChunk
  split
  next empty =>
    subst empty
    exact ⟨by simp, valid⟩
  next =>
    dsimp only
    split
    next whole =>
      rw [whole, List.take_length] at before
      rw [whole, List.drop_length] at behind
      exact ⟨by simpa using before, by simpa using behind⟩
    next =>
      split
      next refused => exact absurd before refused.2.2
      next =>
        refine ⟨?_, behind⟩
        split
        next => simp
        next => simpa using before

/-- The chunks are the input. -/
theorem chunker_run_bytes (chunks : Utf8ChunkAccumulator) (reads : List Bytes) :
    (chunker.run chunks reads).2.flatten ++ (chunker.run chunks reads).1.remainder =
      chunks.remainder ++ reads.flatten := by
  induction reads generalizing chunks with
  | nil => simp [Machine.run]
  | cons data rest ih =>
      have step := chunks.pushChunk_bytes data
      have tail := ih (chunks.pushChunk data).1
      have emitted : (chunks.pushChunk data).2.toList.flatten =
          (chunks.pushChunk data).2.getD [] := by
        cases (chunks.pushChunk data).2 <;> simp
      simp only [Machine.run, chunker, List.flatten_append, List.append_assoc,
        List.flatten_cons] at tail ⊢
      rw [tail, emitted, ← List.append_assoc, step, List.append_assoc]

/-- A run leaves three bytes at most. -/
theorem chunker_run_short (chunks : Utf8ChunkAccumulator) (reads : List Bytes)
    (short : chunks.remainder.length ≤ 3) :
    (chunker.run chunks reads).1.remainder.length ≤ 3 :=
  chunker.run_invariant (fun _ _ => True) (fun state _ => state.remainder.length ≤ 3)
    (fun state _ data _ holds => state.pushChunk_short data holds) chunks [] reads short
    (chunker.guarded_true chunks reads)

/-- The chunks of text are text. -/
theorem chunker_run_valid (chunks : Utf8ChunkAccumulator) (reads : List Bytes) (later : Bytes)
    (valid : Valid (chunks.remainder ++ (reads.flatten ++ later))) :
    (∀ chunk ∈ (chunker.run chunks reads).2, Valid chunk) ∧
      Valid ((chunker.run chunks reads).1.remainder ++ later) := by
  induction reads generalizing chunks with
  | nil => exact ⟨by simp [Machine.run], by simpa [Machine.run] using valid⟩
  | cons data rest ih =>
      rw [List.flatten_cons, List.append_assoc] at valid
      obtain ⟨chunkValid, restValid⟩ := chunks.pushChunk_valid valid
      obtain ⟨tailValid, leftValid⟩ := ih (chunks.pushChunk data).1 restValid
      refine ⟨?_, leftValid⟩
      intro chunk member
      rcases List.mem_append.mp member with here | later_
      · exact chunkValid chunk (by simpa [chunker] using here)
      · exact tailValid chunk later_

theorem Utf8ChunkAccumulator.finish_toList (chunks : Utf8ChunkAccumulator) :
    chunks.finish.2.toList.flatten = chunks.remainder := by
  unfold finish
  split
  next empty => simp [empty]
  next => simp

/-- Every cut of a stream into reads is put together again, on character boundaries. -/
theorem chunker_reassembles (reads : List Bytes) :
    let run := chunker.run {} reads
    let chunks := run.2 ++ run.1.finish.2.toList
    chunks.flatten = reads.flatten ∧ run.1.remainder.length ≤ 3 ∧
      (Valid reads.flatten → ∀ chunk ∈ chunks, Valid chunk) := by
  dsimp only
  refine ⟨?_, chunker_run_short {} reads (by simp), fun valid => ?_⟩
  · rw [List.flatten_append, Utf8ChunkAccumulator.finish_toList, chunker_run_bytes]
    rfl
  · obtain ⟨chunksValid, leftValid⟩ :=
      chunker_run_valid {} reads [] (by simpa using valid)
    intro chunk member
    rcases List.mem_append.mp member with pushed | finished
    · exact chunksValid chunk pushed
    · unfold Utf8ChunkAccumulator.finish at finished
      split at finished
      next => simp at finished
      next =>
        simp only [Option.toList_some, List.mem_singleton] at finished
        rw [finished]
        simpa using leftValid

example : chunker.run {} [[0xE4], [0xB8], [0xAD]] = ({}, [[0xE4, 0xB8, 0xAD]]) := by
  decide +kernel

end SubnetDesk.Terminal
