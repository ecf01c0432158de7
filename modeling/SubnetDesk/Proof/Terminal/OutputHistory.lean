import SubnetDesk.Construction.Terminal.Output
import SubnetDesk.Foundation.Lines

namespace SubnetDesk.Terminal
open Utf8 Lines

def byteCount (lines : List Bytes) : Nat := (lines.map List.length).sum

theorem byteCount_append (first second : List Bytes) :
    byteCount (first ++ second) = byteCount first + byteCount second := by
  simp [byteCount]

theorem length_flatten_eq (lines : List Bytes) : lines.flatten.length = byteCount lines :=
  List.length_flatten

/-- A buffer holds complete lines and one open line behind them. -/
structure OutputBuffer.Lined (buffer : OutputBuffer) (full : List Bytes) (part : Bytes) : Prop where
  lines : buffer.lines = full ++ openLine part
  ended : ∀ line ∈ full, Complete newline line
  clean : newline ∉ part
  totalSize : buffer.totalSize = byteCount buffer.lines
  incomplete : buffer.lastLineIncomplete = decide (part ≠ [])

/-- The limits of the buffer. -/
def OutputBuffer.Within (buffer : OutputBuffer) : Prop :=
  buffer.totalSize ≤ maxOutputBufferSize ∧ buffer.lines.length ≤ maxBufferLines

instance (buffer : OutputBuffer) : Decidable buffer.Within :=
  inferInstanceAs (Decidable (_ ∧ _))

/-- A new buffer has no lines. -/
theorem lined_new : OutputBuffer.Lined {} [] [] :=
  ⟨rfl, by simp, by simp, rfl, rfl⟩

/-- Pieces are stored line by line. -/
theorem OutputBuffer.storePieces_eq (initial : List Bytes) (last : Bytes) (ends : Bool)
    (agrees : last ≠ [] → ends = false) (buffer : OutputBuffer) :
    buffer.storePieces ends (initial ++ [last]) =
      { lines := buffer.lines ++ initial.map (· ++ [newline]) ++ openLine last
        totalSize := buffer.totalSize + byteCount (initial.map (· ++ [newline])) +
          byteCount (openLine last)
        lastLineIncomplete := buffer.lastLineIncomplete || decide (last ≠ []) } := by
  induction initial generalizing buffer with
  | nil =>
      by_cases empty : last = []
      · simp [storePieces, empty, openLine, byteCount]
      · simp [storePieces, empty, openLine, byteCount, agrees empty]
  | cons line rest ih =>
      rw [List.cons_append, storePieces]
      simp only [List.append_eq_nil_iff, List.cons_ne_nil, and_false, false_and, if_false, ne_eq,
        not_false_eq_true, or_true, true_or, if_true]
      rw [ih]
      simp [byteCount, Nat.add_assoc]

/-- Trimming keeps the newest lines that fit. -/
theorem OutputBuffer.trim_spec (incomplete : Bool) (lines : List Bytes) :
    ∃ kept, kept <:+ lines ∧ byteCount kept ≤ maxOutputBufferSize ∧
      kept.length ≤ maxBufferLines ∧
      (byteCount lines ≤ maxOutputBufferSize → lines.length ≤ maxBufferLines → kept = lines) ∧
      OutputBuffer.trim (byteCount lines) incomplete lines =
        ⟨kept, byteCount kept, if kept = [] ∧ lines ≠ [] then false else incomplete⟩ := by
  induction lines generalizing incomplete with
  | nil => exact ⟨[], by simp, by simp [byteCount], by simp, by simp, by simp [trim, byteCount]⟩
  | cons removed rest ih =>
      have total : byteCount (removed :: rest) = removed.length + byteCount rest := by
        simp [byteCount]
      by_cases over_ : maxOutputBufferSize < byteCount (removed :: rest) ∨
          maxBufferLines < rest.length + 1
      · obtain ⟨kept, suffix, small, short, -, eq⟩ := ih (if rest = [] then false else incomplete)
        refine ⟨kept, suffix.trans (List.suffix_cons removed rest), small, short, ?_, ?_⟩
        · intro fits few
          rw [List.length_cons] at few
          omega
        · rw [trim, if_pos over_, if_neg (by omega), show byteCount (removed :: rest) -
            removed.length = byteCount rest by omega, eq]
          by_cases noRest : rest = []
          · subst noRest
            obtain rfl := List.suffix_nil.mp suffix
            simp
          · simp [noRest]
      · refine ⟨removed :: rest, List.suffix_refl _, by omega, ?_, fun _ _ => rfl, ?_⟩
        · rw [List.length_cons]
          omega
        · rw [trim, if_neg over_]
          simp

/-- A trim leaves the last line or nothing. -/
theorem suffix_openLine {kept full : List Bytes} {part : Bytes}
    (suffix : kept <:+ full ++ openLine part) :
    (∃ fewer, fewer <:+ full ∧ kept = fewer ++ openLine part) ∨ kept = [] := by
  unfold openLine at suffix ⊢
  split
  next empty =>
    rw [if_pos empty, List.append_nil] at suffix
    exact .inl ⟨kept, suffix, by simp⟩
  next filled =>
    rw [if_neg filled] at suffix
    rcases List.suffix_concat_iff.mp suffix with empty | ⟨fewer, rfl, within⟩
    · exact .inr empty
    · exact .inl ⟨fewer, within, rfl⟩

/-- Trimming a lined buffer leaves a lined buffer within the limits. -/
theorem OutputBuffer.Lined.trim {buffer : OutputBuffer} {full : List Bytes} {part : Bytes}
    (lined : buffer.Lined full part) :
    ∃ fewer less, (OutputBuffer.trim buffer.totalSize buffer.lastLineIncomplete
        buffer.lines).Lined fewer less ∧
      (OutputBuffer.trim buffer.totalSize buffer.lastLineIncomplete buffer.lines).Within ∧
      (OutputBuffer.trim buffer.totalSize buffer.lastLineIncomplete buffer.lines).lines <:+
        buffer.lines := by
  obtain ⟨kept, suffix, small, short, -, eq⟩ :=
    OutputBuffer.trim_spec buffer.lastLineIncomplete buffer.lines
  rw [lined.totalSize, eq]
  have split := suffix
  rw [lined.lines] at split
  rcases suffix_openLine split with ⟨fewer, within, rfl⟩ | rfl
  · refine ⟨fewer, part, ⟨rfl, ?_, lined.clean, rfl, ?_⟩, ⟨small, short⟩, suffix⟩
    · exact fun line member => lined.ended line (within.subset member)
    · by_cases gone : fewer ++ openLine part = [] ∧ buffer.lines ≠ []
      · rw [if_pos gone, openLine_eq_nil.mp (List.append_eq_nil_iff.mp gone.1).2]
        rfl
      · rw [if_neg gone]
        exact lined.incomplete
  · refine ⟨[], [], ⟨rfl, by simp, by simp, rfl, ?_⟩, ⟨small, short⟩, suffix⟩
    by_cases none_ : buffer.lines = []
    · have noPart : part = [] := by
        rw [lined.lines, List.append_eq_nil_iff] at none_
        exact openLine_eq_nil.mp none_.2
      simp [none_, lined.incomplete, noPart]
    · simp [none_]

/-- Data behind complete lines is stored as its own lines. -/
theorem OutputBuffer.Lined.storePieces {buffer : OutputBuffer} {full : List Bytes}
    (lined : buffer.Lined full []) (data : Bytes) :
    (buffer.storePieces (data.getLast? = some newline) (data.splitOn newline)).Lined
      (full ++ complete newline data) (rest newline data) := by
  rw [splitOn_eq newline data, OutputBuffer.storePieces_eq]
  · refine ⟨?_, ?_, rest_notMem newline data, ?_, ?_⟩
    · rw [lined.lines]
      simp [openLine, complete]
    · intro line member
      rcases List.mem_append.mp member with old | new
      · exact lined.ended line old
      · exact complete_mem newline data line new
    · dsimp only
      rw [lined.totalSize, byteCount_append, byteCount_append]
    · simp [lined.incomplete]
  · intro filled
    rw [decide_eq_false_iff_not, getLast?_eq_separator]
    exact fun ends => filled ends.1

/-- The open line takes more bytes. -/
theorem OutputBuffer.Lined.extendLast {buffer : OutputBuffer} {full : List Bytes} {part : Bytes}
    (lined : buffer.Lined full part) (filled : part ≠ []) (more : Bytes) :
    (buffer.extendLast more).lines = full ++ [part ++ more] ∧
      (buffer.extendLast more).totalSize = byteCount (full ++ [part ++ more]) ∧
      (buffer.extendLast more).lastLineIncomplete = true := by
  have lines : buffer.lines = full ++ [part] := by
    rw [lined.lines, openLine, if_neg filled]
  refine ⟨?_, ?_, ?_⟩
  · simp [OutputBuffer.extendLast, lines]
  · simp only [OutputBuffer.extendLast, lined.totalSize, lines, byteCount_append]
    simp [byteCount, Nat.add_assoc]
  · rw [OutputBuffer.extendLast, lined.incomplete]
    simp [filled]

/-- An append stores the lines of the open line and the data, and trims unless nothing ends. -/
theorem OutputBuffer.Lined.append {buffer : OutputBuffer} {full : List Bytes} {part : Bytes}
    (lined : buffer.Lined full part) {data : Bytes} (filled : data ≠ []) :
    ∃ stored : OutputBuffer,
      stored.Lined (full ++ complete newline (part ++ data)) (rest newline (part ++ data)) ∧
      buffer.append data =
        if part ≠ [] ∧ newline ∉ data then stored
        else OutputBuffer.trim stored.totalSize stored.lastLineIncomplete stored.lines := by
  rw [OutputBuffer.append, if_neg filled]
  by_cases noPart : part = []
  · subst noPart
    refine ⟨_, lined.storePieces data, ?_⟩
    rw [if_neg (by simp [lined.incomplete]), if_neg (by simp)]
    rfl
  · have continued : buffer.lastLineIncomplete = true ∧ buffer.lines ≠ [] := by
      rw [lined.incomplete, lined.lines]
      simp [noPart, openLine]
    rw [if_pos continued]
    by_cases member : newline ∈ data
    · obtain ⟨body, later, rfl, clean⟩ := List.eq_append_cons_of_mem member
      have position : (body ++ newline :: later).idxOf? newline = some body.length := by
        rw [List.idxOf?_eq_some_iff]
        refine ⟨by simp, by simp, fun index before => ?_⟩
        rw [List.getElem_append_left before]
        exact fun eq => clean (eq ▸ List.getElem_mem before)
      have first : (body ++ newline :: later).take (body.length + 1) = body ++ [newline] := by
        simp [List.take_append]
      have second : (body ++ newline :: later).drop (body.length + 1) = later := by
        simp [List.drop_append]
      obtain ⟨lines, total, -⟩ := lined.extendLast noPart (body ++ [newline])
      have settled : OutputBuffer.Lined
          { buffer.extendLast (body ++ [newline]) with lastLineIncomplete := false }
          (full ++ [(part ++ body) ++ [newline]]) [] := by
        refine ⟨?_, ?_, by simp, ?_, rfl⟩
        · rw [lines]
          simp [openLine]
        · intro line here
          rcases List.mem_append.mp here with old | new
          · exact lined.ended line old
          · refine ⟨part ++ body, ?_, by simpa using new⟩
            simpa using ⟨lined.clean, clean⟩
        · rw [total, lines]
      have cleanBody : newline ∉ part ++ body := by simpa using ⟨lined.clean, clean⟩
      have cut : full ++ complete newline (part ++ (body ++ newline :: later)) =
          full ++ [(part ++ body) ++ [newline]] ++ complete newline later := by
        rw [← List.append_assoc part, complete_append newline cleanBody]
        simp
      have left : rest newline (part ++ (body ++ newline :: later)) = rest newline later := by
        rw [← List.append_assoc part, rest_append newline cleanBody]
      rw [cut, left]
      refine ⟨_, settled.storePieces later, ?_⟩
      rw [if_neg (by simp), position]
      simp only [first, second]
      rfl
    · have cleanAll : newline ∉ part ++ data := by simpa using ⟨lined.clean, member⟩
      obtain ⟨lines, total, flag⟩ := lined.extendLast noPart data
      refine ⟨buffer.extendLast data, ⟨?_, ?_, ?_, ?_, ?_⟩, ?_⟩
      · rw [lines, complete_of_notMem newline cleanAll, rest_of_notMem newline cleanAll]
        simp [openLine, noPart]
      · rw [complete_of_notMem newline cleanAll, List.append_nil]
        exact lined.ended
      · rw [rest_of_notMem newline cleanAll]
        exact cleanAll
      · rw [total, lines]
      · rw [flag, rest_of_notMem newline cleanAll]
        simp [noPart]
      · rw [if_pos ⟨noPart, member⟩, List.idxOf?_eq_none_iff.mpr member]

/-- The lines are the output. -/
theorem OutputBuffer.Lined.flatten {buffer : OutputBuffer} {full : List Bytes} {part : Bytes}
    (lined : buffer.Lined full part) : buffer.lines.flatten = full.flatten ++ part := by
  rw [lined.lines, List.flatten_append, flatten_openLine]

/-- The buffer holds the end of a stream, line by line. -/
structure OutputBuffer.Records (buffer : OutputBuffer) (stream : Bytes) : Prop where
  lined : ∃ full part, buffer.Lined full part
  suffix : buffer.lines.flatten <:+ stream

/-- A new buffer records nothing. -/
theorem records_new : OutputBuffer.Records {} [] := ⟨⟨[], [], lined_new⟩, by simp⟩

/-- The lines after an append end the lines before it and the data. -/
theorem OutputBuffer.Lined.append_lines {buffer : OutputBuffer} {full : List Bytes} {part : Bytes}
    (lined : buffer.Lined full part) {data : Bytes} (filled : data ≠ []) :
    (∃ more less, (buffer.append data).Lined more less) ∧
      (buffer.append data).lines <:+
        full ++ complete newline (part ++ data) ++ openLine (rest newline (part ++ data)) := by
  obtain ⟨stored, storedLined, eq⟩ := lined.append filled
  rw [eq]
  split
  next => exact ⟨⟨_, _, storedLined⟩, storedLined.lines ▸ List.suffix_refl _⟩
  next =>
    obtain ⟨more, less, trimmed, -, kept⟩ := storedLined.trim
    exact ⟨⟨more, less, trimmed⟩, storedLined.lines ▸ kept⟩

/-- Appended data is recorded. -/
theorem OutputBuffer.Records.append {buffer : OutputBuffer} {stream : Bytes}
    (records : buffer.Records stream) (data : Bytes) :
    (buffer.append data).Records (stream ++ data) := by
  by_cases empty : data = []
  · rw [OutputBuffer.append, if_pos empty, empty, List.append_nil]
    exact records
  · obtain ⟨full, part, lined⟩ := records.lined
    obtain ⟨relined, kept⟩ := lined.append_lines empty
    refine ⟨relined, kept.flatten.trans ?_⟩
    rw [List.flatten_append, List.flatten_append, flatten_openLine, List.append_assoc,
      flatten_complete, ← List.append_assoc, ← lined.flatten]
    obtain ⟨before, rfl⟩ := records.suffix
    exact ⟨before, by rw [List.append_assoc]⟩

/-- Appended slices are recorded. -/
theorem OutputBuffer.Records.foldl {buffer : OutputBuffer} {stream : Bytes}
    (records : buffer.Records stream) (chunks : List Bytes) :
    (chunks.foldl OutputBuffer.append buffer).Records (stream ++ chunks.flatten) := by
  induction chunks generalizing buffer stream with
  | nil => simpa using records
  | cons data rest ih =>
      rw [List.foldl_cons, List.flatten_cons, ← List.append_assoc]
      exact ih (records.append data)

/-- Every history is recorded. -/
theorem history_records (slices : List Bytes) :
    (history.run {} slices).1.Records slices.flatten := by
  rw [history.run_foldl]
  exact records_new.foldl slices

theorem newline_ascii : newline &&& 0x80 = 0 := by decide

theorem valid_newline : Valid [newline] := ⟨['\n'], by decide⟩

/-- The lines of valid text are valid. -/
theorem valid_lines (data : Bytes) (valid : Valid data) :
    (∀ line ∈ complete newline data, Valid line) ∧ Valid (rest newline data) := by
  induction data using line_induction newline with
  | tail data clean =>
      rw [complete_of_notMem newline clean, rest_of_notMem newline clean]
      exact ⟨by simp, valid⟩
  | line body data clean ih =>
      obtain ⟨bodyValid, dataValid⟩ := valid.split_ascii newline_ascii
      obtain ⟨linesValid, restValid⟩ := ih dataValid
      rw [complete_append newline clean, rest_append newline clean]
      refine ⟨fun line member => ?_, restValid⟩
      rcases List.mem_cons.mp member with rfl | later
      · exact bodyValid.append valid_newline
      · exact linesValid line later

/-- Appended text leaves text. -/
theorem OutputBuffer.Lined.append_valid {buffer : OutputBuffer} {full : List Bytes} {part : Bytes}
    (lined : buffer.Lined full part) (text : ∀ line ∈ buffer.lines, Valid line) {data : Bytes}
    (valid : Valid data) : ∀ line ∈ (buffer.append data).lines, Valid line := by
  by_cases empty : data = []
  · rw [OutputBuffer.append, if_pos empty]
    exact text
  · obtain ⟨-, kept⟩ := lined.append_lines empty
    have fullValid : ∀ line ∈ full, Valid line := fun line member =>
      text line (by rw [lined.lines]; exact List.mem_append_left _ member)
    have partValid : Valid part := by
      by_cases noPart : part = []
      · exact noPart ▸ valid_nil
      · exact text part (by rw [lined.lines, openLine, if_neg noPart]; simp)
    obtain ⟨linesValid, restValid⟩ := valid_lines _ (partValid.append valid)
    intro line member
    rcases List.mem_append.mp (kept.subset member) with stored | last
    · rcases List.mem_append.mp stored with old | new
      · exact fullValid line old
      · exact linesValid line new
    · unfold openLine at last
      split at last
      next => simp at last
      next =>
        rw [List.mem_singleton] at last
        exact last ▸ restValid

/-- A history of text is text. -/
theorem history_valid (slices : List Bytes) (valid : ∀ slice ∈ slices, Valid slice) :
    ∀ line ∈ (history.run {} slices).1.lines, Valid line := by
  suffices general : ∀ (buffer : OutputBuffer) (stream : Bytes), buffer.Records stream →
      (∀ line ∈ buffer.lines, Valid line) →
        ∀ line ∈ (history.run buffer slices).1.lines, Valid line from
    general {} [] records_new (by simp)
  induction slices with
  | nil => exact fun buffer _ _ text => text
  | cons data later ih =>
      intro buffer stream records text
      obtain ⟨full, part, lined⟩ := records.lined
      exact ih (fun slice member => valid slice (by simp [member])) _ _ (records.append data)
        (lined.append_valid text (valid data (by simp)))

/-- Skipping stops at the first byte that starts a character. -/
theorem skipContinuation_eq (line skipped behind : Bytes) (left offset : Nat)
    (cut : line.drop offset = skipped ++ behind) (few : skipped.length ≤ left)
    (continues : ∀ byte ∈ skipped, Continuation byte)
    (starts : ∀ byte ∈ behind.head?, ¬ Continuation byte) :
    skipContinuation line left offset = offset + skipped.length := by
  induction skipped generalizing left offset with
  | nil =>
      cases left with
      | zero => rfl
      | succ left =>
          rw [skipContinuation, if_neg]
          · rfl
          · rintro ⟨inside, continued⟩
            rw [List.nil_append, List.drop_eq_getElem_cons inside] at cut
            refine starts _ (by rw [← cut]; rfl) ?_
            simpa [Continuation, List.getD_eq_getElem?_getD, inside] using continued
  | cons byte skipped ih =>
      have inside : offset < line.length := by
        by_contra outside
        rw [List.drop_eq_nil_of_le (by omega)] at cut
        simp at cut
      rw [List.drop_eq_getElem_cons inside, List.cons_append, List.cons.injEq] at cut
      rw [List.length_cons] at few ⊢
      obtain ⟨left, rfl⟩ : ∃ smaller, left = smaller + 1 := ⟨left - 1, by omega⟩
      rw [skipContinuation, if_pos, ih left (offset + 1) cut.2 (by omega)
        (fun other member => continues other (by simp [member]))]
      · omega
      · refine ⟨inside, ?_⟩
        have continued := continues byte (by simp)
        rw [← cut.1] at continued
        simpa [Continuation, List.getD_eq_getElem?_getD, inside] using continued

theorem skipContinuation_le (line : Bytes) (left offset : Nat) :
    offset ≤ skipContinuation line left offset := by
  induction left generalizing offset with
  | zero => exact Nat.le_refl _
  | succ left ih =>
      rw [skipContinuation]
      split
      next => exact (Nat.le_succ offset).trans (ih (offset + 1))
      next => exact Nat.le_refl _

/-- The tail of a valid line is cut at a character. -/
theorem valid_tail {line : Bytes} (valid : Valid line) (offset : Nat) :
    Valid (line.drop (skipContinuation line 3 offset)) := by
  rw [← List.take_append_drop offset line] at valid
  obtain ⟨skipped, behind, cut, few, continues, starts, behindValid⟩ := valid.suffix_starts
  rw [skipContinuation_eq line skipped behind 3 offset cut few continues starts,
    ← List.drop_drop, cut, List.drop_left]
  exact behindValid

/-- What is collected ends the output. -/
theorem collectRecent_suffix (maxBytes : Nat) (newer chunks : List Bytes) (size : Nat) :
    (collectRecent maxBytes newer chunks size).reverse.flatten <:+
      newer.reverse.flatten ++ chunks.reverse.flatten := by
  induction newer generalizing chunks size with
  | nil => simp [collectRecent]
  | cons line older ih =>
      have whole : (line :: older).reverse.flatten ++ chunks.reverse.flatten =
          older.reverse.flatten ++ (line ++ chunks.reverse.flatten) := by simp
      rw [collectRecent, whole]
      split
      next =>
        split
        next =>
          dsimp only
          split
          next =>
            rw [List.reverse_append, List.reverse_singleton, List.singleton_append,
              List.flatten_cons]
            refine List.IsSuffix.trans ?_ (List.suffix_append _ _)
            refine ⟨line.take (skipContinuation line 3 (line.length - maxBytes)), ?_⟩
            rw [← List.append_assoc, List.take_append_drop]
          next => exact (List.suffix_append _ _).trans (List.suffix_append _ _)
        next => exact (List.suffix_append _ _).trans (List.suffix_append _ _)
      next =>
        have more := ih (chunks ++ [line]) (size + line.length)
        simpa using more

/-- What is collected fits the limit. -/
theorem collectRecent_length (maxBytes : Nat) (newer chunks : List Bytes)
    (fits : byteCount chunks ≤ maxBytes) :
    byteCount (collectRecent maxBytes newer chunks (byteCount chunks)) ≤ maxBytes := by
  induction newer generalizing chunks with
  | nil => exact fits
  | cons line older ih =>
      rw [collectRecent]
      split
      next =>
        split
        next single =>
          dsimp only
          split
          next =>
            have low := skipContinuation_le line 3 (line.length - maxBytes)
            rw [byteCount_append, single.1]
            simp only [byteCount, List.map_cons, List.length_drop, List.map_nil, List.sum_cons,
              List.sum_nil]
            omega
          next => exact fits
        next => exact fits
      next small =>
        have grown : byteCount (chunks ++ [line]) = byteCount chunks + line.length := by
          simp [byteCount]
        rw [← grown]
        exact ih _ (by omega)

/-- What is collected is text. -/
theorem collectRecent_valid (maxBytes : Nat) (newer chunks : List Bytes) (size : Nat)
    (newerValid : ∀ line ∈ newer, Valid line) (chunksValid : ∀ chunk ∈ chunks, Valid chunk) :
    ∀ chunk ∈ collectRecent maxBytes newer chunks size, Valid chunk := by
  induction newer generalizing chunks size with
  | nil => exact chunksValid
  | cons line older ih =>
      have lineValid := newerValid line (by simp)
      rw [collectRecent]
      split
      next =>
        split
        next =>
          dsimp only
          split
          next =>
            intro chunk member
            rcases List.mem_append.mp member with old | new
            · exact chunksValid chunk old
            · rw [List.mem_singleton] at new
              exact new ▸ valid_tail lineValid _
          next => exact chunksValid
        next => exact chunksValid
      next =>
        refine ih _ _ (fun other member => newerValid other (by simp [member])) ?_
        intro chunk member
        rcases List.mem_append.mp member with old | new
        · exact chunksValid chunk old
        · rw [List.mem_singleton] at new
          exact new ▸ lineValid

/-- The recent output ends the output. -/
theorem OutputBuffer.getRecent_suffix (buffer : OutputBuffer) (maxBytes : Nat) :
    buffer.getRecent maxBytes <:+ buffer.lines.flatten := by
  unfold getRecent
  split
  next => exact List.nil_suffix
  next => simpa using collectRecent_suffix maxBytes buffer.lines.reverse [] 0

/-- The recent output fits the limit. -/
theorem OutputBuffer.getRecent_length (buffer : OutputBuffer) (maxBytes : Nat) :
    (buffer.getRecent maxBytes).length ≤ maxBytes := by
  unfold getRecent
  split
  next => simp
  next =>
    have bound := collectRecent_length maxBytes buffer.lines.reverse [] (by simp [byteCount])
    rw [length_flatten_eq]
    simpa [byteCount, List.sum_reverse] using bound

/-- The recent output is text. -/
theorem OutputBuffer.getRecent_valid {buffer : OutputBuffer}
    (text : ∀ line ∈ buffer.lines, Valid line) (maxBytes : Nat) :
    Valid (buffer.getRecent maxBytes) := by
  unfold getRecent
  split
  next => exact valid_nil
  next =>
    refine valid_flatten fun part member => ?_
    exact collectRecent_valid maxBytes _ [] 0 (fun line inside => text line (by simpa using inside))
      (by simp) part (List.mem_reverse.mp member)

theorem OutputBuffer.Lined.getLast {buffer : OutputBuffer} {full : List Bytes} {part : Bytes}
    (lined : buffer.Lined full part) :
    buffer.lastLineIncomplete = true ↔
      ∃ line, buffer.lines.getLast? = some line ∧ line.getLast? ≠ some newline := by
  rw [lined.incomplete, lined.lines, decide_eq_true_iff]
  by_cases noPart : part = []
  · subst noPart
    simp only [ne_eq, not_true_eq_false, false_iff, openLine, if_true, List.append_nil]
    rintro ⟨line, last, open_⟩
    exact open_ (lined.ended line (List.mem_of_getLast? last)).getLast?
  · simp only [ne_eq, noPart, not_false_eq_true, true_iff, openLine, if_false]
    refine ⟨part, by simp, fun last => lined.clean (List.mem_of_getLast? last)⟩

/-- A line ends at its first newline. -/
theorem OutputBuffer.Lined.line_shape {buffer : OutputBuffer} {full : List Bytes} {part : Bytes}
    (lined : buffer.Lined full part) :
    ∀ line ∈ buffer.lines, line ≠ [] ∧ newline ∉ line.dropLast := by
  rw [lined.lines]
  intro line member
  rcases List.mem_append.mp member with ended | last
  · exact ⟨(lined.ended line ended).ne_nil, (lined.ended line ended).dropLast⟩
  · unfold openLine at last
    split at last
    next => simp at last
    next filled =>
      rw [List.mem_singleton] at last
      exact last ▸ ⟨filled, fun inside => lined.clean (List.mem_of_mem_dropLast inside)⟩

/-- Only the last line can be open. -/
theorem OutputBuffer.Lined.dropLast_ended {buffer : OutputBuffer} {full : List Bytes}
    {part : Bytes} (lined : buffer.Lined full part) :
    ∀ line ∈ buffer.lines.dropLast, line.getLast? = some newline := by
  rw [lined.lines]
  intro line member
  refine (lined.ended line ?_).getLast?
  unfold openLine at member
  split at member
  next => exact List.mem_of_mem_dropLast (by simpa using member)
  next => simpa using member

/-- The history is the end of the output, cut into lines, and so is every replay of it. -/
theorem history_wellFormed (slices : List Bytes) :
    let buffer := (history.run {} slices).1
    buffer.totalSize = (buffer.lines.map List.length).sum ∧
      (∀ line ∈ buffer.lines, line ≠ [] ∧ newline ∉ line.dropLast) ∧
      (∀ line ∈ buffer.lines.dropLast, line.getLast? = some newline) ∧
      (buffer.lastLineIncomplete = true ↔
        ∃ line, buffer.lines.getLast? = some line ∧ line.getLast? ≠ some newline) ∧
      buffer.lines.flatten <:+ slices.flatten ∧
      ∀ maxBytes, buffer.getRecent maxBytes <:+ slices.flatten ∧
        (buffer.getRecent maxBytes).length ≤ maxBytes ∧
        ((∀ slice ∈ slices, Valid slice) → Valid (buffer.getRecent maxBytes)) := by
  dsimp only
  have records := history_records slices
  obtain ⟨full, part, lined⟩ := records.lined
  refine ⟨lined.totalSize, lined.line_shape, lined.dropLast_ended, lined.getLast, records.suffix,
    fun maxBytes => ⟨?_, ?_, fun valid => ?_⟩⟩
  · exact (OutputBuffer.getRecent_suffix _ maxBytes).trans records.suffix
  · exact OutputBuffer.getRecent_length _ maxBytes
  · exact OutputBuffer.getRecent_valid (history_valid slices valid) maxBytes

/-- An append that only grows the open line has room for its data. -/
def OutputBuffer.HasRoom (buffer : OutputBuffer) (data : Bytes) : Prop :=
  buffer.lastLineIncomplete = true → newline ∉ data →
    buffer.totalSize + data.length ≤ maxOutputBufferSize

instance (buffer : OutputBuffer) (data : Bytes) : Decidable (buffer.HasRoom data) :=
  inferInstanceAs (Decidable (_ → _ → _))

/-- Data without a newline goes into the open line, and nothing is trimmed. -/
theorem OutputBuffer.append_open {buffer : OutputBuffer} {data : Bytes} (filled : data ≠ [])
    (flagged : buffer.lastLineIncomplete = true) (kept : buffer.lines ≠ [])
    (clean : newline ∉ data) : buffer.append data = buffer.extendLast data := by
  rw [OutputBuffer.append, if_neg filled, if_pos ⟨flagged, kept⟩,
    List.idxOf?_eq_none_iff.mpr clean]

/-- An append keeps the limits. -/
theorem OutputBuffer.Records.append_within {buffer : OutputBuffer} {stream : Bytes}
    (records : buffer.Records stream) (within : buffer.Within) (data : Bytes) :
    (buffer.append data).Within ↔ buffer.HasRoom data := by
  obtain ⟨full, part, lined⟩ := records.lined
  by_cases empty : data = []
  · rw [OutputBuffer.append, if_pos empty, empty]
    exact ⟨fun _ _ _ => by simpa using within.1, fun _ => within⟩
  · by_cases grows : part ≠ [] ∧ newline ∉ data
    · have flagged : buffer.lastLineIncomplete = true := by simp [lined.incomplete, grows.1]
      have kept : buffer.lines ≠ [] := by
        rw [lined.lines]
        simp [openLine, grows.1]
      have eq := OutputBuffer.append_open empty flagged kept grows.2
      have sameLines : (buffer.extendLast data).lines.length = buffer.lines.length := by
        have some_ := List.length_pos_iff.mpr kept
        simp only [OutputBuffer.extendLast, List.length_append, List.length_dropLast,
          List.length_singleton]
        omega
      rw [eq, OutputBuffer.Within, sameLines]
      exact ⟨fun small _ _ => small.1, fun room => ⟨room flagged grows.2, within.2⟩⟩
    · obtain ⟨stored, storedLined, eq⟩ := lined.append empty
      obtain ⟨-, -, -, small, -⟩ := storedLined.trim
      rw [eq, if_neg grows]
      refine ⟨fun _ flagged clean => ?_, fun _ => small⟩
      exact absurd ⟨by simpa [lined.incomplete] using flagged, clean⟩ grows

/-- The limits hold after every append exactly when each open line had room to grow. -/
theorem history_within_iff (slices : List Bytes) :
    (∀ before, before <+: slices → (history.run {} before).1.Within) ↔
      history.Guarded OutputBuffer.HasRoom {} slices := by
  suffices general : ∀ (buffer : OutputBuffer) (stream : Bytes), buffer.Records stream →
      buffer.Within → ((∀ before, before <+: slices → (history.run buffer before).1.Within) ↔
        history.Guarded OutputBuffer.HasRoom buffer slices) from
    general {} [] records_new (by decide)
  induction slices with
  | nil =>
      intro buffer stream _ within
      refine ⟨fun _ => trivial, fun _ before initial => ?_⟩
      obtain rfl := List.prefix_nil.mp initial
      exact within
  | cons data later ih =>
      intro buffer stream records within
      have step := records.append_within within data
      have appended := records.append data
      constructor
      · intro all
        have room := step.mp (all [data] ⟨later, rfl⟩)
        refine ⟨room, (ih _ _ appended (step.mpr room)).mp fun before initial => ?_⟩
        exact all (data :: before) (by simpa using initial)
      · rintro ⟨room, rest⟩ before initial
        cases before with
        | nil => exact within
        | cons first before =>
            obtain ⟨rfl, shorter⟩ := List.cons_prefix_cons.mp initial
            exact (ih _ _ appended (step.mpr room)).mpr rest before shorter

/-- Output without a newline outgrows the buffer. -/
theorem history_exceeds :
    ¬ ∀ slices : List Bytes, (history.run {} slices).1.Within := by
  intro all
  have start : (history.run {} [[97]]).1 = ⟨[[97]], 1, true⟩ := by decide +kernel
  have grown (data : Bytes) (filled : data ≠ []) (clean : newline ∉ data) :
      (history.run {} ([[97]] ++ [data])).1.totalSize = 1 + data.length := by
    rw [Machine.run_append, start]
    simp only [Machine.run, history]
    rw [OutputBuffer.append_open filled rfl (by simp) clean]
    rfl
  have size := (all ([[97]] ++ [List.replicate maxOutputBufferSize 97])).1
  rw [grown, List.length_replicate] at size
  · omega
  · rw [ne_eq, List.replicate_eq_nil_iff]
    decide
  · rw [List.mem_replicate]
    exact fun member => absurd member.2 (by decide)

end SubnetDesk.Terminal
