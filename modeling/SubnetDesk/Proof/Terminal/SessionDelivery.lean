import SubnetDesk.Proof.Terminal.ChunkReassembly
import SubnetDesk.Proof.Terminal.SessionSteps

namespace SubnetDesk.Terminal

/-- The channel is never full when the reader sends. -/
def SessionWatch.Roomy (watch : SessionWatch) : WatchInput → Prop
  | .read _ => ∀ chunks ∈ watch.session.outputRx, chunks.length < channelBufferSize
  | _ => True

/-- No output is read after the last stream, and no part of a character is held at an error or at
the last stream. -/
def SessionWatch.Orderly (watch : SessionWatch) : WatchInput → Prop
  | .read (.data _ _) =>
      watch.session.reader.finished = false →
        watch.stage ≠ .streamed true ∧ watch.stage ≠ .removed
  | .read .error =>
      watch.session.reader.finished = false → watch.session.reader.utf8Chunks.remainder = []
  | .stream _ =>
      watch.stage = .checked true → watch.session.reader.utf8Chunks.remainder = []
  | _ => True

instance (watch : SessionWatch) : (input : WatchInput) → Decidable (watch.Roomy input)
  | .read _ => inferInstanceAs (Decidable (∀ chunks ∈ watch.session.outputRx, _))
  | .exit _ | .check _ | .stream _ | .cleanUp _ => inferInstanceAs (Decidable True)

instance (watch : SessionWatch) : (input : WatchInput) → Decidable (watch.Orderly input)
  | .read (.data _ _) | .read .error | .stream _ => inferInstanceAs (Decidable (_ → _))
  | .read .eof | .read .wouldBlock | .exit _ | .check _ | .cleanUp _ =>
      inferInstanceAs (Decidable True)

theorem Utf8ChunkAccumulator.finish_remainder (chunks : Utf8ChunkAccumulator) :
    chunks.finish.1.remainder = [] := by
  unfold finish
  split
  next empty => exact empty
  next => rfl

/-- A read of a running session sends and holds the bytes that were held and read. -/
theorem TerminalSession.read_running {session : TerminalSession} {waiting : List Bytes}
    (channel : session.outputRx = some waiting) (lasting : session.exiting = false)
    (unfinished : session.reader.finished = false) (room : waiting.length < channelBufferSize)
    (read : ReaderRead) :
    ∃ joined reader, session.read read =
        { session with outputRx := some (waiting ++ joined), reader := reader } ∧
      joined.flatten ++ reader.utf8Chunks.remainder =
        session.reader.utf8Chunks.remainder ++ read.bytes ∧
      (reader.finished = true → read = .error ∨ reader.utf8Chunks.remainder = []) := by
  have sent (data : Bytes) : session.trySendOutput data =
      ({ session with outputRx := some (waiting ++ [data]) }, false) := by
    rw [TerminalSession.trySendOutput_some channel, if_pos room]
  rw [TerminalSession.read, unfinished, if_neg Bool.false_ne_true]
  cases read with
  | data first more =>
      have bytes := session.reader.utf8Chunks.pushChunk_bytes (first :: more)
      simp only [readerStep, lasting, Bool.false_eq_true, if_false, ReaderRead.bytes]
      cases pushed : session.reader.utf8Chunks.pushChunk (first :: more) with
      | mk chunks chunk =>
          rw [pushed] at bytes
          cases chunk with
          | none =>
              refine ⟨[], { session.reader with utf8Chunks := chunks }, ?_, bytes, ?_⟩
              · simp [channel]
              · simp [unfinished]
          | some data =>
              refine ⟨[data], ⟨chunks, false⟩, ?_, ?_, by simp⟩
              · simp only [sent, lasting]
              · simpa using bytes
  | eof =>
      simp only [readerStep, ReaderRead.bytes, List.append_nil]
      have bytes := session.reader.utf8Chunks.finish_toList
      have nothing := session.reader.utf8Chunks.finish_remainder
      cases finished : session.reader.utf8Chunks.finish with
      | mk chunks held =>
          rw [finished] at bytes nothing
          refine ⟨held.toList, ⟨chunks, true⟩, ?_, ?_, fun _ => .inr nothing⟩
          · cases held with
            | none => simp [channel]
            | some data => simp [sent]
          · rw [bytes, nothing, List.append_nil]
  | wouldBlock =>
      refine ⟨[], session.reader, ?_, by simp [ReaderRead.bytes], by simp [unfinished]⟩
      rw [readerStep, if_neg (by simp [lasting]), List.append_nil, ← channel]
  | error =>
      refine ⟨[], { session.reader with finished := true }, ?_, by simp [ReaderRead.bytes],
        fun _ => .inl rfl⟩
      simp [readerStep, channel]

/-- The emitted bytes, the chunks of the channel and the held bytes are the bytes read. -/
structure SessionWatch.Running (watch : SessionWatch) (waiting : List Bytes) (emitted : Bytes) :
    Prop where
  stage : watch.stage ≠ .removed
  channel : watch.session.outputRx = some waiting
  lasting : watch.session.exiting = false
  active : ∃ sigwinch, watch.session.state = .active none sigwinch
  bytes : emitted ++ (waiting.flatten ++ watch.session.reader.utf8Chunks.remainder) =
    watch.readBytes
  ended : watch.session.reader.finished = true → watch.session.reader.utf8Chunks.remainder = []
  drained : watch.stage = .streamed true →
    waiting.flatten = [] ∧ watch.session.reader.utf8Chunks.remainder = []
  reported : watch.session.closedMessageSent = true →
    watch.stage = .checked true ∨ watch.stage = .streamed true

/-- A removed session holds nothing back. -/
structure SessionWatch.Gone (watch : SessionWatch) (emitted : Bytes) : Prop where
  stage : watch.stage = .removed
  channel : watch.session.outputRx = none
  lasting : watch.session.exiting = true
  held : watch.session.reader.utf8Chunks.remainder = []
  bytes : emitted = watch.readBytes

/-- The responses are the data of the chunks and, after the removal, the end of the terminal. -/
def SessionWatch.Delivers (compression : Compression) (terminalId : Int) (watch : SessionWatch)
    (responses : List TerminalResponse) : Prop :=
  (∃ (chunks waiting : List Bytes),
      responses = chunks.map (createTerminalDataResponse compression terminalId) ∧
        watch.Running waiting chunks.flatten) ∨
    ∃ (chunks : List Bytes) (exitCode : Int),
      responses = chunks.map (createTerminalDataResponse compression terminalId) ++
          [.closed terminalId exitCode] ∧
        watch.Gone chunks.flatten

theorem delivers_spawned (compression : Compression) (terminalId : Int)
    (serial pid rows cols : Nat) (isHelperMode : Bool) :
    SessionWatch.Delivers compression terminalId
      { session := .spawned serial pid rows cols isHelperMode } [] := by
  refine .inl ⟨[], [], rfl, ?_⟩
  exact
    { stage := by simp
      channel := rfl
      lasting := rfl
      active := ⟨.idle, rfl⟩
      bytes := rfl
      ended := fun _ => rfl
      drained := fun _ => ⟨rfl, rfl⟩
      reported := by simp [TerminalSession.spawned] }

section Steps

variable (compression : Compression) (terminalId : Int)

theorem SessionWatch.Running.read {watch : SessionWatch} {waiting : List Bytes} {emitted : Bytes}
    (running : watch.Running waiting emitted) (read : ReaderRead)
    (roomy : watch.Roomy (.read read)) (orderly : watch.Orderly (.read read)) :
    ∃ more, ((watchMachine compression terminalId).step watch (.read read)).1.Running more
      emitted := by
  dsimp only [watchMachine]
  cases unfinished : watch.session.reader.finished with
  | true =>
      rw [TerminalSession.read, unfinished, if_pos rfl, if_pos rfl]
      exact ⟨waiting, running⟩
  | false =>
      rw [if_neg Bool.false_ne_true]
      have room := roomy waiting running.channel
      obtain ⟨joined, reader, stepped, bytes, ended⟩ :=
        TerminalSession.read_running running.channel running.lasting unfinished room read
      rw [stepped]
      refine ⟨waiting ++ joined, running.stage, rfl, running.lasting, running.active, ?_, ?_, ?_,
        running.reported⟩
      · dsimp only
        rw [← running.bytes, List.flatten_append, List.append_assoc, bytes]
        simp only [List.append_assoc]
      · intro finished
        rcases ended finished with failed | nothing
        · subst failed
          rw [orderly unfinished] at bytes
          exact (List.append_eq_nil_iff.mp bytes).2
        · exact nothing
      · intro streamed
        obtain ⟨empty, nothing⟩ := running.drained streamed
        have quiet : read.bytes = [] := by
          cases read with
          | data first more => exact absurd streamed (orderly unfinished).1
          | eof => rfl
          | wouldBlock => rfl
          | error => rfl
        rw [nothing, quiet, List.append_nil] at bytes
        obtain ⟨unsent, unheld⟩ := List.append_eq_nil_iff.mp bytes
        exact ⟨by rw [List.flatten_append, empty, unsent, List.append_nil], unheld⟩

/-- The check of a running session reports exactly its end. -/
theorem SessionWatch.Running.check_eq {watch : SessionWatch} {waiting : List Bytes}
    {emitted : Bytes} (running : watch.Running waiting emitted) (starts : watch.stage = .waiting)
    (waitFails : Bool) :
    (watchMachine compression terminalId).step watch (.check waitFails) =
      ({ watch with
          session := { watch.session with closedMessageSent := watch.session.ended waitFails }
          stage := .checked (watch.session.ended waitFails) }, []) := by
  have unreported : watch.session.closedMessageSent = false := by
    rw [← Bool.not_eq_true]
    intro sent
    have reported := running.reported sent
    simp [starts] at reported
  simp only [watchMachine, starts, TerminalSession.checkClosed, unreported, Bool.false_eq_true,
    if_false]

theorem SessionWatch.Running.check {watch : SessionWatch} {waiting : List Bytes} {emitted : Bytes}
    (running : watch.Running waiting emitted) (starts : watch.stage = .waiting)
    (waitFails : Bool) :
    ((watchMachine compression terminalId).step watch (.check waitFails)).1.Running waiting
      emitted := by
  rw [running.check_eq compression terminalId starts waitFails]
  refine ⟨by simp, running.channel, running.lasting, running.active, running.bytes,
    running.ended, by simp, ?_⟩
  intro sent
  exact .inl (congrArg PollStage.checked sent)

theorem SessionWatch.Running.stream {watch : SessionWatch} {waiting : List Bytes}
    {emitted : Bytes} (running : watch.Running waiting emitted) {closing : Bool}
    (checked : watch.stage = .checked closing) (resizes : Bool)
    (orderly : watch.Orderly (.stream resizes)) :
    ((watchMachine compression terminalId).step watch (.stream resizes)).1.Running []
        (emitted ++ waiting.flatten) ∧
      ((watchMachine compression terminalId).step watch (.stream resizes)).1.stage =
        .streamed closing ∧
      ((watchMachine compression terminalId).step watch (.stream resizes)).2 =
        waiting.map (createTerminalDataResponse compression terminalId) := by
  obtain ⟨sigwinch, active⟩ := running.active
  obtain ⟨⟨size, phase, streamed⟩, emits⟩ :=
    TerminalSession.stream_active compression terminalId running.channel active resizes
  simp only [watchMachine, checked, streamed, emits, replayResponses, List.nil_append]
  refine ⟨⟨by simp, rfl, running.lasting, ⟨phase, rfl⟩, ?_, running.ended, ?_, ?_⟩, trivial,
    trivial⟩
  · simpa using running.bytes
  · intro last
    refine ⟨rfl, orderly ?_⟩
    rw [checked]
    simpa using last
  · intro sent
    rcases running.reported sent with last | last
    · rw [checked, PollStage.checked.injEq] at last
      exact .inr (congrArg PollStage.streamed last)
    · rw [checked] at last
      cases last

theorem SessionWatch.Running.cleanUp {watch : SessionWatch} {waiting : List Bytes}
    {emitted : Bytes} (running : watch.Running waiting emitted) {closing : Bool}
    (streamed : watch.stage = .streamed closing) (reapFails : Bool) :
    if closing then
      ((watchMachine compression terminalId).step watch (.cleanUp reapFails)).1.Gone emitted ∧
        ∃ exitCode, ((watchMachine compression terminalId).step watch (.cleanUp reapFails)).2 =
          [.closed terminalId exitCode]
    else
      ((watchMachine compression terminalId).step watch (.cleanUp reapFails)).1.Running waiting
          emitted ∧
        ((watchMachine compression terminalId).step watch (.cleanUp reapFails)).2 = [] := by
  cases closing with
  | true =>
      obtain ⟨unsent, unheld⟩ := running.drained streamed
      simp only [watchMachine, streamed, if_true]
      refine ⟨⟨rfl, rfl, rfl, unheld, ?_⟩, _, rfl⟩
      have bytes := running.bytes
      rwa [unsent, unheld, List.append_nil, List.append_nil] at bytes
  | false =>
      simp only [watchMachine, streamed, Bool.false_eq_true, if_false, and_true]
      refine ⟨by simp, running.channel, running.lasting, running.active, running.bytes,
        running.ended, by simp, ?_⟩
      intro sent
      rcases running.reported sent with last | last
      · rw [streamed] at last
        cases last
      · rw [streamed] at last
        cases last

/-- A removed session reads no more output, and its polls do nothing. -/
theorem SessionWatch.Gone.step {watch : SessionWatch} {emitted : Bytes}
    (gone : watch.Gone emitted) (input : WatchInput) (orderly : watch.Orderly input) :
    ((watchMachine compression terminalId).step watch input).1.Gone emitted ∧
      ((watchMachine compression terminalId).step watch input).2 = [] := by
  cases input with
  | read read =>
      refine ⟨?_, rfl⟩
      dsimp only [watchMachine]
      cases unfinished : watch.session.reader.finished with
      | true =>
          rw [TerminalSession.read, unfinished, if_pos rfl, if_pos rfl]
          exact gone
      | false =>
          rw [TerminalSession.read, unfinished, if_neg Bool.false_ne_true,
            if_neg Bool.false_ne_true]
          cases read with
          | data first more => exact absurd gone.stage (orderly unfinished).2
          | eof =>
              simp only [TerminalSession.readerStep, Utf8ChunkAccumulator.finish, gone.held,
                if_true, ReaderRead.bytes, List.append_nil]
              exact ⟨gone.stage, gone.channel, gone.lasting, gone.held, gone.bytes⟩
          | wouldBlock =>
              simp only [TerminalSession.readerStep, gone.lasting, if_true, ReaderRead.bytes,
                List.append_nil]
              exact ⟨gone.stage, gone.channel, rfl, gone.held, gone.bytes⟩
          | error =>
              simp only [TerminalSession.readerStep, ReaderRead.bytes, List.append_nil]
              exact ⟨gone.stage, gone.channel, gone.lasting, gone.held, gone.bytes⟩
  | exit code => exact ⟨⟨gone.stage, gone.channel, gone.lasting, gone.held, gone.bytes⟩, rfl⟩
  | check waitFails =>
      simp only [watchMachine, gone.stage]
      exact ⟨gone, trivial⟩
  | stream resizes =>
      simp only [watchMachine, gone.stage]
      exact ⟨gone, trivial⟩
  | cleanUp reapFails =>
      simp only [watchMachine, gone.stage]
      exact ⟨gone, trivial⟩

theorem SessionWatch.Running.step {watch : SessionWatch} {waiting chunks : List Bytes}
    (running : watch.Running waiting chunks.flatten) (input : WatchInput)
    (roomy : watch.Roomy input) (orderly : watch.Orderly input) :
    ((watchMachine compression terminalId).step watch input).1.Delivers compression terminalId
      (chunks.map (createTerminalDataResponse compression terminalId) ++
        ((watchMachine compression terminalId).step watch input).2) := by
  have idle (nothing : (watchMachine compression terminalId).step watch input = (watch, [])) :
      ((watchMachine compression terminalId).step watch input).1.Delivers compression terminalId
        (chunks.map (createTerminalDataResponse compression terminalId) ++
          ((watchMachine compression terminalId).step watch input).2) := by
    rw [nothing, List.append_nil]
    exact .inl ⟨chunks, waiting, rfl, running⟩
  cases input with
  | read read =>
      obtain ⟨more, kept⟩ := running.read compression terminalId read roomy orderly
      exact .inl ⟨chunks, more, List.append_nil _, kept⟩
  | exit code =>
      refine .inl ⟨chunks, waiting, List.append_nil _, ?_⟩
      exact ⟨running.stage, running.channel, running.lasting, running.active, running.bytes,
        running.ended, running.drained, running.reported⟩
  | check waitFails =>
      by_cases starts : watch.stage = .waiting
      · refine .inl ⟨chunks, waiting, ?_, running.check compression terminalId starts waitFails⟩
        rw [running.check_eq compression terminalId starts waitFails, List.append_nil]
      · apply idle
        cases stage : watch.stage with
        | waiting => exact absurd stage starts
        | checked closing => simp only [watchMachine, stage]
        | streamed closing => simp only [watchMachine, stage]
        | removed => simp only [watchMachine, stage]
  | stream resizes =>
      cases stage : watch.stage with
      | checked closing =>
          obtain ⟨kept, -, emits⟩ :=
            running.stream compression terminalId stage resizes orderly
          rw [emits, ← List.map_append]
          exact .inl ⟨chunks ++ waiting, [], rfl, by rwa [List.flatten_append]⟩
      | waiting => exact idle (by simp only [watchMachine, stage])
      | streamed closing => exact idle (by simp only [watchMachine, stage])
      | removed => exact idle (by simp only [watchMachine, stage])
  | cleanUp reapFails =>
      cases stage : watch.stage with
      | streamed closing =>
          have cleaned := running.cleanUp compression terminalId stage reapFails
          cases closing with
          | true =>
              obtain ⟨gone, exitCode, closes⟩ := cleaned
              rw [closes]
              exact .inr ⟨chunks, exitCode, rfl, gone⟩
          | false =>
              obtain ⟨kept, silent⟩ := cleaned
              rw [silent, List.append_nil]
              exact .inl ⟨chunks, waiting, rfl, kept⟩
      | waiting => exact idle (by simp only [watchMachine, stage])
      | checked closing => exact idle (by simp only [watchMachine, stage])
      | removed => exact idle (by simp only [watchMachine, stage])

theorem SessionWatch.Delivers.step {watch : SessionWatch} {responses : List TerminalResponse}
    (delivers : watch.Delivers compression terminalId responses) (input : WatchInput)
    (roomy : watch.Roomy input) (orderly : watch.Orderly input) :
    ((watchMachine compression terminalId).step watch input).1.Delivers compression terminalId
      (responses ++ ((watchMachine compression terminalId).step watch input).2) := by
  rcases delivers with ⟨chunks, waiting, rfl, running⟩ | ⟨chunks, exitCode, rfl, gone⟩
  · exact running.step compression terminalId input roomy orderly
  · obtain ⟨kept, silent⟩ := gone.step compression terminalId input orderly
    rw [silent, List.append_nil]
    exact .inr ⟨chunks, exitCode, rfl, kept⟩

/-- The poll after the end of the reader sends the rest and removes the session. -/
theorem SessionWatch.Running.lastPoll {watch : SessionWatch} {waiting : List Bytes}
    {emitted : Bytes} (running : watch.Running waiting emitted) (starts : watch.stage = .waiting)
    (finished : watch.session.reader.finished = true) (waitFails resizes reapFails : Bool) :
    let polled := (watchMachine compression terminalId).run watch
      [.check waitFails, .stream resizes, .cleanUp reapFails]
    ∃ exitCode, polled.2 = waiting.map (createTerminalDataResponse compression terminalId) ++
      [.closed terminalId exitCode] := by
  have ends : watch.session.ended waitFails = true := by
    rw [TerminalSession.ended, finished, Bool.true_or]
  have checked := running.check compression terminalId starts waitFails
  rw [running.check_eq compression terminalId starts waitFails, ends] at checked
  obtain ⟨streamed, stage, emits⟩ :=
    checked.stream compression terminalId rfl resizes fun _ => running.ended finished
  obtain ⟨-, exitCode, closes⟩ := streamed.cleanUp compression terminalId stage reapFails
  refine ⟨exitCode, ?_⟩
  simp only [Machine.run]
  rw [running.check_eq compression terminalId starts waitFails, ends, emits, closes,
    List.nil_append, List.append_nil]

end Steps

/-- In an orderly run every byte that was read is sent before the end of the terminal. -/
theorem session_delivers (compression : Compression) (terminalId : Int)
    (serial pid rows cols : Nat) (isHelperMode : Bool) (inputs : List WatchInput)
    (guarded : (watchMachine compression terminalId).Guarded
      (fun watch input => watch.Roomy input ∧ watch.Orderly input)
      { session := .spawned serial pid rows cols isHelperMode } inputs) :
    let machine := watchMachine compression terminalId
    let reached := machine.run { session := .spawned serial pid rows cols isHelperMode } inputs
    (reached.1.stage ≠ .removed → ∃ (chunks waiting : List Bytes),
        reached.2 = chunks.map (createTerminalDataResponse compression terminalId) ∧
          reached.1.session.outputRx = some waiting ∧
          emittedBytes compression reached.2 ++
            (waiting.flatten ++ reached.1.session.reader.utf8Chunks.remainder) =
              reached.1.readBytes) ∧
      (reached.1.stage = .removed → ∃ (chunks : List Bytes) (exitCode : Int),
        reached.2 = chunks.map (createTerminalDataResponse compression terminalId) ++
            [.closed terminalId exitCode] ∧
          emittedBytes compression reached.2 = reached.1.readBytes) ∧
      (reached.1.stage = .waiting → reached.1.session.reader.finished = true →
        ∀ waitFails resizes reapFails, ∃ (chunks : List Bytes) (exitCode : Int),
          let polled := machine.run reached.1
            [.check waitFails, .stream resizes, .cleanUp reapFails]
          polled.2 = chunks.map (createTerminalDataResponse compression terminalId) ++
              [.closed terminalId exitCode] ∧
            emittedBytes compression (reached.2 ++ polled.2) = reached.1.readBytes) := by
  intro machine reached
  have closing (exitCode : Int) : emittedBytes compression [.closed terminalId exitCode] = [] :=
    rfl
  have delivers : reached.1.Delivers compression terminalId reached.2 :=
    machine.run_invariant _ (fun watch responses => watch.Delivers compression terminalId responses)
      (fun _ _ input fair delivers => delivers.step compression terminalId input fair.1 fair.2)
      _ [] inputs (delivers_spawned compression terminalId serial pid rows cols isHelperMode)
      guarded
  rcases delivers with ⟨chunks, waiting, sent, running⟩ | ⟨chunks, exitCode, sent, gone⟩
  · refine ⟨fun _ => ?_, fun removed => absurd removed running.stage, ?_⟩
    · refine ⟨chunks, waiting, sent, running.channel, ?_⟩
      rw [sent, emittedBytes_live]
      exact running.bytes
    · intro starts finished waitFails resizes reapFails
      obtain ⟨exitCode, rest⟩ := running.lastPoll compression terminalId starts finished waitFails
        resizes reapFails
      refine ⟨waiting, exitCode, rest, ?_⟩
      have bytes := running.bytes
      rw [running.ended finished, List.append_nil] at bytes
      rw [rest, sent, emittedBytes_append, emittedBytes_append, emittedBytes_live,
        emittedBytes_live, closing, List.append_nil]
      exact bytes
  · refine ⟨fun kept => absurd gone.stage kept, fun _ => ⟨chunks, exitCode, sent, ?_⟩, ?_⟩
    · rw [sent, emittedBytes_append, emittedBytes_live, closing, List.append_nil]
      exact gone.bytes
    · intro starts
      rw [gone.stage] at starts
      cases starts

/-- A shell that prints a character in two reads and then exits is heard in full. -/
theorem session_delivers_exit :
    let inputs : List WatchInput :=
      [.read (.data 65 [0xE4]), .check false, .stream true, .cleanUp false,
        .read (.data 0xB8 [0xAD]), .read .eof, .exit 3, .check false, .stream true,
        .cleanUp false]
    (watchMachine ⟨id, id, fun _ => rfl⟩ 1).Guarded
        (fun watch input => watch.Roomy input ∧ watch.Orderly input)
        { session := .spawned 0 100 24 80 false } inputs ∧
      emittedBytes ⟨id, id, fun _ => rfl⟩ ((watchMachine ⟨id, id, fun _ => rfl⟩ 1).run
        { session := .spawned 0 100 24 80 false } inputs).2 = [65, 0xE4, 0xB8, 0xAD] := by
  intro inputs
  have guarded : (watchMachine ⟨id, id, fun _ => rfl⟩ 1).Guarded
      (fun watch input => watch.Roomy input ∧ watch.Orderly input)
      { session := .spawned 0 100 24 80 false } inputs := by decide +kernel
  have removed : ((watchMachine ⟨id, id, fun _ => rfl⟩ 1).run
      { session := .spawned 0 100 24 80 false } inputs).1.stage = .removed := by decide +kernel
  have heard : ((watchMachine ⟨id, id, fun _ => rfl⟩ 1).run
      { session := .spawned 0 100 24 80 false } inputs).1.readBytes = [65, 0xE4, 0xB8, 0xAD] := by
    decide +kernel
  obtain ⟨-, -, -, sent⟩ :=
    (session_delivers ⟨id, id, fun _ => rfl⟩ 1 0 100 24 80 false inputs guarded).2.1 removed
  exact ⟨guarded, sent.trans heard⟩

/-- A read error drops the held part of a character, and a poll after the exit of the shell drops
the output that is read behind it. -/
theorem session_drops :
    let machine := watchMachine ⟨id, id, fun _ => rfl⟩ 1
    let failing : List WatchInput :=
      [.read (.data 65 [0xE4]), .read .error, .check false, .stream true, .cleanUp false]
    let exiting : List WatchInput :=
      [.exit 0, .check false, .stream true, .read (.data 65 []), .cleanUp false]
    let failed := machine.run { session := .spawned 0 100 24 80 false } failing
    let exited := machine.run { session := .spawned 0 100 24 80 false } exiting
    (machine.Guarded SessionWatch.Roomy { session := .spawned 0 100 24 80 false } failing ∧
        failed.2 = [.data 1 [65] false, .closed 1 0] ∧ failed.1.readBytes = [65, 0xE4]) ∧
      machine.Guarded SessionWatch.Roomy { session := .spawned 0 100 24 80 false } exiting ∧
        exited.2 = [.closed 1 0] ∧ exited.1.readBytes = [65] := by
  decide +kernel

end SubnetDesk.Terminal
