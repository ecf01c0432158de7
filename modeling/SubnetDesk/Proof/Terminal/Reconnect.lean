import SubnetDesk.Proof.Terminal.OutputHistory
import SubnetDesk.Proof.Terminal.SessionSteps

namespace SubnetDesk.Terminal

/-- What the channel accepted is in the history or still in the channel, which is not too long. -/
structure SessionRecord.Accounted (record : SessionRecord) (drained waiting : List Bytes) :
    Prop where
  channel : record.session.outputRx = some waiting
  bounded : waiting.length ≤ channelBufferSize
  history : record.session.outputBuffer.Records drained.flatten
  received : record.received = drained ++ waiting

/-- A new session accounts for its output. -/
theorem accounted_spawned (serial pid rows cols : Nat) (isHelperMode : Bool) :
    (SessionRecord.spawned serial pid rows cols isHelperMode).Accounted [] [] :=
  ⟨rfl, Nat.zero_le _, records_new, rfl⟩

theorem SessionRecord.Accounted.accepts {record : SessionRecord} {drained waiting : List Bytes}
    (accounted : record.Accounted drained waiting) :
    record.session.accepts = decide (waiting.length < channelBufferSize) := by
  simp only [TerminalSession.accepts, accounted.channel]

/-- A chunk joins the channel while it has room, and is dropped otherwise. -/
theorem SessionRecord.Accounted.send {record : SessionRecord} {drained waiting : List Bytes}
    (accounted : record.Accounted drained waiting) (compression : Compression) (terminalId : Int)
    (data : Bytes) :
    ∃ joined, ((sessionMachine compression terminalId).step record (.send data)).1.Accounted
        drained (waiting ++ joined) ∧
      ((sessionMachine compression terminalId).step record (.send data)).1.session.state =
        record.session.state ∧
      ((sessionMachine compression terminalId).step record (.send data)).1.received =
        record.received ++ joined := by
  simp only [sessionMachine, accounted.accepts,
    TerminalSession.trySendOutput_some accounted.channel, decide_eq_true_eq]
  by_cases room : waiting.length < channelBufferSize
  · simp only [room, if_true]
    refine ⟨[data], ⟨rfl, by simpa using room, accounted.history, ?_⟩, trivial, rfl⟩
    rw [accounted.received, List.append_assoc]
  · simp only [room, if_false]
    refine ⟨[], ⟨?_, ?_, accounted.history, ?_⟩, trivial, by simp⟩
    · simpa using accounted.channel
    · simpa using accounted.bounded
    · simpa using accounted.received

theorem SessionRecord.Accounted.resize {record : SessionRecord} {drained waiting : List Bytes}
    (accounted : record.Accounted drained waiting) (compression : Compression) (terminalId : Int)
    (rows cols : Nat) (resizes : Bool) :
    ((sessionMachine compression terminalId).step record (.resize rows cols resizes)).1.Accounted
        drained waiting ∧
      ((sessionMachine compression terminalId).step record
        (.resize rows cols resizes)).1.session.state = record.session.state := by
  obtain ⟨size, resized⟩ := record.session.handleResize_frame rows cols resizes
  simp only [sessionMachine, resized, and_true]
  exact ⟨accounted.channel, accounted.bounded, accounted.history, accounted.received⟩

/-- A poll moves the channel to the history. -/
theorem SessionRecord.Accounted.poll {record : SessionRecord} {drained waiting : List Bytes}
    (accounted : record.Accounted drained waiting) (compression : Compression) (terminalId : Int)
    (answer : PollAnswer) :
    ((sessionMachine compression terminalId).step record (.poll answer)).1.Accounted
      (drained ++ waiting) [] := by
  obtain ⟨sent, checked⟩ := record.session.checkClosed_frame answer.waitFails
  have channel : (record.session.checkClosed answer.waitFails).1.outputRx = some waiting := by
    rw [checked]
    exact accounted.channel
  obtain ⟨size, state, streamed⟩ :=
    TerminalSession.stream_frame compression terminalId channel answer.resizes
  simp only [sessionMachine, TerminalSession.poll, streamed]
  refine ⟨rfl, Nat.zero_le _, ?_, by simpa using accounted.received⟩
  simpa [checked] using accounted.history.foldl waiting

/-- A reopen moves the whole channel to the history and cuts the replay from it. -/
theorem SessionRecord.Accounted.reopen {record : SessionRecord} {drained waiting : List Bytes}
    (accounted : record.Accounted drained waiting) (compression : Compression) (terminalId : Int)
    (rows cols : Nat) :
    let reopened := ((sessionMachine compression terminalId).step record (.reopen rows cols)).1
    reopened.Accounted (drained ++ waiting) [] ∧ reopened.received = record.received ∧
      ∃ replay, reopened.session.state =
          .active (if replay ≠ [] then some replay else none)
            (.tempResize maxSigwinchPhaseAttempts) ∧
        replay = reopened.session.outputBuffer.getRecent defaultReconnectBufferBytes := by
  have whole : waiting.take channelBufferSize = waiting :=
    List.take_of_length_le accounted.bounded
  have nothing : waiting.drop channelBufferSize = [] :=
    List.drop_eq_nil_of_le accounted.bounded
  dsimp only [sessionMachine, TerminalSession.reopen]
  simp only [accounted.channel, Option.getD_some, Option.map_some, whole, nothing]
  refine ⟨⟨rfl, Nat.zero_le _, ?_, by simpa using accounted.received⟩, trivial, ?_⟩
  · rw [List.flatten_append]
    exact accounted.history.foldl waiting
  · refine ⟨_, rfl, ?_⟩
    by_cases empty : waiting = []
    · simp [empty]
    · simp [empty]

/-- One input accounts for its output. -/
theorem SessionRecord.Accounted.step {record : SessionRecord} {drained waiting : List Bytes}
    (accounted : record.Accounted drained waiting) (compression : Compression) (terminalId : Int)
    (input : SessionInput) :
    ∃ more left, ((sessionMachine compression terminalId).step record input).1.Accounted
      more left := by
  cases input with
  | send data =>
      obtain ⟨joined, sent, -, -⟩ := accounted.send compression terminalId data
      exact ⟨_, _, sent⟩
  | reset =>
      exact ⟨drained, waiting, accounted.channel, accounted.bounded, accounted.history,
        accounted.received⟩
  | reopen rows cols => exact ⟨_, _, (accounted.reopen compression terminalId rows cols).1⟩
  | resize rows cols resizes =>
      exact ⟨_, _, (accounted.resize compression terminalId rows cols resizes).1⟩
  | poll answer => exact ⟨_, _, accounted.poll compression terminalId answer⟩

/-- Every run accounts for its output. -/
theorem session_accounted (compression : Compression) (terminalId : Int)
    (serial pid rows cols : Nat) (isHelperMode : Bool) (inputs : List SessionInput) :
    ∃ drained waiting, ((sessionMachine compression terminalId).run
      (.spawned serial pid rows cols isHelperMode) inputs).1.Accounted drained waiting :=
  (sessionMachine compression terminalId).run_invariant (fun _ _ => True)
    (fun record _ => ∃ drained waiting, record.Accounted drained waiting)
    (fun _ _ input _ ⟨_, _, accounted⟩ => accounted.step compression terminalId input)
    (.spawned serial pid rows cols isHelperMode) [] inputs
    ⟨[], [], accounted_spawned serial pid rows cols isHelperMode⟩
    ((sessionMachine compression terminalId).guarded_true _ inputs)

/-- The responses so far and the pending replay are the replay and the chunks sent so far. -/
structure SessionRecord.Streams (compression : Compression) (terminalId : Int)
    (record : SessionRecord) (earlier : List Bytes) (replay : Bytes)
    (responses : List TerminalResponse) (sent waiting : List Bytes) : Prop where
  accounted : ∃ drained, record.Accounted drained waiting
  received : record.received = earlier ++ (sent ++ waiting)
  active : ∃ pendingBuffer sigwinch, record.session.state = .active pendingBuffer sigwinch ∧
    responses ++ replayResponses compression terminalId pendingBuffer =
      replayResponses compression terminalId (some replay) ++
        sent.map (createTerminalDataResponse compression terminalId)

/-- A poll sends the pending replay and then all chunks of the channel. -/
theorem SessionRecord.Streams.poll {compression : Compression} {terminalId : Int}
    {record : SessionRecord} {earlier : List Bytes} {replay : Bytes}
    {responses : List TerminalResponse} {sent waiting : List Bytes}
    (streams : record.Streams compression terminalId earlier replay responses sent waiting)
    (answer : PollAnswer) :
    let polled := (sessionMachine compression terminalId).step record (.poll answer)
    (∃ sigwinch, polled.1.session.state = .active none sigwinch) ∧
      responses ++ polled.2 = replayResponses compression terminalId (some replay) ++
        (sent ++ waiting).map (createTerminalDataResponse compression terminalId) := by
  obtain ⟨drained, accounted⟩ := streams.accounted
  obtain ⟨pendingBuffer, sigwinch, active, answered⟩ := streams.active
  obtain ⟨closedSent, checked⟩ := record.session.checkClosed_frame answer.waitFails
  have channel : (record.session.checkClosed answer.waitFails).1.outputRx = some waiting := by
    rw [checked]
    exact accounted.channel
  have state : (record.session.checkClosed answer.waitFails).1.state =
      .active pendingBuffer sigwinch := by
    rw [checked]
    exact active
  obtain ⟨⟨size, phase, streamed⟩, emitted⟩ :=
    TerminalSession.stream_active compression terminalId channel state answer.resizes
  simp only [sessionMachine, TerminalSession.poll, streamed, emitted]
  refine ⟨⟨phase, rfl⟩, ?_⟩
  rw [← List.append_assoc, answered, List.map_append, List.append_assoc]

/-- One input keeps the stream. -/
theorem SessionRecord.Streams.step {compression : Compression} {terminalId : Int}
    {record : SessionRecord} {earlier : List Bytes} {replay : Bytes}
    {responses : List TerminalResponse} {sent waiting : List Bytes}
    (streams : record.Streams compression terminalId earlier replay responses sent waiting)
    (input : SessionInput) (continues : input.continues = true) :
    let next := (sessionMachine compression terminalId).step record input
    ∃ more left, next.1.Streams compression terminalId earlier replay (responses ++ next.2)
      more left := by
  obtain ⟨drained, accounted⟩ := streams.accounted
  cases input with
  | send data =>
      obtain ⟨joined, kept, state, received⟩ := accounted.send compression terminalId data
      refine ⟨sent, waiting ++ joined, ⟨drained, kept⟩, ?_, ?_⟩
      · rw [received, streams.received]
        simp only [List.append_assoc]
      · rw [state]
        simpa [sessionMachine] using streams.active
  | reset => cases continues
  | reopen => cases continues
  | resize rows cols resizes =>
      obtain ⟨kept, state⟩ := accounted.resize compression terminalId rows cols resizes
      refine ⟨sent, waiting, ⟨drained, kept⟩, streams.received, ?_⟩
      rw [state]
      simpa [sessionMachine] using streams.active
  | poll answer =>
      obtain ⟨⟨sigwinch, active⟩, answered⟩ := streams.poll answer
      refine ⟨sent ++ waiting, [], ⟨_, accounted.poll compression terminalId answer⟩, ?_,
        none, sigwinch, active, ?_⟩
      · simpa [sessionMachine] using streams.received
      · simpa [replayResponses] using answered

/-- After a reopen the client reads the replay and then every later chunk once and in order. -/
theorem reopened_stream (compression : Compression) (terminalId : Int)
    (serial pid rows cols newRows newCols : Nat) (isHelperMode : Bool)
    (before : List SessionInput) :
    let machine := sessionMachine compression terminalId
    let opened := (machine.run (.spawned serial pid rows cols isHelperMode)
      (before ++ [.reopen newRows newCols])).1
    ∃ replay, replay <:+ opened.received.flatten ∧
      replay.length ≤ defaultReconnectBufferBytes ∧
      ∀ rest : List SessionInput, ∃ later,
        let window := rest.takeWhile SessionInput.continues
        let streamed := replayResponses compression terminalId (some replay) ++
          later.map (createTerminalDataResponse compression terminalId)
        (machine.run opened window).1.received = opened.received ++ later ∧
          (machine.run opened window).2 <+: streamed ∧
          emittedBytes compression streamed = replay ++ later.flatten ∧
          ∀ answer, (machine.run opened (window ++ [.poll answer])).2 = streamed := by
  intro machine opened
  obtain ⟨drained, waiting, accounted⟩ :=
    session_accounted compression terminalId serial pid rows cols isHelperMode before
  obtain ⟨kept, received, replay, state, cut⟩ :=
    accounted.reopen compression terminalId newRows newCols
  have reached : opened = (machine.step (machine.run
      (.spawned serial pid rows cols isHelperMode) before).1 (.reopen newRows newCols)).1 :=
    machine.run_append _ before [.reopen newRows newCols]
  rw [← reached] at kept received state cut
  have starts : opened.Streams compression terminalId opened.received replay [] [] [] := by
    refine ⟨⟨_, kept⟩, by simp, _, _, state, ?_⟩
    by_cases empty : replay = []
    · simp [replayResponses, empty]
    · simp [replayResponses, empty]
  refine ⟨replay, ?_, ?_, ?_⟩
  · rw [cut, kept.received, List.append_nil]
    exact (OutputBuffer.getRecent_suffix _ _).trans kept.history.suffix
  · rw [cut]
    exact OutputBuffer.getRecent_length _ _
  · intro rest
    have guarded : machine.Guarded (fun _ input => input.continues = true) opened
        (rest.takeWhile SessionInput.continues) :=
      machine.guarded_of_forall opened _ (List.all_eq_true.mp List.all_takeWhile)
    obtain ⟨sent, left, streams⟩ := machine.run_invariant
      (fun _ input => input.continues = true)
      (fun record responses => ∃ sent left, record.Streams compression terminalId opened.received
        replay responses sent left)
      (by
        rintro _ _ input continues ⟨_, _, streams⟩
        exact streams.step input continues)
      opened [] _ ⟨[], [], starts⟩ guarded
    rw [List.nil_append] at streams
    obtain ⟨pendingBuffer, sigwinch, -, answered⟩ := streams.active
    refine ⟨sent ++ left, streams.received, ?_, by simp, fun answer => ?_⟩
    · refine ⟨replayResponses compression terminalId pendingBuffer ++
        left.map (createTerminalDataResponse compression terminalId), ?_⟩
      rw [← List.append_assoc, answered, List.map_append, List.append_assoc]
    · rw [machine.run_append_outputs]
      simpa [Machine.run] using (streams.poll answer).2

end SubnetDesk.Terminal
