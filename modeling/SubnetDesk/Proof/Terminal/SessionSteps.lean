import SubnetDesk.Construction.Terminal.Session

namespace SubnetDesk.Terminal

@[simp] theorem content_createTerminalDataResponse (compression : Compression) (terminalId : Int)
    (data : Bytes) :
    (createTerminalDataResponse compression terminalId data).content compression = data := by
  unfold createTerminalDataResponse
  split
  next => simp [TerminalResponse.content, compression.lossless]
  next => simp [TerminalResponse.content]

@[simp] theorem emittedBytes_append (compression : Compression)
    (first second : List TerminalResponse) :
    emittedBytes compression (first ++ second) =
      emittedBytes compression first ++ emittedBytes compression second := by
  simp [emittedBytes]

/-- Live responses emit their chunks. -/
@[simp] theorem emittedBytes_live (compression : Compression) (terminalId : Int)
    (chunks : List Bytes) :
    emittedBytes compression (chunks.map (createTerminalDataResponse compression terminalId)) =
      chunks.flatten := by
  simp [emittedBytes, Function.comp_def]

/-- A replay emits the replayed bytes. -/
@[simp] theorem emittedBytes_replay (compression : Compression) (terminalId : Int)
    (replay : Bytes) :
    emittedBytes compression (replayResponses compression terminalId (some replay)) = replay := by
  by_cases empty : replay = []
  · simp [replayResponses, emittedBytes, empty]
  · simp [replayResponses, emittedBytes, empty]

/-- A redraw waits, or its resize succeeds and the next phase begins. -/
theorem TerminalSession.redraw_cases (session : TerminalSession) (sigwinch : SigwinchPhase)
    (resizes : Bool) :
    session.redraw sigwinch resizes = { session with state := .active none sigwinch.advance.1 } ∨
      ∃ action size, sigwinch.advance.2 = some action ∧ session.sigwinchSize action = some size ∧
        session.redraw sigwinch resizes =
          { session with ptySize := some size, state := .active none action.next } := by
  unfold redraw
  dsimp only
  split
  next => exact .inl rfl
  next action acts =>
    unfold doSigwinchResize
    split
    next => exact .inl rfl
    next size asks =>
      cases resizes with
      | true => exact .inr ⟨action, size, acts, asks, rfl⟩
      | false => exact .inl rfl

/-- A redraw changes only the size of the terminal and the state of the session. -/
theorem TerminalSession.redraw_frame (session : TerminalSession) (sigwinch : SigwinchPhase)
    (resizes : Bool) :
    ∃ size phase, session.redraw sigwinch resizes =
      { session with ptySize := size, state := .active none phase } := by
  rcases session.redraw_cases sigwinch resizes with waits | ⟨action, size, -, -, redrawn⟩
  · exact ⟨session.ptySize, _, waits⟩
  · exact ⟨some size, _, redrawn⟩

theorem TerminalSession.checkClosed_frame (session : TerminalSession) (waitFails : Bool) :
    ∃ sent, (session.checkClosed waitFails).1 = { session with closedMessageSent := sent } := by
  unfold checkClosed
  split
  next => exact ⟨session.closedMessageSent, rfl⟩
  next => exact ⟨session.ended waitFails, rfl⟩

theorem TerminalSession.handleResize_frame (session : TerminalSession) (rows cols : Nat)
    (resizes : Bool) :
    ∃ size, (session.handleResize rows cols resizes).1 =
      { session with
        ptySize := size
        rows := UInt16.ofNat rows
        cols := UInt16.ofNat cols } := by
  unfold handleResize
  dsimp only
  split
  next => exact ⟨session.ptySize, rfl⟩
  next =>
    cases resizes with
    | true => exact ⟨some ⟨UInt16.ofNat rows, UInt16.ofNat cols⟩, rfl⟩
    | false => exact ⟨session.ptySize, rfl⟩

/-- A drain changes the queue and the buffer only. -/
theorem TerminalSession.drain_frame (session : TerminalSession) :
    ∃ outputRx outputBuffer, session.drain.1 =
      { session with outputRx := outputRx, outputBuffer := outputBuffer } := by
  unfold drain
  split
  next => exact ⟨session.outputRx, session.outputBuffer, rfl⟩
  next => exact ⟨some [], _, rfl⟩

/-- Streaming moves all chunks of the channel to the history, also for a closed session. -/
theorem TerminalSession.stream_frame (compression : Compression) (terminalId : Int)
    {session : TerminalSession} {waiting : List Bytes} (channel : session.outputRx = some waiting)
    (resizes : Bool) :
    ∃ size state, (session.stream compression terminalId resizes).1 =
      { session with
        outputRx := some []
        outputBuffer := waiting.foldl OutputBuffer.append session.outputBuffer
        ptySize := size
        state := state } := by
  simp only [stream, drain, channel, respond]
  split
  next closed => exact ⟨session.ptySize, session.state, rfl⟩
  next pendingBuffer sigwinch active =>
    obtain ⟨size, phase, redrawn⟩ := TerminalSession.redraw_frame
      ({ session with
          outputRx := some []
          outputBuffer := waiting.foldl OutputBuffer.append session.outputBuffer } : TerminalSession)
      sigwinch resizes
    exact ⟨size, .active none phase, redrawn⟩

/-- An active session streams its replay and all chunks of the channel. -/
theorem TerminalSession.stream_active (compression : Compression) (terminalId : Int)
    {session : TerminalSession} {waiting : List Bytes} {pendingBuffer : Option Bytes}
    {sigwinch : SigwinchPhase} (channel : session.outputRx = some waiting)
    (active : session.state = .active pendingBuffer sigwinch) (resizes : Bool) :
    (∃ size phase, (session.stream compression terminalId resizes).1 =
        { session with
          outputRx := some []
          outputBuffer := waiting.foldl OutputBuffer.append session.outputBuffer
          ptySize := size
          state := .active none phase }) ∧
      (session.stream compression terminalId resizes).2 =
        replayResponses compression terminalId pendingBuffer ++
          waiting.map (createTerminalDataResponse compression terminalId) := by
  simp only [stream, drain, channel, respond, active]
  refine ⟨?_, trivial⟩
  exact TerminalSession.redraw_frame _ sigwinch resizes

/-- A poll of a closed session only drains its channel, and one of an active session redraws it too. -/
theorem TerminalSession.poll_cases (compression : Compression) (terminalId : Int)
    (session : TerminalSession) (answer : PollAnswer) :
    ∃ sent outputRx outputBuffer,
      let drained := { session with
        closedMessageSent := sent
        outputRx := outputRx
        outputBuffer := outputBuffer }
      (session.state = .closed ∧ (session.poll compression terminalId answer).1 = drained) ∨
        ∃ pendingBuffer sigwinch, session.state = .active pendingBuffer sigwinch ∧
          (session.poll compression terminalId answer).1 = drained.redraw sigwinch answer.resizes := by
  obtain ⟨sent, checked⟩ := session.checkClosed_frame answer.waitFails
  obtain ⟨outputRx, outputBuffer, drained⟩ :=
    (session.checkClosed answer.waitFails).1.drain_frame
  rw [checked] at drained
  refine ⟨sent, outputRx, outputBuffer, ?_⟩
  dsimp only [poll, stream]
  rw [checked, drained, respond]
  dsimp only
  split
  next closed => exact .inl ⟨closed, rfl⟩
  next pendingBuffer sigwinch active => exact .inr ⟨pendingBuffer, sigwinch, active, rfl⟩

theorem TerminalSession.trySendOutput_some {session : TerminalSession} {waiting : List Bytes}
    (channel : session.outputRx = some waiting) (data : Bytes) :
    session.trySendOutput data =
      if waiting.length < channelBufferSize then
        ({ session with outputRx := some (waiting ++ [data]) }, false)
      else (session, false) := by
  simp only [trySendOutput, channel]

end SubnetDesk.Terminal
