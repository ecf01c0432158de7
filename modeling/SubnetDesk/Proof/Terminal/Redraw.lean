import SubnetDesk.Proof.Terminal.SessionSteps

namespace SubnetDesk.Terminal

/-- A poll redraws an active session and leaves the sizes of a closed one. -/
theorem TerminalSession.poll_sizes (compression : Compression) (terminalId : Int)
    (session : TerminalSession) (answer : PollAnswer) :
    let polled := (session.poll compression terminalId answer).1
    polled.rows = session.rows ∧ polled.cols = session.cols ∧
      ((polled.ptySize = session.ptySize ∧
          (session.state = .closed → polled.state = .closed) ∧
          ∀ pendingBuffer sigwinch, session.state = .active pendingBuffer sigwinch →
            polled.state = .active none sigwinch.advance.1) ∨
        ∃ pendingBuffer sigwinch action size,
          session.state = .active pendingBuffer sigwinch ∧ sigwinch.advance.2 = some action ∧
            session.sigwinchSize action = some size ∧ polled.ptySize = some size ∧
            polled.state = .active none action.next) := by
  intro polled
  obtain ⟨sent, outputRx, outputBuffer, ⟨closed, drains⟩ | ⟨buffered, sigwinch, active, draws⟩⟩ :=
    session.poll_cases compression terminalId answer
  · have same : polled = _ := drains
    rw [same]
    exact ⟨rfl, rfl, .inl ⟨rfl, id, fun _ _ started => by simp [closed] at started⟩⟩
  · have same : polled = _ := draws
    rw [same]
    rcases TerminalSession.redraw_cases _ sigwinch answer.resizes with
      waits | ⟨action, size, acts, asks, redrawn⟩
    · rw [waits]
      refine ⟨rfl, rfl, .inl ⟨rfl, fun closed => ?_, fun _ phase started => ?_⟩⟩
      · rw [active] at closed
        cases closed
      · rw [active, SessionState.active.injEq] at started
        rw [started.2]
    · rw [redrawn]
      exact ⟨rfl, rfl, .inr ⟨buffered, sigwinch, action, size, active, acts, asks, rfl, rfl⟩⟩

/-- The terminal has the size of the session. -/
def TerminalSession.Fits (session : TerminalSession) : Prop :=
  session.ptySize = some ⟨session.rows, session.cols⟩

/-- The terminal, the session and the client agree on the size. -/
def SessionRecord.InSync (record : SessionRecord) : Prop :=
  record.session.Fits ∧ record.requested = ⟨record.session.rows, record.session.cols⟩

/-- A client that opens the session again has the size of the session, as has the terminal, and no
resize is refused before the redraw has resized the terminal. -/
def SessionRecord.Agrees (record : SessionRecord) : SessionInput → Prop
  | .reopen rows cols =>
      record.session.Fits ∧ record.session.rows = UInt16.ofNat rows ∧
        record.session.cols = UInt16.ofNat cols
  | .resize _ _ resizes => resizes = true ∨ record.session.startsRedraw = false
  | _ => True

instance decidableAgrees (record : SessionRecord) (input : SessionInput) :
    Decidable (record.Agrees input) :=
  match input with
  | .send _ => inferInstanceAs (Decidable True)
  | .reset => inferInstanceAs (Decidable True)
  | .poll _ => inferInstanceAs (Decidable True)
  | .reopen rows cols =>
      inferInstanceAs (Decidable (record.session.ptySize =
          some ⟨record.session.rows, record.session.cols⟩ ∧
        record.session.rows = UInt16.ofNat rows ∧ record.session.cols = UInt16.ofNat cols))
  | .resize _ _ resizes =>
      inferInstanceAs (Decidable (resizes = true ∨ record.session.startsRedraw = false))

/-- The client's last request is the size of the session, whose terminal is present and has this
size when a redraw starts. -/
structure SessionRecord.Sized (record : SessionRecord) : Prop where
  requested : record.requested = ⟨record.session.rows, record.session.cols⟩
  present : record.session.ptySize.isSome = true
  starting : record.session.startsRedraw = true → record.session.Fits

/-- A new session has the size that its client has requested. -/
theorem sized_spawned (serial pid rows cols : Nat) (isHelperMode : Bool) :
    (SessionRecord.spawned serial pid rows cols isHelperMode).Sized :=
  ⟨rfl, rfl, fun _ => rfl⟩

/-- A resize that the terminal accepts puts the three sizes in step. -/
theorem SessionRecord.Sized.accepted {record : SessionRecord} (sized : record.Sized)
    (compression : Compression) (terminalId : Int) (rows cols : Nat) :
    ((sessionMachine compression terminalId).step record (.resize rows cols true)).1.InSync := by
  obtain ⟨size, present⟩ := Option.isSome_iff_exists.mp sized.present
  dsimp only [sessionMachine, TerminalSession.handleResize]
  rw [present]
  exact ⟨rfl, rfl⟩

/-- A resize that the terminal refuses changes the size of the session alone. -/
theorem SessionRecord.Sized.refused {record : SessionRecord} (sized : record.Sized)
    (compression : Compression) (terminalId : Int) (rows cols : Nat)
    (idle : record.session.startsRedraw = false) :
    ((sessionMachine compression terminalId).step record (.resize rows cols false)).1.Sized := by
  obtain ⟨size, present⟩ := Option.isSome_iff_exists.mp sized.present
  dsimp only [sessionMachine, TerminalSession.handleResize]
  rw [present]
  refine ⟨rfl, rfl, fun starts => ?_⟩
  have waiting : record.session.startsRedraw = true := starts
  rw [idle] at waiting
  cases waiting

/-- A poll that starts no resize of its own finds the redraw in the phase that it leaves. -/
theorem TerminalSession.startsRedraw_advance {session polled : TerminalSession}
    {pendingBuffer : Option Bytes} {sigwinch : SigwinchPhase}
    (active : session.state = .active pendingBuffer sigwinch)
    (advanced : polled.state = .active none sigwinch.advance.1)
    (starts : polled.startsRedraw = true) : session.startsRedraw = true := by
  unfold TerminalSession.startsRedraw at starts ⊢
  rw [advanced] at starts
  rw [active]
  cases sigwinch with
  | idle => exact starts
  | restore retries => cases retries <;> exact starts
  | tempResize retries =>
      cases retries with
      | zero => exact starts
      | succ left => rfl

/-- A poll keeps the size of the session, and the terminal's size until the redraw resizes it. -/
theorem SessionRecord.Sized.poll {record : SessionRecord} (sized : record.Sized)
    (compression : Compression) (terminalId : Int) (answer : PollAnswer) :
    ((sessionMachine compression terminalId).step record (.poll answer)).1.Sized := by
  obtain ⟨rows, cols, sizes⟩ := record.session.poll_sizes compression terminalId answer
  dsimp only [sessionMachine]
  rcases sizes with ⟨same, closed, active⟩ | ⟨_, _, action, size, _, _, _, resized, next⟩
  · refine ⟨?_, ?_, fun starts => ?_⟩
    · rw [rows, cols, sized.requested]
    · rw [same]
      exact sized.present
    · rw [TerminalSession.Fits, same, rows, cols]
      apply sized.starting
      cases state : record.session.state with
      | closed => simp [TerminalSession.startsRedraw, closed state] at starts
      | active pendingBuffer sigwinch =>
          exact TerminalSession.startsRedraw_advance state (active _ _ state) starts
  · refine ⟨?_, ?_, fun starts => ?_⟩
    · rw [rows, cols, sized.requested]
    · rw [resized]
      rfl
    · cases action with
      | tempResize => simp [TerminalSession.startsRedraw, next, SigwinchAction.next,
          maxSigwinchPhaseAttempts] at starts
      | restore => simp [TerminalSession.startsRedraw, next, SigwinchAction.next] at starts

/-- Every input that agrees with the sizes keeps them in step. -/
theorem SessionRecord.Sized.step {record : SessionRecord} (sized : record.Sized)
    (compression : Compression) (terminalId : Int) (input : SessionInput)
    (agrees : record.Agrees input) :
    ((sessionMachine compression terminalId).step record input).1.Sized := by
  cases input with
  | send data =>
      dsimp only [sessionMachine, TerminalSession.trySendOutput]
      split
      next => exact ⟨sized.requested, sized.present, sized.starting⟩
      next =>
        split
        next => exact ⟨sized.requested, sized.present, sized.starting⟩
        next => exact ⟨sized.requested, sized.present, sized.starting⟩
  | reset =>
      exact ⟨sized.requested, sized.present, fun starts => by
        simp [sessionMachine, TerminalSession.reset, TerminalSession.startsRedraw] at starts⟩
  | reopen rows cols =>
      obtain ⟨fits, sameRows, sameCols⟩ := agrees
      refine ⟨?_, sized.present, fun _ => fits⟩
      change PtySize.mk _ _ = PtySize.mk record.session.rows record.session.cols
      rw [sameRows, sameCols]
  | resize rows cols resizes =>
      cases resizes with
      | true =>
          obtain ⟨fits, requested⟩ := sized.accepted compression terminalId rows cols
          refine ⟨requested, ?_, fun _ => fits⟩
          rw [fits]
          rfl
      | false =>
          exact sized.refused compression terminalId rows cols
            (agrees.resolve_left Bool.false_ne_true)
  | poll answer => exact sized.poll compression terminalId answer

/-- The sizes stay in step in every run whose inputs agree with them. -/
theorem session_sized (compression : Compression) (terminalId : Int)
    (serial pid rows cols : Nat) (isHelperMode : Bool) (inputs : List SessionInput)
    (agrees : (sessionMachine compression terminalId).Guarded SessionRecord.Agrees
      (.spawned serial pid rows cols isHelperMode) inputs) :
    ((sessionMachine compression terminalId).run
      (.spawned serial pid rows cols isHelperMode) inputs).1.Sized :=
  (sessionMachine compression terminalId).run_invariant SessionRecord.Agrees
    (fun record _ => record.Sized)
    (fun _ _ input agrees sized => sized.step compression terminalId input agrees)
    (.spawned serial pid rows cols isHelperMode) [] inputs
    (sized_spawned serial pid rows cols isHelperMode) agrees

/-- The temporary size has other rows than the session, and some rows at all. -/
theorem SigwinchAction.targetRows_temp {rows : UInt16} (filled : rows ≠ 0) :
    SigwinchAction.tempResize.targetRows rows ≠ rows ∧
      SigwinchAction.tempResize.targetRows rows ≠ 0 := by
  simp only [targetRows, saturatingSub, saturatingAdd, if_neg filled]
  simp only [← UInt16.toNat_inj, ne_eq, UInt16.lt_iff_toNat_lt, UInt16.reduceToNat]
    at filled ⊢
  split
  next high =>
    have fits : (1 : UInt16) ≤ rows := by
      simp only [UInt16.le_iff_toNat_le, UInt16.reduceToNat]
      omega
    simp only [UInt16.toNat_sub_of_le _ _ fits, UInt16.reduceToNat]
    omega
  next low =>
    have below : ¬ rows.toNat = 65535 := by omega
    simp only [below, if_false, UInt16.toNat_add, UInt16.reduceToNat]
    omega

theorem TerminalSession.sigwinchSize_temp {session : TerminalSession} {size : PtySize}
    (asks : session.sigwinchSize .tempResize = some size) :
    size ≠ ⟨session.rows, session.cols⟩ ∧ size.rows ≠ 0 := by
  unfold sigwinchSize at asks
  split at asks
  next => cases asks
  next filled =>
    rw [not_or] at filled
    obtain ⟨other, some_⟩ := SigwinchAction.targetRows_temp filled.1
    obtain ⟨_, -, rfl⟩ := Option.map_eq_some_iff.mp asks
    refine ⟨fun same => other ?_, some_⟩
    rw [PtySize.mk.injEq] at same
    exact same.1

theorem TerminalSession.sigwinchSize_restore {session : TerminalSession} {size : PtySize}
    (asks : session.sigwinchSize .restore = some size) :
    size = ⟨session.rows, session.cols⟩ := by
  unfold sigwinchSize at asks
  split at asks
  next => cases asks
  next =>
    obtain ⟨_, -, rfl⟩ := Option.map_eq_some_iff.mp asks
    rfl

end SubnetDesk.Terminal
