import SubnetDesk.Construction.Web.VideoAcks

namespace SubnetDesk.WebClient

theorem queuedAfter_append (queued : Nat) (first second : List DecodeOutput) :
    queuedAfter queued (first ++ second) = queuedAfter (queuedAfter queued first) second :=
  List.foldl_append

/-- An iteration loses its frame after an exception, throws, or drops or decodes its frame. -/
theorem iterate_outcomes (loop : DecodeLoop) (encoded : EncodedVideoFrame) (decodeQueueSize : Nat) :
    (loop.thrown = true ∧ loop.iterate encoded decodeQueueSize = (loop, [.lost])) ∨
    (loop.thrown = false ∧ (loop.iterate encoded decodeQueueSize).1.thrown = true ∧
      (loop.iterate encoded decodeQueueSize).1.codecState ≠ .configured ∧
      ((∀ queued, queuedAfter queued (loop.iterate encoded decodeQueueSize).2 = 0) ∨
        loop.codecState ≠ .configured ∧
          ∀ queued, queuedAfter queued (loop.iterate encoded decodeQueueSize).2 = queued)) ∨
    (loop.thrown = false ∧ (loop.iterate encoded decodeQueueSize).1.thrown = false ∧
      (loop.iterate encoded decodeQueueSize).1.codecState = loop.codecState ∧
      (((loop.iterate encoded decodeQueueSize).2 = [.dropped] ∧
          (loop.iterate encoded decodeQueueSize).1.droppedFrames = loop.droppedFrames + 1) ∨
        (∃ chunk, (loop.iterate encoded decodeQueueSize).2 = [.decode .configured chunk] ∧
          (loop.iterate encoded decodeQueueSize).1.droppedFrames = loop.droppedFrames ∧
          loop.codecState = .configured))) := by
  unfold DecodeLoop.iterate
  cases thrown : loop.thrown with
  | true => exact .inl ⟨rfl, rfl⟩
  | false =>
      refine .inr ?_
      simp only [Bool.false_eq_true, if_false]
      split
      next waiting => exact .inr ⟨trivial, rfl, rfl, .inl ⟨rfl, rfl⟩⟩
      next =>
        split
        next resumed =>
          refine .inl ⟨trivial, ?_⟩
          split
          next closed => exact ⟨rfl, by rw [DecodeLoop.throw, closed]; decide, .inl fun _ => rfl⟩
          next => exact ⟨rfl, nofun, .inl fun _ => rfl⟩
        next =>
          split
          next long => exact .inr ⟨trivial, rfl, rfl, .inl ⟨rfl, rfl⟩⟩
          next =>
            unfold DecodeLoop.decode
            dsimp only
            by_cases configured : loop.codecState = .configured
            · refine .inr ⟨trivial, ?_⟩
              rw [if_pos configured, configured]
              exact ⟨rfl, rfl, .inr ⟨_, rfl, rfl, rfl⟩⟩
            · refine .inl ⟨trivial, ?_⟩
              rw [if_neg configured]
              refine ⟨rfl, configured, .inr ⟨configured, fun queued => ?_⟩⟩
              revert configured
              cases loop.codecState with
              | configured => exact fun no => absurd rfl no
              | unconfigured => exact fun _ => rfl
              | closed => exact fun _ => rfl

/-- The chunks in the decoder, while the loop goes on and after an exception has left it. -/
structure LoopCounted (codecState : CodecState) (queued dropped : Nat) (loop : DecodeLoop)
    (past : List DecodeOutput) : Prop where
  running : loop.thrown = false → loop.codecState = codecState ∧
    queued ≤ queuedAfter queued past ∧ dropped ≤ loop.droppedFrames ∧
    (loop.droppedFrames = dropped → queuedAfter queued past = queued + past.length) ∧
    (codecState ≠ .configured → queuedAfter queued past = queued)
  thrown : loop.thrown = true → loop.codecState ≠ .configured ∧
    (queuedAfter queued past = 0 ∨ codecState ≠ .configured ∧ queuedAfter queued past = queued)

/-- One frame keeps the counts of the loop. -/
theorem LoopCounted.iterate {codecState : CodecState} {queued dropped : Nat} {loop : DecodeLoop}
    {past : List DecodeOutput} (counted : LoopCounted codecState queued dropped loop past)
    (input : EncodedVideoFrame × Nat) :
    LoopCounted codecState queued dropped (decodeLoop.step loop input).1
      (past ++ (decodeLoop.step loop input).2) := by
  obtain ⟨encoded, decodeQueueSize⟩ := input
  change LoopCounted codecState queued dropped (loop.iterate encoded decodeQueueSize).1
    (past ++ (loop.iterate encoded decodeQueueSize).2)
  obtain ⟨thrown, same⟩ | ⟨notThrown, throws, state, calls⟩ | ⟨notThrown, runs, state, calls⟩ :=
    iterate_outcomes loop encoded decodeQueueSize
  · rw [same]
    refine ⟨fun no => absurd (thrown.symm.trans no) (by decide), fun _ => ?_⟩
    rw [queuedAfter_append]
    exact counted.thrown thrown
  · refine ⟨fun no => absurd (throws.symm.trans no) (by decide), fun _ => ⟨state, ?_⟩⟩
    obtain ⟨sameState, -, -, -, unchanged⟩ := counted.running notThrown
    rw [queuedAfter_append]
    cases calls with
    | inl reset => exact .inl (reset _)
    | inr kept =>
        rw [sameState] at kept
        exact .inr ⟨kept.1, (kept.2 _).trans (unchanged kept.1)⟩
  · refine ⟨fun _ => ?_, fun no => absurd (runs.symm.trans no) (by decide)⟩
    obtain ⟨sameState, grown, more, whole, unchanged⟩ := counted.running notThrown
    refine ⟨state.trans sameState, ?_⟩
    rw [queuedAfter_append, List.length_append]
    obtain ⟨outputs, drops⟩ | ⟨chunk, outputs, drops, configured⟩ := calls
    · rw [outputs, drops]
      exact ⟨grown, by omega, fun equal => by omega, unchanged⟩
    · rw [outputs, drops]
      refine ⟨Nat.le_succ_of_le grown, more, fun equal => ?_, fun no => ?_⟩
      · exact congrArg (· + 1) (whole equal)
      · exact absurd (sameState.symm.trans configured) no

/-- Every frame has an outcome. -/
theorem iterate_output (loop : DecodeLoop) (input : EncodedVideoFrame × Nat) :
    (decodeLoop.step loop input).2 ≠ [] := by
  obtain ⟨encoded, decodeQueueSize⟩ := input
  change (loop.iterate encoded decodeQueueSize).2 ≠ []
  unfold DecodeLoop.iterate DecodeLoop.decode
  dsimp only
  repeat' split
  all_goals exact List.cons_ne_nil _ _

def VideoBatch.hasFrames (batch : VideoBatch) (codec : ProtocolVideoCodec) : Bool :=
  !((encodedFrames batch.frame codec).getD []).isEmpty

/-- A batch with frames goes through the loop. -/
theorem decodeVideoBatch_some {codecState : CodecState} {batch : VideoBatch}
    {previous : VideoDecodeState} {frames : List EncodedVideoFrame} {left : DecodeLoop}
    {outputs : List DecodeOutput}
    (found : encodedFrames batch.frame previous.codec = some frames)
    (run : decodeLoop.run (previous.enter codecState (batch.decodeQueueSize 0))
      (batch.iterations frames) = (left, outputs)) :
    decodeVideoBatch codecState batch previous =
      (left.codecState,
        if left.thrown then none
        else some
          { timestamp := left.timestamp
            awaitingKeyFrame := left.awaitingKeyFrame
            droppedFrames := left.droppedFrames
            codec := previous.codec },
        outputs) := by
  simp only [decodeVideoBatch, found, run]

/-- A batch keeps the decoder and its chunks, with another chunk where no frame is dropped, or it
throws and leaves a decoder without configuration. -/
theorem decodeVideoBatch_cases (codecState : CodecState) (batch : VideoBatch)
    (previous : VideoDecodeState) (queued : Nat) :
    (∃ next outputs, decodeVideoBatch codecState batch previous = (codecState, some next, outputs) ∧
      queued ≤ queuedAfter queued outputs ∧
      (ackAtOnce previous next = false → batch.hasFrames previous.codec = true →
        queued < queuedAfter queued outputs) ∧
      (codecState ≠ .configured → queuedAfter queued outputs = queued)) ∨
    (∃ left outputs, decodeVideoBatch codecState batch previous = (left, none, outputs) ∧
      left ≠ .configured ∧ (queuedAfter queued outputs = 0 ∨
        codecState ≠ .configured ∧ queuedAfter queued outputs = queued)) := by
  cases found : encodedFrames batch.frame previous.codec with
  | none =>
      refine .inl ⟨previous, [], by simp only [decodeVideoBatch, found], Nat.le_refl _, ?_,
        fun _ => rfl⟩
      intro _ no
      rw [VideoBatch.hasFrames, found] at no
      cases no
  | some frames =>
      cases run : decodeLoop.run (previous.enter codecState (batch.decodeQueueSize 0))
        (batch.iterations frames) with
      | mk left outputs =>
          have counted := decodeLoop.run_invariant (fun _ _ => True)
            (LoopCounted codecState queued previous.droppedFrames)
            (fun _ _ input _ counted => counted.iterate input)
            (previous.enter codecState (batch.decodeQueueSize 0)) [] (batch.iterations frames)
            ⟨fun _ => ⟨rfl, Nat.le_refl _, Nat.le_refl _, fun _ => rfl, fun _ => rfl⟩, nofun⟩
            (decodeLoop.guarded_true _ _)
          rw [run, List.nil_append] at counted
          dsimp only at counted
          rw [decodeVideoBatch_some found run]
          cases thrown : left.thrown with
          | true =>
              obtain ⟨state, chunks⟩ := counted.thrown thrown
              exact .inr ⟨left.codecState, outputs, rfl, state, chunks⟩
          | false =>
              obtain ⟨state, grown, more, whole, unchanged⟩ := counted.running thrown
              refine .inl ⟨_, outputs, by rw [state]; rfl, grown, ?_, unchanged⟩
              intro later nonempty
              simp only [ackAtOnce, Bool.or_eq_false_iff, decide_eq_false_iff_not] at later
              have sameDrops : left.droppedFrames = previous.droppedFrames := by omega
              have filled : outputs ≠ [] := by
                cases frames with
                | nil =>
                    rw [VideoBatch.hasFrames, found] at nonempty
                    cases nonempty
                | cons first rest =>
                    rw [VideoBatch.iterations, List.mapIdx_cons, Machine.run] at run
                    have calls := congrArg Prod.snd run
                    intro empty
                    rw [empty] at calls
                    exact iterate_output _ _ (List.append_eq_nil_iff.mp calls).1
              have length := List.length_pos_iff.mpr filled
              rw [whole sameDrops]
              omega

/-- No frame is acknowledged twice, and all frames are where the decoder has no chunk and no message
is on its way. -/
structure Conserved (connected : Bool) (waiting : Nat) (received acked : Nat) : Prop where
  atMost : acked ≤ received
  settled : connected = true → waiting = 0 → acked = received

section MainPath

def MainClient.AcksConserved (client : MainClient) : Prop :=
  Conserved client.connected client.queued client.received client.acked

/-- A batch that is not acknowledged at once comes when no acknowledgement is pending, and it leaves a
chunk in the decoder. A chunk without an output does not leave the last acknowledgement behind. The
decoder fails or is configured again with and without a pending acknowledgement. -/
def MainGuard (client : MainClient) : MainEvent → Prop
  | .videoFrame batch => ∀ next,
      (decodeVideoBatch client.codecState batch client.decodeState).2.1 = some next →
        ackAtOnce client.decodeState next = false →
          client.videoAckPending = false ∧
            (batch.hasFrames client.decodeState.codec = true ∨ 0 < client.queued)
  | .decoder (.chunk shown) => shown = false → client.videoAckPending = true → client.queued ≠ 1
  | .decoder .error =>
      client.recovery.attempts < client.recovery.maxAttempts → client.videoAckPending = true
  | .peerInfo => client.videoAckPending = false
  | .close => True

/-- The frames of an open session without a worker. -/
structure MainClient.Counted (client : MainClient) : Prop where
  conserved : client.acked + client.videoAckPending.toNat = client.received
  pending : client.videoAckPending = true → 0 < client.queued
  configured : client.codecState = .configured

def MainClient.Sound (client : MainClient) : Prop :=
  client.acked ≤ client.received ∧ (client.connected = true → client.Counted)

theorem MainClient.Counted.sound {client : MainClient} (counted : client.Counted) : client.Sound :=
  ⟨by have conserved := counted.conserved; omega, fun _ => counted⟩

/-- A closed session is sound. -/
theorem MainClient.close_sound {client : MainClient} (atMost : client.acked ≤ client.received) :
    client.close.Sound :=
  ⟨atMost, nofun⟩

/-- A guarded batch is counted. -/
theorem MainClient.Counted.videoFrame {client : MainClient} (counted : client.Counted)
    (batch : VideoBatch) (met : MainGuard client (.videoFrame batch)) :
    (client.videoFrame batch).Sound := by
  obtain ⟨conserved, pending, configured⟩ := counted
  simp only [MainGuard] at met
  unfold MainClient.videoFrame
  obtain ⟨next, outputs, result, grown, more, -⟩ | ⟨left, outputs, result, -, -⟩ :=
    decodeVideoBatch_cases client.codecState batch client.decodeState client.queued
  · rw [result] at met ⊢
    dsimp only at met ⊢
    split
    next atOnce =>
      refine MainClient.Counted.sound ⟨?_, fun waits => ?_, configured⟩
      · simp only [MainClient.sendVideoAck]
        omega
      · have before := pending waits
        simp only [MainClient.sendVideoAck]
        omega
    next later =>
      have later := Bool.eq_false_iff.mpr later
      obtain ⟨free, filled⟩ := met next rfl later
      refine MainClient.Counted.sound ⟨?_, fun _ => ?_, configured⟩
      · rw [free, Bool.toNat_false] at conserved
        simp only [Bool.toNat_true]
        omega
      · cases filled with
        | inl frames =>
            have added := more later frames
            simp only
            omega
        | inr queued =>
            simp only
            omega
  · rw [result]
    refine MainClient.close_sound ?_
    simp only
    omega

/-- A recovery is granted or refused. -/
theorem requestDecoderRecovery_cases (previous : DecoderRecoveryState) :
    (previous.attempts < previous.maxAttempts ∧
      ∃ next, requestDecoderRecovery previous = (next, true)) ∨
    requestDecoderRecovery previous = (previous, false) := by
  unfold requestDecoderRecovery
  by_cases exhausted : previous.maxAttempts ≤ previous.attempts
  · rw [if_pos exhausted]
    exact .inr rfl
  · rw [if_neg exhausted]
    exact .inl ⟨Nat.lt_of_not_le exhausted, _, rfl⟩

/-- A recovery restarts or ends a session. -/
theorem MainClient.recoverDecoder_cases (client : MainClient) :
    (client.recovery.attempts < client.recovery.maxAttempts ∧ ∃ recovery,
      client.recoverDecoder = ({ client with recovery := recovery }).configureDecoder.sendVideoAck) ∨
    client.recoverDecoder = client.close := by
  unfold recoverDecoder
  obtain ⟨retries, next, granted⟩ | refused := requestDecoderRecovery_cases client.recovery
  · rw [granted]
    exact .inl ⟨retries, next, rfl⟩
  · rw [refused]
    exact .inr rfl

/-- An output acknowledges what is pending. -/
theorem MainClient.Counted.output {client : MainClient}
    (conserved : client.acked + client.videoAckPending.toNat = client.received)
    (configured : client.codecState = .configured) : client.output.Counted := by
  unfold MainClient.output
  split
  next waits =>
    rw [waits, Bool.toNat_true] at conserved
    exact ⟨conserved, nofun, configured⟩
  next free => exact ⟨conserved, fun waits => absurd waits free, configured⟩

/-- A guarded event is counted. -/
theorem MainClient.Counted.decoderEvent {client : MainClient} (counted : client.Counted)
    (event : DecoderEvent) (met : MainGuard client (.decoder event)) :
    (client.decoderEvent event).Sound := by
  obtain ⟨conserved, pending, configured⟩ := counted
  cases event with
  | chunk shown =>
      unfold MainClient.decoderEvent
      dsimp only
      split
      next => exact MainClient.Counted.sound ⟨conserved, pending, configured⟩
      next some_ =>
        cases shown with
        | true =>
            have left : ({ client with queued := client.queued - 1 }).output.Counted :=
              MainClient.Counted.output conserved configured
            exact left.sound
        | false =>
            refine MainClient.Counted.sound ⟨conserved, fun waits => ?_, configured⟩
            have more := met rfl waits
            have filled := pending waits
            change 0 < client.queued - 1
            omega
  | error =>
      simp only [MainClient.decoderEvent, configured, if_true]
      obtain ⟨retries, recovery, recovered⟩ | closed := MainClient.recoverDecoder_cases
        { client with codecState := .closed, queued := 0 }
      · rw [recovered]
        have waits := met retries
        rw [waits, Bool.toNat_true] at conserved
        exact MainClient.Counted.sound ⟨conserved, nofun, rfl⟩
      · rw [closed]
        refine MainClient.close_sound ?_
        simp only
        omega

/-- One guarded event is sound. -/
theorem MainClient.Sound.step {client : MainClient} (sound : client.Sound) (event : MainEvent)
    (met : MainGuard client event) : (mainPath.step client event).1.Sound := by
  unfold mainPath
  dsimp only
  split
  next connected =>
    have counted := sound.2 connected
    cases event with
    | videoFrame batch => exact counted.videoFrame batch met
    | decoder event => exact counted.decoderEvent event met
    | peerInfo =>
        have conserved := counted.conserved
        rw [met, Bool.toNat_false] at conserved
        exact MainClient.Counted.sound ⟨conserved, nofun, rfl⟩
    | close => exact MainClient.close_sound sound.1
  next => exact sound

/-- Without a worker no acknowledgement is lost. -/
theorem mainPath_conserved (codec : ProtocolVideoCodec) (events : List MainEvent)
    (guarded : mainPath.Guarded MainGuard (.start codec) events) :
    (mainPath.run (.start codec) events).1.AcksConserved := by
  have sound : (mainPath.run (.start codec) events).1.Sound :=
    mainPath.run_invariant MainGuard (fun client _ => client.Sound)
      (fun _ _ event met sound => sound.step event met) (.start codec) [] events
      (MainClient.Counted.sound ⟨rfl, nofun, rfl⟩) guarded
  revert sound
  generalize (mainPath.run (.start codec) events).1 = client
  intro sound
  refine ⟨sound.1, fun connected empty => ?_⟩
  obtain ⟨conserved, pending, -⟩ := sound.2 connected
  cases waits : client.videoAckPending with
  | true =>
      have filled := pending waits
      omega
  | false =>
      rw [waits, Bool.toNat_false] at conserved
      exact conserved

end MainPath

section WorkerPath

def WorkerInput.isFrame : WorkerInput → Bool
  | .frame _ => true
  | _ => false

def WorkerInput.recovers : WorkerInput → Bool
  | .initialize_ _ recovering => recovering
  | _ => false

theorem countP_posted (queue : List WorkerInput) (message : WorkerInput)
    (select : WorkerInput → Bool) :
    (queue ++ [message]).countP select = queue.countP select + (select message).toNat := by
  rw [List.countP_append, List.countP_singleton]
  cases select message <;> rfl

/-- The frames that the worker has taken and not acknowledged. -/
def VideoWorker.unacked (worker : VideoWorker) : Nat := worker.pendingAcks + worker.lost

/-- The frames, chunks and messages between the client and its worker. -/
def WorkerClient.waiting (client : WorkerClient) : Nat :=
  client.toWorker.length + client.worker.queued + client.toMain.length

def WorkerClient.AcksConserved (client : WorkerClient) : Prop :=
  Conserved client.connected client.waiting client.received client.acked

/-- A message that the worker takes: an initialization resets one unacknowledged frame for a recovery
and none otherwise, and a batch that is not acknowledged at once leaves a chunk for it. -/
def InputGuard (worker : VideoWorker) : WorkerInput → Prop
  | .initialize_ _ recovering => worker.unacked = recovering.toNat
  | .frame batch => ∀ codecState next, worker.decoder = some codecState →
      (decodeVideoBatch codecState batch worker.decodeState).2.1 = some next →
        ackAtOnce worker.decodeState next = false →
          batch.hasFrames worker.decodeState.codec = true ∨ worker.pendingAcks < worker.queued
  | .reset => worker.unacked = 0

/-- A recovery begins for a decoder that has failed with an unacknowledged frame. -/
def WorkerGuard (client : WorkerClient) : WorkerEvent → Prop
  | .deliverToWorker => ∀ message rest, client.toWorker = message :: rest →
      InputGuard client.worker message
  | .deliverToMain => ∀ rest, client.toMain = .error :: rest →
      client.recovery.attempts < client.recovery.maxAttempts →
        0 < client.worker.unacked ∧ client.toWorker.countP (·.recovers) = 0 ∧
          client.worker.decoder ≠ some .configured
  | .decoder (.chunk shown) => shown = false → 0 < client.worker.queued →
      0 < client.worker.pendingAcks → client.worker.pendingAcks < client.worker.queued
  | .decoder .error | .videoFrame _ | .peerInfo | .close => True

/-- The frames of an open session with a worker, where `errors` and `recoveries` are on their way. -/
structure VideoWorker.Counted (worker : VideoWorker) (errors recoveries : Nat) : Prop where
  owed : recoveries ≤ worker.unacked
  chunks : worker.pendingAcks ≤ worker.queued ∨ 0 < errors + recoveries
  lostTold : worker.lost = 0 ∨ 0 < errors + recoveries
  dead : 0 < recoveries → worker.decoder ≠ some .configured
  alive : 0 < worker.queued → worker.decoder = some .configured

structure WorkerClient.Counted (client : WorkerClient) : Prop where
  conserved : client.received + client.toWorker.countP (·.recovers) =
    client.acked + client.toMain.count .ack + client.worker.unacked +
      client.toWorker.countP (·.isFrame)
  worker : client.worker.Counted (client.toMain.count .error) (client.toWorker.countP (·.recovers))

def WorkerClient.Sound (client : WorkerClient) : Prop :=
  client.acked ≤ client.received ∧ (client.connected = true → client.Counted)

theorem WorkerClient.Counted.sound {client : WorkerClient} (counted : client.Counted) :
    client.Sound := by
  refine ⟨?_, fun _ => counted⟩
  have conserved := counted.conserved
  have owed := counted.worker.owed
  omega

/-- The worker takes a message or makes a step of its decoder. The frames that it takes and the
recoveries that it makes are acknowledged or still owed. -/
structure VideoWorker.Step (worker next : VideoWorker) (outputs : List WorkerOutput)
    (errors recoveries taken made : Nat) : Prop where
  balance : worker.unacked + taken = outputs.count .ack + next.unacked + made
  counted : next.Counted (errors + outputs.count .error) (recoveries - made)

/-- A batch is counted by the worker. -/
theorem VideoWorker.Counted.frame {worker : VideoWorker} {errors recoveries : Nat}
    (counted : worker.Counted errors recoveries) (batch : VideoBatch)
    (met : InputGuard worker (.frame batch)) :
    worker.Step (worker.decode batch).1 (worker.decode batch).2 errors recoveries 1 0 := by
  obtain ⟨owed, chunks, lostTold, dead, alive⟩ := counted
  simp only [InputGuard] at met
  unfold VideoWorker.decode
  cases decoder : worker.decoder with
  | none =>
      rw [decoder] at dead alive
      exact ⟨by simp [Nat.add_comm], owed, chunks, lostTold, by rw [decoder]; exact dead,
        by rw [decoder]; exact alive⟩
  | some codecState =>
      rw [decoder] at dead alive
      dsimp only
      obtain ⟨next, outputs, result, grown, more, unchanged⟩ |
          ⟨left, outputs, result, failed, cleared⟩ :=
        decodeVideoBatch_cases codecState batch worker.decodeState worker.queued
      · have met := met codecState next decoder (by rw [result])
        have alive : 0 < queuedAfter worker.queued outputs →
            some codecState = some CodecState.configured := by
          intro filled
          by_cases configured : codecState = .configured
          · rw [configured]
          · rw [unchanged configured] at filled
            exact alive filled
        rw [result]
        dsimp only
        split
        next atOnce =>
          refine ⟨by simp [VideoWorker.unacked, Nat.add_comm], owed, ?_, lostTold, dead, alive⟩
          simp only
          omega
        next later =>
          have later := Bool.eq_false_iff.mpr later
          refine ⟨by simp [VideoWorker.unacked]; omega, ?_, ?_, lostTold, dead, alive⟩
          · simp only [VideoWorker.unacked] at owed ⊢
            omega
          · simp only
            obtain frames | spare := met later
            · have added := more later frames
              simp
              omega
            · simp
              omega
      · rw [result]
        refine ⟨by simp [VideoWorker.unacked]; omega, ?_, .inr (by simp), .inr (by simp), ?_, ?_⟩
        · simp only [VideoWorker.unacked] at owed ⊢
          omega
        · exact fun _ equal => failed (Option.some.inj equal)
        · intro filled
          obtain empty | ⟨notConfigured, same⟩ := cleared
          · rw [empty] at filled
            cases filled
          · rw [same] at filled
            exact absurd (Option.some.inj (alive filled)) notConfigured

/-- A message is counted by the worker. -/
theorem VideoWorker.Counted.message {worker : VideoWorker} {errors recoveries : Nat}
    (counted : worker.Counted errors recoveries) (message : WorkerInput)
    (met : InputGuard worker message) :
    worker.Step (worker.onMessage message).1 (worker.onMessage message).2 errors recoveries
      message.isFrame.toNat message.recovers.toNat := by
  have owed := counted.owed
  cases message with
  | initialize_ protocol recovering =>
      have met : worker.unacked = recovering.toNat := met
      refine ⟨?_, ?_, .inl (Nat.zero_le _), .inl rfl, ?_, nofun⟩
      · simp [WorkerInput.isFrame, WorkerInput.recovers, VideoWorker.onMessage,
          VideoWorker.initialize_, VideoWorker.resetDecoder, VideoWorker.unacked] at met ⊢
        exact met
      · simp only [WorkerInput.recovers]
        omega
      · simp only [WorkerInput.recovers]
        omega
  | frame batch => exact counted.frame batch met
  | reset =>
      have met : worker.unacked = 0 := met
      refine ⟨?_, ?_, .inl (Nat.zero_le _), .inl rfl, ?_, nofun⟩
      · simp [WorkerInput.isFrame, WorkerInput.recovers, VideoWorker.onMessage,
          VideoWorker.resetDecoder, VideoWorker.unacked] at met ⊢
        exact met
      · simp only [WorkerInput.recovers]
        omega
      · exact fun _ => nofun

/-- An event is counted by the worker. -/
theorem VideoWorker.Counted.decoderEvent {worker : VideoWorker} {errors recoveries : Nat}
    (counted : worker.Counted errors recoveries) (event : DecoderEvent)
    (met : ∀ shown, event = .chunk shown → shown = false → 0 < worker.queued →
      0 < worker.pendingAcks → worker.pendingAcks < worker.queued) :
    worker.Step (worker.decoderEvent event).1 (worker.decoderEvent event).2 errors recoveries 0 0 := by
  obtain ⟨owed, chunks, lostTold, dead, alive⟩ := counted
  have same : worker.Step worker [] errors recoveries 0 0 :=
    ⟨by simp, owed, chunks, lostTold, dead, alive⟩
  unfold VideoWorker.decoderEvent
  cases event with
  | chunk shown =>
      dsimp only
      split
      next => exact same
      next some_ =>
        have configured := alive (Nat.pos_of_ne_zero some_)
        have none_ : recoveries = 0 := by
          by_contra more
          exact dead (Nat.pos_of_ne_zero more) configured
        subst none_
        cases shown with
        | true =>
            simp only [if_true, VideoWorker.output]
            split
            next waits =>
              refine ⟨?_, Nat.zero_le _, ?_, lostTold, nofun, fun _ => configured⟩
              · simp only [VideoWorker.unacked, List.count_singleton_self]
                omega
              · simp only [List.count_singleton]
                simp
                omega
            next free =>
              refine ⟨by simp [VideoWorker.unacked], Nat.zero_le _, ?_, lostTold, nofun,
                fun _ => configured⟩
              simp only at free ⊢
              omega
        | false =>
            have spare := met false rfl rfl (Nat.pos_of_ne_zero some_)
            refine ⟨by simp [VideoWorker.unacked], Nat.zero_le _, ?_, lostTold, nofun,
              fun _ => configured⟩
            simp
            omega
  | error =>
      dsimp only
      split
      next configured =>
        exact ⟨by simp [VideoWorker.unacked], owed, .inr (by simp), .inr (by simp), fun _ => nofun,
          nofun⟩
      next => exact same

/-- A step of the worker takes a message from the front of its queue or none. -/
theorem WorkerClient.Counted.worked {client : WorkerClient} (counted : client.Counted)
    {next : VideoWorker} {outputs : List WorkerOutput} {rest : List WorkerInput} {taken made : Nat}
    (frames : client.toWorker.countP (·.isFrame) = taken + rest.countP (·.isFrame))
    (recoveries : client.toWorker.countP (·.recovers) = made + rest.countP (·.recovers))
    (step : client.worker.Step next outputs (client.toMain.count .error)
      (client.toWorker.countP (·.recovers)) taken made) :
    (({ client with toWorker := rest }).worked (next, outputs)).Counted := by
  obtain ⟨balance, counts⟩ := step
  have conserved := counted.conserved
  rw [recoveries, Nat.add_sub_cancel_left] at counts
  refine ⟨?_, ?_⟩
  · simp only [WorkerClient.worked, List.count_append]
    omega
  · simp only [WorkerClient.worked, List.count_append]
    exact counts

/-- A recovery restarts or ends a session. -/
theorem WorkerClient.recoverDecoder_cases (client : WorkerClient) :
    (client.recovery.attempts < client.recovery.maxAttempts ∧ ∃ recovery,
      client.recoverDecoder = (({ client with recovery := recovery }).post
        (.initialize_ client.codec true)).sendVideoAck) ∨
    client.recoverDecoder = client.close := by
  unfold recoverDecoder
  obtain ⟨retries, next, granted⟩ | refused := requestDecoderRecovery_cases client.recovery
  · rw [granted]
    exact .inl ⟨retries, next, rfl⟩
  · rw [refused]
    exact .inr rfl

/-- An answer of the worker is counted. -/
theorem WorkerClient.Counted.message {client : WorkerClient} (counted : client.Counted)
    {message : WorkerOutput} {rest : List WorkerOutput} (queue : client.toMain = message :: rest)
    (met : WorkerGuard client .deliverToMain) :
    (({ client with toMain := rest }).onMessage message).Sound := by
  have atMost := counted.sound.1
  obtain ⟨conserved, owed, chunks, lostTold, dead, alive⟩ := counted
  rw [queue] at conserved chunks lostTold
  cases message with
  | ack =>
      simp only [List.count_cons] at conserved chunks lostTold
      refine WorkerClient.Counted.sound ⟨?_, owed, chunks, lostTold, dead, alive⟩
      simp only [WorkerClient.onMessage, WorkerClient.sendVideoAck]
      simp at conserved
      omega
  | error =>
      simp only [List.count_cons] at conserved chunks lostTold
      simp only [WorkerClient.onMessage]
      obtain ⟨retries, recovery, recovered⟩ | closed := WorkerClient.recoverDecoder_cases
        { client with toMain := rest }
      · obtain ⟨unacked, first, failed⟩ := met rest queue retries
        rw [recovered]
        simp only [WorkerClient.post, WorkerClient.sendVideoAck]
        have isFrame : (WorkerInput.initialize_ client.codec true).isFrame.toNat = 0 := rfl
        have recovers : (WorkerInput.initialize_ client.codec true).recovers.toNat = 1 := rfl
        refine WorkerClient.Counted.sound ⟨?_, ?_⟩
        · simp only [countP_posted, isFrame, recovers]
          simp at conserved
          omega
        · simp only [countP_posted, recovers, first]
          exact ⟨unacked, .inr (by omega), .inr (by omega), fun _ => failed, alive⟩
      · rw [closed]
        exact ⟨atMost, nofun⟩

/-- One guarded event is sound. -/
theorem WorkerClient.Sound.step {client : WorkerClient} (sound : client.Sound) (event : WorkerEvent)
    (met : WorkerGuard client event) : (workerPath.step client event).1.Sound := by
  unfold workerPath
  dsimp only
  split
  next connected =>
    have counted := sound.2 connected
    cases event with
    | videoFrame batch =>
        have isFrame : (WorkerInput.frame batch).isFrame.toNat = 1 := rfl
        have recovers : (WorkerInput.frame batch).recovers.toNat = 0 := rfl
        have conserved := counted.conserved
        refine WorkerClient.Counted.sound ⟨?_, ?_⟩
        · simp only [WorkerClient.post, countP_posted, isFrame, recovers]
          omega
        · simp only [WorkerClient.post, countP_posted, recovers]
          exact counted.worker
    | deliverToWorker =>
        dsimp only
        split
        next => exact sound
        next message rest queue =>
          have step := counted.worker.message message (met message rest queue)
          refine (counted.worked ?_ ?_ step).sound
          · rw [queue, List.countP_cons, Nat.add_comm]
            cases message.isFrame <;> rfl
          · rw [queue, List.countP_cons, Nat.add_comm]
            cases message.recovers <;> rfl
    | deliverToMain =>
        dsimp only
        split
        next => exact sound
        next message rest queue => exact counted.message queue met
    | decoder event =>
        have step := counted.worker.decoderEvent event
          (fun shown same => by subst same; exact met)
        exact (counted.worked (Nat.zero_add _).symm (Nat.zero_add _).symm step).sound
    | peerInfo =>
        have isFrame : (WorkerInput.initialize_ client.codec false).isFrame.toNat = 0 := rfl
        have recovers : (WorkerInput.initialize_ client.codec false).recovers.toNat = 0 := rfl
        have conserved := counted.conserved
        refine WorkerClient.Counted.sound ⟨?_, ?_⟩
        · simp only [WorkerClient.post, countP_posted, isFrame, recovers]
          omega
        · simp only [WorkerClient.post, countP_posted, recovers]
          exact counted.worker
    | close => exact ⟨sound.1, nofun⟩
  next => exact sound

/-- A new session is sound. -/
theorem WorkerClient.start_sound (codec : ProtocolVideoCodec) : (WorkerClient.start codec).Sound :=
  WorkerClient.Counted.sound ⟨rfl, Nat.zero_le _, .inl (Nat.le_refl _), .inl rfl, nofun, nofun⟩

/-- With a worker no acknowledgement is lost. -/
theorem workerPath_conserved (codec : ProtocolVideoCodec) (events : List WorkerEvent)
    (guarded : workerPath.Guarded WorkerGuard (.start codec) events) :
    (workerPath.run (.start codec) events).1.AcksConserved := by
  have sound : (workerPath.run (.start codec) events).1.Sound :=
    workerPath.run_invariant WorkerGuard (fun client _ => client.Sound)
      (fun _ _ event met sound => sound.step event met) (.start codec) [] events
      (WorkerClient.start_sound codec) guarded
  revert sound
  generalize (workerPath.run (.start codec) events).1 = client
  intro sound
  refine ⟨sound.1, fun connected settled => ?_⟩
  obtain ⟨conserved, owed, chunks, lostTold, -, -⟩ := sound.2 connected
  simp only [WorkerClient.waiting, Nat.add_eq_zero_iff, List.length_eq_zero_iff] at settled
  obtain ⟨⟨toWorker, queued⟩, toMain⟩ := settled
  simp only [toWorker, toMain, VideoWorker.unacked, List.countP_nil, List.count_nil, queued]
    at conserved chunks lostTold
  omega

end WorkerPath

/-- Acknowledgements are conserved without and with a worker, in every run whose steps are guarded. -/
theorem acks_conserved (codec : ProtocolVideoCodec) :
    (∀ events, mainPath.Guarded MainGuard (.start codec) events →
      (mainPath.run (.start codec) events).1.AcksConserved) ∧
    (∀ events, workerPath.Guarded WorkerGuard (.start codec) events →
      (workerPath.run (.start codec) events).1.AcksConserved) :=
  ⟨mainPath_conserved codec, workerPath_conserved codec⟩

section Runs

def keyBatch : VideoBatch where
  frame := ⟨some [⟨[], true, 1⟩], none, none⟩
  decodeQueueSize _ := 0

def emptyBatch : VideoBatch where
  frame := ⟨none, none, none⟩
  decodeQueueSize _ := 0

def deltaBatch : VideoBatch where
  frame := ⟨some [⟨[], false, 2⟩], none, none⟩
  decodeQueueSize _ := 0

/-- A key frame and a delta frame are shown one after the other. -/
def shownMain : List MainEvent :=
  [.videoFrame keyBatch, .decoder (.chunk true), .videoFrame deltaBatch, .decoder (.chunk true)]

/-- The same frames go through the worker, and the second one is posted before the first answer. -/
def shownWorker : List WorkerEvent :=
  [.deliverToWorker, .videoFrame keyBatch, .deliverToWorker, .decoder (.chunk true),
    .videoFrame deltaBatch, .deliverToMain, .deliverToWorker, .decoder (.chunk true),
    .deliverToMain]

theorem shown_frames_acked :
    ((mainPath.run (.start .vp9) shownMain).1.received = 2 ∧
      (mainPath.run (.start .vp9) shownMain).1.AcksConserved) ∧
    (workerPath.run (.start .vp9) shownWorker).1.received = 2 ∧
      (workerPath.run (.start .vp9) shownWorker).1.AcksConserved := by
  refine ⟨⟨by decide +kernel, ?_⟩, by decide +kernel, ?_⟩
  · refine (acks_conserved .vp9).1 shownMain ⟨?_, nofun, ?_, nofun, trivial⟩
    · exact fun _ _ _ => ⟨rfl, .inl rfl⟩
    · exact fun _ _ _ => ⟨rfl, .inl rfl⟩
  · refine (acks_conserved .vp9).2 shownWorker
      ⟨?_, trivial, ?_, nofun, trivial, ?_, ?_, nofun, ?_, trivial⟩
    · intro message rest queue
      cases queue
      rfl
    · intro message rest queue
      cases queue
      exact fun _ _ _ _ _ => .inl rfl
    · intro rest queue
      cases queue
    · intro message rest queue
      cases queue
      exact fun _ _ _ _ _ => .inl rfl
    · intro rest queue
      cases queue

/-- A batch without frames is never acknowledged, two batches in the decoder are acknowledged once,
and a decoder that fails before the first frame is acknowledged with none. -/
theorem acks_not_conserved :
    ¬ (mainPath.run (.start .vp9) [.videoFrame emptyBatch]).1.AcksConserved ∧
    ¬ (mainPath.run (.start .vp9) [.videoFrame keyBatch, .videoFrame keyBatch,
      .decoder (.chunk true), .decoder (.chunk true)]).1.AcksConserved ∧
    ¬ (workerPath.run (.start .vp9)
      [.deliverToWorker, .decoder .error, .deliverToMain]).1.AcksConserved :=
  ⟨fun conserved => absurd (conserved.settled rfl rfl) (by decide +kernel),
    fun conserved => absurd (conserved.settled rfl rfl) (by decide +kernel),
    fun conserved => absurd conserved.atMost (by decide +kernel)⟩

end Runs

end SubnetDesk.WebClient
