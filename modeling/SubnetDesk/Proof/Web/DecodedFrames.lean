import SubnetDesk.Construction.Web.Video

namespace SubnetDesk.WebClient

open Machine (Judged)

def DecodeOutput.chunk? : DecodeOutput → Option EncodedVideoChunk
  | .decode _ chunk => some chunk
  | _ => none

def DecodeOutput.notDecoded : DecodeOutput → Bool
  | .dropped | .lost => true
  | _ => false

/-- A chunk has been decoded since the decoder was configured or reset. -/
def started (past : List DecodeOutput) : Bool :=
  past.foldl (fun started output => match output with
    | .reset _ => false
    | .decode _ _ => true
    | .dropped | .lost => started) false

/-- A key chunk has been decoded since the last frame that was not. -/
def resumed (past : List DecodeOutput) : Bool :=
  past.foldl (fun resumed output => match output with
    | .dropped | .lost => false
    | .decode _ chunk => chunk.key || resumed
    | .reset _ => resumed) true

def timestamps (past : List DecodeOutput) : List Nat :=
  (past.filterMap DecodeOutput.chunk?).map (·.timestamp)

/-- A chunk is decoded on a configured decoder, a delta chunk only after a key chunk, and later than
the chunks before it. -/
def GoodCall (past : List DecodeOutput) : DecodeOutput → Prop
  | .decode state chunk =>
      state = .configured ∧
        (chunk.key = true ∨ started past = true ∧ resumed past = true) ∧
        ∀ earlier ∈ timestamps past, earlier < chunk.timestamp
  | _ => True

theorem timestamps_append (past outputs : List DecodeOutput) :
    timestamps (past ++ outputs) = timestamps past ++ timestamps outputs := by
  rw [timestamps, List.filterMap_append, List.map_append]
  rfl

theorem addOne_le {timestamp : Nat} (bounded : timestamp ≤ maxSafeInteger + 1) :
    addOne timestamp ≤ maxSafeInteger + 1 := by
  unfold addOne
  split <;> omega

/-- A time stays below the limit. -/
theorem nextTimestamp_le {timestamp : Nat} (pts : Int) (bounded : timestamp ≤ maxSafeInteger + 1) :
    nextTimestamp timestamp pts ≤ maxSafeInteger + 1 := by
  unfold nextTimestamp
  split
  next safe => omega
  next => exact addOne_le bounded

/-- A time never falls. -/
theorem le_nextTimestamp (timestamp : Nat) (pts : Int) : timestamp ≤ nextTimestamp timestamp pts := by
  unfold nextTimestamp addOne
  split
  next safe => omega
  next => split <;> omega

/-- The timestamps grow until they reach the first number that is not safe. -/
theorem lt_nextTimestamp_iff {timestamp : Nat} (pts : Int) (bounded : timestamp ≤ maxSafeInteger + 1) :
    timestamp < nextTimestamp timestamp pts ↔ timestamp ≠ maxSafeInteger + 1 := by
  unfold nextTimestamp addOne
  split
  next safe => omega
  next => split <;> omega

/-- What the outputs before it tell of a state that no exception and no reset has left. -/
structure Decoded (past : List DecodeOutput) (timestamp : Nat) (awaitingKeyFrame : Bool)
    (droppedFrames : Nat) : Prop where
  noReset : ∀ output ∈ past, ∀ state, output ≠ .reset state
  resumed : awaitingKeyFrame = false → resumed past = true
  earlier : ∀ other ∈ timestamps past, other ≤ timestamp
  bounded : timestamp ≤ maxSafeInteger + 1
  dropped : droppedFrames = past.countP (·.notDecoded)

/-- At the start nothing is decoded. -/
theorem Decoded.start : Decoded [] 0 false 0 where
  noReset _ member := by cases member
  resumed _ := rfl
  earlier _ member := by cases member
  bounded := Nat.zero_le _
  dropped := rfl

/-- A wait for a key frame is in order. -/
theorem Decoded.await {past : List DecodeOutput} {timestamp droppedFrames : Nat} {awaiting : Bool}
    (decoded : Decoded past timestamp awaiting droppedFrames) (more : Bool) :
    Decoded past timestamp (awaiting || more) droppedFrames where
  noReset := decoded.noReset
  resumed no := decoded.resumed (Bool.or_eq_false_iff.mp no).1
  earlier := decoded.earlier
  bounded := decoded.bounded
  dropped := decoded.dropped

/-- Without a reset the decoder has started with the first chunk. -/
theorem started_of_noReset (past : List DecodeOutput)
    (noReset : ∀ output ∈ past, ∀ state, output ≠ .reset state) :
    started past = past.any (·.chunk?.isSome) := by
  have general : ∀ before, past.foldl (fun started output => match output with
      | DecodeOutput.reset _ => false
      | .decode _ _ => true
      | .dropped | .lost => started) before = (before || past.any (·.chunk?.isSome)) := by
    induction past with
    | nil => exact fun before => (Bool.or_false before).symm
    | cons output rest ih =>
        rw [List.forall_mem_cons] at noReset
        intro before
        rw [List.foldl_cons, ih noReset.2, List.any_cons]
        cases output with
        | reset state => exact absurd rfl (noReset.1 state)
        | decode state chunk => simp [DecodeOutput.chunk?]
        | dropped => simp [DecodeOutput.chunk?]
        | lost => simp [DecodeOutput.chunk?]
  exact (general false).trans (Bool.false_or _)

/-- A dropped frame is in order. -/
theorem Decoded.drop {past : List DecodeOutput} {timestamp droppedFrames : Nat} {awaiting : Bool}
    (decoded : Decoded past timestamp awaiting droppedFrames) (pts : Int) :
    Decoded (past ++ [.dropped]) (nextTimestamp timestamp pts) true (droppedFrames + 1) where
  noReset output member := by
    rw [List.mem_append, List.mem_singleton] at member
    obtain old | rfl := member
    · exact decoded.noReset output old
    · exact fun state equal => by cases equal
  resumed no := by cases no
  earlier other member := by
    rw [timestamps_append, List.mem_append] at member
    obtain old | new := member
    · exact Nat.le_trans (decoded.earlier other old) (le_nextTimestamp timestamp pts)
    · cases new
  bounded := nextTimestamp_le pts decoded.bounded
  dropped := by
    rw [List.countP_append, ← decoded.dropped]
    rfl

/-- A decoded frame is in order. -/
theorem Decoded.decode {past : List DecodeOutput} {timestamp droppedFrames : Nat}
    (decoded : Decoded past timestamp false droppedFrames) (encoded : EncodedVideoFrame) :
    Decoded (past ++ [.decode .configured
      ⟨encoded.key, nextTimestamp timestamp encoded.pts, encoded.data⟩])
      (nextTimestamp timestamp encoded.pts) false droppedFrames where
  noReset output member := by
    rw [List.mem_append, List.mem_singleton] at member
    obtain old | rfl := member
    · exact decoded.noReset output old
    · exact fun state equal => by cases equal
  resumed _ := by
    have before := decoded.resumed rfl
    unfold WebClient.resumed at before ⊢
    rw [List.foldl_append, before]
    exact Bool.or_true _
  earlier other member := by
    rw [timestamps_append, List.mem_append] at member
    obtain old | new := member
    · exact Nat.le_trans (decoded.earlier other old) (le_nextTimestamp timestamp encoded.pts)
    · exact Nat.le_of_eq (List.mem_singleton.mp new)
  bounded := nextTimestamp_le encoded.pts decoded.bounded
  dropped := by
    rw [List.countP_append, ← decoded.dropped]
    rfl

/-- The frames that the client waits for are dropped and not key frames, and a chunk that is decoded
is a key chunk or follows one, before the timestamps have reached their end. -/
def FrameGuard (past : List DecodeOutput) (loop : DecodeLoop) (input : EncodedVideoFrame × Nat) :
    Prop :=
  if loop.awaitingKeyFrame then input.1.key = false
  else input.2 ≤ maxDecodeQueueSize →
    (input.1.key = true ∨ past.any (·.chunk?.isSome) = true) ∧
      maxSafeInteger + 1 ∉ timestamps past

/-- No exception and no reset has been in the loop. -/
structure DecodeLoop.Sound (past : List DecodeOutput) (loop : DecodeLoop) : Prop where
  notThrown : loop.thrown = false
  configured : loop.codecState = .configured
  notReset : loop.resetForKeyFrame = false
  decoded : Decoded past loop.timestamp loop.awaitingKeyFrame loop.droppedFrames

/-- A time is later below the limit. -/
theorem Decoded.later_iff {past : List DecodeOutput} {timestamp droppedFrames : Nat} {awaiting : Bool}
    (decoded : Decoded past timestamp awaiting droppedFrames) (pts : Int) :
    (∀ earlier ∈ timestamps past, earlier < nextTimestamp timestamp pts) ↔
      maxSafeInteger + 1 ∉ timestamps past := by
  have bounded := nextTimestamp_le pts decoded.bounded
  constructor
  · intro later member
    have lower := later _ member
    omega
  · intro notEnd earlier member
    have lower := decoded.earlier earlier member
    by_cases ended : timestamp = maxSafeInteger + 1
    · have different : earlier ≠ maxSafeInteger + 1 := fun equal => notEnd (equal ▸ member)
      have next := le_nextTimestamp timestamp pts
      omega
    · have next := (lt_nextTimestamp_iff pts decoded.bounded).mpr ended
      omega

/-- The cases of an iteration without exception or reset before it. -/
theorem iterate_cases {past : List DecodeOutput} {loop : DecodeLoop} (sound : loop.Sound past)
    (encoded : EncodedVideoFrame) (decodeQueueSize : Nat) :
    (loop.awaitingKeyFrame = true ∧ encoded.key = true ∧ ∃ rest,
      (loop.iterate encoded decodeQueueSize).2 = .reset .configured :: .decode .unconfigured rest :: []) ∨
    ((if loop.awaitingKeyFrame then encoded.key = false else maxDecodeQueueSize < decodeQueueSize) ∧
      loop.iterate encoded decodeQueueSize =
        ({ loop with timestamp := nextTimestamp loop.timestamp encoded.pts } |>.drop, [.dropped])) ∨
    (loop.awaitingKeyFrame = false ∧ decodeQueueSize ≤ maxDecodeQueueSize ∧
      loop.iterate encoded decodeQueueSize =
        ({ loop with timestamp := nextTimestamp loop.timestamp encoded.pts },
          [.decode .configured
            ⟨encoded.key, nextTimestamp loop.timestamp encoded.pts, encoded.data⟩])) := by
  obtain ⟨notThrown, configured, notReset, -⟩ := sound
  unfold DecodeLoop.iterate
  rw [if_neg (by rw [notThrown]; exact Bool.false_ne_true)]
  cases awaiting : loop.awaitingKeyFrame with
  | true =>
      cases key : encoded.key with
      | true =>
          refine .inl ⟨rfl, rfl, ?_⟩
          simp [key, configured, DecodeLoop.resetDecoder, DecodeLoop.decode]
      | false =>
          refine .inr (.inl ⟨rfl, ?_⟩)
          simp
  | false =>
      by_cases long : maxDecodeQueueSize < decodeQueueSize
      · refine .inr (.inl ⟨long, ?_⟩)
        simp [notReset, long]
      · refine .inr (.inr ⟨rfl, Nat.le_of_not_lt long, ?_⟩)
        simp [notReset, long, DecodeLoop.decode, configured]

/-- A frame is good where its guard holds. -/
theorem iterate_good_iff {past : List DecodeOutput} {loop : DecodeLoop} (sound : loop.Sound past)
    (input : EncodedVideoFrame × Nat) :
    Judged GoodCall past (decodeLoop.step loop input).2 ↔ FrameGuard past loop input := by
  obtain ⟨encoded, decodeQueueSize⟩ := input
  change Judged GoodCall past (loop.iterate encoded decodeQueueSize).2 ↔ _
  obtain ⟨awaiting, key, chunk, outputs⟩ | ⟨dropped, outputs⟩ | ⟨resumed, short, outputs⟩ :=
    iterate_cases sound encoded decodeQueueSize
  · rw [outputs, FrameGuard, if_pos awaiting, key]
    refine iff_of_false ?_ (by decide)
    rintro ⟨-, ⟨unconfigured, -⟩, -⟩
    cases unconfigured
  · rw [outputs, FrameGuard]
    refine iff_of_true ⟨trivial, trivial⟩ ?_
    cases awaiting : loop.awaitingKeyFrame with
    | true =>
        rw [awaiting] at dropped
        exact dropped
    | false =>
        rw [awaiting] at dropped
        exact fun short => absurd dropped (Nat.not_lt_of_le short)
  · have decoded := sound.decoded
    rw [outputs, FrameGuard, if_neg (by rw [resumed]; exact Bool.false_ne_true)]
    simp only [Judged, GoodCall, and_true, true_and, short, forall_const,
      started_of_noReset past decoded.noReset, decoded.resumed resumed]
    rw [decoded.later_iff]

/-- A guarded frame keeps the loop sound. -/
theorem DecodeLoop.Sound.iterate {past : List DecodeOutput} {loop : DecodeLoop}
    (sound : loop.Sound past) (input : EncodedVideoFrame × Nat) (met : FrameGuard past loop input) :
    (decodeLoop.step loop input).1.Sound (past ++ (decodeLoop.step loop input).2) := by
  obtain ⟨encoded, decodeQueueSize⟩ := input
  change (loop.iterate encoded decodeQueueSize).1.Sound
    (past ++ (loop.iterate encoded decodeQueueSize).2)
  obtain ⟨awaiting, key, -⟩ | ⟨-, outputs⟩ | ⟨resumed, -, outputs⟩ :=
    iterate_cases sound encoded decodeQueueSize
  · rw [FrameGuard, if_pos awaiting, key] at met
    cases met
  · rw [outputs]
    exact ⟨sound.notThrown, sound.configured, sound.notReset, sound.decoded.drop encoded.pts⟩
  · rw [outputs]
    have decoded := sound.decoded
    rw [resumed] at decoded
    refine ⟨sound.notThrown, sound.configured, sound.notReset, ?_⟩
    change Decoded _ _ loop.awaitingKeyFrame _
    rw [resumed]
    exact decoded.decode encoded

/-- Every frame of a batch meets its guard. -/
def BatchGuard (past : List DecodeOutput) (client : DecodeClient) (batch : VideoBatch) : Prop :=
  ∀ frames, encodedFrames batch.frame client.decodeState.codec = some frames →
    decodeLoop.GuardedAfter FrameGuard past
      (client.decodeState.enter client.codecState (batch.decodeQueueSize 0))
      (batch.iterations frames)

structure DecodeClient.Sound (past : List DecodeOutput) (client : DecodeClient) : Prop where
  configured : client.codecState = .configured
  decoded : Decoded past client.decodeState.timestamp client.decodeState.awaitingKeyFrame
    client.decodeState.droppedFrames

/-- A batch enters a sound loop. -/
theorem DecodeClient.Sound.enter {past : List DecodeOutput} {client : DecodeClient}
    (sound : client.Sound past) (decodeQueueSize : Nat) :
    (client.decodeState.enter client.codecState decodeQueueSize).Sound past where
  notThrown := rfl
  configured := sound.configured
  notReset := rfl
  decoded := sound.decoded.await _

/-- Frames are good where their guards hold. -/
theorem decodeLoop_good_iff {past : List DecodeOutput} {loop : DecodeLoop} (sound : loop.Sound past)
    (inputs : List (EncodedVideoFrame × Nat)) :
    (Judged GoodCall past (decodeLoop.run loop inputs).2 ↔
      decodeLoop.GuardedAfter FrameGuard past loop inputs) ∧
    (decodeLoop.GuardedAfter FrameGuard past loop inputs →
      (decodeLoop.run loop inputs).1.Sound (past ++ (decodeLoop.run loop inputs).2)) :=
  decodeLoop.run_judged_iff_of_invariant (fun past loop => loop.Sound past) FrameGuard GoodCall
    (fun _ _ input sound => iterate_good_iff sound input)
    (fun _ _ input sound met => sound.iterate input met) past loop inputs sound

/-- A batch of another codec has no frames. -/
theorem decoding_none {client : DecodeClient} {batch : VideoBatch}
    (frames : encodedFrames batch.frame client.decodeState.codec = none) :
    decoding.step client batch = (client, []) := by
  simp only [decoding, decodeVideoBatch, frames, Option.getD_some]

theorem decoding_some {client : DecodeClient} {batch : VideoBatch} {frames : List EncodedVideoFrame}
    {left : DecodeLoop} {outputs : List DecodeOutput}
    (found : encodedFrames batch.frame client.decodeState.codec = some frames)
    (run : decodeLoop.run (client.decodeState.enter client.codecState (batch.decodeQueueSize 0))
      (batch.iterations frames) = (left, outputs)) (notThrown : left.thrown = false) :
    decoding.step client batch =
      (⟨left.codecState,
        { timestamp := left.timestamp
          awaitingKeyFrame := left.awaitingKeyFrame
          droppedFrames := left.droppedFrames
          codec := client.decodeState.codec }⟩, outputs) := by
  simp only [decoding, decodeVideoBatch, found, run, notThrown, Bool.false_eq_true, if_false,
    Option.getD_some]

theorem decoding_outputs {client : DecodeClient} {batch : VideoBatch}
    {frames : List EncodedVideoFrame}
    (found : encodedFrames batch.frame client.decodeState.codec = some frames) :
    (decoding.step client batch).2 =
      (decodeLoop.run (client.decodeState.enter client.codecState (batch.decodeQueueSize 0))
        (batch.iterations frames)).2 := by
  simp only [decoding, decodeVideoBatch, found]

/-- A batch is good where its guard holds. -/
theorem batch_good_iff {past : List DecodeOutput} {client : DecodeClient} (sound : client.Sound past)
    (batch : VideoBatch) :
    (Judged GoodCall past (decoding.step client batch).2 ↔ BatchGuard past client batch) ∧
    (BatchGuard past client batch →
      (decoding.step client batch).1.Sound (past ++ (decoding.step client batch).2)) := by
  unfold BatchGuard
  cases found : encodedFrames batch.frame client.decodeState.codec with
  | none =>
      rw [decoding_none found, List.append_nil]
      exact ⟨iff_of_true trivial (fun frames none_ => by cases none_), fun _ => sound⟩
  | some frames =>
      obtain ⟨exact_, keeps⟩ :=
        decodeLoop_good_iff (sound.enter (batch.decodeQueueSize 0)) (batch.iterations frames)
      simp only [Option.some.injEq, forall_eq']
      refine ⟨by rw [decoding_outputs found]; exact exact_, fun met => ?_⟩
      have left := keeps met
      rw [decoding_some found rfl left.notThrown]
      exact ⟨left.configured, left.decoded⟩

/-- A new client is sound. -/
theorem DecodeClient.Sound.start (codec : ProtocolVideoCodec) : (DecodeClient.start codec).Sound [] where
  configured := rfl
  decoded := .start

/-- The calls of a run are as the client means them, and its count of dropped frames is right, exactly
when no key frame comes while the client waits for one, the first chunk is a key chunk, and no chunk
follows one with the last timestamp. -/
theorem decodes_well_iff (codec : ProtocolVideoCodec) (batches : List VideoBatch) :
    (Judged GoodCall [] (decoding.run (.start codec) batches).2 ∧
      (decoding.run (.start codec) batches).1.decodeState.droppedFrames =
        (decoding.run (.start codec) batches).2.countP (·.notDecoded)) ↔
      decoding.GuardedAfter BatchGuard [] (.start codec) batches := by
  obtain ⟨exact_, keeps⟩ := decoding.run_judged_iff_of_invariant
    (fun past client => client.Sound past) BatchGuard GoodCall
    (fun _ _ batch sound => (batch_good_iff sound batch).1)
    (fun _ _ batch sound met => (batch_good_iff sound batch).2 met)
    [] (.start codec) batches (.start codec)
  constructor
  · exact fun both => exact_.mp both.1
  · intro guarded
    have left := keeps guarded
    rw [List.nil_append] at left
    exact ⟨exact_.mpr guarded, left.decoded.dropped⟩

section Runs

def frameOf (key : Bool) (pts : Int) : EncodedVideoFrame where
  data := []
  key := key
  pts := pts

def batchOf (frames : List EncodedVideoFrame) (decodeQueueSize : Nat) : VideoBatch where
  frame := ⟨some frames, none, none⟩
  decodeQueueSize _ := decodeQueueSize

/-- A key frame after a frame that was dropped is decoded without a configuration. A delta frame is
decoded first. Two chunks have the last timestamp. -/
theorem first_calls_not_good :
    ¬ Judged GoodCall [] (decoding.run (.start .vp9)
      [batchOf [frameOf true 1] 0, batchOf [frameOf false 2] 12, batchOf [frameOf true 3] 0]).2 ∧
    ¬ Judged GoodCall [] (decoding.run (.start .vp9) [batchOf [frameOf false 1] 0]).2 ∧
    ¬ Judged GoodCall [] (decoding.run (.start .vp9)
      [batchOf [frameOf true (2 ^ 53 - 1), frameOf false 0, frameOf false 0] 0]).2 := by
  refine ⟨?_, ?_, ?_⟩
  · rintro ⟨-, -, -, ⟨unconfigured, -⟩, -⟩
    cases unconfigured
  · rintro ⟨⟨-, key | ⟨startedFirst, -⟩, -⟩, -⟩
    · cases key
    · cases startedFirst
  · rintro ⟨-, -, ⟨-, -, later⟩, -⟩
    exact absurd (later (2 ^ 53) (by decide +kernel)) (by decide +kernel)

end Runs

end SubnetDesk.WebClient
