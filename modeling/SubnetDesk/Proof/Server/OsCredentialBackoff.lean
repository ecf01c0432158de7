import SubnetDesk.Construction.Server.LoginFailureCheck

namespace SubnetDesk.LoginFailureCheck

/-- The failures since the last idle period, with the latest one first. -/
def sinceReset : List Int → Int → Nat
  | [], _ => 0
  | last :: rest, nowMs =>
      if osCredentialLoginTotalIdleResetMs ≤ nowMs - last then 0 else sinceReset rest last + 1

/-- The seconds for which a count of failures blocks. -/
def expectedBackoff (count : Nat) : Nat := if count < 3 then 0 else min (15 * 2 ^ (count - 3)) 1800

/-- An attempt is allowed after few failures, or after the back-off of the latest one. -/
def AttemptAllowed (failures : List Int) (nowMs : Int) : Prop :=
  sinceReset failures nowMs < 3 ∨
    ∃ last ∈ failures.head?, last + expectedBackoff (sinceReset failures nowMs) * 1000 ≤ nowMs

/-- The times of the recorded failures, with the latest one first. -/
def failureTimes (calls : List PolicyCall) : List Int :=
  (calls.filterMap fun call =>
    match call with
    | .recordFailure nowMs => some nowMs
    | .evaluate _ => none).reverse

/-- The clock of milliseconds does not go back, and it is far from the end of its range. -/
structure ClockRuns (calls : List PolicyCall) : Prop where
  ordered : calls.Pairwise fun first second => first.nowMs ≤ second.nowMs
  inRange : ∀ call ∈ calls, -(2 ^ 63) ≤ call.nowMs ∧ call.nowMs + 1800 * 1000 < 2 ^ 63

theorem osCredentialLoginBackoffSeconds_eq (count : Nat) :
    osCredentialLoginBackoffSeconds (min count (2 ^ 31 - 1)) = expectedBackoff count := by
  unfold osCredentialLoginBackoffSeconds expectedBackoff osCredentialLoginBackoffBaseSeconds
    osCredentialLoginBackoffMaxSeconds
  by_cases small : count < 10
  · interval_cases count <;> rfl
  · have full : min (min count (2 ^ 31 - 1) - 3) 7 = 7 := by omega
    have power : 2 ^ 7 ≤ 2 ^ (count - 3) := Nat.pow_le_pow_right (by decide) (by omega)
    rw [if_neg (by omega), if_neg (by omega), full]
    omega

/-- A wait is at most half an hour. -/
theorem expectedBackoff_le (count : Nat) : expectedBackoff count ≤ 1800 := by
  unfold expectedBackoff
  split <;> omega

/-- The third failure brings the first wait. -/
theorem expectedBackoff_pos_iff (count : Nat) : 0 < expectedBackoff count ↔ 3 ≤ count := by
  unfold expectedBackoff
  have power : 0 < 2 ^ (count - 3) := Nat.two_pow_pos _
  split <;> omega

/-- Saturation changes no comparison. -/
theorem idle_iff (nowMs lastMs : Int) :
    osCredentialLoginTotalIdleResetMs ≤ saturatingSub nowMs lastMs ↔
      osCredentialLoginTotalIdleResetMs ≤ nowMs - lastMs := by
  unfold saturatingSub clampI64 osCredentialLoginTotalIdleResetMs
  omega

/-- The stored state of a history of failures at a reading of the clock. -/
inductive Tracks (failures : List Int) (nowMs : Int) : OsCredentialFailureState → Prop where
  | reset : sinceReset failures nowMs = 0 → Tracks failures nowMs {}
  | counting (last : Int) (rest : List Int) (backoff : Option Int) :
      failures = last :: rest → last ≤ nowMs →
      (∀ untilMs, backoff = some untilMs → 3 ≤ sinceReset rest last + 1 ∧
        untilMs = last + expectedBackoff (sinceReset rest last + 1) * 1000) →
      (backoff = none → last + expectedBackoff (sinceReset rest last + 1) * 1000 ≤ nowMs) →
      Tracks failures nowMs ⟨min (sinceReset rest last + 1) (2 ^ 31 - 1), backoff, some last⟩

/-- A reset stays one. -/
theorem sinceReset_zero_later {failures : List Int} {nowMs later : Int}
    (none_ : sinceReset failures nowMs = 0) (order : nowMs ≤ later) :
    sinceReset failures later = 0 := by
  cases failures with
  | nil => rfl
  | cons last rest =>
      unfold sinceReset at none_ ⊢
      split at none_
      · rw [if_pos (by omega)]
      · omega

/-- A history is tracked later on. -/
theorem Tracks.later {failures : List Int} {nowMs later : Int} {state : OsCredentialFailureState}
    (tracks : Tracks failures nowMs state) (order : nowMs ≤ later) :
    Tracks failures later state := by
  cases tracks with
  | reset none_ => exact .reset (sinceReset_zero_later none_ order)
  | counting last rest backoff history past pending expired =>
      exact .counting last rest backoff history (past.trans order) pending
        fun empty => (expired empty).trans order

/-- What both operations find after the expired parts of the state are dropped. -/
inductive Normalized (failures : List Int) (nowMs : Int) : OsCredentialFailureState → Prop where
  | reset : sinceReset failures nowMs = 0 → Normalized failures nowMs {}
  | counting (last : Int) (rest : List Int) (backoff : Option Int) :
      failures = last :: rest → last ≤ nowMs →
      sinceReset failures nowMs = sinceReset rest last + 1 →
      (∀ untilMs, backoff = some untilMs → nowMs < untilMs ∧ 3 ≤ sinceReset failures nowMs ∧
        untilMs = last + expectedBackoff (sinceReset failures nowMs) * 1000) →
      (backoff = none → last + expectedBackoff (sinceReset failures nowMs) * 1000 ≤ nowMs) →
      Normalized failures nowMs ⟨min (sinceReset failures nowMs) (2 ^ 31 - 1), backoff, some last⟩

/-- A normalized state tracks its history. -/
theorem Normalized.tracks {failures : List Int} {nowMs : Int} {state : OsCredentialFailureState}
    (normalized : Normalized failures nowMs state) : Tracks failures nowMs state := by
  cases normalized with
  | reset none_ => exact .reset none_
  | counting last rest backoff history past count pending expired =>
      rw [count] at pending expired ⊢
      exact .counting last rest backoff history past (fun untilMs stored => (pending untilMs stored).2)
        expired

/-- The count is that of the history. -/
theorem Normalized.totalFailures_eq {failures : List Int} {nowMs : Int}
    {state : OsCredentialFailureState} (normalized : Normalized failures nowMs state) :
    state.totalFailures = min (sinceReset failures nowMs) (2 ^ 31 - 1) := by
  cases normalized with
  | reset none_ => rw [none_]; rfl
  | counting => rfl

/-- A tracked state can be normalized. -/
theorem Tracks.normalized {failures : List Int} {nowMs : Int} {state : OsCredentialFailureState}
    (tracks : Tracks failures nowMs state) :
    Normalized failures nowMs (normalizeBackoff (resetTotalsOnIdle state nowMs) nowMs) := by
  cases tracks with
  | reset none_ => exact .reset none_
  | counting last rest backoff history past pending expired =>
      by_cases idle : osCredentialLoginTotalIdleResetMs ≤ nowMs - last
      · have dropped : resetTotalsOnIdle ⟨min (sinceReset rest last + 1) (2 ^ 31 - 1), backoff,
            some last⟩ nowMs = {} := if_pos ((idle_iff nowMs last).mpr idle)
        rw [dropped]
        exact .reset (by rw [history, sinceReset, if_pos idle])
      · have kept : resetTotalsOnIdle ⟨min (sinceReset rest last + 1) (2 ^ 31 - 1), backoff,
            some last⟩ nowMs = ⟨min (sinceReset rest last + 1) (2 ^ 31 - 1), backoff, some last⟩ :=
          if_neg (mt (idle_iff nowMs last).mp idle)
        have count : sinceReset failures nowMs = sinceReset rest last + 1 := by
          rw [history, sinceReset, if_neg idle]
        rw [kept, ← count]
        rw [← count] at pending expired
        cases backoff with
        | none =>
            exact .counting last rest none history past count (fun _ stored => nomatch stored)
              expired
        | some untilMs =>
            obtain ⟨many, until_⟩ := pending untilMs rfl
            by_cases over_ : untilMs ≤ nowMs
            · have cleared : normalizeBackoff ⟨min (sinceReset failures nowMs) (2 ^ 31 - 1),
                  some untilMs, some last⟩ nowMs =
                    ⟨min (sinceReset failures nowMs) (2 ^ 31 - 1), none, some last⟩ := if_pos over_
              rw [cleared]
              exact .counting last rest none history past count (fun _ stored => nomatch stored)
                fun _ => until_ ▸ over_
            · have left : normalizeBackoff ⟨min (sinceReset failures nowMs) (2 ^ 31 - 1),
                  some untilMs, some last⟩ nowMs =
                    ⟨min (sinceReset failures nowMs) (2 ^ 31 - 1), some untilMs, some last⟩ :=
                if_neg over_
              rw [left]
              refine .counting last rest _ history past count (fun stored same => ?_)
                fun empty => nomatch empty
              cases same
              exact ⟨by omega, many, until_⟩

theorem checkedI64_of_range {value : Int} (low : -(2 ^ 63) ≤ value) (high : value < 2 ^ 63) :
    checkedI64 value = some value :=
  if_pos ⟨low, high⟩

theorem expired_of_allowed {failures : List Int} {nowMs : Int} {last : Int} {rest : List Int}
    (history : failures = last :: rest) :
    AttemptAllowed failures nowMs ↔ sinceReset failures nowMs < 3 ∨
      last + expectedBackoff (sinceReset failures nowMs) * 1000 ≤ nowMs := by
  rw [AttemptAllowed, history, List.head?_cons]
  simp only [Option.mem_some_iff, exists_eq_left']

/-- A query decides by the history of failures, and it forgets only what has expired. -/
theorem evaluate_spec {failures : List Int} {nowMs : Int} {state : OsCredentialFailureState}
    (tracks : Tracks failures nowMs state) :
    ∃ decision, evaluateOsCredentialPolicy .terminalOsLogin nowMs state =
        some (normalizeBackoff (resetTotalsOnIdle state nowMs) nowMs, decision) ∧
      (decision.allowed = true ↔ AttemptAllowed failures nowMs) := by
  rw [evaluateOsCredentialPolicy, if_neg (by decide)]
  have normalized := tracks.normalized
  dsimp only
  generalize normalizeBackoff (resetTotalsOnIdle state nowMs) nowMs = settled at normalized ⊢
  cases normalized with
  | reset none_ => exact ⟨_, rfl, iff_of_true rfl (.inl (by omega))⟩
  | counting last rest backoff history past count pending expired =>
      cases backoff with
      | none => exact ⟨_, rfl, iff_of_true rfl ((expired_of_allowed history).mpr (.inr (expired rfl)))⟩
      | some untilMs =>
          obtain ⟨later, many, until_⟩ := pending untilMs rfl
          have short := expectedBackoff_le (sinceReset failures nowMs)
          have blocked : ¬ AttemptAllowed failures nowMs := by
            rw [expired_of_allowed history]
            omega
          dsimp only
          rw [checkedI64_of_range (by omega) (by omega), Option.bind_eq_bind, Option.bind_some,
            checkedI64_of_range (by omega) (by omega), Option.bind_some]
          exact ⟨_, rfl, iff_of_false (fun allowed => nomatch allowed) blocked⟩

/-- A failure adds to the history. -/
theorem record_spec {failures : List Int} {nowMs : Int} {state : OsCredentialFailureState}
    (tracks : Tracks failures nowMs state) (low : -(2 ^ 63) ≤ nowMs)
    (high : nowMs + 1800 * 1000 < 2 ^ 63) :
    ∃ next, recordOsCredentialFailure .terminalOsLogin nowMs state = some next ∧
      Tracks (nowMs :: failures) nowMs next := by
  rw [recordOsCredentialFailure, if_neg (by decide)]
  have normalized := tracks.normalized
  dsimp only
  generalize normalizeBackoff (resetTotalsOnIdle state nowMs) nowMs = settled at normalized ⊢
  have counter : min (settled.totalFailures + 1) (2 ^ 31 - 1) =
      min (sinceReset failures nowMs + 1) (2 ^ 31 - 1) := by
    rw [normalized.totalFailures_eq]
    omega
  have pendingMany : ∀ untilMs, settled.backoffUntilMs = some untilMs →
      3 ≤ sinceReset failures nowMs := by
    cases normalized with
    | reset => exact fun _ stored => nomatch stored
    | counting last rest backoff history past count pending =>
        exact fun untilMs stored => (pending untilMs stored).2.1
  have short := expectedBackoff_le (sinceReset failures nowMs + 1)
  have positive := expectedBackoff_pos_iff (sinceReset failures nowMs + 1)
  rw [counter, osCredentialLoginBackoffSeconds_eq]
  split
  next blocks =>
    rw [checkedI64_of_range (by omega) (by omega)]
    refine ⟨_, rfl, .counting nowMs failures _ rfl (Int.le_refl _) (fun untilMs stored => ?_)
      fun empty => nomatch empty⟩
    cases stored
    exact ⟨positive.mp blocks, rfl⟩
  next short_ =>
    refine ⟨_, rfl, .counting nowMs failures _ rfl (Int.le_refl _) (fun untilMs stored => ?_)
      fun _ => by omega⟩
    have many := pendingMany untilMs stored
    omega

/-- A wait that runs is kept. -/
theorem Tracks.keeps_pending {failures : List Int} {nowMs : Int} {state : OsCredentialFailureState}
    (tracks : Tracks failures nowMs state) (untilMs : Int)
    (stored : state.backoffUntilMs = some untilMs) (later : nowMs < untilMs) :
    (normalizeBackoff (resetTotalsOnIdle state nowMs) nowMs).backoffUntilMs = some untilMs := by
  cases tracks with
  | reset => cases stored
  | counting last rest backoff history past pending expired =>
      dsimp only at stored
      subst stored
      obtain ⟨many, until_⟩ := pending untilMs rfl
      have short := expectedBackoff_le (sinceReset rest last + 1)
      have recent : ¬ osCredentialLoginTotalIdleResetMs ≤ nowMs - last := by
        unfold osCredentialLoginTotalIdleResetMs
        omega
      have kept : resetTotalsOnIdle ⟨min (sinceReset rest last + 1) (2 ^ 31 - 1), some untilMs,
          some last⟩ nowMs = ⟨min (sinceReset rest last + 1) (2 ^ 31 - 1), some untilMs, some last⟩ :=
        if_neg (mt (idle_iff nowMs last).mp recent)
      have left : normalizeBackoff ⟨min (sinceReset rest last + 1) (2 ^ 31 - 1), some untilMs,
          some last⟩ nowMs = ⟨min (sinceReset rest last + 1) (2 ^ 31 - 1), some untilMs, some last⟩ :=
        if_neg (not_le.mpr later)
      rw [kept, left]

theorem failureTimes_append (calls : List PolicyCall) (call : PolicyCall) :
    failureTimes (calls ++ [call]) =
      match call with
      | .recordFailure nowMs => nowMs :: failureTimes calls
      | .evaluate _ => failureTimes calls := by
  cases call <;> simp [failureTimes]

theorem ClockRuns.front {first second : List PolicyCall} (clock : ClockRuns (first ++ second)) :
    ClockRuns first :=
  ⟨(List.pairwise_append.mp clock.ordered).1, fun call member =>
    clock.inRange call (List.mem_append_left _ member)⟩

theorem ClockRuns.before {first second : List PolicyCall} {call : PolicyCall}
    (clock : ClockRuns (first ++ call :: second)) : ∀ earlier ∈ first, earlier.nowMs ≤ call.nowMs :=
  fun earlier member =>
    (List.pairwise_append.mp clock.ordered).2.2 earlier member call List.mem_cons_self

/-- One call tracks the history. -/
theorem tracks_step {failures : List Int} {state : OsCredentialFailureState} (call : PolicyCall)
    (tracks : Tracks failures call.nowMs state)
    (inRange : -(2 ^ 63) ≤ call.nowMs ∧ call.nowMs + 1800 * 1000 < 2 ^ 63) :
    Tracks (match call with
        | .recordFailure nowMs => nowMs :: failures
        | .evaluate _ => failures) call.nowMs (osCredentialPolicy.step state call).1 ∧
      PolicyReply.overflowed ∉ (osCredentialPolicy.step state call).2 := by
  cases call with
  | evaluate nowMs =>
      dsimp only [PolicyCall.nowMs] at tracks ⊢
      obtain ⟨decision, evaluated, -⟩ := evaluate_spec tracks
      have step : osCredentialPolicy.step state (.evaluate nowMs) =
          (normalizeBackoff (resetTotalsOnIdle state nowMs) nowMs, [.decided decision]) := by
        dsimp only [osCredentialPolicy]
        rw [evaluated]
      rw [step]
      exact ⟨tracks.normalized.tracks, by simp⟩
  | recordFailure nowMs =>
      dsimp only [PolicyCall.nowMs] at tracks inRange ⊢
      obtain ⟨next, recorded, after⟩ := record_spec tracks inRange.1 inRange.2
      have step : osCredentialPolicy.step state (.recordFailure nowMs) = (next, [.recorded]) := by
        dsimp only [osCredentialPolicy]
        rw [recorded]
      rw [step]
      exact ⟨after, by simp⟩

/-- Every run tracks the history. -/
theorem tracks_run (calls : List PolicyCall) (clock : ClockRuns calls) (nowMs : Int)
    (past : ∀ call ∈ calls, call.nowMs ≤ nowMs) :
    Tracks (failureTimes calls) nowMs (osCredentialPolicy.run {} calls).1 ∧
      PolicyReply.overflowed ∉ (osCredentialPolicy.run {} calls).2 := by
  induction calls using List.reverseRecOn generalizing nowMs with
  | nil => exact ⟨.reset rfl, by simp [Machine.run]⟩
  | append_singleton calls call inductionHypothesis =>
      obtain ⟨tracks, noOverflow⟩ := inductionHypothesis clock.front call.nowMs clock.before
      obtain ⟨after, none_⟩ := tracks_step call tracks (clock.inRange call (by simp))
      rw [Machine.run_append, Machine.run_append_outputs, failureTimes_append]
      have single : osCredentialPolicy.run (osCredentialPolicy.run {} calls).1 [call] =
          ((osCredentialPolicy.step (osCredentialPolicy.run {} calls).1 call).1,
            (osCredentialPolicy.step (osCredentialPolicy.run {} calls).1 call).2) := by
        simp [Machine.run]
      rw [single]
      exact ⟨after.later (past call (by simp)), by simp [noOverflow, none_]⟩

/-- A query in a state decides by the failures before it, and keeps a back-off that is pending. -/
def DecidesByHistory (failures : List Int) (nowMs : Int) (state : OsCredentialFailureState) : Prop :=
  ∃ next decision, osCredentialPolicy.step state (.evaluate nowMs) = (next, [.decided decision]) ∧
    (decision.allowed = true ↔ AttemptAllowed failures nowMs) ∧
    next.totalFailures = min (sinceReset failures nowMs) (2 ^ 31 - 1) ∧
    ∀ untilMs, state.backoffUntilMs = some untilMs → nowMs < untilMs →
      next.backoffUntilMs = some untilMs

/-- The history decides. -/
theorem Tracks.decides {failures : List Int} {nowMs : Int} {state : OsCredentialFailureState}
    (tracks : Tracks failures nowMs state) : DecidesByHistory failures nowMs state := by
  obtain ⟨decision, evaluated, allowed⟩ := evaluate_spec tracks
  refine ⟨_, decision, ?_, allowed, tracks.normalized.totalFailures_eq, tracks.keeps_pending⟩
  dsimp only [osCredentialPolicy]
  rw [evaluated]

/-- Every query of every run decides by the closed form of the back-off. -/
theorem os_credential_backoff (calls : List PolicyCall) (clock : ClockRuns calls) :
    PolicyReply.overflowed ∉ (osCredentialPolicy.run {} calls).2 ∧
      ∀ before nowMs after, calls = before ++ .evaluate nowMs :: after →
        DecidesByHistory (failureTimes before) nowMs (osCredentialPolicy.run {} before).1 := by
  constructor
  · refine (tracks_run calls clock (2 ^ 63) fun call member => ?_).2
    have below := (clock.inRange call member).2
    omega
  · rintro before nowMs after rfl
    exact (tracks_run before clock.front nowMs clock.before).1.decides

/-- Three failures block for fifteen seconds. -/
theorem os_credential_backoff_blocks :
    DecidesByHistory [2000, 1000, 0] 16999
      (osCredentialPolicy.run {} [.recordFailure 0, .recordFailure 1000, .recordFailure 2000]).1 ∧
      ¬ AttemptAllowed [2000, 1000, 0] 16999 ∧ AttemptAllowed [2000, 1000, 0] 17000 := by
  have clock : ClockRuns [.recordFailure 0, .recordFailure 1000, .recordFailure 2000,
      .evaluate 16999] := ⟨by decide, by decide⟩
  refine ⟨(os_credential_backoff _ clock).2 [.recordFailure 0, .recordFailure 1000,
    .recordFailure 2000] 16999 [] rfl, ?_, ?_⟩
  · simp [AttemptAllowed, sinceReset, expectedBackoff, osCredentialLoginTotalIdleResetMs]
  · simp [AttemptAllowed, sinceReset, expectedBackoff, osCredentialLoginTotalIdleResetMs]

end SubnetDesk.LoginFailureCheck
