import SubnetDesk.Proof.Server.LoginStreaks

namespace SubnetDesk.LoginFailureCheck

open Threads

variable {format : Ipv6Format} {shared : Shared} {connection : Connection} {past : List Output}
  {state : LanAuth}

def Output.origin : Output → Nat
  | .checked connection _ _ _ => connection
  | .started connection => connection
  | .ended connection _ => connection
  | .failed connection _ _ => connection
  | .cleared connection _ => connection
  | .loginError connection _ _ => connection

/-- The last thing that a connection has done. -/
def lastOf (past : List Output) (connection : Nat) : Option Output :=
  (past.filter fun output => output.origin = connection).getLast?

def Connection.isVerifying (connection : Connection) : Bool := connection.stage = .verifying

/-- All that a step of a connection can do. -/
inductive LoginStep (format : Ipv6Format) (shared : Shared) (connection : Connection) :
    Shared × Connection × List Output → Prop where
  | rests : LoginStep format shared connection (shared, connection, [])
  | refuses (stage : Stage) (error : String) (seconds : Nat)
      (before : connection.stage ≠ .verifying) (after : stage = .closed ∨ stage = .idle) :
      LoginStep format shared connection (shared, { connection with stage := stage },
        [.loginError connection.id error seconds])
  | blocks (error : String) (seconds : Nat) (before : connection.stage = .idle)
      (found : (lanAuthRetryAfterAt shared.failures (lanAuthFailureKeys format connection.source)
        shared.now).1 = seconds) :
      LoginStep format shared connection
        ({ shared with failures := retain shared.failures shared.now }, connection,
          [.checked connection.id connection.source shared.now seconds,
            .loginError connection.id error seconds])
  | allows (before : connection.stage = .idle)
      (found : (lanAuthRetryAfterAt shared.failures (lanAuthFailureKeys format connection.source)
        shared.now).1 = 0) :
      LoginStep format shared connection
        ({ shared with failures := retain shared.failures shared.now },
          { connection with stage := .allowed },
          [.checked connection.id connection.source shared.now 0])
  | starts (permits : Nat) (before : connection.stage = .allowed)
      (free : shared.permits = permits + 1) :
      LoginStep format shared connection
        ({ shared with permits := permits }, { connection with stage := .verifying },
          [.started connection.id])
  | ends (result : Bool) (before : connection.stage = .verifying) :
      LoginStep format shared connection
        ({ shared with permits := shared.permits + 1 },
          { connection with stage := .verified result }, [.ended connection.id result])
  | fails (error : String) (seconds : Nat) (before : connection.stage = .verified false) :
      LoginStep format shared connection
        ({ shared with failures := (recordLanAuthFailureAt shared.failures
            (lanAuthFailureKeys format connection.source) shared.now).1 },
          { connection with stage := .idle },
          [.failed connection.id connection.source shared.now,
            .loginError connection.id error seconds])
  | clears (before : connection.stage = .verified true) :
      LoginStep format shared connection
        ({ shared with failures := clearLanAuthSource shared.failures connection.source.ip },
          { connection with stage := .authorized }, [.cleared connection.id connection.source])

/-- A login steps by the rules. -/
theorem handleLanLoginRequest_step (shared : Shared) (connection : Connection) (choice : Choice) :
    LoginStep format shared connection
      (handleLanLoginRequest format shared connection choice) := by
  obtain ⟨id, source, secured, webClient, stage⟩ := connection
  unfold handleLanLoginRequest
  cases stage with
  | idle =>
      dsimp only
      split
      next => exact .refuses _ _ _ (by simp) (.inl rfl)
      next =>
        split
        next => exact .refuses _ _ _ (by simp) (.inl rfl)
        next =>
          split
          next => exact .refuses _ _ _ (by simp) (.inl rfl)
          next =>
            split
            next blocked => exact .blocks _ _ rfl rfl
            next free =>
              have zero := Nat.eq_zero_of_not_pos free
              rw [zero]
              exact .allows rfl zero
  | allowed =>
      dsimp only
      split
      next => exact .refuses _ _ _ (by simp) (.inr rfl)
      next permits free => exact .starts permits rfl free
  | verifying => exact .ends _ rfl
  | verified result =>
      cases result with
      | false => exact .fails _ _ rfl
      | true => exact .clears rfl
  | authorized => exact .rests
  | closed => exact .rests

/-- A check returns what all failures before it ask for, and a verification starts only after a check
of its connection that returned nothing. -/
def Output.Justified (format : Ipv6Format) (past : List Output) : Output → Prop
  | .checked _ source nowMs retryAfter =>
      retryAfter = expectedRetryAfter format past source nowMs ∧
        (0 < retryAfter ↔ ∃ key ∈ lanAuthFailureKeys format source, Blocked format past key nowMs)
  | .started connection =>
      ∃ source nowMs, lastOf past connection = some (.checked connection source nowMs 0)
  | _ => True

structure Sound (format : Ipv6Format) (state : LanAuth) (past : List Output) : Prop where
  clock : 0 ≤ state.shared.now
  gate : state.shared.permits + state.threads.countP Connection.isVerifying = 2
  opened : state.shared.opened = state.threads.length
  ids : ∀ index (connection : Connection), state.threads[index]? = some connection →
    connection.id = index
  allowed : ∀ connection ∈ state.threads, connection.stage = .allowed →
    ∃ source nowMs, lastOf past connection.id = some (.checked connection.id source nowMs 0)
  entries : ∀ key, EntryFits state.shared.now (state.shared.failures key)
    (streakOf format past key)
  justified : Machine.Judged (Output.Justified format) [] past

/-- A new throttle is sound. -/
theorem Sound.start (now : Nat) : Sound format (LanAuth.start now) [] where
  clock := Int.natCast_nonneg now
  gate := rfl
  opened := rfl
  ids index connection found := by simp [LanAuth.start] at found
  allowed connection member := by simp [LanAuth.start] at member
  entries key := .absent
  justified := trivial

theorem lastOf_append_other {outputs : List Output} {other : Nat}
    (own : ∀ output ∈ outputs, output.origin ≠ other) :
    lastOf (past ++ outputs) other = lastOf past other := by
  have none_ : (outputs.filter fun output => output.origin = other) = [] := by
    rw [List.filter_eq_nil_iff]
    intro output member
    simpa using own output member
  rw [lastOf, List.filter_append, none_, List.append_nil]
  rfl

theorem streakOf_append (outputs : List Output) (key : Text) :
    streakOf format (past ++ outputs) key =
      outputs.foldl (streakAfter format key) (streakOf format past key) := by
  unfold streakOf
  rw [List.foldl_append]

/-- The outputs of a step are its own. -/
theorem LoginStep.own {after : Shared} {next : Connection} {outputs : List Output}
    (step : LoginStep format shared connection (after, next, outputs)) :
    next.id = connection.id ∧ after.now = shared.now ∧ after.opened = shared.opened ∧
      ∀ output ∈ outputs, output.origin = connection.id := by
  cases step with
  | rests => simp
  | refuses => simp [Output.origin]
  | blocks => simp [Output.origin]
  | allows => simp [Output.origin]
  | starts => simp [Output.origin]
  | ends => simp [Output.origin]
  | fails => simp [Output.origin]
  | clears => simp [Output.origin]

/-- A permit is with the gate or with a verification. -/
theorem LoginStep.gate {after : Shared} {next : Connection} {outputs : List Output}
    (step : LoginStep format shared connection (after, next, outputs)) :
    after.permits + next.isVerifying.toNat = shared.permits + connection.isVerifying.toNat := by
  unfold Connection.isVerifying
  cases step with
  | rests => rfl
  | refuses stage error seconds before closing =>
      rcases closing with rfl | rfl
      · simp [before]
      · simp [before]
  | blocks error seconds before => rfl
  | allows before => simp [before]
  | starts permits before free =>
      simp [before, free]
  | ends result before => simp [before]
  | fails error seconds before => simp [before]
  | clears before => simp [before]

/-- A step keeps the entries. -/
theorem LoginStep.entries {after : Shared} {next : Connection} {outputs : List Output}
    (step : LoginStep format shared connection (after, next, outputs))
    (fits : ∀ key, EntryFits shared.now (shared.failures key) (streakOf format past key))
    (key : Text) :
    EntryFits after.now (after.failures key) (streakOf format (past ++ outputs) key) := by
  rw [streakOf_append]
  cases step with
  | rests => exact fits key
  | refuses => exact fits key
  | blocks => exact (fits key).retained
  | allows => exact (fits key).retained
  | starts => exact fits key
  | ends => exact fits key
  | fails =>
      simp only [List.foldl_cons, List.foldl_nil, streakAfter, recordLanAuthFailureAt]
      rw [foldl_recordKey (lanAuthFailureKeys_nodup format connection.source)]
      dsimp only
      split
      next => exact (fits key).recorded
      next => exact fits key
  | clears =>
      simp only [List.foldl_cons, List.foldl_nil, streakAfter, clearLanAuthSource]
      split
      next same =>
        subst same
        rw [Function.update_self]
        exact .absent
      next other =>
        rw [Function.update_of_ne (Ne.symm other)]
        exact fits key

/-- A step is justified where the state before it is sound. -/
theorem LoginStep.justified {after : Shared} {next : Connection} {outputs : List Output}
    (step : LoginStep format shared connection (after, next, outputs)) (epoch : 0 ≤ shared.now)
    (fits : ∀ key, EntryFits shared.now (shared.failures key) (streakOf format past key))
    (allowed : connection.stage = .allowed →
      ∃ source nowMs, lastOf past connection.id = some (.checked connection.id source nowMs 0)) :
    Machine.Judged (Output.Justified format) past outputs := by
  have checked {seconds : Nat} (found : (lanAuthRetryAfterAt shared.failures
      (lanAuthFailureKeys format connection.source) shared.now).1 = seconds) :
      Output.Justified format past
        (.checked connection.id connection.source shared.now seconds) := by
    rw [lanAuthRetryAfterAt_expected format epoch fits] at found
    refine ⟨found.symm, ?_⟩
    rw [← found]
    exact expectedRetryAfter_pos format
  cases step with
  | rests => exact trivial
  | refuses => exact ⟨trivial, trivial⟩
  | blocks error seconds before found => exact ⟨checked found, trivial, trivial⟩
  | allows before found => exact ⟨checked found, trivial⟩
  | starts permits before free => exact ⟨allowed before, trivial⟩
  | ends => exact ⟨trivial, trivial⟩
  | fails => exact ⟨trivial, trivial, trivial⟩
  | clears => exact ⟨trivial, trivial⟩

/-- A step is judged by the entries. -/
theorem LoginStep.allowed {after : Shared} {next : Connection} {outputs : List Output}
    (step : LoginStep format shared connection (after, next, outputs))
    (before : connection.stage = .allowed →
      ∃ source nowMs, lastOf past connection.id = some (.checked connection.id source nowMs 0))
    (reached : next.stage = .allowed) :
    ∃ source nowMs, lastOf (past ++ outputs) connection.id =
      some (.checked connection.id source nowMs 0) := by
  cases step with
  | rests => simpa using before reached
  | refuses stage error seconds _ closing =>
      rcases closing with rfl | rfl
      · cases reached
      · cases reached
  | blocks error seconds idle =>
      rw [idle] at reached
      cases reached
  | allows =>
      refine ⟨connection.source, shared.now, ?_⟩
      simp [lastOf, Output.origin]
  | starts => cases reached
  | ends => cases reached
  | fails => cases reached
  | clears => cases reached

/-- A step of a login is sound. -/
theorem Sound.advance (sound : Sound format state past) {index : Nat}
    (found : state.threads[index]? = some connection) {after : Shared} {next : Connection}
    {outputs : List Output}
    (step : LoginStep format state.shared connection (after, next, outputs)) :
    Sound format ⟨after, state.threads.set index next⟩ (past ++ outputs) := by
  obtain ⟨sameId, sameNow, sameOpened, own⟩ := step.own
  have member := List.mem_of_getElem? found
  constructor
  · rw [sameNow]
    exact sound.clock
  · have counted := countP_set found next Connection.isVerifying
    have gate := step.gate
    have before := sound.gate
    dsimp only
    omega
  · rw [sameOpened, sound.opened, List.length_set]
  · intro place other here
    rw [List.getElem?_set] at here
    split at here
    next same =>
      subst same
      split at here
      next =>
        cases here
        rw [sameId]
        exact sound.ids index connection found
      next => cases here
    next => exact sound.ids place other here
  · intro other here reached
    obtain ⟨place, atPlace⟩ := List.mem_iff_getElem?.mp here
    rw [List.getElem?_set] at atPlace
    split at atPlace
    next same =>
      split at atPlace
      next =>
        cases atPlace
        rw [sameId]
        exact step.allowed (sound.allowed connection member) reached
      next => cases atPlace
    next different =>
      rw [lastOf_append_other]
      · exact sound.allowed other (List.mem_of_getElem? atPlace) reached
      · intro output emitted
        rw [own output emitted, sound.ids index connection found, sound.ids place other atPlace]
        exact different
  · exact step.entries sound.entries
  · rw [Machine.judged_append]
    exact ⟨sound.justified, step.justified sound.clock sound.entries (sound.allowed _ member)⟩

/-- One event is sound. -/
theorem Sound.step (sound : Sound format state past)
    (event : Event Peer Choice Nat) :
    Sound format ((program format).machine.step state event).1
      (past ++ ((program format).machine.step state event).2) := by
  cases event with
  | call peer =>
      rw [Program.machine_call, List.append_nil]
      constructor
      · exact sound.clock
      · simpa [program, Connection.isVerifying] using sound.gate
      · simp [program, sound.opened]
      · intro index connection found
        rw [List.getElem?_append] at found
        split at found
        next => exact sound.ids index connection found
        next late =>
          rw [List.getElem?_singleton] at found
          split at found
          next first =>
            cases found
            simp only [program]
            rw [sound.opened]
            omega
          next => cases found
      · intro connection member reached
        rw [List.mem_append, List.mem_singleton] at member
        rcases member with old | rfl
        · exact sound.allowed connection old reached
        · cases reached
      · exact sound.entries
      · exact sound.justified
  | advance index choice =>
      cases found : state.threads[index]? with
      | none =>
          rw [Program.machine_absent _ choice found, List.append_nil]
          exact sound
      | some connection =>
          rw [Program.machine_advance _ choice found]
          exact sound.advance found (handleLanLoginRequest_step _ _ _)
  | disturb later =>
      constructor
      · have clock := sound.clock
        show 0 ≤ state.shared.now + later
        omega
      · exact sound.gate
      · exact sound.opened
      · exact sound.ids
      · simpa [Program.machine] using sound.allowed
      · intro key
        simpa [Program.machine, program] using (sound.entries key).later later
      · simpa [Program.machine] using sound.justified

/-- Every run is sound. -/
theorem sound_run (now : Nat) (events : List (Event Peer Choice Nat)) :
    Sound format ((program format).machine.run (LanAuth.start now) events).1
      ((program format).machine.run (LanAuth.start now) events).2 := by
  have run := (program format).machine.run_invariant (fun _ _ => True)
    (fun state past => Sound format state past) (fun _ _ event _ sound => sound.step event)
    (LanAuth.start now) [] events (Sound.start now) (Machine.guarded_true _ _ _)
  simpa using run

/-- What one step does with the entries of the keys. -/
structure BucketStep (format : Ipv6Format) (past : List Output) (before after : Shared)
    (outputs : List Output) : Prop where
  grows : ∀ key entry, before.failures key = some entry →
    (∃ later, after.failures key = some later ∧ entry.retryUntilMs ≤ later.retryUntilMs) ∨
      (∃ connection source, Output.cleared connection source ∈ outputs ∧ source.ip = key) ∨
      lanAuthBackoffIdleResetMs ≤ after.now - entry.lastFailureMs
  counted : ∀ connection source nowMs, Output.failed connection source nowMs ∈ outputs →
    ∀ key ∈ lanAuthFailureKeys format source,
      after.failures key = some (Streak.next nowMs (streakOf format past key)).state
  cleared : ∀ connection source, Output.cleared connection source ∈ outputs →
    after.failures source.ip = none ∧
      ∀ key, key ≠ source.ip ∨ (∃ other, key ∈ (lanAuthFailureKeys format other).tail) →
        after.failures key = before.failures key

theorem Streak.blockedUntil_mono {first second : Streak} (count : first.count ≤ second.count)
    (last : first.last ≤ second.last) : first.blockedUntil ≤ second.blockedUntil := by
  unfold blockedUntil saturatingAdd
  apply clampI64_mono
  have seconds := backoffSeconds_mono count
  omega

theorem EntryFits.stored_of_some {nowMs : Int} {entry : LanAuthFailureState}
    {streak : Option Streak} (fits : EntryFits nowMs (some entry) streak) :
    ∃ known, streak = some known ∧ entry = known.state ∧ known.last ≤ nowMs := by
  cases fits with
  | stored known positive before => exact ⟨known, rfl, rfl, before⟩

/-- A failure that comes in time adds to the streak. -/
theorem EntryFits.recorded_grows {nowMs : Int} {entry : LanAuthFailureState}
    {streak : Option Streak} (fits : EntryFits nowMs (some entry) streak)
    (active : ¬ lanAuthBackoffIdleResetMs ≤ nowMs - entry.lastFailureMs) :
    entry.retryUntilMs ≤ (entry.record nowMs).retryUntilMs := by
  have recorded := fits.recorded
  obtain ⟨known, rfl, rfl, before⟩ := fits.stored_of_some
  obtain ⟨next, found, stored, -⟩ := recorded.stored_of_some
  rw [Option.getD_some] at stored
  rw [stored]
  cases found
  have running : ¬ known.Idle nowMs := active
  apply Streak.blockedUntil_mono
  · rw [Streak.next, if_neg running]
    exact Nat.le_succ _
  · rw [Streak.next, if_neg running]
    exact before

theorem retain_grows {failures : Failures} {nowMs : Int} {key : Text}
    {entry : LanAuthFailureState} (found : failures key = some entry) :
    retain failures nowMs key = some entry ∨
      lanAuthBackoffIdleResetMs ≤ nowMs - entry.lastFailureMs := by
  by_cases idle : entry.isIdle nowMs = true
  · exact .inr (isIdle_iff.mp idle)
  · left
    simp [retain, found, idle]

/-- A step never shortens a wait. -/
theorem LoginStep.buckets {after : Shared} {next : Connection} {outputs : List Output}
    (step : LoginStep format shared connection (after, next, outputs))
    (fits : ∀ key, EntryFits shared.now (shared.failures key) (streakOf format past key)) :
    BucketStep format past shared after outputs := by
  constructor
  · intro key entry found
    cases step with
    | rests => exact .inl ⟨entry, found, le_refl _⟩
    | refuses => exact .inl ⟨entry, found, le_refl _⟩
    | blocks =>
        rcases retain_grows found with kept | idle
        · exact .inl ⟨entry, kept, le_refl _⟩
        · exact .inr (.inr idle)
    | allows =>
        rcases retain_grows found with kept | idle
        · exact .inl ⟨entry, kept, le_refl _⟩
        · exact .inr (.inr idle)
    | starts => exact .inl ⟨entry, found, le_refl _⟩
    | ends => exact .inl ⟨entry, found, le_refl _⟩
    | fails =>
        by_cases idle : lanAuthBackoffIdleResetMs ≤ shared.now - entry.lastFailureMs
        · exact .inr (.inr idle)
        · left
          have known := fits key
          rw [found] at known
          dsimp only [recordLanAuthFailureAt]
          rw [foldl_recordKey (lanAuthFailureKeys_nodup format _)]
          dsimp only
          split
          next =>
            rw [found]
            exact ⟨_, rfl, known.recorded_grows idle⟩
          next => exact ⟨entry, found, le_refl _⟩
    | clears =>
        by_cases same : connection.source.ip = key
        · exact .inr (.inl ⟨_, _, List.mem_singleton.mpr rfl, same⟩)
        · left
          dsimp only [clearLanAuthSource]
          rw [Function.update_of_ne (Ne.symm same)]
          exact ⟨entry, found, le_refl _⟩
  · intro id source nowMs emitted key member
    cases step with
    | rests => simp at emitted
    | refuses => simp at emitted
    | blocks => simp at emitted
    | allows => simp at emitted
    | starts => simp at emitted
    | ends => simp at emitted
    | clears => simp at emitted
    | fails =>
        simp only [List.mem_cons, Output.failed.injEq, reduceCtorEq, List.not_mem_nil, or_false]
          at emitted
        obtain ⟨-, rfl, rfl⟩ := emitted
        have known := (fits key).recorded
        obtain ⟨streak, found, stored, -⟩ := known.stored_of_some
        cases found
        dsimp only [recordLanAuthFailureAt]
        rw [foldl_recordKey (lanAuthFailureKeys_nodup format _), if_pos member, stored]
  · intro id source emitted
    cases step with
    | rests => simp at emitted
    | refuses => simp at emitted
    | blocks => simp at emitted
    | allows => simp at emitted
    | starts => simp at emitted
    | ends => simp at emitted
    | fails => simp at emitted
    | clears =>
        rw [List.mem_singleton] at emitted
        cases emitted
        refine ⟨Function.update_self .., ?_⟩
        intro key apart
        apply Function.update_of_ne
        rcases apart with different | ⟨other, member⟩
        · exact different
        · exact prefixKey_ne_ip format connection.source member

/-- One event never shortens a wait. -/
theorem Sound.buckets (sound : Sound format state past) (event : Event Peer Choice Nat) :
    BucketStep format past state.shared ((program format).machine.step state event).1.shared
      ((program format).machine.step state event).2 := by
  have still {after : Shared} (same : after.failures = state.shared.failures) :
      BucketStep format past state.shared after [] := by
    refine ⟨?_, nofun, nofun⟩
    intro key entry found
    exact .inl ⟨entry, by rw [same]; exact found, le_refl _⟩
  cases event with
  | call peer => exact still rfl
  | advance index choice =>
      cases found : state.threads[index]? with
      | none =>
          rw [Program.machine_absent _ choice found]
          exact still rfl
      | some connection =>
          rw [Program.machine_advance _ choice found]
          exact (handleLanLoginRequest_step _ _ _).buckets sound.entries
  | disturb later => exact still rfl

/-- What holds after any steps of any connections. -/
structure Throttled (format : Ipv6Format) (state : LanAuth) (past : List Output) : Prop where
  gate : state.threads.countP Connection.isVerifying ≤ 2
  justified : Machine.Judged (Output.Justified format) [] past
  entries : ∀ key, EntryFits state.shared.now (state.shared.failures key)
    (streakOf format past key)
  buckets : ∀ event, BucketStep format past state.shared
    ((program format).machine.step state event).1.shared
    ((program format).machine.step state event).2

/-- Logins are throttled in every run. -/
theorem lan_auth_throttled (format : Ipv6Format) (now : Nat)
    (events : List (Event Peer Choice Nat)) :
    Throttled format ((program format).machine.run (LanAuth.start now) events).1
      ((program format).machine.run (LanAuth.start now) events).2 := by
  have sound : Sound format _ _ := sound_run now events
  constructor
  · have gate := sound.gate
    omega
  · exact sound.justified
  · exact sound.entries
  · exact sound.buckets

end SubnetDesk.LoginFailureCheck
