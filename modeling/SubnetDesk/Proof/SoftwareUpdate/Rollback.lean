import SubnetDesk.Proof.SoftwareUpdate.Exclusion

namespace SubnetDesk.SoftwareUpdate

variable {platform : Platform} {shared after : Shared} {worker next : Worker}
  {outputs past : List Output} {state : Updater}

/-- A check of a running version has got a manifest that is newer than the accepted ones. -/
def unstoredSequence (platform : Platform) (state : Updater) : Event → Prop
  | .process (.advance index _) =>
      match state.threads[index]? with
      | some (.validated _ manifest) => upToDate platform manifest = true ∧
          state.shared.options.acceptedSequence < manifest.sequence
      | _ => False
  | _ => False

instance (state : Updater) : ∀ event : Event, Decidable (unstoredSequence platform state event)
  | .restart => instDecidableFalse
  | .process (.call _) => instDecidableFalse
  | .process (.disturb _) => instDecidableFalse
  | .process (.advance index _) =>
      show Decidable (match state.threads[index]? with
        | some (.validated _ manifest) => upToDate platform manifest = true ∧
            state.shared.options.acceptedSequence < manifest.sequence
        | _ => False) from
      match state.threads[index]? with
      | none => instDecidableFalse
      | some (.validated _ _) => instDecidableAnd
      | some (.fetching _) => instDecidableFalse
      | some (.autoDownload _) => instDecidableFalse
      | some (.stored _ _ _) => instDecidableFalse
      | some (.requesting _ _) => instDecidableFalse
      | some (.streaming _ _ _ _ _) => instDecidableFalse
      | some (.verified _ _) => instDecidableFalse
      | some (.installing _ _) => instDecidableFalse
      | some (.reporting _ _ _) => instDecidableFalse
      | some .done => instDecidableFalse

/-- A published artifact is not older than the manifests of the checks that have ended. -/
def NotOlder (past : List Output) : Output → Prop
  | .published sequence _ => ∀ earlier, .ended earlier ∈ past → earlier ≤ sequence
  | _ => True

/-- A check in progress knows no newer accepted sequence than its own one. -/
def Worker.Current (accepted : Nat) : Worker → Prop
  | .validated _ manifest => accepted ≤ manifest.sequence
  | .stored _ manifest _ => accepted = manifest.sequence
  | _ => True

theorem Worker.current_of_idle {accepted : Nat} (idle : worker.operation? = none) :
    worker.Current accepted := by
  cases worker with
  | validated operation manifest => cases idle
  | stored operation manifest artifact => cases idle
  | requesting operation artifact => trivial
  | streaming operation artifact path received lastProgress => trivial
  | verified operation package => trivial
  | installing operation package => trivial
  | done => trivial
  | fetching operation => trivial
  | autoDownload operation => trivial
  | reporting operation released error => trivial

/-- A release only clears the flag. -/
theorem released_silent {operation : Nat} {update : UpdateState} {output : Output}
    (member : output ∈ (shared.release operation update).2) :
    output = .cleared shared.owner operation :=
  ((shared.release_cleared operation update).1 output member).2

/-- A release accepts nothing. -/
theorem judged_released (past : List Output) (operation : Nat) (update : UpdateState) :
    Machine.Judged NotOlder past (shared.release operation update).2 := by
  simp only [Shared.release]
  split
  next => exact ⟨trivial, trivial⟩
  next => trivial

theorem ended_released {operation sequence : Nat} {update : UpdateState}
    (member : .ended sequence ∈ past ++ (shared.release operation update).2) :
    .ended sequence ∈ past := by
  obtain old | new := List.mem_append.mp member
  · exact old
  · cases released_silent new

/-- All checks that have ended are accepted, and the outputs are judged. -/
structure NoRollback (state : Updater) (past : List Output) : Prop where
  exclusive : Exclusive state
  current : ∀ worker ∈ state.threads, worker.Current state.shared.options.acceptedSequence
  ended : ∀ sequence, .ended sequence ∈ past → sequence ≤ state.shared.options.acceptedSequence
  judged : Machine.Judged NotOlder [] past

/-- What a step does with the accepted sequence and the history. -/
structure Accepts (shared : Shared) (worker : Worker) (past : List Output) (after : Shared)
    (next : Worker) (outputs : List Output) : Prop where
  grows : shared.options.acceptedSequence ≤ after.options.acceptedSequence
  kept : after.options.acceptedSequence = shared.options.acceptedSequence ∨
    ∃ operation, worker.operation? = some operation
  current : next.Current after.options.acceptedSequence
  ended : ∀ sequence, .ended sequence ∈ past ++ outputs →
    sequence ≤ after.options.acceptedSequence
  judged : Machine.Judged NotOlder past outputs

/-- A move accepts no older sequence. -/
theorem Moves.accepts (moves : Moves platform shared worker after next outputs)
    (current : worker.Current shared.options.acceptedSequence)
    (ended : ∀ sequence, .ended sequence ∈ past → sequence ≤ shared.options.acceptedSequence)
    (stored : ∀ operation manifest, worker = .validated operation manifest →
      SoftwareUpdate.upToDate platform manifest = true →
      manifest.sequence ≤ shared.options.acceptedSequence) :
    Accepts shared worker past after next outputs := by
  have silent : ∀ sequence, .ended sequence ∈ past ++ [] →
      sequence ≤ shared.options.acceptedSequence := by
    rw [List.append_nil]
    exact ended
  cases moves with
  | stays => exact ⟨Nat.le_refl _, .inl rfl, current, silent, trivial⟩
  | fails worker operation error running =>
      exact ⟨Nat.le_refl _, .inl rfl, trivial, silent, trivial⟩
  | validates operation manifest fresh =>
      exact ⟨Nat.le_refl _, .inl rfl, fresh, silent, trivial⟩
  | upToDate operation manifest newest =>
      refine ⟨Nat.le_refl _, .inl rfl, trivial, ?_, ?_⟩
      · intro sequence member
        rw [← List.append_assoc] at member
        obtain old | new := List.mem_append.mp member
        · exact ended sequence (ended_released old)
        · cases List.mem_singleton.mp new
          exact stored operation manifest rfl newest
      · rw [Machine.judged_append]
        exact ⟨judged_released past operation _, trivial, trivial⟩
  | stores operation manifest artifact =>
      refine ⟨current, .inr ⟨operation, rfl⟩, rfl, ?_, trivial⟩
      intro sequence member
      exact Nat.le_trans (silent sequence member) current
  | publishes operation manifest artifact now next follows =>
      have accepted : shared.options.acceptedSequence = manifest.sequence := current
      refine ⟨Nat.le_refl _, .inl rfl, ?_, ?_, ?_⟩
      · obtain rfl | rfl := follows
        · trivial
        · trivial
      · intro sequence member
        rw [← List.append_assoc] at member
        obtain old | new := List.mem_append.mp member
        · exact ended sequence (ended_released old)
        · have same : sequence = manifest.sequence := by simpa using new
          exact Nat.le_of_eq (same.trans accepted.symm)
      · rw [Machine.judged_append]
        refine ⟨judged_released past operation _, ?_, trivial, trivial⟩
        intro earlier member
        rw [← accepted]
        exact ended earlier (ended_released member)
  | downloads operation artifact free selected =>
      exact ⟨Nat.le_refl _, .inl rfl, trivial, silent, trivial⟩
  | refused operation error => exact ⟨Nat.le_refl _, .inl rfl, trivial, silent, trivial⟩
  | requests operation artifact path =>
      exact ⟨Nat.le_refl _, .inl rfl, trivial, silent, trivial⟩
  | receives operation artifact path received bytes lastProgress progress after reported =>
      obtain rfl | rfl := reported
      · exact ⟨Nat.le_refl _, .inl rfl, trivial, silent, trivial⟩
      · exact ⟨Nat.le_refl _, .inl rfl, trivial, silent, trivial⟩
  | verifies operation artifact path received lastProgress verified =>
      exact ⟨Nat.le_refl _, .inl rfl, trivial, silent, trivial⟩
  | ready operation package =>
      refine ⟨Nat.le_refl _, .inl rfl, trivial, ?_, judged_released past operation _⟩
      exact fun sequence member => ended sequence (ended_released member)
  | installed operation package => exact ⟨Nat.le_refl _, .inl rfl, trivial, silent, trivial⟩
  | reports operation released error =>
      refine ⟨Nat.le_refl _, .inl rfl, trivial, ?_, judged_released past operation _⟩
      exact fun sequence member => ended sequence (ended_released member)

/-- A call accepts nothing. -/
theorem Enters.accepts {call : Call} (enters : Enters shared call after next) :
    after.options = shared.options ∧ ∀ accepted, next.Current accepted := by
  cases enters with
  | refused => exact ⟨rfl, fun _ => trivial⟩
  | defers message => exact ⟨rfl, fun _ => trivial⟩
  | checks change free => exact ⟨rfl, fun _ => trivial⟩
  | downloads artifact change free selected => exact ⟨rfl, fun _ => trivial⟩
  | installs package change free present => exact ⟨rfl, fun _ => trivial⟩

/-- A step of a worker rolls nothing back. -/
theorem NoRollback.advance (safe : NoRollback state past) {index : Nat}
    (found : state.threads[index]? = some worker)
    (accepts : Accepts state.shared worker past after next outputs)
    (exclusive : Exclusive ⟨after, state.threads.set index next⟩) :
    NoRollback ⟨after, state.threads.set index next⟩ (past ++ outputs) := by
  refine ⟨exclusive, ?_, accepts.ended, ?_⟩
  · intro other member
    by_cases same : other = next
    · rw [same]
      exact accepts.current
    · obtain kept | ⟨operation, running⟩ := accepts.kept
      · have old := (List.mem_or_eq_of_mem_set member).resolve_right same
        simp only [kept]
        exact safe.current other old
      · exact Worker.current_of_idle (safe.exclusive.others found running member same).2
  · rw [Machine.judged_append]
    exact ⟨safe.judged, accepts.judged⟩

/-- One event in time rolls nothing back. -/
theorem noRollback_step (safe : NoRollback state past) (event : Event)
    (onTime : ¬ lateReport state event ∧ ¬ unstoredSequence platform state event) :
    NoRollback ((updater platform).step state event).1
        (past ++ ((updater platform).step state event).2) ∧
      state.shared.options.acceptedSequence ≤
        ((updater platform).step state event).1.shared.options.acceptedSequence := by
  have exclusive : Exclusive ((updater platform).step state event).1 :=
    (exclusive_step safe.exclusive event onTime.1).1
  cases event with
  | restart =>
      refine ⟨⟨exclusive, nofun, ?_, ?_⟩, Nat.le_refl _⟩
      · simpa [updater, restarted] using safe.ended
      · simpa [updater] using safe.judged
  | process event =>
      cases event with
      | disturb preferences =>
          refine ⟨⟨exclusive, safe.current, ?_, ?_⟩, Nat.le_refl _⟩
          · simpa [updater, program, Threads.Program.machine, setPreferences] using safe.ended
          · simpa [updater, program, Threads.Program.machine] using safe.judged
      | call call =>
          have entered : Enters state.shared call (enter platform state.shared call).1
              (enter platform state.shared call).2 := enter_enters call
          obtain ⟨kept, current⟩ := entered.accepts
          have step : (updater platform).step state (.process (.call call)) =
              (⟨(enter platform state.shared call).1,
                state.threads ++ [(enter platform state.shared call).2]⟩, []) := rfl
          rw [step] at exclusive ⊢
          rw [List.append_nil]
          refine ⟨⟨exclusive, ?_, ?_, safe.judged⟩, by rw [kept]⟩
          · intro other member
            obtain old | new := List.mem_append.mp member
            · simp only [kept]
              exact safe.current other old
            · rw [List.mem_singleton.mp new]
              exact current _
          · simp only [kept]
            exact safe.ended
      | advance index choice =>
          have step : (updater platform).step state (.process (.advance index choice)) =
              (program platform).machine.step state (.advance index choice) := rfl
          cases found : state.threads[index]? with
          | none =>
              rw [step, (program platform).machine_absent choice found, List.append_nil]
              exact ⟨safe, Nat.le_refl _⟩
          | some worker =>
              rw [step, (program platform).machine_advance choice found] at exclusive ⊢
              have inside := List.mem_of_getElem? found
              have accepts := (move_moves worker choice).accepts (safe.current worker inside)
                safe.ended (by
                  rintro operation manifest rfl newest
                  have known := onTime.2
                  simp only [unstoredSequence, found, not_and, not_lt] at known
                  exact known newest)
              exact ⟨safe.advance found accepts exclusive, accepts.grows⟩

/-- At the start nothing is rolled back. -/
theorem noRollback_initial (options : Options) :
    NoRollback (initialUpdater platform options) [] :=
  ⟨exclusive_initial options, nofun, nofun, trivial⟩

/-- No check publishes an artifact of a manifest that is older than one of an ended check, and the
accepted sequence never decreases, where every check that ends without a newer version has got an
accepted sequence and no check reports late. -/
theorem no_rollback (options : Options) (events : List Event)
    (guarded : (updater platform).Guarded
      (fun state event => ¬ lateReport state event ∧ ¬ unstoredSequence platform state event)
      (initialUpdater platform options) events) :
    Machine.Judged NotOlder []
        ((updater platform).run (initialUpdater platform options) events).2 ∧
      ∀ early, early <+: events →
        ((updater platform).run (initialUpdater platform options)
          early).1.shared.options.acceptedSequence ≤
        ((updater platform).run (initialUpdater platform options)
          events).1.shared.options.acceptedSequence := by
  have whole := (updater platform).run_invariant _ NoRollback
    (fun _ _ event onTime safe => (noRollback_step safe event onTime).1)
    (initialUpdater platform options) [] events (noRollback_initial options) guarded
  rw [List.nil_append] at whole
  refine ⟨whole.judged, ?_⟩
  rintro early ⟨rest, rfl⟩
  rw [Machine.guarded_append] at guarded
  rw [Machine.run_append]
  have begun := (updater platform).run_invariant _ NoRollback
    (fun _ _ event onTime safe => (noRollback_step safe event onTime).1)
    (initialUpdater platform options) [] early (noRollback_initial options) guarded.1
  generalize ((updater platform).run (initialUpdater platform options) early).1 = middle
    at guarded begun ⊢
  exact ((updater platform).run_invariant _
    (fun state past => NoRollback state past ∧
      middle.shared.options.acceptedSequence ≤ state.shared.options.acceptedSequence)
    (fun _ _ event onTime both =>
      ⟨(noRollback_step both.1 event onTime).1,
        Nat.le_trans both.2 (noRollback_step both.1 event onTime).2⟩)
    middle _ rest ⟨begun, Nat.le_refl _⟩ guarded.2).2

/-- A check of the running version that ends with a manifest of this sequence. -/
def upToDateRun (index sequence : Nat) : List Event :=
  [.process (.call .check),
    .process (.advance index (.manifest (sampleManifest sequence "1.0.0" 'a') 1)),
    .process (.advance index .proceed)]

def quietOptions : Options := ⟨0, true, false⟩

theorem no_rollback_restarted :
    (updater samplePlatform).Guarded
        (fun state event => ¬ lateReport state event ∧ ¬ unstoredSequence samplePlatform state event)
        (initialUpdater samplePlatform quietOptions)
        (checkRun 0 5 'a' ++ upToDateRun 1 5 ++ [.restart] ++ checkRun 0 7 'b') ∧
      Machine.Judged NotOlder []
        ((updater samplePlatform).run (initialUpdater samplePlatform quietOptions)
          (checkRun 0 5 'a' ++ upToDateRun 1 5 ++ [.restart] ++ checkRun 0 7 'b')).2 := by
  have guarded : (updater samplePlatform).Guarded
      (fun state event => ¬ lateReport state event ∧ ¬ unstoredSequence samplePlatform state event)
      (initialUpdater samplePlatform quietOptions)
      (checkRun 0 5 'a' ++ upToDateRun 1 5 ++ [.restart] ++ checkRun 0 7 'b') := by
    decide +kernel
  exact ⟨guarded, (no_rollback quietOptions _ guarded).1⟩

/-- Two checks overlap after a late report, and the one with the older manifest stores last. -/
def overlappingChecks : List Event :=
  checkRun 0 5 'a' ++
    [.process (.call .check), .process (.advance 0 .proceed), .process (.advance 0 .proceed),
      .process (.advance 1 (.manifest (sampleManifest 6 "2.0.0" 'a') 1))] ++
    checkRun 2 9 'b'

/-- The manifest of a check that found no newer version is forgotten, and a check that overlaps with
another one lowers the accepted sequence. -/
theorem older_artifact_published :
    ¬ Machine.Judged NotOlder []
        ((updater samplePlatform).run (initialUpdater samplePlatform quietOptions)
          (upToDateRun 0 5 ++ checkRun 1 3 'a')).2 ∧
      ((updater samplePlatform).run (initialUpdater samplePlatform sampleOptions)
        overlappingChecks).1.shared.options.acceptedSequence = 9 ∧
      ((updater samplePlatform).run (initialUpdater samplePlatform sampleOptions)
        (overlappingChecks ++ [.process (.advance 1 .proceed)])).1.shared.options.acceptedSequence =
          6 := by
  refine ⟨?_, by decide +kernel, by decide +kernel⟩
  have outputs : ((updater samplePlatform).run (initialUpdater samplePlatform quietOptions)
      (upToDateRun 0 5 ++ checkRun 1 3 'a')).2 =
        [.cleared (some 0) 0, .ended 5] ++
          [.cleared (some 1) 1, .published 3 (sampleArtifact 'a'), .ended 3] := by
    decide +kernel
  rw [outputs, Machine.judged_append]
  rintro ⟨-, -, published, -⟩
  have ordered := published 5 (by simp)
  omega

end SubnetDesk.SoftwareUpdate
