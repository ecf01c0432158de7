import SubnetDesk.Proof.SoftwareUpdate.Exclusion

namespace SubnetDesk.SoftwareUpdate

variable {platform : Platform} {shared after : Shared} {worker next : Worker}
  {outputs : List Output} {state : Updater}

def UpdatePhase.active : UpdatePhase → Bool
  | .checking | .downloading | .installing => true
  | _ => false

def UpdatePhase.offersFile : UpdatePhase → Bool
  | .ready | .deferred => true
  | _ => false

/-- A package is verified against the artifact that is stored now. -/
def UpdateState.Verified (platform : Platform) (state : UpdateState) (package : Package) : Prop :=
  ∃ artifact, state.artifact = some artifact ∧ VerifiedFor platform artifact package

/-- The published phase agrees with the flag, the artifact and the downloaded file. -/
structure UpdateState.Consistent (platform : Platform) (state : UpdateState) : Prop where
  active : state.view.state.active = state.busy
  offered : state.view.state.offersFile = true → ∃ package,
    state.downloadedFile = some package ∧ state.Verified platform package
  available : state.view.state = .available → state.artifact.isSome = true

/-- A thread works for the artifact that is stored now. -/
def Worker.Fits (platform : Platform) (state : UpdateState) : Worker → Prop
  | .requesting _ artifact | .streaming _ artifact _ _ _ => state.artifact = some artifact
  | .verified _ package | .installing _ package => state.Verified platform package
  | _ => True

/-- A downloaded file stays verified. -/
structure UpdateState.Sound (platform : Platform) (state : UpdateState) : Prop
    extends state.Consistent platform where
  file : ∀ package, state.downloadedFile = some package → state.Verified platform package

theorem Worker.fits_of_idle {state : UpdateState} (idle : worker.operation? = none) :
    worker.Fits platform state := by
  cases worker with
  | requesting operation artifact => cases idle
  | streaming operation artifact path received lastProgress => cases idle
  | verified operation package => cases idle
  | installing operation package => cases idle
  | done => trivial
  | fetching operation => trivial
  | validated operation manifest => trivial
  | stored operation manifest artifact => trivial
  | autoDownload operation => trivial
  | reporting operation released error => trivial

/-- A worker depends on the package. -/
theorem Worker.Fits.congr {state other : UpdateState} (fits : worker.Fits platform state)
    (same : other.artifact = state.artifact) : worker.Fits platform other := by
  cases worker with
  | requesting operation artifact => exact same.trans fits
  | streaming operation artifact path received lastProgress => exact same.trans fits
  | verified operation package =>
      obtain ⟨artifact, stored, verified⟩ := fits
      exact ⟨artifact, same.trans stored, verified⟩
  | installing operation package =>
      obtain ⟨artifact, stored, verified⟩ := fits
      exact ⟨artifact, same.trans stored, verified⟩
  | done => trivial
  | fetching operation => trivial
  | validated operation manifest => trivial
  | stored operation manifest artifact => trivial
  | autoDownload operation => trivial
  | reporting operation released error => trivial

/-- A new operation keeps the artifact and the file. -/
theorem UpdateState.Sound.take (sound : shared.state.Sound platform) {phase : UpdatePhase}
    {change : PublicUpdateState → PublicUpdateState} (active : phase.active = true) :
    (shared.take phase change).state.Sound platform where
  active := active
  offered offers := by
    cases phase with
    | ready => cases active
    | deferred => cases active
    | idle => cases offers
    | checking => cases offers
    | upToDate => cases offers
    | available => cases offers
    | downloading => cases offers
    | installing => cases offers
    | failed => cases offers
    | disabled => cases offers
  available published := by
    have same : phase = .available := published
    rw [same] at active
    cases active
  file := sound.file

/-- An error leaves a sound state. -/
theorem UpdateState.Sound.finishError (sound : shared.state.Sound platform) (operation : Nat)
    (error : String) :
    (SoftwareUpdate.finishError platform shared operation error).1.state.Sound platform := by
  simp only [SoftwareUpdate.finishError, Shared.release]
  split
  next => exact ⟨⟨rfl, by rintro ⟨⟩, by rintro ⟨⟩⟩, sound.file⟩
  next =>
    split
    next present =>
      obtain ⟨package, here⟩ := Option.isSome_iff_exists.mp present
      exact ⟨⟨rfl, fun _ => ⟨package, here, sound.file package here⟩, by rintro ⟨⟩⟩, sound.file⟩
    next =>
      split
      next stored => exact ⟨⟨rfl, by rintro ⟨⟩, fun _ => stored⟩, sound.file⟩
      next => exact ⟨⟨rfl, by rintro ⟨⟩, by rintro ⟨⟩⟩, sound.file⟩

/-- A progress leaves a sound state. -/
theorem UpdateState.Sound.updateProgress (sound : shared.state.Sound platform) (progress : Nat) :
    (SoftwareUpdate.updateProgress shared progress).state.Sound platform :=
  ⟨⟨sound.active, sound.offered, sound.available⟩, sound.file⟩

/-- A step keeps the state consistent. It changes the artifact only for an operation in progress. -/
theorem Moves.sound (moves : Moves platform shared worker after next outputs)
    (sound : shared.state.Sound platform) (fits : worker.Fits platform shared.state) :
    after.state.Sound platform ∧ next.Fits platform after.state ∧
      (after.state.artifact = shared.state.artifact ∨
        ∃ operation, worker.operation? = some operation) := by
  cases moves with
  | stays => exact ⟨sound, fits, .inl rfl⟩
  | fails worker operation error running => exact ⟨sound, trivial, .inl rfl⟩
  | validates operation manifest fresh => exact ⟨sound, trivial, .inl rfl⟩
  | upToDate operation manifest newest =>
      exact ⟨⟨⟨rfl, nofun, nofun⟩, nofun⟩, trivial, .inr ⟨operation, rfl⟩⟩
  | stores operation manifest artifact => exact ⟨sound, trivial, .inl rfl⟩
  | publishes operation manifest artifact now next follows =>
      refine ⟨⟨⟨rfl, nofun, fun _ => rfl⟩, nofun⟩, ?_, .inr ⟨operation, rfl⟩⟩
      obtain rfl | rfl := follows
      · trivial
      · trivial
  | downloads operation artifact free selected => exact ⟨sound.take rfl, selected, .inl rfl⟩
  | refused operation error => exact ⟨sound, trivial, .inl rfl⟩
  | requests operation artifact path => exact ⟨sound, fits, .inl rfl⟩
  | receives operation artifact path received bytes lastProgress progress after reported =>
      obtain rfl | rfl := reported
      · exact ⟨sound, fits, .inl rfl⟩
      · exact ⟨sound.updateProgress progress, fits, .inl rfl⟩
  | verifies operation artifact path received lastProgress verified =>
      exact ⟨sound, ⟨artifact, fits, verified⟩, .inl rfl⟩
  | ready operation package =>
      refine ⟨⟨⟨rfl, fun _ => ⟨package, rfl, fits⟩, nofun⟩, ?_⟩, trivial, .inl rfl⟩
      intro other present
      cases present
      exact fits
  | installed operation package => exact ⟨sound, trivial, .inl rfl⟩
  | reports operation released error => exact ⟨sound.finishError operation error, trivial, .inl rfl⟩

/-- An installation is deferred while an operation runs or without a downloaded file. -/
def strayDeferral (state : Updater) : Event → Prop
  | .process (.call (.install true)) =>
      state.shared.state.busy = true ∨ state.shared.state.downloadedFile = none
  | _ => False

instance (state : Updater) (event : Event) : Decidable (strayDeferral state event) := by
  unfold strayDeferral
  split
  · infer_instance
  · infer_instance

/-- A call leaves a sound state. -/
theorem Enters.sound {call : Call} (enters : Enters shared call after next)
    (sound : shared.state.Sound platform)
    (deferrable : call = .install true →
      shared.state.busy = false ∧ shared.state.downloadedFile ≠ none) :
    after.state.Sound platform ∧ next.Fits platform after.state ∧
      after.state.artifact = shared.state.artifact := by
  cases enters with
  | refused => exact ⟨sound, trivial, rfl⟩
  | defers message =>
      obtain ⟨free, present⟩ := deferrable rfl
      obtain ⟨package, here⟩ := Option.ne_none_iff_exists'.mp present
      exact ⟨⟨⟨free.symm, fun _ => ⟨package, here, sound.file package here⟩, nofun⟩, sound.file⟩,
        trivial, rfl⟩
  | checks change free => exact ⟨sound.take rfl, trivial, rfl⟩
  | downloads artifact change free selected => exact ⟨sound.take rfl, selected, rfl⟩
  | installs package change free present =>
      exact ⟨sound.take rfl, sound.file package present, rfl⟩

/-- All threads work for the stored artifact. -/
structure Phased (platform : Platform) (state : Updater) : Prop where
  exclusive : Exclusive state
  sound : state.shared.state.Sound platform
  fits : ∀ worker ∈ state.threads, worker.Fits platform state.shared.state

/-- A new updater is in phase. -/
theorem phased_initial (options : Options) : Phased platform (initialUpdater platform options) := by
  refine ⟨exclusive_initial options, ?_, nofun⟩
  simp only [initialUpdater, defaultState]
  split
  next => exact ⟨⟨rfl, nofun, nofun⟩, nofun⟩
  next => exact ⟨⟨rfl, nofun, nofun⟩, nofun⟩

/-- A step of a worker stays in phase. -/
theorem Phased.advance (phased : Phased platform state) {index : Nat}
    (found : state.threads[index]? = some worker)
    (moves : Moves platform state.shared worker after next outputs)
    (exclusive : Exclusive ⟨after, state.threads.set index next⟩) :
    Phased platform ⟨after, state.threads.set index next⟩ := by
  have inside := List.mem_of_getElem? found
  obtain ⟨sound, fits, changed⟩ := moves.sound phased.sound (phased.fits worker inside)
  refine ⟨exclusive, sound, ?_⟩
  intro other member
  by_cases same : other = next
  · rw [same]
    exact fits
  · obtain kept | ⟨operation, running⟩ := changed
    · have old := (List.mem_or_eq_of_mem_set member).resolve_right same
      exact (phased.fits other old).congr kept
    · exact Worker.fits_of_idle (phased.exclusive.others found running member same).2

/-- One event in time stays in phase. -/
theorem phased_step (phased : Phased platform state) (event : Event)
    (onTime : ¬ lateReport state event ∧ ¬ strayDeferral state event) :
    Phased platform ((updater platform).step state event).1 := by
  have exclusive : Exclusive ((updater platform).step state event).1 :=
    (exclusive_step phased.exclusive event onTime.1).1
  cases event with
  | restart =>
      refine ⟨exclusive, ?_, nofun⟩
      simp only [updater, restarted, defaultState]
      split
      next => exact ⟨⟨rfl, nofun, nofun⟩, nofun⟩
      next => exact ⟨⟨rfl, nofun, nofun⟩, nofun⟩
  | process event =>
      cases event with
      | disturb preferences =>
          have sound := phased.sound
          exact ⟨exclusive, ⟨⟨sound.active, sound.offered, sound.available⟩, sound.file⟩,
            fun worker member => (phased.fits worker member).congr rfl⟩
      | call call =>
          have calm : call = .install true →
              state.shared.state.busy = false ∧ state.shared.state.downloadedFile ≠ none := by
            rintro rfl
            simpa [strayDeferral, not_or] using onTime.2
          have entered : Enters state.shared call (enter platform state.shared call).1
              (enter platform state.shared call).2 := enter_enters call
          obtain ⟨sound, fits, kept⟩ := entered.sound phased.sound calm
          refine ⟨exclusive, sound, ?_⟩
          intro other member
          obtain old | new := List.mem_append.mp member
          · exact (phased.fits other old).congr kept
          · rw [List.mem_singleton.mp new]
            exact fits
      | advance index choice =>
          cases found : state.threads[index]? with
          | none =>
              show Phased platform ((program platform).machine.step state (.advance index choice)).1
              rw [(program platform).machine_absent choice found]
              exact phased
          | some worker =>
              have step : (updater platform).step state (.process (.advance index choice)) =
                  (program platform).machine.step state (.advance index choice) := rfl
              rw [step, (program platform).machine_advance choice found] at exclusive ⊢
              exact phased.advance found (move_moves worker choice) exclusive

/-- In every state that a run reaches, the published phase is consistent and every package in
installation is verified against the stored artifact, where no installation is deferred at a wrong
time and no check reports late. -/
theorem phases_consistent (options : Options) (events : List Event)
    (guarded : (updater platform).Guarded
      (fun state event => ¬ lateReport state event ∧ ¬ strayDeferral state event)
      (initialUpdater platform options) events) :
    ((updater platform).run (initialUpdater platform options) events).1.shared.state.Consistent
        platform ∧
      ∀ operation package, .installing operation package ∈
          ((updater platform).run (initialUpdater platform options) events).1.threads →
        ((updater platform).run (initialUpdater platform options) events).1.shared.state.Verified
          platform package := by
  have phased := (updater platform).run_invariant _ (fun state _ => Phased platform state)
    (fun _ _ event onTime phased => phased_step phased event onTime)
    (initialUpdater platform options) [] events (phased_initial options) guarded
  exact ⟨phased.sound.toConsistent, fun operation package member => phased.fits _ member⟩

/-- A download succeeds, an installation is deferred, and then starts. -/
def installedUpdate : List Event :=
  checkRun 0 5 'a' ++
    [.process (.advance 0 .proceed),
      .process (.advance 0 (.response true (some 1) "subnetdesk.dmg")),
      .process (.advance 0 (.chunk [1])), .process (.advance 0 (.chunk [])),
      .process (.advance 0 .proceed), .process (.call (.install true)),
      .process (.call (.install false))]

theorem phases_consistent_installed :
    (updater samplePlatform).Guarded
        (fun state event => ¬ lateReport state event ∧ ¬ strayDeferral state event)
        (initialUpdater samplePlatform sampleOptions) installedUpdate ∧
      ((updater samplePlatform).run (initialUpdater samplePlatform sampleOptions)
        installedUpdate).1.shared.state.Verified samplePlatform ⟨"subnetdesk.dmg", [1]⟩ := by
  have guarded : (updater samplePlatform).Guarded
      (fun state event => ¬ lateReport state event ∧ ¬ strayDeferral state event)
      (initialUpdater samplePlatform sampleOptions) installedUpdate := by decide +kernel
  refine ⟨guarded, ?_⟩
  have running : .installing 2 ⟨"subnetdesk.dmg", [1]⟩ ∈
      ((updater samplePlatform).run (initialUpdater samplePlatform sampleOptions)
        installedUpdate).1.threads := by decide +kernel
  exact (phases_consistent sampleOptions installedUpdate guarded).2 2 _ running

/-- A deferral during a check hides the check and offers a file that does not exist. -/
theorem deferred_during_check :
    ¬ ((updater samplePlatform).run (initialUpdater samplePlatform sampleOptions)
      [.process (.call .check), .process (.call (.install true))]).1.shared.state.Consistent
        samplePlatform := by
  intro consistent
  have active := consistent.active
  have hidden : ((updater samplePlatform).run (initialUpdater samplePlatform sampleOptions)
      [.process (.call .check), .process (.call (.install true))]).1.shared.state.view.state.active ≠
        ((updater samplePlatform).run (initialUpdater samplePlatform sampleOptions)
          [.process (.call .check), .process (.call (.install true))]).1.shared.state.busy := by
    decide +kernel
  exact hidden active

end SubnetDesk.SoftwareUpdate
