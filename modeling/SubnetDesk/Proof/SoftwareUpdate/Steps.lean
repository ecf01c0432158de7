import SubnetDesk.Construction.SoftwareUpdate.Updater

namespace SubnetDesk.SoftwareUpdate
open AsciiCase

variable {platform : Platform} {shared : Shared}

/-- The operation that a thread has in progress. -/
def Worker.operation? : Worker → Option Nat
  | .done | .autoDownload _ => none
  | .fetching operation | .validated operation _ | .stored operation _ _
  | .requesting operation _ | .streaming operation _ _ _ _ | .verified operation _
  | .installing operation _ => some operation
  | .reporting operation released _ => if released then none else some operation

/-- The check that has published its artifact and still runs. -/
def Worker.released? : Worker → Option Nat
  | .autoDownload operation => some operation
  | .reporting operation released _ => if released then some operation else none
  | _ => none

/-- A step of a thread, with what it has checked. -/
inductive Moves (platform : Platform) (shared : Shared) :
    Worker → Shared → Worker → List Output → Prop where
  | stays (worker : Worker) : Moves platform shared worker shared worker []
  | fails (worker : Worker) (operation : Nat) (error : String)
      (running : worker.operation? = some operation) :
      Moves platform shared worker shared (.reporting operation false error) []
  | validates (operation : Nat) (manifest : UpdateManifest)
      (fresh : shared.options.acceptedSequence ≤ manifest.sequence) :
      Moves platform shared (.fetching operation) shared (.validated operation manifest) []
  | upToDate (operation : Nat) (manifest : UpdateManifest)
      (newest : SoftwareUpdate.upToDate platform manifest = true) :
      Moves platform shared (.validated operation manifest) (endUpToDate shared operation).1 .done
        ((endUpToDate shared operation).2 ++ [.ended manifest.sequence])
  | stores (operation : Nat) (manifest : UpdateManifest) (artifact : UpdateArtifact) :
      Moves platform shared (.validated operation manifest)
        { shared with options := { shared.options with acceptedSequence := manifest.sequence } }
        (.stored operation manifest artifact) []
  | publishes (operation : Nat) (manifest : UpdateManifest) (artifact : UpdateArtifact)
      (now : Int) (next : Worker) (after : next = .autoDownload operation ∨ next = .done) :
      Moves platform shared (.stored operation manifest artifact)
        (endAvailable platform shared operation now manifest artifact).1 next
        ((endAvailable platform shared operation now manifest artifact).2 ++
          [.published manifest.sequence artifact, .ended manifest.sequence])
  | downloads (operation : Nat) (artifact : UpdateArtifact) (free : shared.state.busy = false)
      (selected : shared.state.artifact = some artifact) :
      Moves platform shared (.autoDownload operation)
        (shared.take .downloading fun view => { view with progress := 0, message := "" })
        (.requesting shared.started artifact) []
  | refused (operation : Nat) (error : String) :
      Moves platform shared (.autoDownload operation) shared (.reporting operation true error) []
  | requests (operation : Nat) (artifact : UpdateArtifact) (path : String) :
      Moves platform shared (.requesting operation artifact) shared
        (.streaming operation artifact path [] 0) []
  | receives (operation : Nat) (artifact : UpdateArtifact) (path : String)
      (received bytes : List UInt8) (lastProgress progress : Nat) (after : Shared)
      (reported : after = shared ∨ after = updateProgress shared progress) :
      Moves platform shared (.streaming operation artifact path received lastProgress) after
        (.streaming operation artifact path bytes progress) []
  | verifies (operation : Nat) (artifact : UpdateArtifact) (path : String)
      (received : List UInt8) (lastProgress : Nat)
      (verified : VerifiedFor platform artifact ⟨path, received⟩) :
      Moves platform shared (.streaming operation artifact path received lastProgress) shared
        (.verified operation ⟨path, received⟩) []
  | ready (operation : Nat) (package : Package) :
      Moves platform shared (.verified operation package) (endReady shared operation package).1
        .done (endReady shared operation package).2
  | installed (operation : Nat) (package : Package) :
      Moves platform shared (.installing operation package) shared .done []
  | reports (operation : Nat) (released : Bool) (error : String) :
      Moves platform shared (.reporting operation released error)
        (finishError platform shared operation error).1 .done
        (finishError platform shared operation error).2

/-- A valid manifest is not older. -/
theorem validateManifest_fresh {accepted : Nat} {now : Int} {manifest : UpdateManifest}
    (valid : validateManifest platform accepted now manifest = .ok ()) :
    accepted ≤ manifest.sequence := by
  by_contra older
  rw [not_le] at older
  simp only [validateManifest, bind, Except.bind, throw, throwThe, MonadExceptOf.throw, pure,
    Except.pure] at valid
  repeat' split at valid
  all_goals contradiction

/-- A checked package has its size and digest. -/
theorem checkPackage_ok {artifact : UpdateArtifact} {content : List UInt8}
    (valid : checkPackage platform artifact content = .ok ()) :
    content.length = artifact.size ∧
      eqIgnoreAsciiCase (platform.sha256 content).toList artifact.sha256.toList = true := by
  simp only [checkPackage, bind, Except.bind, throw, throwThe, MonadExceptOf.throw, pure,
    Except.pure] at valid
  split at valid
  next => cases valid
  next size =>
    split at valid
    next => cases valid
    next digest =>
      exact ⟨not_not.mp size, by simpa using digest⟩

/-- A fetch moves by the rules. -/
theorem moveFetching_moves (operation : Nat) (choice : Choice) :
    Moves platform shared (.fetching operation) shared
      (moveFetching platform shared operation choice) [] := by
  cases choice with
  | manifest manifest now =>
      simp only [moveFetching]
      split
      next error _ => exact .fails _ operation error rfl
      next valid => exact .validates operation manifest (validateManifest_fresh valid)
  | fail error => exact .fails _ operation error rfl
  | proceed => exact .stays _
  | publish now => exact .stays _
  | response success contentLength path => exact .stays _
  | chunk bytes => exact .stays _

/-- A valid manifest moves by the rules. -/
theorem moveValidated_moves (operation : Nat) (manifest : UpdateManifest) :
    Moves platform shared (.validated operation manifest)
      (moveValidated platform shared operation manifest).1
      (moveValidated platform shared operation manifest).2.1
      (moveValidated platform shared operation manifest).2.2 := by
  unfold moveValidated
  split
  next newest => exact .upToDate operation manifest newest
  next =>
    split
    next error _ => exact .fails _ operation error rfl
    next artifact _ => exact .stores operation manifest artifact

/-- A stored sequence moves by the rules. -/
theorem moveStored_moves (operation : Nat) (manifest : UpdateManifest)
    (artifact : UpdateArtifact) (choice : Choice) :
    Moves platform shared (.stored operation manifest artifact)
      (moveStored platform shared operation manifest artifact choice).1
      (moveStored platform shared operation manifest artifact choice).2.1
      (moveStored platform shared operation manifest artifact choice).2.2 := by
  cases choice with
  | publish now =>
      apply Moves.publishes
      simp only [moveStored]
      split
      next => exact .inl rfl
      next => exact .inr rfl
  | manifest manifest now => exact .stays _
  | fail error => exact .stays _
  | proceed => exact .stays _
  | response success contentLength path => exact .stays _
  | chunk bytes => exact .stays _

/-- A download starts in a free state. -/
theorem download_ok {after : Shared} {worker : Worker} (started : download shared = .ok (after, worker)) :
    shared.state.busy = false ∧ ∃ artifact, shared.state.artifact = some artifact ∧
      after = shared.take .downloading (fun view => { view with progress := 0, message := "" }) ∧
      worker = .requesting shared.started artifact := by
  unfold download at started
  split at started
  next => cases started
  next free =>
    split at started
    next => cases started
    next artifact selected =>
      cases started
      exact ⟨Bool.eq_false_iff.mpr free, artifact, selected, rfl, rfl⟩

/-- A download of its own moves by the rules. -/
theorem moveAutoDownload_moves (operation : Nat) :
    Moves platform shared (.autoDownload operation) (moveAutoDownload shared operation).1
      (moveAutoDownload shared operation).2 [] := by
  unfold moveAutoDownload
  split
  next error _ => exact .refused operation error
  next started begun =>
    obtain ⟨after, worker⟩ := started
    obtain ⟨free, artifact, selected, rfl, rfl⟩ := download_ok begun
    exact .downloads operation artifact free selected

/-- A request moves by the rules. -/
theorem moveRequesting_moves (operation : Nat) (artifact : UpdateArtifact) (choice : Choice) :
    Moves platform shared (.requesting operation artifact) shared
      (moveRequesting operation artifact choice) [] := by
  cases choice with
  | response success contentLength path =>
      simp only [moveRequesting]
      split
      next => exact .fails _ operation _ rfl
      next =>
        split
        next => exact .fails _ operation _ rfl
        next =>
          split
          next => exact .fails _ operation _ rfl
          next => exact .requests operation artifact path
  | fail error => exact .fails _ operation error rfl
  | manifest manifest now => exact .stays _
  | proceed => exact .stays _
  | publish now => exact .stays _
  | chunk bytes => exact .stays _

/-- A stream moves by the rules. -/
theorem moveStreaming_moves (operation : Nat) (artifact : UpdateArtifact) (path : String)
    (received : List UInt8) (lastProgress : Nat) (choice : Choice) :
    Moves platform shared (.streaming operation artifact path received lastProgress)
      (moveStreaming platform shared operation artifact path received lastProgress choice).1
      (moveStreaming platform shared operation artifact path received lastProgress choice).2
      [] := by
  cases choice with
  | chunk bytes =>
      simp only [moveStreaming]
      split
      next =>
        split
        next error _ => exact .fails _ operation error rfl
        next valid =>
          split
          next signature =>
            obtain ⟨size, digest⟩ := checkPackage_ok valid
            exact .verifies operation artifact path received lastProgress
              ⟨size, digest, signature⟩
          next => exact .fails _ operation _ rfl
      next =>
        split
        next => exact .fails _ operation _ rfl
        next =>
          apply Moves.receives
          split
          next => exact .inr rfl
          next => exact .inl rfl
  | fail error => exact .fails _ operation error rfl
  | manifest manifest now => exact .stays _
  | proceed => exact .stays _
  | publish now => exact .stays _
  | response success contentLength path => exact .stays _

/-- An installation moves by the rules. -/
theorem moveInstalling_moves (operation : Nat) (package : Package) (choice : Choice) :
    Moves platform shared (.installing operation package) shared
      (moveInstalling operation package choice) [] := by
  cases choice with
  | proceed => exact .installed operation package
  | fail error => exact .fails _ operation error rfl
  | manifest manifest now => exact .stays _
  | publish now => exact .stays _
  | response success contentLength path => exact .stays _
  | chunk bytes => exact .stays _

/-- Every step of a worker moves by the rules. -/
theorem move_moves (worker : Worker) (choice : Choice) :
    Moves platform shared worker (move platform shared worker choice).1
      (move platform shared worker choice).2.1 (move platform shared worker choice).2.2 := by
  cases worker with
  | done => exact .stays _
  | fetching operation => exact moveFetching_moves operation choice
  | validated operation manifest => exact moveValidated_moves operation manifest
  | stored operation manifest artifact =>
      exact moveStored_moves operation manifest artifact choice
  | autoDownload operation => exact moveAutoDownload_moves operation
  | requesting operation artifact => exact moveRequesting_moves operation artifact choice
  | streaming operation artifact path received lastProgress =>
      exact moveStreaming_moves operation artifact path received lastProgress choice
  | verified operation package => exact .ready operation package
  | installing operation package => exact moveInstalling_moves operation package choice
  | reporting operation released error => exact .reports operation released error

/-- A call is refused, defers an installation, or begins an operation. -/
inductive Enters (shared : Shared) : Call → Shared → Worker → Prop where
  | refused (call : Call) : Enters shared call shared .done
  | defers (message : String) :
      Enters shared (.install true)
        { shared with
          state := shared.state.withView fun view =>
            { view with state := .deferred, message := message } } .done
  | checks (change : PublicUpdateState → PublicUpdateState) (free : shared.state.busy = false) :
      Enters shared .check (shared.take .checking change) (.fetching shared.started)
  | downloads (artifact : UpdateArtifact) (change : PublicUpdateState → PublicUpdateState)
      (free : shared.state.busy = false) (selected : shared.state.artifact = some artifact) :
      Enters shared .download (shared.take .downloading change)
        (.requesting shared.started artifact)
  | installs (package : Package) (change : PublicUpdateState → PublicUpdateState)
      (free : shared.state.busy = false) (present : shared.state.downloadedFile = some package) :
      Enters shared (.install false) (shared.take .installing change)
        (.installing shared.started package)

/-- Every call enters by the rules. -/
theorem enter_enters (call : Call) :
    Enters shared call (enter platform shared call).1 (enter platform shared call).2 := by
  cases call with
  | check =>
      simp only [enter, check, beginOperation]
      split
      next => exact .refused _
      next =>
        split
        next => exact .refused _
        next taken begun =>
          split at begun
          next => cases begun
          next free =>
            cases begun
            dsimp only
            exact .checks _ (Bool.eq_false_iff.mpr free)
  | download =>
      simp only [enter]
      split
      next => exact .refused _
      next started begun =>
        obtain ⟨after, worker⟩ := started
        obtain ⟨free, artifact, selected, rfl, rfl⟩ := download_ok begun
        dsimp only
        exact .downloads artifact _ free selected
  | install activeConnections =>
      cases activeConnections with
      | true => exact .defers _
      | false =>
          simp only [enter, install, Bool.false_eq_true, if_false]
          split
          next => exact .refused _
          next free =>
            split
            next => exact .refused _
            next package present =>
              dsimp only
              exact .installs package _ (Bool.eq_false_iff.mpr free) present

def samplePlatform : Platform where
  packageVersion := "1.0.0"
  getVersionNumber version := if version = "1.0.0" then 1 else 2
  parseFromRfc3339 text := if text = "published" then some 0 else some 1000
  parseUrl _ := .ok ⟨"https", some "example.com", "", none, none⟩
  artifactKey := .ok "macos-aarch64-dmg"
  disabledReason := none
  sha256 content := String.ofList (List.replicate 64 (if content = [1] then 'a' else 'b'))
  signed _ := true

/-- The package of this artifact is one byte long. -/
def sampleArtifact (digit : Char) : UpdateArtifact :=
  ⟨"https://example.com/subnetdesk.dmg", 1, String.ofList (List.replicate 64 digit)⟩

def sampleManifest (sequence : Nat) (version : String) (digit : Char) : UpdateManifest where
  schema := 1
  sequence := sequence
  channel := "stable"
  version := version
  publishedAt := "published"
  expiresAt := "expires"
  minSupportedVersion := none
  mandatoryAfter := none
  releaseNotesUrl := releasesUrl
  artifacts := [("macos-aarch64-dmg", sampleArtifact digit)]

def sampleOptions : Options := ⟨0, true, true⟩

/-- A check gets a manifest and publishes its artifact. -/
def checkRun (index sequence : Nat) (digit : Char) : List Event :=
  [.process (.call .check),
    .process (.advance index (.manifest (sampleManifest sequence "2.0.0" digit) 1)),
    .process (.advance index .proceed),
    .process (.advance index (.publish 1))]

end SubnetDesk.SoftwareUpdate
