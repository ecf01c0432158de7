/-
This file defines the shared state of the updater, its operations at lock granularity, and the machine
of their threads.
-/

import SubnetDesk.Construction.SoftwareUpdate.Manifest
import SubnetDesk.Foundation.Threads

namespace SubnetDesk.SoftwareUpdate

inductive UpdatePhase where
  | idle
  | checking
  | upToDate
  | available
  | downloading
  | ready
  | installing
  | deferred
  | failed
  | disabled
deriving DecidableEq

structure PublicUpdateState where
  state : UpdatePhase
  availableVersion : String
  progress : Nat
  message : String
  releaseNotesUrl : String
  mandatory : Bool
  autoCheck : Bool
  autoDownload : Bool
deriving DecidableEq

structure UpdateState where
  view : PublicUpdateState
  artifact : Option UpdateArtifact
  downloadedFile : Option Package
  busy : Bool
deriving DecidableEq

/-- The options of the updater are stored in the configuration. -/
structure Options where
  acceptedSequence : Nat
  autoCheck : Bool
  autoDownload : Bool
deriving DecidableEq

/-- The number of started operations and the operation that has set the flag are history. -/
structure Shared where
  state : UpdateState
  options : Options
  started : Nat
  owner : Option Nat
deriving DecidableEq

def releasesUrl : String := "https://github.com/zibo-chen/SubnetDesk/releases/latest"

def defaultState (platform : Platform) (options : Options) : UpdateState where
  view :=
    { state := if platform.disabledReason.isSome then .disabled else .idle
      availableVersion := ""
      progress := 0
      message := platform.disabledReason.getD ""
      releaseNotesUrl := releasesUrl
      mandatory := false
      autoCheck := options.autoCheck
      autoDownload := options.autoDownload }
  artifact := none
  downloadedFile := none
  busy := false

/-- A thread of the updater between two accesses to shared data. The number of its operation and the
flag of a report after the release are history. -/
inductive Worker where
  | done
  | fetching (operation : Nat)
  | validated (operation : Nat) (manifest : UpdateManifest)
  | stored (operation : Nat) (manifest : UpdateManifest) (artifact : UpdateArtifact)
  | autoDownload (operation : Nat)
  | requesting (operation : Nat) (artifact : UpdateArtifact)
  | streaming (operation : Nat) (artifact : UpdateArtifact) (path : String)
      (received : List UInt8) (lastProgress : Nat)
  | verified (operation : Nat) (package : Package)
  | installing (operation : Nat) (package : Package)
  | reporting (operation : Nat) (released : Bool) (error : String)
deriving DecidableEq

inductive Call where
  | check
  | download
  | install (activeConnections : Bool)
deriving DecidableEq

/-- What the network and the platform answer to a thread. -/
inductive Choice where
  | fail (error : String)
  | proceed
  | manifest (manifest : UpdateManifest) (now : Int)
  | publish (now : Int)
  | response (success : Bool) (contentLength : Option Nat) (path : String)
  | chunk (bytes : List UInt8)
deriving DecidableEq

/-- The part of a run that the properties speak about. -/
inductive Output where
  | cleared (setter : Option Nat) (operation : Nat)
  | ended (sequence : Nat)
  | published (sequence : Nat) (artifact : UpdateArtifact)
deriving DecidableEq

structure Preferences where
  autoCheck : Bool
  autoDownload : Bool
deriving DecidableEq

def alreadyRunning : String := "Another software update operation is already running"

section Operations

variable (platform : Platform) (shared : Shared)

def UpdateState.withView (state : UpdateState) (change : PublicUpdateState → PublicUpdateState) :
    UpdateState := { state with view := change state.view }

/-- A new operation sets the flag and publishes its phase. -/
def Shared.take (phase : UpdatePhase) (change : PublicUpdateState → PublicUpdateState) : Shared :=
  { shared with
    state := { shared.state.withView change with
      busy := true
      view := { change shared.state.view with state := phase } }
    started := shared.started + 1
    owner := some shared.started }

/-- An operation clears the flag. -/
def Shared.release (operation : Nat) (state : UpdateState) : Shared × List Output :=
  ({ shared with state := { state with busy := false }, owner := none },
    if shared.state.busy then [.cleared shared.owner operation] else [])

def beginOperation (phase : UpdatePhase) (message : String) : Except String Shared :=
  if shared.state.busy then .error alreadyRunning
  else .ok (shared.take phase fun view => { view with message := message, progress := 0 })

def check : Shared × Worker :=
  if platform.disabledReason.isSome then (shared, .done)
  else
    match beginOperation shared .checking "" with
    | .error _ => (shared, .done)
    | .ok taken => (taken, .fetching shared.started)

def download : Except String (Shared × Worker) :=
  if shared.state.busy then .error alreadyRunning
  else
    match shared.state.artifact with
    | none => .error "No update is available"
    | some artifact =>
        .ok (shared.take .downloading fun view => { view with progress := 0, message := "" },
          .requesting shared.started artifact)

def install (activeConnections : Bool) : Shared × Worker :=
  if activeConnections then
    ({ shared with
        state := shared.state.withView fun view =>
          { view with
            state := .deferred
            message := "An active remote session is preventing installation" } },
      .done)
  else if shared.state.busy then (shared, .done)
  else
    match shared.state.downloadedFile with
    | none => (shared, .done)
    | some package =>
        (shared.take .installing fun view => { view with message := "" },
          .installing shared.started package)

def discardDownload (state : UpdateState) : UpdateState := { state with downloadedFile := none }

/-- The check found no newer version. -/
def endUpToDate (operation : Nat) : Shared × List Output :=
  shared.release operation
    { discardDownload { shared.state with artifact := none } with
      view := { shared.state.view with
        state := .upToDate
        availableVersion := ""
        progress := 0
        message := "" } }

/-- The check publishes the artifact that it has selected. -/
def endAvailable (operation : Nat) (now : Int) (manifest : UpdateManifest)
    (artifact : UpdateArtifact) : Shared × List Output :=
  shared.release operation
    { discardDownload { shared.state with artifact := some artifact } with
      view := { shared.state.view with
        state := .available
        availableVersion := manifest.version
        releaseNotesUrl := manifest.releaseNotesUrl
        mandatory := isMandatory platform now manifest
        progress := 0
        message := "" } }

def endReady (operation : Nat) (package : Package) : Shared × List Output :=
  shared.release operation
    { shared.state with
      downloadedFile := some package
      view := { shared.state.view with state := .ready, progress := 100, message := "" } }

def updateProgress (progress : Nat) : Shared :=
  { shared with
    state := shared.state.withView fun view => { view with progress := min progress 100 } }

def finishError (operation : Nat) (error : String) : Shared × List Output :=
  shared.release operation
    { shared.state with
      view := { shared.state.view with
        state :=
          if platform.disabledReason.isSome then .disabled
          else if shared.state.downloadedFile.isSome then .ready
          else if shared.state.artifact.isSome then .available
          else .failed
        message := error } }

/-- A check reads the accepted sequence when it validates the manifest that it got. -/
def moveFetching (operation : Nat) : Choice → Worker
  | .manifest manifest now =>
      match validateManifest platform shared.options.acceptedSequence now manifest with
      | .error error => .reporting operation false error
      | .ok () => .validated operation manifest
  | .fail error => .reporting operation false error
  | _ => .fetching operation

/-- A check ends here, fails, or stores its sequence. -/
def moveValidated (operation : Nat) (manifest : UpdateManifest) : Shared × Worker × List Output :=
  if upToDate platform manifest then
    ((endUpToDate shared operation).1, .done,
      (endUpToDate shared operation).2 ++ [.ended manifest.sequence])
  else
    match selectArtifact platform manifest with
    | .error error => (shared, .reporting operation false error, [])
    | .ok artifact =>
        ({ shared with
            options := { shared.options with acceptedSequence := manifest.sequence } },
          .stored operation manifest artifact, [])

/-- The option of automatic downloads is read before the lock. -/
def moveStored (operation : Nat) (manifest : UpdateManifest) (artifact : UpdateArtifact) :
    Choice → Shared × Worker × List Output
  | .publish now =>
      ((endAvailable platform shared operation now manifest artifact).1,
        if shared.options.autoDownload then .autoDownload operation else .done,
        (endAvailable platform shared operation now manifest artifact).2 ++
          [.published manifest.sequence artifact, .ended manifest.sequence])
  | _ => (shared, .stored operation manifest artifact, [])

/-- The check starts a download after it has released the flag. -/
def moveAutoDownload (operation : Nat) : Shared × Worker :=
  match download shared with
  | .error error => (shared, .reporting operation true error)
  | .ok started => started

def moveRequesting (operation : Nat) (artifact : UpdateArtifact) : Choice → Worker
  | .response success contentLength path =>
      if !success then .reporting operation false "Update download failed"
      else if artifact.size = 0 ∨ artifact.size > maxPackageBytes then
        .reporting operation false "Invalid update package size"
      else if contentLength.any (· ≠ artifact.size) then
        .reporting operation false "Update package size does not match the signed manifest"
      else .streaming operation artifact path [] 0
  | .fail error => .reporting operation false error
  | _ => .requesting operation artifact

/-- One turn of the loop of `stream_package`, where an empty read ends the loop. -/
def moveStreaming (operation : Nat) (artifact : UpdateArtifact) (path : String)
    (received : List UInt8) (lastProgress : Nat) : Choice → Shared × Worker
  | .chunk bytes =>
      if bytes.isEmpty then
        match checkPackage platform artifact received with
        | .error error => (shared, .reporting operation false error)
        | .ok () =>
            if platform.signed received then (shared, .verified operation ⟨path, received⟩)
            else (shared, .reporting operation false "Platform signature verification failed")
      else if received.length + bytes.length > artifact.size ∨
          received.length + bytes.length > maxPackageBytes then
        (shared, .reporting operation false "Update package exceeds the signed size")
      else
        let progress := (received.length + bytes.length) * 100 / artifact.size
        (if progress ≠ lastProgress then updateProgress shared progress else shared,
          .streaming operation artifact path (received ++ bytes) progress)
  | .fail error => (shared, .reporting operation false error)
  | _ => (shared, .streaming operation artifact path received lastProgress)

def moveInstalling (operation : Nat) (package : Package) : Choice → Worker
  | .proceed => .done
  | .fail error => .reporting operation false error
  | _ => .installing operation package

end Operations

def move (platform : Platform) (shared : Shared) (worker : Worker) (choice : Choice) :
    Shared × Worker × List Output :=
  match worker with
  | .done => (shared, .done, [])
  | .fetching operation => (shared, moveFetching platform shared operation choice, [])
  | .validated operation manifest => moveValidated platform shared operation manifest
  | .stored operation manifest artifact =>
      moveStored platform shared operation manifest artifact choice
  | .autoDownload operation =>
      ((moveAutoDownload shared operation).1, (moveAutoDownload shared operation).2, [])
  | .requesting operation artifact => (shared, moveRequesting operation artifact choice, [])
  | .streaming operation artifact path received lastProgress =>
      let moved := moveStreaming platform shared operation artifact path received lastProgress
        choice
      (moved.1, moved.2, [])
  | .verified operation package =>
      ((endReady shared operation package).1, .done, (endReady shared operation package).2)
  | .installing operation package => (shared, moveInstalling operation package choice, [])
  | .reporting operation _ error =>
      ((finishError platform shared operation error).1, .done,
        (finishError platform shared operation error).2)

def enter (platform : Platform) (shared : Shared) : Call → Shared × Worker
  | .check => check platform shared
  | .download =>
      match download shared with
      | .error _ => (shared, .done)
      | .ok started => started
  | .install activeConnections => install shared activeConnections

def setPreferences (shared : Shared) (preferences : Preferences) : Shared :=
  let autoCheck := preferences.autoCheck || preferences.autoDownload
  { shared with
    options := { shared.options with
      autoCheck := autoCheck
      autoDownload := preferences.autoDownload }
    state := shared.state.withView fun view =>
      { view with autoCheck := autoCheck, autoDownload := preferences.autoDownload } }

def program (platform : Platform) :
    Threads.Program Shared Worker Call Choice Preferences Output where
  enter := enter platform
  move := move platform
  disturb := setPreferences

/-- The process runs, or starts again with the stored options. -/
inductive Event where
  | process (event : Threads.Event Call Choice Preferences)
  | restart
deriving DecidableEq

abbrev Updater := Threads.State Shared Worker

def restarted (platform : Platform) (shared : Shared) : Shared :=
  { shared with state := defaultState platform shared.options, owner := none }

def updater (platform : Platform) : Machine Updater Event Output where
  step state
    | .process event => (program platform).machine.step state event
    | .restart => (⟨restarted platform state.shared, []⟩, [])

def initialUpdater (platform : Platform) (options : Options) : Updater :=
  ⟨⟨defaultState platform options, options, 0, none⟩, []⟩

end SubnetDesk.SoftwareUpdate
