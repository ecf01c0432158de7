import SubnetDesk.Proof.Connection.Scopes

namespace SubnetDesk.Connection

open Handler

variable {Payload : Type}

inductive Capability where
  | file
  | keyboard
  | clipboard
  | audio
  | restart
deriving DecidableEq

@[grind =] def Capability.granted (permissions : Permissions) : Capability → Bool
  | .file => permissions.file
  | .keyboard => permissions.keyboard
  | .clipboard => permissions.clipboard
  | .audio => permissions.audio
  | .restart => permissions.restart

def Fs.reads : Fs Payload → Bool
  | .readEmptyDirs _ _ => true
  | .readDir _ _ => true
  | .readAllFiles _ _ _ => true
  | .readFile _ _ _ _ _ => true
  | _ => false

/-- The capabilities that an effect exercises. -/
@[grind =] def Effect.capabilities : Effect Payload → List Capability
  | .send (.fileDir _ _ _) => [.file]
  | .send (.formatDataResponse _ names) => if names = [] then [] else [.file]
  | .send (.fileContentsResponse request _ _ data) =>
      if request.dwFlags = 2 ∧ data ≠ [] then [.file] else []
  | .toCm (.fs request) => if request.reads then [.file] else []
  | .updateFileClipboard _ => [.file]
  | .emptyFileClipboard => [.file]
  | .subscribe .fileClipboard true => [.file]
  | .subscribe .clipboard true => [.clipboard]
  | .subscribe .audio true => [.audio]
  | .input (.mouse _ false _) => []
  | .input _ => [.keyboard]
  | .mainServiceInput _ => [.keyboard]
  | .changeResolution _ _ => [.keyboard]
  | .turnOnPrivacy _ => [.keyboard]
  | .turnOffPrivacy => [.keyboard]
  | .lockScreen => [.keyboard]
  | .updateTextClipboard _ => [.clipboard]
  | .reboot _ => [.restart]
  | _ => []

/-- The permissions cover every capability that the effect exercises. -/
def Permitted (permissions : Permissions) (effect : Effect Payload) : Prop :=
  ∀ capability ∈ effect.capabilities, capability.granted permissions = true

/-- A Linux build with the file clipboard. -/
structure LinuxBuild extends Build where
  isLinux : platform = .linux
  hasFileClipboard : unixFileCopyPaste = true

namespace LinuxBuild

variable (build : LinuxBuild)

/-- No Linux build is mobile. -/
@[simp, grind =] theorem isMobile_eq : build.toBuild.isMobile = false := by
  simp [Build.isMobile, build.isLinux]

/-- No Linux build is one for Windows. -/
@[simp, grind =] theorem isWindows_eq : build.toBuild.isWindows = false := by
  simp [Build.isWindows, build.isLinux]

/-- Linux has no privacy mode. -/
@[simp, grind =] theorem isPrivacyModeSupported_eq (world : World Payload) :
    build.toBuild.isPrivacyModeSupported world = false := by
  simp [Build.isPrivacyModeSupported, build.isLinux]

end LinuxBuild

/-- A remote session with fixed permissions. -/
structure Remote (permissions : Permissions) (connection : Connection Payload) : Prop where
  login : connection.login = .none
  permissions : connection.permissions = permissions

/-- No effect changes a remote session's permissions. -/
theorem remote_apply (permissions : Permissions) (connection : Connection Payload)
    (effect : Effect Payload) (remote : Remote permissions connection) :
    Remote permissions (EffectSystem.apply connection effect) := by
  cases effect with
  | set write => cases write <;> exact ⟨remote.login, remote.permissions⟩
  | _ => exact remote

/-- No effects change a remote session's permissions. -/
theorem remote_perform {permissions : Permissions} {connection : Connection Payload}
    (effects : List (Effect Payload)) (remote : Remote permissions connection) :
    Remote permissions (perform connection effects) :=
  perform_keeps (fun state effect holds (_ : True) => remote_apply permissions state effect holds)
    connection effects remote fun _ _ => trivial

/-- A remote session has no narrow scope. -/
theorem Remote.scope {permissions : Permissions} {connection : Connection Payload}
    (remote : Remote permissions connection) : connection.scope = {} := by
  rw [Connection.scope, remote.login, configureLanConnectionScope]

theorem Remote.authedConnType {permissions : Permissions} {connection : Connection Payload}
    (remote : Remote permissions connection) : connection.authedConnType = .remote := by
  rw [Connection.authedConnType, remote.scope]
  rfl

/-- What a clipboard message must not find on the host, so that no file goes out or comes in. -/
def Cliprdr.sparesFiles (world : World Payload) : Cliprdr Payload → Prop
  | .formatDataRequest _ => world.clipFiles.fileList = []
  | .formatDataResponse msgFlags _ => msgFlags = 1 → ∀ urls, world.fuseUrls = some urls → urls = []
  | .fileContentsRequest request =>
      request.dwFlags = 2 → ∀ msgFlags streamId data,
        .ok (.fileContentsResponse msgFlags streamId data) ∈
          (world.clipFiles.readFileContents request).1 → data = []
  | .tryEmpty => world.ownsClipboardFiles = false
  | _ => True

/-- The messages that a session without the file permission could receive safely. -/
def Message.sparesFiles (build : Build) (world : World Payload) (connection : Connection Payload) :
    Message Payload → Prop
  | .cliprdr clip => build.versionNumber 1 3 8 ≤ connection.version → clip.sparesFiles world
  | .misc (.option option) =>
      BoolOption.fromI32 option.enableFileTransfer = some .no → world.ownsClipboardFiles = false
  | _ => True

section Stages

variable {excuse : Prop} {permissions : Permissions} {build : LinuxBuild} {world : World Payload}

/-- An effect without its permission has the excuse, and is about files. -/
def Tolerated (excuse : Prop) (permissions : Permissions) (effect : Effect Payload) : Prop :=
  Permitted permissions effect ∨ (excuse ∧ effect.capabilities = [.file])

def Respects (excuse : Prop) (permissions : Permissions) (handler : Handling Payload) : Prop :=
  Emits (Remote permissions) (Tolerated excuse permissions) handler

/-- An effect without a capability is tolerated. -/
theorem tolerated_of_idle {effect : Effect Payload} (idle : effect.capabilities = []) :
    Tolerated excuse permissions effect := by
  left
  intro capability member
  rw [idle] at member
  exact absurd member List.not_mem_nil

/-- An effect with its permission is tolerated. -/
theorem tolerated_of_granted {effect : Effect Payload} (capability : Capability)
    (only : effect.capabilities = [capability]) (granted : capability.granted permissions = true) :
    Tolerated excuse permissions effect := by
  left
  intro exercised member
  rw [only, List.mem_singleton] at member
  rw [member, granted]

/-- A handler without capabilities respects all. -/
theorem respects_of_idle {handler : Handling Payload}
    (idle : ∀ connection, Remote permissions connection →
      ∀ effect ∈ handler connection, effect.capabilities = []) :
    Respects excuse permissions handler :=
  fun connection remote effect member => tolerated_of_idle (idle connection remote effect member)

/-- Stages that respect the permissions join. -/
theorem respects_stages {list : List (Handling Payload)}
    (all : ∀ stage ∈ list, Respects excuse permissions stage) :
    Respects excuse permissions (stages list) :=
  emits_stages (fun state effect holds _ => remote_apply permissions state effect holds) all

/-- An option respects them if both values do. -/
theorem respects_whenSet {value : Int} {stage : Bool → Handling Payload}
    (all : ∀ on, Respects excuse permissions (stage on)) :
    Respects excuse permissions (whenSet value stage) := by
  intro connection remote effect member
  unfold whenSet at member
  split at member
  next => exact all true connection remote effect member
  next => exact all false connection remote effect member
  next => exact absurd member List.not_mem_nil

/-- A handler on desktops respects them as well. -/
theorem respects_onDesktop {handler : Handling Payload}
    (respects : Respects excuse permissions handler) :
    Respects excuse permissions (onDesktop build.toBuild handler) := by
  intro connection remote effect member
  rw [onDesktop, build.isMobile_eq, if_neg Bool.false_ne_true] at member
  exact respects connection remote effect member

theorem respects_set (write : Write Payload) :
    Respects excuse permissions fun _ => [.set write] := by
  apply respects_of_idle
  intro connection _ effect member
  rw [List.mem_singleton] at member
  subst member
  rfl

/-- A subscription that is on only with a permission is permitted. -/
theorem respects_subscribe {service : Service} {on : Connection Payload → Bool}
    (guarded : ∀ connection, Remote permissions connection → on connection = true →
      Tolerated excuse permissions (.subscribe service true : Effect Payload)) :
    Respects excuse permissions fun connection =>
      withServer world [.subscribe service (on connection)] := by
  intro connection remote effect member
  unfold withServer at member
  split at member
  next =>
      rw [List.mem_singleton] at member
      subst member
      cases value : on connection with
      | true => exact guarded connection remote value
      | false =>
          apply tolerated_of_idle
          cases service <;> rfl
  next => exact absurd member List.not_mem_nil

theorem respects_subscribeCursor : Respects excuse permissions (subscribeCursor world) :=
  respects_subscribe fun _ _ _ => tolerated_of_idle rfl

/-- The clipboard service needs its permission. -/
theorem respects_subscribeClipboard : Respects excuse permissions (subscribeClipboard world) := by
  apply respects_subscribe
  rintro connection ⟨-, rfl⟩ on
  apply tolerated_of_granted .clipboard rfl
  simp only [canSubClipboardService, clipboardEnabled, Bool.and_eq_true] at on
  exact on.1.1.1

/-- The file clipboard needs its permission. -/
theorem respects_subscribeFileClipboard :
    Respects excuse permissions (subscribeFileClipboard build.toBuild world) := by
  have subscribed : Respects excuse permissions fun connection =>
      withServer world
        [.subscribe .fileClipboard (connection.canSubFileClipboardService world)] := by
    apply respects_subscribe
    rintro connection ⟨-, rfl⟩ on
    apply tolerated_of_granted .file rfl
    simp only [canSubFileClipboardService, fileTransferEnabled, Bool.and_eq_true] at on
    exact on.1.2.1
  intro connection remote effect member
  rw [subscribeFileClipboard, if_pos build.hasFileClipboard] at member
  exact subscribed connection remote effect member

section Fields

variable (option : OptionMessage Payload)

theorem respects_updateImageQuality : Respects excuse permissions (updateImageQuality option) := by
  apply respects_of_idle
  intro connection _ effect member
  unfold updateImageQuality at member
  grind

theorem respects_updateCustomFps : Respects excuse permissions (updateCustomFps option) := by
  apply respects_of_idle
  intro connection _ effect member
  unfold updateCustomFps at member
  grind

theorem respects_updateSupportedDecoding :
    Respects excuse permissions (updateSupportedDecoding option) := by
  apply respects_of_idle
  intro connection _ effect member
  unfold updateSupportedDecoding at member
  grind

theorem respects_updateShowRemoteCursor :
    Respects excuse permissions (updateShowRemoteCursor build.toBuild world option) := by
  apply respects_onDesktop
  apply respects_whenSet
  intro on
  apply respects_stages
  exact List.forall_mem_cons.2 ⟨respects_set _, List.forall_mem_cons.2 ⟨respects_subscribeCursor,
    List.forall_mem_singleton.2 (respects_subscribe fun _ _ _ => tolerated_of_idle rfl)⟩⟩

theorem respects_updateFollowRemoteWindow :
    Respects excuse permissions (updateFollowRemoteWindow world option) := by
  apply respects_whenSet
  intro on
  apply respects_stages
  exact List.forall_mem_cons.2 ⟨respects_set _,
    List.forall_mem_singleton.2 (respects_subscribe fun _ _ _ => tolerated_of_idle rfl)⟩

/-- A remote session follows the audio permission whatever the peer asks for. -/
theorem respects_updateDisableAudio :
    Respects excuse permissions (updateDisableAudio world option) := by
  have subscribed : Respects excuse permissions fun connection =>
      withServer world [.subscribe .audio connection.audioEnabled] := by
    apply respects_subscribe
    rintro connection ⟨-, rfl⟩ on
    apply tolerated_of_granted .audio rfl
    rw [audioEnabled, Bool.and_eq_true] at on
    exact on.1
  apply respects_whenSet
  intro on
  apply respects_stages
  refine List.forall_mem_cons.2 ⟨respects_set _, List.forall_mem_singleton.2 ?_⟩
  intro connection remote effect member
  have other : connection.isAuthedViewCameraConn = false := by
    rw [isAuthedViewCameraConn, remote.authedConnType]
    rfl
  dsimp only at member
  rw [other, if_neg Bool.false_ne_true] at member
  exact subscribed connection remote effect member

/-- Clearing the clipboard changes no session. -/
theorem perform_tryEmptyFileClipboard (build : LinuxBuild) (world : World Payload)
    (connection : Connection Payload) :
    perform connection (tryEmptyFileClipboard build.toBuild world) = connection := by
  unfold tryEmptyFileClipboard
  split <;> rfl

/-- The clipboard is emptied where the peer turns the file clipboard off, and nowhere else. -/
theorem updateEnableFileTransfer_eq (connection : Connection Payload) :
    updateEnableFileTransfer build.toBuild world option connection =
      match BoolOption.fromI32 option.enableFileTransfer with
      | some .yes =>
          .set (.enableFileTransfer true) :: subscribeFileClipboard build.toBuild world
            (connection.write (.enableFileTransfer true))
      | some .no =>
          .set (.enableFileTransfer false) :: (tryEmptyFileClipboard build.toBuild world ++
            subscribeFileClipboard build.toBuild world
              (connection.write (.enableFileTransfer false)))
      | _ => [] := by
  unfold updateEnableFileTransfer whenSet
  rw [build.isWindows_eq, build.hasFileClipboard, Bool.false_or, if_pos rfl]
  cases BoolOption.fromI32 option.enableFileTransfer with
  | none => rfl
  | some value =>
      cases value with
      | notSet => rfl
      | yes => simp [stages, andThen, perform, EffectSystem.apply, write]
      | no =>
          have kept := perform_tryEmptyFileClipboard build world
            (connection.write (.enableFileTransfer false))
          simp only [perform] at kept
          simp [stages, andThen, perform, EffectSystem.apply, write] at kept ⊢
          rw [kept]

/-- Only files of the host excuse a clearing. -/
theorem tolerated_emptyFileClipboard
    (excused : world.ownsClipboardFiles = true → excuse) :
    ∀ effect ∈ tryEmptyFileClipboard build.toBuild world, Tolerated excuse permissions effect := by
  intro effect member
  unfold tryEmptyFileClipboard at member
  split at member
  next owned =>
      rw [build.isLinux] at owned
      rw [List.mem_singleton] at member
      subst member
      exact Or.inr ⟨excused (by simpa using owned), rfl⟩
  next => exact absurd member List.not_mem_nil

/-- Only files of the host excuse this option. -/
theorem respects_updateEnableFileTransfer
    (excused : BoolOption.fromI32 option.enableFileTransfer = some .no →
      world.ownsClipboardFiles = true → excuse) :
    Respects excuse permissions (updateEnableFileTransfer build.toBuild world option) := by
  intro connection remote effect member
  rw [updateEnableFileTransfer_eq] at member
  have written : ∀ on, Remote permissions (connection.write (.enableFileTransfer on)) :=
    fun on => remote_apply permissions connection (.set (.enableFileTransfer on)) remote
  split at member
  next =>
      rw [List.mem_cons] at member
      cases member with
      | inl first =>
          subst first
          exact tolerated_of_idle rfl
      | inr later => exact respects_subscribeFileClipboard _ (written true) effect later
  next off =>
      rw [List.mem_cons, List.mem_append] at member
      obtain first | emptied | later := member
      · subst first
        exact tolerated_of_idle rfl
      · exact tolerated_emptyFileClipboard (excused off) effect emptied
      · exact respects_subscribeFileClipboard _ (written false) effect later
  next => exact absurd member List.not_mem_nil

/-- This option needs the clipboard permission. -/
theorem respects_updateDisableClipboard :
    Respects excuse permissions (updateDisableClipboard world option) := by
  apply respects_whenSet
  intro on
  apply respects_stages
  exact List.forall_mem_cons.2 ⟨respects_set _,
    List.forall_mem_singleton.2 respects_subscribeClipboard⟩

theorem respects_updateDisableKeyboard :
    Respects excuse permissions (updateDisableKeyboard build.toBuild world option) := by
  apply respects_whenSet
  intro on
  apply respects_stages
  exact List.forall_mem_cons.2 ⟨respects_set _, List.forall_mem_cons.2 ⟨respects_subscribeClipboard,
    List.forall_mem_cons.2 ⟨respects_subscribeFileClipboard,
      List.forall_mem_singleton.2 respects_subscribeCursor⟩⟩⟩

/-- Linux has no privacy mode to turn on or off. -/
theorem respects_turnOnPrivacy (implKey : Option Payload) :
    Respects excuse permissions (turnOnPrivacy build.toBuild world implKey) := by
  apply respects_of_idle
  intro connection _ effect member
  unfold turnOnPrivacy at member
  grind

theorem respects_turnOffPrivacy (implKey : Option Payload) :
    Respects excuse permissions (turnOffPrivacy build.toBuild world implKey) := by
  apply respects_of_idle
  intro connection _ effect member
  unfold turnOffPrivacy at member
  grind

/-- This option needs the privacy permission. -/
theorem respects_updatePrivacyMode :
    Respects excuse permissions (updatePrivacyMode build.toBuild world option) := by
  intro connection remote effect member
  unfold updatePrivacyMode at member
  split at member
  next =>
      split at member
      next => exact respects_turnOnPrivacy none connection remote effect member
      next => exact respects_turnOffPrivacy none connection remote effect member
      next => exact absurd member List.not_mem_nil
  next => exact absurd member List.not_mem_nil

/-- This option needs the permission to block. -/
theorem respects_updateBlockInput : Respects excuse permissions (updateBlockInput option) := by
  apply respects_whenSet
  rintro on connection ⟨-, rfl⟩ effect member
  dsimp only at member
  split at member
  next allowed =>
      rw [Bool.and_eq_true] at allowed
      rw [List.mem_singleton] at member
      subst member
      apply tolerated_of_granted .keyboard _ allowed.1
      cases on <;> rfl
  next =>
      rw [List.mem_singleton] at member
      subst member
      exact tolerated_of_idle rfl

theorem respects_updateTerminalPersistence :
    Respects excuse permissions (updateTerminalPersistence build.toBuild option) := by
  apply respects_onDesktop
  apply respects_whenSet
  intro on
  apply respects_of_idle
  grind

theorem respects_updateShowMyCursor :
    Respects excuse permissions (updateShowMyCursor build.toBuild world option) := by
  apply respects_onDesktop
  apply respects_whenSet
  intro on
  apply respects_of_idle
  grind

/-- Only the wish to stop the file clipboard is served without a permission. -/
theorem respects_updateOptions
    (excused : BoolOption.fromI32 option.enableFileTransfer = some .no →
      world.ownsClipboardFiles = true → excuse) :
    Respects excuse permissions (updateOptions build.toBuild world option) := by
  apply respects_stages
  simp only [List.forall_mem_cons, List.not_mem_nil, false_imp_iff, implies_true, and_true]
  exact ⟨respects_updateImageQuality option, respects_updateCustomFps option,
    respects_updateSupportedDecoding option, respects_whenSet fun _ => respects_set _,
    respects_updateShowRemoteCursor option,
    respects_onDesktop (respects_whenSet fun _ => respects_set _),
    respects_updateFollowRemoteWindow option, respects_updateDisableAudio option,
    respects_updateEnableFileTransfer option excused, respects_updateDisableClipboard option,
    respects_updateDisableKeyboard option, respects_updatePrivacyMode option,
    respects_updateBlockInput option, respects_updateTerminalPersistence option,
    respects_updateShowMyCursor option⟩

end Fields

end Stages

section Messages

variable {excuse : Prop} {permissions : Permissions} {build : LinuxBuild} {world : World Payload}

/-- A close needs no permission. -/
theorem respects_onClose (lock : Bool) :
    Respects excuse permissions (onClose build.toBuild world lock) := by
  rintro connection ⟨-, rfl⟩ effect member
  left
  grind [onClose, Permitted]

/-- A mouse event needs the keyboard permission. -/
theorem respects_handleMouseEvent (event : MouseEvent Payload) :
    Respects excuse permissions (handleMouseEvent build.toBuild event) := by
  rintro connection ⟨-, rfl⟩ effect member
  left
  grind [handleMouseEvent, updateAutoDisconnectTimer, peerKeyboardEnabled, Permitted]

/-- A touch needs the keyboard permission. -/
theorem respects_handlePointerDeviceEvent (event : PointerDeviceEvent Payload) :
    Respects excuse permissions (handlePointerDeviceEvent build.toBuild event) := by
  rintro connection ⟨-, rfl⟩ effect member
  left
  grind [handlePointerDeviceEvent, updateAutoDisconnectTimer, peerKeyboardEnabled, Permitted]

/-- A key needs the keyboard permission. -/
theorem respects_handleKeyEvent (event : KeyEvent Payload) :
    Respects excuse permissions (handleKeyEvent build.toBuild event) := by
  rintro connection ⟨-, rfl⟩ effect member
  left
  grind [handleKeyEvent, updatePressedModifiers, updateAutoDisconnectTimer, peerKeyboardEnabled,
    Permitted, LinuxBuild.isLinux]

/-- A text needs the clipboard permission. -/
theorem respects_handleClipboard (content : Payload) :
    Respects excuse permissions (handleClipboard content) := by
  rintro connection ⟨-, rfl⟩ effect member
  unfold handleClipboard at member
  split at member
  next allowed =>
      rw [List.mem_singleton] at member
      subst member
      simp only [clipboardEnabled, Bool.and_eq_true] at allowed
      exact tolerated_of_granted .clipboard rfl allowed.2.1
  next => exact absurd member List.not_mem_nil

/-- Several contents need the same permission. -/
theorem respects_handleMultiClipboards (content : Payload) :
    Respects excuse permissions (handleMultiClipboards build.toBuild content) := by
  rintro connection ⟨-, rfl⟩ effect member
  unfold handleMultiClipboards at member
  split at member
  next allowed =>
      rw [List.mem_singleton] at member
      subst member
      simp only [clipboardEnabled, Bool.and_eq_true] at allowed
      exact tolerated_of_granted .clipboard rfl allowed.1.2.1
  next => exact absurd member List.not_mem_nil

/-- A resolution needs the keyboard permission. -/
theorem respects_changeResolution (display : Option Nat) (resolution : Resolution) :
    Respects excuse permissions (changeResolution build.toBuild world display resolution) := by
  rintro connection ⟨-, rfl⟩ effect member
  unfold changeResolution at member
  split at member
  next allowed =>
      rw [Bool.and_eq_true] at allowed
      split at member
      next => exact absurd member List.not_mem_nil
      next =>
          split at member
          next =>
              rw [List.mem_singleton] at member
              subst member
              exact tolerated_of_granted .keyboard rfl allowed.1
          next => exact absurd member List.not_mem_nil
  next => exact absurd member List.not_mem_nil

/-- A restart needs its own permission. -/
theorem respects_restartRemoteDevice :
    Respects excuse permissions (@restartRemoteDevice Payload build.toBuild) := by
  rintro connection ⟨-, rfl⟩ effect member
  left
  grind [restartRemoteDevice, Permitted]

/-- The news of a display needs no permission. -/
theorem respects_sendDisplayChanged (display : Nat) :
    Respects excuse permissions (sendDisplayChanged world display) := by
  apply respects_of_idle
  intro connection _ effect member
  grind [sendDisplayChanged]

/-- A switch of displays needs no permission. -/
theorem respects_switchDisplayTo (display : Nat) :
    Respects excuse permissions (switchDisplayTo build.toBuild world display) := by
  apply respects_of_idle
  intro connection _ effect member
  grind [switchDisplayTo]

theorem respects_handleSwitchDisplay (display : Nat) (resolution : Resolution) :
    Respects excuse permissions (handleSwitchDisplay build.toBuild world display resolution) := by
  intro connection remote effect member
  unfold handleSwitchDisplay at member
  split at member
  next => exact absurd member List.not_mem_nil
  next =>
      split at member
      next => exact respects_sendDisplayChanged _ connection remote effect member
      next =>
          split at member
          next => exact absurd member List.not_mem_nil
          next =>
              refine respects_stages ?_ connection remote effect member
              refine List.forall_mem_cons.2 ⟨respects_switchDisplayTo display,
                List.forall_mem_cons.2 ⟨?_, List.forall_mem_singleton.2 ?_⟩⟩
              · intro connection remote effect member
                dsimp only at member
                split at member
                next => exact respects_changeResolution none resolution connection remote effect member
                next => exact absurd member List.not_mem_nil
              · intro connection remote effect member
                exact respects_sendDisplayChanged _ connection remote effect member

theorem respects_captureDisplays (add sub set : List Nat) :
    Respects excuse permissions (captureDisplays world add sub set) := by
  apply respects_of_idle
  intro connection _ effect member
  unfold captureDisplays withServer at member
  grind

theorem idle_updateAutoDisconnectTimer (connection : Connection Payload) :
    ∀ effect ∈ updateAutoDisconnectTimer connection, effect.capabilities = [] := by
  grind [updateAutoDisconnectTimer]

theorem idle_refreshVideoDisplay (display : Option Nat) (connection : Connection Payload) :
    ∀ effect ∈ refreshVideoDisplay world display connection, effect.capabilities = [] := by
  grind [refreshVideoDisplay, withServer]

theorem idle_handleFileResponse (response : FileResponse Payload) :
    ∀ effect ∈ handleFileResponse response, effect.capabilities = [] := by
  intro effect member
  cases response <;> grind [handleFileResponse, Fs.reads]

theorem idle_handleVoiceCallRequest (reqTimestamp : Int) (isConnect : Bool)
    (connection : Connection Payload) :
    ∀ effect ∈ handleVoiceCallRequest world reqTimestamp isConnect connection,
      effect.capabilities = [] := by
  grind [handleVoiceCallRequest, closeVoiceCall, withServer]

theorem idle_handleTerminalAction (action : Payload) (connection : Connection Payload) :
    ∀ effect ∈ handleTerminalAction build.toBuild world action connection,
      effect.capabilities = [] := by
  grind [handleTerminalAction]

/-- A remote session has no file transfer to act on. -/
theorem Remote.handleFileAction {connection : Connection Payload}
    (remote : Remote permissions connection) (action : FileAction Payload) :
    Connection.handleFileAction build.toBuild world action connection = [] := by
  unfold Connection.handleFileAction
  rw [remote.scope]
  cases action <;> grind

theorem respects_handleOption (option : OptionMessage Payload)
    (excused : BoolOption.fromI32 option.enableFileTransfer = some .no →
      world.ownsClipboardFiles = true → excuse) :
    Respects excuse permissions (handleOption build.toBuild world option) := by
  intro connection remote effect member
  rw [handleOption, if_pos remote.authedConnType] at member
  exact respects_updateOptions option excused connection remote effect member

theorem respects_handleMisc (misc : Misc Payload) (connection : Connection Payload)
    (remote : Remote permissions connection) :
    ∀ effect ∈ handleMisc build.toBuild world misc connection,
      Tolerated (¬ (Message.misc misc).sparesFiles build.toBuild world connection) permissions effect := by
  intro effect member
  cases misc with
  | switchDisplay display resolution =>
      exact respects_handleSwitchDisplay display resolution connection remote effect member
  | captureDisplays add sub set =>
      exact respects_captureDisplays add sub set connection remote effect member
  | togglePrivacyMode implKey on =>
      simp only [handleMisc, remote.scope, Bool.false_eq_true, if_false] at member
      split at member
      next => exact respects_turnOnPrivacy _ connection remote effect member
      next => exact respects_turnOffPrivacy _ connection remote effect member
  | option option =>
      refine respects_handleOption option ?_ connection remote effect member
      simp +contextual [Message.sparesFiles]
  | restartRemoteDevice => exact respects_restartRemoteDevice connection remote effect member
  | changeResolution resolution =>
      simp only [handleMisc, remote.scope, Bool.false_eq_true, if_false] at member
      exact respects_changeResolution none resolution connection remote effect member
  | changeDisplayResolution display resolution =>
      simp only [handleMisc, remote.scope, Bool.false_eq_true, if_false] at member
      exact respects_changeResolution (some display) resolution connection remote effect member
  | messageQuery display =>
      exact respects_sendDisplayChanged display connection remote effect member
  | chatMessage text =>
      apply tolerated_of_idle
      grind [handleMisc, idle_updateAutoDisconnectTimer]
  | refreshVideo refresh =>
      apply tolerated_of_idle
      grind [handleMisc, idle_updateAutoDisconnectTimer, idle_refreshVideoDisplay]
  | refreshVideoDisplay display =>
      apply tolerated_of_idle
      grind [handleMisc, idle_updateAutoDisconnectTimer, idle_refreshVideoDisplay]
  | _ =>
      apply tolerated_of_idle
      grind [handleMisc]

/-- An answer to the peer carries no file, or the message was not a safe one. -/
theorem clipReply_cases (request : Clipboard.FileContentsMessage)
    (reply : Except Clipboard.CliprdrError Clipboard.ClipboardFile) :
    (clipReply request reply : Effect Payload).capabilities = [] ∨
      ((clipReply request reply : Effect Payload).capabilities = [.file] ∧ request.dwFlags = 2 ∧
        ∃ msgFlags streamId data, reply = .ok (.fileContentsResponse msgFlags streamId data) ∧
          data ≠ []) := by
  cases reply with
  | error error => simp [clipReply, Effect.capabilities]
  | ok clip =>
      cases clip with
      | files files => simp [clipReply, Effect.capabilities]
      | fileContentsResponse msgFlags streamId data =>
          by_cases content : request.dwFlags = 2 ∧ data ≠ []
          · right
            exact ⟨if_pos content, content.1, msgFlags, streamId, data, rfl, content.2⟩
          · left
            exact if_neg content

theorem serveClipMessages_cases (clip : Cliprdr Payload) :
    ∀ effect ∈ serveClipMessages build.toBuild world clip,
      effect.capabilities = [] ∨ (effect.capabilities = [.file] ∧ ¬ clip.sparesFiles world) := by
  intro effect member
  cases clip with
  | fileContentsRequest request =>
      obtain ⟨reply, served, rfl⟩ := List.mem_map.1 member
      obtain idle | ⟨only, range, msgFlags, streamId, data, rfl, content⟩ := clipReply_cases request reply
      · exact Or.inl idle
      · right
        exact ⟨only, fun spared => content (spared range msgFlags streamId data served)⟩
  | formatDataResponse msgFlags formatData => grind [serveClipMessages, Cliprdr.sparesFiles]
  | formatDataRequest requestedFormatId => grind [serveClipMessages, Cliprdr.sparesFiles]
  | formatList formats => grind [serveClipMessages]
  | tryEmpty =>
      grind [serveClipMessages, tryEmptyFileClipboard, Cliprdr.sparesFiles, LinuxBuild.isLinux]
  | _ => grind [serveClipMessages]

theorem handleCliprdr_cases (build : LinuxBuild) (world : World Payload) (clip : Cliprdr Payload)
    (connection : Connection Payload) :
    (∃ files, clip = .files files ∧
      handleCliprdr build.toBuild world clip connection = [.postFileAudit files]) ∨
    handleCliprdr build.toBuild world clip connection =
      if build.versionNumber 1 3 8 ≤ connection.version then serveClipMessages build.toBuild world clip
      else [] := by
  have linux : build.platform ≠ .macos := by simp [build.isLinux]
  cases clip with
  | files files =>
      left
      exact ⟨files, rfl, by simp [handleCliprdr, build.hasFileClipboard]⟩
  | empty =>
      right
      simp [handleCliprdr, serveClipMessages]
  | _ =>
      right
      simp [handleCliprdr, build.hasFileClipboard, linux]

theorem respects_handleCliprdr (clip : Cliprdr Payload) (connection : Connection Payload) :
    ∀ effect ∈ handleCliprdr build.toBuild world clip connection,
      Tolerated (¬ (Message.cliprdr clip).sparesFiles build.toBuild world connection) permissions
        effect := by
  intro effect member
  obtain ⟨files, -, audited⟩ | served := handleCliprdr_cases build world clip connection
  · rw [audited, List.mem_singleton] at member
    subst member
    exact tolerated_of_idle rfl
  · rw [served] at member
    split at member
    next supported =>
        obtain idle | ⟨only, breaks⟩ := serveClipMessages_cases clip effect member
        · exact tolerated_of_idle idle
        · exact Or.inr ⟨fun spared => breaks (spared supported), only⟩
    next => exact absurd member List.not_mem_nil

/-- A remote session admits every message. -/
theorem Remote.authorizedScopeViolation {connection : Connection Payload}
    (remote : Remote permissions connection) (message : Message Payload) :
    Connection.authorizedScopeViolation build.toBuild message connection = none := by
  simp [Connection.authorizedScopeViolation, Message.authorizedMessageScopeViolation,
    remote.authedConnType, Message.isAllowed]

theorem Remote.portForwardSocket {connection : Connection Payload}
    (remote : Remote permissions connection) : connection.portForwardSocket = false := by
  rw [Connection.portForwardSocket, remote.scope, Bool.false_and]

theorem respects_handleAuthorizedMessage (message : Message Payload)
    (connection : Connection Payload) (remote : Remote permissions connection) :
    ∀ effect ∈ handleAuthorizedMessage build.toBuild world message connection,
      Tolerated (¬ message.sparesFiles build.toBuild world connection) permissions effect := by
  intro effect member
  cases message with
  | mouseEvent event => exact respects_handleMouseEvent event connection remote effect member
  | pointerDeviceEvent event =>
      exact respects_handlePointerDeviceEvent event connection remote effect member
  | keyEvent event => exact respects_handleKeyEvent event connection remote effect member
  | clipboard content => exact respects_handleClipboard content connection remote effect member
  | multiClipboards content =>
      exact respects_handleMultiClipboards content connection remote effect member
  | cliprdr clip => exact respects_handleCliprdr clip connection effect member
  | fileAction action =>
      rw [handleAuthorizedMessage, remote.handleFileAction] at member
      exact absurd member List.not_mem_nil
  | fileResponse response =>
      exact tolerated_of_idle (idle_handleFileResponse response effect member)
  | misc content => exact respects_handleMisc content connection remote effect member
  | voiceCallRequest reqTimestamp isConnect =>
      exact tolerated_of_idle (idle_handleVoiceCallRequest reqTimestamp isConnect connection effect member)
  | terminalAction action =>
      exact tolerated_of_idle (idle_handleTerminalAction action connection effect member)
  | screenshotRequest display sid =>
      apply tolerated_of_idle
      grind [handleAuthorizedMessage, idle_refreshVideoDisplay]
  | _ =>
      apply tolerated_of_idle
      grind [handleAuthorizedMessage]

theorem Remote.onMessage_eq {connection : Connection Payload}
    (remote : Remote permissions connection) (message : Message Payload)
    (ordinary : message.isConnectionHousekeeping = false) :
    onMessage build.toBuild world message connection =
      handleAuthorizedMessage build.toBuild world message connection := by
  rw [onMessage_of_admitted message ordinary (remote.authorizedScopeViolation message),
    remote.portForwardSocket, if_neg Bool.false_ne_true]

/-- The effects of a message have their permission, apart from the files of an unsafe one. -/
theorem onMessage_tolerated (message : Message Payload) (connection : Connection Payload)
    (remote : Remote permissions connection) :
    ∀ effect ∈ onMessage build.toBuild world message connection,
      Tolerated (¬ message.sparesFiles build.toBuild world connection) permissions effect := by
  intro effect member
  unfold onMessage at member
  split at member
  next =>
      rw [List.mem_append] at member
      cases member with
      | inl closing => exact respects_onClose true connection remote effect closing
      | inr last =>
          apply tolerated_of_idle
          grind
  next => exact absurd member List.not_mem_nil
  next =>
      rw [remote.authorizedScopeViolation] at member
      dsimp only at member
      split at member
      next =>
          apply tolerated_of_idle
          grind [handleTestDelay]
      next =>
          rw [remote.portForwardSocket, if_neg Bool.false_ne_true] at member
          exact respects_handleAuthorizedMessage _ connection remote effect member

theorem serveClipMessages_breaks (build : LinuxBuild) (clip : Cliprdr Payload)
    (unsafeClip : ¬ clip.sparesFiles world) :
    ∃ effect ∈ serveClipMessages build.toBuild world clip, effect.capabilities = [.file] := by
  cases clip with
  | formatDataRequest requestedFormatId =>
      have listed : world.clipFiles.fileList ≠ [] := unsafeClip
      rw [serveClipMessages, if_neg listed]
      refine ⟨_, List.mem_singleton_self _, if_neg ?_⟩
      simpa using listed
  | formatDataResponse msgFlags formatData =>
      simp only [Cliprdr.sparesFiles, not_forall] at unsafeClip
      obtain ⟨succeeded, urls, parsed, some⟩ := unsafeClip
      refine ⟨.updateFileClipboard urls, ?_, rfl⟩
      rw [serveClipMessages, if_pos ⟨build.isLinux, succeeded⟩, parsed]
      cases urls with
      | nil => exact absurd rfl some
      | cons url rest => simp
  | fileContentsRequest request =>
      simp only [Cliprdr.sparesFiles, not_forall] at unsafeClip
      obtain ⟨range, msgFlags, streamId, data, served, content⟩ := unsafeClip
      exact ⟨_, List.mem_map.2 ⟨_, served, rfl⟩, if_pos ⟨range, content⟩⟩
  | tryEmpty =>
      have owned : world.ownsClipboardFiles = true := by simpa [Cliprdr.sparesFiles] using unsafeClip
      refine ⟨.emptyFileClipboard, ?_, rfl⟩
      simp [serveClipMessages, tryEmptyFileClipboard, owned]
  | _ => exact absurd trivial unsafeClip

theorem updateOptions_empties (option : OptionMessage Payload) (connection : Connection Payload)
    (off : BoolOption.fromI32 option.enableFileTransfer = some .no)
    (owned : world.ownsClipboardFiles = true) :
    .emptyFileClipboard ∈ updateOptions build.toBuild world option connection := by
  refine mem_stages (updateEnableFileTransfer build.toBuild world option) ?_ ?_ connection
  · simp
  · intro current
    rw [updateEnableFileTransfer_eq, off]
    simp [tryEmptyFileClipboard, owned]

/-- A message that is not a safe one does exercise the files of the host. -/
theorem onMessage_breaks (message : Message Payload) (connection : Connection Payload)
    (remote : Remote permissions connection)
    (unsafeMessage : ¬ message.sparesFiles build.toBuild world connection) :
    ∃ effect ∈ onMessage build.toBuild world message connection, effect.capabilities = [.file] := by
  cases message with
  | cliprdr clip =>
      simp only [Message.sparesFiles, not_forall] at unsafeMessage
      obtain ⟨supported, unsafeClip⟩ := unsafeMessage
      obtain ⟨effect, member, only⟩ := serveClipMessages_breaks build clip unsafeClip
      refine ⟨effect, ?_, only⟩
      rw [remote.onMessage_eq _ rfl, handleAuthorizedMessage]
      obtain ⟨files, rfl, -⟩ | served := handleCliprdr_cases build world clip connection
      · exact absurd trivial unsafeClip
      · rw [served, if_pos supported]
        exact member
  | misc content =>
      cases content with
      | option option =>
          simp only [Message.sparesFiles, not_forall, Bool.not_eq_false] at unsafeMessage
          obtain ⟨off, owned⟩ := unsafeMessage
          refine ⟨.emptyFileClipboard, ?_, rfl⟩
          rw [remote.onMessage_eq _ rfl, handleAuthorizedMessage, handleMisc, handleOption,
            if_pos remote.authedConnType]
          exact updateOptions_empties option connection off owned
      | _ => exact absurd trivial unsafeMessage
  | _ => exact absurd trivial unsafeMessage

end Messages

/-- The condition on one input of a run, in the state before it. -/
def Input.sparesFiles (build : Build) (connection : Connection Payload) : Input Payload → Prop
  | .message world received =>
      connection.left = false → received.sparesFiles build world connection
  | .host _ => True

theorem remote_step (build : Build) {permissions : Permissions} (connection : Connection Payload)
    (input : Input Payload) (remote : Remote permissions connection) :
    Remote permissions ((machine build).step connection input).1 := by
  cases input with
  | message world message =>
      simp only [machine]
      split
      next => exact remote
      next => exact remote_perform _ remote
  | host event =>
      cases event with
      | voiceCallResponse accepted =>
          simp only [machine, onHostEvent]
          split
          next => exact ⟨remote.login, remote.permissions⟩
          next => exact remote
      | _ => exact ⟨remote.login, remote.permissions⟩

/-- One input exercises a denied capability exactly where it is an unsafe message about files. -/
theorem step_unused_iff (build : LinuxBuild) (capability : Capability)
    (connection : Connection Payload) (input : Input Payload) (remote : connection.login = .none)
    (denied : capability.granted connection.permissions = false) :
    (∀ effect ∈ ((machine build.toBuild).step connection input).2,
        capability ∉ effect.capabilities) ↔
      (capability = .file → input.sparesFiles build.toBuild connection) := by
  cases input with
  | host event => simp [machine, Input.sparesFiles]
  | message world message =>
      simp only [machine, Input.sparesFiles]
      split
      next gone => simp [gone]
      next present =>
          have holds : Remote connection.permissions connection := ⟨remote, rfl⟩
          constructor
          · rintro unused rfl -
            by_contra unsafeMessage
            obtain ⟨effect, member, only⟩ := onMessage_breaks message connection holds unsafeMessage
            exact unused effect member (by rw [only]; exact List.mem_singleton_self _)
          · intro spared effect member exercised
            obtain permitted | ⟨breaks, only⟩ := onMessage_tolerated message connection holds effect member
            · rw [permitted capability exercised] at denied
              cases denied
            · rw [only, List.mem_singleton] at exercised
              exact breaks (spared exercised (by simpa using present))

/-- The host has one file on its clipboard. -/
def clipboardWorld : World Unit :=
  { hostWorld with
    clipFiles :=
      { fileList := [⟨"plan.txt", some [1, 2, 3], none, 0, 3, false, true⟩]
        firstFileIndex := some 0 } }

def linuxRelease : LinuxBuild where
  platform := .linux
  unixFileCopyPaste := true
  flutter := true
  pluginFramework := false
  versionNumber := fun major minor patch => major * 1000000 + minor * 1000 + patch * 10
  isLinux := rfl
  hasFileClipboard := rfl

/-- A web client that may only watch. -/
def viewOnlySession : Connection Unit where
  login := .none
  version := 1004020
  permissions := webPermissionSet "view-only"
  terminalUserToken := false

/-- A key, two requests about files, the jobs of the host, a request for no files, and a text. -/
def viewOnlyInputs : List (Input Unit) :=
  [.message clipboardWorld (.keyEvent ⟨true, false, true, false, none, false, ()⟩),
    .message clipboardWorld (.fileAction (.removeFile 1 () 0)),
    .message clipboardWorld (.fileAction (.rename 2 () ())), .host (.jobs [1] []),
    .message hostWorld (.cliprdr (.formatDataRequest 49334)),
    .message clipboardWorld (.clipboard ())]

end SubnetDesk.Connection
