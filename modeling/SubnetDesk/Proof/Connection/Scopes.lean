import SubnetDesk.Construction.Connection.OnMessage

namespace SubnetDesk.Connection

open Handler

variable {Payload : Type}

/-- What an effect is about. -/
inductive Area where
  | delay
  | closing
  | violationLog
  | alarm
  | file
  | terminal
  | terminalPersistence
  | chat
  | capture
  | camera
  | cameraScreenshot
  | videoRefresh
  | audio
  | voiceInput
  | quality
  | codec
  | userSession
  | desktop
deriving DecidableEq

def VideoSource.area : VideoSource → Area
  | .camera => .camera
  | .monitor => .desktop

@[grind =] def Service.area : Service → Area
  | .audio => .audio
  | .video source _ => source.area
  | _ => .desktop

@[grind =] def Write.area : Write Payload → Area
  | .multiUiSession _ => .capture
  | .displayIdx _ => .capture
  | .disableAudio _ => .audio
  | .audioSender => .audio
  | .voiceCallRequest _ => .audio
  | .voiceCallEnded => .audio
  | .chatUnanswered => .chat
  | .fileTransferred => .file
  | .delayedReadDir _ => .file
  | .readJobIds _ => .file
  | .cmReadJobIds _ => .file
  | .terminalPersistent _ => .terminalPersistence
  | .testDelayAnswered _ => .delay
  | .scopeViolation _ => .violationLog
  | .closed => .closing
  | .portForwardSocketTaken => .closing
  | .left => .closing
  | _ => .desktop

@[grind =] def Reply.area : Reply Payload → Area
  | .testDelay _ => .delay
  | .closeReason _ => .closing
  | .fileError _ _ _ => .file
  | .fileDir _ _ _ => .file
  | .displayChanged source _ => source.area
  | .terminalResponse _ => .terminal
  | .terminalError _ => .terminal
  | _ => .desktop

@[grind =] def CmData.area : CmData Payload → Area
  | .fs _ => .file
  | .fileTransferLog _ _ => .file
  | .chatMessage _ => .chat
  | .voiceCallIncoming => .audio
  | .closeVoiceCall => .audio
  | .disconnected => .closing
  | .close => .closing
  | _ => .desktop

@[grind =] def QosChange.area : QosChange → Area
  | .networkDelay _ => .delay
  | _ => .quality

@[grind =] def Effect.area : Effect Payload → Area
  | .set write => write.area
  | .send reply => reply.area
  | .toCm data => data.area
  | .subscribe service _ => service.area
  | .addVideoService source _ => source.area
  | .captureDisplays source _ _ _ => source.area
  | .addCameraConnection => .camera
  | .refreshVideo (some (source, _)) => source.area
  | .refreshVideo none => .videoRefresh
  | .takeScreenshot .camera _ _ => .cameraScreenshot
  | .videoFrameFetched => .capture
  | .qos change => change.area
  | .updateEncoder _ => .codec
  | .postFileAudit _ => .file
  | .startAudioThread _ => .audio
  | .playAudio _ => .audio
  | .resetVoiceCallInput => .voiceInput
  | .terminalAction _ => .terminal
  | .terminalPersistence _ => .terminalPersistence
  | .connectToUserSession _ => .userSession
  | .confirmJob _ _ => .file
  | .fileRemoveLog _ _ => .file
  | .postScopeViolationAlarm _ => .alarm
  | .removeSession => .closing
  | _ => .desktop

/-- The scope of a connection type. -/
def AuthConnType.areas : AuthConnType → List Area
  | .remote => []
  | .fileTransfer => [.file]
  | .portForward => []
  | .viewCamera =>
      [.capture, .camera, .cameraScreenshot, .videoRefresh, .chat, .audio, .voiceInput, .quality, .codec]
  | .terminal => [.terminal, .terminalPersistence, .chat]

/-- What a message about the connection itself does in a session of any type. -/
def Message.areas : Message Payload → List Area
  | .testDelay _ _ => [.delay]
  | .misc (.closeReason _) => [.closing, .voiceInput]
  | .misc (.selectedSid _) => [.userSession, .closing]
  | _ => []

/-- The messages that a camera session admits and ignores. -/
def Message.isCameraCompat : Message Payload → Bool
  | .mouseEvent _ => true
  | .pointerDeviceEvent _ => true
  | .keyEvent _ => true
  | .misc (.togglePrivacyMode _ _) => true
  | .misc (.toggleVirtualDisplay _ _) => true
  | .misc (.changeResolution _) => true
  | .misc (.changeDisplayResolution _ _) => true
  | _ => false

/-- The messages that are admitted so that old clients keep their sessions. -/
def Message.isCompat (message : Message Payload) (connType : AuthConnType) : Bool :=
  message.isNoopCompat connType || (connType = .viewCamera && message.isCameraCompat)

/-- Two option messages have the same values in the fields of the scope. -/
def OptionMessage.AgreesOn (first second : OptionMessage Payload) : AuthConnType → Prop
  | .remote => first = second
  | .viewCamera =>
      first.imageQuality = second.imageQuality ∧
        first.customImageQuality = second.customImageQuality ∧
        first.customFps = second.customFps ∧
        first.supportedDecoding = second.supportedDecoding ∧
        first.disableAudio = second.disableAudio
  | .terminal => first.terminalPersistent = second.terminalPersistent
  | .fileTransfer => True
  | .portForward => True

/-- A session of limited scope never takes the options that reach the desktop. -/
structure Limited (login : LoginUnion) (connection : Connection Payload) : Prop where
  login : connection.login = login
  keepsScreenUnlocked : connection.lockAfterSessionEnd = false
  followsNoWindow : connection.followRemoteWindow = false
  hasNoTimer : connection.autoDisconnectTimer = false

/-- The connection type that a login gets. -/
def LoginUnion.connType (login : LoginUnion) : AuthConnType :=
  (configureLanConnectionScope login).authConnType

@[simp] theorem connType_none : LoginUnion.none.connType = .remote := rfl

@[simp] theorem connType_fileTransfer : LoginUnion.fileTransfer.connType = .fileTransfer := rfl

@[simp] theorem connType_viewCamera : LoginUnion.viewCamera.connType = .viewCamera := rfl

@[simp] theorem connType_terminal : LoginUnion.terminal.connType = .terminal := rfl

@[simp] theorem connType_portForward : LoginUnion.portForward.connType = .portForward := rfl

/-- The login decides the type of the connection. -/
theorem authedConnType_eq (connection : Connection Payload) :
    connection.authedConnType = connection.login.connType := rfl

/-- No effect changes the login. -/
theorem login_apply (connection : Connection Payload) (effect : Effect Payload) :
    (EffectSystem.apply connection effect).login = connection.login := by
  cases effect with
  | set write => cases write <;> rfl
  | _ => rfl

/-- Only an effect on the desktop could change these options. -/
theorem limited_apply (login : LoginUnion) (connection : Connection Payload) (effect : Effect Payload)
    (limited : Limited login connection) (inside : effect.area ≠ .desktop) :
    Limited login (EffectSystem.apply connection effect) := by
  obtain ⟨same, screen, window, timer⟩ := limited
  cases effect with
  | set write =>
      cases write with
      | lockAfterSessionEnd on => exact absurd rfl inside
      | followRemoteWindow on => exact absurd rfl inside
      | autoDisconnectTimer on => exact absurd rfl inside
      | _ => exact ⟨same, screen, window, timer⟩
  | _ => exact ⟨same, screen, window, timer⟩

section Options

variable {build : Build} {world : World Payload}

/-- The effects of a handler are in the areas. -/
def Within (areas : List Area) (effects : List (Effect Payload)) : Prop :=
  ∀ effect ∈ effects, effect.area ∈ areas

/-- Effects of some areas are effects of more areas. -/
theorem Within.mono {small large : List Area} {effects : List (Effect Payload)}
    (within : Within small effects) (subset : small ⊆ large) : Within large effects :=
  fun effect member => subset (within effect member)

theorem within_of_nil {areas : List Area} {effects : List (Effect Payload)} (none : effects = []) :
    Within areas effects := by
  intro effect member
  rw [none] at member
  exact absurd member List.not_mem_nil

theorem within_singleton {areas : List Area} {effect : Effect Payload} (inside : effect.area ∈ areas) :
    Within areas [effect] :=
  fun _ member => List.mem_singleton.1 member ▸ inside

/-- Two lists of effects join within their areas. -/
theorem within_append {areas : List Area} {first second : List (Effect Payload)}
    (early : Within areas first) (late : Within areas second) : Within areas (first ++ second) :=
  List.forall_mem_append.2 ⟨early, late⟩

theorem within_flatten {areas : List Area} {parts : List (List (Effect Payload))}
    (all : ∀ part ∈ parts, Within areas part) : Within areas parts.flatten := by
  intro effect member
  obtain ⟨part, listed, inside⟩ := List.mem_flatten.1 member
  exact all part listed effect inside

/-- The stages of a handler stay in the session of the login. -/
theorem within_stages_login {areas : List Area} {list : List (Handling Payload)} (login : LoginUnion)
    (all : ∀ stage ∈ list, ∀ connection : Connection Payload, connection.login = login →
      Within areas (stage connection))
    (connection : Connection Payload) (same : connection.login = login) :
    Within areas (stages list connection) :=
  emits_stages (fun state effect same _ => (login_apply state effect).trans same) all connection same

/-- Stages of a handler stay within their areas. -/
theorem within_stages {areas : List Area} {list : List (Handling Payload)}
    (all : ∀ stage ∈ list, ∀ connection, Within areas (stage connection))
    (connection : Connection Payload) : Within areas (stages list connection) :=
  within_stages_login connection.login
    (fun stage member connection _ => all stage member connection) connection rfl

/-- A server that is gone leaves no effects. -/
theorem within_withServer {areas : List Area} {effects : List (Effect Payload)}
    (within : Within areas effects) : Within areas (withServer world effects) := by
  unfold withServer
  split
  next => exact within
  next => exact within_of_nil rfl

/-- An option that is not set has no effects. -/
theorem within_whenSet {areas : List Area} {value : Int} {stage : Bool → Handling Payload}
    {connection : Connection Payload} (all : ∀ on, Within areas (stage on connection)) :
    Within areas (whenSet value stage connection) := by
  unfold whenSet
  split
  next => exact all true
  next => exact all false
  next => exact within_of_nil rfl

/-- The image quality option stays in its area. -/
theorem within_updateImageQuality (option : OptionMessage Payload) (connection : Connection Payload) :
    Within [.quality] (updateImageQuality option connection) := by
  intro effect member
  unfold updateImageQuality at member
  grind

theorem within_updateCustomFps (option : OptionMessage Payload) (connection : Connection Payload) :
    Within [.quality] (updateCustomFps option connection) := by
  intro effect member
  unfold updateCustomFps at member
  grind

/-- The decoding option stays in its area. -/
theorem within_updateSupportedDecoding (option : OptionMessage Payload)
    (connection : Connection Payload) :
    Within [.codec] (updateSupportedDecoding option connection) := by
  intro effect member
  unfold updateSupportedDecoding at member
  grind

theorem within_updateDisableAudio (option : OptionMessage Payload) (connection : Connection Payload) :
    Within [.audio] (updateDisableAudio world option connection) := by
  apply within_whenSet
  intro on
  apply within_stages
  refine List.forall_mem_cons.2 ⟨?_, List.forall_mem_singleton.2 ?_⟩
  · intro connection
    exact within_singleton (List.mem_singleton_self _)
  · intro connection
    apply within_withServer
    intro effect member
    grind

/-- The copy for a camera session leaves every other field without a value. -/
theorem within_updateViewCamera (option : OptionMessage Payload) (connection : Connection Payload) :
    Within [.quality, .codec, .audio]
      (updateOptions build world option.viewCameraCopy connection) := by
  apply within_stages
  simp only [List.forall_mem_cons, List.not_mem_nil, false_imp_iff, implies_true, and_true]
  refine ⟨fun connection => (within_updateImageQuality _ connection).mono (by simp),
    fun connection => (within_updateCustomFps _ connection).mono (by simp),
    fun connection => (within_updateSupportedDecoding _ connection).mono (by simp),
    fun _ => within_of_nil rfl, fun _ => within_of_nil (ite_self _), fun _ => within_of_nil (ite_self _),
    fun _ => within_of_nil rfl,
    fun connection => (within_updateDisableAudio _ connection).mono (by simp),
    fun _ => within_of_nil (ite_self _), fun _ => within_of_nil rfl, fun _ => within_of_nil rfl,
    fun _ => within_of_nil (ite_self _), fun _ => within_of_nil rfl, fun _ => within_of_nil (ite_self _),
    fun _ => within_of_nil (ite_self _)⟩

theorem within_updateTerminalPersistence (option : OptionMessage Payload)
    (connection : Connection Payload) :
    Within [.terminalPersistence] (updateTerminalPersistence build option connection) := by
  intro effect member
  unfold updateTerminalPersistence onDesktop whenSet at member
  grind

/-- A terminal session takes one option only. -/
theorem within_updateTerminal (option : OptionMessage Payload) (connection : Connection Payload) :
    Within [.terminalPersistence]
      (updateOptions build world option.terminalCopy connection) := by
  apply within_stages
  simp only [List.forall_mem_cons, List.not_mem_nil, false_imp_iff, implies_true, and_true]
  refine ⟨fun _ => within_of_nil rfl, fun _ => within_of_nil rfl, fun _ => within_of_nil rfl,
    fun _ => within_of_nil rfl, fun _ => within_of_nil (ite_self _), fun _ => within_of_nil (ite_self _),
    fun _ => within_of_nil rfl, fun _ => within_of_nil rfl, fun _ => within_of_nil (ite_self _),
    fun _ => within_of_nil rfl, fun _ => within_of_nil rfl, fun _ => within_of_nil (ite_self _),
    fun _ => within_of_nil rfl, fun connection => within_updateTerminalPersistence _ connection,
    fun _ => within_of_nil (ite_self _)⟩

end Options

section Handlers

variable {build : Build} {world : World Payload} {connection : Connection Payload}

/-- Without a lock a close reaches two areas. -/
theorem within_onClose (lock : Bool) (unlocked : connection.lockAfterSessionEnd = false) :
    Within [.closing, .voiceInput] (onClose build world lock connection) := by
  intro effect member
  unfold onClose at member
  grind

theorem within_handleTestDelay (delay : Payload) (fromClient : Bool) :
    Within [.delay] (handleTestDelay world delay fromClient connection) := by
  intro effect member
  unfold handleTestDelay at member
  grind

theorem within_handleFileResponse (response : FileResponse Payload) :
    Within [.file] (handleFileResponse response) := by
  intro effect member
  cases response <;> grind [handleFileResponse]

theorem within_createAndStartReadJob (id : Int) (path : Payload) :
    Within [.file] (createAndStartReadJob world id path connection) := by
  intro effect member
  unfold createAndStartReadJob at member
  grind

/-- The start of a file action stays with files. -/
theorem within_startFileAction (action : FileAction Payload) :
    Within [.file] (startFileAction build world action connection) := by
  have started := @within_createAndStartReadJob Payload world connection
  intro effect member
  unfold startFileAction at member
  cases action <;> grind [Within]

/-- A file action stays with files. -/
theorem within_handleFileAction (action : FileAction Payload) :
    Within [.file] (handleFileAction build world action connection) := by
  have started := @within_startFileAction Payload build world connection action
  intro effect member
  unfold handleFileAction at member
  grind [Within]

/-- A terminal action stays with the terminal. -/
theorem within_handleTerminalAction (action : Payload) :
    Within [.terminal] (handleTerminalAction build world action connection) := by
  intro effect member
  unfold handleTerminalAction at member
  grind

/-- A voice call stays with the sound. -/
theorem within_handleVoiceCallRequest (reqTimestamp : Int) (isConnect : Bool) :
    Within [.audio, .voiceInput]
      (handleVoiceCallRequest world reqTimestamp isConnect connection) := by
  intro effect member
  unfold handleVoiceCallRequest closeVoiceCall withServer at member
  grind

/-- Without the timer the handlers of a message have nothing to restart. -/
theorem updateAutoDisconnectTimer_eq (timer : connection.autoDisconnectTimer = false) :
    updateAutoDisconnectTimer connection = [] := by
  rw [updateAutoDisconnectTimer, timer, if_neg Bool.false_ne_true]

/-- A chat message without a timer stays a chat. -/
theorem within_chat (build : Build) (world : World Payload) (text : Payload)
    (timer : connection.autoDisconnectTimer = false) :
    Within [.chat] (handleMisc build world (.chatMessage text) connection) := by
  intro effect member
  rw [handleMisc, updateAutoDisconnectTimer_eq timer] at member
  grind

section Camera

variable (camera : connection.login = .viewCamera)

include camera in
theorem camera_scope : connection.scope = { viewCamera := true } := by
  rw [Connection.scope, camera, configureLanConnectionScope]

include camera in
/-- A camera session watches the cameras. -/
theorem camera_videoSource : connection.videoSource = .camera := by
  rw [videoSource, camera_scope camera, if_pos rfl]

include camera in
theorem within_sendDisplayChanged (display : Nat) :
    Within [.camera] (sendDisplayChanged world display connection) := by
  intro effect member
  rw [sendDisplayChanged, camera_videoSource camera] at member
  grind [VideoSource.area]

include camera in
theorem within_switchDisplayTo (display : Nat) :
    Within [.capture, .camera] (switchDisplayTo build world display connection) := by
  intro effect member
  rw [switchDisplayTo, camera_videoSource camera] at member
  grind [VideoSource.area]

include camera in
/-- The resolution in a switch is for monitors only. -/
theorem within_handleSwitchDisplay (display : Nat) (resolution : Resolution) :
    Within [.capture, .camera] (handleSwitchDisplay build world display resolution connection) := by
  unfold handleSwitchDisplay
  split
  next => exact within_of_nil rfl
  next =>
      split
      next => exact (within_sendDisplayChanged camera _).mono (by simp)
      next =>
          split
          next => exact within_of_nil rfl
          next =>
              refine within_stages_login .viewCamera ?_ connection camera
              refine List.forall_mem_cons.2 ⟨?_, List.forall_mem_cons.2 ⟨?_, List.forall_mem_singleton.2 ?_⟩⟩
              · intro connection camera
                exact within_switchDisplayTo camera display
              · intro connection camera
                refine within_of_nil (if_neg ?_)
                simp [camera_scope camera]
              · intro connection camera
                exact (within_sendDisplayChanged camera _).mono (by simp)

include camera in
/-- A camera session captures cameras only. -/
theorem within_captureDisplays (window : connection.followRemoteWindow = false)
    (add sub set : List Nat) :
    Within [.capture, .camera] (captureDisplays world add sub set connection) := by
  simp only [captureDisplays, camera_videoSource camera, window, Bool.false_eq_true, if_false]
  split
  next => exact within_of_nil rfl
  next =>
      apply within_withServer
      apply within_flatten
      refine List.forall_mem_cons.2 ⟨?_, List.forall_mem_cons.2 ⟨?_, List.forall_mem_singleton.2 ?_⟩⟩
      · intro effect member
        obtain ⟨display, -, rfl⟩ := List.mem_map.1 member
        simp [Effect.area, VideoSource.area]
      · intro effect member
        grind [VideoSource.area]
      · exact within_of_nil rfl

include camera in
/-- A camera session refreshes cameras only. -/
theorem within_refreshVideoDisplay (display : Option Nat) :
    Within [.camera, .videoRefresh] (refreshVideoDisplay world display connection) := by
  apply within_withServer
  intro effect member
  rw [camera_videoSource camera] at member
  cases display <;> grind [VideoSource.area]

end Camera

theorem within_handleSelectedSid_fileTransfer (sid : Nat) (files : connection.login = .fileTransfer) :
    Within [.file, .userSession, .closing] (handleSelectedSid build world sid connection) := by
  intro effect member
  rw [handleSelectedSid, Connection.scope, files] at member
  grind [configureLanConnectionScope]

theorem within_handleSelectedSid_viewCamera (sid : Nat) (camera : connection.login = .viewCamera) :
    Within [.camera, .userSession, .closing] (handleSelectedSid build world sid connection) := by
  intro effect member
  rw [handleSelectedSid, camera_scope camera] at member
  grind [withServer]

end Handlers

section Compat

variable {build : Build} {world : World Payload} {connection : Connection Payload}

theorem isBoolOptionNotSet_iff (value : Int) : isBoolOptionNotSet value = true ↔ value = 0 := by
  simp only [isBoolOptionNotSet, BoolOption.fromI32]
  grind

/-- A message about the decoder has nothing for a terminal. -/
theorem scopedTerminal_decodingOnly {option : OptionMessage Payload}
    (only : option.isSupportedDecodingOnly = true) : option.scopedTerminal.1 = none := by
  simp only [OptionMessage.isSupportedDecodingOnly, Bool.and_eq_true, isBoolOptionNotSet_iff] at only
  have unset : option.terminalCopy = {} := by
    rw [OptionMessage.terminalCopy, only.1.2, ite_self]
  rw [OptionMessage.scopedTerminal, unset]
  rfl

theorem connType_ne_remote {login : LoginUnion} (limited : login ≠ .none) :
    login.connType ≠ .remote := by
  cases login with
  | none => exact absurd rfl limited
  | _ => simp

/-- A limited session ignores other options. -/
theorem handleOption_of_none {option : OptionMessage Payload} (limited : connection.login ≠ .none)
    (none : scopedUpdateOptionMessage option connection = none) :
    handleOption build world option connection = [] := by
  rw [handleOption, authedConnType_eq, if_neg (connType_ne_remote limited), none]

/-- Options of a terminal session stay with it. -/
theorem within_handleOption_terminal (option : OptionMessage Payload)
    (terminal : connection.login = .terminal) :
    Within [.terminalPersistence] (handleOption build world option connection) := by
  simp only [handleOption, scopedUpdateOptionMessage, authedConnType_eq, terminal, connType_terminal,
    OptionMessage.scopedTerminal, reduceCtorEq, if_false]
  split
  next accepted kept =>
      split at kept
      next =>
          obtain rfl := Option.some.inj kept
          exact within_updateTerminal option connection
      next => cases kept
  next => exact within_of_nil rfl

/-- Options of a camera session stay with it. -/
theorem within_handleOption_viewCamera (option : OptionMessage Payload)
    (camera : connection.login = .viewCamera) :
    Within [.quality, .codec, .audio] (handleOption build world option connection) := by
  simp only [handleOption, scopedUpdateOptionMessage, authedConnType_eq, camera, connType_viewCamera,
    OptionMessage.scopedViewCamera, reduceCtorEq, if_false]
  split
  next accepted kept =>
      split at kept
      next =>
          obtain rfl := Option.some.inj kept
          exact within_updateViewCamera option connection
      next => cases kept
  next => exact within_of_nil rfl

/-- A session without a picture ignores the messages about rendering. -/
theorem render_ignored (message : Message Payload) (limited : connection.login ≠ .none)
    (pictureless : connection.login ≠ .viewCamera)
    (render : message.isRenderBroadcastNoopCompat = true) :
    handleAuthorizedMessage build world message connection = [] := by
  have ignores : connection.shouldHandleRenderBroadcastMessage = false := by
    rw [shouldHandleRenderBroadcastMessage, authedConnType_eq]
    cases login : connection.login with
    | none => exact absurd login limited
    | viewCamera => exact absurd login pictureless
    | _ => rfl
  cases message with
  | misc content =>
      cases content with
      | refreshVideo refresh =>
          rw [handleAuthorizedMessage, handleMisc, ignores, if_neg Bool.false_ne_true]
      | refreshVideoDisplay display =>
          rw [handleAuthorizedMessage, handleMisc, ignores, if_neg Bool.false_ne_true]
      | option option =>
          apply handleOption_of_none limited
          rw [scopedUpdateOptionMessage, authedConnType_eq]
          cases login : connection.login with
          | none => exact absurd login limited
          | viewCamera => exact absurd login pictureless
          | terminal => exact scopedTerminal_decodingOnly render
          | _ => rfl
      | _ => cases render
  | _ => cases render

/-- A limited session ignores the text clipboard. -/
theorem textClipboard_ignored (message : Message Payload) (limited : connection.login ≠ .none)
    (text : message.isTextClipboardNoopCompat = true) :
    handleAuthorizedMessage build world message connection = [] := by
  have ignores : connection.shouldHandleTextClipboardMessage = false := by
    rw [shouldHandleTextClipboardMessage, authedConnType_eq]
    exact decide_eq_false (connType_ne_remote limited)
  cases message with
  | clipboard content => simp [handleAuthorizedMessage, handleClipboard, ignores]
  | multiClipboards content => simp [handleAuthorizedMessage, handleMultiClipboards, ignores]
  | _ => cases text

/-- A camera session ignores the input and the switches of old clients. -/
theorem camera_input_ignored (message : Message Payload) (camera : connection.login = .viewCamera)
    (input : message.isCameraCompat = true) :
    handleAuthorizedMessage build world message connection = [] := by
  have watching : connection.isAuthedViewCameraConn = true := by
    rw [isAuthedViewCameraConn, authedConnType_eq, camera]
    rfl
  cases message with
  | mouseEvent event => simp [handleAuthorizedMessage, handleMouseEvent, watching]
  | pointerDeviceEvent event => simp [handleAuthorizedMessage, handlePointerDeviceEvent, watching]
  | keyEvent event => simp [handleAuthorizedMessage, handleKeyEvent, watching]
  | misc content =>
      cases content with
      | togglePrivacyMode implKey on => simp [handleAuthorizedMessage, handleMisc, camera_scope camera]
      | toggleVirtualDisplay display on =>
          simp [handleAuthorizedMessage, handleMisc, camera_scope camera]
      | changeResolution resolution => simp [handleAuthorizedMessage, handleMisc, camera_scope camera]
      | changeDisplayResolution display resolution =>
          simp [handleAuthorizedMessage, handleMisc, camera_scope camera]
      | _ => cases input
  | _ => cases input

/-- The handlers ignore every message that is admitted for old clients only. -/
theorem compat_ignored (message : Message Payload) (limited : connection.login ≠ .none)
    (compat : message.isCompat connection.authedConnType = true) :
    handleAuthorizedMessage build world message connection = [] := by
  cases login : connection.login with
  | none => exact absurd login limited
  | fileTransfer =>
      simp only [authedConnType_eq, login, connType_fileTransfer, Message.isCompat, Message.isNoopCompat,
        reduceCtorEq, decide_false, Bool.false_and, Bool.or_false, Bool.or_eq_true] at compat
      cases compat with
      | inl render => exact render_ignored message limited (by simp [login]) render
      | inr text => exact textClipboard_ignored message limited text
  | portForward =>
      simp only [authedConnType_eq, login, connType_portForward, Message.isCompat, Message.isNoopCompat,
        reduceCtorEq, decide_false, Bool.false_and, Bool.or_false] at compat
      exact render_ignored message limited (by simp [login]) compat
  | terminal =>
      simp only [authedConnType_eq, login, connType_terminal, Message.isCompat, Message.isNoopCompat,
        reduceCtorEq, decide_false, Bool.false_and, Bool.or_false, Bool.or_eq_true] at compat
      cases compat with
      | inl render => exact render_ignored message limited (by simp [login]) render
      | inr text => exact textClipboard_ignored message limited text
  | viewCamera =>
      simp only [authedConnType_eq, login, connType_viewCamera, Message.isCompat, Message.isNoopCompat,
        decide_true, Bool.true_and, Bool.or_eq_true] at compat
      cases compat with
      | inl text => exact textClipboard_ignored message limited text
      | inr input => exact camera_input_ignored message login input

end Compat

section Dispatch

variable {build : Build} {world : World Payload} {connection : Connection Payload}

/-- An admitted message reaches its handler. -/
theorem onMessage_of_admitted (message : Message Payload)
    (ordinary : message.isConnectionHousekeeping = false)
    (admitted : authorizedScopeViolation build message connection = none) :
    onMessage build world message connection =
      if connection.portForwardSocket then []
      else handleAuthorizedMessage build world message connection := by
  unfold onMessage
  split
  next => cases ordinary
  next => cases ordinary
  next =>
      rw [admitted]
      dsimp only
      split
      next => cases ordinary
      next => rfl

/-- A rejected message counts as a violation. -/
theorem onMessage_of_rejected (message : Message Payload) {family : String}
    (rejected : authorizedScopeViolation build message connection = some family) :
    onMessage build world message connection =
      handleAuthorizedScopeViolation build world family connection := by
  unfold onMessage
  split
  next => cases rejected
  next => cases rejected
  next => rw [rejected]

/-- A file session reaches its own areas only. -/
theorem within_fileTransfer (message : Message Payload) (files : connection.login = .fileTransfer)
    (allowed : message.isFileTransferScoped build.isWindows = true) :
    Within (AuthConnType.fileTransfer.areas ++ message.areas)
      (handleAuthorizedMessage build world message connection) := by
  cases message with
  | fileAction action => exact (within_handleFileAction action).mono (by simp [AuthConnType.areas])
  | fileResponse response =>
      exact (within_handleFileResponse response).mono (by simp [AuthConnType.areas])
  | misc content =>
      cases content with
      | selectedSid sid =>
          have windows : build.isWindows = true := allowed
          rw [handleAuthorizedMessage, handleMisc, if_pos windows]
          exact within_handleSelectedSid_fileTransfer sid files
      | _ => cases allowed
  | _ => cases allowed

/-- A terminal session reaches its own areas only. -/
theorem within_terminal (message : Message Payload) (terminal : connection.login = .terminal)
    (timer : connection.autoDisconnectTimer = false) (allowed : message.isTerminalScoped = true) :
    Within (AuthConnType.terminal.areas ++ message.areas)
      (handleAuthorizedMessage build world message connection) := by
  cases message with
  | terminalAction action =>
      exact (within_handleTerminalAction action).mono (by simp [AuthConnType.areas])
  | misc content =>
      cases content with
      | chatMessage text => exact (within_chat build world text timer).mono (by simp [AuthConnType.areas])
      | option option =>
          exact (within_handleOption_terminal option terminal).mono (by simp [AuthConnType.areas])
      | _ => cases allowed
  | _ => cases allowed

/-- A camera session reaches its own areas only. -/
theorem within_viewCamera (message : Message Payload) (limited : Limited .viewCamera connection)
    (allowed : message.isViewCameraScoped build.isWindows = true) :
    Within (AuthConnType.viewCamera.areas ++ message.areas)
      (handleAuthorizedMessage build world message connection) := by
  have camera := limited.login
  have noTimer := updateAutoDisconnectTimer_eq limited.hasNoTimer
  by_cases compat : message.isCameraCompat = true
  · exact within_of_nil (camera_input_ignored message camera compat)
  · cases message with
    | screenshotRequest display sid =>
        intro effect member
        rw [handleAuthorizedMessage, camera_videoSource camera, List.mem_cons] at member
        cases member with
        | inl shot =>
            subst shot
            simp [Effect.area, AuthConnType.areas]
        | inr refreshed =>
            exact (within_refreshVideoDisplay camera (some display)).mono
              (by simp [AuthConnType.areas]) effect refreshed
    | audioFrame frame =>
        intro effect member
        rw [handleAuthorizedMessage] at member
        grind [AuthConnType.areas]
    | voiceCallRequest reqTimestamp isConnect =>
        exact (within_handleVoiceCallRequest reqTimestamp isConnect).mono (by simp [AuthConnType.areas])
    | voiceCallResponse => exact within_of_nil rfl
    | misc content =>
        cases content with
        | switchDisplay display resolution =>
            exact (within_handleSwitchDisplay camera display resolution).mono
              (by simp [AuthConnType.areas])
        | captureDisplays add sub set =>
            exact (within_captureDisplays camera limited.followsNoWindow add sub set).mono
              (by simp [AuthConnType.areas])
        | refreshVideo refresh =>
            rw [handleAuthorizedMessage, handleMisc, noTimer, List.append_nil]
            split
            next =>
                split
                next =>
                    exact (within_refreshVideoDisplay camera none).mono (by simp [AuthConnType.areas])
                next => exact within_of_nil rfl
            next => exact within_of_nil rfl
        | refreshVideoDisplay display =>
            rw [handleAuthorizedMessage, handleMisc, noTimer, List.append_nil]
            split
            next =>
                exact (within_refreshVideoDisplay camera (some display)).mono
                  (by simp [AuthConnType.areas])
            next => exact within_of_nil rfl
        | videoReceived => exact within_singleton (by simp [Effect.area, AuthConnType.areas])
        | chatMessage text =>
            exact (within_chat build world text limited.hasNoTimer).mono (by simp [AuthConnType.areas])
        | audioFormat format =>
            intro effect member
            rw [handleAuthorizedMessage, handleMisc] at member
            grind [AuthConnType.areas]
        | clientRecordStatus status =>
            exact within_singleton (by simp [Effect.area, QosChange.area, AuthConnType.areas])
        | messageQuery display =>
            exact (within_sendDisplayChanged camera display).mono (by simp [AuthConnType.areas])
        | option option =>
            exact (within_handleOption_viewCamera option camera).mono (by simp [AuthConnType.areas])
        | selectedSid sid =>
            have windows : build.isWindows = true := allowed
            rw [handleAuthorizedMessage, handleMisc, if_pos windows]
            exact (within_handleSelectedSid_viewCamera sid camera).mono
              (by simp [AuthConnType.areas, Message.areas])
        | togglePrivacyMode implKey on => exact absurd rfl compat
        | toggleVirtualDisplay display on => exact absurd rfl compat
        | changeResolution resolution => exact absurd rfl compat
        | changeDisplayResolution display resolution => exact absurd rfl compat
        | _ => cases allowed
    | mouseEvent event => exact absurd rfl compat
    | pointerDeviceEvent event => exact absurd rfl compat
    | keyEvent event => exact absurd rfl compat
    | _ => cases allowed

/-- Every effect of an admitted message is in the scope, or is about the connection itself. -/
theorem within_admitted {login : LoginUnion} (message : Message Payload)
    (limited : Limited login connection) (notRemote : login ≠ .none)
    (admitted : authorizedScopeViolation build message connection = none) :
    Within (connection.authedConnType.areas ++ message.areas)
      (onMessage build world message connection) := by
  have other : connection.login ≠ .none := by
    rw [limited.login]
    exact notRemote
  cases housekeeping : message.isConnectionHousekeeping with
  | true =>
      cases message with
      | loginRequest request => exact within_of_nil rfl
      | testDelay delay fromClient =>
          exact (within_handleTestDelay delay fromClient).mono (by simp [Message.areas])
      | misc content =>
          cases content with
          | closeReason reason =>
              refine within_append ((within_onClose true limited.keepsScreenUnlocked).mono ?_)
                (List.forall_mem_cons.2 ⟨?_, within_singleton ?_⟩)
              · simp [Message.areas]
              · simp [Effect.area, Message.areas]
              · simp [Effect.area, Write.area, Message.areas]
          | _ => cases housekeeping
      | _ => cases housekeeping
  | false =>
      rw [onMessage_of_admitted message housekeeping admitted]
      split
      next => exact within_of_nil rfl
      next =>
          by_cases compat : message.isNoopCompat connection.authedConnType = true
          · exact within_of_nil (compat_ignored message other (by simp [Message.isCompat, compat]))
          · have allowed : message.isAllowed build.isWindows connection.authedConnType = true := by
              simpa [authorizedScopeViolation, Message.authorizedMessageScopeViolation,
                housekeeping, compat] using admitted
            rw [authedConnType_eq, limited.login] at allowed ⊢
            cases login with
            | none => exact absurd rfl notRemote
            | fileTransfer => exact within_fileTransfer message limited.login allowed
            | portForward => cases allowed
            | terminal => exact within_terminal message limited.login limited.hasNoTimer allowed
            | viewCamera => exact within_viewCamera message limited allowed

theorem compat_ordinary {message : Message Payload} {connType : AuthConnType}
    (compat : message.isCompat connType = true) : message.isConnectionHousekeeping = false := by
  cases message with
  | loginRequest request => cases connType <;> cases compat
  | testDelay delay fromClient => cases connType <;> cases compat
  | misc content =>
      cases content with
      | closeReason reason => cases connType <;> cases compat
      | _ => rfl
  | _ => rfl

theorem cameraCompat_scoped {message : Message Payload} (windows : Bool)
    (compat : message.isCameraCompat = true) : message.isViewCameraScoped windows = true := by
  cases message with
  | misc content =>
      cases content with
      | togglePrivacyMode implKey on => rfl
      | toggleVirtualDisplay display on => rfl
      | changeResolution resolution => rfl
      | changeDisplayResolution display resolution => rfl
      | _ => cases compat
  | mouseEvent event => rfl
  | pointerDeviceEvent event => rfl
  | keyEvent event => rfl
  | _ => cases compat

/-- The messages kept for old clients pass. -/
theorem compat_admitted {message : Message Payload}
    (compat : message.isCompat connection.authedConnType = true) :
    authorizedScopeViolation build message connection = none := by
  unfold authorizedScopeViolation Message.authorizedMessageScopeViolation
  rw [Message.isCompat, Bool.or_eq_true, Bool.and_eq_true, decide_eq_true_eq] at compat
  cases compat with
  | inl noop => simp [noop]
  | inr ignored =>
      rw [ignored.1]
      simp [Message.isAllowed, cameraCompat_scoped build.isWindows ignored.2]

/-- The messages kept for old clients do nothing. -/
theorem onMessage_compat (message : Message Payload) (limited : connection.login ≠ .none)
    (compat : message.isCompat connection.authedConnType = true) :
    onMessage build world message connection = [] := by
  rw [onMessage_of_admitted message (compat_ordinary compat) (compat_admitted compat),
    compat_ignored message limited compat, ite_self]

/-- The options outside the scope do not reach the update. -/
theorem scopedUpdateOptionMessage_congr (limited : connection.login ≠ .none)
    {first second : OptionMessage Payload} (agree : first.AgreesOn second connection.authedConnType) :
    scopedUpdateOptionMessage first connection = scopedUpdateOptionMessage second connection := by
  unfold scopedUpdateOptionMessage
  rw [authedConnType_eq] at agree ⊢
  cases login : connection.login with
  | none => exact absurd login limited
  | fileTransfer => rfl
  | portForward => rfl
  | terminal =>
      rw [login] at agree
      have same : first.terminalPersistent = second.terminalPersistent := agree
      have copies : first.terminalCopy = second.terminalCopy := by
        rw [OptionMessage.terminalCopy, same, OptionMessage.terminalCopy]
      simp only [connType_terminal, OptionMessage.scopedTerminal, copies]
  | viewCamera =>
      rw [login] at agree
      obtain ⟨quality, custom, fps, decoding, audio⟩ := agree
      have copies : first.viewCameraCopy = second.viewCameraCopy := by
        rw [OptionMessage.viewCameraCopy, quality, custom, fps, decoding, audio,
          OptionMessage.viewCameraCopy]
      simp only [connType_viewCamera, OptionMessage.scopedViewCamera, copies]

/-- Options that agree where read act alike. -/
theorem onMessage_option_congr (limited : connection.login ≠ .none)
    {first second : OptionMessage Payload} (agree : first.AgreesOn second connection.authedConnType)
    (verdict : authorizedScopeViolation build (.misc (.option first)) connection =
      authorizedScopeViolation build (.misc (.option second)) connection) :
    onMessage build world (.misc (.option first)) connection =
      onMessage build world (.misc (.option second)) connection := by
  cases violation : authorizedScopeViolation build (.misc (.option first)) connection with
  | some family =>
      rw [onMessage_of_rejected _ violation, onMessage_of_rejected _ (verdict.symm.trans violation)]
  | none =>
      rw [onMessage_of_admitted _ rfl violation,
        onMessage_of_admitted _ rfl (verdict.symm.trans violation)]
      have notRemote : connection.authedConnType ≠ .remote := connType_ne_remote limited
      simp only [handleAuthorizedMessage, handleMisc, handleOption, if_neg notRemote,
        scopedUpdateOptionMessage_congr limited agree]

/-- A rejected message is logged. The settings decide on the alarm and on the end of the session. -/
theorem rejected_effects (family : String) (unlocked : connection.lockAfterSessionEnd = false) :
    ∀ effect ∈ handleAuthorizedScopeViolation build world family connection,
      effect.area = .violationLog ∨
        (effect.area = .alarm ∧ world.violationAlarm = true ∧
          family ∉ connection.scopeViolationMessages) ∨
        (effect.area ∈ [.closing, .voiceInput] ∧ world.violationClose = true) := by
  intro effect member
  simp only [handleAuthorizedScopeViolation, List.flatten_cons, List.flatten_nil, List.append_nil,
    List.mem_append] at member
  obtain logged | alarmed | ended := member
  · left
    rw [List.mem_singleton] at logged
    rw [logged]
    rfl
  · right
    left
    split at alarmed
    next raised =>
        rw [List.mem_singleton] at alarmed
        rw [alarmed]
        exact ⟨rfl, raised.2, raised.1⟩
    next => exact absurd alarmed List.not_mem_nil
  · right
    right
    split at ended
    next close =>
        refine ⟨?_, close⟩
        simp only [List.mem_append] at ended
        obtain sent | closing | left := ended
        · grind
        · exact within_onClose true unlocked effect closing
        · grind
    next => exact absurd ended List.not_mem_nil

/-- A close is recorded once. -/
theorem perform_onClose (lock : Bool) (state : Connection Payload) :
    perform state (onClose build world lock connection) =
      if connection.closed then state
      else { state with closed := true, portForwardTaken := true } := by
  unfold onClose
  split
  next => rfl
  next =>
      simp only [List.flatten_cons, List.flatten_nil, List.append_nil, perform_append]
      split <;> rfl

/-- A violation changes only its own counters. -/
theorem perform_rejected (family : String) :
    perform connection (handleAuthorizedScopeViolation build world family connection) =
      { connection with
        scopeViolationMessages := connection.scopeViolationMessages.insert family
        closed := connection.closed || world.violationClose
        portForwardTaken :=
          connection.portForwardTaken || (world.violationClose && !connection.closed)
        left := connection.left || world.violationClose } := by
  have alarm : ∀ state : Connection Payload,
      perform state (if family ∉ connection.scopeViolationMessages ∧ world.violationAlarm = true then
        [(.postScopeViolationAlarm family : Effect Payload)] else []) = state := by
    intro state
    split <;> rfl
  simp only [handleAuthorizedScopeViolation, List.flatten_cons, List.flatten_nil, List.append_nil,
    perform_append, alarm]
  cases world.violationClose with
  | false => simp [perform, EffectSystem.apply, write]
  | true =>
      simp only [if_true, perform_append, perform_onClose]
      cases closed : connection.closed <;> simp [perform, EffectSystem.apply, write, closed]

end Dispatch

section Runs

variable {build : Build}

/-- Effects without a desktop keep the limits. -/
theorem limited_perform {login : LoginUnion} {areas : List Area} {connection : Connection Payload}
    {effects : List (Effect Payload)} (within : Within areas effects) (inside : .desktop ∉ areas)
    (limited : Limited login connection) : Limited login (perform connection effects) :=
  perform_keeps (fun state effect holds good => limited_apply login state effect holds good)
    connection effects limited
    fun effect member desktop => inside (desktop ▸ within effect member)

/-- No limited session has the desktop. -/
theorem desktop_notMem_areas (connType : AuthConnType) (message : Message Payload) :
    .desktop ∉ connType.areas ++ message.areas := by
  rw [List.mem_append, not_or]
  constructor
  · cases connType <;> simp [AuthConnType.areas]
  · cases message with
    | misc content => cases content <;> simp [Message.areas]
    | _ => simp [Message.areas]

/-- A message keeps the limits of the login. -/
theorem limited_onMessage {login : LoginUnion} (notRemote : login ≠ .none) (world : World Payload)
    (message : Message Payload) {connection : Connection Payload}
    (limited : Limited login connection) :
    Limited login (perform connection (onMessage build world message connection)) := by
  cases violation : authorizedScopeViolation build message connection with
  | none =>
      exact limited_perform (within_admitted message limited notRemote violation)
        (desktop_notMem_areas _ message) limited
  | some family =>
      rw [onMessage_of_rejected message violation, perform_rejected]
      exact ⟨limited.login, limited.keepsScreenUnlocked, limited.followsNoWindow, limited.hasNoTimer⟩

/-- One input keeps the limits of the login. -/
theorem limited_step {login : LoginUnion} (notRemote : login ≠ .none) (input : Input Payload)
    {connection : Connection Payload} (limited : Limited login connection) :
    Limited login ((machine build).step connection input).1 := by
  cases input with
  | message world received =>
      simp only [machine]
      split
      next => exact limited
      next => exact limited_onMessage notRemote world received limited
  | host event =>
      obtain ⟨same, screen, window, timer⟩ := limited
      cases event with
      | voiceCallResponse accepted =>
          simp only [machine, onHostEvent]
          split <;> exact ⟨same, screen, window, timer⟩
      | _ => exact ⟨same, screen, window, timer⟩

/-- Every run keeps the limits of the login. -/
theorem limited_run {login : LoginUnion} (notRemote : login ≠ .none) (inputs : List (Input Payload))
    {connection : Connection Payload} (limited : Limited login connection) :
    Limited login ((machine build).run connection inputs).1 :=
  (machine build).run_invariant (fun _ _ => True) (fun state _ => Limited login state)
    (fun _ _ input _ holds => limited_step notRemote input holds) connection [] inputs limited
    ((machine build).guarded_true connection inputs)

/-- The options of a login are cut down to the scope before they are applied. -/
theorem limited_scopedOption (world : World Payload) (login : Login Payload)
    (notRemote : login.union ≠ .none) :
    Limited login.union
      (match login.scopedOption with
        | some option => perform login.start (updateOptions build world option login.start)
        | none => login.start) := by
  have start : Limited login.union login.start := ⟨rfl, rfl, rfl, rfl⟩
  split
  next option accepted =>
      obtain ⟨asked, -, kept⟩ := Option.bind_eq_some_iff.1 accepted
      rw [authedConnType_eq, start.login] at kept
      cases union : login.union with
      | none => exact absurd union notRemote
      | fileTransfer => rw [union] at kept; cases kept
      | portForward => rw [union] at kept; cases kept
      | terminal =>
          rw [union] at kept start
          simp only [connType_terminal, OptionMessage.scopedLogin, OptionMessage.scopedTerminal] at kept
          split at kept
          next =>
              obtain rfl := Option.some.inj kept
              exact limited_perform (within_updateTerminal asked _) (by simp) start
          next => cases kept
      | viewCamera =>
          rw [union] at kept start
          simp only [connType_viewCamera, OptionMessage.scopedLogin,
            OptionMessage.scopedViewCamera] at kept
          split at kept
          next =>
              obtain rfl := Option.some.inj kept
              exact limited_perform (within_updateViewCamera asked _) (by simp) start
          next => cases kept
  next => exact start

/-- A limited login begins with its limits. -/
theorem limited_authorize (world : World Payload) (login : Login Payload)
    (notRemote : login.union ≠ .none) : Limited login.union (authorize build world login) := by
  obtain ⟨same, screen, window, timer⟩ := @limited_scopedOption Payload build world login notRemote
  unfold authorize
  cases union : login.union with
  | none => exact absurd union notRemote
  | _ =>
      rw [union] at same
      exact ⟨same, screen, window, timer⟩

end Runs

/-- What a connection of limited scope does with any message. -/
structure ScopeKept (build : Build) (connection : Connection Payload) : Prop where
  rejected : ∀ world message family,
    authorizedScopeViolation build message connection = some family →
      (∀ effect ∈ onMessage build world message connection,
        effect.area = .violationLog ∨
          (effect.area = .alarm ∧ world.violationAlarm = true ∧
            family ∉ connection.scopeViolationMessages) ∨
          (effect.area ∈ [.closing, .voiceInput] ∧ world.violationClose = true)) ∧
      perform connection (onMessage build world message connection) =
        { connection with
          scopeViolationMessages := connection.scopeViolationMessages.insert family
          closed := connection.closed || world.violationClose
          portForwardTaken :=
            connection.portForwardTaken || (world.violationClose && !connection.closed)
          left := connection.left || world.violationClose }
  admitted : ∀ world message, authorizedScopeViolation build message connection = none →
    Within (connection.authedConnType.areas ++ message.areas)
      (onMessage build world message connection)
  compat : ∀ world message, message.isCompat connection.authedConnType = true →
    authorizedScopeViolation build message connection = none ∧
      onMessage build world message connection = []
  options : ∀ world first second, first.AgreesOn second connection.authedConnType →
    authorizedScopeViolation build (.misc (.option first)) connection =
      authorizedScopeViolation build (.misc (.option second)) connection →
    onMessage build world (.misc (.option first)) connection =
      onMessage build world (.misc (.option second)) connection

/-- The limits of a login keep its scope. -/
theorem scopeKept_of_limited {build : Build} {login : LoginUnion} {connection : Connection Payload}
    (notRemote : login ≠ .none) (limited : Limited login connection) : ScopeKept build connection := by
  have other : connection.login ≠ .none := by
    rw [limited.login]
    exact notRemote
  constructor
  case rejected =>
    intro world message family violation
    rw [onMessage_of_rejected message violation]
    exact ⟨rejected_effects family limited.keepsScreenUnlocked, perform_rejected family⟩
  case admitted =>
    intro world message violation
    exact within_admitted message limited notRemote violation
  case compat =>
    intro world message ignored
    exact ⟨compat_admitted ignored, onMessage_compat message other ignored⟩
  case options =>
    intro world first second agree verdict
    exact onMessage_option_congr other agree verdict

/-- A session that is not for remote control stays in its scope, in every state that it reaches. -/
theorem limited_session_confined (build : Build) (start : World Payload) (login : Login Payload)
    (connType : AuthConnType) (typed : login.union.connType = connType) (limited : connType ≠ .remote)
    (inputs : List (Input Payload)) :
    ((machine build).run (authorize build start login) inputs).1.authedConnType = connType ∧
      ScopeKept build ((machine build).run (authorize build start login) inputs).1 := by
  have notRemote : login.union ≠ .none := by
    intro none
    rw [none] at typed
    exact limited typed.symm
  have reached : Limited login.union
      ((machine build).run (authorize build start login) inputs).1 :=
    limited_run notRemote inputs (limited_authorize start login notRemote)
  constructor
  · rw [authedConnType_eq, reached.login, typed]
  · exact scopeKept_of_limited notRemote reached

/-- A host with one display and one camera, and with nothing on its clipboard. -/
def hostWorld : World Unit where
  serverAlive := true
  violationAlarm := false
  violationClose := false
  sessionReconnected := false
  oneWayFileTransfer := false
  oneWayClipboard := false
  allowAutoDisconnect := false
  now := 0
  elapsed := 0
  sourceCount := fun _ => 1
  runningServices := []
  subbedDisplays := 1
  displayChanged := fun _ _ => none
  displayCount := some 1
  clipFiles :=
    { fileList := []
      firstFileIndex := none }
  fuseUrls := some []
  ownsClipboardFiles := false
  macosHandlesClip := false
  macosClipContext := false
  needFsCmSendFiles := false
  recursiveFiles := .ok ()
  readJob := .ok ()
  fileCountLimit := none
  privacySupported := false
  privacyOther := none
  turnOnPrivacy := none
  privacyError := ""
  inPrivacyMode := false
  turnOffPrivacy := none
  virtualDisplaySupported := false
  virtualDisplayError := none
  whiteboardSupported := true
  terminal := .ok none
  isInstalled := true
  portableRunning := false
  portableError := ""
  pluginResponse := ()
  currentSession := none
  isShareRdp := false
  connectionCount := 1
  sessions := []

def windowsRelease : Build where
  platform := .windows
  unixFileCopyPaste := false
  flutter := true
  pluginFramework := false
  versionNumber := fun major minor patch => major * 1000000 + minor * 1000 + patch * 10

def exampleLogin (union : LoginUnion) : Login Unit where
  union := union
  version := 1004020
  webClient := false
  webPermissionProfile := ""
  terminalUserToken := false
  displayIdx := 0
  option := none
  waitSessionIdConfirm := false
  dir := ((), false)

/-- A camera session that gets a message of another session and then a chat message. -/
theorem camera_session_confined :
    (exampleLogin .viewCamera).union.connType = .viewCamera ∧
      AuthConnType.viewCamera ≠ .remote ∧
      ScopeKept windowsRelease
        ((machine windowsRelease).run (authorize windowsRelease hostWorld (exampleLogin .viewCamera))
          [.message hostWorld (.fileAction .empty), .message hostWorld (.misc (.chatMessage ()))]).1 :=
  ⟨rfl, by decide,
    (limited_session_confined windowsRelease hostWorld (exampleLogin .viewCamera) .viewCamera rfl
      (by decide) _).2⟩

/-- A port forward admits a delay test and answers it, and a rejected message can raise an alarm in
a session that stays open. -/
theorem effects_outside_scope :
    (authorizedScopeViolation windowsRelease (.testDelay () true)
        (authorize windowsRelease hostWorld (exampleLogin .portForward)) = none ∧
      ¬ Within AuthConnType.portForward.areas
        (onMessage windowsRelease hostWorld (.testDelay () true)
          (authorize windowsRelease hostWorld (exampleLogin .portForward)))) ∧
    authorizedScopeViolation windowsRelease (.fileAction .empty)
        (authorize windowsRelease hostWorld (exampleLogin .viewCamera)) = some "file_action" ∧
      ∃ effect ∈ onMessage windowsRelease { hostWorld with violationAlarm := true }
          (.fileAction .empty)
          (authorize windowsRelease hostWorld (exampleLogin .viewCamera)),
        effect.area = .alarm := by
  refine ⟨⟨rfl, ?_⟩, rfl, .postScopeViolationAlarm "file_action", ?_, rfl⟩
  · intro within
    exact absurd (within (.send (.testDelay ())) (List.mem_singleton_self _)) List.not_mem_nil
  · exact List.mem_cons_of_mem _ (List.mem_singleton_self _)

end SubnetDesk.Connection
