/-
This file defines an authorized connection, the effects of its handlers, and what the handlers read of
the host.
-/

import SubnetDesk.Foundation.Handlers
import SubnetDesk.Foundation.Trimming
import SubnetDesk.Construction.Connection.Messages

namespace SubnetDesk

namespace Connection

open AsciiCase
open Clipboard (FileContentsMessage ClipFiles)

inductive Platform where
  | linux
  | macos
  | windows
  | android
  | ios
deriving DecidableEq

/-- What a build selects at compile time, with the library function that numbers versions. -/
structure Build where
  platform : Platform
  unixFileCopyPaste : Bool
  flutter : Bool
  pluginFramework : Bool
  versionNumber : Nat → Nat → Nat → Int

def Build.isWindows (build : Build) : Bool := build.platform = .windows

def Build.isMobile (build : Build) : Bool := build.platform = .android || build.platform = .ios

structure Permissions where
  keyboard : Bool
  clipboard : Bool
  audio : Bool
  file : Bool
  restart : Bool
  recording : Bool
  blockInput : Bool
  privacyMode : Bool
deriving DecidableEq

def webPermissionSet (profile : String) : Permissions :=
  let collaboration := eqIgnoreAsciiCase profile.toList "collaboration".toList
  let control := collaboration || !eqIgnoreAsciiCase profile.toList "view-only".toList
  { keyboard := control
    clipboard := collaboration
    audio := false
    file := false
    restart := false
    recording := false
    blockInput := false
    privacyMode := false }

/-- A session that is not of a web client has every permission. -/
def loginPermissions (webClient : Bool) (profile : String) : Permissions :=
  if webClient then webPermissionSet profile
  else
    { keyboard := true
      clipboard := true
      audio := true
      file := true
      restart := true
      recording := true
      blockInput := true
      privacyMode := true }

/-- The kind of session that a login asks for. -/
inductive LoginUnion where
  | none
  | fileTransfer
  | viewCamera
  | terminal
  | portForward
deriving DecidableEq

/-- The fields that the login sets for its kind of session. -/
structure SessionScope where
  fileTransfer : Bool := false
  viewCamera : Bool := false
  terminal : Bool := false
  portForward : Bool := false
deriving DecidableEq

def configureLanConnectionScope : LoginUnion → SessionScope
  | .none => {}
  | .fileTransfer => { fileTransfer := true }
  | .viewCamera => { viewCamera := true }
  | .terminal => { terminal := true }
  | .portForward => { portForward := true }

def SessionScope.authConnType (scope : SessionScope) : AuthConnType :=
  if scope.fileTransfer then .fileTransfer
  else if scope.portForward then .portForward
  else if scope.viewCamera then .viewCamera
  else if scope.terminal then .terminal
  else .remote

inductive VideoSource where
  | monitor
  | camera
deriving DecidableEq

inductive Service where
  | cursor
  | cursorPosition
  | windowFocus
  | audio
  | clipboard
  | fileClipboard
  | video (source : VideoSource) (display : Nat)
deriving DecidableEq

inductive MessageInput (Payload : Type) where
  | mouse (event : MouseEvent Payload) (simulate showCursor : Bool)
  | pointer (event : PointerDeviceEvent Payload)
  | key (event : KeyEvent Payload) (press : Bool)
  | blockOn
  | blockOff

/-- The file operations that the connection manager does for a connection. -/
inductive Fs (Payload : Type) where
  | readEmptyDirs (dir : Payload) (includeHidden : Bool)
  | readDir (dir : Payload) (includeHidden : Bool)
  | readAllFiles (id : Int) (path : Payload) (includeHidden : Bool)
  | readFile (id : Int) (path : Payload) (fileNum : Int) (includeHidden overwriteDetection : Bool)
  | newWrite (id : Int) (path : Payload) (fileNum : Int) (files : Payload) (overwriteDetection : Bool)
  | removeDir (id : Int) (path : Payload) (recursive : Bool)
  | removeFile (id : Int) (path : Payload) (fileNum : Int)
  | createDir (id : Int) (path : Payload)
  | cancelWrite (id : Int)
  | cancelRead (id : Int)
  | sendConfirmForRead (id : Int) (confirm : Payload)
  | sendConfirm (confirm : Payload)
  | rename (id : Int) (path newName : Payload)
  | writeBlock (block : Payload)
  | writeDone (done : Payload)
  | checkDigest (digest : Payload)
  | writeError (error : Payload)

inductive CmData (Payload : Type) where
  | fs (request : Fs Payload)
  | fileTransferLog (action : String) (id : Int)
  | clipboardFile (clip : Cliprdr Payload)
  | clipboardFileEnabled (enabled : Bool)
  | chatMessage (text : Payload)
  | voiceCallIncoming
  | closeVoiceCall
  | disconnected
  | close

inductive PrivacyModeState where
  | prvOnFailedDenied
  | prvNotSupported
  | prvOffSucceeded
  | prvOnSucceeded
  | prvOnFailed
  | prvOnFailedPlugin
  | prvOffFailed

/-- A message to the peer. The answer to a request for file contents stands beside its request. -/
inductive Reply (Payload : Type) where
  | testDelay (delay : Payload)
  | closeReason (reason : String)
  | fileError (id : Int) (error : String) (fileNum : Int)
  | fileDir (id : Int) (path files : Payload)
  | privacyMode (state : PrivacyModeState) (details : String) (implKey : Option Payload)
  | blockInputFailed (on : Bool) (details : String)
  | messageBox (title text : String)
  | displayChanged (source : VideoSource) (change : Payload)
  | terminalResponse (response : Payload)
  | terminalError (message : String)
  | elevationResponse (error : String)
  | plugin (response : Payload)
  | formatDataRequest (requestedFormatId : Int)
  | formatDataResponse (msgFlags : Int) (names : List String)
  | fileContentsResponse (request : FileContentsMessage) (msgFlags streamId : BitVec 32)
      (requestedData : List UInt8)

inductive QosChange where
  | networkDelay (delay : Nat)
  | imageQuality (quality : Int)
  | customFps (fps : Int)
  | autoAdjustFps (fps : Nat)
  | record (status : Bool)

/-- A change of a field of the connection. -/
inductive Write (Payload : Type) where
  | lockAfterSessionEnd (on : Bool)
  | showRemoteCursor (on : Bool)
  | followRemoteCursor (on : Bool)
  | followRemoteWindow (on : Bool)
  | multiUiSession (on : Bool)
  | disableAudio (on : Bool)
  | enableFileTransfer (on : Bool)
  | disableClipboard (on : Bool)
  | disableKeyboard (on : Bool)
  | showMyCursor (on : Bool)
  | displayIdx (display : Nat)
  | servicesSubed
  | autoDisconnectTimer (on : Bool)
  | chatUnanswered
  | fileTransferred
  | audioSender
  | voiceCallRequest (timestamp : Int)
  | voiceCallEnded
  | pressedModifiers (keys : List Nat)
  | delayedReadDir (dir : Option (Payload × Bool))
  | readJobIds (ids : List Int)
  | cmReadJobIds (ids : List Int)
  | terminalPersistent (on : Bool)
  | testDelayAnswered (delay : Nat)
  | scopeViolation (family : String)
  | closed
  | portForwardSocketTaken
  | left

inductive Effect (Payload : Type) where
  | set (write : Write Payload)
  | send (reply : Reply Payload)
  | toCm (data : CmData Payload)
  | input (input : MessageInput Payload)
  | inputTime (click : Bool)
  | mainServiceInput (event : Payload)
  | restartTimer
  | subscribe (service : Service) (on : Bool)
  | addVideoService (source : VideoSource) (display : Nat)
  | captureDisplays (source : VideoSource) (displays : List Nat) (included excluded : Bool)
  | addCameraConnection
  | addMonitorConnection (noperms : List Service) (display : Nat)
  | refreshVideo (display : Option (VideoSource × Nat))
  | takeScreenshot (source : VideoSource) (display : Nat) (sid : Payload)
  | videoFrameFetched
  | qos (change : QosChange)
  | updateEncoder (decoding : Payload)
  | updateTextClipboard (content : Payload)
  | updateFileClipboard (files : List String)
  | emptyFileClipboard
  | fuseFiles (formatData : Payload)
  | fuseContents (msgFlags streamId : Int) (requestedData : Payload)
  | serverClipFile (clip : Cliprdr Payload)
  | postFileAudit (files : Payload)
  | postSendAudit (files : List (String × BitVec 64))
  | startAudioThread (format : Payload)
  | playAudio (frame : Payload)
  | resetVoiceCallInput
  | turnOnPrivacy (implKey : Option Payload)
  | turnOffPrivacy
  | changeResolution (display : Nat) (resolution : Resolution)
  | plugVirtualDisplay (display : Int) (on : Bool)
  | reboot (force : Bool)
  | startPortableService (request : ElevationRequest Payload)
  | pluginEvent (request : Payload)
  | whiteboard (on : Bool)
  | terminalAction (action : Payload)
  | terminalPersistence (on : Bool)
  | connectToUserSession (sid : Nat)
  | confirmJob (id : Int) (confirm : Payload)
  | fileRemoveLog (id : Int) (path : Payload)
  | lockScreen
  | postScopeViolationAlarm (family : String)
  | removeSession

/-- What the handler of one message reads of the host: the settings, the displays, the clipboard, and
the results of the calls that it makes. -/
structure World (Payload : Type) where
  serverAlive : Bool
  violationAlarm : Bool
  violationClose : Bool
  sessionReconnected : Bool
  oneWayFileTransfer : Bool
  oneWayClipboard : Bool
  allowAutoDisconnect : Bool
  now : Int
  elapsed : Nat
  sourceCount : VideoSource → Nat
  runningServices : List Service
  subbedDisplays : Nat
  displayChanged : VideoSource → Nat → Option Payload
  displayCount : Option Nat
  clipFiles : ClipFiles
  fuseUrls : Option (List String)
  ownsClipboardFiles : Bool
  macosHandlesClip : Bool
  macosClipContext : Bool
  needFsCmSendFiles : Bool
  recursiveFiles : Except String Payload
  readJob : Except String Payload
  fileCountLimit : Option String
  privacySupported : Bool
  privacyOther : Option Payload
  turnOnPrivacy : Option (Except String Bool)
  privacyError : String
  inPrivacyMode : Bool
  turnOffPrivacy : Option (Except String Unit)
  virtualDisplaySupported : Bool
  virtualDisplayError : Option String
  whiteboardSupported : Bool
  terminal : Except String (Option Payload)
  isInstalled : Bool
  portableRunning : Bool
  portableError : String
  pluginResponse : Payload
  currentSession : Option Nat
  isShareRdp : Bool
  connectionCount : Nat
  sessions : List Nat

end Connection

/-- An authorized connection. The login fixes the scope for the life of the connection. -/
structure Connection (Payload : Type) where
  login : Connection.LoginUnion
  version : Int
  permissions : Connection.Permissions
  terminalUserToken : Bool
  portForwardTaken : Bool := false
  lockAfterSessionEnd : Bool := false
  showRemoteCursor : Bool := false
  followRemoteCursor : Bool := false
  followRemoteWindow : Bool := false
  multiUiSession : Bool := false
  disableAudio : Bool := false
  enableFileTransfer : Bool := false
  disableClipboard : Bool := false
  disableKeyboard : Bool := false
  showMyCursor : Bool := false
  displayIdx : Nat := 0
  servicesSubed : Bool := false
  autoDisconnectTimer : Bool := false
  chatUnanswered : Bool := false
  fileTransferred : Bool := false
  audioSender : Bool := false
  voiceCallRequestTimestamp : Option Int := none
  voiceCalling : Bool := false
  pressedModifiers : List Nat := []
  delayedReadDir : Option (Payload × Bool) := none
  readJobIds : List Int := []
  cmReadJobIds : List Int := []
  terminalPersistent : Bool := false
  testDelayPending : Bool := false
  networkDelay : Nat := 0
  scopeViolationMessages : List String := []
  closed : Bool := false
  left : Bool := false

namespace Connection

variable {Payload : Type}

def write (connection : Connection Payload) : Write Payload → Connection Payload
  | .lockAfterSessionEnd on => { connection with lockAfterSessionEnd := on }
  | .showRemoteCursor on => { connection with showRemoteCursor := on }
  | .followRemoteCursor on => { connection with followRemoteCursor := on }
  | .followRemoteWindow on => { connection with followRemoteWindow := on }
  | .multiUiSession on => { connection with multiUiSession := on }
  | .disableAudio on => { connection with disableAudio := on }
  | .enableFileTransfer on => { connection with enableFileTransfer := on }
  | .disableClipboard on => { connection with disableClipboard := on }
  | .disableKeyboard on => { connection with disableKeyboard := on }
  | .showMyCursor on => { connection with showMyCursor := on }
  | .displayIdx display => { connection with displayIdx := display }
  | .servicesSubed => { connection with servicesSubed := true }
  | .autoDisconnectTimer on => { connection with autoDisconnectTimer := on }
  | .chatUnanswered => { connection with chatUnanswered := true }
  | .fileTransferred => { connection with fileTransferred := true }
  | .audioSender => { connection with audioSender := true }
  | .voiceCallRequest timestamp => { connection with voiceCallRequestTimestamp := some timestamp }
  | .voiceCallEnded => { connection with voiceCalling := false }
  | .pressedModifiers keys => { connection with pressedModifiers := keys }
  | .delayedReadDir dir => { connection with delayedReadDir := dir }
  | .readJobIds ids => { connection with readJobIds := ids }
  | .cmReadJobIds ids => { connection with cmReadJobIds := ids }
  | .terminalPersistent on => { connection with terminalPersistent := on }
  | .testDelayAnswered delay => { connection with testDelayPending := false, networkDelay := delay }
  | .scopeViolation family =>
      { connection with scopeViolationMessages := connection.scopeViolationMessages.insert family }
  | .closed => { connection with closed := true }
  | .portForwardSocketTaken => { connection with portForwardTaken := true }
  | .left => { connection with left := true }

/-- The effects outside the connection do not change its fields. -/
instance effectSystem : EffectSystem (Connection Payload) (Effect Payload) where
  apply connection
    | .set write => connection.write write
    | _ => connection

def scope (connection : Connection Payload) : SessionScope :=
  configureLanConnectionScope connection.login

def authedConnType (connection : Connection Payload) : AuthConnType :=
  connection.scope.authConnType

/-- The socket of a port forward is there until the connection closes. -/
def portForwardSocket (connection : Connection Payload) : Bool :=
  connection.scope.portForward && !connection.portForwardTaken

def isRemote (connection : Connection Payload) : Bool :=
  !connection.scope.fileTransfer && !connection.portForwardSocket && !connection.scope.viewCamera
    && !connection.scope.terminal

def isAuthedRemoteConn (connection : Connection Payload) : Bool :=
  connection.authedConnType = .remote

def isAuthedViewCameraConn (connection : Connection Payload) : Bool :=
  connection.authedConnType = .viewCamera

def shouldHandleRenderBroadcastMessage (connection : Connection Payload) : Bool :=
  connection.authedConnType = .remote || connection.authedConnType = .viewCamera

def shouldHandleTextClipboardMessage (connection : Connection Payload) : Bool :=
  connection.authedConnType = .remote

def videoSource (connection : Connection Payload) : VideoSource :=
  if connection.scope.viewCamera then .camera else .monitor

def peerKeyboardEnabled (connection : Connection Payload) : Bool :=
  connection.permissions.keyboard && !connection.disableKeyboard

def clipboardEnabled (connection : Connection Payload) : Bool :=
  connection.permissions.clipboard && !connection.disableClipboard

def canSubClipboardService (world : World Payload) (connection : Connection Payload) : Bool :=
  connection.clipboardEnabled && connection.peerKeyboardEnabled && !world.oneWayClipboard

def audioEnabled (connection : Connection Payload) : Bool :=
  connection.permissions.audio && !connection.disableAudio

def fileTransferEnabled (connection : Connection Payload) : Bool :=
  connection.permissions.file && connection.enableFileTransfer

def canSubFileClipboardService (world : World Payload) (connection : Connection Payload) : Bool :=
  connection.clipboardEnabled && connection.fileTransferEnabled && !world.oneWayFileTransfer

end Connection

end SubnetDesk
