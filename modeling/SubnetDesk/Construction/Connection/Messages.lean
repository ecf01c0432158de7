/-
This file defines the messages that a peer sends to an authorized connection.
-/

import SubnetDesk.Construction.Clipboard.FileContents

namespace SubnetDesk.Connection

open Clipboard (FileContentsMessage)

inductive AuthConnType where
  | remote
  | fileTransfer
  | portForward
  | viewCamera
  | terminal
deriving DecidableEq

inductive BoolOption where
  | notSet
  | no
  | yes
deriving DecidableEq

/-- A field of a message is a number, and some numbers are not values of its enumeration. -/
def BoolOption.fromI32 (value : Int) : Option BoolOption :=
  if value = 0 then some .notSet
  else if value = 1 then some .no
  else if value = 2 then some .yes
  else none

inductive ImageQuality where
  | notSet
  | low
  | balanced
  | best
deriving DecidableEq

def ImageQuality.fromI32 (value : Int) : Option ImageQuality :=
  if value = 0 then some .notSet
  else if value = 2 then some .low
  else if value = 3 then some .balanced
  else if value = 4 then some .best
  else none

def ImageQuality.value : ImageQuality → Int
  | .notSet => 0
  | .low => 2
  | .balanced => 3
  | .best => 4

structure OptionMessage (Payload : Type) where
  imageQuality : Int := 0
  lockAfterSessionEnd : Int := 0
  showRemoteCursor : Int := 0
  privacyMode : Int := 0
  blockInput : Int := 0
  customImageQuality : Int := 0
  disableAudio : Int := 0
  disableClipboard : Int := 0
  enableFileTransfer : Int := 0
  supportedDecoding : Option Payload := none
  customFps : Int := 0
  disableKeyboard : Int := 0
  followRemoteCursor : Int := 0
  followRemoteWindow : Int := 0
  disableCamera : Int := 0
  terminalPersistent : Int := 0
  showMyCursor : Int := 0

/-- The handler reads the button state of the mask. -/
structure MouseEvent (Payload : Type) where
  isLeftUp : Bool
  event : Payload

/-- The handler reads the press flags, the modifier key of the code, and the kind of the key. -/
structure KeyEvent (Payload : Type) where
  down : Bool
  press : Bool
  isEnter : Bool
  isModifier : Bool
  modifierKey : Option Nat
  isText : Bool
  event : Payload

/-- A touch event of a phone has a kind, and other pointer events have none. -/
structure PointerDeviceEvent (Payload : Type) where
  touch : Option Nat
  event : Payload

inductive Cliprdr (Payload : Type) where
  | ready
  | formatList (formats : List (Int × String))
  | formatListResponse (msgFlags : Int)
  | formatDataRequest (requestedFormatId : Int)
  | formatDataResponse (msgFlags : Int) (formatData : Payload)
  | fileContentsRequest (request : FileContentsMessage)
  | fileContentsResponse (msgFlags streamId : Int) (requestedData : Payload)
  | tryEmpty
  | files (files : Payload)
  | empty

inductive FileAction (Payload : Type) where
  | readDir (path : Payload) (includeHidden : Bool)
  | send (id : Int) (path : Payload) (printer : Bool) (fileNum : Int) (includeHidden : Bool)
  | receive (id : Int) (path : Payload) (fileNum : Int) (files : Payload)
  | create (id : Int) (path : Payload)
  | removeDir (id : Int) (path : Payload) (recursive : Bool)
  | removeFile (id : Int) (path : Payload) (fileNum : Int)
  | allFiles (id : Int) (path : Payload) (includeHidden : Bool)
  | cancel (id : Int)
  | sendConfirm (id : Int) (confirm : Payload)
  | rename (id : Int) (path newName : Payload)
  | readEmptyDirs (path : Payload) (includeHidden : Bool)
  | empty

inductive FileResponse (Payload : Type) where
  | dir (directory : Payload)
  | block (block : Payload)
  | error (error : Payload)
  | done (done : Payload)
  | digest (digest : Payload)
  | emptyDirs (response : Payload)
  | empty

structure Resolution where
  width : Int
  height : Int

inductive ElevationRequest (Payload : Type) where
  | direct
  | logon (credentials : Payload)
  | empty

/-- The variants that no handler and no scope check names are other ones. -/
inductive Misc (Payload : Type) where
  | chatMessage (text : Payload)
  | switchDisplay (display : Nat) (resolution : Resolution)
  | option (option : OptionMessage Payload)
  | audioFormat (format : Payload)
  | closeReason (reason : Payload)
  | refreshVideo (refresh : Bool)
  | videoReceived
  | restartRemoteDevice
  | elevationRequest (request : ElevationRequest Payload)
  | switchSidesRequest
  | changeResolution (resolution : Resolution)
  | pluginRequest (request : Payload)
  | autoAdjustFps (fps : Nat)
  | clientRecordStatus (status : Bool)
  | captureDisplays (add sub set : List Nat)
  | refreshVideoDisplay (display : Nat)
  | toggleVirtualDisplay (display : Int) (on : Bool)
  | togglePrivacyMode (implKey : Payload) (on : Bool)
  | selectedSid (sid : Nat)
  | changeDisplayResolution (display : Nat) (resolution : Resolution)
  | messageQuery (switchDisplay : Nat)
  | followCurrentDisplay
  | other
  | empty

inductive Message (Payload : Type) where
  | testDelay (delay : Payload) (fromClient : Bool)
  | loginRequest (request : Payload)
  | mouseEvent (event : MouseEvent Payload)
  | audioFrame (frame : Payload)
  | pointerDeviceEvent (event : PointerDeviceEvent Payload)
  | keyEvent (event : KeyEvent Payload)
  | clipboard (clipboard : Payload)
  | multiClipboards (clipboards : Payload)
  | cliprdr (clip : Cliprdr Payload)
  | fileAction (action : FileAction Payload)
  | fileResponse (response : FileResponse Payload)
  | misc (misc : Misc Payload)
  | voiceCallRequest (reqTimestamp : Int) (isConnect : Bool)
  | voiceCallResponse
  | screenshotRequest (display : Nat) (sid : Payload)
  | screenshotResponse
  | terminalAction (action : Payload)
  | terminalResponse
  | other
  | empty

section Classifiers

variable {Payload : Type}

def isBoolOptionNotSet (option : Int) : Bool :=
  BoolOption.fromI32 option = some .notSet

def Misc.family : Misc Payload → String
  | .chatMessage _ => "misc.chat_message"
  | .switchDisplay _ _ => "misc.switch_display"
  | .option _ => "misc.option"
  | .audioFormat _ => "misc.audio_format"
  | .captureDisplays _ _ _ => "misc.capture_displays"
  | .clientRecordStatus _ => "misc.client_record_status"
  | .togglePrivacyMode _ _ => "misc.toggle_privacy_mode"
  | .toggleVirtualDisplay _ _ => "misc.toggle_virtual_display"
  | .selectedSid _ => "misc.selected_sid"
  | .changeResolution _ => "misc.change_resolution"
  | .changeDisplayResolution _ _ => "misc.change_display_resolution"
  | .messageQuery _ => "misc.message_query"
  | .followCurrentDisplay => "misc.follow_current_display"
  | .switchSidesRequest => "misc.switch_sides_request"
  | .empty => "misc.empty"
  | _ => "misc.other"

def Message.family : Message Payload → String
  | .mouseEvent _ => "mouse_event"
  | .audioFrame _ => "audio_frame"
  | .pointerDeviceEvent _ => "pointer_device_event"
  | .keyEvent _ => "key_event"
  | .clipboard _ => "clipboard"
  | .fileAction _ => "file_action"
  | .fileResponse _ => "file_response"
  | .voiceCallRequest _ _ => "voice_call_request"
  | .voiceCallResponse => "voice_call_response"
  | .multiClipboards _ => "multi_clipboards"
  | .screenshotRequest _ _ => "screenshot_request"
  | .screenshotResponse => "screenshot_response"
  | .terminalAction _ => "terminal_action"
  | .terminalResponse => "terminal_response"
  | .misc content => content.family
  | .empty => "empty"
  | _ => "message.other"

namespace OptionMessage

def hasNonViewCameraLoginField (option : OptionMessage Payload) : Bool :=
  !(isBoolOptionNotSet option.lockAfterSessionEnd
    && isBoolOptionNotSet option.showRemoteCursor
    && isBoolOptionNotSet option.privacyMode
    && isBoolOptionNotSet option.blockInput
    && isBoolOptionNotSet option.disableClipboard
    && isBoolOptionNotSet option.enableFileTransfer
    && isBoolOptionNotSet option.disableKeyboard
    && isBoolOptionNotSet option.followRemoteCursor
    && isBoolOptionNotSet option.followRemoteWindow
    && isBoolOptionNotSet option.disableCamera
    && isBoolOptionNotSet option.terminalPersistent
    && isBoolOptionNotSet option.showMyCursor)

def hasNonTerminalLoginField (option : OptionMessage Payload) : Bool :=
  ImageQuality.fromI32 option.imageQuality ≠ some .notSet
    || option.customImageQuality ≠ 0
    || option.customFps ≠ 0
    || option.supportedDecoding.isSome
    || !isBoolOptionNotSet option.lockAfterSessionEnd
    || !isBoolOptionNotSet option.showRemoteCursor
    || !isBoolOptionNotSet option.privacyMode
    || !isBoolOptionNotSet option.blockInput
    || !isBoolOptionNotSet option.disableAudio
    || !isBoolOptionNotSet option.disableClipboard
    || !isBoolOptionNotSet option.enableFileTransfer
    || !isBoolOptionNotSet option.disableKeyboard
    || !isBoolOptionNotSet option.followRemoteCursor
    || !isBoolOptionNotSet option.followRemoteWindow
    || !isBoolOptionNotSet option.disableCamera
    || !isBoolOptionNotSet option.showMyCursor

def hasAnyField (option : OptionMessage Payload) : Bool :=
  option.hasNonTerminalLoginField || !isBoolOptionNotSet option.terminalPersistent

def isSupportedDecodingOnly (option : OptionMessage Payload) : Bool :=
  option.supportedDecoding.isSome
    && ImageQuality.fromI32 option.imageQuality = some .notSet
    && option.customImageQuality = 0
    && option.customFps = 0
    && isBoolOptionNotSet option.lockAfterSessionEnd
    && isBoolOptionNotSet option.showRemoteCursor
    && isBoolOptionNotSet option.privacyMode
    && isBoolOptionNotSet option.blockInput
    && isBoolOptionNotSet option.disableAudio
    && isBoolOptionNotSet option.disableClipboard
    && isBoolOptionNotSet option.enableFileTransfer
    && isBoolOptionNotSet option.disableKeyboard
    && isBoolOptionNotSet option.followRemoteCursor
    && isBoolOptionNotSet option.followRemoteWindow
    && isBoolOptionNotSet option.disableCamera
    && isBoolOptionNotSet option.terminalPersistent
    && isBoolOptionNotSet option.showMyCursor

/-- A value that is not of the enumeration, and a negative number, are left out. -/
def viewCameraCopy (option : OptionMessage Payload) : OptionMessage Payload where
  imageQuality := if (ImageQuality.fromI32 option.imageQuality).isSome then option.imageQuality else 0
  customImageQuality := if 0 ≤ option.customImageQuality then option.customImageQuality else 0
  customFps := if 0 ≤ option.customFps then option.customFps else 0
  supportedDecoding := option.supportedDecoding
  disableAudio := if (BoolOption.fromI32 option.disableAudio).isSome then option.disableAudio else 0

def scopedViewCamera (option : OptionMessage Payload) : Option (OptionMessage Payload) × Bool :=
  (if option.viewCameraCopy.hasAnyField then some option.viewCameraCopy else none,
    option.hasNonViewCameraLoginField)

def terminalCopy (option : OptionMessage Payload) : OptionMessage Payload where
  terminalPersistent :=
    if (BoolOption.fromI32 option.terminalPersistent).isSome then option.terminalPersistent else 0

def scopedTerminal (option : OptionMessage Payload) : Option (OptionMessage Payload) × Bool :=
  (if option.terminalCopy.hasAnyField then some option.terminalCopy else none,
    (BoolOption.fromI32 option.terminalPersistent).isNone || option.hasNonTerminalLoginField)

/-- The part of the options at login that a connection type accepts. -/
def scopedLogin (option : OptionMessage Payload) : AuthConnType → Option (OptionMessage Payload)
  | .remote => some option
  | .viewCamera => option.scopedViewCamera.1
  | .terminal => option.scopedTerminal.1
  | .fileTransfer => none
  | .portForward => none

end OptionMessage

namespace Message

def isRenderBroadcastNoopCompat : Message Payload → Bool
  | .misc (.refreshVideo _) => true
  | .misc (.refreshVideoDisplay _) => true
  | .misc (.option option) => option.isSupportedDecodingOnly
  | _ => false

def isTextClipboardNoopCompat : Message Payload → Bool
  | .clipboard _ => true
  | .multiClipboards _ => true
  | _ => false

def isConnectionHousekeeping : Message Payload → Bool
  | .loginRequest _ => true
  | .testDelay _ _ => true
  | .misc (.closeReason _) => true
  | _ => false

def isFileTransferScoped (windows : Bool) : Message Payload → Bool
  | .fileAction _ => true
  | .fileResponse _ => true
  | .misc (.selectedSid _) => windows
  | _ => false

def isTerminalScoped : Message Payload → Bool
  | .terminalAction _ => true
  | .misc (.chatMessage _) => true
  | .misc (.option option) => !option.scopedTerminal.2
  | _ => false

def isViewCameraScoped (windows : Bool) : Message Payload → Bool
  | .screenshotRequest _ _ => true
  | .misc (.switchDisplay _ _) => true
  | .misc (.captureDisplays _ _ _) => true
  | .misc (.refreshVideo _) => true
  | .misc (.refreshVideoDisplay _) => true
  | .misc .videoReceived => true
  | .misc (.chatMessage _) => true
  | .misc (.audioFormat _) => true
  | .misc (.clientRecordStatus _) => true
  | .misc (.messageQuery _) => true
  | .misc (.togglePrivacyMode _ _) => true
  | .misc (.toggleVirtualDisplay _ _) => true
  | .misc (.changeResolution _) => true
  | .misc (.changeDisplayResolution _ _) => true
  | .misc (.option option) => !option.scopedViewCamera.2
  | .misc (.selectedSid _) => windows
  | .mouseEvent _ => true
  | .pointerDeviceEvent _ => true
  | .keyEvent _ => true
  | .audioFrame _ => true
  | .voiceCallRequest _ _ => true
  | .voiceCallResponse => true
  | _ => false

def isNoopCompat (message : Message Payload) : AuthConnType → Bool
  | .fileTransfer => message.isRenderBroadcastNoopCompat || message.isTextClipboardNoopCompat
  | .terminal => message.isRenderBroadcastNoopCompat || message.isTextClipboardNoopCompat
  | .portForward => message.isRenderBroadcastNoopCompat
  | .viewCamera => message.isTextClipboardNoopCompat
  | .remote => false

def isAllowed (windows : Bool) (message : Message Payload) : AuthConnType → Bool
  | .remote => true
  | .fileTransfer => message.isFileTransferScoped windows
  | .portForward => false
  | .viewCamera => message.isViewCameraScoped windows
  | .terminal => message.isTerminalScoped

/-- A message that is not admitted is named by its family. -/
def authorizedMessageScopeViolation (windows : Bool) (connType : AuthConnType)
    (message : Message Payload) : Option String :=
  if message.isConnectionHousekeeping || message.isNoopCompat connType
      || message.isAllowed windows connType then none
  else some message.family

end Message

end Classifiers

end SubnetDesk.Connection
