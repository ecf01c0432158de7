/-
This file defines how a connection applies an option message, field by field.
-/

import SubnetDesk.Construction.Connection.State

namespace SubnetDesk.Connection

open Handler

variable {Payload : Type} (build : Build) (world : World Payload)

/-- A handler of a connection. -/
abbrev Handling (Payload : Type) := Handler (Connection Payload) (Effect Payload)

def withServer (effects : List (Effect Payload)) : List (Effect Payload) :=
  if world.serverAlive then effects else []

/-- A field that is not set, or has no known value, does nothing. -/
def whenSet (value : Int) (stage : Bool → Handling Payload) : Handling Payload := fun connection =>
  match BoolOption.fromI32 value with
  | some .yes => stage true connection
  | some .no => stage false connection
  | _ => []

def onDesktop (handler : Handling Payload) : Handling Payload := fun connection =>
  if build.isMobile then [] else handler connection

def Build.isPrivacyModeSupported : Bool :=
  match build.platform with
  | .windows => world.privacySupported
  | .macos => true
  | _ => false

def privacyUnsupported : String :=
  "Unsupported. 1 Multi-screen is not supported. 2 Please confirm the license is activated."

def turnOnPrivacy (implKey : Option Payload) : Handling Payload := fun connection =>
  if !connection.isAuthedRemoteConn || !connection.permissions.privacyMode then
    [.send (.privacyMode .prvOnFailedDenied "" implKey)]
  else if !build.isPrivacyModeSupported world then
    [.send (.privacyMode .prvNotSupported privacyUnsupported implKey)]
  else
    List.flatten [
      match world.privacyOther with
      | some other => [.send (.privacyMode .prvOffSucceeded "" (some other))]
      | none => [],
      [.turnOnPrivacy implKey],
      match world.turnOnPrivacy with
      | some (.ok true) =>
          if world.privacyError = "" then [.send (.privacyMode .prvOnSucceeded "" implKey)]
          else [.turnOffPrivacy, .send (.privacyMode .prvOnFailed world.privacyError implKey)]
      | some (.ok false) => [.send (.privacyMode .prvOnFailedPlugin "" implKey)]
      | some (.error error) =>
          if world.inPrivacyMode then
            [.turnOffPrivacy, .send (.privacyMode .prvOnFailed error implKey)]
          else [.send (.privacyMode .prvOnFailed error implKey)]
      | none => [.send (.privacyMode .prvOffFailed "Not supported" implKey)]]

def turnOffPrivacy (implKey : Option Payload) : Handling Payload := fun _ =>
  if !build.isPrivacyModeSupported world then
    [.send (.privacyMode .prvNotSupported privacyUnsupported implKey)]
  else
    [.turnOffPrivacy,
      match world.turnOffPrivacy with
      | some (.ok _) => .send (.privacyMode .prvOffSucceeded "" implKey)
      | some (.error error) => .send (.privacyMode .prvOffFailed error implKey)
      | none => .send (.privacyMode .prvOffFailed "Not supported" implKey)]

/-- On Linux the clipboard is emptied only where it has files of this connection. -/
def tryEmptyFileClipboard : List (Effect Payload) :=
  if build.platform = .macos || world.ownsClipboardFiles then [.emptyFileClipboard] else []

def subscribeCursor (world : World Payload) : Handling Payload := fun connection =>
  withServer world [.subscribe .cursor (connection.peerKeyboardEnabled || connection.showRemoteCursor)]

def subscribeClipboard (world : World Payload) : Handling Payload := fun connection =>
  withServer world [.subscribe .clipboard (connection.canSubClipboardService world)]

def subscribeFileClipboard : Handling Payload := fun connection =>
  if build.unixFileCopyPaste then
    withServer world [.subscribe .fileClipboard (connection.canSubFileClipboardService world)]
  else []

section Fields

variable (option : OptionMessage Payload)

def updateImageQuality : Handling Payload := fun _ =>
  match ImageQuality.fromI32 option.imageQuality with
  | none => []
  | some quality =>
      let value :=
        if quality = .notSet then
          if 0 < option.customImageQuality then option.customImageQuality else -1
        else quality.value
      if 0 < value then [.qos (.imageQuality value)] else []

def updateCustomFps : Handling Payload := fun _ =>
  if 0 < option.customFps then [.qos (.customFps option.customFps)] else []

def updateSupportedDecoding : Handling Payload := fun _ =>
  match option.supportedDecoding with
  | some decoding => [.updateEncoder decoding]
  | none => []

def updateLockAfterSessionEnd : Handling Payload :=
  whenSet option.lockAfterSessionEnd fun on _ => [.set (.lockAfterSessionEnd on)]

def updateShowRemoteCursor : Handling Payload :=
  onDesktop build <| whenSet option.showRemoteCursor fun on =>
    stages [fun _ => [.set (.showRemoteCursor on)], subscribeCursor world,
      fun connection =>
        withServer world [.subscribe .cursorPosition connection.showRemoteCursor]]

def updateFollowRemoteCursor : Handling Payload :=
  onDesktop build <| whenSet option.followRemoteCursor fun on _ => [.set (.followRemoteCursor on)]

def updateFollowRemoteWindow : Handling Payload :=
  whenSet option.followRemoteWindow fun on =>
    stages [fun _ => [.set (.followRemoteWindow on)],
      fun connection =>
        withServer world [.subscribe .windowFocus connection.followRemoteWindow]]

def updateDisableAudio : Handling Payload :=
  whenSet option.disableAudio fun on =>
    stages [fun _ => [.set (.disableAudio on)],
      fun connection =>
        withServer world <|
          if connection.isAuthedViewCameraConn then
            if connection.voiceCalling || !connection.audioEnabled then
              [.subscribe .audio connection.audioEnabled]
            else []
          else [.subscribe .audio connection.audioEnabled]]

def updateEnableFileTransfer : Handling Payload := fun connection =>
  if build.isWindows || build.unixFileCopyPaste then
    whenSet option.enableFileTransfer (fun on =>
      stages [fun _ => [.set (.enableFileTransfer on)],
        fun connection =>
          if build.isWindows then [.toCm (.clipboardFileEnabled connection.fileTransferEnabled)]
          else [],
        fun connection =>
          if build.unixFileCopyPaste && !connection.enableFileTransfer then
            tryEmptyFileClipboard build world
          else [],
        subscribeFileClipboard build world]) connection
  else []

def updateDisableClipboard : Handling Payload :=
  whenSet option.disableClipboard fun on =>
    stages [fun _ => [.set (.disableClipboard on)], subscribeClipboard world]

def updateDisableKeyboard : Handling Payload :=
  whenSet option.disableKeyboard fun on =>
    stages [fun _ => [.set (.disableKeyboard on)], subscribeClipboard world,
      subscribeFileClipboard build world, subscribeCursor world]

/-- The field is for versions below 1.2.4. -/
def updatePrivacyMode : Handling Payload := fun connection =>
  if connection.version < build.versionNumber 1 2 4 ∧ connection.permissions.keyboard = true then
    match BoolOption.fromI32 option.privacyMode with
    | some .yes => turnOnPrivacy build world none connection
    | some .no => turnOffPrivacy build world none connection
    | _ => []
  else []

def updateBlockInput : Handling Payload :=
  whenSet option.blockInput fun on connection =>
    if connection.permissions.keyboard && connection.permissions.blockInput then
      [.input (if on then .blockOn else .blockOff)]
    else [.send (.blockInputFailed on "No permission")]

def updateTerminalPersistence : Handling Payload :=
  onDesktop build <| whenSet option.terminalPersistent fun on _ =>
    [.set (.terminalPersistent on), .terminalPersistence on]

def whiteboardUnsupported : String :=
  if build.isWindows && !world.whiteboardSupported then "Windows 10 or greater is required."
  else if build.platform = .linux && !world.whiteboardSupported then
    "This feature is not supported on native Wayland, please install XWayland or switch to X11."
  else ""

def updateShowMyCursor : Handling Payload :=
  onDesktop build <| whenSet option.showMyCursor fun on _ =>
    .set (.showMyCursor on) ::
      if whiteboardUnsupported build world = "" then [.whiteboard on]
      else if on then
        [.send (.messageBox "Show my cursor" (whiteboardUnsupported build world))]
      else []

def updateOptions : Handling Payload :=
  stages [
    updateImageQuality option,
    updateCustomFps option,
    updateSupportedDecoding option,
    updateLockAfterSessionEnd option,
    updateShowRemoteCursor build world option,
    updateFollowRemoteCursor build option,
    updateFollowRemoteWindow world option,
    updateDisableAudio world option,
    updateEnableFileTransfer build world option,
    updateDisableClipboard world option,
    updateDisableKeyboard build world option,
    updatePrivacyMode build world option,
    updateBlockInput option,
    updateTerminalPersistence build option,
    updateShowMyCursor build world option]

end Fields

end SubnetDesk.Connection
