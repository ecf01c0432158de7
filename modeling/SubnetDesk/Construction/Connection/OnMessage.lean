/-
This file defines how an authorized connection handles the messages of its peer.
-/

import SubnetDesk.Foundation.Machine
import SubnetDesk.Construction.Connection.UpdateOptions

namespace SubnetDesk.Connection

open Handler
open Clipboard (FileContentsMessage CliprdrError)

variable {Payload : Type} (build : Build) (world : World Payload)

/-- The timer runs only in a session that watches for inactivity. -/
def updateAutoDisconnectTimer : Handling Payload := fun connection =>
  if connection.autoDisconnectTimer then [.restartTimer] else []

def onClose (lock : Bool) : Handling Payload := fun connection =>
  if connection.closed then []
  else
    List.flatten [
      [.set .closed, .resetVoiceCallInput],
      if lock && connection.lockAfterSessionEnd && connection.permissions.keyboard
          && !world.sessionReconnected && !build.isMobile then [.lockScreen]
        else [],
      [.toCm
          (if !build.isMobile
              && (connection.chatUnanswered || connection.fileTransferred && build.flutter) then
            .disconnected
          else .close),
        .set .portForwardSocketTaken]]

/-- The first message of a family raises the alarm, where the settings ask for it. -/
def handleAuthorizedScopeViolation (family : String) : Handling Payload := fun connection =>
  List.flatten [
    [.set (.scopeViolation family)],
    if family ∉ connection.scopeViolationMessages ∧ world.violationAlarm = true then
        [.postScopeViolationAlarm family]
      else [],
    if world.violationClose then
        List.flatten [
          [.send (.closeReason "Connection not allowed"), .removeSession],
          onClose build world true connection,
          [.set .left]]
      else []]

def handleTestDelay (delay : Payload) (fromClient : Bool) : Handling Payload := fun connection =>
  if fromClient then [.send (.testDelay delay)]
  else if connection.testDelayPending then
    [.set (.testDelayAnswered world.elapsed), .qos (.networkDelay world.elapsed)]
  else []

def handleMouseEvent (event : MouseEvent Payload) : Handling Payload := fun connection =>
  if connection.isAuthedViewCameraConn then []
  else
    List.flatten [
      if build.isMobile then [.mainServiceInput event.event]
        else if connection.peerKeyboardEnabled then
          [.inputTime event.isLeftUp, .input (.mouse event true connection.showMyCursor)]
        else if connection.showMyCursor then [.input (.mouse event false true)]
        else [],
      updateAutoDisconnectTimer connection]

def handlePointerDeviceEvent (event : PointerDeviceEvent Payload) : Handling Payload :=
  fun connection =>
    if connection.isAuthedViewCameraConn then []
    else
      List.flatten [
        if build.isMobile then
            if event.touch.isSome then [.mainServiceInput event.event] else []
          else if connection.peerKeyboardEnabled then [.inputTime false, .input (.pointer event)]
          else [],
        updateAutoDisconnectTimer connection]

/-- A modifier is never a press where every key that goes down counts as one. -/
def KeyEvent.isPress (event : KeyEvent Payload) : Bool :=
  if build.platform = .linux || build.platform = .android then
    (event.press || event.down) && !(event.isModifier || event.modifierKey.isSome)
  else event.press

def updatePressedModifiers (event : KeyEvent Payload) : Handling Payload := fun connection =>
  match event.modifierKey with
  | none => []
  | some key =>
      [.set (.pressedModifiers
        (if event.isPress build then connection.pressedModifiers.insert key
        else connection.pressedModifiers.erase key))]

def handleKeyEvent (event : KeyEvent Payload) : Handling Payload := fun connection =>
  if build.platform = .ios then []
  else if connection.isAuthedViewCameraConn then []
  else if build.platform = .android then
    updatePressedModifiers build event connection ++ [.mainServiceInput event.event]
  else
    List.flatten [
      if connection.peerKeyboardEnabled then
          List.flatten [
            if event.isEnter then [.inputTime true] else [],
            [.inputTime false],
            updatePressedModifiers build event connection,
            [.input (.key event (event.isPress build && !event.isText))]]
        else [],
      updateAutoDisconnectTimer connection]

def handleClipboard (content : Payload) : Handling Payload := fun connection =>
  if connection.shouldHandleTextClipboardMessage && connection.clipboardEnabled then
    [.updateTextClipboard content]
  else []

def handleMultiClipboards (content : Payload) : Handling Payload := fun connection =>
  if connection.shouldHandleTextClipboardMessage && connection.clipboardEnabled
      && build.platform ≠ .ios then
    [.updateTextClipboard content]
  else []

/-- A list of files is recorded, and every other answer goes to the peer. -/
def clipReply (request : FileContentsMessage) :
    Except CliprdrError Clipboard.ClipboardFile → Effect Payload
  | .ok (.files files) => .postSendAudit files
  | .ok (.fileContentsResponse msgFlags streamId data) =>
      .send (.fileContentsResponse request msgFlags streamId data)
  | .error _ => .send (.fileContentsResponse request 2 request.streamId [])

def serveClipMessages : Cliprdr Payload → List (Effect Payload)
  | .formatList formats =>
      if formats.any (fun format => format.2 = "FileContents") then
        match formats.find? (fun format => format.2 = "FileGroupDescriptorW") with
        | some format => [.send (.formatDataRequest format.1)]
        | none => []
      else []
  | .formatDataRequest _ =>
      if world.clipFiles.fileList = [] then [.send (.formatDataResponse 2 [])]
      else [.send (.formatDataResponse 1 (world.clipFiles.fileList.map fun file => file.path))]
  | .formatDataResponse msgFlags formatData =>
      if build.platform = .linux ∧ msgFlags = 1 then
        match world.fuseUrls with
        | none => []
        | some [] => [.fuseFiles formatData]
        | some urls => [.fuseFiles formatData, .updateFileClipboard urls]
      else []
  | .fileContentsRequest request =>
      (world.clipFiles.readFileContents request).1.map (clipReply request)
  | .fileContentsResponse msgFlags streamId data =>
      if build.platform = .linux then [.fuseContents msgFlags streamId data] else []
  | .tryEmpty => tryEmptyFileClipboard build world
  | _ => []

def handleCliprdr (clip : Cliprdr Payload) : Handling Payload := fun connection =>
  match clip with
  | .files files =>
      if build.isWindows || build.unixFileCopyPaste then [.postFileAudit files] else []
  | .empty => []
  | clip =>
      (if build.isWindows then [.toCm (.clipboardFile clip)] else [])
      ++ (if build.unixFileCopyPaste && build.versionNumber 1 3 8 ≤ connection.version then
          if build.platform = .macos && world.macosHandlesClip then
            if world.macosClipContext then [.serverClipFile clip] else []
          else serveClipMessages build world clip
        else [])

/-- The jobs that are refused where files go one way only. -/
def FileAction.oneWayJobId : FileAction Payload → Option Int
  | .send id _ _ _ _ => some id
  | .removeFile id _ _ => some id
  | .rename id _ _ => some id
  | .create id _ => some id
  | .removeDir id _ _ => some id
  | _ => none

def createAndStartReadJob (id : Int) (path : Payload) : Handling Payload := fun connection =>
  match world.readJob with
  | .error error => [.send (.fileError id error 0)]
  | .ok files =>
      match world.fileCountLimit with
      | some error => [.send (.fileError id error (-1))]
      | none =>
          [.send (.fileDir id path files), .set (.readJobIds (connection.readJobIds ++ [id])),
            .postFileAudit files]

def startFileAction (action : FileAction Payload) : Handling Payload := fun connection =>
  let overwriteDetection : Bool := build.versionNumber 1 1 10 ≤ connection.version
  match action with
  | .readEmptyDirs path includeHidden => [.toCm (.fs (.readEmptyDirs path includeHidden))]
  | .readDir path includeHidden => [.toCm (.fs (.readDir path includeHidden))]
  | .allFiles id path includeHidden =>
      if world.needFsCmSendFiles then [.toCm (.fs (.readAllFiles id path includeHidden))]
      else
        match world.recursiveFiles with
        | .error error => [.send (.fileError id error (-1))]
        | .ok files =>
            match world.fileCountLimit with
            | some error => [.send (.fileError id error (-1))]
            | none => [.send (.fileDir id path files)]
  | .send id path _ fileNum includeHidden =>
      (if world.needFsCmSendFiles then
          [.set (.cmReadJobIds (connection.cmReadJobIds.insert id)),
            .toCm (.fs (.readFile id path fileNum includeHidden overwriteDetection))]
        else createAndStartReadJob world id path connection)
      ++ [.set .fileTransferred]
  | .receive id path fileNum files =>
      [.toCm (.fs (.newWrite id path fileNum files overwriteDetection)), .postFileAudit files,
        .set .fileTransferred]
  | .removeDir id path recursive =>
      [.toCm (.fs (.removeDir id path recursive)), .fileRemoveLog id path]
  | .removeFile id path fileNum =>
      [.toCm (.fs (.removeFile id path fileNum)), .fileRemoveLog id path]
  | .create id path => [.toCm (.fs (.createDir id path)), .toCm (.fileTransferLog "create_dir" id)]
  | .cancel id =>
      [.toCm (.fs (.cancelWrite id)), .set (.cmReadJobIds (connection.cmReadJobIds.erase id)),
        .toCm (.fs (.cancelRead id))]
      ++ (if id ∈ connection.readJobIds then
          [.set (.readJobIds (connection.readJobIds.erase id)), .toCm (.fileTransferLog "transfer" id)]
        else [])
  | .sendConfirm id confirm =>
      if id ∈ connection.readJobIds then [.confirmJob id confirm]
      else if id ∈ connection.cmReadJobIds then [.toCm (.fs (.sendConfirmForRead id confirm))]
      else [.toCm (.fs (.sendConfirm confirm))]
  | .rename id path newName =>
      [.toCm (.fs (.rename id path newName)), .toCm (.fileTransferLog "rename" id)]
  | .empty => []

def handleFileAction (action : FileAction Payload) : Handling Payload := fun connection =>
  match action with
  | .send _ _ true _ _ => []
  | action =>
      if connection.scope.fileTransfer then
        if connection.delayedReadDir.isSome then
          match action with
          | .readDir path includeHidden => [.set (.delayedReadDir (some (path, includeHidden)))]
          | _ => []
        else
          match if world.oneWayFileTransfer then action.oneWayJobId else none with
          | some id => [.send (.fileError id "one-way-file-transfer-tip" 0)]
          | none => startFileAction build world action connection
      else []

def handleFileResponse : FileResponse Payload → List (Effect Payload)
  | .block block => [.toCm (.fs (.writeBlock block))]
  | .done done => [.toCm (.fs (.writeDone done))]
  | .digest digest => [.toCm (.fs (.checkDigest digest))]
  | .error error => [.toCm (.fs (.writeError error))]
  | _ => []

def refreshVideoDisplay (display : Option Nat) : Handling Payload := fun connection =>
  withServer world [.refreshVideo (display.map fun display => (connection.videoSource, display))]

def changeResolution (display : Option Nat) (resolution : Resolution) : Handling Payload :=
  fun connection =>
    if connection.permissions.keyboard && !build.isMobile then
      match world.displayCount with
      | none => []
      | some count =>
          if display.getD connection.displayIdx < count then
            [.changeResolution (display.getD connection.displayIdx) resolution]
          else []
    else []

def sendDisplayChanged (display : Nat) : Handling Payload := fun connection =>
  match world.displayChanged connection.videoSource display with
  | some change => [.send (.displayChanged connection.videoSource change)]
  | none => []

/-- The peers below 1.2.1 show one display only. -/
def switchDisplayTo (display : Nat) : Handling Payload := fun connection =>
  List.flatten [
    if Service.video connection.videoSource display ∈ world.runningServices then []
      else [.addVideoService connection.videoSource display],
    if connection.version < build.versionNumber 1 2 1 then
        [.subscribe (.video connection.videoSource connection.displayIdx) false]
      else [],
    [.subscribe (.video connection.videoSource display) true, .set (.displayIdx display)]]

def handleSwitchDisplay (display : Nat) (resolution : Resolution) : Handling Payload :=
  fun connection =>
    if connection.displayIdx = display then []
    else if !world.serverAlive then sendDisplayChanged world connection.displayIdx connection
    else if world.sourceCount connection.videoSource ≤ display then []
    else
      stages [
        switchDisplayTo build world display,
        fun connection =>
          if !connection.scope.viewCamera && resolution.width ≠ 0 && resolution.height ≠ 0 then
            changeResolution build world none resolution connection
          else [],
        fun connection => sendDisplayChanged world connection.displayIdx connection] connection

/-- Only the displays that the source has are added, left out or set. -/
def captureDisplays (add sub set : List Nat) : Handling Payload := fun connection =>
  let source := connection.videoSource
  let valid := fun displays : List Nat => displays.filter (· < world.sourceCount source)
  if (add ≠ [] ∧ valid add = []) ∨ (add = [] ∧ sub ≠ [] ∧ valid sub = [])
      ∨ (add = [] ∧ sub = [] ∧ set ≠ [] ∧ valid set = []) then []
  else
    withServer world <| List.flatten [
      ((valid add ++ valid set).eraseDups.filter
          (Service.video source · ∉ world.runningServices)).map fun display =>
        .addVideoService source display,
      [if add ≠ [] then .captureDisplays source (valid add) true false
        else if sub ≠ [] then .captureDisplays source (valid sub) false true
        else .captureDisplays source (valid set) true true,
        .set (.multiUiSession (1 < world.subbedDisplays))],
      if connection.followRemoteWindow then [.subscribe .windowFocus (world.subbedDisplays ≤ 1)]
        else []]

def toggleVirtualDisplay (display : Int) (on : Bool) : List (Effect Payload) :=
  if on && !world.virtualDisplaySupported then
    [.send (.messageBox "Virtual display" "idd_not_support_under_win10_2004_tip")]
  else
    .plugVirtualDisplay display on ::
      match world.virtualDisplayError with
      | none => []
      | some error =>
          [.send (.messageBox "Virtual display"
            ((if on then "Failed to plug in virtual display: "
              else "Failed to plug out virtual displays: ") ++ error))]

def handleElevationRequest (request : ElevationRequest Payload) : Handling Payload :=
  fun connection =>
    match request with
    | .empty => []
    | request =>
        (if !connection.permissions.keyboard then [.send (.elevationResponse "No permission")]
          else if world.isInstalled || world.portableRunning then
            [.send (.elevationResponse "No need to elevate")]
          else [.startPortableService request, .send (.elevationResponse world.portableError)])
        ++ updateAutoDisconnectTimer connection

def noperms (connection : Connection Payload) : List Service :=
  List.flatten [
    if !connection.peerKeyboardEnabled && !connection.showRemoteCursor then [.cursor] else [],
    if !connection.showRemoteCursor then [.cursorPosition] else [],
    if !connection.followRemoteWindow then [.windowFocus] else [],
    if !connection.canSubClipboardService world then [.clipboard] else [],
    if build.unixFileCopyPaste && !connection.canSubFileClipboardService world then [.fileClipboard]
      else [],
    if !connection.audioEnabled then [.audio] else []]

def trySubMonitorServices : Handling Payload := fun connection =>
  if connection.isRemote && !connection.servicesSubed then
    .set .servicesSubed ::
      withServer world [
        .set (.autoDisconnectTimer world.allowAutoDisconnect),
        .addMonitorConnection (noperms build world connection) connection.displayIdx]
  else []

def handleSelectedSid (sid : Nat) : Handling Payload := fun connection =>
  match world.currentSession with
  | none => []
  | some current =>
      if world.isInstalled && world.isShareRdp && world.connectionCount = 1
          && 1 < world.sessions.length && current ≠ sid && sid ∈ world.sessions then
        [.connectToUserSession sid, .set .left]
      else if connection.scope.fileTransfer then
        match connection.delayedReadDir with
        | some (dir, showHidden) =>
            [.set (.delayedReadDir none), .toCm (.fs (.readDir dir showHidden))]
        | none => []
      else if connection.scope.viewCamera then withServer world [.addCameraConnection]
      else if !connection.scope.terminal then trySubMonitorServices build world connection
      else []

def scopedUpdateOptionMessage (option : OptionMessage Payload) (connection : Connection Payload) :
    Option (OptionMessage Payload) :=
  match connection.authedConnType with
  | .viewCamera => option.scopedViewCamera.1
  | .terminal => option.scopedTerminal.1
  | _ => none

def handleOption (option : OptionMessage Payload) : Handling Payload := fun connection =>
  if connection.authedConnType = .remote then updateOptions build world option connection
  else
    match scopedUpdateOptionMessage option connection with
    | some accepted => updateOptions build world accepted connection
    | none => []

/-- Linux tries both ways to restart. -/
def restartRemoteDevice : Handling Payload := fun connection =>
  if connection.permissions.restart then
    (if build.platform = .linux || build.platform = .windows then [.reboot true] else [])
    ++ (if build.platform = .linux || build.platform = .macos then [.reboot false] else [])
  else []

def handleMisc (misc : Misc Payload) : Handling Payload := fun connection =>
  match misc with
  | .switchDisplay display resolution =>
      handleSwitchDisplay build world display resolution connection
  | .captureDisplays add sub set => captureDisplays world add sub set connection
  | .toggleVirtualDisplay display on =>
      if build.isWindows && !connection.scope.viewCamera then toggleVirtualDisplay world display on
      else []
  | .togglePrivacyMode implKey on =>
      if connection.scope.viewCamera then []
      else if on then turnOnPrivacy build world (some implKey) connection
      else turnOffPrivacy build world (some implKey) connection
  | .chatMessage text =>
      [.toCm (.chatMessage text), .set .chatUnanswered] ++ updateAutoDisconnectTimer connection
  | .option option => handleOption build world option connection
  | .refreshVideo refresh =>
      if connection.shouldHandleRenderBroadcastMessage then
        (if refresh then refreshVideoDisplay world none connection else [])
          ++ updateAutoDisconnectTimer connection
      else []
  | .refreshVideoDisplay display =>
      if connection.shouldHandleRenderBroadcastMessage then
        refreshVideoDisplay world (some display) connection ++ updateAutoDisconnectTimer connection
      else []
  | .videoReceived => [.videoFrameFetched]
  | .restartRemoteDevice => restartRemoteDevice build connection
  | .elevationRequest request =>
      if build.isWindows then handleElevationRequest world request connection else []
  | .audioFormat format =>
      if connection.disableAudio then [] else [.set .audioSender, .startAudioThread format]
  | .changeResolution resolution =>
      if connection.scope.viewCamera then []
      else changeResolution build world none resolution connection
  | .changeDisplayResolution display resolution =>
      if connection.scope.viewCamera then []
      else changeResolution build world (some display) resolution connection
  | .pluginRequest request =>
      if build.flutter && build.pluginFramework && !build.isMobile then
        [.pluginEvent request, .send (.plugin world.pluginResponse)]
      else []
  | .autoAdjustFps fps => [.qos (.autoAdjustFps fps)]
  | .clientRecordStatus status => [.qos (.record status)]
  | .selectedSid sid =>
      if build.isWindows then handleSelectedSid build world sid connection else []
  | .messageQuery display => sendDisplayChanged world display connection
  | _ => []

def closeVoiceCall : Handling Payload := fun connection =>
  [.resetVoiceCallInput, .toCm .closeVoiceCall, .set .voiceCallEnded]
  ++ (if connection.isAuthedViewCameraConn then withServer world [.subscribe .audio false] else [])

def handleVoiceCallRequest (reqTimestamp : Int) (isConnect : Bool) : Handling Payload :=
  fun connection =>
    if isConnect then
      [.set (.voiceCallRequest (if reqTimestamp = 0 then world.now else reqTimestamp)),
        .toCm .voiceCallIncoming]
    else closeVoiceCall world connection

def handleTerminalAction (action : Payload) : Handling Payload := fun connection =>
  if connection.terminalUserToken && !build.isMobile then
    .terminalAction action ::
      match world.terminal with
      | .ok (some response) => [.send (.terminalResponse response)]
      | .ok none => []
      | .error error => [.send (.terminalError ("Failed to handle action: " ++ error))]
  else []

def handleAuthorizedMessage (message : Message Payload) : Handling Payload := fun connection =>
  match message with
  | .mouseEvent event => handleMouseEvent build event connection
  | .pointerDeviceEvent event => handlePointerDeviceEvent build event connection
  | .keyEvent event => handleKeyEvent build event connection
  | .clipboard content => handleClipboard content connection
  | .multiClipboards content => handleMultiClipboards build content connection
  | .cliprdr clip => handleCliprdr build world clip connection
  | .fileAction action => handleFileAction build world action connection
  | .fileResponse response => handleFileResponse response
  | .misc content => handleMisc build world content connection
  | .audioFrame frame =>
      if !connection.disableAudio && connection.audioSender then [.playAudio frame] else []
  | .voiceCallRequest reqTimestamp isConnect =>
      handleVoiceCallRequest world reqTimestamp isConnect connection
  | .screenshotRequest display sid =>
      .takeScreenshot connection.videoSource display sid
        :: refreshVideoDisplay world (some display) connection
  | .terminalAction action => handleTerminalAction build world action connection
  | _ => []

/-- The scope check on a message in the state of the connection. -/
def authorizedScopeViolation (message : Message Payload) (connection : Connection Payload) :
    Option String :=
  message.authorizedMessageScopeViolation build.isWindows connection.authedConnType

/-- The reason to close comes first. A handler that returns false leaves the loop of messages. -/
def onMessage (message : Message Payload) : Handling Payload := fun connection =>
  match message with
  | .misc (.closeReason _) => onClose build world true connection ++ [.removeSession, .set .left]
  | .loginRequest _ => []
  | message =>
      match authorizedScopeViolation build message connection with
      | some family => handleAuthorizedScopeViolation build world family connection
      | none =>
          match message with
          | .testDelay delay fromClient => handleTestDelay world delay fromClient connection
          | message =>
              if connection.portForwardSocket then []
              else handleAuthorizedMessage build world message connection

/-- What the connection manager, the file jobs and the timers change between two messages. -/
inductive HostEvent where
  | voiceCallResponse (accepted : Bool)
  | closeVoiceCall
  | chatAnswered
  | testDelaySent
  | jobs (readJobIds cmReadJobIds : List Int)

def onHostEvent (connection : Connection Payload) : HostEvent → Connection Payload
  | .voiceCallResponse accepted =>
      if connection.voiceCallRequestTimestamp.isSome then
        { connection with
          voiceCallRequestTimestamp := none
          voiceCalling := accepted }
      else connection
  | .closeVoiceCall => { connection with voiceCalling := false }
  | .chatAnswered => { connection with chatUnanswered := false }
  | .testDelaySent => { connection with testDelayPending := true }
  | .jobs readJobIds cmReadJobIds =>
      { connection with
        readJobIds := readJobIds
        cmReadJobIds := cmReadJobIds }

inductive Input (Payload : Type) where
  | message (world : World Payload) (message : Message Payload)
  | host (event : HostEvent)

/-- The outputs are the effects of the messages. No message is read after the loop is left. -/
def machine (build : Build) : Machine (Connection Payload) (Input Payload) (Effect Payload) where
  step connection
    | .message world message =>
        if connection.left then (connection, [])
        else
          (perform connection (onMessage build world message connection),
            onMessage build world message connection)
    | .host event => (onHostEvent connection event, [])

structure Login (Payload : Type) where
  union : LoginUnion
  version : Int
  webClient : Bool
  webPermissionProfile : String
  terminalUserToken : Bool
  displayIdx : Nat
  option : Option (OptionMessage Payload)
  waitSessionIdConfirm : Bool
  dir : Payload × Bool

/-- The connection before the options of its login. -/
def Login.start (login : Login Payload) : Connection Payload where
  login := login.union
  version := login.version
  permissions := loginPermissions login.webClient login.webPermissionProfile
  terminalUserToken := login.terminalUserToken
  displayIdx := if login.union = .none then login.displayIdx else 0
  terminalPersistent :=
    login.union = .terminal
      && login.option.any fun option => BoolOption.fromI32 option.terminalPersistent = some .yes

def Login.scopedOption (login : Login Payload) : Option (OptionMessage Payload) :=
  login.option.bind fun option => option.scopedLogin login.start.authedConnType

def withoutKeyboard (connection : Connection Payload) : Connection Payload :=
  { connection with permissions := { connection.permissions with keyboard := false } }

/-- Only a remote session keeps the keyboard and subscribes to the services of the monitor. -/
def authorize (login : Login Payload) : Connection Payload :=
  let updated :=
    match login.scopedOption with
    | some option => perform login.start (updateOptions build world option login.start)
    | none => login.start
  match login.union with
  | .portForward => updated
  | .fileTransfer =>
      { updated.withoutKeyboard with
        delayedReadDir := if login.waitSessionIdConfirm then some login.dir else none }
  | .terminal => updated.withoutKeyboard
  | .viewCamera => updated.withoutKeyboard
  | .none =>
      if login.waitSessionIdConfirm then updated
      else perform updated (trySubMonitorServices build world updated)

end SubnetDesk.Connection
