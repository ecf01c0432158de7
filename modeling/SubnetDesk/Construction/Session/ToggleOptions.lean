/-
This file defines the options of a session, as one message at login and as one message for each
toggle.
-/

import SubnetDesk.Foundation.Machine

namespace SubnetDesk.Session

inductive ConnType where
  | defaultConn
  | fileTransfer
  | portForward
  | rdp
  | viewCamera
  | terminal
deriving DecidableEq

/-- The toggles that a peer config stores, and the options that have no field of their own. -/
structure PeerConfig where
  showRemoteCursor : Bool
  followRemoteCursor : Bool
  followRemoteWindow : Bool
  disableAudio : Bool
  disableClipboard : Bool
  lockAfterSessionEnd : Bool
  terminalPersistent : Bool
  privacyMode : Bool
  enableFileCopyPaste : Bool
  showQualityMonitor : Bool
  allowSwapKey : Bool
  viewOnly : Bool
  showMyCursor : Bool
  options : List (String × String)
deriving DecidableEq

/-- The toggles of an option message. A field that is not set has no value. -/
structure OptionMessage where
  showRemoteCursor : Option Bool := none
  followRemoteCursor : Option Bool := none
  followRemoteWindow : Option Bool := none
  disableAudio : Option Bool := none
  disableClipboard : Option Bool := none
  lockAfterSessionEnd : Option Bool := none
  terminalPersistent : Option Bool := none
  privacyMode : Option Bool := none
  enableFileTransfer : Option Bool := none
  blockInput : Option Bool := none
  disableKeyboard : Option Bool := none
  showMyCursor : Option Bool := none
deriving DecidableEq

/-- The names that `toggle_option` knows, and every other name. -/
inductive ToggleName where
  | showRemoteCursor
  | followRemoteCursor
  | followRemoteWindow
  | disableAudio
  | disableClipboard
  | lockAfterSessionEnd
  | terminalPersistent
  | privacyMode
  | enableFileCopyPaste
  | blockInput
  | unblockInput
  | showQualityMonitor
  | allowSwapKey
  | viewOnly
  | showMyCursor
  | other (name : String)
deriving DecidableEq

/-- A handler has a copy of the config that is stored for its peer. -/
structure LoginConfigHandler where
  connType : ConnType
  config : PeerConfig
  stored : PeerConfig
deriving DecidableEq

def LoginConfigHandler.saveConfig (handler : LoginConfigHandler) (config : PeerConfig) :
    LoginConfigHandler :=
  { handler with config := config, stored := config }

/-- View-only overrides the options in its message, and restores them from the handler. -/
def LoginConfigHandler.toggleViewOnly (handler : LoginConfigHandler) (config : PeerConfig) :
    PeerConfig × OptionMessage :=
  let config := { config with viewOnly := !config.viewOnly }
  if config.viewOnly then
    (config, {
      disableKeyboard := some true
      disableClipboard := some true
      showRemoteCursor := some true
      enableFileTransfer := some false
      lockAfterSessionEnd := some false })
  else
    let option : OptionMessage := {
      disableKeyboard := some false
      disableClipboard := some handler.config.disableClipboard
      showRemoteCursor := some handler.config.showRemoteCursor
      enableFileTransfer := some handler.config.enableFileCopyPaste
      lockAfterSessionEnd := some handler.config.lockAfterSessionEnd }
    if config.showMyCursor then
      ({ config with showMyCursor := false }, { option with showMyCursor := some false })
    else (config, option)

def LoginConfigHandler.toggleOther (handler : LoginConfigHandler) (name : String) :
    LoginConfigHandler :=
  let isSet := ((handler.config.options.lookup name).map fun value => !value.isEmpty).getD false
  let others := handler.config.options.filter fun option => option.1 != name
  handler.saveConfig { handler.config with
    options := if isSet then others else (name, "Y") :: others }

def LoginConfigHandler.toggleOption (handler : LoginConfigHandler) (name : ToggleName) :
    LoginConfigHandler × Option OptionMessage :=
  let config := handler.stored
  match name with
  | .showRemoteCursor =>
      let value := !config.showRemoteCursor
      (handler.saveConfig { config with showRemoteCursor := value },
        some { showRemoteCursor := some value })
  | .followRemoteCursor =>
      let value := !config.followRemoteCursor
      (handler.saveConfig { config with followRemoteCursor := value },
        some { followRemoteCursor := some value })
  | .followRemoteWindow =>
      let value := !config.followRemoteWindow
      (handler.saveConfig { config with followRemoteWindow := value },
        some { followRemoteWindow := some value })
  | .disableAudio =>
      let value := !config.disableAudio
      (handler.saveConfig { config with disableAudio := value }, some { disableAudio := some value })
  | .disableClipboard =>
      let value := !config.disableClipboard
      (handler.saveConfig { config with disableClipboard := value },
        some { disableClipboard := some value })
  | .lockAfterSessionEnd =>
      let value := !config.lockAfterSessionEnd
      (handler.saveConfig { config with lockAfterSessionEnd := value },
        some { lockAfterSessionEnd := some value })
  | .terminalPersistent =>
      let value := !config.terminalPersistent
      (handler.saveConfig { config with terminalPersistent := value },
        some { terminalPersistent := some value })
  | .privacyMode => (handler.saveConfig config, some { privacyMode := some (!config.privacyMode) })
  | .enableFileCopyPaste =>
      let value := !config.enableFileCopyPaste
      (handler.saveConfig { config with enableFileCopyPaste := value },
        some { enableFileTransfer := some value })
  | .blockInput => (handler, some { blockInput := some true })
  | .unblockInput => (handler, some { blockInput := some false })
  | .showQualityMonitor =>
      (handler.saveConfig { config with showQualityMonitor := !config.showQualityMonitor }, some {})
  | .allowSwapKey =>
      (handler.saveConfig { config with allowSwapKey := !config.allowSwapKey }, some {})
  | .viewOnly =>
      let toggled := handler.toggleViewOnly config
      (handler.saveConfig toggled.1, some toggled.2)
  | .showMyCursor =>
      let value := !config.showMyCursor
      (handler.saveConfig { config with showMyCursor := value }, some { showMyCursor := some value })
  | .other name => (handler.toggleOther name, none)

/-- A value is sent only when it is set. -/
def whenSet (value : Bool) : Option Bool := if value then some true else none

/-- The message of the login. -/
def LoginConfigHandler.getOptionMessage (handler : LoginConfigHandler) : Option OptionMessage :=
  let config := handler.config
  match handler.connType with
  | .portForward => none
  | .rdp => none
  | .fileTransfer => none
  | .terminal =>
      if config.terminalPersistent then some { terminalPersistent := some true } else none
  | .defaultConn | .viewCamera =>
      some {
        disableKeyboard := whenSet config.viewOnly
        showRemoteCursor := whenSet (config.viewOnly || config.showRemoteCursor)
        showMyCursor := whenSet (config.viewOnly && config.showMyCursor)
        followRemoteCursor := whenSet config.followRemoteCursor
        followRemoteWindow := whenSet config.followRemoteWindow
        lockAfterSessionEnd := whenSet (!config.viewOnly && config.lockAfterSessionEnd)
        disableAudio := whenSet config.disableAudio
        enableFileTransfer := whenSet (!config.viewOnly && config.enableFileCopyPaste)
        disableClipboard := whenSet (config.viewOnly || config.disableClipboard) }

/-- The options of a connection on the other side. -/
structure ServerOptions where
  disableKeyboard : Bool := false
  disableClipboard : Bool := false
  showRemoteCursor : Bool := false
  showMyCursor : Bool := false
  enableFileTransfer : Bool := false
  lockAfterSessionEnd : Bool := false
  disableAudio : Bool := false
  followRemoteCursor : Bool := false
  followRemoteWindow : Bool := false
deriving DecidableEq

/-- A value that is set replaces the one before. -/
def ServerOptions.update (server : ServerOptions) (option : OptionMessage) : ServerOptions where
  disableKeyboard := option.disableKeyboard.getD server.disableKeyboard
  disableClipboard := option.disableClipboard.getD server.disableClipboard
  showRemoteCursor := option.showRemoteCursor.getD server.showRemoteCursor
  showMyCursor := option.showMyCursor.getD server.showMyCursor
  enableFileTransfer := option.enableFileTransfer.getD server.enableFileTransfer
  lockAfterSessionEnd := option.lockAfterSessionEnd.getD server.lockAfterSessionEnd
  disableAudio := option.disableAudio.getD server.disableAudio
  followRemoteCursor := option.followRemoteCursor.getD server.followRemoteCursor
  followRemoteWindow := option.followRemoteWindow.getD server.followRemoteWindow

def ServerOptions.receive (server : ServerOptions) (option : Option OptionMessage) :
    ServerOptions :=
  option.elim server server.update

/-- Both ends of a session. -/
structure OptionSession where
  handler : LoginConfigHandler
  server : ServerOptions
deriving DecidableEq

/-- A login sends the options of a stored config. -/
def OptionSession.login (connType : ConnType) (config : PeerConfig) : OptionSession :=
  let handler : LoginConfigHandler := ⟨connType, config, config⟩
  ⟨handler, ServerOptions.receive {} handler.getOptionMessage⟩

/-- Every toggle is sent, and the session after it is the output. -/
def optionMachine : Machine OptionSession ToggleName OptionSession where
  step session name :=
    let toggled := session.handler.toggleOption name
    let after : OptionSession := ⟨toggled.1, session.server.receive toggled.2⟩
    (after, [after])

end SubnetDesk.Session
