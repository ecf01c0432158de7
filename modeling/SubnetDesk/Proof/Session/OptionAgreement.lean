import SubnetDesk.Construction.Session.ToggleOptions

namespace SubnetDesk.Session

variable {session : OptionSession}

/-- The sessions that send their options at login. -/
def ConnType.sendsOptions : ConnType → Bool
  | .defaultConn => true
  | .viewCamera => true
  | _ => false

/-- The options that a config asks for. -/
def PeerConfig.serverOptions (config : PeerConfig) : ServerOptions where
  disableKeyboard := config.viewOnly
  disableClipboard := config.viewOnly || config.disableClipboard
  showRemoteCursor := config.viewOnly || config.showRemoteCursor
  showMyCursor := config.viewOnly && config.showMyCursor
  enableFileTransfer := !config.viewOnly && config.enableFileCopyPaste
  lockAfterSessionEnd := !config.viewOnly && config.lockAfterSessionEnd
  disableAudio := config.disableAudio
  followRemoteCursor := config.followRemoteCursor
  followRemoteWindow := config.followRemoteWindow

@[simp] theorem whenSet_getD (value : Bool) : (whenSet value).getD false = value := by
  cases value <;> rfl

/-- The options that the message of a login gives the server. -/
def LoginConfigHandler.loginOptions (handler : LoginConfigHandler) : ServerOptions :=
  ServerOptions.receive {} handler.getOptionMessage

theorem loginOptions_eq (handler : LoginConfigHandler) :
    handler.loginOptions =
      if handler.connType.sendsOptions then handler.config.serverOptions else {} := by
  unfold LoginConfigHandler.loginOptions LoginConfigHandler.getOptionMessage
  cases handler.connType with
  | defaultConn => simp [ConnType.sendsOptions, ServerOptions.receive, ServerOptions.update,
      PeerConfig.serverOptions]
  | viewCamera => simp [ConnType.sendsOptions, ServerOptions.receive, ServerOptions.update,
      PeerConfig.serverOptions]
  | fileTransfer => rfl
  | portForward => rfl
  | rdp => rfl
  | terminal =>
      dsimp only
      split
      next => rfl
      next => rfl

/-- The server has the options that one message would give it, and none that view-only takes away. -/
structure Faithful (session : OptionSession) : Prop where
  agrees : session.server = session.handler.loginOptions
  viewOnly : session.handler.connType.sendsOptions = true → session.handler.config.viewOnly = true →
    session.server.disableKeyboard = true ∧ session.server.disableClipboard = true ∧
      session.server.enableFileTransfer = false ∧ session.server.lockAfterSessionEnd = false

theorem faithful_iff : Faithful session ↔ session.server = session.handler.loginOptions := by
  constructor
  · exact Faithful.agrees
  · intro agrees
    refine ⟨agrees, ?_⟩
    intro sends viewOnly
    rw [agrees, loginOptions_eq, if_pos sends]
    simp [PeerConfig.serverOptions, viewOnly]

/-- The toggles whose own message agrees with the one of a login. -/
def ToggleFits (session : OptionSession) (name : ToggleName) : Prop :=
  let config := session.handler.config
  match session.handler.connType.sendsOptions, name with
  | true, .showRemoteCursor => config.viewOnly = true → config.showRemoteCursor = false
  | true, .disableClipboard => config.viewOnly = true → config.disableClipboard = false
  | true, .lockAfterSessionEnd => config.viewOnly = true → config.lockAfterSessionEnd = true
  | true, .enableFileCopyPaste => config.viewOnly = true → config.enableFileCopyPaste = true
  | true, .showMyCursor => config.viewOnly = false → config.showMyCursor = true
  | true, .viewOnly => config.viewOnly = false → config.showMyCursor = false
  | false, .showRemoteCursor => config.showRemoteCursor = true
  | false, .followRemoteCursor => config.followRemoteCursor = true
  | false, .followRemoteWindow => config.followRemoteWindow = true
  | false, .disableAudio => config.disableAudio = true
  | false, .disableClipboard => config.disableClipboard = true
  | false, .lockAfterSessionEnd => config.lockAfterSessionEnd = true
  | false, .enableFileCopyPaste => config.enableFileCopyPaste = true
  | false, .showMyCursor => config.showMyCursor = true
  | false, .viewOnly => config.viewOnly = true ∧ config.disableClipboard = false ∧
      config.showRemoteCursor = false ∧ config.enableFileCopyPaste = false ∧
      config.lockAfterSessionEnd = false
  | _, _ => True

/-- A session that agrees so far, with the config that it has stored. -/
structure Settled (session : OptionSession) : Prop where
  stored : session.handler.stored = session.handler.config
  agrees : session.server = session.handler.loginOptions

theorem Settled.login (connType : ConnType) (config : PeerConfig) :
    Settled (OptionSession.login connType config) := ⟨rfl, rfl⟩

/-- A toggle stores what it sets. -/
theorem toggleOption_stored (handler : LoginConfigHandler)
    (stored : handler.stored = handler.config) (name : ToggleName) :
    (handler.toggleOption name).1.stored = (handler.toggleOption name).1.config ∧
      (handler.toggleOption name).1.connType = handler.connType := by
  cases name with
  | blockInput => exact ⟨stored, rfl⟩
  | unblockInput => exact ⟨stored, rfl⟩
  | _ => exact ⟨rfl, rfl⟩

/-- The config and the message after a toggle of a handler with a stored config. -/
def toggled (connType : ConnType) (config : PeerConfig) (name : ToggleName) :
    LoginConfigHandler × Option OptionMessage :=
  LoginConfigHandler.toggleOption ⟨connType, config, config⟩ name

section Toggled

variable (connType : ConnType) (config : PeerConfig)

/-- View-only disables five options. -/
theorem toggled_viewOnly_on (off : config.viewOnly = false) :
    toggled connType config .viewOnly =
      (⟨connType, { config with viewOnly := true }, { config with viewOnly := true }⟩,
        some {
          disableKeyboard := some true
          disableClipboard := some true
          showRemoteCursor := some true
          enableFileTransfer := some false
          lockAfterSessionEnd := some false }) := by
  simp [toggled, LoginConfigHandler.toggleOption, LoginConfigHandler.toggleViewOnly, off,
    LoginConfigHandler.saveConfig]

theorem toggled_viewOnly_off (on : config.viewOnly = true) :
    ∃ after : PeerConfig, ∃ option : OptionMessage,
      toggled connType config .viewOnly = (⟨connType, after, after⟩, some option) ∧
      after = { config with viewOnly := false, showMyCursor := false } ∧
      option = {
        disableKeyboard := some false
        disableClipboard := some config.disableClipboard
        showRemoteCursor := some config.showRemoteCursor
        enableFileTransfer := some config.enableFileCopyPaste
        lockAfterSessionEnd := some config.lockAfterSessionEnd
        showMyCursor := if config.showMyCursor then some false else none } := by
  refine ⟨_, _, rfl, ?_, ?_⟩
  · cases shown : config.showMyCursor with
    | true => simp [LoginConfigHandler.toggleViewOnly, on, shown]
    | false => simp [LoginConfigHandler.toggleViewOnly, on, shown]
  · cases shown : config.showMyCursor with
    | true => simp [LoginConfigHandler.toggleViewOnly, on, shown]
    | false => simp [LoginConfigHandler.toggleViewOnly, on, shown]

/-- A toggle of a session that has sent its options. -/
theorem toggled_sent_iff (name : ToggleName) (sends : connType.sendsOptions = true) :
    config.serverOptions.receive (toggled connType config name).2 =
        (toggled connType config name).1.config.serverOptions ↔
      ToggleFits ⟨⟨connType, config, config⟩, config.serverOptions⟩ name := by
  simp only [ToggleFits, sends]
  cases name with
  | viewOnly =>
      cases viewOnly : config.viewOnly with
      | true =>
          obtain ⟨after, option, result, rfl, rfl⟩ := toggled_viewOnly_off connType config viewOnly
          cases shown : config.showMyCursor with
          | true => simp [result, ServerOptions.receive, ServerOptions.update,
              PeerConfig.serverOptions, viewOnly, shown]
          | false => simp [result, ServerOptions.receive, ServerOptions.update,
              PeerConfig.serverOptions, viewOnly, shown]
      | false =>
          simp [toggled_viewOnly_on connType config viewOnly, ServerOptions.receive,
            ServerOptions.update, PeerConfig.serverOptions, viewOnly]
  | _ =>
      cases viewOnly : config.viewOnly with
      | true => simp [toggled, LoginConfigHandler.toggleOption, LoginConfigHandler.saveConfig,
          LoginConfigHandler.toggleOther, ServerOptions.receive, ServerOptions.update,
          PeerConfig.serverOptions, viewOnly]
      | false => simp [toggled, LoginConfigHandler.toggleOption, LoginConfigHandler.saveConfig,
          LoginConfigHandler.toggleOther, ServerOptions.receive, ServerOptions.update,
          PeerConfig.serverOptions, viewOnly]

/-- A toggle of a session that has sent none. -/
theorem toggled_unsent_iff (name : ToggleName) (silent : connType.sendsOptions = false) :
    ServerOptions.receive {} (toggled connType config name).2 = {} ↔
      ToggleFits ⟨⟨connType, config, config⟩, {}⟩ name := by
  simp only [ToggleFits, silent]
  cases name with
  | viewOnly =>
      cases viewOnly : config.viewOnly with
      | true =>
          obtain ⟨after, option, result, rfl, rfl⟩ := toggled_viewOnly_off connType config viewOnly
          cases shown : config.showMyCursor with
          | true => simp [result, ServerOptions.receive, ServerOptions.update, shown]
          | false => simp [result, ServerOptions.receive, ServerOptions.update, shown]
      | false =>
          simp [toggled_viewOnly_on connType config viewOnly, ServerOptions.receive,
            ServerOptions.update]
  | _ => simp [toggled, LoginConfigHandler.toggleOption, ServerOptions.receive,
      ServerOptions.update]

end Toggled

/-- One toggle keeps the agreement exactly when it fits. -/
theorem Settled.toggle_agrees_iff (settled : Settled session) (name : ToggleName) :
    session.server.receive (session.handler.toggleOption name).2 =
        (session.handler.toggleOption name).1.loginOptions ↔ ToggleFits session name := by
  obtain ⟨⟨connType, config, stored⟩, server⟩ := session
  obtain ⟨same, agrees⟩ := settled
  dsimp only at same agrees
  subst same
  have kept := (toggleOption_stored ⟨connType, stored, stored⟩ rfl name).2
  rw [loginOptions_eq] at agrees
  rw [loginOptions_eq, kept, agrees]
  dsimp only
  cases sends : connType.sendsOptions with
  | true => exact toggled_sent_iff connType stored name sends
  | false => exact toggled_unsent_iff connType stored name sends

/-- The server has the options of the config after every toggle exactly when every toggle fits. -/
theorem option_state_agrees_iff (connType : ConnType) (config : PeerConfig)
    (names : List ToggleName) :
    (Faithful (OptionSession.login connType config) ∧
      ∀ reached ∈ (optionMachine.run (OptionSession.login connType config) names).2,
        Faithful reached) ↔
      optionMachine.Guarded ToggleFits (OptionSession.login connType config) names := by
  have settled := Settled.login connType config
  have run := optionMachine.run_outputs_iff_guarded Settled ToggleFits Faithful
    (fun session name settled fits => ?_) (fun session name settled misfit => ?_)
    (OptionSession.login connType config) names settled
  · rw [← run]
    exact ⟨And.right, fun all => ⟨faithful_iff.mpr settled.agrees, all⟩⟩
  · have agrees := (settled.toggle_agrees_iff name).mpr fits
    refine ⟨⟨(toggleOption_stored session.handler settled.stored name).1, agrees⟩, ?_⟩
    intro reached member
    rw [optionMachine, List.mem_singleton] at member
    subst member
    exact faithful_iff.mpr agrees
  · refine ⟨_, List.mem_singleton.mpr rfl, ?_⟩
    intro faithful
    exact misfit ((settled.toggle_agrees_iff name).mp faithful.agrees)

/-- A config with view-only and a disabled clipboard. -/
def viewOnlyConfig : PeerConfig where
  showRemoteCursor := false
  followRemoteCursor := false
  followRemoteWindow := false
  disableAudio := false
  disableClipboard := true
  lockAfterSessionEnd := false
  terminalPersistent := false
  privacyMode := false
  enableFileCopyPaste := false
  showQualityMonitor := false
  allowSwapKey := false
  viewOnly := true
  showMyCursor := false
  options := []

/-- The toggle of the clipboard enables it on the server while view-only is on. -/
theorem clipboard_enabled_in_view_only :
    let reached := (optionMachine.run (OptionSession.login .defaultConn viewOnlyConfig)
      [.disableClipboard]).1
    reached.handler.config.viewOnly = true ∧ reached.server.disableClipboard = false ∧
      reached.handler.loginOptions.disableClipboard = true := by
  decide

end SubnetDesk.Session
