/-
This file defines the login of a connection, and the scope that its first login request latches. The
messages after the login are handled with the scope as it is then.
-/

import SubnetDesk.Foundation.Bytes
import SubnetDesk.Foundation.Machine
import SubnetDesk.Foundation.Utf8
import SubnetDesk.Construction.Connection.State

namespace SubnetDesk.LoginScope

open Connection (AuthConnType BoolOption Permissions loginPermissions)

/-- The bytes of a string fit into an allocation. -/
structure Text where
  letters : List Char
  fits : (Utf8.encode letters).length < 2 ^ 63
deriving DecidableEq

def Text.bytes (text : Text) : List UInt8 := Utf8.encode text.letters

def Text.empty : Text := ⟨[], by decide⟩

/-- The kinds that this build does not know stand together. -/
inductive LoginUnion where
  | fileTransfer (dir : Text) (showHidden : Bool)
  | viewCamera
  | terminal (serviceId : Text)
  | portForward (host : Text) (port : BitVec 32)
  | unknown
deriving DecidableEq

/-- The options at login are read for the persistence of terminals. -/
structure LoginRequest where
  myId : Text
  union : Option LoginUnion := none
  lanLogin : Bool := false
  terminalPersistent : Option Int := none
  videoAckRequired : Bool := false
deriving DecidableEq

def tag (name : String) : List UInt8 := Utf8.encode name.toList

/-- The fields that are hashed, each behind its length. -/
def LoginRequest.scopeFields (lr : LoginRequest) : List (List UInt8) :=
  lr.myId.bytes ::
    match lr.union with
    | some (.fileTransfer dir showHidden) =>
        [tag "file_transfer", dir.bytes, [if showHidden then 1 else 0]]
    | some .viewCamera => [tag "view_camera"]
    | some (.terminal serviceId) => [tag "terminal", serviceId.bytes]
    | some (.portForward host port) =>
        [tag "port_forward", host.bytes, Bytes.le 4 port.toNat]
    | some .unknown => [tag "remote"]
    | none => [tag "remote"]

def LoginRequest.scopeBytes (lr : LoginRequest) : List UInt8 := lr.scopeFields.flatMap Bytes.frame

abbrev Digest := BitVec 256

/-- What the login reads of the host, and the results of its calls. -/
structure World where
  retryAfter : Nat := 0
  gateFree : Bool := true
  verified : Bool := true
  recordedRetryAfter : Nat := 0
  webPermissionProfile : String := ""
  inPrivacyMode : Bool := false
  desktopError : String := ""
  terminalLogin : Except String Unit := .ok ()
  connects : Bool := true

/-- A connection that has been accepted. -/
structure Login where
  secured : Bool
  webClient : Bool
  loginScope : Option Digest := none
  lr : LoginRequest := { myId := .empty }
  optionsInLogin : Option Int := none
  videoAckRequired : Bool := false
  permissions : Option Permissions := none
  fileTransfer : Option (Text × Bool) := none
  viewCamera : Bool := false
  terminal : Bool := false
  terminalServiceId : Text := .empty
  terminalPersistent : Bool := false
  terminalUserToken : Bool := false
  portForwardAddress : List Char := []
  portForwardSocket : Option (List Char) := none
  sendTimeoutOther : Bool := false
  authorized : Bool := false
  authedConnId : Option AuthConnType := none
  closed : Bool := false

inductive Output where
  | loginError (error : String) (retryAfterSeconds : Nat)
  | authorized (kind : AuthConnType)
deriving DecidableEq

/-- The connection after a message, whether it is kept alive, and what it has sent. -/
abbrev Handled := Login × Bool × List Output

def sendLoginError (login : Login) (error : String) (keepAlive : Bool) (retryAfter : Nat) : Handled :=
  (login, keepAlive, [.loginError error retryAfter])

def handleLoginRequestWithoutValidation (login : Login) (lr : LoginRequest) : Login :=
  { login with
    lr := lr
    optionsInLogin := lr.terminalPersistent.or login.optionsInLogin
    videoAckRequired := lr.videoAckRequired }

def resetSessionScopeForLogin (login : Login) : Login :=
  { login with
    fileTransfer := none
    viewCamera := false
    terminal := false
    portForwardAddress := []
    terminalPersistent := false }

def addressOf (host : List Char) (port : Int) : List Char :=
  host ++ ':' :: (toString port).toList

/-- The address of a target, and whether it is the remote desktop of the host. -/
def normalizePortForwardTarget (host : Text) (port : BitVec 32) : List Char × Bool :=
  if host.letters = "RDP".toList ∧ port = 0 then (addressOf "localhost".toList 3389, true)
  else if host.letters = [] then (addressOf "localhost".toList port.toInt, false)
  else (addressOf host.letters port.toInt, false)

/-- A scope that cannot be served is refused, with an error where there is one. -/
def configureLanConnectionScope (world : World) (login : Login) (lr : LoginRequest) :
    Except (List Output) Login :=
  match lr.union with
  | some (.fileTransfer dir showHidden) =>
      .ok { login with fileTransfer := some (dir, showHidden) }
  | some .viewCamera => .ok { login with viewCamera := true }
  | some (.terminal serviceId) =>
      .ok { login with
        terminal := true
        terminalServiceId := serviceId
        terminalPersistent :=
          match login.optionsInLogin with
          | some option => BoolOption.fromI32 option = some .yes
          | none => login.terminalPersistent }
  | some (.portForward host port) =>
      .ok { login with portForwardAddress := (normalizePortForwardTarget host port).1 }
  | none =>
      if world.inPrivacyMode then
        .error [.loginError "Someone turns on privacy mode, exit" 0]
      else .ok login
  | some .unknown => .error []

/-- The user of a terminal is checked before the login. The result is that of the checks. -/
def prepareTerminalLoginForAuthorization (world : World) (login : Login) :
    Except (List Output) Login :=
  if login.terminal = false ∨ login.terminalUserToken = true then .ok login
  else
    match world.terminalLogin with
    | .error error => .error [.loginError error 0]
    | .ok _ => .ok { login with terminalUserToken := true }

def connectPortForwardIfNeeded (world : World) (login : Login) : Except (Login × List Output) Login :=
  match login.portForwardSocket, login.lr.union with
  | none, some (.portForward host port) =>
      let (address, isRdp) := normalizePortForwardTarget host port
      let login := { login with portForwardAddress := address }
      if world.connects then .ok { login with portForwardSocket := some address }
      else
        let named := if isRdp then "RDP" else String.ofList address
        .error (login, [.loginError ("Failed to access remote " ++ named ++
          ". Please make sure it is reachable/open.") 0])
  | _, _ => .ok login

def Login.authConnType (login : Login) : AuthConnType :=
  if login.fileTransfer.isSome then .fileTransfer
  else if login.portForwardSocket.isSome then .portForward
  else if login.viewCamera then .viewCamera
  else if login.terminal then .terminal
  else .remote

def sendLogonResponseAndKeepAlive (world : World) (login : Login) : Handled :=
  if login.authorized then (login, true, [])
  else
    match prepareTerminalLoginForAuthorization world login with
    | .error outputs => (login, false, outputs)
    | .ok login =>
        match connectPortForwardIfNeeded world login with
        | .error (login, outputs) => (login, false, outputs)
        | .ok login =>
            ({ login with
              authorized := true
              authedConnId := some login.authConnType }, true, [.authorized login.authConnType])

def desktopSessionNotReady : String := "Desktop session not ready"

/-- The part of a login behind its credentials. -/
def handleVerifiedLogin (world : World) (login : Login) (lr : LoginRequest) : Handled :=
  let login := { login with
    permissions := some (loginPermissions login.webClient world.webPermissionProfile) }
  match configureLanConnectionScope world login lr with
  | .error outputs => (login, false, outputs)
  | .ok login =>
      let isPortForward :=
        match login.lr.union with
        | some (.portForward _ _) => true
        | _ => false
      let login := { login with
        sendTimeoutOther := login.fileTransfer.isSome || login.terminal || isPortForward }
      if world.desktopError ≠ "" ∧ world.desktopError ≠ desktopSessionNotReady then
        sendLoginError login world.desktopError true 0
      else sendLogonResponseAndKeepAlive world login

def handleLanLoginRequest (world : World) (login : Login) (lr : LoginRequest) : Handled :=
  if login.secured = false then sendLoginError login "Encrypted LAN session required" false 0
  else if lr.lanLogin = false then sendLoginError login "LAN login protocol required" false 0
  else if login.webClient = true ∧ lr.union ≠ none then
    sendLoginError login "Web sessions only support remote desktop access" false 0
  else if 0 < world.retryAfter then
    sendLoginError login "Authentication retry is temporarily blocked" true world.retryAfter
  else if world.gateFree = false then
    sendLoginError login "Authentication is busy; retry shortly" true 1
  else if world.verified = false then
    sendLoginError login "Username or password is incorrect" true world.recordedRetryAfter
  else handleVerifiedLogin world login lr

section Digests

variable (sha256 : List UInt8 → Digest)

def loginScopeDigest (lr : LoginRequest) : Digest := sha256 lr.scopeBytes

/-- The first request latches its scope, and others are compared with it. -/
def checkLoginScope (login : Login) (lr : LoginRequest) : Handled :=
  let requested := loginScopeDigest sha256 lr
  match login.loginScope with
  | some initial =>
      if initial ≠ requested then sendLoginError login "Connection not allowed" false 0
      else (login, true, [])
  | none => ({ login with loginScope := some requested }, true, [])

/-- A login request that is received. -/
def onLoginRequest (world : World) (login : Login) (lr : LoginRequest) : Handled :=
  if login.authorized then (login, true, [])
  else
    match checkLoginScope sha256 login lr with
    | (login, false, outputs) => (login, false, outputs)
    | (login, true, _) =>
        let login := resetSessionScopeForLogin (handleLoginRequestWithoutValidation login lr)
        if lr.lanLogin then handleLanLoginRequest world login lr
        else sendLoginError login "LAN login protocol required" false 0

/-- A connection that is not kept alive receives nothing more. -/
def machine : Machine Login (World × LoginRequest) Output where
  step login event :=
    if login.closed then (login, [])
    else
      let (after, keepAlive, outputs) := onLoginRequest sha256 event.1 login event.2
      ({ after with closed := !keepAlive }, outputs)

end Digests

end SubnetDesk.LoginScope
