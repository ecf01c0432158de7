/-
This file defines the terminal service: its sessions and the requests and polls that change them.
-/

import Mathlib.Data.List.AList
import SubnetDesk.Construction.Terminal.Session

namespace SubnetDesk.Terminal

/-- The service counts the sessions that it has created. -/
structure PersistentTerminalService where
  serviceId : String
  sessions : AList fun _ : Int => TerminalSession
  isPersistent : Bool
  needsSessionSync : Bool
  created : Nat

def PersistentTerminalService.new (serviceId : String) (isPersistent : Bool) :
    PersistentTerminalService where
  serviceId := serviceId
  sessions := ∅
  isPersistent := isPersistent
  needsSessionSync := false
  created := 0

structure TerminalServiceProxy where
  isPersistent : Bool
  hasUserToken : Bool

structure OpenTerminal where
  terminalId : Int
  rows : Nat
  cols : Nat

inductive OpenError where
  | openPty
  | spawnCommand
  | takeWriter
  | cloneReader
  | helper
deriving DecidableEq

/-- The helper's functions give their own texts. -/
def OpenError.context : OpenError → Option String
  | .openPty => some "Failed to open PTY"
  | .spawnCommand => some "Failed to spawn command"
  | .takeWriter => some "Failed to get writer"
  | .cloneReader => some "Failed to get reader"
  | .helper => none

/-- The system starts a shell or fails at one of the steps to it. -/
inductive OpenAnswer where
  | started (pid : Nat)
  | failed (error : OpenError)

def PersistentTerminalService.store (service : PersistentTerminalService) (terminalId : Int)
    (session : TerminalSession) : PersistentTerminalService :=
  { service with sessions := service.sessions.insert terminalId session }

def PersistentTerminalService.remove (service : PersistentTerminalService) (terminalId : Int) :
    PersistentTerminalService :=
  { service with sessions := service.sessions.erase terminalId }

/-- After a reconnect the session with the lowest id takes an id that no session has. -/
def PersistentTerminalService.remap (service : PersistentTerminalService) (terminalId : Int) :
    PersistentTerminalService :=
  if terminalId ∉ service.sessions ∧ service.needsSessionSync ∧ service.sessions.keys ≠ [] then
    match service.sessions.keys.min? with
    | none => service
    | some lowestId =>
        match service.sessions.lookup lowestId with
        | none => service
        | some session => (service.remove lowestId).store terminalId session
  else service

/-- The reply to a reconnect names the other sessions once. -/
def PersistentTerminalService.reconnect (service : PersistentTerminalService) (terminalId : Int)
    (session : TerminalSession) : PersistentTerminalService × TerminalResponse :=
  let (reopened, hasPending) := session.reopen
  let message :=
    if hasPending then "Reconnected to existing terminal with pending output"
    else "Reconnected to existing terminal"
  let persistentSessions :=
    if service.needsSessionSync ∧ 1 < service.sessions.keys.length then
      service.sessions.keys.filter (· ≠ terminalId)
    else []
  ({ service.store terminalId reopened with needsSessionSync := false },
    .opened terminalId true message session.pid service.serviceId persistentSessions hasPending)

/-- A new session is stored at the end of all that can fail. -/
def PersistentTerminalService.create (service : PersistentTerminalService)
    (request : OpenTerminal) (isHelperMode : Bool) (pid : Nat) :
    PersistentTerminalService × TerminalResponse :=
  let session := .spawned service.created pid request.rows request.cols isHelperMode
  let message := if isHelperMode then "Terminal opened (helper mode)" else "Terminal opened"
  let persistentSessions := if service.needsSessionSync then service.sessions.keys else []
  ({ service.store request.terminalId session with
      needsSessionSync := false
      created := service.created + 1 },
    .opened request.terminalId true message pid service.serviceId persistentSessions false)

def PersistentTerminalService.handleOpen (proxy : TerminalServiceProxy)
    (service : PersistentTerminalService) (request : OpenTerminal) (answer : OpenAnswer) :
    PersistentTerminalService × Except OpenError TerminalResponse :=
  let remapped := service.remap request.terminalId
  match remapped.sessions.lookup request.terminalId with
  | some session =>
      ((remapped.reconnect request.terminalId session).1,
        .ok (remapped.reconnect request.terminalId session).2)
  | none =>
      match answer with
      | .failed error => (remapped, .error error)
      | .started pid =>
          ((remapped.create request proxy.hasUserToken pid).1,
            .ok (remapped.create request proxy.hasUserToken pid).2)

/-- The session is removed before its child is killed. -/
def PersistentTerminalService.handleClose (service : PersistentTerminalService)
    (terminalId : Int) (killFails : Bool) :
    PersistentTerminalService × Except Unit (Option TerminalResponse) :=
  match service.sessions.lookup terminalId with
  | none => (service, .ok none)
  | some session =>
      (service.remove terminalId,
        match session.child with
        | none => .ok (some (.closed terminalId 0))
        | some _ => if killFails then .error () else .ok (some (.closed terminalId (-1))))

/-- A session that another thread holds is skipped. -/
def PersistentTerminalService.pollSession (compression : Compression)
    (answers : Int → PollAnswer)
    (polled : PersistentTerminalService × List TerminalResponse × List Int) (terminalId : Int) :
    PersistentTerminalService × List TerminalResponse × List Int :=
  match polled.1.sessions.lookup terminalId with
  | none => polled
  | some session =>
      if (answers terminalId).locked then polled
      else
        let (next, responses, closed) := session.poll compression terminalId (answers terminalId)
        (polled.1.store terminalId next, polled.2.1 ++ responses,
          if closed then polled.2.2 ++ [terminalId] else polled.2.2)

/-- An ended session is removed and its end is reported. -/
def PersistentTerminalService.cleanUp (proxy : TerminalServiceProxy)
    (answers : Int → PollAnswer)
    (cleaned : PersistentTerminalService × List TerminalResponse) (terminalId : Int) :
    PersistentTerminalService × List TerminalResponse :=
  match cleaned.1.sessions.lookup terminalId with
  | none => (cleaned.1, cleaned.2 ++ [.closed terminalId 0])
  | some session =>
      (if !proxy.isPersistent || session.closedMessageSent then cleaned.1.remove terminalId
        else cleaned.1.store terminalId { session with child := none },
        cleaned.2 ++
          [.closed terminalId (session.reapedCode (answers terminalId).reapFails)])

def PersistentTerminalService.readOutputs (compression : Compression)
    (proxy : TerminalServiceProxy) (service : PersistentTerminalService)
    (answers : Int → PollAnswer) : PersistentTerminalService × List TerminalResponse :=
  let (polled, responses, closedTerminals) :=
    service.sessions.keys.foldl (pollSession compression answers) (service, [], [])
  closedTerminals.foldl (cleanUp proxy answers) (polled, responses)

/-- The threads and the requests of one session change it in its place. -/
def PersistentTerminalService.update (service : PersistentTerminalService) (terminalId : Int)
    (change : TerminalSession → TerminalSession) : PersistentTerminalService :=
  match service.sessions.lookup terminalId with
  | none => service
  | some session => service.store terminalId (change session)

/-- A new connection of the client closes the streams of all sessions. -/
def PersistentTerminalService.resetStatus (service : PersistentTerminalService)
    (isPersistent : Bool) : PersistentTerminalService :=
  service.sessions.keys.foldl (fun reset terminalId => reset.update terminalId .reset)
    { service with isPersistent := isPersistent, needsSessionSync := true }

inductive ServiceInput where
  | resetStatus (isPersistent : Bool)
  | open_ (proxy : TerminalServiceProxy) (request : OpenTerminal) (answer : OpenAnswer)
  | resize (terminalId : Int) (rows cols : Nat) (resizes : Bool)
  | close (terminalId : Int) (killFails : Bool)
  | read (terminalId : Int) (read : ReaderRead)
  | exit (terminalId : Int) (code : Int)
  | readOutputs (proxy : TerminalServiceProxy) (answers : Int → PollAnswer)

/-- The responses of a request and of a poll go to the client. -/
def serviceMachine (compression : Compression) :
    Machine PersistentTerminalService ServiceInput TerminalResponse where
  step service
    | .resetStatus isPersistent => (service.resetStatus isPersistent, [])
    | .open_ proxy request answer =>
        ((service.handleOpen proxy request answer).1,
          (service.handleOpen proxy request answer).2.toOption.toList)
    | .resize terminalId rows cols resizes =>
        (service.update terminalId fun session => (session.handleResize rows cols resizes).1, [])
    | .close terminalId killFails =>
        ((service.handleClose terminalId killFails).1,
          ((service.handleClose terminalId killFails).2.toOption.getD none).toList)
    | .read terminalId read => (service.update terminalId fun session => session.read read, [])
    | .exit terminalId code => (service.update terminalId fun session => session.exit code, [])
    | .readOutputs proxy answers => service.readOutputs compression proxy answers

end SubnetDesk.Terminal
