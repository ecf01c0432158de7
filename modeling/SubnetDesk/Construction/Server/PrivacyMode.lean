/-
This file defines the privacy mode of a host, and the requests of its connections that turn it on and
off.
-/

import SubnetDesk.Foundation.Threads

namespace SubnetDesk.PrivacyMode

abbrev ImplKey := List Char

def invalidPrivacyModeConnId : Int := 0

/-- The server gives positive ids to its connections. -/
structure ConnId where
  id : Int
  valid : id ≠ invalidPrivacyModeConnId
deriving DecidableEq

inductive PrivacyError where
  | occupied
  | turnOffOtherId
  | unsupported (implKey : ImplKey)
  | platform
  | timeout
deriving DecidableEq

/-- The texts of the platform and of the timeout are not kept. -/
def PrivacyError.text : PrivacyError → String
  | .occupied => "Privacy occupied by another one."
  | .turnOffOtherId => "Failed to turn off privacy mode that belongs to someone else."
  | .unsupported implKey => "Unsupported privacy mode: " ++ String.ofList implKey
  | .platform => "Failed to turn on privacy mode"
  | .timeout => "deadline has elapsed"

/-- What the platform does when the mode is turned on. A missing plugin is refused. -/
inductive OnOutcome where
  | started
  | refused
  | failed
deriving DecidableEq

/-- What the platform does when the mode is turned off. The owner stays after some failures. -/
inductive OffOutcome where
  | ended
  | endedWithError
  | failed
deriving DecidableEq

inductive PlatformCall where
  | turnOn
  | turnOff
  | clear
deriving DecidableEq

structure PrivacyModeImpl where
  implKey : ImplKey
  connId : Int
deriving DecidableEq

namespace PrivacyModeImpl

def new (implKey : ImplKey) : PrivacyModeImpl where
  implKey := implKey
  connId := invalidPrivacyModeConnId

def checkOnConnId (impl : PrivacyModeImpl) (connId : Int) : Except PrivacyError Bool :=
  if impl.connId = connId then .ok true
  else if impl.connId ≠ invalidPrivacyModeConnId then .error .occupied
  else .ok false

def checkOffConnId (impl : PrivacyModeImpl) (connId : Int) : Except PrivacyError Unit :=
  if impl.connId ≠ invalidPrivacyModeConnId ∧ connId ≠ invalidPrivacyModeConnId ∧
      impl.connId ≠ connId then .error .turnOffOtherId
  else .ok ()

def turnOnPrivacy (impl : PrivacyModeImpl) (connId : Int) (outcome : OnOutcome) :
    PrivacyModeImpl × Except PrivacyError Bool × List PlatformCall :=
  match impl.checkOnConnId connId with
  | .error error => (impl, .error error, [])
  | .ok true => (impl, .ok true, [])
  | .ok false =>
      match outcome with
      | .started => ({ impl with connId := connId }, .ok true, [.turnOn])
      | .refused => (impl, .ok false, [.turnOn])
      | .failed => (impl, .error .platform, [.turnOn])

def turnOffPrivacy (impl : PrivacyModeImpl) (connId : Int) (outcome : OffOutcome) :
    PrivacyModeImpl × Except PrivacyError Unit × List PlatformCall :=
  match impl.checkOffConnId connId with
  | .error error => (impl, .error error, [])
  | .ok () =>
      let ended := { impl with connId := invalidPrivacyModeConnId }
      match outcome with
      | .ended => (ended, .ok (), [.turnOff])
      | .endedWithError => (ended, .error .platform, [.turnOff])
      | .failed => (impl, .error .platform, [.turnOff])

end PrivacyModeImpl

local instance lawfulImplKey : LawfulBEq ImplKey := inferInstance

/-- The supported keys, the keys that have a creator, and the default one. -/
structure Registry where
  supportedImpls : List ImplKey
  creators : List ImplKey
  defaultImpl : ImplKey
deriving DecidableEq

def Registry.isPrivacyModeSupported (registry : Registry) : Bool := registry.defaultImpl ≠ []

/-- The configured key is the fallback, and the default one where that is not supported either. -/
def Registry.getSupportedImpl (registry : Registry) (option implKey : ImplKey) : ImplKey :=
  if implKey ∈ registry.supportedImpls then implKey
  else if option ∈ registry.supportedImpls then option
  else registry.defaultImpl

/-- What a section finds in its environment. -/
structure Choice where
  option : ImplKey
  onOutcome : OnOutcome
  offOutcome : OffOutcome
  timedOut : Bool
  checkError : Bool
deriving DecidableEq

abbrev Shared := Option PrivacyModeImpl

def isInPrivacyMode (shared : Shared) : Bool :=
  (shared.map fun impl => decide (impl.connId ≠ invalidPrivacyModeConnId)).getD false

abbrev TurnOnResult := Option (Except PrivacyError Bool)

def turnOn (impl : PrivacyModeImpl) (connId : Int) (outcome : OnOutcome)
    (before : List PlatformCall) : Shared × TurnOnResult × List PlatformCall :=
  let (impl, result, calls) := impl.turnOnPrivacy connId outcome
  (some impl, some result, before ++ calls)

/-- Another implementation replaces the current one, which is cleared by the call and by its drop. -/
def turnOnPrivacySync (registry : Registry) (shared : Shared) (implKey : ImplKey) (connId : Int)
    (choice : Choice) : Shared × TurnOnResult × List PlatformCall :=
  let implKey := registry.getSupportedImpl choice.option implKey
  match shared with
  | some current =>
      match current.checkOnConnId connId with
      | .error error => (shared, some (.error error), [])
      | .ok same =>
          if same ∧ current.implKey = implKey then (shared, some (.ok true), [])
          else if current.implKey = implKey then turnOn current connId choice.onOutcome []
          else if implKey ∈ registry.creators then
            turnOn (.new implKey) connId choice.onOutcome [.clear, .clear]
          else (shared, some (.error (.unsupported implKey)), [])
  | none =>
      if implKey = [] then (none, none, [])
      else if implKey ∈ registry.creators then
        turnOn (.new implKey) connId choice.onOutcome []
      else (none, some (.error (.unsupported implKey)), [])

/-- A call that is too slow goes on under the lock, for which the next section of its caller waits. The
caller gets an error. -/
def turnOnPrivacy (registry : Registry) (shared : Shared) (implKey : ImplKey) (connId : Int)
    (choice : Choice) : Shared × TurnOnResult × List PlatformCall :=
  let (shared, result, calls) := turnOnPrivacySync registry shared implKey connId choice
  (shared, if choice.timedOut then some (.error .timeout) else result, calls)

def turnOffPrivacy (shared : Shared) (connId : Int) (outcome : OffOutcome) :
    Shared × Option (Except PrivacyError Unit) × List PlatformCall :=
  match shared with
  | none => (none, none, [])
  | some impl =>
      let (impl, result, calls) := impl.turnOffPrivacy connId outcome
      (some impl, some result, calls)

/-- The answers to a peer. -/
inductive Answer where
  | onFailedDenied
  | notSupported
  | onSucceeded
  | onFailed
  | onFailedPlugin
  | offSucceeded
  | offFailed
  | closed
deriving DecidableEq

def turnOffAnswer : Option (Except PrivacyError Unit) → Answer
  | some (.ok ()) => .offSucceeded
  | some (.error _) => .offFailed
  | none => .offFailed

/-- The next section of a request. A failed turn-on asks whether the mode is on, and turns it off
with the invalid id. A closing connection turns its own mode off. -/
inductive Stage where
  | turningOn (implKey : ImplKey)
  | judging (result : TurnOnResult)
  | failing
  | turningOffOwn
  | turningOffAny
  | turningOff
  | closing
  | closingOff
  | done (answer : Answer)
deriving DecidableEq

structure Request where
  conn : ConnId
  stage : Stage
deriving DecidableEq

def Request.to (request : Request) (stage : Stage) : Request := { request with stage := stage }

/-- A turn-on is permitted to an authorized connection with the permission. -/
inductive Call where
  | turnOn (conn : ConnId) (permitted : Bool) (implKey : ImplKey)
  | turnOff (conn : ConnId)
  | close (conn : ConnId)
deriving DecidableEq

def enter (registry : Registry) (shared : Shared) : Call → Shared × Request
  | .turnOn conn permitted implKey =>
      (shared, ⟨conn,
        if !permitted then .done .onFailedDenied
        else if !registry.isPrivacyModeSupported then .done .notSupported
        else .turningOn implKey⟩)
  | .turnOff conn =>
      (shared, ⟨conn,
        if !registry.isPrivacyModeSupported then .done .notSupported else .turningOff⟩)
  | .close conn => (shared, ⟨conn, .closing⟩)

/-- The next section of `turn_on_privacy` or `turn_off_privacy` of a connection, or of its close. -/
def move (registry : Registry) (shared : Shared) (request : Request) (choice : Choice) :
    Shared × Request × List PlatformCall :=
  match request.stage with
  | .turningOn implKey =>
      let (next, result, calls) :=
        turnOnPrivacy registry shared implKey request.conn.id choice
      (next, request.to (.judging result), calls)
  | .judging (some (.ok true)) =>
      (shared, request.to (if choice.checkError then .turningOffOwn else .done .onSucceeded), [])
  | .judging (some (.ok false)) => (shared, request.to (.done .onFailedPlugin), [])
  | .judging (some (.error _)) => (shared, request.to .failing, [])
  | .judging none => (shared, request.to (.done .offFailed), [])
  | .failing =>
      (shared,
        request.to (if isInPrivacyMode shared then .turningOffAny else .done .onFailed), [])
  | .turningOffOwn =>
      let (next, _, calls) := turnOffPrivacy shared request.conn.id choice.offOutcome
      (next, request.to (.done .onFailed), calls)
  | .turningOffAny =>
      let (next, _, calls) := turnOffPrivacy shared invalidPrivacyModeConnId choice.offOutcome
      (next, request.to (.done .onFailed), calls)
  | .turningOff =>
      let (next, result, calls) := turnOffPrivacy shared request.conn.id choice.offOutcome
      (next, request.to (.done (turnOffAnswer result)), calls)
  | .closing =>
      (shared,
        request.to (if shared.map (·.connId) = some request.conn.id then .closingOff
          else .done .closed), [])
  | .closingOff =>
      let (next, _, calls) := turnOffPrivacy shared request.conn.id choice.offOutcome
      (next, request.to (.done .closed), calls)
  | .done _ => (shared, request, [])

/-- What the host does with the mode. A clear keeps the owner where the platform fails. -/
inductive HostChange where
  | clear (outcome : OffOutcome)
  | turnOffByPeer (outcome : OffOutcome)
  | switch (implKey : ImplKey)
deriving DecidableEq

def host (registry : Registry) (shared : Shared) : HostChange → Shared
  | .clear outcome => shared.map fun impl => (impl.turnOffPrivacy impl.connId outcome).1
  | .turnOffByPeer outcome => (turnOffPrivacy shared invalidPrivacyModeConnId outcome).1
  | .switch implKey =>
      if shared.map (·.implKey) = some implKey then shared
      else if implKey ∈ registry.creators then some (.new implKey)
      else shared

/-- Requests begin at any time, and their sections run in any order. -/
def program (registry : Registry) :
    Threads.Program Shared Request Call Choice HostChange PlatformCall where
  enter := enter registry
  move := move registry
  disturb := host registry

abbrev Host := Threads.State Shared Request

def Host.start (shared : Shared) : Host where
  shared := shared
  threads := []

end SubnetDesk.PrivacyMode
