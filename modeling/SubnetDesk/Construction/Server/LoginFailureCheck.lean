/-
This file defines the throttle of logins over the local network, the connections that use it, and the
back-off of logins with the credentials of the operating system.
-/

import SubnetDesk.Foundation.Threads
import Mathlib.Logic.Function.Basic
import SubnetDesk.Foundation.Machine
import SubnetDesk.Foundation.Trimming

namespace SubnetDesk.LoginFailureCheck

abbrev Text := List Char

/-- IPv6 addresses as the standard library reads and writes them. Every reading is allowed. -/
structure Ipv6Format where
  parse : Text → Option (BitVec 128)
  display : BitVec 128 → Text

/-- The text of an address has no slash. -/
structure Source where
  ip : Text
  plain : '/' ∉ ip
deriving DecidableEq

def maskU128 (address : BitVec 128) (bits : Nat) : BitVec 128 :=
  address &&& (if bits = 0 ∨ 128 < bits then 0 else BitVec.allOnes 128 <<< (128 - bits))

def trim (text : Text) : Text := Trimming.trim Trimming.isWhitespace text

section Keys

variable (format : Ipv6Format)

/-- The prefixes of an IPv6 address, whose zone is left out. -/
def getIpv6Prefixes (source : Source) : Option (Text × Text × Text) :=
  (format.parse (trim (source.ip.takeWhile (· ≠ '%')))).map fun address =>
    (format.display (maskU128 address 64) ++ "/64".toList,
      format.display (maskU128 address 56) ++ "/56".toList,
      format.display (maskU128 address 48) ++ "/48".toList)

def lanAuthFailureKeys (source : Source) : List Text :=
  source.ip ::
    match getIpv6Prefixes format source with
    | some (p64, p56, p48) => [p64, p56, p48]
    | none => []

end Keys

def clampI64 (value : Int) : Int := max (-(2 ^ 63)) (min (2 ^ 63 - 1) value)

def saturatingAdd (first second : Int) : Int := clampI64 (first + second)

def saturatingSub (first second : Int) : Int := clampI64 (first - second)

def lanAuthBackoffMaxSeconds : Nat := 60

def lanAuthBackoffIdleResetMs : Int := 15 * 60 * 1000

structure LanAuthFailureState where
  failures : Nat := 0
  retryUntilMs : Int := 0
  lastFailureMs : Int := 0
deriving DecidableEq

abbrev Failures := Text → Option LanAuthFailureState

/-- The time that is left of a block, rounded up to seconds. -/
def LanAuthFailureState.retryAfter (state : LanAuthFailureState) (nowMs : Int) : Nat :=
  (max ((saturatingSub state.retryUntilMs nowMs + 999).tdiv 1000) 0).toNat % 2 ^ 32

def LanAuthFailureState.isIdle (state : LanAuthFailureState) (nowMs : Int) : Bool :=
  lanAuthBackoffIdleResetMs ≤ saturatingSub nowMs state.lastFailureMs

def retain (failures : Failures) (nowMs : Int) : Failures :=
  fun key => (failures key).filter fun state => !state.isIdle nowMs

def lanAuthRetryAfterAt (failures : Failures) (keys : List Text) (nowMs : Int) : Nat × Failures :=
  let kept := retain failures nowMs
  (((keys.filterMap kept).map (·.retryAfter nowMs)).max?.getD 0, kept)

def checkedShl (value shift : Nat) : Option Nat :=
  if shift < 32 then some (value * 2 ^ shift % 2 ^ 32) else none

def delaySeconds (failures : Nat) : Nat :=
  if failures < 2 then 0
  else min ((checkedShl 1 (min (failures - 2) 6)).getD lanAuthBackoffMaxSeconds)
    lanAuthBackoffMaxSeconds

/-- One more failure of a key. -/
def LanAuthFailureState.record (state : LanAuthFailureState) (nowMs : Int) : LanAuthFailureState :=
  let state := if state.isIdle nowMs then {} else state
  let failures := min (state.failures + 1) (2 ^ 32 - 1)
  { failures := failures
    lastFailureMs := nowMs
    retryUntilMs := saturatingAdd nowMs (delaySeconds failures * 1000) }

/-- One turn of the loop over the keys. -/
def recordKey (nowMs : Int) (recorded : Failures × Nat) (key : Text) : Failures × Nat :=
  let state := ((recorded.1 key).getD {}).record nowMs
  (Function.update recorded.1 key (some state), max recorded.2 (delaySeconds state.failures))

def recordLanAuthFailureAt (failures : Failures) (keys : List Text) (nowMs : Int) :
    Failures × Nat :=
  keys.foldl (recordKey nowMs) (failures, 0)

def clearLanAuthSource (failures : Failures) (sourceIp : Text) : Failures :=
  Function.update failures sourceIp none

/-- The clock, the gate and the failures are shared by all connections. -/
structure Shared where
  now : Int
  permits : Nat
  failures : Failures
  opened : Nat

inductive Stage where
  | idle
  | allowed
  | verifying
  | verified (result : Bool)
  | authorized
  | closed
deriving DecidableEq

structure Connection where
  id : Nat
  source : Source
  secured : Bool
  webClient : Bool
  stage : Stage
deriving DecidableEq

/-- A connection as it is accepted. -/
structure Peer where
  source : Source
  secured : Bool
  webClient : Bool

/-- What the peer sends, and what the verification of its credentials says. -/
structure Choice where
  lanLogin : Bool
  hasUnion : Bool
  verified : Bool

inductive Output where
  | checked (connection : Nat) (source : Source) (nowMs : Int) (retryAfter : Nat)
  | started (connection : Nat)
  | ended (connection : Nat) (result : Bool)
  | failed (connection : Nat) (source : Source) (nowMs : Int)
  | cleared (connection : Nat) (source : Source)
  | loginError (connection : Nat) (error : String) (retryAfterSeconds : Nat)
deriving DecidableEq

section Login

variable (format : Ipv6Format)

/-- A login request is checked, waits for the gate, is verified and settled in atomic steps. -/
def handleLanLoginRequest (shared : Shared) (connection : Connection) (choice : Choice) :
    Shared × Connection × List Output :=
  match connection.stage with
  | .idle =>
      if choice.lanLogin = false then
        (shared, { connection with stage := .closed },
          [.loginError connection.id "LAN login protocol required" 0])
      else if connection.secured = false then
        (shared, { connection with stage := .closed },
          [.loginError connection.id "Encrypted LAN session required" 0])
      else if connection.webClient = true ∧ choice.hasUnion = true then
        (shared, { connection with stage := .closed },
          [.loginError connection.id "Web sessions only support remote desktop access" 0])
      else
        let keys := lanAuthFailureKeys format connection.source
        let checked := lanAuthRetryAfterAt shared.failures keys shared.now
        let output := .checked connection.id connection.source shared.now checked.1
        if 0 < checked.1 then
          ({ shared with failures := checked.2 }, connection, [output,
            .loginError connection.id "Authentication retry is temporarily blocked" checked.1])
        else
          ({ shared with failures := checked.2 }, { connection with stage := .allowed }, [output])
  | .allowed =>
      match shared.permits with
      | 0 =>
          (shared, { connection with stage := .idle },
            [.loginError connection.id "Authentication is busy; retry shortly" 1])
      | permits + 1 =>
          ({ shared with permits := permits }, { connection with stage := .verifying },
            [.started connection.id])
  | .verifying =>
      ({ shared with permits := shared.permits + 1 },
        { connection with stage := .verified choice.verified },
        [.ended connection.id choice.verified])
  | .verified false =>
      let keys := lanAuthFailureKeys format connection.source
      let recorded := recordLanAuthFailureAt shared.failures keys shared.now
      ({ shared with failures := recorded.1 }, { connection with stage := .idle },
        [.failed connection.id connection.source shared.now,
          .loginError connection.id "Username or password is incorrect" recorded.2])
  | .verified true =>
      ({ shared with failures := clearLanAuthSource shared.failures connection.source.ip },
        { connection with stage := .authorized }, [.cleared connection.id connection.source])
  | .authorized => (shared, connection, [])
  | .closed => (shared, connection, [])

/-- Connections are accepted at any time, and the clock moves forward between their steps. -/
def program : Threads.Program Shared Connection Peer Choice Nat Output where
  enter shared peer :=
    ({ shared with opened := shared.opened + 1 },
      ⟨shared.opened, peer.source, peer.secured, peer.webClient, .idle⟩)
  move := handleLanLoginRequest format
  disturb shared later := { shared with now := shared.now + later }

abbrev LanAuth := Threads.State Shared Connection

def LanAuth.start (now : Int) : LanAuth where
  shared := ⟨now, 2, fun _ => none, 0⟩
  threads := []

end Login

def osCredentialLoginTotalIdleResetMs : Int := 120 * 60 * 1000

def osCredentialLoginBackoffBaseSeconds : Nat := 15

def osCredentialLoginBackoffMaxSeconds : Nat := 30 * 60

inductive FailureScope where
  | default_
  | terminalOsLogin
deriving DecidableEq

inductive AlarmAuditType where
  | terminalOsLoginBackoff
deriving DecidableEq

structure OsCredentialPolicyDecision where
  allowed : Bool
  loginError : Option Text
  audit : Option AlarmAuditType
deriving DecidableEq

/-- The counter is a signed number of 32 bits, and the times are signed numbers of 64 bits. -/
structure OsCredentialFailureState where
  totalFailures : Nat := 0
  backoffUntilMs : Option Int := none
  lastFailureMs : Option Int := none
deriving DecidableEq

/-- The result of an operation on 64 bits where it does not overflow. -/
def checkedI64 (value : Int) : Option Int :=
  if -(2 ^ 63) ≤ value ∧ value < 2 ^ 63 then some value else none

def backoffAuditTypeForScope : FailureScope → Option AlarmAuditType
  | .terminalOsLogin => some .terminalOsLoginBackoff
  | .default_ => none

def osCredentialLoginBackoffSeconds (totalFailures : Nat) : Nat :=
  if totalFailures ≤ 2 then 0
  else
    min (osCredentialLoginBackoffBaseSeconds * 2 ^ min (totalFailures - 3) 7)
      osCredentialLoginBackoffMaxSeconds

def normalizeBackoff (state : OsCredentialFailureState) (nowMs : Int) : OsCredentialFailureState :=
  match state.backoffUntilMs with
  | some untilMs => if untilMs ≤ nowMs then { state with backoffUntilMs := none } else state
  | none => state

def resetTotalsOnIdle (state : OsCredentialFailureState) (nowMs : Int) :
    OsCredentialFailureState :=
  match state.lastFailureMs with
  | some lastMs =>
      if osCredentialLoginTotalIdleResetMs ≤ saturatingSub nowMs lastMs then {} else state
  | none => state

def allowDecision : OsCredentialPolicyDecision := ⟨true, none, none⟩

def blockDecision (loginError : Text) (alarmType : Option AlarmAuditType) :
    OsCredentialPolicyDecision :=
  ⟨false, some loginError, alarmType⟩

def retryText (remainingSeconds : Int) : Text :=
  "Please try again in ".toList ++ (toString remainingSeconds).toList ++ [' '] ++
    (if remainingSeconds = 1 then "second" else "seconds").toList ++ ['.']

/-- The result is empty where an operation overflows. -/
def evaluateOsCredentialPolicy (scope : FailureScope) (nowMs : Int)
    (state : OsCredentialFailureState) :
    Option (OsCredentialFailureState × OsCredentialPolicyDecision) :=
  if scope ≠ .terminalOsLogin then some (state, allowDecision)
  else
    let state := normalizeBackoff (resetTotalsOnIdle state nowMs) nowMs
    match state.backoffUntilMs with
    | none => some (state, allowDecision)
    | some untilMs => do
        let remainingMs := max (← checkedI64 (untilMs - nowMs)) 0
        let remainingSeconds := max ((← checkedI64 (remainingMs + 999)).tdiv 1000) 1
        some (state, blockDecision (retryText remainingSeconds) (backoffAuditTypeForScope scope))

/-- The result is empty where an operation overflows. -/
def recordOsCredentialFailure (scope : FailureScope) (nowMs : Int)
    (state : OsCredentialFailureState) : Option OsCredentialFailureState :=
  if scope ≠ .terminalOsLogin then some state
  else
    let state := normalizeBackoff (resetTotalsOnIdle state nowMs) nowMs
    let totalFailures := min (state.totalFailures + 1) (2 ^ 31 - 1)
    let backoffSeconds := osCredentialLoginBackoffSeconds totalFailures
    if 0 < backoffSeconds then do
      let untilMs ← checkedI64 (nowMs + backoffSeconds * 1000)
      some ⟨totalFailures, some untilMs, some nowMs⟩
    else some ⟨totalFailures, state.backoffUntilMs, some nowMs⟩

/-- A call with the reading of the clock at which it is made. -/
inductive PolicyCall where
  | evaluate (nowMs : Int)
  | recordFailure (nowMs : Int)
deriving DecidableEq

def PolicyCall.nowMs : PolicyCall → Int
  | .evaluate nowMs => nowMs
  | .recordFailure nowMs => nowMs

inductive PolicyReply where
  | decided (decision : OsCredentialPolicyDecision)
  | recorded
  | overflowed
deriving DecidableEq

/-- The calls of all logins to a terminal of the operating system. -/
def osCredentialPolicy : Machine OsCredentialFailureState PolicyCall PolicyReply where
  step state call :=
    match call with
    | .evaluate nowMs =>
        match evaluateOsCredentialPolicy .terminalOsLogin nowMs state with
        | some (next, decision) => (next, [.decided decision])
        | none => (state, [.overflowed])
    | .recordFailure nowMs =>
        match recordOsCredentialFailure .terminalOsLogin nowMs state with
        | some next => (next, [.recorded])
        | none => (state, [.overflowed])

end SubnetDesk.LoginFailureCheck
