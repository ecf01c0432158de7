/-
This file defines the owner of the keyboard grab, the calls of the session windows that change it, and
the threads that release it later.
-/

import SubnetDesk.Foundation.Threads

namespace SubnetDesk.Keyboard

abbrev SessionId := BitVec 128

inductive GrabState where
  | ready
  | run
  | wait
  | exit
deriving DecidableEq

/-- The times are readings of a clock in nanoseconds. -/
structure GrabOwnerState where
  owner : Option SessionId
  lastGrab : Option Nat
  deferredPending : Bool
deriving DecidableEq

def grabDebounceMs : Nat := 300

def asMillis (nanos : Nat) : Nat := nanos / 1000000

inductive GrabCall where
  | disableGrab
  | enableGrab
deriving DecidableEq

/-- The lock of the grab operations carries the calls that its holder still has to make. -/
structure Shared (Key Event : Type) where
  rdevEnabled : Bool
  now : Nat
  keyboardHooked : Bool
  grab : GrabOwnerState
  toRelease : List (Key × Event)
  grabOpLock : Option (List GrabCall)
  grabbed : Bool
deriving DecidableEq

/-- What a call still has to do after it has left the lock of the grab state. -/
inductive Thread (Key Event : Type) where
  | sleeping (session : SessionId) (snapshot : Option Nat) (due : Nat) (mode : String)
  | disabling (mode : String) (keys : List (Key × Event))
  | regrabbing (session : SessionId) (disableFirst : Bool)
  | operating (release : Option (String × List (Key × Event)))
  | releasing (mode : String) (keys : List (Key × Event))
  | done
deriving DecidableEq

/-- The clock advances before a call takes the lock. -/
structure Call where
  state : GrabState
  keyboardMode : String
  session : SessionId
  elapsed : Nat
deriving DecidableEq

inductive Change (Key Event : Type) where
  | setRdevEnabled (enabled : Bool)
  | press (key : Key) (event : Event)
  | lift (key : Key)
deriving DecidableEq

inductive Output (Key Event : Type) where
  | called (call : GrabCall)
  | released (mode : String) (keys : List (Key × Event))
deriving DecidableEq

variable {Key Event : Type}

/-- The keys are released when the grab is disabled. -/
def Thread.afterwards : Option (String × List (Key × Event)) → Thread Key Event
  | some (mode, keys) => .releasing mode keys
  | none => .done

def Shared.after (shared : Shared Key Event) (elapsed : Nat) : Shared Key Event :=
  { shared with now := shared.now + elapsed }

/-- The keys are taken under the lock of the grab state. -/
def Shared.letGo (shared : Shared Key Event) : Shared Key Event :=
  { shared with
    keyboardHooked := false
    grab := ⟨none, none, false⟩
    toRelease := [] }

def run (shared : Shared Key Event) (session : SessionId) : Shared Key Event × Thread Key Event :=
  if shared.grab.owner = some session then
    ({ shared with grab := ⟨some session, some shared.now, false⟩ }, .done)
  else
    ({ shared with
        keyboardHooked := true
        grab := ⟨some session, some shared.now, false⟩ },
      .regrabbing session shared.grab.owner.isSome)

/-- A wait right after a grab may be an echo of the grab itself, so its release is deferred. -/
def wait (shared : Shared Key Event) (keyboardMode : String) (session : SessionId) :
    Shared Key Event × Thread Key Event :=
  if shared.grab.owner ≠ some session then (shared, .done)
  else
    match shared.grab.lastGrab with
    | some time =>
        let elapsed := asMillis (shared.now - time)
        if elapsed < grabDebounceMs then
          if shared.grab.deferredPending then (shared, .done)
          else
            ({ shared with grab := { shared.grab with deferredPending := true } },
              .sleeping session shared.grab.lastGrab
                (shared.now + (grabDebounceMs - elapsed + 50) * 1000000) keyboardMode)
        else (shared.letGo, .disabling keyboardMode shared.toRelease)
    | none => (shared.letGo, .disabling keyboardMode shared.toRelease)

/-- The part of `change_grab_status` that holds the lock of the grab state, on X11. -/
def changeGrabStatus (shared : Shared Key Event) (call : Call) :
    Shared Key Event × Thread Key Event :=
  let shared := shared.after call.elapsed
  if shared.rdevEnabled then
    match call.state with
    | .run => run shared call.session
    | .wait => wait shared call.keyboardMode call.session
    | .ready => (shared, .done)
    | .exit => (shared, .done)
  else (shared, .done)

/-- A deferred release is cancelled when the grab was refreshed. -/
def deferredRelease (shared : Shared Key Event) (session : SessionId) (snapshot : Option Nat)
    (mode : String) : Shared Key Event × Thread Key Event :=
  if shared.grab.owner = some session ∧ shared.grab.lastGrab = snapshot then
    (shared.letGo, .disabling mode shared.toRelease)
  else (shared, .done)

def disableGrabIfReleased (shared : Shared Key Event)
    (release : Option (String × List (Key × Event))) : Shared Key Event × Thread Key Event :=
  if shared.grab.owner = none ∧ shared.grab.lastGrab = none then
    ({ shared with grabOpLock := some [.disableGrab] }, .operating release)
  else (shared, .afterwards release)

def applyRunGrabIfOwner (shared : Shared Key Event) (session : SessionId) (disableFirst : Bool) :
    Shared Key Event × Thread Key Event :=
  if shared.grab.owner = some session then
    ({ shared with
        grabOpLock := some (if disableFirst then [.disableGrab, .enableGrab] else [.enableGrab]) },
      .operating none)
  else (shared, .afterwards none)

/-- The holder of the lock makes its calls one by one. -/
def operate (shared : Shared Key Event) (release : Option (String × List (Key × Event))) :
    Shared Key Event × Thread Key Event × List (Output Key Event) :=
  match shared.grabOpLock with
  | some (call :: rest) =>
      ({ shared with
          grabOpLock := some rest
          grabbed := decide (call = .enableGrab) },
        .operating release, [.called call])
  | _ => ({ shared with grabOpLock := none }, .afterwards release, [])

/-- A thread that needs the lock of the grab operations waits until it is free. -/
def move (shared : Shared Key Event) (thread : Thread Key Event) (elapsed : Nat) :
    Shared Key Event × Thread Key Event × List (Output Key Event) :=
  let shared := shared.after elapsed
  match thread with
  | .sleeping session snapshot due mode =>
      if shared.now < due then (shared, thread, [])
      else
        let (shared, next) := deferredRelease shared session snapshot mode
        (shared, next, [])
  | .disabling mode keys =>
      if shared.grabOpLock = none then
        let (shared, next) := disableGrabIfReleased shared (some (mode, keys))
        (shared, next, [])
      else (shared, thread, [])
  | .regrabbing session disableFirst =>
      if shared.grabOpLock = none then
        let (shared, next) := applyRunGrabIfOwner shared session disableFirst
        (shared, next, [])
      else (shared, thread, [])
  | .operating release => operate shared release
  | .releasing mode keys => (shared, .done, [.released mode keys])
  | .done => (shared, .done, [])

/-- The events of the keyboard record the keys that are down. -/
def disturb [DecidableEq Key] (shared : Shared Key Event) : Change Key Event → Shared Key Event
  | .setRdevEnabled enabled => { shared with rdevEnabled := enabled }
  | .press key event =>
      { shared with toRelease := (key, event) :: shared.toRelease.filter (·.1 ≠ key) }
  | .lift key => { shared with toRelease := shared.toRelease.filter (·.1 ≠ key) }

def program (Key Event : Type) [DecidableEq Key] :
    Threads.Program (Shared Key Event) (Thread Key Event) Call Nat (Change Key Event)
      (Output Key Event) where
  enter := changeGrabStatus
  move := move
  disturb := disturb

abbrev World (Key Event : Type) := Threads.State (Shared Key Event) (Thread Key Event)

def World.start (rdevEnabled : Bool) : World Key Event where
  shared := ⟨rdevEnabled, 0, false, ⟨none, none, false⟩, [], none, false⟩
  threads := []

end SubnetDesk.Keyboard
