/-
This file defines the key events of a connection, and the modifiers that it remembers as pressed. The
handler of messages knows keys by their codes only.
-/

import SubnetDesk.Foundation.Machine
import Mathlib.Data.Finset.Basic

namespace SubnetDesk.KeyEvents

/-- The systems that can be controlled with a keyboard. -/
inductive Host where
  | linux
  | windows
  | macos
deriving DecidableEq

inductive Key where
  | shiftLeft
  | shiftRight
  | controlLeft
  | controlRight
  | metaLeft
  | metaRight
  | alt
  | altGr
  | other (code : Nat)
deriving DecidableEq

def Key.isModifier : Key → Bool
  | .other _ => false
  | _ => true

inductive ControlKey where
  | alt
  | shift
  | control
  | meta_
  | rAlt
  | rShift
  | rControl
  | rWin
  | other (value : Nat)
deriving DecidableEq

/-- The key that is simulated for a control key that is a modifier. -/
def ControlKey.modifier : ControlKey → Option Key
  | .alt => some .alt
  | .shift => some .shiftLeft
  | .control => some .controlLeft
  | .meta_ => some .metaLeft
  | .rAlt => some .altGr
  | .rShift => some .shiftRight
  | .rControl => some .controlRight
  | .rWin => some .metaRight
  | .other _ => none

inductive KeyboardMode where
  | legacy
  | map
  | translate
  | auto
deriving DecidableEq

inductive KeyUnion where
  | controlKey (key : ControlKey)
  | chr (code : BitVec 32)
  | unicode (code : BitVec 32)
  | seq (text : List Char)
  | win2winHotkey (code : BitVec 32)
deriving DecidableEq

/-- A number that is no mode of this build has no mode. -/
structure KeyEvent where
  down : Bool
  press : Bool
  union : Option KeyUnion
  mode : Option KeyboardMode
deriving DecidableEq

/-- A field that is not set is zero. -/
def KeyEvent.chr (event : KeyEvent) : BitVec 32 :=
  match event.union with
  | some (.chr code) => code
  | _ => 0

def KeyEvent.isModifier (event : KeyEvent) : Bool :=
  match event.union with
  | some (.controlKey key) => key.modifier.isSome
  | _ => false

/-- What the library for keys knows of codes: the key that a code is read as, and those that are
simulated for a raw code, for a virtual one, and for a hotkey. -/
structure KeyCodes where
  keycodeToRdevKey : BitVec 32 → Key
  positionKey : BitVec 32 → Key
  virtualKey : BitVec 32 → Key
  hotkeyKey : BitVec 32 → Key

section Events

variable (host : Host) (codes : KeyCodes)

/-- The modifier that the connection remembers for an event. -/
def trackedKey (event : KeyEvent) : Option Key :=
  Option.filter Key.isModifier
    (match event.mode with
    | some .map => some (codes.keycodeToRdevKey event.chr)
    | some .translate =>
        match event.union with
        | some (.chr code) => some (codes.keycodeToRdevKey (code &&& 0x0000FFFF))
        | _ => none
    | _ => none)

def isPress (event : KeyEvent) : Bool :=
  match host with
  | .linux => (event.press || event.down) && !(event.isModifier || (trackedKey codes event).isSome)
  | _ => event.press

/-- Text is not clicked. -/
def KeyEvent.isText (event : KeyEvent) : Bool :=
  match event.union with
  | some (.unicode _) => true
  | some (.seq _) => true
  | _ => false

/-- The events are forwarded to the input thread with their press flags. -/
structure Controlled where
  keyboard : Bool
  viewCamera : Bool
  disableKeyboard : Bool := false
  pressedModifiers : Finset Key := ∅
  forwarded : List (KeyEvent × Bool) := []

def Controlled.peerKeyboardEnabled (controlled : Controlled) : Bool :=
  controlled.keyboard && !controlled.disableKeyboard

def trackModifier (pressed : Finset Key) (event : KeyEvent) : Finset Key :=
  match trackedKey codes event with
  | some key => if isPress host codes event then insert key pressed else pressed.erase key
  | none => pressed

def onKeyEvent (controlled : Controlled) (event : KeyEvent) : Controlled :=
  if controlled.viewCamera then controlled
  else if controlled.peerKeyboardEnabled then
    { controlled with
      pressedModifiers := trackModifier host codes controlled.pressedModifiers event
      forwarded := controlled.forwarded ++ [(event, isPress host codes event && !event.isText)] }
  else controlled

/-- The input thread presses and releases a key for an event that is a click. -/
def handleInput (forwarded : KeyEvent × Bool) : List KeyEvent :=
  let msg := { forwarded.1 with press := false }
  if forwarded.2 then [{ msg with down := true }, { msg with down := false }] else [msg]

/-- The modifier that is pressed or released for an event, in the mode of the event. -/
def simulatedKey (event : KeyEvent) : Option Key :=
  Option.filter Key.isModifier
    (match event.mode with
    | some .map => some (codes.positionKey event.chr)
    | some .translate =>
        match event.union, host with
        | some (.chr code), .windows =>
            if code >>> 16 = 0 then some (codes.positionKey code)
            else some (codes.virtualKey (code >>> 16))
        | some (.win2winHotkey code), .windows => some (codes.hotkeyKey code)
        | some (.chr code), _ => some (codes.positionKey code)
        | _, _ => none
    | _ =>
        match event.union with
        | some (.controlKey key) => key.modifier
        | _ => none)

def simulate (held : Finset Key) (event : KeyEvent) : Finset Key :=
  match simulatedKey host codes event with
  | some key => if event.down then insert key held else held.erase key
  | none => held

/-- The modifiers that have been pressed for the forwarded events and have not been released. -/
def Controlled.held (controlled : Controlled) : Finset Key :=
  (controlled.forwarded.flatMap handleInput).foldl (simulate host codes) ∅

/-- The modifiers that stay pressed when the connection is dropped, which releases those of its set. -/
def Controlled.heldAfterDrop (controlled : Controlled) : Finset Key :=
  controlled.held host codes \ controlled.pressedModifiers

inductive Input where
  | key (event : KeyEvent)
  | disableKeyboard (on : Bool)

def machine : Machine Controlled Input Unit where
  step controlled
    | .key event => (onKeyEvent host codes controlled event, [])
    | .disableKeyboard on => ({ controlled with disableKeyboard := on }, [])

end Events

end SubnetDesk.KeyEvents
