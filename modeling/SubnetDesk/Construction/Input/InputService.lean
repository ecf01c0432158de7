/-
This file defines the handlers of a peer's key events in the legacy mode and of its mouse events.
-/

import SubnetDesk.Construction.Input.Enigo

namespace SubnetDesk.InputService

inductive KeyboardMode where
  | legacy
  | map
  | translate
  | auto
  deriving DecidableEq

inductive KeyUnion where
  | controlKey (value : BitVec 32)
  | chr (chr : BitVec 32)
  | unicode (chr : BitVec 32)
  | seq (seq : List Char)
  | win2winHotkey (code : BitVec 32)
  deriving DecidableEq

/-- A number that is no mode of this build has no mode. -/
structure KeyEvent where
  down : Bool
  union : Option KeyUnion
  modifiers : List (BitVec 32) := []
  mode : Option KeyboardMode := some .legacy
  deriving DecidableEq

inductive KeysDown where
  | rdevKey (code : BitVec 32)
  | enigoKey (key : BitVec 64)
  deriving DecidableEq

/-- Instants count milliseconds. -/
structure State where
  host : Host := {}
  keysDown : List (KeysDown × Nat) := []
  exiting : Bool := false

def keyCharStart : BitVec 64 := 9999

def recordPressedKey (keysDown : List (KeysDown × Nat)) (record : KeysDown) (down : Bool)
    (now : Nat) : List (KeysDown × Nat) :=
  let others := keysDown.filter fun entry => entry.1 ≠ record
  if down then others ++ [(record, now)] else others

/-- The keys that are released where a list does not name their modifier, unless the event is about
the key itself. -/
def fixedModifiers : List (ControlKey × ControlKey × Key) :=
  [
    (.shift, .shift, .shift),
    (.rShift, .shift, .rightShift),
    (.alt, .alt, .alt),
    (.rAlt, .alt, .rightAlt),
    (.control, .control, .control),
    (.rControl, .control, .rightControl),
    (.meta_, .meta_, .meta_),
    (.rWin, .meta_, .rWin)]

section Modifiers

variable (backend : Backend)

def fixModifier (modifiers : List (BitVec 32)) (key0 : ControlKey) (key1 : Key) (host : Host) :
    Host :=
  if host.getModifierState backend key1 && !modifiers.contains key0.value then
    if backend.system = .windows ∧ key0 = .control ∧ host.getModifierState backend .alt then host
    else host.keyUp backend key1
  else host

def fixModifiers (modifiers : List (BitVec 32)) (host : Host) (ck : BitVec 32) : Host :=
  fixedModifiers.foldl
    (fun host entry =>
      if ck ≠ entry.1.value then fixModifier backend modifiers entry.2.1 entry.2.2 host else host)
    host

def getControlKeyValue (event : KeyEvent) : BitVec 32 :=
  match event.union with
  | some (.controlKey value) => value
  | _ => -1

def hasHotkeyModifiers (event : KeyEvent) : Bool :=
  event.modifiers.any fun value =>
    [ControlKey.control, .rControl, .meta_, .rWin, .alt, .rAlt].any fun ck => value = ck.value

def releaseUnpressedModifiers (host : Host) (event : KeyEvent) : Host :=
  fixModifiers backend event.modifiers host (getControlKeyValue event)

/-- The code that is looked up is the number of the control key. -/
def isAltgrPressed (keysDown : List (KeysDown × Nat)) : Bool :=
  keysDown.any fun entry => entry.1 = .rdevKey ControlKey.rAlt.value

def skipsAlt (keysDown : List (KeysDown × Nat)) (key : Key) : Bool :=
  backend.system ≠ .windows && key = .alt && isAltgrPressed keysDown

/-- The keys that were up are pressed, and are to be released. -/
def pressModifiers (keysDown : List (KeysDown × Nat)) (host : Host) :
    List (BitVec 32) → Host × List Key
  | [] => (host, [])
  | value :: rest =>
      match controlKeyValueToKey value with
      | none => pressModifiers keysDown host rest
      | some key =>
          if host.getModifierState backend key then pressModifiers keysDown host rest
          else if skipsAlt backend keysDown key then pressModifiers keysDown host rest
          else
            let (next, toRelease) := pressModifiers keysDown (host.keyDown backend key).1 rest
            (next, key :: toRelease)

def syncModifiers (keysDown : List (KeysDown × Nat)) (host : Host) (event : KeyEvent) :
    Host × List Key :=
  if event.down then
    pressModifiers backend keysDown (releaseUnpressedModifiers backend host event) event.modifiers
  else (host, [])

def releaseKeys (host : Host) (toRelease : List Key) : Host :=
  toRelease.foldl (fun host key => host.keyUp backend key) host

def processControlKey (host : Host) (value : BitVec 32) (down : Bool) : Host :=
  match controlKeyValueToKey value with
  | none => host
  | some key => if down then (host.keyDown backend key).1 else host.keyUp backend key

def isHotkeyModifierPressed (host : Host) : Bool :=
  [Key.control, .rightControl, .alt, .rightAlt, .meta_, .rWin].any
    fun key => host.getModifierState backend key

/-- The key is released through the library for input, or straight at the X server. -/
def Host.releaseShift (host : Host) (key : Key) : Host :=
  if host.getModifierState backend key then
    if backend.system.isX11 then host.release (backend.position key).toFinset ∅
    else host.keyUp backend key
  else host

def releaseShiftForCharInput (host : Host) : Host :=
  if backend.system = .windows ∨ isHotkeyModifierPressed backend host then host
  else (host.releaseShift backend .shift).releaseShift backend .rightShift

def xkbKeyInsert : BitVec 16 := 118

/-- The text is pasted with Shift and Insert. -/
def inputTextViaClipboardServer (host : Host) (text : List Char) : Host :=
  if text = [] then host
  else if backend.setClipboardForPasteSync text then
    let shifted := (host.keyDown backend .shift).1
    let pasted := (shifted.keyDown backend (.raw xkbKeyInsert)).1
    (pasted.keyUp backend (.raw xkbKeyInsert)).keyUp backend .shift
  else host

def needToUppercase (host : Host) : Bool :=
  host.getModifierState backend .shift || host.getModifierState backend .capsLock

/-- The character of a value, where it is one. -/
def charTryFrom (value : BitVec 32) : Option Char :=
  if value.toNat.isValidChar then some (Char.ofNat value.toNat) else none

def processChrKey (host : Host) (chr : BitVec 32) (down : Bool) : Host :=
  let key := charValueToKey chr
  if down then
    let (next, found) := host.keyDown backend key
    if found then next
    else
      match charTryFrom chr with
      | none => next
      | some char =>
          next.keySequence backend
            (if needToUppercase backend next then backend.toUppercase char else [char])
  else host.keyUp backend key

def processChr (host : Host) (chr : BitVec 32) (down hotkey : Bool) : Host :=
  if backend.system = .uinput ∧ isHotkeyModifierPressed backend host = false then
    match charTryFrom chr with
    | none => host
    | some char =>
        if isAsciiPrintable char then
          if down then (host.keyDown backend (.layout char)).1
          else host.keyUp backend (.layout char)
        else if down then inputTextViaClipboardServer backend host [char]
        else host
  else if backend.system = .windows ∧ hotkey = false then
    if down then
      match charTryFrom chr with
      | none => host
      | some char => host.keySequence backend [char]
    else host
  else processChrKey backend host chr down

def processUnicode (host : Host) (chr : BitVec 32) : Host :=
  match charTryFrom chr with
  | none => host
  | some char =>
      if backend.system = .uinput ∧ isAsciiPrintable char = false then
        inputTextViaClipboardServer backend host [char]
      else host.keySequence backend [char]

def processSeq (host : Host) (sequence : List Char) : Host :=
  if backend.system = .uinput ∧ sequence.all isAsciiPrintable = false then
    inputTextViaClipboardServer backend host sequence
  else host.keySequence backend sequence

def isFunctionKey (value : BitVec 32) : Bool :=
  value = ControlKey.ctrlAltDel.value || value = ControlKey.lockScreen.value

/-- A function key ends the handler at once. -/
def legacyKeyboardMode (state : State) (event : KeyEvent) (now : Nat) : State :=
  let (host, toRelease) := syncModifiers backend state.keysDown state.host event
  match event.union with
  | some (.controlKey value) =>
      if isFunctionKey value then { state with host := host }
      else
        { state with
          keysDown :=
            recordPressedKey state.keysDown (.enigoKey (value.signExtend 64)) event.down now
          host := releaseKeys backend (processControlKey backend host value event.down) toRelease }
  | some (.chr chr) =>
      let host := releaseShiftForCharInput backend host
      { state with
        keysDown :=
          recordPressedKey state.keysDown (.enigoKey (chr.setWidth 64 + keyCharStart)) event.down
            now
        host :=
          releaseKeys backend (processChr backend host chr event.down (hasHotkeyModifiers event))
            toRelease }
  | some (.unicode chr) =>
      let host := releaseShiftForCharInput backend host
      { state with host := releaseKeys backend (processUnicode backend host chr) toRelease }
  | some (.seq seq) =>
      { state with host := releaseKeys backend (processSeq backend host seq) toRelease }
  | _ => { state with host := releaseKeys backend host toRelease }

end Modifiers

structure MouseEvent where
  mask : BitVec 32
  x : BitVec 32
  y : BitVec 32
  modifiers : List (BitVec 32) := []

inductive MouseButton where
  | left
  | middle
  | right
  | back
  | forward
  deriving DecidableEq

inductive Pointer where
  | moveTo (x y : BitVec 32)
  | moveRelative (dx dy : BitVec 32)
  | down (button : MouseButton)
  | up (button : MouseButton)
  | scrollX (length : BitVec 32)
  | scrollY (length : BitVec 32)
  deriving DecidableEq

def mouseTypeMove : BitVec 32 := 0

def mouseTypeDown : BitVec 32 := 1

def mouseTypeUp : BitVec 32 := 2

def mouseTypeWheel : BitVec 32 := 3

def mouseTypeTrackpad : BitVec 32 := 4

def mouseTypeMoveRelative : BitVec 32 := 5

def mouseTypeMask : BitVec 32 := 7

def MouseEvent.type (event : MouseEvent) : BitVec 32 := event.mask &&& mouseTypeMask

def mouseButton (buttons : BitVec 32) : Option MouseButton :=
  if buttons = 0x01 then some .left
  else if buttons = 0x02 then some .right
  else if buttons = 0x04 then some .middle
  else if buttons = 0x08 then some .back
  else if buttons = 0x10 then some .forward
  else none

def clampDelta (delta : BitVec 32) : BitVec 32 :=
  if delta.slt (-10000) then -10000 else if (10000 : BitVec 32).slt delta then 10000 else delta

section Mouse

variable (backend : Backend)

def scroll (event : MouseEvent) : List Pointer :=
  let factor : BitVec 32 :=
    if backend.system = .windows ∧ event.type ≠ mouseTypeTrackpad then 120 else 1
  let x := -event.x * factor
  let y := (if backend.system = .windows then event.y else -event.y) * factor
  (if y ≠ 0 then [.scrollY y] else []) ++ (if x ≠ 0 then [.scrollX x] else [])

def pointer (event : MouseEvent) : List Pointer :=
  let buttons := event.mask.sshiftRight 3
  if event.type = mouseTypeMove then
    let (x, y) :=
      if backend.system = .uinput then backend.remapWaylandUinputCoord (event.x, event.y)
      else (event.x, event.y)
    [.moveTo x y]
  else if event.type = mouseTypeMoveRelative then
    [.moveRelative (clampDelta event.x) (clampDelta event.y)]
  else if event.type = mouseTypeDown then (mouseButton buttons).toList.map .down
  else if event.type = mouseTypeUp then (mouseButton buttons).toList.map .up
  else if event.type = mouseTypeWheel ∨ event.type = mouseTypeTrackpad then scroll backend event
  else []

def pressMouseModifiers (host : Host) : List (BitVec 32) → Host × List Key
  | [] => (host, [])
  | value :: rest =>
      match controlKeyValueToKey value with
      | none => pressMouseModifiers host rest
      | some key =>
          if key ≠ .capsLock ∧ key ≠ .numLock ∧ host.getModifierState backend key = false then
            let (next, toRelease) := pressMouseModifiers (host.keyDown backend key).1 rest
            (next, key :: toRelease)
          else pressMouseModifiers host rest

def syncMouseModifiers (host : Host) (event : MouseEvent) : Host × List Key :=
  if event.type = mouseTypeDown then
    pressMouseModifiers backend (fixModifiers backend event.modifiers host 0) event.modifiers
  else (host, [])

def handleMouseSimulation (state : State) (event : MouseEvent) : State × List Pointer :=
  if state.exiting then (state, [])
  else
    let (host, toRelease) := syncMouseModifiers backend state.host event
    ({ state with host := releaseKeys backend host toRelease }, pointer backend event)

end Mouse

end SubnetDesk.InputService
