/-
This file defines the keyboard of a host, and how the library for input presses, releases and reads
its keys on each system.
-/

import SubnetDesk.Construction.Input.Keys

namespace SubnetDesk.InputService

inductive System where
  | windows
  | x11
  | uinput
  | rdpInput
  deriving DecidableEq

def System.isX11 : System → Bool
  | .x11 => true
  | _ => false

inductive Position where
  | shiftLeft
  | shiftRight
  | controlLeft
  | controlRight
  | altLeft
  | altRight
  | metaLeft
  | metaRight
  | capsLock
  | numLock
  | scrollLock
  | code (code : Nat)
  deriving DecidableEq

/-- The layout of the host says where the other keys are, which keys are held along with a
character, and which ones are pressed and released for a text. -/
structure Backend where
  system : System
  code : Key → Option Nat
  chord : Char → Finset Position
  taps : List Char → Finset Position
  toUppercase : Char → List Char
  setClipboardForPasteSync : List Char → Bool
  remapWaylandUinputCoord : BitVec 32 × BitVec 32 → BitVec 32 × BitVec 32

/-- The keys that are down, those of them that were pressed for a peer and not released since, those
that the portal session has pressed, and the lights that are on. -/
structure Host where
  held : Finset Position := ∅
  injected : Finset Position := ∅
  tracked : Finset Position := ∅
  locked : Finset Position := ∅

def lockPositions : Finset Position := {.capsLock, .numLock, .scrollLock}

/-- The codes of the X server and of the raw keys are eight above those of the kernel. -/
def rawPosition (code : Nat) : Option Position :=
  if code < 8 then none
  else
    some
      (match code - 8 with
      | 29 => .controlLeft
      | 42 => .shiftLeft
      | 54 => .shiftRight
      | 56 => .altLeft
      | 58 => .capsLock
      | 69 => .numLock
      | 70 => .scrollLock
      | 97 => .controlRight
      | 100 => .altRight
      | 125 => .metaLeft
      | 126 => .metaRight
      | other => .code other)

section Keyboard

variable (backend : Backend)

def Backend.trackedPosition : Key → Option Position
  | .shift => some .shiftLeft
  | .rightShift => some .shiftRight
  | .control => some .controlLeft
  | .rightControl => some .controlRight
  | .alt => some .altLeft
  | .rightAlt => some .altRight
  | .meta_ => some .metaLeft
  | .rWin => if backend.system = .x11 then some .metaLeft else some .metaRight
  | .capsLock => some .capsLock
  | .numLock => some .numLock
  | .scroll => some .scrollLock
  | .option =>
      if backend.system = .windows then some .altLeft
      else (backend.code .option).map .code
  | .raw code => rawPosition code.toNat
  | .layout chr =>
      match backend.system with
      | .windows | .x11 => (backend.code (.layout chr)).map .code
      | .uinput | .rdpInput =>
          if isAsciiPrintable chr then (backend.code (.layout chr)).map .code else none
  | key => (backend.code key).map .code

/-- The portal has no right meta key for a raw code. -/
def Backend.position (key : Key) : Option Position :=
  match backend.system, key with
  | .rdpInput, .raw code => if code.toNat = 134 then some .metaLeft else rawPosition code.toNat
  | _, key => backend.trackedPosition key

/-- The keys that go down with a key. -/
def Backend.chordOf (key : Key) : Finset Position :=
  match key with
  | .layout chr => if (backend.position key).isSome then backend.chord chr else ∅
  | _ => ∅

def Backend.presses (key : Key) : Finset Position :=
  (backend.position key).toFinset ∪ backend.chordOf key

/-- A lock key changes its light when it goes down. -/
def Host.press (host : Host) (positions tracked : Finset Position) : Host where
  held := host.held ∪ positions
  injected := host.injected ∪ positions
  tracked := host.tracked ∪ tracked
  locked := symmDiff host.locked (positions ∩ lockPositions)

def Host.release (host : Host) (positions tracked : Finset Position) : Host where
  held := host.held \ positions
  injected := host.injected \ positions
  tracked := host.tracked \ tracked
  locked := host.locked

def Host.keySequence (host : Host) (sequence : List Char) : Host where
  held := host.held \ backend.taps sequence
  injected := host.injected \ backend.taps sequence
  tracked := host.tracked
  locked := host.locked

def Host.keyUp (host : Host) (key : Key) : Host :=
  match backend.system with
  | .windows =>
      host.release (backend.position key).toFinset (backend.trackedPosition key).toFinset
  | _ => host.release (backend.presses key) (backend.trackedPosition key).toFinset

/-- The second part tells whether the key was found. -/
def Host.keyDown (host : Host) (key : Key) : Host × Bool :=
  match backend.system, key with
  | .windows, _ =>
      if (backend.position key).isSome then
        ((host.press (backend.presses key) (backend.trackedPosition key).toFinset).release
          (backend.chordOf key) ∅, true)
      else (host, false)
  | .rdpInput, .layout chr =>
      if isAsciiPrintable chr then (host.press (backend.presses key) ∅, true)
      else (host.keySequence backend [chr], true)
  | _, _ => (host.press (backend.presses key) (backend.trackedPosition key).toFinset, true)

def Host.keyClick (host : Host) (key : Key) : Host :=
  (host.keyDown backend key).1.keyUp backend key

/-- The generic keys read as down with the right ones too. -/
def Host.windowsKeyState (host : Host) : Key → Bool
  | .capsLock => .capsLock ∈ host.locked
  | .numLock => .numLock ∈ host.locked
  | .scroll => .scrollLock ∈ host.locked
  | .shift => .shiftLeft ∈ host.held ∨ .shiftRight ∈ host.held
  | .alt | .option => .altLeft ∈ host.held ∨ .altRight ∈ host.held
  | key => ∃ position ∈ backend.position key, position ∈ host.held

/-- The mask of the X server and the state of the kernel's keyboard tell nothing of the right keys. -/
def Host.maskKeyState (host : Host) : Key → Bool
  | .capsLock => .capsLock ∈ host.locked
  | .numLock => .numLock ∈ host.locked
  | .shift => .shiftLeft ∈ host.held ∨ .shiftRight ∈ host.held
  | .control => .controlLeft ∈ host.held ∨ .controlRight ∈ host.held
  | .alt => .altLeft ∈ host.held ∨ .altRight ∈ host.held
  | .meta_ => .metaLeft ∈ host.held ∨ .metaRight ∈ host.held
  | _ => false

def Host.portalKeyState (host : Host) : Key → Bool
  | .shift => .shiftLeft ∈ host.tracked
  | .rightShift => .shiftRight ∈ host.tracked
  | .control => .controlLeft ∈ host.tracked
  | .rightControl => .controlRight ∈ host.tracked
  | .alt => .altLeft ∈ host.tracked
  | .rightAlt => .altRight ∈ host.tracked
  | .meta_ => .metaLeft ∈ host.tracked
  | .rWin => .metaRight ∈ host.tracked
  | _ => false

def Host.getKeyState (host : Host) (key : Key) : Bool :=
  match backend.system with
  | .windows => host.windowsKeyState backend key
  | .x11 | .uinput => host.maskKeyState key
  | .rdpInput => host.portalKeyState key

def Host.getModifierState (host : Host) (key : Key) : Bool :=
  let x := host.getKeyState backend key
  match key with
  | .shift => x || host.getKeyState backend .rightShift
  | .control => x || host.getKeyState backend .rightControl
  | .alt => x || host.getKeyState backend .rightAlt
  | .meta_ => x || host.getKeyState backend .rWin
  | .rightShift => x || host.getKeyState backend .shift
  | .rightControl => x || host.getKeyState backend .control
  | .rightAlt => x || host.getKeyState backend .alt
  | .rWin => x || host.getKeyState backend .meta_
  | _ => x

end Keyboard

end SubnetDesk.InputService
