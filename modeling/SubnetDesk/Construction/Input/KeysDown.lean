/-
This file defines the handler of a peer's key events on Linux, and the records by which keys that
stay down are released.
-/

import SubnetDesk.Foundation.Machine
import SubnetDesk.Construction.Input.InputService

namespace SubnetDesk.InputService

structure LinuxBackend extends Backend where
  linux : system ≠ .windows

/-- What the library for keys knows of key codes. -/
structure KeyCodes where
  skipLedSyncRdevKey : BitVec 32 → Bool
  isNumpadRdevKey : BitVec 32 → Bool

def KeyEvent.chr (event : KeyEvent) : BitVec 32 :=
  match event.union with
  | some (.chr chr) => chr
  | _ => 0

def skipLedSyncControlKey (value : BitVec 32) : Bool :=
  [ControlKey.control, .rControl, .meta_, .shift, .rShift, .alt, .rAlt, .tab, .return].any
    fun key => value = key.value

def isNumpadControlKey (value : BitVec 32) : Bool :=
  [ControlKey.numpad0, .numpad1, .numpad2, .numpad3, .numpad4, .numpad5, .numpad6, .numpad7,
    .numpad8, .numpad9, .numpadEnter].any fun key => value = key.value

def KeyEvent.isLegacyMode (event : KeyEvent) : Bool :=
  event.mode = none || event.mode = some .legacy

structure LockModesHandler where
  capsLockChanged : Bool
  numLockChanged : Bool

def LockModesHandler.isModifierEnabled (event : KeyEvent) (modifier : ControlKey) : Bool :=
  event.modifiers.contains modifier.value

/-- The code of a key that is pressed by its place on the keyboard. -/
def KeyEvent.rawCode (event : KeyEvent) : Option (BitVec 32) :=
  match event.mode, event.union with
  | some .map, _ => some event.chr
  | some .translate, some (.chr chr) => some chr
  | _, _ => none

section Keyboard

variable (backend : Backend) (codes : KeyCodes)

def LockModesHandler.new (host : Host) (event : KeyEvent) (isNumpadKey : Bool) :
    LockModesHandler × Host :=
  let capsLockChanged :=
    isModifierEnabled event .capsLock != host.getKeyState backend .capsLock
  let host := if capsLockChanged then host.keyClick backend .capsLock else host
  let numLockChanged :=
    isNumpadKey && isModifierEnabled event .numLock != host.getKeyState backend .numLock
  let host := if numLockChanged then host.keyClick backend .numLock else host
  (⟨capsLockChanged, numLockChanged⟩, host)

def LockModesHandler.drop (handler : LockModesHandler) (host : Host) : Host :=
  if backend.system = .uinput then host
  else
    let host := if handler.capsLockChanged then host.keyClick backend .capsLock else host
    if handler.numLockChanged then host.keyClick backend .numLock else host

/-- Some events leave the lock keys as they are. -/
def lockModesHandler (host : Host) (event : KeyEvent) : Option LockModesHandler × Host :=
  let make (isNumpadKey : Bool) :=
    let (handler, next) := LockModesHandler.new backend host event isNumpadKey
    (some handler, next)
  match event.union with
  | some (.unicode _) | some (.seq _) => make false
  | some (.controlKey value) =>
      if skipLedSyncControlKey value then (none, host) else make (isNumpadControlKey value)
  | some (.chr code) =>
      if event.isLegacyMode then make false
      else if codes.skipLedSyncRdevKey code then (none, host)
      else make (codes.isNumpadRdevKey code)
  | _ => (none, host)

/-- The X server finds no key below code eight. -/
def Host.simulateRaw (host : Host) (code : BitVec 32) (down : Bool) : Host :=
  if backend.system.isX11 then
    if down then host.press (rawPosition code.toNat).toFinset ∅
    else host.release (rawPosition code.toNat).toFinset ∅
  else host

def simRdevRawkeyPosition (state : State) (code : BitVec 32) (down : Bool) (now : Nat) : State :=
  { state with
    keysDown := recordPressedKey state.keysDown (.rdevKey code) down now
    host := state.host.simulateRaw backend code down }

def waylandSendRawKey (state : State) (code : BitVec 16) (down : Bool) : State :=
  { state with
    host :=
      if down then (state.host.keyDown backend (.raw code)).1
      else state.host.keyUp backend (.raw code) }

def sendRawKey (state : State) (code : BitVec 32) (down : Bool) (now : Nat) : State :=
  if backend.system.isX11 then simRdevRawkeyPosition backend state code down now
  else waylandSendRawKey backend state (code.setWidth 16) down

def mapKeyboardMode (state : State) (event : KeyEvent) (now : Nat) : State :=
  sendRawKey backend state event.chr event.down now

def clickAll (host : Host) (seq : List Char) : Host :=
  seq.foldl (fun host chr => host.keyClick backend (.layout chr)) host

def translateSeq (host : Host) (seq : List Char) : Host :=
  match backend.system with
  | .rdpInput => (releaseShiftForCharInput backend host).keySequence backend seq
  | .uinput =>
      if isHotkeyModifierPressed backend host then clickAll backend host seq
      else if seq.all isAsciiPrintable then
        (releaseShiftForCharInput backend host).keySequence backend seq
      else inputTextViaClipboardServer backend (releaseShiftForCharInput backend host) seq
  | _ => clickAll backend (releaseShiftForCharInput backend host) seq

def translateKeyboardMode (state : State) (event : KeyEvent) (now : Nat) : State :=
  match event.union with
  | some (.seq seq) => { state with host := translateSeq backend state.host seq }
  | some (.chr chr) => sendRawKey backend state chr event.down now
  | _ => state

def handleKeyMode (state : State) (event : KeyEvent) (now : Nat) : State :=
  match event.mode with
  | some .map => mapKeyboardMode backend state event now
  | some .translate => translateKeyboardMode backend state event now
  | _ => legacyKeyboardMode backend state event now

/-- The state in which the mode of the event takes over. -/
def State.lockModes (state : State) (event : KeyEvent) : State :=
  { state with host := (lockModesHandler backend codes state.host event).2 }

def handleKey (state : State) (event : KeyEvent) (now : Nat) : State :=
  if state.exiting then state
  else
    let handled := handleKeyMode backend (state.lockModes backend codes event) event now
    match (lockModesHandler backend codes state.host event).1 with
    | none => handled
    | some handler => { handled with host := handler.drop backend handled.host }

def recordKeyToKey (record : BitVec 64) : Option Key :=
  if record < keyCharStart then controlKeyValueToKey (record.setWidth 32)
  else some (charValueToKey ((record - keyCharStart).setWidth 32))

def releaseRecordKey (host : Host) (record : KeysDown) : Host :=
  match record with
  | .rdevKey code => host.simulateRaw backend code false
  | .enigoKey record =>
      match recordKeyToKey record with
      | none => host
      | some key => host.keyUp backend key

def keyDownTimeout : Nat := 360000

/-- One entry of the records that a timeout has seen. -/
def expire (force : Bool) (now : Nat) (state : State) (entry : KeysDown × Nat) : State :=
  if force || keyDownTimeout ≤ now - entry.2 then
    { state with
      keysDown := recordPressedKey state.keysDown entry.1 false now
      host := releaseRecordKey backend state.host entry.1 }
  else state

def fixKeyDownTimeout (state : State) (force : Bool) (now : Nat) : State :=
  state.keysDown.foldl (expire backend force now) state

def fixKeyDownTimeoutAtExit (state : State) (now : Nat) : State :=
  if state.exiting then state
  else fixKeyDownTimeout backend { state with exiting := true } true now

end Keyboard

/-- The service is reset with a forced timeout, and the keys of the host change on their own. An entry
of a timeout that has seen older records may come at any time. -/
inductive Input where
  | key (event : KeyEvent) (now : Nat)
  | fixKeyDownTimeout (force : Bool) (now : Nat)
  | expire (force : Bool) (now : Nat) (entry : KeysDown × Nat)
  | exit (now : Nat)
  | local_ (held locked : Finset Position)

def State.step (linux : LinuxBackend) (codes : KeyCodes) (state : State) : Input → State
  | .key event now => handleKey linux.toBackend codes state event now
  | .fixKeyDownTimeout force now => fixKeyDownTimeout linux.toBackend state force now
  | .expire force now entry => InputService.expire linux.toBackend force now state entry
  | .exit now => fixKeyDownTimeoutAtExit linux.toBackend state now
  | .local_ held locked =>
      { state with host := { state.host with
          held := held
          locked := locked } }

def inputService (linux : LinuxBackend) (codes : KeyCodes) : Machine State Input Unit where
  step state input := (state.step linux codes input, [])

end SubnetDesk.InputService
