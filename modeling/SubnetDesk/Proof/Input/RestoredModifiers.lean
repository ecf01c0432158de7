import SubnetDesk.Proof.Input.TemporaryModifiers

namespace SubnetDesk.InputService

/-- The key that is pressed or released for an event itself. -/
def ownKey (backend : Backend) (event : KeyEvent) : Option Key :=
  match event.union with
  | some (.controlKey value) => controlKeyValueToKey value
  | some (.chr chr) =>
      if backend.system = .windows ∧ hasHotkeyModifiers event = false then none
      else some (charValueToKey chr)
  | _ => none

def KeyEvent.isFunctionKey (event : KeyEvent) : Bool :=
  match event.union with
  | some (.controlKey value) => InputService.isFunctionKey value
  | _ => false

/-- Every key of the list is up, except for the own key of the event, which is down. -/
def Restored (backend : Backend) (host : Host) (toRelease : List Key) (own : Option Key) : Prop :=
  ∀ key ∈ toRelease, ∀ position ∈ backend.position key,
    position ∈ host.held ↔ own.bind backend.position = some position

/-- No key is pressed for the list of a key-down of a special key, and none that is the own key of
the event. -/
def Undone (backend : Backend) (state : State) (event : KeyEvent) : Prop :=
  event.down = true →
    ∀ key, Temporary backend state.keysDown (releaseUnpressedModifiers backend state.host event)
      event.modifiers key →
      ∀ position ∈ backend.position key,
        event.isFunctionKey = false ∧ (ownKey backend event).bind backend.position ≠ some position

def State.mouseToRelease (backend : Backend) (state : State) (event : MouseEvent) : List Key :=
  if state.exiting then [] else (syncMouseModifiers backend state.host event).2

variable {backend : Backend} {state : State}

/-- A mouse event restores the modifiers. -/
theorem restored_mouse (event : MouseEvent) :
    Restored backend (handleMouseSimulation backend state event).1.host
      (state.mouseToRelease backend event) none := by
  intro key member position own
  unfold handleMouseSimulation
  unfold State.mouseToRelease at member
  split at member
  next => cases member
  next running =>
    rw [if_neg running]
    have released := (held_releaseKeys (syncMouseModifiers backend state.host event).1
      (syncMouseModifiers backend state.host event).2).2 key member position own
    exact ⟨fun held => (released held).elim, nofun⟩

/-- The keys to release are the temporary ones. -/
theorem mem_toRelease {event : KeyEvent} {key : Key} :
    key ∈ (syncModifiers backend state.keysDown state.host event).2 ↔
      event.down = true ∧
        Temporary backend state.keysDown (releaseUnpressedModifiers backend state.host event)
          event.modifiers key := by
  unfold syncModifiers
  split
  next down =>
    rw [mem_pressModifiers]
    exact ⟨fun temporary => ⟨down, temporary⟩, fun both => both.2⟩
  next up => exact ⟨fun member => (List.not_mem_nil member).elim, fun both => (up both.1).elim⟩

theorem held_syncModifiers {event : KeyEvent} {key : Key} {position : Position}
    (member : key ∈ (syncModifiers backend state.keysDown state.host event).2)
    (own : position ∈ backend.position key) :
    position ∈ (syncModifiers backend state.keysDown state.host event).1.held := by
  unfold syncModifiers at member ⊢
  split at member
  next down =>
    rw [if_pos down]
    exact (held_pressModifiers _ _).2 key member position own
  next => cases member

theorem ownKey_functionKey {event : KeyEvent} (function : event.isFunctionKey = true) :
    ownKey backend event = none := by
  have missing : ∀ value : BitVec 32, isFunctionKey value = true →
      controlKeyValueToKey value = none := by
    intro value special
    simp only [isFunctionKey, Bool.or_eq_true, decide_eq_true_eq] at special
    rcases special with rfl | rfl <;> decide
  unfold KeyEvent.isFunctionKey at function
  unfold ownKey
  split at function
  next value found =>
    rw [found]
    exact missing value function
  next => cases function

theorem legacyKeyboardMode_functionKey {event : KeyEvent} (now : Nat)
    (function : event.isFunctionKey = true) :
    (legacyKeyboardMode backend state event now).host =
      (syncModifiers backend state.keysDown state.host event).1 := by
  unfold KeyEvent.isFunctionKey at function
  unfold legacyKeyboardMode
  split at function
  next value found =>
    rw [found]
    dsimp only
    rw [if_pos function]
  next => cases function

/-- Every other key ends with the release of the keys that were pressed for the list. -/
theorem legacyKeyboardMode_releases {event : KeyEvent} (now : Nat)
    (other : event.isFunctionKey = false) :
    ∃ host, (legacyKeyboardMode backend state event now).host =
      releaseKeys backend host (syncModifiers backend state.keysDown state.host event).2 := by
  unfold KeyEvent.isFunctionKey at other
  unfold legacyKeyboardMode
  generalize syncModifiers backend state.keysDown state.host event = synced
  dsimp only
  split
  next value found =>
    rw [found] at other
    dsimp only at other
    rw [if_neg (Bool.eq_false_iff.mp other)]
    exact ⟨_, rfl⟩
  next => exact ⟨_, rfl⟩
  next => exact ⟨_, rfl⟩
  next => exact ⟨_, rfl⟩
  next => exact ⟨_, rfl⟩

/-- A mouse event restores the modifiers that were pressed for it, and a key event does so exactly
when it is undone at its end. -/
theorem modifiers_restored_iff (backend : Backend) (state : State) :
    (∀ event : MouseEvent, Restored backend (handleMouseSimulation backend state event).1.host
      (state.mouseToRelease backend event) none) ∧
      ∀ (event : KeyEvent) (now : Nat),
        Restored backend (legacyKeyboardMode backend state event now).host
          (syncModifiers backend state.keysDown state.host event).2 (ownKey backend event) ↔
        Undone backend state event := by
  refine ⟨restored_mouse, fun event now => ?_⟩
  cases function : event.isFunctionKey with
  | true =>
      constructor
      · intro restored down key temporary position own
        have member := mem_toRelease.mpr ⟨down, temporary⟩
        have held := held_syncModifiers member own
        rw [← legacyKeyboardMode_functionKey now function] at held
        have again := (restored key member position own).mp held
        rw [ownKey_functionKey function] at again
        cases again
      · intro undone key member position own
        obtain ⟨down, temporary⟩ := mem_toRelease.mp member
        have none := (undone down key temporary position own).1
        rw [function] at none
        cases none
  | false =>
      obtain ⟨host, final⟩ := @legacyKeyboardMode_releases backend state event now function
      have released := (@held_releaseKeys backend host
        (syncModifiers backend state.keysDown state.host event).2).2
      rw [final]
      constructor
      · intro restored down key temporary position own
        have member := mem_toRelease.mpr ⟨down, temporary⟩
        refine ⟨function, fun again => ?_⟩
        exact released key member position own ((restored key member position own).mpr again)
      · intro undone key member position own
        obtain ⟨down, temporary⟩ := mem_toRelease.mp member
        have apart := (undone down key temporary position own).2
        exact ⟨fun held => (released key member position own held).elim,
          fun again => (apart again).elim⟩

def plainBackend (system : System) : Backend where
  system := system
  code _ := none
  chord _ := ∅
  taps _ := ∅
  toUppercase chr := [chr]
  setClipboardForPasteSync _ := true
  remapWaylandUinputCoord := id

def lockScreenEvent : KeyEvent where
  down := true
  union := some (.controlKey ControlKey.lockScreen.value)
  modifiers := [ControlKey.control.value]

theorem lock_screen_keeps_control :
    ¬ Restored (plainBackend .x11) (legacyKeyboardMode (plainBackend .x11) {} lockScreenEvent 0).host
      (syncModifiers (plainBackend .x11) [] {} lockScreenEvent).2
      (ownKey (plainBackend .x11) lockScreenEvent) := by
  intro restored
  have kept := restored .control (by decide +kernel) .controlLeft (by decide +kernel)
  exact absurd (kept.mp (by decide +kernel)) (by decide +kernel)

end SubnetDesk.InputService
