import SubnetDesk.Construction.Connection.KeyEvents

namespace SubnetDesk.KeyEvents

variable {host : Host} {codes : KeyCodes} {controlled : Controlled} {event : KeyEvent}
  {pressed held : Finset Key} {key : Key}

/-- An event is sent on as a click where it is a press that is not text. -/
def clicks (host : Host) (codes : KeyCodes) (event : KeyEvent) : Bool :=
  isPress host codes event && !event.isText

/-- The modifiers that are held after an event that is forwarded. -/
def forward (host : Host) (codes : KeyCodes) (held : Finset Key) (event : KeyEvent) : Finset Key :=
  (handleInput (event, clicks host codes event)).foldl (simulate host codes) held

theorem simulatedKey_flags (event : KeyEvent) (down press : Bool) :
    simulatedKey host codes { event with
      down := down
      press := press } = simulatedKey host codes event := rfl

/-- A click leaves its key released. Another event leaves it as its flag says. -/
theorem forward_eq (held : Finset Key) (event : KeyEvent) :
    forward host codes held event =
      match simulatedKey host codes event with
      | some key =>
          if clicks host codes event = false ∧ event.down = true then insert key held
          else held.erase key
      | none => held := by
  unfold forward handleInput
  cases click : clicks host codes event with
  | true =>
      simp only [if_true, List.foldl_cons, List.foldl_nil, simulate, simulatedKey_flags,
        Bool.false_eq_true, if_false]
      cases simulatedKey host codes event with
      | none => simp
      | some key => simp
  | false =>
      simp only [Bool.false_eq_true, if_false, List.foldl_cons, List.foldl_nil, simulate,
        simulatedKey_flags]
      cases simulatedKey host codes event with
      | none => simp
      | some key => simp

theorem held_append (controlled : Controlled) (event : KeyEvent) (pressed : Finset Key) :
    Controlled.held host codes { controlled with
      pressedModifiers := pressed
      forwarded := controlled.forwarded ++ [(event, clicks host codes event)] } =
      forward host codes (controlled.held host codes) event := by
  unfold Controlled.held forward
  rw [List.flatMap_append, List.foldl_append, List.flatMap_singleton]

/-- The set has every modifier that is held, so that the drop releases it. -/
def Controlled.Covered (host : Host) (codes : KeyCodes) (controlled : Controlled) : Prop :=
  controlled.held host codes ⊆ controlled.pressedModifiers

/-- A drop releases every key where all are covered. -/
theorem heldAfterDrop_eq_empty : controlled.heldAfterDrop host codes = ∅ ↔
    controlled.Covered host codes := Finset.sdiff_eq_empty_iff_subset

/-- The modifier of an event is pressed and not released. -/
def Presses (host : Host) (codes : KeyCodes) (event : KeyEvent) (key : Key) : Prop :=
  simulatedKey host codes event = some key ∧ clicks host codes event = false ∧ event.down = true

/-- The modifier of an event is released. -/
def Releases (host : Host) (codes : KeyCodes) (event : KeyEvent) (key : Key) : Prop :=
  simulatedKey host codes event = some key ∧ ¬ (clicks host codes event = false ∧ event.down = true)

/-- A modifier that is pressed is remembered for the event, or it is remembered already and the event
does not take it out. A modifier that is taken out of the set is not held, or it is released. -/
structure Remembers (host : Host) (codes : KeyCodes) (controlled : Controlled) (event : KeyEvent) :
    Prop where
  presses : ∀ key, Presses host codes event key →
    (isPress host codes event = true ∧ trackedKey codes event = some key) ∨
      (key ∈ controlled.pressedModifiers ∧ trackedKey codes event ≠ some key)
  takes : ∀ key, trackedKey codes event = some key → isPress host codes event = false →
    key ∈ controlled.held host codes → Releases host codes event key

/-- A modifier is held from its press to its release. -/
theorem mem_forward (held : Finset Key) (event : KeyEvent) (key : Key) :
    key ∈ forward host codes held event ↔
      Presses host codes event key ∨ (key ∈ held ∧ ¬ Releases host codes event key) := by
  rw [forward_eq]
  unfold Presses Releases
  cases simulatedKey host codes event with
  | none => simp
  | some other =>
      simp only [Option.some.injEq]
      split
      next down =>
        rw [Finset.mem_insert]
        constructor
        · rintro (rfl | old)
          · exact .inl ⟨rfl, down⟩
          · exact .inr ⟨old, fun both => both.2 down⟩
        · rintro (⟨rfl, -⟩ | ⟨old, -⟩)
          · exact .inl rfl
          · exact .inr old
      next up =>
        rw [Finset.mem_erase]
        constructor
        · rintro ⟨different, old⟩
          exact .inr ⟨old, fun both => different both.1.symm⟩
        · rintro (⟨-, down⟩ | ⟨old, kept⟩)
          · exact absurd down up
          · exact ⟨fun same => kept ⟨same.symm, up⟩, old⟩

theorem mem_trackModifier (pressed : Finset Key) (event : KeyEvent) (key : Key) :
    key ∈ trackModifier host codes pressed event ↔
      (isPress host codes event = true ∧ trackedKey codes event = some key) ∨
        (key ∈ pressed ∧ (isPress host codes event = true ∨ trackedKey codes event ≠ some key)) := by
  unfold trackModifier
  cases trackedKey codes event with
  | none => simp
  | some other =>
      simp only [Option.some.injEq, ne_eq]
      split
      next press =>
        rw [Finset.mem_insert, press]
        simp [eq_comm]
      next release =>
        rw [Finset.mem_erase]
        rw [Bool.not_eq_true] at release
        rw [release]
        simp [eq_comm, and_comm]

/-- An event keeps the set complete exactly when its modifier is remembered. -/
theorem forward_subset_iff (covered : controlled.Covered host codes) :
    forward host codes (controlled.held host codes) event ⊆
        trackModifier host codes controlled.pressedModifiers event ↔
      Remembers host codes controlled event := by
  constructor
  · intro subset
    refine ⟨?_, ?_⟩
    · intro key presses
      have member := subset ((mem_forward _ event key).mpr (.inl presses))
      rw [mem_trackModifier] at member
      obtain pressed | ⟨old, press | other⟩ := member
      · exact .inl pressed
      · by_cases same : trackedKey codes event = some key
        · exact .inl ⟨press, same⟩
        · exact .inr ⟨old, same⟩
      · exact .inr ⟨old, other⟩
    · intro key tracked release held
      by_contra kept
      have member := subset ((mem_forward _ event key).mpr (.inr ⟨held, kept⟩))
      rw [mem_trackModifier, release] at member
      simp only [Bool.false_eq_true, false_and, false_or] at member
      exact member.2 tracked
  · rintro ⟨presses, takes⟩ key member
    rw [mem_trackModifier]
    obtain down | ⟨held, kept⟩ := (mem_forward _ event key).mp member
    · obtain pressed | ⟨old, other⟩ := presses key down
      · exact .inl pressed
      · exact .inr ⟨old, .inr other⟩
    · refine .inr ⟨covered held, ?_⟩
      by_cases press : isPress host codes event = true
      · exact .inl press
      · rw [Bool.not_eq_true] at press
        exact .inr fun tracked => kept (takes key tracked press held)

/-- A step is safe where an event that is handled is remembered. -/
def SafeStep (host : Host) (codes : KeyCodes) (controlled : Controlled) : Input → Prop
  | .key event => controlled.viewCamera = false → controlled.peerKeyboardEnabled = true →
      Remembers host codes controlled event
  | .disableKeyboard _ => True

/-- One step keeps the cover exactly where it is safe. -/
theorem step_covered_iff (covered : controlled.Covered host codes) (input : Input) :
    ((machine host codes).step controlled input).1.Covered host codes ↔
      SafeStep host codes controlled input := by
  cases input with
  | disableKeyboard on => exact iff_of_true covered trivial
  | key event =>
      unfold machine onKeyEvent SafeStep
      dsimp only
      cases camera : controlled.viewCamera with
      | true => exact iff_of_true covered (by simp)
      | false =>
          cases enabled : controlled.peerKeyboardEnabled with
          | false => exact iff_of_true covered (by simp)
          | true =>
              simp only [Bool.false_eq_true, if_false, if_true, true_implies]
              rw [← forward_subset_iff covered, ← held_append controlled event
                (trackModifier host codes controlled.pressedModifiers event)]
              exact Iff.rfl

/-- A connection with keyboard permission, or without, as it is authorized. -/
def Controlled.start (keyboard viewCamera : Bool) : Controlled where
  keyboard := keyboard
  viewCamera := viewCamera

/-- In every state of a run the set has all modifiers that are held, and the drop leaves none of them
pressed, exactly when every step of the run is safe. -/
theorem modifiers_released_iff (host : Host) (codes : KeyCodes) (keyboard viewCamera : Bool)
    (inputs : List Input) :
    (∀ before after, inputs = before ++ after →
      ((machine host codes).run (.start keyboard viewCamera) before).1.Covered host codes ∧
        ((machine host codes).run (.start keyboard viewCamera) before).1.heldAfterDrop host codes =
          ∅) ↔
      (machine host codes).Guarded (SafeStep host codes) (.start keyboard viewCamera) inputs := by
  rw [← (machine host codes).always_iff_guarded (SafeStep host codes) (·.Covered host codes)
    (fun _ input covered => step_covered_iff covered input) _ inputs (Finset.empty_subset _)]
  simp only [heldAfterDrop_eq_empty, and_self]

/-- Codes of shift keys: one on Linux and one on Windows. -/
def shiftCodes : KeyCodes where
  keycodeToRdevKey code := if code = 50 ∨ code = 0x2A then .shiftLeft else .other code.toNat
  positionKey code := if code = 50 ∨ code = 0x2A then .shiftLeft else .other code.toNat
  virtualKey code := if code = 0x10 then .shiftLeft else .other code.toNat
  hotkeyKey code := .other code.toNat

def shiftDown (code : BitVec 32) : KeyEvent where
  down := true
  press := false
  union := some (.chr code)
  mode := some .map

/-- The key-down of a shift key is forwarded, and the drop leaves the key pressed. -/
theorem shift_left_pressed :
    ((machine .linux shiftCodes).run (.start true false) [.key (shiftDown 50)]).1.heldAfterDrop
        .linux shiftCodes = {.shiftLeft} ∧
      ((machine .windows shiftCodes).run (.start true false)
        [.key (shiftDown 0x2A)]).1.heldAfterDrop .windows shiftCodes = {.shiftLeft} := by
  decide +kernel

/-- On Linux no modifier is remembered, whatever the events are. -/
theorem linux_set_empty (codes : KeyCodes) (keyboard viewCamera : Bool) (inputs : List Input) :
    ((machine .linux codes).run (.start keyboard viewCamera) inputs).1.pressedModifiers = ∅ := by
  refine (machine .linux codes).run_invariant (fun _ _ => True)
    (fun controlled _ => controlled.pressedModifiers = ∅) ?_ _ [] inputs rfl
    ((machine .linux codes).guarded_true _ _)
  intro controlled past input _ empty
  cases input with
  | disableKeyboard on => exact empty
  | key event =>
      unfold machine onKeyEvent
      dsimp only
      split
      next => exact empty
      next =>
        split
        next =>
          unfold trackModifier
          cases tracked : trackedKey codes event with
          | none => exact empty
          | some key =>
              have release : isPress .linux codes event = false := by simp [isPress, tracked]
              simp only [release, Bool.false_eq_true, if_false, empty, Finset.erase_empty]
        next => exact empty

end SubnetDesk.KeyEvents
