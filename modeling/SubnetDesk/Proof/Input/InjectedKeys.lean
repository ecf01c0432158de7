import SubnetDesk.Construction.Input.KeysDown
import SubnetDesk.Proof.Input.TemporaryModifiers

namespace SubnetDesk.InputService

variable {backend : Backend} {host : Host} {key : Key} {position : Position}

/-- A key-down holds its own key. -/
theorem injected_keyDown :
    (host.keyDown backend key).1.injected ⊆ host.injected ∪ backend.presses key := by
  unfold Host.keyDown
  split
  next =>
    split
    next => exact Finset.sdiff_subset
    next => exact Finset.subset_union_left
  next =>
    split
    next => exact Finset.Subset.refl _
    next => exact Finset.sdiff_subset.trans Finset.subset_union_left
  next => exact Finset.Subset.refl _

/-- A key-up holds no further key. -/
theorem injected_keyUp_subset : (host.keyUp backend key).injected ⊆ host.injected := by
  unfold Host.keyUp
  split
  next => exact Finset.sdiff_subset
  next => exact Finset.sdiff_subset

/-- A key-up releases its own key. -/
theorem injected_keyUp (linux : backend.system ≠ .windows) :
    (host.keyUp backend key).injected = host.injected \ backend.presses key := by
  unfold Host.keyUp
  split
  next windows => exact absurd windows linux
  next => rfl

/-- A typed text holds no key. -/
theorem injected_keySequence (sequence : List Char) :
    (host.keySequence backend sequence).injected ⊆ host.injected := Finset.sdiff_subset

/-- A click holds no key. -/
theorem injected_keyClick (linux : backend.system ≠ .windows) :
    (host.keyClick backend key).injected ⊆ host.injected := by
  intro position member
  rw [Host.keyClick, injected_keyUp linux, Finset.mem_sdiff] at member
  exact (Finset.mem_union.mp (injected_keyDown member.1)).resolve_right member.2

/-- A fix of the modifiers holds no key. -/
theorem injected_fixModifiers (modifiers : List (BitVec 32)) (host : Host) (ck : BitVec 32) :
    (fixModifiers backend modifiers host ck).injected ⊆ host.injected := by
  unfold fixModifiers
  generalize fixedModifiers = entries
  induction entries generalizing host with
  | nil => exact Finset.Subset.refl _
  | cons entry rest ih =>
      refine (ih _).trans ?_
      dsimp only
      split
      next =>
        unfold fixModifier
        split
        next =>
          split
          next => exact Finset.Subset.refl _
          next => exact injected_keyUp_subset
        next => exact Finset.Subset.refl _
      next => exact Finset.Subset.refl _

/-- A released shift holds no key. -/
theorem injected_releaseShift : (host.releaseShift backend key).injected ⊆ host.injected := by
  unfold Host.releaseShift
  split
  next =>
    split
    next => exact Finset.sdiff_subset
    next => exact injected_keyUp_subset
  next => exact Finset.Subset.refl _

/-- Typed letters hold no shift. -/
theorem injected_releaseShiftForCharInput :
    (releaseShiftForCharInput backend host).injected ⊆ host.injected := by
  unfold releaseShiftForCharInput
  split
  next => exact Finset.Subset.refl _
  next => exact injected_releaseShift.trans injected_releaseShift

/-- A pasted text holds no key. -/
theorem injected_inputTextViaClipboardServer (linux : backend.system ≠ .windows)
    (text : List Char) :
    (inputTextViaClipboardServer backend host text).injected ⊆ host.injected := by
  unfold inputTextViaClipboardServer
  split
  next => exact Finset.Subset.refl _
  next =>
    split
    next =>
      intro position member
      dsimp only at member
      rw [injected_keyUp linux, injected_keyUp linux, Finset.mem_sdiff, Finset.mem_sdiff] at member
      have inserted := (Finset.mem_union.mp (injected_keyDown member.1.1)).resolve_right member.1.2
      exact (Finset.mem_union.mp (injected_keyDown inserted)).resolve_right member.2
    next => exact Finset.Subset.refl _

/-- Pressed modifiers are noted for release. -/
theorem injected_pressModifiers {keysDown : List (KeysDown × Nat)} (modifiers : List (BitVec 32))
    (host : Host) (member : position ∈ (pressModifiers backend keysDown host modifiers).1.injected) :
    position ∈ host.injected ∨ ∃ key ∈ (pressModifiers backend keysDown host modifiers).2,
      position ∈ backend.presses key := by
  induction modifiers generalizing host with
  | nil => exact .inl member
  | cons value rest ih =>
      unfold pressModifiers at member ⊢
      split at member
      next => exact ih host member
      next key found =>
        split at member
        next down =>
          rw [if_pos down]
          exact ih host member
        next up =>
          rw [if_neg up]
          split at member
          next skipped =>
            rw [if_pos skipped]
            exact ih host member
          next taken =>
            rw [if_neg taken]
            rcases ih _ member with before | ⟨other, later, pressed⟩
            · rcases Finset.mem_union.mp (injected_keyDown before) with own | pressed
              · exact .inl own
              · exact .inr ⟨key, List.mem_cons_self, pressed⟩
            · exact .inr ⟨other, List.mem_cons_of_mem _ later, pressed⟩

/-- A sync notes the modifiers that it presses. -/
theorem injected_syncModifiers {keysDown : List (KeysDown × Nat)} {event : KeyEvent}
    (member : position ∈ (syncModifiers backend keysDown host event).1.injected) :
    position ∈ host.injected ∨ ∃ key ∈ (syncModifiers backend keysDown host event).2,
      position ∈ backend.presses key := by
  unfold syncModifiers at member ⊢
  split at member
  next down =>
    rw [if_pos down]
    refine (injected_pressModifiers _ _ member).imp_left fun before => ?_
    exact injected_fixModifiers _ _ _ before
  next up => exact .inl member

/-- Noted keys are released. -/
theorem injected_releaseKeys (linux : backend.system ≠ .windows) (host : Host)
    (toRelease : List Key) (member : position ∈ (releaseKeys backend host toRelease).injected) :
    position ∈ host.injected ∧ ∀ key ∈ toRelease, position ∉ backend.presses key := by
  induction toRelease generalizing host with
  | nil => exact ⟨member, fun key none => (List.not_mem_nil none).elim⟩
  | cons first rest ih =>
      obtain ⟨before, released⟩ := ih _ member
      rw [injected_keyUp linux, Finset.mem_sdiff] at before
      exact ⟨before.1, List.forall_mem_cons.mpr ⟨before.2, released⟩⟩

/-- A special key holds itself alone. -/
theorem injected_processControlKey (linux : backend.system ≠ .windows) {value : BitVec 32}
    {down : Bool} (member : position ∈ (processControlKey backend host value down).injected) :
    (position ∈ host.injected ∧ (down = false →
      ∀ key ∈ controlKeyValueToKey value, position ∉ backend.presses key)) ∨
      (down = true ∧ ∃ key ∈ controlKeyValueToKey value, position ∈ backend.presses key) := by
  unfold processControlKey at member
  split at member
  next missing =>
    rw [missing]
    exact .inl ⟨member, nofun⟩
  next key found =>
    rw [found]
    split at member
    next pressed =>
      rcases Finset.mem_union.mp (injected_keyDown member) with before | own
      · exact .inl ⟨before, fun up => by rw [pressed] at up; cases up⟩
      · exact .inr ⟨pressed, key, rfl, own⟩
    next =>
      rw [injected_keyUp linux, Finset.mem_sdiff] at member
      refine .inl ⟨member.1, fun _ other same => ?_⟩
      rw [← Option.some.inj same]
      exact member.2

/-- A valid code is a letter of the layout. -/
theorem charTryFrom_some {chr : BitVec 32} {char : Char} (found : charTryFrom chr = some char) :
    charValueToKey chr = .layout char := by
  unfold charTryFrom at found
  split at found
  next => rw [charValueToKey, Option.some.inj found]
  next => cases found

/-- Other letters press no key on Wayland. -/
theorem presses_layout_wayland {char : Char} (wayland : backend.system = .uinput)
    (other : isAsciiPrintable char = false) : backend.presses (.layout char) = ∅ := by
  have missing : backend.position (.layout char) = none := by
    simp [Backend.position, Backend.trackedPosition, wayland, other]
  simp [Backend.presses, Backend.chordOf, missing]

/-- An invalid code is the zero letter. -/
theorem charTryFrom_none {chr : BitVec 32} (missing : charTryFrom chr = none) :
    charValueToKey chr = .layout '\x00' := by
  unfold charTryFrom at missing
  split at missing
  next => cases missing
  next invalid =>
    rw [charValueToKey]
    congr 1
    unfold Char.ofNat
    rw [dif_neg invalid]
    rfl

/-- A character that is pressed is held with the keys of its layout, and one that is released is not
held. -/
theorem injected_processChr (linux : backend.system ≠ .windows) {chr : BitVec 32}
    {down hotkey : Bool} (member : position ∈ (processChr backend host chr down hotkey).injected) :
    (position ∈ host.injected ∧ (down = false → position ∉ backend.presses (charValueToKey chr))) ∨
      (down = true ∧ position ∈ backend.presses (charValueToKey chr)) := by
  have key : ∀ {host : Host} {key : Key}, position ∈ (if down then (host.keyDown backend key).1
      else host.keyUp backend key).injected →
      (position ∈ host.injected ∧ (down = false → position ∉ backend.presses key)) ∨
        (down = true ∧ position ∈ backend.presses key) := by
    intro host key member
    cases down with
    | true =>
        rcases Finset.mem_union.mp (injected_keyDown member) with before | own
        · exact .inl ⟨before, nofun⟩
        · exact .inr ⟨rfl, own⟩
    | false =>
        rw [if_neg Bool.false_ne_true, injected_keyUp linux, Finset.mem_sdiff] at member
        exact .inl ⟨member.1, fun _ => member.2⟩
  unfold processChr at member
  split at member
  next wayland =>
    split at member
    next missing =>
      refine .inl ⟨member, fun _ => ?_⟩
      rw [charTryFrom_none missing, presses_layout_wayland wayland.1 (by decide)]
      exact Finset.notMem_empty _
    next char found =>
      rw [charTryFrom_some found]
      split at member
      next => exact key member
      next other =>
        rw [Bool.not_eq_true] at other
        refine .inl ⟨?_, fun _ => ?_⟩
        · split at member
          next => exact injected_inputTextViaClipboardServer linux _ member
          next => exact member
        · rw [presses_layout_wayland wayland.1 other]
          exact Finset.notMem_empty _
  next =>
    rw [if_neg (fun both => linux both.1)] at member
    unfold processChrKey at member
    cases down with
    | true =>
        rw [if_pos rfl] at member
        dsimp only at member
        refine (Finset.mem_union.mp ((@injected_keyDown _ host _) ?_)).imp
          (fun before => ⟨before, nofun⟩) fun own => ⟨rfl, own⟩
        split at member
        next => exact member
        next =>
          split at member
          next => exact member
          next => exact injected_keySequence _ member
    | false => exact key member

/-- A letter holds no key. -/
theorem injected_processUnicode (linux : backend.system ≠ .windows) (chr : BitVec 32) :
    (processUnicode backend host chr).injected ⊆ host.injected := by
  unfold processUnicode
  split
  next => exact Finset.Subset.refl _
  next =>
    split
    next => exact injected_inputTextViaClipboardServer linux _
    next => exact injected_keySequence _

/-- A sequence holds no key. -/
theorem injected_processSeq (linux : backend.system ≠ .windows) (sequence : List Char) :
    (processSeq backend host sequence).injected ⊆ host.injected := by
  unfold processSeq
  split
  next => exact injected_inputTextViaClipboardServer linux _
  next => exact injected_keySequence _

/-- Clicks hold no key. -/
theorem injected_clickAll (linux : backend.system ≠ .windows) (host : Host) (seq : List Char) :
    (clickAll backend host seq).injected ⊆ host.injected := by
  unfold clickAll
  induction seq generalizing host with
  | nil => exact Finset.Subset.refl _
  | cons chr rest ih => exact (ih _).trans (injected_keyClick linux)

/-- A translated text holds no key. -/
theorem injected_translateSeq (linux : backend.system ≠ .windows) (seq : List Char) :
    (translateSeq backend host seq).injected ⊆ host.injected := by
  unfold translateSeq
  split
  next => exact (injected_keySequence _).trans injected_releaseShiftForCharInput
  next =>
    split
    next => exact injected_clickAll linux host seq
    next =>
      split
      next => exact (injected_keySequence _).trans injected_releaseShiftForCharInput
      next =>
        exact (injected_inputTextViaClipboardServer linux _).trans injected_releaseShiftForCharInput
  next => exact (injected_clickAll linux _ seq).trans injected_releaseShiftForCharInput

/-- The lock modes hold no key at the start. -/
theorem injected_new (linux : backend.system ≠ .windows) (event : KeyEvent) (isNumpadKey : Bool) :
    (LockModesHandler.new backend host event isNumpadKey).2.injected ⊆ host.injected := by
  have click : ∀ (changed : Bool) (host : Host) (key : Key),
      (if changed then host.keyClick backend key else host).injected ⊆ host.injected := by
    intro changed host key
    split
    next => exact injected_keyClick linux
    next => exact Finset.Subset.refl _
  exact (click _ _ _).trans (click _ _ _)

/-- The lock modes hold no key at the end. -/
theorem injected_drop (linux : backend.system ≠ .windows) (handler : LockModesHandler) :
    (handler.drop backend host).injected ⊆ host.injected := by
  have click : ∀ (changed : Bool) (host : Host) (key : Key),
      (if changed then host.keyClick backend key else host).injected ⊆ host.injected := by
    intro changed host key
    split
    next => exact injected_keyClick linux
    next => exact Finset.Subset.refl _
  unfold LockModesHandler.drop
  split
  next => exact Finset.Subset.refl _
  next => exact (click _ _ _).trans (click _ _ _)

/-- The lock modes hold no key. -/
theorem injected_lockModesHandler (linux : backend.system ≠ .windows) (codes : KeyCodes)
    (event : KeyEvent) :
    (lockModesHandler backend codes host event).2.injected ⊆ host.injected := by
  unfold lockModesHandler
  split
  next => exact injected_new linux event false
  next => exact injected_new linux event false
  next value found =>
    split
    next => exact Finset.Subset.refl _
    next => exact injected_new linux event _
  next =>
    split
    next => exact injected_new linux event false
    next =>
      split
      next => exact Finset.Subset.refl _
      next => exact injected_new linux event _
  next => exact Finset.Subset.refl _

end SubnetDesk.InputService
