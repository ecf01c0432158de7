import SubnetDesk.Construction.Input.InputService

namespace SubnetDesk.InputService

variable {backend : Backend} {host : Host} {key : Key} {position : Position}

def Key.named : Key → Bool
  | .layout _ => false
  | .raw _ => false
  | _ => true

theorem named_of_controlKey {value : BitVec 32} (found : controlKeyValueToKey value = some key) :
    key.named = true := by
  have all : ∀ entry ∈ keyMap, entry.2.named = true := by decide
  obtain ⟨entry, member, rfl⟩ := Option.map_eq_some_iff.mp found
  exact all entry (List.mem_of_find?_eq_some member)

/-- The keys that make a key read as down. -/
def Backend.shownBy (backend : Backend) (key : Key) : Finset Position :=
  match backend.position key with
  | some .shiftLeft | some .shiftRight => {.shiftLeft, .shiftRight}
  | some .controlLeft | some .controlRight => {.controlLeft, .controlRight}
  | some .altLeft | some .altRight => {.altLeft, .altRight}
  | some .metaLeft | some .metaRight => {.metaLeft, .metaRight}
  | some .capsLock => if backend.system = .rdpInput then ∅ else {.capsLock}
  | some .numLock => if backend.system = .rdpInput then ∅ else {.numLock}
  | some .scrollLock => if backend.system = .windows then {.scrollLock} else ∅
  | some (.code code) => if backend.system = .windows then {.code code} else ∅
  | none => ∅

/-- A lock key shows as its light, and the portal session shows what it has pressed itself. -/
def Host.Shows (backend : Backend) (host : Host) (position : Position) : Prop :=
  if position ∈ lockPositions then position ∈ host.locked
  else if backend.system = .rdpInput then position ∈ host.tracked
  else position ∈ host.held

/-- A key that is no modifier, as every system has it. -/
structure Key.Plain (key : Key) : Prop where
  position : ∀ backend : Backend, backend.position key = (backend.code key).map .code
  modifier : ∀ (backend : Backend) (host : Host),
    host.getModifierState backend key = host.getKeyState backend key
  windows : ∀ (backend : Backend) (host : Host), host.windowsKeyState backend key =
    decide (∃ position ∈ backend.position key, position ∈ host.held)
  mask : ∀ host : Host, host.maskKeyState key = false
  portal : ∀ host : Host, host.portalKeyState key = false

def modifierKeys : List Key :=
  [.shift, .rightShift, .control, .rightControl, .alt, .rightAlt, .meta_, .rWin, .option, .capsLock,
    .numLock, .scroll]

theorem modifier_or_plain (named : key.named = true) : key ∈ modifierKeys ∨ key.Plain := by
  cases key
  case layout chr => cases named
  case raw code => cases named
  all_goals
    first
    | exact .inl (by decide)
    | refine .inr ⟨fun backend => ?_, fun _ _ => rfl, fun _ _ => rfl, fun _ => rfl, fun _ => rfl⟩
      unfold Backend.position
      split
      next => rename_i same; cases same
      next => rfl

theorem Key.Plain.getModifierState_iff (plain : key.Plain) :
    host.getModifierState backend key = true ↔
      ∃ position ∈ backend.shownBy key, host.Shows backend position := by
  rw [plain.modifier, Host.getKeyState, Backend.shownBy, plain.position]
  cases found : backend.code key with
  | none =>
      cases system : backend.system <;>
        simp [plain.windows, plain.mask, plain.portal, plain.position, found]
  | some code =>
      cases system : backend.system <;>
        simp [plain.windows, plain.mask, plain.portal, plain.position, found, system, Host.Shows,
          lockPositions]

/-- A key reads as down when one of the keys that show as it does. -/
theorem getModifierState_iff (named : key.named = true) :
    host.getModifierState backend key = true ↔
      ∃ position ∈ backend.shownBy key, host.Shows backend position := by
  rcases modifier_or_plain named with special | plain
  · obtain ⟨system, code, chord, taps, upper, paste, remap⟩ := backend
    fin_cases special <;> cases system <;>
      simp [Host.getModifierState, Host.getKeyState, Host.windowsKeyState, Host.maskKeyState,
        Host.portalKeyState, Backend.shownBy, Host.Shows, Backend.position, Backend.trackedPosition,
        lockPositions, or_comm]
    all_goals
      first
      | tauto
      | cases code .option <;> simp
  · exact plain.getModifierState_iff

theorem shownBy_eq {other : Key} (shown : position ∈ backend.shownBy key)
    (own : backend.position other = some position) :
    backend.shownBy other = backend.shownBy key := by
  unfold Backend.shownBy at shown ⊢
  rw [own]
  cases found : backend.position key with
  | none => simp [found] at shown
  | some place =>
      rw [found] at shown
      cases place <;> dsimp only at shown ⊢ <;> split_ifs at shown ⊢ <;>
        simp only [Finset.mem_insert, Finset.mem_singleton, Finset.notMem_empty] at shown
      all_goals rcases shown with rfl | rfl <;> rfl

/-- A key of the table is pressed alone. -/
theorem keyDown_named (named : key.named = true) :
    (host.keyDown backend key).1.held = host.held ∪ (backend.position key).toFinset ∧
      (host.keyDown backend key).1.tracked = host.tracked ∪ (backend.position key).toFinset ∧
      (host.keyDown backend key).1.locked =
        symmDiff host.locked ((backend.position key).toFinset ∩ lockPositions) := by
  have alone : backend.chordOf key = ∅ := by
    cases key <;> first | rfl | cases named
  have tracked : backend.trackedPosition key = backend.position key := by
    unfold Backend.position
    cases backend.system <;> cases key <;> first | rfl | cases named
  have presses : backend.presses key = (backend.position key).toFinset := by
    rw [Backend.presses, alone, Finset.union_empty]
  have pressed : (host.keyDown backend key).1 =
      if backend.system = .windows ∧ backend.position key = none then host
      else host.press (backend.position key).toFinset (backend.position key).toFinset := by
    cases found : backend.position key with
    | none =>
        rw [found] at presses tracked
        unfold Host.keyDown
        split
        next windows => simp [windows, found]
        next => cases named
        next other _ =>
          have absent : backend.system ≠ .windows := other
          simp [presses, tracked, absent]
    | some place =>
        rw [found] at presses tracked
        unfold Host.keyDown
        split
        next windows => simp [found, presses, tracked, alone, Host.press, Host.release]
        next => cases named
        next other _ => simp [presses, tracked]
  rw [pressed]
  split
  next missing => simp [missing.2, symmDiff]
  next => exact ⟨rfl, rfl, rfl⟩

/-- A key that read as up makes all keys read as down that show as it does. -/
theorem getModifierState_keyDown {other : Key} (named : key.named = true)
    (others : other.named = true) (up : host.getModifierState backend key = false) :
    (host.keyDown backend key).1.getModifierState backend other = true ↔
      host.getModifierState backend other = true ∨
        ∃ position ∈ backend.position key, position ∈ backend.shownBy other := by
  obtain ⟨held, tracked, locked⟩ := @keyDown_named backend host key named
  have hidden : ∀ position ∈ backend.position key, position ∈ backend.shownBy other →
      ¬ host.Shows backend position := by
    intro position own shown shows_
    have both := (getModifierState_iff named).mpr
      ⟨position, (shownBy_eq shown own).symm ▸ shown, shows_⟩
    rw [up] at both
    cases both
  have after : ∀ position ∈ backend.shownBy other,
      ((host.keyDown backend key).1.Shows backend position ↔
        host.Shows backend position ∨ backend.position key = some position) := by
    intro position shown
    unfold Host.Shows
    rw [held, tracked, locked]
    split
    next lock =>
      by_cases own : backend.position key = some position
      · have dark := hidden position own shown
        unfold Host.Shows at dark
        rw [if_pos lock] at dark
        simp [Finset.mem_symmDiff, own, lock, dark]
      · simp [Finset.mem_symmDiff, own]
    next => split <;> simp
  rw [getModifierState_iff others, getModifierState_iff others]
  constructor
  · rintro ⟨position, shown, shows_⟩
    rcases (after position shown).mp shows_ with before | own
    · exact .inl ⟨position, shown, before⟩
    · exact .inr ⟨position, own, shown⟩
  · rintro (⟨position, shown, before⟩ | ⟨position, own, shown⟩)
    · exact ⟨position, shown, (after position shown).mpr (.inl before)⟩
    · exact ⟨position, shown, (after position shown).mpr (.inr own)⟩

/-- The list names a key that reads as up, and no earlier key of the list that shows as it does. -/
def Temporary (backend : Backend) (keysDown : List (KeysDown × Nat)) (host : Host)
    (modifiers : List (BitVec 32)) (key : Key) : Prop :=
  host.getModifierState backend key = false ∧ skipsAlt backend keysDown key = false ∧
    ∃ earlier value later, modifiers = earlier ++ value :: later ∧
      controlKeyValueToKey value = some key ∧
      ∀ before ∈ earlier, ∀ other, controlKeyValueToKey before = some other →
        skipsAlt backend keysDown other = false →
        ∀ position ∈ backend.position other, position ∉ backend.shownBy key

theorem temporary_nil {keysDown : List (KeysDown × Nat)} :
    ¬ Temporary backend keysDown host [] key := by
  rintro ⟨-, -, earlier, value, later, split, -⟩
  exact absurd split (by simp)

theorem temporary_cons {keysDown : List (KeysDown × Nat)} {value : BitVec 32}
    {rest : List (BitVec 32)} :
    Temporary backend keysDown host (value :: rest) key ↔
      (host.getModifierState backend key = false ∧ skipsAlt backend keysDown key = false ∧
          controlKeyValueToKey value = some key) ∨
        (Temporary backend keysDown host rest key ∧
          ∀ other, controlKeyValueToKey value = some other →
            skipsAlt backend keysDown other = false →
            ∀ position ∈ backend.position other, position ∉ backend.shownBy key) := by
  constructor
  · rintro ⟨up, taken, earlier, own, later, split, found, first⟩
    cases earlier with
    | nil =>
        obtain ⟨rfl, -⟩ := List.cons.inj split
        exact .inl ⟨up, taken, found⟩
    | cons head earlier =>
        obtain ⟨rfl, tail⟩ := List.cons.inj split
        refine .inr ⟨⟨up, taken, earlier, own, later, tail, found, ?_⟩, ?_⟩
        · exact fun before member => first before (List.mem_cons_of_mem _ member)
        · exact first value List.mem_cons_self
  · rintro (⟨up, taken, found⟩ | ⟨⟨up, taken, earlier, own, later, split, found, first⟩, head⟩)
    · exact ⟨up, taken, [], value, rest, rfl, found, by simp⟩
    · refine ⟨up, taken, value :: earlier, own, later, by rw [split, List.cons_append], found, ?_⟩
      exact List.forall_mem_cons.mpr ⟨head, first⟩

theorem Temporary.named {keysDown : List (KeysDown × Nat)} {modifiers : List (BitVec 32)}
    (temporary : Temporary backend keysDown host modifiers key) : key.named = true := by
  obtain ⟨-, -, -, value, -, -, found, -⟩ := temporary
  exact named_of_controlKey found

/-- The keys to release are those of the list that are up at their turn. -/
theorem mem_pressModifiers {keysDown : List (KeysDown × Nat)} (modifiers : List (BitVec 32))
    (host : Host) :
    key ∈ (pressModifiers backend keysDown host modifiers).2 ↔
      Temporary backend keysDown host modifiers key := by
  induction modifiers generalizing host with
  | nil => exact ⟨fun member => (List.not_mem_nil member).elim, fun none => (temporary_nil none).elim⟩
  | cons value rest ih =>
      rw [temporary_cons]
      unfold pressModifiers
      split
      next missing =>
        rw [ih host, missing]
        simp
      next other found =>
        have named := named_of_controlKey found
        split
        next down =>
          rw [ih host]
          constructor
          · intro temporary
            refine .inr ⟨temporary, fun same again _ position own shown => ?_⟩
            rw [found] at again
            obtain rfl := Option.some.inj again
            have shows_ := (getModifierState_iff named).mp down
            rw [shownBy_eq shown own] at shows_
            have up := temporary.1
            rw [(getModifierState_iff temporary.named).mpr shows_] at up
            cases up
          · rintro (⟨up, -, same⟩ | ⟨temporary, -⟩)
            · rw [found] at same
              obtain rfl := Option.some.inj same
              rw [down] at up
              cases up
            · exact temporary
        next up =>
          rw [Bool.not_eq_true] at up
          split
          next skipped =>
            rw [ih host]
            constructor
            · intro temporary
              refine .inr ⟨temporary, fun same again taken => ?_⟩
              rw [found] at again
              obtain rfl := Option.some.inj again
              rw [skipped] at taken
              cases taken
            · rintro (⟨-, taken, same⟩ | ⟨temporary, -⟩)
              · rw [found] at same
                obtain rfl := Option.some.inj same
                rw [skipped] at taken
                cases taken
              · exact temporary
          next taken =>
            rw [Bool.not_eq_true] at taken
            dsimp only
            rw [List.mem_cons, ih]
            constructor
            · rintro (rfl | temporary)
              · exact .inl ⟨up, taken, found⟩
              · obtain ⟨later, skip, split⟩ := temporary
                have others := Temporary.named ⟨later, skip, split⟩
                rw [← Bool.not_eq_true, getModifierState_keyDown named others up, not_or] at later
                obtain ⟨before, apart⟩ := later
                refine .inr ⟨⟨Bool.not_eq_true _ ▸ before, skip, split⟩, ?_⟩
                intro same again _ position own shown
                rw [found] at again
                obtain rfl := Option.some.inj again
                exact apart ⟨position, own, shown⟩
            · rintro (⟨-, -, same⟩ | ⟨⟨before, skip, split⟩, apart⟩)
              · rw [found] at same
                exact .inl (Option.some.inj same).symm
              · refine .inr ⟨?_, skip, split⟩
                have others := Temporary.named ⟨before, skip, split⟩
                rw [← Bool.not_eq_true, getModifierState_keyDown named others up, not_or,
                  Bool.not_eq_true]
                refine ⟨before, ?_⟩
                rintro ⟨position, own, shown⟩
                exact apart other found taken position own shown

theorem held_pressModifiers {keysDown : List (KeysDown × Nat)} (modifiers : List (BitVec 32))
    (host : Host) :
    host.held ⊆ (pressModifiers backend keysDown host modifiers).1.held ∧
      ∀ key ∈ (pressModifiers backend keysDown host modifiers).2,
        ∀ position ∈ backend.position key,
          position ∈ (pressModifiers backend keysDown host modifiers).1.held := by
  induction modifiers generalizing host with
  | nil => exact ⟨Finset.Subset.refl _, fun key member => (List.not_mem_nil member).elim⟩
  | cons value rest ih =>
      unfold pressModifiers
      split
      next => exact ih host
      next other found =>
        split
        next => exact ih host
        next =>
          split
          next => exact ih host
          next =>
            obtain ⟨more, pressed⟩ := ih (host.keyDown backend other).1
            obtain ⟨held, -, -⟩ :=
              @keyDown_named backend host other (named_of_controlKey found)
            rw [held] at more
            refine ⟨Finset.union_subset_left more, fun key member position own => ?_⟩
            rcases List.mem_cons.mp member with rfl | later
            · refine Finset.union_subset_right more ?_
              rw [Option.mem_toFinset]
              exact own
            · exact pressed key later position own

theorem held_keyUp (host : Host) (key : Key) :
    (host.keyUp backend key).held ⊆ host.held ∧
      ∀ position ∈ backend.position key, position ∉ (host.keyUp backend key).held := by
  unfold Host.keyUp
  split
  next =>
    refine ⟨Finset.sdiff_subset, fun position own => ?_⟩
    simp [Host.release, Option.mem_def.mp own]
  next =>
    refine ⟨Finset.sdiff_subset, fun position own => ?_⟩
    simp [Host.release, Backend.presses, Option.mem_def.mp own]

theorem held_releaseKeys (host : Host) (toRelease : List Key) :
    (releaseKeys backend host toRelease).held ⊆ host.held ∧
      ∀ key ∈ toRelease, ∀ position ∈ backend.position key,
        position ∉ (releaseKeys backend host toRelease).held := by
  induction toRelease generalizing host with
  | nil => exact ⟨Finset.Subset.refl _, fun key member => (List.not_mem_nil member).elim⟩
  | cons first rest ih =>
      obtain ⟨fewer, released⟩ := ih (host.keyUp backend first)
      obtain ⟨less, up⟩ := @held_keyUp backend host first
      refine ⟨fewer.trans less, fun key member position own => ?_⟩
      rcases List.mem_cons.mp member with rfl | later
      · exact fun held => up position own (fewer held)
      · exact released key later position own

end SubnetDesk.InputService
