import SubnetDesk.Proof.Input.InjectedKeys
import SubnetDesk.Proof.Input.RestoredModifiers

namespace SubnetDesk.InputService

/-- The keys that the release of a record releases. -/
def recordReleases (backend : Backend) (record : KeysDown) : Finset Position :=
  match record with
  | .rdevKey code => if backend.system.isX11 then (rawPosition code.toNat).toFinset else ∅
  | .enigoKey record =>
      match recordKeyToKey record with
      | none => ∅
      | some key => backend.presses key

def State.Covered (backend : Backend) (state : State) (position : Position) : Prop :=
  ∃ entry ∈ state.keysDown, position ∈ recordReleases backend entry.1

def State.CoveredApart (backend : Backend) (state : State) (record : KeysDown)
    (position : Position) : Prop :=
  ∃ entry ∈ state.keysDown, entry.1 ≠ record ∧ position ∈ recordReleases backend entry.1

/-- The record that an event adds or removes. -/
def KeyEvent.record (backend : Backend) (event : KeyEvent) : Option KeysDown :=
  match event.mode with
  | some .map => if backend.system.isX11 then some (.rdevKey event.chr) else none
  | some .translate =>
      match event.union with
      | some (.chr chr) => if backend.system.isX11 then some (.rdevKey chr) else none
      | _ => none
  | _ =>
      match event.union with
      | some (.controlKey value) =>
          if InputService.isFunctionKey value then none
          else some (.enigoKey (value.signExtend 64))
      | some (.chr chr) => some (.enigoKey (chr.setWidth 64 + keyCharStart))
      | _ => none

/-- A raw key that goes down without a record is one that another record releases. -/
def State.RecordsRaw (backend : Backend) (state : State) (event : KeyEvent) : Prop :=
  ∀ code ∈ event.rawCode, backend.system.isX11 = false → event.down = true →
    ∀ position ∈ backend.presses (.raw (code.setWidth 16)), state.Covered backend position

/-- A special key leaves down only keys that a record releases, and a key-up of a number that is no
control key takes away no record that a key needs. -/
def State.RecordsControl (backend : Backend) (state : State) (event : KeyEvent) : Prop :=
  ∀ value, event.union = some (.controlKey value) →
    (isFunctionKey value = true → event.down = true →
      ∀ key, Temporary backend state.keysDown (releaseUnpressedModifiers backend state.host event)
        event.modifiers key →
        ∀ position ∈ backend.presses key, state.Covered backend position) ∧
    (isFunctionKey value = false → event.down = false → keyCharStart ≤ value.signExtend 64 →
      ∀ position ∈ state.host.injected,
        position ∈ recordReleases backend (.enigoKey (value.signExtend 64)) →
        state.CoveredApart backend (.enigoKey (value.signExtend 64)) position)

def State.Records (linux : LinuxBackend) (codes : KeyCodes) (state : State) : Input → Prop
  | .key event _ =>
      state.exiting = false →
        (state.lockModes linux.toBackend codes event).RecordsRaw linux.toBackend event ∧
          (event.mode ≠ some .map → event.mode ≠ some .translate →
            (state.lockModes linux.toBackend codes event).RecordsControl linux.toBackend event)
  | _ => True

/-- Every key that was pressed for a peer has a record that releases it. -/
def State.Recorded (backend : Backend) (state : State) : Prop :=
  ∀ position ∈ state.host.injected, state.Covered backend position

variable {backend : Backend} {state : State} {position : Position}

/-- A record comes with a key-down. -/
theorem mem_recordPressedKey {keysDown : List (KeysDown × Nat)} {record : KeysDown} {down : Bool}
    {now : Nat} {entry : KeysDown × Nat} :
    entry ∈ recordPressedKey keysDown record down now ↔
      (entry ∈ keysDown ∧ entry.1 ≠ record) ∨ (down = true ∧ entry = (record, now)) := by
  unfold recordPressedKey
  cases down with
  | true => simp
  | false => simp

/-- Fewer keys need no more records. -/
theorem Recorded.shrink (recorded : state.Recorded backend) {host : Host}
    (fewer : host.injected ⊆ state.host.injected) :
    ({ state with host := host } : State).Recorded backend :=
  fun position member => recorded position (fewer member)

/-- A press adds the record of its keys, and a record is taken away with its keys. -/
theorem Recorded.record (recorded : state.Recorded backend) {record : KeysDown} {down : Bool}
    {now : Nat} {host : Host}
    (pressed : ∀ position ∈ host.injected, position ∈ state.host.injected ∨
      (down = true ∧ position ∈ recordReleases backend record))
    (released : down = false → ∀ position ∈ host.injected,
      position ∈ recordReleases backend record → state.CoveredApart backend record position) :
    ({ state with
        keysDown := recordPressedKey state.keysDown record down now
        host := host } : State).Recorded backend := by
  intro position member
  by_cases own : position ∈ recordReleases backend record
  · cases down with
    | true => exact ⟨(record, now), mem_recordPressedKey.mpr (.inr ⟨rfl, rfl⟩), own⟩
    | false =>
        obtain ⟨entry, found, apart, covered⟩ := released rfl position member own
        have kept : entry ∈ recordPressedKey state.keysDown record false now :=
          mem_recordPressedKey.mpr (.inl ⟨found, apart⟩)
        exact ⟨entry, kept, covered⟩
  · rcases pressed position member with before | ⟨-, again⟩
    · obtain ⟨entry, found, covered⟩ := recorded position before
      refine ⟨entry, mem_recordPressedKey.mpr (.inl ⟨found, ?_⟩), covered⟩
      rintro rfl
      exact own covered
    · exact absurd again own

theorem recordKeyToKey_chr (chr : BitVec 32) :
    recordKeyToKey (chr.setWidth 64 + keyCharStart) = some (charValueToKey chr) := by
  have above : ¬ chr.setWidth 64 + keyCharStart < keyCharStart := by
    have small := chr.isLt
    have start : keyCharStart.toNat = 9999 := rfl
    rw [BitVec.lt_def, BitVec.toNat_add, BitVec.toNat_setWidth, start]
    omega
  unfold recordKeyToKey
  rw [if_neg above, BitVec.add_sub_cancel, BitVec.setWidth_setWidth_of_le _ (by decide),
    BitVec.setWidth_eq]

theorem recordKeyToKey_controlKey (value : BitVec 32)
    (below : value.signExtend 64 < keyCharStart) :
    recordKeyToKey (value.signExtend 64) = controlKeyValueToKey value := by
  unfold recordKeyToKey
  rw [if_pos below]
  congr 1
  ext index bound
  rw [BitVec.getElem_setWidth, BitVec.getLsbD_signExtend]
  simp [bound, index.lt_trans bound (by decide : 32 < 64)]

theorem below_keyCharStart {value : BitVec 32} {key : Key}
    (found : controlKeyValueToKey value = some key) : value.signExtend 64 < keyCharStart := by
  have all : ∀ entry ∈ keyMap, entry.1.value.signExtend 64 < keyCharStart := by decide
  obtain ⟨entry, member, rfl⟩ := Option.map_eq_some_iff.mp found
  have named := List.find?_some member
  rw [decide_eq_true_eq] at named
  rw [← named]
  exact all entry (List.mem_of_find?_eq_some member)

/-- The record of a letter releases it. -/
theorem recordReleases_chr (chr : BitVec 32) :
    recordReleases backend (.enigoKey (chr.setWidth 64 + keyCharStart)) =
      backend.presses (charValueToKey chr) := by
  unfold recordReleases
  dsimp only
  rw [recordKeyToKey_chr]

/-- The record of a special key releases it. -/
theorem mem_recordReleases_controlKey {value : BitVec 32}
    (below : value.signExtend 64 < keyCharStart) :
    position ∈ recordReleases backend (.enigoKey (value.signExtend 64)) ↔
      ∃ key ∈ controlKeyValueToKey value, position ∈ backend.presses key := by
  unfold recordReleases
  dsimp only
  rw [recordKeyToKey_controlKey value below]
  cases controlKeyValueToKey value with
  | none => simp
  | some key => simp

/-- A raw key with a record is recorded. -/
theorem Recorded.sendRawKey (recorded : state.Recorded backend) {code : BitVec 32} {down : Bool}
    (now : Nat) (raw : backend.system.isX11 = false → down = true →
      ∀ position ∈ backend.presses (.raw (code.setWidth 16)), state.Covered backend position) :
    (sendRawKey backend state code down now).Recorded backend := by
  unfold InputService.sendRawKey
  split
  next x11 =>
    refine Recorded.record recorded ?_ ?_
    · intro position member
      unfold Host.simulateRaw at member
      rw [if_pos x11] at member
      unfold recordReleases
      dsimp only
      rw [if_pos x11]
      cases down with
      | true => exact (Finset.mem_union.mp member).imp_right fun own => ⟨rfl, own⟩
      | false => exact .inl (Finset.mem_sdiff.mp member).1
    · rintro rfl position member own
      unfold Host.simulateRaw at member
      unfold recordReleases at own
      dsimp only at own
      rw [if_pos x11] at member own
      exact absurd own (Finset.mem_sdiff.mp member).2
  next wayland =>
    rw [Bool.not_eq_true] at wayland
    cases down with
    | true =>
        intro position member
        rcases Finset.mem_union.mp (injected_keyDown member) with before | own
        · exact recorded position before
        · exact raw wayland rfl position own
    | false => exact Recorded.shrink recorded injected_keyUp_subset

/-- The keys that are released at the end of the legacy mode are those that were pressed for the
list. -/
theorem mem_injected_releaseKeys (linux : backend.system ≠ .windows)
    {keysDown : List (KeysDown × Nat)} {event : KeyEvent} {start host : Host} {own : Prop}
    (middle : position ∈ host.injected →
      position ∈ (syncModifiers backend keysDown start event).1.injected ∨ own)
    (member : position ∈ (releaseKeys backend host
      (syncModifiers backend keysDown start event).2).injected) :
    position ∈ start.injected ∨ own := by
  obtain ⟨before, released⟩ := injected_releaseKeys linux _ _ member
  rcases middle before with synced | pressed
  · rcases injected_syncModifiers synced with before | ⟨key, listed, pressed⟩
    · exact .inl before
    · exact absurd pressed (released key listed)
  · exact .inr pressed

/-- A special key is recorded. -/
theorem Recorded.controlKey (recorded : state.Recorded backend) (linux : backend.system ≠ .windows)
    {event : KeyEvent} {value : BitVec 32} (now : Nat)
    (gone : event.down = false → keyCharStart ≤ value.signExtend 64 →
      ∀ position ∈ state.host.injected,
        position ∈ recordReleases backend (.enigoKey (value.signExtend 64)) →
        state.CoveredApart backend (.enigoKey (value.signExtend 64)) position) :
    ({ state with
        keysDown := recordPressedKey state.keysDown (.enigoKey (value.signExtend 64)) event.down now
        host := releaseKeys backend (processControlKey backend
          (syncModifiers backend state.keysDown state.host event).1 value event.down)
          (syncModifiers backend state.keysDown state.host event).2 } : State).Recorded backend := by
  have pressed : ∀ position ∈ (releaseKeys backend (processControlKey backend
      (syncModifiers backend state.keysDown state.host event).1 value event.down)
      (syncModifiers backend state.keysDown state.host event).2).injected,
      position ∈ state.host.injected ∨ (event.down = true ∧
        ∃ key ∈ controlKeyValueToKey value, position ∈ backend.presses key) := by
    intro position member
    exact mem_injected_releaseKeys linux
      (fun inside => (injected_processControlKey linux inside).imp_left And.left) member
  refine Recorded.record recorded ?_ ?_
  · intro position member
    refine (pressed position member).imp_right fun own => ⟨own.1, ?_⟩
    obtain ⟨key, listed, inside⟩ := own.2
    exact (mem_recordReleases_controlKey (below_keyCharStart listed)).mpr ⟨key, listed, inside⟩
  · intro up position member own
    by_cases below : value.signExtend 64 < keyCharStart
    · obtain ⟨key, listed, inside⟩ := (mem_recordReleases_controlKey below).mp own
      have before := (injected_releaseKeys linux _ _ member).1
      rcases injected_processControlKey linux before with ⟨-, apart⟩ | ⟨down, -⟩
      · exact absurd inside (apart up key listed)
      · rw [up] at down
        cases down
    · rcases pressed position member with before | ⟨down, -⟩
      · exact gone up (BitVec.not_lt.mp below) position before own
      · rw [up] at down
        cases down

/-- A letter is recorded. -/
theorem Recorded.chr (recorded : state.Recorded backend) (linux : backend.system ≠ .windows)
    {event : KeyEvent} {code : BitVec 32} (now : Nat) :
    ({ state with
        keysDown := recordPressedKey state.keysDown (.enigoKey (code.setWidth 64 + keyCharStart))
          event.down now
        host := releaseKeys backend (processChr backend (releaseShiftForCharInput backend
          (syncModifiers backend state.keysDown state.host event).1) code event.down
          (hasHotkeyModifiers event))
          (syncModifiers backend state.keysDown state.host event).2 } : State).Recorded backend := by
  refine Recorded.record recorded ?_ ?_
  · intro position member
    rw [recordReleases_chr]
    refine mem_injected_releaseKeys linux (fun inside => ?_) member
    exact (injected_processChr linux inside).imp_left fun before =>
      injected_releaseShiftForCharInput before.1
  · intro up position member
    rw [recordReleases_chr]
    intro own
    have before := (injected_releaseKeys linux _ _ member).1
    rcases injected_processChr linux before with ⟨-, apart⟩ | ⟨down, -⟩
    · exact absurd own (apart up)
    · rw [up] at down
      cases down

/-- A legacy key is recorded. -/
theorem Recorded.legacyKeyboardMode (recorded : state.Recorded backend)
    (linux : backend.system ≠ .windows) {event : KeyEvent} (now : Nat)
    (control : state.RecordsControl backend event) :
    (legacyKeyboardMode backend state event now).Recorded backend := by
  have release : ∀ host : Host,
      host.injected ⊆ (syncModifiers backend state.keysDown state.host event).1.injected →
      ({ state with
          host := releaseKeys backend host
            (syncModifiers backend state.keysDown state.host event).2 } : State).Recorded backend := by
    intro host fewer
    refine Recorded.shrink recorded fun position member => ?_
    have before : position ∈ state.host.injected ∨ False :=
      mem_injected_releaseKeys linux (fun inside => .inl (fewer inside)) member
    exact before.resolve_right id
  unfold InputService.legacyKeyboardMode
  dsimp only
  split
  next value found =>
    obtain ⟨special, gone⟩ := control value found
    split
    next function =>
      intro position member
      rcases injected_syncModifiers member with before | ⟨key, listed, pressed⟩
      · exact recorded position before
      · obtain ⟨down, temporary⟩ := mem_toRelease.mp listed
        exact special function down key temporary position pressed
    next other =>
      rw [Bool.not_eq_true] at other
      exact Recorded.controlKey recorded linux now (gone other)
  next chr found => exact Recorded.chr recorded linux now
  next chr found =>
    exact release _ ((injected_processUnicode linux chr).trans injected_releaseShiftForCharInput)
  next seq found => exact release _ (injected_processSeq linux seq)
  next => exact release _ (Finset.Subset.refl _)

end SubnetDesk.InputService
