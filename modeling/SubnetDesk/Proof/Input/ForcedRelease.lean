import SubnetDesk.Proof.Input.RecordedKeys

namespace SubnetDesk.InputService

variable {backend : Backend} {state : State} {position : Position}

theorem record_legacy {event : KeyEvent} (notMap : event.mode ≠ some .map)
    (notTranslate : event.mode ≠ some .translate) :
    event.record backend =
      match event.union with
      | some (.controlKey value) =>
          if isFunctionKey value then none else some (.enigoKey (value.signExtend 64))
      | some (.chr chr) => some (.enigoKey (chr.setWidth 64 + keyCharStart))
      | _ => none := by
  unfold KeyEvent.record
  split
  next map => exact absurd map notMap
  next translate => exact absurd translate notTranslate
  next => rfl

/-- A legacy key changes its own record. -/
theorem legacyKeyboardMode_keysDown {event : KeyEvent} (now : Nat)
    (notMap : event.mode ≠ some .map) (notTranslate : event.mode ≠ some .translate) :
    (legacyKeyboardMode backend state event now).keysDown =
      match event.record backend with
      | none => state.keysDown
      | some record => recordPressedKey state.keysDown record event.down now := by
  rw [record_legacy notMap notTranslate]
  unfold legacyKeyboardMode
  dsimp only
  cases event.union with
  | none => rfl
  | some union =>
      cases union with
      | controlKey value =>
          dsimp only
          split
          next => rfl
          next => rfl
      | chr chr => rfl
      | unicode chr => rfl
      | seq seq => rfl
      | win2winHotkey code => rfl

/-- A raw key has a record on X11 alone. -/
theorem sendRawKey_keysDown (code : BitVec 32) (down : Bool) (now : Nat) :
    (sendRawKey backend state code down now).keysDown =
      if backend.system.isX11 then recordPressedKey state.keysDown (.rdevKey code) down now
      else state.keysDown := by
  unfold sendRawKey
  split
  next => rfl
  next => rfl

/-- The records change by the record of the event alone. -/
theorem handleKeyMode_keysDown (event : KeyEvent) (now : Nat) :
    (handleKeyMode backend state event now).keysDown =
      match event.record backend with
      | none => state.keysDown
      | some record => recordPressedKey state.keysDown record event.down now := by
  unfold handleKeyMode
  split
  next map =>
    unfold mapKeyboardMode KeyEvent.record
    rw [sendRawKey_keysDown, map]
    dsimp only
    split
    next => rfl
    next => rfl
  next translate =>
    unfold translateKeyboardMode KeyEvent.record
    rw [translate]
    dsimp only
    cases event.union with
    | none => rfl
    | some union =>
        cases union with
        | chr chr =>
            dsimp only
            rw [sendRawKey_keysDown]
            split
            next => rfl
            next => rfl
        | controlKey value => rfl
        | unicode chr => rfl
        | seq seq => rfl
        | win2winHotkey code => rfl
  next notMap notTranslate => exact legacyKeyboardMode_keysDown now notMap notTranslate

/-- A key changes its own record. -/
theorem handleKey_keysDown (codes : KeyCodes) (event : KeyEvent) (now : Nat)
    (running : state.exiting = false) :
    (handleKey backend codes state event now).keysDown =
      match event.record backend with
      | none => state.keysDown
      | some record => recordPressedKey state.keysDown record event.down now := by
  have mode := @handleKeyMode_keysDown backend (state.lockModes backend codes event) event now
  unfold handleKey
  rw [if_neg (by rw [running]; exact Bool.false_ne_true)]
  dsimp only
  split
  next => exact mode
  next => exact mode

theorem handleKeyMode_exiting (event : KeyEvent) (now : Nat) :
    (handleKeyMode backend state event now).exiting = state.exiting := by
  have raw : ∀ code down, (sendRawKey backend state code down now).exiting = state.exiting := by
    intro code down
    unfold sendRawKey
    split
    next => rfl
    next => rfl
  unfold handleKeyMode
  split
  next => exact raw _ _
  next =>
    unfold translateKeyboardMode
    split
    next => rfl
    next => exact raw _ _
    next => rfl
  next =>
    unfold legacyKeyboardMode
    dsimp only
    split
    next =>
      split
      next => rfl
      next => rfl
    next => rfl
    next => rfl
    next => rfl
    next => rfl

/-- A recorded key leaves all keys recorded. -/
theorem Recorded.handleKey (recorded : state.Recorded backend) (linux : backend.system ≠ .windows)
    (codes : KeyCodes) (event : KeyEvent) (now : Nat)
    (records : state.exiting = false →
      (state.lockModes backend codes event).RecordsRaw backend event ∧
        (event.mode ≠ some .map → event.mode ≠ some .translate →
          (state.lockModes backend codes event).RecordsControl backend event)) :
    (handleKey backend codes state event now).Recorded backend := by
  unfold InputService.handleKey
  split
  next => exact recorded
  next running =>
    rw [Bool.not_eq_true] at running
    obtain ⟨raw, control⟩ := records running
    have ready : (state.lockModes backend codes event).Recorded backend :=
      Recorded.shrink recorded (injected_lockModesHandler linux codes event)
    have handled : (handleKeyMode backend (state.lockModes backend codes event) event now).Recorded
        backend := by
      unfold handleKeyMode
      split
      next map =>
        refine Recorded.sendRawKey ready now (raw event.chr ?_)
        unfold KeyEvent.rawCode
        rw [map]
        rfl
      next translate =>
        unfold translateKeyboardMode
        split
        next seq found => exact Recorded.shrink ready (injected_translateSeq linux seq)
        next chr found =>
          refine Recorded.sendRawKey ready now (raw chr ?_)
          unfold KeyEvent.rawCode
          rw [translate, found]
          rfl
        next => exact ready
      next notMap notTranslate =>
        exact Recorded.legacyKeyboardMode ready linux now (control notMap notTranslate)
    dsimp only
    split
    next => exact handled
    next handler _ => exact Recorded.shrink handled (injected_drop linux handler)

/-- A released record frees its keys. -/
theorem injected_releaseRecordKey (linux : backend.system ≠ .windows) (host : Host)
    (record : KeysDown) :
    (releaseRecordKey backend host record).injected =
      host.injected \ recordReleases backend record := by
  unfold releaseRecordKey recordReleases
  cases record with
  | rdevKey code =>
      dsimp only
      unfold Host.simulateRaw
      split
      next => rfl
      next => exact Finset.sdiff_empty.symm
  | enigoKey key =>
      dsimp only
      cases recordKeyToKey key with
      | none => exact Finset.sdiff_empty.symm
      | some found => exact injected_keyUp linux

/-- An entry of a timeout leaves recorded keys recorded. -/
theorem Recorded.expire (recorded : state.Recorded backend) (linux : backend.system ≠ .windows)
    (force : Bool) (now : Nat) (entry : KeysDown × Nat) :
    (expire backend force now state entry).Recorded backend := by
  unfold InputService.expire
  split
  next =>
    refine Recorded.record recorded ?_ ?_
    · intro position member
      rw [injected_releaseRecordKey linux, Finset.mem_sdiff] at member
      exact .inl member.1
    · intro _ position member own
      rw [injected_releaseRecordKey linux, Finset.mem_sdiff] at member
      exact absurd own member.2
  next => exact recorded

/-- A timeout leaves all keys recorded. -/
theorem Recorded.fixKeyDownTimeout (recorded : state.Recorded backend)
    (linux : backend.system ≠ .windows) (force : Bool) (now : Nat) :
    (fixKeyDownTimeout backend state force now).Recorded backend := by
  have all : ∀ (entries : List (KeysDown × Nat)) (state : State), state.Recorded backend →
      (entries.foldl (InputService.expire backend force now) state).Recorded backend := by
    intro entries
    induction entries with
    | nil => exact fun _ recorded => recorded
    | cons entry rest ih =>
        exact fun state recorded => ih _ (Recorded.expire recorded linux force now entry)
  exact all state.keysDown state recorded

/-- A timeout only takes records away, and a forced one takes away all that it has seen. -/
theorem mem_expired (force : Bool) (now : Nat) (entries : List (KeysDown × Nat)) (state : State) :
    (∀ entry ∈ (entries.foldl (expire backend force now) state).keysDown,
      entry ∈ state.keysDown ∧ (force = true → entry.1 ∉ entries.map Prod.fst)) ∧
      (entries.foldl (expire backend force now) state).exiting = state.exiting := by
  induction entries generalizing state with
  | nil => exact ⟨fun entry member => ⟨member, fun _ => List.not_mem_nil⟩, rfl⟩
  | cons first rest ih =>
      obtain ⟨left, same⟩ := ih (expire backend force now state first)
      refine ⟨fun entry member => ?_, ?_⟩
      · obtain ⟨before, gone⟩ := left entry member
        unfold expire at before
        split at before
        next due =>
          dsimp only at before
          rcases mem_recordPressedKey.mp before with ⟨kept, apart⟩ | ⟨none, -⟩
          · refine ⟨kept, fun forced => ?_⟩
            rw [List.map_cons, List.mem_cons, not_or]
            exact ⟨apart, gone forced⟩
          · cases none
        next due =>
          refine ⟨before, fun forced => absurd ?_ due⟩
          rw [forced, Bool.true_or]
      · rw [List.foldl_cons, same]
        unfold expire
        split
        next => rfl
        next => rfl

/-- A timeout adds no record. -/
theorem keysDown_timeout (force : Bool) (now : Nat) :
    (fixKeyDownTimeout backend state force now).keysDown ⊆ state.keysDown :=
  fun entry member => ((mem_expired force now state.keysDown state).1 entry member).1

/-- A forced timeout leaves no record. -/
theorem keysDown_forced (now : Nat) : (fixKeyDownTimeout backend state true now).keysDown = [] := by
  refine List.eq_nil_iff_forall_not_mem.mpr fun entry member => ?_
  obtain ⟨before, gone⟩ := (mem_expired true now state.keysDown state).1 entry member
  exact gone rfl (List.mem_map_of_mem before)

/-- Without records, no key of a peer is held. -/
theorem Recorded.injected_empty (recorded : state.Recorded backend) (none : state.keysDown = []) :
    state.host.injected = ∅ := by
  refine Finset.eq_empty_of_forall_notMem fun position member => ?_
  obtain ⟨entry, found, -⟩ := recorded position member
  rw [none] at found
  cases found

/-- One input leaves all keys recorded. -/
theorem Recorded.step {linux : LinuxBackend} {codes : KeyCodes}
    (recorded : state.Recorded linux.toBackend) (input : Input)
    (records : state.Records linux codes input) :
    (state.step linux codes input).Recorded linux.toBackend := by
  cases input with
  | key event now => exact Recorded.handleKey recorded linux.linux codes event now records
  | fixKeyDownTimeout force now =>
      exact Recorded.fixKeyDownTimeout recorded linux.linux force now
  | expire force now entry => exact Recorded.expire recorded linux.linux force now entry
  | exit now =>
      show (fixKeyDownTimeoutAtExit linux.toBackend state now).Recorded linux.toBackend
      unfold fixKeyDownTimeoutAtExit
      split
      next => exact recorded
      next =>
        have exiting : ({ state with exiting := true } : State).Recorded linux.toBackend :=
          fun position member => recorded position member
        exact Recorded.fixKeyDownTimeout exiting linux.linux true now
  | local_ held locked => exact fun position member => recorded position member

/-- After the exit there are no records. -/
def State.Exited (state : State) : Prop := state.exiting = true → state.keysDown = []

/-- One input keeps the exit. -/
theorem exited_step {linux : LinuxBackend} {codes : KeyCodes} (exited : state.Exited)
    (input : Input) : (state.step linux codes input).Exited := by
  cases input with
  | key event now =>
      show (handleKey linux.toBackend codes state event now).Exited
      cases exiting : state.exiting with
      | true =>
          unfold handleKey
          rw [if_pos exiting]
          exact exited
      | false =>
          have same : (handleKey linux.toBackend codes state event now).exiting = false := by
            unfold handleKey
            rw [if_neg (by rw [exiting]; exact Bool.false_ne_true)]
            dsimp only
            split
            next => rw [handleKeyMode_exiting]; exact exiting
            next => exact (handleKeyMode_exiting event now).trans exiting
          intro exiting
          rw [same] at exiting
          cases exiting
  | fixKeyDownTimeout force now =>
      intro exiting
      have before : state.exiting = true :=
        (mem_expired force now state.keysDown state).2.symm.trans exiting
      refine List.eq_nil_of_subset_nil ?_
      rw [← exited before]
      exact keysDown_timeout force now
  | expire force now entry =>
      obtain ⟨left, same⟩ := @mem_expired linux.toBackend force now [entry] state
      intro exiting
      have none := exited (same.symm.trans exiting)
      refine List.eq_nil_iff_forall_not_mem.mpr fun other member => ?_
      obtain ⟨before, -⟩ := left other member
      rw [none] at before
      cases before
  | exit now =>
      show (fixKeyDownTimeoutAtExit linux.toBackend state now).Exited
      unfold fixKeyDownTimeoutAtExit
      split
      next => exact exited
      next => exact fun _ => keysDown_forced now
  | local_ held locked => exact exited

def State.records (state : State) : List KeysDown := state.keysDown.map Prod.fst

/-- A key-down that adds a record. -/
def Input.Adds (backend : Backend) (record : KeysDown) : Input → Prop
  | .key event _ => event.down = true ∧ event.record backend = some record
  | _ => False

theorem mem_recordPressedKey_records {keysDown : List (KeysDown × Nat)} {record other : KeysDown}
    {down : Bool} {now : Nat} :
    record ∈ (recordPressedKey keysDown other down now).map Prod.fst ↔
      (record ∈ keysDown.map Prod.fst ∧ record ≠ other) ∨ (down = true ∧ record = other) := by
  simp only [List.mem_map, mem_recordPressedKey]
  constructor
  · rintro ⟨entry, ⟨member, apart⟩ | ⟨down, rfl⟩, rfl⟩
    · exact .inl ⟨⟨entry, member, rfl⟩, apart⟩
    · exact .inr ⟨down, rfl⟩
  · rintro (⟨⟨entry, member, rfl⟩, apart⟩ | ⟨down, rfl⟩)
    · exact ⟨entry, .inl ⟨member, apart⟩, rfl⟩
    · exact ⟨(record, now), .inr ⟨down, rfl⟩, rfl⟩

/-- A record comes from a key-down. -/
theorem records_step {linux : LinuxBackend} {codes : KeyCodes} {input : Input} {record : KeysDown}
    (member : record ∈ (state.step linux codes input).records) :
    record ∈ state.records ∨ input.Adds linux.toBackend record := by
  cases input with
  | key event now =>
      change record ∈ (handleKey linux.toBackend codes state event now).records at member
      cases exiting : state.exiting with
      | true =>
          unfold handleKey at member
          rw [if_pos exiting] at member
          exact .inl member
      | false =>
          unfold State.records at member
          rw [handleKey_keysDown codes event now exiting] at member
          split at member
          next => exact .inl member
          next own found =>
            rcases mem_recordPressedKey_records.mp member with ⟨before, -⟩ | ⟨down, rfl⟩
            · exact .inl before
            · exact .inr ⟨down, found⟩
  | fixKeyDownTimeout force now =>
      exact .inl (List.map_subset Prod.fst (keysDown_timeout force now) member)
  | expire force now entry =>
      obtain ⟨other, found, rfl⟩ := List.mem_map.mp member
      obtain ⟨before, -⟩ := (mem_expired force now [entry] state).1 other found
      exact .inl (List.mem_map_of_mem before)
  | exit now =>
      change record ∈ (fixKeyDownTimeoutAtExit linux.toBackend state now).records at member
      unfold fixKeyDownTimeoutAtExit at member
      split at member
      next => exact .inl member
      next =>
        unfold State.records at member
        rw [keysDown_forced] at member
        cases member
  | local_ held locked => exact .inl member

/-- Without a key-down a record stays away. -/
theorem records_run {linux : LinuxBackend} {codes : KeyCodes} {record : KeysDown}
    (inputs : List Input) (state : State) (absent : record ∉ state.records)
    (others : ∀ input ∈ inputs, ¬ input.Adds linux.toBackend record) :
    record ∉ ((inputService linux codes).run state inputs).1.records := by
  induction inputs generalizing state with
  | nil => exact absent
  | cons input rest ih =>
      rw [List.forall_mem_cons] at others
      refine ih (state.step linux codes input) (fun member => ?_) others.2
      exact (records_step member).elim absent others.1

/-- A key-up takes its record away. -/
theorem records_keyUp {linux : LinuxBackend} {codes : KeyCodes} (exited : state.Exited)
    {event : KeyEvent} {record : KeysDown} (now : Nat) (up : event.down = false)
    (own : event.record linux.toBackend = some record) :
    record ∉ (state.step linux codes (.key event now)).records := by
  change record ∉ (handleKey linux.toBackend codes state event now).records
  cases exiting : state.exiting with
  | true =>
      unfold handleKey State.records
      rw [if_pos exiting, exited exiting]
      exact List.not_mem_nil
  | false =>
      unfold State.records
      rw [handleKey_keysDown codes event now exiting, own]
      intro member
      rcases mem_recordPressedKey_records.mp member with ⟨-, apart⟩ | ⟨down, -⟩
      · exact apart rfl
      · rw [up] at down
        cases down

/-- In every such run all keys are recorded. -/
theorem recorded_run (linux : LinuxBackend) (codes : KeyCodes) (inputs : List Input)
    (records : (inputService linux codes).Guarded (State.Records linux codes) {} inputs) :
    ((inputService linux codes).run {} inputs).1.Recorded linux.toBackend :=
  (inputService linux codes).run_invariant (State.Records linux codes)
    (fun state _ => state.Recorded linux.toBackend)
    (fun _ _ input guard recorded => Recorded.step recorded input guard) {} [] inputs
    (fun position member => (Finset.notMem_empty position member).elim) records

/-- In every run the exit is kept. -/
theorem exited_run (linux : LinuxBackend) (codes : KeyCodes) (inputs : List Input) :
    ((inputService linux codes).run {} inputs).1.Exited :=
  (inputService linux codes).run_invariant (fun _ _ => True) (fun state _ => state.Exited)
    (fun _ _ input _ exited => exited_step exited input) {} [] inputs nofun
    ((inputService linux codes).guarded_true {} inputs)

/-- Where the steps keep the records, every key that is held for a peer has a record that releases
it, and a reset of the service leaves none held. A key-up takes its record away until the next
key-down. -/
theorem pressed_keys_recorded (linux : LinuxBackend) (codes : KeyCodes) (inputs : List Input)
    (records : (inputService linux codes).Guarded (State.Records linux codes) {} inputs) :
    ((inputService linux codes).run {} inputs).1.Recorded linux.toBackend ∧
      (∀ now, (((inputService linux codes).run {} inputs).1.step linux codes
        (.fixKeyDownTimeout true now)).host.injected = ∅) ∧
      ∀ before event now after record, inputs = before ++ .key event now :: after →
        event.down = false → event.record linux.toBackend = some record →
        (∀ input ∈ after, ¬ input.Adds linux.toBackend record) →
        record ∉ ((inputService linux codes).run {} inputs).1.records := by
  have recorded := recorded_run linux codes inputs records
  refine ⟨recorded, fun now => ?_, ?_⟩
  · exact Recorded.injected_empty (Recorded.fixKeyDownTimeout recorded linux.linux true now)
      (keysDown_forced now)
  · rintro before event now after record rfl up own others
    rw [Machine.run_append]
    exact records_run after _ (records_keyUp (exited_run linux codes before) now up own) others

def plainLinux (system : System) (linux : system ≠ .windows) : LinuxBackend where
  toBackend := plainBackend system
  linux := linux

def plainCodes : KeyCodes where
  skipLedSyncRdevKey _ := false
  isNumpadRdevKey _ := false

def letterKey (code : BitVec 32) (down : Bool) : KeyEvent where
  down := down
  union := some (.chr code)
  mode := some .map

/-- Three letters go down and the first one goes up, while the host holds a key of its own. -/
def typedLetters : List Input :=
  [.key (letterKey 38 true) 5, .local_ {.code 42} ∅, .key (letterKey 39 true) 6,
    .expire false 7 (.rdevKey 38, 5), .key (letterKey 38 false) 7, .key (letterKey 40 true) 8]

/-- Two letters are held after the run, each of them has a record, and a reset releases both. -/
theorem pressed_keys_recorded_letters :
    ((inputService (plainLinux .x11 (by decide)) plainCodes).run {}
        typedLetters).1.host.injected.card = 2 ∧
      ((inputService (plainLinux .x11 (by decide)) plainCodes).run {} typedLetters).1.Recorded
        (plainLinux .x11 (by decide)).toBackend ∧
      (((inputService (plainLinux .x11 (by decide)) plainCodes).run {} typedLetters).1.step
        (plainLinux .x11 (by decide)) plainCodes (.fixKeyDownTimeout true 9)).host.injected = ∅ ∧
      KeysDown.rdevKey 38 ∉
        ((inputService (plainLinux .x11 (by decide)) plainCodes).run {} typedLetters).1.records := by
  have records : (inputService (plainLinux .x11 (by decide)) plainCodes).Guarded
      (State.Records (plainLinux .x11 (by decide)) plainCodes) {} typedLetters := by
    refine ⟨?_, trivial, ?_, trivial, ?_, ?_, trivial⟩
    all_goals
      intro _
      exact ⟨(fun _ _ wayland => by cases wayland), (fun notMap => (notMap rfl).elim)⟩
  obtain ⟨recorded, released, keysUp⟩ :=
    pressed_keys_recorded (plainLinux .x11 (by decide)) plainCodes typedLetters records
  refine ⟨by decide +kernel, recorded, released 9, ?_⟩
  refine keysUp (typedLetters.take 4) (letterKey 38 false) 7 [.key (letterKey 40 true) 8] _ rfl rfl
    rfl ?_
  intro input member added
  obtain rfl := List.mem_singleton.mp member
  exact absurd (Option.some.inj added.2) (by decide)

theorem wayland_letter_unrecorded :
    ¬ ((inputService (plainLinux .uinput (by decide)) plainCodes).run {}
      [.key (letterKey 38 true) 5]).1.Recorded (plainBackend .uinput) := by
  intro recorded
  obtain ⟨entry, member, -⟩ := recorded (.code 30) (by decide +kernel)
  cases member

end SubnetDesk.InputService
