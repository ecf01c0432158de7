import SubnetDesk.Proof.Clipboard.KeptRecords

namespace SubnetDesk.WaylandInput

/-- The items that are done hold no injection that came before the check and still counts. -/
structure Check.Sound (compress : List UInt8 → List UInt8) (state : State) (check : Check) :
    Prop where
  started : check.start ≤ state.history.length
  done : ∃ done, check.msg.clipboards = done ++ check.clipboard :: check.rest ∧
    ∀ clipboard ∈ done, ∀ number injection, number < check.start →
      state.Remembers state.clock number injection → ¬ clipboard.Holds compress injection.text

/-- The last injection is the one under way. -/
structure State.Sound (compress : List UInt8 → List UInt8) (state : State) : Prop where
  ordered : Ordered state.history
  past : ∀ injection ∈ state.history, injection.createdAt ≤ state.clock
  texts : ∀ injection ∈ state.history, normalize injection.text ≠ []
  kept : Kept state.clock state.history state.records
  own : ∀ own, state.injecting = some (some own) → ∃ earlier text,
    state.history = earlier ++ [⟨own.createdAt, text, false⟩] ∧ own.normalized = normalize text
  checked : ∀ check, state.checking = some check → check.Sound compress state

variable {compress decompress : List UInt8 → List UInt8}

theorem sound_new : State.Sound compress {} := by
  refine ⟨List.Pairwise.nil, ?_, ?_, ⟨[], [], rfl, rfl, .inl ?_⟩, ?_, ?_⟩
  · intro injection member
    cases member
  · intro injection member
    cases member
  · intro injection member
    cases member
  · intro own injecting
    cases injecting
  · intro check checking
    cases checking

/-- What counts after a step and was there before it counted before it. -/
theorem Check.Sound.mono {state next : State} {check : Check} (sound : check.Sound compress state)
    (grown : state.history.length ≤ next.history.length) (later : state.clock ≤ next.clock)
    (same : ∀ number injection, number < state.history.length →
      next.history[number]? = some injection → injection.rolledBack = false →
      state.history[number]? = some injection) : check.Sound compress next := by
  obtain ⟨started, done, split, none⟩ := sound
  refine ⟨started.trans grown, done, split, ?_⟩
  intro clipboard member number injection before remembered
  refine none clipboard member number injection before ⟨?_, ?_, remembered.kept, ?_⟩
  · exact same number injection (Nat.lt_of_lt_of_le before started) remembered.found remembered.kept
  · have few := remembered.few
    omega
  · have recent := remembered.recent
    omega

theorem State.Sound.tick {state : State} (sound : state.Sound compress) {now : Nat}
    (later : state.clock ≤ now) : ({ state with clock := now } : State).Sound compress where
  ordered := sound.ordered
  past injection member := (sound.past injection member).trans later
  texts := sound.texts
  kept := sound.kept.mono later
  own := sound.own
  checked check checking :=
    (sound.checked check checking).mono (Nat.le_refl _) later fun _ _ _ found _ => found

theorem State.Sound.record {state : State} (sound : state.Sound compress) (text : List Char) :
    (state.record text state.clock).Sound compress := by
  unfold State.record
  split
  next => exact sound
  next =>
    unfold WaylandInput.record normalizedText
    by_cases empty : normalize text = []
    · rw [if_pos empty]
      refine ⟨sound.ordered, sound.past, sound.texts, sound.kept, ?_, fun check checking => ?_⟩
      · intro own injecting
        cases injecting
      · exact (sound.checked check checking).mono (Nat.le_refl _) (Nat.le_refl _)
          fun _ _ _ found _ => found
    · rw [if_neg empty]
      refine ⟨?_, ?_, ?_, ?_, ?_, fun check checking => ?_⟩
      · refine List.pairwise_append.mpr ⟨sound.ordered, List.pairwise_singleton _ _, ?_⟩
        intro injection member last own
        rw [List.mem_singleton] at own
        subst own
        exact sound.past injection member
      · intro injection member
        rcases List.mem_append.mp member with before | own
        · exact sound.past injection before
        · rw [List.mem_singleton] at own
          subst own
          exact Nat.le_refl _
      · intro injection member
        rcases List.mem_append.mp member with before | own
        · exact sound.texts injection before
        · rw [List.mem_singleton] at own
          subst own
          exact empty
      · exact (sound.kept.cleanup sound.ordered (Nat.le_refl _)).push state.clock text
      · intro own injecting
        obtain rfl := Option.some.inj (Option.some.inj injecting)
        exact ⟨state.history, text, rfl, rfl⟩
      · refine (sound.checked check checking).mono ?_ (Nat.le_refl _) ?_
        · exact (List.length_append ▸ Nat.le_add_right _ _)
        · intro number injection inside found fresh
          rw [← found]
          exact (List.getElem?_append_left inside).symm

theorem State.Sound.setClipboardContent {state : State} (sound : state.Sound compress) (ok : Bool) :
    (state.setClipboardContent ok state.clock).Sound compress := by
  have free : ({ state with injecting := none } : State).Sound compress := by
    refine ⟨sound.ordered, sound.past, sound.texts, sound.kept, ?_, fun check checking => ?_⟩
    · intro own injecting
      cases injecting
    · exact (sound.checked check checking).mono (Nat.le_refl _) (Nat.le_refl _)
        fun _ _ _ found _ => found
  unfold State.setClipboardContent
  split
  next => exact sound
  next own injecting =>
    cases own with
    | none => exact free
    | some own =>
        dsimp only
        split
        next => exact free
        next =>
          obtain ⟨earlier, text, history, normalized⟩ := sound.own own injecting
          obtain ⟨createdAt, normalized'⟩ := own
          dsimp only at history normalized
          subst normalized
          rw [history, List.dropLast_concat, List.getLast?_concat]
          have ordered := sound.ordered
          have past := sound.past
          have texts := sound.texts
          have kept := sound.kept
          rw [history] at ordered past texts kept
          refine ⟨?_, ?_, ?_, ?_, ?_, fun check checking => ?_⟩
          · obtain ⟨front, -, last⟩ := List.pairwise_append.mp ordered
            refine List.pairwise_append.mpr ⟨front, List.pairwise_singleton _ _, ?_⟩
            intro injection member marked own
            obtain rfl := List.mem_singleton.mp own
            exact last injection member ⟨createdAt, text, false⟩ (by simp)
          · intro injection member
            rcases List.mem_append.mp member with before | own
            · exact past injection (List.mem_append_left _ before)
            · obtain rfl := List.mem_singleton.mp own
              exact past ⟨createdAt, text, false⟩ (by simp)
          · intro injection member
            rcases List.mem_append.mp member with before | own
            · exact texts injection (List.mem_append_left _ before)
            · obtain rfl := List.mem_singleton.mp own
              exact texts ⟨createdAt, text, false⟩ (by simp)
          · dsimp only [Option.map_some, Option.toList_some]
            exact kept.rollback ordered
          · intro own injecting
            cases injecting
          · refine (sound.checked check checking).mono ?_ (Nat.le_refl _) ?_
            · rw [history, List.length_append, List.length_append]
              exact Nat.le_refl _
            · intro number injection inside found fresh
              rw [history] at inside ⊢
              rw [List.length_append, List.length_singleton] at inside
              by_cases before : number < earlier.length
              · rw [List.getElem?_append_left before] at found ⊢
                exact found
              · obtain rfl : number = earlier.length := by omega
                dsimp only [Option.map_some, Option.toList_some] at found
                rw [List.getElem?_concat_length] at found
                obtain rfl := Option.some.inj found
                cases fresh

theorem State.Sound.check {state : State} (sound : state.Sound compress) (msg : Message) :
    (state.check msg).1.Sound compress := by
  unfold State.check
  split
  next => exact sound
  next => exact sound
  next clipboard rest idle items =>
    refine ⟨sound.ordered, sound.past, sound.texts, sound.kept, sound.own, fun check checking => ?_⟩
    obtain rfl := Option.some.inj checking
    refine ⟨Nat.le_refl _, [], items, ?_⟩
    intro clipboard member
    cases member

/-- An item is found recent exactly for the sake of an injection that counts, and every injection
that counts is found. -/
theorem State.Sound.isRecent {state : State} (sound : state.Sound compress)
    (inverse : ∀ data, decompress (compress data) = data) (clipboard : Clipboard) :
    Kept state.clock state.history
        (isRecentWaylandInput decompress state.records clipboard state.clock).2 ∧
      ((isRecentWaylandInput decompress state.records clipboard state.clock).1 = true →
        clipboard.format = some .text ∧ ∃ injection ∈ state.history,
          injection.rolledBack = false ∧ state.clock - injection.createdAt ≤ filterWindow ∧
          ∀ text, clipboard.Holds compress text →
            text.take maxTextChars = injection.text.take maxTextChars) ∧
      ∀ number injection, state.Remembers state.clock number injection →
        clipboard.Holds compress injection.text →
        (isRecentWaylandInput decompress state.records clipboard state.clock).1 = true := by
  have kept := sound.kept.cleanup sound.ordered (Nat.le_refl state.clock)
  unfold isRecentWaylandInput
  split
  next hidden =>
    refine ⟨sound.kept, nofun, ?_⟩
    intro number injection remembered holds
    obtain ⟨shown, decoded, -⟩ := decodeTextClipboard_holds inverse holds
    rw [hidden] at decoded
    cases decoded
  next shown decoded =>
    have agrees : ∀ text, clipboard.Holds compress text → normalize shown = normalize text := by
      intro text holds
      obtain ⟨other, again, same⟩ := decodeTextClipboard_holds inverse holds
      rw [decoded] at again
      rw [Option.some.inj again]
      exact same
    have text : clipboard.format = some .text := by
      unfold decodeTextClipboard at decoded
      split at decoded
      next format => exact format
      next => cases decoded
    unfold WaylandInput.isRecent normalizedText
    by_cases empty : normalize shown = []
    · rw [if_pos empty]
      refine ⟨sound.kept, nofun, ?_⟩
      intro number injection remembered holds
      rw [agrees injection.text holds] at empty
      exact absurd empty (sound.texts injection (List.mem_of_getElem? remembered.found))
    · rw [if_neg empty]
      dsimp only
      refine ⟨kept, fun found => ⟨text, ?_⟩, fun number injection remembered holds => ?_⟩
      · obtain ⟨record, member, same⟩ := List.any_eq_true.mp found
        rw [decide_eq_true_eq] at same
        obtain ⟨injection, inside, fresh, rfl⟩ := kept.mem_record member
        refine ⟨injection, inside, fresh, ?_, fun text holds => ?_⟩
        · exact recent_of_mem_cleanup member
        · exact (agrees text holds).symm.trans same.symm
      · refine List.any_eq_true.mpr ⟨_, kept.record_mem remembered.found remembered.few ?_
          remembered.kept, ?_⟩
        · exact not_lt.mpr remembered.recent
        · rw [decide_eq_true_eq]
          exact (agrees injection.text holds).symm

theorem State.Sound.records {state : State} (sound : state.Sound compress) {records : List Record}
    (kept : Kept state.clock state.history records) {checking : Option Check}
    (checked : ∀ check, checking = some check → check.Sound compress state) :
    ({ state with
        records := records
        checking := checking } : State).Sound compress where
  ordered := sound.ordered
  past := sound.past
  texts := sound.texts
  kept := kept
  own := sound.own
  checked check found :=
    (checked check found).mono (Nat.le_refl _) (Nat.le_refl _) fun _ _ _ same _ => same

theorem State.Sound.checkNext {state : State} (sound : state.Sound compress)
    (inverse : ∀ data, decompress (compress data) = data) :
    (state.checkNext decompress state.clock).1.Sound compress := by
  unfold State.checkNext
  split
  next => exact sound
  next check checking =>
    obtain ⟨kept, -, complete⟩ := sound.isRecent inverse check.clipboard
    dsimp only
    split
    next => exact sound.records kept nofun
    next stale =>
      split
      next => exact sound.records kept nofun
      next clipboard rest more =>
        refine sound.records kept fun next found => ?_
        obtain rfl := Option.some.inj found
        obtain ⟨started, done, items, none⟩ := sound.checked check checking
        refine ⟨started, done ++ [check.clipboard], ?_, ?_⟩
        · rw [items, more, List.append_assoc]
          rfl
        · intro item member number injection before remembered holds
          rcases List.mem_append.mp member with earlier | last
          · exact none item earlier number injection before remembered holds
          · obtain rfl := List.mem_singleton.mp last
            exact stale (complete number injection remembered holds)

theorem State.Sound.step {state : State} (sound : state.Sound compress)
    (inverse : ∀ data, decompress (compress data) = data) (input : Input)
    (timely : state.Timely input) : (state.step decompress input).1.Sound compress := by
  cases input with
  | record text now => exact (sound.tick (timely now rfl)).record text
  | setClipboardContent ok now => exact (sound.tick (timely now rfl)).setClipboardContent ok
  | check msg => exact sound.check msg
  | checkNext now => exact (sound.tick (timely now rfl)).checkNext inverse

theorem sound_run (inverse : ∀ data, decompress (compress data) = data) (inputs : List Input)
    (timely : (waylandInput decompress).Guarded State.Timely {} inputs) :
    ((waylandInput decompress).run {} inputs).1.Sound compress :=
  (waylandInput decompress).run_invariant State.Timely (fun state _ => state.Sound compress)
    (fun _ _ input guard sound => sound.step inverse input guard) {} [] inputs sound_new timely

/-- A message is skipped for an item that holds an injection that counts, and for no other reason;
a message that is not skipped holds no injection that came before its check and still counts. -/
theorem injected_text_skipped (compress decompress : List UInt8 → List UInt8)
    (inverse : ∀ data, decompress (compress data) = data) (inputs : List Input)
    (timely : (waylandInput decompress).Guarded State.Timely {} inputs)
    (before after : List Input) (now : Nat) (split : inputs = before ++ .checkNext now :: after)
    (check : Check)
    (checking : ((waylandInput decompress).run {} before).1.checking = some check) :
    let state := ((waylandInput decompress).run {} before).1
    let outputs := ((waylandInput decompress).step state (.checkNext now)).2
    check.clipboard ∈ check.msg.clipboards ∧
      (∀ number injection, state.Remembers now number injection →
        check.clipboard.Holds compress injection.text →
        outputs = [.shouldSkip check.msg true]) ∧
      (.shouldSkip check.msg true ∈ outputs →
        check.clipboard.format = some .text ∧ ∃ injection ∈ state.history,
          injection.rolledBack = false ∧ now - injection.createdAt ≤ filterWindow ∧
          ∀ text, check.clipboard.Holds compress text →
            text.take maxTextChars = injection.text.take maxTextChars) ∧
      (.shouldSkip check.msg false ∈ outputs →
        ∀ clipboard ∈ check.msg.clipboards, ∀ number injection, number < check.start →
          state.Remembers now number injection → ¬ clipboard.Holds compress injection.text) := by
  intro state outputs
  rw [split, Machine.guarded_append] at timely
  have sound : ({ state with clock := now } : State).Sound compress :=
    (sound_run inverse before timely.1).tick (timely.2.1 now rfl)
  have counts : ∀ number injection, state.Remembers now number injection →
      ({ state with clock := now } : State).Remembers now number injection :=
    fun _ _ remembered =>
      ⟨remembered.found, remembered.few, remembered.kept, remembered.recent⟩
  obtain ⟨kept, right, complete⟩ := sound.isRecent inverse check.clipboard
  obtain ⟨started, done, items, none⟩ := sound.checked check checking
  have shown : outputs =
      if (isRecentWaylandInput decompress state.records check.clipboard now).1 = true then
        [.shouldSkip check.msg true]
      else if check.rest = [] then [.shouldSkip check.msg false] else [] := by
    show (State.checkNext decompress { state with clock := now } now).2 = _
    unfold State.checkNext
    rw [checking]
    dsimp only
    split
    next => rfl
    next =>
      cases check.rest with
      | nil => rfl
      | cons clipboard rest => rfl
  rw [shown]
  refine ⟨?_, ?_, ?_, ?_⟩
  · rw [items]
    exact List.mem_append_right _ List.mem_cons_self
  · intro number injection remembered holds
    exact if_pos (complete number injection (counts _ _ remembered) holds)
  · intro skipped
    by_cases recent :
        (isRecentWaylandInput decompress state.records check.clipboard now).1 = true
    · exact right recent
    · rw [if_neg recent] at skipped
      split at skipped
      next => simp at skipped
      next => cases skipped
  · intro passed clipboard member number injection first remembered holds
    have remembered := counts number injection remembered
    by_cases recent :
        (isRecentWaylandInput decompress state.records check.clipboard now).1 = true
    · rw [if_pos recent] at passed
      simp at passed
    · rw [if_neg recent] at passed
      split at passed
      next last =>
        rw [items, last] at member
        rcases List.mem_append.mp member with earlier | own
        · exact none clipboard earlier number injection first remembered holds
        · obtain rfl := List.mem_singleton.mp own
          exact recent (complete number injection remembered holds)
      next => cases passed

def greeting : List Char := ['h', 'é']

def greetingItem : Clipboard := ⟨some .text, true, Utf8.encode greeting⟩

def greetingInputs : List Input :=
  [.record greeting 5, .setClipboardContent true 6, .check (.multiClipboards [greetingItem])]

theorem injected_text_skipped_greeting :
    ((waylandInput id).step ((waylandInput id).run {} greetingInputs).1 (.checkNext 10)).2 =
      [.shouldSkip (.multiClipboards [greetingItem]) true] :=
  (injected_text_skipped id id (fun _ => rfl) (greetingInputs ++ [.checkNext 10])
    (by decide +kernel) greetingInputs [] 10 rfl
    ⟨.multiClipboards [greetingItem], greetingItem, [], 1⟩ rfl).2.1 0 ⟨5, greeting, false⟩
    ⟨rfl, by decide, rfl, by decide⟩ ⟨rfl, rfl⟩

end SubnetDesk.WaylandInput
