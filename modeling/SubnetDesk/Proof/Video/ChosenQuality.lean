import SubnetDesk.Proof.Video.FrameBudget

namespace SubnetDesk.Qos

/-- The delays that a user has reported are left out. -/
def UserData.blank (user : UserData) : UserData :=
  { user with
    delay :=
      { delayHistory := []
        fps := user.delay.fps
        rttCalculator := .default } }

def blankUsers (users : Users) : Users := users.map fun entry => (entry.1, entry.2.blank)

def VideoQoS.blank (qos : VideoQoS) : VideoQoS := { qos with users := blankUsers qos.users }

/-- The delay and the elapsed time of an operation are left out. -/
def Op.masked : Op → Op
  | .userNetworkDelay id _ => .userNetworkDelay id 0
  | .userDelayResponseElapsed id _ => .userDelayResponseElapsed id 0
  | op => op

/-- Two inputs differ at most in their delays. -/
def Input.Alike (first second : Input) : Prop :=
  { first with op := first.op.masked } = { second with op := second.op.masked }

/-- The rate depends on no quality time. -/
theorem highestFps_blank (users : Users) : highestFps (blankUsers users) = highestFps users := by
  rw [highestFps, blankUsers, List.map_map]
  rfl

/-- The quality depends on no rate. -/
theorem latestQuality_blank (rank : Int → Nat) (users : Users) :
    latestQuality rank (blankUsers users) = latestQuality rank users := by
  have order : iterate rank (blankUsers users) = blankUsers (iterate rank users) := by
    symm
    apply List.map_insertionSort
    exact fun _ _ _ _ => Iff.rfl
  rw [latestQuality, order, blankUsers, List.filterMap_map]
  rfl

theorem blankUsers_modify (users : Users) (id : Int) {change other : UserData → UserData}
    (same : ∀ user, (change user).blank = (other user.blank).blank) :
    blankUsers (modify users id change) = blankUsers (modify (blankUsers users) id other) := by
  rw [blankUsers, blankUsers, blankUsers, modify, modify, List.map_map, List.map_map, List.map_map]
  refine List.map_congr_left fun entry _ => ?_
  simp only [Function.comp_apply]
  split
  next => rw [same]
  next => rfl

theorem blankUsers_idem (users : Users) : blankUsers (blankUsers users) = blankUsers users := by
  rw [blankUsers, blankUsers, List.map_map]
  rfl

theorem blankUsers_remove (users : Users) (id : Int) :
    remove (blankUsers users) id = blankUsers (remove users id) := by
  rw [remove, remove, blankUsers, blankUsers, List.filter_map]
  rfl

theorem blankUsers_insert (users : Users) (id : Int) (value : UserData) :
    blankUsers (insert (blankUsers users) id value) = blankUsers (insert users id value) := by
  have rest : blankUsers ((blankUsers users).filter (·.1 ≠ id)) =
      blankUsers (users.filter (·.1 ≠ id)) := by
    rw [show (blankUsers users).filter (·.1 ≠ id) = blankUsers (users.filter (·.1 ≠ id)) from
      blankUsers_remove users id, blankUsers_idem]
  exact congrArg ((id, value.blank) :: ·) rest

/-- An adjustment depends on no rate of others. -/
theorem adjustFps_blank (qos : VideoQoS) (now : Nat) :
    (qos.blank.adjustFps now).blank = (qos.adjustFps now).blank := by
  have delays : ((blankUsers qos.users).map fun user => user.2.delay.fps.getD INIT_FPS) =
      qos.users.map fun user => user.2.delay.fps.getD INIT_FPS := by
    rw [blankUsers, List.map_map]
    rfl
  dsimp only [VideoQoS.blank, VideoQoS.adjustFps]
  rw [delays, highestFps_blank, blankUsers_idem]

/-- The blank state and the state agree on the frame rate after an adjustment of alike users. -/
theorem adjustFps_alike {first second : VideoQoS} (same : first.blank = second.blank) (now : Nat) :
    (first.adjustFps now).blank = (second.adjustFps now).blank := by
  rw [← adjustFps_blank, same, adjustFps_blank]

/-- The delays that a step reads show up in the delays of the users only. -/
theorem step_blank (floats : Floats) {qos : VideoQoS} (off : qos.abrConfig = false) (input : Input) :
    (qos.blank.step floats { input with op := input.op.masked }).blank =
      (qos.step floats input).blank := by
  obtain ⟨op, now, time, rank⟩ := input
  unfold VideoQoS.step
  cases op with
  | onConnectionOpen id =>
      dsimp only [Op.masked, VideoQoS.blank]
      rw [blankUsers_insert]
  | onConnectionClose id =>
      dsimp only [Op.masked, VideoQoS.blank]
      rw [blankUsers_remove]
      by_cases empty : remove qos.users id = []
      · rw [empty]
        rfl
      · have filled : blankUsers (remove qos.users id) ≠ [] := mt List.map_eq_nil_iff.mp empty
        rw [if_neg empty, if_neg filled]
        dsimp only
        rw [blankUsers_idem]
  | userCustomFps id fps =>
      dsimp only [Op.masked]
      split
      next =>
        dsimp only [VideoQoS.blank]
        rw [← blankUsers_modify qos.users id]
        exact fun _ => rfl
      next =>
        dsimp only [VideoQoS.blank]
        rw [blankUsers_idem]
  | userAutoAdjustFps id fps =>
      dsimp only [Op.masked]
      split
      next =>
        dsimp only [VideoQoS.blank]
        rw [← blankUsers_modify qos.users id]
        exact fun _ => rfl
      next =>
        dsimp only [VideoQoS.blank]
        rw [blankUsers_idem]
  | userImageQuality id imageQuality =>
      have ids : qos.blank.users.map (·.1) = qos.users.map (·.1) := by
        rw [VideoQoS.blank, blankUsers, List.map_map]
        rfl
      have users : blankUsers (modify (blankUsers qos.users) id fun user =>
            { user with quality := some (time, convertQuality imageQuality) }) =
          blankUsers (modify qos.users id fun user =>
            { user with quality := some (time, convertQuality imageQuality) }) := by
        rw [← blankUsers_modify qos.users id]
        exact fun _ => rfl
      dsimp only [Op.masked]
      by_cases member : id ∈ qos.users.map (·.1)
      · have member_ : id ∈ qos.blank.users.map (·.1) := by rwa [ids]
        rw [if_pos member, if_pos member_]
        dsimp only [VideoQoS.blank]
        rw [users, ← latestQuality_blank rank (modify (blankUsers qos.users) _ _), users,
          latestQuality_blank]
      · have member_ : id ∉ qos.blank.users.map (·.1) := by rwa [ids]
        rw [if_neg member, if_neg member_]
        dsimp only [VideoQoS.blank]
        rw [blankUsers_idem]
  | userNetworkDelay id delay =>
      dsimp only [Op.masked]
      apply adjustFps_alike
      dsimp only [VideoQoS.blank]
      rw [highestFps_blank, ← blankUsers_modify qos.users id]
      exact fun _ => rfl
  | userDelayResponseElapsed id elapsed =>
      have kept : blankUsers (modify qos.users id fun user =>
          { user with delay := user.delay.addDelay floats (elapsed % 2 ^ 32) }) =
            blankUsers qos.users := by
        rw [blankUsers, map_modify]
        · rfl
        · exact fun _ _ => rfl
      dsimp only [Op.masked]
      rw [if_neg (by omega)]
      split
      next =>
        dsimp only [VideoQoS.blank]
        rw [kept, blankUsers_idem]
      next =>
        dsimp only [VideoQoS.blank]
        rw [blankUsers_idem]
  | updateDisplayData name sendCounter =>
      dsimp only [Op.masked]
      have off_ : qos.blank.abrConfig = false := off
      have adjusted := adjustFps_blank qos now
      rw [updateDisplayData_eq floats off, updateDisplayData_eq floats off_]
      dsimp only [VideoQoS.blank, VideoQoS.adjustFps] at adjusted ⊢
      rw [VideoQoS.mk.injEq] at adjusted
      rw [adjusted.1, latestQuality_blank, blankUsers_idem]
  | newDisplay name =>
      dsimp only [Op.masked, VideoQoS.blank]
      rw [blankUsers_idem]
  | removeDisplay name =>
      dsimp only [Op.masked, VideoQoS.blank]
      rw [blankUsers_idem]
  | setSupportChangingQuality name support =>
      dsimp only [Op.masked, VideoQoS.blank]
      rw [blankUsers_idem]
  | storeBitrate bitrate =>
      dsimp only [Op.masked, VideoQoS.blank]
      rw [blankUsers_idem]

/-- Runs whose inputs differ at most in their delays stay alike up to the delays of the users. -/
theorem run_blank (floats : Floats) {inputs others : List Input}
    (alike : List.Forall₂ Input.Alike inputs others) {first second : VideoQoS}
    (sound : first.Sound) (sound_ : second.Sound) (same : first.blank = second.blank) :
    ((control floats).run first inputs).1.blank = ((control floats).run second others).1.blank := by
  induction alike generalizing first second with
  | nil => exact same
  | cons pair _ ih =>
      refine ih (step_sound floats sound _) (step_sound floats sound_ _) ?_
      show (first.step floats _).blank = (second.step floats _).blank
      rw [← step_blank floats sound.abr, ← step_blank floats sound_.abr, same]
      rw [Input.Alike] at pair
      rw [pair]

/-- A user chose a quality at a time of the wall clock. -/
structure Setting where
  id : Int
  time : Int
  quality : Quality
deriving DecidableEq

/-- The users that are connected, and the last choice of each of them in the order of the choices. -/
structure Viewers where
  connected : List Int
  settings : List Setting

def Viewers.record (viewers : Viewers) (input : Input) : Viewers :=
  match input.op with
  | .onConnectionOpen id =>
      { connected := id :: viewers.connected
        settings := viewers.settings.filter (·.id ≠ id) }
  | .onConnectionClose id =>
      { connected := viewers.connected.filter (· ≠ id)
        settings := viewers.settings.filter (·.id ≠ id) }
  | .userImageQuality id imageQuality =>
      if id ∈ viewers.connected then
        { viewers with
          settings := viewers.settings.filter (·.id ≠ id) ++
            [⟨id, input.time, convertQuality imageQuality⟩] }
      else viewers
  | _ => viewers

def history (inputs : List Input) : Viewers := inputs.foldl Viewers.record ⟨[], []⟩

/-- The controller knows the connected users and the last choice of each. -/
structure Viewers.Describes (viewers : Viewers) (users : Users) : Prop where
  connected : ∀ id, id ∈ viewers.connected ↔ ∃ user, (id, user) ∈ users
  settings : ∀ setting, setting ∈ viewers.settings ↔
    ∃ user, (setting.id, user) ∈ users ∧ user.quality = some (setting.time, setting.quality)

section Described

variable {viewers : Viewers} {users : Users}

/-- A change of a rate is described. -/
theorem Viewers.Describes.changed (described : viewers.Describes users) (id : Int)
    {change : UserData → UserData} (same : ∀ user, (change user).quality = user.quality) :
    viewers.Describes (modify users id change) where
  connected other := by
    rw [described.connected]
    constructor
    · rintro ⟨user, member⟩
      by_cases own : other = id
      · exact ⟨change user, mem_modify.mpr (.inr ⟨user, own ▸ member, by rw [own]⟩)⟩
      · exact ⟨user, mem_modify.mpr (.inl ⟨member, own⟩)⟩
    · rintro ⟨user, member⟩
      rcases mem_modify.mp member with ⟨old, -⟩ | ⟨old, there, equal⟩
      · exact ⟨user, old⟩
      · obtain ⟨rfl, -⟩ := Prod.mk.inj equal
        exact ⟨old, there⟩
  settings setting := by
    rw [described.settings]
    constructor
    · rintro ⟨user, member, quality⟩
      by_cases own : setting.id = id
      · exact ⟨change user, mem_modify.mpr (.inr ⟨user, own ▸ member, by rw [own]⟩),
          (same user).trans quality⟩
      · exact ⟨user, mem_modify.mpr (.inl ⟨member, own⟩), quality⟩
    · rintro ⟨user, member, quality⟩
      rcases mem_modify.mp member with ⟨old, -⟩ | ⟨old, there, equal⟩
      · exact ⟨user, old, quality⟩
      · obtain ⟨key, rfl⟩ := Prod.mk.inj equal
        exact ⟨old, key ▸ there, (same old).symm.trans quality⟩

/-- An open is described. -/
theorem Viewers.Describes.opened (described : viewers.Describes users) (id : Int) :
    Viewers.Describes ⟨id :: viewers.connected, viewers.settings.filter (·.id ≠ id)⟩
      (insert users id .default) where
  connected other := by
    rw [List.mem_cons, described.connected]
    constructor
    · rintro (rfl | ⟨user, member⟩)
      · exact ⟨_, List.mem_cons_self⟩
      · by_cases own : other = id
        · exact ⟨.default, own ▸ List.mem_cons_self⟩
        · exact ⟨user, List.mem_cons_of_mem _ (mem_remove.mpr ⟨member, own⟩)⟩
    · rintro ⟨user, member⟩
      rcases mem_insert member with equal | ⟨old, -⟩
      · exact .inl (Prod.mk.inj equal).1
      · exact .inr ⟨user, old⟩
  settings setting := by
    rw [List.mem_filter, described.settings, decide_eq_true_eq]
    constructor
    · rintro ⟨⟨user, member, quality⟩, other⟩
      exact ⟨user, List.mem_cons_of_mem _ (mem_remove.mpr ⟨member, other⟩), quality⟩
    · rintro ⟨user, member, quality⟩
      rcases mem_insert member with equal | ⟨old, other⟩
      · obtain ⟨-, rfl⟩ := Prod.mk.inj equal
        cases quality
      · exact ⟨⟨user, old, quality⟩, other⟩

/-- A close is described. -/
theorem Viewers.Describes.closed (described : viewers.Describes users) (id : Int) :
    Viewers.Describes ⟨viewers.connected.filter (· ≠ id), viewers.settings.filter (·.id ≠ id)⟩
      (remove users id) where
  connected other := by
    rw [List.mem_filter, described.connected, decide_eq_true_eq]
    simp only [mem_remove]
    tauto
  settings setting := by
    rw [List.mem_filter, described.settings, decide_eq_true_eq]
    simp only [mem_remove]
    tauto

/-- A choice is described. -/
theorem Viewers.Describes.chosen (described : viewers.Describes users) {id : Int}
    (connected : id ∈ viewers.connected) (time : Int) (quality : Quality) :
    Viewers.Describes
      { viewers with settings := viewers.settings.filter (·.id ≠ id) ++ [⟨id, time, quality⟩] }
      (modify users id fun user => { user with quality := some (time, quality) }) where
  connected := by
    intro other
    rw [described.connected]
    constructor
    · rintro ⟨user, member⟩
      by_cases own : other = id
      · exact ⟨{ user with quality := some (time, quality) },
          mem_modify.mpr (.inr ⟨user, own ▸ member, by rw [own]⟩)⟩
      · exact ⟨user, mem_modify.mpr (.inl ⟨member, own⟩)⟩
    · rintro ⟨user, member⟩
      rcases mem_modify.mp member with ⟨old, -⟩ | ⟨old, there, equal⟩
      · exact ⟨user, old⟩
      · obtain ⟨rfl, -⟩ := Prod.mk.inj equal
        exact ⟨old, there⟩
  settings := by
    intro setting
    rw [List.mem_append, List.mem_filter, described.settings, decide_eq_true_eq,
      List.mem_singleton]
    constructor
    · rintro (⟨⟨user, member, old⟩, other⟩ | rfl)
      · exact ⟨user, mem_modify.mpr (.inl ⟨member, other⟩), old⟩
      · obtain ⟨user, member⟩ := (described.connected id).mp connected
        exact ⟨_, mem_modify.mpr (.inr ⟨user, member, rfl⟩), rfl⟩
    · rintro ⟨user, member, now⟩
      rcases mem_modify.mp member with ⟨old, other⟩ | ⟨old, -, equal⟩
      · exact .inl ⟨⟨user, old, now⟩, other⟩
      · obtain ⟨own, rfl⟩ := Prod.mk.inj equal
        obtain ⟨key, at_, choice⟩ := setting
        cases now
        exact .inr (by rw [show key = id from own])

end Described

theorem mem_ids {users : Users} {id : Int} :
    id ∈ users.map (·.1) ↔ ∃ user, (id, user) ∈ users := by
  rw [List.mem_map]
  constructor
  · rintro ⟨⟨key, user⟩, member, rfl⟩
    exact ⟨user, member⟩
  · rintro ⟨user, member⟩
    exact ⟨(id, user), member, rfl⟩

/-- One input is described. -/
theorem step_described (floats : Floats) {qos : VideoQoS} (sound : qos.Sound) {viewers : Viewers}
    (described : viewers.Describes qos.users) (input : Input) :
    (viewers.record input).Describes (qos.step floats input).users := by
  unfold VideoQoS.step Viewers.record
  cases input.op with
  | onConnectionOpen id => exact described.opened id
  | onConnectionClose id =>
      have closed := described.closed id
      dsimp only
      split
      next empty => rwa [empty] at closed
      next => exact closed
  | userCustomFps id fps =>
      dsimp only
      split
      next =>
        dsimp only
        exact described.changed id fun _ => rfl
      next => exact described
  | userAutoAdjustFps id fps =>
      dsimp only
      split
      next =>
        dsimp only
        exact described.changed id fun _ => rfl
      next => exact described
  | userImageQuality id imageQuality =>
      have listed : id ∈ qos.users.map (·.1) ↔ id ∈ viewers.connected :=
        mem_ids.trans (described.connected id).symm
      dsimp only
      by_cases connected : id ∈ viewers.connected
      · rw [if_pos connected, if_pos (listed.mpr connected)]
        exact described.chosen connected _ _
      · rw [if_neg connected, if_neg (mt listed.mp connected)]
        exact described
  | userNetworkDelay id delay =>
      dsimp only [VideoQoS.adjustFps]
      exact described.changed id fun _ => rfl
  | userDelayResponseElapsed id elapsed =>
      dsimp only
      split
      next =>
        dsimp only
        exact described.changed id fun _ => rfl
      next => exact described
  | updateDisplayData name sendCounter =>
      dsimp only
      rw [updateDisplayData_eq floats sound.abr]
      exact described
  | _ => exact described

/-- The choices come in the order of their times, and none is later than a time. -/
def Viewers.Ordered (viewers : Viewers) (time : Int) : Prop :=
  viewers.settings.Pairwise (fun first second => first.time ≤ second.time) ∧
    ∀ setting ∈ viewers.settings, setting.time ≤ time

theorem Viewers.Ordered.filter {viewers : Viewers} {time later : Int} (ordered : viewers.Ordered time)
    (after : time ≤ later) (id : Int) (connected : List Int) :
    Viewers.Ordered ⟨connected, viewers.settings.filter (·.id ≠ id)⟩ later :=
  ⟨ordered.1.filter _, fun setting member =>
    (ordered.2 setting (List.mem_filter.mp member).1).trans after⟩

/-- The choices are in order of time. -/
theorem record_ordered {viewers : Viewers} {time : Int} (ordered : viewers.Ordered time)
    {input : Input} (after : time ≤ input.time) : (viewers.record input).Ordered input.time := by
  have kept : viewers.Ordered input.time :=
    ⟨ordered.1, fun setting member => (ordered.2 setting member).trans after⟩
  unfold Viewers.record
  cases input.op with
  | onConnectionOpen id => exact ordered.filter after id _
  | onConnectionClose id => exact ordered.filter after id _
  | userImageQuality id imageQuality =>
      dsimp only
      split
      next =>
        have rest := ordered.filter after id viewers.connected
        refine ⟨List.pairwise_append.mpr ⟨rest.1, List.pairwise_singleton _ _, ?_⟩, ?_⟩
        · intro first member second last
          rw [List.mem_singleton.mp last]
          exact rest.2 first member
        · intro setting member
          rcases List.mem_append.mp member with old | last
          · exact rest.2 setting old
          · rw [List.mem_singleton.mp last]
      next => exact kept
  | _ => exact kept

/-- A run knows the viewers, whose choices are in the order of the clock. -/
theorem run_described (floats : Floats) {qos : VideoQoS} (sound : qos.Sound) {viewers : Viewers}
    (described : viewers.Describes qos.users) {time : Int} (ordered : viewers.Ordered time)
    (inputs : List Input) (after : ∀ input ∈ inputs, time ≤ input.time)
    (clock : inputs.Pairwise fun first second => first.time ≤ second.time) :
    (inputs.foldl Viewers.record viewers).Describes ((control floats).run qos inputs).1.users ∧
      ∃ later, (inputs.foldl Viewers.record viewers).Ordered later := by
  induction inputs generalizing qos viewers time with
  | nil => exact ⟨described, time, ordered⟩
  | cons input rest ih =>
      obtain ⟨first, clock⟩ := List.pairwise_cons.mp clock
      exact ih (step_sound floats sound input) (step_described floats sound described input)
        (record_ordered ordered (after input List.mem_cons_self)) first clock

/-- The kept entry is one of the list, and its time is the latest. -/
theorem foldl_keepLatest (choices : List (Int × Quality)) (best : Option (Int × Quality)) :
    (choices.foldl keepLatest best = none ↔ best = none ∧ choices = []) ∧
      ∀ kept, choices.foldl keepLatest best = some kept →
        (some kept = best ∨ kept ∈ choices) ∧
          (∀ other, best = some other → other.1 ≤ kept.1) ∧
            ∀ other ∈ choices, other.1 ≤ kept.1 := by
  induction choices generalizing best with
  | nil =>
      refine ⟨by simp, fun kept found => ⟨.inl found.symm, fun other same => ?_, by simp⟩⟩
      rw [List.foldl_nil, same] at found
      rw [Option.some.inj found]
  | cons next rest ih =>
      obtain ⟨empty, chosen⟩ := ih (keepLatest best next)
      rw [List.foldl_cons]
      have some_ : keepLatest best next ≠ none := by
        unfold keepLatest
        split
        next => split <;> simp
        next => simp
      refine ⟨by simp [empty, some_], fun kept found => ?_⟩
      obtain ⟨from_, above, all⟩ := chosen kept found
      have bound : (∀ other, best = some other → other.1 ≤ kept.1) ∧ next.1 ≤ kept.1 ∧
          (keepLatest best next = best ∨ keepLatest best next = some next) := by
        cases best with
        | none => exact ⟨fun _ same => (nomatch same), above next rfl, .inr rfl⟩
        | some old =>
            by_cases later : old.1 ≤ next.1
            · have replaced : keepLatest (some old) next = some next := if_pos later
              have top := above next replaced
              refine ⟨fun other same => ?_, top, .inr replaced⟩
              rw [← Option.some.inj same]
              exact later.trans top
            · have held : keepLatest (some old) next = some old := if_neg later
              have top := above old held
              refine ⟨fun other same => ?_, by omega, .inl held⟩
              rw [← Option.some.inj same]
              exact top
      refine ⟨?_, bound.1, ?_⟩
      · rcases from_ with own | member
        · rcases bound.2.2 with held | replaced
          · exact .inl (own.trans held)
          · exact .inr (List.mem_cons.mpr (.inl (Option.some.inj (own.trans replaced))))
        · exact .inr (List.mem_cons_of_mem next member)
      · intro other member
        rcases List.mem_cons.mp member with rfl | later
        · exact bound.2.1
        · exact all other later

/-- In any order of the map, the quality is a choice with the latest time, or the default. -/
theorem latestQuality_spec {viewers : Viewers} {users : Users} (described : viewers.Describes users)
    (rank : Int → Nat) :
    (viewers.settings = [] ∧ latestQuality rank users = .custom LAN_DEFAULT_BITRATE_RATIO) ∨
      ∃ setting ∈ viewers.settings, latestQuality rank users = setting.quality ∧
        ∀ other ∈ viewers.settings, other.time ≤ setting.time := by
  have choices (choice : Int × Quality) :
      choice ∈ (iterate rank users).filterMap (·.2.quality) ↔
        ∃ setting ∈ viewers.settings, choice = (setting.time, setting.quality) := by
    rw [List.mem_filterMap]
    constructor
    · rintro ⟨⟨id, user⟩, member, quality⟩
      rw [iterate, List.mem_insertionSort] at member
      exact ⟨⟨id, choice.1, choice.2⟩, (described.settings _).mpr ⟨user, member, quality⟩, rfl⟩
    · rintro ⟨setting, member, rfl⟩
      obtain ⟨user, known, quality⟩ := (described.settings setting).mp member
      refine ⟨(setting.id, user), ?_, quality⟩
      rw [iterate, List.mem_insertionSort]
      exact known
  obtain ⟨empty, chosen⟩ :=
    foldl_keepLatest ((iterate rank users).filterMap (·.2.quality)) none
  unfold latestQuality
  cases found : ((iterate rank users).filterMap (·.2.quality)).foldl keepLatest none with
  | none =>
      left
      have nothing := (empty.mp found).2
      refine ⟨List.eq_nil_iff_forall_not_mem.mpr fun setting member => ?_, rfl⟩
      have listed := (choices (setting.time, setting.quality)).mpr ⟨setting, member, rfl⟩
      rw [nothing] at listed
      exact List.not_mem_nil listed
  | some kept =>
      right
      obtain ⟨from_, -, all⟩ := chosen kept found
      obtain ⟨setting, member, rfl⟩ := (choices kept).mp (from_.resolve_left (fun same => nomatch same))
      exact ⟨setting, member, rfl, fun other listed => all _ ((choices _).mpr ⟨other, listed, rfl⟩)⟩

/-- The ratio after the display data is that of a choice as late as the last one, or the default. -/
theorem updated_ratio {viewers : Viewers} {qos : VideoQoS} (floats : Floats)
    (described : viewers.Describes qos.users) (off : qos.abrConfig = false) {time : Int}
    (ordered : viewers.Ordered time) {input : Input} {name : List Char} {sendCounter : Nat}
    (op : input.op = .updateDisplayData name sendCounter) :
    match viewers.settings.getLast? with
    | none => (qos.step floats input).ratio = LAN_DEFAULT_BITRATE_RATIO
    | some last => ∃ setting ∈ viewers.settings, setting.time = last.time ∧
        (qos.step floats input).ratio = setting.quality.ratio := by
  have ratio : (qos.step floats input).ratio = (latestQuality input.rank qos.users).ratio := by
    unfold VideoQoS.step
    rw [op]
    dsimp only
    rw [updateDisplayData_eq floats off]
  rw [ratio]
  rcases latestQuality_spec described input.rank with ⟨none_, quality⟩ | ⟨setting, member, quality, latest⟩
  · rw [none_, quality]
    rfl
  · obtain ⟨front, last, whole⟩ := (List.eq_nil_or_concat' _).resolve_left
      (List.ne_nil_of_mem member)
    rw [whole, List.getLast?_concat]
    refine ⟨setting, whole ▸ member, ?_, congrArg Quality.ratio quality⟩
    refine le_antisymm ?_ (latest last (by rw [whole]; simp))
    rw [whole] at member
    have sorted := ordered.1
    rw [whole, List.pairwise_append] at sorted
    rcases List.mem_append.mp member with earlier | same
    · exact sorted.2.2 setting earlier last List.mem_cons_self
    · rw [List.mem_singleton.mp same]

/-- Of every run: an adjusting operation keeps the frame rate between one and every cap that a connected
user has set. Delays change neither the frame rate nor the quality. An adjusting operation gives the
smallest cap, where each user has reported since the last change and the last opening is a second ago.
And on a clock that does not go back, the ratio after the display data is that of the last choice of a
connected user, or of another choice of the same time. -/
theorem budget_kept (floats : Floats) (start : Nat) (inputs : List Input) :
    let qos := ((control floats).run (.default start) inputs).1
    (∀ input : Input, input.op.Adjusts →
      MIN_FPS ≤ (qos.step floats input).getFps ∧
        ∀ entry ∈ (qos.step floats input).users, ∀ cap ∈ entry.2.caps,
          (qos.step floats input).getFps ≤ cap) ∧
    (∀ others, List.Forall₂ Input.Alike inputs others →
      let other := ((control floats).run (.default start) others).1
      qos.getFps = other.getFps ∧ qos.ratio = other.ratio ∧
        ∀ rank, latestQuality rank qos.users = latestQuality rank other.users) ∧
    (∀ reports last,
      (control floats).Guarded (VideoQoS.Steady floats) qos (reports ++ [last]) →
      last.op.Adjusts →
      (∀ entry ∈ qos.users, entry.1 ∈ (reports ++ [last]).flatMap (·.op.reporter)) →
      NANOS ≤ last.now - qos.newUserInstant →
      ((control floats).run qos (reports ++ [last])).1.getFps =
        ((qos.users.map (userFps ·.2)).min?).getD FPS) ∧
    (inputs.Pairwise (fun first second => first.time ≤ second.time) →
      ∀ (input : Input) name sendCounter, input.op = .updateDisplayData name sendCounter →
        match (history inputs).settings.getLast? with
        | none => (qos.step floats input).ratio = LAN_DEFAULT_BITRATE_RATIO
        | some last => ∃ setting ∈ (history inputs).settings, setting.time = last.time ∧
            (qos.step floats input).ratio = setting.quality.ratio) := by
  intro qos
  have sound : qos.Sound := run_sound floats (default_sound start) inputs
  refine ⟨fun input adjusts => ?_, fun others alike => ?_, settled_fps floats sound,
    fun clock input name sendCounter op => ?_⟩
  · obtain ⟨low, high⟩ := step_bounds floats sound adjusts
    refine ⟨low, fun entry member cap set_ => high.trans ?_⟩
    exact highestFps_le (step_sound floats sound input).valid member set_
  · have same := run_blank floats alike (default_sound start) (default_sound start) rfl
    have fps := congrArg VideoQoS.fps same
    have users := congrArg VideoQoS.users same
    have ratio := congrArg VideoQoS.ratio same
    refine ⟨?_, ratio, fun rank => ?_⟩
    · simp only [VideoQoS.blank] at fps
      simp only [VideoQoS.getFps, qos, fps]
    · have quality := congrArg (latestQuality rank) users
      exact (latestQuality_blank rank _).symm.trans (quality.trans (latestQuality_blank rank _))
  · have empty : Viewers.Describes ⟨[], []⟩ (VideoQoS.default start).users :=
      ⟨fun id => by simp [VideoQoS.default], fun setting => by simp [VideoQoS.default]⟩
    have after : ∃ time : Int, ∀ input ∈ inputs, time ≤ input.time := by
      cases inputs with
      | nil => exact ⟨0, by simp⟩
      | cons first rest =>
          refine ⟨first.time, fun input member => ?_⟩
          rcases List.mem_cons.mp member with rfl | later
          · exact le_rfl
          · exact (List.pairwise_cons.mp clock).1 input later
    obtain ⟨time, after⟩ := after
    have nothing : Viewers.Ordered ⟨[], []⟩ time := ⟨List.Pairwise.nil, by simp⟩
    obtain ⟨described, later, ordered⟩ :=
      run_described floats (default_sound start) empty nothing inputs after clock
    exact updated_ratio floats described sound.abr ordered op

section Failing

def exactFloats : Floats where
  smooth first second := (first + second) / 2
  adjusted _ _ _ ratio _ := ratio

def at_ (op : Op) (now : Nat) (time : Int) : Input where
  op := op
  now := now
  time := time
  rank id := id.natAbs

/-- A cap of 100 without a custom one gives 60, a budget of 120 that was reported in the first second
is not given when that second is over, and of two choices at one time the earlier one may win. -/
theorem caps_and_ties_missed :
    ((control exactFloats).run (.default 0)
      [at_ (.onConnectionOpen 1) 0 0, at_ (.userAutoAdjustFps 1 100) 0 0,
        at_ (.userNetworkDelay 1 20) (2 * NANOS) 2000]).1.getFps = 60 ∧
    ((control exactFloats).run (.default 0)
      [at_ (.onConnectionOpen 1) 0 0, at_ (.userCustomFps 1 120) 0 0,
        at_ (.userNetworkDelay 1 20) (NANOS / 2) 500]).1.getFps = 60 ∧
    ((control exactFloats).run (.default 0)
      [at_ (.onConnectionOpen 1) 0 0, at_ (.onConnectionOpen 2) 0 0,
        at_ (.userImageQuality 2 4) 0 5, at_ (.userImageQuality 1 2) 0 5,
        at_ (.updateDisplayData [] 0) NANOS 1000]).1.ratio = BR_BEST := by
  decide +kernel

end Failing

end SubnetDesk.Qos
