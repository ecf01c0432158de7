import SubnetDesk.Construction.Video.VideoQos

namespace SubnetDesk.Qos

/-- A clamped value lies in the bounds. -/
theorem clamp_bounds (value : Nat) {low high : Nat} (ordered : low ≤ high) :
    low ≤ clamp value low high ∧ clamp value low high ≤ high := by
  unfold clamp
  omega

/-- A value in the bounds stays. -/
theorem clamp_of_bounds {value low high : Nat} (above : low ≤ value) (below : value ≤ high) :
    clamp value low high = value := by
  unfold clamp
  omega

/-- The highest rate lies in the bounds. -/
theorem highestFps_bounds (users : Users) : MIN_FPS ≤ highestFps users ∧ highestFps users ≤ MAX_FPS :=
  clamp_bounds _ (by decide)

theorem getD_min?_le {values : List Nat} {value : Nat} (member : value ∈ values) (other : Nat) :
    values.min?.getD other ≤ value := by
  obtain ⟨least, found⟩ := Option.isSome_iff_exists.mp (List.isSome_min?_of_mem member)
  rw [found, Option.getD_some]
  exact (List.min?_eq_some_iff.mp found).2 value member

/-- The caps of a user are those that were set with a valid number. -/
def UserData.caps (user : UserData) : List Nat := user.customFps.toList ++ user.autoAdjustFps.toList

/-- A user's rate is below each cap. -/
theorem userFps_le {user : UserData} {cap : Nat} (member : cap ∈ user.caps) (positive : 0 < cap) :
    userFps user ≤ cap := by
  rw [UserData.caps, List.mem_append, Option.mem_toList, Option.mem_toList] at member
  unfold userFps
  rcases member with custom | adjusted
  · rw [custom, Option.getD_some]
    cases user.autoAdjustFps with
    | none => exact le_rfl
    | some other =>
        dsimp only
        split <;> omega
  · rw [adjusted]
    dsimp only
    split <;> omega

/-- Every cap is a valid number. -/
def Valid (users : Users) : Prop :=
  ∀ entry ∈ users, ∀ cap ∈ entry.2.caps, MIN_FPS ≤ cap ∧ cap ≤ MAX_FPS

/-- The legacy adjustment of the ratio is off. -/
structure VideoQoS.Sound (qos : VideoQoS) : Prop where
  valid : Valid qos.users
  abr : qos.abrConfig = false

/-- A user's rate lies in the bounds. -/
theorem userFps_bounds {user : UserData}
    (valid : ∀ cap ∈ user.caps, MIN_FPS ≤ cap ∧ cap ≤ MAX_FPS) :
    MIN_FPS ≤ userFps user ∧ userFps user ≤ MAX_FPS := by
  simp only [UserData.caps, List.mem_append, Option.mem_toList] at valid
  have fps : MIN_FPS ≤ user.customFps.getD FPS ∧ user.customFps.getD FPS ≤ MAX_FPS := by
    cases custom : user.customFps with
    | none => decide
    | some cap => exact valid cap (.inl custom)
  unfold userFps
  cases adjusted : user.autoAdjustFps with
  | none => exact fps
  | some cap =>
      dsimp only
      split
      next => exact valid cap (.inr adjusted)
      next => exact fps

/-- The budget is the smallest cap of the users. -/
theorem highestFps_eq {users : Users} (valid : Valid users) :
    highestFps users = ((users.map (userFps ·.2)).min?).getD FPS := by
  have bounds (fps) (member : fps ∈ users.map (userFps ·.2)) : MIN_FPS ≤ fps ∧ fps ≤ MAX_FPS := by
    obtain ⟨entry, inside, rfl⟩ := List.mem_map.mp member
    exact userFps_bounds (valid entry inside)
  have all : (users.map (userFps ·.2)).filter (MIN_FPS ≤ ·) = users.map (userFps ·.2) :=
    List.filter_eq_self.mpr fun fps member => decide_eq_true (bounds fps member).1
  rw [highestFps, all]
  cases least : (users.map (userFps ·.2)).min? with
  | none => decide
  | some fps =>
      have range := bounds fps (List.min?_eq_some_iff.mp least).1
      exact clamp_of_bounds range.1 range.2

/-- The highest rate is below every cap. -/
theorem highestFps_le {users : Users} (valid : Valid users) {entry : Int × UserData}
    (member : entry ∈ users) {cap : Nat} (set_ : cap ∈ entry.2.caps) : highestFps users ≤ cap := by
  rw [highestFps_eq valid]
  refine (getD_min?_le (List.mem_map.mpr ⟨entry, member, rfl⟩) FPS).trans ?_
  exact userFps_le set_ (valid entry member cap set_).1

/-- A valid rate is used as it is. -/
theorem getFps_eq {qos : VideoQoS} (valid : MIN_FPS ≤ qos.fps ∧ qos.fps ≤ MAX_FPS) :
    qos.getFps = qos.fps := if_pos valid

/-- An adjustment stays within the budget. -/
theorem adjustFps_bounds (qos : VideoQoS) (now : Nat) :
    MIN_FPS ≤ (qos.adjustFps now).fps ∧ (qos.adjustFps now).fps ≤ highestFps qos.users := by
  exact clamp_bounds _ (highestFps_bounds qos.users).1

section Users

variable {users : Users} {id : Int} {entry : Int × UserData}

theorem mem_insert {value : UserData} (member : entry ∈ insert users id value) :
    entry = (id, value) ∨ (entry ∈ users ∧ entry.1 ≠ id) := by
  rcases List.mem_cons.mp member with rfl | old
  · exact .inl rfl
  · rw [List.mem_filter, decide_eq_true_eq] at old
    exact .inr old

theorem mem_remove : entry ∈ remove users id ↔ entry ∈ users ∧ entry.1 ≠ id := by
  rw [remove, List.mem_filter, decide_eq_true_eq]

/-- A change concerns one user. -/
theorem mem_modify {change : UserData → UserData} :
    entry ∈ modify users id change ↔
      (entry ∈ users ∧ entry.1 ≠ id) ∨ ∃ old, (id, old) ∈ users ∧ entry = (id, change old) := by
  rw [modify, List.mem_map]
  constructor
  · rintro ⟨⟨key, value⟩, member, rfl⟩
    by_cases same : key = id
    · subst same
      rw [if_pos rfl]
      exact .inr ⟨value, member, rfl⟩
    · rw [if_neg same]
      exact .inl ⟨member, same⟩
  · rintro (⟨member, other⟩ | ⟨old, member, rfl⟩)
    · exact ⟨entry, member, if_neg other⟩
    · exact ⟨(id, old), member, if_pos rfl⟩

theorem map_modify {β : Type} {change : UserData → UserData} {read : Int × UserData → β}
    (same : ∀ key value, read (key, change value) = read (key, value)) :
    (modify users id change).map read = users.map read := by
  rw [modify, List.map_map]
  refine List.map_congr_left fun entry _ => ?_
  rw [Function.comp_apply]
  split
  next => exact same entry.1 entry.2
  next => rfl

end Users

/-- A change of one user that sets no invalid cap. -/
theorem Valid.modify {users : Users} (valid : Valid users) {id : Int} {change : UserData → UserData}
    (changed : ∀ user, ∀ cap ∈ (change user).caps,
      cap ∈ user.caps ∨ (MIN_FPS ≤ cap ∧ cap ≤ MAX_FPS)) : Valid (modify users id change) := by
  intro entry member cap set_
  rcases mem_modify.mp member with ⟨old, -⟩ | ⟨user, old, rfl⟩
  · exact valid entry old cap set_
  · rcases changed user cap set_ with kept | bounds
    · exact valid (id, user) old cap kept
    · exact bounds

/-- A chosen rate is one of the caps. -/
theorem customFps_caps {user : UserData} {fps cap : Nat}
    (set_ : cap ∈ { user with customFps := some fps }.caps) : cap ∈ user.caps ∨ cap = fps := by
  simp only [UserData.caps, List.mem_append, Option.mem_toList, Option.some_inj] at set_ ⊢
  tauto

/-- An adjusted rate is one of the caps. -/
theorem autoAdjustFps_caps {user : UserData} {fps cap : Nat}
    (set_ : cap ∈ { user with autoAdjustFps := some fps }.caps) : cap ∈ user.caps ∨ cap = fps := by
  simp only [UserData.caps, List.mem_append, Option.mem_toList, Option.some_inj] at set_ ⊢
  tauto

/-- A rate is valid in the bounds. -/
theorem validFps_iff {fps : Nat} : validFps fps = true ↔ MIN_FPS ≤ fps ∧ fps ≤ MAX_FPS :=
  decide_eq_true_iff

section Steps

variable (floats : Floats) {qos : VideoQoS}

/-- With the legacy adjustment off, the display data sets the frame rate and the ratio. -/
theorem updateDisplayData_eq (off : qos.abrConfig = false) (rank : Int → Nat) (now : Nat)
    (name : List Char) (sendCounter : Nat) :
    qos.updateDisplayData floats rank now name sendCounter =
      { qos.adjustFps now with
        displays := modify qos.displays name fun display =>
          { display with sendCounter := display.sendCounter + sendCounter }
        ratio := (latestQuality rank qos.users).ratio } := by
  simp only [VideoQoS.updateDisplayData, VideoQoS.inVbrState, VideoQoS.adjustFps, off,
    Bool.false_and, Bool.false_eq_true, if_false]

/-- One input is sound. -/
theorem step_sound (sound : qos.Sound) (input : Input) : (qos.step floats input).Sound := by
  obtain ⟨valid, off⟩ := sound
  unfold VideoQoS.step
  cases input.op with
  | onConnectionOpen id =>
      refine ⟨fun entry member cap set_ => ?_, rfl⟩
      rcases mem_insert member with rfl | ⟨old, -⟩
      · exact absurd set_ (by simp [UserData.caps, UserData.default])
      · exact valid entry old cap set_
  | onConnectionClose id =>
      dsimp only
      split
      next => exact ⟨fun entry member => absurd member (List.not_mem_nil), rfl⟩
      next => exact ⟨fun entry member => valid entry (mem_remove.mp member).1, off⟩
  | userCustomFps id fps =>
      dsimp only
      split
      next good =>
        refine ⟨?_, off⟩
        dsimp only
        refine valid.modify fun user cap set_ => ?_
        rcases customFps_caps set_ with kept | rfl
        · exact .inl kept
        · exact .inr (validFps_iff.mp good)
      next => exact ⟨valid, off⟩
  | userAutoAdjustFps id fps =>
      dsimp only
      split
      next good =>
        refine ⟨?_, off⟩
        dsimp only
        refine valid.modify fun user cap set_ => ?_
        rcases autoAdjustFps_caps set_ with kept | rfl
        · exact .inl kept
        · exact .inr (validFps_iff.mp good)
      next => exact ⟨valid, off⟩
  | userImageQuality id imageQuality =>
      dsimp only
      split
      next =>
        refine ⟨?_, off⟩
        dsimp only
        exact valid.modify fun user cap set_ => .inl set_
      next => exact ⟨valid, off⟩
  | userNetworkDelay id delay =>
      refine ⟨?_, off⟩
      dsimp only [VideoQoS.adjustFps]
      exact valid.modify fun user cap set_ => .inl set_
  | userDelayResponseElapsed id elapsed =>
      dsimp only
      split
      next =>
        refine ⟨?_, off⟩
        dsimp only
        exact valid.modify fun user cap set_ => .inl set_
      next => exact ⟨valid, off⟩
  | updateDisplayData name sendCounter =>
      dsimp only
      rw [updateDisplayData_eq floats off]
      exact ⟨valid, off⟩
  | _ => exact ⟨valid, off⟩

end Steps

/-- These operations adjust the frame rate. -/
def Op.Adjusts : Op → Prop
  | .userNetworkDelay _ _ => True
  | .updateDisplayData _ _ => True
  | _ => False

/-- An adjusting operation ends with an adjustment of a state with the same users. -/
theorem step_adjusts (floats : Floats) {qos : VideoQoS} (sound : qos.Sound) {input : Input}
    (adjusts : input.op.Adjusts) :
    ∃ before : VideoQoS, before.users = (qos.step floats input).users ∧
      before.newUserInstant = qos.newUserInstant ∧
        (qos.step floats input).fps = (before.adjustFps input.now).fps := by
  unfold VideoQoS.step
  cases op : input.op with
  | userNetworkDelay id delay => exact ⟨_, rfl, rfl, rfl⟩
  | updateDisplayData name sendCounter =>
      dsimp only
      rw [updateDisplayData_eq floats sound.abr]
      exact ⟨qos, rfl, rfl, rfl⟩
  | _ => exact absurd adjusts (by simp [op, Op.Adjusts])

/-- An adjustment stays in the bounds. -/
theorem step_bounds (floats : Floats) {qos : VideoQoS} (sound : qos.Sound) {input : Input}
    (adjusts : input.op.Adjusts) :
    MIN_FPS ≤ (qos.step floats input).getFps ∧
      (qos.step floats input).getFps ≤ highestFps (qos.step floats input).users := by
  obtain ⟨before, users, -, fps⟩ := step_adjusts floats sound adjusts
  have bounds := adjustFps_bounds before input.now
  rw [← fps, users] at bounds
  rw [getFps_eq ⟨bounds.1, bounds.2.trans (highestFps_bounds _).2⟩]
  exact bounds

/-- The default is sound. -/
theorem default_sound (now : Nat) : (VideoQoS.default now).Sound :=
  ⟨fun _ member => absurd member (List.not_mem_nil), rfl⟩

/-- Every run is sound. -/
theorem run_sound (floats : Floats) {qos : VideoQoS} (sound : qos.Sound) (inputs : List Input) :
    ((control floats).run qos inputs).1.Sound := by
  induction inputs generalizing qos with
  | nil => exact sound
  | cons input rest ih => exact ih (step_sound floats sound input)

/-- The ids, the caps and the time of the last opening. -/
def VideoQoS.profile (qos : VideoQoS) : List (Int × Option Nat × Option Nat) × Nat :=
  (qos.users.map fun entry => (entry.1, entry.2.customFps, entry.2.autoAdjustFps),
    qos.newUserInstant)

/-- The operation changes no user, no cap and no time of an opening. -/
def VideoQoS.Steady (floats : Floats) (qos : VideoQoS) (input : Input) : Prop :=
  (qos.step floats input).profile = qos.profile

/-- The budget is a function of the profile. -/
theorem highestFps_of_profile {first second : VideoQoS} (same : first.profile = second.profile) :
    highestFps first.users = highestFps second.users := by
  have read (users : Users) : users.map (userFps ·.2) =
      (users.map fun entry => (entry.1, entry.2.customFps, entry.2.autoAdjustFps)).map fun entry =>
        userFps { UserData.default with
          customFps := entry.2.1
          autoAdjustFps := entry.2.2 } := by
    rw [List.map_map]
    rfl
  rw [highestFps, highestFps, read first.users, read second.users, (Prod.mk.inj same).1]

/-- The users that have reported remember the budget, or no less. -/
def VideoQoS.Reported (qos : VideoQoS) (budget : Nat) (ids : List Int) : Prop :=
  ∀ entry ∈ qos.users, entry.1 ∈ ids → budget ≤ entry.2.delay.fps.getD INIT_FPS

def Op.reporter : Op → List Int
  | .userNetworkDelay id _ => [id]
  | _ => []

/-- A user without caps keeps the budget at the initial rate or below. -/
theorem highestFps_le_default {users : Users} {id : Int} (member : (id, .default) ∈ users) :
    highestFps users ≤ INIT_FPS := by
  have listed : FPS ∈ (users.map (userFps ·.2)).filter (MIN_FPS ≤ ·) :=
    List.mem_filter.mpr ⟨List.mem_map.mpr ⟨_, member, rfl⟩, by decide⟩
  have least := getD_min?_le listed FPS
  unfold highestFps clamp
  simp only [MIN_FPS, MAX_FPS, FPS, INIT_FPS] at least ⊢
  omega

/-- A steady operation keeps the reports of the users and adds its own. -/
theorem step_reported (floats : Floats) {qos : VideoQoS} (sound : qos.Sound) {input : Input}
    (steady : qos.Steady floats input) {ids : List Int}
    (reported : qos.Reported (highestFps qos.users) ids) :
    (qos.step floats input).Reported (highestFps qos.users) (input.op.reporter ++ ids) := by
  have keeps {id : Int} {change : UserData → UserData}
      (same : ∀ user, (change user).delay.fps = user.delay.fps) :
      ∀ entry ∈ modify qos.users id change, entry.1 ∈ ids →
        highestFps qos.users ≤ entry.2.delay.fps.getD INIT_FPS := by
    intro entry member listed
    rcases mem_modify.mp member with ⟨old, -⟩ | ⟨user, old, rfl⟩
    · exact reported entry old listed
    · rw [same user]
      exact reported (id, user) old listed
  have budget := highestFps_of_profile steady
  unfold VideoQoS.step at budget ⊢
  cases op : input.op with
  | onConnectionOpen id =>
      simp only [op] at budget
      intro entry member listed
      rcases List.mem_cons.mp member with rfl | kept
      · rw [← budget]
        exact highestFps_le_default List.mem_cons_self
      · exact reported entry (List.mem_of_mem_filter kept) listed
  | onConnectionClose id =>
      dsimp only
      split
      next =>
        intro entry member
        cases member
      next => exact fun entry kept => reported entry (List.mem_of_mem_filter kept)
  | userCustomFps id fps =>
      dsimp only
      split
      next =>
        dsimp only [VideoQoS.Reported]
        exact keeps fun _ => rfl
      next => exact reported
  | userAutoAdjustFps id fps =>
      dsimp only
      split
      next =>
        dsimp only [VideoQoS.Reported]
        exact keeps fun _ => rfl
      next => exact reported
  | userImageQuality id imageQuality =>
      dsimp only
      split
      next =>
        dsimp only [VideoQoS.Reported]
        exact keeps fun _ => rfl
      next => exact reported
  | userNetworkDelay id delay =>
      dsimp only [VideoQoS.Reported, VideoQoS.adjustFps]
      intro entry member listed
      rcases mem_modify.mp member with ⟨old, other⟩ | ⟨user, old, rfl⟩
      · exact reported entry old ((List.mem_cons.mp listed).resolve_left other)
      · exact le_rfl
  | userDelayResponseElapsed id elapsed =>
      dsimp only
      split
      next =>
        dsimp only [VideoQoS.Reported]
        exact keeps fun _ => rfl
      next => exact reported
  | updateDisplayData name sendCounter =>
      dsimp only
      rw [updateDisplayData_eq floats sound.abr]
      exact reported
  | _ => exact reported

/-- Steady operations carry the budget, the profile and the reports through a run. -/
theorem run_reported (floats : Floats) (inputs : List Input) {qos : VideoQoS} (sound : qos.Sound)
    (steady : (control floats).Guarded (VideoQoS.Steady floats) qos inputs) {ids : List Int}
    (reported : qos.Reported (highestFps qos.users) ids) :
    ((control floats).run qos inputs).1.profile = qos.profile ∧
      ((control floats).run qos inputs).1.Reported (highestFps qos.users)
        (inputs.flatMap (·.op.reporter) ++ ids) := by
  induction inputs generalizing qos ids with
  | nil => exact ⟨rfl, reported⟩
  | cons input rest ih =>
      have profile : (qos.step floats input).profile = qos.profile := steady.1
      have first := step_reported floats sound profile reported
      rw [← highestFps_of_profile profile] at first
      obtain ⟨kept, later⟩ := ih (step_sound floats sound input) steady.2 first
      refine ⟨kept.trans profile, fun entry member listed => ?_⟩
      rw [← highestFps_of_profile profile]
      refine later entry member ?_
      simp only [List.flatMap_cons, List.mem_append] at listed ⊢
      tauto

theorem le_getD_min? {values : List Nat} {bound other : Nat} (all : ∀ value ∈ values, bound ≤ value)
    (start : values = [] → bound ≤ other) : bound ≤ values.min?.getD other := by
  cases least : values.min? with
  | none => exact start (List.min?_eq_none_iff.mp least)
  | some value => exact all value (List.min?_eq_some_iff.mp least).1

/-- An adjustment after all reports gives the budget. -/
theorem adjustFps_reported {qos : VideoQoS} (now : Nat)
    (reported : ∀ entry ∈ qos.users,
      highestFps qos.users ≤ entry.2.delay.fps.getD INIT_FPS)
    (old : NANOS ≤ now - qos.newUserInstant) : (qos.adjustFps now).fps = highestFps qos.users := by
  have started : ¬ (now - qos.newUserInstant) / NANOS < 1 := by
    rw [Nat.not_lt]
    exact (Nat.one_le_div_iff (by decide)).mpr old
  have positive := (highestFps_bounds qos.users).1
  have enough : highestFps qos.users ≤
      (qos.users.map fun user => user.2.delay.fps.getD INIT_FPS).min?.getD INIT_FPS := by
    apply le_getD_min?
    · intro value member
      obtain ⟨entry, inside, rfl⟩ := List.mem_map.mp member
      exact reported entry inside
    · intro empty
      rw [List.map_eq_nil_iff.mp empty]
      decide
  simp only [VideoQoS.adjustFps, started, false_and, if_false, clamp]
  omega

/-- An adjusting operation gives the budget where each user has reported since the last change of the
caps and the users, and the last opening is a second ago. -/
theorem settled_fps (floats : Floats) {qos : VideoQoS} (sound : qos.Sound) (reports : List Input)
    (last : Input)
    (steady : (control floats).Guarded (VideoQoS.Steady floats) qos (reports ++ [last]))
    (adjusts : last.op.Adjusts)
    (all : ∀ entry ∈ qos.users, entry.1 ∈ (reports ++ [last]).flatMap (·.op.reporter))
    (old : NANOS ≤ last.now - qos.newUserInstant) :
    ((control floats).run qos (reports ++ [last])).1.getFps =
      ((qos.users.map (userFps ·.2)).min?).getD FPS := by
  have fresh : qos.Reported (highestFps qos.users) [] :=
    fun _ _ listed => absurd listed (List.not_mem_nil)
  obtain ⟨profile, reported⟩ := run_reported floats (reports ++ [last]) sound steady fresh
  have front := run_reported floats reports sound
    (((control floats).guarded_append _ _ _ _).mp steady).1 fresh
  rw [(control floats).run_append] at profile reported ⊢
  have between := run_sound floats sound reports
  obtain ⟨before, users, opened, fps⟩ := step_adjusts floats between adjusts
  have budget : highestFps before.users = highestFps qos.users := by
    rw [users]
    exact highestFps_of_profile profile
  have ids : ∀ entry ∈ before.users, entry.1 ∈ (reports ++ [last]).flatMap (·.op.reporter) := by
    intro entry member
    have known : entry.1 ∈ qos.users.map (·.1) := by
      have same := congrArg (List.map (·.1)) (Prod.mk.inj profile).1
      rw [List.map_map, List.map_map] at same
      rw [users] at member
      rw [show qos.users.map (·.1) = _ from same.symm]
      exact List.mem_map.mpr ⟨entry, member, rfl⟩
    obtain ⟨own, inside, same⟩ := List.mem_map.mp known
    rw [← same]
    exact all own inside
  have settled : (before.adjustFps last.now).fps = highestFps before.users := by
    apply adjustFps_reported
    · intro entry member
      rw [budget]
      refine reported entry ?_ (List.mem_append_left _ (ids entry member))
      rw [users] at member
      exact member
    · rw [opened, (Prod.mk.inj front.1).2]
      exact old
  rw [← highestFps_eq sound.valid, ← budget]
  have exact_ : (((control floats).run qos reports).1.step floats last).fps =
      highestFps before.users := fps.trans settled
  refine (getFps_eq ?_).trans exact_
  show MIN_FPS ≤ (((control floats).run qos reports).1.step floats last).fps ∧
    (((control floats).run qos reports).1.step floats last).fps ≤ MAX_FPS
  rw [exact_]
  exact highestFps_bounds _

end SubnetDesk.Qos
