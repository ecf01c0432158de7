import SubnetDesk.Construction.Drm.Geometry

namespace SubnetDesk.Drm

theorem Pairing.pair_keeps {pairing : Pairing} {index output entry other : Nat}
    (found : pairing.matched[index]? = some (some output)) (different : entry ≠ index) :
    (pairing.pair entry other).matched[index]? = some (some output) := by
  rw [Pairing.pair, List.getElem?_set_ne different]
  exact found

/-- The layout order never takes a display from its identity match. -/
theorem matchLayout_keeps (outputs : List WaylandDisplayInfo) {pairing : Pairing}
    (entry : DrmDisplayInfo × Nat) {index output : Nat}
    (found : pairing.matched[index]? = some (some output)) :
    (matchLayout outputs pairing entry).matched[index]? = some (some output) := by
  unfold matchLayout
  split
  next => exact found
  next unmatched =>
    have different : entry.2 ≠ index := by
      intro same
      apply unmatched
      rw [isMatched, same, found]
      rfl
    split
    next => exact Pairing.pair_keeps found different
    next => exact found

/-- The last pass keeps a match. -/
theorem foldl_matchLayout_keeps (outputs : List WaylandDisplayInfo)
    (entries : List (DrmDisplayInfo × Nat)) {pairing : Pairing} {index output : Nat}
    (found : pairing.matched[index]? = some (some output)) :
    (entries.foldl (matchLayout outputs) pairing).matched[index]? = some (some output) := by
  induction entries generalizing pairing with
  | nil => exact found
  | cons entry rest ih => exact ih (matchLayout_keeps outputs entry found)

/-- An identity is kept to the end. -/
theorem assignWaylandOutputs_identity {drm : List DrmDisplayInfo}
    {outputs : List WaylandDisplayInfo} {index output : Nat}
    (found : (identityMatches drm outputs)[index]?.join = some output) :
    (assignWaylandOutputs drm outputs)[index]?.join = some output := by
  rw [Option.join_eq_some_iff] at found ⊢
  rw [assignWaylandOutputs]
  apply foldl_matchLayout_keeps
  exact found

/-- An undone rotation swaps the sides. -/
theorem rotatedDims_undone (output : WaylandDisplayInfo) (width height : Nat) :
    rotatedDims (undoneTransform (some output)) width height =
      if output.transform = 90 ∨ output.transform = 270 then (height, width)
      else (width, height) := by
  simp only [rotatedDims, undoneTransform]
  split
  next => rfl
  next => rfl

/-- The wire carries a size as two signed numbers. -/
def wireSize (size : Nat × Nat) : Int32 × Int32 := (Int32.ofNat size.1, Int32.ofNat size.2)

theorem toInt32_eq_ofNat (value : UInt32) : value.toInt32 = Int32.ofNat value.toNat := by
  apply Int32.toBitVec_inj.mp
  simp

theorem displayInfoFromDrm_size (changed : Name → Option (Int32 × Int32))
    (display : DrmDisplayInfo) :
    ((displayInfoFromDrm changed display).width, (displayInfoFromDrm changed display).height) =
      wireSize (display.width.toNat, display.height.toNat) := by
  simp only [displayInfoFromDrm, wireSize, toInt32_eq_ofNat]

/-- A rotated display swaps its sides. -/
theorem swapRotated_size (changed : Name → Option (Int32 × Int32)) (display : DrmDisplayInfo)
    (output : WaylandDisplayInfo) (isIdentity : Bool) (info : DisplayInfo)
    {width height : Nat} (size : (info.width, info.height) = wireSize (width, height)) :
    ((swapRotated changed display output isIdentity info).width,
        (swapRotated changed display output isIdentity info).height) =
      wireSize (rotatedDims (undoneTransform (if isIdentity then some output else none))
        width height) := by
  simp only [wireSize, Prod.mk.injEq] at size
  cases isIdentity with
  | false =>
      have upright : swapRotated changed display output false info = info := by
        rw [swapRotated, if_neg]
        simp
      rw [upright]
      simp only [wireSize, size.1, size.2, Bool.false_eq_true, if_false, undoneTransform,
        rotatedDims]
      rfl
  | true =>
      simp only [if_true, rotatedDims_undone, swapRotated, true_and, wireSize]
      split
      next => simp only [size.1, size.2]
      next => simp only [size.1, size.2]

/-- An adopted layout keeps the size. -/
theorem adoptLogical_size (changed : Name → Option (Int32 × Int32)) (display : DrmDisplayInfo)
    (output : WaylandDisplayInfo) (info : DisplayInfo) :
    ((adoptLogical changed display output info).width,
        (adoptLogical changed display output info).height) = (info.width, info.height) := by
  unfold adoptLogical
  split
  next width height =>
    split
    next => rfl
    next => rfl
  next => rfl

/-- The augmenting loop and the capturer turn the same displays. -/
theorem augmentEntry_size (changed : Name → Option (Int32 × Int32))
    (outputs : List WaylandDisplayInfo) (identity matched : List (Option Nat))
    (entry : DrmDisplayInfo × Nat)
    (kept : ∀ output, identity[entry.2]?.join = some output →
      matched[entry.2]?.join = some output) :
    ((augmentEntry changed outputs identity matched entry).width,
        (augmentEntry changed outputs identity matched entry).height) =
      wireSize (rotatedDims
        (undoneTransform (identity[entry.2]?.join.bind fun output => outputs[output]?))
        entry.1.width.toNat entry.1.height.toNat) := by
  have plain := displayInfoFromDrm_size changed entry.1
  cases paired : matched[entry.2]?.join with
  | none =>
      have unmatched : identity[entry.2]?.join = none := by
        cases found : identity[entry.2]?.join with
        | none => rfl
        | some output =>
            rw [kept output found] at paired
            contradiction
      simp only [augmentEntry, paired, unmatched, Option.bind_none, undoneTransform, plain]
      rfl
  | some index =>
      cases present : outputs[index]? with
      | none =>
          have unseen : (identity[entry.2]?.join.bind fun output => outputs[output]?) = none := by
            cases found : identity[entry.2]?.join with
            | none => rfl
            | some output =>
                have same : output = index := by
                  rw [kept output found] at paired
                  exact Option.some.inj paired
                rw [same, Option.bind_some, present]
          simp only [augmentEntry, paired, present, unseen, undoneTransform, plain]
          rfl
      | some output =>
          have turned : (identity[entry.2]?.join.bind fun output => outputs[output]?) =
              if decide (identity[entry.2]?.join = some index) then some output else none := by
            cases found : identity[entry.2]?.join with
            | none => simp
            | some other =>
                have same : other = index := by
                  rw [kept other found] at paired
                  exact Option.some.inj paired
                simp [same, present]
          rw [turned, ← swapRotated_size changed entry.1 output _
            { displayInfoFromDrm changed entry.1 with x := output.x, y := output.y } plain]
          simp only [augmentEntry, paired, present]
          split
          next => rfl
          next => exact adoptLogical_size changed entry.1 output _

/-- The advertised size is the size of the upright picture. -/
theorem advertisedDisplays_size (changed : Name → Option (Int32 × Int32))
    (drm : List DrmDisplayInfo) (snapshot : Displays) {index : Nat} {display : DrmDisplayInfo}
    (listed : drm[index]? = some display) :
    ∃ info, (advertisedDisplays changed drm snapshot)[index]? = some info ∧
      (info.width, info.height) =
        wireSize (rotatedDims (transformAndOrigin changed drm index snapshot).1
          display.width.toNat display.height.toNat) := by
  have filled : drm ≠ [] := by
    rintro rfl
    simp at listed
  by_cases blind : blindSnapshot drm snapshot.displays
  case pos =>
    refine ⟨displayInfoFromDrm changed display, ?_, ?_⟩
    · rw [advertisedDisplays, augmentWithWaylandGeometryFrom, if_pos (Or.inr blind),
        List.getElem?_map, listed, Option.map_some]
    · rw [displayInfoFromDrm_size, transformAndOrigin, if_pos blind]
      rfl
  case neg =>
    refine ⟨augmentEntry changed snapshot.displays (identityMatches drm snapshot.displays)
      (assignWaylandOutputs drm snapshot.displays) (display, index), ?_, ?_⟩
    · have seen : ¬(drm = [] ∨ blindSnapshot drm snapshot.displays) := by
        rintro (empty | empty)
        · exact filled empty
        · exact blind empty
      rw [advertisedDisplays, augmentWithWaylandGeometryFrom, if_neg seen, List.getElem?_map,
        List.getElem?_zipIdx, listed]
      simp only [Option.map_some, Nat.zero_add]
    · rw [transformAndOrigin, if_neg blind]
      apply augmentEntry_size
      intro output found
      exact assignWaylandOutputs_identity found

theorem transformAndOrigin_origin (changed : Name → Option (Int32 × Int32))
    (drm : List DrmDisplayInfo) (snapshot : Displays) {index : Nat} {info : DisplayInfo}
    {origin : Int32 × Int32}
    (advertised : (advertisedDisplays changed drm snapshot)[index]? = some info)
    (known : (transformAndOrigin changed drm index snapshot).2 = some origin) :
    (info.x, info.y) = origin := by
  unfold transformAndOrigin at known
  split at known
  next => contradiction
  next =>
    rw [advertised] at known
    exact Option.some.inj known

/-- A delivery keeps the size of the session. -/
theorem deliver_size (rotate : Rotate) (capturer : IpcDrmCapturer) (picture : Picture) :
    (capturer.deliver rotate picture).1.sessionSize = capturer.sessionSize ∧
      ∀ next, (capturer.deliver rotate picture).2 = .ok next →
        (next.width, next.height) =
          rotatedDims capturer.transform picture.width picture.height := by
  unfold IpcDrmCapturer.deliver
  split
  next =>
    refine ⟨rfl, ?_⟩
    rintro next delivered
    rw [← Except.ok.inj delivered]
  next =>
    split
    next =>
      refine ⟨rfl, ?_⟩
      intro next delivered
      contradiction
    next =>
      refine ⟨rfl, ?_⟩
      intro next delivered
      rw [← Except.ok.inj delivered]

/-- A session keeps its size and delivers no picture of another size. -/
theorem frame_size (rotate : Rotate) (generation : Nat) {capturer : IpcDrmCapturer}
    {size : Nat × Nat} (fixed : capturer.sessionSize = some size) :
    (capturer.frame rotate generation).1.sessionSize = some size ∧
      ∀ next, (capturer.frame rotate generation).2 = .ok next →
        (next.width, next.height) = size := by
  unfold IpcDrmCapturer.frame
  split
  next =>
    refine ⟨fixed, ?_⟩
    intro next delivered
    contradiction
  next =>
    refine ⟨fixed, ?_⟩
    intro next delivered
    contradiction
  next picture _ =>
    rw [fixed]
    dsimp only
    split
    next =>
      refine ⟨rfl, ?_⟩
      intro next delivered
      contradiction
    next =>
      split
      next =>
        refine ⟨rfl, ?_⟩
        intro next delivered
        contradiction
      next same =>
        have sizes := deliver_size rotate
          { capturer with slot := { capturer.slot with latest := none }
                          sessionSize := some size } picture
        refine ⟨sizes.1, ?_⟩
        intro next delivered
        rw [sizes.2 next delivered]
        exact not_not.mp same

/-- One step keeps the size of the session. -/
theorem captureSession_step (rotate : Rotate) (size : Nat × Nat) (capturer : IpcDrmCapturer)
    (past : List Picture) (input : CaptureStep)
    (holds : capturer.sessionSize = some size ∧
      ∀ picture ∈ past, (picture.width, picture.height) = size) :
    ((captureSession rotate).step capturer input).1.sessionSize = some size ∧
      ∀ picture ∈ past ++ ((captureSession rotate).step capturer input).2,
        (picture.width, picture.height) = size := by
  obtain ⟨fixed, before⟩ := holds
  cases input with
  | publish picture =>
      refine ⟨?_, ?_⟩
      · exact fixed
      · simpa [captureSession] using before
  | finish reason =>
      refine ⟨?_, ?_⟩
      · exact fixed
      · simpa [captureSession] using before
  | frame generation =>
      have sizes := frame_size rotate generation fixed
      simp only [captureSession]
      split
      next next picture delivered =>
        rw [delivered] at sizes
        refine ⟨sizes.1, ?_⟩
        intro other member
        rw [List.mem_append, List.mem_singleton] at member
        rcases member with old | rfl
        · exact before other old
        · exact sizes.2 other rfl
      next next error failed =>
        rw [failed] at sizes
        refine ⟨sizes.1, ?_⟩
        simpa using before

/-- Every picture has the size of the session. -/
theorem captureSession_sizes (rotate : Rotate) {size : Nat × Nat} {capturer : IpcDrmCapturer}
    (fixed : capturer.sessionSize = some size) (inputs : List CaptureStep) :
    ∀ picture ∈ ((captureSession rotate).run capturer inputs).2,
      (picture.width, picture.height) = size := by
  have sizes := (captureSession rotate).run_invariant (fun _ _ => True)
    (fun capturer past => capturer.sessionSize = some size ∧
      ∀ picture ∈ past, (picture.width, picture.height) = size)
    (fun state past input _ holds => captureSession_step rotate size state past input holds)
    capturer [] inputs ⟨fixed, by simp⟩ ((captureSession rotate).guarded_true capturer inputs)
  simpa using sizes.2

/-- A signed number keeps a size exactly when the size is small enough for it. -/
theorem toInt_ofNat_eq_iff (size : Nat) (small : size < 2 ^ 32) :
    (Int32.ofNat size).toInt = size ↔ size < 2 ^ 31 := by
  constructor
  · intro same
    rw [Int32.toInt_ofNat'] at same
    have bound := Int.bmod_lt (x := (size : Int)) (m := Int32.size) (by decide)
    rw [same] at bound
    simp only [Int32.size] at bound
    omega
  · exact Int32.toInt_ofNat_of_lt

theorem rotatedDims_lt (transform : Int32) (width height : UInt32) :
    (rotatedDims transform width.toNat height.toNat).1 < 2 ^ 32 ∧
      (rotatedDims transform width.toNat height.toNat).2 < 2 ^ 32 := by
  unfold rotatedDims
  split
  next => exact ⟨height.toNat_lt, width.toNat_lt⟩
  next => exact ⟨width.toNat_lt, height.toNat_lt⟩

theorem getCapturerInfo_listed (changed : Name → Option (Int32 × Int32))
    (drm : List DrmDisplayInfo) (snapshot : Displays) (snapshotGen : Nat) {index : Nat}
    {display : DrmDisplayInfo} (listed : drm[index]? = some display) :
    ∃ capture, getCapturerInfo changed drm index snapshot snapshotGen = some capture ∧
      (capture.width, capture.height) =
        rotatedDims (transformAndOrigin changed drm index snapshot).1 display.width.toNat
          display.height.toNat ∧
      capture.capturer.sessionSize =
        some (rotatedDims (transformAndOrigin changed drm index snapshot).1 display.width.toNat
          display.height.toNat) ∧
      capture.origin =
        (transformAndOrigin changed drm index snapshot).2.getD (display.x, display.y) := by
  simp only [getCapturerInfo, IpcDrmCapturer.new, listed, Option.map_some]
  exact ⟨_, rfl, rfl, rfl, rfl⟩

/-- The advertised entry, the capturer, and every delivered frame have one size and one origin. -/
theorem pictures_agree (changed : Name → Option (Int32 × Int32)) (rotate : Rotate)
    (drm : List DrmDisplayInfo) (snapshot : Displays) (snapshotGen index : Nat)
    (display : DrmDisplayInfo) (listed : drm[index]? = some display) :
    ∃ info capture size,
      size = rotatedDims (transformAndOrigin changed drm index snapshot).1 display.width.toNat
        display.height.toNat ∧
      (advertisedDisplays changed drm snapshot)[index]? = some info ∧
      getCapturerInfo changed drm index snapshot snapshotGen = some capture ∧
      (info.width, info.height) = (Int32.ofNat size.1, Int32.ofNat size.2) ∧
      (info.width.toInt = size.1 ↔ size.1 < 2 ^ 31) ∧
      (info.height.toInt = size.2 ↔ size.2 < 2 ^ 31) ∧
      (capture.width, capture.height) = size ∧
      (∀ inputs, ∀ picture ∈ ((captureSession rotate).run capture.capturer inputs).2,
        (picture.width, picture.height) = size) ∧
      ∀ origin, (transformAndOrigin changed drm index snapshot).2 = some origin →
        (info.x, info.y) = origin ∧ capture.origin = origin := by
  obtain ⟨info, advertised, sizes⟩ := advertisedDisplays_size changed drm snapshot listed
  obtain ⟨capture, captured, same, session, place⟩ :=
    getCapturerInfo_listed changed drm snapshot snapshotGen listed
  have small := rotatedDims_lt (transformAndOrigin changed drm index snapshot).1 display.width
    display.height
  refine ⟨info, capture, _, rfl, advertised, captured, sizes, ?_, ?_, same, ?_, ?_⟩
  · rw [(Prod.mk.inj sizes).1]
    exact toInt_ofNat_eq_iff _ small.1
  · rw [(Prod.mk.inj sizes).2]
    exact toInt_ofNat_eq_iff _ small.2
  · exact captureSession_sizes rotate session
  · intro origin known
    refine ⟨transformAndOrigin_origin changed drm snapshot advertised known, ?_⟩
    rw [place, known, Option.getD_some]

/-- A display of a given name and size. -/
def displayNamed (name : Name) (width height : UInt32) : DrmDisplayInfo :=
  ⟨name, 41, 0, 0, width, height, true, [], []⟩

/-- One output in portrait orientation is matched by its name. -/
theorem pictures_agree_portrait :
    let drm := [displayNamed ['D', 'P', '-', '1'] 1920 1080]
    let snapshot : Displays := ⟨0, [⟨['D', 'P', '-', '1'], 5, 7, 1920, 1080, none, 90⟩]⟩
    (transformAndOrigin (fun _ => none) drm 0 snapshot).1 = 90 ∧
      ∃ info, (advertisedDisplays (fun _ => none) drm snapshot)[0]? = some info ∧
        (info.width, info.height) = (1080, 1920) := by
  intro drm snapshot
  obtain ⟨info, capture, size, sizeEq, advertised, captured, sizes, rest⟩ :=
    pictures_agree (fun _ => none) (fun _ _ _ _ _ target => target) drm snapshot 0 0
      (displayNamed ['D', 'P', '-', '1'] 1920 1080) rfl
  refine ⟨by decide +kernel, info, advertised, ?_⟩
  rw [sizes, sizeEq]
  decide +kernel

/-- The advertised width of a display of two to the power of thirty one columns is negative. -/
theorem advertised_width_wraps :
    let drm := [displayNamed ['D', 'P', '-', '1'] 2147483648 1080]
    let snapshot : Displays := ⟨0, []⟩
    ¬∃ info, (advertisedDisplays (fun _ => none) drm snapshot)[0]? = some info ∧
      (info.width.toInt, info.height.toInt) =
        (((rotatedDims (transformAndOrigin (fun _ => none) drm 0 snapshot).1 2147483648 1080).1 :
            Int),
          ((rotatedDims (transformAndOrigin (fun _ => none) drm 0 snapshot).1 2147483648 1080).2 :
            Int)) := by
  decide +kernel

end SubnetDesk.Drm
