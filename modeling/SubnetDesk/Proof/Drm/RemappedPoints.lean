import SubnetDesk.Construction.Drm.WaylandLayout

namespace SubnetDesk.DisplayService

open Drm

section Desktop

theorem max_eq_ite (first second : Int32) :
    max first second = if first ≤ second then second else first := rfl

instance lawfulOrderMaxInt32 : Std.LawfulOrderMax Int32 where
  max_eq_or first second := by
    rw [max_eq_ite]
    split
    · exact Or.inr rfl
    · exact Or.inl rfl
  max_le_iff first second bound := by
    rw [max_eq_ite]
    split
    · next below => exact ⟨fun inside => ⟨Int32.le_trans below inside, inside⟩, And.right⟩
    · next above =>
        have other := (Int32.le_total first second).resolve_left above
        exact ⟨fun inside => ⟨inside, Int32.le_trans other inside⟩, And.left⟩

theorem maxValue_min (value : Int32) : min Int32.maxValue value = value := by
  change (if Int32.maxValue ≤ value then Int32.maxValue else value) = value
  split
  · next above => exact Int32.le_antisymm above (Int32.le_maxValue value)
  · rfl

theorem minValue_max (value : Int32) : max Int32.minValue value = value :=
  if_pos (Int32.minValue_le value)

theorem emptySpan_join (span : Box Int32) : emptySpan.join span = span := by
  simp only [Box.join, emptySpan, maxValue_min, minValue_max]

/-- The case split of the desktop rectangle falls back to the oriented size as well. -/
theorem desktopSize_eq (display : WaylandDisplayInfo) :
    desktopSize display = display.logicalSize.getD (orientedPhysical display) := by
  unfold desktopSize orientedPhysical
  cases display.logicalSize with
  | some size => rfl
  | none =>
      simp only [Option.getD_none]
      split <;> rfl

/-- A single display counts in its own size. -/
theorem spans_single (display : WaylandDisplayInfo) :
    (logicalRectsOf [display]).map DisplayRect.span =
      [spanOf display (clientSpaceSize display)] := rfl

/-- Several displays count in the shared size. -/
theorem spans_several {displays : List WaylandDisplayInfo} (several : displays.length ≠ 1) :
    (logicalRectsOf displays).map DisplayRect.span =
      displays.map fun display => spanOf display (desktopSize display) := by
  rw [logicalRectsOf, List.map_map]
  apply List.map_congr_left
  intro display _
  simp only [Function.comp_apply, DisplayRect.span, spanOf, if_neg several, desktopSize_eq]

/-- Only no displays have no desktop. -/
theorem desktopRectOf_eq_none {displays : List WaylandDisplayInfo} :
    desktopRectOf displays = none ↔ displays = [] := by
  match displays with
  | [] => exact ⟨fun _ => rfl, fun _ => rfl⟩
  | [display] => exact ⟨nofun, nofun⟩
  | first :: second :: rest => exact ⟨nofun, nofun⟩

/-- The desktop bounds its displays. -/
theorem desktopRectOf_bounding {displays : List WaylandDisplayInfo} {desktop : Box Int32}
    (found : desktopRectOf displays = some desktop) :
    Box.IsBounding ((logicalRectsOf displays).map DisplayRect.span) desktop := by
  match displays, found with
  | [display], found =>
      rw [spans_single, ← Option.some.inj found]
      exact Box.isBounding_singleton _
  | first :: second :: rest, found =>
      rw [spans_several (by simp), ← Option.some.inj found, ← List.foldl_map]
      exact Box.isBounding_foldl emptySpan_join (by simp)

/-- The edges without a limit on their size. -/
def DisplayRect.extent (rect : DisplayRect) : Box Int where
  minX := rect.x.toInt
  maxX := rect.x.toInt + rect.w.toInt
  minY := rect.y.toInt
  maxY := rect.y.toInt + rect.h.toInt

/-- Sums in 32 bits reach the edges of the rectangle. -/
structure DisplayRect.Fits (rect : DisplayRect) : Prop where
  right : -(2 ^ 31) ≤ rect.x.toInt + rect.w.toInt ∧ rect.x.toInt + rect.w.toInt < 2 ^ 31
  bottom : -(2 ^ 31) ≤ rect.y.toInt + rect.h.toInt ∧ rect.y.toInt + rect.h.toInt < 2 ^ 31

/-- A fitting span has no overflow. -/
theorem DisplayRect.Fits.span_map {rect : DisplayRect} (fits : rect.Fits) :
    rect.span.map Int32.toInt = rect.extent := by
  have right : (rect.x + rect.w).toInt = rect.x.toInt + rect.w.toInt := by
    have bounds := fits.right
    rw [Int32.toInt_add, Int.bmod_eq_of_le] <;> omega
  have bottom : (rect.y + rect.h).toInt = rect.y.toInt + rect.h.toInt := by
    have bounds := fits.bottom
    rw [Int32.toInt_add, Int.bmod_eq_of_le] <;> omega
  simp only [DisplayRect.span, Box.map, DisplayRect.extent, right, bottom]

/-- The bounds hold without overflow. -/
theorem bounding_extents {rects : List DisplayRect} {desktop : Box Int32}
    (fits : ∀ rect ∈ rects, rect.Fits)
    (bounding : Box.IsBounding (rects.map DisplayRect.span) desktop) :
    Box.IsBounding (rects.map DisplayRect.extent) (desktop.map Int32.toInt) := by
  have same : (rects.map DisplayRect.span).map (Box.map Int32.toInt) =
      rects.map DisplayRect.extent := by
    rw [List.map_map]
    exact List.map_congr_left fun rect member => (fits rect member).span_map
  rw [← same]
  exact bounding.map fun _ _ => Int32.le_iff_toInt_le.1

end Desktop

section Axis

variable {v baseOrigin baseExtent liveOrigin liveExtent : Int32}

/-- A fitting end has no overflow. -/
theorem toInt_add_of_fits {origin extent : Int32} (positive : 0 < extent.toInt)
    (fits : origin.toInt + extent.toInt < 2 ^ 31) :
    (origin + extent).toInt = origin.toInt + extent.toInt := by
  have low := origin.le_toInt
  rw [Int32.toInt_add, Int.bmod_eq_of_le] <;> omega

theorem toInt_bounds (value : Int32) : -(2 ^ 31) ≤ value.toInt ∧ value.toInt < 2 ^ 31 :=
  ⟨value.le_toInt, value.toInt_lt⟩

theorem toInt_sub_one {extent : Int32} (positive : 0 < extent.toInt) :
    (extent - 1).toInt = extent.toInt - 1 := by
  have bounds := toInt_bounds extent
  have one : (1 : Int32).toInt = 1 := rfl
  rw [Int32.toInt_sub, one, Int.bmod_eq_of_le] <;> omega

/-- The offset inside the live extent, exact at both ends. -/
theorem scaled_bounds {offset base live : Int} (low : 0 ≤ offset) (inside : offset ≤ base)
    (room : 0 ≤ live) : 0 ≤ offset * live / base ∧ offset * live / base ≤ live := by
  have nonnegative : 0 ≤ base := le_trans low inside
  constructor
  · exact Int.ediv_nonneg (Int.mul_nonneg low room) nonnegative
  · rcases nonnegative.lt_or_eq with positive | zero
    · calc offset * live / base ≤ base * live / base :=
            Int.ediv_le_ediv positive (Int.mul_le_mul_of_nonneg_right inside room)
        _ = live := Int.mul_ediv_cancel_left live positive.ne'
    · rw [← zero, Int.ediv_zero]
      exact room

/-- In range, nothing of the scaling wraps. -/
theorem mapAxis_toInt (baseWide : 0 < baseExtent.toInt) (liveWide : 0 < liveExtent.toInt)
    (fits : liveOrigin.toInt + liveExtent.toInt < 2 ^ 31) (low : baseOrigin.toInt ≤ v.toInt)
    (inside : v.toInt < baseOrigin.toInt + baseExtent.toInt) :
    (mapAxis v baseOrigin baseExtent liveOrigin liveExtent).toInt =
      liveOrigin.toInt + (v.toInt - baseOrigin.toInt) * (liveExtent.toInt - 1) /
        (baseExtent.toInt - 1) := by
  have one : (1 : Int32).toInt = 1 := rfl
  rw [mapAxis]
  by_cases narrow : baseExtent ≤ 1 ∨ liveExtent ≤ 1
  · rw [if_pos narrow]
    rw [Int32.le_iff_toInt_le, Int32.le_iff_toInt_le, one] at narrow
    have zero : (v.toInt - baseOrigin.toInt) * (liveExtent.toInt - 1) = 0 := by
      rcases narrow with base | live
      · rw [show v.toInt - baseOrigin.toInt = 0 by omega, Int.zero_mul]
      · rw [show liveExtent.toInt - 1 = 0 by omega, Int.mul_zero]
    rw [zero, Int.zero_ediv, Int.add_zero]
  · rw [if_neg narrow]
    simp only [not_or, Int32.le_iff_toInt_le, one, Int.not_le] at narrow
    have baseBounds := toInt_bounds baseExtent
    have liveBounds := toInt_bounds liveExtent
    have originBounds := toInt_bounds liveOrigin
    have offset : (v - baseOrigin).toInt = v.toInt - baseOrigin.toInt := by
      rw [Int32.toInt_sub, Int.bmod_eq_of_le] <;> omega
    have nonnegative : 0 ≤ v.toInt - baseOrigin.toInt := by omega
    have short : v.toInt - baseOrigin.toInt ≤ baseExtent.toInt - 1 := by omega
    have room : 0 ≤ liveExtent.toInt - 1 := by omega
    have scaled := scaled_bounds nonnegative short room
    have product : ((v - baseOrigin).toInt64 * (liveExtent - 1).toInt64).toInt =
        (v.toInt - baseOrigin.toInt) * (liveExtent.toInt - 1) := by
      have small : (v.toInt - baseOrigin.toInt) * (liveExtent.toInt - 1) ≤ 2 ^ 31 * 2 ^ 31 :=
        Int.mul_le_mul (by omega) (by omega) room (by decide)
      have positive := Int.mul_nonneg nonnegative room
      rw [Int64.toInt_mul, Int32.toInt_toInt64, Int32.toInt_toInt64, offset,
        toInt_sub_one liveWide, Int.bmod_eq_of_le] <;> omega
    have quotient : ((v - baseOrigin).toInt64 * (liveExtent - 1).toInt64 /
        (baseExtent - 1).toInt64).toInt =
        (v.toInt - baseOrigin.toInt) * (liveExtent.toInt - 1) / (baseExtent.toInt - 1) := by
      rw [Int64.toInt_div, product, Int32.toInt_toInt64, toInt_sub_one baseWide,
        Int.tdiv_eq_ediv_of_nonneg (Int.mul_nonneg nonnegative room), Int.bmod_eq_of_le] <;> omega
    rw [Int32.toInt_add, Int64.toInt_toInt32, quotient]
    generalize (v.toInt - baseOrigin.toInt) * (liveExtent.toInt - 1) /
      (baseExtent.toInt - 1) = place at scaled
    rw [Int.bmod_eq_of_le (n := place) (by omega) (by omega), Int.bmod_eq_of_le] <;> omega

/-- One axis of a point in a base extent and of the live extent that it is mapped into. -/
structure AxisPair (v baseOrigin baseExtent liveOrigin liveExtent : Int32) : Prop where
  baseWide : 0 < baseExtent.toInt
  liveWide : 0 < liveExtent.toInt
  baseFits : baseOrigin.toInt + baseExtent.toInt < 2 ^ 31
  liveFits : liveOrigin.toInt + liveExtent.toInt < 2 ^ 31
  low : baseOrigin.toInt ≤ v.toInt
  inside : v.toInt < baseOrigin.toInt + baseExtent.toInt

namespace AxisPair

variable (pair : AxisPair v baseOrigin baseExtent liveOrigin liveExtent)

include pair

theorem toInt : (mapAxis v baseOrigin baseExtent liveOrigin liveExtent).toInt =
    liveOrigin.toInt + (v.toInt - baseOrigin.toInt) * (liveExtent.toInt - 1) /
      (baseExtent.toInt - 1) :=
  mapAxis_toInt pair.baseWide pair.liveWide pair.liveFits pair.low pair.inside

/-- A point lands inside the live display. -/
theorem lands : liveOrigin ≤ mapAxis v baseOrigin baseExtent liveOrigin liveExtent ∧
    mapAxis v baseOrigin baseExtent liveOrigin liveExtent < liveOrigin + liveExtent := by
  have value := pair.toInt
  obtain ⟨baseWide, liveWide, -, liveFits, low, inside⟩ := pair
  have scaled := scaled_bounds (show 0 ≤ v.toInt - baseOrigin.toInt by omega)
    (show _ ≤ baseExtent.toInt - 1 by omega) (show 0 ≤ liveExtent.toInt - 1 by omega)
  rw [Int32.le_iff_toInt_le, Int32.lt_iff_toInt_lt, value, toInt_add_of_fits liveWide liveFits]
  omega

/-- The map keeps the order of points. -/
theorem monotone {other : Int32}
    (second : AxisPair other baseOrigin baseExtent liveOrigin liveExtent) (before : v ≤ other) :
    mapAxis v baseOrigin baseExtent liveOrigin liveExtent ≤
      mapAxis other baseOrigin baseExtent liveOrigin liveExtent := by
  rw [Int32.le_iff_toInt_le] at before ⊢
  rw [pair.toInt, second.toInt]
  have liveWide := pair.liveWide
  have products : (v.toInt - baseOrigin.toInt) * (liveExtent.toInt - 1) ≤
      (other.toInt - baseOrigin.toInt) * (liveExtent.toInt - 1) :=
    Int.mul_le_mul_of_nonneg_right (by omega) (by omega)
  have baseWide : 0 ≤ baseExtent.toInt - 1 := by
    have wide := pair.baseWide
    omega
  rcases baseWide.lt_or_eq with positive | zero
  · exact Int.add_le_add_left (Int.ediv_le_ediv positive products) _
  · rw [← zero, Int.ediv_zero, Int.ediv_zero]

/-- The first point stays the first. -/
theorem first (start : v = baseOrigin) :
    mapAxis v baseOrigin baseExtent liveOrigin liveExtent = liveOrigin := by
  rw [← Int32.toInt_inj, pair.toInt, start, Int.sub_self, Int.zero_mul, Int.zero_ediv,
    Int.add_zero]

theorem last_toInt (finish : v = baseOrigin + baseExtent - 1) :
    v.toInt - baseOrigin.toInt = baseExtent.toInt - 1 := by
  have bounds := toInt_bounds baseOrigin
  have wide := pair.baseWide
  have fits := pair.baseFits
  have one : (1 : Int32).toInt = 1 := rfl
  have value : v.toInt = baseOrigin.toInt + baseExtent.toInt - 1 := by
    rw [finish, Int32.toInt_sub, toInt_add_of_fits wide fits, one, Int.bmod_eq_of_le] <;> omega
  omega

/-- A base extent of one has its only place at the start. -/
theorem last (finish : v = baseOrigin + baseExtent - 1)
    (reaches : 1 < baseExtent ∨ liveExtent = 1) :
    mapAxis v baseOrigin baseExtent liveOrigin liveExtent = liveOrigin + liveExtent - 1 := by
  have bounds := toInt_bounds liveOrigin
  have wide := pair.liveWide
  have fits := pair.liveFits
  have one : (1 : Int32).toInt = 1 := rfl
  have target : (liveOrigin + liveExtent - 1).toInt =
      liveOrigin.toInt + (liveExtent.toInt - 1) := by
    rw [Int32.toInt_sub, toInt_add_of_fits wide fits, one, Int.bmod_eq_of_le] <;> omega
  rw [← Int32.toInt_inj, pair.toInt, target, pair.last_toInt finish]
  congr 1
  cases reaches with
  | inl several =>
      rw [Int32.lt_iff_toInt_lt, one] at several
      exact Int.mul_ediv_cancel_left _ (by omega)
  | inr single => rw [single, one, Int.sub_self, Int.mul_zero, Int.zero_ediv]

/-- Between equal sizes the map is a shift. -/
theorem shift (same : baseExtent = liveExtent) :
    mapAxis v baseOrigin baseExtent liveOrigin liveExtent = liveOrigin + (v - baseOrigin) := by
  have value := pair.toInt
  obtain ⟨baseWide, liveWide, baseFits, liveFits, low, inside⟩ := pair
  have bounds := toInt_bounds liveOrigin
  have extents := toInt_bounds baseExtent
  have offset : (v - baseOrigin).toInt = v.toInt - baseOrigin.toInt := by
    rw [Int32.toInt_sub, Int.bmod_eq_of_le] <;> omega
  have target : (liveOrigin + (v - baseOrigin)).toInt =
      liveOrigin.toInt + (v.toInt - baseOrigin.toInt) := by
    rw [← same] at liveFits
    rw [Int32.toInt_add, offset, Int.bmod_eq_of_le] <;> omega
  rw [← Int32.toInt_inj, value, target, same]
  congr 1
  have wide : 0 ≤ liveExtent.toInt - 1 := by omega
  rcases wide.lt_or_eq with positive | zero
  · exact Int.mul_ediv_cancel _ positive.ne'
  · rw [← zero, Int.mul_zero, Int.zero_ediv]
    rw [← same] at zero
    omega

end AxisPair

end Axis

section Matching

/-- The item is the first of a list with a property. -/
def FirstAt {α : Type} (holds : α → Prop) (items : List α) (index : Nat) (item : α) : Prop :=
  items[index]? = some item ∧ holds item ∧
    ∀ earlier < index, ∀ other, items[earlier]? = some other → ¬ holds other

theorem find?_eq_some_iff_firstAt {α : Type} (holds : α → Prop) [DecidablePred holds]
    {items : List α} {item : α} :
    items.find? (fun item => holds item) = some item ↔ ∃ index, FirstAt holds items index item := by
  rw [List.find?_eq_some_iff_getElem]
  constructor
  · rintro ⟨found, index, inside, rfl, none⟩
    refine ⟨index, List.getElem?_eq_getElem inside, of_decide_eq_true found, ?_⟩
    intro earlier before other there
    obtain ⟨bound, rfl⟩ := List.getElem?_eq_some_iff.1 there
    simpa using none earlier before
  · rintro ⟨index, there, found, none⟩
    obtain ⟨inside, rfl⟩ := List.getElem?_eq_some_iff.1 there
    refine ⟨decide_eq_true found, index, inside, rfl, ?_⟩
    intro earlier before
    simpa using none earlier before _ (List.getElem?_eq_getElem (by omega))

theorem find?_zipIdx_eq_some_iff {α : Type} (holds : α → Prop) [DecidablePred holds]
    {items : List α} {item : α} {index : Nat} :
    items.zipIdx.find? (fun entry => holds entry.1) = some (item, index) ↔
      FirstAt holds items index item := by
  have places (place : Nat) (other : α) (number : Nat) :
      items.zipIdx[place]? = some (other, number) ↔
        items[place]? = some other ∧ number = place := by
    rw [List.getElem?_zipIdx]
    cases items[place]? with
    | none => simp
    | some value => simp [eq_comm]
  rw [find?_eq_some_iff_firstAt fun entry : α × Nat => holds entry.1]
  constructor
  · rintro ⟨place, there, found, none⟩
    obtain ⟨there, rfl⟩ := (places place item index).1 there
    refine ⟨there, found, fun earlier before other occupied => ?_⟩
    exact none earlier before (other, earlier) ((places earlier other earlier).2 ⟨occupied, rfl⟩)
  · rintro ⟨there, found, none⟩
    refine ⟨index, (places index item index).2 ⟨there, rfl⟩, found, ?_⟩
    rintro earlier before ⟨other, number⟩ occupied
    exact none earlier before other ((places earlier other number).1 occupied).1

/-- The point is in a display of the baseline, in no earlier one, and the live layout has the display
under its name, or at its index where it has no name and the counts agree. -/
def Matched (baseline live : List DisplayRect) (x y : Int32) (base rect : DisplayRect) : Prop :=
  ∃ index, FirstAt (fun other => other.span.Contains x y) baseline index base ∧
    if base.name = [] then baseline.length = live.length ∧ live[index]? = some rect
    else ∃ place, FirstAt (fun other => other.name = base.name) live place rect

variable {baseline live : List DisplayRect} {x y : Int32} {base rect : DisplayRect}

/-- A matched point moves along both axes. -/
theorem remap_matched (matched : Matched baseline live x y base rect) :
    remapToLiveLayout x y baseline live =
      (mapAxis x base.x base.w rect.x rect.w, mapAxis y base.y base.h rect.y rect.h) := by
  obtain ⟨index, first, pairing⟩ := matched
  have located :=
    (find?_zipIdx_eq_some_iff fun other : DisplayRect => other.span.Contains x y).2 first
  rw [remapToLiveLayout, located]
  by_cases nameless : base.name = []
  · rw [if_pos nameless] at pairing
    simp only [nameless, List.isEmpty_nil, if_true, if_pos pairing.1, pairing.2]
  · rw [if_neg nameless] at pairing
    have named : ¬ base.name.isEmpty = true := by simpa using nameless
    have found :=
      (find?_eq_some_iff_firstAt fun other : DisplayRect => other.name = base.name).2 pairing
    simp only [if_neg named, found]

/-- A point without a match stays. -/
theorem remap_unmatched (unmatched : ∀ base rect, ¬ Matched baseline live x y base rect) :
    remapToLiveLayout x y baseline live = (x, y) := by
  rw [remapToLiveLayout]
  split
  · rfl
  · next base index found =>
      have first :=
        (find?_zipIdx_eq_some_iff fun other : DisplayRect => other.span.Contains x y).1 found
      dsimp only
      split
      · rfl
      · next rect pairing =>
          refine absurd ⟨index, first, ?_⟩ (unmatched base rect)
          by_cases nameless : base.name = []
          · rw [if_pos nameless]
            rw [nameless, List.isEmpty_nil, if_pos rfl] at pairing
            by_cases counts : baseline.length = live.length
            · rw [if_pos counts] at pairing
              exact ⟨counts, pairing⟩
            · rw [if_neg counts] at pairing
              cases pairing
          · have named : ¬ base.name.isEmpty = true := by simpa using nameless
            rw [if_neg named] at pairing
            rw [if_neg nameless]
            exact
              (find?_eq_some_iff_firstAt fun other : DisplayRect => other.name = base.name).1 pairing

end Matching

section Remap

/-- Positive extents, and edges that fit into 32 bits. -/
structure DisplayRect.Proper (rect : DisplayRect) : Prop where
  wide : 0 < rect.w.toInt
  high : 0 < rect.h.toInt
  right : rect.x.toInt + rect.w.toInt < 2 ^ 31
  bottom : rect.y.toInt + rect.h.toInt < 2 ^ 31

instance (rect : DisplayRect) : Decidable rect.Proper :=
  decidable_of_iff (0 < rect.w.toInt ∧ 0 < rect.h.toInt ∧
      rect.x.toInt + rect.w.toInt < 2 ^ 31 ∧ rect.y.toInt + rect.h.toInt < 2 ^ 31)
    ⟨fun ⟨wide, high, right, bottom⟩ => ⟨wide, high, right, bottom⟩,
      fun ⟨wide, high, right, bottom⟩ => ⟨wide, high, right, bottom⟩⟩

variable {baseline live : List DisplayRect} {x y : Int32} {base rect : DisplayRect}

theorem Matched.baseline_mem (matched : Matched baseline live x y base rect) :
    base ∈ baseline := by
  obtain ⟨index, first, -⟩ := matched
  exact List.mem_of_getElem? first.1

theorem Matched.live_mem (matched : Matched baseline live x y base rect) : rect ∈ live := by
  obtain ⟨index, first, pairing⟩ := matched
  by_cases nameless : base.name = []
  · rw [if_pos nameless] at pairing
    exact List.mem_of_getElem? pairing.2
  · rw [if_neg nameless] at pairing
    obtain ⟨place, found⟩ := pairing
    exact List.mem_of_getElem? found.1

theorem Matched.contains (matched : Matched baseline live x y base rect) :
    base.span.Contains x y := by
  obtain ⟨index, first, -⟩ := matched
  exact first.2.1

/-- A match pairs the columns. -/
theorem Matched.columns (matched : Matched baseline live x y base rect)
    (baseProper : base.Proper) (liveProper : rect.Proper) :
    AxisPair x base.x base.w rect.x rect.w := by
  obtain ⟨⟨low, inside⟩, -⟩ := matched.contains
  rw [DisplayRect.span, Int32.le_iff_toInt_le] at low
  rw [DisplayRect.span, Int32.lt_iff_toInt_lt,
    toInt_add_of_fits baseProper.wide baseProper.right] at inside
  exact ⟨baseProper.wide, liveProper.wide, baseProper.right, liveProper.right, low, inside⟩

/-- A match pairs the rows. -/
theorem Matched.rows (matched : Matched baseline live x y base rect)
    (baseProper : base.Proper) (liveProper : rect.Proper) :
    AxisPair y base.y base.h rect.y rect.h := by
  obtain ⟨-, low, inside⟩ := matched.contains
  rw [DisplayRect.span, Int32.le_iff_toInt_le] at low
  rw [DisplayRect.span, Int32.lt_iff_toInt_lt,
    toInt_add_of_fits baseProper.high baseProper.bottom] at inside
  exact ⟨baseProper.high, liveProper.high, baseProper.bottom, liveProper.bottom, low, inside⟩

/-- The point lands in the matched rectangle, in order, with its ends on the ends where the baseline
has two places for them, and shifted where the size is the same. -/
structure RemapsInto (baseline live : List DisplayRect) (x y : Int32) (base rect : DisplayRect) :
    Prop where
  inside : rect.span.Contains (remapToLiveLayout x y baseline live).1
    (remapToLiveLayout x y baseline live).2
  desktop : ∀ displays desktop, logicalRectsOf displays = live →
    desktopRectOf displays = some desktop →
    desktop.Contains (remapToLiveLayout x y baseline live).1
      (remapToLiveLayout x y baseline live).2
  monotone : ∀ otherX otherY, Matched baseline live otherX otherY base rect →
    (x ≤ otherX → (remapToLiveLayout x y baseline live).1 ≤
      (remapToLiveLayout otherX otherY baseline live).1) ∧
    (y ≤ otherY → (remapToLiveLayout x y baseline live).2 ≤
      (remapToLiveLayout otherX otherY baseline live).2)
  firstColumn : x = base.x → (remapToLiveLayout x y baseline live).1 = rect.x
  firstRow : y = base.y → (remapToLiveLayout x y baseline live).2 = rect.y
  lastColumn : x = base.x + base.w - 1 → 1 < base.w ∨ rect.w = 1 →
    (remapToLiveLayout x y baseline live).1 = rect.x + rect.w - 1
  lastRow : y = base.y + base.h - 1 → 1 < base.h ∨ rect.h = 1 →
    (remapToLiveLayout x y baseline live).2 = rect.y + rect.h - 1
  shiftX : base.w = rect.w → (remapToLiveLayout x y baseline live).1 = rect.x + (x - base.x)
  shiftY : base.h = rect.h → (remapToLiveLayout x y baseline live).2 = rect.y + (y - base.y)

/-- A match maps into the live display. -/
theorem Matched.remaps (matched : Matched baseline live x y base rect)
    (baseProper : base.Proper) (liveProper : rect.Proper) :
    RemapsInto baseline live x y base rect := by
  have columns := matched.columns baseProper liveProper
  have rows := matched.rows baseProper liveProper
  have value := remap_matched matched
  have inside : rect.span.Contains (remapToLiveLayout x y baseline live).1
      (remapToLiveLayout x y baseline live).2 := by
    rw [value]
    exact ⟨columns.lands, rows.lands⟩
  refine ⟨inside, ?_, ?_, ?_, ?_, ?_, ?_, ?_, ?_⟩
  · intro displays desktop same found
    refine (desktopRectOf_bounding found).contains (List.mem_map_of_mem ?_) inside
    rw [same]
    exact matched.live_mem
  · intro otherX otherY other
    rw [value, remap_matched other]
    exact ⟨columns.monotone (other.columns baseProper liveProper),
      rows.monotone (other.rows baseProper liveProper)⟩
  all_goals rw [value]
  · exact columns.first
  · exact rows.first
  · exact columns.last
  · exact rows.last
  · exact columns.shift
  · exact rows.shift

/-- The desktop is the box around the rectangles of the displays, and a point of the baseline is
remapped into its live rectangle. -/
theorem desktop_rect_and_remap :
    (∀ displays : List WaylandDisplayInfo,
      (desktopRectOf displays = none ↔ displays = []) ∧
      ∀ desktop, desktopRectOf displays = some desktop →
        Box.IsBounding ((logicalRectsOf displays).map DisplayRect.span) desktop ∧
        ((∀ rect ∈ logicalRectsOf displays, rect.Fits) →
          Box.IsBounding ((logicalRectsOf displays).map DisplayRect.extent)
            (desktop.map Int32.toInt))) ∧
    ∀ baseline live : List DisplayRect, (∀ rect ∈ baseline, rect.Proper) →
      (∀ rect ∈ live, rect.Proper) → ∀ x y : Int32,
        (∀ base rect, Matched baseline live x y base rect →
          RemapsInto baseline live x y base rect) ∧
        ((∀ base rect, ¬ Matched baseline live x y base rect) →
          remapToLiveLayout x y baseline live = (x, y)) := by
  constructor
  · intro displays
    refine ⟨desktopRectOf_eq_none, fun desktop found => ?_⟩
    have bounding := desktopRectOf_bounding found
    exact ⟨bounding, fun fits => bounding_extents fits bounding⟩
  · intro baseline live baseProper liveProper x y
    refine ⟨fun base rect matched => ?_, remap_unmatched⟩
    exact matched.remaps (baseProper base matched.baseline_mem) (liveProper rect matched.live_mem)

def wallBefore : List DisplayRect :=
  [⟨['D', 'P', '1'], 0, 0, 2560, 1440, 0⟩, ⟨['D', 'P', '2'], 2560, 0, 2560, 1440, 0⟩]

/-- The first display was rescaled, and the second one moved. -/
def wallAfter : List DisplayRect :=
  [⟨['D', 'P', '1'], 0, 0, 2048, 1440, 0⟩, ⟨['D', 'P', '2'], 2048, 0, 2560, 1440, 0⟩]

theorem remap_rescaled_wall :
    RemapsInto wallBefore wallAfter 2560 0 ⟨['D', 'P', '2'], 2560, 0, 2560, 1440, 0⟩
      ⟨['D', 'P', '2'], 2048, 0, 2560, 1440, 0⟩ := by
  have first : FirstAt (fun other : DisplayRect => other.span.Contains 2560 0) wallBefore 1
      ⟨['D', 'P', '2'], 2560, 0, 2560, 1440, 0⟩ :=
    (find?_zipIdx_eq_some_iff _).1 (by decide)
  have pairing : ∃ place, FirstAt (fun other : DisplayRect => other.name = ['D', 'P', '2'])
      wallAfter place ⟨['D', 'P', '2'], 2048, 0, 2560, 1440, 0⟩ :=
    (find?_eq_some_iff_firstAt _).1 (by decide)
  exact (desktop_rect_and_remap.2 wallBefore wallAfter (by decide) (by decide) 2560 0).1 _ _
    ⟨1, first, pairing⟩

/-- The only column of a display is its last one as well, and it is mapped to the first of five. -/
theorem single_column_misses_last :
    (∀ rect ∈ [(⟨['A'], 0, 0, 1, 1, 0⟩ : DisplayRect), ⟨['A'], 0, 0, 5, 5, 0⟩], rect.Proper) ∧
      Matched [⟨['A'], 0, 0, 1, 1, 0⟩] [⟨['A'], 0, 0, 5, 5, 0⟩] 0 0 ⟨['A'], 0, 0, 1, 1, 0⟩
        ⟨['A'], 0, 0, 5, 5, 0⟩ ∧
      (0 : Int32) = 0 + 1 - 1 ∧
      (remapToLiveLayout 0 0 [⟨['A'], 0, 0, 1, 1, 0⟩] [⟨['A'], 0, 0, 5, 5, 0⟩]).1 = 0 ∧
      (0 : Int32) ≠ 0 + 5 - 1 := by
  have first : FirstAt (fun other : DisplayRect => other.span.Contains 0 0)
      [⟨['A'], 0, 0, 1, 1, 0⟩] 0 ⟨['A'], 0, 0, 1, 1, 0⟩ :=
    (find?_zipIdx_eq_some_iff _).1 (by decide)
  have pairing : ∃ place, FirstAt (fun other : DisplayRect => other.name = ['A'])
      [⟨['A'], 0, 0, 5, 5, 0⟩] place ⟨['A'], 0, 0, 5, 5, 0⟩ :=
    (find?_eq_some_iff_firstAt _).1 (by decide)
  exact ⟨by decide, ⟨0, first, pairing⟩, by decide, by decide, by decide⟩

end Remap

end SubnetDesk.DisplayService
