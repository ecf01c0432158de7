import Mathlib.Data.List.ReduceOption
import SubnetDesk.Foundation.FilePath
import SubnetDesk.Proof.Drm.PictureSize

namespace SubnetDesk.Drm

/-- A fold over the indexed list keeps a fact that each turn carries from its index to the next. -/
theorem foldl_zipIdx_keeps {α σ : Type} (step : σ → α × Nat → σ) (fact : Nat → σ → Prop)
    (items : List α)
    (turn : ∀ index item state, items[index]? = some item → fact index state →
      fact (index + 1) (step state (item, index)))
    (state : σ) (start : fact 0 state) : fact items.length (items.zipIdx.foldl step state) := by
  have upTo (count : Nat) (inside : count ≤ items.length) :
      fact count ((items.zipIdx.take count).foldl step state) := by
    induction count with
    | zero => exact start
    | succ count ih =>
        have entry : items.zipIdx[count]? = some (items[count], count) := by
          rw [List.getElem?_zipIdx, List.getElem?_eq_getElem inside]
          simp
        rw [List.take_add_one, entry, List.foldl_append]
        exact turn count items[count] _ (List.getElem?_eq_getElem inside) (ih (by omega))
  have whole := upTo items.length le_rfl
  rwa [List.take_of_length_le (by simp)] at whole

theorem isFree_iff {taken : List Bool} {output : Nat} :
    isFree taken output = true ↔ taken[output]? = some false := by
  simp [isFree]

theorem isMatched_iff {matched : List (Option Nat)} {index : Nat} :
    isMatched matched index = true ↔ ∃ output, matched[index]? = some (some output) := by
  rw [isMatched, Option.isSome_iff_exists]
  exact exists_congr fun output => Option.join_eq_some_iff

/-- The first free output is free and fits. -/
theorem firstFree_some {outputs : List WaylandDisplayInfo} {taken : List Bool}
    {test : WaylandDisplayInfo → Bool} {output : Nat}
    (found : firstFree outputs taken test = some output) :
    taken[output]? = some false ∧ ∃ info, outputs[output]? = some info ∧ test info = true := by
  have passed := List.find?_some found
  rw [Bool.and_eq_true, isFree_iff, Option.any_eq_true_iff_get] at passed
  obtain ⟨free, present, passes⟩ := passed
  exact ⟨free, outputs[output]?.get present, (Option.some_get present).symm, passes⟩

/-- Without one every fitting output is taken. -/
theorem firstFree_none {outputs : List WaylandDisplayInfo} {taken : List Bool}
    {test : WaylandDisplayInfo → Bool} (none_ : firstFree outputs taken test = none)
    {output : Nat} {info : WaylandDisplayInfo} (present : outputs[output]? = some info)
    (passes : test info = true) : taken[output]? ≠ some false := by
  intro free
  have inside : output < outputs.length := (List.getElem?_eq_some_iff.mp present).1
  have refused := List.find?_eq_none.mp none_ output (List.mem_range.mpr inside)
  apply refused
  rw [isFree_iff.mpr free, present]
  exact passes

/-- The taken outputs are exactly those of the matched displays, and no two displays share one. -/
structure Pairing.Sound (outputs : List WaylandDisplayInfo) (pairing : Pairing) : Prop where
  size : pairing.taken.length = outputs.length
  marked : ∀ output, pairing.taken[output]? = some true ↔
    ∃ index : Nat, pairing.matched[index]? = some (some output)
  once : ∀ first second output : Nat, pairing.matched[first]? = some (some output) →
    pairing.matched[second]? = some (some output) → first = second

section Sound

variable {outputs : List WaylandDisplayInfo} {pairing : Pairing}

/-- A pair changes one display. -/
theorem Pairing.pair_matched {index output other : Nat} {found : Option Nat}
    (open_ : pairing.matched[index]? = some none) :
    (pairing.pair index output).matched[other]? = some found ↔
      (other = index ∧ found = some output) ∨
        (other ≠ index ∧ pairing.matched[other]? = some found) := by
  have inside : index < pairing.matched.length := (List.getElem?_eq_some_iff.mp open_).1
  rw [Pairing.pair, List.getElem?_set]
  by_cases same : index = other
  · subst same
    simp [inside, eq_comm]
  · simp [same, Ne.symm same]

/-- A free output for an open display. -/
theorem Pairing.Sound.pair (sound : pairing.Sound outputs) {index output : Nat}
    (open_ : pairing.matched[index]? = some none) (free : pairing.taken[output]? = some false) :
    (pairing.pair index output).Sound outputs := by
  have unowned (other : Nat) : pairing.matched[other]? ≠ some (some output) := by
    intro owned
    rw [(sound.marked output).mpr ⟨other, owned⟩] at free
    cases free
  have inside : output < pairing.taken.length := (List.getElem?_eq_some_iff.mp free).1
  refine ⟨?_, fun other => ?_, fun first second other left right => ?_⟩
  · rw [Pairing.pair, List.length_set, sound.size]
  · show (pairing.taken.set output true)[other]? = some true ↔ _
    rw [List.getElem?_set]
    by_cases same : output = other
    · subst same
      rw [if_pos rfl, if_pos inside]
      exact iff_of_true rfl ⟨index, (Pairing.pair_matched open_).mpr (.inl ⟨rfl, rfl⟩)⟩
    · rw [if_neg same, sound.marked other]
      refine exists_congr fun holder => ?_
      rw [Pairing.pair_matched open_]
      constructor
      · intro held
        refine .inr ⟨?_, held⟩
        rintro rfl
        rw [open_] at held
        cases held
      · rintro (⟨-, found⟩ | ⟨-, held⟩)
        · exact absurd (Option.some.inj found).symm same
        · exact held
  · rw [Pairing.pair_matched open_] at left right
    rcases left with ⟨rfl, found⟩ | ⟨-, held⟩
    · obtain rfl := Option.some.inj found
      rcases right with ⟨rfl, -⟩ | ⟨-, held⟩
      · rfl
      · exact absurd held (unowned second)
    · rcases right with ⟨rfl, found⟩ | ⟨-, held_⟩
      · obtain rfl := Option.some.inj found
        exact absurd held (unowned first)
      · exact sound.once first second other held held_

end Sound

theorem isMatched_false {matched : List (Option Nat)} {index : Nat} (inside : index < matched.length)
    (unmatched : ¬ isMatched matched index = true) : matched[index]? = some none := by
  have entry : matched[index]? = some matched[index] := List.getElem?_eq_getElem inside
  cases found : matched[index] with
  | none => rw [entry, found]
  | some output => exact absurd (isMatched_iff.mpr ⟨output, entry.trans (congrArg some found)⟩) unmatched

/-- One turn leaves the pairing, or pairs an open display with a free output that passes a test. -/
def Pairing.Turn (test : Nat → Prop) (pairing next : Pairing) (index : Nat) : Prop :=
  next = pairing ∨ ∃ output, pairing.matched[index]? = some none ∧
    pairing.taken[output]? = some false ∧ test output ∧ next = pairing.pair index output

/-- Two displays or outputs have the same normalized name. -/
def Named (drm : List DrmDisplayInfo) (outputs : List WaylandDisplayInfo) (index output : Nat) : Prop :=
  ∃ display info, drm[index]? = some display ∧ outputs[output]? = some info ∧
    normalizeConnector info.name = normalizeConnector display.name

section Turns

variable {drm : List DrmDisplayInfo} {outputs : List WaylandDisplayInfo} {pairing : Pairing}
  {index : Nat} {display : DrmDisplayInfo}

variable (outputs) in
/-- The names decide one turn. -/
theorem matchName_turn (found : drm[index]? = some display)
    (open_ : pairing.matched[index]? = some none) :
    pairing.Turn (Named drm outputs index) (matchName outputs pairing (display, index)) index := by
  unfold matchName
  split
  next output free =>
    obtain ⟨untaken, info, present, same⟩ := firstFree_some free
    exact .inr ⟨output, open_, untaken, ⟨display, info, found, present, of_decide_eq_true same⟩, rfl⟩
  next => exact .inl rfl

/-- The sizes decide one turn. -/
theorem matchResolution_turn (inside : index < pairing.matched.length) :
    pairing.Turn (fun _ => True) (matchResolution drm outputs pairing (display, index)) index := by
  unfold matchResolution
  split
  next => exact .inl rfl
  next unmatched =>
    have open_ := isMatched_false inside unmatched
    dsimp only
    split
    next output only =>
      split
      next =>
        have member : output ∈ (List.range outputs.length).filter fun output =>
            isFree pairing.taken output && outputs[output]?.any (sameSize display) := by
          rw [only]
          exact List.mem_singleton_self output
        have free := (List.mem_filter.mp member).2
        rw [Bool.and_eq_true, isFree_iff] at free
        exact .inr ⟨output, open_, free.1, trivial, rfl⟩
      next => exact .inl rfl
    next => exact .inl rfl

/-- The places decide one turn. -/
theorem matchLayout_turn (inside : index < pairing.matched.length) :
    pairing.Turn (fun _ => True) (matchLayout outputs pairing (display, index)) index := by
  unfold matchLayout
  split
  next => exact .inl rfl
  next unmatched =>
    have open_ := isMatched_false inside unmatched
    split
    next output chosen =>
      refine .inr ⟨output, open_, ?_, trivial, rfl⟩
      rcases Option.or_eq_some_iff.mp chosen with sized | ⟨-, next_⟩
      · exact (firstFree_some sized).1
      · obtain ⟨inside, free, -⟩ := List.findIdx?_eq_some_iff_getElem.mp next_
        rw [List.getElem?_eq_getElem inside]
        simpa using free
    next => exact .inl rfl

/-- A turn keeps a pairing sound. -/
theorem Pairing.Turn.sound {test : Nat → Prop} {next : Pairing} (turn : pairing.Turn test next index)
    (sound : pairing.Sound outputs) : next.Sound outputs := by
  rcases turn with rfl | ⟨output, open_, free, -, rfl⟩
  · exact sound
  · exact sound.pair open_ free

theorem Pairing.Turn.length {test : Nat → Prop} {next : Pairing} (turn : pairing.Turn test next index) :
    next.matched.length = pairing.matched.length := by
  rcases turn with rfl | ⟨output, -, -, -, rfl⟩
  · rfl
  · exact List.length_set

/-- A turn adds at most the match of its own display. -/
theorem Pairing.Turn.matched {test : Nat → Prop} {next : Pairing} (turn : pairing.Turn test next index)
    {other output : Nat} (found : next.matched[other]? = some (some output)) :
    pairing.matched[other]? = some (some output) ∨ (other = index ∧ test output) := by
  rcases turn with rfl | ⟨chosen, open_, free, passes, rfl⟩
  · exact .inl found
  · rcases (Pairing.pair_matched open_).mp found with ⟨rfl, same⟩ | ⟨-, old⟩
    · obtain rfl := Option.some.inj same
      exact .inr ⟨rfl, passes⟩
    · exact .inl old

/-- A turn keeps what is matched. -/
theorem Pairing.Turn.keeps {test : Nat → Prop} {next : Pairing} (turn : pairing.Turn test next index)
    {other output : Nat} (found : pairing.matched[other]? = some (some output)) :
    next.matched[other]? = some (some output) := by
  rcases turn with rfl | ⟨chosen, open_, -, -, rfl⟩
  · exact found
  · refine (Pairing.pair_matched open_).mpr (.inr ⟨?_, found⟩)
    rintro rfl
    rw [open_] at found
    cases found

/-- A turn changes its own display only. -/
theorem Pairing.Turn.opens {test : Nat → Prop} {next : Pairing} (turn : pairing.Turn test next index)
    {other : Nat} (different : other ≠ index) :
    next.matched[other]? = pairing.matched[other]? := by
  rcases turn with rfl | ⟨chosen, -, -, -, rfl⟩
  · rfl
  · exact List.getElem?_set_ne different.symm

end Turns

/-- The pairing before the first loop. -/
def emptyPairing (drm : List DrmDisplayInfo) (outputs : List WaylandDisplayInfo) : Pairing :=
  ⟨List.replicate outputs.length false, List.replicate drm.length none⟩

/-- The empty pairing is sound. -/
theorem emptyPairing_sound (drm : List DrmDisplayInfo) (outputs : List WaylandDisplayInfo) :
    (emptyPairing drm outputs).Sound outputs where
  size := List.length_replicate
  marked output := by
    simp [emptyPairing, List.getElem?_replicate]
  once first second output found := by
    simp [emptyPairing, List.getElem?_replicate] at found

/-- The pairing after the first loop. -/
def namedPairing (drm : List DrmDisplayInfo) (outputs : List WaylandDisplayInfo) : Pairing :=
  drm.zipIdx.foldl (matchName outputs) (emptyPairing drm outputs)

/-- The pairing after the second loop. -/
def identityPairing (drm : List DrmDisplayInfo) (outputs : List WaylandDisplayInfo) : Pairing :=
  drm.zipIdx.foldl (matchResolution drm outputs) (namedPairing drm outputs)

theorem identityMatches_eq (drm : List DrmDisplayInfo) (outputs : List WaylandDisplayInfo) :
    identityMatches drm outputs = (identityPairing drm outputs).matched := rfl

/-- The first loop has come to an index: the displays from there on are open, and those before it are
matched by name. -/
structure NamedUpTo (drm : List DrmDisplayInfo) (outputs : List WaylandDisplayInfo) (index : Nat)
    (pairing : Pairing) : Prop where
  sound : pairing.Sound outputs
  length : pairing.matched.length = drm.length
  ahead : ∀ other, index ≤ other → other < drm.length → pairing.matched[other]? = some none
  named : ∀ other output : Nat, pairing.matched[other]? = some (some output) →
    Named drm outputs other output

/-- A turn names one more display. -/
theorem matchName_namedUpTo {drm : List DrmDisplayInfo} {outputs : List WaylandDisplayInfo}
    {index : Nat} {display : DrmDisplayInfo} {pairing : Pairing} (found : drm[index]? = some display)
    (before : NamedUpTo drm outputs index pairing) :
    NamedUpTo drm outputs (index + 1) (matchName outputs pairing (display, index)) := by
  have inside : index < drm.length := (List.getElem?_eq_some_iff.mp found).1
  have turn := matchName_turn outputs found (before.ahead index le_rfl inside)
  refine ⟨turn.sound before.sound, turn.length.trans before.length, fun other after short => ?_,
    fun other output matched => ?_⟩
  · rw [turn.opens (by omega)]
    exact before.ahead other (by omega) short
  · rcases turn.matched matched with old | ⟨rfl, named⟩
    · exact before.named other output old
    · exact named

/-- The first pass names every display. -/
theorem namedPairing_upTo (drm : List DrmDisplayInfo) (outputs : List WaylandDisplayInfo) :
    NamedUpTo drm outputs drm.length (namedPairing drm outputs) := by
  refine foldl_zipIdx_keeps (matchName outputs) (NamedUpTo drm outputs) drm
    (fun index display pairing found before => matchName_namedUpTo found before) _ ?_
  refine ⟨emptyPairing_sound drm outputs, List.length_replicate, fun other _ short => ?_,
    fun other output matched => ?_⟩
  · simp [emptyPairing, short]
  · simp [emptyPairing, List.getElem?_replicate] at matched

/-- A later loop keeps the matches of an earlier one. -/
structure Extends (outputs : List WaylandDisplayInfo) (first next : Pairing) : Prop where
  sound : next.Sound outputs
  length : next.matched.length = first.matched.length
  keeps : ∀ index output : Nat, first.matched[index]? = some (some output) →
    next.matched[index]? = some (some output)

/-- A turn extends a pairing. -/
theorem Extends.turn {outputs : List WaylandDisplayInfo} {first pairing next : Pairing} {index : Nat}
    {test : Nat → Prop} (extends_ : Extends outputs first pairing)
    (turn : pairing.Turn test next index) : Extends outputs first next :=
  ⟨turn.sound extends_.sound, turn.length.trans extends_.length,
    fun other output found => turn.keeps (extends_.keeps other output found)⟩

/-- The second pass keeps the names. -/
theorem identityPairing_extends (drm : List DrmDisplayInfo) (outputs : List WaylandDisplayInfo) :
    Extends outputs (namedPairing drm outputs) (identityPairing drm outputs) := by
  have named := namedPairing_upTo drm outputs
  refine foldl_zipIdx_keeps (matchResolution drm outputs)
    (fun _ pairing => Extends outputs (namedPairing drm outputs) pairing) drm
    (fun index display pairing found extends_ => ?_) _
    ⟨named.sound, rfl, fun _ _ found => found⟩
  refine extends_.turn (matchResolution_turn ?_)
  rw [extends_.length, named.length]
  exact (List.getElem?_eq_some_iff.mp found).1

theorem identityMatches_length (drm : List DrmDisplayInfo) (outputs : List WaylandDisplayInfo) :
    (identityMatches drm outputs).length = drm.length :=
  (identityPairing_extends drm outputs).length.trans (namedPairing_upTo drm outputs).length

/-- The marks of the matched outputs. -/
theorem foldl_set_getElem? (chosen : List Nat) (taken : List Bool) (output : Nat)
    (inside : output < taken.length) :
    (chosen.foldl (fun taken output => taken.set output true) taken)[output]? = some true ↔
      taken[output]? = some true ∨ output ∈ chosen := by
  induction chosen generalizing taken with
  | nil => simp
  | cons first rest ih =>
      rw [List.foldl_cons, ih _ (by rwa [List.length_set]), List.getElem?_set, List.mem_cons]
      by_cases same : first = output
      · subst same
        simp [inside]
      · simp [same, Ne.symm same]

theorem foldl_set_length (chosen : List Nat) (taken : List Bool) :
    (chosen.foldl (fun taken output => taken.set output true) taken).length = taken.length := by
  induction chosen generalizing taken with
  | nil => rfl
  | cons first rest ih => rw [List.foldl_cons, ih, List.length_set]

/-- The pairing before the loop over the layout order. -/
def resumedPairing (drm : List DrmDisplayInfo) (outputs : List WaylandDisplayInfo) : Pairing :=
  ⟨(identityMatches drm outputs).reduceOption.foldl (fun taken output => taken.set output true)
    (List.replicate outputs.length false), identityMatches drm outputs⟩

/-- A matched output is one of the list. -/
theorem Pairing.Sound.inside {outputs : List WaylandDisplayInfo} {pairing : Pairing}
    (sound : pairing.Sound outputs) {index output : Nat}
    (found : pairing.matched[index]? = some (some output)) : output < outputs.length := by
  have marked := (sound.marked output).mpr ⟨index, found⟩
  rw [← sound.size]
  exact (List.getElem?_eq_some_iff.mp marked).1

/-- The resumed pairing is sound. -/
theorem resumedPairing_sound (drm : List DrmDisplayInfo) (outputs : List WaylandDisplayInfo) :
    (resumedPairing drm outputs).Sound outputs := by
  have sound := (identityPairing_extends drm outputs).sound
  refine ⟨?_, fun output => ?_, fun first second output => sound.once first second output⟩
  · rw [resumedPairing, foldl_set_length, List.length_replicate]
  · have chosen : output ∈ (identityMatches drm outputs).reduceOption ↔
        ∃ index : Nat, (identityMatches drm outputs)[index]? = some (some output) := by
      rw [List.reduceOption_mem_iff, List.mem_iff_getElem?]
    by_cases inside : output < outputs.length
    · rw [resumedPairing, foldl_set_getElem? _ _ _ (by rwa [List.length_replicate]), chosen]
      simp [inside]
    · refine iff_of_false (fun marked => inside ?_) ?_
      · have short := (List.getElem?_eq_some_iff.mp marked).1
        rwa [resumedPairing, foldl_set_length, List.length_replicate] at short
      · rintro ⟨index, found⟩
        exact inside (sound.inside found)

/-- The layout order leaves a display unmatched only where every output is taken. -/
structure Filled (drm : List DrmDisplayInfo) (outputs : List WaylandDisplayInfo) (index : Nat)
    (pairing : Pairing) : Prop where
  extends_ : Extends outputs (resumedPairing drm outputs) pairing
  filled : ∀ other, other < index → pairing.matched[other]? = some none →
    ∀ output, output < outputs.length → pairing.taken[output]? = some true

theorem Pairing.Turn.taken {test : Nat → Prop} {pairing next : Pairing} {index : Nat}
    (turn : pairing.Turn test next index) {output : Nat} (taken : pairing.taken[output]? = some true) :
    next.taken[output]? = some true := by
  rcases turn with rfl | ⟨chosen, -, -, -, rfl⟩
  · exact taken
  · have inside := (List.getElem?_eq_some_iff.mp taken).1
    show (pairing.taken.set chosen true)[output]? = some true
    rw [List.getElem?_set]
    split
    next same =>
      rw [same, if_pos inside]
    next => exact taken

/-- A display that the layout order leaves unmatched sees no free output. -/
theorem matchLayout_open {outputs : List WaylandDisplayInfo} {pairing : Pairing} {index : Nat}
    {display : DrmDisplayInfo} (sound : pairing.Sound outputs)
    (inside : index < pairing.matched.length)
    (open_ : (matchLayout outputs pairing (display, index)).matched[index]? = some none) :
    ∀ output, output < outputs.length →
      (matchLayout outputs pairing (display, index)).taken[output]? = some true := by
  unfold matchLayout at open_ ⊢
  split at open_
  next matched =>
    obtain ⟨output, found⟩ := isMatched_iff.mp matched
    rw [open_] at found
    cases found
  next unmatched =>
    rw [if_neg unmatched]
    split at open_
    next output chosen =>
      have paired : (pairing.pair index output).matched[index]? = some (some output) :=
        (Pairing.pair_matched (isMatched_false inside unmatched)).mpr (.inl ⟨rfl, rfl⟩)
      rw [open_] at paired
      cases paired
    next none_ =>
      intro output short
      obtain ⟨-, all⟩ := Option.or_eq_none_iff.mp none_
      rw [← sound.size] at short
      have full := List.findIdx?_eq_none_iff.mp all _ (List.getElem_mem short)
      rw [List.getElem?_eq_getElem short]
      simpa using full

/-- The last pass fills the displays. -/
theorem assignWaylandOutputs_filled (drm : List DrmDisplayInfo) (outputs : List WaylandDisplayInfo) :
    ∃ pairing, assignWaylandOutputs drm outputs = pairing.matched ∧
      Filled drm outputs drm.length pairing := by
  refine ⟨_, rfl, ?_⟩
  refine foldl_zipIdx_keeps (matchLayout outputs) (Filled drm outputs) drm
    (fun index display pairing found before => ?_) _
    ⟨⟨resumedPairing_sound drm outputs, rfl, fun _ _ found => found⟩, fun _ short => by omega⟩
  have inside : index < pairing.matched.length := by
    rw [before.extends_.length]
    exact (identityMatches_length drm outputs).symm ▸ (List.getElem?_eq_some_iff.mp found).1
  have turn : pairing.Turn (fun _ => True) (matchLayout outputs pairing (display, index)) index :=
    matchLayout_turn inside
  refine ⟨before.extends_.turn turn, fun other short open_ => ?_⟩
  by_cases same : other = index
  · subst same
    exact matchLayout_open before.extends_.sound inside open_
  · intro output within
    rw [turn.opens same] at open_
    exact turn.taken (before.filled other (by omega) open_ output within)

/-- A connector whose name no other connector shares is matched by the first loop where an output has
that name. -/
theorem namedPairing_unique {drm : List DrmDisplayInfo} {outputs : List WaylandDisplayInfo}
    {index output : Nat} (named : Named drm outputs index output)
    (unique : ∀ other display first, drm[other]? = some display → drm[index]? = some first →
      normalizeConnector display.name = normalizeConnector first.name → other = index) :
    ∃ chosen, (namedPairing drm outputs).matched[index]? = some (some chosen) := by
  obtain ⟨own, info, listed, present, same⟩ := named
  have inside : index < drm.length := (List.getElem?_eq_some_iff.mp listed).1
  have reached := foldl_zipIdx_keeps (matchName outputs)
    (fun count pairing => NamedUpTo drm outputs count pairing ∧
      (index < count → ∃ chosen, pairing.matched[index]? = some (some chosen))) drm
    (fun count display pairing found before => ?_) (emptyPairing drm outputs) ?_
  · exact reached.2 inside
  · obtain ⟨upTo, done⟩ := before
    have turn := matchName_turn outputs found
      (upTo.ahead count le_rfl (List.getElem?_eq_some_iff.mp found).1)
    refine ⟨matchName_namedUpTo found upTo, fun after => ?_⟩
    by_cases earlier : index < count
    · obtain ⟨chosen, matched⟩ := done earlier
      exact ⟨chosen, turn.keeps matched⟩
    · obtain rfl : count = index := by omega
      obtain rfl : own = display := Option.some.inj (listed.symm.trans found)
      have free : pairing.taken[output]? = some false := by
        have short : output < pairing.taken.length := by
          rw [upTo.sound.size]
          exact (List.getElem?_eq_some_iff.mp present).1
        cases taken : pairing.taken[output] with
        | false => rw [List.getElem?_eq_getElem short, taken]
        | true =>
            obtain ⟨other, held⟩ := (upTo.sound.marked output).mp
              ((List.getElem?_eq_getElem short).trans (congrArg some taken))
            obtain ⟨display, shown, at_, there, alike⟩ := upTo.named other output held
            obtain rfl : info = shown := Option.some.inj (present.symm.trans there)
            obtain rfl := unique other display own at_ listed (alike.symm.trans same)
            rw [upTo.ahead other le_rfl inside] at held
            cases held
      unfold matchName
      split
      next chosen _ =>
        exact ⟨chosen, (Pairing.pair_matched (upTo.ahead count le_rfl inside)).mpr (.inl ⟨rfl, rfl⟩)⟩
      next none_ => exact absurd free (firstFree_none none_ present (decide_eq_true same))
  · exact ⟨⟨emptyPairing_sound drm outputs, List.length_replicate,
      fun other _ short => by simp [emptyPairing, short],
      fun other output matched => by simp [emptyPairing, List.getElem?_replicate] at matched⟩,
      fun short => by omega⟩

/-- The output that a name stands for. -/
def nameOutput (outputs : List WaylandDisplayInfo) (display : DrmDisplayInfo) : Option Nat :=
  (List.range outputs.length).find? fun output =>
    outputs[output]?.any fun info =>
      normalizeConnector info.name = normalizeConnector display.name

/-- The outputs of the size of a display that stand for no name. -/
def unnamedOutputs (drm : List DrmDisplayInfo) (outputs : List WaylandDisplayInfo)
    (display : DrmDisplayInfo) : List Nat :=
  (List.range outputs.length).filter fun output =>
    decide (∀ other ∈ drm, nameOutput outputs other ≠ some output) &&
      outputs[output]?.any (sameSize display)

def unnamedDisplays (drm : List DrmDisplayInfo) (outputs : List WaylandDisplayInfo)
    (display : DrmDisplayInfo) : Nat :=
  drm.countP fun other =>
    (nameOutput outputs other).isNone && other.width = display.width &&
      other.height = display.height

/-- The output that is forced by the size. -/
def sizeOutput (drm : List DrmDisplayInfo) (outputs : List WaylandDisplayInfo)
    (display : DrmDisplayInfo) : Option Nat :=
  match unnamedOutputs drm outputs display with
  | [output] => if unnamedDisplays drm outputs display = 1 then some output else none
  | _ => none

/-- The match of a display does not name its place in the list. -/
def identityOutput (drm : List DrmDisplayInfo) (outputs : List WaylandDisplayInfo)
    (display : DrmDisplayInfo) : Option Nat :=
  (nameOutput outputs display).or (sizeOutput drm outputs display)

/-- An identity depends on no order. -/
theorem identityOutput_perm {first second : List DrmDisplayInfo} (perm : first.Perm second)
    (outputs : List WaylandDisplayInfo) (display : DrmDisplayInfo) :
    identityOutput first outputs display = identityOutput second outputs display := by
  have outputs_ : unnamedOutputs first outputs display = unnamedOutputs second outputs display := by
    simp only [unnamedOutputs, perm.mem_iff]
  have displays : unnamedDisplays first outputs display = unnamedDisplays second outputs display :=
    perm.countP_eq _
  simp only [identityOutput, sizeOutput, outputs_, displays]

/-- A free output of a name is the first one of that name where no output of the name is taken. -/
theorem firstFree_name {outputs : List WaylandDisplayInfo} {taken : List Bool}
    {display : DrmDisplayInfo} (size : taken.length = outputs.length)
    (open_ : ∀ (output : Nat) info, outputs[output]? = some info →
      normalizeConnector info.name = normalizeConnector display.name → taken[output]? ≠ some true) :
    (firstFree outputs taken fun info =>
      normalizeConnector info.name = normalizeConnector display.name) =
        nameOutput outputs display := by
  refine List.find?_congr fun output member => ?_
  have short := List.mem_range.mp member
  rw [List.getElem?_eq_getElem short]
  cases same : decide (normalizeConnector outputs[output].name = normalizeConnector display.name) with
  | false => simp [same]
  | true =>
      have untaken := open_ output _ (List.getElem?_eq_getElem short) (of_decide_eq_true same)
      rw [← size] at short
      rw [List.getElem?_eq_getElem short, ne_eq, Option.some_inj, Bool.not_eq_true] at untaken
      simp [isFree, List.getElem?_eq_getElem short, untaken, same]

section Distinct

variable {drm : List DrmDisplayInfo} {outputs : List WaylandDisplayInfo}

/-- Two displays have different names. -/
theorem name_injective (distinct : (drm.map fun display => normalizeConnector display.name).Nodup)
    {first second : Nat} {left right : DrmDisplayInfo} (at_ : drm[first]? = some left)
    (there : drm[second]? = some right)
    (same : normalizeConnector left.name = normalizeConnector right.name) : first = second := by
  refine (List.getElem?_inj ?_ distinct).mp ?_
  · rw [List.length_map]
    exact (List.getElem?_eq_some_iff.mp at_).1
  · rw [List.getElem?_map, List.getElem?_map, at_, there, Option.map_some, Option.map_some, same]

variable (outputs) in
/-- With distinct names, the first loop gives every display the output of its name. -/
theorem namedPairing_distinct
    (distinct : (drm.map fun display => normalizeConnector display.name).Nodup) :
    ∀ (index : Nat) display, drm[index]? = some display →
      (namedPairing drm outputs).matched[index]? = some (nameOutput outputs display) := by
  have reached := foldl_zipIdx_keeps (matchName outputs)
    (fun count pairing => NamedUpTo drm outputs count pairing ∧
      ∀ (index : Nat) display, index < count → drm[index]? = some display →
        pairing.matched[index]? = some (nameOutput outputs display)) drm
    (fun count display pairing found before => ?_) (emptyPairing drm outputs) ?_
  · intro index display found
    exact reached.2 index display (List.getElem?_eq_some_iff.mp found).1 found
  · obtain ⟨upTo, done⟩ := before
    have inside : count < drm.length := (List.getElem?_eq_some_iff.mp found).1
    have open_ := upTo.ahead count le_rfl inside
    have turn := matchName_turn outputs found open_
    refine ⟨matchName_namedUpTo found upTo, fun index other after listed => ?_⟩
    by_cases same : index = count
    · subst same
      obtain rfl : display = other := Option.some.inj (found.symm.trans listed)
      have untaken : ∀ (output : Nat) info, outputs[output]? = some info →
          normalizeConnector info.name = normalizeConnector display.name →
            pairing.taken[output]? ≠ some true := by
        intro output info present alike taken
        obtain ⟨holder, held⟩ := (upTo.sound.marked output).mp taken
        obtain ⟨owner, shown, at_, there, name⟩ := upTo.named holder output held
        obtain rfl : info = shown := Option.some.inj (present.symm.trans there)
        obtain rfl := name_injective distinct at_ found (name.symm.trans alike)
        rw [open_] at held
        cases held
      unfold matchName
      rw [firstFree_name upTo.sound.size untaken]
      cases chosen : nameOutput outputs display with
      | none => exact open_
      | some output => exact (Pairing.pair_matched open_).mpr (.inl ⟨rfl, rfl⟩)
    · rw [turn.opens same]
      exact done index other (by omega) listed
  · exact ⟨⟨emptyPairing_sound drm outputs, List.length_replicate,
      fun other _ short => by simp [emptyPairing, short],
      fun other output matched => by simp [emptyPairing, List.getElem?_replicate] at matched⟩,
      fun _ _ short => by omega⟩

end Distinct

theorem toInt32_injective {first second : UInt32} (same : first.toInt32 = second.toInt32) :
    first = second := by
  apply UInt32.toBitVec_inj.mp
  simpa using congrArg Int32.toBitVec same

/-- Displays of the size of one output have one size. -/
theorem sameSize_size {first second : DrmDisplayInfo} {info : WaylandDisplayInfo}
    (left : sameSize first info = true) (right : sameSize second info = true) :
    first.width = second.width ∧ first.height = second.height := by
  simp only [sameSize, Bool.and_eq_true, decide_eq_true_eq] at left right
  exact ⟨toInt32_injective (left.1.symm.trans right.1), toInt32_injective (left.2.symm.trans right.2)⟩

/-- A forced size leaves one output. -/
theorem sizeOutput_same {drm : List DrmDisplayInfo} {outputs : List WaylandDisplayInfo}
    {display : DrmDisplayInfo} {output : Nat} {info : WaylandDisplayInfo}
    (forced : sizeOutput drm outputs display = some output) (present : outputs[output]? = some info) :
    sameSize display info = true := by
  unfold sizeOutput at forced
  split at forced
  next chosen only =>
    split at forced
    next =>
      obtain rfl := Option.some.inj forced
      have member : chosen ∈ unnamedOutputs drm outputs display := by
        rw [only]
        exact List.mem_singleton_self chosen
      have passed := (List.mem_filter.mp member).2
      rw [Bool.and_eq_true, present] at passed
      exact passed.2
    next => cases forced
  next => cases forced

/-- No size is forced for two displays of one size without a name. -/
theorem sizeOutput_none {drm : List DrmDisplayInfo} {outputs : List WaylandDisplayInfo}
    {first second : Nat} {other display : DrmDisplayInfo} (before : first < second)
    (at_ : drm[first]? = some other) (there : drm[second]? = some display)
    (unnamed : nameOutput outputs other = none) (unnamed_ : nameOutput outputs display = none)
    (size : other.width = display.width ∧ other.height = display.height) :
    sizeOutput drm outputs other = none := by
  obtain ⟨short, rfl⟩ := List.getElem?_eq_some_iff.mp there
  have member : other ∈ drm.take second := by
    apply List.mem_of_getElem?
    rw [List.getElem?_take_of_lt before]
    exact at_
  have many : 2 ≤ unnamedDisplays drm outputs other := by
    have whole : drm = drm.take second ++ drm[second] :: drm.drop (second + 1) := by simp
    have front : 0 < (drm.take second).countP fun display =>
        (nameOutput outputs display).isNone && display.width = other.width &&
          display.height = other.height :=
      List.countP_pos_iff.mpr ⟨other, member, by simp [unnamed]⟩
    rw [unnamedDisplays, whole, List.countP_append, List.countP_cons_of_pos (by simp [unnamed_, size])]
    omega
  unfold sizeOutput
  split
  next => rw [if_neg (by omega)]
  next => rfl

section Resolution

variable {drm : List DrmDisplayInfo} {outputs : List WaylandDisplayInfo}

/-- The second loop has come to an index: the displays before it have their matches, and the others
those of the first loop. -/
structure Resolved (drm : List DrmDisplayInfo) (outputs : List WaylandDisplayInfo) (index : Nat)
    (pairing : Pairing) : Prop where
  extends_ : Extends outputs (namedPairing drm outputs) pairing
  before : ∀ (other : Nat) display, other < index → drm[other]? = some display →
    pairing.matched[other]? = some (identityOutput drm outputs display)
  ahead : ∀ (other : Nat) display, index ≤ other → drm[other]? = some display →
    pairing.matched[other]? = some (nameOutput outputs display)

variable {count : Nat} {pairing : Pairing} {display : DrmDisplayInfo}

/-- A display of the size of an unnamed one is matched by its name only, until the loop comes to it. -/
theorem Resolved.matched_name (resolved : Resolved drm outputs count pairing)
    (found : drm[count]? = some display) (unnamed : nameOutput outputs display = none)
    {other : Nat} {shown : DrmDisplayInfo} (listed : drm[other]? = some shown)
    (size : shown.width = display.width ∧ shown.height = display.height) :
    pairing.matched[other]? = some (nameOutput outputs shown) := by
  by_cases before : other < count
  · rw [resolved.before other shown before listed, identityOutput]
    cases name : nameOutput outputs shown with
    | some output => rfl
    | none => rw [sizeOutput_none before listed found name unnamed size, Option.or_none]
  · exact resolved.ahead other shown (by omega) listed

/-- The free outputs are those without a name. -/
theorem Resolved.freeSame (resolved : Resolved drm outputs count pairing)
    (distinct : ∀ (index : Nat) display, drm[index]? = some display →
      (namedPairing drm outputs).matched[index]? = some (nameOutput outputs display))
    (found : drm[count]? = some display) (unnamed : nameOutput outputs display = none) :
    ((List.range outputs.length).filter fun output =>
      isFree pairing.taken output && outputs[output]?.any (sameSize display)) =
        unnamedOutputs drm outputs display := by
  refine List.filter_congr fun output member => ?_
  have short := List.mem_range.mp member
  rw [List.getElem?_eq_getElem short, Option.any_some]
  cases sized : sameSize display outputs[output] with
  | false => rw [Bool.and_false, Bool.and_false]
  | true =>
      rw [Bool.and_true, Bool.and_true, Bool.eq_iff_iff, isFree_iff, decide_eq_true_eq]
      have sound := resolved.extends_.sound
      have inside : output < pairing.taken.length := by rwa [sound.size]
      constructor
      · intro free other member named
        obtain ⟨index, listed⟩ := List.mem_iff_getElem?.mp member
        have held := resolved.extends_.keeps index output
          ((distinct index other listed).trans (congrArg some named))
        rw [(sound.marked output).mpr ⟨index, held⟩] at free
        cases free
      · intro nameless
        rw [List.getElem?_eq_getElem inside, Option.some_inj, ← Bool.not_eq_true]
        intro taken
        obtain ⟨index, held⟩ := (sound.marked output).mp
          ((List.getElem?_eq_getElem inside).trans (congrArg some taken))
        have listed : index < drm.length := by
          rw [← (namedPairing_upTo drm outputs).length, ← resolved.extends_.length]
          exact (List.getElem?_eq_some_iff.mp held).1
        have entry : drm[index]? = some drm[index] := List.getElem?_eq_getElem listed
        have own := nameless drm[index] (List.getElem_mem listed)
        by_cases before : index < count
        · have matched := resolved.before index _ before entry
          rw [held, Option.some_inj, identityOutput] at matched
          rcases Option.or_eq_some_iff.mp matched.symm with named | ⟨name, forced⟩
          · exact own named
          · have size := sameSize_size (sizeOutput_same forced (List.getElem?_eq_getElem short)) sized
            have named := resolved.matched_name found unnamed entry size
            rw [held, Option.some_inj] at named
            exact own named.symm
        · have matched := resolved.ahead index _ (by omega) entry
          rw [held, Option.some_inj] at matched
          exact own matched.symm

/-- The open displays are those without a name. -/
theorem Resolved.unmatchedSame (resolved : Resolved drm outputs count pairing)
    (found : drm[count]? = some display) (unnamed : nameOutput outputs display = none) :
    (drm.zipIdx.countP fun other =>
      !isMatched pairing.matched other.2 && other.1.width = display.width &&
        other.1.height = display.height) = unnamedDisplays drm outputs display := by
  have same : ∀ entry ∈ drm.zipIdx,
      (!isMatched pairing.matched entry.2 && entry.1.width = display.width &&
        entry.1.height = display.height) =
      ((nameOutput outputs entry.1).isNone && entry.1.width = display.width &&
        entry.1.height = display.height) := by
    intro entry member
    have listed : drm[entry.2]? = some entry.1 := List.mem_zipIdx_iff_getElem?.mp member
    by_cases size : entry.1.width = display.width ∧ entry.1.height = display.height
    · have matched := resolved.matched_name found unnamed listed size
      rw [isMatched, matched]
      cases nameOutput outputs entry.1 <;> rfl
    · have refused (first : Bool) : (first && decide (entry.1.width = display.width) &&
          decide (entry.1.height = display.height)) = false := by
        rw [Bool.and_assoc, ← Bool.decide_and, decide_eq_false size, Bool.and_false]
      rw [refused, refused]
  rw [unnamedDisplays, List.countP_congr fun entry member => by rw [same entry member]]
  conv_rhs => rw [← List.zipIdx_map_fst 0 drm, List.countP_map]
  rfl

/-- One turn of the second loop gives its display the match by name or by size. -/
theorem Resolved.step (resolved : Resolved drm outputs count pairing)
    (distinct : ∀ (index : Nat) display, drm[index]? = some display →
      (namedPairing drm outputs).matched[index]? = some (nameOutput outputs display))
    (found : drm[count]? = some display) :
    Resolved drm outputs (count + 1) (matchResolution drm outputs pairing (display, count)) := by
  have inside : count < pairing.matched.length := by
    rw [resolved.extends_.length, (namedPairing_upTo drm outputs).length]
    exact (List.getElem?_eq_some_iff.mp found).1
  have turn : pairing.Turn (fun _ => True) (matchResolution drm outputs pairing (display, count))
      count := matchResolution_turn inside
  refine ⟨resolved.extends_.turn turn, fun other shown before listed => ?_,
    fun other shown after listed => ?_⟩
  · by_cases same : other = count
    · subst same
      obtain rfl : display = shown := Option.some.inj (found.symm.trans listed)
      have current := resolved.ahead other display le_rfl found
      cases name : nameOutput outputs display with
      | some output =>
          rw [name] at current
          rw [turn.keeps current, identityOutput, name, Option.some_or]
      | none =>
          rw [name] at current
          have unmatched : ¬ isMatched pairing.matched other = true := by
            rw [isMatched, current]
            exact Bool.false_ne_true
          rw [matchResolution, if_neg unmatched, identityOutput, name, Option.none_or, sizeOutput]
          dsimp only
          rw [resolved.freeSame distinct found name, resolved.unmatchedSame found name]
          cases unnamedOutputs drm outputs display with
          | nil => exact current
          | cons output rest =>
              cases rest with
              | nil =>
                  dsimp only
                  by_cases alone : unnamedDisplays drm outputs display = 1
                  · rw [if_pos alone, if_pos alone]
                    exact (Pairing.pair_matched current).mpr (.inl ⟨rfl, rfl⟩)
                  · rw [if_neg alone, if_neg alone]
                    exact current
              | cons second others => exact current
    · rw [turn.opens same]
      exact resolved.before other shown (by omega) listed
  · rw [turn.opens (by omega)]
    exact resolved.ahead other shown (by omega) listed

end Resolution

/-- With distinct names, the match of a display depends on the set of the displays alone. -/
theorem identityMatches_distinct {drm : List DrmDisplayInfo} (outputs : List WaylandDisplayInfo)
    (distinct : (drm.map fun display => normalizeConnector display.name).Nodup) :
    identityMatches drm outputs = drm.map (identityOutput drm outputs) := by
  have named := namedPairing_upTo drm outputs
  have names := namedPairing_distinct outputs distinct
  have resolved : Resolved drm outputs drm.length (identityPairing drm outputs) := by
    refine foldl_zipIdx_keeps (matchResolution drm outputs) (Resolved drm outputs) drm
      (fun count display pairing found before => before.step names found) _ ?_
    exact ⟨⟨named.sound, rfl, fun _ _ found => found⟩, fun _ _ short => absurd short (Nat.not_lt_zero _),
      fun other display _ listed => names other display listed⟩
  refine List.ext_getElem? fun index => ?_
  rw [List.getElem?_map, identityMatches_eq]
  cases listed : drm[index]? with
  | some display =>
      exact resolved.before index display (List.getElem?_eq_some_iff.mp listed).1 listed
  | none =>
      rw [Option.map_none, List.getElem?_eq_none_iff, ← identityMatches_eq, identityMatches_length]
      exact List.getElem?_eq_none_iff.mp listed


/-- A normalized name is normal. -/
theorem normalizeConnector_idem (name : Name) :
    normalizeConnector (normalizeConnector name) = normalizeConnector name := by
  rw [normalizeConnector.eq_def name]
  split
  next first letter last split_ =>
    split
    next =>
      have free (part : Name) (member : part ∈ name.splitOn '-') : '-' ∉ part :=
        FileTree.splitOn_free '-' name part member
      rw [split_] at free
      have folded : (first ++ '-' :: last).splitOn '-' = [first, last] := by
        rw [List.splitOn_append_cons_self_of_not_mem (free first (by simp)),
          List.splitOn_eq_singleton (free last (by simp))]
      rw [normalizeConnector, folded]
      split
      next three => simp at three
      next => rfl
    next kept =>
      rw [normalizeConnector, split_]
      exact if_neg kept
  next other =>
    unfold normalizeConnector
    split
    next first letter last split_ => exact absurd split_ (other first letter last)
    next => rfl

/-- Every display has at most one of the outputs, and no output is given to two displays. -/
structure MatchedOnce (drm : List DrmDisplayInfo) (outputs : List WaylandDisplayInfo)
    (matched : List (Option Nat)) : Prop where
  length : matched.length = drm.length
  inside : ∀ index output : Nat, matched[index]? = some (some output) → output < outputs.length
  once : ∀ first second output : Nat, matched[first]? = some (some output) →
    matched[second]? = some (some output) → first = second

/-- No output is matched twice. -/
theorem identityMatches_once (drm : List DrmDisplayInfo) (outputs : List WaylandDisplayInfo) :
    MatchedOnce drm outputs (identityMatches drm outputs) where
  length := identityMatches_length drm outputs
  inside _ _ found := (identityPairing_extends drm outputs).sound.inside found
  once := (identityPairing_extends drm outputs).sound.once

/-- A display gets the output of its name. -/
theorem identityMatches_named {drm : List DrmDisplayInfo} {outputs : List WaylandDisplayInfo}
    {index : Nat} {display : DrmDisplayInfo} {info : WaylandDisplayInfo}
    (found : drm[index]? = some display) (present : info ∈ outputs)
    (same : normalizeConnector info.name = normalizeConnector display.name)
    (unique : ∀ (other : Nat) second, drm[other]? = some second →
      normalizeConnector second.name = normalizeConnector display.name → other = index) :
    ∃ output chosen, (identityMatches drm outputs)[index]? = some (some output) ∧
      outputs[output]? = some chosen ∧
        normalizeConnector chosen.name = normalizeConnector display.name := by
  obtain ⟨place, at_⟩ := List.mem_iff_getElem?.mp present
  obtain ⟨output, matched⟩ := namedPairing_unique ⟨display, info, found, at_, same⟩
    fun other second first listed own alike => by
      obtain rfl : display = first := Option.some.inj (found.symm.trans own)
      exact unique other second listed alike
  obtain ⟨own, chosen, listed, there, alike⟩ :=
    (namedPairing_upTo drm outputs).named index output matched
  obtain rfl : display = own := Option.some.inj (found.symm.trans listed)
  exact ⟨output, chosen, (identityPairing_extends drm outputs).keeps index output matched, there, alike⟩

/-- Another order gives the same matches. -/
theorem identityMatches_permuted {drm permuted : List DrmDisplayInfo}
    (outputs : List WaylandDisplayInfo) (perm : drm.Perm permuted)
    (distinct : (drm.map fun display => normalizeConnector display.name).Nodup) {first second : Nat}
    {display : DrmDisplayInfo} (at_ : drm[first]? = some display)
    (there : permuted[second]? = some display) :
    (identityMatches drm outputs)[first]? = (identityMatches permuted outputs)[second]? := by
  have distinct_ : (permuted.map fun display => normalizeConnector display.name).Nodup :=
    (perm.map _).nodup_iff.mp distinct
  rw [identityMatches_distinct outputs distinct, identityMatches_distinct outputs distinct_,
    List.getElem?_map, List.getElem?_map, at_, there, Option.map_some, Option.map_some,
    identityOutput_perm perm]

/-- Both assignments give each output to at most one display, the full one extends the identity and
leaves a display unmatched only where every output is taken, a name that no other display shares is
matched to an output of that name, and for distinct names the order of the displays does not matter. -/
theorem outputs_matched_once (drm : List DrmDisplayInfo) (outputs : List WaylandDisplayInfo) :
    MatchedOnce drm outputs (identityMatches drm outputs) ∧
    MatchedOnce drm outputs (assignWaylandOutputs drm outputs) ∧
    (∀ index output : Nat, (identityMatches drm outputs)[index]? = some (some output) →
      (assignWaylandOutputs drm outputs)[index]? = some (some output)) ∧
    (∀ index : Nat, (assignWaylandOutputs drm outputs)[index]? = some none →
      ∀ output, output < outputs.length →
        ∃ other : Nat, (assignWaylandOutputs drm outputs)[other]? = some (some output)) ∧
    (∀ (index : Nat) display, drm[index]? = some display →
      (∃ info ∈ outputs, info.name = normalizeConnector display.name ∨
        normalizeConnector info.name = normalizeConnector display.name) →
      (∀ (other : Nat) second, drm[other]? = some second →
        normalizeConnector second.name = normalizeConnector display.name → other = index) →
      ∃ output chosen, (identityMatches drm outputs)[index]? = some (some output) ∧
        outputs[output]? = some chosen ∧
          normalizeConnector chosen.name = normalizeConnector display.name) ∧
    (∀ permuted, drm.Perm permuted →
      (drm.map fun display => normalizeConnector display.name).Nodup →
      ∀ (first second : Nat) display, drm[first]? = some display → permuted[second]? = some display →
        (identityMatches drm outputs)[first]? = (identityMatches permuted outputs)[second]?) := by
  obtain ⟨pairing, assigned, filled⟩ := assignWaylandOutputs_filled drm outputs
  rw [assigned]
  have sound := filled.extends_.sound
  have length : pairing.matched.length = drm.length :=
    filled.extends_.length.trans (identityMatches_length drm outputs)
  refine ⟨identityMatches_once drm outputs, ⟨length, fun _ _ => sound.inside, sound.once⟩,
    filled.extends_.keeps, fun index open_ output inside => ?_,
    fun index display found named unique => ?_, fun permuted perm distinct first second display => ?_⟩
  · have short : index < drm.length := by
      rw [← length]
      exact (List.getElem?_eq_some_iff.mp open_).1
    exact (sound.marked output).mp (filled.filled index short open_ output inside)
  · obtain ⟨info, present, same⟩ := named
    refine identityMatches_named found present ?_ unique
    rcases same with exact_ | same
    · rw [exact_, normalizeConnector_idem]
    · exact same
  · exact identityMatches_permuted outputs perm distinct

end SubnetDesk.Drm
