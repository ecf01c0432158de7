import SubnetDesk.Construction.Video.Codec

namespace SubnetDesk.Codec

open WebClient (ProtocolVideoCodec)

variable {environment : Environment} {decodings : Decodings}

def SupportedDecoding.supports (decoding : SupportedDecoding) : CodecFormat → Bool
  | .vp8 => 0 < decoding.abilityVp8
  | .vp9 => 0 < decoding.abilityVp9
  | .av1 => 0 < decoding.abilityAv1
  | .h264 => 0 < decoding.abilityH264
  | .h265 => 0 < decoding.abilityH265
  | .unknown => false

/-- Every connection has declared that it can decode the codec. -/
def Common (decodings : Decodings) (codec : CodecFormat) : Prop :=
  ∀ entry ∈ decodings, entry.2.supports codec = true

instance (decodings : Decodings) (codec : CodecFormat) : Decidable (Common decodings codec) :=
  inferInstanceAs (Decidable (∀ entry ∈ decodings, _))

/-- Some codec that the host can encode is common to all connections. -/
def Possible (environment : Environment) (decodings : Decodings) : Prop :=
  ∃ codec, supportedEncoding environment codec = true ∧ Common decodings codec

/-- The chosen codec is common to all connections, where there is a common one that the host can
encode. -/
def WellChosen (environment : Environment) (negotiation : Negotiation) : Prop :=
  negotiation.decodings ≠ [] → Possible environment negotiation.decodings →
    Common negotiation.decodings negotiation.format

/-- The preferences that count, in the order in which the connections are iterated. -/
def votes (environment : Environment) (decodings : Decodings) : List EnumOrUnknown :=
  preferences (useable environment decodings) (environment.iteration.order decodings)

/-- A preference with more votes than each one that is voted for before it, and no fewer than each
one that is voted for after it. -/
def Elected (votes : List EnumOrUnknown) (prefer : EnumOrUnknown) : Prop :=
  ∃ before after, votes.eraseDups = before ++ prefer :: after ∧
    (∀ other ∈ before, votes.count other < votes.count prefer) ∧
    ∀ other ∈ after, votes.count other ≤ votes.count prefer

/-- Some automatic choice comes before VP9. -/
def AutoAvoidsVp9 (environment : Environment) (useable : Useable) : Prop :=
  useable.h265 = true ∨ useable.h264 = true ∨
    (useable.vp8 = true ∧ environment.totalMemory ≤ smallMemory) ∨
    (useable.av1 = true ∧ environment.av1Test = true)

/-- All connections can decode VP9, or no other codec is useable, or VP9 is neither elected nor, where
no preference counts, the choice that is left. -/
def Vp9Avoided (environment : Environment) (decodings : Decodings) : Prop :=
  decodings ≠ [] → Common decodings .vp9 ∨
    useable environment decodings = ⟨false, false, false, false⟩ ∨
    ¬ Elected (votes environment decodings) (.known .vp9) ∧
      (votes environment decodings = [] →
        AutoAvoidsVp9 environment (useable environment decodings))

/-- An ability is one of every viewer. -/
theorem allSupport_iff (filled : decodings ≠ []) (ability : SupportedDecoding → Int) :
    allSupport decodings ability = true ↔ ∀ entry ∈ decodings, decide (0 < ability entry.2) = true := by
  have positive := List.length_pos_iff.mpr filled
  simp only [allSupport, Bool.and_eq_true, decide_eq_true_eq, List.all_eq_true]
  exact and_iff_right positive

def Useable.has (useable : Useable) : CodecFormat → Bool
  | .vp8 => useable.vp8
  | .av1 => useable.av1
  | .h264 => useable.h264
  | .h265 => useable.h265
  | _ => false

/-- A codec other than VP9 is useable where it is common and the host can encode it. -/
theorem useable_iff (filled : decodings ≠ []) (codec : CodecFormat) (other : codec ≠ .vp9) :
    (useable environment decodings).has codec = true ↔
      supportedEncoding environment codec = true ∧ Common decodings codec := by
  cases codec with
  | vp9 => exact absurd rfl other
  | unknown => exact iff_of_false Bool.false_ne_true (Bool.false_ne_true ·.1)
  | vp8 =>
      simp only [Useable.has, useable, allSupport_iff filled]
      exact (and_iff_right rfl).symm
  | av1 =>
      simp only [Useable.has, useable, Bool.and_eq_true, allSupport_iff filled]
      exact and_comm
  | h264 =>
      simp only [Useable.has, useable, Bool.and_eq_true, allSupport_iff filled]
      exact and_comm
  | h265 =>
      simp only [Useable.has, useable, Bool.and_eq_true, allSupport_iff filled]
      exact and_comm

/-- The preferences with their counts, in the order of their first votes. -/
def tally (votes : List EnumOrUnknown) : List (EnumOrUnknown × Nat) :=
  votes.eraseDups.map fun prefer => (prefer, votes.count prefer)

theorem countPreference_absent (prefer : EnumOrUnknown) (keys : List EnumOrUnknown)
    (count : EnumOrUnknown → Nat) (absent : prefer ∉ keys) :
    countPreference prefer (keys.map fun key => (key, count key)) =
      (keys.map fun key => (key, count key)) ++ [(prefer, 1)] := by
  induction keys with
  | nil => rfl
  | cons key rest ih =>
      rw [List.mem_cons, not_or] at absent
      rw [List.map_cons, countPreference, if_neg (Ne.symm absent.1), ih absent.2, List.cons_append]

theorem countPreference_present (prefer : EnumOrUnknown) (keys : List EnumOrUnknown)
    (count : EnumOrUnknown → Nat) (distinct : keys.Nodup) (present : prefer ∈ keys) :
    countPreference prefer (keys.map fun key => (key, count key)) =
      keys.map fun key => (key, if key = prefer then count key + 1 else count key) := by
  induction keys with
  | nil => cases present
  | cons key rest ih =>
      rw [List.nodup_cons] at distinct
      rw [List.map_cons, List.map_cons, countPreference]
      by_cases same : key = prefer
      · rw [if_pos same, if_pos same, List.cons.injEq]
        refine ⟨rfl, List.map_congr_left fun other member => ?_⟩
        rw [if_neg]
        rintro rfl
        exact distinct.1 (same ▸ member)
      · rw [if_neg same, if_neg same, ih distinct.2]
        obtain rfl | later := List.mem_cons.mp present
        · exact absurd rfl same
        · exact later

theorem nodup_eraseDups (votes : List EnumOrUnknown) : votes.eraseDups.Nodup := by
  induction votes using List.reverseRecOn with
  | nil => exact List.nodup_nil
  | append_singleton votes vote ih =>
      rw [List.eraseDups_append]
      refine ih.append ?_ ?_
      · by_cases present : vote ∈ votes
        · simp [List.removeAll, present]
        · simp [List.removeAll, present, List.eraseDups_cons]
      · intro other before later
        rw [List.mem_eraseDups] at before later
        simp only [List.removeAll, List.mem_filter] at later
        simp [before] at later

/-- The loop over the preferences counts each of them. -/
theorem counts_eq_tally (votes : List EnumOrUnknown) :
    votes.foldl (fun counts prefer => countPreference prefer counts) [] = tally votes := by
  induction votes using List.reverseRecOn with
  | nil => rfl
  | append_singleton votes vote ih =>
      rw [List.foldl_append, ih, List.foldl_cons, List.foldl_nil, tally, tally]
      by_cases present : vote ∈ votes
      · rw [countPreference_present _ _ _ (nodup_eraseDups votes) (List.mem_eraseDups.mpr present)]
        have same : (votes ++ [vote]).eraseDups = votes.eraseDups := by
          rw [List.eraseDups_append]
          simp [List.removeAll, present]
        rw [same]
        refine List.map_congr_left fun key _ => ?_
        rw [List.count_append, List.count_singleton]
        by_cases key_ : key = vote
        · simp [key_]
        · simp [key_, Ne.symm key_]
      · rw [countPreference_absent _ _ _ (mt List.mem_eraseDups.mp present)]
        have more : (votes ++ [vote]).eraseDups = votes.eraseDups ++ [vote] := by
          rw [List.eraseDups_append]
          simp [List.removeAll, present, List.eraseDups_cons]
        rw [more, List.map_append, List.map_singleton]
        congr 1
        · refine List.map_congr_left fun key member => ?_
          have other : key ≠ vote := by
            rintro rfl
            exact present (List.mem_eraseDups.mp member)
          rw [List.count_append, List.count_singleton]
          simp [Ne.symm other]
        · rw [List.count_append, List.count_eq_zero_of_not_mem present]
          simp

theorem le_foldl_max (counts : List Nat) (least : Nat) :
    least ≤ counts.foldl max least ∧ ∀ count ∈ counts, count ≤ counts.foldl max least := by
  induction counts generalizing least with
  | nil => simp
  | cons count rest ih =>
      obtain ⟨start, later⟩ := ih (max least count)
      rw [List.foldl_cons, List.forall_mem_cons]
      exact ⟨(le_max_left _ _).trans start, (le_max_right _ _).trans start, later⟩

theorem foldl_max_le (counts : List Nat) (least bound : Nat) (low : least ≤ bound)
    (all : ∀ count ∈ counts, count ≤ bound) : counts.foldl max least ≤ bound := by
  induction counts generalizing least with
  | nil => exact low
  | cons count rest ih =>
      rw [List.forall_mem_cons] at all
      exact ih _ (max_le low all.1) all.2

def maxCount (votes : List EnumOrUnknown) : Nat := ((tally votes).map (·.2)).foldl max 0

/-- No codec has more votes than the first. -/
theorem count_le_maxCount (votes : List EnumOrUnknown) (prefer : EnumOrUnknown) :
    votes.count prefer ≤ maxCount votes := by
  by_cases present : prefer ∈ votes
  · refine (le_foldl_max _ 0).2 _ (List.mem_map.mpr ⟨(prefer, votes.count prefer), ?_, rfl⟩)
    exact List.mem_map.mpr ⟨prefer, List.mem_eraseDups.mpr present, rfl⟩
  · rw [List.count_eq_zero_of_not_mem present]
    exact Nat.zero_le _

/-- The first with the most votes wins. -/
theorem mostFrequent_eq (votes : List EnumOrUnknown) :
    mostFrequent votes = (votes.eraseDups.find? fun prefer =>
      decide (votes.count prefer = maxCount votes)).getD (.known .auto) := by
  unfold mostFrequent
  rw [counts_eq_tally]
  dsimp only
  rw [tally, List.find?_map, Option.map_map]
  exact congrArg (Option.getD · _) (Option.map_id' ..)

/-- The winner of the loop is the elected preference. -/
theorem elected_iff (votes : List EnumOrUnknown) (prefer : EnumOrUnknown) :
    Elected votes prefer ↔ votes.eraseDups.find? (fun prefer =>
      decide (votes.count prefer = maxCount votes)) = some prefer := by
  rw [List.find?_eq_some_iff_append]
  constructor
  · rintro ⟨before, after, split, more, least⟩
    have all : ∀ other ∈ votes.eraseDups, votes.count other ≤ votes.count prefer := by
      intro other member
      rw [split, List.mem_append, List.mem_cons] at member
      obtain member | rfl | member := member
      · exact (more other member).le
      · exact le_rfl
      · exact least other member
    have max_ : votes.count prefer = maxCount votes := by
      refine le_antisymm (count_le_maxCount votes prefer) (foldl_max_le _ 0 _ (Nat.zero_le _) ?_)
      intro count member
      simp only [tally, List.map_map, List.mem_map] at member
      obtain ⟨other, member, rfl⟩ := member
      exact all other member
    refine ⟨decide_eq_true max_, before, after, split, fun other member => ?_⟩
    have less := more other member
    simp only [Bool.not_eq_true', decide_eq_false_iff_not]
    omega
  · rintro ⟨max_, before, after, split, others⟩
    rw [decide_eq_true_eq] at max_
    refine ⟨before, after, split, fun other member => ?_, fun other _ => ?_⟩
    · have unequal := others other member
      have bound := count_le_maxCount votes other
      simp only [Bool.not_eq_true', decide_eq_false_iff_not] at unequal
      omega
    · rw [max_]
      exact count_le_maxCount votes other

/-- Some preference is elected where there is a vote. -/
theorem exists_elected (votes : List EnumOrUnknown) (filled : votes ≠ []) :
    ∃ prefer, Elected votes prefer := by
  have attained : ∃ prefer ∈ votes, votes.count prefer = maxCount votes := by
    by_contra none_
    push Not at none_
    obtain ⟨first, member⟩ := List.exists_mem_of_ne_nil votes filled
    have low : maxCount votes ≤ maxCount votes - 1 := by
      refine foldl_max_le _ 0 _ (Nat.zero_le _) fun count found => ?_
      simp only [tally, List.map_map, List.mem_map] at found
      obtain ⟨other, found, rfl⟩ := found
      have unequal := none_ other (List.mem_eraseDups.mp found)
      have bound := count_le_maxCount votes other
      simp only [Function.comp_apply]
      omega
    have positive := List.count_pos_iff.mpr member
    have bound := count_le_maxCount votes first
    omega
  obtain ⟨prefer, member, attained⟩ := attained
  have some_ : (votes.eraseDups.find? fun prefer =>
      decide (votes.count prefer = maxCount votes)).isSome = true := by
    rw [List.find?_isSome]
    exact ⟨prefer, List.mem_eraseDups.mpr member, decide_eq_true attained⟩
  obtain ⟨winner, found⟩ := Option.isSome_iff_exists.mp some_
  exact ⟨winner, (elected_iff votes winner).mpr found⟩

/-- The elected codec was voted for. -/
theorem Elected.mem {votes : List EnumOrUnknown} {prefer : EnumOrUnknown}
    (elected : Elected votes prefer) : prefer ∈ votes := by
  obtain ⟨before, after, split, -⟩ := elected
  rw [← List.mem_eraseDups, split]
  exact List.mem_append_right before List.mem_cons_self

/-- A vote is for a usable codec. -/
theorem mem_votes (prefer : EnumOrUnknown) (member : prefer ∈ votes environment decodings) :
    counted (useable environment decodings) prefer = true := by
  rw [votes, preferences, List.mem_map] at member
  obtain ⟨entry, member, rfl⟩ := member
  exact (List.mem_filter.mp member).2

/-- The preference is automatic where no preference counts, and elected otherwise. -/
theorem preference_cases (environment : Environment) (decodings : Decodings) :
    (votes environment decodings = [] ∧ preference environment decodings = .auto) ∨
    ∃ prefer, Elected (votes environment decodings) prefer ∧
      counted (useable environment decodings) prefer = true ∧
      preference environment decodings = prefer.enumValueOrAuto := by
  change _ ∨ ∃ prefer, _ ∧ _ ∧ (mostFrequent (votes environment decodings)).enumValueOrAuto = _
  by_cases empty : votes environment decodings = []
  · refine .inl ⟨empty, ?_⟩
    change (mostFrequent (votes environment decodings)).enumValueOrAuto = _
    rw [empty]
    rfl
  · obtain ⟨prefer, elected⟩ := exists_elected _ empty
    refine .inr ⟨prefer, elected, mem_votes prefer elected.mem, ?_⟩
    rw [mostFrequent_eq, (elected_iff _ _).mp elected, Option.getD_some]

/-- One codec is elected. -/
theorem Elected.unique {votes : List EnumOrUnknown} {first second : EnumOrUnknown}
    (one : Elected votes first) (other : Elected votes second) : first = second := by
  rw [elected_iff] at one other
  exact Option.some.inj (one.symm.trans other)

/-- A counted vote is for a usable codec. -/
theorem counted_cases {useable : Useable} {prefer : EnumOrUnknown}
    (met : counted useable prefer = true) :
    prefer = .known .vp9 ∨ (prefer = .known .vp8 ∧ useable.vp8 = true) ∨
      (prefer = .known .av1 ∧ useable.av1 = true) ∨ (prefer = .known .h264 ∧ useable.h264 = true) ∨
      (prefer = .known .h265 ∧ useable.h265 = true) := by
  simpa only [counted, Bool.or_eq_true, Bool.and_eq_true, decide_eq_true_eq, or_assoc] using met

/-- The automatic choice is useable where it is not VP9. -/
theorem autoCodec_cases (environment : Environment) (useable : Useable) :
    (AutoAvoidsVp9 environment useable ∧ autoCodec environment useable ≠ .vp9 ∧
      useable.has (autoCodec environment useable) = true) ∨
    (¬ AutoAvoidsVp9 environment useable ∧ autoCodec environment useable = .vp9) := by
  obtain ⟨vp8, av1, h264, h265⟩ := useable
  unfold AutoAvoidsVp9 autoCodec
  cases h265 with
  | true => exact .inl ⟨.inl rfl, by simp [Useable.has]⟩
  | false =>
      cases h264 with
      | true => exact .inl ⟨.inr (.inl rfl), by simp [Useable.has]⟩
      | false =>
          by_cases small : environment.totalMemory ≤ smallMemory <;>
            cases tested : environment.av1Test <;> cases vp8 <;> cases av1 <;>
            simp [small, Useable.has]

/-- The chosen codec is useable, or it is VP9 as elected or as the choice that is left. -/
theorem chooseFormat_cases (environment : Environment) (decodings : Decodings) :
    (chooseFormat environment decodings ≠ .vp9 ∧
      (useable environment decodings).has (chooseFormat environment decodings) = true ∧
      ¬ Elected (votes environment decodings) (.known .vp9) ∧
      (votes environment decodings = [] →
        AutoAvoidsVp9 environment (useable environment decodings))) ∨
    (chooseFormat environment decodings = .vp9 ∧
      ¬ (¬ Elected (votes environment decodings) (.known .vp9) ∧
        (votes environment decodings = [] →
          AutoAvoidsVp9 environment (useable environment decodings)))) := by
  obtain ⟨empty, auto⟩ | ⟨prefer, elected, met, chosen⟩ := preference_cases environment decodings
  · have choice : chooseFormat environment decodings =
        autoCodec environment (useable environment decodings) := by
      rw [chooseFormat, auto]
    have unelected : ¬ Elected (votes environment decodings) (.known .vp9) := by
      intro elected
      have member := elected.mem
      rw [empty] at member
      cases member
    rw [choice]
    obtain ⟨avoids, other, has⟩ | ⟨left, vp9⟩ :=
      autoCodec_cases environment (useable environment decodings)
    · exact .inl ⟨other, has, unelected, fun _ => avoids⟩
    · exact .inr ⟨vp9, fun both => left (both.2 empty)⟩
  · have filled : votes environment decodings ≠ [] := List.ne_nil_of_mem elected.mem
    have unelected : prefer ≠ .known .vp9 →
        ¬ Elected (votes environment decodings) (.known .vp9) :=
      fun other vp9 => other (elected.unique vp9)
    obtain rfl | ⟨rfl, has⟩ | ⟨rfl, has⟩ | ⟨rfl, has⟩ | ⟨rfl, has⟩ := counted_cases met
    · refine .inr ⟨?_, fun both => both.1 elected⟩
      rw [chooseFormat, chosen]
      rfl
    · refine .inl ⟨?_, ?_, unelected (by simp), fun empty => absurd empty filled⟩
      · rw [chooseFormat, chosen]
        simp [EnumOrUnknown.enumValueOrAuto]
      · rw [chooseFormat, chosen]
        exact has
    · refine .inl ⟨?_, ?_, unelected (by simp), fun empty => absurd empty filled⟩
      · rw [chooseFormat, chosen]
        simp [EnumOrUnknown.enumValueOrAuto]
      · rw [chooseFormat, chosen]
        exact has
    · have choice : chooseFormat environment decodings = .h264 := by
        rw [chooseFormat, chosen]
        exact if_pos has
      rw [choice]
      exact .inl ⟨by simp, has, unelected (by simp), fun empty => absurd empty filled⟩
    · have choice : chooseFormat environment decodings = .h265 := by
        rw [chooseFormat, chosen]
        exact if_pos has
      rw [choice]
      exact .inl ⟨by simp, has, unelected (by simp), fun empty => absurd empty filled⟩

theorem Useable.exists_has {useable : Useable} (some_ : useable ≠ ⟨false, false, false, false⟩) :
    ∃ codec, codec ≠ .vp9 ∧ useable.has codec = true := by
  by_contra none_
  push Not at none_
  apply some_
  obtain ⟨vp8, av1, h264, h265⟩ := useable
  simp only [Useable.mk.injEq]
  exact ⟨Bool.eq_false_iff.mpr (none_ .vp8 (by simp)), Bool.eq_false_iff.mpr (none_ .av1 (by simp)),
    Bool.eq_false_iff.mpr (none_ .h264 (by simp)), Bool.eq_false_iff.mpr (none_ .h265 (by simp))⟩

/-- The chosen codec is common exactly where VP9 is common or avoided. -/
theorem chooseFormat_common_iff (environment : Environment) (filled : decodings ≠ []) :
    (Possible environment decodings → Common decodings (chooseFormat environment decodings)) ↔
      Common decodings .vp9 ∨
      useable environment decodings = ⟨false, false, false, false⟩ ∨
      ¬ Elected (votes environment decodings) (.known .vp9) ∧
        (votes environment decodings = [] →
          AutoAvoidsVp9 environment (useable environment decodings)) := by
  obtain ⟨other, has, avoided⟩ | ⟨vp9, taken⟩ := chooseFormat_cases environment decodings
  · exact iff_of_true (fun _ => ((useable_iff filled _ other).mp has).2) (.inr (.inr avoided))
  · rw [vp9]
    constructor
    · intro chosen
      by_cases none_ : useable environment decodings = ⟨false, false, false, false⟩
      · exact .inr (.inl none_)
      · obtain ⟨codec, other, has⟩ := Useable.exists_has none_
        exact .inl (chosen ⟨codec, (useable_iff filled codec other).mp has⟩)
    · rintro (common | none_ | avoided) ⟨codec, supported, common_⟩
      · exact common
      · by_cases same : codec = .vp9
        · exact same ▸ common_
        · have has := (useable_iff filled codec same).mpr ⟨supported, common_⟩
          rw [none_] at has
          cases codec <;> cases has
      · exact absurd avoided taken

/-- An update chooses well on these terms. -/
theorem update_wellChosen_iff (environment : Environment) (negotiation : Negotiation)
    (input : EncodingUpdate) :
    WellChosen environment (update negotiation input environment) ↔
      Vp9Avoided environment (register negotiation.decodings input) :=
  forall_congr' fun filled => chooseFormat_common_iff environment filled

/-- The codec that a web client authenticates with. -/
def webFormat : ProtocolVideoCodec → CodecFormat
  | .h264 => .h264
  | .av1 => .av1
  | .vp9 => .vp9

theorem webDecoding_supports (codec : ProtocolVideoCodec) (format : CodecFormat)
    (supported : (webDecoding codec).supports format = true) : format = webFormat codec := by
  cases codec <;> cases format <;> first | rfl | cases supported

/-- The chosen codec is well chosen after every update exactly when VP9 is avoided at every update,
and then a web client is sent its only codec. -/
theorem negotiated_well_iff (inputs : List (EncodingUpdate × Environment)) :
    ((∀ before input after, inputs = before ++ input :: after →
        WellChosen input.2 (encoder.run .start (before ++ [input])).1) ↔
      ∀ before input after, inputs = before ++ input :: after →
        Vp9Avoided input.2 (register (encoder.run .start before).1.decodings input.1)) ∧
    ((∀ before input after, inputs = before ++ input :: after →
        Vp9Avoided input.2 (register (encoder.run .start before).1.decodings input.1)) →
      ∀ before input after, inputs = before ++ input :: after →
        ∀ id codec, (id, webDecoding codec) ∈ (encoder.run .start (before ++ [input])).1.decodings →
          Possible input.2 (encoder.run .start (before ++ [input])).1.decodings →
            (encoder.run .start (before ++ [input])).1.format = webFormat codec) := by
  have last (before : List (EncodingUpdate × Environment)) (input : EncodingUpdate × Environment) :
      (encoder.run .start (before ++ [input])).1 =
        update (encoder.run .start before).1 input.1 input.2 := by
    rw [Machine.run_append]
    rfl
  simp only [last, update_wellChosen_iff, true_and]
  intro avoided before input after split id codec member possible
  have chosen := (update_wellChosen_iff input.2 (encoder.run .start before).1 input.1).mpr
    (avoided before input after split)
  exact webDecoding_supports codec _ (chosen (List.ne_nil_of_mem member) possible _ member)

def plain : Environment where
  disableAv1 := false
  vram := false
  enableVramOption := false
  vramAvailable := fun _ => 0
  hwcodec := true
  enableHwcodecOption := true
  hwTryGet := fun codec => if codec = .h264 then some "h264_nvenc" else none
  av1Test := true
  totalMemory := 16 * 1024 * 1024 * 1024
  iteration := ⟨id, fun decodings => List.Perm.refl decodings⟩

def nativeDecoding (prefer : PreferCodec) : SupportedDecoding where
  abilityVp9 := 1
  abilityH264 := 1
  abilityH265 := 1
  prefer := .known prefer
  abilityVp8 := 1
  abilityAv1 := 1

/-- Two native clients outvote a web client that can only decode H264. -/
theorem vp9_not_common :
    ∃ inputs : List (EncodingUpdate × Environment), ∃ before input after,
      inputs = before ++ input :: after ∧
      (3, webDecoding .h264) ∈ (encoder.run .start (before ++ [input])).1.decodings ∧
      supportedEncoding input.2 .h264 = true ∧
      Common (encoder.run .start (before ++ [input])).1.decodings .h264 ∧
      (encoder.run .start (before ++ [input])).1.format = .vp9 ∧
      ¬ WellChosen input.2 (encoder.run .start (before ++ [input])).1 := by
  refine ⟨[(.update 1 (nativeDecoding .vp9), plain), (.update 2 (nativeDecoding .vp9), plain),
      (.update 3 (webDecoding .h264), plain)],
    [(.update 1 (nativeDecoding .vp9), plain), (.update 2 (nativeDecoding .vp9), plain)],
    (.update 3 (webDecoding .h264), plain), [], rfl, by decide +kernel, by decide +kernel,
    by decide +kernel, by decide +kernel, ?_⟩
  intro chosen
  have common := chosen (by decide +kernel) ⟨.h264, by decide +kernel, by decide +kernel⟩
  revert common
  decide +kernel

end SubnetDesk.Codec
