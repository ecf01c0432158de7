import SubnetDesk.Construction.Web.ConnectionLimiter

namespace SubnetDesk.WebGateway.RequestRateBudget

variable {IpAddr : Type}

/-- An entry counts as long as its window lasts. -/
def live (window now : Nat) (entry : Option (Nat × Nat)) : Option (Nat × Nat) :=
  entry.filter fun entry => now - entry.1 < window

/-- A live entry is inside its window. -/
theorem live_eq_some_iff {window now : Nat} {entry : Option (Nat × Nat)} {kept : Nat × Nat} :
    live window now entry = some kept ↔ entry = some kept ∧ now - kept.1 < window := by
  simp [live, Option.filter_eq_some_iff]

theorem live_live (window : Nat) {now later : Nat} (order : now ≤ later)
    (entry : Option (Nat × Nat)) :
    live window later (live window now entry) = live window later entry := by
  ext kept
  rw [live_eq_some_iff, live_eq_some_iff, live_eq_some_iff]
  refine ⟨fun both => ⟨both.1.1, both.2⟩, fun kept => ⟨⟨kept.1, ?_⟩, kept.2⟩⟩
  have short := kept.2
  omega

/-- The window that a call falls into, with the requests that were allowed in it. -/
def current (budget : RequestRateBudget IpAddr) (call : RateCall IpAddr) : Nat × Nat :=
  (live budget.window call.now (budget.sources call.source)).getD (call.now, 0)

/-- Expired entries are dropped before, and the restart finds none. -/
theorem restart_kept (budget : RequestRateBudget IpAddr) (positive : 0 < budget.window)
    (call : RateCall IpAddr) :
    restart budget.window call.now (((budget.retain call.now).sources call.source).getD
      (call.now, 0)) = budget.current call := by
  change restart budget.window call.now (budget.current call) = budget.current call
  refine if_neg ?_
  unfold current
  cases found : live budget.window call.now (budget.sources call.source) with
  | none => simp only [Option.getD_none]; omega
  | some entry =>
      have short := (live_eq_some_iff.mp found).2
      simp only [Option.getD_some]
      omega

theorem length_le_of_two_starts {decisions : List (RateDecision IpAddr)} {limit first second : Nat}
    (either : ∀ decision ∈ decisions, decision.started = first ∨ decision.started = second)
    (full : ∀ started, decisions.countP (fun decision => decision.started = started) ≤ limit) :
    decisions.length ≤ 2 * limit := by
  have split := List.length_eq_countP_add_countP (fun decision : RateDecision IpAddr =>
    decide (decision.started = first)) (l := decisions)
  have rest : decisions.countP (fun decision => ¬ decide (decision.started = first) = true) ≤
      decisions.countP (fun decision => decision.started = second) := by
    refine List.countP_mono_left fun decision member other => ?_
    simp only [decide_eq_true_eq] at other ⊢
    exact (either decision member).resolve_left other
  have one := full first
  have two := full second
  omega

/-- Windows that are a window length apart leave room for two of them in an interval. -/
theorem starts_of_interval {decisions : List (RateDecision IpAddr)} {window start : Nat}
    (apart : decisions.Pairwise fun earlier later =>
      earlier.started = later.started ∨ earlier.started + window ≤ later.started)
    (inWindow : ∀ decision ∈ decisions, decision.started ≤ decision.now ∧
      decision.now < decision.started + window)
    (inside : ∀ decision ∈ decisions, start ≤ decision.now ∧ decision.now ≤ start + window) :
    ∃ first second, ∀ decision ∈ decisions,
      decision.started = first ∨ decision.started = second := by
  cases decisions with
  | nil => exact ⟨0, 0, by simp⟩
  | cons head rest =>
      obtain ⟨fromHead, apart⟩ := List.pairwise_cons.mp apart
      obtain ⟨-, headShort⟩ := inWindow head List.mem_cons_self
      obtain ⟨headInside, -⟩ := inside head List.mem_cons_self
      have others := apart.filter fun decision => decide (decision.started ≠ head.started)
      cases found : rest.filter fun decision => decide (decision.started ≠ head.started) with
      | nil =>
          refine ⟨head.started, head.started, fun decision member => .inl ?_⟩
          obtain rfl | later := List.mem_cons.mp member
          · rfl
          · have same := List.filter_eq_nil_iff.mp found decision later
            simpa using same
      | cons next more =>
          rw [found] at others
          have nextMember : next ∈ rest.filter fun decision => decide (decision.started ≠
            head.started) := by rw [found]; exact List.mem_cons_self
          obtain ⟨nextLater, different⟩ := List.mem_filter.mp nextMember
          have gap := (fromHead next nextLater).resolve_left fun same => by simp [same] at different
          refine ⟨head.started, next.started, fun decision member => ?_⟩
          obtain rfl | later := List.mem_cons.mp member
          · exact .inl rfl
          · by_cases same : decision.started = head.started
            · exact .inl same
            · right
              have kept : decision ∈ next :: more := by
                rw [← found]
                exact List.mem_filter.mpr ⟨later, by simpa using same⟩
              obtain rfl | after := List.mem_cons.mp kept
              · rfl
              · obtain equal | farther := (List.pairwise_cons.mp others).1 decision after
                · exact equal.symm
                · obtain ⟨lower, -⟩ := inWindow decision member
                  obtain ⟨-, upper⟩ := inside decision member
                  omega

variable [DecidableEq IpAddr]

/-- A call counts in its own window. -/
theorem allowAt_eq (budget : RequestRateBudget IpAddr) (positive : 0 < budget.window)
    (call : RateCall IpAddr) :
    budget.allowAt call =
      ({ budget with
          sources := Function.update (fun source => live budget.window call.now
            (budget.sources source)) call.source (some ((budget.current call).1,
              if decide ((budget.current call).2 < budget.maxRequests) then
                (budget.current call).2 + 1 else (budget.current call).2)) },
        ⟨call.source, call.now, (budget.current call).1,
          decide ((budget.current call).2 < budget.maxRequests)⟩) := by
  unfold allowAt
  dsimp only
  rw [restart_kept budget positive]
  rfl

/-- Two budgets that treat the later calls of one source alike. -/
structure Alike (source : IpAddr) (now : Nat) (first second : RequestRateBudget IpAddr) : Prop where
  maxRequests : first.maxRequests = second.maxRequests
  window : first.window = second.window
  entry : ∀ later, now ≤ later → live first.window later (first.sources source) =
    live first.window later (second.sources source)

/-- A call of the source is decided alike. -/
theorem Alike.own {source : IpAddr} {now : Nat} {first second : RequestRateBudget IpAddr}
    (alike : Alike source now first second) (positive : 0 < first.window) {call : RateCall IpAddr}
    (own : call.source = source) (order : now ≤ call.now) :
    (first.allowAt call).2 = (second.allowAt call).2 ∧
      Alike source call.now (first.allowAt call).1 (second.allowAt call).1 := by
  have same : first.current call = second.current call := by
    unfold current
    rw [own, alike.entry call.now order, alike.window]
  rw [allowAt_eq first positive, allowAt_eq second (alike.window ▸ positive), same,
    alike.maxRequests]
  refine ⟨rfl, rfl, alike.window, fun later _ => ?_⟩
  dsimp only
  rw [own, Function.update_self, Function.update_self]

/-- A call of another source changes nothing. -/
theorem Alike.other {source : IpAddr} {now : Nat} {first second : RequestRateBudget IpAddr}
    (alike : Alike source now first second) (positive : 0 < first.window) {call : RateCall IpAddr}
    (other : call.source ≠ source) (order : now ≤ call.now) :
    Alike source call.now (first.allowAt call).1 second := by
  rw [allowAt_eq first positive]
  refine ⟨alike.maxRequests, alike.window, fun later after => ?_⟩
  dsimp only
  rw [Function.update_of_ne other.symm, live_live _ after]
  exact alike.entry later (order.trans after)

@[simp] theorem decision_source (budget : RequestRateBudget IpAddr) (call : RateCall IpAddr) :
    (budget.allowAt call).2.source = call.source := rfl

theorem run_cons (budget : RequestRateBudget IpAddr) (call : RateCall IpAddr)
    (calls : List (RateCall IpAddr)) :
    (machine.run budget (call :: calls)).2 =
      (budget.allowAt call).2 :: (machine.run (budget.allowAt call).1 calls).2 := rfl

/-- The calls of other sources do not change the decisions on the calls of a source. -/
theorem Alike.run {source : IpAddr} {now : Nat} {first second : RequestRateBudget IpAddr}
    (alike : Alike source now first second) (positive : 0 < first.window)
    {calls : List (RateCall IpAddr)} (ordered : calls.Pairwise fun earlier later =>
      earlier.now ≤ later.now) (after : ∀ call ∈ calls, now ≤ call.now) :
    (machine.run first calls).2.filter (fun decision => decision.source = source) =
      (machine.run second (calls.filter fun call => call.source = source)).2 := by
  induction calls generalizing now first second with
  | nil => rfl
  | cons call calls inductionHypothesis =>
      obtain ⟨later, ordered⟩ := List.pairwise_cons.mp ordered
      have order := after call (by simp)
      rw [run_cons, List.filter_cons, List.filter_cons, decision_source]
      by_cases own : call.source = source
      · obtain ⟨same, next⟩ := alike.own positive own order
        rw [if_pos (decide_eq_true own), if_pos (decide_eq_true own), run_cons, same,
          inductionHypothesis next positive ordered later]
      · rw [if_neg (by simpa using own), if_neg (by simpa using own)]
        exact inductionHypothesis (alike.other positive own order) positive ordered later

/-- The allowed requests of a source in the window with the given start. -/
def allowedIn (past : List (RateDecision IpAddr)) (source : IpAddr) (started : Nat) : Nat :=
  past.countP fun decision =>
    decision.source = source && decision.started = started && decision.allowed

/-- What the entries and the decisions so far say about each other at a reading of the clock. -/
structure Sound (maxRequests window : Nat) (budget : RequestRateBudget IpAddr)
    (past : List (RateDecision IpAddr)) (now : Nat) : Prop where
  limits : budget.maxRequests = maxRequests ∧ budget.window = window
  inWindow : ∀ decision ∈ past, decision.started ≤ decision.now ∧ decision.now ≤ now ∧
    decision.now < decision.started + window
  full : ∀ source started, allowedIn past source started ≤ maxRequests
  apart : past.Pairwise fun earlier later => earlier.source = later.source →
    earlier.started = later.started ∨ earlier.started + window ≤ later.started
  stored : ∀ source started count, budget.sources source = some (started, count) →
    started ≤ now ∧ count = allowedIn past source started ∧
      ∀ decision ∈ past, decision.source = source →
        decision.started = started ∨ decision.started + window ≤ started
  expired : ∀ source, budget.sources source = none →
    ∀ decision ∈ past, decision.source = source → decision.started + window ≤ now

theorem sound_new (maxRequests window now : Nat) :
    Sound maxRequests window (new maxRequests window : RequestRateBudget IpAddr) [] now where
  limits := ⟨rfl, rfl⟩
  inWindow := by simp
  full := by simp [allowedIn]
  apart := .nil
  stored := by simp [new]
  expired := by simp

/-- The window of a call, and the decisions before it. -/
structure CurrentWindow (window : Nat) (past : List (RateDecision IpAddr)) (call : RateCall IpAddr)
    (entry : Nat × Nat) : Prop where
  started : entry.1 ≤ call.now ∧ call.now < entry.1 + window
  count : entry.2 = allowedIn past call.source entry.1
  apart : ∀ decision ∈ past, decision.source = call.source →
    decision.started = entry.1 ∨ decision.started + window ≤ entry.1

/-- The windows of a source are over where its entry does not count any more. -/
theorem Sound.over_of_not_live {maxRequests window now later : Nat}
    {budget : RequestRateBudget IpAddr} {past : List (RateDecision IpAddr)}
    (sound : Sound maxRequests window budget past now) (order : now ≤ later) {source : IpAddr}
    (found : live budget.window later (budget.sources source) = none) :
    ∀ decision ∈ past, decision.source = source → decision.started + window ≤ later := by
  intro decision member own
  have limit := sound.limits.2
  cases stored : budget.sources source with
  | none => exact (sound.expired source stored decision member own).trans order
  | some entry =>
      obtain ⟨lower, -, apart⟩ := sound.stored source entry.1 entry.2 stored
      have long : ¬ later - entry.1 < budget.window := fun short => by
        rw [live_eq_some_iff.mpr ⟨stored, short⟩] at found
        cases found
      have before := apart decision member own
      omega

/-- The count is that of the window. -/
theorem Sound.current_spec {maxRequests window now : Nat} {budget : RequestRateBudget IpAddr}
    {past : List (RateDecision IpAddr)} (sound : Sound maxRequests window budget past now)
    (positive : 0 < window) {call : RateCall IpAddr} (order : now ≤ call.now) :
    CurrentWindow window past call (budget.current call) := by
  have limit := sound.limits.2
  unfold current
  cases found : live budget.window call.now (budget.sources call.source) with
  | some entry =>
      obtain ⟨stored, short⟩ := live_eq_some_iff.mp found
      obtain ⟨started, count, apart⟩ := sound.stored call.source entry.1 entry.2 stored
      simp only [Option.getD_some]
      exact ⟨⟨by omega, by omega⟩, count, apart⟩
  | none =>
      have over_ := sound.over_of_not_live order found
      simp only [Option.getD_none]
      refine ⟨⟨Nat.le_refl _, by omega⟩, ?_, fun decision member own =>
        .inr (over_ decision member own)⟩
      refine (List.countP_eq_zero.mpr fun decision member counted => ?_).symm
      simp only [Bool.and_eq_true, decide_eq_true_eq] at counted
      have before := over_ decision member counted.1.1
      omega

theorem allowedIn_append (past : List (RateDecision IpAddr)) (decision : RateDecision IpAddr)
    (source : IpAddr) (started : Nat) :
    allowedIn (past ++ [decision]) source started = allowedIn past source started +
      if decision.source = source ∧ decision.started = started ∧ decision.allowed = true then 1
      else 0 := by
  simp [allowedIn, List.countP_append, List.countP_singleton, and_assoc]

/-- A sound budget is sound later. -/
theorem Sound.later {maxRequests window now later : Nat} {budget : RequestRateBudget IpAddr}
    {past : List (RateDecision IpAddr)} (sound : Sound maxRequests window budget past now)
    (order : now ≤ later) : Sound maxRequests window budget past later where
  limits := sound.limits
  inWindow decision member := by
    obtain ⟨lower, upper, within⟩ := sound.inWindow decision member
    exact ⟨lower, upper.trans order, within⟩
  full := sound.full
  apart := sound.apart
  stored source started count found := by
    obtain ⟨lower, rest⟩ := sound.stored source started count found
    exact ⟨lower.trans order, rest⟩
  expired source missing decision member own :=
    (sound.expired source missing decision member own).trans order

/-- One call is sound. -/
theorem Sound.step {maxRequests window now : Nat} {budget : RequestRateBudget IpAddr}
    {past : List (RateDecision IpAddr)} (sound : Sound maxRequests window budget past now)
    (positive : 0 < window) {call : RateCall IpAddr} (order : now ≤ call.now) :
    Sound maxRequests window (budget.allowAt call).1 (past ++ [(budget.allowAt call).2])
      call.now := by
  obtain ⟨requests, limit⟩ := sound.limits
  have entry := sound.current_spec positive order
  rw [allowAt_eq budget (limit ▸ positive), requests]
  generalize budget.current call = found at entry ⊢
  obtain ⟨started, count⟩ := found
  dsimp only at entry ⊢
  have keeps : ∀ source, source ≠ call.source → ∀ window',
      allowedIn (past ++ [⟨call.source, call.now, started, decide (count < maxRequests)⟩])
        source window' = allowedIn past source window' := by
    intro source other window'
    rw [allowedIn_append, if_neg fun same => other same.1.symm, Nat.add_zero]
  refine ⟨⟨rfl, limit⟩, ?_, ?_, ?_, ?_, ?_⟩
  · intro decision member
    obtain earlier | rfl := List.mem_append.mp member |>.imp_right List.mem_singleton.mp
    · obtain ⟨lower, upper, within⟩ := sound.inWindow decision earlier
      exact ⟨lower, upper.trans order, within⟩
    · exact ⟨entry.started.1, Nat.le_refl _, entry.started.2⟩
  · intro source begin_
    have before := sound.full source begin_
    rw [allowedIn_append]
    split
    next counted =>
      obtain ⟨rfl, rfl, allowed⟩ := counted
      have room := of_decide_eq_true allowed
      have same := entry.count
      dsimp only at same ⊢
      omega
    next => exact before
  · refine List.pairwise_append.mpr ⟨sound.apart, List.pairwise_singleton _ _, ?_⟩
    intro earlier member later same own
    rw [List.mem_singleton.mp same] at own ⊢
    exact entry.apart earlier member own
  · intro source begin_ total stored
    dsimp only at stored
    by_cases own : source = call.source
    · subst own
      rw [Function.update_self] at stored
      cases stored
      refine ⟨entry.started.1, ?_, ?_⟩
      · rw [allowedIn_append, ← entry.count]
        by_cases room : count < maxRequests <;> simp [room]
      · intro decision member _
        obtain earlier | rfl := List.mem_append.mp member |>.imp_right List.mem_singleton.mp
        · exact entry.apart decision earlier (by assumption)
        · exact .inl rfl
    · rw [Function.update_of_ne own, live_eq_some_iff] at stored
      obtain ⟨lower, same, apart⟩ := sound.stored source begin_ total stored.1
      refine ⟨lower.trans order, same.trans (keeps source own begin_).symm, ?_⟩
      intro decision member its
      obtain earlier | rfl := List.mem_append.mp member |>.imp_right List.mem_singleton.mp
      · exact apart decision earlier its
      · exact absurd its.symm own
  · intro source missing decision member its
    dsimp only at missing
    by_cases own : source = call.source
    · rw [own, Function.update_self] at missing
      cases missing
    · rw [Function.update_of_ne own] at missing
      obtain earlier | rfl := List.mem_append.mp member |>.imp_right List.mem_singleton.mp
      · exact sound.over_of_not_live order missing decision earlier its
      · exact absurd its.symm own

/-- Every run is sound. -/
theorem sound_run (maxRequests : Nat) {window : Nat} (positive : 0 < window)
    (calls : List (RateCall IpAddr)) (ordered : calls.Pairwise fun earlier later =>
      earlier.now ≤ later.now) (now : Nat) (after : ∀ call ∈ calls, call.now ≤ now) :
    Sound maxRequests window (machine.run (new maxRequests window) calls).1
      (machine.run (new maxRequests window) calls).2 now := by
  induction calls using List.reverseRecOn generalizing now with
  | nil => exact sound_new maxRequests window now
  | append_singleton calls call inductionHypothesis =>
      obtain ⟨ordered, -, before⟩ := List.pairwise_append.mp ordered
      have sound := inductionHypothesis ordered call.now fun earlier member =>
        before earlier member call (by simp)
      have step := sound.step positive (Nat.le_refl call.now)
      rw [Machine.run_append, Machine.run_append_outputs]
      exact step.later (after call (by simp))

/-- Decisions within one window length fall into two windows. -/
theorem Sound.interval_le {maxRequests window now : Nat} {budget : RequestRateBudget IpAddr}
    {past : List (RateDecision IpAddr)} (sound : Sound maxRequests window budget past now)
    (source : IpAddr) (start : Nat) :
    past.countP (fun decision => decision.source = source && decision.allowed &&
      start ≤ decision.now && decision.now ≤ start + window) ≤ 2 * maxRequests := by
  have chosen : ∀ decision ∈ past.filter (fun decision => decision.source = source &&
      decision.allowed && start ≤ decision.now && decision.now ≤ start + window),
      decision ∈ past ∧ decision.source = source ∧ decision.allowed = true ∧
        start ≤ decision.now ∧ decision.now ≤ start + window := by
    intro decision member
    obtain ⟨member, kept⟩ := List.mem_filter.mp member
    simp only [Bool.and_eq_true, decide_eq_true_eq] at kept
    exact ⟨member, kept.1.1.1, kept.1.1.2, kept.1.2, kept.2⟩
  rw [List.countP_eq_length_filter]
  generalize listed : past.filter _ = decisions at chosen ⊢
  have apart : decisions.Pairwise fun earlier later =>
      earlier.started = later.started ∨ earlier.started + window ≤ later.started := by
    rw [← listed] at chosen ⊢
    refine List.Pairwise.imp_of_mem (fun {earlier later} first second away => ?_)
      (sound.apart.filter _)
    exact away ((chosen earlier first).2.1.trans (chosen later second).2.1.symm)
  obtain ⟨first, second, either⟩ := starts_of_interval apart
    (fun decision member =>
      have within := sound.inWindow decision (chosen decision member).1
      ⟨within.1, within.2.2⟩)
    fun decision member => (chosen decision member).2.2.2
  refine length_le_of_two_starts either fun started => ?_
  refine Nat.le_trans ?_ (sound.full source started)
  rw [← listed, List.countP_filter]
  refine List.countP_mono_left fun decision _ counted => ?_
  simp only [Bool.and_eq_true, decide_eq_true_eq] at counted ⊢
  exact ⟨⟨counted.2.1.1.1, counted.1⟩, counted.2.1.1.2⟩

theorem run_calls (budget : RequestRateBudget IpAddr) (calls : List (RateCall IpAddr)) :
    (machine.run budget calls).2.map (fun decision => (⟨decision.source, decision.now⟩ :
      RateCall IpAddr)) = calls := by
  induction calls generalizing budget with
  | nil => rfl
  | cons call calls inductionHypothesis =>
      rw [run_cons, List.map_cons, inductionHypothesis]
      rfl

/-- A source below its limit in the last window length is allowed. -/
theorem Sound.allowed_of_few {maxRequests window now : Nat} {budget : RequestRateBudget IpAddr}
    {past : List (RateDecision IpAddr)} (sound : Sound maxRequests window budget past now)
    (positive : 0 < window) {call : RateCall IpAddr} (order : now ≤ call.now)
    (few : past.countP (fun decision => decision.source = call.source &&
      call.now < decision.now + window) < maxRequests) :
    (budget.allowAt call).2.allowed = true := by
  obtain ⟨requests, limit⟩ := sound.limits
  have entry := sound.current_spec positive order
  rw [allowAt_eq budget (limit ▸ positive), requests]
  refine decide_eq_true (Nat.lt_of_le_of_lt ?_ few)
  rw [entry.count]
  refine List.countP_mono_left fun decision member counted => ?_
  simp only [Bool.and_eq_true, decide_eq_true_eq] at counted ⊢
  have within := (sound.inWindow decision member).1
  have short := entry.started.2
  exact ⟨counted.1.1, by omega⟩

/-- What holds of the decisions on the calls of one source. -/
structure FairFor (maxRequests window : Nat) (calls : List (RateCall IpAddr)) (source : IpAddr) :
    Prop where
  own : (machine.run (new maxRequests window) calls).2.filter
      (fun decision => decision.source = source) =
    (machine.run (new maxRequests window) (calls.filter fun call => call.source = source)).2
  windows : ∀ decision ∈ (machine.run (new maxRequests window) calls).2,
    decision.started ≤ decision.now ∧ decision.now < decision.started + window
  perWindow : ∀ started,
    allowedIn (machine.run (new maxRequests window) calls).2 source started ≤ maxRequests
  perInterval : ∀ start, (machine.run (new maxRequests window) calls).2.countP
    (fun decision => decision.source = source && decision.allowed && start ≤ decision.now &&
      decision.now ≤ start + window) ≤ 2 * maxRequests
  fewAllowed : ∀ before now after, calls = before ++ ⟨source, now⟩ :: after →
    before.countP (fun call => call.source = source && now < call.now + window) < maxRequests →
      ((machine.run (new maxRequests window) before).1.allowAt ⟨source, now⟩).2.allowed = true

/-- Every source has its own budget, whatever the other sources do. -/
theorem request_budget_fair (maxRequests window : Nat) (positive : 0 < window)
    (calls : List (RateCall IpAddr)) (ordered : calls.Pairwise fun earlier later =>
      earlier.now ≤ later.now) (source : IpAddr) : FairFor maxRequests window calls source := by
  obtain ⟨now, after⟩ : ∃ now, ∀ call ∈ calls, call.now ≤ now := by
    refine ⟨(calls.map RateCall.now).sum, fun call member => ?_⟩
    exact List.single_le_sum (by simp) _ (List.mem_map_of_mem member)
  have sound := sound_run maxRequests positive calls ordered now after
  have alike : Alike source 0 (new maxRequests window) (new maxRequests window) :=
    ⟨rfl, rfl, fun _ _ => rfl⟩
  refine ⟨alike.run positive ordered fun _ _ => Nat.zero_le _, fun decision member => ?_,
    sound.full source, sound.interval_le source, ?_⟩
  · have within := sound.inWindow decision member
    exact ⟨within.1, within.2.2⟩
  · rintro before reading later rfl few
    obtain ⟨ordered, -, earlier⟩ := List.pairwise_append.mp ordered
    have past := sound_run maxRequests positive before ordered reading
      fun call member => earlier call member ⟨source, reading⟩ List.mem_cons_self
    have order : reading ≤ (⟨source, reading⟩ : RateCall IpAddr).now := Nat.le_refl reading
    refine past.allowed_of_few positive order ?_
    have same := congrArg (List.countP fun call : RateCall IpAddr =>
      decide (call.source = source) && decide (reading < call.now + window))
      (run_calls (new maxRequests window) before)
    rw [List.countP_map] at same
    exact same ▸ few

theorem request_budget_fair_two_sources :
    FairFor 1 10 [⟨true, 0⟩, ⟨false, 5⟩, ⟨true, 5⟩, ⟨true, 12⟩] true :=
  request_budget_fair 1 10 (by decide) _ (by decide) true

end SubnetDesk.WebGateway.RequestRateBudget
