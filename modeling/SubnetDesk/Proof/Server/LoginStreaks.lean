import SubnetDesk.Construction.Server.LoginFailureCheck

namespace SubnetDesk.LoginFailureCheck

open Threads

/-- The seconds for which the failures of a streak block, from the first failure on. -/
def backoffSeconds (count : Nat) : Nat := [0, 1, 2, 4, 8, 16, 32].getD (count - 1) 60

/-- The failures since the last reset, and the time of the last one. -/
structure Streak where
  count : Nat
  last : Int
deriving DecidableEq

def Streak.blockedUntil (streak : Streak) : Int :=
  saturatingAdd streak.last (backoffSeconds streak.count * 1000)

/-- Fifteen minutes without a failure reset a streak. -/
def Streak.Idle (streak : Streak) (nowMs : Int) : Prop :=
  lanAuthBackoffIdleResetMs ≤ nowMs - streak.last

instance (streak : Streak) (nowMs : Int) : Decidable (streak.Idle nowMs) :=
  inferInstanceAs (Decidable (_ ≤ _))

def Streak.next (nowMs : Int) : Option Streak → Streak
  | some streak => if streak.Idle nowMs then ⟨1, nowMs⟩ else ⟨streak.count + 1, nowMs⟩
  | none => ⟨1, nowMs⟩

section History

variable (format : Ipv6Format)

local instance lawfulFailureKey : LawfulBEq Text := inferInstance

def streakAfter (key : Text) (streak : Option Streak) : Output → Option Streak
  | .failed _ source nowMs =>
      if key ∈ lanAuthFailureKeys format source then some (Streak.next nowMs streak) else streak
  | .cleared _ source => if source.ip = key then none else streak
  | _ => streak

/-- The streak of a key by what has happened, and not by what is stored. -/
def streakOf (past : List Output) (key : Text) : Option Streak :=
  past.foldl (streakAfter format key) none

/-- The seconds that a check has to return. -/
def expectedRetryAfter (past : List Output) (source : Source) (nowMs : Int) : Nat :=
  let live := (lanAuthFailureKeys format source).filterMap fun key =>
    (streakOf format past key).filter fun streak => ¬ streak.Idle nowMs
  (live.map fun streak => ((streak.blockedUntil - nowMs + 999) / 1000).toNat).max?.getD 0

end History

theorem backoffSeconds_late {count : Nat} (late : 8 ≤ count) : backoffSeconds count = 60 := by
  rw [backoffSeconds, List.getD_eq_getElem?_getD, List.getElem?_eq_none]
  · rfl
  · simp only [List.length_cons, List.length_nil]
    omega

theorem delaySeconds_eq {count : Nat} (positive : 0 < count) :
    delaySeconds (min count (2 ^ 32 - 1)) = backoffSeconds count := by
  by_cases small : count < 8
  · interval_cases count <;> rfl
  · have steep : min (min count (2 ^ 32 - 1) - 2) 6 = 6 := by omega
    rw [delaySeconds, if_neg (by omega), steep, backoffSeconds_late (by omega)]
    rfl

/-- A wait is at most a minute. -/
theorem backoffSeconds_le (count : Nat) : backoffSeconds count ≤ 60 := by
  by_cases small : count < 8
  · interval_cases count <;> decide
  · rw [backoffSeconds_late (by omega)]

/-- More failures wait no less. -/
theorem backoffSeconds_mono {first second : Nat} (order : first ≤ second) :
    backoffSeconds first ≤ backoffSeconds second := by
  by_cases small : second < 8
  · interval_cases second <;> interval_cases first <;> decide
  · rw [backoffSeconds_late (Nat.le_of_not_lt small)]
    exact backoffSeconds_le first

theorem clampI64_mono {first second : Int} (order : first ≤ second) :
    clampI64 first ≤ clampI64 second := by
  unfold clampI64
  omega

/-- An entry is idle after the reset time. -/
theorem isIdle_iff {state : LanAuthFailureState} {nowMs : Int} :
    state.isIdle nowMs = true ↔ lanAuthBackoffIdleResetMs ≤ nowMs - state.lastFailureMs := by
  unfold LanAuthFailureState.isIdle saturatingSub clampI64 lanAuthBackoffIdleResetMs
  rw [decide_eq_true_eq]
  omega

/-- What is stored of a streak. -/
def Streak.state (streak : Streak) : LanAuthFailureState where
  failures := min streak.count (2 ^ 32 - 1)
  retryUntilMs := streak.blockedUntil
  lastFailureMs := streak.last

theorem Streak.state_isIdle {streak : Streak} {nowMs : Int} :
    streak.state.isIdle nowMs = true ↔ streak.Idle nowMs := isIdle_iff

/-- The entry of a key is the one of its streak, and a streak without an entry is over. -/
inductive EntryFits (nowMs : Int) : Option LanAuthFailureState → Option Streak → Prop where
  | absent : EntryFits nowMs none none
  | expired (streak : Streak) (idle : streak.Idle nowMs) : EntryFits nowMs none (some streak)
  | stored (streak : Streak) (positive : 0 < streak.count) (before : streak.last ≤ nowMs) :
      EntryFits nowMs (some streak.state) (some streak)

/-- An entry fits later on. -/
theorem EntryFits.later {nowMs : Int} {entry : Option LanAuthFailureState} {streak : Option Streak}
    (fits : EntryFits nowMs entry streak) (ticks : Nat) :
    EntryFits (nowMs + ticks) entry streak := by
  cases fits with
  | absent => exact .absent
  | expired streak idle =>
      refine .expired streak ?_
      unfold Streak.Idle at *
      omega
  | stored streak positive before => exact .stored streak positive (by omega)

/-- A retained entry fits. -/
theorem EntryFits.retained {nowMs : Int} {entry : Option LanAuthFailureState}
    {streak : Option Streak} (fits : EntryFits nowMs entry streak) :
    EntryFits nowMs (entry.filter fun state => !state.isIdle nowMs) streak := by
  cases fits with
  | absent => exact .absent
  | expired streak idle => exact .expired streak idle
  | stored streak positive before =>
      rw [Option.filter_some]
      split
      next => exact .stored streak positive before
      next idle =>
        rw [Bool.not_eq_true', Bool.not_eq_false, Streak.state_isIdle] at idle
        exact .expired streak idle

/-- A recorded entry fits. -/
theorem EntryFits.recorded {nowMs : Int} {entry : Option LanAuthFailureState}
    {streak : Option Streak} (fits : EntryFits nowMs entry streak) :
    EntryFits nowMs (some ((entry.getD {}).record nowMs)) (some (Streak.next nowMs streak)) := by
  have first : ∀ state : LanAuthFailureState, state.failures = 0 ∨ state.isIdle nowMs = true →
      state.record nowMs = (Streak.mk 1 nowMs).state := by
    intro state fresh
    have none_ : (if state.isIdle nowMs then ({} : LanAuthFailureState) else state).failures = 0 := by
      cases fresh with
      | inl zero =>
          split
          next => rfl
          next => exact zero
      | inr idle => rw [if_pos idle]
    unfold LanAuthFailureState.record Streak.state Streak.blockedUntil
    dsimp only
    rw [none_]
    rfl
  cases fits with
  | absent =>
      rw [Option.getD_none, first {} (.inl rfl)]
      exact .stored _ Nat.one_pos (le_refl nowMs)
  | expired streak idle =>
      rw [Option.getD_none, first {} (.inl rfl), Streak.next, if_pos idle]
      exact .stored _ Nat.one_pos (le_refl nowMs)
  | stored streak positive before =>
      rw [Option.getD_some, Streak.next]
      by_cases idle : streak.Idle nowMs
      · rw [if_pos idle, first streak.state (.inr (Streak.state_isIdle.mpr idle))]
        exact .stored _ Nat.one_pos (le_refl nowMs)
      · rw [if_neg idle]
        have active : ¬ streak.state.isIdle nowMs = true := by
          rw [Streak.state_isIdle]
          exact idle
        have more : streak.state.record nowMs = (Streak.mk (streak.count + 1) nowMs).state := by
          have counted : min (streak.state.failures + 1) (2 ^ 32 - 1) =
              min (streak.count + 1) (2 ^ 32 - 1) := by
            dsimp only [Streak.state]
            omega
          unfold LanAuthFailureState.record
          dsimp only
          rw [if_neg active, counted, delaySeconds_eq (Nat.succ_pos _)]
          rfl
        rw [more]
        exact .stored _ (Nat.succ_pos _) (le_refl nowMs)

section Keys

variable (format : Ipv6Format)

/-- A source has one key or three. -/
theorem lanAuthFailureKeys_cases (source : Source) :
    lanAuthFailureKeys format source = [source.ip] ∨
      ∃ first second third : Text, lanAuthFailureKeys format source =
        [source.ip, first ++ "/64".toList, second ++ "/56".toList, third ++ "/48".toList] := by
  unfold lanAuthFailureKeys getIpv6Prefixes
  cases format.parse (trim (source.ip.takeWhile (· ≠ '%'))) with
  | none => exact .inl rfl
  | some address => exact .inr ⟨_, _, _, rfl⟩

/-- A prefix is never the text of an address. -/
theorem prefixKey_ne_ip (source : Source) {other : Source} {key : Text}
    (member : key ∈ (lanAuthFailureKeys format other).tail) : key ≠ source.ip := by
  have slash : '/' ∈ key := by
    rcases lanAuthFailureKeys_cases format other with keys | ⟨first, second, third, keys⟩
    · simp [keys] at member
    · rw [keys] at member
      simp only [List.tail_cons, List.mem_cons, List.not_mem_nil, or_false] at member
      rcases member with rfl | rfl | rfl
      · simp
      · simp
      · simp
  rintro rfl
  exact source.plain slash

/-- The keys of a source differ. -/
theorem lanAuthFailureKeys_nodup (source : Source) : (lanAuthFailureKeys format source).Nodup := by
  have apart {key : Text} (member : key ∈ (lanAuthFailureKeys format source).tail) :
      source.ip ≠ key := (prefixKey_ne_ip format source member).symm
  have lengths {first second left right : Text} (differ : left ≠ right)
      (same : left.length = right.length) : first ++ left ≠ second ++ right :=
    fun equal => differ (List.append_inj_right' equal same)
  rcases lanAuthFailureKeys_cases format source with keys | ⟨first, second, third, keys⟩
  · rw [keys]
    exact List.nodup_singleton _
  · rw [keys] at apart ⊢
    simp only [List.nodup_cons, List.mem_cons, List.not_mem_nil, or_false, not_or, not_false_iff,
      List.nodup_nil, and_true]
    refine ⟨⟨apart ?_, apart ?_, apart ?_⟩, ⟨lengths ?_ rfl, lengths ?_ rfl⟩, lengths ?_ rfl⟩
    · simp
    · simp
    · simp
    · decide
    · decide
    · decide

end Keys

/-- Each key is recorded once. -/
theorem foldl_recordKey {keys : List Text} (distinct : keys.Nodup) (nowMs : Int)
    (recorded : Failures × Nat) (key : Text) :
    (keys.foldl (recordKey nowMs) recorded).1 key =
      if key ∈ keys then some (((recorded.1 key).getD {}).record nowMs) else recorded.1 key := by
  induction keys generalizing recorded with
  | nil => rfl
  | cons head rest ih =>
      obtain ⟨fresh, others⟩ := List.nodup_cons.mp distinct
      rw [List.foldl_cons, recordKey, ih others]
      dsimp only
      by_cases same : key = head
      · subst same
        rw [if_neg fresh, if_pos (List.mem_cons_self ..), Function.update_self]
      · rw [Function.update_of_ne same]
        simp [same]

theorem max_tdiv_zero (value : Int) : max (value.tdiv 1000) 0 = max (value / 1000) 0 := by
  rcases Int.le_total 0 value with positive | negative
  · rw [Int.tdiv_eq_ediv_of_nonneg positive]
  · have mirrored : value.tdiv 1000 = -((-value) / 1000) := by
      rw [← Int.tdiv_eq_ediv_of_nonneg (by omega), Int.neg_tdiv, neg_neg]
    rw [mirrored]
    omega

/-- A wait is that of the streak. -/
theorem Streak.state_retryAfter {nowMs : Int} {streak : Streak} (epoch : 0 ≤ nowMs)
    (active : ¬ streak.Idle nowMs) (before : streak.last ≤ nowMs) :
    streak.state.retryAfter nowMs = ((streak.blockedUntil - nowMs + 999) / 1000).toNat := by
  have bound := backoffSeconds_le streak.count
  rw [LanAuthFailureState.retryAfter, max_tdiv_zero]
  unfold Streak.state Streak.blockedUntil saturatingSub saturatingAdd clampI64
  unfold Streak.Idle lanAuthBackoffIdleResetMs at active
  dsimp only
  omega

section Checks

variable (format : Ipv6Format)

/-- The retained entries fit. -/
theorem filterMap_retain {failures : Failures} {streaks : Text → Option Streak} {nowMs : Int}
    (fits : ∀ key, EntryFits nowMs (failures key) (streaks key)) (keys : List Text) :
    keys.filterMap (retain failures nowMs) =
      (keys.filterMap fun key => (streaks key).filter fun streak =>
        ¬ streak.Idle nowMs).map Streak.state := by
  rw [List.map_filterMap]
  congr 1
  funext key
  have entry := fits key
  unfold retain
  generalize failures key = stored at entry ⊢
  generalize streaks key = known at entry ⊢
  cases entry with
  | absent => rfl
  | expired streak idle => simp [idle]
  | stored streak positive before =>
      by_cases idle : streak.Idle nowMs
      · simp [Option.filter_some, Streak.state_isIdle.mpr idle, idle]
      · have active : streak.state.isIdle nowMs = false := by
          rw [Bool.eq_false_iff, Ne, Streak.state_isIdle]
          exact idle
        simp [Option.filter_some, active, idle]

/-- A check returns what the failures before it ask for. -/
theorem lanAuthRetryAfterAt_expected {failures : Failures} {past : List Output} {nowMs : Int}
    (epoch : 0 ≤ nowMs) (fits : ∀ key, EntryFits nowMs (failures key) (streakOf format past key))
    (source : Source) :
    (lanAuthRetryAfterAt failures (lanAuthFailureKeys format source) nowMs).1 =
      expectedRetryAfter format past source nowMs := by
  unfold lanAuthRetryAfterAt expectedRetryAfter
  dsimp only
  rw [filterMap_retain fits, List.map_map]
  congr 2
  apply List.map_congr_left
  intro streak live
  obtain ⟨key, _, filtered⟩ := List.mem_filterMap.mp live
  rw [Option.filter_eq_some_iff, decide_eq_true_eq] at filtered
  obtain ⟨found, active⟩ := filtered
  have entry := fits key
  rw [found] at entry
  generalize failures key = stored at entry
  cases entry with
  | expired streak idle => exact absurd idle active
  | stored streak positive before => exact Streak.state_retryAfter epoch active before

/-- A key is blocked by a streak whose time has not passed. -/
def Blocked (past : List Output) (key : Text) (nowMs : Int) : Prop :=
  ∃ streak, streakOf format past key = some streak ∧ ¬ streak.Idle nowMs ∧
    nowMs < streak.blockedUntil

theorem max?_getD_pos {values : List Nat} : 0 < values.max?.getD 0 ↔ ∃ value ∈ values, 0 < value := by
  cases found : values.max? with
  | none =>
      rw [List.max?_eq_none_iff] at found
      simp [found]
  | some top =>
      rw [List.max?_eq_some_iff] at found
      rw [Option.getD_some]
      constructor
      · exact fun positive => ⟨top, found.1, positive⟩
      · rintro ⟨value, member, positive⟩
        exact Nat.lt_of_lt_of_le positive (found.2 value member)

/-- A wait is due where a key is blocked. -/
theorem expectedRetryAfter_pos {past : List Output} {source : Source} {nowMs : Int} :
    0 < expectedRetryAfter format past source nowMs ↔
      ∃ key ∈ lanAuthFailureKeys format source, Blocked format past key nowMs := by
  unfold expectedRetryAfter
  dsimp only
  rw [max?_getD_pos]
  simp only [List.mem_map, List.mem_filterMap, Option.filter_eq_some_iff, decide_eq_true_eq]
  constructor
  · rintro ⟨_, ⟨streak, ⟨key, member, found, active⟩, rfl⟩, positive⟩
    exact ⟨key, member, streak, found, active, by omega⟩
  · rintro ⟨key, member, streak, found, active, later⟩
    exact ⟨_, ⟨streak, ⟨key, member, found, active⟩, rfl⟩, by omega⟩

end Checks

end SubnetDesk.LoginFailureCheck
