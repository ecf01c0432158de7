import SubnetDesk.Construction.Web.ConnectionLimiter

namespace SubnetDesk.WebGateway

open Threads

variable {IpAddr : Type}

/-- A slot is held from the semaphore on until it is given back. -/
def Stage.slotted : Stage → Bool
  | .counting | .refused | .live | .uncounting | .releasing => true
  | .asking | .gone => false

/-- A permit lives from the section that counts it until the section that uncounts it. -/
def Stage.permit : Stage → Bool
  | .live | .uncounting => true
  | _ => false

def Attempt.slotted (attempt : Attempt IpAddr) (index : Nat) : Bool :=
  attempt.limiter = index && attempt.stage.slotted

def Attempt.permit (attempt : Attempt IpAddr) (index : Nat) : Bool :=
  attempt.limiter = index && attempt.stage.permit

def Attempt.permitOf [DecidableEq IpAddr] (attempt : Attempt IpAddr) (index : Nat)
    (source : IpAddr) : Bool :=
  attempt.permit index && attempt.source = source

def Attempt.isLive (attempt : Attempt IpAddr) : Bool := attempt.stage = .live

@[simp] theorem Attempt.to_limiter (attempt : Attempt IpAddr) (stage : Stage) :
    (attempt.to stage).limiter = attempt.limiter := rfl

@[simp] theorem Attempt.to_source (attempt : Attempt IpAddr) (stage : Stage) :
    (attempt.to stage).source = attempt.source := rfl

@[simp] theorem Attempt.to_stage (attempt : Attempt IpAddr) (stage : Stage) :
    (attempt.to stage).stage = stage := rfl

namespace Sessions

def permits (state : Sessions IpAddr) (index : Nat) : Nat :=
  state.threads.countP (·.permit index)

def permitsOf [DecidableEq IpAddr] (state : Sessions IpAddr) (index : Nat) (source : IpAddr) :
    Nat :=
  state.threads.countP (·.permitOf index source)

def slots (state : Sessions IpAddr) (index : Nat) : Nat := state.threads.countP (·.slotted index)

/-- Slots that an unfinished attempt holds, or a permit that is being dropped. -/
def transientSlots (state : Sessions IpAddr) (index : Nat) : Nat :=
  state.threads.countP fun attempt => attempt.slotted index && !attempt.permit index

def livePermits (state : Sessions IpAddr) : Nat := state.threads.countP (·.stage.permit)

/-- No attempt and no drop is in progress. -/
def Quiet (state : Sessions IpAddr) : Prop :=
  ∀ attempt ∈ state.threads, attempt.stage = .live ∨ attempt.stage = .gone

end Sessions

namespace ConnectionLimiter

/-- A slot takes one permit. -/
theorem acquireSlot_some {limiter taken : ConnectionLimiter IpAddr}
    (acquired : limiter.acquireSlot = some taken) :
    taken.global + 1 = limiter.global ∧ taken.perSource = limiter.perSource ∧
      taken.maxPerSource = limiter.maxPerSource := by
  unfold acquireSlot at acquired
  split at acquired
  next => cases acquired
  next free slots =>
      cases acquired
      exact ⟨slots.symm, rfl, rfl⟩

/-- A refusal has no permit left. -/
theorem acquireSlot_none {limiter : ConnectionLimiter IpAddr}
    (refused : limiter.acquireSlot = none) : limiter.global = 0 := by
  unfold acquireSlot at refused
  split at refused
  next empty => exact empty
  next => cases refused

variable [DecidableEq IpAddr]

/-- An entry is raised below the limit only, and a refusal keeps every count. -/
theorem countSource_cases (limiter : ConnectionLimiter IpAddr) (source : IpAddr) :
    (∃ counted, limiter.countSource source = (counted, true) ∧
      limiter.stored source < limiter.maxPerSource ∧ counted.global = limiter.global ∧
      counted.maxPerSource = limiter.maxPerSource ∧
      ∀ other, counted.stored other = limiter.stored other + (decide (source = other)).toNat) ∨
    ∃ counted, limiter.countSource source = (counted, false) ∧
      limiter.maxPerSource ≤ limiter.stored source ∧ counted.global = limiter.global ∧
      counted.maxPerSource = limiter.maxPerSource ∧
      ∀ other, counted.stored other = limiter.stored other := by
  by_cases full : limiter.maxPerSource ≤ limiter.stored source
  · right
    refine ⟨_, if_pos full, full, rfl, rfl, fun other => ?_⟩
    by_cases same : source = other
    · subst same
      simp [stored]
    · simp [stored, Function.update_of_ne (Ne.symm same)]
  · left
    refine ⟨_, if_neg full, Nat.lt_of_not_le full, rfl, rfl, fun other => ?_⟩
    by_cases same : source = other
    · subst same
      simp [stored]
    · simp [stored, Function.update_of_ne (Ne.symm same), same]

/-- A return counts for its own source. -/
theorem stored_uncountSource (limiter : ConnectionLimiter IpAddr) (source other : IpAddr) :
    (limiter.uncountSource source).stored other =
      limiter.stored other - (decide (source = other)).toNat := by
  unfold uncountSource
  split
  next count entry =>
      by_cases same : source = other
      · subst same
        by_cases last : count - 1 = 0
        · simp [stored, entry, last]
        · simp [stored, entry, last]
      · simp [stored, Function.update_of_ne (Ne.symm same), same]
  next absent =>
      by_cases same : source = other
      · subst same
        simp [stored, absent]
      · simp [same]

theorem uncountSource_frame (limiter : ConnectionLimiter IpAddr) (source : IpAddr) :
    (limiter.uncountSource source).global = limiter.global ∧
      (limiter.uncountSource source).maxPerSource = limiter.maxPerSource := by
  unfold uncountSource
  split
  next => exact ⟨rfl, rfl⟩
  next => exact ⟨rfl, rfl⟩

end ConnectionLimiter

/-- A slot is held by a permit or by an attempt or a drop in progress. -/
theorem Sessions.slots_eq (state : Sessions IpAddr) (index : Nat) :
    state.slots index = state.permits index + state.transientSlots index := by
  have within : ∀ attempt : Attempt IpAddr,
      (attempt.slotted index && attempt.permit index) = attempt.permit index := by
    intro attempt
    cases stage : attempt.stage <;>
      simp [Attempt.slotted, Attempt.permit, stage, Stage.slotted, Stage.permit]
  unfold Sessions.slots Sessions.permits Sessions.transientSlots
  rw [List.countP_eq_countP_filter_add _ _ (·.permit index), List.countP_filter,
    List.countP_filter, funext within]

variable [DecidableEq IpAddr]

/-- What a section changes is the difference that it makes for its own attempt. -/
structure Balanced (before after : Process IpAddr) (attempt next : Attempt IpAddr) : Prop where
  fixed : ∀ index, (after.limiters index).maxPerSource = (before.limiters index).maxPerSource
  slot : ∀ index, (after.limiters index).global + (next.slotted index).toNat =
    (before.limiters index).global + (attempt.slotted index).toNat
  count : ∀ index source,
    (after.limiters index).stored source + (attempt.permitOf index source).toNat =
      (before.limiters index).stored source + (next.permitOf index source).toNat
  limit : ∀ index source, (after.limiters index).stored source ≤
    max ((before.limiters index).stored source) (before.limiters index).maxPerSource
  active : after.activeWebSessions + attempt.isLive.toNat =
    before.activeWebSessions + next.isLive.toNat

/-- A section of an attempt works on the limiter of the attempt. -/
theorem Balanced.to (process : Process IpAddr) (attempt : Attempt IpAddr) (stage : Stage)
    {limiter : ConnectionLimiter IpAddr} {active : Int}
    (fixed : limiter.maxPerSource = (process.limiters attempt.limiter).maxPerSource)
    (slot : limiter.global + stage.slotted.toNat =
      (process.limiters attempt.limiter).global + attempt.stage.slotted.toNat)
    (count : ∀ source,
      limiter.stored source + (attempt.permitOf attempt.limiter source).toNat =
        (process.limiters attempt.limiter).stored source +
          ((attempt.to stage).permitOf attempt.limiter source).toNat)
    (limit : ∀ source, limiter.stored source ≤
      max ((process.limiters attempt.limiter).stored source)
        (process.limiters attempt.limiter).maxPerSource)
    (balance : active + attempt.isLive.toNat =
      process.activeWebSessions + (attempt.to stage).isLive.toNat) :
    Balanced process
      { process.withLimiter attempt.limiter limiter with activeWebSessions := active }
      attempt (attempt.to stage) where
  fixed index := by
    by_cases same : index = attempt.limiter
    · subst same
      simp only [Process.withLimiter, Function.update_self, fixed]
    · simp only [Process.withLimiter, Function.update_of_ne same]
  slot index := by
    by_cases same : index = attempt.limiter
    · subst same
      simpa [Process.withLimiter, Attempt.slotted] using slot
    · simp [Process.withLimiter, Function.update_of_ne same, Attempt.slotted, Ne.symm same]
  count index source := by
    by_cases same : index = attempt.limiter
    · subst same
      simpa only [Process.withLimiter, Function.update_self] using count source
    · simp [Process.withLimiter, Function.update_of_ne same, Attempt.permitOf, Attempt.permit,
        Ne.symm same]
  limit index source := by
    by_cases same : index = attempt.limiter
    · subst same
      simpa only [Process.withLimiter, Function.update_self] using limit source
    · simp only [Process.withLimiter, Function.update_of_ne same]
      exact le_max_left _ _
  active := balance

/-- A step that changes nothing but the stage is balanced where the stages hold the same. -/
theorem Balanced.idle (process : Process IpAddr) (attempt : Attempt IpAddr) (stage : Stage)
    (slot : stage.slotted = attempt.stage.slotted) (permit : stage.permit = attempt.stage.permit)
    (live : (attempt.to stage).isLive = attempt.isLive) :
    Balanced process process attempt (attempt.to stage) where
  fixed _ := rfl
  slot index := by
    rw [Attempt.slotted, Attempt.to_stage, slot]
    rfl
  count index source := by
    have same : (attempt.to stage).permit index = attempt.permit index := by
      rw [Attempt.permit, Attempt.to_stage, permit]
      rfl
    rw [Attempt.permitOf, Attempt.permitOf, same]
    rfl
  limit _ _ := le_max_left _ _
  active := by rw [live]

/-- Every section is balanced, where a permit that is dropped has been counted. -/
theorem Attempt.move_balanced (process : Process IpAddr) (attempt : Attempt IpAddr)
    (counted : attempt.stage = .uncounting →
      0 < (process.limiters attempt.limiter).stored attempt.source) :
    Balanced process (attempt.move process).1 attempt (attempt.move process).2.1 := by
  obtain ⟨index, source, stage⟩ := attempt
  cases stage with
  | asking =>
      cases acquired : (process.limiters index).acquireSlot with
      | some taken =>
          obtain ⟨slot, same, fixed⟩ := ConnectionLimiter.acquireSlot_some acquired
          simp only [move, acquired]
          refine Balanced.to process ⟨index, source, .asking⟩ .counting fixed slot
            (fun other => ?_) (fun other => ?_) rfl
          · simp [ConnectionLimiter.stored, same, permitOf, permit, Stage.permit]
          · simp [ConnectionLimiter.stored, same]
      | none =>
          simp only [move, acquired]
          exact Balanced.idle process ⟨index, source, .asking⟩ .gone rfl rfl rfl
  | counting =>
      cases (process.limiters index).countSource_cases source with
      | inl raised =>
          obtain ⟨after, equal, room, slot, fixed, count⟩ := raised
          simp only [move, equal]
          refine Balanced.to process ⟨index, source, .counting⟩ .live fixed
            (congrArg (· + 1) slot) (fun other => ?_) (fun other => ?_) ?_
          · simp only [count, permitOf, permit, to_limiter, to_stage, Stage.permit, decide_true,
              Bool.and_false, Bool.false_and, Bool.toNat_false, Bool.true_and]
            rfl
          · rw [count]
            by_cases same : source = other
            · subst same
              simp only [decide_true, Bool.toNat_true]
              exact le_max_of_le_right room
            · simp [same]
          · simp [isLive, Attempt.to]
      | inr kept =>
          obtain ⟨after, equal, full, slot, fixed, count⟩ := kept
          simp only [move, equal]
          refine Balanced.to process ⟨index, source, .counting⟩ .refused fixed
            (congrArg (· + 1) slot) (fun other => ?_) (fun other => ?_) rfl
          · simp [count, permitOf, permit, Stage.permit]
          · simp [count]
  | refused =>
      exact Balanced.to process ⟨index, source, .refused⟩ .gone rfl rfl (fun other => rfl)
        (fun other => le_max_left _ _) rfl
  | live =>
      simp only [move]
      exact ⟨fun _ => rfl, fun _ => rfl, fun _ _ => rfl, fun _ _ => le_max_left _ _,
        by simp [isLive, Attempt.to]⟩
  | uncounting =>
      obtain ⟨slot, fixed⟩ := (process.limiters index).uncountSource_frame source
      have positive : 0 < (process.limiters index).stored source := counted rfl
      refine Balanced.to process ⟨index, source, .uncounting⟩ .releasing fixed
        (congrArg (· + 1) slot) (fun other => ?_) (fun other => ?_) rfl
      · rw [ConnectionLimiter.stored_uncountSource]
        by_cases same : source = other
        · subst same
          simp only [permitOf, permit, to_limiter, to_source, to_stage, Stage.permit, decide_true,
            Bool.and_true, Bool.toNat_true, Bool.and_false, Bool.toNat_false]
          omega
        · simp [same, permitOf]
      · rw [ConnectionLimiter.stored_uncountSource]
        exact le_max_of_le_left (Nat.sub_le _ _)
  | releasing =>
      exact Balanced.to process ⟨index, source, .releasing⟩ .gone rfl rfl (fun other => rfl)
        (fun other => le_max_left _ _) rfl
  | gone => exact Balanced.idle process ⟨index, source, .gone⟩ .gone rfl rfl rfl

/-- The counters say what the threads hold. -/
structure Sessions.Counted (limits : Nat → Nat × Nat) (state : Sessions IpAddr) : Prop where
  fixed : ∀ index, (state.shared.limiters index).maxPerSource = (limits index).2
  slots : ∀ index, (state.shared.limiters index).global + state.slots index = (limits index).1
  counts : ∀ index source,
    (state.shared.limiters index).stored source = state.permitsOf index source
  limited : ∀ index source, (state.shared.limiters index).stored source ≤ (limits index).2
  active : state.shared.activeWebSessions = state.threads.countP (·.isLive)

namespace Sessions.Counted

variable {limits : Nat → Nat × Nat} {state : Sessions IpAddr}

/-- At the start nothing is counted. -/
theorem start (limits : Nat → Nat × Nat) : (Sessions.start limits : Sessions IpAddr).Counted limits where
  fixed _ := rfl
  slots _ := rfl
  counts _ _ := rfl
  limited _ _ := Nat.zero_le _
  active := rfl

/-- A new attempt is not counted. -/
theorem call (counted : state.Counted limits) (attempt : Attempt IpAddr)
    (fresh : attempt.stage = .asking) :
    Sessions.Counted limits ⟨state.shared, state.threads ++ [attempt]⟩ where
  fixed := counted.fixed
  slots index := by
    have none_ : attempt.slotted index = false := by simp [Attempt.slotted, fresh, Stage.slotted]
    simpa [Sessions.slots, none_] using counted.slots index
  counts index source := by
    have none_ : attempt.permitOf index source = false := by
      simp [Attempt.permitOf, Attempt.permit, fresh, Stage.permit]
    simpa [Sessions.permitsOf, none_] using counted.counts index source
  limited := counted.limited
  active := by
    have none_ : attempt.isLive = false := by simp [Attempt.isLive, fresh]
    simpa [none_] using counted.active

/-- A counted source is stored. -/
theorem stored_pos (counted : state.Counted limits) {attempt : Attempt IpAddr}
    (member : attempt ∈ state.threads) (dropping : attempt.stage = .uncounting) :
    0 < (state.shared.limiters attempt.limiter).stored attempt.source := by
  rw [counted.counts]
  exact List.countP_pos_iff.mpr
    ⟨attempt, member, by simp [Attempt.permitOf, Attempt.permit, dropping, Stage.permit]⟩

/-- A step keeps the counts. -/
theorem advance (counted : state.Counted limits) {index : Nat} {attempt next : Attempt IpAddr}
    {after : Process IpAddr} (found : state.threads[index]? = some attempt)
    (balanced : Balanced state.shared after attempt next) :
    Sessions.Counted limits ⟨after, state.threads.set index next⟩ where
  fixed limiter := (balanced.fixed limiter).trans (counted.fixed limiter)
  slots limiter := by
    have moved := countP_set found next (·.slotted limiter)
    have before := counted.slots limiter
    have slot := balanced.slot limiter
    simp only [Sessions.slots] at *
    omega
  counts limiter source := by
    have moved := countP_set found next (·.permitOf limiter source)
    have before := counted.counts limiter source
    have count := balanced.count limiter source
    simp only [Sessions.permitsOf] at *
    omega
  limited limiter source := by
    have limit := balanced.limit limiter source
    rw [counted.fixed] at limit
    exact limit.trans (max_le (counted.limited limiter source) le_rfl)
  active := by
    have moved := countP_set found next (·.isLive)
    have before := counted.active
    have active := balanced.active
    simp only at *
    omega

/-- One event keeps the counts. -/
theorem step (counted : state.Counted limits) (event : Event (Nat × IpAddr) Unit Empty) :
    Sessions.Counted limits (sessions.machine.step state event).1 := by
  cases event with
  | call call => exact counted.call _ rfl
  | advance index choice =>
      cases found : state.threads[index]? with
      | none => rwa [sessions.machine_absent choice found]
      | some attempt =>
          rw [sessions.machine_advance choice found]
          exact counted.advance found (attempt.move_balanced state.shared
            (counted.stored_pos (List.mem_of_getElem? found)))
  | disturb change => exact change.elim

/-- Every run keeps the counts. -/
theorem run (limits : Nat → Nat × Nat) (events : List (Event (Nat × IpAddr) Unit Empty)) :
    Sessions.Counted limits (sessions.machine.run (Sessions.start limits) events).1 :=
  sessions.machine.run_invariant (fun _ _ => True) (fun state _ => Sessions.Counted limits state)
    (fun _ _ event _ counted => counted.step event) _ [] events (start limits)
    (sessions.machine.guarded_true _ _)

end Sessions.Counted

/-- A failure has seen its limit reached: the permits of the source reach theirs, or the slots are
all held, by permits and by attempts and drops in progress. -/
def Output.Justified (limits : Nat → Nat × Nat) (state : Sessions IpAddr) : Output IpAddr → Prop
  | .acquired _ _ => True
  | .failed index source .source => state.permitsOf index source = (limits index).2
  | .failed index _ .global => state.permits index + state.transientSlots index = (limits index).1

/-- An outcome is justified by the counts. -/
theorem Sessions.Counted.justified {limits : Nat → Nat × Nat} {state : Sessions IpAddr}
    (counted : state.Counted limits) {attempt : Attempt IpAddr} :
    ∀ output ∈ (attempt.move state.shared).2.2, output.Justified limits state := by
  obtain ⟨index, source, stage⟩ := attempt
  cases stage with
  | asking =>
      cases acquired : (state.shared.limiters index).acquireSlot with
      | some taken => simp [Attempt.move, acquired]
      | none =>
          have slots := counted.slots index
          rw [ConnectionLimiter.acquireSlot_none acquired, state.slots_eq] at slots
          simp only [Attempt.move, acquired, List.mem_singleton, forall_eq, Output.Justified]
          omega
  | counting =>
      cases (state.shared.limiters index).countSource_cases source with
      | inl raised =>
          obtain ⟨after, equal, -⟩ := raised
          simp [Attempt.move, equal, Output.Justified]
      | inr kept =>
          obtain ⟨after, equal, full, -⟩ := kept
          have limited := counted.limited index source
          rw [counted.fixed, counted.counts] at full
          rw [counted.counts] at limited
          simp only [Attempt.move, equal, List.mem_singleton, forall_eq, Output.Justified]
          omega
  | refused => simp [Attempt.move]
  | live => simp [Attempt.move]
  | uncounting => simp [Attempt.move]
  | releasing => simp [Attempt.move]
  | gone => simp [Attempt.move]

/-- An attempt that nothing interrupts. -/
def Sessions.attempted (state : Sessions IpAddr) (index : Nat) (source : IpAddr) :
    Sessions IpAddr × List (Output IpAddr) :=
  sessions.machine.run state
    (.call (index, source) :: List.replicate 3 (.advance state.threads.length ()))

/-- Two processes have the same free slots and the same counts. -/
structure Process.Agrees (first second : Process IpAddr) : Prop where
  free : ∀ index, (first.limiters index).global = (second.limiters index).global
  counts : ∀ index source,
    (first.limiters index).stored source = (second.limiters index).stored source
  active : first.activeWebSessions = second.activeWebSessions

theorem sessions_last (process : Process IpAddr) (threads : List (Attempt IpAddr))
    (attempt : Attempt IpAddr) :
    sessions.machine.step ⟨process, threads ++ [attempt]⟩ (.advance threads.length ()) =
      (⟨(attempt.move process).1, threads ++ [(attempt.move process).2.1]⟩,
        (attempt.move process).2.2) := by
  rw [sessions.machine_advance () (List.getElem?_concat_length (l := threads) (a := attempt))]
  simp [sessions]

/-- An attempt that fails leaves every count and every free slot as it has found them. -/
theorem Sessions.attempted_failed {state : Sessions IpAddr} {index : Nat} {source : IpAddr}
    {error : ConnectionLimitError}
    (failed : .failed index source error ∈ (state.attempted index source).2) :
    (state.attempted index source).1.shared.Agrees state.shared := by
  obtain ⟨process, threads⟩ := state
  simp only [attempted, List.replicate, Machine.run, sessions.machine_call, sessions_last,
    List.append_nil, List.nil_append] at failed ⊢
  cases acquired : (process.limiters index).acquireSlot with
  | none =>
      simp only [sessions, Attempt.move, acquired, Attempt.to]
      exact ⟨fun _ => rfl, fun _ _ => rfl, rfl⟩
  | some taken =>
      obtain ⟨slot, same, fixed⟩ := ConnectionLimiter.acquireSlot_some acquired
      cases taken.countSource_cases source with
      | inl raised =>
          obtain ⟨after, equal, -⟩ := raised
          simp [sessions, Attempt.move, acquired, Attempt.to, Process.withLimiter, equal] at failed
      | inr kept =>
          obtain ⟨after, equal, -, slots, -, counts⟩ := kept
          simp only [sessions, Attempt.move, acquired, Attempt.to, Process.withLimiter,
            Function.update_self, Function.update_idem, equal]
          refine ⟨fun other => ?_, fun other address => ?_, rfl⟩
          · by_cases here : other = index
            · subst here
              simp only [Function.update_self, ConnectionLimiter.releaseSlot]
              omega
            · simp only [Function.update_of_ne here]
          · by_cases here : other = index
            · subst here
              simp only [Function.update_self]
              exact (counts address).trans (by rw [ConnectionLimiter.stored, same]; rfl)
            · simp only [Function.update_of_ne here]

/-- Without operations in progress the open sessions are the permits. -/
theorem Sessions.Counted.quiet {limits : Nat → Nat × Nat} {state : Sessions IpAddr}
    (counted : state.Counted limits) (quiet : state.Quiet) :
    state.shared.activeWebSessions = state.livePermits ∧
      ∀ index, (state.shared.limiters index).global + state.permits index = (limits index).1 := by
  have settled : ∀ attempt ∈ state.threads, attempt.isLive = attempt.stage.permit ∧
      ∀ index, attempt.slotted index = attempt.permit index := by
    intro attempt member
    cases quiet attempt member with
    | inl live => simp [Attempt.isLive, Attempt.slotted, Attempt.permit, live, Stage.slotted,
        Stage.permit]
    | inr gone => simp [Attempt.isLive, Attempt.slotted, Attempt.permit, gone, Stage.slotted,
        Stage.permit]
  constructor
  · rw [counted.active, livePermits]
    exact congrArg Nat.cast (List.countP_congr fun attempt member => by
      rw [(settled attempt member).1])
  · intro index
    have same : state.slots index = state.permits index :=
      List.countP_congr fun attempt member => by rw [(settled attempt member).2 index]
    rw [← same, counted.slots index]

/-- In every order of attempts and drops the counts are the live permits and keep to the limits,
an attempt fails only where its limit is reached, and a failed attempt leaves nothing behind. -/
theorem limiter_counts_permits (limits : Nat → Nat × Nat)
    (events : List (Event (Nat × IpAddr) Unit Empty)) :
    let state : Sessions IpAddr := (sessions.machine.run (Sessions.start limits) events).1
    (∀ index source, (state.shared.limiters index).stored source = state.permitsOf index source ∧
      state.permitsOf index source ≤ (limits index).2) ∧
    (∀ index, state.permits index ≤ (limits index).1 ∧
      (state.shared.limiters index).global + state.permits index + state.transientSlots index =
        (limits index).1) ∧
    (state.Quiet → state.shared.activeWebSessions = state.livePermits ∧
      ∀ index, (state.shared.limiters index).global + state.permits index = (limits index).1) ∧
    (∀ event, ∀ output ∈ (sessions.machine.step state event).2, output.Justified limits state) ∧
    ∀ index source error, .failed index source error ∈ (state.attempted index source).2 →
      (state.attempted index source).1.shared.Agrees state.shared := by
  intro state
  have counted : state.Counted limits := Sessions.Counted.run limits events
  refine ⟨fun index source => ?_, fun index => ?_, counted.quiet, fun event => ?_,
    fun index source error => Sessions.attempted_failed⟩
  · have limited := counted.limited index source
    rw [counted.counts] at limited
    exact ⟨counted.counts index source, limited⟩
  · have slots := counted.slots index
    rw [state.slots_eq] at slots
    omega
  · cases event with
    | call call => exact nofun
    | advance index choice =>
        cases found : state.threads[index]? with
        | none =>
            rw [sessions.machine_absent choice found]
            exact nofun
        | some attempt =>
            rw [sessions.machine_advance choice found]
            exact counted.justified
    | disturb change => exact change.elim

/-- The second attempt of the first client holds the last slot until its source limit turns it
down, and the second client fails while one of two permits is live. -/
def crowdedEvents : List (Event (Nat × Nat) Unit Empty) :=
  [.call (0, 1), .advance 0 (), .advance 0 (), .call (0, 1), .advance 1 (), .call (0, 2)]

theorem attempt_fails_below_limits :
    let limits : Nat → Nat × Nat := fun _ => (2, 1)
    let state : Sessions Nat := (sessions.machine.run (Sessions.start limits) crowdedEvents).1
    .failed 0 2 .global ∈ (sessions.machine.step state (.advance 2 ())).2 ∧
      state.permitsOf 0 2 < (limits 0).2 ∧ state.permits 0 < (limits 0).1 := by
  decide +kernel

end SubnetDesk.WebGateway
