import SubnetDesk.Construction.Connection.AuthedConnID

namespace SubnetDesk.AuthedConnID

open Threads
open Connection (AuthConnType Platform)

variable {platform : Platform} {state : Connections} {task : Task} {index : Nat}

/-- A connection is registered between its two changes of the registry. -/
def Stage.registered : Stage → Bool
  | .counting closing => !closing
  | .countingRemote closing _ => !closing
  | .sending closing _ _ => !closing
  | .alive => true
  | .registering | .deciding | .cleaning _ | .gone => false

def Stage.settled : Stage → Bool
  | .alive | .gone => true
  | _ => false

/-- The next section of the task changes the registry. -/
def Stage.changes : Stage → Bool
  | .registering | .alive => true
  | _ => false

/-- The task has counted and has not sent. -/
def Stage.counted : Stage → Bool
  | .countingRemote _ _ | .sending _ _ _ => true
  | _ => false

def Stage.isCleaning : Stage → Bool
  | .cleaning _ => true
  | _ => false

/-- The registry has those connections that are registered. -/
structure Tracked (state : Connections) : Prop where
  idCount : state.shared.idCount = state.threads.length
  ids : ∀ index task, state.threads[index]? = some task → task.conn.connId = index + 1
  counts : ∀ select : AuthedConn → Bool, state.shared.authedConns.countP select =
    state.threads.countP fun task => task.stage.registered && select task.conn

/-- At the start the counts are right. -/
theorem Tracked.start : Tracked .start where
  idCount := rfl
  ids _ _ found := by simp [Connections.start] at found
  counts _ := rfl

def Task.selected (select : AuthedConn → Bool) (task : Task) : Bool :=
  task.stage.registered && select task.conn

/-- A call keeps the counts. -/
theorem Tracked.call (tracked : Tracked state) (connType : AuthConnType) :
    Tracked ((program platform).machine.step state (.call connType)).1 where
  idCount := by
    rw [Program.machine_call, List.length_append]
    exact congrArg (· + 1) tracked.idCount
  ids index task found := by
    rw [Program.machine_call] at found
    by_cases old : index < state.threads.length
    · rw [List.getElem?_append_left old] at found
      exact tracked.ids index task found
    · rw [List.getElem?_append_right (Nat.le_of_not_lt old)] at found
      obtain ⟨inside, equal⟩ := List.getElem?_eq_some_iff.mp found
      rw [List.length_singleton] at inside
      have last : index = state.threads.length := by omega
      subst last
      simp only [Nat.sub_self, List.getElem_singleton] at equal
      rw [← equal]
      exact congrArg (· + 1) tracked.idCount
  counts select := by
    rw [Program.machine_call, List.countP_append]
    exact tracked.counts select

theorem move_conn (platform : Platform) (shared : Shared) (task : Task) :
    (move platform shared task).2.1.conn = task.conn ∧
      (move platform shared task).1.idCount = shared.idCount := by
  unfold move
  split <;> exact ⟨rfl, rfl⟩

/-- A section changes the registry and the connection of its task, or it keeps both. -/
theorem move_cases (platform : Platform) (shared : Shared) (task : Task) :
    (task.stage = .registering ∧ (move platform shared task).1.authedConns =
        shared.authedConns ++ [task.conn] ∧
      (move platform shared task).2.1.stage = .counting false) ∨
    (task.stage = .alive ∧ (move platform shared task).1.authedConns =
        shared.authedConns.filter (·.connId ≠ task.conn.connId) ∧
      (move platform shared task).2.1.stage = .deciding) ∨
    (task.stage.changes = false ∧
      (move platform shared task).1.authedConns = shared.authedConns ∧
      (move platform shared task).2.1.stage.registered = task.stage.registered) := by
  cases stage : task.stage with
  | registering => exact .inl ⟨rfl, by simp only [move, stage], by simp only [move, stage, Task.to]⟩
  | alive => exact .inr (.inl ⟨rfl, by simp only [move, stage], by simp only [move, stage, Task.to]⟩)
  | counting closing => exact .inr (.inr ⟨rfl, by simp only [move, stage],
      by simp only [move, stage, Task.to, Stage.registered]⟩)
  | countingRemote closing connCount => exact .inr (.inr ⟨rfl, by simp only [move, stage],
      by simp only [move, stage, Task.to, Stage.registered]⟩)
  | sending closing connCount remoteCount =>
      refine .inr (.inr ⟨rfl, by simp only [move, stage], ?_⟩)
      simp only [move, stage, Task.to]
      cases closing <;> rfl
  | deciding =>
      refine .inr (.inr ⟨rfl, by simp only [move, stage], ?_⟩)
      simp only [move, stage, Task.to]
      split <;> rfl
  | cleaning rest =>
      cases rest with
      | nil => exact .inr (.inr ⟨rfl, by simp only [move, stage], by simp only [move, stage]; rfl⟩)
      | cons part rest =>
          exact .inr (.inr ⟨rfl, by simp only [move, stage], by simp only [move, stage]; rfl⟩)
  | gone => exact .inr (.inr ⟨rfl, by simp only [move, stage], by simp only [move, stage]⟩)

/-- The other connections of a registry are counted alike without one of them. -/
theorem Tracked.countP_removed (tracked : Tracked state) (found : state.threads[index]? = some task)
    {next : Task} (unregistered : next.stage.registered = false) (select : AuthedConn → Bool) :
    (state.shared.authedConns.filter (·.connId ≠ task.conn.connId)).countP select =
      (state.threads.set index next).countP (·.selected select) := by
  have others := countP_set found next
    fun other => other.selected fun conn => select conn && conn.connId ≠ task.conn.connId
  have gone : task.selected (fun conn => select conn && conn.connId ≠ task.conn.connId) = false := by
    simp [Task.selected]
  have never : next.selected (fun conn => select conn && conn.connId ≠ task.conn.connId) = false := by
    simp [Task.selected, unregistered]
  rw [gone, never, Bool.toNat_false, Nat.add_zero, Nat.add_zero] at others
  rw [List.countP_filter, tracked.counts]
  refine Eq.trans others.symm ?_
  apply List.countP_congr
  intro other member
  obtain ⟨place, atPlace⟩ := List.mem_iff_getElem?.mp member
  by_cases same : index = place
  · subst same
    obtain ⟨inside, -⟩ := List.getElem?_eq_some_iff.mp found
    rw [List.getElem?_set_self inside] at atPlace
    cases atPlace
    simp [Task.selected, unregistered]
  · rw [List.getElem?_set_ne same] at atPlace
    have different : other.conn.connId ≠ task.conn.connId := by
      rw [tracked.ids place other atPlace, tracked.ids index task found]
      omega
    simp [Task.selected, different]

/-- A step keeps the counts. -/
theorem Tracked.advance (tracked : Tracked state) (found : state.threads[index]? = some task) :
    Tracked ((program platform).machine.step state (.advance index ())).1 := by
  rw [Program.machine_advance _ () found]
  obtain ⟨sameConn, sameCount⟩ := move_conn platform state.shared task
  refine ⟨?_, ?_, ?_⟩
  · rw [List.length_set]
    exact sameCount.trans tracked.idCount
  · intro place other atPlace
    by_cases same : index = place
    · subst same
      obtain ⟨inside, -⟩ := List.getElem?_eq_some_iff.mp found
      rw [List.getElem?_set_self inside] at atPlace
      cases atPlace
      exact (congrArg AuthedConn.connId sameConn).trans (tracked.ids index task found)
    · rw [List.getElem?_set_ne same] at atPlace
      exact tracked.ids place other atPlace
  · intro select
    have change := countP_set found (move platform state.shared task).2.1 (·.selected select)
    have before := tracked.counts select
    change state.shared.authedConns.countP select = state.threads.countP (·.selected select) at before
    change (move platform state.shared task).1.authedConns.countP select =
      (state.threads.set index (move platform state.shared task).2.1).countP (·.selected select)
    obtain ⟨stage, conns, next⟩ | ⟨stage, conns, next⟩ | ⟨-, conns, same⟩ :=
      move_cases platform state.shared task
    · have off : task.selected select = false := by simp [Task.selected, stage, Stage.registered]
      have on : Task.selected select (move platform state.shared task).2.1 = select task.conn := by
        simp [Task.selected, next, sameConn, Stage.registered]
      rw [off, on, Bool.toNat_false, Nat.add_zero] at change
      rw [conns, List.countP_append, List.countP_singleton, before, change]
      cases select task.conn <;> rfl
    · rw [conns]
      exact tracked.countP_removed found (by rw [next]; rfl) select
    · rw [conns, before]
      have kept : Task.selected select (move platform state.shared task).2.1 =
          task.selected select := by
        rw [Task.selected, Task.selected, same, sameConn]
      rw [kept] at change
      omega

namespace Connections

/-- No connection is being opened or closed. -/
def Quiet (state : Connections) : Prop := ∀ task ∈ state.threads, task.stage.settled = true

/-- The numbers of authorized connections and of remote ones. -/
def counts (state : Connections) : Nat × Nat :=
  (state.threads.countP (·.stage = .alive),
    state.threads.countP fun task => task.stage = .alive && task.conn.isRemote)

/-- The registry changes only while no other connection has counted and not sent, and a remote
connection is registered only while none is cleaning up. -/
def Undisturbed (state : Connections) : Threads.Event AuthConnType Unit Unit → Prop
  | .advance index _ => ∀ task, state.threads[index]? = some task → task.stage.changes = true →
      (∀ other ∈ state.threads, other.stage.counted = false) ∧
        (task.stage = .registering → task.conn.isRemote = true →
          ∀ other ∈ state.threads, other.stage.isCleaning = false)
  | _ => True

end Connections

/-- What a task knows of the registry is true. -/
def Task.Informed (shared : Shared) (task : Task) : Prop :=
  match task.stage with
  | .countingRemote _ connCount => connCount = shared.authedConns.length
  | .sending _ connCount remoteCount =>
      connCount = shared.authedConns.length ∧ remoteCount = shared.remoteCount
  | .cleaning _ => shared.remoteCount = 0
  | _ => True

/-- A task is busy, or the last pair tells of the registry. -/
def Connections.Answered (state : Connections) : Prop :=
  (∃ task ∈ state.threads, task.stage.settled = false) ∨ state.threads = [] ∨
    state.shared.sent.getLast? = some (state.shared.authedConns.length, state.shared.remoteCount)

structure Steady (state : Connections) : Prop where
  informed : ∀ task ∈ state.threads, task.Informed state.shared
  last : state.Answered

/-- A clean-up runs while no remote connection is registered. -/
def Output.Clean : Output → Prop
  | .sent _ _ => True
  | .cleaned _ remoteCount => remoteCount = 0

theorem Steady.start : Steady .start where
  informed _ member := by simp [Connections.start] at member
  last := .inr (.inl rfl)

theorem Steady.call (steady : Steady state) (connType : AuthConnType) :
    Steady ((program platform).machine.step state (.call connType)).1 where
  informed task member := by
    rw [Program.machine_call, List.mem_append, List.mem_singleton] at member
    cases member with
    | inl old => exact steady.informed task old
    | inr new =>
        subst new
        trivial
  last := by
    rw [Program.machine_call]
    exact .inl ⟨_, List.mem_append_right _ (List.mem_singleton_self _), rfl⟩

/-- A task keeps its knowledge where the registry is kept. -/
theorem Task.Informed.kept {shared after : Shared} (informed : task.Informed shared)
    (same : after.authedConns = shared.authedConns) : task.Informed after := by
  unfold Task.Informed Shared.remoteCount at *
  rwa [same]

/-- A section that keeps the registry informs its task. -/
theorem move_informed {shared : Shared} (informed : task.Informed shared)
    (kept : (move platform shared task).1.authedConns = shared.authedConns) :
    (move platform shared task).2.1.Informed (move platform shared task).1 := by
  refine Task.Informed.kept ?_ kept
  unfold Task.Informed at informed
  cases stage : task.stage with
  | registering => simp only [move, stage, Task.Informed, Task.to]
  | alive => simp only [move, stage, Task.Informed, Task.to]
  | counting closing => simp only [move, stage, Task.Informed, Task.to]
  | countingRemote closing connCount =>
      rw [stage] at informed
      simp only [move, stage, Task.Informed, Task.to]
      exact ⟨informed, trivial⟩
  | sending closing connCount remoteCount =>
      simp only [move, stage, Task.Informed, Task.to]
      cases closing <;> trivial
  | deciding =>
      simp only [move, stage, Task.Informed, Task.to]
      by_cases none_ : shared.remoteCount = 0
      · rw [if_pos none_]
        exact none_
      · rw [if_neg none_]
        trivial
  | cleaning rest =>
      rw [stage] at informed
      cases rest with
      | nil => simp only [move, stage, Task.Informed, Task.to]
      | cons part rest =>
          simp only [move, stage, Task.Informed, Task.to]
          exact informed
  | gone => simp only [move, stage, Task.Informed]

/-- A change that is not disturbed leaves the knowledge of the other tasks true. -/
theorem Task.Informed.changed {shared after : Shared} {other : Task}
    (informed : other.Informed shared) (uncounted : other.stage.counted = false)
    (fewer : other.stage.isCleaning = true → after.remoteCount ≤ shared.remoteCount) :
    other.Informed after := by
  unfold Task.Informed at *
  cases stage : other.stage with
  | countingRemote closing connCount =>
      rw [stage] at uncounted
      cases uncounted
  | sending closing connCount remoteCount =>
      rw [stage] at uncounted
      cases uncounted
  | cleaning rest =>
      rw [stage] at informed fewer
      exact Nat.le_zero.mp ((fewer rfl).trans_eq informed)
  | registering => trivial
  | counting closing => trivial
  | alive => trivial
  | deciding => trivial
  | gone => trivial

theorem remoteCount_append (conns : List AuthedConn) (conn : AuthedConn) :
    (conns ++ [conn]).countP (·.isRemote) = conns.countP (·.isRemote) + conn.isRemote.toNat := by
  rw [List.countP_append, List.countP_singleton]
  cases conn.isRemote <;> rfl

/-- A task goes on, ends with a pair that it sends, or has ended. -/
theorem move_sent (platform : Platform) (shared : Shared) (task : Task) :
    (move platform shared task).2.1.stage.settled = false ∨
      (∃ closing connCount remoteCount, task.stage = .sending closing connCount remoteCount ∧
        (move platform shared task).1.sent = shared.sent ++ [(connCount, remoteCount)]) ∨
      move platform shared task = (shared, task, []) := by
  cases stage : task.stage with
  | registering => exact .inl (by simp only [move, stage]; rfl)
  | alive => exact .inl (by simp only [move, stage]; rfl)
  | counting closing => exact .inl (by simp only [move, stage]; rfl)
  | countingRemote closing connCount => exact .inl (by simp only [move, stage]; rfl)
  | sending closing connCount remoteCount =>
      exact .inr (.inl ⟨closing, connCount, remoteCount, rfl, by simp only [move, stage]⟩)
  | deciding =>
      refine .inl ?_
      simp only [move, stage, Task.to]
      split <;> rfl
  | cleaning rest =>
      cases rest with
      | nil => exact .inl (by simp only [move, stage]; rfl)
      | cons part rest => exact .inl (by simp only [move, stage]; rfl)
  | gone => exact .inr (.inr (by simp only [move, stage]))

/-- An undisturbed step stays steady. -/
theorem Steady.advance (steady : Steady state) (found : state.threads[index]? = some task)
    (undisturbed : state.Undisturbed (.advance index ())) :
    Steady ((program platform).machine.step state (.advance index ())).1 := by
  rw [Program.machine_advance _ () found]
  have informed := steady.informed task (List.mem_of_getElem? found)
  have here : (move platform state.shared task).2.1 ∈
      state.threads.set index (move platform state.shared task).2.1 := by
    obtain ⟨inside, -⟩ := List.getElem?_eq_some_iff.mp found
    exact List.mem_set inside _
  obtain ⟨stage, conns, next⟩ | ⟨stage, conns, next⟩ | ⟨-, conns, same⟩ :=
    move_cases platform state.shared task
  · obtain ⟨uncounted, noCleaning⟩ := undisturbed task found (by rw [stage]; rfl)
    refine ⟨?_, .inl ⟨_, here, by rw [next]; rfl⟩⟩
    intro other member
    obtain old | rfl := List.mem_or_eq_of_mem_set member
    · refine (steady.informed other old).changed (uncounted other old) ?_
      intro cleaning
      change (move platform state.shared task).1.authedConns.countP _ ≤ _
      rw [conns, remoteCount_append]
      cases remote : task.conn.isRemote with
      | false => exact le_refl _
      | true =>
          rw [noCleaning stage remote other old] at cleaning
          cases cleaning
    · unfold Task.Informed
      simp only [program, next]
  · obtain ⟨uncounted, -⟩ := undisturbed task found (by rw [stage]; rfl)
    refine ⟨?_, .inl ⟨_, here, by rw [next]; rfl⟩⟩
    intro other member
    obtain old | rfl := List.mem_or_eq_of_mem_set member
    · refine (steady.informed other old).changed (uncounted other old) ?_
      intro _
      change (move platform state.shared task).1.authedConns.countP _ ≤ _
      rw [conns]
      exact (List.filter_sublist).countP_le
    · unfold Task.Informed
      simp only [program, next]
  · refine ⟨?_, ?_⟩
    · intro other member
      obtain old | rfl := List.mem_or_eq_of_mem_set member
      · exact (steady.informed other old).kept conns
      · exact move_informed informed conns
    · obtain busy | ⟨closing, connCount, remoteCount, stage, sent⟩ | ended :=
        move_sent platform state.shared task
      · exact .inl ⟨_, here, busy⟩
      · refine .inr (.inr ?_)
        unfold Task.Informed at informed
        rw [stage] at informed
        change (move platform state.shared task).1.sent.getLast? = some
          ((move platform state.shared task).1.authedConns.length,
            (move platform state.shared task).1.authedConns.countP (·.isRemote))
        rw [sent, List.getLast?_concat, conns, informed.1, informed.2]
        rfl
      · obtain ⟨inside, rfl⟩ := List.getElem?_eq_some_iff.mp found
        have kept : (⟨(move platform state.shared state.threads[index]).1, state.threads.set index
            (move platform state.shared state.threads[index]).2.1⟩ : Connections) = state := by
          rw [ended, List.set_getElem_self]
        exact Eq.mpr (congrArg Connections.Answered kept) steady.last

/-- An informed task cleans up in time. -/
theorem move_clean {shared : Shared} (informed : task.Informed shared) :
    ∀ output ∈ (move platform shared task).2.2, output.Clean := by
  unfold Task.Informed at informed
  cases stage : task.stage with
  | cleaning rest =>
      rw [stage] at informed
      cases rest with
      | nil => simp only [move, stage]; nofun
      | cons part rest =>
          simp only [move, stage, List.forall_mem_singleton]
          exact informed
  | sending closing connCount remoteCount =>
      simp only [move, stage, List.forall_mem_singleton]
      trivial
  | registering => simp only [move, stage]; nofun
  | alive => simp only [move, stage]; nofun
  | counting closing => simp only [move, stage]; nofun
  | countingRemote closing connCount => simp only [move, stage]; nofun
  | deciding => simp only [move, stage]; nofun
  | gone => simp only [move, stage]; nofun

/-- What every run of undisturbed steps keeps. -/
structure Sound (state : Connections) (past : List Output) : Prop where
  tracked : Tracked state
  steady : Steady state
  clean : ∀ output ∈ past, output.Clean

/-- One undisturbed event is sound. -/
theorem Sound.step {past : List Output} (sound : Sound state past)
    (event : Threads.Event AuthConnType Unit Unit) (undisturbed : state.Undisturbed event) :
    Sound ((program platform).machine.step state event).1
      (past ++ ((program platform).machine.step state event).2) := by
  cases event with
  | call connType =>
      refine ⟨sound.tracked.call connType, sound.steady.call connType, ?_⟩
      rw [Program.machine_call, List.append_nil]
      exact sound.clean
  | advance index choice =>
      cases found : state.threads[index]? with
      | none =>
          rw [Program.machine_absent _ choice found, List.append_nil]
          exact sound
      | some task =>
          refine ⟨sound.tracked.advance found, sound.steady.advance found undisturbed, ?_⟩
          rw [Program.machine_advance _ choice found, List.forall_mem_append]
          exact ⟨sound.clean, move_clean
            (sound.steady.informed task (List.mem_of_getElem? found))⟩
  | disturb change =>
      refine ⟨?_, ?_, ?_⟩
      · exact sound.tracked
      · exact sound.steady
      · exact (List.append_nil past).symm ▸ sound.clean

/-- In a quiet state the registry has the connections that are alive. -/
theorem Tracked.counts_eq (tracked : Tracked state) (quiet : state.Quiet) :
    (state.shared.authedConns.length, state.shared.remoteCount) = state.counts := by
  have alive : ∀ task ∈ state.threads, task.stage.registered = decide (task.stage = .alive) := by
    intro task member
    have settled := quiet task member
    cases stage : task.stage with
    | alive => rfl
    | gone => rfl
    | registering => rw [stage] at settled; cases settled
    | counting closing => rw [stage] at settled; cases settled
    | countingRemote closing connCount => rw [stage] at settled; cases settled
    | sending closing connCount remoteCount => rw [stage] at settled; cases settled
    | deciding => rw [stage] at settled; cases settled
    | cleaning rest => rw [stage] at settled; cases settled
  have all := tracked.counts fun _ => true
  have remote := tracked.counts (·.isRemote)
  rw [List.countP_true] at all
  unfold Connections.counts
  rw [all, Shared.remoteCount, remote]
  congr 1
  · exact List.countP_congr fun task member => by rw [alive task member, Bool.and_true]
  · exact List.countP_congr fun task member => by rw [alive task member]

def reached (platform : Platform) (events : List (Threads.Event AuthConnType Unit Unit)) :
    Connections := ((program platform).machine.run Connections.start events).1

def outputs (platform : Platform) (events : List (Threads.Event AuthConnType Unit Unit)) :
    List Output := ((program platform).machine.run Connections.start events).2

/-- In every run in which no step disturbs a count or a clean-up, the last pair that was sent is true
in every quiet state, and no clean-up runs while a remote connection is registered. -/
theorem undisturbed_run_counts (platform : Platform)
    (events : List (Threads.Event AuthConnType Unit Unit))
    (undisturbed : (program platform).machine.Guarded Connections.Undisturbed Connections.start
      events) :
    ((reached platform events).Quiet → (reached platform events).threads ≠ [] →
      (reached platform events).shared.sent.getLast? = some (reached platform events).counts) ∧
    ∀ output ∈ outputs platform events, output.Clean := by
  have start : Sound .start [] := ⟨.start, .start, nofun⟩
  have sound : Sound (reached platform events) ([] ++ outputs platform events) :=
    (program platform).machine.run_invariant Connections.Undisturbed Sound
      (fun state past event guard sound => sound.step event guard) Connections.start [] events start
      undisturbed
  refine ⟨?_, sound.clean⟩
  intro quiet some_
  rw [← sound.tracked.counts_eq quiet]
  obtain ⟨task, member, busy⟩ | none_ | last := sound.steady.last
  · rw [quiet task member] at busy
    cases busy
  · exact absurd none_ some_
  · exact last

instance (state : Connections) : Decidable state.Quiet :=
  inferInstanceAs (Decidable (∀ task ∈ state.threads, task.stage.settled = true))

instance (state : Connections) (event : Threads.Event AuthConnType Unit Unit) :
    Decidable (state.Undisturbed event) :=
  match event with
  | .call _ => inferInstanceAs (Decidable True)
  | .disturb _ => inferInstanceAs (Decidable True)
  | .advance index _ =>
      decidable_of_iff
        (∀ task ∈ state.threads[index]?.toList, task.stage.changes = true →
          (∀ other ∈ state.threads, other.stage.counted = false) ∧
            (task.stage = .registering → task.conn.isRemote = true →
              ∀ other ∈ state.threads, other.stage.isCleaning = false))
        (by simp only [Option.mem_toList]; rfl)

/-- A task takes its next sections. -/
def advances (index count : Nat) : List (Threads.Event AuthConnType Unit Unit) :=
  List.replicate count (.advance index ())

/-- A remote connection and one for files are opened, and both are closed in the same order. -/
def openAndClose : List (Threads.Event AuthConnType Unit Unit) :=
  .call .remote :: advances 0 4 ++ .call .fileTransfer :: advances 1 4 ++ advances 0 9 ++
    advances 1 9

theorem opened_and_closed :
    (reached .linux openAndClose).shared.sent = [(1, 1), (2, 1), (1, 0), (0, 0)] ∧
      (reached .linux openAndClose).shared.sent.getLast? =
        some (reached .linux openAndClose).counts ∧
      outputs .linux openAndClose ≠ [] ∧ ∀ output ∈ outputs .linux openAndClose, output.Clean := by
  obtain ⟨last, clean⟩ := undisturbed_run_counts .linux openAndClose (by decide +kernel)
  exact ⟨by decide +kernel, last (by decide +kernel) (by decide +kernel), by decide +kernel, clean⟩

/-- A remote connection is opened while another one closes, after some sections of the other. -/
def openWhileClosing (closed : Nat) : List (Threads.Event AuthConnType Unit Unit) :=
  .call .remote :: advances 0 4 ++ .call .remote :: advances 0 closed ++ advances 1 4 ++
    advances 0 (9 - closed)

/-- A connection that is opened while another one sends its counts leaves the old counts as the last
pair. One that is opened before the clean-up of the other is cleaned up after. -/
theorem opened_while_closing :
    ((reached .linux (openWhileClosing 8)).Quiet ∧
      (reached .linux (openWhileClosing 8)).shared.sent.getLast? = some (0, 0) ∧
      (reached .linux (openWhileClosing 8)).counts = (1, 1)) ∧
    outputs .linux (openWhileClosing 2) = [.sent 1 1, .sent 1 1, .cleaned .wallpaper 1,
      .cleaned .resolutions 1, .cleaned .pipewireSession 1, .sent 1 1] := by
  decide +kernel

end SubnetDesk.AuthedConnID
