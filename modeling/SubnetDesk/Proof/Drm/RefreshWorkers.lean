import SubnetDesk.Construction.Drm.Probe

namespace SubnetDesk.Drm

open SingleFlight Flight

/-- A cleared flag says that every request has a begun enumeration. -/
def cacheLaw : scheduleDrmCacheRefresh.Law where
  room _ := True
  tracks pending count begun := pending = false → count ≤ begun
  recalls _ _ := True
  idle _ := Nat.le_refl 0
  fresh _ := trivial
  request _ _ _ _ _ := by
    intro cleared
    contradiction
  start _ _ _ _ _ := ⟨fun _ => Nat.le_refl _, trivial⟩
  later _ _ _ _ _ := trivial
  quiet _ _ _ _ tracks _ quiet := tracks quiet

/-- The generation is the number of requests, and a served value is one that has a begun refresh. -/
def uinputLaw : uinputRefresh.Law where
  room count := count < 2 ^ 64
  tracks generation count _ := generation.toNat = count
  recalls served begun := served.toNat ≤ begun
  idle := rfl
  fresh _ := Nat.zero_le _
  request generation count _ roomy counted := by
    rw [uinputRefresh, UInt64.toNat_add, counted]
    exact Nat.mod_eq_of_lt roomy
  start _ _ _ _ counted := ⟨counted, Nat.le_of_eq counted⟩
  later _ _ _ grows known := Nat.le_trans known grows
  quiet generation served count begun counted known quiet := by
    have same : generation = served := by
      simpa [uinputRefresh] using quiet
    rw [← counted, same]
    exact known

/-- One thread at a time owns the slot, only an owner works, and only the owner gives it back. -/
structure OneOwner {Mark Seen : Type} (flight : Flight Mark Seen) (steps : List Step) : Prop where
  single : ∀ (first second : Nat) (one other : Thread Seen),
    (flight.machine.run flight.initial steps).1.threads[first]? = some one →
    (flight.machine.run flight.initial steps).1.threads[second]? = some other →
    one.owned = true → other.owned = true → first = second
  taken : (flight.machine.run flight.initial steps).1.shared.slot = true ↔
    ∃ thread ∈ (flight.machine.run flight.initial steps).1.threads, thread.owned = true
  works : ∀ thread ∈ (flight.machine.run flight.initial steps).1.threads,
    thread.phase = .working → thread.owned = true
  gives : ∀ index outcome,
    (flight.machine.run flight.initial steps).1.shared.slot = true →
    (flight.machine.run flight.initial (steps ++ [.advance index outcome])).1.shared.slot =
      false →
    ∃ thread, (flight.machine.run flight.initial steps).1.threads[index]? = some thread ∧
      thread.owned = true

/-- The run covers every request as soon as callers and workers are gone. -/
def Complete {Mark Seen : Type} (flight : Flight Mark Seen) (steps : List Step) : Prop :=
  (∀ thread ∈ (flight.machine.run flight.initial steps).1.threads, thread.phase = .gone) →
    ∀ request < (flight.machine.run flight.initial steps).1.shared.count,
      ∃ covers ∈ (flight.machine.run flight.initial steps).1.shared.completed, request < covers

theorem oneOwner {Mark Seen : Type} (flight : Flight Mark Seen) (steps : List Step) :
    OneOwner flight steps := by
  have held := flight.held_run steps
  constructor
  case single =>
    intro first second one other atFirst atSecond owned alsoOwned
    exact held.unique atFirst atSecond owned alsoOwned
  case taken =>
    constructor
    · exact held.owner
    · rintro ⟨thread, member, owned⟩
      have positive := List.countP_pos_iff.mpr ⟨thread, member, owned⟩
      rw [held.owners] at positive
      by_contra free
      rw [Bool.not_eq_true] at free
      simp [free] at positive
  case works =>
    intro thread member working
    have fits := held.fits thread member
    simpa only [Fits, working] using fits
  case gives =>
    intro index outcome taken given
    rw [flight.machine.run_append] at given
    exact held.gives flight taken given

/-- Both workers have one owner of their slot and lose no request, as long as their threads and
runtimes start and the generation does not wrap around. -/
theorem refresh_workers (steps : List Step) :
    OneOwner scheduleDrmCacheRefresh steps ∧ OneOwner uinputRefresh steps ∧
      (scheduleDrmCacheRefresh.machine.Guarded (Succeeds fun _ => True)
          scheduleDrmCacheRefresh.initial steps →
        Complete scheduleDrmCacheRefresh steps) ∧
      (uinputRefresh.machine.Guarded (Succeeds fun count => count < 2 ^ 64)
          uinputRefresh.initial steps →
        Complete uinputRefresh steps) := by
  refine ⟨oneOwner _ steps, oneOwner _ steps, ?_, ?_⟩
  · intro success quiescent request announced
    exact no_lost_request cacheLaw steps success quiescent announced
  · intro success quiescent request announced
    exact no_lost_request uinputLaw steps success quiescent announced

/-- The second request of this run comes while the first worker enumerates. -/
def twoRequests : List Step :=
  [.call (), .advance 0 true, .advance 0 true, .advance 0 true, .call (), .advance 1 true,
    .advance 0 true, .advance 0 true, .advance 0 true, .advance 0 true, .advance 0 true,
    .advance 0 true, .advance 0 true, .advance 0 true]

/-- Both workers serve the second request with a second run. -/
theorem refresh_workers_two_requests :
    (scheduleDrmCacheRefresh.machine.run scheduleDrmCacheRefresh.initial
        twoRequests).1.shared.completed = [1, 2] ∧
      Complete scheduleDrmCacheRefresh twoRequests ∧ Complete uinputRefresh twoRequests := by
  have workers := refresh_workers twoRequests
  refine ⟨by decide +kernel, ?_, ?_⟩
  · exact workers.2.2.1 (by decide +kernel)
  · exact workers.2.2.2 (by decide +kernel)

/-- The launch of every thread succeeds. -/
def Launches {Mark Seen : Type} (state : State Mark Seen) : Step → Prop
  | .call _ => True
  | .advance index outcome =>
      ∀ thread ∈ state.threads[index]?, thread.phase = .launching → outcome = true
  | .disturb _ => True

/-- Each further request finds the slot taken. -/
def flood (requests : Nat) : List Step :=
  (List.range requests).flatMap fun request => [.call (), .advance (request + 1) true]

/-- A worker that waits for its runtime, and callers that left the refresh to it. -/
def flooded (requests : Nat) : State UInt64 UInt64 :=
  ⟨⟨true, UInt64.ofNat (requests + 1), requests + 1, 0, []⟩,
    ⟨.building, true, 0, 0⟩ :: List.replicate requests ⟨.gone, false, 0, 0⟩⟩

theorem run_flood (requests : Nat) :
    (uinputRefresh.machine.run (flooded 0) (flood requests)).1 = flooded requests ∧
      uinputRefresh.machine.Guarded Launches (flooded 0) (flood requests) := by
  induction requests with
  | zero => exact ⟨rfl, trivial⟩
  | succ requests ih =>
      have unfolded : flood (requests + 1) =
          flood requests ++ [.call (), .advance (requests + 1) true] := by
        simp [flood, List.range_succ]
      rw [unfolded, Machine.run_append, Machine.guarded_append, ih.1]
      have last : ((flooded requests).threads ++ [uinputRefresh.newcomer])[requests + 1]? =
          some uinputRefresh.newcomer := by
        simp [flooded]
      refine ⟨?_, ih.2, trivial, ?_, trivial⟩
      · simp only [Machine.run]
        rw [machine_call, machine_advance _ true last]
        simp [flooded, move, take, newcomer, announce, uinputRefresh, List.replicate_succ']
      · intro thread found
        simp

/-- The worker takes a generation that has wrapped around for one that it has served. -/
theorem run_flooded {requests : Nat} (wraps : UInt64.ofNat (requests + 1) = 0) :
    (uinputRefresh.machine.run (flooded requests) (List.replicate 5 (.advance 0 true))).1 =
        ⟨⟨false, 0, requests + 1, 0, []⟩, List.replicate (requests + 1) ⟨.gone, false, 0, 0⟩⟩ ∧
      uinputRefresh.machine.Guarded Launches (flooded requests)
        (List.replicate 5 (.advance 0 true)) := by
  refine ⟨?_, ?_⟩
  · simp [flooded, wraps, Machine.run, machine, Threads.Program.machine, program, move, head,
      release, uinputRefresh, List.replicate_succ]
  · refine ⟨?_, ?_, ?_, ?_, ?_, trivial⟩
    all_goals
      intro thread found launching
      rfl

theorem not_complete_of_idle {Mark Seen : Type} {flight : Flight Mark Seen} {steps : List Step}
    {mark : Mark} {requests : Nat} {thread : Thread Seen} (gone : thread.phase = .gone)
    (ends : (flight.machine.run flight.initial steps).1 =
      ⟨⟨false, mark, requests + 1, 0, []⟩, List.replicate (requests + 1) thread⟩) :
    ¬Complete flight steps := by
  intro complete
  rw [Complete, ends] at complete
  have quiescent : ∀ other ∈ List.replicate (requests + 1) thread, other.phase = .gone := by
    intro other member
    rw [List.eq_of_mem_replicate member]
    exact gone
  obtain ⟨covers, member, later⟩ := complete quiescent 0 (Nat.succ_pos requests)
  simp at member

/-- The worker waits for its runtime while further requests arrive, and then finds nothing new. -/
def wrappedRun (requests : Nat) : List Step :=
  [.call (), .advance 0 true, .advance 0 true] ++
    (flood requests ++ List.replicate 5 (.advance 0 true))

/-- A counter that wraps ends its workers too early. -/
theorem run_wrapped {requests : Nat} (wraps : UInt64.ofNat (requests + 1) = 0) :
    uinputRefresh.machine.Guarded Launches uinputRefresh.initial (wrappedRun requests) ∧
      (uinputRefresh.machine.run uinputRefresh.initial (wrappedRun requests)).1 =
        ⟨⟨false, 0, requests + 1, 0, []⟩, List.replicate (requests + 1) ⟨.gone, false, 0, 0⟩⟩ := by
  have opens : (uinputRefresh.machine.run uinputRefresh.initial
      [.call (), .advance 0 true, .advance 0 true]).1 = flooded 0 := rfl
  obtain ⟨floods, launched⟩ := run_flood requests
  obtain ⟨ends, launchedToEnd⟩ := run_flooded wraps
  refine ⟨?_, ?_⟩
  · rw [wrappedRun, Machine.guarded_append, Machine.guarded_append, opens, floods]
    refine ⟨⟨trivial, ?_, ?_, trivial⟩, launched, launchedToEnd⟩
    · intro thread found launching
      rfl
    · intro thread found launching
      rfl
  · rw [wrappedRun, Machine.run_append, Machine.run_append, opens, floods, ends]

/-- The runtime of the only worker cannot be built. -/
def failedBuild : List Step :=
  [.call (), .advance 0 true, .advance 0 true, .advance 0 false, .advance 0 true]

theorem launches_failedBuild :
    uinputRefresh.machine.Guarded Launches uinputRefresh.initial failedBuild := by
  refine ⟨trivial, ?_, ?_, ?_, ?_, trivial⟩
  · intro thread found launching
    rfl
  · intro thread found launching
    rfl
  · intro thread found launching
    rw [← Option.some.inj found] at launching
    contradiction
  · intro thread found launching
    rfl

/-- A runtime that cannot be built loses a request, and so does a generation that wraps around. -/
theorem uinput_request_lost :
    (uinputRefresh.machine.Guarded Launches uinputRefresh.initial failedBuild ∧
        ¬Complete uinputRefresh failedBuild) ∧
      uinputRefresh.machine.Guarded Launches uinputRefresh.initial (wrappedRun (2 ^ 64 - 1)) ∧
        ¬Complete uinputRefresh (wrappedRun (2 ^ 64 - 1)) := by
  have wraps : UInt64.ofNat (2 ^ 64 - 1 + 1) = 0 := by decide
  have ends : (uinputRefresh.machine.run uinputRefresh.initial failedBuild).1 =
      ⟨⟨false, 1, 0 + 1, 0, []⟩, List.replicate (0 + 1) ⟨.gone, false, 0, 0⟩⟩ := rfl
  refine ⟨⟨launches_failedBuild, not_complete_of_idle rfl ends⟩, (run_wrapped wraps).1, ?_⟩
  exact not_complete_of_idle rfl (run_wrapped wraps).2

end SubnetDesk.Drm
