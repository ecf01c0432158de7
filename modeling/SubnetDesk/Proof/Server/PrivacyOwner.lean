import SubnetDesk.Construction.Server.PrivacyMode

namespace SubnetDesk.PrivacyMode

open Threads

variable {registry : Registry} {impl : PrivacyModeImpl} {host : Host}

/-- Another connection owns the mode. -/
def Foreign (impl : PrivacyModeImpl) (conn : ConnId) : Prop :=
  impl.connId ≠ invalidPrivacyModeConnId ∧ impl.connId ≠ conn.id

/-- A section of a connection that does not own the mode changes neither the mode nor the platform,
and a turn-on is refused. -/
def OwnerKept (registry : Registry) (host : Host) : Event Call Choice HostChange → Prop
  | .advance index choice => ∀ request impl, host.threads[index]? = some request →
      host.shared = some impl → Foreign impl request.conn →
        let (next, moved, calls) := move registry host.shared request choice
        next = host.shared ∧ calls = [] ∧
          ∀ implKey, request.stage = .turningOn implKey →
            ∃ error, moved.stage = .judging (some (.error error))
  | _ => True

/-- A connection does not come to the off of its failed turn-on while another one owns the mode. -/
def NoStrayOff (host : Host) : Event Call Choice HostChange → Prop
  | .advance index _ => ∀ request impl, host.threads[index]? = some request →
      host.shared = some impl → Foreign impl request.conn → request.stage ≠ .turningOffAny
  | _ => True

theorem checkOn_foreign {conn : ConnId} (foreign : Foreign impl conn) :
    impl.checkOnConnId conn.id = .error .occupied := by
  rw [PrivacyModeImpl.checkOnConnId, if_neg foreign.2, if_pos foreign.1]

/-- A foreign connection cannot turn privacy off. -/
theorem turnOff_foreign {conn : ConnId} (foreign : Foreign impl conn) (outcome : OffOutcome) :
    turnOffPrivacy (some impl) conn.id outcome = (some impl, some (.error .turnOffOtherId), []) := by
  simp only [turnOffPrivacy, PrivacyModeImpl.turnOffPrivacy, PrivacyModeImpl.checkOffConnId]
  rw [if_pos ⟨foreign.1, conn.valid, foreign.2⟩]

/-- The invalid id is never refused. -/
theorem turnOffAny_calls (impl : PrivacyModeImpl) (outcome : OffOutcome) :
    (turnOffPrivacy (some impl) invalidPrivacyModeConnId outcome).2.2 = [.turnOff] := by
  simp only [turnOffPrivacy, PrivacyModeImpl.turnOffPrivacy, PrivacyModeImpl.checkOffConnId]
  rw [if_neg (fun all => all.2.1 rfl)]
  cases outcome <;> rfl

variable (registry) in
/-- A foreign connection cannot turn privacy on. -/
theorem turnOn_foreign {conn : ConnId} (foreign : Foreign impl conn) (implKey : ImplKey)
    (choice : Choice) : ∃ error, turnOnPrivacy registry (some impl) implKey conn.id choice =
      (some impl, some (.error error), []) := by
  simp only [turnOnPrivacy, turnOnPrivacySync, checkOn_foreign foreign]
  cases choice.timedOut with
  | true => exact ⟨.timeout, rfl⟩
  | false => exact ⟨.occupied, rfl⟩

variable (registry) in
/-- Only the off with the invalid id reaches a mode that another connection owns. -/
theorem move_foreign {request : Request} (foreign : Foreign impl request.conn) (choice : Choice) :
    ((move registry (some impl) request choice).1 = some impl ∧
      (move registry (some impl) request choice).2.2 = [] ∧
      ∀ implKey, request.stage = .turningOn implKey →
        ∃ error, (move registry (some impl) request choice).2.1.stage =
          .judging (some (.error error))) ↔
      request.stage ≠ .turningOffAny := by
  unfold move
  cases stage : request.stage with
  | turningOn implKey =>
      obtain ⟨error, refused⟩ := turnOn_foreign registry foreign implKey choice
      simp only [refused]
      exact iff_of_true ⟨trivial, trivial, fun _ _ => ⟨error, rfl⟩⟩ nofun
  | judging result =>
      match result with
      | none => exact iff_of_true ⟨rfl, rfl, nofun⟩ nofun
      | some (.error error) => exact iff_of_true ⟨rfl, rfl, nofun⟩ nofun
      | some (.ok true) => exact iff_of_true ⟨rfl, rfl, nofun⟩ nofun
      | some (.ok false) => exact iff_of_true ⟨rfl, rfl, nofun⟩ nofun
  | failing => exact iff_of_true ⟨rfl, rfl, nofun⟩ nofun
  | turningOffOwn =>
      simp only [turnOff_foreign foreign]
      exact iff_of_true ⟨trivial, trivial, nofun⟩ nofun
  | turningOffAny =>
      refine iff_of_false ?_ (fun no => no rfl)
      rintro ⟨-, calls, -⟩
      rw [turnOffAny_calls] at calls
      cases calls
  | turningOff =>
      simp only [turnOff_foreign foreign]
      exact iff_of_true ⟨trivial, trivial, nofun⟩ nofun
  | closing => exact iff_of_true ⟨rfl, rfl, nofun⟩ nofun
  | closingOff =>
      simp only [turnOff_foreign foreign]
      exact iff_of_true ⟨trivial, trivial, nofun⟩ nofun
  | done answer => exact iff_of_true ⟨rfl, rfl, nofun⟩ nofun

/-- The owner is kept exactly without a stray end. -/
theorem ownerKept_iff (host : Host) (event : Event Call Choice HostChange) :
    OwnerKept registry host event ↔ NoStrayOff host event := by
  cases event with
  | call call => exact Iff.rfl
  | disturb change => exact Iff.rfl
  | advance index choice =>
      refine forall_congr' fun request => forall_congr' fun impl => ?_
      refine forall_congr' fun _ => forall_congr' fun shared => forall_congr' fun foreign => ?_
      rw [shared]
      exact move_foreign registry foreign choice

/-- The steps of the host and of the requests of a connection. -/
def NotBy (conn : Int) (host : Host) : Event Call Choice HostChange → Prop
  | .advance index _ => ∀ request, host.threads[index]? = some request → request.conn.id ≠ conn
  | .call _ => True
  | .disturb _ => False

/-- One event of others keeps the owner. -/
theorem step_keeps {event : Event Call Choice HostChange} (shared : host.shared = some impl)
    (owned : impl.connId ≠ invalidPrivacyModeConnId) (others : NotBy impl.connId host event)
    (met : NoStrayOff host event) :
    ((program registry).machine.step host event).1.shared = some impl := by
  cases event with
  | call call =>
      rw [Program.machine_call]
      cases call <;> exact shared
  | disturb change => exact others.elim
  | advance index choice =>
      cases found : host.threads[index]? with
      | none =>
          rw [Program.machine_absent _ choice found]
          exact shared
      | some request =>
          rw [Program.machine_advance _ choice found]
          have foreign : Foreign impl request.conn := ⟨owned, (others request found).symm⟩
          have kept := (move_foreign registry foreign choice).mpr
            (met request impl found shared foreign)
          rw [← shared] at kept ⊢
          exact kept.1

/-- No section of another connection changes a mode that is owned or touches its platform, exactly
when no failed turn-on comes to its off while another connection owns the mode. In such a run the
owner keeps the mode until it acts itself or the host does. -/
theorem owner_kept_iff (registry : Registry) (shared : Shared)
    (events : List (Event Call Choice HostChange)) :
    ((∀ before event after, events = before ++ event :: after →
        OwnerKept registry ((program registry).machine.run (Host.start shared) before).1 event) ↔
      (program registry).machine.Guarded NoStrayOff (Host.start shared) events) ∧
    ∀ (host : Host) (impl : PrivacyModeImpl) (later : List (Event Call Choice HostChange)),
      host.shared = some impl → impl.connId ≠ invalidPrivacyModeConnId →
      (program registry).machine.Guarded
        (fun host event => NotBy impl.connId host event ∧ NoStrayOff host event) host later →
      ((program registry).machine.run host later).1.shared = some impl := by
  constructor
  · rw [Machine.guarded_iff_split]
    refine forall_congr' fun before => forall_congr' fun event => forall_congr' fun after => ?_
    exact forall_congr' fun _ => ownerKept_iff _ event
  · intro host impl later held owned guarded
    exact (program registry).machine.run_invariant
      (fun host event => NotBy impl.connId host event ∧ NoStrayOff host event)
      (fun host _ => host.shared = some impl)
      (fun _ _ _ met shared => step_keeps shared owned met.1 met.2) host [] later held guarded

section Runs

def conn (id : Nat) : ConnId := ⟨id + 1, by simp only [invalidPrivacyModeConnId]; omega⟩

def oneImpl : Registry where
  supportedImpls := [['m']]
  creators := [['m']]
  defaultImpl := ['m']

def well : Choice where
  option := []
  onOutcome := .started
  offOutcome := .ended
  timedOut := false
  checkError := false

theorem foreign_turn_off_refused :
    ((program oneImpl).machine.run ⟨some ⟨['m'], 1⟩, []⟩
      [.call (.turnOff (conn 1)), .advance 0 well]).1.shared = some ⟨['m'], 1⟩ := by
  refine (owner_kept_iff oneImpl none []).2 ⟨some ⟨['m'], 1⟩, []⟩ ⟨['m'], 1⟩
    [.call (.turnOff (conn 1)), .advance 0 well] rfl (by decide)
    ⟨⟨trivial, trivial⟩, ⟨?_, ?_⟩, trivial⟩
  · intro request found
    cases found
    decide
  · intro request impl found _ _
    cases found
    decide

/-- The first connection owns the mode, and the second one asks for it. -/
def secondAsks : List (Event Call Choice HostChange) :=
  [.call (.turnOn (conn 0) true ['m']), .advance 0 well, .call (.turnOn (conn 1) true ['m']),
    .advance 1 well, .advance 1 well, .advance 1 well, .advance 1 well]

/-- The mode of the first connection is off after the second one was refused. -/
theorem refused_turn_on_ends :
    ((program oneImpl).machine.run (Host.start none) (secondAsks.take 6)).1.shared =
      some ⟨['m'], 1⟩ ∧
    ((program oneImpl).machine.run (Host.start none) secondAsks).1.shared = some ⟨['m'], 0⟩ ∧
    ¬ ∀ before event after, secondAsks = before ++ event :: after →
      OwnerKept oneImpl ((program oneImpl).machine.run (Host.start none) before).1 event := by
  refine ⟨by decide +kernel, by decide +kernel, fun kept => ?_⟩
  have last := kept (secondAsks.take 6) (.advance 1 well) [] rfl ⟨conn 1, .turningOffAny⟩
    ⟨['m'], 1⟩ (by decide +kernel) (by decide +kernel) ⟨by decide, by decide⟩
  exact absurd last.2.1 (by decide +kernel)

end Runs

end SubnetDesk.PrivacyMode
