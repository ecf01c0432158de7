import SubnetDesk.Construction.Server.Service

namespace SubnetDesk.Services

variable {σ μ : Type} [Subscriber σ]

/-- The new subscribers join the old ones. -/
theorem mem_foldl_insert (entries : List (Sigma fun _ : Int => σ)) (subscribers : Subscribers σ)
    (id : Int) :
    id ∈ entries.foldl
        (fun subscribes entry => subscribes.insert (Subscriber.id entry.2) entry.2) subscribers ↔
      id ∈ subscribers ∨ ∃ entry ∈ entries, Subscriber.id entry.2 = id := by
  induction entries generalizing subscribers with
  | nil => simp
  | cons entry rest ih =>
      rw [List.foldl_cons, ih, AList.mem_insert]
      simp only [List.mem_cons, exists_eq_or_imp]
      constructor
      · rintro ((same | old) | later)
        · exact .inr (.inl same.symm)
        · exact .inl old
        · exact .inr (.inr later)
      · rintro (old | same | later)
        · exact .inl (.inr old)
        · exact .inl (.inl same.symm)
        · exact .inr later

/-- Every subscriber stands under its own id. -/
def Keyed (subscribers : Subscribers σ) : Prop :=
  ∀ entry ∈ subscribers.entries, Subscriber.id entry.2 = entry.1

theorem keyed_empty : Keyed (∅ : Subscribers σ) := by
  simp [Keyed]

/-- An insertion stores by the id. -/
theorem Keyed.insert {subscribers : Subscribers σ} (keyed : Keyed subscribers) (sub : σ) :
    Keyed (subscribers.insert (Subscriber.id sub) sub) := by
  intro entry member
  rw [AList.entries_insert] at member
  rcases List.mem_cons.mp member with rfl | old
  · rfl
  · exact keyed entry (List.kerase_sublist _ _ |>.subset old)

theorem Keyed.erase {subscribers : Subscribers σ} (keyed : Keyed subscribers) (id : Int) :
    Keyed (subscribers.erase id) :=
  fun entry member => keyed entry (List.kerase_sublist _ _ |>.subset member)

omit [Subscriber σ] in
theorem mem_iff_entry (subscribers : Subscribers σ) (id : Int) :
    id ∈ subscribers ↔ ∃ entry ∈ subscribers.entries, entry.1 = id := by
  rw [AList.mem_keys, AList.keys, List.keys, List.mem_map]

/-- A swap keeps every subscriber. -/
theorem Keyed.mem_swap {service : ServiceInner σ} (keyed : Keyed service.newSubscribes)
    (id : Int) :
    id ∈ service.swapNewSubscribes.subscribes ↔
      id ∈ service.subscribes ∨ id ∈ service.newSubscribes := by
  rw [ServiceInner.swapNewSubscribes, mem_foldl_insert, mem_iff_entry service.newSubscribes]
  refine or_congr_right (exists_congr fun entry => and_congr_right fun member => ?_)
  rw [keyed entry member]

/-- A waiting subscriber has all messages of the run, or it came late and misses some. -/
structure SnapshotState.Consistent (state : SnapshotState σ μ) : Prop where
  needed : state.service.needSnapshot = true
  keyed : Keyed state.service.newSubscribes
  punctual : ∀ id ∈ state.service.newSubscribes, id ∉ state.late →
    state.received id = state.sent.getD []
  tardy : ∀ id ∈ state.service.newSubscribes, id ∈ state.late →
    (state.received id).length < (state.sent.getD []).length
  fresh : state.sent.getD [] = [] → state.late = []

omit [Subscriber σ] in
theorem SnapshotState.begun_eq_false {state : SnapshotState σ μ} :
    state.begun = false ↔ state.sent.getD [] = [] := by
  unfold begun
  cases sent : state.sent with
  | none => simp
  | some msgs => cases msgs <;> simp

/-- A subscriber waits for its snapshot. -/
theorem ServiceInner.onSubscribe_new {service : ServiceInner σ}
    (needed : service.needSnapshot = true) (sub : σ) (id : Int) :
    id ∈ (service.onSubscribe sub).newSubscribes ↔
      id ∈ service.newSubscribes ∨ (id = Subscriber.id sub ∧ id ∉ service.subscribes) := by
  unfold onSubscribe
  split
  next live =>
    rw [AList.lookup_isSome] at live
    constructor
    · exact .inl
    · rintro (old | ⟨rfl, absent⟩)
      · exact old
      · exact absurd live absent
  next waits =>
    rw [AList.lookup_isSome] at waits
    rw [AList.mem_insert]
    constructor
    · rintro (rfl | old)
      · exact .inr ⟨rfl, waits⟩
      · exact .inl old
    · rintro (old | ⟨rfl, -⟩)
      · exact .inr old
      · exact .inl rfl

theorem ServiceInner.onSubscribe_keyed {service : ServiceInner σ}
    (keyed : Keyed service.newSubscribes) (sub : σ) :
    Keyed (service.onSubscribe sub).newSubscribes := by
  unfold onSubscribe
  split
  next => exact keyed
  next =>
    split
    next => exact keyed.insert sub
    next => exact keyed

theorem ServiceInner.onSubscribe_live {service : ServiceInner σ}
    (needed : service.needSnapshot = true) (sub : σ) :
    (service.onSubscribe sub).subscribes = service.subscribes ∧
      (service.onSubscribe sub).needSnapshot = true := by
  unfold onSubscribe
  split
  next => exact ⟨rfl, needed⟩
  next => exact ⟨rfl, needed⟩

/-- A subscription is consistent. -/
theorem SnapshotState.Consistent.subscribe {state : SnapshotState σ μ}
    (consistent : state.Consistent) (sub : σ) : (state.subscribe sub).Consistent := by
  have members := fun id => ServiceInner.onSubscribe_new consistent.needed sub id
  have keyed := ServiceInner.onSubscribe_keyed consistent.keyed sub
  have live := ServiceInner.onSubscribe_live consistent.needed sub
  unfold SnapshotState.subscribe
  dsimp only
  split
  next known =>
    have same : ∀ id, id ∈ (state.service.onSubscribe sub).newSubscribes →
        id ∈ state.service.newSubscribes := by
      intro id member
      rcases (members id).mp member with old | ⟨rfl, absent⟩
      · exact old
      · rcases known with subscribed | waiting
        · exact absurd (AList.lookup_isSome.mp subscribed) absent
        · exact AList.lookup_isSome.mp waiting
    exact ⟨live.2, keyed, fun id member => consistent.punctual id (same id member),
      fun id member => consistent.tardy id (same id member), consistent.fresh⟩
  next unknown =>
    rw [not_or, AList.lookup_isSome, AList.lookup_isSome] at unknown
    refine ⟨live.2, keyed, ?_, ?_, ?_⟩
    · intro id member punctual
      dsimp only at member punctual ⊢
      rcases (members id).mp member with old | ⟨rfl, -⟩
      · have other : id ≠ Subscriber.id sub := fun same => unknown.2 (same ▸ old)
        rw [Function.update_of_ne other]
        refine consistent.punctual id old fun late => punctual ?_
        split
        next => exact List.mem_cons_of_mem _ late
        next => exact late
      · rw [Function.update_self]
        split at punctual
        next => simp at punctual
        next idle =>
          exact (SnapshotState.begun_eq_false.mp (by simpa using idle)).symm
    · intro id member tardy
      dsimp only at member tardy ⊢
      by_cases begun : state.begun = true
      · rw [if_pos begun] at tardy
        rcases (members id).mp member with old | ⟨rfl, -⟩
        · have other : id ≠ Subscriber.id sub := fun same => unknown.2 (same ▸ old)
          rw [Function.update_of_ne other]
          exact consistent.tardy id old (List.mem_of_ne_of_mem other tardy)
        · rw [Function.update_self, List.length_nil, List.length_pos_iff]
          intro idle
          rw [SnapshotState.begun_eq_false.mpr idle] at begun
          exact absurd begun (by simp)
      · rw [if_neg begun, consistent.fresh (SnapshotState.begun_eq_false.mp (by simpa using begun))]
          at tardy
        simp at tardy
    · intro idle
      dsimp only at idle ⊢
      rw [SnapshotState.begun_eq_false.mpr idle]
      exact consistent.fresh idle

omit [Subscriber σ] in
theorem ServiceInner.onUnsubscribe_new (service : ServiceInner σ) (id : Int) :
    (service.onUnsubscribe id).newSubscribes = service.newSubscribes ∨
      (service.onUnsubscribe id).newSubscribes = service.newSubscribes.erase id := by
  unfold onUnsubscribe
  cases service.subscribes.lookup id with
  | some _ => exact .inl rfl
  | none => exact .inr rfl

/-- Its end is consistent. -/
theorem SnapshotState.Consistent.unsubscribe {state : SnapshotState σ μ}
    (consistent : state.Consistent) (id : Int) :
    SnapshotState.Consistent { state with service := state.service.onUnsubscribe id } := by
  have needed : (state.service.onUnsubscribe id).needSnapshot = true := by
    unfold ServiceInner.onUnsubscribe
    cases state.service.subscribes.lookup id with
    | some _ => exact consistent.needed
    | none => exact consistent.needed
  have fewer : ∀ other, other ∈ (state.service.onUnsubscribe id).newSubscribes →
      other ∈ state.service.newSubscribes := by
    intro other member
    rcases state.service.onUnsubscribe_new id with same | erased
    · rwa [same] at member
    · rw [erased, AList.mem_erase] at member
      exact member.2
  have keyed : Keyed (state.service.onUnsubscribe id).newSubscribes := by
    rcases state.service.onUnsubscribe_new id with same | erased
    · rw [same]
      exact consistent.keyed
    · rw [erased]
      exact consistent.keyed.erase id
  exact ⟨needed, keyed, fun other member => consistent.punctual other (fewer other member),
    fun other member => consistent.tardy other (fewer other member), consistent.fresh⟩

/-- One step is consistent. -/
theorem SnapshotState.Consistent.step {state : SnapshotState σ μ} (consistent : state.Consistent)
    (step : SnapshotStep σ μ) : (state.step step).1.Consistent := by
  cases step with
  | onSubscribe sub => exact consistent.subscribe sub
  | onUnsubscribe id => exact consistent.unsubscribe id
  | snapshot =>
      rw [SnapshotState.step]
      split
      next starts =>
        have idle : state.sent.getD [] = [] := by
          rw [Option.isNone_iff_eq_none.mp starts.1]
          rfl
        exact ⟨consistent.needed, consistent.keyed,
          fun id member punctual => by simpa [idle] using consistent.punctual id member punctual,
          fun id member tardy => by simpa [idle] using consistent.tardy id member tardy,
          fun _ => consistent.fresh idle⟩
      next => exact consistent
  | send msg =>
      rw [SnapshotState.step]
      cases sent : state.sent with
      | none => exact consistent
      | some msgs =>
          have punctual := consistent.punctual
          have tardy := consistent.tardy
          rw [sent, Option.getD_some] at punctual tardy
          refine ⟨consistent.needed, consistent.keyed, ?_, ?_, ?_⟩
          · intro id member early
            dsimp only at member early ⊢
            rw [if_pos member, punctual id member early, Option.getD_some]
          · intro id member late
            dsimp only at member late ⊢
            have missed := tardy id member late
            rw [if_pos member, Option.getD_some, List.length_append, List.length_append]
            omega
          · simp
  | drop ok =>
      rw [SnapshotState.step]
      cases sent : state.sent with
      | none => exact consistent
      | some msgs =>
          refine ⟨consistent.needed, keyed_empty, ?_, ?_, fun _ => rfl⟩
          · exact fun id member => absurd member (AList.notMem_empty id)
          · exact fun id member => absurd member (AList.notMem_empty id)

/-- A promoted subscriber has all messages of a run whose callback ended well. -/
def SnapshotEvent.Served : SnapshotEvent μ → Prop
  | .sent _ _ => True
  | .promoted _ received snapshot ok => ok = true ∧ snapshot <:+ received

/-- No subscriber waits at the end of a failed run or of a run that sent before it came. -/
def SnapshotState.Orderly (state : SnapshotState σ μ) : SnapshotStep σ μ → Prop
  | .drop ok => state.sent.isSome →
      ∀ id ∈ state.service.newSubscribes, ok = true ∧ id ∉ state.late
  | _ => True

/-- A step serves with its snapshot. -/
theorem SnapshotState.Consistent.served_iff {state : SnapshotState σ μ}
    (consistent : state.Consistent) (step : SnapshotStep σ μ) :
    (∀ event ∈ (state.step step).2, event.Served) ↔ state.Orderly step := by
  cases step with
  | onSubscribe sub => simp [SnapshotState.step, SnapshotState.Orderly]
  | onUnsubscribe id => simp [SnapshotState.step, SnapshotState.Orderly]
  | snapshot =>
      rw [SnapshotState.step]
      split <;> simp [SnapshotState.Orderly]
  | send msg =>
      rw [SnapshotState.step]
      cases state.sent with
      | none => simp [SnapshotState.Orderly]
      | some msgs =>
          refine iff_of_true ?_ trivial
          rw [List.forall_mem_map]
          exact fun _ _ => trivial
  | drop ok =>
      have punctual := consistent.punctual
      have tardy := consistent.tardy
      rw [SnapshotState.step, SnapshotState.Orderly]
      cases sent : state.sent with
      | none => simp
      | some msgs =>
          rw [sent, Option.getD_some] at punctual tardy
          simp only [List.forall_mem_map, ← AList.mem_keys, SnapshotEvent.Served,
            Option.isSome_some, forall_const]
          refine forall₂_congr fun id member => and_congr_right fun _ => ?_
          constructor
          · intro suffix late
            have missed := tardy id member late
            have whole := suffix.length_le
            omega
          · intro early
            rw [punctual id member early]

/-- With snapshots, a subscriber only goes live by a promotion. -/
theorem SnapshotState.Consistent.live_step {state : SnapshotState σ μ}
    (consistent : state.Consistent) (step : SnapshotStep σ μ) (id : Int)
    (live : id ∈ (state.step step).1.service.subscribes) :
    id ∈ state.service.subscribes ∨
      ∃ received snapshot ok, .promoted id received snapshot ok ∈ (state.step step).2 := by
  cases step with
  | onSubscribe sub =>
      have same := (ServiceInner.onSubscribe_live consistent.needed sub).1
      rw [SnapshotState.step, SnapshotState.subscribe] at live
      dsimp only at live
      split at live
      next => exact .inl (same ▸ live)
      next => exact .inl (same ▸ live)
  | onUnsubscribe other =>
      rw [SnapshotState.step] at live
      dsimp only at live
      unfold ServiceInner.onUnsubscribe at live
      cases found : state.service.subscribes.lookup other with
      | some _ =>
          rw [found, AList.mem_erase] at live
          exact .inl live.2
      | none =>
          rw [found] at live
          exact .inl live
  | snapshot =>
      rw [SnapshotState.step] at live
      split at live
      next => exact .inl live
      next => exact .inl live
  | send msg =>
      rw [SnapshotState.step] at live
      cases sent : state.sent with
      | none =>
          rw [sent] at live
          exact .inl live
      | some msgs =>
          rw [sent] at live
          exact .inl live
  | drop ok =>
      rw [SnapshotState.step] at live ⊢
      cases sent : state.sent with
      | none =>
          rw [sent] at live
          exact .inl live
      | some msgs =>
          rw [sent] at live
          rcases (consistent.keyed.mem_swap id).mp live with old | waited
          · exact .inl old
          · refine .inr ⟨state.received id, msgs, ok, ?_⟩
            exact List.mem_map.mpr ⟨id, AList.mem_keys.mp waited, rfl⟩

/-- A service that waits for snapshots starts without subscribers. -/
def SnapshotState.new (σ μ : Type) (name : String) : SnapshotState σ μ :=
  { service := { name := name, needSnapshot := true } }

/-- A new service is consistent. -/
theorem consistent_new (σ μ : Type) [Subscriber σ] (name : String) :
    (SnapshotState.new σ μ name).Consistent :=
  ⟨rfl, keyed_empty, fun id member => absurd member (AList.notMem_empty id),
    fun id member => absurd member (AList.notMem_empty id), fun _ => rfl⟩

theorem snapshots_live_promoted (name : String) (steps : List (SnapshotStep σ μ)) :
    ∀ id ∈ ((snapshots σ μ).run (.new σ μ name) steps).1.service.subscribes,
      ∃ received snapshot ok,
        .promoted id received snapshot ok ∈ ((snapshots σ μ).run (.new σ μ name) steps).2 := by
  have kept := (snapshots σ μ).run_invariant (fun _ _ => True)
    (fun state past => state.Consistent ∧ ∀ id ∈ state.service.subscribes,
      ∃ received snapshot ok, .promoted id received snapshot ok ∈ past)
    (fun state past step _ holds => by
      refine ⟨holds.1.step step, fun id live => ?_⟩
      rcases holds.1.live_step step id live with old | ⟨received, snapshot, ok, now⟩
      · obtain ⟨received, snapshot, ok, before⟩ := holds.2 id old
        exact ⟨received, snapshot, ok, List.mem_append_left _ before⟩
      · exact ⟨received, snapshot, ok, List.mem_append_right _ now⟩)
    (.new σ μ name) [] steps
    ⟨consistent_new σ μ name, fun id member => absurd member (AList.notMem_empty id)⟩
    ((snapshots σ μ).guarded_true _ _)
  simpa using kept.2

/-- Every subscriber that goes live has the snapshot exactly when every run ends in order. -/
theorem snapshots_served_iff (name : String) (steps : List (SnapshotStep σ μ)) :
    ((∀ event ∈ ((snapshots σ μ).run (.new σ μ name) steps).2, event.Served) ↔
      (snapshots σ μ).Guarded SnapshotState.Orderly (.new σ μ name) steps) ∧
    ∀ id ∈ ((snapshots σ μ).run (.new σ μ name) steps).1.service.subscribes,
      ∃ received snapshot ok,
        .promoted id received snapshot ok ∈ ((snapshots σ μ).run (.new σ μ name) steps).2 := by
  refine ⟨?_, snapshots_live_promoted name steps⟩
  exact (snapshots σ μ).run_outputs_iff_of_invariant SnapshotState.Consistent SnapshotState.Orderly
    SnapshotEvent.Served (fun _ step consistent => consistent.step step)
    (fun _ step consistent => consistent.served_iff step) _ steps (consistent_new σ μ name)

instance : Subscriber Int := ⟨fun id => id⟩

/-- A subscriber that comes after the only message of the run is promoted without it. -/
theorem snapshots_late_promoted :
    ¬ ∀ event ∈ ((snapshots Int Nat).run (.new Int Nat "monitor0")
      [.onSubscribe 1, .snapshot, .send 7, .onSubscribe 2, .drop true]).2, event.Served := by
  have event : SnapshotEvent.promoted 2 [] [7] true ∈ ((snapshots Int Nat).run
      (.new Int Nat "monitor0")
      [.onSubscribe 1, .snapshot, .send 7, .onSubscribe 2, .drop true]).2 := by
    have found : ((snapshots Int Nat).run (.new Int Nat "monitor0")
        [.onSubscribe 1, .snapshot, .send 7, .onSubscribe 2, .drop true]).2 =
          [.sent 1 7, .promoted 2 [] [7] true, .promoted 1 [7] [7] true] := by rfl
    rw [found]
    simp
  intro all
  have suffix := (all _ event).2.length_le
  simp at suffix

end SubnetDesk.Services
