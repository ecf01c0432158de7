/-
This file defines a service with its live and its waiting subscribers, its snapshots, and the messages
that change the subscribers that they reach.
-/

import Mathlib.Data.List.AList
import SubnetDesk.Foundation.Machine

namespace SubnetDesk.Services

/-- A subscriber is known by the id of its connection. -/
class Subscriber (σ : Type) where
  id : σ → Int

abbrev Subscribers (σ : Type) := AList fun _ : Int => σ

structure ServiceInner (σ : Type) where
  name : String
  subscribes : Subscribers σ := ∅
  newSubscribes : Subscribers σ := ∅
  needSnapshot : Bool

section Service

variable {σ μ : Type} [Subscriber σ]

/-- The messages that reach the subscribers of a map. -/
def sendTo (subscribers : Subscribers σ) (msg : μ) : List (Int × μ) :=
  subscribers.entries.map fun entry => (Subscriber.id entry.2, msg)

def ServiceInner.sendNewSubscribes (service : ServiceInner σ) (msg : μ) : List (Int × μ) :=
  sendTo service.newSubscribes msg

def ServiceInner.sendShared (service : ServiceInner σ) (msg : μ) : List (Int × μ) :=
  sendTo service.subscribes msg

/-- Every waiting subscriber becomes a live one. -/
def ServiceInner.swapNewSubscribes (service : ServiceInner σ) : ServiceInner σ :=
  { service with
    subscribes := service.newSubscribes.entries.foldl
      (fun subscribes entry => subscribes.insert (Subscriber.id entry.2) entry.2)
      service.subscribes
    newSubscribes := ∅ }

def ServiceInner.onSubscribe (service : ServiceInner σ) (sub : σ) : ServiceInner σ :=
  if (service.subscribes.lookup (Subscriber.id sub)).isSome then service
  else if service.needSnapshot then
    { service with newSubscribes := service.newSubscribes.insert (Subscriber.id sub) sub }
  else { service with subscribes := service.subscribes.insert (Subscriber.id sub) sub }

def ServiceInner.onUnsubscribe (service : ServiceInner σ) (id : Int) : ServiceInner σ :=
  match service.subscribes.lookup id with
  | some _ => { service with subscribes := service.subscribes.erase id }
  | none => { service with newSubscribes := service.newSubscribes.erase id }

/-- The two maps are read under two locks, so the service may change between them. -/
def isSubed (first second : ServiceInner σ) (id : Int) : Bool :=
  (first.subscribes.lookup id).isSome || (second.newSubscribes.lookup id).isSome

/-- The state of a service around the snapshot that its thread may be running. -/
structure SnapshotState (σ μ : Type) where
  service : ServiceInner σ
  sent : Option (List μ) := none
  received : Int → List μ := fun _ => []
  late : List Int := []

/-- Every step takes the lock of the service once. -/
inductive SnapshotStep (σ μ : Type) where
  | onSubscribe (sub : σ)
  | onUnsubscribe (id : Int)
  | snapshot
  | send (msg : μ)
  | drop (ok : Bool)

inductive SnapshotEvent (μ : Type) where
  | sent (id : Int) (msg : μ)
  | promoted (id : Int) (received snapshot : List μ) (ok : Bool)

/-- The callback has sent a message already. -/
def SnapshotState.begun (state : SnapshotState σ μ) : Bool :=
  match state.sent with
  | some (_ :: _) => true
  | _ => false

/-- The history of a subscriber starts when it comes to wait. -/
def SnapshotState.subscribe (state : SnapshotState σ μ) (sub : σ) : SnapshotState σ μ :=
  let id := Subscriber.id sub
  if (state.service.subscribes.lookup id).isSome ∨ (state.service.newSubscribes.lookup id).isSome
  then { state with service := state.service.onSubscribe sub }
  else
    { state with
      service := state.service.onSubscribe sub
      received := Function.update state.received id []
      late := if state.begun then id :: state.late else state.late }

def SnapshotState.step (state : SnapshotState σ μ) :
    SnapshotStep σ μ → SnapshotState σ μ × List (SnapshotEvent μ)
  | .onSubscribe sub => (state.subscribe sub, [])
  | .onUnsubscribe id => ({ state with service := state.service.onUnsubscribe id }, [])
  | .snapshot =>
      if state.sent.isNone ∧ 0 < state.service.newSubscribes.entries.length then
        ({ state with sent := some [] }, [])
      else (state, [])
  | .send msg =>
      match state.sent with
      | none => (state, [])
      | some msgs =>
          ({ state with
              sent := some (msgs ++ [msg])
              received := fun id =>
                if id ∈ state.service.newSubscribes then state.received id ++ [msg]
                else state.received id },
            (state.service.sendNewSubscribes msg).map fun sent => .sent sent.1 sent.2)
  | .drop ok =>
      match state.sent with
      | none => (state, [])
      | some msgs =>
          ({ state with
              service := state.service.swapNewSubscribes
              sent := none
              late := [] },
            state.service.newSubscribes.keys.map fun id =>
              .promoted id (state.received id) msgs ok)

def snapshots (σ μ : Type) [Subscriber σ] :
    Machine (SnapshotState σ μ) (SnapshotStep σ μ) (SnapshotEvent μ) where
  step := SnapshotState.step

end Service

variable {σ : Type}

/-- Every subscriber of a map is changed in place. -/
def Subscribers.update (f : σ → σ) (subscribers : Subscribers σ) : Subscribers σ where
  entries := subscribers.entries.map fun entry => ⟨entry.1, f entry.2⟩
  nodupKeys := by
    have same : (subscribers.entries.map fun entry => (⟨entry.1, f entry.2⟩ : Sigma fun _ => σ)).keys =
        subscribers.entries.keys := by
      simp [List.keys, Function.comp_def]
    rw [List.NodupKeys, same]
    exact subscribers.nodupKeys

def ServiceInner.updateLive (f : σ → σ) (service : ServiceInner σ) : ServiceInner σ :=
  { service with subscribes := service.subscribes.update f }

def ServiceInner.updateNew (f : σ → σ) (service : ServiceInner σ) : ServiceInner σ :=
  { service with newSubscribes := service.newSubscribes.update f }

def ServiceInner.hasSubscribes (service : ServiceInner σ) : Bool :=
  !service.subscribes.entries.isEmpty || !service.newSubscribes.entries.isEmpty

def Subscribers.All (p : σ → Prop) (subscribers : Subscribers σ) : Prop :=
  ∀ entry ∈ subscribers.entries, p entry.2

instance decidableAll (p : σ → Prop) [DecidablePred p] (subscribers : Subscribers σ) :
    Decidable (subscribers.All p) :=
  inferInstanceAs (Decidable (∀ entry ∈ subscribers.entries, p entry.2))

theorem all_empty (p : σ → Prop) : (∅ : Subscribers σ).All p := by
  simp [Subscribers.All]

theorem Subscribers.All.mono {p q : σ → Prop} {subscribers : Subscribers σ}
    (all : subscribers.All p) (implies : ∀ sub, p sub → q sub) : subscribers.All q :=
  fun entry member => implies entry.2 (all entry member)

theorem all_update (p : σ → Prop) (f : σ → σ) (subscribers : Subscribers σ) :
    (subscribers.update f).All p ↔ subscribers.All fun sub => p (f sub) := by
  simp only [Subscribers.All, Subscribers.update, List.forall_mem_map]

theorem Subscribers.All.insert {p : σ → Prop} {subscribers : Subscribers σ}
    (all : subscribers.All p) (id : Int) {sub : σ} (new : p sub) :
    Subscribers.All p (subscribers.insert id sub) := by
  intro entry member
  rw [AList.entries_insert] at member
  rcases List.mem_cons.mp member with rfl | old
  · exact new
  · exact all entry ((List.kerase_sublist _ _).subset old)

theorem Subscribers.All.erase {p : σ → Prop} {subscribers : Subscribers σ}
    (all : subscribers.All p) (id : Int) : Subscribers.All p (subscribers.erase id) :=
  fun entry member => all entry ((List.kerase_sublist _ _).subset member)

theorem all_of_isEmpty (p : σ → Prop) {subscribers : Subscribers σ}
    (empty : subscribers.entries.isEmpty = true) : subscribers.All p := by
  intro entry member
  rw [List.isEmpty_iff.mp empty] at member
  cases member

section Service

variable [Subscriber σ]

theorem all_foldl_insert {p : σ → Prop} (entries : List (Sigma fun _ : Int => σ))
    (subscribers : Subscribers σ) (all : subscribers.All p) (more : ∀ entry ∈ entries, p entry.2) :
    Subscribers.All p (entries.foldl
      (fun subscribes entry => subscribes.insert (Subscriber.id entry.2) entry.2) subscribers) := by
  induction entries generalizing subscribers with
  | nil => exact all
  | cons entry rest ih =>
      rw [List.forall_mem_cons] at more
      rw [List.foldl_cons]
      exact ih _ (all.insert _ more.1) more.2

theorem ServiceInner.swap_all {p : σ → Prop} {service : ServiceInner σ}
    (live : service.subscribes.All p) (waiting : service.newSubscribes.All p) :
    service.swapNewSubscribes.subscribes.All p :=
  all_foldl_insert _ _ live waiting

omit [Subscriber σ] in
theorem ServiceInner.onUnsubscribe_all {p q : σ → Prop} {service : ServiceInner σ} (id : Int)
    (live : service.subscribes.All p) (waiting : service.newSubscribes.All q) :
    (service.onUnsubscribe id).subscribes.All p ∧ (service.onUnsubscribe id).newSubscribes.All q := by
  unfold onUnsubscribe
  cases service.subscribes.lookup id with
  | some _ => exact ⟨live.erase id, waiting⟩
  | none => exact ⟨live, waiting.erase id⟩

/-- Where snapshots are needed, a subscriber that is not live comes to wait. -/
theorem ServiceInner.onSubscribe_all {p q : σ → Prop} {service : ServiceInner σ} (sub : σ)
    (needed : service.needSnapshot = true) (live : service.subscribes.All p)
    (waiting : service.newSubscribes.All q)
    (new : (service.subscribes.lookup (Subscriber.id sub)).isSome = false → q sub) :
    (service.onSubscribe sub).subscribes.All p ∧ (service.onSubscribe sub).newSubscribes.All q := by
  unfold onSubscribe
  cases known : (service.subscribes.lookup (Subscriber.id sub)).isSome with
  | true =>
      rw [if_pos rfl]
      exact ⟨live, waiting⟩
  | false =>
      rw [if_neg (by simp), if_pos needed]
      exact ⟨live, waiting.insert _ (new known)⟩

theorem ServiceInner.onSubscribe_needSnapshot (service : ServiceInner σ) (sub : σ) :
    (service.onSubscribe sub).needSnapshot = service.needSnapshot := by
  unfold onSubscribe
  split
  next => rfl
  next => split <;> rfl

theorem ServiceInner.onSubscribe_subscribes {service : ServiceInner σ} (sub : σ)
    (needed : service.needSnapshot = true) :
    (service.onSubscribe sub).subscribes = service.subscribes := by
  unfold onSubscribe
  rw [if_pos needed]
  split <;> rfl

end Service

theorem ServiceInner.onUnsubscribe_needSnapshot (service : ServiceInner σ) (id : Int) :
    (service.onUnsubscribe id).needSnapshot = service.needSnapshot := by
  unfold onUnsubscribe
  cases service.subscribes.lookup id with
  | some _ => rfl
  | none => rfl

end SubnetDesk.Services
