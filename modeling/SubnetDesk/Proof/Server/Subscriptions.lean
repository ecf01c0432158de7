import SubnetDesk.Construction.Server.Server
import SubnetDesk.Proof.Server.SnapshotDelivery

namespace SubnetDesk.Services

variable {σ μ : Type} [Subscriber σ]

/-- An id is subscribed when it stands in one of the two maps. -/
def ServiceInner.Holds (service : ServiceInner σ) (id : Int) : Prop :=
  id ∈ service.subscribes ∨ id ∈ service.newSubscribes

/-- The two maps of a service are keyed and share no id. -/
structure ServiceInner.Sound (service : ServiceInner σ) : Prop where
  apart : ∀ id, ¬ (id ∈ service.subscribes ∧ id ∈ service.newSubscribes)
  live : Keyed service.subscribes
  waiting : Keyed service.newSubscribes
  direct : service.needSnapshot = false → service.newSubscribes = ∅

/-- Inserted subscribers are stored by their ids. -/
theorem keyed_foldl_insert (entries : List (Sigma fun _ : Int => σ)) (subscribers : Subscribers σ)
    (keyed : Keyed subscribers) :
    Keyed (entries.foldl
      (fun subscribes entry => subscribes.insert (Subscriber.id entry.2) entry.2) subscribers) := by
  induction entries generalizing subscribers with
  | nil => exact keyed
  | cons entry rest ih => exact ih _ (keyed.insert entry.2)

/-- The swap of new subscribers is sound. -/
theorem ServiceInner.Sound.swap {service : ServiceInner σ} (sound : service.Sound) :
    service.swapNewSubscribes.Sound := by
  refine ⟨fun id both => AList.notMem_empty id both.2, ?_, keyed_empty, fun _ => rfl⟩
  exact keyed_foldl_insert _ _ sound.live

/-- The swap loses and adds no subscriber. -/
theorem ServiceInner.Sound.swap_holds {service : ServiceInner σ} (sound : service.Sound)
    (id : Int) : service.swapNewSubscribes.Holds id ↔ service.Holds id := by
  have moved := sound.waiting.mem_swap id
  unfold Holds
  rw [moved]
  exact or_iff_left (AList.notMem_empty id)

theorem ServiceInner.Sound.swapIf {service : ServiceInner σ} (sound : service.Sound)
    (swapped : Bool) : (service.swapIf swapped).Sound := by
  unfold ServiceInner.swapIf
  split
  next => exact sound.swap
  next => exact sound

theorem ServiceInner.Sound.swapIf_holds {service : ServiceInner σ} (sound : service.Sound)
    (swapped : Bool) (id : Int) : (service.swapIf swapped).Holds id ↔ service.Holds id := by
  unfold ServiceInner.swapIf
  split
  next => exact sound.swap_holds id
  next => exact Iff.rfl

/-- A subscription is sound. -/
theorem ServiceInner.Sound.onSubscribe {service : ServiceInner σ} (sound : service.Sound)
    (sub : σ) : (service.onSubscribe sub).Sound := by
  unfold ServiceInner.onSubscribe
  split
  next => exact sound
  next waits =>
    rw [AList.lookup_isSome] at waits
    split
    next needed =>
      refine ⟨?_, sound.live, sound.waiting.insert sub, ?_⟩
      · rintro id ⟨live, waiting⟩
        rcases (AList.mem_insert _).mp waiting with rfl | old
        · exact waits live
        · exact sound.apart id ⟨live, old⟩
      · intro direct
        simp [needed] at direct
    next needless =>
      have none_ := sound.direct (by simpa using needless)
      refine ⟨?_, sound.live.insert sub, sound.waiting, sound.direct⟩
      rintro id ⟨-, waiting⟩
      rw [none_] at waiting
      exact AList.notMem_empty id waiting

/-- A subscription adds its own id. -/
theorem ServiceInner.onSubscribe_holds (service : ServiceInner σ) (sub : σ) (id : Int) :
    (service.onSubscribe sub).Holds id ↔ service.Holds id ∨ id = Subscriber.id sub := by
  unfold ServiceInner.onSubscribe
  split
  next live =>
    rw [AList.lookup_isSome] at live
    constructor
    · exact .inl
    · rintro (held | rfl)
      · exact held
      · exact .inl live
  next =>
    unfold Holds
    split
    next =>
      rw [AList.mem_insert]
      tauto
    next =>
      rw [AList.mem_insert]
      tauto

/-- An end of a subscription is sound. -/
theorem ServiceInner.Sound.onUnsubscribe {service : ServiceInner σ} (sound : service.Sound)
    (id : Int) : (service.onUnsubscribe id).Sound := by
  unfold ServiceInner.onUnsubscribe
  cases service.subscribes.lookup id with
  | some _ =>
      refine ⟨?_, sound.live.erase id, sound.waiting, sound.direct⟩
      rintro other ⟨live, waiting⟩
      exact sound.apart other ⟨(AList.mem_erase.mp live).2, waiting⟩
  | none =>
      refine ⟨?_, sound.live, sound.waiting.erase id, ?_⟩
      · rintro other ⟨live, waiting⟩
        exact sound.apart other ⟨live, (AList.mem_erase.mp waiting).2⟩
      · intro direct
        have none_ := sound.direct direct
        dsimp only
        rw [none_]
        rfl

/-- Unsubscribing takes the id out of the only map that can hold it. -/
theorem ServiceInner.Sound.onUnsubscribe_holds {service : ServiceInner σ} (sound : service.Sound)
    (id other : Int) :
    (service.onUnsubscribe id).Holds other ↔ service.Holds other ∧ other ≠ id := by
  unfold ServiceInner.onUnsubscribe Holds
  cases found : service.subscribes.lookup id with
  | some sub =>
      have live : id ∈ service.subscribes := by
        rw [← AList.lookup_isSome, found]
        rfl
      simp only [AList.mem_erase]
      constructor
      · rintro (⟨different, held⟩ | waiting)
        · exact ⟨.inl held, different⟩
        · refine ⟨.inr waiting, ?_⟩
          rintro rfl
          exact sound.apart other ⟨live, waiting⟩
      · rintro ⟨held | waiting, different⟩
        · exact .inl ⟨different, held⟩
        · exact .inr waiting
  | none =>
      have absent : id ∉ service.subscribes := AList.lookup_eq_none.mp found
      simp only [AList.mem_erase]
      constructor
      · rintro (held | ⟨different, waiting⟩)
        · refine ⟨.inl held, ?_⟩
          rintro rfl
          exact absent held
        · exact ⟨.inr waiting, different⟩
      · rintro ⟨held | waiting, different⟩
        · exact .inl held
        · exact .inr ⟨different, waiting⟩

/-- The two reads are exact unless a promotion between them moves the id. -/
theorem ServiceInner.Sound.isSubed_iff {service : ServiceInner σ} (sound : service.Sound)
    (swapped : Bool) (id : Int) :
    (isSubed service (service.swapIf swapped) id = true ↔ service.Holds id) ↔
      (swapped = true → id ∉ service.newSubscribes) := by
  unfold isSubed Holds ServiceInner.swapIf
  rw [Bool.or_eq_true, AList.lookup_isSome, AList.lookup_isSome]
  cases swapped with
  | false => simp
  | true =>
      have moved : id ∉ service.swapNewSubscribes.newSubscribes := AList.notMem_empty id
      simp only [if_true, moved, or_false, forall_const]
      constructor
      · intro exact_ waiting
        exact sound.apart id ⟨exact_.mpr (.inr waiting), waiting⟩
      · intro absent
        exact ⟨.inl, fun held => held.resolve_right absent⟩

/-- A renewed subscription is sound. -/
theorem ServiceInner.Sound.resubscribe {service : ServiceInner σ} (sound : service.Sound)
    (conn : σ) (sub swapped : Bool) : (service.resubscribe conn sub swapped).Sound := by
  unfold ServiceInner.resubscribe
  split
  next => exact sound.swapIf swapped
  next =>
    split
    next => exact (sound.swapIf swapped).onSubscribe conn
    next => exact (sound.swapIf swapped).onUnsubscribe _

/-- Other ids keep their subscription. -/
theorem ServiceInner.Sound.resubscribe_other {service : ServiceInner σ} (sound : service.Sound)
    (conn : σ) (sub swapped : Bool) {id : Int} (other : id ≠ Subscriber.id conn) :
    (service.resubscribe conn sub swapped).Holds id ↔ service.Holds id := by
  have same := sound.swapIf_holds swapped id
  unfold ServiceInner.resubscribe
  split
  next => exact same
  next =>
    split
    next =>
      rw [ServiceInner.onSubscribe_holds, same]
      exact or_iff_left other
    next =>
      rw [(sound.swapIf swapped).onUnsubscribe_holds, same]
      exact and_iff_left other

/-- A renewed subscription is held. -/
theorem ServiceInner.Sound.resubscribe_true {service : ServiceInner σ} (sound : service.Sound)
    (conn : σ) (swapped : Bool) :
    (service.resubscribe conn true swapped).Holds (Subscriber.id conn) := by
  unfold ServiceInner.resubscribe
  split
  next subed =>
    rw [sound.swapIf_holds]
    unfold isSubed at subed
    rw [Bool.or_eq_true, AList.lookup_isSome, AList.lookup_isSome] at subed
    rcases subed with live | waiting
    · exact .inl live
    · exact (sound.swapIf_holds swapped _).mp (.inr waiting)
  next =>
    rw [if_pos rfl, ServiceInner.onSubscribe_holds]
    exact .inr rfl

/-- Unsubscribing works when the two reads were exact. -/
theorem ServiceInner.Sound.resubscribe_false {service : ServiceInner σ} (sound : service.Sound)
    (conn : σ) (swapped : Bool)
    (undisturbed : swapped = true → Subscriber.id conn ∉ service.newSubscribes) :
    ¬ (service.resubscribe conn false swapped).Holds (Subscriber.id conn) := by
  have exact_ := (sound.isSubed_iff swapped (Subscriber.id conn)).mpr undisturbed
  unfold ServiceInner.resubscribe
  split
  next unsubed =>
    rw [sound.swapIf_holds, ← exact_, unsubed]
    simp
  next =>
    rw [if_neg (by simp), (sound.swapIf swapped).onUnsubscribe_holds]
    exact fun held => held.2 rfl

/-- Every service of the server is sound. -/
def Server.Sound (server : Server σ) : Prop := ∀ service ∈ server.services, service.Sound

/-- A service of the given name holds the id. -/
def Server.Subscribed (server : Server σ) (name : String) (id : Int) : Prop :=
  ∃ service ∈ server.services, service.name = name ∧ service.Holds id

/-- An operation that leaves sound services sound. -/
def ServiceOp.Keeps (op : ServiceOp σ) : Prop :=
  ∀ service : ServiceInner σ, service.Sound → (op.apply service).Sound

theorem keeps_idle : (ServiceOp.idle : ServiceOp σ).Keeps := fun _ sound => sound

theorem keeps_swap : (ServiceOp.swap : ServiceOp σ).Keeps := fun _ sound => sound.swap

theorem keeps_subscribe (sub : σ) : (ServiceOp.subscribe sub).Keeps :=
  fun _ sound => sound.onSubscribe sub

theorem keeps_unsubscribe (id : Int) : (ServiceOp.unsubscribe id : ServiceOp σ).Keeps :=
  fun _ sound => sound.onUnsubscribe id

theorem keeps_resubscribe (conn : σ) (sub swapped : Bool) :
    (ServiceOp.resubscribe conn sub swapped).Keeps :=
  fun _ sound => sound.resubscribe conn sub swapped

/-- An update by sound operations is sound. -/
theorem Server.Sound.update {server : Server σ} (sound : server.Sound)
    {op : String → ServiceOp σ} (keeps : ∀ name, (op name).Keeps) : (server.update op).Sound := by
  intro service member
  obtain ⟨old, inside, rfl⟩ := List.mem_map.mp member
  exact keeps old.name old (sound old inside)

/-- A sound operation on one service is sound. -/
theorem Server.Sound.updateOne {server : Server σ} (sound : server.Sound) {op : ServiceOp σ}
    (keeps : op.Keeps) (name : String) : (server.updateOne name op).Sound := by
  refine sound.update fun other => ?_
  split
  next => exact keeps
  next => exact keeps_idle

omit [Subscriber σ] in
/-- An update decides each subscription. -/
theorem Server.update_subscribed (server : Server σ) (op : String → ServiceOp σ) (name : String)
    (id : Int) :
    (server.update op).Subscribed name id ↔
      ∃ service ∈ server.services, service.name = name ∧ ((op name).apply service).Holds id := by
  unfold Subscribed Server.update
  simp only [List.mem_map, exists_exists_and_eq_and]
  refine exists_congr fun service => and_congr_right fun _ => ?_
  rw [(op service.name).named]
  constructor
  · rintro ⟨rfl, held⟩
    exact ⟨rfl, held⟩
  · rintro ⟨rfl, held⟩
    exact ⟨rfl, held⟩

omit [Subscriber σ] in
theorem Server.eq_of_services {first second : Server σ}
    (connections : first.connections = second.connections)
    (services : first.services = second.services) : first = second := by
  cases first
  cases second
  cases connections
  cases services
  rfl

omit [Subscriber σ] in
/-- Two updates are one. -/
theorem Server.update_update (server : Server σ) (first second : String → ServiceOp σ) :
    (server.update first).update second =
      server.update fun name =>
        ⟨fun service => (second name).apply ((first name).apply service),
          fun service => by rw [(second name).named, (first name).named]⟩ := by
  refine Server.eq_of_services rfl ?_
  simp only [Server.update, List.map_map]
  refine List.map_congr_left fun service _ => ?_
  rw [Function.comp_apply, (first service.name).named]

omit [Subscriber σ] in
/-- An update depends on the listed services. -/
theorem Server.update_congr (server : Server σ) {first second : String → ServiceOp σ}
    (agree : ∀ service ∈ server.services,
      (first service.name).apply service = (second service.name).apply service) :
    server.update first = server.update second :=
  Server.eq_of_services rfl (List.map_congr_left agree)

omit [Subscriber σ] in
/-- Updates of different services, one after the other, are one update. -/
theorem Server.foldl_updateOne (op : String → ServiceOp σ) (names : List String)
    (distinct : names.Nodup) (server : Server σ) :
    names.foldl (fun server name => server.updateOne name (op name)) server =
      server.update fun name => if name ∈ names then op name else .idle := by
  induction names generalizing server with
  | nil =>
      refine Server.eq_of_services rfl ?_
      simp [Server.update, ServiceOp.idle]
  | cons name rest ih =>
      obtain ⟨absent, distinct⟩ := List.nodup_cons.mp distinct
      rw [List.foldl_cons, ih distinct, Server.updateOne, Server.update_update]
      refine Server.update_congr server fun service _ => ?_
      by_cases here : service.name = name
      · simp [here, absent, ServiceOp.idle]
      · simp [here, ServiceOp.idle]

/-- The service of this name is asked whether the connection is subscribed. -/
def Visited (displays : List String) (include_ exclude : Bool) (name : String) : Prop :=
  isVideoServiceName name = true ∧
    if name ∈ displays then include_ = true else exclude = true

instance (displays : List String) (include_ exclude : Bool) (name : String) :
    Decidable (Visited displays include_ exclude name) :=
  inferInstanceAs (Decidable (_ ∧ _))

def captureOp (conn : σ) (displays : List String) (include_ exclude : Bool)
    (swapped : String → Bool) (name : String) : ServiceOp σ :=
  if Visited displays include_ exclude name then
    .resubscribe conn (decide (name ∈ displays)) (swapped name)
  else .idle

omit [Subscriber σ] in
theorem Server.updateOne_idle (server : Server σ) (name : String) :
    server.updateOne name .idle = server := by
  refine Server.eq_of_services rfl ?_
  simp [Server.updateOne, Server.update, ServiceOp.idle]

/-- A capture is an update of the services. -/
theorem Server.captureDisplay_eq (server : Server σ) (conn : σ) (displays : List String)
    (include_ exclude : Bool) (swapped : String → Bool) (name : String) :
    server.captureDisplay conn displays include_ exclude swapped name =
      server.updateOne name (captureOp conn displays include_ exclude swapped name) := by
  unfold Server.captureDisplay captureOp Visited Server.subscribe
  by_cases video : isVideoServiceName name = true
  · by_cases listed : name ∈ displays
    · cases include_ <;> simp [video, listed, Server.updateOne_idle]
    · cases exclude <;> simp [video, listed, Server.updateOne_idle]
  · simp [video, Server.updateOne_idle]

/-- Capturing displays is one update of all services. -/
theorem Server.captureDisplays_eq (server : Server σ) (conn : σ) (source : VideoSource)
    (displays : List Nat) (include_ exclude : Bool) (swapped : String → Bool) :
    server.captureDisplays conn source displays include_ exclude swapped =
      server.update (captureOp conn (displays.map (getServiceName source)) include_ exclude
        swapped) := by
  unfold Server.captureDisplays
  simp only [Server.captureDisplay_eq]
  rw [Server.foldl_updateOne _ _ server.distinct]
  refine Server.update_congr server fun service member => ?_
  rw [if_pos (List.mem_map_of_mem member)]

/-- Each operation of a capture is sound. -/
theorem keeps_captureOp (conn : σ) (displays : List String) (include_ exclude : Bool)
    (swapped : String → Bool) (name : String) :
    (captureOp conn displays include_ exclude swapped name).Keeps := by
  unfold captureOp
  split
  next => exact keeps_resubscribe conn _ _
  next => exact keeps_idle

/-- Each operation on a monitor is sound. -/
theorem keeps_monitorOp (conn : σ) (noperms : List String) (displayIdx : Nat) (name : String) :
    (monitorOp conn noperms displayIdx name).Keeps := by
  unfold monitorOp
  split
  next => exact keeps_idle
  next =>
    split
    next => exact keeps_subscribe conn
    next => exact keeps_idle

theorem sound_fresh (name : String) (needSnapshot : Bool) :
    ServiceInner.Sound { name := name, needSnapshot := needSnapshot : ServiceInner σ } :=
  ⟨fun id both => AList.notMem_empty id both.1, keyed_empty, keyed_empty, fun _ => rfl⟩

/-- A new service is sound. -/
theorem Server.Sound.tryAddService {server : Server σ} (sound : server.Sound) (name : String)
    (needSnapshot : Bool) : (server.tryAddService name needSnapshot).Sound := by
  unfold Server.tryAddService
  split
  next =>
    intro service member
    rcases List.mem_append.mp member with old | new
    · exact sound service old
    · rw [List.mem_singleton] at new
      exact new ▸ sound_fresh name needSnapshot
  next => exact sound

/-- One step keeps a server sound. -/
theorem Server.Sound.step {server : Server σ} (sound : server.Sound) (step : ServerStep σ μ) :
    (server.step step).1.Sound := by
  cases step with
  | tryAddService name needSnapshot => exact sound.tryAddService name needSnapshot
  | addCameraConnection conn cameraExists =>
      rw [Server.step, Server.addCameraConnection]
      cases cameraExists with
      | false => exact sound
      | true => exact sound.updateOne (keeps_subscribe conn) _
  | addMonitorConnection conn noperms displayIdx =>
      exact sound.update (keeps_monitorOp conn noperms displayIdx)
  | removeConnection conn => exact sound.update fun _ => keeps_unsubscribe _
  | subscribe name conn sub swapped =>
      exact sound.updateOne (keeps_resubscribe conn sub swapped) name
  | captureDisplays conn source displays include_ exclude swapped =>
      rw [Server.step, Server.captureDisplays_eq]
      exact sound.update (keeps_captureOp conn _ include_ exclude swapped)
  | promote name => exact sound.updateOne keeps_swap name
  | sendShared name msg => exact sound

/-- Every run of a server is sound. -/
theorem server_sound (steps : List (ServerStep σ μ)) :
    ((serverMachine σ μ).run (.new σ) steps).1.Sound :=
  (serverMachine σ μ).run_invariant (fun _ _ => True) (fun server _ => server.Sound)
    (fun _ _ step _ sound => sound.step step) (.new σ) [] steps (by simp [Server.Sound, Server.new])
    ((serverMachine σ μ).guarded_true _ _)

theorem isVideoServiceName_getServiceName (source : VideoSource) (idx : Nat) :
    isVideoServiceName (getServiceName source idx) = true := by
  have starts : startsWith (getServiceName source idx) source.serviceNamePrefix = true := by
    rw [startsWith, List.isPrefixOf_iff_prefix, getServiceName, String.toList_append]
    exact List.prefix_append _ _
  unfold isVideoServiceName
  cases source with
  | monitor => rw [starts, Bool.true_or]
  | camera => rw [starts, Bool.or_true]

/-- What capturing displays promises to the connection and to everybody else. -/
structure Captured (before after : Server σ) (id : Int) (listed : List String)
    (include_ exclude : Bool) : Prop where
  others : ∀ name other, other ≠ id →
    (after.Subscribed name other ↔ before.Subscribed name other)
  noVideo : ∀ service ∈ before.services, isVideoServiceName service.name = false →
    service ∈ after.services
  included : include_ = true → ∀ name ∈ listed, before.contains name = true →
    after.Subscribed name id
  gained : ∀ name, after.Subscribed name id →
    before.Subscribed name id ∨ (include_ = true ∧ name ∈ listed)
  excluded : exclude = true → ∀ name, isVideoServiceName name = true → name ∉ listed →
    ¬ after.Subscribed name id
  lost : ∀ name, before.Subscribed name id →
    after.Subscribed name id ∨
      (exclude = true ∧ isVideoServiceName name = true ∧ name ∉ listed)

/-- No promotion moves the id between the two reads of a visited service. -/
def Server.Undisturbed (server : Server σ) (id : Int) (visited : String → Prop)
    (swapped : String → Bool) : Prop :=
  ∀ service ∈ server.services, visited service.name → swapped service.name = true →
    id ∉ service.newSubscribes

/-- The two reads of a visited service tell whether it holds the id. -/
def Server.SubedExact (server : Server σ) (id : Int) (visited : String → Prop)
    (swapped : String → Bool) : Prop :=
  ∀ service ∈ server.services, visited service.name →
    (isSubed service (service.swapIf (swapped service.name)) id = true ↔ service.Holds id)

/-- An exact subscription follows the visits. -/
theorem Server.Sound.subedExact_iff {server : Server σ} (sound : server.Sound) (id : Int)
    (visited : String → Prop) (swapped : String → Bool) :
    server.SubedExact id visited swapped ↔ server.Undisturbed id visited swapped :=
  forall₃_congr fun service member _ => (sound service member).isSubed_iff _ id

omit [Subscriber σ] in
theorem Server.contains_iff (server : Server σ) (name : String) :
    server.contains name = true ↔ ∃ service ∈ server.services, service.name = name := by
  simp [Server.contains, Server.getService, List.find?_isSome]

/-- A capture leaves exactly its displays. -/
theorem Server.Sound.captured {server : Server σ} (sound : server.Sound) (conn : σ)
    (source : VideoSource) (displays : List Nat) (include_ exclude : Bool)
    (swapped : String → Bool)
    (undisturbed : server.Undisturbed (Subscriber.id conn)
      (Visited (displays.map (getServiceName source)) include_ exclude) swapped) :
    Captured server (server.captureDisplays conn source displays include_ exclude swapped)
      (Subscriber.id conn) (displays.map (getServiceName source)) include_ exclude := by
  rw [Server.captureDisplays_eq]
  generalize listedEq : displays.map (getServiceName source) = listed at undisturbed ⊢
  have video : ∀ name ∈ listed, isVideoServiceName name = true := by
    subst listedEq
    rw [List.forall_mem_map]
    exact fun display _ => isVideoServiceName_getServiceName source display
  have listedHolds (name : String) (inside : name ∈ listed) (service : ServiceInner σ)
      (member : service ∈ server.services) (included : include_ = true) :
      ((captureOp conn listed include_ exclude swapped name).apply service).Holds
        (Subscriber.id conn) := by
    rw [captureOp, if_pos ⟨video name inside, by rw [if_pos inside]; exact included⟩,
      decide_eq_true inside]
    exact (sound service member).resubscribe_true conn (swapped name)
  refine ⟨?_, ?_, ?_, ?_, ?_, ?_⟩
  · intro name other different
    rw [Server.update_subscribed]
    refine exists_congr fun service => and_congr_right fun member => and_congr_right fun _ => ?_
    unfold captureOp
    split
    next => exact (sound service member).resubscribe_other conn _ _ different
    next => exact Iff.rfl
  · intro service member plain
    refine List.mem_map.mpr ⟨service, member, ?_⟩
    have skipped : ¬ Visited listed include_ exclude service.name :=
      fun visited => absurd visited.1 (by simp [plain])
    rw [captureOp, if_neg skipped]
    rfl
  · intro included name inside exists_
    obtain ⟨service, member, named⟩ := (server.contains_iff name).mp exists_
    rw [Server.update_subscribed]
    exact ⟨service, member, named, listedHolds name inside service member included⟩
  · intro name
    rw [Server.update_subscribed]
    rintro ⟨service, member, rfl, holds⟩
    by_cases inside : service.name ∈ listed
    · by_cases included : include_ = true
      · exact .inr ⟨included, inside⟩
      · rw [captureOp, if_neg (fun visited => included (by simpa [inside] using visited.2))]
          at holds
        exact .inl ⟨service, member, rfl, holds⟩
    · unfold captureOp at holds
      split at holds
      next visited =>
        rw [decide_eq_false inside] at holds
        exact absurd holds ((sound service member).resubscribe_false conn _
          (undisturbed service member visited))
      next => exact .inl ⟨service, member, rfl, holds⟩
  · intro excluded name isVideo outside
    rw [Server.update_subscribed]
    rintro ⟨service, member, rfl, holds⟩
    have visited : Visited listed include_ exclude service.name :=
      ⟨isVideo, by rw [if_neg outside]; exact excluded⟩
    rw [captureOp, if_pos visited, decide_eq_false outside] at holds
    exact (sound service member).resubscribe_false conn _
      (undisturbed service member visited) holds
  · rintro name ⟨service, member, rfl, holds⟩
    rw [Server.update_subscribed]
    by_cases visited : Visited listed include_ exclude service.name
    · by_cases inside : service.name ∈ listed
      · have included : include_ = true := by simpa [inside] using visited.2
        exact .inl ⟨service, member, rfl, listedHolds _ inside service member included⟩
      · have excluded : exclude = true := by simpa [inside] using visited.2
        exact .inr ⟨excluded, visited.1, inside⟩
    · refine .inl ⟨service, member, rfl, ?_⟩
      rw [captureOp, if_neg visited]
      exact holds

/-- No service of the server holds the id. -/
def Server.Forgets (server : Server σ) (id : Int) : Prop :=
  ∀ service ∈ server.services, ¬ service.Holds id

/-- A removed connection is forgotten. -/
theorem Server.Sound.removed {server : Server σ} (sound : server.Sound) (conn : σ) :
    (server.removeConnection conn).Forgets (Subscriber.id conn) := by
  intro service member holds
  obtain ⟨old, inside, rfl⟩ := List.mem_map.mp member
  exact (((sound old inside).onUnsubscribe_holds _ _).mp holds).2 rfl

/-- What each operation promises in the state in which it is called. -/
def Server.Behaves (server : Server σ) : ServerStep σ μ → Prop
  | .removeConnection conn => (server.removeConnection conn).Forgets (Subscriber.id conn)
  | .subscribe name conn _ swapped =>
      server.SubedExact (Subscriber.id conn) (· = name) (fun _ => swapped)
  | .captureDisplays conn source displays include_ exclude swapped =>
      server.SubedExact (Subscriber.id conn)
          (Visited (displays.map (getServiceName source)) include_ exclude) swapped ∧
        Captured server (server.captureDisplays conn source displays include_ exclude swapped)
          (Subscriber.id conn) (displays.map (getServiceName source)) include_ exclude
  | .sendShared name msg =>
      ((server.step (.sendShared name msg)).2.map Delivery.id).Nodup
  | _ => True

/-- No promotion of a service falls between the two locks of its `isSubed` while the id waits. -/
def Server.Calm (server : Server σ) : ServerStep σ μ → Prop
  | .subscribe name conn _ swapped =>
      server.Undisturbed (Subscriber.id conn) (· = name) (fun _ => swapped)
  | .captureDisplays conn source displays include_ exclude swapped =>
      server.Undisturbed (Subscriber.id conn)
        (Visited (displays.map (getServiceName source)) include_ exclude) swapped
  | _ => True

/-- A message goes once to every subscriber. -/
theorem sendTo_ids {subscribers : Subscribers σ} (keyed : Keyed subscribers) (msg : μ) :
    (sendTo subscribers msg).map Prod.fst = subscribers.keys := by
  rw [sendTo, List.map_map, AList.keys, List.keys]
  exact List.map_congr_left fun entry member => keyed entry member

/-- A message goes to one service at most. -/
theorem Server.Sound.sent_ids {server : Server σ} (sound : server.Sound) (name : String)
    (msg : μ) :
    (server.step (.sendShared name msg)).2.map Delivery.id = [] ∨
      ∃ service ∈ server.services,
        (server.step (.sendShared name msg)).2.map Delivery.id = service.subscribes.keys := by
  rw [Server.step]
  cases found : server.getService name with
  | none => exact .inl rfl
  | some service =>
      have member := List.mem_of_find?_eq_some found
      refine .inr ⟨service, member, ?_⟩
      rw [Option.map_some, Option.getD_some, List.map_map, ← sendTo_ids (sound service member).live]
      rfl

/-- A step behaves where it is calm. -/
theorem Server.Sound.behaves_iff {server : Server σ} (sound : server.Sound)
    (step : ServerStep σ μ) : server.Behaves step ↔ server.Calm step := by
  cases step with
  | tryAddService name needSnapshot => exact Iff.rfl
  | addCameraConnection conn cameraExists => exact Iff.rfl
  | addMonitorConnection conn noperms displayIdx => exact Iff.rfl
  | removeConnection conn => exact iff_of_true (sound.removed conn) trivial
  | subscribe name conn sub swapped =>
      exact sound.subedExact_iff (Subscriber.id conn) (· = name) (fun _ => swapped)
  | captureDisplays conn source displays include_ exclude swapped =>
      have exact_ := sound.subedExact_iff (Subscriber.id conn)
        (Visited (displays.map (getServiceName source)) include_ exclude) swapped
      exact ⟨fun behaves => exact_.mp behaves.1, fun calm => ⟨exact_.mpr calm,
        sound.captured conn source displays include_ exclude swapped calm⟩⟩
  | promote name => exact Iff.rfl
  | sendShared name msg =>
      refine iff_of_true ?_ trivial
      rw [Server.Behaves]
      rcases sound.sent_ids name msg with none_ | ⟨service, -, keys⟩
      · rw [none_]
        exact List.nodup_nil
      · rw [keys]
        exact service.subscribes.keys_nodup

/-- The operations that may subscribe an id. -/
def ServerStep.Adds (id : Int) : ServerStep σ μ → Prop
  | .addCameraConnection conn _ => Subscriber.id conn = id
  | .addMonitorConnection conn _ _ => Subscriber.id conn = id
  | .subscribe _ conn sub _ => Subscriber.id conn = id ∧ sub = true
  | .captureDisplays conn _ _ include_ _ _ => Subscriber.id conn = id ∧ include_ = true
  | _ => False

/-- An operation that does not bring the id to a sound service. -/
def ServiceOp.Ignores (op : ServiceOp σ) (id : Int) : Prop :=
  ∀ service : ServiceInner σ, service.Sound → ¬ service.Holds id → ¬ (op.apply service).Holds id

theorem ignores_subscribe {conn : σ} {id : Int} (other : Subscriber.id conn ≠ id) :
    (ServiceOp.subscribe conn).Ignores id := by
  intro service _ absent holds
  rcases (service.onSubscribe_holds conn id).mp holds with old | same
  · exact absent old
  · exact other same.symm

theorem ignores_resubscribe {conn : σ} {id : Int} (sub swapped : Bool)
    (other : Subscriber.id conn = id → sub = false) :
    (ServiceOp.resubscribe conn sub swapped).Ignores id := by
  intro service sound absent
  by_cases same : Subscriber.id conn = id
  · obtain rfl := other same
    subst same
    exact sound.resubscribe_false conn swapped fun _ waiting => absent (.inr waiting)
  · intro holds
    exact absent ((sound.resubscribe_other conn sub swapped (Ne.symm same)).mp holds)

/-- An update by others forgets a connection. -/
theorem Server.Forgets.update {server : Server σ} (sound : server.Sound) {id : Int}
    (forgets : server.Forgets id) (op : String → ServiceOp σ)
    (ignores : ∀ name, (op name).Ignores id) : (server.update op).Forgets id := by
  intro service member
  obtain ⟨old, inside, rfl⟩ := List.mem_map.mp member
  exact ignores old.name old (sound old inside) (forgets old inside)

theorem Server.Forgets.updateOne {server : Server σ} (sound : server.Sound) {id : Int}
    (forgets : server.Forgets id) {op : ServiceOp σ} (ignores : op.Ignores id) (name : String) :
    (server.updateOne name op).Forgets id := by
  refine forgets.update sound _ fun other => ?_
  split
  next => exact ignores
  next => exact fun _ _ absent => absent

/-- A step of others forgets a connection. -/
theorem Server.Forgets.step {server : Server σ} (sound : server.Sound) {id : Int}
    (forgets : server.Forgets id) {step : ServerStep σ μ} (unadded : ¬ step.Adds id) :
    (server.step step).1.Forgets id := by
  have idle : (ServiceOp.idle : ServiceOp σ).Ignores id := fun _ _ absent => absent
  cases step with
  | tryAddService name needSnapshot =>
      rw [Server.step, Server.tryAddService]
      split
      next =>
        intro service member
        rcases List.mem_append.mp member with old | new
        · exact forgets service old
        · rw [List.mem_singleton] at new
          subst new
          exact fun holds => holds.elim (AList.notMem_empty id) (AList.notMem_empty id)
      next => exact forgets
  | addCameraConnection conn cameraExists =>
      rw [Server.step, Server.addCameraConnection]
      cases cameraExists with
      | false => exact forgets
      | true => exact forgets.updateOne sound (ignores_subscribe unadded) _
  | addMonitorConnection conn noperms displayIdx =>
      refine forgets.update sound (monitorOp conn noperms displayIdx) fun name => ?_
      unfold monitorOp
      split
      next => exact idle
      next =>
        split
        next => exact ignores_subscribe unadded
        next => exact idle
  | removeConnection conn =>
      refine forgets.update sound (fun _ => .unsubscribe (Subscriber.id conn)) fun name => ?_
      exact fun service isSound absent holds =>
        absent ((isSound.onUnsubscribe_holds _ _).mp holds).1
  | subscribe name conn sub swapped =>
      refine forgets.updateOne sound (ignores_resubscribe sub swapped fun same => ?_) name
      exact Bool.eq_false_iff.mpr fun adds => unadded ⟨same, adds⟩
  | captureDisplays conn source displays include_ exclude swapped =>
      rw [Server.step, Server.captureDisplays_eq]
      refine forgets.update sound _ fun name => ?_
      unfold captureOp
      split
      next visited =>
        refine ignores_resubscribe _ _ fun same => ?_
        refine decide_eq_false fun inside => unadded ⟨same, ?_⟩
        simpa [inside] using visited.2
      next => exact idle
  | promote name =>
      refine forgets.updateOne sound (fun service isSound absent holds => ?_) name
      exact absent ((isSound.swap_holds id).mp holds)
  | sendShared name msg => exact forgets

/-- A forgotten connection gets no message. -/
theorem Server.Forgets.unsent {server : Server σ} (sound : server.Sound) {id : Int}
    (forgets : server.Forgets id) (step : ServerStep σ μ) :
    ∀ delivery ∈ (server.step step).2, delivery.id ≠ id := by
  cases step with
  | sendShared name msg =>
      intro delivery member same
      have sent := List.mem_map_of_mem (f := Delivery.id) member
      rcases sound.sent_ids name msg with none_ | ⟨service, inside, keys⟩
      · rw [none_] at sent
        simp at sent
      · rw [keys, ← AList.mem_keys, same] at sent
        exact forgets service inside (.inl sent)
  | _ => exact fun delivery member => absurd member (by simp [Server.step])

/-- A connection stays forgotten. -/
theorem Server.Forgets.run {server : Server σ} (sound : server.Sound) {id : Int}
    (forgets : server.Forgets id) (steps : List (ServerStep σ μ))
    (unadded : ∀ step ∈ steps, ¬ step.Adds id) :
    ((serverMachine σ μ).run server steps).1.Forgets id ∧
      ∀ delivery ∈ ((serverMachine σ μ).run server steps).2, delivery.id ≠ id := by
  induction steps generalizing server with
  | nil => exact ⟨forgets, by simp [Machine.run]⟩
  | cons step rest ih =>
      have next := forgets.step sound (unadded step (by simp))
      obtain ⟨forgotten, unsent⟩ := ih (sound.step step) next
        fun later member => unadded later (by simp [member])
      refine ⟨forgotten, fun delivery member => ?_⟩
      rcases List.mem_append.mp member with now | later
      · exact forgets.unsent sound step delivery now
      · exact unsent delivery later

/-- Subscriptions stay apart and are forgotten on removal, and every operation keeps its promise
exactly when no promotion disturbs it. -/
theorem server_subscriptions (steps : List (ServerStep σ μ)) :
    ((serverMachine σ μ).Guarded Server.Behaves (.new σ) steps ↔
      (serverMachine σ μ).Guarded Server.Calm (.new σ) steps) ∧
    (∀ service ∈ ((serverMachine σ μ).run (.new σ) steps).1.services, ∀ id,
      ¬ (id ∈ service.subscribes ∧ id ∈ service.newSubscribes)) ∧
    ∀ before conn after, steps = before ++ .removeConnection conn :: after →
      (∀ step ∈ after, ¬ step.Adds (Subscriber.id conn)) →
      let removed := (((serverMachine σ μ).run (.new σ) before).1).removeConnection conn
      ((serverMachine σ μ).run removed after).1.Forgets (Subscriber.id conn) ∧
        ∀ delivery ∈ ((serverMachine σ μ).run removed after).2,
          delivery.id ≠ Subscriber.id conn := by
  have soundNew : (Server.new σ).Sound := by simp [Server.Sound, Server.new]
  refine ⟨?_, fun service member => (server_sound steps service member).apart, ?_⟩
  · exact (serverMachine σ μ).guarded_iff_of_invariant Server.Sound _ _
      (fun _ step sound => sound.step step) (fun _ step sound => sound.behaves_iff step)
      _ steps soundNew
  · rintro before conn after - unadded
    have sound := server_sound (μ := μ) before
    exact (sound.removed conn).run (sound.step (.removeConnection conn : ServerStep σ μ)) after
      unadded

/-- A promotion between the two reads keeps an excluded connection subscribed. -/
theorem server_excluded_subscribed :
    ¬ (serverMachine Int Nat).Guarded Server.Behaves (.new Int)
      [.tryAddService "monitor0" true, .addMonitorConnection 1 [] 0,
        .captureDisplays 1 .monitor [] false true fun _ => true] := by
  rintro ⟨-, -, ⟨-, captured⟩, -⟩
  refine captured.excluded rfl "monitor0" (by decide +kernel) (by simp) ?_
  exact ⟨_, List.mem_singleton.mpr rfl, by decide +kernel, .inl (by decide +kernel)⟩

end SubnetDesk.Services
