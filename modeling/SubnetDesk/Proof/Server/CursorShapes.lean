import SubnetDesk.Construction.Server.MouseCursor

namespace SubnetDesk.MouseCursor
open SubnetDesk.Services

theorem IdsAfterData.empty (id : Int) : ConnInner.IdsAfterData { id } := by
  intro before id after split
  cases before <;> simp at split

theorem ConnInner.IdsAfterData.send {inner : ConnInner} (ordered : inner.IdsAfterData)
    {msg : Message}
    (known : ∀ id, msg = .cursorId id → ∃ data : CursorData,
      data.id = id ∧ .cursorData data ∈ inner.sent) :
    (inner.send msg).IdsAfterData := by
  intro before id after split
  dsimp only [ConnInner.send] at split
  rcases List.eq_nil_or_concat after with rfl | ⟨middle, last, rfl⟩
  · obtain ⟨same, last⟩ := List.append_inj' split rfl
    obtain ⟨data, named, member⟩ := known id (List.cons.inj last).1
    exact ⟨data, named, same ▸ member⟩
  · rw [List.concat_eq_append, ← List.cons_append, ← List.append_assoc] at split
    exact ordered before id middle (List.append_inj' split rfl).1

theorem ConnInner.client_send (inner : ConnInner) (msg : Message) :
    (inner.send msg).client = inner.client.receive msg := by
  rw [ConnInner.client, ConnInner.send, List.foldl_append]
  rfl

section Shapes

variable (shape : UInt64 → CursorData)

/-- A message carries the shape of an id. -/
def Message.Carries (id : UInt64) (msg : Message) : Prop :=
  msg = .cursorData (shape id) ∧ (shape id).id = id

def Message.Known (msg : Message) : Prop := msg = .empty ∨ ∃ id, msg.Carries shape id

/-- The ids that a subscriber would be sent stand for shapes that it was sent. -/
structure MouseCursorSub.Recorded (sub : MouseCursorSub) : Prop where
  ordered : sub.inner.IdsAfterData
  ids : ∀ id msg, sub.cached.lookup id = some msg → msg = .cursorId id
  data : ∀ id ∈ sub.cached, ∃ data : CursorData, data.id = id ∧ .cursorData data ∈ sub.inner.sent
  cache : ∀ id ∈ sub.cached, sub.inner.client.cache id = some (shape id)

theorem recorded_from (id : Int) : (MouseCursorSub.from { id }).Recorded shape :=
  ⟨IdsAfterData.empty id, fun id msg found => by simp [MouseCursorSub.from] at found,
    fun id member => absurd member (AList.notMem_empty id),
    fun id member => absurd member (AList.notMem_empty id)⟩

variable {shape}

theorem MouseCursorSub.send_empty (sub : MouseCursorSub) :
    sub.send .empty = { sub with inner := sub.inner.send .empty } := rfl

/-- A subscriber is sent the data of a new shape and the id of an old one. -/
theorem MouseCursorSub.Recorded.send_cases {sub : MouseCursorSub} (recorded : sub.Recorded shape)
    {id : UInt64} {msg : Message} (carries : msg.Carries shape id) :
    (id ∈ sub.cached ∧ sub.send msg = { sub with inner := sub.inner.send (.cursorId id) }) ∨
      (id ∉ sub.cached ∧ sub.send msg =
        { inner := sub.inner.send msg
          cached := sub.cached.insert id (.cursorId id) }) := by
  obtain ⟨rfl, named⟩ := carries
  unfold MouseCursorSub.send
  dsimp only
  rw [named]
  cases found : sub.cached.lookup id with
  | some cached =>
      rw [recorded.ids id cached found] at *
      exact .inl ⟨AList.lookup_isSome.mp (by rw [found]; rfl), rfl⟩
  | none => exact .inr ⟨AList.lookup_eq_none.mp found, rfl⟩

theorem MouseCursorSub.Recorded.empty {sub : MouseCursorSub} (recorded : sub.Recorded shape) :
    (sub.send .empty).Recorded shape := by
  rw [MouseCursorSub.send_empty]
  refine ⟨recorded.ordered.send (fun id same => by cases same), recorded.ids, ?_, ?_⟩
  · intro id member
    obtain ⟨data, named, before⟩ := recorded.data id member
    exact ⟨data, named, List.mem_append_left _ before⟩
  · intro id member
    dsimp only
    rw [ConnInner.client_send]
    exact recorded.cache id member

theorem MouseCursorSub.Recorded.carry {sub : MouseCursorSub} (recorded : sub.Recorded shape)
    {id : UInt64} {msg : Message} (carries : msg.Carries shape id) :
    (sub.send msg).Recorded shape ∧ (sub.send msg).inner.client.shown = some (shape id) := by
  rcases recorded.send_cases carries with ⟨old, sent⟩ | ⟨new, sent⟩
  · rw [sent]
    refine ⟨⟨recorded.ordered.send ?_, recorded.ids, ?_, ?_⟩, ?_⟩
    · rintro other ⟨⟩
      exact recorded.data id old
    · intro other member
      obtain ⟨data, named, before⟩ := recorded.data other member
      exact ⟨data, named, List.mem_append_left _ before⟩
    · intro other member
      dsimp only
      rw [ConnInner.client_send]
      exact recorded.cache other member
    · dsimp only
      rw [ConnInner.client_send]
      exact recorded.cache id old
  · obtain ⟨rfl, named⟩ := carries
    rw [sent]
    refine ⟨⟨recorded.ordered.send (fun id same => by cases same), ?_, ?_, ?_⟩, ?_⟩
    · intro other msg found
      dsimp only at found
      by_cases same : other = id
      · subst same
        rw [AList.lookup_insert] at found
        exact (Option.some.inj found).symm
      · rw [AList.lookup_insert_ne same] at found
        exact recorded.ids other msg found
    · intro other member
      dsimp only at member ⊢
      rcases (AList.mem_insert _).mp member with rfl | before
      · exact ⟨shape other, named, List.mem_append_right _ (List.mem_singleton_self _)⟩
      · obtain ⟨data, known, sent⟩ := recorded.data other before
        exact ⟨data, known, List.mem_append_left _ sent⟩
    · intro other member
      dsimp only at member ⊢
      rw [ConnInner.client_send, Client.receive, named]
      dsimp only
      by_cases same : other = id
      · subst same
        rw [Function.update_self]
      · rw [Function.update_of_ne same]
        exact recorded.cache other (((AList.mem_insert _).mp member).resolve_left same)
    · dsimp only
      rw [ConnInner.client_send]
      rfl

theorem MouseCursorSub.Recorded.known {sub : MouseCursorSub} (recorded : sub.Recorded shape)
    {msg : Message} (known : msg.Known shape) : (sub.send msg).Recorded shape := by
  rcases known with rfl | ⟨id, carries⟩
  · exact recorded.empty
  · exact (recorded.carry carries).1

/-- A subscriber that shows nothing yet shows the shape of a message that it is sent. -/
theorem MouseCursorSub.Recorded.greeted {sub : MouseCursorSub} (recorded : sub.Recorded shape)
    {msg : Message} (known : msg.Known shape) (fresh : sub.inner.client.shown = none) :
    (sub.send msg).inner.client.shown = msg.shape := by
  rcases known with rfl | ⟨id, carries⟩
  · rw [MouseCursorSub.send_empty]
    dsimp only
    rw [ConnInner.client_send]
    exact fresh
  · rw [(recorded.carry carries).2, carries.1]
    rfl

variable (shape) in
/-- The state of the service holds shapes, and its cache holds them under their ids. -/
structure StateCursor.Cached (state : StateCursor) : Prop where
  known : state.cursorData.Known shape
  cached : ∀ id msg, state.cachedCursorData.lookup id = some msg → msg.Carries shape id

end Shapes

section Run

variable (build : Build) (image : UInt64 → CursorData)

/-- The shape of an id as it is sent. -/
def Build.shape (id : UInt64) : CursorData :=
  { image id with colors := build.compress (image id).colors }

variable {build image}

theorem Build.message_carries {data : CursorData} (same : data = image data.id) :
    (build.message data).Carries (build.shape image) data.id := by
  have named : (image data.id).id = data.id := congrArg CursorData.id same.symm
  refine ⟨?_, named⟩
  rw [Build.message, Build.shape, ← same]

theorem Build.store_carries {shape : UInt64 → CursorData}
    {cached : AList fun _ : UInt64 => Message} {key : UInt64} {msg : Message}
    (old : ∀ id msg, cached.lookup id = some msg → msg.Carries shape id)
    (new : msg.Carries shape key) :
    ∀ id other, (build.store cached key msg).lookup id = some other → other.Carries shape id := by
  intro id other found
  unfold Build.store at found
  by_cases same : id = key
  · subst same
    split at found
    next =>
      rw [AList.lookup_insert] at found
      exact Option.some.inj found ▸ new
    next =>
      rw [AList.lookup_insert] at found
      exact Option.some.inj found ▸ new
  · split at found
    next =>
      rw [AList.lookup_insert_ne same] at found
      simp at found
    next =>
      rw [AList.lookup_insert_ne same] at found
      exact old id other found

/-- The key of the cache is the id that was served. -/
theorem Build.served_key (hcursor : UInt64) (data : CursorData) :
    (if build.drm then (build.served hcursor data).id else hcursor) =
      (build.served hcursor data).id := by
  unfold Build.served
  split <;> rfl

/-- A changed cursor is the shape of the id that the state then holds. -/
theorem Build.lookUp_changed {state next : StateCursor} {msg : Message}
    {cursor : Option (Option UInt64)} {data : Option CursorData}
    (faithful : (CursorInput.tick cursor data).Faithful build image)
    (cached : state.Cached (build.shape image))
    (changed : build.lookUp state cursor data = .changed next msg) :
    next.Cached (build.shape image) ∧ msg.Carries (build.shape image) next.hcursor := by
  unfold Build.lookUp at changed
  cases cursor with
  | none => cases changed
  | some answer =>
      cases answer with
      | none => cases changed
      | some hcursor =>
          dsimp only at changed
          split at changed
          next => cases changed
          next =>
            cases found : state.cachedCursorData.lookup hcursor with
            | some old =>
                rw [found] at changed
                cases changed
                exact ⟨⟨cached.known, cached.cached⟩, cached.cached hcursor msg found⟩
            | none =>
                rw [found] at changed
                cases data with
                | none => cases changed
                | some data =>
                    have carries :
                        (build.message (build.served hcursor data)).Carries (build.shape image)
                          (build.served hcursor data).id := Build.message_carries faithful
                    dsimp only at changed
                    rw [Build.served_key] at changed
                    cases changed
                    exact ⟨⟨cached.known, Build.store_carries cached.cached carries⟩, carries⟩

end Run

end SubnetDesk.MouseCursor
