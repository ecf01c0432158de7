import SubnetDesk.Construction.Web.Crypto

namespace SubnetDesk.WebClient

variable {Message : Type}

def sequenceNonce (sequence : Nat) : List UInt8 :=
  Bytes.le 8 sequence ++ List.replicate (secretboxNonceLength - 8) 0

/-- The nonces of the first messages of a direction. -/
def sequenceNonces (count : Nat) : List (List UInt8) :=
  (List.range count).map fun index => sequenceNonce (index + 1)

theorem sequenceNonce_injective {first second : Nat} (small : first ≤ maxSequence)
    (alsoSmall : second ≤ maxSequence) (equal : sequenceNonce first = sequenceNonce second) :
    first = second := by
  unfold maxSequence at small alsoSmall
  refine Bytes.le_injective ?_ ?_ (List.append_cancel_right equal)
  · exact Nat.lt_of_le_of_lt small (by norm_num)
  · exact Nat.lt_of_le_of_lt alsoSmall (by norm_num)

theorem sequenceNonces_get {count index : Nat} {nonce : List UInt8}
    (found : (sequenceNonces count)[index]? = some nonce) :
    index < count ∧ nonce = sequenceNonce (index + 1) := by
  rw [sequenceNonces, List.getElem?_map, Option.map_eq_some_iff] at found
  obtain ⟨place, found, rfl⟩ := found
  rw [List.getElem?_eq_some_iff] at found
  obtain ⟨within, same⟩ := found
  rw [List.length_range] at within
  rw [List.getElem_range] at same
  exact ⟨within, by rw [same]⟩

/-- A nonce tells the place of its message in each direction. -/
theorem sequenceNonces_place {first second index place : Nat} {nonce : List UInt8}
    (small : first ≤ maxSequence) (alsoSmall : second ≤ maxSequence)
    (found : (sequenceNonces first)[index]? = some nonce)
    (alsoFound : (sequenceNonces second)[place]? = some nonce) : index = place := by
  obtain ⟨within, rfl⟩ := sequenceNonces_get found
  obtain ⟨alsoWithin, equal⟩ := sequenceNonces_get alsoFound
  have same := sequenceNonce_injective (by omega) (by omega) equal
  omega

theorem sequenceNonces_nodup {count : Nat} (small : count ≤ maxSequence) :
    (sequenceNonces count).Nodup := by
  rw [List.nodup_iff_getElem?_ne_getElem?]
  intro first second ordered within equal
  obtain ⟨nonce, found⟩ : ∃ nonce, (sequenceNonces count)[second]? = some nonce :=
    ⟨_, List.getElem?_eq_getElem within⟩
  have same := sequenceNonces_place small small (equal.trans found) found
  omega

theorem sequenceNonces_succ (count : Nat) :
    sequenceNonces (count + 1) = sequenceNonces count ++ [sequenceNonce (count + 1)] := by
  rw [sequenceNonces, List.range_succ, List.map_append]
  rfl

/-- A message past the last number adds no nonce. -/
theorem sequenceNonces_step (count : Nat) :
    sequenceNonces (min (count + 1) maxSequence) =
      sequenceNonces (min count maxSequence) ++ (nonceForSequence (count + 1)).toOption.toList := by
  unfold nonceForSequence
  by_cases beyond : maxSequence < count + 1
  · rw [if_pos beyond, Nat.min_eq_right (by omega), Nat.min_eq_right (by omega)]
    exact (List.append_nil _).symm
  · rw [if_neg beyond, Nat.min_eq_left (by omega), Nat.min_eq_left (by omega),
      sequenceNonces_succ]
    rfl

/-- The nonces of a direction, in the order of their use. -/
def noncesOf (direction : Direction) (uses : List NonceUse) : List (List UInt8) :=
  (uses.filter (·.direction = direction)).map (·.nonce)

theorem noncesOf_append (direction : Direction) (first second : List NonceUse) :
    noncesOf direction (first ++ second) = noncesOf direction first ++ noncesOf direction second := by
  rw [noncesOf, List.filter_append, List.map_append]
  rfl

def LanCryptoSession.sequence (session : LanCryptoSession) : Direction → Nat
  | .sent => session.sendSequence
  | .received => session.receiveSequence

/-- Both counters tell the nonces that were used. -/
structure Numbered (key : Nat) (session : LanCryptoSession) (uses : List NonceUse) : Prop where
  symmetricKey : session.symmetricKey = some key
  keys : ∀ use_ ∈ uses, use_.key = key
  nonces : ∀ direction, noncesOf direction uses =
    sequenceNonces (min (session.sequence direction) maxSequence)

theorem Numbered.start (key : Nat) : Numbered key (LanCryptoSession.create.accept key) [] where
  symmetricKey := rfl
  keys _ member := by cases member
  nonces direction := by cases direction <;> rfl

/-- A call counts its direction, and it uses the nonce of the new number, where there is one. -/
theorem channel_step {key : Nat} {session : LanCryptoSession} (call : CryptoCall Message)
    (established : session.symmetricKey = some key) :
    ((channel Message).step session call).1.symmetricKey = some key ∧
      (∀ direction, ((channel Message).step session call).1.sequence direction =
        if direction = call.direction then session.sequence direction + 1
        else session.sequence direction) ∧
      ((channel Message).step session call).2 =
        (nonceForSequence (session.sequence call.direction + 1)).toOption.toList.map
          fun nonce => ⟨call.direction, key, nonce⟩ := by
  cases call with
  | encrypt message =>
      simp only [channel, LanCryptoSession.encrypt, LanCryptoSession.sealing, established]
      refine ⟨trivial, ?_, ?_⟩
      · intro direction
        cases direction <;> rfl
      · simp only [LanCryptoSession.sequence, CryptoCall.direction]
        cases nonceForSequence (session.sendSequence + 1) <;> rfl
  | decrypt payload =>
      simp only [channel, LanCryptoSession.decrypt, LanCryptoSession.opening, established]
      refine ⟨trivial, ?_, ?_⟩
      · intro direction
        cases direction <;> rfl
      · simp only [LanCryptoSession.sequence, CryptoCall.direction]
        cases nonceForSequence (session.receiveSequence + 1) <;> rfl

theorem Numbered.step {key : Nat} {session : LanCryptoSession} {past : List NonceUse}
    (numbered : Numbered key session past) (call : CryptoCall Message) :
    Numbered key ((channel Message).step session call).1
      (past ++ ((channel Message).step session call).2) := by
  obtain ⟨symmetricKey, sequences, uses⟩ := channel_step call numbered.symmetricKey
  rw [uses]
  refine ⟨symmetricKey, ?_, ?_⟩
  · intro use_ member
    rw [List.mem_append, List.mem_map] at member
    obtain old | ⟨nonce, -, rfl⟩ := member
    · exact numbered.keys use_ old
    · rfl
  · intro direction
    rw [noncesOf_append, numbered.nonces direction, sequences direction]
    by_cases same : direction = call.direction
    · rw [if_pos same, sequenceNonces_step, same]
      simp [noncesOf, List.filter_map, Function.comp_def]
    · rw [if_neg same]
      simp [noncesOf, List.filter_map, Function.comp_def, Ne.symm same]

/-- A counter is the number of the calls of its direction. -/
theorem channel_sequence {key : Nat} {session : LanCryptoSession} (direction : Direction)
    (calls : List (CryptoCall Message)) (established : session.symmetricKey = some key) :
    ((channel Message).run session calls).1.sequence direction =
      session.sequence direction + calls.countP (·.direction = direction) := by
  induction calls generalizing session with
  | nil => rfl
  | cons call rest ih =>
      obtain ⟨symmetricKey, sequences, -⟩ := channel_step call established
      rw [Machine.run, ih symmetricKey, sequences direction, List.countP_cons]
      by_cases same : direction = call.direction
      · rw [if_pos same, if_pos (decide_eq_true same.symm)]
        omega
      · rw [if_neg same, if_neg (by simpa using Ne.symm same)]
        omega

theorem nonces_perm (uses : List NonceUse) :
    (uses.map (·.nonce)).Perm (noncesOf .sent uses ++ noncesOf .received uses) := by
  have others : (fun use_ : NonceUse => decide (use_.direction = .received)) =
      fun use_ => !decide (use_.direction = .sent) := by
    funext use_
    cases use_.direction <;> rfl
  rw [noncesOf, noncesOf, ← List.map_append, others]
  exact ((List.filter_append_perm _ uses).map _).symm

/-- Directions that are both used share a nonce, that of their first messages. -/
theorem sequenceNonces_disjoint_iff (first second : Nat) :
    (sequenceNonces first).Disjoint (sequenceNonces second) ↔
      sequenceNonces first = [] ∨ sequenceNonces second = [] := by
  cases first with
  | zero => exact iff_of_true (List.disjoint_nil_left _) (.inl rfl)
  | succ first =>
      cases second with
      | zero => exact iff_of_true (List.disjoint_nil_right _) (.inr rfl)
      | succ second =>
          have shared : ∀ count, sequenceNonce 1 ∈ sequenceNonces (count + 1) := fun count =>
            List.mem_map.mpr ⟨0, List.mem_range.mpr (Nat.succ_pos count), rfl⟩
          refine iff_of_false (fun disjoint => disjoint (shared first) (shared second)) ?_
          rintro (empty | empty)
          · exact List.ne_nil_of_mem (shared first) empty
          · exact List.ne_nil_of_mem (shared second) empty

/-- The messages of a direction have pairwise distinct nonces, and the two directions have the same
ones in the same order. -/
theorem nonces_of_session (key : Nat) (calls : List (CryptoCall Message)) :
    let uses := ((channel Message).run (LanCryptoSession.create.accept key) calls).2
    (∀ use_ ∈ uses, use_.key = key) ∧
      (∀ direction, noncesOf direction uses =
        sequenceNonces (min (calls.countP (·.direction = direction)) maxSequence)) ∧
      (∀ direction, (noncesOf direction uses).Nodup) ∧
      (∀ (sent received : Nat) nonce, (noncesOf .sent uses)[sent]? = some nonce →
        (noncesOf .received uses)[received]? = some nonce → sent = received) ∧
      ((uses.map (·.nonce)).Nodup ↔
        noncesOf .sent uses = [] ∨ noncesOf .received uses = []) := by
  intro uses
  have numbered : Numbered key _ uses := (channel Message).run_invariant (fun _ _ => True)
    (Numbered key) (fun _ _ call _ numbered => numbered.step call) _ [] calls (.start key)
    ((channel Message).guarded_true _ _)
  have nonces : ∀ direction, noncesOf direction uses =
      sequenceNonces (min (calls.countP (·.direction = direction)) maxSequence) := by
    intro direction
    have counted := channel_sequence direction calls (Numbered.start key).symmetricKey
    have zero : (LanCryptoSession.create.accept key).sequence direction = 0 := by
      cases direction <;> rfl
    rw [numbered.nonces direction, counted, zero, Nat.zero_add]
  have nodup : ∀ direction, (noncesOf direction uses).Nodup := by
    intro direction
    rw [nonces direction]
    exact sequenceNonces_nodup (Nat.min_le_right _ _)
  refine ⟨numbered.keys, nonces, nodup, ?_, ?_⟩
  · intro sent received nonce found alsoFound
    rw [nonces] at found alsoFound
    exact sequenceNonces_place (Nat.min_le_right _ _) (Nat.min_le_right _ _) found alsoFound
  · rw [(nonces_perm uses).nodup_iff, List.nodup_append', and_iff_right (nodup .sent),
      and_iff_right (nodup .received), nonces, nonces]
    exact sequenceNonces_disjoint_iff _ _

/-- The first message of each direction has the same nonce, also where each side opens what the other
one has closed. -/
theorem first_nonces_equal :
    let session := LanCryptoSession.create.accept 0
    let answer : SecretBox String := ⟨0, sequenceNonce 1, "welcome"⟩
    (session.decrypt (some answer)).2.toOption = some "welcome" ∧
      ¬ (((channel String).run session [.encrypt "hello", .decrypt (some answer)]).2.map
        (·.nonce)).Nodup := by
  decide +kernel

end SubnetDesk.WebClient
