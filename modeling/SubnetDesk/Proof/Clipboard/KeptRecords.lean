import SubnetDesk.Construction.Clipboard.WaylandInput

namespace SubnetDesk.WaylandInput

theorem length_encode_le (chars : List Char) :
    (Utf8.encode chars).length ≤ 4 * chars.length := by
  induction chars with
  | nil => simp
  | cons char rest ih =>
      have size := char.utf8Size_le_four
      rw [Utf8.length_encode_cons, List.length_cons]
      omega

/-- What the byte limit leaves of a text has all characters that are compared. -/
theorem decodeUtf8Prefix_encode (text : List Char) :
    ∃ shown, decodeUtf8Prefix (Utf8.encode text) = some shown ∧ normalize shown = normalize text := by
  have cut : (Utf8.encode text).take skipCheckMaxUtf8Bytes ++
      (Utf8.encode text).drop skipCheckMaxUtf8Bytes = Utf8.encode text := List.take_append_drop _ _
  have long : (Utf8.encode text).drop skipCheckMaxUtf8Bytes ≠ [] →
      ((Utf8.encode text).take skipCheckMaxUtf8Bytes).length = 4096 := by
    intro more
    rw [ne_eq, List.drop_eq_nil_iff, not_le] at more
    rw [List.length_take, Nat.min_eq_left more.le]
    rfl
  have enough : ∀ left right : List Char, text = left ++ right → right = [] ∨ 1024 ≤ left.length →
      normalize left = normalize text := by
    rintro left right rfl (rfl | whole)
    · rw [List.append_nil]
    · exact (List.take_append_of_le_length whole).symm
  generalize (Utf8.encode text).drop skipCheckMaxUtf8Bytes = dropped at cut long
  unfold decodeUtf8Prefix
  dsimp only
  generalize (Utf8.encode text).take skipCheckMaxUtf8Bytes = slice at cut long ⊢
  rcases Utf8.cut_encode cut with
    ⟨left, right, rfl, rfl⟩ | ⟨left, char, right, part, rest, rfl, rfl, shape, filled, open_⟩
  · rw [Utf8.fromUtf8_encode]
    rw [← Utf8.encode_append] at cut
    refine ⟨left, rfl, enough left right (Utf8.encode_injective cut).symm ?_⟩
    by_cases empty : right = []
    · exact .inl empty
    · refine .inr ?_
      have most := length_encode_le left
      rw [long] at most
      · omega
      · cases right with
        | nil => exact absurd rfl empty
        | cons char rest =>
            have size := char.utf8Size_pos
            refine List.ne_nil_of_length_pos ?_
            rw [Utf8.length_encode_cons]
            omega
  · rw [Utf8.fromUtf8_part left shape filled open_]
    dsimp only
    rw [List.take_left, Utf8.fromUtf8_encode]
    refine ⟨left, rfl, enough left (char :: right) (Utf8.encode_injective ?_).symm (.inr ?_)⟩
    · rw [← cut, Utf8.encode_append, Utf8.encode_cons, shape]
      simp only [List.append_assoc]
    · have most := length_encode_le left
      have whole := congrArg List.length shape
      have size := char.utf8Size_le_four
      have more := List.length_pos_iff.mpr open_
      have total := long (by
        rw [ne_eq, List.append_eq_nil_iff]
        exact fun both => open_ both.1)
      rw [String.length_utf8EncodeChar, List.length_append] at whole
      rw [List.length_append] at total
      omega

/-- A text that is compared stands for its first characters. -/
theorem decodeTextClipboard_holds {compress decompress : List UInt8 → List UInt8}
    (inverse : ∀ data, decompress (compress data) = data) {clipboard : Clipboard}
    {text : List Char} (holds : clipboard.Holds compress text) :
    ∃ shown, decodeTextClipboard decompress clipboard = some shown ∧
      normalize shown = normalize text := by
  obtain ⟨format, content⟩ := holds
  unfold decodeTextClipboard
  rw [if_pos format, content]
  split
  next =>
    rw [inverse]
    exact decodeUtf8Prefix_encode text
  next => exact decodeUtf8Prefix_encode text

def Injection.Expired (now : Nat) (injection : Injection) : Prop :=
  filterWindow < now - injection.createdAt

instance (now : Nat) (injection : Injection) : Decidable (injection.Expired now) :=
  inferInstanceAs (Decidable (_ < _))

/-- The record of an injection that is not rolled back. -/
def Injection.record? (injection : Injection) : Option Record :=
  if injection.rolledBack then none else some ⟨injection.createdAt, normalize injection.text⟩

/-- The records are those of the later injections, and the earlier ones have expired or are followed
by too many. -/
def Kept (clock : Nat) (history : List Injection) (records : List Record) : Prop :=
  ∃ old new, history = old ++ new ∧ records = new.filterMap Injection.record? ∧
    ((∀ injection ∈ old, injection.Expired clock) ∨ maxRecords ≤ new.length)

theorem Injection.Expired.mono {now later : Nat} {injection : Injection}
    (expired : injection.Expired now) (le : now ≤ later) : injection.Expired later := by
  unfold Injection.Expired at expired ⊢
  omega

def Ordered (history : List Injection) : Prop :=
  history.Pairwise fun first second => first.createdAt ≤ second.createdAt

/-- Injections in order split into those that have expired and those that have not. -/
theorem Ordered.split {history : List Injection} (ordered : Ordered history) (now : Nat) :
    ∃ expired fresh, history = expired ++ fresh ∧
      (∀ injection ∈ expired, injection.Expired now) ∧
      ∀ injection ∈ fresh, ¬ injection.Expired now := by
  induction history with
  | nil => exact ⟨[], [], rfl, by simp, by simp⟩
  | cons first rest ih =>
      obtain ⟨before, others⟩ := List.pairwise_cons.mp ordered
      by_cases gone : first.Expired now
      · obtain ⟨expired, fresh, rfl, all, none⟩ := ih others
        refine ⟨first :: expired, fresh, rfl, ?_, none⟩
        exact List.forall_mem_cons.mpr ⟨gone, all⟩
      · refine ⟨[], first :: rest, rfl, by simp, List.forall_mem_cons.mpr ⟨gone, ?_⟩⟩
        intro injection member expired
        have order := before injection member
        unfold Injection.Expired at gone expired
        omega

theorem record?_some {injection : Injection} {record : Record}
    (found : injection.record? = some record) : injection.rolledBack = false ∧
      record = ⟨injection.createdAt, normalize injection.text⟩ := by
  unfold Injection.record? at found
  split at found
  next => cases found
  next fresh => exact ⟨by simpa using fresh, (Option.some.inj found).symm⟩

theorem filter_recent_expired {history : List Injection} {now : Nat}
    (all : ∀ injection ∈ history, injection.Expired now) :
    (history.filterMap Injection.record?).filter (Record.recent now) = [] := by
  rw [List.filter_eq_nil_iff]
  intro record member recent
  obtain ⟨injection, inside, found⟩ := List.mem_filterMap.mp member
  obtain ⟨-, rfl⟩ := record?_some found
  have expired := all injection inside
  unfold Injection.Expired at expired
  unfold Record.recent at recent
  rw [decide_eq_true_eq] at recent
  dsimp only at recent
  omega

theorem filter_recent_fresh {history : List Injection} {now : Nat}
    (none : ∀ injection ∈ history, ¬ injection.Expired now) :
    (history.filterMap Injection.record?).filter (Record.recent now) =
      history.filterMap Injection.record? := by
  rw [List.filter_eq_self]
  intro record member
  obtain ⟨injection, inside, found⟩ := List.mem_filterMap.mp member
  obtain ⟨-, rfl⟩ := record?_some found
  have fresh := none injection inside
  unfold Injection.Expired at fresh
  unfold Record.recent
  rw [decide_eq_true_eq]
  dsimp only
  omega

theorem recent_of_mem_cleanup {records : List Record} {record : Record} {now : Nat}
    (member : record ∈ cleanup records now) : now - record.createdAt ≤ filterWindow := by
  have kept := (List.mem_filter.mp (List.mem_of_mem_drop member)).2
  unfold Record.recent at kept
  exact of_decide_eq_true kept

theorem Kept.cleanup {clock now : Nat} {history : List Injection} {records : List Record}
    (kept : Kept clock history records) (ordered : Ordered history) (later : clock ≤ now) :
    Kept now history (cleanup records now) := by
  obtain ⟨old, new, rfl, rfl, left⟩ := kept
  obtain ⟨expired, fresh, rfl, all, none⟩ :=
    Ordered.split (List.pairwise_append.mp ordered).2.1 now
  have filtered : ((expired ++ fresh).filterMap Injection.record?).filter (Record.recent now) =
      fresh.filterMap Injection.record? := by
    rw [List.filterMap_append, List.filter_append, filter_recent_expired all,
      filter_recent_fresh none, List.nil_append]
  have earlier : (∀ injection ∈ old ++ expired, injection.Expired now) ∨
      maxRecords ≤ fresh.length := by
    cases expired with
    | nil =>
        rw [List.append_nil]
        exact left.imp_left fun gone injection member => (gone injection member).mono later
    | cons first rest =>
        refine .inl fun injection member => ?_
        rcases List.mem_append.mp member with before | now'
        · have order := (List.pairwise_append.mp ordered).2.2 injection before first (by simp)
          have gone := all first (by simp)
          unfold Injection.Expired at gone ⊢
          omega
        · exact all injection now'
  unfold WaylandInput.cleanup
  dsimp only
  rw [filtered]
  by_cases few : (fresh.filterMap Injection.record?).length ≤ maxRecords
  · rw [Nat.sub_eq_zero_of_le few, List.drop_zero]
    exact ⟨old ++ expired, fresh, (List.append_assoc _ _ _).symm, rfl, earlier⟩
  · obtain ⟨last, ⟨first, rfl⟩, dropped⟩ := List.suffix_filterMap_iff.mp
      (List.drop_suffix ((fresh.filterMap Injection.record?).length - maxRecords)
        (fresh.filterMap Injection.record?))
    refine ⟨old ++ expired ++ first, last, by simp only [List.append_assoc], dropped, .inr ?_⟩
    have size := congrArg List.length dropped
    rw [List.length_drop] at size
    have most := List.length_filterMap_le Injection.record? last
    omega

theorem Kept.mono {clock now : Nat} {history : List Injection} {records : List Record}
    (kept : Kept clock history records) (later : clock ≤ now) : Kept now history records := by
  obtain ⟨old, new, split, filtered, left⟩ := kept
  exact ⟨old, new, split, filtered,
    left.imp_left fun gone injection member => (gone injection member).mono later⟩

theorem Kept.push {clock : Nat} {history : List Injection} {records : List Record}
    (kept : Kept clock history records) (createdAt : Nat) (text : List Char) :
    Kept clock (history ++ [⟨createdAt, text, false⟩])
      (records ++ [⟨createdAt, normalize text⟩]) := by
  obtain ⟨old, new, rfl, rfl, left⟩ := kept
  refine ⟨old, new ++ [⟨createdAt, text, false⟩], List.append_assoc _ _ _, ?_, left.imp_right ?_⟩
  · rw [List.filterMap_append]
    rfl
  · intro many
    rw [List.length_append]
    omega

/-- The last record is removed, unless it has expired with all others. -/
theorem Kept.rollback {clock : Nat} {earlier : List Injection} {records : List Record}
    {createdAt : Nat} {text : List Char}
    (kept : Kept clock (earlier ++ [⟨createdAt, text, false⟩]) records)
    (ordered : Ordered (earlier ++ [⟨createdAt, text, false⟩])) :
    Kept clock (earlier ++ [⟨createdAt, text, true⟩])
      (rollback records ⟨createdAt, normalize text⟩ clock) := by
  obtain ⟨old, new, split, filtered, left⟩ := kept.cleanup ordered (Nat.le_refl clock)
  unfold WaylandInput.rollback
  rw [filtered]
  rcases List.eq_nil_or_concat new with rfl | ⟨front, last, rfl⟩
  · rw [List.append_nil] at split
    refine ⟨earlier ++ [⟨createdAt, text, true⟩], [], (List.append_nil _).symm, rfl, .inl ?_⟩
    rcases left with gone | many
    · rw [← split] at gone
      intro injection member
      rcases List.mem_append.mp member with before | own
      · exact gone injection (List.mem_append_left _ before)
      · rw [List.mem_singleton] at own
        subst own
        exact gone ⟨createdAt, text, false⟩ (by simp)
    · exact absurd many (by decide)
  · rw [List.concat_eq_append, ← List.append_assoc] at split
    obtain ⟨rfl, own⟩ := List.append_inj' split rfl
    obtain rfl := (List.cons.inj own).1
    refine ⟨old, front ++ [⟨createdAt, text, true⟩], List.append_assoc _ _ _, ?_, ?_⟩
    · rw [List.concat_eq_append, List.filterMap_append, List.filterMap_append]
      have shown : [(⟨createdAt, text, false⟩ : Injection)].filterMap Injection.record? =
          [⟨createdAt, normalize text⟩] := rfl
      have hidden : [(⟨createdAt, text, true⟩ : Injection)].filterMap Injection.record? = [] := rfl
      rw [shown, hidden, List.reverse_append, List.reverse_singleton, List.singleton_append,
        List.eraseP_cons_of_pos (by simp), List.reverse_reverse, List.append_nil]
    · rw [List.concat_eq_append, List.length_append] at left
      rw [List.length_append]
      exact left

/-- An injection that counts has its record. -/
theorem Kept.record_mem {clock : Nat} {history : List Injection} {records : List Record}
    (kept : Kept clock history records) {number : Nat} {injection : Injection}
    (found : history[number]? = some injection)
    (few : history.length - (number + 1) < maxRecords) (recent : ¬ injection.Expired clock)
    (fresh : injection.rolledBack = false) :
    ⟨injection.createdAt, normalize injection.text⟩ ∈ records := by
  obtain ⟨old, new, rfl, rfl, left⟩ := kept
  refine List.mem_filterMap.mpr ⟨injection, ?_, ?_⟩
  · by_cases inside : number < old.length
    · rw [List.getElem?_append_left inside] at found
      rcases left with gone | many
      · exact absurd (gone injection (List.mem_of_getElem? found)) recent
      · rw [List.length_append] at few
        omega
    · rw [List.getElem?_append_right (not_lt.mp inside)] at found
      exact List.mem_of_getElem? found
  · unfold Injection.record?
    rw [fresh]
    rfl

theorem Kept.mem_record {clock : Nat} {history : List Injection} {records : List Record}
    (kept : Kept clock history records) {record : Record} (member : record ∈ records) :
    ∃ injection ∈ history, injection.rolledBack = false ∧
      record = ⟨injection.createdAt, normalize injection.text⟩ := by
  obtain ⟨old, new, rfl, rfl, -⟩ := kept
  obtain ⟨injection, inside, shown⟩ := List.mem_filterMap.mp member
  exact ⟨injection, List.mem_append_right _ inside, record?_some shown⟩

end SubnetDesk.WaylandInput
