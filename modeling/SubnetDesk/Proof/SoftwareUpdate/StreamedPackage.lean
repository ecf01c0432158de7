import SubnetDesk.Construction.SoftwareUpdate.Manifest

namespace SubnetDesk.SoftwareUpdate
open AsciiCase

variable {hasher : Hasher} {artifact : UpdateArtifact}

/-- The size that `download_inner` lets through. -/
def Admitted (artifact : UpdateArtifact) : Prop :=
  0 < artifact.size ∧ artifact.size ≤ maxPackageBytes

/-- No step of the arithmetic leaves its range, and the divisor is not zero. -/
structure ArithmeticFits (artifact : UpdateArtifact) (streamed : Streamed hasher) : Prop where
  sums : ∀ sum ∈ streamed.sums, sum.1 + sum.2 < 2 ^ 64
  products : ∀ downloaded ∈ streamed.products, downloaded * 100 < 2 ^ 64 ∧ artifact.size ≠ 0 ∧
    downloaded * 100 / artifact.size < 256

/-- What holds of everything that was written and published, also after an error. -/
structure Bounded (artifact : UpdateArtifact) (streamed : Streamed hasher) : Prop where
  written : streamed.file.length ≤ artifact.size
  increasing : streamed.published.Pairwise (· < ·)
  percent : ∀ progress ∈ streamed.published, progress ≤ 100
  arithmetic : ArithmeticFits artifact streamed

/-- The variables of the loop after the reads of some chunks. -/
structure Reads (artifact : UpdateArtifact) (streamed : Streamed hasher)
    (chunks : List (List UInt8)) : Prop where
  file : streamed.file = chunks.flatten
  hashed : streamed.hashed = chunks.foldl hasher.update hasher.new
  downloaded : streamed.downloaded = chunks.flatten.length
  within : streamed.downloaded ≤ artifact.size
  progress : streamed.lastProgress = streamed.downloaded * 100 / artifact.size
  increasing : streamed.published.Pairwise (· < ·)
  shown : ∀ progress ∈ streamed.published, progress ≤ streamed.lastProgress
  arithmetic : ArithmeticFits artifact streamed

theorem percent_le {downloaded size : Nat} (within : downloaded ≤ size) :
    downloaded * 100 / size ≤ 100 := by
  refine Nat.div_le_of_le_mul ?_
  rw [Nat.mul_comm size 100, Nat.mul_comm downloaded 100]
  exact Nat.mul_le_mul_left 100 within

/-- What was read fits the package. -/
theorem Reads.bounded {streamed : Streamed hasher} {chunks : List (List UInt8)}
    (reads : Reads artifact streamed chunks) : Bounded artifact streamed where
  written := by
    rw [reads.file, ← reads.downloaded]
    exact reads.within
  increasing := reads.increasing
  percent progress member := by
    refine (reads.shown progress member).trans ?_
    rw [reads.progress]
    exact percent_le reads.within
  arithmetic := reads.arithmetic

/-- At the start nothing was read. -/
theorem reads_start (hasher : Hasher) (artifact : UpdateArtifact) :
    Reads artifact (Streamed.start hasher) [] where
  file := rfl
  hashed := rfl
  downloaded := rfl
  within := Nat.zero_le _
  progress := (Nat.zero_div _).symm
  increasing := .nil
  shown := by simp [Streamed.start]
  arithmetic := ⟨by simp [Streamed.start], by simp [Streamed.start]⟩

/-- The published progress is exact while the download stays within an admitted size. -/
theorem progress_eq (admitted : Admitted artifact) {downloaded : Nat}
    (within : downloaded ≤ artifact.size) :
    saturatingMulU64 downloaded 100 / artifact.size % 256 = downloaded * 100 / artifact.size := by
  have percent := percent_le within
  have small : artifact.size ≤ 1024 * 1024 * 1024 := admitted.2
  have exact_ : saturatingMulU64 downloaded 100 = downloaded * 100 := by
    unfold saturatingMulU64
    omega
  rw [exact_, Nat.mod_eq_of_lt (by omega)]

theorem Streamed.publish_fields (artifact : UpdateArtifact) (streamed : Streamed hasher) :
    (streamed.publish artifact).file = streamed.file ∧
      (streamed.publish artifact).hashed = streamed.hashed ∧
      (streamed.publish artifact).downloaded = streamed.downloaded ∧
      (streamed.publish artifact).sums = streamed.sums ∧
      (streamed.publish artifact).products = streamed.products ++ [streamed.downloaded] := by
  unfold Streamed.publish
  dsimp only
  split <;> exact ⟨rfl, rfl, rfl, rfl, rfl⟩

/-- The progress never falls. -/
theorem Streamed.publish_progress (admitted : Admitted artifact) (streamed : Streamed hasher)
    (within : streamed.downloaded ≤ artifact.size)
    (later : streamed.lastProgress ≤ streamed.downloaded * 100 / artifact.size)
    (increasing : streamed.published.Pairwise (· < ·))
    (shown : ∀ progress ∈ streamed.published, progress ≤ streamed.lastProgress) :
    (streamed.publish artifact).lastProgress = streamed.downloaded * 100 / artifact.size ∧
      (streamed.publish artifact).published.Pairwise (· < ·) ∧
      ∀ progress ∈ (streamed.publish artifact).published,
        progress ≤ (streamed.publish artifact).lastProgress := by
  unfold Streamed.publish
  dsimp only
  rw [progress_eq admitted within]
  split
  next moved =>
    refine ⟨rfl, List.pairwise_append.mpr ⟨increasing, List.pairwise_singleton _ _, ?_⟩, ?_⟩
    · intro earlier member progress same
      rw [List.mem_singleton.mp same]
      have before := shown earlier member
      omega
    · intro progress member
      obtain earlier | rfl := List.mem_append.mp member |>.imp_right List.mem_singleton.mp
      · exact (shown progress earlier).trans later
      · exact Nat.le_refl _
  next same =>
    have equal : streamed.downloaded * 100 / artifact.size = streamed.lastProgress := by
      simpa using same
    exact ⟨equal.symm, increasing, shown⟩

/-- The variables after the bytes of one more read. -/
theorem Reads.publish (admitted : Admitted artifact) {streamed next : Streamed hasher}
    {chunks : List (List UInt8)} (reads : Reads artifact streamed chunks) {bytes : List UInt8}
    (room : streamed.downloaded + bytes.length ≤ artifact.size)
    (sums : ∀ sum ∈ next.sums, sum.1 + sum.2 < 2 ^ 64)
    (file : next.file = streamed.file ++ bytes)
    (hashed : next.hashed = hasher.update streamed.hashed bytes)
    (downloaded : next.downloaded = streamed.downloaded + bytes.length)
    (lastProgress : next.lastProgress = streamed.lastProgress)
    (published : next.published = streamed.published)
    (products : next.products = streamed.products) :
    Reads artifact (next.publish artifact) (chunks ++ [bytes]) := by
  obtain ⟨sameFile, sameHashed, sameDownloaded, sameSums, moreProducts⟩ :=
    next.publish_fields artifact
  have within : next.downloaded ≤ artifact.size := by rw [downloaded]; exact room
  have small : artifact.size ≤ 1024 * 1024 * 1024 := admitted.2
  have later : next.lastProgress ≤ next.downloaded * 100 / artifact.size := by
    rw [lastProgress, reads.progress, downloaded]
    exact Nat.div_le_div_right (Nat.mul_le_mul_right 100 (Nat.le_add_right _ _))
  obtain ⟨progress, increasing, shown⟩ := next.publish_progress admitted within later
    (by rw [published]; exact reads.increasing)
    (by rw [published, lastProgress]; exact reads.shown)
  refine ⟨?_, ?_, ?_, ?_, ?_, increasing, shown, ⟨?_, ?_⟩⟩
  · rw [sameFile, file, reads.file]
    simp
  · rw [sameHashed, hashed, reads.hashed]
    simp
  · rw [sameDownloaded, downloaded, reads.downloaded]
    simp
  · rw [sameDownloaded]
    exact within
  · rw [progress, sameDownloaded]
  · rw [sameSums]
    exact sums
  · rw [moreProducts, products]
    intro earlier member
    obtain before | rfl := List.mem_append.mp member |>.imp_right List.mem_singleton.mp
    · exact reads.arithmetic.products earlier before
    · have percent := percent_le within
      have positive := admitted.1
      exact ⟨by omega, by omega, by omega⟩

def ReadTurn.Faultless (turn : ReadTurn) : Prop := turn.readError = none ∧ turn.writeError = none

def Transfer.Faultless (transfer : Transfer) : Prop :=
  transfer.openError = none ∧ (∀ turn ∈ transfer.turns, turn.Faultless) ∧
    transfer.endError = none ∧ transfer.syncError = none

/-- What one turn does. It stops at an error, or behind the signed size before it writes. -/
inductive TurnStep (artifact : UpdateArtifact) (streamed : Streamed hasher)
    (chunks : List (List UInt8)) (turn : ReadTurn) : Option String × Streamed hasher → Prop where
  | stopped (error : String) (after : Streamed hasher) : Bounded artifact after →
      ¬ (turn.Faultless ∧ chunks.flatten.length + turn.bytes.length ≤ artifact.size) →
      TurnStep artifact streamed chunks turn (some error, after)
  | read (after : Streamed hasher) : turn.Faultless →
      Reads artifact after (chunks ++ [turn.bytes]) →
      TurnStep artifact streamed chunks turn (none, after)

/-- One turn reads in order. -/
theorem Reads.turn (admitted : Admitted artifact) {streamed : Streamed hasher}
    {chunks : List (List UInt8)} (reads : Reads artifact streamed chunks) (turn : ReadTurn) :
    TurnStep artifact streamed chunks turn (streamed.turn artifact turn) := by
  have bounded := reads.bounded
  have small : artifact.size ≤ 1024 * 1024 * 1024 := admitted.2
  have fits := turn.fits
  have within := reads.within
  have inRange : streamed.downloaded + turn.bytes.length < 2 ^ 64 := by omega
  have sums : ∀ sum ∈ streamed.sums ++ [(streamed.downloaded, turn.bytes.length)],
      sum.1 + sum.2 < 2 ^ 64 := by
    intro sum member
    obtain earlier | rfl := List.mem_append.mp member |>.imp_right List.mem_singleton.mp
    · exact reads.arithmetic.sums sum earlier
    · exact inRange
  unfold Streamed.turn
  cases readError : turn.readError with
  | some error =>
      refine .stopped error _ bounded fun good => ?_
      rw [good.1.1] at readError
      cases readError
  | none =>
      dsimp only
      rw [checkedAddU64, if_pos inRange]
      dsimp only
      split
      next exceeds =>
        refine .stopped _ _ ⟨bounded.written, bounded.increasing, bounded.percent, sums,
          bounded.arithmetic.products⟩ fun good => ?_
        rw [← reads.downloaded] at good
        unfold maxPackageBytes at exceeds
        omega
      next allowed =>
        have room : streamed.downloaded + turn.bytes.length ≤ artifact.size := by omega
        cases writeError : turn.writeError with
        | some failure =>
            obtain ⟨error, count⟩ := failure
            refine .stopped error _ ⟨?_, bounded.increasing, bounded.percent, sums,
              bounded.arithmetic.products⟩ fun good => ?_
            · dsimp only
              rw [List.length_append, reads.file, ← reads.downloaded]
              exact (Nat.add_le_add_left (List.length_take_le' _ _) _).trans room
            · rw [good.1.2] at writeError
              cases writeError
        | none =>
            exact .read _ ⟨readError, writeError⟩ (reads.publish admitted room sums rfl rfl rfl rfl
              rfl rfl)

/-- All turns read in order. -/
theorem Reads.turns (admitted : Admitted artifact) (turns : List ReadTurn)
    {streamed : Streamed hasher} {chunks : List (List UInt8)}
    (reads : Reads artifact streamed chunks) :
    (∃ error after, streamed.turns artifact turns = (some error, after) ∧ Bounded artifact after ∧
      ¬ ((∀ turn ∈ turns, turn.Faultless) ∧
        chunks.flatten.length + (turns.flatMap ReadTurn.bytes).length ≤ artifact.size)) ∨
    ∃ after, streamed.turns artifact turns = (none, after) ∧
      (∀ turn ∈ turns, turn.Faultless) ∧
      Reads artifact after (chunks ++ turns.map ReadTurn.bytes) := by
  induction turns generalizing streamed chunks with
  | nil => exact .inr ⟨streamed, rfl, by simp, by simpa using reads⟩
  | cons turn turns inductionHypothesis =>
      have step := reads.turn admitted turn
      unfold Streamed.turns
      generalize streamed.turn artifact turn = result at step ⊢
      cases step with
      | stopped error after bounded failed =>
          refine .inl ⟨error, after, rfl, bounded, fun good => failed ⟨good.1 turn (by simp), ?_⟩⟩
          have total := good.2
          rw [List.flatMap_cons, List.length_append] at total
          omega
      | read after faultless next =>
          obtain ⟨error, stopped, run, bounded, failed⟩ | ⟨last, run, all, final⟩ :=
            inductionHypothesis next
          · refine .inl ⟨error, stopped, run, bounded, fun good => failed ⟨?_, ?_⟩⟩
            · exact fun later member => good.1 later (by simp [member])
            · have total := good.2
              rw [List.flatMap_cons, List.length_append] at total
              rw [List.flatten_append, List.length_append]
              simp only [List.flatten_singleton]
              omega
          · refine .inr ⟨last, run, ?_, by simpa using final⟩
            intro other member
            obtain rfl | later := List.mem_cons.mp member
            · exact faultless
            · exact all other later

/-- At the end the package was checked. -/
theorem Reads.finish {sha256 : List UInt8 → String} (digests : hasher.Digests sha256)
    {streamed : Streamed hasher} {chunks : List (List UInt8)}
    (reads : Reads artifact streamed chunks) (syncError : Option String) :
    streamed.finish artifact syncError = none ↔ syncError = none ∧
      chunks.flatten.length = artifact.size ∧
      eqIgnoreAsciiCase (sha256 chunks.flatten).toList artifact.sha256.toList = true := by
  rw [← digests.pieces, ← reads.hashed, ← reads.downloaded]
  unfold Streamed.finish
  cases syncError with
  | some error => simp
  | none =>
      by_cases complete : streamed.downloaded = artifact.size
      · simp [complete]
      · simp [complete]

/-- The package is accepted exactly when it arrives without errors, complete and with its digest. -/
theorem stream_package_spec (sha256 : List UInt8 → String) (digests : hasher.Digests sha256)
    (artifact : UpdateArtifact) (admitted : Admitted artifact) (transfer : Transfer) :
    ((streamPackage artifact hasher transfer).1 = none ↔
      transfer.Faultless ∧ transfer.body.length = artifact.size ∧
        eqIgnoreAsciiCase (sha256 transfer.body).toList artifact.sha256.toList = true) ∧
      ((streamPackage artifact hasher transfer).1 = none →
        (streamPackage artifact hasher transfer).2.map Streamed.file = some transfer.body) ∧
      ∀ streamed, (streamPackage artifact hasher transfer).2 = some streamed →
        Bounded artifact streamed := by
  unfold streamPackage Transfer.Faultless Transfer.body
  cases openError : transfer.openError with
  | some error => simp
  | none =>
      dsimp only
      obtain ⟨error, after, run, bounded, failed⟩ | ⟨after, run, all, reads⟩ :=
        (reads_start hasher artifact).turns admitted transfer.turns
      · rw [run]
        refine ⟨iff_of_false (fun none_ => nomatch none_) fun good => failed ⟨good.1.2.1, ?_⟩,
          (fun none_ => nomatch none_), ?_⟩
        · simpa using good.2.1.le
        · rintro streamed ⟨⟩
          exact bounded
      · have body : ([] ++ transfer.turns.map ReadTurn.bytes).flatten =
            transfer.turns.flatMap ReadTurn.bytes := by
          rw [List.nil_append, List.flatMap_def]
        have file := reads.file
        have finished := reads.finish digests transfer.syncError
        rw [body] at file finished
        rw [run]
        dsimp only
        cases endError : transfer.endError with
        | some error =>
            refine ⟨by simp, (fun none_ => nomatch none_), ?_⟩
            rintro streamed ⟨⟩
            exact reads.bounded
        | none =>
            refine ⟨?_, fun _ => congrArg some file, ?_⟩
            · rw [finished]
              exact ⟨fun good => ⟨⟨rfl, all, rfl, good.1⟩, good.2⟩,
                fun good => ⟨good.1.2.2.2, good.2⟩⟩
            · rintro streamed ⟨⟩
              exact reads.bounded

/-- The digest of the two bytes that the sample transfer carries. -/
def twoByteSha256 (bytes : List UInt8) : String :=
  if bytes = [1, 2] then "a12871fee210fb8619291eaea194581cbd2531e4b23759d225f6806923f63222"
  else ""

/-- A hash function that keeps all bytes until the end. -/
def bufferingHasher : Hasher where
  State := List UInt8
  new := []
  update := (· ++ ·)
  finalize := twoByteSha256

theorem bufferingHasher_digests : bufferingHasher.Digests twoByteSha256 where
  pieces chunks := by
    have all : ∀ bytes : List UInt8, chunks.foldl (· ++ ·) bytes = bytes ++ chunks.flatten := by
      induction chunks with
      | nil => simp
      | cons chunk chunks inductionHypothesis =>
          intro bytes
          rw [List.foldl_cons, inductionHypothesis, List.flatten_cons, List.append_assoc]
    exact congrArg twoByteSha256 (all [])

def streamedArtifact : UpdateArtifact where
  url := "https://example.com/update.zip"
  size := 2
  sha256 := "A12871FEE210FB8619291EAEA194581CBD2531E4B23759D225F6806923F63222"

/-- Two reads of one byte each. -/
def twoReads : Transfer where
  openError := none
  turns := [⟨[1], by decide, by decide, none, none⟩, ⟨[2], by decide, by decide, none, none⟩]
  endError := none
  syncError := none

theorem stream_package_spec_two_reads :
    (streamPackage streamedArtifact bufferingHasher twoReads).1 = none := by
  refine (stream_package_spec twoByteSha256 bufferingHasher_digests streamedArtifact
    ⟨by decide, by decide⟩ twoReads).1.mpr ⟨⟨rfl, ?_, rfl, rfl⟩, rfl, ?_⟩
  · intro turn member
    obtain rfl | rfl := by simpa [twoReads] using member
    · exact ⟨rfl, rfl⟩
    · exact ⟨rfl, rfl⟩
  · decide +kernel

end SubnetDesk.SoftwareUpdate
