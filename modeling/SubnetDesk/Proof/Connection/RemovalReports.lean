import SubnetDesk.Construction.Connection.FileRemoveLog

namespace SubnetDesk.FileRemoveLog

variable (parse : Text → PathBuf)

def FileActionLog.key (log : FileActionLog) : PathBuf := parse log.path

/-- The removals since the last report. -/
def pending (past : List Output) : List FileActionLog :=
  past.foldl (fun calls output =>
    match output with
    | .removed log => calls ++ [log]
    | .reported _ => []) []

/-- The directories among some removals. -/
def dirKeys (calls : List FileActionLog) : List PathBuf :=
  (calls.filter (·.dir)).map (·.key parse)

theorem PathBuf.parent_shorter {path above : PathBuf} (parent : path.parent = some above) :
    above.components.length < path.components.length := by
  unfold PathBuf.parent at parent
  split at parent
  next => cases parent
  next some_ =>
    cases parent
    have positive := List.length_pos_iff.mpr some_
    simp only [List.length_dropLast]
    omega

/-- A directory is kept that was removed while its parent was not kept, and whose parent was not
removed since. -/
def KeptDir (key : PathBuf) (calls : List FileActionLog) : Prop :=
  ∃ before log after, calls = before ++ log :: after ∧ log.dir = true ∧ log.key parse = key ∧
    (∀ later ∈ after, later.dir = true → key.parent ≠ some (later.key parse)) ∧
    ∀ above, key.parent = some above → ¬ KeptDir above before
termination_by key.components.length
decreasing_by exact PathBuf.parent_shorter ‹_›

/-- A file is kept when no directory directly below its path was removed since. -/
def KeptFile (key : PathBuf) (calls : List FileActionLog) : Prop :=
  ∃ before log after, calls = before ++ log :: after ∧ log.dir = false ∧ log.key parse = key ∧
    ∀ later ∈ after, later.dir = true → (later.key parse).parent ≠ some key

section Calls

variable {parse : Text → PathBuf} {key above : PathBuf} {calls : List FileActionLog}
variable {log : FileActionLog}

/-- The directories are those that were removed. -/
theorem mem_dirKeys_iff : key ∈ dirKeys parse calls ↔
    ∃ log ∈ calls, log.dir = true ∧ log.key parse = key := by
  simp [dirKeys, and_assoc]

/-- What one more removal does to a split of the removals. -/
theorem exists_split_append {property : List FileActionLog → FileActionLog →
      List FileActionLog → Prop} :
    (∃ before last after, calls ++ [log] = before ++ last :: after ∧ property before last after) ↔
      (∃ before last after, calls = before ++ last :: after ∧
        property before last (after ++ [log])) ∨ property calls log [] := by
  constructor
  · rintro ⟨before, last, after, split, holds⟩
    rcases List.eq_nil_or_concat after with rfl | ⟨rest, final, rfl⟩
    · obtain ⟨rfl, same⟩ := List.append_inj' split rfl
      cases same
      exact .inr holds
    · rw [List.concat_eq_append] at split holds
      rw [← List.cons_append, ← List.append_assoc] at split
      obtain ⟨rfl, same⟩ := List.append_inj' split rfl
      cases same
      exact .inl ⟨before, last, rest, rfl, holds⟩
  · rintro (⟨before, last, after, rfl, holds⟩ | holds)
    · exact ⟨before, last, after ++ [log], by simp, holds⟩
    · exact ⟨calls, log, [], rfl, holds⟩

theorem keptDir_nil : ¬ KeptDir parse key [] := by
  rw [KeptDir]
  rintro ⟨before, log, after, split, -⟩
  simp at split

/-- A removal hides the directories inside. -/
theorem keptDir_append : KeptDir parse key (calls ++ [log]) ↔
    (KeptDir parse key calls ∧ (log.dir = true → key.parent ≠ some (log.key parse))) ∨
      (log.dir = true ∧ log.key parse = key ∧
        ∀ above, key.parent = some above → ¬ KeptDir parse above calls) := by
  rw [KeptDir, exists_split_append]
  conv_rhs => rw [KeptDir]
  simp only [List.forall_mem_append, List.forall_mem_singleton, List.not_mem_nil, false_implies,
    implies_true, true_and]
  refine or_congr_left ?_
  constructor
  · rintro ⟨before, last, after, split, dir, same, ⟨apart, last_⟩, above⟩
    exact ⟨⟨before, last, after, split, dir, same, apart, above⟩, last_⟩
  · rintro ⟨⟨before, last, after, split, dir, same, apart, above⟩, last_⟩
    exact ⟨before, last, after, split, dir, same, ⟨apart, last_⟩, above⟩

theorem keptFile_nil : ¬ KeptFile parse key [] := by
  rintro ⟨before, log, after, split, -⟩
  simp at split

/-- A removal hides the files inside. -/
theorem keptFile_append : KeptFile parse key (calls ++ [log]) ↔
    (KeptFile parse key calls ∧ (log.dir = true → (log.key parse).parent ≠ some key)) ∨
      (log.dir = false ∧ log.key parse = key) := by
  rw [KeptFile, exists_split_append]
  simp only [List.forall_mem_append, List.forall_mem_singleton, List.not_mem_nil, false_implies,
    implies_true, and_true]
  refine or_congr_left ?_
  constructor
  · rintro ⟨before, last, after, split, dir, same, apart, last_⟩
    exact ⟨⟨before, last, after, split, dir, same, apart⟩, last_⟩
  · rintro ⟨⟨before, last, after, split, dir, same, apart⟩, last_⟩
    exact ⟨before, last, after, split, dir, same, apart, last_⟩

/-- No kept directory has a kept parent. -/
theorem KeptDir.parent_not_kept (kept : KeptDir parse key calls) (parent : key.parent = some above) :
    ¬ KeptDir parse above calls := by
  induction calls using List.reverseRecOn with
  | nil => exact fun _ => keptDir_nil kept
  | append_singleton calls log inductionHypothesis =>
      intro keptAbove
      obtain ⟨old, apart⟩ | ⟨dir, same, fresh⟩ := keptDir_append.mp kept
      · obtain ⟨oldAbove, -⟩ | ⟨dir, same, -⟩ := keptDir_append.mp keptAbove
        · exact inductionHypothesis old oldAbove
        · exact apart dir (same ▸ parent)
      · obtain ⟨oldAbove, -⟩ | ⟨-, sameAbove, -⟩ := keptDir_append.mp keptAbove
        · exact fresh above parent oldAbove
        · have shorter := PathBuf.parent_shorter parent
          rw [← same, ← sameAbove] at shorter
          exact Nat.lt_irrefl _ shorter

/-- A kept directory was removed. -/
theorem KeptDir.removed (kept : KeptDir parse key calls) : key ∈ dirKeys parse calls := by
  rw [KeptDir] at kept
  obtain ⟨before, log, after, rfl, dir, same, -⟩ := kept
  exact mem_dirKeys_iff.mpr ⟨log, by simp, dir, same⟩

/-- A removed directory whose parent was not removed is kept. -/
theorem keptDir_of_top (removed : key ∈ dirKeys parse calls)
    (top : ∀ above, key.parent = some above → above ∉ dirKeys parse calls) :
    KeptDir parse key calls := by
  obtain ⟨log, member, dir, same⟩ := mem_dirKeys_iff.mp removed
  obtain ⟨before, after, rfl⟩ := List.append_of_mem member
  rw [KeptDir]
  refine ⟨before, log, after, rfl, dir, same, fun later inside laterDir parent => ?_,
    fun above parent kept => ?_⟩
  · exact top _ parent (mem_dirKeys_iff.mpr ⟨later, by simp [inside], laterDir, rfl⟩)
  · obtain ⟨other, inside, otherDir, same⟩ := mem_dirKeys_iff.mp kept.removed
    exact top above parent (mem_dirKeys_iff.mpr ⟨other, by simp [inside], otherDir, same⟩)

end Calls

section Runs

variable {parse : Text → PathBuf} {control : FileRemoveLogControl} {calls : List FileActionLog}

/-- The two lists hold the paths that are kept. -/
structure Tracks (parse : Text → PathBuf) (control : FileRemoveLogControl)
    (calls : List FileActionLog) : Prop where
  files : ∀ key, (∃ file ∈ control.removedFiles, parse file.path = key) ↔
    KeptFile parse key calls
  dirs : ∀ key, (∃ dir ∈ control.removedDirs, parse dir.path = key) ↔ KeptDir parse key calls
  calledFiles : ∀ file ∈ control.removedFiles, control.log false file ∈ calls
  calledDirs : ∀ dir ∈ control.removedDirs, control.log true dir ∈ calls

/-- An empty control tracks nothing. -/
theorem Tracks.empty (files : control.removedFiles = []) (dirs : control.removedDirs = []) :
    Tracks parse control [] where
  files key := by
    rw [files]
    exact iff_of_false (by simp) keptFile_nil
  dirs key := by
    rw [dirs]
    exact iff_of_false (by simp) keptDir_nil
  calledFiles file member := nomatch files ▸ member
  calledDirs dir member := nomatch dirs ▸ member

/-- A removed file is tracked. -/
theorem Tracks.removeFile (tracks : Tracks parse control calls) (now : Nat) (file : FileRemove) :
    Tracks parse (control.onRemoveFile now file).1 (calls ++ [(control.onRemoveFile now file).2])
    where
  files key := by
    rw [keptFile_append, ← tracks.files]
    simp [FileRemoveLogControl.onRemoveFile, FileRemoveLogControl.log, FileActionLog.key,
      or_and_right, exists_or]
  dirs key := by
    rw [keptDir_append, ← tracks.dirs]
    simp [FileRemoveLogControl.onRemoveFile, FileRemoveLogControl.log]
  calledFiles other member := by
    obtain old | same := List.mem_append.mp member
    · exact List.mem_append_left _ (tracks.calledFiles other old)
    · rw [List.mem_singleton.mp same]
      exact List.mem_append_right _ (List.mem_singleton_self _)
  calledDirs other member := List.mem_append_left _ (tracks.calledDirs other member)

/-- A direct child has the parent. -/
theorem directChild_iff {parent child : Text} :
    FileRemoveLogControl.directChild parse parent child = true ↔
      (parse child).parent = some (parse parent) := beq_iff_eq

theorem exists_filter_directChild (removals : List FileRemove) (dir : FileRemove) (key : PathBuf) :
    (∃ other ∈ removals.filter fun other =>
      !FileRemoveLogControl.directChild parse dir.path other.path, parse other.path = key) ↔
      (∃ other ∈ removals, parse other.path = key) ∧ key.parent ≠ some (parse dir.path) := by
  simp only [List.mem_filter, Bool.not_eq_true', ← Bool.not_eq_true, directChild_iff]
  constructor
  · rintro ⟨other, ⟨member, apart⟩, rfl⟩
    exact ⟨⟨other, member, rfl⟩, apart⟩
  · rintro ⟨⟨other, member, rfl⟩, apart⟩
    exact ⟨other, ⟨member, apart⟩, rfl⟩

/-- A directory is left out when its parent is kept. -/
theorem any_directChild_iff {listed : List FileRemove} (dir : FileRemove)
    (kept : ∀ key, (∃ other ∈ listed, parse other.path = key) ↔
      KeptDir parse key calls ∧ key.parent ≠ some (parse dir.path)) :
    (listed.any fun other => FileRemoveLogControl.directChild parse other.path dir.path) = true ↔
      ∃ above, (parse dir.path).parent = some above ∧ KeptDir parse above calls := by
  rw [List.any_eq_true]
  simp only [directChild_iff]
  constructor
  · rintro ⟨other, member, parent⟩
    exact ⟨_, parent, ((kept _).mp ⟨other, member, rfl⟩).1⟩
  · rintro ⟨above, parent, keptAbove⟩
    have apart : above.parent ≠ some (parse dir.path) := by
      intro loop
      have up := PathBuf.parent_shorter parent
      have down := PathBuf.parent_shorter loop
      omega
    obtain ⟨other, member, rfl⟩ := (kept above).mpr ⟨keptAbove, apart⟩
    exact ⟨other, member, parent⟩

/-- A removed directory is tracked. -/
theorem Tracks.removeDir (tracks : Tracks parse control calls) (now : Nat) (dir : FileRemove) :
    Tracks parse (control.onRemoveDir parse now dir).1
      (calls ++ [(control.onRemoveDir parse now dir).2]) where
  files key := by
    rw [keptFile_append, ← tracks.files]
    simp only [FileRemoveLogControl.onRemoveDir, FileRemoveLogControl.log, FileActionLog.key,
      List.mem_filter, Bool.not_eq_true', ← Bool.not_eq_true, directChild_iff]
    constructor
    · rintro ⟨file, ⟨member, apart⟩, rfl⟩
      exact .inl ⟨⟨file, member, rfl⟩, fun _ => apart⟩
    · rintro (⟨⟨file, member, rfl⟩, apart⟩ | ⟨notDir, -⟩)
      · exact ⟨file, ⟨member, apart trivial⟩, rfl⟩
      · exact absurd trivial notDir
  dirs key := by
    have kept : ∀ key, (∃ other ∈ control.removedDirs.filter fun other =>
        !FileRemoveLogControl.directChild parse dir.path other.path, parse other.path = key) ↔
        KeptDir parse key calls ∧ key.parent ≠ some (parse dir.path) := fun key => by
      rw [exists_filter_directChild, tracks.dirs]
    have covered := any_directChild_iff dir kept
    rw [keptDir_append]
    simp only [FileRemoveLogControl.onRemoveDir, FileRemoveLogControl.log, FileActionLog.key]
    generalize control.removedDirs.filter _ = listed at kept covered ⊢
    cases below : listed.any fun other =>
        FileRemoveLogControl.directChild parse other.path dir.path with
    | true =>
        obtain ⟨above, parent, keptAbove⟩ := covered.mp below
        rw [if_pos rfl, kept]
        refine ⟨fun old => .inl ⟨old.1, fun _ => old.2⟩, ?_⟩
        rintro (⟨old, apart⟩ | ⟨-, rfl, fresh⟩)
        · exact ⟨old, apart trivial⟩
        · exact absurd keptAbove (fresh above parent)
    | false =>
        have fresh : ∀ above, (parse dir.path).parent = some above →
            ¬ KeptDir parse above calls := by
          intro above parent keptAbove
          rw [covered.mpr ⟨above, parent, keptAbove⟩] at below
          cases below
        rw [if_neg Bool.false_ne_true]
        simp only [List.mem_append, List.mem_singleton, or_and_right, exists_or, kept,
          exists_eq_left]
        constructor
        · rintro (⟨old, apart⟩ | rfl)
          · exact .inl ⟨old, fun _ => apart⟩
          · exact .inr ⟨trivial, rfl, fresh⟩
        · rintro (⟨old, apart⟩ | ⟨-, same, -⟩)
          · exact .inl ⟨old, apart trivial⟩
          · exact .inr same
  calledFiles file member :=
    List.mem_append_left _ (tracks.calledFiles file (List.mem_filter.mp member).1)
  calledDirs other member := by
    have old : ∀ other ∈ control.removedDirs.filter fun other =>
        !FileRemoveLogControl.directChild parse dir.path other.path,
        control.log true other ∈ calls ++ [control.log true dir] := fun other inside =>
      List.mem_append_left _ (tracks.calledDirs other (List.mem_filter.mp inside).1)
    simp only [FileRemoveLogControl.onRemoveDir] at member
    split at member
    next => exact old other member
    next =>
      obtain inside | same := List.mem_append.mp member
      · exact old other inside
      · rw [List.mem_singleton.mp same]
        exact List.mem_append_right _ (List.mem_singleton_self _)

/-- A removal is pending. -/
theorem pending_removed (past : List Output) (log : FileActionLog) :
    pending (past ++ [.removed log]) = pending past ++ [log] := by
  rw [pending, List.foldl_append]
  rfl

/-- After a report nothing is pending. -/
theorem pending_reported (past : List Output) (logs : List FileActionLog) :
    pending (past ++ [.reported logs]) = [] := by
  rw [pending, List.foldl_append]
  rfl

/-- Every run is tracked. -/
theorem tracks_run (parse : Text → PathBuf) (connId : Int) (start : Nat) (events : List Event) :
    Tracks parse ((machine parse).run (.new connId start) events).1
      (pending ((machine parse).run (.new connId start) events).2) := by
  induction events using List.reverseRecOn with
  | nil => exact .empty rfl rfl
  | append_singleton events event inductionHypothesis =>
      rw [Machine.run_append, Machine.run_append_outputs]
      generalize ((machine parse).run (.new connId start) events).1 = control at *
      generalize ((machine parse).run (.new connId start) events).2 = past at *
      cases event with
      | removeFile now file =>
          change Tracks parse (control.onRemoveFile now file).1 (pending (past ++ [.removed _]))
          rw [pending_removed]
          exact inductionHypothesis.removeFile now file
      | removeDir now dir =>
          change Tracks parse (control.onRemoveDir parse now dir).1
            (pending (past ++ [.removed _]))
          rw [pending_removed]
          exact inductionHypothesis.removeDir now dir
      | timer now =>
          change Tracks parse (control.onTimer now).1 (pending (past ++
            ((if control.due now then [.reported (control.onTimer now).2] else []) ++ [])))
          rw [List.append_nil, FileRemoveLogControl.onTimer]
          split
          next due =>
            rw [pending_reported]
            exact .empty rfl rfl
          next =>
            rw [List.append_nil]
            exact inductionHypothesis

end Runs

section Reports

variable {parse : Text → PathBuf} {control : FileRemoveLogControl}
variable {calls report : List FileActionLog} {key : PathBuf}

/-- Upwards from a directory the last one that was removed is reported. -/
inductive TopReported (parse : Text → PathBuf) (calls report : List FileActionLog) :
    PathBuf → Prop where
  | top {key : PathBuf} (top : ∀ above, key.parent = some above → above ∉ dirKeys parse calls)
      (reported : key ∈ dirKeys parse report) : TopReported parse calls report key
  | up {key above : PathBuf} (parent : key.parent = some above)
      (removed : above ∈ dirKeys parse calls) (reported : TopReported parse calls report above) :
      TopReported parse calls report key

/-- A report covers all removals, and no entry stands beside its parent directory. -/
structure Accounts (parse : Text → PathBuf) (calls report : List FileActionLog) : Prop where
  complete : ∀ log ∈ calls,
    (∃ entry ∈ report, entry.dir = log.dir ∧ entry.key parse = log.key parse) ∨
      ∃ above, (log.key parse).parent = some above ∧ above ∈ dirKeys parse calls ∧
        TopReported parse calls report above
  minimal : ∀ entry ∈ report, ∀ above, (entry.key parse).parent = some above →
    above ∉ dirKeys parse report

/-- Every removed file is kept or has a removed parent, and none has a kept one. -/
structure FilesSettled (parse : Text → PathBuf) (calls : List FileActionLog) : Prop where
  covered : ∀ log ∈ calls, log.dir = false → KeptFile parse (log.key parse) calls ∨
    ∃ above, (log.key parse).parent = some above ∧ above ∈ dirKeys parse calls
  apart : ∀ key above, KeptFile parse key calls → key.parent = some above →
    ¬ KeptDir parse above calls

/-- The top of a removal is reported. -/
theorem topReported_of_removed
    (dirs : ∀ key, key ∈ dirKeys parse report ↔ KeptDir parse key calls)
    (removed : key ∈ dirKeys parse calls) : TopReported parse calls report key := by
  induction size : key.components.length using Nat.strongRecOn generalizing key with
  | ind size inductionHypothesis =>
      by_cases top : ∀ above, key.parent = some above → above ∉ dirKeys parse calls
      · exact .top top ((dirs key).mpr (keptDir_of_top removed top))
      · simp only [not_forall, not_not] at top
        obtain ⟨above, parent, aboveRemoved⟩ := top
        have shorter := PathBuf.parent_shorter parent
        exact .up parent aboveRemoved
          (inductionHypothesis _ (size ▸ shorter) aboveRemoved rfl)

/-- A report accounts for what was kept. -/
theorem accounts_iff
    (files : ∀ key, (∃ entry ∈ report, entry.dir = false ∧ entry.key parse = key) ↔
      KeptFile parse key calls)
    (dirs : ∀ key, key ∈ dirKeys parse report ↔ KeptDir parse key calls) :
    Accounts parse calls report ↔ FilesSettled parse calls := by
  constructor
  · intro accounts
    refine ⟨fun log member notDir => ?_, fun key above kept parent keptAbove => ?_⟩
    · obtain ⟨entry, reported, kind, same⟩ | ⟨above, parent, removed, -⟩ :=
        accounts.complete log member
      · exact .inl ((files _).mp ⟨entry, reported, kind.trans notDir, same⟩)
      · exact .inr ⟨above, parent, removed⟩
    · obtain ⟨entry, reported, -, rfl⟩ := (files key).mpr kept
      exact accounts.minimal entry reported above parent ((dirs above).mpr keptAbove)
  · intro settled
    refine ⟨fun log member => ?_, fun entry reported above parent reportedAbove => ?_⟩
    · cases kind : log.dir with
      | false =>
          obtain kept | ⟨above, parent, removed⟩ := settled.covered log member kind
          · exact .inl ((files _).mpr kept)
          · exact .inr ⟨above, parent, removed, topReported_of_removed dirs removed⟩
      | true =>
          have removed : log.key parse ∈ dirKeys parse calls :=
            mem_dirKeys_iff.mpr ⟨log, member, kind, rfl⟩
          by_cases top : ∀ above, (log.key parse).parent = some above →
              above ∉ dirKeys parse calls
          · obtain ⟨entry, reported, dir, same⟩ := mem_dirKeys_iff.mp
              ((dirs _).mpr (keptDir_of_top removed top))
            exact .inl ⟨entry, reported, dir, same⟩
          · simp only [not_forall, not_not] at top
            obtain ⟨above, parent, aboveRemoved⟩ := top
            exact .inr ⟨above, parent, aboveRemoved, topReported_of_removed dirs aboveRemoved⟩
    · have keptAbove := (dirs above).mp reportedAbove
      cases kind : entry.dir with
      | false =>
          have kept := (files _).mp ⟨entry, reported, kind, rfl⟩
          exact settled.apart _ above kept parent keptAbove
      | true =>
          have kept := (dirs _).mp (mem_dirKeys_iff.mpr ⟨entry, reported, kind, rfl⟩)
          exact kept.parent_not_kept parent keptAbove

/-- A report accounts for the removals since the last one when their files are settled. -/
theorem removal_report_iff (parse : Text → PathBuf) (connId : Int) (start : Nat)
    (events : List Event) (now : Nat)
    (due : ((machine parse).run (.new connId start) events).1.due now = true) :
    let control := ((machine parse).run (.new connId start) events).1
    let calls := pending ((machine parse).run (.new connId start) events).2
    (Accounts parse calls (control.onTimer now).2 ↔ FilesSettled parse calls) ∧
      (∀ entry ∈ (control.onTimer now).2, entry ∈ calls) ∧
      (control.onTimer now).1.removedFiles = [] ∧ (control.onTimer now).1.removedDirs = [] := by
  intro control calls
  have tracks : Tracks parse control calls := tracks_run parse connId start events
  rw [FileRemoveLogControl.onTimer, if_pos due]
  refine ⟨accounts_iff (fun key => ?_) (fun key => ?_), fun entry reported => ?_, rfl, rfl⟩
  · rw [← tracks.files]
    simp [FileRemoveLogControl.log, FileActionLog.key, or_and_right, exists_or]
  · rw [← tracks.dirs, mem_dirKeys_iff]
    simp [FileRemoveLogControl.log, FileActionLog.key, or_and_right, exists_or]
  · obtain file | dir := List.mem_append.mp reported
    · obtain ⟨removal, member, rfl⟩ := List.mem_map.mp file
      exact tracks.calledFiles removal member
    · obtain ⟨removal, member, rfl⟩ := List.mem_map.mp dir
      exact tracks.calledDirs removal member

/-- A directory is removed after its only file. -/
def fileThenDirectory : List Event :=
  [.removeFile 0 ⟨1, "/d/f".toList⟩, .removeDir 0 ⟨2, "/d".toList⟩]

theorem file_then_directory_report :
    (Accounts unixPath (pending ((machine unixPath).run (.new 0 0) fileThenDirectory).2)
        ((((machine unixPath).run (.new 0 0) fileThenDirectory).1.onTimer 1000000000).2) ↔
      FilesSettled unixPath (pending ((machine unixPath).run (.new 0 0) fileThenDirectory).2)) ∧
    (∀ entry ∈ (((machine unixPath).run (.new 0 0) fileThenDirectory).1.onTimer 1000000000).2,
      entry ∈ pending ((machine unixPath).run (.new 0 0) fileThenDirectory).2) ∧
    (((machine unixPath).run (.new 0 0) fileThenDirectory).1.onTimer 1000000000).1.removedFiles =
      [] ∧
    (((machine unixPath).run (.new 0 0) fileThenDirectory).1.onTimer 1000000000).1.removedDirs =
      [] :=
  removal_report_iff unixPath 0 0 fileThenDirectory 1000000000 (by decide +kernel)

/-- The file is reported beside its directory. -/
theorem file_beside_directory :
    (((machine unixPath).run (.new 0 0) fileThenDirectory).1.onTimer 1000000000).2 =
        [⟨1, 0, "/d/f".toList, false⟩, ⟨2, 0, "/d".toList, true⟩] ∧
      ¬ Accounts unixPath (pending ((machine unixPath).run (.new 0 0) fileThenDirectory).2)
        (((machine unixPath).run (.new 0 0) fileThenDirectory).1.onTimer 1000000000).2 := by
  have report : (((machine unixPath).run (.new 0 0) fileThenDirectory).1.onTimer 1000000000).2 =
      [⟨1, 0, "/d/f".toList, false⟩, ⟨2, 0, "/d".toList, true⟩] := by decide +kernel
  refine ⟨report, fun accounts => ?_⟩
  rw [report] at accounts
  exact accounts.minimal ⟨1, 0, "/d/f".toList, false⟩ List.mem_cons_self ⟨['/'], [['d']]⟩
    (by decide +kernel) (by decide +kernel)

end Reports

end SubnetDesk.FileRemoveLog
