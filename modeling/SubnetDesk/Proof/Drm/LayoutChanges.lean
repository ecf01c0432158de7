import SubnetDesk.Construction.Drm.WaylandLayout

namespace SubnetDesk.DisplayService

open Drm

/-- The name, the place and the transform of an output. -/
def placement (display : WaylandDisplayInfo) : Name × Int32 × Int32 × Int32 :=
  (display.name, display.x, display.y, display.transform)

/-- The rectangles of a layout tell every move and every rotation of an output. -/
theorem placement_of_rects {first second : List WaylandDisplayInfo}
    (same : logicalRectsOf first = logicalRectsOf second) :
    first.map placement = second.map placement := by
  have placed (displays : List WaylandDisplayInfo) :
      (logicalRectsOf displays).map (fun rect => (rect.name, rect.x, rect.y, rect.transform)) =
        displays.map placement := by
    rw [logicalRectsOf, List.map_map]
    rfl
  rw [← placed, ← placed, same]

theorem logicalRectsOf_eq_nil {displays : List WaylandDisplayInfo} :
    logicalRectsOf displays = [] ↔ displays = [] := List.map_eq_nil_iff

/-- A capturer of the current generation was built on these displays, and its record has arrived. -/
def Watch.Current (watch : Watch) (displays : List WaylandDisplayInfo) : Prop :=
  ∃ build ∈ watch.builds, build.stage = .recorded displays ∧ build.snapshotGen = watch.generation

/-- The current capturers were built against the remembered layout, or one of the current generation
is flagged. -/
def Watch.Tracked (watch : Watch) : Prop :=
  ∀ displays, watch.Current displays → logicalRectsOf displays = watch.layout.seen ∨
    watch.layout.unseenBuild = some watch.generation

/-- The poll is on its way to the bump of the generation. -/
def PollPhase.Promoting : PollPhase → Prop
  | .observed _ liveChanged => liveChanged = true
  | .clearing _ => True
  | .bumping _ => True
  | _ => False

def PollPhase.layoutRead : PollPhase → Option (List DisplayRect)
  | .looked live => some live
  | _ => none

/-- The generations are no later than the current one, a record is never forgotten, the remembered
layout is the last observed one, and the current capturers are tracked up to a promotion. -/
structure Watch.Consistent (watch : Watch) (past : List Report) : Prop where
  built : ∀ build ∈ watch.builds, build.snapshotGen ≤ watch.generation
  flagged : ∀ generation, watch.layout.unseenBuild = some generation → generation ≤ watch.generation
  remembered : ∀ build ∈ watch.builds, ∀ displays, build.stage = .recorded displays →
    watch.layout.seen ≠ []
  readable : ∀ live, watch.poll.layoutRead = some live → live ≠ []
  observed : ∀ report, past.getLast? = some report →
    watch.layout.seen = report.live ∧ report.live ≠ []
  tracked : ¬ watch.poll.Promoting → watch.Tracked

/-- A new watch is consistent. -/
theorem start_consistent (outputs : List WaylandDisplayInfo) :
    (Watch.start outputs).Consistent [] where
  built build member := nomatch member
  flagged generation flag := nomatch flag
  remembered build member := nomatch member
  readable live read := nomatch read
  observed report last := nomatch last
  tracked _ displays current := by
    obtain ⟨build, member, -⟩ := current
    exact nomatch member

section Steps

variable {watch next : Watch} {past : List Report}

/-- A step that leaves the remembered layouts alone keeps the watch consistent where its new builds
are not recorded. -/
theorem Watch.Consistent.of_builds (consistent : watch.Consistent past)
    (seen : next.layout.seen = watch.layout.seen)
    (unseen : next.layout.unseenBuild = watch.layout.unseenBuild)
    (generation : next.generation = watch.generation)
    (builds : ∀ build ∈ next.builds, build ∈ watch.builds ∨
      (build.snapshotGen ≤ watch.generation ∧ ∀ displays, build.stage ≠ .recorded displays))
    (readable : ∀ live, next.poll.layoutRead = some live → live ≠ [])
    (promoting : ¬ next.poll.Promoting → ¬ watch.poll.Promoting) : next.Consistent past where
  built build member := by
    rw [generation]
    rcases builds build member with old | ⟨bound, -⟩
    · exact consistent.built build old
    · exact bound
  flagged := by
    rw [generation, unseen]
    exact consistent.flagged
  remembered build member displays recorded := by
    rw [seen]
    rcases builds build member with old | ⟨-, unrecorded⟩
    · exact consistent.remembered build old displays recorded
    · exact absurd recorded (unrecorded displays)
  readable := readable
  observed := by
    rw [seen]
    exact consistent.observed
  tracked quiet displays current := by
    obtain ⟨build, member, recorded, atGeneration⟩ := current
    rw [seen, unseen, generation]
    rcases builds build member with old | ⟨-, unrecorded⟩
    · exact consistent.tracked (promoting quiet) displays
        ⟨build, old, recorded, atGeneration.trans generation⟩
    · exact absurd recorded (unrecorded displays)

/-- A change concerns one build. -/
theorem mem_setBuild {index : Nat} {build other : Build} {stage : BuildStage}
    (member : other ∈ (watch.setBuild index build stage).builds) :
    other ∈ watch.builds ∨ other = { build with stage := stage } :=
  List.mem_or_eq_of_mem_set member

/-- A build that comes to a stage before its record keeps the watch consistent. -/
theorem Watch.Consistent.setBuild (consistent : watch.Consistent past) {index : Nat} {build : Build}
    {stage : BuildStage} (bound : build.snapshotGen ≤ watch.generation)
    (unrecorded : ∀ displays, stage ≠ .recorded displays) :
    (watch.setBuild index build stage).Consistent past := by
  refine consistent.of_builds rfl rfl rfl (fun other member => ?_) consistent.readable id
  rcases mem_setBuild member with old | rfl
  · exact .inl old
  · exact .inr ⟨bound, unrecorded⟩

/-- A query changes the cache only. -/
theorem getDisplays_frame (watch : Watch) (answers : Bool) :
    ∃ cache, (watch.getDisplays answers).1 = { watch with cache := cache } := by
  unfold Watch.getDisplays
  cases cached : watch.cache with
  | some displays => exact ⟨watch.cache, rfl⟩
  | none =>
      cases answers with
      | true => exact ⟨some watch.outputs, rfl⟩
      | false => exact ⟨watch.cache, rfl⟩

/-- A query is consistent. -/
theorem Watch.Consistent.getDisplays (consistent : watch.Consistent past) (answers : Bool) :
    (watch.getDisplays answers).1.Consistent past := by
  obtain ⟨cache, frame⟩ := getDisplays_frame watch answers
  rw [frame]
  exact consistent.of_builds rfl rfl rfl (fun _ member => .inl member) consistent.readable id

/-- The remembered layout is empty only before the first record and the first poll. -/
theorem Watch.Consistent.resetBaseline (consistent : watch.Consistent past)
    (baseline : List DisplayRect) :
    { watch with layout := watch.layout.resetBaseline baseline }.Consistent past := by
  by_cases empty : watch.layout.seen = []
  · have none_ (build) (member : build ∈ watch.builds) (displays) :
        build.stage ≠ .recorded displays :=
      fun recorded => consistent.remembered build member displays recorded empty
    exact
      { built := consistent.built
        flagged := consistent.flagged
        remembered := fun build member displays recorded =>
          absurd recorded (none_ build member displays)
        readable := consistent.readable
        observed := fun report last =>
          absurd ((consistent.observed report last).1 ▸ empty) (consistent.observed report last).2
        tracked := fun _ displays ⟨build, member, recorded, _⟩ =>
          absurd recorded (none_ build member displays) }
  · have seen : (watch.layout.resetBaseline baseline).seen = watch.layout.seen := if_neg empty
    exact consistent.of_builds seen rfl rfl (fun _ member => .inl member) consistent.readable id

/-- The first record is remembered, and a record of another layout flags its generation. -/
theorem noteCapturer_cases (layout : WaylandLayout) {builtOn : List DisplayRect} (builtGen : Nat)
    (some_ : builtOn ≠ []) :
    (layout.seen = [] ∧ layout.noteCapturer builtOn builtGen = { layout with seen := builtOn }) ∨
      (layout.seen = builtOn ∧ layout.noteCapturer builtOn builtGen = layout) ∨
      (layout.seen ≠ [] ∧ layout.noteCapturer builtOn builtGen =
        { layout with
          unseenBuild := some (layout.unseenBuild.elim builtGen (max · builtGen)) }) := by
  unfold WaylandLayout.noteCapturer
  rw [if_neg some_]
  split
  next empty => exact .inl ⟨empty, rfl⟩
  next seen =>
    split
    next => exact .inr (.inr ⟨seen, rfl⟩)
    next same => exact .inr (.inl ⟨not_not.mp same, rfl⟩)

/-- The record of a capturer is remembered or flagged. -/
theorem Watch.Consistent.note (consistent : watch.Consistent past) {index : Nat} {build : Build}
    (member : build ∈ watch.builds) {displays : List WaylandDisplayInfo} (shown : displays ≠ []) :
    ({ watch with
       layout := watch.layout.noteCapturer (logicalRectsOf displays) build.snapshotGen }.setBuild
        index build (.recorded displays)).Consistent past := by
  have bound := consistent.built build member
  have some_ : logicalRectsOf displays ≠ [] := mt logicalRectsOf_eq_nil.mp shown
  have built (other) (kept : other ∈ (watch.setBuild index build (.recorded displays)).builds) :
      other.snapshotGen ≤ watch.generation := by
    rcases mem_setBuild kept with old | rfl
    · exact consistent.built other old
    · exact bound
  rcases noteCapturer_cases watch.layout build.snapshotGen some_ with
    ⟨empty, noted⟩ | ⟨same, noted⟩ | ⟨seen, noted⟩
  · rw [noted]
    exact
      { built := built
        flagged := consistent.flagged
        remembered := fun _ _ _ _ => some_
        readable := consistent.readable
        observed := fun report last =>
          absurd ((consistent.observed report last).1 ▸ empty) (consistent.observed report last).2
        tracked := by
          rintro - others ⟨other, kept, recorded, -⟩
          rcases mem_setBuild kept with old | rfl
          · exact absurd empty (consistent.remembered other old others recorded)
          · cases recorded
            exact .inl rfl }
  · rw [noted]
    exact
      { built := built
        flagged := consistent.flagged
        remembered := fun _ _ _ _ empty => some_ (same ▸ empty)
        readable := consistent.readable
        observed := consistent.observed
        tracked := by
          rintro quiet others ⟨other, kept, recorded, atGeneration⟩
          rcases mem_setBuild kept with old | rfl
          · exact consistent.tracked quiet others ⟨other, old, recorded, atGeneration⟩
          · cases recorded
            exact .inl same.symm }
  · rw [noted]
    exact
      { built := built
        flagged := by
          rintro generation ⟨⟩
          cases flag : watch.layout.unseenBuild with
          | none => exact bound
          | some flagged => exact max_le (consistent.flagged flagged flag) bound
        remembered := fun _ _ _ _ => seen
        readable := consistent.readable
        observed := consistent.observed
        tracked := by
          rintro quiet others ⟨other, kept, recorded, atGeneration⟩
          rcases mem_setBuild kept with old | rfl
          · rcases consistent.tracked quiet others ⟨other, old, recorded, atGeneration⟩ with
              same | flag
            · exact .inl same
            · right
              show some (watch.layout.unseenBuild.elim _ _) = some watch.generation
              rw [flag, Option.elim_some, max_eq_left bound]
          · right
            have current : build.snapshotGen = watch.generation := atGeneration
            show some (watch.layout.unseenBuild.elim _ _) = some watch.generation
            cases flag : watch.layout.unseenBuild with
            | none => rw [Option.elim_none, current]
            | some flagged =>
                rw [Option.elim_some, current, max_eq_right (consistent.flagged flagged flag)] }

/-- A step of a build is consistent. -/
theorem Watch.Consistent.buildStep (consistent : watch.Consistent past) (index : Nat) {build : Build}
    (member : build ∈ watch.builds) (answers : Bool) :
    (watch.buildStep index build answers).Consistent past := by
  have bound := consistent.built build member
  unfold Watch.buildStep
  cases build.stage with
  | started =>
      obtain ⟨cache, frame⟩ := getDisplays_frame watch answers
      refine (consistent.getDisplays answers).setBuild ?_ (fun _ stage => nomatch stage)
      rw [frame]
      exact bound
  | read displays =>
      have flagged (pending : Bool) :
          { watch with unrotatedSnapshotPending := pending }.Consistent past :=
        consistent.of_builds rfl rfl rfl (fun _ kept => .inl kept) consistent.readable id
      exact (flagged _).setBuild bound (fun _ stage => nomatch stage)
  | oriented displays =>
      cases displays with
      | nil => exact consistent.setBuild bound (fun _ stage => nomatch stage)
      | cons first rest => exact consistent.note member (List.cons_ne_nil first rest)
  | recorded displays => exact consistent
  | unrecorded => exact consistent

/-- Without an edge, nothing was remembered or the remembered layout is the live one. -/
theorem edge_eq_false {layout : WaylandLayout} {live : List DisplayRect} {missing : Bool}
    {generation : Nat} (quiet : layout.edge live missing generation = false) :
    layout.unseenBuild ≠ some generation ∧ (layout.seen = [] ∨ layout.seen = live) := by
  unfold WaylandLayout.edge at quiet
  split at quiet
  next => exact nomatch quiet
  next unflagged =>
    refine ⟨unflagged, ?_⟩
    split at quiet
    next => exact .inr (by simpa using quiet)
    next empty => exact .inl (not_not.mp empty)

/-- Where the poll sees no edge, the current capturers were built on the live layout. -/
theorem Watch.Consistent.current_of_quiet (consistent : watch.Consistent past)
    (settled : ¬ watch.poll.Promoting) {live : List DisplayRect} {missing : Bool}
    (quiet : watch.layout.edge live missing watch.generation = false)
    {displays : List WaylandDisplayInfo} (current : watch.Current displays) :
    logicalRectsOf displays = live := by
  obtain ⟨unflagged, remembered⟩ := edge_eq_false quiet
  rcases consistent.tracked settled displays current with same | flag
  · rcases remembered with empty | seen
    · obtain ⟨build, member, recorded, -⟩ := current
      exact absurd empty (consistent.remembered build member displays recorded)
    · exact same.trans seen
  · exact absurd flag unflagged

/-- An observed layout is remembered, and its edge is taken over by the poll. -/
theorem Watch.Consistent.observe (consistent : watch.Consistent past) {live : List DisplayRect}
    (looked : watch.poll = .looked live) :
    { watch with
      layout := watch.layout.observe live
      poll := .observed live
        (watch.layout.edge live watch.cache.isNone watch.generation) }.Consistent
      (past ++ [Report.mk live (watch.layout.edge live watch.cache.isNone watch.generation)]) := by
  have some_ : live ≠ [] := consistent.readable live (by rw [looked]; rfl)
  exact
    { built := consistent.built
      flagged := fun _ flag => nomatch flag
      remembered := fun _ _ _ _ => some_
      readable := fun _ read => nomatch read
      observed := by
        intro report last
        rw [List.getLast?_concat] at last
        cases last
        exact ⟨rfl, some_⟩
      tracked := by
        intro quiet displays current
        refine .inl (consistent.current_of_quiet ?_ (Bool.eq_false_of_not_eq_true quiet) current)
        rw [looked]
        exact id }

/-- A decision is consistent. -/
theorem Watch.Consistent.decide (consistent : watch.Consistent past) {live : List DisplayRect}
    {liveChanged : Bool} (observed : watch.poll = .observed live liveChanged) :
    (watch.decide live liveChanged true).Consistent past := by
  unfold Watch.decide
  dsimp only
  split
  next =>
    exact consistent.of_builds rfl rfl rfl (fun _ member => .inl member) (fun _ read => nomatch read)
      (fun promoting => absurd trivial promoting)
  next quiet =>
    refine consistent.of_builds rfl rfl rfl (fun _ member => .inl member)
      (fun _ read => nomatch read) fun _ promoting => quiet ?_
    rw [observed] at promoting
    rw [show liveChanged = true from promoting]
    simp

/-- No capturer that stands before the bump is current behind it. -/
theorem Watch.Consistent.bump (consistent : watch.Consistent past) (live : List DisplayRect) :
    { watch with
      generation := watch.generation + 1
      poll := .rebasing live }.Consistent past where
  built build member := Nat.le_succ_of_le (consistent.built build member)
  flagged generation flag := Nat.le_succ_of_le (consistent.flagged generation flag)
  remembered := consistent.remembered
  readable _ read := nomatch read
  observed := consistent.observed
  tracked := by
    rintro - displays ⟨build, member, -, current⟩
    have bound := consistent.built build member
    have atBump : build.snapshotGen = watch.generation + 1 := current
    omega

/-- A poll is consistent. -/
theorem Watch.Consistent.pollStep (consistent : watch.Consistent past) (answers : Bool) :
    (watch.pollStep answers true).1.Consistent (past ++ (watch.pollStep answers true).2) := by
  unfold Watch.pollStep
  cases phase : watch.poll with
  | idle =>
      have quiet : ¬ watch.poll.Promoting := by
        rw [phase]
        exact id
      cases read : watch.getLayoutForUinputLive answers with
      | none => simpa using consistent
      | some live =>
          rw [Watch.getLayoutForUinputLive, Option.ite_none_right_eq_some] at read
          obtain ⟨⟨-, shown⟩, rects⟩ := read
          rw [List.append_nil]
          refine consistent.of_builds rfl rfl rfl (fun _ member => .inl member) ?_ fun _ => quiet
          rintro _ ⟨⟩
          rw [← Option.some.inj rects]
          exact mt logicalRectsOf_eq_nil.mp shown
  | looked live => exact consistent.observe phase
  | observed live liveChanged =>
      rw [List.append_nil]
      exact consistent.decide phase
  | clearing live =>
      rw [List.append_nil]
      exact consistent.of_builds rfl rfl rfl (fun _ member => .inl member)
        (fun _ read => nomatch read) (fun promoting => absurd trivial promoting)
  | bumping live =>
      rw [List.append_nil]
      exact consistent.bump live
  | rebasing live =>
      rw [List.append_nil]
      refine (consistent.resetBaseline live).of_builds rfl rfl rfl (fun _ member => .inl member)
        (fun _ read => nomatch read) fun _ => ?_
      rw [phase]
      exact id
  | placing live =>
      rw [List.append_nil]
      refine consistent.of_builds rfl rfl rfl (fun _ member => .inl member)
        (fun _ read => nomatch read) fun _ => ?_
      rw [phase]
      exact id

end Steps

/-- The DRM path is available at every decision of the poll. -/
def WatchInput.Available : WatchInput → Prop
  | .poll _ available => available = true
  | _ => True

instance : DecidablePred WatchInput.Available
  | .poll _ available => inferInstanceAs (Decidable (available = true))
  | .change _ => inferInstanceAs (Decidable True)
  | .clearWaylandDisplaysCache => inferInstanceAs (Decidable True)
  | .getDisplays _ => inferInstanceAs (Decidable True)
  | .setWaylandLayoutBaseline _ => inferInstanceAs (Decidable True)
  | .newCapturer _ => inferInstanceAs (Decidable True)
  | .build _ _ => inferInstanceAs (Decidable True)

/-- One input is consistent. -/
theorem step_consistent (watch : Watch) (past : List Report) (input : WatchInput)
    (available : input.Available) (consistent : watch.Consistent past) :
    (watching.step watch input).1.Consistent (past ++ (watching.step watch input).2) := by
  cases input with
  | change outputs =>
      rw [watching, List.append_nil]
      exact consistent.of_builds rfl rfl rfl (fun _ member => .inl member) consistent.readable id
  | clearWaylandDisplaysCache =>
      rw [watching, List.append_nil]
      exact consistent.of_builds rfl rfl rfl (fun _ member => .inl member) consistent.readable id
  | getDisplays answers =>
      rw [watching, List.append_nil]
      exact consistent.getDisplays answers
  | setWaylandLayoutBaseline displays =>
      rw [watching, List.append_nil]
      exact consistent.resetBaseline (logicalRectsOf displays)
  | newCapturer drm =>
      rw [watching, List.append_nil]
      refine consistent.of_builds rfl rfl rfl (fun build member => ?_) consistent.readable id
      rcases List.mem_append.mp member with old | fresh
      · exact .inl old
      · rw [List.mem_singleton.mp fresh]
        exact .inr ⟨le_rfl, fun _ stage => nomatch stage⟩
  | build index answers =>
      simp only [watching]
      split
      next build found =>
        rw [List.append_nil]
        exact consistent.buildStep index (List.mem_of_getElem? found) answers
      next => rwa [List.append_nil]
  | poll answers ready =>
      obtain rfl : ready = true := available
      exact consistent.pollStep answers

/-- Every run is consistent. -/
theorem run_consistent (outputs : List WaylandDisplayInfo) (inputs : List WatchInput)
    (available : ∀ input ∈ inputs, input.Available) :
    (watching.run (.start outputs) inputs).1.Consistent
      (watching.run (.start outputs) inputs).2 := by
  have holds := watching.run_invariant (fun _ input => input.Available)
    (fun watch past => watch.Consistent past)
    (fun watch past input ready consistent => step_consistent watch past input ready consistent)
    (.start outputs) [] inputs (start_consistent outputs)
    (watching.guarded_of_forall _ inputs available)
  rwa [List.nil_append] at holds

/-- No poll is between its observation and its end. -/
def PollPhase.Between : PollPhase → Prop
  | .idle => True
  | .looked _ => True
  | _ => False

instance : DecidablePred PollPhase.Between
  | .idle => inferInstanceAs (Decidable True)
  | .looked _ => inferInstanceAs (Decidable True)
  | .observed _ _ => inferInstanceAs (Decidable False)
  | .clearing _ => inferInstanceAs (Decidable False)
  | .bumping _ => inferInstanceAs (Decidable False)
  | .rebasing _ => inferInstanceAs (Decidable False)
  | .placing _ => inferInstanceAs (Decidable False)

theorem PollPhase.Between.settled {phase : PollPhase} (between : phase.Between) :
    ¬ phase.Promoting := by
  cases phase with
  | idle => exact id
  | looked live => exact id
  | _ => exact nomatch between

/-- After a poll, each current capturer shows the layout that the poll observed, or the next poll
reports an edge whatever it reads. -/
theorem Watch.Consistent.shown_or_edge {watch : Watch} {past : List Report}
    (consistent : watch.Consistent past) (between : watch.poll.Between) {report : Report}
    (last : past.getLast? = some report) {displays : List WaylandDisplayInfo}
    (current : watch.Current displays) :
    logicalRectsOf displays = report.live ∨
      ∀ live missing, watch.layout.edge live missing watch.generation = true := by
  obtain ⟨seen, -⟩ := consistent.observed report last
  rcases consistent.tracked between.settled displays current with same | flag
  · exact .inl (same.trans seen)
  · exact .inr fun live missing => if_pos flag

/-- A poll that reads other places or transforms than those of a current capturer reports an edge. -/
theorem Watch.Consistent.move_reported {watch : Watch} {past : List Report}
    (consistent : watch.Consistent past) {outputs : List WaylandDisplayInfo}
    (looked : watch.poll = .looked (logicalRectsOf outputs))
    {displays : List WaylandDisplayInfo} (current : watch.Current displays)
    (moved : displays.map placement ≠ outputs.map placement) (answers available : Bool) :
    (watch.pollStep answers available).2 = [⟨logicalRectsOf outputs, true⟩] := by
  have settled : ¬ watch.poll.Promoting := by
    rw [looked]
    exact id
  have edge : watch.layout.edge (logicalRectsOf outputs) watch.cache.isNone watch.generation =
      true := by
    by_contra quiet
    exact moved (placement_of_rects
      (consistent.current_of_quiet settled (Bool.eq_false_of_not_eq_true quiet) current))
  unfold Watch.pollStep
  rw [looked]
  simp only [edge]

/-- The outputs stay as they are, and every snapshot succeeds. -/
def WatchInput.Quiet (outputs : List WaylandDisplayInfo) : WatchInput → Prop
  | .change others => others = outputs
  | .getDisplays answers => answers = true
  | .setWaylandLayoutBaseline displays => displays = outputs
  | .build _ answers => answers = true
  | _ => True

instance (outputs : List WaylandDisplayInfo) : DecidablePred (WatchInput.Quiet outputs)
  | .change others => inferInstanceAs (Decidable (others = outputs))
  | .clearWaylandDisplaysCache => inferInstanceAs (Decidable True)
  | .getDisplays answers => inferInstanceAs (Decidable (answers = true))
  | .setWaylandLayoutBaseline displays => inferInstanceAs (Decidable (displays = outputs))
  | .newCapturer _ => inferInstanceAs (Decidable True)
  | .build _ answers => inferInstanceAs (Decidable (answers = true))
  | .poll _ _ => inferInstanceAs (Decidable True)

/-- A poll that compares a layout has a remembered layout, a baseline or a cached snapshot. -/
def Watch.Grounded (watch : Watch) : WatchInput → Prop
  | .poll _ _ => watch.poll.layoutRead ≠ none →
      watch.layout.seen ≠ [] ∨ watch.layout.baseline ≠ [] ∨ watch.cache ≠ none
  | _ => True

def PollPhase.live : PollPhase → Option (List DisplayRect)
  | .idle => none
  | .looked live => some live
  | .observed live _ => some live
  | .clearing live => some live
  | .bumping live => some live
  | .rebasing live => some live
  | .placing live => some live

def BuildStage.snapshot : BuildStage → Option (List WaylandDisplayInfo)
  | .read displays => some displays
  | .oriented displays => some displays
  | _ => none

/-- Every snapshot and every remembered layout is that of the outputs. -/
structure Watch.Still (outputs : List WaylandDisplayInfo) (watch : Watch) : Prop where
  unchanged : watch.outputs = outputs
  cached : ∀ displays, watch.cache = some displays → displays = outputs
  baseline : watch.layout.baseline = [] ∨ watch.layout.baseline = logicalRectsOf outputs
  seen : watch.layout.seen = [] ∨ watch.layout.seen = logicalRectsOf outputs
  unflagged : watch.layout.unseenBuild = none
  builds : ∀ build ∈ watch.builds, ∀ displays, build.stage.snapshot = some displays →
    displays = outputs
  live : ∀ live, watch.poll.live = some live → live = logicalRectsOf outputs ∧ outputs ≠ []

section Still

variable {outputs : List WaylandDisplayInfo} {watch : Watch}

/-- A new watch is still. -/
theorem start_still (outputs : List WaylandDisplayInfo) : (Watch.start outputs).Still outputs where
  unchanged := rfl
  cached _ cached := nomatch cached
  baseline := .inl rfl
  seen := .inl rfl
  unflagged := rfl
  builds _ member := nomatch member
  live _ some_ := nomatch some_

/-- A baseline of the same displays is still. -/
theorem Watch.Still.resetBaseline (still : watch.Still outputs) {baseline : List DisplayRect}
    (same : baseline = logicalRectsOf outputs) :
    { watch with layout := watch.layout.resetBaseline baseline }.Still outputs :=
  { still with
    baseline := .inr same
    seen := by
      show (if watch.layout.seen = [] then watch.layout.baseline else watch.layout.seen) = [] ∨
        (if watch.layout.seen = [] then watch.layout.baseline else watch.layout.seen) =
          logicalRectsOf outputs
      split
      next => exact still.baseline
      next => exact still.seen }

/-- A query of the same displays is still. -/
theorem Watch.Still.getDisplays (still : watch.Still outputs) :
    (watch.getDisplays true).1.Still outputs ∧ (watch.getDisplays true).2 = outputs := by
  unfold Watch.getDisplays
  cases cached : watch.cache with
  | some displays => exact ⟨still, still.cached displays cached⟩
  | none =>
      refine ⟨{ still with cached := ?_ }, still.unchanged⟩
      rintro displays ⟨⟩
      exact still.unchanged

theorem Watch.Still.setBuild (still : watch.Still outputs) {index : Nat} {build : Build}
    {stage : BuildStage} (same : ∀ displays, stage.snapshot = some displays → displays = outputs) :
    (watch.setBuild index build stage).Still outputs :=
  { still with
    builds := by
      intro other member displays snapshot
      rcases mem_setBuild member with old | rfl
      · exact still.builds other old displays snapshot
      · exact same displays snapshot }

theorem Watch.Still.note (still : watch.Still outputs) (shown : outputs ≠ []) (builtGen : Nat) :
    { watch with
      layout := watch.layout.noteCapturer (logicalRectsOf outputs) builtGen }.Still outputs := by
  have some_ : logicalRectsOf outputs ≠ [] := mt logicalRectsOf_eq_nil.mp shown
  unfold WaylandLayout.noteCapturer
  rw [if_neg some_]
  split
  next => exact { still with seen := .inr rfl }
  next remembered =>
    rw [if_neg (not_not.mpr (still.seen.resolve_left remembered))]
    exact still

/-- A build of the same displays is still. -/
theorem Watch.Still.buildStep (still : watch.Still outputs) (index : Nat) {build : Build}
    (member : build ∈ watch.builds) : (watch.buildStep index build true).Still outputs := by
  have snapshot := still.builds build member
  unfold Watch.buildStep
  cases stage : build.stage with
  | started =>
      obtain ⟨next, displays⟩ := still.getDisplays
      refine next.setBuild ?_
      rintro _ ⟨⟩
      exact displays
  | read displays =>
      rw [stage] at snapshot
      have flagged (pending : Bool) :
          { watch with unrotatedSnapshotPending := pending }.Still outputs := { still with }
      exact (flagged _).setBuild snapshot
  | oriented displays =>
      rw [stage] at snapshot
      obtain rfl := snapshot displays rfl
      cases displays with
      | nil => exact still.setBuild (fun _ some_ => nomatch some_)
      | cons first rest =>
          exact (still.note (List.cons_ne_nil first rest) build.snapshotGen).setBuild
            (fun _ some_ => nomatch some_)
  | recorded displays => exact still
  | unrecorded => exact still

/-- A decision on the same displays is still. -/
theorem Watch.Still.decide (still : watch.Still outputs) {live : List DisplayRect}
    (same : live = logicalRectsOf outputs ∧ outputs ≠ []) (liveChanged available : Bool) :
    (watch.decide live liveChanged available).Still outputs := by
  unfold Watch.decide
  dsimp only
  split
  next =>
    refine { still with live := ?_ }
    rintro _ ⟨⟩
    exact same
  next => exact { still with live := fun _ some_ => nomatch some_ }

/-- On a still watch, only a poll that knows no layout at all reports an edge. -/
theorem Watch.Still.edge_eq_false (still : watch.Still outputs) (shown : outputs ≠ []) :
    watch.layout.edge (logicalRectsOf outputs) watch.cache.isNone watch.generation = false ↔
      watch.layout.seen ≠ [] ∨ watch.layout.baseline ≠ [] ∨ watch.cache ≠ none := by
  have some_ : logicalRectsOf outputs ≠ [] := mt logicalRectsOf_eq_nil.mp shown
  unfold WaylandLayout.edge
  rw [still.unflagged, if_neg (fun flag => nomatch flag)]
  rcases still.seen with seen | seen
  · rcases still.baseline with baseline | baseline
    · simp [seen, baseline, Option.isSome_iff_ne_none]
    · simp [seen, baseline, some_]
  · simp [seen, some_]

/-- A poll of the same displays is still. -/
theorem Watch.Still.pollStep (still : watch.Still outputs) (answers available : Bool) :
    (watch.pollStep answers available).1.Still outputs := by
  unfold Watch.pollStep
  cases phase : watch.poll with
  | idle =>
      cases read : watch.getLayoutForUinputLive answers with
      | none => exact still
      | some live =>
          rw [Watch.getLayoutForUinputLive, Option.ite_none_right_eq_some] at read
          obtain ⟨⟨-, shown⟩, rects⟩ := read
          refine { still with live := ?_ }
          rintro _ ⟨⟩
          rw [still.unchanged] at shown rects
          exact ⟨(Option.some.inj rects).symm, shown⟩
  | looked live =>
      have same := still.live live (by rw [phase]; rfl)
      refine
        { still with
          seen := .inr same.1
          unflagged := rfl
          live := ?_ }
      rintro _ ⟨⟩
      exact same
  | observed live liveChanged =>
      exact still.decide (still.live live (by rw [phase]; rfl)) liveChanged available
  | clearing live =>
      have same := still.live live (by rw [phase]; rfl)
      refine
        { still with
          cached := fun _ cached => nomatch cached
          live := ?_ }
      rintro _ ⟨⟩
      exact same
  | bumping live =>
      have same := still.live live (by rw [phase]; rfl)
      refine { still with live := ?_ }
      rintro _ ⟨⟩
      exact same
  | rebasing live =>
      have same := still.live live (by rw [phase]; rfl)
      refine { still.resetBaseline same.1 with live := ?_ }
      rintro _ ⟨⟩
      exact same
  | placing live => exact { still with live := fun _ some_ => nomatch some_ }

/-- One quiet input is still. -/
theorem step_still (watch : Watch) (input : WatchInput) (quiet : input.Quiet outputs)
    (still : watch.Still outputs) : (watching.step watch input).1.Still outputs := by
  cases input with
  | change others => exact { still with unchanged := quiet }
  | clearWaylandDisplaysCache => exact { still with cached := fun _ cached => nomatch cached }
  | getDisplays answers =>
      obtain rfl : answers = true := quiet
      exact still.getDisplays.1
  | setWaylandLayoutBaseline displays => exact still.resetBaseline (congrArg logicalRectsOf quiet)
  | newCapturer drm =>
      refine { still with builds := fun build member displays snapshot => ?_ }
      rcases List.mem_append.mp member with old | fresh
      · exact still.builds build old displays snapshot
      · rw [List.mem_singleton.mp fresh] at snapshot
        exact nomatch snapshot
  | build index answers =>
      obtain rfl : answers = true := quiet
      simp only [watching]
      split
      next build found => exact still.buildStep index (List.mem_of_getElem? found)
      next => exact still
  | poll answers available => exact still.pollStep answers available

/-- A step of a still watch reports no edge exactly where it is grounded. -/
theorem step_quiet_iff (watch : Watch) (input : WatchInput) (still : watch.Still outputs) :
    (∀ report ∈ (watching.step watch input).2, report.liveChanged = false) ↔
      watch.Grounded input := by
  cases input with
  | poll answers available =>
      show (∀ report ∈ (watch.pollStep answers available).2, report.liveChanged = false) ↔
        (watch.poll.layoutRead ≠ none → _)
      unfold Watch.pollStep
      cases phase : watch.poll with
      | looked live =>
          obtain ⟨rfl, shown⟩ := still.live live (by rw [phase]; rfl)
          have grounded := still.edge_eq_false shown
          simpa [PollPhase.layoutRead] using grounded
      | idle =>
          cases watch.getLayoutForUinputLive answers with
          | none => simp [PollPhase.layoutRead]
          | some live => simp [PollPhase.layoutRead]
      | _ => simp [PollPhase.layoutRead]
  | build index answers =>
      simp only [watching, Watch.Grounded, iff_true]
      split
      next => exact fun _ member => nomatch member
      next => exact fun _ member => nomatch member
  | _ => simp [watching, Watch.Grounded]

/-- Polls of a still watch report no edge exactly where each of them is grounded. -/
theorem run_quiet_iff (outputs : List WaylandDisplayInfo) (inputs : List WatchInput)
    (quiet : ∀ input ∈ inputs, input.Quiet outputs) :
    (∀ report ∈ (watching.run (.start outputs) inputs).2, report.liveChanged = false) ↔
      watching.Guarded Watch.Grounded (.start outputs) inputs :=
  watching.run_outputs_iff_of_inputs (fun watch => watch.Still outputs) (WatchInput.Quiet outputs)
    Watch.Grounded (fun report => report.liveChanged = false)
    (fun watch input => step_still watch input) (fun watch input _ => step_quiet_iff watch input)
    (.start outputs) inputs (start_still outputs) quiet

end Still

/-- The DRM path being available, each current capturer with a record shows the layout that the last
poll observed, or the next poll reports an edge, and a poll that reads a moved or rotated output reports
an edge. On outputs that stay as they are, the polls report no edge exactly where each has something to
compare with. -/
theorem layout_changes_reported (outputs : List WaylandDisplayInfo) (inputs : List WatchInput)
    (available : ∀ input ∈ inputs, input.Available) :
    (∀ displays, (watching.run (.start outputs) inputs).1.Current displays →
      ((watching.run (.start outputs) inputs).1.poll.Between →
        ∀ report, (watching.run (.start outputs) inputs).2.getLast? = some report →
          logicalRectsOf displays = report.live ∨
            ∀ live missing, (watching.run (.start outputs) inputs).1.layout.edge live missing
              (watching.run (.start outputs) inputs).1.generation = true) ∧
      ∀ read, (watching.run (.start outputs) inputs).1.poll = .looked (logicalRectsOf read) →
        displays.map placement ≠ read.map placement → ∀ answers ready,
          (watching.step (watching.run (.start outputs) inputs).1 (.poll answers ready)).2 =
            [⟨logicalRectsOf read, true⟩]) ∧
    ((∀ input ∈ inputs, input.Quiet outputs) →
      ((∀ report ∈ (watching.run (.start outputs) inputs).2, report.liveChanged = false) ↔
        watching.Guarded Watch.Grounded (.start outputs) inputs)) := by
  have consistent := run_consistent outputs inputs available
  refine ⟨fun displays current => ⟨?_, ?_⟩, run_quiet_iff outputs inputs⟩
  · intro between report last
    exact consistent.shown_or_edge between last current
  · intro read looked moved answers ready
    exact consistent.move_reported looked current moved answers ready

section Examples

def panel : WaylandDisplayInfo where
  name := "DP-1".toList
  x := 0
  y := 0
  width := 1920
  height := 1080
  logicalSize := none
  transform := 0

/-- A capturer is built while the output turns, its record comes after the first poll, and the next
poll reports the edge. -/
def lateRecord : List WatchInput :=
  [.setWaylandLayoutBaseline [], .newCapturer [], .build 0 true, .build 0 true,
    .change [{ panel with transform := 90 }], .poll true true, .poll true true, .poll true true,
    .build 0 true, .poll true true]

theorem late_record_reported :
    (∀ input ∈ lateRecord, input.Available) ∧
      (watching.step (watching.run (.start [panel]) lateRecord).1 (.poll true true)).2 =
        [⟨logicalRectsOf [{ panel with transform := 90 }], true⟩] := by
  have available : ∀ input ∈ lateRecord, input.Available := by decide +kernel
  obtain ⟨reported, -⟩ := layout_changes_reported [panel] lateRecord available
  have current : (watching.run (.start [panel]) lateRecord).1.Current [panel] :=
    ⟨⟨[], 0, .recorded [panel]⟩, by decide +kernel, rfl, by decide +kernel⟩
  exact ⟨available, (reported [panel] current).2 [{ panel with transform := 90 }]
    (by decide +kernel) (by decide +kernel) true true⟩

/-- The first poll of a server without a session has no snapshot and reports an edge. -/
theorem first_poll_reports_edge :
    ¬ ∀ (outputs : List WaylandDisplayInfo) (inputs : List WatchInput),
      (∀ input ∈ inputs, input.Available) → (∀ input ∈ inputs, input.Quiet outputs) →
        ∀ report ∈ (watching.run (.start outputs) inputs).2, report.liveChanged = false := by
  intro all
  exact absurd (all [panel] [.poll true true, .poll true true] (by decide +kernel)
    (by decide +kernel) ⟨logicalRectsOf [panel], true⟩ (by decide +kernel)) (by decide)

end Examples

end SubnetDesk.DisplayService
