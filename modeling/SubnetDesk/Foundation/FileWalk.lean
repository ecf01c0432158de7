import SubnetDesk.Foundation.FilePath

namespace FileTree

theorem Tree.walk_nil (tree : Tree) (follow : Bool) (budget : Nat) (current : Location) :
    tree.walk follow budget current [] = .ok current := by
  cases budget <;> rfl

/-- A followed link spends one unit of the budget. -/
def Tree.jump (tree : Tree) (follow : Bool) (current : Location) (target : Path)
    (rest : List Segment) : Nat → Except Fault Location
  | 0 => .error .filesystemLoop
  | budget + 1 => tree.walk follow budget (startOf current target) (segments target ++ rest)

theorem Tree.walk_cons (tree : Tree) (follow : Bool) (budget : Nat) (current : Location)
    (segment : Segment) (rest : List Segment) :
    tree.walk follow budget current (segment :: rest) =
      if segment = dot then tree.walk follow budget current rest
      else if segment = dotdot then tree.walk follow budget current.dropLast rest
      else
        match tree.node (current ++ [segment]) with
        | some .dir => tree.walk follow budget (current ++ [segment]) rest
        | some (.symlink target) =>
            if rest = [] ∧ follow = false then .ok (current ++ [segment])
            else tree.jump follow current target rest budget
        | some (.file _) =>
            if rest = [] then .ok (current ++ [segment]) else .error .notADirectory
        | none =>
            if rest = [] ∧ tree.node current = some .dir then .ok (current ++ [segment])
            else .error .notFound := by
  cases budget <;> rfl

theorem Tree.walkWith_congr {first second : Tree} (nodes : first.node = second.node) (follow : Bool)
    (onLink : Location → List Segment → Except Fault Location) (current : Location)
    (route : List Segment) :
    first.walkWith follow onLink current route = second.walkWith follow onLink current route := by
  induction route generalizing current with
  | nil => rfl
  | cons segment rest ih => simp only [Tree.walkWith, nodes, ih]

/-- A walk reads nothing of the tree but its nodes. -/
theorem Tree.walk_congr {first second : Tree} (nodes : first.node = second.node) (follow : Bool)
    (budget : Nat) : first.walk follow budget = second.walk follow budget := by
  induction budget with
  | zero =>
      funext current route
      exact walkWith_congr nodes follow _ current route
  | succ budget ih =>
      funext current route
      rw [Tree.walk, Tree.walk, ih]
      exact walkWith_congr nodes follow _ current route

theorem Tree.resolve_congr {first second : Tree} (nodes : first.node = second.node)
    (directory : first.cwd = second.cwd) (follow : Bool) (path : Path) :
    first.resolve follow path = second.resolve follow path := by
  rw [Tree.resolve, Tree.resolve, walk_congr nodes, directory]

@[simp] theorem Tree.resolve_setData (tree : Tree) (inode : Nat) (bytes : Bytes) (follow : Bool)
    (path : Path) : (tree.setData inode bytes).resolve follow path = tree.resolve follow path := by
  refine resolve_congr ?_ ?_ follow path
  · rfl
  · rfl

@[simp] theorem Tree.resolve_record (tree : Tree) (touch : Touch) (follow : Bool) (path : Path) :
    (tree.record touch).resolve follow path = tree.resolve follow path := by
  refine resolve_congr ?_ ?_ follow path
  · rfl
  · rfl

/-- The walk passes every segment as a directory and leaves the given budget. -/
inductive Tree.Reaches (tree : Tree) :
    Nat → Location → List Segment → Nat → Location → Prop
  | here (budget : Nat) (current : Location) : Reaches tree budget current [] budget current
  | dot (budget left : Nat) (current final : Location) (rest : List Segment)
      (tail : Reaches tree budget current rest left final) :
      Reaches tree budget current (dot :: rest) left final
  | up (budget left : Nat) (current final : Location) (rest : List Segment)
      (tail : Reaches tree budget current.dropLast rest left final) :
      Reaches tree budget current (dotdot :: rest) left final
  | down (budget left : Nat) (current final : Location) (segment : Segment) (rest : List Segment)
      (named : segment ≠ FileTree.dot) (below : segment ≠ dotdot)
      (directory : tree.node (current ++ [segment]) = some .dir)
      (tail : Reaches tree budget (current ++ [segment]) rest left final) :
      Reaches tree budget current (segment :: rest) left final
  | link (budget left : Nat) (current final : Location) (segment : Segment) (rest : List Segment)
      (target : Path) (named : segment ≠ FileTree.dot) (below : segment ≠ dotdot)
      (linked : tree.node (current ++ [segment]) = some (.symlink target))
      (tail : Reaches tree budget (startOf current target) (segments target ++ rest) left final) :
      Reaches tree (budget + 1) current (segment :: rest) left final

theorem dotdot_ne_dot : dotdot ≠ dot := by decide

/-- The walk goes on from the place that it reaches. -/
theorem Tree.Reaches.walk {tree : Tree} {budget left : Nat} {current final : Location}
    {route : List Segment} (reaches : tree.Reaches budget current route left final)
    (follow : Bool) (rest : List Segment) (more : rest ≠ [] ∨ follow = true) :
    tree.walk follow budget current (route ++ rest) = tree.walk follow left final rest := by
  induction reaches with
  | here => rfl
  | dot budget left current final route tail ih =>
      rw [List.cons_append, Tree.walk_cons, if_pos rfl, ih]
  | up budget left current final route tail ih =>
      rw [List.cons_append, Tree.walk_cons, if_neg dotdot_ne_dot, if_pos rfl, ih]
  | down budget left current final segment route named below directory tail ih =>
      rw [List.cons_append, Tree.walk_cons, if_neg named, if_neg below, directory, ih]
  | link budget left current final segment route target named below linked tail ih =>
      have followed : ¬ (route ++ rest = [] ∧ follow = false) := by
        rintro ⟨nothing, kept⟩
        rcases more with nonempty | follows
        · exact nonempty (List.append_eq_nil_iff.mp nothing).2
        · rw [follows] at kept
          cases kept
      rw [List.cons_append, Tree.walk_cons, if_neg named, if_neg below, linked]
      simp only [if_neg followed, Tree.jump]
      rw [← List.append_assoc]
      exact ih

theorem Tree.Reaches.append {tree : Tree} {budget middle left : Nat}
    {current between final : Location} {first second : List Segment}
    (before : tree.Reaches budget current first middle between)
    (after : tree.Reaches middle between second left final) :
    tree.Reaches budget current (first ++ second) left final := by
  induction before with
  | here => exact after
  | dot _ _ _ _ _ _ ih => exact .dot _ _ _ _ _ (ih after)
  | up _ _ _ _ _ _ ih => exact .up _ _ _ _ _ (ih after)
  | down _ _ _ _ _ _ named below directory _ ih => exact .down _ _ _ _ _ _ named below directory (ih after)
  | link _ _ _ _ _ _ target named below linked _ ih =>
      have tail := ih after
      rw [List.append_assoc] at tail
      exact .link _ _ _ _ _ _ target named below linked tail

/-- A walk that succeeds has reached every directory on its way when its jumps have. -/
theorem Tree.reaches_of_jumps (tree : Tree) (follow : Bool) (budget : Nat) (final : Location)
    (rest : List Segment) (more : rest ≠ [])
    (jumps : ∀ current target route, tree.jump follow current target (route ++ rest) budget = .ok final →
      ∃ smaller left middle, budget = smaller + 1 ∧
        tree.Reaches smaller (startOf current target) (segments target ++ route) left middle ∧
        tree.walk follow left middle rest = .ok final)
    (current : Location) (route : List Segment)
    (walked : tree.walk follow budget current (route ++ rest) = .ok final) :
    ∃ left middle, tree.Reaches budget current route left middle ∧
      tree.walk follow left middle rest = .ok final := by
  induction route generalizing current with
  | nil => exact ⟨budget, current, .here budget current, walked⟩
  | cons segment route ih =>
      rw [List.cons_append, Tree.walk_cons] at walked
      split at walked
      next same =>
        obtain ⟨left, middle, reaches, tail⟩ := ih current walked
        exact ⟨left, middle, same ▸ .dot _ _ _ _ _ reaches, tail⟩
      next named =>
        split at walked
        next same =>
          obtain ⟨left, middle, reaches, tail⟩ := ih current.dropLast walked
          exact ⟨left, middle, same ▸ .up _ _ _ _ _ reaches, tail⟩
        next below =>
          have unfinished : route ++ rest ≠ [] := by simp [more]
          split at walked
          next directory =>
            obtain ⟨left, middle, reaches, tail⟩ := ih (current ++ [segment]) walked
            exact ⟨left, middle, .down _ _ _ _ _ _ named below directory reaches, tail⟩
          next target linked =>
            rw [if_neg fun stopped => unfinished stopped.1] at walked
            obtain ⟨smaller, left, middle, rfl, reaches, tail⟩ := jumps current target route walked
            exact ⟨left, middle, .link _ _ _ _ _ _ target named below linked reaches, tail⟩
          next => simp [unfinished] at walked
          next => simp [unfinished] at walked

theorem Tree.exists_reaches (tree : Tree) (follow : Bool) (budget : Nat) (current final : Location)
    (route rest : List Segment) (more : rest ≠ [])
    (walked : tree.walk follow budget current (route ++ rest) = .ok final) :
    ∃ left middle, tree.Reaches budget current route left middle ∧
      tree.walk follow left middle rest = .ok final := by
  induction budget generalizing current route with
  | zero =>
      refine tree.reaches_of_jumps follow 0 final rest more ?_ current route walked
      intro current target route jumped
      cases jumped
  | succ budget ih =>
      refine tree.reaches_of_jumps follow (budget + 1) final rest more ?_ current route walked
      intro current target route jumped
      rw [Tree.jump, ← List.append_assoc] at jumped
      obtain ⟨left, middle, reaches, tail⟩ := ih _ _ jumped
      exact ⟨budget, left, middle, rfl, reaches, tail⟩

/-- Two trees have the same symbolic links. -/
def SameLinks (first second : Tree) : Prop :=
  ∀ place target, first.node place = some (.symlink target) ↔
    second.node place = some (.symlink target)

theorem SameLinks.refl (tree : Tree) : SameLinks tree tree := fun _ _ => Iff.rfl

theorem SameLinks.trans {first second third : Tree} (before : SameLinks first second)
    (after : SameLinks second third) : SameLinks first third :=
  fun place target => (before place target).trans (after place target)

/-- A tree that keeps its directories and links keeps its routes. -/
theorem Tree.Reaches.mono {first second : Tree} {budget left : Nat} {current final : Location}
    {route : List Segment} (reaches : first.Reaches budget current route left final)
    (dirs : ∀ place, first.node place = some .dir → second.node place = some .dir)
    (links : SameLinks first second) : second.Reaches budget current route left final := by
  induction reaches with
  | here => exact .here _ _
  | dot _ _ _ _ _ _ ih => exact .dot _ _ _ _ _ ih
  | up _ _ _ _ _ _ ih => exact .up _ _ _ _ _ ih
  | down _ _ _ _ _ _ named below directory _ ih =>
      exact .down _ _ _ _ _ _ named below (dirs _ directory) ih
  | link _ _ _ _ _ _ target named below linked _ ih =>
      exact .link _ _ _ _ _ _ target named below ((links _ _).mp linked) ih

/-- A route leads to one place in all trees with the same links. -/
theorem Tree.Reaches.unique {first second : Tree} (same : SameLinks first second)
    {budget left other : Nat} {current final end_ : Location} {route : List Segment}
    (reaches : first.Reaches budget current route left final)
    (again : second.Reaches budget current route other end_) : final = end_ ∧ left = other := by
  induction reaches with
  | here =>
      cases again
      exact ⟨rfl, rfl⟩
  | dot budget left current final route tail ih =>
      cases again with
      | dot _ _ _ _ _ tail => exact ih tail
      | down _ _ _ _ _ _ named => exact absurd rfl named
      | link _ _ _ _ _ _ _ named => exact absurd rfl named
  | up budget left current final route tail ih =>
      cases again with
      | up _ _ _ _ _ tail => exact ih tail
      | down _ _ _ _ _ _ _ below => exact absurd rfl below
      | link _ _ _ _ _ _ _ _ below => exact absurd rfl below
  | down budget left current final segment route named below directory tail ih =>
      cases again with
      | dot => exact absurd rfl named
      | up => exact absurd rfl below
      | down _ _ _ _ _ _ _ _ _ tail => exact ih tail
      | link _ _ _ _ _ _ target _ _ linked _ =>
          cases directory.symm.trans ((same _ _).mpr linked)
  | link budget left current final segment route target named below linked tail ih =>
      cases again with
      | dot => exact absurd rfl named
      | up => exact absurd rfl below
      | down _ _ _ _ _ _ _ _ directory _ => cases directory.symm.trans ((same _ _).mp linked)
      | link _ _ _ _ _ _ other _ _ found tail =>
          obtain rfl : target = other := by simpa using linked.symm.trans ((same _ _).mpr found)
          exact ih tail

/-- No segment of the route is a link, as far as the route leads through directories. -/
def Tree.Unlinked (tree : Tree) (current : Location) : List Segment → Prop
  | [] => True
  | segment :: rest =>
      (∀ target, tree.node (current ++ [segment]) ≠ some (.symlink target)) ∧
        (tree.node (current ++ [segment]) = some .dir → tree.Unlinked (current ++ [segment]) rest)

/-- A route without links leads straight down. -/
theorem Tree.Reaches.straight {tree : Tree} {budget left : Nat} {current final : Location}
    {route rest : List Segment} (reaches : tree.Reaches budget current route left final)
    (below : dotdot ∉ route) (unlinked : tree.Unlinked current (clean route ++ rest)) :
    final = current ++ clean route ∧ left = budget ∧ tree.Unlinked final rest := by
  induction reaches with
  | here => exact ⟨(List.append_nil _).symm, rfl, unlinked⟩
  | dot budget left current final route tail ih =>
      exact ih (fun member => below (List.mem_cons_of_mem _ member)) (by simpa [clean] using unlinked)
  | up budget left current final route tail ih => exact absurd (List.mem_cons_self ..) below
  | down budget left current final segment route named _ directory tail ih =>
      have step : clean (segment :: route) = segment :: clean route := by simp [clean, named]
      rw [step] at unlinked ⊢
      obtain ⟨place, same, tail⟩ := ih (fun member => below (List.mem_cons_of_mem _ member))
        (unlinked.2 directory)
      exact ⟨by rw [place, List.append_assoc, List.singleton_append], same, tail⟩
  | link budget left current final segment route target named _ linked tail ih =>
      have step : clean (segment :: route) = segment :: clean route := by simp [clean, named]
      rw [step] at unlinked
      exact absurd linked (unlinked.1 target)

/-- The last segment of a walk is its last place, unless it is a followed link. -/
theorem Tree.walk_last {tree : Tree} {follow : Bool} {budget : Nat} {current final : Location}
    {segment : Segment} (named : segment ≠ dot) (below : segment ≠ dotdot)
    (unlinked : follow = true → ∀ target, tree.node (current ++ [segment]) ≠ some (.symlink target))
    (walked : tree.walk follow budget current [segment] = .ok final) :
    final = current ++ [segment] := by
  rw [Tree.walk_cons, if_neg named, if_neg below] at walked
  split at walked
  next =>
    rw [Tree.walk_nil] at walked
    exact (Except.ok.inj walked).symm
  next target linked =>
    split at walked
    next => exact (Except.ok.inj walked).symm
    next followed =>
      refine absurd linked (unlinked ?_ target)
      simpa using followed
  next =>
    rw [if_pos rfl] at walked
    exact (Except.ok.inj walked).symm
  next =>
    split at walked
    next => exact (Except.ok.inj walked).symm
    next => cases walked

theorem Tree.walk_straight {tree : Tree} {follow : Bool} {budget : Nat} {current final : Location}
    {route : List Segment} (below : dotdot ∉ route)
    (unlinked : tree.Unlinked current (clean route))
    (walked : tree.walk follow budget current route = .ok final) :
    final = current ++ clean route := by
  rcases List.eq_nil_or_concat route with rfl | ⟨front, last, rfl⟩
  · rw [Tree.walk_nil] at walked
    rw [← Except.ok.inj walked]
    exact (List.append_nil _).symm
  · rw [List.concat_eq_append] at *
    rw [clean_append] at unlinked ⊢
    obtain ⟨left, middle, reaches, tail⟩ :=
      tree.exists_reaches follow budget current final front [last] (by simp) walked
    obtain ⟨place, _, rest⟩ := reaches.straight (fun member => below (by simp [member])) unlinked
    by_cases dotted : last = dot
    · rw [dotted, Tree.walk_cons, if_pos rfl, Tree.walk_nil] at tail
      rw [← Except.ok.inj tail, place, dotted]
      simp [clean]
    · have single : clean [last] = [last] := by simp [clean, dotted]
      rw [single] at rest ⊢
      rw [Tree.walk_last dotted (fun same => below (by simp [same])) (fun _ => rest.1) tail, place,
        List.append_assoc]

/-- Everything above an entry is a directory. -/
theorem Tree.above (tree : Tree) {place rest : Location} {entry : Node}
    (present : tree.node (place ++ rest) = some entry) (below : rest ≠ []) :
    tree.node place = some .dir := by
  induction rest using List.reverseRecOn generalizing entry with
  | nil => exact absurd rfl below
  | append_singleton front last ih =>
      have parent := tree.rooted _ entry present (by simp)
      rw [← List.append_assoc, List.dropLast_concat] at parent
      rcases front with _ | ⟨first, tail⟩
      · rwa [List.append_nil] at parent
      · exact ih parent (by simp)

theorem Tree.unlinked_of_not_dir (tree : Tree) {place : Location} (route : List Segment)
    (other : tree.node place ≠ some .dir) : tree.Unlinked place route := by
  cases route with
  | nil => trivial
  | cons segment rest =>
      have absent : tree.node (place ++ [segment]) = none := by
        cases present : tree.node (place ++ [segment]) with
        | none => rfl
        | some entry => exact absurd (tree.above present (by simp)) other
      simp [Unlinked, absent]

/-- A tree without new links keeps its unlinked routes. -/
theorem Tree.Unlinked.mono {first second : Tree} {current : Location} {route : List Segment}
    (unlinked : first.Unlinked current route)
    (fewer : ∀ place target, second.node place = some (.symlink target) →
      first.node place = some (.symlink target)) : second.Unlinked current route := by
  induction route generalizing current with
  | nil => trivial
  | cons segment rest ih =>
      refine ⟨fun target linked => unlinked.1 target (fewer _ _ linked), fun _ => ?_⟩
      by_cases directory : first.node (current ++ [segment]) = some .dir
      · exact ih (unlinked.2 directory)
      · exact ih (first.unlinked_of_not_dir rest directory)

theorem Tree.unlinked_below {tree : Tree} {base : Location}
    (free : ∀ place target, tree.node place = some (.symlink target) → ¬ base <+: place)
    (middle : Location) (route : List Segment) : tree.Unlinked (base ++ middle) route := by
  induction route generalizing middle with
  | nil => trivial
  | cons segment rest ih =>
      rw [Unlinked, List.append_assoc]
      exact ⟨fun target linked => free _ target linked (List.prefix_append _ _), fun _ => ih _⟩

/-- The end of an unlinked route is no link. -/
theorem Tree.Unlinked.last {tree : Tree} {current : Location} {route : List Segment}
    (unlinked : tree.Unlinked current route) (nonempty : route ≠ []) (target : Path) :
    tree.node (current ++ route) ≠ some (.symlink target) := by
  induction route generalizing current with
  | nil => exact absurd rfl nonempty
  | cons segment rest ih =>
      intro linked
      rw [← List.singleton_append, ← List.append_assoc] at linked
      by_cases ended : rest = []
      · rw [ended, List.append_nil] at linked
        exact unlinked.1 target linked
      · exact ih (unlinked.2 (tree.above linked ended)) ended linked

/-- A route to a present entry reaches every directory above it. -/
theorem Tree.reaches_above (tree : Tree) (budget : Nat) (current : Location)
    (route : List Segment) (below : dotdot ∉ route)
    (directory : tree.node (current ++ clean route) = some .dir) :
    tree.Reaches budget current route budget (current ++ clean route) := by
  induction route generalizing current with
  | nil =>
      rw [show clean [] = [] from rfl, List.append_nil]
      exact .here budget current
  | cons segment rest ih =>
      have later : dotdot ∉ rest := fun member => below (List.mem_cons_of_mem _ member)
      by_cases dotted : segment = dot
      · have step : clean (segment :: rest) = clean rest := by simp [clean, dotted]
        rw [step] at directory ⊢
        rw [dotted]
        exact .dot _ _ _ _ _ (ih current later directory)
      · have step : clean (segment :: rest) = segment :: clean rest := by simp [clean, dotted]
        have split_ : current ++ segment :: clean rest = current ++ [segment] ++ clean rest := by simp
        rw [step, split_] at directory ⊢
        refine .down _ _ _ _ _ _ dotted (fun same => below (by simp [same])) ?_
          (ih _ later directory)
        by_cases last : clean rest = []
        · rwa [last, List.append_nil] at directory
        · exact tree.above directory last

end FileTree
