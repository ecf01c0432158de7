import SubnetDesk.Foundation.FileTree

namespace FileTree

/-- These are the segments of a path without the mark of a trailing slash. -/
def parts (path : Path) : List Segment := (path.splitOn '/').filter (· ≠ [])

/-- A dot segment stays in its directory. -/
def clean (route : List Segment) : List Segment := route.filter (· ≠ dot)

/-- The stem of a path ends with its last slash. -/
def stem (path : Path) : Path := (path.reverse.dropWhile (· ≠ '/')).reverse

def leaf (path : Path) : Segment := (path.reverse.takeWhile (· ≠ '/')).reverse

theorem stem_append_leaf (path : Path) : stem path ++ leaf path = path := by
  rw [stem, leaf, ← List.reverse_append, List.takeWhile_append_dropWhile, List.reverse_reverse]

theorem leaf_no_slash (path : Path) : '/' ∉ leaf path := by
  intro inside
  have kept := List.all_eq_true.mp List.all_takeWhile _ (List.mem_reverse.mp inside)
  simp at kept

/-- A stem is empty or ends with a slash. -/
theorem stem_cases (path : Path) : stem path = [] ∨ ∃ front, stem path = front ++ ['/'] := by
  unfold stem
  rcases cut : path.reverse.dropWhile (· ≠ '/') with _ | ⟨first, rest⟩
  · exact .inl rfl
  · have slash : first = '/' := by
      have stopped := List.head?_dropWhile_not (· ≠ '/') path.reverse
      rw [cut] at stopped
      simpa using stopped
    exact .inr ⟨rest.reverse, by rw [slash, List.reverse_cons]⟩

theorem parts_slash (front back : Path) : parts (front ++ '/' :: back) = parts front ++ parts back := by
  simp only [parts, List.splitOn]
  rw [List.splitOnP_append_cons _ _ (by simp), List.filter_append]

theorem parts_nil : parts [] = [] := by
  decide

theorem parts_leaf {segment : Segment} (plain : '/' ∉ segment) (nonempty : segment ≠ []) :
    parts segment = [segment] := by
  have single : segment.splitOn '/' = [segment] := by
    apply List.splitOnP_eq_singleton
    intro letter member
    simpa using fun same : letter = '/' => plain (same ▸ member)
  simp [parts, single, nonempty]

theorem segments_eq (path : Path) :
    segments path = parts path ++ if path.getLast? = some '/' then [dot] else [] := rfl

theorem clean_append (first second : List Segment) :
    clean (first ++ second) = clean first ++ clean second := List.filter_append ..

theorem clean_segments (path : Path) : clean (segments path) = clean (parts path) := by
  rw [segments_eq, clean_append]
  split <;> simp [clean]

/-- A slash separates the segments of two paths. -/
theorem segments_slash (front back : Path) (nonempty : back ≠ []) :
    segments (front ++ '/' :: back) = parts front ++ segments back := by
  have last : (front ++ '/' :: back).getLast? = back.getLast? := by
    rw [List.getLast?_append, List.getLast?_cons_of_ne_nil nonempty, Option.or_of_isSome]
    simpa using nonempty
  rw [segments_eq, segments_eq, parts_slash, last, List.append_assoc]

theorem segments_leaf {segment : Segment} (plain : '/' ∉ segment) (nonempty : segment ≠ []) :
    segments segment = [segment] := by
  have open_ : segment.getLast? ≠ some '/' := fun slash => plain (List.mem_of_getLast? slash)
  rw [segments_eq, parts_leaf plain nonempty, if_neg open_, List.append_nil]

/-- A suffix changes only the last segment of a path. -/
theorem segments_suffix (path suffix : Path) (plain : '/' ∉ suffix)
    (filled : leaf path ++ suffix ≠ []) :
    segments (path ++ suffix) = parts (stem path) ++ [leaf path ++ suffix] := by
  have whole : path ++ suffix = stem path ++ (leaf path ++ suffix) := by
    rw [← List.append_assoc, stem_append_leaf]
  have last : '/' ∉ leaf path ++ suffix := by simp [leaf_no_slash, plain]
  rw [whole]
  rcases stem_cases path with empty | ⟨front, slash⟩
  · rw [empty, List.nil_append, segments_leaf last filled, parts_nil, List.nil_append]
  · rw [slash, List.append_assoc, List.singleton_append, segments_slash front _ filled,
      segments_leaf last filled, parts_slash, parts_nil, List.append_nil]

theorem parts_split (path : Path) :
    parts path = parts (stem path) ++ if leaf path = [] then [] else [leaf path] := by
  conv_lhs => rw [← stem_append_leaf path]
  have last : parts (leaf path) = if leaf path = [] then [] else [leaf path] := by
    split
    next empty => rw [empty, parts_nil]
    next filled => exact parts_leaf (leaf_no_slash path) filled
  rcases stem_cases path with empty | ⟨front, slash⟩
  · rw [empty, List.nil_append, parts_nil, List.nil_append, last]
  · rw [slash, List.append_assoc, List.singleton_append, parts_slash, parts_slash, parts_nil,
      List.append_nil, last]

theorem segments_ne_nil {path : Path} (nonempty : path ≠ []) : segments path ≠ [] := by
  intro nothing
  rw [segments_eq, parts_split, List.append_assoc] at nothing
  obtain ⟨_, tail⟩ := List.append_eq_nil_iff.mp nothing
  obtain ⟨last, open_⟩ := List.append_eq_nil_iff.mp tail
  have empty : leaf path = [] := by
    by_contra filled
    simp [filled] at last
  have whole := stem_append_leaf path
  rw [empty, List.append_nil] at whole
  rcases stem_cases path with none_ | ⟨front, slash⟩
  · exact nonempty (whole.symm.trans none_)
  · rw [← whole, slash] at open_
    simp at open_

theorem splitOn_free {α : Type} [DecidableEq α] (separator : α) (letters : List α) :
    ∀ segment ∈ letters.splitOn separator, separator ∉ segment := by
  induction letters with
  | nil => simp
  | cons letter rest ih =>
      rw [List.splitOn_cons_eq_if_modifyHead]
      split
      next => simpa using ih
      next other =>
        obtain ⟨first, tail, shape⟩ :=
          List.exists_cons_of_ne_nil (List.splitOn_ne_nil separator rest)
        rw [shape] at ih ⊢
        intro segment member
        rcases List.mem_cons.mp member with rfl | later
        · rw [List.mem_cons, not_or]
          exact ⟨fun same => other (beq_iff_eq.mpr same.symm), ih first (by simp)⟩
        · exact ih segment (by simp [later])

theorem splitOn_no_slash (path : Path) : ∀ segment ∈ path.splitOn '/', '/' ∉ segment :=
  splitOn_free '/' path

/-- The segments of a path are not empty and hold no slash. -/
theorem parts_plain {path : Path} {segment : Segment} (member : segment ∈ parts path) :
    segment ≠ [] ∧ '/' ∉ segment := by
  obtain ⟨split_, nonempty⟩ := List.mem_filter.mp member
  exact ⟨by simpa using nonempty, splitOn_no_slash path segment split_⟩

end FileTree
