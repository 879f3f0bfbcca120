import RuleAudit.Path.Basic
import Mathlib.Data.List.Basic

/-!
# Plain paths

The plain spelling of a path has the pieces that count, in their order, with single separators between
them. So plain paths with the same components are spelled alike.
-/

namespace RuleAudit.Path

/-! ## Pieces -/

/-- The pieces of a text are its parts between separators. -/
theorem pieces_eq_splitOn (text : List Char) : pieces text = text.splitOn '/' := by
  induction text with
  | nil => rfl
  | cons c later ih =>
    rw [pieces, ih, List.splitOn_cons_eq_if_modifyHead]
    by_cases hc : c = '/'
    · simp [hc]
    · simp only [if_neg hc, beq_iff_eq]
      cases hsplit : later.splitOn '/' with
      | nil => exact absurd hsplit (List.splitOn_ne_nil _ _)
      | cons piece others => rfl

/-- There is always a piece, perhaps an empty one. -/
theorem pieces_ne_nil (text : List Char) : pieces text ≠ [] := by
  rw [pieces_eq_splitOn]
  exact List.splitOn_ne_nil _ _

/-- No separator stands in a piece. -/
theorem separator_notMem_of_mem_pieces {text piece : List Char} (hpiece : piece ∈ pieces text) :
    '/' ∉ piece := by
  induction text generalizing piece with
  | nil => simp_all [pieces]
  | cons c later ih =>
    by_cases hc : c = '/'
    · rw [pieces, if_pos hc, List.mem_cons] at hpiece
      obtain rfl | hpiece := hpiece
      · exact List.not_mem_nil
      · exact ih hpiece
    · rw [pieces, if_neg hc] at hpiece
      split at hpiece
      · simpa [List.mem_singleton.mp hpiece] using Ne.symm hc
      · next first others hpieces =>
        obtain rfl | hpiece := List.mem_cons.mp hpiece
        · have hfirst : '/' ∉ first := ih (by simp [hpieces])
          simp [hfirst, Ne.symm hc]
        · exact ih (by simp [hpieces, hpiece])

/-- Pieces are found again between the separators that are put between them. -/
theorem pieces_intercalate {parts : List (List Char)} (hne : parts ≠ [])
    (hparts : ∀ part ∈ parts, '/' ∉ part) : pieces (['/'].intercalate parts) = parts := by
  rw [pieces_eq_splitOn, List.splitOn_intercalate _ hparts hne]

/-! ## Steps -/

/-- Whether a path starts from the root. -/
def isAbsolute (path : Path) : Bool :=
  path.spelling.toList.head? == some '/'

/-- The pieces of a path behind the separator at its front, if there is one. -/
def steps (path : Path) : List (List Char) :=
  pieces (if path.isAbsolute then path.spelling.toList.tail else path.spelling.toList)

/-- Whether a piece counts on the way: it is neither empty nor a `.`. -/
def counts (piece : List Char) : Bool :=
  !piece.isEmpty && piece != ['.']

/-- The pieces of a path that count. -/
def countingSteps (path : Path) : List (List Char) :=
  path.steps.filter counts

/-- The component of a piece that counts. -/
def componentOfStep (piece : List Char) : Component :=
  if piece = ['.', '.'] then .parent else .entry (String.ofList piece)

/-- The text of a component is its piece. -/
@[simp] theorem text_componentOfStep (piece : List Char) :
    (componentOfStep piece).text = String.ofList piece := by
  unfold componentOfStep
  split
  · next hpiece => simp [hpiece, Component.text]
  · rfl

/-- A piece that counts stands for its component, also at the front. -/
theorem componentOf_of_counts {piece : List Char} (hpiece : counts piece) (front : Bool) :
    componentOf front piece = some (componentOfStep piece) := by
  simp only [counts, Bool.and_eq_true, Bool.not_eq_true', bne_iff_ne, ne_eq] at hpiece
  simp only [componentOf, componentOfStep, hpiece, Bool.false_eq_true, if_false]
  split <;> rfl

/-- Behind the front only the pieces that count stand for components. -/
theorem filterMap_componentOf (parts : List (List Char)) :
    parts.filterMap (componentOf false) = (parts.filter counts).map componentOfStep := by
  induction parts with
  | nil => rfl
  | cons piece later ih =>
    by_cases hpiece : counts piece
    · simp [componentOf_of_counts hpiece, hpiece, ih]
    · have hnone : componentOf false piece = none := by
        simp only [counts, Bool.and_eq_true, Bool.not_eq_true', bne_iff_ne, ne_eq] at hpiece
        by_cases hempty : piece.isEmpty
        · simp [componentOf, hempty]
        · simp_all [componentOf]
      rw [List.filterMap_cons_none hnone, List.filter_cons_of_neg hpiece, ih]

/-! ## Components -/

/-- An absolute path has the components of its pieces behind the root. -/
theorem components_of_isAbsolute {path : Path} (habsolute : path.isAbsolute) :
    path.components = .root :: path.countingSteps.map componentOfStep := by
  rw [countingSteps, ← filterMap_componentOf, steps, if_pos habsolute, components]
  rw [isAbsolute, beq_iff_eq] at habsolute
  obtain ⟨rest, hspelling⟩ := List.head?_eq_some_iff.mp habsolute
  simp [hspelling]

/-- A relative path has the components of its pieces, the first of which may be a `.`. -/
theorem components_of_not_isAbsolute {path : Path} (hrelative : ¬ path.isAbsolute)
    {first : List Char} {later : List (List Char)} (hsteps : path.steps = first :: later) :
    path.components =
      (componentOf true first).toList ++ (later.filter counts).map componentOfStep := by
  rw [steps, if_neg hrelative] at hsteps
  rw [isAbsolute, beq_iff_eq] at hrelative
  rw [← filterMap_componentOf, components]
  split
  · next hspelling =>
    rw [hspelling, pieces, List.cons.injEq] at hsteps
    simp [← hsteps.1, ← hsteps.2, componentOf]
  · next rest hspelling => simp [hspelling] at hrelative
  · simp [hsteps]

/-- The component of a piece is neither the root nor a `.`. -/
theorem componentOfStep_ne (piece : List Char) :
    componentOfStep piece ≠ .root ∧ componentOfStep piece ≠ .current := by
  unfold componentOfStep
  split <;> simp

/-- The components of a path but for a `.` at its front. -/
theorem filter_components (path : Path) :
    path.components.filter (· != .current) =
      (if path.isAbsolute then [.root] else []) ++ path.countingSteps.map componentOfStep := by
  have hkept (parts : List (List Char)) :
      (parts.map componentOfStep).filter (· != .current) = parts.map componentOfStep := by
    rw [List.filter_eq_self]
    intro component hcomponent
    obtain ⟨piece, _, rfl⟩ := List.mem_map.mp hcomponent
    simpa using (componentOfStep_ne piece).2
  by_cases habsolute : path.isAbsolute
  · simp [components_of_isAbsolute habsolute, habsolute, hkept]
  · obtain ⟨first, later, hsteps⟩ : ∃ first later, path.steps = first :: later :=
      List.exists_cons_of_ne_nil (pieces_ne_nil _)
    rw [components_of_not_isAbsolute habsolute hsteps, List.filter_append, hkept, if_neg habsolute,
      countingSteps, hsteps, List.nil_append]
    by_cases hfirst : counts first
    · rw [componentOf_of_counts hfirst, List.filter_cons_of_pos hfirst, Option.toList_some,
        ← List.map_singleton, hkept [first], ← List.map_append, List.singleton_append]
    · -- A first piece that does not count is empty or gives the `.` that is left out.
      have hnone : (componentOf true first).toList.filter (· != .current) = [] := by
        simp only [counts, Bool.and_eq_true, Bool.not_eq_true', bne_iff_ne, ne_eq] at hfirst
        by_cases hempty : first.isEmpty <;> simp_all [componentOf]
      rw [hnone, List.nil_append, List.filter_cons_of_neg hfirst]

/-- The characters of a plain spelling. -/
theorem toList_plain (path : Path) :
    path.plain.spelling.toList =
      (if path.isAbsolute then ['/'] else []) ++ ['/'].intercalate path.countingSteps := by
  have htexts : ((path.countingSteps.map componentOfStep).map Component.text).map String.toList =
      path.countingSteps := by
    rw [List.map_map, List.map_map, List.map_congr_left fun piece _ => ?_, List.map_id]
    simp
  rw [plain, filter_components]
  by_cases habsolute : path.isAbsolute
  · simp only [habsolute, if_true, List.singleton_append, ofComponents, String.toList_append,
      String.toList_intercalate, htexts]
    rfl
  · simp only [habsolute, Bool.false_eq_true, if_false, List.nil_append]
    unfold ofComponents
    split
    · next rest hroot =>
      obtain ⟨piece, _, _, hpiece, _⟩ := List.map_eq_cons_iff.mp hroot
      exact absurd hpiece (componentOfStep_ne piece).1
    · simp only [String.toList_intercalate, htexts]
      rfl

/-- The pieces of a path that count hold no separator. -/
theorem separator_notMem_of_mem_countingSteps {path : Path} {piece : List Char}
    (hpiece : piece ∈ path.countingSteps) : '/' ∉ piece :=
  separator_notMem_of_mem_pieces (List.mem_filter.mp hpiece).1

/-- A plain path starts from the root if the path does. -/
@[simp] theorem isAbsolute_plain (path : Path) : path.plain.isAbsolute = path.isAbsolute := by
  rw [isAbsolute, toList_plain]
  by_cases habsolute : path.isAbsolute
  · simp [habsolute]
  · -- The first piece that counts has a character, and it is no separator.
    simp only [habsolute, Bool.false_eq_true, if_false, List.nil_append]
    cases hsteps : path.countingSteps with
    | nil => rfl
    | cons piece later =>
      have hpiece : piece ∈ path.countingSteps := by simp [hsteps]
      have hslash := separator_notMem_of_mem_countingSteps hpiece
      cases piece with
      | nil => simp [countingSteps, counts] at hpiece
      | cons c rest =>
        have hc : c ≠ '/' := by
          rintro rfl
          simp at hslash
        cases later <;> simp [List.intercalate_cons_cons, hc]

/-- The pieces of a plain path are those of the path that count, or a single empty one. -/
theorem steps_plain (path : Path) :
    path.plain.steps = if path.countingSteps = [] then [[]] else path.countingSteps := by
  have hpieces : path.plain.steps = pieces (['/'].intercalate path.countingSteps) := by
    rw [steps, isAbsolute_plain, toList_plain]
    cases path.isAbsolute <;> simp
  rw [hpieces]
  split
  · next hsteps => simp [hsteps, pieces]
  · next hsteps => exact pieces_intercalate hsteps fun _ => separator_notMem_of_mem_countingSteps

/-- All pieces of a plain path that count are those of the path. -/
@[simp] theorem countingSteps_plain (path : Path) :
    path.plain.countingSteps = path.countingSteps := by
  rw [countingSteps, steps_plain]
  split
  · next hsteps =>
    rw [hsteps]
    rfl
  · simp [countingSteps]

/-- A path has the same plain spelling as its plain spelling. -/
@[simp] theorem plain_plain (path : Path) : path.plain.plain = path.plain := by
  rw [plain, filter_components, isAbsolute_plain, countingSteps_plain, ← filter_components, ← plain]

/-- Paths are the same if their components are. -/
theorem same_iff {first second : Path} :
    first.same second ↔ first.components = second.components := by
  simp [same]

/-- Plain paths with the same components are spelled alike. -/
theorem plain_eq_of_same {first second : Path} (hfirst : first.plain = first)
    (hsecond : second.plain = second) (hsame : first.same second) : first = second := by
  rw [← hfirst, ← hsecond, plain, plain, same_iff.mp hsame]

end RuleAudit.Path
