import RuleAudit.Proofs.Path.Descent

/-!
# Spellings of paths

A plain path has no `.` among its components, and it is spelled with single separators and without one
at its end. A relative path with `./` in front has one more piece, which leads nowhere else and is left
out of the plain spelling.
-/

namespace RuleAudit.Path

/-! ## Plain spellings -/

/-- The components of a plain path are those of the path but for a `.` at its front. -/
theorem components_plain (path : Path) :
    path.plain.components = path.components.filter (· != .current) := by
  rw [filter_components]
  by_cases habsolute : path.isAbsolute
  · rw [components_of_isAbsolute (by rwa [isAbsolute_plain]), countingSteps_plain, if_pos habsolute]
    rfl
  · rw [if_neg habsolute, List.nil_append]
    have hplain : ¬ path.plain.isAbsolute := by rwa [isAbsolute_plain]
    have hsteps := path.steps_plain
    cases hcounting : path.countingSteps with
    | nil =>
      rw [hcounting, if_pos rfl] at hsteps
      rw [components_of_not_isAbsolute hplain hsteps]
      rfl
    | cons first later =>
      rw [hcounting, if_neg (List.cons_ne_nil _ _)] at hsteps
      -- All pieces of a plain path count, the first one too.
      have hcounts : ∀ piece ∈ first :: later, counts piece := by
        rw [← hcounting]
        exact fun piece hpiece => (List.mem_filter.mp hpiece).2
      obtain ⟨hfirst, hlater⟩ := List.forall_mem_cons.mp hcounts
      rw [components_of_not_isAbsolute hplain hsteps, componentOf_of_counts hfirst,
        List.filter_eq_self.mpr hlater]
      rfl

/-- No `.` is among the components of a plain path. -/
theorem current_notMem_components_plain (path : Path) : .current ∉ path.plain.components := by
  simp [components_plain]

/-- A path has the components of its plain spelling, perhaps behind a `.`. -/
theorem components_eq_or (path : Path) :
    path.components = path.plain.components ∨ path.components = .current :: path.plain.components := by
  rw [components_plain, filter_components]
  by_cases habsolute : path.isAbsolute
  · left
    rw [components_of_isAbsolute habsolute, if_pos habsolute]
    rfl
  · obtain ⟨first, later, hsteps⟩ : ∃ first later, path.steps = first :: later :=
      List.exists_cons_of_ne_nil (pieces_ne_nil _)
    rw [components_of_not_isAbsolute habsolute hsteps, if_neg habsolute, countingSteps, hsteps]
    by_cases hfirst : counts first
    · left
      rw [componentOf_of_counts hfirst, List.filter_cons_of_pos hfirst]
      rfl
    · -- A first piece that does not count is empty or gives the `.`.
      rw [List.filter_cons_of_neg hfirst]
      simp only [counts, Bool.and_eq_true, Bool.not_eq_true', bne_iff_ne, ne_eq, not_and,
        Decidable.not_not] at hfirst
      by_cases hempty : first.isEmpty
      · left
        simp [componentOf, hempty]
      · right
        simp [componentOf, hfirst (Bool.eq_false_iff.mpr hempty)]

/-- A path has the file name of its plain spelling. -/
theorem fileName_plain (path : Path) : path.plain.fileName = path.fileName := by
  rw [fileName, fileName]
  obtain hsame | hdot := path.components_eq_or
  · rw [hsame]
  · rw [hdot]
    cases path.plain.components <;> rfl

/-- Only a `.` at the front is left out of a plain path. -/
theorem dropWhile_components (path : Path) :
    path.components.dropWhile (· == .current) = path.plain.components := by
  have hkept : path.plain.components.dropWhile (· == .current) = path.plain.components := by
    have hnone := path.current_notMem_components_plain
    cases hcomponents : path.plain.components with
    | nil => rfl
    | cons first later =>
      rw [hcomponents, List.mem_cons, not_or] at hnone
      exact List.dropWhile_cons_of_neg (by simpa using Ne.symm hnone.1)
  obtain hsame | hdot := path.components_eq_or
  · rw [hsame, hkept]
  · rw [hdot, List.dropWhile_cons_of_pos (by rfl), hkept]

/-- An empty piece is the only one of a plain path, of which nothing is left then. -/
theorem steps_plain_of_nil_mem {path : Path} (hempty : [] ∈ path.plain.steps) :
    path.plain.steps = [[]] ∧ path.countingSteps = [] := by
  rw [steps_plain] at hempty ⊢
  split
  · next hnone => exact ⟨rfl, hnone⟩
  · next hsome =>
    rw [if_neg hsome] at hempty
    have hcounts := (List.mem_filter.mp hempty).2
    contradiction

/-- The characters of a path are those of its body, behind a separator if it starts from the root. -/
theorem toList_eq_body (path : Path) :
    path.spelling.toList = (if path.isAbsolute then ['/'] else []) ++ path.body := by
  unfold body
  split
  · next habsolute =>
    rw [isAbsolute, beq_iff_eq] at habsolute
    obtain ⟨rest, hrest⟩ := List.head?_eq_some_iff.mp habsolute
    rw [hrest]
    rfl
  · rfl

/-- Separators in a plain spelling stand alone. -/
theorem singleSeparators_plain (path : Path) : ¬ ['/', '/'] <:+: path.plain.spelling.toList := by
  rintro ⟨front, back, hdouble⟩
  -- Behind the first separator there is an empty piece, and a further one behind the second.
  obtain ⟨before, hsteps⟩ : ∃ before, path.plain.steps = before ++ [] :: pieces back := by
    rw [toList_eq_body] at hdouble
    rw [steps_eq_pieces]
    by_cases habsolute : path.plain.isAbsolute
    · rw [if_pos habsolute] at hdouble
      cases front with
      | nil =>
        have hbody : path.plain.body = '/' :: back := by simpa using hdouble.symm
        exact ⟨[], by rw [hbody, pieces, if_pos rfl, List.nil_append]⟩
      | cons c front =>
        have hbody : path.plain.body = front ++ '/' :: '/' :: back := by
          simpa using (List.cons.inj hdouble).2.symm
        exact ⟨pieces front, by rw [hbody, pieces_append_separator, pieces, if_pos rfl]⟩
    · rw [if_neg habsolute] at hdouble
      have hbody : path.plain.body = front ++ '/' :: '/' :: back := by simpa using hdouble.symm
      exact ⟨pieces front, by rw [hbody, pieces_append_separator, pieces, if_pos rfl]⟩
  have hempty : [] ∈ path.plain.steps := by simp [hsteps]
  have hlength := congrArg List.length ((steps_plain_of_nil_mem hempty).1.symm.trans hsteps)
  have hback := List.length_pos_of_ne_nil (pieces_ne_nil back)
  simp only [List.length_append, List.length_cons, List.length_nil] at hlength
  omega

/-- A plain spelling of which something counts has no separator at its end. -/
theorem getLast?_plain_ne {path : Path} (hcounts : path.countingSteps ≠ []) :
    path.plain.spelling.toList.getLast? ≠ some '/' := by
  intro hlast
  obtain ⟨front, hfront⟩ := List.getLast?_eq_some_iff.mp hlast
  refine hcounts (steps_plain_of_nil_mem ?_).2
  rw [toList_eq_body] at hfront
  rw [steps_eq_pieces]
  have hempty (before : List Char) : [] ∈ pieces (before ++ ['/']) := by
    simp [pieces_append_separator, pieces]
  by_cases habsolute : path.plain.isAbsolute
  · rw [if_pos habsolute] at hfront
    cases front with
    | nil =>
      have hbody : path.plain.body = [] := by simpa using hfront
      rw [hbody, pieces]
      exact List.mem_singleton_self []
    | cons c front =>
      have hbody : path.plain.body = front ++ ['/'] := by simpa using (List.cons.inj hfront).2
      exact hbody ▸ hempty front
  · rw [if_neg habsolute, List.nil_append] at hfront
    exact hfront ▸ hempty front

/-! ## A dot in front -/

/-- The path with `./` in front. -/
def dotted (path : Path) : Path :=
  ⟨"./" ++ path.spelling⟩

section Dotted

variable {path : Path} (hrelative : ¬ path.isAbsolute)

/-- The characters of a path with a dot in front. -/
@[simp] theorem toList_dotted (path : Path) :
    path.dotted.spelling.toList = '.' :: '/' :: path.spelling.toList := by
  simp [dotted]

/-- A path with a dot in front is relative. -/
@[simp] theorem isAbsolute_dotted (path : Path) : path.dotted.isAbsolute = false := by
  simp [isAbsolute]

/-- The path of an entry has a dot in front if that of the directory has one. -/
theorem join_dotted (path : Path) {name : String} (hhead : name.toList.head? ≠ some '/') :
    path.dotted.join name = (path.join name).dotted := by
  have hends : path.dotted.spelling.toList.getLast? = some '/' ↔
      path.spelling.isEmpty ∨ path.spelling.toList.getLast? = some '/' := by
    rw [toList_dotted, String.isEmpty_iff, ← String.toList_eq_nil_iff]
    cases path.spelling.toList <;> simp [List.getLast?_cons]
  have hne : path.dotted.spelling.isEmpty = false := by
    rw [Bool.eq_false_iff, Ne, String.isEmpty_iff, ← String.toList_eq_nil_iff, toList_dotted]
    exact List.cons_ne_nil _ _
  simp only [join, beq_iff_eq, hhead, if_false, Bool.or_eq_true, hends, hne, Bool.false_eq_true,
    false_or]
  split <;> simp only [dotted, String.append_assoc]

include hrelative

/-- A dot in front of a relative path is one more piece. -/
theorem steps_dotted : path.dotted.steps = ['.'] :: path.steps := by
  rw [steps, steps, if_neg (by simp), if_neg hrelative, toList_dotted,
    ← List.singleton_append, pieces_append_separator]
  rfl

/-- A dot in front of a relative path is left out of the plain spelling. -/
theorem plain_dotted : path.dotted.plain = path.plain := by
  have hcounting : path.dotted.countingSteps = path.countingSteps := by
    rw [countingSteps, steps_dotted hrelative, List.filter_cons_of_neg (by decide), countingSteps]
  rw [plain, plain, filter_components, filter_components, hcounting, isAbsolute_dotted,
    Bool.eq_false_iff.mpr hrelative]

end Dotted

/-! ## Respellings -/

/-- One path is the other with a dot in front, a doubled separator, a dot between separators, or a
separator at its end. -/
inductive Respelled : Path → Path → Prop
  | dotInFront {path : Path} (hrelative : ¬ path.isAbsolute) : Respelled path path.dotted
  | doubled (front back : String) : Respelled ⟨front ++ "/" ++ back⟩ ⟨front ++ "//" ++ back⟩
  | dotInside (front back : String) : Respelled ⟨front ++ "/" ++ back⟩ ⟨front ++ "/./" ++ back⟩
  | ended {path : Path} (hpath : path.spelling ≠ "") : Respelled path ⟨path.spelling ++ "/"⟩

/-- The pieces that count may be looked for behind the separator at the front or before it. -/
theorem countingSteps_eq_filter (path : Path) :
    path.countingSteps = (pieces path.spelling.toList).filter counts := by
  rw [countingSteps, steps_eq_pieces, toList_eq_body]
  cases path.isAbsolute with
  | false => rfl
  | true => rfl

/-- Paths have one plain spelling if both or none start from the root and the same pieces count. -/
theorem plain_eq_of_steps {first second : Path} (habsolute : first.isAbsolute = second.isAbsolute)
    (hsteps : first.countingSteps = second.countingSteps) : first.plain = second.plain := by
  rw [plain, plain, filter_components, filter_components, habsolute, hsteps]

/-- A respelled path has the same plain spelling. -/
theorem Respelled.plain_eq {first second : Path} (hrespelled : Respelled first second) :
    first.plain = second.plain := by
  cases hrespelled with
  | dotInFront hrelative => exact (plain_dotted hrelative).symm
  | doubled front back =>
    apply plain_eq_of_steps
    · cases hfront : front.toList <;> simp [isAbsolute, hfront]
    · simp [countingSteps_eq_filter, pieces_append_separator, pieces, counts]
  | dotInside front back =>
    apply plain_eq_of_steps
    · cases hfront : front.toList <;> simp [isAbsolute, hfront]
    · simp [countingSteps_eq_filter, pieces_append_separator, pieces, counts]
  | ended hpath =>
    apply plain_eq_of_steps
    · have hne : first.spelling.toList ≠ [] := fun h => hpath (String.toList_eq_nil_iff.mp h)
      simp [isAbsolute, List.head?_append_of_ne_nil _ hne]
    · simp [countingSteps_eq_filter, pieces_append_separator, pieces, counts]

end RuleAudit.Path
