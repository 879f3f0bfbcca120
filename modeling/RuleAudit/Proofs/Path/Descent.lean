import RuleAudit.Proofs.Path.Plain
import RuleAudit.Text.Snippet

/-!
# Paths of what lies below a directory

Each name on the way down from a directory becomes one more component of the path. So the names are
found again behind the components of the directory, and they can be told from the text in which they
are joined by separators.
-/

namespace RuleAudit

/-- A text that an entry of a directory can have for its name. -/
def IsEntryName (name : String) : Prop :=
  name ∉ ["", ".", ".."] ∧ '/' ∉ name.toList

instance : DecidablePred IsEntryName :=
  fun _ => inferInstanceAs (Decidable (_ ∧ _))

namespace IsEntryName

variable {name : String} (hname : IsEntryName name)
include hname

/-- A name counts as a piece of a path. -/
theorem counts : Path.counts name.toList := by
  obtain ⟨hspecial, _⟩ := hname
  simp only [List.mem_cons, List.not_mem_nil, or_false, not_or] at hspecial
  have hempty : name.toList ≠ [] := fun h => hspecial.1 (String.toList_eq_nil_iff.mp h)
  have hdot : name.toList ≠ ['.'] := fun h => hspecial.2.1 (String.ext h)
  simp [Path.counts, hempty, hdot]

/-- The component of a name is its entry. -/
theorem componentOfStep_eq : Path.componentOfStep name.toList = .entry name := by
  obtain ⟨hspecial, _⟩ := hname
  simp only [List.mem_cons, List.not_mem_nil, or_false, not_or] at hspecial
  have hdots : name.toList ≠ ['.', '.'] := fun h => hspecial.2.2 (String.ext h)
  rw [Path.componentOfStep, if_neg hdots, String.ofList_toList]

/-- A name is a single piece. -/
theorem pieces_eq : Path.pieces name.toList = [name.toList] := by
  simpa using Path.pieces_intercalate (List.cons_ne_nil name.toList [])
    (List.forall_mem_singleton.mpr hname.2)

end IsEntryName

namespace Path

/-! ## One step down -/

/-- The pieces on both sides of a separator. -/
theorem pieces_append_separator (front back : List Char) :
    pieces (front ++ '/' :: back) = pieces front ++ pieces back := by
  induction front with
  | nil => simp [pieces]
  | cons c later ih =>
    rw [List.cons_append, pieces, pieces, ih]
    split
    · rfl
    · obtain ⟨piece, others, hpieces⟩ := List.exists_cons_of_ne_nil (pieces_ne_nil later)
      rw [hpieces]
      rfl

/-- The characters of a path behind the separator at its front, if there is one. -/
def body (path : Path) : List Char :=
  if path.isAbsolute then path.spelling.toList.tail else path.spelling.toList

/-- The pieces of a path are those of its body. -/
theorem steps_eq_pieces (path : Path) : path.steps = pieces path.body := rfl

/-- What stands between a path and the name of an entry behind it: a separator, unless the path is
empty or ends in one. -/
def gap (characters : List Char) : List Char :=
  if characters = [] ∨ characters.getLast? = some '/' then [] else ['/']

/-- The characters of the path of an entry. -/
theorem toList_join (path : Path) {name : String} (hname : IsEntryName name) :
    (path.join name).spelling.toList =
      path.spelling.toList ++ gap path.spelling.toList ++ name.toList := by
  have hhead : name.toList.head? ≠ some '/' := fun h => hname.2 (List.mem_of_head? h)
  have hjoin : path.join name =
      if path.spelling.toList = [] ∨ path.spelling.toList.getLast? = some '/' then
        ⟨path.spelling ++ name⟩
      else ⟨path.spelling ++ "/" ++ name⟩ := by
    simp [join, hhead, String.toList_eq_nil_iff]
  rw [hjoin, gap]
  split <;> simp

/-- The path of an entry starts from the root if that of the directory does, and its body is that of
the directory with the name behind it. -/
theorem body_join (path : Path) {name : String} (hname : IsEntryName name) :
    (path.join name).isAbsolute = path.isAbsolute ∧
      (path.join name).body = path.body ++ gap path.body ++ name.toList := by
  have hspelling := path.toList_join hname
  rw [body, body, isAbsolute, isAbsolute, hspelling]
  cases hpath : path.spelling.toList with
  | nil =>
    have hhead : name.toList.head? ≠ some '/' := fun h => hname.2 (List.mem_of_head? h)
    simp [gap, hhead]
  | cons c later =>
    by_cases hc : c = '/'
    · subst hc
      -- The separator at the front is the last character too if nothing follows it.
      have hgap : gap ('/' :: later) = gap later := by
        cases later <;> simp [gap, List.getLast?_cons]
      simp [hgap]
    · simp [hc]

/-- The pieces of the path of an entry are those of the directory, less an empty one at their end, and
the name. -/
theorem steps_join (path : Path) {name : String} (hname : IsEntryName name) :
    ∃ front, (path.steps = front ∨ path.steps = front ++ [[]]) ∧
      (path.join name).steps = front ++ [name.toList] := by
  rw [steps_eq_pieces, steps_eq_pieces, (path.body_join hname).2, gap]
  generalize path.body = characters
  split
  · next hends =>
    obtain rfl | hlast := hends
    · exact ⟨[], .inr rfl, by simpa using hname.pieces_eq⟩
    · obtain ⟨front, rfl⟩ := List.getLast?_eq_some_iff.mp hlast
      refine ⟨pieces front, .inr ?_, ?_⟩
      · rw [pieces_append_separator, pieces]
      · rw [List.append_nil, List.append_assoc, List.singleton_append, pieces_append_separator,
          hname.pieces_eq]
  · refine ⟨pieces characters, .inl rfl, ?_⟩
    rw [List.append_assoc, List.singleton_append, pieces_append_separator, hname.pieces_eq]

/-- The path of an entry has one more component than that of the directory. -/
theorem components_join (path : Path) {name : String} (hname : IsEntryName name) :
    (path.join name).components = path.components ++ [.entry name] := by
  obtain ⟨front, hpath, hjoin⟩ := path.steps_join hname
  have habsolute := (path.body_join hname).1
  have hcounts (later : List (List Char)) :
      ((later ++ [name.toList]).filter counts).map componentOfStep =
        (later.filter counts).map componentOfStep ++ [.entry name] := by
    simp [hname.counts, hname.componentOfStep_eq]
  have hempty (later : List (List Char)) : (later ++ [[]]).filter counts = later.filter counts := by
    simp [counts]
  by_cases hstart : path.isAbsolute
  · rw [components_of_isAbsolute hstart, components_of_isAbsolute (habsolute.trans hstart),
      countingSteps, countingSteps, hjoin, hcounts]
    obtain hpath | hpath := hpath
    · rw [hpath, List.cons_append]
    · rw [hpath, hempty, List.cons_append]
  · have hrelative : ¬ (path.join name).isAbsolute := by rwa [habsolute]
    cases front with
    | nil =>
      obtain hpath | hpath := hpath
      · exact absurd hpath (pieces_ne_nil _)
      · rw [components_of_not_isAbsolute hstart hpath, components_of_not_isAbsolute hrelative hjoin,
          componentOf_of_counts hname.counts, hname.componentOfStep_eq]
        rfl
    | cons first later =>
      rw [List.cons_append] at hpath hjoin
      rw [components_of_not_isAbsolute hrelative hjoin, hcounts, ← List.append_assoc]
      obtain hpath | hpath := hpath
      · rw [components_of_not_isAbsolute hstart hpath]
      · rw [components_of_not_isAbsolute hstart hpath, hempty]

/-! ## Any number of steps down -/

/-- The path of what lies below a directory under a list of names. -/
def below (directory : Path) (names : List String) : Path :=
  names.foldl join directory

/-- The names are the components behind those of the directory. -/
theorem components_below (directory : Path) {names : List String}
    (hnames : ∀ name ∈ names, IsEntryName name) :
    (directory.below names).components = directory.components ++ names.map .entry := by
  induction names generalizing directory with
  | nil => simp [below]
  | cons name later ih =>
    obtain ⟨hname, hlater⟩ := List.forall_mem_cons.mp hnames
    have hbelow : directory.below (name :: later) = (directory.join name).below later := rfl
    rw [hbelow, ih _ hlater, components_join _ hname, List.append_assoc, List.singleton_append,
      List.map_cons]

/-- The last name is that of the file. -/
theorem fileName_below (directory : Path) {names : List String} {last : String}
    (hnames : ∀ name ∈ names, IsEntryName name) (hlast : names.getLast? = some last) :
    (directory.below names).fileName = some last := by
  rw [fileName, components_below _ hnames, List.getLast?_append, List.getLast?_map, hlast]
  rfl

/-! ## Names in a text -/

/-- Names are told from the text in which separators stand between them. -/
theorem joined_injective {first second : List String} (hfirst : ∀ name ∈ first, IsEntryName name)
    (hsecond : ∀ name ∈ second, IsEntryName name) (hfirstNe : first ≠ []) (hsecondNe : second ≠ [])
    (hsame : Text.joined "/" first = Text.joined "/" second) : first = second := by
  have hpieces {names : List String} (hnames : ∀ name ∈ names, IsEntryName name) (hne : names ≠ []) :
      pieces (Text.joined "/" names).toList = names.map String.toList := by
    rw [Text.joined, String.toList_intercalate]
    refine pieces_intercalate (by simpa using hne) fun part hpart => ?_
    obtain ⟨name, hname, rfl⟩ := List.mem_map.mp hpart
    exact (hnames name hname).2
  have hparts := hpieces hfirst hfirstNe
  rw [hsame, hpieces hsecond hsecondNe] at hparts
  exact (List.map_injective_iff.mpr (fun _ _ => String.ext) hparts).symm

/-- A name with a dot behind its front is split at the last one. -/
theorem splitName_eq {stem extension : String} (hstem : stem ≠ "")
    (hextension : '.' ∉ extension.toList) :
    splitName (stem ++ "." ++ extension) = (stem, some extension) := by
  have hreversed : (stem ++ "." ++ extension).toList.reverse =
      extension.toList.reverse ++ '.' :: stem.toList.reverse := by simp
  have hnone : ∀ c ∈ extension.toList.reverse, decide (c ≠ '.') = true := by
    intro c hc
    rw [decide_eq_true_eq]
    rintro rfl
    exact hextension (List.mem_reverse.mp hc)
  obtain ⟨c, later, hcharacters⟩ : ∃ c later, stem.toList.reverse = c :: later := by
    apply List.exists_cons_of_ne_nil
    rwa [Ne, List.reverse_eq_nil_iff, String.toList_eq_nil_iff]
  have hstemEq : String.ofList (c :: later).reverse = stem := by
    rw [← hcharacters, List.reverse_reverse, String.ofList_toList]
  simp only [splitName, hreversed, List.takeWhile_append_of_pos hnone,
    List.dropWhile_append_of_pos hnone, hcharacters]
  simpa using hstemEq

/-- A name has an extension only behind a dot that is not at its front. -/
theorem exists_stem_of_splitName {name extension : String}
    (hsplit : (splitName name).2 = some extension) :
    ∃ stem, stem ≠ "" ∧ name = stem ++ "." ++ extension := by
  have hparts := List.takeWhile_append_dropWhile (p := (· ≠ '.')) (l := name.toList.reverse)
  simp only [splitName] at hsplit
  split at hsplit
  · cases hsplit
  · cases hsplit
  · next mark stem hne hrest =>
    rw [Option.some.injEq] at hsplit
    have hmark : mark = '.' := by
      have hhead := List.head?_dropWhile_not (· ≠ '.') name.toList.reverse
      rw [hrest] at hhead
      simpa using hhead
    have hname := congrArg List.reverse hparts
    rw [hrest, hmark, List.reverse_append, List.reverse_cons, List.reverse_reverse] at hname
    refine ⟨String.ofList stem.reverse, ?_, ?_⟩
    · intro hempty
      exact hne (by simpa using congrArg String.toList hempty)
    · rw [← hsplit, ← String.toList_inj]
      simp only [String.toList_append, String.toList_ofList]
      exact hname.symm

end Path

end RuleAudit
