import RuleAudit.Proofs.Text.Feeds

/-!
# Written lines

A mark is a character that is neither a line feed nor a carriage return, so that it belongs to its line
wherever it stands there. A line that holds a mark is not empty. Lines that are joined by line feeds are
found again if the last one is not empty, except that each of the others loses the carriage return at
its end.
-/

namespace RuleAudit.Text

/-- A character that belongs to its line wherever it stands there. -/
def IsMark (c : Char) : Prop :=
  c ≠ '\n' ∧ c ≠ '\r'

instance (c : Char) : Decidable (IsMark c) :=
  inferInstanceAs (Decidable (c ≠ '\n' ∧ c ≠ '\r'))

/-- Characters each of which belongs to its line. -/
def AllMarks (characters : List Char) : Prop :=
  ∀ c ∈ characters, IsMark c

instance : DecidablePred AllMarks :=
  List.decidableBAll IsMark

@[simp] theorem allMarks_nil : AllMarks [] :=
  List.forall_mem_nil IsMark

@[simp] theorem allMarks_cons {c : Char} {rest : List Char} :
    AllMarks (c :: rest) ↔ IsMark c ∧ AllMarks rest :=
  List.forall_mem_cons

/-! ## Lines that are not empty -/

/-- The line at a position, counted from zero, is not empty. -/
def IsWritten (characters : List Char) (position : Nat) : Prop :=
  ∃ line, (linesOfPieces (splitFeeds characters))[position]? = some line ∧ line ≠ []

/-- Only a carriage return can be dropped. -/
theorem dropReturn_eq_nil_iff {piece : List Char} :
    dropReturn piece = [] ↔ piece = [] ∨ piece = ['\r'] := by
  rcases dropReturn_cases piece with ⟨before, rfl, hbefore⟩ | ⟨hreturn, hsame⟩
  · simp [hbefore]
  · have hne : piece ≠ ['\r'] := by
      rintro rfl
      exact hreturn List.suffix_rfl
    simp [hsame, hne]

/-- The lines of a text that begins with a line feed. -/
theorem linesOfPieces_splitFeeds_feed (rest : List Char) :
    linesOfPieces (splitFeeds ('\n' :: rest)) = [] :: linesOfPieces (splitFeeds rest) := by
  obtain ⟨piece, later, hpieces⟩ := List.exists_cons_of_ne_nil (l := splitFeeds rest) (by
    rw [splitFeeds_eq_splitOn]
    exact List.splitOn_ne_nil _ _)
  rw [splitFeeds, hpieces]
  rfl

/-- The first line of a text that begins with another character is the first line behind it with the
character in front, unless that is a line end. -/
theorem linesOfPieces_splitFeeds_cons {c : Char} (hfeed : c ≠ '\n') (rest : List Char) :
    ∃ piece later, splitFeeds rest = piece :: later ∧ linesOfPieces (splitFeeds (c :: rest)) =
      (if later = [] then c :: piece else dropReturn (c :: piece)) :: linesOfPieces later := by
  obtain ⟨piece, later, hpieces⟩ := List.exists_cons_of_ne_nil (l := splitFeeds rest) (by
    rw [splitFeeds_eq_splitOn]
    exact List.splitOn_ne_nil _ _)
  have hcons : splitFeeds (c :: rest) = (c :: piece) :: later := by
    simp [splitFeeds, hpieces]
  refine ⟨piece, later, hpieces, ?_⟩
  rw [hcons]
  cases later <;> simp [linesOfPieces]

/-- A line feed in front shifts the lines by one. -/
theorem IsWritten.feed {rest : List Char} {position : Nat} (hwritten : IsWritten rest position) :
    IsWritten ('\n' :: rest) (position + 1) := by
  rw [IsWritten, linesOfPieces_splitFeeds_feed]
  exact hwritten

/-- A mark at the front of a text stands on its first line. -/
theorem isWritten_zero {c : Char} (hmark : IsMark c) (rest : List Char) :
    IsWritten (c :: rest) 0 := by
  obtain ⟨piece, later, _, hlines⟩ := linesOfPieces_splitFeeds_cons hmark.1 rest
  rw [IsWritten, hlines]
  refine ⟨_, rfl, ?_⟩
  split
  · exact List.cons_ne_nil c piece
  · rw [Ne, dropReturn_eq_nil_iff]
    simp [hmark.2]

/-- Another character in front leaves no line empty that was not. -/
theorem IsWritten.cons {c : Char} (hfeed : c ≠ '\n') {rest : List Char} {position : Nat}
    (hwritten : IsWritten rest position) : IsWritten (c :: rest) position := by
  obtain ⟨line, hline, hne⟩ := hwritten
  obtain ⟨piece, later, hpieces, hlines⟩ := linesOfPieces_splitFeeds_cons hfeed rest
  rw [hpieces] at hline
  rw [IsWritten, hlines]
  cases later with
  | nil =>
    have hfirst : position = 0 := by
      rw [linesOfPieces] at hline
      split at hline
      · cases hline
      · exact Nat.lt_one_iff.mp (List.getElem?_eq_some_iff.mp hline).1
    rw [hfirst, if_pos rfl]
    exact ⟨_, rfl, List.cons_ne_nil c piece⟩
  | cons next others =>
    cases position with
    | zero =>
      have hfirst : dropReturn piece = line := by simpa [linesOfPieces] using hline
      refine ⟨_, rfl, ?_⟩
      rw [if_neg (List.cons_ne_nil next others), Ne, dropReturn_eq_nil_iff]
      rintro (hnil | hreturn)
      · cases hnil
      · obtain ⟨_, rfl⟩ := List.cons.inj hreturn
        exact hne (hfirst ▸ rfl)
    | succ position => exact ⟨line, by simpa [linesOfPieces] using hline, hne⟩

/-! ## Texts that end with a written line -/

/-- Behind the last line feed of the text stands a mark. -/
def EndsMarked : List Char → Prop
  | [] => False
  | c :: rest => EndsMarked rest ∨ IsMark c ∧ '\n' ∉ rest

instance decidableEndsMarked : DecidablePred EndsMarked
  | [] => inferInstanceAs (Decidable False)
  | c :: rest =>
    have := decidableEndsMarked rest
    inferInstanceAs (Decidable (EndsMarked rest ∨ IsMark c ∧ '\n' ∉ rest))

/-- A text that ends with a mark. -/
theorem endsMarked_singleton {c : Char} (hmark : IsMark c) : EndsMarked [c] :=
  .inr ⟨hmark, List.not_mem_nil⟩

/-- Text in front does not change how a text ends. -/
theorem EndsMarked.append {text : List Char} (hends : EndsMarked text) (front : List Char) :
    EndsMarked (front ++ text) := by
  induction front with
  | nil => exact hends
  | cons c front ih => exact .inl ih

/-- A text without line feeds ends marked if it holds a mark. -/
theorem endsMarked_of_mem {text : List Char} {c : Char} (hfeed : '\n' ∉ text) (hc : c ∈ text)
    (hmark : IsMark c) : EndsMarked text := by
  induction text with
  | nil => cases hc
  | cons first rest ih =>
    have hrest : '\n' ∉ rest := fun hmem => hfeed (List.mem_cons_of_mem first hmem)
    rcases List.mem_cons.mp hc with rfl | hc
    · exact .inr ⟨hmark, hrest⟩
    · exact .inl (ih hrest hc)

/-- A text of marks ends marked, unless it is empty. -/
theorem endsMarked_of_forall {text : List Char} (hne : text ≠ []) (hmarks : AllMarks text) :
    EndsMarked text := by
  obtain ⟨c, hc⟩ := List.exists_mem_of_ne_nil text hne
  exact endsMarked_of_mem (fun hfeed => (hmarks _ hfeed).1 rfl) hc (hmarks c hc)

/-! ## Joined lines -/

/-- A line without the carriage return at its end. -/
def withoutReturn (line : String) : String :=
  String.ofList (dropReturn line.toList)

/-- Nothing but a carriage return at the end of a line is dropped. -/
theorem withoutReturn_eq_self_iff {line : String} :
    withoutReturn line = line ↔ ¬ ['\r'] <:+ line.toList := by
  rw [withoutReturn, ← String.toList_inj, String.toList_ofList]
  rcases dropReturn_cases line.toList with ⟨before, hline, hbefore⟩ | ⟨hreturn, hsame⟩
  · rw [hbefore]
    simp [hline]
  · simp [hreturn, hsame]

/-- Pieces of which the last one is not empty are lines, each but the last one without the carriage
return at its end. -/
theorem linesOfPieces_concat (front : List (List Char)) {last : List Char} (hlast : last ≠ []) :
    linesOfPieces (front ++ [last]) = front.map dropReturn ++ [last] := by
  induction front with
  | nil => simp [linesOfPieces, hlast]
  | cons piece front ih =>
    obtain ⟨next, later, hnext⟩ := List.exists_cons_of_ne_nil
      (List.append_ne_nil_of_right_ne_nil front (List.cons_ne_nil last []))
    rw [List.cons_append, hnext, linesOfPieces, ← hnext, ih]
    · rfl
    · simp

/-- Joined lines are found again if the last one is not empty, except that each of the others loses
the carriage return at its end. -/
theorem lines_joined {front : List String} {last : String}
    (hfeed : ∀ line ∈ front ++ [last], '\n' ∉ line.toList) (hlast : last ≠ "") :
    lines (joined "\n" (front ++ [last])) = front.map withoutReturn ++ [last] := by
  have hpieces : splitFeeds (joined "\n" (front ++ [last])).toList =
      front.map String.toList ++ [last.toList] := by
    rw [splitFeeds_eq_splitOn, joined, String.toList_intercalate, List.map_append]
    refine List.splitOn_intercalate '\n' (fun piece hpiece => ?_) (by simp)
    rw [← List.map_append] at hpiece
    obtain ⟨line, hline, rfl⟩ := List.mem_map.mp hpiece
    exact hfeed line hline
  rw [lines, hpieces, linesOfPieces_concat _ (by simpa using hlast)]
  simp [withoutReturn, Function.comp_def]

/-- The line at a position of joined lines of which the last one is not empty. -/
theorem getElem?_lines_joined {texts : List String} (hfeed : ∀ line ∈ texts, '\n' ∉ line.toList)
    {last : String} (hlast : texts.getLast? = some last) (hne : last ≠ "") (position : Nat) :
    (lines (joined "\n" texts))[position]? = texts[position]?.map fun line =>
      if position + 1 < texts.length then withoutReturn line else line := by
  obtain ⟨front, rfl⟩ := List.getLast?_eq_some_iff.mp hlast
  rw [lines_joined hfeed hne, List.length_append, List.length_singleton]
  rcases Nat.lt_trichotomy position front.length with hlt | rfl | hgt
  · rw [List.getElem?_append_left (by simpa using hlt), List.getElem?_append_left hlt,
      List.getElem?_map]
    simp only [if_pos (Nat.succ_lt_succ hlt)]
  · simp
  · rw [List.getElem?_eq_none (by simp; omega), List.getElem?_eq_none (by simp; omega),
      Option.map_none]

/-- A line is written if it is a line of the text and not empty. -/
theorem isWritten_iff {text : String} {position : Nat} :
    IsWritten text.toList position ↔ ∃ line, (lines text)[position]? = some line ∧ line ≠ "" := by
  simp only [lines, List.getElem?_map, Option.map_eq_some_iff]
  constructor
  · rintro ⟨characters, hline, hne⟩
    refine ⟨_, ⟨characters, hline, rfl⟩, fun hempty => hne ?_⟩
    rw [← String.toList_ofList (l := characters), hempty, String.toList_empty]
  · rintro ⟨_, ⟨characters, hline, rfl⟩, hne⟩
    refine ⟨characters, hline, ?_⟩
    rintro rfl
    exact hne rfl

end RuleAudit.Text
