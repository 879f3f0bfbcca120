import RuleAudit.Text.Snippet
import Mathlib.Data.List.Basic

/-!
# Texts between line feeds

A text is cut at its line feeds, and each cut goes its own way: the pieces of a text with a feed in it
are those in front of the feed and those behind it. So lines without feeds are found again in the text
that has a feed behind each of them.
-/

namespace RuleAudit.Text

/-- The pieces of a text are its parts between line feeds. -/
theorem splitFeeds_eq_splitOn (characters : List Char) :
    splitFeeds characters = characters.splitOn '\n' := by
  fun_induction splitFeeds characters with
  | case1 => rfl
  | case2 rest ih => rw [ih, List.splitOn_cons_eq_if_modifyHead, if_pos (by decide)]
  | case3 c rest hfeed hnil ih => exact absurd (ih.symm.trans hnil) (List.splitOn_ne_nil _ _)
  | case4 c rest hfeed piece later hpieces ih =>
    rw [List.splitOn_cons_eq_if_modifyHead, if_neg (by simpa using hfeed), ← ih, hpieces]
    rfl

/-- A line feed parts the pieces in front of it from those behind it. -/
theorem splitFeeds_append_feed (front back : List Char) :
    splitFeeds (front ++ '\n' :: back) = splitFeeds front ++ splitFeeds back := by
  simp only [splitFeeds_eq_splitOn, List.splitOn_append_cons_self]

/-- A text without a line feed is a single piece. -/
theorem splitFeeds_of_notMem {characters : List Char} (hfeed : '\n' ∉ characters) :
    splitFeeds characters = [characters] := by
  rw [splitFeeds_eq_splitOn, List.splitOn_eq_singleton hfeed]

/-- A text without a line feed, or what stands in front of the first one and behind it. -/
theorem exists_first_feed (characters : List Char) :
    '\n' ∉ characters ∨ ∃ first later, '\n' ∉ first ∧ characters = first ++ '\n' :: later := by
  by_cases hfeed : '\n' ∈ characters
  · obtain ⟨first, later, hcharacters, hfirst⟩ := List.eq_append_cons_of_mem hfeed
    exact .inr ⟨first, later, hfirst, hcharacters⟩
  · exact .inl hfeed

/-- A text without a line feed, or what stands in front of the last one and behind it. -/
theorem exists_last_feed (characters : List Char) :
    '\n' ∉ characters ∨ ∃ before last, '\n' ∉ last ∧ characters = before ++ '\n' :: last := by
  rcases exists_first_feed characters.reverse with hfeed | ⟨first, later, hfirst, hreverse⟩
  · exact .inl (by simpa using hfeed)
  · refine .inr ⟨later.reverse, first.reverse, by simpa using hfirst, ?_⟩
    have hcharacters := congrArg List.reverse hreverse
    simpa using hcharacters

/-- A property of all texts: it holds of texts without a line feed, and goes over from what stands
behind the first feed to the whole text. -/
@[elab_as_elim]
theorem feeds_induction {motive : List Char → Prop}
    (last : ∀ characters, '\n' ∉ characters → motive characters)
    (feed : ∀ first later, '\n' ∉ first → motive later → motive (first ++ '\n' :: later))
    (characters : List Char) : motive characters := by
  induction hlength : characters.length using Nat.strongRecOn generalizing characters with
  | ind length ih =>
    rcases exists_first_feed characters with hfeed | ⟨first, later, hfirst, rfl⟩
    · exact last characters hfeed
    · refine feed first later hfirst (ih later.length ?_ later rfl)
      simp only [List.length_append, List.length_cons] at hlength
      omega

/-- No line feed stands in a piece. -/
theorem feed_notMem_of_mem_splitFeeds {characters piece : List Char}
    (hpiece : piece ∈ splitFeeds characters) : '\n' ∉ piece := by
  induction characters using feeds_induction with
  | last characters hfeed =>
    rw [splitFeeds_of_notMem hfeed, List.mem_singleton] at hpiece
    rwa [hpiece]
  | feed first later hfirst ih =>
    rw [splitFeeds_append_feed, splitFeeds_of_notMem hfirst, List.singleton_append,
      List.mem_cons] at hpiece
    rcases hpiece with rfl | hpiece
    · exact hfirst
    · exact ih hpiece

/-- A line is a piece, perhaps without the carriage return at its end. -/
theorem exists_piece_of_mem {pieces : List (List Char)} {line : List Char}
    (hline : line ∈ linesOfPieces pieces) :
    ∃ piece ∈ pieces, line = piece ∨ line = dropReturn piece := by
  fun_induction linesOfPieces pieces with
  | case1 | case2 => cases hline
  | case3 last => exact ⟨last, List.mem_singleton_self last, .inl (List.mem_singleton.mp hline)⟩
  | case4 piece later _ ih =>
    rcases List.mem_cons.mp hline with rfl | hline
    · exact ⟨piece, List.mem_cons_self, .inr rfl⟩
    · obtain ⟨other, hother, hdropped⟩ := ih hline
      exact ⟨other, List.mem_cons_of_mem _ hother, hdropped⟩

/-- A piece loses the carriage return at its end, or stays as it is if there is none. -/
theorem dropReturn_cases (piece : List Char) :
    (∃ before, piece = before ++ ['\r'] ∧ dropReturn piece = before) ∨
      ¬ ['\r'] <:+ piece ∧ dropReturn piece = piece := by
  unfold dropReturn
  split
  · rename_i before hreverse
    have hpiece : piece = before.reverse ++ ['\r'] := by
      simpa using congrArg List.reverse hreverse
    exact .inl ⟨before.reverse, hpiece, rfl⟩
  · rename_i hother
    refine .inr ⟨?_, rfl⟩
    rintro ⟨before, rfl⟩
    exact hother before.reverse (by simp)

/-- No line feed stands on a line. -/
theorem feed_notMem_of_mem_lines {text line : String} (hline : line ∈ lines text) :
    '\n' ∉ line.toList := by
  obtain ⟨characters, hcharacters, rfl⟩ := List.mem_map.mp hline
  obtain ⟨piece, hpiece, hdropped⟩ := exists_piece_of_mem hcharacters
  have hfeed := feed_notMem_of_mem_splitFeeds hpiece
  rw [String.toList_ofList]
  rcases hdropped with rfl | rfl
  · exact hfeed
  · rcases dropReturn_cases piece with ⟨before, rfl, hbefore⟩ | ⟨_, hsame⟩
    · rw [hbefore]
      exact fun hmem => hfeed (List.mem_append_left _ hmem)
    · rwa [hsame]

/-- Lines with a feed behind each of them. -/
def ended (lines : List (List Char)) : List Char :=
  lines.flatMap fun line => line ++ ['\n']

/-- Lines without feeds are found again in the text that has a feed behind each of them, with an empty
piece at the end. -/
theorem splitFeeds_ended {lines : List (List Char)} (hlines : ∀ line ∈ lines, '\n' ∉ line) :
    splitFeeds (ended lines) = lines ++ [[]] := by
  induction lines with
  | nil => rfl
  | cons line later ih =>
    obtain ⟨hline, hlater⟩ := List.forall_mem_cons.mp hlines
    have hended : ended (line :: later) = line ++ '\n' :: ended later := by simp [ended]
    rw [hended, splitFeeds_append_feed, splitFeeds_of_notMem hline, ih hlater]
    rfl

/-- Lines without feeds are told apart by the texts that have a feed behind each of them. -/
theorem ended_injective {first second : List (List Char)} (hfirst : ∀ line ∈ first, '\n' ∉ line)
    (hsecond : ∀ line ∈ second, '\n' ∉ line) (hsame : ended first = ended second) :
    first = second := by
  have hpieces := splitFeeds_ended hfirst
  rw [hsame, splitFeeds_ended hsecond] at hpieces
  exact (List.append_cancel_right hpieces).symm

end RuleAudit.Text
