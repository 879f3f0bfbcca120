import RuleAudit.Syntax.Node
import RuleAudit.Text.Snippet

/-!
# Rows of a text and its lines

The row of a place is the number of line feeds before it, so rows never fall from one place to a later
one, and each character stands on a line of the text. A node that holds text spans the lines from its
first to its last character: the row on which it ends counts only if one of its characters stands there.
-/

namespace RuleAudit

/-! ## The number of lines -/

namespace Text

/-- The number of lines of a text. -/
def lineCount (characters : List Char) : Nat :=
  (linesOfPieces (splitFeeds characters)).length

/-- There are as many lines as the text has. -/
theorem length_lines (text : String) : (lines text).length = lineCount text.toList := by
  rw [lines, lineCount, List.length_map]

/-- A text has at least one piece. -/
theorem splitFeeds_ne_nil (characters : List Char) : splitFeeds characters ≠ [] := by
  fun_induction splitFeeds characters <;> simp

/-- A line feed ends a line. -/
theorem lineCount_feed (rest : List Char) : lineCount ('\n' :: rest) = lineCount rest + 1 := by
  obtain ⟨piece, later, hpieces⟩ := List.exists_cons_of_ne_nil (splitFeeds_ne_nil rest)
  simp [lineCount, splitFeeds, hpieces, linesOfPieces]

/-- Any other character stands on a line, be it one of its own. -/
theorem lineCount_cons {c : Char} (hfeed : c ≠ '\n') (rest : List Char) :
    lineCount (c :: rest) = max 1 (lineCount rest) := by
  obtain ⟨piece, later, hpieces⟩ := List.exists_cons_of_ne_nil (splitFeeds_ne_nil rest)
  have hcons : splitFeeds (c :: rest) = (c :: piece) :: later := by
    simp [splitFeeds, hpieces]
  rw [lineCount, lineCount, hcons, hpieces]
  cases later with
  | nil =>
    have hlast : (linesOfPieces [piece]).length ≤ 1 := by
      rw [linesOfPieces]
      split <;> simp
    rw [Nat.max_eq_left hlast]
    rfl
  | cons next later => simp [linesOfPieces]

/-- A character more means no line less, and at least one. -/
theorem lineCount_le_cons (c : Char) (rest : List Char) :
    1 ≤ lineCount (c :: rest) ∧ lineCount rest ≤ lineCount (c :: rest) := by
  by_cases hfeed : c = '\n'
  · rw [hfeed, lineCount_feed]
    omega
  · rw [lineCount_cons hfeed]
    omega

end Text

/-! ## Lines on which characters stand -/

namespace Text

/-- A character of a text stands on one of its lines. -/
theorem count_feed_take_lt {characters : List Char} {offset : Nat}
    (hoffset : offset < characters.length) :
    (characters.take offset).count '\n' < lineCount characters := by
  induction characters generalizing offset with
  | nil => cases hoffset
  | cons c rest ih =>
    obtain ⟨hpos, hle⟩ := lineCount_le_cons c rest
    cases offset with
    | zero => exact hpos
    | succ offset =>
      have hrest := ih (Nat.lt_of_succ_lt_succ hoffset)
      rw [List.take_succ_cons, List.count_cons]
      by_cases hfeed : c = '\n'
      · subst hfeed
        rw [lineCount_feed]
        simpa using hrest
      · rw [if_neg (by simpa using hfeed)]
        omega

/-- The line on which the character behind a place stands, counted from one. -/
def lineAt (text : String) (offset : Nat) : Nat :=
  (pointAt text offset).row + 1

/-- The line on which the character before a place stands, or zero at the front of the text. -/
def lineBefore (text : String) : Nat → Nat
  | 0 => 0
  | offset + 1 => lineAt text offset

variable {text : String} {offset later start stop : Nat}

/-- Rows never fall. -/
theorem row_le_row (hle : offset ≤ later) : (pointAt text offset).row ≤ (pointAt text later).row := by
  unfold pointAt
  apply List.Sublist.count_le
  exact (List.take_prefix_take_left hle).sublist

/-- The lines of later characters are later ones. -/
theorem lineAt_le_lineAt (hle : offset ≤ later) : lineAt text offset ≤ lineAt text later := by
  have hrows : (pointAt text offset).row ≤ (pointAt text later).row := row_le_row hle
  unfold lineAt
  omega

/-- The line before a place does not lie behind the line at a later one. -/
theorem lineBefore_le_lineAt (hle : offset ≤ later) : lineBefore text offset ≤ lineAt text later := by
  cases offset with
  | zero => exact Nat.zero_le _
  | succ offset => exact lineAt_le_lineAt (by omega)

/-- Where there is a character between two places, its line lies between theirs. -/
theorem lineAt_le_lineBefore (hlt : start < stop) : lineAt text start ≤ lineBefore text stop := by
  cases stop with
  | zero => omega
  | succ stop => exact lineAt_le_lineAt (by omega)

/-- The lines before later places are later ones. -/
theorem lineBefore_le_lineBefore (hle : offset ≤ later) :
    lineBefore text offset ≤ lineBefore text later := by
  cases offset with
  | zero => exact Nat.zero_le _
  | succ offset => exact lineAt_le_lineBefore (by omega)

/-- The line before a place of the text is a line of the text. -/
theorem lineBefore_le_lineCount (hstop : stop ≤ text.length) :
    lineBefore text stop ≤ lineCount text.toList := by
  cases stop with
  | zero => exact Nat.zero_le _
  | succ stop => exact count_feed_take_lt (by rw [String.length_toList]; omega)

end Text

/-! ## Where places lie -/

section Points

variable {text : String} {offset : Nat} {c : Char}

/-- Behind a line feed a new row begins. -/
theorem pointAt_succ_feed (hfeed : text.toList[offset]? = some '\n') :
    pointAt text (offset + 1) = ⟨(pointAt text offset).row + 1, 0⟩ := by
  simp [pointAt, List.take_add_one, hfeed]

/-- Any other character leads on in its row. -/
theorem pointAt_succ (hc : text.toList[offset]? = some c) (hfeed : c ≠ '\n') :
    (pointAt text (offset + 1)).row = (pointAt text offset).row ∧
      0 < (pointAt text (offset + 1)).column := by
  constructor
  · simp [pointAt, List.take_add_one, hc, hfeed]
  · simpa [pointAt, List.take_add_one, hc, hfeed] using Nat.add_pos_right _ c.utf8Size_pos

end Points

/-- A node that holds text spans the lines from that of its first character to that of its last one. -/
theorem Node.lineSpan_eq {node : Node} {source : String} (hstop : node.stop ≤ source.length)
    (hlt : node.start < node.stop) :
    node.lineSpan source = (Text.lineAt source node.start, Text.lineBefore source node.stop) := by
  obtain ⟨last, hlast⟩ := Nat.exists_eq_add_of_lt hlt
  have hinside : node.start + last < source.toList.length := by
    rw [String.length_toList]
    omega
  obtain ⟨c, hc⟩ : ∃ c, source.toList[node.start + last]? = some c :=
    ⟨_, List.getElem?_eq_getElem hinside⟩
  have hrows : (pointAt source node.start).row ≤ (pointAt source (node.start + last)).row :=
    Text.row_le_row (Nat.le_add_right node.start last)
  unfold lineSpan
  rw [hlast, Text.lineBefore, Text.lineAt, Text.lineAt]
  by_cases hfeed : c = '\n'
  · -- The node ends with a line feed, so the row behind it is moved back.
    subst hfeed
    rw [pointAt_succ_feed hc]
    simp only [if_pos (And.intro trivial (Nat.lt_succ_of_le hrows)), Nat.add_sub_cancel]
  · obtain ⟨hrow, hcolumn⟩ := pointAt_succ hc hfeed
    simp only [hrow, Nat.ne_of_gt hcolumn, false_and, if_false]

example : Node.lineSpan "a\nb\nc" ⟨"block", none, true, 0, 4, []⟩ = (1, 2) := by
  decide +kernel

end RuleAudit
