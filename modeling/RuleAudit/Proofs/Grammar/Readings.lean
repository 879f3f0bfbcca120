import RuleAudit.Proofs.Grammar.Places
import RuleAudit.Proofs.Syntax.Trees

/-!
# Readings

A reading is the way from one progress to another by which a text follows a pattern, whatever the
bound on the depth and whatever was tried and given up before. Each answer of the reader is a
reading, and what holds of all readings is shown by following them, step by step. A reading moves
forward, and the end of the latest token stays behind the place reached.
-/

namespace RuleAudit.Grammar

variable {ν : Type}

/-- Whether a pattern can match without any change. -/
def Pattern.canStay : Pattern ν → Bool
  | .nothing | .many _ | .ahead _ | .absent _ | .finish | .lineEnd | .sameLine => true
  | _ => false

/-- A pattern leads from one progress to another. -/
inductive Reads (grammar : Grammar ν) : Pattern ν → Progress → Progress → Prop
  | stay {pattern : Pattern ν} {progress : Progress} (hstay : pattern.canStay = true) :
      Reads grammar pattern progress progress
  | token {lexeme : Lexeme} {progress : Progress} (count : Nat)
      (hlexeme : lexeme (progress.cursor.gap grammar).after.rest = some count) :
      Reads grammar (.token lexeme) progress
        (progress.take (progress.cursor.gap grammar).after count)
  | glued {lexeme : Lexeme} {progress : Progress} (count : Nat)
      (hlexeme : lexeme progress.cursor.rest = some count) :
      Reads grammar (.glued lexeme) progress (progress.take progress.cursor count)
  | rule {name : ν} {progress further : Progress}
      (hrule : Reads grammar (grammar.rule name) progress further) :
      Reads grammar (.rule name) progress further
  | both {first second : Pattern ν} {progress middle further : Progress}
      (hfirst : Reads grammar first progress middle)
      (hsecond : Reads grammar second middle further) :
      Reads grammar (.both first second) progress further
  | left {first second : Pattern ν} {progress further : Progress}
      (hfirst : Reads grammar first progress further) :
      Reads grammar (.either first second) progress further
  | right {first second : Pattern ν} {progress further : Progress}
      (hsecond : Reads grammar second progress further) :
      Reads grammar (.either first second) progress further
  | again {body : Pattern ν} {progress middle further : Progress}
      (hbody : Reads grammar body progress middle)
      (hlater : Reads grammar (.many body) middle further) :
      Reads grammar (.many body) progress further
  | within {loose : Bool} {body : Pattern ν} {progress further : Progress}
      (hbody : Reads grammar body { progress with loose } further) :
      Reads grammar (.within loose body) progress { further with loose := progress.loose }
  | indent {progress : Progress} (indents : List Nat) :
      Reads grammar .indent progress { progress with indents }
  | dedent {progress : Progress} (indents : List Nat) :
      Reads grammar .dedent progress { progress with indents }
  | remark {progress further : Progress} {broken : Bool} {indent : Nat} {stop : Cursor}
      (hremark : (progress.cursor.gap grammar).remark = some (broken, indent, stop))
      (hlater : Reads grammar .dedent { progress with cursor := stop, ended := stop } further) :
      Reads grammar .dedent progress further
  | node {field : Option String} {kind : String} {body : Pattern ν} {progress inner : Progress}
      (hbody : Reads grammar body
        { progress with cursor := (progress.cursor.gap grammar).after, found := [] } inner) :
      Reads grammar (.node field kind body) progress
        (progress.close field kind (progress.cursor.gap grammar).after inner)

/-- What the reader answers is a reading. -/
theorem reads_of_read {grammar : Grammar ν} {depth : Nat} {pattern : Pattern ν}
    {progress further : Progress} (hread : read grammar depth pattern progress = some further) :
    Reads grammar pattern progress further := by
  induction depth generalizing pattern progress further with
  | zero => cases hread
  | succ depth ih =>
    cases pattern with
    | nothing =>
      obtain rfl := Option.some.inj hread
      exact .stay rfl
    | never => cases hread
    | token lexeme =>
      simp only [read, Progress.token] at hread
      split at hread
      · cases hread
      · obtain ⟨count, hlexeme, rfl⟩ := Option.map_eq_some_iff.mp hread
        exact .token count hlexeme
    | glued lexeme =>
      obtain ⟨count, hlexeme, rfl⟩ := Option.map_eq_some_iff.mp hread
      exact .glued count hlexeme
    | rule name => exact .rule (ih hread)
    | both first second =>
      simp only [read] at hread
      split at hread
      · cases hread
      · rename_i middle hfirst
        exact .both (ih hfirst) (ih hread)
    | either first second =>
      simp only [read] at hread
      split at hread
      · rename_i other hfirst
        exact .left (ih (hfirst.trans hread))
      · exact .right (ih hread)
    | many body =>
      simp only [read] at hread
      split at hread
      · obtain rfl := Option.some.inj hread
        exact .stay rfl
      · rename_i middle hbody
        split at hread
        · obtain rfl := Option.some.inj hread
          exact .again (ih hbody) (.stay rfl)
        · exact .again (ih hbody) (ih hread)
    | ahead body =>
      obtain ⟨_, _, rfl⟩ := Option.map_eq_some_iff.mp hread
      exact .stay rfl
    | absent body =>
      simp only [read] at hread
      split at hread
      · obtain rfl := Option.some.inj hread
        exact .stay rfl
      · cases hread
    | finish | lineEnd | sameLine =>
      simp only [read] at hread
      split at hread
      · obtain rfl := Option.some.inj hread
        exact .stay rfl
      · cases hread
    | within loose body =>
      obtain ⟨_, hbody, rfl⟩ := Option.map_eq_some_iff.mp hread
      exact .within (ih hbody)
    | indent =>
      simp only [read] at hread
      split at hread
      · obtain rfl := Option.some.inj hread
        exact .indent _
      · cases hread
    | dedent =>
      simp only [read] at hread
      split at hread
      · rename_i hremark
        split at hread
        · exact .remark hremark (ih hread)
        · split at hread
          · obtain rfl := Option.some.inj hread
            exact .dedent _
          · cases hread
      · split at hread
        · obtain rfl := Option.some.inj hread
          exact .dedent _
        · cases hread
    | node field kind body =>
      simp only [read] at hread
      split at hread
      · cases hread
      · obtain ⟨_, hbody, rfl⟩ := Option.map_eq_some_iff.mp hread
        exact .node (ih hbody)

section

variable {grammar : Grammar ν} {progress further : Progress}

/-- A reading by two patterns is one by the first and then one by the second. -/
theorem Reads.exists_both {first second : Pattern ν}
    (hreads : Reads grammar (.both first second) progress further) :
    ∃ middle, Reads grammar first progress middle ∧ Reads grammar second middle further := by
  cases hreads with
  | stay hstay => cases hstay
  | both hfirst hsecond => exact ⟨_, hfirst, hsecond⟩

/-- A reading by one of two patterns is one by the first or one by the second. -/
theorem Reads.of_either {first second : Pattern ν}
    (hreads : Reads grammar (.either first second) progress further) :
    Reads grammar first progress further ∨ Reads grammar second progress further := by
  cases hreads with
  | stay hstay => cases hstay
  | left hfirst => exact .inl hfirst
  | right hsecond => exact .inr hsecond

/-- A reading by a token takes what its lexeme says, behind the gap ahead. -/
theorem Reads.exists_token {lexeme : Lexeme}
    (hreads : Reads grammar (.token lexeme) progress further) :
    ∃ count, lexeme (progress.cursor.gap grammar).after.rest = some count ∧
      further = progress.take (progress.cursor.gap grammar).after count := by
  cases hreads with
  | stay hstay => cases hstay
  | token count hlexeme => exact ⟨count, hlexeme, rfl⟩

end

/-! ## Moving forward -/

namespace Progress

/-- The latest token ended at the place reached or before. -/
def Settled (progress : Progress) : Prop :=
  progress.ended.UpTo progress.cursor

/-- One progress is further on than another. -/
structure Onward (progress further : Progress) : Prop where
  cursor : progress.cursor.UpTo further.cursor
  ended : progress.ended.UpTo further.ended
  settled : further.Settled

variable {progress middle further : Progress}

/-- A settled progress has come as far as itself. -/
theorem Settled.onward (hsettled : progress.Settled) : progress.Onward progress :=
  ⟨.refl _, .refl _, hsettled⟩

/-- Further on from a progress that is further on. -/
theorem Onward.trans (hfirst : progress.Onward middle) (hsecond : middle.Onward further) :
    progress.Onward further :=
  ⟨hfirst.cursor.trans hsecond.cursor, hfirst.ended.trans hsecond.ended, hsecond.settled⟩

/-- A token that begins further on leads on. -/
theorem Settled.onward_take (hsettled : progress.Settled) {start : Cursor}
    (hstart : progress.cursor.UpTo start) (count : Nat) :
    progress.Onward (progress.take start count) := by
  have hto := hstart.trans (start.upTo_advance count)
  unfold take
  by_cases hcount : count = 0
  · simp only [if_pos hcount]
    exact ⟨hto, .refl _, Cursor.UpTo.trans hsettled hto⟩
  · simp only [if_neg hcount]
    exact ⟨hto, Cursor.UpTo.trans hsettled hto, .refl _⟩

/-- Closing a node does not move on. -/
@[simp] theorem close_cursor (field : Option String) (kind : String) (start : Cursor)
    (outer inner : Progress) : (outer.close field kind start inner).cursor = inner.cursor := by
  unfold close
  split <;> rfl

/-- Closing a node takes no token. -/
@[simp] theorem close_ended (field : Option String) (kind : String) (start : Cursor)
    (outer inner : Progress) : (outer.close field kind start inner).ended = inner.ended := by
  unfold close
  split <;> rfl

/-- What a node is closed to: the node stands in front of those found before it, or it has no text. -/
theorem found_close_cases (field : Option String) (kind : String) (start : Cursor)
    (outer inner : Progress) :
    start.offset < inner.ended.offset ∧
        (outer.close field kind start inner).found = inner.node field kind start :: outer.found ∨
      (outer.close field kind start inner).found = outer.found := by
  unfold close
  split
  · rename_i htext
    exact .inl ⟨htext, rfl⟩
  · exact .inr rfl

/-- A property of all nodes found so far, at any depth. -/
def EachFound (property : Node → Prop) (progress : Progress) : Prop :=
  ∀ root ∈ progress.found, ∀ node, root.Below node → property node

/-- What holds of all nodes before a node and of those inside it, and of the node itself if it has any
text, holds of all nodes when it is closed. -/
theorem EachFound.close {property : Node → Prop} {field : Option String} {kind : String}
    {start : Cursor} {outer inner : Progress} (houter : outer.EachFound property)
    (hinner : inner.EachFound property)
    (hnode : start.offset < inner.ended.offset → property (inner.node field kind start)) :
    (outer.close field kind start inner).EachFound property := by
  unfold EachFound
  rcases found_close_cases field kind start outer inner with ⟨htext, hfound⟩ | hfound
  · rw [hfound, List.forall_mem_cons]
    refine ⟨fun node hbelow => ?_, houter⟩
    rcases Node.below_iff.mp hbelow with rfl | ⟨child, hchild, hbelow⟩
    · exact hnode htext
    · exact hinner child (List.mem_reverse.mp hchild) node hbelow
  · rw [hfound]
    exact houter

end Progress

section

variable {grammar : Grammar ν} {pattern : Pattern ν} {progress further : Progress}

/-- Going on behind a comment leads on. -/
theorem Progress.Settled.onward_remark (hsettled : progress.Settled) {broken : Bool} {indent : Nat}
    {stop : Cursor}
    (hremark : (progress.cursor.gap grammar).remark = some (broken, indent, stop)) :
    progress.Onward { progress with cursor := stop, ended := stop } := by
  obtain ⟨hto, _⟩ := (progress.cursor.follows_gap grammar).remark broken indent stop hremark
  exact ⟨hto, Cursor.UpTo.trans hsettled hto, .refl stop⟩

/-- Going on to the next token, where a node begins, leads on. -/
theorem Progress.Settled.onward_node (grammar : Grammar ν) (hsettled : progress.Settled) :
    progress.Onward
      { progress with cursor := (progress.cursor.gap grammar).after, found := [] } := by
  have hto := progress.cursor.upTo_gap grammar
  exact ⟨hto, .refl _, Cursor.UpTo.trans hsettled hto⟩

/-- A reading leads on. -/
theorem Reads.onward (hreads : Reads grammar pattern progress further)
    (hsettled : progress.Settled) : progress.Onward further := by
  induction hreads with
  | stay _ => exact hsettled.onward
  | @token _ progress count =>
    exact hsettled.onward_take (progress.cursor.upTo_gap grammar) count
  | glued count => exact hsettled.onward_take (.refl _) count
  | rule _ ih | left _ ih | right _ ih => exact ih hsettled
  | both _ _ ihfirst ihsecond | again _ _ ihfirst ihsecond =>
    have hfirst := ihfirst hsettled
    exact hfirst.trans (ihsecond hfirst.settled)
  | within _ ih =>
    obtain ⟨hcursor, hended, hfurther⟩ := ih hsettled
    exact ⟨hcursor, hended, hfurther⟩
  | indent _ | dedent _ => exact ⟨.refl _, .refl _, hsettled⟩
  | remark hremark _ ih =>
    have hstop := hsettled.onward_remark hremark
    exact hstop.trans (ih hstop.settled)
  | node _ ih =>
    have hbegin := hsettled.onward_node grammar
    obtain ⟨hcursor, hended, hinner⟩ := hbegin.trans (ih hbegin.settled)
    refine ⟨?_, ?_, ?_⟩
    · rwa [Progress.close_cursor]
    · rwa [Progress.close_ended]
    · unfold Progress.Settled
      rwa [Progress.close_cursor, Progress.close_ended]

end

end RuleAudit.Grammar
