import RuleAudit.Proofs.Grammar.Lexemes
import RuleAudit.Proofs.Grammar.Nesting

/-!
# Nodes that end on written lines

A node ends with its latest token, so the line on which it ends is not empty if every token that can be
the last one of a node ends marked. Patterns tell which tokens these are: what a pattern takes ends as
its last part does, or as the parts before it if that one may be missing. Each nonterminal promises how
its text ends, and a reading keeps these promises.
-/

namespace RuleAudit

/-- Where a text ends marked, the line of its last character is not empty. -/
theorem Text.EndsMarked.isWritten {characters : List Char} {stop : Nat}
    (hends : EndsMarked (characters.take stop)) :
    IsWritten characters ((characters.take (stop - 1)).count '\n') := by
  induction characters generalizing stop with
  | nil =>
    rw [List.take_nil] at hends
    cases hends
  | cons c rest ih =>
    cases stop with
    | zero => cases hends
    | succ stop =>
      rw [Nat.add_sub_cancel]
      rcases hends with hends | ⟨hmark, hfeed⟩
      · cases stop with
        | zero => cases hends
        | succ stop =>
          have hwritten := ih hends
          rw [List.take_succ_cons, List.count_cons]
          by_cases hc : c = '\n'
          · subst hc
            simpa using hwritten.feed
          · simpa [hc] using hwritten.cons hc
      · -- The mark is the last character but for others on its line.
        have hcount : ((c :: rest).take stop).count '\n' = 0 := by
          apply List.count_eq_zero.mpr
          intro hmem
          cases stop with
          | zero => cases hmem
          | succ stop =>
            rw [List.take_succ_cons] at hmem
            rcases List.mem_cons.mp hmem with rfl | hmem
            · exact hmark.1 rfl
            · exact hfeed ((List.take_prefix_take_left (Nat.le_succ stop)).subset hmem)
        rw [hcount]
        exact isWritten_zero hmark rest

namespace Grammar

variable {ν : Type}

/-! ## Comments in gaps -/

section Comments

variable (grammar : Grammar ν)

/-- A comment that begins at a place or further on ends there. -/
def EndsComment (here stop : Cursor) : Prop :=
  ∃ start count, here.UpTo start ∧ grammar.comment start.rest = some count ∧
    stop = start.advance count

/-- Where a gap remembers the end of a comment, and where the first comment ends that is still open, a
comment ends. -/
theorem endsComment_gapThrough {here : Cursor} (text : List Char) (pending : Nat)
    (first : Option (Bool × Nat)) (gap : Gap) (hrest : gap.after.rest = text)
    (hafter : here.UpTo gap.after)
    (hpending : first.isSome → EndsComment grammar here (gap.after.advance pending))
    (hgap : ∀ broken indent stop, gap.remark = some (broken, indent, stop) →
      EndsComment grammar here stop)
    {broken : Bool} {indent : Nat} {stop : Cursor}
    (hremark : (gapThrough grammar text pending first gap).remark = some (broken, indent, stop)) :
    EndsComment grammar here stop := by
  fun_induction gapThrough grammar text pending first gap with
  | case1 => exact hgap _ _ _ hremark
  | case2 c rest pending first gap after remark ih =>
    refine ih rfl (hafter.next hrest) (fun hfirst => ?_) (fun broken indent stop hstop => ?_) hremark
    · rw [← Cursor.advance_succ hrest]
      exact hpending hfirst
    · have hstop : remark = some (broken, indent, stop) := hstop
      rcases (eq_remark_or rfl : remark = gap.remark ∨ _) with hkept | ⟨hzero, hfirst, _, _, hended⟩
      · exact hgap _ _ _ (hkept.symm.trans hstop)
      · obtain rfl : after = stop := by simp_all
        have hend := hpending hfirst
        rwa [Cursor.advance_succ hrest, hzero] at hend
  | case3 first c rest gap after hblank ih =>
    exact ih rfl (hafter.next hrest) (fun hopen => by cases hopen) hgap hremark
  | case4 first c rest gap after hblank joined more hjoined ih =>
    exact ih rfl (hafter.next hrest) (fun hopen => by cases hopen) hgap hremark
  | case5 before c rest gap after hblank joined more hcomment hjoined first remark ih =>
    have hbegun : EndsComment grammar here (after.advance more) := by
      refine ⟨gap.after, more + 1, hafter, by rw [hrest]; exact hcomment, ?_⟩
      rw [Cursor.advance_succ hrest]
    refine ih rfl (hafter.next hrest) (fun _ => hbegun) (fun broken indent stop hstop => ?_) hremark
    have hstop : remark = some (broken, indent, stop) := hstop
    rcases (eq_remark_or rfl : remark = gap.remark ∨ _) with hkept | ⟨hzero, _, _, _, hended⟩
    · exact hgap _ _ _ (hkept.symm.trans hstop)
    · obtain rfl : after = stop := by simp_all
      rwa [hzero] at hbegun
  | case6 => exact hgap _ _ _ hremark

/-- Where a gap remembers the end of a comment, a comment ends. -/
theorem Cursor.endsComment_of_remark {here : Cursor} {broken : Bool} {indent : Nat} {stop : Cursor}
    (hremark : (here.gap grammar).remark = some (broken, indent, stop)) :
    EndsComment grammar here stop :=
  endsComment_gapThrough grammar here.rest 0 none { after := here } rfl (.refl here) (by simp)
    (by simp) hremark

end Comments

/-! ## How patterns end -/

namespace Closing

variable {closing weaker : Closing}

/-- What has to be known of the text that follows, for the text before it to end so, if that text may
be missing. -/
def further : Closing → Closing
  | .loose => .loose
  | .steady | .sure => .steady

@[simp] theorem further_loose : further .loose = .loose := rfl

@[simp] theorem further_steady : further .steady = .steady := rfl

@[simp] theorem further_sure : further .sure = .steady := rfl

@[simp] theorem covers_loose : closing.covers .loose = true := by
  cases closing <;> rfl

@[simp] theorem steady_covers_steady : covers .steady .steady = true := rfl

/-- Who knows more of the text needs more of what follows. -/
theorem covers_further (hcovers : closing.covers weaker) : closing.further.covers weaker.further := by
  cases closing <;> cases weaker <;> simp_all [covers, further]

/-- Who knows of one way knows of each way of which less is known. -/
theorem covers_trans {strong : Closing} (hfirst : strong.covers closing)
    (hsecond : closing.covers weaker) : strong.covers weaker := by
  cases strong <;> cases closing <;> cases weaker <;> simp_all [covers]

/-- Nothing is more than sure. -/
theorem eq_sure_of_covers (hcovers : weaker.covers .sure) : weaker = .sure := by
  cases weaker <;> simp_all [covers]

end Closing

/-- A lexeme that ends in one way also ends in each way of which less is known. -/
theorem Lexeme.Ends.weaken {closing weaker : Closing} {lexeme : Lexeme}
    (hlexeme : Lexeme.Ends closing lexeme) (hcovers : closing.covers weaker) :
    Lexeme.Ends weaker lexeme := by
  cases weaker with
  | loose => exact ends_loose
  | steady =>
    cases closing with
    | loose => cases hcovers
    | steady => exact hlexeme
    | sure => exact hlexeme.of_sure
  | sure =>
    rw [Closing.eq_sure_of_covers hcovers] at hlexeme
    exact hlexeme

namespace Pattern

/-- The text that a pattern takes ends so, if that of each nonterminal ends as promised; and that of
each node in the pattern ends marked. -/
@[simp] def Ends (promised : ν → Closing) (closing : Closing) : Pattern ν → Prop
  | .never => True
  | .nothing | .ahead _ | .absent _ | .finish | .lineEnd | .sameLine | .indent | .dedent =>
    closing ≠ .sure
  | .token lexeme | .glued lexeme => Lexeme.Ends closing lexeme
  | .rule name => (promised name).covers closing
  | .both first second =>
    first.Ends promised closing ∧ second.Ends promised closing.further ∨
      first.Ends promised .loose ∧ second.Ends promised .sure
  | .either first second => first.Ends promised closing ∧ second.Ends promised closing
  | .many body => closing ≠ .sure ∧ body.Ends promised closing
  | .within _ body => body.Ends promised closing
  | .node _ _ body => body.Ends promised .steady ∧ body.Ends promised closing

variable {promised : ν → Closing} {closing weaker : Closing} {pattern first : Pattern ν}
  {later : List (Pattern ν)}

/-- A pattern that ends in one way also ends in each way of which less is known. -/
theorem Ends.weaken (hpattern : pattern.Ends promised closing) (hcovers : closing.covers weaker) :
    pattern.Ends promised weaker := by
  have hsure (hclosing : closing ≠ .sure) : weaker ≠ .sure := by
    rintro rfl
    exact hclosing (Closing.eq_sure_of_covers hcovers)
  induction pattern generalizing closing weaker with
  | never => trivial
  | nothing | ahead | absent | finish | lineEnd | sameLine | indent | dedent => exact hsure hpattern
  | token lexeme | glued lexeme => exact Lexeme.Ends.weaken hpattern hcovers
  | rule name => exact Closing.covers_trans hpattern hcovers
  | both first second ihfirst ihsecond =>
    refine hpattern.imp (fun ⟨hfirst, hsecond⟩ => ⟨ihfirst hfirst hcovers hsure, ?_⟩) id
    exact ihsecond hsecond (Closing.covers_further hcovers) fun _ => by cases weaker <;> nofun
  | either first second ihfirst ihsecond =>
    exact ⟨ihfirst hpattern.1 hcovers hsure, ihsecond hpattern.2 hcovers hsure⟩
  | many body ih => exact ⟨hsure hpattern.1, ih hpattern.2 hcovers hsure⟩
  | within _ body ih => exact ih hpattern hcovers hsure
  | node _ _ body ih => exact ⟨hpattern.1, ih hpattern.2 hcovers hsure⟩

/-- A token that is a word or else an operator ends with a mark if its text does. -/
theorem ends_ite_token {condition : Prop} [Decidable condition] {continues : Char → Bool}
    {operators : List String} {text : String} (htext : Text.EndsMarked text.toList) :
    (if condition then .token (Lexeme.word continues text.toList)
      else .token (Lexeme.operator operators text) : Pattern ν).Ends promised closing := by
  split
  · exact Lexeme.ends_word htext
  · exact Lexeme.ends_operator htext

/-- An empty sequence takes no text. -/
@[simp] theorem ends_seq_nil : (seq ([] : List (Pattern ν))).Ends promised closing ↔ closing ≠ .sure :=
  Iff.rfl

/-- A sequence ends as its parts behind the first one do, or as the first one if they may be
missing. -/
@[simp] theorem ends_seq_cons :
    (seq (first :: later)).Ends promised closing ↔
      first.Ends promised closing ∧ (seq later).Ends promised closing.further ∨
        first.Ends promised .loose ∧ (seq later).Ends promised .sure := by
  cases later with
  | nil =>
    have hfurther : closing.further ≠ .sure := by cases closing <;> nofun
    simp [seq, Ends, hfurther]
  | cons => rfl

/-- Where there is no choice, any text ends as wanted. -/
@[simp] theorem ends_alt_nil : (alt ([] : List (Pattern ν))).Ends promised closing :=
  trivial

/-- A choice ends in each of the ways in which all its patterns end. -/
@[simp] theorem ends_alt_cons :
    (alt (first :: later)).Ends promised closing ↔
      first.Ends promised closing ∧ (alt later).Ends promised closing := by
  cases later with
  | nil => simp [alt, Ends]
  | cons => rfl

/-- A pattern that may be missing takes no text for sure. -/
@[simp] theorem ends_opt : (opt pattern).Ends promised closing ↔
    pattern.Ends promised closing ∧ closing ≠ .sure :=
  Iff.rfl

/-- A pattern that can match without any change takes no text for sure. -/
theorem Ends.ne_sure_of_canStay (hpattern : pattern.Ends promised closing)
    (hstay : pattern.canStay = true) : closing ≠ .sure := by
  cases pattern with
  | nothing | ahead | absent | finish | lineEnd | sameLine => exact hpattern
  | many => exact hpattern.1
  | _ => cases hstay

end Pattern

/-- The nodes of a pattern end marked. -/
theorem Pattern.Ends.eachNode {promised : ν → Closing} {closing : Closing} {pattern : Pattern ν}
    (hpattern : pattern.Ends promised closing) :
    pattern.EachNode fun _ _ body => body.Ends promised .steady := by
  induction pattern generalizing closing with
  | node _ _ body ih => exact ⟨hpattern.1, ih hpattern.2⟩
  | both first second ihfirst ihsecond =>
    rcases hpattern with ⟨hfirst, hsecond⟩ | ⟨hfirst, hsecond⟩
    · exact ⟨ihfirst hfirst, ihsecond hsecond⟩
    · exact ⟨ihfirst hfirst, ihsecond hsecond⟩
  | either first second ihfirst ihsecond => exact ⟨ihfirst hpattern.1, ihsecond hpattern.2⟩
  | many body ih => exact ih hpattern.2
  | within _ body ih => exact ih hpattern
  | _ => trivial

/-- A grammar keeps what is promised of its nonterminals, and its comments end marked. -/
structure EndsAsPromised (grammar : Grammar ν) (promised : ν → Closing) : Prop where
  rule : ∀ name, (grammar.rule name).Ends promised (promised name)
  comment : Lexeme.Ends .sure grammar.comment

/-! ## How readings end -/

section Readings

variable {grammar : Grammar ν} {promised : ν → Closing} {closing : Closing} {pattern : Pattern ν}
  {progress further : Progress} {text : String}

/-- Of the latest token it is known how the text up to its end ends. -/
def Progress.EndsSo (text : String) (closing : Closing) (progress further : Progress) : Prop :=
  closing = .steady ∧ further.ended = progress.ended ∨
    Text.EndsMarked (text.toList.take further.ended.offset)

/-- Where no token was taken, nothing has to be known. -/
theorem Progress.endsSo_of_eq (hknown : closing ≠ .loose) (hsure : closing ≠ .sure)
    (hended : further.ended = progress.ended) : Progress.EndsSo text closing progress further := by
  left
  cases closing with
  | loose => exact absurd rfl hknown
  | steady => exact ⟨rfl, hended⟩
  | sure => exact absurd rfl hsure

/-- What ends marked surely does so behind any text. -/
theorem Progress.EndsSo.marked (hends : Progress.EndsSo text .sure progress further) :
    Text.EndsMarked (text.toList.take further.ended.offset) := by
  rcases hends with ⟨hsteady, _⟩ | hmarked
  · cases hsteady
  · exact hmarked

/-- Where a lexeme stands that ends marked, the text ends marked behind it. -/
theorem endsMarked_advance {here : Cursor} (htext : (Cursor.inText text 0).UpTo here) {count : Nat}
    (hends : Text.EndsMarked (here.rest.take count)) :
    Text.EndsMarked (text.toList.take (here.advance count).offset) := by
  rw [Cursor.take_offset_advance htext]
  exact hends.append _

/-- A token ends as its lexeme does. -/
theorem Progress.endsSo_take {lexeme : Lexeme} (hlexeme : Lexeme.Ends closing lexeme)
    (hknown : closing ≠ .loose) {place : Cursor} {count : Nat}
    (hcount : lexeme place.rest = some count) (htext : (Cursor.inText text 0).UpTo place) :
    Progress.EndsSo text closing progress (progress.take place count) := by
  unfold take
  rcases hlexeme hknown _ _ hcount with ⟨hsteady, hzero⟩ | hends
  · left
    exact ⟨hsteady, if_pos hzero⟩
  · right
    have hne : count ≠ 0 := by
      rintro rfl
      cases hends
    simp only [if_neg hne]
    exact endsMarked_advance htext hends

/-- A reading ends as its pattern does, if the grammar keeps its promises. -/
theorem Reads.endsSo (hgrammar : EndsAsPromised grammar promised)
    (hreads : Reads grammar pattern progress further) (hpattern : pattern.Ends promised closing)
    (hknown : closing ≠ .loose) (hsettled : progress.Settled)
    (htext : (Cursor.inText text 0).UpTo progress.cursor) :
    Progress.EndsSo text closing progress further := by
  induction hreads generalizing closing with
  | stay hstay => exact Progress.endsSo_of_eq hknown (hpattern.ne_sure_of_canStay hstay) rfl
  | @token _ progress count hcount =>
    exact Progress.endsSo_take hpattern hknown hcount
      (htext.trans (progress.cursor.upTo_gap grammar))
  | glued count hcount => exact Progress.endsSo_take hpattern hknown hcount htext
  | @rule name _ _ _ ih => exact ih ((hgrammar.rule name).weaken hpattern) hknown hsettled htext
  | both hfirst _ ihfirst ihsecond =>
    have hmiddle := hfirst.onward hsettled
    have hplace := htext.trans hmiddle.cursor
    rcases hpattern with ⟨hleft, hright⟩ | ⟨_, hright⟩
    · have hfurther : closing.further ≠ .loose := by
        cases closing with
        | loose => exact absurd rfl hknown
        | steady | sure => nofun
      rcases ihsecond hright hfurther hmiddle.settled hplace with ⟨_, hsame⟩ | hmarked
      · unfold Progress.EndsSo
        rw [hsame]
        exact ihfirst hleft hknown hsettled htext
      · exact .inr hmarked
    · -- The second part surely ends marked, whatever stands before it.
      exact .inr (ihsecond hright nofun hmiddle.settled hplace).marked
  | left _ ih => exact ih hpattern.1 hknown hsettled htext
  | right _ ih => exact ih hpattern.2 hknown hsettled htext
  | again hbody _ ihbody ihlater =>
    have hmiddle := hbody.onward hsettled
    rcases ihlater hpattern hknown hmiddle.settled (htext.trans hmiddle.cursor) with
      ⟨_, hsame⟩ | hmarked
    · unfold Progress.EndsSo
      rw [hsame]
      exact ihbody hpattern.2 hknown hsettled htext
    · exact .inr hmarked
  | within _ ih => exact ih hpattern hknown hsettled htext
  | indent _ | dedent _ => exact Progress.endsSo_of_eq hknown hpattern rfl
  | @remark progress _ _ _ stop hremark _ ih =>
    obtain ⟨begin, count, hbegin, hcomment, rfl⟩ :=
      progress.cursor.endsComment_of_remark grammar hremark
    have hstop := hsettled.onward_remark hremark
    rcases ih hpattern hknown hstop.settled (htext.trans hstop.cursor) with ⟨_, hsame⟩ | hmarked
    · right
      rw [hsame]
      rcases hgrammar.comment nofun _ _ hcomment with ⟨hsteady, _⟩ | hends
      · cases hsteady
      · exact endsMarked_advance (htext.trans hbegin) hends
    · exact .inr hmarked
  | node _ ih =>
    have hbegin := hsettled.onward_node grammar
    unfold Progress.EndsSo
    rw [Progress.close_ended]
    exact ih hpattern.2 hknown hbegin.settled (htext.trans hbegin.cursor)

/-- A node ends marked if its body does. -/
theorem gives_endsMarked (hgrammar : EndsAsPromised grammar promised) {field : Option String}
    {kind : String} {body : Pattern ν} (hbody : body.Ends promised .steady) :
    grammar.Gives text (fun node => Text.EndsMarked (text.toList.take node.stop)) field kind body := by
  intro progress inner hfills
  rcases hfills.reads.endsSo hgrammar hbody nofun hfills.settled hfills.inText with
    ⟨_, hsame⟩ | hmarked
  · have hended : progress.ended.offset ≤ progress.cursor.offset := hfills.settled.offset_le
    have hmoved := hfills.moved
    rw [hsame] at hmoved
    omega
  · exact hmarked

end Readings

/-- If a grammar keeps its promises, the last lines of all regions of a text are not empty. -/
theorem isWritten_of_tree? {grammar : Grammar ν} {promised : ν → Closing}
    (hgrammar : EndsAsPromised grammar promised) {text : String} {root : Node}
    (htree : grammar.tree? text = some root) {dialect : Dialect} {region : Region}
    (hregion : region ∈ Region.preorderOfAll (dialect.regionsBelow text root)) :
    Text.IsWritten text.toList (region.lastLine - 1) := by
  obtain ⟨child, hchild, node, inner, hnode, hsome⟩ :=
    dialect.exists_node_of_regionsOf text root.children region hregion
  have hgives : grammar.AllNodes (grammar.Gives text fun node =>
      Text.EndsMarked (text.toList.take node.stop)) :=
    fun name => (hgrammar.rule name).eachNode.imp fun _ _ _ => gives_endsMarked hgrammar
  have hmarked := forall_below_of_tree? hgives htree child hchild node hnode
  obtain ⟨_, hspan, hstop, _⟩ := Node.of_below_of_between (between_of_tree? htree) hchild hnode
  obtain ⟨_, _, _, hspanning⟩ := Dialect.region?_eq_some_iff.mp hsome
  obtain ⟨last, hlast⟩ := Nat.exists_eq_add_of_lt hspan
  rw [Node.lineSpan_eq hstop hspan, Region.spanning,
    Nat.max_eq_left (Text.lineAt_le_lineBefore hspan)] at hspanning
  have hwritten := hmarked.isWritten
  rw [hspanning]
  rw [hlast] at hwritten ⊢
  exact hwritten

end Grammar

end RuleAudit
