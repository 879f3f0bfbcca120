import Mathlib.Data.List.DropRight
import RuleAudit.Proofs.Grammar.Beginnings
import RuleAudit.Proofs.Grammar.Nesting

/-!
# How regions are named

A region is named by a node inside it: by the text of that node up to its first `<`, trimmed. A node
begins with a token, so its text begins with no blank, and the name is empty exactly if the first
character of the node is that `<`. In which languages this can happen is told by the patterns: what the
bodies of the nodes in the field for names begin with, and which word an extension of a type holds before
that type.
-/

namespace RuleAudit

/-! ## Trimmed texts -/

namespace Text

/-- Trimming leaves nothing to be trimmed. -/
theorem trimChars_trimChars (characters : List Char) :
    trimChars (trimChars characters) = trimChars characters := by
  -- What is left after trimming the end begins as before, so there is nothing to be dropped.
  have hkept : (trimChars characters).dropWhile isBlank = trimChars characters := by
    refine List.dropWhile_eq_self_iff.mpr fun hpos => ?_
    have hstands : trimChars characters <+: characters.dropWhile isBlank :=
      List.rdropWhile_prefix isBlank _
    rw [hstands.getElem hpos]
    exact List.dropWhile_get_zero_not isBlank characters (Nat.lt_of_lt_of_le hpos hstands.length_le)
  rw [trimChars, hkept]
  exact List.rdropWhile_idempotent isBlank _

/-- Trimming a trimmed text changes nothing. -/
theorem trim_trim (text : String) : trim (trim text) = trim text := by
  rw [trim, trim, String.toList_ofList, trimChars_trimChars]

/-- A text that begins with a character other than a blank is not trimmed away. -/
theorem trimChars_cons_ne_nil {c : Char} (hblank : isBlank c = false) (rest : List Char) :
    trimChars (c :: rest) ≠ [] := by
  intro hnil
  rw [trimChars, List.dropWhile_cons_of_neg (by simp [hblank])] at hnil
  have hall := List.rdropWhile_eq_nil_iff.mp hnil c List.mem_cons_self
  simp [hblank] at hall

end Text

/-- A text that begins with a character other than a blank gives an empty name exactly if that
character is `<`. -/
theorem titleOf_eq_empty_iff {c : Char} (hblank : Text.isBlank c = false) (rest : List Char) :
    titleOf (String.ofList (c :: rest)) = "" ↔ c = '<' := by
  have hempty (characters : List Char) :
      Text.trim (String.ofList characters) = "" ↔ Text.trimChars characters = [] := by
    rw [Text.trim, String.toList_ofList, String.ofList_eq_empty_iff]
  rw [titleOf, String.toList_ofList, hempty]
  by_cases hc : c = '<'
  · simp [hc, Text.trimChars, Text.trimEndChars]
  · rw [List.takeWhile_cons_of_pos (by simpa using hc)]
    exact iff_of_false (Text.trimChars_cons_ne_nil hblank _) hc

/-! ## Nodes that give names -/

/-- Before the nodes inside it the node holds the word. -/
def Node.Headed (text : String) (word : List Char) (node : Node) : Prop :=
  ∃ offset, node.start ≤ offset ∧ word <+: text.toList.drop offset ∧
    ∀ child ∈ node.children, offset + word.length ≤ child.start

/-- What the names of regions rest on: a node begins with no blank and a name not with `<`, and an
extension of a type holds its keyword before the nodes inside it. -/
structure Node.Titled (dialect : Dialect) (text : String) (node : Node) : Prop where
  begins : ∃ c, text.toList[node.start]? = some c ∧ Text.isBlank c = false
  name : node.field = some "name" → text.toList[node.start]? ≠ some '<'
  extension : dialect = .rust → node.kind = "impl_item" → node.Headed text "impl".toList

namespace Grammar

variable {ν : Type} {grammar : Grammar ν} {text : String} {field : Option String} {kind : String}
  {body before later : Pattern ν}

/-- Before the nodes that the pattern finds it takes the word. -/
def Pattern.Headed (grammar : Grammar ν) (word : List Char) (pattern : Pattern ν) : Prop :=
  ∀ ⦃progress further : Progress⦄, Reads grammar pattern progress further → progress.Settled →
    ∃ (place : Cursor) (nodes : List Node), progress.cursor.UpTo place ∧ word <+: place.rest ∧
      further.found = nodes.reverse ++ progress.found ∧
      ∀ node ∈ nodes, place.offset + word.length ≤ node.start

/-- A pattern that takes a word after tokens that may be missing. -/
theorem headed_both {first lexeme : Lexeme} {word : List Char}
    (hlexeme : ∀ text count, lexeme text = some count → word <+: text ∧ count = word.length) :
    (Pattern.both (.opt (.token first)) (.both (.token lexeme) later)).Headed grammar word := by
  intro progress further hreads hsettled
  obtain ⟨middle, hfirst, hsecond⟩ := hreads.exists_both
  have hmiddle := hfirst.onward hsettled
  have hkept : middle.found = progress.found := by
    rcases hfirst.of_either with htoken | hnothing
    · obtain ⟨_, _, rfl⟩ := htoken.exists_token
      rfl
    · cases hnothing
      rfl
  obtain ⟨behind, hword, hrest⟩ := hsecond.exists_both
  have hbehind := hword.onward hmiddle.settled
  obtain ⟨count, hcount, rfl⟩ := hword.exists_token
  obtain ⟨hstands, rfl⟩ := hlexeme _ _ hcount
  obtain ⟨nodes, hfound, hbetween⟩ := hrest.exists_gains hbehind.settled
  refine ⟨_, nodes, hmiddle.cursor.trans (middle.cursor.upTo_gap grammar), hstands, ?_, ?_⟩
  · rw [hfound, ← hkept]
    rfl
  · intro node hnode
    have hstart : ((middle.cursor.gap grammar).after.advance word.length).offset ≤ node.start :=
      (hbetween.of_mem hnode).1
    rw [Cursor.offset_advance, Nat.min_eq_left hstands.length_le] at hstart
    exact hstart

/-- What the names of regions rest on, told of a pattern that is a node. -/
def Pattern.Titles (grammar : Grammar ν) (dialect : Dialect) (field : Option String) (kind : String)
    (body : Pattern ν) : Prop :=
  (field = .some "name" → body.Begins grammar (· != '<')) ∧
    (dialect = .rust → kind = "impl_item" → body.Headed grammar "impl".toList)

/-- Where a body takes text, the text begins with a character that is no blank of the grammar. -/
theorem Fills.exists_cons {progress inner : Progress}
    (hfills : Fills grammar text body progress inner) :
    ∃ c rest, progress.cursor.rest = c :: rest ∧ grammar.isBlank c = false ∧
      text.toList[progress.cursor.offset]? = some c := by
  have hrest : progress.cursor.rest = text.toList.drop progress.cursor.offset :=
    hfills.inText.rest_eq
  have hinner := (hfills.reads.onward hfills.settled).settled
  have hto := hfills.inText.trans (hfills.reads.onward hfills.settled).cursor
  have hlt : progress.cursor.offset < text.toList.length := by
    have hended : inner.ended.offset ≤ inner.cursor.offset := hinner.offset_le
    have htext := hto.offset_le_text
    have hmoved := hfills.moved
    rw [String.length_toList]
    omega
  have hcons := hrest.trans (List.drop_eq_getElem_cons hlt)
  exact ⟨_, _, hcons, Cursor.isBlank_eq_false_of_gap hfills.atToken hcons,
    List.getElem?_eq_getElem hlt⟩

/-- The nodes of a text are as their patterns tell. -/
theorem Pattern.Titles.gives {dialect : Dialect}
    (hblanks : ∀ c, Text.isBlank c = true → grammar.isBlank c = true)
    (htitles : Titles grammar dialect field kind body) :
    grammar.Gives text (Node.Titled dialect text) field kind body := by
  intro progress inner hfills
  obtain ⟨c, rest, hrest, hblank, hc⟩ := hfills.exists_cons
  constructor
  · refine ⟨c, hc, ?_⟩
    by_contra htrimmed
    rw [Bool.not_eq_false] at htrimmed
    rw [hblanks c htrimmed] at hblank
    cases hblank
  · intro hname hangle
    have hbegins := htitles.1 hname hfills.reads
    rw [hfills.atToken, hrest, List.head?_cons, Option.any_some] at hbegins
    have hsame : c = '<' := Option.some.inj (hc.symm.trans hangle)
    simp [hsame] at hbegins
  · intro hdialect hkind
    obtain ⟨place, nodes, hplace, hword, hfound, hnodes⟩ :=
      htitles.2 hdialect hkind hfills.reads hfills.settled
    have hrest : place.rest = text.toList.drop place.offset := (hfills.inText.trans hplace).rest_eq
    refine ⟨place.offset, hplace.offset_le, hrest ▸ hword, fun child hchild => ?_⟩
    have hmem := List.mem_reverse.mp hchild
    rw [hfound, hfills.fresh, List.append_nil] at hmem
    exact hnodes child (List.mem_reverse.mp hmem)

/-! ## Names of regions -/

/-- The text from one place to another. -/
def Cursor.textUpTo (start stop : Cursor) : String :=
  String.ofList (start.rest.take (stop.offset - start.offset))

/-- On the way from one place to another the word stands. -/
def Cursor.Passes (start : Cursor) (word : List Char) (place : Cursor) : Prop :=
  ∃ here : Cursor, start.UpTo here ∧ word <+: here.rest ∧ (here.advance word.length).UpTo place

/-- A region is named by the text between two places: they lie one after the other behind the place
where the region begins, which lies on its first line. -/
structure NamedAt (text : String) (region : Region) (start place stop : Cursor) : Prop where
  start_reached : Cursor.UpTo { rest := text.toList } start
  firstLine_eq : region.firstLine = Text.lineAt text start.offset
  place_reached : start.UpTo place
  stop_reached : place.UpTo stop
  moved : place.offset < stop.offset
  name_eq : region.name = titleOf (place.textUpTo stop)

/-- The name of a region is trimmed. -/
theorem NamedAt.trim_name {region : Region} {start place stop : Cursor}
    (hnamed : NamedAt text region start place stop) : Text.trim region.name = region.name := by
  rw [hnamed.name_eq]
  exact Text.trim_trim _

/-- Behind a word that a node holds before the nodes inside it, each of these is reached. -/
theorem passes_of_headed {node child : Node} {word : List Char} (hnode : node.Headed text word)
    (hchild : child ∈ node.children) (htext : child.start ≤ text.length) :
    (Cursor.inText text node.start).Passes word (Cursor.inText text child.start) := by
  obtain ⟨offset, hstart, hword, hchildren⟩ := hnode
  have hbehind := hchildren child hchild
  have hfront : (Cursor.inText text 0).UpTo (Cursor.inText text offset) :=
    Cursor.upTo_inText (Nat.zero_le _) (by omega)
  have hend : ((Cursor.inText text offset).advance word.length).offset = offset + word.length := by
    have hfits : word.length ≤ (Cursor.inText text offset).rest.length := hword.length_le
    rw [Cursor.offset_advance, Nat.min_eq_left hfits, Cursor.inText]
  refine ⟨Cursor.inText text offset, Cursor.upTo_inText hstart (by omega), hword, ?_⟩
  rw [(hfront.trans (Cursor.upTo_advance _ word.length)).eq_inText, hend]
  exact Cursor.upTo_inText hbehind htext

/-- A region of a text is named by a node inside it. Its name is empty exactly if the node begins with
`<`, and then the region is an extension of a type of Rust. -/
def Named (dialect : Dialect) (text : String) (region : Region) : Prop :=
  ∃ start place stop, NamedAt text region start place stop ∧
    (region.name = "" ↔ place.rest.head? = some '<') ∧
    (region.name = "" → dialect = .rust ∧ region.kind = .classLike ∧
      start.Passes "impl".toList place)

/-- The node in whose field for names another node stands names its region, if the text of both is as
the names of regions rest on. -/
theorem named_of_region? {dialect : Dialect} {node : Node} {region : Region} {inner : List Region}
    (hregion : dialect.region? text node inner = some region) (hnode : node.Titled dialect text)
    (hchildren : ∀ child ∈ node.children, child.Titled dialect text)
    (hbetween : Node.Between node.start node.stop node.children) (htext : node.stop ≤ text.length) :
    Named dialect text region := by
  obtain ⟨hkind, _, hname, hspanning⟩ := Dialect.region?_eq_some_iff.mp hregion
  obtain ⟨title, hfind, hname⟩ := Option.map_eq_some_iff.mp hname
  have hmem : title ∈ node.children := List.mem_of_find?_eq_some hfind
  have hfield : title.field = some (dialect.nameField node.kind) := by
    simpa using List.find?_some hfind
  obtain ⟨hstart, hspan, hstop, _⟩ := hbetween.of_mem hmem
  obtain ⟨⟨c, hc, hblank⟩, hplain, _⟩ := hchildren title hmem
  have hcons : text.toList.drop title.start = c :: text.toList.drop (title.start + 1) := by
    obtain ⟨hlt, hget⟩ := List.getElem?_eq_some_iff.mp hc
    rw [List.drop_eq_getElem_cons hlt, hget]
  have hempty : region.name = "" ↔ c = '<' := by
    obtain ⟨more, hmore⟩ := Nat.exists_eq_add_of_lt (Nat.lt_of_succ_le hspan)
    have hcount : title.stop - title.start = more + 1 := by omega
    rw [← hname, Node.text, hcount, hcons, List.take_succ_cons, titleOf_eq_empty_iff hblank]
  refine ⟨.inText text node.start, .inText text title.start, .inText text title.stop,
    ⟨?_, ?_, ?_, ?_, hspan, hname.symm⟩, ?_, fun hnone => ?_⟩
  · exact Cursor.upTo_inText (Nat.zero_le _) (by omega)
  · rw [hspanning]
    rfl
  · exact Cursor.upTo_inText hstart (by omega)
  · exact Cursor.upTo_inText (by omega) (by omega)
  · rw [hempty, Cursor.inText, hcons, List.head?_cons, Option.some_inj]
  · -- Only an extension of a type has a node with such a text for its name.
    have hangle := hempty.mp hnone
    have hextension : dialect = .rust ∧ node.kind = "impl_item" := by
      by_contra hother
      rw [Dialect.nameField, if_neg hother] at hfield
      exact hplain hfield (hangle ▸ hc)
    obtain ⟨rfl, hitem⟩ := hextension
    refine ⟨rfl, ?_, passes_of_headed (hnode.extension rfl hitem) hmem (by omega)⟩
    have hclass : Dialect.rust.regionKind? node = some .classLike := by
      simp [Dialect.regionKind?, Dialect.functionKinds, Dialect.classKinds, hitem]
    exact Option.some.inj (hkind.symm.trans hclass)

/-- If the patterns of a grammar tell what the names of regions rest on, the regions of a text are
named. -/
theorem named_of_tree? {dialect : Dialect}
    (hblanks : ∀ c, Text.isBlank c = true → grammar.isBlank c = true)
    (hgrammar : grammar.AllNodes (Pattern.Titles grammar dialect)) {root : Node}
    (htree : grammar.tree? text = some root) :
    ∀ region ∈ Region.preorderOfAll (dialect.regionsBelow text root), Named dialect text region := by
  intro region hregion
  obtain ⟨child, hchild, node, inner, hnode, hsome⟩ :=
    dialect.exists_node_of_regionsOf text root.children region hregion
  have hgives : grammar.AllNodes (grammar.Gives text (Node.Titled dialect text)) :=
    fun name => (hgrammar name).imp fun _ _ _ htitles => htitles.gives hblanks
  have htitled := forall_below_of_tree? hgives htree child hchild
  obtain ⟨_, _, hstop, hbetween⟩ := Node.of_below_of_between (between_of_tree? htree) hchild hnode
  exact named_of_region? hsome (htitled node hnode) (fun _ hinner => htitled _ (.child hnode hinner))
    hbetween hstop

end Grammar

end RuleAudit
