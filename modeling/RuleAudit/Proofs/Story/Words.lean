import RuleAudit.Proofs.Story.Names
import RuleAudit.Proofs.Text.LetterCase
import Mathlib.Data.List.SplitBy

/-!
# Words are segments

A text is cut at the characters that are neither letters nor numbers, and between neighbours where the
case says that a word ends. The reader of words stands behind a part of a segment at each character, and
it keeps the lower-case forms of the segments that are long enough. Terms of names in ASCII are in lower
case, so that they are words again.
-/

namespace RuleAudit.Story

/-! ## Segments -/

/-- Whether a character is neither letter nor number, so that it belongs to no segment. -/
def separates (c : Char) : Bool :=
  !Text.isAlphanumeric c

/-- Whether a word ends between two characters: an upper-case one stands behind a lower-case one or a
number. -/
def endsBetween (before after : Char) : Bool :=
  Text.isUppercase after && (Text.isLowercase before || Text.isNumeric before)

/-- The segments of a text: it is cut at the characters that are neither letters nor numbers, which are
left out, and between the others wherever a word ends. -/
def segments (text : List Char) : List (List Char) :=
  (text.splitOnP separates).flatMap (List.splitBy fun before after => !endsBetween before after)

/-- The lower-case forms of segments, those with less than three characters left out. -/
def longForms (segments : List (List Char)) : List String :=
  (segments.map fun segment => Text.lowercase (String.ofList segment)).filter fun word =>
    3 ≤ word.length

theorem longForms_append (first second : List (List Char)) :
    longForms (first ++ second) = longForms first ++ longForms second := by
  rw [longForms, List.map_append, List.filter_append]
  rfl

/-- The form of a segment is kept if it is long enough. -/
theorem longForms_singleton (segment : List Char) : longForms [segment] =
    if 3 ≤ (segment.flatMap Text.lowered).length then [String.ofList (segment.flatMap Text.lowered)]
    else [] := by
  rw [longForms, List.map_singleton, Text.lowercase, String.toList_ofList, List.filter_cons,
    String.length_ofList, List.filter_nil]
  simp only [decide_eq_true_eq]

/-- A text that holds no separator goes in front of the first piece of the text behind it. -/
theorem splitOnP_append {front : List Char} (hfront : ∀ c ∈ front, separates c = false)
    (rest : List Char) :
    (front ++ rest).splitOnP separates = (rest.splitOnP separates).modifyHead (front ++ ·) := by
  induction front with
  | nil => exact (congrFun List.modifyHead_id _).symm
  | cons c front ih =>
    obtain ⟨hc, hfront⟩ := List.forall_mem_cons.mp hfront
    rw [List.cons_append, List.splitOnP_cons_eq_if_modifyHead, hc, if_neg Bool.false_ne_true,
      ih hfront, List.modifyHead_modifyHead]
    rfl

/-- What is in front of a separator and what is behind it have segments of their own. -/
theorem segments_separator {c : Char} (hc : separates c) (front rest : List Char) :
    segments (front ++ c :: rest) = segments front ++ segments rest := by
  rw [segments, List.splitOnP_append_cons _ _ hc, List.flatMap_append]
  rfl

/-- A text that holds no separator is cut at the ends of words only. -/
theorem segments_of_separates {text : List Char} (htext : ∀ c ∈ text, separates c = false) :
    segments text = text.splitBy fun before after => !endsBetween before after := by
  rw [segments, List.splitOnP_eq_singleton htext, List.flatMap_singleton]

/-- What is in front of the end of a word and what is behind it have segments of their own. -/
theorem segments_end {front : List Char} {c : Char} (hfront : ∀ c ∈ front, separates c = false)
    (hc : separates c = false) (hends : ∀ before ∈ front.getLast?, endsBetween before c)
    (rest : List Char) : segments (front ++ c :: rest) = segments front ++ segments (c :: rest) := by
  obtain ⟨piece, pieces, hpieces⟩ := List.exists_cons_of_ne_nil (List.splitOnP_ne_nil separates rest)
  have hbehind : (c :: rest).splitOnP separates = (c :: piece) :: pieces := by
    rw [List.splitOnP_cons_eq_if_modifyHead, hpieces, hc]
    rfl
  have hwhole : (front ++ c :: rest).splitOnP separates = (front ++ c :: piece) :: pieces := by
    rw [splitOnP_append hfront, hbehind]
    rfl
  rw [segments_of_separates hfront, segments, hwhole, segments, hbehind, List.flatMap_cons,
    List.flatMap_cons, List.splitBy_append_cons _ fun before hbefore => by simp [hends before hbefore],
    List.append_assoc]

/-! ## The reader -/

/-- Letters and numbers between which no word ends. -/
structure Unbroken (segment : List Char) : Prop where
  noSeparator : ∀ c ∈ segment, separates c = false
  chain : segment.IsChain fun before after => endsBetween before after = false

theorem unbroken_nil : Unbroken [] :=
  ⟨List.forall_mem_nil _, .nil⟩

theorem unbroken_singleton {c : Char} (hc : separates c = false) : Unbroken [c] :=
  ⟨List.forall_mem_singleton.mpr hc, .singleton c⟩

/-- A letter or number behind which no word has ended goes on. -/
theorem Unbroken.concat {segment : List Char} (hunbroken : Unbroken segment) {c : Char}
    (hc : separates c = false) (hgoes : ∀ before ∈ segment.getLast?, endsBetween before c = false) :
    Unbroken (segment ++ [c]) := by
  refine ⟨?_, List.isChain_append.mpr ⟨hunbroken.chain, .singleton c, ?_⟩⟩
  · exact List.forall_mem_append.mpr ⟨hunbroken.noSeparator, List.forall_mem_singleton.mpr hc⟩
  · intro before hbefore after hafter
    rw [List.head?_cons, Option.mem_some_iff] at hafter
    exact hafter ▸ hgoes before hbefore

/-- Letters and numbers between which no word ends are a segment, if there are any. -/
theorem Unbroken.segments_eq {segment : List Char} (hunbroken : Unbroken segment) :
    segments segment = if segment = [] then [] else [segment] := by
  rw [segments_of_separates hunbroken.noSeparator]
  split
  · next hnil => rw [hnil, List.splitBy_nil]
  · next hne => exact List.splitBy_of_isChain hne (by simpa using hunbroken.chain)

/-- A reader stands behind an unbroken segment, whose lower-case form is pending. -/
structure Splitting.Follows (state : Splitting) (segment : List Char) : Prop where
  unbroken : Unbroken segment
  pending : state.pending = segment.flatMap Text.lowered
  afterLower : state.afterLower =
    segment.getLast?.any fun c => Text.isLowercase c || Text.isNumeric c

/-- When the pending word ends, the form of its segment is kept if it is long enough. -/
theorem Splitting.Follows.finish_words {state : Splitting} {segment : List Char}
    (hfollows : state.Follows segment) :
    state.finish.words = state.words ++ longForms (segments segment) := by
  have hfinish : state.finish.words = state.words ++ longForms [segment] := by
    rw [longForms_singleton, ← hfollows.pending]
    change (if 3 ≤ state.pending.length then _ else _) = _
    split
    · rfl
    · exact (List.append_nil _).symm
  rw [hfinish, hfollows.unbroken.segments_eq]
  split
  · next hnil =>
    rw [hnil]
    rfl
  · rfl

/-- One step of the reader: it stands behind an unbroken segment again, and what is found so far and what
is still to be found are together the same as before. -/
theorem Splitting.Follows.read {state : Splitting} {segment : List Char}
    (hfollows : state.Follows segment) (c : Char) : ∃ next, (state.read c).Follows next ∧ ∀ rest,
      (state.read c).words ++ longForms (segments (next ++ rest)) =
        state.words ++ longForms (segments (segment ++ c :: rest)) := by
  have hfinish := hfollows.finish_words
  rw [Splitting.read, ← separates]
  cases hc : separates c with
  | true =>
    -- The pending word ends, and an empty segment begins.
    refine ⟨[], ⟨unbroken_nil, rfl, rfl⟩, fun rest => ?_⟩
    rw [segments_separator hc, longForms_append, ← List.append_assoc, ← hfinish]
    rfl
  | false =>
    have hends : (Text.isUppercase c && state.afterLower) =
        segment.getLast?.any fun before => endsBetween before c := by
      rw [hfollows.afterLower]
      cases segment.getLast? with
      | none => exact Bool.and_false _
      | some before => rfl
    have hbetween : ∀ before ∈ segment.getLast?,
        endsBetween before c = segment.getLast?.any fun before => endsBetween before c := by
      intro before hbefore
      rw [hbefore]
      rfl
    rw [hends]
    -- A word that ends is finished before the character is read, and any other goes on with it.
    cases hlast : segment.getLast?.any fun before => endsBetween before c with
    | true =>
      rw [hlast] at hbetween
      refine ⟨[c], ⟨unbroken_singleton hc, (List.append_nil _).symm, rfl⟩, fun rest => ?_⟩
      rw [segments_end hfollows.unbroken.noSeparator hc hbetween, longForms_append,
        ← List.append_assoc, ← hfinish]
      rfl
    | false =>
      rw [hlast] at hbetween
      refine ⟨segment ++ [c], ⟨hfollows.unbroken.concat hc hbetween, ?_, ?_⟩, fun rest => ?_⟩
      · rw [List.flatMap_append, List.flatMap_singleton, ← hfollows.pending]
        rfl
      · rw [List.getLast?_concat]
        rfl
      · rw [List.append_assoc]
        rfl

/-- A run of the reader finds the segments of what it reads, behind the one that it stands at. -/
theorem Splitting.Follows.foldl_read {state : Splitting} {segment : List Char}
    (hfollows : state.Follows segment) (rest : List Char) :
    (rest.foldl Splitting.read state).finish.words =
      state.words ++ longForms (segments (segment ++ rest)) := by
  induction rest generalizing state segment with
  | nil => rw [List.append_nil, List.foldl_nil, hfollows.finish_words]
  | cons c rest ih =>
    obtain ⟨next, hnext, hsame⟩ := hfollows.read c
    rw [List.foldl_cons, ih hnext, hsame]

/-- The words of a text are the lower-case forms of its segments that are long enough. -/
theorem words_eq (text : String) : words text = longForms (segments text.toList) := by
  have hstart : Splitting.start.Follows [] := ⟨unbroken_nil, rfl, rfl⟩
  exact hstart.foldl_read text.toList

/-! ## Terms as names -/

/-- The pieces between separators hold the letters and numbers of the text. -/
theorem flatten_splitOnP (text : List Char) :
    (text.splitOnP separates).flatten = text.filter Text.isAlphanumeric := by
  induction text with
  | nil => rfl
  | cons c rest ih =>
    obtain ⟨piece, pieces, hpieces⟩ := List.exists_cons_of_ne_nil (List.splitOnP_ne_nil separates rest)
    rw [List.splitOnP_cons_eq_if_modifyHead, hpieces]
    rw [hpieces, List.flatten_cons] at ih
    cases hc : Text.isAlphanumeric c <;> simp [separates, hc, ← ih]

/-- The segments of a text hold its letters and numbers in their order. -/
theorem flatten_segments (text : List Char) :
    (segments text).flatten = text.filter Text.isAlphanumeric := by
  rw [← flatten_splitOnP, segments, List.flatMap_def, List.flatten_flatten, List.map_map]
  simp [Function.comp_def]

/-- A letter or number that is its own form in words. -/
structure InLowerCase (c : Char) : Prop where
  alphanumeric : Text.isAlphanumeric c
  notUppercase : Text.isUppercase c = false
  form : Text.lowered c = [c]

/-- A word of an ASCII text is long enough, and each of its characters is in lower case. -/
theorem inLowerCase_of_mem_longForms {text : List Char} (hascii : ∀ c ∈ text, c.toNat < 128)
    {word : String} (hword : word ∈ longForms (segments text)) :
    3 ≤ word.length ∧ ∀ c ∈ word.toList, InLowerCase c := by
  obtain ⟨hform, hlong⟩ := List.mem_filter.mp hword
  obtain ⟨segment, hsegment, rfl⟩ := List.mem_map.mp hform
  refine ⟨of_decide_eq_true hlong, fun d hd => ?_⟩
  rw [Text.lowercase, String.toList_ofList, String.toList_ofList] at hd
  obtain ⟨c, hc, hd⟩ := List.mem_flatMap.mp hd
  have hmem : c ∈ text.filter Text.isAlphanumeric := by
    rw [← flatten_segments]
    exact List.mem_flatten_of_mem hsegment hc
  obtain ⟨htext, halphanumeric⟩ := List.mem_filter.mp hmem
  obtain ⟨hcase, hsame, hkeeps⟩ := Text.of_mem_lowered_ascii (hascii c htext) hd
  exact ⟨hkeeps halphanumeric, hcase, hsame⟩

/-- Characters in lower case are a word, if they are enough. -/
theorem words_of_inLowerCase {term : String} (hlong : 3 ≤ term.length)
    (hlower : ∀ c ∈ term.toList, InLowerCase c) : words term = [term] := by
  have hunbroken : Unbroken term.toList := by
    refine ⟨fun c hc => ?_, List.Pairwise.isChain ?_⟩
    · rw [separates, (hlower c hc).alphanumeric, Bool.not_true]
    · refine List.pairwise_of_forall_mem_list fun before _ after hafter => ?_
      rw [endsBetween, (hlower after hafter).notUppercase, Bool.false_and]
  have hne : term.toList ≠ [] := by
    rw [← List.length_pos_iff, String.length_toList]
    omega
  have hforms : term.toList.flatMap Text.lowered = term.toList := by
    rw [List.flatMap_congr fun c hc => (hlower c hc).form, List.flatMap_singleton']
  rw [words_eq, hunbroken.segments_eq, if_neg hne, longForms_singleton, hforms, String.ofList_toList,
    String.length_toList, if_pos hlong]

/-- A name with one word has this word for its only term. -/
theorem terms_of_words_eq {text word : String} (hwords : words text = [word]) :
    terms (.object [("name", .string text)]) = [word] := by
  have hmember : memberWords ("name", .string text) = [word] := by
    rw [memberWords, wordsInMembers.eq_def]
    exact (List.append_nil _).trans hwords
  rw [terms, wordsIn, wordsInMembers_eq, List.flatMap_singleton, hmember]
  rfl

/-- An object names the strings under its key `name` and what the values of its members name. -/
theorem names_object {members : List (String × Json)} {text : String} :
    Names (.object members) text ↔
      ("name", .string text) ∈ members ∨ ∃ member ∈ members, Names member.2 text := by
  constructor
  · rintro ⟨inner, hreaches, hmember⟩
    rcases hreaches.cases_head with heq | ⟨part, hholds, hreaches⟩
    · cases heq
      exact .inl hmember
    · cases hholds with
      | member hpart => exact .inr ⟨_, hpart, inner, hreaches, hmember⟩
  · rintro (hmember | ⟨member, hpart, hnames⟩)
    · exact ⟨members, .refl, hmember⟩
    · exact hnames.of_holds (.member hpart)

/-- A string names nothing. -/
theorem not_names_string {value text : String} : ¬ Names (.string value) text := by
  rintro ⟨inner, hreaches, _⟩
  rcases hreaches.cases_head with heq | ⟨_, hholds, _⟩
  · cases heq
  · cases hholds

end RuleAudit.Story

namespace RuleAudit

open Story in
/-- The words of a text are, in order, the lower-case forms of its segments, those with less than three
characters left out. Each term of a graph in ASCII, of which only the names matter, is the only term of an
object with the term for its name. -/
theorem words_are_segments_and_terms_stay :
    (∀ text, words text =
      ((segments text.toList).map fun segment => Text.lowercase (String.ofList segment)).filter
        fun word => 3 ≤ word.length) ∧
    ∀ graph, (∀ text, Names graph text → ∀ c ∈ text.toList, c.toNat < 128) →
      ∀ term ∈ terms graph, terms (.object [("name", .string term)]) = [term] := by
  refine ⟨words_eq, fun graph hascii term hterm => ?_⟩
  obtain ⟨text, hnames, hword⟩ := mem_terms_iff.mp hterm
  rw [words_eq] at hword
  obtain ⟨hlong, hlower⟩ := inLowerCase_of_mem_longForms (hascii text hnames) hword
  exact terms_of_words_eq (words_of_inLowerCase hlong hlower)

/-- A graph with names that are cut at a separator, at letter case and behind numbers. -/
def orderNames : Json :=
  .object [("name", .string "HTTP2Server-cartItems"),
    ("step", .object [("name", .string "payOrder99X")])]

/-- A term with a number in it stays. -/
theorem term_of_orderNames_stays :
    (∀ text, Story.Names orderNames text → ∀ c ∈ text.toList, c.toNat < 128) ∧
      Story.terms orderNames = ["cart", "http2", "items", "order99", "pay", "server"] ∧
      Story.terms (.object [("name", .string "order99")]) = ["order99"] := by
  have hascii : ∀ text, Story.Names orderNames text → ∀ c ∈ text.toList, c.toNat < 128 := by
    intro text hnames
    have htexts : text = "HTTP2Server-cartItems" ∨ text = "payOrder99X" := by
      simpa [orderNames, Story.names_object, Story.not_names_string] using hnames
    rcases htexts with rfl | rfl <;> simp
  have hterms : Story.terms orderNames = ["cart", "http2", "items", "order99", "pay", "server"] := by
    decide +kernel
  refine ⟨hascii, hterms, ?_⟩
  exact words_are_segments_and_terms_stay.2 orderNames hascii "order99" (by rw [hterms]; decide)

end RuleAudit
