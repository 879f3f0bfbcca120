import RuleAudit.Digest.Content
import RuleAudit.Proofs.Text.Feeds
import Mathlib.Data.List.DropRight
import Mathlib.Logic.Relation

/-!
# What digests tell apart

A digest is taken of the significant lines with a line feed behind each of them. No such line holds a
feed, so the bytes tell the lines, and as long as no two digests collide, contents have the same digest
exactly if one becomes the other by edits of blank lines and of white space at line ends.
-/

namespace RuleAudit.Digest

/-! ## Significant pieces -/

/-- The pieces between line feeds without the white space at their ends, the empty ones left out. -/
def significantPieces (characters : List Char) : List (List Char) :=
  ((Text.splitFeeds characters).map Text.trimEndChars).filter (!·.isEmpty)

/-- White space is dropped from the end of a text as long as there is some. -/
theorem trimEndChars_eq_rdropWhile (characters : List Char) :
    Text.trimEndChars characters = characters.rdropWhile Text.isBlank := rfl

/-- The carriage return of a line end is white space. -/
theorem trimEndChars_dropReturn (piece : List Char) :
    Text.trimEndChars (Text.dropReturn piece) = Text.trimEndChars piece := by
  rcases Text.dropReturn_cases piece with ⟨before, rfl, hbefore⟩ | ⟨_, hsame⟩
  · rw [hbefore, trimEndChars_eq_rdropWhile, trimEndChars_eq_rdropWhile,
      List.rdropWhile_concat_pos _ _ _ (by decide)]
  · rw [hsame]

/-- Lines and pieces differ in white space at their ends only, and in an empty piece at the end. -/
theorem filter_linesOfPieces (pieces : List (List Char)) :
    ((Text.linesOfPieces pieces).map Text.trimEndChars).filter (!·.isEmpty) =
      (pieces.map Text.trimEndChars).filter (!·.isEmpty) := by
  fun_induction Text.linesOfPieces pieces with
  | case1 => rfl
  | case2 last hempty =>
    rw [List.isEmpty_iff] at hempty
    rw [hempty]
    rfl
  | case3 last hempty => rfl
  | case4 piece later hlater ih =>
    rw [List.map_cons, List.map_cons, List.filter_cons, List.filter_cons, ih,
      trimEndChars_dropReturn]

/-- The significant lines are the significant pieces. -/
theorem significantLines_eq (content : String) :
    significantLines content = (significantPieces content.toList).map String.ofList := by
  have htrim : Text.trimEnd ∘ String.ofList = String.ofList ∘ Text.trimEndChars := by
    funext piece
    simp [Text.trimEnd]
  have hempty : (fun line : String => !line.isEmpty) ∘ String.ofList =
      fun piece : List Char => !piece.isEmpty := by
    funext piece
    rw [Function.comp_apply, Bool.eq_iff_iff]
    simp
  rw [significantLines, Text.lines, List.map_map, htrim, ← List.map_map, List.filter_map, hempty,
    filter_linesOfPieces, significantPieces]

/-- A line feed parts the significant pieces in front of it from those behind it. -/
theorem significantPieces_append_feed (front back : List Char) :
    significantPieces (front ++ '\n' :: back) = significantPieces front ++ significantPieces back := by
  rw [significantPieces, Text.splitFeeds_append_feed, List.map_append, List.filter_append]
  rfl

/-- A text without a line feed has one significant piece, unless it is all white space. -/
theorem significantPieces_of_notMem {characters : List Char} (hfeed : '\n' ∉ characters) :
    significantPieces characters =
      if Text.trimEndChars characters = [] then [] else [Text.trimEndChars characters] := by
  rw [significantPieces, Text.splitFeeds_of_notMem hfeed, List.map_singleton]
  split
  · next hempty => rw [hempty]; rfl
  · next hne => simp [hne]

/-- White space at the end of a text has no part in its significant pieces. -/
theorem significantPieces_append_blank (front : List Char) {space : List Char}
    (hspace : ∀ c ∈ space, Text.isBlank c = true) :
    significantPieces (front ++ space) = significantPieces front := by
  induction space using List.reverseRecOn with
  | nil => rw [List.append_nil]
  | append_singleton space c ih =>
    have hblank : Text.isBlank c = true := hspace c (by simp)
    rw [← List.append_assoc, ← ih fun other hother => hspace other (by simp [hother])]
    generalize front ++ space = characters
    by_cases hc : c = '\n'
    · rw [hc, significantPieces_append_feed]
      exact List.append_nil _
    · induction characters using Text.feeds_induction with
      | last characters hfeed =>
        have hnone : '\n' ∉ characters ++ [c] := by simp [hfeed, Ne.symm hc]
        rw [significantPieces_of_notMem hnone, significantPieces_of_notMem hfeed,
          trimEndChars_eq_rdropWhile, List.rdropWhile_concat_pos _ _ _ hblank]
        rfl
      | feed first later hfirst ih =>
        rw [List.append_assoc, List.cons_append, significantPieces_append_feed,
          significantPieces_append_feed, ih]

/-! ## Bytes -/

/-- The bytes of an array, one after the other. -/
theorem toList_eq_data (bytes : ByteArray) : bytes.toList = bytes.data.toList := by
  have hloop (start : Nat) (read : List UInt8) :
      ByteArray.toList.loop bytes start read = read.reverse ++ bytes.data.toList.drop start := by
    induction start, read using ByteArray.toList.loop.induct bytes with
    | case1 start read hlt ih =>
      have hstart : start < bytes.data.toList.length := by simpa using hlt
      have hbyte : bytes.get! start = bytes.data.toList[start] :=
        (getElem!_pos bytes.data start (by simpa using hlt)).trans (Array.getElem_toList _).symm
      rw [ByteArray.toList.loop, if_pos hlt, ih, List.drop_eq_getElem_cons hstart, hbyte]
      simp
    | case2 start read hge =>
      have hstart : bytes.data.toList.length ≤ start := by simpa using hge
      rw [ByteArray.toList.loop, if_neg hge, List.drop_eq_nil_of_le hstart, List.append_nil]
  rw [ByteArray.toList, hloop]
  rfl

/-- The bytes of lines are those of the text that has a line feed behind each of them. -/
theorem bytesOfLines_eq (lines : List String) :
    bytesOfLines lines =
      (String.ofList (Text.ended (lines.map String.toList))).toByteArray.data.toList := by
  induction lines with
  | nil => rfl
  | cons line later ih =>
    have hended : Text.ended ((line :: later).map String.toList) =
        line.toList ++ (['\n'] ++ Text.ended (later.map String.toList)) := by simp [Text.ended]
    have hfeed : "\n".toByteArray.data.toList = [10] := by decide
    rw [bytesOfLines, List.flatMap_cons, ← bytesOfLines, ih, hended, String.ofList_append,
      String.ofList_append, String.ofList_toList, String.toByteArray_append,
      String.toByteArray_append, String.toUTF8_eq_toByteArray, toList_eq_data]
    simp [hfeed]

/-- Lines without feeds are told apart by their bytes. -/
theorem bytesOfLines_injective {first second : List String}
    (hfirst : ∀ line ∈ first, '\n' ∉ line.toList) (hsecond : ∀ line ∈ second, '\n' ∉ line.toList)
    (hsame : bytesOfLines first = bytesOfLines second) : first = second := by
  rw [bytesOfLines_eq, bytesOfLines_eq, Array.toList_inj, ← ByteArray.ext_iff,
    String.toByteArray_inj, String.ofList_inj] at hsame
  have hlines := Text.ended_injective (by simpa using hfirst) (by simpa using hsecond) hsame
  exact List.map_injective_iff.mpr (fun _ _ => String.ext) hlines

/-- No line feed stands in a significant line. -/
theorem feed_notMem_of_mem_significantLines {content line : String}
    (hline : line ∈ significantLines content) : '\n' ∉ line.toList := by
  rw [significantLines_eq] at hline
  obtain ⟨piece, hpiece, rfl⟩ := List.mem_map.mp hline
  obtain ⟨whole, hwhole, rfl⟩ := List.mem_map.mp (List.mem_filter.mp hpiece).1
  rw [String.toList_ofList, trimEndChars_eq_rdropWhile]
  intro hfeed
  exact Text.feed_notMem_of_mem_splitFeeds hwhole ((List.rdropWhile_prefix _ _).subset hfeed)

/-- The digests of what two contents come to are the same only if the bytes are. -/
def NoCollision (first second : String) : Prop :=
  sha256 (bytesOfLines (significantLines first)) = sha256 (bytesOfLines (significantLines second)) →
    bytesOfLines (significantLines first) = bytesOfLines (significantLines second)

/-- A content has no digest exactly if it has no significant line. -/
theorem ofContent?_eq_none_iff (content : String) :
    ofContent? content = none ↔ significantLines content = [] := by
  unfold ofContent?
  cases significantLines content <;> simp

/-- A content with significant lines has the digest of their bytes. -/
theorem ofContent?_of_ne_nil {content : String} (hlines : significantLines content ≠ []) :
    ofContent? content = some (sha256 (bytesOfLines (significantLines content))) := by
  unfold ofContent?
  cases hcontent : significantLines content with
  | nil => exact absurd hcontent hlines
  | cons line later => rfl

/-- Contents with the same significant lines have the same digest, and no others have as long as the
digests do not collide. -/
theorem ofContent?_eq_iff {first second : String} (hcollision : NoCollision first second) :
    ofContent? first = ofContent? second ↔ significantLines first = significantLines second := by
  constructor
  · intro hsame
    by_cases hfirst : significantLines first = []
    · have hnone := (ofContent?_eq_none_iff first).mpr hfirst
      rw [hfirst, (ofContent?_eq_none_iff second).mp (hsame.symm.trans hnone)]
    · have hsecond : significantLines second ≠ [] := by
        rw [Ne, ← ofContent?_eq_none_iff, ← hsame, ofContent?_eq_none_iff]
        exact hfirst
      rw [ofContent?_of_ne_nil hfirst, ofContent?_of_ne_nil hsecond, Option.some.injEq] at hsame
      exact bytesOfLines_injective (fun _ => feed_notMem_of_mem_significantLines)
        (fun _ => feed_notMem_of_mem_significantLines) (hcollision hsame)
  · intro hlines
    rw [ofContent?, ofContent?, hlines]

/-! ## White space -/

/-- The end of a line stands at the front of the text, or the text is over. -/
inductive EndsLine : String → Prop
  | textEnd : EndsLine ""
  | feed (later : String) : EndsLine ("\n" ++ later)
  | returned (later : String) : EndsLine ("\r\n" ++ later)

/-- A line may begin behind the text: it is empty or ends with a line feed. -/
inductive BeforeLine : String → Prop
  | start : BeforeLine ""
  | feed (earlier : String) : BeforeLine (earlier ++ "\n")

/-- A content gets a blank line, white space at the end of a line, a carriage return in front of a line
feed, or a line feed at its end. -/
inductive Respaced : String → String → Prop
  | blankLine (before blank after : String) (hstart : BeforeLine before)
      (hblank : Text.isBlankText blank) : Respaced (before ++ after) (before ++ blank ++ "\n" ++ after)
  | trailingSpace (before space after : String) (hspace : Text.isBlankText space)
      (hend : EndsLine after) : Respaced (before ++ after) (before ++ space ++ after)
  | carriageReturn (before after : String) :
      Respaced (before ++ "\n" ++ after) (before ++ "\r\n" ++ after)
  | finalFeed (content : String) : Respaced content (content ++ "\n")

/-- The characters of a blank text are white space. -/
theorem isBlank_of_isBlankText {text : String} (hblank : Text.isBlankText text) :
    ∀ c ∈ text.toList, Text.isBlank c = true :=
  List.all_eq_true.mp hblank

/-- A blank text has no significant piece. -/
theorem significantPieces_of_blank {space : List Char} (hspace : ∀ c ∈ space, Text.isBlank c = true) :
    significantPieces space = [] := by
  have hempty := significantPieces_append_blank [] hspace
  rwa [List.nil_append] at hempty

/-- White space at the end of a line has no part in the significant pieces. -/
theorem significantPieces_append_blank_append (before : List Char) {space : List Char} {after : String}
    (hspace : ∀ c ∈ space, Text.isBlank c = true) (hend : EndsLine after) :
    significantPieces (before ++ space ++ after.toList) =
      significantPieces (before ++ after.toList) := by
  cases hend with
  | textEnd => simpa using significantPieces_append_blank before hspace
  | feed later =>
    have hafter : ("\n" ++ later).toList = '\n' :: later.toList := by simp
    rw [hafter, significantPieces_append_feed, significantPieces_append_feed,
      significantPieces_append_blank before hspace]
  | returned later =>
    -- The carriage return is white space at the end of the line, too.
    have hreturned (front : List Char) : significantPieces (front ++ ("\r\n" ++ later).toList) =
        significantPieces front ++ significantPieces later.toList := by
      have hafter : front ++ ("\r\n" ++ later).toList = (front ++ ['\r']) ++ '\n' :: later.toList := by
        simp
      have hreturn : ∀ c ∈ ['\r'], Text.isBlank c = true := List.forall_mem_singleton.mpr rfl
      rw [hafter, significantPieces_append_feed, significantPieces_append_blank front hreturn]
    rw [hreturned, hreturned, significantPieces_append_blank before hspace]

/-- An edit of white space leaves the significant pieces as they are. -/
theorem Respaced.significantPieces_eq {first second : String} (hedit : Respaced first second) :
    significantPieces first.toList = significantPieces second.toList := by
  cases hedit with
  | blankLine before blank after hstart hblank =>
    have hnone := significantPieces_of_blank (isBlank_of_isBlankText hblank)
    have hline : (before ++ blank ++ "\n" ++ after).toList =
        before.toList ++ (blank.toList ++ '\n' :: after.toList) := by simp
    rw [hline, String.toList_append]
    cases hstart with
    | start => rw [String.toList_empty, List.nil_append, List.nil_append,
        significantPieces_append_feed, hnone, List.nil_append]
    | feed earlier =>
      have hbefore (back : List Char) :
          (earlier ++ "\n").toList ++ back = earlier.toList ++ '\n' :: back := by simp
      rw [hbefore, hbefore, significantPieces_append_feed, significantPieces_append_feed,
        significantPieces_append_feed, hnone, List.nil_append]
  | trailingSpace before space after hspace hend =>
    rw [String.toList_append, String.toList_append, String.toList_append,
      significantPieces_append_blank_append _ (isBlank_of_isBlankText hspace) hend]
  | carriageReturn before after =>
    have hreturn : ∀ c ∈ ['\r'], Text.isBlank c = true := List.forall_mem_singleton.mpr rfl
    simpa using (significantPieces_append_blank_append before.toList hreturn (.feed after)).symm
  | finalFeed content =>
    have hfeed : ∀ c ∈ ['\n'], Text.isBlank c = true := List.forall_mem_singleton.mpr rfl
    rw [String.toList_append]
    exact (significantPieces_append_blank _ hfeed).symm

/-- Edits of white space, made and taken back, leave the significant lines as they are. -/
theorem significantLines_eq_of_eqvGen {first second : String}
    (hedits : Relation.EqvGen Respaced first second) :
    significantLines first = significantLines second := by
  induction hedits with
  | rel first second hedit => rw [significantLines_eq, significantLines_eq, hedit.significantPieces_eq]
  | refl content => rfl
  | symm first second _ ih => exact ih.symm
  | trans first second third _ _ ihFirst ihSecond => exact ihFirst.trans ihSecond

/-- A line is what is left without the white space at its end, and that white space. -/
theorem exists_space_behind (line : List Char) :
    ∃ space, line = Text.trimEndChars line ++ space ∧
      Text.isBlankText (String.ofList space) = true := by
  refine ⟨line.rtakeWhile Text.isBlank, List.rdropWhile_append_rtakeWhile.symm, ?_⟩
  rw [Text.isBlankText, String.toList_ofList, List.all_eq_true]
  exact fun _ hc => List.mem_rtakeWhile_imp hc

/-- Edits of white space take the white space off the end of a line. -/
theorem eqvGen_trimmed (before : String) (line : List Char) {after : String} (hend : EndsLine after) :
    Relation.EqvGen Respaced (before ++ String.ofList line ++ after)
      (before ++ String.ofList (Text.trimEndChars line) ++ after) := by
  obtain ⟨space, hline, hspace⟩ := exists_space_behind line
  generalize Text.trimEndChars line = kept at hline ⊢
  subst hline
  have hdrop := Respaced.trailingSpace (before ++ String.ofList kept) _ after hspace hend
  have hwhole : before ++ String.ofList kept ++ String.ofList space ++ after =
      before ++ String.ofList (kept ++ space) ++ after := by simp [String.append_assoc]
  rw [hwhole] at hdrop
  exact .symm _ _ (.rel _ _ hdrop)

/-- Behind the end of a line, edits of white space make of any text its significant pieces with a line
feed behind each of them. -/
theorem eqvGen_ended (characters : List Char) {before : String} (hstart : BeforeLine before) :
    Relation.EqvGen Respaced (before ++ String.ofList characters)
      (before ++ String.ofList (Text.ended (significantPieces characters))) := by
  induction characters using Text.feeds_induction generalizing before with
  | last line hfeed =>
    have htrim := eqvGen_trimmed before line .textEnd
    rw [String.append_empty, String.append_empty] at htrim
    rw [significantPieces_of_notMem hfeed]
    refine .trans _ _ _ htrim ?_
    split
    · next hempty =>
      rw [hempty]
      exact .refl _
    · have hended : before ++ String.ofList (Text.ended [Text.trimEndChars line]) =
          before ++ String.ofList (Text.trimEndChars line) ++ "\n" := by
        simp [Text.ended, String.append_assoc]
      rw [hended]
      exact .rel _ _ (.finalFeed _)
  | feed line later hfeed ih =>
    have hwhole : before ++ String.ofList (line ++ '\n' :: later) =
        before ++ String.ofList line ++ ("\n" ++ String.ofList later) := by
      rw [← String.toList_inj]
      simp
    rw [significantPieces_append_feed, significantPieces_of_notMem hfeed, hwhole]
    refine .trans _ _ _ (eqvGen_trimmed before line (.feed (String.ofList later))) ?_
    split
    · next hempty =>
      -- Nothing is left of the line, so it is left out as a whole.
      have hdrop := Respaced.blankLine before "" (String.ofList later) hstart rfl
      rw [hempty, String.ofList_nil, ← String.append_assoc]
      exact .trans _ _ _ (.symm _ _ (.rel _ _ hdrop)) (ih hstart)
    · generalize Text.trimEndChars line = kept
      have hended : before ++ String.ofList (Text.ended ([kept] ++ significantPieces later)) =
          before ++ String.ofList kept ++ "\n" ++
            String.ofList (Text.ended (significantPieces later)) := by
        simp [Text.ended, String.append_assoc]
      rw [hended, ← String.append_assoc]
      exact ih (.feed (before ++ String.ofList kept))

/-- Contents with the same significant lines become one another by edits of white space. -/
theorem eqvGen_of_significantLines_eq {first second : String}
    (hlines : significantLines first = significantLines second) :
    Relation.EqvGen Respaced first second := by
  have hended (content : String) : Relation.EqvGen Respaced content
      (String.ofList (Text.ended (significantPieces content.toList))) := by
    simpa using eqvGen_ended content.toList .start
  rw [significantLines_eq, significantLines_eq] at hlines
  have hpieces := List.map_injective_iff.mpr (fun _ _ => String.ofList_injective) hlines
  have hsecond := hended second
  rw [← hpieces] at hsecond
  exact .trans _ _ _ (hended first) (.symm _ _ hsecond)

/-! ## Lines -/

/-- Two neighbouring lines of a content, both with more than white space in them, become one line. -/
inductive JoinsLines : String → String → Prop
  | join (before first second whole after : String) (hfirst : Text.isBlankText first = false)
      (hsecond : Text.isBlankText second = false) (hfirstFeed : '\n' ∉ first.toList)
      (hsecondFeed : '\n' ∉ second.toList) (hwholeFeed : '\n' ∉ whole.toList) :
      JoinsLines (before ++ first ++ "\n" ++ second ++ after) (before ++ whole ++ after)

/-- A line is significant unless it is all white space. -/
theorem length_significantPieces {line : List Char} (hfeed : '\n' ∉ line) :
    (significantPieces line).length ≤ 1 ∧
      ((∃ c ∈ line, Text.isBlank c = false) → (significantPieces line).length = 1) := by
  rw [significantPieces_of_notMem hfeed]
  constructor
  · split <;> simp
  · rintro ⟨c, hc, hblank⟩
    rw [if_neg, List.length_singleton]
    intro hempty
    rw [trimEndChars_eq_rdropWhile, List.rdropWhile_eq_nil_iff] at hempty
    simp [hempty c hc] at hblank

/-- One line stands for two in a content with fewer significant lines. -/
theorem JoinsLines.length_lt {first second : String} (hjoins : JoinsLines first second) :
    (significantPieces second.toList).length < (significantPieces first.toList).length := by
  obtain ⟨before, line, next, whole, after, hline, hnext, hlineFeed, hnextFeed, hwholeFeed⟩ := hjoins
  -- What stands on the first of the lines in front of them, and on the last one behind them.
  obtain ⟨earlier, front, hfront, hbefore⟩ : ∃ earlier front, '\n' ∉ front ∧ ∀ back,
      significantPieces (before.toList ++ back) = earlier ++ significantPieces (front ++ back) := by
    rcases Text.exists_last_feed before.toList with hfeed | ⟨rest, front, hfront, hrest⟩
    · exact ⟨[], _, hfeed, fun back => rfl⟩
    · refine ⟨significantPieces rest, front, hfront, fun back => ?_⟩
      rw [hrest, List.append_assoc, List.cons_append, significantPieces_append_feed]
  obtain ⟨later, back, hback, hafter⟩ : ∃ later back, '\n' ∉ back ∧ ∀ front,
      significantPieces (front ++ after.toList) = significantPieces (front ++ back) ++ later := by
    rcases Text.exists_first_feed after.toList with hfeed | ⟨back, rest, hback, hrest⟩
    · exact ⟨[], _, hfeed, fun front => (List.append_nil _).symm⟩
    · refine ⟨significantPieces rest, back, hback, fun front => ?_⟩
      rw [hrest, ← List.append_assoc, significantPieces_append_feed]
  have hnotBlank {text : String} (htext : Text.isBlankText text = false) :
      ∃ c ∈ text.toList, Text.isBlank c = false := by
    simpa [Text.isBlankText] using htext
  obtain ⟨c, hc, hcBlank⟩ := hnotBlank hline
  obtain ⟨d, hd, hdBlank⟩ := hnotBlank hnext
  have hone : (significantPieces (front ++ whole.toList ++ back)).length ≤ 1 :=
    (length_significantPieces (by simp [hfront, hwholeFeed, hback])).1
  have hfirst : (significantPieces (front ++ line.toList)).length = 1 :=
    (length_significantPieces (by simp [hfront, hlineFeed])).2 ⟨c, by simp [hc], hcBlank⟩
  have hsecond : (significantPieces (next.toList ++ back)).length = 1 :=
    (length_significantPieces (by simp [hnextFeed, hback])).2 ⟨d, by simp [hd], hdBlank⟩
  have htwoText : (before ++ line ++ "\n" ++ next ++ after).toList =
      (before.toList ++ line.toList) ++ '\n' :: (next.toList ++ after.toList) := by simp
  have honeText : (before ++ whole ++ after).toList =
      before.toList ++ (whole.toList ++ after.toList) := by simp
  rw [htwoText, honeText, significantPieces_append_feed, hbefore, hbefore, hafter,
    ← List.append_assoc front, hafter]
  simp only [List.length_append]
  omega

end RuleAudit.Digest

namespace RuleAudit

open Digest in
/-- A content has a digest exactly if it has a significant line. Edits of blank lines and of white space
at line ends keep the digest. As long as digests do not collide, it tells the significant lines: contents
with the same digest become one another by such edits, and one line in the place of two that are not
blank, or two in the place of one, always changes the digest. -/
theorem digest_decides_lines (first second : String) :
    (ofContent? first = none ↔ significantLines first = []) ∧
    (Relation.EqvGen Respaced first second → ofContent? first = ofContent? second) ∧
    (NoCollision first second →
      (ofContent? first = ofContent? second ↔ significantLines first = significantLines second) ∧
      (ofContent? first = ofContent? second → Relation.EqvGen Respaced first second) ∧
      (JoinsLines first second ∨ JoinsLines second first → ofContent? first ≠ ofContent? second)) := by
  refine ⟨ofContent?_eq_none_iff first, fun hedits => ?_, fun hcollision => ⟨?_, ?_, ?_⟩⟩
  · rw [ofContent?, ofContent?, significantLines_eq_of_eqvGen hedits]
  · exact ofContent?_eq_iff hcollision
  · intro hsame
    exact eqvGen_of_significantLines_eq ((ofContent?_eq_iff hcollision).mp hsame)
  · intro hjoins hsame
    have hlines := (ofContent?_eq_iff hcollision).mp hsame
    have hlength := congrArg List.length hlines
    rw [significantLines_eq, significantLines_eq, List.length_map, List.length_map] at hlength
    rcases hjoins with hjoins | hjoins
    · exact hjoins.length_lt.ne hlength.symm
    · exact hjoins.length_lt.ne hlength

/-- A blank line and a carriage return keep the digest of a line, and the digest of two lines is not that
of the line in which they are joined. -/
theorem digest_of_joined_lines :
    Digest.ofContent? "a\n" = Digest.ofContent? " \na\r\n" ∧
      Digest.ofContent? "a\nb\n" ≠ Digest.ofContent? "ab\n" := by
  constructor
  · have hblank : Digest.Respaced "a\n" " \na\n" :=
      .blankLine "" " " "a\n" .start (by decide)
    have hreturn : Digest.Respaced " \na\n" " \na\r\n" := .carriageReturn " \na" ""
    exact (digest_decides_lines "a\n" " \na\r\n").2.1
      (.trans _ _ _ (.rel _ _ hblank) (.rel _ _ hreturn))
  · have hcollision : Digest.NoCollision "a\nb\n" "ab\n" := by
      intro hdigest
      exact absurd hdigest (by decide +kernel)
    have hjoins : Digest.JoinsLines "a\nb\n" "ab\n" :=
      .join "" "a" "b" "ab" "\n" (by decide) (by decide) (by decide) (by decide) (by decide)
    exact ((digest_decides_lines "a\nb\n" "ab\n").2.2 hcollision).2.2 (.inl hjoins)

end RuleAudit
