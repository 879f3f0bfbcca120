import RuleAudit.Proofs.Json.Codec
import RuleAudit.Rule.Basic
import RuleAudit.Violation.Record

/-!
# The codecs of rules and of records of violations

Rules and records are decoded from their texts. The line of a record is kept in a 64-bit word, so
only lines below its limit come back; every decoded record has such a line.
-/

namespace RuleAudit

/-- A severity is decoded from its word. -/
@[simp] theorem Severity.ofJson?_toJson (severity : Severity) :
    ofJson? severity.toJson = some severity := by
  cases severity <;> rfl

/-! ## Rules -/

namespace Rule

/-- The codec of rules. -/
def codec : Json.Codec Rule where
  encode := toJson
  decode? := ofJson?
  fields := fieldNames
  Fits _ := True

/-- The value of a rule can be written. -/
theorem writable_toJson (rule : Rule) : Json.Writable rule.toJson := by
  cases hpath : rule.scannerPath <;> simp [toJson, Severity.toJson, hpath]

/-- A rule is decoded from its value. -/
theorem ofJson?_toJson (rule : Rule) : ofJson? rule.toJson = some rule := by
  obtain ⟨name, ruleFile, scannerPath, description, severity⟩ := rule
  cases scannerPath <;>
    simp [ofJson?, toJson, Json.fields?, fieldNames, Json.field?, Json.string?, Json.optionalText?,
      Json.textOr]

/-- The codec of rules fulfils what it has to. -/
theorem codec_lawful : codec.Lawful where
  writable := writable_toJson
  decode_encode rule _ := ofJson?_toJson rule
  fits_of_decode _ _ _ := trivial
  decode_congr members others hsame := by
    simp only [codec, ofJson?] at hsame ⊢
    rw [hsame.fields?_eq]

end Rule

/-! ## Records of violations -/

namespace ViolationRecord

/-- The codec of records. -/
def codec : Json.Codec ViolationRecord where
  encode := toJson
  decode? := ofJson?
  fields := fieldNames
  Fits record := ∀ line ∈ record.line, line < Json.wordLimit

/-- The value of a record can be written. -/
theorem writable_toJson (record : ViolationRecord) : Json.Writable record.toJson := by
  cases hline : record.line <;> simp [toJson, Severity.toJson, hline]

/-- A record is decoded from its value. -/
theorem ofJson?_toJson {record : ViolationRecord}
    (hline : ∀ line ∈ record.line, line < Json.wordLimit) :
    ofJson? record.toJson = some record := by
  have hword := Json.optionalWord?_elim_ofNat hline
  simp [ofJson?, toJson, Json.fields?, fieldNames, Json.field?, Json.string?, hword]

/-- A record that was decoded has a line below the limit, if it has one. -/
theorem line_lt_of_ofJson? {value : Json} {record : ViolationRecord}
    (hvalue : ofJson? value = some record) : ∀ line ∈ record.line, line < Json.wordLimit := by
  unfold ofJson? at hvalue
  obtain ⟨fields, hfields, hvalue⟩ := Option.bind_eq_some_iff.mp hvalue
  split at hvalue
  · simp only [Option.bind_eq_bind, Option.bind_eq_some_iff, Option.pure_def] at hvalue
    obtain ⟨_, _, _, _, _, _, _, _, line, hline, _, _, hrecord⟩ := hvalue
    rw [← Option.some.inj hrecord]
    exact Json.lt_of_optionalWord? hline
  · contradiction

/-- The codec of records fulfils what it has to. -/
theorem codec_lawful : codec.Lawful where
  writable := writable_toJson
  decode_encode _ hline := ofJson?_toJson hline
  fits_of_decode _ _ := line_lt_of_ofJson?
  decode_congr members others hsame := by
    simp only [codec, ofJson?] at hsame ⊢
    rw [hsame.fields?_eq]

end ViolationRecord

/-- Rules and records are decoded from every text that writes them, whatever the order of its members,
their blanks and escapes and the further members among them; and what was decoded once is decoded
again after it was written. -/
theorem codecs_round_trip : Rule.codec.RoundTrips ∧ ViolationRecord.codec.RoundTrips :=
  ⟨Rule.codec_lawful.roundTrips, ViolationRecord.codec_lawful.roundTrips⟩

/-- A rule is decoded from a text with its members in another order and among others. -/
theorem reordered_rule_decoded :
    Rule.codec.read? (Json.pretty (.object [("x", .array [.null]), ("severity", .string "warning"),
      ("rule_file", .string "a.json"), ("description", .string ""), ("name", .string "a")])) =
    some { name := "a", ruleFile := "a.json", severity := .warning } := by
  let rule : Rule := { name := "a", ruleFile := "a.json", severity := .warning }
  obtain ⟨hread, hwrite, _, hcongr, _⟩ := codecs_round_trip.1
  rw [← hread rule trivial]
  refine hcongr _ _ _ _ (Json.Writable.denotes_pretty (by simp)) (hwrite rule) ?_
  intro names hnames
  simp only [Rule.codec, Rule.fieldNames, List.mem_cons, List.not_mem_nil, or_false] at hnames
  obtain rfl | rfl | rfl | rfl | rfl := hnames
  all_goals
    refine ⟨by decide, by decide, ?_⟩
    rintro ⟨name, value⟩ hname
    simp_all [rule, Severity.toJson, Severity.label]

example :
    Rule.codec.read? "\x7b \"x\": [1, \x7b\x7d], \"severity\" :\"warn\\u0069ng\",
      \"rule_file\": \"\\uD83D\\ude00.json\", \"name\": \"a\", \"y\": null\x7d" =
    some { name := "a", ruleFile := "😀.json", severity := .warning } := by
  decide +kernel

end RuleAudit
