import RuleAudit.CommandLine.Basic

/-!
# Options

The options of the program and of its commands, and what is done with their values.
-/

namespace RuleAudit

/-- The parameters that a command line can set. -/
inductive Parameter where
  | help
  | version
  | verbose
  | quiet
  | color
  | noConfig
  | paths
  | config
  | rules
  | bot
  | storyGraph
  | extensions
  | exclude
  | changed
  | comparisons
  | jobs
  | format
  | output
  | warnOnly
  deriving DecidableEq, Repr

/-- The form of a value. -/
inductive ValueForm where
  | text
  /-- A path, which is not empty. -/
  | path
  /-- A number that a 64-bit word can hold. -/
  | number
  | format
  | color
  deriving DecidableEq, Repr

/-- What a parameter takes. -/
inductive Arity where
  /-- A question that ends the reading of the command line. -/
  | question (answer : UsageFault)
  /-- Nothing, and at most once. -/
  | switch
  /-- Nothing, and any number of times. -/
  | counter
  /-- One value, and at most once. -/
  | single (form : ValueForm)
  /-- One value each time, which may be a list with commas. -/
  | many (form : ValueForm) (commas : Bool)
  deriving DecidableEq, Repr

/-- What each parameter takes. -/
def Parameter.arity : Parameter → Arity
  | .help => .question .helpWanted
  | .version => .question .versionWanted
  | .verbose => .counter
  | .quiet | .noConfig | .warnOnly => .switch
  | .color => .single .color
  | .paths => .many .path false
  | .config | .rules | .storyGraph | .output => .single .path
  | .bot => .single .text
  | .extensions => .many .text true
  | .exclude => .many .text false
  | .changed => .many .path true
  | .comparisons | .jobs => .single .number
  | .format => .single .format

/-- Whether a parameter takes values. -/
def Parameter.takesValue (parameter : Parameter) : Bool :=
  match parameter.arity with
  | .single _ | .many _ _ => true
  | _ => false

/-- The names by which a parameter is given. -/
structure OptionName where
  parameter : Parameter
  short : Option Char
  long : String

/-- A command as far as the reading of its arguments is concerned. -/
structure CommandShape where
  options : List OptionName
  /-- The commands that may follow. -/
  commands : List String
  /-- The parameter that takes the arguments that belong to no option. -/
  operands : Option Parameter

/-- The options that may stand before or behind the command. -/
def sharedOptions : List OptionName := [
  ⟨.verbose, some 'v', "verbose"⟩, ⟨.quiet, some 'q', "quiet"⟩, ⟨.color, none, "color"⟩,
  ⟨.noConfig, none, "no-config"⟩, ⟨.help, some 'h', "help"⟩]

/-- The program itself. -/
def programShape : CommandShape where
  options := sharedOptions ++ [⟨.version, some 'V', "version"⟩]
  commands := ["check", "rules", "help"]
  operands := none

/-- The options for where rules come from. -/
def ruleOptions : List OptionName := [
  ⟨.config, some 'c', "config"⟩, ⟨.rules, some 'r', "rules"⟩, ⟨.bot, none, "bot"⟩]

/-- The command that checks files. -/
def checkShape : CommandShape where
  options := sharedOptions ++ ruleOptions ++ [
    ⟨.storyGraph, none, "story-graph"⟩, ⟨.extensions, none, "ext"⟩,
    ⟨.exclude, some 'x', "exclude"⟩, ⟨.changed, none, "changed"⟩,
    ⟨.comparisons, none, "max-comparisons"⟩, ⟨.jobs, some 'j', "jobs"⟩,
    ⟨.format, some 'f', "format"⟩, ⟨.output, some 'o', "output"⟩,
    ⟨.warnOnly, none, "warn-only"⟩]
  commands := []
  operands := some .paths

/-- The command that lists rules. -/
def rulesShape : CommandShape where
  options := sharedOptions ++ ruleOptions
  commands := []
  operands := none

/-- The parameter of a long name. -/
def CommandShape.long? (shape : CommandShape) (name : String) : Option Parameter :=
  (shape.options.find? (·.long == name)).map (·.parameter)

/-- The parameter of a short name. -/
def CommandShape.short? (shape : CommandShape) (name : Char) : Option Parameter :=
  (shape.options.find? (·.short == some name)).map (·.parameter)

/-- The number that a text writes in decimal digits, which may have a plus sign in front. -/
def number? (text : String) : Option Nat :=
  let digits := match text.toList with
    | '+' :: rest => rest
    | characters => characters
  if digits.isEmpty || !digits.all Char.isDigit then none
  else
    let value := digits.foldl (fun sum c => sum * 10 + (c.toNat - '0'.toNat)) 0
    if value < Json.wordLimit then some value else none

/-- What is wrong with a value. -/
def ValueForm.fault? : ValueForm → String → Option UsageFault
  | .text, _ => none
  | .path, value => if value.isEmpty then some .badValue else none
  | .number, value => if (number? value).isSome then none else some .malformedValue
  | .format, value => if (OutputFormat.ofName? value).isSome then none else some .malformedValue
  | .color, value => if (ColorChoice.ofLabel? value).isSome then none else some .badValue

end RuleAudit
