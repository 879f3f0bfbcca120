import RuleAudit.CommandLine.Options

/-!
# Reading command lines

Arguments are read one after the other. The values of an option are kept until it is clear that no more
belong to it, and are judged only then; so a fault of a later argument may be found first.
-/

namespace RuleAudit

/-- What was read of the arguments of a command. -/
structure Given where
  /-- The parameters that were set, each with its values. -/
  values : List (Parameter × List String) := []
  /-- The parameter whose values are still being read, with those so far. -/
  pending : Option (Parameter × List String) := none
  /-- Whether the pending parameter waits for its value. -/
  waiting : Bool := false
  /-- Whether all further arguments are operands. -/
  operandsOnly : Bool := false

/-- The pieces of a text between commas. -/
def commaPieces : List Char → List (List Char)
  | [] => [[]]
  | ',' :: rest => [] :: commaPieces rest
  | c :: rest =>
    match commaPieces rest with
    | [] => [[c]]
    | piece :: later => (c :: piece) :: later

namespace Given

/-- The values of a parameter. -/
def get? (given : Given) (parameter : Parameter) : Option (List String) :=
  given.values.lookup parameter

/-- Whether a parameter was set. -/
def has (given : Given) (parameter : Parameter) : Bool :=
  (given.get? parameter).isSome

/-- The last value of a parameter. -/
def last? (given : Given) (parameter : Parameter) : Option String :=
  (given.get? parameter).bind List.getLast?

/-- What was read, with a parameter set to values. -/
def set (given : Given) (parameter : Parameter) (values : List String) : Given :=
  { given with
    values := given.values.filter (·.1 != parameter) ++ [(parameter, values)] }

/-- What was read, with values for a parameter, unless the parameter or the values do not allow it. -/
def take (given : Given) (parameter : Parameter) (values : List String) :
    Except UsageFault Given :=
  match parameter.arity with
  | .question answer => .error answer
  | .switch => if given.has parameter then .error .repeated else .ok (given.set parameter [])
  | .counter => .ok (given.set parameter ("" :: (given.get? parameter).getD []))
  | .single form =>
    if values.isEmpty then .error .badValue
    else if given.has parameter then .error .repeated
    else
      match values.findSome? form.fault? with
      | some fault => .error fault
      | none => .ok (given.set parameter values)
  | .many form commas =>
    if values.isEmpty then .error .badValue
    else
      let values :=
        if commas then values.flatMap fun value => (commaPieces value.toList).map String.ofList
        else values
      match values.findSome? form.fault? with
      | some fault => .error fault
      | none => .ok (given.set parameter ((given.get? parameter).getD [] ++ values))

/-- What was read, with nothing pending. -/
def settle (given : Given) : Except UsageFault Given :=
  match given.pending with
  | none => .ok given
  | some (parameter, values) =>
    { given with pending := none, waiting := false }.take parameter values

/-- What was read, with a parameter set after the pending one. -/
def react (given : Given) (parameter : Parameter) (values : List String) :
    Except UsageFault Given := do
  (← given.settle).take parameter values

/-- What was read, with a parameter that waits for its value. -/
def expect (given : Given) (parameter : Parameter) : Except UsageFault Given := do
  return { ← given.settle with pending := some (parameter, []), waiting := true }

/-- What was read, after an option by its long name and perhaps a value behind `=`. -/
def long (shape : CommandShape) (given : Given) (name : String) (value : Option String) :
    Except UsageFault Given :=
  match shape.long? name with
  | none => .error .unknownArgument
  | some parameter =>
    match parameter.takesValue, value with
    | true, some value => given.react parameter [value]
    | true, none => given.expect parameter
    | false, some _ => .error .unwantedValue
    | false, none => given.react parameter []

/-- What was read, after options by their short names. What follows the name of an option that takes a
value is its value. -/
def shorts (shape : CommandShape) (given : Given) : List Char → Except UsageFault Given
  | [] => .ok given
  | name :: rest =>
    match shape.short? name with
    | none => .error .unknownArgument
    | some parameter =>
      if parameter.takesValue then
        match rest with
        | [] => given.expect parameter
        | '=' :: value => given.react parameter [String.ofList value]
        | value => given.react parameter [String.ofList value]
      else
        match given.react parameter [] with
        | .error fault => .error fault
        | .ok given => shorts shape given rest

/-- What was read, after an operand. -/
def operand (shape : CommandShape) (given : Given) (value : String) : Except UsageFault Given :=
  match shape.operands with
  | none =>
    if shape.commands.isEmpty || given.operandsOnly && shape.commands.contains value then
      .error .unknownArgument
    else .error .unknownCommand
  | some parameter =>
    match given.pending with
    | some (other, values) =>
      if other = parameter then
        .ok { given with pending := some (parameter, values ++ [value]) }
      else do
        return { ← given.settle with pending := some (parameter, [value]) }
    | none => .ok { given with pending := some (parameter, [value]) }

/-- What was read, after one argument that is no command. -/
def argument (shape : CommandShape) (given : Given) (text : String) : Except UsageFault Given :=
  if given.operandsOnly then given.operand shape text
  else
    match text.toList with
    | ['-', '-'] => .ok { given with operandsOnly := true }
    | '-' :: '-' :: rest =>
      let name := String.ofList (rest.takeWhile (· ≠ '='))
      match rest.dropWhile (· ≠ '=') with
      | [] => given.long shape name none
      | _ :: value => given.long shape name (some (String.ofList value))
    | '-' :: c :: rest => given.shorts shape (c :: rest)
    | _ =>
      match given.waiting, given.pending with
      | true, some (parameter, values) =>
        .ok { given with pending := some (parameter, values ++ [text]), waiting := false }
      | _, _ => given.operand shape text

/-- The arguments of a command up to the command that follows: what was read, and that command with its
own arguments. -/
def arguments (shape : CommandShape) (given : Given) :
    List String → Except UsageFault (Given × Option (String × List String))
  | [] => .ok (given, none)
  | text :: later =>
    if !given.operandsOnly && !given.waiting && shape.commands.contains text then
      .ok (given, some (text, later))
    else
      match given.argument shape text with
      | .error fault => .error fault
      | .ok given => given.arguments shape later

end Given

/-- The arguments of a command behind which none follows. -/
def commandArguments (shape : CommandShape) (arguments : List String) :
    Except UsageFault Given := do
  let (given, _) ← Given.arguments shape {} arguments
  given.settle

/-- The question for help on a command: there is help on each command, but not below it. -/
def helpFault : List String → UsageFault
  | [] => .helpWanted
  | [command] => if programShape.commands.contains command then .helpWanted else .unknownCommand
  | _ => .unknownCommand

namespace Given

/-- The paths of a parameter. -/
def paths (given : Given) (parameter : Parameter) : List Path :=
  ((given.get? parameter).getD []).map Path.mk

/-- The path of a parameter. -/
def path? (given : Given) (parameter : Parameter) : Option Path :=
  (given.last? parameter).map Path.mk

/-- What a check is asked to do. -/
def checkRequest (given : Given) : CheckRequest where
  paths := if given.has .paths then given.paths .paths else [⟨"."⟩]
  config := given.path? .config
  rules := given.path? .rules
  bot := given.last? .bot
  storyGraph := given.path? .storyGraph
  extensions := given.get? .extensions
  excluded := (given.get? .exclude).getD []
  changed := given.paths .changed
  comparisons := (given.last? .comparisons).bind number?
  jobs := ((given.last? .jobs).bind number?).getD 1
  format := ((given.last? .format).bind OutputFormat.ofName?).getD .text
  output := given.path? .output
  warnOnly := given.has .warnOnly

/-- What a listing of rules is asked to do. -/
def rulesRequest (given : Given) : RulesRequest where
  config := given.path? .config
  rules := given.path? .rules
  bot := given.last? .bot

/-- A request with the shared options, of which those behind the command outweigh those before it. -/
def invocation (outer inner : Given) (request : Request) : Invocation where
  verbosity := min 255 (((inner.get? .verbose).or (outer.get? .verbose)).getD []).length
  quiet := inner.has .quiet || outer.has .quiet
  color := (((inner.last? .color).or (outer.last? .color)).bind ColorChoice.ofLabel?).getD .auto
  noConfig := inner.has .noConfig || outer.has .noConfig
  request

end Given

/-- What a command line asks for. -/
def Invocation.read (arguments : List String) : Except UsageFault Invocation := do
  match ← Given.arguments programShape {} arguments with
  | (given, some ("check", rest)) =>
    let inner ← commandArguments checkShape rest
    return (← given.settle).invocation inner (.check inner.checkRequest)
  | (given, some ("rules", rest)) =>
    let inner ← commandArguments rulesShape rest
    return (← given.settle).invocation inner (.rules inner.rulesRequest)
  | (_, some (_, rest)) => throw (helpFault rest)
  | (given, none) =>
    let given ← given.settle
    if given.values.isEmpty then throw .nothingGiven else throw .noCommand

end RuleAudit
