import PrivacyMapping.Command.Basic

/-!
# The command line

The arguments of the program, read from left to right. Commands lie within one another, as `ssp`
does within `inspect`, and each of them has options of its own. An option takes its value from the
same argument, after `=`, or from the next one; it is settled when the next option or positional
argument is met, or at the end of its command. Each option is given at most once for a command. The
options `--config` and `--verbose` are understood everywhere; of several configurations, that of the
innermost command holds. After `--` every argument is positional.
-/

namespace PrivacyMapping.Command.Line

/-- Why nothing is run: the arguments make no sense, or they ask for help or for the version. -/
inductive Stop where
  | usage
  | help
  | version
  deriving DecidableEq, Repr

/-! ## Grammar -/

structure Grammar where
  /-- Options that take a value. -/
  options : List String := ["config"]
  /-- Options without a value that may be given once. -/
  switches : List String := []
  /-- The option that a positional argument stands for. -/
  positional : Option String := none
  /-- Options that must be given. -/
  required : List String := []
  /-- Commands within the command. -/
  commands : List String := []
  /-- Whether the version can be asked for. -/
  versioned : Bool := false
  deriving Repr

def mappingOptions : List String := ["first", "second", "rules"]

def programGrammar : Grammar :=
  { commands := ["map", "apply", "inspect"], versioned := true }

def mapGrammar : Grammar :=
  { options := ["config", "out"] ++ mappingOptions, required := mappingOptions }

def applyGrammar : Grammar :=
  { options := ["config", "ssp", "out", "timestamp"] ++ mappingOptions
    required := "ssp" :: mappingOptions }

def inspectGrammar : Grammar :=
  { commands := ["ssp", "poam"] }

/-- The grammar of the commands within `inspect`. -/
def documentGrammar : Grammar :=
  { switches := ["json"], positional := some "path", required := ["path"] }

/-- The options whose value may be empty, because it is no path. -/
def mayBeEmpty : List String := ["timestamp"]

/-! ## Reading the arguments of one command -/

/-- What has been read of a command: the settled values and switches, the option that is not settled
yet, with its value if that has been met, and whether all further arguments are positional. -/
structure State where
  values : Entries String := []
  switches : List String := []
  unsettled : Option (String × Option String) := none
  onlyPositional : Bool := false

namespace State

def settle (state : State) : Except Stop State :=
  match state.unsettled with
  | none => .ok state
  | some (_, none) => .error .usage
  | some (name, some value) =>
    if (value = "" ∧ name ∉ mayBeEmpty) ∨ name ∈ state.values.keys then .error .usage
    else .ok { state with values := state.values.insert name value, unsettled := none }

/-- Whether an option waits for its value. -/
def isWaiting (state : State) : Bool :=
  match state.unsettled with
  | some (_, none) => true
  | _ => false

/-- Meet an option, with its value if the same argument holds it. -/
def meet (state : State) (name : String) (value : Option String) : Except Stop State := do
  let state ← state.settle
  pure { state with unsettled := some (name, value) }

def switch (state : State) (name : String) : Except Stop State := do
  let state ← state.settle
  if name ∈ state.switches then throw .usage
  pure { state with switches := name :: state.switches }

/-- Ask for something instead of running the command. -/
def ask (state : State) (stop : Stop) : Except Stop State := do
  let _ ← state.settle
  throw stop

/-- Meet an option that is written with two dashes: its name, and the value after the sign of
equality, if there is one. -/
def meetLong (state : State) (grammar : Grammar) (name : String) (value : Option String) :
    Except Stop State :=
  if name ∈ grammar.options then state.meet name value
  else if value.isSome then .error .usage
  else if name ∈ grammar.switches then state.switch name
  else if name = "verbose" then state.settle
  else if name = "help" then state.ask .help
  else if name = "version" ∧ grammar.versioned then state.ask .version
  else .error .usage

/-- Meet options that are written with one letter each, after one dash. -/
def meetLetters (state : State) (grammar : Grammar) : List Char → Except Stop State
  | [] => .ok state
  | 'v' :: rest => do (← state.settle).meetLetters grammar rest
  | 'h' :: _ => state.ask .help
  | 'V' :: _ => if grammar.versioned then state.ask .version else .error .usage
  | _ :: _ => .error .usage

def meetPositional (state : State) (grammar : Grammar) (value : String) : Except Stop State :=
  match grammar.positional with
  | none => .error .usage
  | some name =>
    if name ∈ state.values.keys ∨ (state.unsettled.map (·.1)) = some name then .error .usage
    else state.meet name (some value)

/-- Take the value that the open option waits for. -/
def give (state : State) (value : String) : State :=
  { state with unsettled := state.unsettled.map fun option => (option.1, some value) }

/-- Meet an argument that is neither the name of a command nor the mark before the positional ones.
-/
def meetArgument (state : State) (grammar : Grammar) (argument : String) : Except Stop State :=
  match argument.toList with
  | '-' :: '-' :: name =>
    match Text.pieces '=' name with
    | (name, []) => state.meetLong grammar (String.ofList name) none
    | (first, _ :: _) =>
      state.meetLong grammar (String.ofList first)
        (some (String.ofList (name.drop (first.length + 1))))
  | '-' :: letter :: letters => state.meetLetters grammar (letter :: letters)
  | _ =>
    if state.isWaiting then .ok (state.give argument)
    else state.meetPositional grammar argument

end State

/-- Whether the arguments after the word `help` lead to a command. -/
def isHelpPath (commands : List String) : List String → Bool
  | [] => true
  | ["help"] => !commands.isEmpty
  | name :: rest =>
    name ∈ commands && if name = "inspect" then isHelpPath inspectGrammar.commands rest
      else rest.isEmpty

/-- Read the arguments of a command up to its end or to a command within it, which is given with the
arguments after it. -/
def readArguments (grammar : Grammar) (state : State) :
    List String → Except Stop (State × Option (String × List String))
  | [] => .ok (state, none)
  | argument :: rest =>
    if state.onlyPositional then do
      readArguments grammar (← state.meetPositional grammar argument) rest
    else if !state.isWaiting && argument ∈ grammar.commands then
      .ok (state, some (argument, rest))
    else if !state.isWaiting && argument = "help" && !grammar.commands.isEmpty then
      .error (if isHelpPath grammar.commands rest then .help else .usage)
    else if argument = "--" then
      readArguments grammar { state with onlyPositional := true } rest
    else do
      readArguments grammar (← state.meetArgument grammar argument) rest

/-- Read all arguments of a command that holds no others. -/
def readCommand (grammar : Grammar) (arguments : List String) : Except Stop State := do
  let (state, _) ← readArguments grammar {} arguments
  let state ← state.settle
  if grammar.required.all (· ∈ state.values.keys) then pure state else throw .usage

/-! ## Requests -/

/-- A command with the path of its configuration. -/
structure Request where
  config : Option String
  command : Command
  deriving DecidableEq, Repr

def State.value? (state : State) (name : String) : Option String :=
  state.values.get? name

def State.value (state : State) (name : String) : String :=
  (state.value? name).getD ""

def State.inputs (state : State) : MappingInputs :=
  ⟨state.value "first", state.value "second", state.value "rules"⟩

/-- Read the arguments of a command within `inspect`. -/
def readInspect (arguments : List String) : Except Stop Request := do
  let (outer, inner) ← readArguments inspectGrammar {} arguments
  match inner with
  | none => throw .usage
  | some (name, rest) =>
    let state ← readCommand documentGrammar rest
    let outer ← outer.settle
    let json := "json" ∈ state.switches
    let path := state.value "path"
    let command :=
      if name = "ssp" then inspectSecurityPlan path json else inspectActionPlan path json
    pure ⟨state.value? "config" <|> outer.value? "config", command⟩

/-- Read the arguments of a command of the program. -/
def readNamed (name : String) (arguments : List String) : Except Stop Request := do
  if name = "inspect" then readInspect arguments
  else if name = "map" then
    let state ← readCommand mapGrammar arguments
    pure ⟨state.value? "config", map state.inputs (state.value? "out")⟩
  else
    let state ← readCommand applyGrammar arguments
    pure ⟨state.value? "config",
      apply (state.value "ssp") state.inputs (state.value? "out") (state.value? "timestamp")⟩

def parse (arguments : List String) : Except Stop Request := do
  let (outer, inner) ← readArguments programGrammar {} arguments
  match inner with
  | none => throw .usage
  | some (name, rest) =>
    let request ← readNamed name rest
    let outer ← outer.settle
    pure { request with config := request.config <|> outer.value? "config" }

end PrivacyMapping.Command.Line
