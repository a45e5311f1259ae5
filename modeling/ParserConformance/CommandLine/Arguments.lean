import ParserConformance.Files.Path
import ParserConformance.Instances

/-!
# Command line arguments

Arguments are read from left to right, and the first thing wrong with them decides. An option's
value stands in the argument after it or behind an equals sign, and is judged before the next
argument is looked at. What is asked for and not given is noticed last.
-/

namespace ParserConformance.CommandLine

/-- Why reading the arguments stops. -/
inductive Halt where
  /-- An explanation of the arguments is asked for. -/
  | help
  /-- The version is asked for. -/
  | version
  /-- The arguments are at fault. -/
  | misuse
  deriving DecidableEq, Repr

/-- What a command's arguments may be. -/
structure Grammar where
  /-- The options that take no value. -/
  switches : List String
  /-- The options that take a value, and which values they take. -/
  valued : List (String × (String → Bool))
  /-- How many arguments that are no options it takes. -/
  positionals : Nat
  /-- Whether it has commands of its own. -/
  hasCommands : Bool

/-- The arguments read so far. -/
structure Reading where
  /-- The options in order; an option without a value has an empty one. -/
  options : List (String × String)
  /-- The arguments that are no options, in order. -/
  positionals : List String
  /-- The command and its arguments. -/
  command : Option (String × List String)
  deriving DecidableEq, Repr

namespace Reading

/-- Nothing read. -/
def empty : Reading := ⟨[], [], none⟩

/-- Whether an option was given. -/
def has (r : Reading) (name : String) : Bool := r.options.any (·.1 = name)

/-- The value of an option. -/
def value? (r : Reading) (name : String) : Option String := r.options.lookup name

/-- One more option, which was not given before. -/
def addOption (r : Reading) (name value : String) : Except Halt Reading :=
  if r.has name then .error .misuse else .ok { r with options := r.options ++ [(name, value)] }

/-- One more argument that is no option. An empty one is none that a path could be. -/
def addPositional (r : Reading) (g : Grammar) (value : String) : Except Halt Reading :=
  if r.positionals.length < g.positionals && !value.isEmpty then
    .ok { r with positionals := r.positionals ++ [value] }
  else .error .misuse

end Reading

/-- Whether an argument stands for itself and is no option. -/
def isValue (arg : String) : Bool := arg = "-" || arg.toList.head? ≠ some '-'

/-- Reads the letters of an argument with one dash. -/
def readLetters (g : Grammar) (r : Reading) : List Char → Except Halt Reading
  | [] => .ok r
  | c :: cs =>
    if c = 'h' then .error .help
    else if c = 'V' && g.hasCommands then .error .version
    else if c = 'v' && cs.head? ≠ some '=' then do readLetters g (← r.addOption "verbose" "") cs
    else .error .misuse

/-- Reads the arguments after one that says that no options follow. -/
def readPositionals (g : Grammar) (r : Reading) : List String → Except Halt Reading
  | [] => .ok r
  | arg :: args => do readPositionals g (← r.addPositional g arg) args

/-- An option's name and the value behind an equals sign. -/
def splitEquals (cs : List Char) : String × Option String :=
  let name := cs.takeWhile (· ≠ '=')
  (String.ofList name,
    if name.length < cs.length then some (String.ofList (cs.drop (name.length + 1))) else none)

/-- Reads arguments. `room` bounds how many there are. -/
def readArguments (g : Grammar) : (room : Nat) → Reading → List String → Except Halt Reading
  | _, r, [] => .ok r
  | 0, _, _ :: _ => .error .misuse
  | room + 1, r, arg :: args =>
    match arg.toList with
    | ['-', '-'] => readPositionals g r args
    | '-' :: '-' :: long =>
      let (name, attached) := splitEquals long
      match g.valued.lookup name with
      | some takes =>
        match attached, args with
        | some value, args =>
          if takes value then do readArguments g room (← r.addOption name value) args
          else .error .misuse
        | none, value :: args =>
          if isValue value && takes value then do
            readArguments g room (← r.addOption name value) args
          else .error .misuse
        | none, [] => .error .misuse
      | none =>
        if attached.isSome then .error .misuse
        else if name = "help" then .error .help
        else if name = "version" && g.hasCommands then .error .version
        else if g.switches.contains name then do
          readArguments g room (← r.addOption name "") args
        else .error .misuse
    | '-' :: c :: cs => do readArguments g room (← readLetters g r (c :: cs)) args
    | _ =>
      if g.hasCommands then .ok { r with command := some (arg, args) }
      else do readArguments g room (← r.addPositional g arg) args

/-! ### Values -/

/-- A natural number below 2^64 in decimal digits, a plus sign before it allowed. -/
def natural? (s : String) : Option Nat :=
  let digits := match s.toList with
    | '+' :: cs => cs
    | cs => cs
  let n := digits.foldl (fun n c => n * 10 + (c.toNat - '0'.toNat)) 0
  if !digits.isEmpty && digits.all Char.isDigit && n < 2 ^ 64 then some n else none

/-- How a report is printed. -/
inductive ReportStyle where
  /-- As a summary. -/
  | text
  /-- As JSON. -/
  | json
  /-- As a test stream. -/
  | tap
  deriving DecidableEq, Repr

/-- The format of a given name. -/
def ReportStyle.ofName? : String → Option ReportStyle
  | "text" => some .text
  | "json" => some .json
  | "tap" => some .tap
  | _ => none

/-! ### Commands -/

/-- What to test, and how. -/
structure TestRequest where
  /-- The configuration file. -/
  config : Option Path
  /-- The only language to test. -/
  language : Option String
  /-- The artifact for that language. -/
  artifact : Option Path
  /-- The corpus root in place of the configured one. -/
  corpusRoot : Option Path
  /-- What names of fixtures have to contain. -/
  filter : Option String
  /-- How many fixtures are checked at a time. -/
  jobs : Option Nat
  /-- How long a parser may take, in milliseconds. -/
  timeout : Option Nat
  /-- How the report is printed. -/
  format : ReportStyle
  deriving DecidableEq, Repr

/-- What to parse, and how to print it. -/
structure ParseRequest where
  /-- The parser artifact. -/
  artifact : Path
  /-- The source file. -/
  file : Path
  /-- Whether spans are printed. -/
  positions : Bool
  /-- Whether the parse tree is printed as JSON. -/
  json : Bool
  deriving DecidableEq, Repr

/-- A command with its options. -/
inductive Command where
  /-- Runs conformance suites. -/
  | test (options : TestRequest)
  /-- Prints what a parser makes of a file. -/
  | parse (options : ParseRequest)
  deriving DecidableEq, Repr

/-- What the arguments ask for. -/
structure Invocation where
  /-- Whether only what is essential is printed. -/
  quiet : Bool
  /-- Whether a log is wanted. -/
  verbose : Bool
  /-- The command. -/
  command : Command
  deriving DecidableEq, Repr

/-- The options that may stand before and after the command. -/
def commonSwitches : List String := ["quiet", "verbose"]

/-- The arguments before the command. -/
def mainGrammar : Grammar := ⟨commonSwitches, [], 0, true⟩

/-- The arguments of the test command. -/
def testGrammar : Grammar where
  switches := commonSwitches
  valued := [
    ("config", fun s => !s.isEmpty), ("language", fun _ => true),
    ("artifact", fun s => !s.isEmpty), ("corpus-root", fun s => !s.isEmpty),
    ("filter", fun _ => true), ("jobs", fun s => (natural? s).any (0 < ·)),
    ("timeout-ms", fun s => (natural? s).isSome),
    ("format", fun s => (ReportStyle.ofName? s).isSome)]
  positionals := 0
  hasCommands := false

/-- The arguments of the parse command. -/
def parseGrammar : Grammar where
  switches := commonSwitches ++ ["positions", "json"]
  valued := [("artifact", fun s => !s.isEmpty)]
  positionals := 1
  hasCommands := false

/-- The test command that was read. An artifact is given for one language only. -/
def testCommand (r : Reading) : Except Halt Command :=
  if r.has "artifact" && !r.has "language" then .error .misuse
  else
    .ok (.test {
      config := (r.value? "config").map (⟨·⟩)
      language := r.value? "language"
      artifact := (r.value? "artifact").map (⟨·⟩)
      corpusRoot := (r.value? "corpus-root").map (⟨·⟩)
      filter := r.value? "filter"
      jobs := (r.value? "jobs").bind natural?
      timeout := (r.value? "timeout-ms").bind natural?
      format := ((r.value? "format").bind ReportStyle.ofName?).getD .text })

/-- The parse command that was read. -/
def parseCommand (r : Reading) : Except Halt Command :=
  match r.value? "artifact", r.positionals with
  | some artifact, [file] =>
    .ok (.parse ⟨⟨artifact⟩, ⟨file⟩, r.has "positions", r.has "json"⟩)
  | _, _ => .error .misuse

/-- The names of the commands. -/
def commandNames : List String := ["test", "parse", "help"]

/-- Reads the arguments of a run. -/
def readInvocation (args : List String) : Except Halt Invocation := do
  let outer ← readArguments mainGrammar args.length .empty args
  let finish (g : Grammar) (args : List String) (make : Reading → Except Halt Command) :
      Except Halt Invocation := do
    let inner ← readArguments g args.length .empty args
    return ⟨outer.has "quiet" || inner.has "quiet", outer.has "verbose" || inner.has "verbose",
      ← make inner⟩
  match outer.command with
  | some ("test", args) => finish testGrammar args testCommand
  | some ("parse", args) => finish parseGrammar args parseCommand
  | some ("help", []) => .error .help
  | some ("help", [name]) =>
    if commandNames.contains name then .error .help else .error .misuse
  | _ => .error .misuse

end ParserConformance.CommandLine
