import ParserConformance.CommandLine.Arguments
import ParserConformance.Suite.Run

/-!
# Commands

What the commands do and print, on a disk and in an environment.
-/

namespace ParserConformance.CommandLine

/-- What a command leaves behind. -/
structure Output where
  /-- Its status. -/
  status : Nat
  /-- What it printed. -/
  out : String
  /-- What it complained of. -/
  err : String
  deriving DecidableEq, Repr

/-- The output of a command that cannot be carried out. -/
def Output.failure (why : String) : Output := ⟨1, "", "error: " ++ why ++ "\n"⟩

/-- The output of a command that breaks down. -/
def Output.breakdown (why : String) : Output := ⟨101, "", why ++ "\n"⟩

/-- Why a command breaks down that cannot let that many checks run. -/
def tooManyJobs : String :=
  "a semaphore may not have more than MAX_PERMITS permits (" ++ toString SuiteRunner.maxJobs ++ ")"

/-- The world around a command. -/
structure Environment where
  /-- What runs programs. -/
  host : Program.Host
  /-- The disk. -/
  disk : Disk
  /-- The configuration file that the environment names. -/
  configFile : Option String
  /-- The time, as records tell it. -/
  now : String
  /-- How many checks run at a time unless that is configured. -/
  processors : Nat

/-- The languages to test with their artifacts, in order. -/
def suitesToRun (config : Configuration) (o : TestRequest) :
    Except String (List (String × Path)) :=
  match o.language, o.artifact with
  | some language, some artifact => .ok [(language, artifact)]
  | some language, none =>
    match config.language language with
    | .ok l => .ok [(language, l.artifact)]
    | .error error =>
      .error (error.message ++ " (pass --artifact or add [languages." ++ language ++ "])")
  | none, _ =>
    if config.languages.isEmpty then
      .error ("no languages configured; pass --language and --artifact, " ++
        "or a config with [languages.<id>] sections")
    else .ok (config.languages.map fun (id, l) => (id, l.artifact))

/-- The settings of a run, with what the options say in place of what is configured. -/
def settingsFor (config : Configuration) (o : TestRequest) : RunSettings :=
  let settings := config.runSettings
  { settings with
    corpusRoot := o.corpusRoot.getD settings.corpusRoot
    jobs := o.jobs.or settings.jobs
    timeout := o.timeout.or settings.timeout
    filter := o.filter.or settings.filter }

/-- What running suites comes to. -/
inductive SuitesOutcome where
  /-- All of them are recorded. -/
  | recorded (run : RunRecord)
  /-- It breaks down: a suite gets as far as its checks, and more of them are to run at a time than
  can. -/
  | brokeDown
  /-- It never ends: it waits for a parser whose load hangs. -/
  | hanging
  deriving DecidableEq

/-- Runs suites one after the other with one loader and records them; each finds the disk as the
ones before it have left it. -/
def runSuites (runner : SuiteRunner) :
    Disk → Loader → RunRecord → List (String × Path) → SuitesOutcome
  | _, _, run, [] => .recorded run
  | disk, loader, run, (language, artifact) :: suites =>
    let (loader, ticket) := loader.create disk artifact
    match loader.resolve disk ticket with
    | (_, none) => .hanging
    | (loader, some loaded) =>
      let suite := runner.runSuite disk language loaded
      if suite.result.isOk && runner.jobs > SuiteRunner.maxJobs then .brokeDown
      else
        runSuites runner suite.disk loader (run.record (.ofResult language suite.result)) suites

/-- A loader for programs without arguments. They see which configuration file the environment
names. -/
def programLoader (env : Environment) : Loader :=
  Loader.new [Program.kind env.host
    ⟨[], env.configFile.toList.map fun name => (Configuration.fileVariable, name)⟩]

/-- What the test command prints of a run. -/
def printRun (quiet : Bool) (format : ReportStyle) (run : RunRecord) : String :=
  match format with
  | .text => if quiet && run.isSuccess then "" else run.summary
  | .json => run.jsonText ++ "\n"
  | .tap => run.tapText

/-- The test command; it has no output if it never ends. -/
def runTest (env : Environment) (quiet : Bool) (o : TestRequest) : Option Output :=
  let loaded := match o.config with
    | some path => Configuration.load env.disk path
    | none => Configuration.ofEnvironment env.disk env.configFile
  match loaded with
  | .error error => some (.failure error.message)
  | .ok config =>
    match suitesToRun config o with
    | .error why => some (.failure why)
    | .ok suites =>
      let runner : SuiteRunner := ⟨settingsFor config o, .blockText, env.processors⟩
      match runSuites runner env.disk (programLoader env) ⟨env.now, []⟩ suites with
      | .recorded run => some ⟨if run.isSuccess then 0 else 1, printRun quiet o.format run, ""⟩
      | .brokeDown => some (.breakdown tooManyJobs)
      | .hanging => none

/-- What the parse command prints of a parser's answer. -/
def printReply (o : ParseRequest) : Reply → Output
  | .tree t =>
    let text := if o.json then t.encode.pretty else (t.outline o.positions).pretty
    ⟨0, text ++ "\n", ""⟩
  | .error message => .failure ("parser failed on '" ++ o.file.text ++ "': " ++ message)
  | .breakdown payload => .breakdown (payload.getD "Box<dyn Any>")

/-- The parse command; it has no output if it never ends. -/
def runParse (env : Environment) (o : ParseRequest) : Option Output :=
  match env.disk.readText o.file with
  | .error trouble =>
    some (.failure ("could not read '" ++ o.file.text ++ "': " ++ trouble.message))
  | .ok source =>
    let (loader, ticket) := (programLoader env).create env.disk o.artifact
    (loader.resolve env.disk ticket).2.map fun
      | .error error => .failure error.message
      | .ok handle => printReply o (handle.parser.answer env.disk source).1.reply

/-- The version of the command. -/
def version : String := "0.1.0"

/-- How the command is used. -/
def usage : String :=
  "Usage: grammar-test [--quiet] [--verbose] test [OPTIONS]\n" ++
  "       grammar-test [--quiet] [--verbose] parse --artifact PATH [--positions] [--json] FILE\n" ++
  "\n" ++
  "Options of test:\n" ++
  "  --config PATH, --language ID, --artifact PATH, --corpus-root PATH, --filter TEXT,\n" ++
  "  --jobs N, --timeout-ms N, --format text|json|tap\n"

/-- Carries out a run with the given arguments, if it ends. Misuse has the status 2. -/
def run (env : Environment) (args : List String) : Option Output :=
  match readInvocation args with
  | .error .help => some ⟨0, usage, ""⟩
  | .error .version => some ⟨0, "grammar-test " ++ version ++ "\n", ""⟩
  | .error .misuse => some ⟨2, "", usage⟩
  | .ok ⟨quiet, _, .test options⟩ => runTest env quiet options
  | .ok ⟨_, _, .parse options⟩ => runParse env options

end ParserConformance.CommandLine
