import ParserConformance.Check.Trace
import ParserConformance.Config.Configuration
import ParserConformance.Corpus.Discovery
import ParserConformance.Loader.Basic
import ParserConformance.Parser.Program
import ParserConformance.Report.Run
import ParserConformance.Suite.Board

/-!
# Running a suite

A suite is the check of one language's corpus against one parser. Only what concerns the suite
as a whole, a parser that cannot be loaded or a corpus that cannot be read, keeps it from being
run; a fixture that fails is an outcome.
-/

namespace ParserConformance

/-- Why a suite cannot be run. -/
inductive SuiteProblem where
  /-- There is no parser. -/
  | parserUnavailable (language : String) (error : LoadProblem)
  /-- There is no corpus. -/
  | corpusNotFound (language : String) (dir : Path)
  /-- A corpus file cannot be read. -/
  | corpusUnreadable (path : Path) (message : String)
  deriving DecidableEq, Repr

namespace SuiteProblem

/-- The wording of an error. -/
def message : SuiteProblem → String
  | .parserUnavailable language error =>
    "parser for '" ++ language ++ "' unavailable: " ++ error.message
  | .corpusNotFound language dir => "no corpus for '" ++ language ++ "' at " ++ dir.text
  | .corpusUnreadable path message => "cannot read corpus file " ++ path.text ++ ": " ++ message

/-- The language of an error that knows it. -/
def language? : SuiteProblem → Option String
  | .parserUnavailable language _ => some language
  | .corpusNotFound language _ => some language
  | .corpusUnreadable _ _ => none

/-- The error of a corpus that is not there. -/
def ofAbsence (language : String) : Corpus.Absence → SuiteProblem
  | .notFound dir => .corpusNotFound language dir
  | .unreadable file trouble => .corpusUnreadable file trouble.message

end SuiteProblem

/-- What suites are run with, the loader aside. -/
structure SuiteRunner where
  /-- How suites are run. -/
  config : RunSettings
  /-- The format of corpus files. -/
  corpusFormat : Corpus.Format
  /-- How many checks run at a time unless that is configured. -/
  processors : Nat

namespace SuiteRunner

/-- How many checks run at a time. -/
def jobs (c : SuiteRunner) : Nat := c.config.jobs.getD c.processors

/-- The greatest number of checks that can be let run at a time. -/
def maxJobs : Nat := 2 ^ 61 - 1

/-- The fixtures that are run: those whose name contains what is asked for. -/
def select (c : SuiteRunner) (fixtures : List Corpus.Fixture) : List Corpus.Fixture :=
  match c.config.filter with
  | some needle => fixtures.filter fun f => Text.contains needle.toList f.name.toList
  | none => fixtures

/-- The check of a fixture with a live parser, and the disk afterwards. -/
def check (c : SuiteRunner) (handle : Handle) (disk : Disk) (f : Corpus.Fixture) :
    Option Check.Trace × Disk :=
  Check.run c.corpusFormat c.config.timeout handle.parser disk f

/-- The board after all checks of the fixtures. -/
def runBoard (c : SuiteRunner) (disk : Disk) (handle : Handle)
    (fixtures : List Corpus.Fixture) : Suite.Board :=
  let board := Suite.Board.initial c.jobs handle.id disk fixtures
  (board.moves (c.check handle) (Suite.Board.oneByOne fixtures.length)).getD board

/-- How long the checks on a board that is over took, in milliseconds. -/
def duration (c : SuiteRunner) (b : Suite.Board) : Nat :=
  Suite.finishTime (List.replicate (min (max c.jobs 1) b.tasks.length) 0) b.durations

/-- The corpus of a language. -/
def fixtures (c : SuiteRunner) (disk : Disk) (language : String) :
    Except SuiteProblem (List Corpus.Fixture) :=
  match Corpus.collect c.corpusFormat disk language (c.config.corpusDirectory language) with
  | .error absence => .error (.ofAbsence language absence)
  | .ok corpus => .ok corpus.fixtures

end SuiteRunner

/-- The record of a suite run with a handle. -/
def SuiteRecord.ofHandle (language : String) (handle : Handle) (outcomes : List Outcome) :
    SuiteRecord :=
  ⟨language, handle.artifact.path, handle.id, handle.fingerprint, outcomes⟩

/-- A suite that has ended: its record or problem, how long it took, and the disk afterwards. -/
structure SuiteRun where
  /-- The record, or why there is none. -/
  result : Except SuiteProblem SuiteRecord
  /-- How long it took, in milliseconds. -/
  duration : Nat
  /-- The disk afterwards. -/
  disk : Disk

/-- Runs the suite of a language with the outcome of loading its parser. -/
def SuiteRunner.runSuite (c : SuiteRunner) (disk : Disk) (language : String)
    (loaded : LoadOutcome) : SuiteRun :=
  match loaded with
  | .error error => ⟨.error (.parserUnavailable language error), 0, disk⟩
  | .ok handle =>
    match c.fixtures disk language with
    | .error error => ⟨.error error, 0, disk⟩
    | .ok fixtures =>
      let board := c.runBoard disk handle (c.select fixtures)
      ⟨.ok (.ofHandle language handle board.outcomes), c.duration board, board.disk⟩

/-- The entry of a suite in the record of a run. -/
def RunEntry.ofResult (language : String) : Except SuiteProblem SuiteRecord → RunEntry
  | .ok suite => .ran suite
  | .error error => .notRun language error.message

end ParserConformance
