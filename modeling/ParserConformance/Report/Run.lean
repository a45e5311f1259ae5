import ParserConformance.Instances
import ParserConformance.Report.Suite

/-!
# Run records

Several suites run one after the other. A suite that could not be run at all counts as one
failing test.
-/

namespace ParserConformance

/-- What became of one suite. -/
inductive RunEntry where
  /-- It was run. -/
  | ran (suite : SuiteRecord)
  /-- It could not be run. -/
  | notRun (language error : String)
  deriving DecidableEq, Repr

namespace RunEntry

/-- The record of a suite that was run. -/
def suite? : RunEntry → Option SuiteRecord
  | .ran suite => some suite
  | .notRun _ _ => none

/-- An entry as JSON. -/
def toJson : RunEntry → Json.Value
  | .ran suite => .object (("outcome", .text "completed") :: suite.members)
  | .notRun language error =>
    .object [("outcome", .text "errored"), ("language", .text language), ("error", .text error)]

/-- The tests that an entry adds to a stream. -/
def tapPoints : RunEntry → List Tap.Point
  | .ran suite => suite.tapPoints
  | .notRun language error => [.failed (language ++ ": suite") error]

/-- The lines that an entry adds to the summary. -/
def summaryLines : RunEntry → List String
  | .ran suite => suite.summaryLines
  | .notRun language error => ["Conformance [" ++ language ++ "]: ERROR " ++ error]

end RunEntry

/-- All suites of a run. -/
structure RunRecord where
  /-- When the run began. -/
  startedAt : String
  /-- The suites in the order in which they were run. -/
  suites : List RunEntry
  deriving DecidableEq, Repr

namespace RunRecord

variable (r : RunRecord)

/-- A run with one more suite. -/
def record (entry : RunEntry) : RunRecord := { r with suites := r.suites ++ [entry] }

/-- The records of the suites that were run. -/
def ran : List SuiteRecord := r.suites.filterMap RunEntry.suite?

/-- How many suites could not be run. -/
def notRun : Nat := r.suites.countP fun entry => entry.suite?.isNone

/-- How many fixtures failed. -/
def failedCount : Nat := (r.ran.map SuiteRecord.failedCount).sum

/-- How many fixtures there are. -/
def total : Nat := (r.ran.map SuiteRecord.total).sum

/-- How many fixtures passed. -/
def passed : Nat := (r.ran.map SuiteRecord.passed).sum

/-- Whether every suite was run and no fixture failed. -/
def isSuccess : Bool := r.notRun == 0 && r.failedCount == 0

/-- The record as JSON text. -/
def jsonText : String :=
  (Json.Value.object [("started_at", .text r.startedAt),
    ("suites", .array (r.suites.map RunEntry.toJson))]).pretty

/-- The record as one test stream. -/
def tapText : String := Tap.render (r.suites.flatMap RunEntry.tapPoints)

/-- The lines of the run's summary. -/
def summaryLines : List String :=
  r.suites.flatMap RunEntry.summaryLines ++
    ["Total: " ++ toString r.passed ++ "/" ++ toString r.total ++ " passed across " ++
      toString r.suites.length ++ " suite(s), " ++ toString r.failedCount ++
      " failing fixture(s), " ++ toString r.notRun ++ " errored suite(s)"]

/-- The run's summary. -/
def summary : String := String.join (r.summaryLines.map (· ++ "\n"))

end RunRecord

end ParserConformance
