import ParserConformance.Check.Failure
import ParserConformance.Report.Tap

/-!
# Suite records

The outcomes of one language's corpus, in corpus order, and what they add up to.
-/

namespace ParserConformance

/-- The number of a parser handle. -/
abbrev HandleNumber := Nat

/-- What became of one fixture. -/
structure Outcome where
  /-- The fixture's name. -/
  name : String
  /-- Where it stands. -/
  origin : Corpus.Origin
  /-- The handle that parsed for it. -/
  handle : HandleNumber
  /-- What the check came to. -/
  verdict : Verdict
  deriving DecidableEq, Repr

/-- An origin as JSON. -/
def Corpus.Origin.toJson (o : Corpus.Origin) : Json.Value :=
  .object [("file", .text o.file.text), ("line", .number o.line)]

/-- An outcome as JSON. -/
def Outcome.toJson (o : Outcome) : Json.Value :=
  .object [("name", .text o.name), ("origin", o.origin.toJson), ("handle", .number o.handle),
    ("verdict", o.verdict.toJson)]

/-- All outcomes of one language's corpus. -/
structure SuiteRecord where
  /-- The language. -/
  language : String
  /-- The parser artifact. -/
  artifact : Path
  /-- The handle of the parser. -/
  handle : HandleNumber
  /-- The digest of the artifact. -/
  fingerprint : String
  /-- What became of each fixture, in corpus order. -/
  outcomes : List Outcome
  deriving DecidableEq, Repr

namespace SuiteRecord

variable (r : SuiteRecord)

/-- How many outcomes have a verdict of the given sort. -/
def count (p : Verdict → Bool) : Nat := r.outcomes.countP fun o => p o.verdict

/-- How many fixtures there are. -/
def total : Nat := r.outcomes.length

/-- How many passed. -/
def passed : Nat := r.count fun | .passed => true | _ => false

/-- How many were not run. -/
def skipped : Nat := r.count fun | .skipped => true | _ => false

/-- How many differ from what was expected. -/
def mismatched : Nat := r.count fun | .failed (.mismatch _) => true | _ => false

/-- How many made the parser crash. -/
def crashed : Nat := r.count fun | .failed (.crash _) => true | _ => false

/-- How many are at fault themselves. -/
def malformed : Nat := r.count fun | .failed (.malformed _) => true | _ => false

/-- How many failed, for whatever reason. -/
def failedCount : Nat := r.mismatched + r.crashed + r.malformed

/-- Whether none failed. -/
def isSuccess : Bool := r.failedCount == 0

/-- The failed outcomes with their failures, in order. -/
def failures : List (Outcome × Failure) :=
  r.outcomes.filterMap fun o => o.verdict.failure?.map (o, ·)

/-- The first outcome of a given name. -/
def outcome? (name : String) : Option Outcome := r.outcomes.find? (·.name = name)

/-- The members of the record as JSON. -/
def members : List (String × Json.Value) :=
  [("language", .text r.language), ("artifact", .text r.artifact.text),
    ("handle", .number r.handle), ("fingerprint", .text r.fingerprint),
    ("outcomes", .array (r.outcomes.map Outcome.toJson)), ("total", .number r.total),
    ("passed", .number r.passed), ("failed", .number r.mismatched),
    ("crashed", .number r.crashed), ("malformed", .number r.malformed),
    ("skipped", .number r.skipped)]

/-- The record as JSON text. -/
def jsonText : String := (Json.Value.object r.members).pretty

/-- The test that stands for an outcome in a stream. -/
def tapPoint (o : Outcome) : Tap.Point :=
  let description := r.language ++ ": " ++ o.name
  match o.verdict with
  | .passed => .passed description
  | .skipped => .skipped description
  | .failed failure => .failed description (o.origin.text ++ "\n" ++ failure.message)

/-- One test for each outcome. -/
def tapPoints : List Tap.Point := r.outcomes.map r.tapPoint

/-- The record as a test stream. -/
def tapText : String := Tap.render r.tapPoints

/-- The lines about a failed outcome. -/
def failureLines (o : Outcome) (failure : Failure) : List String :=
  ("  FAIL [" ++ o.origin.text ++ "] " ++ o.name) ::
    (Text.linesOf failure.message).map ("    " ++ ·)

/-- The lines of the suite's summary. -/
def summaryLines : List String :=
  ("Conformance [" ++ r.language ++ "]: " ++ toString r.passed ++ "/" ++ toString r.total ++
      " passed (" ++ toString r.mismatched ++ " failed, " ++ toString r.crashed ++ " crashed, " ++
      toString r.malformed ++ " malformed, " ++ toString r.skipped ++ " skipped)") ::
    r.failures.flatMap fun (o, failure) => failureLines o failure

/-- The suite's summary. -/
def summary : String := String.join (r.summaryLines.map (· ++ "\n"))

end SuiteRecord

end ParserConformance
