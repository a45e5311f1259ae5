import ParserConformance.Corpus.Fixture
import ParserConformance.Outline.Mismatch

/-!
# Verdicts

What the check of one fixture comes to, and why it fails.
-/

namespace ParserConformance

/-- How a parser failed to give a tree that can be compared. -/
inductive Crash where
  /-- It reported an error of its own. -/
  | reported (message : String)
  /-- It broke down; with the text it left behind, if that was one. -/
  | brokeDown (payload : Option String)
  /-- It gave no answer within the limit. -/
  | timedOut (milliseconds : Nat)
  /-- Its tree has more than `limit` levels. -/
  | tooDeep (limit : Nat)
  /-- The check as a whole broke down. -/
  | incomplete
  deriving DecidableEq, Repr

/-- The wording of a crash. -/
def Crash.message : Crash → String
  | .reported message => message
  | .brokeDown payload => "parser panicked: " ++ payload.getD "non-string panic payload"
  | .timedOut milliseconds => "parse timed out after " ++ toString milliseconds ++ " ms"
  | .tooDeep limit => "parse tree nests deeper than " ++ toString limit ++ " levels"
  | .incomplete => "fixture check did not complete"

/-- Why a fixture fails. -/
inductive Failure where
  /-- The parse is not the expected one. -/
  | mismatch (m : Mismatch)
  /-- The parser gave no tree to compare. -/
  | crash (c : Crash)
  /-- The fixture itself is at fault. -/
  | malformed (f : Corpus.Flaw)
  deriving DecidableEq, Repr

/-- The wording of a failure. -/
def Failure.message : Failure → String
  | .mismatch m => "structural mismatch " ++ m.message
  | .crash c => "parser crash: " ++ c.message
  | .malformed f => "malformed fixture: " ++ f.message

/-- A failure as JSON. -/
def Failure.toJson : Failure → Json.Value
  | .mismatch m => .object [("kind", .text "structural_mismatch"), ("detail", m.toJson)]
  | .crash c => .object [("kind", .text "parser_crash"), ("detail", .text c.message)]
  | .malformed f => .object [("kind", .text "fixture_malformed"), ("detail", .text f.message)]

/-- What the check of a fixture comes to. -/
inductive Verdict where
  /-- The parse is the expected one. -/
  | passed
  /-- The fixture asks not to be run. -/
  | skipped
  /-- Anything else. -/
  | failed (failure : Failure)
  deriving DecidableEq, Repr

namespace Verdict

/-- The failure, if it is one. -/
def failure? : Verdict → Option Failure
  | .failed failure => some failure
  | _ => none

/-- Whether it is a failure. -/
def isFailure : Verdict → Bool
  | .failed _ => true
  | .passed | .skipped => false

/-- A verdict as JSON. -/
def toJson : Verdict → Json.Value
  | .passed => .object [("status", .text "passed")]
  | .skipped => .object [("status", .text "skipped")]
  | .failed failure => .object [("status", .text "failed"), ("failure", failure.toJson)]

end Verdict

end ParserConformance
