import ParserConformance.Text.Lines

/-!
# The Test Anything Protocol

Test results as lines that test tools read: a plan, one line a test and, below a failing one,
its diagnostics as comments.
-/

namespace ParserConformance.Tap

/-- One test of a stream. -/
inductive Point where
  /-- It passed. -/
  | passed (description : String)
  /-- It was not run. -/
  | skipped (description : String)
  /-- It failed. -/
  | failed (description diagnostics : String)
  deriving DecidableEq, Repr

/-- Whether a test failed. -/
def Point.isFailed : Point → Bool
  | .failed _ _ => true
  | _ => false

/-- Whether a test passed. -/
def Point.isPassed : Point → Bool
  | .passed _ => true
  | _ => false

/-- Whether a test was not run. -/
def Point.isSkipped : Point → Bool
  | .skipped _ => true
  | _ => false

/-- The lines of the test with the given number. -/
def Point.lines (number : Nat) : Point → List String
  | .passed description => ["ok " ++ toString number ++ " - " ++ description]
  | .skipped description => ["ok " ++ toString number ++ " - " ++ description ++ " # SKIP"]
  | .failed description diagnostics =>
    ("not ok " ++ toString number ++ " - " ++ description) ::
      (Text.linesOf diagnostics).map ("  # " ++ ·)

/-- The lines of tests, numbered from `number` on. -/
def pointLines : (number : Nat) → List Point → List String
  | _, [] => []
  | number, p :: ps => p.lines number ++ pointLines (number + 1) ps

/-- How many tests failed. -/
def failedCount (points : List Point) : Nat := points.countP Point.isFailed

/-- The lines of a stream. -/
def streamLines (points : List Point) : List String :=
  ["TAP version 14", "1.." ++ toString points.length] ++ pointLines 1 points ++
    ["# tests " ++ toString points.length,
     "# pass  " ++ toString (points.countP Point.isPassed),
     "# skip  " ++ toString (points.countP Point.isSkipped),
     "# fail  " ++ toString (failedCount points)]

/-- The text of a stream. -/
def render (points : List Point) : String := String.join ((streamLines points).map (· ++ "\n"))

end ParserConformance.Tap
