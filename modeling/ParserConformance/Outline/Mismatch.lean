import ParserConformance.Json.Value
import ParserConformance.Outline.Basic
import ParserConformance.Text.Lines

/-!
# Mismatches

The point at which a parse departs from its expectation: what differs there, the path that
leads there, and both trees around it.
-/

namespace ParserConformance

/-- What differs where two outlines part. -/
inductive Divergence where
  /-- The labels of two nodes differ. -/
  | kindDiffers (expected actual : String)
  /-- Two children stand under different field labels. -/
  | fieldDiffers (index : Nat) (expected actual : Option String)
  /-- An expected child is not there. -/
  | missingChild (index : Nat) (expected : String)
  /-- A child is there that is not expected. -/
  | unexpectedChild (index : Nat) (actual : String)
  /-- An expected span is not the one found. -/
  | spanDiffers (expected : Span) (actual : Option Span)
  /-- An error node stands where none is expected. -/
  | unexpectedError
  /-- A missing node stands where none is expected. -/
  | unexpectedMissing (kind : Option String)
  /-- A source that should not parse did. -/
  | errorsWanted
  deriving DecidableEq, Repr

namespace Divergence

/-- How messages name a field. -/
def fieldText : Option String → String
  | some name => "'" ++ name ++ "'"
  | none => "(none)"

/-- The wording of a divergence. -/
def message : Divergence → String
  | .kindDiffers expected actual =>
    "expected node (" ++ expected ++ "), got (" ++ actual ++ ")"
  | .fieldDiffers index expected actual =>
    "child " ++ toString index ++ " expected field " ++ fieldText expected ++ ", got " ++
      fieldText actual
  | .missingChild index expected =>
    "missing child " ++ expected ++ " at position " ++ toString index
  | .unexpectedChild index actual =>
    "unexpected child " ++ actual ++ " at position " ++ toString index
  | .spanDiffers expected (some actual) =>
    "expected span " ++ expected.text ++ ", got " ++ actual.text
  | .spanDiffers expected none =>
    "expected span " ++ expected.text ++ ", parse result has none"
  | .unexpectedError => "parse result contains an ERROR node"
  | .unexpectedMissing (some kind) => "parse result contains a MISSING " ++ kind ++ " node"
  | .unexpectedMissing none => "parse result contains a MISSING node"
  | .errorsWanted => "expected the parse to contain ERROR or MISSING nodes"

end Divergence

/-- A point as JSON. -/
def Point.toJson (p : Point) : Json.Value :=
  .object [("row", .number p.row), ("column", .number p.column)]

/-- A span as JSON. -/
def Span.toJson (s : Span) : Json.Value :=
  .object [("start", s.start.toJson), ("end", s.stop.toJson)]

open Json.Value (ofOption) in
/-- A divergence as JSON. -/
def Divergence.toJson : Divergence → Json.Value
  | .kindDiffers expected actual =>
    .object [("type", .text "kind_differs"), ("expected", .text expected),
      ("actual", .text actual)]
  | .fieldDiffers index expected actual =>
    .object [("type", .text "field_differs"), ("index", .number index),
      ("expected", ofOption .text expected), ("actual", ofOption .text actual)]
  | .missingChild index expected =>
    .object [("type", .text "missing_child"), ("index", .number index),
      ("expected", .text expected)]
  | .unexpectedChild index actual =>
    .object [("type", .text "unexpected_child"), ("index", .number index),
      ("actual", .text actual)]
  | .spanDiffers expected actual =>
    .object [("type", .text "span_differs"), ("expected", expected.toJson),
      ("actual", ofOption Span.toJson actual)]
  | .unexpectedError => .object [("type", .text "unexpected_error")]
  | .unexpectedMissing kind =>
    .object [("type", .text "unexpected_missing"), ("kind", ofOption .text kind)]
  | .errorsWanted => .object [("type", .text "no_error_nodes")]

/-- Where and how a parse departs from its expectation. -/
structure Mismatch where
  /-- The labels from the root of the parse down to the node in question. -/
  path : List String
  /-- What differs there. -/
  divergence : Divergence
  /-- The expected tree around that point; empty if no tree was expected. -/
  expectedContext : String
  /-- The actual tree around that point. -/
  actualContext : String
  deriving DecidableEq, Repr

namespace Mismatch

/-- The mismatch of a parse without error nodes where some were demanded. -/
def errorsWanted (actual : Outline) : Mismatch :=
  ⟨[actual.label], .errorsWanted, "", actual.pretty⟩

/-- The path in one line. -/
def pathText (m : Mismatch) : String := " > ".intercalate m.path

/-- A context under its heading; nothing for an empty one. -/
def contextText (heading context : String) : String :=
  if context.isEmpty then "" else "\n  " ++ heading ++ ":\n" ++ Text.indent 4 context

/-- The wording of a mismatch. -/
def message (m : Mismatch) : String :=
  "at " ++ m.pathText ++ ": " ++ m.divergence.message ++
    contextText "expected" m.expectedContext ++ contextText "actual" m.actualContext

/-- A mismatch as JSON. -/
def toJson (m : Mismatch) : Json.Value :=
  .object [("path", .array (m.path.map .text)), ("kind", m.divergence.toJson),
    ("expected_context", .text m.expectedContext), ("actual_context", .text m.actualContext)]

end Mismatch

end ParserConformance
