/-!
# Positions in a source text

Rows and columns counted from zero, and the stretch between two positions.
-/

namespace ParserConformance

/-- A place in a source text: a row and a column, both counted from zero. -/
structure Point where
  /-- How many lines lie above. -/
  row : Nat
  /-- How far into its line the place is, in the parser's own unit. -/
  column : Nat
  deriving DecidableEq, Repr, Inhabited

/-- The very start of a source text. -/
def Point.origin : Point := ⟨0, 0⟩

/-- A point as a span shows it. -/
def Point.chars (p : Point) : List Char :=
  ['['] ++ Nat.toDigits 10 p.row ++ [',', ' '] ++ Nat.toDigits 10 p.column ++ [']']

/-- The stretch of source text that a node covers. -/
structure Span where
  /-- Where it begins. -/
  start : Point
  /-- Where it ends. -/
  stop : Point
  deriving DecidableEq, Repr, Inhabited

/-- A span as annotations write it: `[0, 0] - [1, 0]`. -/
def Span.chars (s : Span) : List Char := s.start.chars ++ [' ', '-', ' '] ++ s.stop.chars

/-- The text of a span. -/
def Span.text (s : Span) : String := String.ofList s.chars

end ParserConformance
