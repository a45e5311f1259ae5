import ParserConformance.Files.Path

/-!
# Fixtures

A fixture is one named example of a corpus: a source text and the tree that a parser should
give for it.
-/

namespace ParserConformance.Corpus

/-- Where a fixture stands. -/
structure Origin where
  /-- The corpus file. -/
  file : Path
  /-- The line of its opening header, counted from one. -/
  line : Nat
  deriving DecidableEq, Repr

/-- An origin as messages give it. -/
def Origin.text (o : Origin) : String := o.file.text ++ ":" ++ toString o.line

/-- The switches in a fixture's header. -/
structure Switches where
  /-- The fixture is not run. -/
  skip : Bool
  /-- The source does not parse: its tree has to hold error nodes, whatever else it is. -/
  error : Bool
  deriving DecidableEq, Repr

/-- What can be wrong with a fixture itself. -/
inductive Flaw where
  /-- A line of the header begins with a colon but names no known switch. -/
  | unknownSwitch (name : String)
  /-- The header has no name. -/
  | unnamed
  /-- No line closes the header. -/
  | unclosedHeader
  /-- No divider parts the source from the expected tree. -/
  | noDivider
  /-- The corpus format cannot read the expected tree, and says why. -/
  | expectation (complaint : String)
  deriving DecidableEq, Repr

/-- The wording of a flaw. -/
def Flaw.message : Flaw → String
  | .unknownSwitch name => "unknown attribute ':" ++ name ++ "'"
  | .unnamed => "fixture has no name"
  | .unclosedHeader => "header is never closed"
  | .noDivider => "no '---' divider before the expected tree"
  | .expectation complaint => complaint

/-- One named example. -/
structure Fixture where
  /-- Its name. -/
  name : String
  /-- The text to parse. -/
  source : String
  /-- The expected tree as it is written. It is read only when the fixture is checked, so that
  a bad one fails no other fixture. -/
  expected : String
  /-- The line of the corpus file on which `expected` begins, counted from one. -/
  expectedLine : Nat
  /-- The switches in its header. -/
  switches : Switches
  /-- Where it stands. -/
  origin : Origin
  /-- Why it could not be taken apart, if it could not. -/
  flaw : Option Flaw
  deriving DecidableEq, Repr

end ParserConformance.Corpus
