import ParserConformance.Corpus.Block
import ParserConformance.Corpus.Fixture
import ParserConformance.Text.Lines

/-!
# Fixtures of a corpus file

Each block of a corpus file gives one fixture. A block that cannot be taken apart gives a
flawed one, so that it is reported and hides no other.
-/

namespace ParserConformance.Corpus

/-- What the title lines of a block say. -/
structure Title where
  /-- The lines of the name. -/
  nameLines : List Line
  /-- The switches. -/
  switches : Switches
  /-- The first switch that is not known. -/
  unknown : Option Line
  deriving DecidableEq, Repr

/-- A title of no lines. -/
def Title.empty : Title := ⟨[], ⟨false, false⟩, none⟩

/-- A title with one more line. A line that begins with a colon is a switch, any other line
that is not blank belongs to the name. -/
def Title.add (t : Title) (l : Line) : Title :=
  match Text.trim l with
  | [] => t
  | ':' :: name =>
    let name := Text.trim name
    if name = "skip".toList then { t with switches := { t.switches with skip := true } }
    else if name = "error".toList then { t with switches := { t.switches with error := true } }
    else { t with unknown := t.unknown.or (some name) }
  | l => { t with nameLines := t.nameLines ++ [l] }

/-- What title lines say. -/
def Title.ofLines (ls : List Line) : Title := ls.foldl Title.add .empty

/-- The name that a title gives. -/
def Title.name (t : Title) : String := String.ofList (Text.joinWith [' '] t.nameLines)

/-- The first flaw of a title. -/
def Title.flaw? (t : Title) : Option Flaw :=
  match t.unknown with
  | some name => some (.unknownSwitch (String.ofList name))
  | none => if t.name.isEmpty then some .unnamed else none

/-- Whether a line holds nothing but blanks. -/
def isBlankLine (l : Line) : Bool := (Text.trim l).isEmpty

/-- How many blank lines come before the first other one; none if all are blank. -/
def leadingBlankLines (ls : List Line) : Nat :=
  if ls.all isBlankLine then 0 else (ls.takeWhile isBlankLine).length

/-- What the body of a block holds. -/
structure Content where
  /-- The source text. -/
  source : String
  /-- The expected tree as it is written. -/
  expected : String
  /-- The line on which that begins. -/
  expectedLine : Nat
  /-- What is wrong with the body. -/
  flaw : Option Flaw
  deriving DecidableEq, Repr

/-- What a block's body holds. Without a divider all of it is source. -/
def Block.content (b : Block) : Content :=
  match b.body with
  | none => ⟨"", "", b.line, some .unclosedHeader⟩
  | some body =>
    match splitAtDivider b.suffix body with
    | none => ⟨String.ofList (Text.unlines body), "", b.line, some .noDivider⟩
    | some (before, after) =>
      ⟨String.ofList (Text.unlines before), String.ofList (Text.trim (Text.unlines after)),
        b.line + b.title.length + before.length + leadingBlankLines after + 3, none⟩

/-- The fixture of a block in `file`. A flaw of the header is told before one of the body. -/
def Block.fixture (file : Path) (b : Block) : Fixture :=
  let title := Title.ofLines b.title
  let content := b.content
  { name := if title.name.isEmpty then
        "<unnamed fixture at line " ++ toString b.line ++ ">"
      else title.name
    source := content.source
    expected := content.expected
    expectedLine := content.expectedLine
    switches := title.switches
    origin := ⟨file, b.line⟩
    flaw := title.flaw?.or content.flaw }

/-- The fixtures of a corpus file's text, in order. -/
def split (file : Path) (text : String) : List Fixture :=
  (blocks (Text.lines text.toList)).map (Block.fixture file)

end ParserConformance.Corpus
