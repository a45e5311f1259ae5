import ParserConformance.Annotation.Reader
import ParserConformance.Corpus.Splitting

/-!
# Corpus formats

A corpus format says which files of a directory belong to a corpus, how a file is taken apart
into fixtures, and how the expected tree of a fixture is read. The usual one has text files of
blocks with annotations as expected trees.
-/

namespace ParserConformance.Corpus

/-- What reading the expected tree of a fixture comes to. -/
inductive Expectation where
  /-- The tree. -/
  | tree (t : Outline)
  /-- The text is no tree of the format, and why. -/
  | complaint (text : String)
  /-- The format broke down over the text and gave no answer. -/
  | breakdown

/-- A corpus format. -/
structure Format where
  /-- The extension of corpus files, without its point. -/
  extension : String
  /-- The fixtures of a corpus file, in order. -/
  split : Path → String → List Fixture
  /-- The expected tree of a fixture. -/
  readExpected : Fixture → Expectation

/-- Where an annotation's fault lies in the corpus file, and what it is. -/
def Fixture.faultText (f : Fixture) (fault : Annotation.Fault) : String :=
  "expected tree at " ++ f.origin.file.text ++ ":" ++
    toString (f.expectedLine + fault.place.line - 1) ++ ": " ++ fault.text

/-- The expected tree of a fixture, read as an annotation. -/
def Fixture.readAnnotation (f : Fixture) : Except String Outline :=
  match Annotation.read f.expected with
  | .ok t => .ok t
  | .error fault => .error (f.faultText fault)

/-- Text files of blocks, with annotations as expected trees. -/
def Format.blockText : Format where
  extension := "txt"
  split := Corpus.split
  readExpected f :=
    match f.readAnnotation with
    | .ok t => .tree t
    | .error text => .complaint text

theorem Format.readExpected_blockText_eq_tree_iff {f : Fixture} {t : Outline} :
    Format.blockText.readExpected f = .tree t ↔ Annotation.read f.expected = .ok t := by
  simp only [blockText, Fixture.readAnnotation]
  cases Annotation.read f.expected <;> simp

end ParserConformance.Corpus
