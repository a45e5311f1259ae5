import ParserConformance.Files.Path
import ParserConformance.Keyed
import ParserConformance.Text.Lines

/-!
# How suites are run

Where the corpus of a language lies, how many fixtures are checked at a time, how long a parser
may take, and which fixtures are run.
-/

namespace ParserConformance

/-- What stands for the language in a template. -/
def languageMark : String := "\x7blanguage\x7d"

/-- The template of corpus directories that is used unless another one is given. -/
def defaultTemplate : String := languageMark ++ "/corpus"

/-- How suites are run. -/
structure RunSettings where
  /-- The directory from which the template is judged. -/
  corpusRoot : Path
  /-- The template of corpus directories; the mark in it stands for the language. -/
  corpusDir : String
  /-- The corpus directories that single languages have of their own. -/
  overrides : List (String × Path)
  /-- How many fixtures are checked at a time; without it, as many as there are processors. -/
  jobs : Option Nat
  /-- How long a parser may take, in milliseconds. -/
  timeout : Option Nat
  /-- What the name of a fixture has to contain for it to be run. -/
  filter : Option String
  deriving DecidableEq, Repr

namespace RunSettings

/-- The configuration that only knows its corpus root. -/
def new (corpusRoot : Path) : RunSettings := ⟨corpusRoot, defaultTemplate, [], none, none, none⟩

/-- The configuration that is used unless another one is given. -/
def default : RunSettings := new ⟨"."⟩

/-- The corpus directory of a language: its own, or what the template says. -/
def corpusDirectory (c : RunSettings) (language : String) : Path :=
  match Keyed.find? language c.overrides with
  | some dir => dir
  | none => c.corpusRoot.join ⟨Text.replaceIn languageMark language c.corpusDir⟩

end RunSettings

end ParserConformance
