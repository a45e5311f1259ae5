import ParserConformance.Corpus.Format
import ParserConformance.Files.Disk

/-!
# Finding a corpus

Every file of a directory that has the format's extension is a corpus file. Corpus files are
read in the order of their names, whatever order the directory lists them in.
-/

namespace ParserConformance.Corpus

/-- All fixtures of a language. -/
structure Collection where
  /-- The language. -/
  language : String
  /-- The directory of its corpus files. -/
  dir : Path
  /-- The fixtures: files in the order of their names, each file's fixtures in its own order. -/
  fixtures : List Fixture
  deriving Repr

/-- Why there is no corpus. -/
inductive Absence where
  /-- The directory cannot be listed or has no corpus file. -/
  | notFound (dir : Path)
  /-- A corpus file cannot be read. -/
  | unreadable (file : Path) (trouble : Trouble)
  deriving DecidableEq, Repr

/-- Puts a name into a list that is in order. -/
def insertName (name : String) : List String → List String
  | [] => [name]
  | n :: ns => if name ≤ n then name :: n :: ns else n :: insertName name ns

/-- Names in their order. -/
def sortNames (names : List String) : List String := names.foldr insertName []

/-- Whether a name in `dir` is that of a corpus file. -/
def isCorpusFile (format : Format) (disk : Disk) (dir : Path) (name : String) : Bool :=
  let path := dir.join ⟨name⟩
  path.extension? = some format.extension && disk.isFile path

/-- The fixtures of files, in order. -/
def readFiles (format : Format) (disk : Disk) : List Path → Except Absence (List Fixture)
  | [] => .ok []
  | file :: files =>
    match disk.readText file with
    | .error trouble => .error (.unreadable file trouble)
    | .ok text => do return format.split file text ++ (← readFiles format disk files)

/-- The corpus of a language in a directory. -/
def collect (format : Format) (disk : Disk) (language : String) (dir : Path) :
    Except Absence Collection :=
  match disk.list dir with
  | .error _ => .error (.notFound dir)
  | .ok names =>
    match sortNames (names.filter (isCorpusFile format disk dir)) with
    | [] => .error (.notFound dir)
    | names => do
      return ⟨language, dir, ← readFiles format disk (names.map fun n => dir.join ⟨n⟩)⟩

end ParserConformance.Corpus
