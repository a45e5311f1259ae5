import ParserConformance.Digest.Sha2
import ParserConformance.Files.Disk
import ParserConformance.ParseTree.Basic

/-!
# Parsers and their artifacts

A parser answers a source text with a tree, with an error of its own, or by breaking down, and takes
some time for it. Parsers that are programs of their own depend on the disk.

A parser artifact is a file from which a parser can be made. A kind of artifact says which files are of
it and makes the parser of one.
-/

namespace ParserConformance

/-- What a parser comes to. -/
inductive Reply where
  /-- A tree. -/
  | tree (t : ParseTree)
  /-- An error that the parser reports. -/
  | error (message : String)
  /-- A breakdown; with the text that it left behind, if that was one. -/
  | breakdown (payload : Option String)
  deriving Repr

/-- A reply and the time that it takes. -/
structure Answer where
  /-- How long it takes, in milliseconds. -/
  delay : Nat
  /-- What it is. -/
  reply : Reply
  deriving Repr

/-- A parser: its answers to source texts, and what it changes on the disk. -/
structure Parser where
  /-- The answer to a source text, given the disk, and the disk afterwards. -/
  answer : Disk → String → Answer × Disk
  /-- The disk after the parser has been stopped at a time, in milliseconds, if the answer to a
  source text takes longer. -/
  stopped : Nat → Disk → String → Disk := fun _ disk _ => disk

/-- The parser whose answers are fixed by the source text, and which changes nothing. -/
def Parser.ofAnswers (f : String → Answer) : Parser where
  answer disk source := (f source, disk)

/-- A file that may hold a parser. -/
structure Artifact where
  /-- Its file name without the extension. -/
  name : String
  /-- Its path. -/
  path : Path
  deriving DecidableEq, Repr

/-- Why an artifact that exists gives no parser. -/
inductive LoadFault where
  /-- It is of no kind that is known. -/
  | noKind
  /-- It cannot be looked at. -/
  | inaccessible (trouble : Trouble)
  /-- It cannot be read. -/
  | unreadable (trouble : Trouble)
  /-- It is an empty file. -/
  | emptyFile
  /-- It is a program that nobody may run. -/
  | notExecutable
  /-- Its kind refuses it, and says why. -/
  | refused (message : String)
  deriving DecidableEq, Repr

/-- The wording of a fault. -/
def LoadFault.message : LoadFault → String
  | .noKind => "no artifact format accepts this file"
  | .inaccessible trouble => trouble.message
  | .unreadable trouble => "cannot read artifact: " ++ trouble.message
  | .emptyFile => "artifact is empty"
  | .notExecutable => "artifact is not executable"
  | .refused message => message

/-- Why there is no parser for a path. -/
inductive LoadProblem where
  /-- Nothing is there. -/
  | notFound (path : Path)
  /-- What is there gives no parser. -/
  | failed (path : Path) (fault : LoadFault)
  deriving DecidableEq, Repr

/-- The wording of a problem. -/
def LoadProblem.message : LoadProblem → String
  | .notFound path => "parser artifact not found: " ++ path.text
  | .failed path fault =>
    "failed to load parser artifact " ++ path.text ++ ": " ++ fault.message

namespace Artifact

/-- The artifact at a path, if something is there. -/
def locate (disk : Disk) (path : Path) : Except LoadProblem Artifact :=
  match disk.stat path with
  | .ok _ => .ok ⟨path.stem, path⟩
  | .error .notFound => .error (.notFound path)
  | .error trouble => .error (.failed path (.inaccessible trouble))

/-- The digest of an artifact's content, which may not be empty. It tells which build of a
parser gave a result. -/
def fingerprint (disk : Disk) (a : Artifact) : Except LoadProblem String :=
  match disk.read a.path with
  | .error trouble => .error (.failed a.path (.unreadable trouble))
  | .ok [] => .error (.failed a.path .emptyFile)
  | .ok content => .ok (Digest.hex (Sha256.digest content))

end Artifact

/-- What the attempt to make a parser comes to. -/
inductive Opening where
  /-- The parser. -/
  | ready (parser : Parser)
  /-- The problem with it. -/
  | refused (problem : LoadProblem)
  /-- Nothing: the attempt does not end. -/
  | hanging

/-- A kind of parser artifact. -/
structure ArtifactKind where
  /-- Its name. -/
  id : String
  /-- Whether an artifact is of it. -/
  accepts : Disk → Artifact → Bool
  /-- Makes the parser. The number says how many attempts were made before with this kind. -/
  make : (attempt : Nat) → Disk → Artifact → Opening

end ParserConformance
