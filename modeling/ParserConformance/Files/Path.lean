/-!
# Paths

Paths as texts with `/` between their names. Joining keeps what was written; `.` inside a path
and repeated slashes only count for nothing when a path is taken apart.
-/

namespace ParserConformance

/-- A path as it was written. -/
structure Path where
  /-- Its text. -/
  text : String
  deriving DecidableEq, Repr, Inhabited

namespace Path

/-- Whether a path is judged from the root and not from a working directory. -/
def isAbsolute (p : Path) : Bool := p.text.toList.head? = some '/'

/-- The characters of `p` seen from the directory `base`. -/
def joinChars (base p : List Char) : List Char :=
  if p.head? = some '/' || base = [] then p
  else if base.getLast? = some '/' then base ++ p
  else base ++ '/' :: p

/-- `p` seen from the directory `base`. An absolute path stands for itself. -/
def join (base p : Path) : Path := ⟨String.ofList (joinChars base.text.toList p.text.toList)⟩

/-- The parts of a text between its slashes. -/
def splitSlashes : List Char → List (List Char)
  | [] => [[]]
  | c :: cs =>
    if c = '/' then [] :: splitSlashes cs
    else
      match splitSlashes cs with
      | [] => [[c]]
      | part :: parts => (c :: part) :: parts

/-- The names that a path goes through, without empty ones and `.`. -/
def steps (p : Path) : List String :=
  ((splitSlashes p.text.toList).filter fun part => part ≠ [] && part ≠ ['.']).map String.ofList

/-- Whether a path begins with a `.` of its own. -/
def startsHere (p : Path) : Bool :=
  match p.text.toList with
  | ['.'] => true
  | '.' :: '/' :: _ => true
  | _ => false

/-- Where a path leads, however its slashes are written. -/
structure Course where
  /-- Whether it starts at the root. -/
  fromRoot : Bool
  /-- Whether it starts with a `.` of its own. -/
  fromHere : Bool
  /-- The names that it goes through. -/
  steps : List String
  deriving DecidableEq, Repr

/-- The course of a path. Repeated slashes, slashes at the end and any `.` but a leading one
make no difference to it. -/
def course (p : Path) : Course := ⟨p.isAbsolute, p.startsHere, p.steps⟩

/-- What a path begins with before its first name: the root's slash, a leading `.`, or
nothing. -/
def anchorLength : List Char → Nat
  | '/' :: _ => 1
  | ['.'] => 1
  | '.' :: '/' :: _ => 1
  | _ => 0

/-- A reversed path without slashes and `.` parts at its end. -/
def trimEnd : List Char → List Char
  | '/' :: cs => trimEnd cs
  | ['.'] => []
  | '.' :: '/' :: cs => trimEnd cs
  | cs => cs

/-- The reversed names of a path after its anchor, nothing empty at their end. -/
def reversedBody (p : Path) : List Char :=
  trimEnd (p.text.toList.drop (anchorLength p.text.toList)).reverse

/-- The last name of a path, unless the path ends in `..`, in a lone `.` or at the root. -/
def fileName? (p : Path) : Option String :=
  let last := (p.reversedBody.takeWhile (· ≠ '/')).reverse
  if last = [] || last = ['.', '.'] then none else some (String.ofList last)

/-- A file name parted at its last point: the stem and, if there is one, the extension. A
point at the start belongs to the stem. -/
def splitExtension (name : List Char) : List Char × Option (List Char) :=
  let extension := (name.reverse.takeWhile (· ≠ '.')).reverse
  let stem := (name.reverse.drop (extension.length + 1)).reverse
  if extension.length = name.length || stem = [] then (name, none) else (stem, some extension)

/-- The last name without its extension; empty if there is no last name. -/
def stem (p : Path) : String :=
  match p.fileName? with
  | some name => String.ofList (splitExtension name.toList).1
  | none => ""

/-- What stands after the last point of the last name. -/
def extension? (p : Path) : Option String :=
  p.fileName?.bind fun name => (splitExtension name.toList).2.map String.ofList

/-- The path of the directory that holds what `p` names. It is empty for a single name. -/
def parent (p : Path) : Path :=
  let cs := p.text.toList
  let anchor := cs.take (anchorLength cs)
  let body := p.reversedBody
  if body = [] then ⟨""⟩
  else
    let above := trimEnd ((body.dropWhile (· ≠ '/')).drop 1)
    ⟨String.ofList (anchor ++ above.reverse)⟩

end Path

end ParserConformance
