import ParserConformance.Files.Disk
import ParserConformance.Script.Machine
import ParserConformance.Script.Pattern

/-!
# Fields

A word is expanded to pieces: characters, of which some may part fields, and marks that keep a
field alive that has no characters. Pieces make fields, and a field that is a pattern stands for
the names of the files that match it.
-/

namespace ParserConformance.Script

/-- A piece of an expanded word. -/
inductive Piece where
  /-- A character. One that is not quoted and comes out of an expansion may part fields. -/
  | char (c : Char) (isQuoted parts : Bool)
  /-- A place where quotes stood. -/
  | mark
  /-- The end of an argument. It may be one that counts even if nothing stands before it. -/
  | boundary (counts : Bool)
  deriving DecidableEq, Repr

/-- The characters of pieces. -/
def Piece.chars (ps : List Piece) : List Char :=
  ps.filterMap fun
    | .char c _ _ => some c
    | _ => none

/-- The characters of pieces, and whether they are quoted. -/
def Piece.marked (ps : List Piece) : List Marked :=
  ps.filterMap fun
    | .char c quoted _ => some ⟨c, quoted⟩
    | _ => none

/-! ### Splitting -/

/-- A splitter on its way. -/
structure Splitter where
  /-- The characters of the field so far, the last one first. -/
  reversed : List Marked
  /-- Whether the field has begun. -/
  hasBegun : Bool
  /-- Whether separators are passed over, and whether a visible one may be among them. -/
  passing : Option Bool
  /-- The fields, the last one first. -/
  done : List (List Marked)

namespace Splitter

/-- With the field ended. -/
def endField (s : Splitter) : Splitter :=
  { s with reversed := [], hasBegun := false, done := s.reversed.reverse :: s.done }

/-- With a character that belongs to the field. -/
def add (s : Splitter) (m : Marked) : Splitter :=
  { s with reversed := m :: s.reversed, hasBegun := true, passing := none }

/-- With a separator. Blank ones count for nothing at the start and next to another one. -/
def part (s : Splitter) (isBlank : Bool) : Splitter :=
  match s.passing, isBlank with
  | some _, true => s
  | some true, false => { s with passing := some false }
  | _, _ =>
    if isBlank && !s.hasBegun then s
    else { s.endField with passing := some isBlank }

/-- With one more piece, given the characters that part fields. -/
def step (separators : List Char) (s : Splitter) : Piece → Splitter
  | .char c quoted parts =>
    if parts && separators.contains c then s.part (" \t\n".toList.contains c)
    else s.add ⟨c, quoted⟩
  | .mark => { s with hasBegun := true, passing := none }
  | .boundary true => { s.endField with passing := none }
  | .boundary false => s.part true

end Splitter

/-- The fields that pieces make. -/
def splitFields (separators : List Char) (ps : List Piece) : List (List Marked) :=
  let s := ps.foldl (Splitter.step separators) ⟨[], false, none, []⟩
  (if s.hasBegun then s.endField else s).done.reverse

/-! ### Names of files -/

/-- Characters parted at slashes. -/
def slashParts : List Marked → List (List Marked)
  | [] => [[]]
  | m :: ms =>
    if m.char = '/' then [] :: slashParts ms
    else
      match slashParts ms with
      | [] => [[m]]
      | part :: parts => (m :: part) :: parts

/-- Characters that stand for themselves. A backslash that is not quoted is taken off. -/
def plainChars : List Marked → List Char
  | [] => []
  | [m] => [m.char]
  | m :: n :: ms =>
    if m.char = '\\' && !m.isQuoted then n.char :: plainChars ms
    else m.char :: plainChars (n :: ms)

/-- The names in a directory that match a pattern. Names that begin with a point have to be
called by that point. -/
def matchingNames (d : Disk) (dir : Path) (part : List Marked) : List (List Char) :=
  let pattern := patternOf part
  let wantsPoint := part.head?.any (·.char = '.')
  match d.list dir with
  | .error _ => []
  | .ok names =>
    let all := names.map ofText ++ (if wantsPoint then [['.'], ['.', '.']] else [])
    (all.filter fun name =>
      (wantsPoint || name.head? ≠ some '.') && isMatch pattern name).mergeSort
        fun a b => String.ofList a ≤ String.ofList b

/-- The paths that go on from `base` through parts and are there. -/
def matchingPaths (d : Disk) : (base : List Char) → List (List Marked) → List (List Char)
  | base, [] => [base]
  | base, part :: parts =>
    let here := if base.isEmpty then ['.'] else base
    let tail := if parts.isEmpty then [] else ['/']
    if isPattern part then
      (matchingNames d (pathOfChars here) part).flatMap fun name =>
        if parts.isEmpty then [base ++ name]
        else
          match d.stat (pathOfChars (base ++ name)) with
          | .ok (.directory _) => matchingPaths d (base ++ name ++ tail) parts
          | _ => []
    else
      let path := base ++ plainChars part
      if parts.isEmpty then
        if part.isEmpty || (d.stat (pathOfChars path)).isOk then [path] else []
      else matchingPaths d (path ++ tail) parts

/-- What a field stands for: the paths that match it, if it is a pattern that any match, else
itself. -/
def expandPaths (d : Disk) (field : List Marked) : List (List Char) :=
  let itself := field.map (·.char)
  if isPattern field then
    match matchingPaths d [] (slashParts field) with
    | [] => [itself]
    | paths => paths
  else [itself]

end ParserConformance.Script
