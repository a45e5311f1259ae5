/-!
# Lines

A line ends at a newline, with one carriage return before the newline dropped. The last
line needs no newline, and a newline at the very end of a text begins no further line.
-/

namespace ParserConformance.Text

/-- The lines of a text, without their ends. -/
def lines : List Char → List (List Char)
  | [] => []
  | '\n' :: cs => [] :: lines cs
  | '\r' :: '\n' :: cs => [] :: lines cs
  | c :: cs =>
    match lines cs with
    | [] => [[c]]
    | l :: ls => (c :: l) :: ls

/-- The texts one after the other, each two of them parted by `sep`. -/
def joinWith (sep : List Char) : List (List Char) → List Char
  | [] => []
  | [l] => l
  | l :: ls => l ++ sep ++ joinWith sep ls

/-- Lines joined by single newlines. -/
def unlines (ls : List (List Char)) : List Char := joinWith ['\n'] ls

/-- The lines of a string. -/
def linesOf (s : String) : List String := (lines s.toList).map String.ofList

/-- A string with `pad` blanks put before each of its lines, and no newline at its end. -/
def indent (pad : Nat) (s : String) : String :=
  "\n".intercalate ((linesOf s).map fun l => String.ofList (List.replicate pad ' ') ++ l)

/-- Whether `needle` occurs in `cs` as a run of neighbouring characters. -/
def contains (needle cs : List Char) : Bool :=
  match cs with
  | [] => needle.isEmpty
  | _ :: rest => needle.isPrefixOf cs || contains needle rest

/-- `cs` without its first `skip` characters and with each further occurrence of `old`
replaced by `new`. -/
def replaceFrom (old new : List Char) : (skip : Nat) → List Char → List Char
  | _, [] => []
  | skip + 1, _ :: rest => replaceFrom old new skip rest
  | 0, c :: rest =>
    if !old.isEmpty && old.isPrefixOf (c :: rest) then
      new ++ replaceFrom old new (old.length - 1) rest
    else
      c :: replaceFrom old new 0 rest

/-- A text with every occurrence of `old` replaced by `new`, from left to right and without
overlaps. An empty `old` occurs nowhere. -/
def replace (old new cs : List Char) : List Char := replaceFrom old new 0 cs

/-- A string with every occurrence of `old` replaced by `new`. -/
def replaceIn (old new s : String) : String :=
  String.ofList (replace old.toList new.toList s.toList)

end ParserConformance.Text
