import ParserConformance.Script.Arithmetic
import ParserConformance.Script.Tool.Regex.Matching
import ParserConformance.Script.Tool.Regex.Reader
import ParserConformance.Script.Tool.Call

/-!
# Numbering lines

`nl` puts numbers before lines. A text may have pages, each with a header, a body and a footer,
whose lines are numbered in different ways.
-/

namespace ParserConformance.Script.Tool.Numbering

/-- Which lines are numbered. -/
inductive Style where
  /-- All of them. -/
  | all
  /-- Those that are not empty. -/
  | nonempty
  /-- None of them. -/
  | none
  /-- Those in which an expression matches. -/
  | found (r : Regex)

/-- The style that a text writes. -/
def style? (text : List Char) : Option Style :=
  match text with
  | ['a'] => some .all
  | ['t'] => some .nonempty
  | ['n'] => some .none
  | 'p' :: pattern => (Regex.read Regex.Flavor.basic pattern).toOption.map .found
  | _ => Option.none

/-- How lines are numbered. -/
structure Manner where
  /-- The styles of header, body and footer. -/
  styles : List Style
  /-- What the lines that part them are made of. -/
  mark : List Char
  /-- How much the number grows. -/
  increment : Int
  /-- How many empty lines in a row count as one. -/
  joined : Nat
  /-- Where in its columns a number stands: `ln`, `rn` or `rz`. -/
  format : String
  /-- Whether each part begins with the first number. -/
  restarts : Bool
  /-- What stands between a number and its line. -/
  separator : List Char
  /-- The first number. -/
  first : Int
  /-- How many columns a number has. -/
  width : Nat

/-- A number in its columns. -/
def Manner.number (m : Manner) (n : Int) : List Char :=
  let digits := digitsOf n.natAbs
  let sign := if n < 0 then ['-'] else []
  match m.format with
  | "ln" => padRight m.width (sign ++ digits)
  | "rz" => sign ++ List.replicate (m.width - sign.length - digits.length) '0' ++ digits
  | _ => padLeft m.width (sign ++ digits)

/-- The part that a line begins, if it does so: header, body or footer. -/
def Manner.part? (m : Manner) (l : List Char) : Option Nat :=
  if l = m.mark ++ m.mark ++ m.mark then some 0
  else if l = m.mark ++ m.mark then some 1
  else if l = m.mark then some 2
  else none

/-- Lines as they are written, from a part, a number and a count of empty lines on. -/
def Manner.lines (m : Manner) : (part : Nat) → (n : Int) → (empties : Nat) →
    List (List Char) → List (List Char)
  | _, _, _, [] => []
  | part, n, empties, l :: ls =>
    match (if m.mark.isEmpty then none else m.part? l) with
    | some next => [] :: m.lines next (if m.restarts then m.first else n) empties ls
    | none =>
      let without := List.replicate (m.width + m.separator.length) ' ' ++ l
      let isNumbered : Bool := match m.styles.getD part .none with
        | .all => m.joined ≤ 1 || !l.isEmpty || empties + 1 = m.joined
        | .nonempty => !l.isEmpty
        | .none => false
        | .found r => Regex.occursIn r l
      let empties := if isNumbered then 0 else if l.isEmpty then empties + 1 else empties
      if isNumbered then
        (m.number n ++ m.separator ++ l) :: m.lines part (n + m.increment) empties ls
      else without :: m.lines part n empties ls

/-- The manner that options give, or what is wrong with them. -/
def mannerOf (o : Options) : Except (List Char) Manner := do
  let styleOf (letter : Char) (usual : Style) (what : String) : Except (List Char) Style :=
    match o.value? letter with
    | none => .ok usual
    | some text =>
      match style? text with
      | some s => .ok s
      | none => .error (("invalid " ++ what ++ " numbering style: ").toList ++ quoted text)
  let numberOf (letter : Char) (usual : Int) (least : Option Int) (what : String) :
      Except (List Char) Int :=
    match o.value? letter with
    | none => .ok usual
    | some text =>
      match decimal? text with
      | some n => if least.any (n < ·) then refuse what text else .ok n
      | none => refuse what text
  let format := String.ofList ((o.value? 'n').getD "rn".toList)
  if format != "ln" && format != "rn" && format != "rz" then
    throw ("invalid line numbering format: ".toList ++ quoted format.toList)
  let mark := match o.value? 'd' with
    | none => "\\:".toList
    | some [] => []
    | some [c] => [c, ':']
    | some cs => cs
  return {
    styles := [← styleOf 'h' .none "header", ← styleOf 'b' .nonempty "body",
      ← styleOf 'f' .none "footer"]
    mark
    increment := ← numberOf 'i' 1 none "line number increment"
    joined := (← numberOf 'l' 1 (some 1) "line number of blank lines").toNat
    format
    restarts := !o.has 'p'
    separator := (o.value? 's').getD ['\t']
    first := ← numberOf 'v' 1 none "starting line number"
    width := (← numberOf 'w' 6 (some 1) "line number field width").toNat }
where
  /-- The refusal of a number. -/
  refuse (what : String) (text : List Char) : Except (List Char) Int :=
    .error (("invalid " ++ what ++ ": ").toList ++ quoted text)

/-- Numbers lines. -/
def nl : Tool :=
  withOptions {
    flags := "p", valued := "bdfhilnsvw"
    long := [("header-numbering", 'h'), ("body-numbering", 'b'), ("footer-numbering", 'f'),
      ("starting-line-number", 'v'), ("line-increment", 'i'), ("no-renumber", 'p'),
      ("join-blank-lines", 'l'), ("number-separator", 's'), ("number-width", 'w'),
      ("number-format", 'n'), ("section-delimiter", 'd')] } 1 fun c o =>
  match mannerOf o with
  | .error text => .ofMisuse c 1 text
  | .ok m =>
    overInputs c o.operands 1 fileComplaint fun cs =>
      unlines (m.lines 1 m.first 0 (linesOf cs).1)

end ParserConformance.Script.Tool.Numbering
