import ParserConformance.Script.Tool.Translation
import ParserConformance.Script.Tool.Whole

/-!
# Comparing files byte by byte

`cmp` says where two files differ first, or shows all bytes in which they differ.
-/

namespace ParserConformance.Script.Tool.Comparing

/-- Two files that are compared. -/
structure Pair where
  /-- The name of the first file. -/
  first : List Char
  /-- The name of the second file. -/
  second : List Char
  /-- What is compared of the first file. -/
  firstText : List Char
  /-- What is compared of the second file. -/
  secondText : List Char

/-- A byte in octal digits. -/
def octal (c : Char) : List Char := padLeft 3 (Nat.toDigits 8 c.toNat)

/-- What tells that one of the files ends before the other one. -/
def endComplaint (p : Pair) (same : Nat) (withLine : Bool) : List Char :=
  let (name, text) :=
    if p.firstText.length < p.secondText.length then (p.first, p.firstText)
    else (p.second, p.secondText)
  let lines := text.count '\n'
  let place :=
    if text.isEmpty then " which is empty".toList
    else
      let line :=
        if !withLine then []
        else if text.getLast? = some '\n' then ", line ".toList ++ digitsOf lines
        else ", in line ".toList ++ digitsOf (lines + 1)
      " after byte ".toList ++ digitsOf same ++ line
  "EOF on ".toList ++ name ++ place

/-- The lines that show all differences. -/
def allDifferences (p : Pair) (showsBytes : Bool) : List Char :=
  let width := (digitsOf (max p.firstText.length p.secondText.length)).length
  let differing := ((p.firstText.zip p.secondText).zipIdx 1).filter fun ((a, b), _) => a ≠ b
  differing.flatMap fun ((a, b), n) =>
    let bytes := if showsBytes then
        octal a ++ ' ' :: padRight 4 (visibleChar true a) ++ ' ' :: octal b ++ ' ' ::
          visibleChar true b
      else octal a ++ ' ' :: octal b
    padLeft width (digitsOf n) ++ ' ' :: bytes ++ ['\n']

/-- Compares two files. -/
def compare (c : Call) (o : Options) (p : Pair) : Effect :=
  let same := ((p.firstText.zip p.secondText).takeWhile fun (a, b) => a = b).length
  let least := min p.firstText.length p.secondText.length
  if p.firstText = p.secondText then .ofStatus c 0
  else if o.has 's' then .ofStatus c 1
  else if o.has 'l' then
    let e := { Effect.ofOutput c (allDifferences p (o.has 'b')) with status := 1 }
    if p.firstText.length = p.secondText.length then e
    else e.complain c 1 (endComplaint p least false)
  else if same = least then .ofComplaint c 1 (endComplaint p same true)
  else
    let line := (p.firstText.take same).count '\n' + 1
    let bytes := match p.firstText[same]?, p.secondText[same]? with
      | some a, some b =>
        if o.has 'b' then
          " is ".toList ++ octal a ++ ' ' :: visibleChar true a ++ ' ' :: octal b ++ ' ' ::
            visibleChar true b
        else []
      | _, _ => []
    let unit := if o.has 'b' then "byte " else "char "
    { Effect.ofOutput c (p.first ++ ' ' :: p.second ++ " differ: ".toList ++ unit.toList ++
        digitsOf (same + 1) ++ ", line ".toList ++ digitsOf line ++ bytes ++ ['\n']) with
      status := 1 }

/-- A complaint about misuse, with a hint on a line of its own. -/
def misuse (c : Call) (text : List Char) : Effect :=
  (Effect.ofComplaint c 2 text).complain c 2 ("Try '".toList ++ c.name ++
    " --help' for more information.".toList)

/-- Compares two files byte by byte. -/
def cmp : Tool := fun c =>
  let known : Known := {
    flags := "sbl", valued := "ni"
    long := [("bytes", 'n'), ("ignore-initial", 'i'), ("print-bytes", 'b'), ("verbose", 'l'),
      ("quiet", 's'), ("silent", 's')] }
  match Options.read known c.args with
  | .error fault => misuse c fault.message
  | .ok o =>
    match o.operands with
    | [] => misuse c "missing operand after 'cmp'".toList
    | a :: rest =>
      let b := rest.headD ['-']
      let skips := (o.value? 'i').map (splitAt ':')
      let number (text : Option (List Char)) : Nat := ((text.bind countOf?)).getD 0
      let skipA := number (((skips.bind List.head?)).or (rest[1]?))
      let skipB := number (((skips.bind List.getLast?)).or (rest[2]?))
      let limited (text : List Char) : List Char :=
        match (o.value? 'n').bind countOf? with
        | some n => text.take n
        | none => text
      let e := match contentOf c a, contentOf c b with
        | .ok x, .ok y => compare c o ⟨a, b, limited (x.drop skipA), limited (y.drop skipB)⟩
        | .error t, _ =>
          if o.has 's' then .ofStatus c 2 else .ofComplaint c 2 (plainComplaint a t)
        | _, .error t =>
          if o.has 's' then .ofStatus c 2 else .ofComplaint c 2 (plainComplaint b t)
      if isInput a || isInput b then e.takingAll c else e

end ParserConformance.Script.Tool.Comparing
