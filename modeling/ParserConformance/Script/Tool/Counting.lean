import ParserConformance.Script.Printing
import ParserConformance.Script.Tool.Call

/-!
# Counting

`seq` writes numbers that follow each other in equal steps. Numbers have decimals, and they are
exact.
-/

namespace ParserConformance.Script.Tool.Counting

/-- A number with decimals: a whole number by a power of ten. -/
structure Value where
  /-- The number without its point. -/
  digits : Int
  /-- How many of the digits stand behind the point. -/
  places : Nat
  /-- How wide the number is as it was written. -/
  width : Nat
  /-- Whether it is zero with a minus sign. -/
  isMinusZero : Bool
  deriving DecidableEq, Repr

/-- What a text writes. -/
inductive Limit where
  /-- A number. -/
  | finite (v : Value)
  /-- What is greater than all numbers, or less. -/
  | infinite (isNegative : Bool)
  /-- No number. -/
  | notNumber
  deriving DecidableEq, Repr

/-- The greatest power of ten that a number may have. -/
def greatestPower : Nat := 4932

/-- The exponent that a text is, if it is one. -/
def exponent? (cs : List Char) : Option Int :=
  match cs with
  | [] => some 0
  | e :: rest =>
    if e ≠ 'e' && e ≠ 'E' then none
    else
      let (sign, digits) : Int × List Char := match rest with
        | '-' :: ds => (-1, ds)
        | '+' :: ds => (1, ds)
        | ds => (1, ds)
      if digits.isEmpty || !digits.all isDigit then none else some (sign * valueOf digits)

/-- The number that a text without its sign writes, given how wide all of the text is. -/
def magnitude? (isNegative : Bool) (width : Nat) (cs : List Char) : Option Limit := do
  let sign : Int := if isNegative then -1 else 1
  match cs with
  | '0' :: x :: ds =>
    if (x = 'x' || x = 'X') && !ds.isEmpty then
      if ds.all (isDigitOf 16) then
        return .finite ⟨sign * valueIn 16 ds, 0, 0, isNegative && valueIn 16 ds = 0⟩
      else none
  | _ => pure ()
  let whole := cs.takeWhile isDigit
  let rest := cs.drop whole.length
  let (hasPoint, decimals, rest) := match rest with
    | '.' :: more => (true, more.takeWhile isDigit, more.dropWhile isDigit)
    | rest => (false, [], rest)
  if whole.isEmpty && decimals.isEmpty then none
  let power ← exponent? rest
  let n := valueOf (whole ++ decimals)
  if (greatestPower : Int) < power && n ≠ 0 then return .infinite isNegative
  let power := min power greatestPower
  let shift : Int := decimals.length - power
  let width : Int := width + (if !hasPoint then 0 else if decimals.isEmpty then -1
    else if whole.isEmpty then 1 else 0)
  let width : Int := width - rest.length
  let width :=
    if power < 0 then (if !hasPoint || decimals.isEmpty then width + 1 else width) - power
    else width + power
  return .finite ⟨sign * (n * 10 ^ (-shift).toNat : Nat), shift.toNat, width.toNat,
    isNegative && n = 0⟩

/-- The number that a text writes, if it writes one. -/
def read? (text : List Char) : Option Limit :=
  let cs := text.dropWhile fun c => isSpaceChar c || c = '+'
  let (isNegative, cs') := match cs with
    | '-' :: rest => (true, rest)
    | rest => (false, rest)
  let lower := String.ofList (cs'.map Char.toLower)
  if ["inf", "infinity"].contains lower then some (.infinite isNegative)
  else if lower = "nan" then some .notNumber
  else magnitude? isNegative cs.length cs'

/-- The digits of a value with so many places. -/
def Value.scaled (v : Value) (places : Nat) : Int := v.digits * 10 ^ (places - v.places)

/-- Numbers with a point before their last digits, the sign and the digits apart. -/
def pointed (places : Nat) (n : Int) : List Char × List Char :=
  (if n < 0 then ['-'] else [], Magnitude.withPoint places false n.natAbs)

/-- How many numbers are written at a time. -/
def manyNumbers : Nat := 10000

/-- The digits of the numbers, from the first on. -/
def countFrom (step : Int) (last : Option Int) : (room : Nat) → Int → List Int
  | 0, _ => []
  | room + 1, n =>
    if last.any fun l => (0 < step && l < n) || (step < 0 && n < l) then []
    else n :: countFrom step last room (n + step)

/-- What is wrong with a format, if something is. -/
def formatFault? (format : List Char) : Option (List Char) :=
  go format.length format
where
  /-- The rest of the text, behind what has no directive. -/
  plain : (room : Nat) → List Char → Bool × List Char
    | 0, cs => (true, cs)
    | _, [] => (true, [])
    | room + 1, '%' :: '%' :: cs => plain room cs
    | _, '%' :: cs => (false, cs)
    | room + 1, _ :: cs => plain room cs
  /-- Looks for the one directive. -/
  go (room : Nat) (cs : List Char) : Option (List Char) :=
    let shown := "format ".toList ++ quoted format
    match plain (room + 1) cs with
    | (true, _) => some (shown ++ " has no % directive".toList)
    | (false, rest) =>
      let rest := rest.dropWhile fun c => "-+#0 '".toList.contains c
      let rest := rest.dropWhile isDigit
      let rest := match rest with
        | '.' :: more => more.dropWhile isDigit
        | rest => rest
      let rest := match rest with
        | 'L' :: more => more
        | rest => rest
      match rest with
      | [] => some (shown ++ " ends in %".toList)
      | c :: more =>
        if !"efgaEFGA".toList.contains c then
          some (shown ++ " has unknown %".toList ++ c :: " directive".toList)
        else
          match plain (room + 1) more with
          | (true, _) => none
          | (false, _) => some (shown ++ " has too many % directives".toList)

/-- A number in a format. -/
def inFormat (format : List Char) (number : List Char) : List Char :=
  let format := format.flatMap fun c => if c = '\\' then ['\\', '\\'] else [c]
  (Script.printf (format.filter fun c => c ≠ 'L') [number]).output

/-- Whether an argument begins like a negative number. -/
def isNegativeNumber : List Char → Bool
  | '-' :: c :: _ => c = '.' || isDigit c
  | _ => false

/-- The arguments up to where options end, and the others. -/
def parted : List (List Char) → List (List Char) × List (List Char)
  | [] => ([], [])
  | arg :: args =>
    if isNegativeNumber arg || arg.head? ≠ some '-' || arg = ['-'] then ([], arg :: args)
    else if arg = ['-', '-'] then ([], args)
    else
      let takesNext := ["-s", "-f", "--separator", "--format"].any fun n => n.toList = arg
      match takesNext, args with
      | true, value :: args =>
        let (front, behind) := parted args
        (arg :: value :: front, behind)
      | _, args =>
        let (front, behind) := parted args
        (arg :: front, behind)

/-- Some of the numbers that some values make, as they are written, behind so many others. Nothing
if there are no more. -/
def numbers (equal : Bool) (first step : Value) (last : Limit) (behind : Nat) :
    Option (List (List Char)) :=
  let places := max first.places step.places
  let (limit, isEndless) : Option Int × Bool := match last with
    | .finite l =>
      let most := max places l.places
      let scale := most - places
      let n := l.scaled most
      (some (if 0 ≤ step.digits then n / 10 ^ scale else -(-n / 10 ^ scale)), false)
    | .infinite isNegative =>
      if isNegative = decide (step.digits < 0) then (none, true)
      else (some (first.scaled places + (if isNegative then -1 else 1)), false)
    | .notNumber => (some 0, false)
  let start := first.scaled places
  let by_ := step.scaled places
  let room := match limit with
    | some l => if isEndless then manyNumbers else ((l - start) / by_).toNat + 1 - behind
    | none => manyNumbers
  let ns := countFrom by_ limit (min room manyNumbers) (start + behind * by_)
  let width : Nat := match equal, last with
    | true, .finite l =>
      let first' := first.width + (places - first.places) +
        (if first.places = 0 && 0 < places then 1 else 0)
      let last' : Int := (l.width : Int) + places - l.places -
        (if 0 < l.places && places = 0 then 1 else 0) +
        (if l.places = 0 && 0 < places then 1 else 0)
      max first' last'.toNat
    | _, _ => 0
  if ns.isEmpty then none
  else some (ns.zipIdx.map fun (n, i) =>
    let (sign, digits) := pointed places n
    let sign := if i + behind = 0 && first.isMinusZero then ['-'] else sign
    sign ++ List.replicate (width - sign.length - digits.length) '0' ++ digits)

/-- Writes numbers that follow each other. -/
def seq : Tool := fun c =>
  let (front, operands) := parted c.args
  withOptions {
    flags := "w", valued := "fs"
    long := [("equal-width", 'w'), ("format", 'f'), ("separator", 's')] } 1 (fun c o =>
    let one : Value := ⟨1, 0, 1, false⟩
    let bad := operands.findSome? fun text => match read? text with
      | none => some ("invalid floating point argument: ".toList ++ quoted text)
      | some .notNumber => some ("invalid 'not-a-number' argument: ".toList ++ quoted text)
      | some _ => none
    let read := operands.filterMap read?
    match operands.drop 3, bad, (o.value? 'f').bind formatFault?, read with
    | [], _, some text, _ => .ofComplaint c 1 text
    | extra :: _, _, _, _ => .ofMisuse c 1 ("extra operand ".toList ++ quoted extra)
    | _, _, none, [] =>
      match bad with
      | some text => .ofMisuse c 1 text
      | none => .ofMisuse c 1 "missing operand".toList
    | _, some text, none, _ => .ofMisuse c 1 text
    | _, none, none, values =>
      if o.has 'f' && o.has 'w' then
        .ofMisuse c 1 "format string may not be specified when printing equal width strings".toList
      else
        let range : Option (Value × Value × Limit) := match values with
          | [last] => some (one, one, last)
          | [.finite first, last] => some (first, one, last)
          | [.finite first, .finite step, last] => some (first, step, last)
          | _ => none
        match range with
        | none => .ofStatus c 0
        | some (first, step, last) =>
          if step.digits = 0 then
            .ofMisuse c 1 ("invalid Zero increment value: ".toList ++ quoted (operands.getD 1 []))
          else
            let separator := (o.value? 's').getD ['\n']
            let piece (n : Nat) : Option (List Char) :=
              (numbers (o.has 'w') first step last (n * manyNumbers)).map fun texts =>
                let texts := match o.value? 'f' with
                  | some format => texts.map (inFormat format)
                  | none => texts
                (if n = 0 then [] else separator) ++ separator.intercalate texts
            match piece 0, piece 1 with
            | none, _ => .ofStatus c 0
            | some text, none => .ofOutput c (text ++ ['\n'])
            | some text, some _ =>
              { Effect.ofOutput c text with further := some fun n => match piece (n + 1) with
                | some text => some text
                | none => if (piece n).isSome then some ['\n'] else none })
    { c with args := front }

end ParserConformance.Script.Tool.Counting
