import ParserConformance.Script.Decimal

/-!
# Output of the shell

What `echo` and `printf` write, and how they read escapes.
-/

namespace ParserConformance.Script

/-! ### Escapes -/

/-- Whether a character is an octal digit. -/
def isOctal (c : Char) : Bool := '0' ≤ c && c ≤ '7'

/-- The byte that octal digits write. -/
def octalByte (digits : List Char) : Char := Char.ofNat (valueIn 8 digits % 256)

/-- Reads what follows on a backslash. A character that no escape has is left to stand behind
the backslash. -/
def escapeAt (cs : List Char) : Char × List Char :=
  match cs with
  | '\\' :: rest => ('\\', rest)
  | 'a' :: rest => ('\x07', rest)
  | 'b' :: rest => ('\x08', rest)
  | 'e' :: rest => ('\x1b', rest)
  | 'f' :: rest => ('\x0c', rest)
  | 'n' :: rest => ('\n', rest)
  | 'r' :: rest => ('\r', rest)
  | 't' :: rest => ('\t', rest)
  | 'v' :: rest => ('\x0b', rest)
  | _ =>
    match (cs.take 3).takeWhile isOctal with
    | [] => ('\\', cs)
    | digits => (octalByte digits, cs.drop digits.length)

/-- The characters of `echo`'s text; the flag says whether all of them are to be written. A zero
may stand before octal digits, and `\c` ends everything. -/
def echoText : (room : Nat) → List Char → List Char × Bool
  | 0, _ => ([], true)
  | _ + 1, [] => ([], true)
  | room + 1, '\\' :: cs =>
    match cs with
    | 'c' :: _ => ([], false)
    | '0' :: d :: rest =>
      let (c, rest) := if isOctal d then escapeAt (d :: rest) else escapeAt ('0' :: d :: rest)
      let (out, whole) := echoText room rest
      (c :: out, whole)
    | cs =>
      let (c, rest) := escapeAt cs
      let (out, whole) := echoText room rest
      (c :: out, whole)
  | room + 1, c :: cs =>
    let (out, whole) := echoText room cs
    (c :: out, whole)

/-- What `echo` writes. -/
def echo (args : List (List Char)) : List Char :=
  let (newline, args) := match args with
    | ['-', 'n'] :: rest => (false, rest)
    | args => (true, args)
  let text := [' '].intercalate args
  let (out, whole) := echoText (text.length + 1) text
  out ++ (if newline && whole then ['\n'] else [])

/-! ### Conversions -/

/-- How a conversion is to be laid out. -/
structure Layout where
  /-- Whether the text stands at the left of its field. -/
  isLeft : Bool
  /-- What stands before a number that is not negative. -/
  plus : List Char
  /-- Whether a number shows its base or its point in any case. -/
  isAlternate : Bool
  /-- Whether a number's field is filled with zeros. -/
  isZeroFilled : Bool
  /-- The least width. -/
  width : Nat
  /-- The precision. -/
  precision : Option Nat
  deriving DecidableEq, Repr

namespace Layout

/-- A text in its field. -/
def pad (l : Layout) (text : List Char) : List Char :=
  let fill := List.replicate (l.width - text.length) ' '
  if l.isLeft then text ++ fill else fill ++ text

/-- A text, no longer than the precision, in its field. -/
def string (l : Layout) (text : List Char) : List Char :=
  l.pad (match l.precision with
    | some p => text.take p
    | none => text)

/-- A number's digits with what stands before them, in their field. -/
def number (l : Layout) (sign digits : List Char) (mayFill : Bool) : List Char :=
  if l.isZeroFilled && !l.isLeft && mayFill then
    sign ++ List.replicate (l.width - sign.length - digits.length) '0' ++ digits
  else l.pad (sign ++ digits)

/-- The digits of a whole number with at least as many as the precision asks for. -/
def digits (l : Layout) (base n : Nat) : List Char :=
  match l.precision with
  | some 0 => if n = 0 then [] else Nat.toDigits base n
  | some p => Magnitude.padZeros p (Nat.toDigits base n)
  | none => Nat.toDigits base n

/-- A whole number in its field. -/
def integer (l : Layout) (n : Int) : List Char :=
  l.number (if n < 0 then ['-'] else l.plus) (l.digits 10 n.natAbs) l.precision.isNone

/-- A whole number that is not negative, by the conversion of a letter. -/
def unsigned (l : Layout) (conversion : Char) (n : Nat) : List Char :=
  let base := if conversion = 'o' then 8 else if conversion = 'u' then 10 else 16
  let ds := l.digits base n
  let ds := if conversion = 'X' then ds.map Char.toUpper else ds
  let ds := if l.isAlternate && conversion = 'o' && ds.head? ≠ some '0' then '0' :: ds else ds
  let sign := if l.isAlternate && base = 16 && n ≠ 0 then ['0', conversion] else []
  l.number sign ds l.precision.isNone

/-- A number with decimals, by the conversion of a letter. -/
def real (l : Layout) (conversion : Char) (r : Real) : List Char :=
  let text := r.magnitude.text conversion (l.precision.getD 6) l.isAlternate
  l.number (if r.isNegative then ['-'] else l.plus) text (r.magnitude ≠ .infinite)

end Layout

/-! ### Formats -/

/-- What a `printf` has come to. -/
structure Printed where
  /-- What it has written. -/
  output : List Char
  /-- Its complaints about arguments. -/
  complaints : List (List Char)
  /-- The arguments that are left over. -/
  args : List (List Char)
  /-- Whether output goes on. -/
  goesOn : Bool
  /-- What is wrong with the format itself. -/
  fault : Option (List Char)

namespace Printed

/-- With more output. -/
def write (p : Printed) (cs : List Char) : Printed := { p with output := p.output ++ cs }

/-- With an argument taken off. -/
def next (p : Printed) : Printed := { p with args := p.args.drop 1 }

/-- With a complaint about an argument of which `rest` is not part of a number. -/
def judge (p : Printed) (arg rest : List Char) : Printed :=
  if rest.isEmpty then p
  else
    let what := if rest.length = arg.length then ": expected numeric value"
      else ": not completely converted"
    { p with complaints := p.complaints ++ [arg ++ what.toList] }

/-- With a complaint about an argument that is too great. -/
def judgeRange (p : Printed) (arg : List Char) (isWithin : Bool) : Printed :=
  if isWithin then p
  else { p with complaints := p.complaints ++ [arg ++ ": Numerical result out of range".toList] }

/-- Takes the next argument as a whole number. A character behind a quote stands for its
code. -/
def integer (p : Printed) (isSigned : Bool) : Int × Printed :=
  match p.args with
  | [] => (0, p)
  | arg :: _ =>
    match arg with
    | q :: more =>
      if q = '"' || q = '\'' then ((more.head?.map fun c => (c.toNat : Int)).getD 0, p.next)
      else
        match readAnyInteger? arg with
        | some (n, rest) =>
          let greatest := if isSigned then maxNumber else 2 ^ 64 - 1
          let least := if isSigned then -maxNumber - 1 else -greatest
          let isWithin := least ≤ n && n ≤ greatest
          let n := if isWithin then n else if isSigned then bounded n else greatest
          (n, ((p.judge arg rest).judgeRange arg (isWithin || !rest.isEmpty)).next)
        | none => (0, (p.judge arg arg).next)
    | [] => (0, p.next)

/-- Takes the next argument as a number with decimals. -/
def real (p : Printed) : Real × Printed :=
  match p.args with
  | [] => (⟨false, .finite 0 0⟩, p)
  | arg :: _ =>
    match arg with
    | q :: more =>
      if q = '"' || q = '\'' then
        (⟨false, .ofQuotient ((more.head?.map Char.toNat).getD 0) 1⟩, p.next)
      else
        match readReal? arg with
        | some (r, rest) => (r, (p.judge arg rest).next)
        | none => (⟨false, .finite 0 0⟩, (p.judge arg arg).next)
    | [] => (⟨false, .finite 0 0⟩, p.next)

/-- Takes a width or precision, which an asterisk leaves to an argument. -/
def measure (p : Printed) (cs : List Char) : Int × List Char × Printed :=
  match cs with
  | '*' :: rest =>
    let (n, p) := p.integer true
    (n, rest, p)
  | cs => (valueOf (cs.takeWhile isDigit), cs.dropWhile isDigit, p)

/-- Writes the next argument by the conversion of a letter; nothing if there is no such
conversion. -/
def convert? (p : Printed) (l : Layout) (conversion : Char) : Option Printed :=
  match conversion with
  | 's' => some (p.next.write (l.string (p.args.headD [])))
  | 'b' =>
    let arg := p.args.headD []
    let (text, whole) := echoText (arg.length + 1) arg
    some { p.next.write (l.string text) with goesOn := whole }
  | 'c' => some (p.next.write (l.pad ((p.args.headD []).take 1)))
  | 'd' | 'i' =>
    let (n, p) := p.integer true
    some (p.write (l.integer n))
  | 'o' | 'u' | 'x' | 'X' =>
    let (n, p) := p.integer false
    some (p.write (l.unsigned conversion (n % 2 ^ 64).toNat))
  | 'e' | 'E' | 'f' | 'F' | 'g' | 'G' =>
    let (r, p) := p.real
    some (p.write (l.real conversion r))
  | _ => none

/-- Goes through a format once. -/
def once : (room : Nat) → (format : List Char) → Printed → Printed
  | 0, _, p => p
  | _ + 1, [], p => p
  | room + 1, '\\' :: cs, p =>
    let (c, rest) := escapeAt cs
    once room rest (p.write [c])
  | room + 1, '%' :: '%' :: cs, p => once room cs (p.write ['%'])
  | room + 1, '%' :: cs, p =>
    let flags := cs.takeWhile fun c => "#-+ 0".toList.contains c
    let (width, rest, p) := p.measure (cs.drop flags.length)
    let (precision, rest, p) := match rest with
      | '.' :: rest =>
        let (n, rest, p) := p.measure rest
        (if n < 0 then none else some n.toNat, rest, p)
      | rest => (none, rest, p)
    let layout : Layout := {
      isLeft := flags.contains '-' || width < 0
      plus := if flags.contains '+' then ['+'] else if flags.contains ' ' then [' '] else []
      isAlternate := flags.contains '#'
      isZeroFilled := flags.contains '0'
      width := width.natAbs
      precision }
    match rest with
    | [] => { p with fault := some "missing format character".toList }
    | conversion :: rest' =>
      match p.convert? layout conversion with
      | some p => if p.goesOn then once room rest' p else p
      | none =>
        let directive := '%' :: cs.take (cs.length - rest'.length)
        { p with fault := some (directive ++ ": invalid directive".toList) }
  | room + 1, c :: cs, p => once room cs (p.write [c])

/-- Goes through a format as long as it takes up arguments. -/
def again (format : List Char) : (room : Nat) → Printed → Printed
  | 0, p => p
  | room + 1, p =>
    let q := once (format.length + 1) format p
    if q.goesOn && q.fault.isNone && !q.args.isEmpty && q.args.length < p.args.length then
      again format room q
    else q

end Printed

/-- What `printf` comes to. -/
def printf (format : List Char) (args : List (List Char)) : Printed :=
  Printed.again format (args.length + 1) ⟨[], [], args, true, none⟩

end ParserConformance.Script
