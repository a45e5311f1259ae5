import ParserConformance.Script.Awk.Value

/-!
# Formats of text programs

A format is a text with directives, each of which takes a value and lays it out. By a format
numbers become texts too.
-/

namespace ParserConformance.Script.Awk

/-- What is wrong with a format. -/
inductive FormatFault where
  /-- There are fewer values than directives. -/
  | tooFew
  /-- A directive, the first one being number one, is none. -/
  | improper (n : Nat)
  deriving DecidableEq, Repr

/-- The wording of a fault in the format of a function. -/
def FormatFault.message (function : String) (format : List Char) : FormatFault → List Char
  | .tooFew =>
    ("not enough arguments passed to " ++ function ++ "(\"").toList ++ format ++ "\")".toList
  | .improper n =>
    "improper conversion(number ".toList ++ digitsOf n ++ (") in " ++ function ++ "(\"").toList ++
      format ++ "\")".toList

/-- What a format has come to. -/
structure Formatted where
  /-- What was written, piece by piece, the last one first. -/
  pieces : List (List Char) := []
  /-- The values that are left. -/
  args : List Value
  /-- How many directives there were. -/
  count : Nat := 0

/-- What was written. -/
def Formatted.text (f : Formatted) : List Char := f.pieces.reverse.flatten

/-- With more text. -/
def Formatted.write (f : Formatted) (cs : List Char) : Formatted :=
  { f with pieces := cs :: f.pieces }

/-- A whole number with a sign from a number. Too great ones have no sign. -/
def signedOf (x : Float) : Int :=
  match shapeOf x with
  | .notNumber => -(2 ^ 63)
  | .real ⟨false, .infinite⟩ => 2 ^ 64 - 1
  | .real ⟨true, .infinite⟩ => -(2 ^ 63 - 1)
  | .real _ => max (-(2 ^ 63 - 1)) (min (wholeOf x) (2 ^ 64 - 1))

/-- A whole number without a sign from a number. One below zero is counted back from the greatest
one. -/
def unsignedOf (x : Float) : Nat :=
  let n := signedOf x
  (n % 2 ^ 64).toNat

/-- The character of a value: that of a number, or the first one of a text. -/
def Value.toChar (v : Value) : Char :=
  if v.isNumber || v matches .unset then Char.ofNat (wholeOf v.toNumber % 256).toNat
  else (v.toText fun _ => []).headD '\x00'

/-- A value in a field by the conversion of a letter; nothing if there is no such conversion. -/
def Layout.convert? (l : Layout) (write : Float → List Char) (hasSize : Bool) (conversion : Char)
    (v : Value) : Option (List Char) :=
  let x := v.toNumber
  match conversion with
  | 's' => if hasSize then none else some (l.string (v.toText write))
  | 'c' => if hasSize then none else some (l.pad [v.toChar])
  | 'd' | 'i' => some (l.integer (signedOf x))
  | 'o' | 'u' | 'x' | 'X' => some (l.unsigned conversion (unsignedOf x))
  | 'e' | 'E' | 'f' | 'g' | 'G' => if hasSize then none else some (laidOut l conversion x)
  | _ => none

/-- Takes a width or a precision, which an asterisk leaves to a value. -/
def Formatted.measure? (f : Formatted) (cs : List Char) :
    Option (Int × List Char × Formatted) :=
  match cs with
  | '*' :: rest =>
    match f.args with
    | v :: args => some (wholeOf v.toNumber, rest, { f with args })
    | [] => none
  | cs => some ((valueOf (cs.takeWhile isDigit) : Nat), cs.dropWhile isDigit, f)

/-- Takes a precision if a point comes next; one below zero is none, and so is one of a text that
has no digits. -/
def Formatted.precision? (f : Formatted) (cs : List Char) :
    Option (Option Nat × List Char × Formatted) :=
  match cs with
  | '.' :: 's' :: cs => some (none, 's' :: cs, f)
  | '.' :: cs =>
    (f.measure? cs).map fun ((n, rest, f) : Int × List Char × Formatted) =>
      (if n < 0 then none else some n.toNat, rest, f)
  | cs => some (none, cs, f)

/-- Takes a directive behind its sign, and what comes after it. -/
def directive (write : Float → List Char) (f : Formatted) (cs : List Char) :
    Except (FormatFault × Formatted) (Formatted × List Char) := do
  let f := { f with count := f.count + 1 }
  let flags := cs.takeWhile fun c => "#-+ 0".toList.contains c
  let some (width, rest, f) := f.measure? (cs.drop flags.length) | throw (.tooFew, f)
  let some (precision, rest, f) := f.precision? rest | throw (.tooFew, f)
  let size := rest.takeWhile fun c => c = 'h' || c = 'l'
  let layout : Layout := {
    isLeft := flags.contains '-' || width < 0
    plus := if flags.contains '+' then ['+'] else if flags.contains ' ' then [' '] else []
    isAlternate := flags.contains '#'
    isZeroFilled := flags.contains '0'
    width := width.natAbs
    precision }
  match f.args, rest.drop size.length with
  | [], _ => throw (.tooFew, f)
  | v :: args, conversion :: rest =>
    match Layout.convert? layout write (!size.isEmpty) conversion v with
    | some text => return ({ f.write text with args }, rest)
    | none => throw (.improper f.count, f)
  | _, [] => throw (.improper f.count, f)

/-- Goes through a format. A fault comes with what was written before it. -/
def formatFrom (write : Float → List Char) : (room : Nat) → Formatted → List Char →
    Except (FormatFault × Formatted) Formatted
  | 0, f, _ => .ok f
  | _ + 1, f, [] => .ok f
  | room + 1, f, '%' :: '%' :: cs =>
    formatFrom write room { f.write ['%'] with count := f.count + 1 } cs
  | room + 1, f, '%' :: cs => do
    let (f, rest) ← directive write f cs
    formatFrom write room f rest
  | room + 1, f, c :: cs =>
    let plain := (c :: cs).takeWhile (· ≠ '%')
    formatFrom write room (f.write plain) ((c :: cs).drop plain.length)

/-- Values in a format, given how numbers are written. -/
def format (write : Float → List Char) (cs : List Char) (args : List Value) :
    Except (FormatFault × Formatted) Formatted :=
  formatFrom write (cs.length + 1) { args } cs

/-- A number as a text: in full if it is whole, else in a format. -/
def numberText (conversion : List Char) (x : Float) : List Char :=
  match nonFinite? x, wholeText? x with
  | some text, _ | none, some text => text
  | none, none =>
    match format (fun _ => []) conversion [.number x] with
    | .ok f => f.text
    | .error (_, f) => f.text

end ParserConformance.Script.Awk
