import ParserConformance.Script.Printing

/-!
# Values of text programs

Programs that work on text calculate with numbers of 53 binary digits. A text is a number as far as it
begins like one, and a number becomes a text in full if it is whole, else in a format.

A value is a number or a text. What comes from an input is a text that counts as a number where it looks
like one, and a variable that was never set is both an empty text and zero.
-/

namespace ParserConformance.Script.Awk

/-- What a number is made of. -/
inductive Shape where
  /-- A sign and a magnitude. -/
  | real (r : Real)
  /-- What no calculation gives. -/
  | notNumber
  deriving DecidableEq, Repr

/-- What a number is made of. -/
def shapeOf (x : Float) : Shape :=
  let bits := x.toBits.toNat
  let isNegative := 2 ^ 63 ≤ bits
  let power : Nat := bits / 2 ^ 52 % 2048
  let digits : Nat := bits % 2 ^ 52
  if power = 2047 then
    if digits = 0 then .real ⟨isNegative, .infinite⟩ else .notNumber
  else if power = 0 then .real ⟨isNegative, .finite digits (-1074)⟩
  else .real ⟨isNegative, .finite (2 ^ 52 + digits) ((power : Int) - 1075)⟩

/-- The number of a sign and a magnitude. -/
def numberOf (r : Real) : Float :=
  let x := match r.magnitude with
    | .finite m e => Float.scaleB (Float.ofNat m) e
    | .infinite => 1 / 0
  if r.isNegative then -x else x

/-- The whole number nearest to zero next to a number. -/
def wholeOf (x : Float) : Int :=
  match shapeOf x with
  | .real ⟨isNegative, .finite m e⟩ =>
    let n : Int := (m * 2 ^ e.toNat / 2 ^ (-e).toNat : Nat)
    if isNegative then -n else n
  | .real ⟨isNegative, .infinite⟩ => if isNegative then -(2 ^ 63) else 2 ^ 63 - 1
  | .notNumber => -(2 ^ 63)

/-- Whether a number is whole. -/
def isWhole (x : Float) : Bool := x.floor == x

/-- What is left of a number when another one is taken off as often as it fits. -/
def remainder (x y : Float) : Float :=
  match shapeOf x, shapeOf y with
  | .real ⟨isNegative, .finite m e⟩, .real ⟨_, .finite n f⟩ =>
    if n = 0 then -(0 / 0)
    else
      let low := min e f
      let rest := (m * 2 ^ (e - low).toNat) % (n * 2 ^ (f - low).toNat)
      numberOf ⟨isNegative, .ofQuotient (rest * 2 ^ low.toNat) (2 ^ (-low).toNat)⟩
  | .real ⟨_, .finite _ _⟩, .real ⟨_, .infinite⟩ => x
  | _, _ => -(0 / 0)

/-! ### From text -/

/-- The number that hexadecimal digits at the front of a text write, with a fraction. -/
def hexadecimal? (cs : List Char) : Option (Nat × Nat × List Char) :=
  let whole := cs.takeWhile (isDigitOf 16)
  let rest := cs.drop whole.length
  let (places, rest) := match rest with
    | '.' :: more => (more.takeWhile (isDigitOf 16), more.dropWhile (isDigitOf 16))
    | rest => ([], rest)
  if whole.isEmpty && places.isEmpty then none
  else some (valueIn 16 (whole ++ places), 16 ^ places.length, rest)

/-- Whether a text begins with a word, whatever the case of its letters. -/
def beginsWith (word : String) (cs : List Char) : Bool :=
  word.toList.isPrefixOf (cs.map Char.toLower)

/-- The number at the front of a text, and what comes after it. -/
def numberAt? (cs : List Char) : Option (Float × List Char) :=
  let cs := cs.dropWhile isSpaceChar
  let (isNegative, rest) := match cs with
    | '-' :: rest => (true, rest)
    | '+' :: rest => (false, rest)
    | rest => (false, rest)
  let sign (x : Float) : Float := if isNegative then -x else x
  match rest with
  | c :: more =>
    if isDigit c && more.length < 15 && more.all isDigit then
      some (sign (Float.ofNat (valueOf rest)), [])
    else if c = '0' && (more.head? = some 'x' || more.head? = some 'X') then
      match hexadecimal? (more.drop 1) with
      | some (n, d, rest) =>
        some (numberOf ⟨isNegative, .ofQuotient n d⟩, rest)
      | none => some (sign 0, more)
    else if isDigit c || c = '.' then
      (readReal? cs).map fun (r, rest) => (numberOf r, rest)
    else if beginsWith "infinity" rest then some (sign (1 / 0), rest.drop 8)
    else if beginsWith "inf" rest then some (sign (1 / 0), rest.drop 3)
    else if beginsWith "nan" rest then some (sign (Float.abs (0 / 0)), rest.drop 3)
    else none
  | [] => none

/-- The number that a text is. What does not begin like a number is zero. -/
def numberIn (cs : List Char) : Float := ((numberAt? cs).map (·.1)).getD 0

/-- Whether a text looks like a number, with blanks around it or without. -/
def looksLikeNumber (cs : List Char) : Bool :=
  let text := cs.dropWhile isSpaceChar
  let isStart := text.head?.any fun c => isDigit c || c = '.' || c = '+' || c = '-'
  let last? := text.reverse.find? fun c => !isSpaceChar c
  let isStop := last?.any fun c => isDigit c || c = '.'
  isStart && isStop &&
    match numberAt? text with
    | some (_, rest) => rest.all isSpaceChar
    | none => false

/-! ### To text -/

/-- A number that is not finite as a text. -/
def nonFinite? (x : Float) : Option (List Char) :=
  match shapeOf x with
  | .real ⟨isNegative, .infinite⟩ => some (if isNegative then "-inf" else "inf").toList
  | .notNumber => some "-nan".toList
  | _ => none

/-- The digits of a number that is whole, if there are few enough of them. -/
def wholeText? (x : Float) : Option (List Char) :=
  if x ≥ 0 then
    let n := x.toUInt64
    if n.toFloat == x then some (digitsOf n.toNat) else none
  else
    let n := x.toInt64
    if n.toFloat == x then some (digitsOfInt n.toInt) else none

/-- A number in a field by the conversion of a letter. -/
def laidOut (l : Layout) (conversion : Char) (x : Float) : List Char :=
  match shapeOf x with
  | .real r => l.real conversion r
  | .notNumber => l.pad (if conversion.isUpper then "-NAN" else "-nan").toList

/-- A value. -/
inductive Value where
  /-- What a variable has that was never set. -/
  | unset
  /-- A number. -/
  | number (x : Float)
  /-- A text. -/
  | text (cs : List Char)
  /-- A text from an input. -/
  | input (cs : List Char)

namespace Value

/-- The value as a number. -/
def toNumber : Value → Float
  | .unset => 0
  | .number x => x
  | .text cs | .input cs => numberIn cs

/-- The value as a text, given how numbers are written. -/
def toText (write : Float → List Char) : Value → List Char
  | .unset => []
  | .number x => write x
  | .text cs | .input cs => cs

/-- Whether a value counts as a number. -/
def isNumber : Value → Bool
  | .number _ => true
  | .input cs => looksLikeNumber cs
  | _ => false

/-- Whether a value counts as true. -/
def holds : Value → Bool
  | .unset => false
  | .number x => x != 0
  | .text cs => !cs.isEmpty
  | .input cs => if looksLikeNumber cs then numberIn cs != 0 else !cs.isEmpty

/-- The value that says whether something holds. -/
def ofBool (b : Bool) : Value := .number (if b then 1 else 0)

/-- The value of a whole number. -/
def ofNat (n : Nat) : Value := .number (Float.ofNat n)

/-- The value of a whole number with a sign. -/
def ofInt (n : Int) : Value := .number (Float.ofInt n)

end Value

/-- How two values stand to each other. -/
inductive Relation where
  /-- The first one is less. -/
  | less
  /-- The first one is not greater. -/
  | atMost
  /-- They are equal. -/
  | equal
  /-- They differ. -/
  | unequal
  /-- The first one is greater. -/
  | greater
  /-- The first one is not less. -/
  | atLeast
  deriving DecidableEq, Repr

/-- Whether two numbers are in a relation. -/
def Relation.ofNumbers (r : Relation) (x y : Float) : Bool :=
  match r with
  | .less => x < y
  | .atMost => x ≤ y
  | .equal => x == y
  | .unequal => x != y
  | .greater => x > y
  | .atLeast => x ≥ y

/-- Whether two texts are in a relation. -/
def Relation.ofTexts (r : Relation) (a b : List Char) : Bool :=
  match r with
  | .less => a < b
  | .atMost => !(b < a)
  | .equal => a = b
  | .unequal => a ≠ b
  | .greater => b < a
  | .atLeast => !(a < b)

/-- Whether two values are in a relation: as numbers if both count as numbers, else as texts. -/
def Relation.holds (r : Relation) (write : Float → List Char) (a b : Value) : Bool :=
  let byNumber := match a, b with
    | .unset, .unset => true
    | .unset, b => b.isNumber
    | a, .unset => a.isNumber
    | a, b => a.isNumber && b.isNumber
  if byNumber then r.ofNumbers a.toNumber b.toNumber
  else r.ofTexts (a.toText write) (b.toText write)

end ParserConformance.Script.Awk
