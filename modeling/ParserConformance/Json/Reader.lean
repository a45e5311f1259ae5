import ParserConformance.Instances
import ParserConformance.Text.Utf8

/-!
# Reading JSON

Readers for the parts of a JSON text. Each takes the text from where its part begins and gives
what it read and the text after it, or says why the text is refused. The first reason in
reading order is the one given. A text is refused as malformed where it is not JSON, as
truncated where it ends too early, and as mistyped where a value is of another type than the
one wanted.
-/

namespace ParserConformance.Json

open Text (Piece)

/-- Why a text is refused. -/
inductive Refusal where
  /-- It is not JSON. -/
  | malformed
  /-- It ends too early. -/
  | truncated
  /-- A value is of another type or shape than the one wanted. -/
  | mistyped
  deriving DecidableEq, Repr

/-- A text still to be read. -/
abbrev Input := List Piece

/-- Reads a value and gives the text after it. -/
abbrev Reader (α : Type) := Input → Except Refusal (α × Input)

/-- A string as an input. -/
def inputOf (s : String) : Input := s.toList.map .char

/-- The text without its leading white space. -/
def skipSpace : Input → Input
  | .char c :: rest =>
    if c = ' ' || c = '\n' || c = '\t' || c = '\r' then skipSpace rest else .char c :: rest
  | input => input

/-- Passes over the characters `cs`. -/
def expectChars : List Char → Input → Except Refusal Input
  | [], input => .ok input
  | _ :: _, [] => .error .truncated
  | c :: cs, p :: rest => if p = .char c then expectChars cs rest else .error .malformed

/-! ### Texts -/

/-- What the characters read so far have begun inside a text. -/
inductive TextMode where
  /-- Nothing. -/
  | plain
  /-- An escape, by a backslash. -/
  | escape
  /-- A code unit in hexadecimal digits, `bytes` of which are read. It is `bad` if one of them
  is no digit. `high` is the first half of the pair that it completes. -/
  | unit (bytes value : Nat) (bad : Bool) (high : Option Nat)
  /-- The first half of a pair. -/
  | afterHigh (high : Nat)
  /-- The first half of a pair and a backslash. -/
  | afterHighEscape (high : Nat)

/-- The character that a backslash and `c` write. -/
def unescape? : Char → Option Char
  | '"' => some '"'
  | '\\' => some '\\'
  | '/' => some '/'
  | 'b' => some '\x08'
  | 'f' => some '\x0c'
  | 'n' => some '\n'
  | 'r' => some '\r'
  | 't' => some '\t'
  | _ => none

/-- The value of a hexadecimal digit. -/
def hexValue? (c : Char) : Option Nat :=
  if '0' ≤ c && c ≤ '9' then some (c.toNat - '0'.toNat)
  else if 'a' ≤ c && c ≤ 'f' then some (c.toNat - 'a'.toNat + 10)
  else if 'A' ≤ c && c ≤ 'F' then some (c.toNat - 'A'.toNat + 10)
  else none

/-- Whether a code unit is the first half of a pair. -/
def isHigh (n : Nat) : Bool := 0xD800 ≤ n && n ≤ 0xDBFF

/-- Whether a code unit is the second half of a pair. -/
def isLow (n : Nat) : Bool := 0xDC00 ≤ n && n ≤ 0xDFFF

/-- What follows on a whole code unit: the next mode, and a character if one is complete. In a
text that is passed over, halves of pairs need no partner. -/
def afterUnit (strict : Bool) (value : Nat) : (high : Option Nat) →
    Except Refusal (TextMode × Option Char)
  | some high =>
    if isLow value then
      .ok (.plain, some (Char.ofNat (0x10000 + (high - 0xD800) * 0x400 + (value - 0xDC00))))
    else .error .malformed
  | none =>
    if !strict then .ok (.plain, none)
    else if isLow value then .error .malformed
    else if isHigh value then .ok (.afterHigh value, none)
    else .ok (.plain, some (Char.ofNat value))

/-- What one piece of a text, not its closing quote, does: the next mode, and a character if
one is complete. -/
def textStep (strict : Bool) (mode : TextMode) (p : Piece) :
    Except Refusal (TextMode × Option Char) :=
  match mode with
  | .plain =>
    if p = .char '\\' then .ok (.escape, none)
    else
      match p with
      | .char c => if c.toNat < 0x20 then .error .malformed else .ok (.plain, some c)
      | .broken _ _ => .ok (.plain, none)
  | .escape =>
    match p with
    | .char c =>
      if c = 'u' then .ok (.unit 0 0 false none, none)
      else
        match unescape? c with
        | some d => .ok (.plain, some d)
        | none => .error .malformed
    | .broken _ _ => .error .malformed
  | .unit bytes value bad high =>
    let digit? := match p with
      | .char c => hexValue? c
      | .broken _ _ => none
    let bytes := bytes + p.size
    let value := value * 16 + digit?.getD 0
    let bad := bad || digit?.isNone
    if bytes < 4 then .ok (.unit bytes value bad high, none)
    else if bad then .error .malformed
    else afterUnit strict value high
  | .afterHigh high =>
    if p = .char '\\' then .ok (.afterHighEscape high, none) else .error .malformed
  | .afterHighEscape high =>
    if p = .char 'u' then .ok (.unit 0 0 false (some high), none) else .error .malformed

/-- Whether a piece in this mode is the closing quote. -/
def closesText : TextMode → Piece → Bool
  | .plain, p => p = .char '"'
  | _, _ => false

/-- Whether a piece is a character. -/
def isWhole : Piece → Bool
  | .char _ => true
  | .broken _ _ => false

/-- Reads a text up to its closing quote. A strict reading wants characters throughout and
tells of a broken piece when the text closes. -/
def readTextFrom (strict : Bool) (mode : TextMode) (whole : Bool) (reversed : List Char) :
    Input → Except Refusal (String × Input)
  | [] => .error .truncated
  | p :: rest =>
    if closesText mode p then
      if whole || !strict then .ok (String.ofList reversed.reverse, rest) else .error .malformed
    else
      match textStep strict mode p with
      | .error refusal => .error refusal
      | .ok (mode, c?) =>
        readTextFrom strict mode (whole && isWhole p) (c?.toList ++ reversed) rest

/-- Reads a text after its opening quote. -/
def readText : Input → Except Refusal (String × Input) := readTextFrom true .plain true []

/-- Passes over a text after its opening quote. -/
def skipText (input : Input) : Except Refusal Input := do
  return (← readTextFrom false .plain true [] input).2

/-! ### Numbers -/

/-- The digits at the start and the text after them. -/
def takeDigits : Input → List Nat × Input
  | .char c :: rest =>
    if c.isDigit then
      let (digits, rest) := takeDigits rest
      ((c.toNat - '0'.toNat) :: digits, rest)
    else ([], .char c :: rest)
  | input => ([], input)

/-- The refusal of a number that goes on with something else than a digit. -/
def noDigit : Input → Refusal
  | [] => .truncated
  | _ :: _ => .malformed

/-- Reads at least one digit. -/
def readDigits (input : Input) : Except Refusal (List Nat × Input) :=
  match takeDigits input with
  | ([], rest) => .error (noDigit rest)
  | (digits, rest) => .ok (digits, rest)

/-- Reads the digits before a point. Only zero itself begins with a zero. -/
def readWhole (input : Input) : Except Refusal (List Nat × Input) := do
  match ← readDigits input with
  | (0 :: _ :: _, _) => .error .malformed
  | reading => .ok reading

/-- Reads the digits after a point, if one comes. -/
def readFraction : Input → Except Refusal (Option (List Nat) × Input)
  | .char '.' :: rest => do
    let (digits, rest) ← readDigits rest
    return (some digits, rest)
  | input => .ok (none, input)

/-- Reads the sign and digits of a power of ten, if one comes. -/
def readExponent : Input → Except Refusal (Option (Bool × List Nat) × Input)
  | .char c :: rest =>
    if c = 'e' || c = 'E' then do
      let (negative, rest) := match rest with
        | .char '+' :: rest => (false, rest)
        | .char '-' :: rest => (true, rest)
        | rest => (false, rest)
      let (digits, rest) ← readDigits rest
      return (some (negative, digits), rest)
    else .ok (none, .char c :: rest)
  | input => .ok (none, input)

/-- A number as its digits. -/
structure Numeral where
  /-- Whether a minus sign stands before it. -/
  negative : Bool
  /-- The digits before the point. -/
  whole : List Nat
  /-- The digits after the point, if there is one. -/
  fraction : Option (List Nat)
  /-- Whether the power of ten is negative, and its digits, if there is one. -/
  exponent : Option (Bool × List Nat)
  deriving DecidableEq, Repr

/-- The number that digits write. -/
def ofDigits (digits : List Nat) : Nat := digits.foldl (fun n d => n * 10 + d) 0

/-- Digits appended to `significand` as long as it stays below 2^64; how many there were room
for, and how many were left over. -/
def appendDigits (significand : Nat) : List Nat → Nat × Nat × Nat
  | [] => (significand, 0, 0)
  | d :: ds =>
    if significand * 10 + d < 2 ^ 64 then
      let (n, taken, left) := appendDigits (significand * 10 + d) ds
      (n, taken + 1, left)
    else (significand, 0, ds.length + 1)

/-- A natural number rounded to 53 significant bits, a half going to the even neighbour. -/
def roundTo53 (n : Nat) : Nat :=
  let shift := n.log2 + 1 - 53
  let unit := 2 ^ shift
  let q := n / unit
  let r := n % unit
  if 2 * r > unit || (2 * r = unit && q % 2 = 1) then (q + 1) * unit else q * unit

/-- Whether a number is beyond the greatest double. It is taken as its leading digits, as many
as stay below 2^64, times a power of ten. -/
def Numeral.isTooLarge (n : Numeral) : Bool :=
  let (significand, _, dropped) := appendDigits 0 n.whole
  let (significand, placed, _) := appendDigits significand (n.fraction.getD [])
  let shift : Int := match n.exponent with
    | none => 0
    | some (true, digits) => -(ofDigits digits)
    | some (false, digits) => ofDigits digits
  let power : Int := dropped - placed + shift
  significand ≠ 0 && 0 ≤ power &&
    (308 < power || 2 ^ 1024 - 2 ^ 970 ≤ roundTo53 significand * roundTo53 (10 ^ power.toNat))

/-- The number if it is written as an integer and is a natural number below 2^64. -/
def Numeral.natural? (n : Numeral) : Option Nat :=
  if n.negative || n.fraction.isSome || n.exponent.isSome then none
  else if ofDigits n.whole < 2 ^ 64 then some (ofDigits n.whole) else none

/-- Reads a number after its sign. -/
def readUnsigned (negative : Bool) (input : Input) : Except Refusal (Numeral × Input) := do
  let (whole, input) ← readWhole input
  let (fraction, input) ← readFraction input
  let (exponent, input) ← readExponent input
  return (⟨negative, whole, fraction, exponent⟩, input)

/-- Reads a number that has to be a double. -/
def readNumeral (negative : Bool) (input : Input) : Except Refusal (Numeral × Input) := do
  let (numeral, rest) ← readUnsigned negative input
  if numeral.isTooLarge then .error .malformed else .ok (numeral, rest)

/-- Passes over a number of any size, which is malformed also where it ends too early. -/
def skipNumber (input : Input) : Except Refusal Input :=
  match readUnsigned false input with
  | .error _ => .error .malformed
  | .ok (_, rest) => .ok rest

/-! ### Values that are wanted -/

/-- Why the value at the start is refused when it is of no type that is wanted. A scalar is
read first, so what is wrong inside it is told before its type. -/
def misfit : Input → Refusal
  | [] => .truncated
  | .broken _ _ :: _ => .malformed
  | .char c :: rest =>
    let told : Except Refusal Unit :=
      match c with
      | 'n' => discard (expectChars ['u', 'l', 'l'] rest)
      | 't' => discard (expectChars ['r', 'u', 'e'] rest)
      | 'f' => discard (expectChars ['a', 'l', 's', 'e'] rest)
      | '-' => discard (readNumeral true rest)
      | '"' => discard (readText rest)
      | '[' | '\x7b' => .ok ()
      | _ => if c.isDigit then discard (readNumeral false (.char c :: rest)) else .error .malformed
    match told with
    | .error refusal => refusal
    | .ok () => .mistyped

/-- Reads a text. -/
def readString (input : Input) : Except Refusal (String × Input) :=
  match skipSpace input with
  | .char '"' :: rest => readText rest
  | input => .error (misfit input)

/-- Reads a text or the null value. -/
def readOptionalString (input : Input) : Except Refusal (Option String × Input) :=
  match skipSpace input with
  | .char 'n' :: rest => do return (none, ← expectChars ['u', 'l', 'l'] rest)
  | input => do
    let (s, rest) ← readString input
    return (some s, rest)

/-- Reads a truth value. -/
def readBool (input : Input) : Except Refusal (Bool × Input) :=
  match skipSpace input with
  | .char 't' :: rest => do return (true, ← expectChars ['r', 'u', 'e'] rest)
  | .char 'f' :: rest => do return (false, ← expectChars ['a', 'l', 's', 'e'] rest)
  | input => .error (misfit input)

/-- Reads a natural number below 2^64, written as an integer. -/
def readNatural (input : Input) : Except Refusal (Nat × Input) :=
  match skipSpace input with
  | .char c :: rest =>
    if c.isDigit then do
      let (numeral, rest) ← readNumeral false (.char c :: rest)
      match numeral.natural? with
      | some n => .ok (n, rest)
      | none => .error .mistyped
    else .error (misfit (.char c :: rest))
  | input => .error (misfit input)

/-! ### Arrays and objects -/

/-- What comes next in an array or object. -/
inductive Next where
  /-- The closing bracket, and the text after it. -/
  | closed (rest : Input)
  /-- An element, or the name of a member. -/
  | item (input : Input)

/-- Looks for the next element of an array. The first one has no comma before it. -/
def nextElement (first : Bool) (input : Input) : Except Refusal Next :=
  match skipSpace input with
  | [] => .error .truncated
  | p :: rest =>
    if p = .char ']' then .ok (.closed rest)
    else if first then .ok (.item (p :: rest))
    else if p = .char ',' then
      match skipSpace rest with
      | [] => .error .truncated
      | p :: rest => if p = .char ']' then .error .malformed else .ok (.item (p :: rest))
    else .error .malformed

/-- Looks for the next member of an object and gives the text after the quote that opens its
name. The first one has no comma before it. -/
def nextMember (first : Bool) (input : Input) : Except Refusal Next :=
  let named : Input → Except Refusal Next
    | [] => .error .truncated
    | p :: rest => if p = .char '"' then .ok (.item rest) else .error .malformed
  match skipSpace input with
  | [] => .error .truncated
  | p :: rest =>
    if p = .char '\x7d' then .ok (.closed rest)
    else if first then named (p :: rest)
    else if p = .char ',' then named (skipSpace rest)
    else .error .malformed

/-- Passes over the colon after a member's name. -/
def expectColon (input : Input) : Except Refusal Input :=
  match skipSpace input with
  | [] => .error .truncated
  | p :: rest => if p = .char ':' then .ok rest else .error .malformed

/-- Reads the elements of an array into `read`s, one after the other. There are no more
elements than `room`, the length of the text. -/
def readElements {α : Type} (read : Reader α) : (room : Nat) → (first : Bool) →
    Reader (List α)
  | 0, _, _ => .error .malformed
  | room + 1, first, input => do
    match ← nextElement first input with
    | .closed rest => return ([], rest)
    | .item input =>
      let (a, input) ← read input
      let (as, rest) ← readElements read room false input
      return (a :: as, rest)

/-- Reads an array whose elements are given in a fixed order, each by its own reader. Elements
at the end may be left out; more than there are readers are malformed. -/
def readPositions {σ : Type} : (readers : List (σ → Reader σ)) → (first : Bool) →
    σ → Reader σ
  | [], _, s, input =>
    match skipSpace input with
    | [] => .error .truncated
    | p :: rest => if p = .char ']' then .ok (s, rest) else .error .malformed
  | read :: readers, first, s, input => do
    match ← nextElement first input with
    | .closed rest => return (s, rest)
    | .item input =>
      let (s, input) ← read s input
      readPositions readers false s input

/-- Reads the members of an object. `read` is given a name and the text after it. There are no
more members than `room`, the length of the text. -/
def readMembers {σ : Type} (read : σ → String → Reader σ) : (room : Nat) → (first : Bool) →
    σ → Reader σ
  | 0, _, _, _ => .error .malformed
  | room + 1, first, s, input => do
    match ← nextMember first input with
    | .closed rest => return (s, rest)
    | .item input =>
      let (name, input) ← readText input
      let (s, input) ← read s name input
      readMembers read room false s input

/-! ### Values that are passed over -/

/-- What an open bracket holds. -/
inductive Bracket where
  /-- Elements. -/
  | array
  /-- Members. -/
  | object
  deriving DecidableEq

/-- The character that closes a bracket. -/
def Bracket.closing : Bracket → Char
  | .array => ']'
  | .object => '\x7d'

/-- The bracket that a piece opens. -/
def Bracket.opened? (p : Piece) : Option Bracket :=
  if p = .char '[' then some .array
  else if p = .char '\x7b' then some .object
  else none

/-- Passes over a value that is neither array nor object. -/
def skipScalar : Input → Except Refusal Input
  | [] => .error .truncated
  | .broken _ _ :: _ => .error .malformed
  | .char c :: rest =>
    match c with
    | 'n' => expectChars ['u', 'l', 'l'] rest
    | 't' => expectChars ['r', 'u', 'e'] rest
    | 'f' => expectChars ['a', 'l', 's', 'e'] rest
    | '-' => skipNumber rest
    | '"' => skipText rest
    | _ => if c.isDigit then skipNumber (.char c :: rest) else .error .malformed

/-- Passes over a member's name and its colon. -/
def skipName (input : Input) : Except Refusal Input :=
  match skipSpace input with
  | [] => .error .truncated
  | p :: rest =>
    if p = .char '"' then do expectColon (← skipText rest) else .error .malformed

/-- Passes over the rest of the open brackets, the innermost one first, which is `fresh` if
nothing in it has been read. Each round takes at least one piece, so `room`, the length of the
text, is enough. -/
def skipOpen : (room : Nat) → (opened : List Bracket) → (fresh : Bool) → Input →
    Except Refusal Input
  | _, [], _, input => .ok input
  | 0, _ :: _, _, _ => .error .truncated
  | room + 1, bracket :: opened, fresh, input =>
    match skipSpace input with
    | [] => .error .truncated
    | p :: rest =>
      if p = .char bracket.closing then skipOpen room opened false rest
      else do
        let input ← if fresh then .ok (p :: rest)
          else if p = .char ',' then .ok rest else .error .malformed
        let input ← if bracket = .object then skipName input else .ok input
        match skipSpace input with
        | [] => .error .truncated
        | p :: rest =>
          match Bracket.opened? p with
          | some inner => skipOpen room (inner :: bracket :: opened) true rest
          | none => skipOpen room (bracket :: opened) false (← skipScalar (p :: rest))

/-- Passes over a value of any type and depth. -/
def skipValue (input : Input) : Except Refusal Input :=
  match skipSpace input with
  | [] => .error .truncated
  | p :: rest =>
    match Bracket.opened? p with
    | some bracket => skipOpen rest.length [bracket] true rest
    | none => skipScalar (p :: rest)

end ParserConformance.Json
