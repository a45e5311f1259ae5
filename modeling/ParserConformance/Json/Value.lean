import ParserConformance.Text.Quoted

/-!
# JSON values and their texts

Values as reports need them: numbers are natural, members of an object keep their order. A
value is written without any blanks, or with each item and member on a line of its own, two
blanks further in than what holds it. Writing takes what follows as its last argument.
-/

namespace ParserConformance.Json

/-- A JSON value. -/
inductive Value where
  /-- The value that says nothing. -/
  | null
  /-- A truth value. -/
  | bool (b : Bool)
  /-- A natural number. -/
  | number (n : Nat)
  /-- A text. -/
  | text (s : String)
  /-- Values in order. -/
  | array (items : List Value)
  /-- Named values in order. -/
  | object (members : List (String × Value))
  deriving Repr

namespace Value

/-- A value that may be absent. -/
def ofOption {α : Type} (toValue : α → Value) : Option α → Value
  | none => .null
  | some a => toValue a

end Value

/-- A character as it stands inside a JSON text. Only the quote, the backslash and controls
below U+0020 are escaped. -/
def escape (c : Char) : List Char :=
  if c = '"' then ['\\', '"']
  else if c = '\\' then ['\\', '\\']
  else if c = '\x08' then ['\\', 'b']
  else if c = '\x0c' then ['\\', 'f']
  else if c = '\n' then ['\\', 'n']
  else if c = '\r' then ['\\', 'r']
  else if c = '\t' then ['\\', 't']
  else if c.toNat < 0x10 then ['\\', 'u', '0', '0', '0'] ++ Text.hexDigits c.toNat
  else if c.toNat < 0x20 then ['\\', 'u', '0', '0'] ++ Text.hexDigits c.toNat
  else [c]

/-- The characters of a text, escaped, before `rest`. -/
def writeEscaped : List Char → List Char → List Char
  | [], rest => rest
  | c :: cs, rest => escape c ++ writeEscaped cs rest

/-- A text between quotes before `rest`. -/
def writeText (s : String) (rest : List Char) : List Char :=
  '"' :: writeEscaped s.toList ('"' :: rest)

/-- What stands before an item: nothing in a text without blanks, else a new line and two
blanks for each of `level` levels. -/
def lineBreak : (level : Option Nat) → List Char
  | none => []
  | some level => '\n' :: List.replicate (2 * level) ' '

/-- The colon after a member's name. -/
def colon (level : Option Nat) : List Char := if level.isSome then [':', ' '] else [':']

/-- The level inside an array or object. -/
def deeper (level : Option Nat) : Option Nat := level.map (· + 1)

namespace Value

mutual

/-- A value before `rest`, at the given level of nesting. -/
def write (level : Option Nat) : Value → List Char → List Char
  | .null, rest => "null".toList ++ rest
  | .bool b, rest => (if b then "true".toList else "false".toList) ++ rest
  | .number n, rest => Nat.toDigits 10 n ++ rest
  | .text s, rest => writeText s rest
  | .array [], rest => '[' :: ']' :: rest
  | .array (v :: vs), rest =>
    '[' :: lineBreak (deeper level) ++
      v.write (deeper level) (writeItems (deeper level) vs (lineBreak level ++ ']' :: rest))
  | .object [], rest => '\x7b' :: '\x7d' :: rest
  | .object ((name, v) :: ms), rest =>
    '\x7b' :: lineBreak (deeper level) ++ writeText name (colon level ++
      v.write (deeper level) (writeMembers (deeper level) ms (lineBreak level ++ '\x7d' :: rest)))

/-- Further items of an array before `rest`. -/
def writeItems (level : Option Nat) : List Value → List Char → List Char
  | [], rest => rest
  | v :: vs, rest => ',' :: lineBreak level ++ v.write level (writeItems level vs rest)

/-- Further members of an object before `rest`. -/
def writeMembers (level : Option Nat) : List (String × Value) → List Char → List Char
  | [], rest => rest
  | (name, v) :: ms, rest =>
    ',' :: lineBreak level ++
      writeText name (colon level ++ v.write level (writeMembers level ms rest))

end

/-- A value without any blanks. -/
def compact (v : Value) : String := String.ofList (v.write none [])

/-- A value over several lines. -/
def pretty (v : Value) : String := String.ofList (v.write (some 0) [])

end Value

end ParserConformance.Json
