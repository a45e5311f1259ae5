import ParserConformance.Instances
import ParserConformance.Script.Command

/-!
# Arithmetic expressions

Expressions over whole numbers of 64 bits with the operators of a shell. An expression is read
from characters and then valued; valuing may change variables.
-/

namespace ParserConformance.Script

/-- An arithmetic expression. -/
inductive Expr where
  /-- A number. -/
  | number (n : Int)
  /-- A variable. -/
  | variable (name : List Char)
  /-- An operator before an expression. -/
  | unary (op : String) (e : Expr)
  /-- An operator between expressions. -/
  | binary (op : String) (a b : Expr)
  /-- One of two expressions by a third one. -/
  | choice (c a b : Expr)
  /-- A variable gets a value, by an operator on the value that it has or without one. -/
  | assign (name : List Char) (op : String) (e : Expr)
  deriving Repr

/-- What is wrong with an expression. -/
inductive ExprFault where
  /-- Something is missing or stands where it must not. -/
  | expecting (what : String)
  /-- A division by zero. -/
  | divisionByZero
  /-- A variable's value that is no number. -/
  | illegalNumber (text : List Char)
  deriving DecidableEq, Repr

/-! ### Numbers -/

/-- A number as 64 bits hold it. -/
def wrap (n : Int) : Int := Int.bmod n (2 ^ 64)

/-- The greatest number. -/
def maxNumber : Int := 2 ^ 63 - 1

/-- Whether a character is white space to numbers. -/
def isSpaceChar (c : Char) : Bool := c = ' ' || ('\t' ≤ c && c ≤ '\r')

/-- A digit's value. -/
def digitValue? (c : Char) : Option Nat :=
  if isDigit c then some (c.toNat - '0'.toNat)
  else if 'a' ≤ c && c ≤ 'f' then some (c.toNat - 'a'.toNat + 10)
  else if 'A' ≤ c && c ≤ 'F' then some (c.toNat - 'A'.toNat + 10)
  else none

/-- Whether a character is a digit in a base. -/
def isDigitOf (base : Nat) (c : Char) : Bool := (digitValue? c).any (· < base)

/-- The value of digits in a base. -/
def valueIn (base : Nat) (digits : List Char) : Nat :=
  digits.foldl (fun n c => n * base + (digitValue? c).getD 0) 0

/-- A number without a sign at the start of characters, in the base that its first digits tell,
and what comes after it. -/
def readNatural? (cs : List Char) : Option (Nat × List Char) :=
  let inBase (base : Nat) (cs : List Char) : Option (Nat × List Char) :=
    match cs.takeWhile (isDigitOf base) with
    | [] => none
    | digits => some (valueIn base digits, cs.drop digits.length)
  match cs with
  | '0' :: x :: rest =>
    if x = 'x' || x = 'X' then (inBase 16 rest).or (some (0, x :: rest))
    else inBase 8 cs
  | _ => inBase 10 cs

/-- A number at the start of characters, blanks before it passed over, and what comes after it,
however great the number is. -/
def readAnyInteger? (cs : List Char) : Option (Int × List Char) :=
  match cs.dropWhile isSpaceChar with
  | '-' :: rest => (readNatural? rest).map fun (n, rest) => (-(n : Int), rest)
  | '+' :: rest => (readNatural? rest).map fun (n, rest) => ((n : Int), rest)
  | rest => (readNatural? rest).map fun (n, rest) => ((n : Int), rest)

/-- The number nearest to another one that a shell can calculate with. -/
def bounded (n : Int) : Int := max (-maxNumber - 1) (min maxNumber n)

/-- A number at the start of characters, as far as it can be calculated with. -/
def readInteger? (cs : List Char) : Option (Int × List Char) :=
  (readAnyInteger? cs).map fun (n, rest) => (bounded n, rest)

/-- The number that the whole of a variable's value writes; an empty value counts as zero. -/
def wholeNumber? (cs : List Char) : Option Int :=
  if cs.all isSpaceChar then some 0
  else
    match readInteger? cs with
    | some (n, rest) => if rest.all isSpaceChar then some n else none
    | none => none

/-- The number that the whole of an argument writes in decimal digits. -/
def decimal? (cs : List Char) : Option Int :=
  let cs := cs.dropWhile isSpaceChar
  let (isNegative, cs) := match cs with
    | '-' :: rest => (true, rest)
    | '+' :: rest => (false, rest)
    | cs => (false, cs)
  let digits := cs.takeWhile isDigit
  let n : Int := if isNegative then -(valueOf digits : Int) else valueOf digits
  if digits.isEmpty || !(cs.drop digits.length).all isSpaceChar then none
  else if n < -maxNumber - 1 || maxNumber < n then none
  else some n

/-! ### Reading -/

/-- A step of reading an expression. -/
abbrev ExprReading := StateT (List Char) (Except ExprFault)

namespace Expr

/-- The operators that may stand between expressions, the longer ones first. -/
def operators : List String :=
  ["<<=", ">>=", "<<", ">>", "<=", ">=", "==", "!=", "&&", "||", "+=", "-=", "*=", "/=", "%=",
    "&=", "|=", "^=", "<", ">", "=", "+", "-", "*", "/", "%", "&", "|", "^", "?", ":", "(", ")",
    "!", "~"]

/-- The operators as characters. -/
def spelledOperators : List (List Char × String) := operators.map fun op => (op.toList, op)

/-- The characters with which operators begin. -/
def operatorStarts : List Char := "<>=!&|+-*/%^?:()~".toList

/-- The next operator, which stays unread. -/
def peekOperator : ExprReading (Option String) := do
  let cs := (← get).dropWhile fun c => c = ' ' || c = '\t' || c = '\n'
  set cs
  if cs.head?.any operatorStarts.contains then
    return (spelledOperators.find? fun op => op.1.isPrefixOf cs).map (·.2)
  else return none

/-- Passes over an operator. -/
def skipOperator (op : String) : ExprReading Unit := modify (·.drop op.length)

/-- How tightly an operator between expressions binds. -/
def strength? (op : String) : Option Nat :=
  match op with
  | "||" => some 1
  | "&&" => some 2
  | "|" => some 3
  | "^" => some 4
  | "&" => some 5
  | "==" | "!=" => some 6
  | "<" | ">" | "<=" | ">=" => some 7
  | "<<" | ">>" => some 8
  | "+" | "-" => some 9
  | "*" | "/" | "%" => some 10
  | _ => none

/-- The operator by which an assignment changes a value, if an operator is an assignment. -/
def assignment? (op : String) : Option String :=
  match op with
  | "=" => some ""
  | "+=" => some "+"
  | "-=" => some "-"
  | "*=" => some "*"
  | "/=" => some "/"
  | "%=" => some "%"
  | "<<=" => some "<<"
  | ">>=" => some ">>"
  | "&=" => some "&"
  | "|=" => some "|"
  | "^=" => some "^"
  | _ => none

mutual

/-- Reads an expression with whatever binds it. -/
def readWhole : (room : Nat) → ExprReading Expr
  | 0 => throw (.expecting "primary")
  | room + 1 => do
    let c ← readBinary room 1
    if (← peekOperator) = some "?" then
      skipOperator "?"
      let a ← readWhole room
      if (← peekOperator) = some ":" then
        skipOperator ":"
        return .choice c a (← readWhole room)
      else throw (.expecting "':'")
    else return c

/-- Reads expressions between which operators of a strength or more stand. -/
def readBinary : (room : Nat) → (strength : Nat) → ExprReading Expr
  | 0, _ => throw (.expecting "primary")
  | room + 1, strength => do
    let a ← readPrimary room
    readMore room strength a

/-- Reads what is joined to an expression by operators of a strength or more. -/
def readMore : (room : Nat) → (strength : Nat) → Expr → ExprReading Expr
  | 0, _, e => return e
  | room + 1, strength, a => do
    match ← peekOperator with
    | some op =>
      match strength? op with
      | some s =>
        if s < strength then return a
        else
          skipOperator op
          let b ← readBinary room (s + 1)
          readMore room strength (.binary op a b)
      | none => return a
    | none => return a

/-- Reads an expression without operators between its parts. -/
def readPrimary : (room : Nat) → ExprReading Expr
  | 0 => throw (.expecting "primary")
  | room + 1 => do
    match ← peekOperator with
    | some "(" =>
      skipOperator "("
      let e ← readWhole room
      if (← peekOperator) = some ")" then
        skipOperator ")"
        return e
      else throw (.expecting "')'")
    | some op =>
      if op = "-" || op = "+" || op = "!" || op = "~" then
        skipOperator op
        return .unary op (← readPrimary room)
      else if op = "!=" then
        skipOperator "!"
        return .unary "!" (← readPrimary room)
      else throw (.expecting "primary")
    | none =>
      let cs ← get
      match cs with
      | c :: _ =>
        if isNameStart c then
          let name := cs.takeWhile isNameChar
          set (cs.drop name.length)
          match (← peekOperator).bind fun op => (assignment? op).map (op, ·) with
          | some (op, change) =>
            skipOperator op
            return .assign name change (← readWhole room)
          | none => return .variable name
        else
          match readNatural? cs with
          | some (n, rest) =>
            set rest
            return .number (min n maxNumber)
          | none => throw (.expecting "primary")
      | [] => throw (.expecting "primary")

end

/-- Reads an expression that characters write. -/
def ofChars (cs : List Char) : Except ExprFault Expr := do
  let (e, rest) ← (readWhole (8 * cs.length + 16)).run cs
  if rest.all fun c => c = ' ' || c = '\t' || c = '\n' then return e
  else throw (.expecting "EOF")

/-! ### Valuing -/

/-- A truth value as a number. -/
def ofBool (b : Bool) : Int := if b then 1 else 0

/-- What an operator makes of two numbers. -/
def apply (op : String) (a b : Int) : Except ExprFault Int :=
  let bits (f : Nat → Nat → Nat) : Int :=
    wrap (f (a % 2 ^ 64).toNat (b % 2 ^ 64).toNat)
  match op with
  | "+" => .ok (wrap (a + b))
  | "-" => .ok (wrap (a - b))
  | "*" => .ok (wrap (a * b))
  | "/" => if b = 0 then .error .divisionByZero else .ok (wrap (a.tdiv b))
  | "%" => if b = 0 then .error .divisionByZero else .ok (wrap (a.tmod b))
  | "<<" => .ok (wrap (a * 2 ^ (b % 64).toNat))
  | ">>" => .ok (a.fdiv (2 ^ (b % 64).toNat))
  | "<" => .ok (ofBool (a < b))
  | ">" => .ok (ofBool (b < a))
  | "<=" => .ok (ofBool (a ≤ b))
  | ">=" => .ok (ofBool (b ≤ a))
  | "==" => .ok (ofBool (a = b))
  | "!=" => .ok (ofBool (a ≠ b))
  | "&" => .ok (bits Nat.land)
  | "|" => .ok (bits Nat.lor)
  | "^" => .ok (bits Nat.xor)
  | "" => .ok b
  | _ => .error (.expecting "primary")

/-- What variables hold, and what an expression has made of them. -/
structure Scope where
  /-- The value of a variable. -/
  lookup : List Char → Option (List Char)
  /-- The variables that got a value, the last one first. -/
  changed : List (List Char × Int)

/-- The value of a variable as a number, zero if it has none. -/
def valueOfVariable (s : Scope) (name : List Char) : Except ExprFault Int :=
  match s.changed.lookup name with
  | some n => .ok n
  | none =>
    match s.lookup name with
    | some text =>
      match wholeNumber? text with
      | some n => .ok n
      | none => .error (.illegalNumber text)
    | none => .ok 0

/-- Values an expression. What an operator leaves out is not valued. -/
def value : Expr → StateT Scope (Except ExprFault) Int
  | .number n => return n
  | .variable name => do valueOfVariable (← get) name
  | .unary op e => do
    let n ← value e
    match op with
    | "-" => return wrap (-n)
    | "!" => return ofBool (n = 0)
    | "~" => return -n - 1
    | _ => return n
  | .binary op a b => do
    let m ← value a
    if op = "&&" then
      if m = 0 then return 0 else return ofBool ((← value b) ≠ 0)
    else if op = "||" then
      if m ≠ 0 then return 1 else return ofBool ((← value b) ≠ 0)
    else apply op m (← value b)
  | .choice c a b => do
    if (← value c) ≠ 0 then value a else value b
  | .assign name op e => do
    let n ← value e
    let old ← if op = "" then pure 0 else do valueOfVariable (← get) name
    let n ← apply op old n
    modify fun s => { s with changed := (name, n) :: s.changed }
    return n

end Expr

/-- The wording of a fault in the expression that characters write. -/
def ExprFault.message (source : List Char) : ExprFault → List Char
  | .expecting what => about ("expecting " ++ what)
  | .divisionByZero => about "division by zero"
  | .illegalNumber text => "Illegal number: ".toList ++ text
where
  /-- A wording that shows the expression. -/
  about (what : String) : List Char :=
    ("arithmetic expression: " ++ what ++ ": \"").toList ++ source ++ ['"']

end ParserConformance.Script
