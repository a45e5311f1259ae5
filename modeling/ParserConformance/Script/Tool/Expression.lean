import ParserConformance.Script.Condition
import ParserConformance.Script.Tool.Call
import ParserConformance.Script.Tool.Regex.Matching
import ParserConformance.Script.Tool.Regex.Reader

/-!
# Expressions word by word

`expr` values an expression whose words are its arguments: calculations, comparisons and what
can be done with texts.
-/

namespace ParserConformance.Script.Tool

/-- What is wrong with an expression. -/
inductive WordFault where
  /-- It ends too early. -/
  | missing
  /-- A word stands where no rule allows it. -/
  | unexpected (word : List Char)
  /-- A word is no number where one is wanted. -/
  | nonInteger
  /-- A number is divided by zero. -/
  | divisionByZero
  /-- A pattern is faulty. -/
  | badPattern (fault : Regex.Fault)
  deriving DecidableEq, Repr

/-- The wording of a fault, given the last word of the expression. -/
def WordFault.message (last : List Char) : WordFault → List Char
  | .missing => "syntax error: missing argument after '".toList ++ last ++ ['\'']
  | .unexpected word =>
    if word = [')'] then "syntax error: unexpected ')'".toList
    else "syntax error: unexpected argument '".toList ++ word ++ ['\'']
  | .nonInteger => "non-integer argument".toList
  | .divisionByZero => "division by zero".toList
  | .badPattern fault => fault.message.toList

/-- Reading an expression: the words that are left. -/
abbrev WordReading := StateT (List (List Char)) (Except WordFault)

namespace WordReading

/-- The fault of an expression that no rule allows. -/
def misuse {α : Type} : WordReading α := do
  match ← get with
  | [] => throw .missing
  | word :: _ => throw (.unexpected word)

/-- Takes the next word if it is one of some. -/
def takes (words : List String) : WordReading (Option (List Char)) := do
  match ← get with
  | word :: rest =>
    if words.any (·.toList = word) then
      set rest
      return some word
    else return none
  | [] => return none

/-- Whether a value counts as nothing. -/
def isNothing (v : List Char) : Bool :=
  v.isEmpty || ((if v.head? = some '-' then v.drop 1 else v).all (· = '0') && v ≠ ['-'])

/-- The value of a truth. -/
def ofBool (b : Bool) : List Char := if b then ['1'] else ['0']

/-- A value as a whole number. -/
def integer (v : List Char) : WordReading Int :=
  let digits := if v.head? = some '-' then v.drop 1 else v
  if digits.isEmpty || !digits.all isDigit then throw .nonInteger
  else return (if v.head? = some '-' then -(valueOf digits : Int) else valueOf digits)

/-- What a pattern makes of a value: what its group has matched, or how many characters. -/
def matched (value pattern : List Char) : WordReading (List Char) := do
  match Regex.read .basic pattern with
  | .error fault => throw (.badPattern fault)
  | .ok r =>
    let hasGroup := 0 < r.groupCount
    match Regex.matchAt .longest r (.ofText value) with
    | none => return if hasGroup then [] else ['0']
    | some m => return if hasGroup then (m.groups.lookup 1).getD [] else digitsOf m.length

/-- Compares two values, as numbers if both are. -/
def compared (op a b : List Char) : List Char :=
  let order := match decimal? a, decimal? b with
    | some m, some n => compare m n
    | _, _ => compare (String.ofList a) (String.ofList b)
  ofBool (match String.ofList op with
    | "<" => order.isLT
    | "<=" => order.isLE
    | "=" | "==" => order.isEq
    | "!=" => !order.isEq
    | ">=" => order.isGE
    | _ => order.isGT)

/-- Calculates with two values. -/
def calculated (op a b : List Char) : WordReading (List Char) := do
  let m ← integer a
  let n ← integer b
  match String.ofList op with
  | "+" => return digitsOfInt (m + n)
  | "-" => return digitsOfInt (m - n)
  | "*" => return digitsOfInt (m * n)
  | op =>
    if n = 0 then throw .divisionByZero
    else return digitsOfInt (if op = "/" then m.tdiv n else m.tmod n)

/-- The operators by how tightly they bind, the loosest first. -/
def levels : List (List String) :=
  [["|"], ["&"], ["<", "<=", "=", "==", "!=", ">=", ">"], ["+", "-"], ["*", "/", "%"], [":"]]

mutual

/-- An expression whose operators bind at least as tightly as a level. -/
def level : (room : Nat) → (n : Nat) → WordReading (List Char)
  | 0, _ => misuse
  | room + 1, n =>
    match levels[n]? with
    | none => primary room
    | some ops => do
      let a ← level room (n + 1)
      more room n ops a

/-- What follows on a first operand. -/
def more : (room : Nat) → (n : Nat) → (ops : List String) → List Char → WordReading (List Char)
  | 0, _, _, _ => misuse
  | room + 1, n, ops, a => do
    match ← takes ops with
    | none => return a
    | some op =>
      let b ← level room (n + 1)
      let value ← match String.ofList op with
        | "|" => pure (if isNothing a then (if isNothing b then ['0'] else b) else a)
        | "&" => pure (if isNothing a || isNothing b then ['0'] else a)
        | ":" => matched a b
        | "+" | "-" | "*" | "/" | "%" => calculated op a b
        | _ => pure (compared op a b)
      more room n ops value

/-- An expression without operators. -/
def primary : (room : Nat) → WordReading (List Char)
  | 0 => misuse
  | room + 1 => do
    match ← get with
    | [] => misuse
    | word :: rest =>
      set rest
      match String.ofList word with
      | "(" =>
        let value ← level room 0
        match ← takes [")"] with
        | some _ => return value
        | none => misuse
      | ")" => throw (.unexpected word)
      | "length" => return digitsOf (← level room 6).length
      | "match" =>
        let value ← level room 6
        matched value (← level room 6)
      | "index" =>
        let value ← level room 6
        let chars ← level room 6
        return digitsOf ((value.findIdx? chars.contains).elim 0 (· + 1))
      | "substr" =>
        let value ← level room 6
        let start ← integer (← level room 6)
        let length ← integer (← level room 6)
        if start ≤ 0 || length ≤ 0 then return []
        else return (value.drop (start.toNat - 1)).take length.toNat
      | _ => return word

end

end WordReading

/-- Values the expression that its arguments make. -/
def expr : Tool := fun c =>
  let valued := do
    let (v, rest) ← (WordReading.level (16 * c.args.length + 16) 0).run c.args
    match rest with
    | [] => return v
    | word :: _ => throw (WordFault.unexpected word)
  if c.args.isEmpty then
    .ofMisuse c 2 "missing operand".toList
  else
    match valued with
    | .ok v => { Effect.ofOutput c (v ++ ['\n']) with
        status := if WordReading.isNothing v then 1 else 0 }
    | .error fault => .ofComplaint c 2 (fault.message (c.args.getLast?.getD []))

end ParserConformance.Script.Tool
