import ParserConformance.Script.Awk.Lexer

/-!
# Reading text programs

A program is read by descent: rules, statements and expressions, which are read by how tightly
their operators bind. What a variable is, a value or a table, is known from how it is used, also
by the functions that it is given to.
-/

namespace ParserConformance.Script.Awk

open Tool (Regex)

/-! ### What has been read -/

/-- A function of the program, as far as it is known. -/
structure Known where
  /-- Its name. -/
  name : List Char
  /-- What it is, if it has been read. -/
  procedure : Option Procedure
  /-- How many arguments it has, if that is known. -/
  arity : Option Nat

/-- A variable and, if it is one of a function, the number of that one. -/
abbrev Owner := Variable × Nat

/-- A variable as one of a function if it is one. -/
def Owner.of (function : Nat) : Variable → Owner
  | .global n => (.global n, 0)
  | .own n => (.own n, function)

/-- How far reading has come. -/
structure Reading where
  /-- What is left. -/
  rest : List Char
  /-- How long all of it is. -/
  size : Nat
  /-- The number of the line. -/
  line : Nat := 1
  /-- How many parentheses are open. -/
  parens : Nat := 0
  /-- How many braces are open. -/
  braces : Nat := 0
  /-- What is wrong, the last fault first. -/
  faults : List (List Char) := []
  /-- How many loops are open. -/
  loops : Nat := 0
  /-- The function at hand. -/
  function : Option Nat := none
  /-- Whether the rule at hand is for records. -/
  hasRecord : Bool := false
  /-- The variables of the function at hand. -/
  own : List (List Char) := []
  /-- The variables of the program. -/
  globals : Array (List Char) := (specialNames.map (·.toList)).toArray
  /-- The functions of the program. -/
  functions : Array Known := #[]
  /-- The variables of which it is known whether they are tables. -/
  kinds : List (Owner × Bool) := (specialNames.zipIdx).map fun (name, n) =>
    ((.global n, 0), name = "ARGV" || name = "ENVIRON")
  /-- The variables that are given to functions, with their places there. -/
  given : List (Owner × Nat × Nat) := []
  /-- How many ranges there are. -/
  ranges : Nat := 0

/-- An action of reading. It fails at a fault, which is noted; the error tells whether it is of no
use to go on. -/
abbrev Read := ExceptT Bool (StateM Reading)

/-! ### Tokens -/

/-- The next token and how far reading has come behind it. -/
def scan (r : Reading) : Except (List Char) (Token × Reading) := do
  let (lines, text) := dropSpace r.size 0 r.rest
  let r := { r with line := r.line + lines }
  let (t, rest) ← cut text
  let r := { r with rest }
  match t with
  | .newline => return (t, { r with line := r.line + 1 })
  | .sign "(" => return (t, { r with parens := r.parens + 1 })
  | .sign ")" =>
    if r.parens = 0 then return (.extra, r) else return (t, { r with parens := r.parens - 1 })
  | .sign "\x7b" => return (t, { r with braces := r.braces + 1 })
  | .sign "\x7d" => return (t, { r with braces := r.braces - 1 })
  | _ => return (t, r)

namespace Read

/-- Notes a fault of a line. -/
def note (line : Nat) (text : List Char) : Read Unit :=
  modify fun r =>
    { r with faults := ("line ".toList ++ digitsOf line ++ ": ".toList ++ text) :: r.faults }

/-- Notes a fault and goes no further. -/
def fail {α : Type} (line : Nat) (text : List Char) (isFinal : Bool) : Read α := do
  note line text
  throw isFinal

/-- The next token. What is none is noted and passed over. -/
def peekWithin : (room : Nat) → Read Token
  | 0 => return .stop
  | room + 1 => do
    let r ← get
    match scan r with
    | .ok (.strange c, after) =>
      set { after with
        faults :=
          (digitsOf after.line ++ ": unexpected character '".toList ++ [c, '\'']) :: r.faults }
      peekWithin room
    | .ok (.extra, after) =>
      set after
      note after.line "extra ')'".toList
      peekWithin room
    | .ok (t, _) => return t
    | .error text => fail r.line text true

/-- The next token. -/
def peek : Read Token := do peekWithin (← get).size

/-- Passes over the next token. -/
def skip : Read Unit := do
  let _ ← peek
  let r ← get
  match scan r with
  | .ok (_, r) => set r
  | .error text => fail r.line text true

/-- Fails at the next token. -/
def refuse {α : Type} : Read α := do
  let t ← peek
  let r ← get
  let isEnd := match t with
    | .stop | .newline | .sign ";" | .sign "\x7d" => true
    | _ => false
  let line := r.line + (dropSpace r.size 0 r.rest).1
  let text := if isEnd && 0 < r.parens then "missing ) near " else "syntax error at or near "
  fail line (text.toList ++ t.written) false

/-- Whether the next token is an operator. -/
def sees (s : String) : Read Bool := do
  match ← peek with
  | .sign t => return t = s
  | _ => return false

/-- Whether the next token is a reserved word. -/
def seesWord (s : String) : Read Bool := do
  match ← peek with
  | .word t => return t = s
  | _ => return false

/-- Passes over an operator, if it is the next token. -/
def passes (s : String) : Read Bool := do
  if ← sees s then
    skip
    return true
  else return false

/-- Passes over an operator, which has to be the next token. -/
def expect (s : String) : Read Unit := do
  if !(← passes s) then refuse

/-- Passes over ends of lines. -/
def skipLines : (room : Nat) → Read Unit
  | 0 => return ()
  | room + 1 => do
    match ← peek with
    | .newline =>
      skip
      skipLines room
    | _ => return ()

/-- Passes over all ends of lines that come next. -/
def lines : Read Unit := do skipLines (← get).size

/-- Passes over what ends a statement. A closing brace ends one too and is left. -/
def endStatement : Read Unit := do
  match ← peek with
  | .newline | .sign ";" =>
    skip
    lines
  | .sign "\x7d" | .stop => return ()
  | _ => refuse

/-! ### Names -/

/-- The number of the function at hand. -/
def functionNumber : Read Nat := do return (← get).function.getD 0

/-- Notes that a variable is a table, or that it is none. -/
def mark (v : Variable) (isTable : Bool) (name : List Char) : Read Unit := do
  let owner := Owner.of (← functionNumber) v
  match (← get).kinds.lookup owner with
  | some k =>
    if k ≠ isTable then
      let kind := if isTable then
          match v with
          | .own _ => "local variable "
          | .global _ => "variable "
        else "array "
      note (← get).line ("illegal reference to ".toList ++ kind.toList ++ name)
  | none => modify fun r => { r with kinds := (owner, isTable) :: r.kinds }

/-- The variable of a name, if there is one already. -/
def found? (name : List Char) : Read (Option Variable) := do
  let r ← get
  match r.own.idxOf? name with
  | some n => return some (.own n)
  | none => return (r.globals.idxOf? name).map .global

/-- The variable of a name. -/
def variableOf (name : List Char) : Read Variable := do
  match ← found? name with
  | some v => return v
  | none =>
    let n := (← get).globals.size
    modify fun r => { r with globals := r.globals.push name }
    return .global n

/-- The number of the function of a name, if there is one. -/
def function? (name : List Char) : Read (Option Nat) := do
  return (← get).functions.findIdx? (·.name = name)

/-- The number of the function of a name. -/
def functionOf (name : List Char) : Read Nat := do
  match ← function? name with
  | some n => return n
  | none =>
    let n := (← get).functions.size
    modify fun r => { r with functions := r.functions.push ⟨name, none, none⟩ }
    return n

/-- The regular expression that a text writes. -/
def regexOf (cs : List Char) : Read Regex := do
  match readRegex cs with
  | .ok r => return r
  | .error text => do
    note (← get).line text
    return Regex.ofChars false []

/-! ### Expressions -/

/-- The relation of an operator. A greater sign behind what is written does not compare. -/
def relationOf? (isPrinted : Bool) : Token → Option Relation
  | .sign "<" => some .less
  | .sign "<=" => some .atMost
  | .sign "==" => some .equal
  | .sign "!=" => some .unequal
  | .sign ">" => if isPrinted then none else some .greater
  | .sign ">=" => some .atLeast
  | _ => none

/-- What an assigning operator does with the old value; nothing if it is none. -/
def assignmentOf? : Token → Option (Option Operation)
  | .sign "=" => some none
  | .sign "+=" => some (some .add)
  | .sign "-=" => some (some .subtract)
  | .sign "*=" => some (some .multiply)
  | .sign "/=" => some (some .divide)
  | .sign "%=" => some (some .remain)
  | .sign "^=" => some (some .raise)
  | _ => none

/-- Whether a token may begin a part of a text that is joined to another one. -/
def beginsPart : Token → Bool
  | .number _ _ | .text _ | .name _ _ | .function _ => true
  | .sign s => ["(", "$", "!", "++", "--"].contains s
  | .word s => s = "getline"
  | _ => false

/-- What gives a regular expression: an expression that is one, or a text. -/
def matcherOf : Expr → Read Matcher
  | .regex r => return .fixed r
  | .text cs => return .fixed (← regexOf cs)
  | e => return .computed e

/-- What parts a text: a blank alone stands for all blanks. -/
def separatorOf : Expr → Read Matcher
  | .regex r => return .fixed r
  | e => return .computed e

mutual

/-- Reads an expression, which may be one that is written. -/
def expr : (room : Nat) → (isPrinted : Bool) → Read Expr
  | 0, _ => refuse
  | room + 1, isPrinted => do
    let c ← disjunction room isPrinted
    if ← passes "?" then
      let a ← expr room isPrinted
      expect ":"
      let b ← expr room isPrinted
      return .choice c a b
    else return c

/-- Reads an expression of parts of which one has to hold. -/
def disjunction : (room : Nat) → (isPrinted : Bool) → Read Expr
  | 0, _ => refuse
  | room + 1, isPrinted => do
    let a ← conjunction room isPrinted
    moreDisjunction room isPrinted a

/-- Goes on with such an expression. -/
def moreDisjunction : (room : Nat) → (isPrinted : Bool) → Expr → Read Expr
  | 0, _, _ => refuse
  | room + 1, isPrinted, a => do
    if ← passes "||" then
      lines
      let b ← conjunction room isPrinted
      moreDisjunction room isPrinted (.either a b)
    else return a

/-- Reads an expression of parts all of which have to hold. -/
def conjunction : (room : Nat) → (isPrinted : Bool) → Read Expr
  | 0, _ => refuse
  | room + 1, isPrinted => do
    let a ← membership room isPrinted
    moreConjunction room isPrinted a

/-- Goes on with such an expression. -/
def moreConjunction : (room : Nat) → (isPrinted : Bool) → Expr → Read Expr
  | 0, _, _ => refuse
  | room + 1, isPrinted, a => do
    if ← passes "&&" then
      lines
      let b ← membership room isPrinted
      moreConjunction room isPrinted (.both a b)
    else return a

/-- Reads an expression that may ask whether a table has a key. -/
def membership : (room : Nat) → (isPrinted : Bool) → Read Expr
  | 0, _ => refuse
  | room + 1, isPrinted => do
    let a ← fitting room isPrinted
    moreMembership room isPrinted a

/-- Goes on with such an expression. -/
def moreMembership : (room : Nat) → (isPrinted : Bool) → Expr → Read Expr
  | 0, _, _ => refuse
  | room + 1, isPrinted, a => do
    if ← seesWord "in" then
      skip
      let v ← table
      moreMembership room isPrinted (.member v [a])
    else return a

/-- Reads an expression that may look for regular expressions. -/
def fitting : (room : Nat) → (isPrinted : Bool) → Read Expr
  | 0, _ => refuse
  | room + 1, isPrinted => do
    let a ← comparison room isPrinted
    moreFitting room isPrinted a

/-- Goes on with such an expression. -/
def moreFitting : (room : Nat) → (isPrinted : Bool) → Expr → Read Expr
  | 0, _, _ => refuse
  | room + 1, isPrinted, a => do
    let isNegated ← sees "!~"
    if isNegated || (← sees "~") then
      skip
      let b ← comparison room isPrinted
      moreFitting room isPrinted (.fits isNegated a (← matcherOf b))
    else return a

/-- Reads an expression that may compare. -/
def comparison : (room : Nat) → (isPrinted : Bool) → Read Expr
  | 0, _ => refuse
  | room + 1, isPrinted => do
    let a ← assignment room isPrinted
    moreComparison room isPrinted a

/-- Goes on with such an expression. -/
def moreComparison : (room : Nat) → (isPrinted : Bool) → Expr → Read Expr
  | 0, _, _ => refuse
  | room + 1, isPrinted, a => do
    match relationOf? isPrinted (← peek) with
    | some r =>
      skip
      let b ← assignment room isPrinted
      moreComparison room isPrinted (.compare r a b)
    | none => return a

/-- Reads an expression that may put a value into a place. -/
def assignment : (room : Nat) → (isPrinted : Bool) → Read Expr
  | 0, _ => refuse
  | room + 1, isPrinted => do
    let isGroup ← sees "("
    let a ← joining room
    match isGroup, a with
    | false, .place p =>
      match assignmentOf? (← peek) with
      | some op =>
        skip
        return .assign p op (← expr room isPrinted)
      | none => return a
    | _, _ => return a

/-- Reads an expression of texts that are joined. -/
def joining : (room : Nat) → Read Expr
  | 0 => refuse
  | room + 1 => do
    let a ← sum room
    moreJoining room a

/-- Goes on with such an expression. -/
def moreJoining : (room : Nat) → Expr → Read Expr
  | 0, _ => refuse
  | room + 1, a => do
    if beginsPart (← peek) then
      let b ← sum room
      moreJoining room (.join a b)
    else return a

/-- Reads a sum. -/
def sum : (room : Nat) → Read Expr
  | 0 => refuse
  | room + 1 => do
    let a ← product room
    moreSum room a

/-- Goes on with a sum. -/
def moreSum : (room : Nat) → Expr → Read Expr
  | 0, _ => refuse
  | room + 1, a => do
    let op := match ← peek with
      | .sign "+" => some Operation.add
      | .sign "-" => some .subtract
      | _ => none
    match op with
    | some op =>
      skip
      let b ← product room
      moreSum room (.combine op a b)
    | none => return a

/-- Reads a product. -/
def product : (room : Nat) → Read Expr
  | 0 => refuse
  | room + 1 => do
    let a ← signed room
    moreProduct room a

/-- Goes on with a product. -/
def moreProduct : (room : Nat) → Expr → Read Expr
  | 0, _ => refuse
  | room + 1, a => do
    let op := match ← peek with
      | .sign "*" => some Operation.multiply
      | .sign "/" => some .divide
      | .sign "%" => some .remain
      | _ => none
    match op with
    | some op =>
      skip
      let b ← signed room
      moreProduct room (.combine op a b)
    | none => return a

/-- Reads an expression with a sign in front. -/
def signed : (room : Nat) → Read Expr
  | 0 => refuse
  | room + 1 => do
    match ← peek with
    | .sign "!" =>
      skip
      return .negation (← signed room)
    | .sign "-" =>
      skip
      return .opposite (← signed room)
    | .sign "+" =>
      skip
      return .asNumber (← signed room)
    | _ => power room

/-- Reads a power. -/
def power : (room : Nat) → Read Expr
  | 0 => refuse
  | room + 1 => do
    let a ← stepped room
    let a ← piped room a
    if ← passes "^" then
      let b ← signed room
      return .combine .raise a b
    else return a

/-- Goes on with an expression whose text may be a command that records are read from. -/
def piped : (room : Nat) → Expr → Read Expr
  | 0, _ => refuse
  | room + 1, a => do
    if !(← sees "|") then return a
    let before ← get
    skip
    if ← seesWord "getline" then
      skip
      let target ← target? room
      piped room (.read (.command a) target)
    else
      set before
      return a

/-- Reads an expression that may change a place by one. -/
def stepped : (room : Nat) → Read Expr
  | 0 => refuse
  | room + 1 => do
    match ← peek with
    | .sign "++" =>
      skip
      return .step (← lvalue room) true true
    | .sign "--" =>
      skip
      return .step (← lvalue room) true false
    | _ =>
      let isGroup ← sees "("
      let a ← primary room
      match isGroup, a with
      | false, .place p =>
        if ← passes "++" then return .step p false true
        else if ← passes "--" then return .step p false false
        else return a
      | _, _ => return a

/-- Reads a place. -/
def lvalue : (room : Nat) → Read Place
  | 0 => refuse
  | room + 1 => do
    match ← peek with
    | .sign "$" =>
      skip
      return .field (← fieldNumber room)
    | .name name isCall =>
      if isCall && (← found? name).isNone then refuse
      skip
      place room name
    | _ => refuse

/-- Reads the rest of a place that begins with a name. -/
def place : (room : Nat) → List Char → Read Place
  | 0, _ => refuse
  | room + 1, name => do
    let v ← variableOf name
    if ← passes "[" then
      mark v true name
      let keys ← exprs room false
      expect "]"
      return .element v keys
    else
      mark v false name
      return .variable v

/-- Reads the number of a field. -/
def fieldNumber : (room : Nat) → Read Expr
  | 0 => refuse
  | room + 1 => do
    match ← peek with
    | .sign "++" =>
      skip
      return .step (← lvalue room) true true
    | .sign "--" =>
      skip
      return .step (← lvalue room) true false
    | .sign "-" =>
      skip
      return .opposite (← fieldNumber room)
    | .sign "+" =>
      skip
      return .asNumber (← fieldNumber room)
    | .sign "!" =>
      skip
      return .negation (← fieldNumber room)
    | _ => primary room

/-- Reads expressions between commas. -/
def exprs : (room : Nat) → (isPrinted : Bool) → Read (List Expr)
  | 0, _ => refuse
  | room + 1, isPrinted => do
    let e ← expr room isPrinted
    if ← passes "," then
      lines
      return e :: (← exprs room isPrinted)
    else return [e]

/-- Reads the name of a table. -/
def table : Read Variable := do
  match ← peek with
  | .name name _ =>
    skip
    let v ← variableOf name
    mark v true name
    return v
  | _ => refuse

/-- Reads a place for a record, if one comes next. -/
def target? : (room : Nat) → Read (Option Place)
  | 0 => refuse
  | room + 1 => do
    match ← peek with
    | .sign "$" => return some (← lvalue room)
    | .name name isCall =>
      if isCall || (← function? name).isSome then return none
      else return some (← lvalue room)
    | _ => return none

/-- Reads an expression that no operator parts. -/
def primary : (room : Nat) → Read Expr
  | 0 => refuse
  | room + 1 => do
    match ← peek with
    | .number x _ =>
      skip
      return .number x
    | .text cs =>
      skip
      return .text cs
    | .sign "/" | .sign "/=" =>
      let r ← get
      let text := ((dropSpace r.size 0 r.rest).2).drop 1
      match upToSlash false [] text with
      | .ok (cs, rest) =>
        set { r with rest }
        return .regex (← regexOf cs)
      | .error cs =>
        fail r.line ("runaway regular expression /".toList ++ cs.take 10 ++ " ...".toList) true
    | .sign "$" =>
      skip
      return .place (.field (← fieldNumber room))
    | .sign "(" =>
      skip
      let es ← exprs room false
      expect ")"
      match es with
      | [e] => return e
      | es =>
        if ← seesWord "in" then
          skip
          return .member (← table) es
        else refuse
    | .word "getline" =>
      skip
      let target ← target? room
      if ← passes "<" then
        return .read (.file (← source room)) target
      else return .read .main target
    | .function name =>
      skip
      builtin room name
    | .name name isCall =>
      let known ← function? name
      let isVariable := (← found? name).isSome
      skip
      if (isCall && !isVariable) || known.isSome then call room name
      else return .place (← place room name)
    | _ =>
      refuse

/-- Reads what names a file that records are read from. -/
def source : (room : Nat) → Read Expr
  | 0 => refuse
  | room + 1 => stepped room

/-- Reads a call of a function of the program. -/
def call : (room : Nat) → List Char → Read Expr
  | 0, _ => refuse
  | room + 1, name => do
    let f ← functionOf name
    let line := (← get).line
    expect "("
    let args ← if ← sees ")" then pure [] else arguments room f 0
    expect ")"
    let arity := ((← get).functions[f]?).bind (·.arity)
    if arity.any (· < args.length) then
      note line ("too many arguments in call to ".toList ++ name)
    return .call f args

/-- Reads the arguments of such a call from one on. A variable that stands alone may be a
table. -/
def arguments : (room : Nat) → (function n : Nat) → Read (List Expr)
  | 0, _, _ => refuse
  | room + 1, f, n => do
    let before ← get
    let lone? : Option Variable ← match ← peek with
      | .name name isCall =>
        if isCall && (← found? name).isNone || (← function? name).isSome then pure none
        else
          skip
          if (← sees ",") || (← sees ")") then pure (some (← variableOf name))
          else
            set before
            pure none
      | _ => pure none
    let e ← match lone? with
      | some v =>
        let owner := Owner.of (← functionNumber) v
        modify fun r => { r with given := (owner, f, n) :: r.given }
        pure (Expr.place (.variable v))
      | none => expr room false
    if ← passes "," then
      lines
      return e :: (← arguments room f (n + 1))
    else return [e]

/-- Reads a call of a function that every program has, behind its name. -/
def builtin : (room : Nat) → String → Read Expr
  | 0, _ => refuse
  | room + 1, name => do
    let line := (← get).line
    if name = "length" && !(← sees "(") then return .apply .length []
    expect "("
    match name with
    | "length" =>
      if ← passes ")" then return .apply .length []
      let before ← get
      let lone? : Option Variable ← match ← peek with
        | .name name false =>
          skip
          if (← sees ")") && (← function? name).isNone then pure (some (← variableOf name))
          else
            set before
            pure none
        | _ => pure none
      let e ← match lone? with
        | some v => pure (Expr.lengthOf v)
        | none => do pure (.apply .length [← expr room false])
      expect ")"
      return e
    | "split" =>
      let e ← expr room false
      expect ","
      lines
      let v ← table
      let separator ← if ← passes "," then
          lines
          pure (some (← separatorOf (← expr room false)))
        else pure none
      expect ")"
      return .split e v separator
    | "match" =>
      let e ← expr room false
      expect ","
      lines
      let pattern ← matcherOf (← expr room false)
      expect ")"
      return .locate e pattern
    | "sub" | "gsub" =>
      let pattern ← matcherOf (← expr room false)
      expect ","
      lines
      let new ← expr room false
      let target ← if ← passes "," then
          lines
          pure (some (← lvalue room))
        else pure none
      expect ")"
      return .replace (name = "gsub") pattern new target
    | _ =>
      let args ← if ← sees ")" then pure [] else exprs room false
      expect ")"
      match Function.all.lookup name with
      | some (f, least, greatest) =>
        if args.length < least || greatest < args.length then
          note line ("wrong number of arguments in call to ".toList ++ name.toList)
        return .apply f args
      | none => refuse

end

/-! ### Statements -/

/-- Passes over what comes up to the end of a statement, and over that end. -/
def recover : (room : Nat) → Read Unit
  | 0 => return ()
  | room + 1 => do
    match ← peek with
    | .newline | .sign ";" =>
      modify fun r => { r with parens := 0 }
      skip
      lines
    | .sign "\x7d" | .stop => modify fun r => { r with parens := 0 }
    | _ =>
      skip
      recover room

/-- Reads where output goes, if that is told. -/
def sending (room : Nat) : Read (Option (Sending × Expr)) := do
  let way? := match ← peek with
    | .sign ">" => some Sending.write
    | .sign ">>" => some .append
    | .sign "|" => some .pipe
    | _ => none
  match way? with
  | some way =>
    skip
    return some (way, ← expr room false)
  | none => return none

/-- Whether a token may stand behind what is written. -/
def endsPrint : Token → Bool
  | .newline | .stop => true
  | .sign s => [";", "\x7d", ">", ">>", "|"].contains s
  | _ => false

/-- Reads what is written: values, perhaps in parentheses all together. -/
def printed (room : Nat) : Read (List Expr) := do
  if endsPrint (← peek) then return []
  if !(← sees "(") then return ← exprs room true
  let before ← get
  skip
  if ← passes ")" then return []
  let es ← exprs room false
  expect ")"
  if endsPrint (← peek) then return es
  match es with
  | [_] => do
    set before
    exprs room true
  | _ =>
    if ← seesWord "in" then
      set before
      exprs room true
    else refuse

/-- Notes that a word stands where it cannot. -/
def misplaced (text : String) : Read Unit := do note (← get).line text.toList

mutual

/-- Reads statements up to a closing brace. -/
def statements : (room : Nat) → Read (List Statement)
  | 0 => refuse
  | room + 1 => do
    match ← peek with
    | .sign "\x7d" => return []
    | .stop => do
      let r ← get
      fail (r.line + 1) "missing \x7d near end of file".toList true
    | _ =>
      let s ← statement room
      return s :: (← statements room)

/-- Reads a block. -/
def block : (room : Nat) → Read Statement
  | 0 => refuse
  | room + 1 => do
    expect "\x7b"
    lines
    let ss ← statements room
    expect "\x7d"
    if (← get).braces = 0 then
      let _ ← passes ";"
    lines
    return .block ss

/-- Reads a statement. After a fault in a simple one reading goes on with the next one. -/
def statement : (room : Nat) → Read Statement
  | 0 => refuse
  | room + 1 => do
    match ← peek with
    | .sign "\x7b" => block room
    | .sign ";" =>
      skip
      lines
      return .block []
    | .word "if" =>
      skip
      expect "("
      let c ← expr room false
      expect ")"
      lines
      let yes ← statement room
      if ← seesWord "else" then
        skip
        lines
        return .branch c yes (some (← statement room))
      else return .branch c yes none
    | .word "while" =>
      skip
      expect "("
      let c ← expr room false
      expect ")"
      if ← sees ";" then
        skip
        lines
        return .loop true c (.block [])
      lines
      return .loop true c (← body room)
    | .word "do" =>
      skip
      lines
      let s ← body room
      if !(← seesWord "while") then refuse
      skip
      expect "("
      let c ← expr room false
      expect ")"
      endStatement
      return .loop false c s
    | .word "for" =>
      skip
      expect "("
      rounds room
    | _ =>
      tryCatch (do
        let s ← simple room
        endStatement
        return s) fun isFinal => do
          if isFinal then throw isFinal
          recover (← get).size
          return .block []

/-- Reads the statement of a loop. -/
def body : (room : Nat) → Read Statement
  | 0 => refuse
  | room + 1 => do
    modify fun r => { r with loops := r.loops + 1 }
    let s ← statement room
    modify fun r => { r with loops := r.loops - 1 }
    return s

/-- Reads a loop behind its opening parenthesis. -/
def rounds : (room : Nat) → Read Statement
  | 0 => refuse
  | room + 1 => do
    let before ← get
    let each? ← match ← peek with
      | .name name _ =>
        skip
        if ← seesWord "in" then
          skip
          let v ← variableOf name
          mark v false name
          let t ← table
          if ← passes ")" then pure (some (v, t))
          else
            set before
            pure none
        else
          set before
          pure none
      | _ => pure none
    match each? with
    | some (v, t) =>
      lines
      return .each v t (← body room)
    | none =>
      let first ← if ← sees ";" then pure none else do pure (some (.expr (← expr room false)))
      expect ";"
      lines
      let c ← if ← sees ";" then pure none else do pure (some (← expr room false))
      expect ";"
      lines
      let step ← if ← sees ")" then pure none else do pure (some (.expr (← expr room false)))
      expect ")"
      if ← passes ";" then
        lines
        return .rounds first c step (.block [])
      lines
      return .rounds first c step (← body room)

/-- Reads a statement that holds no other one. -/
def simple : (room : Nat) → Read Statement
  | 0 => refuse
  | room + 1 => do
    match ← peek with
    | .word "print" =>
      skip
      let es ← printed room
      return .print false es (← sending room)
    | .word "printf" =>
      skip
      let line := (← get).line
      let es ← printed room
      if es.isEmpty then note line "no arguments in call to printf".toList
      return .print true es (← sending room)
    | .word "next" =>
      skip
      if !(← get).hasRecord then misplaced "improper use of next"
      return .next false
    | .word "nextfile" =>
      skip
      if !(← get).hasRecord then misplaced "improper use of nextfile"
      return .next true
    | .word "exit" =>
      skip
      return .exit (← value? room)
    | .word "return" =>
      skip
      if (← get).function.isNone then misplaced "return outside function body"
      return .give (← value? room)
    | .word "break" =>
      skip
      if (← get).loops = 0 then misplaced "break statement outside of loop"
      return .leave
    | .word "continue" =>
      skip
      if (← get).loops = 0 then misplaced "continue statement outside of loop"
      return .again
    | .word "delete" =>
      skip
      let v ← table
      if ← passes "[" then
        let keys ← exprs room false
        expect "]"
        return .remove v keys
      else return .clear v
    | _ => return .expr (← expr room false)

/-- Reads a value, if one comes next. -/
def value? : (room : Nat) → Read (Option Expr)
  | 0 => refuse
  | room + 1 => do
    match ← peek with
    | .newline | .stop | .sign ";" | .sign "\x7d" => return none
    | _ => return some (← expr room false)

end

/-! ### Programs -/

/-- Reads the names of the variables of a function, up to a closing parenthesis. -/
def names : (room : Nat) → (sofar : List (List Char)) → Read (List (List Char))
  | 0, _ => refuse
  | room + 1, sofar => do
    match ← peek with
    | .name name _ =>
      skip
      if sofar.contains name then
        note (← get).line (name ++ " is duplicated in argument list".toList)
      let sofar := sofar ++ [name]
      if ← passes "," then
        lines
        names room sofar
      else
        expect ")"
        return sofar
    | _ => refuse

/-- Reads a function behind its word. -/
def function (room : Nat) : Read Unit := do
  match ← peek with
  | .name name _ =>
    skip
    let f ← functionOf name
    if (((← get).functions[f]?).bind (·.procedure)).isSome then
      note (← get).line ("redefinition of ".toList ++ name)
    expect "("
    let own ← if ← passes ")" then pure [] else names room []
    lines
    modify fun r => { r with
      function := some f, own, hasRecord := false
      functions := r.functions.modify f fun k => { k with arity := some own.length } }
    let body ← block room
    modify fun r => { r with
      function := none, own := []
      functions := r.functions.modify f fun k =>
        { k with procedure := some ⟨own.map (·, false), body⟩ } }
  | _ => refuse

/-- Reads a rule whose condition was read. -/
def ruleOf (room : Nat) (condition : Condition) : Read Rule := do
  if ← sees "\x7b" then
    modify fun r => { r with hasRecord := true }
    return ⟨condition, some (← block room)⟩
  else
    match ← peek with
    | .newline | .sign ";" =>
      skip
      lines
      return ⟨condition, none⟩
    | .stop => return ⟨condition, none⟩
    | _ => refuse

/-- Reads a rule or a function. -/
def item (room : Nat) : Read (Option Rule) := do
  match ← peek with
  | .word "function" =>
    skip
    function room
    return none
  | .word "BEGIN" =>
    skip
    modify fun r => { r with hasRecord := false }
    return some ⟨.first, some (← block room)⟩
  | .word "END" =>
    skip
    modify fun r => { r with hasRecord := false }
    return some ⟨.last, some (← block room)⟩
  | .sign "\x7b" => return some (← ruleOf room .always)
  | _ =>
    let a ← expr room false
    if ← passes "," then
      lines
      let b ← expr room false
      let n := (← get).ranges
      modify fun r => { r with ranges := n + 1 }
      return some (← ruleOf room (.range n a b))
    else return some (← ruleOf room (.when a))

/-- Reads rules and functions up to the end. -/
def items : (room : Nat) → Read (List Rule)
  | 0 => return []
  | room + 1 => do
    lines
    match ← peek with
    | .stop => return []
    | .sign "\x7d" => do
      note (← get).line "extra '\x7d'".toList
      fail (← get).line "syntax error at or near end of line".toList true
    | _ =>
      let r ← item (20 * (← get).size + 200)
      return r.toList ++ (← items room)

end Read

/-- What is known of variables after it has been handed on between functions. -/
def settled (given : List (Owner × Nat × Nat)) : (room : Nat) →
    List (Owner × Bool) → List (Owner × Bool)
  | 0, kinds => kinds
  | room + 1, kinds =>
    let more := given.foldl (fun (kinds : List (Owner × Bool)) (owner, f, n) =>
      let inner : Owner := (.own n, f)
      match kinds.lookup owner, kinds.lookup inner with
      | none, some k => (owner, k) :: kinds
      | some k, none => (inner, k) :: kinds
      | _, _ => kinds) kinds
    if more.length = kinds.length then kinds else settled given room more

/-- Reads a program. As errors, what is wrong with it, one line each. -/
def readProgram (text : List Char) : Except (List (List Char)) Program :=
  let start : Reading := { rest := text, size := text.length + 1 }
  let (outcome, r) := (Read.items (text.length + 1)).run start
  let kinds := settled r.given (r.given.length + r.functions.size + 1) r.kinds
  let isTable (owner : Owner) : Bool := (kinds.lookup owner).getD false
  let last := text.count '\n' + 2
  let missing := r.functions.toList.filterMap fun k =>
    if k.procedure.isNone then
      some ("line ".toList ++ digitsOf last ++ ": function ".toList ++ k.name ++
        " never defined".toList)
    else none
  match outcome, r.faults.reverse ++ (if r.faults.isEmpty then missing else []) with
  | .ok rules, [] =>
    .ok {
      rules
      procedures := r.functions.mapIdx fun f k =>
        let p := k.procedure.getD default
        { p with locals := (p.locals.zipIdx).map fun ((name, _), n) =>
          (name, isTable (.own n, f)) }
      globals := r.globals.mapIdx fun n name => (name, isTable (.global n, 0))
      ranges := r.ranges }
  | _, faults => .error faults

end ParserConformance.Script.Awk
