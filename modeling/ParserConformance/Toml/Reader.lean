import ParserConformance.Instances
import ParserConformance.Toml.Value

/-!
# Reading TOML

The grammar of TOML 1.0 over characters. A reader gives what it read and the characters after
it, or nothing if the text is no TOML.
-/

namespace ParserConformance.Toml

/-- Reads a part and gives the characters after it. -/
abbrev Reader (α : Type) := List Char → Option (α × List Char)

/-! ### Blanks, comments and line ends -/

/-- The text without its leading blanks. -/
def skipBlanks : List Char → List Char
  | ' ' :: cs => skipBlanks cs
  | '\t' :: cs => skipBlanks cs
  | cs => cs

/-- Whether a character may stand in comments and, with exceptions, in texts: no control but the
tab. -/
def isPlain (c : Char) : Bool := c = '\t' || (0x20 ≤ c.toNat && c.toNat ≠ 0x7F)

/-- Passes over a comment, if one begins. -/
def skipComment : List Char → List Char
  | '#' :: cs => cs.dropWhile isPlain
  | cs => cs

/-- Passes over the end of a line. -/
def newline? : List Char → Option (List Char)
  | '\n' :: cs => some cs
  | '\r' :: '\n' :: cs => some cs
  | _ => none

/-- Passes over the end of a line or of the text. -/
def lineEnd? : List Char → Option (List Char)
  | [] => some []
  | cs => newline? cs

/-- Passes over what may follow on a line: blanks, a comment, the line's end. -/
def lineRest? (cs : List Char) : Option (List Char) := lineEnd? (skipComment (skipBlanks cs))

/-- The text without leading blanks, line ends and comments before line ends. -/
def skipLayout : (room : Nat) → List Char → List Char
  | 0, cs => cs
  | room + 1, cs =>
    let cs := skipBlanks cs
    match newline? (skipComment cs) with
    | some rest => skipLayout room rest
    | none => cs

/-- The text without the layout before the next part of an array. -/
def skipAllLayout (cs : List Char) : List Char := skipLayout cs.length cs

/-! ### Texts -/

/-- The value of a hexadecimal digit. -/
def hexValue? (c : Char) : Option Nat :=
  if '0' ≤ c && c ≤ '9' then some (c.toNat - '0'.toNat)
  else if 'a' ≤ c && c ≤ 'f' then some (c.toNat - 'a'.toNat + 10)
  else if 'A' ≤ c && c ≤ 'F' then some (c.toNat - 'A'.toNat + 10)
  else none

/-- Reads `count` hexadecimal digits on top of `value`. -/
def readHex : (count value : Nat) → Reader Nat
  | 0, value, cs => some (value, cs)
  | count + 1, value, c :: cs =>
    match hexValue? c with
    | some d => readHex count (value * 16 + d) cs
    | none => none
  | _ + 1, _, [] => none

/-- The character of a code point, if it has one. -/
def charOf? (n : Nat) : Option Char :=
  if n < 0xD800 || (0xDFFF < n && n < 0x110000) then some (Char.ofNat n) else none

/-- Reads what follows on a backslash. -/
def readEscape : Reader Char
  | 'b' :: cs => some ('\x08', cs)
  | 't' :: cs => some ('\t', cs)
  | 'n' :: cs => some ('\n', cs)
  | 'f' :: cs => some ('\x0c', cs)
  | 'r' :: cs => some ('\r', cs)
  | '"' :: cs => some ('"', cs)
  | '\\' :: cs => some ('\\', cs)
  | 'u' :: cs => do
    let (n, cs) ← readHex 4 0 cs
    return (← charOf? n, cs)
  | 'U' :: cs => do
    let (n, cs) ← readHex 8 0 cs
    return (← charOf? n, cs)
  | _ => none

/-- Passes over blanks and line ends. -/
def skipEmptyLines : (room : Nat) → List Char → List Char
  | 0, cs => cs
  | room + 1, cs =>
    let cs := skipBlanks cs
    match newline? cs with
    | some rest => skipEmptyLines room rest
    | none => cs

/-- Passes over a line end, blanks before it and all empty lines after it. -/
def foldLine? (cs : List Char) : Option (List Char) :=
  (newline? (skipBlanks cs)).map fun rest => skipEmptyLines (rest.length + 1) rest

/-- The two kinds of quotes. -/
inductive Quote where
  /-- Texts with escapes. -/
  | basic
  /-- Texts without. -/
  | literal
  deriving DecidableEq

/-- The character of a kind of quote. -/
def Quote.mark : Quote → Char
  | .basic => '"'
  | .literal => '\''

/-- Reads a text on one line, after its opening quote. -/
def readLine (q : Quote) : (room : Nat) → (reversed : List Char) → Reader String
  | 0, _, _ => none
  | _ + 1, _, [] => none
  | room + 1, reversed, c :: cs =>
    if c = q.mark then some (String.ofList reversed.reverse, cs)
    else if q = .basic && c = '\\' then do
      let (d, cs) ← readEscape cs
      readLine q room (d :: reversed) cs
    else if isPlain c then readLine q room (c :: reversed) cs
    else none

/-- Reads a text over several lines, after its three opening quotes and a line end right behind
them. It ends at three quotes; one or two more right before those belong to it. -/
def readBlock (q : Quote) : (room : Nat) → (reversed : List Char) → Reader String
  | 0, _, _ => none
  | _ + 1, _, [] => none
  | room + 1, reversed, c :: cs =>
    if c = q.mark then
      let quotes := (c :: cs).takeWhile (· = q.mark)
      let rest := cs.drop (quotes.length - 1)
      if quotes.length < 3 then readBlock q room (quotes ++ reversed) rest
      else if quotes.length ≤ 5 then
        some (String.ofList (List.replicate (quotes.length - 3) c ++ reversed).reverse, rest)
      else none
    else if q = .basic && c = '\\' then
      match foldLine? cs with
      | some rest => readBlock q room reversed rest
      | none => do
        let (d, cs) ← readEscape cs
        readBlock q room (d :: reversed) cs
    else
      match newline? (c :: cs) with
      | some rest => readBlock q room ('\n' :: reversed) rest
      | none => if isPlain c then readBlock q room (c :: reversed) cs else none

/-- Reads a text after its first quote. -/
def readText (q : Quote) (cs : List Char) : Option (String × List Char) :=
  match cs with
  | c :: d :: rest =>
    if c = q.mark && d = q.mark then
      readBlock q (rest.length + 1) [] ((newline? rest).getD rest)
    else readLine q (cs.length + 1) [] cs
  | _ => readLine q (cs.length + 1) [] cs

/-! ### Keys -/

/-- Whether a character may stand in a key without quotes. -/
def isBare (c : Char) : Bool := c.isAlphanum || c = '_' || c = '-'

/-- Reads one name of a key. -/
def readName : Reader String
  | '"' :: cs => readLine .basic (cs.length + 1) [] cs
  | '\'' :: cs => readLine .literal (cs.length + 1) [] cs
  | cs =>
    match cs.takeWhile isBare with
    | [] => none
    | name => some (String.ofList name, cs.dropWhile isBare)

/-- Reads the names of a key, which points part. Blanks around them are of no account. -/
def readNames : (room : Nat) → Reader (List String)
  | 0, _ => none
  | room + 1, cs => do
    let (name, cs) ← readName (skipBlanks cs)
    match skipBlanks cs with
    | '.' :: cs =>
      let (names, cs) ← readNames room cs
      return (name :: names, cs)
    | cs => return ([name], cs)

/-- How deep arrays and tables in braces may nest, and how many names a key may have. -/
def depthLimit : Nat := 79

/-- Reads a key: the names before the last one, and that. -/
def readKey (cs : List Char) : Option ((List String × String) × List Char) := do
  let (names, cs) ← readNames (cs.length + 1) cs
  if names.length ≤ depthLimit then return ((names.dropLast, ← names.getLast?), cs) else none

/-! ### Numbers and dates -/

/-- Digits with single underscores between them. -/
def readDigitsAfter (isDigit : Char → Bool) : List Char → List Char × List Char
  | '_' :: c :: cs =>
    if isDigit c then
      let (digits, rest) := readDigitsAfter isDigit cs
      (c :: digits, rest)
    else ([], '_' :: c :: cs)
  | c :: cs =>
    if isDigit c then
      let (digits, rest) := readDigitsAfter isDigit cs
      (c :: digits, rest)
    else ([], c :: cs)
  | [] => ([], [])

/-- Reads at least one digit. -/
def readDigits (isDigit : Char → Bool) : Reader (List Char)
  | c :: cs =>
    if isDigit c then
      let (digits, rest) := readDigitsAfter isDigit cs
      some (c :: digits, rest)
    else none
  | [] => none

/-- The number that digits write in a base. -/
def valueOf (base : Nat) (digits : List Char) : Nat :=
  digits.foldl (fun n c => n * base + (hexValue? c).getD 0) 0

/-- The digits of the base that a letter after a zero names. -/
def baseOf? : Char → Option (Nat × (Char → Bool))
  | 'x' => some (16, fun c => (hexValue? c).isSome)
  | 'o' => some (8, fun c => '0' ≤ c && c ≤ '7')
  | 'b' => some (2, fun c => c = '0' || c = '1')
  | _ => none

/-- Reads a sign: whether it is a minus. -/
def readSign : List Char → Bool × List Char
  | '+' :: cs => (false, cs)
  | '-' :: cs => (true, cs)
  | cs => (false, cs)

/-- Reads the digits of a decimal number. Only zero itself begins with a zero. -/
def readDecimal : Reader (List Char)
  | '0' :: cs => some (['0'], cs)
  | cs => readDigits Char.isDigit cs

/-- An integer that fits into 64 bits with its sign. -/
def integer? (i : Int) : Option Value :=
  if -(2 ^ 63) ≤ i && i < 2 ^ 63 then some (.integer i) else none

/-- Reads an integer. -/
def readInteger (cs : List Char) : Option (Value × List Char) :=
  let decimal := do
    let (negative, cs) := readSign cs
    let (digits, cs) ← readDecimal cs
    let n : Int := valueOf 10 digits
    return (← integer? (if negative then -n else n), cs)
  match cs with
  | '0' :: letter :: rest =>
    match baseOf? letter with
    | some (base, isDigit) => do
      let (digits, rest) ← readDigits isDigit rest
      return (← integer? (valueOf base digits), rest)
    | none => decimal
  | _ => decimal

/-- Whether `mantissa` times a power of ten rounds to a double beyond the greatest one. -/
def isBeyondDoubles (mantissa : Nat) (power : Int) : Bool :=
  let size : Int := (Nat.toDigits 10 mantissa).length + power
  if mantissa = 0 || size < 309 then false
  else if 309 < size then true
  else if 0 ≤ power then 2 ^ 1024 - 2 ^ 970 ≤ mantissa * 10 ^ power.toNat
  else (2 ^ 1024 - 2 ^ 970) * 10 ^ (-power).toNat ≤ mantissa

/-- Reads the digits after a decimal point. -/
def readFraction : Reader (List Char)
  | '.' :: cs => readDigits Char.isDigit cs
  | _ => none

/-- Reads a power of ten. -/
def readExponent : Reader Int
  | c :: cs =>
    if c = 'e' || c = 'E' then do
      let (negative, cs) := readSign cs
      let (digits, cs) ← readDigits Char.isDigit cs
      let n : Int := valueOf 10 digits
      return (if negative then -n else n, cs)
    else none
  | [] => none

/-- Passes over the word `word`. -/
def skipWord (word : List Char) (cs : List Char) : Option (List Char) :=
  if word.isPrefixOf cs then some (cs.drop word.length) else none

/-- Reads a floating-point number, which is not to be greater than all finite ones. -/
def readFloat (cs : List Char) : Option (Value × List Char) :=
  let (negative, unsigned) := readSign cs
  match (skipWord "inf".toList unsigned).or (skipWord "nan".toList unsigned) with
  | some rest => some (.float, rest)
  | none => do
    let (whole, cs) ← readDecimal unsigned
    let (fraction, cs, pointed) := match readFraction cs with
      | some (fraction, cs) => (fraction, cs, true)
      | none => ([], cs, false)
    let (power, cs, raised) := match readExponent cs with
      | some (power, cs) => (power, cs, true)
      | none => (0, cs, false)
    if !pointed && !raised then none
    else if !negative && isBeyondDoubles (valueOf 10 (whole ++ fraction)) (power - fraction.length)
    then none
    else some (.float, cs)

/-- Reads exactly `count` digits. -/
def readCount (count : Nat) (cs : List Char) : Option (Nat × List Char) :=
  let digits := cs.take count
  if digits.length = count && digits.all Char.isDigit then
    some (valueOf 10 digits, cs.drop count)
  else none

/-- Reads two digits that write a number between `low` and `high`. -/
def readPair (low high : Nat) (cs : List Char) : Option (Nat × List Char) := do
  let (n, cs) ← readCount 2 cs
  if low ≤ n && n ≤ high then return (n, cs) else none

/-- How many days a month has. -/
def daysIn (year month : Nat) : Nat :=
  if month = 2 then
    if year % 4 = 0 && (year % 100 ≠ 0 || year % 400 = 0) then 29 else 28
  else if month = 4 || month = 6 || month = 9 || month = 11 then 30
  else 31

/-- Passes over a date. -/
def skipDate (cs : List Char) : Option (List Char) := do
  let (year, cs) ← readCount 4 cs
  let cs ← skipWord ['-'] cs
  let (month, cs) ← readPair 1 12 cs
  let cs ← skipWord ['-'] cs
  let (_, cs) ← readPair 1 (daysIn year month) cs
  return cs

/-- Passes over a time of day. -/
def skipTime (cs : List Char) : Option (List Char) := do
  let (_, cs) ← readPair 0 23 cs
  let cs ← skipWord [':'] cs
  let (_, cs) ← readPair 0 59 cs
  let cs ← skipWord [':'] cs
  let (_, cs) ← readPair 0 60 cs
  match cs with
  | '.' :: c :: rest => if c.isDigit then return rest.dropWhile Char.isDigit else return cs
  | _ => return cs

/-- Passes over a distance from universal time. -/
def skipOffset : List Char → Option (List Char)
  | c :: cs =>
    if c = 'Z' || c = 'z' then some cs
    else if c = '+' || c = '-' then do
      let (_, cs) ← readPair 0 23 cs
      let cs ← skipWord [':'] cs
      let (_, cs) ← readPair 0 59 cs
      return cs
    else none
  | [] => none

/-- Reads a date, a time or both. -/
def readDatetime (cs : List Char) : Option (Value × List Char) :=
  match skipDate cs with
  | none => (skipTime cs).map (.datetime, ·)
  | some afterDate =>
    let afterTime := match afterDate with
      | c :: rest => if c = 'T' || c = 't' || c = ' ' then skipTime rest else none
      | [] => none
    match afterTime with
    | none => some (.datetime, afterDate)
    | some rest => some (.datetime, (skipOffset rest).getD rest)

/-- Reads a value that is neither array nor table. -/
def readScalar : Reader Value
  | '"' :: cs => (readText .basic cs).map fun (s, rest) => (.string s, rest)
  | '\'' :: cs => (readText .literal cs).map fun (s, rest) => (.string s, rest)
  | 't' :: cs => (skipWord "rue".toList cs).map (.boolean true, ·)
  | 'f' :: cs => (skipWord "alse".toList cs).map (.boolean false, ·)
  | cs => ((readDatetime cs).or (readFloat cs)).or (readInteger cs)

/-! ### Arrays and tables -/

/-- Reads the items of an array after its opening bracket. A comma may stand behind the last
one. -/
def readItems (readValue : Reader Value) : (room : Nat) → Reader (List Value)
  | 0, _ => none
  | room + 1, cs =>
    match skipAllLayout cs with
    | ']' :: rest => some ([], rest)
    | cs => do
      let (v, cs) ← readValue cs
      match skipAllLayout cs with
      | ',' :: cs =>
        let (vs, rest) ← readItems readValue room cs
        return (v :: vs, rest)
      | ']' :: rest => return ([v], rest)
      | _ => none

/-- Reads a key, the sign after it and its value. -/
def readAssignment (readValue : Reader Value) (cs : List Char) :
    Option (Assignment × List Char) := do
  let ((path, key), cs) ← readKey cs
  match cs with
  | '=' :: cs =>
    let (v, cs) ← readValue (skipBlanks cs)
    return (⟨path, key, v⟩, cs)
  | _ => none

/-- Reads the assignments of a table in braces from its first key on. No comma may stand behind
the last one. -/
def readAssignments (readValue : Reader Value) : (room : Nat) → Reader (List Assignment)
  | 0, _ => none
  | room + 1, cs => do
    let (a, cs) ← readAssignment readValue cs
    match skipBlanks cs with
    | ',' :: cs =>
      let (as, rest) ← readAssignments readValue room cs
      return (a :: as, rest)
    | '\x7d' :: rest => return ([a], rest)
    | _ => none

/-- Reads a table after its opening brace. -/
def readBraces (readValue : Reader Value) (cs : List Char) : Option (Value × List Char) :=
  match skipBlanks cs with
  | '\x7d' :: rest => some (.table .inline [], rest)
  | cs => do
    let (as, rest) ← readAssignments readValue cs.length cs
    return (.table .inline (← assignAll .inline as []), rest)

/-- Reads a value in which arrays and tables nest at most `depth` levels deep. -/
def readValue : (depth : Nat) → Reader Value
  | 0, cs =>
    match cs with
    | '[' :: _ => none
    | '\x7b' :: _ => none
    | cs => readScalar cs
  | depth + 1, cs =>
    match cs with
    | '[' :: cs => do
      let (vs, rest) ← readItems (readValue depth) (cs.length + 1) cs
      return (.array vs, rest)
    | '\x7b' :: cs => readBraces (readValue depth) cs
    | cs => readScalar cs

/-! ### Documents -/

/-- Reads a header after its first bracket. -/
def readHeader (cs : List Char) : Option (Header × List Char) :=
  match cs with
  | '[' :: cs => do
    let ((path, key), cs) ← readKey cs
    return (⟨path, key, true⟩, ← skipWord [']', ']'] cs)
  | cs => do
    let ((path, key), cs) ← readKey cs
    return (⟨path, key, false⟩, ← skipWord [']'] cs)

/-- A line of a document that says something. -/
inductive Statement where
  /-- A header. -/
  | header (h : Header)
  /-- An assignment. -/
  | assignment (a : Assignment)

/-- Reads the statements of a document. Each takes at least one character. -/
def readStatements : (room : Nat) → List Char → Option (List Statement)
  | 0, cs => if cs.isEmpty then some [] else none
  | room + 1, cs =>
    match skipBlanks cs with
    | [] => some []
    | '#' :: cs => do readStatements room (← lineEnd? (skipComment ('#' :: cs)))
    | '[' :: cs => do
      let (h, cs) ← readHeader cs
      return .header h :: (← readStatements room (← lineRest? cs))
    | cs =>
      match newline? cs with
      | some rest => readStatements room rest
      | none => do
        let (a, cs) ← readAssignment (readValue depthLimit) cs
        return .assignment a :: (← readStatements room (← lineRest? cs))

/-- Statements put into sections. -/
def Document.ofStatements : List Statement → Document
  | [] => ⟨[], []⟩
  | .assignment a :: rest =>
    let d := ofStatements rest
    ⟨a :: d.preamble, d.sections⟩
  | .header h :: rest =>
    let d := ofStatements rest
    ⟨[], ⟨h, d.preamble⟩ :: d.sections⟩

/-- The text without a byte order mark. -/
def skipMark : List Char → List Char
  | '\uFEFF' :: cs => cs
  | cs => cs

/-- The entries of a TOML document. -/
def read (text : String) : Option Entries := do
  let cs := skipMark text.toList
  (Document.ofStatements (← readStatements (cs.length + 1) cs)).entries

end ParserConformance.Toml
