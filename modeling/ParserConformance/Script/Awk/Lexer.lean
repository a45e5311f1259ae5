import ParserConformance.Script.Awk.Program
import ParserConformance.Script.Tool.Regex.Reader

/-!
# Words of text programs

A program is cut into tokens as its reader asks for them. Ends of lines end statements, so they
are tokens; a slash begins a regular expression where a value may stand.
-/

namespace ParserConformance.Script.Awk

open Tool (Regex)

/-- A token. -/
inductive Token where
  /-- The end of the program. -/
  | stop
  /-- The end of a line. -/
  | newline
  /-- A number. -/
  | number (x : Float) (shown : List Char)
  /-- A text. -/
  | text (cs : List Char)
  /-- A name, and whether an opening parenthesis follows at once. -/
  | name (cs : List Char) (isCall : Bool)
  /-- A function that every program has. -/
  | function (name : String)
  /-- A word that is reserved. -/
  | word (text : String)
  /-- An operator. -/
  | sign (text : String)
  /-- A character that begins no token. -/
  | strange (c : Char)
  /-- A closing parenthesis that closes nothing. -/
  | extra

/-- How a complaint shows a token. -/
def Token.written : Token → List Char
  | .stop | .newline => "end of line".toList
  | .number _ shown => shown
  | .text cs | .name cs _ => cs
  | .strange c => [c]
  | .extra => [')']
  | .function s | .word s | .sign s => s.toList

/-- The words that are reserved. -/
def reservedWords : List String :=
  ["BEGIN", "END", "break", "continue", "delete", "do", "else", "exit", "for", "function",
    "getline", "if", "in", "next", "nextfile", "print", "printf", "return", "while"]

/-- The functions that every program has. -/
def functionNames : List String :=
  ["atan2", "close", "cos", "exp", "fflush", "gsub", "index", "int", "length", "log", "match",
    "rand", "sin", "split", "sprintf", "sqrt", "srand", "sub", "substr", "system", "systime",
    "tolower", "toupper"]

/-- The operators, longer ones first. -/
def signs : List String :=
  ["&&", "||", "++", "--", "+=", "-=", "*=", "/=", "%=", "^=", "==", "!=", "<=", ">=", ">>",
    "!~", "\x7b", "\x7d", "(", ")", "[", "]", ";", ",", "+", "-", "*", "/", "%", "^", "!", ">",
    "<", "|", "?", ":", "~", "$", "="]

/-! ### Texts -/

/-- The value of octal digits at the front of a text, up to three of them, and what follows. -/
def octalAt? (cs : List Char) : Option (Char × List Char) :=
  let digits := (cs.take 3).takeWhile isOctal
  if digits.isEmpty then none else some (octalByte digits, cs.drop digits.length)

/-- The character that what follows on a backslash stands for in a text, and what comes after
it. -/
def escapeIn? (cs : List Char) : Option (Char × List Char) :=
  match cs with
  | [] => none
  | c :: rest =>
    match [('"', '"'), ('\\', '\\'), ('a', '\x07'), ('b', '\x08'), ('f', '\x0c'), ('n', '\n'),
        ('r', '\r'), ('t', '\t'), ('v', '\x0b')].lookup c with
    | some d => some (d, rest)
    | none =>
      if c = 'x' then
        let digits := (rest.take 2).takeWhile (isDigitOf 16)
        if digits.isEmpty then none
        else some (Char.ofNat (valueIn 16 digits), rest.drop digits.length)
      else octalAt? cs

/-- A text with its escapes undone. A backslash at the end of a line joins it to the next one,
and one that means nothing is kept. -/
def unescaped : (room : Nat) → List Char → List Char
  | 0, cs => cs
  | _ + 1, [] => []
  | room + 1, '\\' :: '\n' :: cs => unescaped room cs
  | room + 1, '\\' :: cs =>
    match escapeIn? cs with
    | some (c, rest) => c :: unescaped room rest
    | none =>
      match cs with
      | c :: rest => '\\' :: c :: unescaped room rest
      | [] => ['\\']
  | room + 1, c :: cs => c :: unescaped room cs

/-- The text up to a closing mark that no backslash stands before, and what comes after it; as
an error, the text that is not closed. -/
def upToMark (mark : Char) (reversed : List Char) :
    List Char → Except (List Char) (List Char × List Char)
  | [] => .error reversed.reverse
  | '\\' :: c :: cs => upToMark mark (c :: '\\' :: reversed) cs
  | c :: cs =>
    if c = mark then .ok (reversed.reverse, cs)
    else if c = '\n' then .error reversed.reverse
    else upToMark mark (c :: reversed) cs

/-- The same for the slash behind a regular expression, which may stand in brackets. -/
def upToSlash (inBrackets : Bool) (reversed : List Char) :
    List Char → Except (List Char) (List Char × List Char)
  | [] => .error reversed.reverse
  | '\\' :: c :: cs => upToSlash inBrackets (c :: '\\' :: reversed) cs
  | c :: cs =>
    if c = '\n' then .error reversed.reverse
    else if inBrackets then upToSlash (c ≠ ']') (c :: reversed) cs
    else if c = '/' then .ok (reversed.reverse, cs)
    else if c = '[' then
      match cs with
      | '^' :: ']' :: rest => upToSlash true (']' :: '^' :: '[' :: reversed) rest
      | ']' :: rest => upToSlash true (']' :: '[' :: reversed) rest
      | rest => upToSlash true ('[' :: reversed) rest
    else upToSlash false (c :: reversed) cs

/-! ### Regular expressions -/

/-- A regular expression with the escapes undone that only these programs have. A character that
would mean something keeps a backslash. -/
def plainRegex : (room : Nat) → List Char → List Char
  | 0, cs => cs
  | _ + 1, [] => []
  | room + 1, '\\' :: '/' :: cs => '/' :: plainRegex room cs
  | room + 1, '\\' :: '\\' :: cs => '\\' :: '\\' :: plainRegex room cs
  | room + 1, '\\' :: cs =>
    match escapeIn? cs with
    | some (c, rest) =>
      let isSpecial := "\\.[]()*+?^$|\x7b\x7d".toList.contains c
      (if isSpecial then ['\\', c] else [c]) ++ plainRegex room rest
    | none =>
      match cs with
      | c :: rest => '\\' :: c :: plainRegex room rest
      | [] => ['\\', '\\']
  | room + 1, c :: cs => c :: plainRegex room cs

/-- How regular expressions are read. -/
def flavor : Regex.Flavor :=
  { isExtended := true, leading := .refused, escapesInBrackets := true, hasReferences := false }

/-- What is wrong with a regular expression. -/
def faultText : Regex.Fault → String
  | .unmatchedOpening => "missing ')'"
  | .unmatchedClosing => "missing '('"
  | .badRepetition => "missing operand"
  | .unmatchedBracket | .badRange | .badClass | .badName | .other => "bad class -- [], [^] or ["
  | _ => "syntax error ^* or ^+"

/-- Reads a regular expression. -/
def readRegex (cs : List Char) : Except (List Char) Regex :=
  match Regex.read flavor (plainRegex (cs.length + 1) cs) with
  | .ok r => .ok r
  | .error fault =>
    .error (("regular expression compile failed (" ++ faultText fault ++ ")\n").toList ++ cs)

/-! ### Tokens -/

/-- The number at the front of a program, as it is written, and what comes after it. -/
def numeralAt (cs : List Char) : List Char × List Char :=
  let whole := cs.takeWhile isDigit
  let rest := cs.drop whole.length
  let places := match rest with
    | '.' :: more => '.' :: more.takeWhile isDigit
    | _ => []
  let rest := rest.drop places.length
  let power := match rest with
    | e :: more =>
      let sign := more.takeWhile fun c => c = '+' || c = '-'
      let digits := (more.drop sign.length).takeWhile isDigit
      if (e = 'e' || e = 'E') && sign.length ≤ 1 && !digits.isEmpty then e :: sign ++ digits
      else []
    | [] => []
  (whole ++ places ++ power, rest.drop power.length)

/-- What stands at the front of a program: blanks, comments and joins of lines are passed over;
gives how many lines those take, and what is left. -/
def dropSpace : (room : Nat) → (lines : Nat) → List Char → Nat × List Char
  | 0, lines, cs => (lines, cs)
  | room + 1, lines, cs =>
    match cs with
    | '\\' :: '\n' :: rest => dropSpace room (lines + 1) rest
    | '\\' :: '\r' :: '\n' :: rest => dropSpace room (lines + 1) rest
    | '#' :: rest => dropSpace room lines (rest.dropWhile (· ≠ '\n'))
    | c :: rest =>
      if c = ' ' || c = '\t' || c = '\r' || c = '\x0c' || c = '\x0b' then dropSpace room lines rest
      else (lines, cs)
    | [] => (lines, [])

/-- The token at the front of a program that has no blanks there, and what comes after it. As an
error, a complaint. -/
def cut (cs : List Char) : Except (List Char) (Token × List Char) :=
  match cs with
  | [] => .ok (.stop, [])
  | '\n' :: rest => .ok (.newline, rest)
  | '"' :: rest =>
    match upToMark '"' [] rest with
    | .ok (text, rest) => .ok (.text (unescaped (text.length + 1) text), rest)
    | .error text =>
      .error ("runaway string constant \"".toList ++ text.take 10 ++ " ...".toList)
  | c :: more =>
    if isDigit c || (c = '.' && more.head?.any isDigit) then
      let (shown, rest) := numeralAt cs
      .ok (.number (numberIn shown) shown, rest)
    else if isNameStart c then
      let name := cs.takeWhile isNameChar
      let rest := cs.drop name.length
      let text := String.ofList name
      if reservedWords.contains text then .ok (.word text, rest)
      else if functionNames.contains text then .ok (.function text, rest)
      else .ok (.name name (rest.head? = some '('), rest)
    else
      match signs.find? (·.toList.isPrefixOf cs) with
      | some s => .ok (.sign s, cs.drop s.length)
      | none => .ok (.strange c, more)

end ParserConformance.Script.Awk
