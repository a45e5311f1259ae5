import ParserConformance.Instances
import ParserConformance.Script.Command

/-!
# Reading shell scripts

A script is read one command line at a time. Words are cut out of the text as commands ask for
them, since what a word is depends on where it stands, and a word may have commands in it. A
document that a redirection announces is read at the end of its line and kept under a number.
-/

namespace ParserConformance.Script

/-! ### What is read -/

/-- A redirection before its word is read. -/
inductive Sending where
  /-- To or from a file. -/
  | file (use : FileUse)
  /-- To where another stream goes. -/
  | stream
  /-- From a document. -/
  | document (stripsTabs : Bool)
  deriving DecidableEq, Repr

/-- A token of a script. -/
inductive Token where
  /-- The end of the script. -/
  | endOfText
  /-- The end of a line. -/
  | newline
  /-- An operator between commands. -/
  | operator (text : String)
  /-- A word that the shell reserves for itself. -/
  | keyword (text : String)
  /-- Another word. -/
  | word (w : Word)
  /-- The beginning of a redirection of a stream. -/
  | redirection (stream : Nat) (sending : Sending)

/-- The name of a token in a complaint. -/
def Token.name : Token → String
  | .endOfText => "end of file"
  | .newline => "newline"
  | .operator text | .keyword text => "\"" ++ text ++ "\""
  | .word _ => "word"
  | .redirection _ _ => "redirection"

/-- A document that is still to be read. -/
structure Awaited where
  /-- Its number. -/
  id : Nat
  /-- The line that ends it. -/
  mark : List Char
  /-- Whether its text stands for itself. -/
  isLiteral : Bool
  /-- Whether tabs at the start of its lines do not belong to it. -/
  stripsTabs : Bool

/-- A text that has been put in the place of a name. -/
structure Opened where
  /-- The name, which does not stand for that text within it. -/
  name : List Char
  /-- How many characters are left to read where it ends. -/
  behind : Nat
  /-- Whether it ends in a blank, so that the word behind it may be such a name as well. -/
  passesOn : Bool

/-- A reader of a script. -/
structure Reader where
  /-- What it has not read yet. -/
  rest : List Char
  /-- The number of the line that it is on. -/
  line : Nat
  /-- A token that was read and put back. -/
  pushed : Option Token
  /-- The documents that begin after this line. -/
  awaited : List Awaited
  /-- The documents that it has read. -/
  documents : List (Nat × Word)
  /-- The number of the next document. -/
  nextDocument : Nat
  /-- The names that stand for other texts. -/
  aliases : List (List Char × List Char) := []
  /-- The texts that it is in, the innermost one first, that were put in the place of names. -/
  opened : List Opened := []
  /-- Whether the next word may be a name for another text wherever it stands. -/
  passesOn : Bool := false

/-- The reader of a text that begins on a line, with documents numbered from a number on. -/
def Reader.ofText (text : List Char) (line nextDocument : Nat) : Reader :=
  { rest := text, line, pushed := none, awaited := [], documents := [], nextDocument }

/-- What is wrong with a script, and on which line. -/
structure SyntaxFault where
  /-- The line. -/
  line : Nat
  /-- What is wrong. -/
  text : String
  deriving DecidableEq, Repr

/-- A step of a reader. -/
abbrev Reading := StateT Reader (Except SyntaxFault)

namespace Reader

/-- Refuses the script. -/
def complain {α : Type} (text : String) : Reading α := do
  throw ⟨(← get).line, text⟩

/-- Refuses a token in the place of another one. -/
def refuseFor {α : Type} (t : Token) (wanted : String) : Reading α :=
  complain (t.name ++ " unexpected (expecting \"" ++ wanted ++ "\")")

/-- Refuses a token. -/
def refuse {α : Type} (t : Token) : Reading α := complain (t.name ++ " unexpected")

/-- The text and its line without joins of lines at the front. -/
def dropJoins (line : Nat) : List Char → Nat × List Char
  | '\\' :: '\n' :: cs => dropJoins (line + 1) cs
  | cs => (line, cs)

/-- The next character, which stays unread. A backslash at the end of a line joins it to the
next one. -/
def peek : Reading (Option Char) := do
  let s ← get
  let (line, rest) := dropJoins s.line s.rest
  set { s with line, rest }
  return rest.head?

/-- Passes over a character. -/
def skip : Reading Unit :=
  modify fun s =>
    match s.rest with
    | [] => s
    | c :: rest => { s with rest, line := if c = '\n' then s.line + 1 else s.line }

/-- Takes all characters up to the first one of which a test does not hold. -/
def takeWhile (test : Char → Bool) : Reading (List Char) := do
  let s ← get
  let taken := s.rest.takeWhile test
  set { s with rest := s.rest.drop taken.length, line := s.line + taken.count '\n' }
  return taken

/-- Passes over a character if it is the next one. -/
def passes (c : Char) : Reading Bool := do
  if (← peek) = some c then
    skip
    return true
  else return false

/-- How many characters are left of the text that was put in the place of a name. -/
def leftOfOpened : Reading (Option Nat) := do
  let s ← get
  if s.opened.isEmpty then return none
  let left := s.rest.length
  return (s.opened.find? (·.behind ≤ left)).map fun o => left - o.behind

/-- Takes the characters of a word up to the first one of which a test does not hold. A word ends
where a text ends that was put in the place of a name. -/
def takeOfWord (test : Char → Bool) : Reading (List Char) := do
  match ← leftOfOpened with
  | none => Reader.takeWhile test
  | some left =>
    let s ← get
    let taken := (s.rest.take left).takeWhile test
    set { s with rest := s.rest.drop taken.length, line := s.line + taken.count '\n' }
    return taken

/-- Leaves the texts that have been read to their ends. -/
def closeTexts : Reading Unit :=
  modify fun s =>
    if s.opened.isEmpty then s
    else
      let left := s.rest.length
      let (closed, opened) := s.opened.partition (left ≤ ·.behind)
      { s with opened, passesOn := s.passesOn || closed.any (·.passesOn) }

/-- Puts the text for which a name stands in front of what is left, if it stands for one. -/
def opens (name : List Char) : Reading Bool := do
  let s ← get
  match s.aliases.lookup name with
  | none => return false
  | some text =>
    if s.opened.any (·.name = name) then return false
    let isBlank := text.getLast?.any fun c => c = ' ' || c = '\t'
    if !text.isEmpty then
      set { s with
        rest := text ++ s.rest
        opened := ⟨name, s.rest.length, isBlank⟩ :: s.opened }
    return true

/-- Puts a token back. -/
def putBack (t : Token) : Reading Unit := modify fun s => { s with pushed := some t }

end Reader

open Reader

/-! ### Where fragments stand -/

/-- Where a part of a word stands. -/
inductive Surrounding where
  /-- Outside of everything. -/
  | bare
  /-- Between double quotes. -/
  | double
  /-- Between braces outside of quotes. -/
  | braces
  /-- Between braces inside double quotes. -/
  | doubleBraces
  /-- In a document. -/
  | document
  deriving DecidableEq, Repr

/-- Whether a character is a blank between words. -/
def isBlank (c : Char) : Bool := c = ' ' || c = '\t'

/-- Whether a character ends a word outside of quotes. -/
def endsWord (c : Char) : Bool := isBlank c || "\n;|&<>()".toList.contains c

namespace Surrounding

/-- Whether a character ends what stands there. -/
def stops : Surrounding → Char → Bool
  | .bare, c => endsWord c
  | .double, c => c = '"'
  | .braces, c | .doubleBraces, c => c = '\x7d'
  | .document, _ => false

/-- Whether single quotes are quotes there. -/
def hasSingleQuotes : Surrounding → Bool
  | .bare | .braces => true
  | _ => false

/-- Whether double quotes are quotes there. -/
def hasDoubleQuotes : Surrounding → Bool
  | .document => false
  | _ => true

/-- Whether a backslash takes away the meaning of a character there. -/
def escapes : Surrounding → Char → Bool
  | .bare, _ | .braces, _ => true
  | .double, c => "$`\"\\".toList.contains c
  | .doubleBraces, c => "$`\"\\\x7d".toList.contains c
  | .document, c => "$`\\".toList.contains c

/-- Whether a character means no more than itself there. -/
def isOrdinary (p : Surrounding) (c : Char) : Bool :=
  !(p.stops c || c = '\\' || c = '$' || c = '`' || (c = '\'' && p.hasSingleQuotes) ||
    (c = '"' && p.hasDoubleQuotes))

/-- Where a word between braces stands that begins there. -/
def inBraces : Surrounding → Surrounding
  | .bare | .braces => .braces
  | _ => .doubleBraces

/-- What the end of the script is called there, if it should not come. -/
def endFault? : Surrounding → Option String
  | .bare | .document => none
  | .double | .doubleBraces => some "Unterminated quoted string"
  | .braces => some "Missing '\x7d'"

end Surrounding

/-! ### Reserved words -/

/-- The words that the shell reserves for itself. -/
def keywords : List String :=
  ["!", "case", "do", "done", "elif", "else", "esac", "fi", "for", "if", "in", "then", "until",
    "while", "\x7b", "\x7d"]

/-- The token as a reserved word, if it is one. -/
def Token.reserved : Token → Token
  | .word [.plain cs] =>
    match keywords.find? (·.toList = cs) with
    | some text => .keyword text
    | none => .word [.plain cs]
  | t => t

/-- What a token may be, and what may stand before it, where it is read. -/
structure Spot where
  /-- Whether ends of lines may stand before it. -/
  hasLines : Bool
  /-- Whether it may be a reserved word. -/
  isReserved : Bool
  /-- Whether it may be a name for another text. -/
  isAliased : Bool

namespace Spot

/-- Where a further word of a command, or an operator, stands. -/
def inside : Spot := ⟨false, false, false⟩

/-- Where the name of a command stands, once it is known that there is one. -/
def name : Spot := ⟨false, false, true⟩

/-- Where a command begins, or a reserved word may come. -/
def start : Spot := ⟨false, true, true⟩

/-- The same, on this line or a later one. -/
def laterStart : Spot := ⟨true, true, true⟩

/-- Where an arm of a selection begins or ends. -/
def arm : Spot := ⟨true, true, false⟩

end Spot

/-- Whether a token ends a list of commands. -/
def Token.endsList : Token → Bool
  | .endOfText => true
  | .operator text => text = ")" || text = ";;"
  | .keyword text =>
    ["do", "done", "elif", "else", "esac", "fi", "then", "\x7d"].contains text
  | _ => false

/-- The names of functions that the shell keeps for itself. -/
def specialBuiltins : List String :=
  [".", ":", "break", "continue", "eval", "exec", "exit", "export", "readonly", "return", "set",
    "shift", "times", "trap", "unset"]

/-! ### Documents -/

/-- The lines of a document up to its mark, what comes after it, and how many lines were
passed. -/
def takeDocument (mark : List Char) (stripsTabs : Bool) : (room : Nat) → List Char →
    List Char × List Char × Nat
  | 0, cs => ([], cs, 0)
  | _ + 1, [] => ([], [], 0)
  | room + 1, cs =>
    let line := cs.takeWhile (· ≠ '\n')
    let rest := cs.drop line.length
    let text := if stripsTabs then line.dropWhile (· = '\t') else line
    if text = mark then ([], rest.drop 1, rest.length - (rest.drop 1).length)
    else
      match rest with
      | [] => (text, [], 0)
      | _ :: rest =>
        let (more, rest, n) := takeDocument mark stripsTabs room rest
        (text ++ '\n' :: more, rest, n + 1)

/-- The characters of a word that ends a document, and whether any of them is quoted. -/
def markOf : Word → List Char × Bool
  | [] => ([], false)
  | f :: w =>
    let (cs, quoted) := markOf w
    match f with
    | .plain ds => (ds ++ cs, quoted)
    | .literal ds => (ds ++ cs, true)
    | .quoted inner => (plainText inner ++ cs, true)
    | .parameter name _ => ('$' :: name ++ cs, quoted)
    | _ => (cs, quoted)
where
  /-- The characters between quotes. -/
  plainText : Word → List Char
    | [] => []
    | .plain ds :: w | .literal ds :: w => ds ++ plainText w
    | _ :: w => plainText w

/-! ### Backquotes -/

/-- The text up to a closing backquote, backslashes taken off where they are not meant for the
text, and what comes after it. -/
def takeBackquoted (quoted : Bool) : List Char → Option (List Char × List Char)
  | [] => none
  | '`' :: cs => some ([], cs)
  | '\\' :: c :: cs => do
    let (text, rest) ← takeBackquoted quoted cs
    if c = '\n' then return (text, rest)
    else if c = '\\' || c = '`' || c = '$' || (quoted && c = '"') then return (c :: text, rest)
    else return ('\\' :: c :: text, rest)
  | c :: cs => do
    let (text, rest) ← takeBackquoted quoted cs
    return (c :: text, rest)

/-- The text without blanks and comments at its front. -/
def dropBlanks : (room : Nat) → (line : Nat) → List Char → Nat × List Char
  | 0, line, cs => (line, cs)
  | _ + 1, line, [] => (line, [])
  | room + 1, line, c :: cs =>
    if isBlank c then dropBlanks room line cs
    else if c = '\\' && cs.head? = some '\n' then dropBlanks room (line + 1) (cs.drop 1)
    else if c = '#' then (line, cs.dropWhile (· ≠ '\n'))
    else (line, c :: cs)

/-! ### Words and commands -/

/-- A word with one more part in front. Plain characters side by side make one part. -/
def joinFragment : Fragment → Word → Word
  | .plain cs, .plain ds :: w => .plain (cs ++ ds) :: w
  | f, w => f :: w

/-- The word that stands for all arguments. -/
def allArguments : Word := [.quoted [.parameter ['@'] .asIs]]

mutual

/-- Reads the parts of a word up to its end. -/
def readFragments : (room : Nat) → Surrounding → Reading Word
  | 0, _ => complain "word unexpected"
  | room + 1, p => do
    match ← peek with
    | none =>
      match p.endFault? with
      | some fault => complain fault
      | none => return []
    | some c =>
      if p.stops c || (p = .bare && (← leftOfOpened) = some 0) then return []
      else
        let f ← readFragment room p c
        return joinFragment f (← readFragments room p)

/-- Reads the part of a word that begins with a character. -/
def readFragment : (room : Nat) → Surrounding → Char → Reading Fragment
  | 0, _, _ => complain "word unexpected"
  | room + 1, p, c => do
    if c = '$' then
      skip
      readDollar room p
    else if c = '`' then
      skip
      readBackquoted room (!p.hasSingleQuotes)
    else if c = '\\' then
      skip
      match (← get).rest with
      | [] => return .literal ['\\']
      | d :: _ =>
        skip
        return .literal (if p.escapes d then [d] else ['\\', d])
    else if c = '\'' && p.hasSingleQuotes then
      skip
      let cs ← Reader.takeWhile (· ≠ '\'')
      if (← get).rest.isEmpty then complain "Unterminated quoted string"
      skip
      return .literal cs
    else if c = '"' && p.hasDoubleQuotes then
      skip
      let w ← readFragments room .double
      skip
      return .quoted w
    else if p = .bare then return .plain (← takeOfWord p.isOrdinary)
    else return .plain (← Reader.takeWhile p.isOrdinary)

/-- Reads what follows on a dollar sign. -/
def readDollar : (room : Nat) → Surrounding → Reading Fragment
  | 0, _ => complain "word unexpected"
  | room + 1, p => do
    match ← peek with
    | some '(' =>
      skip
      if ← passes '(' then return .arithmetic (← readArithmetic room 0)
      else return .output (← readSubstitution room)
    | some '\x7b' =>
      skip
      readBraces room p
    | some c =>
      if isNameStart c then return .parameter (← Reader.takeWhile isNameChar) .asIs
      else if isSpecialParameter c then
        skip
        return .parameter [c] .asIs
      else return .plain ['$']
    | none => return .plain ['$']

/-- Reads an arithmetic expression up to the parentheses that close it. -/
def readArithmetic : (room : Nat) → (depth : Nat) → Reading Word
  | 0, _ => complain "Missing '))'"
  | room + 1, depth => do
    match ← peek with
    | none => complain "Missing '))'"
    | some '(' =>
      skip
      return .plain ['('] :: (← readArithmetic room (depth + 1))
    | some ')' =>
      skip
      if 0 < depth then return .plain [')'] :: (← readArithmetic room (depth - 1))
      else if ← passes ')' then return []
      else return .plain [')'] :: (← readArithmetic room depth)
    | some c =>
      if Surrounding.document.isOrdinary c then
        let cs ← Reader.takeWhile fun c =>
          Surrounding.document.isOrdinary c && c ≠ '(' && c ≠ ')'
        return .plain cs :: (← readArithmetic room depth)
      else
        let f ← readFragment room .document c
        return f :: (← readArithmetic room depth)

/-- Reads the commands of a substitution up to the parenthesis that closes it. -/
def readSubstitution : (room : Nat) → Reading (Option Command)
  | 0 => complain "word unexpected"
  | room + 1 => do
    let outer := (← get).awaited
    modify fun s => { s with awaited := [] }
    let body ← readList room true true none
    match ← nextToken room .inside with
    | .operator ")" =>
      modify fun s => { s with awaited := outer }
      return body
    | t => refuseFor t ")"

/-- Reads the commands of a substitution up to a backquote. -/
def readBackquoted : (room : Nat) → (quoted : Bool) → Reading Fragment
  | 0, _ => complain "word unexpected"
  | room + 1, quoted => do
    let s ← get
    match takeBackquoted quoted s.rest with
    | none =>
      set { s with rest := [], line := s.line + s.rest.count '\n' }
      complain "EOF in backquote substitution"
    | some (text, rest) =>
      let opened := s.opened.map fun o => { o with behind := 0, passesOn := false }
      set { s with rest := text, pushed := none, awaited := [], opened }
      let body ← readList room true true none
      let passed := (s.rest.take (s.rest.length - rest.length)).count '\n'
      modify fun inner => { inner with
        rest
        line := s.line + passed
        pushed := none
        awaited := s.awaited
        opened := s.opened }
      return .output body

/-- Reads a parameter between braces. -/
def readBraces : (room : Nat) → Surrounding → Reading Fragment
  | 0, _ => complain "word unexpected"
  | room + 1, p => do
    let rest := (← get).rest
    match rest with
    | '#' :: c :: more =>
      if isNameChar c then
        skip
        let name ← if isDigit c then Reader.takeWhile isDigit else Reader.takeWhile isNameChar
        if ← passes '\x7d' then return .parameter name .length
        else readUnknown room p
      else if c ≠ '\x7d' && more.head? = some '\x7d' && isSpecialParameter c then
        skip
        skip
        skip
        return .parameter [c] .length
      else
        skip
        readChange room p ['#']
    | c :: _ =>
      if isNameStart c then readChange room p (← Reader.takeWhile isNameChar)
      else if isDigit c then readChange room p (← Reader.takeWhile isDigit)
      else if isSpecialParameter c then
        skip
        readChange room p [c]
      else readUnknown room p
    | [] => complain "Missing '\x7d'"

/-- Reads what is to be done with a parameter. -/
def readChange : (room : Nat) → Surrounding → (name : List Char) → Reading Fragment
  | 0, _, _ => complain "word unexpected"
  | room + 1, p, name => do
    let emptyToo ← passes ':'
    match ← peek with
    | some '\x7d' =>
      skip
      if emptyToo then
        let _ ← readFragments room p.inBraces
        skip
      return .parameter name .asIs
    | some c =>
      let standIn? : Option StandIn :=
        if c = '-' then some .instead
        else if c = '=' then some .assigned
        else if c = '?' then some .demanded
        else if c = '+' then some .present
        else none
      match standIn? with
      | some kind =>
        skip
        let w ← readFragments room p.inBraces
        skip
        return .parameter name (.standIn kind emptyToo w)
      | none =>
        if !emptyToo && (c = '%' || c = '#') then
          skip
          let longest ← passes c
          let w ← readFragments room .braces
          skip
          return .parameter name (.trim (c = '%') longest w)
        else
          if c = '\n' then modify fun s => { s with rest := s.rest.drop 1 }
          readUnknown room p
    | none => complain "Missing '\x7d'"

/-- Reads what makes no sense between braces. -/
def readUnknown : (room : Nat) → Surrounding → Reading Fragment
  | 0, _ => complain "word unexpected"
  | room + 1, p => do
    let _ ← readFragments room p.inBraces
    skip
    return .parameter [] .unknown

/-- Reads the next token, which stands at a spot. -/
def nextToken : (room : Nat) → Spot → Reading Token
  | 0, _ => complain "word unexpected"
  | room + 1, spot => do
    let s ← get
    let t ← match s.pushed with
      | some t =>
        set { s with pushed := none }
        pure t
      | none => cutToken room
    let spot := { spot with isAliased := spot.isAliased || (← get).passesOn }
    modify fun s => { s with passesOn := false }
    match t with
    | .newline =>
      if spot.hasLines then
        readDocuments room (← get).awaited
        nextToken room spot
      else return t
    | .word [.plain cs] =>
      match if spot.isReserved then t.reserved else t with
      | .keyword text => return .keyword text
      | t =>
        if spot.isAliased then
          if ← opens cs then nextToken room spot else return t
        else return t
    | t => return t

/-- Cuts a token out of the text. -/
def cutToken : (room : Nat) → Reading Token
  | 0 => complain "word unexpected"
  | room + 1 => do
    modify fun s =>
      let (line, rest) := dropBlanks (s.rest.length + 1) s.line s.rest
      { s with line, rest }
    closeTexts
    match ← peek with
    | none => return .endOfText
    | some '\n' =>
      skip
      return .newline
    | some '&' =>
      skip
      return .operator (if ← passes '&' then "&&" else "&")
    | some '|' =>
      skip
      return .operator (if ← passes '|' then "||" else "|")
    | some ';' =>
      skip
      return .operator (if ← passes ';' then ";;" else ";")
    | some '(' =>
      skip
      return .operator "("
    | some ')' =>
      skip
      return .operator ")"
    | some c =>
      if c = '<' || c = '>' then cutSending none
      else
        let w ← readFragments room .bare
        let next ← peek
        match w with
        | [.plain [d]] =>
          if isDigit d && (next = some '<' || next = some '>') then
            cutSending (some (valueOf [d]))
          else return .word w
        | _ => return .word w

/-- Cuts the operator of a redirection out of the text. -/
def cutSending (stream : Option Nat) : Reading Token := do
  if ← passes '>' then
    if ← passes '>' then return .redirection (stream.getD 1) (.file .append)
    else if ← passes '&' then return .redirection (stream.getD 1) .stream
    else
      return .redirection (stream.getD 1) (.file (if ← passes '|' then .replace else .write))
  else
    skip
    if ← passes '<' then
      return .redirection (stream.getD 0) (.document (← passes '-'))
    else if ← passes '&' then return .redirection (stream.getD 0) .stream
    else if ← passes '>' then return .redirection (stream.getD 0) (.file .both)
    else return .redirection (stream.getD 0) (.file .read)

/-- Reads the documents that begin here. -/
def readDocuments : (room : Nat) → List Awaited → Reading Unit
  | _, [] => modify fun s => { s with awaited := [] }
  | 0, _ => complain "word unexpected"
  | room + 1, a :: as => do
    let s ← get
    let (text, rest, lines) := takeDocument a.mark a.stripsTabs (s.rest.length + 1) s.rest
    let w ← if a.isLiteral then pure [Fragment.literal text]
      else do
        set { s with rest := text, pushed := none, awaited := [], opened := [] }
        pure [Fragment.quoted (← readFragments room .document)]
    modify fun inner => { inner with
      rest
      line := s.line + lines
      pushed := s.pushed
      opened := s.opened
      documents := (a.id, w) :: inner.documents }
    readDocuments room as

/-- Reads a list of commands after those read so far. A list may go over line ends, or ends at
one; what ends a list of commands may come at once only if the list may be empty. -/
def readList : (room : Nat) → (lines mayEnd : Bool) → (sofar : Option Command) →
    Reading (Option Command)
  | 0, _, _, _ => complain "word unexpected"
  | room + 1, lines, mayEnd, sofar => do
    match ← nextToken room { Spot.start with hasLines := lines } with
    | .newline =>
      readDocuments room (← get).awaited
      return sofar
    | .endOfText =>
      readDocuments room (← get).awaited
      putBack .endOfText
      return sofar
    | t =>
      putBack t
      if lines && mayEnd && t.endsList then return sofar
      else
        let line := (← get).line
        let c ← readChain room
        let t ← nextToken room .inside
        let (c, goesOn) := match t with
          | .operator "&" => (Command.background line c, true)
          | .operator ";" => (c, true)
          | _ => (c, false)
        let sofar := match sofar with
          | none => c
          | some first => .sequence first c
        if goesOn then readList room lines true (some sofar)
        else
          match t with
          | .newline | .endOfText =>
            putBack t
            readList room lines true (some sofar)
          | t =>
            if !lines then refuse t
            putBack t
            return some sofar

/-- Reads commands that have to be there. If the script ends before them, the token that is
missed behind them is complained of. -/
def readBody : (room : Nat) → Reading Command
  | 0 => complain "word unexpected"
  | room + 1 => do return (← readList room true false none).getD (.simple 0 [] [] [])

/-- Reads commands joined by success and failure. -/
def readChain : (room : Nat) → Reading Command
  | 0 => complain "word unexpected"
  | room + 1 => do
    let c ← readPipeline room false
    readChainRest room c

/-- Reads what is joined to a command. -/
def readChainRest : (room : Nat) → Command → Reading Command
  | 0, _ => complain "word unexpected"
  | room + 1, c => do
    match ← nextToken room .inside with
    | .operator "&&" => readChainRest room (.both c (← readPipeline room true))
    | .operator "||" => readChainRest room (.either c (← readPipeline room true))
    | t =>
      putBack t
      return c

/-- Reads a pipeline, which may begin on a later line. -/
def readPipeline : (room : Nat) → (skipsLines : Bool) → Reading Command
  | 0, _ => complain "word unexpected"
  | room + 1, skipsLines => do
    let t ← nextToken room { Spot.start with hasLines := skipsLines }
    let isNegated := match t with
      | .keyword "!" => true
      | _ => false
    let first ← if isNegated then nextToken room .start else pure t
    let c ← readStages room [← readCommand room first]
    return if isNegated then .negated c else c

/-- Reads the further stages of a pipeline. -/
def readStages : (room : Nat) → List Command → Reading Command
  | 0, _ => complain "word unexpected"
  | room + 1, stages => do
    match ← nextToken room .inside with
    | .operator "|" =>
      let t ← nextToken room .laterStart
      readStages room (stages ++ [← readCommand room t])
    | t =>
      putBack t
      match stages with
      | [c] => return c
      | cs => return .pipeline cs

/-- Reads a command by its first token. -/
def readCommand : (room : Nat) → Token → Reading Command
  | 0, _ => complain "word unexpected"
  | room + 1, t => do
    let line := (← get).line
    match t with
    | .keyword "if" => readRedirected room line (← readBranch room)
    | .keyword "while" => readRedirected room line (← readLoop room true)
    | .keyword "until" => readRedirected room line (← readLoop room false)
    | .keyword "for" => readRedirected room line (← readEach room line)
    | .keyword "case" =>
      match ← nextToken room .inside with
      | .word subject =>
        match ← nextToken room .laterStart with
        | .keyword "in" => readRedirected room line (.select line subject (← readArms room))
        | t => refuseFor t "in"
      | t => complain (t.name ++ " unexpected (expecting word)")
    | .keyword "\x7b" =>
      let body ← readBody room
      match ← nextToken room .inside with
      | .keyword "\x7d" => readRedirected room line body
      | t => refuseFor t "\x7d"
    | .operator "(" =>
      let body ← readBody room
      match ← nextToken room .inside with
      | .operator ")" => return .subshell line body (← readRedirections room)
      | t => refuseFor t ")"
    | .word _ | .redirection _ _ =>
      putBack t
      readSimple room line [] [] []
    | t => refuse t

/-- Reads redirections behind a command. -/
def readRedirected : (room : Nat) → (line : Nat) → Command → Reading Command
  | 0, _, _ => complain "word unexpected"
  | room + 1, line, c => do
    match ← readRedirections room with
    | [] => return c
    | rs => return .redirected line c rs

/-- Reads redirections as long as there are any. -/
def readRedirections : (room : Nat) → Reading (List Redirection)
  | 0 => complain "word unexpected"
  | room + 1 => do
    match ← nextToken room .start with
    | .redirection stream sending =>
      let r ← readTarget room stream sending
      return r :: (← readRedirections room)
    | t =>
      putBack t
      return []

/-- Reads where a redirection leads. -/
def readTarget : (room : Nat) → (stream : Nat) → Sending → Reading Redirection
  | 0, _, _ => complain "word unexpected"
  | room + 1, stream, sending => do
    match ← nextToken room .inside with
    | .word w =>
      match sending with
      | .file use => return .file stream use w
      | .stream => return .stream stream w
      | .document stripsTabs =>
        let (mark, isLiteral) := markOf w
        modify fun s => { s with
          nextDocument := s.nextDocument + 1
          awaited := s.awaited ++ [⟨s.nextDocument, mark, isLiteral, stripsTabs⟩] }
        return .document stream ((← get).nextDocument - 1)
    | t => refuse t

/-- Reads the rest of a simple command, or of the definition of a function. -/
def readSimple : (room : Nat) → (line : Nat) → List (List Char × Word) → List Word →
    List Redirection → Reading Command
  | 0, _, _, _, _ => complain "word unexpected"
  | room + 1, line, assignments, words, redirections => do
    match ← nextToken room (if words.isEmpty then .name else .inside) with
    | .word w =>
      match assignment? w, words with
      | some a, [] => readSimple room line (assignments ++ [a]) words redirections
      | _, _ => readSimple room line assignments (words ++ [w]) redirections
    | .redirection stream sending =>
      let r ← readTarget room stream sending
      readSimple room line assignments words (redirections ++ [r])
    | t =>
      match t, assignments, words, redirections with
      | .operator "(", [], [w], [] =>
        match ← nextToken room .inside with
        | .operator ")" =>
          match w with
          | [.plain name] =>
            if !isName name || specialBuiltins.any (·.toList = name) then
              complain "Bad function name"
            let t ← nextToken room .laterStart
            let line := (← get).line
            return .define line name (← readCommand room t)
          | _ => complain "Bad function name"
        | t => refuseFor t ")"
      | t, _, _, _ =>
        putBack t
        return .simple line assignments words redirections

/-- Reads a conditional behind its first word. -/
def readBranch : (room : Nat) → Reading Command
  | 0 => complain "word unexpected"
  | room + 1 => do
    let condition ← readBody room
    match ← nextToken room .inside with
    | .keyword "then" =>
      let yes ← readBody room
      match ← nextToken room .inside with
      | .keyword "elif" => return .branch condition yes (some (← readBranch room))
      | .keyword "else" =>
        let no ← readBody room
        match ← nextToken room .inside with
        | .keyword "fi" => return .branch condition yes (some no)
        | t => refuseFor t "fi"
      | .keyword "fi" => return .branch condition yes none
      | t => refuseFor t "fi"
    | t => refuseFor t "then"

/-- Reads a loop behind its first word. -/
def readLoop : (room : Nat) → (whileTrue : Bool) → Reading Command
  | 0, _ => complain "word unexpected"
  | room + 1, whileTrue => do
    let condition ← readBody room
    match ← nextToken room .inside with
    | .keyword "do" => return .loop whileTrue condition (← readDone room)
    | t => refuseFor t "do"

/-- Reads the body of a loop up to its last word. -/
def readDone : (room : Nat) → Reading Command
  | 0 => complain "word unexpected"
  | room + 1 => do
    let body ← readBody room
    match ← nextToken room .inside with
    | .keyword "done" => return body
    | t => refuseFor t "done"

/-- Reads a loop over fields behind its first word. -/
def readEach : (room : Nat) → (line : Nat) → Reading Command
  | 0, _ => complain "word unexpected"
  | room + 1, line => do
    match ← nextToken room .inside with
    | .word [.plain name] =>
      if !isName name then complain "Bad for loop variable"
      let words ← match ← nextToken room .laterStart with
        | .keyword "in" => readFields room
        | .operator ";" => pure [allArguments]
        | t => do
          putBack t
          pure [allArguments]
      match ← nextToken room .laterStart with
      | .keyword "do" => return .each line name words (← readDone room)
      | t => refuseFor t "do"
    | _ => complain "Bad for loop variable"

/-- Reads words up to the end of a line or a semicolon. -/
def readFields : (room : Nat) → Reading (List Word)
  | 0 => complain "word unexpected"
  | room + 1 => do
    match ← nextToken room .inside with
    | .word w => return w :: (← readFields room)
    | .newline =>
      readDocuments room (← get).awaited
      return []
    | .operator ";" => return []
    | t => refuse t

/-- Reads the arms of a selection up to its last word. -/
def readArms : (room : Nat) → Reading (List (List Word × Option Command))
  | 0 => complain "word unexpected"
  | room + 1 => do
    match ← nextToken room .arm with
    | .keyword "esac" => return []
    | t =>
      let t ← match t with
        | .operator "(" => nextToken room .inside
        | t => pure t
      let patterns ← readPatterns room t
      let body ← readList room true true none
      match ← nextToken room .arm with
      | .keyword "esac" => return [(patterns, body)]
      | .operator ";;" => return (patterns, body) :: (← readArms room)
      | t => refuseFor t ";;"

/-- Reads patterns up to the closing parenthesis. -/
def readPatterns : (room : Nat) → Token → Reading (List Word)
  | 0, _ => complain "word unexpected"
  | room + 1, t => do
    let w ← match t with
      | .word w => pure w
      | .keyword text => pure [Fragment.plain text.toList]
      | t => refuseFor t ")"
    match ← nextToken room .inside with
    | .operator "|" => return w :: (← readPatterns room (← nextToken room .inside))
    | .operator ")" => return [w]
    | t => refuseFor t ")"

end

/-- Reads a text that is expanded like a document. -/
def readAsDocument (text : List Char) : Except SyntaxFault Word := do
  let (w, _) ← (readFragments (16 * text.length + 64) .document).run (Reader.ofText text 1 0)
  return [.quoted w]

/-- What a reader finds on a line. -/
inductive Item where
  /-- The end of the script. -/
  | over
  /-- A command, or nothing. -/
  | line (c : Option Command)

/-- Reads the commands on the next line of a script. -/
def readItem : Reading Item := do
  let s ← get
  let opened := (s.aliases.map (·.2.length + 1)).sum
  let room := (16 * s.rest.length + 64) * (opened + 1) ^ 2
  modify fun s => { s with pushed := none }
  match ← readList room false false none with
  | some c => return .line (some c)
  | none =>
    match (← get).pushed with
    | some .endOfText => return .over
    | _ => return .line none

end ParserConformance.Script
