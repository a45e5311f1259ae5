import ParserConformance.Script.Tool.Regex.Reader

/-!
# Reading Perl expressions

The language of regular expressions with short names for classes, lazy and possessive
repetitions, groups with names or without a number, and places behind or before which something
matches.
-/

namespace ParserConformance.Script.Tool.Regex.Perl

/-- What changes the meaning of what follows up to the end of a group. -/
structure Switches where
  /-- Whether the case of letters makes no difference. -/
  ignoresCase : Bool := false
  /-- Whether each line has a start and an end of its own. -/
  isMultiline : Bool := false
  /-- Whether a point matches the end of a line too. -/
  pointsAtAll : Bool := false
  /-- Whether blanks and comments count for nothing. -/
  isSpaced : Bool := false
  deriving DecidableEq, Repr

/-- An expression that is being read. -/
structure State where
  /-- What is left of it. -/
  rest : List Char
  /-- The number of groups so far. -/
  groups : Nat
  /-- The names of groups. -/
  names : List (List Char × Nat)
  /-- What holds at this place. -/
  switches : Switches

/-- A step of reading. -/
abbrev Reading := StateT State (Except Fault)

/-- The next character. -/
def peek : Reading (Option Char) := do return (← get).rest.head?

/-- Passes over characters. -/
def skip (n : Nat) : Reading Unit := modify fun s => { s with rest := s.rest.drop n }

/-- Passes over a text if it comes next. -/
def passes (text : String) : Reading Bool := do
  let s ← get
  if text.toList.isPrefixOf s.rest then
    skip text.length
    return true
  else return false

/-- Takes the text up to a character, and passes over that. -/
def upTo (stop : Char) : Reading (List Char) := do
  let s ← get
  let text := s.rest.takeWhile (· ≠ stop)
  if (s.rest.drop text.length).isEmpty then throw .other
  skip (text.length + 1)
  return text

/-- The ranges of digits. -/
def digitRanges : List (Char × Char) := [('0', '9')]

/-- The ranges of blanks in a line. -/
def blankRanges : List (Char × Char) := [(' ', ' '), ('\t', '\t')]

/-- The ranges of ends of lines. -/
def breakRanges : List (Char × Char) := [('\n', '\r')]

/-- The set that a letter behind a backslash names: whether it is turned around, and its
ranges. -/
def shorthand? (c : Char) : Option (Bool × List (Char × Char)) :=
  match c with
  | 'd' => some (false, digitRanges)
  | 'D' => some (true, digitRanges)
  | 'w' => some (false, wordRanges)
  | 'W' => some (true, wordRanges)
  | 's' => some (false, spaceRanges)
  | 'S' => some (true, spaceRanges)
  | 'h' => some (false, blankRanges)
  | 'H' => some (true, blankRanges)
  | 'v' => some (false, breakRanges)
  | 'V' => some (true, breakRanges)
  | 'N' => some (true, [('\n', '\n')])
  | _ => none

/-- The ranges of all characters that ranges leave out. -/
def otherRanges (ranges : List (Char × Char)) : List (Char × Char) :=
  ((List.range 256).map Char.ofNat).filterMap fun c =>
    if ranges.any fun (a, b) => a ≤ c && c ≤ b then none else some (c, c)

/-- Takes the character that what follows on a backslash stands for, if it is one. -/
def literal? : Reading (Option Char) := do
  let s ← get
  match s.rest with
  | 'n' :: _ => skip 1; return some '\n'
  | 't' :: _ => skip 1; return some '\t'
  | 'r' :: _ => skip 1; return some '\r'
  | 'f' :: _ => skip 1; return some '\x0c'
  | 'a' :: _ => skip 1; return some '\x07'
  | 'e' :: _ => skip 1; return some '\x1b'
  | 'x' :: '\x7b' :: _ =>
    skip 2
    let ds ← upTo '\x7d'
    return some (Char.ofNat (valueIn 16 ds))
  | 'x' :: more =>
    let ds := (more.take 2).takeWhile (isDigitOf 16)
    skip (1 + ds.length)
    return some (Char.ofNat (valueIn 16 ds))
  | '0' :: more =>
    let ds := (more.take 2).takeWhile (isDigitOf 8)
    skip (1 + ds.length)
    return some (Char.ofNat (valueIn 8 ds))
  | 'c' :: d :: _ => skip 2; return some (Char.ofNat (d.toUpper.toNat ^^^ 64))
  | c :: _ =>
    if c.isAlphanum then return none
    else
      skip 1
      return some c
  | [] => throw .trailingBackslash

/-- Takes a member of a set. -/
def member : Reading Member := do
  match (← get).rest with
  | [] => throw .unmatchedBracket
  | '[' :: ':' :: cs =>
    let isNegated := cs.head? = some '^'
    match upToBracket? ':' (if isNegated then cs.drop 1 else cs) with
    | some (name, rest) =>
      modify fun s => { s with rest }
      let ranges? := if name = "word".toList then some wordRanges else classRanges? name
      match ranges? with
      | some ranges => return ⟨none, if isNegated then otherRanges ranges else ranges⟩
      | none => throw .badClass
    | none =>
      skip 1
      return .ofChar '['
  | '\\' :: cs =>
    skip 1
    match cs.head?.bind shorthand? with
    | some (isNegated, ranges) =>
      skip 1
      return ⟨none, if isNegated then otherRanges ranges else ranges⟩
    | none =>
      if ← passes "b" then return .ofChar '\x08'
      match ← literal? with
      | some c => return .ofChar c
      | none =>
        let c := (← peek).getD '\\'
        skip 1
        return .ofChar c
  | c :: _ =>
    skip 1
    return .ofChar c

/-- Takes the members of a set up to its closing bracket. -/
def members : (room : Nat) → (isFirst : Bool) → Reading (List (Char × Char))
  | 0, _ => throw .unmatchedBracket
  | room + 1, isFirst => do
    if (← peek) = some ']' && !isFirst then
      skip 1
      return []
    let m ← member
    match (← get).rest, m.char with
    | '-' :: d :: _, some a =>
      if d = ']' then return m.ranges ++ (← members room false)
      skip 1
      let last ← member
      match last.char with
      | none => return m.ranges ++ ('-', '-') :: last.ranges ++ (← members room false)
      | some b =>
        if b < a then throw .badRange
        return (a, b) :: (← members room false)
    | _, _ => return m.ranges ++ (← members room false)

/-- Takes the set behind an opening bracket. -/
def bracket : Reading Regex := do
  let isNegated ← passes "^"
  let s ← get
  let ranges ← members (s.rest.length + 1) true
  return ofRanges s.switches.ignoresCase isNegated ranges

/-- Takes how often something is repeated, if that follows. -/
def repetition? : Reading (Option (Nat × Option Nat × Greed)) := do
  let found : Option (Nat × Option Nat) ←
    if ← passes "*" then pure (some (0, none))
    else if ← passes "+" then pure (some (1, none))
    else if ← passes "?" then pure (some (0, some 1))
    else
      match (← get).rest with
      | '\x7b' :: cs =>
        match bounds ['\x7d'] cs with
        | .ok (.repetition least most, rest) =>
          if (cs.head?.any isDigit) then
            modify fun s => { s with rest }
            pure (some (least, most))
          else pure none
        | _ => pure none
      | _ => pure none
  match found with
  | none => return none
  | some (least, most) =>
    let greed : Greed ← if ← passes "?" then pure .lazy
      else if ← passes "+" then pure .possessive
      else pure .greedy
    return some (least, most, greed)

/-- Takes switches up to the colon or parenthesis behind them. -/
def switches : (room : Nat) → (isOn : Bool) → Switches → Reading Switches
  | 0, _, s => return s
  | room + 1, isOn, s => do
    match ← peek with
    | some 'i' => skip 1; switches room isOn { s with ignoresCase := isOn }
    | some 'm' => skip 1; switches room isOn { s with isMultiline := isOn }
    | some 's' => skip 1; switches room isOn { s with pointsAtAll := isOn }
    | some 'x' => skip 1; switches room isOn { s with isSpaced := isOn }
    | some '-' => skip 1; switches room false s
    | some '^' => skip 1; switches room isOn {}
    | _ => return s

/-- Takes a reference to a group by number or name. -/
def reference : Reading Regex := do
  let s ← get
  let named (name : List Char) : Reading Regex := do
    match natural? name, s.names.lookup name with
    | some n, _ | none, some n => return .back s.switches.ignoresCase n
    | none, none =>
      match name with
      | '-' :: ds => return .back s.switches.ignoresCase (s.groups + 1 - valueOf ds)
      | _ => throw .badReference
  if ← passes "\x7b" then named (← upTo '\x7d')
  else if ← passes "<" then named (← upTo '>')
  else if ← passes "'" then named (← upTo '\'')
  else
    let ds := s.rest.takeWhile isDigit
    skip ds.length
    named ds
where
  /-- The number that digits write. -/
  natural? (cs : List Char) : Option Nat :=
    if cs.isEmpty || !cs.all isDigit then none else some (valueOf cs)

/-- Takes what a backslash begins. -/
def escape : Reading Regex := do
  let s ← get
  let ignoresCase := s.switches.ignoresCase
  match s.rest with
  | [] => throw .trailingBackslash
  | c :: _ =>
    let put (r : Regex) : Reading Regex := do
      skip 1
      return r
    match shorthand? c with
    | some (isNegated, ranges) => put (ofRanges false isNegated ranges)
    | none =>
      match c with
      | 'b' => put (.anchor .edge)
      | 'B' => put (.anchor .noEdge)
      | 'A' => put (.anchor .textStart)
      | 'z' => put (.anchor .textEnd)
      | 'Z' => put (.anchor .lastEnd)
      | 'G' => put .nothing
      | 'K' => put .restart
      | 'R' => put (.atomic (.either (ofChars false ['\r', '\n'])
          (.set ⟨false, breakRanges⟩)))
      | 'g' | 'k' =>
        skip 1
        reference
      | 'Q' =>
        skip 1
        let text := quotedText (← get).rest
        skip (text.length + (if ("\\E".toList.isPrefixOf ((← get).rest.drop text.length))
          then 2 else 0))
        return ofChars ignoresCase text
      | 'E' => put .nothing
      | c =>
        if '1' ≤ c && c ≤ '9' then reference
        else
          match ← literal? with
          | some d => return exactly ignoresCase d
          | none => throw .other
where
  /-- The text up to the end of a quotation. -/
  quotedText : List Char → List Char
    | '\\' :: 'E' :: _ => []
    | c :: cs => c :: quotedText cs
    | [] => []

mutual

/-- Takes alternatives up to a closing parenthesis or the end. -/
def alternatives : (room : Nat) → Reading Regex
  | 0 => throw .other
  | room + 1 => do
    let a ← sequence room .nothing
    if ← passes "|" then return .either a (← alternatives room) else return a

/-- Takes one expression after the other, behind those that are read. -/
def sequence : (room : Nat) → Regex → Reading Regex
  | 0, _ => throw .other
  | room + 1, sofar => do
    match ← peek with
    | none | some '|' | some ')' => return sofar
    | some c =>
      let s ← get
      if s.switches.isSpaced && c.isWhitespace then
        skip 1
        sequence room sofar
      else if s.switches.isSpaced && c = '#' then
        skip (s.rest.takeWhile (· ≠ '\n')).length
        sequence room sofar
      else
        let r ← atom room
        let r ← match ← repetition? with
          | some (least, most, greed) => pure (Regex.times least most greed r)
          | none => pure r
        sequence room (then' sofar r)

/-- Takes an expression without a repetition. -/
def atom : (room : Nat) → Reading Regex
  | 0 => throw .other
  | room + 1 => do
    let s ← get
    let w := s.switches
    if ← passes "\\" then escape
    else if ← passes "." then return if w.pointsAtAll then any else anyInLine
    else if ← passes "[" then bracket
    else if ← passes "^" then return .anchor (if w.isMultiline then .lineStart else .textStart)
    else if ← passes "$" then return .anchor (if w.isMultiline then .lineEnd else .lastEnd)
    else if ← passes "(" then
      let close (r : Regex) : Reading Regex := do
        if ← passes ")" then
          modify fun s => { s with switches := w }
          return r
        else throw .unmatchedOpening
      let numbered (name : Option (List Char)) : Reading Regex := do
        let n := (← get).groups + 1
        modify fun s => { s with
          groups := n
          names := (name.map (·, n)).toList ++ s.names }
        let r ← alternatives room
        close (.group n r)
      if ← passes "?#" then
        let _ ← upTo ')'
        return .nothing
      else if ← passes "?:" then close (← alternatives room)
      else if ← passes "?=" then close (.look true false (← alternatives room))
      else if ← passes "?!" then close (.look true true (← alternatives room))
      else if ← passes "?<=" then close (.look false false (← alternatives room))
      else if ← passes "?<!" then close (.look false true (← alternatives room))
      else if ← passes "?>" then close (.atomic (← alternatives room))
      else if ← passes "?|" then close (← alternatives room)
      else if ← passes "?P=" then
        let name ← upTo ')'
        match s.names.lookup name with
        | some n => return .back w.ignoresCase n
        | none => throw .badReference
      else if ← passes "?P<" then numbered (some (← upTo '>'))
      else if ← passes "?<" then numbered (some (← upTo '>'))
      else if ← passes "?'" then numbered (some (← upTo '\''))
      else if ← passes "?" then
        let new ← switches 16 true w
        modify fun s => { s with switches := new }
        if ← passes ")" then return .nothing
        else if ← passes ":" then close (← alternatives room)
        else throw .other
      else numbered none
    else
      match s.rest with
      | c :: _ =>
        if "*+?".toList.contains c then throw .badRepetition
        skip 1
        return exactly w.ignoresCase c
      | [] => return .nothing

end

/-- Reads an expression. -/
def read (ignoresCase : Bool) (cs : List Char) : Except Fault Regex := do
  let start : State := ⟨cs, 0, [], { ignoresCase }⟩
  let (r, s) ← (alternatives (4 * cs.length + 4)).run start
  if s.rest.isEmpty then return r else throw .unmatchedClosing

end ParserConformance.Script.Tool.Regex.Perl
