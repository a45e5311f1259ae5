import ParserConformance.Script.Arithmetic
import ParserConformance.Script.Tool.Regex

/-!
# Reading basic and extended regular expressions

The two languages in which text tools write regular expressions: in the basic one, parentheses,
braces and bars are operators behind a backslash, in the extended one without it. Tools differ
in what they make of operators that have nothing to work on.
-/

namespace ParserConformance.Script.Tool.Regex

/-- What a repetition is that has nothing to repeat. -/
inductive Leading where
  /-- A character like others. -/
  | literal
  /-- Nothing. -/
  | ignored
  /-- A fault. -/
  | refused
  deriving DecidableEq, Repr

/-- How an expression is read. -/
structure Flavor where
  /-- Whether operators need no backslash. -/
  isExtended : Bool := false
  /-- What a repetition is that has nothing to repeat. -/
  leading : Leading := .literal
  /-- Whether operators that make no sense are refused instead of taken as they are. -/
  isStrict : Bool := false
  /-- Whether a backslash makes control characters of letters and bytes of numbers. -/
  hasControls : Bool := false
  /-- Whether a backslash means in brackets what it means outside. -/
  escapesInBrackets : Bool := false
  /-- Whether there are references to groups and places in words. -/
  hasReferences : Bool := true
  /-- Whether the case of letters makes no difference. -/
  ignoresCase : Bool := false
  /-- Whether each line of a text has a start and an end of its own. -/
  isMultiline : Bool := false
  /-- Whether a point and a set of all but some characters leave out the ends of lines. -/
  staysInLine : Bool := false

namespace Flavor

/-- Basic expressions. -/
def basic : Flavor := {}

/-- Extended expressions. -/
def extended : Flavor := { isExtended := true, leading := .ignored }

/-- One character. -/
def exactly (f : Flavor) (c : Char) : Regex := Regex.exactly f.ignoresCase c

/-- One of some characters, or any other one. -/
def set (f : Flavor) (isNegated : Bool) (ranges : List (Char × Char)) : Regex :=
  ofRanges f.ignoresCase isNegated
    (if isNegated && f.staysInLine then ('\n', '\n') :: ranges else ranges)

end Flavor

/-- A part of an expression before it is put together. -/
inductive Part where
  /-- An expression of its own. -/
  | atom (r : Regex)
  /-- A repetition of what stands before. -/
  | repetition (least : Nat) (most : Option Nat)
  /-- An opening parenthesis. -/
  | opening
  /-- A closing parenthesis. -/
  | closing
  /-- A bar. -/
  | bar

/-- The greatest number of repetitions. -/
def repetitionLimit : Nat := 32767

/-! ### Escapes -/

/-- The control character that a letter makes. -/
def control? (c : Char) : Option Char :=
  match c with
  | 'a' => some '\x07'
  | 'f' => some '\x0c'
  | 'n' => some '\n'
  | 'r' => some '\r'
  | 't' => some '\t'
  | 'v' => some '\x0b'
  | _ => none

/-- The byte that a letter and digits behind it make, and what comes after them. -/
def numberedChar? : List Char → Option (Char × List Char)
  | c :: cs =>
    let digits (base width : Nat) : Option (Char × List Char) :=
      let ds := (cs.take width).takeWhile (isDigitOf base)
      if ds.isEmpty then none
      else some (Char.ofNat (valueIn base ds % 256), cs.drop ds.length)
    match c with
    | 'd' => digits 10 3
    | 'o' => digits 8 3
    | 'x' => digits 16 2
    | 'c' => match cs with
      | d :: rest => some (Char.ofNat (d.toUpper.toNat ^^^ 64), rest)
      | [] => none
    | _ => none
  | [] => none

/-- The character that what follows on a backslash makes, and what comes after it. -/
def controlAt? (cs : List Char) : Option (Char × List Char) :=
  match cs with
  | c :: rest => ((control? c).map (·, rest)).or (numberedChar? cs)
  | [] => none

/-- The atom that a backslash and a character make, if they make one. -/
def escaped? (f : Flavor) (c : Char) : Option Regex :=
  match c with
  | 'w' => some (f.set false wordRanges)
  | 'W' => some (f.set true wordRanges)
  | 's' => some (f.set false spaceRanges)
  | 'S' => some (f.set true spaceRanges)
  | 'b' => some (.anchor .edge)
  | 'B' => some (.anchor .noEdge)
  | '<' => some (.anchor .wordStart)
  | '>' => some (.anchor .wordEnd)
  | '`' => some (.anchor .textStart)
  | '\'' => some (.anchor .textEnd)
  | _ => if '1' ≤ c && c ≤ '9' then some (.back f.ignoresCase (c.toNat - '0'.toNat)) else none

/-! ### Bounds -/

/-- The bounds between braces, and what comes after them. -/
def bounds (closing : List Char) (cs : List Char) : Except Fault (Part × List Char) := do
  let low := cs.takeWhile isDigit
  let rest := cs.drop low.length
  let (high, rest) := match rest with
    | ',' :: more => (some (more.takeWhile isDigit), more.dropWhile isDigit)
    | rest => (none, rest)
  if !rest.contains '\x7d' then throw .unmatchedBrace
  if !closing.isPrefixOf rest || (low.isEmpty && high.isNone) then throw .badBounds
  let most : Option Nat := match high with
    | none => some (valueOf low)
    | some [] => none
    | some ds => some (valueOf ds)
  if most.any (· < valueOf low) then throw .badBounds
  if repetitionLimit < max (valueOf low) (most.getD 0) then throw .tooBig
  return (.repetition (valueOf low) most, rest.drop closing.length)

/-! ### Brackets -/

/-- The text up to a character and a closing bracket, and what comes after them. -/
def upToBracket? (mark : Char) (cs : List Char) : Option (List Char × List Char) :=
  match cs with
  | c :: ']' :: rest =>
    if c = mark then some ([], rest)
    else (upToBracket? mark (']' :: rest)).map fun (text, rest) => (c :: text, rest)
  | c :: cs => (upToBracket? mark cs).map fun (text, rest) => (c :: text, rest)
  | [] => none

/-- A member of a set: the character that it stands for, if that can begin or end a range, and
its ranges. -/
structure Member where
  /-- The character, if it is one. -/
  char : Option Char
  /-- The ranges. -/
  ranges : List (Char × Char)

/-- A member that is one character. -/
def Member.ofChar (c : Char) : Member := ⟨some c, [(c, c)]⟩

/-- The member at the start of a text, and what comes after it. -/
def member (f : Flavor) : List Char → Except Fault (Member × List Char)
  | [] => .error .unmatchedBracket
  | '[' :: ':' :: cs =>
    match upToBracket? ':' cs with
    | some (name, rest) =>
      match classRanges? name with
      | some ranges => .ok (⟨none, ranges⟩, rest)
      | none => .error .badClass
    | none => .error .unmatchedBracket
  | '[' :: mark :: cs =>
    if mark = '=' || mark = '.' then
      match upToBracket? mark cs with
      | some ([c], rest) => .ok (.ofChar c, rest)
      | some _ => .error .badName
      | none => .error .unmatchedBracket
    else .ok (.ofChar '[', mark :: cs)
  | '\\' :: cs =>
    let plain : Except Fault (Member × List Char) := .ok (.ofChar '\\', cs)
    match (if f.hasControls then controlAt? cs else none) with
    | some (c, rest) => .ok (.ofChar c, rest)
    | none =>
      if f.escapesInBrackets then
        match cs with
        | c :: rest => .ok (.ofChar c, rest)
        | [] => plain
      else plain
  | c :: cs => .ok (.ofChar c, cs)

/-- The ranges of the members up to the closing bracket, and what comes after that. -/
def members (f : Flavor) : (room : Nat) → (isFirst : Bool) → List Char →
    Except Fault (List (Char × Char) × List Char)
  | 0, _, _ => .error .unmatchedBracket
  | room + 1, isFirst, cs => do
    match cs with
    | [] => throw .unmatchedBracket
    | c :: rest =>
      if c = ']' && !isFirst then return ([], rest)
      let (m, rest) ← member f cs
      match rest with
      | '-' :: ']' :: _ | '-' :: [] =>
        let (more, rest) ← members f room false rest
        return (m.ranges ++ more, rest)
      | '-' :: after =>
        match m.char with
        | none =>
          let (more, rest) ← members f room false rest
          return (m.ranges ++ more, rest)
        | some a =>
          let (last, rest) ← member f after
          match last.char with
          | none => throw .badRange
          | some b =>
            if b < a then throw .badRange
            let (more, rest) ← members f room false rest
            return ((a, b) :: more, rest)
      | rest =>
        let (more, rest) ← members f room false rest
        return (m.ranges ++ more, rest)

/-- The set behind an opening bracket, and what comes after it. -/
def setAt (f : Flavor) (cs : List Char) : Except Fault (Regex × List Char) := do
  let isNegated := cs.head? = some '^'
  let cs := if isNegated then cs.drop 1 else cs
  if cs.isEmpty then throw .other
  let (ranges, rest) ← members f (cs.length + 1) true cs
  return (f.set isNegated ranges, rest)

/-! ### Parts -/

/-- The parts of an expression. `begins` says whether nothing stands before that could be
repeated. -/
def parts (f : Flavor) : (room : Nat) → (begins : Bool) → List Char → Except Fault (List Part)
  | 0, _, _ => .error .other
  | _ + 1, _, [] => .ok []
  | room + 1, begins, c :: cs =>
    let put (p : Part) (begins : Bool) (rest : List Char) : Except Fault (List Part) := do
      return p :: (← parts f room begins rest)
    let plain : Except Fault (List Part) := put (.atom (f.exactly c)) false cs
    let repetition (least : Nat) (most : Option Nat) (rest : List Char) :
        Except Fault (List Part) :=
      if !begins then put (.repetition least most) false rest
      else
        match f.leading with
        | .literal => plain
        | .ignored => put (.atom .nothing) false rest
        | .refused => .error .badRepetition
    let braces (closing rest : List Char) : Except Fault (List Part) :=
      match bounds closing rest with
      | .ok (.repetition least most, rest) =>
        if begins && f.leading = .literal then .error .badRepetition
        else repetition least most rest
      | .ok (_, _) => plain
      | .error fault =>
        if f.isExtended && !f.isStrict && (fault = .unmatchedBrace || !endsWell rest) then plain
        else .error fault
    let start : Regex := .anchor (if f.isMultiline then .lineStart else .textStart)
    let stop : Regex := .anchor (if f.isMultiline then .lineEnd else .textEnd)
    if c = '\\' then
      match cs with
      | [] => .error .trailingBackslash
      | e :: rest =>
        if !f.isExtended && e = '(' then put .opening true rest
        else if !f.isExtended && e = ')' then put .closing false rest
        else if !f.isExtended && e = '|' then put .bar true rest
        else if !f.isExtended && e = '\x7b' then braces ['\\', '\x7d'] rest
        else if !f.isExtended && !begins && (e = '+' || e = '?') then
          put (.repetition (if e = '+' then 1 else 0) (if e = '+' then none else some 1)) false
            rest
        else
          match (if f.hasControls then controlAt? cs else none),
              (if f.hasReferences then escaped? f e else none) with
          | some (d, rest), _ => put (.atom (f.exactly d)) false rest
          | none, some r => put (.atom r) (match r with
              | .anchor _ => begins
              | _ => false) rest
          | none, none => put (.atom (f.exactly e)) false rest
    else if c = '.' then put (.atom (if f.staysInLine then anyInLine else any)) false cs
    else if c = '[' then do
      let (r, rest) ← setAt f cs
      put (.atom r) false rest
    else if c = '*' then repetition 0 none cs
    else if c = '^' then
      if f.isExtended || begins then put (.atom start) true cs else plain
    else if c = '$' then
      let isLast := f.isExtended || cs.isEmpty || ["\\)", "\\|"].any (·.toList.isPrefixOf cs)
      if isLast then put (.atom stop) false cs else plain
    else if f.isExtended && c = '(' then put .opening true cs
    else if f.isExtended && c = ')' then put .closing false cs
    else if f.isExtended && c = '|' then put .bar true cs
    else if f.isExtended && c = '+' then repetition 1 none cs
    else if f.isExtended && c = '?' then repetition 0 (some 1) cs
    else if f.isExtended && c = '\x7b' then braces ['\x7d'] cs
    else plain
where
  /-- Whether braces close behind digits and commas. -/
  endsWell (cs : List Char) : Bool :=
    (cs.dropWhile fun c => isDigit c || c = ',').head? = some '\x7d' &&
      (cs.takeWhile (· ≠ '\x7d')).any isDigit

/-! ### Putting parts together -/

/-- The alternatives that parts make up to the parenthesis that closes them, with what comes
after it and the number of groups so far. -/
def build (f : Flavor) : (room : Nat) → (groups : Nat) → (isInner : Bool) → (sofar : Regex) →
    (last : Option Regex) → List Part → Except Fault (Regex × List Part × Nat)
  | 0, _, _, _, _, _ => .error .other
  | room + 1, groups, isInner, sofar, last, ps => do
    let whole : Regex := match last with
      | none => sofar
      | some r => then' sofar r
    match ps with
    | [] => if isInner then throw .unmatchedOpening else return (whole, [], groups)
    | .atom (.back ignoresCase n) :: ps =>
      if groups < n then throw .badReference
      build f room groups isInner whole (some (.back ignoresCase n)) ps
    | .atom r :: ps => build f room groups isInner whole (some r) ps
    | .repetition least most :: ps =>
      match last with
      | some (.times a b greed r) =>
        if f.isStrict && !f.isExtended then throw .badRepetition
        build f room groups isInner sofar (some (.times least most .greedy
          (.times a b greed r))) ps
      | last =>
        build f room groups isInner sofar
          (some (.times least most .greedy (last.getD .nothing))) ps
    | .bar :: ps =>
      let (other, ps, groups) ← build f room groups isInner .nothing none ps
      return (.either whole other, ps, groups)
    | .opening :: ps =>
      let n := groups + 1
      let (inner, ps, groups) ← build f room n true .nothing none ps
      build f room groups isInner whole (some (.group n inner)) ps
    | .closing :: ps =>
      if isInner then return (whole, ps, groups)
      else if f.isExtended && !f.isStrict then
        build f room groups isInner whole (some (f.exactly ')')) ps
      else throw .unmatchedClosing

/-- Reads a regular expression. -/
def read (f : Flavor) (cs : List Char) : Except Fault Regex := do
  let ps ← parts f (cs.length + 1) true cs
  let (r, _, _) ← build f (2 * ps.length + 2) 0 false .nothing none ps
  return r

end ParserConformance.Script.Tool.Regex
