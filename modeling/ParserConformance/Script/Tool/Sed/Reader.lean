import ParserConformance.Script.Tool.Regex.Reader
import ParserConformance.Script.Tool.Sed.Program

/-!
# Reading programs for the editing of streams

A program is given in pieces, one an argument or a file. Blocks and texts may begin in one piece
and go on in the next.
-/

namespace ParserConformance.Script.Tool.Sed

/-! ### Escapes -/

/-- A text with the characters that letters and numbers behind backslashes stand for. In the text
that stands in for a match they do not mean more than themselves. -/
def withControls (standsIn : Bool) (cs : List Char) : List Char :=
  go (cs.length + 1) cs
where
  /-- Goes on with a text. -/
  go : (room : Nat) → List Char → List Char
    | 0, cs => cs
    | _ + 1, [] => []
    | room + 1, '\\' :: c :: cs =>
      let put (d : Char) (rest : List Char) : List Char :=
        (if standsIn && (d = '&' || d = '\\') then ['\\', d] else [d]) ++ go room rest
      match (if c = 'n' then none else Regex.controlAt? (c :: cs)) with
      | some (d, rest) => put d rest
      | none => '\\' :: c :: go room cs
    | room + 1, c :: cs => c :: go room cs

/-- A text that is put in without the backslashes in it. -/
def withoutBackslashes (cs : List Char) : List Char :=
  go (cs.length + 1) cs
where
  /-- Goes on with a text. -/
  go : (room : Nat) → List Char → List Char
    | 0, cs => cs
    | _ + 1, [] => []
    | room + 1, '\\' :: c :: cs =>
      match Regex.controlAt? (c :: cs) with
      | some (d, rest) => d :: go room rest
      | none => c :: go room cs
    | room + 1, c :: cs => c :: go room cs

/-- The members of a set up to the bracket that closes it, and what comes after it; if there is
none, what is left at the end of the line. -/
def setMembers : (room : Nat) → (isFirst : Bool) → List Char →
    Except (List Char) (List Char × List Char)
  | 0, _, cs => .error cs
  | _ + 1, _, [] => .error []
  | room + 1, isFirst, c :: cs => do
    let goOn (text rest : List Char) : Except (List Char) (List Char × List Char) := do
      let (more, rest) ← setMembers room false rest
      return (text ++ more, rest)
    match c, cs with
    | '\n', _ => throw ('\n' :: cs)
    | ']', _ => if isFirst then goOn [']'] cs else return ([']'], cs)
    | '\\', 'n' :: rest => goOn ['\n'] rest
    | '[', mark :: rest =>
      if mark = ':' || mark = '.' || mark = '=' then
        match Regex.upToBracket? mark rest with
        | some (name, rest) => goOn ('[' :: mark :: name ++ [mark, ']']) rest
        | none => throw (rest.dropWhile (· ≠ '\n'))
      else goOn ['['] cs
    | _, _ => goOn [c] cs

/-- The text up to a delimiter, which may stand in it behind a backslash and, in an expression, in
a set, and what comes after it; if there is none, what is left at the end of the line. -/
def delimited (delimiter : Char) (isRegex : Bool) : (room : Nat) → List Char →
    Except (List Char) (List Char × List Char)
  | 0, cs => .error cs
  | _ + 1, [] => .error []
  | room + 1, c :: cs => do
    let goOn (text rest : List Char) : Except (List Char) (List Char × List Char) := do
      let (more, rest) ← delimited delimiter isRegex room rest
      return (text ++ more, rest)
    if c = '\n' then throw ('\n' :: cs)
    else if c = delimiter then return ([], cs)
    else if c = '\\' then
      match cs with
      | [] => throw []
      | d :: rest =>
        if d = 'n' && isRegex then goOn ['\n'] rest
        else if d ≠ '\n' && (d ≠ delimiter || (!isRegex && d = '&')) then goOn [c, d] rest
        else goOn [d] rest
    else if c = '[' && isRegex then
      let (start, rest) := match cs with
        | '^' :: rest => (['[', '^'], rest)
        | rest => (['['], rest)
      let (members, rest) ← setMembers (rest.length + 1) true rest
      goOn (start ++ members) rest
    else goOn [c] cs

/-- The parts of what stands in for a match. -/
def replacementOf : List Char → List Replacement
  | [] => []
  | [c] => [if c = '&' then .group 0 else .char c]
  | c :: d :: cs =>
    if c = '&' then .group 0 :: replacementOf (d :: cs)
    else if c = '\\' then
      (if isDigit d then .group (d.toNat - '0'.toNat)
        else if d = 'n' then .char '\n'
        else if "LUluE".toList.contains d then .case d
        else .char d) :: replacementOf cs
    else .char c :: replacementOf (d :: cs)

/-- The characters that a side of an exchange lists. -/
def exchangeSide : List Char → List Char
  | [] => []
  | [c] => [c]
  | c :: d :: cs =>
    if c = '\\' then (if d = 'n' then '\n' else d) :: exchangeSide cs
    else c :: exchangeSide (d :: cs)

/-! ### Reading -/

/-- How programs are read. -/
structure Style where
  /-- How expressions are read. -/
  flavor : Regex.Flavor
  /-- Whether lines end with a line's end, and not with a zero byte. -/
  hasLines : Bool
  /-- Whether commands that read and write files are refused. -/
  isGuarded : Bool

/-- A program that is being read. -/
structure Draft where
  /-- The instructions so far. -/
  instructions : Array Instruction
  /-- The numbers of those that begin the blocks that are open, the last one first. -/
  opened : List Nat
  /-- The text of the last instruction, if it may go on in the next piece. -/
  pending : Option (List Char)

/-- Reading a piece: what is left of it, and the program so far. A fault tells how much was
left. -/
abbrev Reading := StateT (List Char × Draft) (Except (Fault × Nat))

namespace Reading

/-- Refuses a program. -/
def refuse {α : Type} (fault : Fault) : Reading α := do throw (fault, (← get).1.length)

/-- What is left. -/
def rest : Reading (List Char) := do return (← get).1

/-- Goes on with another rest. -/
def goOn (cs : List Char) : Reading Unit := modify fun (_, d) => (cs, d)

/-- The next character. -/
def peek : Reading (Option Char) := do return (← rest).head?

/-- Takes the next character. -/
def next : Reading (Option Char) := do
  let cs ← rest
  goOn (cs.drop 1)
  return cs.head?

/-- Passes over blanks. -/
def skipBlanks : Reading Unit := do goOn ((← rest).dropWhile fun c => c = ' ' || c = '\t')

/-- Passes over a character if it is the next one. -/
def passes (c : Char) : Reading Bool := do
  if (← peek) = some c then
    goOn ((← rest).drop 1)
    return true
  else return false

/-- Takes a number, if one comes next. -/
def number? : Reading (Option Nat) := do
  let digits := (← rest).takeWhile isDigit
  goOn ((← rest).drop digits.length)
  return if digits.isEmpty then none else some (valueOf digits)

/-- Takes the text up to a delimiter. -/
def upTo (delimiter : Char) (isRegex : Bool) (what : String) : Reading (List Char) := do
  let cs ← rest
  match delimited delimiter isRegex (cs.length + 1) cs with
  | .ok (text, more) =>
    goOn more
    return text
  | .error more =>
    goOn more
    refuse (.unterminated what)

/-- Reads an expression; an empty one stands for the last one that is used. -/
def regex (style : Style) (ignoresCase isMultiline : Bool) (text : List Char) :
    Reading (Option Regex) :=
  if text.isEmpty then
    if ignoresCase || isMultiline then refuse .modifiedNothing else return none
  else
    let flavor := { style.flavor with
      ignoresCase
      staysInLine := isMultiline
      isMultiline := isMultiline && style.hasLines }
    match Regex.read flavor (withControls false text) with
    | .ok r => return some r
    | .error fault => refuse (.regex fault)

/-! ### Addresses -/

/-- Takes the letters behind an expression that is an address. -/
def addressLetters : (room : Nat) → (ignoresCase isMultiline : Bool) → Reading (Bool × Bool)
  | 0, i, m => return (i, m)
  | room + 1, i, m => do
    skipBlanks
    if ← passes 'I' then addressLetters room true m
    else if ← passes 'M' then addressLetters room i true
    else return (i, m)

/-- Takes an address. -/
def address? (style : Style) : Reading (Option Address) := do
  let counted (f : Nat → Address) : Reading (Option Address) := do
    let _ ← next
    skipBlanks
    match ← number? with
    | some 0 | none => return some (.line 0)
    | some n => return some (f n)
  match ← peek with
  | some '$' =>
    let _ ← next
    return some .last
  | some '/' =>
    let _ ← next
    found '/'
  | some '\\' =>
    let _ ← next
    match ← next with
    | some delimiter => found delimiter
    | none => refuse (.unterminated "address regex")
  | some '+' => counted .further
  | some '~' => counted .multiple
  | _ =>
    match ← number? with
    | none => return none
    | some n =>
      skipBlanks
      if ← passes '~' then
        skipBlanks
        match ← number? with
        | some 0 | none => return some (.line n)
        | some step => return some (.every n step)
      else return some (.line n)
where
  /-- Takes the rest of an address that is an expression. -/
  found (delimiter : Char) : Reading (Option Address) := do
    let text ← upTo delimiter true "address regex"
    let (i, m) ← addressLetters ((← rest).length + 1) false false
    return some (.found (← regex style i m text))

/-- Takes the addresses of an instruction. -/
def addresses (style : Style) : Reading (Option Address × Option Address) := do
  match ← address? style with
  | none => return (none, none)
  | some start =>
    match start with
    | .further _ | .multiple _ => refuse .stepFirst
    | _ => pure ()
    skipBlanks
    let stop ← if ← passes ',' then do
        skipBlanks
        match ← address? style with
        | some stop => pure (some stop)
        | none =>
          let _ ← next
          refuse .unexpectedComma
      else pure none
    skipBlanks
    match start, stop with
    | .line 0, some (.found _) => pure ()
    | .line 0, _ =>
      let _ ← next
      refuse .lineZero
    | _, _ => pure ()
    return (some start, stop)

/-! ### Commands -/

/-- The options of a substitution. -/
structure Options where
  /-- Whether the case of letters makes no difference. -/
  ignoresCase : Bool := false
  /-- Whether each line has a start and an end of its own. -/
  isMultiline : Bool := false
  /-- Whether all matches are replaced. -/
  isGlobal : Bool := false
  /-- Whether the line is printed. -/
  prints : Bool := false
  /-- The first match that is replaced. -/
  first : Option Nat := none
  /-- The file to which the line is written. -/
  file : Option (List Char) := none

/-- Takes the name of a file, which goes up to the end of the line. -/
def fileName (style : Style) : Reading (List Char) := do
  if style.isGuarded then refuse .disallowed
  skipBlanks
  let name := (← rest).takeWhile (· ≠ '\n')
  goOn ((← rest).drop name.length)
  if name.isEmpty then refuse .missingName
  let _ ← next
  return name

/-- Takes the options of a substitution. -/
def substitutionOptions (style : Style) : (room : Nat) → Options → Reading Options
  | 0, o => return o
  | room + 1, o => do
    let again (o : Options) : Reading Options := substitutionOptions style room o
    skipBlanks
    match ← peek with
    | some '\x7d' | some '#' => return o
    | some c =>
      if isDigit c then
        if o.first.isSome then
          let _ ← next
          refuse (.manyOptions "number")
        match ← number? with
        | some 0 => refuse .zeroNumber
        | n => again { o with first := n }
      else
        let _ ← next
        match c with
        | '\n' | ';' => return o
        | 'i' | 'I' => again { o with ignoresCase := true }
        | 'm' | 'M' => again { o with isMultiline := true }
        | 'g' =>
          if o.isGlobal then refuse (.manyOptions "`g'") else again { o with isGlobal := true }
        | 'p' => if o.prints then refuse (.manyOptions "`p'") else again { o with prints := true }
        | 'e' => if style.isGuarded then refuse .disallowed else again o
        | 'w' => return { o with file := some (← fileName style) }
        | '\r' => if (← next) = some '\n' then return o else refuse .unknownOption
        | _ => refuse .unknownOption
    | none => return o

/-- Takes a substitution. -/
def substitution (style : Style) : Reading Action := do
  let what := "`s' command"
  match ← next with
  | none => refuse (.unterminated what)
  | some delimiter =>
    let pattern ← upTo delimiter true what
    let text ← upTo delimiter false what
    let o ← substitutionOptions style ((← rest).length + 1) {}
    let s : Substitution := {
      pattern := ← regex style o.ignoresCase o.isMultiline pattern
      replacement := replacementOf (withControls true text)
      first := o.first.getD 1
      isGlobal := o.isGlobal
      prints := o.prints
      file := o.file }
    match s.pattern with
    | some r => if r.groupCount < s.lastGroup then refuse (.badReference s.lastGroup)
    | none => pure ()
    return .substitute s

/-- Takes an exchange. -/
def exchange : Reading Action := do
  let what := "`y' command"
  match ← next with
  | none => refuse (.unterminated what)
  | some delimiter =>
    let old := exchangeSide (withControls true (← upTo delimiter false what))
    let new := exchangeSide (withControls true (← upTo delimiter false what))
    if old.length ≠ new.length then refuse .differentLengths
    return .exchange (old.zip new)

/-- Takes the lines of a text behind what was read of it before. It goes up to the first end of a
line without a backslash before it, and may go on in the next piece. -/
def textLines (sofar : List Char) : Reading (List Char × Bool) := do
  let (text, more, isPending) := take (← rest)
  goOn more
  return (sofar ++ text, isPending)
where
  /-- The text, what comes after it, and whether it may go on. -/
  take : List Char → List Char × List Char × Bool
    | [] => (['\n'], [], false)
    | '\n' :: cs => (['\n'], cs, false)
    | ['\\'] => (['\n'], [], true)
    | '\\' :: c :: cs =>
      let (text, rest) := take cs
      ('\\' :: c :: text, rest)
    | c :: cs =>
      let (text, rest) := take cs
      (c :: text, rest)

/-- Takes the text behind a command that puts in text, and whether it may go on. -/
def textArgument : Reading (List Char × Bool) := do
  skipBlanks
  match ← next with
  | none => refuse .missingText
  | some '\\' =>
    match ← next with
    | none => return ([], true)
    | some '\n' => textLines []
    | some c => textLines [c]
  | some '\n' => return (['\n'], false)
  | some c => textLines [c]

/-- Takes the name of a label, which goes up to white space or a semicolon. -/
def labelName (endsAtBrace : Bool) : Reading (List Char) := do
  skipBlanks
  let isEnd (c : Char) : Bool := c = ';' || c = ' ' || ('\t' ≤ c && c ≤ '\r') ||
    (endsAtBrace && c = '\x7d')
  let name := (← rest).takeWhile (!isEnd ·)
  goOn ((← rest).drop name.length)
  return name

/-- Makes sure that a command ends here, with the line, a semicolon, a brace or a comment. -/
def endOfCommand : Reading Unit := do
  skipBlanks
  match ← peek with
  | some '\x7d' | some '#' => return ()
  | some c =>
    let _ ← next
    if c ≠ '\n' && c ≠ ';' then refuse .extraCharacters
  | none => return ()

/-- Takes a number that a command may have. -/
def countArgument : Reading (Option Nat) := do
  skipBlanks
  let n ← number?
  endOfCommand
  return n

/-- Adds an instruction. -/
def add (i : Instruction) : Reading Unit :=
  modify fun (cs, d) => (cs, { d with instructions := d.instructions.push i })

/-- Closes the last block. -/
def closeBlock : Reading Unit := do
  let (cs, d) ← get
  match d.opened with
  | [] => refuse .unexpectedBrace
  | n :: opened =>
    set (cs, { d with
      opened
      instructions := d.instructions.modify n fun i =>
        { i with action := .enter d.instructions.size } })

/-- Takes a command that a letter begins, behind its addresses. -/
def command (style : Style) (start stop : Option Address) (isNegated : Bool) (letter : Char) :
    Reading Unit := do
  let put (action : Action) : Reading Unit := add ⟨start, stop, isNegated, action⟩
  let putEnded (action : Action) : Reading Unit := do
    endOfCommand
    put action
  let putText (f : List Char → Action) : Reading Unit := do
    let (text, isPending) ← textArgument
    put (f (withoutBackslashes text))
    if isPending then modify fun (cs, d) => (cs, { d with pending := some text })
  match letter with
  | '\x7b' =>
    modify fun (cs, d) => (cs, { d with opened := d.instructions.size :: d.opened })
    put (.enter 0)
  | '\x7d' =>
    if (← get).2.opened.isEmpty then refuse .unexpectedBrace
    if start.isSome then refuse (.hasAddress "`\x7d' doesn't want any addresses")
    endOfCommand
    closeBlock
  | '#' =>
    if start.isSome then refuse (.hasAddress "comments don't accept any addresses")
    goOn ((← rest).dropWhile (· ≠ '\n'))
  | ':' =>
    if start.isSome then refuse (.hasAddress ": doesn't want any addresses")
    let name ← labelName false
    if name.isEmpty then refuse .namelessLabel
    put (.label name)
  | 's' => put (← substitution style)
  | 'y' => do
    let action ← exchange
    putEnded action
  | 'a' => putText .append
  | 'i' => putText .insert
  | 'c' => putText .change
  | 'b' => do
    let name ← labelName true
    putEnded (.branch name)
  | 't' => do
    let name ← labelName true
    putEnded (.branchIf true name)
  | 'T' => do
    let name ← labelName true
    putEnded (.branchIf false name)
  | 'r' => put (.readFile (← fileName style))
  | 'R' => put (.readLine (← fileName style))
  | 'w' => put (.writeFile false (← fileName style))
  | 'W' => put (.writeFile true (← fileName style))
  | 'l' => put (.list (← countArgument))
  | 'q' | 'Q' =>
    if stop.isSome then refuse .secondAddress
    put (.quit (letter == 'q') ((← countArgument).getD 0))
  | 'v' =>
    let version ← labelName true
    if isNewer version then refuse .newerVersion
  | _ =>
    if "dDpPnNhHgGxz=F".toList.contains letter then putEnded (.simple letter)
    else refuse (.unknownCommand letter)
where
  /-- Whether a version is later than the fourth. -/
  isNewer (version : List Char) : Bool :=
    let major := version.takeWhile isDigit
    4 < valueOf major

/-- Takes all commands that are left. -/
def commands (style : Style) : (room : Nat) → Reading Unit
  | 0 => return ()
  | room + 1 => do
    goOn ((← rest).dropWhile fun c => c = ';' || c = ' ' || ('\t' ≤ c && c ≤ '\r'))
    if (← peek).isNone then return ()
    let (start, stop) ← addresses style
    let isNegated ← passes '!'
    if isNegated then
      skipBlanks
      if ← passes '!' then refuse .manyNegations
    match ← next with
    | none => refuse .missingCommand
    | some letter => command style start stop isNegated letter
    commands style room

/-- Takes a whole piece, with the text first that is still open. -/
def piece (style : Style) : Reading Unit := do
  match (← get).2.pending with
  | none => pure ()
  | some sofar =>
    let (text, isPending) ← textLines sofar
    modify fun (cs, d) =>
      let n := d.instructions.size - 1
      (cs, { d with
        pending := if isPending then some text else none
        instructions := d.instructions.modify n fun i =>
          { i with action := withText (withoutBackslashes text) i.action } })
  commands style ((← rest).length + 1)
where
  /-- An action with another text. -/
  withText (text : List Char) : Action → Action
    | .insert _ => .insert text
    | .change _ => .change text
    | .append _ => .append text
    | action => action

end Reading

/-! ### Pieces -/

/-- A piece of a program. -/
structure Piece where
  /-- The file that it comes from, if it comes from one. -/
  file : Option (List Char)
  /-- Its text. -/
  text : List Char

/-- Where something is in the pieces of a program. -/
structure Spot where
  /-- How many arguments have given pieces up to there. -/
  expressions : Nat
  /-- The file, if it is in one, and the line. -/
  fileLine : Option (List Char × Nat)
  /-- How many characters of the piece were read. -/
  column : Nat

/-- How a spot is named. -/
def Spot.text (s : Spot) : List Char :=
  match s.fileLine with
  | some (name, line) => "file ".toList ++ name ++ " line ".toList ++ digitsOf line
  | none => "-e expression #".toList ++ digitsOf s.expressions ++ ", char ".toList ++
    digitsOf s.column

/-- The spot in a piece of which so much was read. -/
def Piece.spot (p : Piece) (expressions column : Nat) : Spot where
  expressions
  fileLine := p.file.map fun name => (name, ((p.text.take column).filter (· = '\n')).length + 1)
  column

/-- Reads a program that is given in pieces. Gives the spot at its end too. -/
def readProgram (style : Style) (pieces : List Piece) :
    Except (Spot × Fault) (Program × Spot) :=
  go 0 ⟨0, none, 0⟩ ⟨#[], [], none⟩ [] pieces
where
  /-- Goes on with the pieces that are left. The spots at which the open blocks began are
  kept. -/
  go (expressions : Nat) (last : Spot) (draft : Draft) (openings : List Spot) :
      List Piece → Except (Spot × Fault) (Program × Spot)
    | [] =>
      match draft.opened, openings with
      | [], _ => .ok (.ofInstructions draft.instructions, { last with column := 0 })
      | _, opening :: _ => .error (opening, .unmatchedBrace)
      | _, [] => .error ({ last with column := 0 }, .unmatchedBrace)
    | p :: ps =>
      let expressions := if p.file.isSome then expressions else expressions + 1
      match (Reading.piece style).run (p.text, draft) with
      | .error (fault, left) =>
        .error (p.spot expressions (p.text.length - left), fault)
      | .ok (_, _, draft) =>
        let opening := { p.spot expressions 0 with column := 0 }
        go expressions (p.spot expressions p.text.length) draft
          (if openings.length < draft.opened.length then opening :: openings else openings) ps

end ParserConformance.Script.Tool.Sed
