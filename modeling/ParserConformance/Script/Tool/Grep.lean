import ParserConformance.Script.Tool.Place
import ParserConformance.Script.Tool.Regex.Matching
import ParserConformance.Script.Tool.Regex.Perl

/-!
# Search in lines

`grep` selects the lines in which one of some patterns matches, and shows them, the parts that
match, how many they are, or only the names of the files that have any.
-/

namespace ParserConformance.Script.Tool.Grep

/-! ### Queries -/

/-- What is searched for. -/
structure Query where
  /-- The patterns. -/
  patterns : List Regex
  /-- Which of several matches counts. -/
  choice : Regex.Choice
  /-- Whether a match has to be a whole line. -/
  wholeLines : Bool
  /-- Whether a match has to be a whole word. -/
  wholeWords : Bool
  /-- Whether the lines without a match are selected. -/
  isInverted : Bool

namespace Query

/-- The match that begins at a place, as where it begins and ends. -/
def matchAt? (q : Query) (p : Regex.Place) : Option (Nat × Nat) :=
  let fits (e : Regex.Place) : Bool :=
    (!q.wholeLines || (p.past.isEmpty && e.rest.isEmpty)) &&
      (!q.wholeWords ||
        (!Regex.isWordChar p.past.head? && !Regex.isWordChar e.rest.head?))
  let found := q.patterns.filterMap fun r =>
    (q.choice.of? ((Regex.ends r p).filter fits)).map (Regex.matchTo p)
  found.foldl (fun best m => match best with
    | some (a, b) => if b < m.stop then some (m.start, m.stop) else some (a, b)
    | none => some (m.start, m.stop)) none

/-- The first match from a place on, and the place where it was looked for. -/
def firstFrom (q : Query) : (room : Nat) → Regex.Place → Option (Nat × Nat × Regex.Place)
  | 0, _ => none
  | room + 1, p =>
    match q.matchAt? p with
    | some (start, stop) => some (start, stop, p)
    | none => if p.rest.isEmpty then none else firstFrom q room p.step

/-- All matches in what follows on a place: where they begin and end. -/
def matchesFrom (q : Query) : (room : Nat) → Regex.Place → List (Nat × Nat)
  | 0, _ => []
  | room + 1, p =>
    match q.firstFrom (p.rest.length + 1) p with
    | none => []
    | some (start, stop, there) =>
      let next := there.advance (max 1 (stop - there.position))
      (start, stop) :: (if there.rest.isEmpty then [] else matchesFrom q room next)

/-- Whether all patterns can match at the start of a line only. -/
def isAnchored (q : Query) : Bool := q.wholeLines || q.patterns.all Regex.isAnchored

/-- All matches in a line. -/
def matchesIn (q : Query) (line : List Char) : List (Nat × Nat) :=
  let p := Regex.Place.ofText line
  if q.isAnchored then (q.matchAt? p).toList else q.matchesFrom (line.length + 1) p

/-- Whether a line is selected. -/
def selects (q : Query) (line : List Char) : Bool :=
  let p := Regex.Place.ofText line
  let isFound := if q.isAnchored then (q.matchAt? p).isSome
    else (q.firstFrom (line.length + 1) p).isSome
  isFound != q.isInverted

end Query

/-! ### Showing lines -/

/-- A line of a file. -/
structure Line where
  /-- The line. -/
  text : List Char
  /-- Its number. -/
  number : Nat
  /-- How many bytes stand before it. -/
  offset : Nat
  /-- Whether it is selected. -/
  isSelected : Bool

/-- How selected lines are shown. -/
structure Display where
  /-- Whether the name of the file is shown. -/
  showsName : Bool
  /-- Whether the number of the line is shown. -/
  showsNumber : Bool
  /-- Whether it is shown how many bytes stand before. -/
  showsOffset : Bool
  /-- Whether only what matches is shown. -/
  onlyMatches : Bool
  /-- How many lines before a selected one are shown too. -/
  before : Nat
  /-- How many lines behind a selected one are shown too. -/
  behind : Nat
  /-- What stands between lines that do not follow on each other, if anything does. -/
  gap : Option (List Char)
  /-- Whether a zero byte stands behind the name of a file. -/
  endsNames : Bool
  /-- What ends a line. -/
  stop : Char

namespace Display

/-- What stands before a line. -/
def heading (d : Display) (name : List Char) (number offset : Nat) (mark : Char) : List Char :=
  (if d.showsName then name ++ [if d.endsNames then '\x00' else mark] else []) ++
    (if d.showsNumber then digitsOf number ++ [mark] else []) ++
    (if d.showsOffset then digitsOf offset ++ [mark] else [])

/-- A line as it is shown. -/
def line (d : Display) (q : Query) (name : List Char) (l : Line) : List Char :=
  if d.onlyMatches then
    if q.isInverted || !l.isSelected then []
    else
      ((q.matchesIn l.text).filter fun (start, stop) => start < stop).flatMap
        fun (start, stop) => d.heading name l.number (l.offset + start) ':' ++
          (l.text.take stop).drop start ++ [d.stop]
  else
    d.heading name l.number l.offset (if l.isSelected then ':' else '-') ++ l.text ++ [d.stop]

/-- The lines of a file as they are shown. Something may have been shown before. -/
def lines (d : Display) (q : Query) (name : List Char) (ls : List Line) (isFirst : Bool) :
    List Char :=
  let numbers := (ls.filter (·.isSelected)).map (·.number)
  let shown := near numbers ls
  (shown.foldl (fun ((done, last) : List (List Char) × Option Nat) l =>
    let follows : Bool := match last with
      | some n => n + 1 = l.number
      | none => isFirst
    let gap := match d.gap with
      | some text => if follows then [] else text
      | none => []
    (d.line q name l :: gap :: done, some l.number)) ([], none)).1.reverse.flatten
where
  /-- The lines that are near to the next of some selected ones. -/
  near (numbers : List Nat) : List Line → List Line
    | [] => []
    | l :: ls =>
      let numbers := numbers.dropWhile fun n => n + d.behind < l.number
      if numbers.head?.any fun n => n ≤ l.number + d.before then l :: near numbers ls
      else near numbers ls

end Display

/-! ### Files -/

/-- Whether a file below a directory is searched, by its names. -/
def isWanted (o : Options) (names : List (List Char)) : Bool :=
  let fits (glob name : List Char) : Bool := isMatch (patternOf (Marked.bare glob)) name
  let name := names.getLast?.getD []
  let includes := o.values 'J'
  let isIn := includes.isEmpty || includes.any (fits · name)
  isIn && !(o.values 'M').any (fits · name) &&
    !names.dropLast.any fun dir => (o.values 'O').any (fits · dir)

/-- The files at and below a path, in the order of their names. Links are not followed unless
that is asked for. -/
def filesBelow (o : Options) (d : Disk) (name : List Char) : List (List Char) :=
  match d.locate (pathOfChars name) false with
  | .error _ => [name]
  | .ok place =>
    match d.entry? place with
    | some (.directory _) =>
      let base := if name.isEmpty then [] else below name []
      let found := d.entries.filterMap fun (p, e) =>
        if !place.isPrefixOf p then none
        else
          let names := p.drop place.length
          let path := base ++ ofText ("/".intercalate names)
          match e with
          | .file _ _ => if isWanted o (names.map ofText) then some (names, path) else none
          | .link _ =>
            if o.has 'R' && d.isFile (pathOfChars path) && isWanted o (names.map ofText) then
              some (names, path)
            else none
          | .directory _ | .special _ _ => none
      (found.mergeSort fun a b => a.1 ≤ b.1).map (·.2)
    | _ => [name]

/-- The search of one file: what is shown, what is complained of, and whether anything is
selected. -/
def search (o : Options) (q : Query) (d : Display) (name text : List Char) (isFirst : Bool) :
    List Char × List Char × Bool :=
  let records := (recordsOf d.stop text).1
  let limit := (o.value? 'm').bind natural?
  let ls := take limit 1 0 records
  let count := (ls.filter (·.isSelected)).length
  let found := 0 < count
  let title := name ++ [if d.endsNames then '\x00' else '\n']
  let isBinary := text.contains '\x00' && d.stop = '\n' && !o.has 'a' &&
    o.value? 'Y' ≠ some "text".toList
  if o.has 'q' then ([], [], found)
  else if o.lastOf? "lL" = some 'l' then (if found then title else [], [], found)
  else if o.lastOf? "lL" = some 'L' then (if found then [] else title, [], !found)
  else if o.has 'c' then
    ((if d.showsName then name ++ [if d.endsNames then '\x00' else ':'] else []) ++
      digitsOf count ++ ['\n'], [], found)
  else if isBinary && found then
    if o.has 'I' || o.value? 'Y' = some "without-match".toList then ([], [], false)
    else ([], "grep: ".toList ++ name ++ ": binary file matches\n".toList, found)
  else (d.lines q name ls isFirst, [], found)
where
  /-- The lines of a file, with those selected up to a number of them. -/
  take (limit : Option Nat) (number offset : Nat) : List (List Char) → List Line
    | [] => []
    | l :: ls =>
      let isSelected := limit ≠ some 0 && q.selects l
      ⟨l, number, offset, isSelected⟩ ::
        take (if isSelected then limit.map (· - 1) else limit) (number + 1)
          (offset + l.length + 1) ls

/-! ### The tool -/

/-- How the tool is used. -/
def usage : List Char :=
  ("Usage: grep [OPTION]... PATTERNS [FILE]...\n" ++
    "Try 'grep --help' for more information.\n").toList

/-- The wording of a fault in a Perl expression. -/
def perlFault : Regex.Fault → String
  | .unmatchedBracket => "missing terminating ] for character class"
  | .unmatchedOpening => "missing closing parenthesis"
  | .unmatchedClosing => "unmatched closing parenthesis"
  | .badRepetition => "quantifier does not follow a repeatable item"
  | .badReference => "reference to non-existent subpattern"
  | .badRange => "range out of order in character class"
  | .badClass => "unknown POSIX class name"
  | .trailingBackslash => "\\ at end of pattern"
  | fault => fault.message

/-- The patterns that options and arguments give, and the other arguments; the complaint if a
file of patterns cannot be read. -/
def patternsOf (c : Call) (o : Options) :
    Except (List Char) (Option (List (List Char) × List (List Char))) := do
  let ofFiles ← (o.values 'f').mapM fun name =>
    match contentOf c name with
    | .ok text => pure (linesOf text).1
    | .error t => throw (plainComplaint name t)
  if o.has 'e' || o.has 'f' then
    return some ((o.values 'e').flatMap (splitAt '\n') ++ ofFiles.flatten, o.operands)
  else
    match o.operands with
    | pattern :: files => return some (splitAt '\n' pattern, files)
    | [] => return none

/-- Reads a pattern in the language that options ask for. -/
def readPattern (o : Options) (text : List Char) : Except (List Char) Regex :=
  let ignoresCase := match o.lastOf? "iyN" with
    | some 'N' | none => false
    | some _ => true
  match o.lastOf? "EFGP" with
  | some 'F' => .ok (Regex.ofChars ignoresCase text)
  | some 'P' =>
    match Regex.Perl.read ignoresCase text with
    | .ok r => .ok r
    | .error fault => .error (perlFault fault).toList
  | kind =>
    let flavor := if kind = some 'E' then Regex.Flavor.extended else Regex.Flavor.basic
    let isClass := "[:".toList.isPrefixOf text && ":]".toList.reverse.isPrefixOf text.reverse
    if isClass && 4 < text.length then
      .error "character class syntax is [[:space:]], not [:space:]".toList
    else
      match Regex.read { flavor with ignoresCase } text with
      | .ok r => .ok r
      | .error fault => .error fault.message.toList

/-- The number of lines around selected ones that letters and digits ask for; the complaint if one
of them is no number. -/
def surroundings (o : Options) : Except (List Char) (Option Nat × Option Nat) := do
  let digits := (o.letters.filter (isDigit ·.1)).map (·.1)
  let number (letter : Char) : Except (List Char) (Option Nat) :=
    match o.value? letter with
    | none => .ok none
    | some text =>
      match natural? text with
      | some n => .ok (some n)
      | none => .error (text ++ ": invalid context length argument".toList)
  let around := ((← number 'C')).or (if digits.isEmpty then none else some (valueOf digits))
  return ((← number 'B').or around, (← number 'A').or around)

/-- Searches with options that were read. -/
def run (c : Call) (o : Options) : Effect :=
  let ready : Except (List Char) (Option (Query × Display × List (List Char))) := do
    let (before, behind) ← surroundings o
    if (o.value? 'm').any fun m => (natural? m).isNone then throw "invalid max count".toList
    match ← patternsOf c o with
    | none => return none
    | some (texts, operands) =>
      let patterns ← texts.mapM (readPattern o)
      let isPerl := o.lastOf? "EFGP" = some 'P'
      let q : Query := {
        patterns
        choice := if isPerl then .preferred else .longest
        wholeLines := o.has 'x'
        wholeWords := o.has 'w'
        isInverted := o.has 'v' }
      let isDeep := o.has 'r' || o.has 'R'
      let isBare := isDeep && operands.isEmpty
      let files := if isBare then (filesBelow o c.disk ['.']).map (·.drop 2)
        else if isDeep then operands.flatMap (filesBelow o c.disk)
        else operands
      let display : Display := {
        showsName := match o.lastOf? "hH" with
          | some 'h' => false
          | some _ => true
          | none => 1 < operands.length || isBare || operands.any fun name =>
            isDeep && isDirectory c.disk name
        showsNumber := o.has 'n'
        showsOffset := o.has 'b'
        onlyMatches := o.has 'o'
        before := before.getD 0
        behind := behind.getD 0
        gap := if o.has 'Q' || (before.isNone && behind.isNone) then none
          else some ((o.value? 'S').getD "--".toList ++ ['\n'])
        endsNames := o.has 'Z'
        stop := stopOf o }
      return some (q, display, if isBare && files.isEmpty then [] else
        if files.isEmpty && !isDeep then [['-']] else files)
  match ready with
  | .error text => .ofComplaint c 2 text
  | .ok none => (Effect.ofStatus c 2).warn usage
  | .ok (some (q, display, files)) =>
    let label := (o.value? 'W').getD "(standard input)".toList
    let start : Effect × Bool := (.ofStatus c 0, false)
    let (e, found) := (if files.isEmpty then [] else inputs c files).foldl
      (fun (e, found) (name, r) =>
        match r with
        | .ok text =>
          let title := if name = ['-'] then label else name
          let (shown, warning, here) := search o q display title text
            (e.writes.all fun w => w.1 || w.2.isEmpty)
          let e := e.write shown
          (if warning.isEmpty then e else e.warn warning, found || here)
        | .error t =>
          (if o.has 's' then e.atLeast 2 else e.complain c 2 (plainComplaint name t), found))
      start
    let status := if found && (e.status = 0 || o.has 'q') then 0
      else if 0 < e.status then e.status
      else 1
    let e := { e with status }
    let e := { e with isSated := found && (o.has 'q' || o.has 'l' || o.has 'L') }
    if !readsInput files || files.isEmpty then e
    else
      let text := c.input.getD []
      match (o.value? 'm').bind natural? with
      | none => e.takingAll c
      | some limit =>
        let ls := search.take q (some limit) 1 0 (recordsOf display.stop text).1
        let selected := ls.filter (·.isSelected)
        if selected.length < limit then e.takingAll c
        else
          let last := (selected.getLast?.map fun l => l.offset + l.text.length + 1).getD 0
          { e.taking c last 98304 with isSated := true }

/-- Searches for patterns in lines. -/
def grep : Tool := fun c =>
  let known : Known := {
    flags := "EFGPiwxzsvbnHhoqarRLlcTZUuIyNQ0123456789"
    valued := "efmABCdDWJMOSY", optional := "K", hidden := "WNSQKJMOY"
    long := [("extended-regexp", 'E'), ("fixed-strings", 'F'), ("fixed-regexp", 'F'),
      ("basic-regexp", 'G'), ("perl-regexp", 'P'), ("regexp", 'e'), ("file", 'f'),
      ("ignore-case", 'i'), ("no-ignore-case", 'N'), ("word-regexp", 'w'),
      ("line-regexp", 'x'), ("null-data", 'z'), ("no-messages", 's'), ("invert-match", 'v'),
      ("max-count", 'm'), ("byte-offset", 'b'), ("line-number", 'n'),
      ("line-buffered", 'u'), ("with-filename", 'H'), ("no-filename", 'h'), ("label", 'W'),
      ("only-matching", 'o'), ("quiet", 'q'), ("silent", 'q'), ("binary-files", 'Y'),
      ("text", 'a'), ("directories", 'd'), ("devices", 'D'), ("recursive", 'r'),
      ("dereference-recursive", 'R'), ("include", 'J'), ("exclude", 'M'),
      ("exclude-dir", 'O'), ("files-without-match", 'L'), ("files-with-matches", 'l'),
      ("count", 'c'), ("initial-tab", 'T'), ("null", 'Z'), ("before-context", 'B'),
      ("after-context", 'A'), ("context", 'C'), ("group-separator", 'S'),
      ("no-group-separator", 'Q'), ("color", 'K'), ("colour", 'K'), ("binary", 'U')] }
  match Options.read known c.args with
  | .ok o => run c o
  | .error fault => (Effect.ofComplaint c 2 fault.message).warn usage

end ParserConformance.Script.Tool.Grep
