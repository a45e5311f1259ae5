import ParserConformance.Script.Tool.Call
import ParserConformance.Script.Tool.Regex.Matching
import ParserConformance.Script.Tool.Sed.Program

/-!
# Editors of streams

An editor takes the lines of files one after the other through a program. What it writes is kept
piece by piece, with the outlet that it goes to.
-/

namespace ParserConformance.Script.Tool.Sed

/-- A line and whether it has an end. -/
abbrev EndedLine := List Char × Bool

/-- Where an editor writes. -/
inductive Outlet where
  /-- To where the lines go. -/
  | main
  /-- To a file of its own. -/
  | file (name : List Char)
  deriving DecidableEq, Repr

/-- Which lines a range takes in. -/
inductive RangeState where
  /-- All up to a line, if that is known. -/
  | opened (stop : Option Nat)
  /-- None any more. -/
  | closed
  deriving DecidableEq, Repr

/-- How an editor works. -/
structure Manner where
  /-- Whether lines are printed only when that is asked for. -/
  isQuiet : Bool
  /-- Whether each file is edited on its own. -/
  isSeparate : Bool
  /-- Whether the lines go back to where they come from. -/
  isInPlace : Bool
  /-- Whether the line is lost if there is no next one to be added. -/
  isStrict : Bool
  /-- The character that ends lines. -/
  stop : Char
  /-- The width of the lines that show every character. -/
  width : Nat
  /-- The content of a file by name, if it can be read. -/
  read : List Char → Option (List Char)

/-- An editor at work. -/
structure Editor where
  /-- The line at work. -/
  line : List Char := []
  /-- Whether the line has an end. -/
  isEnded : Bool := true
  /-- The number of the line. -/
  number : Nat := 0
  /-- The name of the file at work. -/
  file : List Char := ['-']
  /-- How many files were begun. -/
  begun : Nat := 0
  /-- The lines of that file that are still to come. -/
  rest : List EndedLine := []
  /-- The files that are still to come. -/
  files : List (List Char × Except Trouble (List EndedLine))
  /-- The files that could not be read, and why, the last one first. -/
  troubles : List (List Char × Trouble) := []
  /-- What is kept aside. -/
  hold : List Char := []
  /-- Whether that has an end. -/
  holdEnded : Bool := true
  /-- What was written where, with the number of the file at work, the last piece first. -/
  writes : List (Outlet × Nat × List Char) := []
  /-- The outlets whose last line lacks its end. -/
  lacking : List Outlet := []
  /-- What is printed behind the line, the last text first. -/
  behind : List (List Char) := []
  /-- The ranges that are open or closed, by the numbers of their instructions. -/
  ranges : List (Nat × RangeState) := []
  /-- Whether a substitution was made since the line was read. -/
  isChanged : Bool := false
  /-- The expression that was used last. -/
  lastRegex : Option Regex := none
  /-- The lines of files that are put in one by one. -/
  readers : List (List Char × List EndedLine) := []
  /-- The status with which the program ends, if it does. -/
  status : Option Nat := none
  /-- What is wrong with the program, if that shows. -/
  fault : Option Fault := none
  /-- Whether the program does not come to an end. -/
  isEndless : Bool := false

/-- Lines with whether each has an end. -/
def endedLines (stop : Char) (text : List Char) : List EndedLine :=
  let (ls, isEnded) := recordsOf stop text
  if isEnded then ls.map (·, true)
  else (ls.dropLast.map (·, true)) ++ (ls.getLast?.map (·, false)).toList

namespace Editor

/-! ### Writing -/

/-- With a text written as it is. An end that the line before lacks comes first. -/
def put (e : Editor) (m : Manner) (o : Outlet) (text : List Char) : Editor :=
  let start := if e.lacking.contains o then [m.stop] else []
  { e with
    writes := (o, e.begun, start ++ text) :: e.writes
    lacking := e.lacking.filter (· ≠ o) }

/-- With a line written. -/
def putLine (e : Editor) (m : Manner) (o : Outlet) (text : List Char) (isEnded : Bool) : Editor :=
  let e := e.put m o (if isEnded then text ++ [m.stop] else text)
  if isEnded then e else { e with lacking := o :: e.lacking }

/-- With the line printed. -/
def printLine (e : Editor) (m : Manner) : Editor := e.putLine m .main e.line e.isEnded

/-- With the line printed, unless lines are printed only when that is asked for. -/
def autoprint (e : Editor) (m : Manner) : Editor := if m.isQuiet then e else e.printLine m

/-- With all printed that belongs behind the line. -/
def flush (e : Editor) (m : Manner) : Editor :=
  if e.behind.isEmpty then e
  else { e.put m .main e.behind.reverse.flatten with behind := [] }

/-! ### Reading lines -/

/-- With the next file begun that has a line, if there is one; says whether that is so. Files
that are edited on their own begin anew. -/
def nextFile (e : Editor) (m : Manner) : Editor × Bool :=
  go e e.files
where
  /-- Goes on with the files that are left. -/
  go (e : Editor) : List (List Char × Except Trouble (List EndedLine)) → Editor × Bool
    | [] => ({ e with files := [] }, false)
    | (name, .error t) :: files =>
      let e := { e with troubles := (name, t) :: e.troubles, begun := e.begun + 1 }
      if isFatal m t then ({ e with files := [] }, false) else go e files
    | (name, .ok ls) :: files =>
      let e := if m.isSeparate then
          let e := if m.isInPlace then { e with lacking := e.lacking.filter (· ≠ .main) }
            else if e.lacking.contains .main then e.put m .main []
            else e
          { e with number := 0, hold := [], holdEnded := true, ranges := [], readers := [] }
        else e
      let e := { e with file := name, rest := ls, files, begun := e.begun + 1 }
      if ls.isEmpty then go e files else (e, true)
  /-- Whether nothing is edited behind a file with a trouble. -/
  isFatal (m : Manner) (t : Trouble) : Bool := t = .isDirectory && !m.isInPlace

/-- With the next line in the place of the one at work, if there is one; says whether that is
so. -/
def advance (e : Editor) (m : Manner) : Editor × Bool :=
  let (e, isThere) := if e.rest.isEmpty then e.nextFile m else (e, true)
  match isThere, e.rest with
  | true, (line, isEnded) :: rest =>
    ({ e with line, isEnded, rest, number := e.number + 1, isChanged := false }, true)
  | _, _ => (e, false)

/-- Whether the line at work is the last one. -/
def isLast (e : Editor) (m : Manner) : Bool :=
  e.rest.isEmpty && (m.isSeparate || e.files.all fun (_, r) => match r with
    | .ok ls => ls.isEmpty
    | .error _ => true)

/-! ### Addresses -/

/-- With an expression used: the one that is given, or the last one. -/
def use (e : Editor) (r : Option Regex) : Option Regex × Editor :=
  match r.or e.lastRegex with
  | some r => (some r, { e with lastRegex := some r })
  | none => (none, { e with fault := some .noPrevious })

/-- Whether an address fits the line. -/
def fits (e : Editor) (m : Manner) : Address → Bool × Editor
  | .line n => (e.number = n, e)
  | .last => (e.isLast m, e)
  | .every first step => (first ≤ e.number && (e.number - first) % step = 0, e)
  | .found r =>
    match e.use r with
    | (some r, e) => (Regex.occursIn r e.line, e)
    | (none, e) => (false, e)
  | .further _ | .multiple _ => (false, e)

/-- Where a range ends that begins at the line, if its end is given by a number. -/
def rangeEnd? (e : Editor) : Address → Option Nat
  | .line n => some n
  | .further n => some (e.number + n)
  | .multiple n => some (if n = 0 then e.number else (e.number / n + 1) * n)
  | _ => none

/-- With the state of a range set. -/
def setRange (e : Editor) (i : Nat) (s : RangeState) : Editor :=
  { e with ranges := (i, s) :: e.ranges.filter (·.1 ≠ i) }

/-- With a range at its end. One that begins at a numbered line does not begin again. -/
def endRange (e : Editor) (i : Nat) : Address → Editor
  | .line _ => e.setRange i .closed
  | _ => { e with ranges := e.ranges.filter (·.1 ≠ i) }

/-- Whether the line begins a range. A line with a number also does if it was passed over. -/
def beginsRange (e : Editor) (m : Manner) (start stop : Address) : Bool × Editor :=
  match start, stop with
  | .line n, .line k => (e.number = n || (n ≤ e.number && e.number ≤ k), e)
  | .line n, _ => (n ≤ e.number, e)
  | start, _ => e.fits m start

/-- Whether the line is in a range. -/
def inRange (e : Editor) (m : Manner) (i : Nat) (start stop : Address) : Bool × Editor :=
  let isEndByMatch (e : Editor) : Bool × Editor :=
    let (isEnd, e) := e.fits m stop
    (true, if isEnd then e.endRange i start else e.setRange i (.opened none))
  match e.ranges.lookup i with
  | some .closed => (false, e)
  | some (.opened (some n)) =>
    (e.number ≤ n, if n ≤ e.number then e.endRange i start else e)
  | some (.opened none) => isEndByMatch e
  | none =>
    match start with
    | .line 0 => isEndByMatch e
    | _ =>
      match e.beginsRange m start stop with
      | (false, e) => (false, e)
      | (true, e) =>
        match e.rangeEnd? stop with
        | some n =>
          (true, if n ≤ e.number then e.endRange i start else e.setRange i (.opened (some n)))
        | none => (true, e.setRange i (.opened none))

/-- Whether an instruction applies to the line, by its addresses. -/
def applies (e : Editor) (m : Manner) (n : Nat) (i : Instruction) : Bool × Editor :=
  let (holds, e) := match i.start, i.stop with
    | none, _ => (true, e)
    | some start, none => e.fits m start
    | some start, some stop => e.inRange m n start stop
  (holds != i.isNegated, e)

/-- Whether the range of an instruction goes on behind the line. -/
def isInside (e : Editor) (n : Nat) (i : Instruction) : Bool :=
  !i.isNegated && match e.ranges.lookup n with
    | some (.opened _) => true
    | _ => false

/-! ### Substitution -/

/-- The case that is asked for: of the next character, and of all that follow. -/
structure Casing where
  /-- The case of the next character. -/
  next : Option Char
  /-- The case of all that follow. -/
  all : Option Char

/-- The characters in a case, and the case of what follows. -/
def Casing.apply (k : Casing) (cs : List Char) : List Char × Casing :=
  let cased (letter : Option Char) (c : Char) : Char :=
    match letter with
    | some 'U' | some 'u' => c.toUpper
    | some 'L' | some 'l' => c.toLower
    | _ => c
  match cs with
  | [] => ([], k)
  | c :: cs => (cased (k.next.or k.all) c :: cs.map (cased k.all), ⟨none, k.all⟩)

/-- What stands in for a match of a text. -/
def standIn (parts : List Replacement) (whole : List Char) (groups : List (Nat × List Char)) :
    List Char :=
  let go : List (List Char) × Casing → Replacement → List (List Char) × Casing :=
    fun (done, k) part =>
      let put (cs : List Char) : List (List Char) × Casing :=
        let (text, k) := k.apply cs
        (text :: done, k)
      match part with
      | .char c => put [c]
      | .group 0 => put whole
      | .group n => put ((groups.lookup n).getD [])
      | .case 'E' => (done, ⟨none, none⟩)
      | .case letter =>
        (done, if letter = 'u' || letter = 'l' then ⟨some letter, k.all⟩
          else ⟨none, some letter⟩)
  (parts.foldl go ([], ⟨none, none⟩)).1.reverse.flatten

/-- The next match in what follows on a place. -/
def nextMatch (r : Regex) (p : Regex.Place) : Option Regex.Match :=
  if r.isAnchored && 0 < p.position then none
  else if r.isAnchored then Regex.matchAt .longest r p
  else Regex.findFrom .longest r p.rest.length p

/-- What follows on a place with matches replaced, and whether any was. An empty match next to
the match before does not count. -/
def substituteFrom (s : Substitution) (r : Regex) : (room count : Nat) → (after : Option Nat) →
    Regex.Place → List (List Char) × Bool
  | 0, _, _, p => ([p.rest], false)
  | room + 1, count, after, p =>
    match nextMatch r p with
    | none => ([p.rest], false)
    | some m =>
      let before := p.rest.take (m.start - p.position)
      let start := p.advance (m.start - p.position)
      let whole := start.rest.take m.length
      let stop := start.advance m.length
      let isIdle := m.length = 0 && after = some m.start
      let replaces := !isIdle && (if s.isGlobal then s.first ≤ count else count = s.first)
      let here := if replaces then standIn s.replacement whole m.groups else whole
      let passed := if m.length = 0 then stop.rest.take 1 else []
      if (replaces && !s.isGlobal) || (m.length = 0 && stop.rest.isEmpty) then
        ([before, here, stop.rest], replaces)
      else
        let (more, isChanged) := substituteFrom s r room
          (if isIdle then count else count + 1) (some m.stop) (stop.advance passed.length)
        (before :: here :: passed :: more, replaces || isChanged)

/-- With a substitution made, if there is anything to replace. -/
def substitute (e : Editor) (m : Manner) (s : Substitution) : Editor :=
  match e.use s.pattern with
  | (none, e) => e
  | (some r, e) =>
    if r.groupCount < s.lastGroup then { e with fault := some (.badReference s.lastGroup) }
    else
      let (parts, isMade) :=
        substituteFrom s r (e.line.length + 2) 1 none (.ofText e.line)
      if !isMade then e
      else
        let e := { e with line := parts.flatten, isChanged := true }
        let e := if s.prints then e.printLine m else e
        match s.file with
        | some name => e.putLine m (.file name) e.line e.isEnded
        | none => e

/-! ### Commands -/

/-- A character in a form that shows what it is. -/
def visible (c : Char) : List Char :=
  match c with
  | '\\' => "\\\\".toList
  | '\x07' => "\\a".toList
  | '\x08' => "\\b".toList
  | '\x0c' => "\\f".toList
  | '\n' => "\\n".toList
  | '\r' => "\\r".toList
  | '\t' => "\\t".toList
  | '\x0b' => "\\v".toList
  | c =>
    if ' ' ≤ c && c ≤ '~' then [c]
    else '\\' :: (Nat.toDigits 8 (c.toNat + 0o1000)).drop 1

/-- A text in forms that show every character, in lines up to a width; zero stands for no
width. -/
def listed (width : Nat) (cs : List Char) : List Char :=
  ((cs.foldl (fun ((done, used) : List (List Char) × Nat) c =>
    let form := visible c
    if 0 < width && width ≤ used + form.length then
      (form :: "\\\n".toList :: done, form.length)
    else (form :: done, used + form.length)) ([], 0)).1.reverse.flatten) ++ ['$']

/-- What comes after an instruction. -/
inductive Next where
  /-- The next one. -/
  | goesOn
  /-- The one of a number. -/
  | jumps (target : Nat)
  /-- The next line; the one at work may be printed first. -/
  | endsRound (prints : Bool)
  /-- The first one again, with the same line. -/
  | restarts
  /-- Nothing. -/
  | ends

/-- What a command of a letter does. -/
def simple (m : Manner) (e : Editor) : Char → Editor × Next
  | 'd' => (e, .endsRound false)
  | 'D' =>
    match e.line.dropWhile (· ≠ m.stop) with
    | _ :: rest => ({ e with line := rest }, .restarts)
    | [] => (e, .endsRound false)
  | 'p' => (e.printLine m, .goesOn)
  | 'P' =>
    let first := e.line.takeWhile (· ≠ m.stop)
    (e.putLine m .main first (e.isEnded || first.length < e.line.length), .goesOn)
  | 'n' =>
    if e.isLast m then (e, .endsRound (!m.isStrict))
    else
      let e := (e.autoprint m).flush m
      ((e.advance m).1, .goesOn)
  | 'N' =>
    if e.isLast m then (e, .endsRound (!m.isStrict))
    else
      let e := e.flush m
      let next := (e.advance m).1
      ({ next with line := e.line ++ m.stop :: next.line }, .goesOn)
  | 'h' => ({ e with hold := e.line, holdEnded := e.isEnded }, .goesOn)
  | 'H' => ({ e with hold := e.hold ++ m.stop :: e.line, holdEnded := e.isEnded }, .goesOn)
  | 'g' => ({ e with line := e.hold, isEnded := e.holdEnded }, .goesOn)
  | 'G' => ({ e with line := e.line ++ m.stop :: e.hold, isEnded := e.holdEnded }, .goesOn)
  | 'x' =>
    ({ e with line := e.hold, isEnded := e.holdEnded, hold := e.line, holdEnded := e.isEnded },
      .goesOn)
  | 'z' => ({ e with line := [] }, .goesOn)
  | '=' => (e.putLine m .main (digitsOf e.number) true, .goesOn)
  | 'F' => (e.putLine m .main e.file true, .goesOn)
  | _ => (e, .goesOn)

/-- With a text put in at once, which ends like lines do. -/
def putText (e : Editor) (m : Manner) (text : List Char) : Editor :=
  if text.isEmpty then e.put m .main []
  else e.put m .main (text.dropLast ++ [m.stop])

/-- With the next line of a file put behind the line at work. -/
def appendLine (e : Editor) (m : Manner) (name : List Char) : Editor :=
  let ls := match e.readers.lookup name with
    | some ls => ls
    | none => endedLines m.stop ((m.read name).getD [])
  let others := e.readers.filter (·.1 ≠ name)
  match ls with
  | [] => { e with readers := (name, []) :: others }
  | (line, isEnded) :: rest =>
    { e with
      readers := (name, rest) :: others
      behind := (if isEnded then line ++ [m.stop] else line) :: e.behind }

/-- What an action does. -/
def act (m : Manner) (p : Program) (e : Editor) (isInside : Bool) : Action → Editor × Next
  | .enter _ | .label _ => (e, .goesOn)
  | .substitute s => (e.substitute m s, .goesOn)
  | .exchange pairs => ({ e with line := e.line.map fun c => (pairs.lookup c).getD c }, .goesOn)
  | .append text => ({ e with behind := text :: e.behind }, .goesOn)
  | .insert text => (e.putText m text, .goesOn)
  | .change text =>
    (if isInside || text.isEmpty then e else e.putText m text, .endsRound false)
  | .branch name => (e, .jumps (p.target name))
  | .branchIf isMade name =>
    ({ e with isChanged := false },
      if e.isChanged = isMade then .jumps (p.target name) else .goesOn)
  | .readFile name =>
    let isSpent := isInput name && (e.readers.lookup name).isSome
    match (if isSpent then none else m.read name) with
    | some text =>
      ({ e with
          behind := text :: e.behind
          readers := if isInput name then (name, []) :: e.readers else e.readers }, .goesOn)
    | none => (e, .goesOn)
  | .readLine name => (e.appendLine m name, .goesOn)
  | .writeFile isFirst name =>
    let first := e.line.takeWhile (· ≠ m.stop)
    (if isFirst then e.putLine m (.file name) first (e.isEnded || first.length < e.line.length)
      else e.putLine m (.file name) e.line e.isEnded, .goesOn)
  | .quit prints status =>
    let e := if prints then ((e.autoprint m).flush m).put m .main [] else e
    ({ e with status := some status }, .ends)
  | .list width =>
    (e.putLine m .main (listed (width.getD m.width) e.line) true, .goesOn)
  | .simple letter => e.simple m letter

/-! ### Runs -/

/-- Takes lines through a program, from the instruction of a number on. Each step costs something,
and long lines cost more. -/
def run (m : Manner) (p : Program) (room n : Nat) (e : Editor) : Editor :=
  match room with
  | 0 => { e with isEndless := true }
  | room + 1 =>
    let room := room - e.line.length / 64
    if e.fault.isSome then e
    else
      let endRound (prints : Bool) (e : Editor) : Editor :=
        let e := (if prints then e.autoprint m else e).flush m
        let (e, isThere) := e.advance m
        if isThere then run m p room 0 e else e
      match p.instructions[n]? with
      | none => endRound true e
      | some i =>
        match e.applies m n i with
        | (false, e) =>
          run m p room (match i.action with
            | .enter stop => stop
            | _ => n + 1) e
        | (true, e) =>
          match e.act m p (e.isInside n i) i.action with
          | (e, .goesOn) => run m p room (n + 1) e
          | (e, .jumps target) => run m p room target e
          | (e, .endsRound prints) => endRound prints e
          | (e, .restarts) => run m p room 0 (e.flush m)
          | (e, .ends) => e
termination_by room

/-- How many steps an editor takes at most. -/
def stepLimit : Nat := 3000000

/-- Takes the lines of files through a program. -/
def edit (m : Manner) (p : Program)
    (files : List (List Char × Except Trouble (List EndedLine))) : Editor :=
  let (e, isThere) := Editor.advance { files } m
  if isThere then e.run m p stepLimit 0 else e

end Editor

end ParserConformance.Script.Tool.Sed
