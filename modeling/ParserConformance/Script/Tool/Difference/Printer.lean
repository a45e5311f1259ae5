import ParserConformance.Script.Printing
import ParserConformance.Script.Tool.Difference.Manner

/-!
# Showing differences

Differences are shown hunk by hunk, as commands with lines behind them, or with the lines around
them, or side by side.
-/

namespace ParserConformance.Script.Tool.Difference

/-! ### Lines -/

/-- A line without its end. -/
def withoutEnd (l : List Char) : List Char := if l.getLast? = some '\n' then l.dropLast else l

/-- A line as it is shown. -/
def body (m : Manner) (l : List Char) : List Char :=
  if m.expandsTabs then expandedLine (.every m.tabSize) false true 0 l else l

/-- What stands behind a last line that has no end. -/
def noEnd : List Char := "\n\\ No newline at end of file\n".toList

/-- A line with what tells that it has no end. -/
def finished (m : Manner) (l : List Char) : List Char :=
  if l.getLast? = some '\n' then body m l else body m l ++ noEnd

/-- A line behind a sign and a gap. -/
def signed (m : Manner) (sign : Char) (l : List Char) : List Char :=
  if m.leavesEmpty && l = ['\n'] then (if sign = ' ' then l else sign :: l)
  else sign :: (if m.startsWithTab then '\t' else ' ') :: finished m l

/-- A line right behind a sign. -/
def marked (m : Manner) (sign : Char) (l : List Char) : List Char :=
  if m.leavesEmpty && l = ['\n'] then (if sign = ' ' then l else sign :: l)
  else sign :: (if m.startsWithTab then ['\t'] else []) ++ finished m l

/-! ### Places -/

/-- The lines from one up to another, counted from one; if there are none, the line before. -/
def range (mark : Char) (start stop : Nat) : List Char :=
  if start + 1 < stop then digitsOf (start + 1) ++ mark :: digitsOf stop else digitsOf stop

/-- The letter of a hunk. -/
def letter (h : Hunk) : Char :=
  if h.oldCount = 0 then 'a' else if h.newCount = 0 then 'd' else 'c'

/-- The title of the part that a line stands in: what is left of the last title before it. -/
def titleAt (m : Manner) (page : Array (List Char)) (line : Nat) : List Char :=
  let found := m.title.bind fun r =>
    ((page.extract 0 line).toList.reverse.find? fun l => r.occursIn (withoutEnd l))
  match found with
  | none => []
  | some l =>
    let text := ((withoutEnd l).dropWhile isSpaceChar).take 40
    ' ' :: (text.reverse.dropWhile isSpaceChar).reverse

/-! ### Commands -/

/-- A hunk as a command with its lines. -/
def normalHunk (m : Manner) (p : Pages) (h : Hunk) : List Char :=
  range ',' h.oldStart h.oldStop ++ letter h :: range ',' h.newStart h.newStop ++ ['\n'] ++
    (p.olds h).flatMap (signed m '<') ++
    (if h.oldCount = 0 || h.newCount = 0 then [] else "---\n".toList) ++
    (p.news h).flatMap (signed m '>')

/-- Lines for an editor that takes a lone point for their end; such a line is written with two
points, one of which the editor is told to take away. -/
def editedLines (m : Manner) : (isOpen : Bool) → List (List Char) → List Char
  | isOpen, [] => if isOpen then ".\n".toList else []
  | isOpen, l :: ls =>
    let start := if isOpen then [] else "a\n".toList
    if l = ".\n".toList then start ++ "..\n.\ns/.//\n".toList ++ editedLines m false ls
    else start ++ body m l ++ editedLines m true ls

/-- A hunk as a command of an editor. -/
def editedHunk (m : Manner) (p : Pages) (h : Hunk) : List Char :=
  range ',' h.oldStart h.oldStop ++ [letter h, '\n'] ++
    (if h.newCount = 0 then [] else editedLines m true (p.news h))

/-- A hunk as such a command that is read from the start. -/
def forwardHunk (m : Manner) (p : Pages) (h : Hunk) : List Char :=
  letter h :: range ' ' h.oldStart h.oldStop ++ ['\n'] ++
    (if h.newCount = 0 then [] else (p.news h).flatMap (body m) ++ ".\n".toList)

/-- A hunk as commands that count lines. -/
def countedHunk (m : Manner) (p : Pages) (h : Hunk) : List Char :=
  let command (letter : Char) (line count : Nat) : List Char :=
    if count = 0 then [] else letter :: digitsOf line ++ ' ' :: digitsOf count ++ ['\n']
  command 'd' (h.oldStart + 1) h.oldCount ++ command 'a' h.oldStop h.newCount ++
    (p.news h).flatMap (body m)

/-! ### Hunks with the lines around them -/

/-- The part of two files that a group of hunks covers. -/
structure Window where
  /-- The first line in the first file. -/
  oldStart : Nat
  /-- The line behind the last one in the first file. -/
  oldStop : Nat
  /-- The first line in the second file. -/
  newStart : Nat
  /-- The line behind the last one in the second file. -/
  newStop : Nat

/-- The part that a group of hunks covers with so many lines around it. -/
def window (p : Pages) (around : Nat) (hs : List Hunk) : Window :=
  let first := hs.headD ⟨0, 0, 0, 0⟩
  let last := hs.getLastD first
  { oldStart := first.oldStart - around
    oldStop := min (last.oldStop + around) p.old.size
    newStart := first.newStart - around
    newStop := min (last.newStop + around) p.new.size }

/-- The lines of hunks and those between them, from a line on, in one. -/
def unifiedLines (m : Manner) (p : Pages) (stop : Nat) : (line : Nat) → List Hunk → List Char
  | line, [] => (linesAt p.old line (stop - line)).flatMap (marked m ' ')
  | line, h :: hs =>
    (linesAt p.old line (h.oldStart - line)).flatMap (marked m ' ') ++
      (p.olds h).flatMap (marked m '-') ++ (p.news h).flatMap (marked m '+') ++
      unifiedLines m p stop h.oldStop hs

/-- A group of hunks in one. -/
def unifiedGroup (m : Manner) (p : Pages) (around : Nat) (hs : List Hunk) : List Char :=
  let w := window p around hs
  let place (start stop : Nat) : List Char :=
    if stop = start + 1 then digitsOf stop
    else if stop = start then digitsOf stop ++ ",0".toList
    else digitsOf (start + 1) ++ ',' :: digitsOf (stop - start)
  "@@ -".toList ++ place w.oldStart w.oldStop ++ " +".toList ++ place w.newStart w.newStop ++
    " @@".toList ++ titleAt m p.old w.oldStart ++ ['\n'] ++
    unifiedLines m p w.oldStop w.oldStart hs

/-- The lines of one of the files in a part of it. A hunk is given by where it begins and ends
there, and whether it changes lines of both files. -/
def contextLines (m : Manner) (page : Array (List Char)) (sign : Char) (stop : Nat) :
    (line : Nat) → List (Nat × Nat × Bool) → List Char
  | line, [] => (linesAt page line (stop - line)).flatMap (signed m ' ')
  | line, (start, behind, isChange) :: hs =>
    (linesAt page line (start - line)).flatMap (signed m ' ') ++
      (linesAt page start (behind - start)).flatMap (signed m (if isChange then '!' else sign)) ++
      contextLines m page sign stop behind hs

/-- A group of hunks, both files one after the other. -/
def contextGroup (m : Manner) (p : Pages) (around : Nat) (hs : List Hunk) : List Char :=
  let w := window p around hs
  let isChange (h : Hunk) : Bool := h.oldCount ≠ 0 && h.newCount ≠ 0
  "***************".toList ++ titleAt m p.old w.oldStart ++ "\n*** ".toList ++
    range ',' w.oldStart w.oldStop ++ " ****\n".toList ++
    (if hs.all (·.oldCount = 0) then []
      else contextLines m p.old '-' w.oldStop w.oldStart
        (hs.map fun h => (h.oldStart, h.oldStop, isChange h))) ++
    "--- ".toList ++ range ',' w.newStart w.newStop ++ " ----\n".toList ++
    (if hs.all (·.newCount = 0) then []
      else contextLines m p.new '+' w.newStop w.newStart
        (hs.map fun h => (h.newStart, h.newStop, isChange h)))

/-! ### Side by side -/

/-- How wide a half of a line is, and where the second one begins. -/
def halves (m : Manner) : Nat × Nat :=
  let tab := if m.expandsTabs then 1 else m.tabSize
  let both := tab + 3
  let middle := m.width / 2 + both / 2 + (if m.width % 2 = 1 && both % 2 = 1 then 1 else 0)
  let place := middle - middle % tab
  let half := if place = 0 || m.width ≤ place then 0 else min (place - 3) (m.width - place)
  (half, if half = 0 then m.width else place)

/-- Tabs and blanks from one column to another. -/
def gap (m : Manner) : (room start stop : Nat) → List Char
  | 0, _, _ => []
  | room + 1, start, stop =>
    let next := (start / m.tabSize + 1) * m.tabSize
    if !m.expandsTabs && next ≤ stop then '\t' :: gap m room next stop
    else List.replicate (stop - start) ' '

/-- As much of a line as a half has room for, given at which column of the line and of the half
it goes on. Gives also the column at which it ends. -/
def half (m : Manner) (bound : Nat) : (input output : Nat) → List Char → List Char × Nat
  | _, output, [] | _, output, '\n' :: _ => ([], output)
  | input, output, '\t' :: cs =>
    let spaces := m.tabSize - input % m.tabSize
    let stop := output + spaces
    let (here, place) :=
      if input ≠ output then ([], output)
      else if m.expandsTabs then
        (List.replicate (min bound stop - output) ' ', max output (min bound stop))
      else if stop < bound then (['\t'], stop)
      else ([], output)
    let (more, place) := half m bound (input + spaces) place cs
    (here ++ more, place)
  | input, output, c :: cs =>
    if isShown c then
      if input < bound then
        let (more, place) := half m bound (input + 1) (input + 1) cs
        (c :: more, place)
      else half m bound (input + 1) output cs
    else
      let (more, place) := half m bound input output cs
      (if input < bound then c :: more else more, place)

/-- Two lines side by side, or one of them. -/
def sides (m : Manner) (left : Option (List Char)) (sign : Char) (right : Option (List Char)) :
    List Char :=
  let (width, start) := halves m
  let hasEnd (l : Option (List Char)) : Bool := l.any (·.getLast? = some '\n')
  let (text, column) := (left.map (half m width 0 0)).getD ([], 0)
  let sign := if sign = '|' && hasEnd left ≠ hasEnd right then
      (if hasEnd left then '/' else '\\') else sign
  let middle := (width + start - 1) / 2
  let (text, column) := if sign = ' ' then (text, column)
    else (text ++ gap m (m.width + 1) column middle ++ [sign], max column middle + 1)
  let text := match right with
    | none => text
    | some l => if l.head? = some '\n' then text
      else text ++ gap m (m.width + 1) column start ++ (half m width 0 0 l).1
  if hasEnd left || hasEnd right then text ++ ['\n'] else text

/-- Lines that stay. If there are more of them in one file, that makes no difference. -/
def sameSides (m : Manner) (olds news : List (List Char)) : List Char :=
  if m.hidesSame then []
  else
    ((olds.zip news).flatMap fun (a, b) =>
      if m.showsLeftOnly then sides m (some a) '(' none else sides m (some a) ' ' (some b)) ++
      (news.drop olds.length).flatMap (fun l => sides m none ')' (some l)) ++
      (olds.drop news.length).flatMap (fun l => sides m (some l) '(' none)

/-- All lines side by side, from a line of both files on. -/
def columns (m : Manner) (p : Pages) : (old new : Nat) → List Hunk → List Char
  | old, new, [] =>
    sameSides m (linesAt p.old old (p.old.size - old)) (linesAt p.new new (p.new.size - new))
  | old, new, h :: hs =>
    let olds := p.olds h
    let news := p.news h
    let both := min h.oldCount h.newCount
    sameSides m (linesAt p.old old (h.oldStart - old)) (linesAt p.new new (h.newStart - new)) ++
      (olds.zip news).flatMap (fun (a, b) => sides m (some a) '|' (some b)) ++
      (news.drop both).flatMap (fun l => sides m none '>' (some l)) ++
      (olds.drop both).flatMap (fun l => sides m (some l) '<' none) ++
      columns m p h.oldStop h.newStop hs

/-! ### Formats -/

/-- A character between quotes: itself, or the one of a number in octal digits. -/
def quotedChar? : List Char → Option (Char × List Char)
  | '\'' :: '\\' :: cs =>
    let digits := cs.takeWhile isOctal
    match cs.drop digits.length with
    | '\'' :: rest => some (Script.octalByte digits, rest)
    | _ => none
  | '\'' :: c :: '\'' :: rest => some (c, rest)
  | _ => none

/-- A format with what its letters stand for. -/
def filled (value : Char → Option (List Char)) : (room : Nat) → List Char → List Char
  | 0, _ | _, [] => []
  | room + 1, '%' :: '%' :: cs => '%' :: filled value room cs
  | room + 1, '%' :: 'c' :: cs =>
    match quotedChar? cs with
    | some (c, rest) => c :: filled value room rest
    | none => '%' :: 'c' :: filled value room cs
  | room + 1, '%' :: 'd' :: c :: cs | room + 1, '%' :: c :: cs =>
    match value c with
    | some text => text ++ filled value room cs
    | none => '%' :: c :: filled value room cs
  | room + 1, c :: cs => c :: filled value room cs

/-- A line in a format. -/
def formattedLine (m : Manner) (format l : List Char) (number : Nat) : List Char :=
  filled (fun c => match c with
    | 'l' => some (body m (withoutEnd l))
    | 'L' => some (body m l)
    | 'n' => some (digitsOf number)
    | _ => none) (format.length + 1) format

/-- Lines of a file in a format. -/
def formattedLines (m : Manner) (page : Array (List Char)) (format : List Char)
    (start count : Nat) : List Char :=
  ((linesAt page start count).zipIdx (start + 1)).flatMap fun (l, n) => formattedLine m format l n

/-- A group of lines in a format. -/
def formattedGroup (m : Manner) (p : Pages) (f : Formats) (format : List Char) (h : Hunk) :
    List Char :=
  let numbers (letters : String) (start count : Nat) : List (Char × List Char) :=
    letters.toList.zip [digitsOf start, digitsOf (start + 1), digitsOf (start + count),
      digitsOf (start + count + 1), digitsOf count]
  let counts := numbers "eflmn" h.oldStart h.oldCount ++ numbers "EFLMN" h.newStart h.newCount
  filled (fun c => match c with
    | '<' => some (formattedLines m p.old f.oldLine h.oldStart h.oldCount)
    | '>' => some (formattedLines m p.new f.newLine h.newStart h.newCount)
    | '=' => some (formattedLines m p.old f.sameLine h.oldStart h.oldCount)
    | c => counts.lookup c) (format.length + 1) format

/-- All lines by formats, from a line of both files on. -/
def formatted (m : Manner) (p : Pages) (f : Formats) : (old new : Nat) → List Hunk → List Char
  | old, new, hs =>
    let same (count : Nat) : List Char :=
      if count = 0 then [] else formattedGroup m p f f.sameGroup ⟨old, count, new, count⟩
    match hs with
    | [] => same (p.old.size - old)
    | h :: hs =>
      let format := match letter h with
        | 'a' => f.newGroup
        | 'd' => f.oldGroup
        | _ => f.changedGroup
      same (h.oldStart - old) ++ formattedGroup m p f format h ++
        formatted m p f h.oldStop h.newStop hs

/-! ### All -/

/-- All differences in a manner, below titles of the two files. -/
def shown (m : Manner) (p : Pages) (oldTitle newTitle : List Char) : List Char :=
  let counting := p.hunks.filter (p.counts m)
  let titled (first second : String) (text : List Char) : List Char :=
    if text.isEmpty then []
    else first.toList ++ oldTitle ++ '\n' :: second.toList ++ newTitle ++ '\n' :: text
  match m.style with
  | .normal => counting.flatMap (normalHunk m p)
  | .edits => counting.reverse.flatMap (editedHunk m p)
  | .forwardEdits => counting.flatMap (forwardHunk m p)
  | .counts => counting.flatMap (countedHunk m p)
  | .unified n => titled "--- " "+++ " ((p.groups m n).flatMap (unifiedGroup m p n))
  | .context n => titled "*** " "--- " ((p.groups m n).flatMap (contextGroup m p n))
  | .columns => columns m p 0 0 counting
  | .formatted f => formatted m p f 0 0 counting

end ParserConformance.Script.Tool.Difference
