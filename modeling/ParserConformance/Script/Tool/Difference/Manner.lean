import ParserConformance.Script.Tool.Difference
import ParserConformance.Script.Tool.Regex.Matching
import ParserConformance.Script.Tool.Tabs

/-!
# What counts as a difference

Lines may be compared without regard to the case of letters or to blanks, and hunks in which
nothing but lines of some kind change may be left out.
-/

namespace ParserConformance.Script.Tool.Difference

/-- Which blanks make no difference. -/
structure Blanks where
  /-- A tab counts as the blanks that it stands for. -/
  tabs : Bool := false
  /-- Blanks at the end of a line do not count. -/
  trailing : Bool := false
  /-- All blanks that stand together count as one. -/
  runs : Bool := false
  /-- No blank counts. -/
  all : Bool := false

/-- Formats for groups of lines and for lines: those that stay, those that are taken out, those
that are put in and, for groups, those that change. -/
structure Formats where
  /-- The format of a line that stays. -/
  sameLine : List Char
  /-- The format of a line that is taken out. -/
  oldLine : List Char
  /-- The format of a line that is put in. -/
  newLine : List Char
  /-- The format of lines that stay. -/
  sameGroup : List Char
  /-- The format of lines that are taken out. -/
  oldGroup : List Char
  /-- The format of lines that are put in. -/
  newGroup : List Char
  /-- The format of lines that others take the place of. -/
  changedGroup : List Char

/-- How differences are shown. -/
inductive Style where
  /-- As commands that tell where lines change, and the lines. -/
  | normal
  /-- With so many lines around them, both files one after the other. -/
  | context (lines : Nat)
  /-- With so many lines around them, both files in one. -/
  | unified (lines : Nat)
  /-- As commands of an editor, from the end to the start. -/
  | edits
  /-- As such commands from the start to the end, which no editor reads. -/
  | forwardEdits
  /-- As commands that count lines. -/
  | counts
  /-- Both files side by side. -/
  | columns
  /-- By formats. -/
  | formatted (f : Formats)

/-- How many lines around differences a style shows. -/
def Style.horizon : Style → Nat
  | .context n | .unified n => n
  | _ => 0

/-- Whether a style can tell that the last line of a file has no end. -/
def Style.tellsEnds : Style → Bool
  | .edits | .forwardEdits => false
  | _ => true

/-- What counts as a difference and how it is shown. -/
structure Manner where
  /-- How differences are shown. -/
  style : Style := .normal
  /-- Whether the case of letters makes no difference. -/
  ignoresCase : Bool := false
  /-- Which blanks make no difference. -/
  blanks : Blanks := {}
  /-- Whether hunks are left out in which only empty lines change. -/
  ignoresEmpty : Bool := false
  /-- Whether a carriage return at the end of a line is dropped. -/
  dropsReturns : Bool := false
  /-- Hunks are left out in which only lines change in which one of these occurs. -/
  ignored : List Regex := []
  /-- The kind of lines that name a part of a file; the last one before a hunk is shown. -/
  title : Option Regex := none
  /-- Whether a tab stands before each line. -/
  startsWithTab : Bool := false
  /-- Whether nothing stands before an empty line that stays. -/
  leavesEmpty : Bool := false
  /-- Whether tabs are shown as blanks. -/
  expandsTabs : Bool := false
  /-- How far tab stops are from each other. -/
  tabSize : Nat := 8
  /-- How wide lines are side by side. -/
  width : Nat := 130
  /-- Whether lines that stay are shown once side by side. -/
  showsLeftOnly : Bool := false
  /-- Whether lines that stay are left out side by side. -/
  hidesSame : Bool := false

namespace Manner

/-- Whether blanks at the end of a line make no difference. -/
def ignoresTrailing (m : Manner) : Bool := m.blanks.trailing || m.blanks.runs || m.blanks.all

/-- A line without blanks at its end. -/
def withoutTrailing (l : List Char) : List Char := (l.reverse.dropWhile isSpaceChar).reverse

/-- A line with one blank for all that stand together. -/
def withoutRuns : (afterBlank : Bool) → List Char → List Char
  | _, [] => []
  | afterBlank, c :: cs =>
    if !isSpaceChar c then c :: withoutRuns false cs
    else if afterBlank then withoutRuns true cs
    else ' ' :: withoutRuns true cs

/-- What of a line is compared. -/
def key (m : Manner) (l : List Char) : List Char :=
  let l := if m.ignoresTrailing then withoutTrailing l else l
  let l :=
    if m.blanks.all then l.filter (!isSpaceChar ·)
    else if m.blanks.runs then withoutRuns false l
    else if m.blanks.tabs then expandedLine (.every m.tabSize) false true 0 l
    else l
  if m.ignoresCase then l.map Char.toLower else l

/-- Whether changes of a line make no difference. -/
def isIgnored (m : Manner) (l : List Char) : Bool :=
  let text := if l.getLast? = some '\n' then l.dropLast else l
  (m.ignoresEmpty && (text.isEmpty || (m.ignoresTrailing && text.all isSpaceChar))) ||
    m.ignored.any (·.occursIn text)

/-- Whether there are changes that make no difference. -/
def ignores (m : Manner) : Bool := m.ignoresEmpty || !m.ignored.isEmpty

/-- Whether equal files need no look at their lines. -/
def comparesBytes (m : Manner) : Bool :=
  !(m.ignores || m.ignoresCase || m.ignoresTrailing || m.blanks.tabs || m.dropsReturns)

end Manner

/-! ### Pages -/

/-- The lines of two files with their ends, and the hunks that lead from one to the other. -/
structure Pages where
  /-- The lines of the first file. -/
  old : Array (List Char)
  /-- The lines of the second file. -/
  new : Array (List Char)
  /-- The hunks. -/
  hunks : List Hunk

/-- So many lines from one on. -/
def linesAt (page : Array (List Char)) (start count : Nat) : List (List Char) :=
  (page.extract start (start + count)).toList

/-- The lines of a text with their ends. The last one always has an end if it is not told that it
has none. -/
def pageOf (m : Manner) (text : List Char) : List (List Char) :=
  let (ls, isEnded) := linesOf text
  let trimmed (l : List Char) : List Char :=
    if m.dropsReturns && l.getLast? = some '\r' then l.dropLast else l
  let whole := ls.map fun l => trimmed l ++ ['\n']
  if isEnded || !m.style.tellsEnds then whole else whole.dropLast ++ (ls.getLast?.toList)

/-- Two texts as pages. -/
def Pages.of (m : Manner) (old new : List Char) : Pages :=
  let olds := pageOf m old
  let news := pageOf m new
  ⟨olds.toArray, news.toArray, hunksOf m.key m.style.horizon olds news⟩

namespace Hunk

/-- The line behind those that are taken out. -/
def oldStop (h : Hunk) : Nat := h.oldStart + h.oldCount

/-- The line behind those that are put in. -/
def newStop (h : Hunk) : Nat := h.newStart + h.newCount

end Hunk

namespace Pages

/-- The lines that a hunk takes out. -/
def olds (p : Pages) (h : Hunk) : List (List Char) := linesAt p.old h.oldStart h.oldCount

/-- The lines that a hunk puts in. -/
def news (p : Pages) (h : Hunk) : List (List Char) := linesAt p.new h.newStart h.newCount

/-- Whether a hunk makes a difference. -/
def counts (p : Pages) (m : Manner) (h : Hunk) : Bool :=
  !m.ignores || !(p.olds h ++ p.news h).all m.isIgnored

/-- Whether the files differ. -/
def differ (p : Pages) (m : Manner) : Bool := p.hunks.any (p.counts m)

/-- The hunks in groups whose lines around them meet. A hunk that makes no difference has to be
nearer. -/
def groups (p : Pages) (m : Manner) (around : Nat) : List (List Hunk) :=
  (go [] p.hunks).filter fun hs => hs.any (p.counts m)
where
  /-- Goes on with the hunks of the group at work, backwards. -/
  go (group : List Hunk) : List Hunk → List (List Hunk)
    | [] => if group.isEmpty then [] else [group.reverse]
    | h :: hs =>
      match group with
      | [] => go [h] hs
      | last :: _ =>
        let reach := if p.counts m h then 2 * around + 1 else around
        if h.oldStart - last.oldStop < reach then go (h :: group) hs
        else group.reverse :: go [h] hs

end Pages

end ParserConformance.Script.Tool.Difference
