import ParserConformance.Script.Tool.Call

/-!
# Patches

A patch tells for some files how they are to be changed, in pieces that name the lines before and
after and often those around them. Patches are read in the three forms in which differences are
shown.
-/

namespace ParserConformance.Script.Tool.Difference

/-- On which side of a difference a line stands. -/
inductive Side where
  /-- On both. -/
  | both
  /-- On the old one. -/
  | old
  /-- On the new one. -/
  | new
  deriving DecidableEq, Repr

/-- The other way round. -/
def Side.swapped : Side → Side
  | .both => .both
  | .old => .new
  | .new => .old

/-- A piece of a patch. -/
structure Piece where
  /-- The first line on the old side. -/
  oldStart : Nat
  /-- The first line on the new side. -/
  newStart : Nat
  /-- The lines, each with its end if it has one. -/
  lines : List (Side × List Char)
  deriving Repr

namespace Piece

/-- The lines on the old side. -/
def olds (p : Piece) : List (List Char) :=
  p.lines.filterMap fun (s, l) => if s = .new then none else some l

/-- The lines on the new side. -/
def news (p : Piece) : List (List Char) :=
  p.lines.filterMap fun (s, l) => if s = .old then none else some l

/-- The piece that undoes what this one does. -/
def swapped (p : Piece) : Piece :=
  { oldStart := p.newStart
    newStart := p.oldStart
    lines := (p.lines.splitBy fun a b => (a.1 = .both) = (b.1 = .both)).flatMap fun run =>
      let turned := run.map fun (s, l) => (s.swapped, l)
      turned.filter (·.1 ≠ .new) ++ turned.filter (·.1 = .new) }

/-- How many lines on both sides it begins with. -/
def before (p : Piece) : Nat := (p.lines.takeWhile (·.1 = .both)).length

/-- How many lines on both sides it ends with. -/
def behind (p : Piece) : Nat := (p.lines.reverse.takeWhile (·.1 = .both)).length

end Piece

/-- The form of a patch. -/
inductive Form where
  /-- Lines of both sides among each other. -/
  | unified
  /-- One side behind the other, with lines around. -/
  | context
  /-- One side behind the other, without lines around. -/
  | plain
  deriving DecidableEq, Repr

/-- The name of a file at the front of a patch, and what is told of its time. -/
structure Title where
  /-- The name. -/
  name : List Char
  /-- All that stands there. -/
  whole : List Char
  deriving Repr

/-- Whether a title tells that there is no file. -/
def Title.isNothing (t : Title) : Bool :=
  t.name = "/dev/null".toList ||
    [" 1970-01-01 00:00:00".toList, "Thu Jan  1 00:00:00 1970".toList].any fun start =>
      start.isPrefixOf ((t.whole.drop t.name.length).map fun c => if c = '\t' then ' ' else c)

/-- What is wrong with a patch. -/
inductive Patch.Fault where
  /-- A line that does not go with what it stands in. -/
  | malformed (line : Nat) (text : List Char)
  /-- The end where a line should be; it may be told where that is. -/
  | truncated (line : Option Nat)
  deriving Repr

/-- The wording of a fault. -/
def Patch.Fault.message : Patch.Fault → List Char
  | .malformed line text =>
    "malformed patch at line ".toList ++ digitsOf line ++ ": ".toList ++ text
  | .truncated line => "unexpected end of file in patch".toList ++
    line.elim [] fun n => " at line ".toList ++ digitsOf n

/-- What a patch tells of one file. -/
structure FilePatch where
  /-- Its form. -/
  form : Form
  /-- The lines that lead up to it. -/
  front : List (List Char)
  /-- The number of the first line behind those. -/
  line : Nat
  /-- The title of the old file. -/
  old : Option Title
  /-- The title of the new file. -/
  new : Option Title
  /-- The name in a line that begins with `Index:`. -/
  index : Option (List Char)
  /-- The pieces. -/
  pieces : List Piece
  /-- What is wrong behind those, if something is. -/
  fault : Option Patch.Fault
  deriving Repr

namespace Patch

/-- What is behind a start of a line. -/
def behind? (start : String) (l : List Char) : Option (List Char) :=
  if start.toList.isPrefixOf l then some (l.drop start.length) else none

/-- The title that stands behind the mark of a line. -/
def titleOf (cs : List Char) : Title :=
  let cs := cs.dropWhile fun c => c = ' ' || c = '\t'
  let untilTab := cs.takeWhile (· ≠ '\t')
  ⟨if untilTab.length < cs.length then untilTab else cs.takeWhile (!isSpaceChar ·), cs⟩

/-- A number at the front of a text, and what is behind it. -/
def number? (cs : List Char) : Option (Nat × List Char) :=
  let digits := cs.takeWhile isDigit
  if digits.isEmpty then none else some (valueOf digits, cs.drop digits.length)

/-- A number and perhaps a second one behind a comma, and what is behind them. -/
def numbers? (cs : List Char) : Option (Nat × Option Nat × List Char) := do
  let (a, rest) ← number? cs
  match rest with
  | ',' :: more =>
    let (b, rest) ← number? more
    return (a, some b, rest)
  | _ => return (a, none, rest)

/-- The ranges of a unified piece: the first line and the number of lines on each side. -/
def unifiedRanges? (l : List Char) : Option ((Nat × Nat) × Nat × Nat) := do
  let rest ← behind? "@@ -" l
  let (a, n, rest) ← numbers? rest
  let rest ← behind? " +" rest
  let (b, m, rest) ← numbers? rest
  let _ ← behind? " @@" rest
  return ((a, n.getD 1), b, m.getD 1)

/-- The command of a plain piece: two ranges and the letter between them. -/
def plainCommand? (l : List Char) : Option ((Nat × Nat) × Char × Nat × Nat) := do
  let (a, z, rest) ← numbers? l
  match rest with
  | letter :: rest =>
    let (b, y, rest) ← numbers? rest
    if "acd".toList.contains letter && rest.isEmpty then
      return ((a, z.getD a), letter, b, y.getD b)
    else none
  | [] => none

/-- The range of one side of a piece with lines around it. -/
def contextRange? (start : String) (l : List Char) : Option (Nat × Nat) := do
  let rest ← behind? start l
  let (a, z, rest) ← numbers? rest
  let _ ← behind? " " rest
  return (a, z.getD a)

/-- Lines that are left to read, with the number of the first of them. -/
structure Reader where
  /-- The lines. -/
  rest : List (List Char)
  /-- The number of the first of them. -/
  line : Nat

/-- Behind some more lines. -/
def Reader.skip (r : Reader) (n : Nat) : Reader := ⟨r.rest.drop n, r.line + n⟩

/-- A line with its end, unless the next line says that it has none; and what is left then. -/
def Reader.close (r : Reader) (l : List Char) : List Char × Reader :=
  match r.rest with
  | ('\\' :: ' ' :: _) :: _ => (l, r.skip 1)
  | _ => (l ++ ['\n'], r)

/-- The lines of a unified piece with so many lines on each side. -/
def unifiedLines : (room olds news : Nat) → Reader → Except Fault (List (Side × List Char) × Reader)
  | 0, _, _, r => .ok ([], r)
  | _ + 1, 0, 0, r => .ok ([], r)
  | room + 1, olds, news, r =>
    match r.rest with
    | [] =>
      if 2 < news then .error (.truncated none)
      else
        match olds, news with
        | olds + 1, news + 1 => do
          let (more, r) ← unifiedLines room olds news r
          return ((.both, ['\n']) :: more, r)
        | _, _ => .error (.malformed (r.line - 1) " \n".toList)
    | l :: _ =>
      let refuse : Except Fault (List (Side × List Char) × Reader) := .error (.malformed r.line (l ++ ['\n']))
      let goOn (s : Side) (text : List Char) (olds news : Nat) := do
        let (text, r) := (r.skip 1).close text
        let (more, r) ← unifiedLines room olds news r
        return ((s, text) :: more, r)
      match l, olds, news with
      | '-' :: text, olds + 1, news => goOn .old text olds news
      | '+' :: text, olds, news + 1 => goOn .new text olds news
      | ' ' :: text, olds + 1, news + 1 => goOn .both text olds news
      | [], olds + 1, news + 1 => goOn .both [] olds news
      | _, _, _ => refuse

/-- Marked lines, each behind a mark and a blank, up to a number of them. -/
def markedLines (marks : String) : (count : Nat) → Reader → List (Char × List Char) × Reader
  | 0, r => ([], r)
  | count + 1, r =>
    match r.rest with
    | (mark :: ' ' :: text) :: _ =>
      if marks.toList.contains mark then
        let (text, r) := (r.skip 1).close text
        let (more, r) := markedLines marks count r
        ((mark, text) :: more, r)
      else ([], r)
    | _ => ([], r)

/-- The lines of two sides among each other. -/
def merged : (room : Nat) → (olds news : List (Char × List Char)) → List (Side × List Char)
  | 0, _, _ => []
  | room + 1, olds, news =>
    match olds, news with
    | (' ', l) :: olds, (' ', _) :: news => (.both, l) :: merged room olds news
    | (' ', l) :: olds, [] => (.both, l) :: merged room olds []
    | [], (' ', l) :: news => (.both, l) :: merged room [] news
    | (' ', l) :: olds, (_, m) :: news => (.new, m) :: merged room ((' ', l) :: olds) news
    | (_, l) :: olds, news => (.old, l) :: merged room olds news
    | [], (_, m) :: news => (.new, m) :: merged room [] news
    | [], [] => []

/-- The number of lines of a range of a piece with lines around it. -/
def sizeOf (range : Nat × Nat) : Nat := if range.2 = 0 then 0 else range.2 + 1 - range.1

/-- A piece with lines around it, behind the line of stars. -/
def contextPiece (r : Reader) : Except Fault (Piece × Reader) :=
  match (r.rest.head?).bind (contextRange? "*** ") with
  | none => .error (r.rest.head?.elim (.truncated none) fun l => .malformed r.line (l ++ ['\n']))
  | some old =>
    let (olds, r) := markedLines " -!" (sizeOf old) (r.skip 1)
    match (r.rest.head?).bind (contextRange? "--- ") with
    | none => .error (r.rest.head?.elim (.truncated none) fun l => .malformed r.line (l ++ ['\n']))
    | some new =>
      let (news, r) := markedLines " +!" (sizeOf new) (r.skip 1)
      let olds := if olds.isEmpty then news.filter (·.1 = ' ') else olds
      let news := if news.isEmpty then olds.filter (·.1 = ' ') else news
      let start (range : Nat × Nat) : Nat := if range.2 = 0 then range.1 + 1 else range.1
      .ok (⟨start old, start new, merged (olds.length + news.length + 1) olds news⟩, r)

/-- A plain piece. -/
def plainPiece (r : Reader) (old : Nat × Nat) (letter : Char) (new : Nat × Nat) :
    Except Fault (Piece × Reader) := do
  let size (range : Nat × Nat) (isThere : Bool) : Nat :=
    if isThere then range.2 + 1 - range.1 else 0
  let take (mark : String) (count : Nat) (r : Reader) : Except Fault (List (List Char) × Reader) :=
    let (ls, r) := markedLines mark count r
    if ls.length < count then .error (r.rest.head?.elim (.truncated (some (r.line - 1)))
        fun l => .malformed r.line (l ++ ['\n']))
    else .ok (ls.map (·.2), r)
  let (olds, r) ← take "<" (size old (letter ≠ 'a')) (r.skip 1)
  let r := if letter = 'c' && r.rest.head? = some "---".toList then r.skip 1 else r
  let (news, r) ← take ">" (size new (letter ≠ 'd')) r
  let start (range : Nat × Nat) (isThere : Bool) : Nat :=
    if isThere then range.1 else range.1 + 1
  return (⟨start old (letter ≠ 'a'), start new (letter ≠ 'd'),
    olds.map (.old, ·) ++ news.map (.new, ·)⟩, r)

/-- The next piece of a form, if there is one. -/
def piece? (form : Form) (r : Reader) : Except Fault (Option (Piece × Reader)) :=
  match r.rest with
  | [] => .ok none
  | l :: _ =>
    match form with
    | .unified =>
      match unifiedRanges? l with
      | none => .ok none
      | some ((a, n), b, m) => do
        let (lines, r) ← unifiedLines (n + m + 1) n m (r.skip 1)
        return some (⟨if n = 0 then a + 1 else a, if m = 0 then b + 1 else b, lines⟩, r)
    | .context =>
      if (behind? "***************" l).isNone then .ok none
      else (contextPiece (r.skip 1)).map some
    | .plain =>
      match plainCommand? l with
      | none => .ok none
      | some (old, letter, new) => (plainPiece r old letter new).map some

/-- The pieces of a form that stand behind each other, and what is wrong behind them, if something
is. -/
def pieces (form : Form) : (room : Nat) → Reader → List Piece × Option Fault × Reader
  | 0, r => ([], none, r)
  | room + 1, r =>
    match piece? form r with
    | .error fault => ([], some fault, r)
    | .ok none => ([], none, r)
    | .ok (some (p, r)) =>
      let (more, rest) := pieces form room r
      (p :: more, rest)

/-- What has been seen in front of the pieces of a file. -/
structure Front where
  /-- The lines, the last one first. -/
  lines : List (List Char) := []
  /-- What stands behind three stars. -/
  stars : Option Title := none
  /-- What stands behind three minus signs. -/
  minuses : Option Title := none
  /-- What stands behind three plus signs. -/
  pluses : Option Title := none
  /-- What stands behind `Index:`. -/
  index : Option (List Char) := none

/-- With one more line. -/
def Front.add (f : Front) (l : List Char) : Front :=
  let f := { f with lines := l :: f.lines }
  match behind? "*** " l, behind? "--- " l, behind? "+++ " l, behind? "Index:" l with
  | some cs, _, _, _ => { f with stars := some (titleOf cs) }
  | _, some cs, _, _ => { f with minuses := some (titleOf cs) }
  | _, _, some cs, _ => { f with pluses := some (titleOf cs) }
  | _, _, _, some cs => { f with index := some (titleOf cs).name }
  | _, _, _, _ => f

/-- The form of the pieces that begin with a line, if any do. -/
def formAt? (r : Reader) : Option Form :=
  match r.rest with
  | [] => none
  | l :: more =>
    if (unifiedRanges? l).isSome then some .unified
    else if (behind? "***************" l).isSome &&
        (more.head?.bind (contextRange? "*** ")).isSome then some .context
    else if (plainCommand? l).isSome && more.head?.any fun m =>
        (behind? "< " m).isSome || (behind? "> " m).isSome then some .plain
    else none

/-- The patches for files in some lines, up to something that is wrong. -/
def files : (room : Nat) → Front → Reader → List FilePatch
  | 0, _, _ => []
  | room + 1, f, r =>
    match formAt? r, r.rest with
    | _, [] => []
    | none, l :: _ => files room (f.add l) (r.skip 1)
    | some form, _ =>
      let (ps, fault, next) := pieces form (r.rest.length + 1) r
      let (old, new) := match form with
        | .unified => (f.minuses, f.pluses)
        | .context => (f.stars, f.minuses)
        | .plain => (none, none)
      { form, front := f.lines.reverse, line := r.line, old, new, index := f.index, pieces := ps,
        fault } :: if fault.isSome then [] else files room {} next

end Patch

/-- The patches for files in a text. -/
def patchesOf (cs : List Char) : List FilePatch :=
  let ls := (linesOf cs).1
  Patch.files (ls.length + 1) {} ⟨ls, 1⟩

end ParserConformance.Script.Tool.Difference
