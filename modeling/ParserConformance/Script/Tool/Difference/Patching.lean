import ParserConformance.Script.Tool.Difference.Patch
import ParserConformance.Script.Tool.Status

/-!
# Patching files

`patch` changes files as a patch tells. A piece whose lines do not stand where they should is
sought before and behind, at last with less regard to the lines around it. Pieces that are not
found are kept in a file of their own.
-/

namespace ParserConformance.Script.Tool.Difference

/-! ### Places -/

/-- A file that is being patched. -/
structure Patched where
  /-- The lines of the file, each with its end if it has one. -/
  lines : Array (List Char)
  /-- How many of them are done. -/
  done : Nat := 0
  /-- The new lines so far, the last one first. -/
  out : List (List Char) := []
  /-- How far the last piece was from where it should have been. -/
  offset : Int := 0
  /-- How many more lines there are now in front of the next piece. -/
  growth : Int := 0

namespace Patched

/-- Whether the old lines of a piece stand from a line on, some at both ends aside. Lines count
from one. -/
def fits (f : Patched) (olds : List (List Char)) (start front back : Nat) : Bool :=
  let inner := (olds.take (olds.length - back)).drop front
  inner.zipIdx.all fun (l, i) => f.lines[start + front + i - 1]? = some l

/-- The nearest line to a guess at which a piece fits, by growing distance. -/
def nearest? (fits : Int → Bool) (most least guess : Int) : (room : Nat) → (distance : Nat) →
    Option Int
  | 0, _ => none
  | room + 1, distance =>
    let d : Int := distance
    if d ≤ most - guess && fits (guess + d) then some (guess + d)
    else if d ≤ guess - least && fits (guess - d) then some (guess - d)
    else nearest? fits most least guess room (distance + 1)

/-- The line at which a piece fits, if so many lines around it need not. -/
def place? (f : Patched) (p : Piece) (fuzz : Nat) : Option Nat :=
  let olds := p.olds
  let guess : Int := p.oldStart + f.offset
  if olds.isEmpty then some guess.toNat
  else
    let context := max p.before p.behind
    let front : Int := (fuzz : Int) + p.before - context
    let back : Int := (fuzz : Int) + p.behind - context
    let count : Int := olds.length
    let most : Int := f.lines.size - (count - back) + 1
    let least : Int := max 1 (f.done + 1)
    let at? (start : Int) (front back : Nat) : Option Nat :=
      if 1 ≤ start && f.fits olds start.toNat front back then some start.toNat else none
    if front < 0 && p.oldStart ≤ 1 then
      if back < 0 && (olds.length ≠ f.lines.size || p.before < f.done) then none
      else if f.done ≤ p.before && 1 ≤ most then at? 1 0 back.toNat
      else none
    else
      let front := front.toNat
      if back < 0 then
        let start : Int := f.lines.size - count + 1
        if least ≤ start then at? start front 0 else none
      else
        let reach := (max (most - guess) (guess - least)).toNat
        (nearest? (fun start => (at? start front back.toNat).isSome) most least guess (reach + 1)
          0).map Int.toNat

/-- Carries a piece out at a line. -/
def apply (f : Patched) (p : Piece) (start : Nat) : Patched :=
  let skipped := (f.lines.extract f.done (start - 1)).toList
  let out := skipped.reverse ++ f.out
  let (out, next) := p.lines.foldl (fun (out, next) (s, l) => match s with
    | .both => ((f.lines[next]?).getD l :: out, next + 1)
    | .old => (out, next + 1)
    | .new => (l :: out, next)) (out, start - 1)
  { f with
    out, done := next
    offset := (start : Int) - p.oldStart
    growth := f.growth + p.news.length - p.olds.length }

/-- The new text. -/
def text (f : Patched) : List Char :=
  (f.out.reverse ++ (f.lines.extract f.done f.lines.size).toList).flatten

end Patched

/-! ### Pieces that are not found -/

/-- A range of lines, as a unified piece begins. -/
def unifiedRange (start : Int) (count : Nat) : List Char :=
  let shown (n : Int) : List Char := (toString n).toList
  if count = 0 then shown (start - 1) ++ ",0".toList
  else if count = 1 then shown start
  else shown start ++ ',' :: digitsOf count

/-- A line behind its mark. -/
def markedLine (mark l : List Char) : List Char := mark ++ l

/-- A piece in unified form, with its lines so much further down. -/
def unifiedPiece (p : Piece) (growth : Int) : List Char :=
  "@@ -".toList ++ unifiedRange (p.oldStart + growth) p.olds.length ++ " +".toList ++
    unifiedRange (p.newStart + growth) p.news.length ++ " @@\n".toList ++
    p.lines.flatMap fun (s, l) => match s with
      | .both => markedLine [' '] l
      | .old => markedLine ['-'] l
      | .new => markedLine ['+'] l

/-- The lines of a piece in runs that stand on both sides or not. -/
def runsOfSides (p : Piece) : List (List (Side × List Char)) :=
  p.lines.splitBy fun a b => (a.1 = .both) = (b.1 = .both)

/-- The lines of one side of a piece, each with a mark. Changes have a mark of their own if they
may be paired. -/
def sideLines (p : Piece) (side : Side) (mark : Char) (mayPair : Bool) : List Char :=
  (runsOfSides p).flatMap fun run =>
    let isPaired := mayPair && run.any (·.1 = .old) && run.any (·.1 = .new)
    run.flatMap fun (s, l) =>
      if s = .both then markedLine "  ".toList l
      else if s = side then markedLine [if isPaired then '!' else mark, ' '] l
      else []

/-- A piece in the form of one side behind the other, with its lines so much further down. -/
def contextText (p : Piece) (form : Form) (growth : Int) : List Char :=
  let range (start : Nat) (count : Nat) : List Char :=
    let first : Int := start + growth
    let shown (n : Int) : List Char := (toString n).toList
    if count = 0 then ['0']
    else if count = 1 then shown first
    else shown first ++ ',' :: shown (first + count - 1)
  let (stars, minuses) := if form = .plain then ("", " -----") else (" ****", " ----")
  let mayPair := form ≠ .plain
  let hasOld := p.lines.any (·.1 = .old)
  let hasNew := p.lines.any (·.1 = .new)
  "***************\n*** ".toList ++ range p.oldStart p.olds.length ++ stars.toList ++ ['\n'] ++
    (if hasOld || form = .plain then sideLines p .old '-' mayPair else []) ++
    "--- ".toList ++ range p.newStart p.news.length ++ minuses.toList ++ ['\n'] ++
    (if hasNew || form = .plain then sideLines p .new '+' mayPair else [])

/-- What stands in for a name with some directories taken off its front; without a number, all. -/
def stripped (count : Option Nat) (name : List Char) : Option (List Char) :=
  match count with
  | none => some (lastName name)
  | some n => go n name
where
  /-- Takes one more directory off. -/
  go : Nat → List Char → Option (List Char)
    | 0, cs => some cs
    | n + 1, cs =>
      match cs.dropWhile (· ≠ '/') with
      | [] => none
      | rest => go n (rest.dropWhile (· = '/'))

/-- The lines in front of pieces that are not found. -/
def rejectFront (q : FilePatch) (strip : Option Nat) (isTurned : Bool) : List Char :=
  let whole (t : Option Title) : List Char := t.elim "/dev/null".toList fun t =>
    if t.name = "/dev/null".toList then t.name
    else (stripped strip t.name).getD t.name ++ t.whole.drop t.name.length
  let (old, new) := if isTurned then (q.new, q.old) else (q.old, q.new)
  let (a, b) := if q.form = .unified then ("--- ", "+++ ") else ("*** ", "--- ")
  a.toList ++ whole old ++ '\n' :: b.toList ++ whole new ++ ['\n']

/-! ### Files -/

/-- The options. -/
def patchOptions : Known := {
  flags := "RNftsbEulcne"
  valued := "pidorFBzVDgYx"
  optional := ""
  hidden := ""
  long := [("reverse", 'R'), ("forward", 'N'), ("force", 'f'), ("batch", 't'), ("silent", 's'),
    ("quiet", 's'), ("backup", 'b'), ("remove-empty-files", 'E'), ("unified", 'u'),
    ("context", 'c'), ("normal", 'n'), ("ignore-whitespace", 'l'), ("strip", 'p'), ("input", 'i'),
    ("directory", 'd'), ("output", 'o'), ("reject-file", 'r'), ("fuzz", 'F'), ("prefix", 'B'),
    ("suffix", 'z'), ("version-control", 'V'), ("ifdef", 'D'), ("get", 'g'),
    ("basename-prefix", 'Y'), ("debug", 'x'), ("dry-run", '0'), ("verbose", '1'),
    ("no-backup-if-mismatch", '2'), ("backup-if-mismatch", '3'), ("posix", '4'),
    ("binary", '5')] }

/-- The run of `patch` so far. -/
structure PatchRun where
  /-- What was done. -/
  effect : Effect
  /-- Whether something ends it. -/
  isOver : Bool := false

namespace PatchRun

/-- Tells something. -/
def say (r : PatchRun) (text : List Char) : PatchRun := { r with effect := r.effect.write text }

/-- With at least a status. -/
def atLeast (r : PatchRun) (status : Nat) : PatchRun :=
  { r with effect := r.effect.atLeast status }

/-- Ends everything with a complaint. -/
def fatal (r : PatchRun) (c : Call) (text : List Char) : PatchRun :=
  { effect := (r.effect.warn (c.name ++ ": **** ".toList ++ text ++ ['\n'])).atLeast 2
    isOver := true }

end PatchRun

/-- The file that a patch is for, if one is found: the shortest name of those that exist, or the
name of a file that is to be made or erased. -/
def targetOf (d : Disk) (q : FilePatch) (strip : Option Nat) : Option (List Char) :=
  let name (t : Option Title) : Option (List Char) :=
    t.bind fun t => if t.name = "/dev/null".toList then none else stripped strip t.name
  let all := [name q.old, name q.new, q.index.bind (stripped strip)].filterMap id
  let there := all.filter fun n => d.isFile (pathOfChars n)
  let size (n : List Char) : Nat × Nat × Nat :=
    (n.count '/', (lastName n).length, n.length)
  let less (a b : List Char) : Bool :=
    let (x, y) := (size a, size b)
    x.1 < y.1 || (x.1 = y.1 && (x.2.1 < y.2.1 || (x.2.1 = y.2.1 && x.2.2 < y.2.2)))
  let best : List (List Char) → Option (List Char) := fun names =>
    names.foldl (fun b n => match b with
      | some m => if less n m then some n else some m
      | none => some n) none
  let makes := q.old.any (·.isNothing) || q.new.any (·.isNothing)
  best there <|> (if makes then best all else none)

/-- The pieces that are carried out one after the other. -/
structure Progress where
  /-- The file. -/
  file : Patched
  /-- What is told. -/
  told : List (List Char) := []
  /-- The pieces that were not found, as text. -/
  rejects : List (List Char) := []
  /-- How many those are. -/
  failed : Nat := 0
  /-- Whether the patch does not fit exactly. -/
  isInexact : Bool := false
  /-- Whether the pieces are turned round. -/
  isTurned : Bool
  /-- Whether all that is left is passed over. -/
  isSkipped : Bool := false

/-- With something told. -/
def Progress.tell (p : Progress) (text : List Char) : Progress := { p with told := text :: p.told }

/-- Asks whether a patch is to be turned round or else carried out as it is. Nobody answers. -/
def Progress.askToTurn (p : Progress) (o : Options) (question : List Char) : Progress × Bool :=
  if o.has 'N' then
    ({ (p.tell (question ++ "  Skipping patch.\n".toList)) with isSkipped := true }, false)
  else if o.has 'f' then
    (if o.has 's' then p else p.tell (question ++ "  Applying it anyway.\n".toList), false)
  else if o.has 't' then
    let answer := if p.isTurned then "  Ignoring -R.\n" else "  Assuming -R.\n"
    ({ p.tell (question ++ answer.toList) with isTurned := !p.isTurned, isInexact := true }, true)
  else
    let asked := if p.isTurned then "  Ignore -R? [n] \n" else "  Assume -R? [n] \n"
    let p := p.tell (question ++ asked.toList ++ "Apply anyway? [n] \n".toList)
    ({ (if o.has 's' then p else p.tell "Skipping patch.\n".toList) with isSkipped := true },
      false)

/-- The line at which a piece fits with the least freedom, and that freedom. -/
def Progress.find (p : Progress) (piece : Piece) (most : Nat) : Option (Nat × Nat) :=
  let most := min most (max piece.before piece.behind)
  (List.range (most + 1)).findSome? fun fuzz => (p.file.place? piece fuzz).map (·, fuzz)

/-- Carries a piece out. -/
def Progress.step (o : Options) (form : Form) (most : Nat) (p : Progress) (number : Nat)
    (given : Piece) : Progress :=
  let turn (p : Progress) : Piece := if p.isTurned then given.swapped else given
  let p :=
    if p.isSkipped then p
    else if number = 1 && (p.file.place? (turn p) 0).isNone && p.isTurned = o.has 'R' &&
        !o.has 'f' then
      match p.file.place? (turn { p with isTurned := !p.isTurned }) 0 with
      | some _ =>
        let kind := if p.isTurned then "Unreversed" else "Reversed (or previously applied)"
        (p.askToTurn o (kind ++ " patch detected!").toList).1
      | none => p
    else p
  let piece := turn p
  let found := if p.isSkipped then none else p.find piece most
  match found with
  | some (start, fuzz) =>
    let shownAt := (start : Int) + p.file.growth
    let file := p.file.apply piece start
    let parts : List Char :=
      (if fuzz = 0 then [] else " with fuzz ".toList ++ digitsOf fuzz) ++
      (if file.offset = 0 then []
        else " (offset ".toList ++ (toString file.offset).toList ++
          (if file.offset = 1 then " line)" else " lines)").toList)
    let isExact := fuzz = 0 && file.offset = 0
    let p := { p with file, isInexact := p.isInexact || !isExact }
    if (isExact && !o.has '1') || o.has 's' then p
    else p.tell ("Hunk #".toList ++ digitsOf number ++ " succeeded at ".toList ++
      (toString shownAt).toList ++ parts ++ ".\n".toList)
  | none =>
    let text := if form = .unified then unifiedPiece piece p.file.growth
      else contextText piece form p.file.growth
    let p := { p with
      rejects := text :: p.rejects, failed := p.failed + 1
      isInexact := p.isInexact || !p.isSkipped }
    if o.has 's' || (p.isSkipped && !o.has '1') then p
    else
      let shownAt : Int := piece.oldStart + p.file.growth
      p.tell ("Hunk #".toList ++ digitsOf number ++
        (if p.isSkipped then " ignored at " else " FAILED at ").toList ++
        (toString shownAt).toList ++ ".\n".toList)

/-- The lines of a text, each with its end if it has one. -/
def wholeLines (cs : List Char) : Array (List Char) :=
  let (ls, isEnded) := linesOf cs
  (ls.zipIdx.map fun (l, i) =>
    if isEnded || i + 1 < ls.length then l ++ ['\n'] else l).toArray

/-- The path of a file from the directory in which patches are carried out. -/
def pathIn (dir : Option (List Char)) (name : List Char) : List Char :=
  match dir with
  | some dir => if name.head? = some '/' then name else below dir name
  | none => name

/-- How a number of pieces is told. -/
def countOfPieces (failed count : Nat) (isSkipped : Bool) : List Char :=
  digitsOf failed ++ " out of ".toList ++ digitsOf count ++
    (if count = 1 then " hunk " else " hunks ").toList ++
    (if isSkipped then "ignored" else "FAILED").toList

/-- Makes the directories above a path. -/
def withHolders (mask : Nat) (d : Disk) (path : List Char) : Disk :=
  let parts := (splitAt '/' path).dropLast
  (List.range parts.length).foldl (fun d n =>
    let dir := ['/'].intercalate (parts.take (n + 1))
    match d.locate (pathOfChars dir) true with
    | .ok place => if (d.entry? place).isSome then d else
        d.set place (.directory (newDirectoryMode mask))
    | .error _ => d) d

/-- The text that has led to a patch for a file. -/
def leadingText (q : FilePatch) : List Char :=
  if q.front.isEmpty then []
  else
    let rule := List.replicate 26 '-' ++ ['\n']
    "The text leading up to this was:\n".toList ++ rule ++
      q.front.flatMap (fun l => '|' :: l ++ ['\n']) ++ rule

/-- Carries out the patch for a file. -/
def patchFile (c : Call) (o : Options) (given : Option (List Char)) (q : FilePatch)
    (r : PatchRun) : PatchRun :=
  let d := r.effect.disk
  let dir := o.value? 'd'
  let strip := (o.value? 'p').map valueOf
  let isReversed := o.has 'R'
  let isQuiet := o.has 's'
  let sayUnless (quiet : Bool) (text : List Char) (r : PatchRun) : PatchRun :=
    if quiet then r else r.say text
  let inDir : Disk := match dir.map fun dir => d.locate (pathOfChars dir) false with
    | some (.ok place) => { d with here := place }
    | _ => d
  match given <|> targetOf inDir q strip with
  | none =>
    let r := r.say ("can't find file to patch at input line ".toList ++ digitsOf q.line ++ ['\n'] ++
      (if strip.isSome then "Perhaps you used the wrong -p or --strip option?\n"
        else "Perhaps you should have used the -p or --strip option?\n").toList ++
      leadingText q)
    let r := if o.has 'f' || o.has 't' then r.say "No file to patch.  ".toList
      else r.say "File to patch: \nSkip this patch? [y] \n".toList
    (r.say ("Skipping patch.\n".toList ++
      countOfPieces q.pieces.length q.pieces.length true ++ ['\n'])).atLeast 1
  | some name =>
    let path := pathIn dir name
    let source := d.read (pathOfChars path)
    let text := ofBytes (source.toOption.getD [])
    let output := o.value? 'o'
    let isDry := o.has '0'
    let turned (isTurned : Bool) : Option Title × Option Title :=
      if isTurned then (q.new, q.old) else (q.old, q.new)
    let start : Progress := { file := { lines := wholeLines text }, isTurned := isReversed }
    let makesNothing := (turned isReversed).1.any (·.isNothing) && !text.isEmpty
    let erasesNothing := (turned isReversed).2.any (·.isNothing) && source.toOption.isNone
    let start :=
      if makesNothing then
        (start.askToTurn o ("The next patch would create the file ".toList ++ shownName name ++
          ",\nwhich already exists!".toList)).1
      else if erasesNothing then
        (start.askToTurn o ("The next patch would delete the file ".toList ++ shownName name ++
          ",\nwhich does not exist!".toList)).1
      else start
    let isMoot := start.isSkipped
    let begun := if isDry then "checking file " else "patching file "
    let r := sayUnless (isQuiet || isMoot) (begun.toList ++ shownName (output.getD name) ++
      (if output.isSome then " (read from ".toList ++ shownName name ++ [')'] else []) ++ ['\n']) r
    let most := ((o.value? 'F').map valueOf).getD 2
    let p := q.pieces.zipIdx.foldl (fun p (piece, i) => p.step o q.form most (i + 1) piece) start
    let r := p.told.reverse.foldl PatchRun.say r
    let isMaking := (turned p.isTurned).1.any (·.isNothing)
    if let some fault := q.fault then r.fatal c fault.message
    else if source.toOption.isNone && !isMaking && p.failed ≠ 0 && !p.isSkipped then
      let kept := path ++ ((o.value? 'z').getD ".orig".toList)
      let r := if isDry || o.has '2' then r
        else { r with effect := { r.effect with disk := written c.mask r.effect.disk kept [] } }
      r.fatal c ("Can't reopen file ".toList ++ shownName name ++ " : ".toList ++
        (match source with
          | .error t => t.reason.toList
          | .ok _ => []))
    else
      let new := p.file.text
      let mask := c.mask
      let isErased := (turned p.isTurned).2.any (·.isNothing) || o.has 'E'
      let target := pathIn dir (output.getD name)
      let count := q.pieces.length
      let isChanged := !p.isSkipped && (p.failed < count || count = 0)
      let isKept := o.has 'b' || (p.isInexact && !o.has '2' && !p.isSkipped)
      let keep (d : Disk) : Disk :=
        if isKept && source.toOption.isSome && output.isNone then
          written mask d (target ++ ((o.value? 'z').getD ".orig".toList)) text
        else d
      let change (d : Disk) : Disk :=
        if isErased && new.isEmpty && output.isNone then
          match ownPlace? d target with
          | some place => d.erase place
          | none => d
        else written mask (withHolders mask d target) target new
      let rejected := pathIn dir ((o.value? 'r').getD (output.getD name ++ ".rej".toList))
      let reject (d : Disk) : Disk :=
        if p.failed = 0 || isMoot || o.value? 'r' = some ['-'] then d
        else written mask d rejected (rejectFront q strip p.isTurned ++ p.rejects.reverse.flatten)
      let r := if isDry then r else { r with effect := { r.effect with
        disk := reject ((if isChanged then change else id) (keep r.effect.disk)) } }
      let isLeft := (turned p.isTurned).2.any (·.isNothing) && isChanged && !new.isEmpty &&
        p.failed = 0
      let r := if isLeft then
          (sayUnless isQuiet ("Not deleting file ".toList ++ shownName name ++
            " as content differs from patch\n".toList) r).atLeast 1
        else r
      if p.failed = 0 then r
      else
        let behind := if isDry || isMoot || o.value? 'r' = some ['-'] then []
          else " -- saving rejects to file ".toList ++
            shownName ((o.value? 'r').getD (output.getD name ++ ".rej".toList))
        (r.say (countOfPieces p.failed count p.isSkipped ++ behind ++ ['\n'])).atLeast 1

/-- Changes files as a patch tells. -/
def patch : Tool := fun c =>
  let misuse (text : List Char) : Effect :=
    let hint := ": Try '".toList ++ c.name ++ " --help' for more information.".toList
    .ofComplaint c 2 (text ++ '\n' :: c.name ++ hint)
  match Options.read patchOptions c.args with
  | .error fault => misuse fault.message
  | .ok o =>
    let input := (o.value? 'i') <|> o.operands[1]?
    let fresh : PatchRun := { effect := .ofStatus c 0 }
    match o.operands.drop 2 with
    | extra :: _ => misuse (extra ++ ": extra operand".toList)
    | [] =>
      match (o.value? 'p').filter (fun (n : List Char) => !n.all isDigit),
          input.elim (.ok (c.input.getD [])) (contentOf c ∘ pathIn (o.value? 'd')) with
      | some text, _ =>
        (fresh.fatal c ("strip count ".toList ++ text ++ " is not a number".toList)).effect
      | none, .error t =>
        (fresh.fatal c ("Can't open patch file ".toList ++ shownName (input.getD []) ++ " : ".toList ++
          t.reason.toList)).effect
      | none, .ok text =>
        let isNamed (q : FilePatch) : Bool :=
          !o.operands.isEmpty || q.old.isSome || q.new.isSome || q.index.isSome
        let all := (patchesOf text).takeWhile isNamed
        let garbage := all.isEmpty && !text.isEmpty
        let r := if garbage then fresh.fatal c "Only garbage was found in the patch input.".toList
          else all.foldl (fun r q =>
            if r.isOver then r else patchFile c o o.operands.head? q r) fresh
        if input.all isInput then r.effect.takingAll c else r.effect

end ParserConformance.Script.Tool.Difference
