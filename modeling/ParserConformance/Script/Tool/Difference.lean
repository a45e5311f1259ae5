import Std.Data.HashMap
import ParserConformance.Script.Tool.Place

/-!
# Differences of files

The shortest way from the lines of one file to those of another: which lines are taken out and
which are put in. Lines are known by numbers; equal lines have equal ones.

The way is found by halves: from both ends at once, step by step, all points are sought that are
reached by so many changes, until the two searches meet. Then runs of changes are moved as far
down as equal lines allow, so that they stand behind each other in both files.
-/

namespace ParserConformance.Script.Tool.Difference

/-! ### The shortest way -/

/-- Two lists of lines that are compared. -/
structure Texts where
  /-- The lines of the first file. -/
  old : Array Nat
  /-- The lines of the second file. -/
  new : Array Nat

namespace Texts

/-- Whether a line of the first file equals one of the second. -/
def same (t : Texts) (x y : Nat) : Bool :=
  match t.old[x]?, t.new[y]? with
  | some a, some b => a = b
  | _, _ => false

/-- How far equal lines go on from a point. -/
def slideDown (t : Texts) (xStop yStop : Nat) : (room x y : Nat) → Nat
  | 0, x, _ => x
  | room + 1, x, y =>
    if x < xStop && y < yStop && t.same x y then t.slideDown xStop yStop room (x + 1) (y + 1)
    else x

/-- How far equal lines go back from a point. -/
def slideUp (t : Texts) (xStart yStart : Nat) : (room x y : Nat) → Nat
  | 0, x, _ => x
  | room + 1, x, y =>
    if xStart < x && yStart < y && t.same (x - 1) (y - 1) then
      t.slideUp xStart yStart room (x - 1) (y - 1)
    else x

end Texts

/-- A part of two lists: from one point up to another. -/
structure Part where
  /-- Where it begins in the first list. -/
  xStart : Nat
  /-- Where it ends in the first list. -/
  xStop : Nat
  /-- Where it begins in the second list. -/
  yStart : Nat
  /-- Where it ends in the second list. -/
  yStop : Nat

/-- The points that are reached by so many changes, by their diagonals. -/
structure Front where
  /-- How far each diagonal is reached. -/
  reached : Std.HashMap Int Int
  /-- The least diagonal. -/
  low : Int
  /-- The greatest diagonal. -/
  high : Int

/-- The diagonals of a front from the greatest to the least, two by two. -/
def Front.diagonals (f : Front) : List Int :=
  (List.range (((f.high - f.low) / 2).toNat + 1)).map fun (i : Nat) => f.high - 2 * i

/-- A front that may go one diagonal further to both sides. What lies beside it counts as a
value that no point has. -/
def Front.widen (f : Front) (least greatest none : Int) : Front :=
  let f := if least < f.low then
      { f with low := f.low - 1, reached := f.reached.insert (f.low - 2) none }
    else { f with low := f.low + 1 }
  if f.high < greatest then
    { f with high := f.high + 1, reached := f.reached.insert (f.high + 2) none }
  else { f with high := f.high - 1 }

/-- A value that comes before all points. -/
def beforeAll : Int := -1

/-- A value that comes after all points. -/
def afterAll : Int := 2 ^ 60

/-- Goes one change further from the start on some diagonals; the point at which the other front
is met, if it is. -/
def forward (t : Texts) (p : Part) (other : Front) (mayMeet : Bool) : List Int → Front →
    Front × Option (Nat × Nat)
  | [], f => (f, none)
  | d :: ds, f =>
    let low := f.reached.getD (d - 1) beforeAll
    let high := f.reached.getD (d + 1) beforeAll
    let x0 := if low < high then high else low + 1
    let x := t.slideDown p.xStop p.yStop (p.xStop + 1) x0.toNat (x0 - d).toNat
    let f := { f with reached := f.reached.insert d x }
    if mayMeet && other.low ≤ d && d ≤ other.high && other.reached.getD d afterAll ≤ x then
      (f, some (x, ((x : Int) - d).toNat))
    else forward t p other mayMeet ds f

/-- Goes one change further from the end on some diagonals. -/
def backward (t : Texts) (p : Part) (other : Front) (mayMeet : Bool) : List Int → Front →
    Front × Option (Nat × Nat)
  | [], f => (f, none)
  | d :: ds, f =>
    let low := f.reached.getD (d - 1) afterAll
    let high := f.reached.getD (d + 1) afterAll
    let x0 := if low < high then low else high - 1
    let x := t.slideUp p.xStart p.yStart (p.xStop + 1) x0.toNat (x0 - d).toNat
    let f := { f with reached := f.reached.insert d x }
    if mayMeet && other.low ≤ d && d ≤ other.high && (x : Int) ≤ other.reached.getD d beforeAll
    then (f, some (x, ((x : Int) - d).toNat))
    else backward t p other mayMeet ds f

/-- A point in the middle of the shortest way through a part. -/
def middle (t : Texts) (p : Part) : Nat × Nat :=
  let start : Int := p.xStart - p.yStart
  let stop : Int := p.xStop - p.yStop
  let f : Front := ⟨(∅ : Std.HashMap Int Int).insert start p.xStart, start, start⟩
  let b : Front := ⟨(∅ : Std.HashMap Int Int).insert stop p.xStop, stop, stop⟩
  go ((start - stop) % 2 ≠ 0) (p.xStop + p.yStop + 1) f b
where
  /-- Goes on until the fronts meet. -/
  go (isOdd : Bool) : (room : Nat) → Front → Front → Nat × Nat
    | 0, _, _ => (p.xStart, p.yStop)
    | room + 1, f, b =>
      let least : Int := p.xStart - p.yStop
      let greatest : Int := p.xStop - p.yStart
      let f := f.widen least greatest beforeAll
      match forward t p b isOdd f.diagonals f with
      | (_, some point) => point
      | (f, none) =>
        let b := b.widen least greatest afterAll
        match backward t p f (!isOdd) b.diagonals b with
        | (_, some point) => point
        | (b, none) => go isOdd room f b

/-- Which lines change. -/
structure Changes where
  /-- Whether a line of the first file is taken out. -/
  removed : Array Bool
  /-- Whether a line of the second file is put in. -/
  added : Array Bool

/-- Marks some places of an array. -/
def markAll (a : Array Bool) (start stop : Nat) : Array Bool :=
  (List.range (stop - start)).foldl (fun a i => a.set! (start + i) true) a

/-- Marks the changes on the shortest way through a part. -/
def mark (t : Texts) : (room : Nat) → Part → Changes → Changes
  | 0, _, c => c
  | room + 1, p, c =>
    let x := t.slideDown p.xStop p.yStop (p.xStop + 1) p.xStart p.yStart
    let p := { p with xStart := x, yStart := p.yStart + (x - p.xStart) }
    let x := t.slideUp p.xStart p.yStart (p.xStop + 1) p.xStop p.yStop
    let p := { p with xStop := x, yStop := p.yStop - (p.xStop - x) }
    if p.xStart = p.xStop then { c with added := markAll c.added p.yStart p.yStop }
    else if p.yStart = p.yStop then { c with removed := markAll c.removed p.xStart p.xStop }
    else
      let (x, y) := middle t p
      let c := mark t room { p with xStop := x, yStop := y } c
      mark t room { p with xStart := x, yStart := y } c

/-- The changes from one list of lines to another. Lines that the other list does not have at
all are changed in any case and are not looked at. -/
def changesOf (t : Texts) : Changes :=
  let kept (mine others : Array Nat) : Array Nat :=
    (Array.range mine.size).filter fun i => others.contains (mine.getD i 0)
  let xs := kept t.old t.new
  let ys := kept t.new t.old
  let inner : Texts := ⟨xs.map (t.old.getD · 0), ys.map (t.new.getD · 0)⟩
  let none : Changes := ⟨Array.replicate xs.size false, Array.replicate ys.size false⟩
  let found := mark inner (xs.size + ys.size + 2) ⟨0, xs.size, 0, ys.size⟩ none
  let spread (size : Nat) (places : Array Nat) (changed : Array Bool) : Array Bool :=
    (places.zip changed).foldl (fun a (i, b) => a.set! i b) (Array.replicate size true)
  ⟨spread t.old.size xs found.removed, spread t.new.size ys found.added⟩

/-! ### Moving runs of changes -/

/-- A run of changes in one file and its place in the other one. -/
structure Shift where
  /-- Which lines of the file change. -/
  changed : Array Bool
  /-- Where the run begins. -/
  start : Nat
  /-- The line behind the run. -/
  stop : Nat
  /-- The line of the other file that corresponds to the line behind the run. -/
  other : Nat

/-- Goes on as long as a test holds. -/
def climb (test : Nat → Bool) : (room n : Nat) → Nat
  | 0, n => n
  | room + 1, n => if test n then climb test room (n + 1) else n

/-- Goes back as long as a test holds. -/
def descend (test : Nat → Bool) : (room n : Nat) → Nat
  | 0, n => n
  | room + 1, n => if 0 < n && test n then descend test room (n - 1) else n

/-- Moves a run back as long as the line before it equals its last line. Runs that it meets
become part of it. -/
def moveBack (lines : Array Nat) (others : Array Bool) : (room : Nat) → Shift → Shift
  | 0, s => s
  | room + 1, s =>
    if 0 < s.start && lines.getD (s.start - 1) 0 = lines.getD (s.stop - 1) 0 then
      let changed := (s.changed.set! (s.start - 1) true).set! (s.stop - 1) false
      let start := descend (fun n => changed.getD (n - 1) false) lines.size (s.start - 1)
      let other := descend (others.getD · false) others.size (s.other - 1)
      moveBack lines others room ⟨changed, start, s.stop - 1, other⟩
    else s

/-- Moves a run forward as long as the line behind it equals its first line. Gives also the last
end of the run at which the other file has a run too. -/
def moveForward (lines : Array Nat) (others : Array Bool) : (room : Nat) → Shift →
    (matching : Nat) → Shift × Nat
  | 0, s, matching => (s, matching)
  | room + 1, s, matching =>
    if s.stop < lines.size && lines.getD s.start 0 = lines.getD s.stop 0 then
      let changed := (s.changed.set! s.start false).set! s.stop true
      let stop := climb (changed.getD · false) lines.size (s.stop + 1)
      let other := climb (others.getD · false) others.size (s.other + 1)
      let matching := if others.getD (s.other + 1) false then stop else matching
      moveForward lines others room ⟨changed, s.start + 1, stop, other⟩ matching
    else (s, matching)

/-- Moves a run back and forward until it grows no more. -/
def settle (lines : Array Nat) (others : Array Bool) : (room : Nat) → Shift → Shift × Nat
  | 0, s => (s, lines.size)
  | room + 1, s =>
    let length := s.stop - s.start
    let back := moveBack lines others (lines.size + 1) s
    let matching := if 0 < back.other && others.getD (back.other - 1) false then back.stop
      else lines.size
    let (ahead, matching) := moveForward lines others (lines.size + 1) back matching
    if ahead.stop - ahead.start = length then (ahead, matching)
    else settle lines others room ahead

/-- Moves all runs of a file from a line on. -/
def moveRuns (lines : Array Nat) (others : Array Bool) : (room : Nat) → (changed : Array Bool) →
    (i j : Nat) → Array Bool
  | 0, changed, _, _ => changed
  | room + 1, changed, i, j =>
    if lines.size ≤ i then changed
    else if !changed.getD i false then
      let j := climb (others.getD · false) others.size j
      moveRuns lines others room changed (i + 1) (j + 1)
    else
      let stop := climb (changed.getD · false) lines.size i
      let other := climb (others.getD · false) others.size j
      let (s, matching) := settle lines others (lines.size + 1) ⟨changed, i, stop, other⟩
      let back := s.stop - matching
      let s := (List.range back).foldl (fun (s : Shift) _ =>
        { s with
          changed := (s.changed.set! (s.start - 1) true).set! (s.stop - 1) false
          start := s.start - 1
          stop := s.stop - 1
          other := descend (others.getD · false) others.size (s.other - 1) }) s
      moveRuns lines others room s.changed s.stop s.other

/-- The changes with their runs moved down. -/
def Changes.settled (t : Texts) (c : Changes) : Changes :=
  let removed := moveRuns t.old c.added (2 * t.old.size + 2) c.removed 0 0
  let added := moveRuns t.new removed (2 * t.new.size + 2) c.added 0 0
  ⟨removed, added⟩

/-! ### Hunks -/

/-- Lines of one file that lines of the other one take the place of. -/
structure Hunk where
  /-- The first line that is taken out, counted from zero. -/
  oldStart : Nat
  /-- How many lines are taken out. -/
  oldCount : Nat
  /-- The first line that is put in. -/
  newStart : Nat
  /-- How many lines are put in. -/
  newCount : Nat
  deriving DecidableEq, Repr

/-- The hunks of changes from two lines on. -/
def hunksFrom (c : Changes) : (room i j : Nat) → List Hunk
  | 0, _, _ => []
  | room + 1, i, j =>
    if c.removed.size ≤ i && c.added.size ≤ j then []
    else
      let x := climb (c.removed.getD · false) (c.removed.size + 1) i
      let y := climb (c.added.getD · false) (c.added.size + 1) j
      if x = i && y = j then hunksFrom c room (i + 1) (j + 1)
      else ⟨i, x - i, j, y - j⟩ :: hunksFrom c room x y

/-- The hunks that lead from one list of lines to another. -/
def hunks (t : Texts) : List Hunk :=
  hunksFrom ((changesOf t).settled t) (t.old.size + t.new.size + 2) 0 0

/-- The numbers of lines of two files: equal ones, after `f`, have equal numbers. -/
def numbered (f : List Char → List Char) (old new : List (List Char)) : Texts :=
  let (map, olds) := number ∅ (old.map (String.ofList ∘ f))
  let (_, news) := number map (new.map (String.ofList ∘ f))
  ⟨olds, news⟩
where
  /-- The numbers of lines, given those that are known. -/
  number (known : Std.HashMap String Nat) (ls : List String) :
      Std.HashMap String Nat × Array Nat :=
    ls.foldl (fun (known, ns) l =>
      match known[l]? with
      | some n => (known, ns.push n)
      | none => (known.insert l (known.size + 1), ns.push (known.size + 1))) (known, #[])

/-- How many elements two lists have in common at their start. -/
def sharedStart (a b : List (List Char)) : Nat :=
  ((a.zip b).takeWhile fun (x, y) => x = y).length

/-- The hunks that lead from the lines of one file to those of another, equal if they are so after
`f`. Lines that both files have at their start and at their end take no part, but for the last
and first `horizon` of them. -/
def hunksOf (f : List Char → List Char) (horizon : Nat) (old new : List (List Char)) :
    List Hunk :=
  let start := sharedStart old new - horizon
  let old := old.drop start
  let new := new.drop start
  let stop := sharedStart old.reverse new.reverse - horizon
  let t := numbered f (old.take (old.length - stop)) (new.take (new.length - stop))
  (hunks t).map fun h =>
    { h with oldStart := h.oldStart + start, newStart := h.newStart + start }

end ParserConformance.Script.Tool.Difference
