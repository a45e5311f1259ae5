import ParserConformance.Script.Tool.Place

/-!
# Widths of lines

Tools that break lines that are too wide, and that take blanks for tabs or tabs for blanks.
-/

namespace ParserConformance.Script.Tool

/-! ### Breaking lines -/

/-- The column behind a character. -/
def columnAfter (inBytes : Bool) (column : Nat) (c : Char) : Nat :=
  if inBytes then column + 1
  else if c = '\x08' then column - 1
  else if c = '\r' then 0
  else if c = '\t' then column + (8 - column % 8)
  else column + 1

/-- Whether a character is a blank between words. -/
def isGap (c : Char) : Bool := c = ' ' || c = '\t'

/-- The pieces of a line that are not wider than a width. The piece at work is held backwards. -/
def foldedPieces (width : Nat) (inBytes atGaps : Bool) : (room : Nat) → (piece : List Char) →
    List Char → List (List Char)
  | 0, piece, cs => [piece.reverse ++ cs]
  | _ + 1, piece, [] => [piece.reverse]
  | room + 1, piece, c :: cs =>
    let columnOf (text : List Char) := text.foldl (columnAfter inBytes) 0
    if columnAfter inBytes (columnOf piece.reverse) c ≤ width || piece.isEmpty then
      foldedPieces width inBytes atGaps room (c :: piece) cs
    else
      let behind := if atGaps && piece.any isGap then piece.takeWhile (!isGap ·) else []
      let done := (piece.drop behind.length).reverse
      done :: foldedPieces width inBytes atGaps room behind (c :: cs)

/-- The arguments with a leading width in the old style put behind its letter. -/
def modernWidth (letter : Char) (args : List (List Char)) : List (List Char) :=
  args.flatMap fun arg => match arg with
    | '-' :: d :: ds =>
      if isDigit d && ds.all isDigit then [['-', letter], d :: ds] else [arg]
    | arg => [arg]

/-- Breaks lines that are too wide. -/
def fold : Tool := fun c =>
  let known : Known := {
    flags := "bs", valued := "w"
    long := [("bytes", 'b'), ("spaces", 's'), ("width", 'w')] }
  let run := withOptions known 1 fun c o =>
    let text := (o.value? 'w').getD "80".toList
    match natural? text with
    | none | some 0 => .ofComplaint c 1 ("invalid number of columns: ".toList ++ quoted text)
    | some width =>
      eachInput c o.operands 1 fileComplaint fun cs =>
        let (lines, isEnded) := linesOf cs
        unlinesAs (lines.flatMap fun l =>
          foldedPieces width (o.has 'b') (o.has 's') (2 * l.length + 2) [] l) isEnded
  run { c with args := modernWidth 'w' c.args }

/-! ### Tab stops -/

/-- Where tabs lead. -/
inductive TabStops where
  /-- To multiples of a width. -/
  | every (width : Nat)
  /-- To some columns, and behind those to the multiples of a width, counted from the start or
  from the last of them, if there is one. -/
  | listed (columns : List Nat) (behind : Option (Bool × Nat))
  deriving DecidableEq, Repr

/-- The next stop behind a column, if there is one. -/
def TabStops.next? (t : TabStops) (column : Nat) : Option Nat :=
  match t with
  | .every width => some (column + (width - column % width))
  | .listed columns behind =>
    match columns.find? (column < ·) with
    | some stop => some stop
    | none => behind.map fun (fromLast, width) =>
        let start := if fromLast then columns.getLast?.getD 0 else 0
        column + (width - (column - start) % width)

/-- What is wrong with a list of tab stops. -/
inductive TabFault where
  /-- A stop at the start of a line. -/
  | zero
  /-- A stop that comes before the one that is listed before it. -/
  | notAscending
  /-- What is no number. -/
  | noNumber (text : List Char)
  deriving DecidableEq, Repr

/-- The wording of a fault. -/
def TabFault.message : TabFault → List Char
  | .zero => "tab size cannot be 0".toList
  | .notAscending => "tab sizes must be ascending".toList
  | .noNumber text => "tab size contains invalid character(s): ".toList ++ quoted text

/-- The tab stops that lists write. -/
def tabStopsOf (lists : List (List Char)) : Except TabFault TabStops := do
  let words := (lists.flatMap fun l =>
    splitAt ',' (l.map fun c => if isGap c then ',' else c)).filter (!·.isEmpty)
  let number (word : List Char) : Except TabFault Nat :=
    match word.dropWhile isDigit with
    | [] => .ok (valueOf word)
    | bad => .error (.noNumber bad)
  let (last?, words) := match words.getLast? with
    | some ('/' :: ds) => (some (false, ds), words.dropLast)
    | some ('+' :: ds) => (some (true, ds), words.dropLast)
    | _ => (none, words)
  let behind ← last?.mapM fun (fromLast, ds) => do return (fromLast, ← number ds)
  let stops ← words.mapM number
  if stops.contains 0 then throw .zero
  if !(stops.zip (stops.drop 1)).all fun (a, b) => a < b then throw .notAscending
  match stops, behind with
  | [], none => return .every 8
  | [], some (_, width) => return .every width
  | [width], none => return .every width
  | stops, behind => return .listed stops behind

/-- The text of a line with blanks for its tabs, for all of them or only for those before
anything else. -/
def expandedLine (t : TabStops) (onlyInitial : Bool) : (converts : Bool) → (column : Nat) →
    List Char → List Char
  | _, _, [] => []
  | false, column, c :: cs => c :: expandedLine t onlyInitial false column cs
  | true, column, c :: cs =>
    let goesOn := !onlyInitial || isGap c
    if c = '\t' then
      let stop := (t.next? column).getD (column + 1)
      List.replicate (stop - column) ' ' ++ expandedLine t onlyInitial goesOn stop cs
    else
      c :: expandedLine t onlyInitial goesOn (if c = '\x08' then column - 1 else column + 1) cs

/-- A line on the way to one with tabs for its blanks. -/
structure Tabbing where
  /-- What is done, backwards. -/
  done : List Char
  /-- Whether blanks are still taken for tabs. -/
  converts : Bool
  /-- The column. -/
  column : Nat
  /-- The blanks that may become a tab. -/
  pending : List Char
  /-- Whether the first of them stands right before a tab stop. -/
  isLone : Bool
  /-- Whether a blank stands before. -/
  wasBlank : Bool

/-- The line with the blanks written that were pending. -/
def Tabbing.flush (t : Tabbing) : Tabbing :=
  let pending := if 1 < t.pending.length && t.isLone then '\t' :: t.pending.drop 1 else t.pending
  if pending.isEmpty then t
  else { t with done := pending.reverse ++ t.done, pending := [], isLone := false }

/-- The line with one more character. -/
def Tabbing.step (stops : TabStops) (onlyInitial : Bool) (t : Tabbing) (c : Char) : Tabbing :=
  if !t.converts then { t with done := c :: t.done }
  else
    let put (t : Tabbing) (c : Char) : Tabbing :=
      let t := t.flush
      { t with done := c :: t.done, wasBlank := isGap c, converts := !onlyInitial || isGap c }
    if isGap c then
      match stops.next? t.column with
      | none =>
        let t := t.flush
        { t with converts := false, done := c :: t.done, wasBlank := true }
      | some stop =>
        if c = '\t' then
          let pending := if t.pending.isEmpty then [] else '\t' :: t.pending.drop 1
          let t := { t with column := stop, pending := if t.isLone then pending.take 1 else [] }
          put t '\t'
        else
          let t := { t with column := t.column + 1 }
          if t.wasBlank && t.column = stop then
            let t := { t with pending := if t.isLone then ['\t'] else [] }
            put t '\t'
          else
            { t with
              isLone := t.isLone || t.column = stop
              pending := t.pending ++ [c]
              wasBlank := true }
    else if c = '\x08' then put { t with column := t.column - 1 } c
    else put { t with column := t.column + 1 } c

/-- The text of a line with tabs for its blanks. -/
def unexpandedLine (stops : TabStops) (onlyInitial : Bool) (l : List Char) : List Char :=
  let t : Tabbing := l.foldl (Tabbing.step stops onlyInitial) ⟨[], true, 0, [], false, true⟩
  t.flush.done.reverse

/-- Makes a text of lines anew, or complains about tab stops. -/
def overTabbedLines (c : Call) (o : Options) (f : TabStops → List Char → List Char) : Effect :=
  match tabStopsOf (o.values 't') with
  | .error fault => .ofComplaint c 1 fault.message
  | .ok stops =>
    overInputs c o.operands 1 fileComplaint fun cs =>
      let (lines, isEnded) := linesOf cs
      unlinesAs (lines.map (f stops)) isEnded

/-- Writes blanks for tabs. -/
def expand : Tool := fun c =>
  let known : Known := {
    flags := "i", valued := "t", long := [("initial", 'i'), ("tabs", 't')] }
  let run := withOptions known 1 fun c o =>
    overTabbedLines c o fun stops => expandedLine stops (o.has 'i') true 0
  run { c with args := modernWidth 't' c.args }

/-- Writes tabs for blanks. -/
def unexpand : Tool := fun c =>
  let known : Known := {
    flags := "aF", valued := "t", hidden := "F"
    long := [("all", 'a'), ("first-only", 'F'), ("tabs", 't')] }
  let run := withOptions known 1 fun c o =>
    let onlyInitial := o.has 'F' || !(o.has 'a' || o.has 't')
    overTabbedLines c o fun stops => unexpandedLine stops onlyInitial
  run { c with args := modernWidth 't' c.args }

end ParserConformance.Script.Tool
