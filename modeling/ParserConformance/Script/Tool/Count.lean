import ParserConformance.Script.Arithmetic
import ParserConformance.Script.Tool.Place

/-!
# Counts

How many lines, words and bytes files have.
-/

namespace ParserConformance.Script.Tool

/-- Whether a character can be seen or is a space. -/
def isPrintable (c : Char) : Bool := ' ' ≤ c && c ≤ '~'

/-- A text as it is counted: its words so far, whether it is in one, the columns of the line and
of the longest line. -/
structure Counting where
  /-- The number of words. -/
  words : Nat
  /-- Whether the text is in a word. -/
  isInside : Bool
  /-- The columns of the line so far. -/
  column : Nat
  /-- The columns of the longest line. -/
  longest : Nat

/-- The count with one more character. -/
def Counting.add (n : Counting) (c : Char) : Counting :=
  let widened (column : Nat) : Counting :=
    { n with column, longest := max n.longest column, isInside := false }
  if c = '\n' || c = '\r' || c = '\x0c' then { widened n.column with column := 0 }
  else if c = '\t' then widened (n.column / 8 * 8 + 8)
  else if c = ' ' then widened (n.column + 1)
  else if c = '\x0b' then { n with isInside := false }
  else if isPrintable c then
    { widened (n.column + 1) with
      words := if n.isInside then n.words else n.words + 1
      isInside := true }
  else n

/-- The counts of a text: lines, words, characters, bytes, and the longest line. -/
def countsOf (cs : List Char) : List Nat :=
  let n := cs.foldl Counting.add ⟨0, false, 0, 0⟩
  [cs.count '\n', n.words, cs.length, cs.length, n.longest]

/-- The names of the files that a list gives, each with a zero byte behind it. -/
def listedFiles (c : Call) (name : List Char) : Except Trouble (List (List Char)) :=
  (contentOf c name).map fun text => (recordsOf '\x00' text).1

/-- How wide the counts of files are written: as wide as the number of all bytes. What is no file
takes seven columns. -/
def countWidth (c : Call) (names : List (List Char)) : Nat :=
  let sizes := names.map fun name =>
    if isInput name then
      match c.inputFile with
      | some place =>
        match c.disk.entry? place with
        | some (.file _ content) => (true, content.length)
        | _ => (false, 0)
      | none => (false, 0)
    else
      match c.disk.stat (pathOfChars name) with
      | .ok (.file _ content) => (true, content.length)
      | .ok _ => (false, 0)
      | .error _ => (true, 0)
  let least := if sizes.all (·.1) then 1 else 7
  max least (digitsOf (sizes.map (·.2)).sum).length

/-- Counts lines, words and bytes. -/
def wc : Tool :=
  withOptions {
    flags := "lwcmL", valued := "0T", hidden := "0T"
    long := [("bytes", 'c'), ("chars", 'm'), ("lines", 'l'), ("words", 'w'),
      ("files0-from", '0'), ("max-line-length", 'L'), ("total", 'T')] } 1 fun c o =>
  let names := match o.value? '0' with
    | some name => (listedFiles c name).toOption.getD []
    | none => o.operands
  let files := inputs c names
  let counts := "lwmcL".toList
  let isDefault := !counts.any (o.has ·)
  let wanted : List Bool := counts.map fun letter =>
    o.has letter || (isDefault && letter ≠ 'm' && letter ≠ 'L')
  let read := files.filterMap fun (_, r) => match r with
    | .ok text => some (countsOf text)
    | .error _ => none
  let total := (List.range 5).map fun i =>
    let ns := read.map fun ns => ns.getD i 0
    if i = 4 then ns.foldl max 0 else ns.sum
  let width :=
    if wanted.count true = 1 && files.length = 1 || o.value? 'T' = some "only".toList then 1
    else countWidth c (files.map (·.1))
  let line (ns : List Nat) (name : List Char) : List Char :=
    let shown := (ns.zip wanted).filterMap fun (n, isWanted) =>
      if isWanted then some (padLeft width (digitsOf n)) else none
    [' '].intercalate shown ++ (if name.isEmpty then [] else ' ' :: name) ++ ['\n']
  let shows := o.value? 'T' ≠ some "only".toList
  let e : Effect := files.foldl (fun e (name, r) =>
    let title := if name = ['-'] && names.isEmpty then [] else name
    match r with
    | .ok text => if shows then e.write (line (countsOf text) title) else e
    | .error .isDirectory =>
      (e.complain c 1 (fileComplaint name .isDirectory)).write (line [0, 0, 0, 0, 0] title)
    | .error t =>
      e.complain c 1 (if name.isEmpty then "invalid zero-length file name".toList
        else fileComplaint name t)) (.ofStatus c 0)
  let showsTotal := match (o.value? 'T').map String.ofList with
    | some "always" | some "only" => true
    | some "never" => false
    | _ => 1 < files.length
  let e := if showsTotal then
    e.write (line total (if shows then "total".toList else [])) else e
  if readsInput names then e.takingAll c else e

/-- The sum of the bytes of a text, rotated by one bit for each, as 16 bits. -/
def rotatedSum (cs : List Char) : Nat :=
  cs.foldl (fun n c => (n / 2 + n % 2 * 32768 + c.toNat) % 65536) 0

/-- The sum of the bytes of a text, folded to 16 bits. -/
def foldedSum (cs : List Char) : Nat :=
  let s := (cs.foldl (fun n c => n + c.toNat) 0) % 2 ^ 32
  let r := s % 65536 + s / 65536
  r % 65536 + r / 65536

/-- Writes a sum of the bytes of files and how many blocks they have. -/
def sum : Tool :=
  withOptions { flags := "rs", long := [("sysv", 's')] } 1 fun c o =>
  let isOld := o.lastOf? "rs" ≠ some 's'
  let e : Effect := (inputs c o.operands).foldl (fun e (name, r) => match r with
    | .ok text =>
      let title := if o.operands.isEmpty then [] else ' ' :: name
      let line :=
        if isOld then
          let ds := digitsOf (rotatedSum text)
          List.replicate (5 - ds.length) '0' ++ ds ++ ' ' ::
            padLeft 5 (digitsOf ((text.length + 1023) / 1024))
        else digitsOf (foldedSum text) ++ ' ' :: digitsOf ((text.length + 511) / 512)
      e.write (line ++ title ++ ['\n'])
    | .error t => e.complain c 1 (fileComplaint name t)) (.ofStatus c 0)
  if readsInput o.operands then e.takingAll c else e

end ParserConformance.Script.Tool
