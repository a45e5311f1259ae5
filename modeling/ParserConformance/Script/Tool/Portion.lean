import ParserConformance.Script.Tool.Place

/-!
# Portions of files

The start or the end of a file, by lines or by bytes.
-/

namespace ParserConformance.Script.Tool

/-- How much of a text is taken. -/
inductive Portion where
  /-- So many lines or bytes from the start. -/
  | first (n : Nat)
  /-- All but so many from the end. -/
  | allButLast (n : Nat)
  /-- So many from the end. -/
  | last (n : Nat)
  /-- All from one of a number on. -/
  | fromOn (n : Nat)
  deriving DecidableEq, Repr

/-- A portion of a list. -/
def Portion.of {α : Type} (p : Portion) (xs : List α) : List α :=
  match p with
  | .first n => xs.take n
  | .allButLast n => xs.take (xs.length - n)
  | .last n => xs.drop (xs.length - n)
  | .fromOn n => xs.drop (n - 1)

/-- How the portion of a text is measured. -/
inductive Measure where
  /-- In bytes. -/
  | bytes
  /-- In records that a character ends. -/
  | records (stop : Char)
  deriving DecidableEq, Repr

/-- A portion of a text. -/
def Portion.ofText (p : Portion) (m : Measure) (cs : List Char) : List Char :=
  match m with
  | .bytes => p.of cs
  | .records stop =>
    let (records, isEnded) := recordsOf stop cs
    let last := records.length - 1
    let withEnds := records.zipIdx.map fun (l, i) =>
      if isEnded || i < last then l ++ [stop] else l
    (p.of withEnds).flatten

/-- How much is read at a time. -/
def headBlock : Nat := 8192

/-- The effect of the tools that take a portion of each of several files under headings. -/
def underHeadings (c : Call) (o : Options) (p : Portion) (m : Measure) : Effect :=
  let files := inputs c o.operands
  let shows := match o.lastOf? "qv" with
    | some 'q' => false
    | some _ => true
    | none => 1 < files.length
  let (e, _) : Effect × Bool := files.foldl (fun (e, isFirst) (name, r) =>
    let title := if name = ['-'] then "standard input".toList else name
    let heading := if shows then
      (if isFirst then [] else ['\n']) ++ "==> ".toList ++ title ++ " <==\n".toList else []
    match r with
    | .ok text => (e.write (heading ++ p.ofText m text), false)
    | .error .isDirectory =>
      ((e.write heading).complain c 1 ("error reading ".toList ++ quotedName name ++
        ": Is a directory".toList), false)
    | .error t => (e.complain c 1 ("cannot open ".toList ++ quotedName name ++
        " for reading: ".toList ++ t.reason.toList), isFirst)) (.ofStatus c 0, true)
  if !readsInput o.operands then e
  else
    match p with
    | .first n =>
      let portion := p.ofText m (c.input.getD [])
      let isSated := match m with
        | .bytes => n ≤ portion.length
        | .records stop => n ≤ portion.count stop
      { e.taking c portion.length (if m = .bytes then 1 else headBlock) with isSated }
    | _ => e.takingAll c

/-- The portion that options ask for and its measure; the complaint if one of them is no
number. -/
def portionOf (o : Options) (usual : Portion) (signed : Char → Nat → Portion) :
    Except (List Char) (Portion × Measure) :=
  match o.letters.reverse.find? fun (l, _) => l = 'n' || l = 'c' with
  | none => .ok (usual, .records (stopOf o))
  | some (letter, value) =>
    let (sign, digits) := match value with
      | '-' :: ds => ('-', ds)
      | '+' :: ds => ('+', ds)
      | ds => (' ', ds)
    match countOf? digits with
    | some n => .ok (signed sign n, if letter = 'c' then .bytes else .records (stopOf o))
    | none =>
      let what := if letter = 'c' then "bytes" else "lines"
      .error (("invalid number of " ++ what ++ ": ").toList ++ quoted value)

/-- The arguments with a leading count in the old style put behind its letter. Letters behind the
count say what is counted, and whether headings are shown. -/
def modernCount (args : List (List Char)) : List (List Char) :=
  match args with
  | ('-' :: d :: ds) :: rest =>
    let digits := (d :: ds).takeWhile isDigit
    let letters := (d :: ds).drop digits.length
    if digits.isEmpty || !letters.all fun l => "bkmclqvz".toList.contains l then args
    else
      let unit := letters.filter fun l => "bkm".toList.contains l
      let others := letters.filter fun l => "qvz".toList.contains l
      let inBytes := letters.contains 'c' || !unit.isEmpty
      (others.map fun l => ['-', l]) ++
        ['-', if inBytes then 'c' else 'n'] :: (digits ++ unit) :: rest
  | args => args

/-- The long options that both tools know. -/
def portionNames : List (String × Char) :=
  [("bytes", 'c'), ("lines", 'n'), ("quiet", 'q'), ("silent", 'q'), ("verbose", 'v'),
    ("zero-terminated", 'z')]

/-- Writes the start of files. -/
def head : Tool := fun c =>
  let read := withOptions { flags := "qvz", valued := "nc", long := portionNames } 1 fun c o =>
    match portionOf o (.first 10) fun sign n =>
        if sign = '-' then .allButLast n else .first n with
    | .error text => .ofComplaint c 1 text
    | .ok (p, m) => underHeadings c o p m
  read { c with args := modernCount c.args }

/-- Writes the end of files. -/
def tail : Tool := fun c =>
  let known : Known := {
    flags := "qvzF", valued := "ncsP", optional := "f", hidden := "P"
    long := portionNames ++ [("follow", 'f'), ("pid", 'P'), ("retry", 'F'),
      ("sleep-interval", 's')] }
  let read := withOptions known 1 fun c o =>
    match portionOf o (.last 10) fun sign n =>
        if sign = '+' then .fromOn n else .last n with
    | .error text => .ofComplaint c 1 text
    | .ok (p, m) => underHeadings c o p m
  let args := match c.args with
    | ('+' :: ds) :: rest =>
      let digits := ds.takeWhile isDigit
      match ds.drop digits.length with
      | [] | ['l'] => if digits.isEmpty then c.args else ['-', 'n'] :: ('+' :: digits) :: rest
      | ['c'] => ['-', 'c'] :: ('+' :: digits) :: rest
      | _ => c.args
    | args => modernCount args
  read { c with args }

end ParserConformance.Script.Tool
