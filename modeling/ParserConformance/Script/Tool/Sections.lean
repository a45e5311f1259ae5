import ParserConformance.Script.Printing
import ParserConformance.Script.Tool.Place
import ParserConformance.Script.Tool.Regex.Matching
import ParserConformance.Script.Tool.Regex.Reader

/-!
# Sections of files

`csplit` parts a text where lines have a number or match an expression, and writes each section
into a file of its own.
-/

namespace ParserConformance.Script.Tool.Sections

/-! ### Patterns -/

/-- Where a section ends. -/
inductive Mark where
  /-- In front of the line of a number. -/
  | line (number : Nat)
  /-- A number of lines behind, or before, a line that matches. The section may be left out. -/
  | found (regex : Regex) (offset : Int) (isLeftOut : Bool)

/-- Where sections end. -/
structure Pattern where
  /-- The pattern as it was written. -/
  text : List Char
  /-- Where a section ends. -/
  mark : Mark
  /-- How often that is repeated; nothing if it is as often as possible. -/
  repeats : Option Nat

/-- The number that a text with a sign writes. -/
def signed? (text : List Char) : Option Int :=
  match text with
  | '-' :: ds => (natural? ds).map fun n => -(n : Int)
  | '+' :: ds => (natural? ds).map Int.ofNat
  | ds => (natural? ds).map Int.ofNat

/-- The mark that an expression between two equal characters is. -/
def expressionMark (delimiter : Char) (text : List Char) : Except (List Char) Mark :=
  let behind := (text.reverse.takeWhile (· ≠ delimiter)).reverse
  let inner := (text.drop 1).take (text.length - behind.length - 2)
  if behind.length + 1 = text.length then
    .error (text ++ ": closing delimiter '".toList ++ delimiter :: "' missing".toList)
  else
    match Regex.read .basic inner with
    | .error _ =>
      .error (quoted text ++ ": invalid regular expression: Invalid regular expression".toList)
    | .ok r =>
      match if behind.isEmpty then some 0 else signed? behind with
      | some offset => .ok (.found r offset (delimiter = '%'))
      | none => .error (quoted text ++ ": integer expected after delimiter".toList)

/-- How often something is repeated. -/
def repeatsOf (text : List Char) : Except (List Char) (Option Nat) :=
  let inner := (text.drop 1).dropLast
  if text.getLast? ≠ some '\x7d' then
    .error (quoted text ++ ": '\x7d' is required in repeat count".toList)
  else if inner = ['*'] then .ok none
  else
    match natural? inner with
    | some n => .ok (some n)
    | none => .error (quoted text.dropLast ++
        "\x7d: integer required between '\x7b' and '\x7d'".toList)

/-- Reads patterns, behind a line of a number. Gives warnings, too. -/
def readPatterns : (last : Nat) → List (List Char) →
    Except (List Char) (List Pattern × List (List Char))
  | _, [] => .ok ([], [])
  | last, text :: rest => do
    let first := text.headD ' '
    let (mark, last', warnings) ← if first = '/' || first = '%' then do
        pure (← expressionMark first text, last, [])
      else
        match natural? text with
        | none => throw (quoted text ++ ": invalid pattern".toList)
        | some 0 => throw (text ++ ": line number must be greater than zero".toList)
        | some n =>
          if n < last then
            throw ("line number ".toList ++ quoted text ++
              " is smaller than preceding line number, ".toList ++ digitsOf last)
          else
            pure (Mark.line n, n, if n = last then
              ["warning: line number ".toList ++ quoted text ++
                " is the same as preceding line number".toList] else [])
    match rest with
    | ('\x7b' :: more) :: rest =>
      let repeats ← repeatsOf ('\x7b' :: more)
      let (patterns, others) ← readPatterns last' rest
      return (⟨text, mark, repeats⟩ :: patterns, warnings ++ others)
    | rest =>
      let (patterns, others) ← readPatterns last' rest
      return (⟨text, mark, some 0⟩ :: patterns, warnings ++ others)

/-! ### Parting -/

/-- How far the parting has come. -/
structure Progress where
  /-- The lines that are left, with their ends. -/
  rest : List (List Char)
  /-- The number of the first of them. -/
  next : Nat := 1
  /-- The number of the line at which was looked last. -/
  current : Nat := 0
  /-- The sections, the last one first. -/
  done : List (List Char) := []
  /-- What is wrong, if something is. -/
  complaint : Option (List Char) := none

/-- With so many lines taken off the front; gives them. -/
def Progress.take (p : Progress) (count : Nat) : List (List Char) × Progress :=
  let ls := p.rest.take count
  let next := p.next + ls.length
  (ls, { p with
    rest := p.rest.drop count
    next
    current := if ls.isEmpty then p.current else max p.current (next - 1) })

/-- With a section added. -/
def Progress.add (p : Progress) (ls : List (List Char)) : Progress :=
  { p with done := ls.flatten :: p.done }

/-- With a complaint, which ends everything. -/
def Progress.fail (p : Progress) (text : List Char) : Progress := { p with complaint := some text }

/-- A pattern's complaint, which tells how often it was repeated before. -/
def Pattern.complaint (t : Pattern) (repetition : Nat) (text : String) : List Char :=
  quoted t.text ++ ": ".toList ++ text.toList ++
    if repetition = 0 then [] else " on repetition ".toList ++ digitsOf repetition

/-- Takes a section off that ends in front of the line of a number. -/
def Progress.toLine (p : Progress) (t : Pattern) (suppresses : Bool) (repetition number : Nat) :
    Progress :=
  let refuse (p : Progress) : Progress :=
    p.fail (t.complaint repetition "line number out of range")
  let wanted := number * (repetition + 1) - p.next
  if p.rest.isEmpty && suppresses then refuse (p.add [])
  else
    let (ls, q) := p.take wanted
    let q := q.add ls
    if ls.length < wanted then refuse q
    else if suppresses then (q.take 1).2
    else if q.rest.isEmpty then refuse q
    else q

/-- Takes a section off that ends at a line that matches. Tells whether everything ends with
it. -/
def Progress.toMatch (p : Progress) (t : Pattern) (suppresses : Bool) (repetition : Nat)
    (r : Regex) (offset : Int) (isLeftOut : Bool) : Progress × Bool :=
  let add (p : Progress) (ls : List (List Char)) : Progress :=
    if isLeftOut then p else p.add ls
  let start := max p.next (p.current + 1)
  let isMatch (l : List Char) : Bool :=
    let bare := if l.getLast? = some '\n' then l.dropLast else l
    r.occursIn bare
  match (p.rest.drop (start - p.next)).findIdx? isMatch with
  | none =>
    let (ls, q) := p.take p.rest.length
    let q := add q ls
    if t.repeats.isNone then (q, true)
    else (q.fail (t.complaint repetition "match not found"), true)
  | some i =>
    let found := start + i
    let stop : Int := found + offset
    let refuse (p : Progress) : Progress × Bool :=
      (p.fail (quoted t.text ++ ": line number out of range".toList), true)
    if stop < p.next then refuse (add p [])
    else
      let wanted := stop.toNat - p.next
      let (ls, q) := p.take wanted
      let q := add q ls
      if ls.length < wanted then refuse q
      else
        let q := { q with current := if 0 < offset then stop.toNat else found }
        (if suppresses then (q.take 1).2 else q, false)

/-- Takes the sections of a pattern off. Tells whether everything ends with them. -/
def Progress.follow (p : Progress) (t : Pattern) (suppresses : Bool) :
    (room : Nat) → (repetition : Nat) → Progress × Bool
  | 0, _ => (p, false)
  | room + 1, repetition =>
    if t.repeats.any (· < repetition) then (p, false)
    else
      let (q, isOver) := match t.mark with
        | .line number =>
          let q := p.toLine t suppresses repetition number
          (q, q.complaint.isSome)
        | .found r offset isLeftOut => p.toMatch t suppresses repetition r offset isLeftOut
      if isOver then (q, true) else q.follow t suppresses room (repetition + 1)

/-- Takes the sections of all patterns off. -/
def Progress.followAll (p : Progress) (suppresses : Bool) : List Pattern → Progress
  | [] => p.add p.rest
  | t :: ts =>
    let room := (t.repeats.getD 0) + p.rest.length + 2
    let (q, isOver) := p.follow t suppresses room 0
    if isOver then q else q.followAll suppresses ts

/-! ### Calls -/

/-- The options. -/
def known : Known := {
  flags := "ksqzS"
  valued := "bfn"
  hidden := "S"
  long := [("suffix-format", 'b'), ("prefix", 'f'), ("keep-files", 'k'),
    ("suppress-matched", 'S'), ("digits", 'n'), ("quiet", 's'), ("silent", 's'),
    ("elide-empty-files", 'z')] }

/-- What is wrong with a format of suffixes, if something is. -/
def formatFault? (format : List Char) : Option (List Char) :=
  match format.dropWhile (· ≠ '%') with
  | [] => some "missing % conversion specification in suffix".toList
  | _ :: rest =>
    let rest := rest.dropWhile fun c => "-+ #0'".toList.contains c
    let rest := (rest.dropWhile isDigit)
    let rest := match rest with
      | '.' :: more => more.dropWhile isDigit
      | rest => rest
    match rest with
    | [] => some "missing conversion specifier in suffix".toList
    | c :: more =>
      if !"diuoxX".toList.contains c then
        some ("invalid conversion specifier in suffix: ".toList ++ [c])
      else if more.contains '%' then
        some "too many % conversion specifications in suffix".toList
      else none

/-- Parts a file into sections. -/
def csplit : Tool := withOptions known 1 fun c o =>
  let digits? := match o.value? 'n' with
    | none => some 2
    | some text => natural? text
  let refuse (text : List Char) : Effect := .ofComplaint c 1 text
  match digits?, (o.value? 'b').bind formatFault?, o.operands with
  | none, _, _ => refuse ("invalid number: ".toList ++ quoted ((o.value? 'n').getD []))
  | _, some text, _ => refuse text
  | _, _, [] => .ofMisuse c 1 "missing operand".toList
  | _, _, [name] => .ofMisuse c 1 ("missing operand after ".toList ++ quoted name)
  | some digits, none, source :: patterns =>
    let content := contentOf c source
    let text := content.toOption.getD []
    match content, readPatterns 0 patterns with
    | .error .isDirectory, .ok (ts, _) =>
      let isBegun := match ts with
        | { mark := .found _ _ true, .. } :: _ => false
        | _ => !(o.has 's' || o.has 'q' || o.has 'z')
      (refuse "read error: Is a directory".toList).write (if isBegun then "0\n".toList else [])
    | .error t, _ => refuse ("cannot open ".toList ++ quotedName source ++
        " for reading: ".toList ++ t.reason.toList)
    | .ok _, .error fault => refuse fault
    | .ok _, .ok (ts, warnings) =>
      let (ls, isEnded) := linesOf text
      let whole := ls.zipIdx.map fun (l, i) =>
        if isEnded || i + 1 < ls.length then l ++ ['\n'] else l
      let p := ({ rest := whole } : Progress).followAll (o.has 'S') ts
      let sections := p.done.reverse.filter fun s => !(o.has 'z' && s.isEmpty)
      let name (i : Nat) : List Char :=
        let number := digitsOf i
        (o.value? 'f').getD "xx".toList ++
          match o.value? 'b' with
          | some format => (Script.printf format [number]).output
          | none => Magnitude.padZeros digits number
      let e := warnings.foldl (fun e t => e.complain c 0 t) (Effect.ofStatus c 0)
      let e := p.complaint.elim e fun text => e.complain c 1 text
      let sizes := if o.has 's' || o.has 'q' then []
        else sections.flatMap fun s => digitsOf s.length ++ ['\n']
      let e := e.write sizes
      let e := if p.complaint.isSome && !o.has 'k' then e
        else sections.zipIdx.foldl (fun e (s, i) =>
          match writingTrouble? e.disk (name i) with
          | some t => e.complain c 1 (fileComplaint (name i) t)
          | none => { e with disk := written c.mask e.disk (name i) s }) e
      if isInput source then e.takingAll c else e

end ParserConformance.Script.Tool.Sections
