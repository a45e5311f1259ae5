import ParserConformance.Script.Tool.Place

/-!
# Pieces of files

`split` parts a text into pieces of so many lines or bytes, or into so many pieces, and writes each
into a file of its own.
-/

namespace ParserConformance.Script.Tool.Pieces

/-! ### Parting -/

/-- How a text is parted. -/
inductive Manner where
  /-- Into pieces of so many lines. -/
  | lines (count : Nat)
  /-- Into pieces of so many bytes. -/
  | bytes (count : Nat)
  /-- Into pieces of whole lines with so many bytes at most. -/
  | lineBytes (count : Nat)
  /-- Into so many pieces of about the same size. -/
  | chunks (count : Nat)
  /-- Into so many pieces of whole lines. -/
  | lineChunks (count : Nat)
  /-- Into so many pieces that take lines in turn. -/
  | turns (count : Nat)
  deriving DecidableEq, Repr

/-- Lists of so many elements each; the last one may have fewer. -/
def groupsOf {α : Type} (count : Nat) (xs : List α) : List (List α) :=
  go (xs.length + 1) xs
where
  /-- Goes on with the elements that are left. -/
  go : (room : Nat) → List α → List (List α)
    | 0, _ | _, [] => []
    | room + 1, xs => xs.take count :: go room (xs.drop count)

/-- The lines of a text with their ends. -/
def wholeLines (stop : Char) (text : List Char) : List (List Char) :=
  let (ls, isEnded) := recordsOf stop text
  ls.zipIdx.map fun (l, i) => if isEnded || i + 1 < ls.length then l ++ [stop] else l

/-- Lines joined as long as so many bytes are not exceeded. Longer lines are cut. -/
def packed (count : Nat) : (piece : List Char) → List (List Char) → List (List Char)
  | piece, [] => if piece.isEmpty then [] else [piece]
  | piece, l :: ls =>
    if piece.length + l.length ≤ count then packed count (piece ++ l) ls
    else
      let front := if piece.isEmpty then [] else [piece]
      let cut := groupsOf count l
      front ++ cut.dropLast ++ packed count (cut.getLast?.getD []) ls

/-- Where each of so many pieces of a size ends. -/
def bounds (count size : Nat) : List Nat :=
  (List.range count).map fun i => (i + 1) * (size / count) + min (i + 1) (size % count)

/-- The parts of a text that end at some places. -/
def cutAt : (start : Nat) → List Nat → List Char → List (List Char)
  | _, [], _ => []
  | start, stop :: stops, cs => cs.take (stop - start) :: cutAt stop stops (cs.drop (stop - start))

/-- Lines by the parts of a text in which they begin. -/
def linesAt (ls : List (List Char)) (stops : List Nat) : List (List Char) :=
  let starts := ls.foldl (fun (at_, done) l => (at_ + l.length, (at_, l) :: done))
    ((0, []) : Nat × List (Nat × List Char))
  let placed := starts.2.reverse
  (stops.zip (0 :: stops)).map fun (stop, start) =>
    (placed.filter fun (at_, _) => start ≤ at_ && at_ < stop).flatMap (·.2)

/-- The pieces of a text. -/
def Manner.pieces (m : Manner) (stop : Char) (text : List Char) : List (List Char) :=
  match m with
  | .lines count => (groupsOf count (wholeLines stop text)).map (·.flatten)
  | .bytes count => groupsOf count text
  | .lineBytes count => packed count [] (wholeLines stop text)
  | .chunks count => cutAt 0 (bounds count text.length) text
  | .lineChunks count => linesAt (wholeLines stop text) (bounds count text.length)
  | .turns count =>
    let placed := (wholeLines stop text).zipIdx
    (List.range count).map fun i => (placed.filter fun (_, j) => j % count = i).flatMap (·.1)

/-! ### Names -/

/-- The digits of names. -/
def lowerLetters : List Char := "abcdefghijklmnopqrstuvwxyz".toList

/-- A number in so many of some digits. -/
def digitsIn (digits : List Char) : (width n : Nat) → List Char
  | 0, _ => []
  | width + 1, n =>
    digitsIn digits width (n / digits.length) ++ [digits.getD (n % digits.length) '?']

/-- The name of a number in a series whose names grow: the last digit at the front says that more
of them follow. -/
def growing (digits : List Char) : (room width n : Nat) → List Char
  | 0, width, n => digitsIn digits width n
  | room + 1, width, n =>
    let base := digits.length
    let few := (base - 1) * base ^ (width - 1)
    if n < few then digitsIn digits width n
    else digits.getLast?.toList ++ growing digits room (width + 1) (n - few)

/-- How the pieces are named. -/
structure Naming where
  /-- What stands in front. -/
  front : List Char
  /-- The digits. -/
  digits : List Char
  /-- The number of the first piece. -/
  first : Nat
  /-- How many digits there are, if the names do not grow. -/
  width : Option Nat
  /-- What stands behind. -/
  behind : List Char

/-- The name of a piece; nothing if there are no more names. -/
def Naming.name? (n : Naming) (i : Nat) : Option (List Char) :=
  match n.width with
  | some width =>
    if n.first + i < n.digits.length ^ width then
      some (n.front ++ digitsIn n.digits width (n.first + i) ++ n.behind)
    else none
  | none => some (n.front ++ growing n.digits 10 2 i ++ n.behind)

/-! ### Calls -/

/-- The options. -/
def known : Known := {
  flags := "deuxV"
  valued := "abClntFX"
  optional := "NH"
  hidden := "VFXNH"
  long := [("suffix-length", 'a'), ("additional-suffix", 'X'), ("bytes", 'b'),
    ("line-bytes", 'C'), ("elide-empty-files", 'e'), ("filter", 'F'), ("hex-suffixes", 'H'),
    ("lines", 'l'), ("number", 'n'), ("numeric-suffixes", 'N'), ("separator", 't'),
    ("unbuffered", 'u'), ("verbose", 'V')] }

/-- What is wrong with a call. -/
inductive Fault where
  /-- Something that has a word of advice behind it. -/
  | misuse (text : List Char)
  /-- Something else. -/
  | plain (text : List Char)

/-- The way to part that an option gives, and the piece that alone is wanted. -/
def mannerOf (letter : Char) (value : List Char) : Except Fault (Manner × Option Nat) :=
  let refuse (what : String) (text : List Char) : Except Fault (Manner × Option Nat) :=
    .error (.plain (("invalid number of " ++ what ++ ": ").toList ++ quoted text))
  let counted (what : String) (make : Nat → Manner) : Except Fault (Manner × Option Nat) :=
    match countOf? value with
    | some (n + 1) => .ok (make (n + 1), none)
    | _ => refuse what value
  match letter with
  | 'l' => counted "lines" .lines
  | 'b' => counted "bytes" .bytes
  | 'C' => counted "lines" .lineBytes
  | _ =>
    let (make, rest) : (Nat → Manner) × List Char := match value with
      | 'l' :: '/' :: rest => (.lineChunks, rest)
      | 'r' :: '/' :: rest => (.turns, rest)
      | rest => (.chunks, rest)
    let (wanted, count) := match splitAt '/' rest with
      | [wanted, count] => (some wanted, count)
      | _ => (none, rest)
    match natural? count with
    | some (n + 1) =>
      match wanted.map fun w => (w, natural? w) with
      | none => .ok (make (n + 1), none)
      | some (_, some (k + 1)) =>
        if k ≤ n then .ok (make (n + 1), some k)
        else .error (.plain ("invalid chunk number: ".toList ++ quoted (digitsOf (k + 1))))
      | some (w, _) => .error (.plain ("invalid chunk number: ".toList ++ quoted w))
    | _ => refuse "chunks" count

/-- The way to part that a call asks for. -/
def requested (o : Options) : Except Fault (Manner × Option Nat) :=
  match o.letters.filter fun l => "lbCn".toList.contains l.1 with
  | [] => .ok (.lines 1000, none)
  | [(letter, value)] => mannerOf letter value
  | (letter, value) :: others =>
    if others.all (·.1 = letter) then mannerOf letter ((others.getLast?.map (·.2)).getD value)
    else .error (.misuse "cannot split in more than one way".toList)

/-- The character that ends lines. -/
def separatorOf (o : Options) : Except Fault Char :=
  match o.value? 't' with
  | none => .ok '\n'
  | some [c] => .ok c
  | some ['\\', '0'] => .ok '\x00'
  | some [] => .error (.plain "empty record separator".toList)
  | some text => .error (.plain ("multi-character separator ".toList ++ quoted text))

/-- How a call wants pieces to be named. -/
def namingOf (o : Options) (count? : Option Nat) : Except Fault Naming := do
  let behind := (o.value? 'X').getD []
  if behind.contains '/' then
    throw (Fault.misuse ("invalid suffix ".toList ++ quoted behind ++
      ", contains directory separator".toList))
  let start? := match o.lastOf? "NH" with
    | some letter => (o.value? letter).filter fun (text : List Char) => !text.isEmpty
    | none => none
  let (digits, base) := match o.lastOf? "dNxH" with
    | some 'd' | some 'N' => ("0123456789".toList, 10)
    | some _ => ("0123456789abcdef".toList, 16)
    | none => (lowerLetters, 10)
  let first ← match start? with
    | none => pure 0
    | some text =>
      if text.all (isDigitOf base) then pure (valueIn base text)
      else throw (Fault.misuse (quoted text ++ ": invalid start value for numerical suffix".toList))
  let width? ← match o.value? 'a' with
    | none => pure none
    | some text =>
      match natural? text with
      | some n => pure (if n = 0 then none else some n)
      | none => throw (Fault.plain ("invalid suffix length: ".toList ++ quoted text))
  let needed := count?.map fun n => max 2 (digitsOf (n - 1)).length
  let width := match width?, start?, needed with
    | some n, _, _ => some n
    | none, some text, _ => some (max 2 text.length)
    | none, none, n => n
  return ⟨o.operands.getD 1 ['x'], digits, first, width, behind⟩

/-- Writes pieces into files. -/
def writePieces (c : Call) (o : Options) (n : Naming) : List (List Char × Nat) → Effect → Effect
  | [], e => e
  | (piece, i) :: rest, e =>
    match n.name? i with
    | none => e.complain c 1 "output file suffixes exhausted".toList
    | some name =>
      match writingTrouble? e.disk name with
      | some t => e.complain c 1 (fileComplaint name t)
      | none =>
        let e := if o.has 'V' then e.write ("creating file ".toList ++ quotedName name ++ ['\n'])
          else e
        writePieces c o n rest { e with disk := written c.mask e.disk name piece }

/-- The arguments with a count of lines in the old style put behind its letter. -/
def modern (args : List (List Char)) : List (List Char) :=
  args.map fun arg => match arg with
    | '-' :: d :: ds => if (d :: ds).all isDigit then '-' :: 'l' :: d :: ds else arg
    | _ => arg

/-- Parts a file into pieces. -/
def split : Tool := fun c =>
  let run := withOptions known 1 fun c o =>
    let count? (m : Manner) : Option Nat := match m with
      | .chunks n | .lineChunks n | .turns n => some n
      | _ => none
    let request := do
      let (m, wanted) ← requested o
      let stop ← separatorOf o
      return (m, wanted, stop, ← namingOf o (count? m))
    match request, o.operands with
    | .error (.misuse text), _ => .ofMisuse c 1 text
    | .error (.plain text), _ => .ofComplaint c 1 text
    | _, _ :: _ :: extra :: _ => .ofMisuse c 1 ("extra operand ".toList ++ quoted extra)
    | .ok (m, wanted, stop, naming), names =>
      let source := names.headD ['-']
      match contentOf c source with
      | .error .isDirectory => .ofComplaint c 1 (fileComplaint source .isDirectory)
      | .error t => .ofComplaint c 1 ("cannot open ".toList ++ quotedName source ++
          " for reading: ".toList ++ t.reason.toList)
      | .ok text =>
        let pieces := m.pieces stop text
        let e : Effect := match wanted with
          | some k => .ofOutput c (pieces.getD k [])
          | none =>
            let pieces := if o.has 'e' then pieces.filter (!·.isEmpty) else pieces
            writePieces c o naming pieces.zipIdx (.ofStatus c 0)
        if readsInput (names.take 1) then e.takingAll c else e
  run { c with args := modern c.args }

end ParserConformance.Script.Tool.Pieces
