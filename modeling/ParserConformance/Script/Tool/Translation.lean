import ParserConformance.Script.Pattern
import ParserConformance.Script.Printing
import ParserConformance.Script.Tool.Call

/-!
# Translation of characters

`tr` exchanges the characters of one set for those of another, deletes them, or takes one for
several in a row.
-/

namespace ParserConformance.Script.Tool.Translation

/-- A part of a set. -/
inductive Part where
  /-- A character. -/
  | char (c : Char)
  /-- The characters from one to another. -/
  | range (a b : Char)
  /-- A class of characters. -/
  | named (name : String)
  /-- The characters that count like one. -/
  | equivalents (c : Char)
  /-- A character a number of times, or, with zero, as often as it takes. -/
  | repeated (c : Char) (count : Nat)
  deriving DecidableEq, Repr

/-- What is wrong with sets. -/
inductive Fault where
  /-- A range that goes backwards. -/
  | reversed (a b : List Char)
  /-- A class that does not exist. -/
  | unknownClass (name : List Char)
  /-- A class without a name. -/
  | noClass
  /-- More or less than one character where one is wanted. -/
  | notOne (text : List Char)
  /-- A count that is no number. -/
  | badCount (text : List Char)
  /-- A repetition without a count in the first set. -/
  | fillsFirst
  /-- More than one repetition that fills the second set. -/
  | fillsTwice
  /-- A repetition without a count in a second set that nothing is translated to. -/
  | fillsNothing
  /-- Classes of case that do not stand side by side. -/
  | misaligned
  /-- Another class in the second set. -/
  | otherClass
  /-- Equivalents in the second set. -/
  | equivalentsSecond
  /-- A second set with nothing in it. -/
  | emptySecond
  /-- The characters of a class that is turned around go to more than one. -/
  | manyTargets
  deriving DecidableEq, Repr

/-- The wording of a fault. -/
def Fault.message : Fault → List Char
  | .reversed a b => "range-endpoints of '".toList ++ a ++ '-' :: b ++
      "' are in reverse collating sequence order".toList
  | .unknownClass name => "invalid character class ".toList ++ quoted name
  | .noClass => "missing character class name '[::]'".toList
  | .notOne text => text ++ ": equivalence class operand must be a single character".toList
  | .badCount text => "invalid repeat count ".toList ++ quoted text ++
      " in [c*n] construct".toList
  | .fillsFirst => "the [c*] repeat construct may not appear in string1".toList
  | .fillsTwice => "only one [c*] repeat construct may appear in string2".toList
  | .fillsNothing =>
    "the [c*] construct may appear in string2 only when translating".toList
  | .misaligned => "misaligned [:upper:] and/or [:lower:] construct".toList
  | .otherClass => ("when translating, the only character classes that may appear in\n" ++
      "string2 are 'upper' and 'lower'").toList
  | .equivalentsSecond =>
    "[=c=] expressions may not appear in string2 when translating".toList
  | .emptySecond => "when not truncating set1, string2 must be non-empty".toList
  | .manyTargets => ("when translating with complemented character classes,\nstring2 must map " ++
      "all characters in the domain to one").toList

/-! ### Reading sets -/

/-- The characters of a text with their escapes undone, each with whether it was escaped. -/
def unescaped : (room : Nat) → List Char → List (Char × Bool)
  | 0, _ => []
  | _ + 1, [] => []
  | _ + 1, ['\\'] => [('\\', false)]
  | room + 1, '\\' :: c :: cs =>
    let simple (d : Char) := (d, true) :: unescaped room cs
    match c with
    | 'a' => simple '\x07'
    | 'b' => simple '\x08'
    | 'f' => simple '\x0c'
    | 'n' => simple '\n'
    | 'r' => simple '\r'
    | 't' => simple '\t'
    | 'v' => simple '\x0b'
    | c =>
      if isOctal c then
        let digits := ((c :: cs).take 3).takeWhile isOctal
        let digits := if 255 < valueIn 8 digits then digits.take 2 else digits
        (Char.ofNat (valueIn 8 digits), true) ::
          unescaped room ((c :: cs).drop digits.length)
      else simple c
  | room + 1, c :: cs => (c, false) :: unescaped room cs

/-- A character as complaints show it. -/
def shown (c : Char) : List Char :=
  match c with
  | '\\' => "\\\\".toList
  | '\x07' => "\\a".toList
  | '\x08' => "\\b".toList
  | '\x0c' => "\\f".toList
  | '\n' => "\\n".toList
  | '\r' => "\\r".toList
  | '\t' => "\\t".toList
  | '\x0b' => "\\v".toList
  | c =>
    if ' ' ≤ c && c ≤ '~' then [c]
    else
      let ds := Nat.toDigits 8 c.toNat
      '\\' :: (List.replicate (3 - ds.length) '0' ++ ds)

/-- The text up to two characters side by side that are not escaped, and what comes behind
them. -/
def upToPair (a b : Char) : List (Char × Bool) → Option (List Char × List (Char × Bool))
  | (c, false) :: (d, false) :: cs =>
    if c = a && d = b then some ([], cs)
    else (upToPair a b ((d, false) :: cs)).map fun (text, rest) => (c :: text, rest)
  | (c, _) :: cs => (upToPair a b cs).map fun (text, rest) => (c :: text, rest)
  | [] => none

/-- The part that begins behind an opening bracket and what comes behind it, if there is one. -/
def bracketed? : List (Char × Bool) → Except Fault (Option (Part × List (Char × Bool)))
  | (':', false) :: cs =>
    match upToPair ':' ']' cs with
    | some (name, rest) =>
      if name.isEmpty then .error .noClass
      else if (classRanges? name).isSome then .ok (some (.named (String.ofList name), rest))
      else if name.all fun c => c.isAlpha then .error (.unknownClass name)
      else if cs.head? = some ('*', false) then .ok none
      else .error (.unknownClass name)
    | none => .ok none
  | ('=', false) :: cs =>
    match upToPair '=' ']' cs with
    | some ([c], rest) => .ok (some (.equivalents c, rest))
    | some (text, _) => if cs.head? = some ('*', false) then .ok none else .error (.notOne text)
    | none => .ok none
  | (c, _) :: ('*', false) :: cs =>
    let digits := cs.takeWhile fun d => d.1 ≠ ']' && !d.2
    match cs.drop digits.length with
    | (']', false) :: rest =>
      let ds := digits.map (·.1)
      if ds.all isDigit then
        let n := if ds.head? = some '0' then valueIn 8 ds else valueOf ds
        .ok (some (.repeated c n, rest))
      else .error (.badCount ds)
    | _ => .ok none
  | _ => .ok none

/-- The parts of a set. -/
def partsOf : (room : Nat) → List (Char × Bool) → Except Fault (List Part)
  | 0, _ => .ok []
  | _ + 1, [] => .ok []
  | room + 1, (c, escaped) :: cs => do
    let found ← if c = '[' && !escaped then bracketed? cs else pure none
    match found with
    | some (part, rest) => return part :: (← partsOf room rest)
    | none =>
      match cs with
      | ('-', false) :: (d, _) :: rest =>
        if d < c then throw (.reversed (shown c) (shown d))
        return .range c d :: (← partsOf room rest)
      | cs => return .char c :: (← partsOf room cs)

/-- The parts of a set as it is written. -/
def read (text : List Char) : Except Fault (List Part) :=
  let cs := unescaped (text.length + 1) text
  partsOf (cs.length + 1) cs

/-- All characters, in their order. -/
def allChars : List Char := (List.range 256).map Char.ofNat

/-- The characters of a part. -/
def Part.chars : Part → List Char
  | .char c | .equivalents c => [c]
  | .range a b => (List.range (b.toNat + 1 - a.toNat)).map fun i => Char.ofNat (a.toNat + i)
  | .named name =>
    let ranges := (classRanges? name.toList).getD []
    allChars.filter fun c => ranges.any fun (a, b) => a ≤ c && c ≤ b
  | .repeated c n => List.replicate n c

/-- The characters of parts. -/
def charsOf (parts : List Part) : List Char := parts.flatMap Part.chars

/-- The characters of parts, with the one that fills up repeated to a length. -/
def filled (parts : List Part) (length : Nat) : List Char :=
  let others := (charsOf parts).length
  parts.flatMap fun p => match p with
    | .repeated c 0 => List.replicate (length - others) c
    | p => p.chars

/-! ### Translating -/

/-- Whether a part is a class of letters of one case. -/
def Part.isCase : Part → Bool
  | .named name => name = "upper" || name = "lower"
  | _ => false

/-- Where in the characters of parts the classes of case begin. -/
def casePlaces (parts : List Part) : List Nat :=
  (parts.foldl (fun (n, done) p =>
    (n + p.chars.length, if p.isCase then done ++ [n] else done)) (0, ([] : List Nat))).2

/-- Which character takes the place of which. -/
def pairs (isComplement truncates : Bool) (first second : List Part) :
    Except Fault (List (Char × Char)) := do
  if second.any fun p => p matches .equivalents _ then throw .equivalentsSecond
  if second.any fun p => (p matches .named _) && !p.isCase then throw .otherClass
  let old := charsOf first
  let old := if isComplement then allChars.filter (!old.contains ·) else old
  let new := filled second old.length
  if !truncates && new.isEmpty then throw .emptySecond
  let hasClass := first.any fun p => p matches .named _
  if isComplement && hasClass && 1 < new.eraseDups.length then throw .manyTargets
  let places := casePlaces first
  if !(casePlaces second).all places.contains then throw .misaligned
  let new := if truncates then new
    else new ++ List.replicate (old.length - new.length) (new.getLast?.getD ' ')
  return old.zip new

/-- The characters with one for several in a row. -/
def squeezed (isSqueezed : Char → Bool) : (last : Option Char) → List Char → List Char
  | _, [] => []
  | last, c :: cs =>
    if some c = last && isSqueezed c then squeezed isSqueezed last cs
    else c :: squeezed isSqueezed (some c) cs

/-- A table of all characters. -/
def tableOf {α : Type} (f : Char → α) : Array α := (allChars.map f).toArray

/-- What is done with each text. -/
def translator (o : Options) (sets : List (List Char)) : Except Fault (List Char → List Char) := do
  let parts ← sets.mapM read
  let first := parts.headD []
  if first.any fun p => p matches .repeated _ 0 then throw .fillsFirst
  let second? := parts[1]?
  let fills := (second?.getD []).filter fun p => p matches .repeated _ 0
  if 1 < fills.length then throw .fillsTwice
  if !fills.isEmpty && o.has 'd' then throw .fillsNothing
  let isComplement := o.has 'c' || o.has 'C'
  let table := tableOf fun c => (charsOf first).contains c != isComplement
  let inFirst (c : Char) : Bool := table.getD c.toNat false
  let table2 := tableOf fun c => ((second?.map (filled · 0)).getD []).contains c
  let inSecond (c : Char) : Bool := table2.getD c.toNat false
  match second?, o.has 'd', o.has 's' with
  | _, true, false => return fun cs => cs.filter (!inFirst ·)
  | _, true, true => return fun cs => squeezed inSecond none (cs.filter (!inFirst ·))
  | none, false, _ => return squeezed inFirst none
  | some second, false, squeezes =>
    let pairs := (← pairs isComplement (o.has 't') first second).reverse
    let table3 := tableOf fun c => (pairs.lookup c).getD c
    let new (c : Char) : Char := table3.getD c.toNat c
    let table4 := tableOf fun c => (pairs.map (·.2)).contains c || inSecond c
    let isNew (c : Char) : Bool := table4.getD c.toNat false
    return fun cs => if squeezes then squeezed isNew none (cs.map new) else cs.map new

/-- Why the number of sets is wrong, if it is. -/
def misuse? (o : Options) : Option (List Char) :=
  let extra (sets : List (List Char)) : List Char :=
    "extra operand ".toList ++ quoted (sets.headD [])
  match o.operands, o.has 'd', o.has 's' with
  | [], _, _ => some "missing operand".toList
  | [only], false, false => some ("missing operand after ".toList ++ quoted only ++
      "\nTwo strings must be given when translating.".toList)
  | [only], true, true => some ("missing operand after ".toList ++ quoted only ++
      "\nTwo strings must be given when both deleting and squeezing repeats.".toList)
  | _ :: more, true, false =>
    if more.isEmpty then none
    else some (extra more ++
      "\nOnly one string may be given when deleting without squeezing repeats.".toList)
  | _ :: _ :: more, _, _ => if more.isEmpty then none else some (extra more)
  | _, _, _ => none

/-- Translates its input. -/
def tr : Tool :=
  withOptions {
    flags := "cCdst", endsAtOperand := true
    long := [("complement", 'c'), ("delete", 'd'), ("squeeze-repeats", 's'),
      ("truncate-set1", 't')] } 1 fun c o =>
  match misuse? o with
  | some text => .ofMisuse c 1 text
  | none =>
    match translator o o.operands with
    | .error fault => .ofComplaint c 1 fault.message
    | .ok f => (Effect.ofOutput c (f (c.input.getD []))).takingAll c

end ParserConformance.Script.Tool.Translation
