import ParserConformance.Script.Tool.Call

/-!
# Bytes by number

`od` shows bytes line by line, each line with its address: as characters, or in groups as
numbers in some base. Several kinds of showing stand below each other, their columns in line.
-/

namespace ParserConformance.Script.Tool.Dump

/-- What groups of bytes are shown as. -/
inductive Shape where
  /-- Characters, or names of characters. -/
  | named
  /-- Characters, or escapes. -/
  | char
  /-- Numbers with a sign. -/
  | signed
  /-- Numbers in a base. -/
  | inBase (base : Nat)
  deriving DecidableEq, Repr

/-- A kind of showing. -/
structure Kind where
  /-- What groups of bytes are shown as. -/
  shape : Shape
  /-- How many bytes a group has. -/
  size : Nat
  /-- Whether the characters are shown at the end of the line. -/
  hasTrailer : Bool := false
  deriving DecidableEq, Repr

/-- How wide the greatest number of so many bytes is in a base. -/
def widest (base size : Nat) : Nat := (Nat.toDigits base (256 ^ size - 1)).length

/-- How wide a group is shown at most. -/
def Kind.width (k : Kind) : Nat :=
  match k.shape with
  | .named | .char => 3
  | .signed => (digitsOf (256 ^ k.size / 2)).length + 1
  | .inBase base => widest base k.size

/-- The names of the characters that cannot be shown. -/
def charNames : Array String :=
  #["nul", "soh", "stx", "etx", "eot", "enq", "ack", "bel", "bs", "ht", "nl", "vt", "ff", "cr",
    "so", "si", "dle", "dc1", "dc2", "dc3", "dc4", "nak", "syn", "etb", "can", "em", "sub", "esc",
    "fs", "gs", "rs", "us", "sp"]

/-- Whether a character can be shown as it is. -/
def isShown (c : Char) : Bool := ' ' ≤ c && c ≤ '~'

/-- The escape of a character that has a letter. -/
def escape? (c : Char) : Option (List Char) :=
  ([('\x00', '0'), ('\x07', 'a'), ('\x08', 'b'), ('\x0c', 'f'), ('\n', 'n'), ('\r', 'r'),
    ('\t', 't'), ('\x0b', 'v')].lookup c).map fun l => ['\\', l]

/-- A number with zeros in front, as wide as the greatest one of so many bytes. -/
def padded (base width n : Nat) : List Char :=
  let digits := Nat.toDigits base n
  List.replicate (width - digits.length) '0' ++ digits

/-- A group of bytes as it is shown. -/
def Kind.show (k : Kind) (isBig : Bool) (bytes : List Char) : List Char :=
  let n := (if isBig then bytes else bytes.reverse).foldl (fun n b => n * 256 + b.toNat) 0
  match k.shape with
  | .named =>
    let n := n % 128
    if n = 127 then "del".toList
    else ((charNames[n]?).map String.toList).getD [Char.ofNat n]
  | .char =>
    let c := Char.ofNat n
    (escape? c).getD (if isShown c then [c] else padded 8 3 n)
  | .signed =>
    if n < 256 ^ k.size / 2 then digitsOf n else '-' :: digitsOf (256 ^ k.size - n)
  | .inBase 10 => digitsOf n
  | .inBase base => padded base k.width n

/-! ### Kinds by letters -/

/-- How many bytes the size behind a letter names, and what comes behind it. -/
def sizeBehind (cs : List Char) : Nat × List Char :=
  match cs with
  | 'C' :: rest => (1, rest)
  | 'S' :: rest => (2, rest)
  | 'I' :: rest => (4, rest)
  | 'L' :: rest => (8, rest)
  | cs =>
    let digits := cs.takeWhile isDigit
    (if digits.isEmpty then 4 else valueOf digits, cs.drop digits.length)

/-- The kinds that the letters of a type name. -/
def kindsOf (whole : List Char) : (room : Nat) → List Char → Except (List Char) (List Kind)
  | 0, _ | _, [] => .ok []
  | room + 1, c :: cs => do
    let shape ← match c with
      | 'a' => pure Shape.named
      | 'c' => pure Shape.char
      | 'd' => pure Shape.signed
      | 'o' => pure (Shape.inBase 8)
      | 'u' => pure (Shape.inBase 10)
      | 'x' => pure (Shape.inBase 16)
      | c => throw ("invalid character '".toList ++ c :: "' in type string ".toList ++
          quoted whole)
    let (size, rest) := if shape = .named || shape = .char then (1, cs) else sizeBehind cs
    if !(size = 1 || size = 2 || size = 4 || size = 8) then
      throw ("invalid type string ".toList ++ quoted whole ++
        ";\nthis system doesn't provide a ".toList ++ digitsOf size ++
        "-byte integral type".toList)
    let hasTrailer := rest.head? = some 'z'
    let more ← kindsOf whole room (if hasTrailer then rest.drop 1 else rest)
    return ⟨shape, size, hasTrailer⟩ :: more

/-- The kinds that letters of options stand for. -/
def optionKinds : List (Char × String) :=
  [('a', "a"), ('b', "o1"), ('c', "c"), ('d', "u2"), ('i', "d4"), ('l', "d8"), ('o', "o2"),
    ('s', "d2"), ('x', "x2"), ('h', "x2"), ('B', "o2"), ('D', "u4"), ('H', "x4"), ('X', "x4"),
    ('I', "d8"), ('L', "d8"), ('O', "o4")]

/-- The kinds that options ask for. -/
def kinds (o : Options) : Except (List Char) (List Kind) := do
  let types := o.letters.filterMap fun (letter, value) =>
    if letter = 't' then some value else (optionKinds.lookup letter).map String.toList
  let named ← types.mapM fun t => kindsOf t (t.length + 1) t
  return if named.flatten.isEmpty then [⟨.inBase 8, 2, false⟩] else named.flatten

/-! ### Lines -/

/-- How bytes are shown. -/
structure Layout where
  /-- The kinds. -/
  kinds : List Kind
  /-- How many bytes a line has. -/
  lineSize : Nat
  /-- The base of addresses and how wide they are, if there are any. -/
  address : Option (Nat × Nat)
  /-- Whether the first byte of a number is the greatest. -/
  isBig : Bool
  /-- Whether lines that equal the one before are shown. -/
  showsRepeats : Bool

namespace Layout

/-- How many bytes go together in all kinds. -/
def common (kinds : List Kind) : Nat := kinds.foldl (fun n k => max n k.size) 1

/-- An address. -/
def addressOf (l : Layout) (n : Nat) : List Char :=
  match l.address with
  | some (base, width) => padded base width n
  | none => []

/-- How wide a line is without its address. -/
def width (l : Layout) : Nat :=
  l.kinds.foldl (fun w k => max w ((k.width + 1) * (l.lineSize / k.size))) 0

/-- Groups in fields that together are as wide as all of the line would be. -/
def fields (fieldWidth count pad : Nat) : (index : Nat) → List (List Char) → List Char
  | _, [] => []
  | i, g :: gs =>
    let before := pad * (count - i) / count
    let behind := pad * (count - i - 1) / count
    padLeft (before - behind + fieldWidth) g ++ fields fieldWidth count pad (i + 1) gs

/-- A line in one kind, without its address. -/
def shown (l : Layout) (k : Kind) (bytes : List Char) : List Char :=
  let count := l.lineSize / k.size
  let pad := l.width - k.width * count
  let blank := (l.lineSize - bytes.length) / k.size
  let filled := bytes ++ List.replicate ((k.size - bytes.length % k.size) % k.size) '\x00'
  let groups := (List.range (count - blank)).map fun i =>
    k.show l.isBig ((filled.drop (i * k.size)).take k.size)
  fields k.width count pad 0 groups ++
    if k.hasTrailer then
      List.replicate (blank * k.width + pad * blank / count) ' ' ++ "  >".toList ++
        bytes.map (fun c => if isShown c then c else '.') ++ ['<']
    else []

/-- The lines of a part of the bytes, in all kinds. -/
def linesOf (l : Layout) (position : Nat) (bytes : List Char) : List Char :=
  unlines (l.kinds.zipIdx.map fun (k, i) =>
    let address := l.addressOf position
    (if i = 0 then address else List.replicate address.length ' ') ++ l.shown k bytes)

/-- All lines from a position on, given the line before and whether it was left out. -/
def lines (l : Layout) : (room position : Nat) → (last : Option (List Char)) →
    (isLeftOut : Bool) → List Char → List Char
  | 0, _, _, _, _ => []
  | room + 1, position, last, isLeftOut, bytes =>
    if bytes.isEmpty then
      let final := l.addressOf position
      if final.isEmpty then [] else final ++ ['\n']
    else
      let line := bytes.take l.lineSize
      let rest := bytes.drop l.lineSize
      let next := position + line.length
      if !l.showsRepeats && last = some line && line.length = l.lineSize then
        (if isLeftOut then [] else "*\n".toList) ++ lines l room next last true rest
      else l.linesOf position line ++ lines l room next (some line) false rest

end Layout

/-! ### The tool -/

/-- A number of bytes: in octal or hexadecimal digits if it begins like those, and with the
letters of a unit behind it. -/
def bytesOf? (cs : List Char) : Option Nat :=
  let (base, ds) := match cs with
    | '0' :: 'x' :: ds | '0' :: 'X' :: ds => (16, ds)
    | '0' :: d :: ds => if isDigit d then (8, d :: ds) else (10, cs)
    | ds => (10, ds)
  let digits := ds.takeWhile (isDigitOf base)
  if digits.isEmpty then none
  else (unit? (ds.drop digits.length)).map (valueIn base digits * ·)

/-- The printable texts of at least a length that a zero byte ends, with their addresses. -/
def texts (l : Layout) (least : Nat) : (position : Nat) → (reversed : List Char) → List Char →
    List Char
  | _, _, [] => []
  | position, reversed, c :: cs =>
    if isShown c then
      texts l least (position + 1) (c :: reversed) cs
    else
      let here := if c = '\x00' && least ≤ reversed.length then
          let address := l.addressOf (position - reversed.length)
          (if address.isEmpty then [] else address ++ [' ']) ++
            reversed.reverse ++ ['\n']
        else []
      here ++ texts l least (position + 1) [] cs

/-- The long names of the options. -/
def names : List (String × Char) :=
  [("skip-bytes", 'j'), ("address-radix", 'A'), ("read-bytes", 'N'), ("format", 't'),
    ("output-duplicates", 'v'), ("strings", 'Z'), ("traditional", 'T'), ("width", 'w'),
    ("endian", 'E')]

/-- The base of addresses and how wide they are. -/
def addressOf (o : Options) : Except (List Char) (Option (Nat × Nat)) :=
  match o.value? 'A' with
  | none => .ok (some (8, 7))
  | some text =>
    match text.head? with
    | some 'o' => .ok (some (8, 7))
    | some 'd' => .ok (some (10, 7))
    | some 'x' => .ok (some (16, 6))
    | some 'n' => .ok none
    | _ => .error ("invalid output address radix '".toList ++ text.take 1 ++
        "'; it must be one character from [doxn]".toList)

/-- The number that an option gives. -/
def numberOf (o : Options) (letter : Char) : Except (List Char) (Option Nat) :=
  match o.value? letter with
  | none => .ok none
  | some text =>
    match bytesOf? text with
    | some n => .ok (some n)
    | none => .error ("invalid -".toList ++ letter :: " argument ".toList ++ quoted text)

/-- What the options say: how bytes are shown, how many are passed over and how many are shown,
and how long texts are that are sought instead. -/
structure Request where
  /-- How bytes are shown. -/
  layout : Layout
  /-- How many bytes are passed over. -/
  skipped : Nat
  /-- How many bytes are shown at most. -/
  limit : Option Nat
  /-- How long texts are at least that are sought. -/
  least : Option Nat
  /-- A width that does not go with the kinds. -/
  badWidth : Option Nat

/-- Reads the options. -/
def requestOf (o : Options) : Except (List Char) Request := do
  let address ← addressOf o
  let skipped ← numberOf o 'j'
  let limit ← numberOf o 'N'
  let least ← match o.value? 'Z' with
    | none => numberOf o 'S'
    | some [] => pure (some 3)
    | _ => numberOf o 'Z'
  let kinds ← kinds o
  let common := Layout.common kinds
  let asked ← match o.value? 'w' with
    | some [] => pure (some 32)
    | _ => numberOf o 'w'
  let isGood := asked.all fun w => w ≠ 0 && w % common = 0
  let isBig ← match (o.value? 'E').map String.ofList with
    | none => pure false
    | some text =>
      if text ≠ "" && text.toList.isPrefixOf "big".toList then pure true
      else if text ≠ "" && text.toList.isPrefixOf "little".toList then pure false
      else throw ("invalid argument ".toList ++ quoted text.toList ++
        " for '--endian'\nValid arguments are:\n  - 'little'\n  - 'big'".toList)
  return {
    layout := {
      kinds
      lineSize := if isGood then asked.getD 16 else common
      address
      isBig
      showsRepeats := o.has 'v' }
    skipped := skipped.getD 0
    limit
    least
    badWidth := if isGood then none else asked }

/-- Shows bytes by number. -/
def od : Tool :=
  withOptions {
    flags := "abcdfhilosxvBDHXILOT", valued := "AjNtES", optional := "Zw", hidden := "ETZ"
    long := names } 1 fun c o =>
  match requestOf o with
  | .error text =>
    if "invalid argument".toList.isPrefixOf text then .ofMisuse c 1 text
    else (splitAt '\n' text).foldl (fun (e : Effect) line =>
      if e.writes.isEmpty then e.complain c 1 line else e.warn (line ++ ['\n'])) (.ofStatus c 1)
  | .ok r =>
    let all := inputs c o.operands
    let e : Effect := all.foldl (fun e (name, t) => match t with
      | .ok _ => e
      | .error t => e.complain c 1 (fileComplaint name t)) (.ofStatus c 0)
    let text := all.flatMap fun (_, t) => t.toOption.getD []
    let e := match r.badWidth with
      | some w => e.complain c 0 ("warning: invalid width ".toList ++ digitsOf w ++
          "; using ".toList ++ digitsOf r.layout.lineSize ++ " instead".toList)
      | none => e
    let bytes := text.drop r.skipped
    let bytes := match r.limit with
      | some n => bytes.take n
      | none => bytes
    let e :=
      if text.length < r.skipped then
        e.complain c 1 "cannot skip past end of combined input".toList
      else if all.all fun (_, t) => (t matches .error _) && !(t matches .error .isDirectory) then e
      else
        e.write (match r.least with
          | some least => texts r.layout least r.skipped [] bytes
          | none => r.layout.lines (bytes.length + 1) r.skipped none false bytes)
    if readsInput o.operands then
      match r.limit with
      | some n => { e with taken := min (c.input.getD []).length (r.skipped + n) }
      | none => e.takingAll c
    else e

end ParserConformance.Script.Tool.Dump
