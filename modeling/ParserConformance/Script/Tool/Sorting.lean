import ParserConformance.Script.Arithmetic
import ParserConformance.Script.Tool.Place

/-!
# Sorting lines

`sort` puts lines in an order that keys give: parts of the lines, each compared in its own way.
Lines that no key tells apart are told apart as a whole, unless that is not wanted.
-/

namespace ParserConformance.Script.Tool.Sorting

/-! ### Keys -/

/-- How keys are compared. -/
structure Manner where
  /-- Whether only blanks, letters and digits count. -/
  isDictionary : Bool := false
  /-- Whether the case of letters makes no difference. -/
  ignoresCase : Bool := false
  /-- Whether only characters that can be seen count. -/
  onlyPrintable : Bool := false
  /-- The letter of the kind of values that are compared, if they are no texts. -/
  kind : Option Char := none
  /-- Whether the order is turned around. -/
  isReverse : Bool := false
  /-- Whether blanks before the start of the key are passed over. -/
  skipsAtStart : Bool := false
  /-- Whether blanks before the end of the key are passed over. -/
  skipsAtEnd : Bool := false
  deriving DecidableEq, Repr

/-- The manner with one more letter. -/
def Manner.add (m : Manner) (atEnd : Bool) (letter : Char) : Manner :=
  match letter with
  | 'b' => if atEnd then { m with skipsAtEnd := true } else { m with skipsAtStart := true }
  | 'd' => { m with isDictionary := true }
  | 'f' => { m with ignoresCase := true }
  | 'i' => { m with onlyPrintable := true }
  | 'r' => { m with isReverse := true }
  | letter => { m with kind := some letter }

/-- The letters that say how keys are compared. -/
def mannerLetters : List Char := "bdfgiMhnRrV".toList

/-- A key: from a character of a field to one of another. -/
structure Key where
  /-- The number of fields before the first one. -/
  startField : Nat
  /-- The number of characters before the first one. -/
  startChar : Nat
  /-- The number of fields up to the last one, and of its characters that belong to the key; zero
  stands for all of them. Without an end, the key goes up to the end of the line. -/
  stop : Option (Nat × Nat)
  /-- How it is compared. -/
  manner : Manner
  deriving DecidableEq, Repr

/-- What is wrong with a key. -/
inductive KeyFault where
  /-- A number is missing. -/
  | noNumber (place : String) (text : List Char)
  /-- A field or character with the number zero. -/
  | zero (what : String) (text : List Char)
  /-- A letter that says nothing. -/
  | stray (text : List Char)
  deriving DecidableEq, Repr

/-- The wording of a fault. -/
def KeyFault.message : KeyFault → List Char
  | .noNumber place text => ("invalid number " ++ place ++ ": invalid count at start of ").toList
      ++ quoted text
  | .zero what text => (what ++ " is zero: invalid field specification ").toList ++ quoted text
  | .stray text => "stray character in field spec: invalid field specification ".toList ++
      quoted text

/-- A number at the start of a text and what follows it. -/
def leadingNumber? (cs : List Char) : Option (Nat × List Char) :=
  let digits := cs.takeWhile isDigit
  if digits.isEmpty then none else some (valueOf digits, cs.drop digits.length)

/-- Reads a key. -/
def readKey (text : List Char) : Except KeyFault Key := do
  let number (place : String) (cs : List Char) : Except KeyFault (Nat × List Char) :=
    match leadingNumber? cs with
    | some found => .ok found
    | none => .error (.noNumber place cs)
  let letters (atEnd : Bool) (m : Manner) (cs : List Char) : Manner × List Char :=
    let found := cs.takeWhile mannerLetters.contains
    (found.foldl (fun m l => m.add atEnd l) m, cs.drop found.length)
  let (field, rest) ← number "at field start" text
  if field = 0 then throw (.zero "field number" text)
  let (char, rest) ← match rest with
    | '.' :: more =>
      let (char, rest) ← number "after '.'" more
      if char = 0 then throw (.zero "character offset" text)
      pure (char - 1, rest)
    | rest => pure (0, rest)
  let (m, rest) := letters false {} rest
  match rest with
  | [] => return ⟨field - 1, char, none, m⟩
  | ',' :: more =>
    let (last, rest) ← number "after ','" more
    if last = 0 then throw (.zero "field number" text)
    let (lastChar, rest) ← match rest with
      | '.' :: more => number "after '.'" more
      | rest => pure (0, rest)
    let (m, rest) := letters true m rest
    if !rest.isEmpty then throw (.stray text)
    return ⟨field - 1, char, some (last, lastChar), m⟩
  | _ => throw (.stray text)

/-- How many characters of a line stand before a field: with a separator, so many of those with
what they part; without one, so many runs of blanks, each with what follows it. -/
def beforeField (separator : Option Char) : (fields : Nat) → List Char → Nat
  | 0, _ => 0
  | n + 1, l =>
    match separator with
    | some d =>
      let field := (l.takeWhile (· ≠ d)).length
      let here := min l.length (field + 1)
      here + beforeField separator n (l.drop here)
    | none =>
      let gap := (l.takeWhile isBlankOrEnd).length
      let word := ((l.drop gap).takeWhile (!isBlankOrEnd ·)).length
      gap + word + beforeField separator n (l.drop (gap + word))
where
  /-- Whether a character parts fields. -/
  isBlankOrEnd (c : Char) : Bool := c = ' ' || c = '\t' || c = '\n'

/-- The part of a line that a key takes. -/
def Key.of (k : Key) (separator : Option Char) (l : List Char) : List Char :=
  let isGap (c : Char) : Bool := c = ' ' || c = '\t' || c = '\n'
  let start := beforeField separator k.startField l
  let start := if k.manner.skipsAtStart then
    start + ((l.drop start).takeWhile isGap).length else start
  let start := min l.length (start + k.startChar)
  let stop := match k.stop with
    | none => l.length
    | some (fields, 0) =>
      let before := beforeField separator fields l
      match separator with
      | some d =>
        let before := beforeField separator (fields - 1) l
        before + ((l.drop before).takeWhile (· ≠ d)).length
      | none => before
    | some (fields, chars) =>
      let before := beforeField separator (fields - 1) l
      let before := if k.manner.skipsAtEnd then
        before + ((l.drop before).takeWhile isGap).length else before
      min l.length (before + chars)
  (l.take stop).drop start

/-! ### Values of keys -/

/-- Compares texts by their bytes. -/
def compareTexts : List Char → List Char → Ordering
  | [], [] => .eq
  | [], _ => .lt
  | _, [] => .gt
  | a :: as, b :: bs => if a < b then .lt else if b < a then .gt else compareTexts as bs

/-- A decimal: its sign, its digits before the point without zeros in front, and those behind it
without zeros at the end. -/
structure Decimal where
  /-- Whether it has a minus sign. -/
  isNegative : Bool
  /-- The digits before the point. -/
  whole : List Char
  /-- The digits behind it. -/
  decimals : List Char

/-- The decimal at the start of a text, and what follows it. -/
def readDecimal (cs : List Char) : Decimal × List Char :=
  let cs := cs.dropWhile fun c => c = ' ' || c = '\t'
  let (isNegative, cs) := match cs with
    | '-' :: rest => (true, rest)
    | rest => (false, rest)
  let whole := cs.takeWhile isDigit
  let rest := cs.drop whole.length
  let (decimals, rest) := match rest with
    | '.' :: more => (more.takeWhile isDigit, more.dropWhile isDigit)
    | rest => ([], rest)
  let whole := whole.dropWhile (· = '0')
  let decimals := (decimals.reverse.dropWhile (· = '0')).reverse
  (⟨isNegative && !(whole.isEmpty && decimals.isEmpty), whole, decimals⟩, rest)

/-- Compares decimals. -/
def compareDecimals (a b : Decimal) : Ordering :=
  let sizes (a b : Decimal) : Ordering :=
    (compare a.whole.length b.whole.length).then
      ((compareTexts a.whole b.whole).then (compareTexts a.decimals b.decimals))
  match a.isNegative, b.isNegative with
  | false, false => sizes a b
  | true, true => sizes b a
  | true, false => .lt
  | false, true => .gt

/-- Compares decimals with the letter of a unit behind them: by the sign and the unit first. -/
def compareSizes (a b : List Char) : Ordering :=
  let order (cs : List Char) : Int :=
    let (d, rest) := readDecimal cs
    let unit : Nat := match rest with
      | 'k' :: _ => 1
      | c :: _ => (("KMGTPEZYRQ".toList.idxOf? c).map fun i => i + 1).getD 0
      | [] => 0
    if d.whole.isEmpty && d.decimals.isEmpty then 0
    else if d.isNegative then -(unit : Int) else unit
  (compare (order a) (order b)).then (compareDecimals (readDecimal a).1 (readDecimal b).1)

/-- The number of the month that a text begins with; zero if it is none. -/
def monthOf (cs : List Char) : Nat :=
  let start := ((cs.dropWhile fun c => c = ' ' || c = '\t').take 3).map Char.toUpper
  let names := ["JAN", "FEB", "MAR", "APR", "MAY", "JUN", "JUL", "AUG", "SEP", "OCT", "NOV",
    "DEC"]
  ((names.findIdx? (·.toList = start)).map (· + 1)).getD 0

/-- A number with an exponent as a general number: its class first (none, no number, below all,
usual, above all), then its sign, and a quotient. -/
def generalOf (cs : List Char) : Nat × Int × Nat :=
  let cs := cs.dropWhile isSpaceChar
  let (isNegative, cs) := match cs with
    | '-' :: rest => (true, rest)
    | '+' :: rest => (false, rest)
    | rest => (false, rest)
  let lower := cs.map Char.toLower
  if "nan".toList.isPrefixOf lower then (1, 0, 1)
  else if "inf".toList.isPrefixOf lower then (if isNegative then 2 else 4, 0, 1)
  else
    let isHex := "0x".toList.isPrefixOf lower && (cs.drop 2).head?.any (isDigitOf 16)
    let base := if isHex then 16 else 10
    let cs := if isHex then cs.drop 2 else cs
    let whole := cs.takeWhile (isDigitOf base)
    let rest := cs.drop whole.length
    let (decimals, rest) := match rest with
      | '.' :: more => (more.takeWhile (isDigitOf base), more.dropWhile (isDigitOf base))
      | rest => ([], rest)
    if whole.isEmpty && decimals.isEmpty then (0, 0, 1)
    else
      let exponent : Int := match rest with
        | e :: more =>
          if (e = 'e' || e = 'E') && !isHex || (e = 'p' || e = 'P') && isHex then
            match more with
            | '-' :: ds => -(valueOf (ds.takeWhile isDigit) : Int)
            | '+' :: ds => valueOf (ds.takeWhile isDigit)
            | ds => valueOf (ds.takeWhile isDigit)
          else 0
        | [] => 0
      let step : Nat := if isHex then 2 else 10
      let n : Int := valueIn base (whole ++ decimals)
      let scaled : Int := n * (step : Int) ^ exponent.toNat
      (3, if isNegative then -scaled else scaled,
        base ^ decimals.length * step ^ (-exponent).toNat)

/-- Compares general numbers. -/
def compareGeneral (a b : List Char) : Ordering :=
  let (x, n, d) := generalOf a
  let (y, m, e) := generalOf b
  (compare x y).then (compare (n * e) (m * d))

/-! ### Versions -/

/-- The place of a character in the order of versions. -/
def versionOrder : Option Char → Int
  | none => -1
  | some c =>
    if isDigit c then 0
    else if c.isAlpha then c.toNat
    else if c = '~' then -2
    else c.toNat + 256

/-- Compares texts part by part: what is no digits by the order of its characters, digits as
numbers. -/
def compareVersionParts : (room : Nat) → List Char → List Char → Ordering
  | 0, _, _ => .eq
  | room + 1, a, b =>
    if a.isEmpty && b.isEmpty then .eq
    else
      let isText (cs : List Char) : Bool := cs.head?.any (!isDigit ·)
      if isText a || isText b then
        match compare (versionOrder a.head?) (versionOrder b.head?) with
        | .eq => compareVersionParts room (a.drop 1) (b.drop 1)
        | other => other
      else
        let x := (a.takeWhile isDigit).dropWhile (· = '0')
        let y := (b.takeWhile isDigit).dropWhile (· = '0')
        match (compare x.length y.length).then (compareTexts x y) with
        | .eq => compareVersionParts room (a.dropWhile isDigit) (b.dropWhile isDigit)
        | other => other

/-- A text without endings like those of files: points, each with a letter and what may follow. -/
def withoutEndings (cs : List Char) : List Char :=
  go cs.length cs
where
  /-- Takes endings off as long as there is one. -/
  go : (room : Nat) → List Char → List Char
    | 0, cs => cs
    | room + 1, cs =>
      let back := cs.reverse.takeWhile fun c => c.isAlphanum || c = '~'
      match cs.reverse.drop back.length, back.getLast? with
      | '.' :: rest, some first =>
        if (first.isAlpha || first = '~') && !rest.isEmpty then go room rest.reverse else cs
      | _, _ => cs

/-- Compares texts as versions. -/
def compareVersions (a b : List Char) : Ordering :=
  let room := a.length + b.length + 1
  let rank (cs : List Char) : Nat :=
    if cs.isEmpty then 0 else if cs = ['.'] then 1 else if cs = ['.', '.'] then 2
    else if cs.head? = some '.' then 3 else 4
  match compare (rank a) (rank b) with
  | .eq =>
    let (a, b) := if rank a = 3 then (a.drop 1, b.drop 1) else (a, b)
    (compareVersionParts room (withoutEndings a) (withoutEndings b)).then
      (compareVersionParts room a b)
  | other => other

/-- Compares keys. -/
def compareKeys (m : Manner) (a b : List Char) : Ordering :=
  let order := match m.kind with
    | some 'n' => compareDecimals (readDecimal a).1 (readDecimal b).1
    | some 'h' => compareSizes a b
    | some 'g' => compareGeneral a b
    | some 'M' => compare (monthOf a) (monthOf b)
    | some 'V' => compareVersions a b
    | _ =>
      let counts (c : Char) : Bool :=
        (!m.isDictionary || c.isAlphanum || c = ' ' || c = '\t') &&
          (!m.onlyPrintable || (' ' ≤ c && c ≤ '~'))
      let made (cs : List Char) := (cs.filter counts).map fun c =>
        if m.ignoresCase then c.toUpper else c
      compareTexts (made a) (made b)
  if m.isReverse then order.swap else order

/-! ### The tool -/

/-- An order of lines. -/
structure Order where
  /-- The keys. -/
  keys : List Key
  /-- What parts fields, if not blanks. -/
  separator : Option Char
  /-- Whether lines are not told apart as a whole. -/
  isStable : Bool
  /-- Whether the order of whole lines is turned around. -/
  isReverse : Bool

/-- The parts of a line that are compared. -/
def Order.partsOf (o : Order) (l : List Char) : List (List Char) :=
  o.keys.map fun k => k.of o.separator l

/-- Compares lines by keys, which are given with the lines. -/
def Order.byKeys (o : Order) (a b : List (List Char)) : Ordering :=
  ((o.keys.zip (a.zip b)).map fun (k, x, y) => compareKeys k.manner x y).foldl Ordering.then .eq

/-- Compares lines, which are given with their keys. -/
def Order.compare (o : Order) (a b : List Char × List (List Char)) : Ordering :=
  let whole := compareTexts a.1 b.1
  let whole := if o.isReverse then whole.swap else whole
  if o.keys.isEmpty then whole
  else (o.byKeys a.2 b.2).then (if o.isStable then .eq else whole)

/-- The order that options give. -/
def orderOf (o : Options) : Except (List Char) Order := do
  let usual : Manner := o.letters.foldl (fun m (l, _) =>
    if l = 'b' then { m with skipsAtStart := true, skipsAtEnd := true }
    else if mannerLetters.contains l then m.add false l else m) {}
  let read ← (o.values 'k').mapM fun text =>
    match readKey text with
    | .ok k => .ok k
    | .error fault => .error fault.message
  let keys := read.map fun k => if k.manner = {} then { k with manner := usual } else k
  let plain : Manner := {}
  let keys := if keys.isEmpty && { usual with isReverse := false } ≠ plain then
    [⟨0, 0, none, usual⟩] else keys
  let separator ← match o.value? 't' with
    | none => pure none
    | some [] => throw "empty tab".toList
    | some [d] => pure (some d)
    | some ['\\', '0'] => pure (some '\x00')
    | some text => throw ("multi-character tab ".toList ++ quoted text)
  return ⟨keys, separator, o.has 's' || o.has 'u', usual.isReverse⟩

/-- The first of lines that compare equal to the one before. -/
def withoutRepeats {α : Type} (isSame : α → α → Bool) : List α → List α
  | [] => []
  | x :: xs => x :: go x xs
where
  /-- Goes on behind a line. -/
  go (last : α) : List α → List α
    | [] => []
    | x :: xs => if isSame last x then go last xs else x :: go x xs

/-- Merges lists, each of which is taken to be in order: the least of the first ones comes
first. -/
def merge {α : Type} (before : α → α → Bool) : (room : Nat) → List (List α) → List α
  | 0, _ => []
  | room + 1, lists =>
    let lists := lists.filter (!·.isEmpty)
    let heads := lists.zipIdx.filterMap fun (l, i) => l.head?.map (·, i)
    match heads with
    | [] => []
    | first :: others =>
      let (x, i) := others.foldl (fun best h => if before h.1 best.1 then h else best) first
      x :: merge before room (lists.modify i (·.drop 1))

/-- The first line that is out of order, with its number. -/
def disorder? (o : Order) (strictly : Bool) :
    (number : Nat) → List (List Char × List (List Char)) → Option (Nat × List Char)
  | n, a :: b :: rest =>
    let order := o.compare a b
    if order = .gt || (strictly && order = .eq) then some (n + 1, b.1)
    else disorder? o strictly (n + 1) (b :: rest)
  | _, _ => none

/-- The long names of the options. -/
def names : List (String × Char) :=
  [("ignore-leading-blanks", 'b'), ("dictionary-order", 'd'), ("ignore-case", 'f'),
    ("general-numeric-sort", 'g'), ("ignore-nonprinting", 'i'), ("month-sort", 'M'),
    ("human-numeric-sort", 'h'), ("numeric-sort", 'n'), ("random-sort", 'R'),
    ("random-source", 'A'), ("reverse", 'r'), ("sort", 'B'), ("version-sort", 'V'),
    ("batch-size", 'A'), ("check", 'c'), ("compress-program", 'A'), ("debug", 'D'),
    ("files0-from", '0'), ("key", 'k'), ("merge", 'm'), ("output", 'o'), ("stable", 's'),
    ("buffer-size", 'S'), ("field-separator", 't'), ("temporary-directory", 'T'),
    ("parallel", 'A'), ("unique", 'u'), ("zero-terminated", 'z')]

/-- Options with the letter in the place of a way of sorting that is given by its name. -/
def withNamedKind (o : Options) : Options :=
  { o with letters := o.letters.map fun (l, value) =>
    if l ≠ 'B' then (l, value)
    else
      match String.ofList value with
      | "general-numeric" => ('g', [])
      | "human-numeric" => ('h', [])
      | "month" => ('M', [])
      | "numeric" => ('n', [])
      | "random" => ('R', [])
      | "version" => ('V', [])
      | _ => (l, value) }

/-- Checks whether lines are in order. -/
def check (c : Call) (o : Options) (order : Order) : Effect :=
  let name := o.operands.headD ['-']
  match o.operands.drop 1 with
  | extra :: _ => .ofMisuse c 2 ("extra operand ".toList ++ quoted extra ++
      " not allowed with -c".toList)
  | [] =>
    match contentOf c name with
    | .error t => .ofComplaint c 2 ("cannot read: ".toList ++ fileComplaint name t)
    | .ok text =>
      let lines := (recordsOf (stopOf o) text).1
      let e := match disorder? order (o.has 'u') 1 (lines.map fun l => (l, order.partsOf l)) with
        | none => Effect.ofStatus c 0
        | some (n, l) =>
          let isQuiet := o.has 'C' || (o.value? 'c').any fun v =>
            v = "quiet".toList || v = "silent".toList
          if isQuiet then .ofStatus c 1
          else .ofComplaint c 1 (name ++ ':' :: digitsOf n ++ ": disorder: ".toList ++ l)
      if isInput name then e.takingAll c else e

/-- Sorts lines. -/
def sort : Tool :=
  withOptions {
    flags := "bdfgiMhnRrVCmsuzD", valued := "koStTAB0", optional := "c", hidden := "ABD0"
    long := names } 2 fun c o =>
  let o := withNamedKind o
  let o := { o with operands := match o.value? '0' with
    | some name => (((contentOf c name).map fun text =>
        (recordsOf '\x00' text).1).toOption.getD [])
    | none => o.operands }
  match orderOf o with
  | .error text => .ofComplaint c 2 text
  | .ok order =>
    if o.has 'c' || o.has 'C' then check c o order
    else
      let all := inputs c o.operands
      let failed : Option (List Char × Trouble) := all.findSome? fun (name, r) => match r with
        | .error t => some (name, t)
        | .ok _ => none
      match failed with
      | some (name, .isDirectory) =>
        .ofComplaint c 2 ("read failed: ".toList ++ fileComplaint name .isDirectory)
      | some (name, t) => .ofComplaint c 2 ("cannot read: ".toList ++ fileComplaint name t)
      | none =>
        let linesOfAll := all.map fun (_, r) =>
          ((recordsOf (stopOf o) (r.toOption.getD [])).1.map fun l => (l, order.partsOf l))
        let whole := linesOfAll.flatten
        let sorted := if o.has 'm' then
            merge (fun a b => order.compare a b = .lt) (whole.length + 1) linesOfAll
          else whole.mergeSort fun a b => order.compare a b ≠ .gt
        let isSame (a b : List Char × List (List Char)) : Bool :=
          if order.keys.isEmpty then a.1 = b.1 else order.byKeys a.2 b.2 = .eq
        let sorted := if o.has 'u' then withoutRepeats isSame sorted else sorted
        let text := ended (stopOf o) (sorted.map (·.1))
        let e := match o.value? 'o' with
          | none => Effect.ofOutput c text
          | some name =>
            match writingTrouble? c.disk name with
            | some t => .ofComplaint c 2 ("open failed: ".toList ++ fileComplaint name t)
            | none => { Effect.ofStatus c 0 with disk := written c.mask c.disk name text }
        if readsInput o.operands then e.takingAll c else e

end ParserConformance.Script.Tool.Sorting
