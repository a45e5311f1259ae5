import ParserConformance.Script.Tool.Columns

/-!
# Numbers with units

`numfmt` writes numbers with the letter of a unit behind them, or reads such numbers. Values are
exact quotients until they are written.
-/

namespace ParserConformance.Script.Tool.Units

/-- Which units there are. -/
inductive Scale where
  /-- None. -/
  | none
  /-- Powers of 1000, or of 1024 if an `i` stands behind the letter. -/
  | either
  /-- Powers of 1000. -/
  | thousands
  /-- Powers of 1024. -/
  | binary
  /-- Powers of 1024 with an `i` behind the letter. -/
  | binaryMarked
  deriving DecidableEq, Repr

/-- How many units of one power make one of the next. -/
def Scale.base : Scale → Nat
  | .binary | .binaryMarked => 1024
  | _ => 1000

/-- The letters of the units, from the first power on. -/
def unitLetters : List Char := "KMGTPEZYRQ".toList

/-- How a value that is no whole number becomes one. -/
inductive Rounding where
  /-- The next greater one. -/
  | up
  /-- The next smaller one. -/
  | down
  /-- The next one away from zero. -/
  | fromZero
  /-- The next one towards zero. -/
  | towardsZero
  /-- The nearest one, away from zero if there are two. -/
  | nearest
  deriving DecidableEq, Repr

/-- A value: a quotient. -/
structure Value where
  /-- What is divided. -/
  top : Int
  /-- By what. -/
  bottom : Nat

/-- A value times a whole number. -/
def Value.times (v : Value) (n : Nat) : Value := ⟨v.top * n, v.bottom⟩

/-- A value divided by a whole number. -/
def Value.divided (v : Value) (n : Nat) : Value := ⟨v.top, v.bottom * n⟩

/-- Whether the size of a value is less than a whole number. -/
def Value.isBelow (v : Value) (n : Nat) : Bool := v.top.natAbs < n * v.bottom

/-- A value rounded to so many decimals. -/
def Value.rounded (v : Value) (r : Rounding) (places : Nat) : Value :=
  let n := v.top * 10 ^ places
  let d : Int := v.bottom
  let low := n / d
  let high := -(-n / d)
  let whole := match r with
    | .up => high
    | .down => low
    | .fromZero => if n < 0 then low else high
    | .towardsZero => if n < 0 then high else low
    | .nearest => if n < 0 then -((-n * 2 + d) / (2 * d)) else (n * 2 + d) / (2 * d)
  ⟨whole, 10 ^ places⟩

/-- A value with so many decimals. -/
def Value.text (v : Value) (places : Nat) : List Char :=
  let n := roundQuotient (v.top.natAbs * 10 ^ places) v.bottom
  (if v.top < 0 then ['-'] else []) ++ Magnitude.withPoint places false n

/-! ### Reading -/

/-- Why a text is no number with a unit. -/
inductive Fault where
  /-- It is no number at all. -/
  | notNumber
  /-- It has a unit though there are none. -/
  | unwantedUnit
  /-- It has something else behind it. -/
  | badUnit
  /-- Its unit has no `i`. -/
  | noMark
  /-- It has something behind its unit. -/
  | behind (text : List Char)

/-- The wording of a fault of a text. -/
def Fault.message (text : List Char) : Fault → List Char
  | .notNumber => "invalid number: ".toList ++ quoted text
  | .unwantedUnit =>
    "rejecting suffix in input: ".toList ++ quoted text ++ " (consider using --from)".toList
  | .badUnit => "invalid suffix in input: ".toList ++ quoted text
  | .noMark => "missing 'i' suffix in input: ".toList ++ quoted text ++ " (e.g Ki/Mi/Gi)".toList
  | .behind rest => "invalid suffix in input ".toList ++ quoted text ++ ": ".toList ++ quoted rest

/-- The number at the start of a text, how many decimals it has, and what comes after it. -/
def plainNumber? (text : List Char) : Option (Value × Nat × List Char) :=
  let (sign, cs) : Int × List Char := match text with
    | '-' :: cs => (-1, cs)
    | cs => (1, cs)
  let whole := cs.takeWhile isDigit
  match cs.drop whole.length with
  | '.' :: rest =>
    let decimals := rest.takeWhile isDigit
    if decimals.isEmpty then none
    else
      some (⟨sign * valueOf (whole ++ decimals), 10 ^ decimals.length⟩, decimals.length,
        rest.drop decimals.length)
  | rest => if whole.isEmpty then none else some (⟨sign * valueOf whole, 1⟩, 0, rest)

/-- The value that a text writes, and how many decimals it has. -/
def read (scale : Scale) (text : List Char) : Except Fault (Value × Nat) :=
  match plainNumber? text with
  | none => .error .notNumber
  | some (v, places, rest) =>
    let hasMark (cs : List Char) : Bool := cs.head? = some 'i'
    match rest.dropWhile fun c => c = ' ' || c = '\t' with
    | [] => if scale = .binaryMarked then .error .noMark else .ok (v, places)
    | letter :: behind =>
      match unitLetters.findIdx? (· = letter) with
      | none => .error .badUnit
      | some power =>
        if scale = .none then .error .unwantedUnit
        else
          let base := if scale = .either && hasMark behind then 1024 else scale.base
          let isMarked := scale = .either || scale = .binaryMarked
          let rest := if isMarked && hasMark behind then behind.drop 1 else behind
          if scale = .binaryMarked && !hasMark behind then .error .noMark
          else if !rest.isEmpty then .error (.behind rest)
          else .ok (v.times (base ^ (power + 1)), 0)

/-! ### Writing -/

/-- A value below the base of a scale, and by which power of the base it was divided. -/
def reduced (base : Nat) : (room : Nat) → Value → Value × Nat
  | 0, v => (v, 0)
  | room + 1, v =>
    if v.isBelow base then (v, 0)
    else
      let (w, power) := reduced base room (v.divided base)
      (w, power + 1)

/-- A value with a unit behind it. `places` is how many decimals were asked for. -/
def scaled (scale : Scale) (r : Rounding) (places : Option Nat) (v : Value) : List Char :=
  let (v, power) := reduced scale.base unitLetters.length v
  let adjust := match places with
    | some n => min (power * 3) n
    | none => if v.isBelow 10 then 1 else 0
  let v := v.rounded r adjust
  let (v, power) := if v.isBelow scale.base then (v, power) else (v.divided scale.base, power + 1)
  let usual := if v.top ≠ 0 && v.isBelow 10 && 0 < power then 1 else 0
  let letter := if power = 0 then [] else [unitLetters.getD (power - 1) '?']
  v.text (places.getD usual) ++ letter ++
    (if scale = .binaryMarked && 0 < power then ['i'] else [])

/-! ### Requests -/

/-- What happens to texts that are no numbers. -/
inductive Tolerance where
  /-- They end everything. -/
  | abort
  /-- They are complained of and lead to a bad status. -/
  | fail
  /-- They are complained of. -/
  | warn
  /-- Nothing. -/
  | ignore
  deriving DecidableEq, Repr

/-- What a call asks for. -/
structure Request where
  /-- The units of numbers that are read. -/
  source : Scale := .none
  /-- The units of numbers that are written. -/
  target : Scale := .none
  /-- By how much what is read is multiplied. -/
  sourceUnit : Nat := 1
  /-- By how much what is written is divided. -/
  targetUnit : Nat := 1
  /-- How values are rounded. -/
  rounding : Rounding := .fromZero
  /-- What happens to texts that are no numbers. -/
  tolerance : Tolerance := .abort
  /-- What stands behind numbers. -/
  suffix : List Char := []
  /-- How wide numbers are; less than zero if blanks go behind them. -/
  padding : Int := 0
  /-- How many digits numbers have at least. -/
  digits : Nat := 0
  /-- How many decimals numbers have, if that was asked for. -/
  places : Option Nat := none
  /-- What stands in front of numbers. -/
  front : List Char := []
  /-- What stands behind numbers and their suffix. -/
  behind : List Char := []
  /-- The character between fields, if it is not just blanks. -/
  delimiter : Option Char := none
  /-- The fields that are numbers. -/
  fields : List Span := [⟨1, some 1⟩]
  /-- How many lines at the start are left as they are. -/
  header : Nat := 0
  /-- The character that ends lines. -/
  stop : Char := '\n'

/-- What is wrong with a call. -/
inductive Misuse where
  /-- Something that has a word of advice behind it. -/
  | advised (text : List Char)
  /-- Something else. -/
  | plain (text : List Char)

/-- The meaning of a word among those that an option knows. -/
def choice {α : Type} (option : String) (known : List (String × α)) (word : List Char) :
    Except Misuse α :=
  let matching := known.filter fun (name, _) => word.isPrefixOf name.toList
  match known.find? (·.1.toList = word), matching with
  | some (_, x), _ | none, [(_, x)] => .ok x
  | none, others =>
    let kind := if others.isEmpty then "invalid" else "ambiguous"
    .error (.advised (kind.toList ++ " argument ".toList ++ quoted word ++
      (" for '--" ++ option ++ "'\nValid arguments are:").toList ++
      known.flatMap fun (name, _) => ("\n  - '" ++ name ++ "'").toList))

/-- The size of the unit that a text names. -/
def unitSize (text : List Char) : Except Misuse Nat :=
  let digits := text.takeWhile isDigit
  let n := if digits.isEmpty then 1 else valueOf digits
  let rest := text.drop digits.length
  let size? := match rest with
    | [] => if digits.isEmpty then none else some n
    | letter :: behind =>
      (unitLetters.findIdx? (· = letter)).bind fun power =>
        if behind.isEmpty then some (n * 1000 ^ (power + 1))
        else if behind = ['i'] then some (n * 1024 ^ (power + 1))
        else none
  match size? with
  | some (size + 1) => .ok (size + 1)
  | _ => .error (.plain ("invalid unit size: ".toList ++ quoted text))

/-- Characters of a format up to its directive, and what comes after them, the percent sign of the
directive included. Two percent signs stand for one. -/
def formatText : (room : Nat) → List Char → List Char × List Char
  | 0, cs => ([], cs)
  | _, [] => ([], [])
  | room + 1, '%' :: '%' :: cs =>
    let (text, rest) := formatText room cs
    ('%' :: text, rest)
  | _, '%' :: cs => ([], '%' :: cs)
  | room + 1, c :: cs =>
    let (text, rest) := formatText room cs
    (c :: text, rest)

/-- Takes a format in. -/
def Request.withFormat (r : Request) (format : List Char) : Except Misuse Request :=
  let shown := quoted format
  let (front, rest) := formatText (format.length + 1) format
  if rest.isEmpty then .error (.plain ("format ".toList ++ shown ++ " has no % directive".toList))
  else
    let flags := (rest.drop 1).takeWhile fun c => c = '0' || c = '\'' || c = ' '
    let rest := rest.drop (1 + flags.length)
    let (isLeft, rest) := match rest with
      | '-' :: more => (true, more)
      | rest => (false, rest)
    let width := rest.takeWhile isDigit
    let rest := rest.drop width.length
    let (places, rest) := match rest with
      | '.' :: more => (some (valueOf (more.takeWhile isDigit)), more.dropWhile isDigit)
      | rest => (none, rest)
    match rest with
    | [] => .error (.plain ("format ".toList ++ shown ++ " ends in %".toList))
    | 'f' :: more =>
      let (behind, extra) := formatText (more.length + 1) more
      if !extra.isEmpty then
        .error (.plain ("format ".toList ++ shown ++ " has too many % directives".toList))
      else
        let size := valueOf width
        let isZero := flags.contains '0' && !isLeft
        .ok { r with
          front, behind
          places := places <|> r.places
          digits := if isZero then size else 0
          padding := if width.isEmpty || isZero then r.padding
            else if isLeft then -(size : Int) else size }
    | _ => .error (.plain ("invalid format ".toList ++ shown ++
        ", directive must be %[0]['][-][N][.][N]f".toList))

/-- The names of scales. -/
def scales : List (String × Scale) :=
  [("none", .none), ("si", .thousands), ("iec", .binary), ("iec-i", .binaryMarked)]

/-- Takes an option in. -/
def Request.take (r : Request) (letter : Char) (value : List Char) : Except Misuse Request := do
  match letter with
  | 'F' => return { r with source := ← choice "from" (("auto", .either) :: scales) value }
  | 'T' => return { r with target := ← choice "to" scales value }
  | 'u' => return { r with sourceUnit := ← unitSize value }
  | 'U' => return { r with targetUnit := ← unitSize value }
  | 'r' =>
    let known : List (String × Rounding) := [("up", .up), ("down", .down),
      ("from-zero", .fromZero), ("towards-zero", .towardsZero), ("nearest", .nearest)]
    return { r with rounding := ← choice "round" known value }
  | 'i' =>
    let known : List (String × Tolerance) :=
      [("abort", .abort), ("fail", .fail), ("warn", .warn), ("ignore", .ignore)]
    return { r with tolerance := ← choice "invalid" known value }
  | 's' => return { r with suffix := value }
  | 'p' =>
    match decimal? value with
    | some 0 | none => throw (.plain ("invalid padding value ".toList ++ quoted value))
    | some n => return { r with padding := n }
  | 'h' =>
    if value.isEmpty then return { r with header := 1 }
    else
      match natural? value with
      | some (n + 1) => return { r with header := n + 1 }
      | _ => throw (.plain ("invalid header value ".toList ++ quoted value))
  | 'f' => r.withFormat value
  | 'd' =>
    match value with
    | [] => return { r with delimiter := some '\x00' }
    | [c] => return { r with delimiter := some c }
    | _ => throw (.plain "the delimiter must be a single character".toList)
  | 'e' =>
    if value = ['-'] then return { r with fields := [⟨1, none⟩] }
    else
      match spansOf value with
      | .ok spans => return { r with fields := spans }
      | .error fault => throw (.advised (fault.message true))
  | 'z' => return { r with stop := '\x00' }
  | _ => return r

/-- The fields of a line, with what stands behind each. -/
def Request.fieldsOf (r : Request) (line : List Char) : List (List Char) :=
  match r.delimiter with
  | some c => splitAt c line
  | none => go (line.length + 1) line
where
  /-- Fields with the blanks in front of them; one blank behind each is left out. -/
  go : (room : Nat) → List Char → List (List Char)
    | 0, _ => []
    | room + 1, cs =>
      let isBlank (c : Char) : Bool := c = ' ' || c = '\t' || c = '\n'
      let blanks := cs.takeWhile isBlank
      let word := (cs.drop blanks.length).takeWhile (!isBlank ·)
      match cs.drop (blanks.length + word.length) with
      | [] => [blanks ++ word]
      | _ :: rest => (blanks ++ word) :: go room rest

/-- A number of a field as it is to be written. -/
def Request.field (r : Request) (number : Nat) (text : List Char) : Except Fault (List Char) := do
  let hasSuffix := !r.suffix.isEmpty && r.suffix.length < text.length &&
    r.suffix.reverse.isPrefixOf text.reverse
  let bare := if hasSuffix then text.take (text.length - r.suffix.length) else text
  let trimmed := bare.dropWhile fun c => c = ' ' || c = '\t'
  let (v, places) ← read r.source trimmed
  let v := (v.times r.sourceUnit).divided r.targetUnit
  let shown := if r.target = .none then
      let places := r.places.getD places
      (v.rounded r.rounding places).text places
    else scaled r.target r.rounding r.places v
  let shown := match shown with
    | '-' :: ds => '-' :: Magnitude.padZeros (r.digits - 1) ds
    | ds => Magnitude.padZeros r.digits ds
  let shown := shown ++ r.suffix
  let isLoose := r.padding = 0 && r.delimiter.isNone
  let width : Int := if !isLoose then r.padding
    else if trimmed.length < bare.length || 1 < number then (bare.length : Int) else 0
  let padded := if width < 0 then padRight width.natAbs shown else padLeft width.toNat shown
  return r.front ++ padded ++ r.behind

/-- A line with its numbers as they are to be written, and what is wrong with those that are
none. After the first fault nothing follows if faults end everything. -/
def Request.line (r : Request) (l : List Char) : List Char × List (List Char) :=
  go (r.fieldsOf l).zipIdx
where
  /-- Goes on with the fields that are left. -/
  go : List (List Char × Nat) → List Char × List (List Char)
    | [] => ([], [])
    | (text, i) :: rest =>
      let join (here : List Char) (faults : List (List Char)) : List Char × List (List Char) :=
        let (more, others) := go rest
        (here ++ (if rest.isEmpty then [] else [r.delimiter.getD ' ']) ++ more, faults ++ others)
      let isMeant := r.fields.any fun s => s.low ≤ i + 1 && s.high.all (i + 1 ≤ ·)
      if !isMeant then join text []
      else
        match r.field (i + 1) text with
        | .ok shown => join shown []
        | .error fault =>
          let bare := text.dropWhile fun c => c = ' ' || c = '\t'
          let message := fault.message bare
          if r.tolerance = .abort then ([], [message]) else join text [message]

/-- The effect of a call on lines. -/
def Request.lines (r : Request) (c : Call) (isEnded : Bool) : List (List Char) → Effect → Effect
  | [], e => e
  | l :: ls, e =>
    let (shown, faults) := r.line l
    let isAborted := r.tolerance = .abort && !faults.isEmpty
    let status := if faults.isEmpty || r.tolerance = .warn || r.tolerance = .ignore then 0 else 2
    let stop := if ls.isEmpty && !isEnded then [] else [r.stop]
    let e := if r.tolerance = .ignore then e else faults.foldl (fun e t => e.complain c status t) e
    if isAborted then e.write shown
    else r.lines c isEnded ls ((e.write (shown ++ stop)).atLeast status)

/-- The options. -/
def known : Known := {
  flags := "zDG"
  valued := "FTuUrispfde"
  optional := "h"
  hidden := "FTuUrispfehDG"
  long := [("from", 'F'), ("to", 'T'), ("from-unit", 'u'), ("to-unit", 'U'), ("round", 'r'),
    ("invalid", 'i'), ("suffix", 's'), ("padding", 'p'), ("format", 'f'), ("delimiter", 'd'),
    ("field", 'e'), ("header", 'h'), ("zero-terminated", 'z'), ("debug", 'D'), ("grouping", 'G')] }

/-- Writes numbers with units, or without. -/
def numfmt : Tool := withOptions known 1 fun c o =>
  match o.letters.foldlM (fun (r : Request) (l, value) => r.take l value) {} with
  | .error (.advised text) => .ofMisuse c 1 text
  | .error (.plain text) => .ofComplaint c 1 text
  | .ok r =>
    if !o.operands.isEmpty then r.lines c true o.operands (.ofStatus c 0)
    else
      let (ls, isEnded) := recordsOf r.stop (c.input.getD [])
      let head := ls.take r.header
      let e : Effect := (Effect.ofStatus c 0).write (ended r.stop head)
      (r.lines c isEnded (ls.drop r.header) e).takingAll c

end ParserConformance.Script.Tool.Units
