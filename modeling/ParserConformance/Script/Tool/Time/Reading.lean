import ParserConformance.Script.Tool.Time.Calendar

/-!
# Times in words

Dates and times as people write them: `2020-01-31 10:00`, `1 Jan 2020`, `next week`, `2 days
ago`. A text is split into words and numbers, from which items are read one after the other;
together they tell a moment, given the one from which they count.
-/

namespace ParserConformance.Script.Tool.Time

/-! ### Words and numbers -/

/-- A unit of time. -/
inductive TimeUnit where
  /-- Years. -/
  | years
  /-- Months. -/
  | months
  /-- So many days. -/
  | days (count : Int)
  /-- So many seconds. -/
  | seconds (count : Int)
  deriving DecidableEq, Repr

/-- A word or a number. -/
inductive Token where
  /-- A number with its count of digits. -/
  | number (value : Nat) (digits : Nat)
  /-- A number with a sign. -/
  | signed (isNegative : Bool) (value : Nat) (digits : Nat)
  /-- Seconds with decimals, in nanoseconds, and whether there is a sign. -/
  | decimal (nanos : Int) (isSigned : Bool)
  /-- Before noon or after it. -/
  | half (isLate : Bool)
  /-- A day of the week, by its number. -/
  | day (number : Int)
  /-- A month, by its number. -/
  | month (number : Int)
  /-- A zone, with how many minutes its clocks are ahead. -/
  | zone (minutes : Int)
  /-- The letter that stands between a date and a time, and that is a zone too. -/
  | betweenDateAndTime
  /-- Clocks are one hour ahead. -/
  | summer
  /-- A number by its place: next, third. -/
  | ordinal (value : Int)
  /-- A unit. -/
  | unit (u : TimeUnit)
  /-- So many days later. -/
  | shift (days : Int)
  /-- What turns around what stands before it, or not. -/
  | ago (sign : Int)
  /-- Another character. -/
  | other (c : Char)
  deriving DecidableEq, Repr

/-- Words that tell how many. -/
def ordinals : List (String × Int) :=
  [("LAST", -1), ("THIS", 0), ("NEXT", 1), ("FIRST", 1), ("THIRD", 3), ("FOURTH", 4),
    ("FIFTH", 5), ("SIXTH", 6), ("SEVENTH", 7), ("EIGHTH", 8), ("NINTH", 9), ("TENTH", 10),
    ("ELEVENTH", 11), ("TWELFTH", 12)]

/-- The units by their names. -/
def units : List (String × TimeUnit) :=
  [("YEAR", .years), ("MONTH", .months), ("FORTNIGHT", .days 14), ("WEEK", .days 7),
    ("DAY", .days 1), ("HOUR", .seconds 3600), ("MINUTE", .seconds 60), ("MIN", .seconds 60),
    ("SECOND", .seconds 1), ("SEC", .seconds 1)]

/-- Zones by their names, with how many minutes their clocks are ahead. -/
def zones : List (String × Int) :=
  [("GMT", 0), ("UT", 0), ("UTC", 0), ("WET", 0), ("WEST", 60), ("BST", 60), ("ART", -180),
    ("BRT", -180), ("BRST", -120), ("NST", -210), ("NDT", -150), ("AST", -240), ("ADT", -180),
    ("CLT", -240), ("CLST", -180), ("EST", -300), ("EDT", -240), ("CST", -360), ("CDT", -300),
    ("MST", -420), ("MDT", -360), ("PST", -480), ("PDT", -420), ("AKST", -540), ("AKDT", -480),
    ("HST", -600), ("SST", -720), ("WAT", 60), ("CET", 60), ("CEST", 120), ("MET", 60),
    ("MEZ", 60), ("MEST", 120), ("MESZ", 120), ("EET", 120), ("EEST", 180), ("CAT", 120),
    ("SAST", 120), ("EAT", 180), ("MSK", 180), ("MSD", 240), ("IST", 330), ("SGT", 480),
    ("KST", 540), ("JST", 540), ("GST", 600), ("NZST", 720), ("NZDT", 780)]

/-- What a letter stands for that is a zone. -/
def letterZone? (c : Char) : Option Int :=
  let n : Int := c.toNat
  if c = 'Z' || c = 'J' then some 0
  else if 'A' ≤ c && c ≤ 'I' then some (60 * (n - 64))
  else if 'K' ≤ c && c ≤ 'M' then some (60 * (n - 65))
  else if 'N' ≤ c && c ≤ 'Y' && c ≠ 'T' then some (-60 * (n - 77))
  else none

/-- The number of a name in a list that may be cut to three letters. -/
def numberIn? (names : List String) (word : List Char) : Option Nat :=
  names.findIdx? fun name =>
    let whole := name.toList.map Char.toUpper
    whole = word || whole.take 3 = word

/-- What a word in great letters means. -/
def meaning? (word : List Char) : Option Token :=
  let text := String.ofList word
  let single := if word.getLast? = some 'S' then String.ofList word.dropLast else text
  if ["AM", "A.M."].contains text then some (.half false)
  else if ["PM", "P.M."].contains text then some (.half true)
  else if text = "SEPT" then some (.month 9)
  else if text = "TUES" then some (.day 2)
  else if text = "WEDNES" then some (.day 3)
  else if ["THUR", "THURS"].contains text then some (.day 4)
  else if text = "DST" then some .summer
  else if text = "TOMORROW" then some (.shift 1)
  else if text = "YESTERDAY" then some (.shift (-1))
  else if ["TODAY", "NOW"].contains text then some (.shift 0)
  else if text = "AGO" then some (.ago (-1))
  else if text = "HENCE" then some (.ago 1)
  else if text = "T" then some .betweenDateAndTime
  else
    ((numberIn? monthNames word).map fun n => Token.month (n + 1)) <|>
      ((numberIn? dayNames word).map fun n => Token.day n) <|>
      ((zones.lookup text).map Token.zone) <|>
      ((units.lookup text).map Token.unit) <|>
      ((units.lookup single).map Token.unit) <|>
      ((ordinals.lookup text).map Token.ordinal) <|>
      (match word with
        | [c] => (letterZone? c).map Token.zone
        | _ => none)

/-- What stands behind a comment, which may hold other ones. -/
def afterComment : (open_ : Nat) → List Char → List Char
  | _, [] => []
  | n, '(' :: cs => afterComment (n + 1) cs
  | n, ')' :: cs => if n ≤ 1 then cs else afterComment (n - 1) cs
  | n, _ :: cs => afterComment n cs

/-- Decimals as nanoseconds. -/
def nanosOf (digits : List Char) : Nat := valueOf ((digits ++ "000000000".toList).take 9)

/-- The number that a text begins with, with a sign or without one, and what follows. -/
def numberAt (sign : Option Char) (cs : List Char) : Token × List Char :=
  let digits := cs.takeWhile isDigit
  let rest := cs.drop digits.length
  let n := valueOf digits
  match rest with
  | p :: d :: more =>
    if (p = '.' || p = ',') && isDigit d then
      let decimals := (d :: more).takeWhile isDigit
      let nanos : Int := n * 1000000000 + nanosOf decimals
      (.decimal (if sign = some '-' then -nanos else nanos) sign.isSome,
        (d :: more).drop decimals.length)
    else
      (match sign with
        | some s => .signed (s = '-') n digits.length
        | none => .number n digits.length, rest)
  | rest =>
    (match sign with
      | some s => .signed (s = '-') n digits.length
      | none => .number n digits.length, rest)

/-- The words and numbers of a text, if all words mean something. -/
def tokens : (room : Nat) → List Char → Option (List Token)
  | 0, _ | _, [] => some []
  | room + 1, c :: cs =>
    if isSpaceChar c then tokens room cs
    else if c = '(' then tokens room (afterComment 0 (c :: cs))
    else if isDigit c then do
      let (t, rest) := numberAt none (c :: cs)
      return t :: (← tokens room rest)
    else if c = '+' || c = '-' then
      let rest := cs.dropWhile isSpaceChar
      if rest.head?.any isDigit then do
        let (t, rest) := numberAt (some c) rest
        return t :: (← tokens room rest)
      else tokens room rest
    else if c.isAlpha then do
      let word := (c :: cs).takeWhile fun d => d.isAlpha || d = '.'
      let great := word.map Char.toUpper
      let t ← (meaning? great).or (meaning? (great.filter (· ≠ '.')))
      return t :: (← tokens room ((c :: cs).drop word.length))
    else do return .other c :: (← tokens room cs)

/-! ### Items -/

/-- What items have told so far. -/
structure Reading where
  /-- The year, with its count of digits. -/
  year : Option (Int × Nat) := none
  /-- The month and the day. -/
  date : Option (Int × Int) := none
  /-- The hour, the minute and the second. -/
  time : Option (Int × Int × Int) := none
  /-- The nanosecond. -/
  nano : Int := 0
  /-- The half of the day, if hours are counted to twelve. -/
  isLate : Option Bool := none
  /-- The day of the week, and how many of them. -/
  day : Option (Int × Int) := none
  /-- How many minutes clocks are ahead. -/
  zone : Option Int := none
  /-- How many years are added. -/
  years : Int := 0
  /-- How many months are added. -/
  months : Int := 0
  /-- How many days are added. -/
  days : Int := 0
  /-- How many nanoseconds are added. -/
  nanos : Int := 0
  /-- Whether something is added. -/
  isShifted : Bool := false
  /-- Whether something was told twice. -/
  isTwice : Bool := false

namespace Reading

/-- With a date. -/
def withDate (r : Reading) (year : Option (Int × Nat)) (month day : Int) : Reading :=
  { r with
    year := year.or r.year
    date := some (month, day)
    isTwice := r.isTwice || r.date.isSome }

/-- With a time. -/
def withTime (r : Reading) (hour minute nanos : Int) (isLate : Option Bool) : Reading :=
  { r with
    time := some (hour, minute, nanos / second)
    nano := nanos % second
    isLate
    isTwice := r.isTwice || r.time.isSome }

/-- With a zone. -/
def withZone (r : Reading) (minutes : Int) : Reading :=
  { r with zone := some minutes, isTwice := r.isTwice || r.zone.isSome }

/-- With a day of the week. -/
def withDay (r : Reading) (count number : Int) : Reading :=
  { r with day := some (count, number), isTwice := r.isTwice || r.day.isSome }

/-- With so many of a unit added. -/
def add (r : Reading) (u : TimeUnit) (count : Int) : Reading :=
  let r := { r with isShifted := true }
  match u with
  | .years => { r with years := r.years + count }
  | .months => { r with months := r.months + count }
  | .days n => { r with days := r.days + n * count }
  | .seconds n => { r with nanos := r.nanos + n * count * second }

/-- With a number that stands alone: a year, a date without marks, or a time. -/
def withNumber (r : Reading) (value : Nat) (digits : Nat) : Reading :=
  if r.date.isSome && r.year.isNone && !r.isShifted && (r.time.isSome || 2 < digits) then
    { r with year := some (value, digits) }
  else if 4 < digits then
    r.withDate (some (value / 10000, digits - 4)) (value / 100 % 100) (value % 100)
  else if digits ≤ 2 then r.withTime value 0 0 none
  else r.withTime (value / 100) (value % 100) 0 none

end Reading

/-- A number with a sign. -/
def signedValue (isNegative : Bool) (value : Nat) : Int :=
  if isNegative then -(value : Int) else value

/-- How many minutes clocks are ahead, by a number with a sign and maybe minutes. -/
def minutesAhead (isNegative : Bool) (value digits : Nat) (minutes : Option Nat) : Int :=
  signedValue isNegative (match minutes with
    | some m => value * 60 + m
    | none => if digits ≤ 2 then value * 60 else value / 100 * 60 + value % 100)

/-- The zone that numbers tell, and what follows; none if there are none. -/
def zoneAt : List Token → Option Int × List Token
  | .signed s v d :: .other ':' :: .number m _ :: ts => (some (minutesAhead s v d (some m)), ts)
  | .signed s v d :: ts => (some (minutesAhead s v d none), ts)
  | ts => (none, ts)

/-- With the zone that numbers tell, if there are some, and what follows. -/
def Reading.zoned (r : Reading) (ts : List Token) : Reading × List Token :=
  match zoneAt ts with
  | (some minutes, rest) => (r.withZone minutes, rest)
  | (none, rest) => (r, rest)

/-- The seconds of a time, in nanoseconds, and what follows. -/
def secondsAt? : List Token → Option (Int × List Token)
  | .number s _ :: ts => some (s * second, ts)
  | .decimal n false :: ts => some (n, ts)
  | _ => none

/-- A time that begins with an hour and a minute. -/
def timeAt (r : Reading) (hour minute : Int) (ts : List Token) : Reading × List Token :=
  let (nanos, ts) := match ts with
    | .other ':' :: more => (secondsAt? more).getD (0, ts)
    | ts => (0, ts)
  match ts with
  | .half isLate :: ts => (r.withTime hour minute nanos (some isLate), ts)
  | ts => (r.withTime hour minute nanos none).zoned ts

/-- What is added, and what follows. -/
def addedAt? : List Token → Option ((TimeUnit × Int ⊕ Int) × List Token)
  | .ordinal n :: .unit u :: ts => some (.inl (u, n), ts)
  | .number n _ :: .unit u :: ts => some (.inl (u, n), ts)
  | .signed s n _ :: .unit u :: ts => some (.inl (u, signedValue s n), ts)
  | .decimal n _ :: .unit (.seconds 1) :: ts => some (.inr n, ts)
  | .unit u :: ts => some (.inl (u, 1), ts)
  | _ => none

/-- One item, and what follows. -/
def item? (r : Reading) (ts : List Token) : Option (Reading × List Token) :=
  match addedAt? ts with
  | some (added, rest) =>
    let (sign, rest) : Int × List Token := match rest with
      | .ago sign :: rest => (sign, rest)
      | rest => (1, rest)
    match added with
    | .inl (u, n) => some (r.add u (n * sign), rest)
    | .inr nanos => some ({ r with nanos := r.nanos + nanos * sign, isShifted := true }, rest)
  | none =>
    match ts with
    | .shift n :: ts => some (r.add (.days 1) n, ts)
    | .number h _ :: .half late :: ts => some (r.withTime h 0 0 (some late), ts)
    | .number h _ :: .other ':' :: .number m _ :: ts => some (timeAt r h m ts)
    | .number a n :: .other '/' :: .number b _ :: .other '/' :: .number c k :: ts =>
      some (if 4 ≤ n then r.withDate (some (a, n)) b c else r.withDate (some (c, k)) a b, ts)
    | .number a _ :: .other '/' :: .number b _ :: ts => some (r.withDate none a b, ts)
    | .number d _ :: .month m :: .signed true y n :: ts =>
      some (r.withDate (some (y, n)) m d, ts)
    | .number d _ :: .month m :: .number y n :: .other ':' :: ts =>
      some (r.withDate none m d, .number y n :: .other ':' :: ts)
    | .number d _ :: .month m :: .number y n :: ts => some (r.withDate (some (y, n)) m d, ts)
    | .number d _ :: .month m :: ts => some (r.withDate none m d, ts)
    | .number y n :: .signed true m _ :: .signed true d _ :: .betweenDateAndTime ::
        .number h k :: ts =>
      let r := r.withDate (some (y, n)) m d
      match ts with
      | .other ':' :: .number _ _ :: _ => some (r, .number h k :: ts)
      | .signed _ _ _ :: _ => some (r, .number h k :: ts)
      | _ => none
    | .number y n :: .signed true m _ :: .signed true d _ :: ts =>
      some (r.withDate (some (y, n)) m d, ts)
    | .number v n :: .signed s w k :: .unit u :: ts =>
      some (r.withNumber v n, .signed s w k :: .unit u :: ts)
    | .number h _ :: .signed s v d :: ts =>
      let (zone, rest) := zoneAt (.signed s v d :: ts)
      some ((r.withTime h 0 0 none).withZone (zone.getD 0), rest)
    | .number n _ :: .day d :: ts => some (r.withDay n d, ts)
    | .number n k :: ts => some (r.withNumber n k, ts)
    | .month m :: .signed true d _ :: .signed true y n :: ts =>
      some (r.withDate (some (y, n)) m d, ts)
    | .month m :: .number d _ :: .other ',' :: .number y n :: ts =>
      some (r.withDate (some (y, n)) m d, ts)
    | .month m :: .number d _ :: ts => some (r.withDate none m d, ts)
    | .ordinal n :: .day d :: ts => some (r.withDay n d, ts)
    | .day d :: .other ',' :: ts => some (r.withDay 0 d, ts)
    | .day d :: ts => some (r.withDay 0 d, ts)
    | .zone z :: .summer :: ts => some (r.withZone (z + 60), ts)
    | .zone z :: .signed s v d :: ts =>
      match ts with
      | .unit _ :: _ => some (r.withZone z, .signed s v d :: ts)
      | _ =>
        let (more, rest) := zoneAt (.signed s v d :: ts)
        some (r.withZone (z + more.getD 0), rest)
    | .zone z :: ts => some (r.withZone z, ts)
    | .betweenDateAndTime :: ts => some (r.withZone (-420), ts)
    | _ => none

/-- All items. -/
def items? : (room : Nat) → Reading → List Token → Option Reading
  | _, r, [] => some r
  | 0, _, _ => none
  | room + 1, r, ts => do
    let (r, rest) ← item? r ts
    items? room r rest

/-! ### Moments -/

/-- A year that may be cut to two digits. -/
def wholeYear (year : Int) (digits : Nat) : Int :=
  if digits = 2 then (if year < 69 then year + 2000 else year + 1900) else year

/-- An hour of a half of the day; none if it is not within its bounds. -/
def hourOf? (hour : Int) (isLate : Option Bool) : Option Int :=
  match isLate with
  | none => if 0 ≤ hour && hour < 24 then some hour else none
  | some late =>
    if 0 < hour && hour ≤ 12 then some (hour % 12 + if late then 12 else 0) else none

/-- The moment that a reading tells, given the one from which it counts. -/
def Reading.moment? (r : Reading) (now : Int) (zone : Zone) : Option Int := do
  if r.isTwice then none
  let start := Civil.ofMoment now zone
  let (month, day) := r.date.getD (start.month, start.day)
  let year := match r.year with
    | some (y, n) => wholeYear y n
    | none => start.year
  let keepsTime := r.isShifted && r.date.isNone && r.day.isNone
  let c ← match r.time with
    | some (h, m, s) =>
      (hourOf? h r.isLate).map fun h => (⟨year, month, day, h, m, s, r.nano⟩ : Civil)
    | none =>
      if keepsTime then
        some ⟨year, month, day, start.hour, start.minute, start.second, start.nano⟩
      else some ⟨year, month, day, 0, 0, 0, 0⟩
  if !c.isProper then none
  let c := match r.day, r.date with
    | some (count, number), none =>
      let past := if 0 < count && c.weekday ≠ number then 1 else 0
      { c with day := c.day + (number - c.weekday) % 7 + 7 * (count - past) }
    | _, _ => c
  let c := { c with
    year := c.year + r.years
    month := c.month + r.months
    day := c.day + r.days }
  let zone := match r.zone with
    | some minutes => { zone with offset := minutes * 60 }
    | none => zone
  return c.moment zone + r.nanos

/-- The moment of seconds behind an at sign. -/
def counted? (cs : List Char) : Option Int :=
  let cs := (cs.dropWhile isSpaceChar).reverse.dropWhile isSpaceChar |>.reverse
  let (sign, cs) : Int × List Char := match cs with
    | '-' :: rest => (-1, rest)
    | '+' :: rest => (1, rest)
    | rest => (1, rest)
  let whole := cs.takeWhile isDigit
  if whole.isEmpty then none
  else
    match cs.drop whole.length with
    | [] => some (sign * (valueOf whole * second))
    | p :: decimals =>
      if (p = '.' || p = ',') && !decimals.isEmpty && decimals.all isDigit then
        some (sign * (valueOf whole * second + nanosOf decimals))
      else none

/-- The moment that a text tells, given the one from which it counts. A zone may be named in
front. -/
def read (now : Int) (zone : Zone) (text : List Char) : Option Int :=
  let cs := text.dropWhile isSpaceChar
  let (zone, cs) :=
    if "TZ=\"".toList.isPrefixOf cs then
      let rest := cs.drop 4
      let name := rest.takeWhile (· ≠ '"')
      (Zone.ofText name, (rest.drop (name.length + 1)).dropWhile isSpaceChar)
    else (zone, cs)
  match cs with
  | '@' :: rest => counted? rest
  | cs => do
    let ts ← tokens (cs.length + 1) cs
    let r ← items? (ts.length + 1) {} ts
    r.moment? now zone

end ParserConformance.Script.Tool.Time
