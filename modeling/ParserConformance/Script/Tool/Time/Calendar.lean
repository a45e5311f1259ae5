import ParserConformance.Script.Arithmetic

/-!
# The calendar

Moments are counted in nanoseconds since the start of 1970. A calendar tells them by year,
month, day and time of the day; a zone tells how far its clocks are ahead.
-/

namespace ParserConformance.Script.Tool.Time

/-- How many nanoseconds a second has. -/
def second : Int := 1000000000

/-- How many seconds a day has. -/
def daySeconds : Int := 86400

/-- A zone. -/
structure Zone where
  /-- Its name. -/
  name : List Char
  /-- How many seconds its clocks are ahead. -/
  offset : Int
  deriving DecidableEq, Repr

/-- The zone of the sun. -/
def Zone.universal : Zone := ⟨"UTC".toList, 0⟩

/-- A moment by the calendar. Values beyond their bounds count on from where they begin. -/
structure Civil where
  /-- The year. -/
  year : Int
  /-- The month, from one on. -/
  month : Int
  /-- The day of the month, from one on. -/
  day : Int
  /-- The hour. -/
  hour : Int
  /-- The minute. -/
  minute : Int
  /-- The second. -/
  second : Int
  /-- The nanosecond. -/
  nano : Int
  deriving DecidableEq, Repr

/-! ### Days -/

/-- The number of a day since the start of 1970. Years begin with March, so that the day that
only some have is their last one. -/
def daysOf (year month day : Int) : Int :=
  let year := year + (month - 1) / 12
  let month := (month - 1) % 12 + 1
  let y := if month ≤ 2 then year - 1 else year
  let era := y / 400
  let yearOfEra := y % 400
  let dayOfYear := (153 * (month + (if 2 < month then -3 else 9)) + 2) / 5 + day - 1
  era * 146097 + (yearOfEra * 365 + yearOfEra / 4 - yearOfEra / 100 + dayOfYear) - 719468

/-- The year, month and day of a number of days since the start of 1970. -/
def dateOf (days : Int) : Int × Int × Int :=
  let z := days + 719468
  let era := z / 146097
  let dayOfEra := z % 146097
  let yearOfEra := (dayOfEra - dayOfEra / 1460 + dayOfEra / 36524 - dayOfEra / 146096) / 365
  let dayOfYear := dayOfEra - (365 * yearOfEra + yearOfEra / 4 - yearOfEra / 100)
  let m := (5 * dayOfYear + 2) / 153
  let month := if m < 10 then m + 3 else m - 9
  (yearOfEra + era * 400 + (if month ≤ 2 then 1 else 0), month, dayOfYear - (153 * m + 2) / 5 + 1)

namespace Civil

/-- The number of the day of the week; Sunday is zero. -/
def weekday (c : Civil) : Int := (daysOf c.year c.month c.day + 4) % 7

/-- How many days of the year have passed. -/
def yearDay (c : Civil) : Int := daysOf c.year c.month c.day - daysOf c.year 1 1

/-- The moment in a zone, in nanoseconds. -/
def moment (c : Civil) (zone : Zone) : Int :=
  (daysOf c.year c.month c.day * daySeconds + c.hour * 3600 + c.minute * 60 + c.second -
    zone.offset) * Time.second + c.nano

/-- A moment as a zone tells it. -/
def ofMoment (moment : Int) (zone : Zone) : Civil :=
  let seconds := moment / Time.second + zone.offset
  let (year, month, day) := dateOf (seconds / daySeconds)
  let rest := seconds % daySeconds
  ⟨year, month, day, rest / 3600, rest / 60 % 60, rest % 60, moment % Time.second⟩

/-- Whether all values are within their bounds. -/
def isProper (c : Civil) : Bool := ofMoment (c.moment .universal) .universal = c

/-- The number of the week of the year, weeks beginning with a day. Days before the first such
day are in week zero. -/
def weekOf (c : Civil) (first : Int) : Int := (c.yearDay + 7 - (c.weekday - first) % 7) / 7

/-- The year and the number of the week by which most of its days are in the year. -/
def isoWeek (c : Civil) : Int × Int :=
  let days := daysOf c.year c.month c.day
  let thursday := days - (c.weekday + 6) % 7 + 3
  let (year, _, _) := dateOf thursday
  (year, (thursday - daysOf year 1 1) / 7 + 1)

end Civil

/-! ### Zones by name -/

/-- Hours, minutes and seconds between colons, as seconds. -/
def clockSeconds? (cs : List Char) : Option Nat := do
  let hours := cs.takeWhile isDigit
  if hours.isEmpty then none
  let part (cs : List Char) : Nat × List Char :=
    match cs with
    | ':' :: rest => (valueOf (rest.takeWhile isDigit), rest.dropWhile isDigit)
    | rest => (0, rest)
  let (minutes, rest) := part (cs.drop hours.length)
  let (seconds, _) := part rest
  return valueOf hours * 3600 + minutes * 60 + seconds

/-- The zone that a text names: its name, and how far its clocks are behind. Other texts name
zones that nothing is known of. -/
def Zone.ofText (cs : List Char) : Zone :=
  let cs := if cs.head? = some ':' then cs.drop 1 else cs
  let (name, rest) := match cs with
    | '<' :: more => (more.takeWhile (· ≠ '>'), (more.dropWhile (· ≠ '>')).drop 1)
    | cs => (cs.takeWhile Char.isAlpha, cs.dropWhile Char.isAlpha)
  let (isAhead, digits) := match rest with
    | '-' :: more => (true, more)
    | '+' :: more => (false, more)
    | more => (false, more)
  if name.isEmpty then .universal
  else
    match clockSeconds? digits with
    | some n => ⟨name, if isAhead then n else -(n : Int)⟩
    | none => ⟨name, 0⟩

/-! ### Showing -/

/-- The names of the days of the week. -/
def dayNames : List String :=
  ["Sunday", "Monday", "Tuesday", "Wednesday", "Thursday", "Friday", "Saturday"]

/-- The names of the months. -/
def monthNames : List String :=
  ["January", "February", "March", "April", "May", "June", "July", "August", "September",
    "October", "November", "December"]

/-- How a conversion is shown. -/
structure Style where
  /-- What fills it up, if something else than usual: a zero, a blank or, with a minus sign,
  nothing. -/
  fill : Option Char := none
  /-- Whether letters are great ones. -/
  isUpper : Bool := false
  /-- Whether letters change their case. -/
  swapsCase : Bool := false
  /-- How wide it is, if that is told. -/
  width : Option Nat := none
  /-- How many colons stand before the letter. -/
  colons : Nat := 0

/-- A number in a style, with a usual width and filling. -/
def Style.number (s : Style) (width : Nat) (usual : Char) (n : Int) : List Char :=
  let digits := digitsOf n.natAbs
  let sign := if n < 0 then ['-'] else []
  let size := s.width.getD width
  match s.fill.getD usual with
  | '-' => sign ++ digits
  | ' ' => List.replicate (size - digits.length - sign.length) ' ' ++ sign ++ digits
  | _ => sign ++ List.replicate (size - digits.length - sign.length) '0' ++ digits

/-- A text in a style. -/
def Style.text (s : Style) (cs : List Char) : List Char :=
  let cs := if s.isUpper || s.swapsCase then cs.map Char.toUpper else cs
  let fill := if s.fill = some '0' then '0' else ' '
  List.replicate (s.width.getD 0 - cs.length) fill ++ cs

/-- The offset of a zone, with colons between its parts or without. -/
def offsetText (colons : Nat) (offset : Int) : List Char :=
  let n := offset.natAbs
  let two (n : Nat) : List Char := if n < 10 then '0' :: digitsOf n else digitsOf n
  let (h, m, s) := (two (n / 3600), two (n / 60 % 60), two (n % 60))
  (if offset < 0 then '-' else '+') :: (match colons with
    | 0 => h ++ m
    | 1 => h ++ ':' :: m
    | 2 => h ++ ':' :: m ++ ':' :: s
    | _ => if n % 3600 = 0 then h else if n % 60 = 0 then h ++ ':' :: m
      else h ++ ':' :: m ++ ':' :: s)

/-- The style that stands in front of a letter, and what follows. -/
def readStyle (s : Style) : List Char → Style × List Char
  | c :: cs =>
    if c = '_' then readStyle { s with fill := some ' ' } cs
    else if c = '-' || (c = '0' && s.width.isNone) then readStyle { s with fill := some c } cs
    else if c = '^' then readStyle { s with isUpper := true } cs
    else if c = '#' then readStyle { s with swapsCase := true } cs
    else if c = '+' then readStyle { s with fill := some '0' } cs
    else if c = ':' then readStyle { s with colons := s.colons + 1 } cs
    else if isDigit c then
      readStyle { s with width := some (s.width.getD 0 * 10 + (c.toNat - '0'.toNat)) } cs
    else if c = 'E' || c = 'O' then readStyle s cs
    else (s, c :: cs)
  | [] => (s, [])

/-- What a letter stands for that stands for other letters. -/
def expansion? (letter : Char) : Option String :=
  [('c', "%a %b %e %H:%M:%S %Y"), ('D', "%m/%d/%y"), ('F', "%Y-%m-%d"), ('r', "%I:%M:%S %p"),
    ('R', "%H:%M"), ('T', "%H:%M:%S"), ('x', "%m/%d/%y"), ('X', "%H:%M:%S")].lookup letter

/-- What a letter stands for. -/
def converted? (moment : Int) (zone : Zone) (s : Style) (letter : Char) : Option (List Char) :=
  let c := Civil.ofMoment moment zone
  let nameIn (names : List String) (n : Int) : List Char := (names.getD n.toNat "").toList
  let hour12 := (c.hour + 11) % 12 + 1
  let half := if c.hour < 12 then "AM".toList else "PM".toList
  match letter with
  | '%' => some (s.text ['%'])
  | 'a' => some (s.text ((nameIn dayNames c.weekday).take 3))
  | 'A' => some (s.text (nameIn dayNames c.weekday))
  | 'b' | 'h' => some (s.text ((nameIn monthNames (c.month - 1)).take 3))
  | 'B' => some (s.text (nameIn monthNames (c.month - 1)))
  | 'C' => some (s.number 2 '0' (c.year / 100))
  | 'd' => some (s.number 2 '0' c.day)
  | 'e' => some (s.number 2 ' ' c.day)
  | 'g' => some (s.number 2 '0' (c.isoWeek.1 % 100))
  | 'G' => some (s.number 4 '0' c.isoWeek.1)
  | 'H' => some (s.number 2 '0' c.hour)
  | 'I' => some (s.number 2 '0' hour12)
  | 'j' => some (s.number 3 '0' (c.yearDay + 1))
  | 'k' => some (s.number 2 ' ' c.hour)
  | 'l' => some (s.number 2 ' ' hour12)
  | 'm' => some (s.number 2 '0' c.month)
  | 'M' => some (s.number 2 '0' c.minute)
  | 'n' => some ['\n']
  | 'N' =>
    some (((digitsOf (1000000000 + c.nano.toNat)).drop 1).take (s.width.getD 9))
  | 'p' => some (if s.swapsCase then half.map Char.toLower else s.text half)
  | 'P' => some (s.text (half.map Char.toLower))
  | 'q' => some (s.number 1 '0' ((c.month - 1) / 3 + 1))
  | 's' => some (s.number 1 '0' (moment / second))
  | 'S' => some (s.number 2 '0' c.second)
  | 't' => some ['\t']
  | 'u' => some (s.number 1 '0' ((c.weekday + 6) % 7 + 1))
  | 'U' => some (s.number 2 '0' (c.weekOf 0))
  | 'V' => some (s.number 2 '0' c.isoWeek.2)
  | 'w' => some (s.number 1 '0' c.weekday)
  | 'W' => some (s.number 2 '0' (c.weekOf 1))
  | 'y' => some (s.number 2 '0' (c.year % 100))
  | 'Y' => some (s.number 4 '0' c.year)
  | 'z' => some (offsetText s.colons zone.offset)
  | 'Z' => some (if s.swapsCase then zone.name.map Char.toLower else s.text zone.name)
  | _ => none

/-- A moment as a format shows it. Letters may stand for other letters to a depth. -/
def formatted (moment : Int) (zone : Zone) : (depth : Nat) → (room : Nat) → List Char → List Char
  | _, 0, cs => cs
  | _, _, [] => []
  | depth, room + 1, '%' :: cs =>
    let (s, rest) := readStyle {} cs
    let written := '%' :: cs.take (cs.length - rest.length)
    match rest with
    | [] => written
    | letter :: rest =>
      let here := match converted? moment zone s letter, expansion? letter, depth with
        | some text, _, _ => text
        | none, some format, depth + 1 =>
          s.text (formatted moment zone depth format.length format.toList)
        | none, _, _ => written ++ [letter]
      here ++ formatted moment zone depth room rest
  | depth, room + 1, c :: cs => c :: formatted moment zone depth room cs

/-- A moment as a format shows it. -/
def format (moment : Int) (zone : Zone) (text : List Char) : List Char :=
  formatted moment zone 1 text.length text

end ParserConformance.Script.Tool.Time
