import ParserConformance.Script.Tool.Place
import ParserConformance.Script.Tool.Time.Reading

/-!
# Dates

`date` shows the moment at which it is called, or one that is told in words or by a file, in a
format.
-/

namespace ParserConformance.Script.Tool

/-- The moment at which a tool is called. -/
def Call.now (c : Call) : Int := c.disk.now * 1000

/-- The zone in which a tool is called. -/
def Call.zone (c : Call) : Time.Zone :=
  match c.environment.lookup "TZ".toList with
  | some text => .ofText text
  | none => .universal

/-- When what stands at a place was changed last, as a moment. -/
def changedMoment (d : Disk) (p : Location) : Int := d.changedAt p * 1000

namespace Date

/-- The formats that are called by names, with how exact they are. -/
def isoFormat? (name : List Char) : Option String :=
  if name.isEmpty then some "%Y-%m-%d"
  else
    ([("hours", "%Y-%m-%dT%H%:z"), ("minutes", "%Y-%m-%dT%H:%M%:z"), ("date", "%Y-%m-%d"),
      ("seconds", "%Y-%m-%dT%H:%M:%S%:z"), ("ns", "%Y-%m-%dT%H:%M:%S,%N%:z")].find?
      fun (n, _) => name.isPrefixOf n.toList).map (·.2)

/-- The formats with a blank between date and time. -/
def spacedFormat? (name : List Char) : Option String :=
  ([("date", "%Y-%m-%d"), ("seconds", "%Y-%m-%d %H:%M:%S%:z"),
    ("ns", "%Y-%m-%d %H:%M:%S.%N%:z")].find? fun (n, _) =>
      !name.isEmpty && name.isPrefixOf n.toList).map (·.2)

/-- The format in which letters are dated. -/
def letterFormat : String := "%a, %d %b %Y %H:%M:%S %z"

/-- The usual format. -/
def usualFormat : String := "%a %b %e %H:%M:%S %Z %Y"

/-- What is wrong with the name of a format. -/
def badFormat (option : String) (name : List Char) (names : List String) : List Char :=
  "invalid argument ".toList ++ quoted name ++ (" for '" ++ option ++ "'\nValid arguments are:"
    ).toList ++ names.flatMap fun n => ("\n  - '" ++ n ++ "'").toList

/-- The formats that options and other arguments ask for. -/
def formatsOf (o : Options) : Except (List Char) (List (List Char)) := do
  let named ← o.letters.filterMapM fun (letter, value) =>
    match letter with
    | 'I' =>
      match isoFormat? value with
      | some f => pure (some f.toList)
      | none => throw (badFormat "--iso-8601" value ["hours", "minutes", "date", "seconds", "ns"])
    | 'F' =>
      match spacedFormat? value with
      | some f => pure (some f.toList)
      | none => throw (badFormat "--rfc-3339" value ["date", "seconds", "ns"])
    | 'R' => pure (some letterFormat.toList)
    | _ => pure none
  return named ++ (o.operands.filter (·.head? = some '+')).map (·.drop 1)

/-- The moment of a stamp: month, day, hour and minute, then maybe a year, then maybe seconds. -/
def stamp? (now : Int) (zone : Time.Zone) (isYearFirst : Bool) (text : List Char) : Option Int :=
  let digits := text.takeWhile isDigit
  let rest := text.drop digits.length
  let seconds? : Option Nat := match rest with
    | [] => some 0
    | ['.', a, b] => if isDigit a && isDigit b then some (valueOf [a, b]) else none
    | _ => none
  let two (cs : List Char) (i : Nat) : Int := valueOf ((cs.drop (2 * i)).take 2)
  let extra := digits.length - 8
  let (yearDigits, others) :=
    if isYearFirst then (digits.take extra, digits.drop extra)
    else (digits.drop 8, digits.take 8)
  let year? : Option Int := match yearDigits.length with
    | 0 => some (Time.Civil.ofMoment now zone).year
    | 2 => some (Time.wholeYear (valueOf yearDigits) 2)
    | 4 => some (valueOf yearDigits)
    | _ => none
  if others.length ≠ 8 then none
  else do
    let c : Time.Civil := ⟨← year?, two others 0, two others 1, two others 2, two others 3,
      ← seconds?, 0⟩
    if c.isProper then some (c.moment zone) else none

/-- Shows moments. -/
def date : Tool :=
  withOptions {
    flags := "Ru", valued := "dfrsF", optional := "I", hidden := "F"
    long := [("date", 'd'), ("file", 'f'), ("iso-8601", 'I'), ("reference", 'r'),
      ("rfc-2822", 'R'), ("rfc-email", 'R'), ("rfc-3339", 'F'), ("set", 's'), ("utc", 'u'),
      ("uct", 'u'), ("universal", 'u')] } 1 fun c o =>
  let zone := if o.has 'u' then .universal else c.zone
  let others := o.operands.filter (·.head? ≠ some '+')
  let hasSource := o.has 'd' || o.has 'f' || o.has 'r' || o.has 's'
  match formatsOf o with
  | .error text => .ofMisuse c 1 text
  | .ok formats =>
    if 1 < o.operands.length then
      .ofMisuse c 1 ("extra operand ".toList ++ quoted (o.operands.getD 1 []))
    else if 1 < formats.length then .ofComplaint c 1 "multiple output formats specified".toList
    else if 1 < (["d", "f", "r"].filter fun l => (o.lastOf? l).isSome).length then
      .ofMisuse c 1 "the options to specify dates for printing are mutually exclusive".toList
    else if hasSource && !others.isEmpty then
      .ofMisuse c 1 ("the argument ".toList ++ quoted (others.headD []) ++ (" lacks a leading '" ++
        "+';\nwhen using an option to specify date(s), any non-option\nargument must be a format" ++
        " string beginning with '+'").toList)
    else
      let format := formats.headD usualFormat.toList
      let line (moment : Int) : List Char := Time.format moment zone format ++ ['\n']
      let bad (text : List Char) : List Char := "invalid date ".toList ++ quoted text
      match o.value? 'd', o.value? 'f', o.value? 'r', others with
      | some text, _, _, _ =>
        match Time.read c.now zone text with
        | some moment => .ofOutput c (line moment)
        | none => .ofComplaint c 1 (bad text)
      | _, some name, _, _ =>
        match contentOf c name with
        | .error t => .ofComplaint c 1 (fileComplaint name t)
        | .ok text =>
          let e : Effect := (linesOf text).1.foldl (fun e l =>
            match Time.read c.now zone l with
            | some moment => e.write (line moment)
            | none => e.complain c 1 (bad l)) (.ofStatus c 0)
          if isInput name then e.takingAll c else e
      | _, _, some name, _ =>
        match c.disk.locate (pathOfChars name) false with
        | .ok place => .ofOutput c (line (changedMoment c.disk place))
        | .error t => .ofComplaint c 1 (fileComplaint name t)
      | _, _, _, other :: _ =>
        match stamp? c.now zone false other with
        | some moment =>
          (Effect.ofComplaint c 1 "cannot set date: Operation not permitted".toList).write
            (line moment)
        | none => .ofComplaint c 1 (bad other)
      | _, _, _, [] =>
        match o.value? 's' with
        | some text =>
          match Time.read c.now zone text with
          | some moment =>
            (Effect.ofComplaint c 1 "cannot set date: Operation not permitted".toList).write
              (line moment)
          | none => .ofComplaint c 1 (bad text)
        | none => .ofOutput c (line c.now)

end Date

end ParserConformance.Script.Tool
