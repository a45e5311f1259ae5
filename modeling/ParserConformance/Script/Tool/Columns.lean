import ParserConformance.Script.Tool.Place

/-!
# Columns

Tools that take columns out of lines, or put the lines of files side by side.
-/

namespace ParserConformance.Script.Tool

/-! ### Lists of positions -/

/-- What is wrong with a list of positions. -/
inductive PositionFault where
  /-- The position zero. -/
  | zero
  /-- A range with more than two ends. -/
  | badRange
  /-- A range without ends. -/
  | noEndpoint
  /-- A range whose end comes before its start. -/
  | decreasing
  /-- What is no number. -/
  | noNumber (text : List Char)
  deriving DecidableEq, Repr

/-- The wording of a fault in a list of fields, or of bytes. -/
def PositionFault.message (ofFields : Bool) : PositionFault → List Char
  | .zero => (if ofFields then "fields are numbered from 1"
      else "byte/character positions are numbered from 1").toList
  | .badRange => (if ofFields then "invalid field range"
      else "invalid byte or character range").toList
  | .noEndpoint => "invalid range with no endpoint: -".toList
  | .decreasing => "invalid decreasing range".toList
  | .noNumber text => (if ofFields then "invalid field value "
      else "invalid byte/character position ").toList ++ quoted text

/-- A range of positions; the last one may be missing. -/
structure Span where
  /-- The first position. -/
  low : Nat
  /-- The last one. -/
  high : Option Nat
  deriving DecidableEq, Repr

/-- The range that a part of a list writes. Behind the part comes `rest`. -/
def spanOf (part rest : List Char) : Except PositionFault Span :=
  match part.find? fun c => !isDigit c && c ≠ '-' with
  | some bad => .error (.noNumber ((part ++ rest).dropWhile (· ≠ bad)))
  | none =>
    match splitAt '-' part with
    | [a] => if valueOf a = 0 then .error .zero else .ok ⟨valueOf a, some (valueOf a)⟩
    | [a, b] =>
      if !a.isEmpty && valueOf a = 0 then .error .zero
      else if a.isEmpty && b.isEmpty then .error .noEndpoint
      else
        let low := if a.isEmpty then 1 else valueOf a
        if b.isEmpty then .ok ⟨low, none⟩
        else if valueOf b < low then .error .decreasing
        else .ok ⟨low, some (valueOf b)⟩
    | _ => .error .badRange

/-- The ranges of a list, which commas or blanks part. -/
def spansOf (cs : List Char) : Except PositionFault (List Span) :=
  go (cs.map fun c => if c = ' ' || c = '\t' then ',' else c) cs.length
where
  /-- Goes on with what is left of a list. -/
  go (cs : List Char) : (room : Nat) → Except PositionFault (List Span)
    | 0 => do return [← spanOf cs []]
    | room + 1 => do
      let part := cs.takeWhile (· ≠ ',')
      match cs.drop part.length with
      | [] => return [← spanOf part []]
      | rest =>
        let span ← spanOf part rest
        return span :: (← go (rest.drop 1) room)

/-- Ranges in their order, those that overlap joined. -/
def joinSpans (spans : List Span) : List Span :=
  (spans.mergeSort fun a b => a.low ≤ b.low).foldr (fun s done =>
    match done with
    | [] => [s]
    | t :: rest =>
      match s.high with
      | none => [s]
      | some high =>
        if high < t.low then s :: t :: rest
        else ⟨s.low, t.high.map (max high)⟩ :: rest) []

/-- The ranges between ranges. -/
def complementSpans (spans : List Span) : List Span :=
  go 1 (joinSpans spans)
where
  /-- The ranges from a position on. -/
  go (start : Nat) : List Span → List Span
    | [] => [⟨start, none⟩]
    | s :: rest =>
      let here := if start < s.low then [⟨start, some (s.low - 1)⟩] else []
      match s.high with
      | none => here
      | some high => here ++ go (max start (high + 1)) rest

/-- What a range takes of a list. -/
def Span.of {α : Type} (s : Span) (xs : List α) : List α :=
  let upTo := match s.high with
    | some high => xs.take high
    | none => xs
  upTo.drop (s.low - 1)

/-! ### Cutting -/

/-- Writes parts of each line. -/
def cut : Tool :=
  withOptions {
    flags := "snzX", valued := "dfcbO", hidden := "OX"
    long := [("bytes", 'b'), ("characters", 'c'), ("fields", 'f'), ("delimiter", 'd'),
      ("only-delimited", 's'), ("output-delimiter", 'O'), ("complement", 'X'),
      ("zero-terminated", 'z')] } 1 fun c o =>
  match o.letters.filter fun (l, _) => l = 'f' || l = 'c' || l = 'b' with
  | [(letter, value)] =>
    let ofFields := letter = 'f'
    if !ofFields && o.has 'd' then
      .ofMisuse c 1 ("an input delimiter may be specified only when operating on " ++
        "fields").toList
    else if !ofFields && o.has 's' then
      .ofMisuse c 1 ("suppressing non-delimited lines makes sense\n\tonly when operating on " ++
        "fields").toList
    else if (o.value? 'd').any (1 < ·.length) then
      .ofMisuse c 1 "the delimiter must be a single character".toList
    else
      match spansOf value with
      | .error fault => .ofMisuse c 1 (fault.message ofFields)
      | .ok spans =>
        let spans := if o.has 'X' then complementSpans spans else joinSpans spans
        let d := match o.value? 'd' with
          | none => '\t'
          | some ds => ds.headD '\x00'
        let between := match o.value? 'O' with
          | none => if ofFields then [d] else []
          | some [] => ['\x00']
          | some text => text
        let line (l : List Char) : Option (List Char) :=
          if ofFields then
            match splitAt d l with
            | [_] => if o.has 's' then none else some l
            | fields => some (between.intercalate (spans.flatMap (·.of fields)))
          else
            some (between.intercalate ((spans.map (·.of l)).filter (!·.isEmpty)))
        overInputs c o.operands 1 fileComplaint fun cs =>
          ended (stopOf o) ((recordsOf (stopOf o) cs).1.filterMap line)
  | [] => .ofMisuse c 1 "you must specify a list of bytes, characters, or fields".toList
  | _ => .ofMisuse c 1 "only one list may be specified".toList

/-! ### Pasting -/

/-- The delimiters that a list writes, each at most one character; nothing if the list ends in a
backslash. -/
def delimitersOf? : List Char → Option (List (List Char))
  | [] => some []
  | ['\\'] => none
  | '\\' :: c :: cs =>
    let d := match c with
      | '0' => []
      | 'b' => ['\x08']
      | 'f' => ['\x0c']
      | 'n' => ['\n']
      | 'r' => ['\r']
      | 't' => ['\t']
      | 'v' => ['\x0b']
      | c => [c]
    (delimitersOf? cs).map (d :: ·)
  | c :: cs => (delimitersOf? cs).map ([c] :: ·)

/-- Pieces with delimiters between them, taken in turn. -/
def joinBy (delimiters pieces : List (List Char)) : List Char :=
  let delimiter (i : Nat) : List Char := delimiters.getD (i % delimiters.length) []
  (pieces.zipIdx.map fun (l, i) => if i = 0 then l else delimiter (i - 1) ++ l).flatten

/-- Writes the lines of several files side by side. -/
def paste : Tool :=
  withOptions {
    flags := "sz", valued := "d"
    long := [("serial", 's'), ("delimiters", 'd'), ("zero-terminated", 'z')] } 1 fun c o =>
  let list := (o.value? 'd').getD ['\t']
  match delimitersOf? list with
  | none => .ofComplaint c 1 ("delimiter list ends with an unescaped backslash: ".toList ++ list)
  | some delimiters =>
    let stop := stopOf o
    let delimiters := if delimiters.isEmpty then [[]] else delimiters
    let names := if o.operands.isEmpty then [['-']] else o.operands
    if o.has 's' then
      eachInput c names 1 fileComplaint fun text =>
        joinBy delimiters (recordsOf stop text).1 ++ [stop]
    else
      let shares := (names.filter isInput).length
      let lines := (recordsOf stop (c.input.getD [])).1
      let files : List (Except Trouble (List (List Char))) := names.zipIdx.map fun (name, i) =>
        if isInput name then
          let share := ((names.take i).filter isInput).length
          .ok ((lines.zipIdx.filter fun (_, n) => n % shares = share).map (·.1))
        else (contentOf c name).map fun text => (recordsOf stop text).1
      match (names.zip files).findSome? fun (name, r) => match r with
          | .error t => some (name, t)
          | .ok _ => none with
      | some (name, t) => .ofComplaint c 1 (fileComplaint name t)
      | none =>
        let columns := files.map fun r => r.toOption.getD []
        let height := (columns.map List.length).foldl max 0
        let rows := (List.range height).map fun i => columns.map fun ls => ls.getD i []
        let e := Effect.ofOutput c (ended stop (rows.map (joinBy delimiters)))
        if readsInput names then e.takingAll c else e

end ParserConformance.Script.Tool
