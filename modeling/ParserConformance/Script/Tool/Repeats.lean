import ParserConformance.Script.Tool.Place

/-!
# Lines that are repeated

`uniq` takes one line for several equal ones in a row, or counts or shows them.
-/

namespace ParserConformance.Script.Tool

/-- Lines in a row that count as equal. -/
structure Run where
  /-- The first of them. -/
  first : List Char
  /-- The other ones. -/
  others : List (List Char)

/-- How many lines a run has. -/
def Run.count (r : Run) : Nat := r.others.length + 1

/-- The runs of lines of which a part is the same. -/
def runsOf (part : List Char → List Char) (lines : List (List Char)) : List Run :=
  go none [] lines
where
  /-- Goes on with the run at work and the runs so far, both backwards. -/
  go (run : Option (List Char × Run)) (done : List Run) : List (List Char) → List Run
    | [] => (close run done).reverse
    | l :: ls =>
      let p := part l
      match run with
      | some (q, r) =>
        if p = q then go (some (q, { r with others := l :: r.others })) done ls
        else go (some (p, ⟨l, []⟩)) (close run done) ls
      | none => go (some (p, ⟨l, []⟩)) done ls
  /-- Puts the run at work to the others. -/
  close (run : Option (List Char × Run)) (done : List Run) : List Run :=
    match run with
    | some (_, r) => { r with others := r.others.reverse } :: done
    | none => done

/-- The part of a line that is compared: behind some fields and characters, up to a length. -/
def comparedPart (fields chars : Nat) (width : Option Nat) (ignoresCase : Bool)
    (l : List Char) : List Char :=
  let isGap (c : Char) : Bool := c = ' ' || c = '\t'
  let behind := (List.range fields).foldl (fun l _ =>
    (l.dropWhile isGap).dropWhile (!isGap ·)) l
  let part := behind.drop chars
  let part := match width with
    | some n => part.take n
    | none => part
  if ignoresCase then part.map Char.toLower else part

/-- The arguments with leading numbers in the old style put behind their letters. -/
def modernSkips (args : List (List Char)) : List (List Char) :=
  args.flatMap fun arg => match arg with
    | '-' :: d :: ds => if isDigit d && ds.all isDigit then [['-', 'f'], d :: ds] else [arg]
    | '+' :: d :: ds => if isDigit d && ds.all isDigit then [['-', 's'], d :: ds] else [arg]
    | arg => [arg]

/-- What is shown of runs. -/
def shownRuns (o : Options) (runs : List Run) : List (List Char) :=
  let all (r : Run) : List (List Char) := r.first :: r.others
  if o.has 'g' then
    let method := match o.value? 'g' with
      | none | some [] => "separate"
      | some m => String.ofList m
    let body := ([[]] : List (List Char)).intercalate (runs.map all)
    if runs.isEmpty then []
    else
      (if method = "prepend" || method = "both" then [[]] else []) ++ body ++
        (if method = "append" || method = "both" then [[]] else [])
  else if o.has 'D' then
    let kept := (runs.filter (1 < ·.count)).map all
    match String.ofList ((o.value? 'D').getD []) with
    | "prepend" => kept.flatMap ([] :: ·)
    | "separate" => ([[]] : List (List Char)).intercalate kept
    | _ => kept.flatten
  else
    let kept := runs.filter fun r =>
      (!o.has 'd' || 1 < r.count) && (!o.has 'u' || r.count = 1)
    kept.map fun r =>
      if o.has 'c' then padLeft 7 (digitsOf r.count) ++ ' ' :: r.first else r.first

/-- Takes one line for several equal ones in a row. -/
def uniq : Tool := fun c =>
  let known : Known := {
    flags := "cdiuzD", valued := "fsw", optional := "ga", hidden := "ga"
    long := [("count", 'c'), ("repeated", 'd'), ("all-repeated", 'a'), ("group", 'g'),
      ("ignore-case", 'i'), ("unique", 'u'), ("skip-fields", 'f'), ("skip-chars", 's'),
      ("check-chars", 'w'), ("zero-terminated", 'z')] }
  let run := withOptions known 1 fun c o =>
    let o := { o with letters := o.letters.map fun (l, v) => (if l = 'a' then 'D' else l, v) }
    let bad := o.letters.find? fun (l, v) => "fsw".toList.contains l && (countOf? v).isNone
    let number (letter : Char) : Option Nat := (o.value? letter).bind countOf?
    if let some (l, v) := bad then
      let what := if l = 'f' then "fields to skip" else if l = 's' then "bytes to skip"
        else "bytes to compare"
      .ofComplaint c 1 (("invalid number of " ++ what ++ ": ").toList ++ quoted v)
    else if o.has 'D' && o.has 'c' then
      .ofMisuse c 1 "printing all duplicated lines and repeat counts is meaningless".toList
    else if o.has 'g' && (o.lastOf? "cdDu").isSome then
      .ofMisuse c 1 "--group is mutually exclusive with -c/-d/-D/-u".toList
    else
      match o.operands.drop 2 with
      | extra :: _ => .ofMisuse c 1 ("extra operand ".toList ++ quoted extra)
      | [] =>
        let source := o.operands.headD ['-']
        match contentOf c source with
        | .error .isDirectory =>
          .ofComplaint c 1 ("error reading ".toList ++ quotedName source ++
            ": Is a directory".toList)
        | .error t => .ofComplaint c 1 (fileComplaint source t)
        | .ok text =>
          let part := comparedPart ((number 'f').getD 0) ((number 's').getD 0) (number 'w')
            (o.has 'i')
          let shown := ended (stopOf o)
            (shownRuns o (runsOf part (recordsOf (stopOf o) text).1))
          let e := match o.operands[1]? with
            | none | some ['-'] => Effect.ofOutput c shown
            | some target =>
              match writingTrouble? c.disk target with
              | some t => .ofComplaint c 1 (fileComplaint target t)
              | none => { Effect.ofStatus c 0 with disk := written c.mask c.disk target shown }
          if isInput source then e.takingAll c else e
  run { c with args := modernSkips c.args }

end ParserConformance.Script.Tool
