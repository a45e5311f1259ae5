import ParserConformance.Script.Tool.Place

/-!
# Whole files

Tools that write all that they read: as it is, with marks for what cannot be seen, or
backwards.
-/

namespace ParserConformance.Script.Tool

/-! ### Joining files -/

/-- A character as `cat` shows one that cannot be seen. -/
def visibleChar (showsTabs : Bool) (c : Char) : List Char :=
  if c = '\n' || (c = '\t' && !showsTabs) then [c]
  else
    let (start, n) := if c.toNat < 128 then ([], c.toNat) else ("M-".toList, c.toNat - 128)
    start ++
      (if n < 32 then ['^', Char.ofNat (n + 64)]
        else if n = 127 then ['^', '?']
        else [Char.ofNat n])

/-- What `cat` makes of a text. -/
def decorate (o : Options) (text : List Char) : List Char :=
  let all := o.has 'A'
  let ends := all || o.has 'E' || o.has 'e'
  let hides := all || o.has 'v' || o.has 'e' || o.has 't'
  let showsTabs := all || o.has 'T' || o.has 't'
  let (lines, isEnded) := linesOf text
  let squeezed := if o.has 's' then squeeze false lines else lines
  let last := squeezed.length - 1
  let shown := squeezed.zipIdx.map fun (l, i) =>
    let hasEnd := isEnded || i < last
    let body :=
      if hides then l.flatMap (visibleChar showsTabs)
      else if showsTabs then l.flatMap fun c => if c = '\t' then "^I".toList else [c]
      else l
    let body := if ends && hasEnd && !hides && body.getLast? = some '\r' then
      body.dropLast ++ "^M".toList else body
    (l.isEmpty && hasEnd, if ends && hasEnd then body ++ ['$'] else body)
  let numbered := if o.has 'b' then number true 1 shown
    else if o.has 'n' then number false 1 shown
    else shown.map (·.2)
  unlinesAs numbered isEnded
where
  /-- Lines with only one of several empty ones in a row. -/
  squeeze (wasEmpty : Bool) : List (List Char) → List (List Char)
    | [] => []
    | l :: ls =>
      if l.isEmpty && wasEmpty then squeeze true ls else l :: squeeze l.isEmpty ls
  /-- Lines with their numbers. The empty ones are marked and may be passed over. -/
  number (skipsEmpty : Bool) (n : Nat) : List (Bool × List Char) → List (List Char)
    | [] => []
    | (isEmpty, l) :: ls =>
      if skipsEmpty && isEmpty then l :: number skipsEmpty n ls
      else (padLeft 6 (digitsOf n) ++ '\t' :: l) :: number skipsEmpty (n + 1) ls

/-- Writes files as they are, or with marks for what cannot be seen. -/
def cat : Tool :=
  withOptions {
    flags := "AbeEnstTuv"
    long := [("number-nonblank", 'b'), ("number", 'n'), ("squeeze-blank", 's'),
      ("show-nonprinting", 'v'), ("show-ends", 'E'), ("show-tabs", 'T'),
      ("show-all", 'A')] } 1 fun c o =>
    if o.letters.all (·.1 = 'u') then eachInput c o.operands 1 fileComplaint id
    else overInputs c o.operands 1 fileComplaint (decorate o)

/-! ### Backwards -/

/-- The parts of a text, each with the separator at its end, or, with `isBefore`, at its
start. -/
def separated (isBefore : Bool) (separator cs : List Char) : List (List Char) :=
  go [] [] 0 cs
where
  /-- Goes on with the part at work and the parts so far, both backwards; `skipped` characters
  belong to a separator. -/
  go (part : List Char) (done : List (List Char)) (skipped : Nat) :
      List Char → List (List Char)
    | [] => if part.isEmpty then done.reverse else (part.reverse :: done).reverse
    | c :: cs =>
      if 1 < skipped then go (c :: part) done (skipped - 1) cs
      else if skipped = 1 then
        if isBefore then go (c :: part) done 0 cs else go [] ((c :: part).reverse :: done) 0 cs
      else if separator.isPrefixOf (c :: cs) then
        let done := if isBefore && !part.isEmpty then part.reverse :: done else done
        let part := if isBefore then [] else part
        if separator.length = 1 then
          if isBefore then go [c] done 0 cs else go [] ((c :: part).reverse :: done) 0 cs
        else go (c :: part) done (separator.length - 1) cs
      else go (c :: part) done 0 cs

/-- Writes the parts of files from the last one to the first one. -/
def tac : Tool :=
  withOptions {
    flags := "br", valued := "s"
    long := [("before", 'b'), ("regex", 'r'), ("separator", 's')] } 1 fun c o =>
  let separator := (o.value? 's').getD ['\n']
  if (o.value? 's') = some [] && o.has 'r' then
    .ofComplaint c 1 "separator cannot be empty".toList
  else
    let separator := if separator.isEmpty then ['\x00'] else separator
    let complaint (name : List Char) (t : Trouble) : List Char :=
      match t with
      | .isDirectory => name ++ ": read error: Is a directory".toList
      | t => "failed to open ".toList ++ quotedName name ++ " for reading: ".toList ++
          t.reason.toList
    eachInput c o.operands 1 complaint fun cs =>
      (separated (o.has 'b') separator cs).reverse.flatten

/-- Writes every line backwards. -/
def rev : Tool :=
  withOptions { flags := "0", long := [("zero", '0')] } 1 fun c o =>
  let complaint (name : List Char) (t : Trouble) : List Char :=
    "cannot open ".toList ++ fileComplaint name t
  let stop := if o.has '0' then '\x00' else '\n'
  eachInput c o.operands 1 complaint fun cs =>
    let (lines, isEnded) := recordsOf stop cs
    endedAs stop (lines.map List.reverse) isEnded

/-! ### Copies on the way -/

/-- Writes its input and copies of it to files. -/
def tee : Tool :=
  withOptions {
    flags := "aip", optional := "o", hidden := "o"
    long := [("append", 'a'), ("ignore-interrupts", 'i'), ("output-error", 'o')] } 1 fun c o =>
  let text := c.input.getD []
  let e := (Effect.ofOutput c text).takingAll c
  o.operands.foldl (fun e name =>
    match stream? name, writingTrouble? e.disk name with
    | some isError, _ => { e with writes := e.writes ++ [(isError, text)] }
    | none, some t => e.complain c 1 (fileComplaint name t)
    | none, none =>
      let old := if o.has 'a' then oldContent e.disk name else []
      { e with disk := written c.mask e.disk name (old ++ text) }) e

end ParserConformance.Script.Tool
