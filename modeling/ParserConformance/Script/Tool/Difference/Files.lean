import ParserConformance.Script.Pattern
import ParserConformance.Script.Tool.Difference.Printer
import ParserConformance.Script.Tool.Regex.Reader
import ParserConformance.Script.Tool.Status

/-!
# Differences of files and directories

`diff` compares two files, or all files of two directories by their names.
-/

namespace ParserConformance.Script.Tool.Difference

/-- What is compared and what is told. -/
structure Task where
  /-- What counts as a difference and how it is shown. -/
  manner : Manner
  /-- Whether it is only told that files differ. -/
  isBrief : Bool
  /-- Whether it is told that files are identical. -/
  tellsSame : Bool
  /-- Whether directories in directories are compared too. -/
  isDeep : Bool
  /-- Whether a file that is missing counts as an empty one. -/
  missingIsEmpty : Bool
  /-- The same for the first of two files only. -/
  firstIsEmpty : Bool
  /-- Whether all files count as texts. -/
  allText : Bool
  /-- Whether links are followed. -/
  follows : Bool
  /-- The patterns of names that are passed over. -/
  excluded : List (List PatternPart)
  /-- The name with which to begin. -/
  firstName : List Char
  /-- What is shown in place of names. -/
  labels : List (List Char)
  /-- The options as they are given. -/
  switches : List (List Char)

/-! ### Names -/

/-- The name of a file in front of differences, in quotes if a blank or a special character is in
it. -/
def titleName (name : List Char) : List Char :=
  let needs (c : Char) : Bool := !isShown c || c = ' ' || c = '"' || c = '\\'
  let escaped (c : Char) : List Char :=
    if c = '"' || c = '\\' then ['\\', c] else if isShown c then [c] else '\\' :: behindBackslash c
  if name.any needs then '"' :: name.flatMap escaped ++ ['"'] else name

/-- The title of a file: its label, or its name and when it was changed. -/
def titleOf (c : Call) (t : Task) (isSecond : Bool) (name : List Char) : List Char :=
  match t.labels[isSecond.toNat]? with
  | some label => label
  | none =>
    let moment := match c.disk.locate (pathOfChars name) false with
      | .ok place => if isInput name then c.now else changedMoment c.disk place
      | .error _ => if isInput name then c.now else 0
    let format := match t.manner.style with
      | .context _ => "%a %b %e %T %Y"
      | _ => "%Y-%m-%d %H:%M:%S.%N %z"
    titleName name ++ '\t' :: Time.format moment c.zone format.toList

/-- The name of a file in messages. -/
def labelOr (t : Task) (isSecond : Bool) (name : List Char) : List Char :=
  (t.labels[isSecond.toNat]?).getD name

/-- A message about two files. -/
def pairMessage (t : Task) (front : String) (a b : List Char) (behind : String) : List Char :=
  front.toList ++ labelOr t false a ++ " and ".toList ++ labelOr t true b ++ behind.toList ++
    ['\n']

/-! ### Subjects -/

/-- What is compared. -/
inductive Subject where
  /-- Nothing, which counts as empty. -/
  | missing
  /-- The input. -/
  | input
  /-- What stands at a place. -/
  | entry (place : Location) (e : Entry)

namespace Subject

/-- Whether it is a directory. -/
def isDirectory : Subject → Bool
  | .entry _ (.directory _) => true
  | _ => false

/-- What kind of file it is. -/
def kind : Subject → String
  | .entry _ e => e.kindName
  | _ => "regular file"

/-- Its text. -/
def text (c : Call) : Subject → Except Trouble (List Char)
  | .missing => .ok []
  | .input => .ok (c.input.getD [])
  | .entry _ (.file mode content) =>
    if Disk.mayRead mode then .ok (ofBytes content) else .error .permissionDenied
  | .entry _ (.special _ kind) => (c.disk.readSpecial kind).map ofBytes
  | .entry _ _ => .error .isDirectory

end Subject

/-- What a name means. -/
def subjectOf (c : Call) (t : Task) (name : List Char) : Except Trouble Subject :=
  if isInput name then .ok .input
  else if t.follows then
    match c.disk.locate (pathOfChars name) false with
    | .error trouble => .error trouble
    | .ok place =>
      match c.disk.entry? place with
      | some e => .ok (.entry place e)
      | none => .error .notFound
  else
    match ownPlace? c.disk name, standsAt? c.disk name with
    | some place, some e => .ok (.entry place e)
    | _, _ => .error (findingTrouble c.disk name)

/-! ### Comparing -/

/-- Whether a text is none that a person would read. -/
def isBinary (t : Task) (text : List Char) : Bool := !t.allText && text.contains '\x00'

/-- Compares two texts. In a directory the options and names stand before their differences. -/
def compareTexts (c : Call) (t : Task) (isInner : Bool) (a b x y : List Char) (e : Effect) :
    Effect :=
  let isOpaque := isBinary t x || isBinary t y
  if isOpaque || (t.isBrief && t.manner.comparesBytes) then
    if x = y then e
    else if t.isBrief then (e.write (pairMessage t "Files " a b " differ")).atLeast 1
    else (e.write (pairMessage t "Binary files " a b " differ")).atLeast 1
  else
    let p := Pages.of t.manner x y
    let differ := p.differ t.manner
    if t.isBrief then
      if differ then (e.write (pairMessage t "Files " a b " differ")).atLeast 1 else e
    else
      let showsAll := match t.manner.style with
        | .columns => !t.manner.hidesSame
        | .formatted _ => true
        | _ => false
      let text := if differ || showsAll then
          shown t.manner p (titleOf c t false a) (titleOf c t true b)
        else []
      let head := if isInner && !text.isEmpty then
          "diff".toList ++ t.switches.flatMap (fun s => ' ' :: shellWord s) ++ ' ' ::
            titleName (labelOr t false a) ++ ' ' :: titleName (labelOr t true b) ++ ['\n']
        else []
      let e := e.write (head ++ text)
      let e := if differ then e.atLeast 1 else e
      if t.manner.style.tellsEnds then e
      else
        [(a, x), (b, y)].foldl (fun e (name, text) =>
          if text.isEmpty || text.getLast? = some '\n' then e
          else e.complain c 2 (name ++ ": No newline at end of file\n".toList)) e

/-- The names in a directory that are compared. -/
def namesIn (c : Call) (t : Task) (dir : List Char) : Except Trouble (List (List Char)) :=
  (c.disk.list (pathOfChars dir)).map fun names =>
    (names.map ofText).filter fun name =>
      !t.excluded.any (isMatch · name) && !(name < t.firstName)

/-- Compares what two names mean. The names of what is in directories come with their holders;
`room` is how deep directories may lie in each other. -/
def compare (c : Call) (t : Task) : (room : Nat) → (isInner : Bool) → (a b : List Char) →
    (x y : Subject) → Effect → Effect
  | 0, _, _, _, _, _, e => e
  | room + 1, isInner, a, b, x, y, e =>
    let sameFile := match x, y with
      | .entry p _, .entry q _ => (c.disk.placesOf p).contains q
      | .input, .input => true
      | _, _ => false
    let showsAll := match t.manner.style with
      | .columns => !t.manner.hidesSame && !t.isBrief
      | .formatted _ => !t.isBrief
      | _ => false
    let inner : Effect :=
      if sameFile && !(showsAll && !x.isDirectory) then { e with status := 0 }
      else if x.isDirectory && y.isDirectory ||
          (x.isDirectory && y matches .missing) || (x matches .missing && y.isDirectory) then
        if isInner && !t.isDeep then
          { e with status := 0 }.write ("Common subdirectories: ".toList ++ a ++
            " and ".toList ++ b ++ ['\n'])
        else
          match (if x.isDirectory then namesIn c t a else .ok []),
            (if y.isDirectory then namesIn c t b else .ok []) with
          | .error trouble, _ => { e with status := 0 }.complain c 2 (plainComplaint a trouble)
          | _, .error trouble => { e with status := 0 }.complain c 2 (plainComplaint b trouble)
          | .ok olds, .ok news =>
            let names := (olds ++ news.filter (!olds.contains ·)).mergeSort fun m n => !(n < m)
            names.foldl (fun e name =>
              let only (dir : List Char) : Effect :=
                (e.write ("Only in ".toList ++ dir ++ ": ".toList ++ name ++ ['\n'])).atLeast 1
              let find (dir : List Char) (isThere : Bool) : Except Trouble Subject :=
                if isThere then subjectOf c t (below dir name) else .ok .missing
              if !olds.contains name && !t.missingIsEmpty && !t.firstIsEmpty then only b
              else if !news.contains name && !t.missingIsEmpty then only a
              else
                match find a (olds.contains name), find b (news.contains name) with
                | .ok x, .ok y => compare c t room true (below a name) (below b name) x y e
                | .error trouble, _ => e.complain c 2 (plainComplaint (below a name) trouble)
                | _, .error trouble => e.complain c 2 (plainComplaint (below b name) trouble))
              { e with status := 0 }
      else
        match x, y with
        | .entry _ (.link l), .entry _ (.link k) =>
          if l = k then { e with status := 0 }
          else
            ({ e with status := 0 }.write (pairMessage t "Symbolic links " a b " differ")).atLeast 1
        | x, y =>
          if x.kind ≠ y.kind && (x.isDirectory || y.isDirectory || x.kind = "symbolic link" ||
              y.kind = "symbolic link") then
            ({ e with status := 0 }.write ("File ".toList ++ labelOr t false a ++ " is a ".toList ++
              x.kind.toList ++ " while file ".toList ++ labelOr t true b ++ " is a ".toList ++
              y.kind.toList ++ ['\n'])).atLeast 1
          else
            match x.text c, y.text c with
            | .ok old, .ok new => compareTexts c t isInner a b old new { e with status := 0 }
            | old, new =>
              [(a, old), (b, new)].foldl (fun e (name, r) => match r with
                | .ok _ => e
                | .error trouble => e.complain c 2 (plainComplaint name trouble))
                { e with status := 0 }
    let told := if t.tellsSame && inner.status = 0 && !x.isDirectory then
        inner.write (pairMessage t "Files " a b " are identical")
      else inner
    told.atLeast e.status

/-- Compares what two operands mean. If one of them is a directory, the other one is compared
with the file of its name in there. -/
def compareOperands (c : Call) (t : Task) (a b : List Char) (e : Effect) : Effect :=
  let room := c.disk.entries.length + 2
  let found (isFirst : Bool) (name other : List Char) : Except Trouble Subject :=
    match subjectOf c t name with
    | .error .notFound =>
      if (t.missingIsEmpty || (isFirst && t.firstIsEmpty)) && (subjectOf c t other).isOk then
        .ok .missing
      else .error .notFound
    | r => r
  match found true a b, found false b a with
  | .ok x, .ok y =>
    if x.isDirectory = y.isDirectory || x matches .missing || y matches .missing then
      compare c t room false a b x y e
    else if x matches .input || y matches .input then
      e.complain c 2 "cannot compare '-' to a directory".toList
    else
      let (a, b) := if x.isDirectory then (below a (lastName b), b) else (a, below b (lastName a))
      match found true a b, found false b a with
      | .ok x, .ok y => compare c t room false a b x y e
      | .error trouble, _ => e.complain c 2 (plainComplaint a trouble)
      | _, .error trouble => e.complain c 2 (plainComplaint b trouble)
  | x, y =>
    [(a, x), (b, y)].foldl (fun e (name, r) => match r with
      | .ok _ => e
      | .error trouble => e.complain c 2 (plainComplaint name trouble)) e

/-! ### Options -/

/-- The options of `diff`. -/
def known : Known := {
  flags := "0123456789aBbcdEefHhilNnPpqrsTtuvwyZ\x01\x02\x03\x04\x05\x06\x07"
  valued := "CDFILSUWXx\x10\x11\x12\x13\x14\x15\x16\x17\x18\x19\x1a\x1b\x1c\x1d"
  optional := "\x1e\x1f\x7f"
  hidden := "\x01\x02\x03\x04\x05\x06\x07\x10\x11\x12\x13\x14\x15\x16\x17\x18\x19\x1a\x1b\x1c" ++
    "\x1d\x1e\x1f\x7f"
  long := [("binary", '\x07'), ("brief", 'q'), ("changed-group-format", '\x16'),
    ("color", '\x7f'), ("context", '\x1e'), ("ed", 'e'), ("exclude", 'x'),
    ("exclude-from", 'X'), ("expand-tabs", 't'), ("forward-ed", 'f'), ("from-file", '\x1b'),
    ("horizon-lines", '\x1a'), ("ifdef", 'D'), ("ignore-all-space", 'w'),
    ("ignore-blank-lines", 'B'), ("ignore-case", 'i'), ("ignore-file-name-case", '\x07'),
    ("ignore-matching-lines", 'I'), ("ignore-space-change", 'b'), ("ignore-tab-expansion", 'E'),
    ("ignore-trailing-space", 'Z'), ("initial-tab", 'T'), ("label", 'L'),
    ("left-column", '\x02'), ("line-format", '\x17'), ("minimal", 'd'), ("new-file", 'N'),
    ("new-group-format", '\x15'), ("new-line-format", '\x12'), ("no-dereference", '\x06'),
    ("no-ignore-file-name-case", '\x07'), ("normal", '\x01'), ("old-group-format", '\x14'),
    ("old-line-format", '\x11'), ("paginate", 'l'), ("rcs", 'n'), ("recursive", 'r'),
    ("report-identical-files", 's'), ("show-c-function", 'p'), ("show-function-line", 'F'),
    ("side-by-side", 'y'), ("speed-large-files", 'H'), ("starting-file", 'S'),
    ("strip-trailing-cr", '\x04'), ("suppress-blank-empty", '\x05'),
    ("suppress-common-lines", '\x03'), ("tabsize", '\x19'), ("text", 'a'), ("to-file", '\x1c'),
    ("unchanged-group-format", '\x13'), ("unchanged-line-format", '\x10'),
    ("unidirectional-new-file", 'P'), ("unified", '\x1f'), ("version", 'v'), ("width", 'W')] }

/-- The arguments that are options or belong to them. -/
def switchesOf : List (List Char) → List (List Char)
  | [] => []
  | arg :: args =>
    if arg = "--".toList then []
    else
      match Options.given? known arg args.head?, args with
      | .ok (some (_, true)), value :: args => arg :: value :: switchesOf args
      | .ok (some _), args => arg :: switchesOf args
      | _, args => switchesOf args

/-- The formats that options give, if they do. -/
def formatsOf (o : Options) : Option Formats :=
  let same : List Char := "%L".toList
  match o.value? 'D' with
  | some name =>
    let text (s : String) : List Char := s.toList.flatMap fun c => if c = '@' then name else [c]
    some {
      sameLine := same, oldLine := same, newLine := same, sameGroup := "%=".toList
      oldGroup := text "#ifndef @\n%<#endif /* ! @ */\n"
      newGroup := text "#ifdef @\n%>#endif /* @ */\n"
      changedGroup := text "#ifndef @\n%<#else /* @ */\n%>#endif /* @ */\n" }
  | none =>
    if !o.letters.any fun (l, _) => '\x10' ≤ l && l ≤ '\x17' then none
    else
      let line (letter : Char) : List Char :=
        ((o.value? letter).or (o.value? '\x17')).getD same
      let oldGroup := ((o.value? '\x14').or (o.value? '\x16')).getD "%<".toList
      let newGroup := ((o.value? '\x15').or (o.value? '\x16')).getD "%>".toList
      some {
        sameLine := line '\x10', oldLine := line '\x11', newLine := line '\x12'
        sameGroup := (o.value? '\x13').getD "%=".toList, oldGroup, newGroup
        changedGroup := (o.value? '\x16').getD (oldGroup ++ newGroup) }

/-- The style that options ask for; nothing if they ask for several. -/
def styleOf? (o : Options) : Option Style :=
  let digits := (o.letters.filter (isDigit ·.1)).map (·.1)
  let lines := (o.letters.filterMap fun (l, value) =>
    if ['C', 'U', '\x1e', '\x1f'].contains l then natural? value else none)
  let around := if digits.isEmpty then (lines.foldl max 0) else valueOf digits
  let around := if digits.isEmpty && lines.isEmpty then 3 else around
  let asked := o.letters.filterMap fun (l, _) =>
    match l with
    | 'c' | 'C' | '\x1e' => some (0, Style.context around)
    | 'u' | 'U' | '\x1f' => some (1, Style.unified around)
    | 'e' => some (2, Style.edits)
    | 'f' => some (3, Style.forwardEdits)
    | 'n' => some (4, Style.counts)
    | 'y' => some (5, Style.columns)
    | '\x01' => some (6, Style.normal)
    | 'D' => (formatsOf o).map fun f => (7, .formatted f)
    | _ => if '\x10' ≤ l && l ≤ '\x17' then (formatsOf o).map fun f => (7, .formatted f) else none
  match asked with
  | [] => some (if o.has 'p' || o.has 'F' then .context around else .normal)
  | (n, style) :: others => if others.all (·.1 = n) then some style else none

/-- The manner that options ask for; as an error, a complaint. -/
def mannerOf (o : Options) (style : Style) : Except (List Char) Manner := do
  let read (text : List Char) : Except (List Char) Regex :=
    match Regex.read Regex.Flavor.basic text with
    | .ok r => .ok r
    | .error fault => .error (text ++ ": ".toList ++ fault.message.toList)
  let ignored ← (o.values 'I').mapM read
  let title ← match o.value? 'F' with
    | some text => (read text).map some
    | none => if o.has 'p' then (read "^[[:alpha:]$_]".toList).map some else .ok none
  return {
    style
    ignoresCase := o.has 'i'
    blanks := { tabs := o.has 'E', trailing := o.has 'Z', runs := o.has 'b', all := o.has 'w' }
    ignoresEmpty := o.has 'B'
    dropsReturns := o.has '\x04'
    ignored
    title
    startsWithTab := o.has 'T'
    leavesEmpty := o.has '\x05'
    expandsTabs := o.has 't'
    tabSize := ((o.value? '\x19').bind natural?).getD 8
    width := ((o.value? 'W').bind natural?).getD 130
    showsLeftOnly := o.has '\x02'
    hidesSame := o.has '\x03' }

/-- What is wrong with the value of an option, if something is. -/
def badValue? (o : Options) : Option (List Char) :=
  o.letters.findSome? fun (l, value) =>
    let bad (what : String) : Option (List Char) :=
      some (("invalid " ++ what ++ " '").toList ++ value ++ ['\''])
    let isNumber := (natural? value).isSome
    let isSize := (natural? value).any (0 < ·)
    match l with
    | 'C' | 'U' => if isNumber then none else bad "context length"
    | '\x1e' | '\x1f' => if isNumber || value.isEmpty then none else bad "context length"
    | 'W' => if isSize then none else bad "width"
    | '\x19' => if isSize then none else bad "tabsize"
    | '\x1a' => if isNumber then none else bad "horizon length"
    | '\x7f' =>
      if ["", "always", "auto", "never"].any (·.toList = value) then none else bad "color"
    | _ => none

/-- A complaint about misuse, with a hint on a line of its own. -/
def misuse (c : Call) (text : List Char) : Effect :=
  (Effect.ofComplaint c 2 text).complain c 2
    ("Try '".toList ++ c.name ++ " --help' for more information.".toList)

/-- What options ask to compare; as an error, a complaint and whether it is about misuse. -/
def taskOf (c : Call) (o : Options) : Except (Bool × List Char) Task := do
  if let some text := badValue? o then throw (true, text)
  let style ← match styleOf? o with
    | some style => pure style
    | none => throw (true, "conflicting output style options".toList)
  let manner ← match mannerOf o style with
    | .ok m => pure m
    | .error text => throw (false, text)
  if 2 < (o.values 'L').length then throw (false, "too many file label options".toList)
  let listed ← (o.values 'X').mapM fun name =>
    match contentOf c name with
    | .ok text => pure (linesOf text).1
    | .error t => throw (false, plainComplaint name t)
  return {
    manner
    isBrief := o.has 'q'
    tellsSame := o.has 's'
    isDeep := o.has 'r'
    missingIsEmpty := o.has 'N'
    firstIsEmpty := o.has 'P'
    allText := o.has 'a'
    follows := !o.has '\x06'
    excluded := (o.values 'x' ++ listed.flatten).map fun p => patternOf (Marked.bare p)
    firstName := (o.value? 'S').getD []
    labels := o.values 'L'
    switches := switchesOf c.args }

/-- Shows the differences of two files, or of the files of two directories. -/
def diff : Tool := fun c =>
  match Options.read known c.args with
  | .error fault => misuse c fault.message
  | .ok o =>
    match taskOf c o with
    | .error (true, text) => misuse c text
    | .error (false, text) => .ofComplaint c 2 text
    | .ok t =>
      let all (pairs : List (List Char × List Char)) : Effect :=
        let e := pairs.foldl (fun e (a, b) => compareOperands c t a b e) (.ofStatus c 0)
        if pairs.any fun (a, b) => isInput a || isInput b then e.takingAll c else e
      match o.value? '\x1b', o.value? '\x1c', o.operands with
      | some a, _, files => all (files.map fun b => (a, b))
      | none, some b, files => all (files.map fun a => (a, b))
      | none, none, [] => misuse c ("missing operand after '".toList ++
          (c.args.getLast?.getD c.name) ++ ['\''])
      | none, none, [a] => misuse c ("missing operand after '".toList ++ a ++ ['\''])
      | none, none, [a, b] => all [(a, b)]
      | none, none, _ :: _ :: extra :: _ => misuse c ("extra operand '".toList ++ extra ++ ['\''])

end ParserConformance.Script.Tool.Difference
