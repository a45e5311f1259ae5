import ParserConformance.Script.Pattern
import ParserConformance.Script.Tool.Removal
import ParserConformance.Script.Tool.Sorting
import ParserConformance.Script.Tool.Status

/-!
# Listing directories

`ls` lists files and what is in directories: names alone, in lines or columns, or with what the
system knows of the files.
-/

namespace ParserConformance.Script.Tool.Listing

/-- How names are laid out. -/
inductive Layout where
  /-- One on each line. -/
  | lines
  /-- With all that is known. -/
  | long
  /-- In columns. -/
  | columns
  /-- In rows. -/
  | rows
  /-- With commas between them. -/
  | commas
  deriving DecidableEq, Repr

/-- What names are sorted by. -/
inductive Key where
  /-- By themselves. -/
  | name
  /-- Sizes, the greatest first. -/
  | size
  /-- Times, the last first. -/
  | time
  /-- The endings of names. -/
  | ending
  /-- Themselves, as versions. -/
  | version
  /-- Nothing. -/
  | unsorted
  deriving DecidableEq, Repr

/-- How names are written. -/
inductive Quoting where
  /-- As they are. -/
  | literal
  /-- With escapes. -/
  | escape
  /-- With escapes and in quotes. -/
  | quotes
  /-- As a shell reads them. -/
  | shell
  deriving DecidableEq, Repr

/-- What is written behind names. -/
inductive Indicator where
  /-- Nothing. -/
  | none
  /-- A slash behind directories. -/
  | slash
  /-- A sign for each kind of files. -/
  | kind
  /-- A sign for each kind of files, and for those that can be run. -/
  | classify
  deriving DecidableEq, Repr

/-- How directories are listed. -/
structure Manner where
  /-- The layout. -/
  layout : Layout
  /-- What names are sorted by. -/
  key : Key
  /-- Whether the order is turned around. -/
  isReverse : Bool
  /-- Whether directories come first. -/
  directoriesFirst : Bool
  /-- How names are written. -/
  quoting : Quoting
  /-- Whether characters that cannot be shown are question marks. -/
  hidesControls : Bool
  /-- What is written behind names. -/
  indicator : Indicator
  /-- Whether all names are listed, even those of the directory and the one above. -/
  all : Bool
  /-- Whether names are listed that begin with a point. -/
  almostAll : Bool
  /-- Patterns of names that are left out. -/
  ignored : List (List Char)
  /-- Patterns of names that are left out unless more names are listed than usual. -/
  hidden : List (List Char)
  /-- Whether what is below directories is listed too. -/
  isDeep : Bool
  /-- Whether directories are listed themselves. -/
  isFlat : Bool
  /-- Whether links stand for what they lead to. -/
  followsAll : Bool
  /-- Whether links that are arguments do. -/
  followsArguments : Bool
  /-- Whether links that are arguments and lead to directories do. -/
  followsDirectories : Bool
  /-- Whether sizes are shown. -/
  showsBlocks : Bool
  /-- Whether numbers of files are shown. -/
  showsNumber : Bool
  /-- Whether owners are shown. -/
  showsOwner : Bool
  /-- Whether groups are shown. -/
  showsGroup : Bool
  /-- Whether owners and groups are numbers. -/
  isNumeric : Bool
  /-- The base of the units of sizes, if they have units. -/
  unitBase : Option Nat
  /-- The format of times, if it is not the usual one. -/
  timeFormat : Option (List Char)
  /-- How wide lines are. -/
  width : Nat
  /-- How wide tabs are. -/
  tab : Nat
  /-- The end of names. -/
  stop : Char

/-- A name that is listed. -/
structure Item where
  /-- The name. -/
  name : List Char
  /-- The path that leads there. -/
  path : List Char
  /-- The status. -/
  status : Status

/-! ### Names -/

/-- A character with its escape. -/
def escapeOf (c : Char) (quote : List Char) : List Char :=
  match c with
  | '\\' => "\\\\".toList
  | '\x07' => "\\a".toList
  | '\x08' => "\\b".toList
  | '\x0c' => "\\f".toList
  | '\n' => "\\n".toList
  | '\r' => "\\r".toList
  | '\t' => "\\t".toList
  | '\x0b' => "\\v".toList
  | c =>
    if quote.contains c then ['\\', c]
    else if ' ' ≤ c && c ≤ '~' then [c]
    else
      let ds := Nat.toDigits 8 c.toNat
      '\\' :: (List.replicate (3 - ds.length) '0' ++ ds)

/-- Whether a shell reads a name as it is. -/
def isPlain (name : List Char) : Bool :=
  !name.isEmpty && name.all (fun c => c.isAlphanum || "%+,-./:@_]\x7b\x7d".toList.contains c ||
    '\x7f' < c)

/-- A name as it is written. -/
def written (m : Manner) (name : List Char) : List Char :=
  let shown (c : Char) : Char :=
    if m.hidesControls && (c < ' ' || '~' < c) then '?' else c
  match m.quoting with
  | .literal => name.map shown
  | .escape => name.flatMap fun c => escapeOf c [' ']
  | .quotes => '"' :: name.flatMap (fun c => escapeOf c ['"']) ++ ['"']
  | .shell =>
    if isPlain name then name
    else if name.contains '\'' && !name.any (fun c => "\"$`\\".toList.contains c) then
      '"' :: name ++ ['"']
    else '\'' :: name.flatMap (fun c => if c = '\'' then "'\\''".toList else [c]) ++ ['\'']

/-- The sign behind a name. -/
def signOf (m : Manner) (s : Status) : List Char :=
  match m.indicator, s.entry with
  | .none, _ => []
  | _, .directory _ => ['/']
  | .slash, _ => []
  | _, .link _ => ['@']
  | _, .special _ kind => if kind.isPipe then ['|'] else []
  | .classify, .file mode _ => if mode &&& 0o111 ≠ 0 then ['*'] else []
  | .kind, .file _ _ => []

/-! ### Order -/

/-- The ending of a name, with its point. -/
def endingOf (name : List Char) : List Char :=
  let back := name.reverse.takeWhile (· ≠ '.')
  if back.length = name.length then [] else '.' :: back.reverse

/-- Compares items. -/
def compareItems (m : Manner) (a b : Item) : Ordering :=
  let names := Sorting.compareTexts a.name b.name
  let order := match m.key with
    | .name | .unsorted => names
    | .size => (compare b.status.size a.status.size).then names
    | .time => (compare b.status.changed a.status.changed).then names
    | .ending => (Sorting.compareTexts (endingOf a.name) (endingOf b.name)).then names
    | .version => (Sorting.compareVersions a.name b.name).then names
  let order := if m.isReverse then order.swap else order
  if m.directoriesFirst then
    (compare (!isDirectoryEntry a.status.entry) (!isDirectoryEntry b.status.entry)).then order
  else order

/-- Items in their order. -/
def sorted (m : Manner) (items : List Item) : List Item :=
  if m.key = .unsorted && !m.directoriesFirst then
    if m.isReverse then items.reverse else items
  else items.mergeSort fun a b => compareItems m a b ≠ .gt

/-! ### Layouts -/

/-- A number in units, rounded up. -/
def inUnits (base : Nat) (n : Nat) : List Char :=
  if n < base then digitsOf n
  else
    let letters := if base = 1000 then "kMGTPE".toList else "KMGTPE".toList
    let rec go (room : Nat) (size : Nat) : List Char → List Char
      | [] => digitsOf n
      | l :: ls =>
        match room with
        | 0 => digitsOf n
        | room + 1 =>
          let tenths := (n * 10 + size - 1) / size
          if tenths < 100 then digitsOf (tenths / 10) ++ '.' :: digitsOf (tenths % 10) ++ [l]
          else
            let whole := (n + size - 1) / size
            if whole < base || ls.isEmpty then digitsOf whole ++ [l]
            else go room (size * base) ls
    go 8 base letters

/-- A size as it is shown. -/
def sizeText (m : Manner) (s : Status) : List Char :=
  match m.unitBase with
  | some base => inUnits base s.size
  | none => digitsOf s.size

/-- How many blocks something takes, as it is shown. -/
def blocksText (m : Manner) (blocks : Nat) : List Char :=
  match m.unitBase with
  | some base => inUnits base (blocks * 512)
  | none => digitsOf ((blocks + 1) / 2)

/-- Half a year, in nanoseconds. -/
def halfYear : Int := 31556952 / 2 * Time.second

/-- The time of a file as it is shown. -/
def timeText (c : Call) (m : Manner) (s : Status) : List Char :=
  let isRecent := c.now - halfYear < s.changed && s.changed ≤ c.now
  let format := match m.timeFormat with
    | some f =>
      let first := f.takeWhile (· ≠ '\n')
      if isRecent && first.length < f.length then f.drop (first.length + 1) else first
    | none => (if isRecent then "%b %e %H:%M" else "%b %e  %Y").toList
  Time.format s.changed c.zone format

/-- The greatest length of texts. -/
def widthOf (texts : List (List Char)) : Nat := texts.foldl (fun n t => max n t.length) 0

/-- What stands in front of a name: its number and its blocks. -/
def fronts (m : Manner) (items : List Item) : List (List Char) :=
  let numbers := items.map fun i => digitsOf i.status.number
  let blocks := items.map fun i => blocksText m i.status.blocks
  let isFixed := m.layout ≠ .commas
  let pad (texts : List (List Char)) (t : List Char) : List Char :=
    (if isFixed then padLeft (widthOf texts) t else t) ++ [' ']
  (numbers.zip blocks).map fun (n, b) =>
    (if m.showsNumber then pad numbers n else []) ++ (if m.showsBlocks then pad blocks b else [])

/-- The lines of items with all that is known. -/
def longLines (c : Call) (m : Manner) (items : List Item) : List (List Char) :=
  let links := items.map fun i => digitsOf i.status.links
  let sizes := items.map fun i => sizeText m i.status
  let owner := (if m.isNumeric then "0" else "root").toList
  (items.zip (fronts m items)).map fun (i, front) =>
    let behind := match i.status.entry with
      | .link target =>
        let there := (c.disk.locate (pathOfChars i.path) false).toOption.bind (Status.at? c.disk)
        let sign := match there with
          | some s => signOf m s
          | none => []
        " -> ".toList ++ written m (ofText target) ++ sign
      | _ => signOf m i.status
    front ++ i.status.letters ++ ' ' :: padLeft (widthOf links) (digitsOf i.status.links) ++
      (if m.showsOwner then ' ' :: owner else []) ++
      (if m.showsGroup then ' ' :: owner else []) ++
      ' ' :: padLeft (widthOf sizes) (sizeText m i.status) ++
      ' ' :: timeText c m i.status ++ ' ' :: written m i.name ++ behind

/-- Blanks and tabs from one column to another. -/
def indent (tab : Nat) : (room column to_ : Nat) → List Char
  | 0, _, _ => []
  | room + 1, column, to_ =>
    if to_ ≤ column then []
    else if tab ≠ 0 && (column + 1) / tab < to_ / tab then
      '\t' :: indent tab room (column + tab - column % tab) to_
    else ' ' :: indent tab room (column + 1) to_

/-- The widths of so many columns, if all of them fit. -/
def columnWidths? (m : Manner) (lengths : List Nat) (count : Nat) : Option (List Nat) :=
  let rows := (lengths.length + count - 1) / count
  let widths := (List.range count).map fun col =>
    let mine := lengths.zipIdx.filterMap fun (n, i) =>
      let at_ := if m.layout = .rows then i % count else i / rows
      if at_ = col then some (n + if col + 1 = count then 0 else 2) else none
    mine.foldl max 3
  if widths.sum < m.width then some widths else none

/-- Texts in columns or rows. -/
def inColumns (m : Manner) (texts : List (List Char)) : List Char :=
  let lengths := texts.map List.length
  let n := texts.length
  let most := min n (m.width / 3 + 1)
  let widths := ((List.range most).reverse.findSome? fun i =>
    columnWidths? m lengths (i + 1)).getD [0]
  let count := widths.length
  let rows := (n + count - 1) / count
  let line (row : Nat) : List Char :=
    let here := (List.range count).filterMap fun col =>
      texts[if m.layout = .rows then row * count + col else col * rows + row]?
    let rec go (column start : Nat) : List (List Char × Nat) → List Char
      | [] => []
      | [(t, _)] => t
      | (t, width) :: more =>
        let ends := column + t.length
        let next := start + width
        t ++ indent m.tab (next + 1) ends next ++ go next next more
    go 0 0 (here.zip widths)
  unlines ((List.range rows).map line)

/-- Texts with commas between them, in lines. -/
def withCommas (m : Manner) : (column : Nat) → (isFirst : Bool) → List (List Char) → List Char
  | _, _, [] => ['\n']
  | column, isFirst, t :: ts =>
    if isFirst then t ++ withCommas m t.length false ts
    else if m.width = 0 || column + t.length + 2 < m.width then
      ", ".toList ++ t ++ withCommas m (column + t.length + 2) false ts
    else ",\n".toList ++ t ++ withCommas m t.length false ts

/-- Items as they are listed. -/
def listed (c : Call) (m : Manner) (items : List Item) : List Char :=
  let items := sorted m items
  let texts := (items.zip (fronts m items)).map fun (i, front) =>
    front ++ written m i.name ++ signOf m i.status
  match m.layout with
  | .lines => ended m.stop texts
  | .long => ended m.stop (longLines c m items)
  | .columns | .rows => if items.isEmpty then [] else inColumns m texts
  | .commas => if items.isEmpty then [] else withCommas m 0 true texts

/-! ### Directories -/

/-- Whether a name is listed. -/
def isListed (m : Manner) (name : List Char) : Bool :=
  let fits (pattern : List Char) : Bool := isMatch (patternOf (Marked.bare pattern)) name
  (m.all || m.almostAll || (name.head? ≠ some '.' && !m.hidden.any fits)) &&
    !(m.ignored.any fun p => fits p && (name.head? ≠ some '.' || p.head? = some '.'))

/-- What is in a directory, and complaints about what cannot be looked at. -/
def itemsOf (c : Call) (m : Manner) (path : List Char) :
    Except Trouble (List Item × List (List Char)) := do
  let names ← c.disk.list (pathOfChars path)
  let names := (if m.all then [['.'], ['.', '.']] else []) ++ names.map ofText
  return (names.filter (isListed m)).foldl (fun (items, faults) name =>
    let there := below path name
    match Status.of c.disk (m.followsAll || name = ['.'] || name = ['.', '.']) there with
    | .ok s => (items ++ [⟨name, there, s⟩], faults)
    | .error t =>
      (items, faults ++ ["cannot access ".toList ++ quotedComplaint there t])) ([], [])

/-- Lists directories by their paths, those below them too if that is asked for. -/
def directories (c : Call) (m : Manner) (hasTitles : Bool) :
    (depth : Nat) → (isFirst : Bool) → Effect → List (List Char) → Effect × Bool
  | 0, isFirst, e, _ => (e, isFirst)
  | _, isFirst, e, [] => (e, isFirst)
  | depth + 1, isFirst, e, path :: more =>
    match itemsOf c m path with
    | .error t =>
      let e := e.complain c 2 ("cannot open directory ".toList ++ quotedComplaint path t)
      directories c m hasTitles depth isFirst e more
    | .ok (items, faults) =>
      let e := faults.foldl (fun e f => e.complain c 1 f) e
      let title := (if isFirst then [] else ['\n']) ++ written { m with quoting :=
        if m.quoting = .literal then .literal else m.quoting } path ++ ":\n".toList
      let e := if hasTitles then e.write title else e
      let e := if m.layout = .long || m.showsBlocks then
          e.write ("total ".toList ++ blocksText m (items.map fun i => i.status.blocks).sum ++
            [m.stop])
        else e
      let e := e.write (listed c m items)
      let inner := if m.isDeep then
          (sorted m items).filterMap fun i =>
            if isDirectoryEntry i.status.entry && i.name ≠ ['.'] && i.name ≠ ['.', '.'] then
              some i.path else none
        else []
      let (e, isFirst) := directories c m hasTitles depth false e inner
      directories c m hasTitles depth isFirst e more

/-- Lists what paths name. -/
def run (c : Call) (m : Manner) (operands : List (List Char)) : Effect :=
  let operands := if operands.isEmpty then [['.']] else operands
  let start : Effect := .ofStatus c 0
  let (e, items) := operands.foldl (fun (e, items) path =>
    let followed := Status.of c.disk true path
    let own := Status.of c.disk false path
    let isDir := match followed with
      | .ok s => isDirectoryEntry s.entry
      | .error _ => false
    let status := if m.followsAll || m.followsArguments then followed
      else if m.followsDirectories && isDir then followed
      else own
    match status with
    | .ok s => (e, items ++ [(⟨path, path, s⟩ : Item)])
    | .error t =>
      (e.complain c 2 ("cannot access ".toList ++ quotedComplaint path t), items))
    (start, ([] : List Item))
  let opens (i : Item) : Bool := isDirectoryEntry i.status.entry && !m.isFlat
  let files := items.filter (!opens ·)
  let dirs := sorted m (items.filter opens)
  let e := if files.isEmpty then e else e.write (listed c m files)
  let hasTitles := m.isDeep || 1 < operands.length
  let room := (c.disk.entries.length + 2) * (operands.length + 2)
  (directories c m hasTitles room files.isEmpty e (dirs.map (·.path))).1

/-! ### The tools -/

/-- The long names of the options. -/
def names : List (String × Char) :=
  [("all", 'a'), ("almost-all", 'A'), ("author", 'Y'), ("escape", 'b'), ("block-size", 'J'),
    ("ignore-backups", 'B'), ("color", 'K'), ("directory", 'd'), ("dired", 'D'),
    ("classify", 'V'), ("file-type", 'y'), ("format", 'M'), ("full-time", 'z'),
    ("group-directories-first", 'O'), ("no-group", 'G'), ("human-readable", 'h'), ("si", 'j'),
    ("dereference-command-line", 'H'), ("dereference-command-line-symlink-to-dir", 'e'),
    ("hide", 'E'), ("hyperlink", 'K'), ("indicator-style", 'P'), ("inode", 'i'),
    ("ignore", 'I'), ("kibibytes", 'k'), ("dereference", 'L'), ("numeric-uid-gid", 'n'),
    ("literal", 'N'), ("hide-control-chars", 'q'), ("show-control-chars", 'W'),
    ("quote-name", 'Q'), ("quoting-style", '6'), ("reverse", 'r'), ("recursive", 'R'),
    ("size", 's'), ("sort", '7'), ("time", '8'), ("time-style", '9'), ("tabsize", 'T'),
    ("width", 'w'), ("context", 'Z'), ("zero", '0')]

/-- The layout that options ask for. -/
def layoutOf (o : Options) (usual : Layout) : Layout :=
  o.letters.foldl (fun l (letter, value) => match letter with
    | 'l' | 'g' | 'n' | 'o' | 'z' => .long
    | 'C' => .columns
    | 'x' => .rows
    | 'm' => .commas
    | '1' | '0' => if l = .long then l else .lines
    | 'M' =>
      match String.ofList value with
      | "long" | "verbose" => .long
      | "commas" => .commas
      | "across" | "horizontal" => .rows
      | "vertical" => .columns
      | "single-column" => .lines
      | _ => l
    | _ => l) usual

/-- What options sort names by. -/
def keyOf (o : Options) : Key :=
  let found := o.letters.filterMap fun (letter, value) => match letter with
    | 'S' => some Key.size
    | 't' => some .time
    | 'X' => some .ending
    | 'v' => some .version
    | 'U' | 'f' => some .unsorted
    | '7' =>
      match String.ofList value with
      | "none" => some .unsorted
      | "size" => some .size
      | "time" => some .time
      | "extension" => some .ending
      | "version" => some .version
      | _ => some .name
    | _ => none
  match found.getLast? with
  | some key => key
  | none =>
    if (o.has 'c' || o.has 'u') && layoutOf o .lines ≠ .long then .time else .name

/-- How options write names. -/
def quotingOf (o : Options) (usual : Quoting) : Quoting :=
  o.letters.foldl (fun q (letter, value) => match letter with
    | 'b' => .escape
    | 'Q' => .quotes
    | 'N' | '0' => .literal
    | '6' =>
      match String.ofList value with
      | "literal" => .literal
      | "escape" => .escape
      | "c" => .quotes
      | _ => .shell
    | _ => q) usual

/-- What options write behind names. -/
def indicatorOf (o : Options) : Indicator :=
  o.letters.foldl (fun i (letter, value) => match letter with
    | 'F' => .classify
    | 'V' => if value = "never".toList || value = "auto".toList then i else .classify
    | 'p' => .slash
    | 'y' => .kind
    | 'P' =>
      match String.ofList value with
      | "none" => .none
      | "slash" => .slash
      | "file-type" => .kind
      | _ => .classify
    | _ => i) .none

/-- The format of times that options ask for. -/
def timeFormatOf (o : Options) : Option (List Char) :=
  o.letters.foldl (fun f (letter, value) => match letter with
    | 'z' => some Stat.momentFormat.toList
    | '9' =>
      match String.ofList value with
      | "full-iso" => some Stat.momentFormat.toList
      | "long-iso" => some "%Y-%m-%d %H:%M".toList
      | "iso" => some "%Y-%m-%d \n%m-%d %H:%M".toList
      | _ => if value.head? = some '+' then some (value.drop 1) else f
    | _ => f) none

/-- How options list directories. -/
def mannerOf (c : Call) (o : Options) (usual : Layout) (usualQuoting : Quoting) : Manner :=
  let layout := layoutOf o usual
  let indicator := indicatorOf o
  let columns := ((c.environment.lookup "COLUMNS".toList).bind natural?).getD 80
  let isOwn := layout = .long || o.has 'd' || indicator = .classify
  { layout
    key := keyOf o
    isReverse := o.has 'r'
    directoriesFirst := o.has 'O'
    quoting := quotingOf o usualQuoting
    hidesControls := o.lastOf? "qW" = some 'q'
    indicator
    all := o.lastOf? "aAf" = some 'a' || o.lastOf? "aAf" = some 'f'
    almostAll := o.has 'A'
    ignored := o.values 'I' ++ if o.has 'B' then ["*~".toList, ".*~".toList] else []
    hidden := o.values 'E'
    isDeep := o.has 'R' && !o.has 'd'
    isFlat := o.has 'd'
    followsAll := o.lastOf? "LHe" = some 'L'
    followsArguments := o.lastOf? "LHe" = some 'H'
    followsDirectories := o.lastOf? "LHe" = some 'e' || !isOwn
    showsBlocks := o.has 's'
    showsNumber := o.has 'i'
    showsOwner := !o.has 'g'
    showsGroup := !o.has 'o' && !o.has 'G'
    isNumeric := o.has 'n'
    unitBase := if o.lastOf? "hj" = some 'h' then some 1024 else if o.has 'j' then some 1000
      else none
    timeFormat := timeFormatOf o
    width := match (o.value? 'w').bind natural? with
      | some 0 => 1000000
      | some n => n
      | none => columns
    tab := ((o.value? 'T').bind natural?).getD 8
    stop := if o.has '0' then '\x00' else '\n' }

/-- What is wrong with the value of an option, if something is. -/
def badValue? (o : Options) : Option (List Char) :=
  match (o.value? 'T').filter fun v => (natural? v).isNone,
      (o.value? 'w').filter fun v => (natural? v).isNone with
  | some v, _ => some ("invalid tab size: ".toList ++ quoted v)
  | none, some v => some ("invalid line width: ".toList ++ quoted v)
  | none, none => none

/-- A tool that lists directories. -/
def tool (usual : Layout) (quoting : Quoting) : Tool :=
  withOptions {
    flags := "aAbBcCdDfFgGhHiklLmnNopqQrRsStuUvxXZ1YyzOjeW0"
    valued := "IwTEJMP6789", optional := "KV", hidden := "YJKVyMzOjeEPW67890"
    long := names } 2 fun c o =>
  match badValue? o with
  | some text => .ofComplaint c 2 text
  | none => run c (mannerOf c o usual quoting) o.operands

/-- Lists directories. -/
def ls : Tool := tool .lines .literal

/-- Lists directories in columns. -/
def dir : Tool := tool .columns .escape

/-- Lists directories with all that is known. -/
def vdir : Tool := tool .long .escape

end ParserConformance.Script.Tool.Listing
