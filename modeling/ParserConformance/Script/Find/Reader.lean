import ParserConformance.Script.Find.Expression
import ParserConformance.Script.Mode
import ParserConformance.Script.Tool.Place
import ParserConformance.Script.Tool.Regex.Reader
import ParserConformance.Script.Tool.Time.Reading

/-!
# Reading searches

The arguments of a search are options, paths and an expression. The words of the expression are
understood one by one first; then they are put together by how tightly operators bind.
-/

namespace ParserConformance.Script.Find

open Tool (Regex quoted)

/-- A word of an expression. -/
inductive Item where
  /-- A test or an action. -/
  | primary (e : Expr)
  /-- What negates the next one. -/
  | negation (name : List Char)
  /-- What joins two of them, and how tightly. -/
  | joint (name : List Char) (tightness : Nat)
  /-- An opening parenthesis. -/
  | opening
  /-- A closing parenthesis; the last one of all is not given but added. -/
  | closing (isAdded : Bool)

/-- What tests are compared with. -/
structure Scene where
  /-- The disk. -/
  disk : Disk
  /-- The zone of times. -/
  zone : Tool.Time.Zone

/-- What has been read. -/
structure Reading where
  /-- The words, the last one first. -/
  items : List Item := []
  /-- How regular expressions are read. -/
  flavor : List Char := "findutils-default".toList
  /-- When links are followed. -/
  following : Following := .never
  /-- How deep files have to be at least. -/
  least : Nat := 0
  /-- How deep they may be. -/
  greatest : Option Nat := none
  /-- Whether it is asked for that a directory comes after what is in it. -/
  isUpwards : Bool := false
  /-- Whether days begin at midnight. -/
  fromMidnight : Bool := false
  /-- Whether there is an action that makes another one needless. -/
  hasAction : Bool := false
  /-- Whether something is removed. -/
  deletes : Bool := false
  /-- Whether something is pruned. -/
  prunes : Bool := false
  /-- The programs that are run for many files. -/
  gathered : List (List (List Char) × Bool) := []
  /-- The files that are written to. -/
  files : List (List Char) := []
  /-- What there is to warn of. -/
  warnings : List (List Char) := []

/-- What comes of reading, or a complaint. -/
abbrev Outcome := Except (List Char)

/-! ### Regular expressions -/

/-- A regular expression of the usual kind as a basic one: signs of repetition need no backslash,
and there are neither bounds nor classes of characters. -/
def asBasic : (room : Nat) → List Char → List Char
  | 0, cs => cs
  | _, [] => []
  | room + 1, '\\' :: c :: cs =>
    if c = '+' || c = '?' || c = '\x7b' || c = '\x7d' then c :: asBasic room cs
    else '\\' :: c :: asBasic room cs
  | room + 1, '[' :: cs =>
    let (front, cs) := match cs with
      | '^' :: cs => (['^'], cs)
      | cs => ([], cs)
    let (start, cs) := match cs with
      | ']' :: cs => ([']'], cs)
      | cs => ([], cs)
    let members := cs.takeWhile (· ≠ ']')
    let plain := members.filter (· ≠ '[')
    let last := if plain.length = members.length then [] else ['[']
    let inner :=
      if plain.getLast? = some '-' then plain.dropLast ++ last ++ ['-'] else plain ++ last
    '[' :: front ++ start ++ inner ++ asBasic room (cs.drop members.length)
  | room + 1, c :: cs =>
    if c = '+' || c = '?' then '\\' :: c :: asBasic room cs else c :: asBasic room cs

/-- The kinds of regular expressions, and whether their operators need no backslash; nothing is
said of the usual kind. -/
def flavors : List (String × Option Bool) :=
  [("findutils-default", none), ("ed", some false), ("emacs", none), ("gnu-awk", some true),
    ("grep", some false), ("posix-awk", some true), ("awk", some true),
    ("posix-basic", some false), ("posix-egrep", some true), ("egrep", some true),
    ("posix-extended", some true), ("posix-minimal-basic", some false), ("sed", some false)]

/-- Reads a regular expression. -/
def readRegex (flavor : List Char) (ignoresCase : Bool) (text : List Char) : Outcome Regex :=
  let result := match (flavors.lookup (String.ofList flavor)).join with
    | some true => Regex.read { Regex.Flavor.extended with ignoresCase } text
    | some false => Regex.read { Regex.Flavor.basic with ignoresCase } text
    | none =>
      Regex.read { Regex.Flavor.basic with ignoresCase } (asBasic (text.length + 1) text)
  match result with
  | .ok r => .ok r
  | .error fault =>
    .error ("failed to compile regular expression '".toList ++ text ++ "': ".toList ++
      fault.message.toList)

/-! ### Arguments of tests -/

/-- That an argument is not one for a test. -/
def badArgument {α : Type} (name arg : List Char) : Outcome α :=
  .error ("invalid argument \x60".toList ++ arg ++ "' to \x60".toList ++ name ++ ['\''])

/-- The sign in front of a number, and the number. -/
def bounded {α : Type} (arg : List Char) (read : List Char → Option α) : Option (Bound α) :=
  match arg with
  | '+' :: digits => (read digits).map .above
  | '-' :: digits => (read digits).map .below
  | digits => (read digits).map .exactly

/-- A bound of whole numbers. -/
def count? (arg : List Char) : Option (Bound Nat) := bounded arg Tool.natural?

/-- A number with decimals, in billionths. -/
def billionths? (digits : List Char) : Option Nat :=
  let whole := digits.takeWhile isDigit
  let places := match digits.drop whole.length with
    | '.' :: places => some places
    | [] => some []
    | _ => none
  match places with
  | some places =>
    if places.all isDigit && !(whole.isEmpty && places.isEmpty) then
      some (valueOf whole * 1000000000 + valueOf ((places ++ "000000000".toList).take 9))
    else none
  | none => none

/-- The letters of kinds of files. -/
def kindLetters : List Char := "bcdpfls".toList

/-- The kinds that a list of letters names. -/
def kindsOf (name : List Char) : (sofar : List Char) → List Char → Outcome (List Char)
  | sofar, letter :: rest => do
    if letter = 'D' then
      throw (name ++ (" D is not supported because Solaris doors are not supported on the " ++
        "platform find was compiled on.").toList)
    if !kindLetters.contains letter then
      throw ("Unknown argument to ".toList ++ name ++ ": ".toList ++ [letter])
    if sofar.contains letter then
      throw ("Duplicate file type '".toList ++ letter :: "' in the argument list to ".toList ++
        name ++ ".".toList)
    match rest with
    | [] => return letter :: sofar
    | [','] =>
      throw ("Last file type in list argument to ".toList ++ name ++
        " is missing, i.e., list is ending on: ','".toList)
    | ',' :: more => kindsOf name (letter :: sofar) more
    | _ => throw ("Must separate multiple arguments to ".toList ++ name ++ " using: ','".toList)
  | _, [] => .error ("Arguments to ".toList ++ name ++ " should contain at least one letter".toList)

/-- The size that an argument asks for. -/
def sizeOf? (arg : List Char) : Outcome Test :=
  match arg.getLast? with
  | none => .error "invalid null argument to -size".toList
  | some last =>
    let unit? := if isDigit last then some 512
      else
        [('b', 512), ('c', 1), ('w', 2), ('k', 1024), ('M', 1024 ^ 2),
          ('G', 1024 ^ 3)].lookup last
    match unit? with
    | none => .error ("invalid -size type \x60".toList ++ [last, '\''])
    | some unit =>
      match count? (if isDigit last then arg else arg.dropLast) with
      | some b => .ok (.size unit b)
      | none => .error ("Invalid argument \x60".toList ++ arg ++ "' to -size".toList)

/-- The mode that an argument asks for, and what there is to warn of. -/
def modeBound (arg : List Char) : Outcome (ModeBound × List (List Char)) :=
  let (sign, text) := match arg with
    | '-' :: text => (some '-', text)
    | '/' :: text => (some '/', text)
    | text => (none, text)
  let isOld := match arg with
    | '+' :: c :: _ => isDigit c
    | _ => false
  match changedMode? 0 false 0 text with
  | some bits =>
    if isOld then .error ("invalid mode ".toList ++ quoted arg)
    else
      match sign with
      | none => .ok (.exactly bits, [])
      | some '-' => .ok (.all bits, [])
      | some _ =>
        let warnings := if bits ≠ 0 then [] else
          [("warning: you have specified a mode pattern ".toList ++ arg ++
            (" (which is equivalent to /000). The meaning of -perm /000 has now been changed to " ++
            "be consistent with -perm -000; that is, while it used to match no files, it now " ++
            "matches all files.").toList)]
        .ok (.any bits, warnings)
  | none => .error ("invalid mode ".toList ++ quoted arg)

/-- The time since the last change that an argument in days asks for. -/
def daysOf (s : Scene) (fromMidnight : Bool) (arg : List Char) : Option Test := do
  let day : Int := 86400 * Tool.Time.second
  let now : Int := s.disk.now * 1000
  let midnight := now - (now + s.zone.offset * Tool.Time.second) % day
  let start := if fromMidnight then midnight + day - day else now - day
  let length (n : Nat) : Int := n * 86400
  match ← bounded arg billionths? with
  | .above n => return .changedBefore (start - length n)
  | .below n => return .changedAfter (start + day - Tool.Time.second - length n)
  | .exactly n => return .changedWithin (start - length n) day

/-- The same in minutes. -/
def minutesOf (s : Scene) (arg : List Char) : Option Test := do
  let now : Int := s.disk.now * 1000
  let length (n : Nat) : Int := n * 60
  match ← bounded arg billionths? with
  | .above n => return .changedBefore (now - length n)
  | .below n => return .changedAfter (now - length n)
  | .exactly n => return .changedWithin (now - length n) (60 * Tool.Time.second)

/-- When the file of a name was changed last. -/
def changeOf (s : Scene) (follows : Bool) (name : List Char) : Outcome Int :=
  match Tool.Status.of s.disk follows name with
  | .ok f => .ok f.changed
  | .error t => .error (quoted name ++ ": ".toList ++ t.reason.toList)

/-! ### Words -/

/-- Whether the mark for files occurs in a word. -/
def hasMark : List Char → Bool
  | '\x7b' :: '\x7d' :: _ => true
  | _ :: cs => hasMark cs
  | [] => false

/-- The words of a call up to its end, and what comes behind it. The end is a semicolon, or a plus
sign behind a word with the mark for files, which is told. -/
def callOf (sofar : List (List Char)) : List (List Char) →
    Option (List (List Char) × Bool × List (List Char))
  | [] => none
  | [';'] :: rest => some (sofar.reverse, false, rest)
  | w :: rest =>
    if w = ['+'] && sofar.head?.any hasMark then some (sofar.reverse, true, rest)
    else callOf (w :: sofar) rest

/-- Where an action writes that names a file. -/
def sinkOf (path : List Char) : Sink :=
  match Tool.stream? path with
  | some false => .output
  | some true => .errors
  | none => .file path

namespace Reading

/-- With one more word, joined to the one before it. -/
def put (r : Reading) (i : Item) : Reading :=
  let joins := match r.items.head?, i with
    | some (.primary _), .primary _ | some (.primary _), .negation _
    | some (.primary _), .opening | some (.closing _), .primary _
    | some (.closing _), .negation _ | some (.closing _), .opening => true
    | _, _ => false
  { r with items := i :: if joins then .joint "-a".toList 3 :: r.items else r.items }

/-- With a test. -/
def test (r : Reading) (t : Test) : Reading := r.put (.primary (.test t))

/-- With an action that makes another one needless. -/
def action (r : Reading) (a : Action) : Reading :=
  { r.put (.primary (.action a)) with hasAction := true }

/-- With an action that writes to a file. -/
def writing (r : Reading) (path : List Char) (a : Sink → Action) : Reading :=
  let sink := sinkOf path
  let files := match sink with
    | .file path => if r.files.contains path then r.files else r.files ++ [path]
    | _ => r.files
  { r.action (a sink) with files }

end Reading

/-- Reads an action that shows files by a format. -/
def withFormat (r : Reading) (text : List Char) (put : Reading → List Piece → Reading) :
    Outcome Reading := do
  let (ps, warnings) ← pieces (text.length + 1) text
  return put { r with warnings := r.warnings ++ warnings } ps

/-- Reads a word that stands alone. -/
def plain? (r : Reading) (name : List Char) : Option Reading :=
  match String.ofList name with
  | "(" => some (r.put .opening)
  | ")" => some (r.put (.closing false))
  | "!" | "-not" => some (r.put (.negation name))
  | "-a" | "-and" => some (r.put (.joint name 3))
  | "-o" | "-or" => some (r.put (.joint name 2))
  | "," => some (r.put (.joint name 1))
  | "-true" | "-noleaf" | "-mount" | "-xdev" | "-warn" | "-nowarn" | "-ignore_readdir_race"
  | "-noignore_readdir_race" => some (r.test (.known true))
  | "-follow" => some { r.test (.known true) with following := .always }
  | "-daystart" => some { r.test (.known true) with fromMidnight := true }
  | "-depth" | "-d" => some { r.test (.known true) with isUpwards := true }
  | "-false" | "-nouser" | "-nogroup" => some (r.test (.known false))
  | "-empty" => some (r.test .empty)
  | "-readable" => some (r.test (.access 0o400))
  | "-writable" => some (r.test (.access 0o200))
  | "-executable" => some (r.test (.access 0o100))
  | "-print" => some (r.action (.print .output '\n'))
  | "-print0" => some (r.action (.print .output '\x00'))
  | "-ls" => some (r.action (.list .output))
  | "-delete" => some { r.action .delete with deletes := true }
  | "-prune" => some { r.put (.primary (.action .prune)) with prunes := true }
  | "-quit" => some (r.put (.primary (.action .quit)))
  | _ => none

/-- The names of words with one argument. -/
def withArgument : List String :=
  ["-name", "-iname", "-path", "-wholename", "-ipath", "-iwholename", "-lname", "-ilname",
    "-regex", "-iregex", "-regextype", "-type", "-xtype", "-size", "-mtime", "-atime", "-ctime",
    "-mmin", "-amin", "-cmin", "-newer", "-anewer", "-cnewer", "-perm", "-links", "-inum", "-uid",
    "-gid", "-user", "-group", "-samefile", "-fstype", "-maxdepth", "-mindepth", "-printf",
    "-fprint", "-fprint0", "-fls", "-used", "-context"]

/-- Reads a word and its argument. -/
def withOne (s : Scene) (r : Reading) (name arg : List Char) : Outcome Reading := do
  let fits (subject : Subject) (ignoresCase : Bool) : Outcome Reading :=
    let text := if ignoresCase then arg.map Char.toLower else arg
    .ok (r.test (.fits subject ignoresCase (patternOf (Marked.bare text))))
  let test (t : Option Test) : Outcome Reading :=
    match t with
    | some t => .ok (r.test t)
    | none => badArgument name arg
  let depth : Outcome Nat :=
    match Tool.natural? arg with
    | some n => .ok n
    | none =>
      .error ("Expected a positive decimal integer argument to ".toList ++ name ++
        ", but got ".toList ++ quoted arg)
  let owner (kind : String) : Outcome Reading :=
    if arg = "root".toList then .ok (r.test (.owner (.exactly 0)))
    else
      match Tool.natural? arg with
      | some n => .ok (r.test (.owner (.exactly n)))
      | none => .error (quoted arg ++ (" is not the name of " ++ kind).toList)
  match String.ofList name with
  | "-name" => fits .name false
  | "-iname" => fits .name true
  | "-path" | "-wholename" => fits .path false
  | "-ipath" | "-iwholename" => fits .path true
  | "-lname" => fits .target false
  | "-ilname" => fits .target true
  | "-regex" => return r.test (.regex (← readRegex r.flavor false arg))
  | "-iregex" => return r.test (.regex (← readRegex r.flavor true arg))
  | "-regextype" =>
    if flavors.any (·.1.toList = arg) then return { r.test (.known true) with flavor := arg }
    else
      throw ("Unknown regular expression type ".toList ++ quoted arg ++
        "; valid types are ".toList ++
        ", ".toList.intercalate (flavors.map fun f => quoted f.1.toList) ++ ".".toList)
  | "-type" => return r.test (.kind false (← kindsOf name [] arg))
  | "-xtype" => return r.test (.kind true (← kindsOf name [] arg))
  | "-size" => return r.test (← sizeOf? arg)
  | "-mtime" | "-atime" | "-ctime" => test (daysOf s r.fromMidnight arg)
  | "-mmin" | "-amin" | "-cmin" => test (minutesOf s arg)
  | "-newer" | "-anewer" | "-cnewer" =>
    return r.test (.changedAfter (← changeOf s (r.following ≠ .never) arg))
  | "-perm" => do
    let (b, warnings) ← modeBound arg
    return { r.test (.mode b) with warnings := r.warnings ++ warnings }
  | "-links" => test ((count? arg).map .links)
  | "-inum" => test ((count? arg).map .number)
  | "-uid" | "-gid" => test ((count? arg).map .owner)
  | "-user" => owner "a known user"
  | "-group" => owner "an existing group"
  | "-samefile" =>
    match Tool.Status.of s.disk (r.following ≠ .never) arg with
    | .ok f => return r.test (.sameAs f.place)
    | .error t => throw (quoted arg ++ ": ".toList ++ t.reason.toList)
  | "-fstype" => return r.test (.known false)
  | "-context" => throw "invalid predicate -context: SELinux is not enabled.".toList
  | "-used" => test ((count? arg).map fun _ => .known true)
  | "-maxdepth" => return { r.test (.known true) with greatest := some (← depth) }
  | "-mindepth" => return { r.test (.known true) with least := ← depth }
  | "-printf" => withFormat r arg fun r ps => r.action (.format .output ps)
  | "-fprint" => return r.writing arg fun sink => .print sink '\n'
  | "-fprint0" => return r.writing arg fun sink => .print sink '\x00'
  | "-fls" => return r.writing arg .list
  | _ => badArgument name arg

/-- Reads a call of a program. -/
def withCall (r : Reading) (name : List Char) (inside asks : Bool) (args : List (List Char)) :
    Outcome (Reading × List (List Char)) :=
  match callOf [] args with
  | none => .error ("missing argument to \x60".toList ++ name ++ ['\''])
  | some ([], _, _) => badArgument name [';']
  | some (call, false, rest) => .ok (r.action (.run call inside asks), rest)
  | some (call, true, rest) =>
    let words := call.dropLast
    if asks then .error ("missing argument to \x60".toList ++ name ++ ['\''])
    else if words.any hasMark then
      .error ("Only one instance of \x7b\x7d is supported with ".toList ++ name ++
        " ... +".toList)
    else if call.getLast? ≠ some "\x7b\x7d".toList then
      .error ("In '".toList ++ name ++ (" ... \x7b\x7d +' the '\x7b\x7d' must appear by " ++
        "itself, but you specified ").toList ++ quoted (call.getLastD []))
    else
      let r := r.action (.gather r.gathered.length inside)
      .ok ({ r with gathered := r.gathered ++ [(words, inside)] }, rest)

/-- Reads a word that compares the time of a change with one that a letter tells how to find. -/
def withTimes (s : Scene) (r : Reading) (y : Char) (arg : List Char) : Outcome Reading :=
  if y = 't' then
    match Tool.Time.read (s.disk.now * 1000) s.zone arg with
    | some moment => .ok (r.test (.changedAfter moment))
    | none =>
      .error ("I cannot figure out how to interpret ".toList ++ quoted arg ++
        " as a date or time".toList)
  else (changeOf s (r.following ≠ .never) arg).map fun m => r.test (.changedAfter m)

/-- Whether an argument begins an expression; a closing parenthesis or a comma does not. -/
def isWord (isFirst : Bool) : List Char → Bool
  | '-' :: _ :: _ => true
  | ['!'] | ['('] => true
  | [')'] | [','] => !isFirst
  | _ => false

/-- Reads the words of an expression. `last` is the name of the last one that has an argument. -/
def words (s : Scene) : (room : Nat) → Reading → (last : List Char) → List (List Char) →
    Outcome Reading
  | 0, r, _, _ | _ + 1, r, _, [] => .ok r
  | room + 1, r, last, name :: rest => do
    if !isWord false name then
      let hint := if !last.isEmpty && (Tool.standsAt? s.disk name).isSome then
          "\nfind: possible unquoted pattern after predicate \x60".toList ++ last ++ "'?".toList
        else []
      throw ("paths must precede expression: \x60".toList ++ name ++ '\'' :: hint)
    let missing := "missing argument to \x60".toList ++ name ++ ['\'']
    match plain? r name with
    | some r => words s room r last rest
    | none =>
      let text := String.ofList name
      if withArgument.contains text then
        match rest with
        | [] => throw missing
        | arg :: rest => words s room (← withOne s r name arg) name rest
      else
        match text, name with
        | "-exec", _ | "-execdir", _ | "-ok", _ | "-okdir", _ =>
          let (r, rest) ← withCall r name (text.endsWith "dir") (text.startsWith "-ok") rest
          words s room r last rest
        | "-fprintf", _ =>
          match rest with
          | path :: format :: rest =>
            let r ← withFormat r format fun r ps => r.writing path fun sink => .format sink ps
            words s room r name rest
          | [arg] => badArgument name arg
          | [] => throw missing
        | _, '-' :: 'n' :: 'e' :: 'w' :: 'e' :: 'r' :: x :: [y] =>
          if x = 'B' || y = 'B' then
            throw (("This system does not provide a way to find the birth time of a file.\n" ++
              "find: invalid predicate \x60").toList ++ name ++ ['\''])
          else if !("acm".toList.contains x && "acmt".toList.contains y) then
            throw ("invalid predicate \x60".toList ++ name ++ ['\''])
          else
            match rest with
            | [] => throw ("The ".toList ++ quoted name ++ " test needs an argument".toList)
            | arg :: rest => words s room (← withTimes s r y arg) name rest
        | _, _ => throw ("unknown predicate \x60".toList ++ name ++ ['\''])

/-! ### Expressions -/

/-- What stands before a place in an expression, as far as complaints tell it. -/
inductive Before where
  /-- An operator. -/
  | operator (name : List Char)
  /-- Something else. -/
  | other

mutual

/-- Reads an expression whose operators bind tighter than a number says; gives also what comes
behind it. -/
def exprAt : (room : Nat) → (tightness : Nat) → Before → List Item → Outcome (Expr × List Item)
  | 0, _, _, _ | _ + 1, _, _, [] => .error "invalid expression".toList
  | room + 1, tightness, before, item :: items => do
    let (first, rest) ← match item with
      | .joint name _ =>
        throw ("invalid expression; you have used a binary operator '".toList ++ name ++
          "' with nothing before it.".toList)
      | .closing isAdded =>
        match before, isAdded with
        | .operator name, true =>
          throw ("expected an expression after '".toList ++ name ++ ['\''])
        | .operator name, false =>
          throw ("expected an expression between '".toList ++ name ++ "' and ')'".toList)
        | .other, _ => throw "invalid expression; you have too many ')'".toList
      | .primary e => pure (e, items)
      | .negation name => do
        let (e, rest) ← exprAt room 4 (.operator name) items
        pure (.negation e, rest)
      | .opening =>
        match items with
        | [] | .closing true :: _ =>
          throw ("invalid expression; expected to find a ')' but didn't see one. " ++
            "Perhaps you need an extra predicate after '('").toList
        | .closing false :: _ =>
          throw "invalid expression; empty parentheses are not allowed.".toList
        | _ => do
          let (e, rest) ← exprAt room 0 .other items
          match rest with
          | .closing false :: rest => pure (e, rest)
          | _ =>
            throw ("invalid expression; I was expecting to find a ')' somewhere but did not " ++
              "see one.").toList
    joined room tightness first rest

/-- Goes on behind an expression with operators that bind tighter than a number says. -/
def joined : (room : Nat) → (tightness : Nat) → Expr → List Item → Outcome (Expr × List Item)
  | 0, _, e, items => .ok (e, items)
  | room + 1, tightness, e, items =>
    match items with
    | .joint name own :: rest =>
      if own ≤ tightness then .ok (e, items)
      else do
        let (other, rest) ← exprAt room own (.operator name) rest
        let both := match own with
          | 3 => Expr.both e other
          | 2 => .either e other
          | _ => .sequence e other
        joined room tightness both rest
    | _ => .ok (e, items)

end

/-- The expression that some words make. If nothing in it is an action, the paths are written for
which it holds. -/
def exprOf (r : Reading) : Outcome Expr := do
  let items := r.items.reverse
  let print : Expr := .action (.print .output '\n')
  if items.isEmpty then return print
  let whole := if r.hasAction then items else items ++ [.closing true]
  let (e, rest) ← exprAt (3 * whole.length + 3) 0 .other whole
  match rest, r.hasAction with
  | [], _ => return e
  | [.closing true], _ => return .both e print
  | _, _ => throw "you have too many ')'".toList

/-! ### Searches -/

/-- The options in front of the paths, and what comes behind them. -/
def options : Following → List (List Char) → Outcome (Following × List (List Char))
  | f, [] => .ok (f, [])
  | f, arg :: rest =>
    match arg with
    | ['-', 'H'] => options .first rest
    | ['-', 'L'] => options .always rest
    | ['-', 'P'] => options .never rest
    | ['-', '-'] => .ok (f, rest)
    | ['-', 'D'] =>
      match rest with
      | [] =>
        .error ("Missing argument after the -D option.\n" ++
          "Try 'find --help' for more information.").toList
      | _ :: rest => options f rest
    | '-' :: 'O' :: level =>
      if level.isEmpty then
        .error "The -O option must be immediately followed by a decimal integer".toList
      else if (Tool.natural? level).isNone then
        .error "Please specify a decimal number immediately after -O".toList
      else options f rest
    | _ => .ok (f, arg :: rest)

/-- Reads the arguments of a search. -/
def read (s : Scene) (args : List (List Char)) : Outcome Search := do
  let (following, args) ← options .never args
  let starts := args.takeWhile (!isWord true ·)
  let rest := args.drop starts.length
  let r ← words s (rest.length + 1) { following } [] rest
  let expr ← exprOf r
  if r.deletes && r.prunes && !r.isUpwards then
    throw ("The -delete action automatically turns on -depth, but -prune does nothing when " ++
      "-depth is in effect.  If you want to carry on anyway, just explicitly use the -depth " ++
      "option.").toList
  return {
    starts := if starts.isEmpty then [['.']] else starts
    following := r.following
    least := r.least
    greatest := r.greatest
    isUpwards := r.isUpwards || r.deletes
    expr
    gathered := r.gathered
    files := r.files
    warnings := r.warnings }

end ParserConformance.Script.Find
