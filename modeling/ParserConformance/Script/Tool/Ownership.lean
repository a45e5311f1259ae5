import ParserConformance.Script.Mode
import ParserConformance.Script.Tool.Removal
import ParserConformance.Script.Tool.Status

/-!
# Modes and owners of files

`chmod` changes the modes of files and, if that is asked for, of all that is in directories;
`chown` and `chgrp` only ever find that files belong to whom they belong.
-/

namespace ParserConformance.Script.Tool

namespace Chmod

/-- What is told of changes. -/
inductive Telling where
  /-- Nothing. -/
  | nothing
  /-- What has changed. -/
  | changes
  /-- All. -/
  | all
  deriving DecidableEq, Repr

/-- How modes are changed. -/
structure Manner where
  /-- The changes. -/
  changes : List ModeChange
  /-- The bits that are left out of what is said of nobody in particular. -/
  mask : Nat
  /-- Whether what is below directories is changed too. -/
  isDeep : Bool
  /-- What is told. -/
  telling : Telling
  /-- Whether complaints are left out. -/
  isSilent : Bool
  /-- Whether it is complained of that the mask has kept bits from being taken away. -/
  isWatchful : Bool

/-- A mode in digits and letters. -/
def modeText (s : Status) (mode : Nat) : List Char :=
  let entry : Entry := match s.entry with
    | .directory _ => .directory mode
    | .special _ kind => .special mode kind
    | _ => .file mode []
  let digits := Nat.toDigits 8 mode
  List.replicate (4 - digits.length) '0' ++ digits ++ " (".toList ++
    (Status.letters { s with entry }).drop 1 ++ [')']

/-- The letters of a mode. -/
def lettersOf (s : Status) (mode : Nat) : List Char :=
  (((modeText s mode).drop 6).dropLast)

/-- Changes the mode of what stands at a place. -/
def changeAt (c : Call) (m : Manner) (e : Effect) (place : Location) (path : List Char) :
    Effect :=
  match Status.at? e.disk place with
  | none => e
  | some s =>
    let isDir := isDirectoryEntry s.entry
    let new := m.changes.foldl (ModeChange.apply m.mask isDir) s.mode
    let entry : Entry := match s.entry with
      | .file _ content => .file new content
      | .directory _ => .directory new
      | .special _ kind => .special new kind
      | other => other
    let e := { e with disk := e.disk.reform place entry }
    let e :=
      if s.mode ≠ new && m.telling ≠ .nothing then
        e.write ("mode of ".toList ++ quotedName path ++ " changed from ".toList ++
          modeText s s.mode ++ " to ".toList ++ modeText s new ++ ['\n'])
      else if s.mode = new && m.telling = .all then
        e.write ("mode of ".toList ++ quotedName path ++ " retained as ".toList ++ modeText s new ++
          ['\n'])
      else e
    let expected := m.changes.foldl (ModeChange.apply 0 isDir) s.mode
    if m.isWatchful && ModeChange.without new expected ≠ 0 then
      e.complain c 1 (path ++ ": new permissions are ".toList ++ lettersOf s new ++
        ", not ".toList ++ lettersOf s expected)
    else e

/-- Changes the mode of what stands at a place and of all that is below it, down to a depth. -/
def changeAll (c : Call) (m : Manner) : (depth : Nat) → Effect → Location → List Char → Effect
  | 0, e, _, _ => e
  | depth + 1, e, place, path =>
    match e.disk.entry? place with
    | some (.link _) | none => e
    | some (.file _ _) | some (.special _ _) => changeAt c m e place path
    | some (.directory _) =>
      let e := changeAt c m e place path
      (childrenOf e.disk place).foldl (fun e name =>
        changeAll c m depth e (place ++ [name]) (below path (ofText name))) e

/-- Changes the mode of what a path names. -/
def changeNamed (c : Call) (m : Manner) (e : Effect) (path : List Char) : Effect :=
  let refuse (text : List Char) : Effect :=
    let e := if m.isSilent then e.atLeast 1 else e.complain c 1 text
    if m.telling = .all then
      e.write (quotedName path ++ " could not be accessed\n".toList)
    else e
  match e.disk.locate (pathOfChars path) false with
  | .error t =>
    if (standsAt? e.disk path).isSome then
      refuse ("cannot operate on dangling symlink ".toList ++ quotedName path)
    else refuse ("cannot access ".toList ++ quotedComplaint path t)
  | .ok place =>
    if m.isDeep then changeAll c m (e.disk.entries.length + 1) e place path
    else changeAt c m e place path

/-- Whether an argument is a change that begins like an option. -/
def isChange (arg : List Char) : Bool :=
  match arg with
  | '-' :: c :: _ => "rwxXstugoa,+=01234567".toList.contains c && (ModeChange.read? arg).isSome
  | _ => false

/-- The arguments with changes that begin like options apart. -/
def parted : List (List Char) → List (List Char) × List (List Char)
  | [] => ([], [])
  | ['-', '-'] :: args => ([], ['-', '-'] :: args)
  | arg :: args =>
    let (changes, others) := parted args
    if isChange arg then (arg :: changes, others) else (changes, arg :: others)

/-- Changes modes. -/
def chmod : Tool := fun c =>
  let (early, args) := parted c.args
  withOptions {
    flags := "cfvRPH", valued := "E", hidden := "EPH"
    long := [("changes", 'c'), ("silent", 'f'), ("quiet", 'f'), ("verbose", 'v'),
      ("no-preserve-root", 'P'), ("preserve-root", 'P'), ("reference", 'E'),
      ("recursive", 'R')] } 1 (fun c o =>
    let hasChange := !early.isEmpty || o.has 'E'
    let change := if early.isEmpty then o.operands.headD [] else [','].intercalate early
    let names := if hasChange then o.operands else o.operands.drop 1
    let reference := (o.value? 'E').map fun name => (name, Status.of c.disk true name)
    let changes? : Option (List ModeChange) := match reference with
      | some (_, .ok s) =>
        some [⟨'=', ModeChange.allBits, .bits s.mode 0, ModeChange.allBits⟩]
      | _ => ModeChange.read? change
    match names, reference, changes? with
    | _, some (name, .error t), _ =>
      .ofComplaint c 1 ("failed to get attributes of ".toList ++ quotedComplaint name t)
    | [], _, _ =>
      if !early.isEmpty || (!o.operands.isEmpty && !o.has 'E') then
        if early.isEmpty then .ofMisuse c 1 ("missing operand after ".toList ++ quoted change)
        else .ofMisuse c 1 "missing operand".toList
      else .ofMisuse c 1 "missing operand".toList
    | _, _, none => .ofMisuse c 1 ("invalid mode: ".toList ++ quoted change)
    | names, _, some changes =>
      let m : Manner := {
        changes
        mask := c.mask
        isDeep := o.has 'R'
        telling := match o.lastOf? "cv" with
          | some 'v' => .all
          | some _ => .changes
          | none => .nothing
        isSilent := o.has 'f'
        isWatchful := !early.isEmpty }
      names.foldl (changeNamed c m) (.ofStatus c 0)) { c with args }

end Chmod

/-! ### Owners -/

/-- Whether a text names the user or the group by which the system goes. -/
def isOwner (text : List Char) : Bool :=
  text.isEmpty || text = "root".toList || (natural? text).isSome

/-- A tool that gives files to a user or to a group: nothing changes. -/
def ownership (noun told : String) (hasGroup : Bool) : Tool :=
  withOptions {
    flags := "cfvRhHLP", valued := "EF", hidden := "EFPD"
    long := [("changes", 'c'), ("silent", 'f'), ("quiet", 'f'), ("verbose", 'v'),
      ("dereference", 'D'), ("no-dereference", 'h'), ("from", 'F'), ("reference", 'E'),
      ("recursive", 'R')] } 1 fun c o =>
  let owner := o.operands.headD []
  let names := if o.has 'E' then o.operands else o.operands.drop 1
  let user := if hasGroup then owner.takeWhile fun ch => ch ≠ ':' else owner
  let group := (owner.drop user.length).drop 1
  if o.operands.isEmpty then .ofMisuse c 1 "missing operand".toList
  else if names.isEmpty then .ofMisuse c 1 ("missing operand after ".toList ++ quoted owner)
  else if !o.has 'E' && !isOwner user then
    .ofComplaint c 1 ("invalid ".toList ++ noun.toList ++ ": ".toList ++ quoted owner)
  else if !o.has 'E' && !isOwner group then
    .ofComplaint c 1 ("invalid group: ".toList ++ quoted owner)
  else
    names.foldl (fun e path =>
      match Status.of c.disk (!o.has 'h') path with
      | .ok _ =>
        if o.has 'v' then
          e.write (told.toList ++ " of ".toList ++ quotedName path ++ " retained as root\n".toList)
        else e
      | .error t =>
        if o.has 'f' then e.atLeast 1
        else e.complain c 1 ("cannot access ".toList ++ quotedComplaint path t))
      (.ofStatus c 0)

/-- Gives files to a user. -/
def chown : Tool := ownership "user" "ownership" true

/-- Gives files to a group. -/
def chgrp : Tool := ownership "group" "group" false

end ParserConformance.Script.Tool
