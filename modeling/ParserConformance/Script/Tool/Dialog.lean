import ParserConformance.Script.Tool.Place

/-!
# Questions before changes

Some tools ask before they change something. The answers are lines of the input.
-/

namespace ParserConformance.Script.Tool

/-- What a tool has come to that may ask. -/
structure Dialog where
  /-- What it has come to. -/
  effect : Effect
  /-- The lines of the input that were not read. -/
  answers : List (List Char)
  /-- Whether it has asked. -/
  hasAsked : Bool := false

namespace Dialog

/-- The start of a tool that may ask. -/
def start (c : Call) : Dialog := ⟨.ofStatus c 0, (linesOf (c.input.getD [])).1, false⟩

/-- Asks, and tells whether the answer is yes. -/
def ask (t : Dialog) (c : Call) (question : List Char) : Bool × Dialog :=
  let answer := t.answers.headD []
  (answer.head? = some 'y' || answer.head? = some 'Y',
    { effect := t.effect.warn (c.name ++ ": ".toList ++ question ++ "? ".toList)
      answers := t.answers.drop 1
      hasAsked := true })

/-- The disk at this point. -/
def disk (t : Dialog) : Disk := t.effect.disk

/-- With another disk. -/
def withDisk (t : Dialog) (d : Disk) : Dialog := { t with effect := { t.effect with disk := d } }

/-- With more output. -/
def write (t : Dialog) (text : List Char) : Dialog := { t with effect := t.effect.write text }

/-- With a complaint. -/
def complain (t : Dialog) (c : Call) (status : Nat) (text : List Char) : Dialog :=
  { t with effect := t.effect.complain c status text }

/-- With at least a status. -/
def atLeast (t : Dialog) (status : Nat) : Dialog := { t with effect := t.effect.atLeast status }

/-- What the tool has come to in the end. -/
def finish (t : Dialog) (c : Call) : Effect :=
  if t.hasAsked then t.effect.takingAll c else t.effect

end Dialog

/-! ### Backups -/

/-- How what stands in the way is kept. -/
inductive Backup where
  /-- Under its name with something behind it. -/
  | simple
  /-- Under its name with a number behind it. -/
  | numbered
  /-- With a number if others are kept so. -/
  | existing
  deriving DecidableEq, Repr

/-- How options say that what stands in the way is kept: the letter `b` or a way by name. -/
def backupOf? (c : Call) (o : Options) : Option Backup :=
  match o.lastOf? "bBS" with
  | none => none
  | some _ =>
    let named := match (o.values 'B').filter (!·.isEmpty) |>.getLast? with
      | some way => way
      | none => (c.environment.lookup "VERSION_CONTROL".toList).getD []
    match String.ofList named with
    | "none" | "off" => none
    | "numbered" | "t" => some .numbered
    | "simple" | "never" => some .simple
    | _ => some .existing

/-- The number of a kept version of a name, if another name is one. -/
def versionOf? (name other : List Char) : Option Nat :=
  let front := name ++ ".~".toList
  if front.isPrefixOf other && other.getLast? = some '~' then
    natural? ((other.drop front.length).dropLast)
  else none

/-- The path under which what stands at a path is kept. -/
def backupPath (c : Call) (o : Options) (d : Disk) (way : Backup) (path : List Char) :
    List Char :=
  let suffix := match o.value? 'S' with
    | some s => s
    | none => (c.environment.lookup "SIMPLE_BACKUP_SUFFIX".toList).getD ['~']
  let siblings := match d.list (pathOfChars (holder path)) with
    | .ok names => names.map ofText
    | .error _ => []
  let versions := siblings.filterMap (versionOf? (lastName path))
  if way = .numbered || (way = .existing && !versions.isEmpty) then
    path ++ ".~".toList ++ digitsOf (versions.foldl max 0 + 1) ++ ['~']
  else path ++ suffix

/-- The disk with what stands at a path moved out of the way, and the path under which it is
kept. -/
def backedUp (c : Call) (o : Options) (d : Disk) (path : List Char) :
    Disk × Option (List Char) :=
  match backupOf? c o with
  | none => (d, none)
  | some way =>
    let kept := backupPath c o d way path
    match ownPlace? d path, ownPlace? d kept with
    | some old, some new =>
      if (d.entry? old).isSome then (d.move old new, some kept) else (d, none)
    | _, _ => (d, none)

/-- The long names of the options about backups. -/
def backupNames : List (String × Char) := [("backup", 'B'), ("suffix", 'S')]

end ParserConformance.Script.Tool
