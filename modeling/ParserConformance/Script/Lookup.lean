import ParserConformance.Script.Condition
import ParserConformance.Script.Machine

/-!
# Looking up files, programs and users

What can be asked about files, where a program is found that is called by its name alone, and who may
use a system. Users and the groups that they are in are lists in files, a line each, with colons between
what is known.
-/

namespace ParserConformance.Script

/-! ### Files and programs -/

/-- The mode of what stands at a place. -/
def modeOf : Entry → Nat
  | .file mode _ => mode
  | .directory mode => mode
  | .special mode _ => mode
  | .link _ => 0o777

/-- Whether what a path names is as a letter asks. -/
def isAsAsked (d : Disk) (letter : Char) (name : List Char) : Bool :=
  let path := pathOfChars name
  let followed := (d.stat path).toOption
  let isDirectory := match followed with
    | some (.directory _) => true
    | _ => false
  let size := match followed with
    | some (.file _ content) => content.length
    | _ => 0
  let has (bits : Nat) := followed.any fun e => modeOf e &&& bits ≠ 0
  match letter with
  | 'e' | 'O' | 'G' => followed.isSome
  | 'f' => d.isFile path
  | 'd' => isDirectory
  | 's' => isDirectory || 0 < size
  | 'r' => has 0o400
  | 'w' => has 0o200
  | 'x' => has 0o100
  | 'u' => has 0o4000
  | 'g' => has 0o2000
  | 'k' => has 0o1000
  | 'c' => (d.special? path).any (!·.isPipe)
  | 'p' => (d.special? path).any (·.isPipe)
  | 'h' | 'L' =>
    match (d.ownPlace path).bind d.entry? with
    | some (.link _) => true
    | _ => false
  | _ => false

/-- What can be asked about the files of a disk. -/
def fileQuestions (d : Disk) : FileQuestions where
  holds := isAsAsked d
  isSame a b :=
    match d.locate (pathOfChars a) false, d.locate (pathOfChars b) false with
    | .ok p, .ok q => (d.placesOf p).contains q && (d.entry? p).isSome
    | _, _ => false
  changedAt? path := (d.locate (pathOfChars path) false).toOption.map d.changedAt

/-- The parts of a text between colons. -/
def colonParts : List Char → List (List Char)
  | [] => [[]]
  | c :: cs =>
    if c = ':' then [] :: colonParts cs
    else
      match colonParts cs with
      | [] => [[c]]
      | part :: parts => (c :: part) :: parts

/-- Whether a path leads to a file that can be run. -/
def isProgram (d : Disk) (name : List Char) : Bool :=
  match d.stat (pathOfChars name) with
  | .ok (.file mode _) => Disk.maySearch mode
  | _ => false

/-- The paths of a name in the directories to be searched. -/
def candidates (directories name : List Char) : List (List Char) :=
  (colonParts directories).map fun dir => if dir.isEmpty then name else dir ++ '/' :: name

/-- The path of the program that a name calls: the name itself if it is a path, else what is
found first in the directories to be searched. -/
def programPath? (d : Disk) (directories name : List Char) : Option (List Char) :=
  if name.contains '/' then (if isProgram d name then some name else none)
  else (candidates directories name).find? (isProgram d)

namespace Act

/-- The directories in which programs are found by their names. A program that has no list of
them looks into those of the system. -/
def searched : Act (List Char) := do
  match (← shell).surroundings with
  | some all => return (all.lookup "PATH".toList).getD "/bin:/usr/bin".toList
  | none => return (← lookup "PATH".toList).getD []

/-- The path of a program. -/
def program? (name : List Char) : Act (Option (List Char)) := do
  return programPath? (← disk) (← searched) name

end Act

/-! ### Users -/

/-- Who may use a system. -/
structure User where
  /-- The name. -/
  name : String
  /-- The number. -/
  number : Nat
  /-- The number of the group. -/
  group : Nat
  /-- The name in full. -/
  title : String
  /-- The home directory. -/
  home : String
  /-- The shell. -/
  shell : String
  deriving DecidableEq, Repr

namespace User

/-- A user as a line of the list of all of them. -/
def line (u : User) : String :=
  ":".intercalate [u.name, "x", toString u.number, toString u.group, u.title, u.home, u.shell]
    ++ "\n"

/-- The user that a line of a list tells of. -/
def ofLine? (l : List Char) : Option User :=
  match (colonParts l).map toText with
  | [name, _, number, group, title, home, shell] => do
    return ⟨name, ← number.toNat?, ← group.toNat?, title, home, shell⟩
  | _ => none

end User

/-- The lines of a file, if it can be read. -/
def linesAt (d : Disk) (path : String) : List (List Char) :=
  match d.read ⟨path⟩ with
  | .ok bytes => (ofBytes bytes).splitOn '\n'
  | .error _ => []

/-- The users of a system. -/
def usersOn (d : Disk) : List User := (linesAt d "/etc/passwd").filterMap User.ofLine?

/-- The user of a name. -/
def userNamed? (d : Disk) (name : List Char) : Option User :=
  (usersOn d).find? fun u => ofText u.name = name

/-- The names and numbers of the groups of a system. -/
def groupsOn (d : Disk) : List (String × Nat) :=
  (linesAt d "/etc/group").filterMap fun l =>
    match (colonParts l).map toText with
    | name :: _ :: number :: _ => number.toNat?.map (name, ·)
    | _ => none

/-- The name of the group of a number, or the number if it has none. -/
def groupName (d : Disk) (number : Nat) : String :=
  match (groupsOn d).find? (·.2 = number) with
  | some (name, _) => name
  | none => toString number

end ParserConformance.Script
