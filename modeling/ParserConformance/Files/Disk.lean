import ParserConformance.Files.Path
import ParserConformance.Files.Trouble
import ParserConformance.Instances
import ParserConformance.Text.Utf8

/-!
# Disks

A disk holds files, directories and symbolic links, each under the list of names that leads to
it from the root. A path is followed from a working directory, name by name and through links,
to the place that it means.
-/

namespace ParserConformance

/-- A place on a disk: the names that lead there from the root. -/
abbrev Location := List String

/-- What a name can lead to that holds nothing itself. -/
inductive Special where
  /-- A pipe, which leads from one process to another. -/
  | pipe
  /-- A device that is always empty and takes everything. -/
  | null
  /-- A device that gives zero bytes without end and takes everything. -/
  | zero
  /-- A device that gives zero bytes without end and takes nothing. -/
  | full
  /-- A device that gives bytes by chance without end and takes everything. -/
  | random
  /-- The terminal, which no process has. -/
  | terminal
  /-- The stream of a number of the process that asks. -/
  | stream (number : Nat)
  deriving DecidableEq, Repr

/-- Whether it leads from one process to another. -/
def Special.isPipe : Special → Bool
  | .pipe | .stream _ => true
  | _ => false

/-- What stands at a place. -/
inductive Entry where
  /-- A file with its mode and content. -/
  | file (mode : Nat) (content : List UInt8)
  /-- A directory with its mode. -/
  | directory (mode : Nat)
  /-- A link to another path. -/
  | link (target : String)
  /-- Something with a mode and without a content of its own. -/
  | special (mode : Nat) (kind : Special)
  deriving DecidableEq, Repr

/-- What the kind of an entry is called. -/
def Entry.kindName : Entry → String
  | .file _ content => if content.isEmpty then "regular empty file" else "regular file"
  | .directory _ => "directory"
  | .link _ => "symbolic link"
  | .special _ kind => if kind.isPipe then "fifo" else "character special file"

/-- The time at which disks come into being, in microseconds since the start of 1970. -/
def Disk.startOfTime : Nat := 1750000000 * 1000000

/-- A disk and the directory in which paths that are not absolute begin. -/
structure Disk where
  /-- The working directory. -/
  here : Location
  /-- What stands where; the root itself is not listed. -/
  entries : List (Location × Entry)
  /-- The numbers of files that have one. Names with one number lead to one file. -/
  numbers : List (Location × Nat) := []
  /-- The files to which no name leads any more, by their numbers. -/
  lost : List (Nat × Entry) := []
  /-- When what stands at a place was changed last, if that was not at the start. -/
  changes : List (Location × Nat) := []
  /-- The time, in microseconds since the start of 1970. -/
  now : Nat := Disk.startOfTime
  deriving Repr

namespace Disk

/-- The mode of a new file. -/
def fileMode : Nat := 0o644

/-- The mode of a new directory. -/
def directoryMode : Nat := 0o755

/-- What stands at a place, links not followed. -/
def entry? (d : Disk) (p : Location) : Option Entry :=
  if p.isEmpty then some (.directory directoryMode)
  else (d.entries.find? (·.1 = p)).map (·.2)

/-- When what stands at a place was changed last. -/
def changedAt (d : Disk) (p : Location) : Nat := (d.changes.lookup p).getD startOfTime

/-- The disk with a time at which something was changed. -/
def setChangedAt (d : Disk) (p : Location) (time : Nat) : Disk :=
  { d with changes := (p, time) :: d.changes.filter (·.1 ≠ p) }

/-- All places at which the file stands that stands at one. -/
def placesOf (d : Disk) (p : Location) : List Location :=
  match d.numbers.lookup p with
  | some n => d.numbers.filterMap fun (q, m) => if m = n then some q else none
  | none => [p]

/-- The disk without some places. A file with a number that stands nowhere else is lost. -/
def forget (d : Disk) (isGone : Location → Bool) : Disk :=
  let kept := d.numbers.filter (!isGone ·.1)
  let lost := d.numbers.filterMap fun (p, n) =>
    if isGone p && !kept.any (·.2 = n) then (d.entry? p).map (n, ·) else none
  { d with
    entries := d.entries.filter (!isGone ·.1)
    numbers := kept
    lost := lost ++ d.lost
    changes := d.changes.filter (!isGone ·.1) }

/-- The disk with something new at a place. -/
def set (d : Disk) (p : Location) (e : Entry) : Disk :=
  let isNew := (d.entry? p).isNone
  let d := d.forget (· = p)
  let d := { d with entries := d.entries ++ [(p, e)] }.setChangedAt p d.now
  if isNew then d.setChangedAt p.dropLast d.now else d

/-- The disk with another form of what stands at a place, under all names that it has. -/
def reform (d : Disk) (p : Location) (e : Entry) : Disk :=
  let places := d.placesOf p
  { d with entries := d.entries.map fun (q, old) => (q, if places.contains q then e else old) }

/-- The disk with another form of what stands at a place, which has changed by that. -/
def change (d : Disk) (p : Location) (e : Entry) : Disk :=
  (d.placesOf p).foldl (fun d q => d.setChangedAt q d.now) (d.reform p e)

/-- The disk without what stands at a place and below it. -/
def erase (d : Disk) (p : Location) : Disk :=
  (d.forget (p.isPrefixOf ·)).setChangedAt p.dropLast d.now

/-! ### Files by number -/

/-- The number of the file at a place, and the disk on which it has one. -/
def numbered (d : Disk) (p : Location) : Nat × Disk :=
  match d.numbers.lookup p with
  | some n => (n, d)
  | none =>
    let n := ((d.numbers.map (·.2) ++ d.lost.map (·.1)).foldl max 0) + 1
    (n, { d with numbers := (p, n) :: d.numbers })

/-- The file of a number. -/
def entryOf? (d : Disk) (n : Nat) : Option Entry :=
  match d.numbers.find? (·.2 = n) with
  | some (p, _) => d.entry? p
  | none => d.lost.lookup n

/-- The content of the file of a number. -/
def contentOf (d : Disk) (n : Nat) : List UInt8 :=
  match d.entryOf? n with
  | some (.file _ content) => content
  | _ => []

/-- The disk with other content in the file of a number. -/
def setContentOf (d : Disk) (n : Nat) (content : List UInt8) : Disk :=
  match d.numbers.find? (·.2 = n), d.entryOf? n with
  | some (p, _), some (.file mode _) => d.change p (.file mode content)
  | none, some (.file mode _) =>
    { d with lost := (n, .file mode content) :: d.lost.filter (·.1 ≠ n) }
  | _, _ => d

/-- The disk with one more name for the file at a place. -/
def tie (d : Disk) (old new : Location) : Disk :=
  match d.entry? old with
  | none => d
  | some e =>
    let time := d.changedAt old
    let (n, d) := d.numbered old
    let d := (d.set new e).setChangedAt new time
    { d with numbers := (new, n) :: d.numbers }

/-- The disk with all that stands at and below a place moved to another one. -/
def move (d : Disk) (old new : Location) : Disk :=
  let moved (p : Location) : Location :=
    if old.isPrefixOf p then new ++ p.drop old.length else p
  let d := d.forget fun p => new.isPrefixOf p && !old.isPrefixOf p
  let d := { d with
    entries := d.entries.map fun (p, e) => (moved p, e)
    numbers := d.numbers.map fun (p, n) => (moved p, n)
    changes := d.changes.map fun (p, t) => (moved p, t) }
  (d.setChangedAt old.dropLast d.now).setChangedAt new.dropLast d.now

/-- The disk without the files that no name leads to, and without the numbers of those that have
only one name. -/
def settled (d : Disk) : Disk :=
  { d with
    lost := []
    numbers := d.numbers.filter fun (p, _) => 1 < (d.placesOf p).length }

/-- Whether the owner of something with this mode may read it. -/
def mayRead (mode : Nat) : Bool := mode &&& 0o400 ≠ 0

/-- Whether the owner of something with this mode may run it, or go through it. -/
def maySearch (mode : Nat) : Bool := mode &&& 0o100 ≠ 0

/-- Whether the owner of something with this mode may change it. -/
def mayWrite (mode : Nat) : Bool := mode &&& 0o200 ≠ 0

/-- How many links may be followed on the way along one path. -/
def linkLimit : Nat := 40

/-- Goes through the parts of a path from the directory `here`. A part that is empty or `.`
stays where it is, `..` goes up. A link is replaced by the parts of its target and handed to
`follow`. With `creating`, the last part may name nothing yet. -/
def walkFrom (d : Disk) (creating : Bool)
    (follow : Location → List String → Except Trouble Location) :
    (here : Location) → (parts : List String) → Except Trouble Location
  | here, [] => .ok here
  | here, part :: parts =>
    match d.entry? here with
    | some (.directory mode) =>
      if part = "" || part = "." then walkFrom d creating follow here parts
      else if !maySearch mode then .error .permissionDenied
      else if part = ".." then walkFrom d creating follow here.dropLast parts
      else if part.utf8ByteSize > 255 then .error .nameTooLong
      else
        match d.entry? (here ++ [part]) with
        | some (.link target) =>
          let targetParts := (Path.splitSlashes target.toList).map String.ofList
          let start := if target.toList.head? = some '/' then [] else here
          follow start (targetParts ++ parts)
        | some _ => walkFrom d creating follow (here ++ [part]) parts
        | none =>
          if creating && parts.isEmpty then .ok (here ++ [part]) else .error .notFound
    | _ => .error .notDirectory

/-- Goes through the parts of a path and follows at most `links` links. -/
def walk (d : Disk) (creating : Bool) : (links : Nat) → Location → List String →
    Except Trouble Location
  | 0 => walkFrom d creating fun _ _ => .error .tooManyLinks
  | links + 1 => walkFrom d creating (walk d creating links)

/-- The place that a path means, its last name followed too if that is a link. -/
def locate (d : Disk) (p : Path) (creating : Bool) : Except Trouble Location :=
  let cs := p.text.toList
  if cs.contains '\x00' then .error .nulInName
  else if cs.isEmpty then .error .notFound
  else if p.text.utf8ByteSize > 4095 then .error .nameTooLong
  else
    walk d creating linkLimit (if p.isAbsolute then [] else d.here)
      ((Path.splitSlashes cs).map String.ofList)

/-- What a path means. -/
def stat (d : Disk) (p : Path) : Except Trouble Entry := do
  match d.entry? (← d.locate p false) with
  | some e => .ok e
  | none => .error .notFound

/-- Whether a path means a file. -/
def isFile (d : Disk) (p : Path) : Bool :=
  match d.stat p with
  | .ok (.file _ _) => true
  | _ => false

/-- What a path means that holds nothing itself, if it means that. -/
def special? (d : Disk) (p : Path) : Option Special :=
  match d.stat p with
  | .ok (.special _ kind) => some kind
  | _ => none

/-- How many bytes are taken from a device that has no end. -/
def supply : Nat := 2 ^ 20

/-- What there is to be read of something that has no content of its own. -/
def readSpecial (d : Disk) : Special → Except Trouble (List UInt8)
  | .pipe | .null | .stream _ => .ok []
  | .zero | .full => .ok (List.replicate supply 0)
  | .random => .ok (chances (d.now % 2 ^ 32) supply)
  | .terminal => .error .noDevice
where
  /-- Bytes that depend on a number in no way that shows. -/
  chances : Nat → Nat → List UInt8
    | _, 0 => []
    | n, count + 1 =>
      let next := (n * 1664525 + 1013904223) % 2 ^ 32
      UInt8.ofNat (next >>> 16) :: chances next count

/-- The content of the file that a path means. -/
def read (d : Disk) (p : Path) : Except Trouble (List UInt8) := do
  match ← d.stat p with
  | .file mode content => if mayRead mode then .ok content else .error .permissionDenied
  | .directory mode => if mayRead mode then .error .isDirectory else .error .permissionDenied
  | .link _ => .error .notFound
  | .special mode kind => if mayRead mode then d.readSpecial kind else .error .permissionDenied

/-- The text of the file that a path means. -/
def readText (d : Disk) (p : Path) : Except Trouble String := do
  match Text.decode? (← d.read p) with
  | some s => .ok s
  | none => .error .notText

/-- The path of a place. -/
def pathOf (p : Location) : Path := ⟨"/" ++ "/".intercalate p⟩

/-- The absolute path without links that means the same as `p`, if it means anything. -/
def canonical? (d : Disk) (p : Path) : Option Path :=
  match d.locate p false with
  | .ok place => if (d.entry? place).isSome then some (pathOf place) else none
  | .error _ => none

/-- The names in the directory that a path means, in no order of note. -/
def list (d : Disk) (p : Path) : Except Trouble (List String) := do
  let place ← d.locate p false
  match d.entry? place with
  | some (.directory mode) =>
    if mayRead mode then
      .ok (d.entries.filterMap fun (q, _) =>
        if q.dropLast = place then q.getLast? else none)
    else .error .permissionDenied
  | some _ => .error .notDirectory
  | none => .error .notFound

/-! ### Changes -/

/-- The disk with the directories that lead along `parts`, after those in `done`. -/
def makeAlong (d : Disk) (absolute : Bool) : (done parts : List String) → Disk
  | _, [] => d
  | done, part :: parts =>
    let done := done ++ [part]
    let path : Path := ⟨(if absolute then "/" else "") ++ "/".intercalate done⟩
    let d := match d.locate path true with
      | .ok place => if (d.entry? place).isNone then d.set place (.directory directoryMode) else d
      | .error _ => d
    makeAlong d absolute done parts

/-- The disk with the directory at a path and all directories on the way there. -/
def makeDirectory (d : Disk) (p : Path) : Disk := makeAlong d p.isAbsolute [] p.steps

/-- The disk with a file at a path. What was there is replaced, except that its mode stays
unless a new one is given. -/
def write (d : Disk) (p : Path) (content : List UInt8) (mode : Option Nat) : Disk :=
  let d := d.makeDirectory p.parent
  match d.locate p true with
  | .error _ => d
  | .ok place =>
    match d.entry? place with
    | some (.file old _) => d.change place (.file (mode.getD old) content)
    | some (.special _ _) => d
    | _ => d.set place (.file (mode.getD fileMode) content)

/-- The place at which a path's own last name stands, that name not followed. -/
def ownPlace (d : Disk) (p : Path) : Option Location :=
  match p.fileName?, d.locate (if p.parent.text = "" then ⟨"."⟩ else p.parent) false with
  | some name, .ok place => some (place ++ [name])
  | _, _ => none

/-- The disk with a link at a path. -/
def link (d : Disk) (p : Path) (target : String) : Disk :=
  let d := d.makeDirectory p.parent
  match d.ownPlace p with
  | some place => d.set place (.link target)
  | none => d

/-- The disk without what a path names and all that is below it. -/
def remove (d : Disk) (p : Path) : Disk :=
  match d.ownPlace p with
  | some place => d.erase place
  | none => d

/-- The disk with another mode for what a path means. -/
def changeMode (d : Disk) (p : Path) (mode : Nat) : Disk :=
  match d.locate p false with
  | .error _ => d
  | .ok place =>
    match d.entry? place with
    | some (.file _ content) => d.reform place (.file mode content)
    | some (.directory _) => d.reform place (.directory mode)
    | some (.special _ kind) => d.reform place (.special mode kind)
    | _ => d

end Disk

end ParserConformance
