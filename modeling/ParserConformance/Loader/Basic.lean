import ParserConformance.Parser.Artifact

/-!
# Loading parsers

A loader makes a parser from an artifact once and keeps the outcome, parser or problem, in a
cell. A path leads to a cell by the artifact that it means, so paths to one artifact share it. A
caller first gets a ticket, which names a cell and costs nothing; the artifact is loaded when
somebody resolves the ticket.

Loading goes through stages, so that other things may happen in between. At most one load of a
cell is under way, and one that is given up leaves the cell empty.
-/

namespace ParserConformance

/-- A live parser. -/
structure Handle where
  /-- Its number, in the order in which a loader's parsers were made. -/
  id : Nat
  /-- The artifact that it was made from. -/
  artifact : Artifact
  /-- The name of the artifact's kind. -/
  kind : String
  /-- The digest of the artifact when it was loaded. -/
  fingerprint : String
  /-- The parser. -/
  parser : Parser

/-- What a finished load comes to. -/
abbrev LoadOutcome := Except LoadProblem Handle

/-- How far a load has come. -/
inductive LoadStage where
  /-- The artifact has to be found, and a kind for it. -/
  | locating
  /-- The artifact has to be read. -/
  | reading (artifact : Artifact) (kind : Nat)
  /-- The kind, which has made as many attempts before, has to make the parser. -/
  | opening (artifact : Artifact) (kind attempt : Nat) (fingerprint : String)

/-- A place for the outcome of a load. -/
inductive Cell where
  /-- Nobody has loaded it. -/
  | empty
  /-- Somebody is loading it. -/
  | loading (stage : LoadStage)
  /-- It has its outcome. -/
  | filled (outcome : LoadOutcome)

/-- The outcome of a cell that has one. -/
def Cell.outcome? : Cell → Option LoadOutcome
  | .filled outcome => some outcome
  | _ => none

/-- A claim to the parser that a cell will hold. -/
structure Ticket where
  /-- The path as it was asked for. -/
  requested : Path
  /-- The path by which the cell was found: the absolute one without links, if the artifact was
  there at the time. -/
  key : Path
  /-- The number of the cell. -/
  cell : Nat
  deriving DecidableEq, Repr

/-- Makes parsers and keeps them. -/
structure Loader where
  /-- The kinds, tried in order. -/
  kinds : List ArtifactKind
  /-- The cells that paths lead to, by the courses of their keys. -/
  places : List (Path.Course × Nat)
  /-- All cells by number, also those that no path leads to any more. -/
  cells : List Cell
  /-- How many parsers were made. -/
  issued : Nat
  /-- How many loads found a kind. -/
  loads : Nat
  /-- How many attempts each kind has made. -/
  attempts : List Nat

namespace Loader

/-- A loader with nothing loaded. -/
def new (kinds : List ArtifactKind) : Loader :=
  ⟨kinds, [], [], 0, 0, kinds.map fun _ => 0⟩

/-- The path by which a cell is found: the absolute path without links of what is there, else
the path as it was given. -/
def keyOf (disk : Disk) (path : Path) : Path := (disk.canonical? path).getD path

/-- The cell that a key leads to. -/
def cellAt? (l : Loader) (key : Path) : Option Nat :=
  (l.places.find? (·.1 = key.course)).map (·.2)

/-- A ticket for a path. A cell is added if no path led to one for the same key. -/
def create (l : Loader) (disk : Disk) (path : Path) : Loader × Ticket :=
  let key := keyOf disk path
  match l.cellAt? key with
  | some cell => (l, ⟨path, key, cell⟩)
  | none =>
    let cell := l.cells.length
    ({ l with places := (key.course, cell) :: l.places, cells := l.cells ++ [.empty] },
      ⟨path, key, cell⟩)

/-- Forgets the cell that a path leads to, and says whether there was one. Tickets that name the
cell go on sharing it. -/
def evict (l : Loader) (disk : Disk) (path : Path) : Loader × Bool :=
  let key := keyOf disk path
  ({ l with places := l.places.filter (·.1 ≠ key.course) }, (l.cellAt? key).isSome)

/-- A cell by its number. -/
def cell (l : Loader) (i : Nat) : Cell := l.cells.getD i .empty

/-- The loader with another content of a cell. -/
def setCell (l : Loader) (i : Nat) (c : Cell) : Loader := { l with cells := l.cells.set i c }

/-- The handle behind a ticket, if it is there. -/
def ready? (l : Loader) (p : Ticket) : Option Handle :=
  match l.cell p.cell with
  | .filled (.ok handle) => some handle
  | _ => none

/-- Starts loading a cell that is empty. -/
def begin (l : Loader) (p : Ticket) : Loader :=
  match l.cell p.cell with
  | .empty => l.setCell p.cell (.loading .locating)
  | _ => l

/-- Gives up a load that is under way. -/
def cancel (l : Loader) (p : Ticket) : Loader :=
  match l.cell p.cell with
  | .loading _ => l.setCell p.cell .empty
  | _ => l

/-- The first kind that an artifact is of. -/
def kindFor? (l : Loader) (disk : Disk) (a : Artifact) : Option Nat :=
  l.kinds.findIdx? (·.accepts disk a)

/-- One stage of a load that is under way. A load counts as soon as a kind is found for it; a
parser gets its number when it is made. -/
def advance (l : Loader) (disk : Disk) (p : Ticket) : Loader :=
  match l.cell p.cell with
  | .loading .locating =>
    match Artifact.locate disk p.key with
    | .error error => l.setCell p.cell (.filled (.error error))
    | .ok artifact =>
      match l.kindFor? disk artifact with
      | none => l.setCell p.cell (.filled (.error (.failed p.key .noKind)))
      | some kind =>
        { l with loads := l.loads + 1 }.setCell p.cell (.loading (.reading artifact kind))
  | .loading (.reading artifact kind) =>
    match artifact.fingerprint disk with
    | .error error => l.setCell p.cell (.filled (.error error))
    | .ok fingerprint =>
      let attempt := l.attempts.getD kind 0
      { l with attempts := l.attempts.set kind (attempt + 1) }.setCell p.cell
        (.loading (.opening artifact kind attempt fingerprint))
  | .loading (.opening artifact kind attempt fingerprint) =>
    match l.kinds[kind]? with
    | none => l
    | some f =>
      match f.make attempt disk artifact with
      | .hanging => l
      | .refused error => l.setCell p.cell (.filled (.error error))
      | .ready parser =>
        { l with issued := l.issued + 1 }.setCell p.cell
          (.filled (.ok ⟨l.issued + 1, artifact, f.id, fingerprint, parser⟩))
  | _ => l

/-- Loads what a ticket stands for as far as it goes while the disk stays as it is, and gives the
outcome unless the load hangs. -/
def resolve (l : Loader) (disk : Disk) (p : Ticket) : Loader × Option LoadOutcome :=
  let l := (((l.begin p).advance disk p).advance disk p).advance disk p
  (l, (l.cell p.cell).outcome?)

end Loader

end ParserConformance
