import ParserConformance.Check.Trace
import ParserConformance.Report.Suite

/-!
# Checks side by side

Each fixture of a suite is checked by a task of its own. Not more than a given number of tasks
run at a time, and they start and end in any order. As tasks end they are joined, again in any
order, and what a task has come to is put into the slot of its fixture. So the order leaves no
trace unless the parser itself keeps one on the disk.
-/

namespace ParserConformance.Suite

open Corpus (Fixture)

/-- What has become of a task. -/
inductive TaskState where
  /-- It waits for its turn. -/
  | waiting
  /-- It runs. -/
  | running
  /-- It has ended, with a check that has ended or by breaking down. -/
  | ended (trace : Option Check.Trace)
  /-- It has been joined after its end. -/
  | joined (trace : Option Check.Trace)
  deriving DecidableEq, Repr

/-- The tasks of a suite. -/
structure Board where
  /-- How many may run at a time; none counts as one. -/
  jobs : Nat
  /-- The handle whose parser the checks use. -/
  handle : HandleNumber
  /-- The fixtures in corpus order and what has become of their tasks. -/
  tasks : List (Fixture × TaskState)
  /-- The outcomes of the tasks that have been joined, each at the place of its fixture. -/
  slots : List (Option Outcome)
  /-- The disk that the checks share. -/
  disk : Disk
  deriving Repr

namespace Board

/-- The board on which no task has begun. -/
def initial (jobs : Nat) (handle : HandleNumber) (disk : Disk) (fixtures : List Fixture) : Board :=
  ⟨jobs, handle, fixtures.map (·, .waiting), fixtures.map fun _ => none, disk⟩

/-- How many tasks run. -/
def runningCount (b : Board) : Nat := b.tasks.countP fun t => t.2 = .running

/-- The outcome of a fixture. -/
def outcome (handle : HandleNumber) (f : Fixture) (verdict : Verdict) : Outcome :=
  ⟨f.name, f.origin, handle, verdict⟩

/-- A change on a board. -/
inductive Move where
  /-- The task at this place starts. -/
  | start (i : Nat)
  /-- The task at this place ends. -/
  | finish (i : Nat)
  /-- The task at this place is joined. -/
  | join (i : Nat)
  deriving DecidableEq, Repr

/-- The board after a move, if the move is possible. What a task comes to is a matter of its
fixture and of the disk. A task that has broken down leaves its slot empty. -/
def move (check : Disk → Fixture → Option Check.Trace × Disk) (b : Board) :
    Move → Option Board
  | .start i =>
    match b.tasks[i]? with
    | some (f, .waiting) =>
      if b.runningCount < max b.jobs 1 then
        some { b with tasks := b.tasks.set i (f, .running) }
      else none
    | _ => none
  | .finish i =>
    match b.tasks[i]? with
    | some (f, .running) =>
      let (trace, disk) := check b.disk f
      some { b with tasks := b.tasks.set i (f, .ended trace), disk }
    | _ => none
  | .join i =>
    match b.tasks[i]? with
    | some (f, .ended none) => some { b with tasks := b.tasks.set i (f, .joined none) }
    | some (f, .ended (some trace)) =>
      some { b with
        tasks := b.tasks.set i (f, .joined (some trace))
        slots := b.slots.set i (some (outcome b.handle f trace.verdict)) }
    | _ => none

/-- The board after moves, if they are possible. -/
def moves (check : Disk → Fixture → Option Check.Trace × Disk) (b : Board) (ms : List Move) :
    Option Board :=
  ms.foldlM (move check) b

/-- Whether every task has been joined. -/
def isOver (b : Board) : Bool := b.tasks.all fun t => match t.2 with
  | .joined _ => true
  | _ => false

/-- The outcomes in corpus order. A fixture whose slot is empty counts as a crash. -/
def outcomes (b : Board) : List Outcome :=
  List.zipWith (fun t slot => slot.getD (outcome b.handle t.1 (.failed (.crash .incomplete))))
    b.tasks b.slots

/-- How long each task took, in milliseconds. -/
def durations (b : Board) : List Nat :=
  b.tasks.map fun (_, state) =>
    match state with
    | .ended (some trace) | .joined (some trace) => trace.duration
    | _ => 0

/-- The moves that run one task after the other. -/
def oneByOne (n : Nat) : List Move :=
  (List.range n).flatMap fun i => [.start i, .finish i, .join i]

end Board

/-- When the last of some tasks ends, if `free` says when each place for a task gets free and
the tasks take the earliest place one after the other. -/
def finishTime : (free : List Nat) → (durations : List Nat) → Nat
  | free, [] => free.foldl max 0
  | free, d :: ds =>
    match free.min? with
    | none => finishTime [d] ds
    | some earliest => finishTime ((earliest + d) :: free.erase earliest) ds

end ParserConformance.Suite
