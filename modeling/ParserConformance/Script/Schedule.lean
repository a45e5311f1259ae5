import ParserConformance.Script.Machine
import ParserConformance.Script.Signal

/-!
# Processes that take turns

All processes of a world stand still but one. When that one asks for something, the next one goes
on: the one that can do so at the earliest time. The clock of the world is moved to that time.
-/

namespace ParserConformance.Script

/-- A process that stands still. -/
structure Process where
  /-- Its number. -/
  number : Nat
  /-- Its shell. -/
  shell : Shell
  /-- The time at which it has come so far. -/
  readyAt : Nat
  /-- What it has asked for. -/
  awaited : Wish
  /-- Whether somebody has opened the other end of the pipe that it opens. -/
  isMet : Bool := false
  /-- Whether a signal has stopped it. -/
  isStopped : Bool := false
  /-- How it goes on. -/
  next : Bool → Machine → Course Machine Wish (Except Stop Ending)

/-- A world and the processes in it. -/
structure Schedule where
  /-- The world. -/
  world : World
  /-- The processes, the one that has waited longest first. -/
  processes : List Process

/-- Whether something that is opened in this way can be read. -/
def FileUse.reads (use : FileUse) : Bool := use = .read || use = .both

/-- Whether something that is opened in this way can be written. -/
def FileUse.writes (use : FileUse) : Bool := use ≠ .read

namespace Process

/-- The channels that a process keeps open. -/
def channels (p : Process) : List Nat := p.shell.streams.map (·.2) ++ p.shell.held

/-- Whether a process has an end of a pipe, or opens one, that fits a test. -/
def hasEnd (w : World) (pipe : Nat) (fits : FileUse → Bool) (p : Process) : Bool :=
  (p.channels.any fun n => match w.channels[n]? with
    | some (.pipe m use) => m = pipe && fits use
    | _ => false) ||
  match p.awaited with
  | .partner m use => m = pipe && fits use
  | _ => false

/-- Whether a process waits for text from a pipe. -/
def awaitsText (pipe : Nat) (p : Process) : Bool :=
  match p.awaited with
  | .text n _ _ => n = pipe
  | _ => false

end Process

namespace Schedule

/-- Whether a process has an end of a pipe that fits a test. -/
def anyEnd (t : Schedule) (pipe : Nat) (fits : FileUse → Bool) : Bool :=
  t.processes.any (·.hasEnd t.world pipe fits)

/-- How much text is in a pipe. -/
def sizeOf (t : Schedule) (pipe : Nat) : Nat := (t.world.pipes[pipe]?).elim 0 (·.size)

/-- How much text a pipe may have. Someone who waits for text takes it away. -/
def capacityOf (t : Schedule) (pipe : Nat) : Nat :=
  if t.processes.any (·.awaitsText pipe) then 2 ^ 23 else 65536

/-- The time at which a process can go on, and the answer that it gets, if it can go on. -/
def chance? (t : Schedule) (p : Process) : Option (Nat × Bool) :=
  let w := t.world
  let now := some (max p.readyAt w.clock, true)
  if p.isStopped then none
  else
    match p.awaited with
    | .fork | .turn | .exit _ => some (max p.readyAt w.clock, false)
    | .sleep time => some (max time w.clock, true)
    | .ending q limit heeds =>
      if (w.ended.lookup q).isSome then now
      else if heeds && w.signals.any (·.1 = p.number) then some (max p.readyAt w.clock, false)
      else limit.map fun time => (max time w.clock, false)
    | .text n amount _ =>
      let isOpen := t.anyEnd n FileUse.writes
      if !isOpen || amount ≤ t.sizeOf n then some (max p.readyAt w.clock, isOpen) else none
    | .room n amount =>
      if !t.anyEnd n FileUse.reads then some (max p.readyAt w.clock, false)
      else if t.sizeOf n + amount ≤ t.capacityOf n then now
      else none
    | .closed n =>
      if t.processes.any fun q => q.number ≠ p.number && q.channels.contains n then none else now
    | .partner n use =>
      let isOther := if use.reads then FileUse.writes else FileUse.reads
      if p.isMet || use = .both || t.anyEnd n isOther then now else none
    | .never => none

/-- How long all must rest before a process gets less text than it has asked for. -/
def restTime : Nat := 1000

/-- The first process that waits for text and has some that it has not seen, while all rest. -/
def resting? (t : Schedule) : Option Process :=
  t.processes.find? fun p => !p.isStopped && match p.awaited with
    | .text n _ seen => seen < t.sizeOf n
    | _ => false

/-- The process whose turn it is, the time and the answer; and the time of the one behind it. -/
def first? (t : Schedule) : Option (Process × Nat × Bool × Option Nat) :=
  let chances := t.processes.filterMap fun p => (t.chance? p).map fun c => (p, c)
  let best := chances.foldl (fun best c => match best with
    | some b => if c.2.1 < b.2.1 then some c else some b
    | none => some c) (none : Option (Process × Nat × Bool))
  let isQuiet := best.all fun (_, time, _) => t.world.clock + restTime < time
  match best, (if isQuiet then t.resting? else none) with
  | _, some p => some (p, max p.readyAt t.world.clock, true, best.map (·.2.1))
  | some (p, time, answer), none =>
    let others := chances.filterMap fun c =>
      if c.1.number = p.number then none else some c.2.1
    some (p, time, answer, others.min?)
  | none, none => none

/-! ### Signals -/

/-- Without a process, which has ended. -/
def finish (t : Schedule) (number : Nat) (ending : Ending) : Schedule :=
  { world := { t.world with ended := (number, ending) :: t.world.ended }
    processes := t.processes.filter (·.number ≠ number) }

/-- With a process changed. -/
def change (t : Schedule) (number : Nat) (f : Process → Process) : Schedule :=
  { t with processes := t.processes.map fun p => if p.number = number then f p else p }

/-- Lets a signal reach a process, unless it has to wait for that. -/
def deliver (t : Schedule) (number signal : Nat) : Schedule :=
  let t := if signal = 18 then t.change number ({ · with isStopped := false }) else t
  let keep : Schedule :=
    { t with world := { t.world with signals := t.world.signals ++ [(number, signal)] } }
  match t.processes.find? (·.number = number) with
  | none => t
  | some p =>
    let isSure := signal = 9 || signal = 19
    match (if isSure then none else p.shell.traps.lookup signal), fateOf signal with
    | some [], _ | none, .goesOn => t
    | some _, _ => keep
    | none, .stops => t.change number ({ · with isStopped := true })
    | none, .ends => if p.isStopped && !isSure then keep else t.finish number (.killed signal)

/-- Lets all signals reach their processes. -/
def deliverAll (t : Schedule) : Schedule :=
  t.world.signals.foldl (fun t (number, signal) => t.deliver number signal)
    { t with world := { t.world with signals := [] } }

/-! ### Turns -/

/-- How long it takes before a new process begins, in microseconds. -/
def startTime : Nat := 300

/-- The schedule after a process has come to a step. -/
def settle (others : List Process) (p : Process) :
    Course Machine Wish (Except Stop Ending) → Schedule
  | .done outcome m =>
    let ending := match outcome with
      | .ok ending => ending
      | .error (.killed signal) => .killed signal
      | .error _ => .exited (m.shell.status % 256)
    finish ⟨m.world, others⟩ p.number ending
  | .asks r m next =>
    let q := { p with
      shell := m.shell, readyAt := m.world.clock, awaited := r, isMet := false, next }
    match r with
    | .exit ending => finish ⟨m.world, others⟩ p.number ending
    | .fork =>
      let child := { q with
        number := m.world.lastProcess
        readyAt := m.world.clock + startTime
        next := fun _ => next true }
      ⟨m.world, q :: (others ++ [child])⟩
    | .partner n _ =>
      let isFree := !(Schedule.mk m.world others).anyEnd n fun _ => true
      let w := if isFree then { m.world with pipes := m.world.pipes.modify n fun _ => {} }
        else m.world
      ⟨w, others ++ [q]⟩
    | _ => ⟨m.world, others ++ [q]⟩

/-- Lets a process go on at a time, with an answer. -/
def resume (t : Schedule) (p : Process) (time : Nat) (answer : Bool) (horizon : Option Nat) :
    Schedule :=
  let others := t.processes.filter (·.number ≠ p.number)
  let others := match p.awaited with
    | .partner n use => others.map fun q => match q.awaited with
      | .partner m other => if m = n && other ≠ use then { q with isMet := true } else q
      | _ => q
    | _ => others
  let pipes := match p.awaited with
    | .room n _ => t.world.pipes.modify n ({ · with capacity := t.capacityOf n })
    | _ => t.world.pipes
  let w := { t.world with
    clock := time, horizon, pipes, others := others.map fun q => (q.number, q.shell.group) }
  (settle others p (p.next answer ⟨w, p.shell⟩)).deliverAll

/-- Lets processes go on until something is reached, or nothing can go on before a time limit.
Tells whether it is reached. -/
def run (limit : Option Nat) (isOver : Schedule → Bool) : (room : Nat) → Schedule →
    Schedule × Bool
  | 0, t => (t, false)
  | room + 1, t =>
    if isOver t then (t, true)
    else
      match t.first? with
      | none => (t, false)
      | some (p, time, answer, horizon) =>
        if limit.any (· ≤ time) then (t, false)
        else run limit isOver room (t.resume p time answer horizon)

end Schedule

end ParserConformance.Script
