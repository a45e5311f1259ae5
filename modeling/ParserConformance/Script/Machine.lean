import ParserConformance.Files.Disk
import ParserConformance.Parser.Host
import ParserConformance.Script.Reader
import ParserConformance.Script.Resumption

/-!
# Machines that run scripts

A machine is a world, which all processes share, and the shell that is at work. The world has the
disk, the channels and pipes through which processes read and write, and a clock. A shell has its
variables, its functions and where its streams lead. Most actions change both; some of them stop
the shell, and some ask for something that only others can give.
-/

namespace ParserConformance.Script

/-- Bytes as the characters of their numbers. -/
def ofBytes (bytes : List UInt8) : List Char := bytes.map fun b => Char.ofNat b.toNat

/-- The bytes of such characters. -/
def toBytes (cs : List Char) : List UInt8 := cs.map fun c => UInt8.ofNat c.toNat

/-- The bytes of a text as characters. -/
def ofText (s : String) : List Char := ofBytes (Text.encode s)

/-- The text that such characters write. -/
def toText (cs : List Char) : String := Text.decodeLossy (toBytes cs)

/-- The path that such characters write. -/
def pathOfChars (cs : List Char) : Path := ⟨toText cs⟩

/-- How a process ends. -/
abbrev Ending := Program.Ending

/-- The status by which a shell knows an ending. -/
def Ending.status : Ending → Nat
  | .exited status => status
  | .killed signal => 128 + signal

/-- What is behind a stream. -/
inductive Channel where
  /-- A text that can be read. -/
  | source (rest : List Char)
  /-- A place that takes what is written, the last piece first. -/
  | sink (reversed : List (List Char))
  /-- The file of a number from a position on. -/
  | file (number : Nat) (position : Nat) (use : FileUse)
  /-- An end of the pipe of a number. -/
  | pipe (number : Nat) (use : FileUse)
  /-- A device without end. -/
  | device (kind : Special)
  /-- Nothing to read, and nobody who reads. -/
  | nothing
  deriving Repr

/-- A pipe. -/
structure Pipe where
  /-- The text at its front. -/
  front : List Char := []
  /-- The text behind that, the last piece first. -/
  back : List (List Char) := []
  /-- How long all of it is. -/
  size : Nat := 0
  /-- How long it may be before those who write to it must wait. -/
  capacity : Nat := 65536
  deriving Repr

/-- With a text added. -/
def Pipe.add (p : Pipe) (cs : List Char) : Pipe :=
  { p with back := cs :: p.back, size := p.size + cs.length }

/-- All of its text. -/
def Pipe.text (p : Pipe) : List Char :=
  if p.back.isEmpty then p.front else p.front ++ p.back.reverse.flatten

/-- Without some of the text at its front. -/
def Pipe.drop (p : Pipe) (count : Nat) : Pipe :=
  { p with front := p.text.drop count, back := [], size := p.size - count }

/-- What all processes share. -/
structure World where
  /-- The disk. -/
  disk : Disk
  /-- The channels by number. -/
  channels : Array Channel
  /-- The pipes by number. -/
  pipes : Array Pipe
  /-- The pipes that files are, as far as they have been opened. -/
  pipeFiles : List (Location × Nat)
  /-- The time since all of it began, in microseconds. -/
  clock : Nat
  /-- The time up to which the process at work can go on before it is another one's turn. -/
  horizon : Option Nat
  /-- The time at which it began, as disks tell it. -/
  startedAt : Nat
  /-- The documents of all scripts by number. -/
  documents : List (Nat × Word)
  /-- The number of the next document. -/
  nextDocument : Nat
  /-- The number of the process that was started last. -/
  lastProcess : Nat
  /-- The processes that there are, the one at work aside, and the groups they belong to. -/
  others : List (Nat × Nat)
  /-- The processes that have ended, the last one first, and how. -/
  ended : List (Nat × Ending)
  /-- The signals that were sent to processes and have not reached them. -/
  signals : List (Nat × Nat)

/-- A variable. -/
structure Variable where
  /-- Its value, if it is set. -/
  value : Option (List Char)
  /-- Whether programs get to see it. -/
  isExported : Bool
  /-- Whether it cannot be changed. -/
  isReadonly : Bool
  deriving DecidableEq, Repr

/-- What a shell passes over on its way out of loops and functions. -/
inductive Skipping where
  /-- Nothing. -/
  | nothing
  /-- What is left of this many loops. -/
  | toBreak (loops : Nat)
  /-- What is left of the round of the last of this many loops. -/
  | toContinue (loops : Nat)
  /-- What is left of a function or a file. -/
  | toReturn
  deriving DecidableEq, Repr

/-- A command that nobody waits for. -/
structure Job where
  /-- The numbers of its processes, the last one first. -/
  processes : List Nat
  deriving DecidableEq, Repr

/-- The number by which it is called. -/
def Job.process (j : Job) : Nat := j.processes.headD 0

/-- What a function is to leave as it was. -/
structure Kept where
  /-- The variables. -/
  bindings : List (List Char × Option Variable) := []
  /-- The letters of the options, if they are to be left as they were. -/
  options : Option (List Char) := none
  deriving DecidableEq, Repr

/-- A shell. -/
structure Shell where
  /-- The number of its process. -/
  process : Nat
  /-- The number by which it knows itself. -/
  identity : Nat
  /-- The number of the group of its process. -/
  group : Nat
  /-- Its name. -/
  name : List Char
  /-- Its arguments. -/
  arguments : List (List Char)
  /-- Its variables. -/
  bindings : List (List Char × Variable)
  /-- Its functions. -/
  functions : List (List Char × Command)
  /-- The channels of its streams. -/
  streams : List (Nat × Nat)
  /-- Further channels that it keeps open. -/
  held : List Nat
  /-- Its working directory. -/
  directory : Location
  /-- The status of the last command. -/
  status : Nat
  /-- The status of the last commands whose output it has taken into a word. -/
  captured : Nat
  /-- The letters of its options. -/
  options : List Char
  /-- The commands that it runs on signals; zero stands for its end. -/
  traps : List (Nat × List Char)
  /-- The line of the command that it is at. -/
  line : Nat
  /-- The line up to which its script has been read. -/
  ahead : Nat
  /-- The command of its own that is at work. -/
  command : Option (List Char)
  /-- Whether something could not be written to its output. -/
  isBroken : Bool
  /-- The status with which it ends unless another one is given, while it runs the commands that
  it runs at its end or on a signal. -/
  leaving : Option Nat
  /-- What it passes over. -/
  skipping : Skipping
  /-- How many loops it is in. -/
  loops : Nat
  /-- How many calls of functions it is in. -/
  calls : Nat
  /-- What is to be put back when functions end. -/
  saved : List Kept
  /-- The commands that nobody waits for, the last one first. -/
  jobs : List Job
  /-- The process of the last one of those that there have been. -/
  lastJob : Option Nat
  /-- How many letters of an argument `getopts` has read. -/
  lettersRead : Nat
  /-- The names that stand for other words. -/
  aliases : List (List Char × List Char)
  /-- The bits that new files do not get. -/
  mask : Nat
  /-- The variables of a program that is no shell, if it does not just see those that a shell
  gives to programs. -/
  surroundings : Option (List (List Char × List Char))

/-- A world and the shell at work. -/
structure Machine where
  /-- The world. -/
  world : World
  /-- The shell. -/
  shell : Shell

/-- Why a shell stops. -/
inductive Stop where
  /-- It ends with the status of its last command. -/
  | ends
  /-- It gives up over an error. -/
  | gaveUp
  /-- A signal ends it. -/
  | killed (signal : Nat)
  deriving DecidableEq, Repr

/-- What a process can wish for. -/
inductive Wish where
  /-- That another process goes on from here too. The answer tells the new one from the old. -/
  | fork
  /-- To end. There is no answer. -/
  | exit (ending : Ending)
  /-- That others go on whose turn it is. -/
  | turn
  /-- To sleep until a time. -/
  | sleep (time : Nat)
  /-- The end of a process, which may be waited for up to a time, or until a signal comes that the
  process has plans for. The answer tells whether the end has come. -/
  | ending (process : Nat) (limit : Option Nat) (heedsSignals : Bool)
  /-- That so much text is in a pipe, or at least more than so much while all others rest. The
  answer tells whether there may be more. -/
  | text (pipe : Nat) (amount seen : Nat)
  /-- That there is room for so much text in a pipe. The answer tells whether anybody reads. -/
  | room (pipe : Nat) (amount : Nat)
  /-- That no other process holds a channel. -/
  | closed (channel : Nat)
  /-- That somebody has opened the other end of a pipe. -/
  | partner (pipe : Nat) (use : FileUse)
  /-- Nothing that could ever be given. -/
  | never
  deriving DecidableEq, Repr

/-- An action of a shell. -/
abbrev Act := ExceptT Stop (Resumption Machine Wish)

namespace Act

/-- The shell at work. -/
def shell : Act Shell := do return (← get).shell

/-- The world. -/
def world : Act World := do return (← get).world

/-- Changes the shell. -/
def changeShell (f : Shell → Shell) : Act Unit := modify fun m => { m with shell := f m.shell }

/-- Changes the world. -/
def changeWorld (f : World → World) : Act Unit := modify fun m => { m with world := f m.world }

/-- The disk as the shell sees it. -/
def disk : Act Disk := do
  let m ← get
  let w := m.world
  return { w.disk with here := m.shell.directory, now := w.startedAt + w.clock }

/-- Asks for something. -/
def ask (w : Wish) : Act Bool := ExceptT.lift (Resumption.ask w)

/-- Changes the disk. -/
def changeDisk (f : Disk → Disk) : Act Unit := do
  let d := f (← disk)
  changeWorld fun w => { w with disk := { d with here := w.disk.here } }

/-! ### Channels -/

/-- Adds a channel. -/
def addChannel (c : Channel) : Act Nat := do
  let n := (← world).channels.size
  changeWorld fun w => { w with channels := w.channels.push c }
  return n

/-- Adds a pipe. Gives the channel from which it is read and the one to which it is written. -/
def addPipe : Act (Nat × Nat) := do
  let n := (← world).pipes.size
  changeWorld fun w => { w with pipes := w.pipes.push {} }
  return (← addChannel (.pipe n .read), ← addChannel (.pipe n .write))

/-- Puts another channel in the place of one. -/
def setChannel (n : Nat) (c : Channel) : Act Unit :=
  changeWorld fun w => { w with channels := w.channels.set! n c }

/-- The channel of a stream, and its number. -/
def channel? (stream : Nat) : Act (Option (Nat × Channel)) := do
  let m ← get
  return do
    let n ← m.shell.streams.lookup stream
    return (n, ← m.world.channels[n]?)

/-- Changes a pipe. -/
def changePipe (n : Nat) (f : Pipe → Pipe) : Act Unit :=
  changeWorld fun w => { w with pipes := w.pipes.modify n f }

/-- How much is written to a pipe at once, or not at all. -/
def wholePiece : Nat := 4096

/-- How often a text may have to wait for room in a pipe. -/
def pipeRounds : Nat := 10 ^ 9

/-- Writes to a pipe as there is room, and says whether that is possible. Where nobody reads a
signal ends the process, unless it ignores that. -/
def writeToPipe (n : Nat) : (room : Nat) → List Char → Act Bool
  | 0, _ => return false
  | _ + 1, [] => return true
  | room + 1, c :: cs => do
    let text := c :: cs
    if ← ask (.room n (min text.length wholePiece)) then
      let free := ((← world).pipes[n]?).elim 0 fun p => p.capacity - p.size
      changePipe n (·.add (text.take free))
      writeToPipe n room (text.drop free)
    else
      match (← shell).traps.lookup 13 with
      | some [] => return false
      | _ => throw (.killed 13)

/-- Writes to a channel and says whether that is possible. -/
def writeTo (n : Nat) (c : Channel) (cs : List Char) : Act Bool := do
  match c with
  | .source _ => return cs.isEmpty
  | .nothing => return true
  | .device kind => return kind ≠ .full
  | .sink reversed =>
    setChannel n (.sink (cs :: reversed))
    return true
  | .pipe number use =>
    if use = .read then return cs.isEmpty else writeToPipe number pipeRounds cs
  | .file number position use =>
    if use = .read then return cs.isEmpty
    else
      let old := (← world).disk.contentOf number
      let start := if use = .append then old.length else position
      let gap := List.replicate (start - old.length) 0
      let new := old.take start ++ gap ++ toBytes cs ++ old.drop (start + cs.length)
      if !cs.isEmpty then changeDisk fun d => d.setContentOf number new
      setChannel n (.file number (start + cs.length) use)
      return true

/-- Writes to a stream and says whether that is possible. -/
def write (stream : Nat) (cs : List Char) : Act Bool := do
  match ← channel? stream with
  | some (n, c) => writeTo n c cs
  | none => return cs.isEmpty

/-- Writes to the output. -/
def say (cs : List Char) : Act Unit := do
  if !(← write 1 cs) then changeShell fun sh => { sh with isBroken := true }

/-- Whether a channel can be read. -/
def isReadable : Channel → Bool
  | .source _ | .nothing | .device _ => true
  | .file _ _ use | .pipe _ use => use = .read || use = .both
  | .sink _ => false

/-- The pipe that is read from a stream, if one is. -/
def pipeBehind? (stream : Nat) : Act (Option Nat) := do
  match ← channel? stream with
  | some (_, .pipe number use) => return if use = .read || use = .both then some number else none
  | _ => return none

/-- What a stream has to read now; nothing if it cannot be read. -/
def ready? (stream : Nat) : Act (Option (List Char)) := do
  let w ← world
  match ← channel? stream with
  | some (_, c) =>
    if !isReadable c then return none
    else
      match c with
      | .source rest => return some rest
      | .device kind => return (w.disk.readSpecial kind).toOption.map ofBytes
      | .file number position _ => return some (ofBytes ((w.disk.contentOf number).drop position))
      | .pipe number _ => return (w.pipes[number]?).map (·.text)
      | _ => return some []
  | none => return none

/-- More text than any pipe holds. -/
def wholeText : Nat := 10 ^ 15

/-- All that is left to read from a stream; nothing if it cannot be read. A pipe is read when all
have been closed that could be written to. -/
def rest? (stream : Nat) : Act (Option (List Char)) := do
  if let some n ← pipeBehind? stream then
    let _ ← ask (.text n wholeText wholeText)
  ready? stream

/-- Passes over what was read from a stream. -/
def consume (stream count : Nat) : Act Unit := do
  match ← channel? stream with
  | some (n, .source rest) => setChannel n (.source (rest.drop count))
  | some (n, .file number position use) => setChannel n (.file number (position + count) use)
  | some (_, .pipe number _) =>
    if count ≠ 0 then changePipe number (·.drop count)
  | _ => return ()

/-- The file that a stream leads to, if it leads to one. -/
def fileBehind? (stream : Nat) : Act (Option Nat) := do
  match ← channel? stream with
  | some (_, .file number _ _) => return some number
  | _ => return none

/-- The place of the file that the input comes from, if it comes from one. -/
def inputFile? : Act (Option Location) := do
  let d ← disk
  return (← fileBehind? 0).bind fun n => (d.numbers.find? (·.2 = n)).map (·.1)

/-- What was written to a channel that takes all. -/
def collected (n : Nat) : Act (List Char) := do
  match (← world).channels[n]? with
  | some (.sink reversed) => return reversed.reverse.flatten
  | _ => return []

/-- Lets a stream lead to a channel. -/
def connect (stream n : Nat) : Act Unit :=
  changeShell fun sh => { sh with streams := (stream, n) :: sh.streams.filter (·.1 ≠ stream) }

/-- Closes a stream. -/
def disconnect (stream : Nat) : Act Unit :=
  changeShell fun sh => { sh with streams := sh.streams.filter (·.1 ≠ stream) }

/-! ### Complaints -/

/-- Writes a complaint: the name of the shell, the line, and the command of its own that is at
work. -/
def complain (text : List Char) : Act Unit := do
  let sh ← shell
  let command := match sh.command with
    | some c => c ++ ": ".toList
    | none => []
  let _ ← write 2 (sh.name ++ ": ".toList ++ digitsOf sh.line ++ ": ".toList ++ command ++ text
    ++ ['\n'])

/-- Complains and gives up. -/
def fail {α : Type} (text : List Char) : Act α := do
  complain text
  changeShell fun sh => { sh with status := 2 }
  throw .gaveUp

/-! ### Variables -/

/-- Whether an option is on. -/
def isOn (option : Char) : Act Bool := do return (← shell).options.contains option

/-- A variable. -/
def binding? (name : List Char) : Act (Option Variable) := do
  return (← shell).bindings.lookup name

/-- The value of a variable. -/
def lookup (name : List Char) : Act (Option (List Char)) := do
  return (← binding? name).bind (·.value)

/-- Puts a variable in place. A new one stands behind all others. -/
def putVariable (name : List Char) (v : Option Variable) : Act Unit :=
  changeShell fun sh =>
    { sh with bindings := match v with
      | some v =>
        if sh.bindings.any (·.1 = name) then
          sh.bindings.map fun old => if old.1 = name then (name, v) else old
        else sh.bindings ++ [(name, v)]
      | none => sh.bindings.filter (·.1 ≠ name) }

/-- Gives a variable a value. -/
def assign (name value : List Char) : Act Unit := do
  let old := (← binding? name).getD ⟨none, false, false⟩
  if old.isReadonly then fail (name ++ ": is read only".toList)
  let exports ← isOn 'a'
  if name = "OPTIND".toList then changeShell fun sh => { sh with lettersRead := 0 }
  putVariable name (some ⟨some value, old.isExported || exports, false⟩)

/-- Keeps a variable to be put back when the function ends. -/
def keep (name : List Char) : Act Unit := do
  let old ← binding? name
  changeShell fun sh =>
    match sh.saved with
    | [] => sh
    | kept :: outer =>
      if kept.bindings.any (·.1 = name) then sh
      else { sh with saved := { kept with bindings := (name, old) :: kept.bindings } :: outer }

/-- Keeps the options to be put back when the function ends. -/
def keepOptions : Act Unit :=
  changeShell fun sh =>
    match sh.saved with
    | [] => sh
    | kept :: outer =>
      { sh with saved := { kept with options := kept.options <|> some sh.options } :: outer }

/-- Puts back what the last function has kept. -/
def putBackSaved : Act Unit := do
  match (← shell).saved with
  | [] => return ()
  | kept :: outer =>
    changeShell fun sh => { sh with saved := outer, options := kept.options.getD sh.options }
    kept.bindings.forM fun (name, old) => putVariable name old

/-- The characters that part fields. -/
def separators : Act (List Char) := do
  return (← lookup "IFS".toList).getD " \t\n".toList

/-! ### Attempts -/

/-- What an action comes to, even if it stops the shell. -/
def attempt {α : Type} (a : Act α) : Act (Except Stop α) :=
  tryCatch (do return .ok (← a)) fun stop => return .error stop

/-- An action and what has to be put right after it in any case. -/
def andThen {α : Type} (a : Act α) (afterwards : Act Unit) : Act α := do
  match ← attempt a with
  | .ok x =>
    afterwards
    return x
  | .error stop =>
    afterwards
    throw stop

/-- Sets the status of the last command. -/
def setStatus (status : Nat) : Act Unit := changeShell fun sh => { sh with status }

/-- Sets the line of the command at work. -/
def setLine (line : Nat) : Act Unit := changeShell fun sh => { sh with line }

/-! ### Processes -/

/-- Does nothing any more. -/
def never {α : Type} : Act α := do
  let _ ← ask .never
  throw .ends

/-- Ends the process. -/
def exit {α : Type} (ending : Ending) : Act α := do
  let _ ← ask (.exit ending)
  throw .ends

/-- Starts a process, to which the shell at work is copied. Gives its number. -/
def spawn (body : Act Ending) : Act Nat := do
  changeWorld fun w => { w with lastProcess := w.lastProcess + 1 }
  let process := (← world).lastProcess
  if ← ask .fork then
    changeShell fun sh => { sh with process, held := [] }
    match ← attempt body with
    | .ok ending => exit ending
    | .error (.killed signal) => exit (.killed signal)
    | .error _ => exit (.exited ((← shell).status % 256))
  else return process

/-- How a process has ended; it is known that it has. -/
def endingOf (process : Nat) : Act Ending := do
  return ((← world).ended.lookup process).getD (.exited 127)

/-- Waits for a process to end. -/
def await (process : Nat) : Act Ending := do
  let _ ← ask (.ending process none false)
  endingOf process

/-- Runs an action in a process of its own, to which the shell at work is copied. -/
def inProcess (body : Act Ending) : Act Ending := do await (← spawn body)

/-- Lets time pass that is needed for work, in microseconds. -/
def spend (time : Nat) : Act Unit := do
  changeWorld fun w => { w with clock := w.clock + time }
  let w ← world
  if w.horizon.any (· < w.clock) then
    let _ ← ask .turn

/-- Sleeps for a time, in microseconds. -/
def sleep (time : Nat) : Act Unit := do
  if time ≠ 0 then
    let _ ← ask (.sleep ((← world).clock + time))

/-- Carries out an action with the streams put back after it. -/
def keepingStreams {α : Type} (a : Act α) : Act α := do
  let sh ← shell
  changeShell fun s => { s with held := s.streams.map (·.2) ++ s.held }
  andThen a (changeShell fun s => { s with streams := sh.streams, held := sh.held })

end Act

end ParserConformance.Script
