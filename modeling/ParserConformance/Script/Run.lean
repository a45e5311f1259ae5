import ParserConformance.Script.Schedule
import ParserConformance.Script.Start

/-!
# Running commands

A command is run by the shell at work, part by part. What its parts call (functions, texts of
commands, programs) is run one level deeper, and there are only so many levels. At the end stands
`execute`, which runs a program on a disk.
-/

namespace ParserConformance.Script

namespace Engine

variable (deeper : Engine)

/-! ### Commands by name -/

/-- Describes what a word means as the name of a command. -/
def describe (isLong : Bool) (name : List Char) : Act Nat := do
  let sh ← Act.shell
  let text := String.ofList name
  let tell (short : List Char) (long : String) : Act Nat := do
    Act.say ((if isLong then name ++ long.toList else short) ++ ['\n'])
    return 0
  if keywords.contains text then tell name " is a shell keyword"
  else
    match sh.aliases.lookup name with
    | some value =>
      tell ("alias ".toList ++ name ++ '=' :: Builtin.singleQuoted value)
        (" is an alias for " ++ String.ofList value)
    | none =>
      if (sh.functions.lookup name).isSome then tell name " is a shell function"
      else if specialBuiltins.contains text then tell name " is a special shell builtin"
      else if (builtin? name).isSome || text = "command" || text = "type" then
        tell name " is a shell builtin"
      else
        match ← Act.program? name with
        | some path => tell path (" is " ++ String.ofList path)
        | none =>
          if isLong then Act.say (name ++ ": not found\n".toList)
          return 127

/-- Describes what words mean as the names of commands. -/
def describeAll (isLong : Bool) (names : List (List Char)) : Act Nat := do
  let mut status := 0
  for name in names do
    let s ← describe isLong name
    if s ≠ 0 then status := s
  return status

/-- Runs its arguments as a text of commands. -/
def eval : Builtin := fun args => deeper.runText ([' '].intercalate args)

/-- Runs the commands in a file. -/
def source : Builtin := fun args => do
  match (← Builtin.letters [] [] args).2 with
  | [] => return 0
  | name :: _ =>
    let d ← Act.disk
    let directories := (← Act.lookup "PATH".toList).getD []
    let path ← if name.contains '/' then pure name
      else
        match (candidates directories name).find? fun p => d.isFile (pathOfChars p) with
        | some path => pure path
        | none => Act.fail (name ++ ": not found".toList)
    let n ← Act.openForReading path
    Act.changeShell fun sh => { sh with command := some path }
    let status ← deeper.runText (← Act.textBehind n)
    if (← Act.shell).skipping = .toReturn then
      Act.changeShell fun sh => { sh with skipping := .nothing }
    return status

/-- Puts a program in the place of the shell. -/
def exec : Builtin := fun args => do
  match (← Builtin.letters [] [] args).2 with
  | [] => return 0
  | call =>
    match ← deeper.startCalled call with
    | .killed signal => throw (.killed signal)
    | .exited status =>
      Act.changeShell fun sh => { sh with status, traps := [] }
      throw .ends

/-- Describes commands; the running of commands is not left to it. -/
def command : Builtin := fun args => do
  let (options, names) ← Builtin.letters ['p', 'v', 'V'] [] args
  match options.getLast? with
  | some ('v', _) => describeAll false (names.take 1)
  | some ('V', _) => describeAll true (names.take 1)
  | _ => return 0

/-- The command of the shell's own that a name calls. -/
def builtin? (name : List Char) : Option Builtin :=
  match String.ofList name with
  | "eval" => some deeper.eval
  | "." => some deeper.source
  | "exec" => some deeper.exec
  | "command" => some command
  | "type" => some (describeAll true)
  | _ => Script.builtin? name

/-- What the name of a command means. -/
inductive Meaning where
  /-- There is no name. -/
  | nothing
  /-- A command of the shell's own; some of those are special. -/
  | builtin (isSpecial : Bool) (action : Builtin)
  /-- A function. -/
  | function (body : Command)
  /-- A program. -/
  | program

/-- What the first word of a command means. Functions may be passed over. -/
def meaningOf (skipsFunctions : Bool) (call : List (List Char)) : Act Meaning := do
  match call with
  | [] => return .nothing
  | name :: _ =>
    let isSpecial := specialBuiltins.contains (String.ofList name) || name = "local".toList
    match (← Act.shell).functions.lookup name, deeper.builtin? name with
    | some body, b =>
      if skipsFunctions || isSpecial then
        return b.elim .program (.builtin (isSpecial && !skipsFunctions))
      else return .function body
    | none, some b => return .builtin (isSpecial && !skipsFunctions) b
    | none, none => return .program

/-- A call without a `command` before it that wants it run, and whether there was one. -/
def withoutCommand : List (List Char) → Bool × List (List Char)
  | [] => (false, [])
  | [word] => (false, [word])
  | word :: next :: rest =>
    if word ≠ "command".toList then (false, word :: next :: rest)
    else if next = ['-', 'p'] || next = ['-', '-'] then
      if rest.isEmpty then (false, word :: next :: rest) else (true, (withoutCommand rest).2)
    else if next.head? = some '-' && 1 < next.length then (false, word :: next :: rest)
    else (true, (withoutCommand (next :: rest)).2)

/-! ### Simple commands -/

/-- The fields of the words of a command. Behind some names assignments are not parted. -/
def expandCall (words : List Word) : Act (List (List Char)) := do
  go [] words
where
  /-- Goes on with the fields so far. -/
  go (sofar : List (List Char)) : List Word → Act (List (List Char))
    | [] => return sofar
    | w :: ws => do
      let declares := ["export", "readonly", "local", "alias"].any fun name =>
        (withoutCommand sofar).2.head? = some name.toList
      match declares, assignment? w with
      | true, some (name, value) =>
        let text ← expandValue deeper.capture value
        go (sofar ++ [name ++ '=' :: text]) ws
      | _, _ =>
        let fields ← expandFields deeper.capture w
        go (sofar ++ fields) ws

/-- Runs a command of the shell's own. -/
def runBuiltin (isSpecial : Bool) (action : Builtin) (call : List (List Char)) : Act Unit := do
  let name := call.headD []
  let sh ← Act.shell
  Act.changeShell fun s => { s with command := some name, isBroken := false }
  let outcome ← Act.attempt (action (call.drop 1))
  let isBroken := (← Act.shell).isBroken
  if isBroken then Act.complain (name ++ ": I/O error".toList)
  Act.changeShell fun s => { s with command := sh.command, isBroken := sh.isBroken }
  match outcome with
  | .ok status => Act.setStatus (if isBroken then status ||| 1 else status)
  | .error .gaveUp => if isSpecial then throw .gaveUp
  | .error stop => throw stop

/-- How many calls of functions a shell may be in. -/
def callLimit : Nat := 1000

/-- Runs a function. -/
def runFunction (isTested : Bool) (body : Command) (args : List (List Char)) : Act Unit := do
  let sh ← Act.shell
  if callLimit ≤ sh.calls then
    Act.fail ("Maximum function recursion depth (".toList ++ digitsOf callLimit
      ++ ") reached".toList)
  let index ← Act.binding? "OPTIND".toList
  Act.putVariable "OPTIND".toList (some ⟨some ['1'], false, false⟩)
  Act.changeShell fun s =>
    { s with arguments := args, loops := 0, calls := s.calls + 1, lettersRead := 0 }
  Act.andThen (deeper.run isTested false body) do
    Act.putVariable "OPTIND".toList index
    Act.changeShell fun s => { s with
      arguments := sh.arguments
      loops := sh.loops
      calls := sh.calls
      lettersRead := sh.lettersRead
      skipping := if s.skipping = .toReturn then .nothing else s.skipping }

/-- Whether the shell has plans for signals or for its end. -/
def hasPlans : Act Bool := do return (← Act.shell).traps.any (!·.2.isEmpty)

/-- Runs a program in a process of its own and waits for it, or in the place of the shell if that
does nothing else. -/
def runProgram (isLast : Bool) (call : List (List Char)) : Act Unit := do
  let start : Act Ending := do
    match ← Act.attempt (deeper.startCalled call) with
    | .ok ending => return ending
    | .error (.killed signal) => return .killed signal
    | .error _ =>
      let status := (← Act.shell).status
      return .exited (if (call.headD []).contains '/' then status else 127)
  if isLast && !(← hasPlans) then Act.exit (← start)
  else Act.setStatus (← waitedFor (← Act.inProcess start))

/-- Gives variables the values that words make. With `isPassing` they are kept to be put back,
and programs see them. -/
def assignAll (isPassing exports : Bool) :
    List (List Char × Word) → Act (List (List Char × List Char))
  | [] => return []
  | (name, w) :: rest => do
    let value ← expandValue deeper.capture w
    if isPassing then Act.keep name
    Act.assign name value
    if isPassing || exports then
      let v := (← Act.binding? name).getD ⟨some value, false, false⟩
      Act.putVariable name (some { v with isExported := true })
    return (name, value) :: (← assignAll isPassing exports rest)

/-- What stands in front of commands that are shown. It is expanded without showing commands. -/
def traceFront : Act (List Char) := do
  let text := (← Act.lookup "PS4".toList).getD []
  match readAsDocument text with
  | .error fault =>
    let sh ← Act.shell
    let _ ← Act.write 2 (sh.name ++ ": ".toList ++ digitsOf fault.line ++
      ": Syntax error: ".toList ++ fault.text.toList ++ ['\n'])
    return text
  | .ok w =>
    let sh ← Act.shell
    Act.changeShell fun s => { s with options := s.options.filter (· ≠ 'x') }
    Act.andThen (expandText deeper.capture w) do
      Act.changeShell fun s =>
        { s with options := sh.options, status := sh.status, captured := sh.captured }

/-- Shows a command before it is run, where the errors went before its redirections. -/
def trace (streams : List (Nat × Nat)) (assigned : List (List Char × List Char))
    (call : List (List Char)) : Act Unit := do
  if ← Act.isOn 'x' then
    let words := assigned.map (fun (name, value) => name ++ '=' :: value) ++ call
    let start ← deeper.traceFront
    let sh ← Act.shell
    Act.changeShell fun s => { s with streams }
    let _ ← Act.write 2 (start ++ [' '].intercalate words ++ ['\n'])
    Act.changeShell fun s => { s with streams := sh.streams }

/-- Runs a simple command: its words are expanded first, then its redirections and assignments
are carried out. Redirections stay only if `exec` has no program to run. -/
def runSimple (isTested isLast : Bool) (line : Nat) (assignments : List (List Char × Word))
    (words : List Word) (redirections : List Redirection) : Act Unit := do
  Act.changeShell fun sh => { sh with line, captured := 0 }
  let (isCommand, call) := withoutCommand (← deeper.expandCall words)
  let meaning ← deeper.meaningOf isCommand call
  let streams := (← Act.shell).streams
  let targets ← redirections.mapM (expandRedirection deeper.capture)
  let isSpecial := match meaning with
    | .builtin isSpecial _ => isSpecial
    | _ => false
  let isExec := call.head? = some "exec".toList
  let held := (← Act.shell).held
  let putBack (isAll : Bool) : Act Unit := Act.changeShell fun sh =>
    { sh with held, streams := if isAll then streams else sh.streams }
  if !redirections.isEmpty then
    Act.changeShell fun sh => { sh with held := streams.map (·.2) ++ held }
  match ← Act.attempt (Act.sendAll targets) with
  | .error .gaveUp =>
    putBack true
    if isSpecial then throw .gaveUp
  | .error stop => throw stop
  | .ok () =>
    let isPassing := match meaning with
      | .nothing => false
      | .builtin isSpecial _ => !isSpecial
      | _ => true
    if isPassing then Act.changeShell fun sh => { sh with saved := {} :: sh.saved }
    Act.andThen (do
      let assigned ← deeper.assignAll isPassing (isExec && 1 < call.length) assignments
      deeper.trace streams assigned call
      match meaning with
      | .nothing => Act.setStatus (← Act.shell).captured
      | .builtin isSpecial action => runBuiltin isSpecial action call
      | .function body => deeper.runFunction isTested body (call.drop 1)
      | .program => deeper.runProgram isLast call) do
      if isPassing then Act.putBackSaved
      putBack !(isExec && call.length = 1)

/-! ### Compound commands -/

/-- How long a shell works on a command, in microseconds. -/
def commandTime : Nat := 2

/-- How many rounds a loop may have. -/
def roundLimit : Nat := 200000

/-- Ends the shell after a failure that nothing around it tests, if it was told to. -/
def checkFailure (isTested : Bool) : Act Unit := do
  if !isTested && (← Act.shell).status ≠ 0 && (← Act.isOn 'e') then throw .ends

/-- Takes a loop off what is passed over, at the end of a round; says whether the loop ends. -/
def endsLoop : Act Bool := do
  let set (skipping : Skipping) : Act Unit := Act.changeShell fun sh => { sh with skipping }
  match (← Act.shell).skipping with
  | .nothing => return false
  | .toBreak n =>
    set (if n ≤ 1 then .nothing else .toBreak (n - 1))
    return true
  | .toContinue n =>
    set (if n ≤ 1 then .nothing else .toContinue (n - 1))
    return 1 < n
  | .toReturn => return true

/-- Runs rounds until one is the last. A round says whether it is, and which status the loop has
after it if it changes that. Gives the status of the loop. -/
def rounds (round : Act (Bool × Option Nat)) : (room : Nat) → (status : Nat) → Act Nat
  | 0, _ => Act.never
  | room + 1, status => do
    let (isLast, new) ← round
    if isLast then return new.getD status else rounds round room (new.getD status)

/-- Runs a round for each of some fields until one is the last. -/
def eachField (round : List Char → Act Bool) : List (List Char) → Act Unit
  | [] => return ()
  | f :: fs => do
    if ← round f then return () else eachField round fs

/-- Runs the rounds of a loop. -/
def inLoop (rounds : Act Unit) : Act Unit := do
  Act.changeShell fun sh => { sh with loops := sh.loops + 1 }
  rounds
  Act.changeShell fun sh => { sh with loops := sh.loops - 1 }

/-- Runs an action under redirections. -/
def underRedirections (redirections : List Redirection) (body : Act Unit) : Act Unit :=
  Act.keepingStreams do
    let targets ← redirections.mapM (expandRedirection deeper.capture)
    match ← Act.attempt (Act.sendAll targets) with
    | .error .gaveUp => return ()
    | .error stop => throw stop
    | .ok () => body

/-- Whether one of some patterns fits a subject. -/
def fitsAny (subject : List Char) : List Word → Act Bool
  | [] => return false
  | w :: ws => do
    if isMatch (← expandPattern deeper.capture w) subject then return true
    else fitsAny subject ws

/-- The first of some arms that has a pattern for a subject, by its number. -/
def armFor (subject : List Char) : List (List Word) → Act (Option Nat)
  | [] => return none
  | ws :: rest => do
    if ← deeper.fitsAny subject ws then return some 0
    else return (← armFor subject rest).map (· + 1)

/-- Starts the stages of a pipeline, each of which reads what the one before it writes. Gives the
numbers of their processes, the last one first. -/
def spawnStages (input : Option Nat) (sofar : List Nat) : List (Act Unit) → Act (List Nat)
  | [] => return sofar
  | body :: rest => do
    let inner := input.elim (pure ()) (Act.connect 0)
    if rest.isEmpty then
      let process ← deeper.spawnSubshell do
        inner
        body
      return process :: sofar
    else
      let (source, target) ← Act.addPipe
      Act.changeShell fun sh => { sh with held := source :: sh.held }
      let process ← deeper.spawnSubshell do
        inner
        Act.connect 1 target
        body
      Act.changeShell fun sh => { sh with held := sh.held.filter fun n => some n ≠ input }
      spawnStages (some source) (process :: sofar) rest

/-- Waits for processes, the last one of which is given first. Gives the status of that one. -/
def waitForAll (processes : List Nat) : Act Nat := do
  processes.reverse.foldlM (fun _ n => do waitedFor (← Act.await n)) 0

/-- Starts commands that nobody waits for. They have no input and ignore the signals by which
somebody at a terminal ends what he waits for. -/
def inBackground (bodies : List (Act Unit)) : Act Unit := do
  let away (body : Act Unit) : Act Unit := do
    Act.changeShell fun sh => { sh with traps := (2, []) :: (3, []) :: sh.traps }
    body
  let held := (← Act.shell).held
  let processes ← deeper.spawnStages (some (← Act.addChannel .nothing)) [] (bodies.map away)
  Act.changeShell fun sh => { sh with
    held, status := 0, jobs := ⟨processes⟩ :: sh.jobs, lastJob := processes.head? }

mutual

/-- Runs a command. -/
def runCommand (isTested isLast : Bool) : Command → Act Unit
  | .simple line assignments words redirections => do
    deeper.takeSignals
    Act.spend commandTime
    if !(← Act.isOn 'n') then
      deeper.runSimple isTested isLast line assignments words redirections
      deeper.takeSignals
      checkFailure isTested
  | .sequence a b => do
    runCommand isTested false a
    if (← Act.shell).skipping = .nothing then runCommand isTested isLast b
  | .both a b => do
    runCommand true false a
    let sh ← Act.shell
    if sh.status = 0 && sh.skipping = .nothing then runCommand isTested isLast b
  | .either a b => do
    runCommand true false a
    let sh ← Act.shell
    if sh.status ≠ 0 && sh.skipping = .nothing then runCommand isTested isLast b
  | .negated c => do
    runCommand true false c
    Act.setStatus (if (← Act.shell).status = 0 then 1 else 0)
  | .pipeline cs => do
    let held := (← Act.shell).held
    let processes ← deeper.spawnStages none [] (stages isTested cs)
    Act.changeShell fun sh => { sh with held }
    Act.setStatus (← waitForAll processes)
    deeper.takeSignals
    checkFailure isTested
  | .background line c => do
    Act.setLine line
    deeper.inBackground (match c with
      | .pipeline cs => stages false cs
      | c => [runCommand false true c])
  | .subshell line body redirections => do
    Act.setLine line
    let inner : Act Unit := do
      let targets ← redirections.mapM (expandRedirection deeper.capture)
      Act.sendAll targets
      runCommand isTested true body
    if isLast && !(← hasPlans) then
      becomeSubshell
      Act.exit (← deeper.toEnd inner)
    else Act.setStatus (← waitedFor (← deeper.inSubshell inner))
    deeper.takeSignals
    checkFailure isTested
  | .redirected line body redirections => do
    Act.setLine line
    deeper.underRedirections redirections (runCommand isTested false body)
  | .branch condition yes no => do
    runCommand true false condition
    let sh ← Act.shell
    if sh.skipping = .nothing then
      if sh.status = 0 then runCommand isTested isLast yes
      else runMaybe isTested isLast no
  | .loop whileTrue condition body =>
    inLoop do
      let round : Act (Bool × Option Nat) := do
        runCommand true false condition
        let sh ← Act.shell
        if sh.skipping ≠ .nothing then
          return (← endsLoop, if sh.skipping = .toReturn then some sh.status else none)
        else if (sh.status = 0) != whileTrue then return (true, none)
        else
          runCommand isTested false body
          let sh ← Act.shell
          return (← endsLoop, some sh.status)
      Act.setStatus (← rounds round roundLimit 0)
  | .each line name words body => do
    Act.setLine line
    let fields ← expandAll deeper.capture words
    if fields.isEmpty then Act.setStatus 0
    let round (field : List Char) : Act Bool := do
      Act.assign name field
      runCommand isTested false body
      endsLoop
    inLoop (eachField round fields)
  | .select line subject arms => do
    Act.setLine line
    let text ← expandText deeper.capture subject
    match ← deeper.armFor text (arms.map (·.1)) with
    | none => Act.setStatus 0
    | some n => runArm isTested isLast n arms
  | .define _ name body => do
    Act.changeShell fun sh => { sh with
      functions := (name, body) :: sh.functions.filter (·.1 ≠ name)
      status := 0 }

/-- Runs a command if there is one. -/
def runMaybe (isTested isLast : Bool) : Option Command → Act Unit
  | none => Act.setStatus 0
  | some c => runCommand isTested isLast c

/-- Runs the command of the arm of a number. -/
def runArm (isTested isLast : Bool) (n : Nat) : List (List Word × Option Command) → Act Unit
  | [] => Act.setStatus 0
  | (_, body) :: rest =>
    if n = 0 then runMaybe isTested isLast body else runArm isTested isLast (n - 1) rest

/-- What the stages of a pipeline do. -/
def stages (isTested : Bool) : List Command → List (Act Unit)
  | [] => []
  | c :: cs => runCommand isTested true c :: stages isTested cs

end

/-- The engine that goes so many levels deep. A shell that would have to go deeper breaks down,
and programs that start each other without end do not end. -/
def toDepth : Nat → Engine
  | 0 => ⟨fun _ _ _ => throw (.killed 11), fun _ _ => Act.never⟩
  | depth + 1 => ⟨runCommand (toDepth depth), startFile (toDepth depth)⟩

end Engine

/-! ### Runs -/

/-- How deep calls may go. -/
def callDepth : Nat := 4 * Engine.callLimit

/-- The variables that a program sees that nobody gave any. -/
def basicEnvironment : List (List Char × Variable) :=
  [("PATH", "/usr/local/cargo/bin:/usr/local/sbin:/usr/local/bin:/usr/sbin:/usr/bin:/sbin:/bin"),
    ("HOME", "/root")].map fun (name, value) => (name.toList, ⟨some value.toList, true, false⟩)

/-- The number of the first process. -/
def firstProcess : Nat := 100

/-- The time that passes before a program is started, in microseconds. -/
def timeBetween : Nat := 10000

/-- The machine before a program is started, with further variables that it sees and an input. -/
def startingMachine (disk : Disk) (given : List (String × String)) (input : List UInt8) :
    Machine where
  world := {
    disk
    channels := #[.source (ofBytes input), .sink [], .sink []]
    pipes := #[]
    pipeFiles := []
    clock := 0
    horizon := none
    startedAt := disk.now + timeBetween
    documents := []
    nextDocument := 0
    lastProcess := firstProcess
    others := []
    ended := []
    signals := [] }
  shell := {
    process := firstProcess
    identity := firstProcess
    group := firstProcess
    name := []
    arguments := []
    bindings := basicEnvironment ++ given.map fun (name, value) =>
      (ofText name, ⟨some (ofText value), true, false⟩)
    functions := []
    streams := [(0, 0), (1, 1), (2, 2)]
    held := []
    directory := disk.here
    status := 0
    captured := 0
    options := []
    traps := []
    line := 0
    ahead := 0
    command := none
    isBroken := false
    leaving := none
    skipping := .nothing
    loops := 0
    calls := 0
    saved := []
    jobs := []
    lastJob := none
    lettersRead := 0
    aliases := []
    mask := 0o022
    surroundings := none }

/-- How long something takes that does not end, in milliseconds. -/
def foreverTime : Nat := 10 ^ 15

/-- Whether the first process has ended and nobody can write any more to the output or the errors
with which it was started. -/
def isFinished (t : Schedule) : Bool :=
  (t.world.ended.lookup firstProcess).isSome &&
    !t.processes.any fun p => p.channels.contains 1 || p.channels.contains 2

/-- How many turns processes may take. -/
def turnLimit : Nat := 10 ^ 9

/-- The path of the program that is meant: a name alone is looked up in the usual
directories. -/
def meantPath? (disk : Disk) (name : List Char) : Option (List Char) :=
  if name.contains '/' then some name
  else
    let directories := (basicEnvironment.lookup "PATH".toList).bind (·.value)
    programPath? disk (directories.getD []) name

/-- Runs the program at a path with arguments, further variables and an input, up to a time in
milliseconds if there is a limit. -/
def execute (limit : Option Nat) (disk : Disk) (path : Path) (started : Program.Call)
    (input : List UInt8) : Except Trouble Program.Result :=
  let name := ofText path.text
  let call := name :: started.args.map ofText
  if started.args.any (·.toList.contains '\x00') then .error .nulInArgument
  else
    match meantPath? disk name with
    | none => .error .notFound
    | some file =>
      match System.start disk System.startDepth file call with
      | .refused t => .error t
      | .program _ _ =>
        let m := startingMachine disk started.environment input
        let main : Process := {
          number := firstProcess
          shell := m.shell
          readyAt := 0
          awaited := .turn
          next := fun _ => ((Engine.toDepth callDepth).start file call).run }
        let (t, isOver) := (Schedule.mk m.world [main]).run (limit.map (· * 1000)) isFinished
          turnLimit
        let w := t.world
        let after := { w.disk.settled with here := disk.here, now := w.startedAt + w.clock }
        let written (n : Nat) : List UInt8 := match w.channels[n]? with
          | some (.sink reversed) => toBytes reversed.reverse.flatten
          | _ => []
        match isOver, w.ended.lookup firstProcess with
        | true, some ending => .ok ⟨ending, written 1, written 2, w.clock / 1000, after⟩
        | _, _ => .ok ⟨.exited 0, [], [], foreverTime, after⟩

/-- The host on which programs are scripts and the tools of a system. What is wrong with an output it
says in words of its own. -/
def host : Program.Host where
  run := execute
  wording _ refusal :=
    match refusal with
    | .malformed => "not JSON"
    | .truncated => "the text ends too early"
    | .mistyped => "a value of the wrong type"

end ParserConformance.Script
