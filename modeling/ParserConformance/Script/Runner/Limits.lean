import ParserConformance.Script.Runner.Basic
import ParserConformance.Script.Tool.Small

/-!
# Programs within limits

`timeout` gives a program a time after which it ends. `nice`, `nohup`, `setsid` and `stdbuf` run
a program under conditions that make no difference to what it does.
-/

namespace ParserConformance.Script

namespace Engine

variable (engine : Engine)

open Tool (Options Known)

/-- Reads the options of a program that runs another one; those of the other program come behind
them. -/
def withRunnerOptions (known : Known) (name : List Char) (misuse : Nat) (args : List (List Char))
    (run : Options → Act Ending) : Act Ending :=
  match Options.read { known with endsAtOperand := true } args with
  | .error fault => Runner.refuseMisuse name misuse fault.message
  | .ok o => run o

/-! ### Time -/

/-- The options of `timeout`. -/
def timeoutOptions : Known := {
  flags := "vfp"
  valued := "ks"
  hidden := "fp"
  long := [("foreground", 'f'), ("kill-after", 'k'), ("preserve-status", 'p'), ("signal", 's'),
    ("verbose", 'v')] }

/-- Sends a signal to a process and, if it may lead one, to the rest of its group. -/
def sendWithGroup (signal process group : Nat) (isAlone : Bool) : Act Unit := do
  let w ← Act.world
  let meant := w.others.filter fun (number, g) =>
    number = process || (!isAlone && g = group)
  Act.changeWorld fun w =>
    { w with signals := w.signals ++ meant.map fun p => (p.1, signal) }
  let _ ← Act.ask .turn

/-- Waits for a process, which has a time, and is sent a signal when it is over; another time and
the last signal may follow. Gives how it ends, and whether its time was over. -/
def awaitWithin (time : Nat) (process : Nat) (signal : Nat) (last : Option Nat)
    (group : Nat) (isAlone : Bool) (note : Nat → Act Unit) : Act (Ending × Bool) := do
  let stop := (← Act.world).clock + time
  if ← Act.ask (.ending process (if time = 0 then none else some stop) false) then
    return (← Act.endingOf process, false)
  note signal
  sendWithGroup signal process group isAlone
  match last with
  | some time =>
    if time ≠ 0 then
      let stop := (← Act.world).clock + time
      if !(← Act.ask (.ending process (some stop) false)) then
        note 9
        sendWithGroup 9 process group isAlone
  | none => pure ()
  return (← Act.await process, true)

/-- Runs a program and ends it by a signal when its time is over. -/
def timeout (name : List Char) (args : List (List Char)) : Act Ending :=
  withRunnerOptions timeoutOptions name 125 args fun o => do
    let signal? := match o.value? 's' with
      | some text => signalOf? text
      | none => some 15
    let badTime (text : List Char) : Act Ending :=
      Runner.refuseMisuse name 125 ("invalid time interval ".toList ++ Tool.quoted text)
    match (o.value? 'k').filter fun text => (Tool.timeOf? text).isNone, signal?, o.operands with
    | some text, _, _ => badTime text
    | none, none, _ =>
      Runner.refuseMisuse name 125 (Tool.quoted ((o.value? 's').getD []) ++
        ": invalid signal".toList)
    | none, some signal, limit :: word :: words =>
      match Tool.timeOf? limit with
      | none => badTime limit
      | some limit =>
        let isAlone := o.has 'f'
        let sh ← Act.shell
        let group := if isAlone then sh.group else sh.process
        Act.changeShell fun sh => { sh with group }
        let process ← Act.spawn
          (engine.startFor name "failed to run command " (word :: words))
        let note (signal : Nat) : Act Unit := do
          if o.has 'v' then
            Runner.complain name ("sending signal ".toList ++
              ((Program.signalName? signal).getD "").toList ++ " to command ".toList ++
              Tool.quoted word)
        let (ending, isLate) ← awaitWithin limit process signal
          ((o.value? 'k').bind Tool.timeOf?) group isAlone note
        if isLate && ending = .killed 9 then
          return if isAlone then .exited 137 else .killed 9
        match ending, isLate && !o.has 'p' with
        | _, true => return .exited 124
        | .killed signal, false => return if isLate then .exited (128 + signal) else ending
        | ending, false => return ending
    | none, some _, _ =>
      let _ ← Act.write 2 ("Try '".toList ++ name ++ " --help' for more information.\n".toList)
      return .exited 125

/-! ### Conditions -/

/-- The arguments of `nice` with its old way to give a number written in the new one. -/
def niceArguments (args : List (List Char)) : List (List Char) :=
  match args with
  | ('-' :: sign :: rest) :: more =>
    if isDigit sign || ((sign = '-' || sign = '+') && rest.head?.any isDigit) then
      "-n".toList :: (sign :: rest) :: more
    else args
  | _ => args

/-- Runs a program that gives way to others, or tells how much way is given. -/
def nice (name : List Char) (args : List (List Char)) : Act Ending :=
  withRunnerOptions { valued := "n", long := [("adjustment", 'n')] } name 125
    (niceArguments args) fun o => do
    let number? (text : List Char) : Bool :=
      let digits := match text with
        | '-' :: rest | '+' :: rest => rest
        | rest => rest
      !digits.isEmpty && digits.all isDigit
    match (o.value? 'n').filter (!number? ·), o.operands, o.has 'n' with
    | some text, _, _ =>
      Runner.refuse name 125 ("invalid adjustment ".toList ++ Tool.quoted text)
    | none, [], true =>
      Runner.refuseMisuse name 125 "a command must be given with an adjustment".toList
    | none, [], false =>
      Act.say "0\n".toList
      return .exited 0
    | none, call, _ => engine.startFor name "" call

/-- Runs a program that goes on when its user leaves. -/
def nohup (name : List Char) (args : List (List Char)) : Act Ending :=
  withRunnerOptions {} name 125 args fun o =>
    if o.operands.isEmpty then Runner.refuseMisuse name 125 "missing operand".toList
    else engine.startFor name "failed to run command " o.operands

/-- Runs a program in a session of its own. -/
def setsid (name : List Char) (args : List (List Char)) : Act Ending :=
  let known : Known :=
    { flags := "cfw", long := [("ctty", 'c'), ("fork", 'f'), ("wait", 'w')] }
  withRunnerOptions known name 1 args fun o => do
    if o.operands.isEmpty then
      return ← Runner.refuseMisuse name 1 "no command specified".toList
    match ← engine.startOn o.operands with
    | .ok ending => return ending
    | .error t =>
      Runner.refuse name (Runner.statusOf t)
        ("failed to execute ".toList ++ Tool.plainComplaint (o.operands.headD []) t)

/-- Runs a program whose streams hold back what is written as long as they are told to. -/
def stdbuf (name : List Char) (args : List (List Char)) : Act Ending :=
  let known : Known :=
    { valued := "ioe", long := [("input", 'i'), ("output", 'o'), ("error", 'e')] }
  withRunnerOptions known name 125 args fun o => do
    let isMode (text : List Char) : Bool := text = ['L'] || (Tool.countOf? text).isSome
    match o.letters.find? fun l => (l.1 = 'i' && l.2 = ['L']) || !isMode l.2 with
    | some (_, ['L']) =>
      Runner.refuseMisuse name 125 "line buffering stdin is meaningless".toList
    | some (_, text) => Runner.refuse name 125 ("invalid mode ".toList ++ Tool.quoted text)
    | none =>
      if o.operands.isEmpty then Runner.refuseMisuse name 125 "missing operand".toList
      else if o.letters.isEmpty then
        Runner.refuseMisuse name 125 "you must specify a buffering mode option".toList
      else engine.startFor name "failed to run command " o.operands

end Engine

end ParserConformance.Script
