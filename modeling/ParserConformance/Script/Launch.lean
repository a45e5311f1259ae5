import ParserConformance.Script.Builtin
import ParserConformance.Script.Sending
import ParserConformance.Script.System

/-!
# Starting programs

Programs are started in processes of their own, which end with a status or by a signal. A shell
that is started runs commands; how those run, and how programs are started, is left to an engine.
-/

namespace ParserConformance.Script

/-- How commands are run and programs are started. -/
structure Engine where
  /-- Runs a command. Its failure may be tested by what is around it, and it may be the last thing
  that its process does. -/
  run : (isTested isLast : Bool) → Command → Act Unit
  /-- Starts the file at a path in the process at work, with a call whose first word is a
  name. -/
  start : (path : List Char) → (call : List (List Char)) → Act Ending

namespace Engine

variable (engine : Engine)

/-! ### Texts of commands -/

/-- Runs the commands on the lines of a text, one line after the other. Gives the status of the
last one, or zero if there is none. Nothing comes behind the text if `isAll` says so. -/
def runText (text : List Char) (isAll : Bool := false) : Act Nat := do
  let nextDocument := (← Act.world).nextDocument
  go (2 * text.length + 2) (Reader.ofText text 1 nextDocument) 0
where
  /-- Runs the lines that a reader has not read yet. -/
  go : (room : Nat) → Reader → (status : Nat) → Act Nat
    | 0, _, status => return status
    | room + 1, reader, status => do
      let reader := { reader with aliases := (← Act.shell).aliases }
      match (readItem.run reader : Except SyntaxFault (Item × Reader)) with
      | .error fault =>
        Act.setLine fault.line
        Act.fail ("Syntax error: " ++ fault.text).toList
      | .ok (.over, _) => return status
      | .ok (.line c, next) =>
        Act.changeWorld fun w => { w with
          documents := next.documents ++ w.documents
          nextDocument := next.nextDocument }
        Act.changeShell fun sh => { sh with ahead := next.line }
        if ← Act.isOn 'v' then
          let _ ← Act.write 2 (reader.rest.take (reader.rest.length - next.rest.length))
        let isLast := isAll && next.rest.all fun c => c = '\n' || c = ' '
        if !(← Act.isOn 'n') then c.forM (engine.run false isLast)
        let sh ← Act.shell
        let status := if c.isSome then sh.status else status
        if sh.skipping = .nothing then go room { next with documents := [] } status
        else return status

/-- Runs a text that is not part of the script, and puts the status back that was before. -/
def runAside (text : List Char) : Act Unit := do
  let sh ← Act.shell
  Act.changeShell fun s => { s with leaving := some (sh.leaving.getD sh.status) }
  let _ ← engine.runText text
  Act.changeShell fun s => { s with leaving := sh.leaving }
  if (← Act.shell).skipping ≠ .toReturn then Act.setStatus sh.status

/-- Lets the signals act that have reached the shell. -/
def takeSignals : Act Unit := do
  let sh ← Act.shell
  let (mine, others) := (← Act.world).signals.partition (·.1 = sh.process)
  if !mine.isEmpty then
    Act.changeWorld fun w => { w with signals := others }
    mine.forM fun (_, signal) => do
      match sh.traps.lookup signal with
      | some action => if !action.isEmpty then engine.runAside action
      | none =>
        match fateOf signal with
        | .goesOn => return ()
        | .stops => Act.never
        | .ends => throw (.killed signal)

/-! ### Processes -/

/-- Runs a process to its end. A shell that was told what to do at its end does so. -/
def toEnd (body : Act Unit) : Act Ending := do
  match ← Act.attempt body with
  | .error (.killed signal) => return .killed signal
  | _ =>
    let sh ← Act.shell
    let status := sh.status
    match sh.traps.lookup 0 with
    | none | some [] => return .exited (status % 256)
    | some action =>
      Act.changeShell fun s => { s with
        traps := s.traps.filter (·.1 ≠ 0)
        skipping := .nothing
        command := none
        leaving := some status }
      match ← Act.attempt (engine.runText action) with
      | .error (.killed signal) => return .killed signal
      | .error .ends => return .exited ((← Act.shell).status % 256)
      | _ => return .exited (status % 256)

/-- Makes the shell at work one of its own that begins like the one from which it comes. It ignores
the signals that that one ignores, has no other plans for them, and no jobs. -/
def becomeSubshell : Act Unit :=
  Act.changeShell fun sh => { sh with
    traps := sh.traps.filter (·.2.isEmpty), loops := 0, jobs := [] }

/-- Starts a process that runs commands in a shell of its own. -/
def spawnSubshell (body : Act Unit) : Act Nat :=
  Act.spawn do
    becomeSubshell
    engine.toEnd body

/-- Runs commands in a shell of their own. -/
def inSubshell (body : Act Unit) : Act Ending := do Act.await (← engine.spawnSubshell body)

/-- Takes the status of a process that was waited for, and says which signal has ended it. -/
def waitedFor (ending : Ending) : Act Nat := do
  match ending with
  | .killed signal =>
    (signalText signal).forM fun text => do
      let _ ← Act.write 2 (text.toList ++ ['\n'])
    return 128 + signal
  | .exited status => return status

/-- What commands write to their output, without the ends of lines at its end. -/
def capture (body : Option Command) : Act (List Char) := do
  match body with
  | none =>
    Act.changeShell fun sh => { sh with captured := 0 }
    return []
  | some c =>
    let n ← Act.addChannel (.sink [])
    let process ← engine.spawnSubshell do
      Act.connect 1 n
      engine.run false true c
    let _ ← Act.ask (.closed n)
    let captured ← waitedFor (← Act.await process)
    Act.changeShell fun sh => { sh with captured }
    let text := (← Act.collected n).filter (· ≠ '\x00')
    return (text.reverse.dropWhile (· = '\n')).reverse

/-! ### Programs by name -/

/-- A complaint about a program that cannot be run, with the status for it. -/
def refusal (name : List Char) (t : Trouble) : List Char × Nat :=
  let isMissing := t = .notFound || t = .notDirectory
  (name ++ ": ".toList ++ (if isMissing then "not found" else t.reason).toList,
    if isMissing || t = .tooManyLinks || t = .nameTooLong then 127 else 126)

/-- The trouble with a program that a name calls, if there is any. A name that is not found may
at least call something that is no program. -/
def programTrouble? (name : List Char) : Act (Option Trouble) := do
  if !name.contains '/' then
    if (← Act.program? name).isSome then return none
    else
      let d ← Act.disk
      return (candidates (← Act.searched) name).foldl (fun t path =>
        match d.stat (pathOfChars path) with
        | .ok _ => some .permissionDenied
        | .error .notFound | .error .notDirectory => t
        | .error trouble => some trouble) (some .notFound)
  else
    match (← Act.disk).stat (pathOfChars name) with
    | .error t => return some t
    | .ok (.file mode _) =>
      return if Disk.maySearch mode then none else some .permissionDenied
    | .ok _ => return some .permissionDenied

/-- Starts the program that the first word of a call names in the process at work. -/
def startCalled (call : List (List Char)) : Act Ending := do
  let name := call.headD []
  let refuse (t : Trouble) : Act Ending := do
    let (text, status) := refusal name t
    Act.complain text
    Act.setStatus status
    throw .ends
  match ← programTrouble? name with
  | some t => refuse t
  | none =>
    let path := (← Act.program? name).getD name
    match System.start (← Act.disk) System.startDepth path call with
    | .refused .notExecutable =>
      engine.start "/usr/bin/sh".toList (call.take 1 ++ path :: call.drop 1)
    | .refused t => refuse t
    | .program _ _ => engine.start path call

/-! ### Shells -/

/-- The variables that a new shell has: those that it was given, and its own. -/
def startingVariables (given : List (List Char × List Char)) (directory : Location)
    (parent : Nat) : List (List Char × Variable) :=
  let own (name : String) (value : List Char) : List Char × Variable :=
    (name.toList, ⟨some value, false, false⟩)
  let fixed := [own "IFS" " \t\n".toList, own "OPTIND" ['1'], own "PPID" (digitsOf parent)]
  let here := ofText (Disk.pathOf directory).text
  let pwd := ("PWD".toList,
    (⟨some ((given.lookup "PWD".toList).getD here), true, false⟩ : Variable))
  let isKept (name : List Char) := isName name && !(pwd :: fixed).any (·.1 = name)
  let kept := given.filterMap fun (name, value) =>
    if isKept name then some (name, (⟨some value, true, false⟩ : Variable)) else none
  let path := "/usr/local/sbin:/usr/local/bin:/usr/sbin:/usr/bin:/sbin:/bin"
  let basic := [own "PS1" "# ".toList, own "PS2" "> ".toList, own "PS4" "+ ".toList,
    own "PATH" path.toList]
  fixed ++ [pwd] ++ basic.filter (fun v => !kept.any (·.1 = v.1)) ++ kept

/-- The variables that programs get to see, by their places. -/
def environment : Act (List (List Char × List Char)) := do
  if let some all := (← Act.shell).surroundings then return all
  let seen := (← Act.shell).bindings.filterMap fun (name, v) =>
    if v.isExported then v.value.map (name, ·) else none
  return seen.mergeSort fun a b => Builtin.placeOf a.1 ≤ Builtin.placeOf b.1

/-- A shell that begins in the process of another one. -/
def freshShell (sh : Shell) (given : List (List Char × List Char)) (name : List Char) : Shell :=
  { sh with
    identity := sh.process
    name
    arguments := []
    bindings := startingVariables given sh.directory (sh.process - 1)
    functions := []
    status := 0
    captured := 0
    options := []
    traps := sh.traps.filter (·.2.isEmpty)
    line := 0
    ahead := 0
    command := none
    isBroken := false
    leaving := none
    skipping := .nothing
    loops := 0
    calls := 0
    saved := []
    jobs := []
    lastJob := none
    lettersRead := 0
    aliases := []
    surroundings := none }

/-- Turns on the options with which a shell is called; gives the words behind them, and whether
the first of those is a text of commands. -/
def shellOptions : List (List Char) → Act (Bool × List (List Char))
  | [] => return (false, [])
  | ['-'] :: args => return (false, args)
  | ['-', '-'] :: args => return (false, args)
  | (sign :: c :: cs) :: args => do
    if sign = '-' || sign = '+' then
      let letters := (c :: cs).filter fun l => l ≠ 'c' && l ≠ 'l'
      let isText := (c :: cs).contains 'c'
      if ← Builtin.turnLetters (sign == '-') letters then
        match args with
        | name :: args =>
          match Builtin.optionNames.find? (·.1.toList = name) with
          | some (_, letter) => Builtin.turn (sign == '-') letter
          | none => Act.fail ("Illegal option -o ".toList ++ name)
          let (isLater, operands) ← shellOptions args
          return (isText || isLater, operands)
        | [] => return (isText, [])
      else
        let (isLater, operands) ← shellOptions args
        return (isText || isLater, operands)
    else return (false, (sign :: c :: cs) :: args)
  | args => return (false, args)

/-- Runs a shell in the process at work. -/
def shell (name : List Char) (args : List (List Char)) : Act Ending := do
  let given ← environment
  Act.changeShell fun sh => freshShell sh given name
  engine.toEnd do
    let (isText, operands) ← shellOptions args
    let called (words : List (List Char)) : Act Unit :=
      Act.changeShell fun sh => { sh with
        name := words.headD sh.name
        arguments := words.drop 1 }
    let runInput : Act Unit := do
      let text := (← Act.rest? 0).getD []
      Act.consume 0 text.length
      Act.setStatus (← engine.runText text)
    if isText then
      match operands with
      | [] => Act.fail "-c requires an argument".toList
      | text :: words =>
        called words
        Act.setLine 1
        Act.setStatus (← engine.runText text (!(← Act.isOn 's')))
    else if ← Act.isOn 's' then
      Act.changeShell fun sh => { sh with arguments := operands }
      runInput
    else
      match operands with
      | [] =>
        Builtin.turn true 's'
        runInput
      | path :: args =>
        let n ← Act.openForReading path
        called (path :: args)
        Act.setStatus (← engine.runText (← Act.textBehind n))

end Engine

end ParserConformance.Script
