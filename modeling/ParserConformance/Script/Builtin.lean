import ParserConformance.Script.Lookup
import ParserConformance.Script.Mode
import ParserConformance.Script.Printing
import ParserConformance.Script.Signal

/-!
# Commands of the shell's own

The commands that a shell carries out itself, without starting a program, as long as they run no
other commands. Each gives a status.
-/

namespace ParserConformance.Script

/-- A command of the shell's own: its action for its arguments. -/
abbrev Builtin := List (List Char) → Act Nat

namespace Builtin

/-! ### Arguments -/

/-- A number that is not negative. -/
def natural (arg : List Char) : Act Nat :=
  match decimal? arg with
  | some n => if 0 ≤ n && n ≤ 2147483647 then return n.toNat else refuse
  | none => refuse
where
  /-- The complaint about another argument. -/
  refuse : Act Nat := Act.fail ("Illegal number: ".toList ++ arg)

/-- The letters that an argument gives, and whether the last one still needs a value. -/
def lettersIn (flags valued : List Char) : List Char →
    Act (List (Char × List Char) × Option Char)
  | [] => return ([], none)
  | c :: cs => do
    if valued.contains c then
      if cs.isEmpty then return ([], some c) else return ([(c, cs)], none)
    else if flags.contains c then
      let (more, pending) ← lettersIn flags valued cs
      return ((c, []) :: more, pending)
    else Act.fail ("Illegal option -".toList ++ [c])

/-- The letters at the front of arguments with their values, and the other arguments. -/
def letters (flags valued : List Char) : List (List Char) →
    Act (List (Char × List Char) × List (List Char))
  | [] => return ([], [])
  | ['-', '-'] :: args => return ([], args)
  | ('-' :: c :: cs) :: args => do
    let (here, pending) ← lettersIn flags valued (c :: cs)
    match pending, args with
    | some letter, value :: args =>
      let (more, operands) ← letters flags valued args
      return (here ++ (letter, value) :: more, operands)
    | some letter, [] => Act.fail ("No arg for -".toList ++ letter :: " option".toList)
    | none, args =>
      let (more, operands) ← letters flags valued args
      return (here ++ more, operands)
  | args => return ([], args)

/-- A text between single quotes. -/
def singleQuoted (cs : List Char) : List Char :=
  '\'' :: (cs.flatMap fun c => if c = '\'' then "'\"'\"'".toList else [c]) ++ ['\'']

/-- A name and what stands behind an equals sign, if there is one. -/
def nameAndValue (arg : List Char) : List Char × Option (List Char) :=
  let name := arg.takeWhile (· ≠ '=')
  match arg.drop name.length with
  | '=' :: value => (name, some value)
  | _ => (name, none)

/-- Refuses what is no name of a variable. -/
def checkName (name : List Char) : Act Unit := do
  if !isName name then Act.fail (name ++ ": bad variable name".toList)

/-! ### Output -/

/-- Writes its arguments. -/
def echo : Builtin := fun args => do
  Act.say (Script.echo args)
  return 0

/-- Writes its arguments in a format. -/
def printf : Builtin := fun args => do
  match ← letters [] [] args with
  | (_, []) => Act.fail "usage: printf format [arg ...]".toList
  | (_, format :: args) =>
    let p := Script.printf format args
    p.complaints.forM Act.complain
    match p.fault with
    | some fault =>
      Act.say p.output
      Act.fail fault
    | none =>
      Act.say p.output
      return if p.complaints.isEmpty then 0 else 1

/-! ### Conditions -/

/-- Whether a condition holds. -/
def test : Builtin := fun args => do
  match Condition.holds (fileQuestions (← Act.disk)) (args.length + 1) args with
  | .ok b => return if b then 0 else 1
  | .error fault => Act.fail fault.message

/-- Whether a condition holds that ends in a bracket. -/
def bracket : Builtin := fun args => do
  if args.getLast? = some [']'] then test args.dropLast else Act.fail "missing ]".toList

/-! ### Input -/

/-- Takes a line off the front of a text: its characters, each with whether it is quoted, whether
it has an end, and how much was taken. A backslash quotes, or joins lines, unless lines are
raw. -/
def takeLine (isRaw : Bool) : List Char → List (Char × Bool) × Bool × Nat
  | [] => ([], false, 0)
  | '\n' :: _ => ([], true, 1)
  | ['\\'] => if isRaw then ([('\\', false)], false, 1) else ([], false, 1)
  | '\\' :: c :: cs =>
    if isRaw then
      if c = '\n' then ([('\\', false)], true, 2)
      else
        let (line, ended, n) := takeLine isRaw (c :: cs)
        (('\\', false) :: line, ended, n + 1)
    else
      let (line, ended, n) := takeLine isRaw cs
      (if c = '\n' then line else (c, true) :: line, ended, n + 2)
  | c :: cs =>
    let (line, ended, n) := takeLine isRaw cs
    (if c = '\x00' then line else (c, false) :: line, ended, n + 1)

/-- A line parted into a field for each of some variables; the last one takes all that is left,
blank separators at its end aside. -/
def lineFields (separators : List Char) : (count : Nat) → List (Char × Bool) → List (List Char)
  | 0, _ => []
  | count + 1, cs =>
    let parts (c : Char × Bool) := !c.2 && separators.contains c.1
    let isBlank (c : Char × Bool) := parts c && " \t\n".toList.contains c.1
    let cs := cs.dropWhile isBlank
    let field := cs.takeWhile fun c => !parts c
    let rest := (cs.drop field.length).dropWhile isBlank
    let rest := match rest with
      | c :: more => if parts c then more.dropWhile isBlank else rest
      | [] => []
    if count = 0 then
      if rest.isEmpty then [field.map (·.1)]
      else [((cs.reverse.dropWhile isBlank).reverse).map (·.1)]
    else field.map (·.1) :: lineFields separators count rest

/-- The text at the front of a stream that a line is taken from, as far as it is needed. -/
def lineText (isRaw : Bool) (stream : Nat) : (room seen : Nat) → Act (List Char)
  | 0, _ => return []
  | room + 1, seen => do
    let text := (← Act.ready? stream).getD []
    match ← Act.pipeBehind? stream with
    | none => return text
    | some n =>
      let (_, ended, _) := takeLine isRaw text
      if ended then return text
      else if ← Act.ask (.text n (text.length + 1) seen) then
        lineText isRaw stream room text.length
      else return (← Act.ready? stream).getD []

/-- Reads a line into variables. -/
def read : Builtin := fun args => do
  let (options, names) ← letters ['r'] ['p'] args
  if names.isEmpty then Act.fail "arg count".toList
  let isRaw := options.any (·.1 = 'r')
  let rest ← lineText isRaw 0 Act.pipeRounds 0
  let (line, ended, taken) := takeLine isRaw rest
  Act.consume 0 taken
  let fields := lineFields (← Act.separators) names.length line
  (names.zip fields).forM fun (name, field) => do
    checkName name
    Act.assign name field
  return if ended then 0 else 1

/-! ### Directories -/

/-- The parts of a path, with what `..` undoes left out. -/
def logicalParts (path : List Char) : List (List Char) :=
  (path.splitBy fun a b => a ≠ '/' && b ≠ '/').foldl (fun parts part =>
    if part = ['/'] || part = ['.'] then parts
    else if part = ['.', '.'] then parts.dropLast
    else parts ++ [part]) []

/-- The path of the working directory as the shell came there. -/
def logicalDirectory : Act (List Char) := do
  return (← Act.lookup "PWD".toList).getD (ofText (Disk.pathOf (← Act.shell).directory).text)

/-- Whether a path is not looked for in other directories than the working directory. -/
def isFixed (path : List Char) : Bool :=
  let first := path.takeWhile (· ≠ '/')
  path.head? = some '/' || first = ['.'] || first = ['.', '.']

/-- Where a directory is found that a relative path names: the path to go, and whether it is to
be told. -/
def foundDirectory (path : List Char) : Act (List Char × Bool) := do
  let d ← Act.disk
  let here := if path.isEmpty then ['.'] else path
  match ← Act.lookup "CDPATH".toList with
  | none => return (here, false)
  | some directories =>
    if isFixed path then return (here, false)
    else
      let all := (colonParts directories).zip (candidates directories here)
      match all.find? fun (_, p) => isAsAsked d 'd' p with
      | some (directory, p) => return (p, !directory.isEmpty)
      | none => return (here, false)

/-- Changes the working directory. -/
def cd : Builtin := fun args => do
  let (options, operands) ← letters ['L', 'P'] [] args
  let goesBack := operands.head? = some ['-']
  let named ← match operands with
    | [] => do pure ((← Act.lookup "HOME".toList).getD [])
    | ['-'] :: _ => do pure ((← Act.lookup "OLDPWD".toList).getD [])
    | target :: _ => pure target
  let (target, isTold) ← foundDirectory named
  let old ← logicalDirectory
  let whole := if target.head? = some '/' then target else old ++ '/' :: target
  let logical := '/' :: ['/'].intercalate (logicalParts whole)
  let isPhysical := options.getLast?.any (·.1 = 'P')
  let d ← Act.disk
  let refuse : Act Nat := Act.fail ("can't cd to ".toList ++ named)
  match d.locate (pathOfChars (if isPhysical then target else logical)) false with
  | .error _ => refuse
  | .ok place =>
    match d.entry? place with
    | some (.directory mode) =>
      if !Disk.maySearch mode then refuse
      else
        let new := if isPhysical then ofText (Disk.pathOf place).text else logical
        changeTo place old new
        if goesBack || isTold then Act.say (new ++ ['\n'])
        return 0
    | _ => refuse
where
  /-- Moves to another directory. -/
  changeTo (place : Location) (old new : List Char) : Act Unit := do
    Act.changeShell fun sh => { sh with directory := place }
    Act.assign "OLDPWD".toList old
    Act.assign "PWD".toList new

/-- Writes the working directory. -/
def pwd : Builtin := fun args => do
  let (options, _) ← letters ['L', 'P'] [] args
  let path ← if options.getLast?.any (·.1 = 'P') then
      pure (ofText (Disk.pathOf (← Act.shell).directory).text)
    else logicalDirectory
  Act.say (path ++ ['\n'])
  return 0

/-- Shows or sets the bits that new files do not get. Letters tell which ones they do get. -/
def umask : Builtin := fun args => do
  let (options, operands) ← letters ['S'] [] args
  let mask := (← Act.shell).mask
  match operands with
  | [] =>
    if options.isEmpty then
      Act.say ('0' :: ((Nat.toDigits 8 (mask + 0o1000)).drop 1) ++ ['\n'])
    else
      let parts := ("ugo".toList.zip (modeLetters (0o777 ^^^ mask))).map fun (who, letters) =>
        who :: '=' :: letters
      Act.say ([','].intercalate parts ++ ['\n'])
    return 0
  | change :: _ =>
    let set (mask : Nat) : Act Nat := do
      Act.changeShell fun sh => { sh with mask := mask % 0o1000 }
      return 0
    match change.head?.any isDigit, changedMode? 0 false (0o777 ^^^ mask) change with
    | true, some new => set new
    | true, none => Act.fail ("Illegal number: ".toList ++ change)
    | false, some new => set (0o777 ^^^ (new &&& 0o777))
    | false, none => Act.fail ("Illegal mode: ".toList ++ change)

/-! ### Variables -/

/-- All variables in the order of their names. -/
def sortedVariables : Act (List (List Char × Variable)) := do
  return (← Act.shell).bindings.mergeSort fun a b => String.ofList a.1 ≤ String.ofList b.1

/-- Marks variables, which may get values before, or shows all that are marked. -/
def mark (word : String) (isMarked : Variable → Bool) (marked : Variable → Variable) : Builtin :=
  fun args => do
    let (options, operands) ← letters ['p'] [] args
    if operands.isEmpty || !options.isEmpty then
      for (name, v) in ← sortedVariables do
        if isMarked v then
          let value := match v.value with
            | some value => '=' :: singleQuoted value
            | none => []
          Act.say (word.toList ++ ' ' :: name ++ value ++ ['\n'])
    else
      for arg in operands do
        let (name, value) := nameAndValue arg
        checkName name
        value.forM (Act.assign name)
        let v := (← Act.binding? name).getD ⟨none, false, false⟩
        Act.putVariable name (some (marked v))
    return 0

/-- Lets programs see variables. -/
def exportNames : Builtin := mark "export" (·.isExported) fun v => { v with isExported := true }

/-- Keeps variables from being changed. -/
def readonlyNames : Builtin :=
  mark "readonly" (·.isReadonly) fun v => { v with isReadonly := true }

/-- Takes variables or functions away. -/
def unset : Builtin := fun args => do
  let (options, names) ← letters ['f', 'v'] [] args
  for name in names do
    if options.getLast?.any (·.1 = 'f') then
      Act.changeShell fun sh => { sh with functions := sh.functions.filter (·.1 ≠ name) }
    else
      checkName name
      if (← Act.binding? name).any (·.isReadonly) then
        Act.fail (name ++ ": is read only".toList)
      Act.putVariable name none
  return 0

/-- Keeps variables, or with a minus sign the options, to be put back when the function ends. -/
def localNames : Builtin := fun args => do
  if (← Act.shell).saved.isEmpty then Act.fail "not in a function".toList
  for arg in args do
    let (name, value) := nameAndValue arg
    if arg = ['-'] then Act.keepOptions
    else
      checkName name
      Act.keep name
      value.forM (Act.assign name)
  return 0

/-- Takes arguments off the front. -/
def shift : Builtin := fun args => do
  let n ← args.head?.elim (pure 1) natural
  if (← Act.shell).arguments.length < n then Act.fail "can't shift that many".toList
  Act.changeShell fun sh => { sh with arguments := sh.arguments.drop n }
  return 0

/-- The names of the options of a shell with their letters. -/
def optionNames : List (String × Char) :=
  [("errexit", 'e'), ("noglob", 'f'), ("ignoreeof", 'I'), ("interactive", 'i'), ("monitor", 'm'),
    ("noexec", 'n'), ("stdin", 's'), ("xtrace", 'x'), ("verbose", 'v'), ("vi", 'V'),
    ("emacs", 'E'), ("noclobber", 'C'), ("allexport", 'a'), ("notify", 'b'), ("nounset", 'u'),
    ("nolog", 'L'), ("debug", 'D')]

/-- Turns an option on or off. -/
def turn (isOn : Bool) (option : Char) : Act Unit :=
  Act.changeShell fun sh =>
    let others := sh.options.filter (· ≠ option)
    { sh with options := if isOn then option :: others else others }

/-- Turns options on or off by their letters; says whether an `o` among them wants a name. -/
def turnLetters (isOn : Bool) : List Char → Act Bool
  | [] => return false
  | c :: cs => do
    if c = 'o' then
      let _ ← turnLetters isOn cs
      return true
    else if optionLetters.contains c then
      turn isOn c
      turnLetters isOn cs
    else Act.fail ("Illegal option -".toList ++ [c])
where
  /-- The letters that can be turned. -/
  optionLetters : List Char := (optionNames.map (·.2)).filter fun l => l ≠ 'L' && l ≠ 'D'

/-- Turns options on or off; gives the arguments that are left, or nothing if there is no word
that says that arguments follow. -/
def turnOptions : List (List Char) → Act (Option (List (List Char)))
  | [] => return none
  | ['-'] :: args => do
    turn false 'x'
    turn false 'v'
    return if args.isEmpty then none else some args
  | ['-', '-'] :: args => return some args
  | (sign :: c :: cs) :: args => do
    if sign = '-' || sign = '+' then
      let isOn := sign == '-'
      if ← turnLetters isOn (c :: cs) then
        match args with
        | [] =>
          Act.say "Current option settings\n".toList
          for (name, letter) in optionNames do
            let state := if ← Act.isOn letter then "on" else "off"
            Act.say ((name.toList ++ List.replicate (16 - name.length) ' ') ++ state.toList
              ++ ['\n'])
          return none
        | name :: args =>
          match optionNames.find? (·.1.toList = name) with
          | some (_, letter) => turn isOn letter
          | none => Act.fail ("Illegal option -o ".toList ++ name)
          turnOptions args
      else turnOptions args
    else return some ((sign :: c :: cs) :: args)
  | args => return some args

/-- Sets options and arguments, or shows all variables. -/
def set : Builtin := fun args => do
  if args.isEmpty then
    for (name, v) in ← sortedVariables do
      v.value.forM fun value => Act.say (name ++ '=' :: singleQuoted value ++ ['\n'])
  else
    (← turnOptions args).forM fun args =>
      Act.changeShell fun sh => { sh with arguments := args }
  return 0

/-- Reads the next option of arguments into a variable. The letter counts from `OPTIND` on, and
`lettersRead` tells how far into an argument. -/
def getopts : Builtin := fun args => do
  match ← letters [] [] args with
  | (_, wanted :: name :: args) =>
    let sh ← Act.shell
    let args := if args.isEmpty then sh.arguments else args
    let index := max 1 (((← Act.lookup "OPTIND".toList).bind decimal?).getD 1).toNat
    let isQuiet := wanted.head? = some ':'
    let leave (index read : Nat) (letter : Char) (status : Nat) : Act Nat := do
      Act.assign "OPTIND".toList (digitsOf index)
      Act.assign name [letter]
      Act.changeShell fun sh => { sh with lettersRead := read }
      return status
    let current := args.getD (index - 2) []
    let isInside := 1 < index && 0 < sh.lettersRead && sh.lettersRead < current.length
    let arg := if isInside then current else args.getD (index - 1) []
    let read := if isInside then sh.lettersRead else 1
    let index := if isInside then index else index + 1
    if !isInside && (arg.head? ≠ some '-' || arg.length < 2) then leave (index - 1) 0 '?' 1
    else if !isInside && arg = ['-', '-'] then leave index 0 '?' 1
    else
      let letter := arg.getD read '?'
      let rest := arg.drop (read + 1)
      match (wanted.dropWhile (· ≠ letter)).head?, letter with
      | none, _ | some _, ':' =>
        if isQuiet then Act.assign "OPTARG".toList [letter]
        else
          let _ ← Act.write 2 ("Illegal option -".toList ++ [letter, '\n'])
          Act.putVariable "OPTARG".toList none
        leave index (if rest.isEmpty then 0 else read + 1) '?' 0
      | some _, _ =>
        if (wanted.dropWhile (· ≠ letter))[1]? = some ':' then
          if !rest.isEmpty then
            Act.assign "OPTARG".toList rest
            leave index 0 letter 0
          else
            match args[index - 1]? with
            | some value =>
              Act.assign "OPTARG".toList value
              leave (index + 1) 0 letter 0
            | none =>
              if isQuiet then
                Act.assign "OPTARG".toList [letter]
                leave index 0 ':' 0
              else
                let _ ← Act.write 2 ("No arg for -".toList ++ letter :: " option\n".toList)
                Act.putVariable "OPTARG".toList none
                leave index 0 '?' 0
        else
          Act.assign "OPTARG".toList []
          leave index (if rest.isEmpty then 0 else read + 1) letter 0
  | _ => Act.fail "Usage: getopts optstring var [arg...]".toList

/-! ### Names of commands -/

/-- The place of a name among others: a number that is computed from its characters. -/
def placeOf (name : List Char) : Nat :=
  (name.foldl (fun n c => n + c.toNat) ((name.headD '\x00').toNat * 16)) % 39

/-- Gives words another meaning, or shows it. An equals sign in front belongs to the word. -/
def aliasNames : Builtin := fun args => do
  let showAlias (name value : List Char) : Act Unit :=
    Act.say (name ++ '=' :: singleQuoted value ++ ['\n'])
  if args.isEmpty then
    let all := (← Act.shell).aliases.mergeSort fun a b => placeOf a.1 ≤ placeOf b.1
    for (name, value) in all do showAlias name value
    return 0
  else
    let mut status := 0
    for arg in args do
      let name := arg.take 1 ++ (arg.drop 1).takeWhile (· ≠ '=')
      match arg.drop name.length with
      | _ :: value =>
        Act.changeShell fun sh => { sh with
          aliases :=
            if sh.aliases.any (·.1 = name) then
              sh.aliases.map fun a => if a.1 = name then (name, value) else a
            else sh.aliases ++ [(name, value)] }
      | [] =>
        match (← Act.shell).aliases.lookup name with
        | some value => showAlias name value
        | none =>
          let _ ← Act.write 2 ("alias: ".toList ++ name ++ " not found\n".toList)
          status := 1
    return status

/-- Takes the other meaning of words away. -/
def unaliasNames : Builtin := fun args => do
  let (options, names) ← letters ['a'] [] args
  if !options.isEmpty then
    Act.changeShell fun sh => { sh with aliases := [] }
    return 0
  else
    let mut status := 0
    for name in names do
      if ((← Act.shell).aliases.lookup name).isNone then
        let _ ← Act.write 2 ("unalias: ".toList ++ name ++ " not found\n".toList)
        status := 1
      Act.changeShell fun sh => { sh with aliases := sh.aliases.filter (·.1 ≠ name) }
    return status

/-- Looks programs up, so that they are found sooner later on. -/
def hash : Builtin := fun args => do
  let mut status := 0
  for name in (← letters ['r', 'v'] [] args).2 do
    if (← Act.program? name).isNone then
      Act.complain (name ++ ": not found".toList)
      status := 1
  return status

/-! ### Processes -/

/-- Sends a signal to the process of the shell. -/
def sendToSelf (signal : Nat) : Act Unit := do
  let sh ← Act.shell
  let isSure := signal = 9 || signal = 19
  match (if isSure then none else sh.traps.lookup signal) with
  | some _ => Act.changeWorld fun w => { w with signals := w.signals ++ [(sh.process, signal)] }
  | none =>
    match fateOf signal with
    | .goesOn => return ()
    | .stops => Act.never
    | .ends => throw (.killed signal)

/-- Sends a signal to a process, or with a minus sign to a group of processes, and says whether
there is one. -/
def send (signal : Nat) (process : Int) : Act Bool := do
  let sh ← Act.shell
  let w ← Act.world
  let isMeant (number group : Nat) : Bool :=
    if process < 0 then (group : Int) = -process
    else if process = 0 then group = sh.group
    else (number : Int) = process
  let others := w.others.filter fun (number, group) => isMeant number group
  Act.changeWorld fun w => { w with signals := w.signals ++ others.map fun p => (p.1, signal) }
  if !others.isEmpty && signal ≠ 0 then
    let _ ← Act.ask .turn
  if isMeant sh.process sh.group then
    sendToSelf signal
    return true
  let isKnown := sh.jobs.any fun j => j.processes.any fun n => (n : Int) = process
  return !others.isEmpty || isKnown

/-- How `kill` is used. -/
def killUsage : List Char :=
  ("Usage: kill [-s sigspec | -signum | -sigspec] [pid | job]... or\n" ++
    "kill -l [exitstatus]").toList

/-- The job that a word calls: the current one, the one before it, or the one of a number. -/
def jobOf (name : List Char) : Act Job := do
  let jobs := (← Act.shell).jobs
  let found (job? : Option Job) (fault : String) : Act Job :=
    match job? with
    | some j => return j
    | none => Act.fail fault.toList
  match name with
  | ['%'] | ['%', '+'] | ['%', '%'] => found jobs.head? "No current job"
  | ['%', '-'] => found jobs[1]? "No previous job"
  | '%' :: digits =>
    let job? := if digits.all isDigit && valueOf digits ≠ 0 then
        jobs.reverse[valueOf digits - 1]? else none
    found job? ("No such job: " ++ String.ofList name)
  | _ => found none ("No such job: " ++ String.ofList name)

/-- Sends a signal to each of some processes. -/
def sendAll (signal : Nat) (processes : List (List Char)) : Act Nat := do
  if processes.isEmpty then Act.fail killUsage
  let mut status := 0
  for p in processes do
    let n ← match p with
      | '-' :: digits => do
        let n ← natural digits
        pure (-(n : Int))
      | '%' :: _ => do
        let j ← jobOf p
        pure (j.process : Int)
      | digits => do
        let n ← natural digits
        pure (n : Int)
    if !(← send signal n) then
      Act.complain "No such process\n".toList
      status := 1
  return status

/-- Sends signals to processes. -/
def kill : Builtin := fun args => do
  match args with
  | [] => Act.fail killUsage
  | arg :: rest =>
    match arg with
    | '-' :: name =>
      match signalOf? name with
      | some 0 | none =>
        if name = ['0'] then sendAll 0 rest
        else
          let (options, operands) ← letters ['l'] ['s'] args
          if options.any (·.1 = 'l') then listSignals operands
          else
            match options.getLast? with
            | none => sendAll 15 operands
            | some (_, name) =>
              match signalOf? name with
              | some signal => sendAll signal operands
              | none => Act.fail ("invalid signal number or name: ".toList ++ name)
      | some signal => sendAll signal rest
    | _ => sendAll 15 args
where
  /-- Shows the names of all signals, or of one of them. -/
  listSignals (operands : List (List Char)) : Act Nat := do
    match operands with
    | [] =>
      Act.say (("0" :: signalList).map (·.toList ++ ['\n'])).flatten
      return 0
    | n :: _ =>
      let n ← natural n
      match Program.signalName? (if 128 < n then n - 128 else n) with
      | some name =>
        Act.say (name.toList ++ ['\n'])
        return 0
      | none => Act.fail ("invalid signal number or exit status: ".toList ++ digitsOf n)

/-- The signal that has come to the shell and for which it has plans, if there is one. -/
def pendingSignal? : Act (Option Nat) := do
  let sh ← Act.shell
  return (← Act.world).signals.lookup sh.process

/-- Waits for the processes of a job. Gives the status of the last one, or the signal that has
come first. -/
def waitForJob (j : Job) : Act (Except Nat Nat) :=
  go (.exited 0) j.processes.reverse
where
  /-- Waits for the processes that are left. -/
  go (last : Ending) : List Nat → Act (Except Nat Nat)
    | [] => return .ok last.status
    | n :: rest => do
      let hasEnded ← Act.ask (.ending n none true)
      match hasEnded, ← pendingSignal? with
      | false, some signal => return .error signal
      | _, _ => go (← Act.endingOf n) rest

/-- Waits for all jobs. -/
def waitForAll : List Job → Act Nat
  | [] => return 0
  | j :: js => do
    match ← waitForJob j with
    | .ok _ => waitForAll js
    | .error signal => return 128 + signal

/-- Waits for commands that nobody has waited for. -/
def wait : Builtin := fun args => do
  let jobs := (← Act.shell).jobs
  if args.isEmpty then waitForAll jobs.reverse
  else
    let mut status := 0
    for arg in args do
      let job? ← match arg with
        | '%' :: _ => do
          let j ← jobOf arg
          pure (some j)
        | arg => do
          let process ← natural arg
          pure (jobs.find? (·.processes.contains process))
      match job? with
      | none => status := 127
      | some j =>
        match ← waitForJob j with
        | .error signal => return 128 + signal
        | .ok n =>
          if 128 < n then
            (signalText (n - 128)).forM fun text => do
              let _ ← Act.write 2 (text.toList ++ ['\n'])
          status := n
    return status

/-- Sets what is done when signals come. -/
def trap : Builtin := fun args => do
  match (← letters [] [] args).2 with
  | [] =>
    for (signal, action) in (← Act.shell).traps.mergeSort fun a b => a.1 ≤ b.1 do
      let name := if signal = 0 then "EXIT" else (Program.signalName? signal).getD "RTMIN"
      Act.say ("trap -- ".toList ++ singleQuoted action ++ ' ' :: name.toList ++ ['\n'])
    return 0
  | [name] => change none [name]
  | ['-'] :: names => change none names
  | action :: names => change (some action) names
where
  /-- Sets the action for each of some signals. -/
  change (action : Option (List Char)) : List (List Char) → Act Nat
    | [] => return 0
    | name :: names => do
      match signalOf? name with
      | none =>
        let _ ← Act.write 2 ("trap: ".toList ++ name ++ ": bad trap\n".toList)
        return 1
      | some signal =>
        Act.changeShell fun sh =>
          let others := sh.traps.filter (·.1 ≠ signal)
          { sh with traps := match action with
            | some text => (signal, text) :: others
            | none => others }
        change action names

/-- Shows how long commands took: no time that counts. -/
def times : Builtin := fun _ => do
  Act.say "0m0.000000s 0m0.000000s\n0m0.000000s 0m0.000000s\n".toList
  return 0

/-- Shows how much of something a process may have: as much as there is, but it leaves no image
of itself when it is killed. -/
def ulimit : Builtin := fun args => do
  let (options, operands) ← letters "HSatfdscmlpnvwr".toList [] args
  if operands.isEmpty then
    let isImage := options.getLast?.any (·.1 = 'c')
    Act.say (if isImage then "0\n".toList else "unlimited\n".toList)
  return 0

/-- Goes on with a command that was stopped; there is never one. -/
def resume : Builtin := fun _ => Act.fail "No current job".toList

/-! ### Ways out -/

/-- Leaves loops, or goes on to their next rounds. -/
def skip (skipping : Nat → Skipping) : Builtin := fun args => do
  let n ← args.head?.elim (pure 1) natural
  if n = 0 then Act.fail ("Illegal number: ".toList ++ args.headD [])
  let n := min n (← Act.shell).loops
  if 0 < n then Act.changeShell fun sh => { sh with skipping := skipping n }
  return 0

/-- Leaves a function or a script. -/
def returnStatus : Builtin := fun args => do
  let status ← args.head?.elim (do return (← Act.shell).status) natural
  Act.changeShell fun sh => { sh with skipping := .toReturn }
  return status

/-- Ends the shell. -/
def exit : Builtin := fun args => do
  let sh ← Act.shell
  let status ← args.head?.elim (return sh.leaving.getD sh.status) natural
  Act.changeShell fun sh => { sh with status }
  throw .ends

end Builtin

/-- The command of the shell's own that a name calls. -/
def builtin? (name : List Char) : Option Builtin :=
  match String.ofList name with
  | "echo" => some Builtin.echo
  | "printf" => some Builtin.printf
  | "test" => some Builtin.test
  | "[" => some Builtin.bracket
  | "read" => some Builtin.read
  | "cd" | "chdir" => some Builtin.cd
  | "pwd" => some Builtin.pwd
  | "umask" => some Builtin.umask
  | "export" => some Builtin.exportNames
  | "readonly" => some Builtin.readonlyNames
  | "unset" => some Builtin.unset
  | "local" => some Builtin.localNames
  | "shift" => some Builtin.shift
  | "set" => some Builtin.set
  | "getopts" => some Builtin.getopts
  | "alias" => some Builtin.aliasNames
  | "unalias" => some Builtin.unaliasNames
  | "kill" => some Builtin.kill
  | "wait" => some Builtin.wait
  | "trap" => some Builtin.trap
  | "times" => some Builtin.times
  | "ulimit" => some Builtin.ulimit
  | "break" => some (Builtin.skip .toBreak)
  | "continue" => some (Builtin.skip .toContinue)
  | "return" => some Builtin.returnStatus
  | "exit" => some Builtin.exit
  | "hash" => some Builtin.hash
  | "bg" | "fg" => some Builtin.resume
  | "true" | ":" | "jobs" => some fun _ => return 0
  | "false" => some fun _ => return 1
  | _ => none

end ParserConformance.Script
