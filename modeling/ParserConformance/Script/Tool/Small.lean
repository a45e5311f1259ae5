import ParserConformance.Script.Lookup
import ParserConformance.Script.Printing
import ParserConformance.Script.Tool.Call

/-!
# Small tools

Tools that answer with little more than a status, or show something of the system.
-/

namespace ParserConformance.Script.Tool

/-! ### Statuses and time -/

/-- Ends well. -/
def succeed : Tool := fun c => .ofStatus c 0

/-- Ends badly. -/
def failAlways : Tool := fun c => .ofStatus c 1

/-- Tells whether a condition holds. -/
def conditionHolds : Tool := fun c =>
  let args := if c.args.getLast? = some [']'] then c.args.dropLast else c.args
  match Condition.holds (fileQuestions c.disk) (args.length + 1) args with
  | .ok b => .ofStatus c (if b then 0 else 1)
  | .error fault => .ofComplaint c 2 fault.message

/-- A time in microseconds, written in seconds or, with a letter behind it, in another unit. -/
def timeOf? (arg : List Char) : Option Nat :=
  let word := (arg.dropWhile isSpaceChar).map Char.toLower
  let word := if word.head? = some '+' then word.drop 1 else word
  let read? : Option (Magnitude × List Char) :=
    if "infinity".toList.isPrefixOf word then some (.infinite, word.drop 8)
    else if "inf".toList.isPrefixOf word then some (.infinite, word.drop 3)
    else
      match readReal? arg with
      | some (⟨isNegative, m⟩, rest) =>
        if isNegative && m ≠ .finite 0 0 then none else some (m, rest)
      | none => none
  read?.bind fun (m, rest) =>
    let unit? := match rest with
      | [] | ['s'] => some 1
      | ['m'] => some 60
      | ['h'] => some 3600
      | ['d'] => some 86400
      | _ => none
    unit?.map fun unit =>
      match m with
      | .infinite => endlessTime
      | .finite mantissa exponent =>
        let (n, d) := Magnitude.quotient mantissa exponent
        min endlessTime ((n * unit * 1000000 + d - 1) / d)

/-- Lets time pass. -/
def sleep : Tool :=
  withOptions {} 1 fun c o =>
    if o.operands.isEmpty then .ofMisuse c 1 "missing operand".toList
    else
      match o.operands.filter fun text => (timeOf? text).isNone with
      | [] => { Effect.ofStatus c 0 with delay := (o.operands.filterMap timeOf?).sum }
      | bad =>
        let complaint (text : List Char) := "invalid time interval ".toList ++ quoted text
        let e := bad.dropLast.foldl (fun e text => e.complain c 1 (complaint text))
          (Effect.ofStatus c 1)
        e.complain c 1 (complaint (bad.getLast?.getD []) ++ Effect.hint c)

/-- How often a line is written at a time that is written without end. -/
def manyTimes : Nat := 10000

/-- Writes a line again and again. -/
def yes : Tool := fun c =>
  let line := (if c.args.isEmpty then ['y'] else [' '].intercalate c.args) ++ ['\n']
  { Effect.ofStatus c 0 with
    delay := endlessTime
    further := some fun _ => some (List.replicate manyTimes line).flatten }

/-! ### The system -/

/-- Shows where programs are found that are called by name. -/
def which : Tool := fun c =>
  let all := c.args.head? = some "-a".toList
  let names := c.args.filter fun arg => arg.head? ≠ some '-'
  let directories := (c.environment.lookup "PATH".toList).getD []
  names.foldl (fun e name =>
    let paths := if name.contains '/' then [name] else candidates directories name
    match paths.filter (isProgram c.disk) with
    | [] => { e with status := 1 }
    | path :: others =>
      ((if all then path :: others else [path]).foldl (fun e p => e.write (p ++ ['\n'])) e))
    (.ofStatus c (if names.isEmpty then 1 else 0))

/-- A tool that knows no options but some, and takes no other arguments. -/
def withoutOperands (known : Known) (misuse : Nat) (run : Call → Options → Effect) : Tool :=
  withOptions known misuse fun c o =>
    match o.operands with
    | [] => run c o
    | extra :: _ => .ofMisuse c misuse ("extra operand ".toList ++ quoted extra)

/-- Shows by which name the user goes. -/
def whoami : Tool := withoutOperands {} 1 fun c _ => .ofOutput c "root\n".toList

/-- Shows the name under which somebody has begun to work; nobody has. -/
def logname : Tool := withoutOperands {} 1 fun c _ => .ofComplaint c 1 "no login name".toList

/-- Shows who is at work: nobody. -/
def users : Tool := withOptions {} 1 fun c _ => .ofStatus c 0

/-- What is known of a user in numbers and names. -/
def identityOf (d : Disk) (u : User) (o : Options) : String :=
  let group := groupName d u.group
  let pick (number : Nat) (name : String) : String :=
    if o.has 'n' then name else toString number
  if o.has 'u' then pick u.number u.name
  else if o.has 'g' || o.has 'G' then pick u.group group
  else
    let of (n : Nat) (name : String) : String := toString n ++ "(" ++ name ++ ")"
    "uid=" ++ of u.number u.name ++ " gid=" ++ of u.group group ++ " groups=" ++ of u.group group

/-- Shows users by number, or, if that is asked for, by name. -/
def identify : Tool :=
  withOptions { flags := "aZugnGrz", long := [("user", 'u'), ("group", 'g'), ("groups", 'G'),
    ("name", 'n'), ("real", 'r'), ("zero", 'z')] } 1
  fun c o =>
    let chosen := o.letters.filter fun l => "ugG".toList.contains l.1
    if chosen.isEmpty && (o.has 'n' || o.has 'r') then
      .ofComplaint c 1 "cannot print only names or real IDs in default format".toList
    else if 1 < chosen.length && chosen.any (·.1 ≠ (chosen.headD (Char.ofNat 0, [])).1) then
      .ofComplaint c 1 "cannot print \"only\" of more than one choice".toList
    else
      let names := if o.operands.isEmpty then ["root".toList] else o.operands
      names.foldl (fun e name =>
        let user? := match userNamed? c.disk name, natural? name with
          | some u, _ => some u
          | none, some n => (usersOn c.disk).find? (·.number = n)
          | none, none => none
        match user? with
        | some u => e.write ((identityOf c.disk u o).toList ++ [if o.has 'z' then '\x00' else '\n'])
        | none => e.complain c 1 (quoted name ++ ": no such user".toList)) (.ofStatus c 0)

/-- Shows the groups that users are in. -/
def groups : Tool := withOptions {} 1 fun c o =>
  if o.operands.isEmpty then .ofOutput c "root\n".toList
  else
    o.operands.foldl (fun e name =>
      match userNamed? c.disk name with
      | some u => e.write (name ++ " : ".toList ++ (groupName c.disk u.group).toList ++ ['\n'])
      | none => e.complain c 1 (quoted name ++ ": no such user".toList)) (.ofStatus c 0)

/-- Shows the terminal that the input comes from; it comes from none. -/
def tty : Tool :=
  withoutOperands { flags := "s", long := [("silent", 's'), ("quiet", 's')] } 2 fun c o =>
    { Effect.ofOutput c (if o.has 's' then [] else "not a tty\n".toList) with status := 1 }

/-- How many processors there are. -/
def processors : Nat := 4

/-- Shows how many processors there are. -/
def nproc : Tool :=
  withoutOperands { flags := "a", valued := "i", hidden := "ai"
                    long := [("all", 'a'), ("ignore", 'i')] } 1 fun c o =>
    match (o.value? 'i').map natural? with
    | some none => .ofComplaint c 1 ("invalid number: ".toList ++ quoted ((o.value? 'i').getD []))
    | some (some n) => .ofOutput c (digitsOf (max 1 (processors - n)) ++ ['\n'])
    | none => .ofOutput c (digitsOf processors ++ ['\n'])

/-- Sees to it that nothing is lost. -/
def sync : Tool := withOptions { flags := "df", long := [("data", 'd'), ("file-system", 'f')] } 1
  fun c o =>
    o.operands.foldl (fun e name =>
      match c.disk.stat (pathOfChars name) with
      | .ok _ => e
      | .error t => e.complain c 1 ("error opening ".toList ++ quotedComplaint name t))
      (.ofStatus c 0)

/-- Writes its arguments as they are, or, if that is asked for, with escapes. -/
def echoArgs : Tool := fun c =>
  let isOption (arg : List Char) := arg.head? = some '-' && 1 < arg.length &&
    (arg.drop 1).all fun l => "neE".toList.contains l
  let options := c.args.takeWhile isOption
  let text := [' '].intercalate (c.args.drop options.length)
  let final := if options.any (·.contains 'n') then [] else ['\n']
  let escapes := (options.flatten.filter fun l => l = 'e' || l = 'E').getLast? = some 'e'
  if escapes then
    let (text, whole) := echoText (text.length + 1) text
    .ofOutput c (text ++ if whole then final else [])
  else .ofOutput c (text ++ final)

/-- Writes in a format. -/
def printfArgs : Tool := fun c =>
  match c.args with
  | [] => .ofMisuse c 1 "missing operand".toList
  | format :: args =>
    let p := Script.printf format args
    let e := (p.complaints ++ p.fault.toList).foldl (fun e t => e.complain c 1 t)
      (Effect.ofStatus c 0)
    e.write p.output

/-- Writes the variables that it sees, or the values of some of them. -/
def printenv : Tool := fun c =>
  match c.args with
  | [] => .ofOutput c (unlines (c.environment.map fun (name, value) => name ++ '=' :: value))
  | names => names.foldl (fun e name =>
      match c.environment.lookup name with
      | some value => e.write (value ++ ['\n'])
      | none => { e with status := 1 }) (.ofStatus c 0)

/-- The name of the machine. -/
def machineName : String := "localhost"

/-- What can be said of the system, each by a letter, in the order in which it is written. -/
def systemFacts : List (Char × String) :=
  [('s', "Linux"), ('n', machineName), ('r', "6.1.0"), ('v', "#1 SMP"), ('m', "x86_64"),
    ('p', "unknown"), ('i', "unknown"), ('o', "GNU/Linux")]

/-- Writes what can be said of the system. -/
def uname : Tool :=
  withoutOperands {
    flags := "asnrvmpio"
    long := [("all", 'a'), ("kernel-name", 's'), ("sysname", 's'), ("nodename", 'n'),
      ("kernel-release", 'r'), ("release", 'r'), ("kernel-version", 'v'), ("machine", 'm'),
      ("processor", 'p'), ("hardware-platform", 'i'), ("operating-system", 'o')] } 1 fun c o =>
    let isWanted (fact : Char × String) : Bool :=
      if o.letters.isEmpty then fact.1 = 's'
      else o.has fact.1 || (o.has 'a' && fact.2 ≠ "unknown")
    .ofOutput c ((" ".intercalate ((systemFacts.filter isWanted).map (·.2))).toList ++ ['\n'])

/-- Writes the kind of the machine. -/
def arch : Tool := withoutOperands {} 1 fun c _ => .ofOutput c "x86_64\n".toList

/-- Writes the name of the machine. -/
def hostname : Tool := withOptions {
    flags := "adfisIA", long := [("short", 's'), ("fqdn", 'f'), ("long", 'f')] } 1
  fun c _ => .ofOutput c (machineName.toList ++ ['\n'])

/-- Writes the number of the machine. -/
def hostid : Tool := withoutOperands {} 1 fun c _ => .ofOutput c "007f0100\n".toList

/-- Writes the working directory. -/
def pwdPath : Tool := fun c =>
  .ofOutput c (ofText (Disk.pathOf c.disk.here).text ++ ['\n'])

end ParserConformance.Script.Tool
