import ParserConformance.Script.Awk.Reader
import ParserConformance.Script.Awk.Run

/-!
# Starting text programs

A program is given as an argument or in files. Its first rules are run before its input is read,
the others for each record of that, and the last ones at the end.
-/

namespace ParserConformance.Script.Awk

open Working

/-! ### Rules -/

section

variable (s : Setting)

/-- Whether a rule applies. -/
def Condition.holds : Condition → Working Bool
  | .first | .last => return false
  | .always => return true
  | .when e => do return (← value s e).holds
  | .range n a b => do
    let isInside ← if (← get).ranges.contains n then pure true
      else do pure (← value s a).holds
    if isInside then
      let isEnd := (← value s b).holds
      let others := (← get).ranges.filter (· ≠ n)
      modify fun p => { p with ranges := if isEnd then others else n :: others }
      return true
    else return false

/-- Does what a rule says. -/
def Rule.perform (r : Rule) : Working Unit := do
  match r.body with
  | some body =>
    let _ ← Awk.perform s body
  | none => output false [] none

/-- Runs rules for the record at hand. Gives whether the file goes on. -/
def performRules (rules : List Rule) : Working Bool :=
  tryCatch (do
    rules.forM fun r => do if ← r.condition.holds s then r.perform s
    return true) fun h =>
    match h with
    | .next isFile => return !isFile
    | h => throw h

/-- Runs rules for each record. -/
def eachRecord (rules : List Rule) : (room : Nat) → Working Unit
  | 0 => return ()
  | room + 1 => do
    match ← nextRecord s.program fileLimit with
    | none => return ()
    | some text =>
      setRecord text
      if !(← performRules s rules) then skipFile
      eachRecord rules room

/-- Does something that may end the program. Gives whether it has. -/
def ending (body : Working Unit) : Working Bool :=
  tryCatch (do
    body
    return false) fun h =>
    match h with
    | .exits => do
      modify fun p => { p with own := #[], depth := 0 }
      return true
    | h => throw h

/-- How many records there may be. -/
def recordLimit : Nat := 10 ^ 15

/-- Runs all rules. -/
def performAllRules : Working Unit := do
  let isFirst (r : Rule) : Bool := r.condition matches .first
  let isLast (r : Rule) : Bool := r.condition matches .last
  let rules := s.program.rules
  let middle := rules.filter fun r => !isFirst r && !isLast r
  let last := rules.filter isLast
  let hasEnded ← ending do
    (rules.filter isFirst).forM (·.perform s)
    if !middle.isEmpty || !last.isEmpty then eachRecord s middle recordLimit
  let _ := hasEnded
  let _ ← ending (last.forM (·.perform s))

end

/-! ### Options -/

/-- What a call asks for. -/
structure Request where
  /-- The files of the program. -/
  files : List (List Char) := []
  /-- The variables that are set first, with their values. -/
  settings : List (List Char × List Char) := []
  /-- The arguments behind the options. -/
  operands : List (List Char) := []
  /-- What is shown in place of all else. -/
  shown : Option String := none

/-- What is shown of how the program is called. -/
def usage : String :=
  "Usage: mawk [Options] [Program] [file ...]\n\nProgram:\n" ++
  "    The -f option value is the name of a file containing program text.\n" ++
  "    If no -f option is given, a \"--\" ends option processing; the following\n" ++
  "    parameters are the program text.\n\nOptions:\n" ++
  "    -f program-file  Program  text is read from file instead of from the\n" ++
  "                     command-line.  Multiple -f options are accepted.\n" ++
  "    -F value         sets the field separator, FS, to value.\n" ++
  "    -v var=value     assigns value to program variable var.\n" ++
  "    --               unambiguous end of options.\n\n" ++
  "    Implementation-specific options are prefixed with \"-W\".  They can be\n" ++
  "    abbreviated:\n\n" ++
  "    -W version       show version information and exit.\n" ++
  "    -W compat        pre-POSIX 2001.\n" ++
  "    -W dump          show assembler-like listing of program and exit.\n" ++
  "    -W help          show this message and exit.\n" ++
  "    -W interactive   set unbuffered output, line-buffered input.\n" ++
  "    -W exec file     use file as program as well as last option.\n" ++
  "    -W posix         stricter POSIX checking.\n" ++
  "    -W random=number set initial random seed.\n" ++
  "    -W sprintf=number adjust size of sprintf buffer.\n" ++
  "    -W usage         show this message and exit.\n"

/-- The words of long options that may be abbreviated, and what is shown for them. -/
def longOptions : List (String × Option String) :=
  [("version", some "mawk 1.3.4 20240123\n"), ("compat", none), ("help", some usage),
    ("interactive", none), ("posix", none), ("random", none), ("sprintf", none),
    ("usage", some usage)]

/-- Takes a long option; nothing if there is none of that name. -/
def Request.long? (r : Request) (word : List Char) : Option Request :=
  let name := word.takeWhile (· ≠ '=')
  if name.isEmpty then none
  else
    (longOptions.find? fun o => name.isPrefixOf o.1.toList).map fun o =>
      { r with shown := r.shown <|> o.2 }

/-- Takes the value of an option. As an error, a complaint. -/
def Request.take (r : Request) (letter : Char) (value : List Char) :
    Except (List Char) Request :=
  match letter with
  | 'f' => .ok { r with files := r.files ++ [value] }
  | 'F' => .ok { r with settings := r.settings ++ [("FS".toList, value)] }
  | _ =>
    match setting? value with
    | some setting => .ok { r with settings := r.settings ++ [setting] }
    | none => .error ("improper assignment: -v ".toList ++ value)

/-- Reads options. As an error, a complaint. -/
def Request.read : (room : Nat) → Request → List (List Char) → Except (List Char) Request
  | 0, r, _ => .ok r
  | room + 1, r, args =>
    match args with
    | ['-', '-'] :: rest => .ok { r with operands := rest }
    | ('-' :: '-' :: word) :: rest =>
      match r.long? word with
      | some r => read room r rest
      | none => .error ("not an option: --".toList ++ word)
    | ('-' :: letter :: more) :: rest =>
      if !"fFvW".toList.contains letter then
        .error ("not an option: -".toList ++ letter :: more)
      else if more.isEmpty && rest.isEmpty then
        .error ("option -".toList ++ letter :: " lacks argument".toList)
      else
        let (value, rest) := if more.isEmpty then (rest.headD [], rest.drop 1) else (more, rest)
        if letter = 'W' then read room ((r.long? value).getD r) rest
        else
          match r.take letter value with
          | .ok r => read room r rest
          | .error text => .error text
    | operands => .ok { r with operands }

/-! ### Programs -/

/-- Reads the text of a program from files. -/
def programText (files : List (List Char)) : Working (List Char) := do
  let texts ← files.mapM fun file => do
    match ← contentOf file with
    | .ok text => return text
    | .error t =>
      fail ("cannot open \"".toList ++ file ++ "\" (".toList ++ t.reason.toList ++ [')'])
  return texts.flatten

/-- The variables whose values are known from the start. -/
def firstValues : List (String × Value) :=
  [("NF", .ofNat 0), ("NR", .ofNat 0), ("FNR", .ofNat 0), ("FS", .text [' ']),
    ("OFS", .text [' ']), ("RS", .text ['\n']), ("ORS", .text ['\n']),
    ("SUBSEP", .text ['\x1c']), ("CONVFMT", .text "%.6g".toList),
    ("OFMT", .text "%.6g".toList)]

/-- Sets the variables of a program before it is run. -/
def prepare (program : Program) (words : List (List Char))
    (environment : List (List Char × List Char)) : Working Unit := do
  let args : Table := (words.zipIdx).foldl (fun t (w, n) => t.insert (.number n) (.input w)) {}
  let given : Table := environment.foldl (fun t (n, v) => t.insert (.text n) (.input v)) {}
  let (globals, tables) := program.globals.foldl
    (fun ((slots, tables) : Array Slot × Array Table) (name, isTable) =>
      let text := String.ofList name
      if isTable then
        let t := if text = "ARGV" then args else if text = "ENVIRON" then given else {}
        (slots.push (.table tables.size), tables.push t)
      else
        let v := if text = "ARGC" then .ofNat words.length
          else (firstValues.lookup text).getD .unset
        (slots.push (.value v), tables))
    (#[], #[])
  let seed := Value.ofNat ((← timeNow) / 1000000)
  modify fun p => { p with globals, tables, seed, chance := chanceOf seed.toNumber }

/-- Runs a program as a call asks. -/
def start (engine : Engine) (r : Request) : Working Unit := do
  let name := (← get).name
  let (text, operands) ← match r.files with
    | [] => pure (r.operands.headD [], r.operands.drop 1)
    | files => do pure (← programText files, r.operands)
  match readProgram text with
  | .error faults =>
    let file := r.files.getLast?.elim [] (· ++ ": ".toList)
    faults.forM fun line => complain (file ++ line)
    modify fun p => { p with status := 2 }
  | .ok program =>
    prepare program (name :: operands) (← Engine.environment)
    r.settings.forM fun (name, text) => assignNamed program name text
    performAllRules (Setting.toDepth engine program callDepth)

end Awk

namespace Engine

open Awk

/-- Runs a program that works on text. -/
def awk (engine : Engine) (name : List Char) (args : List (List Char)) : Act Ending := do
  if args.isEmpty then
    let _ ← Act.write 2 usage.toList
    return .exited 0
  let body : Working Unit := do
    match Request.read (args.length + 1) {} args with
    | .error text => Working.fail text
    | .ok r =>
      match r.shown with
      | some text => Act.say text.toList
      | none => Awk.start engine r
  let all : Working Unit := do
    tryCatch body fun _ => return ()
    Working.finish engine
  let first : Progress := { name := Tool.lastName name, globals := #[], tables := #[] }
  let (_, p) ← (all.run.run first : Act (Except Halt Unit × Progress))
  return .exited (p.status % 256).toNat

end Engine

end ParserConformance.Script
