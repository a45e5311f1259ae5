import ParserConformance.Script.Runner.Basic

/-!
# Programs in other surroundings

`env` runs a program with variables of its own choice, or shows them. It can also part a text
into words, which scripts need that name their program with more than one argument.
-/

namespace ParserConformance.Script

namespace Surroundings

/-! ### Parting a text -/

/-- What is wrong with a text that is to be parted, or with a call. -/
inductive Fault where
  /-- A quote that is not closed. -/
  | unclosed
  /-- A backslash at the end. -/
  | lastBackslash
  /-- A backslash in front of a character that it does not go with. -/
  | unknownEscape (c : Char)
  /-- The end of the text called for between double quotes. -/
  | endInQuotes
  /-- A dollar sign in front of something that is no variable between braces. -/
  | noVariable (text : List Char)
  /-- Options that are none. -/
  | misuse (fault : Tool.OptionFault)
  deriving DecidableEq, Repr

/-- The wording of a fault. -/
def Fault.message : Fault → List Char
  | .unclosed => "no terminating quote in -S string".toList
  | .lastBackslash => "invalid backslash at end of string in -S".toList
  | .unknownEscape c => "invalid sequence '\\".toList ++ c :: "' in -S".toList
  | .endInQuotes => "'\\c' must not appear in double-quoted -S string".toList
  | .noVariable text =>
    "only $\x7bVARNAME\x7d expansion is supported, error at: ".toList ++ text
  | .misuse fault => fault.message

/-- Advice to whoever wrote options and words into one argument. -/
def partingAdvice : List Char := "use -[v]S to pass options in shebang lines".toList

/-- The words of a text that have been parted, backwards, and the one at work, if there is one. -/
structure Parted where
  /-- The words that are done. -/
  done : List (List Char)
  /-- The word at work, backwards. -/
  word : Option (List Char)

/-- With more characters in the word at work. -/
def Parted.add (p : Parted) (cs : List Char) : Parted :=
  { p with word := some (cs.reverse ++ p.word.getD []) }

/-- With the word at work done. -/
def Parted.close (p : Parted) : Parted :=
  match p.word with
  | some w => ⟨w.reverse :: p.done, none⟩
  | none => p

/-- The words. -/
def Parted.words (p : Parted) : List (List Char) := p.close.done.reverse

/-- The name of a variable between braces at the front of a text that follows a dollar sign. -/
def bracedName? : List Char → Option (List Char)
  | '\x7b' :: cs =>
    let name := cs.takeWhile isNameChar
    if isName name && cs[name.length]? = some '\x7d' then some name else none
  | _ => none

/-- The words of a text. Quotes keep blanks, a backslash stands in front of special characters,
and the value of a variable may stand between braces. -/
def part (seen : List (List Char × List Char)) : (room : Nat) → (quote : Option Char) →
    Parted → List Char → Except Fault (List (List Char))
  | 0, _, p, _ => .ok p.words
  | _ + 1, some _, _, [] => .error .unclosed
  | _ + 1, none, p, [] => .ok p.words
  | room + 1, quote, p, c :: cs =>
    let isSingle := quote = some '\''
    let goOn := part seen room
    if quote = some c then goOn none p cs
    else if quote.isNone && (c = '"' || c = '\'') then goOn (some c) (p.add []) cs
    else if quote.isNone && isSpaceChar c then goOn none p.close cs
    else if quote.isNone && c = '#' && p.word.isNone then .ok p.words
    else if c = '$' && !isSingle then
      match bracedName? cs with
      | none => .error (.noVariable (c :: cs))
      | some name =>
        let value := seen.lookup name
        goOn quote (value.elim p p.add) (cs.drop (name.length + 2))
    else if c = '\\' then
      match cs with
      | [] => if isSingle then goOn quote (p.add [c]) cs else .error .lastBackslash
      | d :: rest =>
        if isSingle then
          if d = '\\' || d = '\'' then goOn quote (p.add [d]) rest else goOn quote (p.add [c]) cs
        else if "\"#$'\\".toList.contains d then goOn quote (p.add [d]) rest
        else if d = '_' then
          if quote.isSome then goOn quote (p.add [' ']) rest else goOn quote p.close rest
        else if d = 'c' then if quote.isSome then .error .endInQuotes else .ok p.words
        else
          match [('f', '\x0c'), ('n', '\n'), ('r', '\r'), ('t', '\t'), ('v', '\x0b')].lookup d with
          | some e => goOn quote (p.add [e]) rest
          | none => .error (.unknownEscape d)
    else goOn quote (p.add [c]) cs

/-! ### Options -/

/-- The options of `env`. -/
def known : Tool.Known := {
  flags := "i0v"
  valued := "uCS"
  optional := "bdg"
  hidden := "bdgl"
  long := [("ignore-environment", 'i'), ("null", '0'), ("unset", 'u'), ("chdir", 'C'),
    ("split-string", 'S'), ("debug", 'v'), ("block-signal", 'b'), ("default-signal", 'd'),
    ("ignore-signal", 'g'), ("list-signal-handling", 'l')]
  endsAtOperand := true }

/-- What a call of `env` asks for. -/
structure Request where
  /-- The options with their values. -/
  options : Tool.Options
  /-- Lines about texts that were parted. -/
  notes : List (List Char)

/-- A text that was parted, as it is noted. -/
def noteOf (text : List Char) (words : List (List Char)) : List Char :=
  let line (start : String) (w : List Char) : List Char := start.toList ++ Tool.quoted w ++ ['\n']
  "split -S:  ".toList ++ Tool.quoted text ++ ['\n'] ++
    match words with
    | [] => []
    | w :: ws => line " into:    " w ++ ws.flatMap (line "     &    ")

/-- Reads the arguments of a call. The words of a text that is to be parted take its place. -/
def read (seen : List (List Char × List Char)) : (room : Nat) →
    List (Char × List Char) → List (List Char) → List (List Char) →
    Except Fault Request
  | 0, letters, notes, args => .ok ⟨⟨letters, args⟩, notes⟩
  | room + 1, letters, notes, args =>
    match args with
    | [] | ['-', '-'] :: _ =>
      .ok ⟨⟨letters, if args.isEmpty then [] else args.drop 1⟩, notes⟩
    | arg :: rest =>
      match Tool.Options.given? known arg rest.head? with
      | .error fault =>
        .error (.misuse fault)
      | .ok none => .ok ⟨⟨letters, args⟩, notes⟩
      | .ok (some (given, takesNext)) =>
        let rest := if takesNext then rest.drop 1 else rest
        match given.find? (·.1 = 'S') with
        | none => read seen room (letters ++ given) notes rest
        | some (_, text) =>
          match part seen (text.length + 1) none ⟨[], none⟩ text with
          | .error fault => .error fault
          | .ok words =>
            let letters := letters ++ given.filter (·.1 ≠ 'S')
            let notes := if letters.any (·.1 = 'v') then notes ++ [noteOf text words] else notes
            read seen room letters notes (words ++ rest)

/-- Variables with one of them set. -/
def put (name value : List Char) (all : List (List Char × List Char)) :
    List (List Char × List Char) :=
  if all.any (·.1 = name) then all.map fun v => if v.1 = name then (name, value) else v
  else all ++ [(name, value)]

end Surroundings

namespace Engine

open Surroundings

variable (engine : Engine)

/-- Runs a program with other variables, or shows the variables. -/
def env (name : List Char) (args : List (List Char)) : Act Ending := do
  let given ← environment
  let room := args.length + (args.map (·.length)).sum + 1
  match Surroundings.read given room [] [] args with
  | .error (.misuse (.unknownLetter c)) =>
    let text := Tool.OptionFault.message (.unknownLetter c)
    Runner.refuseMisuse name 125 (if !isSpaceChar c then text
      else text ++ '\n' :: name ++ ": ".toList ++ partingAdvice)
  | .error (.misuse fault) => Runner.refuseMisuse name 125 fault.message
  | .error fault => Runner.refuse name 125 fault.message
  | .ok ⟨o, notes⟩ =>
    let noted (text : List Char) : Act Unit := do
      if o.has 'v' then
        let _ ← Act.write 2 (text ++ ['\n'])
    notes.forM fun text => do
      let _ ← Act.write 2 text
    let isBare := o.operands.head? = some ['-']
    let operands := if isBare then o.operands.drop 1 else o.operands
    let isFresh := o.has 'i' || isBare
    if isFresh then noted "cleaning environ".toList
    let mut all := if isFresh then [] else given
    for n in o.values 'u' do
      if !isFresh then
        if n.isEmpty || n.contains '=' then
          return ← Runner.refuse name 125
            ("cannot unset ".toList ++ Tool.quoted n ++ ": Invalid argument".toList)
        noted ("unset:    ".toList ++ n)
        all := all.filter (·.1 ≠ n)
    let settings := operands.takeWhile (·.contains '=')
    for setting in settings do
      let n := setting.takeWhile (· ≠ '=')
      noted ("setenv:   ".toList ++ setting)
      all := put n (setting.drop (n.length + 1)) all
    let call := operands.drop settings.length
    if o.has '0' && !call.isEmpty then
      return ← Runner.refuseMisuse name 125 "cannot specify --null (-0) with command".toList
    if o.has 'C' && call.isEmpty then
      return ← Runner.refuseMisuse name 125 "must specify command with --chdir (-C)".toList
    if call.isEmpty then
      let stop := if o.has '0' then '\x00' else '\n'
      for (n, value) in all do Act.say (n ++ '=' :: value ++ [stop])
      return .exited 0
    match o.value? 'C' with
    | none => pure ()
    | some dir =>
      noted ("chdir:    ".toList ++ Tool.quotedName dir)
      match ← Runner.enter dir with
      | none => pure ()
      | some t =>
        return ← Runner.refuse name 125 ("cannot change directory to ".toList ++
          Tool.quotedComplaint dir t)
    Act.changeShell fun sh => { sh with surroundings := some all }
    noted ("executing: ".toList ++ call.headD [])
    for (word, n) in call.zipIdx do
      noted ("   arg[".toList ++ digitsOf n ++ "]= ".toList ++ Tool.quoted word)
    match ← engine.startOn call with
    | .ok ending => return ending
    | .error t =>
      Runner.complain name (Tool.quoted (call.headD []) ++ ": ".toList ++ t.reason.toList)
      if t = .notFound && (call.headD []).any isSpaceChar then
        Runner.complain name partingAdvice
      return .exited (Runner.statusOf t)

end Engine

end ParserConformance.Script
