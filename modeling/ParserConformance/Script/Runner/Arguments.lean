import ParserConformance.Script.Runner.Basic

/-!
# Programs called with arguments from a text

`xargs` cuts a text into arguments and calls a program with them, with so many of them at a time
as was asked for, or as fit. What the text is cut into does not depend on the calls, so it comes
first, as a list of steps.
-/

namespace ParserConformance.Script

namespace Arguments

/-! ### Cutting a text -/

/-- What is found in a text of arguments. -/
inductive Step where
  /-- An argument, and how long it is with its end. -/
  | word (cs : List Char) (size : Nat)
  /-- The end of a line that counts, if it does. -/
  | line (counts : Bool)
  /-- A byte that no argument can hold. -/
  | nul
  /-- A mistake, which ends all. -/
  | fault (text : String)
  deriving DecidableEq, Repr

/-- How a text is cut. -/
structure Manner where
  /-- The character that ends an argument, if blanks and quotes have no meaning. -/
  mark : Option Char
  /-- Whether whole lines are arguments. -/
  takesLines : Bool
  /-- The argument that ends the text. -/
  last : Option (List Char)
  /-- How long an argument may be. -/
  limit : Nat

/-- The steps of a text whose arguments end in a mark; the argument at work is held
backwards. -/
def markedSteps (m : Manner) (mark : Char) : List Char → (size : Nat) → List Char → List Step
  | word, size, [] => if size = 0 then [] else [.word word.reverse (size + 1)]
  | word, size, c :: cs =>
    if c = mark then .word word.reverse (size + 1) :: .line true :: markedSteps m mark [] 0 cs
    else if m.limit ≤ size then [.fault "argument line too long"]
    else markedSteps m mark (c :: word) (size + 1) cs

/-- Where in a text a character stands. -/
inductive Spot where
  /-- Behind a blank. -/
  | blank
  /-- In an argument. -/
  | inside
  /-- Between quotes. -/
  | quote (q : Char)
  /-- Behind a backslash. -/
  | escaped
  deriving DecidableEq, Repr

/-- An argument that is being cut out. -/
structure Cut where
  /-- Its characters, backwards. -/
  word : List Char := []
  /-- How many of them there are. -/
  size : Nat := 0
  /-- Whether a quote was seen on its line. -/
  isSeen : Bool := false
  /-- Whether it is the first one of its line. -/
  isFirst : Bool := true
  /-- The character before. -/
  before : Char := '\n'

/-- The argument as a step. -/
def Cut.step (k : Cut) : Step := .word k.word.reverse (k.size + 1)

/-- The mistake that an open quote is. -/
def openQuote (q : Char) : Step :=
  .fault ("unmatched " ++ (if q = '"' then "double" else "single") ++
    " quote; by default quotes are special to xargs unless you use the -0 option")

/-- Whether a character is a blank between arguments. -/
def isBlankChar (c : Char) : Bool := c = ' ' || c = '\t'

/-- The steps of a text whose arguments blanks, quotes and backslashes part. -/
def plainSteps (m : Manner) : Spot → Cut → List Char → List Step
  | spot, k, [] =>
    if k.size = 0 then []
    else
      match spot with
      | .quote q => [openQuote q]
      | _ => if k.isFirst && m.last = some k.word.reverse then [] else [k.step]
  | spot, k, c :: cs =>
    let goOn (spot : Spot) (k : Cut) : List Step :=
      (if c = '\x00' then [.nul] else []) ++ plainSteps m spot { k with before := c } cs
    let add (k : Cut) : List Step :=
      if m.limit ≤ k.size then [.fault "argument line too long"]
      else goOn .inside { k with word := c :: k.word, size := k.size + 1 }
    let isLast := m.last = some k.word.reverse
    match spot with
    | .escaped => add k
    | .quote q =>
      if c = '\n' then [openQuote q]
      else if c = q then goOn .inside { k with isSeen := true }
      else if m.limit ≤ k.size then [.fault "argument line too long"]
      else goOn spot { k with word := c :: k.word, size := k.size + 1 }
    | _ =>
      if spot = .blank && isSpaceChar c then goOn .blank k
      else if c = '\n' then
        if k.size = 0 && !k.isSeen then goOn .blank k
        else if isLast then []
        else k.step :: .line (!isBlankChar k.before) :: goOn .blank {}
      else if !m.takesLines && isBlankChar c then
        if isLast then []
        else k.step :: goOn .blank { k with word := [], size := 0, isFirst := false }
      else if c = '\\' then goOn .escaped k
      else if c = '"' || c = '\'' then goOn (.quote c) { k with isSeen := true }
      else add k

/-- The steps of a text. -/
def steps (m : Manner) (text : List Char) : List Step :=
  match m.mark with
  | some mark => markedSteps m mark [] 0 text
  | none => plainSteps m .blank {} text

/-! ### Options -/

/-- The options of `xargs`. -/
def known : Tool.Known := {
  flags := "0rtpxo"
  valued := "adEILnsPv"
  optional := "eil"
  hidden := "hv"
  long := [("null", '0'), ("arg-file", 'a'), ("delimiter", 'd'), ("eof", 'e'), ("replace", 'i'),
    ("max-lines", 'l'), ("max-args", 'n'), ("open-tty", 'o'), ("interactive", 'p'),
    ("no-run-if-empty", 'r'), ("max-chars", 's'), ("verbose", 't'), ("show-limits", 'h'),
    ("exit", 'x'), ("max-procs", 'P'), ("process-slot-var", 'v')]
  endsAtOperand := true }

/-- What a call of `xargs` asks for. -/
structure Request where
  /-- The character that ends an argument, if blanks and quotes have no meaning. -/
  mark : Option Char := none
  /-- The argument that ends the text. -/
  last : Option (List Char) := none
  /-- The text that arguments stand in for. -/
  replaced : Option (List Char) := none
  /-- How many lines a call takes. -/
  lines : Option Nat := none
  /-- How many arguments a call takes. -/
  count : Option Nat := none
  /-- How long a call may be. -/
  size : Nat := 131072
  /-- Warnings to be given. -/
  warnings : List (List Char) := []

/-- What is wrong with options. -/
inductive Fault where
  /-- Something that has a word of advice behind it. -/
  | misuse (text : List Char)
  /-- Something else. -/
  | plain (text : List Char)

/-- The number that an option gives, between two bounds. -/
def numberFor (letter : Char) (least : Nat) (most : Option Nat) (text : List Char) :
    Except Fault Nat :=
  let behind := " for -".toList ++ letter :: " option".toList
  let cs := text.dropWhile isSpaceChar
  let (isNegative, digits) := match cs with
    | '-' :: rest => (true, rest)
    | '+' :: rest => (false, rest)
    | rest => (false, rest)
  let value (bound : String) (n : Nat) : Fault :=
    .misuse ("value ".toList ++ text ++ behind ++ (" should be " ++ bound ++ " ").toList ++
      digitsOf n)
  if digits.isEmpty || !digits.all isDigit then
    .error (.misuse ("invalid number \"".toList ++ text ++ '"' :: behind))
  else
    let n := valueOf digits
    if (isNegative && n ≠ 0) || n < least then .error (value ">=" least)
    else
      match most with
      | some most => if most < n then .error (value "<=" most) else .ok n
      | none => .ok n

/-- The character that a description of a mark means. -/
def markFor (text : List Char) : Except Fault Char :=
  let fault (what : String) : Except Fault Char :=
    .error (.plain ("Invalid escape sequence ".toList ++ text ++
      " in input delimiter specification".toList ++ what.toList))
  let number (base : Nat) (digits : List Char) (shown : String) : Except Fault Char :=
    let used := digits.takeWhile (isDigitOf base)
    let n := used.foldl (fun n c => n * base + (digitValue? c).getD 0) 0
    let rest := digits.drop used.length
    if 255 < n then fault ("; character values must not exceed " ++ shown ++ ".")
    else if !rest.isEmpty then
      fault ("; trailing characters " ++ String.ofList rest ++ " not recognised.")
    else .ok (Char.ofNat n)
  let escapes := [('a', '\x07'), ('b', '\x08'), ('f', '\x0c'), ('n', '\n'), ('r', '\r'),
    ('t', '\t'), ('v', '\x0b'), ('\\', '\\')]
  match text with
  | [c] => .ok c
  | '\\' :: 'x' :: digits => number 16 digits "ff"
  | '\\' :: c :: rest =>
    if isDigit c then number 8 (c :: rest) "377"
    else
      match escapes.lookup c with
      | some e => .ok e
      | none => fault "."
  | _ =>
    let advice :=
      ": the delimiter must be either a single character or an escape sequence starting with \\."
    .error (.plain ("Invalid input delimiter specification ".toList ++ text ++ advice.toList))

/-- With a warning about two options that exclude each other. -/
def Request.clash (r : Request) (names old : String) : Request :=
  { r with warnings := r.warnings ++ [("warning: options --" ++ old ++ " and " ++ names ++
      " are mutually exclusive, ignoring previous --" ++ old ++ " value").toList] }

/-- Without a number of lines for each call. -/
def Request.withoutLines (r : Request) (names : String) : Request :=
  if r.lines.isSome then { r.clash names "max-lines" with lines := none } else r

/-- Without a number of arguments for each call. -/
def Request.withoutCount (r : Request) (names : String) : Request :=
  if r.count.isSome then { r.clash names "max-args" with count := none } else r

/-- Without a text that arguments stand in for. -/
def Request.withoutReplaced (r : Request) (names : String) : Request :=
  if r.replaced.isSome then { r.clash names "replace" with replaced := none } else r

/-- What options ask for, one after the other. -/
def request (letters : List (Char × List Char)) : Except Fault Request :=
  letters.foldlM (fun r (letter, value) => do
    match letter with
    | '0' => return { r with mark := some '\x00' }
    | 'd' => return { r with mark := some (← markFor value) }
    | 'E' | 'e' => return { r with last := if value.isEmpty then none else some value }
    | 'I' | 'i' =>
      let names := "--replace/-I/-i"
      let r := (r.withoutLines names).withoutCount names
      return { r with
        replaced := some (if letter = 'i' && value.isEmpty then "\x7b\x7d".toList else value) }
    | 'L' =>
      let n ← numberFor 'L' 1 none value
      return { (r.withoutCount "-L").withoutReplaced "-L" with lines := some n }
    | 'l' =>
      let n ← if value.isEmpty then pure 1 else numberFor 'l' 1 none value
      let names := "--max-lines/-l"
      return { (r.withoutCount names).withoutReplaced names with lines := some n }
    | 'n' =>
      let n ← numberFor 'n' 1 none value
      if n = 1 && r.replaced.isSome then return r
      let names := "--max-args/-n"
      return { (r.withoutLines names).withoutReplaced names with count := some n }
    | 's' =>
      match numberFor 's' 1 (some 2092996) value with
      | .ok n => return { r with size := n }
      | .error (.misuse text) =>
        if value.all isDigit && !value.isEmpty then
          return { r with
            size := if valueOf value = 0 then 0 else r.size
            warnings := r.warnings ++ [text] }
        else throw (.misuse text)
      | .error fault => throw fault
    | 'P' =>
      let _ ← numberFor 'P' 0 (some 2147483647) value
      return r
    | _ => return r) {}

/-- A text with another one in the place of a mark. -/
def replacedIn (mark new : List Char) : (room : Nat) → List Char → List Char
  | 0, cs => cs
  | _ + 1, [] => []
  | room + 1, c :: cs =>
    if !mark.isEmpty && mark.isPrefixOf (c :: cs) then
      new ++ replacedIn mark new room ((c :: cs).drop mark.length)
    else c :: replacedIn mark new room cs

/-- The length of words with their ends. -/
def lengthOf (words : List (List Char)) : Nat := (words.map (·.length + 1)).sum

/-! ### Calls -/

/-- A run of calls. -/
structure Calls where
  /-- The arguments that wait for the next call, the last one first. -/
  waiting : List (List Char) := []
  /-- How many there are. -/
  count : Nat := 0
  /-- How long they are. -/
  size : Nat := 0
  /-- How many lines they come from. -/
  lines : Nat := 0
  /-- Whether there was a call. -/
  hasCalled : Bool := false
  /-- The status so far. -/
  status : Nat := 0
  /-- Whether the warning about zero bytes was given. -/
  hasWarned : Bool := false

end Arguments

namespace Engine

open Arguments

variable (engine : Engine)

/-- Calls a program with words. Gives whether the call failed, or, as an error, the status with
which all ends at once. -/
def callOnce (name : List Char) (o : Tool.Options) (call : List (List Char)) :
    Act (Except Nat Bool) := do
  let program := call.headD []
  let shown := [' '].intercalate (call.map Tool.shellWord)
  if o.has 'p' then
    let _ ← Act.write 2 shown
    Runner.complain name "failed to open /dev/tty for reading: No such device or address".toList
    return .error 1
  if o.has 't' then
    let _ ← Act.write 2 (shown ++ ['\n'])
  match ← resolved call with
  | .error t =>
    Runner.complain name (Tool.plainComplaint program t)
    return .error (Runner.statusOf t)
  | .ok (path, call) =>
    let ending ← Act.inProcess do
      if !o.has 'a' then Act.connect 0 (← Act.addChannel .nothing)
      engine.start path call
    match ending with
    | .exited 255 =>
      Runner.complain name (program ++ ": exited with status 255; aborting".toList)
      return .error 124
    | .exited status => return .ok (status ≠ 0)
    | .killed signal =>
      Runner.complain name (program ++ ": terminated by signal ".toList ++ digitsOf signal)
      return .error 125

/-- A run of calls that goes on, or the status with which it has ended. -/
abbrev Going := Except Nat Calls

/-- Calls a program with the words that wait. -/
def callWaiting (call : List (List Char) → Act (Except Nat Bool)) (k : Calls) : Act Going := do
  match ← call k.waiting.reverse with
  | .error status => return .error status
  | .ok failed =>
    return .ok { k with
      waiting := []
      count := 0
      size := 0
      hasCalled := true
      status := if failed then 123 else k.status }

/-- Lets a word wait for the next call, which comes first if there is no room for the word, and at
once if it is the last one. -/
def addWord (name : List Char) (o : Tool.Options) (r : Request) (fixed : List (List Char))
    (call : List (List Char) → Act (Except Nat Bool)) (k : Calls) (word : List Char)
    (size : Nat) : Act Going := do
  let isFull := r.size < lengthOf fixed + k.size + size
  if isFull && k.count = 0 then
    Runner.complain name "cannot fit single argument within argument list size limit".toList
    return .error 1
  if isFull && o.has 'x' && (r.lines.isSome || r.count.isSome) then
    Runner.complain name "argument list too long".toList
    return .error 1
  match ← if isFull then callWaiting call k else pure (.ok k) with
  | .error status => return .error status
  | .ok k =>
    let k := { k with
      waiting := word :: k.waiting, count := k.count + 1, size := k.size + size }
    if r.count = some k.count then callWaiting call k else return .ok k

/-- Takes a step of a text of arguments that are added to calls. -/
def takeStep (name : List Char) (o : Tool.Options) (r : Request) (fixed : List (List Char))
    (call : List (List Char) → Act (Except Nat Bool)) (k : Calls) : Step → Act Going
  | .word word size =>
    addWord name o r fixed call k (word.takeWhile (· ≠ '\x00')) size
  | .line counts => do
    let k := if counts then { k with lines := k.lines + 1 } else k
    if r.lines.any (· ≤ k.lines) then
      return (← callWaiting call k).map fun k => { k with lines := 0 }
    else return .ok k
  | .nul => do
    if !k.hasWarned then
      Runner.complain name ("WARNING: a NUL character occurred in the input.  It cannot be " ++
        "passed through in the argument list.  Did you mean to use the --null option?").toList
    return .ok { k with hasWarned := true }
  | .fault text => do
    Runner.complain name text.toList
    let outcome ← if k.count = 0 || o.has 'x' then pure (.ok k) else callWaiting call k
    return outcome.bind fun _ => .error 1

/-- Takes a step of a text whose arguments stand in for a mark in a call. -/
def takeReplacing (name : List Char) (r : Request) (mark : List Char) (fixed : List (List Char))
    (call : List (List Char) → Act (Except Nat Bool)) (k : Calls) : Step → Act Going
  | .word word _ => do
    let put (w : List Char) : List Char := replacedIn mark word (w.length + 1) w
    let words := (fixed.drop 1).map put
    if r.size < lengthOf (fixed.take 1 ++ words) then
      Runner.complain name "argument list too long".toList
      return .error 1
    else callWaiting call { k with waiting := words.reverse }
  | .line _ => return .ok k
  | step => takeStep name ⟨[], []⟩ r fixed call k step

/-- Takes steps one after the other. -/
def takeSteps (take : Calls → Step → Act Going) : Calls → List Step → Act Going
  | k, [] => return .ok k
  | k, s :: ss => do
    match ← take k s with
    | .ok k => takeSteps take k ss
    | .error status => return .error status

/-- The text of arguments: the input, or a file. -/
def argumentText (o : Tool.Options) : Act (Except Trouble (List Char)) := do
  match (o.value? 'a').filter (· ≠ ['-']) with
  | none =>
    let text := (← Act.rest? 0).getD []
    Act.consume 0 text.length
    return .ok text
  | some path =>
    match (← Act.disk).read (pathOfChars path) with
    | .ok bytes => return .ok (ofBytes bytes)
    | .error .isDirectory => return .ok []
    | .error t => return .error t

/-- Calls a program with arguments from a text. -/
def xargs (name : List Char) (args : List (List Char)) : Act Ending := do
  match Tool.Options.read known args with
  | .error fault => Runner.refuseMisuse name 1 fault.message
  | .ok o =>
    match request o.letters with
    | .error (.misuse text) => Runner.refuseMisuse name 1 text
    | .error (.plain text) => Runner.refuse name 1 text
    | .ok r =>
      r.warnings.forM (Runner.complain name)
      match ← argumentText o with
      | .error t =>
        Runner.refuse name 1 ("Cannot open input file ".toList ++
          Tool.plainComplaint (Tool.quoted ((o.value? 'a').getD [])) t)
      | .ok text =>
        if r.mark.isSome && r.last.isSome then
          Runner.complain name
            "warning: the -E option has no effect if -0 or -d is used.\n".toList
        let fixed := if o.operands.isEmpty then ["echo".toList] else o.operands
        let isReplacing := r.replaced.isSome
        let base := if isReplacing then 0 else lengthOf fixed
        if r.size < base then
          return ← Runner.refuse name 1
            "cannot fit single argument within argument list size limit".toList
        let all := steps ⟨r.mark, isReplacing, r.last, r.size - base - 1⟩ text
        let front := if isReplacing then fixed.take 1 else fixed
        let call (words : List (List Char)) : Act (Except Nat Bool) :=
          engine.callOnce name o (front ++ words)
        let take := match r.replaced with
          | some mark => takeReplacing name r mark fixed call
          | none => takeStep name o r fixed call
        match ← takeSteps take {} all with
        | .error status => return .exited status
        | .ok k =>
          let isLeft := k.count ≠ 0 || (!o.has 'r' && !k.hasCalled)
          match ← if !isReplacing && isLeft then callWaiting call k else pure (.ok k) with
          | .error status => return .exited status
          | .ok k => return .exited k.status

end Engine

end ParserConformance.Script
