import ParserConformance.Script.Machine
import ParserConformance.Script.Tool.Options
import ParserConformance.Script.Tool.Quoting

/-!
# Calls of tools

A tool is a program that a system comes with. It is called with arguments and an input, and
writes to its output and its errors; some tools change the disk.
-/

namespace ParserConformance.Script

namespace Tool

/-- A call of a tool. -/
structure Call where
  /-- The name by which it is called. -/
  name : List Char
  /-- The arguments. -/
  args : List (List Char)
  /-- The disk. -/
  disk : Disk
  /-- The input, if there is any. -/
  input : Option (List Char)
  /-- The place of the file that the input comes from, if it comes from one. -/
  inputFile : Option Location
  /-- The variables that the tool sees. -/
  environment : List (List Char × List Char)
  /-- The bits that new files do not get. -/
  mask : Nat

/-- What a call has come to. -/
structure Effect where
  /-- What was written, piece by piece, and whether to the errors. -/
  writes : List (Bool × List Char)
  /-- The status. -/
  status : Nat
  /-- The disk afterwards. -/
  disk : Disk
  /-- How much of the input was read. -/
  taken : Nat
  /-- How long it took, in microseconds. -/
  delay : Nat := 0
  /-- Whether nothing of the input that might have followed makes a difference. -/
  isSated : Bool := false
  /-- What is written behind all else, piece by piece, if that may be more than anybody reads. -/
  further : Option (Nat → Option (List Char)) := none

/-- How long something takes that does not end, in microseconds. -/
def endlessTime : Nat := 10 ^ 15

end Tool

/-- When a tool writes what it makes of its input. -/
inductive Tool.Pace where
  /-- When it has read all of it. -/
  | atEnd
  /-- When it has read much of it. -/
  | gradual
  /-- At once. -/
  | prompt
  deriving DecidableEq, Repr

/-- A tool. -/
abbrev Tool := Tool.Call → Tool.Effect

namespace Tool

namespace Effect

/-- The effect of a tool that writes something and changes nothing. -/
def ofOutput (c : Call) (output : List Char) : Effect :=
  { writes := [(false, output)], status := 0, disk := c.disk, taken := 0 }

/-- The effect of a tool that does nothing but end with a status. -/
def ofStatus (c : Call) (status : Nat) : Effect :=
  { writes := [], status, disk := c.disk, taken := 0 }

/-- The effect of a tool that ends with a complaint. -/
def ofComplaint (c : Call) (status : Nat) (text : List Char) : Effect :=
  { writes := [(true, c.name ++ ": ".toList ++ text ++ ['\n'])], status, disk := c.disk, taken := 0 }

/-- A second line for complaints about misuse. -/
def hint (c : Call) : List Char :=
  "\nTry '".toList ++ c.name ++ " --help' for more information.".toList

/-- The effect of a tool that ends with a complaint about misuse. -/
def ofMisuse (c : Call) (status : Nat) (text : List Char) : Effect :=
  ofComplaint c status (text ++ hint c)

/-- With more output. -/
def write (e : Effect) (cs : List Char) : Effect :=
  { e with writes := e.writes ++ [(false, cs)] }

/-- With a text written to the errors. -/
def warn (e : Effect) (cs : List Char) : Effect :=
  { e with writes := e.writes ++ [(true, cs)] }

/-- Without some of what was written first. -/
def dropWritten (count : Nat) (e : Effect) : Effect :=
  { e with writes := go count e.writes }
where
  /-- Goes through the pieces. -/
  go : Nat → List (Bool × List Char) → List (Bool × List Char)
    | 0, ws => ws
    | _, [] => []
    | n, (isError, text) :: ws =>
      if text.length ≤ n then go (n - text.length) ws else (isError, text.drop n) :: ws

/-- How much was written. -/
def size (e : Effect) : Nat := (e.writes.map (·.2.length)).sum

/-- With at least a status. -/
def atLeast (e : Effect) (status : Nat) : Effect := { e with status := max e.status status }

/-- With a complaint. -/
def complain (e : Effect) (c : Call) (status : Nat) (text : List Char) : Effect :=
  (e.warn (c.name ++ ": ".toList ++ text ++ ['\n'])).atLeast status

/-- With all of the input read. -/
def takingAll (e : Effect) (c : Call) : Effect := { e with taken := (c.input.getD []).length }

/-- With some of the input read. What does not come from a file is read in blocks. -/
def taking (e : Effect) (c : Call) (used block : Nat) : Effect :=
  let whole := (c.input.getD []).length
  let blocks := (used + block - 1) / block * block
  { e with taken := min whole (if c.inputFile.isSome then used else blocks) }

end Effect

/-- A tool that reads its options first and refuses misuse with a status. -/
def withOptions (known : Known) (misuse : Nat) (run : Call → Options → Effect) : Tool := fun c =>
  match Options.read known c.args with
  | .ok o => run c o
  | .error fault => .ofMisuse c misuse fault.message

/-! ### Texts -/

/-- The parts of a text between a character. -/
def splitAt (mark : Char) (cs : List Char) : List (List Char) :=
  go [] [] cs
where
  /-- Goes on with the part at work and the parts so far, both backwards. -/
  go (part : List Char) (done : List (List Char)) : List Char → List (List Char)
    | [] => (part.reverse :: done).reverse
    | c :: cs => if c = mark then go [] (part.reverse :: done) cs else go (c :: part) done cs

/-- The records of a text, each of which a character ends, and whether the last one has that
end. -/
def recordsOf (stop : Char) (cs : List Char) : List (List Char) × Bool :=
  if cs.isEmpty then ([], true)
  else
    let parts := splitAt stop cs
    if parts.getLast? = some [] then (parts.dropLast, true) else (parts, false)

/-- The lines of a text without their ends, and whether the last one has an end. -/
def linesOf (cs : List Char) : List (List Char) × Bool := recordsOf '\n' cs

/-- Records as a text, each with its end. -/
def ended (stop : Char) (ls : List (List Char)) : List Char := ls.flatMap (· ++ [stop])

/-- Lines as a text, each with its end. -/
def unlines (ls : List (List Char)) : List Char := ended '\n' ls

/-- Records as a text, the last one with its end only if `isEnded` says so. -/
def endedAs (stop : Char) (ls : List (List Char)) (isEnded : Bool) : List Char :=
  if isEnded then ended stop ls else (ended stop ls).dropLast

/-- Lines as a text, the last one with its end only if `isEnded` says so. -/
def unlinesAs (ls : List (List Char)) (isEnded : Bool) : List Char := endedAs '\n' ls isEnded

/-- The character that ends records: a line's end, or, if that is asked for, a zero byte. -/
def stopOf (o : Options) : Char := if o.has 'z' then '\x00' else '\n'

/-- A text with blanks in front up to a width. -/
def padLeft (width : Nat) (cs : List Char) : List Char :=
  List.replicate (width - cs.length) ' ' ++ cs

/-- A text with blanks behind it up to a width. -/
def padRight (width : Nat) (cs : List Char) : List Char :=
  cs ++ List.replicate (width - cs.length) ' '

/-! ### Inputs -/

/-- Whether a name stands for the input. -/
def isInput (name : List Char) : Bool :=
  ["-", "/dev/stdin", "/dev/fd/0"].any (·.toList = name)

/-- Whether a name stands for the output, with `false`, or for the errors, with `true`. -/
def stream? (name : List Char) : Option Bool :=
  match String.ofList name with
  | "/dev/stdout" | "/dev/fd/1" => some false
  | "/dev/stderr" | "/dev/fd/2" => some true
  | _ => none

/-- The content of a file by name; a minus sign stands for the input. -/
def contentOf (c : Call) (name : List Char) : Except Trouble (List Char) :=
  if isInput name then .ok (c.input.getD [])
  else (c.disk.read (pathOfChars name)).map ofBytes

/-- The texts of the files that a call names, or its input. The input is read once. -/
def inputs (c : Call) (names : List (List Char)) :
    List (List Char × Except Trouble (List Char)) :=
  go true (if names.isEmpty then [['-']] else names)
where
  /-- Goes on with the names that are left, with the input read or not. -/
  go (isFresh : Bool) : List (List Char) → List (List Char × Except Trouble (List Char))
    | [] => []
    | name :: names =>
      if isInput name then (name, if isFresh then contentOf c name else .ok []) :: go false names
      else (name, contentOf c name) :: go isFresh names

/-- Whether a call reads its input. -/
def readsInput (names : List (List Char)) : Bool := names.isEmpty || names.any isInput

/-- How a tool complains about a file that it cannot read. -/
def fileComplaint (name : List Char) (t : Trouble) : List Char :=
  shownName name ++ ": ".toList ++ t.reason.toList

/-- The same with the name as it is. -/
def plainComplaint (name : List Char) (t : Trouble) : List Char :=
  name ++ ": ".toList ++ t.reason.toList

/-- The same with the name in quotes. -/
def quotedComplaint (name : List Char) (t : Trouble) : List Char :=
  plainComplaint (quotedName name) t

/-- The effect of a tool that goes through files one after the other. Those that cannot be read
are complained of. -/
def eachInput (c : Call) (names : List (List Char)) (status : Nat)
    (complaint : List Char → Trouble → List Char) (f : List Char → List Char) : Effect :=
  let e : Effect := (inputs c names).foldl (fun e (name, r) => match r with
    | .ok text => e.write (f text)
    | .error t => e.complain c status (complaint name t)) (.ofStatus c 0)
  if readsInput names then e.takingAll c else e

/-- The effect of a tool that makes one text of all that it reads. Files that cannot be read
are complained of. -/
def overInputs (c : Call) (names : List (List Char)) (status : Nat)
    (complaint : List Char → Trouble → List Char) (f : List Char → List Char) : Effect :=
  let all := inputs c names
  let text := all.flatMap fun (_, r) => match r with
    | .ok text => text
    | .error _ => []
  let e : Effect := all.foldl (fun e (name, r) => match r with
    | .ok _ => e
    | .error t => e.complain c status (complaint name t)) (.ofStatus c 0)
  let e := e.write (f text)
  if readsInput names then e.takingAll c else e

/-! ### Counts -/

/-- How many bytes the unit of some letters has: powers of 1024, or of 1000 with a `B` behind. -/
def unit? (cs : List Char) : Option Nat :=
  match cs with
  | [] => some 1
  | ['b'] => some 512
  | ['B'] => none
  | c :: rest =>
    let power? := (["kK", "mM", "gG", "tT", "P", "E", "Z", "Y"].findIdx? fun s =>
      s.toList.contains c).map (· + 1)
    match power?, rest with
    | some n, [] | some n, ['i', 'B'] => some (1024 ^ n)
    | some n, ['B'] => some (1000 ^ n)
    | _, _ => none

/-- A number of bytes or lines, with the letters of a unit behind it. -/
def countOf? (cs : List Char) : Option Nat :=
  let digits := cs.takeWhile isDigit
  if digits.isEmpty then none
  else (unit? (cs.drop digits.length)).map (valueOf digits * ·)

/-- The number that some digits write, if they are digits and nothing else. -/
def natural? (cs : List Char) : Option Nat :=
  if cs.isEmpty || !cs.all isDigit then none else some (valueOf cs)

end Tool

end ParserConformance.Script
