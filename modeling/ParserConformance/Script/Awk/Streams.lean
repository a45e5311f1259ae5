import ParserConformance.Script.Awk.Progress
import ParserConformance.Script.Awk.Program
import ParserConformance.Script.Runner.Basic

/-!
# Streams of text programs

A program writes to files and to commands and reads from them; a stream is opened when it is used
for the first time and stays open. What is written to a file is held back until that is closed or
`system` runs a command, and what is written to the output until any command is run; else until
the end.
-/

namespace ParserConformance.Script.Awk

/-- Whether a stream is one that records are read from or one that output goes to, and whether a
command is behind it. -/
def Stream.kind : Stream → Bool × Bool
  | .reading _ => (true, false)
  | .listening _ _ => (true, true)
  | .writing _ _ => (false, false)
  | .telling _ => (false, true)

/-- The status of a command as a program sees it. -/
def statusOf : Ending → Nat
  | .exited status => status
  | .killed signal => 256 + signal

namespace Working

/-! ### Holding back -/

/-- Writes what is held back from the output. -/
def flushOutput : Working Unit := do
  let held := (← get).held
  if !held.isEmpty then
    modify fun p => { p with held := [] }
    Act.say held.reverse.flatten

/-- Writes what is held back from a stream. -/
def flushed : Stream → Working Stream
  | .writing n held => do
    let w ← Act.world
    if !held.isEmpty then
      w.channels[n]?.forM fun c => do
        let _ ← Act.writeTo n c held.reverse.flatten
    return .writing n []
  | s => return s

/-- Writes all that is held back from the output and from files. -/
def flushAll : Working Unit := do
  flushOutput
  let streams ← (← get).streams.mapM fun (name, s) => do return (name, ← flushed s)
  modify fun p => { p with streams }

/-! ### Commands -/

/-- Runs a command in a process of its own, with an input if one is given, and with its output
sent to a channel if one is given. -/
def launch (engine : Engine) (shell command : List Char) (input : Option (List Char))
    (output : Option Nat) : Working Ending :=
  Act.inProcess do
    input.forM fun text => do Act.connect 0 (← Act.addChannel (.source text))
    output.forM (Act.connect 1)
    engine.start "/bin/sh".toList [shell, "-c".toList, command]

/-- Runs a command. -/
def system (engine : Engine) (command : List Char) : Working Nat := do
  flushAll
  return statusOf (← launch engine "sh".toList command none none)

/-- The name by which shells are called that read from a program or write to it. -/
def shellName : List Char := "/bin/sh".toList

/-! ### Opening and closing -/

/-- The stream of a name and a kind, if it is open; it comes first then. -/
def stream? (name : List Char) (kind : Bool × Bool) : Working (Option Stream) := do
  let streams := (← get).streams
  match streams.find? fun (n, s) => n = name && s.kind = kind with
  | some (n, s) =>
    let others := streams.filter fun (n, s) => !(n = name && s.kind = kind)
    modify fun p => { p with streams := (n, s) :: others }
    return some s
  | none => return none

/-- Puts a stream first. -/
def putStream (name : List Char) (s : Stream) : Working Unit :=
  modify fun p => { p with
    streams := (name, s) :: p.streams.filter fun (n, t) => !(n = name && t.kind = s.kind) }

/-- All of a file, or of the input of the program. -/
def contentOf (name : List Char) : Working (Except Trouble (List Char)) := do
  let d ← Act.disk
  match (if name = ['-'] then some 0 else streamNamed? d name) with
  | some n =>
    let text := (← Act.rest? n).getD []
    Act.consume n text.length
    return .ok text
  | none =>
    match d.read (pathOfChars name) with
    | .ok bytes => return .ok (ofBytes bytes)
    | .error .isDirectory => fail "read error (Is a directory)".toList
    | .error t => return .error t

/-- Opens a file to be written. -/
def openOutput (name : List Char) (isAppended : Bool) : Working Nat := do
  let use := if isAppended then FileUse.append else .write
  let refuse (t : Trouble) : Working Nat :=
    fail ("cannot open \"".toList ++ name ++ "\" for output (".toList ++ t.reason.toList ++ [')'])
  let opened ← match numberedStream? name with
    | some stream => Act.openSpecial [] use (.stream stream)
    | none =>
      match ← Act.siteOf name with
      | .ok site => Act.openToWrite use site
      | .error t => pure (.error t)
  match opened with
  | .ok n => return n
  | .error t => refuse t

/-- Writes a text: to the output, to a file or to a command. -/
def write (target : Option (Sending × List Char)) (text : List Char) : Working Unit := do
  let put : Working Unit := modify fun p => { p with held := text :: p.held }
  match target with
  | none => put
  | some (.pipe, command) =>
    match ← stream? command (false, true) with
    | some (.telling held) => putStream command (.telling (text :: held))
    | _ =>
      flushOutput
      putStream command (.telling [text])
  | some (way, name) =>
    if name = "/dev/stdout".toList then put
    else if name = "/dev/stderr".toList then
      let _ ← Act.write 2 text
    else
      match ← stream? name (false, false) with
      | some (.writing n held) => putStream name (.writing n (text :: held))
      | _ => putStream name (.writing (← openOutput name (way = .append)) [text])

/-- Closes a stream. Gives the status of the command behind it, if there is one. -/
def close (engine : Engine) (name : List Char) (s : Stream) : Working Nat := do
  match ← flushed s with
  | .listening _ status => return status
  | .telling held =>
    return statusOf (← launch engine shellName name (some held.reverse.flatten) none)
  | _ => return 0

/-- Closes the streams of a name. Gives the status of the last one; minus one if there is none. -/
def closeAll (engine : Engine) (name : List Char) : Working Int := do
  if name = "/dev/stdout".toList then
    flushOutput
    return 0
  let (mine, others) := (← get).streams.partition (·.1 = name)
  modify fun p => { p with streams := others }
  mine.foldlM (fun _ (name, s) => do return ((← close engine name s) : Int)) (-1)

/-- Writes what is held back from the stream of a name. Gives minus one if there is none. -/
def flushNamed (name : List Char) : Working Int := do
  if name.isEmpty then
    flushAll
    return 0
  else if name = "/dev/stdout".toList then
    flushOutput
    return 0
  else
    let isMeant (s : List Char × Stream) : Bool := s.1 = name && !s.2.kind.1
    let streams := (← get).streams
    if !streams.any isMeant then return -1
    let streams ← streams.mapM fun (n, s) => do
      return (n, ← if isMeant (n, s) then flushed s else pure s)
    modify fun p => { p with streams }
    return 0

/-- Closes everything at the end of a program: commands first, then what was held back is
written. -/
def finish (engine : Engine) : Working Unit := do
  (← get).streams.forM fun (name, s) => do
    if s.kind = (false, true) then
      let _ ← close engine name s
  flushAll

/-! ### Reading -/

/-- The next record of a stream. -/
def cutStream (name : List Char) (s : Stream) : Working (Option (List Char)) := do
  let t := (← get).terminator
  match s with
  | .reading rest =>
    match t.cut? rest with
    | some (record, rest) =>
      putStream name (.reading rest)
      return some record
    | none => return none
  | .listening rest status =>
    match t.cut? rest with
    | some (record, rest) =>
      putStream name (.listening rest status)
      return some record
    | none => return none
  | _ => return none

/-- The next record of a file; the trouble if it cannot be read. -/
def readFile (name : List Char) : Working (Except Trouble (Option (List Char))) := do
  match ← stream? name (true, false) with
  | some s => return .ok (← cutStream name s)
  | none =>
    match ← contentOf name with
    | .error t => return .error t
    | .ok text =>
      putStream name (.reading text)
      return .ok (← cutStream name (.reading text))

/-- The next record of the output of a command. -/
def readOutput (engine : Engine) (command : List Char) : Working (Option (List Char)) := do
  match ← stream? command (true, true) with
  | some s => cutStream command s
  | none =>
    flushOutput
    let n ← Act.addChannel (.sink [])
    let ending ← launch engine shellName command none (some n)
    let s := Stream.listening (← Act.collected n) (statusOf ending)
    putStream command s
    cutStream command s

/-! ### The input of a program -/

/-- The name and the value that an operand assigns, if it assigns one. -/
def setting? (operand : List Char) : Option (List Char × List Char) :=
  let name := operand.takeWhile (· ≠ '=')
  if isName name && name.length < operand.length then
    some (name, operand.drop (name.length + 1))
  else none

/-- Gives the variable of a name a value, as far as the program has a variable of that name. -/
def assignNamed (program : Program) (name text : List Char) : Working Unit := do
  match program.globals.findIdx? (· = (name, false)) with
  | some n => setGlobal n (.input (unescaped (text.length + 1) text))
  | none => return ()

/-- Opens the next file that an operand names, or the input of the program if none does. -/
def openNext (program : Program) : (room : Nat) → Working Unit
  | 0 => modify fun p => { p with feed := .over }
  | room + 1 => do
    let p ← get
    let count := wholeOf (← setting (special "ARGC")).toNumber
    let take (name text : List Char) : Working Unit := do
      setGlobal (special "FILENAME") (.input name)
      setGlobal (special "FNR") (.ofNat 0)
      modify fun p => { p with feed := .flowing text, hasFile := true }
    let fetch (name : List Char) : Working Unit := do
      match ← contentOf name with
      | .ok text => take name text
      | .error t =>
        fail ("cannot open \"".toList ++ name ++ "\" (".toList ++ t.reason.toList ++ [')'])
    if count ≤ p.operand then
      if p.hasFile then modify fun p => { p with feed := .over } else fetch ['-']
    else
      modify fun p => { p with operand := p.operand + 1 }
      let table := p.tables[← tableNumber (.global (special "ARGV"))]?
      let value? := table.bind (·.find? (.number p.operand))
      match ← value?.mapM textOf with
      | none | some [] => openNext program room
      | some operand =>
        match setting? operand with
        | some (name, text) =>
          assignNamed program name text
          openNext program room
        | none => fetch operand

/-- How many files and operands one record may be looked for in. -/
def fileLimit : Nat := 100000

/-- Adds one to a variable. -/
def count (name : String) : Working Unit := do
  let n := special name
  setGlobal n (.number ((← setting n).toNumber + 1))

/-- The next record of the input, which is counted. -/
def nextRecord (program : Program) : (room : Nat) → Working (Option (List Char))
  | 0 => return none
  | room + 1 => do
    let p ← get
    match p.feed with
    | .over => return none
    | .waiting =>
      openNext program fileLimit
      nextRecord program room
    | .flowing rest =>
      match p.terminator.cut? rest with
      | some (record, rest) =>
        modify fun p => { p with feed := .flowing rest }
        count "NR"
        count "FNR"
        return some record
      | none =>
        openNext program fileLimit
        nextRecord program room

/-- Passes over what is left of the file at hand. -/
def skipFile : Working Unit :=
  modify fun p => { p with
    feed := match p.feed with
      | .flowing _ => .flowing []
      | feed => feed }

end Working

end ParserConformance.Script.Awk
