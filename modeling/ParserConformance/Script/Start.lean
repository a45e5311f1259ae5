import ParserConformance.Script.Awk.Start
import ParserConformance.Script.Find.Search
import ParserConformance.Script.Runner.Arguments
import ParserConformance.Script.Runner.Limits
import ParserConformance.Script.Runner.Surroundings

/-!
# Starting what a system comes with

Which program a name means: a shell, a program that runs other ones, or a tool, which is called
with the streams and the disk of its process.
-/

namespace ParserConformance.Script

namespace Engine

/-! ### Tools -/

/-- A call of a tool in the process at work, with an input. -/
def toolCall (call : List (List Char)) (input : Option (List Char)) : Act Tool.Call := do
  return {
    name := call.headD []
    args := call.drop 1
    disk := ← Act.disk
    input
    inputFile := ← Act.inputFile?
    environment := ← environment
    mask := (← Act.shell).mask }

/-- Writes what a tool has written. -/
def writeAll (writes : List (Bool × List Char)) : Act Unit :=
  writes.forM fun (isError, text) => do
    let _ ← Act.write (if isError then 2 else 1) text

/-- How many pieces are written of an output that may have no end, unless somebody reads it. -/
def mostPieces : Nat := 100

/-- Writes pieces as long as there are some. -/
def writePieces (piece? : Nat → Option (List Char)) : (room : Nat) → (number : Nat) → Act Unit
  | 0, _ => return ()
  | room + 1, n => do
    match piece? n with
    | none => return ()
    | some text =>
      let _ ← Act.write 1 text
      writePieces piece? room (n + 1)

/-- Ends a tool with an effect of which some has been written. -/
def conclude (e : Tool.Effect) (shown : Nat) : Act Ending := do
  Act.changeDisk fun d => { e.disk with here := d.here }
  Act.consume 0 e.taken
  writeAll (e.dropWritten shown).writes
  if let some piece? := e.further then
    let isRead := match ← Act.channel? 1 with
      | some (_, .pipe _ _) => true
      | _ => false
    writePieces piece? (if isRead then Act.pipeRounds else mostPieces) 0
  Act.sleep e.delay
  return .exited e.status

/-- Gives a tool the text of a pipe as that comes, until it has enough. -/
def feed (tool : Tool) (pace : Tool.Pace) (call : List (List Char)) (pipe : Nat) :
    (room : Nat) → (amount seen shown : Nat) → Act Ending
  | 0, _, _, _ => Act.never
  | room + 1, amount, seen, shown => do
    let isOpen ← Act.ask (.text pipe amount seen)
    let text := (← Act.ready? 0).getD []
    let e := tool (← toolCall call (some text))
    if !isOpen || e.isSated then conclude e shown
    else
      match pace with
      | .atEnd => feed tool pace call pipe room (2 * amount) text.length shown
      | .prompt =>
        writeAll (e.dropWritten shown).writes
        feed tool pace call pipe room (text.length + 1) text.length (max shown e.size)
      | .gradual =>
        if text.length < amount then
          feed tool pace call pipe room amount text.length shown
        else
          let lines := (text.reverse.dropWhile (· ≠ '\n')).reverse
          let e := tool (← toolCall call (some lines))
          writeAll (e.dropWritten shown).writes
          feed tool pace call pipe room (2 * amount) text.length (max shown e.size)

/-- How much text a tool takes at first. -/
def firstAmount : Nat := 32768

/-- Calls a tool in the process at work. If it has to read a pipe it is given a line first, to see
whether it reads at all. -/
def callTool (tool : Tool) (pace : Tool.Pace) (call : List (List Char)) : Act Ending := do
  match ← Act.pipeBehind? 0 with
  | none => conclude (tool (← toolCall call (← Act.ready? 0))) 0
  | some pipe =>
    let e := tool (← toolCall call (some ['\n']))
    if e.taken = 0 then conclude e 0
    else
      feed tool pace call pipe Act.pipeRounds (if pace = .prompt then 1 else firstAmount) 0 0

variable (engine : Engine)

/-! ### Programs -/

/-- The programs of the system that run other ones, by their names. -/
def runners : List (String × (List Char → List (List Char) → Act Ending)) :=
  [("bash", engine.shell), ("dash", engine.shell), ("env", engine.env),
    ("find", engine.find), ("mawk", engine.awk), ("nice", engine.nice), ("nohup", engine.nohup),
    ("setsid", engine.setsid), ("stdbuf", engine.stdbuf), ("timeout", engine.timeout),
    ("xargs", engine.xargs)]

/-- Starts a program of the system in the process at work. -/
def program (name : String) (call : List (List Char)) : Act Ending := do
  match engine.runners.lookup name, System.tool? name with
  | some run, _ => run (call.headD []) (call.drop 1)
  | none, some tool => callTool tool (System.paceOf name) call
  | none, none => return .exited 127

/-- How long it takes to start a program, in microseconds. -/
def programTime : Nat := 300

/-- Starts the file at a path in the process at work. -/
def startFile (path : List Char) (call : List (List Char)) : Act Ending := do
  Act.changeShell fun sh => { sh with held := [], traps := sh.traps.filter (·.2.isEmpty) }
  Act.spend programTime
  match System.start (← Act.disk) System.startDepth path call with
  | .program name call => engine.program name call
  | .refused t =>
    let (text, status) := refusal (call.headD path) t
    Act.complain text
    return .exited status

end Engine

end ParserConformance.Script
