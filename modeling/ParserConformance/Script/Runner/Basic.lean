import ParserConformance.Script.Launch
import ParserConformance.Script.Tool.Call

/-!
# Programs that run other ones

Some programs of a system do little themselves and start another program. When that is not
possible they complain, each in its own words, and end with a status that tells why.
-/

namespace ParserConformance.Script

namespace Runner

/-- Writes a line to the errors behind the name of a program. -/
def complain (name text : List Char) : Act Unit := do
  let _ ← Act.write 2 (name ++ ": ".toList ++ text ++ ['\n'])

/-- Ends a program with a complaint. -/
def refuse (name : List Char) (status : Nat) (text : List Char) : Act Ending := do
  complain name text
  return .exited status

/-- Ends a program with a complaint about misuse. -/
def refuseMisuse (name : List Char) (status : Nat) (text : List Char) : Act Ending :=
  refuse name status
    (text ++ "\nTry '".toList ++ name ++ " --help' for more information.".toList)

/-- The status of a program that could not start another one. -/
def statusOf (t : Trouble) : Nat := if t = .notFound then 127 else 126

/-- Changes the working directory of the process at work; gives the trouble if that is not
possible. -/
def enter (dir : List Char) : Act (Option Trouble) := do
  let d ← Act.disk
  match d.locate (pathOfChars dir) false with
  | .error t => return some t
  | .ok place =>
    match d.entry? place with
    | some (.directory mode) =>
      if !Disk.maySearch mode then return some .permissionDenied
      Act.changeShell fun sh => { sh with directory := place }
      return none
    | _ => return some .notDirectory

end Runner

namespace Engine

variable (engine : Engine)

/-- The path and the call with which the program is started that the first word of a call names.
A file that no program can be made of is taken for a script. -/
def resolved (call : List (List Char)) :
    Act (Except Trouble (List Char × List (List Char))) := do
  let program := call.headD []
  if program.isEmpty then return .error .notFound
  match ← programTrouble? program with
  | some t => return .error t
  | none =>
    let path := (← Act.program? program).getD program
    match System.start (← Act.disk) System.startDepth path call with
    | .refused .notExecutable =>
      return .ok ("/usr/bin/sh".toList, call.take 1 ++ path :: call.drop 1)
    | .refused t => return .error t
    | .program _ _ => return .ok (path, call)

/-- Starts the program that the first word of a call names, on behalf of another program in the
same process. Gives the trouble if that is not possible. -/
def startOn (call : List (List Char)) : Act (Except Trouble Ending) := do
  match ← resolved call with
  | .ok (path, call) => return .ok (← engine.start path call)
  | .error t => return .error t

/-- Starts a program on behalf of another one, which complains of it in quotes. -/
def startFor (name : List Char) (about : String) (call : List (List Char)) : Act Ending := do
  match ← engine.startOn call with
  | .ok ending => return ending
  | .error t =>
    Runner.refuse name (Runner.statusOf t)
      (about.toList ++ Tool.quoted (call.headD []) ++ ": ".toList ++ t.reason.toList)

end Engine

end ParserConformance.Script
