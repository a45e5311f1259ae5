import ParserConformance.Parser.Host
import ParserConformance.Script.Command

/-!
# Signals

Signals have numbers and names. Most of them end the process that they reach.
-/

namespace ParserConformance.Script

open Program (signalNames)

/-- All signals as they are listed, from the first one on. One of them is known by its number
alone. -/
def signalList : List String :=
  signalNames.map (fun name => if name = "STKFLT" then "16" else name) ++
    ["32", "33", "RTMIN"] ++ (List.range 15).map (fun i => "RTMIN+" ++ toString (i + 1)) ++
    (List.range 14).map (fun i => "RTMAX-" ++ toString (14 - i)) ++ ["RTMAX"]

/-- The signal that a number or a name calls; zero, which is no signal, is called `EXIT`. -/
def signalOf? (cs : List Char) : Option Nat :=
  let name := cs.map Char.toUpper
  if !cs.isEmpty && cs.all isDigit then
    let n := valueOf cs
    if n ≤ 64 then some n else none
  else if name = "EXIT".toList then some 0
  else (signalNames.findIdx? (·.toList = name)).map (· + 1)

/-- What becomes of a process that a signal reaches and that has made no plans for it. -/
inductive Fate where
  /-- It ends. -/
  | ends
  /-- It stops and goes on only when it is told to. -/
  | stops
  /-- It goes on. -/
  | goesOn
  deriving DecidableEq, Repr

/-- What a signal does to a process. -/
def fateOf (signal : Nat) : Fate :=
  if [0, 17, 18, 23, 28].contains signal then .goesOn
  else if [19, 20, 21, 22].contains signal then .stops
  else .ends

/-- What a shell says when a signal has ended a process that it waited for. -/
def signalText (signal : Nat) : Option String :=
  match signal with
  | 1 => some "Hangup"
  | 2 => none
  | 3 => some "Quit"
  | 4 => some "Illegal instruction"
  | 5 => some "Trace/breakpoint trap"
  | 6 => some "Aborted"
  | 7 => some "Bus error"
  | 8 => some "Floating point exception"
  | 9 => some "Killed"
  | 10 => some "User defined signal 1"
  | 11 => some "Segmentation fault"
  | 12 => some "User defined signal 2"
  | 13 => none
  | 14 => some "Alarm clock"
  | 15 => some "Terminated"
  | 16 => some "Stack fault"
  | 24 => some "CPU time limit exceeded"
  | 25 => some "File size limit exceeded"
  | 26 => some "Virtual timer expired"
  | 27 => some "Profiling timer expired"
  | 29 => some "I/O possible"
  | 30 => some "Power failure"
  | 31 => some "Bad system call"
  | _ => some "Unknown signal"

end ParserConformance.Script
