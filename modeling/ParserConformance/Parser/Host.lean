import ParserConformance.Files.Disk
import ParserConformance.Json.Reader

/-!
# Hosts

A host runs programs: it starts one on an input and tells what the run came to. What a program does
while it runs is known to its host alone.
-/

namespace ParserConformance.Program

/-- The names of the signals, from the first one on. -/
def signalNames : List String :=
  ["HUP", "INT", "QUIT", "ILL", "TRAP", "ABRT", "BUS", "FPE", "KILL", "USR1", "SEGV", "USR2",
    "PIPE", "ALRM", "TERM", "STKFLT", "CHLD", "CONT", "STOP", "TSTP", "TTIN", "TTOU", "URG",
    "XCPU", "XFSZ", "VTALRM", "PROF", "WINCH", "IO", "PWR", "SYS"]

/-- The name of a signal. -/
def signalName? (signal : Nat) : Option String :=
  if signal = 0 then none else signalNames[signal - 1]?

/-- How a program ends. -/
inductive Ending where
  /-- With a status. -/
  | exited (status : Nat)
  /-- By a signal. -/
  | killed (signal : Nat)
  deriving DecidableEq, Repr

/-- An ending in words. -/
def Ending.text : Ending → String
  | .exited status => "exit status: " ++ toString status
  | .killed signal =>
    "signal: " ++ toString signal ++
      (match signalName? signal with
        | some name => " (SIG" ++ name ++ ")"
        | none => "")

/-- How programs are started. -/
structure Call where
  /-- Their arguments. -/
  args : List String
  /-- The variables that they see besides those that all programs see. -/
  environment : List (String × String) := []
  deriving DecidableEq, Repr

/-- What the run of a program comes to. -/
structure Result where
  /-- How it ended. -/
  ending : Ending
  /-- What it wrote to its output. -/
  output : List UInt8
  /-- What it wrote to its errors. -/
  errors : List UInt8
  /-- How long it took, in milliseconds. -/
  duration : Nat
  /-- The disk afterwards. -/
  disk : Disk
  deriving Repr

/-- What runs programs and has words for what is wrong with their output. -/
structure Host where
  /-- Runs the program at a path on an input, for as long as it takes or up to a time in
  milliseconds, unless it cannot be started. -/
  run : (limit : Option Nat) → Disk → Path → Call → (input : List UInt8) → Except Trouble Result
  /-- What is said of an output that is refused as a tree. -/
  wording : (output : List UInt8) → Json.Refusal → String

end ParserConformance.Program
