/-!
# Trouble with files

Why the system refuses to do something with a file or a program, and its wording.
-/

namespace ParserConformance

/-- Why the system refuses. -/
inductive Trouble where
  /-- There is nothing of that name. -/
  | notFound
  /-- The mode of a file or directory forbids it. -/
  | permissionDenied
  /-- There is no device behind a name. -/
  | noDevice
  /-- A file is no program that the system can start. -/
  | notExecutable
  /-- A path goes on behind something that is no directory. -/
  | notDirectory
  /-- A directory stands where a file is wanted. -/
  | isDirectory
  /-- A name or path is too long. -/
  | nameTooLong
  /-- Links lead to links without end. -/
  | tooManyLinks
  /-- A name holds a character that no file name has. -/
  | nulInName
  /-- An argument of a program holds a character that none may hold. -/
  | nulInArgument
  /-- A file that should be text is none. -/
  | notText
  deriving DecidableEq, Repr

namespace Trouble

/-- What a trouble is called. -/
def reason : Trouble → String
  | .notFound => "No such file or directory"
  | .noDevice => "No such device or address"
  | .notExecutable => "Exec format error"
  | .permissionDenied => "Permission denied"
  | .notDirectory => "Not a directory"
  | .isDirectory => "Is a directory"
  | .nameTooLong => "File name too long"
  | .tooManyLinks => "Too many levels of symbolic links"
  | .nulInName => "file name contained an unexpected NUL byte"
  | .nulInArgument => "nul byte found in provided data"
  | .notText => "stream did not contain valid UTF-8"

/-- The system's number of a trouble that comes from it. -/
def number? : Trouble → Option Nat
  | .notFound => some 2
  | .noDevice => some 6
  | .notExecutable => some 8
  | .permissionDenied => some 13
  | .notDirectory => some 20
  | .isDirectory => some 21
  | .nameTooLong => some 36
  | .tooManyLinks => some 40
  | .nulInName => none
  | .nulInArgument => none
  | .notText => none

/-- The wording of a trouble. -/
def message (t : Trouble) : String :=
  match t.number? with
  | some n => t.reason ++ " (os error " ++ toString n ++ ")"
  | none => t.reason

end Trouble

end ParserConformance
