/-!
# Shell commands

A shell script is a text of commands: simple commands with their assignments and redirections,
and commands that are made of other commands. Scripts and their data are bytes; a byte is held
as the character of the same number.
-/

namespace ParserConformance.Script

/-- What becomes of a parameter that has no value, or that has one. -/
inductive StandIn where
  /-- `-`: a word stands in for it. -/
  | instead
  /-- `=`: a word stands in for it and becomes its value. -/
  | assigned
  /-- `?`: it is a mistake, and a word says so. -/
  | demanded
  /-- `+`: a word stands in for the value that it has. -/
  | present
  deriving DecidableEq, Repr

/-- What is done with a file that a stream is sent to or comes from. -/
inductive FileUse where
  /-- `<`: it is read. -/
  | read
  /-- `>`: it is written from its start, what was in it is lost. -/
  | write
  /-- `>|`: the same, whatever is in it. -/
  | replace
  /-- `>>`: it is written at its end. -/
  | append
  /-- `<>`: it is read and written. -/
  | both
  deriving DecidableEq, Repr

mutual

/-- A part of a word. -/
inductive Fragment where
  /-- Characters without quotes. -/
  | plain (cs : List Char)
  /-- Characters that stand for themselves, each of them quoted. -/
  | literal (cs : List Char)
  /-- What stands between double quotes. -/
  | quoted (w : List Fragment)
  /-- The value of a parameter. -/
  | parameter (name : List Char) (change : Change)
  /-- What commands write to their output. -/
  | output (body : Option Command)
  /-- The value of an arithmetic expression. -/
  | arithmetic (expression : List Fragment)

/-- What is done with the value of a parameter. -/
inductive Change where
  /-- Nothing. -/
  | asIs
  /-- Its length is taken. -/
  | length
  /-- It is put in place of by a word, if it is unset, or, with `emptyToo`, empty. -/
  | standIn (kind : StandIn) (emptyToo : Bool) (w : List Fragment)
  /-- What matches a pattern is cut off at an end. -/
  | trim (atEnd longest : Bool) (pattern : List Fragment)
  /-- Something that no shell knows how to do. -/
  | unknown

/-- The sending of a stream to another place. -/
inductive Redirection where
  /-- To or from a file. -/
  | file (stream : Nat) (use : FileUse) (name : List Fragment)
  /-- To where the stream of another number goes, or nowhere. -/
  | stream (stream : Nat) (other : List Fragment)
  /-- From a document that stands in the script, known by its number. -/
  | document (stream : Nat) (id : Nat)

/-- A command. -/
inductive Command where
  /-- Assignments and a program with its arguments. -/
  | simple (line : Nat) (assignments : List (List Char × List Fragment))
      (words : List (List Fragment)) (redirections : List Redirection)
  /-- One command after the other. -/
  | sequence (first second : Command)
  /-- The second command if the first one succeeds. -/
  | both (first second : Command)
  /-- The second command if the first one fails. -/
  | either (first second : Command)
  /-- A command whose success counts as failure. -/
  | negated (c : Command)
  /-- Commands side by side, the output of each the input of the next one. -/
  | pipeline (cs : List Command)
  /-- A command that nobody waits for. -/
  | background (line : Nat) (c : Command)
  /-- A command in a shell of its own. -/
  | subshell (line : Nat) (body : Command) (redirections : List Redirection)
  /-- A command under redirections. -/
  | redirected (line : Nat) (body : Command) (redirections : List Redirection)
  /-- A command under a condition. -/
  | branch (condition yes : Command) (no : Option Command)
  /-- A command again and again, as long as another one succeeds, or fails. -/
  | loop (whileTrue : Bool) (condition body : Command)
  /-- A command for each of some fields, which a variable holds. -/
  | each (line : Nat) (name : List Char) (words : List (List Fragment)) (body : Command)
  /-- The command of the first arm that has a pattern for the subject. -/
  | select (line : Nat) (subject : List Fragment)
      (arms : List (List (List Fragment) × Option Command))
  /-- The definition of a function. -/
  | define (line : Nat) (name : List Char) (body : Command)

end

/-- A word before its expansion. -/
abbrev Word := List Fragment

/-- Whether a character is a digit. -/
def isDigit (c : Char) : Bool := '0' ≤ c && c ≤ '9'

/-- Whether a character may begin the name of a variable. -/
def isNameStart (c : Char) : Bool :=
  ('a' ≤ c && c ≤ 'z') || ('A' ≤ c && c ≤ 'Z') || c = '_'

/-- Whether a character may stand in the name of a variable. -/
def isNameChar (c : Char) : Bool := isNameStart c || isDigit c

/-- Whether characters are the name of a variable. -/
def isName (cs : List Char) : Bool :=
  (cs.head?.any isNameStart) && cs.all isNameChar

/-- Whether a character by itself is the name of a parameter. -/
def isSpecialParameter (c : Char) : Bool := "@*#?-$!".toList.contains c || isDigit c

/-- The value of digits. -/
def valueOf (digits : List Char) : Nat :=
  digits.foldl (fun n c => n * 10 + (c.toNat - '0'.toNat)) 0

/-- A number in digits. -/
def digitsOf (n : Nat) : List Char := (toString n).toList

/-- A whole number in digits. -/
def digitsOfInt (n : Int) : List Char := (toString n).toList

/-- An assignment: a name, an equals sign and a word. -/
def assignment? : Word → Option (List Char × Word)
  | .plain cs :: rest =>
    let name := cs.takeWhile (· ≠ '=')
    match cs.drop name.length with
    | '=' :: value =>
      if !isName name then none
      else some (name, if value.isEmpty then rest else .plain value :: rest)
    | _ => none
  | _ => none

end ParserConformance.Script
