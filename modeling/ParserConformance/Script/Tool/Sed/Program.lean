import ParserConformance.Script.Tool.Regex

/-!
# Programs for the editing of streams

A program is a list of instructions, each with the addresses of the lines to which it applies.
-/

namespace ParserConformance.Script.Tool.Sed

/-- Where an instruction applies. -/
inductive Address where
  /-- At a line by its number. -/
  | line (n : Nat)
  /-- At the last line. -/
  | last
  /-- Where an expression matches; nothing stands for the last expression that was used. -/
  | found (r : Option Regex)
  /-- At every so many lines from a first one on. -/
  | every (first step : Nat)
  /-- So many lines further on. -/
  | further (n : Nat)
  /-- At the next line whose number is a multiple. -/
  | multiple (n : Nat)

/-- A part of what stands in for a match. -/
inductive Replacement where
  /-- A character. -/
  | char (c : Char)
  /-- What a group has matched; zero stands for all of the match. -/
  | group (n : Nat)
  /-- A change of the case of what follows. -/
  | case (letter : Char)
  deriving DecidableEq, Repr

/-- A substitution. -/
structure Substitution where
  /-- What is looked for; nothing stands for the last expression that was used. -/
  pattern : Option Regex
  /-- What stands in for a match. -/
  replacement : List Replacement
  /-- The first match that is replaced. -/
  first : Nat
  /-- Whether all matches from there on are replaced. -/
  isGlobal : Bool
  /-- Whether the line is printed then. -/
  prints : Bool
  /-- The file to which the line is written then. -/
  file : Option (List Char)

/-- The number of the last group to which something that stands in for a match refers. -/
def Substitution.lastGroup (s : Substitution) : Nat :=
  s.replacement.foldl (fun n part => match part with
    | .group m => max n m
    | _ => n) 0

/-- What an instruction does. -/
inductive Action where
  /-- It enters a block, which goes up to the instruction of a number. -/
  | enter (stop : Nat)
  /-- It substitutes. -/
  | substitute (s : Substitution)
  /-- It exchanges characters for others. -/
  | exchange (pairs : List (Char × Char))
  /-- It puts a text behind the line. -/
  | append (text : List Char)
  /-- It puts a text before the line. -/
  | insert (text : List Char)
  /-- It puts a text in the place of lines. -/
  | change (text : List Char)
  /-- It goes on at a label, or at the end if the name is empty. -/
  | branch (label : List Char)
  /-- It goes on at a label if a substitution was, or was not, made. -/
  | branchIf (made : Bool) (label : List Char)
  /-- It marks a place. -/
  | label (name : List Char)
  /-- It puts the content of a file behind the line. -/
  | readFile (name : List Char)
  /-- It puts the next line of a file behind the line. -/
  | readLine (name : List Char)
  /-- It writes the line, or only the first one in it, to a file. -/
  | writeFile (isFirst : Bool) (name : List Char)
  /-- It ends the program with a status. -/
  | quit (prints : Bool) (status : Nat)
  /-- It shows the line with every character visible, in lines up to a width. -/
  | list (width : Option Nat)
  /-- It does what a letter says. -/
  | simple (letter : Char)

/-- An instruction. -/
structure Instruction where
  /-- Where it begins to apply. -/
  start : Option Address
  /-- Where it ceases to apply. -/
  stop : Option Address
  /-- Whether it applies everywhere else. -/
  isNegated : Bool
  /-- What it does. -/
  action : Action

/-- A program. -/
structure Program where
  /-- Its instructions. -/
  instructions : Array Instruction
  /-- Where its labels stand. -/
  labels : List (List Char × Nat)

namespace Program

/-- The program of some instructions. -/
def ofInstructions (is : Array Instruction) : Program where
  instructions := is
  labels := is.toList.zipIdx.filterMap fun (i, n) =>
    match i.action with
    | .label name => some (name, n)
    | _ => none

/-- Where a label stands; the end of the program has no label. -/
def target (p : Program) (name : List Char) : Nat :=
  if name.isEmpty then p.instructions.size
  else (p.labels.lookup name).getD p.instructions.size

/-- A label to which a program goes on and that it does not have. -/
def missingLabel? (p : Program) : Option (List Char) :=
  p.instructions.toList.findSome? fun i =>
    match i.action with
    | .branch name | .branchIf _ name =>
      if name.isEmpty || (p.labels.lookup name).isSome then none else some name
    | _ => none

/-- The files to which a program writes, those first that it names first. -/
def files (p : Program) : List (List Char) :=
  (p.instructions.toList.filterMap fun i =>
    match i.action with
    | .writeFile _ name => some name
    | .substitute s => s.file
    | _ => none).eraseDups

end Program

/-- What is wrong with a program. -/
inductive Fault where
  /-- A command that does not exist. -/
  | unknownCommand (letter : Char)
  /-- No command where one is wanted. -/
  | missingCommand
  /-- Something behind a command. -/
  | extraCharacters
  /-- A comma without a second address. -/
  | unexpectedComma
  /-- A closing brace without an opening one. -/
  | unexpectedBrace
  /-- An opening brace without a closing one. -/
  | unmatchedBrace
  /-- Something with an address that has none. -/
  | hasAddress (what : String)
  /-- A second address where only one is allowed. -/
  | secondAddress
  /-- A label without a name. -/
  | namelessLabel
  /-- An address that counts from another one without that one. -/
  | stepFirst
  /-- A line before the first one. -/
  | lineZero
  /-- More than one negation. -/
  | manyNegations
  /-- No text where one is wanted. -/
  | missingText
  /-- A command or an address that is not closed. -/
  | unterminated (what : String)
  /-- A letter that is no option of a substitution. -/
  | unknownOption
  /-- An option of a substitution that is given twice. -/
  | manyOptions (what : String)
  /-- A substitution of the zeroth match. -/
  | zeroNumber
  /-- No name where one of a file is wanted. -/
  | missingName
  /-- Two sides of an exchange that do not go together. -/
  | differentLengths
  /-- A reference to a group that is not there. -/
  | badReference (n : Nat)
  /-- No expression was used before. -/
  | noPrevious
  /-- Letters behind an expression that is not there. -/
  | modifiedNothing
  /-- A later version is asked for. -/
  | newerVersion
  /-- A command that is not allowed. -/
  | disallowed
  /-- A faulty expression. -/
  | regex (fault : Regex.Fault)
  deriving DecidableEq, Repr

/-- The wording of a fault. -/
def Fault.message : Fault → String
  | .unknownCommand letter => "unknown command: `" ++ String.ofList [letter] ++ "'"
  | .missingCommand => "missing command"
  | .extraCharacters => "extra characters after command"
  | .unexpectedComma => "unexpected `,'"
  | .unexpectedBrace => "unexpected `\x7d'"
  | .unmatchedBrace => "unmatched `\x7b'"
  | .hasAddress what => what
  | .secondAddress => "command only uses one address"
  | .namelessLabel => "\":\" lacks a label"
  | .stepFirst => "invalid usage of +N or ~N as first address"
  | .lineZero => "invalid usage of line address 0"
  | .manyNegations => "multiple `!'s"
  | .missingText => "expected \\ after `a', `c' or `i'"
  | .unterminated what => "unterminated " ++ what
  | .unknownOption => "unknown option to `s'"
  | .manyOptions what => "multiple " ++ what ++ " options to `s' command"
  | .zeroNumber => "number option to `s' command may not be zero"
  | .missingName => "missing filename in r/R/w/W commands"
  | .differentLengths => "strings for `y' command are different lengths"
  | .badReference n => "invalid reference \\" ++ toString n ++ " on `s' command's RHS"
  | .noPrevious => "no previous regular expression"
  | .modifiedNothing => "cannot specify modifiers on empty regexp"
  | .newerVersion => "expected newer version of sed"
  | .disallowed => "e/r/w commands disabled in sandbox mode"
  | .regex fault => fault.message

end ParserConformance.Script.Tool.Sed
