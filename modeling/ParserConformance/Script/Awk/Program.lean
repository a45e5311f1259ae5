import ParserConformance.Script.Awk.Value
import ParserConformance.Script.Tool.Regex.Matching

/-!
# Programs that work on text

A program is a list of rules, each with a condition on the record at hand and with statements,
and of functions. Variables and functions are known by numbers: the first variables are those
that have a meaning of their own.
-/

namespace ParserConformance.Script.Awk

open Tool (Regex)

/-! ### Variables -/

/-- The variables with a meaning of their own, in the order of their numbers. -/
def specialNames : List String :=
  ["NF", "NR", "FNR", "FS", "OFS", "RS", "ORS", "FILENAME", "SUBSEP", "RSTART", "RLENGTH",
    "CONVFMT", "OFMT", "ARGC", "ARGV", "ENVIRON"]

/-- The number of a variable with a meaning of its own. -/
def special (name : String) : Nat := specialNames.idxOf name

/-- A variable. -/
inductive Variable where
  /-- One of the whole program. -/
  | global (n : Nat)
  /-- One of the function at work. -/
  | own (n : Nat)
  deriving DecidableEq, Repr

/-! ### Expressions -/

/-- What is done with two numbers. -/
inductive Operation where
  /-- They are added. -/
  | add
  /-- The second one is taken off the first one. -/
  | subtract
  /-- They are multiplied. -/
  | multiply
  /-- The first one is divided by the second one. -/
  | divide
  /-- What is left of such a division. -/
  | remain
  /-- The first one is raised to the power of the second one. -/
  | raise
  deriving DecidableEq, Repr

/-- A function that every program has. -/
inductive Function where
  /-- The length of a text. -/
  | length
  /-- The place of a text in another one. -/
  | index
  /-- A part of a text. -/
  | substr
  /-- A text in small letters. -/
  | tolower
  /-- A text in capital letters. -/
  | toupper
  /-- Values in a format. -/
  | sprintf
  /-- The sine. -/
  | sin
  /-- The cosine. -/
  | cos
  /-- The angle of a point. -/
  | atan2
  /-- A power of the base of natural logarithms. -/
  | exp
  /-- The natural logarithm. -/
  | log
  /-- The square root. -/
  | sqrt
  /-- A number without its decimals. -/
  | int
  /-- A number between zero and one. -/
  | rand
  /-- Sets where such numbers begin. -/
  | srand
  /-- Closes a stream. -/
  | close
  /-- Writes out what was held back. -/
  | fflush
  /-- Runs a command. -/
  | system
  /-- The time in seconds. -/
  | systime
  deriving DecidableEq, Repr

/-- The functions that every program has, with their names and with how many arguments they have
at least and at most. -/
def Function.all : List (String × Function × Nat × Nat) :=
  [("atan2", .atan2, 2, 2), ("close", .close, 1, 1), ("cos", .cos, 1, 1), ("exp", .exp, 1, 1),
    ("fflush", .fflush, 0, 1), ("index", .index, 2, 2), ("int", .int, 1, 1), ("log", .log, 1, 1),
    ("rand", .rand, 0, 0), ("sin", .sin, 1, 1), ("sprintf", .sprintf, 1, 250),
    ("sqrt", .sqrt, 1, 1), ("srand", .srand, 0, 1), ("substr", .substr, 2, 3),
    ("system", .system, 1, 1), ("systime", .systime, 0, 0), ("tolower", .tolower, 1, 1),
    ("toupper", .toupper, 1, 1)]

mutual

/-- An expression. -/
inductive Expr where
  /-- A number. -/
  | number (x : Float)
  /-- A text. -/
  | text (cs : List Char)
  /-- Whether an expression occurs in the record. -/
  | regex (r : Regex)
  /-- What stands in a place. -/
  | place (p : Place)
  /-- A value put into a place, perhaps combined with what was there. -/
  | assign (p : Place) (op : Option Operation) (e : Expr)
  /-- One of two values. -/
  | choice (c a b : Expr)
  /-- Whether two things hold. -/
  | both (a b : Expr)
  /-- Whether one of two things holds. -/
  | either (a b : Expr)
  /-- Whether something does not hold. -/
  | negation (e : Expr)
  /-- Whether a table has a key. -/
  | member (table : Variable) (keys : List Expr)
  /-- Whether a regular expression occurs in a text, or does not. -/
  | fits (isNegated : Bool) (e : Expr) (pattern : Matcher)
  /-- Whether two values are in a relation. -/
  | compare (r : Relation) (a b : Expr)
  /-- One text behind the other. -/
  | join (a b : Expr)
  /-- Two numbers combined. -/
  | combine (op : Operation) (a b : Expr)
  /-- A number with the other sign. -/
  | opposite (e : Expr)
  /-- A value as a number. -/
  | asNumber (e : Expr)
  /-- A number one greater or one less, before or after its place is changed. -/
  | step (p : Place) (isBefore isUp : Bool)
  /-- A call of a function of the program. -/
  | call (function : Nat) (args : List Expr)
  /-- A call of a function that every program has. -/
  | apply (f : Function) (args : List Expr)
  /-- The length of what a variable holds, which may be a table. -/
  | lengthOf (v : Variable)
  /-- How many parts a text has, which are put into a table. -/
  | split (e : Expr) (table : Variable) (separator : Option Matcher)
  /-- How often something in a place was replaced; in the record if no place is given. -/
  | replace (all : Bool) (pattern : Matcher) (new : Expr) (target : Option Place)
  /-- Where a regular expression occurs in a text. -/
  | locate (e : Expr) (pattern : Matcher)
  /-- Reads the next record. -/
  | read (source : Source) (target : Option Place)

/-- A place for a value. -/
inductive Place where
  /-- A variable. -/
  | variable (v : Variable)
  /-- A field of the record. -/
  | field (e : Expr)
  /-- A value of a table. -/
  | element (table : Variable) (keys : List Expr)

/-- A regular expression, or what gives one. -/
inductive Matcher where
  /-- One that is known. -/
  | fixed (r : Regex)
  /-- One that is a text. -/
  | computed (e : Expr)

/-- Where a record is read from. -/
inductive Source where
  /-- The input of the program. -/
  | main
  /-- A file. -/
  | file (e : Expr)
  /-- The output of a command. -/
  | command (e : Expr)

end

/-! ### Statements -/

/-- Where output goes. -/
inductive Sending where
  /-- To a file, from its start. -/
  | write
  /-- To the end of a file. -/
  | append
  /-- To a command. -/
  | pipe
  deriving DecidableEq, Repr

/-- A statement. -/
inductive Statement where
  /-- An expression, for what it does. -/
  | expr (e : Expr)
  /-- Writes values, by a format if `hasFormat`. -/
  | print (hasFormat : Bool) (args : List Expr) (target : Option (Sending × Expr))
  /-- One of two statements. -/
  | branch (c : Expr) (yes : Statement) (no : Option Statement)
  /-- A statement as long as something holds, which is asked first if `asksFirst`. -/
  | loop (asksFirst : Bool) (c : Expr) (body : Statement)
  /-- A statement as long as something holds, with a step after each round. -/
  | rounds (first : Option Statement) (c : Option Expr) (step : Option Statement)
      (body : Statement)
  /-- A statement for each key of a table. -/
  | each (v : Variable) (table : Variable) (body : Statement)
  /-- Statements one after the other. -/
  | block (ss : List Statement)
  /-- Goes on with the next record, perhaps of the next file. -/
  | next (isFile : Bool)
  /-- Ends the program. -/
  | exit (e : Option Expr)
  /-- Ends a function with a value. -/
  | give (e : Option Expr)
  /-- Leaves a loop. -/
  | leave
  /-- Goes on with the next round of a loop. -/
  | again
  /-- Takes a key off a table. -/
  | remove (table : Variable) (keys : List Expr)
  /-- Takes all keys off a table. -/
  | clear (table : Variable)

/-! ### Programs -/

/-- When a rule applies. -/
inductive Condition where
  /-- Before the first record. -/
  | first
  /-- After the last record. -/
  | last
  /-- To all records. -/
  | always
  /-- To records of which something holds. -/
  | when (e : Expr)
  /-- To records from one to another; the number is that of the range. -/
  | range (n : Nat) (a b : Expr)

/-- A rule. -/
structure Rule where
  /-- When it applies. -/
  condition : Condition
  /-- What is done; the record is written if nothing is given. -/
  body : Option Statement

/-- A function of a program. -/
structure Procedure where
  /-- The names of its variables, each with whether it is a table. -/
  locals : List (List Char × Bool)
  /-- What it does. -/
  body : Statement

/-- A program. -/
structure Program where
  /-- Its rules. -/
  rules : List Rule
  /-- Its functions. -/
  procedures : Array Procedure
  /-- The names of its variables, each with whether it is a table. -/
  globals : Array (List Char × Bool)
  /-- How many ranges there are. -/
  ranges : Nat

instance : Inhabited Procedure := ⟨⟨[], .block []⟩⟩

end ParserConformance.Script.Awk
