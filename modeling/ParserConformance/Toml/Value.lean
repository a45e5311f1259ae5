/-!
# TOML documents

The values of a TOML document, and how its sections are put together into one table. A table
remembers by what it came to be, since that decides what may still be added to it.
-/

namespace ParserConformance.Toml

/-- By what a table came to be. -/
inductive Form where
  /-- A header of its own. -/
  | header
  /-- A longer header that goes through it. -/
  | implied
  /-- A dotted key that goes through it. -/
  | dotted
  /-- Braces. -/
  | inline
  deriving DecidableEq, Repr

/-- A TOML value. -/
inductive Value where
  /-- A text. -/
  | string (s : String)
  /-- An integer. -/
  | integer (i : Int)
  /-- A floating-point number; which one is of no use here. -/
  | float
  /-- A truth value. -/
  | boolean (b : Bool)
  /-- A date, a time or both; which one is of no use here. -/
  | datetime
  /-- Values between brackets. -/
  | array (items : List Value)
  /-- A table. -/
  | table (form : Form) (entries : List (String × Value))
  /-- Tables that share a header in double brackets. -/
  | tables (items : List (List (String × Value)))
  deriving Repr

/-- The entries of a table, in no order of note. -/
abbrev Entries := List (String × Value)

/-- The value under a key. -/
def find? (key : String) (es : Entries) : Option Value :=
  (es.find? (·.1 = key)).map (·.2)

/-- The entries with `v` under `key`, in place of what was there. -/
def put (key : String) (v : Value) (es : Entries) : Entries :=
  es.filter (·.1 ≠ key) ++ [(key, v)]

/-- The entries with what `edit` makes of the table at the end of `path`. Tables on the way
that are not there yet come to be. Dotted keys do not go through tables that have a header of
their own, and nothing goes through a value in braces. -/
def descend (dots : Bool) (edit : Form → Entries → Option Entries) :
    (path : List String) → Form → Entries → Option Entries
  | [], form, es => edit form es
  | key :: path, _, es =>
    match find? key es with
    | none => do
      let form := if dots then Form.dotted else Form.implied
      return put key (.table form (← descend dots edit path form [])) es
    | some (.table form inner) =>
      if form = .inline || (dots && form = .header) then none
      else do return put key (.table form (← descend dots edit path form inner)) es
    | some (.tables items) =>
      match items.getLast? with
      | none => none
      | some last => do
        return put key (.tables (items.dropLast ++ [← descend dots edit path .header last])) es
    | some _ => none

/-- The entries with one more key and its value. A dotted key ends in a table made by dotted
keys, and a key is given once. -/
def assign (path : List String) (key : String) (v : Value) (form : Form) (es : Entries) :
    Option Entries :=
  descend true (fun form es =>
    if (form == .dotted) == path.isEmpty then none
    else if (find? key es).isSome then none
    else some (put key v es)) path form es

/-- A key with its value: the names before the last one, and that. -/
structure Assignment where
  /-- The names before the last one. -/
  path : List String
  /-- The last name. -/
  key : String
  /-- The value. -/
  value : Value

/-- The entries with all assignments of a section. -/
def assignAll (form : Form) : List Assignment → Entries → Option Entries
  | [], es => some es
  | a :: as, es => do assignAll form as (← assign a.path a.key a.value form es)

/-- A header: the names before the last one, that, and whether it stands in double brackets. -/
structure Header where
  /-- The names before the last one. -/
  path : List String
  /-- The last name. -/
  key : String
  /-- Whether each such header begins a further table. -/
  isRepeated : Bool

/-- A header and the assignments under it. -/
structure Section where
  /-- The header. -/
  header : Header
  /-- The assignments. -/
  assignments : List Assignment

/-- The document's entries with those of a section. A table has one header. -/
def addSection (s : Section) (es : Entries) : Option Entries :=
  descend false (fun _ es =>
    let existing := find? s.header.key es
    if s.header.isRepeated then do
      let added ← assignAll .header s.assignments []
      match existing with
      | none => some (put s.header.key (.tables [added]) es)
      | some (.tables items) => some (put s.header.key (.tables (items ++ [added])) es)
      | some _ => none
    else
      match existing with
      | none => do
        return put s.header.key (.table .header (← assignAll .header s.assignments [])) es
      | some (.table .implied inner) => do
        return put s.header.key (.table .header (← assignAll .header s.assignments inner)) es
      | some _ => none) s.header.path .header es

/-- A document: assignments before any header, and sections. -/
structure Document where
  /-- The assignments before the first header. -/
  preamble : List Assignment
  /-- The sections in order. -/
  sections : List Section

/-- The entries of a whole document. -/
def Document.entries (d : Document) : Option Entries := do
  d.sections.foldlM (fun es s => addSection s es) (← assignAll .header d.preamble [])

end ParserConformance.Toml
