import ParserConformance.Script.Awk.Format
import ParserConformance.Script.Awk.Text
import ParserConformance.Script.Awk.Table
import ParserConformance.Script.Machine

/-!
# How far a text program has come

A program at work has its variables, the record at hand and its streams. The record is parted into
fields when one of them is asked for, and is joined from its fields when it is asked for as a whole
after one of them has changed.
-/

namespace ParserConformance.Script.Awk

open Tool (Regex)

/-- What a variable holds. -/
inductive Slot where
  /-- A value. -/
  | value (v : Value)
  /-- The table of a number. -/
  | table (n : Nat)

instance : Inhabited Slot := ⟨.value .unset⟩

/-- A record. -/
structure Record where
  /-- Its text. -/
  text : List Char := []
  /-- Whether the text is that of its fields. -/
  isJoined : Bool := true
  /-- Its fields. -/
  fields : Array Value := #[]
  /-- Whether the fields are those of its text. -/
  isParted : Bool := true
  /-- What stands between its fields. -/
  separator : Separator := .blanks

/-- The input from which records are read. -/
inductive Feed where
  /-- It has not been opened. -/
  | waiting
  /-- What is left of the file at hand. -/
  | flowing (rest : List Char)
  /-- It has come to its end. -/
  | over

/-- A stream that a program has opened. -/
inductive Stream where
  /-- What is left of a file. -/
  | reading (rest : List Char)
  /-- What is left of the output of a command, and the status of that one. -/
  | listening (rest : List Char) (status : Nat)
  /-- What is held back from a channel, the last piece first. -/
  | writing (channel : Nat) (held : List (List Char))
  /-- The input of a command so far, the last piece first. -/
  | telling (held : List (List Char))

/-- How far a program has come. -/
structure Progress where
  /-- The name by which it complains. -/
  name : List Char
  /-- The variables of the program. -/
  globals : Array Slot
  /-- The variables of the function at work. -/
  own : Array Slot := #[]
  /-- The tables. -/
  tables : Array Table
  /-- The record at hand. -/
  record : Record := {}
  /-- What stands between the fields of the records to come. -/
  separator : Separator := .blanks
  /-- What ends records. -/
  terminator : Terminator := .character '\n'
  /-- The ranges that have begun and not ended. -/
  ranges : List Nat := []
  /-- What is held back from the output, the last piece first. -/
  held : List (List Char) := []
  /-- The streams by name, that one first which was used last. -/
  streams : List (List Char × Stream) := []
  /-- The input. -/
  feed : Feed := .waiting
  /-- The number of the operand that comes next. -/
  operand : Nat := 1
  /-- Whether an operand has named a file. -/
  hasFile : Bool := false
  /-- The status with which the program ends. -/
  status : Int := 0
  /-- Where the numbers begin that look like chance. -/
  seed : Value := .unset
  /-- The state of those numbers. -/
  chance : UInt64 := 0
  /-- How many variables all functions at work have. -/
  depth : Nat := 0

/-- Why a program does not go on with the next statement. -/
inductive Halt where
  /-- It goes on with the next record, perhaps of the next file. -/
  | next (isFile : Bool)
  /-- It ends. -/
  | exits
  /-- It breaks down. -/
  | fails
  deriving DecidableEq, Repr

/-- An action of a program. -/
abbrev Working := ExceptT Halt (StateT Progress Act)

/-- The number of the variable for how many fields there are. -/
def fieldCount : Nat := special "NF"

namespace Working

/-! ### Complaints -/

/-- Writes a complaint. -/
def complain (text : List Char) : Working Unit := do
  let _ ← Act.write 2 ((← get).name ++ ": ".toList ++ text ++ ['\n'])

/-- Complains and breaks down. -/
def fail {α : Type} (text : List Char) : Working α := do
  complain text
  modify fun p => { p with status := 2 }
  throw .fails

/-- The value of a variable of the program as it was set last. -/
def setting (n : Nat) : Working Value := do
  match (← get).globals[n]? with
  | some (.value v) => return v
  | _ => return .unset

/-- The text of a variable that is to be a text. -/
def settingText (name : String) : Working (List Char) := do
  return (← setting (special name)).toText (numberText "%.6g".toList)

/-- Breaks down over what a statement asks for, and tells what was being read. -/
def fault {α : Type} (text : List Char) : Working α := do
  let file ← settingText "FILENAME"
  let inFile := digitsOfInt (wholeOf (← setting (special "FNR")).toNumber)
  let inAll := digitsOfInt (wholeOf (← setting (special "NR")).toNumber)
  fail ("run time error: ".toList ++ text ++ "\n\tFILENAME=\"".toList ++ file ++
    "\" FNR=".toList ++ inFile ++ " NR=".toList ++ inAll)

/-! ### Texts -/

/-- A value as a text. -/
def textOf (v : Value) : Working (List Char) := do
  match v with
  | .number x => return numberText (← settingText "CONVFMT") x
  | v => return v.toText fun _ => []

/-- A value as a text to be written. -/
def outputOf (v : Value) : Working (List Char) := do
  match v with
  | .number x => return numberText (← settingText "OFMT") x
  | v => return v.toText fun _ => []

/-- The regular expression that a text writes. -/
def regexOf (cs : List Char) : Working Regex := do
  match readRegex cs with
  | .ok r => return r
  | .error text => fault text

/-! ### The record -/

/-- The record with its fields. -/
def parted : Working Record := do
  let r := (← get).record
  if r.isParted then return r
  else
    let fields := ((r.separator.fields r.text).map Value.input).toArray
    let r := { r with fields, isParted := true }
    modify fun p => { p with
      record := r
      globals := p.globals.setIfInBounds fieldCount (.value (.ofNat fields.size)) }
    return r

/-- The record as a text. -/
def recordText : Working (List Char) := do
  let r := (← get).record
  if r.isJoined then return r.text
  else
    let between ← settingText "OFS"
    let text := between.intercalate (← r.fields.toList.mapM textOf)
    modify fun p => { p with record := { p.record with text, isJoined := true } }
    return text

/-- Takes a text for the record. -/
def setRecord (text : List Char) : Working Unit :=
  modify fun p => { p with record := { text, isParted := false, separator := p.separator } }

/-- The value of a field; the record is field zero. -/
def field (n : Nat) : Working Value := do
  if n = 0 then return .input (← recordText)
  else return ((← parted).fields[n - 1]?).getD .unset

/-- Gives the record as many fields as asked for. -/
def resize (count : Nat) (v : Value) : Working Unit := do
  let r ← parted
  let fields := r.fields.take count
  let fields := fields ++ Array.replicate (count - fields.size) (.input [])
  modify fun p => { p with
    record := { p.record with fields, isJoined := false }
    globals := p.globals.setIfInBounds fieldCount (.value v) }

/-- Gives a field a value. -/
def setField (n : Nat) (v : Value) : Working Unit := do
  if n = 0 then setRecord (← textOf v)
  else
    if (← parted).fields.size < n then resize n (.ofNat n)
    modify fun p => { p with
      record := { p.record with
        fields := p.record.fields.setIfInBounds (n - 1) v
        isJoined := false } }

/-- The number of a field from a value. -/
def fieldNumber (v : Value) : Working Nat := do
  let n := wholeOf v.toNumber
  if n < 0 then fault ("negative field index $".toList ++ digitsOfInt n) else return n.toNat

/-! ### Variables -/

/-- Gives a variable of the program a value. Some of them act on records. -/
def setGlobal (n : Nat) (v : Value) : Working Unit := do
  let store : Working Unit :=
    modify fun p => { p with globals := p.globals.setIfInBounds n (.value v) }
  if specialNames.length ≤ n then store
  else if n = fieldCount then
    let count := wholeOf v.toNumber
    if count < 0 then fault "negative value assigned to NF".toList else resize count.toNat v
  else if n = special "FS" then
    let _ ← parted
    store
    match Separator.ofText (← textOf v) with
    | .ok separator => modify fun p => { p with separator }
    | .error text => fault text
  else if n = special "RS" then
    store
    match Terminator.ofText (← textOf v) with
    | .ok terminator => modify fun p => { p with terminator }
    | .error text => fault text
  else
    if ["OFS", "CONVFMT", "OFMT"].any (special · = n) then
      let _ ← recordText
    store

/-- Gives a variable a value. -/
def setVariable (v : Variable) (x : Value) : Working Unit := do
  match v with
  | .global n => setGlobal n x
  | .own n => modify fun p => { p with own := p.own.setIfInBounds n (.value x) }

/-- What a variable holds. -/
def slot (v : Variable) : Working Slot := do
  match v with
  | .global n => return ((← get).globals[n]?).getD default
  | .own n => return ((← get).own[n]?).getD default

/-- The value of a variable. -/
def current (v : Variable) : Working Value := do
  if v = .global fieldCount then
    let _ ← parted
  match ← slot v with
  | .value x => return x
  | .table _ => return .unset

/-! ### Tables -/

/-- The number of the table that a variable holds. -/
def tableNumber (v : Variable) : Working Nat := do
  match ← slot v with
  | .table n => return n
  | .value _ => return 0

/-- Does something with a table. -/
def onTable {α : Type} (n : Nat) (f : Table → α × Table) : Working α :=
  modifyGet fun p =>
    let t := p.tables.getD n {}
    let p := { p with tables := p.tables.setIfInBounds n {} }
    let (a, t) := f t
    (a, { p with tables := p.tables.setIfInBounds n t })

/-- Changes a table. -/
def changeTable (n : Nat) (f : Table → Table) : Working Unit :=
  onTable n fun t => ((), f t)

/-- The key that a value is. -/
def keyOf (v : Value) : Working Key := do
  match v with
  | .number x =>
    if isWhole x && x.abs < 2147483648 then return .number (wholeOf x)
    else return .text (← textOf v)
  | v => return .text (v.toText fun _ => [])

/-- The key that some values are together. -/
def keyOfAll (vs : List Value) : Working Key := do
  match vs with
  | [v] => keyOf v
  | vs => return .text ((← settingText "SUBSEP").intercalate (← vs.mapM textOf))

/-- Sees to it that a table has a key. -/
def touch (n : Nat) (k : Key) : Working Unit :=
  changeTable n fun t =>
    let (has, t) := t.look k
    if has then t else t.insert k .unset

/-- The value of a key of a table. -/
def element (n : Nat) (k : Key) : Working Value := do
  return ((((← get).tables[n]?).bind (·.find? k))).getD .unset

end Working

end ParserConformance.Script.Awk
