import Std.Data.HashMap
import ParserConformance.Script.Awk.Value

/-!
# Tables

A table holds values under keys, which are texts. The order in which a loop goes through the keys
is that of slots to which they are assigned by a number that is computed from them. Whole numbers
that were used as keys are first kept in slots of their own.
-/

namespace ParserConformance.Script.Awk

/-- A key of a table as it is given. -/
inductive Key where
  /-- A whole number. -/
  | number (n : Int)
  /-- A text. -/
  | text (cs : List Char)

/-- The text of a key. -/
def Key.name : Key → List Char
  | .number n => digitsOfInt n
  | .text cs => cs

/-- The number by which a text is assigned to a slot. -/
def slotNumber (cs : List Char) : Nat :=
  (cs.foldl (fun (h : UInt32) c => (h ^^^ UInt32.ofNat c.toNat) * 16777619) 2166136261).toNat

/-- How many slots a table has at first. -/
def firstSlots : Nat := 64

/-- How many keys there are to a slot before there are more slots. -/
def keysToSlot : Nat := 12

/-- A table. -/
structure Table where
  /-- The values. -/
  values : Std.HashMap (List Char) Value := ∅
  /-- The keys that are texts, by slots. -/
  texts : Array (List (List Char)) := Array.replicate firstSlots []
  /-- The keys that are numbers, by slots. -/
  numbers : Array (List Int) := Array.replicate firstSlots []
  /-- Whether all keys are in the slots for texts. -/
  hasTexts : Bool := false

namespace Table

/-- How many keys there are. -/
def size (t : Table) : Nat := t.values.size

/-- The slot of a text. -/
def textSlot (t : Table) (cs : List Char) : Nat := slotNumber cs % t.texts.size

/-- The slot of a number. -/
def numberSlot (t : Table) (n : Int) : Nat := (n % t.numbers.size).toNat

/-- With a key at the front of its slot for texts. -/
def putText (t : Table) (cs : List Char) : Table :=
  { t with texts := t.texts.modify (t.textSlot cs) fun ks => cs :: ks.filter (· ≠ cs) }

/-- With a key at the front of its slot for numbers. -/
def putNumber (t : Table) (n : Int) : Table :=
  { t with numbers := t.numbers.modify (t.numberSlot n) fun ks => n :: ks.filter (· ≠ n) }

/-- With all keys in the slots for texts. -/
def withTexts (t : Table) : Table :=
  if t.hasTexts then t
  else
    let all := t.numbers.toList.flatten
    { all.foldl (fun t n => t.putText (digitsOfInt n)) t with hasTexts := true }

/-- With twice as many slots. -/
def doubled (t : Table) : Table :=
  let empty : Table := { t with
    texts := Array.replicate (2 * t.texts.size) []
    numbers := Array.replicate (2 * t.numbers.size) [] }
  let numbers := t.numbers.toList.flatten.reverse
  let texts := t.texts.toList.flatten.reverse
  texts.foldl putText (numbers.foldl putNumber empty)

/-- With as many slots as its keys need. -/
def grown (t : Table) : Table := if keysToSlot * t.texts.size < t.size then t.doubled else t

/-- With a key brought to the front of its slots. -/
def touched (t : Table) : Key → Table
  | .number n =>
    if (t.numbers[t.numberSlot n]?.getD []).contains n then t.putNumber n
    else if t.hasTexts then (t.putText (digitsOfInt n)).putNumber n
    else t.putNumber n
  | .text cs => t.withTexts.putText cs

/-- The value of a key, if it is there. -/
def find? (t : Table) (k : Key) : Option Value := t.values[k.name]?

/-- With a value under a key. -/
def insert (t : Table) (k : Key) (v : Value) : Table :=
  let isNew := !t.values.contains k.name
  let t := { t with values := t.values.insert k.name v }
  (if isNew then t.grown else t).touched k

/-- Whether a key is there, and the table after it has been looked for. -/
def look (t : Table) (k : Key) : Bool × Table :=
  if t.values.contains k.name then (true, t.touched k)
  else
    match k with
    | .number _ => (false, t)
    | .text _ => (false, t.withTexts)

/-- Without a key. -/
def erase (t : Table) (k : Key) : Table :=
  let name := k.name
  if !t.values.contains name then t
  else
    let digits := if name.head? = some '-' then name.drop 1 else name
    let n : Int := if name.head? = some '-' then -(valueOf digits : Nat) else (valueOf digits : Nat)
    { t with
      values := t.values.erase name
      texts := t.texts.modify (t.textSlot name) fun ks => ks.filter (· ≠ name)
      numbers := t.numbers.modify (t.numberSlot n) fun ks =>
        ks.filter fun k => digitsOfInt k ≠ name }

/-- The keys in their order, and the table after they have been asked for. -/
def keys (t : Table) : List (List Char) × Table :=
  let t := t.withTexts
  (t.texts.toList.flatten, t)

/-- The table of some values under numbers from one on. -/
def ofList (vs : List Value) : Table :=
  (vs.zipIdx 1).foldl (fun t (v, n) => t.insert (.number n) v) {}

end Table

end ParserConformance.Script.Awk
