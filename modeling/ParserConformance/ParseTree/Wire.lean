import ParserConformance.Json.Reader
import ParserConformance.Json.Value
import ParserConformance.ParseTree.Basic

/-!
# Parse trees as JSON

The form in which a parser program prints its tree. Each node is an object; of its members only
`kind` is required, and members that say the usual are left out when a tree is written. A
reader also takes a node as an array of its members' values in their order. Unknown members are
passed over.
-/

namespace ParserConformance

open Json (Input Reader Refusal Value)

/-- A point as parse trees write it. -/
def Point.encode (p : Point) : Value :=
  .object [("row", .number p.row), ("column", .number p.column)]

namespace ParseTree

mutual

/-- A parse tree as a JSON value. -/
def encode : ParseTree → Value
  | ⟨kind, named, field, isError, isMissing, start, stop, children⟩ =>
    .object ([("kind", .text kind), ("named", .bool named)] ++
      (match field with
        | some name => [("field", .text name)]
        | none => []) ++
      (if isError then [("is_error", .bool true)] else []) ++
      (if isMissing then [("is_missing", .bool true)] else []) ++
      [("start", start.encode), ("end", stop.encode)] ++
      (if children.isEmpty then [] else [("children", .array (encodeAll children))]))

/-- Parse trees as JSON values, in order. -/
def encodeAll : List ParseTree → List Value
  | [] => []
  | t :: ts => t.encode :: encodeAll ts

end

end ParseTree

/-- How many arrays and objects may be open at once in a parse tree's text. -/
def openLimit : Nat := 127

/-! ### Points -/

namespace Point

/-- What is known of a point while it is read. -/
structure Draft where
  /-- The row, once read. -/
  row : Option Nat
  /-- The column, once read. -/
  column : Option Nat

/-- Reads the row. -/
def readRow (d : Draft) (input : Input) : Except Refusal (Draft × Input) := do
  let (n, rest) ← Json.readNatural input
  return ({ d with row := some n }, rest)

/-- Reads the column. -/
def readColumn (d : Draft) (input : Input) : Except Refusal (Draft × Input) := do
  let (n, rest) ← Json.readNatural input
  return ({ d with column := some n }, rest)

/-- Reads the member `name`, which may be given once. -/
def readMember (d : Draft) (name : String) (input : Input) : Except Refusal (Draft × Input) :=
  if name = "row" then
    if d.row.isSome then .error .mistyped else do readRow d (← Json.expectColon input)
  else if name = "column" then
    if d.column.isSome then .error .mistyped else do readColumn d (← Json.expectColon input)
  else do return (d, ← Json.skipValue (← Json.expectColon input))

/-- The point of a draft that has both coordinates. -/
def Draft.finish (d : Draft) : Except Refusal Point :=
  match d.row, d.column with
  | some row, some column => .ok ⟨row, column⟩
  | _, _ => .error .mistyped

/-- Reads a point where `opens` further arrays and objects may be opened. -/
def read (opens : Nat) (input : Input) : Except Refusal (Point × Input) :=
  match Json.skipSpace input with
  | [] => .error .truncated
  | p :: rest =>
    match Json.Bracket.opened? p with
    | none => .error (Json.misfit (p :: rest))
    | some bracket =>
      if opens = 0 then .error .malformed
      else do
        let (d, rest) ← match bracket with
          | .object => Json.readMembers readMember (rest.length + 1) true ⟨none, none⟩ rest
          | .array => Json.readPositions [readRow, readColumn] true ⟨none, none⟩ rest
        return (← d.finish, rest)

end Point

/-! ### Nodes -/

namespace ParseTree

/-- What is known of a node while it is read. -/
structure Draft where
  /-- The kind, once read. -/
  kind : Option String
  /-- Whether the node is named, once read. -/
  named : Option Bool
  /-- The field label, once read. -/
  field : Option (Option String)
  /-- Whether it is an error node, once read. -/
  isError : Option Bool
  /-- Whether it is a missing node, once read. -/
  isMissing : Option Bool
  /-- Its start, once read. -/
  start : Option Point
  /-- Its end, once read. -/
  stop : Option Point
  /-- Its children, once read. -/
  children : Option (List ParseTree)

/-- A node of which nothing is known. -/
def Draft.empty : Draft := ⟨none, none, none, none, none, none, none, none⟩

/-- The node of a draft that has a kind; other members that were left out have their usual
values. -/
def Draft.finish (d : Draft) : Except Refusal ParseTree :=
  match d.kind with
  | none => .error .mistyped
  | some kind =>
    .ok ⟨kind, d.named.getD true, d.field.getD none, d.isError.getD false,
      d.isMissing.getD false, d.start.getD .origin, d.stop.getD .origin, d.children.getD []⟩

/-- A member of a node. -/
inductive Member where
  /-- The kind. -/
  | kind
  /-- Whether the node is named. -/
  | named
  /-- The field label. -/
  | field
  /-- Whether it is an error node. -/
  | isError
  /-- Whether it is a missing node. -/
  | isMissing
  /-- Its start. -/
  | start
  /-- Its end. -/
  | stop
  /-- Its children. -/
  | children
  deriving DecidableEq, Repr

/-- All members in the order in which a node given as an array has them. -/
def Member.all : List Member :=
  [.kind, .named, .field, .isError, .isMissing, .start, .stop, .children]

/-- The name of a member. -/
def Member.name : Member → String
  | .kind => "kind"
  | .named => "named"
  | .field => "field"
  | .isError => "is_error"
  | .isMissing => "is_missing"
  | .start => "start"
  | .stop => "end"
  | .children => "children"

/-- The member of a given name. -/
def Member.ofName? (name : String) : Option Member := Member.all.find? (·.name = name)

/-- Whether a draft has the member already. -/
def Draft.has (d : Draft) : Member → Bool
  | .kind => d.kind.isSome
  | .named => d.named.isSome
  | .field => d.field.isSome
  | .isError => d.isError.isSome
  | .isMissing => d.isMissing.isSome
  | .start => d.start.isSome
  | .stop => d.stop.isSome
  | .children => d.children.isSome

/-- Reads the value of a member. `readChildren` reads an array of nodes, and `opens` further
arrays and objects may be opened. -/
def readMember (readChildren : Reader (List ParseTree)) (opens : Nat) (m : Member)
    (d : Draft) (input : Input) : Except Refusal (Draft × Input) :=
  match m with
  | .kind => do
    let (kind, rest) ← Json.readString input
    return ({ d with kind := some kind }, rest)
  | .named => do
    let (named, rest) ← Json.readBool input
    return ({ d with named := some named }, rest)
  | .field => do
    let (field, rest) ← Json.readOptionalString input
    return ({ d with field := some field }, rest)
  | .isError => do
    let (isError, rest) ← Json.readBool input
    return ({ d with isError := some isError }, rest)
  | .isMissing => do
    let (isMissing, rest) ← Json.readBool input
    return ({ d with isMissing := some isMissing }, rest)
  | .start => do
    let (start, rest) ← Point.read opens input
    return ({ d with start := some start }, rest)
  | .stop => do
    let (stop, rest) ← Point.read opens input
    return ({ d with stop := some stop }, rest)
  | .children => do
    let (children, rest) ← readChildren input
    return ({ d with children := some children }, rest)

/-- Reads the member `name` from its colon on. A member that is known may be given once. -/
def readNamed (readChildren : Reader (List ParseTree)) (opens : Nat) (d : Draft)
    (name : String) (input : Input) : Except Refusal (Draft × Input) :=
  match Member.ofName? name with
  | some m =>
    if d.has m then .error .mistyped
    else do readMember readChildren opens m d (← Json.expectColon input)
  | none => do return (d, ← Json.skipValue (← Json.expectColon input))

/-- Reads the members of a node after its opening bracket. -/
def readBody (readChildren : Reader (List ParseTree)) (opens : Nat)
    (bracket : Json.Bracket) (input : Input) : Except Refusal (ParseTree × Input) := do
  let (d, rest) ← match bracket with
    | .object =>
      Json.readMembers (readNamed readChildren opens) (input.length + 1) true .empty input
    | .array =>
      Json.readPositions (Member.all.map (readMember readChildren opens)) true .empty input
  return (← d.finish, rest)

/-- Reads an array with `readNode`, or refuses it if no bracket may be opened. -/
def readArray (readNode : Option (Reader ParseTree)) (input : Input) :
    Except Refusal (List ParseTree × Input) :=
  match Json.skipSpace input with
  | .char '[' :: rest =>
    match readNode with
    | some readNode => Json.readElements readNode (rest.length + 1) true rest
    | none => .error .malformed
  | input => .error (Json.misfit input)

/-- Reads a node where `opens` further arrays and objects may be opened. -/
def readNode : (opens : Nat) → Reader ParseTree
  | opens, input =>
    match Json.skipSpace input with
    | [] => .error .truncated
    | p :: rest =>
      match Json.Bracket.opened? p with
      | none => .error (Json.misfit (p :: rest))
      | some bracket =>
        match opens with
        | 0 => .error .malformed
        | 1 => readBody (readArray none) 0 bracket rest
        | opens + 2 => readBody (readArray (some (readNode opens))) (opens + 1) bracket rest

/-- Reads a text that holds one node and nothing else. -/
def decode (input : Input) : Except Refusal ParseTree := do
  let (t, rest) ← readNode openLimit input
  if (Json.skipSpace rest).isEmpty then .ok t else .error .malformed

/-- Reads a node from bytes. -/
def decodeBytes (bytes : List UInt8) : Except Refusal ParseTree := decode (Text.pieces bytes)

/-- Reads a node from a string. -/
def decodeString (s : String) : Except Refusal ParseTree := decode (Json.inputOf s)

end ParseTree

end ParserConformance
