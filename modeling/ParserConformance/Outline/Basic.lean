import ParserConformance.Position
import ParserConformance.Text.Blank
import ParserConformance.Text.Quoted

/-!
# Outlines

An outline is what a conformance check compares: the kinds of nodes, the field labels and
order of children, and spans where the expectation gives them. Anonymous tokens have no place
in it. Expected trees written in a corpus and trees that a parser produced are both brought
into this form.

An outline is printed as annotations are written, either on one line or with each child on a line of
its own, two blanks further in than its parent. Each printing function takes what follows as its last
argument, so a tree is printed in one pass.
-/

namespace ParserConformance

/-- A place among a node's children: a subtree and the field label it stands under. -/
structure Slot (α : Type) where
  /-- The field label, if the child has one. -/
  field : Option String
  /-- What stands there. -/
  tree : α
  deriving Repr

/-- The shape of a tree as far as it is compared. -/
inductive Outline where
  /-- An ordinary node. -/
  | node (kind : String) (span : Option Span) (children : List (Slot Outline))
  /-- A stretch that the parser could not place. -/
  | error (span : Option Span) (children : List (Slot Outline))
  /-- A node that the parser made up to go on; without a kind when only its absence is noted. -/
  | missing (kind : Option String) (span : Option Span)
  deriving Repr

namespace Outline

/-- A node without span and children. -/
def leaf (kind : String) : Outline := .node kind none []

/-- The same outline over other children; a missing node keeps having none. -/
def replaceChildren (children : List (Slot Outline)) : Outline → Outline
  | .node kind span _ => .node kind span children
  | .error span _ => .error span children
  | .missing kind span => .missing kind span

/-- The span, if the outline has one. -/
def span : Outline → Option Span
  | .node _ span _ => span
  | .error span _ => span
  | .missing _ span => span

/-- The children in order. -/
def children : Outline → List (Slot Outline)
  | .node _ _ children => children
  | .error _ children => children
  | .missing _ _ => []

/-- Whether the root is an error node. -/
def isError : Outline → Bool
  | .error _ _ => true
  | _ => false

/-- Whether the root is a missing node. -/
def isMissing : Outline → Bool
  | .missing _ _ => true
  | _ => false

/-- The kind of a missing node as annotations write it: a plain word as it is, any other text
between quotes. -/
def missingKind (kind : String) : List Char :=
  if !kind.isEmpty && kind.toList.all Text.isWordChar then kind.toList
  else Text.quote kind.toList

/-- The label under which a node is shown and compared. -/
def labelChars : Outline → List Char
  | .node kind _ _ => kind.toList
  | .error _ _ => "ERROR".toList
  | .missing (some kind) _ => "MISSING ".toList ++ missingKind kind
  | .missing none _ => "MISSING".toList

/-- The text of a node's label. -/
def label (t : Outline) : String := String.ofList t.labelChars

mutual

/-- Levels of nesting, the root counted as one. -/
def height : Outline → Nat
  | .node _ _ children => slotsHeight children + 1
  | .error _ children => slotsHeight children + 1
  | .missing _ _ => 1

/-- The greatest height among the children. -/
def slotsHeight : List (Slot Outline) → Nat
  | [] => 0
  | ⟨_, t⟩ :: rest => max t.height (slotsHeight rest)

end

mutual

/-- Whether any node carries a span. -/
def carriesSpans : Outline → Bool
  | .node _ span children => span.isSome || anySpans children
  | .error span children => span.isSome || anySpans children
  | .missing _ span => span.isSome

/-- Whether any node below the children carries a span. -/
def anySpans : List (Slot Outline) → Bool
  | [] => false
  | ⟨_, t⟩ :: rest => t.carriesSpans || anySpans rest

end

mutual

/-- Whether any node is an error or missing node. -/
def hasErrors : Outline → Bool
  | .node _ _ children => anyErrors children
  | .error _ _ => true
  | .missing _ _ => true

/-- Whether any node below the children is an error or missing node. -/
def anyErrors : List (Slot Outline) → Bool
  | [] => false
  | ⟨_, t⟩ :: rest => t.hasErrors || anyErrors rest

end

/-! ### Printing -/

/-- What parts a child from what stands before it: one blank, or a new line and two blanks for
each of `level` levels. -/
def separator : (level : Option Nat) → List Char
  | none => [' ']
  | some level => '\n' :: List.replicate (2 * level) ' '

/-- The opening parenthesis, label and span of a node, before `rest`. -/
def writeHead (t : Outline) (rest : List Char) : List Char :=
  '(' :: t.labelChars ++
    (match t.span with
      | some span => ' ' :: (span.chars ++ rest)
      | none => rest)

/-- The field label of a child, before `rest`. -/
def writeField (field : Option String) (rest : List Char) : List Char :=
  match field with
  | some name => name.toList ++ ':' :: ' ' :: rest
  | none => rest

mutual

/-- An outline before `rest`; its children are parted by the separator of `level`. -/
def write (level : Option Nat) : Outline → List Char → List Char
  | .node kind span children, rest =>
    writeHead (.node kind span []) (writeSlots level children (')' :: rest))
  | .error span children, rest =>
    writeHead (.error span []) (writeSlots level children (')' :: rest))
  | .missing kind span, rest => writeHead (.missing kind span) (')' :: rest)

/-- The children of a node before `rest`. -/
def writeSlots (level : Option Nat) : List (Slot Outline) → List Char → List Char
  | [], rest => rest
  | ⟨field, t⟩ :: slots, rest =>
    separator level ++
      writeField field (write (level.map (· + 1)) t (writeSlots level slots rest))

end

/-- The outline on one line. -/
def text (t : Outline) : String := String.ofList (t.write none [])

/-- The outline laid out over lines, as corpus files have it. -/
def pretty (t : Outline) : String := String.ofList (t.write (some 1) [])

/-- The outline on one line, cut after eighty characters. -/
def summary (t : Outline) : String :=
  let cs := t.write none []
  if cs.length ≤ 80 then String.ofList cs else String.ofList (cs.take 80) ++ "..."

end Outline

end ParserConformance
