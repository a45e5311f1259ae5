import ParserConformance.Outline.Basic
import ParserConformance.ParseTree.Basic

/-!
# The outline of a parse tree

Named nodes, error nodes and missing nodes are kept. An anonymous node is dropped and what is
kept below it moves up into its place. A missing node has no children in an outline.
-/

namespace ParserConformance

/-- The deepest nesting that an expected tree or a parse tree may have. -/
def depthLimit : Nat := 256

namespace ParseTree

/-- Whether a node has a place of its own in an outline. -/
def isKept (t : ParseTree) : Bool := t.named || t.isError || t.isMissing

/-- The outline node for `t` over the slots that its children fill. -/
def frame (positions : Bool) (t : ParseTree) (slots : List (Slot Outline)) : Outline :=
  let span := if positions then some (Span.mk t.start t.stop) else none
  if t.isMissing then .missing (if t.kind.isEmpty then none else some t.kind) span
  else if t.isError then .error span slots
  else .node t.kind span slots

mutual

/-- The slots that a child node fills: one if it is kept, else those of its own children. -/
def slots (positions : Bool) : ParseTree → List (Slot Outline)
  | ⟨kind, named, field, isError, isMissing, start, stop, children⟩ =>
    let t := ParseTree.mk kind named field isError isMissing start stop []
    if t.isKept then [⟨field, frame positions t (slotsAll positions children)⟩]
    else slotsAll positions children

/-- The slots that child nodes fill, in order. -/
def slotsAll (positions : Bool) : List ParseTree → List (Slot Outline)
  | [] => []
  | t :: ts => slots positions t ++ slotsAll positions ts

end

/-- The outline of a parse tree, with spans if `positions` is set. The root is kept whatever
it is. -/
def outline (positions : Bool) (t : ParseTree) : Outline :=
  frame positions t (slotsAll positions t.children)

end ParseTree

end ParserConformance
