import ParserConformance.Outline.Mismatch

/-!
# Comparing outlines

An actual outline meets an expected one if labels, fields and children agree and every span
that the expectation gives is the actual one. A missing node expected without a kind is met by
any missing node. Error and missing nodes are met only where the expectation spells them out.
The comparison goes through both trees from the root on, a node before its children, and ends
at the first divergence.
-/

namespace ParserConformance.Outline

/-- The two trees that a mismatch shows. -/
structure Context where
  /-- The expected tree. -/
  expected : Outline
  /-- The actual tree. -/
  actual : Outline

/-- The mismatch of a divergence at `path`. -/
def Context.mismatch (context : Context) (path : List String) (divergence : Divergence) :
    Mismatch :=
  ⟨path, divergence, context.expected.pretty, context.actual.pretty⟩

/-- Whether the expected node accepts the label of the actual one. -/
def labelsAgree : (expected actual : Outline) → Bool
  | .missing none _, .missing _ _ => true
  | expected, actual => expected.labelChars == actual.labelChars

/-- The divergence of an error or missing node that is not expected. -/
def intrusion? : (expected actual : Outline) → Option Divergence
  | expected, .error _ _ => if expected.isError then none else some .unexpectedError
  | expected, .missing kind _ =>
    if expected.isMissing then none else some (.unexpectedMissing kind)
  | _, .node _ _ _ => none

/-- The divergence of an expected span that is not the actual one. -/
def spanDivergence? (expected actual : Outline) : Option Divergence :=
  match expected.span with
  | none => none
  | some span => if actual.span = some span then none else some (.spanDiffers span actual.span)

/-- The first divergence between two nodes, their children aside. -/
def divergence? (expected actual : Outline) : Option Divergence :=
  match intrusion? expected actual with
  | some divergence => some divergence
  | none =>
    if labelsAgree expected actual then spanDivergence? expected actual
    else some (.kindDiffers expected.label actual.label)

/-- How a path names the child at `index`. -/
def segment (index : Nat) (slot : Slot Outline) : String :=
  let place := slot.tree.label ++ "[" ++ toString index ++ "]"
  match slot.field with
  | some field => field ++ ": " ++ place
  | none => place

/-- Accepts no child where none is expected any more. -/
def noneBeyond (inner : Context) (path : List String) (index : Nat) :
    List (Slot Outline) → Except Mismatch Unit
  | [] => .ok ()
  | slot :: _ => .error (inner.mismatch path (.unexpectedChild index slot.tree.summary))

mutual

/-- Compares two nodes at the end of `path`. What differs in the nodes themselves is shown in
`outer`, what differs among their children in these two nodes. -/
def compareAt (outer : Context) (path : List String) (expected actual : Outline) :
    Except Mismatch Unit :=
  match divergence? expected actual with
  | some divergence => .error (outer.mismatch path divergence)
  | none =>
    match expected with
    | .node kind span slots =>
      compareSlots ⟨.node kind span slots, actual⟩ path 0 slots actual.children
    | .error span slots => compareSlots ⟨.error span slots, actual⟩ path 0 slots actual.children
    | .missing kind span => noneBeyond ⟨.missing kind span, actual⟩ path 0 actual.children
termination_by structural expected

/-- Compares the children from `index` on of the two nodes in `inner`. -/
def compareSlots (inner : Context) (path : List String) (index : Nat)
    (expected actual : List (Slot Outline)) : Except Mismatch Unit :=
  match expected, actual with
  | [], actual => noneBeyond inner path index actual
  | ⟨_, tree⟩ :: _, [] => .error (inner.mismatch path (.missingChild index tree.summary))
  | ⟨field, tree⟩ :: expected, slot :: actual =>
    if field = slot.field then do
      compareAt inner (path ++ [segment index slot]) tree slot.tree
      compareSlots inner path (index + 1) expected actual
    else .error (inner.mismatch path (.fieldDiffers index field slot.field))
termination_by structural expected

end

/-- Compares an actual outline with the expected one. -/
def compare (expected actual : Outline) : Except Mismatch Unit :=
  compareAt ⟨expected, actual⟩ [actual.label] expected actual

end ParserConformance.Outline
