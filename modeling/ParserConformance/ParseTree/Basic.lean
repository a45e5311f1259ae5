import ParserConformance.Instances
import ParserConformance.Position

/-!
# Parse trees

The tree that a parser reports for a source text, with anonymous tokens, positions and error
flags as the parser gave them.
-/

namespace ParserConformance

/-- A node of a parse tree. -/
structure ParseTree where
  /-- The name of the rule, or the text of an anonymous token. -/
  kind : String
  /-- Whether the node stands for a rule of the grammar and not for a literal token. -/
  named : Bool
  /-- The field of the parent that the node fills. -/
  field : Option String
  /-- Whether the node wraps text that the parser could not place. -/
  isError : Bool
  /-- Whether the parser made the node up to go on. -/
  isMissing : Bool
  /-- Where the node begins. -/
  start : Point
  /-- Where the node ends. -/
  stop : Point
  /-- The child nodes in order. -/
  children : List ParseTree
  deriving Repr

namespace ParseTree

/-- A named node at the origin. -/
def rule (kind : String) (children : List ParseTree) : ParseTree :=
  ⟨kind, true, none, false, false, .origin, .origin, children⟩

/-- An anonymous token at the origin. -/
def token (kind : String) (children : List ParseTree) : ParseTree :=
  ⟨kind, false, none, false, false, .origin, .origin, children⟩

/-- An error node over what the parser could not place. -/
def unplaced (children : List ParseTree) : ParseTree :=
  ⟨"ERROR", true, none, true, false, .origin, .origin, children⟩

/-- A node that the parser made up to go on. -/
def supplied (kind : String) (children : List ParseTree) : ParseTree :=
  ⟨kind, true, none, false, true, .origin, .origin, children⟩

/-- The same node in a field of its parent. -/
def inField (t : ParseTree) (field : String) : ParseTree := { t with field := some field }

/-- The same node at another place. -/
def placed (t : ParseTree) (start stop : Point) : ParseTree := { t with start, stop }

/-- `t` inside `n` further nodes, each built by `wrap`. -/
def nest (wrap : ParseTree → ParseTree) : (n : Nat) → ParseTree → ParseTree
  | 0, t => t
  | n + 1, t => nest wrap n (wrap t)

mutual

/-- Levels of nesting, the node itself counted as one. -/
def height : ParseTree → Nat
  | ⟨_, _, _, _, _, _, _, children⟩ => heightAll children + 1

/-- The greatest height among the nodes. -/
def heightAll : List ParseTree → Nat
  | [] => 0
  | t :: ts => max t.height (heightAll ts)

end

mutual

/-- How many nodes a tree has. -/
def size : ParseTree → Nat
  | ⟨_, _, _, _, _, _, _, children⟩ => sizeAll children + 1

/-- How many nodes the trees have together. -/
def sizeAll : List ParseTree → Nat
  | [] => 0
  | t :: ts => t.size + sizeAll ts

end

/-- The nodes as entries of a walk's stack, all at one level. -/
def atLevel (level : Nat) (ts : List ParseTree) : List (ParseTree × Nat) := ts.map (·, level)

/-- How many nodes the entries of a walk's stack hold, those below them counted too. -/
def pendingSize (stack : List (ParseTree × Nat)) : Nat :=
  (stack.map fun entry => entry.1.size).sum

theorem pendingSize_append (s t : List (ParseTree × Nat)) :
    pendingSize (s ++ t) = pendingSize s + pendingSize t := by
  simp [pendingSize]

theorem pendingSize_cons (t : ParseTree) (level : Nat) (s : List (ParseTree × Nat)) :
    pendingSize ((t, level) :: s) = t.size + pendingSize s := by
  simp [pendingSize]

theorem pendingSize_atLevel (level : Nat) (ts : List ParseTree) :
    pendingSize (atLevel level ts) = sizeAll ts := by
  induction ts with
  | nil => rfl
  | cons t ts ih =>
    rw [sizeAll, ← ih]
    exact pendingSize_cons t level (atLevel level ts)

theorem size_eq (t : ParseTree) : t.size = sizeAll t.children + 1 := by
  cases t; rfl

/-- A walk over a stack of nodes, each with its level, that keeps the deepest level it has
met. It needs no room beyond the stack, however deep a tree is. -/
def deepest : (stack : List (ParseTree × Nat)) → (best : Nat) → Nat
  | [], best => best
  | (t, level) :: stack, best =>
    deepest (atLevel (level + 1) t.children ++ stack) (max best level)
termination_by stack => pendingSize stack
decreasing_by
  rw [pendingSize_append, pendingSize_cons, pendingSize_atLevel, size_eq]
  omega

/-- Levels of nesting, found by a walk with a stack of its own. -/
def depth (t : ParseTree) : Nat := deepest [(t, 1)] 0

mutual

/-- Whether this node or one below it is an error or missing node. -/
def hasError : ParseTree → Bool
  | ⟨_, _, _, isError, isMissing, _, _, children⟩ => isError || isMissing || anyError children

/-- Whether a node of the trees is an error or missing node. -/
def anyError : List ParseTree → Bool
  | [] => false
  | t :: ts => t.hasError || anyError ts

end

end ParseTree

end ParserConformance
