import Mathlib.Data.List.Lex
import ParserConformance.Outline.Basic

/-!
# Places of nodes

A node of a tree has its place: the indices of the children that lead to it from the root, one index
a level. A tree is gone through in the order of its places (`Precedes`), which has a node before all
that is below it, and the nodes below it child by child.
-/

namespace ParserConformance

/-! ### The order of places -/

/-- The order in which a tree is gone through. -/
def Precedes (p q : List Nat) : Prop := List.Lex (· < ·) p q

/-- The first place is that of a node above the one at the second place. -/
def IsAbove (p q : List Nat) : Prop := ∃ i r, q = p ++ i :: r

variable {i j : Nat} {p q r : List Nat}

theorem precedes_cons_cons : Precedes (i :: p) (j :: q) ↔ i < j ∨ i = j ∧ Precedes p q :=
  List.cons_lex_cons_iff

theorem not_precedes_nil : ¬Precedes p [] := nofun

theorem not_precedes_self : ¬Precedes p p := by
  induction p with
  | nil => exact not_precedes_nil
  | cons i p ih =>
    rw [precedes_cons_cons]
    rintro (h | ⟨-, h⟩)
    · exact Nat.lt_irrefl i h
    · exact ih h

theorem precedes_append_left (r : List Nat) (h : Precedes p q) : Precedes (r ++ p) (r ++ q) :=
  List.Lex.append_left _ h r

theorem Precedes.asymm (h : Precedes p q) : ¬Precedes q p := fun h' =>
  (List.Lex.asymm (r := (· < ·))).asymm p q h h'

/-- Of two places one comes before the other, unless they are the same. -/
theorem precedes_trichotomy (p q : List Nat) : Precedes p q ∨ p = q ∨ Precedes q p := by
  induction p generalizing q with
  | nil =>
    cases q with
    | nil => exact .inr (.inl rfl)
    | cons j q => exact .inl .nil
  | cons i p ih =>
    cases q with
    | nil => exact .inr (.inr .nil)
    | cons j q =>
      rcases Nat.lt_trichotomy i j with h | rfl | h
      · exact .inl (.rel h)
      · rcases ih q with h | rfl | h
        · exact .inl (.cons h)
        · exact .inr (.inl rfl)
        · exact .inr (.inr (.cons h))
      · exact .inr (.inr (.rel h))

theorem not_isAbove_nil : ¬IsAbove p [] := by
  rintro ⟨i, r, h⟩
  simp at h

theorem isAbove_cons_iff : IsAbove p (j :: q) ↔ p = [] ∨ ∃ p', p = j :: p' ∧ IsAbove p' q := by
  constructor
  · rintro ⟨i, r, h⟩
    cases p with
    | nil => exact .inl rfl
    | cons k p =>
      obtain ⟨rfl, rfl⟩ := List.cons.inj h
      exact .inr ⟨p, rfl, i, r, rfl⟩
  · rintro (rfl | ⟨p, rfl, i, r, rfl⟩)
    · exact ⟨j, q, rfl⟩
    · exact ⟨i, r, rfl⟩

/-- What is above the end of a way is above its middle, or it lies between the two. -/
theorem isAbove_append_iff : IsAbove p (q ++ r) ↔ IsAbove p q ∨ ∃ s, p = q ++ s ∧ IsAbove s r := by
  induction q generalizing p with
  | nil => simp [not_isAbove_nil]
  | cons j q ih =>
    rw [List.cons_append, isAbove_cons_iff, isAbove_cons_iff, or_assoc]
    refine or_congr_right ⟨?_, ?_⟩
    · rintro ⟨p', rfl, h⟩
      rcases ih.1 h with h | ⟨s, rfl, hs⟩
      · exact .inl ⟨p', rfl, h⟩
      · exact .inr ⟨s, rfl, hs⟩
    · rintro (⟨p', rfl, h⟩ | ⟨s, hs, h⟩)
      · exact ⟨p', rfl, ih.2 (.inl h)⟩
      · exact ⟨q ++ s, hs, ih.2 (.inr ⟨s, rfl, h⟩)⟩

namespace Outline

/-! ### Nodes of outlines -/

/-- The node to which the indices of children lead, one index a level. -/
def nodeAt? : List Nat → Outline → Option Outline
  | [], t => some t
  | i :: path, t =>
    match t.children[i]? with
    | some slot => nodeAt? path slot.tree
    | none => none

/-- The child at an index of the node at a place. -/
def slotAt? (t : Outline) (path : List Nat) (i : Nat) : Option (Slot Outline) :=
  (t.nodeAt? path).bind fun n => n.children[i]?

/-- Whether the outline has a node at a place. -/
def HasNode (t : Outline) (path : List Nat) : Prop := ∃ n, t.nodeAt? path = some n

variable {t n : Outline} {path : List Nat}

theorem nodeAt?_cons (t : Outline) (i : Nat) (path : List Nat) :
    t.nodeAt? (i :: path) = t.children[i]?.bind fun slot => slot.tree.nodeAt? path := by
  rw [nodeAt?]
  cases t.children[i]? <;> rfl

theorem nodeAt?_cons_eq_some_iff : t.nodeAt? (i :: path) = some n ↔
    ∃ slot, t.children[i]? = some slot ∧ slot.tree.nodeAt? path = some n := by
  rw [nodeAt?_cons, Option.bind_eq_some_iff]

theorem slotAt?_cons (t : Outline) (i : Nat) (path : List Nat) (k : Nat) :
    t.slotAt? (i :: path) k = t.children[i]?.bind fun slot => slot.tree.slotAt? path k := by
  rw [slotAt?, nodeAt?_cons]
  cases t.children[i]? <;> rfl

theorem nodeAt?_append (t : Outline) (p q : List Nat) :
    t.nodeAt? (p ++ q) = (t.nodeAt? p).bind (nodeAt? q) := by
  induction p generalizing t with
  | nil => rfl
  | cons i p ih =>
    rw [List.cons_append, nodeAt?, nodeAt?]
    cases t.children[i]? with
    | none => rfl
    | some slot => exact ih slot.tree

/-- A node below the root is the tree of a child. -/
theorem nodeAt?_append_singleton (t : Outline) (path : List Nat) (i : Nat) :
    t.nodeAt? (path ++ [i]) = (t.slotAt? path i).map Slot.tree := by
  rw [nodeAt?_append, slotAt?]
  cases t.nodeAt? path with
  | none => rfl
  | some n =>
    rw [Option.bind_some, Option.bind_some, nodeAt?]
    cases n.children[i]? <;> rfl

end Outline

end ParserConformance
