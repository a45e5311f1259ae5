import ParserConformance.Outline.Comparison
import ParserConformance.Outline.OfParseTree

/-!
# Comparing an outline with itself

An outline meets itself. The outline of a parse tree carries spans just if it is made with
positions, so a check that expects this outline compares it with itself.
-/

namespace ParserConformance

namespace Outline

theorem labelsAgree_self (t : Outline) : labelsAgree t t = true := by
  cases t with
  | node kind span slots => exact beq_self_eq_true kind.toList
  | error span slots => exact beq_self_eq_true "ERROR".toList
  | missing kind span =>
    cases kind with
    | none => rfl
    | some kind => exact beq_self_eq_true ("MISSING ".toList ++ missingKind kind)

theorem spanDivergence?_self (t : Outline) : spanDivergence? t t = none := by
  rw [spanDivergence?]
  split
  · rfl
  · next span h => rw [if_pos h]

theorem divergence?_self (t : Outline) : divergence? t t = none := by
  have : intrusion? t t = none := by cases t <;> rfl
  simp only [divergence?, this, labelsAgree_self, if_true, spanDivergence?_self]

mutual

theorem compareAt_self (outer : Context) (path : List String) :
    ∀ t : Outline, compareAt outer path t t = .ok ()
  | .node kind span slots => by
    rw [compareAt, divergence?_self]
    exact compareSlots_self _ path 0 slots
  | .error span slots => by
    rw [compareAt, divergence?_self]
    exact compareSlots_self _ path 0 slots
  | .missing kind span => by
    rw [compareAt, divergence?_self]
    rfl

theorem compareSlots_self (inner : Context) (path : List String) (index : Nat) :
    ∀ slots : List (Slot Outline), compareSlots inner path index slots slots = .ok ()
  | [] => rfl
  | ⟨field, t⟩ :: slots => by
    rw [compareSlots, if_pos rfl, compareAt_self]
    exact compareSlots_self inner path (index + 1) slots

end

/-- An outline meets itself. -/
theorem compare_self (t : Outline) : compare t t = .ok () := compareAt_self _ _ t

theorem anySpans_append (slots slots' : List (Slot Outline)) :
    anySpans (slots ++ slots') = (anySpans slots || anySpans slots') := by
  induction slots with
  | nil => rfl
  | cons slot slots ih => rw [List.cons_append, anySpans, anySpans, ih, Bool.or_assoc]

end Outline

namespace ParseTree

open Outline (anySpans)

theorem carriesSpans_frame_false (t : ParseTree) {slots : List (Slot Outline)}
    (h : anySpans slots = false) : (frame false t slots).carriesSpans = false := by
  rw [frame]
  split
  · rfl
  · split <;> exact h

mutual

theorem anySpans_slots_false : ∀ t : ParseTree, anySpans (slots false t) = false
  | ⟨kind, named, field, isError, isMissing, start, stop, children⟩ => by
    have ih := anySpans_slotsAll_false children
    rw [slots]
    split
    · rw [anySpans, carriesSpans_frame_false _ ih]
      rfl
    · exact ih

theorem anySpans_slotsAll_false : ∀ ts : List ParseTree, anySpans (slotsAll false ts) = false
  | [] => rfl
  | t :: ts => by
    rw [slotsAll, Outline.anySpans_append, anySpans_slots_false, anySpans_slotsAll_false]
    rfl

end

/-- The outline of a parse tree carries spans just if it is made with positions. -/
theorem carriesSpans_outline (positions : Bool) (t : ParseTree) :
    (t.outline positions).carriesSpans = positions := by
  cases positions with
  | false => exact carriesSpans_frame_false t (anySpans_slotsAll_false t.children)
  | true =>
    rw [outline, frame]
    split
    · rfl
    · split <;> rfl

end ParseTree

end ParserConformance
