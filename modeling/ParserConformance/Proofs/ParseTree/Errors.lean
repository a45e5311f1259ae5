import ParserConformance.Proofs.ParseTree.KeptNodes

/-!
# Errors in outlines

Error and missing nodes are kept whatever they stand in, so an outline has some just if the parse
tree has. A missing node loses its children, but is one of them itself.

## Main statement
- `ParseTree.outline_keepsErrors`: an outline has an error or missing node somewhere just if its parse
  tree has one somewhere, and what goes through the nodes of either finds out.
-/

namespace ParserConformance

namespace Outline

/-! ### Errors in an outline -/

/-- An error or missing node stands at the place. -/
def IsFaultyAt (t : Outline) (path : List Nat) : Prop :=
  ∃ u, t.nodeAt? path = some u ∧ (u.isError = true ∨ u.isMissing = true)

theorem anyErrors_append (ss us : List (Slot Outline)) :
    anyErrors (ss ++ us) = (anyErrors ss || anyErrors us) := by
  induction ss with
  | nil => rfl
  | cons s ss ih => rw [List.cons_append, anyErrors, anyErrors, ih, Bool.or_assoc]

theorem hasErrors_eq (t : Outline) :
    t.hasErrors = (t.isError || t.isMissing || anyErrors t.children) := by
  cases t <;> rfl

theorem anyErrors_of_getElem? {slots : List (Slot Outline)} {i : Nat} {slot : Slot Outline}
    (hslot : slots[i]? = some slot) (h : slot.tree.hasErrors = true) : anyErrors slots = true := by
  induction slots generalizing i with
  | nil => cases hslot
  | cons first slots ih =>
    rw [anyErrors, Bool.or_eq_true]
    cases i with
    | zero =>
      obtain rfl := Option.some.inj hslot
      exact .inl h
    | succ i => exact .inr (ih hslot)

theorem IsFaultyAt.hasErrors {t : Outline} {path : List Nat} (h : t.IsFaultyAt path) :
    t.hasErrors = true := by
  induction path generalizing t with
  | nil =>
    obtain ⟨u, hu, hfaulty⟩ := h
    obtain rfl := Option.some.inj hu
    rw [hasErrors_eq, Bool.or_eq_true, Bool.or_eq_true]
    exact .inl hfaulty
  | cons i path ih =>
    obtain ⟨u, hu, hfaulty⟩ := h
    obtain ⟨slot, hslot, hu⟩ := nodeAt?_cons_eq_some_iff.1 hu
    rw [hasErrors_eq, Bool.or_eq_true]
    exact .inr (anyErrors_of_getElem? hslot (ih ⟨u, hu, hfaulty⟩))

mutual

theorem exists_isFaultyAt : ∀ t : Outline, t.hasErrors = true → ∃ path, t.IsFaultyAt path
  | .node kind span slots, h => by
    obtain ⟨i, slot, path, hslot, u, hu, hfaulty⟩ := exists_slot_isFaultyAt slots h
    exact ⟨i :: path, u, nodeAt?_cons_eq_some_iff.2 ⟨slot, hslot, hu⟩, hfaulty⟩
  | .error span slots, _ => ⟨[], _, rfl, .inl rfl⟩
  | .missing kind span, _ => ⟨[], _, rfl, .inr rfl⟩

theorem exists_slot_isFaultyAt : ∀ slots : List (Slot Outline), anyErrors slots = true →
    ∃ (i : Nat) (slot : Slot Outline) (path : List Nat),
      slots[i]? = some slot ∧ slot.tree.IsFaultyAt path
  | ⟨field, t⟩ :: slots, h => by
    rw [anyErrors, Bool.or_eq_true] at h
    rcases h with h | h
    · obtain ⟨path, hpath⟩ := exists_isFaultyAt t h
      exact ⟨0, ⟨field, t⟩, path, rfl, hpath⟩
    · obtain ⟨i, slot, path, hslot, hpath⟩ := exists_slot_isFaultyAt slots h
      exact ⟨i + 1, slot, path, hslot, hpath⟩

end

theorem hasErrors_iff (t : Outline) : t.hasErrors = true ↔ ∃ path, t.IsFaultyAt path :=
  ⟨exists_isFaultyAt t, fun ⟨_, h⟩ => h.hasErrors⟩

end Outline

namespace ParseTree

/-! ### Errors in a parse tree -/

/-- An error or missing node stands at the place. -/
def IsFaultyAt (t : ParseTree) (path : List Nat) : Prop :=
  ∃ n, t.nodeAt? path = some n ∧ (n.isError = true ∨ n.isMissing = true)

theorem hasError_eq (t : ParseTree) : t.hasError = (t.isError || t.isMissing || anyError t.children) := by
  cases t; rfl

theorem anyError_of_getElem? {ts : List ParseTree} {i : Nat} {c : ParseTree} (hc : ts[i]? = some c)
    (h : c.hasError = true) : anyError ts = true := by
  induction ts generalizing i with
  | nil => cases hc
  | cons first ts ih =>
    rw [anyError, Bool.or_eq_true]
    cases i with
    | zero =>
      obtain rfl := Option.some.inj hc
      exact .inl h
    | succ i => exact .inr (ih hc)

theorem IsFaultyAt.hasError {t : ParseTree} {path : List Nat} (h : t.IsFaultyAt path) :
    t.hasError = true := by
  induction path generalizing t with
  | nil =>
    obtain ⟨n, hn, hfaulty⟩ := h
    obtain rfl := Option.some.inj hn
    rw [hasError_eq, Bool.or_eq_true, Bool.or_eq_true]
    exact .inl hfaulty
  | cons i path ih =>
    obtain ⟨n, hn, hfaulty⟩ := h
    obtain ⟨c, hc, hn⟩ := nodeAt?_cons_eq_some_iff.1 hn
    rw [hasError_eq, Bool.or_eq_true]
    exact .inr (anyError_of_getElem? hc (ih ⟨n, hn, hfaulty⟩))

mutual

theorem exists_isFaultyAt : ∀ t : ParseTree, t.hasError = true → ∃ path, t.IsFaultyAt path
  | ⟨kind, named, field, isError, isMissing, start, stop, children⟩, h => by
    rw [hasError_eq, Bool.or_eq_true, Bool.or_eq_true] at h
    rcases h with hroot | h
    · exact ⟨[], _, rfl, hroot⟩
    · obtain ⟨i, c, path, hc, n, hn, hfaulty⟩ := exists_child_isFaultyAt children h
      exact ⟨i :: path, n, nodeAt?_cons_eq_some_iff.2 ⟨c, hc, hn⟩, hfaulty⟩

theorem exists_child_isFaultyAt : ∀ ts : List ParseTree, anyError ts = true →
    ∃ (i : Nat) (c : ParseTree) (path : List Nat), ts[i]? = some c ∧ c.IsFaultyAt path
  | t :: ts, h => by
    rw [anyError, Bool.or_eq_true] at h
    rcases h with h | h
    · obtain ⟨path, hpath⟩ := exists_isFaultyAt t h
      exact ⟨0, t, path, rfl, hpath⟩
    · obtain ⟨i, c, path, hc, hpath⟩ := exists_child_isFaultyAt ts h
      exact ⟨i + 1, c, path, hc, hpath⟩

end

theorem hasError_iff (t : ParseTree) : t.hasError = true ↔ ∃ path, t.IsFaultyAt path :=
  ⟨exists_isFaultyAt t, fun ⟨_, h⟩ => h.hasError⟩

/-! ### What an outline keeps of them -/

open Outline (anyErrors anyErrors_append)

theorem hasErrors_frame (positions : Bool) (t : ParseTree) (ss : List (Slot Outline)) :
    (frame positions t ss).hasErrors = (t.isError || t.isMissing || anyErrors ss) := by
  rw [frame]
  cases hm : t.isMissing with
  | true => simp [Outline.hasErrors]
  | false => cases he : t.isError <;> simp [Outline.hasErrors]

mutual

theorem anyErrors_slots (positions : Bool) : ∀ t : ParseTree, anyErrors (slots positions t) = t.hasError
  | ⟨kind, named, field, isError, isMissing, start, stop, children⟩ => by
    have ih := anyErrors_slotsAll positions children
    rw [slots, hasError]
    split
    · rw [anyErrors, hasErrors_frame, ih, anyErrors, Bool.or_false]
    · next hk =>
      simp only [isKept, Bool.or_eq_true, not_or, Bool.not_eq_true] at hk
      rw [ih, hk.1.2, hk.2, Bool.false_or, Bool.false_or]

theorem anyErrors_slotsAll (positions : Bool) :
    ∀ ts : List ParseTree, anyErrors (slotsAll positions ts) = anyError ts
  | [] => rfl
  | t :: ts => by
    rw [slotsAll, anyErrors_append, anyErrors_slots, anyErrors_slotsAll, anyError]

end

theorem hasErrors_outline (positions : Bool) (t : ParseTree) :
    (t.outline positions).hasErrors = t.hasError := by
  rw [outline, hasErrors_frame, anyErrors_slotsAll, hasError_eq]

/-- **An outline neither hides errors nor makes any up.** An error or missing node stands somewhere in
it just if one stands somewhere in the parse tree, anonymous or not and whatever it stands in. -/
theorem outline_keepsErrors (positions : Bool) (t : ParseTree) :
    (t.outline positions).hasErrors = t.hasError ∧
      (t.hasError = true ↔ ∃ path, t.IsFaultyAt path) ∧
      ((t.outline positions).hasErrors = true ↔ ∃ path, (t.outline positions).IsFaultyAt path) :=
  ⟨hasErrors_outline positions t, hasError_iff t, Outline.hasErrors_iff _⟩

end ParseTree

end ParserConformance
