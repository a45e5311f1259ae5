import Mathlib.Data.List.Infix
import ParserConformance.Text.Lines

/-!
# Replacing a mark in a text

`Replaced old new s t` says, apart from any order of search, that `t` is `s` with `new` in place of each
`old`. If `old` begins with a character that it has nowhere else, its occurrences cannot overlap, so
there is only one such text.

## Main result
- `Text.replaced_iff`: the text with everything replaced is what `replace` gives.
-/

namespace ParserConformance.Text

variable {old new : List Char}

/-- `s` is made of parts in which `old` does not occur, with `old` between each two of them, and `t` is
made of the same parts with `new` between them. -/
inductive Replaced (old new : List Char) : (s t : List Char) → Prop where
  /-- There is one part. -/
  | last (part : List Char) (none : ¬old <:+: part) : Replaced old new part part
  /-- There is a part with more after it. -/
  | more (part : List Char) {s t : List Char} (none : ¬old <:+: part) (rest : Replaced old new s t) :
    Replaced old new (part ++ (old ++ s)) (part ++ (new ++ t))

/-! ### What is replaced -/

theorem replaceFrom_append (skipped rest : List Char) :
    replaceFrom old new skipped.length (skipped ++ rest) = replaceFrom old new 0 rest := by
  induction skipped with
  | nil => rfl
  | cons c skipped ih => exact ih

theorem replaceFrom_of_begins (hne : old ≠ []) (rest : List Char) :
    replaceFrom old new 0 (old ++ rest) = new ++ replaceFrom old new 0 rest := by
  cases old with
  | nil => exact absurd rfl hne
  | cons c tail =>
    have hbegins : (c :: tail).isPrefixOf (c :: (tail ++ rest)) = true :=
      List.isPrefixOf_iff_prefix.2 (List.prefix_append (c :: tail) rest)
    rw [List.cons_append, replaceFrom, hbegins]
    exact congrArg (new ++ ·) (replaceFrom_append tail rest)

theorem replaceFrom_of_not_begins {c : Char} {rest : List Char} (h : ¬old <+: c :: rest) :
    replaceFrom old new 0 (c :: rest) = c :: replaceFrom old new 0 rest := by
  have hbegins : old.isPrefixOf (c :: rest) = false := by
    rw [Bool.eq_false_iff]
    exact fun hp => h (List.isPrefixOf_iff_prefix.1 hp)
  rw [replaceFrom, hbegins, Bool.and_false]
  rfl

theorem Replaced.cons {c : Char} {s t : List Char} (h : ¬old <+: c :: s) (hs : Replaced old new s t) :
    Replaced old new (c :: s) (c :: t) := by
  cases hs with
  | last _ none =>
    refine .last _ fun hoccurs => ?_
    exact (List.infix_cons_iff.1 hoccurs).elim h none
  | more part none rest =>
    refine .more (c :: part) (fun hoccurs => ?_) rest
    refine (List.infix_cons_iff.1 hoccurs).elim (fun hbegins => h ?_) none
    exact hbegins.trans (List.prefix_append (c :: part) _)

/-- What `replace` gives has everything replaced. -/
theorem replaced_replace (hne : old ≠ []) (s : List Char) : Replaced old new s (replace old new s) := by
  induction hn : s.length using Nat.strongRecOn generalizing s with
  | ind n ih =>
    subst hn
    cases s with
    | nil => exact .last [] fun h => hne (List.infix_nil.1 h)
    | cons c s =>
      by_cases hbegins : old <+: c :: s
      · obtain ⟨rest, hrest⟩ := hbegins
        have hlength : rest.length < (c :: s).length := by
          rw [← hrest, List.length_append]
          have := List.length_pos_iff.2 hne
          omega
        rw [← hrest, replace, replaceFrom_of_begins hne]
        exact .more [] (fun h => hne (List.infix_nil.1 h)) (ih _ hlength rest rfl)
      · rw [replace, replaceFrom_of_not_begins hbegins]
        exact .cons hbegins (ih _ (Nat.lt_succ_self _) s rfl)

/-! ### There is only one way -/

/-- What a mark begins with does not occur within it, so no mark begins before the end of a part. -/
theorem not_begins_of_not_occurs {c d : Char} {tail part rest : List Char} (hc : c ∉ tail)
    (hnone : ¬c :: tail <:+: d :: part) : ¬c :: tail <+: d :: (part ++ (c :: tail ++ rest)) := by
  intro hbegins
  obtain hshort | ⟨w, hw⟩ :=
    List.prefix_or_prefix_of_prefix hbegins (List.prefix_append (d :: part) (c :: tail ++ rest))
  · exact hnone hshort.isInfix
  · have hafter : d :: part ++ w <+: d :: part ++ (c :: tail ++ rest) := by rwa [hw]
    rw [List.prefix_append_right_inj] at hafter
    cases w with
    | nil =>
      rw [List.append_nil] at hw
      exact hnone (hw ▸ List.infix_rfl)
    | cons e w =>
      obtain ⟨rfl, -⟩ := List.cons_prefix_cons.1 hafter
      have htail : part ++ e :: w = tail := (List.cons.inj hw).2
      exact hc (htail ▸ List.mem_append_right part List.mem_cons_self)

theorem replaceFrom_of_not_occurs {part : List Char} (hnone : ¬old <:+: part) :
    replaceFrom old new 0 part = part := by
  induction part with
  | nil => rfl
  | cons d part ih =>
    rw [replaceFrom_of_not_begins fun h => hnone h.isInfix,
      ih fun h => hnone (List.infix_cons_iff.2 (.inr h))]

theorem replaceFrom_part {c : Char} {tail part : List Char} (hc : c ∉ tail)
    (hnone : ¬c :: tail <:+: part) (rest : List Char) :
    replaceFrom (c :: tail) new 0 (part ++ (c :: tail ++ rest)) =
      part ++ (new ++ replaceFrom (c :: tail) new 0 rest) := by
  induction part with
  | nil => exact replaceFrom_of_begins (List.cons_ne_nil c tail) rest
  | cons d part ih =>
    rw [List.cons_append, replaceFrom_of_not_begins (not_begins_of_not_occurs hc hnone),
      ih fun h => hnone (List.infix_cons_iff.2 (.inr h))]
    rfl

/-- The text with everything replaced is what `replace` gives. -/
theorem replaced_iff {c : Char} {tail s t : List Char} (hc : c ∉ tail) :
    Replaced (c :: tail) new s t ↔ replace (c :: tail) new s = t := by
  constructor
  · intro h
    rw [replace]
    induction h with
    | last _ hnone => exact replaceFrom_of_not_occurs hnone
    | more _ hnone _ ih => rw [replaceFrom_part hc hnone, ih]
  · rintro rfl
    exact replaced_replace (List.cons_ne_nil c tail) s

end ParserConformance.Text
