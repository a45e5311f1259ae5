import ParserConformance.Outline.OfParseTree

/-!
# Depth

The walk that finds the depth of a parse tree comes to the tree's height, and the outline of a
parse tree is not higher than the tree.

The walk keeps the nodes still to be visited, each with its level, and the deepest level that it has met.
`Walk.Turn` says what one turn of such a walk does and leaves open which of the pending nodes it visits and
in which order the others wait, so a stack may have its top at either end. Each turn takes one node from
those at and below the pending ones, and no turn changes the deepest level that is met or still ahead. Hence
every walk ends, and it ends with the height of its tree.
-/

namespace ParserConformance.ParseTree

/-! ### Pending nodes -/

/-- The deepest level at and below the pending nodes of a walk. -/
def reach : List (ParseTree × Nat) → Nat
  | [] => 0
  | (t, level) :: stack => max (level + heightAll t.children) (reach stack)

theorem height_eq (t : ParseTree) : t.height = heightAll t.children + 1 := by
  cases t; rfl

theorem heightAll_eq_foldr (ts : List ParseTree) : heightAll ts = (ts.map height).foldr max 0 := by
  induction ts with
  | nil => rfl
  | cons t ts ih => rw [heightAll, ih, List.map_cons, List.foldr_cons]

theorem reach_append (s u : List (ParseTree × Nat)) : reach (s ++ u) = max (reach s) (reach u) := by
  induction s with
  | nil => simp [reach]
  | cons entry s ih =>
    rw [List.cons_append, reach, reach, ih, Nat.max_assoc]

/-- Nodes reach as deep as the highest of them. -/
theorem max_reach_atLevel (level : Nat) (ts : List ParseTree) :
    max level (reach (atLevel (level + 1) ts)) = level + heightAll ts := by
  induction ts with
  | nil => simp [atLevel, reach, heightAll]
  | cons t ts ih =>
    have : atLevel (level + 1) (t :: ts) = (t, level + 1) :: atLevel (level + 1) ts := rfl
    rw [this, reach, heightAll, height_eq]
    omega

theorem pendingSize_perm {s u : List (ParseTree × Nat)} (h : s.Perm u) :
    pendingSize s = pendingSize u :=
  (h.map _).sum_nat

theorem reach_perm {s u : List (ParseTree × Nat)} (h : s.Perm u) : reach s = reach u := by
  induction h with
  | nil => rfl
  | cons entry _ ih => rw [reach, reach, ih]
  | swap entry entry' s =>
    simp only [reach]
    exact Nat.max_left_comm _ _ _
  | trans _ _ ih ih' => exact ih.trans ih'

theorem pendingSize_eq_zero_iff {s : List (ParseTree × Nat)} : pendingSize s = 0 ↔ s = [] := by
  cases s with
  | nil => simp [pendingSize]
  | cons entry s =>
    rw [pendingSize_cons, size_eq]
    simp

/-- Below a node one less is pending than at it. -/
theorem pendingSize_atLevel_append (t : ParseTree) (level level' : Nat) (s : List (ParseTree × Nat)) :
    pendingSize (atLevel level t.children ++ s) + 1 = pendingSize ((t, level') :: s) := by
  rw [pendingSize_append, pendingSize_atLevel, pendingSize_cons, size_eq]
  omega

/-! ### The walk turn by turn -/

/-- How far a walk has come. -/
structure Walk where
  /-- The nodes still to be visited, each with its level. -/
  pending : List (ParseTree × Nat)
  /-- The deepest level met. -/
  best : Nat

namespace Walk

/-- The walk over a tree before its first turn. -/
def start (t : ParseTree) : Walk := ⟨[(t, 1)], 0⟩

/-- The deepest level that a walk has met or has still ahead. -/
def outcome (w : Walk) : Nat := max w.best (reach w.pending)

/-- One turn of a walk. -/
inductive Turn (w : Walk) : Walk → Prop where
  /-- One of the pending nodes is visited, and its children are pending for it, a level further down. -/
  | visit {t : ParseTree} {level : Nat} {rest pending : List (ParseTree × Nat)}
    (taken : w.pending.Perm ((t, level) :: rest))
    (put : pending.Perm (atLevel (level + 1) t.children ++ rest)) : Turn w ⟨pending, max w.best level⟩

/-- A number of turns, one after the other. -/
inductive Turns : Nat → Walk → Walk → Prop where
  /-- No turn. -/
  | none (w : Walk) : Turns 0 w w
  /-- A turn and those after it. -/
  | next {n : Nat} {w w' w'' : Walk} (first : Turn w w') (rest : Turns n w' w'') : Turns (n + 1) w w''

variable {w w' : Walk} {n : Nat}

theorem Turn.pendingSize_eq (h : Turn w w') : pendingSize w'.pending + 1 = pendingSize w.pending := by
  cases h with
  | visit taken put => rw [pendingSize_perm taken, pendingSize_perm put, pendingSize_atLevel_append]

theorem Turn.outcome_eq (h : Turn w w') : w'.outcome = w.outcome := by
  cases h with
  | @visit t level rest pending taken put =>
    have hchildren := max_reach_atLevel level t.children
    simp only [outcome, reach_perm taken, reach_perm put, reach_append, reach]
    omega

theorem Turns.pendingSize_eq (h : Turns n w w') : n + pendingSize w'.pending = pendingSize w.pending := by
  induction h with
  | none w => exact Nat.zero_add _
  | next first _ ih =>
    rw [← first.pendingSize_eq, ← ih]
    omega

theorem Turns.outcome_eq (h : Turns n w w') : w'.outcome = w.outcome := by
  induction h with
  | none w => rfl
  | next first _ ih => exact ih.trans first.outcome_eq

/-- A walk with a pending node can go on. -/
theorem exists_turn (h : w.pending ≠ []) : ∃ w', Turn w w' := by
  obtain ⟨⟨t, level⟩, rest, hw⟩ := List.exists_cons_of_ne_nil h
  exact ⟨_, .visit (.of_eq hw) (.refl _)⟩

/-- The walk with a stack visits the node on top. -/
theorem turns_deepest (stack : List (ParseTree × Nat)) (best : Nat) :
    Turns (pendingSize stack) ⟨stack, best⟩ ⟨[], deepest stack best⟩ := by
  fun_induction deepest stack best with
  | case1 best => exact .none _
  | case2 t level stack best ih =>
    rw [← pendingSize_atLevel_append]
    exact .next (.visit (.refl _) (.refl _)) ih

end Walk

/-- The walk keeps the deepest level that it has met and comes to the deepest one left. -/
theorem deepest_eq (stack : List (ParseTree × Nat)) (best : Nat) :
    deepest stack best = max best (reach stack) := by
  have h := (Walk.turns_deepest stack best).outcome_eq
  rwa [Walk.outcome, Walk.outcome, reach, Nat.max_zero] at h

theorem depth_eq_height (t : ParseTree) : t.depth = t.height := by
  rw [depth, deepest_eq, height_eq, reach, reach]
  omega

namespace Walk

variable {t : ParseTree}

theorem Turns.size_eq (h : Turns n (start t) w) : n + pendingSize w.pending = t.size := by
  rw [h.pendingSize_eq]
  exact (pendingSize_cons t 1 []).trans (Nat.add_zero _)

theorem Turns.depth_eq (h : Turns n (start t) w) : w.outcome = t.depth :=
  h.outcome_eq.trans (deepest_eq [(t, 1)] 0).symm

/-- However a walk over a tree goes, it comes to its end, with the given depth. -/
structure EndsWith (t : ParseTree) (depth : Nat) : Prop where
  /-- There is a walk to the end. -/
  walk : Turns t.size (start t) ⟨[], depth⟩
  /-- No walk has more turns than the tree has nodes. -/
  bounded : ∀ n w, Turns n (start t) w → n ≤ t.size
  /-- A walk that had fewer has one more. -/
  goesOn : ∀ n w, Turns n (start t) w → n < t.size → ∃ w', Turn w w'
  /-- A walk that had as many is at its end. -/
  ends : ∀ w, Turns t.size (start t) w → w = ⟨[], depth⟩

/-- The walk that finds the depth ends, and so does each that visits the nodes in another order. -/
theorem endsWith_depth (t : ParseTree) : EndsWith t t.depth where
  walk := by
    have h := turns_deepest [(t, 1)] 0
    rwa [pendingSize_cons, show pendingSize [] = 0 from rfl, Nat.add_zero] at h
  bounded n w h := Nat.le.intro h.size_eq
  goesOn n w h hn := by
    refine exists_turn fun hw => ?_
    have hsize := h.size_eq
    rw [pendingSize_eq_zero_iff.2 hw] at hsize
    omega
  ends w h := by
    obtain ⟨pending, best⟩ := w
    obtain rfl : pending = [] := pendingSize_eq_zero_iff.1 (Nat.add_eq_left.1 h.size_eq)
    rw [← h.depth_eq, outcome, reach, Nat.max_zero]

end Walk

/-! ### Outlines -/

theorem slotsHeight_append (ss us : List (Slot Outline)) :
    Outline.slotsHeight (ss ++ us) = max (Outline.slotsHeight ss) (Outline.slotsHeight us) := by
  induction ss with
  | nil => simp [Outline.slotsHeight]
  | cons s ss ih =>
    obtain ⟨field, t⟩ := s
    rw [List.cons_append, Outline.slotsHeight, Outline.slotsHeight, ih, Nat.max_assoc]

theorem height_frame_le (positions : Bool) (t : ParseTree) (ss : List (Slot Outline)) :
    (frame positions t ss).height ≤ Outline.slotsHeight ss + 1 := by
  rw [frame]
  split
  · simp [Outline.height]
  · split <;> exact Nat.le_refl _

mutual

theorem slotsHeight_slots_le (positions : Bool) :
    ∀ t : ParseTree, Outline.slotsHeight (slots positions t) ≤ t.height
  | ⟨kind, named, field, isError, isMissing, start, stop, children⟩ => by
    have ih := slotsHeight_slotsAll_le positions children
    rw [slots, height]
    split
    · have := height_frame_le positions ⟨kind, named, field, isError, isMissing, start, stop, []⟩
        (slotsAll positions children)
      simp only [Outline.slotsHeight]
      omega
    · omega

theorem slotsHeight_slotsAll_le (positions : Bool) :
    ∀ ts : List ParseTree, Outline.slotsHeight (slotsAll positions ts) ≤ heightAll ts
  | [] => Nat.le_refl _
  | t :: ts => by
    have h₁ := slotsHeight_slots_le positions t
    have h₂ := slotsHeight_slotsAll_le positions ts
    rw [slotsAll, slotsHeight_append, heightAll]
    omega

end

/-- Dropping anonymous nodes makes no tree higher. -/
theorem height_outline_le (positions : Bool) (t : ParseTree) :
    (t.outline positions).height ≤ t.height := by
  have h₁ := height_frame_le positions t (slotsAll positions t.children)
  have h₂ := slotsHeight_slotsAll_le positions t.children
  rw [outline, height_eq]
  omega

end ParserConformance.ParseTree
