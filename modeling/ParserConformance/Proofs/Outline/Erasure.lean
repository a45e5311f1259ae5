import ParserConformance.Outline.Comparison
import ParserConformance.Proofs.Text.Quoted

/-!
# What a comparison accepts

An expectation may leave out what it does not want to say: the span of any node and the kind of any
missing node. `Outline.erase` takes chosen spans and missing kinds out of an outline and leaves all
else as it is.

## Main statement
- `Outline.compare_eq_ok_iff`: an outline meets just the expectations that come from it by erasing.

Nodes are compared under their labels, so an ordinary node must not be labelled like an error or
missing node (`IsOrdinaryKind`). Among missing nodes the labels tell the kinds apart because no two
kinds are quoted alike.
-/

namespace ParserConformance.Outline

/-! ### Erasing -/

mutual

/-- The outline without the spans of the nodes in `spans` and without the kinds of the missing nodes
in `kinds`. A node is given by the indices of the children that lead to it. -/
def erase (spans kinds : List Nat → Bool) : Outline → Outline
  | .node kind span slots =>
    .node kind (if spans [] then none else span) (eraseSlots spans kinds 0 slots)
  | .error span slots => .error (if spans [] then none else span) (eraseSlots spans kinds 0 slots)
  | .missing kind span => .missing (if kinds [] then none else kind) (if spans [] then none else span)

/-- The children of a node from `index` on, erased likewise. -/
def eraseSlots (spans kinds : List Nat → Bool) (index : Nat) :
    List (Slot Outline) → List (Slot Outline)
  | [] => []
  | ⟨field, t⟩ :: slots =>
    ⟨field, erase (fun path => spans (index :: path)) (fun path => kinds (index :: path)) t⟩ ::
      eraseSlots spans kinds (index + 1) slots

end

/-- What is given is the same; it may be left out. -/
def AtMost {α : Type} (expected actual : Option α) : Prop := expected = none ∨ expected = actual

theorem atMost_ite {α : Type} (erased : Bool) (x : Option α) : AtMost (if erased then none else x) x := by
  cases erased
  · exact .inr rfl
  · exact .inl rfl

theorem AtMost.exists_ite {α : Type} {x y : Option α} (h : AtMost x y) :
    ∃ erased : Bool, x = if erased then none else y := by
  rcases h with rfl | rfl
  · exact ⟨true, rfl⟩
  · exact ⟨false, rfl⟩

/-- A node with its span and missing kind erased or not, its children aside. -/
def HeadErased : (expected actual : Outline) → Prop
  | .node kind span _, .node kind' span' _ => kind = kind' ∧ AtMost span span'
  | .error span _, .error span' _ => AtMost span span'
  | .missing kind span, .missing kind' span' => AtMost kind kind' ∧ AtMost span span'
  | _, _ => False

mutual

/-- The first outline comes from the second by erasing. -/
inductive IsErasure : Outline → Outline → Prop where
  /-- Erasing goes on below each node. -/
  | intro {e a : Outline} (head : HeadErased e a) (slots : AreErasures e.children a.children) :
    IsErasure e a

/-- The same for children: each stands in its field and comes from the child at its place. -/
inductive AreErasures : List (Slot Outline) → List (Slot Outline) → Prop where
  /-- There are no further children. -/
  | nil : AreErasures [] []
  /-- One child and those after it. -/
  | cons {field : Option String} {e a : Outline} {es as : List (Slot Outline)} (tree : IsErasure e a)
    (rest : AreErasures es as) : AreErasures (⟨field, e⟩ :: es) (⟨field, a⟩ :: as)

end

mutual

theorem isErasure_erase : ∀ (spans kinds : List Nat → Bool) (t : Outline),
    IsErasure (t.erase spans kinds) t
  | spans, kinds, .node kind span slots => by
    rw [erase]
    exact ⟨⟨rfl, atMost_ite _ _⟩, areErasures_eraseSlots spans kinds 0 slots⟩
  | spans, kinds, .error span slots => by
    rw [erase]
    exact ⟨atMost_ite _ _, areErasures_eraseSlots spans kinds 0 slots⟩
  | spans, kinds, .missing kind span => by
    rw [erase]
    exact ⟨⟨atMost_ite _ _, atMost_ite _ _⟩, .nil⟩

theorem areErasures_eraseSlots : ∀ (spans kinds : List Nat → Bool) (index : Nat)
    (slots : List (Slot Outline)), AreErasures (eraseSlots spans kinds index slots) slots
  | _, _, _, [] => .nil
  | spans, kinds, index, ⟨_, t⟩ :: slots =>
    .cons (isErasure_erase _ _ t) (areErasures_eraseSlots spans kinds (index + 1) slots)

end

/-- What is erased from `index` on does not hang on the nodes before. -/
theorem eraseSlots_congr {spans kinds spans' kinds' : List Nat → Bool} {index : Nat}
    {slots : List (Slot Outline)} (hs : ∀ i ≥ index, ∀ path, spans (i :: path) = spans' (i :: path))
    (hk : ∀ i ≥ index, ∀ path, kinds (i :: path) = kinds' (i :: path)) :
    eraseSlots spans kinds index slots = eraseSlots spans' kinds' index slots := by
  induction slots generalizing index with
  | nil => rfl
  | cons slot slots ih =>
    rw [eraseSlots, eraseSlots, funext (hs index (Nat.le_refl index)), funext (hk index (Nat.le_refl index)),
      ih (fun i hi => hs i (Nat.le_of_succ_le hi)) (fun i hi => hk i (Nat.le_of_succ_le hi))]

/-- The nodes chosen by `rest`, but below the child at `index` those chosen by `first`. -/
def belowChild (index : Nat) (first rest : List Nat → Bool) : List Nat → Bool
  | [] => rest []
  | i :: path => if i = index then first path else rest (i :: path)

theorem belowChild_self (index : Nat) (first rest : List Nat → Bool) :
    (fun path => belowChild index first rest (index :: path)) = first :=
  funext fun _ => if_pos rfl

theorem belowChild_of_gt (index : Nat) (first rest : List Nat → Bool) :
    ∀ i ≥ index + 1, ∀ path, belowChild index first rest (i :: path) = rest (i :: path) :=
  fun _ hi _ => if_neg (Nat.ne_of_gt hi)

/-- The root chosen or not, and the nodes below it chosen by `chosen`. -/
def withRoot (root : Bool) (chosen : List Nat → Bool) : List Nat → Bool
  | [] => root
  | i :: path => chosen (i :: path)

theorem eraseSlots_withRoot (root root' : Bool) (spans kinds : List Nat → Bool)
    (slots : List (Slot Outline)) :
    eraseSlots (withRoot root spans) (withRoot root' kinds) 0 slots = eraseSlots spans kinds 0 slots :=
  eraseSlots_congr (fun _ _ _ => rfl) (fun _ _ _ => rfl)

mutual

/-- What comes from an outline by erasing is the outline with some spans and kinds erased. -/
theorem IsErasure.exists_erase : ∀ {e a : Outline}, IsErasure e a → ∃ spans kinds, e = a.erase spans kinds
  | _, _, .intro (e := e) (a := a) head slots => by
    obtain ⟨spans, kinds, hslots⟩ := slots.exists_eraseSlots 0
    cases e with
    | node kind span es =>
      cases a with
      | node kind' span' as =>
        obtain ⟨rfl, hspan⟩ := head
        obtain ⟨root, rfl⟩ := hspan.exists_ite
        refine ⟨withRoot root spans, withRoot false kinds, ?_⟩
        rw [erase, eraseSlots_withRoot]
        exact congrArg _ hslots
      | error | missing => exact head.elim
    | error span es =>
      cases a with
      | error span' as =>
        obtain ⟨root, rfl⟩ := AtMost.exists_ite head
        refine ⟨withRoot root spans, withRoot false kinds, ?_⟩
        rw [erase, eraseSlots_withRoot]
        exact congrArg _ hslots
      | node | missing => exact head.elim
    | missing kind span =>
      cases a with
      | missing kind' span' =>
        obtain ⟨root, rfl⟩ := head.2.exists_ite
        obtain ⟨root', rfl⟩ := head.1.exists_ite
        exact ⟨withRoot root spans, withRoot root' kinds, rfl⟩
      | node | error => exact head.elim

theorem AreErasures.exists_eraseSlots : ∀ {es as : List (Slot Outline)}, AreErasures es as →
    ∀ index, ∃ spans kinds, es = eraseSlots spans kinds index as
  | _, _, .nil, _ => ⟨fun _ => false, fun _ => false, rfl⟩
  | _, _, .cons tree rest, index => by
    obtain ⟨spans, kinds, rfl⟩ := tree.exists_erase
    obtain ⟨spans', kinds', rfl⟩ := rest.exists_eraseSlots (index + 1)
    refine ⟨belowChild index spans spans', belowChild index kinds kinds', ?_⟩
    rw [eraseSlots, belowChild_self, belowChild_self, eraseSlots_congr (belowChild_of_gt index spans spans')
      (belowChild_of_gt index kinds kinds')]

end

/-! ### Labels -/

/-- A kind that is not the label of an error or missing node. -/
def IsOrdinaryKind (kind : String) : Prop :=
  kind ≠ "ERROR" ∧ kind ≠ "MISSING" ∧ ¬"MISSING ".toList <+: kind.toList

instance (kind : String) : Decidable (IsOrdinaryKind kind) := inferInstanceAs (Decidable (_ ∧ _ ∧ _))

mutual

/-- The kinds of the ordinary nodes. -/
def nodeKinds : Outline → List String
  | .node kind _ slots => kind :: slotsKinds slots
  | .error _ slots => slotsKinds slots
  | .missing _ _ => []

/-- The kinds of the ordinary nodes at and below the children. -/
def slotsKinds : List (Slot Outline) → List String
  | [] => []
  | ⟨_, t⟩ :: slots => t.nodeKinds ++ slotsKinds slots

end

theorem slotsKinds_children_subset (t : Outline) : slotsKinds t.children ⊆ t.nodeKinds := by
  cases t with
  | node kind span slots => exact List.subset_cons_self _ _
  | error span slots => exact List.Subset.refl _
  | missing kind span => exact List.Subset.refl _

/-- No two missing kinds are written alike: a plain word holds no quotation mark. -/
theorem missingKind_injective : Function.Injective missingKind := by
  have hne : ∀ k k' : String, (!k.isEmpty && k.toList.all Text.isWordChar) = true →
      k.toList ≠ Text.quote k'.toList := by
    intro k k' hk h
    simp only [h, Text.quote, List.cons_append, List.all_cons, Bool.and_eq_true] at hk
    exact absurd hk.2.1 (by decide)
  intro k k' h
  simp only [missingKind] at h
  split at h
  · next hk =>
    split at h
    · exact String.toList_inj.1 h
    · exact absurd h (hne k k' hk)
  · split at h
    · next hk' => exact absurd h.symm (hne k' k hk')
    · exact String.toList_inj.1 (Text.quote_injective h)

/-- An ordinary node has the label of no error or missing node. -/
theorem labelChars_ne_of_isOrdinaryKind {kind : String} (h : IsOrdinaryKind kind) {e : Outline}
    (he : e.isError = true ∨ e.isMissing = true) : e.labelChars ≠ kind.toList := by
  obtain ⟨herror, hmissing, hprefix⟩ := h
  intro hl
  cases e with
  | node => simp [isError, isMissing] at he
  | error => exact herror (String.toList_inj.1 hl.symm)
  | missing kind' =>
    cases kind' with
    | none => exact hmissing (String.toList_inj.1 hl.symm)
    | some k => exact hprefix ⟨missingKind k, hl⟩

/-- Labels are compared, unless a missing node is expected without a kind. -/
theorem labelsAgree_iff {e a : Outline} (h : ∀ span, e ≠ .missing none span) :
    labelsAgree e a = true ↔ e.labelChars = a.labelChars := by
  rw [labelsAgree.eq_2 e a fun span _ _ he _ => h span he, beq_iff_eq]

/-- The labels of missing nodes agree just if the expected kind is left out or the actual one. -/
theorem labelsAgree_missing_iff {kind kind' : Option String} {span span' : Option Span} :
    labelsAgree (.missing kind span) (.missing kind' span') = true ↔ AtMost kind kind' := by
  cases kind with
  | none => exact iff_of_true rfl (.inl rfl)
  | some k =>
    rw [labelsAgree_iff (by simp)]
    constructor
    · intro h
      cases kind' with
      | none =>
        have hlength : "MISSING ".toList.length + (missingKind k).length = "MISSING".toList.length := by
          rw [← List.length_append]
          exact congrArg List.length h
        have hlong : "MISSING".toList.length < "MISSING ".toList.length := by decide
        omega
      | some k' => exact .inr (congrArg some (missingKind_injective (List.append_cancel_left h)))
    · rintro (h | rfl)
      · cases h
      · rfl

/-! ### Single nodes -/

theorem spanDivergence?_eq_none_iff {e a : Outline} :
    spanDivergence? e a = none ↔ AtMost e.span a.span := by
  rw [spanDivergence?, AtMost]
  cases e.span with
  | none => simp
  | some s => simp [eq_comm]

/-- Nodes do not diverge if the actual one does not intrude and labels and spans are as expected. -/
theorem divergence?_eq_none_iff {e a : Outline} :
    divergence? e a = none ↔
      intrusion? e a = none ∧ labelsAgree e a = true ∧ AtMost e.span a.span := by
  rw [divergence?, ← spanDivergence?_eq_none_iff]
  cases intrusion? e a with
  | some d => simp
  | none => cases labelsAgree e a <;> simp

/-- Nodes do not diverge just if the expected one comes from the actual one by erasing. -/
theorem divergence?_eq_none_iff_headErased (e : Outline) {a : Outline}
    (ha : ∀ k ∈ a.nodeKinds, IsOrdinaryKind k) : divergence? e a = none ↔ HeadErased e a := by
  rw [divergence?_eq_none_iff]
  cases a with
  | node kind span slots =>
    have hlabel := fun he => labelChars_ne_of_isOrdinaryKind (ha kind List.mem_cons_self) (e := e) he
    cases e with
    | node kind' span' slots' =>
      rw [labelsAgree_iff (by simp)]
      exact ⟨fun h => ⟨String.toList_inj.1 h.2.1, h.2.2⟩, fun h => ⟨rfl, String.toList_inj.2 h.1, h.2⟩⟩
    | error span' slots' =>
      rw [labelsAgree_iff (by simp)]
      exact iff_of_false (fun h => hlabel (.inl rfl) h.2.1) id
    | missing kind' span' =>
      -- even a missing node without a kind meets no ordinary node
      rw [labelsAgree.eq_2 _ _ (by simp), beq_iff_eq]
      exact iff_of_false (fun h => hlabel (.inr rfl) h.2.1) id
  | error span slots =>
    cases e with
    | error span' slots' =>
      rw [labelsAgree_iff (by simp)]
      exact ⟨fun h => h.2.2, fun h => ⟨rfl, rfl, h⟩⟩
    | node | missing => exact iff_of_false (fun h => nomatch h.1) id
  | missing kind span =>
    cases e with
    | missing kind' span' =>
      rw [labelsAgree_missing_iff]
      exact ⟨fun h => h.2, fun h => ⟨rfl, h⟩⟩
    | node | error => exact iff_of_false (fun h => nomatch h.1) id

/-! ### Whole outlines -/

theorem noneBeyond_eq_ok_iff {inner : Context} {path : List String} {index : Nat}
    {slots : List (Slot Outline)} : noneBeyond inner path index slots = .ok () ↔ slots = [] := by
  cases slots <;> simp [noneBeyond]

/-- A comparison succeeds if the two nodes do not diverge and the comparison of their children does. -/
theorem compareAt_eq_ok_iff_slots {outer : Context} {path : List String} {e a : Outline} :
    compareAt outer path e a = .ok () ↔
      divergence? e a = none ∧ compareSlots ⟨e, a⟩ path 0 e.children a.children = .ok () := by
  rw [compareAt.eq_def]
  cases divergence? e a with
  | some d => simp
  | none => cases e <;> simp [children, compareSlots]

theorem compareSlots_nil_eq_ok_iff {inner : Context} {path : List String} {index : Nat}
    {slots : List (Slot Outline)} :
    compareSlots inner path index [] slots = .ok () ↔ AreErasures [] slots := by
  rw [compareSlots, noneBeyond_eq_ok_iff]
  constructor
  · rintro rfl
    exact .nil
  · rintro ⟨⟩
    rfl

theorem compareSlots_cons_eq_ok_iff {inner : Context} {path : List String} {index : Nat}
    {field : Option String} {t : Outline} {slots slots' : List (Slot Outline)} {slot : Slot Outline} :
    compareSlots inner path index (⟨field, t⟩ :: slots) (slot :: slots') = .ok () ↔
      field = slot.field ∧ compareAt inner (path ++ [segment index slot]) t slot.tree = .ok () ∧
        compareSlots inner path (index + 1) slots slots' = .ok () := by
  rw [compareSlots]
  by_cases hf : field = slot.field
  · rw [if_pos hf]
    cases compareAt inner (path ++ [segment index slot]) t slot.tree with
    | ok _ =>
      constructor
      · exact fun h => ⟨hf, rfl, h⟩
      · exact fun h => h.2.2
    | error m =>
      refine iff_of_false (fun h => ?_) (fun h => ?_)
      · cases h
      · cases h.2.1
  · simp [hf]

theorem compareAt_eq_ok_iff_of_slots {e a : Outline} (ha : ∀ k ∈ a.nodeKinds, IsOrdinaryKind k)
    (hslots : ∀ inner path, compareSlots inner path 0 e.children a.children = .ok () ↔
      AreErasures e.children a.children) (outer : Context) (path : List String) :
    compareAt outer path e a = .ok () ↔ IsErasure e a := by
  rw [compareAt_eq_ok_iff_slots, divergence?_eq_none_iff_headErased e ha, hslots]
  exact ⟨fun h => .intro h.1 h.2, fun ⟨head, slots⟩ => ⟨head, slots⟩⟩

theorem ordinary_children {a : Outline} (ha : ∀ k ∈ a.nodeKinds, IsOrdinaryKind k) :
    ∀ k ∈ slotsKinds a.children, IsOrdinaryKind k :=
  fun k hk => ha k (slotsKinds_children_subset a hk)

mutual

theorem compareAt_eq_ok_iff : ∀ (e a : Outline), (∀ k ∈ a.nodeKinds, IsOrdinaryKind k) →
    ∀ outer path, compareAt outer path e a = .ok () ↔ IsErasure e a
  | .node _ _ slots, a, ha =>
    compareAt_eq_ok_iff_of_slots ha (compareSlots_eq_ok_iff slots a.children (ordinary_children ha) 0)
  | .error _ slots, a, ha =>
    compareAt_eq_ok_iff_of_slots ha (compareSlots_eq_ok_iff slots a.children (ordinary_children ha) 0)
  | .missing _ _, _, ha => compareAt_eq_ok_iff_of_slots ha fun _ _ => compareSlots_nil_eq_ok_iff

theorem compareSlots_eq_ok_iff : ∀ (es as : List (Slot Outline)),
    (∀ k ∈ slotsKinds as, IsOrdinaryKind k) →
      ∀ index inner path, compareSlots inner path index es as = .ok () ↔ AreErasures es as
  | [], _, _, _, _, _ => compareSlots_nil_eq_ok_iff
  | ⟨field, t⟩ :: es, [], _, index, inner, path => by
    rw [compareSlots]
    exact iff_of_false nofun nofun
  | ⟨field, t⟩ :: es, ⟨field', t'⟩ :: as, has, index, inner, path => by
    obtain ⟨ht, has⟩ := List.forall_mem_append.1 has
    rw [compareSlots_cons_eq_ok_iff, compareAt_eq_ok_iff t t' ht,
      compareSlots_eq_ok_iff es as has (index + 1)]
    constructor
    · rintro ⟨rfl, tree, rest⟩
      exact .cons tree rest
    · rintro (_ | ⟨tree, rest⟩)
      exact ⟨rfl, tree, rest⟩

end

/-- **An outline meets just the expectations that come from it by erasing** the spans of some nodes
and the kinds of some missing nodes. -/
theorem compare_eq_ok_iff (e : Outline) {a : Outline} (ha : ∀ k ∈ a.nodeKinds, IsOrdinaryKind k) :
    compare e a = .ok () ↔ ∃ spans kinds : List Nat → Bool, e = a.erase spans kinds := by
  rw [compare, compareAt_eq_ok_iff e a ha]
  constructor
  · exact IsErasure.exists_erase
  · rintro ⟨spans, kinds, rfl⟩
    exact isErasure_erase spans kinds a

/-- A call without its closing bracket, placed in its source. -/
def cutCall : Outline :=
  .node "call" (some ⟨⟨0, 0⟩, ⟨0, 6⟩⟩)
    [⟨some "name", .node "word" (some ⟨⟨0, 0⟩, ⟨0, 4⟩⟩) []⟩,
      ⟨none, .error (some ⟨⟨0, 4⟩, ⟨0, 6⟩⟩) [⟨none, .missing (some "\"") none⟩]⟩,
      ⟨some "ERROR", .missing (some ")") (some ⟨⟨0, 6⟩, ⟨0, 6⟩⟩)⟩]

/-- An expectation for it that places only the name and says of one missing node only where it is. -/
def cutCallExpected : Outline :=
  .node "call" none
    [⟨some "name", .node "word" (some ⟨⟨0, 0⟩, ⟨0, 4⟩⟩) []⟩,
      ⟨none, .error none [⟨none, .missing (some "\"") none⟩]⟩,
      ⟨some "ERROR", .missing none (some ⟨⟨0, 6⟩, ⟨0, 6⟩⟩)⟩]

/-- The looser tree expects the placed one, but not the other way round. -/
theorem compare_eq_ok_iff_cutCall :
    (∀ k ∈ cutCall.nodeKinds, IsOrdinaryKind k) ∧ compare cutCallExpected cutCall = .ok () ∧
      (∀ k ∈ cutCallExpected.nodeKinds, IsOrdinaryKind k) ∧
      compare cutCall cutCallExpected ≠ .ok () := by
  have ha : ∀ k ∈ cutCall.nodeKinds, IsOrdinaryKind k := by decide
  have he : ∀ k ∈ cutCallExpected.nodeKinds, IsOrdinaryKind k := by decide
  refine ⟨ha, (compare_eq_ok_iff _ ha).2 ⟨fun path => decide (path ∈ [[], [1]]),
    fun path => decide (path = [2]), rfl⟩, he, fun h => ?_⟩
  obtain ⟨spans, kinds, hcall⟩ := (compare_eq_ok_iff _ he).1 h
  have : cutCall.span = none := by
    rw [hcall]
    exact ite_self none
  cases this

end ParserConformance.Outline
