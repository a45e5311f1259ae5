import ParserConformance.Proofs.Outline.Erasure
import ParserConformance.Proofs.Outline.Places

/-!
# The first divergence

A comparison checks at each place whether both outlines have a child there under the same field label,
and then the two nodes: whether the actual one intrudes, the labels, and the span. It goes from place to
place in order and reports the first check that fails.

## Main statement
- `Outline.compare_eq_error_iff`: the mismatch of a comparison is that of the first check that fails.

The path of a mismatch names the nodes of the actual outline on the way. The trees that it shows are
those at the end of the path if a child is at fault, and else those around the node at fault.
-/

namespace ParserConformance.Outline

/-! ### Checks of nodes -/

/-- An error or missing node stands where one is expected. -/
structure GuardPasses (e a : Outline) : Prop where
  /-- An error node stands for one. -/
  error : a.isError = true → e.isError = true
  /-- A missing node stands for one. -/
  missing : a.isMissing = true → e.isMissing = true

/-- The labels are the same, or any missing node is expected and there is one. -/
def LabelPasses (e a : Outline) : Prop :=
  e.label = a.label ∨ (∃ span, e = .missing none span) ∧ a.isMissing = true

/-- A span that is expected is the actual one. -/
def SpanPasses (e a : Outline) : Prop := ∀ s, e.span = some s → a.span = some s

/-- Two nodes pass all checks. -/
structure NodesPass (e a : Outline) : Prop where
  /-- An error or missing node is expected. -/
  guard : GuardPasses e a
  /-- The label is the expected one. -/
  label : LabelPasses e a
  /-- So is the span, if one is expected. -/
  span : SpanPasses e a

/-- The first check that two nodes fail, and what is reported of it. -/
inductive NodesFail (e a : Outline) : Divergence → Prop where
  /-- The actual node is an error node and the expected one is not. -/
  | error (actual : a.isError = true) (expected : e.isError = false) : NodesFail e a .unexpectedError
  /-- The actual node is a missing node and the expected one is not. -/
  | missing {kind : Option String} {span : Option Span} (actual : a = .missing kind span)
    (expected : e.isMissing = false) : NodesFail e a (.unexpectedMissing kind)
  /-- The labels differ. -/
  | label (guard : GuardPasses e a) (label : ¬LabelPasses e a) :
    NodesFail e a (.kindDiffers e.label a.label)
  /-- The expected span is not the actual one. -/
  | span {s : Span} (guard : GuardPasses e a) (label : LabelPasses e a) (expected : e.span = some s)
    (actual : a.span ≠ some s) : NodesFail e a (.spanDiffers s a.span)

variable {e a t u : Outline} {d : Divergence}

theorem intrusion?_eq_none_iff : intrusion? e a = none ↔ GuardPasses e a := by
  constructor
  · intro h
    cases a with
    | node => exact ⟨nofun, nofun⟩
    | error span slots => exact ⟨fun _ => by simpa [intrusion?] using h, nofun⟩
    | missing kind span => exact ⟨nofun, fun _ => by simpa [intrusion?] using h⟩
  · rintro ⟨herror, hmissing⟩
    cases a with
    | node => rfl
    | error span slots => exact if_pos (herror rfl)
    | missing kind span => exact if_pos (hmissing rfl)

/-- What intrudes is an error or missing node that is not expected. -/
theorem nodesFail_of_intrusion? (h : intrusion? e a = some d) : NodesFail e a d := by
  cases a with
  | node => cases h
  | error span slots =>
    rw [intrusion?, Option.ite_none_left_eq_some] at h
    obtain ⟨hexpected, h⟩ := h
    obtain rfl := Option.some.inj h
    exact .error rfl (eq_false_of_ne_true hexpected)
  | missing kind span =>
    rw [intrusion?, Option.ite_none_left_eq_some] at h
    obtain ⟨hexpected, h⟩ := h
    obtain rfl := Option.some.inj h
    exact .missing rfl (eq_false_of_ne_true hexpected)

theorem labelsAgree_iff_labelPasses : labelsAgree e a = true ↔ LabelPasses e a := by
  have hlabel : e.labelChars = a.labelChars ↔ e.label = a.label := String.ofList_inj.symm
  rw [labelsAgree.eq_def, LabelPasses]
  split
  · exact iff_of_true rfl (.inr ⟨⟨_, rfl⟩, rfl⟩)
  · next hnot =>
    rw [beq_iff_eq, hlabel, or_iff_left]
    rintro ⟨⟨span, rfl⟩, ha⟩
    cases a with
    | missing kind span' => exact hnot span kind span' rfl rfl
    | node | error => cases ha

theorem atMost_span_iff : AtMost e.span a.span ↔ SpanPasses e a := by
  rw [AtMost, SpanPasses]
  cases e.span with
  | none => simp
  | some s => simp [eq_comm]

theorem divergence?_eq_none_iff_nodesPass : divergence? e a = none ↔ NodesPass e a := by
  rw [divergence?_eq_none_iff, intrusion?_eq_none_iff, labelsAgree_iff_labelPasses, atMost_span_iff]
  exact ⟨fun ⟨guard, label, span⟩ => ⟨guard, label, span⟩, fun h => ⟨h.guard, h.label, h.span⟩⟩

theorem spanDivergence?_eq_some_iff : spanDivergence? e a = some d ↔
    ∃ s, e.span = some s ∧ a.span ≠ some s ∧ d = .spanDiffers s a.span := by
  rw [spanDivergence?]
  cases e.span with
  | none => simp
  | some s => simp [eq_comm]

/-- What does not intrude is compared by its label and then by its span. -/
theorem divergence?_eq_of_guardPasses (guard : GuardPasses e a) : divergence? e a =
    if labelsAgree e a then spanDivergence? e a else some (.kindDiffers e.label a.label) := by
  rw [divergence?, intrusion?_eq_none_iff.2 guard]

theorem nodesFail_of_divergence? (h : divergence? e a = some d) : NodesFail e a d := by
  cases hintrusion : intrusion? e a with
  | some d' =>
    rw [divergence?, hintrusion] at h
    exact nodesFail_of_intrusion? (hintrusion.trans h)
  | none =>
    have guard := intrusion?_eq_none_iff.1 hintrusion
    rw [divergence?_eq_of_guardPasses guard] at h
    split at h
    · next hagree =>
      obtain ⟨s, expected, actual, rfl⟩ := spanDivergence?_eq_some_iff.1 h
      exact .span guard (labelsAgree_iff_labelPasses.1 hagree) expected actual
    · next hagree =>
      obtain rfl := Option.some.inj h
      exact .label guard fun label => hagree (labelsAgree_iff_labelPasses.2 label)

/-- What is reported of two nodes is the first check that they fail. -/
theorem divergence?_eq_some_iff : divergence? e a = some d ↔ NodesFail e a d := by
  refine ⟨nodesFail_of_divergence?, fun h => ?_⟩
  cases h with
  | error actual expected =>
    cases a with
    | error => simp [divergence?, intrusion?, expected]
    | node | missing => cases actual
  | missing actual expected =>
    obtain rfl := actual
    simp [divergence?, intrusion?, expected]
  | label guard label =>
    rw [divergence?_eq_of_guardPasses guard]
    exact if_neg fun hagree => label (labelsAgree_iff_labelPasses.1 hagree)
  | span guard label expected actual =>
    rw [divergence?_eq_of_guardPasses guard, if_pos (labelsAgree_iff_labelPasses.2 label)]
    exact spanDivergence?_eq_some_iff.2 ⟨_, expected, actual, rfl⟩

/-! ### Checks of children -/

/-- The check that two places of children at an index fail, and what is reported of it. -/
inductive SlotsFail (index : Nat) : Option (Slot Outline) → Option (Slot Outline) → Divergence → Prop where
  /-- The children stand under different field labels. -/
  | field {s s' : Slot Outline} (differ : s.field ≠ s'.field) :
    SlotsFail index (some s) (some s') (.fieldDiffers index s.field s'.field)
  /-- There is a child in the expected outline only. -/
  | missing {s : Slot Outline} : SlotsFail index (some s) none (.missingChild index s.tree.summary)
  /-- There is a child in the actual outline only. -/
  | unexpected {s' : Slot Outline} :
    SlotsFail index none (some s') (.unexpectedChild index s'.tree.summary)

/-- There is a child in both outlines or in neither, and the field labels are the same. -/
def SlotsPass (s s' : Option (Slot Outline)) : Prop :=
  Option.Rel (fun s s' => s.field = s'.field) s s'

theorem SlotsFail.not_slotsPass {index : Nat} {s s' : Option (Slot Outline)}
    (h : SlotsFail index s s' d) : ¬SlotsPass s s' := by
  cases h with
  | field differ =>
    rintro ⟨⟩
    exact differ ‹_›
  | missing => nofun
  | unexpected => nofun

theorem SlotsFail.unique {index : Nat} {s s' : Option (Slot Outline)} {d' : Divergence}
    (h : SlotsFail index s s' d) (h' : SlotsFail index s s' d') : d = d' := by
  cases h <;> cases h' <;> rfl

/-! ### Places -/

/-- The segments of a path that follows the indices of children. -/
def segments : List Nat → Outline → List String
  | [], _ => []
  | i :: path, t =>
    match t.children[i]? with
    | some slot => segment i slot :: segments path slot.tree
    | none => []

/-- The check of the children at a place passes. There is none at the place of the root. -/
def SlotPassesAt (e a : Outline) (place : List Nat) : Prop :=
  ∀ path i, place = path ++ [i] → SlotsPass (e.slotAt? path i) (a.slotAt? path i)

/-- All checks at a place pass. -/
structure PassesAt (e a : Outline) (place : List Nat) : Prop where
  /-- That of the children. -/
  slot : SlotPassesAt e a place
  /-- Those of the nodes, if there are any. -/
  node : Option.Rel NodesPass (e.nodeAt? place) (a.nodeAt? place)

/-- All checks at the places before a place pass. -/
def PassesBefore (e a : Outline) (place : List Nat) : Prop := ∀ p, Precedes p place → PassesAt e a p

/-- The trees around a place: `outer` around the root, and else the nodes above. -/
inductive IsAround (outer : Context) (e a : Outline) (place : List Nat) (context : Context) : Prop where
  /-- It is the place of the root. -/
  | root (root : place = []) (eq : context = outer)
  /-- It is the place of a child. -/
  | parent {path : List Nat} {i : Nat} (child : place = path ++ [i])
    (expected : e.nodeAt? path = some context.expected) (actual : a.nodeAt? path = some context.actual)

/-- The mismatch `m` tells a path, what differs there, and the two trees of a context. -/
structure Reports (m : Mismatch) (path : List String) (d : Divergence) (context : Context) : Prop where
  /-- The path. -/
  path : m.path = path
  /-- What differs. -/
  divergence : m.divergence = d
  /-- The expected tree, printed line by line. -/
  expected : m.expectedContext = context.expected.pretty
  /-- The actual tree, printed line by line. -/
  actual : m.actualContext = context.actual.pretty

/-- A check at a place fails, and `m` is what is reported of it. Paths begin with `way`. -/
inductive FailsAt (outer : Context) (way : List String) (e a : Outline) (place : List Nat)
    (m : Mismatch) : Prop where
  /-- The nodes at the place fail a check. What is around them is shown. -/
  | node {t u : Outline} {d : Divergence} {context : Context}
    (slot : SlotPassesAt e a place) (expected : e.nodeAt? place = some t)
    (actual : a.nodeAt? place = some u) (fails : NodesFail t u d)
    (around : IsAround outer e a place context)
    (report : Reports m (way ++ a.segments place) d context)
  /-- The children at the place fail a check. The nodes above are shown. -/
  | slot {path : List Nat} {i : Nat} {t u : Outline} {d : Divergence} (child : place = path ++ [i])
    (expected : e.nodeAt? path = some t) (actual : a.nodeAt? path = some u)
    (fails : SlotsFail i t.children[i]? u.children[i]? d)
    (report : Reports m (way ++ a.segments path) d ⟨t, u⟩)

/-- `m` is the report of the first check that fails. -/
def FirstFails (outer : Context) (way : List String) (e a : Outline) (m : Mismatch) : Prop :=
  ∃ place, PassesBefore e a place ∧ FailsAt outer way e a place m

variable {outer : Context} {way : List String} {m : Mismatch} {place : List Nat} {index j : Nat}

theorem reports_mismatch (context : Context) (path : List String) (d : Divergence) :
    Reports (context.mismatch path d) path d context := ⟨rfl, rfl, rfl, rfl⟩

/-- A mismatch is all that it tells. -/
theorem Reports.unique {m' : Mismatch} {path : List String} {context : Context}
    (h : Reports m path d context) (h' : Reports m' path d context) : m = m' := by
  cases m
  cases m'
  obtain ⟨rfl, rfl, rfl, rfl⟩ := h
  obtain ⟨rfl, rfl, rfl, rfl⟩ := h'
  rfl

section Rel

variable {α β γ δ : Type} {r : α → β → Prop} {r' : γ → δ → Prop} {x : Option α} {y : Option β}

theorem rel_mono {q : α → β → Prop} (h : Option.Rel r x y) (hq : ∀ a b, r a b → q a b) :
    Option.Rel q x y := by
  cases h with
  | none => exact .none
  | some h => exact .some (hq _ _ h)

theorem rel_bind {f : α → Option γ} {g : β → Option δ} (h : Option.Rel r x y)
    (hfg : ∀ a b, r a b → Option.Rel r' (f a) (g b)) : Option.Rel r' (x.bind f) (y.bind g) := by
  cases h with
  | none => exact .none
  | some h => exact hfg _ _ h

end Rel

/-! ### What has passed -/

/-- Two children have been compared and passed. -/
def SlotsMeet (s s' : Slot Outline) : Prop :=
  s.field = s'.field ∧ ∃ outer way, compareAt outer way s.tree s'.tree = .ok ()

theorem compareSlots_getElem? {inner : Context} {es as : List (Slot Outline)}
    (h : compareSlots inner way index es as = .ok ()) (i : Nat) : Option.Rel SlotsMeet es[i]? as[i]? := by
  induction es generalizing as index i with
  | nil =>
    rw [compareSlots, noneBeyond_eq_ok_iff] at h
    rw [h]
    exact .none
  | cons slot es ih =>
    obtain ⟨field, t⟩ := slot
    cases as with
    | nil =>
      rw [compareSlots] at h
      cases h
    | cons slot' as =>
      obtain ⟨hfield, ht, hrest⟩ := compareSlots_cons_eq_ok_iff.1 h
      cases i with
      | zero => exact .some ⟨hfield, _, _, ht⟩
      | succ i => exact ih hrest i

/-- Where a comparison succeeds, both outlines have nodes at the same places, and comparing these
succeeds. -/
theorem compareAt_nodeAt? (h : compareAt outer way e a = .ok ()) (path : List Nat) :
    Option.Rel (fun t u => ∃ outer way, compareAt outer way t u = .ok ()) (e.nodeAt? path)
      (a.nodeAt? path) := by
  induction path generalizing e a outer way with
  | nil => exact .some ⟨_, _, h⟩
  | cons i path ih =>
    rw [nodeAt?_cons, nodeAt?_cons]
    refine rel_bind (compareSlots_getElem? (compareAt_eq_ok_iff_slots.1 h).2 i) ?_
    rintro s s' ⟨-, _, _, ht⟩
    exact ih ht

/-- Where a comparison succeeds, all checks pass. -/
theorem passesAt_of_compareAt (h : compareAt outer way e a = .ok ()) (place : List Nat) :
    PassesAt e a place := by
  constructor
  · rintro path i -
    refine rel_bind (compareAt_nodeAt? h path) ?_
    rintro t u ⟨_, _, hcompare⟩
    have hi := compareSlots_getElem? (compareAt_eq_ok_iff_slots.1 hcompare).2 i
    exact rel_mono hi fun s s' hmeet => hmeet.1
  · refine rel_mono (compareAt_nodeAt? h place) ?_
    rintro t u ⟨_, _, hcompare⟩
    exact divergence?_eq_none_iff_nodesPass.1 (compareAt_eq_ok_iff_slots.1 hcompare).1

theorem slotPassesAt_nil : SlotPassesAt e a [] := fun path i h => by simp at h

theorem slotPassesAt_cons
    (h : Option.Rel (fun s s' => s.field = s'.field ∧ SlotPassesAt s.tree s'.tree place)
      e.children[j]? a.children[j]?) : SlotPassesAt e a (j :: place) := by
  intro path i hplace
  cases path with
  | nil =>
    obtain ⟨rfl, -⟩ := List.cons.inj hplace
    exact rel_mono h fun s s' hs => hs.1
  | cons k path =>
    obtain ⟨rfl, rfl⟩ := List.cons.inj hplace
    rw [slotAt?_cons, slotAt?_cons]
    exact rel_bind h fun s s' hs => hs.2 path i rfl

/-- Where a child passes and all checks at a place below it pass, those at this place pass. -/
theorem passesAt_cons (h : Option.Rel (fun s s' => s.field = s'.field ∧ PassesAt s.tree s'.tree place)
    e.children[j]? a.children[j]?) : PassesAt e a (j :: place) := by
  refine ⟨slotPassesAt_cons (rel_mono h fun s s' hs => ⟨hs.1, hs.2.slot⟩), ?_⟩
  rw [nodeAt?_cons, nodeAt?_cons]
  exact rel_bind h fun s s' hs => hs.2.node

/-- What comes before a place below a child is the root, what is below earlier children, and what comes
before the place in the child. -/
theorem passesBefore_cons (root : NodesPass e a)
    (earlier : ∀ k < j, Option.Rel SlotsMeet e.children[k]? a.children[k]?)
    (inside : ∀ p, Precedes p place → PassesAt e a (j :: p)) : PassesBefore e a (j :: place) := by
  intro p hp
  cases p with
  | nil => exact ⟨slotPassesAt_nil, .some root⟩
  | cons k p =>
    rcases precedes_cons_cons.1 hp with hk | ⟨rfl, hp'⟩
    · refine passesAt_cons (rel_mono (earlier k hk) ?_)
      rintro s s' ⟨hfield, _, _, hcompare⟩
      exact ⟨hfield, passesAt_of_compareAt hcompare p⟩
    · exact inside p hp'

/-! ### The first failure -/

/-- What makes a comparison of children fail at an index. -/
inductive FaultAt (inner : Context) (way : List String) (index : Nat) :
    Option (Slot Outline) → Option (Slot Outline) → Mismatch → Prop where
  /-- The children themselves. -/
  | here {s s' : Option (Slot Outline)} {d : Divergence} (fails : SlotsFail index s s' d) :
    FaultAt inner way index s s' (inner.mismatch way d)
  /-- What is in them. -/
  | inside {s s' : Slot Outline} {m : Mismatch} (field : s.field = s'.field)
    (fails : compareAt inner (way ++ [segment index s']) s.tree s'.tree = .error m) :
    FaultAt inner way index (some s) (some s') m

/-- A comparison of children fails at the first index at which there is a fault. -/
theorem exists_faultAt {inner : Context} {es as : List (Slot Outline)}
    (h : compareSlots inner way index es as = .error m) :
    ∃ j, (∀ k < j, Option.Rel SlotsMeet es[k]? as[k]?) ∧
      FaultAt inner way (index + j) es[j]? as[j]? m := by
  induction es generalizing as index with
  | nil =>
    cases as with
    | nil => cases h
    | cons slot' as =>
      obtain rfl := Except.error.inj h
      exact ⟨0, nofun, .here .unexpected⟩
  | cons slot es ih =>
    obtain ⟨field, t⟩ := slot
    cases as with
    | nil =>
      obtain rfl := Except.error.inj h
      exact ⟨0, nofun, .here (.missing (s := ⟨field, t⟩))⟩
    | cons slot' as =>
      rw [compareSlots] at h
      split at h
      · next hfield =>
        cases ht : compareAt inner (way ++ [segment index slot']) t slot'.tree with
        | error m' =>
          rw [ht] at h
          obtain rfl := Except.error.inj h
          exact ⟨0, nofun, .inside hfield ht⟩
        | ok =>
          -- the children at `index` have passed, so the fault is further on
          rw [ht] at h
          obtain ⟨j, earlier, fault⟩ := ih h
          refine ⟨j + 1, fun k hk => ?_, ?_⟩
          · cases k with
            | zero => exact .some ⟨hfield, _, _, ht⟩
            | succ k => exact earlier k (Nat.lt_of_succ_lt_succ hk)
          · rw [Nat.add_assoc, Nat.add_comm 1] at fault
            exact fault
      · next hfield =>
        obtain rfl := Except.error.inj h
        exact ⟨0, nofun, .here (.field (s := ⟨field, t⟩) hfield)⟩

/-- Two nodes are compared first, and their children if the nodes do not diverge. -/
theorem compareAt_eq_slots (outer : Context) (way : List String) (e a : Outline) :
    compareAt outer way e a =
      match divergence? e a with
      | some divergence => .error (outer.mismatch way divergence)
      | none => compareSlots ⟨e, a⟩ way 0 e.children a.children := by
  cases e with
  | node | error | missing =>
    rw [compareAt]
    rfl

/-- A comparison fails because the nodes do, or, if they pass, because that of the children does. -/
theorem compareAt_eq_error (h : compareAt outer way e a = .error m) :
    (∃ d, NodesFail e a d ∧ m = outer.mismatch way d) ∨
      NodesPass e a ∧ compareSlots ⟨e, a⟩ way 0 e.children a.children = .error m := by
  rw [compareAt_eq_slots] at h
  cases hd : divergence? e a with
  | some d =>
    rw [hd] at h
    exact .inl ⟨d, divergence?_eq_some_iff.1 hd, (Except.error.inj h).symm⟩
  | none =>
    rw [hd] at h
    exact .inr ⟨divergence?_eq_none_iff_nodesPass.1 hd, h⟩

theorem sizeOf_tree_lt {s : Slot Outline} (h : e.children[j]? = some s) : sizeOf s.tree < sizeOf e := by
  have hmem := List.sizeOf_lt_of_mem (List.mem_of_getElem? h)
  cases s
  cases e <;> simp [children] at hmem ⊢ <;> omega

/-- Around the root of a child is the whole. -/
theorem IsAround.cons {s s' : Slot Outline} {context : Context} (hs : e.children[j]? = some s)
    (hs' : a.children[j]? = some s') (h : IsAround ⟨e, a⟩ s.tree s'.tree place context) :
    IsAround outer e a (j :: place) context := by
  cases h with
  | root root eq =>
    obtain rfl := root
    obtain rfl := eq
    exact .parent (show [j] = [] ++ [j] from rfl) rfl rfl
  | parent child expected actual =>
    exact .parent (congrArg (j :: ·) child) (nodeAt?_cons_eq_some_iff.2 ⟨s, hs, expected⟩)
      (nodeAt?_cons_eq_some_iff.2 ⟨s', hs', actual⟩)

/-- What fails in a child fails in the whole. -/
theorem FailsAt.cons {s s' : Slot Outline} (hs : e.children[j]? = some s) (hs' : a.children[j]? = some s')
    (hfield : s.field = s'.field)
    (h : FailsAt ⟨e, a⟩ (way ++ [segment j s']) s.tree s'.tree place m) :
    FailsAt outer way e a (j :: place) m := by
  have hway : ∀ path, way ++ a.segments (j :: path) = (way ++ [segment j s']) ++ s'.tree.segments path := by
    intro path
    rw [segments, hs']
    exact List.append_cons way _ _
  cases h with
  | node slot expected actual fails around report =>
    have hslot : SlotPassesAt e a (j :: place) := slotPassesAt_cons (by
      rw [hs, hs']
      exact .some ⟨hfield, slot⟩)
    exact .node hslot (nodeAt?_cons_eq_some_iff.2 ⟨s, hs, expected⟩)
      (nodeAt?_cons_eq_some_iff.2 ⟨s', hs', actual⟩) fails (around.cons hs hs') (hway place ▸ report)
  | slot child expected actual fails report =>
    exact .slot (congrArg (j :: ·) child) (nodeAt?_cons_eq_some_iff.2 ⟨s, hs, expected⟩)
      (nodeAt?_cons_eq_some_iff.2 ⟨s', hs', actual⟩) fails (hway _ ▸ report)

/-- The report of a comparison is that of the first check that fails. -/
theorem firstFails_of_compareAt {outer : Context} {way : List String} {e a : Outline} {m : Mismatch}
    (h : compareAt outer way e a = .error m) : FirstFails outer way e a m := by
  rcases compareAt_eq_error h with ⟨d, hfails, rfl⟩ | ⟨root, h⟩
  · refine ⟨[], fun p hp => absurd hp not_precedes_nil, ?_⟩
    have report := reports_mismatch outer way d
    exact .node slotPassesAt_nil rfl rfl hfails (.root rfl rfl) (by simpa [segments] using report)
  obtain ⟨j, earlier, fault⟩ := exists_faultAt h
  rw [Nat.zero_add] at fault
  generalize hs : e.children[j]? = s, hs' : a.children[j]? = s' at fault
  cases fault with
  | @here s s' d fails =>
    subst hs hs'
    have report := reports_mismatch ⟨e, a⟩ way d
    refine ⟨[j], passesBefore_cons root earlier fun p hp => absurd hp not_precedes_nil, ?_⟩
    exact .slot (show [j] = [] ++ [j] from rfl) rfl rfl fails (by simpa [segments] using report)
  | inside hfield h =>
    -- the root and the earlier children have passed, so what fails first in this child fails first
    obtain ⟨place, before, fails⟩ := firstFails_of_compareAt h
    refine ⟨j :: place, passesBefore_cons root earlier fun p hp => ?_, fails.cons hs hs' hfield⟩
    refine passesAt_cons ?_
    rw [hs, hs']
    exact .some ⟨hfield, before p hp⟩
termination_by sizeOf e
decreasing_by exact sizeOf_tree_lt hs

/-! ### The only failure -/

theorem NodesFail.unique {d' : Divergence} (h : NodesFail e a d) (h' : NodesFail e a d') : d = d' :=
  Option.some.inj ((divergence?_eq_some_iff.2 h).symm.trans (divergence?_eq_some_iff.2 h'))

theorem NodesFail.not_nodesPass (h : NodesFail e a d) : ¬NodesPass e a := fun h' => by
  have := divergence?_eq_none_iff_nodesPass.2 h'
  rw [divergence?_eq_some_iff.2 h] at this
  cases this

/-- The last index tells the way to the node above. -/
theorem eq_of_append_singleton {p q : List Nat} {i k : Nat} (h : place = p ++ [i]) (h' : place = q ++ [k]) :
    p = q ∧ i = k := by
  obtain ⟨hp, hi⟩ := List.append_inj' (h.symm.trans h') rfl
  exact ⟨hp, (List.cons.inj hi).1⟩

theorem IsAround.unique {c c' : Context} (h : IsAround outer e a place c) (h' : IsAround outer e a place c') :
    c = c' := by
  cases h with
  | root root eq =>
    cases h' with
    | root _ eq' => exact eq.trans eq'.symm
    | parent child => simp [root] at child
  | parent child expected actual =>
    cases h' with
    | root root => simp [root] at child
    | parent child' expected' actual' =>
      obtain ⟨rfl, -⟩ := eq_of_append_singleton child child'
      cases c
      cases c'
      exact congr_arg₂ Context.mk (Option.some.inj (expected.symm.trans expected'))
        (Option.some.inj (actual.symm.trans actual'))

/-- Children that fail at a place do not pass there. -/
theorem not_slotsPass_of_fails {path : List Nat} {i : Nat} (ht : e.nodeAt? path = some t)
    (hu : a.nodeAt? path = some u) (h : SlotsFail i t.children[i]? u.children[i]? d) :
    ¬SlotsPass (e.slotAt? path i) (a.slotAt? path i) := by
  rw [slotAt?, slotAt?, ht, hu]
  exact h.not_slotsPass

/-- Where a check fails, not all checks pass. -/
theorem FailsAt.not_passesAt (h : FailsAt outer way e a place m) : ¬PassesAt e a place := by
  intro passes
  cases h with
  | node slot expected actual fails around report =>
    have hnode := passes.node
    rw [expected, actual, Option.rel_some_some] at hnode
    exact fails.not_nodesPass hnode
  | slot child expected actual fails report =>
    exact not_slotsPass_of_fails expected actual fails (passes.slot _ _ child)

/-- At one place only the first failure is reported. -/
theorem FailsAt.unique {m' : Mismatch} (h : FailsAt outer way e a place m)
    (h' : FailsAt outer way e a place m') : m = m' := by
  cases h with
  | node slot expected actual fails around report =>
    cases h' with
    | node slot' expected' actual' fails' around' report' =>
      obtain rfl := Option.some.inj (expected.symm.trans expected')
      obtain rfl := Option.some.inj (actual.symm.trans actual')
      obtain rfl := around.unique around'
      obtain rfl := fails.unique fails'
      exact report.unique report'
    | slot child' expected' actual' fails' =>
      exact absurd (slot _ _ child') (not_slotsPass_of_fails expected' actual' fails')
  | slot child expected actual fails report =>
    cases h' with
    | node slot' => exact absurd (slot' _ _ child) (not_slotsPass_of_fails expected actual fails)
    | slot child' expected' actual' fails' report' =>
      obtain ⟨rfl, rfl⟩ := eq_of_append_singleton child child'
      obtain rfl := Option.some.inj (expected.symm.trans expected')
      obtain rfl := Option.some.inj (actual.symm.trans actual')
      obtain rfl := fails.unique fails'
      exact report.unique report'

theorem FirstFails.unique {m' : Mismatch} (h : FirstFails outer way e a m)
    (h' : FirstFails outer way e a m') : m = m' := by
  obtain ⟨p, before, fails⟩ := h
  obtain ⟨p', before', fails'⟩ := h'
  rcases precedes_trichotomy p p' with hp | rfl | hp
  · exact absurd (before' p hp) fails.not_passesAt
  · exact fails.unique fails'
  · exact absurd (before p' hp) fails'.not_passesAt

/-- **A comparison reports the first check that fails**, in the order in which the two outlines are gone
through, with the path that leads there and the trees around it. -/
theorem compare_eq_error_iff : compare e a = .error m ↔ FirstFails ⟨e, a⟩ [a.label] e a m := by
  refine ⟨firstFails_of_compareAt, fun h => ?_⟩
  cases hc : compare e a with
  | ok =>
    obtain ⟨place, -, fails⟩ := h
    exact absurd (passesAt_of_compareAt hc place) fails.not_passesAt
  | error m' => rw [(firstFails_of_compareAt hc).unique h]

/-- A child is compared before the next is missed, and a node that differs is shown with what is around. -/
example : compare (.node "call" none [⟨none, leaf "word"⟩, ⟨none, leaf "word"⟩])
    (.node "call" none [⟨none, leaf "number"⟩]) =
      .error ⟨["call", "number[0]"], .kindDiffers "word" "number", "(call\n  (word)\n  (word))",
        "(call\n  (number))"⟩ := by decide +kernel

end ParserConformance.Outline
