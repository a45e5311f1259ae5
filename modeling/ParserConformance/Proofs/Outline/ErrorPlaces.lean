import ParserConformance.Proofs.Annotation.Words
import ParserConformance.Proofs.Outline.FirstDivergence
import ParserConformance.Proofs.ParseTree.Errors

/-!
# Where error and missing nodes stand

Two outlines that a comparison accepts have nodes at the same places, and the nodes at one place
have labels that agree. A tree that was read has an error label only at error nodes and a missing
label only at missing nodes. A parse may have such labels at ordinary nodes too, as an artifact
chooses its kinds freely.

## Main statement
- `Outline.errors_agree_iff`: where an expectation that was read is met, its error and missing nodes
  stand just where those of the parse do if and only if no ordinary node of the parse has such a
  label.
-/

namespace ParserConformance.Outline

/-! ### Places -/

/-- Whether an error node stands at the end of a path. -/
def isErrorAt (t : Outline) (path : List Nat) : Bool := (t.nodeAt? path).any isError

/-- Whether a missing node stands at the end of a path. -/
def isMissingAt (t : Outline) (path : List Nat) : Bool := (t.nodeAt? path).any isMissing

theorem nodeKinds_subset_slotsKinds {slots : List (Slot Outline)} {i : Nat} {slot : Slot Outline}
    (h : slots[i]? = some slot) : slot.tree.nodeKinds ⊆ slotsKinds slots := by
  induction slots generalizing i with
  | nil => cases h
  | cons first slots ih =>
    cases i with
    | zero =>
      obtain rfl := Option.some.inj h
      exact List.subset_append_left _ _
    | succ i => exact List.subset_append_of_subset_right _ (ih h)

/-- A node brings no kinds that its tree has not. -/
theorem nodeKinds_nodeAt?_subset {t u : Outline} {path : List Nat} (h : t.nodeAt? path = some u) :
    u.nodeKinds ⊆ t.nodeKinds := by
  induction path generalizing t with
  | nil =>
    obtain rfl := Option.some.inj h
    exact List.Subset.refl _
  | cons i path ih =>
    rw [nodeAt?] at h
    split at h
    · next slot hslot =>
      have hchildren := List.Subset.trans (nodeKinds_subset_slotsKinds hslot) (slotsKinds_children_subset t)
      exact List.Subset.trans (ih h) hchildren
    · cases h

mutual

/-- The kind of an ordinary node is found at the node's place. -/
theorem exists_nodeAt?_of_mem_nodeKinds : ∀ (t : Outline) {k : String}, k ∈ t.nodeKinds →
    ∃ path span slots, t.nodeAt? path = some (.node k span slots)
  | .node kind span slots, k, hk => by
    rcases List.mem_cons.1 hk with rfl | hk
    · exact ⟨[], span, slots, rfl⟩
    · obtain ⟨i, path, span', slots', slot, hslot, hnode⟩ := exists_slot_of_mem_slotsKinds slots hk
      exact ⟨i :: path, span', slots', by simpa [nodeAt?, children, hslot] using hnode⟩
  | .error span slots, k, hk => by
    obtain ⟨i, path, span', slots', slot, hslot, hnode⟩ := exists_slot_of_mem_slotsKinds slots hk
    exact ⟨i :: path, span', slots', by simpa [nodeAt?, children, hslot] using hnode⟩

theorem exists_slot_of_mem_slotsKinds : ∀ (slots : List (Slot Outline)) {k : String},
    k ∈ slotsKinds slots → ∃ (i : Nat) (path : List Nat) (span : Option Span)
      (slots' : List (Slot Outline)) (slot : Slot Outline), slots[i]? = some slot ∧
        slot.tree.nodeAt? path = some (.node k span slots')
  | ⟨field, t⟩ :: slots, k, hk => by
    rcases List.mem_append.1 hk with hk | hk
    · obtain ⟨path, span, slots', hnode⟩ := exists_nodeAt?_of_mem_nodeKinds t hk
      exact ⟨0, path, span, slots', ⟨field, t⟩, rfl, hnode⟩
    · obtain ⟨i, path, span, slots', slot, hslot, hnode⟩ := exists_slot_of_mem_slotsKinds slots hk
      exact ⟨i + 1, path, span, slots', slot, hslot, hnode⟩

end

/-! ### Labels -/

/-- Whether a node is compared under the label of error nodes. -/
def hasErrorLabel (t : Outline) : Bool := t.labelChars == "ERROR".toList

/-- Whether a node is compared under a label of missing nodes. -/
def hasMissingLabel (t : Outline) : Bool :=
  t.labelChars == "MISSING".toList || "MISSING ".toList.isPrefixOf t.labelChars

theorem hasMissingLabel_missing (kind : Option String) (span : Option Span) :
    (missing kind span).hasMissingLabel = true := by
  rw [hasMissingLabel, Bool.or_eq_true, beq_iff_eq, List.isPrefixOf_iff_prefix]
  cases kind with
  | none => exact .inl rfl
  | some kind => exact .inr ⟨_, rfl⟩

theorem hasErrorLabel_missing (kind : Option String) (span : Option Span) :
    (missing kind span).hasErrorLabel = false := by
  cases kind <;> rfl

/-- A kind is ordinary if a node of this kind has no label of error or missing nodes. -/
theorem isOrdinaryKind_iff {k : String} {span : Option Span} {slots : List (Slot Outline)} :
    IsOrdinaryKind k ↔
      (node k span slots).hasErrorLabel = false ∧ (node k span slots).hasMissingLabel = false := by
  have hlabel : (node k span slots).labelChars = k.toList := rfl
  rw [IsOrdinaryKind, hasErrorLabel, hasMissingLabel, hlabel, Bool.or_eq_false_iff, beq_eq_false_iff_ne,
    beq_eq_false_iff_ne, ← List.isPrefixOf_iff_prefix, Bool.not_eq_true, Ne, Ne, Ne, Ne,
    String.toList_inj, String.toList_inj]

/-- Nodes that do not diverge have an error label both or neither, and so with missing labels. -/
theorem labels_of_divergence?_eq_none {e a : Outline} (h : divergence? e a = none) :
    e.hasErrorLabel = a.hasErrorLabel ∧ e.hasMissingLabel = a.hasMissingLabel := by
  obtain ⟨-, hagree, -⟩ := divergence?_eq_none_iff.1 h
  rw [labelsAgree.eq_def] at hagree
  split at hagree
  · simp only [hasErrorLabel_missing, hasMissingLabel_missing, and_self]
  · rw [hasErrorLabel, hasErrorLabel, hasMissingLabel, hasMissingLabel, beq_iff_eq.1 hagree]
    exact ⟨rfl, rfl⟩

/-- Where ordinary nodes have ordinary kinds, the labels tell what a node is. -/
theorem labels_of_ordinary {t : Outline} (h : ∀ k ∈ t.nodeKinds, IsOrdinaryKind k) :
    t.isError = t.hasErrorLabel ∧ t.isMissing = t.hasMissingLabel := by
  cases t with
  | node kind span slots =>
    obtain ⟨herror, hmissing⟩ := isOrdinaryKind_iff.1 (h kind List.mem_cons_self)
    exact ⟨herror.symm, hmissing.symm⟩
  | error span slots => exact ⟨rfl, rfl⟩
  | missing kind span =>
    exact ⟨(hasErrorLabel_missing kind span).symm, (hasMissingLabel_missing kind span).symm⟩

/-- If ordinary nodes have ordinary kinds, error and missing nodes stand where such labels do. -/
theorem places_of_ordinary {t : Outline} (h : ∀ k ∈ t.nodeKinds, IsOrdinaryKind k) (path : List Nat) :
    t.isErrorAt path = (t.nodeAt? path).any hasErrorLabel ∧
      t.isMissingAt path = (t.nodeAt? path).any hasMissingLabel := by
  rw [isErrorAt, isMissingAt]
  cases hu : t.nodeAt? path with
  | none => exact ⟨rfl, rfl⟩
  | some u => exact labels_of_ordinary fun k hk => h k (nodeKinds_nodeAt?_subset hu hk)

/-- Error and missing nodes have their labels whatever kinds other nodes have. -/
theorem labels_of_places {t : Outline} {path : List Nat} :
    (t.isErrorAt path = true → (t.nodeAt? path).any hasErrorLabel = true) ∧
      (t.isMissingAt path = true → (t.nodeAt? path).any hasMissingLabel = true) := by
  rw [isErrorAt, isMissingAt]
  rcases t.nodeAt? path with _ | (_ | _ | ⟨kind, span⟩)
  · exact ⟨id, id⟩
  · exact ⟨nofun, nofun⟩
  · exact ⟨fun _ => rfl, nofun⟩
  · exact ⟨nofun, fun _ => hasMissingLabel_missing kind span⟩

/-- Where a comparison succeeds, both outlines have error labels at the same places, and so with
missing labels. -/
theorem labels_of_compareAt {outer : Context} {path : List String} {e a : Outline}
    (h : compareAt outer path e a = .ok ()) (indices : List Nat) :
    (e.nodeAt? indices).any hasErrorLabel = (a.nodeAt? indices).any hasErrorLabel ∧
      (e.nodeAt? indices).any hasMissingLabel = (a.nodeAt? indices).any hasMissingLabel := by
  have hnodes := compareAt_nodeAt? h indices
  generalize e.nodeAt? indices = t, a.nodeAt? indices = u at hnodes
  cases hnodes with
  | none => exact ⟨rfl, rfl⟩
  | some hcompare =>
    obtain ⟨_, _, hcompare⟩ := hcompare
    exact labels_of_divergence?_eq_none (compareAt_eq_ok_iff_slots.1 hcompare).1

/-! ### Erasing -/

mutual

/-- Erasing neither adds nor removes error and missing nodes. -/
theorem IsErasure.hasErrors_eq : ∀ {e a : Outline}, IsErasure e a → e.hasErrors = a.hasErrors
  | .node .., .node .., .intro _ slots => slots.anyErrors_eq
  | .error .., .error .., _ => rfl
  | .missing .., .missing .., _ => rfl
  | .node .., .error .., .intro head _ => head.elim
  | .node .., .missing .., .intro head _ => head.elim
  | .error .., .node .., .intro head _ => head.elim
  | .error .., .missing .., .intro head _ => head.elim
  | .missing .., .node .., .intro head _ => head.elim
  | .missing .., .error .., .intro head _ => head.elim

theorem AreErasures.anyErrors_eq : ∀ {es as : List (Slot Outline)}, AreErasures es as →
    anyErrors es = anyErrors as
  | _, _, .nil => rfl
  | _, _, .cons tree rest => by rw [anyErrors, anyErrors, tree.hasErrors_eq, rest.anyErrors_eq]

end

/-! ### Expectations that were read -/

/-- **Where an expectation that was read is met, its error and missing nodes stand just where those
of the parse do, if and only if no ordinary node of the parse has the label of such a node.** Then
the expectation has such nodes just if the parse has. In any case, those of the parse are spelled
out. -/
theorem errors_agree_iff {text : String} {e : Outline} (he : Annotation.read text = .ok e)
    {t : ParseTree} (h : compare e (t.outline e.carriesSpans) = .ok ()) :
    ((∀ path, e.isErrorAt path = (t.outline e.carriesSpans).isErrorAt path ∧
        e.isMissingAt path = (t.outline e.carriesSpans).isMissingAt path) ↔
      ∀ k ∈ (t.outline e.carriesSpans).nodeKinds, IsOrdinaryKind k) ∧
    ((∀ k ∈ (t.outline e.carriesSpans).nodeKinds, IsOrdinaryKind k) → e.hasErrors = t.hasError) ∧
    ∀ path, ((t.outline e.carriesSpans).isErrorAt path = true → e.isErrorAt path = true) ∧
      ((t.outline e.carriesSpans).isMissingAt path = true → e.isMissingAt path = true) := by
  have hkinds : ∀ k ∈ e.nodeKinds, IsOrdinaryKind k := by
    intro k hk
    have hkind := Annotation.isKind_of_read he k hk
    exact Annotation.isOrdinaryKind_of_isKind hkind
  rw [← ParseTree.hasErrors_outline e.carriesSpans]
  generalize t.outline e.carriesSpans = a at h
  have hlabels := labels_of_compareAt h
  refine ⟨⟨fun hagree k hk => ?_, fun ha path => ?_⟩, fun ha => ?_, fun path => ?_⟩
  · obtain ⟨path, span, slots, hnode⟩ := exists_nodeAt?_of_mem_nodeKinds a hk
    obtain ⟨herror, hmissing⟩ := places_of_ordinary hkinds path
    rw [(hagree path).1, (hlabels path).1, isErrorAt, hnode] at herror
    rw [(hagree path).2, (hlabels path).2, isMissingAt, hnode] at hmissing
    exact isOrdinaryKind_iff.2 ⟨herror.symm, hmissing.symm⟩
  · obtain ⟨herror, hmissing⟩ := places_of_ordinary hkinds path
    obtain ⟨herror', hmissing'⟩ := places_of_ordinary ha path
    rw [herror, herror', hmissing, hmissing']
    exact hlabels path
  · exact ((compareAt_eq_ok_iff e a ha _ _).1 h).hasErrors_eq
  · obtain ⟨herror, hmissing⟩ := places_of_ordinary hkinds path
    rw [herror, hmissing, (hlabels path).1, (hlabels path).2]
    exact labels_of_places

/-- A call whose argument is in a word that does not belong there, and whose bracket is not closed. -/
def brokenParse : ParseTree :=
  .rule "call" [.token "(" [], .unplaced [.rule "word" []], (ParseTree.supplied ")" []).inField "end"]

/-- An expectation that spells this out, except which bracket it is. -/
def brokenExpected : Outline :=
  .node "call" none
    [⟨none, .error none [⟨none, .node "word" none []⟩]⟩, ⟨some "end", .missing none none⟩]

/-- Such an expectation is met, and errors stand where it says. -/
theorem errors_agree_iff_brokenParse :
    Annotation.read "(call (ERROR (word)) end: (MISSING))" = .ok brokenExpected ∧
      compare brokenExpected (brokenParse.outline brokenExpected.carriesSpans) = .ok () ∧
      (∀ path, brokenExpected.isErrorAt path = (brokenParse.outline false).isErrorAt path ∧
        brokenExpected.isMissingAt path = (brokenParse.outline false).isMissingAt path) ∧
      brokenExpected.hasErrors = brokenParse.hasError := by
  have hwritable : brokenExpected.IsWritable := by decide +kernel
  have htext : brokenExpected.text = "(call (ERROR (word)) end: (MISSING))" := by decide +kernel
  have he : Annotation.read "(call (ERROR (word)) end: (MISSING))" = .ok brokenExpected := by
    rw [← htext]
    exact read_text hwritable (by decide)
  have h : compare brokenExpected (brokenParse.outline brokenExpected.carriesSpans) = .ok () := by
    decide +kernel
  have hordinary : ∀ k ∈ (brokenParse.outline false).nodeKinds, IsOrdinaryKind k := by decide +kernel
  exact ⟨he, h, (errors_agree_iff he h).1.2 hordinary, (errors_agree_iff he h).2.1 hordinary⟩

/-- A call that was parsed without errors, with an ordinary node whose kind is `ERROR`. -/
def namedError : ParseTree := .rule "call" [.rule "ERROR" []]

/-- An ordinary node meets an expectation that spells out an error, if its kind is called so. -/
theorem compare_namedError :
    ∃ e, Annotation.read "(call (ERROR))" = .ok e ∧
      compare e (namedError.outline e.carriesSpans) = .ok () ∧ e.isErrorAt [0] = true ∧
      (namedError.outline e.carriesSpans).isErrorAt [0] = false ∧ e.hasErrors = true ∧
      namedError.hasError = false := by
  have hwritable : (node "call" none [⟨none, error none []⟩]).IsWritable := by decide +kernel
  have htext : (node "call" none [⟨none, error none []⟩]).text = "(call (ERROR))" := by decide +kernel
  refine ⟨.node "call" none [⟨none, .error none []⟩], ?_, by decide +kernel, rfl, rfl, rfl, rfl⟩
  rw [← htext]
  exact read_text hwritable (by decide)

end ParserConformance.Outline
