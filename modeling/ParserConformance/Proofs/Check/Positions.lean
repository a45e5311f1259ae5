import ParserConformance.Check.Trace
import ParserConformance.Proofs.Outline.FirstDivergence
import ParserConformance.Proofs.ParseTree.KeptNodes

/-!
# Positions in a check

A check brings a parse into the form of an outline with spans just if its expectation carries a span
somewhere. Where the expectation has none, no span of the parse is looked at.

## Main statement
- `Check.sameOutcome_positions`: leaving the spans out changes no verdict, and no check misses one.

Only how an unexpected child is written out depends on the spans of the parse, and so do the trees that
a mismatch shows.
-/

namespace ParserConformance

namespace Outline

/-! ### Where spans are -/

theorem anySpans_eq_false_iff {slots : List (Slot Outline)} :
    anySpans slots = false ↔ ∀ s ∈ slots, s.tree.carriesSpans = false := by
  induction slots with
  | nil => simp [anySpans]
  | cons s slots ih => rw [anySpans, Bool.or_eq_false_iff, ih, List.forall_mem_cons]

theorem carriesSpans_eq_false_iff {t : Outline} :
    t.carriesSpans = false ↔ t.span = none ∧ anySpans t.children = false := by
  cases t with
  | node kind span slots => simp [carriesSpans, Outline.span, children]
  | error span slots => simp [carriesSpans, Outline.span, children]
  | missing kind span => simp [carriesSpans, Outline.span, children, anySpans]

/-- A span at any place is carried by the whole. -/
theorem span_nodeAt?_eq_none {t u : Outline} {path : List Nat} (h : t.nodeAt? path = some u)
    (ht : t.carriesSpans = false) : u.span = none := by
  induction path generalizing t with
  | nil =>
    obtain rfl := Option.some.inj h
    exact (carriesSpans_eq_false_iff.1 ht).1
  | cons i path ih =>
    obtain ⟨s, hs, hu⟩ := nodeAt?_cons_eq_some_iff.1 h
    exact ih hu (anySpans_eq_false_iff.1 (carriesSpans_eq_false_iff.1 ht).2 s (List.mem_of_getElem? hs))

/-- Spans are reported as they are. -/
theorem NodesFail.spans {e a : Outline} {d : Divergence} {s : Span} {x : Option Span}
    (h : NodesFail e a d) (hd : d = .spanDiffers s x) : e.span = some s ∧ a.span = x := by
  cases h with
  | span guard label expected actual =>
    obtain ⟨rfl, rfl⟩ := Divergence.spanDiffers.inj hd
    exact ⟨expected, rfl⟩
  | error | missing | label => cases hd

/-- Of children no spans are reported. -/
theorem SlotsFail.ne_spanDiffers {index : Nat} {s s' : Option (Slot Outline)} {d : Divergence} {span : Span}
    {x : Option Span} (h : SlotsFail index s s' d) : d ≠ .spanDiffers span x := by
  cases h <;> nofun

/-! ### Outlines without spans -/

/-- The outline without any span. -/
def withoutSpans (t : Outline) : Outline := t.erase (fun _ => true) (fun _ => false)

/-- The child without any span. -/
def slotWithoutSpans (s : Slot Outline) : Slot Outline := ⟨s.field, s.tree.withoutSpans⟩

variable (t e a : Outline)

theorem eraseSlots_eq_map (index : Nat) (slots : List (Slot Outline)) :
    eraseSlots (fun _ => true) (fun _ => false) index slots = slots.map slotWithoutSpans := by
  induction slots generalizing index with
  | nil => rfl
  | cons s slots ih =>
    rw [eraseSlots, ih]
    rfl

@[simp] theorem children_withoutSpans : t.withoutSpans.children = t.children.map slotWithoutSpans := by
  cases t with
  | node kind span slots => exact eraseSlots_eq_map 0 slots
  | error span slots => exact eraseSlots_eq_map 0 slots
  | missing kind span => rfl

@[simp] theorem labelChars_withoutSpans : t.withoutSpans.labelChars = t.labelChars := by
  cases t with
  | node | error => rfl
  | missing kind span => cases kind <;> rfl

@[simp] theorem label_withoutSpans : t.withoutSpans.label = t.label := by
  rw [label, label, labelChars_withoutSpans]

@[simp] theorem isMissing_withoutSpans : t.withoutSpans.isMissing = t.isMissing := by
  cases t <;> rfl

@[simp] theorem intrusion?_withoutSpans : intrusion? e a.withoutSpans = intrusion? e a := by
  cases a <;> rfl

@[simp] theorem labelsAgree_withoutSpans : labelsAgree e a.withoutSpans = labelsAgree e a := by
  rw [Bool.eq_iff_iff, labelsAgree_iff_labelPasses, labelsAgree_iff_labelPasses, LabelPasses, LabelPasses,
    label_withoutSpans, isMissing_withoutSpans]

theorem segment_withoutSpans (index : Nat) (s : Slot Outline) :
    segment index (slotWithoutSpans s) = segment index s := by
  rw [segment, segment, slotWithoutSpans, label_withoutSpans]

variable {e a}

/-- The spans of the actual node are not looked at where none is expected. -/
theorem divergence?_withoutSpans (h : e.span = none) :
    divergence? e a.withoutSpans = divergence? e a := by
  have hspan : ∀ u, spanDivergence? e u = none := fun u => by rw [spanDivergence?, h]
  rw [divergence?, divergence?, intrusion?_withoutSpans, labelsAgree_withoutSpans, hspan, hspan,
    label_withoutSpans]

end Outline

/-! ### Outcomes -/

/-- The same divergence, but an unexpected child may be written out without its spans. -/
inductive Divergence.SameKind : Divergence → Divergence → Prop where
  /-- The same in every respect. -/
  | refl (d : Divergence) : SameKind d d
  /-- The same unexpected child. -/
  | unexpectedChild (index : Nat) (t : Outline) :
    SameKind (.unexpectedChild index t.withoutSpans.summary) (.unexpectedChild index t.summary)

/-- Two comparisons come to the same, but for the trees that their mismatches show. -/
inductive SameOutcome : Except Mismatch Unit → Except Mismatch Unit → Prop where
  /-- Both succeed. -/
  | ok : SameOutcome (.ok ()) (.ok ())
  /-- Both fail, at the same place and in the same way. -/
  | error {m m' : Mismatch} (path : m.path = m'.path) (kind : m.divergence.SameKind m'.divergence) :
    SameOutcome (.error m) (.error m')

theorem SameOutcome.refl (x : Except Mismatch Unit) : SameOutcome x x := by
  cases x with
  | ok => exact .ok
  | error m => exact .error rfl (.refl _)

theorem SameOutcome.bind {x x' y y' : Except Mismatch Unit} (h : SameOutcome x x') (h' : SameOutcome y y') :
    SameOutcome (x >>= fun _ => y) (x' >>= fun _ => y') := by
  cases h with
  | ok => exact h'
  | error path kind => exact .error path kind

namespace Outline

variable {e a : Outline} {outer outer' : Context} {way : List String}

theorem sameOutcome_of_slots (hspan : e.span = none)
    (hslots : ∀ inner inner', SameOutcome
      (compareSlots inner way 0 e.children (a.children.map slotWithoutSpans))
      (compareSlots inner' way 0 e.children a.children)) :
    SameOutcome (compareAt outer way e a.withoutSpans) (compareAt outer' way e a) := by
  rw [compareAt_eq_slots, compareAt_eq_slots, divergence?_withoutSpans hspan, children_withoutSpans]
  cases divergence? e a with
  | some d => exact .error rfl (.refl d)
  | none => exact hslots _ _

theorem sameOutcome_noneBeyond (inner inner' : Context) (way : List String) (index : Nat)
    (slots : List (Slot Outline)) :
    SameOutcome (noneBeyond inner way index (slots.map slotWithoutSpans))
      (noneBeyond inner' way index slots) := by
  cases slots with
  | nil => exact .ok
  | cons s slots => exact .error rfl (.unexpectedChild index s.tree)

mutual

theorem sameOutcome_compareAt : ∀ (e : Outline), e.carriesSpans = false → ∀ a outer outer' way,
    SameOutcome (compareAt outer way e a.withoutSpans) (compareAt outer' way e a)
  | .node kind span slots, h, a, _, _, way => by
    obtain ⟨hspan, hslots⟩ := carriesSpans_eq_false_iff.1 h
    exact sameOutcome_of_slots hspan fun inner inner' =>
      sameOutcome_compareSlots slots hslots a.children inner inner' way 0
  | .error span slots, h, a, _, _, way => by
    obtain ⟨hspan, hslots⟩ := carriesSpans_eq_false_iff.1 h
    exact sameOutcome_of_slots hspan fun inner inner' =>
      sameOutcome_compareSlots slots hslots a.children inner inner' way 0
  | .missing kind span, h, a, _, _, way =>
    sameOutcome_of_slots (carriesSpans_eq_false_iff.1 h).1 fun inner inner' =>
      sameOutcome_noneBeyond inner inner' way 0 a.children

theorem sameOutcome_compareSlots : ∀ (es : List (Slot Outline)), anySpans es = false →
    ∀ as inner inner' way index, SameOutcome
      (compareSlots inner way index es (as.map slotWithoutSpans)) (compareSlots inner' way index es as)
  | [], _, as, inner, inner', way, index => sameOutcome_noneBeyond inner inner' way index as
  | ⟨field, t⟩ :: es, _, [], inner, inner', way, index => .error rfl (.refl _)
  | ⟨field, t⟩ :: es, h, s :: as, inner, inner', way, index => by
    obtain ⟨ht, hes⟩ := Bool.or_eq_false_iff.1 h
    rw [List.map_cons, compareSlots, compareSlots, segment_withoutSpans, slotWithoutSpans]
    dsimp only
    split
    · exact (sameOutcome_compareAt t ht s.tree inner inner' _).bind
        (sameOutcome_compareSlots es hes as inner inner' way (index + 1))
    · exact .error rfl (.refl _)

end

end Outline

namespace ParseTree

open Outline (slotWithoutSpans)

variable (t : ParseTree)

theorem frame_false (slots : List (Slot Outline)) :
    frame false t (slots.map slotWithoutSpans) = (frame true t slots).withoutSpans := by
  rw [frame, frame]
  split
  · rfl
  · split <;> rw [Outline.withoutSpans, Outline.erase, Outline.eraseSlots_eq_map] <;> rfl

mutual

theorem slots_false : ∀ t : ParseTree, slots false t = (slots true t).map slotWithoutSpans
  | ⟨kind, named, field, isError, isMissing, start, stop, children⟩ => by
    rw [slots, slots, slotsAll_false children, frame_false]
    split <;> rfl

theorem slotsAll_false : ∀ ts : List ParseTree, slotsAll false ts = (slotsAll true ts).map slotWithoutSpans
  | [] => rfl
  | t :: ts => by rw [slotsAll, slotsAll, List.map_append, slots_false t, slotsAll_false ts]

end

/-- Without positions the outline is the same but for the spans. -/
theorem outline_false : t.outline false = (t.outline true).withoutSpans := by
  rw [outline, outline, slotsAll_false, frame_false]

theorem span_outline_true : (t.outline true).span = some ⟨t.start, t.stop⟩ := by
  rw [outline, frame]
  split
  · rfl
  · split <;> rfl

end ParseTree

/-! ### Checks -/

namespace Check

/-- What a comparison comes to does not hang on spans that no expectation looks at. -/
theorem sameOutcome_carriesSpans (e : Outline) (t : ParseTree) :
    SameOutcome (Outline.compare e (t.outline e.carriesSpans)) (Outline.compare e (t.outline true)) := by
  cases h : e.carriesSpans with
  | true => exact .refl _
  | false =>
    rw [ParseTree.outline_false, Outline.compare, Outline.compare, Outline.label_withoutSpans]
    exact Outline.sameOutcome_compareAt e h _ _ _ _

/-- Where an expectation has a span, each node of the parse that it is compared with has one. -/
theorem span_nodeAt?_ne_none {e u v : Outline} {t : ParseTree} {place : List Nat}
    (hu : e.nodeAt? place = some u) (hspan : u.span ≠ none)
    (hv : (t.outline e.carriesSpans).nodeAt? place = some v) : v.span ≠ none := by
  cases h : e.carriesSpans with
  | false => exact absurd (Outline.span_nodeAt?_eq_none hu h) hspan
  | true =>
    rw [h] at hv
    obtain ⟨n, -, rfl, -⟩ := ParseTree.source_append hv
    rw [ParseTree.span_outline_true]
    exact Option.some_ne_none _

/-- No check misses a span in the parse. -/
theorem compareTree_ne_spanMissing (expected : Option Outline) (t : ParseTree) (path : List String)
    (span : Span) (expectedContext actualContext : String) :
    compareTree expected t ≠ .error ⟨path, .spanDiffers span none, expectedContext, actualContext⟩ := by
  intro h
  cases expected with
  | none =>
    rw [compareTree] at h
    split at h <;> cases h
  | some e =>
    obtain ⟨place, -, fails⟩ := Outline.firstFails_of_compareAt h
    cases fails with
    | node _ hu hv fails _ report =>
      obtain ⟨hexpected, hactual⟩ := fails.spans report.divergence.symm
      exact span_nodeAt?_ne_none hu (hexpected ▸ Option.some_ne_none span) hv hactual
    | slot _ _ _ fails report => exact fails.ne_spanDiffers report.divergence.symm

/-- **Leaving out positions changes no verdict.** A check compares a parse without its spans where the
expectation carries none; this comes to the same as the comparison with all spans, and it never misses a
span. -/
theorem sameOutcome_positions (t : ParseTree) :
    (∀ e : Outline,
        SameOutcome (Outline.compare e (t.outline e.carriesSpans)) (Outline.compare e (t.outline true))) ∧
      ∀ expected path span expectedContext actualContext,
        compareTree expected t ≠ .error ⟨path, .spanDiffers span none, expectedContext, actualContext⟩ :=
  ⟨fun e => sameOutcome_carriesSpans e t, fun expected => compareTree_ne_spanMissing expected t⟩

end Check

end ParserConformance
