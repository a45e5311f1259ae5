import ParserConformance.Proofs.Annotation.Reading
import ParserConformance.Proofs.Check.Ruling
import ParserConformance.Proofs.Outline.Comparison
import ParserConformance.Proofs.ParseTree.Depth
import ParserConformance.Proofs.ParseTree.Nodes

/-!
# Printed trees as expectations

The outline of a parse tree, printed over lines as corpus files have it, is an expectation that
the same tree meets, with positions and without.

## Main statement
- `Check.run_printed`: a fixture that expects the printed outline of what its parser answers passes.
-/

namespace ParserConformance

namespace ParseTree

/-! ### Trees that can be printed -/

/-- A node whose label and positions can be written and read back. -/
structure HasPrintableLabel (t : ParseTree) : Prop where
  /-- An ordinary node has a word as its kind. -/
  kind : t.isError = false → t.isMissing = false → IsKind t.kind
  /-- The kind of a missing node survives its quotation. -/
  missingKind : t.isMissing = true → IsMissingKind t.kind
  /-- The start has coordinates below 2^64. -/
  start : t.start.Fits
  /-- The end has coordinates below 2^64. -/
  stop : t.stop.Fits

/-- A tree whose outline can be written and read back. What is said of kinds and fields concerns
only the root and the nodes that the outline keeps. -/
structure IsPrintable (t : ParseTree) : Prop where
  /-- The root can be written. -/
  root : t.HasPrintableLabel
  /-- The kept nodes below the root can be written. -/
  label : ∀ n ∈ nodesAll t.children, n.isKept = true → n.HasPrintableLabel
  /-- The fields of kept nodes below the root are words. -/
  field : ∀ n ∈ nodesAll t.children, n.isKept = true → ∀ f ∈ n.field, IsWord f

instance (t : ParseTree) : Decidable t.HasPrintableLabel :=
  decidable_of_iff ((t.isError = false → t.isMissing = false → IsKind t.kind) ∧
      (t.isMissing = true → IsMissingKind t.kind) ∧ t.start.Fits ∧ t.stop.Fits)
    ⟨fun ⟨hk, hm, hs, he⟩ => ⟨hk, hm, hs, he⟩, fun h => ⟨h.kind, h.missingKind, h.start, h.stop⟩⟩

instance (t : ParseTree) : Decidable t.IsPrintable :=
  decidable_of_iff (t.HasPrintableLabel ∧
      (∀ n ∈ nodesAll t.children, n.isKept = true → n.HasPrintableLabel) ∧
      ∀ n ∈ nodesAll t.children, n.isKept = true → ∀ f ∈ n.field, IsWord f)
    ⟨fun ⟨hr, hl, hf⟩ => ⟨hr, hl, hf⟩, fun h => ⟨h.root, h.label, h.field⟩⟩

/-! ### Their outlines -/

theorem isWritable_frame (positions : Bool) {t : ParseTree} (h : t.HasPrintableLabel)
    {slots : List (Slot Outline)} (hs : Outline.SlotsWritable slots) :
    (frame positions t slots).IsWritable := by
  have hspan : ∀ s ∈ (if positions then some (Span.mk t.start t.stop) else none), s.Fits := by
    intro s hs
    cases positions with
    | false => cases hs
    | true =>
      obtain rfl := Option.some.inj hs
      exact ⟨h.start, h.stop⟩
  rw [frame]
  by_cases hm : t.isMissing = true
  · rw [if_pos hm]
    refine ⟨fun k hk => ?_, hspan⟩
    split at hk
    · cases hk
    · obtain rfl := Option.some.inj hk
      exact h.missingKind hm
  · rw [if_neg hm]
    by_cases he : t.isError = true
    · rw [if_pos he]
      exact ⟨hspan, hs⟩
    · rw [if_neg he]
      exact ⟨h.kind (by simpa using he) (by simpa using hm), hspan, hs⟩

theorem slotsWritable_append {slots slots' : List (Slot Outline)} (h : Outline.SlotsWritable slots)
    (h' : Outline.SlotsWritable slots') : Outline.SlotsWritable (slots ++ slots') := by
  induction slots with
  | nil => exact h'
  | cons slot slots ih => exact ⟨h.1, h.2.1, ih h.2.2⟩

mutual

theorem slotsWritable_slots (positions : Bool) : ∀ t : ParseTree,
    (∀ n ∈ nodes t, n.isKept = true → n.HasPrintableLabel ∧ ∀ f ∈ n.field, IsWord f) →
      Outline.SlotsWritable (slots positions t)
  | ⟨kind, named, field, isError, isMissing, start, stop, children⟩, h => by
    obtain ⟨hroot, hbelow⟩ := List.forall_mem_cons.1 h
    have ih := slotsWritable_slotsAll positions children hbelow
    rw [slots]
    split
    · next hk =>
      obtain ⟨hl, hf⟩ := hroot hk
      exact ⟨hf, isWritable_frame positions ⟨hl.kind, hl.missingKind, hl.start, hl.stop⟩ ih, trivial⟩
    · exact ih

theorem slotsWritable_slotsAll (positions : Bool) : ∀ ts : List ParseTree,
    (∀ n ∈ nodesAll ts, n.isKept = true → n.HasPrintableLabel ∧ ∀ f ∈ n.field, IsWord f) →
      Outline.SlotsWritable (slotsAll positions ts)
  | [], _ => trivial
  | t :: ts, h => by
    obtain ⟨ht, hts⟩ := List.forall_mem_append.1 h
    exact slotsWritable_append (slotsWritable_slots positions t ht)
      (slotsWritable_slotsAll positions ts hts)

end

/-- The outline of a tree that can be printed can be written. -/
theorem isWritable_outline {t : ParseTree} (h : t.IsPrintable) (positions : Bool) :
    (t.outline positions).IsWritable :=
  isWritable_frame positions h.root
    (slotsWritable_slotsAll positions t.children fun n hn hk => ⟨h.label n hn hk, h.field n hn hk⟩)

/-- Reading undoes printing the outline of a tree that is not too deep. -/
theorem read_pretty_outline {t : ParseTree} (h : t.IsPrintable) (hd : t.depth ≤ depthLimit)
    (positions : Bool) : Annotation.read (t.outline positions).pretty = .ok (t.outline positions) := by
  rw [depth_eq_height] at hd
  exact Outline.read_pretty (isWritable_outline h positions)
    (Nat.le_trans (height_outline_le positions t) hd)

end ParseTree

namespace Check

open Corpus (Fixture Format)

/-! ### The check -/

theorem plan_of_read {f : Fixture} {e : Outline} (hflaw : f.flaw = none)
    (hswitches : f.switches = ⟨false, false⟩) (hread : Annotation.read f.expected = .ok e) :
    plan .blockText f = .parse (some e) := by
  simp only [plan, hflaw, hswitches, Format.readExpected_blockText_eq_tree_iff.2 hread]
  rfl

theorem plan_printed {t : ParseTree} (h : t.IsPrintable) (hd : t.depth ≤ depthLimit)
    (positions : Bool) {f : Fixture} (hflaw : f.flaw = none) (hswitches : f.switches = ⟨false, false⟩)
    (hexpected : f.expected = (t.outline positions).pretty) :
    plan .blockText f = .parse (some (t.outline positions)) := by
  refine plan_of_read hflaw hswitches ?_
  rw [hexpected]
  exact ParseTree.read_pretty_outline h hd positions

theorem compareTree_outline (t : ParseTree) (positions : Bool) :
    compareTree (some (t.outline positions)) t = .ok () := by
  simp only [compareTree, ParseTree.carriesSpans_outline]
  exact Outline.compare_self _

/-- A fixture that expects the printed outline of the tree which its parser answers passes, whether
the outline has positions or not. -/
theorem run_printed {t : ParseTree} (h : t.IsPrintable) (hd : t.depth ≤ depthLimit)
    (positions : Bool) {f : Fixture} (hflaw : f.flaw = none) (hswitches : f.switches = ⟨false, false⟩)
    (hexpected : f.expected = (t.outline positions).pretty) {parser : Parser} {disk : Disk}
    (hreply : (parser.answer disk f.source).1.reply = .tree t) {timeout : Option Nat}
    (htime : ∀ limit ∈ timeout, (parser.answer disk f.source).1.delay < limit) :
    (run .blockText timeout parser disk f).1.map Trace.verdict = some .passed := by
  simp only [run, plan_printed h hd positions hflaw hswitches hexpected, parseAndCompare,
    treeOf_of_isParse ⟨htime, hreply, hd⟩, compareTree_outline]
  rfl

/-- A call with a field, an anonymous node around an argument, a missing bracket and a stretch that
could not be placed. -/
def brokenCall : ParseTree :=
  .rule "program"
    [(ParseTree.rule "call" [(ParseTree.rule "name" []).inField "ERROR",
        (ParseTree.token "(" [(ParseTree.rule "number_1" []).inField "argument"]).inField "no word",
        ParseTree.supplied "\")" []]).placed ⟨0, 0⟩ ⟨1, 12⟩,
      (ParseTree.unplaced [ParseTree.supplied "" [], ParseTree.token "%" []]).placed ⟨1, 13⟩ ⟨1, 14⟩]

/-- A fixture that expects it, with positions. -/
def brokenCallFixture : Fixture :=
  ⟨"Broken call", "ERROR\n(number_1",
    "(program [0, 0] - [0, 0]\n" ++
      "  (call [0, 0] - [1, 12]\n" ++
      "    ERROR: (name [0, 0] - [0, 0])\n" ++
      "    argument: (number_1 [0, 0] - [0, 0])\n" ++
      "    (MISSING \"\\\")\" [0, 0] - [0, 0]))\n" ++
      "  (ERROR [1, 13] - [1, 14]\n" ++
      "    (MISSING [0, 0] - [0, 0])))", 8, ⟨false, false⟩, ⟨⟨"calls.txt"⟩, 1⟩, none⟩

theorem run_printed_brokenCall :
    brokenCall.IsPrintable ∧ brokenCall.depth ≤ depthLimit ∧
      brokenCallFixture.expected = (brokenCall.outline true).pretty ∧
      (run .blockText (some 10) (.ofAnswers fun _ => ⟨5, .tree brokenCall⟩) { here := [], entries := [] }
        brokenCallFixture).1.map Trace.verdict = some .passed := by
  have hp : brokenCall.IsPrintable := by decide
  have hd : brokenCall.depth ≤ depthLimit := by
    rw [ParseTree.depth_eq_height]
    decide
  have he : brokenCallFixture.expected = (brokenCall.outline true).pretty := by decide +kernel
  refine ⟨hp, hd, he, run_printed hp hd true rfl rfl he rfl ?_⟩
  intro limit hl
  obtain rfl := Option.some.inj hl
  decide

end Check

end ParserConformance
