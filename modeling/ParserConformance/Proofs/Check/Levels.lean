import ParserConformance.Proofs.Annotation.Recognition
import ParserConformance.Proofs.Check.Nesting
import ParserConformance.Proofs.Check.PrintedExpectation

/-!
# What a check compares has few levels

Outlines are made and compared by recursion, so they must not nest too deep. Two gates see to that: an
annotation of more than 256 levels is not read, and a parse of more than 256 levels is a crash. The second
gate finds the levels by a walk that ends on every tree, and the outline of a parse has no more levels than
the parse. So behind the gates no outline has more than 256 levels.

## Main statement
- `Check.compares_levels_le`: the walk finds the height of every tree, and whatever a check compares has at
  most 256 levels.

A corpus format that has expected trees from elsewhere than annotations answers for their levels itself.
-/

namespace ParserConformance

namespace Corpus

/-- Every expected tree of the format is read from an annotation, wherever the format has this from. -/
def Format.ReadsAnnotations (format : Format) : Prop :=
  ∀ f e, format.readExpected f = .tree e → ∃ text, Annotation.read text = .ok e

theorem readsAnnotations_blockText : Format.blockText.ReadsAnnotations :=
  fun f _ h => ⟨f.expected, Format.readExpected_blockText_eq_tree_iff.1 h⟩

end Corpus

namespace Check

open Corpus (Fixture Format)

/-- The check of a fixture compares an expected outline with the outline of a parse. -/
structure Compares (format : Format) (timeout : Option Nat) (parser : Parser) (disk : Disk) (f : Fixture)
    (e : Outline) (t : ParseTree) : Prop where
  /-- The fixture is to be parsed, and this is expected. -/
  expected : plan format f = .parse (some e)
  /-- This is the parse. -/
  parse : treeOf timeout (parser.answer disk f.source).1 = .ok t

/-- The verdict that a comparison comes to. -/
def verdictOfComparison : Except Mismatch Unit → Verdict
  | .ok () => .passed
  | .error m => .failed (.mismatch m)

section

variable {format : Format} {timeout : Option Nat} {parser : Parser} {disk : Disk} {f : Fixture}
  {e : Outline} {t : ParseTree}

/-! ### Which checks compare -/

theorem comparing_not_mem_of_plan_settled {trace : Trace} (h : plan format f = .settled (some trace)) :
    .comparing ∉ trace.stages := by
  cases planned_of_eq h <;> simp

theorem exists_treeOf_of_comparing {a : Answer} {expected : Option Outline}
    (h : .comparing ∈ (parseAndCompare timeout a expected).stages) : ∃ t, treeOf timeout a = .ok t := by
  rw [parseAndCompare] at h
  cases htree : treeOf timeout a with
  | ok t => exact ⟨t, rfl⟩
  | error crash => simp [htree] at h

/-- A check that comes to comparing, and does not just demand errors, compares two outlines. -/
theorem exists_compares {trace : Trace} (h : (run format timeout parser disk f).1 = some trace)
    (hstage : .comparing ∈ trace.stages) (herror : f.switches.error = false) :
    ∃ e t, Compares format timeout parser disk f e t := by
  rw [run] at h
  cases hplan : plan format f with
  | settled settled =>
    rw [hplan] at h
    obtain rfl : settled = some trace := h
    exact absurd hstage (comparing_not_mem_of_plan_settled hplan)
  | parse expected =>
    rw [hplan] at h
    obtain rfl := Option.some.inj h
    obtain ⟨t, ht⟩ := exists_treeOf_of_comparing hstage
    cases planned_of_eq hplan with
    | errors _ hswitches =>
      rw [hswitches] at herror
      cases herror
    | @tree e => exact ⟨e, t, hplan, ht⟩

/-- Its verdict is what the comparison comes to. -/
theorem Compares.verdict?_eq (h : Compares format timeout parser disk f e t) :
    verdict? format timeout parser disk f =
      some (verdictOfComparison (Outline.compare e (t.outline e.carriesSpans))) := by
  rw [verdict?_of_plan_parse h.expected, h.parse, verdictOn, compareTree]
  cases Outline.compare e (t.outline e.carriesSpans) <;> rfl

/-! ### How many levels they have -/

theorem Compares.height_actual_le (h : Compares format timeout parser disk f e t) :
    (t.outline e.carriesSpans).height ≤ depthLimit := by
  have hdepth := (treeOf_eq_ok_iff.1 h.parse).depth
  rw [ParseTree.depth_eq_height] at hdepth
  exact (ParseTree.height_outline_le _ t).trans hdepth

theorem Compares.height_expected_le (h : Compares format timeout parser disk f e t)
    (hformat : format.ReadsAnnotations) : e.height ≤ depthLimit := by
  cases planned_of_eq h.expected with
  | tree _ _ hread =>
    obtain ⟨text, htext⟩ := hformat f e hread
    exact Annotation.height_le_of_read htext

end

/-- **The depth limit bounds all that stands behind it.** The walk over a tree ends and finds its height,
which is one level above the highest child. No outline is higher than its tree, and no annotation is read as
a tree of more than 256 levels. A check whose format reads annotations compares trees of at most 256 levels
on both sides, and on the side of the parse each check does. -/
theorem compares_levels_le :
    (∀ t : ParseTree, ParseTree.Walk.EndsWith t t.depth ∧ t.depth = t.height ∧
        t.height = 1 + (t.children.map ParseTree.height).foldr max 0) ∧
      (∀ positions (t : ParseTree), (t.outline positions).height ≤ t.depth) ∧
      (∀ text e, Annotation.read text = .ok e → e.height ≤ 256) ∧
      Format.blockText.ReadsAnnotations ∧
      ∀ format timeout parser disk f,
        (∀ trace, (run format timeout parser disk f).1 = some trace → .comparing ∈ trace.stages →
            f.switches.error = false → ∃ e t, Compares format timeout parser disk f e t) ∧
          ∀ e t, Compares format timeout parser disk f e t →
            verdict? format timeout parser disk f =
                some (verdictOfComparison (Outline.compare e (t.outline e.carriesSpans))) ∧
              (t.outline e.carriesSpans).height ≤ 256 ∧ (format.ReadsAnnotations → e.height ≤ 256) := by
  refine ⟨fun t => ⟨ParseTree.Walk.endsWith_depth t, ParseTree.depth_eq_height t, ?_⟩,
    fun positions t => ?_, fun text e h => Annotation.height_le_of_read h, Corpus.readsAnnotations_blockText,
    fun format timeout parser disk f => ⟨fun trace h hstage herror => exists_compares h hstage herror,
      fun e t h => ⟨h.verdict?_eq, h.height_actual_le, h.height_expected_le⟩⟩⟩
  · rw [ParseTree.height_eq, ParseTree.heightAll_eq_foldr, Nat.add_comm]
  · rw [ParseTree.depth_eq_height]
    exact ParseTree.height_outline_le positions t

theorem height_tower (levels : Nat) : (tower levels).height = levels + 1 := by
  suffices h : ∀ t, (ParseTree.nest (fun t => .rule "a" [t]) levels t).height = levels + t.height from h _
  induction levels with
  | zero => exact fun t => (Nat.zero_add _).symm
  | succ levels ih =>
    intro t
    have hrule : (ParseTree.rule "a" [t]).height = t.height + 1 := by
      rw [ParseTree.rule, ParseTree.height, ParseTree.heightAll, ParseTree.heightAll, Nat.max_zero]
    rw [ParseTree.nest, ih, hrule]
    omega

/-- As many levels as are allowed. -/
def highest : ParseTree := tower 255

/-- A fixture that expects them. -/
def highestFixture : Fixture := { towerFixture with expected := (highest.outline false).pretty }

theorem depth_highest : highest.depth = 256 := (ParseTree.depth_eq_height _).trans (height_tower 255)

theorem read_highest : Annotation.read highestFixture.expected = .ok (highest.outline false) := by
  have hwritable : (highest.outline false).IsWritable := by decide +kernel
  exact Outline.read_pretty hwritable ((ParseTree.height_outline_le _ _).trans (height_tower 255).le)

/-- Trees of 256 levels are compared with each other. -/
theorem compares_levels_le_highest :
    Compares .blockText none (.ofAnswers fun _ => ⟨0, .tree highest⟩) { here := [], entries := [] }
        highestFixture (highest.outline false) highest ∧
      highest.depth = 256 ∧ (highest.outline false).height = 256 := by
  have hcompares : Compares .blockText none (.ofAnswers fun _ => ⟨0, .tree highest⟩)
      { here := [], entries := [] } highestFixture (highest.outline false) highest :=
    ⟨plan_of_read rfl rfl read_highest, treeOf_of_isParse ⟨nofun, rfl, depth_highest.le⟩⟩
  obtain ⟨-, -, hexpected⟩ := (compares_levels_le.2.2.2.2 _ _ _ _ _).2 _ _ hcompares
  refine ⟨hcompares, depth_highest, Nat.le_antisymm (hexpected Corpus.readsAnnotations_blockText) ?_⟩
  decide +kernel

end Check

end ParserConformance
