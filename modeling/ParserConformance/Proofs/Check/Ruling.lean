import Mathlib.Data.List.Chain
import ParserConformance.Proofs.Check.Verdict
import ParserConformance.Proofs.ParseTree.Errors

/-!
# How a check is decided

`Ruling` is the table by which a fixture is judged, one row for each way in which a check can end.
The rows come in an order: a flaw of the fixture is told before anything else, a fixture that asks
not to be run is skipped whatever its parser would do, and only a tree that was given in time and is
not too deep is compared. `IsFlaw`, `IsCrash` and `IsParse` say what each row asks of the fixture and
of the parser's answer.

## Main statement
- `Check.run_ruling`: a check comes to the verdict of the table, and to no other, through stages that
  may follow each other.
-/

namespace ParserConformance

/-- The stage in which a check with this verdict ends. -/
def Verdict.stage : Verdict → Check.Stage
  | .passed => .passed
  | .skipped => .skipped
  | .failed (.crash _) => .crashed
  | .failed (.malformed _) | .failed (.mismatch _) => .failed

namespace Check

open Corpus (Fixture Format)

/-- The stages of a check follow each other as they may. -/
structure Trace.IsOrderly (trace : Trace) : Prop where
  /-- It begins with nothing done. -/
  begins : trace.stages.head? = some .pending
  /-- It goes on only as it may. -/
  goesOn : trace.stages.IsChain fun stage next => stage.mayBecome next = true
  /-- It ends in the stage that its verdict says. -/
  ends : trace.stages.getLast? = some trace.verdict.stage

/-! ### The table -/

/-- The flaw for which a fixture is not checked. -/
inductive IsFlaw (format : Format) (f : Fixture) : Corpus.Flaw → Prop where
  /-- The fixture is marked with it. -/
  | marked {flaw : Corpus.Flaw} (h : f.flaw = some flaw) : IsFlaw format f flaw
  /-- The expected tree is asked for, but the text for it is none. -/
  | expectation {text : String} (unmarked : f.flaw = none) (switches : f.switches = ⟨false, false⟩)
    (h : format.readExpected f = .complaint text) : IsFlaw format f (.expectation text)

/-- The format breaks down over an expected tree that is asked for. -/
def BreaksDown (format : Format) (f : Fixture) : Prop :=
  f.flaw = none ∧ f.switches = ⟨false, false⟩ ∧ format.readExpected f = .breakdown

/-- The answer is there before the time is up. -/
def InTime (timeout : Option Nat) (a : Answer) : Prop := ∀ limit ∈ timeout, a.delay < limit

/-- How an answer fails to give a tree for comparison. -/
inductive IsCrash (timeout : Option Nat) (a : Answer) : Crash → Prop where
  /-- There is none when the time is up. -/
  | timedOut {limit : Nat} (h : timeout = some limit) (late : limit ≤ a.delay) :
    IsCrash timeout a (.timedOut limit)
  /-- The parser reports an error. -/
  | reported {message : String} (inTime : InTime timeout a) (h : a.reply = .error message) :
    IsCrash timeout a (.reported message)
  /-- The parser breaks down. -/
  | brokeDown {payload : Option String} (inTime : InTime timeout a)
    (h : a.reply = .breakdown payload) : IsCrash timeout a (.brokeDown payload)
  /-- The tree has too many levels. -/
  | tooDeep {t : ParseTree} (inTime : InTime timeout a) (h : a.reply = .tree t)
    (deep : depthLimit < t.depth) : IsCrash timeout a (.tooDeep depthLimit)

/-- An answer gives a tree for comparison. -/
structure IsParse (timeout : Option Nat) (a : Answer) (t : ParseTree) : Prop where
  /-- It is there in time. -/
  inTime : InTime timeout a
  /-- It is the tree. -/
  reply : a.reply = .tree t
  /-- The tree has not too many levels. -/
  depth : t.depth ≤ depthLimit

/-- A fixture without a flaw that is to be run. -/
structure IsDue (format : Format) (f : Fixture) : Prop where
  /-- It has no flaw. -/
  sound : ∀ flaw, ¬IsFlaw format f flaw
  /-- It does not ask to be skipped. -/
  wanted : f.switches.skip = false

/-- The verdict on a fixture and the answer of its parser. -/
inductive Ruling (format : Format) (timeout : Option Nat) (f : Fixture) (a : Answer) : Verdict → Prop where
  /-- A flawed fixture fails, whatever it asks for. -/
  | malformed {flaw : Corpus.Flaw} (h : IsFlaw format f flaw) :
    Ruling format timeout f a (.failed (.malformed flaw))
  /-- A fixture that asks not to be run is skipped. -/
  | skipped (sound : ∀ flaw, ¬IsFlaw format f flaw) (h : f.switches.skip = true) :
    Ruling format timeout f a .skipped
  /-- An answer that gives no tree is a crash. -/
  | crashed {crash : Crash} (due : IsDue format f) (h : IsCrash timeout a crash) :
    Ruling format timeout f a (.failed (.crash crash))
  /-- Errors are demanded, and the parse tree has some. -/
  | erroneous {t : ParseTree} (due : IsDue format f) (switch : f.switches.error = true)
    (parse : IsParse timeout a t) (h : t.hasError = true) : Ruling format timeout f a .passed
  /-- Errors are demanded, but the parse tree has none. -/
  | clean {t : ParseTree} (due : IsDue format f) (switch : f.switches.error = true)
    (parse : IsParse timeout a t) (h : t.hasError = false) :
    Ruling format timeout f a (.failed (.mismatch (.errorsWanted (t.outline false))))
  /-- The outline of the parse tree meets the expected one. -/
  | met {e : Outline} {t : ParseTree} (due : IsDue format f) (switch : f.switches.error = false)
    (expected : format.readExpected f = .tree e) (parse : IsParse timeout a t)
    (h : Outline.compare e (t.outline e.carriesSpans) = .ok ()) : Ruling format timeout f a .passed
  /-- The outline of the parse tree does not meet the expected one. -/
  | missed {e : Outline} {t : ParseTree} {m : Mismatch} (due : IsDue format f)
    (switch : f.switches.error = false) (expected : format.readExpected f = .tree e)
    (parse : IsParse timeout a t) (h : Outline.compare e (t.outline e.carriesSpans) = .error m) :
    Ruling format timeout f a (.failed (.mismatch m))

/-! ### Flaws -/

section

variable {format : Format} {timeout : Option Nat} {f : Fixture} {a : Answer}

theorem plan_of_isFlaw {flaw : Corpus.Flaw} (h : IsFlaw format f flaw) :
    plan format f = .settled (some ⟨[.pending, .failed], .failed (.malformed flaw), 0⟩) := by
  cases h with
  | marked h => rw [plan, h]
  | expectation unmarked switches h => simp only [plan, unmarked, switches, h, Bool.false_eq_true, if_false]

theorem flaw_eq_none (sound : ∀ flaw, ¬IsFlaw format f flaw) : f.flaw = none :=
  Option.eq_none_iff_forall_ne_some.2 fun flaw h => sound flaw (.marked h)

theorem plan_of_skip (sound : ∀ flaw, ¬IsFlaw format f flaw) (h : f.switches.skip = true) :
    plan format f = .settled (some ⟨[.pending, .skipped], .skipped, 0⟩) := by
  simp only [plan, flaw_eq_none sound, h, if_true]

theorem plan_of_error (due : IsDue format f) (h : f.switches.error = true) :
    plan format f = .parse none := by
  simp only [plan, flaw_eq_none due.sound, due.wanted, h, Bool.false_eq_true, if_false, if_true]

theorem plan_of_tree (due : IsDue format f) (h : f.switches.error = false) {e : Outline}
    (he : format.readExpected f = .tree e) : plan format f = .parse (some e) := by
  simp only [plan, flaw_eq_none due.sound, due.wanted, h, he, Bool.false_eq_true, if_false]

/-- Where no errors are demanded and the format does not break down, there is an expected tree. -/
theorem exists_tree_of_due (due : IsDue format f) (h : f.switches.error = false)
    (hb : ¬BreaksDown format f) : ∃ e, format.readExpected f = .tree e := by
  have hswitches : f.switches = ⟨false, false⟩ := congrArg₂ Corpus.Switches.mk due.wanted h
  cases he : format.readExpected f with
  | tree e => exact ⟨e, rfl⟩
  | complaint text => exact absurd (.expectation (flaw_eq_none due.sound) hswitches he) (due.sound _)
  | breakdown => exact absurd ⟨flaw_eq_none due.sound, hswitches, he⟩ hb

/-! ### Answers -/

theorem treeOf_of_inTime (h : InTime timeout a) : treeOf timeout a = treeOf.treeOfReply a.reply := by
  cases timeout with
  | none => rfl
  | some limit => exact if_neg (Nat.not_le.2 (h limit rfl))

theorem treeOf_of_isCrash {crash : Crash} (h : IsCrash timeout a crash) :
    treeOf timeout a = .error crash := by
  cases h with
  | timedOut h late =>
    rw [h]
    exact if_pos late
  | reported inTime h => rw [treeOf_of_inTime inTime, h, treeOf.treeOfReply]
  | brokeDown inTime h => rw [treeOf_of_inTime inTime, h, treeOf.treeOfReply]
  | tooDeep inTime h deep => rw [treeOf_of_inTime inTime, h, treeOf.treeOfReply, if_pos deep]

theorem treeOf_of_isParse {t : ParseTree} (h : IsParse timeout a t) : treeOf timeout a = .ok t := by
  rw [treeOf_of_inTime h.inTime, h.reply, treeOf.treeOfReply, if_neg (Nat.not_lt.2 h.depth)]

/-- An answer gives a tree for comparison or fails to. -/
theorem isCrash_or_isParse (timeout : Option Nat) (a : Answer) :
    (∃ crash, IsCrash timeout a crash) ∨ ∃ t, IsParse timeout a t := by
  by_cases hlate : ∃ limit ∈ timeout, limit ≤ a.delay
  · obtain ⟨limit, h, late⟩ := hlate
    exact .inl ⟨_, .timedOut h late⟩
  · have inTime : InTime timeout a := fun limit h => Nat.lt_of_not_le fun late => hlate ⟨limit, h, late⟩
    cases hreply : a.reply with
    | tree t =>
      rcases Nat.lt_or_ge depthLimit t.depth with deep | hdepth
      · exact .inl ⟨_, .tooDeep inTime hreply deep⟩
      · exact .inr ⟨t, inTime, hreply, hdepth⟩
    | error message => exact .inl ⟨_, .reported inTime hreply⟩
    | breakdown payload => exact .inl ⟨_, .brokeDown inTime hreply⟩

theorem treeOf_eq_ok_iff {t : ParseTree} : treeOf timeout a = .ok t ↔ IsParse timeout a t := by
  constructor
  · intro h
    rcases isCrash_or_isParse timeout a with ⟨crash, hc⟩ | ⟨u, parse⟩
    · exact nomatch (treeOf_of_isCrash hc).symm.trans h
    · rwa [← Except.ok.inj ((treeOf_of_isParse parse).symm.trans h)]
  · exact treeOf_of_isParse

/-- Errors are looked for in the outline, which has some just if the parse tree has. -/
theorem compareTree_none (t : ParseTree) :
    compareTree none t = if t.hasError then .ok () else .error (.errorsWanted (t.outline false)) := by
  simp only [compareTree, ParseTree.hasErrors_outline]

/-! ### Verdicts -/

/-- The table leaves no fixture and no answer out. -/
theorem exists_ruling (hb : ¬BreaksDown format f) (timeout : Option Nat) (a : Answer) :
    ∃ v, Ruling format timeout f a v := by
  by_cases hflaw : ∃ flaw, IsFlaw format f flaw
  · obtain ⟨flaw, h⟩ := hflaw
    exact ⟨_, .malformed h⟩
  have sound : ∀ flaw, ¬IsFlaw format f flaw := not_exists.1 hflaw
  cases hskip : f.switches.skip with
  | true => exact ⟨_, .skipped sound hskip⟩
  | false =>
    have due : IsDue format f := ⟨sound, hskip⟩
    rcases isCrash_or_isParse timeout a with ⟨crash, hc⟩ | ⟨t, parse⟩
    · exact ⟨_, .crashed due hc⟩
    cases herror : f.switches.error with
    | true =>
      cases hh : t.hasError with
      | true => exact ⟨_, .erroneous due herror parse hh⟩
      | false => exact ⟨_, .clean due herror parse hh⟩
    | false =>
      obtain ⟨e, he⟩ := exists_tree_of_due due herror hb
      cases hcompare : Outline.compare e (t.outline e.carriesSpans) with
      | ok _ => exact ⟨_, .met due herror he parse hcompare⟩
      | error m => exact ⟨_, .missed due herror he parse hcompare⟩

theorem plan_of_due (due : IsDue format f) (hb : ¬BreaksDown format f) :
    ∃ expected, plan format f = .parse expected := by
  cases herror : f.switches.error with
  | true => exact ⟨_, plan_of_error due herror⟩
  | false =>
    obtain ⟨e, he⟩ := exists_tree_of_due due herror hb
    exact ⟨_, plan_of_tree due herror he⟩

theorem verdict?_of_plan_parse {parser : Parser} {disk : Disk} {expected : Option Outline}
    (h : plan format f = .parse expected) : verdict? format timeout parser disk f =
      some (verdictOn expected (treeOf timeout (parser.answer disk f.source).1)) := by
  simp only [verdict?, run, h, Option.map_some, verdict_parseAndCompare]

theorem verdict?_of_plan_settled {parser : Parser} {disk : Disk} {trace : Option Trace}
    (h : plan format f = .settled trace) :
    verdict? format timeout parser disk f = trace.map Trace.verdict := by
  rw [verdict?, run, h]

/-- A check comes to the verdict of each row that fits, so no two rows disagree. -/
theorem verdict?_of_ruling {parser : Parser} {disk : Disk} (hb : ¬BreaksDown format f) {v : Verdict}
    (h : Ruling format timeout f (parser.answer disk f.source).1 v) :
    verdict? format timeout parser disk f = some v := by
  cases h with
  | malformed h => rw [verdict?_of_plan_settled (plan_of_isFlaw h), Option.map_some]
  | skipped sound h => rw [verdict?_of_plan_settled (plan_of_skip sound h), Option.map_some]
  | crashed due h =>
    obtain ⟨expected, hplan⟩ := plan_of_due due hb
    rw [verdict?_of_plan_parse hplan, treeOf_of_isCrash h, verdictOn]
  | erroneous due switch parse h =>
    rw [verdict?_of_plan_parse (plan_of_error due switch), treeOf_of_isParse parse]
    simp only [verdictOn, compareTree_none, h, if_true]
  | clean due switch parse h =>
    rw [verdict?_of_plan_parse (plan_of_error due switch), treeOf_of_isParse parse]
    simp only [verdictOn, compareTree_none, h, Bool.false_eq_true, if_false]
  | met due switch expected parse h =>
    rw [verdict?_of_plan_parse (plan_of_tree due switch expected), treeOf_of_isParse parse]
    simp only [verdictOn, compareTree, h]
  | missed due switch expected parse h =>
    rw [verdict?_of_plan_parse (plan_of_tree due switch expected), treeOf_of_isParse parse]
    simp only [verdictOn, compareTree, h]

/-! ### Stages -/

theorem isOrderly_parseAndCompare (timeout : Option Nat) (a : Answer) (expected : Option Outline) :
    (parseAndCompare timeout a expected).IsOrderly := by
  rw [parseAndCompare]
  split
  · exact ⟨rfl, by simp [Stage.mayBecome], rfl⟩
  · split <;> exact ⟨rfl, by simp [Stage.mayBecome], rfl⟩

theorem isOrderly_of_plan_settled {trace : Trace} (h : plan format f = .settled (some trace)) :
    trace.IsOrderly := by
  cases planned_of_eq h <;> exact ⟨rfl, by simp [Stage.mayBecome], rfl⟩

theorem isOrderly_of_run {parser : Parser} {disk : Disk} {trace : Trace}
    (h : (run format timeout parser disk f).1 = some trace) : trace.IsOrderly := by
  rw [run] at h
  cases hplan : plan format f with
  | settled settled =>
    rw [hplan] at h
    obtain rfl : settled = some trace := h
    exact isOrderly_of_plan_settled hplan
  | parse expected =>
    rw [hplan] at h
    obtain rfl := Option.some.inj h
    exact isOrderly_parseAndCompare _ _ _

end

/-- **A check comes to the verdict of the table**, and to no other, through stages that may follow each
other, unless the format breaks down over an expected tree that is asked for. The parser has no part
in a check that is skipped. -/
theorem run_ruling (format : Format) (timeout : Option Nat) (parser : Parser) (disk : Disk)
    (f : Fixture) :
    (BreaksDown format f ∧ (run format timeout parser disk f).1 = none) ∨
      ∃ trace, (run format timeout parser disk f).1 = some trace ∧
        (∀ v, trace.verdict = v ↔ Ruling format timeout f (parser.answer disk f.source).1 v) ∧
        trace.IsOrderly ∧
        (trace.verdict = .skipped → ∀ other, run format timeout other disk f = (some trace, disk)) := by
  by_cases hb : BreaksDown format f
  · exact .inl ⟨hb, run_eq_none_iff.2 hb⟩
  right
  obtain ⟨trace, htrace⟩ := Option.ne_none_iff_exists'.1 fun h => hb (run_eq_none_iff.1 h)
  have hverdict : verdict? format timeout parser disk f = some trace.verdict := by
    rw [verdict?, htrace, Option.map_some]
  have hruling : ∀ v, trace.verdict = v ↔
      Ruling format timeout f (parser.answer disk f.source).1 v := by
    intro v
    constructor
    · rintro rfl
      obtain ⟨v, hv⟩ := exists_ruling hb timeout (parser.answer disk f.source).1
      rwa [Option.some.inj (hverdict.symm.trans (verdict?_of_ruling hb hv))]
    · intro hv
      exact Option.some.inj (hverdict.symm.trans (verdict?_of_ruling hb hv))
  refine ⟨trace, htrace, hruling, isOrderly_of_run htrace, fun hskipped other => ?_⟩
  cases (hruling _).1 hskipped with
  | skipped sound h =>
    simp only [run, plan_of_skip sound h] at htrace ⊢
    rw [htrace]

end Check

end ParserConformance
