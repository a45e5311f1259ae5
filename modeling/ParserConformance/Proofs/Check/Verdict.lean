import ParserConformance.Check.Trace

/-!
# The verdict of a check

The verdict depends on the parser only by the tree or crash that it comes to within the waiting
time, and a check has none only if the corpus format breaks down over the fixture.
-/

namespace ParserConformance.Check

open Corpus (Fixture Format)

/-! ### Without the parser -/

/-- What a check has to do, and why. -/
inductive Planned (format : Format) (f : Fixture) : Plan → Prop where
  /-- The fixture is marked as flawed. -/
  | marked {flaw : Corpus.Flaw} (h : f.flaw = some flaw) :
    Planned format f (.settled (some ⟨[.pending, .failed], .failed (.malformed flaw), 0⟩))
  /-- It asks to be skipped. -/
  | skipped (unmarked : f.flaw = none) (h : f.switches.skip = true) :
    Planned format f (.settled (some ⟨[.pending, .skipped], .skipped, 0⟩))
  /-- It demands errors. -/
  | errors (unmarked : f.flaw = none) (h : f.switches = ⟨false, true⟩) : Planned format f (.parse none)
  /-- It expects a tree. -/
  | tree {e : Outline} (unmarked : f.flaw = none) (switches : f.switches = ⟨false, false⟩)
    (h : format.readExpected f = .tree e) : Planned format f (.parse (some e))
  /-- The text of the expected tree is none. -/
  | complaint {text : String} (unmarked : f.flaw = none) (switches : f.switches = ⟨false, false⟩)
    (h : format.readExpected f = .complaint text) :
    Planned format f (.settled (some ⟨[.pending, .failed], .failed (.malformed (.expectation text)), 0⟩))
  /-- The format breaks down over this text. -/
  | breakdown (unmarked : f.flaw = none) (switches : f.switches = ⟨false, false⟩)
    (h : format.readExpected f = .breakdown) : Planned format f (.settled none)

theorem planned (format : Format) (f : Fixture) : Planned format f (plan format f) := by
  rw [plan]
  cases hflaw : f.flaw with
  | some flaw => exact .marked hflaw
  | none =>
    cases hswitches : f.switches with
    | mk skip error =>
      cases skip with
      | true => exact .skipped hflaw (congrArg Corpus.Switches.skip hswitches)
      | false =>
        cases error with
        | true => exact .errors hflaw hswitches
        | false =>
          cases hread : format.readExpected f with
          | tree e => exact .tree hflaw hswitches hread
          | complaint text => exact .complaint hflaw hswitches hread
          | breakdown => exact .breakdown hflaw hswitches hread

theorem planned_of_eq {format : Format} {f : Fixture} {p : Plan} (h : plan format f = p) :
    Planned format f p :=
  h ▸ planned format f

theorem verdict_of_plan_settled {format : Format} {f : Fixture} {trace : Trace}
    (h : plan format f = .settled (some trace)) :
    trace.verdict = .skipped ∨ ∃ flaw, trace.verdict = .failed (.malformed flaw) := by
  cases planned_of_eq h with
  | marked => exact .inr ⟨_, rfl⟩
  | skipped => exact .inl rfl
  | complaint => exact .inr ⟨_, rfl⟩

theorem plan_eq_settled_none_iff {format : Format} {f : Fixture} :
    plan format f = .settled none ↔
      f.flaw = none ∧ f.switches = ⟨false, false⟩ ∧ format.readExpected f = .breakdown := by
  constructor
  · intro h
    cases planned_of_eq h with
    | breakdown unmarked switches h => exact ⟨unmarked, switches, h⟩
  · rintro ⟨unmarked, switches, h⟩
    simp only [plan, unmarked, switches, h, Bool.false_eq_true, if_false]

/-! ### With the parser -/

/-- The verdict on what a parser has come to. -/
def verdictOn (expected : Option Outline) : Except Crash ParseTree → Verdict
  | .error crash => .failed (.crash crash)
  | .ok t =>
    match compareTree expected t with
    | .ok () => .passed
    | .error m => .failed (.mismatch m)

theorem verdict_parseAndCompare (timeout : Option Nat) (a : Answer) (expected : Option Outline) :
    (parseAndCompare timeout a expected).verdict = verdictOn expected (treeOf timeout a) := by
  rw [parseAndCompare, verdictOn.eq_def]
  cases treeOf timeout a with
  | error crash => rfl
  | ok t =>
    cases hc : compareTree expected t with
    | ok _ => simp only [hc]
    | error m => simp only [hc]

theorem verdictOn_ne_incomplete {r : Except Crash ParseTree} (h : r ≠ .error .incomplete)
    (expected : Option Outline) : verdictOn expected r ≠ .failed (.crash .incomplete) := by
  cases r with
  | error crash =>
    rintro he
    cases he
    exact h rfl
  | ok t =>
    rw [verdictOn]
    split <;> nofun

/-- A parser that answers or does not answer leaves no check incomplete. -/
theorem treeOf_ne_incomplete (timeout : Option Nat) (a : Answer) :
    treeOf timeout a ≠ .error .incomplete := by
  have hreply : treeOf.treeOfReply a.reply ≠ .error .incomplete := by
    cases a.reply with
    | tree t =>
      rw [treeOf.treeOfReply]
      split <;> nofun
    | error message => nofun
    | breakdown payload => nofun
  cases timeout with
  | none => exact hreply
  | some limit =>
    rw [treeOf]
    split
    · nofun
    · exact hreply

/-! ### Whole checks -/

/-- The verdict of a whole check, if it has one. -/
def verdict? (format : Format) (timeout : Option Nat) (parser : Parser) (disk : Disk)
    (f : Fixture) : Option Verdict :=
  (run format timeout parser disk f).1.map Trace.verdict

variable {format : Format} {timeout : Option Nat} {f : Fixture}

/-- The verdict depends on the parser only by what this comes to for the source. -/
theorem verdict?_congr {p p' : Parser} {disk disk' : Disk}
    (h : treeOf timeout (p.answer disk f.source).1 = treeOf timeout (p'.answer disk' f.source).1) :
    verdict? format timeout p disk f = verdict? format timeout p' disk' f := by
  rw [verdict?, verdict?, run, run]
  cases plan format f with
  | settled trace => rfl
  | parse expected => simp only [Option.map_some, verdict_parseAndCompare, h]

theorem run_eq_none_iff {p : Parser} {disk : Disk} :
    (run format timeout p disk f).1 = none ↔
      f.flaw = none ∧ f.switches = ⟨false, false⟩ ∧ format.readExpected f = .breakdown := by
  rw [← plan_eq_settled_none_iff, run]
  cases plan format f with
  | settled trace => simp
  | parse expected => simp

/-- No check that has ended has the verdict of one that has not. -/
theorem verdict?_ne_incomplete (format : Format) (timeout : Option Nat) (p : Parser) (disk : Disk)
    (f : Fixture) :
    verdict? format timeout p disk f ≠ some (.failed (.crash .incomplete)) := by
  rw [verdict?, run]
  cases hplan : plan format f with
  | settled trace =>
    cases trace with
    | none => nofun
    | some trace =>
      intro he
      rcases verdict_of_plan_settled hplan with hv | ⟨flaw, hv⟩
      · exact absurd (hv.symm.trans (Option.some.inj he)) nofun
      · exact absurd (hv.symm.trans (Option.some.inj he)) nofun
  | parse expected =>
    simp only [Option.map_some, verdict_parseAndCompare]
    intro he
    exact verdictOn_ne_incomplete (treeOf_ne_incomplete _ _) expected (Option.some.inj he)

end ParserConformance.Check
