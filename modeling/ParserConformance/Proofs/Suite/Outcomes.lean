import ParserConformance.Proofs.Check.Verdict
import ParserConformance.Proofs.Suite.Board
import ParserConformance.Suite.Run

/-!
# The outcomes of a suite

If what the parser comes to for a source text does not depend on the disk, neither do the verdicts
of checks, so all schedules of a suite end with the same outcomes: for each selected fixture the one
that it has when it is checked alone.

## Main statement
- `SuiteRunner.outcomes_anyOrder`: outcomes depend neither on jobs and order nor on other fixtures.
-/

namespace ParserConformance

open Corpus (Fixture)
open Suite (Board)

/-- What the parser comes to for a source text within the waiting time is the same on every disk. -/
def Parser.IsSteady (p : Parser) (timeout : Option Nat) : Prop :=
  ∀ disk disk' source, Check.treeOf timeout (p.answer disk source).1 =
    Check.treeOf timeout (p.answer disk' source).1

namespace SuiteRunner

/-- The same runner with other limits to how many checks run at a time. -/
def withJobs (c : SuiteRunner) (jobs : Option Nat) (processors : Nat) : SuiteRunner :=
  { c with config := { c.config with jobs }, processors }

/-- The outcome of a fixture that is checked alone. -/
def outcomeAlone (c : SuiteRunner) (handle : Handle) (disk : Disk) (f : Fixture) : Outcome :=
  Board.ownOutcome handle.id f (Check.verdict? c.corpusFormat c.config.timeout handle.parser disk f)

/-- The board on which no check of the selected fixtures has begun. -/
def board (c : SuiteRunner) (handle : Handle) (disk : Disk) (fixtures : List Fixture) : Board :=
  .initial c.jobs handle.id disk (c.select fixtures)

/-- Some schedule of the checks of the selected fixtures comes to its end at the board `b`. -/
def EndsAt (c : SuiteRunner) (handle : Handle) (disk : Disk) (fixtures : List Fixture) (b : Board) :
    Prop :=
  ∃ ms, (c.board handle disk fixtures).moves (c.check handle) ms = some b ∧ b.isOver = true

variable {c : SuiteRunner} {handle : Handle}

/-! ### Outcomes of fixtures -/

theorem outcomeAlone_congr {parser : Parser} {disk disk' : Disk} {f : Fixture}
    (h : Check.treeOf c.config.timeout (parser.answer disk f.source).1 =
      Check.treeOf c.config.timeout (handle.parser.answer disk' f.source).1) :
    c.outcomeAlone { handle with parser } disk f = c.outcomeAlone handle disk' f := by
  rw [outcomeAlone, outcomeAlone, Check.verdict?_congr h]

theorem outcomeAlone_incomplete_iff {disk : Disk} {f : Fixture} :
    (c.outcomeAlone handle disk f).verdict = .failed (.crash .incomplete) ↔
      (c.check handle disk f).1 = none := by
  have hne := Check.verdict?_ne_incomplete c.corpusFormat c.config.timeout handle.parser disk f
  rw [outcomeAlone, Board.ownOutcome, Board.outcome, check]
  rw [Check.verdict?] at hne ⊢
  cases hr : (Check.run c.corpusFormat c.config.timeout handle.parser disk f).1 with
  | none => simp
  | some trace =>
    rw [hr] at hne
    simpa using hne

theorem outcomes_of_endsAt (hsteady : handle.parser.IsSteady c.config.timeout) {disk : Disk}
    {fixtures : List Fixture} {b : Board} (h : c.EndsAt handle disk fixtures b) (disk' : Disk) :
    b.outcomes = (c.select fixtures).map (c.outcomeAlone handle disk') := by
  obtain ⟨ms, hms, hover⟩ := h
  have hcheck : ∀ d f, (c.check handle d f).1.map Check.Trace.verdict =
      Check.verdict? c.corpusFormat c.config.timeout handle.parser disk' f :=
    fun d f => Check.verdict?_congr (hsteady d disk' f.source)
  exact Board.outcomes_eq (Board.moves_sound hcheck (Board.sound_initial ..) hms) hover

/-! ### Suites -/

theorem select_append (c : SuiteRunner) (fs gs : List Fixture) :
    c.select (fs ++ gs) = c.select fs ++ c.select gs := by
  rw [select, select, select]
  split
  · exact List.filter_append ..
  · rfl

/-- The suite runs its checks one after the other, which is one of the schedules. -/
theorem endsAt_runBoard (c : SuiteRunner) (handle : Handle) (disk : Disk) (fixtures : List Fixture) :
    c.EndsAt handle disk fixtures (c.runBoard disk handle (c.select fixtures)) := by
  obtain ⟨b, hb, hover⟩ := Board.moves_oneByOne (c.check handle) c.jobs handle.id disk
    (c.select fixtures)
  refine ⟨_, hb.trans ?_, ?_⟩
  · simp only [runBoard, hb]
    rfl
  · simp only [runBoard, hb]
    exact hover

theorem result_runSuite {disk : Disk} {language : String} {fixtures : List Fixture}
    (hsteady : handle.parser.IsSteady c.config.timeout)
    (h : c.fixtures disk language = .ok fixtures) :
    (c.runSuite disk language (.ok handle)).result =
      .ok (.ofHandle language handle ((c.select fixtures).map (c.outcomeAlone handle disk))) := by
  rw [← outcomes_of_endsAt hsteady (c.endsAt_runBoard handle disk fixtures) disk]
  simp only [runSuite, h]

/-- With a steady parser the checks of a suite come to their end however they are scheduled, and the
outcomes are always those of the selected fixtures checked alone: neither the number of jobs nor the
order nor the disk matters, nor another fixture, nor the answer to another source text. -/
theorem outcomes_anyOrder (hsteady : handle.parser.IsSteady c.config.timeout)
    (fixtures : List Fixture) :
    (∀ disk ms b, (c.board handle disk fixtures).moves (c.check handle) ms = some b →
      b.remaining + ms.length = 3 * (c.select fixtures).length ∧
        (b.isOver = true ∨ ∃ m b', b.move (c.check handle) m = some b')) ∧
    (∀ disk b, c.EndsAt handle disk fixtures b →
      ∀ disk', b.outcomes = (c.select fixtures).map (c.outcomeAlone handle disk')) ∧
    (∀ disk language, c.fixtures disk language = .ok fixtures →
      (c.runSuite disk language (.ok handle)).result =
        .ok (.ofHandle language handle ((c.select fixtures).map (c.outcomeAlone handle disk)))) ∧
    (∀ disk f, (c.outcomeAlone handle disk f).verdict = .failed (.crash .incomplete) ↔
      (c.check handle disk f).1 = none) ∧
    (∀ jobs processors disk disk' b b', c.EndsAt handle disk fixtures b →
      (c.withJobs jobs processors).EndsAt handle disk' fixtures b' →
        b'.outcomes = b.outcomes) ∧
    (∀ before f f' after disk disk' b b', fixtures = before ++ f :: after →
      c.EndsAt handle disk fixtures b → c.EndsAt handle disk' (before ++ f' :: after) b' →
        ∃ os own own' os', b.outcomes = os ++ own ++ os' ∧ b'.outcomes = os ++ own' ++ os' ∧
          os.length = (c.select before).length ∧ os'.length = (c.select after).length) ∧
    (∀ parser source, parser.IsSteady c.config.timeout →
      (∀ disk s, s ≠ source → Check.treeOf c.config.timeout (parser.answer disk s).1 =
        Check.treeOf c.config.timeout (handle.parser.answer disk s).1) →
      ∀ disk disk' b b', c.EndsAt handle disk fixtures b →
        c.EndsAt { handle with parser } disk' fixtures b' →
          ∀ (i : Nat) (f : Fixture), (c.select fixtures)[i]? = some f → f.source ≠ source →
            b'.outcomes[i]? = b.outcomes[i]?) := by
  refine ⟨fun disk ms b hms => ⟨?_, ?_⟩, fun disk b h => outcomes_of_endsAt hsteady h,
    fun disk language h => result_runSuite hsteady h, fun disk f => outcomeAlone_incomplete_iff, ?_, ?_,
    ?_⟩
  · rw [Board.moves_remaining hms, board, Board.remaining_initial]
  · by_cases hover : b.isOver = true
    · exact .inl hover
    · exact .inr (Board.exists_move hover)
  · intro jobs processors disk disk' b b' h h'
    rw [outcomes_of_endsAt hsteady h disk]
    exact outcomes_of_endsAt (c := c.withJobs jobs processors) hsteady h' disk
  · rintro before f f' after disk disk' b b' rfl h h'
    refine ⟨(c.select before).map (c.outcomeAlone handle disk),
      (c.select [f]).map (c.outcomeAlone handle disk), (c.select [f']).map (c.outcomeAlone handle disk),
      (c.select after).map (c.outcomeAlone handle disk), ?_, ?_, List.length_map _, List.length_map _⟩
    · rw [outcomes_of_endsAt hsteady h disk, List.append_cons, select_append, select_append,
        List.map_append, List.map_append]
    · rw [outcomes_of_endsAt hsteady h' disk, List.append_cons, select_append, select_append,
        List.map_append, List.map_append]
  · intro parser source hsteady' hanswer disk disk' b b' h h' i f hi hsource
    rw [outcomes_of_endsAt hsteady h disk, outcomes_of_endsAt hsteady' h' disk, List.getElem?_map,
      List.getElem?_map, hi]
    exact congrArg some (outcomeAlone_congr (hanswer disk f.source hsource))

/-- A runner of two checks at a time that asks for fixtures of lists. Its format breaks down over an
empty expectation. -/
def listsRunner : SuiteRunner where
  config := { RunSettings.default with jobs := some 2, timeout := some 10, filter := some "list" }
  corpusFormat := ⟨"txt", fun _ _ => [], fun f => if f.expected = "" then .breakdown else .tree (.leaf "list")⟩
  processors := 4

/-- A parser that takes too long for one source text and fails on all others. -/
def listsHandle : Handle where
  id := 3
  artifact := ⟨"lists", ⟨"lists.sh"⟩⟩
  kind := "command"
  fingerprint := ""
  parser := .ofAnswers fun source => if source = "[" then ⟨20, .error "late"⟩ else ⟨1, .error source⟩

/-- A fixture with the given name, source and expectation. -/
def listsFixture (name source expected : String) : Fixture :=
  ⟨name, source, expected, 5, ⟨false, false⟩, ⟨⟨"lists.txt"⟩, 1⟩, none⟩

theorem outcomes_anyOrder_lists :
    ∃ b, listsRunner.EndsAt listsHandle { here := [], entries := [] }
        [listsFixture "open list" "[" "(list)", listsFixture "text" "a" "", listsFixture "odd list" "]" "",
          listsFixture "list" "[]" "(list)"] b ∧
      b.outcomes = [⟨"open list", ⟨⟨"lists.txt"⟩, 1⟩, 3, .failed (.crash (.timedOut 10))⟩,
        ⟨"odd list", ⟨⟨"lists.txt"⟩, 1⟩, 3, .failed (.crash .incomplete)⟩,
        ⟨"list", ⟨⟨"lists.txt"⟩, 1⟩, 3, .failed (.crash (.reported "[]"))⟩] := by
  have hsteady : listsHandle.parser.IsSteady listsRunner.config.timeout := fun _ _ _ => rfl
  have hends : listsRunner.EndsAt listsHandle { here := [], entries := [] }
      [listsFixture "open list" "[" "(list)", listsFixture "text" "a" "", listsFixture "odd list" "]" "",
        listsFixture "list" "[]" "(list)"] _ :=
    ⟨[.start 2, .start 0, .finish 2, .start 1, .finish 1, .join 1, .finish 0, .join 2, .join 0], rfl, rfl⟩
  exact ⟨_, hends, (outcomes_anyOrder hsteady _).2.1 _ _ hends { here := [], entries := [] }⟩

end SuiteRunner

end ParserConformance
