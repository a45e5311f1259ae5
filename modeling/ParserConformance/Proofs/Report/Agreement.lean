import ParserConformance.CommandLine.Run
import ParserConformance.Proofs.Corpus.Covering
import ParserConformance.Proofs.Loader.Stages
import ParserConformance.Proofs.Report.Stream
import ParserConformance.Proofs.Suite.Board

/-!
# The views of a run

A run is shown as numbers, as lists of failures, as a test stream and by the status of the command,
and each of these is computed from the outcomes on its own. Here they are tied together. Only a name
with a line break could put a line of its own into the stream, and no corpus file gives a fixture
such a name.

## Main statements
- `RunRecord.tallies`: the tests of the stream add up to the numbers of the record.
- `CommandLine.isSome_run`: a command always has an output.
- `CommandLine.isPlain_runSuites`: the names in the record of a run are single lines, unless it is
  the language that is not.
- `RunRecord.viewsAgree_ofResults`: all views of a run tell the same.
-/

namespace ParserConformance

open Tap (IsTest)
open Text (rawLines Starts)

/-! ### Suites -/

@[simp] theorem Verdict.isFailure_passed : Verdict.passed.isFailure = false := rfl

@[simp] theorem Verdict.isFailure_skipped : Verdict.skipped.isFailure = false := rfl

@[simp] theorem Verdict.isFailure_failed (failure : Failure) : (Verdict.failed failure).isFailure = true :=
  rfl

namespace SuiteRecord

variable (r : SuiteRecord)

/-- Each outcome is of one sort. -/
theorem sum_sorts : r.passed + r.mismatched + r.crashed + r.malformed + r.skipped = r.total := by
  obtain ⟨language, artifact, handle, fingerprint, outcomes⟩ := r
  simp only [passed, mismatched, crashed, malformed, skipped, total, count]
  induction outcomes with
  | nil => rfl
  | cons o os ih =>
    simp only [List.countP_cons, List.length_cons]
    rcases o.verdict with - | - | - | - | - <;> simp <;> omega

theorem failedCount_eq : r.failedCount = r.outcomes.countP fun o => o.verdict.isFailure := by
  obtain ⟨language, artifact, handle, fingerprint, outcomes⟩ := r
  simp only [failedCount, mismatched, crashed, malformed, count]
  induction outcomes with
  | nil => rfl
  | cons o os ih =>
    simp only [List.countP_cons]
    rcases o.verdict with - | - | - | - | - <;> simp <;> omega

theorem map_fst_failures :
    r.failures.map Prod.fst = r.outcomes.filter fun o => o.verdict.isFailure := by
  rw [failures]
  induction r.outcomes with
  | nil => rfl
  | cons o os ih =>
    rw [List.filterMap_cons, List.filter_cons]
    cases o.verdict <;> simpa [Verdict.failure?] using ih

theorem verdict_of_mem_failures : ∀ x ∈ r.failures, x.1.verdict = .failed x.2 := by
  rintro ⟨o, failure⟩ hx
  obtain ⟨o, -, ho⟩ := List.mem_filterMap.1 hx
  cases hv : o.verdict with
  | passed | skipped => simp [hv, Verdict.failure?] at ho
  | failed failure =>
    rw [hv] at ho
    cases ho
    exact hv

/-! #### Tests -/

variable (o : Outcome)

theorem isFailed_tapPoint : (r.tapPoint o).isFailed = o.verdict.isFailure := by
  rw [tapPoint]
  cases o.verdict <;> rfl

theorem description_tapPoint : (r.tapPoint o).description = r.language ++ ": " ++ o.name := by
  rw [tapPoint]
  cases o.verdict <;> rfl

theorem countP_tapPoints :
    r.tapPoints.countP Tap.Point.isFailed = r.failedCount ∧
      r.tapPoints.countP Tap.Point.isPassed = r.passed ∧
      r.tapPoints.countP Tap.Point.isSkipped = r.skipped := by
  simp only [tapPoints, List.countP_map, failedCount_eq, passed, skipped, count]
  refine ⟨List.countP_congr fun o _ => ?_, List.countP_congr fun o _ => ?_,
    List.countP_congr fun o _ => ?_⟩
  · rw [Function.comp_apply, isFailed_tapPoint]
  · rw [Function.comp_apply, tapPoint]
    cases o.verdict <;> rfl
  · rw [Function.comp_apply, tapPoint]
    cases o.verdict <;> rfl

end SuiteRecord

/-! ### Runs -/

namespace RunEntry

/-- What the tests of an entry are about, and what became of them. A suite that could not be run is
one test, for which there is no verdict. -/
def verdicts : RunEntry → List (String × Option Verdict)
  | .ran suite => suite.outcomes.map fun o => (suite.language ++ ": " ++ o.name, some o.verdict)
  | .notRun language _ => [(language ++ ": suite", none)]

/-- No language and no name has a line of its own. -/
def IsPlain : RunEntry → Prop
  | .ran suite => '\n' ∉ suite.language.toList ∧ ∀ o ∈ suite.outcomes, '\n' ∉ o.name.toList
  | .notRun language _ => '\n' ∉ language.toList

instance : DecidablePred IsPlain
  | .ran suite => inferInstanceAs (Decidable ('\n' ∉ suite.language.toList ∧ _))
  | .notRun language _ => inferInstanceAs (Decidable ('\n' ∉ language.toList))

theorem IsPlain.tapPoints {entry : RunEntry} (h : entry.IsPlain) : Tap.Plain entry.tapPoints := by
  have hseparator : '\n' ∉ (": " : String).toList := by decide
  cases entry with
  | ran suite =>
    intro p hp
    obtain ⟨o, ho, rfl⟩ := List.mem_map.1 hp
    rw [SuiteRecord.description_tapPoint, String.toList_append, String.toList_append]
    simp only [List.mem_append, not_or]
    exact ⟨⟨h.1, hseparator⟩, h.2 o ho⟩
  | notRun language error =>
    intro p hp
    rw [List.mem_singleton.1 hp, Tap.Point.description, String.toList_append, List.mem_append, not_or]
    exact ⟨h, by decide⟩

end RunEntry

/-- The line of a test, by what became of it. -/
def verdictLine (number : Nat) (description : String) : Option Verdict → String
  | some .passed => "ok " ++ toString number ++ " - " ++ description
  | some .skipped => "ok " ++ toString number ++ " - " ++ description ++ " # SKIP"
  | some (.failed _) | none => "not ok " ++ toString number ++ " - " ++ description

theorem RunEntry.headline_tapPoints (entry : RunEntry) :
    entry.tapPoints.map (fun p number => p.headline number) =
      entry.verdicts.map fun v number => verdictLine number v.1 v.2 := by
  cases entry with
  | ran suite =>
    simp only [tapPoints, verdicts, SuiteRecord.tapPoints, List.map_map]
    refine List.map_congr_left fun o _ => funext fun number => ?_
    simp only [Function.comp_apply, SuiteRecord.tapPoint]
    cases o.verdict <;> simp [Tap.Point.headline, Tap.Point.isFailed, Tap.Point.isSkipped,
      Tap.Point.description, verdictLine, String.append_assoc]
  | notRun language error =>
    simp [tapPoints, verdicts, Tap.Point.headline, Tap.Point.isFailed, Tap.Point.isSkipped,
      Tap.Point.description, verdictLine, String.append_assoc]

namespace RunRecord

variable (r : RunRecord)

/-- The tests of a run. -/
def points : List Tap.Point := r.suites.flatMap RunEntry.tapPoints

/-- What the tests of a run are about, and what became of them, suite by suite. -/
def verdicts : List (String × Option Verdict) := r.suites.flatMap RunEntry.verdicts

/-- How many fixtures were not run. -/
def skipped : Nat := (r.ran.map SuiteRecord.skipped).sum

theorem map_zipIdx_eq {α : Type} (as : List α) (f : α → Nat → String) :
    (as.zipIdx 1).map (fun a => f a.1 a.2) = ((as.map f).zipIdx 1).map fun a => a.1 a.2 := by
  rw [List.zipIdx_map, List.map_map]
  rfl

/-- The tests as lines tell them, once each line is given its number. -/
theorem headline_points :
    r.points.map (fun p number => p.headline number) =
      r.verdicts.map fun v number => verdictLine number v.1 v.2 := by
  rw [points, verdicts, List.map_flatMap, List.map_flatMap]
  exact List.flatMap_congr fun entry _ => entry.headline_tapPoints

theorem length_verdicts : r.verdicts.length = r.points.length := by
  have := congrArg List.length r.headline_points
  rw [List.length_map, List.length_map] at this
  exact this.symm

theorem tallies : r.points.length = r.total + r.notRun ∧
    r.points.countP Tap.Point.isFailed = r.failedCount + r.notRun ∧
    r.points.countP Tap.Point.isPassed = r.passed ∧
    r.points.countP Tap.Point.isSkipped = r.skipped := by
  obtain ⟨startedAt, suites⟩ := r
  simp only [points, total, notRun, failedCount, passed, skipped, ran]
  induction suites with
  | nil => decide
  | cons entry suites ih =>
    obtain ⟨hlength, hfailed, hpassed, hskipped⟩ := ih
    simp only [List.flatMap_cons, List.length_append, List.countP_append, List.filterMap_cons,
      List.countP_cons]
    cases entry with
    | ran suite =>
      obtain ⟨hfailed', hpassed', hskipped'⟩ := suite.countP_tapPoints
      have hlength' : suite.tapPoints.length = suite.total := List.length_map _
      have hsuite : (RunEntry.ran suite).suite? = some suite := rfl
      have hpoints : (RunEntry.ran suite).tapPoints = suite.tapPoints := rfl
      simp only [hsuite, hpoints, List.map_cons, List.sum_cons, hlength, hfailed, hpassed, hskipped,
        hlength', hfailed', hpassed', hskipped', Option.isNone_some, Bool.false_eq_true, if_false]
      exact ⟨by omega, by omega, trivial, trivial⟩
    | notRun language error =>
      have hsuite : (RunEntry.notRun language error).suite? = none := rfl
      have hpoints : (RunEntry.notRun language error).tapPoints =
        [.failed (language ++ ": suite") error] := rfl
      simp only [hsuite, hpoints, hlength, hfailed, hpassed, hskipped, List.length_singleton,
        List.countP_singleton, Tap.Point.isFailed, Tap.Point.isPassed, Tap.Point.isSkipped,
        Option.isNone_none, Bool.false_eq_true, if_false, if_true]
      omega

theorem isSuccess_iff : r.isSuccess = true ↔ ¬∃ p ∈ r.points, p.isFailed = true := by
  have hfailed := r.tallies.2.1
  rw [isSuccess, Bool.and_eq_true, beq_iff_eq, beq_iff_eq, ← List.countP_pos_iff, hfailed]
  omega

/-- All views of a run tell the same. -/
structure ViewsAgree : Prop where
  /-- In each suite each outcome is of one sort. -/
  sorts : ∀ suite ∈ r.ran, suite.total = suite.outcomes.length ∧
    suite.passed + suite.mismatched + suite.crashed + suite.malformed + suite.skipped = suite.total
  /-- The failures of a suite are those of its outcomes that have failed, in order. -/
  failures : ∀ suite ∈ r.ran,
    suite.failures.map Prod.fst = suite.outcomes.filter (fun o => o.verdict.isFailure) ∧
      ∀ x ∈ suite.failures, x.1.verdict = .failed x.2
  /-- The stream has one plan, for every fixture and every suite that could not be run. -/
  plan : (rawLines r.tapText).filter (fun l => decide (Starts "1.." l)) =
    ["1.." ++ toString (r.total + r.notRun)]
  /-- Its tests are those of the suites in order, each with its number and what became of it. -/
  tests : (rawLines r.tapText).filter (fun l => decide (IsTest l)) =
    (r.verdicts.zipIdx 1).map fun v => verdictLine v.2 v.1.1 v.1.2
  /-- There are as many as the plan says. -/
  length_verdicts : r.verdicts.length = r.total + r.notRun
  /-- It ends with counts, which add up to the plan. -/
  counts : (∃ above, rawLines r.tapText = above ++
      ["# tests " ++ toString (r.total + r.notRun), "# pass  " ++ toString r.passed,
        "# skip  " ++ toString r.skipped, "# fail  " ++ toString (r.failedCount + r.notRun), ""]) ∧
    r.passed + r.skipped + (r.failedCount + r.notRun) = r.total + r.notRun
  /-- The run has succeeded just if no line tells of a failed test. -/
  isSuccess_iff : r.isSuccess = true ↔ ∀ l ∈ rawLines r.tapText, ¬Starts "not ok " l

variable {r}

theorem plain_points (h : ∀ entry ∈ r.suites, entry.IsPlain) : Tap.Plain r.points := by
  intro p hp
  obtain ⟨entry, hentry, hp⟩ := List.mem_flatMap.1 hp
  exact (h entry hentry).tapPoints p hp

theorem viewsAgree (h : ∀ entry ∈ r.suites, entry.IsPlain) : r.ViewsAgree where
  sorts suite _ := ⟨rfl, suite.sum_sorts⟩
  failures suite _ := ⟨suite.map_fst_failures, suite.verdict_of_mem_failures⟩
  plan := by
    rw [← r.tallies.1]
    exact Tap.plan_render (plain_points h)
  tests := by
    rw [map_zipIdx_eq r.verdicts fun v number => verdictLine number v.1 v.2, ← r.headline_points,
      ← map_zipIdx_eq]
    exact Tap.tests_render (plain_points h)
  length_verdicts := r.length_verdicts.trans r.tallies.1
  counts := by
    obtain ⟨hlength, hfailed, hpassed, hskipped⟩ := r.tallies
    refine ⟨⟨Tap.opening r.points ++ Tap.pointLines 1 r.points, ?_⟩, ?_⟩
    · rw [← hlength, ← hfailed, ← hpassed, ← hskipped]
      refine (Tap.rawLines_render (plain_points h)).trans ?_
      rw [Tap.streamLines_eq, List.append_assoc]
      rfl
    · rw [← hlength, ← hfailed, ← hpassed, ← hskipped, Tap.sum_sorts]
  isSuccess_iff := by
    rw [r.isSuccess_iff, ← Tap.exists_failed_render_iff (plain_points h)]
    simp only [not_exists, not_and]
    rfl

end RunRecord

/-! ### Names -/

namespace Corpus

variable {disk : Disk}

theorem not_mem_name_of_readFiles {files : List Path} {fixtures : List Fixture}
    (h : readFiles .blockText disk files = .ok fixtures) : ∀ f ∈ fixtures, '\n' ∉ f.name.toList := by
  induction files generalizing fixtures with
  | nil =>
    cases h
    nofun
  | cons file files ih =>
    rw [readFiles] at h
    split at h
    · cases h
    · cases hrest : readFiles .blockText disk files with
      | error absence =>
        rw [hrest] at h
        cases h
      | ok rest =>
        rw [hrest] at h
        cases h
        exact List.forall_mem_append.2 ⟨fun f hf => not_mem_name_of_mem_split hf, ih hrest⟩

theorem not_mem_name_of_collect {language : String} {dir : Path} {corpus : Collection}
    (h : collect .blockText disk language dir = .ok corpus) :
    ∀ f ∈ corpus.fixtures, '\n' ∉ f.name.toList := by
  rw [collect] at h
  split at h
  · cases h
  · next names _ =>
    split at h
    · cases h
    · cases hread : readFiles .blockText disk
          ((sortNames (names.filter (isCorpusFile .blockText disk dir))).map fun n => dir.join ⟨n⟩) with
      | error absence =>
        rw [hread] at h
        cases h
      | ok fixtures =>
        rw [hread] at h
        cases h
        exact not_mem_name_of_readFiles hread

end Corpus

namespace SuiteRunner

variable {c : SuiteRunner} {disk : Disk} {language : String}

theorem mem_of_mem_select {f : Corpus.Fixture} {fixtures : List Corpus.Fixture}
    (h : f ∈ c.select fixtures) : f ∈ fixtures := by
  rw [select] at h
  split at h
  · exact List.mem_of_mem_filter h
  · exact h

theorem not_mem_name_of_fixtures (hc : c.corpusFormat = .blockText) {fixtures : List Corpus.Fixture}
    (h : c.fixtures disk language = .ok fixtures) : ∀ f ∈ fixtures, '\n' ∉ f.name.toList := by
  rw [SuiteRunner.fixtures, hc] at h
  split at h
  · cases h
  · next hcorpus =>
    cases h
    exact Corpus.not_mem_name_of_collect hcorpus

/-- The outcomes of a suite are about its fixtures. -/
theorem isAbout_runBoard (disk : Disk) (handle : Handle) (fixtures : List Corpus.Fixture) :
    (c.runBoard disk handle fixtures).IsAbout fixtures := by
  have hinitial := Suite.Board.isAbout_initial c.jobs handle.id disk fixtures
  rw [runBoard]
  cases hmoves : (Suite.Board.initial c.jobs handle.id disk fixtures).moves (c.check handle)
      (Suite.Board.oneByOne fixtures.length) with
  | none => exact hinitial
  | some b => exact Suite.Board.moves_isAbout hinitial hmoves

theorem isPlain_runSuite (hc : c.corpusFormat = .blockText) (hlanguage : '\n' ∉ language.toList)
    (loaded : LoadOutcome) :
    (RunEntry.ofResult language (c.runSuite disk language loaded).result).IsPlain := by
  cases loaded with
  | error problem => exact hlanguage
  | ok handle =>
    rw [runSuite]
    split
    · exact hlanguage
    · next fixtures hfixtures =>
      refine ⟨hlanguage, fun o ho => ?_⟩
      obtain ⟨f, hf, hname⟩ := Suite.Board.exists_name_eq (isAbout_runBoard disk handle _) o ho
      rw [hname]
      exact not_mem_name_of_fixtures hc hfixtures f (mem_of_mem_select hf)

end SuiteRunner

/-! ### Commands -/

/-- A program's parser is there at once, or is refused. -/
theorem Program.isPrompt_kind (host : Host) (call : Call) : (kind host call).IsPrompt := by
  intro attempt disk a
  simp only [kind, openArtifact]
  split
  · nofun
  · split <;> nofun
  · nofun

namespace CommandLine

theorem isPrompt_programLoader (env : Environment) : (programLoader env).IsPrompt :=
  Loader.isPrompt_new (List.forall_mem_singleton.2 (Program.isPrompt_kind _ _))

theorem runSuites_ne_hanging {runner : SuiteRunner} {suites : List (String × Path)} {disk : Disk}
    {loader : Loader} {run : RunRecord} (h : loader.IsPrompt) :
    runSuites runner disk loader run suites ≠ .hanging := by
  induction suites generalizing disk loader run with
  | nil => nofun
  | cons suite suites ih =>
    obtain ⟨loader', loaded, hresolve, h'⟩ := h.exists_resolve_create disk suite.2
    rw [runSuites]
    simp only [hresolve]
    split
    · nofun
    · exact ih h'

theorem isSome_runTest (env : Environment) (quiet : Bool) (o : TestRequest) :
    (runTest env quiet o).isSome = true := by
  rw [runTest]
  split
  · rfl
  · split
    · rfl
    · dsimp only
      split
      · rfl
      · rfl
      · next hhanging => exact absurd hhanging (runSuites_ne_hanging (isPrompt_programLoader env))

theorem isSome_runParse (env : Environment) (o : ParseRequest) : (runParse env o).isSome = true := by
  obtain ⟨loader', loaded, hresolve, -⟩ :=
    (isPrompt_programLoader env).exists_resolve_create env.disk o.artifact
  rw [runParse]
  split
  · rfl
  · simp only [hresolve]
    rfl

/-- A command always has an output, since no load of a program hangs. -/
theorem isSome_run (env : Environment) (args : List String) : (run env args).isSome = true := by
  rw [run]
  split
  · rfl
  · rfl
  · rfl
  · exact isSome_runTest ..
  · exact isSome_runParse ..

/-- Only a language can bring a line break into the names of a run. -/
theorem isPlain_runSuites {runner : SuiteRunner} (hrunner : runner.corpusFormat = .blockText)
    {suites : List (String × Path)} (hsuites : ∀ x ∈ suites, '\n' ∉ x.1.toList) {disk : Disk}
    {loader : Loader} {run run' : RunRecord} (hrun : ∀ entry ∈ run.suites, entry.IsPlain)
    (h : runSuites runner disk loader run suites = .recorded run') :
    ∀ entry ∈ run'.suites, entry.IsPlain := by
  induction suites generalizing disk loader run with
  | nil =>
    cases h
    exact hrun
  | cons suite suites ih =>
    obtain ⟨hsuite, hsuites⟩ := List.forall_mem_cons.1 hsuites
    rw [runSuites] at h
    dsimp only at h
    split at h
    · cases h
    · next loaded _ =>
      split at h
      · cases h
      · refine ih hsuites ?_ h
        rw [RunRecord.record]
        refine List.forall_mem_append.2 ⟨hrun, ?_⟩
        rw [List.forall_mem_singleton]
        exact SuiteRunner.isPlain_runSuite hrunner hsuite loaded

/-- The configuration that the test command goes by. -/
def configurationFor (env : Environment) (o : TestRequest) : Except ConfigProblem Configuration :=
  match o.config with
  | some path => Configuration.load env.disk path
  | none => Configuration.ofEnvironment env.disk env.configFile

/-- The test command finds its configuration and its suites, and runs these. -/
def Runs (env : Environment) (o : TestRequest) (suites : List (String × Path)) (run : RunRecord) : Prop :=
  ∃ config, configurationFor env o = .ok config ∧ suitesToRun config o = .ok suites ∧
    runSuites ⟨settingsFor config o, .blockText, env.processors⟩ env.disk (programLoader env)
      ⟨env.now, []⟩ suites = .recorded run

theorem Runs.runTest_eq {env : Environment} {o : TestRequest} {suites : List (String × Path)}
    {run : RunRecord} (h : Runs env o suites run) (quiet : Bool) :
    runTest env quiet o = some ⟨if run.isSuccess then 0 else 1, printRun quiet o.format run, ""⟩ := by
  obtain ⟨config, hconfig, hsuites, hrun⟩ := h
  rw [configurationFor] at hconfig
  cases hfile : o.config <;> rw [hfile] at hconfig <;>
    simp only [runTest, hfile, hconfig, hsuites, hrun]

end CommandLine

namespace RunRecord

/-- The run that the given results of suites have been put into, one after the other. -/
def ofResults (startedAt : String) (results : List (String × Except SuiteProblem SuiteRecord)) :
    RunRecord :=
  results.foldl (fun run x => run.record (.ofResult x.1 x.2)) ⟨startedAt, []⟩

theorem suites_foldl_record (results : List (String × Except SuiteProblem SuiteRecord)) (r : RunRecord) :
    (results.foldl (fun run x => run.record (.ofResult x.1 x.2)) r).suites =
      r.suites ++ results.map fun x => .ofResult x.1 x.2 := by
  induction results generalizing r with
  | nil => exact (List.append_nil _).symm
  | cons x results ih => rw [List.foldl_cons, ih, record, List.append_assoc, List.map_cons]; rfl

/-- **All views of a run tell the same**, and so does the status of the test command. -/
theorem viewsAgree_ofResults (startedAt : String)
    {results : List (String × Except SuiteProblem SuiteRecord)}
    (plain : ∀ x ∈ results, (RunEntry.ofResult x.1 x.2).IsPlain) :
    (ofResults startedAt results).ViewsAgree ∧
      ∀ env quiet o suites run, CommandLine.Runs env o suites run →
        (∀ x ∈ suites, '\n' ∉ x.1.toList) → ∃ output, CommandLine.runTest env quiet o = some output ∧
          (output.status = 0 ↔ ∀ l ∈ rawLines run.tapText, ¬Starts "not ok " l) ∧
          (o.format = .tap → output.out = run.tapText) := by
  constructor
  · refine viewsAgree fun entry hentry => ?_
    rw [ofResults, suites_foldl_record, List.nil_append] at hentry
    obtain ⟨x, hx, rfl⟩ := List.mem_map.1 hentry
    exact plain x hx
  · intro env quiet o suites run hrun hsuites
    have hentries : ∀ entry ∈ run.suites, entry.IsPlain := by
      obtain ⟨config, -, -, hrun⟩ := hrun
      exact CommandLine.isPlain_runSuites rfl hsuites (List.forall_mem_nil _) hrun
    refine ⟨_, hrun.runTest_eq quiet, ?_, fun hformat => ?_⟩
    · rw [← (viewsAgree hentries).isSuccess_iff]
      cases run.isSuccess <;> simp
    · rw [hformat]
      rfl

/-- A suite whose parser complains in lines that look like tests and like a plan, and a language
without a corpus. -/
def misleading : List (String × Except SuiteProblem SuiteRecord) :=
  [("stub", .ok ⟨"stub", ⟨"parser"⟩, 1, "",
      [⟨"Heading", ⟨⟨"basic.txt"⟩, 1⟩, 1, .passed⟩,
        ⟨"List", ⟨⟨"basic.txt"⟩, 7⟩, 1,
          .failed (.crash (.reported "trouble\nok 2 - stub: List\n1..2\nnot ok 3\n# fail  0"))⟩,
        ⟨"Table", ⟨⟨"basic.txt"⟩, 13⟩, 1, .skipped⟩]⟩),
    ("plain", .error (.corpusNotFound "plain" ⟨"corpus"⟩))]

/-- An environment with nothing on the disk and no program to run. -/
def bare : CommandLine.Environment :=
  ⟨⟨fun _ _ _ _ _ => .error .notFound, fun _ _ => ""⟩, ⟨[], [], [], [], [], 0⟩, none, "", 1⟩

/-- A request to test one language. -/
def oneLanguage : CommandLine.TestRequest :=
  ⟨none, some "stub", some ⟨"parser"⟩, none, none, none, none, .tap⟩

/-- What that comes to. -/
def unloaded : RunRecord :=
  ⟨"", [.notRun "stub" "parser for 'stub' unavailable: parser artifact not found: parser"]⟩

theorem viewsAgree_ofResults_misleading :
    (∀ x ∈ misleading, (RunEntry.ofResult x.1 x.2).IsPlain) ∧
      (rawLines (ofResults "" misleading).tapText).filter (fun l => decide (IsTest l)) =
        ["ok 1 - stub: Heading", "not ok 2 - stub: List", "ok 3 - stub: Table # SKIP",
          "not ok 4 - plain: suite"] ∧
      CommandLine.Runs bare oneLanguage [("stub", ⟨"parser"⟩)] unloaded ∧
      ∃ output, CommandLine.runTest bare false oneLanguage = some output ∧ output.status ≠ 0 := by
  have plain : ∀ x ∈ misleading, (RunEntry.ofResult x.1 x.2).IsPlain := by decide
  obtain ⟨hviews, hstatus⟩ := viewsAgree_ofResults "" plain
  have hruns : CommandLine.Runs bare oneLanguage [("stub", ⟨"parser"⟩)] unloaded :=
    ⟨.default, by decide +kernel, rfl, by decide +kernel⟩
  have hplain : Tap.Plain unloaded.points := plain_points (by decide)
  obtain ⟨l, hl, hfailed⟩ := (Tap.exists_failed_render_iff hplain).2 ⟨_, List.mem_singleton_self _, rfl⟩
  obtain ⟨output, houtput, hzero, -⟩ := hstatus bare false oneLanguage _ _ hruns (by decide)
  exact ⟨plain, hviews.tests.trans (by decide +kernel), hruns, output, houtput,
    fun h => hzero.1 h l hl hfailed⟩

end RunRecord

end ParserConformance
