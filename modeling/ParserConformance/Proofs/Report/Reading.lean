import ParserConformance.Proofs.Report.Stream

/-!
# Reading a test stream

A reader of test streams takes from each test line whether the test passed, its number, its description
and a directive. A directive begins with a `#` after a blank, unless a backslash stands before it, and
says that a test was skipped or that its failure is expected. A reader that finds one does not count the
test as failed.

Descriptions are written as they are. So a description with a directive in it gives that directive to
its test, whatever became of this.

## Main statement
- `Tap.readTests_render`: what is read back of a stream, and when that is what was written.
-/

namespace ParserConformance.Tap

open Text (rawLines)

/-! ### The reader -/

/-- What a test line may say besides the result. -/
inductive Directive where
  /-- The test was not run. -/
  | skip
  /-- The test is expected to fail. -/
  | todo
  deriving DecidableEq, Repr

/-- The directive that comes right after a `#`. Its name may be in any case. -/
def directiveOf? (cs : List Char) : Option Directive :=
  let name := ((Text.trimLeft cs).take 4).map Char.toUpper
  if name = "SKIP".toList then some .skip
  else if name = "TODO".toList then some .todo
  else none

/-- A text up to its first directive, and that directive. The flags say whether there is a blank, and
whether there is a backslash that counts, before the text. -/
def splitDirective (blank escaped : Bool) : List Char → List Char × Option Directive
  | [] => ([], none)
  | c :: cs =>
    match if c = '#' ∧ blank = true ∧ escaped = false then directiveOf? cs else none with
    | some directive => ([], some directive)
    | none =>
      let (text, directive) := splitDirective (Text.isBlank c) (c = '\\' && !escaped) cs
      (c :: text, directive)

/-- What a test line says. -/
structure TestLine where
  /-- Whether the test passed. -/
  passed : Bool
  /-- Its number. -/
  number : Nat
  /-- Its description, as it is written. -/
  description : String
  /-- Its directive. -/
  directive : Option Directive
  deriving DecidableEq, Repr

/-- The result at the beginning of a test line, and what follows. -/
def readResult? : List Char → Option (Bool × List Char)
  | 'o' :: 'k' :: ' ' :: cs => some (true, cs)
  | 'n' :: 'o' :: 't' :: ' ' :: 'o' :: 'k' :: ' ' :: cs => some (false, cs)
  | _ => none

/-- A number, and what follows. -/
def readNumber? (cs : List Char) : Option (Nat × List Char) :=
  match cs.takeWhile Char.isDigit with
  | [] => none
  | digits => some (Nat.ofDigitChars 10 digits 0, cs.dropWhile Char.isDigit)

/-- A description without the dash before it. -/
def dropDash : List Char → List Char
  | ' ' :: '-' :: ' ' :: cs => cs
  | ' ' :: cs => cs
  | cs => cs

/-- What a line says, if it is a test line. -/
def readTest? (line : String) : Option TestLine := do
  let (passed, cs) ← readResult? line.toList
  let (number, cs) ← readNumber? cs
  let (text, directive) := splitDirective false false cs
  return ⟨passed, number, String.ofList (dropDash text), directive⟩

/-- What the test lines of a stream say. -/
def readTests (s : String) : List TestLine := (rawLines s).filterMap readTest?

/-! ### Directives -/

/-- Characters at the end of a text make no directive if they begin with a blank and a `#`. -/
theorem directiveOf?_append_skip (cs : List Char) :
    directiveOf? (cs ++ " # SKIP".toList) = directiveOf? cs := by
  have htrim : Text.trimLeft (cs ++ " # SKIP".toList) =
      if Text.trimLeft cs = [] then "# SKIP".toList else Text.trimLeft cs ++ " # SKIP".toList := by
    rw [Text.trimLeft, List.dropWhile_append]
    simp only [List.isEmpty_iff]
    rfl
  rw [directiveOf?, directiveOf?, htrim]
  -- after fewer than four characters a blank or the `#` is among the four that are compared
  rcases Text.trimLeft cs with _ | ⟨a, _ | ⟨b, _ | ⟨c, _ | ⟨d, ds⟩⟩⟩⟩
  · rfl
  · simp
  · simp
  · simp
  · simp

/-- What is written after a description is found if the description has no directive. -/
theorem snd_splitDirective_append_skip (cs : List Char) (blank escaped : Bool) :
    (splitDirective blank escaped (cs ++ " # SKIP".toList)).2 =
      (splitDirective blank escaped cs).2.or (some .skip) := by
  induction cs generalizing blank escaped with
  | nil => cases blank <;> cases escaped <;> rfl
  | cons c cs ih =>
    rw [List.cons_append, splitDirective, splitDirective, directiveOf?_append_skip]
    split
    · rfl
    · exact ih _ _

theorem fst_splitDirective {cs : List Char} {blank escaped : Bool}
    (h : (splitDirective blank escaped cs).2 = none) : (splitDirective blank escaped cs).1 = cs := by
  induction cs generalizing blank escaped with
  | nil => rfl
  | cons c cs ih =>
    rw [splitDirective] at h ⊢
    split at h
    · cases h
    · exact congrArg (c :: ·) (ih h)

/-! ### Test lines -/

theorem isTest_of_readResult? {line : String} {passed : Bool} {cs : List Char}
    (h : readResult? line.toList = some (passed, cs)) : IsTest line := by
  unfold readResult? at h
  split at h
  · next hline => exact .inl (by rw [Text.Starts, hline]; exact ⟨_, rfl⟩)
  · next hline => exact .inr (by rw [Text.Starts, hline]; exact ⟨_, rfl⟩)
  · cases h

theorem isTest_of_readTest? {line : String} {t : TestLine} (h : readTest? line = some t) :
    IsTest line := by
  obtain ⟨⟨passed, cs⟩, hresult, -⟩ := Option.bind_eq_some_iff.1 h
  exact isTest_of_readResult? hresult

theorem readNumber?_toString (n : Nat) {c : Char} (hc : c.isDigit = false) (cs : List Char) :
    readNumber? ((toString n).toList ++ c :: cs) = some (n, c :: cs) := by
  have hdigits : ∀ d ∈ (toString n).toList, d.isDigit = true := by
    rw [Nat.toString_eq_ofList_toDigits, String.toList_ofList]
    exact fun d hd => Nat.isDigit_of_mem_toDigits (by decide) (by decide) hd
  have hvalue : Nat.ofDigitChars 10 (toString n).toList 0 = n := by
    rw [Nat.toString_eq_ofList_toDigits, String.toList_ofList, Nat.ofDigitChars_ten_toDigits]
  have hne : (toString n).toList ≠ [] := by
    rw [Nat.toString_eq_ofList_toDigits, String.toList_ofList]
    exact Nat.toDigits_ne_nil
  rw [readNumber?, List.takeWhile_append_of_pos hdigits, List.dropWhile_append_of_pos hdigits,
    List.takeWhile_cons_of_neg (by simp [hc]), List.dropWhile_cons_of_neg (by simp [hc]), List.append_nil]
  split
  · next hnil => exact absurd hnil hne
  · rw [hvalue]

/-- The directive that a test is to have. -/
def Point.directive? (p : Point) : Option Directive := if p.isSkipped then some .skip else none

/-- The directive that a description has when it stands on a test line. -/
def directiveIn? (description : String) : Option Directive :=
  (splitDirective true false description.toList).2

/-- What a reader makes of a test: whether it passed, and its directive. -/
def TestLine.status (t : TestLine) : Bool × Option Directive := (t.passed, t.directive)

/-- What a reader is to make of a test. -/
def Point.status (p : Point) : Bool × Option Directive := (!p.isFailed, p.directive?)

/-- What is written after the number and the dash of a test. -/
def Point.tail (p : Point) : List Char :=
  p.description.toList ++ if p.isSkipped then " # SKIP".toList else []

/-- What a reader takes from a test. -/
def Point.asRead (number : Nat) (p : Point) : TestLine :=
  ⟨!p.isFailed, number, String.ofList (splitDirective true false p.tail).1,
    (splitDirective true false p.tail).2⟩

theorem readTest?_headline (number : Nat) (p : Point) :
    readTest? (p.headline number) = some (p.asRead number) := by
  have hline : (p.headline number).toList = (if p.isFailed then "not ok " else "ok ").toList ++
      ((toString number).toList ++ ' ' :: '-' :: ' ' :: p.tail) := by
    have htail : (if p.isSkipped then " # SKIP" else "").toList =
        if p.isSkipped then " # SKIP".toList else [] := by split <;> rfl
    simp only [Point.headline, String.toList_append, Point.tail, htail]
    rfl
  have hresult (cs : List Char) :
      readResult? ((if p.isFailed then "not ok " else "ok ").toList ++ cs) = some (!p.isFailed, cs) := by
    cases p.isFailed <;> rfl
  have hsplit : splitDirective false false (' ' :: '-' :: ' ' :: p.tail) =
      (' ' :: '-' :: ' ' :: (splitDirective true false p.tail).1, (splitDirective true false p.tail).2) := by
    rfl
  rw [readTest?, hline, hresult, Option.bind_eq_bind, Option.bind_some]
  dsimp only
  rw [readNumber?_toString number (by decide), Option.bind_eq_bind, Option.bind_some, hsplit]
  rfl

theorem directive_asRead (number : Nat) (p : Point) :
    (p.asRead number).directive = (directiveIn? p.description).or p.directive? := by
  rw [Point.asRead, Point.tail, Point.directive?, directiveIn?]
  cases p.isSkipped with
  | true => exact snd_splitDirective_append_skip _ _ _
  | false => simp

theorem description_asRead {number : Nat} {p : Point} (h : (p.asRead number).directive = none) :
    (p.asRead number).description = p.description := by
  have hskipped : p.isSkipped = false := by
    rw [directive_asRead, Option.or_eq_none_iff, Point.directive?] at h
    simpa using h.2
  have htail : p.tail = p.description.toList := by simp [Point.tail, hskipped]
  rw [Point.asRead] at h ⊢
  rw [fst_splitDirective h, htail, String.ofList_toList]

/-! ### Streams -/

theorem readTests_eq {points : List Point} (h : Plain points) :
    readTests (render points) = (points.zipIdx 1).map fun x => x.1.asRead x.2 := by
  have htests : readTests (render points) =
      ((rawLines (render points)).filter (fun l => decide (IsTest l))).filterMap readTest? := by
    rw [List.filterMap_filter]
    refine List.filterMap_congr fun l _ => ?_
    by_cases hl : IsTest l
    · simp [hl]
    · simp only [hl, decide_false, Bool.false_eq_true, if_false]
      exact Option.eq_none_iff_forall_ne_some.2 fun t ht => hl (isTest_of_readTest? ht)
  rw [htests, tests_render h, List.filterMap_map]
  exact List.filterMap_eq_map ▸ List.filterMap_congr fun x _ => readTest?_headline x.2 x.1

/-- **What is read back of a stream is what was written, but for directives in descriptions**: the first
one of these is that of the test. So a stream tells what became of its tests just if no description has
a directive of its own, except that of a skipped test, which may say so itself. -/
theorem readTests_render {points : List Point} (h : Plain points) :
    (readTests (render points)).length = points.length ∧
      (∀ i p, points[i]? = some p → ∃ t, (readTests (render points))[i]? = some t ∧ t.number = i + 1 ∧
        t.passed = !p.isFailed ∧ t.directive = (directiveIn? p.description).or p.directive? ∧
        (t.directive = none → t.description = p.description)) ∧
      ((readTests (render points)).map TestLine.status = points.map Point.status ↔
        ∀ p ∈ points, directiveIn? p.description = none ∨ directiveIn? p.description = p.directive?) := by
  rw [readTests_eq h]
  refine ⟨by rw [List.length_map, List.length_zipIdx], fun i p hp => ?_, ?_⟩
  · refine ⟨p.asRead (i + 1), ?_, rfl, rfl, directive_asRead _ p, description_asRead⟩
    rw [List.getElem?_map, List.getElem?_zipIdx, hp, Nat.add_comm]
    rfl
  · have hstatus : ((points.zipIdx 1).map fun x => x.1.asRead x.2).map TestLine.status =
        points.map fun p => (!p.isFailed, (directiveIn? p.description).or p.directive?) := by
      have hread (x : Point × Nat) : (x.1.asRead x.2).status =
          (!x.1.isFailed, (directiveIn? x.1.description).or x.1.directive?) :=
        congrArg (!x.1.isFailed, ·) (directive_asRead x.2 x.1)
      conv_rhs => rw [← List.zipIdx_map_fst 1 points, List.map_map]
      rw [List.map_map]
      exact List.map_congr_left fun x _ => hread x
    rw [hstatus, List.map_inj_left]
    refine forall₂_congr fun p _ => ?_
    rw [Point.status, Prod.mk.injEq]
    cases directiveIn? p.description <;> simp

/-- Tests with names in which a reader finds no directive. -/
def plainNames : List Point :=
  [.passed "FROM alpine", .skipped "heredoc", .failed "comment #1" "at source_file: missing child"]

/-- They are read back as what they are. -/
theorem readTests_render_plainNames : Plain plainNames ∧
    (readTests (render plainNames)).map TestLine.status =
      [(true, none), (true, some .skip), (false, none)] := by
  have hplain : Plain plainNames := by decide
  exact ⟨hplain, ((readTests_render hplain).2.2).2 (by decide)⟩

/-- A failed test of a name with a directive in it. -/
def misnamed : List Point := [.failed "stub: Comments # TODO later" "at source_file: missing child"]

/-- It is read as one whose failure is expected. -/
theorem readTests_render_misnamed : Plain misnamed ∧
    readTests (render misnamed) = [⟨false, 1, "stub: Comments ", some .todo⟩] ∧
    (readTests (render misnamed)).map TestLine.status ≠ misnamed.map Point.status := by
  have hplain : Plain misnamed := by decide
  have hread : readTests (render misnamed) = [⟨false, 1, "stub: Comments ", some .todo⟩] := by
    rw [readTests_eq hplain]
    decide +kernel
  refine ⟨hplain, hread, ?_⟩
  rw [hread]
  decide

end ParserConformance.Tap
