import ParserConformance.Proofs.Text.Lines
import ParserConformance.Report.Tap

/-!
# What a test stream says

A stream is read line by line. Diagnostics stand below the test that they belong to, each of their
lines as a comment that begins with blanks, so that nothing in them can be taken for a test, for the
plan or for one of the counts at the end. The lines of the text are then those that were written, as
long as no description has a line of its own.
-/

namespace ParserConformance

namespace Text

/-- What stands between the newlines of a text. -/
def rawLines (s : String) : List String := (s.toList.splitOn '\n').map String.ofList

/-- Whether a line begins with `p`. -/
def Starts (p l : String) : Prop := p.toList <+: l.toList

instance (p l : String) : Decidable (Starts p l) := inferInstanceAs (Decidable (_ <+: _))

theorem intercalate_newline (ls : List (List Char)) :
    ['\n'].intercalate (ls ++ [[]]) = writeLines ls := by
  induction ls with
  | nil => rfl
  | cons l ls ih =>
    rw [List.cons_append, List.intercalate_cons_of_ne_nil (by simp), ih]
    simp [writeLines]

theorem splitOn_writeLines {ls : List (List Char)} (h : ∀ l ∈ ls, '\n' ∉ l) :
    (writeLines ls).splitOn '\n' = ls ++ [[]] := by
  rw [← intercalate_newline]
  refine List.splitOn_intercalate '\n' (fun l hl => ?_) (by simp)
  rcases List.mem_append.1 hl with hl | hl
  · exact h l hl
  · simp [List.mem_singleton.1 hl]

/-- Two texts with unlike beginnings. -/
theorem not_starts_append {p a : String} {c d : Char} (hp : p.toList.head? = some c)
    (ha : a.toList.head? = some d) (h : c ≠ d) (s : String) : ¬Starts p (a ++ s) := by
  obtain ⟨cs, hp⟩ := List.head?_eq_some_iff.1 hp
  obtain ⟨ds, ha⟩ := List.head?_eq_some_iff.1 ha
  rw [Starts, String.toList_append, hp, ha, List.cons_append, List.cons_prefix_cons]
  exact fun hs => h hs.1

theorem starts_append_self (p s : String) : Starts p (p ++ s) := by
  rw [Starts, String.toList_append]
  exact List.prefix_append _ _

end Text

namespace Tap

open Text (rawLines Starts)

/-! ### The lines of a test -/

/-- What a test is about. -/
def Point.description : Point → String
  | .passed description | .skipped description => description
  | .failed description _ => description

/-- The line that says what became of a test. -/
def Point.headline (number : Nat) (p : Point) : String :=
  (if p.isFailed then "not ok " else "ok ") ++ (toString number ++ (" - " ++
    (p.description ++ if p.isSkipped then " # SKIP" else "")))

/-- The lines below it. -/
def Point.comments : Point → List String
  | .failed _ diagnostics => (Text.linesOf diagnostics).map ("  # " ++ ·)
  | _ => []

theorem Point.lines_eq (number : Nat) (p : Point) : p.lines number = p.headline number :: p.comments := by
  cases p <;> simp [Point.lines, headline, comments, description, isFailed, isSkipped, String.append_assoc]

/-- Each test is of one sort. -/
theorem sum_sorts (points : List Point) :
    points.countP Point.isPassed + points.countP Point.isSkipped +
      points.countP Point.isFailed = points.length := by
  induction points with
  | nil => rfl
  | cons p ps ih =>
    simp only [List.countP_cons, List.length_cons]
    cases p <;> simp [Point.isFailed, Point.isPassed, Point.isSkipped] <;> omega

/-- Whether a line says what became of a test. -/
def IsTest (l : String) : Prop := Starts "ok " l ∨ Starts "not ok " l

instance (l : String) : Decidable (IsTest l) := inferInstanceAs (Decidable (_ ∨ _))

theorem starts_headline (number : Nat) (p : Point) :
    (Starts "not ok " (p.headline number) ↔ p.isFailed = true) ∧
      (Starts "ok " (p.headline number) ↔ p.isFailed = false) ∧
      ¬Starts "1.." (p.headline number) := by
  rw [Point.headline]
  cases p.isFailed with
  | true =>
    exact ⟨iff_of_true (Text.starts_append_self _ _) rfl,
      iff_of_false (Text.not_starts_append rfl rfl (by decide) _) (by decide),
      Text.not_starts_append rfl rfl (by decide) _⟩
  | false =>
    exact ⟨iff_of_false (Text.not_starts_append rfl rfl (by decide) _) (by decide),
      iff_of_true (Text.starts_append_self _ _) rfl, Text.not_starts_append rfl rfl (by decide) _⟩

/-- No comment is taken for a test or for the plan, whatever it says. -/
theorem not_starts_comments (p : Point) :
    ∀ l ∈ p.comments, ¬Starts "not ok " l ∧ ¬Starts "ok " l ∧ ¬Starts "1.." l := by
  cases p with
  | passed | skipped => nofun
  | failed description diagnostics =>
    intro l hl
    obtain ⟨l, -, rfl⟩ := List.mem_map.1 hl
    exact ⟨Text.not_starts_append rfl rfl (by decide) _, Text.not_starts_append rfl rfl (by decide) _,
      Text.not_starts_append rfl rfl (by decide) _⟩

/-! ### The lines of a stream -/

/-- What comes before the tests. -/
def opening (points : List Point) : List String := ["TAP version 14", "1.." ++ toString points.length]

/-- What comes after them. -/
def closing (points : List Point) : List String :=
  ["# tests " ++ toString points.length,
   "# pass  " ++ toString (points.countP Point.isPassed),
   "# skip  " ++ toString (points.countP Point.isSkipped),
   "# fail  " ++ toString (failedCount points)]

theorem streamLines_eq (points : List Point) :
    streamLines points = opening points ++ pointLines 1 points ++ closing points := rfl

theorem not_isTest_opening (points : List Point) : ∀ l ∈ opening points, ¬IsTest l := by
  rw [opening, List.forall_mem_cons, List.forall_mem_singleton]
  exact ⟨by decide, not_or.2 ⟨Text.not_starts_append rfl rfl (by decide) _,
    Text.not_starts_append rfl rfl (by decide) _⟩⟩

theorem not_starts_closing (points : List Point) :
    ∀ l ∈ closing points, ¬Starts "not ok " l ∧ ¬Starts "ok " l ∧ ¬Starts "1.." l := by
  have hnumber (a : String) (n : Nat) (ha : a.toList.head? = some '#') :
      ¬Starts "not ok " (a ++ toString n) ∧ ¬Starts "ok " (a ++ toString n) ∧
        ¬Starts "1.." (a ++ toString n) :=
    ⟨Text.not_starts_append rfl ha (by decide) _, Text.not_starts_append rfl ha (by decide) _,
      Text.not_starts_append rfl ha (by decide) _⟩
  simp only [closing, List.forall_mem_cons]
  exact ⟨hnumber _ _ rfl, hnumber _ _ rfl, hnumber _ _ rfl, hnumber _ _ rfl, nofun⟩

theorem filter_pointLines (number : Nat) (points : List Point) :
    (pointLines number points).filter (fun l => decide (IsTest l)) =
      (points.zipIdx number).map fun x => x.1.headline x.2 := by
  induction points generalizing number with
  | nil => rfl
  | cons p ps ih =>
    have hcomments : p.comments.filter (fun l => decide (IsTest l)) = [] := by
      rw [List.filter_eq_nil_iff]
      intro l hl
      have := not_starts_comments p l hl
      rw [decide_eq_true_eq]
      exact not_or.2 ⟨this.2.1, this.1⟩
    have hhead : IsTest (p.headline number) := by
      have := starts_headline number p
      cases h : p.isFailed with
      | true => exact .inr (this.1.2 h)
      | false => exact .inl (this.2.1.2 h)
    rw [pointLines, List.filter_append, ih, Point.lines_eq, List.filter_cons_of_pos (by simpa using hhead),
      hcomments, List.zipIdx_cons, List.map_cons]
    rfl

/-- Between the plan and the counts nothing is taken for a plan. -/
theorem not_starts_plan_pointLines (number : Nat) (points : List Point) :
    ∀ l ∈ pointLines number points, ¬Starts "1.." l := by
  induction points generalizing number with
  | nil => nofun
  | cons p ps ih =>
    intro l hl
    rw [pointLines, Point.lines_eq, List.cons_append] at hl
    rcases List.mem_cons.1 hl with rfl | hl
    · exact (starts_headline number p).2.2
    · rcases List.mem_append.1 hl with hl | hl
      · exact (not_starts_comments p l hl).2.2
      · exact ih (number + 1) l hl

/-! ### The text of a stream -/

/-- No description has a line of its own. -/
def Plain (points : List Point) : Prop := ∀ p ∈ points, '\n' ∉ p.description.toList

instance : DecidablePred Plain := fun points => inferInstanceAs (Decidable (∀ p ∈ points, _))

theorem not_mem_headline (number : Nat) {p : Point} (h : '\n' ∉ p.description.toList) :
    '\n' ∉ (p.headline number).toList := by
  have hnumber := Text.not_mem_toString number
  simp only [Point.headline, String.toList_append, List.mem_append, not_or]
  exact ⟨by split <;> decide, hnumber, by decide, h, by split <;> decide⟩

theorem not_mem_comments (p : Point) : ∀ l ∈ p.comments, '\n' ∉ l.toList := by
  cases p with
  | passed | skipped => nofun
  | failed description diagnostics =>
    intro l hl
    obtain ⟨line, hline, rfl⟩ := List.mem_map.1 hl
    obtain ⟨cs, hcs, rfl⟩ := List.mem_map.1 hline
    have hcs : '\n' ∉ (String.ofList cs).toList := by
      rw [String.toList_ofList]
      exact Text.not_mem_lines _ cs hcs
    rw [String.toList_append, List.mem_append, not_or]
    exact ⟨by decide, hcs⟩

theorem not_mem_pointLines (number : Nat) {points : List Point} (h : Plain points) :
    ∀ l ∈ pointLines number points, '\n' ∉ l.toList := by
  induction points generalizing number with
  | nil => nofun
  | cons p ps ih =>
    obtain ⟨hp, hps⟩ := List.forall_mem_cons.1 h
    intro l hl
    rw [pointLines, Point.lines_eq, List.cons_append] at hl
    rcases List.mem_cons.1 hl with rfl | hl
    · exact not_mem_headline number hp
    · rcases List.mem_append.1 hl with hl | hl
      · exact not_mem_comments p l hl
      · exact ih (number + 1) hps l hl

theorem not_mem_streamLines {points : List Point} (h : Plain points) :
    ∀ l ∈ streamLines points, '\n' ∉ l.toList := by
  have hnumber (a : String) (n : Nat) (ha : '\n' ∉ a.toList) : '\n' ∉ (a ++ toString n).toList := by
    rw [String.toList_append, List.mem_append, not_or]
    exact ⟨ha, Text.not_mem_toString n⟩
  simp only [streamLines_eq, opening, closing, List.forall_mem_append, List.forall_mem_cons]
  exact ⟨⟨⟨by decide, hnumber _ _ (by decide), nofun⟩, not_mem_pointLines 1 h⟩,
    hnumber _ _ (by decide), hnumber _ _ (by decide), hnumber _ _ (by decide), hnumber _ _ (by decide),
    nofun⟩

/-- The lines of the text are those that were written. -/
theorem rawLines_render {points : List Point} (h : Plain points) :
    rawLines (render points) = streamLines points ++ [""] := by
  have hchars : (render points).toList = Text.writeLines ((streamLines points).map String.toList) := by
    rw [render, String.toList_join, List.flatMap_map, Text.writeLines, List.flatMap_map]
    exact List.flatMap_congr fun l _ => String.toList_append
  have hid : String.ofList ∘ String.toList = id := funext fun l => String.ofList_toList
  rw [rawLines, hchars, Text.splitOn_writeLines, List.map_append, List.map_map, hid, List.map_id]
  · rfl
  · intro l hl
    obtain ⟨line, hline, rfl⟩ := List.mem_map.1 hl
    exact not_mem_streamLines h line hline

/-- The tests of a stream are told one after the other, counted from one. -/
theorem tests_render {points : List Point} (h : Plain points) :
    (rawLines (render points)).filter (fun l => decide (IsTest l)) =
      (points.zipIdx 1).map fun x => x.1.headline x.2 := by
  have hopening : (opening points).filter (fun l => decide (IsTest l)) = [] := by
    simpa [List.filter_eq_nil_iff] using not_isTest_opening points
  have hclosing : (closing points ++ [""]).filter (fun l => decide (IsTest l)) = [] := by
    rw [List.filter_eq_nil_iff]
    intro l hl
    rw [decide_eq_true_eq, IsTest, not_or]
    rcases List.mem_append.1 hl with hl | hl
    · have := not_starts_closing points l hl
      exact ⟨this.2.1, this.1⟩
    · rw [List.mem_singleton.1 hl]
      decide
  rw [rawLines_render h, streamLines_eq, List.append_assoc, List.append_assoc, List.filter_append,
    List.filter_append, hopening, hclosing, filter_pointLines, List.nil_append, List.append_nil]

/-- A stream has one plan. -/
theorem plan_render {points : List Point} (h : Plain points) :
    (rawLines (render points)).filter (fun l => decide (Starts "1.." l)) =
      ["1.." ++ toString points.length] := by
  have hopening : (opening points).filter (fun l => decide (Starts "1.." l)) =
      ["1.." ++ toString points.length] := by
    rw [opening, List.filter_cons_of_neg (by decide), List.filter_cons_of_pos, List.filter_nil]
    exact decide_eq_true (Text.starts_append_self _ _)
  have hrest : (pointLines 1 points ++ (closing points ++ [""])).filter
      (fun l => decide (Starts "1.." l)) = [] := by
    rw [List.filter_eq_nil_iff]
    intro l hl
    rw [decide_eq_true_eq]
    rcases List.mem_append.1 hl with hl | hl
    · exact not_starts_plan_pointLines 1 points l hl
    · rcases List.mem_append.1 hl with hl | hl
      · exact (not_starts_closing points l hl).2.2
      · rw [List.mem_singleton.1 hl]
        decide
  rw [rawLines_render h, streamLines_eq, List.append_assoc, List.append_assoc, List.filter_append,
    hopening, hrest, List.append_nil]

/-- A line tells of a failed test just if there is one. -/
theorem exists_failed_render_iff {points : List Point} (h : Plain points) :
    (∃ l ∈ rawLines (render points), Starts "not ok " l) ↔ ∃ p ∈ points, p.isFailed = true := by
  have hfilter : (∃ l ∈ rawLines (render points), Starts "not ok " l) ↔
      ∃ l ∈ (rawLines (render points)).filter (fun l => decide (IsTest l)), Starts "not ok " l := by
    simp only [List.mem_filter, decide_eq_true_eq]
    exact ⟨fun ⟨l, hl, hs⟩ => ⟨l, ⟨hl, .inr hs⟩, hs⟩, fun ⟨l, ⟨hl, _⟩, hs⟩ => ⟨l, hl, hs⟩⟩
  rw [hfilter, tests_render h]
  constructor
  · rintro ⟨l, hl, hs⟩
    obtain ⟨⟨p, i⟩, hp, rfl⟩ := List.mem_map.1 hl
    exact ⟨p, List.fst_mem_of_mem_zipIdx hp, (starts_headline i p).1.1 hs⟩
  · rintro ⟨p, hp, hfailed⟩
    obtain ⟨i, hi, rfl⟩ := List.getElem_of_mem hp
    refine ⟨_, List.mem_map_of_mem (a := (points[i], 1 + i)) ?_, (starts_headline _ _).1.2 hfailed⟩
    rw [List.mk_add_mem_zipIdx_iff_getElem?]
    exact List.getElem?_eq_getElem hi

end Tap

end ParserConformance
