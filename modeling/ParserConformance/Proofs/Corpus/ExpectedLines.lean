import ParserConformance.Proofs.Annotation.FaultPlaces
import ParserConformance.Proofs.Corpus.Covering

/-!
# The lines of an expected tree

The expected tree of a fixture is what stands below its divider, without the blanks around it. Blank
lines at its beginning and at its end are left out with these, and the first and the last of the other
lines may lose blanks; nothing else is changed. So the lines of the expected tree are neighbouring lines
of the file, and the number that a fixture has for the first of them tells all others.

What is wrong with the annotation is on one of its lines, so the line of the file that a message names
is one below the divider and before the next header.

## Main statement
- `Corpus.split_expectedLine`: the lines of an expected tree, by their numbers in the file.
-/

namespace ParserConformance.Corpus

/-! ### Trimmed lines -/

/-- Line `e`, number `j` of the `n` lines of a text that has been trimmed, was the line `l` before. -/
def StandsIn (n j : Nat) (e l : Line) : Prop :=
  ∃ front back, l = front ++ (e ++ back) ∧ (∀ c ∈ front, Text.isBlank c = true) ∧
    (∀ c ∈ back, Text.isBlank c = true) ∧ (j ≠ 0 → front = []) ∧ (j + 1 ≠ n → back = [])

theorem exists_front (before after : List Line) (l : Line) {j : Nat} {x : Line}
    (h : (Text.trimLeft l :: after)[j]? = some x) :
    ∃ front, (before ++ l :: after)[before.length + j]? = some (front ++ x) ∧
      (∀ c ∈ front, Text.isBlank c = true) ∧ (j ≠ 0 → front = []) := by
  rw [List.getElem?_append_right (Nat.le_add_right ..), Nat.add_sub_cancel_left]
  cases j with
  | zero =>
    obtain rfl := Option.some.inj h
    refine ⟨l.takeWhile Text.isBlank, ?_, List.all_eq_true.1 List.all_takeWhile, fun hne => absurd rfl hne⟩
    exact congrArg some List.takeWhile_append_dropWhile.symm
  | succ j => exact ⟨[], h, nofun, fun _ => rfl⟩

theorem exists_back (mid blanks : List Line) (last : Line) {j : Nat} {e : Line}
    (h : (mid ++ [Text.trimRight last])[j]? = some e) :
    ∃ back, (mid ++ last :: blanks)[j]? = some (e ++ back) ∧
      (∀ c ∈ back, Text.isBlank c = true) ∧ (j + 1 ≠ (mid ++ [Text.trimRight last]).length → back = []) := by
  rw [List.length_append, List.length_singleton]
  rcases Nat.lt_or_ge j mid.length with hj | hj
  · rw [List.getElem?_append_left hj] at h ⊢
    exact ⟨[], by rw [h, List.append_nil], nofun, fun _ => rfl⟩
  · rw [List.getElem?_append_right hj] at h ⊢
    obtain ⟨hlt, rfl⟩ := List.getElem?_eq_some_iff.1 h
    obtain rfl : j = mid.length := by
      rw [List.length_singleton] at hlt
      omega
    obtain ⟨back, hback, hblank⟩ := Text.exists_trimRight last
    refine ⟨back, ?_, hblank, fun hj => absurd rfl hj⟩
    simpa using hback

theorem isBlankLine_iff {l : Line} : isBlankLine l = true ↔ Text.trimLeft l = [] := by
  rw [isBlankLine, List.isEmpty_iff, Text.trim_eq_nil_iff, Text.trimLeft_eq_nil_iff]

/-- The last line of its kind. -/
theorem exists_last {p : Line → Prop} [DecidablePred p] {ls : List Line} (h : ∃ c ∈ ls, p c) :
    ∃ before c after, ls = before ++ c :: after ∧ p c ∧ ∀ l ∈ after, ¬p l := by
  obtain ⟨after, c, before, hls, hc, hafter⟩ := exists_first (show ∃ c ∈ ls.reverse, p c by simpa using h)
  exact ⟨before.reverse, c, after.reverse, by simpa using congrArg List.reverse hls, hc, by simpa using hafter⟩

theorem leadingBlankLines_append {before : List Line} (hbefore : ∀ b ∈ before, Text.trimLeft b = [])
    {l : Line} (hl : Text.trimLeft l ≠ []) (after : List Line) :
    leadingBlankLines (before ++ l :: after) = before.length := by
  have hall : ¬(before ++ l :: after).all isBlankLine = true := by
    intro hall
    exact hl (isBlankLine_iff.1 (List.all_eq_true.1 hall l (by simp)))
  rw [leadingBlankLines, if_neg hall,
    List.takeWhile_append_of_pos fun b hb => isBlankLine_iff.2 (hbefore b hb),
    List.takeWhile_cons_of_neg (mt isBlankLine_iff.1 hl), List.append_nil]

theorem exists_of_trim_unlines_ne_nil {ls : List Line} (h : Text.trim (Text.unlines ls) ≠ []) :
    ∃ l ∈ ls, Text.trimLeft l ≠ [] := by
  by_contra hblank
  push Not at hblank
  refine h (Text.trim_eq_nil_iff.2 fun c hc => ?_)
  by_contra hcb
  refine Text.not_mem_joinWith (fun hnewline => ?_) (fun l hl hcl => ?_) hc
  · rw [List.mem_singleton.1 hnewline] at hcb
    exact hcb (by decide)
  · exact hcb (Text.trimLeft_eq_nil_iff.1 (hblank l hl) c hcl)

/-- Lines that are trimmed at both ends stay lines. -/
theorem not_mem_of_trimmed {l last : Line} {after mid blanks : List Line}
    (h : ∀ m ∈ l :: after, '\n' ∉ m) (hmid : Text.trimLeft l :: after = mid ++ last :: blanks) :
    ∀ m ∈ mid ++ [Text.trimRight last], '\n' ∉ m := by
  obtain ⟨hl, hafter⟩ := List.forall_mem_cons.1 h
  have hm : ∀ m ∈ mid ++ last :: blanks, '\n' ∉ m := by
    rw [← hmid]
    exact List.forall_mem_cons.2 ⟨fun hmem => hl ((List.dropWhile_suffix Text.isBlank).subset hmem), hafter⟩
  obtain ⟨hmids, hlasts⟩ := List.forall_mem_append.1 hm
  refine List.forall_mem_append.2 ⟨hmids, List.forall_mem_singleton.2 fun hmem => ?_⟩
  exact (List.forall_mem_cons.1 hlasts).1 ((List.rdropWhile_prefix Text.isBlank last).subset hmem)

/-- If not all lines are blank, trimming leaves those between the first and the last other one. -/
theorem exists_standsIn {ls : List Line} (hls : ∀ l ∈ ls, '\n' ∉ l)
    (hne : Text.trim (Text.unlines ls) ≠ []) :
    ∃ es, (Text.trim (Text.unlines ls)).splitOn '\n' = es ∧ ∀ j e, es[j]? = some e →
      ∃ l, ls[leadingBlankLines ls + j]? = some l ∧ StandsIn es.length j e l := by
  obtain ⟨before, l, after, rfl, hl, hbefore⟩ := exists_first (exists_of_trim_unlines_ne_nil hne)
  replace hbefore : ∀ b ∈ before, Text.trimLeft b = [] := fun b hb => not_not.1 (hbefore b hb)
  have hlast : ∃ m ∈ Text.trimLeft l :: after, Text.trimRight m ≠ [] := by
    refine ⟨_, List.mem_cons_self, fun h => hl ?_⟩
    exact Text.trimLeft_eq_nil_iff.2 (Text.trim_eq_nil_iff.1 h)
  obtain ⟨mid, last, blanks, hmid, hlast, hblanks⟩ := exists_last hlast
  have htrim : Text.trim (Text.unlines (before ++ l :: after)) =
      Text.unlines (mid ++ [Text.trimRight last]) := by
    rw [Text.trim, Text.trimLeft_unlines hbefore hl, hmid,
      Text.trimRight_unlines (fun b hb => not_not.1 (hblanks b hb)) hlast]
  have hnewline := not_mem_of_trimmed (List.forall_mem_append.1 hls).2 hmid
  refine ⟨mid ++ [Text.trimRight last], by rw [htrim, Text.splitOn_unlines hnewline (by simp)], ?_⟩
  intro j e he
  obtain ⟨back, hx, hback, hmost⟩ := exists_back mid blanks last he
  rw [← hmid] at hx
  obtain ⟨front, hl', hfront, hfirst⟩ := exists_front before after l hx
  rw [leadingBlankLines_append hbefore hl]
  exact ⟨_, hl', front, back, rfl, hfront, hback, hfirst, hmost⟩

/-! ### Lines of the file -/

theorem getElem?_extract_eq_some_iff {L : List Line} {a b i : Nat} {l : Line} :
    (L.extract a b)[i]? = some l ↔ a + i < b ∧ L[a + i]? = some l := by
  rw [List.extract_eq_take_drop, List.getElem?_take]
  split
  · next hi => exact List.getElem?_drop ▸ (and_iff_right (by omega)).symm
  · next hi => exact iff_of_false nofun fun h => hi (by omega)

/-- The last divider with the given suffix among the lines after `close` and before `stop`. -/
structure IsDivider (L : List Line) (suffix : Line) (close stop divider : Nat) : Prop where
  /-- It is below the header. -/
  close_lt : close < divider
  /-- It is before the next header. -/
  lt_stop : divider < stop
  /-- It is a divider. -/
  divides : ∃ l, L[divider]? = some l ∧ dividesWith suffix l = true
  /-- There is none after it. -/
  last : ∀ j l, divider < j → j < stop → L[j]? = some l → dividesWith suffix l = false

/-- The lines of an expected tree are those of the file from number `f.expectedLine` on, which are all
between the divider and the stop. -/
def Fixture.ExpectsAt (L : List Line) (divider stop : Nat) (f : Fixture) : Prop :=
  ∀ j e, (f.expected.toList.splitOn '\n')[j]? = some e →
    divider < f.expectedLine + j - 1 ∧ f.expectedLine + j - 1 < stop ∧
      ∃ l, L[f.expectedLine + j - 1]? = some l ∧
        StandsIn (f.expected.toList.splitOn '\n').length j e l

section

variable {L : List Line} {close stop : Nat} {before after : List Line} {divider : Line}

theorem getElem?_of_extract (hbody : L.extract (close + 1) stop = before ++ divider :: after) {k : Nat}
    {l : Line} (hl : (divider :: after)[k]? = some l) :
    close + 1 + before.length + k < stop ∧ L[close + 1 + before.length + k]? = some l := by
  rw [Nat.add_assoc, ← getElem?_extract_eq_some_iff, hbody,
    List.getElem?_append_right (Nat.le_add_right ..), Nat.add_sub_cancel_left]
  exact hl

theorem isDivider_of_extract {suffix : Line}
    (hbody : L.extract (close + 1) stop = before ++ divider :: after)
    (hdivides : dividesWith suffix divider = true) (hlast : ∀ l ∈ after, dividesWith suffix l = false) :
    IsDivider L suffix close stop (close + 1 + before.length) := by
  obtain ⟨hstop, hdivider⟩ := getElem?_of_extract (k := 0) hbody rfl
  constructor
  case close_lt => omega
  case lt_stop => exact hstop
  case divides => exact ⟨divider, hdivider, hdivides⟩
  case last =>
    intro j l hj hj' hl
    obtain ⟨i, rfl⟩ := Nat.exists_eq_add_of_lt hj
    have hi : (L.extract (close + 1) stop)[before.length + (i + 1)]? = some l := by
      refine getElem?_extract_eq_some_iff.2 ⟨by omega, ?_⟩
      rwa [← Nat.add_assoc, ← Nat.add_assoc]
    rw [hbody, List.getElem?_append_right (Nat.le_add_right ..), Nat.add_sub_cancel_left,
      List.getElem?_cons_succ] at hi
    exact hlast l (List.mem_of_getElem? hi)

end

section

variable {L : List Line} {start close stop : Nat} {b : Block}

theorem Block.IsAt.expectedLine_fixture {before after : List Line} (h : b.IsAt L start close stop)
    (file : Path) (hsplit : splitAtDivider b.suffix (L.extract (close + 1) stop) = some (before, after)) :
    (b.fixture file).expectedLine = close + 1 + before.length + leadingBlankLines after + 2 := by
  have hlength := congrArg List.length h.title
  have := h.start_lt
  have := h.close_lt
  have := h.stop_le
  rw [List.extract_eq_take_drop, List.length_take, List.length_drop] at hlength
  refine (congrArg Content.expectedLine (Block.content_of_splitAtDivider h.body hsplit)).trans ?_
  rw [h.line]
  dsimp only
  omega

theorem Block.IsAt.expectsAt (h : b.IsAt L start close stop) (hL : ∀ l ∈ L, '\n' ∉ l) {file : Path}
    (hne : (b.fixture file).expected ≠ "") :
    ∃ divider, IsDivider L b.suffix close stop divider ∧ (b.fixture file).ExpectsAt L divider stop := by
  rcases splitAtDivider_spec b.suffix (L.extract (close + 1) stop) with
    ⟨hnone, -⟩ | ⟨before, divider, after, hsome, hbody, hdivides, hlast⟩
  · have hexpected : (b.fixture file).expected = "" := by
      simp only [Block.fixture, Block.content, h.body, hnone]
    exact absurd hexpected hne
  have hexpected : (b.fixture file).expected = String.ofList (Text.trim (Text.unlines after)) :=
    congrArg Content.expected (Block.content_of_splitAtDivider h.body hsome)
  have hafter : ∀ l ∈ after, '\n' ∉ l := by
    intro l hl
    obtain ⟨i, hi⟩ := List.mem_iff_getElem?.1 hl
    exact hL l (List.mem_of_getElem? (getElem?_of_extract (k := i + 1) hbody hi).2)
  have hnonempty : Text.trim (Text.unlines after) ≠ [] := by
    intro hempty
    rw [hexpected, hempty] at hne
    exact hne rfl
  obtain ⟨es, hes, hstands⟩ := exists_standsIn hafter hnonempty
  refine ⟨close + 1 + before.length, isDivider_of_extract hbody hdivides hlast, ?_⟩
  rw [Fixture.ExpectsAt, hexpected, String.toList_ofList, hes, h.expectedLine_fixture file hsome]
  intro j e he
  obtain ⟨l, hl, hstand⟩ := hstands j e he
  obtain ⟨hstop, hl⟩ := getElem?_of_extract (k := leadingBlankLines after + j + 1) hbody hl
  have hindex : close + 1 + before.length + leadingBlankLines after + 2 + j - 1 =
      close + 1 + before.length + (leadingBlankLines after + j + 1) := by omega
  rw [hindex]
  exact ⟨by omega, hstop, l, hl, hstand⟩

end

/-- What is wrong with an annotation is on one of its lines. -/
theorem exists_line_of_read {text : String} {fault : Annotation.Fault}
    (h : Annotation.read text = .error fault) :
    ∃ j, j < (text.toList.splitOn '\n').length ∧ fault.place.line = j + 1 := by
  obtain ⟨hone, hle⟩ := Annotation.read_within h
  rw [Text.length_splitOn]
  exact ⟨fault.place.line - 1, by omega, by omega⟩

/-- **The lines of an expected tree are lines of the file below the divider and before the next header,
and are numbered from `f.expectedLine` on**; and what is wrong with the annotation is said to be on one
of them. -/
theorem split_expectedLine {file : Path} {text : String} {i : Nat} {f : Fixture}
    (hf : (Corpus.split file text)[i]? = some f) (hne : f.expected ≠ "") :
    ∃ suffix close divider stop,
      stop = stopOf (Text.lines text.toList).length ((Corpus.split file text).map (·.origin.line)) i ∧
      f.IsAt (Text.lines text.toList) (f.origin.line - 1) close stop suffix ∧
      IsDivider (Text.lines text.toList) suffix close stop divider ∧
      f.ExpectsAt (Text.lines text.toList) divider stop ∧
      ∀ fault, Annotation.read f.expected = .error fault → f.readAnnotation = .error (f.faultText fault) ∧
        ∃ j, j < (f.expected.toList.splitOn '\n').length ∧ fault.place.line = j + 1 := by
  have hL := Text.not_mem_lines text.toList
  rw [Corpus.split] at hf ⊢
  generalize Text.lines text.toList = L at hf hL ⊢
  have hlines : ((blocks L).map (Block.fixture file)).map (·.origin.line) =
      (blocks L).map Block.line := List.map_map
  rw [List.getElem?_map] at hf
  obtain ⟨b, hb, rfl⟩ := Option.map_eq_some_iff.1 hf
  rcases blocks_cases L with hblocks | ⟨first, suffix, hblocks⟩ | ⟨first, htiles⟩
  · rw [hblocks] at hb
    cases hb
  · rw [hblocks] at hb
    obtain rfl := List.mem_singleton.1 (List.mem_of_getElem? hb)
    exact absurd rfl hne
  obtain ⟨close, hat⟩ := htiles.exists_isAt i b hb
  obtain ⟨divider, hdivider, hexpects⟩ := hat.expectsAt hL hne
  rw [hlines]
  exact ⟨b.suffix, close, divider, _, rfl, hat.fixture file, hdivider, hexpects,
    fun fault hfault => ⟨readAnnotation_of_read hfault, exists_line_of_read hfault⟩⟩

/-- A file with blank lines and carriage returns, and with the wrong bracket in an expected tree. -/
def twoLists : String :=
  "===\r\nOpen\r\n===\r\n[1\r\n---\r\n \t\r\n  (list\r\n\r\n    (MISSING ])  \r\n\r\n" ++
    "===\r\nEmpty\r\n===\r\n[]\r\n---\r\n(list)\r\n"

/-- Its first fixture. -/
def openList : Fixture :=
  ⟨"Open", "[1", "(list\n\n    (MISSING ])", 7, ⟨false, false⟩, ⟨⟨"lists.txt"⟩, 1⟩, none⟩

/-- The fixture's expected tree is on lines of its own, and the bracket is on one of these. -/
theorem split_expectedLine_openList :
    (Corpus.split ⟨"lists.txt"⟩ twoLists)[0]? = some openList ∧ openList.expected ≠ "" ∧
      (∃ divider, openList.ExpectsAt (Text.lines twoLists.toList) divider 10) ∧
      ∃ fault j, openList.readAnnotation = .error (openList.faultText fault) ∧ j < 3 ∧
        fault.place.line = j + 1 := by
  have hf : (Corpus.split ⟨"lists.txt"⟩ twoLists)[0]? = some openList := by decide +kernel
  have hne : openList.expected ≠ "" := by decide
  have hlength : (openList.expected.toList.splitOn '\n').length = 3 := by decide +kernel
  have hlines : stopOf (Text.lines twoLists.toList).length
      ((Corpus.split ⟨"lists.txt"⟩ twoLists).map (·.origin.line)) 0 = 10 := by decide +kernel
  obtain ⟨_, _, divider, stop, hstop, _, _, hexpects, hfaults⟩ := split_expectedLine hf hne
  rw [hlines] at hstop
  subst hstop
  refine ⟨hf, hne, ⟨divider, hexpects⟩, ?_⟩
  cases hread : Annotation.read openList.expected with
  | ok t =>
    refine absurd (congrArg Except.toBool hread) ?_
    change ¬_ = true
    decide +kernel
  | error fault =>
    obtain ⟨hmessage, j, hj, hline⟩ := hfaults fault hread
    exact ⟨fault, j, hmessage, hlength ▸ hj, hline⟩

end ParserConformance.Corpus
