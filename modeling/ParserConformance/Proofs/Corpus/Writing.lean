import ParserConformance.Corpus.Splitting
import ParserConformance.Proofs.Corpus.Delimiters

/-!
# Writing corpus files

A corpus file as an author writes it: lines before the first header, then one draft after the
other. A draft has a header with a name and switches, and below it either a source text and the
tree expected for it, or a text without a divider, from which no fixture can be made.

Main statement: `split_write`, splitting the written file gives back the fixture of every draft,
in order and with the lines on which its parts stand, whatever the neighbours are. Its core is
that a draft's body is quiet (`DraftBody.WellFormed.isQuiet`) and a draft opens a block
(`Draft.opensBlock_append`), so the scan of each body ends where the next draft begins.
-/

namespace ParserConformance.Corpus

/-- A switch as it is written. -/
inductive Switch where
  /-- The fixture is not to be run. -/
  | skip
  /-- The source does not parse. -/
  | error
  deriving DecidableEq, Repr

/-- The header line of a switch. -/
def Switch.line : Switch → Line
  | .skip => ':' :: "skip".toList
  | .error => ':' :: "error".toList

/-- The switches that are written, in whatever order. -/
def Switches.ofList (ws : List Switch) : Switches := ⟨ws.contains .skip, ws.contains .error⟩

/-- What is written below a header. A text is given by its lines. -/
inductive DraftBody where
  /-- A source text, a divider of so many dashes, and the tree expected for the source. -/
  | complete (dashes : Nat) (source expected : List Line)
  /-- A text without a divider. -/
  | broken (text : List Line)
  deriving DecidableEq, Repr

/-- A fixture as its author writes it. -/
structure Draft where
  /-- The suffix of its header lines and its divider. -/
  suffix : Line
  /-- How many `=` its first header line has. -/
  opening : Nat
  /-- How many `=` its second header line has. -/
  closing : Nat
  /-- Its name. -/
  name : Line
  /-- Its switches. -/
  switches : List Switch
  /-- What stands below its header. -/
  body : DraftBody
  deriving DecidableEq, Repr

/-! ### What is written -/

/-- The lines below a header with the given suffix. -/
def DraftBody.lines (s : Line) : DraftBody → List Line
  | .complete dashes source expected =>
    source ++ (List.replicate dashes '-' ++ s) :: ([] :: expected ++ [[]])
  | .broken text => text

namespace Draft

/-- A header line with `n` marks. -/
def headerLine (d : Draft) (n : Nat) : Line := List.replicate n '=' ++ d.suffix

/-- The lines between the header lines. -/
def title (d : Draft) : List Line := d.name :: d.switches.map Switch.line

/-- The lines of a draft. -/
def lines (d : Draft) : List Line :=
  d.headerLine d.opening :: (d.title ++ d.headerLine d.closing :: d.body.lines d.suffix)

end Draft

/-- The text of a corpus file: lines before the first header, then the drafts. -/
def writeDrafts (preamble : List Line) (ds : List Draft) : String :=
  String.ofList (Text.writeLines (preamble ++ ds.flatMap Draft.lines))

/-! ### What is meant -/

/-- A text given by its lines. -/
def textOf (ls : List Line) : String := String.ofList (['\n'].intercalate ls)

theorem textOf_eq (ls : List Line) : textOf ls = String.ofList (Text.unlines ls) := by
  rw [textOf, Text.unlines_eq_intercalate]

/-- The fixture that a draft stands for, if its first line has the number `line` in `file`. The
expected tree begins after the header, the source, the divider and a blank line; an empty one
stands for that blank line. -/
def Draft.fixture (file : Path) (line : Nat) (d : Draft) : Fixture :=
  let top := line + d.title.length + 2
  match d.body with
  | .complete _ source expected =>
    { name := String.ofList d.name
      source := textOf source
      expected := textOf expected
      expectedLine := top + source.length + (if textOf expected = "" then 1 else 2)
      switches := .ofList d.switches
      origin := ⟨file, line⟩
      flaw := none }
  | .broken text =>
    { name := String.ofList d.name
      source := textOf text
      expected := ""
      expectedLine := line
      switches := .ofList d.switches
      origin := ⟨file, line⟩
      flaw := some .noDivider }

/-- The fixtures that drafts stand for, the first one beginning on the line of number `line`. -/
def fixturesFrom (file : Path) (line : Nat) : List Draft → List Fixture
  | [] => []
  | d :: ds => d.fixture file line :: fixturesFrom file (line + d.lines.length) ds

/-! ### What may be written -/

/-- A line of a text: it holds neither a newline nor a carriage return. -/
def IsPlain (l : Line) : Prop := '\n' ∉ l ∧ '\r' ∉ l

instance (l : Line) : Decidable (IsPlain l) := inferInstanceAs (Decidable (_ ∧ _))

/-- Between any two header lines stands a divider with the suffix. -/
def IsParted (s : Line) (ls : List Line) : Prop :=
  ∀ before l between m after, ls = before ++ l :: (between ++ m :: after) →
    suffixOfHeader? l ≠ none → suffixOfHeader? m ≠ none → ∃ d ∈ between, dividesWith s d = true

/-- What may be written below a header with the suffix `s`. -/
inductive DraftBody.WellFormed (s : Line) : DraftBody → Prop where
  /-- Header lines in the source carry the suffix of the draft and are parted by its dividers.
  The expected tree has no blanks around it and holds neither a header line nor a divider. -/
  | complete {dashes : Nat} {source expected : List Line} (marks : 3 ≤ dashes)
      (sourcePlain : ∀ l ∈ source, IsPlain l)
      (sourceHeaders : ∀ l ∈ source, suffixOfHeader? l = none ∨ suffixOfHeader? l = some s)
      (sourceParted : IsParted s source)
      (expectedPlain : ∀ l ∈ expected, IsPlain l)
      (expectedTrimmed : Text.trim (['\n'].intercalate expected) = ['\n'].intercalate expected)
      (expectedHeaders : ∀ l ∈ expected, suffixOfHeader? l = none)
      (expectedDividers : ∀ l ∈ expected, dividesWith s l = false) :
      WellFormed s (.complete dashes source expected)
  /-- A text without a divider holds no header line either. -/
  | broken {text : List Line} (plain : ∀ l ∈ text, IsPlain l)
      (headers : ∀ l ∈ text, suffixOfHeader? l = none)
      (dividers : ∀ l ∈ text, dividesWith s l = false) : WellFormed s (.broken text)

/-- What may be written as a draft. -/
structure Draft.WellFormed (d : Draft) : Prop where
  /-- The suffix can be told from the marks before it. -/
  suffix : IsSuffix d.suffix
  /-- The suffix stands on one line. -/
  suffixLine : '\n' ∉ d.suffix
  /-- The first header line has enough marks. -/
  opening : 3 ≤ d.opening
  /-- The second one has, too. -/
  closing : 3 ≤ d.closing
  /-- There is a name. -/
  named : d.name ≠ []
  /-- The name stands on one line. -/
  nameLine : '\n' ∉ d.name
  /-- The name has no blanks around it. -/
  nameTrimmed : Text.trim d.name = d.name
  /-- The name is not taken for a switch. -/
  nameNoSwitch : d.name.head? ≠ some ':'
  /-- The name does not close the header. -/
  nameNoHeader : suffixOfHeader? d.name ≠ some d.suffix
  /-- The name is not taken for the divider. -/
  nameNoDivider : dividesWith d.suffix d.name = false
  /-- The body may stand below such a header. -/
  body : d.body.WellFormed d.suffix

/-! ### Bodies of drafts -/

theorem IsParted.tail {s l : Line} {ls : List Line} (h : IsParted s (l :: ls)) : IsParted s ls :=
  fun before a between b after hls => h (l :: before) a between b after (by rw [hls]; rfl)

/-- A line is put before parted ones if it is no header line, or a divider comes before the next
one that is. -/
theorem IsParted.cons {s l : Line} {ls : List Line} (h : IsParted s ls)
    (hl : suffixOfHeader? l ≠ none → ∀ between m after, ls = between ++ m :: after →
      suffixOfHeader? m ≠ none → ∃ d ∈ between, dividesWith s d = true) :
    IsParted s (l :: ls) := by
  intro before a between b after he ha hb
  cases before with
  | nil =>
    obtain ⟨rfl, rfl⟩ := List.cons.inj he
    exact hl ha between b after rfl hb
  | cons c before => exact h before a between b after (List.cons.inj he).2 ha hb

/-- A header line of a source is not closed: the next divider of the draft comes first. -/
theorem closesHeader_source {s d l : Line} {source : List Line} (hd : dividesWith s d = true)
    (hp : IsParted s (l :: source)) (hl : suffixOfHeader? l ≠ none) (rest : List Line) :
    closesHeader s (source ++ d :: rest) = false := by
  by_cases h : ∃ m ∈ source, suffixOfHeader? m ≠ none
  · obtain ⟨between, m, after, rfl, hm, hb⟩ := exists_first h
    have := hp [] l between m after rfl hl hm
    rw [List.append_assoc]
    exact closesHeader_eq_false _ (fun a ha => by simp [not_not.1 (hb a ha)]) this
  · have hn : ∀ m ∈ source, suffixOfHeader? m = none := by simpa using h
    rw [← List.singleton_append, ← List.append_assoc]
    refine closesHeader_eq_false _ (fun a ha => ?_) ⟨d, by simp, hd⟩
    rcases List.mem_append.1 ha with ha | ha
    · simp [hn a ha]
    · rw [List.mem_singleton.1 ha, suffixOfHeader?_of_dividesWith hd]
      simp

theorem isQuiet_source {s d : Line} (hd : dividesWith s d = true) {after : List Line}
    (ha : ∀ l ∈ after, suffixOfHeader? l = none) {source : List Line}
    (hs : ∀ l ∈ source, suffixOfHeader? l = none ∨ suffixOfHeader? l = some s)
    (hp : IsParted s source) :
    IsQuiet (source ++ d :: after) := by
  induction source with
  | nil =>
    refine isQuiet_of_no_header (List.forall_mem_cons.2 ⟨suffixOfHeader?_of_dividesWith hd, ha⟩)
  | cons l ls ih =>
    obtain ⟨hl, hls⟩ := List.forall_mem_cons.1 hs
    rw [List.cons_append]
    refine ⟨fun t ht rest => ?_, ih hls hp.tail⟩
    have hts : t = s := by
      rcases hl with hl | hl
      · exact absurd (hl.symm.trans ht) (by simp)
      · exact Option.some.inj (ht.symm.trans hl)
    rw [hts, List.append_assoc, List.cons_append]
    exact closesHeader_source hd hp (by simp [ht]) _

/-- No line below the header of a draft opens a block. -/
theorem DraftBody.WellFormed.isQuiet {s : Line} {b : DraftBody} (hs : IsSuffix s)
    (h : b.WellFormed s) : IsQuiet (b.lines s) := by
  cases h with
  | complete marks _ headers parted _ _ expectedHeaders _ =>
    refine isQuiet_source (dividesWith_marks hs marks) ?_ headers parted
    intro l hl
    simp only [List.cons_append, List.mem_cons, List.mem_append, List.not_mem_nil, or_false] at hl
    rcases hl with rfl | hl | rfl
    · rfl
    · exact expectedHeaders l hl
    · rfl
  | broken _ headers _ => exact isQuiet_of_no_header headers

/-! ### Drafts as blocks -/

theorem Switch.head?_line (w : Switch) : w.line.head? = some ':' := by
  cases w <;> rfl

namespace Draft

variable {d : Draft}

/-- The block that a draft makes. -/
def block (line : Nat) (d : Draft) : Block :=
  ⟨line, d.suffix, d.title, some (d.body.lines d.suffix)⟩

theorem length_lines (d : Draft) :
    d.lines.length = d.title.length + 2 + (d.body.lines d.suffix).length := by
  simp only [lines, List.length_cons, List.length_append]
  omega

/-- No title line of a draft is a header line with its suffix or a divider with it. -/
theorem WellFormed.title_line (h : d.WellFormed) {l : Line} (hl : l ∈ d.title) :
    suffixOfHeader? l ≠ some d.suffix ∧ dividesWith d.suffix l = false := by
  rcases List.mem_cons.1 hl with rfl | hl
  · exact ⟨h.nameNoHeader, h.nameNoDivider⟩
  · obtain ⟨w, -, rfl⟩ := List.mem_map.1 hl
    have hh : w.line.head? = some ':' := w.head?_line
    constructor
    · rw [suffixOfHeader?_eq_none (by simp [hh])]
      simp
    · exact dividesWith_eq_false (by simp [hh]) _

/-- The first line of a draft opens a block. -/
theorem WellFormed.opensBlock_append (h : d.WellFormed) (rest : List Line) :
    opensBlock (d.lines ++ rest) = true := by
  have ho : suffixOfHeader? (d.headerLine d.opening) = some d.suffix :=
    suffixOfHeader?_marks h.suffix h.opening
  have hc : suffixOfHeader? (d.headerLine d.closing) = some d.suffix :=
    suffixOfHeader?_marks h.suffix h.closing
  simp only [lines, List.cons_append, List.append_assoc]
  exact opensBlock_header ho hc (fun l hl => (h.title_line hl).2) _

/-- A draft makes one block, before whatever opens another one. -/
theorem WellFormed.blocksFrom_append (h : d.WellFormed) (n : Nat) {rest : List Line}
    (hr : rest = [] ∨ opensBlock rest = true) :
    blocksFrom n (d.lines ++ rest) = d.block n :: blocksFrom (n + d.lines.length) rest := by
  have hb := blocksFrom_block (suffixOfHeader?_marks h.suffix h.opening)
    (suffixOfHeader?_marks h.suffix h.closing) (fun l hl => (h.title_line hl).1)
    (h.body.isQuiet h.suffix) hr n
  rw [length_lines, ← Nat.add_assoc, ← Nat.add_assoc]
  simp only [lines, List.cons_append, List.append_assoc]
  exact hb

end Draft

/-- The blocks that drafts make, the first one beginning on the line of number `n`. -/
def blocksOf (n : Nat) : List Draft → List Block
  | [] => []
  | d :: ds => d.block n :: blocksOf (n + d.lines.length) ds

/-- Drafts written one after the other make one block each. -/
theorem blocksFrom_drafts {ds : List Draft} (h : ∀ d ∈ ds, d.WellFormed) (n : Nat) :
    blocksFrom n (ds.flatMap Draft.lines) = blocksOf n ds := by
  induction ds generalizing n with
  | nil => rw [List.flatMap_nil, blocksFrom, blocksOf]
  | cons d ds ih =>
    obtain ⟨hd, hds⟩ := List.forall_mem_cons.1 h
    have hr : ds.flatMap Draft.lines = [] ∨ opensBlock (ds.flatMap Draft.lines) = true := by
      cases ds with
      | nil => exact .inl rfl
      | cons e es => exact .inr ((List.forall_mem_cons.1 hds).1.opensBlock_append _)
    rw [List.flatMap_cons, hd.blocksFrom_append n hr, ih hds, blocksOf]

/-! ### Blocks as fixtures -/

theorem Title.add_name {l : Line} (h : Text.trim l = l) (hn : l ≠ []) (hs : l.head? ≠ some ':') :
    Title.empty.add l = ⟨[l], ⟨false, false⟩, none⟩ := by
  cases l with
  | nil => exact absurd rfl hn
  | cons c l =>
    rw [Title.add.eq_def, h]
    split
    · rename_i he
      exact absurd he (by simp)
    · rename_i he
      obtain ⟨rfl, -⟩ := List.cons.inj he
      exact absurd rfl hs
    · rfl

theorem Title.add_switch (t : Title) (w : Switch) :
    t.add w.line = { t with switches :=
      ⟨t.switches.skip || w == .skip, t.switches.error || w == .error⟩ } := by
  have hne : "error".toList ≠ "skip".toList := by decide
  cases w with
  | skip =>
    have hl : Text.trim Switch.skip.line = ':' :: "skip".toList := by decide
    have hw : Text.trim "skip".toList = "skip".toList := by decide
    rw [Title.add, hl]
    simp only [hw, if_true, beq_self_eq_true, Bool.or_true, show (Switch.skip == .error) = false from rfl,
      Bool.or_false]
  | error =>
    have hl : Text.trim Switch.error.line = ':' :: "error".toList := by decide
    have hw : Text.trim "error".toList = "error".toList := by decide
    rw [Title.add, hl]
    simp only [hw, if_neg hne, if_true, beq_self_eq_true, Bool.or_true,
      show (Switch.error == .skip) = false from rfl, Bool.or_false]

theorem Title.foldl_add_switches (t : Title) (ws : List Switch) :
    (ws.map Switch.line).foldl Title.add t = { t with switches :=
      ⟨t.switches.skip || ws.contains .skip, t.switches.error || ws.contains .error⟩ } := by
  induction ws generalizing t with
  | nil => simp
  | cons w ws ih =>
    rw [List.map_cons, List.foldl_cons, ih, Title.add_switch]
    simp only [List.contains_cons, Bool.or_assoc, BEq.comm]

theorem Draft.WellFormed.title_ofLines {d : Draft} (h : d.WellFormed) :
    Title.ofLines d.title = ⟨[d.name], .ofList d.switches, none⟩ := by
  rw [Title.ofLines, Draft.title, List.foldl_cons, Title.add_name h.nameTrimmed h.named h.nameNoSwitch,
    Title.foldl_add_switches]
  simp [Switches.ofList]

/-! ### Expected trees -/

/-- The text between the divider and the next draft, its blanks aside. -/
theorem trim_expected {expected : List Line}
    (h : Text.trim (Text.unlines expected) = Text.unlines expected) :
    Text.trim (Text.unlines ([] :: expected ++ [[]])) = Text.unlines expected := by
  cases expected with
  | nil => rfl
  | cons l ls =>
    rw [List.cons_append, List.cons_append, Text.unlines_cons_cons, ← List.cons_append,
      Text.unlines_append_nil (by simp)]
    exact Text.trim_between_newlines h

/-- An expected tree that is not empty begins on its first line. -/
theorem leadingBlankLines_expected {expected : List Line}
    (h : Text.trim (Text.unlines expected) = Text.unlines expected) :
    leadingBlankLines ([] :: expected ++ [[]]) = if textOf expected = "" then 0 else 1 := by
  have hb : isBlankLine [] = true := rfl
  rcases expected with _ | ⟨_ | ⟨c, l⟩, ls⟩
  · rfl
  · cases ls with
    | nil => rfl
    | cons m ls =>
      rw [Text.unlines_cons_cons, List.nil_append, Text.trim_eq_self_iff, Text.trimLeft_cons_eq_self_iff] at h
      exact absurd h.1 (by decide)
  · have hu : ∃ u, Text.unlines ((c :: l) :: ls) = c :: u := by
      cases ls with
      | nil => exact ⟨l, rfl⟩
      | cons m ls => exact ⟨_, Text.unlines_cons_cons _ _ _⟩
    obtain ⟨u, hu⟩ := hu
    rw [hu, Text.trim_eq_self_iff, Text.trimLeft_cons_eq_self_iff] at h
    have hc : isBlankLine (c :: l) = false := by
      simp [isBlankLine, Text.trim_cons_ne_nil h.1]
    simp [leadingBlankLines, hb, hc, textOf_eq, hu]

namespace Draft

variable {d : Draft}

theorem WellFormed.content_of_complete (h : d.WellFormed) {dashes : Nat}
    {source expected : List Line} (hd : d.body = .complete dashes source expected) (n : Nat) :
    (d.block n).content = ⟨textOf source, textOf expected,
      n + d.title.length + source.length + (if textOf expected = "" then 0 else 1) + 3, none⟩ := by
  have hb := h.body
  rw [hd] at hb
  obtain ⟨marks, -, -, -, -, trimmed, -, dividers⟩ := hb
  rw [← Text.unlines_eq_intercalate] at trimmed
  have hs : splitAtDivider d.suffix (d.body.lines d.suffix) =
      some (source, [] :: expected ++ [[]]) := by
    rw [hd]
    refine splitAtDivider_append (dividesWith_marks h.suffix marks) _ fun l hl => ?_
    simp only [List.cons_append, List.mem_cons, List.mem_append, List.not_mem_nil, or_false] at hl
    rcases hl with rfl | hl | rfl
    · exact dividesWith_eq_false (by simp) _
    · exact dividers l hl
    · exact dividesWith_eq_false (by simp) _
  simp only [Block.content, block, hs, trim_expected trimmed, leadingBlankLines_expected trimmed, textOf_eq]

theorem WellFormed.content_of_broken (h : d.WellFormed) {text : List Line}
    (hd : d.body = .broken text) (n : Nat) :
    (d.block n).content = ⟨textOf text, "", n, some .noDivider⟩ := by
  have hs : splitAtDivider d.suffix (d.body.lines d.suffix) = none := by
    have hb := h.body
    rw [hd] at hb ⊢
    cases hb with
    | broken _ _ dividers => exact splitAtDivider_eq_none dividers
  simp only [Block.content, block, hs, textOf_eq]
  rw [hd]
  rfl

/-- The block of a draft gives the fixture that the draft stands for. -/
theorem WellFormed.fixture_block (h : d.WellFormed) (file : Path) (n : Nat) :
    (d.block n).fixture file = d.fixture file n := by
  have ht : Title.ofLines (d.block n).title = ⟨[d.name], .ofList d.switches, none⟩ := h.title_ofLines
  have hname : Title.name ⟨[d.name], .ofList d.switches, none⟩ = String.ofList d.name := rfl
  have hne : (String.ofList d.name).isEmpty = false := by simp [h.named]
  have hline : (d.block n).line = n := rfl
  cases hd : d.body with
  | complete dashes source expected =>
    have hc := h.content_of_complete hd n
    have hl : n + d.title.length + source.length + (if textOf expected = "" then 0 else 1) + 3 =
        n + d.title.length + 2 + source.length + (if textOf expected = "" then 1 else 2) := by
      split <;> omega
    simp only [Block.fixture, Draft.fixture, ht, hc, hd, hl, hname, hne, hline, Title.flaw?]
    rfl
  | broken text =>
    have hc := h.content_of_broken hd n
    simp only [Block.fixture, Draft.fixture, ht, hc, hd, hname, hne, hline, Title.flaw?]
    rfl

end Draft

theorem map_fixture_blocksOf {ds : List Draft} (h : ∀ d ∈ ds, d.WellFormed) (file : Path) (n : Nat) :
    (blocksOf n ds).map (Block.fixture file) = fixturesFrom file n ds := by
  induction ds generalizing n with
  | nil => rfl
  | cons d ds ih =>
    obtain ⟨hd, hds⟩ := List.forall_mem_cons.1 h
    rw [blocksOf, List.map_cons, hd.fixture_block, ih hds, fixturesFrom]

/-! ### Files of drafts -/

theorem fitsLine_marks {s : Line} (hs : Text.FitsLine s) {mark : Char} (hn : mark ≠ '\n')
    (hr : mark ≠ '\r') (n : Nat) : Text.FitsLine (List.replicate n mark ++ s) := by
  refine .append (fun h => hn (List.eq_of_mem_replicate h).symm) hs fun _ h => hr ?_
  exact (List.eq_of_mem_replicate (List.mem_of_getLast? h)).symm

theorem fitsLine_of_trimmed {l : Line} (hn : '\n' ∉ l) (ht : Text.trimRight l = l) :
    Text.FitsLine l := by
  refine ⟨hn, fun h => ?_⟩
  have := Text.trimRight_eq_self_iff.1 ht _ h
  exact absurd this (by decide)

/-- Each line of a draft can be read back as a line. -/
theorem Draft.WellFormed.fitsLine {d : Draft} (h : d.WellFormed) {l : Line} (hl : l ∈ d.lines) :
    Text.FitsLine l := by
  have hs : Text.FitsLine d.suffix := fitsLine_of_trimmed h.suffixLine h.suffix.trimmed
  have hbody : ∀ m ∈ d.body.lines d.suffix, Text.FitsLine m := by
    have hb := h.body
    intro m hm
    cases hb' : d.body with
    | complete dashes source expected =>
      rw [hb'] at hb hm
      cases hb with
      | complete _ sourcePlain _ _ expectedPlain _ _ _ =>
        simp only [DraftBody.lines, List.cons_append, List.mem_append, List.mem_cons,
          List.not_mem_nil, or_false] at hm
        rcases hm with hm | rfl | rfl | hm | rfl
        · exact .of_not_mem (sourcePlain m hm).1 (sourcePlain m hm).2
        · exact fitsLine_marks hs (by decide) (by decide) _
        · exact .of_not_mem (by simp) (by simp)
        · exact .of_not_mem (expectedPlain m hm).1 (expectedPlain m hm).2
        · exact .of_not_mem (by simp) (by simp)
    | broken text =>
      rw [hb'] at hb hm
      cases hb with
      | broken plain _ _ => exact .of_not_mem (plain m hm).1 (plain m hm).2
  simp only [Draft.lines, Draft.title, List.cons_append, List.mem_cons, List.mem_append,
    List.mem_map] at hl
  rcases hl with rfl | rfl | ⟨w, -, rfl⟩ | rfl | hl
  · exact fitsLine_marks hs (by decide) (by decide) _
  · exact fitsLine_of_trimmed h.nameLine (Text.trim_eq_self_iff.1 h.nameTrimmed).2
  · cases w <;> decide
  · exact fitsLine_marks hs (by decide) (by decide) _
  · exact hbody l hl

/-- **Splitting a corpus file undoes writing it**: every draft gives its fixture, in order, with
the lines on which its parts stand. Neither what stands before the first header nor a neighbour
changes a fixture, and a draft that is broken hides no other. -/
theorem split_write (file : Path) {preamble : List Line} {ds : List Draft}
    (plain : ∀ l ∈ preamble, IsPlain l) (headers : ∀ l ∈ preamble, suffixOfHeader? l = none)
    (drafts : ∀ d ∈ ds, d.WellFormed) :
    split file (writeDrafts preamble ds) = fixturesFrom file (1 + preamble.length) ds := by
  have hfit : ∀ l ∈ preamble ++ ds.flatMap Draft.lines, Text.FitsLine l := by
    intro l hl
    rcases List.mem_append.1 hl with hl | hl
    · exact .of_not_mem (plain l hl).1 (plain l hl).2
    · obtain ⟨d, hd, hl⟩ := List.mem_flatMap.1 hl
      exact (drafts d hd).fitsLine hl
  rw [split, writeDrafts, String.toList_ofList, Text.lines_writeLines hfit, blocks,
    blocksFrom_append_of_no_header headers, blocksFrom_drafts drafts, map_fixture_blocksOf drafts]

/-- A draft whose source holds header lines and dividers of its own, one without a divider, and
one with nothing below its header but a divider. -/
def neighbours : List Draft :=
  [⟨"||".toList, 3, 4, "Heading".toList, [.error],
      .complete 5 ["===||".toList, "---||".toList, "===||".toList] ["(text".toList, "  (rule))".toList]⟩,
    ⟨[], 3, 3, "===||".toList, [], .broken ["text".toList]⟩,
    ⟨[], 4, 3, "Nothing".toList, [.error, .skip], .complete 3 [] []⟩]

theorem wellFormed_of_mem_neighbours : ∀ d ∈ neighbours, d.WellFormed := by
  have parted : IsParted "||".toList ["===||".toList, "---||".toList, "===||".toList] := by
    refine .cons (.cons (.cons ?_ ?_) ?_) ?_
    · intro before l between m after h
      simp at h
    · intro _ between m after h
      simp at h
    · intro h
      exact absurd (by decide) h
    · intro _ between m after h hm
      cases between with
      | nil => exact absurd (by decide) ((List.cons.inj h).1 ▸ hm)
      | cons x between => exact ⟨x, by simp, (List.cons.inj h).1 ▸ by decide⟩
  intro d hd
  simp only [neighbours, List.mem_cons, List.not_mem_nil, or_false] at hd
  rcases hd with rfl | rfl | rfl
  · exact ⟨⟨by decide, by decide, by decide⟩, by decide, by decide, by decide, by decide, by decide,
      by decide, by decide, by decide, by decide,
      .complete (by decide) (by decide) (by decide) parted (by decide) (by decide) (by decide)
        (by decide)⟩
  · exact ⟨⟨by decide, by decide, by decide⟩, by decide, by decide, by decide, by decide, by decide,
      by decide, by decide, by decide, by decide, .broken (by decide) (by decide) (by decide)⟩
  · refine ⟨⟨by decide, by decide, by decide⟩, by decide, by decide, by decide, by decide, by decide,
      by decide, by decide, by decide, by decide,
      .complete (by decide) (by decide) (by decide) ?_ (by decide) (by decide) (by decide)
        (by decide)⟩
    intro before l between m after h
    simp at h

theorem split_write_neighbours :
    (∀ l ∈ ["note".toList], IsPlain l) ∧ (∀ l ∈ ["note".toList], suffixOfHeader? l = none) ∧
      (∀ d ∈ neighbours, d.WellFormed) ∧
      split ⟨"basic.txt"⟩ (writeDrafts ["note".toList] neighbours) =
        [⟨"Heading", "===||\n---||\n===||", "(text\n  (rule))", 11, ⟨false, true⟩,
            ⟨⟨"basic.txt"⟩, 2⟩, none⟩,
          ⟨"===||", "text", "", 14, ⟨false, false⟩, ⟨⟨"basic.txt"⟩, 14⟩, some .noDivider⟩,
          ⟨"Nothing", "", "", 24, ⟨true, true⟩, ⟨⟨"basic.txt"⟩, 18⟩, none⟩] := by
  refine ⟨by decide, by decide, wellFormed_of_mem_neighbours, ?_⟩
  rw [split_write ⟨"basic.txt"⟩ (by decide) (by decide) wellFormed_of_mem_neighbours]
  decide

end ParserConformance.Corpus
