import Mathlib.Data.List.Basic
import ParserConformance.Proofs.Corpus.Writing

/-!
# Replacing a source text

Each block of a corpus file has its own suffix, so that its source may hold header lines and
dividers of other kinds. Here the source of one block is replaced by another text.

The scan of a body ends at a header line that is closed further down, and the search for the closing
one ends at a divider with the suffix of that line, not at the divider of the block it stands in.
So a text is *exposed* if one of its header lines finds a closing one, maybe in a later block.

## Main statements
- `Corpus.split_replaceSource`: replacing a source changes nothing but that source, and the numbers
  of the lines below it, just if the new text is not exposed.
- `Corpus.split_strayLine`: a single line of `=` in a block with a suffix is exposed to the header of
  a block without one.
-/

namespace ParserConformance.Corpus

/-! ### Complete blocks -/

/-- A complete block as it stands in a corpus file. A text is given by its lines. -/
structure Entry where
  /-- The suffix of its header lines and its divider. -/
  suffix : Line
  /-- How many `=` its first header line has. -/
  opening : Nat
  /-- How many `=` its second header line has. -/
  closing : Nat
  /-- How many `-` its divider has. -/
  dashes : Nat
  /-- Its name, and switches if it has any. -/
  title : List Line
  /-- The source text. -/
  source : List Line
  /-- The expected tree. -/
  expected : List Line
  deriving DecidableEq, Repr

namespace Entry

/-- A header line with `n` marks. -/
def headerLine (e : Entry) (n : Nat) : Line := List.replicate n '=' ++ e.suffix

/-- The divider. -/
def divider (e : Entry) : Line := List.replicate e.dashes '-' ++ e.suffix

/-- The lines below the source. -/
def below (e : Entry) : List Line := e.divider :: [] :: e.expected

/-- The lines of a block. -/
def lines (e : Entry) : List Line :=
  e.headerLine e.opening :: (e.title ++ e.headerLine e.closing :: (e.source ++ e.below))

end Entry

/-- A line of a title that is no switch and not blank. -/
def IsNameLine (l : Line) : Prop := Text.trim l ≠ [] ∧ (Text.trim l).head? ≠ some ':'

/-- All of a block but its source is as it should be. -/
structure Entry.IsFramed (e : Entry) : Prop where
  /-- The suffix can be told from the marks before it. -/
  suffix : IsSuffix e.suffix
  /-- The first header line has enough marks. -/
  opening : 3 ≤ e.opening
  /-- The second one has, too. -/
  closing : 3 ≤ e.closing
  /-- So has the divider. -/
  dashes : 3 ≤ e.dashes
  /-- There is a name. -/
  named : ∃ l ∈ e.title, IsNameLine l
  /-- No line of the title closes the header. -/
  titleHeaders : ∀ l ∈ e.title, suffixOfHeader? l ≠ some e.suffix
  /-- No line of the title is taken for the divider. -/
  titleDividers : ∀ l ∈ e.title, dividesWith e.suffix l = false
  /-- The expected tree holds no header line. -/
  expectedHeaders : ∀ l ∈ e.expected, suffixOfHeader? l = none
  /-- The expected tree holds no divider of the block. -/
  expectedDividers : ∀ l ∈ e.expected, dividesWith e.suffix l = false

/-- A block as it should be. -/
structure Entry.WellFormed (e : Entry) : Prop extends e.IsFramed where
  /-- The source holds no header line. -/
  sourceHeaders : ∀ l ∈ e.source, suffixOfHeader? l = none

/-- The text of a corpus file that holds just these blocks. -/
def IsFileOf (es : List Entry) (text : String) : Prop := Text.lines text.toList = es.flatMap Entry.lines

theorem isFileOf_writeLines {es : List Entry} (h : ∀ l ∈ es.flatMap Entry.lines, Text.FitsLine l) :
    IsFileOf es (String.ofList (Text.writeLines (es.flatMap Entry.lines))) := by
  rw [IsFileOf, String.toList_ofList, Text.lines_writeLines h]

/-! ### Exposed lines -/

/-- A header line with the suffix comes, and no divider with it before. -/
def IsClosed (suffix : Line) (ls : List Line) : Prop :=
  ∃ between c under, ls = between ++ c :: under ∧ suffixOfHeader? c = some suffix ∧
    ∀ l ∈ between, dividesWith suffix l = false

/-- A header line of the text is closed further down, in the text or in the lines after it. -/
def IsExposed (text rest : List Line) : Prop :=
  ∃ above l under suffix, text = above ++ l :: under ∧ suffixOfHeader? l = some suffix ∧
    IsClosed suffix (under ++ rest)

theorem closesHeader_iff {suffix : Line} {ls : List Line} :
    closesHeader suffix ls = true ↔ IsClosed suffix ls := by
  constructor
  · intro h
    induction ls with
    | nil => exact absurd h Bool.false_ne_true
    | cons l ls ih =>
      rw [closesHeader] at h
      split at h
      · next hl => exact ⟨[], l, ls, rfl, hl, by simp⟩
      · split at h
        · exact absurd h Bool.false_ne_true
        · next hl =>
          obtain ⟨between, c, under, rfl, hc, hb⟩ := ih h
          exact ⟨l :: between, c, under, rfl, hc,
            List.forall_mem_cons.2 ⟨Bool.eq_false_iff.2 hl, hb⟩⟩
  · rintro ⟨between, c, under, rfl, hc, hb⟩
    exact closesHeader_append hc under hb

theorem opensBlock_cons_iff {l : Line} {ls : List Line} :
    opensBlock (l :: ls) = true ↔ ∃ suffix, suffixOfHeader? l = some suffix ∧ IsClosed suffix ls := by
  rw [opensBlock]
  cases suffixOfHeader? l with
  | none => simp
  | some s => simp [closesHeader_iff]

theorem not_isExposed_nil (rest : List Line) : ¬IsExposed [] rest := by
  rintro ⟨above, l, under, suffix, h, -⟩
  simp at h

/-- A text is exposed if its first line opens a block, or the text after it is. -/
theorem isExposed_cons {l : Line} {ls rest : List Line} :
    IsExposed (l :: ls) rest ↔ opensBlock (l :: (ls ++ rest)) = true ∨ IsExposed ls rest := by
  rw [opensBlock_cons_iff]
  constructor
  · rintro ⟨above, m, under, suffix, h, hm, hclosed⟩
    cases above with
    | nil =>
      obtain ⟨rfl, rfl⟩ := List.cons.inj h
      exact .inl ⟨suffix, hm, hclosed⟩
    | cons a above => exact .inr ⟨above, m, under, suffix, (List.cons.inj h).2, hm, hclosed⟩
  · rintro (⟨suffix, hl, hclosed⟩ | ⟨above, m, under, suffix, rfl, hm, hclosed⟩)
    · exact ⟨[], l, ls, suffix, rfl, hl, hclosed⟩
    · exact ⟨l :: above, m, under, suffix, rfl, hm, hclosed⟩

instance decidableIsExposed : (text rest : List Line) → Decidable (IsExposed text rest)
  | [], rest => .isFalse (not_isExposed_nil rest)
  | _ :: ls, rest =>
    have := decidableIsExposed ls rest
    decidable_of_iff _ isExposed_cons.symm

theorem not_isExposed_of_no_header {text : List Line} (h : ∀ l ∈ text, suffixOfHeader? l = none)
    (rest : List Line) : ¬IsExposed text rest := by
  rintro ⟨above, l, under, suffix, rfl, hl, -⟩
  rw [h l (by simp)] at hl
  cases hl

/-- The scan of a body passes over a text that is not exposed. -/
theorem splitBody_append_of_not_isExposed {text rest : List Line} (h : ¬IsExposed text rest) :
    splitBody (text ++ rest) = (text ++ (splitBody rest).1, (splitBody rest).2) := by
  induction text with
  | nil => rfl
  | cons l ls ih =>
    rw [isExposed_cons, not_or] at h
    rw [List.cons_append, splitBody_cons_of_not_opensBlock h.1, ih h.2]
    rfl

/-- The scan of a body ends in a text that is exposed, before one of its header lines. -/
theorem splitBody_append_of_isExposed {text rest : List Line} (h : IsExposed text rest) :
    ∃ above l under, text = above ++ l :: under ∧ suffixOfHeader? l ≠ none ∧
      (splitBody (text ++ rest)).1 = above := by
  induction text with
  | nil => exact absurd h (not_isExposed_nil rest)
  | cons l ls ih =>
    by_cases ho : opensBlock (l :: (ls ++ rest)) = true
    · obtain ⟨suffix, hl, -⟩ := opensBlock_cons_iff.1 ho
      refine ⟨[], l, ls, rfl, by simp [hl], ?_⟩
      rw [List.cons_append, splitBody, if_pos ho]
    · obtain ⟨above, m, under, rfl, hm, hs⟩ := ih ((isExposed_cons.1 h).resolve_left ho)
      refine ⟨l :: above, m, under, rfl, hm, ?_⟩
      rw [List.cons_append, splitBody_cons_of_not_opensBlock ho, hs]

/-! ### Files of complete blocks -/

namespace Entry

variable {e : Entry}

/-- The block that an entry makes, if its first line has the number `line`. -/
def block (line : Nat) (e : Entry) : Block := ⟨line, e.suffix, e.title, some (e.source ++ e.below)⟩

/-- The blocks that entries make, the first one beginning on the line of number `line`. -/
def blocks (line : Nat) : List Entry → List Block
  | [] => []
  | e :: es => e.block line :: blocks (line + e.lines.length) es

theorem length_lines (e : Entry) :
    e.lines.length = e.title.length + 2 + e.below.length + e.source.length := by
  simp only [lines, List.length_cons, List.length_append]
  omega

theorem length_blocks (line : Nat) (es : List Entry) : (blocks line es).length = es.length := by
  induction es generalizing line with
  | nil => rfl
  | cons e es ih => rw [blocks, List.length_cons, ih, List.length_cons]

theorem IsFramed.suffixOfHeader?_headerLine (h : e.IsFramed) {n : Nat} (hn : 3 ≤ n) :
    suffixOfHeader? (e.headerLine n) = some e.suffix :=
  suffixOfHeader?_marks h.suffix hn

theorem IsFramed.dividesWith_divider (h : e.IsFramed) : dividesWith e.suffix e.divider = true :=
  dividesWith_marks h.suffix h.dashes

/-- The first line of a block opens it, whatever its source is. -/
theorem IsFramed.opensBlock_append (h : e.IsFramed) (rest : List Line) :
    opensBlock (e.lines ++ rest) = true := by
  simp only [lines, List.cons_append, List.append_assoc]
  exact opensBlock_header (h.suffixOfHeader?_headerLine h.opening)
    (h.suffixOfHeader?_headerLine h.closing) h.titleDividers _

theorem IsFramed.splitBody_below (h : e.IsFramed) {rest : List Line}
    (hr : rest = [] ∨ opensBlock rest = true) : splitBody (e.below ++ rest) = (e.below, rest) := by
  refine splitBody_of_isQuiet (isQuiet_of_no_header ?_) hr
  refine List.forall_mem_cons.2 ⟨suffixOfHeader?_of_dividesWith h.dividesWith_divider, ?_⟩
  exact List.forall_mem_cons.2 ⟨rfl, h.expectedHeaders⟩

/-- The header of an entry makes a block with the lines up to the next one that opens a block. -/
theorem IsFramed.blocksFrom_append (h : e.IsFramed) (n : Nat) (rest : List Line) :
    ∃ more, blocksFrom n (e.lines ++ rest) =
      ⟨n, e.suffix, e.title, some (splitBody (e.source ++ (e.below ++ rest))).1⟩ :: more := by
  simp only [lines, List.cons_append, List.append_assoc]
  exact ⟨_, blocksFrom_of_splitBody (h.suffixOfHeader?_headerLine h.opening)
    (h.suffixOfHeader?_headerLine h.closing) h.titleHeaders rfl n⟩

/-- An entry whose source is not exposed makes its block. -/
theorem IsFramed.blocksFrom_append_of_not_isExposed (h : e.IsFramed) {rest : List Line}
    (he : ¬IsExposed e.source (e.below ++ rest)) (hr : rest = [] ∨ opensBlock rest = true) (n : Nat) :
    blocksFrom n (e.lines ++ rest) = e.block n :: blocksFrom (n + e.lines.length) rest := by
  have hb : splitBody (e.source ++ (e.below ++ rest)) = (e.source ++ e.below, rest) := by
    rw [splitBody_append_of_not_isExposed he, h.splitBody_below hr]
  have := blocksFrom_of_splitBody (h.suffixOfHeader?_headerLine h.opening)
    (h.suffixOfHeader?_headerLine h.closing) h.titleHeaders hb n
  have hlength : n + e.lines.length = n + e.title.length + 2 + (e.source ++ e.below).length := by
    rw [length_lines, List.length_append]
    omega
  rw [hlength]
  simp only [lines, List.cons_append, List.append_assoc]
  exact this

/-- The first of some entries opens a block, if there is one. -/
theorem flatMap_lines_opens {es : List Entry} (h : ∀ e ∈ es, e.IsFramed) {rest : List Line}
    (hr : rest = [] ∨ opensBlock rest = true) :
    es.flatMap lines ++ rest = [] ∨ opensBlock (es.flatMap lines ++ rest) = true := by
  cases es with
  | nil => exact hr
  | cons e es =>
    rw [List.flatMap_cons, List.append_assoc]
    exact .inr ((h e List.mem_cons_self).opensBlock_append _)

/-- Entries make one block each, before whatever opens another one. -/
theorem blocksFrom_flatMap_lines {es : List Entry} (h : ∀ e ∈ es, e.WellFormed) {rest : List Line}
    (hr : rest = [] ∨ opensBlock rest = true) (n : Nat) :
    blocksFrom n (es.flatMap lines ++ rest) =
      blocks n es ++ blocksFrom (n + (es.flatMap lines).length) rest := by
  induction es generalizing n with
  | nil => rfl
  | cons e es ih =>
    obtain ⟨he, hes⟩ := List.forall_mem_cons.1 h
    have hopens := flatMap_lines_opens (fun e he => (hes e he).toIsFramed) hr
    rw [List.flatMap_cons, List.append_assoc, he.blocksFrom_append_of_not_isExposed
      (not_isExposed_of_no_header he.sourceHeaders _) hopens, ih hes, blocks, List.length_append,
      Nat.add_assoc, List.cons_append]

/-- The blocks of a file of entries around an entry whose source is not exposed. -/
theorem blocksFrom_middle {before after : List Entry} (hbefore : ∀ e ∈ before, e.WellFormed)
    (hafter : ∀ e ∈ after, e.WellFormed) (h : e.IsFramed)
    (he : ¬IsExposed e.source (e.below ++ after.flatMap lines)) (n : Nat) :
    blocksFrom n ((before ++ e :: after).flatMap lines) =
      blocks n before ++ e.block (n + (before.flatMap lines).length) ::
        blocks (n + (before.flatMap lines).length + e.lines.length) after := by
  have hr : after.flatMap lines = [] ∨ opensBlock (after.flatMap lines) = true := by
    simpa using flatMap_lines_opens (fun e he => (hafter e he).toIsFramed) (.inl rfl)
  have hrest := blocksFrom_flatMap_lines hafter (.inl rfl)
    (n + (before.flatMap lines).length + e.lines.length)
  rw [List.append_nil, blocksFrom, List.append_nil] at hrest
  rw [List.flatMap_append, List.flatMap_cons,
    blocksFrom_flatMap_lines hbefore (.inr (h.opensBlock_append _)),
    h.blocksFrom_append_of_not_isExposed he hr, hrest]

end Entry

/-! ### Names -/

namespace Title

theorem mem_nameLines_add {t : Title} {l n : Line} :
    n ∈ (t.add l).nameLines ↔ n ∈ t.nameLines ∨ IsNameLine l ∧ n = Text.trim l := by
  rw [add, IsNameLine]
  split
  · next h => simp [h]
  · next name h =>
    dsimp only
    split_ifs <;> simp [h]
  · next hnil hcolon =>
    have hne : Text.trim l ≠ [] := hnil
    have hhead : (Text.trim l).head? ≠ some ':' := by
      intro h
      obtain ⟨name, h⟩ := List.head?_eq_some_iff.1 h
      exact hcolon name h
    simp [hhead, hne]

theorem mem_nameLines_foldl {ls : List Line} {t : Title} {n : Line} :
    n ∈ (ls.foldl add t).nameLines ↔ n ∈ t.nameLines ∨ ∃ l ∈ ls, IsNameLine l ∧ n = Text.trim l := by
  induction ls generalizing t with
  | nil => simp
  | cons l ls ih => rw [List.foldl_cons, ih, mem_nameLines_add, List.exists_mem_cons_iff, or_assoc]

/-- A name is made of the title lines for it, blanks around them aside. -/
theorem mem_nameLines_ofLines {ls : List Line} {n : Line} :
    n ∈ (ofLines ls).nameLines ↔ ∃ l ∈ ls, IsNameLine l ∧ n = Text.trim l := by
  rw [ofLines, mem_nameLines_foldl]
  simp [empty]

/-- A title with a line for a name gives a name. -/
theorem name_ofLines_ne_empty {ls : List Line} (h : ∃ l ∈ ls, IsNameLine l) :
    (ofLines ls).name.isEmpty = false := by
  obtain ⟨l, hl, hname⟩ := h
  have hmem : Text.trim l ∈ (ofLines ls).nameLines := mem_nameLines_ofLines.2 ⟨l, hl, hname, rfl⟩
  rw [name, String.isEmpty_eq_false_iff]
  intro he
  exact Text.joinWith_ne_nil hmem hname.1 (by simpa using congrArg String.toList he)

end Title

/-! ### Fixtures of complete blocks -/

/-- The same fixture, with `added` lines above it in the place of `removed` ones. -/
def Fixture.moved (removed added : Nat) (f : Fixture) : Fixture :=
  { f with
    expectedLine := f.expectedLine - removed + added
    origin := ⟨f.origin.file, f.origin.line - removed + added⟩ }

/-- The fixtures of a file with another source for the one at `index`, whose `removed` lines become
`added` ones. -/
def replaceSource (source : String) (removed added : Nat) : (index : Nat) → List Fixture → List Fixture
  | _, [] => []
  | 0, f :: fs =>
    { f with source, expectedLine := f.expectedLine - removed + added } ::
      fs.map (Fixture.moved removed added)
  | index + 1, f :: fs => f :: replaceSource source removed added index fs

theorem replaceSource_append (source : String) (removed added : Nat) (fs : List Fixture) (f : Fixture)
    (gs : List Fixture) : replaceSource source removed added fs.length (fs ++ f :: gs) =
      fs ++ { f with source, expectedLine := f.expectedLine - removed + added } ::
        gs.map (Fixture.moved removed added) := by
  induction fs with
  | nil => rfl
  | cons g fs ih => rw [List.cons_append, List.length_cons, replaceSource, ih, List.cons_append]

namespace Entry

variable {e : Entry}

/-- The fixture that an entry stands for, if its first line has the number `line` in `file`. -/
def fixture (file : Path) (line : Nat) (e : Entry) : Fixture where
  name := (Title.ofLines e.title).name
  source := textOf e.source
  expected := String.ofList (Text.trim (['\n'].intercalate ([] :: e.expected)))
  expectedLine := line + e.title.length + e.source.length + leadingBlankLines ([] :: e.expected) + 3
  switches := (Title.ofLines e.title).switches
  origin := ⟨file, line⟩
  flaw := (Title.ofLines e.title).flaw?

theorem IsFramed.fixture_block (h : e.IsFramed) (file : Path) (line : Nat) :
    (e.block line).fixture file = e.fixture file line := by
  have hs : splitAtDivider e.suffix (e.source ++ e.below) = some (e.source, [] :: e.expected) :=
    splitAtDivider_append h.dividesWith_divider e.source
      (List.forall_mem_cons.2 ⟨dividesWith_eq_false (by simp) _, h.expectedDividers⟩)
  have hcontent : (e.block line).content = ⟨textOf e.source,
      String.ofList (Text.trim (['\n'].intercalate ([] :: e.expected))),
      line + e.title.length + e.source.length + leadingBlankLines ([] :: e.expected) + 3, none⟩ := by
    simp only [Block.content, block, hs, textOf_eq, ← Text.unlines_eq_intercalate]
  have hname : (Title.ofLines (e.block line).title).name.isEmpty = false :=
    Title.name_ofLines_ne_empty h.named
  simp only [Block.fixture, hcontent, hname, Bool.false_eq_true, if_false, Option.or_none]
  rfl

/-- A fixture whose source is replaced keeps all else but the line on which its tree begins. -/
theorem fixture_replaced (file : Path) (line : Nat) (e : Entry) (new : List Line) :
    { e with source := new }.fixture file line =
      { e.fixture file line with
        source := textOf new
        expectedLine := (e.fixture file line).expectedLine - e.source.length + new.length } := by
  simp only [fixture, Fixture.mk.injEq, true_and, and_true]
  omega

theorem moved_fixture (file : Path) (line removed added : Nat) (e : Entry) :
    (e.fixture file (line + removed)).moved removed added = e.fixture file (line + added) := by
  simp only [fixture, Fixture.moved, Fixture.mk.injEq, Origin.mk.injEq, true_and, and_true]
  omega

/-- Blocks below a source that becomes longer or shorter move with their numbers only. -/
theorem map_moved_blocks {es : List Entry} (h : ∀ e ∈ es, e.IsFramed) (file : Path)
    (line removed added : Nat) :
    ((blocks (line + removed) es).map (Block.fixture file)).map (Fixture.moved removed added) =
      (blocks (line + added) es).map (Block.fixture file) := by
  induction es generalizing line with
  | nil => rfl
  | cons e es ih =>
    obtain ⟨he, hes⟩ := List.forall_mem_cons.1 h
    have := ih hes (line + e.lines.length)
    rw [Nat.add_right_comm, Nat.add_right_comm line _ added] at this
    simp only [blocks, List.map_cons, he.fixture_block, moved_fixture, this]

end Entry

/-! ### Two kinds of blocks -/

/-- A block with a suffix. -/
def suffixed : Entry :=
  ⟨"|||".toList, 3, 3, 3, ["Heading".toList], ["text".toList], ["(document)".toList, []]⟩

/-- A block without one. -/
def unsuffixed : Entry := ⟨[], 3, 3, 3, ["Plain".toList], ["x".toList], ["(document)".toList]⟩

/-- A file of the two blocks, with another source for the first one. -/
def twoKinds (source : List Line) : String :=
  String.ofList (Text.writeLines ([{ suffixed with source }, unsuffixed].flatMap Entry.lines))

theorem wellFormed_of_mem_twoKinds : ∀ e ∈ [suffixed, unsuffixed], e.WellFormed := by
  intro e he
  simp only [List.mem_cons, List.not_mem_nil, or_false] at he
  rcases he with rfl | rfl <;>
    exact ⟨⟨⟨by decide, by decide, by decide⟩, by decide, by decide, by decide,
      ⟨_, List.mem_cons_self, by decide, by decide⟩, by decide, by decide, by decide, by decide⟩,
      by decide⟩

/-! ### Replacing -/

variable {before after : List Entry} {e : Entry} {new : List Line}

theorem split_of_isFileOf (file : Path) {es : List Entry} {text : String} (h : IsFileOf es text) :
    split file text = (blocksFrom 1 (es.flatMap Entry.lines)).map (Block.fixture file) := by
  rw [split, h, blocks]

/-- The fixtures of a file of entries around an entry whose source is not exposed. -/
theorem split_middle (file : Path) {text : String} (hbefore : ∀ x ∈ before, x.WellFormed)
    (hafter : ∀ x ∈ after, x.WellFormed) (h : e.IsFramed)
    (he : ¬IsExposed e.source (e.below ++ after.flatMap Entry.lines))
    (hfile : IsFileOf (before ++ e :: after) text) :
    split file text = (Entry.blocks 1 before).map (Block.fixture file) ++
      e.fixture file (1 + (before.flatMap Entry.lines).length) ::
        (Entry.blocks (1 + (before.flatMap Entry.lines).length + e.lines.length) after).map
          (Block.fixture file) := by
  rw [split_of_isFileOf file hfile, Entry.blocksFrom_middle hbefore hafter h he, List.map_append,
    List.map_cons, h.fixture_block]

/-- A source that is exposed is cut short in its fixture. -/
theorem split_middle_of_isExposed (file : Path) {text : String} (hbefore : ∀ x ∈ before, x.WellFormed)
    (h : e.IsFramed) (he : IsExposed e.source (e.below ++ after.flatMap Entry.lines))
    (dividers : ∀ l ∈ e.source, dividesWith e.suffix l = false)
    (hfile : IsFileOf (before ++ e :: after) text) :
    ∃ f fs, split file text = (Entry.blocks 1 before).map (Block.fixture file) ++ f :: fs ∧
      f.source ≠ textOf e.source := by
  obtain ⟨above, l, under, hsource, hl, hbody⟩ := splitBody_append_of_isExposed he
  obtain ⟨more, hmore⟩ := h.blocksFrom_append (1 + (before.flatMap Entry.lines).length)
    (after.flatMap Entry.lines)
  rw [hbody] at hmore
  refine ⟨Block.fixture file ⟨1 + (before.flatMap Entry.lines).length, e.suffix, e.title, some above⟩,
    more.map (Block.fixture file), ?_, ?_⟩
  · rw [split_of_isFileOf file hfile, List.flatMap_append, List.flatMap_cons,
      Entry.blocksFrom_flatMap_lines hbefore (.inr (h.opensBlock_append _)), hmore, List.map_append,
      List.map_cons]
  · -- The block has lost its divider, so what is left of its body is the source.
    have hnone : splitAtDivider e.suffix above = none :=
      splitAtDivider_eq_none fun m hm => dividers m (by simp [hsource, hm])
    have hne : l ≠ [] := by
      rintro rfl
      exact hl rfl
    intro hs
    simp only [Block.fixture, Block.content, hnone, textOf_eq, hsource, String.ofList_inj] at hs
    exact Text.unlines_ne_of_lt hne above under hs

/-- **Replacing a source changes nothing else just if the new text is not exposed.** The new text
holds no divider with the suffix of its block. -/
theorem split_replaceSource (file : Path) {text text' : String}
    (entries : ∀ x ∈ before ++ e :: after, x.WellFormed)
    (dividers : ∀ l ∈ new, dividesWith e.suffix l = false)
    (isFile : IsFileOf (before ++ e :: after) text)
    (isFile' : IsFileOf (before ++ { e with source := new } :: after) text') :
    split file text' =
        replaceSource (textOf new) e.source.length new.length before.length (split file text) ↔
      ¬IsExposed new (e.below ++ after.flatMap Entry.lines) := by
  obtain ⟨hbefore, he, hafter⟩ := List.forall_mem_append.1 entries |>.imp_right List.forall_mem_cons.1
  have he' : { e with source := new }.IsFramed := { he.toIsFramed with }
  have hold := split_middle file hbefore hafter he.toIsFramed
    (not_isExposed_of_no_header he.sourceHeaders _) isFile
  have hlength : before.length = ((Entry.blocks 1 before).map (Block.fixture file)).length := by
    rw [List.length_map, Entry.length_blocks]
  rw [hold, hlength, replaceSource_append]
  constructor
  · intro h hexposed
    obtain ⟨f, fs, hnew, hf⟩ := split_middle_of_isExposed file hbefore he' hexposed dividers isFile'
    rw [hnew] at h
    exact hf (congrArg Fixture.source (List.cons.inj (List.append_cancel_left h)).1)
  · intro h
    rw [split_middle file hbefore hafter he' h isFile', Entry.fixture_replaced]
    generalize 1 + (before.flatMap Entry.lines).length = first
    have hlines (source : List Line) : first + { e with source }.lines.length =
        first + (e.title.length + 2 + e.below.length) + source.length := by
      rw [Entry.length_lines, ← Nat.add_assoc]
      rfl
    have hafter' : ∀ x ∈ after, x.IsFramed := fun x hx => (hafter x hx).toIsFramed
    rw [hlines new, show first + e.lines.length = _ from hlines e.source,
      Entry.map_moved_blocks hafter']

/-- A line of `=` is not closed further down if a divider without a suffix comes next. -/
theorem split_replaceSource_underlined :
    (∀ x ∈ [] ++ suffixed :: [unsuffixed], x.WellFormed) ∧
      (∀ l ∈ ["Title".toList, "===".toList, "---".toList], dividesWith suffixed.suffix l = false) ∧
      IsFileOf ([] ++ suffixed :: [unsuffixed]) (twoKinds ["text".toList]) ∧
      IsFileOf ([] ++ { suffixed with source := ["Title".toList, "===".toList, "---".toList] } ::
        [unsuffixed]) (twoKinds ["Title".toList, "===".toList, "---".toList]) ∧
      split ⟨"basic.txt"⟩ (twoKinds ["Title".toList, "===".toList, "---".toList]) =
        replaceSource "Title\n===\n---" 1 3 0 (split ⟨"basic.txt"⟩ (twoKinds ["text".toList])) := by
  have dividers : ∀ l ∈ ["Title".toList, "===".toList, "---".toList],
      dividesWith suffixed.suffix l = false := by decide
  have isFile : IsFileOf ([] ++ suffixed :: [unsuffixed]) (twoKinds ["text".toList]) :=
    isFileOf_writeLines (by decide)
  have isFile' : IsFileOf ([] ++ { suffixed with
      source := ["Title".toList, "===".toList, "---".toList] } :: [unsuffixed])
      (twoKinds ["Title".toList, "===".toList, "---".toList]) := isFileOf_writeLines (by decide)
  refine ⟨wellFormed_of_mem_twoKinds, dividers, isFile, isFile', ?_⟩
  exact (split_replaceSource ⟨"basic.txt"⟩ wellFormed_of_mem_twoKinds dividers isFile isFile').2
    (by decide)

/-- A line of `=` that the header of the next block closes: the divider of its own block, which has
another suffix, does not end the search. -/
theorem split_strayLine :
    twoKinds ["Title".toList, "===".toList] =
        "===|||\nHeading\n===|||\nTitle\n===\n---|||\n\n(document)\n\n" ++
          "===\nPlain\n===\nx\n---\n\n(document)\n" ∧
      (∀ x ∈ [suffixed, unsuffixed], x.WellFormed) ∧ suffixed.suffix ≠ [] ∧
      IsFileOf [suffixed, unsuffixed] (twoKinds ["text".toList]) ∧
      IsFileOf [{ suffixed with source := ["Title".toList, "===".toList] }, unsuffixed]
        (twoKinds ["Title".toList, "===".toList]) ∧
      (∀ l ∈ ["Title".toList, "===".toList], suffixOfHeader? l ≠ some suffixed.suffix) ∧
      (∀ l ∈ ["Title".toList, "===".toList], dividesWith suffixed.suffix l = false) ∧
      split ⟨"basic.txt"⟩ (twoKinds ["text".toList]) =
        [⟨"Heading", "text", "(document)", 7, ⟨false, false⟩, ⟨⟨"basic.txt"⟩, 1⟩, none⟩,
          ⟨"Plain", "x", "(document)", 15, ⟨false, false⟩, ⟨⟨"basic.txt"⟩, 9⟩, none⟩] ∧
      split ⟨"basic.txt"⟩ (twoKinds ["Title".toList, "===".toList]) =
        [⟨"Heading", "Title", "", 1, ⟨false, false⟩, ⟨⟨"basic.txt"⟩, 1⟩, some .noDivider⟩,
          ⟨"---||| (document)", "Plain\n===\nx", "(document)", 16, ⟨false, false⟩,
            ⟨⟨"basic.txt"⟩, 5⟩, none⟩] := by
  refine ⟨by decide, wellFormed_of_mem_twoKinds, by decide, isFileOf_writeLines (by decide),
    isFileOf_writeLines (by decide), by decide, by decide, ?_, ?_⟩
  · decide +kernel
  · decide +kernel

end ParserConformance.Corpus
