import ParserConformance.Proofs.Corpus.Replacing

/-!
# Headers that are never closed

A line of a title closes its header if it is a header line with the same suffix, and the search for one
goes on to the end of the file. So what a header that is never closed does to the blocks below it is
told by what stands above it.

If it is the first header line of the file, all lines below it are its title, the headers of other
blocks among them. If a block stands above it, the scan of that block's body meets it first, finds that
it opens nothing, and goes on to the blocks below.

## Main statements
- `Corpus.split_unclosed`: the blocks below a header that is never closed are found just if a block
  stands above it.
- `Corpus.split_forgotten`: a file in which one header is not closed and another fixture is lost.
-/

namespace ParserConformance.Corpus

variable {above : List Entry} {header suffix : Line} {stray below : List Line}

/-- No header line with the suffix comes after a header that is never closed, so it opens no block. -/
theorem not_isExposed_unclosed {text : List Line} (htext : ∀ l ∈ text, suffixOfHeader? l = none)
    (hheader : suffixOfHeader? header = some suffix) (hstray : ∀ l ∈ stray, suffixOfHeader? l = none)
    (hbelow : ∀ l ∈ below, suffixOfHeader? l ≠ some suffix) :
    ¬IsExposed (text ++ header :: stray) below := by
  induction text with
  | nil =>
    rw [List.nil_append, isExposed_cons, not_or]
    refine ⟨fun hopens => ?_, not_isExposed_of_no_header hstray below⟩
    obtain ⟨s, hs, between, c, under, hrest, hc, -⟩ := opensBlock_cons_iff.1 hopens
    obtain rfl : suffix = s := Option.some.inj (hheader.symm.trans hs)
    have hmem : c ∈ stray ++ below := by simp [hrest]
    rcases List.mem_append.1 hmem with hmem | hmem
    · rw [hstray c hmem] at hc
      cases hc
    · exact hbelow c hmem hc
  | cons l text ih =>
    obtain ⟨hl, htext⟩ := List.forall_mem_cons.1 htext
    rw [List.cons_append, isExposed_cons, not_or]
    refine ⟨fun hopens => ?_, ih htext⟩
    obtain ⟨s, hs, -⟩ := opensBlock_cons_iff.1 hopens
    rw [hl] at hs
    cases hs

/-- A header that is never closed becomes part of the body of the block above it. -/
theorem Entry.WellFormed.blocksFrom_unclosed {e : Entry} (h : e.WellFormed)
    (hheader : suffixOfHeader? header = some suffix) (hstray : ∀ l ∈ stray, suffixOfHeader? l = none)
    (hbelow : ∀ l ∈ below, suffixOfHeader? l ≠ some suffix) (hopens : opensBlock below = true) (n : Nat) :
    blocksFrom n (e.lines ++ (header :: (stray ++ below))) =
      ⟨n, e.suffix, e.title, some (e.source ++ e.below ++ header :: stray)⟩ ::
        blocksFrom (n + e.lines.length + (stray.length + 1)) below := by
  have htext : ∀ l ∈ e.source ++ e.below, suffixOfHeader? l = none := by
    refine List.forall_mem_append.2 ⟨h.sourceHeaders, ?_⟩
    refine List.forall_mem_cons.2 ⟨suffixOfHeader?_of_dividesWith h.dividesWith_divider, ?_⟩
    exact List.forall_mem_cons.2 ⟨rfl, h.expectedHeaders⟩
  have hbody : splitBody (e.source ++ e.below ++ header :: stray ++ below) =
      (e.source ++ e.below ++ header :: stray, below) := by
    rw [splitBody_append_of_not_isExposed (not_isExposed_unclosed htext hheader hstray hbelow)]
    cases below with
    | nil => cases hopens
    | cons l ls => rw [splitBody, if_pos hopens, List.append_nil]
  have hblock := blocksFrom_of_splitBody (h.suffixOfHeader?_headerLine h.opening)
    (h.suffixOfHeader?_headerLine h.closing) h.titleHeaders hbody n
  have hlength : n + e.lines.length + (stray.length + 1) =
      n + e.title.length + 2 + (e.source ++ e.below ++ header :: stray).length := by
    simp only [Entry.length_lines, List.length_append, List.length_cons]
    omega
  rw [hlength, ← hblock]
  simp only [Entry.lines, List.cons_append, List.append_assoc]

/-- The fixture of a header that is never closed is flawed and has no text. -/
theorem Block.fixture_of_unclosed (file : Path) {b : Block} (h : b.body = none) :
    (b.fixture file).flaw ≠ none ∧ (b.fixture file).source = "" ∧ (b.fixture file).expected = "" := by
  have hcontent : b.content = ⟨"", "", b.line, some .unclosedHeader⟩ := by rw [Block.content, h]
  refine ⟨?_, congrArg Content.source hcontent, congrArg Content.expected hcontent⟩
  have hflaw : (b.fixture file).flaw = (Title.ofLines b.title).flaw?.or b.content.flaw := rfl
  rw [hflaw, hcontent]
  cases (Title.ofLines b.title).flaw? <;> simp

/-- The fixture of a block whose title has a name has that name, whatever its body is. -/
theorem Block.name_fixture {b : Block} (h : ∃ l ∈ b.title, IsNameLine l) (file : Path) :
    (b.fixture file).name = (Title.ofLines b.title).name := by
  have hname := Title.name_ofLines_ne_empty h
  simp only [Block.fixture, hname, Bool.false_eq_true, if_false]

theorem Entry.map_name_blocks {es : List Entry} (h : ∀ e ∈ es, e.WellFormed) (file : Path) (n : Nat) :
    ((Entry.blocks n es).map (Block.fixture file)).map Fixture.name =
      es.map fun e => (Title.ofLines e.title).name := by
  induction es generalizing n with
  | nil => rfl
  | cons e es ih =>
    obtain ⟨he, hes⟩ := List.forall_mem_cons.1 h
    have hname := Block.name_fixture (b := e.block n) he.named file
    rw [Entry.blocks, List.map_cons, List.map_cons, List.map_cons, ih hes, hname]
    rfl

/-- **The blocks below a header that is never closed are found just if a block stands above it.** If
none does, the file has the one fixture of that header, which is flawed. -/
theorem split_unclosed (file : Path) {text : String} {preamble : List Line}
    (lines : Text.lines text.toList =
      preamble ++ (above.flatMap Entry.lines ++ header :: (stray ++ below)))
    (preambleHeaders : ∀ l ∈ preamble, suffixOfHeader? l = none) (entries : ∀ e ∈ above, e.WellFormed)
    (isHeader : suffixOfHeader? header = some suffix) (strayHeaders : ∀ l ∈ stray, suffixOfHeader? l = none)
    (unclosed : ∀ l ∈ below, suffixOfHeader? l ≠ some suffix) (opens : opensBlock below = true) :
    (above = [] → ∃ f, split file text = [f] ∧ f.flaw ≠ none ∧ f.source = "" ∧ f.expected = "" ∧
      f.origin = ⟨file, preamble.length + 1⟩) ∧
    (above ≠ [] → ∃ fs, fs.map Fixture.name = above.map (fun e => (Title.ofLines e.title).name) ∧
      split file text = fs ++ (blocksFrom
        (preamble.length + (above.flatMap Entry.lines).length + stray.length + 2) below).map
          (Block.fixture file)) := by
  have hblocks : split file text = (blocksFrom (1 + preamble.length)
      (above.flatMap Entry.lines ++ header :: (stray ++ below))).map (Block.fixture file) := by
    rw [split, lines, blocks, blocksFrom_append_of_no_header preambleHeaders]
  constructor
  · rintro rfl
    have hall : ∀ l ∈ stray ++ below, suffixOfHeader? l ≠ some suffix := by
      refine List.forall_mem_append.2 ⟨fun l hl => ?_, unclosed⟩
      simp [strayHeaders l hl]
    rw [List.flatMap_nil, List.nil_append, blocksFrom_of_unclosed isHeader hall] at hblocks
    obtain ⟨hflaw, hsource, hexpected⟩ := Block.fixture_of_unclosed file
      (b := ⟨1 + preamble.length, suffix, stray ++ below, none⟩) rfl
    refine ⟨_, hblocks, hflaw, hsource, hexpected, ?_⟩
    rw [Nat.add_comm]
    rfl
  · intro hne
    obtain ⟨front, e, rfl⟩ := List.eq_nil_or_concat' above |>.resolve_left hne
    obtain ⟨hfront, he⟩ := List.forall_mem_append.1 entries
    replace he := List.forall_mem_singleton.1 he
    have hnumber : preamble.length + ((front ++ [e]).flatMap Entry.lines).length + stray.length + 2 =
        1 + preamble.length + (front.flatMap Entry.lines).length + e.lines.length + (stray.length + 1) := by
      simp only [List.flatMap_append, List.flatMap_singleton, List.length_append]
      omega
    refine ⟨(Entry.blocks (1 + preamble.length) front).map (Block.fixture file) ++
      [Block.fixture file ⟨1 + preamble.length + (front.flatMap Entry.lines).length, e.suffix, e.title,
        some (e.source ++ e.below ++ header :: stray)⟩], ?_, ?_⟩
    · rw [List.map_append, List.map_append, Entry.map_name_blocks hfront, List.map_singleton,
        List.map_singleton, Block.name_fixture he.named]
    · rw [hblocks, hnumber, List.flatMap_append, List.flatMap_singleton, List.append_assoc,
        Entry.blocksFrom_flatMap_lines hfront (.inr (he.opensBlock_append _)),
        he.blocksFrom_unclosed isHeader strayHeaders unclosed opens]
      simp

/-! ### A forgotten line -/

/-- A block whose author forgot the second line of its header. -/
def forgotten : List Line :=
  ["===|||".toList, "Forgotten".toList, "text".toList, "---|||".toList, [], "(document)".toList, []]

/-- A file of some blocks, that one, and a block without a suffix below it. -/
def withForgotten (above : List Entry) : String :=
  String.ofList (Text.writeLines (above.flatMap Entry.lines ++ (forgotten ++ unsuffixed.lines)))

/-- With a block above it the forgotten line does no harm to the one below. -/
theorem split_unclosed_between :
    (∀ e ∈ [unsuffixed], e.WellFormed) ∧ suffixOfHeader? "===|||".toList = some "|||".toList ∧
      (∀ l ∈ forgotten.tail, suffixOfHeader? l = none) ∧
      (∀ l ∈ unsuffixed.lines, suffixOfHeader? l ≠ some "|||".toList) ∧
      opensBlock unsuffixed.lines = true ∧
      ∃ fs, fs.map Fixture.name = ["Plain"] ∧ split ⟨"basic.txt"⟩ (withForgotten [unsuffixed]) =
        fs ++ [⟨"Plain", "x", "(document)", 21, ⟨false, false⟩, ⟨⟨"basic.txt"⟩, 15⟩, none⟩] := by
  have hentries : ∀ e ∈ [unsuffixed], e.WellFormed :=
    fun e he => wellFormed_of_mem_twoKinds e (List.mem_cons_of_mem _ he)
  have hstray : ∀ l ∈ forgotten.tail, suffixOfHeader? l = none := by decide
  have hunclosed : ∀ l ∈ unsuffixed.lines, suffixOfHeader? l ≠ some "|||".toList := by decide
  have hlines : Text.lines (withForgotten [unsuffixed]).toList =
      [] ++ ([unsuffixed].flatMap Entry.lines ++
        "===|||".toList :: (forgotten.tail ++ unsuffixed.lines)) := by
    rw [withForgotten, String.toList_ofList, Text.lines_writeLines (by decide)]
    rfl
  obtain ⟨fs, hnames, hsplit⟩ := (split_unclosed ⟨"basic.txt"⟩ hlines (by simp) hentries (by decide)
    hstray hunclosed (by decide)).2 (by simp)
  refine ⟨hentries, by decide, hstray, hunclosed, by decide, fs, hnames, hsplit.trans ?_⟩
  refine congrArg (fs ++ ·) ?_
  decide +kernel

/-- Without one the block below it is lost: its lines count as lines of the header. -/
theorem split_forgotten :
    withForgotten [] = "===|||\nForgotten\ntext\n---|||\n\n(document)\n\n" ++
        "===\nPlain\n===\nx\n---\n\n(document)\n" ∧
      suffixOfHeader? "===|||".toList = some "|||".toList ∧
      (∀ l ∈ forgotten.tail, suffixOfHeader? l = none) ∧ unsuffixed.WellFormed ∧
      unsuffixed.suffix ≠ "|||".toList ∧ (∀ l ∈ unsuffixed.title, suffixOfHeader? l = none) ∧
      split ⟨"basic.txt"⟩ (withForgotten []) =
        [⟨"Forgotten text ---||| (document) === Plain === x --- (document)", "", "", 1, ⟨false, false⟩,
          ⟨⟨"basic.txt"⟩, 1⟩, some .unclosedHeader⟩] := by
  refine ⟨by decide, by decide, by decide, wellFormed_of_mem_twoKinds _ (by simp), by decide, by decide, ?_⟩
  decide +kernel

end ParserConformance.Corpus
