import ParserConformance.Proofs.Corpus.Replacing

/-!
# The lines of a corpus file

Splitting a corpus file takes a header with its title, then a body, and goes on where that ends. Here
every fixture is tied to the lines that it was read from.

A body ends with the file, or before a line that opens a block. Such a line is a header line that is
closed further down, however far away. So no header but the first one of a file can be without a line
that closes it, and the blocks tile the lines from the first header line on.

## Main statements
- `Corpus.tiles_of_stops`: where a body has ended, blocks have all lines that are left.
- `Corpus.Block.IsAt.fixture`: what a fixture holds, and when it is flawed, by its lines.
- `Corpus.split_covers`: splitting a corpus file loses no line and takes none twice.
-/

namespace ParserConformance.Corpus

/-! ### Lines by their numbers -/

section

variable {L : List Line} {k : Nat}

/-- The suffix of the line at a place, if it is a header line. -/
def headerAt (L : List Line) (j : Nat) : Option Line := L[j]?.bind suffixOfHeader?

theorem headerAt_of_drop (front : List Line) {l : Line} {tail : List Line}
    (h : L.drop k = front ++ l :: tail) : headerAt L (k + front.length) = suffixOfHeader? l := by
  rw [headerAt, ← List.getElem?_drop, h, List.getElem?_append_right (Nat.le_refl _), Nat.sub_self]
  rfl

theorem drop_of_drop {front tail : List Line} (h : L.drop k = front ++ tail) :
    L.drop (k + front.length) = tail := by
  rw [← List.drop_drop, h, List.drop_left]

theorem extract_of_drop (front : List Line) {middle tail : List Line}
    (h : L.drop k = front ++ (middle ++ tail)) :
    L.extract (k + front.length) (k + front.length + middle.length) = middle := by
  rw [List.extract_eq_take_drop, drop_of_drop h, Nat.add_sub_cancel_left, List.take_left]

/-- A header line further down than line number `k` has the suffix. -/
def IsClosedBelow (L : List Line) (k : Nat) (suffix : Line) : Prop :=
  ∃ j, k < j ∧ headerAt L j = some suffix

theorem isClosedBelow_iff {o : Line} {ls : List Line} {suffix : Line} (h : L.drop k = o :: ls) :
    IsClosedBelow L k suffix ↔ ∃ c ∈ ls, suffixOfHeader? c = some suffix := by
  have htail : L.drop (k + 1) = ls := drop_of_drop (show L.drop k = [o] ++ ls from h)
  have hbelow (i : Nat) : headerAt L (k + 1 + i) = ls[i]?.bind suffixOfHeader? := by
    rw [headerAt, ← List.getElem?_drop, htail]
  constructor
  · rintro ⟨j, hj, hheader⟩
    obtain ⟨i, rfl⟩ := Nat.exists_eq_add_of_le (Nat.succ_le_of_lt hj)
    obtain ⟨c, hc, hsuffix⟩ := Option.bind_eq_some_iff.1 ((hbelow i).symm.trans hheader)
    exact ⟨c, List.mem_of_getElem? hc, hsuffix⟩
  · rintro ⟨c, hc, hsuffix⟩
    obtain ⟨i, hi⟩ := List.mem_iff_getElem?.1 hc
    refine ⟨k + 1 + i, by omega, ?_⟩
    rw [hbelow, hi]
    exact hsuffix

end

/-! ### Blocks and their lines -/

/-- The lines from number `start` on up to `stop` are a header, closed at `close`, and a body. -/
structure IsFrame (L : List Line) (start close stop : Nat) (suffix : Line) : Prop where
  /-- They begin with a header line. -/
  opening : headerAt L start = some suffix
  /-- It is closed further down. -/
  start_lt : start < close
  /-- That is by a header line with the same suffix. -/
  closing : headerAt L close = some suffix
  /-- It is the first such line. -/
  closing_first : ∀ j, start < j → j < close → headerAt L j ≠ some suffix
  /-- The lines after it are the body. -/
  close_lt : close < stop
  /-- They are lines of the file. -/
  stop_le : stop ≤ L.length
  /-- None of them opens a block. -/
  quiet : ∀ j, close < j → j < stop → opensBlock (L.drop j) = false

/-- A block has the lines from number `start` on up to `stop`. -/
structure Block.IsAt (L : List Line) (start close stop : Nat) (b : Block) : Prop
    extends IsFrame L start close stop b.suffix where
  /-- It knows on which line it begins. -/
  line : b.line = start + 1
  /-- Its title stands between its two header lines. -/
  title : b.title = L.extract (start + 1) close
  /-- Its body stands below. -/
  body : b.body = some (L.extract (close + 1) stop)

theorem splitBody_spec (ls : List Line) :
    (∀ j < (splitBody ls).1.length, opensBlock (ls.drop j) = false) ∧
      ((splitBody ls).2 = [] ∨ opensBlock (splitBody ls).2 = true) := by
  induction ls with
  | nil => exact ⟨fun j hj => absurd hj (Nat.not_lt_zero j), .inl rfl⟩
  | cons l ls ih =>
    rw [splitBody]
    split
    · next h => exact ⟨fun j hj => absurd hj (Nat.not_lt_zero j), .inr h⟩
    · next h =>
      refine ⟨fun j hj => ?_, ih.2⟩
      cases j with
      | zero => simpa using h
      | succ j => exact ih.1 j (Nat.lt_of_succ_lt_succ hj)

variable {L : List Line}

/-- A header, its title, the line that closes it, and what the scan of a body takes. -/
theorem isAt_of_drop {start : Nat} {o c : Line} {title tail : List Line} {suffix : Line}
    (hdrop : L.drop start = o :: (title ++ c :: tail)) (ho : suffixOfHeader? o = some suffix)
    (hc : suffixOfHeader? c = some suffix) (htitle : ∀ l ∈ title, suffixOfHeader? l ≠ some suffix) :
    Block.IsAt L start (start + 1 + title.length) (start + title.length + 2 + (splitBody tail).1.length)
      ⟨start + 1, suffix, title, some (splitBody tail).1⟩ := by
  have hbody : L.drop start = (o :: (title ++ [c])) ++ ((splitBody tail).1 ++ (splitBody tail).2) := by
    rw [hdrop, splitBody_append, List.cons_append, List.append_assoc, List.singleton_append]
  have hfront : start + title.length + 2 = start + (o :: (title ++ [c])).length := by
    rw [List.length_cons, List.length_append, List.length_singleton]
    omega
  have htail : L.drop (start + title.length + 2) = tail := by
    rw [hfront, drop_of_drop hbody, splitBody_append]
  have hclose : start + 1 + title.length = start + (o :: title).length := by
    rw [List.length_cons]
    omega
  constructor
  case toIsFrame =>
    constructor
    case opening => exact (headerAt_of_drop [] hdrop).trans ho
    case start_lt => omega
    case closing =>
      rw [hclose, headerAt_of_drop (o :: title) hdrop]
      exact hc
    case closing_first =>
      intro j hj hj'
      obtain ⟨i, rfl⟩ := Nat.exists_eq_add_of_le (Nat.succ_le_of_lt hj)
      have hi : i < title.length := by omega
      rw [headerAt, Nat.succ_add_eq_add_succ, ← List.getElem?_drop, hdrop, List.getElem?_cons_succ,
        List.getElem?_append_left hi, List.getElem?_eq_getElem hi]
      exact htitle _ (List.getElem_mem hi)
    case close_lt => omega
    case stop_le =>
      have := congrArg List.length hbody
      rw [List.length_append, List.length_append, List.length_drop] at this
      omega
    case quiet =>
      intro j hj hj'
      obtain ⟨i, rfl⟩ := Nat.exists_eq_add_of_le (show start + title.length + 2 ≤ j by omega)
      rw [← List.drop_drop, htail]
      exact (splitBody_spec tail).1 i (by omega)
  case line => rfl
  case title => exact (extract_of_drop [o] hdrop).symm
  case body =>
    have hbelow : start + 1 + title.length + 1 = start + title.length + 2 := by omega
    rw [hbelow, hfront, extract_of_drop _ hbody]

/-- A header that is closed makes a block, which ends with the file or where another one is opened. -/
theorem exists_isAt {start : Nat} {o : Line} {ls : List Line} {suffix : Line}
    (hdrop : L.drop start = o :: ls) (ho : suffixOfHeader? o = some suffix)
    (hclosed : ∃ c ∈ ls, suffixOfHeader? c = some suffix) :
    ∃ close stop b, Block.IsAt L start close stop b ∧
      (L.drop stop = [] ∨ opensBlock (L.drop stop) = true) ∧
      blocksFrom (start + 1) (L.drop start) = b :: blocksFrom (stop + 1) (L.drop stop) := by
  obtain ⟨title, c, tail, rfl, hc, htitle⟩ := exists_first hclosed
  have hat := isAt_of_drop hdrop ho hc htitle
  have hrest : L.drop (start + title.length + 2 + (splitBody tail).1.length) = (splitBody tail).2 := by
    have hfront : L.drop start = (o :: (title ++ c :: (splitBody tail).1)) ++ (splitBody tail).2 := by
      rw [hdrop, List.cons_append, List.append_assoc, List.cons_append, splitBody_append]
    have hlength : start + title.length + 2 + (splitBody tail).1.length =
        start + (o :: (title ++ c :: (splitBody tail).1)).length := by
      simp only [List.length_cons, List.length_append]
      omega
    rw [hlength, drop_of_drop hfront]
  refine ⟨_, _, _, hat, ?_, ?_⟩
  · rw [hrest]
    exact (splitBody_spec tail).2
  · rw [hdrop, blocksFrom_of_splitBody ho hc htitle (Prod.eta (splitBody tail)).symm, hrest]
    congr 2
    omega

/-! ### All blocks -/

/-- Blocks one after the other have all lines from number `start` on. -/
inductive Tiles (L : List Line) : (start : Nat) → List Block → Prop where
  /-- No line is left. -/
  | done : Tiles L L.length []
  /-- A block has the first of the lines, further blocks have the others. -/
  | block {start close stop : Nat} {b : Block} {bs : List Block} (h : Block.IsAt L start close stop b)
    (rest : Tiles L stop bs) : Tiles L start (b :: bs)

/-- Where the file ends or a block is opened, blocks have all lines that are left. -/
theorem tiles_of_stops {start : Nat} (hstart : start ≤ L.length)
    (h : L.drop start = [] ∨ opensBlock (L.drop start) = true) :
    Tiles L start (blocksFrom (start + 1) (L.drop start)) := by
  induction hn : L.length - start using Nat.strongRecOn generalizing start with
  | ind n ih =>
    cases hdrop : L.drop start with
    | nil =>
      have : L.length ≤ start := List.drop_eq_nil_iff.1 hdrop
      obtain rfl : start = L.length := Nat.le_antisymm hstart this
      rw [blocksFrom]
      exact .done
    | cons o ls =>
      have hopens : opensBlock (o :: ls) = true := hdrop ▸ h.resolve_left (by simp [hdrop])
      obtain ⟨suffix, ho, between, c, under, rfl, hc, -⟩ := opensBlock_cons_iff.1 hopens
      obtain ⟨close, stop, b, hat, hstops, hblocks⟩ := exists_isAt hdrop ho ⟨c, by simp, hc⟩
      rw [← hdrop, hblocks]
      refine .block hat (ih _ ?_ hat.stop_le hstops rfl)
      have := hat.start_lt
      have := hat.close_lt
      have := hat.stop_le
      omega

/-- Where the thing at place `i` ends, if things begin on the given lines: where the next one begins,
or with the last of `count` lines. -/
def stopOf (count : Nat) (lines : List Nat) (i : Nat) : Nat :=
  match lines[i + 1]? with
  | some line => line - 1
  | none => count

namespace Tiles

variable {start : Nat} {bs : List Block}

theorem stopOf_zero (h : Tiles L start bs) (line : Nat) :
    stopOf L.length (line :: bs.map Block.line) 0 = start := by
  cases h with
  | done => rfl
  | block hat _ =>
    rw [stopOf, List.map_cons, hat.line]
    rfl

theorem head?_line (h : Tiles L start bs) (hlt : start < L.length) :
    (bs.map Block.line).head? = some (start + 1) := by
  cases h with
  | done => exact absurd hlt (Nat.lt_irrefl _)
  | block hat _ => exact congrArg some hat.line

/-- Each block has the lines up to those of the next one. -/
theorem exists_isAt (h : Tiles L start bs) : ∀ i b, bs[i]? = some b →
    ∃ close, Block.IsAt L (b.line - 1) close (stopOf L.length (bs.map Block.line) i) b := by
  induction h with
  | done => nofun
  | @block start close stop b bs hat rest ih =>
    intro i b' hb'
    cases i with
    | zero =>
      obtain rfl := Option.some.inj hb'
      refine ⟨close, ?_⟩
      rw [List.map_cons, rest.stopOf_zero, hat.line]
      exact hat
    | succ i => exact ih i b' hb'

theorem le_of_mem (h : Tiles L start bs) : ∀ b ∈ bs, start + 1 ≤ b.line := by
  induction h with
  | done => nofun
  | @block start close stop b bs hat rest ih =>
    refine List.forall_mem_cons.2 ⟨Nat.le_of_eq hat.line.symm, fun b' hb' => ?_⟩
    have := ih b' hb'
    have := hat.start_lt
    have := hat.close_lt
    omega

theorem pairwise_line (h : Tiles L start bs) : (bs.map Block.line).Pairwise (· < ·) := by
  induction h with
  | done => exact .nil
  | @block start close stop b bs hat rest ih =>
    refine List.pairwise_cons.2 ⟨fun line hline => ?_, ih⟩
    obtain ⟨b', hb', rfl⟩ := List.mem_map.1 hline
    have := rest.le_of_mem b' hb'
    have := hat.start_lt
    have := hat.close_lt
    rw [hat.line]
    omega

/-- Every line from number `start` on is one of exactly one block. -/
theorem existsUnique (h : Tiles L start bs) {j : Nat} (hj : start ≤ j) (hlt : j < L.length) :
    ∃! i, ∃ line, (bs.map Block.line)[i]? = some line ∧ line ≤ j + 1 ∧
      j < stopOf L.length (bs.map Block.line) i := by
  induction h with
  | done => exact absurd hlt (Nat.not_lt.2 hj)
  | @block start close stop b bs hat rest ih =>
    have hzero := rest.stopOf_zero b.line
    have hline := hat.line
    rw [List.map_cons]
    rcases Nat.lt_or_ge j stop with hstop | hstop
    · refine ⟨0, ⟨b.line, rfl, by omega, by omega⟩, ?_⟩
      rintro i ⟨line, hi, hle, -⟩
      cases i with
      | zero => rfl
      | succ i =>
        obtain ⟨b', hb', rfl⟩ := List.mem_map.1 (List.mem_of_getElem? hi)
        have := rest.le_of_mem b' hb'
        omega
    · obtain ⟨i, ⟨line, hi, hle, hlt'⟩, hunique⟩ := ih hstop
      refine ⟨i + 1, ⟨line, hi, hle, hlt'⟩, ?_⟩
      rintro i' ⟨line', hi', hle', hlt''⟩
      cases i' with
      | zero => omega
      | succ i' => rw [hunique i' ⟨line', hi', hle', hlt''⟩]

end Tiles

/-! ### Titles -/

/-- A title line that names a switch that is not known. -/
def IsUnknownSwitch (l : Line) : Prop :=
  ∃ name, Text.trim l = ':' :: name ∧ Text.trim name ≠ "skip".toList ∧ Text.trim name ≠ "error".toList

namespace Title

theorem isSome_unknown_add {t : Title} {l : Line} :
    (t.add l).unknown.isSome = true ↔ t.unknown.isSome = true ∨ IsUnknownSwitch l := by
  rw [add, IsUnknownSwitch]
  split
  · next h => simp [h]
  · next name h =>
    dsimp only
    split_ifs with hskip herror
    · simp [h, hskip]
    · simp [h, herror]
    · refine iff_of_true ?_ (.inr ⟨name, h, hskip, herror⟩)
      cases t.unknown <;> rfl
  · next hnil hcolon =>
    refine ⟨.inl, ?_⟩
    rintro (h | ⟨name, h, -⟩)
    · exact h
    · exact absurd h (hcolon name)

theorem isSome_unknown_foldl {ls : List Line} {t : Title} :
    (ls.foldl add t).unknown.isSome = true ↔ t.unknown.isSome = true ∨ ∃ l ∈ ls, IsUnknownSwitch l := by
  induction ls generalizing t with
  | nil => simp
  | cons l ls ih => rw [List.foldl_cons, ih, isSome_unknown_add, List.exists_mem_cons_iff, or_assoc]

theorem name_ofLines_isEmpty_iff (ls : List Line) :
    (ofLines ls).name.isEmpty = true ↔ ∀ l ∈ ls, ¬IsNameLine l := by
  constructor
  · intro h l hl hname
    rw [name_ofLines_ne_empty ⟨l, hl, hname⟩] at h
    exact Bool.false_ne_true h
  · intro h
    have hnil : (ofLines ls).nameLines = [] := by
      refine List.eq_nil_iff_forall_not_mem.2 fun n hn => ?_
      obtain ⟨l, hl, hname, -⟩ := mem_nameLines_ofLines.1 hn
      exact h l hl hname
    rw [name, hnil]
    rfl

/-- A title is flawed if it has a switch that is not known, or no name. -/
theorem flaw?_ofLines_iff (ls : List Line) :
    (ofLines ls).flaw? ≠ none ↔ (∃ l ∈ ls, IsUnknownSwitch l) ∨ ∀ l ∈ ls, ¬IsNameLine l := by
  have hunknown : (ofLines ls).unknown.isSome = true ↔ ∃ l ∈ ls, IsUnknownSwitch l := by
    rw [ofLines, isSome_unknown_foldl]
    simp [empty]
  rw [← hunknown, ← name_ofLines_isEmpty_iff, flaw?]
  cases (ofLines ls).unknown with
  | some name => simp
  | none => simp

end Title

/-! ### Fixtures -/

/-- What the body of a fixture holds, if dividers have the given suffix. -/
inductive Holds (suffix : Line) (body : List Line) (f : Fixture) : Prop where
  /-- The last divider parts the source from the expected tree. -/
  | parted {before after : List Line} {divider : Line} (body_eq : body = before ++ divider :: after)
    (divides : dividesWith suffix divider = true) (last : ∀ l ∈ after, dividesWith suffix l = false)
    (source : f.source = String.ofList (['\n'].intercalate before))
    (expected : f.expected = String.ofList (Text.trim (['\n'].intercalate after)))
  /-- Without a divider all of it is source, and the fixture is flawed. -/
  | unparted (undivided : ∀ l ∈ body, dividesWith suffix l = false)
    (source : f.source = String.ofList (['\n'].intercalate body)) (flaw : f.flaw ≠ none)

/-- A fixture has the lines from number `start` on up to `stop`. -/
structure Fixture.IsAt (L : List Line) (start close stop : Nat) (suffix : Line) (f : Fixture) : Prop
    extends IsFrame L start close stop suffix where
  /-- It knows on which line it begins. -/
  line : f.origin.line = start + 1
  /-- Its body holds its source and its expected tree. -/
  holds : Holds suffix (L.extract (close + 1) stop) f
  /-- It is flawed if its body has no divider, or its title has a switch that is not known or no name. -/
  flaw_iff : f.flaw ≠ none ↔ (∀ l ∈ L.extract (close + 1) stop, dividesWith suffix l = false) ∨
    (∃ l ∈ L.extract (start + 1) close, IsUnknownSwitch l) ∨
      ∀ l ∈ L.extract (start + 1) close, ¬IsNameLine l

theorem splitAtDivider_spec (suffix : Line) (ls : List Line) :
    (splitAtDivider suffix ls = none ∧ ∀ l ∈ ls, dividesWith suffix l = false) ∨
      ∃ before divider after, splitAtDivider suffix ls = some (before, after) ∧
        ls = before ++ divider :: after ∧ dividesWith suffix divider = true ∧
        ∀ l ∈ after, dividesWith suffix l = false := by
  induction ls with
  | nil => exact .inl ⟨rfl, nofun⟩
  | cons l ls ih =>
    rw [splitAtDivider]
    rcases ih with ⟨hnone, hls⟩ | ⟨before, divider, after, hsome, rfl, hdivides, hafter⟩
    · rw [hnone]
      cases hl : dividesWith suffix l with
      | true => exact .inr ⟨[], l, ls, rfl, rfl, hl, hls⟩
      | false => exact .inl ⟨rfl, List.forall_mem_cons.2 ⟨hl, hls⟩⟩
    · rw [hsome]
      exact .inr ⟨l :: before, divider, after, rfl, rfl, hdivides, hafter⟩

/-- What a block holds whose body has a divider. -/
theorem Block.content_of_splitAtDivider {b : Block} {body before after : List Line}
    (hbody : b.body = some body) (h : splitAtDivider b.suffix body = some (before, after)) :
    b.content = ⟨String.ofList (Text.unlines before), String.ofList (Text.trim (Text.unlines after)),
      b.line + b.title.length + before.length + leadingBlankLines after + 3, none⟩ := by
  simp only [Block.content, hbody, h]

theorem Block.IsAt.fixture {start close stop : Nat} {b : Block} (h : b.IsAt L start close stop)
    (file : Path) : (b.fixture file).IsAt L start close stop b.suffix := by
  have htitle := Title.flaw?_ofLines_iff b.title
  rw [h.title] at htitle
  have hflaw : (b.fixture file).flaw = (Title.ofLines b.title).flaw?.or b.content.flaw := rfl
  rcases splitAtDivider_spec b.suffix (L.extract (close + 1) stop) with
    ⟨hnone, hundivided⟩ | ⟨before, divider, after, hsome, hbody, hdivides, hlast⟩
  · have hcontent : b.content =
        ⟨String.ofList (Text.unlines (L.extract (close + 1) stop)), "", b.line, some .noDivider⟩ := by
      simp only [Block.content, h.body, hnone]
    have hflawed : (b.fixture file).flaw ≠ none := by
      rw [hflaw, hcontent]
      cases (Title.ofLines b.title).flaw? <;> simp
    exact {
      toIsFrame := h.toIsFrame
      line := h.line
      holds := by
        refine .unparted hundivided ?_ hflawed
        rw [← Text.unlines_eq_intercalate]
        exact congrArg Content.source hcontent
      flaw_iff := iff_of_true hflawed (.inl hundivided) }
  · have hcontent := Block.content_of_splitAtDivider h.body hsome
    have hdivided : ¬∀ l ∈ L.extract (close + 1) stop, dividesWith b.suffix l = false := by
      intro hundivided
      have := hundivided divider (hbody ▸ by simp)
      rw [hdivides] at this
      cases this
    exact {
      toIsFrame := h.toIsFrame
      line := h.line
      holds := by
        refine .parted hbody hdivides hlast ?_ ?_ <;> rw [← Text.unlines_eq_intercalate]
        · exact congrArg Content.source hcontent
        · exact congrArg Content.expected hcontent
      flaw_iff := by
        rw [hflaw, hcontent, Option.or_none, h.title, htitle]
        exact (or_iff_right hdivided).symm }

/-! ### Files -/

/-- The first header line of a file has the number `first`. -/
structure IsFirstHeader (L : List Line) (first : Nat) (suffix : Line) : Prop where
  /-- It is a header line. -/
  header : headerAt L first = some suffix
  /-- No line before it is one. -/
  least : ∀ j < first, headerAt L j = none

namespace IsFirstHeader

variable {first : Nat} {suffix : Line}

theorem exists_of_mem (h : ∃ l ∈ L, suffixOfHeader? l ≠ none) :
    ∃ first suffix, IsFirstHeader L first suffix := by
  obtain ⟨before, o, ls, rfl, ho, hbefore⟩ := exists_first h
  obtain ⟨suffix, ho⟩ := Option.ne_none_iff_exists'.1 ho
  refine ⟨before.length, suffix, ?_, fun j hj => ?_⟩
  · have := headerAt_of_drop (L := before ++ o :: ls) (k := 0) before rfl
    rwa [Nat.zero_add, ho] at this
  · rw [headerAt, List.getElem?_append_left hj, List.getElem?_eq_getElem hj]
    exact not_not.1 (hbefore _ (List.getElem_mem hj))

theorem lt_length (h : IsFirstHeader L first suffix) : first < L.length := by
  obtain ⟨o, ho, -⟩ := Option.bind_eq_some_iff.1 h.header
  exact (List.getElem?_eq_some_iff.1 ho).1

theorem exists_drop (h : IsFirstHeader L first suffix) :
    ∃ o ls, L.drop first = o :: ls ∧ suffixOfHeader? o = some suffix ∧
      blocks L = blocksFrom (first + 1) (L.drop first) := by
  obtain ⟨o, ho, hsuffix⟩ := Option.bind_eq_some_iff.1 h.header
  obtain ⟨hlt, rfl⟩ := List.getElem?_eq_some_iff.1 ho
  refine ⟨_, _, List.drop_eq_getElem_cons hlt, hsuffix, ?_⟩
  have hbefore : ∀ l ∈ L.take first, suffixOfHeader? l = none := by
    intro l hl
    obtain ⟨j, hj, rfl⟩ := List.mem_take_iff_getElem.1 hl
    have hnone := h.least j (by omega)
    rwa [headerAt, List.getElem?_eq_getElem (by omega), Option.bind_some] at hnone
  have hblocks := blocksFrom_append_of_no_header hbefore 1 (L.drop first)
  rwa [List.take_append_drop, List.length_take_of_le hlt.le, Nat.add_comm] at hblocks

/-- Without a line that closes it, the first header has all lines that are left. -/
theorem blocks_of_unclosed (h : IsFirstHeader L first suffix)
    (hunclosed : ¬IsClosedBelow L first suffix) :
    blocks L = [⟨first + 1, suffix, L.drop (first + 1), none⟩] := by
  obtain ⟨o, ls, hdrop, ho, hblocks⟩ := h.exists_drop
  rw [isClosedBelow_iff hdrop] at hunclosed
  have htail : L.drop (first + 1) = ls := drop_of_drop (show L.drop first = [o] ++ ls from hdrop)
  rw [hblocks, hdrop, htail]
  exact blocksFrom_of_unclosed ho (fun l hl hc => hunclosed ⟨l, hl, hc⟩) _

theorem tiles (h : IsFirstHeader L first suffix)
    (hclosed : IsClosedBelow L first suffix) : Tiles L first (blocks L) := by
  obtain ⟨o, ls, hdrop, ho, hblocks⟩ := h.exists_drop
  obtain ⟨close, stop, b, hat, hstops, hblocks'⟩ :=
    exists_isAt hdrop ho ((isClosedBelow_iff hdrop).1 hclosed)
  rw [hblocks, hblocks']
  exact .block hat (tiles_of_stops hat.stop_le hstops)

end IsFirstHeader

theorem blocks_eq_nil_iff : blocks L = [] ↔ ∀ l ∈ L, suffixOfHeader? l = none := by
  constructor
  · intro h
    by_contra hheader
    push Not at hheader
    obtain ⟨before, o, ls, rfl, ho, hbefore⟩ := exists_first hheader
    rw [blocks, blocksFrom_append_of_no_header fun l hl => not_not.1 (hbefore l hl), blocksFrom] at h
    split at h
    · exact ho ‹_›
    · split at h <;> exact absurd h (List.cons_ne_nil _ _)
  · intro h
    have := blocksFrom_append_of_no_header h 1 []
    rwa [List.append_nil, blocksFrom] at this

/-- A file has no header line, or one that is never closed, or blocks one after the other. -/
theorem blocks_cases (L : List Line) : blocks L = [] ∨
    (∃ first suffix, blocks L = [⟨first + 1, suffix, L.drop (first + 1), none⟩]) ∨
    ∃ first, Tiles L first (blocks L) := by
  by_cases hheader : ∀ l ∈ L, suffixOfHeader? l = none
  · exact .inl (blocks_eq_nil_iff.2 hheader)
  · push Not at hheader
    obtain ⟨first, suffix, h⟩ := IsFirstHeader.exists_of_mem hheader
    by_cases hclosed : IsClosedBelow L first suffix
    · exact .inr (.inr ⟨first, h.tiles hclosed⟩)
    · exact .inr (.inl ⟨first, suffix, h.blocks_of_unclosed hclosed⟩)

/-- The fixtures of a file have all its lines from its first header line on, each of them once. -/
structure Covers (L : List Line) (fs : List Fixture) : Prop where
  /-- There is no fixture just if there is no header line. -/
  eq_nil_iff : fs = [] ↔ ∀ l ∈ L, suffixOfHeader? l = none
  /-- The first fixture begins with the first header line. -/
  head?_line : ∀ first suffix, IsFirstHeader L first suffix →
    (fs.map (·.origin.line)).head? = some (first + 1)
  /-- The others follow in order. -/
  pairwise_line : (fs.map (·.origin.line)).Pairwise (· < ·)
  /-- If the first header is never closed, its fixture is the only one, and is flawed. -/
  eq_singleton : ∀ first suffix, IsFirstHeader L first suffix → ¬IsClosedBelow L first suffix →
    ∃ f, fs = [f] ∧ f.flaw ≠ none
  /-- If it is closed, every fixture has the lines up to those of the next one. -/
  isAt : ∀ first suffix, IsFirstHeader L first suffix → IsClosedBelow L first suffix →
    ∀ (i : Nat) (f : Fixture), fs[i]? = some f → ∃ suffix close,
      f.IsAt L (f.origin.line - 1) close (stopOf L.length (fs.map (·.origin.line)) i) suffix
  /-- Then every line from the first header line on is one of exactly one fixture. -/
  existsUnique : ∀ first suffix, IsFirstHeader L first suffix → IsClosedBelow L first suffix →
    ∀ j, first ≤ j → j < L.length → ∃! i, ∃ line, (fs.map (·.origin.line))[i]? = some line ∧
      line ≤ j + 1 ∧ j < stopOf L.length (fs.map (·.origin.line)) i

/-- **Splitting a corpus file loses no line and takes none twice.** -/
theorem split_covers (file : Path) (text : String) :
    Covers (Text.lines text.toList) (Corpus.split file text) := by
  rw [Corpus.split]
  generalize Text.lines text.toList = L
  have hlines : ((blocks L).map (Block.fixture file)).map (·.origin.line) =
      (blocks L).map Block.line := List.map_map
  constructor
  case eq_nil_iff => rw [List.map_eq_nil_iff, blocks_eq_nil_iff]
  case head?_line =>
    intro first suffix h
    rw [hlines]
    by_cases hclosed : IsClosedBelow L first suffix
    · exact (h.tiles hclosed).head?_line h.lt_length
    · rw [h.blocks_of_unclosed hclosed]
      rfl
  case pairwise_line =>
    rw [hlines]
    rcases blocks_cases L with hblocks | ⟨first, suffix, hblocks⟩ | ⟨first, htiles⟩
    · rw [hblocks]
      exact .nil
    · rw [hblocks]
      exact List.pairwise_singleton _ _
    · exact htiles.pairwise_line
  case eq_singleton =>
    intro first suffix h hunclosed
    refine ⟨_, congrArg (List.map (Block.fixture file)) (h.blocks_of_unclosed hunclosed), ?_⟩
    simp only [Block.fixture, Block.content]
    cases (Title.ofLines (L.drop (first + 1))).flaw? <;> simp
  case isAt =>
    intro first suffix h hclosed i f hf
    rw [List.getElem?_map] at hf
    obtain ⟨b, hb, rfl⟩ := Option.map_eq_some_iff.1 hf
    obtain ⟨close, hat⟩ := (h.tiles hclosed).exists_isAt i b hb
    rw [hlines]
    exact ⟨b.suffix, close, hat.fixture file⟩
  case existsUnique =>
    intro first suffix h hclosed j hj hlt
    rw [hlines]
    exact (h.tiles hclosed).existsUnique hj hlt

/-! ### Names -/

/-- The title of a block is made of lines of the file. -/
theorem mem_of_mem_title {b : Block} (hb : b ∈ blocks L) : ∀ l ∈ b.title, l ∈ L := by
  intro l hl
  rcases blocks_cases L with hblocks | ⟨first, suffix, hblocks⟩ | ⟨first, htiles⟩
  · simp [hblocks] at hb
  · obtain rfl := List.mem_singleton.1 (hblocks ▸ hb)
    exact List.mem_of_mem_drop hl
  · obtain ⟨i, hi⟩ := List.mem_iff_getElem?.1 hb
    obtain ⟨close, hat⟩ := htiles.exists_isAt i b hi
    rw [hat.title, List.extract_eq_take_drop] at hl
    exact List.mem_of_mem_drop (List.mem_of_mem_take hl)

theorem Title.not_mem_name {c : Char} (hc : c ≠ ' ') {ls : List Line} (h : ∀ l ∈ ls, c ∉ l) :
    c ∉ (ofLines ls).name.toList := by
  rw [name, String.toList_ofList]
  refine Text.not_mem_joinWith (by simpa using hc) fun n hn hmem => ?_
  obtain ⟨l, hl, -, rfl⟩ := mem_nameLines_ofLines.1 hn
  exact h l hl (Text.mem_of_mem_trim hmem)

/-- A name has no line of its own, even one that a fixture is given for want of a name. -/
theorem not_mem_name_of_mem_split {file : Path} {text : String} {f : Fixture}
    (hf : f ∈ Corpus.split file text) : '\n' ∉ f.name.toList := by
  obtain ⟨b, hb, rfl⟩ := List.mem_map.1 hf
  have htitle : ∀ l ∈ b.title, '\n' ∉ l :=
    fun l hl => Text.not_mem_lines _ l (mem_of_mem_title hb l hl)
  rw [Block.fixture]
  dsimp only
  split
  · have hnumber := Text.not_mem_toString b.line
    simp only [String.toList_append, List.mem_append, not_or]
    exact ⟨⟨by decide, hnumber⟩, by decide⟩
  · exact Title.not_mem_name (by decide) htitle

end ParserConformance.Corpus
