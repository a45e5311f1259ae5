import ParserConformance.Corpus.Block
import ParserConformance.Proofs.Text.Lines

/-!
# Header lines, dividers and where a scan stops

A header line and a divider are told apart by their first character, and each gives back the
suffix that was written after its marks. Every scan over the lines of a corpus file looks for one
of the two, so where it stops follows from the lines before that place alone. For the body of a
block that is `IsQuiet`: none of its lines opens a block, whatever comes after it.
-/

namespace ParserConformance.Corpus

/-! ### Single lines -/

/-- A text that can follow the marks of header lines and dividers: it goes on with neither mark
and has no blank at its end. -/
structure IsSuffix (s : Line) : Prop where
  /-- It does not go on with the mark of header lines. -/
  notHeaderMark : s.head? ≠ some '='
  /-- It does not go on with the mark of dividers. -/
  notDividerMark : s.head? ≠ some '-'
  /-- It has no blank at its end. -/
  trimmed : Text.trimRight s = s

theorem trimRight_marks {mark : Char} (hm : Text.isBlank mark = false) {s : Line}
    (hs : Text.trimRight s = s) (n : Nat) :
    Text.trimRight (List.replicate n mark ++ s) = List.replicate n mark ++ s := by
  rw [Text.trimRight_eq_self_iff] at hs ⊢
  intro c hc
  rw [List.getLast?_append] at hc
  cases hl : s.getLast? with
  | some d =>
    rw [hl] at hc
    exact hs c (hl.trans hc)
  | none =>
    rw [hl] at hc
    have : c = mark := List.eq_of_mem_replicate (List.mem_of_getLast? hc)
    rwa [this]

theorem suffixAfter?_marks {mark : Char} (hm : Text.isBlank mark = false) {s : Line}
    (hs : Text.trimRight s = s) (hh : s.head? ≠ some mark) {n : Nat} (hn : 3 ≤ n) :
    suffixAfter? mark (List.replicate n mark ++ s) = some s := by
  have hd : s.dropWhile (· = mark) = s := by
    cases s with
    | nil => rfl
    | cons c s => exact List.dropWhile_cons_of_neg (by simpa using hh)
  have hw : (List.replicate n mark ++ s).dropWhile (· = mark) = s := by
    rw [List.dropWhile_append_of_pos (by simp), hd]
  simp only [suffixAfter?, trimRight_marks hm hs, hw]
  rw [if_pos (by simp; omega)]

theorem head?_of_suffixAfter? {mark : Char} {l s : Line} (h : suffixAfter? mark l = some s) :
    l.head? = some mark := by
  simp only [suffixAfter?] at h
  split at h
  · rename_i hlen
    cases ht : Text.trimRight l with
    | nil => simp [ht] at hlen
    | cons c t =>
      have hp : c :: t <+: l := ht ▸ List.rdropWhile_prefix Text.isBlank l
      obtain ⟨u, rfl⟩ := hp
      by_cases hc : c = mark
      · simp [hc]
      · rw [ht, List.dropWhile_cons_of_neg (by simpa using hc)] at hlen
        omega
  · exact absurd h (by simp)

theorem suffixOfHeader?_marks {s : Line} (hs : IsSuffix s) {n : Nat} (hn : 3 ≤ n) :
    suffixOfHeader? (List.replicate n '=' ++ s) = some s :=
  suffixAfter?_marks (by decide) hs.trimmed hs.notHeaderMark hn

theorem dividesWith_marks {s : Line} (hs : IsSuffix s) {n : Nat} (hn : 3 ≤ n) :
    dividesWith s (List.replicate n '-' ++ s) = true := by
  rw [dividesWith, decide_eq_true_iff]
  exact suffixAfter?_marks (by decide) hs.trimmed hs.notDividerMark hn

/-- Only a line of `=` is a header line. -/
theorem suffixOfHeader?_eq_none {l : Line} (h : l.head? ≠ some '=') : suffixOfHeader? l = none := by
  cases hl : suffixOfHeader? l with
  | none => rfl
  | some s => exact absurd (head?_of_suffixAfter? hl) h

/-- Only a line of `-` is a divider. -/
theorem dividesWith_eq_false {l : Line} (h : l.head? ≠ some '-') (s : Line) :
    dividesWith s l = false := by
  rw [dividesWith, decide_eq_false_iff_not]
  exact fun hl => h (head?_of_suffixAfter? hl)

theorem suffixOfHeader?_of_dividesWith {s l : Line} (h : dividesWith s l = true) :
    suffixOfHeader? l = none := by
  refine suffixOfHeader?_eq_none ?_
  rw [head?_of_suffixAfter? (of_decide_eq_true h)]
  decide

/-! ### Scans -/

/-- The first line with a property, and the lines around it. -/
theorem exists_first {p : Line → Prop} [DecidablePred p] {ls : List Line} (h : ∃ c ∈ ls, p c) :
    ∃ before c after, ls = before ++ c :: after ∧ p c ∧ ∀ l ∈ before, ¬p l := by
  have hfound : (ls.find? fun l => decide (p l)).isSome := by simpa using h
  obtain ⟨c, hc⟩ := Option.isSome_iff_exists.1 hfound
  obtain ⟨hpc, before, after, hls, hbefore⟩ := List.find?_eq_some_iff_append.1 hc
  exact ⟨before, c, after, hls, of_decide_eq_true hpc, by simpa using hbefore⟩

/-- A header line is closed if none of the lines up to its closing one stops the search. -/
theorem closesHeader_append {s c : Line} (hc : suffixOfHeader? c = some s) (rest : List Line)
    {ls : List Line} (h : ∀ l ∈ ls, dividesWith s l = false) :
    closesHeader s (ls ++ c :: rest) = true := by
  induction ls with
  | nil => simp [closesHeader, hc]
  | cons l ls ih =>
    obtain ⟨hl, hls⟩ := List.forall_mem_cons.1 h
    rw [List.cons_append, closesHeader]
    split
    · rfl
    · simp [hl, ih hls]

/-- A header line is not closed if a divider comes before any header line with its suffix. -/
theorem closesHeader_eq_false {s : Line} (rest : List Line) {ls : List Line}
    (h : ∀ l ∈ ls, suffixOfHeader? l ≠ some s) (hd : ∃ d ∈ ls, dividesWith s d = true) :
    closesHeader s (ls ++ rest) = false := by
  induction ls with
  | nil => simp at hd
  | cons l ls ih =>
    obtain ⟨hl, hls⟩ := List.forall_mem_cons.1 h
    rw [List.cons_append, closesHeader, if_neg hl]
    split
    · rfl
    · rename_i hnd
      obtain ⟨d, hmem, hd⟩ := hd
      rcases List.mem_cons.1 hmem with rfl | hmem
      · exact absurd hd hnd
      · exact ih hls ⟨d, hmem, hd⟩

theorem splitTitle_append {s c : Line} (hc : suffixOfHeader? c = some s) (rest : List Line)
    {title : List Line} (h : ∀ l ∈ title, suffixOfHeader? l ≠ some s) :
    splitTitle s (title ++ c :: rest) = some (title, rest) := by
  induction title with
  | nil => simp [splitTitle, hc]
  | cons l ls ih =>
    obtain ⟨hl, hls⟩ := List.forall_mem_cons.1 h
    rw [List.cons_append, splitTitle, if_neg hl, ih hls]
    rfl

theorem splitTitle_eq_none {s : Line} {ls : List Line}
    (h : ∀ l ∈ ls, suffixOfHeader? l ≠ some s) : splitTitle s ls = none := by
  induction ls with
  | nil => rfl
  | cons l ls ih =>
    obtain ⟨hl, hls⟩ := List.forall_mem_cons.1 h
    rw [splitTitle, if_neg hl, ih hls]
    rfl

theorem splitAtDivider_eq_none {s : Line} {ls : List Line}
    (h : ∀ l ∈ ls, dividesWith s l = false) : splitAtDivider s ls = none := by
  induction ls with
  | nil => rfl
  | cons l ls ih =>
    obtain ⟨hl, hls⟩ := List.forall_mem_cons.1 h
    rw [splitAtDivider, ih hls]
    simp [hl]

theorem splitAtDivider_append {s d : Line} (hd : dividesWith s d = true) (before : List Line)
    {after : List Line} (h : ∀ l ∈ after, dividesWith s l = false) :
    splitAtDivider s (before ++ d :: after) = some (before, after) := by
  induction before with
  | nil =>
    rw [List.nil_append, splitAtDivider, splitAtDivider_eq_none h]
    simp [hd]
  | cons l ls ih => rw [List.cons_append, splitAtDivider, ih]

/-! ### Bodies that open no block -/

/-- None of the lines opens a block, whatever comes after them. -/
def IsQuiet : List Line → Prop
  | [] => True
  | l :: ls =>
    (∀ t, suffixOfHeader? l = some t → ∀ rest, closesHeader t (ls ++ rest) = false) ∧ IsQuiet ls

theorem isQuiet_of_no_header {ls : List Line} (h : ∀ l ∈ ls, suffixOfHeader? l = none) :
    IsQuiet ls := by
  induction ls with
  | nil => trivial
  | cons l ls ih =>
    obtain ⟨hl, hls⟩ := List.forall_mem_cons.1 h
    exact ⟨fun t ht => by simp [hl] at ht, ih hls⟩

/-- The scan of a body goes on over a line that opens no block. -/
theorem splitBody_cons_of_not_opensBlock {l : Line} {ls : List Line} (h : ¬opensBlock (l :: ls) = true) :
    splitBody (l :: ls) = (l :: (splitBody ls).1, (splitBody ls).2) := by
  rw [splitBody, if_neg h]

/-- The scan of a quiet body goes on to the next line that opens a block. -/
theorem splitBody_of_isQuiet {body : List Line} (hb : IsQuiet body) {rest : List Line}
    (hr : rest = [] ∨ opensBlock rest = true) : splitBody (body ++ rest) = (body, rest) := by
  induction body with
  | nil =>
    rcases hr with rfl | hr
    · rfl
    · cases rest with
      | nil => rfl
      | cons l ls => rw [List.nil_append, splitBody, if_pos hr]
  | cons l ls ih =>
    obtain ⟨hl, hls⟩ := hb
    have : ¬opensBlock (l :: (ls ++ rest)) = true := by
      rw [opensBlock, Bool.not_eq_true]
      split
      · exact hl _ ‹_› rest
      · rfl
    rw [List.cons_append, splitBody_cons_of_not_opensBlock this, ih hls]

/-! ### Blocks -/

theorem blocksFrom_append_of_no_header {ls : List Line} (h : ∀ l ∈ ls, suffixOfHeader? l = none)
    (n : Nat) (rest : List Line) : blocksFrom n (ls ++ rest) = blocksFrom (n + ls.length) rest := by
  induction ls generalizing n with
  | nil => rfl
  | cons l ls ih =>
    obtain ⟨hl, hls⟩ := List.forall_mem_cons.1 h
    rw [List.cons_append, blocksFrom]
    simp only [hl]
    rw [ih hls, List.length_cons, Nat.add_right_comm, Nat.add_assoc]

/-- A header opens a block if no line of its title is a divider with its suffix. -/
theorem opensBlock_header {s o c : Line} (ho : suffixOfHeader? o = some s)
    (hc : suffixOfHeader? c = some s) {title : List Line} (ht : ∀ l ∈ title, dividesWith s l = false)
    (rest : List Line) : opensBlock (o :: (title ++ c :: rest)) = true := by
  simp only [opensBlock, ho]
  exact closesHeader_append hc rest ht

/-- A header and its title make a block with the lines up to the next one that opens a block. -/
theorem blocksFrom_of_splitBody {s o c : Line} (ho : suffixOfHeader? o = some s)
    (hc : suffixOfHeader? c = some s) {title tail body rest : List Line}
    (ht : ∀ l ∈ title, suffixOfHeader? l ≠ some s) (hb : splitBody tail = (body, rest)) (n : Nat) :
    blocksFrom n (o :: (title ++ c :: tail)) =
      ⟨n, s, title, some body⟩ :: blocksFrom (n + title.length + 2 + body.length) rest := by
  rw [blocksFrom]
  simp only [ho]
  split
  · rename_i h
    rw [splitTitle_append hc _ ht] at h
    simp at h
  · rename_i h
    rw [splitTitle_append hc _ ht] at h
    obtain ⟨rfl, rfl⟩ := Prod.mk.inj (Option.some.inj h)
    rw [hb]

/-- A header that no line closes makes a block without a body, with all lines after it as its title. -/
theorem blocksFrom_of_unclosed {s o : Line} (ho : suffixOfHeader? o = some s) {ls : List Line}
    (h : ∀ l ∈ ls, suffixOfHeader? l ≠ some s) (n : Nat) :
    blocksFrom n (o :: ls) = [⟨n, s, ls, none⟩] := by
  have htitle := splitTitle_eq_none h
  rw [blocksFrom]
  simp only [ho]
  split
  · rfl
  · next h => cases htitle.symm.trans h

/-- A header, its title, a quiet body and whatever follows that make one block, and the blocks of
what follows. -/
theorem blocksFrom_block {s o c : Line} (ho : suffixOfHeader? o = some s)
    (hc : suffixOfHeader? c = some s) {title body rest : List Line}
    (ht : ∀ l ∈ title, suffixOfHeader? l ≠ some s) (hb : IsQuiet body)
    (hr : rest = [] ∨ opensBlock rest = true) (n : Nat) :
    blocksFrom n (o :: (title ++ c :: (body ++ rest))) =
      ⟨n, s, title, some body⟩ :: blocksFrom (n + title.length + 2 + body.length) rest :=
  blocksFrom_of_splitBody ho hc ht (splitBody_of_isQuiet hb hr) n

end ParserConformance.Corpus
