import ParserConformance.Annotation.Lexer

/-!
# Lexing piece by piece

`Reads ts cs rest` says that from any place between two tokens on, the characters `cs` make the
tokens `ts` and leave `rest`. Pieces that are read one after the other are read together
(`Reads.trans`), so an annotation that is written piece by piece is lexed piece by piece. The
places of the tokens are of no account to `Reads`; the lemmas that it rests on tell them.
-/

namespace ParserConformance.Annotation

/-! ### Steps -/

/-- What lexing comes to from a state on. -/
def scan (s : Scan) (cs : List Char) : Except Fault Lexed := do (← cs.foldlM step s).finish

theorem scan_cons {s s' : Scan} {c : Char} (h : step s c = .ok s') (cs : List Char) :
    scan s (c :: cs) = scan s' cs := by
  rw [scan, List.foldlM_cons, h]
  rfl

/-- From any place between two tokens on, `cs` makes the tokens `ts` and leaves `rest`. -/
def Reads (ts : List Token) (cs rest : List Char) : Prop :=
  ∀ (place : Place) (reversed : List Located), ∃ (place' : Place) (located : List Located),
    located.map Located.token = ts ∧
      scan ⟨.between, place, reversed⟩ cs = scan ⟨.between, place', located.reverse ++ reversed⟩ rest

theorem Reads.refl (cs : List Char) : Reads [] cs cs := fun place _ => ⟨place, [], rfl, rfl⟩

theorem Reads.trans {ts us : List Token} {cs mid rest : List Char} (h₁ : Reads ts cs mid)
    (h₂ : Reads us mid rest) : Reads (ts ++ us) cs rest := by
  intro place reversed
  obtain ⟨place₁, located₁, rfl, e₁⟩ := h₁ place reversed
  obtain ⟨place₂, located₂, rfl, e₂⟩ := h₂ place₁ (located₁.reverse ++ reversed)
  refine ⟨place₂, located₁ ++ located₂, List.map_append, ?_⟩
  rw [e₁, e₂, List.reverse_append, List.append_assoc]

/-- What is read to its end is lexed. -/
theorem Reads.lex {ts : List Token} {cs : List Char} (h : Reads ts cs []) :
    ∃ lexed, lex cs = .ok lexed ∧ lexed.tokens.map Located.token = ts := by
  obtain ⟨place, located, rfl, e⟩ := h .first []
  refine ⟨⟨located, place⟩, e.trans ?_, rfl⟩
  rw [List.append_nil]
  exact congrArg (fun ts => Except.ok (Lexed.mk ts place)) located.reverse_reverse

/-! ### Blanks and single characters -/

/-- A blank makes no token. -/
theorem scan_blank {c : Char} (h : Text.isBlank c = true) (rest : List Char) (place : Place)
    (reversed : List Located) :
    scan ⟨.between, place, reversed⟩ (c :: rest) =
      scan ⟨.between, if c = '\n' then place.newline else place.next, reversed⟩ rest := by
  have hs : beginWith place reversed c =
      .ok ⟨.between, if c = '\n' then place.newline else place.next, reversed⟩ := by
    by_cases hn : c = '\n'
    · rw [beginWith, if_pos hn, if_pos hn]
    · rw [beginWith, if_neg hn, if_neg hn, if_pos h]
  exact scan_cons (s := ⟨.between, place, reversed⟩) hs rest

theorem Reads.blank {c : Char} (h : Text.isBlank c = true) (rest : List Char) :
    Reads [] (c :: rest) rest :=
  fun place reversed => ⟨_, [], rfl, scan_blank h rest place reversed⟩

theorem Reads.blanks {cs : List Char} (h : ∀ c ∈ cs, Text.isBlank c = true) (rest : List Char) :
    Reads [] (cs ++ rest) rest := by
  induction cs with
  | nil => exact .refl rest
  | cons c cs ih =>
    obtain ⟨hc, hcs⟩ := List.forall_mem_cons.1 h
    exact (Reads.blank hc _).trans (ih hcs)

theorem step_mark {c : Char} {t : Token} (h : Token.ofMark? c = some t) (place : Place)
    (reversed : List Located) :
    step ⟨.between, place, reversed⟩ c = .ok ⟨.between, place.next, ⟨t, place⟩ :: reversed⟩ := by
  unfold Token.ofMark? at h
  split at h <;> cases h <;> rfl

theorem Reads.mark {c : Char} {t : Token} (h : Token.ofMark? c = some t) (rest : List Char) :
    Reads [t] (c :: rest) rest :=
  fun place reversed => ⟨place.next, [⟨t, place⟩], rfl, scan_cons (step_mark h place reversed) rest⟩

/-! ### Words and numbers -/

/-- The place `n` characters further along the line. -/
def Place.ahead (p : Place) (n : Nat) : Place := ⟨p.line, p.column + n⟩

theorem Place.ahead_next (p : Place) (n : Nat) : p.next.ahead n = p.ahead (n + 1) := by
  rw [ahead, ahead, next, Nat.add_right_comm, Nat.add_assoc]

theorem toNat_of_isUpper {c : Char} (h : c.isUpper = true) : 65 ≤ c.toNat ∧ c.toNat ≤ 90 := by
  have h' : 'A'.val ≤ c.val ∧ c.val ≤ 'Z'.val := of_decide_eq_true h
  exact ⟨UInt32.le_iff_toNat_le.1 h'.1, UInt32.le_iff_toNat_le.1 h'.2⟩

theorem toNat_of_isLower {c : Char} (h : c.isLower = true) : 97 ≤ c.toNat ∧ c.toNat ≤ 122 := by
  have h' : (decide ('a'.val ≤ c.val) && decide (c.val ≤ 'z'.val)) = true := h
  rw [Bool.and_eq_true, decide_eq_true_eq, decide_eq_true_eq] at h'
  exact ⟨UInt32.le_iff_toNat_le.1 h'.1, UInt32.le_iff_toNat_le.1 h'.2⟩

theorem toNat_of_isWordChar {c : Char} (h : Text.isWordChar c = true) :
    48 ≤ c.toNat ∧ c.toNat ≤ 122 ∧ c.toNat ≠ 59 := by
  have hcases : ((c.isUpper = true ∨ c.isLower = true) ∨ c.isDigit = true) ∨ c = '_' := by
    rw [← beq_iff_eq (a := c), ← Bool.or_eq_true, ← Bool.or_eq_true, ← Bool.or_eq_true]
    exact h
  rcases hcases with ((h | h) | h) | rfl
  · have := toNat_of_isUpper h
    omega
  · have := toNat_of_isLower h
    omega
  · have : 48 ≤ c.toNat ∧ c.toNat ≤ 57 := Char.isDigit_iff_toNat.1 h
    omega
  · decide

theorem toNat_of_isBlank {c : Char} (h : Text.isBlank c = true) : c.toNat ≤ 32 ∨ 133 ≤ c.toNat := by
  simp only [Text.isBlank, Text.blankRanges, List.any_cons, List.any_nil, Bool.or_eq_true,
    Bool.and_eq_true, decide_eq_true_eq, Bool.false_eq_true, or_false] at h
  omega

/-- No word character is blank. -/
theorem isBlank_of_isWordChar {c : Char} (h : Text.isWordChar c = true) : Text.isBlank c = false := by
  rw [Bool.eq_false_iff]
  intro hb
  have := toNat_of_isWordChar h
  have := toNat_of_isBlank hb
  omega

theorem step_word {c : Char} (h : Text.isWordChar c = true) (place : Place)
    (reversed : List Located) :
    step ⟨.between, place, reversed⟩ c = .ok ⟨.word place [c], place.next, reversed⟩ := by
  have hne : ∀ d : Char, d.toNat < 48 ∨ d.toNat = 59 → c ≠ d := by
    rintro d hd rfl
    have := toNat_of_isWordChar h
    omega
  rw [step, beginWith, if_neg (hne '\n' (by decide)), if_neg (by simp [isBlank_of_isWordChar h]),
    if_neg (hne ';' (by decide)), if_neg (hne '"' (by decide)), if_pos h]

theorem scan_word {start : Place} {reversed : List Located} {cs : List Char}
    (h : ∀ c ∈ cs, Text.isWordChar c = true) (rest word : List Char) (place : Place) :
    scan ⟨.word start word, place, reversed⟩ (cs ++ rest) =
      scan ⟨.word start (cs.reverse ++ word), place.ahead cs.length, reversed⟩ rest := by
  induction cs generalizing word place with
  | nil => rfl
  | cons c cs ih =>
    obtain ⟨hc, hcs⟩ := List.forall_mem_cons.1 h
    have hs : step ⟨.word start word, place, reversed⟩ c =
        .ok ⟨.word start (c :: word), place.next, reversed⟩ := by
      rw [step]
      exact if_pos hc
    rw [List.cons_append, scan_cons hs, ih hcs, place.ahead_next, List.reverse_cons, List.append_assoc]
    rfl

/-- What may stand right after a word. -/
def EndsWord (rest : List Char) : Prop := ∀ c, rest.head? = some c → Text.isWordChar c = false

theorem endsWord_cons {c : Char} (h : Text.isWordChar c = false) (rest : List Char) :
    EndsWord (c :: rest) := by
  rintro d hd
  rwa [← Option.some.inj hd]

/-- A word is finished by whatever is no part of it. -/
theorem scan_word_end {word : List Char} {t : Token} (ht : wordToken word.reverse = .ok t)
    {rest : List Char} (hr : EndsWord rest) (start place : Place) (reversed : List Located) :
    scan ⟨.word start word, place, reversed⟩ rest =
      scan ⟨.between, place, ⟨t, start⟩ :: reversed⟩ rest := by
  have hc : closeWord start word reversed = .ok (⟨t, start⟩ :: reversed) := by
    rw [closeWord, ht]
  cases rest with
  | nil =>
    have : Scan.finish ⟨.word start word, place, reversed⟩ =
        Scan.finish ⟨.between, place, ⟨t, start⟩ :: reversed⟩ := by
      simp only [Scan.finish, hc]
      rfl
    exact this
  | cons c rest =>
    have hs : step ⟨.word start word, place, reversed⟩ c =
        step ⟨.between, place, ⟨t, start⟩ :: reversed⟩ c := by
      simp only [step, hr c rfl, hc]
      rfl
    rw [scan, List.foldlM_cons, hs, ← List.foldlM_cons, ← scan]

/-- A word between other characters makes its token. -/
theorem scan_between_word {cs : List Char} {t : Token} (hne : cs ≠ [])
    (h : ∀ c ∈ cs, Text.isWordChar c = true) (ht : wordToken cs = .ok t) {rest : List Char}
    (hr : EndsWord rest) (place : Place) (reversed : List Located) :
    scan ⟨.between, place, reversed⟩ (cs ++ rest) =
      scan ⟨.between, place.ahead cs.length, ⟨t, place⟩ :: reversed⟩ rest := by
  cases cs with
  | nil => exact absurd rfl hne
  | cons c cs =>
    obtain ⟨hc, hcs⟩ := List.forall_mem_cons.1 h
    rw [List.cons_append, scan_cons (step_word hc place reversed), scan_word hcs,
      scan_word_end (by simpa using ht) hr, place.ahead_next]
    rfl

/-- A run of word characters that makes no token is at fault where it begins. -/
theorem scan_of_wordToken_error {cs : List Char} {defect : Defect} (hne : cs ≠ [])
    (h : ∀ c ∈ cs, Text.isWordChar c = true) (ht : wordToken cs = .error defect)
    {rest : List Char} (hr : EndsWord rest) (place : Place) (reversed : List Located) :
    scan ⟨.between, place, reversed⟩ (cs ++ rest) = .error ⟨place, defect⟩ := by
  cases cs with
  | nil => exact absurd rfl hne
  | cons c cs =>
    obtain ⟨hc, hcs⟩ := List.forall_mem_cons.1 h
    have hclose : closeWord place (cs.reverse ++ [c]) reversed = .error ⟨place, defect⟩ := by
      simp only [closeWord, List.reverse_append, List.reverse_reverse, List.reverse_singleton,
        List.singleton_append, ht]
    rw [List.cons_append, scan_cons (step_word hc place reversed), scan_word hcs]
    cases rest with
    | nil =>
      have hfinish : Scan.finish ⟨.word place (cs.reverse ++ [c]), place.next.ahead cs.length, reversed⟩ =
          .error ⟨place, defect⟩ := by
        simp only [Scan.finish, hclose]
        rfl
      exact hfinish
    | cons d rest =>
      have hend : step ⟨.word place (cs.reverse ++ [c]), place.next.ahead cs.length, reversed⟩ d =
          .error ⟨place, defect⟩ := by
        simp only [step, hr d rfl, hclose]
        rfl
      rw [scan, List.foldlM_cons, hend]
      rfl

theorem Reads.word {cs : List Char} {t : Token} (hne : cs ≠ [])
    (h : ∀ c ∈ cs, Text.isWordChar c = true) (ht : wordToken cs = .ok t) {rest : List Char}
    (hr : EndsWord rest) : Reads [t] (cs ++ rest) rest :=
  fun place reversed =>
    ⟨place.ahead cs.length, [⟨t, place⟩], rfl, scan_between_word hne h ht hr place reversed⟩

/-! ### Texts between quotes -/

/-- The characters between two quotes that write a text: a character that is not special stands
for itself, and any character after a backslash for what that writes. -/
inductive Spelled : (text chars : List Char) → Prop where
  /-- The empty text. -/
  | nil : Spelled [] []
  /-- A character that stands for itself. -/
  | raw {c : Char} {text chars : List Char} (quote : c ≠ '"') (backslash : c ≠ '\\')
      (newline : c ≠ '\n') (rest : Spelled text chars) : Spelled (c :: text) (c :: chars)
  /-- A character after a backslash. -/
  | escaped {c : Char} {text chars : List Char} (rest : Spelled text chars) :
      Spelled (unescape c :: text) ('\\' :: c :: chars)

theorem Spelled.append {t u cs ds : List Char} (h : Spelled t cs) (h' : Spelled u ds) :
    Spelled (t ++ u) (cs ++ ds) := by
  induction h with
  | nil => exact h'
  | raw quote backslash newline _ ih => exact .raw quote backslash newline ih
  | escaped _ ih => exact .escaped ih

theorem scan_literal {start : Place} {reversed : List Located} {text chars : List Char}
    (h : Spelled text chars) (rest before : List Char) (place : Place) :
    scan ⟨.literal start before, place, reversed⟩ (chars ++ rest) =
      scan ⟨.literal start (text.reverse ++ before), place.ahead chars.length, reversed⟩ rest := by
  induction h generalizing before place with
  | nil => rfl
  | @raw c text chars quote backslash newline _ ih =>
    have hs : step ⟨.literal start before, place, reversed⟩ c =
        .ok ⟨.literal start (c :: before), place.next, reversed⟩ := by
      simp only [step, if_neg quote, if_neg backslash, if_neg newline]
    rw [List.cons_append, scan_cons hs, ih, place.ahead_next, List.reverse_cons, List.append_assoc]
    rfl
  | @escaped c text chars _ ih =>
    rw [List.cons_append, List.cons_append, scan_cons rfl, scan_cons rfl, List.reverse_cons,
      List.append_assoc, ih, Place.ahead_next, Place.ahead_next]
    rfl

/-- A text between quotes makes its token. -/
theorem scan_between_literal {text chars : List Char} (h : Spelled text chars) (rest : List Char)
    (place : Place) (reversed : List Located) :
    scan ⟨.between, place, reversed⟩ ('"' :: (chars ++ '"' :: rest)) =
      scan ⟨.between, place.ahead (chars.length + 2),
        ⟨.literal (String.ofList text), place⟩ :: reversed⟩ rest := by
  have hend : step ⟨.literal place text.reverse, place.next.ahead chars.length, reversed⟩ '"' =
      .ok ⟨.between, place.ahead (chars.length + 2), ⟨.literal (String.ofList text), place⟩ :: reversed⟩ := by
    rw [place.ahead_next]
    simp only [step, if_pos, List.reverse_reverse]
    rfl
  rw [scan_cons rfl, scan_literal h, List.append_nil]
  exact scan_cons hend rest

theorem Reads.literal {text chars : List Char} (h : Spelled text chars) (rest : List Char) :
    Reads [.literal (String.ofList text)] ('"' :: (chars ++ '"' :: rest)) rest :=
  fun place reversed =>
    ⟨_, [⟨.literal (String.ofList text), place⟩], rfl, scan_between_literal h rest place reversed⟩

end ParserConformance.Annotation
