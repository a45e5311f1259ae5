import ParserConformance.Proofs.Annotation.Layout
import ParserConformance.Proofs.Annotation.Recognition
import ParserConformance.Proofs.Annotation.Words

/-!
# Spacing out an annotation

The same tokens can be written in many ways. A number may have zeros in front, a text between quotes
can be spelled with more or fewer escapes, and blanks and comments may stand before, after and between
tokens. They have to between two words, which would run together otherwise. `layOut` puts the pieces
together, and `WellSpaced` says what each of them may be.

The lexer gives back the tokens, whichever way was taken. So the tree that an annotation writes does
not change when it is indented or commented anew. What is not laid out so is not accepted.

## Main statements
- `Annotation.exists_lex_iff`: the annotations from which the lexer makes given tokens.
- `Annotation.lex_layOut`: the tokens of a well spaced annotation, and the tree of any two that have
  the same tokens.
-/

namespace ParserConformance.Annotation

/-! ### Pieces -/

/-- Blanks and comments between tokens. -/
inductive Gap : List Char → Prop where
  /-- Nothing. -/
  | nil : Gap []
  /-- A blank. -/
  | blank {c : Char} {cs : List Char} (blank : Text.isBlank c = true) (rest : Gap cs) : Gap (c :: cs)
  /-- A comment, which runs to the end of its line. -/
  | comment (text : List Char) {cs : List Char} (line : '\n' ∉ text) (rest : Gap cs) :
    Gap (';' :: (text ++ '\n' :: cs))

/-- Blanks and comments after the last token. The annotation may end within a comment. -/
inductive LastGap : List Char → Prop where
  /-- Every comment ends. -/
  | closed {cs : List Char} (gap : Gap cs) : LastGap cs
  /-- The last comment has no newline after it. -/
  | comment {cs : List Char} (gap : Gap cs) (text : List Char) (line : '\n' ∉ text) :
    LastGap (cs ++ ';' :: text)

/-- The ways to write a token. -/
inductive Writes : Token → List Char → Prop where
  /-- A token of a single character. -/
  | mark {c : Char} {t : Token} (mark : Token.ofMark? c = some t) : Writes t [c]
  /-- A word, which has only one spelling. -/
  | word {s : String} (isWord : IsWord s) : Writes (.word s) s.toList
  /-- A number, with as many zeros in front as one likes. -/
  | number {n : Nat} (fits : n < 2 ^ 64) (zeros : Nat) :
    Writes (.number n) (List.replicate zeros '0' ++ Nat.toDigits 10 n)
  /-- A text between quotes. -/
  | literal {s : String} {chars : List Char} (spelled : Spelled s.toList chars) :
    Writes (.literal s) ('"' :: (chars ++ ['"']))

/-- Whether a token is made of word characters. -/
def Token.isWordlike : Token → Bool
  | .word _ | .number _ => true
  | _ => false

/-- A token with what is written for it and before it. -/
structure Piece where
  /-- The blanks and comments before the token. -/
  gap : List Char
  /-- The token. -/
  token : Token
  /-- Its characters. -/
  chars : List Char

/-- The annotation that pieces make, with `last` after them. -/
def layOut (ps : List Piece) (last : List Char) : List Char :=
  ps.foldr (fun p rest => p.gap ++ (p.chars ++ rest)) last

/-- Tokens are written as such, apart from each other where they have to be. -/
structure WellSpaced (ps : List Piece) (last : List Char) : Prop where
  /-- Before each token there are blanks and comments. -/
  gap : ∀ p ∈ ps, Gap p.gap
  /-- Each token is written in one of its ways. -/
  writes : ∀ p ∈ ps, Writes p.token p.chars
  /-- Something parts two words. -/
  parted : ps.IsChain fun p q => p.token.isWordlike → q.token.isWordlike → q.gap ≠ []
  /-- After the last token there are blanks and comments. -/
  last : LastGap last

theorem WellSpaced.tail {p : Piece} {ps : List Piece} {last : List Char} (h : WellSpaced (p :: ps) last) :
    WellSpaced ps last where
  gap q hq := h.gap q (List.mem_cons_of_mem p hq)
  writes q hq := h.writes q (List.mem_cons_of_mem p hq)
  parted := h.parted.tail
  last := h.last

/-! ### What ends a word -/

theorem isWordChar_of_isBlank {c : Char} (h : Text.isBlank c = true) : Text.isWordChar c = false := by
  rw [Bool.eq_false_iff]
  intro hc
  rw [isBlank_of_isWordChar hc] at h
  cases h

theorem endsWord_nil : EndsWord [] := fun _ h => nomatch h

theorem Gap.endsWord {gap rest : List Char} (h : Gap gap) (hrest : gap = [] → EndsWord rest) :
    EndsWord (gap ++ rest) := by
  cases h with
  | nil => exact hrest rfl
  | blank blank => exact endsWord_cons (isWordChar_of_isBlank blank) _
  | comment => exact endsWord_cons (by decide) _

theorem LastGap.endsWord {last : List Char} (h : LastGap last) : EndsWord last := by
  cases h with
  | closed gap =>
    have := gap.endsWord fun _ => endsWord_nil
    rwa [List.append_nil] at this
  | comment gap => exact gap.endsWord fun _ => endsWord_cons (by decide) _

theorem isWordChar_of_ofMark? {c : Char} {t : Token} (h : Token.ofMark? c = some t) :
    Text.isWordChar c = false := by
  unfold Token.ofMark? at h
  split at h <;> first | rfl | cases h

theorem Writes.endsWord {t : Token} {chars : List Char} (h : Writes t chars) (ht : ¬t.isWordlike)
    (rest : List Char) : EndsWord (chars ++ rest) := by
  cases h with
  | mark mark => exact endsWord_cons (isWordChar_of_ofMark? mark) _
  | word => exact absurd rfl ht
  | number => exact absurd rfl ht
  | literal => exact endsWord_cons (by decide) _

/-- A word ends where the next piece begins. -/
theorem WellSpaced.endsWord {p : Piece} {ps : List Piece} {last : List Char}
    (h : WellSpaced (p :: ps) last) (hp : p.token.isWordlike) : EndsWord (layOut ps last) := by
  cases ps with
  | nil => exact h.last.endsWord
  | cons q ps =>
    refine (h.gap q (by simp)).endsWord fun hnone => (h.writes q (by simp)).endsWord ?_ _
    exact fun hq => h.parted.rel hp hq hnone

/-! ### The layout -/

theorem Gap.lays {gap : List Char} (h : Gap gap) {before cs : List Char} {laid : List Laid}
    (hcs : Lays (before ++ gap) cs laid) : Lays before (gap ++ cs) laid := by
  induction h generalizing before with
  | nil => rwa [List.append_nil] at hcs
  | blank blank _ ih => exact .blank blank (ih (by simpa using hcs))
  | comment text line _ ih =>
    rw [List.cons_append, List.append_assoc]
    exact .comment line (ih (by simpa using hcs))

theorem LastGap.lays {last : List Char} (h : LastGap last) (before : List Char) : Lays before last [] := by
  cases h with
  | closed gap =>
    have hgap : Lays before (last ++ []) [] := gap.lays .done
    rwa [List.append_nil] at hgap
  | comment gap text line => exact gap.lays (.lastComment line)

theorem Writes.lays {t : Token} {chars : List Char} (h : Writes t chars) {before cs : List Char}
    {laid : List Laid} (hends : t.isWordlike → EndsWord cs) (hcs : Lays (before ++ chars) cs laid) :
    Lays before (chars ++ cs) (⟨t, before, chars⟩ :: laid) := by
  cases h with
  | mark mark => exact .mark mark hcs
  | word isWord =>
    exact .word (toList_ne_nil_of_isWord isWord) isWord.1 (wordToken_of_isWord isWord) (hends rfl) hcs
  | number fits zeros =>
    refine .word (List.append_ne_nil_of_right_ne_nil _ Nat.toDigits_ne_nil) ?_
      (wordToken_numeral fits zeros) (hends rfl) hcs
    exact fun _ hc => isWordChar_of_isDigit (isDigit_numeral hc)
  | literal spelled =>
    have := Lays.literal spelled hcs
    rw [String.ofList_toList] at this
    simpa using this

/-- Well spaced pieces are laid out one after the other. -/
theorem WellSpaced.exists_lays {ps : List Piece} {last : List Char} (h : WellSpaced ps last)
    (before : List Char) :
    ∃ laid, Lays before (layOut ps last) laid ∧ laid.map Laid.token = ps.map Piece.token := by
  induction ps generalizing before with
  | nil => exact ⟨[], h.last.lays before, rfl⟩
  | cons p ps ih =>
    obtain ⟨laid, hlaid, htokens⟩ := ih h.tail (before ++ p.gap ++ p.chars)
    refine ⟨⟨p.token, before ++ p.gap, p.chars⟩ :: laid, ?_, by simp [htokens]⟩
    exact (h.gap p (by simp)).lays ((h.writes p (by simp)).lays h.endsWord hlaid)

/-- The lexer gives the tokens of well spaced pieces. -/
theorem WellSpaced.exists_lex {ps : List Piece} {last : List Char} (h : WellSpaced ps last) :
    ∃ lexed, lex (layOut ps last) = .ok lexed ∧
      lexed.tokens.map Located.token = ps.map Piece.token := by
  obtain ⟨laid, hlaid, htokens⟩ := h.exists_lays []
  obtain ⟨lexed, hlex, hmarked⟩ := lex_of_lays hlaid
  exact ⟨lexed, hlex, hmarked.map_token.trans htokens⟩

/-! ### Nothing else is accepted -/

theorem exists_digitChar {c : Char} (h : c.isDigit = true) : ∃ v < 10, v.digitChar = c := by
  have hrange : 48 ≤ c.toNat ∧ c.toNat ≤ 57 := by
    rw [Char.isDigit, Bool.and_eq_true, decide_eq_true_eq, decide_eq_true_eq] at h
    exact h
  have hdigits : ∀ v < 10, v.digitChar = Char.ofNat (v + 48) := by decide
  refine ⟨c.toNat - 48, by omega, ?_⟩
  rw [hdigits _ (by omega), Nat.sub_add_cancel hrange.1, Char.ofNat_toNat]

/-- Digits are a number with zeros in front. -/
theorem exists_numeral {cs : List Char} (hne : cs ≠ []) (hcs : ∀ c ∈ cs, c.isDigit = true) :
    ∃ zeros, cs = List.replicate zeros '0' ++ Nat.toDigits 10 (valueOf cs) := by
  induction cs using List.reverseRecOn with
  | nil => exact absurd rfl hne
  | append_singleton cs c ih =>
    obtain ⟨hfront, hc⟩ := List.forall_mem_append.1 hcs
    obtain ⟨v, hv, rfl⟩ := exists_digitChar (hc c List.mem_cons_self)
    have hvalue : valueOf (cs ++ [v.digitChar]) = 10 * valueOf cs + v := by
      rw [valueOf_eq, valueOf_eq, Nat.ofDigitChars_append, Nat.ofDigitChars_cons_digitChar_of_lt_ten hv]
      rfl
    rw [hvalue]
    by_cases hempty : cs = []
    · refine ⟨0, ?_⟩
      rw [hempty, show valueOf [] = 0 from rfl, Nat.mul_zero, Nat.zero_add, Nat.toDigits_of_lt_base hv]
      rfl
    · obtain ⟨zeros, hzeros⟩ := ih hempty hfront
      obtain hzero | hpos := Nat.eq_zero_or_pos (valueOf cs)
      · refine ⟨zeros + 1, ?_⟩
        rw [hzero, Nat.toDigits_zero] at hzeros
        rw [hzero, Nat.mul_zero, Nat.zero_add, Nat.toDigits_of_lt_base hv, hzeros, List.replicate_succ']
      · refine ⟨zeros, ?_⟩
        rw [← Nat.toDigits_append_toDigits (by decide) hpos hv, Nat.toDigits_of_lt_base hv,
          ← List.append_assoc, ← hzeros]

/-- The lexer makes a token of a word only if the token is written so. -/
theorem writes_of_wordToken {chars : List Char} {t : Token} (hne : chars ≠ [])
    (hchars : ∀ c ∈ chars, Text.isWordChar c = true) (h : wordToken chars = .ok t) : Writes t chars := by
  have htoken := h
  rw [wordToken] at h
  split at h
  · next hdigits =>
    split at h
    · next hfits =>
      cases h
      obtain ⟨zeros, hzeros⟩ := exists_numeral hne (List.all_eq_true.1 hdigits)
      have hwrites := Writes.number hfits zeros
      rwa [← hzeros] at hwrites
    · cases h
  · cases h
    have hwrites := Writes.word (isWord_of_wordToken hchars htoken)
    rwa [String.toList_ofList] at hwrites

theorem Gap.append {gap gap' : List Char} (h : Gap gap) (h' : Gap gap') : Gap (gap ++ gap') := by
  induction h with
  | nil => exact h'
  | blank blank _ ih => exact .blank blank ih
  | comment text line _ ih =>
    rw [List.cons_append, List.append_assoc]
    exact .comment text line ih

theorem LastGap.append {gap last : List Char} (h : Gap gap) (h' : LastGap last) :
    LastGap (gap ++ last) := by
  cases h' with
  | closed gap' => exact .closed (h.append gap')
  | comment gap' text line =>
    rw [← List.append_assoc]
    exact .comment (h.append gap') text line

theorem isWordlike_of_ofMark? {c : Char} {t : Token} (h : Token.ofMark? c = some t) :
    t.isWordlike = false := by
  unfold Token.ofMark? at h
  split at h <;> cases h <;> rfl

theorem Writes.not_endsWord {t : Token} {chars : List Char} (h : Writes t chars) (ht : t.isWordlike)
    (rest : List Char) : ¬EndsWord (chars ++ rest) := by
  have hbegins {chars : List Char} (hne : chars ≠ []) (hchars : ∀ c ∈ chars, Text.isWordChar c = true) :
      ¬EndsWord (chars ++ rest) := by
    cases chars with
    | nil => exact absurd rfl hne
    | cons c chars =>
      intro hends
      have := hends c rfl
      rw [hchars c List.mem_cons_self] at this
      cases this
  cases h with
  | mark mark => cases (isWordlike_of_ofMark? mark).symm.trans ht
  | word isWord => exact hbegins (toList_ne_nil_of_isWord isWord) isWord.1
  | number =>
    exact hbegins (List.append_ne_nil_of_right_ne_nil _ Nat.toDigits_ne_nil)
      fun _ hc => isWordChar_of_isDigit (isDigit_numeral hc)
  | literal => cases ht

theorem WellSpaced.cons {t : Token} {chars : List Char} {ps : List Piece} {last : List Char}
    (h : WellSpaced ps last) (hwrites : Writes t chars)
    (hends : t.isWordlike → EndsWord (layOut ps last)) : WellSpaced (⟨[], t, chars⟩ :: ps) last where
  gap := List.forall_mem_cons.2 ⟨.nil, h.gap⟩
  writes := List.forall_mem_cons.2 ⟨hwrites, h.writes⟩
  parted := by
    cases ps with
    | nil => exact .singleton _
    | cons q ps =>
      refine .cons_cons (fun ht hq hnone => ?_) h.parted
      have hends := hends ht
      rw [layOut, List.foldr_cons, hnone] at hends
      exact (h.writes q List.mem_cons_self).not_endsWord hq _ hends
  last := h.last

/-- Blanks and comments can be put in front. -/
theorem WellSpaced.exists_prepend {ps : List Piece} {last gap : List Char} (h : WellSpaced ps last)
    (hgap : Gap gap) : ∃ ps' last', WellSpaced ps' last' ∧ layOut ps' last' = gap ++ layOut ps last ∧
      ps'.map Piece.token = ps.map Piece.token := by
  cases ps with
  | nil => exact ⟨[], gap ++ last, { h with last := .append hgap h.last }, rfl, rfl⟩
  | cons p ps =>
    obtain ⟨hp, hps⟩ := List.forall_mem_cons.1 h.gap
    obtain ⟨hwrites, hrest⟩ := List.forall_mem_cons.1 h.writes
    refine ⟨{ p with gap := gap ++ p.gap } :: ps, last, ?_, by simp [layOut], rfl⟩
    constructor
    case gap => exact List.forall_mem_cons.2 ⟨hgap.append hp, hps⟩
    case writes => exact List.forall_mem_cons.2 ⟨hwrites, hrest⟩
    case parted =>
      cases ps with
      | nil => exact .singleton _
      | cons q ps => exact .cons_cons h.parted.rel h.parted.tail
    case last => exact h.last

/-- What is laid out is well spaced. -/
theorem Lays.exists_wellSpaced {before cs : List Char} {laid : List Laid} (h : Lays before cs laid) :
    ∃ ps last, WellSpaced ps last ∧ layOut ps last = cs ∧
      ps.map Piece.token = laid.map Laid.token := by
  induction h with
  | done => exact ⟨[], [], ⟨by simp, by simp, .nil, .closed .nil⟩, rfl, rfl⟩
  | lastComment line => exact ⟨[], _, ⟨by simp, by simp, .nil, .comment .nil _ line⟩, rfl, rfl⟩
  | blank blank _ ih =>
    obtain ⟨ps, last, hps, rfl, htokens⟩ := ih
    obtain ⟨ps', last', hps', hlayout, htokens'⟩ := hps.exists_prepend (.blank blank .nil)
    exact ⟨ps', last', hps', hlayout, htokens'.trans htokens⟩
  | comment line _ ih =>
    obtain ⟨ps, last, hps, rfl, htokens⟩ := ih
    obtain ⟨ps', last', hps', hlayout, htokens'⟩ := hps.exists_prepend (.comment _ line .nil)
    exact ⟨ps', last', hps', by simpa using hlayout, htokens'.trans htokens⟩
  | mark mark _ ih =>
    obtain ⟨ps, last, hps, rfl, htokens⟩ := ih
    refine ⟨_, last, hps.cons (.mark mark) fun ht => ?_, rfl, by simp [htokens]⟩
    cases (isWordlike_of_ofMark? mark).symm.trans ht
  | word ne_nil isWordChar token ends _ ih =>
    obtain ⟨ps, last, hps, rfl, htokens⟩ := ih
    exact ⟨_, last, hps.cons (writes_of_wordToken ne_nil isWordChar token) fun _ => ends, rfl,
      by simp [htokens]⟩
  | literal spelled _ ih =>
    obtain ⟨ps, last, hps, rfl, htokens⟩ := ih
    have hwrites := Writes.literal (by rwa [String.toList_ofList])
    exact ⟨_, last, hps.cons hwrites nofun, by simp [layOut], by simp [htokens]⟩

/-- **The lexer accepts what is well spaced, and nothing else.** -/
theorem exists_lex_iff {cs : List Char} {ts : List Token} :
    (∃ lexed, lex cs = .ok lexed ∧ lexed.tokens.map Located.token = ts) ↔
      ∃ ps last, WellSpaced ps last ∧ layOut ps last = cs ∧ ps.map Piece.token = ts := by
  constructor
  · rintro ⟨lexed, hlex, rfl⟩
    obtain ⟨laid, hlaid⟩ := exists_lays hlex
    obtain ⟨ps, last, hps, hlayout, htokens⟩ := hlaid.exists_wellSpaced
    obtain ⟨lexed', hlex', hmarked⟩ := lex_of_lays hlaid
    obtain rfl := Except.ok.inj (hlex.symm.trans hlex')
    exact ⟨ps, last, hps, hlayout, htokens.trans hmarked.map_token.symm⟩
  · rintro ⟨ps, last, hps, rfl, rfl⟩
    exact hps.exists_lex

/-! ### The tree -/

/-- **Whichever way tokens are written and spaced out, the lexer gives them back**, and the tree that
they write is the same. -/
theorem lex_layOut {ps : List Piece} {last : List Char} (h : WellSpaced ps last) :
    (∃ lexed, lex (layOut ps last) = .ok lexed ∧
        lexed.tokens.map Located.token = ps.map Piece.token) ∧
      ∀ {qs : List Piece} {last' : List Char}, WellSpaced qs last' →
        qs.map Piece.token = ps.map Piece.token →
        ∀ t, read (String.ofList (layOut qs last')) = .ok t ↔
          read (String.ofList (layOut ps last)) = .ok t := by
  refine ⟨h.exists_lex, fun {qs last'} h' htokens t => ?_⟩
  obtain ⟨lexed, hlex, hps⟩ := h.exists_lex
  obtain ⟨lexed', hlex', hqs⟩ := h'.exists_lex
  rw [← String.toList_ofList (l := layOut ps last)] at hlex
  rw [← String.toList_ofList (l := layOut qs last')] at hlex'
  rw [read_of_lex hlex, read_of_lex hlex', readTokens_eq_ok_iff, readTokens_eq_ok_iff, hps, hqs, htokens]

/-- The pieces of a missing semicolon, one right after the other. -/
def tightSemicolon : List Piece :=
  [⟨[], .opening, ['(']⟩, ⟨[], .word "MISSING", "MISSING".toList⟩, ⟨[], .literal ";", "\";\"".toList⟩,
    ⟨[], .openBracket, ['[']⟩, ⟨[], .number 0, ['0']⟩, ⟨[], .comma, [',']⟩, ⟨[], .number 7, ['7']⟩,
    ⟨[], .closeBracket, [']']⟩, ⟨[], .dash, ['-']⟩, ⟨[], .openBracket, ['[']⟩, ⟨[], .number 0, ['0']⟩,
    ⟨[], .comma, [',']⟩, ⟨[], .number 7, ['7']⟩, ⟨[], .closeBracket, [']']⟩, ⟨[], .closing, [')']⟩]

/-- The same with comments that hold a quote and a parenthesis, with a backslash that need not be
there, and with zeros in front. -/
def looseSemicolon : List Piece :=
  [⟨"; \"(\n ".toList, .opening, ['(']⟩, ⟨[], .word "MISSING", "MISSING".toList⟩,
    ⟨";)\n".toList, .literal ";", "\"\\;\"".toList⟩, ⟨[], .openBracket, ['[']⟩,
    ⟨[], .number 0, "000".toList⟩, ⟨[], .comma, [',']⟩, ⟨"\t".toList, .number 7, "07".toList⟩,
    ⟨[], .closeBracket, [']']⟩, ⟨" ".toList, .dash, ['-']⟩, ⟨" ".toList, .openBracket, ['[']⟩,
    ⟨[], .number 0, ['0']⟩, ⟨[], .comma, [',']⟩, ⟨[], .number 7, ['7']⟩, ⟨[], .closeBracket, [']']⟩,
    ⟨"\n".toList, .closing, [')']⟩]

theorem wellSpaced_tightSemicolon : WellSpaced tightSemicolon [] where
  gap := by simp [tightSemicolon, Gap.nil]
  writes := by
    have hspelled : Spelled ";".toList [';'] := .raw (by decide) (by decide) (by decide) .nil
    simp only [tightSemicolon, List.forall_mem_cons]
    exact ⟨.mark rfl, .word (by decide), .literal hspelled, .mark rfl, .number (by decide) 0,
      .mark rfl, .number (by decide) 0, .mark rfl, .mark rfl, .mark rfl, .number (by decide) 0, .mark rfl,
      .number (by decide) 0, .mark rfl, .mark rfl, by simp⟩
  parted := by simp [tightSemicolon, Token.isWordlike]
  last := .closed .nil

theorem wellSpaced_looseSemicolon : WellSpaced looseSemicolon " ; the end".toList where
  gap := by
    simp only [looseSemicolon, List.forall_mem_cons]
    exact ⟨.comment " \"(".toList (by decide) (.blank rfl .nil), .nil,
      .comment ")".toList (by decide) .nil, .nil, .nil, .nil, .blank rfl .nil, .nil,
      .blank rfl .nil, .blank rfl .nil, .nil, .nil, .nil, .nil, .blank rfl .nil, by simp⟩
  writes := by
    have hspelled : Spelled ";".toList ['\\', ';'] := .escaped (c := ';') .nil
    simp only [looseSemicolon, List.forall_mem_cons]
    exact ⟨.mark rfl, .word (by decide), .literal hspelled, .mark rfl, .number (by decide) 2,
      .mark rfl, .number (by decide) 1, .mark rfl, .mark rfl, .mark rfl, .number (by decide) 0, .mark rfl,
      .number (by decide) 0, .mark rfl, .mark rfl, by simp⟩
  parted := by simp [looseSemicolon, Token.isWordlike]
  last := .comment (.blank (c := ' ') rfl .nil) " the end".toList (by decide)

/-- Both are read as the missing semicolon. -/
theorem lex_layOut_semicolon :
    WellSpaced tightSemicolon [] ∧ WellSpaced looseSemicolon " ; the end".toList ∧
      read (String.ofList (layOut looseSemicolon " ; the end".toList)) =
        .ok (.missing (some ";") (some ⟨⟨0, 7⟩, ⟨0, 7⟩⟩)) := by
  refine ⟨wellSpaced_tightSemicolon, wellSpaced_looseSemicolon, ?_⟩
  have hread : read (String.ofList (layOut tightSemicolon [])) =
      .ok (.missing (some ";") (some ⟨⟨0, 7⟩, ⟨0, 7⟩⟩)) := by rfl
  exact ((lex_layOut wellSpaced_tightSemicolon).2 wellSpaced_looseSemicolon rfl _).2 hread

end ParserConformance.Annotation
