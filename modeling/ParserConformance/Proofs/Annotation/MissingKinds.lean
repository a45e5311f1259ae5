import ParserConformance.Proofs.Annotation.Recognition
import ParserConformance.Proofs.Text.Quoted

/-!
# Missing kinds that are read back

A missing node is printed with its kind as a plain word or between quotes. Two sorts of kinds do not
come back. A run of digits is printed as a word, but the lexer makes a number of it, and a number is
no kind. Between quotes the lexer knows the escapes `\n` and `\t` by their letters and takes any other
character after a backslash for itself; so a character that is quoted as `\0`, as `\r` or by its code
point comes back as what stands after the backslash.

## Main statement
- `Outline.read_text_missing`: what is read of a printed missing node, whatever its kind.
-/

namespace ParserConformance

open Annotation

/-- A text of digits alone. -/
def IsNumeral (s : String) : Prop := s ≠ "" ∧ ∀ c ∈ s.toList, c.isDigit = true

instance (s : String) : Decidable (IsNumeral s) :=
  decidable_of_iff (s ≠ "" ∧ s.toList.all Char.isDigit = true) (by simp [IsNumeral])

namespace Annotation

/-! ### Quoted characters -/

/-- What is read of a quoted character. An escape that is not known loses its backslash. -/
def reread (c : Char) : List Char := if IsQuotable c then [c] else (Text.escape c).tail

/-- What is read of a quoted text. -/
def rereadText (s : String) : String := String.ofList (s.toList.flatMap reread)

/-- A character that needs no backslash between quotes. -/
def IsPlain (c : Char) : Prop := c ≠ '"' ∧ c ≠ '\\' ∧ c ≠ '\n'

instance (c : Char) : Decidable (IsPlain c) := inferInstanceAs (Decidable (_ ∧ _))

theorem isPlain_of_mem_hexDigits {c : Char} {n : Nat} (h : c ∈ Text.hexDigits n) : IsPlain c := by
  have hdigit : ∀ m < 16, IsPlain m.digitChar := by decide
  obtain ⟨m, hm, rfl⟩ := Text.exists_digitChar_of_mem_hexDigits h
  exact hdigit m hm

/-- A character that cannot be quoted is written as other characters after a backslash, and the lexer
takes each of them for itself. -/
theorem escape_of_not_isQuotable {c : Char} (h : ¬IsQuotable c) :
    ∃ l rest, Text.escape c = '\\' :: l :: rest ∧ l ≠ c ∧ unescape l = l ∧ ∀ d ∈ rest, IsPlain d := by
  rw [IsQuotable] at h
  rw [Text.escape] at h ⊢
  split_ifs at h ⊢ with hzero htab hreturn hnewline hbackslash hquote hunprintable
  · exact ⟨'0', [], rfl, by rw [hzero]; decide, rfl, List.forall_mem_nil _⟩
  · exact absurd (by decide) h
  · exact ⟨'r', [], rfl, by rw [hreturn]; decide, rfl, List.forall_mem_nil _⟩
  · exact absurd (by decide) h
  · exact absurd (by decide) h
  · exact absurd (by decide) h
  · refine ⟨'u', '\x7b' :: (Text.hexDigits c.toNat ++ ['\x7d']), by simp, ?_, rfl, fun d hd => ?_⟩
    · rintro rfl
      exact absurd hunprintable (by decide)
    · simp only [List.mem_cons, List.mem_append, List.not_mem_nil, or_false] at hd
      rcases hd with rfl | hd | rfl
      · decide
      · exact isPlain_of_mem_hexDigits hd
      · decide
  · exact absurd (by simp) h

theorem spelled_of_isPlain {cs : List Char} (h : ∀ c ∈ cs, IsPlain c) : Spelled cs cs := by
  induction cs with
  | nil => exact .nil
  | cons c cs ih =>
    obtain ⟨⟨hquote, hbackslash, hnewline⟩, hcs⟩ := List.forall_mem_cons.1 h
    exact .raw hquote hbackslash hnewline (ih hcs)

/-- A quoted character stands for what is read of it. -/
theorem spelled_reread (c : Char) : Spelled (reread c) (Text.escape c) := by
  by_cases h : IsQuotable c
  · rw [reread, if_pos h]
    exact spelled_escape h
  · obtain ⟨l, rest, hescape, -, hl, hrest⟩ := escape_of_not_isQuotable h
    rw [reread, if_neg h, hescape]
    have := Spelled.escaped (c := l) (spelled_of_isPlain hrest)
    rwa [hl] at this

theorem spelled_flatMap_reread (cs : List Char) : Spelled (cs.flatMap reread) (cs.flatMap Text.escape) := by
  induction cs with
  | nil => exact .nil
  | cons c cs ih => exact (spelled_reread c).append ih

/-- What is read of a character that cannot be quoted begins with another character. -/
theorem head?_reread_of_not_isQuotable {c : Char} (h : ¬IsQuotable c) :
    ∃ l, (reread c).head? = some l ∧ l ≠ c := by
  obtain ⟨l, rest, hescape, hne, -⟩ := escape_of_not_isQuotable h
  refine ⟨l, ?_, hne⟩
  rw [reread, if_neg h, hescape]
  rfl

/-- A text is read back from its quotation just if each of its characters can be quoted. -/
theorem flatMap_reread_eq_self_iff {cs : List Char} :
    cs.flatMap reread = cs ↔ ∀ c ∈ cs, IsQuotable c := by
  induction cs with
  | nil => exact iff_of_true rfl nofun
  | cons c cs ih =>
    rw [List.flatMap_cons, List.forall_mem_cons]
    by_cases hc : IsQuotable c
    · rw [reread, if_pos hc, ← ih]
      simp [hc]
    · refine iff_of_false (fun h => ?_) fun h => hc h.1
      obtain ⟨l, hl, hne⟩ := head?_reread_of_not_isQuotable hc
      have := congrArg List.head? h
      rw [List.head?_append, hl] at this
      exact hne (Option.some.inj this)

theorem rereadText_eq_self_iff {s : String} : rereadText s = s ↔ ∀ c ∈ s.toList, IsQuotable c := by
  rw [← flatMap_reread_eq_self_iff, rereadText, ← String.toList_inj, String.toList_ofList]

/-! ### Words -/

/-- A word character stands for itself between quotes. -/
theorem isQuotable_of_isWordChar {c : Char} (h : Text.isWordChar c = true) : IsQuotable c := by
  by_contra hc
  obtain ⟨l, rest, hescape, -⟩ := escape_of_not_isQuotable hc
  have hne : ∀ d, Text.isWordChar d = false → c ≠ d := by
    rintro d hd rfl
    exact absurd (h.symm.trans hd) (by decide)
  have hprintable : Text.isUnprintable c = false := by
    have := toNat_of_isWordChar h
    rw [Text.isUnprintable, if_pos (by simp; omega)]
  rw [Text.escape, if_neg (hne _ (by decide)), if_neg (hne _ (by decide)), if_neg (hne _ (by decide)),
    if_neg (hne _ (by decide)), if_neg (hne _ (by decide)), if_neg (hne _ (by decide)),
    if_neg (by simp [hprintable])] at hescape
  simp at hescape

/-- An annotation is at fault if what follows its first tokens is. -/
theorem Reads.lex_error {ts : List Token} {cs rest : List Char} (h : Reads ts cs rest)
    (hrest : ∀ place reversed, ∃ fault, scan ⟨.between, place, reversed⟩ rest = .error fault) :
    ∃ fault, Annotation.lex cs = .error fault := by
  obtain ⟨place, located, -, e⟩ := h .first []
  obtain ⟨fault, hfault⟩ := hrest place (located.reverse ++ [])
  exact ⟨fault, e.trans hfault⟩

end Annotation

namespace Outline

/-! ### Printed missing nodes -/

theorem write_missing (kind : String) (level : Option Nat) :
    (missing (some kind) none).write level [] =
      '(' :: ("MISSING".toList ++ ' ' :: (missingKind kind ++ [')'])) := by
  rw [write, writeHead, labelChars_missing_some]
  simp [span]

theorem reads_missingFront (rest : List Char) :
    Reads [.opening, .word "MISSING"] ('(' :: ("MISSING".toList ++ ' ' :: rest)) rest := by
  have hblank : EndsWord (' ' :: rest) := endsWord_cons (by decide) _
  exact (Reads.mark rfl _).trans ((Reads.ofWord isWord_missing hblank).trans (Reads.blank (by decide) _))

theorem reads_missing {kind : String} {token : Token}
    (h : Reads [token] (missingKind kind ++ [')']) [')']) :
    Reads [.opening, .word "MISSING", token, .closing] ((missing (some kind) none).write none []) [] := by
  rw [write_missing]
  exact (reads_missingFront _).trans (h.trans (Reads.mark rfl []))

theorem missingKind_of_isNumeral {kind : String} (h : IsNumeral kind) : missingKind kind = kind.toList := by
  refine if_pos ?_
  rw [Bool.and_eq_true, Bool.not_eq_true', String.isEmpty_eq_false_iff, List.all_eq_true]
  exact ⟨h.1, fun c hc => isWordChar_of_isDigit (h.2 c hc)⟩

/-- A number is no kind. -/
theorem not_derives_number {n : Nat} {t : Outline} :
    ¬Derives [.opening, .word "MISSING", .number n, .closing] t := by
  intro h
  generalize hts : [Token.opening, .word "MISSING", .number n, .closing] = ts at h
  cases h with
  | error span children => simp at hts
  | node _ hmissing => simp_all
  | missing given span => cases given <;> cases span <;> simp [spanTokens, Span.tokens, Point.tokens] at hts

/-- A missing node of a kind of digits alone is printed, but not read. -/
theorem read_ne_ok_of_isNumeral {kind : String} (h : IsNumeral kind) (t : Outline) :
    read (missing (some kind) none).text ≠ .ok t := by
  have hchars : ∀ c ∈ kind.toList, Text.isWordChar c = true := fun c hc => isWordChar_of_isDigit (h.2 c hc)
  have hne : kind.toList ≠ [] := by simpa using h.1
  have hdigits : kind.toList.all Char.isDigit = true := List.all_eq_true.2 h.2
  intro hread
  obtain ⟨lexed, hlex, htokens⟩ := bind_eq_ok_iff.1 hread
  rw [text, String.toList_ofList] at hlex
  by_cases hv : valueOf kind.toList < 2 ^ 64
  · have htoken : wordToken kind.toList = .ok (.number (valueOf kind.toList)) := by
      rw [wordToken, if_pos hdigits, if_pos hv]
    have hnumber : Reads [.number (valueOf kind.toList)] (kind.toList ++ [')']) [')'] :=
      Reads.word hne hchars htoken (endsWord_cons (by decide) _)
    rw [← missingKind_of_isNumeral h] at hnumber
    obtain ⟨lexed', hlex', htokens'⟩ := (reads_missing hnumber).lex
    obtain rfl := Except.ok.inj (hlex'.symm.trans hlex)
    have hderives := (readTokens_eq_ok_iff.1 htokens).1
    rw [htokens'] at hderives
    exact not_derives_number hderives
  · have htoken : wordToken kind.toList = .error (.numberTooLarge (String.ofList kind.toList)) := by
      rw [wordToken, if_pos hdigits, if_neg hv]
    obtain ⟨fault, hfault⟩ := (reads_missingFront (missingKind kind ++ [')'])).lex_error
      (missingKind_of_isNumeral h ▸ fun place reversed =>
        ⟨_, scan_of_wordToken_error hne hchars htoken (endsWord_cons (by decide) _) place reversed⟩)
    rw [← write_missing, hlex] at hfault
    cases hfault

/-- The kind that is printed is one token, and that stands for what is read of the kind. -/
theorem exists_reads_missingKind {kind : String} (h : ¬IsNumeral kind) :
    ∃ token, Reads [token] (missingKind kind ++ [')']) [')'] ∧
      DerivesMissingKind [token] (some (rereadText kind)) := by
  by_cases hw : (!kind.isEmpty && kind.toList.all Text.isWordChar) = true
  · rw [Bool.and_eq_true, List.all_eq_true] at hw
    have hquotable : ∀ c ∈ kind.toList, IsQuotable c := fun c hc => isQuotable_of_isWordChar (hw.2 c hc)
    rw [rereadText_eq_self_iff.2 hquotable]
    exact ⟨missingKindToken kind, reads_missingKind ⟨h, hquotable⟩ (endsWord_cons (by decide) _),
      derivesMissingKind_token kind⟩
  · have hquote := Reads.literal (spelled_flatMap_reread kind.toList) [')']
    refine ⟨.literal (rereadText kind), ?_, .literal _⟩
    rw [missingKind, if_neg hw, Text.quote, rereadText]
    simpa using hquote

theorem read_text_missing_eq_ok_iff {kind : String} {t : Outline} :
    read (missing (some kind) none).text = .ok t ↔
      ¬IsNumeral kind ∧ t = missing (some (rereadText kind)) none := by
  by_cases h : IsNumeral kind
  · exact iff_of_false (read_ne_ok_of_isNumeral h t) fun h' => h'.1 h
  obtain ⟨token, hkind, hgiven⟩ := exists_reads_missingKind h
  obtain ⟨lexed, hlex, htokens⟩ := (reads_missing hkind).lex
  have hderives : Derives (lexed.tokens.map Located.token) (missing (some (rereadText kind)) none) := by
    rw [htokens]
    exact .missing hgiven none
  have htext : lex (missing (some kind) none).text.toList = .ok lexed := by
    rw [text, String.toList_ofList, hlex]
  rw [read_of_lex htext, readTokens_eq_ok_iff]
  constructor
  · exact fun ht => ⟨h, ht.1.unique hderives⟩
  · rintro ⟨-, rfl⟩
    refine ⟨hderives, ?_⟩
    rw [height]
    decide

/-- **What is read of a printed missing node**, in either layout and whatever its kind: nothing if the
kind is a number, else a missing node of the kind that is read of the quotation. So the node itself is
read back just if its kind is no number and each character of it can be quoted. -/
theorem read_text_missing (kind : String) :
    (missing (some kind) none).pretty = (missing (some kind) none).text ∧
      (∀ t, read (missing (some kind) none).text = .ok t ↔
        ¬IsNumeral kind ∧ t = missing (some (rereadText kind)) none) ∧
      (read (missing (some kind) none).text = .ok (missing (some kind) none) ↔
        IsMissingKind kind) := by
  refine ⟨?_, fun t => read_text_missing_eq_ok_iff, ?_⟩
  · rw [pretty, text, write_missing, write_missing]
  · rw [read_text_missing_eq_ok_iff, IsMissingKind, missing.injEq, Option.some.injEq,
      eq_comm (a := kind), rereadText_eq_self_iff]
    exact and_congr_right fun _ => and_iff_left rfl

/-- A number is not read back as a kind, and a carriage return comes back as a letter. -/
theorem read_text_missing_number :
    (missing (some "123") none).text = "(MISSING 123)" ∧
      (∀ t, read (missing (some "123") none).text ≠ .ok t) ∧
      (missing (some "\r") none).text = "(MISSING \"\\r\")" ∧
      read (missing (some "\r") none).text = .ok (missing (some "r") none) := by
  have hnumeral : IsNumeral "123" := by decide
  have hreturn : ¬IsNumeral "\r" := by decide
  have hreread : rereadText "\r" = "r" := by decide +kernel
  refine ⟨by decide +kernel, read_ne_ok_of_isNumeral hnumeral, by decide +kernel, ?_⟩
  exact read_text_missing_eq_ok_iff.2 ⟨hreturn, by rw [hreread]⟩

end Outline

end ParserConformance
