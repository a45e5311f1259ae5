import Mathlib.Tactic.ByContra
import Mathlib.Tactic.SplitIfs
import ParserConformance.Outline.Basic
import ParserConformance.Proofs.Annotation.Lexing

/-!
# The tokens of a printed outline

`Outline.tokens` lists what an outline is made of, without any layout. Lexing the printed outline
gives just these tokens, in either layout (`Outline.reads_write`), if the outline can be written:
kinds and field labels are words, missing kinds survive their quotation, and coordinates are
below 2^64.
-/

namespace ParserConformance

open Annotation

/-! ### What can be written -/

/-- A word that is no number: letters, digits and underscores, not digits alone. -/
def IsWord (s : String) : Prop :=
  (∀ c ∈ s.toList, Text.isWordChar c = true) ∧ ∃ c ∈ s.toList, c.isDigit = false

/-- A word that can be the kind of a node: it is not taken for an error or missing node. -/
def IsKind (s : String) : Prop := IsWord s ∧ s ≠ "ERROR" ∧ s ≠ "MISSING"

/-- A character that is not quoted as `\0`, `\r` or by its code point. -/
def IsQuotable (c : Char) : Prop :=
  Text.escape c ≠ ['\\', '0'] ∧ Text.escape c ≠ ['\\', 'r'] ∧ ¬['\\', 'u'] <+: Text.escape c

/-- A text that can be the kind of a missing node: it is not taken for a number, and each of its
characters can be quoted. -/
def IsMissingKind (s : String) : Prop :=
  ¬(s ≠ "" ∧ ∀ c ∈ s.toList, c.isDigit = true) ∧ ∀ c ∈ s.toList, IsQuotable c

instance (s : String) : Decidable (IsWord s) :=
  decidable_of_iff ((s.toList.all Text.isWordChar && s.toList.any fun c => !c.isDigit) = true)
    (by simp [IsWord])

instance (s : String) : Decidable (IsKind s) := inferInstanceAs (Decidable (_ ∧ _))

instance (c : Char) : Decidable (IsQuotable c) := inferInstanceAs (Decidable (_ ∧ _))

instance (s : String) : Decidable (IsMissingKind s) :=
  decidable_of_iff (¬(s ≠ "" ∧ s.toList.all Char.isDigit = true) ∧
      s.toList.all (fun c => decide (IsQuotable c)) = true)
    (by simp [IsMissingKind])

/-- A point whose coordinates are below 2^64. -/
def Point.Fits (p : Point) : Prop := p.row < 2 ^ 64 ∧ p.column < 2 ^ 64

/-- A span whose coordinates are below 2^64. -/
def Span.Fits (s : Span) : Prop := s.start.Fits ∧ s.stop.Fits

instance (p : Point) : Decidable p.Fits := inferInstanceAs (Decidable (_ ∧ _))

instance (s : Span) : Decidable s.Fits := inferInstanceAs (Decidable (_ ∧ _))

namespace Outline

mutual

/-- An outline that can be written and read back. -/
def IsWritable : Outline → Prop
  | .node kind span slots => IsKind kind ∧ (∀ s ∈ span, s.Fits) ∧ SlotsWritable slots
  | .error span slots => (∀ s ∈ span, s.Fits) ∧ SlotsWritable slots
  | .missing kind span => (∀ k ∈ kind, IsMissingKind k) ∧ ∀ s ∈ span, s.Fits

/-- Children that can be written and read back. -/
def SlotsWritable : List (Slot Outline) → Prop
  | [] => True
  | ⟨field, t⟩ :: slots => (∀ f ∈ field, IsWord f) ∧ t.IsWritable ∧ SlotsWritable slots

end

mutual

instance decidableIsWritable : (t : Outline) → Decidable t.IsWritable
  | .node _ _ slots =>
    have := decidableSlotsWritable slots
    inferInstanceAs (Decidable (_ ∧ _ ∧ _))
  | .error _ slots =>
    have := decidableSlotsWritable slots
    inferInstanceAs (Decidable (_ ∧ _))
  | .missing _ _ => inferInstanceAs (Decidable (_ ∧ _))

instance decidableSlotsWritable : (slots : List (Slot Outline)) → Decidable (SlotsWritable slots)
  | [] => .isTrue trivial
  | ⟨_, t⟩ :: slots =>
    have := decidableIsWritable t
    have := decidableSlotsWritable slots
    inferInstanceAs (Decidable (_ ∧ _ ∧ _))

end

end Outline

/-! ### Tokens -/

/-- The tokens of a point. -/
def Point.tokens (p : Point) : List Token :=
  [.openBracket, .number p.row, .comma, .number p.column, .closeBracket]

/-- The tokens of a span. -/
def Span.tokens (s : Span) : List Token := s.start.tokens ++ .dash :: s.stop.tokens

namespace Outline

/-- The tokens of a span that may be left out. -/
def spanTokens : Option Span → List Token
  | none => []
  | some s => s.tokens

/-- The tokens of a field label that may be left out. -/
def fieldTokens : Option String → List Token
  | none => []
  | some field => [.word field, .colon]

/-- The token of a missing kind: a word if it looks like one, else a text between quotes. -/
def missingKindToken (kind : String) : Token :=
  if !kind.isEmpty && kind.toList.all Text.isWordChar then .word kind else .literal kind

/-- The tokens of a label. -/
def labelTokens : Outline → List Token
  | .node kind _ _ => [.word kind]
  | .error _ _ => [.word "ERROR"]
  | .missing (some kind) _ => [.word "MISSING", missingKindToken kind]
  | .missing none _ => [.word "MISSING"]

mutual

/-- The tokens of an outline. -/
def tokens : Outline → List Token
  | .node kind span slots =>
    .opening :: (labelTokens (.node kind span []) ++ spanTokens span ++ slotsTokens slots ++ [.closing])
  | .error span slots =>
    .opening :: (labelTokens (.error span []) ++ spanTokens span ++ slotsTokens slots ++ [.closing])
  | .missing kind span =>
    .opening :: (labelTokens (.missing kind span) ++ spanTokens span ++ [.closing])

/-- The tokens of the children of a node. -/
def slotsTokens : List (Slot Outline) → List Token
  | [] => []
  | ⟨field, t⟩ :: slots => fieldTokens field ++ tokens t ++ slotsTokens slots

end

end Outline

namespace Annotation

/-! ### Words, numbers and quoted texts -/

theorem wordToken_of_isWord {s : String} (h : IsWord s) : wordToken s.toList = .ok (.word s) := by
  obtain ⟨-, c, hc, hd⟩ := h
  have : s.toList.all Char.isDigit = false := by
    rw [List.all_eq_false]
    exact ⟨c, hc, by simp [hd]⟩
  rw [wordToken, if_neg (by simp [this]), String.ofList_toList]

theorem toList_ne_nil_of_isWord {s : String} (h : IsWord s) : s.toList ≠ [] := by
  obtain ⟨-, c, hc, -⟩ := h
  exact List.ne_nil_of_mem hc

theorem Reads.ofWord {s : String} (h : IsWord s) {rest : List Char} (hr : EndsWord rest) :
    Reads [.word s] (s.toList ++ rest) rest :=
  Reads.word (toList_ne_nil_of_isWord h) h.1 (wordToken_of_isWord h) hr

theorem isWordChar_of_isDigit {c : Char} (h : c.isDigit = true) : Text.isWordChar c = true := by
  simp [Text.isWordChar, Char.isAlphanum, h]

theorem valueOf_eq (cs : List Char) : valueOf cs = Nat.ofDigitChars 10 cs 0 := by
  simp only [valueOf, Nat.ofDigitChars_eq_foldl, Nat.mul_comm]

theorem isDigit_numeral {n zeros : Nat} {c : Char}
    (h : c ∈ List.replicate zeros '0' ++ Nat.toDigits 10 n) : c.isDigit = true := by
  obtain h | h := List.mem_append.1 h
  · rw [List.eq_of_mem_replicate h]
    rfl
  · exact Nat.isDigit_of_mem_toDigits (by decide) (by decide) h

/-- Zeros in front do not change a number. -/
theorem valueOf_numeral (n zeros : Nat) : valueOf (List.replicate zeros '0' ++ Nat.toDigits 10 n) = n := by
  induction zeros with
  | zero => exact (valueOf_eq _).trans Nat.ofDigitChars_ten_toDigits
  | succ zeros ih => exact ih

theorem wordToken_numeral {n : Nat} (h : n < 2 ^ 64) (zeros : Nat) :
    wordToken (List.replicate zeros '0' ++ Nat.toDigits 10 n) = .ok (.number n) := by
  rw [wordToken, if_pos (List.all_eq_true.2 fun _ => isDigit_numeral), valueOf_numeral, if_pos h]

theorem Reads.number {n : Nat} (h : n < 2 ^ 64) {rest : List Char} (hr : EndsWord rest) :
    Reads [.number n] (Nat.toDigits 10 n ++ rest) rest :=
  Reads.word Nat.toDigits_ne_nil (fun _ hc => isWordChar_of_isDigit
    (Nat.isDigit_of_mem_toDigits (by decide) (by decide) hc)) (wordToken_numeral h 0) hr

/-- A character that can be quoted is written as something that stands for it. -/
theorem spelled_escape {c : Char} (h : IsQuotable c) : Spelled [c] (Text.escape c) := by
  obtain ⟨hzero, hreturn, hcode⟩ := h
  rw [Text.escape] at hzero hreturn hcode ⊢
  split_ifs at * with h₀ ht hr hn hb hq hu
  · exact absurd rfl hzero
  · rw [ht]; exact .escaped (c := 't') .nil
  · exact absurd rfl hreturn
  · rw [hn]; exact .escaped (c := 'n') .nil
  · rw [hb]; exact .escaped (c := '\\') .nil
  · rw [hq]; exact .escaped (c := '"') .nil
  · exact absurd ⟨_, rfl⟩ hcode
  · exact .raw hq hb hn .nil

theorem spelled_escapes {cs : List Char} (h : ∀ c ∈ cs, IsQuotable c) :
    Spelled cs (cs.flatMap Text.escape) := by
  induction cs with
  | nil => exact .nil
  | cons c cs ih =>
    obtain ⟨hc, hcs⟩ := List.forall_mem_cons.1 h
    rw [List.flatMap_cons]
    exact (spelled_escape hc).append (ih hcs)

theorem Reads.quote {s : String} (h : ∀ c ∈ s.toList, IsQuotable c) (rest : List Char) :
    Reads [.literal s] (Text.quote s.toList ++ rest) rest := by
  have := Reads.literal (spelled_escapes h) rest
  rw [String.ofList_toList] at this
  simpa [Text.quote] using this

end Annotation

namespace Outline

/-! ### Parts of a node -/

theorem reads_point {p : Point} (h : p.Fits) (rest : List Char) :
    Reads p.tokens (p.chars ++ rest) rest := by
  have hcomma : EndsWord (',' :: ' ' :: (Nat.toDigits 10 p.column ++ ']' :: rest)) :=
    endsWord_cons (by decide) _
  have := (Reads.mark (c := '[') rfl _).trans ((Reads.number h.1 hcomma).trans
    ((Reads.mark rfl _).trans ((Reads.blank (by decide) _).trans
      ((Reads.number h.2 (endsWord_cons (by decide) _)).trans (Reads.mark (c := ']') rfl rest)))))
  simpa [Point.chars, Point.tokens] using this

theorem reads_span {s : Span} (h : s.Fits) (rest : List Char) :
    Reads s.tokens (s.chars ++ rest) rest := by
  have := (reads_point h.1 _).trans ((Reads.blank (c := ' ') (by decide) _).trans
    ((Reads.mark (c := '-') rfl _).trans ((Reads.blank (c := ' ') (by decide) _).trans
      (reads_point h.2 rest))))
  simpa [Span.chars, Span.tokens] using this

theorem reads_missingKind {kind : String} (h : IsMissingKind kind) {rest : List Char}
    (hr : EndsWord rest) : Reads [missingKindToken kind] (missingKind kind ++ rest) rest := by
  obtain ⟨hdigits, hquotable⟩ := h
  by_cases hw : (!kind.isEmpty && kind.toList.all Text.isWordChar) = true
  · rw [missingKindToken, missingKind, if_pos hw, if_pos hw]
    simp only [Bool.and_eq_true, Bool.not_eq_true', List.all_eq_true, String.isEmpty_eq_false_iff] at hw
    refine Reads.ofWord ⟨hw.2, ?_⟩ hr
    by_contra hd
    refine hdigits ⟨hw.1, fun c hc => ?_⟩
    by_contra hcd
    exact hd ⟨c, hc, by simpa using hcd⟩
  · rw [missingKindToken, missingKind, if_neg hw, if_neg hw]
    exact Reads.quote hquotable rest

theorem isWord_error : IsWord "ERROR" := by decide

theorem isWord_missing : IsWord "MISSING" := by decide

/-- What is asked of the label of a node for it to be written. -/
def LabelWritable : Outline → Prop
  | .node kind _ _ => IsKind kind
  | .error _ _ => True
  | .missing kind _ => ∀ k ∈ kind, IsMissingKind k

theorem labelChars_missing_some (kind : String) (span : Option Span) :
    (missing (some kind) span).labelChars = "MISSING".toList ++ ' ' :: missingKind kind := rfl

theorem reads_label {t : Outline} (h : t.LabelWritable) {rest : List Char} (hr : EndsWord rest) :
    Reads t.labelTokens (t.labelChars ++ rest) rest := by
  cases t with
  | node kind span slots => exact Reads.ofWord h.1 hr
  | error span slots =>
    have : (error span slots).labelChars = "ERROR".toList := rfl
    rw [this]
    exact Reads.ofWord isWord_error hr
  | missing kind span =>
    cases kind with
    | none =>
      have : (missing none span).labelChars = "MISSING".toList := rfl
      rw [this]
      exact Reads.ofWord isWord_missing hr
    | some kind =>
      rw [labelChars_missing_some, List.append_assoc, List.cons_append]
      have hblank : EndsWord (' ' :: (missingKind kind ++ rest)) := endsWord_cons (by decide) _
      exact (Reads.ofWord isWord_missing hblank).trans
        ((Reads.blank (by decide) _).trans (reads_missingKind (h kind rfl) hr))

theorem reads_writeHead {t : Outline} (h : t.LabelWritable) (hs : ∀ s ∈ t.span, s.Fits)
    {rest : List Char} (hr : EndsWord rest) :
    Reads (.opening :: (t.labelTokens ++ spanTokens t.span)) (writeHead t rest) rest := by
  rw [writeHead]
  cases hspan : t.span with
  | none =>
    rw [spanTokens, List.append_nil]
    exact (Reads.mark rfl _).trans (reads_label h hr)
  | some s =>
    rw [hspan] at hs
    have := (reads_label h (endsWord_cons (by decide) _)).trans
      ((Reads.blank (c := ' ') (by decide) _).trans (reads_span (hs s rfl) rest))
    exact (Reads.mark rfl _).trans this

theorem reads_separator (level : Option Nat) (rest : List Char) :
    Reads [] (separator level ++ rest) rest := by
  refine Reads.blanks (fun c hc => ?_) rest
  cases level with
  | none => rw [List.mem_singleton.1 hc]; decide
  | some level =>
    rcases List.mem_cons.1 hc with rfl | hc
    · decide
    · rw [List.eq_of_mem_replicate hc]; decide

theorem reads_writeField {field : Option String} (h : ∀ f ∈ field, IsWord f) (rest : List Char) :
    Reads (fieldTokens field) (writeField field rest) rest := by
  cases field with
  | none => exact .refl rest
  | some field =>
    exact (Reads.ofWord (h field rfl) (endsWord_cons (by decide) _)).trans
      ((Reads.mark rfl _).trans (Reads.blank (by decide) rest))

theorem endsWord_writeSlots (level : Option Nat) (slots : List (Slot Outline)) {rest : List Char}
    (h : EndsWord rest) : EndsWord (writeSlots level slots rest) := by
  cases slots with
  | nil => exact h
  | cons slot slots =>
    cases level with
    | none => exact endsWord_cons (by decide) _
    | some level => exact endsWord_cons (by decide) _

/-! ### Whole outlines -/

mutual

/-- Lexing an outline that is printed in either layout gives its tokens. -/
theorem reads_write (level : Option Nat) :
    ∀ t : Outline, t.IsWritable → ∀ rest, Reads t.tokens (t.write level rest) rest
  | .node kind span slots, h, rest => by
    obtain ⟨hkind, hspan, hslots⟩ := h
    have hend : EndsWord (writeSlots level slots (')' :: rest)) :=
      endsWord_writeSlots level slots (endsWord_cons (by decide) _)
    have := (reads_writeHead (t := .node kind span []) hkind hspan hend).trans
      ((reads_writeSlots level slots hslots _).trans (Reads.mark rfl rest))
    simpa [tokens, write, Outline.span] using this
  | .error span slots, h, rest => by
    obtain ⟨hspan, hslots⟩ := h
    have hend : EndsWord (writeSlots level slots (')' :: rest)) :=
      endsWord_writeSlots level slots (endsWord_cons (by decide) _)
    have := (reads_writeHead (t := .error span []) trivial hspan hend).trans
      ((reads_writeSlots level slots hslots _).trans (Reads.mark rfl rest))
    simpa [tokens, write, Outline.span] using this
  | .missing kind span, h, rest => by
    obtain ⟨hkind, hspan⟩ := h
    have := (reads_writeHead (t := .missing kind span) hkind hspan (endsWord_cons (by decide) _)).trans
      (Reads.mark (c := ')') rfl rest)
    simpa [tokens, write, Outline.span] using this

theorem reads_writeSlots (level : Option Nat) :
    ∀ slots : List (Slot Outline), SlotsWritable slots → ∀ rest,
      Reads (slotsTokens slots) (writeSlots level slots rest) rest
  | [], _, rest => .refl rest
  | ⟨field, t⟩ :: slots, h, rest => by
    obtain ⟨hfield, ht, hslots⟩ := h
    have := (reads_separator level _).trans ((reads_writeField hfield _).trans
      ((reads_write (level.map (· + 1)) t ht _).trans (reads_writeSlots level slots hslots rest)))
    simpa [slotsTokens, writeSlots] using this

end

end Outline

end ParserConformance
