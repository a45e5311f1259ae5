import Mathlib.Data.List.Basic
import ParserConformance.Json.Reader
import ParserConformance.Json.Value
import ParserConformance.Proofs.Text.Quoted

/-!
# Reading JSON that was written without blanks

What a reader gives on the text of a value, whatever the value stands in. A text, a truth value or a
number is read as what it was written for. For an array or an object the same is known as soon as it
is known of each item and member, refusals included: `ItemsGive` and `MembersGive` follow the reading
from one to the next, and the texts of an array and of an object are read as they say.

## Main statements

* `readString_text`, `readBool_bool`, `readNatural_number`: reading plain values back.
* `MembersGive.exists_write_eq`, `ItemsGive.exists_write_eq`: reading objects and arrays back.
-/

namespace ParserConformance.Json

open Text (Piece)

/-- Characters as an input. -/
def asInput (cs : List Char) : Input := cs.map .char

@[simp] theorem asInput_nil : asInput [] = [] := rfl

@[simp] theorem asInput_cons (c : Char) (cs : List Char) : asInput (c :: cs) = .char c :: asInput cs :=
  rfl

theorem ok_bind {α β : Type} (a : α) (f : α → Except Refusal β) : (Except.ok a >>= f) = f a := rfl

/-! ### Texts -/

section

variable {mode next : TextMode} {c : Char} {c? : Option Char}

/-- One character inside a text does what `textStep` says. -/
theorem readTextFrom_step (hclose : closesText mode (.char c) = false)
    (hstep : textStep true mode (.char c) = .ok (next, c?)) (reversed cs : List Char) :
    readTextFrom true mode true reversed (asInput (c :: cs)) =
      readTextFrom true next true (c?.toList ++ reversed) (asInput cs) := by
  rw [asInput_cons, readTextFrom, hclose, hstep]
  rfl

theorem readTextFrom_plain (hquote : c ≠ '"') (hslash : c ≠ '\\') (hcontrol : ¬c.toNat < 0x20)
    (reversed cs : List Char) :
    readTextFrom true .plain true reversed (asInput (c :: cs)) =
      readTextFrom true .plain true (c :: reversed) (asInput cs) := by
  have hclose : closesText .plain (.char c) = false := by simpa [closesText] using hquote
  have hstep : textStep true .plain (.char c) = .ok (.plain, some c) := by
    simp [textStep, hslash, hcontrol]
  exact readTextFrom_step hclose hstep reversed cs

theorem readTextFrom_letter {l : Char} (h : unescape? l = some c) (reversed cs : List Char) :
    readTextFrom true .plain true reversed (asInput ('\\' :: l :: cs)) =
      readTextFrom true .plain true (c :: reversed) (asInput cs) := by
  have hu : l ≠ 'u' := by
    rintro rfl
    cases h
  have hstep : textStep true .escape (.char l) = .ok (.plain, some c) := by simp [textStep, hu, h]
  rw [readTextFrom_step rfl rfl, readTextFrom_step rfl hstep]
  rfl

/-- A digit of a code unit that is not the last one. -/
theorem readTextFrom_digit {bytes value n : Nat} {high : Option Nat} (h : hexValue? c = some n)
    (hsize : (Piece.char c).size = 1) (hbytes : bytes + 1 < 4) (reversed cs : List Char) :
    readTextFrom true (.unit bytes value false high) true reversed (asInput (c :: cs)) =
      readTextFrom true (.unit (bytes + 1) (value * 16 + n) false high) true reversed (asInput cs) := by
  have hstep : textStep true (.unit bytes value false high) (.char c) =
      .ok (.unit (bytes + 1) (value * 16 + n) false high, none) := by
    simp [textStep, h, hsize, hbytes]
  rw [readTextFrom_step rfl hstep]
  rfl

end

theorem hexValue?_digitChar : ∀ n < 16, hexValue? n.digitChar = some n := by decide

theorem size_digitChar : ∀ n < 16, (Piece.char n.digitChar).size = 1 := by decide

/-- A code unit of two digits is its character. -/
theorem readTextFrom_unit {k l : Nat} (hk : k < 16) (hl : l < 16) (reversed cs : List Char) :
    readTextFrom true .plain true reversed
        (asInput ('\\' :: 'u' :: '0' :: '0' :: k.digitChar :: l.digitChar :: cs)) =
      readTextFrom true .plain true (Char.ofNat (k * 16 + l) :: reversed) (asInput cs) := by
  have hafter : afterUnit true (k * 16 + l) none = .ok (.plain, some (Char.ofNat (k * 16 + l))) := by
    have hlow : isLow (k * 16 + l) = false := by
      simp only [isLow, Bool.and_eq_false_iff, decide_eq_false_iff_not]
      omega
    have hhigh : isHigh (k * 16 + l) = false := by
      simp only [isHigh, Bool.and_eq_false_iff, decide_eq_false_iff_not]
      omega
    simp [afterUnit, hlow, hhigh]
  have hlast : textStep true (.unit 3 k false none) (.char l.digitChar) =
      .ok (.plain, some (Char.ofNat (k * 16 + l))) := by
    simp [textStep, hexValue?_digitChar l hl, size_digitChar l hl, hafter]
  have hzero : hexValue? '0' = some 0 := rfl
  rw [readTextFrom_step rfl rfl, readTextFrom_step rfl rfl, readTextFrom_digit hzero rfl (by decide),
    readTextFrom_digit hzero rfl (by decide),
    readTextFrom_digit (hexValue?_digitChar k hk) (size_digitChar k hk) (by decide),
    Nat.zero_mul, Nat.zero_add, Nat.zero_add, readTextFrom_step rfl hlast]
  rfl

/-- A character that was escaped is read back. -/
theorem readTextFrom_escape (c : Char) (reversed cs : List Char) :
    readTextFrom true .plain true reversed (asInput (escape c ++ cs)) =
      readTextFrom true .plain true (c :: reversed) (asInput cs) := by
  rw [escape]
  split_ifs with hquote hslash hback hpage hline hreturn htab hlow hcontrol
  · subst hquote
    exact readTextFrom_letter rfl reversed cs
  · subst hslash
    exact readTextFrom_letter rfl reversed cs
  · subst hback
    exact readTextFrom_letter rfl reversed cs
  · subst hpage
    exact readTextFrom_letter rfl reversed cs
  · subst hline
    exact readTextFrom_letter rfl reversed cs
  · subst hreturn
    exact readTextFrom_letter rfl reversed cs
  · subst htab
    exact readTextFrom_letter rfl reversed cs
  · have hu := readTextFrom_unit (k := 0) (by decide) hlow reversed cs
    rw [Nat.zero_mul, Nat.zero_add, Char.ofNat_toNat] at hu
    rw [Text.hexDigits_eq, if_pos hlow]
    exact hu
  · have hu := readTextFrom_unit (k := 1) (l := c.toNat % 16) (by decide) (by omega) reversed cs
    have hdiv : c.toNat / 16 = 1 := by omega
    have hval : 1 * 16 + c.toNat % 16 = c.toNat := by omega
    rw [hval, Char.ofNat_toNat] at hu
    rw [Text.hexDigits_eq, if_neg hlow, Text.hexDigits_eq, hdiv, if_pos (by decide)]
    exact hu
  · exact readTextFrom_plain hquote hslash hcontrol reversed cs

theorem readTextFrom_writeEscaped (s reversed rest : List Char) :
    readTextFrom true .plain true reversed (asInput (writeEscaped s ('"' :: rest))) =
      .ok (String.ofList (reversed.reverse ++ s), asInput rest) := by
  induction s generalizing reversed with
  | nil =>
    rw [writeEscaped, asInput_cons, readTextFrom]
    simp [closesText]
  | cons c s ih =>
    rw [writeEscaped, readTextFrom_escape, ih, List.reverse_cons, List.append_assoc,
      List.singleton_append]

/-! ### Numbers -/

/-- What can follow on a value in a text without blanks: the end, or a mark that goes on with or
closes what holds the value. -/
def Stops (rest : List Char) : Prop := ∀ c ∈ rest.head?, c = ',' ∨ c = ']' ∨ c = '\x7d'

/-- The digits of a number in decimal. -/
def decimal (n : Nat) : List Nat := (Nat.toDigits 10 n).map fun c => c.toNat - '0'.toNat

theorem ofDigits_decimal (n : Nat) : ofDigits (decimal n) = n := by
  have h := Nat.ofDigitChars_ten_toDigits (n := n)
  rw [Nat.ofDigitChars_eq_foldl] at h
  rw [ofDigits, decimal, List.foldl_map]
  simpa only [Nat.mul_comm] using h

/-- Only zero itself is written with a leading zero. -/
theorem head?_decimal_ne {n : Nat} (h : 0 < n) : (decimal n).head? ≠ some 0 := by
  induction n using Nat.strongRecOn with
  | ind n ih =>
    rw [decimal, Nat.toDigits_eq_if (by decide)]
    split
    next hn =>
      have hdigit : ∀ m < 10, 0 < m → ¬m.digitChar.toNat - '0'.toNat = 0 := by decide
      simpa using hdigit n hn h
    next hn =>
      have := ih (n / 10) (Nat.div_lt_self h (by decide)) (by omega)
      rw [decimal] at this
      rw [List.map_append, List.head?_append_of_ne_nil _ (by simp [Nat.toDigits_ne_nil])]
      exact this

theorem takeDigits_asInput {ds rest : List Char} (hd : ∀ c ∈ ds, c.isDigit = true)
    (hr : ∀ c ∈ rest.head?, c.isDigit = false) :
    takeDigits (asInput (ds ++ rest)) = (ds.map fun c => c.toNat - '0'.toNat, asInput rest) := by
  induction ds with
  | nil =>
    cases rest with
    | nil => rfl
    | cons c rest =>
      have := hr c rfl
      rw [List.nil_append, asInput_cons, takeDigits, this]
      rfl
  | cons c ds ih =>
    obtain ⟨hc, hds⟩ := List.forall_mem_cons.1 hd
    rw [List.cons_append, asInput_cons, takeDigits, if_pos hc, ih hds]
    rfl

theorem Stops.isDigit {rest : List Char} (h : Stops rest) : ∀ c ∈ rest.head?, c.isDigit = false := by
  intro c hc
  rcases h c hc with rfl | rfl | rfl <;> rfl

theorem readDigits_decimal (n : Nat) {rest : List Char} (hr : Stops rest) :
    readDigits (asInput (Nat.toDigits 10 n ++ rest)) = .ok (decimal n, asInput rest) := by
  have htake : takeDigits (asInput (Nat.toDigits 10 n ++ rest)) = (decimal n, asInput rest) :=
    takeDigits_asInput (fun c hc => Nat.isDigit_of_mem_toDigits (by decide) (by decide) hc) hr.isDigit
  rw [readDigits, htake]
  cases h : decimal n with
  | nil => simp [decimal, Nat.toDigits_ne_nil] at h
  | cons d ds => rfl

theorem readWhole_decimal (n : Nat) {rest : List Char} (hr : Stops rest) :
    readWhole (asInput (Nat.toDigits 10 n ++ rest)) = .ok (decimal n, asInput rest) := by
  simp only [readWhole, readDigits_decimal n hr, ok_bind]
  split
  next h =>
    have hdecimal := (Prod.mk.inj h).1
    have hn : n = 0 := by
      by_contra hne
      exact head?_decimal_ne (Nat.pos_of_ne_zero hne) (by rw [hdecimal]; rfl)
    rw [hn] at hdecimal
    cases hdecimal
  next => rfl

theorem readFraction_of_stops {rest : List Char} (hr : Stops rest) :
    readFraction (asInput rest) = .ok (none, asInput rest) := by
  cases rest with
  | nil => rfl
  | cons c rest => rcases hr c rfl with rfl | rfl | rfl <;> rfl

theorem readExponent_of_stops {rest : List Char} (hr : Stops rest) :
    readExponent (asInput rest) = .ok (none, asInput rest) := by
  cases rest with
  | nil => rfl
  | cons c rest => rcases hr c rfl with rfl | rfl | rfl <;> rfl

theorem readUnsigned_decimal (n : Nat) {rest : List Char} (hr : Stops rest) :
    readUnsigned false (asInput (Nat.toDigits 10 n ++ rest)) =
      .ok (⟨false, decimal n, none, none⟩, asInput rest) := by
  simp only [readUnsigned, readWhole_decimal n hr, readFraction_of_stops hr, readExponent_of_stops hr,
    ok_bind]
  rfl

/-! #### Size -/

theorem le_foldl_digits (ds : List Nat) (n : Nat) : n ≤ ds.foldl (fun n d => n * 10 + d) n := by
  induction ds generalizing n with
  | nil => exact Nat.le_refl n
  | cons d ds ih => exact Nat.le_trans (by omega) (ih (n * 10 + d))

/-- Digits of a number that has room are all taken. -/
theorem appendDigits_eq {ds : List Nat} {n : Nat} (h : ds.foldl (fun n d => n * 10 + d) n < 2 ^ 64) :
    appendDigits n ds = (ds.foldl (fun n d => n * 10 + d) n, ds.length, 0) := by
  induction ds generalizing n with
  | nil => rfl
  | cons d ds ih =>
    rw [List.foldl_cons] at h ⊢
    rw [appendDigits, if_pos (Nat.lt_of_le_of_lt (le_foldl_digits ds _) h), ih h]
    rfl

/-- Rounding adds at most the unit of the last place. -/
theorem roundTo53_le (n : Nat) : roundTo53 n ≤ 2 * n + 1 := by
  have hunit : 2 ^ (n.log2 + 1 - 53) ≤ n + 1 := by
    by_cases hn : n = 0
    · subst hn
      decide
    · have hle : 2 ^ (n.log2 + 1 - 53) ≤ 2 ^ n.log2 := Nat.pow_le_pow_right (by decide) (by omega)
      have := Nat.log2_self_le hn
      omega
  have hq : n / 2 ^ (n.log2 + 1 - 53) * 2 ^ (n.log2 + 1 - 53) ≤ n := Nat.div_mul_le_self n _
  simp only [roundTo53]
  split
  · rw [Nat.succ_mul]
    omega
  · omega

theorem isTooLarge_decimal {n : Nat} (h : n < 2 ^ 64) :
    (Numeral.mk false (decimal n) none none).isTooLarge = false := by
  have hfold : (decimal n).foldl (fun n d => n * 10 + d) 0 = n := ofDigits_decimal n
  have happend : appendDigits 0 (decimal n) = (n, (decimal n).length, 0) := by
    rw [appendDigits_eq (by rw [hfold]; exact h), hfold]
  have hbound : roundTo53 n < 2 ^ 1024 - 2 ^ 970 :=
    Nat.lt_of_le_of_lt (Nat.le_trans (roundTo53_le n) (show 2 * n + 1 ≤ 2 * 2 ^ 64 + 1 by omega))
      (by decide +kernel)
  have hone : roundTo53 (10 ^ 0) = 1 := by decide
  simp only [Numeral.isTooLarge, happend, Option.getD_none, appendDigits]
  refine Bool.and_eq_false_iff.2 (.inr (Bool.or_eq_false_iff.2 ⟨by decide, decide_eq_false ?_⟩))
  show ¬2 ^ 1024 - 2 ^ 970 ≤ roundTo53 n * roundTo53 (10 ^ 0)
  rw [hone, Nat.mul_one]
  exact Nat.not_le.2 hbound

theorem readNumeral_decimal {n : Nat} (h : n < 2 ^ 64) {rest : List Char} (hr : Stops rest) :
    readNumeral false (asInput (Nat.toDigits 10 n ++ rest)) =
      .ok (⟨false, decimal n, none, none⟩, asInput rest) := by
  simp only [readNumeral, readUnsigned_decimal n hr, ok_bind, isTooLarge_decimal h, Bool.false_eq_true,
    if_false]

theorem natural?_decimal {n : Nat} (h : n < 2 ^ 64) :
    (Numeral.mk false (decimal n) none none).natural? = some n := by
  simp only [Numeral.natural?, ofDigits_decimal, h, Option.isSome_none, Bool.or_false,
    Bool.false_eq_true, if_false, if_true]

/-! ### Values -/

/-- Reading the text of a value without blanks gives `r`, whatever the value stands in. -/
def ReadsAs {α : Type} (read : Reader α) (v : Value) (r : Except Refusal α) : Prop :=
  ∀ rest, Stops rest → read (asInput (v.write none rest)) = r.map (·, asInput rest)

/-- A character that is neither a blank nor the end of an array. -/
def IsFirst (c : Char) : Prop := (c = ' ' || c = '\n' || c = '\t' || c = '\r') = false ∧ c ≠ ']'

instance (c : Char) : Decidable (IsFirst c) := inferInstanceAs (Decidable (_ ∧ _))

theorem skipSpace_cons {c : Char} (h : IsFirst c) (rest : Input) :
    skipSpace (.char c :: rest) = .char c :: rest := by
  rw [skipSpace, if_neg (by simp only [h.1, Bool.false_eq_true, not_false_iff])]

theorem isFirst_of_isDigit {c : Char} (h : c.isDigit = true) : IsFirst c := by
  have hne : ∀ d : Char, d.isDigit = false → c ≠ d := by
    rintro d hd rfl
    rw [h] at hd
    cases hd
  have := And.intro (hne ' ' rfl) (And.intro (hne '\n' rfl) (And.intro (hne '\t' rfl) (hne '\r' rfl)))
  refine ⟨?_, hne ']' rfl⟩
  simp [this]

/-- A value begins with a character of its own. -/
theorem exists_write_eq_cons (v : Value) (rest : List Char) :
    ∃ c cs, IsFirst c ∧ v.write none rest = c :: cs := by
  cases v with
  | null => exact ⟨'n', _, by decide, rfl⟩
  | bool b => cases b <;> exact ⟨_, _, by decide, rfl⟩
  | number n =>
    cases h : Nat.toDigits 10 n with
    | nil => exact absurd h Nat.toDigits_ne_nil
    | cons c cs =>
      refine ⟨c, cs ++ rest, isFirst_of_isDigit ?_, by rw [Value.write, h, List.cons_append]⟩
      exact Nat.isDigit_of_mem_toDigits (n := n) (by decide) (by decide) (h ▸ List.mem_cons_self)
  | text s => exact ⟨'"', _, by decide, rfl⟩
  | array items => cases items <;> exact ⟨'[', _, by decide, rfl⟩
  | object members => rcases members with - | ⟨⟨name, v⟩, ms⟩ <;> exact ⟨'\x7b', _, by decide, rfl⟩

theorem readString_text (s : String) : ReadsAs readString (.text s) (.ok s) := by
  intro rest _
  have h := readTextFrom_writeEscaped s.toList [] rest
  rw [List.reverse_nil, List.nil_append, String.ofList_toList] at h
  rw [Value.write, writeText, readString, asInput_cons, skipSpace_cons (by decide)]
  exact h

theorem readOptionalString_ofOption (s : Option String) :
    ReadsAs readOptionalString (.ofOption .text s) (.ok s) := by
  intro rest hrest
  cases s with
  | none => rfl
  | some s =>
    have h : readString (.char '"' :: asInput (writeEscaped s.toList ('"' :: rest))) =
        .ok (s, asInput rest) := readString_text s rest hrest
    rw [Value.ofOption, Value.write, writeText, readOptionalString, asInput_cons,
      skipSpace_cons (by decide)]
    show (readString _ >>= fun reading => pure (some reading.1, reading.2)) = _
    rw [h]
    rfl

theorem readBool_bool (b : Bool) : ReadsAs readBool (.bool b) (.ok b) := by
  intro rest _
  cases b <;> rfl

theorem readNatural_number {n : Nat} (h : n < 2 ^ 64) : ReadsAs readNatural (.number n) (.ok n) := by
  intro rest hrest
  have hread := readNumeral_decimal h hrest
  cases hdigits : Nat.toDigits 10 n with
  | nil => exact absurd hdigits Nat.toDigits_ne_nil
  | cons c cs =>
    have hc : c.isDigit = true :=
      Nat.isDigit_of_mem_toDigits (n := n) (by decide) (by decide) (hdigits ▸ List.mem_cons_self)
    rw [hdigits, List.cons_append, asInput_cons] at hread
    rw [Value.write, hdigits, List.cons_append, readNatural, asInput_cons,
      skipSpace_cons (isFirst_of_isDigit hc)]
    simp only [hc, if_true, hread, ok_bind, natural?_decimal h]
    rfl

/-! ### Texts without blanks -/

theorem write_array_cons (v : Value) (vs : List Value) (rest : List Char) :
    (Value.array (v :: vs)).write none rest =
      '[' :: v.write none (Value.writeItems none vs (']' :: rest)) := by
  rfl

theorem write_object_cons (name : String) (v : Value) (ms : List (String × Value)) (rest : List Char) :
    (Value.object ((name, v) :: ms)).write none rest = '\x7b' :: writeText name
      (':' :: v.write none (Value.writeMembers none ms ('\x7d' :: rest))) := by
  rfl

theorem exists_write_object (ms : List (String × Value)) (rest : List Char) :
    ∃ body, (Value.object ms).write none rest = '\x7b' :: body := by
  cases ms with
  | nil => exact ⟨_, rfl⟩
  | cons m ms => exact ⟨_, write_object_cons m.1 m.2 ms rest⟩

theorem writeItems_cons (v : Value) (vs : List Value) (rest : List Char) :
    Value.writeItems none (v :: vs) rest = ',' :: v.write none (Value.writeItems none vs rest) := by
  rfl

theorem writeMembers_cons (name : String) (v : Value) (ms : List (String × Value)) (rest : List Char) :
    Value.writeMembers none ((name, v) :: ms) rest = ',' :: writeText name
      (':' :: v.write none (Value.writeMembers none ms rest)) := by
  rfl

theorem length_writeEscaped (s rest : List Char) : rest.length ≤ (writeEscaped s rest).length := by
  induction s with
  | nil => exact Nat.le_refl _
  | cons c s ih =>
    rw [writeEscaped, List.length_append]
    omega

theorem length_writeText (s : String) (rest : List Char) : rest.length ≤ (writeText s rest).length := by
  have := length_writeEscaped s.toList ('"' :: rest)
  simp only [writeText, List.length_cons] at this ⊢
  omega

mutual

theorem length_write : ∀ (v : Value) (rest : List Char), rest.length ≤ (v.write none rest).length
  | .null, rest | .bool _, rest | .number _, rest => by
    rw [Value.write, List.length_append]
    omega
  | .text s, rest => length_writeText s rest
  | .array [], rest | .object [], rest => Nat.le_add_right _ 2
  | .array (v :: vs), rest => by
    have h₁ := length_write v (Value.writeItems none vs (']' :: rest))
    have h₂ := length_writeItems vs (']' :: rest)
    rw [write_array_cons]
    simp only [List.length_cons] at h₂ ⊢
    omega
  | .object ((name, v) :: ms), rest => by
    have h₁ := length_write v (Value.writeMembers none ms ('\x7d' :: rest))
    have h₂ := length_writeMembers ms ('\x7d' :: rest)
    have h₃ := length_writeText name (':' :: v.write none (Value.writeMembers none ms ('\x7d' :: rest)))
    rw [write_object_cons]
    simp only [List.length_cons] at h₂ h₃ ⊢
    omega

theorem length_writeItems : ∀ (vs : List Value) (rest : List Char),
    vs.length + rest.length ≤ (Value.writeItems none vs rest).length
  | [], rest => Nat.le_of_eq (Nat.zero_add _)
  | v :: vs, rest => by
    have h₁ := length_write v (Value.writeItems none vs rest)
    have h₂ := length_writeItems vs rest
    rw [writeItems_cons]
    simp only [List.length_cons]
    omega

theorem length_writeMembers : ∀ (ms : List (String × Value)) (rest : List Char),
    ms.length + rest.length ≤ (Value.writeMembers none ms rest).length
  | [], rest => Nat.le_of_eq (Nat.zero_add _)
  | (name, v) :: ms, rest => by
    have h₁ := length_write v (Value.writeMembers none ms rest)
    have h₂ := length_writeMembers ms rest
    have h₃ := length_writeText name (':' :: v.write none (Value.writeMembers none ms rest))
    rw [writeMembers_cons]
    simp only [List.length_cons] at h₃ ⊢
    omega

end

theorem stops_closing {c : Char} (h : c = ',' ∨ c = ']' ∨ c = '\x7d') (rest : List Char) :
    Stops (c :: rest) := by
  intro d hd
  obtain rfl := Option.some.inj hd
  exact h

theorem stops_writeItems (vs : List Value) (rest : List Char) :
    Stops (Value.writeItems none vs (']' :: rest)) := by
  cases vs with
  | nil => exact stops_closing (by simp) rest
  | cons v vs => exact stops_closing (by simp) _

theorem stops_writeMembers (ms : List (String × Value)) (rest : List Char) :
    Stops (Value.writeMembers none ms ('\x7d' :: rest)) := by
  cases ms with
  | nil => exact stops_closing (by simp) rest
  | cons m ms => exact stops_closing (by simp) _

namespace Value

mutual

/-- How many arrays and objects are open at once in the text of a value. -/
def nesting : Value → Nat
  | .null | .bool _ | .number _ | .text _ => 0
  | .array items => nestingItems items + 1
  | .object members => nestingMembers members + 1

/-- How many are open at once in one of the items. -/
def nestingItems : List Value → Nat
  | [] => 0
  | v :: vs => max v.nesting (nestingItems vs)

/-- How many are open at once in one of the members. -/
def nestingMembers : List (String × Value) → Nat
  | [] => 0
  | (_, v) :: ms => max v.nesting (nestingMembers ms)

end

end Value

/-! ### Members and items -/

section

variable {σ : Type} {read : σ → String → Reader σ}

/-- Reading members one after the other from the state `s` comes to `r`: a state after the last one,
or the refusal of the first one that is refused. -/
inductive MembersGive (read : σ → String → Reader σ) :
    σ → List (String × Value) → Except Refusal σ → Prop where
  /-- Nothing is left to be read. -/
  | nil (s : σ) : MembersGive read s [] (.ok s)
  /-- A member is read, then the others. -/
  | read {s : σ} (s' : σ) {name : String} {v : Value} {ms : List (String × Value)} {r : Except Refusal σ}
    (h : ∀ rest, Stops rest →
      read s name (asInput (':' :: v.write none rest)) = .ok (s', asInput rest))
    (hms : MembersGive read s' ms r) : MembersGive read s ((name, v) :: ms) r
  /-- A member is refused. -/
  | refuse {s : σ} {name : String} {v : Value} {ms : List (String × Value)} {refusal : Refusal}
    (h : ∀ rest, Stops rest → read s name (asInput (':' :: v.write none rest)) = .error refusal) :
    MembersGive read s ((name, v) :: ms) (.error refusal)

theorem MembersGive.append {s s' : σ} {ms ns : List (String × Value)} {r : Except Refusal σ}
    (hms : MembersGive read s ms (.ok s')) (hns : MembersGive read s' ns r) :
    MembersGive read s (ms ++ ns) r := by
  generalize hr : (Except.ok s' : Except Refusal σ) = r' at hms
  induction hms with
  | nil s =>
    obtain rfl := Except.ok.inj hr
    exact hns
  | read s' h _ ih => exact .read s' h (ih hr)
  | refuse => cases hr

/-- One member is read by its name and from its colon on. -/
theorem readMembers_item {first : Bool} {room : Nat} {s : σ} {input : Input} {name : String}
    {cs : List Char} (hnext : nextMember first input =
      .ok (.item (asInput (writeEscaped name.toList ('"' :: cs))))) :
    readMembers read (room + 1) first s input =
      (read s name (asInput cs) >>= fun reading => readMembers read room false reading.1 reading.2) := by
  have hname := readTextFrom_writeEscaped name.toList [] cs
  rw [List.reverse_nil, List.nil_append, String.ofList_toList] at hname
  simp only [readMembers, hnext, ok_bind, readText, hname]

theorem MembersGive.readMembers {s : σ} {ms : List (String × Value)} {r : Except Refusal σ}
    (h : MembersGive read s ms r) {room : Nat} (hroom : ms.length < room) (rest : List Char) :
    readMembers read room false s (asInput (Value.writeMembers none ms ('\x7d' :: rest))) =
      r.map (·, asInput rest) := by
  induction h generalizing room with
  | nil s =>
    cases room with
    | zero => exact absurd hroom (Nat.not_lt_zero _)
    | succ room => rfl
  | read s' h _ ih =>
    cases room with
    | zero => exact absurd hroom (Nat.not_lt_zero _)
    | succ room =>
      rw [writeMembers_cons, readMembers_item rfl, h _ (stops_writeMembers _ rest), ok_bind]
      exact ih (Nat.lt_of_succ_lt_succ hroom)
  | refuse h =>
    cases room with
    | zero => exact absurd hroom (Nat.not_lt_zero _)
    | succ room =>
      rw [writeMembers_cons, readMembers_item rfl, h _ (stops_writeMembers _ rest)]
      rfl

/-- The text of an object is its opening bracket and a text from which its members are read. -/
theorem MembersGive.exists_write_eq {s : σ} {ms : List (String × Value)} {r : Except Refusal σ}
    (h : MembersGive read s ms r) (rest : List Char) :
    ∃ body, (Value.object ms).write none rest = '\x7b' :: body ∧
      Json.readMembers read ((asInput body).length + 1) true s (asInput body) =
        r.map (·, asInput rest) := by
  cases h with
  | nil => exact ⟨'\x7d' :: rest, rfl, rfl⟩
  | @read _ _ name v ms _ h hms =>
    refine ⟨_, write_object_cons name v ms rest, ?_⟩
    have hv := length_write v (Value.writeMembers none ms ('\x7d' :: rest))
    have hlength := length_writeMembers ms ('\x7d' :: rest)
    have hname := length_writeText name (':' :: v.write none (Value.writeMembers none ms ('\x7d' :: rest)))
    rw [readMembers_item rfl, h _ (stops_writeMembers ms rest), ok_bind]
    refine hms.readMembers ?_ rest
    rw [asInput, List.length_map]
    simp only [List.length_cons] at hlength hname
    omega
  | @refuse _ name v ms _ h =>
    refine ⟨_, write_object_cons name v ms rest, ?_⟩
    rw [readMembers_item rfl, h _ (stops_writeMembers ms rest)]
    rfl

end

section

variable {α : Type} {read : Reader α}

/-- Reading items one after the other comes to `r`: what was read, or the refusal of the first item
that is refused. -/
inductive ItemsGive (read : Reader α) : List Value → Except Refusal (List α) → Prop where
  /-- Nothing is left to be read. -/
  | nil : ItemsGive read [] (.ok [])
  /-- An item is read, then the others. -/
  | read {v : Value} {a : α} {vs : List Value} {r : Except Refusal (List α)}
    (h : ReadsAs read v (.ok a)) (hvs : ItemsGive read vs r) :
    ItemsGive read (v :: vs) (r.map (a :: ·))
  /-- An item is refused. -/
  | refuse {v : Value} {vs : List Value} {refusal : Refusal} (h : ReadsAs read v (.error refusal)) :
    ItemsGive read (v :: vs) (.error refusal)

/-- One item is read where the array goes on with it. -/
theorem readElements_item {first : Bool} {room : Nat} {input next : Input}
    (hnext : nextElement first input = .ok (.item next)) :
    readElements read (room + 1) first input = (read next >>= fun reading =>
      readElements read room false reading.2 >>= fun others =>
        .ok (reading.1 :: others.1, others.2)) := by
  simp only [readElements, hnext, ok_bind]
  rfl

theorem nextElement_first (v : Value) (rest : List Char) :
    nextElement true (asInput (v.write none rest)) = .ok (.item (asInput (v.write none rest))) := by
  obtain ⟨c, cs, hc, hwrite⟩ := exists_write_eq_cons v rest
  have hclose : ¬Piece.char c = .char ']' := fun h => hc.2 (Piece.char.inj h)
  rw [hwrite, nextElement, asInput_cons, skipSpace_cons hc]
  simp only [if_neg hclose, if_true]

theorem nextElement_comma (v : Value) (rest : List Char) :
    nextElement false (asInput (',' :: v.write none rest)) = .ok (.item (asInput (v.write none rest))) := by
  obtain ⟨c, cs, hc, hwrite⟩ := exists_write_eq_cons v rest
  have hclose : ¬Piece.char c = .char ']' := fun h => hc.2 (Piece.char.inj h)
  have hcomma : ¬Piece.char ',' = .char ']' := by decide
  rw [hwrite, nextElement, asInput_cons, asInput_cons, skipSpace_cons (by decide)]
  simp only [if_neg hcomma, Bool.false_eq_true, if_false, if_true, skipSpace_cons hc, if_neg hclose]

theorem ItemsGive.readElements {vs : List Value} {r : Except Refusal (List α)}
    (h : ItemsGive read vs r) {room : Nat} (hroom : vs.length < room) (rest : List Char) :
    readElements read room false (asInput (Value.writeItems none vs (']' :: rest))) =
      r.map (·, asInput rest) := by
  induction h generalizing room with
  | nil =>
    cases room with
    | zero => exact absurd hroom (Nat.not_lt_zero _)
    | succ room => rfl
  | @read v a vs r h hvs ih =>
    cases room with
    | zero => exact absurd hroom (Nat.not_lt_zero _)
    | succ room =>
      rw [writeItems_cons, readElements_item (nextElement_comma v _), h _ (stops_writeItems vs rest)]
      simp only [Except.map, ok_bind, ih (Nat.lt_of_succ_lt_succ hroom)]
      cases r <;> rfl
  | @refuse v vs refusal h =>
    cases room with
    | zero => exact absurd hroom (Nat.not_lt_zero _)
    | succ room =>
      rw [writeItems_cons, readElements_item (nextElement_comma v _), h _ (stops_writeItems vs rest)]
      rfl

/-- The text of an array is its opening bracket and a text from which its items are read. -/
theorem ItemsGive.exists_write_eq {vs : List Value} {r : Except Refusal (List α)}
    (h : ItemsGive read vs r) (rest : List Char) :
    ∃ body, (Value.array vs).write none rest = '[' :: body ∧
      Json.readElements read ((asInput body).length + 1) true (asInput body) =
        r.map (·, asInput rest) := by
  cases h with
  | nil => exact ⟨']' :: rest, rfl, rfl⟩
  | @read v a vs r h hvs =>
    refine ⟨_, write_array_cons v vs rest, ?_⟩
    have hv := length_write v (Value.writeItems none vs (']' :: rest))
    have hlength := length_writeItems vs (']' :: rest)
    rw [readElements_item (nextElement_first v _), h _ (stops_writeItems vs rest)]
    simp only [Except.map, ok_bind]
    rw [hvs.readElements ?_ rest]
    · cases r <;> rfl
    · rw [asInput, List.length_map]
      simp only [List.length_cons] at hlength
      omega
  | @refuse v vs refusal h =>
    refine ⟨_, write_array_cons v vs rest, ?_⟩
    rw [readElements_item (nextElement_first v _), h _ (stops_writeItems vs rest)]
    rfl

end

end ParserConformance.Json
