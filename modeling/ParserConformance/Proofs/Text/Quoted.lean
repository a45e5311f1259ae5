import Mathlib.Data.List.Basic
import Mathlib.Tactic.SplitIfs
import ParserConformance.Text.Quoted

/-!
# Quoted texts tell their texts apart

A character is quoted in one of three ways: as itself, by a letter after a backslash, or by its code
point. No two of them begin alike, so a quoted text can be taken apart from its start on and no two
texts are quoted alike.
-/

namespace ParserConformance.Text

/-! ### Hexadecimal digits -/

theorem digitChar_inj {m n : Nat} (hm : m < 16) (hn : n < 16) (h : m.digitChar = n.digitChar) :
    m = n := by
  have : ∀ m < 16, ∀ n < 16, m.digitChar = n.digitChar → m = n := by decide
  exact this m hm n hn h

theorem hexDigits_eq (n : Nat) : hexDigits n =
    if n < 16 then [n.digitChar] else hexDigits (n / 16) ++ [(n % 16).digitChar] :=
  Nat.toDigits_eq_if (by decide)

theorem hexDigits_injective : Function.Injective hexDigits := by
  intro m
  induction m using Nat.strongRecOn with
  | ind m ih =>
    intro n h
    rw [hexDigits_eq m, hexDigits_eq n] at h
    split_ifs at h with hm hn hn
    · exact digitChar_inj hm hn (List.singleton_inj.1 h)
    · exact absurd (List.append_eq_singleton_iff.1 h.symm) (by simp [hexDigits, Nat.toDigits_ne_nil])
    · exact absurd (List.append_eq_singleton_iff.1 h) (by simp [hexDigits, Nat.toDigits_ne_nil])
    · obtain ⟨hdiv, hmod⟩ := List.append_inj' h rfl
      have hd : m / 16 = n / 16 := ih _ (Nat.div_lt_self (by omega) (by decide)) hdiv
      have hm : m % 16 = n % 16 := digitChar_inj (Nat.mod_lt _ (by decide)) (Nat.mod_lt _ (by decide))
        (List.singleton_inj.1 hmod)
      omega

theorem exists_digitChar_of_mem_hexDigits {c : Char} {n : Nat} (h : c ∈ hexDigits n) :
    ∃ m < 16, c = m.digitChar := by
  induction n using Nat.strongRecOn with
  | ind n ih =>
    rw [hexDigits_eq] at h
    split_ifs at h with hn
    · exact ⟨n, hn, List.mem_singleton.1 h⟩
    · rcases List.mem_append.1 h with h | h
      · exact ih _ (Nat.div_lt_self (by omega) (by decide)) h
      · exact ⟨n % 16, Nat.mod_lt _ (by decide), List.mem_singleton.1 h⟩

theorem brace_not_mem_hexDigits (n : Nat) : '\x7d' ∉ hexDigits n := by
  have hdigit : ∀ m < 16, '\x7d' ≠ m.digitChar := by decide
  intro h
  obtain ⟨m, hm, hbrace⟩ := exists_digitChar_of_mem_hexDigits h
  exact hdigit m hm hbrace

/-- Texts that end at the first `mark` are parted alike. -/
theorem append_mark_inj {mark : Char} {s t xs ys : List Char} (hs : mark ∉ s) (ht : mark ∉ t)
    (h : s ++ mark :: xs = t ++ mark :: ys) : s = t ∧ xs = ys := by
  have hall : ∀ {u : List Char}, mark ∉ u → ∀ c ∈ u, decide (c ≠ mark) = true :=
    fun hu c hc => decide_eq_true fun he => hu (he ▸ hc)
  have hfront := congrArg (List.takeWhile fun c => decide (c ≠ mark)) h
  have hback := congrArg (List.dropWhile fun c => decide (c ≠ mark)) h
  rw [List.takeWhile_append_of_pos (hall hs), List.takeWhile_append_of_pos (hall ht)] at hfront
  rw [List.dropWhile_append_of_pos (hall hs), List.dropWhile_append_of_pos (hall ht)] at hback
  simpa using And.intro hfront hback

/-! ### Single characters -/

/-- The characters that are quoted by a letter, and their letters. -/
def letters : List (Char × Char) :=
  [('\x00', '0'), ('\t', 't'), ('\r', 'r'), ('\n', 'n'), ('\\', '\\'), ('"', '"')]

/-- The ways in which a character is quoted. -/
inductive Written : Char → List Char → Prop where
  /-- As itself. -/
  | plain {c : Char} (h : c ≠ '\\') : Written c [c]
  /-- By a letter after a backslash. -/
  | letter {c l : Char} (h : (c, l) ∈ letters) : Written c ['\\', l]
  /-- By its code point. -/
  | code (c : Char) : Written c ('\\' :: 'u' :: '\x7b' :: (hexDigits c.toNat ++ ['\x7d']))

theorem written_escape (c : Char) : Written c (escape c) := by
  rw [escape]
  split_ifs with hzero htab hreturn hnewline hbackslash hquote
  · exact .letter (by simp [letters, hzero])
  · exact .letter (by simp [letters, htab])
  · exact .letter (by simp [letters, hreturn])
  · exact .letter (by simp [letters, hnewline])
  · exact .letter (by simp [letters, hbackslash])
  · exact .letter (by simp [letters, hquote])
  · simpa using Written.code c
  · exact .plain hbackslash

theorem Written.ne_nil {c : Char} {s : List Char} (h : Written c s) : s ≠ [] := by
  cases h <;> exact List.cons_ne_nil _ _

/-- A quoted character ends where it ends, whatever follows. -/
theorem Written.append_inj {c d : Char} {s t xs ys : List Char} (hs : Written c s)
    (ht : Written d t) (h : s ++ xs = t ++ ys) : c = d ∧ xs = ys := by
  have hone : ∀ p ∈ letters, ∀ q ∈ letters, p.2 = q.2 → p.1 = q.1 := by decide
  have hu : ∀ p ∈ letters, p.2 ≠ 'u' := by decide
  cases hs with
  | plain hc =>
    cases ht with
    | plain => simpa using h
    | letter => exact absurd (List.cons.inj h).1 hc
    | code => exact absurd (List.cons.inj h).1 hc
  | letter hl =>
    cases ht with
    | plain hd => exact absurd (List.cons.inj h).1.symm hd
    | letter hm =>
      simp only [List.cons_append, List.nil_append, List.cons.injEq, true_and] at h
      exact ⟨hone _ hl _ hm h.1, h.2⟩
    | code => exact absurd (List.cons.inj (List.cons.inj h).2).1 (hu _ hl)
  | code =>
    cases ht with
    | plain hd => exact absurd (List.cons.inj h).1.symm hd
    | letter hm => exact absurd (List.cons.inj (List.cons.inj h).2).1.symm (hu _ hm)
    | code =>
      simp only [List.cons_append, List.append_assoc, List.cons.injEq, true_and, List.nil_append] at h
      obtain ⟨hdigits, hrest⟩ := append_mark_inj (brace_not_mem_hexDigits _)
        (brace_not_mem_hexDigits _) h
      exact ⟨Char.toNat_inj.1 (hexDigits_injective hdigits), hrest⟩

/-! ### Texts -/

theorem flatMap_escape_injective : Function.Injective (List.flatMap escape) := by
  intro cs
  induction cs with
  | nil =>
    intro ds h
    cases ds with
    | nil => rfl
    | cons d ds => exact absurd (List.append_eq_nil_iff.1 h.symm).1 (written_escape d).ne_nil
  | cons c cs ih =>
    intro ds h
    cases ds with
    | nil => exact absurd (List.append_eq_nil_iff.1 h).1 (written_escape c).ne_nil
    | cons d ds =>
      obtain ⟨rfl, hrest⟩ := (written_escape c).append_inj (written_escape d) h
      rw [ih hrest]

/-- No two texts are quoted alike. -/
theorem quote_injective : Function.Injective quote := by
  intro cs ds h
  exact flatMap_escape_injective (List.append_cancel_right (List.cons.inj h).2)

end ParserConformance.Text
