import ParserConformance.Proofs.Annotation.Recognition
import ParserConformance.Proofs.Outline.Erasure

/-!
# The words of an annotation

A word that the lexer makes consists of letters, digits and underscores, not of digits alone. So the
kind of an ordinary node that was read is a word, and it is not the label of an error or missing
node (`isKind_of_read`, `isOrdinaryKind_of_isKind`).
-/

namespace ParserConformance

namespace Annotation

/-! ### Lexing -/

/-- The words among the tokens are words. -/
def WordsAmong (ts : List Located) : Prop := ∀ t ∈ ts, ∀ w, t.token = .word w → IsWord w

/-- The characters of the word that is being read, if one is. -/
def Mode.wordChars : Mode → List Char
  | .word _ cs => cs
  | _ => []

/-- Finished words are words, and an unfinished one is made of word characters. -/
structure Scan.Sound (s : Scan) : Prop where
  /-- The finished words. -/
  tokens : WordsAmong s.reversed
  /-- The unfinished word. -/
  word : ∀ c ∈ s.mode.wordChars, Text.isWordChar c = true

theorem wordsAmong_cons {token : Token} {place : Place} {ts : List Located}
    (ht : ∀ w, token = .word w → IsWord w) (h : WordsAmong ts) : WordsAmong (⟨token, place⟩ :: ts) :=
  List.forall_mem_cons.2 ⟨ht, h⟩

theorem isWord_of_wordToken {cs : List Char} {w : String}
    (hcs : ∀ c ∈ cs, Text.isWordChar c = true) (h : wordToken cs = .ok (.word w)) : IsWord w := by
  rw [wordToken] at h
  split at h
  · split at h <;> cases h
  · next hdigits =>
    cases h
    rw [IsWord, String.toList_ofList]
    exact ⟨hcs, by simpa using hdigits⟩

theorem wordsAmong_closeWord {start : Place} {word : List Char} {ts us : List Located}
    (hword : ∀ c ∈ word, Text.isWordChar c = true) (hts : WordsAmong ts)
    (h : closeWord start word ts = .ok us) : WordsAmong us := by
  rw [closeWord] at h
  split at h
  · next token htoken =>
    cases h
    refine wordsAmong_cons (fun w hw => ?_) hts
    rw [hw] at htoken
    exact isWord_of_wordToken (fun c hc => hword c (List.mem_reverse.1 hc)) htoken
  · cases h

theorem ofMark?_ne_word {c : Char} {token : Token} (h : Token.ofMark? c = some token) (w : String) :
    token ≠ .word w := by
  unfold Token.ofMark? at h
  split at h <;> cases h <;> simp

/-- A scan that is not in a word has the words of its tokens only. -/
theorem sound_of_wordChars_eq_nil {mode : Mode} {place : Place} {ts : List Located}
    (hmode : mode.wordChars = []) (hts : WordsAmong ts) : Scan.Sound ⟨mode, place, ts⟩ := by
  refine ⟨hts, fun c hc => ?_⟩
  rw [hmode] at hc
  exact absurd hc List.not_mem_nil

theorem sound_beginWith {place : Place} {ts : List Located} {c : Char} {s : Scan}
    (hts : WordsAmong ts) (h : beginWith place ts c = .ok s) : s.Sound := by
  unfold beginWith at h
  split_ifs at h with hnewline hblank hsemicolon hquote hword
  · cases h
    exact sound_of_wordChars_eq_nil rfl hts
  · cases h
    exact sound_of_wordChars_eq_nil rfl hts
  · cases h
    exact sound_of_wordChars_eq_nil rfl hts
  · cases h
    exact sound_of_wordChars_eq_nil rfl hts
  · cases h
    exact ⟨hts, List.forall_mem_singleton.2 hword⟩
  · split at h
    · next token htoken =>
      cases h
      exact sound_of_wordChars_eq_nil rfl
        (wordsAmong_cons (fun w hw => absurd hw (ofMark?_ne_word htoken w)) hts)
    · cases h

/-- One more character keeps the words in order. -/
theorem sound_step {s s' : Scan} {c : Char} (hs : s.Sound) (h : step s c = .ok s') : s'.Sound := by
  obtain ⟨mode, place, ts⟩ := s
  obtain ⟨hts, hword⟩ := hs
  cases mode with
  | between => exact sound_beginWith hts h
  | comment =>
    simp only [step] at h
    split at h
    · exact sound_beginWith hts h
    · cases h
      exact ⟨hts, hword⟩
  | word start word =>
    simp only [step] at h
    split at h
    · next hc =>
      cases h
      exact ⟨hts, List.forall_mem_cons.2 ⟨hc, hword⟩⟩
    · obtain ⟨us, hus, h⟩ := bind_eq_ok_iff.1 h
      exact sound_beginWith (wordsAmong_closeWord hword hts hus) h
  | literal start text =>
    simp only [step] at h
    split_ifs at h
    · cases h
      exact sound_of_wordChars_eq_nil rfl (wordsAmong_cons (by simp) hts)
    · cases h
      exact sound_of_wordChars_eq_nil rfl hts
    · cases h
      exact sound_of_wordChars_eq_nil rfl hts
  | escaped start text =>
    cases h
    exact sound_of_wordChars_eq_nil rfl hts

theorem WordsAmong.reverse {ts : List Located} (h : WordsAmong ts) : WordsAmong ts.reverse :=
  fun t ht => h t (List.mem_reverse.1 ht)

theorem wordsAmong_finish {s : Scan} (hs : s.Sound) {lexed : Lexed} (h : s.finish = .ok lexed) :
    WordsAmong lexed.tokens := by
  obtain ⟨mode, place, ts⟩ := s
  obtain ⟨hts, hword⟩ := hs
  cases mode with
  | between | comment =>
    cases h
    exact hts.reverse
  | word start word =>
    obtain ⟨us, hus, h⟩ := bind_eq_ok_iff.1 h
    cases h
    exact (wordsAmong_closeWord hword hts hus).reverse
  | literal start text | escaped start text => cases h

/-- The words among the tokens of an annotation are words. -/
theorem wordsAmong_scan {cs : List Char} {s : Scan} (hs : s.Sound) {lexed : Lexed}
    (h : scan s cs = .ok lexed) : WordsAmong lexed.tokens := by
  induction cs generalizing s with
  | nil => exact wordsAmong_finish hs h
  | cons c cs ih =>
    obtain ⟨last, hlast, hfinish⟩ := bind_eq_ok_iff.1 h
    rw [List.foldlM_cons] at hlast
    obtain ⟨s', hs', hlast⟩ := bind_eq_ok_iff.1 hlast
    refine ih (sound_step hs hs') ?_
    rw [scan, hlast]
    exact hfinish

theorem isWord_of_lex {cs : List Char} {lexed : Lexed} (h : lex cs = .ok lexed) {w : String}
    (hw : .word w ∈ lexed.tokens.map Located.token) : IsWord w := by
  obtain ⟨t, ht, htoken⟩ := List.mem_map.1 hw
  exact wordsAmong_scan (s := .initial) ⟨nofun, nofun⟩ h t ht w htoken

/-! ### Reading -/

open Outline (nodeKinds slotsKinds)

mutual

/-- The kind of an ordinary node stands among the tokens, and it is neither `ERROR` nor `MISSING`. -/
theorem Derives.word_mem : ∀ {ts : List Token} {t : Outline}, Derives ts t → ∀ k ∈ t.nodeKinds,
    .word k ∈ ts ∧ k ≠ "ERROR" ∧ k ≠ "MISSING"
  | _, _, .error span children, k, hk => by
    obtain ⟨hmem, hne⟩ := children.word_mem k hk
    exact ⟨by simp [hmem], hne⟩
  | _, _, .node herror hmissing span children, k, hk => by
    rcases List.mem_cons.1 hk with rfl | hk
    · exact ⟨by simp, herror, hmissing⟩
    · obtain ⟨hmem, hne⟩ := children.word_mem k hk
      exact ⟨by simp [hmem], hne⟩

theorem DerivesSlots.word_mem : ∀ {ts : List Token} {slots : List (Slot Outline)},
    DerivesSlots ts slots → ∀ k ∈ slotsKinds slots, .word k ∈ ts ∧ k ≠ "ERROR" ∧ k ≠ "MISSING"
  | _, _, .cons field tree slots, k, hk => by
    rcases List.mem_append.1 hk with hk | hk
    · obtain ⟨hmem, hne⟩ := tree.word_mem k hk
      exact ⟨by simp [hmem], hne⟩
    · obtain ⟨hmem, hne⟩ := slots.word_mem k hk
      exact ⟨by simp [hmem], hne⟩

end

/-- The ordinary nodes of a tree that was read have kinds that can be written. -/
theorem isKind_of_read {text : String} {t : Outline} (h : read text = .ok t) :
    ∀ k ∈ t.nodeKinds, IsKind k := by
  intro k hk
  obtain ⟨lexed, hlex, htokens⟩ := bind_eq_ok_iff.1 h
  obtain ⟨hmem, hne⟩ := (readTokens_eq_ok_iff.1 htokens).1.word_mem k hk
  exact ⟨isWord_of_lex hlex hmem, hne⟩

/-- The kind of an ordinary node is not the label of an error or missing node: such a label is a
word that is excluded, or it holds a blank. -/
theorem isOrdinaryKind_of_isKind {k : String} (h : IsKind k) : Outline.IsOrdinaryKind k := by
  obtain ⟨⟨hchars, -⟩, herror, hmissing⟩ := h
  refine ⟨herror, hmissing, fun hmissing' => ?_⟩
  have hblank : Text.isWordChar ' ' = true := hchars ' ' (hmissing'.subset (by decide))
  exact absurd hblank (by decide)

end Annotation

end ParserConformance
