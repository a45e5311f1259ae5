import Mathlib.Data.List.DropRight
import ParserConformance.Text.Blank
import ParserConformance.Text.Lines

/-!
# Lines and trimming

Writing lines, each with a newline at its end, and reading them back gives the same lines, as
long as no line holds a newline or ends with a carriage return. Trimming leaves a text alone
exactly if neither its first nor its last character is blank.
-/

namespace ParserConformance.Text

/-! ### Writing lines -/

/-- Lines as a file holds them, each with a newline at its end. -/
def writeLines (ls : List (List Char)) : List Char := ls.flatMap (· ++ ['\n'])

/-- A text that can stand on a line of its own. -/
def FitsLine (l : List Char) : Prop := '\n' ∉ l ∧ l.getLast? ≠ some '\r'

instance (l : List Char) : Decidable (FitsLine l) := inferInstanceAs (Decidable (_ ∧ _))

theorem FitsLine.of_not_mem {l : List Char} (hn : '\n' ∉ l) (hr : '\r' ∉ l) : FitsLine l :=
  ⟨hn, fun h => hr (List.mem_of_getLast? h)⟩

theorem FitsLine.tail {c : Char} {l : List Char} (h : FitsLine (c :: l)) : FitsLine l := by
  obtain ⟨hn, hr⟩ := h
  refine ⟨fun hm => hn (List.mem_cons_of_mem c hm), fun hl => hr ?_⟩
  rw [List.getLast?_cons, hl]
  rfl

theorem FitsLine.append {l m : List Char} (hl : '\n' ∉ l) (hm : FitsLine m)
    (hlm : m = [] → l.getLast? ≠ some '\r') : FitsLine (l ++ m) := by
  obtain ⟨hn, hr⟩ := hm
  refine ⟨by simp [hl, hn], ?_⟩
  rw [List.getLast?_append]
  cases hm : m.getLast? with
  | none => simpa using hlm (List.getLast?_eq_none_iff.1 hm)
  | some c => simpa [hm] using hr

/-- A character begins a line of its own unless it ends one. -/
theorem lines_cons {c : Char} {cs : List Char} (hn : c ≠ '\n')
    (hr : c = '\r' → cs.head? ≠ some '\n') {l : List Char} {ls : List (List Char)}
    (h : lines cs = l :: ls) : lines (c :: cs) = (c :: l) :: ls := by
  rw [lines.eq_4]
  · rw [h]
  · exact hn
  · rintro cs' rfl rfl
    exact hr rfl rfl

theorem not_mem_lines (cs : List Char) : ∀ l ∈ lines cs, '\n' ∉ l := by
  fun_induction lines cs with
  | case1 => simp
  | case2 cs ih => simpa using ih
  | case3 cs ih => simpa using ih
  | case4 c cs hn hr h ih => simpa using Ne.symm hn
  | case5 c cs hn hr l ls h ih =>
    rw [h] at ih
    obtain ⟨hl, hls⟩ := List.forall_mem_cons.1 ih
    refine List.forall_mem_cons.2 ⟨fun hm => ?_, hls⟩
    rcases List.mem_cons.1 hm with rfl | hm
    · exact hn rfl
    · exact hl hm

theorem lines_append_newline {l : List Char} (h : FitsLine l) (rest : List Char) :
    lines (l ++ '\n' :: rest) = l :: lines rest := by
  induction l with
  | nil => rfl
  | cons c l ih =>
    refine lines_cons (fun hc => h.1 (by simp [hc])) ?_ (ih h.tail)
    rintro rfl
    cases l with
    | nil => exact absurd rfl h.2
    | cons d l =>
      intro hd
      have : d = '\n' := Option.some.inj hd
      exact h.1 (by simp [this])

/-- Lines that are written are read back. -/
theorem lines_writeLines {ls : List (List Char)} (h : ∀ l ∈ ls, FitsLine l) :
    lines (writeLines ls) = ls := by
  induction ls with
  | nil => rfl
  | cons l ls ih =>
    obtain ⟨hl, hls⟩ := List.forall_mem_cons.1 h
    have : writeLines (l :: ls) = l ++ '\n' :: writeLines ls := by simp [writeLines]
    rw [this, lines_append_newline hl, ih hls]

/-! ### Joining lines -/

theorem unlines_cons_cons (l m : List Char) (ls : List (List Char)) :
    unlines (l :: m :: ls) = l ++ '\n' :: unlines (m :: ls) := by
  simp [unlines, joinWith]

theorem unlines_cons {ls : List (List Char)} (h : ls ≠ []) (l : List Char) :
    unlines (l :: ls) = l ++ '\n' :: unlines ls := by
  cases ls with
  | nil => exact absurd rfl h
  | cons m ls => exact unlines_cons_cons l m ls

theorem unlines_append {ls ms : List (List Char)} (hls : ls ≠ []) (hms : ms ≠ []) :
    unlines (ls ++ ms) = unlines ls ++ '\n' :: unlines ms := by
  induction ls with
  | nil => exact absurd rfl hls
  | cons l ls ih =>
    cases ls with
    | nil => exact unlines_cons hms l
    | cons m ls =>
      have hne : m :: ls ++ ms ≠ [] := by simp
      rw [List.cons_append, unlines_cons hne, ih (by simp), unlines_cons_cons, List.append_assoc]
      rfl

theorem unlines_append_nil {ls : List (List Char)} (h : ls ≠ []) :
    unlines (ls ++ [[]]) = unlines ls ++ ['\n'] :=
  unlines_append h (List.cons_ne_nil _ _)

theorem joinWith_ne_nil {sep l : List Char} {ls : List (List Char)} (hl : l ∈ ls) (hne : l ≠ []) :
    joinWith sep ls ≠ [] := by
  induction ls with
  | nil => simp at hl
  | cons m ls ih =>
    cases ls with
    | nil => rwa [List.mem_singleton.1 hl] at hne
    | cons k ls =>
      intro h
      obtain ⟨hm, htail⟩ := List.append_eq_nil_iff.1 h
      rcases List.mem_cons.1 hl with rfl | hl
      · exact hne (List.append_eq_nil_iff.1 hm).1
      · exact ih hl htail

theorem not_mem_joinWith {c : Char} {sep : List Char} (hsep : c ∉ sep) {ls : List (List Char)}
    (h : ∀ l ∈ ls, c ∉ l) : c ∉ joinWith sep ls := by
  induction ls with
  | nil => simp [joinWith]
  | cons l ls ih =>
    obtain ⟨hl, hls⟩ := List.forall_mem_cons.1 h
    cases ls with
    | nil => exact hl
    | cons m ls => simpa [joinWith, hl, hsep] using ih hls

/-- Lines are joined to less if the text ends before one that is not empty. -/
theorem unlines_ne_of_lt {l : List Char} (hl : l ≠ []) (above under : List (List Char)) :
    unlines above ≠ unlines (above ++ l :: under) := by
  induction above with
  | nil => exact fun h => joinWith_ne_nil List.mem_cons_self hl h.symm
  | cons m above ih =>
    cases above with
    | nil =>
      intro h
      have := congrArg List.length h
      rw [List.cons_append, List.nil_append, unlines_cons_cons] at this
      simp [unlines, joinWith] at this
    | cons k above =>
      intro h
      rw [List.cons_append, List.cons_append, unlines_cons_cons, unlines_cons_cons] at h
      exact ih (List.cons.inj (List.append_cancel_left h)).2

theorem unlines_eq_intercalate (ls : List (List Char)) : unlines ls = ['\n'].intercalate ls := by
  induction ls with
  | nil => rfl
  | cons l ls ih =>
    cases ls with
    | nil => exact List.intercalate_singleton.symm
    | cons m ls =>
      rw [unlines_cons_cons, List.intercalate_cons_cons, ih, List.append_assoc]
      rfl

/-- Lines that are joined are parted again. -/
theorem splitOn_unlines {ls : List (List Char)} (h : ∀ l ∈ ls, '\n' ∉ l) (hne : ls ≠ []) :
    (unlines ls).splitOn '\n' = ls := by
  rw [unlines_eq_intercalate]
  exact List.splitOn_intercalate '\n' h hne

theorem length_splitOn (cs : List Char) : (cs.splitOn '\n').length = cs.count '\n' + 1 := by
  induction cs with
  | nil => rfl
  | cons c cs ih =>
    rw [List.splitOn_cons_eq_if_modifyHead, List.count_cons]
    split
    · rw [List.length_cons, ih]
    · rw [List.length_modifyHead, ih]

theorem reverse_unlines (ls : List (List Char)) :
    (unlines ls).reverse = unlines (ls.map List.reverse).reverse := by
  induction ls with
  | nil => rfl
  | cons l ls ih =>
    cases ls with
    | nil => rfl
    | cons m ls =>
      have hne : ((m :: ls).map List.reverse).reverse ≠ [] := by simp
      rw [unlines_cons_cons, List.map_cons, List.reverse_cons, unlines_append hne (by simp), ← ih]
      simp [unlines, joinWith]

/-! ### Trimming -/

theorem trimLeft_cons_eq_self_iff {c : Char} {cs : List Char} :
    trimLeft (c :: cs) = c :: cs ↔ isBlank c = false := by
  simp [trimLeft, List.dropWhile_eq_self_iff]

theorem trimRight_eq_rdropWhile (cs : List Char) : trimRight cs = cs.rdropWhile isBlank := rfl

theorem trimRight_eq_self_iff {cs : List Char} :
    trimRight cs = cs ↔ ∀ c, cs.getLast? = some c → isBlank c = false := by
  rw [trimRight_eq_rdropWhile, List.rdropWhile_eq_self_iff]
  constructor
  · intro h c hc
    obtain ⟨hne, rfl⟩ := List.mem_getLast?_eq_getLast hc
    simpa using h hne
  · intro h hne
    simp [h _ (List.getLast?_eq_some_getLast hne)]

/-- A text that trimming leaves alone has no blank at either end. -/
theorem trim_eq_self_iff {cs : List Char} :
    trim cs = cs ↔ trimLeft cs = cs ∧ trimRight cs = cs := by
  constructor
  · intro h
    have hr := (List.rdropWhile_prefix isBlank (trimLeft cs)).length_le
    rw [← trimRight_eq_rdropWhile, ← trim, h] at hr
    have hl : trimLeft cs = cs := (List.dropWhile_suffix isBlank).eq_of_length_le hr
    exact ⟨hl, by rwa [trim, hl] at h⟩
  · rintro ⟨hl, hr⟩
    rw [trim, hl, hr]

theorem trimRight_append_blank {c : Char} (hc : isBlank c) (cs : List Char) :
    trimRight (cs ++ [c]) = trimRight cs :=
  List.rdropWhile_concat_pos isBlank cs c hc

theorem trimLeft_cons_blank {c : Char} (hc : isBlank c) (cs : List Char) :
    trimLeft (c :: cs) = trimLeft cs :=
  List.dropWhile_cons_of_pos hc

/-- A text without blanks at its ends is what trimming leaves of it between two newlines. -/
theorem trim_between_newlines {cs : List Char} (h : trim cs = cs) :
    trim ('\n' :: (cs ++ ['\n'])) = cs := by
  obtain ⟨hl, hr⟩ := trim_eq_self_iff.1 h
  have hb : isBlank '\n' = true := by decide
  rw [trim, trimLeft_cons_blank hb]
  cases cs with
  | nil => rfl
  | cons c cs =>
    have hc : trimLeft (c :: (cs ++ ['\n'])) = c :: (cs ++ ['\n']) :=
      trimLeft_cons_eq_self_iff.2 (trimLeft_cons_eq_self_iff.1 hl)
    rw [List.cons_append, hc, ← List.cons_append, trimRight_append_blank hb, hr]

theorem trim_cons_ne_nil {c : Char} (hc : isBlank c = false) (cs : List Char) :
    trim (c :: cs) ≠ [] := by
  rw [trim, trimLeft_cons_eq_self_iff.2 hc, trimRight_eq_rdropWhile, Ne, List.rdropWhile_eq_nil_iff]
  intro h
  have := h c List.mem_cons_self
  rw [hc] at this
  exact Bool.false_ne_true this

theorem mem_of_mem_trim {c : Char} {cs : List Char} (h : c ∈ trim cs) : c ∈ cs := by
  rw [trim, trimRight_eq_rdropWhile] at h
  have hleft : c ∈ trimLeft cs := (List.rdropWhile_prefix isBlank (trimLeft cs)).subset h
  exact (List.dropWhile_suffix isBlank).subset hleft

theorem trimLeft_eq_nil_iff {cs : List Char} : trimLeft cs = [] ↔ ∀ c ∈ cs, isBlank c = true :=
  List.dropWhile_eq_nil_iff

theorem trimRight_eq_nil_iff {cs : List Char} : trimRight cs = [] ↔ ∀ c ∈ cs, isBlank c = true := by
  rw [trimRight_eq_rdropWhile, List.rdropWhile_eq_nil_iff]

theorem trim_eq_nil_iff {cs : List Char} : trim cs = [] ↔ ∀ c ∈ cs, isBlank c = true := by
  rw [trim, trimRight_eq_nil_iff]
  refine ⟨fun h => trimLeft_eq_nil_iff.1 ?_, fun h c hc => h c ((List.dropWhile_suffix isBlank).subset hc)⟩
  by_contra hne
  have hhead : isBlank ((trimLeft cs).head hne) = false := List.head_dropWhile_not isBlank hne
  rw [h _ (List.head_mem hne)] at hhead
  exact Bool.noConfusion hhead

theorem exists_trimRight (cs : List Char) :
    ∃ back, cs = trimRight cs ++ back ∧ ∀ c ∈ back, isBlank c = true := by
  refine ⟨cs.rtakeWhile isBlank, List.rdropWhile_append_rtakeWhile.symm, fun c hc => ?_⟩
  exact List.mem_rtakeWhile_imp hc

/-! ### Trimming joined lines -/

theorem trimRight_eq_reverse (cs : List Char) : trimRight cs = (trimLeft cs.reverse).reverse := rfl

/-- Trimming joined lines leaves out blank lines at the beginning, and trims the first other one. -/
theorem trimLeft_unlines {blanks ls : List (List Char)} {l : List Char}
    (hblanks : ∀ b ∈ blanks, trimLeft b = []) (hl : trimLeft l ≠ []) :
    trimLeft (unlines (blanks ++ l :: ls)) = unlines (trimLeft l :: ls) := by
  induction blanks with
  | nil =>
    cases ls with
    | nil => rfl
    | cons m ls =>
      rw [List.nil_append, unlines_cons_cons, unlines_cons_cons, trimLeft, List.dropWhile_append,
        if_neg (by rwa [List.isEmpty_iff])]
      rfl
  | cons b blanks ih =>
    obtain ⟨hb, hblanks⟩ := List.forall_mem_cons.1 hblanks
    have hnewline : isBlank '\n' = true := by decide
    rw [List.cons_append, unlines_cons (by simp), trimLeft,
      List.dropWhile_append_of_pos (trimLeft_eq_nil_iff.1 hb), List.dropWhile_cons_of_pos hnewline]
    exact ih hblanks

/-- The same at the end. -/
theorem trimRight_unlines {blanks ls : List (List Char)} {l : List Char}
    (hblanks : ∀ b ∈ blanks, trimRight b = []) (hl : trimRight l ≠ []) :
    trimRight (unlines (ls ++ l :: blanks)) = unlines (ls ++ [trimRight l]) := by
  have hreverse : ((ls ++ l :: blanks).map List.reverse).reverse =
      (blanks.map List.reverse).reverse ++ l.reverse :: (ls.map List.reverse).reverse := by simp
  have htrim : trimLeft (unlines ((ls ++ l :: blanks).map List.reverse).reverse) =
      unlines (trimLeft l.reverse :: (ls.map List.reverse).reverse) := by
    rw [hreverse]
    refine trimLeft_unlines (fun b hb => ?_) (by simpa [trimRight_eq_reverse] using hl)
    obtain ⟨b', hb', rfl⟩ := List.mem_map.1 (List.mem_reverse.1 hb)
    simpa [trimRight_eq_reverse] using hblanks b' hb'
  rw [trimRight_eq_reverse, reverse_unlines, htrim, reverse_unlines]
  simp [trimRight_eq_reverse]

/-! ### Numbers -/

theorem not_mem_toString (n : Nat) : '\n' ∉ (toString n).toList := by
  rw [Nat.toString_eq_ofList_toDigits, String.toList_ofList]
  exact fun h => absurd (Nat.isDigit_of_mem_toDigits (by decide) (by decide) h) (by decide)

end ParserConformance.Text
