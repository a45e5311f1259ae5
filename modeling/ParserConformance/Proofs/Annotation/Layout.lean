import ParserConformance.Proofs.Annotation.Lexing

/-!
# The layout of an annotation

An annotation is made of blanks, comments and tokens. `Lays before cs ps` says, apart from any lexer,
which tokens there are in `cs` and what stands before each of them, if all of it comes after `before`.
Every annotation that can be lexed is laid out so, and the lexer gives just the tokens of the layout.

A place counts newlines and the characters after the last one (`Place.after`). The lexer counts along,
but for newlines in texts between quotes, where one may stand after a backslash. `Marks` says what it
has counted at any time.

## Main statements
- `Annotation.lex_of_lays`: what the lexer gives of an annotation that is laid out.
- `Annotation.exists_lays`: an annotation that can be lexed is laid out.
-/

namespace ParserConformance.Annotation

/-! ### Places -/

/-- The place after a text: its line tells the newlines in it, its column the characters after the
last of them. -/
def Place.after (before : List Char) : Place :=
  ⟨before.count '\n' + 1, (before.reverse.takeWhile (· != '\n')).length + 1⟩

theorem Place.after_newline (before : List Char) :
    Place.after (before ++ ['\n']) = (Place.after before).newline := by
  simp [after, newline]

theorem Place.after_append {cs : List Char} (h : '\n' ∉ cs) (before : List Char) :
    Place.after (before ++ cs) = (Place.after before).ahead cs.length := by
  have hcs : ∀ c ∈ cs.reverse, (c != '\n') = true := by
    intro c hc
    rw [bne_iff_ne]
    rintro rfl
    exact h (List.mem_reverse.1 hc)
  have hcolumn : ((before ++ cs).reverse.takeWhile (· != '\n')).length =
      cs.length + (before.reverse.takeWhile (· != '\n')).length := by
    rw [List.reverse_append, List.takeWhile_append_of_pos hcs, List.length_append, List.length_reverse]
  rw [after, after, ahead, List.count_append, List.count_eq_zero.2 h, hcolumn, Nat.add_zero,
    Nat.add_comm cs.length, Nat.add_right_comm]

/-- What the lexer marks the end of a text with, if texts between quotes hold `hidden` newlines of it:
a line that falls short by these, and the true place if there are none. -/
structure Marks (hidden : Nat) (before : List Char) (place : Place) : Prop where
  /-- The line. -/
  line : place.line + hidden = (Place.after before).line
  /-- The true place. -/
  eq_after : hidden = 0 → place = Place.after before

namespace Marks

variable {hidden : Nat} {before : List Char} {place : Place}

theorem first : Marks 0 [] Place.first := ⟨rfl, fun _ => rfl⟩

theorem eq_after_iff (h : Marks hidden before place) : place = Place.after before ↔ hidden = 0 := by
  refine ⟨fun heq => ?_, h.eq_after⟩
  have := h.line
  rw [heq] at this
  omega

theorem newline (h : Marks hidden before place) : Marks hidden (before ++ ['\n']) place.newline := by
  constructor
  case line =>
    rw [Place.after_newline]
    have := h.line
    simp only [Place.newline] at this ⊢
    omega
  case eq_after =>
    intro hzero
    rw [Place.after_newline, h.eq_after hzero]

theorem ahead (h : Marks hidden before place) (cs : List Char) :
    Marks (hidden + cs.count '\n') (before ++ cs) (place.ahead cs.length) := by
  constructor
  case line =>
    have := h.line
    simp only [Place.ahead, Place.after, List.count_append] at this ⊢
    omega
  case eq_after =>
    intro hzero
    obtain ⟨hhidden, hcount⟩ := Nat.add_eq_zero_iff.1 hzero
    rw [Place.after_append (List.count_eq_zero.1 hcount), h.eq_after hhidden]

/-- After a comment the lexer stands where it began, which is on the right line. -/
theorem comment (h : Marks hidden before place) {text : List Char} (ht : '\n' ∉ text) :
    Marks hidden (before ++ ';' :: (text ++ ['\n'])) place.newline := by
  have hcount : (';' :: text).count '\n' = 0 := List.count_eq_zero.2 (by simp [ht])
  have := (h.ahead (';' :: text)).newline
  rwa [hcount, Nat.add_zero, List.append_assoc, List.cons_append] at this

end Marks

/-! ### Layouts -/

/-- A token as it stands in an annotation. -/
structure Laid where
  /-- The token. -/
  token : Token
  /-- All characters of the annotation before it. -/
  before : List Char
  /-- Its own characters. -/
  chars : List Char

/-- After `before` the characters `cs` are blanks, comments and the given tokens. -/
inductive Lays : (before cs : List Char) → List Laid → Prop where
  /-- The annotation ends. -/
  | done {before : List Char} : Lays before [] []
  /-- A blank. -/
  | blank {before cs : List Char} {ps : List Laid} {c : Char} (blank : Text.isBlank c = true)
    (rest : Lays (before ++ [c]) cs ps) : Lays before (c :: cs) ps
  /-- A comment, which runs to the end of its line. -/
  | comment {before cs : List Char} {ps : List Laid} {text : List Char} (line : '\n' ∉ text)
    (rest : Lays (before ++ ';' :: (text ++ ['\n'])) cs ps) : Lays before (';' :: (text ++ '\n' :: cs)) ps
  /-- A comment with which the annotation ends. -/
  | lastComment {before text : List Char} (line : '\n' ∉ text) : Lays before (';' :: text) []
  /-- A token of a single character. -/
  | mark {before cs : List Char} {ps : List Laid} {c : Char} {t : Token} (mark : Token.ofMark? c = some t)
    (rest : Lays (before ++ [c]) cs ps) : Lays before (c :: cs) (⟨t, before, [c]⟩ :: ps)
  /-- A word or number, which goes on as long as it can. -/
  | word {before cs : List Char} {ps : List Laid} {chars : List Char} {t : Token} (ne_nil : chars ≠ [])
    (isWordChar : ∀ c ∈ chars, Text.isWordChar c = true) (token : wordToken chars = .ok t)
    (ends : EndsWord cs) (rest : Lays (before ++ chars) cs ps) :
    Lays before (chars ++ cs) (⟨t, before, chars⟩ :: ps)
  /-- A text between quotes. -/
  | literal {before cs : List Char} {ps : List Laid} {text chars : List Char} (spelled : Spelled text chars)
    (rest : Lays (before ++ '"' :: (chars ++ ['"'])) cs ps) :
    Lays before ('"' :: (chars ++ '"' :: cs))
      (⟨.literal (String.ofList text), before, '"' :: (chars ++ ['"'])⟩ :: ps)

theorem exists_after_cons {before chars cs : List Char} {t : Token} {p : Laid} {ps : List Laid}
    (hp : p ∈ ⟨t, before, chars⟩ :: ps)
    (ih : p ∈ ps → ∃ after, before ++ chars ++ cs = p.before ++ p.chars ++ after) :
    ∃ after, before ++ (chars ++ cs) = p.before ++ p.chars ++ after := by
  rw [← List.append_assoc]
  obtain rfl | hp := List.mem_cons.1 hp
  · exact ⟨cs, rfl⟩
  · exact ih hp

/-- A token of a layout stands in the annotation where its layout says. -/
theorem Lays.exists_after {before cs : List Char} {ps : List Laid} (h : Lays before cs ps) {p : Laid}
    (hp : p ∈ ps) : ∃ after, before ++ cs = p.before ++ p.chars ++ after := by
  induction h with
  | done => cases hp
  | blank _ _ ih => simpa using ih hp
  | comment _ _ ih => simpa using ih hp
  | lastComment => cases hp
  | mark _ _ ih => exact exists_after_cons hp ih
  | word _ _ _ _ _ ih => exact exists_after_cons hp ih
  | literal _ _ ih => simpa using exists_after_cons hp ih

/-- How many newlines the tokens have among their own characters. Only texts between quotes have any. -/
def newlinesIn (ps : List Laid) : Nat := (ps.map fun p => p.chars.count '\n').sum

/-- Located tokens are those of a layout, each with the place that the lexer has for its beginning, if
the tokens before all of these have `hidden` newlines. -/
inductive Marked : (hidden : Nat) → List Laid → List Located → Prop where
  /-- There are no tokens. -/
  | nil {hidden : Nat} : Marked hidden [] []
  /-- A token and those after it. -/
  | cons {hidden : Nat} {p : Laid} {ps : List Laid} {t : Located} {ts : List Located}
    (token : t.token = p.token) (marks : Marks hidden p.before t.place)
    (rest : Marked (hidden + p.chars.count '\n') ps ts) : Marked hidden (p :: ps) (t :: ts)

theorem Marked.map_token {hidden : Nat} {ps : List Laid} {ts : List Located} (h : Marked hidden ps ts) :
    ts.map Located.token = ps.map Laid.token := by
  induction h with
  | nil => rfl
  | cons token _ _ ih => rw [List.map_cons, List.map_cons, token, ih]

theorem Marked.getElem? {hidden : Nat} {ps : List Laid} {ts : List Located} (h : Marked hidden ps ts)
    {i : Nat} {p : Laid} (hp : ps[i]? = some p) : ∃ t, ts[i]? = some t ∧ t.token = p.token := by
  have hmap : (ts.map Located.token)[i]? = some p.token := by
    rw [h.map_token, List.getElem?_map, hp]
    rfl
  rw [List.getElem?_map] at hmap
  exact Option.map_eq_some_iff.1 hmap

theorem Marked.marks {hidden : Nat} {ps : List Laid} {ts : List Located} (h : Marked hidden ps ts)
    {i : Nat} {p : Laid} {t : Located} (hp : ps[i]? = some p) (ht : ts[i]? = some t) :
    Marks (hidden + newlinesIn (ps.take i)) p.before t.place := by
  induction h generalizing i with
  | nil => cases hp
  | @cons hidden first ps t' ts token marks rest ih =>
    cases i with
    | zero =>
      obtain rfl := Option.some.inj hp
      obtain rfl := Option.some.inj ht
      exact marks
    | succ i =>
      have := ih hp ht
      rwa [Nat.add_assoc] at this

/-! ### What the lexer gives of a layout -/

theorem scan_comment {text : List Char} (h : '\n' ∉ text) (place : Place) (reversed : List Located)
    (rest : List Char) :
    scan ⟨.comment, place, reversed⟩ (text ++ rest) = scan ⟨.comment, place, reversed⟩ rest := by
  induction text with
  | nil => rfl
  | cons c text ih =>
    obtain ⟨hc, htext⟩ := not_or.1 (mt List.mem_cons.2 h)
    have hs : step ⟨.comment, place, reversed⟩ c = .ok ⟨.comment, place, reversed⟩ :=
      if_neg (Ne.symm hc)
    rw [List.cons_append, scan_cons hs, ih htext]

theorem scan_between_comment {text : List Char} (h : '\n' ∉ text) (place : Place)
    (reversed : List Located) (rest : List Char) :
    scan ⟨.between, place, reversed⟩ (';' :: (text ++ '\n' :: rest)) =
      scan ⟨.between, place.newline, reversed⟩ rest := by
  rw [scan_cons rfl, scan_comment h]
  exact scan_cons rfl rest

theorem scan_lastComment {text : List Char} (h : '\n' ∉ text) (place : Place) (reversed : List Located) :
    scan ⟨.between, place, reversed⟩ (';' :: text) = .ok ⟨reversed.reverse, place⟩ := by
  have := scan_comment h place reversed []
  rw [List.append_nil] at this
  rw [scan_cons rfl]
  exact this

/-- The lexer goes on from a state and gives the tokens of a layout, in front of those it has. -/
def GivesMarked (s : Scan) (cs : List Char) (hidden : Nat) (ps : List Laid) : Prop :=
  ∃ ts stop, scan s cs = .ok ⟨s.reversed.reverse ++ ts, stop⟩ ∧ Marked hidden ps ts

theorem GivesMarked.cons {place place' : Place} {reversed : List Located} {cs rest : List Char}
    {hidden : Nat} {p : Laid} {ps : List Laid}
    (hscan : scan ⟨.between, place, reversed⟩ cs =
      scan ⟨.between, place', ⟨p.token, place⟩ :: reversed⟩ rest)
    (hm : Marks hidden p.before place)
    (h : GivesMarked ⟨.between, place', ⟨p.token, place⟩ :: reversed⟩ rest
      (hidden + p.chars.count '\n') ps) :
    GivesMarked ⟨.between, place, reversed⟩ cs hidden (p :: ps) := by
  obtain ⟨ts, stop, hrest, hts⟩ := h
  refine ⟨⟨p.token, place⟩ :: ts, stop, ?_, .cons rfl hm hts⟩
  rw [hscan, hrest, List.reverse_cons, List.append_assoc]
  rfl

/-- The lexer gives the tokens of a layout, whatever it has given before. -/
theorem givesMarked_of_lays {before cs : List Char} {ps : List Laid} (h : Lays before cs ps)
    {hidden : Nat} {place : Place} (hm : Marks hidden before place) (reversed : List Located) :
    GivesMarked ⟨.between, place, reversed⟩ cs hidden ps := by
  induction h generalizing hidden place reversed with
  | done => exact ⟨[], place, by rw [List.append_nil]; rfl, .nil⟩
  | @blank before cs ps c blank rest ih =>
    rw [GivesMarked, scan_blank blank]
    split
    · next hc =>
      subst hc
      exact ih hm.newline reversed
    · next hc =>
      have hcount : [c].count '\n' = 0 := List.count_eq_zero.2 (by simpa using Ne.symm hc)
      have := hm.ahead [c]
      rw [hcount] at this
      exact ih this reversed
  | comment line rest ih =>
    rw [GivesMarked, scan_between_comment line]
    exact ih (hm.comment line) reversed
  | lastComment line =>
    exact ⟨[], place, by rw [scan_lastComment line, List.append_nil], .nil⟩
  | mark mark rest ih =>
    exact .cons (scan_cons (step_mark mark place reversed) _) hm (ih (hm.ahead _) _)
  | word ne_nil isWordChar token ends rest ih =>
    exact .cons (scan_between_word ne_nil isWordChar token ends place reversed) hm (ih (hm.ahead _) _)
  | @literal before cs ps text chars spelled rest ih =>
    have hlength : chars.length + 2 = ('"' :: (chars ++ ['"'])).length := by simp
    have hscan := scan_between_literal spelled cs place reversed
    rw [hlength] at hscan
    exact .cons hscan hm (ih (hm.ahead _) _)

/-- The lexer gives the tokens of a layout. -/
theorem lex_of_lays {cs : List Char} {ps : List Laid} (h : Lays [] cs ps) :
    ∃ lexed, lex cs = .ok lexed ∧ Marked 0 ps lexed.tokens := by
  obtain ⟨ts, stop, hscan, hts⟩ := givesMarked_of_lays h .first []
  exact ⟨⟨ts, stop⟩, hscan, hts⟩

/-! ### Annotations that can be lexed -/

/-- A text between quotes ends somewhere. -/
theorem exists_spelled {start : Place} {reversed : List Located} {lexed : Lexed} :
    ∀ {cs before : List Char} {place : Place},
      scan ⟨.literal start before, place, reversed⟩ cs = .ok lexed →
        ∃ text chars rest, Spelled text chars ∧ cs = chars ++ '"' :: rest
  | [], _, _, h => nomatch h
  | c :: cs, before, place, h => by
    by_cases hquote : c = '"'
    · exact ⟨[], [], cs, .nil, by rw [hquote]; rfl⟩
    by_cases hbackslash : c = '\\'
    · subst hbackslash
      cases cs with
      | nil => nomatch h
      | cons d cs =>
        have hrest : scan ⟨.literal start (unescape d :: before), place.next.next, reversed⟩ cs =
            .ok lexed := h
        obtain ⟨text, chars, rest, hspelled, rfl⟩ := exists_spelled hrest
        exact ⟨_, '\\' :: d :: chars, rest, .escaped hspelled, rfl⟩
    by_cases hnewline : c = '\n'
    · subst hnewline
      nomatch h
    · have hs : step ⟨.literal start before, place, reversed⟩ c =
          .ok ⟨.literal start (c :: before), place.next, reversed⟩ := by
        simp only [step, if_neg hquote, if_neg hbackslash, if_neg hnewline]
      rw [scan_cons hs] at h
      obtain ⟨text, chars, rest, hspelled, rfl⟩ := exists_spelled h
      exact ⟨c :: text, c :: chars, rest, .raw hquote hbackslash hnewline hspelled, rfl⟩

/-- A word goes on to some place. -/
theorem exists_word {c : Char} (hc : Text.isWordChar c = true) (cs : List Char) :
    ∃ word rest, c :: cs = word ++ rest ∧ word ≠ [] ∧ (∀ d ∈ word, Text.isWordChar d = true) ∧
      EndsWord rest := by
  refine ⟨(c :: cs).takeWhile Text.isWordChar, (c :: cs).dropWhile Text.isWordChar,
    List.takeWhile_append_dropWhile.symm, ?_, List.all_eq_true.1 List.all_takeWhile, ?_⟩
  · rw [List.takeWhile_cons_of_pos hc]
    exact List.cons_ne_nil _ _
  · intro d hd
    have := List.head?_dropWhile_not Text.isWordChar (c :: cs)
    rw [hd] at this
    simpa using this

theorem not_scan_stray {c : Char} {cs : List Char} {place : Place} {reversed : List Located} {lexed : Lexed}
    (hblank : Text.isBlank c = false) (hcomment : c ≠ ';') (hquote : c ≠ '"')
    (hword : Text.isWordChar c = false) (hmark : Token.ofMark? c = none) :
    scan ⟨.between, place, reversed⟩ (c :: cs) ≠ .ok lexed := by
  have hnewline : c ≠ '\n' := by
    rintro rfl
    exact absurd hblank (by decide)
  have hs : beginWith place reversed c = .error ⟨place, .strayCharacter c⟩ := by
    rw [beginWith, if_neg hnewline, if_neg (by simp [hblank]), if_neg hcomment, if_neg hquote,
      if_neg (by simp [hword]), hmark]
  have : scan ⟨.between, place, reversed⟩ (c :: cs) = .error ⟨place, .strayCharacter c⟩ := by
    rw [scan, List.foldlM_cons, step, hs]
    rfl
  rw [this]
  intro h
  cases h

/-- What can be lexed from a place between two tokens on is laid out, whatever comes before it. -/
theorem exists_lays_of_scan {cs : List Char} {place : Place} {reversed : List Located} {lexed : Lexed}
    (h : scan ⟨.between, place, reversed⟩ cs = .ok lexed) (before : List Char) :
    ∃ ps, Lays before cs ps := by
  induction hn : cs.length using Nat.strongRecOn generalizing cs place reversed before with
  | ind n ih =>
    subst hn
    cases cs with
    | nil => exact ⟨[], .done⟩
    | cons c cs =>
      by_cases hblank : Text.isBlank c = true
      · rw [scan_blank hblank] at h
        obtain ⟨ps, hps⟩ := ih _ (Nat.lt_succ_self _) h (before ++ [c]) rfl
        exact ⟨ps, .blank hblank hps⟩
      by_cases hcomment : c = ';'
      · subst hcomment
        by_cases hmem : '\n' ∈ cs
        · obtain ⟨text, rest, rfl, htext⟩ := List.eq_append_cons_of_mem hmem
          rw [scan_between_comment htext] at h
          obtain ⟨ps, hps⟩ := ih _ (by simp; omega) h (before ++ ';' :: (text ++ ['\n'])) rfl
          exact ⟨ps, .comment htext hps⟩
        · exact ⟨[], .lastComment hmem⟩
      by_cases hquote : c = '"'
      · subst hquote
        have hliteral : scan ⟨.literal place [], place.next, reversed⟩ cs = .ok lexed := h
        obtain ⟨text, chars, rest, hspelled, rfl⟩ := exists_spelled hliteral
        rw [scan_between_literal hspelled] at h
        obtain ⟨ps, hps⟩ := ih _ (by simp; omega) h (before ++ '"' :: (chars ++ ['"'])) rfl
        exact ⟨_, .literal hspelled hps⟩
      by_cases hword : Text.isWordChar c = true
      · obtain ⟨word, rest, hcs, hne, hchars, hends⟩ := exists_word hword cs
        rw [hcs] at h
        cases htoken : wordToken word with
        | error defect =>
          rw [scan_of_wordToken_error hne hchars htoken hends] at h
          cases h
        | ok t =>
          rw [scan_between_word hne hchars htoken hends] at h
          have hlength : rest.length < (c :: cs).length := by
            have := List.length_pos_iff.2 hne
            rw [hcs, List.length_append]
            omega
          obtain ⟨ps, hps⟩ := ih _ hlength h (before ++ word) rfl
          rw [hcs]
          exact ⟨_, .word hne hchars htoken hends hps⟩
      cases hmark : Token.ofMark? c with
      | none => exact absurd h (not_scan_stray (by simpa using hblank) hcomment hquote (by simpa using hword) hmark)
      | some t =>
        rw [scan_cons (step_mark hmark place reversed)] at h
        obtain ⟨ps, hps⟩ := ih _ (Nat.lt_succ_self _) h (before ++ [c]) rfl
        exact ⟨_, .mark hmark hps⟩

theorem exists_lays {cs : List Char} {lexed : Lexed} (h : lex cs = .ok lexed) : ∃ ps, Lays [] cs ps :=
  exists_lays_of_scan h []

end ParserConformance.Annotation
