import ParserConformance.Corpus.Format
import ParserConformance.Proofs.Annotation.Layout
import ParserConformance.Proofs.Annotation.Recognition

/-!
# Where faults of annotations lie

A reader that finds something wrong stands at some token, or at the end of the annotation, and its
fault has the place and the name of just that token (`Fault.IsAt`). So a fault is as true as the places
of the tokens are, which the layout of the annotation tells.

The lexer does not count the newlines in texts between quotes. A fault that has such a newline before it
is on a line too early, by as many lines as there are such newlines. It never is outside of the
annotation, though: the lexer keeps all places within the lines that it has come to.

## Main statements
- `Annotation.lex_places`: what the places of tokens and faults say about where these are.
- `Annotation.read_within`: whatever is wrong with an annotation is on one of its lines.
-/

namespace ParserConformance

theorem Corpus.readAnnotation_of_read {f : Fixture} {fault : Annotation.Fault}
    (h : Annotation.read f.expected = .error fault) :
    f.readAnnotation = .error (f.faultText fault) := by
  unfold Fixture.readAnnotation
  rw [h]

namespace Annotation

/-! ### Outcomes -/

/-- What comes out is as `Good` says, or a fault as `Bad` says. -/
def Yields {α : Type} (Good : α → Prop) (Bad : Fault → Prop) : Except Fault α → Prop
  | .ok a => Good a
  | .error fault => Bad fault

theorem Yields.bind {α β : Type} {Good : α → Prop} {Good' : β → Prop} {Bad : Fault → Prop}
    {x : Except Fault α} {f : α → Except Fault β} (hx : Yields Good Bad x)
    (hf : ∀ a, Good a → Yields Good' Bad (f a)) : Yields Good' Bad (x >>= f) := by
  cases x with
  | ok a => exact hf a hx
  | error fault => exact hx

theorem Yields.imp {α : Type} {Good Good' : α → Prop} {Bad Bad' : Fault → Prop} {x : Except Fault α}
    (h : Yields Good Bad x) (hgood : ∀ a, Good a → Good' a) (hbad : ∀ fault, Bad fault → Bad' fault) :
    Yields Good' Bad' x := by
  cases x with
  | ok a => exact hgood a h
  | error fault => exact hbad fault h

/-! ### Faults at tokens -/

/-- The token that a defect says was found, or `none` for the end, if it says what was found. -/
def Defect.found? : Defect → Option (Option Token)
  | .trailing token => some (some token)
  | .unexpected _ found => some found
  | .unterminatedText | .numberTooLarge _ | .strayCharacter _ | .empty | .tooDeep _ => none

/-- A fault stands at the first of the tokens that are left, or at the end if none is left. -/
structure Fault.IsAt (fault : Fault) (stop : Place) (rest : List Located) : Prop where
  /-- It has the place of the token. -/
  place : fault.place = placeOf stop rest
  /-- It names the token, if it says what was found. -/
  found : ∀ token, fault.defect.found? = some token → token = Annotation.found rest

theorem Fault.IsAt.of_found?_eq_none {fault : Fault} {stop : Place} {rest : List Located}
    (hplace : fault.place = placeOf stop rest) (hnone : fault.defect.found? = none) :
    fault.IsAt stop rest := by
  refine ⟨hplace, fun token htoken => ?_⟩
  rw [hnone] at htoken
  cases htoken

/-- A fault stands at one of the tokens or at the end. -/
def Fault.IsAmong (fault : Fault) (stop : Place) (located : List Located) : Prop :=
  ∃ rest, rest <:+ located ∧ fault.IsAt stop rest

variable {stop : Place}

theorem unexpected_isAt (stop : Place) (wanted : Wanted) (located : List Located) :
    (unexpected stop wanted located).IsAt stop located :=
  ⟨rfl, fun _ h => (Option.some.inj h).symm⟩

/-- A reader leaves a part of the tokens that it was given, or is at fault among these. -/
def StaysIn {α : Type} {p : List Located → Prop} (stop : Place) (located : List Located) :
    Except Fault (α × { rest // p rest }) → Prop :=
  Yields (fun r => r.2.1 <:+ located) (·.IsAmong stop located)

namespace StaysIn

variable {α β : Type} {p q : List Located → Prop} {located rest : List Located}

theorem ok (h : rest <:+ located) (a : α) (hp : p rest) :
    StaysIn stop located (.ok (a, ⟨rest, hp⟩)) := h

theorem error {fault : Fault} (h : fault.IsAt stop located) :
    StaysIn stop located (.error fault : Except Fault (α × { rest // p rest })) :=
  ⟨located, List.suffix_rfl, h⟩

theorem mono {x : Except Fault (α × { rest // p rest })} (h : StaysIn stop rest x)
    (hs : rest <:+ located) : StaysIn stop located x := by
  refine h.imp (fun r hr => hr.trans hs) ?_
  rintro fault ⟨rest', hrest', hat⟩
  exact ⟨rest', hrest'.trans hs, hat⟩

theorem bind {x : Except Fault (α × { rest // p rest })}
    {f : α × { rest // p rest } → Except Fault (β × { rest // q rest })} (hx : StaysIn stop located x)
    (hf : ∀ a rest hp, StaysIn stop rest (f (a, ⟨rest, hp⟩))) : StaysIn stop located (x >>= f) :=
  Yields.bind hx fun ⟨a, rest, hp⟩ hs => (hf a rest hp).mono hs

end StaysIn

/-! ### Each reader -/

section

variable (located : List Located)

theorem staysIn_expect (token : Token) (wanted : Wanted) :
    StaysIn stop located (expect stop token wanted located) := by
  cases located with
  | nil => exact .error (unexpected_isAt ..)
  | cons t ts =>
    rw [expect]
    split
    · exact .ok (List.suffix_cons t ts) () _
    · exact .error (unexpected_isAt ..)

theorem staysIn_readNumber : StaysIn stop located (readNumber stop located) := by
  unfold readNumber
  split
  · exact .ok (List.suffix_cons ..) _ _
  · exact .error (unexpected_isAt ..)

theorem staysIn_readKind : StaysIn stop located (readKind stop located) := by
  unfold readKind
  split
  · exact .ok (List.suffix_cons ..) _ _
  · exact .error (unexpected_isAt ..)

theorem staysIn_readPoint : StaysIn stop located (readPoint stop located) :=
  .bind (staysIn_expect located _ _) fun _ ts₁ _ => .bind (staysIn_readNumber ts₁) fun _ ts₂ _ =>
    .bind (staysIn_expect ts₂ _ _) fun _ ts₃ _ => .bind (staysIn_readNumber ts₃) fun _ ts₄ _ =>
      .bind (staysIn_expect ts₄ _ _) fun _ _ _ => .ok List.suffix_rfl _ _

theorem staysIn_readSpan : StaysIn stop located (readSpan stop located) := by
  rw [readSpan]
  split
  · exact .bind (staysIn_readPoint located) fun _ ts₁ _ => .bind (staysIn_expect ts₁ _ _) fun _ ts₂ _ =>
      .bind (staysIn_readPoint ts₂) fun _ _ _ => .ok List.suffix_rfl _ _
  · exact .ok List.suffix_rfl _ _

theorem suffix_readMissingKind : (readMissingKind located).2.1 <:+ located := by
  unfold readMissingKind
  split
  · exact List.suffix_cons ..
  · exact List.suffix_cons ..
  · exact List.suffix_rfl

theorem suffix_of_readLabel {located rest : List Located} {field : Option String}
    {h : rest.length ≤ located.length} (hr : readLabel located = (field, ⟨rest, h⟩)) :
    rest <:+ located := by
  unfold readLabel at hr
  split at hr
  · cases hr
    exact (List.suffix_cons ..).trans (List.suffix_cons ..)
  · cases hr
    exact List.suffix_rfl

end

section

variable {reader : (ts : List Located) → Advance Outline ts}

theorem staysIn_readSlots (hreader : ∀ located, StaysIn stop located (reader located))
    (located : List Located) : StaysIn stop located (readSlots reader stop located) := by
  fun_induction readSlots reader stop located with
  | case1 => exact .ok List.suffix_rfl _ _
  | case2 => exact .error (unexpected_isAt ..)
  | case3 ts _ field ts₁ _ hlabel _ fault htree =>
    have := hreader ts₁
    rw [htree] at this
    exact this.mono (suffix_of_readLabel hlabel)
  | case4 ts _ field ts₁ _ hlabel _ tree ts₂ _ htree fault hslots ih =>
    have := hreader ts₁
    rw [htree] at this
    rw [hslots] at ih
    exact (ih.mono this).mono (suffix_of_readLabel hlabel)
  | case5 ts _ field ts₁ _ hlabel _ tree ts₂ _ htree slots ts₃ _ hslots ih =>
    have := hreader ts₁
    rw [htree] at this
    rw [hslots] at ih
    exact (ih.mono this).mono (suffix_of_readLabel hlabel)

theorem staysIn_readBody (hreader : ∀ located, StaysIn stop located (reader located)) (kind : String)
    (located : List Located) : StaysIn stop located (readBody reader stop kind located) := by
  rw [readBody]
  split
  · have hs := suffix_readMissingKind located
    exact StaysIn.mono (.bind (staysIn_readSpan _) fun _ _ _ => .ok List.suffix_rfl _ _) hs
  · exact .bind (staysIn_readSpan located) fun _ ts₁ _ =>
      .bind (staysIn_readSlots hreader ts₁) fun _ _ _ => .ok List.suffix_rfl _ _

theorem staysIn_readTree (limit budget : Nat) (located : List Located) :
    StaysIn stop located (readTree stop limit budget located) := by
  induction budget generalizing located with
  | zero => exact .error (.of_found?_eq_none rfl rfl)
  | succ budget ih =>
    exact .bind (staysIn_expect located _ _) fun _ ts₁ _ => .bind (staysIn_readKind ts₁) fun _ ts₂ _ =>
      .bind (staysIn_readBody ih _ ts₂) fun _ ts₃ _ => .bind (staysIn_expect ts₃ _ _) fun _ _ _ =>
        .ok List.suffix_rfl _ _

end

/-- If tokens are not those of one tree, this is noticed at one of them or at the end. -/
theorem isAmong_of_readTokens {lexed : Lexed} {fault : Fault} (h : readTokens lexed = .error fault) :
    fault.IsAmong lexed.stop lexed.tokens := by
  have htree : StaysIn lexed.stop lexed.tokens
      (readTree lexed.stop depthLimit depthLimit lexed.tokens) := staysIn_readTree ..
  rw [readTokens] at h
  split at h
  · next hempty =>
    cases h
    exact ⟨[], List.nil_suffix, .of_found?_eq_none rfl rfl⟩
  · split at h
    · next hread =>
      rw [hread] at htree
      cases h
      exact htree
    · cases h
    · next t ts _ hread =>
      rw [hread] at htree
      cases h
      exact ⟨t :: ts, htree, rfl, fun _ hfound => (Option.some.inj hfound).symm⟩

theorem Fault.IsAt.of_getElem? {fault : Fault} {located : List Located} {i : Nat} {t : Located}
    (h : fault.IsAt stop (located.drop i)) (ht : located[i]? = some t) :
    fault.place = t.place ∧ ∀ token, fault.defect.found? = some token → token = some t.token := by
  obtain ⟨hi, rfl⟩ := List.getElem?_eq_some_iff.1 ht
  rw [List.drop_eq_getElem_cons hi] at h
  exact ⟨h.place, h.found⟩

/-! ### Lines of the annotation -/

/-- A place on one of the lines of a text with `n` newlines. -/
def Place.Within (n : Nat) (place : Place) : Prop := 1 ≤ place.line ∧ place.line ≤ n + 1

theorem Place.Within.mono {n m : Nat} {place : Place} (h : place.Within n) (hle : n ≤ m) :
    place.Within m := ⟨h.1, h.2.trans (Nat.succ_le_succ hle)⟩

/-- Where the piece began that is being read, if the lexer remembers it. -/
def Mode.start? : Mode → Option Place
  | .between | .comment => none
  | .word start _ | .literal start _ | .escaped start _ => some start

/-- All places that the lexer has are on the lines of a text with `n` newlines. -/
structure Scan.Within (n : Nat) (s : Scan) : Prop where
  /-- The place of the next character. -/
  place : s.place.Within n
  /-- Where the piece that is being read began. -/
  start : ∀ start, s.mode.start? = some start → start.Within n
  /-- The places of the tokens. -/
  tokens : ∀ t ∈ s.reversed, t.place.Within n

theorem Scan.Within.of_start?_eq_none {n : Nat} {mode : Mode} {place : Place} {reversed : List Located}
    (hnone : mode.start? = none) (hplace : place.Within n) (h : ∀ t ∈ reversed, t.place.Within n) :
    Scan.Within n ⟨mode, place, reversed⟩ := by
  refine ⟨hplace, fun start hstart => ?_, h⟩
  rw [hnone] at hstart
  cases hstart

theorem Scan.Within.mono {n m : Nat} {s : Scan} (h : s.Within n) (hle : n ≤ m) : s.Within m :=
  ⟨h.place.mono hle, fun start hstart => (h.start start hstart).mono hle,
    fun t ht => (h.tokens t ht).mono hle⟩

/-- The lexer comes to something good, or it is at fault on a line of a text with `n` newlines. -/
abbrev Lands {α : Type} (n : Nat) (Good : α → Prop) (x : Except Fault α) : Prop :=
  Yields Good (·.place.Within n) x

theorem closeWord_within {n : Nat} {start : Place} {reversed : List Located} (hstart : start.Within n)
    (h : ∀ t ∈ reversed, t.place.Within n) (word : List Char) :
    Lands n (fun ts => ∀ t ∈ ts, t.place.Within n) (closeWord start word reversed) := by
  rw [closeWord]
  split
  · exact List.forall_mem_cons.2 ⟨hstart, h⟩
  · exact hstart

theorem beginWith_within {n : Nat} {place : Place} {reversed : List Located} (hplace : place.Within n)
    (h : ∀ t ∈ reversed, t.place.Within n) (c : Char) :
    Lands (n + [c].count '\n') (Scan.Within (n + [c].count '\n')) (beginWith place reversed c) := by
  have hle : n ≤ n + [c].count '\n' := Nat.le_add_right ..
  rw [beginWith]
  split
  · next hc =>
    subst hc
    exact .of_start?_eq_none rfl ⟨Nat.le_add_left .., Nat.succ_le_succ hplace.2⟩
      fun t ht => (h t ht).mono hle
  have hbetween : ∀ ts : List Located, (∀ t ∈ ts, t.place.Within n) →
      Scan.Within n ⟨.between, place.next, ts⟩ := fun ts hts => .of_start?_eq_none rfl hplace hts
  have hbegun : ∀ mode : Mode, mode.start? = some place → Scan.Within n ⟨mode, place.next, reversed⟩ :=
    fun mode hmode => ⟨hplace, fun start hstart => Option.some.inj (hmode.symm.trans hstart) ▸ hplace, h⟩
  split
  · exact (hbetween _ h).mono hle
  split
  · exact Scan.Within.mono (.of_start?_eq_none rfl hplace h) hle
  split
  · exact (hbegun _ rfl).mono hle
  split
  · exact (hbegun _ rfl).mono hle
  split
  · exact (hbetween _ (List.forall_mem_cons.2 ⟨hplace, h⟩)).mono hle
  · exact hplace.mono hle

/-- What one more character does keeps all places on the lines that there have been. -/
theorem step_within {n : Nat} {s : Scan} (h : s.Within n) (c : Char) :
    Lands (n + [c].count '\n') (Scan.Within (n + [c].count '\n')) (step s c) := by
  have hle : n ≤ n + [c].count '\n' := Nat.le_add_right ..
  obtain ⟨mode, place, reversed⟩ := s
  obtain ⟨hplace, hstart, htokens⟩ := h
  cases mode with
  | between => exact beginWith_within hplace htokens c
  | comment =>
    simp only [step]
    split
    · exact beginWith_within hplace htokens c
    · exact Scan.Within.mono ⟨hplace, hstart, htokens⟩ hle
  | word start word =>
    simp only [step]
    split
    · exact Scan.Within.mono ⟨hplace, hstart, htokens⟩ hle
    · have hclose := closeWord_within (hstart start rfl) htokens word
      exact (hclose.imp (fun _ => id) fun _ hfault => hfault.mono hle).bind
        fun ts hts => beginWith_within hplace hts c
  | literal start text =>
    simp only [step]
    split
    · refine Scan.Within.mono (.of_start?_eq_none rfl hplace ?_) hle
      exact List.forall_mem_cons.2 ⟨hstart start rfl, htokens⟩
    split
    · exact Scan.Within.mono ⟨hplace, hstart, htokens⟩ hle
    split
    · exact (hstart start rfl).mono hle
    · exact Scan.Within.mono ⟨hplace, hstart, htokens⟩ hle
  | escaped start text =>
    -- a newline here is not counted, so the place stays on a line that there has been
    exact Scan.Within.mono ⟨hplace, hstart, htokens⟩ hle

/-- The tokens and the end are on the lines of a text with `n` newlines. -/
structure Lexed.Within (n : Nat) (lexed : Lexed) : Prop where
  /-- The end. -/
  stop : lexed.stop.Within n
  /-- The tokens. -/
  tokens : ∀ t ∈ lexed.tokens, t.place.Within n

theorem finish_within {n : Nat} {s : Scan} (h : s.Within n) : Lands n (Lexed.Within n) s.finish := by
  obtain ⟨mode, place, reversed⟩ := s
  obtain ⟨hplace, hstart, htokens⟩ := h
  have hreverse : ∀ ts : List Located, (∀ t ∈ ts, t.place.Within n) → ∀ t ∈ ts.reverse, t.place.Within n :=
    fun ts hts t ht => hts t (List.mem_reverse.1 ht)
  cases mode with
  | between => exact ⟨hplace, hreverse _ htokens⟩
  | comment => exact ⟨hplace, hreverse _ htokens⟩
  | word start word =>
    exact (closeWord_within (hstart start rfl) htokens word).bind fun ts hts => ⟨hplace, hreverse ts hts⟩
  | literal start text => exact hstart start rfl
  | escaped start text => exact hstart start rfl

/-- What is lexed from a state on has all its places on the lines that there have been and that come. -/
theorem scan_within {n : Nat} {s : Scan} (h : s.Within n) (cs : List Char) :
    Lands (n + cs.count '\n') (Lexed.Within (n + cs.count '\n')) (scan s cs) := by
  induction cs generalizing n s with
  | nil => exact finish_within h
  | cons c cs ih =>
    have hcount : n + (c :: cs).count '\n' = n + [c].count '\n' + cs.count '\n' := by
      rw [List.count_cons, List.count_singleton]
      omega
    rw [hcount, scan, List.foldlM_cons, bind_assoc]
    refine ((step_within h c).imp (fun _ => id) fun _ hfault => ?_).bind fun s' hs' => ih hs'
    exact hfault.mono (Nat.le_add_right ..)

/-- **Whatever is wrong with an annotation is on one of its lines.** -/
theorem read_within {text : String} {fault : Fault} (h : read text = .error fault) :
    fault.place.Within (text.toList.count '\n') := by
  have hinitial : Scan.initial.Within 0 :=
    .of_start?_eq_none rfl ⟨Nat.le_refl _, Nat.le_refl _⟩ (List.forall_mem_nil _)
  have hlex := scan_within hinitial text.toList
  rw [Nat.zero_add] at hlex
  have hread : Lands (text.toList.count '\n') (fun _ => True) (read text) := by
    refine Yields.bind hlex fun lexed hlexed => ?_
    cases htokens : readTokens lexed with
    | ok t => exact trivial
    | error fault =>
      obtain ⟨rest, hrest, hat⟩ := isAmong_of_readTokens htokens
      rw [Yields, hat.place]
      cases rest with
      | nil => exact hlexed.stop
      | cons t ts => exact hlexed.tokens t (hrest.subset List.mem_cons_self)
  rwa [h] at hread

/-! ### True places -/

/-- **The place of a token is its true place if no text between quotes before it has a newline**; else
its line is too early by the number of these newlines. A fault of the reader stands at a token or at
the end, and the line of the corpus file that it is said to be on is right in the same cases. -/
theorem lex_places {f : Corpus.Fixture} {lexed : Lexed} (h : lex f.expected.toList = .ok lexed) :
    (∃ ps, Lays [] f.expected.toList ps) ∧ ∀ ps, Lays [] f.expected.toList ps →
      lexed.tokens.map Located.token = ps.map Laid.token ∧
      (∀ p ∈ ps, ∃ after, f.expected.toList = p.before ++ p.chars ++ after) ∧
      (∀ i t p, lexed.tokens[i]? = some t → ps[i]? = some p →
        t.place.line + newlinesIn (ps.take i) = (Place.after p.before).line ∧
          (t.place = Place.after p.before ↔ newlinesIn (ps.take i) = 0)) ∧
      ∀ fault, read f.expected = .error fault → f.readAnnotation = .error (f.faultText fault) ∧
        ∃ i, fault.IsAt lexed.stop (lexed.tokens.drop i) ∧ ∀ p, ps[i]? = some p →
          (∀ token, fault.defect.found? = some token → token = some p.token) ∧
          (fault.place = Place.after p.before ↔ newlinesIn (ps.take i) = 0) ∧
          f.expectedLine + fault.place.line - 1 + newlinesIn (ps.take i) =
            f.expectedLine + p.before.count '\n' := by
  refine ⟨exists_lays h, fun ps hps => ?_⟩
  obtain ⟨lexed', hlexed, hmarked⟩ := lex_of_lays hps
  obtain rfl : lexed = lexed' := Except.ok.inj (h.symm.trans hlexed)
  have hmarks : ∀ i t p, lexed.tokens[i]? = some t → ps[i]? = some p →
      Marks (newlinesIn (ps.take i)) p.before t.place := by
    intro i t p ht hp
    have := hmarked.marks hp ht
    rwa [Nat.zero_add] at this
  refine ⟨hmarked.map_token, fun p hp => hps.exists_after hp,
    fun i t p ht hp => ⟨(hmarks i t p ht hp).line, (hmarks i t p ht hp).eq_after_iff⟩, ?_⟩
  intro fault hfault
  have hread : readTokens lexed = .error fault := (read_of_lex h).symm.trans hfault
  obtain ⟨rest, hrest, hat⟩ := isAmong_of_readTokens hread
  rw [List.suffix_iff_eq_drop] at hrest
  generalize lexed.tokens.length - rest.length = i at hrest
  subst hrest
  refine ⟨Corpus.readAnnotation_of_read hfault, i, hat, fun p hp => ?_⟩
  obtain ⟨t, ht, htoken⟩ := hmarked.getElem? hp
  obtain ⟨hplace, hfound⟩ := hat.of_getElem? ht
  have hm := hmarks i t p ht hp
  refine ⟨fun token htok => htoken ▸ hfound token htok, hplace ▸ hm.eq_after_iff, ?_⟩
  have hline := hm.line
  have := (read_within hfault).1
  simp only [hplace, Place.after] at hline this ⊢
  omega

/-- A fixture that expects what an annotation writes. -/
def expecting (text : String) : Corpus.Fixture :=
  ⟨"brackets", "]", text, 7, ⟨false, false⟩, ⟨⟨"brackets.txt"⟩, 1⟩, none⟩

/-- An annotation with a comment, and with the wrong bracket at its end. -/
def noted : String := ";c\n(a \"\\\"\" ]"

/-- How it is laid out. -/
def notedTokens : List Laid :=
  [⟨.opening, [';', 'c', '\n'], ['(']⟩,
    ⟨.word "a", [';', 'c', '\n', '('], ['a']⟩,
    ⟨.literal "\"", [';', 'c', '\n', '(', 'a', ' '], ['"', '\\', '"', '"']⟩,
    ⟨.closeBracket, [';', 'c', '\n', '(', 'a', ' ', '"', '\\', '"', '"', ' '], [']']⟩]

theorem lays_noted : Lays [] noted.toList notedTokens := by
  have hchars : noted.toList = [';', 'c', '\n', '(', 'a', ' ', '"', '\\', '"', '"', ' ', ']'] := by
    decide +kernel
  have hblank : Text.isBlank ' ' = true := by decide
  have hword : ∀ c ∈ ['a'], Text.isWordChar c = true := List.forall_mem_singleton.2 (by decide)
  have hspace : EndsWord [' ', '"', '\\', '"', '"', ' ', ']'] := endsWord_cons (by decide) _
  rw [hchars, notedTokens]
  refine @Lays.comment _ _ _ ['c'] (by decide) (.mark rfl ?_)
  refine @Lays.word _ _ _ ['a'] _ (by decide) hword (by decide) hspace ?_
  refine .blank hblank ?_
  refine @Lays.literal _ [' ', ']'] _ ['"'] ['\\', '"'] (.escaped (c := '"') .nil) ?_
  exact .blank hblank (.mark rfl .done)

/-- The lexer has the true places of its tokens. -/
theorem lex_places_noted : ∃ lexed, lex (expecting noted).expected.toList = .ok lexed ∧
    lexed.tokens.map Located.token = notedTokens.map Laid.token ∧
    ∀ (i : Nat) t p, lexed.tokens[i]? = some t → notedTokens[i]? = some p → t.place = Place.after p.before := by
  obtain ⟨lexed, h, -⟩ := lex_of_lays lays_noted
  obtain ⟨htokens, -, hplaces, -⟩ := (lex_places (f := expecting noted) h).2 notedTokens lays_noted
  have hnone : ∀ i, newlinesIn (notedTokens.take i) = 0 := by
    intro i
    match i with
    | 0 | 1 | 2 | 3 => decide
    | i + 4 =>
      rw [List.take_of_length_le (Nat.le_add_left 4 i)]
      decide
  exact ⟨lexed, h, htokens, fun i t p ht hp => (hplaces i t p ht hp).2.2 (hnone i)⟩

/-- An annotation with a newline between quotes, and with the wrong bracket at its end. -/
def brokenText : String := "(MISSING \"\\\n\" ]"

/-- Its bracket is on the second line, but is reported on the first one. -/
theorem lex_places_brokenText :
    brokenText.toList = "(MISSING \"\\\n\" ".toList ++ [']'] ∧
      Place.after "(MISSING \"\\\n\" ".toList = ⟨2, 3⟩ ∧
      lex brokenText.toList = .ok ⟨[⟨.opening, ⟨1, 1⟩⟩, ⟨.word "MISSING", ⟨1, 2⟩⟩,
        ⟨.literal "\n", ⟨1, 10⟩⟩, ⟨.closeBracket, ⟨1, 15⟩⟩], ⟨1, 16⟩⟩ ∧
      read brokenText = .error ⟨⟨1, 15⟩, .unexpected .closing (some .closeBracket)⟩ ∧
      Corpus.Fixture.readAnnotation (expecting brokenText) =
        .error "expected tree at brackets.txt:7: line 1, column 15: expected ')', got ']'" := by
  have hlex : lex brokenText.toList = .ok ⟨[⟨.opening, ⟨1, 1⟩⟩, ⟨.word "MISSING", ⟨1, 2⟩⟩,
      ⟨.literal "\n", ⟨1, 10⟩⟩, ⟨.closeBracket, ⟨1, 15⟩⟩], ⟨1, 16⟩⟩ := by decide +kernel
  have hread : read brokenText = .error ⟨⟨1, 15⟩, .unexpected .closing (some .closeBracket)⟩ := by
    rw [read_of_lex hlex]
    rfl
  refine ⟨by decide +kernel, by decide +kernel, hlex, hread, ?_⟩
  rw [Corpus.readAnnotation_of_read (f := expecting brokenText) hread]
  exact congrArg Except.error (by decide +kernel)

end Annotation

end ParserConformance
