import ParserConformance.Proofs.Annotation.Reading

/-!
# What the reader accepts

Each reader takes only the tokens of what it returns, so a tree that is read is written by the
tokens that were taken, and it is not higher than the reader's budget. With the converse this makes
the reader accept just what the grammar derives. As a reader comes to one outcome, the grammar is
unambiguous, and no annotation goes on after another one.

## Main statement
- `Annotation.read_eq_ok_iff_derives`: an annotation is read as the tree that its tokens write, if
  there is one of at most the allowed height, and is at fault else.
-/

namespace ParserConformance.Annotation

open Outline (spanTokens fieldTokens height slotsHeight)

theorem bind_eq_ok_iff {α β : Type} {x : Except Fault α} {f : α → Except Fault β} {b : β} :
    (x >>= f) = .ok b ↔ ∃ a, x = .ok a ∧ f a = .ok b := by
  cases x with
  | error fault => exact iff_of_false nofun (fun ⟨_, h, _⟩ => nomatch h)
  | ok a => exact ⟨fun h => ⟨a, rfl, h⟩, fun ⟨_, h, hf⟩ => Except.ok.inj h ▸ hf⟩

/-! ### Parts of a node -/

section

variable {stop : Place} {located rest : List Located}

theorem begins_of_expect {t : Token} {wanted : Wanted}
    (h : Gives (expect stop t wanted located) () rest) : Begins [t] located rest := by
  obtain ⟨_, h⟩ := h
  cases located with
  | nil => cases h
  | cons a tail =>
    simp only [expect] at h
    split at h
    · next ht =>
      cases h
      exact begins_cons.2 ⟨a.place, _, ht ▸ rfl, begins_nil.2 rfl⟩
    · cases h

theorem begins_of_readNumber {n : Nat} (h : Gives (readNumber stop located) n rest) :
    Begins [.number n] located rest := by
  obtain ⟨_, h⟩ := h
  unfold readNumber at h
  split at h
  · next m place tail =>
    cases h
    exact begins_cons.2 ⟨_, _, rfl, begins_nil.2 rfl⟩
  · cases h

theorem begins_of_readKind {kind : String} (h : Gives (readKind stop located) kind rest) :
    Begins [.word kind] located rest := by
  obtain ⟨_, h⟩ := h
  unfold readKind at h
  split at h
  · next word place tail =>
    cases h
    exact begins_cons.2 ⟨_, _, rfl, begins_nil.2 rfl⟩
  · cases h

theorem begins_of_readPoint {p : Point} (h : Gives (readPoint stop located) p rest) :
    Begins p.tokens located rest := by
  obtain ⟨_, h⟩ := h
  rw [readPoint] at h
  obtain ⟨⟨_, ts₁, _⟩, e₁, h⟩ := bind_eq_ok_iff.1 h
  obtain ⟨⟨row, ts₂, _⟩, e₂, h⟩ := bind_eq_ok_iff.1 h
  obtain ⟨⟨_, ts₃, _⟩, e₃, h⟩ := bind_eq_ok_iff.1 h
  obtain ⟨⟨column, ts₄, _⟩, e₄, h⟩ := bind_eq_ok_iff.1 h
  obtain ⟨⟨_, ts₅, _⟩, e₅, h⟩ := bind_eq_ok_iff.1 h
  cases h
  exact begins_head.2 ⟨ts₁, begins_of_expect ⟨_, e₁⟩, begins_head.2 ⟨ts₂, begins_of_readNumber ⟨_, e₂⟩,
    begins_head.2 ⟨ts₃, begins_of_expect ⟨_, e₃⟩, begins_head.2 ⟨ts₄, begins_of_readNumber ⟨_, e₄⟩,
      begins_of_expect ⟨_, e₅⟩⟩⟩⟩⟩

theorem begins_of_readSpan {span : Option Span} (h : Gives (readSpan stop located) span rest) :
    Begins (spanTokens span) located rest := by
  obtain ⟨_, h⟩ := h
  rw [readSpan] at h
  split at h
  · obtain ⟨⟨start, ts₁, _⟩, e₁, h⟩ := bind_eq_ok_iff.1 h
    obtain ⟨⟨_, ts₂, _⟩, e₂, h⟩ := bind_eq_ok_iff.1 h
    obtain ⟨⟨finish, ts₃, _⟩, e₃, h⟩ := bind_eq_ok_iff.1 h
    cases h
    exact begins_append.2 ⟨ts₁, begins_of_readPoint ⟨_, e₁⟩, begins_head.2 ⟨ts₂,
      begins_of_expect ⟨_, e₂⟩, begins_of_readPoint ⟨_, e₃⟩⟩⟩
  · cases h
    exact begins_nil.2 rfl

theorem begins_of_readLabel {field : Option String} {h : rest.length ≤ located.length}
    (hr : readLabel located = (field, ⟨rest, h⟩)) : Begins (fieldTokens field) located rest := by
  unfold readLabel at hr
  split at hr
  · cases hr
    exact begins_cons.2 ⟨_, _, rfl, begins_cons.2 ⟨_, _, rfl, begins_nil.2 rfl⟩⟩
  · cases hr
    exact begins_nil.2 rfl

theorem begins_of_readMissingKind {kind : Option String} {h : rest.length ≤ located.length}
    (hr : readMissingKind located = (kind, ⟨rest, h⟩)) :
    ∃ ts, DerivesMissingKind ts kind ∧ Begins ts located rest := by
  unfold readMissingKind at hr
  split at hr
  · cases hr
    exact ⟨_, .word _, begins_cons.2 ⟨_, _, rfl, begins_nil.2 rfl⟩⟩
  · cases hr
    exact ⟨_, .literal _, begins_cons.2 ⟨_, _, rfl, begins_nil.2 rfl⟩⟩
  · cases hr
    exact ⟨_, .none, begins_nil.2 rfl⟩

end

/-! ### Trees -/

/-- The reader takes tokens that write the tree it returns, which has at most `budget` levels. -/
def ReadsDerived (reader : (ts : List Located) → Advance Outline ts) (budget : Nat) : Prop :=
  ∀ located t rest, Gives (reader located) t rest →
    ∃ ts, Begins ts located rest ∧ Derives ts t ∧ t.height ≤ budget

variable {stop : Place}

/-- Children are read as what their tokens write, if each tree is. -/
theorem derivesSlots_of_readSlots {reader : (ts : List Located) → Advance Outline ts} {budget : Nat}
    (hreader : ReadsDerived reader budget) {located rest : List Located} {slots : List (Slot Outline)}
    (h : Gives (readSlots reader stop located) slots rest) :
    ∃ ts, Begins ts located rest ∧ DerivesSlots ts slots ∧ slotsHeight slots ≤ budget := by
  obtain ⟨hle, h⟩ := h
  fun_induction readSlots reader stop located generalizing rest slots with
  | case1 ts hclosing =>
    cases h
    exact ⟨[], begins_nil.2 rfl, .nil, Nat.zero_le _⟩
  | case2 => cases h
  | case3 => cases h
  | case4 => cases h
  | case5 ts hclosing field mid h₁ hlabel hstart tree mid' h₂ htree slots' rest' h₃ hslots ih =>
    cases h
    obtain ⟨us, hus, hderives, hheight⟩ := hreader _ _ _ ⟨_, htree⟩
    obtain ⟨vs, hvs, hderives', hheight'⟩ := ih _ hslots
    refine ⟨fieldTokens field ++ us ++ vs, ?_, .cons field hderives hderives',
      Nat.max_le.2 ⟨hheight, hheight'⟩⟩
    exact begins_append.2 ⟨mid', begins_append.2 ⟨mid, begins_of_readLabel hlabel, hus⟩, hvs⟩

/-- What stands between the parentheses of a node is read as what it writes. -/
theorem derives_of_readBody {reader : (ts : List Located) → Advance Outline ts} {budget : Nat}
    (hreader : ReadsDerived reader budget) {kind : String} {located rest : List Located} {t : Outline}
    (h : Gives (readBody reader stop kind located) t rest) :
    ∃ ts, Begins ts located rest ∧ Derives (.opening :: .word kind :: (ts ++ [.closing])) t ∧
      t.height ≤ budget + 1 := by
  obtain ⟨_, h⟩ := h
  rw [readBody] at h
  split at h
  · next hkind =>
    obtain rfl := hkind
    split at h
    next missing ts₁ h₁ hmissing =>
    obtain ⟨⟨span, ts₂, _⟩, hspan, h⟩ := bind_eq_ok_iff.1 h
    cases h
    obtain ⟨us, given, hus⟩ := begins_of_readMissingKind hmissing
    exact ⟨us ++ spanTokens span, begins_append.2 ⟨ts₁, hus, begins_of_readSpan ⟨_, hspan⟩⟩,
      .missing given span, Nat.le_add_left 1 budget⟩
  · next hkind =>
    obtain ⟨⟨span, ts₁, _⟩, hspan, h⟩ := bind_eq_ok_iff.1 h
    obtain ⟨⟨slots, ts₂, _⟩, hslots, h⟩ := bind_eq_ok_iff.1 h
    cases h
    obtain ⟨us, hus, hderives, hheight⟩ := derivesSlots_of_readSlots hreader ⟨_, hslots⟩
    refine ⟨spanTokens span ++ us, begins_append.2 ⟨ts₁, begins_of_readSpan ⟨_, hspan⟩, hus⟩, ?_⟩
    by_cases herror : kind = "ERROR"
    · obtain rfl := herror
      exact ⟨.error span hderives, Nat.succ_le_succ hheight⟩
    · rw [if_neg herror]
      exact ⟨.node herror hkind span hderives, Nat.succ_le_succ hheight⟩

/-- A tree is read as what its tokens write, and it is not higher than the budget. -/
theorem readsDerived_readTree (limit budget : Nat) : ReadsDerived (readTree stop limit budget) budget := by
  induction budget with
  | zero =>
    rintro located t rest ⟨_, h⟩
    cases h
  | succ budget ih =>
    rintro located t rest ⟨_, h⟩
    rw [readTree] at h
    obtain ⟨⟨_, ts₁, _⟩, e₁, h⟩ := bind_eq_ok_iff.1 h
    obtain ⟨⟨kind, ts₂, _⟩, e₂, h⟩ := bind_eq_ok_iff.1 h
    obtain ⟨⟨tree, ts₃, _⟩, e₃, h⟩ := bind_eq_ok_iff.1 h
    obtain ⟨⟨_, ts₄, _⟩, e₄, h⟩ := bind_eq_ok_iff.1 h
    cases h
    obtain ⟨us, hus, hderives, hheight⟩ := derives_of_readBody ih ⟨_, e₃⟩
    refine ⟨_, ?_, hderives, hheight⟩
    exact begins_head.2 ⟨ts₁, begins_of_expect ⟨_, e₁⟩, begins_head.2 ⟨ts₂, begins_of_readKind ⟨_, e₂⟩,
      begins_append.2 ⟨ts₃, hus, begins_of_expect ⟨_, e₄⟩⟩⟩⟩

/-! ### One tree at most -/

theorem Gives.eq_and_eq {α : Type} {p : List Located → Prop}
    {reading : Except Fault (α × {rest // p rest})} {v w : α} {rest rest' : List Located}
    (h : Gives reading v rest) (h' : Gives reading w rest') : v = w ∧ rest = rest' := by
  obtain ⟨_, rfl⟩ := h
  obtain ⟨_, h'⟩ := h'
  cases h'
  exact ⟨rfl, rfl⟩

/-- A token at the start of an annotation, for tokens whose places are of no account. -/
def Token.atFirst (t : Token) : Located := ⟨t, .first⟩

theorem begins_atFirst (ts rest : List Token) :
    Begins ts ((ts ++ rest).map Token.atFirst) (rest.map Token.atFirst) :=
  ⟨ts.map Token.atFirst, by simp [Function.comp_def, Token.atFirst], List.map_append⟩

/-- Tokens begin with those of one tree at most. -/
theorem Derives.append_inj {ts us rest rest' : List Token} {t u : Outline} (h : Derives ts t)
    (h' : Derives us u) (he : ts ++ rest = us ++ rest') : ts = us ∧ t = u := by
  have ht := h.readTree .first depthLimit (Nat.le_max_left t.height u.height) (begins_atFirst ts rest)
  have hu := h'.readTree .first depthLimit (Nat.le_max_right t.height u.height)
    (begins_atFirst us rest')
  rw [he] at ht
  obtain ⟨htree, hrest⟩ := ht.eq_and_eq hu
  have hlength : rest.length = rest'.length := by simpa using congrArg List.length hrest
  exact ⟨List.append_inj_left' he hlength, htree⟩

/-- The grammar is unambiguous. -/
theorem Derives.unique {ts : List Token} {t u : Outline} (h : Derives ts t) (h' : Derives ts u) :
    t = u := (h.append_inj h' (rfl : ts ++ [] = ts ++ [])).2

/-! ### Tokens that are no annotation -/

/-- Ways in which tokens fail to be one annotation of allowed height. -/
inductive Misfit : List Token → Prop where
  /-- There is no token. -/
  | empty : Misfit []
  /-- Something follows the tree. -/
  | trailing {ts us : List Token} {t : Outline} (tree : Derives ts t) (more : us ≠ []) :
    Misfit (ts ++ us)
  /-- A field label stands without a tree. -/
  | bareLabel (before : List Token) (field : String) {after : List Token}
    (none : after.head? ≠ some .opening) : Misfit (before ++ .word field :: .colon :: after)
  /-- A missing node has a child. -/
  | childOfMissing (before : List Token) {ts : List Token} {kind : Option String}
    (given : DerivesMissingKind ts kind) (span : Option Span) (field : Option String)
    (after : List Token) :
    Misfit (before ++ .opening :: .word "MISSING" ::
      (ts ++ spanTokens span ++ fieldTokens field ++ .opening :: after))
  /-- A span comes after a child. -/
  | lateSpan (before after : List Token) : Misfit (before ++ .closing :: .openBracket :: after)
  /-- The tree is too high. -/
  | tooHigh {ts : List Token} {t : Outline} (tree : Derives ts t) (high : depthLimit < t.height) :
    Misfit ts

theorem Derives.isChain {ts : List Token} {t : Outline} (h : Derives ts t) : ts.IsChain MayFollow := by
  have hchain : (ts ++ []).IsChain MayFollow := h.isChain_append (List.isChain_singleton _)
  rwa [List.append_nil] at hchain

theorem Derives.opensTrees {ts : List Token} {t : Outline} (h : Derives ts t) : OpensTrees ts := by
  have := h.opensTrees_append opensTrees_nil
  rwa [List.append_nil] at this

theorem not_derives_bareLabel {before after : List Token} {field : String} {t : Outline}
    (hafter : after.head? ≠ some .opening) :
    ¬Derives (before ++ .word field :: .colon :: after) t := by
  intro h
  cases after with
  | nil =>
    -- the last token of a tree is its closing parenthesis
    obtain ⟨kind, us, he⟩ := h.exists_body
    have he' : (before ++ [.word field]) ++ [.colon] = (.opening :: .word kind :: us) ++ [.closing] := by
      simpa using he
    cases (List.append_inj' he' rfl).2
  | cons a after =>
    have hchain := h.isChain.suffix (List.suffix_append _ _)
    have : a = .opening := (List.isChain_cons_cons.1 (List.isChain_cons_cons.1 hchain).2).1.1 rfl
    exact hafter (congrArg some this)

theorem not_derives_lateSpan {before after : List Token} {t : Outline} :
    ¬Derives (before ++ .closing :: .openBracket :: after) t := by
  intro h
  have hchain := h.isChain.suffix (List.suffix_append _ _)
  exact (List.isChain_cons_cons.1 hchain).1.2 rfl rfl

/-- Two marks of which each stands before the other in its list keep the lists apart. -/
theorem append_cons_ne {α : Type} {a b : α} {xs ys xs' ys' : List α} (hab : a ≠ b) (hb : b ∉ xs)
    (ha : a ∉ ys) : xs ++ a :: xs' ≠ ys ++ b :: ys' := by
  intro h
  rcases List.append_eq_append_iff.1 h with ⟨as, hy, hx⟩ | ⟨as, hx, hy⟩
  · rcases List.cons_eq_append_iff.1 hx with ⟨rfl, he⟩ | ⟨as', rfl, -⟩
    · exact hab (List.cons.inj he).1.symm
    · exact ha (hy ▸ List.mem_append_right _ List.mem_cons_self)
  · rcases List.cons_eq_append_iff.1 hy with ⟨rfl, he⟩ | ⟨as', rfl, -⟩
    · exact hab (List.cons.inj he).1
    · exact hb (hx ▸ List.mem_append_right _ List.mem_cons_self)

theorem not_derives_childOfMissing {before ts after : List Token} {kind field : Option String}
    {span : Option Span} {t : Outline} (given : DerivesMissingKind ts kind) :
    ¬Derives (before ++ .opening :: .word "MISSING" ::
      (ts ++ spanTokens span ++ fieldTokens field ++ .opening :: after)) t := by
  intro h
  obtain ⟨us, u, hu, rest, he⟩ := h.opensTrees _ (List.suffix_append _ _)
  cases hu with
  | error => simp at he
  | node herror hmissing => simp_all
  | @missing ts' _ given' span' =>
    have hopening : .opening ∉ ts' ++ spanTokens span' := by
      simp [given'.not_mem_opening, opening_not_mem_spanTokens]
    have hclosing : .closing ∉ ts ++ spanTokens span ++ fieldTokens field := by
      cases given <;> cases span <;> cases field <;>
        simp [spanTokens, fieldTokens, Span.tokens, Point.tokens]
    have hne : ts' ++ spanTokens span' ++ .closing :: rest ≠
        ts ++ spanTokens span ++ fieldTokens field ++ .opening :: after :=
      append_cons_ne (by simp) hopening hclosing
    exact hne (by simpa using he)

/-- Misfit tokens write no tree of allowed height. -/
theorem depthLimit_lt_of_misfit {ts : List Token} (hm : Misfit ts) {t : Outline} (h : Derives ts t) :
    depthLimit < t.height := by
  cases hm with
  | empty =>
    obtain ⟨kind, us, he⟩ := h.exists_body
    cases he
  | @trailing ts us u tree more =>
    have htokens := (h.append_inj tree (List.append_nil (ts ++ us))).1
    exact absurd (List.append_cancel_left (htokens.trans (List.append_nil ts).symm)) more
  | bareLabel before field none => exact absurd h (not_derives_bareLabel none)
  | childOfMissing before given => exact absurd h (not_derives_childOfMissing given)
  | lateSpan => exact absurd h not_derives_lateSpan
  | tooHigh tree high => rwa [h.unique tree]

/-! ### Annotations -/

/-- Tokens are read as the tree that they write, if it is not too high. -/
theorem readTokens_eq_ok_iff {lexed : Lexed} {t : Outline} :
    readTokens lexed = .ok t ↔ Derives (lexed.tokens.map Located.token) t ∧ t.height ≤ depthLimit := by
  constructor
  · intro h
    simp only [readTokens] at h
    split at h
    · cases h
    · split at h
      · cases h
      · next tree _ htree =>
        cases h
        obtain ⟨ts, ⟨front, rfl, hfront⟩, hderives, hheight⟩ := readsDerived_readTree _ _ _ _ _ ⟨_, htree⟩
        rw [List.append_nil] at hfront
        exact ⟨hfront ▸ hderives, hheight⟩
      · cases h
  · rintro ⟨h, hheight⟩
    exact readTokens_of_derives h hheight

/-- No annotation is read as a tree that is too high. -/
theorem height_le_of_read {text : String} {t : Outline} (h : read text = .ok t) :
    t.height ≤ depthLimit := by
  obtain ⟨lexed, -, htokens⟩ := bind_eq_ok_iff.1 h
  exact (readTokens_eq_ok_iff.1 htokens).2

/-- **An annotation is read as the tree that its tokens write, if this is not too high, and is at
fault else**; whatever is wrong with its tokens, there is such a fault. -/
theorem read_eq_ok_iff_derives {text : String} {lexed : Lexed} (h : lex text.toList = .ok lexed) :
    (∀ t, read text = .ok t ↔ Derives (lexed.tokens.map Located.token) t ∧ t.height ≤ depthLimit) ∧
      (∀ t u, Derives (lexed.tokens.map Located.token) t → Derives (lexed.tokens.map Located.token) u →
        t = u) ∧
      ((∀ t, Derives (lexed.tokens.map Located.token) t → depthLimit < t.height) →
        ∃ fault, read text = .error fault) ∧
      (Misfit (lexed.tokens.map Located.token) → ∃ fault, read text = .error fault) := by
  have hfault : (∀ t, Derives (lexed.tokens.map Located.token) t → depthLimit < t.height) →
      ∃ fault, read text = .error fault := by
    intro hnone
    cases hr : read text with
    | error fault => exact ⟨fault, rfl⟩
    | ok t =>
      rw [read_of_lex h] at hr
      obtain ⟨hderives, hheight⟩ := readTokens_eq_ok_iff.1 hr
      exact absurd hheight (Nat.not_le_of_lt (hnone t hderives))
  refine ⟨fun t => ?_, fun t u ht hu => ht.unique hu, hfault,
    fun hm => hfault fun t ht => depthLimit_lt_of_misfit hm ht⟩
  rw [read_of_lex h]
  exact readTokens_eq_ok_iff

/-- A list without its closing bracket, as an annotation writes it. -/
def cutListText : String := "(list (ERROR [0, 5] - [0, 6]) end: (MISSING \"]\")) ; at the end"

/-- What it writes. -/
def cutList : Outline :=
  .node "list" none
    [⟨none, .error (some ⟨⟨0, 5⟩, ⟨0, 6⟩⟩) []⟩, ⟨some "end", .missing (some "]") none⟩]

/-- The same with the span after the node that it belongs to. -/
def lateSpanText : String := "(list (ERROR) [0, 5] - [0, 6])"

/-- The list is read, and not with its span at the wrong place. -/
theorem read_eq_ok_iff_derives_cutList :
    (∃ lexed, lex cutListText.toList = .ok lexed) ∧ read cutListText = .ok cutList ∧
      (∃ lexed, lex lateSpanText.toList = .ok lexed) ∧ ∃ fault, read lateSpanText = .error fault := by
  have hcut : (lex cutListText.toList >>= fun lexed => .ok (lexed.tokens.map Located.token)) =
      .ok cutList.tokens := by decide +kernel
  have hlate : (lex lateSpanText.toList >>= fun lexed => .ok (lexed.tokens.map Located.token)) =
      .ok ([.opening, .word "list", .opening, .word "ERROR"] ++ .closing :: .openBracket ::
        [.number 0, .comma, .number 5, .closeBracket, .dash, .openBracket, .number 0, .comma, .number 6,
          .closeBracket, .closing]) := by decide +kernel
  obtain ⟨lexed, h, htokens⟩ := bind_eq_ok_iff.1 hcut
  obtain ⟨lexed', h', htokens'⟩ := bind_eq_ok_iff.1 hlate
  refine ⟨⟨lexed, h⟩, ?_, ⟨lexed', h'⟩, ?_⟩
  · have hderives := Outline.derives_tokens cutList (by decide +kernel)
    rw [← Except.ok.inj htokens] at hderives
    exact ((read_eq_ok_iff_derives h).1 cutList).2 ⟨hderives, by decide⟩
  · refine (read_eq_ok_iff_derives h').2.2.2 ?_
    rw [Except.ok.inj htokens']
    exact .lateSpan _ _

end ParserConformance.Annotation
