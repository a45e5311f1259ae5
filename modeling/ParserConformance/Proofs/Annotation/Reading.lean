import ParserConformance.Annotation.Reader
import ParserConformance.Proofs.Annotation.Grammar

/-!
# Reading back what was printed

`Begins ts located rest` says that the located tokens `located` begin with the tokens `ts` and go
on with `rest`. Each reader takes just the tokens of what it reads, so tokens that write a tree by
the grammar are read as this tree, if it is not too high (`Derives.readTree`). An outline that can be
written has such tokens in its printed form and is read back from there.

## Main statement
- `Outline.read_write`: reading undoes printing, in either layout.
-/

namespace ParserConformance

namespace Annotation

/-! ### Tokens in front -/

/-- `located` begins with the tokens `ts` and goes on with `rest`. -/
def Begins (ts : List Token) (located rest : List Located) : Prop :=
  ∃ front, front.map Located.token = ts ∧ located = front ++ rest

theorem begins_nil {located rest : List Located} : Begins [] located rest ↔ located = rest := by
  constructor
  · rintro ⟨front, hf, rfl⟩
    rw [List.map_eq_nil_iff.1 hf, List.nil_append]
  · rintro rfl
    exact ⟨[], rfl, rfl⟩

theorem begins_cons {t : Token} {ts : List Token} {located rest : List Located} :
    Begins (t :: ts) located rest ↔ ∃ place tail, located = ⟨t, place⟩ :: tail ∧ Begins ts tail rest := by
  constructor
  · rintro ⟨front, hf, rfl⟩
    obtain ⟨⟨u, place⟩, front, rfl, rfl, hts⟩ := List.map_eq_cons_iff.1 hf
    exact ⟨place, front ++ rest, rfl, front, hts, rfl⟩
  · rintro ⟨place, tail, rfl, front, rfl, rfl⟩
    exact ⟨⟨t, place⟩ :: front, rfl, rfl⟩

theorem begins_append {ts us : List Token} {located rest : List Located} :
    Begins (ts ++ us) located rest ↔ ∃ mid, Begins ts located mid ∧ Begins us mid rest := by
  constructor
  · rintro ⟨front, hf, rfl⟩
    obtain ⟨front₁, front₂, rfl, h₁, h₂⟩ := List.map_eq_append_iff.1 hf
    exact ⟨front₂ ++ rest, ⟨front₁, h₁, List.append_assoc ..⟩, front₂, h₂, rfl⟩
  · rintro ⟨mid, ⟨front₁, rfl, rfl⟩, front₂, rfl, rfl⟩
    exact ⟨front₁ ++ front₂, List.map_append, (List.append_assoc ..).symm⟩

theorem begins_head {t : Token} {ts : List Token} {located rest : List Located} :
    Begins (t :: ts) located rest ↔ ∃ mid, Begins [t] located mid ∧ Begins ts mid rest :=
  (begins_append : Begins ([t] ++ ts) located rest ↔ _)

theorem found_of_begins {t : Token} {ts : List Token} {located rest : List Located}
    (h : Begins (t :: ts) located rest) : found located = some t := by
  obtain ⟨place, tail, rfl, -⟩ := begins_cons.1 h
  rfl

/-- Reading comes to `v` and leaves `rest`. -/
def Gives {α : Type} {p : List Located → Prop} (reading : Except Fault (α × {rest // p rest})) (v : α)
    (rest : List Located) : Prop := ∃ h, reading = .ok (v, ⟨rest, h⟩)

theorem ok_bind {α β : Type} (a : α) (f : α → Except Fault β) : (Except.ok a >>= f) = f a := rfl

theorem read_of_lex {text : String} {lexed : Lexed} (h : lex text.toList = .ok lexed) :
    read text = readTokens lexed := by rw [read, h, ok_bind]

/-! ### Parts of a node -/

variable (stop : Place)

theorem expect_begins {t : Token} (wanted : Wanted) {located rest : List Located}
    (h : Begins [t] located rest) : Gives (expect stop t wanted located) () rest := by
  obtain ⟨place, tail, rfl, ht⟩ := begins_cons.1 h
  obtain rfl := begins_nil.1 ht
  exact ⟨_, if_pos rfl⟩

theorem readNumber_begins {n : Nat} {located rest : List Located}
    (h : Begins [.number n] located rest) : Gives (readNumber stop located) n rest := by
  obtain ⟨place, tail, rfl, ht⟩ := begins_cons.1 h
  obtain rfl := begins_nil.1 ht
  exact ⟨_, rfl⟩

theorem readKind_begins {kind : String} {located rest : List Located}
    (h : Begins [.word kind] located rest) : Gives (readKind stop located) kind rest := by
  obtain ⟨place, tail, rfl, ht⟩ := begins_cons.1 h
  obtain rfl := begins_nil.1 ht
  exact ⟨_, rfl⟩

theorem readPoint_begins {p : Point} {located rest : List Located}
    (h : Begins p.tokens located rest) : Gives (readPoint stop located) p rest := by
  obtain ⟨ts₁, h₁, h⟩ := begins_head.1 h
  obtain ⟨ts₂, h₂, h⟩ := begins_head.1 h
  obtain ⟨ts₃, h₃, h⟩ := begins_head.1 h
  obtain ⟨ts₄, h₄, h₅⟩ := begins_head.1 h
  obtain ⟨_, e₁⟩ := expect_begins stop .openBracket h₁
  obtain ⟨_, e₂⟩ := readNumber_begins stop h₂
  obtain ⟨_, e₃⟩ := expect_begins stop .comma h₃
  obtain ⟨_, e₄⟩ := readNumber_begins stop h₄
  obtain ⟨_, e₅⟩ := expect_begins stop .closeBracket h₅
  refine ⟨by omega, ?_⟩
  simp only [readPoint, e₁, e₂, e₃, e₄, e₅, ok_bind]
  rfl

/-- A span is read where one is written; where none is, no bracket may follow. -/
theorem readSpan_begins {span : Option Span} {located rest : List Located}
    (h : Begins (Outline.spanTokens span) located rest) (hr : found rest ≠ some .openBracket) :
    Gives (readSpan stop located) span rest := by
  cases span with
  | none =>
    obtain rfl := begins_nil.1 h
    exact ⟨_, if_neg hr⟩
  | some s =>
    have hopen : found located = some .openBracket := found_of_begins h
    obtain ⟨ts₁, h₁, h⟩ := begins_append.1 h
    obtain ⟨ts₂, h₂, h₃⟩ := begins_head.1 h
    obtain ⟨_, e₁⟩ := readPoint_begins stop h₁
    obtain ⟨_, e₂⟩ := expect_begins stop .dash h₂
    obtain ⟨_, e₃⟩ := readPoint_begins stop h₃
    refine ⟨by omega, ?_⟩
    rw [readSpan, if_pos hopen]
    simp only [e₁, e₂, e₃, ok_bind]
    rfl

/-- A field label is read where one is written; where none is, a tree follows. -/
theorem readLabel_begins {field : Option String} {located rest : List Located}
    (h : Begins (Outline.fieldTokens field) located rest) (hr : found rest = some .opening) :
    ∃ h, readLabel located = (field, ⟨rest, h⟩) := by
  cases field with
  | none =>
    obtain rfl := begins_nil.1 h
    obtain _ | ⟨⟨t, place⟩, tail⟩ := located
    · cases hr
    · obtain rfl := Option.some.inj hr
      exact ⟨_, rfl⟩
  | some field =>
    obtain ⟨place, tail, rfl, hcolon⟩ := begins_cons.1 h
    obtain ⟨place', tail', rfl, hnil⟩ := begins_cons.1 hcolon
    obtain rfl := begins_nil.1 hnil
    exact ⟨_, rfl⟩

/-- The kind of a missing node is read where one is written; where none is, no word and no quoted
text may follow. -/
theorem DerivesMissingKind.readMissingKind {ts : List Token} {kind : Option String}
    (given : DerivesMissingKind ts kind) {located rest : List Located} (h : Begins ts located rest)
    (hr : found rest = some .openBracket ∨ found rest = some .closing) :
    ∃ h, readMissingKind located = (kind, ⟨rest, h⟩) := by
  cases given with
  | none =>
    obtain rfl := begins_nil.1 h
    obtain _ | ⟨⟨t, place⟩, tail⟩ := located
    · rcases hr with hr | hr <;> cases hr
    · rcases hr with hr | hr <;> obtain rfl := Option.some.inj hr <;> exact ⟨_, rfl⟩
  | word kind | literal kind =>
    obtain ⟨place, tail, rfl, hnil⟩ := begins_cons.1 h
    obtain rfl := begins_nil.1 hnil
    exact ⟨_, rfl⟩

/-! ### Children -/

theorem Derives.found_eq_opening {ts : List Token} {t : Outline} (h : Derives ts t)
    {located rest : List Located} (hb : Begins ts located rest) : found located = some .opening := by
  obtain ⟨kind, us, rfl⟩ := h.exists_body
  exact found_of_begins hb

/-- What stands before a closing parenthesis as the children of a node does not begin with a span. -/
theorem DerivesSlots.found_ne_openBracket {ts : List Token} {slots : List (Slot Outline)}
    (h : DerivesSlots ts slots) {located rest : List Located} (hb : Begins ts located rest)
    (hr : found rest = some .closing) : found located ≠ some .openBracket := by
  cases h with
  | nil =>
    obtain rfl := begins_nil.1 hb
    simp [hr]
  | cons field tree slots =>
    obtain ⟨mid, hb, -⟩ := begins_append.1 hb
    obtain ⟨mid', hfield, htree⟩ := begins_append.1 hb
    cases field with
    | none =>
      obtain rfl := begins_nil.1 hfield
      simp [tree.found_eq_opening htree]
    | some field => simp [found_of_begins hfield]

/-- A child is read after its label, if its tree and the children after it are. -/
theorem readSlots_cons {reader : (ts : List Located) → Advance Outline ts} {field : Option String}
    {t : Outline} {slots : List (Slot Outline)} {located mid mid' rest : List Located}
    (hfield : Begins (Outline.fieldTokens field) located mid) (hopening : found mid = some .opening)
    (htree : Gives (reader mid) t mid') (hslots : Gives (readSlots reader stop mid') slots rest) :
    Gives (readSlots reader stop located) (⟨field, t⟩ :: slots) rest := by
  have hstart : found located ≠ some .closing ∧
      ¬(field.isNone && decide (found located ≠ some .opening)) = true := by
    cases field with
    | none =>
      obtain rfl := begins_nil.1 hfield
      simp [hopening]
    | some field => simp [found_of_begins hfield]
  obtain ⟨_, e₁⟩ := readLabel_begins hfield hopening
  obtain ⟨_, e₂⟩ := htree
  obtain ⟨_, e₃⟩ := hslots
  refine ⟨by omega, ?_⟩
  rw [readSlots, if_neg hstart.1, e₁]
  simp only [if_neg hstart.2, e₂, e₃]

/-! ### Whole outlines -/

theorem readBody_missing {reader : (ts : List Located) → Advance Outline ts} {ts : List Token}
    {kind : Option String} (given : DerivesMissingKind ts kind) {span : Option Span}
    {located rest : List Located} (h : Begins (ts ++ Outline.spanTokens span) located rest)
    (hr : found rest = some .closing) :
    Gives (readBody reader stop "MISSING" located) (.missing kind span) rest := by
  obtain ⟨mid, h₁, h₂⟩ := begins_append.1 h
  have hmid : found mid = some .openBracket ∨ found mid = some .closing := by
    cases span with
    | none =>
      obtain rfl := begins_nil.1 h₂
      exact .inr hr
    | some s => exact .inl (found_of_begins h₂)
  obtain ⟨_, e₁⟩ := given.readMissingKind h₁ hmid
  obtain ⟨_, e₂⟩ := readSpan_begins stop h₂ (by simp [hr])
  refine ⟨by omega, ?_⟩
  rw [readBody, if_pos rfl, e₁]
  simp only [e₂, ok_bind]
  rfl

/-- The node that a kind which is not `MISSING` stands for. -/
theorem readBody_node {reader : (ts : List Located) → Advance Outline ts}
    {kind : String} (hkind : kind ≠ "MISSING") {span : Option Span} {slots : List (Slot Outline)}
    {located mid rest : List Located} (hspan : Begins (Outline.spanTokens span) located mid)
    (hmid : found mid ≠ some .openBracket) (hslots : Gives (readSlots reader stop mid) slots rest) :
    Gives (readBody reader stop kind located)
      (if kind = "ERROR" then .error span slots else .node kind span slots) rest := by
  obtain ⟨_, e₁⟩ := readSpan_begins stop hspan hmid
  obtain ⟨_, e₂⟩ := hslots
  refine ⟨by omega, ?_⟩
  rw [readBody, if_neg hkind]
  simp only [e₁, e₂, ok_bind]
  rfl

/-- A tree is read if what stands between its parentheses is. -/
theorem readTree_of_body {limit budget : Nat} {kind : String} {ts : List Token} {t : Outline}
    (hbody : ∀ {located rest}, Begins ts located rest → found rest = some .closing →
      Gives (readBody (readTree stop limit budget) stop kind located) t rest)
    {located rest : List Located}
    (h : Begins (.opening :: .word kind :: (ts ++ [.closing])) located rest) :
    Gives (readTree stop limit (budget + 1) located) t rest := by
  obtain ⟨ts₁, h₁, h⟩ := begins_head.1 h
  obtain ⟨ts₂, h₂, h⟩ := begins_head.1 h
  obtain ⟨ts₃, h₃, h₄⟩ := begins_append.1 h
  obtain ⟨_, e₁⟩ := expect_begins stop .opening h₁
  obtain ⟨_, e₂⟩ := readKind_begins stop h₂
  obtain ⟨_, e₃⟩ := hbody h₃ (found_of_begins h₄)
  obtain ⟨_, e₄⟩ := expect_begins stop .closing h₄
  refine ⟨by omega, ?_⟩
  rw [readTree]
  simp only [e₁, e₂, e₃, e₄, ok_bind]
  rfl

open Outline (height slotsHeight)

mutual

/-- Tokens that write a tree are read as this tree, if it is not too high. -/
theorem Derives.readTree (limit : Nat) : ∀ {ts : List Token} {t : Outline}, Derives ts t →
    ∀ {budget : Nat}, t.height ≤ budget → ∀ {located rest : List Located}, Begins ts located rest →
      Gives (readTree stop limit budget located) t rest
  | _, _, .error span children, budget + 1, hb, _, _, h => by
    refine readTree_of_body stop (fun h hr => ?_) h
    obtain ⟨mid, hspan, h⟩ := begins_append.1 h
    exact readBody_node stop (by decide : "ERROR" ≠ "MISSING") hspan (children.found_ne_openBracket h hr)
      (children.readSlots limit (Nat.le_of_succ_le_succ hb) h hr)
  | _, _, .missing given span, budget + 1, hb, _, _, h =>
    readTree_of_body stop (fun h hr => readBody_missing stop given h hr) h
  | _, _, .node herror hmissing span children, budget + 1, hb, _, _, h => by
    refine readTree_of_body stop (fun h hr => ?_) h
    obtain ⟨mid, hspan, h⟩ := begins_append.1 h
    have := readBody_node stop hmissing hspan (children.found_ne_openBracket h hr)
      (children.readSlots limit (Nat.le_of_succ_le_succ hb) h hr)
    rwa [if_neg herror] at this

/-- The same for children up to the closing parenthesis. -/
theorem DerivesSlots.readSlots (limit : Nat) : ∀ {ts : List Token} {slots : List (Slot Outline)},
    DerivesSlots ts slots → ∀ {budget : Nat}, slotsHeight slots ≤ budget →
      ∀ {located rest : List Located}, Begins ts located rest → found rest = some .closing →
        Gives (readSlots (readTree stop limit budget) stop located) slots rest
  | _, _, .nil, _, _, _, _, h, hr => by
    obtain rfl := begins_nil.1 h
    rw [readSlots, if_pos hr]
    exact ⟨_, rfl⟩
  | _, _, .cons field tree slots, _, hb, _, _, h, hr => by
    obtain ⟨mid', h, hslots⟩ := begins_append.1 h
    obtain ⟨mid, hfield, htree⟩ := begins_append.1 h
    exact readSlots_cons stop hfield (tree.found_eq_opening htree)
      (tree.readTree limit (Nat.le_trans (Nat.le_max_left _ _) hb) htree)
      (slots.readSlots limit (Nat.le_trans (Nat.le_max_right _ _) hb) hslots hr)

end

/-- The tokens of a whole annotation that write a tree are read as this tree, if it is not too high. -/
theorem readTokens_of_derives {lexed : Lexed} {t : Outline}
    (h : Derives (lexed.tokens.map Located.token) t) (hd : t.height ≤ depthLimit) :
    readTokens lexed = .ok t := by
  have hbegins : Begins (lexed.tokens.map Located.token) lexed.tokens [] :=
    ⟨lexed.tokens, rfl, (List.append_nil _).symm⟩
  have hne : ¬lexed.tokens.isEmpty = true := by
    intro he
    have := h.found_eq_opening hbegins
    rw [List.isEmpty_iff.1 he] at this
    cases this
  obtain ⟨_, e⟩ := h.readTree lexed.stop depthLimit hd hbegins
  rw [readTokens, if_neg hne]
  simp only [e]

end Annotation

namespace Outline

open Annotation

theorem derivesMissingKind_token (kind : String) :
    DerivesMissingKind [missingKindToken kind] (some kind) := by
  rw [missingKindToken]
  split
  · exact .word kind
  · exact .literal kind

mutual

/-- The tokens of an outline that can be written do write it. -/
theorem derives_tokens : ∀ t : Outline, t.IsWritable → Derives t.tokens t
  | .node _ span slots, ⟨⟨_, herror, hmissing⟩, _, hslots⟩ =>
    .node herror hmissing span (derivesSlots_tokens slots hslots)
  | .error span slots, ⟨_, hslots⟩ => .error span (derivesSlots_tokens slots hslots)
  | .missing none span, _ => .missing .none span
  | .missing (some kind) span, _ => .missing (derivesMissingKind_token kind) span

theorem derivesSlots_tokens : ∀ slots : List (Slot Outline), SlotsWritable slots →
    DerivesSlots (slotsTokens slots) slots
  | [], _ => .nil
  | ⟨field, t⟩ :: slots, ⟨_, ht, hslots⟩ =>
    .cons field (derives_tokens t ht) (derivesSlots_tokens slots hslots)

end

/-- Reading undoes printing, in either layout. -/
theorem read_write {t : Outline} (hw : t.IsWritable) (hd : t.height ≤ depthLimit)
    (level : Option Nat) : read (String.ofList (t.write level [])) = .ok t := by
  obtain ⟨lexed, hlex, htokens⟩ := (reads_write level t hw []).lex
  have hderives : Derives (lexed.tokens.map Located.token) t := htokens ▸ derives_tokens t hw
  have htext : lex (String.ofList (t.write level [])).toList = .ok lexed := by
    rw [String.toList_ofList, hlex]
  rw [read_of_lex htext, readTokens_of_derives hderives hd]

/-- Reading undoes printing on one line. -/
theorem read_text {t : Outline} (hw : t.IsWritable) (hd : t.height ≤ depthLimit) :
    read t.text = .ok t := read_write hw hd none

/-- Reading undoes printing over lines. -/
theorem read_pretty {t : Outline} (hw : t.IsWritable) (hd : t.height ≤ depthLimit) :
    read t.pretty = .ok t := read_write hw hd (some 1)

/-- **An outline that can be written is read back from either layout**, so two of them that differ
print differently in both. -/
theorem read_both_layouts {t : Outline} (hw : t.IsWritable) (hd : t.height ≤ depthLimit) :
    read t.text = .ok t ∧ read t.pretty = .ok t ∧
      ∀ u : Outline, u.IsWritable → u.height ≤ depthLimit → t ≠ u →
        t.text ≠ u.text ∧ t.pretty ≠ u.pretty := by
  refine ⟨read_text hw hd, read_pretty hw hd, fun u hu hdu hne => ⟨fun h => ?_, fun h => ?_⟩⟩
  · have := read_text hw hd
    rw [h, read_text hu hdu] at this
    exact hne (Except.ok.inj this).symm
  · have := read_pretty hw hd
    rw [h, read_pretty hu hdu] at this
    exact hne (Except.ok.inj this).symm

/-- A call with positions on some nodes: a field that is called `ERROR`, a missing token that takes
quotes, an escape and a line break, and last a missing node of the given kind. -/
def partlyPlaced (kind : Option String) : Outline :=
  .node "call_1" (some ⟨⟨0, 0⟩, ⟨2 ^ 64 - 1, 7⟩⟩)
    [⟨some "ERROR", .node "0x" none [⟨none, .error (some ⟨⟨1, 2⟩, ⟨1, 3⟩⟩) []⟩]⟩,
      ⟨none, .missing (some "\"\\é\n 1") none⟩,
      ⟨some "MISSING", .missing (some "MISSING") (some ⟨⟨3, 0⟩, ⟨3, 0⟩⟩)⟩,
      ⟨none, .missing kind none⟩]

/-- A missing node without a kind and one of the empty kind are told apart. -/
theorem read_both_layouts_partlyPlaced :
    (partlyPlaced none).IsWritable ∧ (partlyPlaced none).height ≤ depthLimit ∧
      (partlyPlaced (some "")).IsWritable ∧ (partlyPlaced (some "")).height ≤ depthLimit ∧
      partlyPlaced none ≠ partlyPlaced (some "") ∧
      read (partlyPlaced none).text = .ok (partlyPlaced none) ∧
      read (partlyPlaced none).pretty = .ok (partlyPlaced none) ∧
      (partlyPlaced none).text ≠ (partlyPlaced (some "")).text ∧
      (partlyPlaced none).pretty ≠ (partlyPlaced (some "")).pretty := by
  have hw : (partlyPlaced none).IsWritable := by decide +kernel
  have hd : (partlyPlaced none).height ≤ depthLimit := by decide
  have hw' : (partlyPlaced (some "")).IsWritable := by decide +kernel
  have hd' : (partlyPlaced (some "")).height ≤ depthLimit := by decide
  have hne : partlyPlaced none ≠ partlyPlaced (some "") := by simp [partlyPlaced]
  obtain ⟨htext, hpretty, hother⟩ := read_both_layouts hw hd
  exact ⟨hw, hd, hw', hd', hne, htext, hpretty, hother _ hw' hd' hne⟩

end Outline

end ParserConformance
