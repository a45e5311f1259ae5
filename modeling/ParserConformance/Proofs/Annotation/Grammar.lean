import Mathlib.Data.List.Chain
import ParserConformance.Proofs.Annotation.Printing

/-!
# The grammar of annotations

Which tokens write which outline, said apart from any reader:

    tree  := '(' ERROR span? child* ')'
           | '(' MISSING (word | literal)? span? ')'
           | '(' word span? child* ')'
    child := (word ':')? tree
    span  := '[' number ',' number ']' '-' '[' number ',' number ']'

where the word of an ordinary node is neither ERROR nor MISSING. `Derives ts t` says that the tokens
`ts` write the tree `t`. The tokens of a tree follow one another only as `MayFollow` tells, and
each opening parenthesis among them begins a tree.
-/

namespace ParserConformance.Annotation

open Outline (spanTokens fieldTokens slotsHeight)

/-- The tokens that may stand for the kind of a missing node. -/
inductive DerivesMissingKind : List Token → Option String → Prop where
  /-- No kind is given. -/
  | none : DerivesMissingKind [] none
  /-- The kind is a word. -/
  | word (kind : String) : DerivesMissingKind [.word kind] (some kind)
  /-- The kind is a text between quotes. -/
  | literal (kind : String) : DerivesMissingKind [.literal kind] (some kind)

mutual

/-- The tokens that write a tree. -/
inductive Derives : List Token → Outline → Prop where
  /-- An error node: its span and its children. -/
  | error {ts : List Token} {slots : List (Slot Outline)} (span : Option Span)
    (children : DerivesSlots ts slots) :
    Derives (.opening :: .word "ERROR" :: (spanTokens span ++ ts ++ [.closing])) (.error span slots)
  /-- A missing node: its kind and its span. -/
  | missing {ts : List Token} {kind : Option String} (given : DerivesMissingKind ts kind)
    (span : Option Span) :
    Derives (.opening :: .word "MISSING" :: (ts ++ spanTokens span ++ [.closing])) (.missing kind span)
  /-- An ordinary node: its kind, its span and its children. -/
  | node {kind : String} {ts : List Token} {slots : List (Slot Outline)} (error : kind ≠ "ERROR")
    (missing : kind ≠ "MISSING") (span : Option Span) (children : DerivesSlots ts slots) :
    Derives (.opening :: .word kind :: (spanTokens span ++ ts ++ [.closing])) (.node kind span slots)

/-- The tokens that write the children of a node. -/
inductive DerivesSlots : List Token → List (Slot Outline) → Prop where
  /-- There are no further children. -/
  | nil : DerivesSlots [] []
  /-- A child, with its field label if it has one, and those after it. -/
  | cons {ts us : List Token} {t : Outline} {slots : List (Slot Outline)} (field : Option String)
    (tree : Derives ts t) (rest : DerivesSlots us slots) :
    DerivesSlots (fieldTokens field ++ ts ++ us) (⟨field, t⟩ :: slots)

end

theorem Derives.exists_body {ts : List Token} {t : Outline} (h : Derives ts t) :
    ∃ kind us, ts = .opening :: .word kind :: (us ++ [.closing]) := by
  cases h <;> exact ⟨_, _, rfl⟩

/-! ### Neighbours

Two rules of the grammar can be seen on any two tokens that stand side by side. -/

/-- Whether `b` may stand right after `a`, as far as field labels and spans are concerned: after the
colon of a label comes a tree, and after a tree comes no span. -/
def MayFollow (a b : Token) : Prop :=
  (a = .colon → b = .opening) ∧ (a = .closing → b ≠ .openBracket)

theorem isChain_closing {a : Token} {rest : List Token} (ha : a ≠ .colon)
    (hr : (.closing :: rest).IsChain MayFollow) : (a :: .closing :: rest).IsChain MayFollow :=
  List.isChain_cons_cons.2 ⟨⟨fun h => absurd h ha, nofun⟩, hr⟩

/-- A span may stand after a word or a quoted text, if what follows it may stand there too. -/
theorem isChain_spanTokens {a : Token} (hcolon : a ≠ .colon) (hclosing : a ≠ .closing)
    (span : Option Span) {rest : List Token} (h : ∀ a, a ≠ .colon → (a :: rest).IsChain MayFollow) :
    (a :: (spanTokens span ++ rest)).IsChain MayFollow := by
  cases span with
  | none => exact h a hcolon
  | some s =>
    have := h .closeBracket (by simp)
    simp [spanTokens, Span.tokens, Point.tokens, MayFollow, hcolon, hclosing, this]

mutual

/-- A tree keeps the two rules, and what follows it keeps them if it does after a closing
parenthesis. -/
theorem Derives.isChain_append : ∀ {ts : List Token} {t : Outline}, Derives ts t →
    ∀ {rest : List Token}, (.closing :: rest).IsChain MayFollow → (ts ++ rest).IsChain MayFollow
  | _, _, .error span children, rest, hr => by
    have := isChain_spanTokens (a := .word "ERROR") (by simp) (by simp) span
      fun a ha => children.isChain_cons ha hr
    simpa [MayFollow] using this
  | _, _, .missing given span, rest, hr => by
    have hspan := fun (a : Token) (ha : a ≠ .colon) (ha' : a ≠ .closing) =>
      isChain_spanTokens ha ha' span fun _ hb => isChain_closing hb hr
    cases given with
    | none => simpa [MayFollow] using hspan (.word "MISSING") (by simp) (by simp)
    | word kind => simpa [MayFollow] using hspan (.word kind) (by simp) (by simp)
    | literal kind => simpa [MayFollow] using hspan (.literal kind) (by simp) (by simp)
  | _, _, @Derives.node kind _ _ _ _ span children, rest, hr => by
    have := isChain_spanTokens (a := .word kind) (by simp) (by simp) span
      fun a ha => children.isChain_cons ha hr
    simpa [MayFollow] using this

theorem DerivesSlots.isChain_cons : ∀ {ts : List Token} {slots : List (Slot Outline)},
    DerivesSlots ts slots → ∀ {a : Token} {rest : List Token}, a ≠ .colon →
      (.closing :: rest).IsChain MayFollow → (a :: (ts ++ .closing :: rest)).IsChain MayFollow
  | _, _, .nil, a, rest, ha, hr => isChain_closing ha hr
  | _, _, .cons field tree slots, a, rest, ha, hr => by
    have := tree.isChain_append (slots.isChain_cons (a := .closing) (by simp) hr)
    obtain ⟨kind, us, rfl⟩ := tree.exists_body
    cases field <;> simp_all [fieldTokens, MayFollow]

end

/-! ### Parentheses -/

/-- Each opening parenthesis begins a tree, whatever comes after the tree. -/
def OpensTrees (ts : List Token) : Prop :=
  ∀ post, (.opening :: post) <:+ ts → ∃ us t, Derives us t ∧ us <+: .opening :: post

theorem opensTrees_nil : OpensTrees [] := fun _ h => absurd h (by simp)

theorem opensTrees_cons {a : Token} (ha : a ≠ .opening) {ts : List Token} (h : OpensTrees ts) :
    OpensTrees (a :: ts) := by
  intro post hpost
  rcases List.suffix_cons_iff.1 hpost with heq | hpost
  · exact absurd (List.cons.inj heq).1.symm ha
  · exact h post hpost

theorem opensTrees_append {us : List Token} (hus : .opening ∉ us) {ts : List Token}
    (h : OpensTrees ts) : OpensTrees (us ++ ts) := by
  induction us with
  | nil => exact h
  | cons a us ih =>
    rw [List.mem_cons, not_or] at hus
    exact opensTrees_cons (Ne.symm hus.1) (ih hus.2)

/-- A tree before tokens that open trees opens one more. -/
theorem Derives.opensTrees_of_tail {ts : List Token} {t : Outline} (h : Derives (.opening :: ts) t)
    {rest : List Token} (htail : OpensTrees (ts ++ rest)) : OpensTrees (.opening :: ts ++ rest) := by
  intro post hpost
  rcases List.suffix_cons_iff.1 hpost with heq | hpost
  · exact ⟨_, t, h, heq ▸ List.prefix_append _ _⟩
  · exact htail post hpost

theorem opening_not_mem_spanTokens (span : Option Span) : .opening ∉ spanTokens span := by
  cases span <;> simp [spanTokens, Span.tokens, Point.tokens]

theorem opening_not_mem_fieldTokens (field : Option String) : .opening ∉ fieldTokens field := by
  cases field <;> simp [fieldTokens]

theorem DerivesMissingKind.not_mem_opening {ts : List Token} {kind : Option String}
    (h : DerivesMissingKind ts kind) : .opening ∉ ts := by
  cases h <;> simp

mutual

theorem Derives.opensTrees_append : ∀ {ts : List Token} {t : Outline}, Derives ts t →
    ∀ {rest : List Token}, OpensTrees rest → OpensTrees (ts ++ rest)
  | _, _, .error span children, rest, hr => by
    have hslots := children.opensTrees_append (opensTrees_cons (a := .closing) (by simp) hr)
    have hspan := Annotation.opensTrees_append (opening_not_mem_spanTokens span) hslots
    refine (Derives.error span children).opensTrees_of_tail (opensTrees_cons (by simp) ?_)
    simpa using hspan
  | _, _, .missing given span, rest, hr => by
    have hspan := Annotation.opensTrees_append (opening_not_mem_spanTokens span)
      (opensTrees_cons (a := .closing) (by simp) hr)
    have hgiven := Annotation.opensTrees_append given.not_mem_opening hspan
    refine (Derives.missing given span).opensTrees_of_tail (opensTrees_cons (by simp) ?_)
    simpa using hgiven
  | _, _, .node herror hmissing span children, rest, hr => by
    have hslots := children.opensTrees_append (opensTrees_cons (a := .closing) (by simp) hr)
    have hspan := Annotation.opensTrees_append (opening_not_mem_spanTokens span) hslots
    refine (Derives.node herror hmissing span children).opensTrees_of_tail (opensTrees_cons (by simp) ?_)
    simpa using hspan

theorem DerivesSlots.opensTrees_append : ∀ {ts : List Token} {slots : List (Slot Outline)},
    DerivesSlots ts slots → ∀ {rest : List Token}, OpensTrees rest → OpensTrees (ts ++ rest)
  | _, _, .nil, _, hr => hr
  | _, _, .cons field tree slots, rest, hr => by
    have htree := tree.opensTrees_append (slots.opensTrees_append hr)
    have hfield := Annotation.opensTrees_append (opening_not_mem_fieldTokens field) htree
    simpa using hfield

end

end ParserConformance.Annotation
