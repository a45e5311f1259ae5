import ParserConformance.Annotation.Lexer
import ParserConformance.Outline.OfParseTree

/-!
# Reading annotations

The grammar of annotations, over tokens:

    tree  := '(' head ')'
    head  := ERROR span? child*
           | MISSING (word | literal)? span?
           | word span? child*
    child := (word ':')? tree
    span  := point '-' point
    point := '[' number ',' number ']'

A reader returns what it has read and the tokens after it. Those are never more than it was
given, and fewer after a tree, which is why reading ends.
-/

namespace ParserConformance.Annotation

/-- What reading from `ts` gives: a value and the tokens after it. -/
abbrev Reading (α : Type) (ts : List Located) : Type :=
  Except Fault (α × { rest : List Located // rest.length ≤ ts.length })

/-- The same for a value that has at least one token. -/
abbrev Advance (α : Type) (ts : List Located) : Type :=
  Except Fault (α × { rest : List Located // rest.length < ts.length })

/-- A part that may be left out, and the tokens after it. -/
abbrev Optional (α : Type) (ts : List Located) : Type :=
  Option α × { rest : List Located // rest.length ≤ ts.length }

/-- The place of the next token, or the end of the annotation. -/
def placeOf (stop : Place) : List Located → Place
  | [] => stop
  | t :: _ => t.place

/-- The next token. -/
def found : List Located → Option Token
  | [] => none
  | t :: _ => some t.token

/-- The fault of finding something else than `wanted`. -/
def unexpected (stop : Place) (wanted : Wanted) (ts : List Located) : Fault :=
  ⟨placeOf stop ts, .unexpected wanted (found ts)⟩

/-- Passes over the token `token`. -/
def expect (stop : Place) (token : Token) (wanted : Wanted) :
    (ts : List Located) → Advance Unit ts
  | t :: ts =>
    if t.token = token then .ok ((), ⟨ts, by simp⟩) else .error (unexpected stop wanted (t :: ts))
  | [] => .error (unexpected stop wanted [])

/-- Reads a coordinate. -/
def readNumber (stop : Place) : (ts : List Located) → Advance Nat ts
  | ⟨.number n, _⟩ :: ts => .ok (n, ⟨ts, by simp⟩)
  | ts => .error (unexpected stop .number ts)

/-- Reads a point between brackets. -/
def readPoint (stop : Place) (ts : List Located) : Advance Point ts := do
  let (_, ⟨ts₁, h₁⟩) ← expect stop .openBracket .openBracket ts
  let (row, ⟨ts₂, h₂⟩) ← readNumber stop ts₁
  let (_, ⟨ts₃, h₃⟩) ← expect stop .comma .comma ts₂
  let (column, ⟨ts₄, h₄⟩) ← readNumber stop ts₃
  let (_, ⟨ts₅, h₅⟩) ← expect stop .closeBracket .closeBracket ts₄
  return (⟨row, column⟩, ⟨ts₅, by omega⟩)

/-- Reads a span, if a bracket says that one comes. -/
def readSpan (stop : Place) (ts : List Located) : Reading (Option Span) ts :=
  if found ts = some .openBracket then do
    let (start, ⟨ts₁, h₁⟩) ← readPoint stop ts
    let (_, ⟨ts₂, h₂⟩) ← expect stop .dash .dash ts₁
    let (finish, ⟨ts₃, h₃⟩) ← readPoint stop ts₂
    return (some ⟨start, finish⟩, ⟨ts₃, by omega⟩)
  else .ok (none, ⟨ts, Nat.le_refl _⟩)

/-- Reads a node kind. -/
def readKind (stop : Place) : (ts : List Located) → Advance String ts
  | ⟨.word kind, _⟩ :: ts => .ok (kind, ⟨ts, by simp⟩)
  | ts => .error (unexpected stop .kind ts)

/-- Reads the kind of a missing node, if one is given. -/
def readMissingKind : (ts : List Located) → Optional String ts
  | ⟨.word kind, _⟩ :: ts => (some kind, ⟨ts, by simp⟩)
  | ⟨.literal kind, _⟩ :: ts => (some kind, ⟨ts, by simp⟩)
  | ts => (none, ⟨ts, Nat.le_refl _⟩)

/-- Reads a field label and its colon, if the next two tokens are that. -/
def readLabel : (ts : List Located) → Optional String ts
  | ⟨.word field, _⟩ :: ⟨.colon, _⟩ :: ts => (some field, ⟨ts, by simp; omega⟩)
  | ts => (none, ⟨ts, Nat.le_refl _⟩)

/-- Reads children with `readTree` until a closing parenthesis comes. -/
def readSlots (readTree : (ts : List Located) → Advance Outline ts) (stop : Place)
    (ts : List Located) : Reading (List (Slot Outline)) ts :=
  if found ts = some .closing then .ok ([], ⟨ts, Nat.le_refl _⟩)
  else
    match readLabel ts with
    | (field, ⟨ts₁, h₁⟩) =>
      if field.isNone && found ts ≠ some .opening then
        .error (unexpected stop .childOrClosing ts)
      else
        match readTree ts₁ with
        | .error fault => .error fault
        | .ok (tree, ⟨ts₂, h₂⟩) =>
          match readSlots readTree stop ts₂ with
          | .error fault => .error fault
          | .ok (slots, ⟨ts₃, h₃⟩) => .ok (⟨field, tree⟩ :: slots, ⟨ts₃, by omega⟩)
termination_by ts.length

/-- Reads what stands between the parentheses of a node of the given kind. -/
def readBody (readTree : (ts : List Located) → Advance Outline ts) (stop : Place)
    (kind : String) (ts : List Located) : Reading Outline ts :=
  if kind = "MISSING" then
    match readMissingKind ts with
    | (missing, ⟨ts₁, h₁⟩) => do
      let (span, ⟨ts₂, h₂⟩) ← readSpan stop ts₁
      return (.missing missing span, ⟨ts₂, by omega⟩)
  else do
    let (span, ⟨ts₁, h₁⟩) ← readSpan stop ts
    let (slots, ⟨ts₂, h₂⟩) ← readSlots readTree stop ts₁
    let tree := if kind = "ERROR" then .error span slots else .node kind span slots
    return (tree, ⟨ts₂, by omega⟩)

/-- Reads a tree of at most `budget` levels; `limit` is the number that a fault tells. -/
def readTree (stop : Place) (limit : Nat) :
    (budget : Nat) → (ts : List Located) → Advance Outline ts
  | 0, ts => .error ⟨placeOf stop ts, .tooDeep limit⟩
  | budget + 1, ts => do
    let (_, ⟨ts₁, h₁⟩) ← expect stop .opening .opening ts
    let (kind, ⟨ts₂, h₂⟩) ← readKind stop ts₁
    let (tree, ⟨ts₃, h₃⟩) ← readBody (readTree stop limit budget) stop kind ts₂
    let (_, ⟨ts₄, h₄⟩) ← expect stop .closing .closing ts₃
    return (tree, ⟨ts₄, by omega⟩)

/-- Reads the tokens of one whole annotation. -/
def readTokens (lexed : Lexed) : Except Fault Outline :=
  if lexed.tokens.isEmpty then .error ⟨lexed.stop, .empty⟩
  else
    match readTree lexed.stop depthLimit depthLimit lexed.tokens with
    | .error fault => .error fault
    | .ok (tree, ⟨[], _⟩) => .ok tree
    | .ok (_, ⟨t :: _, _⟩) => .error ⟨t.place, .trailing t.token⟩

/-- Reads one annotation. -/
def read (text : String) : Except Fault Outline := do readTokens (← lex text.toList)

end ParserConformance.Annotation
