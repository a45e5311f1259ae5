import Std.Data.HashSet
import ParserConformance.Script.Tool.Regex

/-!
# Matches of regular expressions

Where an expression matches in a text. Of the matches that begin first either the longest one
counts, or the one that the expression prefers.
-/

namespace ParserConformance.Script.Tool.Regex

/-- A place in a text. -/
structure Place where
  /-- The characters before it, backwards. -/
  past : List Char
  /-- How many those are. -/
  position : Nat
  /-- The characters behind it. -/
  rest : List Char
  /-- What groups have matched, the last one first. -/
  groups : List (Nat × List Char)
  /-- Where the match is taken to begin, if not where it does. -/
  start : Option Nat

namespace Place

/-- The start of a text. -/
def ofText (cs : List Char) : Place := ⟨[], 0, cs, [], none⟩

/-- The place one character further on. -/
def step (p : Place) : Place :=
  match p.rest with
  | [] => p
  | c :: cs => { p with past := c :: p.past, position := p.position + 1, rest := cs }

/-- The place some characters further on. -/
def advance (p : Place) : Nat → Place
  | 0 => p
  | n + 1 => p.step.advance n

/-- The place one character before. -/
def stepBack (p : Place) : Place :=
  match p.past with
  | [] => p
  | c :: cs => { p with past := cs, position := p.position - 1, rest := c :: p.rest }

/-- The places before one in the text, itself first. -/
def backwards (p : Place) : (count : Nat) → List Place
  | 0 => [p]
  | n + 1 => p :: p.stepBack.backwards n

end Place

/-- Whether a character belongs to words. -/
def isWordChar (c : Option Char) : Bool := c.any fun c => c.isAlphanum || c = '_'

/-- Whether a place is as an anchor says. -/
def Anchor.holds (a : Anchor) (p : Place) : Bool :=
  let before := isWordChar p.past.head?
  let behind := isWordChar p.rest.head?
  match a with
  | .textStart => p.past.isEmpty
  | .textEnd => p.rest.isEmpty
  | .lineStart => p.past.isEmpty || p.past.head? = some '\n'
  | .lineEnd => p.rest.isEmpty || p.rest.head? = some '\n'
  | .lastEnd => p.rest.isEmpty || p.rest = ['\n']
  | .wordStart => !before && behind
  | .wordEnd => before && !behind
  | .edge => before != behind
  | .noEdge => before == behind

/-- The places without any that stand where an earlier one does. -/
def distinct (ps : List Place) : List Place :=
  match ps with
  | [] | [_] => ps
  | ps =>
    (ps.foldl (fun ((seen, done) : Std.HashSet Nat × List Place) p =>
      if seen.contains p.position then (seen, done)
      else (seen.insert p.position, p :: done)) (∅, [])).2.reverse

/-- The places that are reached through characters of a set, the last one first. -/
def through (s : CharSet) : (room : Nat) → (sofar : List Place) → Place → List Place
  | 0, sofar, p => p :: sofar
  | room + 1, sofar, p =>
    match p.rest with
    | c :: _ => if s.contains c then through s room (p :: sofar) p.step else p :: sofar
    | [] => p :: sofar

/-- Whether two characters are the same, or the same but for their case. -/
def sameChar (ignoresCase : Bool) (c d : Char) : Bool :=
  c = d || (ignoresCase && c.toLower = d.toLower)

/-- The places up to which a number of matches may reach, those first that are preferred. -/
def repeated (step : Place → List Place) (isLazy : Bool) : (room least : Nat) →
    (most : Option Nat) → Place → List Place
  | 0, _, _, p => [p]
  | room + 1, least, most, p =>
    if most = some 0 then [p]
    else
      let further := (step p).flatMap fun q =>
        if q.position = p.position && least = 0 then []
        else repeated step isLazy room (least - 1) (most.map (· - 1)) q
      if 0 < least then distinct further
      else distinct (if isLazy then p :: further else further ++ [p])

/-- The places up to which a match of an expression from a place may reach, those first that it
prefers. -/
def ends : Regex → Place → List Place
  | .nothing, p => [p]
  | .set s, p =>
    match p.rest with
    | c :: _ => if s.contains c then [p.step] else []
    | [] => []
  | .next a b, p => distinct ((ends a p).flatMap (ends b))
  | .either a b, p => distinct (ends a p ++ ends b p)
  | .times least most greed (.set s), p =>
    let room := most.getD p.rest.length
    let all := through s room [] p
    let all := all.take (all.length - least)
    match greed with
    | .greedy => all
    | .lazy => all.reverse
    | .possessive => all.take 1
  | .times least most greed r, p =>
    let all := repeated (ends r) (greed = .lazy) (p.rest.length + least + 1) least most p
    if greed = .possessive then all.take 1 else all
  | .group n r, p =>
    (ends r p).map fun q =>
      { q with groups := (n, p.rest.take (q.position - p.position)) :: q.groups }
  | .back ignoresCase n, p =>
    match p.groups.lookup n with
    | some text =>
      let there := p.rest.take text.length
      if there.length = text.length &&
          (there.zip text).all fun (c, d) => sameChar ignoresCase c d
      then [p.advance text.length] else []
    | none => []
  | .anchor a, p => if a.holds p then [p] else []
  | .look true isNegated r, p =>
    match ends r p with
    | [] => if isNegated then [p] else []
    | q :: _ => if isNegated then [] else [{ p with groups := q.groups }]
  | .look false isNegated r, p =>
    let found := (p.backwards p.position).any fun q =>
      (ends r q).any (·.position = p.position)
    if found != isNegated then [p] else []
  | .atomic r, p => (ends r p).take 1
  | .restart, p => [{ p with start := some p.position }]

/-- A match in a text. -/
structure Match where
  /-- Where it begins. -/
  start : Nat
  /-- How long it is. -/
  length : Nat
  /-- What groups have matched. -/
  groups : List (Nat × List Char)

/-- The place behind a match. -/
def Match.stop (m : Match) : Nat := m.start + m.length

/-- Which of the matches that begin at a place counts. -/
inductive Choice where
  /-- The longest one. -/
  | longest
  /-- The one that the expression prefers. -/
  | preferred
  deriving DecidableEq, Repr

/-- The place up to which the match reaches that counts. -/
def Choice.of? (choice : Choice) (qs : List Place) : Option Place :=
  match choice with
  | .preferred => qs.head?
  | .longest => qs.foldl (fun best q => match best with
    | none => some q
    | some b => if b.position < q.position then some q else some b) none

/-- The match from a place on that ends at another one. -/
def matchTo (p q : Place) : Match :=
  let start := q.start.getD p.position
  ⟨start, q.position - start, q.groups⟩

/-- The match that begins at a place. -/
def matchAt (choice : Choice) (r : Regex) (p : Place) : Option Match :=
  (choice.of? (ends r { p with groups := [], start := none })).map (matchTo p)

/-- The first match from a place on. -/
def findFrom (choice : Choice) (r : Regex) : (room : Nat) → Place → Option Match
  | 0, p => matchAt choice r p
  | room + 1, p =>
    match matchAt choice r p with
    | some m => some m
    | none => if p.rest.isEmpty then none else findFrom choice r room p.step

/-- Whether an expression can match at the start of the text only. -/
def isAnchored : Regex → Bool
  | .anchor .textStart => true
  | .next a _ => a.isAnchored
  | .group _ r => r.isAnchored
  | .either a b => a.isAnchored && b.isAnchored
  | _ => false

/-- The first match in a text from a position on, given how matches are chosen. -/
def findBy (choice : Choice) (r : Regex) (text : List Char) (position : Nat) : Option Match :=
  let p := (Place.ofText text).advance position
  if r.isAnchored then matchAt choice r p else findFrom choice r p.rest.length p

/-- The first match in a text from a position on, the longest one there. -/
def find (r : Regex) (text : List Char) (position : Nat) : Option Match :=
  findBy .longest r text position

/-- Whether an expression matches somewhere in a text. -/
def occursIn (r : Regex) (text : List Char) : Bool := (find r text 0).isSome

end ParserConformance.Script.Tool.Regex
