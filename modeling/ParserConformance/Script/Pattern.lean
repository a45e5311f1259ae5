import ParserConformance.Script.Command

/-!
# Patterns

The patterns of a shell: `*` stands for any characters, `?` for any one, brackets for one out of
a set, and everything else, as well as everything quoted, for itself.
-/

namespace ParserConformance.Script

/-- A character and whether it is quoted. -/
structure Marked where
  /-- The character. -/
  char : Char
  /-- Whether it is quoted. -/
  isQuoted : Bool
  deriving DecidableEq, Repr

/-- Characters of which none is quoted. -/
def Marked.bare (cs : List Char) : List Marked := cs.map (⟨·, false⟩)

/-- A set of characters. -/
structure CharSet where
  /-- Whether it holds all characters but those of its ranges. -/
  isNegated : Bool
  /-- Its ranges. -/
  ranges : List (Char × Char)
  deriving DecidableEq, Repr

/-- Whether a set holds a character. -/
def CharSet.contains (s : CharSet) (c : Char) : Bool :=
  (s.ranges.any fun (a, b) => a ≤ c && c ≤ b) != s.isNegated

/-- The ranges of a class of ASCII characters by its name. -/
def classRanges? (name : List Char) : Option (List (Char × Char)) :=
  match String.ofList name with
  | "alnum" => some [('a', 'z'), ('A', 'Z'), ('0', '9')]
  | "alpha" => some [('a', 'z'), ('A', 'Z')]
  | "blank" => some [(' ', ' '), ('\t', '\t')]
  | "cntrl" => some [('\x00', '\x1f'), ('\x7f', '\x7f')]
  | "digit" => some [('0', '9')]
  | "graph" => some [('!', '~')]
  | "lower" => some [('a', 'z')]
  | "print" => some [(' ', '~')]
  | "punct" => some [('!', '/'), (':', '@'), ('[', '`'), ('\x7b', '~')]
  | "space" => some [(' ', ' '), ('\t', '\r')]
  | "upper" => some [('A', 'Z')]
  | "xdigit" => some [('0', '9'), ('a', 'f'), ('A', 'F')]
  | _ => none

/-- The name of a class at the start of what follows on an opening bracket, and what comes
after it. -/
def className? : List Char → Option (List Char × List Char)
  | '[' :: ':' :: cs =>
    let name := cs.takeWhile Char.isAlpha
    match cs.drop name.length with
    | ':' :: ']' :: rest => some (name, rest)
    | _ => none
  | _ => none

/-- The members of a set up to its closing bracket, and what comes after that. A closing bracket
that comes first is a member. Quoted characters are only members. -/
def setMembers : (room : Nat) → (isFirst : Bool) → List Marked →
    Option (List (Char × Char) × List Marked)
  | 0, _, _ => none
  | _ + 1, _, [] => none
  | room + 1, isFirst, m :: ms =>
    if m.char = ']' && !m.isQuoted && !isFirst then some ([], ms)
    else
      match (if m.isQuoted then none else className? ((m :: ms).map (·.char))) with
      | some (name, _) =>
        match classRanges? name with
        | some ranges => do
          let (more, rest) ← setMembers room false ((m :: ms).drop (name.length + 4))
          return (ranges ++ more, rest)
        | none => none
      | none =>
        let (m, ms) := match m, ms with
          | ⟨'\\', false⟩, next :: rest => (next, rest)
          | m, ms => (m, ms)
        match ms with
        | ⟨'-', false⟩ :: last :: rest =>
          if last.char = ']' && !last.isQuoted then do
            let (more, rest) ← setMembers room false ms
            return ((m.char, m.char) :: more, rest)
          else do
            let (more, rest) ← setMembers room false rest
            return ((m.char, last.char) :: more, rest)
        | ms => do
          let (more, rest) ← setMembers room false ms
          return ((m.char, m.char) :: more, rest)

/-- A part of a pattern. -/
inductive PatternPart where
  /-- Any characters. -/
  | any
  /-- Any one character. -/
  | one
  /-- A character out of a set. -/
  | set (s : CharSet)
  /-- A character that stands for itself. -/
  | exactly (c : Char)
  deriving DecidableEq, Repr

/-- The parts that characters make. -/
def patternParts : (room : Nat) → List Marked → List PatternPart
  | 0, _ => []
  | _ + 1, [] => []
  | room + 1, m :: ms =>
    if m.isQuoted then .exactly m.char :: patternParts room ms
    else if m.char = '*' then .any :: patternParts room ms
    else if m.char = '?' then .one :: patternParts room ms
    else if m.char = '\\' then
      match ms with
      | next :: rest => .exactly next.char :: patternParts room rest
      | [] => [.exactly '\\']
    else if m.char = '[' then
      let isNegated := match ms with
        | ⟨'!', false⟩ :: _ | ⟨'^', false⟩ :: _ => true
        | _ => false
      match setMembers (ms.length + 1) true (if isNegated then ms.drop 1 else ms) with
      | some (ranges, rest) => .set ⟨isNegated, ranges⟩ :: patternParts room rest
      | none => .exactly '[' :: patternParts room ms
    else .exactly m.char :: patternParts room ms

/-- The pattern that characters make. -/
def patternOf (ms : List Marked) : List PatternPart := patternParts (ms.length + 1) ms

/-- Whether characters match a pattern. -/
def isMatch : List PatternPart → List Char → Bool
  | [], cs => cs.isEmpty
  | .any :: ps, cs => matchAnywhere (isMatch ps) cs
  | .one :: ps, _ :: cs => isMatch ps cs
  | .set s :: ps, c :: cs => s.contains c && isMatch ps cs
  | .exactly d :: ps, c :: cs => c = d && isMatch ps cs
  | _ :: _, [] => false
where
  /-- Whether a test holds of the characters or of some end of them. -/
  matchAnywhere (test : List Char → Bool) : List Char → Bool
    | [] => test []
    | c :: cs => test (c :: cs) || matchAnywhere test cs

/-- Whether characters that are not quoted might be a pattern. -/
def isPattern (ms : List Marked) : Bool :=
  (ms.any fun m => !m.isQuoted && (m.char = '*' || m.char = '?')) ||
    ((ms.dropWhile fun m => m.isQuoted || m.char ≠ '[').any (·.char = ']'))

/-- Characters without the shortest or longest part at their front that matches. -/
def trimFront (pattern : List PatternPart) (longest : Bool) (cs : List Char) : List Char :=
  let lengths := List.range (cs.length + 1)
  match (if longest then lengths.reverse else lengths).find?
      fun n => isMatch pattern (cs.take n) with
  | some n => cs.drop n
  | none => cs

/-- Characters without the shortest or longest part at their end that matches. -/
def trimEnd (pattern : List PatternPart) (longest : Bool) (cs : List Char) : List Char :=
  let lengths := List.range (cs.length + 1)
  match (if longest then lengths else lengths.reverse).find?
      fun n => isMatch pattern (cs.drop n) with
  | some n => cs.take n
  | none => cs

end ParserConformance.Script
