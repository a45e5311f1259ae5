import ParserConformance.Script.Pattern

/-!
# Regular expressions

What regular expressions are made of, and what can be wrong with their writing.
-/

namespace ParserConformance.Script.Tool

/-- A place that is no character. -/
inductive Regex.Anchor where
  /-- The start of the text. -/
  | textStart
  /-- The end of the text. -/
  | textEnd
  /-- The start of the text or of a line in it. -/
  | lineStart
  /-- The end of the text or of a line in it. -/
  | lineEnd
  /-- The end of the text, or the place before a line's end that stands there. -/
  | lastEnd
  /-- The start of a word. -/
  | wordStart
  /-- The end of a word. -/
  | wordEnd
  /-- The start or the end of a word. -/
  | edge
  /-- Neither the start nor the end of a word. -/
  | noEdge
  deriving DecidableEq, Repr

/-- Which of several repetitions counts first. -/
inductive Regex.Greed where
  /-- The longest one. -/
  | greedy
  /-- The shortest one. -/
  | lazy
  /-- The longest one, and no other. -/
  | possessive
  deriving DecidableEq, Repr

/-- A regular expression. -/
inductive Regex where
  /-- Nothing at all. -/
  | nothing
  /-- A character out of a set. -/
  | set (s : CharSet)
  /-- One expression after the other. -/
  | next (a b : Regex)
  /-- One of two expressions. -/
  | either (a b : Regex)
  /-- An expression a number of times. -/
  | times (least : Nat) (most : Option Nat) (greed : Regex.Greed) (r : Regex)
  /-- An expression whose match is kept under a number. -/
  | group (n : Nat) (r : Regex)
  /-- What a group has matched, perhaps in the other case. -/
  | back (ignoresCase : Bool) (n : Nat)
  /-- A place. -/
  | anchor (a : Regex.Anchor)
  /-- A place behind or before which an expression matches, or does not. -/
  | look (isAhead isNegated : Bool) (r : Regex)
  /-- An expression of whose matches only the first counts. -/
  | atomic (r : Regex)
  /-- The place at which the match is taken to begin. -/
  | restart
  deriving Repr

namespace Regex

/-- What is wrong with an expression. -/
inductive Fault where
  /-- A bracket that is not closed. -/
  | unmatchedBracket
  /-- An opening parenthesis that is not closed. -/
  | unmatchedOpening
  /-- A closing parenthesis that was not opened. -/
  | unmatchedClosing
  /-- A brace that is not closed. -/
  | unmatchedBrace
  /-- Something else than bounds between braces. -/
  | badBounds
  /-- A range that goes backwards. -/
  | badRange
  /-- A repetition of nothing. -/
  | badRepetition
  /-- A backslash at the end. -/
  | trailingBackslash
  /-- A reference to a group that is not there. -/
  | badReference
  /-- A class that does not exist. -/
  | badClass
  /-- A name of a character that does not exist. -/
  | badName
  /-- A repetition that is too great. -/
  | tooBig
  /-- Something else. -/
  | other
  deriving DecidableEq, Repr

/-- The wording of a fault. -/
def Fault.message : Fault → String
  | .unmatchedBracket => "Unmatched [, [^, [:, [., or [="
  | .unmatchedOpening => "Unmatched ( or \\("
  | .unmatchedClosing => "Unmatched ) or \\)"
  | .unmatchedBrace => "Unmatched \\\x7b"
  | .badBounds => "Invalid content of \\\x7b\\\x7d"
  | .badRange => "Invalid range end"
  | .badRepetition => "Invalid preceding regular expression"
  | .trailingBackslash => "Trailing backslash"
  | .badReference => "Invalid back reference"
  | .badClass => "Invalid character class name"
  | .badName => "Invalid collation character"
  | .tooBig => "Regular expression too big"
  | .other => "Invalid regular expression"

/-! ### Sets -/

/-- The ranges of characters that words are made of. -/
def wordRanges : List (Char × Char) := [('a', 'z'), ('A', 'Z'), ('0', '9'), ('_', '_')]

/-- The ranges of white space. -/
def spaceRanges : List (Char × Char) := [(' ', ' '), ('\t', '\r')]

/-- The part of a range between two characters, moved by a distance. -/
def shifted (low high : Char) (distance : Int) (r : Char × Char) : List (Char × Char) :=
  let a := max low.toNat r.1.toNat
  let b := min high.toNat r.2.toNat
  let move (n : Nat) : Char := Char.ofNat ((n : Int) + distance).toNat
  if a ≤ b then [(move a, move b)] else []

/-- Ranges with the letters of both cases. -/
def bothCases (ranges : List (Char × Char)) : List (Char × Char) :=
  ranges ++ ranges.flatMap fun r => shifted 'a' 'z' (-32) r ++ shifted 'A' 'Z' 32 r

/-- An expression that matches one of some characters. -/
def ofRanges (ignoresCase isNegated : Bool) (ranges : List (Char × Char)) : Regex :=
  .set ⟨isNegated, if ignoresCase then bothCases ranges else ranges⟩

/-- An expression that matches one character. -/
def exactly (ignoresCase : Bool) (c : Char) : Regex := ofRanges ignoresCase false [(c, c)]

/-- An expression that matches any character. -/
def any : Regex := .set ⟨true, []⟩

/-- An expression that matches any character but the end of a line. -/
def anyInLine : Regex := .set ⟨true, [('\n', '\n')]⟩

/-- An expression that matches characters as they are. -/
def ofChars (ignoresCase : Bool) : List Char → Regex
  | [] => .nothing
  | [c] => exactly ignoresCase c
  | c :: cs => .next (exactly ignoresCase c) (ofChars ignoresCase cs)

/-- One expression after the other, where nothing is left out. -/
def then' (a b : Regex) : Regex :=
  match a, b with
  | .nothing, b => b
  | a, .nothing => a
  | a, b => .next a b

/-- The number of the last group of an expression. -/
def groupCount : Regex → Nat
  | .next a b | .either a b => max a.groupCount b.groupCount
  | .times _ _ _ r | .look _ _ r | .atomic r => r.groupCount
  | .group n r => max n r.groupCount
  | _ => 0

end Regex

end ParserConformance.Script.Tool
