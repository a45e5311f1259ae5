import ParserConformance.Script.Awk.Lexer

/-!
# Texts of text programs

Parts of texts, texts in which matches of a regular expression are replaced, and how an input is cut
into records and a record into fields. What stands between these is a character or is found by a
regular expression; blanks and empty lines count as often as they come.
-/

namespace ParserConformance.Script.Awk

open Tool (Regex)

/-- The part of a text from a position on, the first one being one, up to a length if one is
given. What lies before the text shortens the part. -/
def partOf (text : List Char) (start : Int) (length : Option Int) : List Char :=
  let rest := text.drop (max start 1 - 1).toNat
  match length with
  | none => rest
  | some n => rest.take (if start < 1 then n - start else n).toNat

/-- The position at which a text occurs in another one, from one on; zero if it does not. -/
def positionIn (part : List Char) : (position : Nat) → List Char → Nat
  | _, [] => 0
  | position, c :: cs =>
    if part.isPrefixOf (c :: cs) then position else positionIn part (position + 1) cs

/-! ### Replacing -/

/-- What is put in the place of a match: a text in which an ampersand stands for the match unless
a backslash stands before it. -/
def filled (found : List Char) : (slashes : Nat) → List Char → List Char
  | slashes, [] => List.replicate slashes '\\'
  | slashes, c :: cs =>
    if c = '\\' then filled found (slashes + 1) cs
    else if c = '&' then
      List.replicate (slashes / 2) '\\' ++ (if slashes % 2 = 1 then ['&'] else found) ++
        filled found 0 cs
    else List.replicate slashes '\\' ++ c :: filled found 0 cs

/-- What replacing has come to. -/
structure Replaced where
  /-- The new text, piece by piece, the last one first. -/
  pieces : List (List Char) := []
  /-- How many matches were replaced. -/
  count : Nat := 0

/-- The new text. -/
def Replaced.text (r : Replaced) : List Char := r.pieces.reverse.flatten

/-- With more text. -/
def Replaced.write (r : Replaced) (cs : List Char) : Replaced :=
  { r with pieces := cs :: r.pieces }

/-- Replaces matches from a place on, all of them or the first one. An empty match right behind
another one does not count. -/
def replaceFrom (all : Bool) (r : Regex) (new : List Char) : (room : Nat) →
    (isBehind : Bool) → Regex.Place → Replaced → Replaced
  | 0, _, p, done => done.write p.rest
  | room + 1, isBehind, p, done =>
    match r.findFrom .longest p.rest.length p with
    | none => done.write p.rest
    | some m =>
      let before := p.rest.take (m.start - p.position)
      let here := p.advance (m.start - p.position)
      let done := done.write before
      if m.length = 0 then
        let done := if isBehind && before.isEmpty then done
          else { done.write (filled [] 0 new) with count := done.count + 1 }
        if !all && 0 < done.count then done.write here.rest
        else
          match here.rest with
          | [] => done
          | c :: _ => replaceFrom all r new room false here.step (done.write [c])
      else
        let found := here.rest.take m.length
        let done := { done.write (filled found 0 new) with count := done.count + 1 }
        let behind := here.advance m.length
        if all then replaceFrom all r new room true behind done else done.write behind.rest

/-- A text with matches replaced. -/
def replaced (all : Bool) (r : Regex) (new text : List Char) : Replaced :=
  replaceFrom all r new (text.length + 1) false (.ofText text) {}

/-! ### Fields -/

/-- What stands between fields. -/
inductive Separator where
  /-- Blanks, which may also stand around all of them. -/
  | blanks
  /-- Nothing. -/
  | nothing
  /-- A character. -/
  | character (c : Char)
  /-- What a regular expression finds. -/
  | regex (r : Regex)

/-- What a text says about what stands between fields. -/
def Separator.ofText : List Char → Except (List Char) Separator
  | [' '] => .ok .blanks
  | [] => .ok .nothing
  | [c] => .ok (.character c)
  | cs => (readRegex cs).map .regex

/-- Whether a character is a blank between fields. -/
def isBlankBetween (c : Char) : Bool := c = ' ' || c = '\t' || c = '\n'

/-- The words of a text, the last one first. -/
def wordsOf : (room : Nat) → List (List Char) → List Char → List (List Char)
  | 0, done, _ => done
  | room + 1, done, cs =>
    let cs := cs.dropWhile isBlankBetween
    if cs.isEmpty then done
    else
      let word := cs.takeWhile (!isBlankBetween ·)
      wordsOf room (word :: done) (cs.drop word.length)

/-- The parts of a text between characters, the last one first. -/
def partsAt (c : Char) : (room : Nat) → List (List Char) → List Char → List (List Char)
  | 0, done, _ => done
  | room + 1, done, cs =>
    let part := cs.takeWhile (· ≠ c)
    match cs.drop part.length with
    | [] => part :: done
    | _ :: rest => partsAt c room (part :: done) rest

/-- The first match from a place on that is not empty. -/
def findSome (r : Regex) : (room : Nat) → Regex.Place → Option Regex.Match
  | 0, _ => none
  | room + 1, p =>
    match (r.matchAt .longest p).filter (0 < ·.length) with
    | some m => some m
    | none => if p.rest.isEmpty then none else findSome r room p.step

/-- The parts of a text between matches from a place on, the last one first. -/
def partsBy (r : Regex) : (room : Nat) → List (List Char) → Regex.Place → List (List Char)
  | 0, done, _ => done
  | room + 1, done, p =>
    match findSome r (p.rest.length + 1) p with
    | none => p.rest :: done
    | some m =>
      partsBy r room (p.rest.take (m.start - p.position) :: done)
        (p.advance (m.stop - p.position))

/-- The fields of a text. -/
def Separator.fields (s : Separator) (text : List Char) : List (List Char) :=
  if text.isEmpty then []
  else
    match s with
    | .blanks => (wordsOf (text.length + 1) [] text).reverse
    | .nothing => text.map fun c => [c]
    | .character c => (partsAt c (text.length + 1) [] text).reverse
    | .regex r => (partsBy r (text.length + 1) [] (.ofText text)).reverse

/-! ### Records -/

/-- What ends a record. -/
inductive Terminator where
  /-- A character. -/
  | character (c : Char)
  /-- Empty lines. -/
  | emptyLines
  /-- What a regular expression finds. -/
  | regex (r : Regex)

/-- What a text says about what ends a record. -/
def Terminator.ofText : List Char → Except (List Char) Terminator
  | [] => .ok .emptyLines
  | [c] => .ok (.character c)
  | cs => (readRegex cs).map .regex

/-- The text up to an empty line, and what comes after it. -/
def upToEmptyLine (reversed : List Char) : List Char → List Char × List Char
  | '\n' :: '\n' :: rest => (reversed.reverse, rest.dropWhile (· = '\n'))
  | ['\n'] | [] => (reversed.reverse, [])
  | c :: rest => upToEmptyLine (c :: reversed) rest

/-- The record at the front of an input, if there is one, and what comes after it. -/
def Terminator.cut? (t : Terminator) (input : List Char) : Option (List Char × List Char) :=
  match t with
  | .character c =>
    if input.isEmpty then none
    else
      let record := input.takeWhile (· ≠ c)
      some (record, input.drop (record.length + 1))
  | .emptyLines =>
    let input := input.dropWhile (· = '\n')
    if input.isEmpty then none else some (upToEmptyLine [] input)
  | .regex r =>
    if input.isEmpty then none
    else
      match findSome r (input.length + 1) (.ofText input) with
      | some m => some (input.take m.start, input.drop m.stop)
      | none => some (input, [])

end ParserConformance.Script.Awk
