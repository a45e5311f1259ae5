import ParserConformance.Annotation.Token
import ParserConformance.Instances
import ParserConformance.Text.Blank

/-!
# From characters to tokens

The lexer goes through an annotation one character at a time. Blanks and comments, which run
from `;` to the end of the line, part tokens and mean nothing else. A state says what the
characters since the last token have begun; `step` says what one more character does to it.
-/

namespace ParserConformance.Annotation

/-- What the characters since the last finished token have begun. -/
inductive Mode where
  /-- Nothing: between tokens. -/
  | between
  /-- A comment. -/
  | comment
  /-- A word or number that began at `start`; its characters so far, the last one first. -/
  | word (start : Place) (reversed : List Char)
  /-- A text between quotes that began at `start`; its characters so far, the last first. -/
  | literal (start : Place) (reversed : List Char)
  /-- The same, after a backslash. -/
  | escaped (start : Place) (reversed : List Char)
  deriving DecidableEq, Repr

/-- How far the lexer has come. -/
structure Scan where
  /-- What is being read. -/
  mode : Mode
  /-- The place of the next character. Inside a comment it stays where the comment began, as
  the next token can only stand on a later line. -/
  place : Place
  /-- The finished tokens, the last one first. -/
  reversed : List Located
  deriving DecidableEq, Repr

/-- Nothing read yet. -/
def Scan.initial : Scan := ⟨.between, .first, []⟩

/-- The number that decimal digits write. -/
def valueOf (digits : List Char) : Nat :=
  digits.foldl (fun n c => n * 10 + (c.toNat - '0'.toNat)) 0

/-- The token that a run of word characters makes. A run of digits alone is a number and has
to be below 2^64. -/
def wordToken (cs : List Char) : Except Defect Token :=
  if cs.all Char.isDigit then
    if valueOf cs < 2 ^ 64 then .ok (.number (valueOf cs))
    else .error (.numberTooLarge (String.ofList cs))
  else .ok (.word (String.ofList cs))

/-- The tokens with the word added that began at `start`. -/
def closeWord (start : Place) (word : List Char) (reversed : List Located) :
    Except Fault (List Located) :=
  match wordToken word.reverse with
  | .ok token => .ok (⟨token, start⟩ :: reversed)
  | .error defect => .error ⟨start, defect⟩

/-- What a character does that begins something new. -/
def beginWith (place : Place) (reversed : List Located) (c : Char) : Except Fault Scan :=
  if c = '\n' then .ok ⟨.between, place.newline, reversed⟩
  else if Text.isBlank c then .ok ⟨.between, place.next, reversed⟩
  else if c = ';' then .ok ⟨.comment, place, reversed⟩
  else if c = '"' then .ok ⟨.literal place [], place.next, reversed⟩
  else if Text.isWordChar c then .ok ⟨.word place [c], place.next, reversed⟩
  else
    match Token.ofMark? c with
    | some token => .ok ⟨.between, place.next, ⟨token, place⟩ :: reversed⟩
    | none => .error ⟨place, .strayCharacter c⟩

/-- The character that a backslash and `c` write. -/
def unescape (c : Char) : Char :=
  if c = 'n' then '\n' else if c = 't' then '\t' else c

/-- What one more character does. A newline after a backslash belongs to the text and is
counted as a character of its line. -/
def step (s : Scan) (c : Char) : Except Fault Scan :=
  match s.mode with
  | .between => beginWith s.place s.reversed c
  | .comment => if c = '\n' then beginWith s.place s.reversed c else .ok s
  | .word start word =>
    if Text.isWordChar c then .ok ⟨.word start (c :: word), s.place.next, s.reversed⟩
    else do beginWith s.place (← closeWord start word s.reversed) c
  | .literal start text =>
    if c = '"' then
      .ok ⟨.between, s.place.next, ⟨.literal (String.ofList text.reverse), start⟩ :: s.reversed⟩
    else if c = '\\' then .ok ⟨.escaped start text, s.place.next, s.reversed⟩
    else if c = '\n' then .error ⟨start, .unterminatedText⟩
    else .ok ⟨.literal start (c :: text), s.place.next, s.reversed⟩
  | .escaped start text =>
    .ok ⟨.literal start (unescape c :: text), s.place.next, s.reversed⟩

/-- The tokens of an annotation and the place after its last character. -/
structure Lexed where
  /-- The tokens in order. -/
  tokens : List Located
  /-- Where the annotation ends. -/
  stop : Place
  deriving DecidableEq, Repr

/-- The tokens when no character is left. -/
def Scan.finish (s : Scan) : Except Fault Lexed :=
  match s.mode with
  | .between | .comment => .ok ⟨s.reversed.reverse, s.place⟩
  | .word start word => do return ⟨(← closeWord start word s.reversed).reverse, s.place⟩
  | .literal start _ | .escaped start _ => .error ⟨start, .unterminatedText⟩

/-- The tokens of an annotation. -/
def lex (cs : List Char) : Except Fault Lexed := do (← cs.foldlM step .initial).finish

end ParserConformance.Annotation
