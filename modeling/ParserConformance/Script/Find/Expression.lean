import ParserConformance.Script.Pattern
import ParserConformance.Script.Tool.Regex.Matching
import ParserConformance.Script.Tool.Status

/-!
# Expressions that search for files

An expression asks something of a file and may do something with it. Tests and actions are joined so
that the later ones are looked at only if that can make a difference.

An action can print a format, which is a text with directives, which stand for what is known of a file,
and with escapes.
-/

namespace ParserConformance.Script.Find

open Tool (Regex Status)
open Tool.Stat (Style)

/-! ### Formats -/

/-- A part of a format. -/
inductive Piece where
  /-- A text. -/
  | text (cs : List Char)
  /-- What is known of a file, by a letter. -/
  | field (s : Style) (letter : Char)
  /-- A time of a file as a letter shows it. -/
  | time (s : Style) (letter : Char)
  /-- The end of the output. -/
  | stop

/-- The letters of directives. -/
def fieldLetters : List Char := "abcdDfFgGhHiklmMnpPsStuUyYZ".toList

/-- The characters that letters stand for behind a backslash. -/
def letterEscapes : List (Char × Char) :=
  [('a', '\x07'), ('b', '\x08'), ('f', '\x0c'), ('n', '\n'), ('r', '\r'), ('t', '\t'),
    ('v', '\x0b'), ('\\', '\\')]

/-- Reads a format; gives also what there is to warn of. As an error, a complaint. -/
def pieces : (room : Nat) → List Char → Except (List Char) (List Piece × List (List Char))
  | 0, _ | _, [] => .ok ([], [])
  | room + 1, '\\' :: cs => do
    match cs with
    | [] =>
      return ([.text ['\\']], ["warning: escape \x60\\' followed by nothing at all".toList])
    | 'c' :: _ => return ([.stop], [])
    | c :: rest =>
      let digits := (cs.take 3).takeWhile isOctal
      if !digits.isEmpty then
        let (more, warnings) ← pieces room (cs.drop digits.length)
        return (.text [Script.octalByte digits] :: more, warnings)
      else
        let (more, warnings) ← pieces room rest
        match letterEscapes.lookup c with
        | some d => return (.text [d] :: more, warnings)
        | none =>
          return (.text ['\\', c] :: more,
            ("warning: unrecognized escape \x60\\".toList ++ [c, '\'']) :: warnings)
  | room + 1, '%' :: cs => do
    let flags := cs.takeWhile fun l => "-+ #0".toList.contains l
    let behind := cs.drop flags.length
    let width := behind.takeWhile isDigit
    let behind := behind.drop width.length
    let (precision, behind) := match behind with
      | '.' :: rest => (some (rest.takeWhile isDigit), rest.dropWhile isDigit)
      | rest => (none, rest)
    let style : Style := ⟨flags, valueOf width, precision⟩
    let written (left : Nat) : List Char := '%' :: cs.take (cs.length - left)
    match behind with
    | [] => throw "error: % at end of format string".toList
    | '%' :: rest =>
      let (more, warnings) ← pieces room rest
      return (.text ['%'] :: more, warnings)
    | letter :: rest =>
      let isTime := ['A', 'B', 'C', 'T'].contains letter
      match isTime, rest with
      | true, [] =>
        return ([.text (written 0)], ["warning: format directive \x60".toList ++ written 0 ++
          "' should be followed by another character".toList])
      | true, which :: rest =>
        let (more, warnings) ← pieces room rest
        return (.time style which :: more, warnings)
      | false, rest =>
        let (more, warnings) ← pieces room rest
        if fieldLetters.contains letter then return (.field style letter :: more, warnings)
        else
          return (.text (written rest.length) :: more,
            ("warning: unrecognized format directive \x60".toList ++ written rest.length ++
              ['\'']) :: warnings)
  | room + 1, cs => do
    let text := cs.takeWhile fun c => c ≠ '%' && c ≠ '\\'
    let (more, warnings) ← pieces room (cs.drop text.length)
    return (.text text :: more, warnings)

/-- A file that was found. -/
structure Found where
  /-- The path at which the search began. -/
  start : List Char
  /-- Its path. -/
  path : List Char
  /-- How deep it is below that. -/
  depth : Nat
  /-- Its status, that of its target if links are followed. -/
  status : Status
  /-- Its own status. -/
  own : Status
  /-- The status of what it leads to, if it leads to something. -/
  target : Except Trouble Status

namespace Found

/-- The path below the one at which the search began. -/
def inner (f : Found) : List Char :=
  let rest := f.path.drop f.start.length
  if rest.head? = some '/' then rest.drop 1 else rest

/-- The path of its directory, as a format shows it. -/
def holder (f : Found) : List Char :=
  let before := f.path.reverse.dropWhile (· ≠ '/')
  match before with
  | [] => ['.']
  | _ => (before.drop 1).reverse

/-- Its name, as a format shows it. -/
def name (f : Found) : List Char :=
  if (f.path.drop 1).getLast? = some '/' then Tool.lastName f.path ++ ['/']
  else Tool.lastName f.path

/-- The letter of a kind of file. -/
def kindLetter (s : Status) : Char := if s.letter = '-' then 'f' else s.letter

end Found

/-- The decimals of the seconds of a moment. -/
def decimals (moment : Int) : List Char :=
  '.' :: (digitsOf (1000000000 + (moment % Tool.Time.second).toNat)).drop 1 ++ ['0']

/-- A moment as a letter shows it. -/
def timeText (zone : Tool.Time.Zone) (moment : Int) (letter : Char) : List Char :=
  let shown (format : String) : List Char := Tool.Time.format moment zone format.toList
  match letter with
  | '@' => digitsOfInt (moment / Tool.Time.second) ++ decimals moment
  | 'S' => shown "%S" ++ decimals moment
  | 'T' | 'X' => shown "%H:%M:%S" ++ decimals moment
  | '+' => shown "%Y-%m-%d+%H:%M:%S" ++ decimals moment
  | 'r' => shown "%I:%M:%S" ++ decimals moment ++ shown " %p"
  | letter => Tool.Time.format moment zone ['%', letter]

/-- What a directive stands for. -/
def fieldText (zone : Tool.Time.Zone) (f : Found) (s : Style) (letter : Char) : List Char :=
  let status := f.status
  match letter with
  | 'a' | 'c' | 't' =>
    let shown (format : String) : List Char :=
      Tool.Time.format status.changed zone format.toList
    s.text (shown "%a %b %e %H:%M:%S" ++ decimals status.changed ++ shown " %Y")
  | 'b' => s.text (digitsOf status.blocks)
  | 'd' => s.number "" (digitsOf f.depth)
  | 'f' => s.text f.name
  | 'F' => s.text "overlay".toList
  | 'g' | 'u' => s.text "root".toList
  | 'D' | 'G' | 'U' => s.text ['0']
  | 'h' => s.text f.holder
  | 'H' => s.text f.start
  | 'i' => s.text (digitsOf status.number)
  | 'k' => s.text (digitsOf ((status.blocks + 1) / 2))
  | 'l' => s.text (match status.entry with
      | .link target => ofText target
      | _ => [])
  | 'm' => s.number "0" (Nat.toDigits 8 status.mode)
  | 'M' => s.text status.letters
  | 'n' => s.text (digitsOf status.links)
  | 'p' => s.text f.path
  | 'P' => s.text f.inner
  | 's' => s.text (digitsOf status.size)
  | 'S' =>
    if status.size = 0 then s.text ['1']
    else
      let plain : Layout := ⟨false, [], false, false, 0, none⟩
      s.text (plain.real 'g' ⟨false, .ofQuotient (status.blocks * 512) status.size⟩)
  | 'y' => s.text [Found.kindLetter status]
  | 'Y' => s.text [match f.target with
      | .ok t => Found.kindLetter t
      | .error .tooManyLinks => 'L'
      | .error .notFound | .error .notDirectory => 'N'
      | .error _ => '?']
  | _ => []

/-- A file in a format. -/
def formatted (zone : Tool.Time.Zone) (f : Found) : List Piece → List Char
  | [] | .stop :: _ => []
  | .text cs :: ps => cs ++ formatted zone f ps
  | .field s letter :: ps => fieldText zone f s letter ++ formatted zone f ps
  | .time s letter :: ps => s.text (timeText zone f.status.changed letter) ++ formatted zone f ps

/-- A file in a long line. -/
def longLine (zone : Tool.Time.Zone) (now : Int) (f : Found) : List Char :=
  let s := f.status
  let isRecent := now - 31556952 / 2 * Tool.Time.second < s.changed && s.changed ≤ now
  let time := Tool.Time.format s.changed zone
    (if isRecent then "%b %e %H:%M" else "%b %e  %Y").toList
  let target := match s.entry with
    | .link target => " -> ".toList ++ ofText target
    | _ => []
  Tool.padLeft 9 (digitsOf s.number) ++ ' ' :: Tool.padLeft 6 (digitsOf ((s.blocks + 1) / 2)) ++
    ' ' :: s.letters ++ ' ' :: Tool.padLeft 3 (digitsOf s.links) ++ ' ' ::
    Tool.padRight 8 "root".toList ++ ' ' :: Tool.padRight 8 "root".toList ++ ' ' ::
    Tool.padLeft 8 (digitsOf s.size) ++ ' ' :: time ++ ' ' :: f.path ++ target ++ ['\n']

/-! ### Expressions -/

/-- How a number has to stand to another one. -/
inductive Bound (α : Type) where
  /-- It is equal. -/
  | exactly (n : α)
  /-- It is greater. -/
  | above (n : α)
  /-- It is less. -/
  | below (n : α)

/-- Whether a number is within a bound. -/
def Bound.holds (n : Nat) : Bound Nat → Bool
  | .exactly m => n = m
  | .above m => m < n
  | .below m => n < m

/-- Which bits a mode has to have. -/
inductive ModeBound where
  /-- These and no others. -/
  | exactly (bits : Nat)
  /-- All of these. -/
  | all (bits : Nat)
  /-- One of these, if there are any. -/
  | any (bits : Nat)

/-- A text that is compared with a pattern. -/
inductive Subject where
  /-- The last name of a path. -/
  | name
  /-- The path. -/
  | path
  /-- What a link leads to. -/
  | target

/-- What is asked of a file. -/
inductive Test where
  /-- Nothing; the answer is known. -/
  | known (answer : Bool)
  /-- Whether a text matches a pattern. -/
  | fits (s : Subject) (ignoresCase : Bool) (pattern : List PatternPart)
  /-- Whether the whole path matches a regular expression. -/
  | regex (r : Regex)
  /-- Whether its kind has one of these letters; that of a link is the one of its target if
  `follows`, else of itself, the other way round if links are followed anyway. -/
  | kind (follows : Bool) (letters : List Char)
  /-- How many units it takes. -/
  | size (unit : Nat) (b : Bound Nat)
  /-- Whether nothing is in it. -/
  | empty
  /-- Whether it was changed after a moment. -/
  | changedAfter (moment : Int)
  /-- Whether it was changed before a moment. -/
  | changedBefore (moment : Int)
  /-- Whether it was changed in a time from a moment on, not at that moment. -/
  | changedWithin (moment length : Int)
  /-- Which bits its mode has. -/
  | mode (b : ModeBound)
  /-- Whether it can be read, written or run, as the bits of its owner say. -/
  | access (bits : Nat)
  /-- How many names it has. -/
  | links (b : Bound Nat)
  /-- Its number. -/
  | number (b : Bound Nat)
  /-- The number of its owner or its group. -/
  | owner (b : Bound Nat)
  /-- Whether it is the file at a place. -/
  | sameAs (place : Location)

/-- Where an action writes. -/
inductive Sink where
  /-- To the output. -/
  | output
  /-- To the errors. -/
  | errors
  /-- To a file. -/
  | file (path : List Char)

/-- What is done with a file. -/
inductive Action where
  /-- Its path is written with something behind it. -/
  | print (sink : Sink) (stop : Char)
  /-- It is shown by a format. -/
  | format (sink : Sink) (format : List Piece)
  /-- It is shown in a long line. -/
  | list (sink : Sink)
  /-- It is removed. -/
  | delete
  /-- What is in it is passed over. -/
  | prune
  /-- The search ends. -/
  | quit
  /-- A program is run for it, in its directory if `inside`, after a question if `asks`. -/
  | run (call : List (List Char)) (inside asks : Bool)
  /-- It is kept for a program that is run for many files; kept ones are known by a number. -/
  | gather (number : Nat) (inside : Bool)

/-- An expression. -/
inductive Expr where
  /-- A test. -/
  | test (t : Test)
  /-- An action. -/
  | action (a : Action)
  /-- What does not hold. -/
  | negation (e : Expr)
  /-- What holds if both do. -/
  | both (a b : Expr)
  /-- What holds if one of the two does. -/
  | either (a b : Expr)
  /-- What holds if the second one does. -/
  | sequence (a b : Expr)

/-- When links are followed. -/
inductive Following where
  /-- Never. -/
  | never
  /-- Where the search begins. -/
  | first
  /-- Always. -/
  | always
  deriving DecidableEq

/-- A search. -/
structure Search where
  /-- Where it begins. -/
  starts : List (List Char)
  /-- When links are followed. -/
  following : Following
  /-- How deep files have to be at least. -/
  least : Nat
  /-- How deep they may be. -/
  greatest : Option Nat
  /-- Whether a directory comes after what is in it. -/
  isUpwards : Bool
  /-- What is asked and done. -/
  expr : Expr
  /-- The programs that are run for many files, with whether that is done in their directory. -/
  gathered : List (List (List Char) × Bool)
  /-- The files that are written to. -/
  files : List (List Char)
  /-- What there is to warn of. -/
  warnings : List (List Char)

end ParserConformance.Script.Find
