/-!
# UTF-8

Bytes read as characters. Bytes that encode no character are kept as broken pieces, each the
longest start of an encoding that cannot be completed, so that a reader can place the fault
and a display can put one replacement character for each of them.
-/

namespace ParserConformance.Text

/-- What a run of bytes says. -/
inductive Piece where
  /-- The bytes encode a character. -/
  | char (c : Char)
  /-- The bytes begin no character, or one that they do not complete. -/
  | broken (first : UInt8) (rest : List UInt8)
  deriving DecidableEq, Repr

/-- How many bytes a piece was read from. -/
def Piece.size : Piece → Nat
  | .char c => c.utf8Size
  | .broken _ rest => rest.length + 1

/-- The least and greatest second byte after a first byte, and how many bytes follow the
first one altogether. -/
def followers (b : UInt8) : Option (UInt8 × UInt8 × Nat) :=
  if 0xC2 ≤ b && b ≤ 0xDF then some (0x80, 0xBF, 1)
  else if b = 0xE0 then some (0xA0, 0xBF, 2)
  else if b = 0xED then some (0x80, 0x9F, 2)
  else if 0xE1 ≤ b && b ≤ 0xEF then some (0x80, 0xBF, 2)
  else if b = 0xF0 then some (0x90, 0xBF, 3)
  else if 0xF1 ≤ b && b ≤ 0xF3 then some (0x80, 0xBF, 3)
  else if b = 0xF4 then some (0x80, 0x8F, 3)
  else none

/-- The code point written by a first byte that `count` bytes follow. -/
def codePoint (b : UInt8) (count : Nat) (tail : List UInt8) : Nat :=
  tail.foldl (fun n t => n * 64 + (t.toNat - 0x80))
    (b.toNat - (if count = 1 then 0xC0 else if count = 2 then 0xE0 else 0xF0))

/-- The bytes that continue an encoding: at most `count`, the first between `low` and `high`
and the others between 0x80 and 0xBF. -/
def takeTail (low high : UInt8) : (count : Nat) → List UInt8 → List UInt8
  | 0, _ => []
  | _ + 1, [] => []
  | count + 1, b :: bs =>
    if low ≤ b && b ≤ high then b :: takeTail 0x80 0xBF count bs else []

/-- The pieces of a byte string, in order. -/
def pieces : List UInt8 → List Piece
  | [] => []
  | b :: bs =>
    if b < 0x80 then .char (Char.ofNat b.toNat) :: pieces bs
    else
      match followers b with
      | none => .broken b [] :: pieces bs
      | some (low, high, count) =>
        let tail := takeTail low high count bs
        let piece :=
          if tail.length = count then .char (Char.ofNat (codePoint b count tail))
          else .broken b tail
        piece :: pieces (bs.drop tail.length)
termination_by bs => bs.length

/-- The character of a piece, or the replacement character. -/
def Piece.shown : Piece → Char
  | .char c => c
  | .broken _ _ => '\uFFFD'

/-- The bytes as text, with a replacement character for each broken piece. -/
def decodeLossy (bs : List UInt8) : String := String.ofList ((pieces bs).map Piece.shown)

/-- The characters of pieces none of which is broken. -/
def wholeChars : List Piece → Option (List Char)
  | [] => some []
  | .char c :: ps => (wholeChars ps).map (c :: ·)
  | .broken _ _ :: _ => none

/-- The bytes as text, if they are UTF-8 throughout. -/
def decode? (bs : List UInt8) : Option String := (wholeChars (pieces bs)).map String.ofList

/-- The UTF-8 encoding of a string. -/
def encode (s : String) : List UInt8 := s.toUTF8.toList

end ParserConformance.Text
