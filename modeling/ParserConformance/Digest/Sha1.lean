import ParserConformance.Digest.Bytes

/-!
# SHA-1

The digest of a byte string in 20 bytes: the message is padded to whole blocks of 64 bytes, and
each block is worked into a state of five words in eighty rounds.
-/

namespace ParserConformance.Sha1

/-- The five words worked on. -/
structure State where
  /-- The first word. -/
  a : UInt32
  /-- The second word. -/
  b : UInt32
  /-- The third word. -/
  c : UInt32
  /-- The fourth word. -/
  d : UInt32
  /-- The fifth word. -/
  e : UInt32
  deriving DecidableEq, Repr

/-- The state before the first block. -/
def State.initial : State := ⟨0x67452301, 0xefcdab89, 0x98badcfe, 0x10325476, 0xc3d2e1f0⟩

/-- The words of a state, in order. -/
def State.words (s : State) : List UInt32 := [s.a, s.b, s.c, s.d, s.e]

/-- A word rotated to the left. -/
def rotate (x : UInt32) (n : UInt32) : UInt32 := (x <<< n) ||| (x >>> (32 - n))

/-- How a round mixes three words, and the constant that it adds. -/
def mixing (i : Nat) (b c d : UInt32) : UInt32 × UInt32 :=
  if i < 20 then ((b &&& c) ||| (~~~b &&& d), 0x5a827999)
  else if i < 40 then (b ^^^ c ^^^ d, 0x6ed9eba1)
  else if i < 60 then ((b &&& c) ||| (b &&& d) ||| (c &&& d), 0x8f1bbcdc)
  else (b ^^^ c ^^^ d, 0xca62c1d6)

/-- The round of a number with a word of the schedule. -/
def round (s : State) (w : UInt32) (i : Nat) : State :=
  let (f, k) := mixing i s.b s.c s.d
  ⟨rotate s.a 5 + f + s.e + k + w, s.a, rotate s.b 30, s.c, s.d⟩

/-- The schedule with one more word. -/
def extend (ws : Array UInt32) : Array UInt32 :=
  let word (back : Nat) := ws.getD (ws.size - back) 0
  ws.push (rotate (word 3 ^^^ word 8 ^^^ word 14 ^^^ word 16) 1)

/-- The schedule of a block: its sixteen words and 64 further ones. -/
def schedule (block : Array UInt32) : Array UInt32 :=
  (List.range 64).foldl (fun ws _ => extend ws) block

/-- The state after one more block. -/
def compress (s : State) (block : List UInt8) : State :=
  let words := (Digest.chunks 4 block).map fun w => UInt32.ofNat (Digest.ofBigEndian w)
  let t := (schedule words.toArray).toList.zipIdx.foldl (fun t (w, i) => round t w i) s
  ⟨s.a + t.a, s.b + t.b, s.c + t.c, s.d + t.d, s.e + t.e⟩

/-- The digest of a message: 20 bytes. -/
def digest (message : List UInt8) : List UInt8 :=
  let padded := Digest.padded 64 8 message ++ Digest.bigEndian 8 (8 * message.length)
  ((Digest.chunks 64 padded).foldl compress .initial).words.flatMap
    fun w => Digest.bigEndian 4 w.toNat

end ParserConformance.Sha1
