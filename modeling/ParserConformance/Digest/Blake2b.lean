import ParserConformance.Digest.Bytes

/-!
# BLAKE2b

The digest of a byte string by RFC 7693 in up to 64 bytes: the message is filled up with zeros
to whole blocks of 128 bytes, and each block is worked into a state of eight words in twelve
rounds. Words have their least byte first.
-/

namespace ParserConformance.Blake2b

/-- The words that digests begin with: the fractions of the square roots of the first eight
primes. -/
def startWords : Array UInt64 := #[
  0x6a09e667f3bcc908, 0xbb67ae8584caa73b, 0x3c6ef372fe94f82b, 0xa54ff53a5f1d36f1,
  0x510e527fade682d1, 0x9b05688c2b3e6c1f, 0x1f83d9abfb41bd6b, 0x5be0cd19137e2179]

/-- The order in which each round takes the words of a block. The last two rounds go on like the
first two. -/
def orders : Array (Array Nat) := #[
  #[0, 1, 2, 3, 4, 5, 6, 7, 8, 9, 10, 11, 12, 13, 14, 15],
  #[14, 10, 4, 8, 9, 15, 13, 6, 1, 12, 0, 2, 11, 7, 5, 3],
  #[11, 8, 12, 0, 5, 2, 15, 13, 10, 14, 3, 6, 7, 1, 9, 4],
  #[7, 9, 3, 1, 13, 12, 11, 14, 2, 6, 5, 10, 4, 0, 15, 8],
  #[9, 0, 5, 7, 2, 4, 10, 15, 14, 1, 11, 12, 6, 8, 3, 13],
  #[2, 12, 6, 10, 0, 11, 8, 3, 4, 13, 7, 5, 15, 14, 1, 9],
  #[12, 5, 1, 15, 14, 13, 4, 10, 0, 7, 6, 3, 9, 2, 8, 11],
  #[13, 11, 7, 14, 12, 1, 3, 9, 5, 0, 15, 4, 8, 6, 2, 10],
  #[6, 15, 14, 9, 11, 3, 0, 8, 12, 2, 13, 7, 1, 4, 10, 5],
  #[10, 2, 8, 4, 7, 6, 1, 5, 15, 11, 9, 14, 3, 12, 13, 0]]

/-- A word rotated to the right. -/
def rotate (x : UInt64) (n : UInt64) : UInt64 := (x >>> n) ||| (x <<< (64 - n))

/-- The sixteen words worked on after two words of the block are mixed into four of them. -/
def mix (v : Array UInt64) (a b c d : Nat) (x y : UInt64) : Array UInt64 :=
  let word (i : Nat) := v.getD i 0
  let va := word a + word b + x
  let vd := rotate (word d ^^^ va) 32
  let vc := word c + vd
  let vb := rotate (word b ^^^ vc) 24
  let va := va + vb + y
  let vd := rotate (vd ^^^ va) 16
  let vc := vc + vd
  let vb := rotate (vb ^^^ vc) 63
  (((v.set! a va).set! b vb).set! c vc).set! d vd

/-- The places that a round mixes: the columns of a square and then its diagonals. -/
def places : List (Nat × Nat × Nat × Nat) :=
  [(0, 4, 8, 12), (1, 5, 9, 13), (2, 6, 10, 14), (3, 7, 11, 15),
    (0, 5, 10, 15), (1, 6, 11, 12), (2, 7, 8, 13), (3, 4, 9, 14)]

/-- The round of a number with the words of a block. -/
def round (block : Array UInt64) (v : Array UInt64) (i : Nat) : Array UInt64 :=
  let order := orders.getD (i % 10) #[]
  let word (k : Nat) := block.getD (order.getD k 0) 0
  places.zipIdx.foldl (fun v ((a, b, c, d), j) => mix v a b c d (word (2 * j)) (word (2 * j + 1))) v

/-- The state after one more block, up to which so many bytes have been taken. -/
def compress (state : Array UInt64) (block : List UInt8) (count : Nat) (isLast : Bool) :
    Array UInt64 :=
  let words := ((Digest.chunks 8 block).map fun w =>
    UInt64.ofNat (Digest.ofLittleEndian w)).toArray
  let v := state ++ startWords
  let v := v.modify 12 (· ^^^ UInt64.ofNat count)
  let v := if isLast then v.modify 14 (~~~·) else v
  let v := (List.range 12).foldl (round words) v
  state.mapIdx fun i h => h ^^^ v.getD i 0 ^^^ v.getD (i + 8) 0

/-- The digest of a message in `size` bytes. -/
def digest (size : Nat) (message : List UInt8) : List UInt8 :=
  let start := startWords.modify 0 (· ^^^ UInt64.ofNat (0x01010000 + size))
  let n := message.length
  let count := max 1 ((n + 127) / 128)
  let blocks := Digest.chunks 128 (message ++ List.replicate (count * 128 - n) 0)
  let state := blocks.zipIdx.foldl
    (fun s (block, i) => compress s block (min n ((i + 1) * 128)) (i + 1 = count)) start
  (state.toList.flatMap fun w => Digest.littleEndian 8 w.toNat).take size

end ParserConformance.Blake2b
