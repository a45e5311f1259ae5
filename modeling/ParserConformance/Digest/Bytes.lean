/-!
# Bytes of digests

Numbers as bytes and back, and how a message is filled up to whole blocks.
-/

namespace ParserConformance.Digest

/-- A number in `count` bytes, the greatest place first. -/
def bigEndian : (count n : Nat) → List UInt8
  | 0, _ => []
  | count + 1, n => bigEndian count (n / 256) ++ [UInt8.ofNat (n % 256)]

/-- A number in `count` bytes, the least place first. -/
def littleEndian : (count n : Nat) → List UInt8
  | 0, _ => []
  | count + 1, n => UInt8.ofNat (n % 256) :: littleEndian count (n / 256)

/-- The number that bytes write, the greatest place first. -/
def ofBigEndian (bytes : List UInt8) : Nat := bytes.foldl (fun n b => n * 256 + b.toNat) 0

/-- The number that bytes write, the least place first. -/
def ofLittleEndian (bytes : List UInt8) : Nat := bytes.foldr (fun b n => n * 256 + b.toNat) 0

/-- A message with a one bit and as many zeros as leave room in a block for `lengthBytes` more
bytes. -/
def padded (blockBytes lengthBytes : Nat) (message : List UInt8) : List UInt8 :=
  let n := message.length + 1 + lengthBytes
  message ++ 0x80 :: List.replicate ((blockBytes - n % blockBytes) % blockBytes) 0

/-- Bytes in parts of a length, as many as are whole. -/
def chunks (size : Nat) (bytes : List UInt8) : List (List UInt8) :=
  go (bytes.length / size) bytes
where
  /-- Takes `count` parts. -/
  go : (count : Nat) → List UInt8 → List (List UInt8)
    | 0, _ => []
    | count + 1, bs => bs.take size :: go count (bs.drop size)

/-- Bytes in hexadecimal digits. -/
def hex (bytes : List UInt8) : String :=
  String.ofList (bytes.flatMap fun b =>
    [Nat.digitChar (b.toNat / 16), Nat.digitChar (b.toNat % 16)])

end ParserConformance.Digest
