import ParserConformance.Script.Tool.Call

/-!
# Bytes in other digits

`base64` and its kin write bytes in the digits of a code, a few bits in each, and read them
back. Digits come in groups that stand for whole bytes; what a group lacks at the end is filled
with equals signs.
-/

namespace ParserConformance.Script.Tool.Encoding

/-- A code. -/
structure Code where
  /-- Its digits. -/
  digits : Array Char
  /-- How many bits a digit stands for. -/
  bits : Nat
  /-- How many digits a group has. -/
  group : Nat
  /-- Whether the first bit of a byte is its least one. -/
  isLeastFirst : Bool := false
  /-- Whether the whole bytes of a group that is cut short are read. -/
  readsPartly : Bool := false

/-- The digits of base 32. -/
def letters32 : List Char := "ABCDEFGHIJKLMNOPQRSTUVWXYZ234567".toList

/-- The digits that base 64 begins with. -/
def alphanumerics : List Char :=
  "ABCDEFGHIJKLMNOPQRSTUVWXYZabcdefghijklmnopqrstuvwxyz0123456789".toList

/-- Base 64. -/
def base64 : Code := ⟨(alphanumerics ++ ['+', '/']).toArray, 6, 4, false, true⟩

/-- Base 64 with digits that need no escape in the names of files and places. -/
def base64url : Code := ⟨(alphanumerics ++ ['-', '_']).toArray, 6, 4, false, true⟩

/-- Base 32. -/
def base32 : Code := ⟨letters32.toArray, 5, 8, false, false⟩

/-- Base 32 with digits in the order of their numbers. -/
def base32hex : Code := ⟨"0123456789ABCDEFGHIJKLMNOPQRSTUV".toList.toArray, 5, 8, false, false⟩

/-- Base 16. -/
def base16 : Code := ⟨"0123456789ABCDEF".toList.toArray, 4, 2, false, false⟩

/-- Base 2, the greatest bit of a byte first. -/
def base2msbf : Code := ⟨#['0', '1'], 1, 8, false, false⟩

/-- Base 2, the least bit of a byte first. -/
def base2lsbf : Code := ⟨#['0', '1'], 1, 8, true, false⟩

namespace Code

/-- The bits of a byte, in the order of a code. -/
def bitsOf (code : Code) (byte : Char) : List Bool :=
  let bits := (List.range 8).map byte.toNat.testBit
  if code.isLeastFirst then bits else bits.reverse

/-- The number that bits write, the greatest first. -/
def numberOf (bits : List Bool) : Nat := bits.foldl (fun n b => 2 * n + b.toNat) 0

/-- The byte that bits write in the order of a code. -/
def byteOf (code : Code) (bits : List Bool) : Char :=
  Char.ofNat (numberOf (if code.isLeastFirst then bits.reverse else bits))

/-- The bits of a digit. -/
def bitsOfDigit? (code : Code) (digit : Char) : Option (List Bool) :=
  (code.digits.idxOf? digit).map fun n => ((List.range code.bits).map n.testBit).reverse

/-- Whether a group may have so many digits before its equals signs. -/
def mayHave (code : Code) (count : Nat) : Bool :=
  0 < count && count * code.bits % 8 < code.bits

end Code

/-- A list in parts of a length, the last of which may be shorter. -/
def parts {α : Type} (size : Nat) : (room : Nat) → List α → List (List α)
  | 0, _ => []
  | room + 1, xs => if xs.isEmpty then [] else xs.take size :: parts size room (xs.drop size)

/-- Bytes in a code. -/
def encoded (code : Code) (bytes : List Char) : List Char :=
  let bits := bytes.flatMap code.bitsOf
  let digits := (parts code.bits (bits.length + 1) bits).map fun p =>
    code.digits.getD (Code.numberOf (p ++ List.replicate (code.bits - p.length) false)) '='
  digits ++ List.replicate ((code.group - digits.length % code.group) % code.group) '='

/-- The bytes of a group of digits, and whether the group is as it should be. -/
def decodedGroup (code : Code) (cs : List Char) : List Char × Bool :=
  let digits := cs.takeWhile code.digits.contains
  let behind := cs.drop digits.length
  let bits := (digits.filterMap code.bitsOfDigit?).flatten
  let bytes := ((parts 8 (bits.length + 1) bits).filter (·.length = 8)).map code.byteOf
  let isWhole := cs.length = code.group
  let isRight := isWhole && code.mayHave digits.length && behind.all (· = '=')
  (if isWhole || code.readsPartly then bytes else [], isRight)

/-- The bytes that digits write, and whether all groups are as they should be; what stands
behind one that is not is left out. -/
def decoded (code : Code) (cs : List Char) : List Char × Bool :=
  go (parts code.group (cs.length + 1) cs)
where
  /-- Goes through groups. -/
  go : List (List Char) → List Char × Bool
    | [] => ([], true)
    | g :: gs =>
      let (bytes, isRight) := decodedGroup code g
      if isRight then
        let (more, isAllRight) := go gs
        (bytes ++ more, isAllRight)
      else (bytes, false)

/-- A text in lines of a width; without ends of lines if the width is zero. -/
def wrapped (width : Nat) (cs : List Char) : List Char :=
  if width = 0 then cs else unlines (parts width (cs.length + 1) cs)

/-- Writes bytes in a code, or reads them. -/
def run (code : Code) (c : Call) (o : Options) : Effect :=
  let width := (o.value? 'w').getD "76".toList
  match natural? width, o.operands with
  | none, _ => .ofComplaint c 1 ("invalid wrap size: ".toList ++ quoted width)
  | _, _ :: extra :: _ => .ofMisuse c 1 ("extra operand ".toList ++ quoted extra)
  | some width, operands =>
    let name := operands.headD ['-']
    match contentOf c name with
    | .error .isDirectory => .ofComplaint c 1 "read error: Is a directory".toList
    | .error t => .ofComplaint c 1 (fileComplaint name t)
    | .ok text =>
      let e :=
        if o.has 'd' then
          let text := text.filter fun l =>
            if o.has 'i' then l = '=' || code.digits.contains l else l ≠ '\n'
          let (bytes, isRight) := decoded code text
          let e := Effect.ofOutput c bytes
          if isRight then e else e.complain c 1 "invalid input".toList
        else .ofOutput c (wrapped width (encoded code text))
      if isInput name then e.takingAll c else e

/-- The options that all these tools know. -/
def known : Known where
  flags := "di"
  valued := "w"
  long := [("decode", 'd'), ("ignore-garbage", 'i'), ("wrap", 'w')]

/-- A tool for one code. -/
def tool (code : Code) : Tool := withOptions known 1 (run code)

/-- The codes by the letters that stand for their names. -/
def codes : List (String × Char × Code) :=
  [("base64", 'A', base64), ("base64url", 'B', base64url), ("base32", 'C', base32),
    ("base32hex", 'D', base32hex), ("base16", 'E', base16), ("base2msbf", 'F', base2msbf),
    ("base2lsbf", 'G', base2lsbf)]

/-- Writes bytes in a code that an option names, or reads them. -/
def basenc : Tool :=
  withOptions { known with
    flags := "diABCDEFG", hidden := "ABCDEFG"
    long := known.long ++ codes.map fun (name, letter, _) => (name, letter) } 1 fun c o =>
  match (o.lastOf? "ABCDEFG").bind fun l => codes.find? (·.2.1 = l) with
  | some (_, _, code) => run code c o
  | none => .ofMisuse c 1 "missing encoding type".toList

end ParserConformance.Script.Tool.Encoding
