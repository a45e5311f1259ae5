import ParserConformance.Digest.Blake2b
import ParserConformance.Digest.Md5
import ParserConformance.Digest.Sha1
import ParserConformance.Digest.Sha2
import ParserConformance.Script.Tool.Count
import ParserConformance.Script.Tool.Encoding

/-!
# Digests of files

`md5sum` and its kin write digests of files, and check files against lists of digests that were
written before. `cksum` can be told which of the ways it takes.
-/

namespace ParserConformance.Script.Tool.Digests

/-- A way to take digests. -/
structure Way where
  /-- Its name in lists that name it. -/
  label : String
  /-- How many bytes a digest has. -/
  size : Nat
  /-- The digest of a message in so many bytes. -/
  digest : (size : Nat) → List UInt8 → List UInt8
  /-- Whether other sizes can be asked for. -/
  isSizable : Bool := false

/-- MD5. -/
def md5 : Way := ⟨"MD5", 16, fun _ => Md5.digest, false⟩

/-- SHA-1. -/
def sha1 : Way := ⟨"SHA1", 20, fun _ => Sha1.digest, false⟩

/-- SHA-224. -/
def sha224 : Way := ⟨"SHA224", 28, fun _ => Sha256.digest224, false⟩

/-- SHA-256. -/
def sha256 : Way := ⟨"SHA256", 32, fun _ => Sha256.digest, false⟩

/-- SHA-384. -/
def sha384 : Way := ⟨"SHA384", 48, fun _ => Sha512.digest384, false⟩

/-- SHA-512. -/
def sha512 : Way := ⟨"SHA512", 64, fun _ => Sha512.digest, false⟩

/-- BLAKE2b. -/
def blake2b : Way := ⟨"BLAKE2b", 64, Blake2b.digest, true⟩

/-- The ways that lists may name. -/
def ways : List Way := [md5, sha1, sha224, sha256, sha384, sha512, blake2b]

/-! ### Writing lists -/

/-- Characters that a line cannot hold, as escapes. -/
def escaped (name : List Char) : List Char :=
  name.flatMap fun c => match c with
    | '\n' => "\\n".toList
    | '\r' => "\\r".toList
    | '\\' => "\\\\".toList
    | c => [c]

/-- The characters that escapes stand for. -/
def unescaped : List Char → List Char
  | '\\' :: 'n' :: cs => '\n' :: unescaped cs
  | '\\' :: 'r' :: cs => '\r' :: unescaped cs
  | '\\' :: '\\' :: cs => '\\' :: unescaped cs
  | c :: cs => c :: unescaped cs
  | [] => []

/-- How lists are written. -/
structure Form where
  /-- The way. -/
  way : Way
  /-- How many bytes digests have. -/
  size : Nat
  /-- Whether each line names the way. -/
  isTagged : Bool
  /-- The mark before names. -/
  mark : Char
  /-- The end of each line. -/
  stop : Char
  /-- Whether digests are written in base 64. -/
  isShort : Bool := false

/-- The name of a way with a size. -/
def labelOf (way : Way) (size : Nat) : List Char :=
  way.label.toList ++ if size = way.size then [] else '-' :: digitsOf (8 * size)

/-- A digest as it is written. -/
def Form.textOf (f : Form) (content : List Char) : List Char :=
  let bytes := f.way.digest f.size (toBytes content)
  if f.isShort then Encoding.encoded Encoding.base64 (ofBytes bytes) else (Digest.hex bytes).toList

/-- A line with the digest of a file. -/
def Form.line (f : Form) (name content : List Char) : List Char :=
  let shown := if f.stop = '\n' then escaped name else name
  let text := f.textOf content
  (if shown = name then [] else ['\\']) ++
    (if f.isTagged then
      labelOf f.way f.size ++ " (".toList ++ shown ++ ") = ".toList ++ text
    else text ++ ' ' :: f.mark :: shown) ++ [f.stop]

/-- Writes lines with the digests of files. -/
def write (c : Call) (o : Options) (f : Form) : Effect :=
  let e : Effect := (inputs c o.operands).foldl (fun e (name, r) => match r with
    | .ok text => e.write (f.line name text)
    | .error t => e.complain c 1 (fileComplaint name t)) (.ofStatus c 0)
  if readsInput o.operands then e.takingAll c else e

/-! ### Checking lists -/

/-- What a line of a list says. -/
structure Claim where
  /-- The way that the digest was taken. -/
  way : Way
  /-- How many bytes it has. -/
  size : Nat
  /-- The name of the file. -/
  name : List Char
  /-- The digest, in hexadecimal digits or in base 64. -/
  text : List Char

/-- Whether characters are the digits of a digest of a size, or that in base 64. -/
def isDigest (size : Nat) (cs : List Char) : Bool :=
  (cs.length = 2 * size && cs.all (isDigitOf 16)) ||
    (cs.length = (size + 2) / 3 * 4 && cs.all fun c =>
      c.isAlphanum || c = '+' || c = '/' || c = '=')

/-- What a line says that names its way. -/
def taggedClaim? (allowed : List Way) (cs : List Char) : Option Claim :=
  allowed.findSome? fun way => do
    let label := way.label.toList
    if !label.isPrefixOf cs then none
    let rest := cs.drop label.length
    let digits := match rest with
      | '-' :: more => more.takeWhile isDigit
      | _ => []
    let (size, rest) ←
      if digits.isEmpty then some (way.size, rest)
      else if way.isSizable && valueOf digits % 8 = 0 && 0 < valueOf digits &&
        valueOf digits ≤ 8 * way.size then
        some (valueOf digits / 8, rest.drop (digits.length + 1))
      else none
    let rest := rest.dropWhile (· = ' ')
    if rest.head? ≠ some '(' then none
    let rest := rest.drop 1
    let behind := rest.reverse.takeWhile (· ≠ ')')
    if behind.length = rest.length then none
    let name := rest.take (rest.length - behind.length - 1)
    let text := behind.reverse.dropWhile fun c => c = ' ' || c = '\t'
    if text.head? ≠ some '=' then none
    let text := (text.drop 1).dropWhile fun c => c = ' ' || c = '\t'
    if isDigest size text then some ⟨way, size, name, text⟩ else none

/-- What a line says that does not name its way. -/
def plainClaim? (way : Way) (size? : Option Nat) (cs : List Char) : Option Claim := do
  let text := cs.takeWhile fun c => c ≠ ' ' && c ≠ '\t'
  let size := match size? with
    | some size => size
    | none => if way.isSizable && text.all (isDigitOf 16) then text.length / 2 else way.size
  if !isDigest size text || way.size < size || size = 0 then none
  match cs.drop text.length with
  | _ :: mark :: name =>
    if mark = ' ' || mark = '*' then some ⟨way, size, name, text⟩ else none
  | _ => none

/-- What a line says. -/
def claim? (way? : Option Way) (size? : Option Nat) (line : List Char) : Option Claim := do
  let cs := line.dropWhile fun c => c = ' ' || c = '\t'
  let cs := if cs.getLast? = some '\r' then cs.dropLast else cs
  let (isEscaped, cs) := match cs with
    | '\\' :: rest => (true, rest)
    | rest => (false, rest)
  let plain? := match way? with
    | some way => plainClaim? way size? cs
    | none => none
  let claim ← (taggedClaim? (way?.elim ways (fun w => [w])) cs).or plain?
  return if isEscaped then { claim with name := unescaped claim.name } else claim

/-- How lists are checked. -/
structure Manner where
  /-- The way, if lists need not name it. -/
  way? : Option Way
  /-- How many bytes digests have, if that is told. -/
  size? : Option Nat
  /-- Whether files that are not there are passed over. -/
  ignoresMissing : Bool
  /-- Whether files that are right are passed over in silence. -/
  isQuiet : Bool
  /-- Whether only the status tells. -/
  isSilent : Bool
  /-- Whether lines that say nothing count. -/
  isStrict : Bool
  /-- Whether lines that say nothing are complained of. -/
  warns : Bool

/-- What checking a list has come to so far. -/
structure Tally where
  /-- What was written. -/
  effect : Effect
  /-- How many lines say something. -/
  proper : Nat := 0
  /-- How many lines say nothing. -/
  improper : Nat := 0
  /-- How many files could not be read. -/
  unread : Nat := 0
  /-- How many files have another digest. -/
  different : Nat := 0
  /-- How many files are right. -/
  right : Nat := 0

/-- Checks what a line says. -/
def checkClaim (c : Call) (m : Manner) (t : Tally) (claim : Claim) : Tally :=
  let t := { t with proper := t.proper + 1 }
  let shown := escaped claim.name
  let shown := if shown = claim.name then shown else '\\' :: shown
  let report (verdict : String) (e : Effect) : Effect :=
    if m.isSilent then e else e.write (shown ++ (": " ++ verdict ++ "\n").toList)
  match contentOf c claim.name with
  | .error trouble =>
    if m.ignoresMissing && trouble = .notFound then t
    else { t with
      effect := report "FAILED open or read"
        (t.effect.complain c 1 (fileComplaint claim.name trouble))
      unread := t.unread + 1 }
  | .ok content =>
    let bytes := claim.way.digest claim.size (toBytes content)
    let isRight := if claim.text.length = 2 * claim.size then
        (Digest.hex bytes).toList = claim.text.map Char.toLower
      else Encoding.encoded Encoding.base64 (ofBytes bytes) = claim.text
    if isRight then { t with
      effect := if m.isQuiet then t.effect else report "OK" t.effect
      right := t.right + 1 }
    else { t with effect := report "FAILED" t.effect, different := t.different + 1 }

/-- Checks the lines of a list. -/
def checkList (c : Call) (m : Manner) (e : Effect) (name content : List Char) : Effect :=
  let shownName := if name = ['-'] then quoted "standard input".toList else name
  let label := match m.way? with
    | some way => way.label.toList
    | none => "".toList
  let t : Tally := (linesOf content).1.zipIdx.foldl (fun t (line, i) =>
    if line.head? = some '#' then t
    else
      match claim? m.way? m.size? line with
      | some claim => checkClaim c m t claim
      | none =>
        let effect := if m.warns then
            t.effect.complain c 0 (shownName ++ ": ".toList ++ digitsOf (i + 1) ++
              ": improperly formatted ".toList ++ label ++ " checksum line".toList)
          else t.effect
        { t with effect, improper := t.improper + 1 }) { effect := e }
  if t.proper = 0 then
    t.effect.complain c 1 (shownName ++ ": no properly formatted checksum lines found".toList)
  else
    let warn (n : Nat) (one many : String) (e : Effect) : Effect :=
      if n = 0 || m.isSilent then e
      else e.complain c 0 ("WARNING: ".toList ++ digitsOf n ++ ' ' ::
        (if n = 1 then one else many).toList)
    let e := warn t.improper "line is improperly formatted" "lines are improperly formatted"
      t.effect
    let e := warn t.unread "listed file could not be read" "listed files could not be read" e
    let e := warn t.different "computed checksum did NOT match"
      "computed checksums did NOT match" e
    let e := if m.ignoresMissing && t.right = 0 && !m.isSilent then
        e.complain c 1 (shownName ++ ": no file was verified".toList)
      else e
    e.atLeast (if 0 < t.right && t.different = 0 && t.unread = 0 &&
      !(m.isStrict && 0 < t.improper) then 0 else 1)

/-- Checks lists. -/
def check (c : Call) (o : Options) (m : Manner) : Effect :=
  let e : Effect := (inputs c o.operands).foldl (fun e (name, r) => match r with
    | .ok text => checkList c m e name text
    | .error t => e.complain c 1 (fileComplaint name t)) (.ofStatus c 0)
  if readsInput o.operands then e.takingAll c else e

/-! ### The tools -/

/-- The long names of the options. -/
def names : List (String × Char) :=
  [("binary", 'b'), ("check", 'c'), ("ignore-missing", 'I'), ("quiet", 'Q'), ("status", 'S'),
    ("strict", 'R'), ("tag", 'T'), ("text", 't'), ("warn", 'w'), ("zero", 'z')]

/-- Why options do not go together, if they do not. -/
def misuse? (o : Options) : Option (List Char) :=
  let onlyChecking := [('I', "ignore-missing"), ('S', "status"), ('w', "warn"), ('Q', "quiet"),
    ('R', "strict")]
  if o.has 'T' && o.has 'c' then
    some "the --tag option is meaningless when verifying checksums".toList
  else if o.has 'z' && o.has 'c' then
    some "the --zero option is not supported when verifying checksums".toList
  else if !o.has 'c' then
    (onlyChecking.find? fun (letter, _) => o.has letter).map fun (_, name) =>
      ("the --" ++ name ++ " option is meaningful only when verifying checksums").toList
  else none

/-- How the options say lists are checked. -/
def mannerOf (o : Options) (way? : Option Way) (size? : Option Nat) : Manner where
  way? := way?
  size? := size?
  ignoresMissing := o.has 'I'
  isQuiet := o.lastOf? "QSw" = some 'Q'
  isSilent := o.lastOf? "QSw" = some 'S'
  isStrict := o.has 'R'
  warns := o.lastOf? "QSw" = some 'w'

/-- The size that is asked for, in bytes, or what is wrong with it. -/
def sizeOf (way : Way) (o : Options) : Except (List Char) (Option Nat) :=
  match o.value? 'l' with
  | none => .ok none
  | some text =>
    match natural? text with
    | none => .error ("invalid length: ".toList ++ quoted text)
    | some n =>
      if 8 * way.size < n then
        .error ("invalid length: ".toList ++ quoted text ++ '\n' ::
          "maximum digest length for '".toList ++ way.label.toList ++ "' is ".toList ++
          digitsOf (8 * way.size) ++ " bits".toList)
      else if n % 8 ≠ 0 then
        .error ("invalid length: ".toList ++ quoted text ++ '\n' ::
          "length is not a multiple of 8".toList)
      else .ok (if n = 0 then none else some (n / 8))

/-- The effect of complaints of some lines. -/
def refuse (c : Call) (text : List Char) : Effect :=
  (splitAt '\n' text).foldl (fun e line => e.complain c 1 line) (.ofStatus c 1)

/-- Writes or checks digests that are taken in one way. -/
def tool (way : Way) : Tool :=
  withOptions {
    flags := "bctwzIQSRT", hidden := "IQSRT"
    valued := if way.isSizable then "l" else ""
    long := names ++ if way.isSizable then [("length", 'l')] else [] } 1 fun c o =>
  match misuse? o, sizeOf way o with
  | some text, _ => .ofMisuse c 1 text
  | _, .error text => refuse c text
  | none, .ok size? =>
    if o.has 'c' then check c o (mannerOf o (some way) size?)
    else
      write c o {
        way
        size := size?.getD way.size
        isTagged := o.has 'T'
        mark := if o.lastOf? "bt" = some 'b' then '*' else ' '
        stop := stopOf o }

/-! ### Sums by division -/

/-- A remainder with one more bit, which is zero. -/
def shifted (crc : UInt32) : UInt32 :=
  if crc &&& 0x80000000 = 0 then crc <<< 1 else (crc <<< 1) ^^^ 0x04c11db7

/-- The remainder by which `cksum` knows bytes, which are given as they follow each other. -/
def remainder (crc : UInt32) (bytes : List UInt8) : UInt32 :=
  bytes.foldl (fun (crc : UInt32) b =>
    (List.range 8).foldl (fun r _ => shifted r) (crc ^^^ (UInt32.ofNat b.toNat <<< 24))) crc

/-- The bytes of a number, the least place first, as many as it takes. -/
def lengthBytes : (room n : Nat) → List UInt8
  | 0, _ => []
  | room + 1, n => if n = 0 then [] else UInt8.ofNat (n % 256) :: lengthBytes room (n / 256)

/-- The sum by which `cksum` knows a text: the remainder of its bytes and of their number. -/
def crcOf (text : List Char) : Nat :=
  (~~~(remainder (remainder 0 (toBytes text)) (lengthBytes 16 text.length))).toNat

/-- Writes sums of files and how many bytes they have. -/
def writeSums (c : Call) (o : Options) : Effect :=
  let e : Effect := (inputs c o.operands).foldl (fun e (name, r) => match r with
    | .ok text =>
      e.write (digitsOf (crcOf text) ++ ' ' :: digitsOf text.length ++
        (if o.operands.isEmpty then [] else ' ' :: name) ++ [stopOf o])
    | .error t => e.complain c 1 (fileComplaint name t)) (.ofStatus c 0)
  if readsInput o.operands then e.takingAll c else e

/-- The names by which `cksum` knows ways. -/
def wayNames : List (String × Option Way) :=
  [("bsd", none), ("sysv", none), ("crc", none), ("md5", some md5), ("sha1", some sha1),
    ("sha224", some sha224), ("sha256", some sha256), ("sha384", some sha384),
    ("sha512", some sha512), ("blake2b", some blake2b), ("sm3", none)]

/-- Writes or checks sums and digests. -/
def cksum : Tool :=
  withOptions {
    flags := "bctwzIQSRTUDX6", valued := "al", hidden := "bIQSRTUDX6"
    long := names ++ [("algorithm", 'a'), ("base64", '6'), ("debug", 'D'), ("length", 'l'),
      ("raw", 'X'), ("untagged", 'U')] } 1 fun c o =>
  let name := String.ofList ((o.value? 'a').getD "crc".toList)
  match wayNames.lookup name, misuse? { o with letters := o.letters.filter (·.1 ≠ 'T') } with
  | none, _ =>
    .ofMisuse c 1 ("invalid argument ".toList ++ quoted name.toList ++
      " for '--algorithm'\nValid arguments are:".toList ++
      wayNames.flatMap fun (n, _) => ("\n  - '" ++ n ++ "'").toList)
  | _, some text => .ofMisuse c 1 text
  | some none, none =>
    if o.has 'c' then
      if (o.value? 'a').isSome then
        .ofComplaint c 1 "--check is not supported with --algorithm=\x7bbsd,sysv,crc\x7d".toList
      else check c o (mannerOf o none none)
    else if name = "crc" then writeSums c o
    else sum { c with args := (if name = "sysv" then "-s" else "-r").toList :: o.operands }
  | some (some way), none =>
    match sizeOf way o with
    | .error text => refuse c text
    | .ok size? =>
      if o.has 'c' then check c o (mannerOf o (some way) size?)
      else
        let size := size?.getD way.size
        if o.has 'X' then
          overInputs c o.operands 1 fileComplaint fun text =>
            ofBytes (way.digest size (toBytes text))
        else
          write c o {
            way
            size
            isTagged := o.lastOf? "TU" ≠ some 'U'
            mark := if o.lastOf? "bt" = some 'b' then '*' else ' '
            stop := stopOf o
            isShort := o.has '6' }

end ParserConformance.Script.Tool.Digests
