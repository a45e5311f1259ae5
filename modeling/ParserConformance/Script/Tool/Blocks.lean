import ParserConformance.Script.Tool.Place

/-!
# Copying in blocks

`dd` copies a file in blocks of a size, from a block on and so many of them. On the way characters
can be changed, and lines can become records of a fixed length or the other way round. In the end
it tells how many blocks were read and written, whole ones and others.
-/

namespace ParserConformance.Script.Tool.Blocks

/-! ### Requests -/

/-- What a call asks for. -/
structure Request where
  /-- The file that is read, if it is not the input. -/
  source : Option (List Char) := none
  /-- The file that is written, if it is not the output. -/
  target : Option (List Char) := none
  /-- How many bytes are read at a time. -/
  inSize : Nat := 512
  /-- How many bytes are written at a time. -/
  outSize : Nat := 512
  /-- How many bytes are read and written at a time, if one number is given for both. -/
  size : Option Nat := none
  /-- The length of records. -/
  recordSize : Nat := 0
  /-- How much is passed over at the start of what is read, and whether it is meant in bytes. -/
  skip : Nat × Bool := (0, false)
  /-- How much is passed over at the start of what is written, and whether it is meant in bytes. -/
  seek : Nat × Bool := (0, false)
  /-- How much is read at most, and whether it is meant in bytes. -/
  count : Option (Nat × Bool) := none
  /-- The conversions by name. -/
  conversions : List String := []
  /-- The ways to read by name. -/
  inFlags : List String := []
  /-- The ways to write by name. -/
  outFlags : List String := []
  /-- How much is told in the end. -/
  telling : String := ""

/-- The names of conversions. -/
def knownConversions : List String :=
  ["block", "unblock", "lcase", "ucase", "swab", "sync", "notrunc", "nocreat", "excl", "noerror",
    "fsync", "fdatasync", "sparse"]

/-- The names of ways to read and write. -/
def knownFlags : List String :=
  ["append", "cio", "direct", "directory", "dsync", "noatime", "nocache", "noctty", "nofollow",
    "nolinks", "nonblock", "sync", "fullblock", "count_bytes", "skip_bytes", "seek_bytes"]

/-- How many bytes the unit of some letters has. -/
def unit? (cs : List Char) : Option Nat :=
  match cs with
  | ['c'] => some 1
  | ['w'] => some 2
  | cs => Tool.unit? cs

/-- The number that a text without `x` writes, and whether it is meant in bytes. -/
def factor? (text : List Char) : Option (Nat × Bool) :=
  let digits := text.takeWhile isDigit
  let behind := text.drop digits.length
  if digits.isEmpty then none
  else
    match unit? behind, behind.getLast? with
    | some unit, _ => some (valueOf digits * unit, behind.getLast? = some 'B')
    | none, some 'B' => (unit? behind.dropLast).map fun unit => (valueOf digits * unit, true)
    | none, _ => none

/-- The number that a text writes, and whether it is meant in bytes. Numbers may be multiplied. -/
def number? (text : List Char) : Option (Nat × Bool) := do
  let factors ← (text.splitOn 'x').mapM factor?
  return ((factors.map (·.1)).foldl (· * ·) 1, factors.any (·.2))

/-- What is wrong with a call. -/
inductive Fault where
  /-- Something that has a word of advice behind it. -/
  | misuse (text : List Char)
  /-- Something else. -/
  | plain (text : List Char)

/-- The names that a text lists, all of which must be known. -/
def namesFrom (known : List String) (what : String) (text : List Char) :
    Except Fault (List String) :=
  ((text.splitOn ',').map String.ofList).mapM fun name =>
    if known.contains name then .ok name
    else .error (.misuse (("invalid " ++ what ++ ": ").toList ++ quoted name.toList))

/-- Takes an argument in. -/
def Request.take (r : Request) (arg : List Char) : Except Fault Request := do
  let name := arg.takeWhile (· ≠ '=')
  let value := arg.drop (name.length + 1)
  let unknown : Except Fault Request :=
    .error (.misuse ("unrecognized operand ".toList ++ quoted arg))
  let invalid {α : Type} : Except Fault α :=
    .error (.plain ("invalid number: ".toList ++ quoted value))
  let number : Except Fault (Nat × Bool) := match number? value with
    | some n => .ok n
    | none => invalid
  let size : Except Fault Nat := do
    let (n, _) ← number
    if n = 0 then invalid else return n
  if name.length = arg.length then unknown
  else
    match String.ofList name with
    | "if" => return { r with source := some value }
    | "of" => return { r with target := some value }
    | "conv" =>
      let names ← namesFrom knownConversions "conversion" value
      return { r with conversions := r.conversions ++ names }
    | "iflag" =>
      let names ← namesFrom knownFlags "input flag" value
      return { r with inFlags := r.inFlags ++ names }
    | "oflag" =>
      let names ← namesFrom knownFlags "output flag" value
      return { r with outFlags := r.outFlags ++ names }
    | "status" =>
      let names ← namesFrom ["none", "noxfer", "progress"] "status level" value
      return { r with telling := names.headD "" }
    | "ibs" => return { r with inSize := ← size }
    | "obs" => return { r with outSize := ← size }
    | "bs" => return { r with size := some (← size) }
    | "cbs" => return { r with recordSize := ← size }
    | "skip" | "iseek" => return { r with skip := ← number }
    | "seek" | "oseek" => return { r with seek := ← number }
    | "count" => return { r with count := some (← number) }
    | _ => unknown

/-- Whether a conversion is asked for. -/
def Request.converts (r : Request) (name : String) : Bool := r.conversions.contains name

/-- Two conversions that exclude each other. -/
def Request.clash? (r : Request) : Option (List Char) :=
  [("lcase", "ucase"), ("block", "unblock"), ("excl", "nocreat")].findSome? fun (a, b) =>
    if r.converts a && r.converts b then some ("cannot combine " ++ a ++ " and " ++ b).toList
    else none

/-- How many bytes are read at a time. -/
def Request.readSize (r : Request) : Nat := r.size.getD r.inSize

/-- How many bytes are written at a time. -/
def Request.writeSize (r : Request) : Nat := r.size.getD r.outSize

/-- How many bytes are passed over at the start of what is read. -/
def Request.skipped (r : Request) : Nat :=
  if r.skip.2 || r.inFlags.contains "skip_bytes" then r.skip.1 else r.skip.1 * r.readSize

/-- How many bytes are passed over at the start of what is written. -/
def Request.sought (r : Request) : Nat :=
  if r.seek.2 || r.outFlags.contains "seek_bytes" then r.seek.1 else r.seek.1 * r.writeSize

/-- How many bytes are read at most. -/
def Request.limit? (r : Request) : Option Nat :=
  r.count.map fun (n, isBytes) =>
    if isBytes || r.inFlags.contains "count_bytes" then n else n * r.readSize

/-! ### Conversions -/

/-- A text in which every two characters have changed places. -/
def swapped : List Char → List Char
  | a :: b :: cs => b :: a :: swapped cs
  | cs => cs

/-- A text with blanks in place of the ends of lines, up to the length of records, and how many
lines were cut off by that. -/
def blocked (size : Nat) (text : List Char) : List Char × Nat :=
  let (ls, _) := linesOf text
  (ls.flatMap fun l => padRight size (l.take size), (ls.filter (size < ·.length)).length)

/-- Records of a length as lines without the blanks at their ends. -/
def unblocked (size : Nat) (text : List Char) : List Char :=
  go (text.length + 1) text
where
  /-- Goes on with the records that are left. -/
  go : (room : Nat) → List Char → List Char
    | 0, _ | _, [] => []
    | room + 1, cs =>
      let l := ((cs.take size).reverse.dropWhile (· = ' ')).reverse
      l ++ '\n' :: go room (cs.drop size)

/-- What is made of what was read, and how many lines were cut off. -/
def Request.converted (r : Request) (text : List Char) : List Char × Nat :=
  let missing := (r.readSize - text.length % r.readSize) % r.readSize
  let fill := if r.converts "block" || r.converts "unblock" then ' ' else '\x00'
  let text := if r.converts "sync" then text ++ List.replicate missing fill else text
  let text := if r.converts "lcase" then text.map Char.toLower else text
  let text := if r.converts "ucase" then text.map Char.toUpper else text
  let text := if r.converts "swab" then swapped text else text
  if r.recordSize = 0 then (text, 0)
  else if r.converts "block" then blocked r.recordSize text
  else if r.converts "unblock" then (unblocked r.recordSize text, 0)
  else (text, 0)

/-- Whether what was read is gathered before it is written. -/
def Request.gathers (r : Request) : Bool :=
  r.size.isNone || ["block", "unblock", "lcase", "ucase", "swab"].any r.converts

/-! ### The end -/

/-- So many bytes in a unit of powers of a base, with one decimal if it is a small number. -/
def amount (base : Nat) (units : List String) (n : Nat) : String :=
  go n 1 units
where
  /-- Goes on with the units that are left. -/
  go (n scale : Nat) : List String → String
    | [] => toString n
    | unit :: units =>
      let tenths := (n * 10 + scale / 2) / scale
      if n < scale * base || units.isEmpty then
        (if tenths < 100 && 1 < scale then toString (tenths / 10) ++ "." ++ toString (tenths % 10)
          else toString ((n + scale / 2) / scale)) ++ " " ++ unit
      else go n (scale * base) units

/-- How many blocks there were, and how much was copied. -/
def Request.report (r : Request) (read written cut : Nat) : List Char :=
  let part (n size : Nat) : String :=
    toString (n / size) ++ "+" ++ (if n % size = 0 then "0" else "1") ++ " records "
  let padded := if r.converts "sync" then (read + r.readSize - 1) / r.readSize * r.readSize
    else read
  let out := if r.gathers then part written r.writeSize else part padded r.writeSize
  let human := " (" ++ amount 1000 ["B", "kB", "MB", "GB"] written ++
    (if written < 1024 then "" else ", " ++ amount 1024 ["B", "KiB", "MiB", "GiB"] written) ++ ")"
  let copied := toString written ++ (if written = 1 then " byte" else " bytes") ++
    (if written < 1000 then "" else human) ++ " copied, 0.0001 s, " ++
    amount 1000 ["B", "kB", "MB", "GB"] (written * 10000) ++ "/s\n"
  let truncated := if cut = 0 then ""
    else toString cut ++ " truncated record" ++ (if cut = 1 then "\n" else "s\n")
  (part read r.readSize ++ "in\n" ++ out ++ "out\n" ++ truncated ++
    (if r.telling = "noxfer" then "" else copied)).toList

/-- What is in a file after a text was written into it at a position. -/
def Request.merged (r : Request) (old text : List Char) : List Char :=
  if r.outFlags.contains "append" && r.converts "notrunc" then old ++ text
  else
    let start := old.take r.sought ++ List.replicate (r.sought - old.length) '\x00'
    start ++ text ++ (if r.converts "notrunc" then old.drop (r.sought + text.length) else [])

/-- Copies as a request says. -/
def Request.run (r : Request) (c : Call) : Effect :=
  let input := contentOf c (r.source.getD ['-'])
  let missing? : Option (List Char × Trouble) :=
    match r.source, input, r.target.bind (writingTrouble? c.disk) with
    | some name, .error t, _ => if t = .isDirectory then none else some (name, t)
    | _, _, some t => r.target.map (·, t)
    | _, _, none => none
  let isThere := r.target.any fun name => (c.disk.stat (pathOfChars name)).toOption.isSome
  let refuse (name : List Char) (reason : String) : Effect :=
    .ofComplaint c 1 ("failed to open ".toList ++ quotedName name ++ ": ".toList ++ reason.toList)
  match missing? with
  | some (name, t) => refuse name t.reason
  | none =>
    if r.target.isSome && isThere && r.converts "excl" then refuse (r.target.getD []) "File exists"
    else if r.target.isSome && !isThere && r.converts "nocreat" then
      refuse (r.target.getD []) "No such file or directory"
    else if r.target.isNone && 0 < r.sought then
      .ofComplaint c 1 "'standard output': cannot seek: Illegal seek".toList
    else
      let all := input.toOption.getD []
      let text := all.drop r.skipped
      let text := r.limit?.elim text text.take
      let (output, cut) := r.converted text
      let e : Effect := .ofStatus c 0
      let e := match input with
        | .error t => e.complain c 1 ("error reading ".toList ++
            quotedComplaint (r.source.getD []) t)
        | .ok _ =>
          if all.length < r.skipped && r.telling ≠ "none" then
            e.warn (c.name ++ ": ".toList ++ quotedName (r.source.getD "standard input".toList) ++
              ": cannot skip to specified offset\n".toList)
          else e
      let e := match r.target with
        | none => e.write output
        | some name =>
          { e with disk := written c.mask e.disk name (r.merged (oldContent e.disk name) output) }
      let e := if r.telling = "none" then e
        else e.warn (r.report text.length output.length cut)
      let used := min all.length (r.skipped + text.length)
      let isSated := r.limit?.any fun n => r.skipped + n ≤ all.length
      if readsInput r.source.toList then { e with taken := used, isSated } else e

/-- Copies in blocks. -/
def dd : Tool := fun c =>
  match Options.read {} c.args with
  | .error fault => .ofMisuse c 1 fault.message
  | .ok o =>
    match o.operands.foldlM Request.take {} with
    | .error (.misuse text) => .ofMisuse c 1 text
    | .error (.plain text) => .ofComplaint c 1 text
    | .ok r =>
      match r.clash? with
      | some text => .ofComplaint c 1 text
      | none => r.run c

end ParserConformance.Script.Tool.Blocks
