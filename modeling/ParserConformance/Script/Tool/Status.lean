import ParserConformance.Script.Lookup
import ParserConformance.Script.Printing
import ParserConformance.Script.Tool.Date

/-!
# The status of files

What a system knows of a file besides its content: its kind, its mode, its size and its times.
`stat` shows it in a format.
-/

namespace ParserConformance.Script.Tool

/-- What a system knows of what stands at a place. -/
structure Status where
  /-- The place. -/
  place : Location
  /-- What stands there. -/
  entry : Entry
  /-- How many bytes it has. -/
  size : Nat
  /-- How many names it has. -/
  links : Nat
  /-- Its number. -/
  number : Nat
  /-- When it was changed last. -/
  changed : Int

namespace Status

/-- How many bytes a directory has. -/
def directorySize : Nat := 4096

/-- The number of the root. -/
def rootNumber : Nat := 2

/-- The status of what stands at a place. -/
def at? (d : Disk) (place : Location) : Option Status := do
  let entry ← d.entry? place
  let places := d.placesOf place
  let first := (d.entries.findIdx? fun (p, _) => places.contains p).elim 0 (· + 1)
  let directories := d.entries.filter fun (p, e) =>
    (e matches .directory _) && p ≠ place && p.dropLast = place
  return {
    place
    entry
    size := match entry with
      | .file _ content => content.length
      | .directory _ => directorySize
      | .link target => target.utf8ByteSize
      | .special _ _ => 0
    links := match entry with
      | .directory _ => 2 + directories.length
      | _ => places.length
    number := rootNumber + first
    changed := changedMoment d place }

/-- The status of what a path names, or, if that is asked for, of what it leads to. -/
def of (d : Disk) (follows : Bool) (path : List Char) : Except Trouble Status :=
  let place? : Except Trouble Location :=
    if follows then d.locate (pathOfChars path) false
    else if path.getLast? = some '/' then d.locate (pathOfChars path) false
    else match ownPlace? d path with
      | some place => if (d.entry? place).isSome then .ok place else .error (findingTrouble d path)
      | none => .error (findingTrouble d path)
  place?.bind fun place => match at? d place with
    | some s => .ok s
    | none => .error .notFound

/-- How many blocks of 512 bytes it takes. -/
def blocks (s : Status) : Nat :=
  match s.entry with
  | .link _ => 0
  | _ => (s.size + 4095) / 4096 * 8

/-- The bits of the mode. -/
def mode (s : Status) : Nat :=
  match s.entry with
  | .file mode _ | .directory mode | .special mode _ => mode
  | .link _ => 0o777

/-- The bits that tell its kind. -/
def kindBits (s : Status) : Nat :=
  match s.entry with
  | .file _ _ => 0o100000
  | .directory _ => 0o040000
  | .link _ => 0o120000
  | .special _ kind => if kind.isPipe then 0o010000 else 0o020000

/-- The name of its kind. -/
def kindName (s : Status) : String := s.entry.kindName

/-- The letter of its kind. -/
def letter (s : Status) : Char :=
  match s.entry with
  | .file _ _ => '-'
  | .directory _ => 'd'
  | .link _ => 'l'
  | .special _ kind => if kind.isPipe then 'p' else 'c'

/-- Three letters of a mode, the last of which shows a further bit too. -/
def threeLetters (bits : Nat) (hasMore : Bool) (small great : Char) : List Char :=
  let runs := bits &&& 1 ≠ 0
  [if bits &&& 4 ≠ 0 then 'r' else '-', if bits &&& 2 ≠ 0 then 'w' else '-',
    if hasMore then (if runs then small else great) else if runs then 'x' else '-']

/-- The kind and the mode in letters. -/
def letters (s : Status) : List Char :=
  let m := s.mode
  s.letter :: threeLetters (m >>> 6 &&& 7) (m &&& 0o4000 ≠ 0) 's' 'S' ++
    threeLetters (m >>> 3 &&& 7) (m &&& 0o2000 ≠ 0) 's' 'S' ++
    threeLetters (m &&& 7) (m &&& 0o1000 ≠ 0) 't' 'T'

end Status

namespace Stat

/-- How a conversion is shown. -/
structure Style where
  /-- The signs in front of the width. -/
  flags : List Char
  /-- The width. -/
  width : Nat
  /-- The precision, if there is one. -/
  precision : Option (List Char)

/-- A text in a style. -/
def Style.text (s : Style) (cs : List Char) : List Char :=
  let cs := match s.precision with
    | some ds => cs.take (valueOf ds)
    | none => cs
  if s.flags.contains '-' then padRight s.width cs else padLeft s.width cs

/-- A number in a style. -/
def Style.number (s : Style) (front : String) (cs : List Char) : List Char :=
  let cs := match s.precision with
    | some ds => List.replicate (valueOf ds - cs.length) '0' ++ cs
    | none => cs
  let cs := (if s.flags.contains '#' then front.toList else []) ++ cs
  if s.flags.contains '-' then padRight s.width cs
  else if s.flags.contains '0' then List.replicate (s.width - cs.length) '0' ++ cs
  else padLeft s.width cs

/-- The seconds of a moment, with as many decimals as the precision says. -/
def Style.seconds (s : Style) (moment : Int) : List Char :=
  let whole := (moment / Time.second).toNat
  let digits := match s.precision with
    | none => digitsOf whole
    | some ds =>
      let count := if ds.isEmpty then 9 else valueOf ds
      let nanos := (digitsOf (1000000000 + (moment % Time.second).toNat)).drop 1
      digitsOf whole ++
        if count = 0 then []
        else '.' :: (nanos.take count ++ List.replicate (count - 9) '0')
  { s with precision := none }.number "" digits

/-- The format of a whole moment. -/
def momentFormat : String := "%Y-%m-%d %H:%M:%S.%N %z"

/-- What a letter stands for. -/
def converted (c : Call) (f : Status) (path : List Char) (s : Style) (letter : Char) :
    List Char :=
  let octal (n : Nat) : List Char := Nat.toDigits 8 n
  let hex (n : Nat) : List Char := Nat.toDigits 16 n
  let moment : List Char := Time.format f.changed c.zone momentFormat.toList
  match letter with
  | 'a' => s.number "0" (octal f.mode)
  | 'A' => s.text f.letters
  | 'b' => s.number "" (digitsOf f.blocks)
  | 'B' => s.number "" "512".toList
  | 'd' | 'D' | 't' | 'T' | 'W' => s.number "" ['0']
  | 'f' => s.number "0x" (hex (f.kindBits ||| f.mode))
  | 'F' => s.text f.kindName.toList
  | 'g' | 'u' => s.number "" ['0']
  | 'G' | 'U' => s.text "root".toList
  | 'h' => s.number "" (digitsOf f.links)
  | 'i' => s.number "" (digitsOf f.number)
  | 'm' => s.text ['/']
  | 'n' => s.text path
  | 'N' => s.text (quotedName path ++ match f.entry with
      | .link target => " -> ".toList ++ quoted (ofText target)
      | _ => [])
  | 'o' => s.number "" "4096".toList
  | 's' => s.number "" (digitsOf f.size)
  | 'w' => s.text ['-']
  | 'x' | 'y' | 'z' => s.text moment
  | 'X' | 'Y' | 'Z' => s.seconds f.changed
  | 'C' => s.text ['?']
  | _ => ['?']

/-- What the backslash in front of some characters makes of them, and what follows. -/
def escaped : List Char → List Char × List Char
  | 'a' :: cs => (['\x07'], cs)
  | 'b' :: cs => (['\x08'], cs)
  | 'e' :: cs => (['\x1b'], cs)
  | 'f' :: cs => (['\x0c'], cs)
  | 'n' :: cs => (['\n'], cs)
  | 'r' :: cs => (['\r'], cs)
  | 't' :: cs => (['\t'], cs)
  | 'v' :: cs => (['\x0b'], cs)
  | 'x' :: cs =>
    let digits := (cs.take 2).takeWhile (isDigitOf 16)
    if digits.isEmpty then (['x'], cs)
    else ([Char.ofNat (valueIn 16 digits)], cs.drop digits.length)
  | c :: cs =>
    if isOctal c then
      let digits := ((c :: cs).take 3).takeWhile isOctal
      ([Char.ofNat (valueIn 8 digits % 256)], (c :: cs).drop digits.length)
    else ([c], cs)
  | [] => (['\\'], [])

/-- A status in a format, with escapes or without. -/
def formatted (c : Call) (f : Status) (path : List Char) (hasEscapes : Bool) :
    (room : Nat) → List Char → List Char
  | 0, _ | _, [] => []
  | room + 1, '%' :: cs =>
    let flags := cs.takeWhile fun l => "'-+ #0I".toList.contains l
    let cs := cs.drop flags.length
    let width := cs.takeWhile isDigit
    let cs := cs.drop width.length
    let (precision, cs) := match cs with
      | '.' :: rest => (some (rest.takeWhile isDigit), rest.dropWhile isDigit)
      | rest => (none, rest)
    match cs with
    | '%' :: rest => '%' :: formatted c f path hasEscapes room rest
    | letter :: rest =>
      let letters := if letter = 'H' || letter = 'L' then rest.head?.getD letter else letter
      let rest := if letter = 'H' || letter = 'L' then rest.drop 1 else rest
      converted c f path ⟨flags, valueOf width, precision⟩ letters ++
        formatted c f path hasEscapes room rest
    | [] => ['%']
  | room + 1, '\\' :: cs =>
    if hasEscapes then
      let (text, rest) := escaped cs
      text ++ formatted c f path hasEscapes room rest
    else '\\' :: formatted c f path hasEscapes room cs
  | room + 1, l :: cs => l :: formatted c f path hasEscapes room cs

/-- The usual format. -/
def usualFormat (isLink : Bool) : String :=
  "  File: " ++ (if isLink then "%N" else "%n") ++
    "\n  Size: %-10s\tBlocks: %-10b IO Block: %-6o %F\nDevice: %Hd,%Ld\tInode: %-11i Links: %h\n" ++
    "Access: (%04a/%10.10A)  Uid: (%5u/%8U)   Gid: (%5g/%8G)\n" ++
    "Access: %x\nModify: %y\nChange: %z\n Birth: %w\n"

/-- The format in one line. -/
def terseFormat : String := "%n %s %b %f %u %g %D %i %h %t %T %X %Y %Z %W %o\n"

/-- Shows the status of files. -/
def stat : Tool :=
  withOptions {
    flags := "Lft", valued := "cPC", hidden := "PC"
    long := [("dereference", 'L'), ("file-system", 'f'), ("format", 'c'), ("printf", 'P'),
      ("cached", 'C'), ("terse", 't')] } 1 fun c o =>
  if o.operands.isEmpty then .ofMisuse c 1 "missing operand".toList
  else
    o.operands.foldl (fun e path =>
      let isPipe := path = ['-'] || c.disk.special? (pathOfChars path) matches some (.stream _)
      let status : Except Trouble Status :=
        if isPipe then
          .ok ⟨["dev", "stdin"], .special 0o600 .pipe, 0, 1, Status.rootNumber, c.now⟩
        else Status.of c.disk (o.has 'L') path
      match status with
      | .error t => e.complain c 1 ("cannot statx ".toList ++ quotedComplaint path t)
      | .ok f =>
        let (format, hasEscapes) := match o.letters.reverse.find? fun l =>
            l.1 = 'c' || l.1 = 'P' with
          | some ('P', text) => (text, true)
          | some (_, text) => (text ++ ['\n'], false)
          | none => ((if o.has 't' then terseFormat
              else usualFormat (f.entry matches .link _)).toList, false)
        e.write (formatted c f path hasEscapes (format.length + 1) format)) (.ofStatus c 0)

end Stat

end ParserConformance.Script.Tool
