import ParserConformance.Script.Expansion

/-!
# Redirections

A redirection lets a stream lead somewhere else: to a file, to where another stream leads, to a
text, or nowhere.
-/

namespace ParserConformance.Script

/-- Where a stream is to lead. -/
inductive Target where
  /-- To or from a file. -/
  | file (use : FileUse) (name : List Char)
  /-- To where another stream leads. -/
  | stream (other : Nat)
  /-- Nowhere. -/
  | closed
  /-- From a text. -/
  | text (cs : List Char)
  deriving DecidableEq, Repr

/-- How a shell calls a trouble with a file that it opens. -/
def openingTrouble (use : FileUse) (name : List Char) (t : Trouble) : List Char :=
  let isMissing := t = .notFound || t = .notDirectory
  if use = .read then
    "cannot open ".toList ++ name ++ ": ".toList ++
      (if isMissing then "No such file" else t.reason).toList
  else
    "cannot create ".toList ++ name ++ ": ".toList ++
      (if isMissing then "Directory nonexistent" else t.reason).toList

/-- The stream that a name in the directory of devices stands for, if it is a number there. -/
def numberedStream? (name : List Char) : Option Nat :=
  let digits := name.drop 8
  if "/dev/fd/".toList.isPrefixOf name && !digits.isEmpty && digits.all isDigit then
    some (valueOf digits)
  else none

/-- The stream that a name stands for. -/
def streamNamed? (d : Disk) (name : List Char) : Option Nat :=
  match numberedStream? name, d.special? (pathOfChars name) with
  | some n, _ | none, some (.stream n) => some n
  | none, _ => none

/-- What is found where something is to be written. -/
inductive Site where
  /-- The place of a file, and the mode and the content of the file if it is there. -/
  | file (place : Location) (old : Option (Nat × List UInt8))
  /-- The place of something that holds nothing itself. -/
  | special (place : Location) (kind : Special)
  deriving DecidableEq, Repr

namespace Act

/-- The channel that a stream leads to. -/
def channelOf (stream : Nat) : Act Nat := do
  match ← channel? stream with
  | some (n, _) => return n
  | none => fail (digitsOf stream ++ ": Bad file descriptor".toList)

/-- Opens what stands at a place, which gets a number by that. -/
def openAt (place : Location) (use : FileUse) : Act Nat := do
  let (number, d) := (← disk).numbered place
  changeDisk fun _ => d
  addChannel (.file number 0 use)

/-- The number of the pipe that stands at a place. -/
def pipeAt (place : Location) : Act Nat := do
  let w ← world
  match w.pipeFiles.lookup place with
  | some n => return n
  | none =>
    let n := w.pipes.size
    changeWorld fun w =>
      { w with pipes := w.pipes.push {}, pipeFiles := (place, n) :: w.pipeFiles }
    return n

/-- Opens the pipe at a place, when somebody has opened its other end. -/
def openPipe (place : Location) (use : FileUse) : Act Nat := do
  let n ← pipeAt place
  let _ ← ask (.partner n use)
  addChannel (.pipe n use)

/-- Opens something at a place that holds nothing itself. -/
def openSpecial (place : Location) (use : FileUse) : Special → Act (Except Trouble Nat)
  | .null => return .ok (← addChannel .nothing)
  | .pipe => return .ok (← openPipe place use)
  | .terminal => return .error .noDevice
  | .stream number => do
    match ← channel? number with
    | some (n, _) => return .ok n
    | none => return .error .notFound
  | kind => return .ok (← addChannel (.device kind))

/-- Opens what a name calls to be read. -/
def openToRead (name : List Char) : Act (Except Trouble Nat) := do
  let d ← disk
  match d.locate (pathOfChars name) false with
  | .error t => return .error t
  | .ok place =>
    match d.entry? place with
    | some (.file mode _) =>
      if Disk.mayRead mode then return .ok (← openAt place .read)
      else return .error .permissionDenied
    | some (.special mode kind) =>
      if Disk.mayRead mode then openSpecial place .read kind
      else return .error .permissionDenied
    | some _ => return .ok (← openAt place .read)
    | none => return .error .notFound

/-- Opens a file to be read. -/
def openForReading (name : List Char) : Act Nat := do
  match ← openToRead name with
  | .ok n => return n
  | .error t => fail (openingTrouble .read name t)

/-- All of the text of a file that was opened to be read. -/
def textBehind (n : Nat) : Act (List Char) := do
  let w ← world
  match w.channels[n]? with
  | some (.file number _ _) => return ofBytes (w.disk.contentOf number)
  | _ => return []

/-- What is found where something is to be written. -/
def siteOf (name : List Char) : Act (Except Trouble Site) := do
  let d ← disk
  match d.locate (pathOfChars name) true with
  | .error t => return .error t
  | .ok place =>
    match d.entry? place, d.entry? place.dropLast with
    | some (.file mode content), _ =>
      if Disk.mayWrite mode then return .ok (.file place (some (mode, content)))
      else return .error .permissionDenied
    | some (.special mode kind), _ =>
      if Disk.mayWrite mode then return .ok (.special place kind)
      else return .error .permissionDenied
    | some _, _ => return .error .isDirectory
    | none, some (.directory mode) =>
      if Disk.mayWrite mode then return .ok (.file place none)
      else return .error .permissionDenied
    | none, _ => return .error .notFound

/-- Opens what is found to be written. A file is made if it is not there, and emptied unless it
is to be written at its end. -/
def openToWrite (use : FileUse) : Site → Act (Except Trouble Nat)
  | .special place kind => openSpecial place use kind
  | .file place old => do
    match old with
    | some (mode, content) =>
      if (use = .write || use = .replace) && !content.isEmpty then
        changeDisk fun d => d.change place (.file mode [])
    | none =>
      let mode := 0o666 &&& (0o7777 ^^^ (← shell).mask)
      changeDisk fun d => d.set place (.file mode [])
    return .ok (← openAt place use)

/-- Opens a file to be written, which may have to be new. -/
def openForWriting (use : FileUse) (name : List Char) : Act Nat := do
  let refuse (t : Trouble) : Act Nat := fail (openingTrouble use name t)
  match ← siteOf name with
  | .error t => refuse t
  | .ok site =>
    let isThere := site matches .file _ (some _)
    if isThere && use = .write && (← isOn 'C') then
      fail ("cannot create ".toList ++ name ++ ": File exists".toList)
    else
      match ← openToWrite use site with
      | .ok n => return n
      | .error t => refuse t

/-- Opens a file. -/
def openFile (use : FileUse) (name : List Char) : Act Nat := do
  match numberedStream? name with
  | some stream => channelOf stream
  | none => if use = .read then openForReading name else openForWriting use name

/-- Lets a stream lead to a target. -/
def send (stream : Nat) : Target → Act Unit
  | .file use name => do connect stream (← openFile use name)
  | .stream other => do connect stream (← channelOf other)
  | .closed => disconnect stream
  | .text cs => do connect stream (← addChannel (.source cs))

/-- Lets streams lead to targets, one after the other. -/
def sendAll (targets : List (Nat × Target)) : Act Unit :=
  targets.forM fun (stream, target) => send stream target

end Act

section

variable (capture : Option Command → Act (List Char))

/-- The stream and the target of a redirection. -/
def expandRedirection : Redirection → Act (Nat × Target)
  | .file stream use name => do return (stream, .file use (← expandText capture name))
  | .stream stream other => do
    match ← expandText capture other with
    | ['-'] => return (stream, .closed)
    | [d] => if isDigit d then return (stream, .stream (valueOf [d])) else refuse
    | _ => refuse
  | .document stream id => do
    match (← Act.world).documents.lookup id with
    | some w => return (stream, .text (Piece.chars (← expandFragments capture .text w)))
    | none => return (stream, .text [])
where
  /-- The complaint about what is no number of a stream. -/
  refuse : Act (Nat × Target) := do
    Act.setLine (← Act.shell).ahead
    Act.fail "Syntax error: Bad fd number".toList

end

end ParserConformance.Script
