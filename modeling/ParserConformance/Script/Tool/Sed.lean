import ParserConformance.Script.Tool.Place
import ParserConformance.Script.Tool.Sed.Editor
import ParserConformance.Script.Tool.Sed.Reader

/-!
# The editor of streams as a tool

`sed` edits its input, or files, by a program that its arguments give.
-/

namespace ParserConformance.Script.Tool.Sed

/-- The options of the tool. -/
def known : Known where
  flags := "nErsuzbPSX"
  hidden := "PSX"
  valued := "efl"
  optional := "i"
  long := [("quiet", 'n'), ("silent", 'n'), ("regexp-extended", 'E'), ("expression", 'e'),
    ("file", 'f'), ("in-place", 'i'), ("line-length", 'l'), ("null-data", 'z'),
    ("zero-terminated", 'z'), ("separate", 's'), ("unbuffered", 'u'), ("binary", 'b'),
    ("posix", 'P'), ("sandbox", 'S'), ("follow-symlinks", 'X')]

/-- How the tool is used. -/
def usage : List Char :=
  "Usage: sed [OPTION]... \x7bscript-only-if-no-other-script\x7d [input-file]...\n\n".toList

/-- How expressions are read. -/
def flavor (isExtended : Bool) : Regex.Flavor where
  isExtended
  leading := if isExtended then .refused else .literal
  isStrict := true

/-- The pieces of the program that arguments give, and the files. A file of commands may be
missing. -/
def piecesOf (c : Call) (o : Tool.Options) :
    Except (List Char × Trouble) (Option (List Piece × List (List Char))) := do
  let pieces ← (o.letters.filter fun l => l.1 = 'e' || l.1 = 'f').mapM fun (letter, value) =>
    if letter = 'e' then pure ⟨none, value⟩
    else
      match contentOf c value with
      | .ok text => pure (⟨some value, text⟩ : Piece)
      | .error t => throw (value, t)
  if !pieces.isEmpty then return some (pieces, o.operands)
  else
    match o.operands with
    | script :: files => return some ([⟨none, script⟩], files)
    | [] => return none

/-- Whether the first line of a program says that lines are printed only when that is asked
for. -/
def asksForQuiet (pieces : List Piece) : Bool :=
  match (pieces.map (·.text)).head? with
  | some ['#', 'n'] | some ('#' :: 'n' :: '\n' :: _) => true
  | _ => false

/-- The name under which a file is kept before it is edited. -/
def keptName (name suffix : List Char) : List Char :=
  let base := lastName name
  let new := if suffix.contains '*' then suffix.flatMap fun c => if c = '*' then base else [c]
    else base ++ suffix
  if new.contains '/' then new
  else if name.contains '/' then below (holder name) new
  else new

/-- How the tool complains about a file, and with which status. -/
def fileFault (isInPlace : Bool) (name : List Char) : Trouble → List Char × Nat
  | .isDirectory =>
    if isInPlace then ("couldn't edit ".toList ++ name ++ ": not a regular file".toList, 4)
    else ("read error on ".toList ++ name ++ ": Is a directory".toList, 4)
  | t => ("can't read ".toList ++ plainComplaint name t, 2)

/-- With the lines of a file in the place of the file, which is kept under another name if there
is one. -/
def putBack (c : Call) (suffix : List Char) (e : Effect) (name text : List Char) : Effect :=
  let d := e.disk
  match d.locate (pathOfChars name) false with
  | .error _ => e
  | .ok place =>
    match d.entry? place with
    | some (.file mode _) =>
      let new (d : Disk) : Effect :=
        { e with disk := (d.erase place).set place (.file mode (toBytes text)) }
      if suffix.isEmpty then new d
      else
        match d.locate (pathOfChars (keptName name suffix)) true with
        | .ok kept => new (d.move place kept)
        | .error t => e.complain c 4 ("cannot rename ".toList ++ plainComplaint name t)
    | _ => { e with disk := Tool.written c.mask d name text }

/-- Edits with options that were read. -/
def run (c : Call) (o : Tool.Options) : Effect :=
  match piecesOf c o with
  | .error (name, t) =>
    .ofComplaint c 4 ("couldn't open file ".toList ++ plainComplaint name t)
  | .ok none => (Effect.ofStatus c 1).warn usage
  | .ok (some (pieces, names)) =>
    let stop := stopOf o
    let style : Style := {
      flavor := flavor (o.has 'E' || o.has 'r')
      hasLines := stop = '\n'
      isGuarded := o.has 'S' }
    match readProgram style pieces with
    | .error (spot, fault) =>
      .ofComplaint c 1 (spot.text ++ ": ".toList ++ fault.message.toList)
    | .ok (program, spot) =>
      match program.missingLabel? with
      | some name =>
        .ofComplaint c 4 ("can't find label for jump to `".toList ++ name ++ ['\''])
      | none =>
        let suffix? := o.value? 'i'
        if suffix?.isSome && names.isEmpty then .ofComplaint c 4 "no input files".toList
        else
          let files := (inputs c names).map fun (name, r) =>
            (name, if suffix?.isSome && isInput name then .error .isDirectory
              else r.map (endedLines stop))
          let m : Manner := {
            isQuiet := o.has 'n' || asksForQuiet pieces
            isSeparate := o.has 's' || suffix?.isSome
            isInPlace := suffix?.isSome
            isStrict := o.has 'P'
            stop
            width := ((o.value? 'l').map (valueOf ·)).getD 70
            read := fun name =>
              if isInput name && readsInput names then none else (contentOf c name).toOption }
          let r := Editor.edit m program files
          finish c m program spot suffix? files r
where
  /-- What an editor has come to. -/
  finish (c : Call) (m : Manner) (program : Program) (spot : Spot) (suffix? : Option (List Char))
      (files : List (List Char × Except Trouble (List EndedLine))) (r : Editor) : Effect :=
    let e := r.troubles.reverse.foldl (fun e (name, t) =>
      let (text, status) := fileFault m.isInPlace name t
      e.complain c status text) (Effect.ofStatus c 0)
    let writes := r.writes.reverse
    let textTo (test : Outlet → Nat → Bool) : List Char :=
      writes.flatMap fun (outlet, n, text) => if test outlet n then text else []
    let out (name : String) : Outlet := .file name.toList
    let e := e.warn (textTo fun outlet _ => outlet = out "/dev/stderr")
    let e := e.write (textTo fun outlet _ =>
      outlet = out "/dev/stdout" || (outlet = .main && !m.isInPlace))
    let disk := program.files.foldl (fun d name =>
      if (stream? name).isSome then d
      else Tool.written c.mask d name (textTo fun outlet _ => outlet = .file name)) e.disk
    let e := { e with disk }
    let e : Effect := match suffix? with
      | none => e
      | some suffix => (files.zipIdx.take r.begun).foldl (fun e ((name, content), i) =>
          if content.isOk then
            putBack c suffix e name (textTo fun outlet n => outlet = .main && n = i + 1)
          else e) e
    let e := match r.fault with
      | some fault => e.complain c 1 (spot.text ++ ": ".toList ++ fault.message.toList)
      | none => e
    let e := match r.status with
      | some 0 | none => e
      | some status => { e with status := status % 256 }
    let e := if r.isEndless then { e with delay := endlessTime } else e
    let e := { e with isSated := r.status.isSome }
    if readsInput (files.map (·.1)) then e.takingAll c else e

/-- Edits streams. -/
def sed : Tool := fun c =>
  match Options.read known c.args with
  | .ok o => run c o
  | .error fault => (Effect.ofComplaint c 1 fault.message).warn usage

end ParserConformance.Script.Tool.Sed
