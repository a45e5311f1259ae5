import ParserConformance.Parser.Artifact
import ParserConformance.Parser.Host
import ParserConformance.ParseTree.Wire
import ParserConformance.Text.Blank
import ParserConformance.Text.Lines

/-!
# Programs as parsers

A program that is a parser takes the source text on its input and prints the tree as JSON. It is
started anew for every source text, on whatever host there is. A status other than zero is an error,
which the first line of what the program wrote to its errors explains.
-/

namespace ParserConformance.Program

/-- The first line of what a program wrote to its errors, blanks around it aside. -/
def complaint (errors : List UInt8) : String :=
  match Text.lines (Text.decodeLossy errors).toList with
  | [] => ""
  | l :: _ => String.ofList (Text.trim l)

/-- What a program's result says. -/
def reply (host : Host) (r : Result) : Reply :=
  if r.ending = .exited 0 then
    match ParseTree.decodeBytes r.output with
    | .ok t => .tree t
    | .error refusal => .error ("parser printed an invalid tree: " ++ host.wording r.output refusal)
  else
    let detail := complaint r.errors
    .error ("parser exited with " ++ r.ending.text ++
      (if detail.isEmpty then "" else ": " ++ detail))

/-- The parser that a program is. -/
def parser (host : Host) (path : Path) (call : Call) : Parser where
  answer disk source :=
    match host.run none disk path call (Text.encode source) with
    | .ok result => (⟨result.duration, reply host result⟩, result.disk)
    | .error trouble => (⟨0, .error ("cannot start parser: " ++ trouble.message)⟩, disk)
  stopped limit disk source :=
    match host.run (some limit) disk path call (Text.encode source) with
    | .ok result => result.disk
    | .error _ => disk

/-- Whether someone may run a file of this mode. -/
def mayBeRun (mode : Nat) : Bool := mode &&& 0o111 ≠ 0

/-- Makes the parser of a program that may be run. -/
def openArtifact (host : Host) (call : Call) (disk : Disk) (a : Artifact) : Opening :=
  match disk.stat a.path with
  | .error trouble => .refused (.failed a.path (.inaccessible trouble))
  | .ok (.file mode _) =>
    if mayBeRun mode then .ready (parser host a.path call)
    else .refused (.failed a.path .notExecutable)
  | .ok _ => .refused (.failed a.path .notExecutable)

/-- Programs as parser artifacts, all run by one host and started in the same way. Every file is taken
for one. -/
def kind (host : Host) (call : Call) : ArtifactKind where
  id := "command"
  accepts disk a := disk.isFile a.path
  make _ disk a := openArtifact host call disk a

end ParserConformance.Program
