import ParserConformance.Script.Find.Reader
import ParserConformance.Script.Runner.Basic
import ParserConformance.Script.Tool.Removal

/-!
# Searching for files

`find` goes through all files below its starting points, a directory before or after what is in
it, and looks at an expression for each of them.
-/

namespace ParserConformance.Script.Find

open Tool (Status quoted)

/-! ### Tests -/

/-- The text of a file that is compared with a pattern. -/
def Found.text? (f : Found) : Subject → Option (List Char)
  | .name => some (Tool.lastName f.path)
  | .path => some f.path
  | .target =>
    match f.status.entry with
    | .link target => some (ofText target)
    | _ => none

/-- Whether a test holds of a file. -/
def Test.holds (d : Disk) (following : Following) (f : Found) : Test → Bool
  | .known answer => answer
  | .fits subject ignoresCase pattern =>
    (f.text? subject).any fun text =>
      isMatch pattern (if ignoresCase then text.map Char.toLower else text)
  | .regex r =>
    (r.matchAt .longest (.ofText f.path)).any fun m => m.length = f.path.length
  | .kind follows letters =>
    let s := if follows then
        if following = .always then f.own else (f.target.toOption).getD f.own
      else f.status
    letters.contains (Found.kindLetter s)
  | .size unit b => b.holds ((f.status.size + unit - 1) / unit)
  | .empty =>
    match f.status.entry with
    | .file _ content => content.isEmpty
    | .directory _ => (Tool.childrenOf d f.status.place).isEmpty
    | .link _ | .special _ _ => false
  | .changedAfter moment => moment < f.status.changed
  | .changedBefore moment => f.status.changed < moment
  | .changedWithin moment length =>
    moment < f.status.changed && f.status.changed ≤ moment + length
  | .mode b =>
    let mode := f.status.mode
    match b with
    | .exactly bits => mode = bits
    | .all bits => mode &&& bits = bits
    | .any bits => bits = 0 || mode &&& bits ≠ 0
  | .access bits => (f.target.toOption).any fun s => s.mode &&& bits ≠ 0
  | .links b => b.holds f.status.links
  | .number b => b.holds f.status.number
  | .owner b => b.holds 0
  | .sameAs place => (d.placesOf place).contains f.status.place

/-! ### Actions -/

/-- How far a search has come. -/
structure Progress where
  /-- The status so far. -/
  status : Nat := 0
  /-- Whether it ends here. -/
  isOver : Bool := false
  /-- Whether what is in the directory at hand is passed over. -/
  isPruned : Bool := false
  /-- The files that are kept for programs, by the numbers of those, the last one first. -/
  kept : List (Nat × List Char) := []
  /-- The directory of the file before. -/
  last : List Char := []

/-- An action of a search. -/
abbrev Seeking := StateT Progress Act

namespace Seeking

/-- Complains. -/
def complain (text : List Char) : Seeking Unit := do
  let _ ← Act.write 2 ("find: ".toList ++ text ++ ['\n'])

/-- Complains of what makes the search fail. -/
def fail (text : List Char) : Seeking Unit := do
  complain text
  modify fun p => { p with status := 1 }

/-- Writes to the output, to the errors or behind what is in a file. -/
def write (sink : Sink) (text : List Char) : Seeking Unit := do
  match sink with
  | .output => Act.say text
  | .errors =>
    let _ ← Act.write 2 text
  | .file path =>
    let mask := (← Act.shell).mask
    Act.changeDisk fun d => Tool.written mask d path (Tool.oldContent d path ++ text)

end Seeking

/-- A word with a text in place of each mark for files. -/
def withFile (file : List Char) : List Char → List Char
  | '\x7b' :: '\x7d' :: cs => file ++ withFile file cs
  | c :: cs => c :: withFile file cs
  | [] => []

/-- Removes a file. Gives whether that was possible. -/
def removeFound (f : Found) : Seeking Bool := do
  if Tool.lastName f.path = ['.'] then return true
  let d ← Act.disk
  let isFull := (f.own.entry matches .directory _) && !(Tool.childrenOf d f.own.place).isEmpty
  let trouble? := (Tool.makingTrouble? d f.path).map (·.reason)
  match if isFull then some "Directory not empty" else trouble? with
  | some reason =>
    Seeking.fail ("cannot delete ".toList ++ quoted f.path ++ ": ".toList ++ reason.toList)
    return false
  | none =>
    Act.changeDisk fun d => d.erase f.own.place
    return true

/-- Asks whether a program is to be run for a file. -/
def confirmed (program path : List Char) : Seeking Bool := do
  let _ ← Act.write 2 ("< ".toList ++ program ++ " ... ".toList ++ path ++ " > ? ".toList)
  let text := (← Act.rest? 0).getD []
  let line := text.takeWhile (· ≠ '\n')
  Act.consume 0 (min text.length (line.length + 1))
  return line.head? = some 'y' || line.head? = some 'Y'

end Find

namespace Engine

open Find
open Tool (Status quoted)

variable (engine : Engine)

/-- Runs a program for files, in a directory if one is given. Gives whether it was successful. -/
def runFor (dir : Option (List Char)) (readsNothing : Bool) (call : List (List Char)) :
    Act Bool := do
  let ending ← Act.inProcess do
    if readsNothing then Act.connect 0 (← Act.addChannel .nothing)
    let trouble ← match dir with
      | some dir => Runner.enter dir
      | none => pure none
    match trouble, ← resolved call with
    | some t, _ | none, .error t =>
      Runner.complain "find".toList (Tool.plainComplaint (Tool.quoted (call.headD [])) t)
      return .exited 1
    | none, .ok (path, call) => engine.start path call
  match ending with
  | .exited status => return status = 0
  | .killed signal =>
    Runner.complain "find".toList (Tool.quoted (call.headD []) ++
      " terminated by signal ".toList ++ digitsOf signal)
    return false

/-- Runs the programs for which files are kept, or only those that run in the directory of their
files. -/
def runKept (q : Search) (insideOnly : Bool) : Seeking Unit := do
  (q.gathered.zipIdx).forM fun ((call, inside), n) => do
    let p ← get
    let files := (p.kept.filter (·.1 = n)).map (·.2)
    if (inside || !insideOnly) && !files.isEmpty then
      set { p with kept := p.kept.filter (·.1 ≠ n) }
      let isGood ← engine.runFor (if inside then some p.last else none) false
        (call ++ files.reverse)
      if !isGood then modify fun p => { p with status := 1 }

/-- Does something with a file. -/
def act (f : Found) (zone : Tool.Time.Zone) : Action → Seeking Bool
  | .print sink stop => do
    Seeking.write sink (f.path ++ [stop])
    return true
  | .format sink ps => do
    Seeking.write sink (formatted zone f ps)
    return true
  | .list sink => do
    Seeking.write sink (longLine zone ((← Act.disk).now * 1000) f)
    return true
  | .delete => removeFound f
  | .prune => do
    modify fun p => { p with isPruned := true }
    return true
  | .quit => do
    modify fun p => { p with isOver := true }
    return true
  | .run call inside asks => do
    let isWanted ← if asks then confirmed (call.headD []) f.path else pure true
    if !isWanted then return false
    let file := if inside then "./".toList ++ Tool.lastName f.path else f.path
    engine.runFor (if inside then some (Tool.holder f.path) else none) asks
      (call.map (withFile file))
  | .gather n inside => do
    let file := if inside then "./".toList ++ Tool.lastName f.path else f.path
    modify fun p => { p with kept := (n, file) :: p.kept }
    return true

/-- Looks at an expression for a file. -/
def ask (q : Search) (f : Found) (zone : Tool.Time.Zone) : Find.Expr → Seeking Bool
  | .test t => do return t.holds (← Act.disk) q.following f
  | .action a => engine.act f zone a
  | .negation e => do return !(← ask q f zone e)
  | .both a b => do
    if (← ask q f zone a) && !(← get).isOver then ask q f zone b else return false
  | .either a b => do
    if (← ask q f zone a) || (← get).isOver then return true else ask q f zone b
  | .sequence a b => do
    let _ ← ask q f zone a
    if (← get).isOver then return false else ask q f zone b

/-- Goes through what stands at a path. `room` is how deep directories may lie in each other, and
`outer` tells in which ones this one lies. -/
def seek (q : Search) (zone : Tool.Time.Zone) (start : List Char) :
    (room : Nat) → (depth : Nat) → (outer : List (Location × List Char)) → (path : List Char) →
    Seeking Unit
  | 0, _, _, _ => return ()
  | room + 1, depth, outer, path => do
    if (← get).isOver then return ()
    let d ← Act.disk
    match Status.of d false path with
    | .error t => Seeking.fail (quoted path ++ ": ".toList ++ t.reason.toList)
    | .ok own =>
      let target := Status.of d true path
      let follows := q.following = .always || (q.following = .first && depth = 0)
      let status := if follows then target.toOption.getD own else own
      let isDirectory := status.entry matches .directory _
      match (if isDirectory && q.following = .always then outer.lookup status.place else none) with
      | some other =>
        Seeking.fail ("File system loop detected; ".toList ++ quoted path ++
          " is part of the same file system loop as ".toList ++ quoted other ++ ".".toList)
      | none =>
        let here : Seeking Unit := do
          if q.least ≤ depth && !(← get).isOver then
            let dir := Tool.holder path
            if (← get).last ≠ dir then runKept engine q true
            modify fun p => { p with last := dir }
            let f : Found := ⟨start, path, depth, status, own, target⟩
            let _ ← engine.ask q f zone q.expr
        let below : Seeking Unit := do
          if isDirectory && q.greatest.all (depth < ·) then
            let d ← Act.disk
            match d.entry? status.place with
            | some (.directory mode) =>
              if Disk.mayRead mode then
                (Tool.childrenOf d status.place).forM fun name =>
                  seek q zone start room (depth + 1) ((status.place, path) :: outer)
                    (Tool.below path (ofText name))
              else Seeking.fail (quoted path ++ ": Permission denied".toList)
            | _ => Seeking.fail (quoted path ++ ": No such file or directory".toList)
        if q.isUpwards then
          below
          here
        else
          modify fun p => { p with isPruned := false }
          here
          if !(← get).isPruned then below

/-- Searches for files. -/
def find (_ : List Char) (args : List (List Char)) : Act Ending := do
  let d ← Act.disk
  let zone := match (← environment).lookup "TZ".toList with
    | some name => Tool.Time.Zone.ofText name
    | none => .universal
  let refuse (text : List Char) : Act Ending := Runner.refuse "find".toList 1 text
  match Find.read ⟨d, zone⟩ args with
  | .error text => refuse text
  | .ok q =>
    q.warnings.forM (Runner.complain "find".toList)
    match q.files.findSome? fun path => (Tool.writingTrouble? d path).map (path, ·) with
    | some (path, t) => refuse (Tool.plainComplaint (quoted path) t)
    | none =>
      let mask := (← Act.shell).mask
      q.files.forM fun path => Act.changeDisk fun d => Tool.written mask d path []
      let room := d.entries.length + 100
      let all : Seeking Unit := do
        q.starts.forM fun start => engine.seek q zone start room 0 [] start
        runKept engine q false
      let (_, p) ← all.run {}
      return .exited p.status

end Engine

end ParserConformance.Script
