import ParserConformance.Script.Tool.Making
import ParserConformance.Script.Tool.Removal

/-!
# Copying and moving

`cp` copies files and, if that is asked for, directories with all that is in them; `mv` moves
them; `install` copies files and gives them a mode.
-/

namespace ParserConformance.Script.Tool

namespace Transfer

/-- Which links stand for what they lead to. -/
inductive Follow where
  /-- None. -/
  | never
  /-- Those that are arguments. -/
  | arguments
  /-- All. -/
  | always
  deriving DecidableEq, Repr

/-- What becomes of files. -/
inductive Product where
  /-- A file with the same content. -/
  | copy
  /-- One more name of the file. -/
  | name
  /-- A link to the file. -/
  | link
  deriving DecidableEq, Repr

/-- What is done about what stands in the way. -/
inductive Overwriting where
  /-- It is overwritten. -/
  | always
  /-- It is overwritten if the answer to a question is yes. -/
  | ask
  /-- It stays. -/
  | never
  deriving DecidableEq, Repr

/-- How things are copied or moved. -/
structure Manner where
  /-- Whether things are moved. -/
  moves : Bool
  /-- Whether directories are copied with all that is in them. -/
  isDeep : Bool
  /-- Which links stand for what they lead to. -/
  follow : Follow
  /-- What becomes of files. -/
  product : Product
  /-- What is done about what stands in the way. -/
  overwriting : Overwriting
  /-- Whether what was changed later stays. -/
  isUpdate : Bool
  /-- Whether what cannot be written is replaced. -/
  isForced : Bool
  /-- Whether what stands in the way is removed first. -/
  removesFirst : Bool
  /-- Whether modes stay as they are. -/
  keepsMode : Bool
  /-- Whether times stay as they are. -/
  keepsTime : Bool
  /-- Whether only modes and times are copied. -/
  onlyAttributes : Bool
  /-- Whether changes are told. -/
  isVerbose : Bool

/-- What has come so far of several transfers. -/
structure Progress where
  /-- What was written, and the disk. -/
  dialog : Dialog
  /-- The places that were copied. -/
  sources : List Location := []
  /-- The places that were made. -/
  made : List Location := []

namespace Progress

/-- With a complaint. -/
def complain (p : Progress) (c : Call) (text : List Char) : Progress :=
  { p with dialog := p.dialog.complain c 1 text }

/-- The disk at this point. -/
def disk (p : Progress) : Disk := p.dialog.disk

/-- With another disk. -/
def withDisk (p : Progress) (d : Disk) : Progress := { p with dialog := p.dialog.withDisk d }

end Progress

/-- Tells of a transfer, if that is wanted. -/
def tell (m : Manner) (p : Progress) (source target : List Char) (kept : Option (List Char)) :
    Progress :=
  if !m.isVerbose then p
  else
    let front := if m.moves then "renamed ".toList else []
    let behind := match kept with
      | some path => " (backup: ".toList ++ quotedName path ++ [')']
      | none => []
    { p with dialog := p.dialog.write (front ++ quotedName source ++ " -> ".toList ++
        quotedName target ++ behind ++ ['\n']) }

/-- The disk with the mode and the time of one place at another one, as far as they are kept. -/
def withAttributes (m : Manner) (d : Disk) (old new : Location) : Disk :=
  let d := match m.keepsMode, d.entry? old, d.entry? new with
    | true, some (.file mode _), some (.file _ content) => d.reform new (.file mode content)
    | true, some (.directory mode), some (.directory _) => d.reform new (.directory mode)
    | _, _, _ => d
  if m.keepsTime then d.setChangedAt new (d.changedAt old) else d

/-- Copies a file to a place, the names of both being given. -/
def copyFile (c : Call) (m : Manner) (p : Progress) (old new : Location)
    (source target : List Char) (mode : Nat) (content : List UInt8) : Progress :=
  let d := p.disk
  let isInput := d.entry? old matches some (.special _ (.stream 0))
  let content := if isInput then toBytes (c.input.getD []) else content
  let p := if isInput then { p with dialog := { p.dialog with hasAsked := true } } else p
  if !Disk.mayRead mode then
    p.complain c ("cannot open ".toList ++ quotedName source ++
      " for reading: Permission denied".toList)
  else if (d.locate (pathOfChars target) false).toOption.isNone &&
      (standsAt? d target).any fun e => e matches .link _ then
    p.complain c ("not writing through dangling symlink ".toList ++ quotedName target)
  else
    let d := match m.isForced, writingTrouble? d target, d.entry? new with
      | true, some _, some _ => d.erase new
      | _, _, _ => d
    match stream? target, writingTrouble? d target with
    | some isError, _ =>
      let e := p.dialog.effect
      { p with dialog := { p.dialog with effect :=
        { e with writes := e.writes ++ [(isError, ofBytes content)] } } }
    | none, some t =>
      let isStart := target.getLast? = some '/' && (makingTrouble? d target).isNone
      let t := if isStart then .notDirectory else t
      p.complain c ("cannot create regular file ".toList ++ quotedComplaint target t)
    | none, none =>
      let content := if m.onlyAttributes then
          match d.entry? new with
          | some (.file _ there) => there
          | _ => []
        else content
      let d := match d.entry? new with
        | some (.file there _) => d.change new (.file there content)
        | some _ => d
        | none => d.set new (.file (mode &&& (0o7777 ^^^ c.mask)) content)
      p.withDisk (withAttributes m d old new)

/-- Makes of a file what is wanted. -/
def produce (c : Call) (m : Manner) (p : Progress) (old new : Location)
    (source target : List Char) (entry : Entry) : Progress :=
  let d := p.disk
  match m.product, entry with
  | .name, _ =>
    match makingTrouble? d target with
    | some t =>
      p.complain c ("cannot create hard link ".toList ++ quotedName target ++ " to ".toList ++
        quotedComplaint source t)
    | none =>
      if (d.entry? new).isSome && !m.isForced && !m.removesFirst then
        p.complain c ("cannot create hard link ".toList ++ quotedName target ++ " to ".toList ++
          quotedName source ++ ": File exists".toList)
      else p.withDisk ((if (d.entry? new).isSome then d.erase new else d).tie old new)
  | .link, _ =>
    if source.head? ≠ some '/' && holder target ≠ ['.'] then
      p.complain c (target ++ ": can make relative symbolic links only in current directory".toList)
    else if (d.entry? new).isSome && !m.isForced && !m.removesFirst then
      p.complain c ("cannot create symbolic link ".toList ++ quotedName target ++ " to ".toList ++
        quotedName source ++ ": File exists".toList)
    else p.withDisk (d.set new (.link (toText source)))
  | .copy, .file mode content => copyFile c m p old new source target mode content
  | .copy, .link to_ =>
    match makingTrouble? d target with
    | some t =>
      p.complain c ("cannot create symbolic link ".toList ++ quotedComplaint target t)
    | none => p.withDisk (withAttributes m (d.set new (.link to_)) old new)
  | .copy, .special mode kind =>
    if m.isDeep then
      p.withDisk (withAttributes m (d.set new
        (.special (mode &&& (0o7777 ^^^ c.mask)) kind)) old new)
    else match d.readSpecial kind with
    | .ok content => copyFile c m p old new source target mode content
    | .error t =>
      p.complain c ("cannot open ".toList ++ quotedName source ++ " for reading: ".toList ++
        t.reason.toList)
  | .copy, .directory _ => p

/-- What stands in the way is asked about, kept or removed. Tells whether the transfer goes on,
and the path under which something is kept. -/
def clear (c : Call) (o : Options) (m : Manner) (p : Progress) (old : Location)
    (source target : List Char) (entry : Entry) (there : Location × Entry) :
    Option (Option (List Char)) × Progress :=
  let d := p.disk
  let isDir := isDirectoryEntry entry
  let isOld := m.isUpdate && !isDir && d.changedAt old ≤ d.changedAt there.1
  let stop (p : Progress) : Option (Option (List Char)) × Progress := (none, p)
  let isSame := (d.placesOf old).contains there.1
  let keepsBoth := (backupOf? c o).isSome
  if isSame && !(m.product = .name && !m.moves) && !(keepsBoth && m.isForced && !m.moves) then
    stop (p.complain c (quotedName source ++ " and ".toList ++ quotedName target ++
      " are the same file".toList))
  else if isSame then stop p
  else if isOld then stop p
  else if !isDir && m.overwriting = .never then
    stop (if m.moves then p.complain c ("not replacing ".toList ++ quotedName target) else p)
  else
    let (goesOn, dialog) := if !isDir && m.overwriting = .ask && !isDirectoryEntry there.2 then
        p.dialog.ask c ("overwrite ".toList ++ quotedName target)
      else (true, p.dialog)
    let p := { p with dialog }
    if !goesOn then stop { p with dialog := p.dialog.atLeast 1 }
    else if isDir && !isDirectoryEntry there.2 && !keepsBoth then
      stop (p.complain c ("cannot overwrite non-directory ".toList ++ quotedName target ++
        " with directory ".toList ++ quotedName source))
    else if !isDir && isDirectoryEntry there.2 then
      stop (p.complain c ("cannot overwrite directory ".toList ++ quotedName target ++
        " with non-directory".toList))
    else if !isDir && p.made.contains there.1 then
      stop (p.complain c ("will not overwrite just-created ".toList ++ quotedName target ++
        " with ".toList ++ quotedName source))
    else if isDir && !m.moves then (some none, p)
    else
      let (d, kept) := backedUp c o p.disk target
      let d :=
        if kept.isNone && !m.moves && (m.removesFirst || (entry matches .link _)) then
          match ownPlace? d target with
          | some place => d.erase place
          | none => d
        else d
      (some kept, p.withDisk d)

/-- The place at which something is to be made. -/
def targetPlace? (d : Disk) (follows : Bool) (target : List Char) : Option Location :=
  if follows then (d.locate (pathOfChars target) true).toOption.or (ownPlace? d target)
  else ownPlace? d target

/-- Copies what a path names to another path, down to a depth of directories. -/
def copy (c : Call) (o : Options) (m : Manner) :
    (depth : Nat) → (isArgument : Bool) → Progress → (source target : List Char) → Progress
  | 0, _, p, _, _ => p
  | depth + 1, isArgument, p, source, target =>
    let d := p.disk
    let follows := m.follow = .always || (m.follow = .arguments && isArgument)
    let old? : Except Trouble Location :=
      if follows then d.locate (pathOfChars source) false
      else match (ownPlace? d source).filter fun q => (d.entry? q).isSome with
        | some q => .ok q
        | none => .error (findingTrouble d source)
    match old?.bind fun old => match d.entry? old with
        | some e => .ok (old, e)
        | none => .error .notFound with
    | .error t => p.complain c ("cannot stat ".toList ++ quotedComplaint source t)
    | .ok (old, entry) =>
      let isDir := isDirectoryEntry entry
      let isLink := entry matches .link _
      if isDir && !m.isDeep then
        p.complain c ("-r not specified; omitting directory ".toList ++ quotedName source)
      else if isArgument && p.sources.contains old && (backupOf? c o).isNone then
        { p with dialog := p.dialog.complain c 0 ("warning: source ".toList ++
          (if isDir then "directory " else "file ").toList ++ quotedName source ++
          " specified more than once".toList) }
      else
        let p := if isArgument then { p with sources := old :: p.sources } else p
        let there? : Except Trouble (Option (Location × Entry)) :=
          if isLink || m.removesFirst || m.product ≠ .copy then
            .ok do
              let q ← ownPlace? d target
              return (q, ← d.entry? q)
          else
            match d.locate (pathOfChars target) false with
            | .ok q => .ok ((d.entry? q).map (q, ·))
            | .error .notFound => .ok none
            | .error t =>
              if target.getLast? = some '/' && (d.locate (pathOfChars (withoutEndSlashes target))
                false).toOption.isNone then .ok none else .error t
        match there? with
        | .error t => p.complain c ("cannot stat ".toList ++ quotedComplaint target t)
        | .ok there? =>
          let (kept?, p) := match there? with
            | none => (some none, p)
            | some there => clear c o m p old source target entry there
          match kept?, targetPlace? p.disk (!isLink && m.product = .copy) target with
          | none, _ => p
          | some _, none =>
            let trouble := if target.isEmpty then Trouble.notFound
              else (makingTrouble? p.disk target).getD
                (if target.getLast? = some '/' then .notDirectory else .notFound)
            p.complain c ((if isDir then "cannot create directory "
              else "cannot create regular file ").toList ++ quotedComplaint target trouble)
          | some kept, some new =>
            if !isDir then
              let before := p.dialog.effect.writes.length
              let p := tell m p source target kept
              let done := produce c m p old new source target entry
              let hasFailed := p.dialog.effect.writes.length < done.dialog.effect.writes.length
              let done := if hasFailed then { done with dialog := { done.dialog with
                  effect := { done.dialog.effect with
                    writes := done.dialog.effect.writes.take before ++
                      done.dialog.effect.writes.drop p.dialog.effect.writes.length } } }
                else done
              if isArgument then { done with made := new :: done.made } else done
            else
              let isInside := isArgument && old.isPrefixOf new
              let names := d.entries.filterMap fun (q, _) =>
                if q.dropLast = old && !(isInside && q = new) then q.getLast? else none
              let isNew := (p.disk.entry? new).isNone
              match isNew, makingTrouble? p.disk target, entry with
              | true, some t, _ =>
                p.complain c ("cannot create directory ".toList ++ quotedComplaint target t)
              | true, none, .directory mode =>
                let p := p.withDisk (p.disk.set new
                  (.directory (mode &&& (0o7777 ^^^ c.mask) ||| 0o700)))
                let p := tell m p source target none
                let p := names.foldl (fun p name =>
                  copy c o m depth false p (below source (ofText name))
                    (below target (ofText name))) p
                let p := if isInside then
                    p.complain c ("cannot copy a directory, ".toList ++ quotedName source ++
                      ", into itself, ".toList ++ quotedName target)
                  else p
                let p := p.withDisk (p.disk.reform new (.directory (mode &&& (0o7777 ^^^ c.mask))))
                p.withDisk (withAttributes m p.disk old new)
              | _, _, _ =>
                let p := names.foldl (fun p name =>
                  copy c o m depth false p (below source (ofText name))
                    (below target (ofText name))) p
                p.withDisk (withAttributes m p.disk old new)

/-- Moves what a path names to another path. -/
def move (c : Call) (o : Options) (m : Manner) (p : Progress) (source target : List Char) :
    Progress :=
  let d := p.disk
  let refuse (p : Progress) (reason : String) : Progress :=
    p.complain c ("cannot move ".toList ++ quotedName source ++ " to ".toList ++
      quotedName target ++ ": ".toList ++ reason.toList)
  match (ownPlace? d source).bind fun q => (d.entry? q).map (q, ·) with
  | none =>
    p.complain c ("cannot stat ".toList ++ quotedComplaint source (findingTrouble d source))
  | some (old, entry) =>
    let isDir := isDirectoryEntry entry
    let plain := withoutEndSlashes target
    let there? := (ownPlace? d target).bind fun q => (d.entry? q).map (q, ·)
    if target ≠ plain && there?.any fun e => !isDirectoryEntry e.2 then
      p.complain c ("cannot stat ".toList ++ quotedName target ++ ": Not a directory".toList)
    else if there?.isNone && findingTrouble d target = .notDirectory then
      p.complain c ("cannot stat ".toList ++ quotedName target ++ ": Not a directory".toList)
    else
      match (match there? with
        | none => (some none, p)
        | some there =>
          if isDir && old.isPrefixOf there.1 then (some none, p)
          else clear c o m p old source target entry there) with
      | (none, p) => p
      | (some kept, p) =>
        let d := p.disk
        let final := lastName source
        if final = ['.'] || final = ['.', '.'] then refuse p "Device or resource busy"
        else
          match makingTrouble? d source, makingTrouble? d target, ownPlace? d target with
          | some t, _, _ | none, some t, _ => refuse p t.reason
          | none, none, none => refuse p Trouble.notFound.reason
          | none, none, some new =>
            if isDir && old.isPrefixOf new then
              p.complain c ("cannot move ".toList ++ quotedName source ++
                " to a subdirectory of itself, ".toList ++ quotedName target)
            else if target ≠ plain && !isDir then refuse p Trouble.notDirectory.reason
            else if isDir && !(childrenOf d new).isEmpty then
              p.complain c ("cannot overwrite ".toList ++ quotedName target ++
                ": Directory not empty".toList)
            else tell m (p.withDisk (d.move old new)) source target kept

/-- The path of an argument in a directory. -/
def pathIn (dir source : List Char) : List Char :=
  let name := lastName source
  below dir (if name = ['.', '.'] then ['.'] else name)

/-- Why a path does not lead to a directory. -/
def directoryReason (d : Disk) (path : List Char) : List Char :=
  match d.stat (pathOfChars path) with
  | .ok _ => Trouble.notDirectory.reason.toList
  | .error t => t.reason.toList

/-- Transfers all but the last of some paths to the last one, or all of them to a directory. -/
def transferAll (c : Call) (o : Options)
    (one : Progress → (source target : List Char) → Progress) : Effect :=
  let start : Progress := { dialog := .start c }
  let strip (path : List Char) : List Char :=
    if o.has 'Z' then withoutEndSlashes path else path
  let finish (p : Progress) : Effect := p.dialog.finish c
  let into (dir : List Char) (sources : List (List Char)) : Effect :=
    finish (sources.foldl (fun p source => one p source (pathIn dir source)) start)
  let operands := o.operands.map strip
  match o.value? 't', operands.getLast?, operands.dropLast with
  | _, none, _ => .ofMisuse c 1 "missing file operand".toList
  | some dir, _, _ =>
    if o.has 'T' then
      .ofMisuse c 1 "cannot combine --target-directory (-t) and --no-target-directory (-T)".toList
    else if isDirectory c.disk dir then into dir operands
    else .ofComplaint c 1 ("target directory ".toList ++ quotedName dir ++ ": ".toList ++
      directoryReason c.disk dir)
  | none, some only, [] =>
    .ofMisuse c 1 ("missing destination file operand after ".toList ++ quoted only)
  | none, some target, source :: more =>
    if o.has 'T' then
      match more with
      | [] => finish (one start source target)
      | _ => .ofMisuse c 1 ("extra operand ".toList ++ quoted (operands.getD 2 []))
    else if isDirectory c.disk target then into target (source :: more)
    else if more.isEmpty then finish (one start source target)
    else .ofComplaint c 1 ("target ".toList ++ quotedName target ++ ": ".toList ++
      directoryReason c.disk target)

end Transfer

/-! ### The tools -/

/-- The long names of the options of `cp`. -/
def cpNames : List (String × Char) :=
  backupNames ++ [("archive", 'a'), ("attributes-only", 'A'), ("copy-contents", 'C'),
    ("debug", 'D'), ("dereference", 'L'), ("force", 'f'), ("interactive", 'i'), ("link", 'l'),
    ("no-clobber", 'n'), ("no-dereference", 'P'), ("no-preserve", 'N'),
    ("no-target-directory", 'T'), ("one-file-system", 'x'), ("parents", 'Y'), ("path", 'Y'),
    ("preserve", 'K'), ("recursive", 'R'), ("remove-destination", 'W'), ("sparse", 'E'),
    ("reflink", 'F'), ("strip-trailing-slashes", 'Z'), ("symbolic-link", 's'),
    ("target-directory", 't'), ("update", 'U'), ("verbose", 'v')]

/-- Whether options keep an attribute of files. -/
def keepsAttribute (o : Options) (name : String) : Bool :=
  let named (letter : Char) (usual : Bool) : Bool := (o.values letter).any fun v =>
    (v.isEmpty && usual) || (splitAt ',' v).any fun n => n = name.toList || n = "all".toList
  (o.has 'a' || o.has 'p' || named 'K' true) && !named 'N' false

/-- Copies files. -/
def cp : Tool :=
  withOptions {
    flags := "abdfHilLnPpRrsTuvxZACDYW", valued := "StNE", optional := "BKFU"
    hidden := "BNEKFZACDYWU", long := cpNames } 1 fun c o =>
  let isDeep := o.has 'r' || o.has 'R' || o.has 'a'
  let follow : Transfer.Follow := match o.lastOf? "adHLP" with
    | some 'L' => .always
    | some 'H' => .arguments
    | some _ => .never
    | none => if isDeep && !o.has 'l' then .never else .always
  let update := (o.value? 'U').map String.ofList
  let overwriting : Transfer.Overwriting :=
    if o.lastOf? "in" = some 'n' || update = some "none" then .never
    else if o.lastOf? "infU" = some 'i' || (o.has 'i' && !o.has 'n') then .ask
    else .always
  let m : Transfer.Manner := {
    moves := false
    isDeep
    follow
    product := if o.has 's' then .link else if o.has 'l' then .name else .copy
    overwriting
    isUpdate := o.has 'u' || update = some "" || update = some "older"
    isForced := o.has 'f'
    removesFirst := o.has 'W'
    keepsMode := keepsAttribute o "mode"
    keepsTime := keepsAttribute o "timestamps"
    onlyAttributes := o.has 'A'
    isVerbose := o.has 'v' || o.has 'D' }
  let warning := "warning: behavior of -n is non-portable and may change in future; ".toList ++
    "use --update=none instead".toList
  let depth := c.disk.entries.length + 2
  let e := Transfer.transferAll c o fun p source target =>
    if o.has 'Y' then
      let target := below (holder target) source
      let p := (leadingPaths (holder target)).foldl (fun p path =>
        if (p.disk.stat (pathOfChars path)).isOk then p
        else
          let p := p.withDisk (madeDirectory p.disk path (newDirectoryMode c.mask))
          if m.isVerbose then { p with dialog := p.dialog.write (path.drop
            ((holder (o.operands.getLast?.getD [])).length) ++ " -> ".toList ++ path ++ ['\n']) }
          else p) p
      Transfer.copy c o m depth true p source target
    else Transfer.copy c o m depth true p source target
  if o.has 'n' && 1 < o.operands.length then
    { e with writes := (true, c.name ++ ": ".toList ++ warning ++ ['\n']) :: e.writes }
  else e

/-- Moves files. -/
def mv : Tool :=
  withOptions {
    flags := "bfinTuvZD", valued := "St", optional := "BU", hidden := "BUZD"
    long := backupNames ++ [("context", 'D'), ("debug", 'D'), ("force", 'f'),
      ("interactive", 'i'), ("no-clobber", 'n'), ("no-copy", 'D'), ("no-target-directory", 'T'),
      ("strip-trailing-slashes", 'Z'), ("target-directory", 't'), ("update", 'U'),
      ("verbose", 'v')] } 1 fun c o =>
  let update := (o.value? 'U').map String.ofList
  let m : Transfer.Manner := {
    moves := true
    isDeep := true
    follow := .never
    product := .copy
    overwriting := match o.lastOf? "fin" with
      | some 'i' => .ask
      | some 'n' => .never
      | _ => if update = some "none" then .never else .always
    isUpdate := o.has 'u' || update = some "" || update = some "older"
    isForced := o.has 'f'
    removesFirst := false
    keepsMode := true
    keepsTime := true
    onlyAttributes := false
    isVerbose := o.has 'v' }
  Transfer.transferAll c o (Transfer.move c o m)

/-- Copies files and gives them a mode, or makes directories. -/
def install : Tool :=
  withOptions {
    flags := "bcCdDpsTv", valued := "gmoSt", optional := "B", hidden := "B"
    long := backupNames ++ [("compare", 'C'), ("directory", 'd'), ("group", 'g'), ("mode", 'm'),
      ("no-target-directory", 'T'), ("owner", 'o'), ("preserve-timestamps", 'p'),
      ("strip", 's'), ("target-directory", 't'), ("verbose", 'v')] } 1 fun c o =>
  match changedMode? c.mask false 0 ((o.value? 'm').getD "755".toList) with
  | none => .ofComplaint c 1 ("invalid mode ".toList ++ quoted ((o.value? 'm').getD []))
  | some mode =>
    let makeAll (p : Transfer.Progress) (path : List Char) (mode : Nat) : Transfer.Progress :=
      (leadingPaths path).foldl (fun p part =>
        if (p.disk.stat (pathOfChars part)).isOk then p
        else
          match directoryTrouble? p.disk part with
          | some reason => p.complain c ("cannot create directory ".toList ++ quotedName part ++
              ": ".toList ++ reason.toList)
          | none =>
            let p := p.withDisk (madeDirectory p.disk part
              (if part = withoutEndSlashes path then mode else 0o755))
            if o.has 'v' then { p with dialog := p.dialog.write (c.name ++
              ": creating directory ".toList ++ quotedName part ++ ['\n']) } else p) p
    if o.has 'd' then
      if o.operands.isEmpty then .ofMisuse c 1 "missing file operand".toList
      else
        let p : Transfer.Progress := { dialog := .start c }
        (o.operands.foldl (fun p path => makeAll p path mode) p).dialog.finish c
    else
      let m : Transfer.Manner := {
        moves := false
        isDeep := false
        follow := .always
        product := .copy
        overwriting := .always
        isUpdate := false
        isForced := true
        removesFirst := true
        keepsMode := false
        keepsTime := o.has 'p'
        onlyAttributes := false
        isVerbose := o.has 'v' }
      let prepared := if o.has 'D' then
          match o.value? 't', o.operands.getLast? with
          | some dir, _ => makeAll { dialog := .start c } dir 0o755
          | none, some target => makeAll { dialog := .start c } (holder target) 0o755
          | none, none => { dialog := .start c }
        else { dialog := .start c }
      let c' := { c with disk := prepared.disk }
      let e := Transfer.transferAll c' o fun p source target =>
        if isDirectory p.disk source then
          p.complain c ("omitting directory ".toList ++ quotedName source)
        else
          let p := Transfer.copy c o m 1 true p source target
          match ownPlace? p.disk target with
          | some place =>
            match p.disk.entry? place with
            | some (.file _ content) => p.withDisk (p.disk.reform place (.file mode content))
            | _ => p
          | none => p
      { e with writes := prepared.dialog.effect.writes ++ e.writes }

end ParserConformance.Script.Tool
