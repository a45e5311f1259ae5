import ParserConformance.Script.Tool.Dialog

/-!
# Removing files and directories

`rm` removes files and, if that is asked for, directories with all that is in them; `rmdir`
removes directories in which nothing is; `unlink` removes one file.
-/

namespace ParserConformance.Script.Tool

/-- The names of what stands right below a place, in their order. -/
def childrenOf (d : Disk) (place : Location) : List String :=
  (d.entries.filterMap fun (p, _) =>
    if p.dropLast = place then p.getLast? else none).mergeSort fun a b => a ≤ b

/-- Whether nothing stands below a path. -/
def isBare (d : Disk) (path : List Char) : Bool :=
  match d.locate (pathOfChars path) false with
  | .ok place => (childrenOf d place).isEmpty
  | .error _ => false

namespace Removal

/-- When questions are asked. -/
inductive Asking where
  /-- Never. -/
  | never
  /-- Once, before much is removed. -/
  | once
  /-- Before each removal. -/
  | always
  deriving DecidableEq, Repr

/-- How things are removed. -/
structure Manner where
  /-- Whether directories are removed with all that is in them. -/
  isDeep : Bool
  /-- Whether directories are removed in which nothing is. -/
  removesBare : Bool
  /-- Whether what is not there is passed over. -/
  isForced : Bool
  /-- Whether removals are told. -/
  isVerbose : Bool
  /-- When questions are asked. -/
  asking : Asking

/-- Removes what stands at a place, which a path names. -/
def removeAt (c : Call) (m : Manner) (t : Dialog) (place : Location) (path : List Char)
    (entry : Entry) : Dialog :=
  let isDir := isDirectoryEntry entry
  let (goesOn, t) :=
    if m.asking = .always then
      t.ask c ("remove ".toList ++ entry.kindName.toList ++ ' ' :: quotedName path)
    else (true, t)
  if !goesOn then t
  else
    match makingTrouble? t.disk path with
    | some trouble =>
      t.complain c 1 ("cannot remove ".toList ++ quotedComplaint path trouble)
    | none =>
      let t := t.withDisk (t.disk.erase place)
      if m.isVerbose then
        t.write ((if isDir then "removed directory " else "removed ").toList ++ quotedName path ++
          ['\n'])
      else t

/-- Removes what stands at a place and all that is below it, down to a depth. -/
def removeAll (c : Call) (m : Manner) : (depth : Nat) → Dialog → Location → List Char →
    Dialog
  | 0, t, _, _ => t
  | depth + 1, t, place, path =>
    match t.disk.entry? place with
    | none => t
    | some entry =>
      if !isDirectoryEntry entry then removeAt c m t place path entry
      else
        let names := childrenOf t.disk place
        let (goesOn, t) :=
          if m.asking = .always && !names.isEmpty then
            t.ask c ("descend into directory ".toList ++ quotedName path)
          else (true, t)
        if !goesOn then t
        else
          let t := names.foldl (fun t name =>
            removeAll c m depth t (place ++ [name]) (below path (ofText name))) t
          if (childrenOf t.disk place).isEmpty then removeAt c m t place path entry else t

/-- Removes what a path names. -/
def removeNamed (c : Call) (m : Manner) (t : Dialog) (path : List Char) : Dialog :=
  let refuse (reason : String) : Dialog :=
    t.complain c 1 ("cannot remove ".toList ++ quotedName path ++ ": ".toList ++ reason.toList)
  let final := lastName path
  if m.isDeep && (final = ['.'] || final = ['.', '.']) then
    t.complain c 1 ("refusing to remove '.' or '..' directory: skipping ".toList ++ quotedName path)
  else if m.isDeep && final = ['/'] then
    (t.complain c 1 "it is dangerous to operate recursively on '/'".toList).complain c 1
      "use --no-preserve-root to override this failsafe".toList
  else
    match (ownPlace? t.disk path).filter fun p => (t.disk.entry? p).isSome with
    | none =>
      let trouble := findingTrouble t.disk path
      if m.isForced && (trouble = .notFound || trouble = .notDirectory) then t
      else refuse trouble.reason
    | some place =>
      match t.disk.entry? place with
      | some (.directory mode) =>
        if m.isDeep then removeAll c m (t.disk.entries.length + 1) t place path
        else if m.removesBare && !final.all (· = '.') then
          if (childrenOf t.disk place).isEmpty then removeAt c m t place path (.directory mode)
          else refuse "Directory not empty"
        else refuse Trouble.isDirectory.reason
      | some entry =>
        if path.getLast? = some '/' then refuse Trouble.notDirectory.reason
        else removeAt c m t place path entry
      | none => t

/-- When options say that questions are asked, or what is wrong with them. -/
def askingOf (o : Options) : Except (List Char) Asking :=
  match o.letters.reverse.find? fun l => "fiIA".toList.contains l.1 with
  | some ('i', _) => .ok .always
  | some ('I', _) => .ok .once
  | some ('A', way) =>
    match String.ofList way with
    | "never" | "no" | "none" => .ok .never
    | "once" => .ok .once
    | "" | "always" | "yes" => .ok .always
    | _ => .error way
  | _ => .ok .never

end Removal

/-- Removes files, and directories if that is asked for. -/
def rm : Tool :=
  withOptions {
    flags := "dfiIrRvXP", optional := "A", hidden := "AXP"
    long := [("dir", 'd'), ("force", 'f'), ("interactive", 'A'), ("one-file-system", 'X'),
      ("no-preserve-root", 'P'), ("preserve-root", 'P'), ("recursive", 'r'),
      ("verbose", 'v')] } 1 fun c o =>
  match Removal.askingOf o with
  | .error way =>
    .ofMisuse c 1 ("invalid argument ".toList ++ quoted way ++ (" for '--interactive'\nValid " ++
      "arguments are:\n  - 'never', 'no', 'none'\n  - 'once'\n  - 'always', 'yes'").toList)
  | .ok asking =>
    let isDeep := o.has 'r' || o.has 'R'
    let m : Removal.Manner := {
      isDeep
      removesBare := o.has 'd'
      isForced := o.lastOf? "fiI" = some 'f'
      isVerbose := o.has 'v'
      asking }
    let count := o.operands.length
    if count = 0 then
      if m.isForced then .ofStatus c 0 else .ofMisuse c 1 "missing operand".toList
    else
      let (goesOn, t) :=
        if asking = .once && (isDeep || 3 < count) then
          (Dialog.start c).ask c ("remove ".toList ++ digitsOf count ++
            (if count = 1 then " argument" else " arguments").toList ++
            (if isDeep then " recursively" else "").toList)
        else (true, Dialog.start c)
      if !goesOn then t.finish c
      else (o.operands.foldl (Removal.removeNamed c m) t).finish c

/-- Removes a directory in which nothing is, or tells why not: with the reason, and whether it is
that something is in it. -/
def removeBare (d : Disk) (path : List Char) : Except (String × Bool) Disk :=
  match (ownPlace? d path).filter fun p => (d.entry? p).isSome with
  | none => .error ((findingTrouble d path).reason, false)
  | some place =>
    match d.entry? place with
    | some (.directory _) =>
      if lastName path = ['.'] then .error ("Invalid argument", false)
      else if !(childrenOf d place).isEmpty || lastName path = ['.', '.'] then
        .error ("Directory not empty", true)
      else
        match makingTrouble? d path with
        | some t => .error (t.reason, false)
        | none => .ok (d.erase place)
    | some (.link _) =>
      .error (if path.getLast? = some '/' then "Symbolic link not followed"
        else "Not a directory", false)
    | _ => .error ("Not a directory", false)

/-- Removes directories in which nothing is. -/
def rmdir : Tool :=
  withOptions {
    flags := "pvI", hidden := "I"
    long := [("ignore-fail-on-non-empty", 'I'), ("parents", 'p'), ("verbose", 'v')] } 1 fun c o =>
  let remove (isParent : Bool) (e : Effect) (path : List Char) : Effect × Bool :=
    let e := if o.has 'v' then
        e.write (c.name ++ ": removing directory, ".toList ++ quotedName path ++ ['\n']) else e
    match removeBare e.disk path with
    | .ok d => ({ e with disk := d }, true)
    | .error (reason, isFull) =>
      if isFull && o.has 'I' then (e, false)
      else
        (e.complain c 1 ((if isParent then "failed to remove directory "
          else "failed to remove ").toList ++ quotedName path ++ ": ".toList ++
          reason.toList), false)
  let rec parents (e : Effect) : List (List Char) → Effect
    | [] => e
    | path :: more =>
      let (e, isGone) := remove true e path
      if isGone then parents e more else e
  if o.operands.isEmpty then .ofMisuse c 1 "missing operand".toList
  else
    o.operands.foldl (fun e path =>
      let (e, isGone) := remove false e path
      if isGone && o.has 'p' then
        let names := splitAt '/' (withoutEndSlashes path)
        parents e ((List.range (names.length - 1)).reverse.filterMap fun i =>
          let part := ['/'].intercalate (names.take (i + 1))
          if part.isEmpty then none else some part)
      else e) (.ofStatus c 0)

/-- Removes one file. -/
def unlink : Tool :=
  withOptions {} 1 fun c o =>
  match o.operands with
  | [] => .ofMisuse c 1 "missing operand".toList
  | [path] =>
    let refuse (reason : String) : Effect :=
      .ofComplaint c 1 ("cannot unlink ".toList ++ quotedName path ++ ": ".toList ++ reason.toList)
    match (ownPlace? c.disk path).filter fun p => (c.disk.entry? p).isSome with
    | none => refuse (findingTrouble c.disk path).reason
    | some place =>
      if (c.disk.entry? place).any isDirectoryEntry then refuse Trouble.isDirectory.reason
      else
        match makingTrouble? c.disk path with
        | some t => refuse t.reason
        | none => { Effect.ofStatus c 0 with disk := c.disk.erase place }
  | _ :: extra :: _ => .ofMisuse c 1 ("extra operand ".toList ++ quoted extra)

end ParserConformance.Script.Tool
