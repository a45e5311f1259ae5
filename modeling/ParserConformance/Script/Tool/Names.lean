import ParserConformance.Script.Tool.Place

/-!
# Names of files

Tools that take paths apart, or say what they lead to.
-/

namespace ParserConformance.Script.Tool

/-- A name without an ending, unless that is all of it. -/
def withoutEnding (name ending : List Char) : List Char :=
  if ending.reverse.isPrefixOf name.reverse && ending.length < name.length then
    name.take (name.length - ending.length)
  else name

/-- Writes the last names of paths. -/
def basename : Tool :=
  withOptions {
    flags := "az", valued := "s", endsAtOperand := true
    long := [("multiple", 'a'), ("suffix", 's'), ("zero", 'z')] } 1 fun c o =>
  let shown (ending path : List Char) := withoutEnding (lastName path) ending
  let write (names : List (List Char)) := Effect.ofOutput c (ended (stopOf o) names)
  match o.operands with
  | [] => .ofMisuse c 1 "missing operand".toList
  | [path] => write [shown ((o.value? 's').getD []) path]
  | path :: ending :: more =>
    if o.has 'a' || o.has 's' then write (o.operands.map (shown ((o.value? 's').getD [])))
    else if more.isEmpty then write [shown ending path]
    else .ofMisuse c 1 ("extra operand ".toList ++ quoted (more.headD []))

/-- Writes what stands before the last names of paths. -/
def dirname : Tool :=
  withOptions { flags := "z", long := [("zero", 'z')] } 1 fun c o =>
  if o.operands.isEmpty then .ofMisuse c 1 "missing operand".toList
  else .ofOutput c (ended (stopOf o) (o.operands.map holder))

/-! ### What paths lead to -/

/-- How much of a path must be there. -/
inductive Presence where
  /-- All of it. -/
  | all
  /-- All but its last name. -/
  | allButLast
  /-- Nothing. -/
  | nothing
  deriving DecidableEq, Repr

/-- A path with dots taken out as it stands. -/
def flattened (here : Location) (path : List Char) : List Char :=
  let names := (splitAt '/' path).map toText
  let start := if path.head? = some '/' then [] else here
  let place := names.foldl (fun (place : Location) name =>
    if name = "" || name = "." then place
    else if name = ".." then place.dropLast
    else place ++ [name]) start
  ofText (Disk.pathOf place).text

/-- The absolute path without links that means the same as a path. -/
def resolve (d : Disk) (path : List Char) (presence : Presence) :
    Except Trouble (List Char) :=
  let plain := if presence = .allButLast then withoutEndSlashes path else path
  match d.locate (pathOfChars plain) (presence ≠ .all) with
  | .ok place => .ok (ofText (Disk.pathOf place).text)
  | .error t =>
    if presence ≠ .nothing then .error t
    else
      let names := splitAt '/' path
      let there := (List.range (names.length + 1)).reverse.findSome? fun n =>
        let part := ['/'].intercalate (names.take n)
        let part := if n = 0 then ['.'] else if part.isEmpty then ['/'] else part
        (d.locate (pathOfChars part) false).toOption.map fun place => (place, names.drop n)
      match there with
      | some (place, rest) => .ok (flattened place (['/'].intercalate rest))
      | none => .ok (flattened d.here path)

/-- A path as seen from a directory. -/
def relativeTo (dir path : List Char) : List Char :=
  let a := (splitAt '/' dir).filter (!·.isEmpty)
  let b := (splitAt '/' path).filter (!·.isEmpty)
  let same := ((a.zip b).takeWhile fun (x, y) => x = y).length
  let names := List.replicate (a.length - same) ['.', '.'] ++ b.drop same
  if names.isEmpty then ['.'] else ['/'].intercalate names

/-- How much of a path must be there by the options. -/
def presenceOf (o : Options) (usual : Presence) : Presence :=
  match o.lastOf? "efm" with
  | some 'e' => .all
  | some 'm' => .nothing
  | some _ => .allButLast
  | none => usual

/-- Writes absolute paths without links. -/
def realpath : Tool :=
  withOptions {
    flags := "eLmPqsz", valued := "TB", hidden := "TB"
    long := [("canonicalize-existing", 'e'), ("canonicalize-missing", 'm'), ("relative-to", 'T'),
      ("relative-base", 'B'), ("quiet", 'q'), ("strip", 's'), ("no-symlinks", 's'),
      ("zero", 'z'), ("logical", 'L'), ("physical", 'P')] } 1 fun c o =>
  if o.operands.isEmpty then .ofMisuse c 1 "missing operand".toList
  else
    let resolved (path : List Char) : Except Trouble (List Char) :=
      if path.isEmpty then .error .notFound
      else if o.has 's' then .ok (flattened c.disk.here path)
      else resolve c.disk path (presenceOf o .allButLast)
    let seen (path : List Char) : List Char :=
      match o.value? 'T', o.value? 'B' with
      | some dir, _ => relativeTo ((resolved dir).toOption.getD dir) path
      | none, some dir =>
        let dir := (resolved dir).toOption.getD dir
        if dir = path || (below dir []).isPrefixOf path then relativeTo dir path else path
      | none, none => path
    o.operands.foldl (fun e path =>
      match resolved path with
      | .ok there => e.write (seen there ++ [stopOf o])
      | .error t =>
        if o.has 'q' then e.atLeast 1 else e.complain c 1 (fileComplaint path t))
      (.ofStatus c 0)

/-- Writes where links lead to. -/
def readlink : Tool :=
  withOptions {
    flags := "femnqsvz"
    long := [("canonicalize", 'f'), ("canonicalize-existing", 'e'),
      ("canonicalize-missing", 'm'), ("no-newline", 'n'), ("quiet", 'q'), ("silent", 's'),
      ("verbose", 'v'), ("zero", 'z')] } 1 fun c o =>
  if o.operands.isEmpty then .ofMisuse c 1 "missing operand".toList
  else
    let final := if o.has 'n' && o.operands.length = 1 then [] else [stopOf o]
    let refuse (e : Effect) (path : List Char) (reason : String) : Effect :=
      if o.has 'v' then e.complain c 1 (shownName path ++ ": ".toList ++ reason.toList)
      else e.atLeast 1
    o.operands.foldl (fun e path =>
      if (o.lastOf? "efm").isSome then
        match resolve c.disk path (presenceOf o .allButLast) with
        | .ok there => e.write (there ++ final)
        | .error t => refuse e path t.reason
      else
        match standsAt? c.disk path with
        | some (.link target) => e.write (ofText target ++ final)
        | some _ => refuse e path "Invalid argument"
        | none => refuse e path "No such file or directory") (.ofStatus c 0)

/-- Whether a path is one that files may have everywhere. -/
def pathchk : Tool :=
  withOptions { flags := "pP", long := [("portability", 'p')] } 1 fun c o =>
  if o.operands.isEmpty then .ofMisuse c 1 "missing operand".toList
  else
    let isPortable (ch : Char) := ch.isAlphanum || "._-/".toList.contains ch
    o.operands.foldl (fun e path =>
      if o.has 'P' && ((splitAt '/' path).any fun n => n.head? = some '-') then
        e.complain c 1 ("leading '-' in a component of file name ".toList ++ quotedName path)
      else if path.isEmpty then
        e.complain c 1 (if o.has 'p' || o.has 'P' then "empty file name".toList
          else quotedComplaint path .notFound)
      else
        match (if o.has 'p' then path.find? (!isPortable ·) else none) with
        | some ch => e.complain c 1 ("nonportable character ".toList ++ quoted [ch] ++
            " in file name ".toList ++ quotedName path)
        | none => e) (.ofStatus c 0)

end ParserConformance.Script.Tool
