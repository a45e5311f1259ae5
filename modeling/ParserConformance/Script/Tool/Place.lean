import ParserConformance.Script.Tool.Call

/-!
# Places by path

What stands at the paths that tools are given, taken apart as they stand, and why nothing can
be made or written there.
-/

namespace ParserConformance.Script.Tool

/-! ### Paths as they stand -/

/-- A path without slashes at its end, unless it is all slashes. -/
def withoutEndSlashes (path : List Char) : List Char :=
  match (path.reverse.dropWhile (· = '/')).reverse with
  | [] => path.take 1
  | rest => rest

/-- The last name of a path. -/
def lastName (path : List Char) : List Char :=
  let whole := withoutEndSlashes path
  if whole = ['/'] then whole else (whole.reverse.takeWhile (· ≠ '/')).reverse

/-- What stands before the last name of a path. -/
def holder (path : List Char) : List Char :=
  let whole := withoutEndSlashes path
  let name := (whole.reverse.takeWhile (· ≠ '/')).length
  if whole = ['/'] then whole
  else
    match whole.take (whole.length - name) with
    | [] => ['.']
    | dir => withoutEndSlashes dir

/-- A path below a directory. -/
def below (dir name : List Char) : List Char :=
  if dir.getLast? = some '/' then dir ++ name else dir ++ '/' :: name

/-! ### What stands there -/

/-- The place of a path, its last name not followed. -/
def ownPlace? (d : Disk) (path : List Char) : Option Location :=
  if withoutEndSlashes path = ['/'] then some []
  else
    match (pathOfChars path).fileName? with
    | some _ => d.ownPlace (pathOfChars path)
    | none => (d.locate (pathOfChars path) false).toOption

/-- What stands at a path, its last name not followed. -/
def standsAt? (d : Disk) (path : List Char) : Option Entry :=
  (ownPlace? d path).bind d.entry?

/-- Why nothing is found at a path. -/
def findingTrouble (d : Disk) (path : List Char) : Trouble :=
  match d.stat (pathOfChars (holder path)) with
  | .error t => t
  | .ok (.directory mode) => if Disk.maySearch mode then .notFound else .permissionDenied
  | .ok _ => .notDirectory

/-- Whether a path leads to a directory. -/
def isDirectory (d : Disk) (path : List Char) : Bool :=
  match d.stat (pathOfChars path) with
  | .ok (.directory _) => true
  | _ => false

/-- Whether something is a directory. -/
def isDirectoryEntry : Entry → Bool
  | .directory _ => true
  | _ => false

/-! ### Making and writing -/

/-- Why nothing can be made at a path, if that is so: the directory that would hold it is not
there, or may not be changed. -/
def makingTrouble? (d : Disk) (path : List Char) : Option Trouble :=
  match d.stat (pathOfChars (holder path)) with
  | .error t => some t
  | .ok (.directory mode) =>
    if Disk.mayWrite mode && Disk.maySearch mode then none else some .permissionDenied
  | .ok _ => some .notDirectory

/-- Why a file at a path cannot be written, if that is so. -/
def writingTrouble? (d : Disk) (path : List Char) : Option Trouble :=
  match d.locate (pathOfChars path) true with
  | .error t => some t
  | .ok place =>
    match d.entry? place with
    | some (.file mode _) | some (.special mode _) =>
      if Disk.mayWrite mode then none else some .permissionDenied
    | some _ => some .isDirectory
    | none =>
      if path.getLast? = some '/' then some .isDirectory
      else
        match d.entry? place.dropLast with
        | some (.directory mode) => if Disk.mayWrite mode then none else some .permissionDenied
        | _ => some .notFound

/-- The mode of a new file, by the bits that it does not get. -/
def newFileMode (mask : Nat) : Nat := 0o666 &&& (0o7777 ^^^ mask)

/-- The mode of a new directory, by the bits that it does not get. -/
def newDirectoryMode (mask : Nat) : Nat := 0o777 &&& (0o7777 ^^^ mask)

/-- The disk with a text in the file at a path. What is written to a device is gone. -/
def written (mask : Nat) (d : Disk) (path text : List Char) : Disk :=
  match d.locate (pathOfChars path) true with
  | .error _ => d
  | .ok place =>
    match d.entry? place with
    | some (.file mode _) => d.change place (.file mode (toBytes text))
    | some _ => d
    | none => d.set place (.file (newFileMode mask) (toBytes text))

/-- The content of the file at a path; nothing if there is none. -/
def oldContent (d : Disk) (path : List Char) : List Char :=
  match d.stat (pathOfChars path) with
  | .ok (.file _ content) => ofBytes content
  | _ => []

end ParserConformance.Script.Tool
