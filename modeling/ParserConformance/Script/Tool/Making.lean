import ParserConformance.Script.Mode
import ParserConformance.Script.Tool.Date
import ParserConformance.Script.Tool.Dialog
import ParserConformance.Script.Tool.Names

/-!
# Making files and directories

Tools that make directories, files and links, and that set the times and sizes of files.
-/

namespace ParserConformance.Script.Tool

/-! ### Directories -/

/-- Why a directory cannot be made at a path, if that is so. -/
def directoryTrouble? (d : Disk) (path : List Char) : Option String :=
  if path.isEmpty then some Trouble.notFound.reason
  else if (standsAt? d path).isSome then some "File exists"
  else (makingTrouble? d path).map Trouble.reason

/-- The disk with a directory at a path. -/
def madeDirectory (d : Disk) (path : List Char) (mode : Nat) : Disk :=
  match ownPlace? d path with
  | some place => d.set place (.directory mode)
  | none => d

/-- The paths that lead to a path, and itself. -/
def leadingPaths (path : List Char) : List (List Char) :=
  let names := splitAt '/' (withoutEndSlashes path)
  (List.range names.length).filterMap fun i =>
    let part := ['/'].intercalate (names.take (i + 1))
    if part.isEmpty || (names.getD i []).isEmpty then none else some part

/-- Makes directories. -/
def mkdir : Tool :=
  withOptions {
    flags := "pvZ", valued := "m"
    long := [("parents", 'p'), ("mode", 'm'), ("verbose", 'v'), ("context", 'Z')] } 1 fun c o =>
  let usual := newDirectoryMode c.mask
  let mode? := match o.value? 'm' with
    | some change => changedMode? c.mask true 0o777 change
    | none => some usual
  match o.operands, mode? with
  | [], _ => .ofMisuse c 1 "missing operand".toList
  | _, none => .ofComplaint c 1 ("invalid mode ".toList ++ quoted ((o.value? 'm').getD []))
  | names, some mode =>
    let refuse (e : Effect) (path : List Char) (reason : String) : Effect :=
      e.complain c 1 ("cannot create directory ".toList ++ quotedName path ++ ": ".toList ++
        reason.toList)
    let make (e : Effect) (path : List Char) (mode : Nat) : Effect :=
      let e := { e with disk := madeDirectory e.disk path mode }
      if o.has 'v' then
        e.write (c.name ++ ": created directory ".toList ++ quotedName path ++ ['\n'])
      else e
    names.foldl (fun e name =>
      if !o.has 'p' then
        match directoryTrouble? e.disk name with
        | some reason => refuse e name reason
        | none => make e name mode
      else
        let name := if name.all (· = '/') then name else withoutEndSlashes name
        ((leadingPaths name).foldl (fun (e, isStuck) path =>
          if isStuck || isDirectory e.disk path then (e, isStuck)
          else
            match directoryTrouble? e.disk path with
            | some reason =>
              let isFile := path ≠ name && (e.disk.stat (pathOfChars path)).isOk
              (refuse e path (if isFile then Trouble.notDirectory.reason else reason), true)
            | none => (make e path (if path = name then mode else usual ||| 0o300), false))
          (e, false)).1) (.ofStatus c 0)

/-! ### Pipes -/

/-- The options of the tools that make pipes. -/
def pipeOptions : Known :=
  { flags := "Z", valued := "m", long := [("mode", 'm'), ("context", 'Z')] }

/-- Makes pipes, of which a tool complains as of something. -/
def makePipes (what : List Char → List Char) (c : Call) (o : Options) (names : List (List Char)) :
    Effect :=
  let mode? := match o.value? 'm' with
    | some change => (changedMode? c.mask false 0o666 change).filter (· < 0o1000)
    | none => some (newFileMode c.mask)
  match mode? with
  | none => .ofComplaint c 1 "invalid mode".toList
  | some mode =>
    names.foldl (fun e name =>
      match directoryTrouble? e.disk name, ownPlace? e.disk name with
      | some reason, _ => e.complain c 1 (what name ++ ": ".toList ++ reason.toList)
      | none, some place => { e with disk := e.disk.set place (.special mode .pipe) }
      | none, none => e.atLeast 1) (.ofStatus c 0)

/-- Makes pipes with names. -/
def mkfifo : Tool := withOptions pipeOptions 1 fun c o =>
  if o.operands.isEmpty then .ofMisuse c 1 "missing operand".toList
  else makePipes (fun name => "cannot create fifo ".toList ++ quotedName name) c o o.operands

/-- Makes a pipe with a name, or what is like one of the devices that there are. -/
def mknod : Tool := withOptions pipeOptions 1 fun c o =>
  let advice := "\nSpecial files require major and minor device numbers.".toList
  match o.operands with
  | [] => .ofMisuse c 1 "missing operand".toList
  | [name] => .ofMisuse c 1 ("missing operand after ".toList ++ quoted name)
  | [name, ['p']] => makePipes (fun name => name) c o [name]
  | _ :: ['p'] :: extra :: _ =>
    .ofMisuse c 1 ("extra operand ".toList ++ quoted extra ++ (if o.operands.length = 4 then
      "\nFifos do not have major and minor device numbers.".toList else []))
  | [_, kind] => .ofMisuse c 1 ("missing operand after ".toList ++ quoted kind ++ advice)
  | [_, _, major] => .ofMisuse c 1 ("missing operand after ".toList ++ quoted major)
  | [name, _, _, _] => .ofComplaint c 1 (name ++ ": Operation not permitted".toList)
  | _ :: _ :: _ :: _ :: extra :: _ => .ofMisuse c 1 ("extra operand ".toList ++ quoted extra)

/-! ### Times -/

/-- The long names of the options of `touch`. -/
def touchNames : List (String × Char) :=
  [("time", 'T'), ("no-create", 'c'), ("date", 'd'), ("reference", 'r'),
    ("no-dereference", 'h')]

/-- The moment that options give to files, or what is wrong with them. -/
def touchMoment (c : Call) (o : Options) : Except (List Char) Int :=
  let start : Except (List Char) Int := match o.value? 'r' with
    | none => .ok c.now
    | some name =>
      match c.disk.locate (pathOfChars name) false with
      | .ok place => .ok (changedMoment c.disk place)
      | .error t => .error ("failed to get attributes of ".toList ++
          quotedComplaint name t)
  start.bind fun start =>
    match o.lastOf? "dt", o.value? 'd', o.value? 't' with
    | some 'd', some text, _ =>
      match Time.read start c.zone text with
      | some moment => .ok moment
      | none => .error ("invalid date format ".toList ++ quoted text)
    | some _, _, some text =>
      match Date.stamp? c.now c.zone true text with
      | some moment => .ok moment
      | none => .error ("invalid date format ".toList ++ quoted text)
    | _, _, _ => .ok start

/-- Makes files that are not there, and sets the times of all. -/
def touch : Tool :=
  withOptions { flags := "acfhm", valued := "drtT", hidden := "T", long := touchNames } 1 fun c o =>
  let badTime := (o.value? 'T').filter fun t =>
    ["atime", "access", "use", "mtime", "modify"].all fun n => !t.isPrefixOf n.toList
  match badTime, touchMoment c o with
  | some text, _ =>
    .ofMisuse c 1 ("invalid argument ".toList ++ quoted text ++ (" for '--time'\nValid arguments" ++
      " are:\n  - 'atime', 'access', 'use'\n  - 'mtime', 'modify'").toList)
  | none, _ =>
    if o.has 't' && (o.has 'd' || o.has 'r') then
      .ofMisuse c 1 "cannot specify times from more than one source".toList
    else
      match touchMoment c o with
      | .error text => .ofComplaint c 1 text
      | .ok moment =>
        if o.operands.isEmpty then .ofMisuse c 1 "missing file operand".toList
        else
          let time := (moment / 1000).toNat
          let isAccess := o.has 'a' && !o.has 'm' ||
            (o.value? 'T').any fun t => t.head? = some 'a' || t.head? = some 'u'
          o.operands.foldl (fun e name =>
            let place? := if o.has 'h' then (ownPlace? e.disk name).filter fun p =>
                (e.disk.entry? p).isSome
              else (e.disk.locate (pathOfChars name) false).toOption
            match place? with
            | some place =>
              if isAccess then e
              else { e with disk := (e.disk.placesOf place).foldl (fun d p =>
                d.setChangedAt p time) e.disk }
            | none =>
              if name = ['-'] || o.has 'c' || o.has 'h' then e
              else if name.getLast? = some '/' then
                e.complain c 1 ("setting times of ".toList ++
                  quotedComplaint name .notFound)
              else
                match writingTrouble? e.disk name, e.disk.locate (pathOfChars name) true with
                | some t, _ | none, .error t =>
                  e.complain c 1 ("cannot touch ".toList ++ quotedComplaint name t)
                | none, .ok place =>
                  let d := e.disk.set place (.file (newFileMode c.mask) [])
                  { e with disk := if isAccess then d else d.setChangedAt place time })
            (.ofStatus c 0)

/-! ### Names that nothing else has -/

/-- A name like a template, the marks in which are exchanged for digits. -/
def filledTemplate (front behind : List Char) (count number : Nat) : List Char :=
  front ++ (Nat.toDigits 10 (number % 10 ^ count + 10 ^ count)).drop 1 ++ behind

/-- Makes a file or directory of a name that nothing else has. -/
def mktemp : Tool :=
  withOptions {
    flags := "duqt", valued := "pS", optional := "T", hidden := "ST"
    long := [("directory", 'd'), ("dry-run", 'u'), ("quiet", 'q'), ("suffix", 'S'),
      ("tmpdir", 'T')] } 1 fun c o =>
  match o.operands with
  | _ :: _ :: _ => .ofMisuse c 1 "too many templates".toList
  | operands =>
    let template := (operands.head?.getD "tmp.XXXXXXXXXX".toList) ++ (o.value? 'S').getD []
    let behind := template.reverse.takeWhile (· ≠ 'X') |>.reverse
    let rest := template.take (template.length - behind.length)
    let front := (rest.reverse.dropWhile (· = 'X')).reverse
    let count := rest.length - front.length
    let isPlaced := operands.isEmpty || o.has 'p' || o.has 'T' || o.has 't'
    let environment := (c.environment.lookup "TMPDIR".toList).filter (!·.isEmpty)
    let given := (o.value? 'p' <|> o.value? 'T').filter (!·.isEmpty)
    let dir := if o.has 't' then (environment <|> given).getD "/tmp".toList
      else (given <|> environment).getD "/tmp".toList
    let place (name : List Char) : List Char := if isPlaced then below dir name else name
    let refuse (text : List Char) : Effect :=
      if o.has 'q' then .ofStatus c 1 else .ofComplaint c 1 text
    if (o.has 'S' && (operands.any fun t => t.getLast? ≠ some 'X')) then
      .ofComplaint c 1 ("with --suffix, template ".toList ++ quoted (operands.headD []) ++
        " must end in X".toList)
    else if count < 3 then
      .ofComplaint c 1 ("too few X's in template ".toList ++ quoted template)
    else if o.has 't' && template.contains '/' then
      .ofComplaint c 1 ("invalid template, ".toList ++ quoted template ++
        ", contains directory separator".toList)
    else if isPlaced && template.head? = some '/' then
      .ofComplaint c 1 ("invalid template, ".toList ++ quoted template ++
        "; with --tmpdir, it may not be absolute".toList)
    else
      let names := (List.range 1000).map fun i => place (filledTemplate front behind count i)
      match names.find? fun n => (standsAt? c.disk n).isNone with
      | none => .ofStatus c 1
      | some name =>
        match makingTrouble? c.disk name, ownPlace? c.disk name with
        | some t, _ =>
          refuse ((if o.has 'd' then "failed to create directory via template "
            else "failed to create file via template ").toList ++
            quotedComplaint (place template) t)
        | none, none => .ofStatus c 1
        | none, some there =>
          let made := c.disk.set there (if o.has 'd' then .directory 0o700 else .file 0o600 [])
          { Effect.ofOutput c (name ++ ['\n']) with
            disk := if o.has 'u' then c.disk else made }

/-! ### Sizes -/

/-- How a size is given. -/
structure Sizing where
  /-- The sign in front of it, if there is one. -/
  sign : Option Char
  /-- The number. -/
  amount : Nat

/-- A size as it is written. -/
def sizing? (text : List Char) : Option Sizing :=
  match text.dropWhile isSpaceChar with
  | c :: cs =>
    if "+-<>/%".toList.contains c then (countOf? cs).map fun n => ⟨some c, n⟩
    else (countOf? (c :: cs)).map fun n => ⟨none, n⟩
  | [] => none

/-- The size to which a file of a size is brought. -/
def Sizing.of (s : Sizing) (old : Nat) : Nat :=
  match s.sign with
  | some '+' => old + s.amount
  | some '-' => old - s.amount
  | some '<' => min old s.amount
  | some '>' => max old s.amount
  | some '/' => old / s.amount * s.amount
  | some '%' => (old + s.amount - 1) / s.amount * s.amount
  | _ => s.amount

/-- Brings files to a size. -/
def truncate : Tool :=
  withOptions {
    flags := "co", valued := "rs"
    long := [("no-create", 'c'), ("io-blocks", 'o'), ("reference", 'r'), ("size", 's')] } 1
    fun c o =>
  let sizing := (o.value? 's').map fun text => (text, sizing? text)
  let reference : Option (Except (List Char) Nat) := (o.value? 'r').map fun name =>
    match c.disk.stat (pathOfChars name) with
    | .ok (.file _ content) => .ok content.length
    | .ok _ => .ok 4096
    | .error t => .error ("cannot stat ".toList ++ quotedComplaint name t)
  match sizing, reference with
  | none, none =>
    .ofMisuse c 1 "you must specify either '--size' or '--reference'".toList
  | some (text, none), _ => .ofComplaint c 1 ("Invalid number: ".toList ++ quoted text)
  | some (_, some ⟨none, _⟩), some _ =>
    .ofMisuse c 1 "you must specify a relative '--size' with '--reference'".toList
  | some (_, some ⟨some '/', 0⟩), _ | some (_, some ⟨some '%', 0⟩), _ =>
    .ofComplaint c 1 "division by zero".toList
  | _, some (.error text) => .ofComplaint c 1 text
  | sizing, reference =>
    if o.operands.isEmpty then .ofMisuse c 1 "missing file operand".toList
    else
      let block := if o.has 'o' then 4096 else 1
      let sizing := (sizing.bind (·.2)).map fun s => { s with amount := s.amount * block }
      let base := reference.bind fun r => r.toOption
      o.operands.foldl (fun e name =>
        if o.has 'c' && !(e.disk.stat (pathOfChars name)).isOk then e
        else
          match writingTrouble? e.disk name with
          | some t =>
            e.complain c 1 ("cannot open ".toList ++ quotedName name ++ " for writing: ".toList ++
              t.reason.toList)
          | none =>
            let old := oldContent e.disk name
            let start := base.getD old.length
            let size := match sizing with
              | some s => s.of start
              | none => start
            let text := old.take size ++ List.replicate (size - old.length) '\x00'
            { e with disk := written c.mask e.disk name text }) (.ofStatus c 0)

/-! ### Links -/

/-- What is done about what stands where a link is made. -/
inductive Clash where
  /-- It stays. -/
  | refuse
  /-- It is replaced. -/
  | replace
  /-- It is replaced if the answer to a question is yes. -/
  | ask
  deriving DecidableEq, Repr

/-- Whether two paths lead to the same thing by the same name. -/
def isSameName (d : Disk) (a b : List Char) : Bool :=
  match ownPlace? d a, ownPlace? d b with
  | some p, some q => (d.placesOf p).contains q
  | _, _ => false

/-- The path that leads from the directory of one path to another one. -/
def pathFrom (d : Disk) (link target : List Char) : List Char :=
  let dir := (resolve d (holder link) .nothing).toOption.getD (holder link)
  let there := (resolve d target .nothing).toOption.getD target
  relativeTo dir there

/-- Makes a link at a path. -/
def makeLink (c : Call) (o : Options) (clash : Clash) (t : Dialog) (target name : List Char) :
    Dialog :=
  let isSymbolic := o.has 's'
  let target := if isSymbolic && o.has 'r' then pathFrom t.disk name target else target
  let source? := if o.has 'L' then (t.disk.locate (pathOfChars target) false).toOption
    else (ownPlace? t.disk target).filter fun p => (t.disk.entry? p).isSome
  let isDir := (source?.bind t.disk.entry?).any isDirectoryEntry
  if !isSymbolic && source?.isNone then
    t.complain c 1 ("failed to access ".toList ++ quotedName target ++ ": ".toList ++
      (findingTrouble t.disk target).reason.toList)
  else if !isSymbolic && isDir then
    t.complain c 1 (target ++ ": hard link not allowed for directory".toList)
  else
    let there? := standsAt? t.disk name
    if there?.isSome && clash ≠ .refuse && there?.any isDirectoryEntry then
      t.complain c 1 (name ++ ": cannot overwrite directory".toList)
    else if there?.isSome && clash ≠ .refuse && !isSymbolic && isSameName t.disk target name then
      t.complain c 1 (quotedName target ++ " and ".toList ++ quotedName name ++
        " are the same file".toList)
    else
      let (goesOn, t) :=
        if there?.isSome && clash = .ask then t.ask c ("replace ".toList ++ quotedName name)
        else (true, t)
      if !goesOn then t.atLeast 1
      else
        let (d, kept?) := backedUp c o t.disk name
        let isFree := (standsAt? d name).isNone
        let refuse (reason : String) (full : Bool) : Dialog :=
          t.complain c 1 ((if isSymbolic then "failed to create symbolic link "
            else "failed to create hard link ").toList ++ quotedName name ++
            (if full then (if isSymbolic then " -> " else " => ").toList ++ quotedName target
              else []) ++ ": ".toList ++ reason.toList)
        if !isFree && clash = .refuse then refuse "File exists" false
        else if isSymbolic && target.isEmpty then refuse Trouble.notFound.reason true
        else
          match makingTrouble? d name, ownPlace? d name with
          | some trouble, _ => refuse trouble.reason (!isSymbolic)
          | none, none => refuse Trouble.notFound.reason (!isSymbolic)
          | none, some place =>
            let d := if isFree then d else d.erase place
            let d := if isSymbolic then d.set place (.link (toText target))
              else match source? with
                | some old => d.tie old place
                | none => d
            let t := t.withDisk d
            if o.has 'v' then
              let kept := match kept? with
                | some path => " ~ ".toList ++ quotedName path
                | none => []
              t.write (quotedName name ++ kept ++ (if isSymbolic then " -> " else " => ").toList ++
                quotedName target ++ ['\n'])
            else t

/-- Makes links. -/
def ln : Tool :=
  withOptions {
    flags := "bdFfinPLrsTv", valued := "St", optional := "B", hidden := "B"
    long := backupNames ++ [("directory", 'd'), ("force", 'f'), ("interactive", 'i'),
      ("logical", 'L'), ("no-dereference", 'n'), ("no-target-directory", 'T'),
      ("physical", 'P'), ("relative", 'r'), ("symbolic", 's'), ("target-directory", 't'),
      ("verbose", 'v')] } 1 fun c o =>
  let o := if o.lastOf? "LP" = some 'L' then o
    else { o with letters := o.letters.filter (·.1 ≠ 'L') }
  let clash : Clash := match o.lastOf? "fi" with
    | some 'f' => .replace
    | some _ => .ask
    | none => if (backupOf? c o).isSome then .replace else .refuse
  let isTarget (path : List Char) : Bool :=
    isDirectory c.disk path &&
      !(o.has 'n' && (standsAt? c.disk path).any fun e => e matches .link _)
  let all (dir : List Char) (targets : List (List Char)) : Effect :=
    (targets.foldl (fun t target => makeLink c o clash t target (below dir (lastName target)))
      (Dialog.start c)).finish c
  match o.value? 't', o.operands.getLast?, o.operands.dropLast with
  | _, none, _ => .ofMisuse c 1 "missing file operand".toList
  | some dir, _, _ =>
    if isDirectory c.disk dir then all dir o.operands
    else .ofComplaint c 1 ("target directory ".toList ++ quotedName dir ++ ": ".toList ++
      (match c.disk.stat (pathOfChars dir) with
        | .error t => t.reason.toList
        | .ok _ => Trouble.notDirectory.reason.toList))
  | none, some only, [] =>
    if o.has 'T' then .ofMisuse c 1 ("missing destination file operand after ".toList ++
      quoted only)
    else all ['.'] [only]
  | none, some name, [target] =>
    if !o.has 'T' && isTarget name then all name [target]
    else (makeLink c o clash (.start c) target name).finish c
  | none, some dir, targets =>
    if o.has 'T' then .ofMisuse c 1 ("extra operand ".toList ++ quoted (o.operands.getD 2 []))
    else if isTarget dir then all dir targets
    else .ofComplaint c 1 ("target ".toList ++ quotedName dir ++ ": ".toList ++
      (match c.disk.stat (pathOfChars dir) with
        | .error t => t.reason.toList
        | .ok _ => Trouble.notDirectory.reason.toList))

/-- Makes one more name for a file. -/
def linkFile : Tool :=
  withOptions {} 1 fun c o =>
  match o.operands with
  | [] => .ofMisuse c 1 "missing operand".toList
  | [only] => .ofMisuse c 1 ("missing operand after ".toList ++ quoted only)
  | [target, name] =>
    let refuse (reason : String) : Effect :=
      .ofComplaint c 1 ("cannot create link ".toList ++ quotedName name ++ " to ".toList ++
        quotedName target ++ ": ".toList ++ reason.toList)
    match (ownPlace? c.disk target).filter fun p => (c.disk.entry? p).isSome,
        makingTrouble? c.disk name, ownPlace? c.disk name with
    | none, _, _ => refuse (findingTrouble c.disk target).reason
    | some _, some t, _ => refuse t.reason
    | some _, none, none => refuse Trouble.notFound.reason
    | some old, none, some place =>
      if (c.disk.entry? place).isSome then refuse "File exists"
      else if (c.disk.entry? old).any isDirectoryEntry then refuse "Operation not permitted"
      else { Effect.ofStatus c 0 with disk := c.disk.tie old place }
  | _ :: _ :: extra :: _ => .ofMisuse c 1 ("extra operand ".toList ++ quoted extra)

end ParserConformance.Script.Tool
