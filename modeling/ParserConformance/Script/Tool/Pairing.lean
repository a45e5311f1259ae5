import ParserConformance.Script.Tool.Sorting

/-!
# Two sorted files

`comm` shows which lines two sorted files have in common, `join` joins their lines by a field.
-/

namespace ParserConformance.Script.Tool.Pairing

/-- The contents of two files; the complaint if one of them cannot be read. -/
def twoInputs (c : Call) (a b : List Char) :
    Except (List Char) (List Char × List Char) := do
  let read (name : List Char) : Except (List Char) (List Char) :=
    match contentOf c name with
    | .ok text => .ok text
    | .error t => .error (fileComplaint name t)
  return (← read a, ← read b)

/-- The operands if they are two files; else the complaint. -/
def twoOperands (o : Options) : Except (List Char) (List Char × List Char) :=
  match o.operands with
  | [a, b] => .ok (a, b)
  | [] => .error "missing operand".toList
  | [a] => .error ("missing operand after ".toList ++ quoted a)
  | _ :: _ :: extra :: _ => .error ("extra operand ".toList ++ quoted extra)

/-! ### Common lines -/

/-- The lines of two lists one after the other as they sort, each with the column that it belongs
to: one for the first list alone, two for the second alone, three for both. -/
def compareLines : (room : Nat) → List (List Char) → List (List Char) → List (Nat × List Char)
  | 0, _, _ => []
  | _ + 1, [], bs => bs.map (2, ·)
  | _ + 1, as, [] => as.map (1, ·)
  | room + 1, a :: as, b :: bs =>
    match Sorting.compareTexts a b with
    | .eq => (3, b) :: compareLines room as bs
    | .lt => (1, a) :: compareLines room as (b :: bs)
    | .gt => (2, b) :: compareLines room (a :: as) bs

/-- Whether each line sorts before the next one or is equal to it. -/
def isOrdered : List (List Char) → Bool
  | a :: b :: rest => Sorting.compareTexts a b ≠ .gt && isOrdered (b :: rest)
  | _ => true

/-- Shows which lines two sorted files have alone and in common. -/
def comm : Tool :=
  withOptions {
    flags := "123zONT", valued := "D", hidden := "ONTD"
    long := [("check-order", 'O'), ("nocheck-order", 'N'), ("output-delimiter", 'D'),
      ("total", 'T'), ("zero-terminated", 'z')] } 1 fun c o =>
  match twoOperands o with
  | .error text => .ofMisuse c 1 text
  | .ok (a, b) =>
    match twoInputs c a b with
    | .error text => .ofComplaint c 1 text
    | .ok (x, y) =>
      let stop := stopOf o
      let as := (recordsOf stop x).1
      let bs := (recordsOf stop y).1
      let d := match o.value? 'D' with
        | none => ['\t']
        | some [] => ['\x00']
        | some d => d
      let pairs := compareLines (as.length + bs.length + 1) as bs
      let hides (column : Nat) : Bool := o.has (Char.ofNat (48 + column))
      let before (column : Nat) : List Char :=
        (List.range column).flatMap fun i =>
          if 0 < i && !hides i then d else []
      let shown := pairs.filter fun (column, _) => !hides column
      let total (column : Nat) := digitsOf ((pairs.filter (·.1 = column)).length)
      let lines := shown.map fun (column, l) => before column ++ l
      let lines := if o.has 'T' then
          lines ++ [d.intercalate [total 1, total 2, total 3, "total".toList]]
        else lines
      let checks := o.has 'O' || (!o.has 'N' && pairs.any (·.1 ≠ 3))
      let disordered := [(1, as), (2, bs)].filter fun (_, ls) => checks && !isOrdered ls
      let e := Effect.ofOutput c (ended stop lines)
      let e := (if o.has 'O' then disordered.take 1 else disordered).foldl (fun e (n, _) =>
        e.complain c 1 ("file ".toList ++ digitsOf n ++ " is not in sorted order".toList)) e
      let e := if disordered.isEmpty || o.has 'O' then e
        else e.complain c 1 "input is not in sorted order".toList
      if isInput a || isInput b then e.takingAll c else e

/-! ### Joining by a field -/

/-- What a joined line shows. -/
inductive Column where
  /-- The field by which lines are joined. -/
  | key
  /-- A field of a line of one of the files. -/
  | field (isSecond : Bool) (n : Nat)
  deriving DecidableEq, Repr

/-- The columns that a list writes. -/
def columnsOf? (lists : List (List Char)) : Except (List Char) (List Column) :=
  let words := (lists.flatMap fun l =>
    splitAt ',' (l.map fun c => if c = ' ' || c = '\t' then ',' else c)).filter (!·.isEmpty)
  words.mapM fun word => match word with
    | ['0'] => .ok .key
    | '1' :: '.' :: ds => (number word ds).map (.field false ·)
    | '2' :: '.' :: ds => (number word ds).map (.field true ·)
    | f :: _ :: _ =>
      if f = '0' then .error ("invalid field specifier: ".toList ++ quoted word)
      else .error ("invalid file number in field spec: ".toList ++ quoted word)
    | _ => .error ("invalid field specifier: ".toList ++ quoted word)
where
  /-- The number of a field. -/
  number (_word ds : List Char) : Except (List Char) Nat :=
    match natural? ds with
    | some n => if n = 0 then .error ("invalid field number: ".toList ++ quoted ds) else .ok (n - 1)
    | none => .error ("invalid field number: ".toList ++ quoted ds)

/-- A line in fields. -/
structure Row where
  /-- The line. -/
  line : List Char
  /-- Its fields. -/
  fields : List (List Char)
  /-- The field by which it is joined. -/
  key : List Char

/-- The fields of a line, which a character parts, or blanks do. -/
def fieldsOf (separator : Option Char) (l : List Char) : List (List Char) :=
  match separator with
  | some d => if l.isEmpty then [] else splitAt d l
  | none =>
    let isGap (c : Char) : Bool := c = ' ' || c = '\t'
    let body := l.dropWhile isGap
    let words := (body.splitBy fun a b => isGap a == isGap b).filter fun w =>
      !w.head?.any isGap
    if body.getLast?.any isGap then words ++ [[]] else words

/-- How lines are joined. -/
structure Joining where
  /-- What is shown; nothing stands for the key and all other fields. -/
  columns : Option (List Column)
  /-- What parts the fields. -/
  separator : Option Char
  /-- What is shown for what is missing. -/
  empty : List Char
  /-- The number of the key's field in the first file. -/
  firstKey : Nat
  /-- The number of the key's field in the second file. -/
  secondKey : Nat

/-- The text of a joined line. One of the rows may be missing. -/
def Joining.text (j : Joining) (a b : Option Row) : List Char :=
  let shown (text : Option (List Char)) : List Char :=
    match text with
    | none | some [] => j.empty
    | some t => t
  let key := ((a.or b).map (·.key)).getD []
  let others (row : Option Row) (key : Nat) : List (List Char) :=
    let fields := (row.map (·.fields)).getD []
    ((fields.zipIdx.filter (·.2 ≠ key)).map fun f => shown (some f.1))
  let pieces := match j.columns with
    | some columns => columns.map fun column => match column with
      | .key => shown (some key)
      | .field isSecond n => shown ((if isSecond then b else a).bind (·.fields[n]?))
    | none => shown (some key) :: (others a j.firstKey ++ others b j.secondKey)
  [j.separator.getD ' '].intercalate pieces

/-- The joined lines of two lists of rows, which are in the order of their keys, each with which
of the lists it comes from. -/
def joinRows (order : List Char → List Char → Ordering) : (room : Nat) → List Row → List Row →
    List (Option Row × Option Row)
  | 0, _, _ => []
  | _ + 1, [], bs => bs.map fun b => (none, some b)
  | _ + 1, as, [] => as.map fun a => (some a, none)
  | room + 1, a :: as, b :: bs =>
    match order a.key b.key with
    | .lt => (some a, none) :: joinRows order room as (b :: bs)
    | .gt => (none, some b) :: joinRows order room (a :: as) bs
    | .eq =>
      let mine := a :: as.takeWhile fun r => order r.key b.key = .eq
      let yours := b :: bs.takeWhile fun r => order a.key r.key = .eq
      (mine.flatMap fun x => yours.map fun y => (some x, some y)) ++
        joinRows order room ((a :: as).drop mine.length) ((b :: bs).drop yours.length)

/-- The first row that sorts before the one in front of it, with its number. -/
def firstDisorder? (order : List Char → List Char → Ordering) :
    (number : Nat) → List Row → Option (Nat × Row)
  | n, a :: b :: rest =>
    if order a.key b.key = .gt then some (n + 1, b) else firstDisorder? order (n + 1) (b :: rest)
  | _, _ => none

/-- The arguments with a list of columns, which may go on in the next ones, made one. -/
def withOneList : List (List Char) → List (List Char)
  | ['-', 'o'] :: list :: rest =>
    let isColumn (arg : List Char) : Bool := match arg with
      | ['0'] => true
      | f :: '.' :: ds => (f = '1' || f = '2') && (natural? (ds.takeWhile isDigit)).isSome
      | _ => false
    let more := rest.takeWhile isColumn
    ['-', 'o'] :: [','].intercalate (list :: more) :: rest.drop more.length
  | arg :: rest => arg :: withOneList rest
  | [] => []

/-- Joins the lines of two sorted files by a field. -/
def join : Tool := fun c =>
  let known : Known := {
    flags := "izONH", valued := "aejotv12", hidden := "ONH"
    long := [("ignore-case", 'i'), ("check-order", 'O'), ("nocheck-order", 'N'),
      ("zero-terminated", 'z'), ("header", 'H')] }
  let run := withOptions known 1 fun c o =>
    let keyOf (letter : Char) : Except (List Char) Nat :=
      match (o.value? letter).or (o.value? 'j') with
      | none => .ok 0
      | some ds =>
        match natural? ds with
        | some 0 | none => .error ("invalid field number: ".toList ++ quoted ds)
        | some n => .ok (n - 1)
    let read : Except (List Char) (Joining × Bool) := do
      let separator ← match o.value? 't' with
        | none => pure none
        | some [] => pure (some '\n')
        | some [d] => pure (some d)
        | some ['\\', '0'] => pure (some '\x00')
        | some text => throw ("multi-character tab ".toList ++ quoted text)
      for (l, v) in o.letters do
        if (l = 'a' || l = 'v') && v ≠ ['1'] && v ≠ ['2'] then
          throw ("invalid file number: ".toList ++ quoted v)
      let isAuto := o.value? 'o' = some "auto".toList
      let columns ← if o.has 'o' && !isAuto then some <$> columnsOf? (o.values 'o')
        else pure none
      return (⟨columns, separator, (o.value? 'e').getD [], ← keyOf '1', ← keyOf '2'⟩, isAuto)
    match twoOperands o, read with
    | .error text, _ => .ofMisuse c 1 text
    | _, .error text => .ofComplaint c 1 text
    | .ok (a, b), .ok (j, isAuto) =>
      match twoInputs c a b with
      | .error text => .ofComplaint c 1 text
      | .ok (x, y) =>
        let stop := stopOf o
        let rowsOf (key : Nat) (text : List Char) : List Row :=
          (recordsOf stop text).1.map fun l =>
            let fields := fieldsOf j.separator l
            ⟨l, fields, fields.getD key []⟩
        let as := rowsOf j.firstKey x
        let bs := rowsOf j.secondKey y
        let auto (isSecond : Bool) (key : Nat) (rows : List Row) : List Column :=
          let n := (rows.head?.map (·.fields.length)).getD 0
          ((List.range n).filter (· ≠ key)).map (.field isSecond ·)
        let j := if isAuto then
            { j with columns := some (.key :: auto false j.firstKey as ++
              auto true j.secondKey bs) }
          else j
        let order (p q : List Char) : Ordering :=
          if o.has 'i' then Sorting.compareTexts (p.map Char.toLower) (q.map Char.toLower)
          else Sorting.compareTexts p q
        let header := if o.has 'H' && !(as.isEmpty && bs.isEmpty) then
          [j.text as.head? bs.head?] else []
        let (as, bs) := if o.has 'H' then (as.drop 1, bs.drop 1) else (as, bs)
        let joined := joinRows order (as.length + bs.length + 1) as bs
        let shows (file : Char) : Bool := (o.values 'a' ++ o.values 'v').contains [file]
        let shown := joined.filter fun (p, q) => match p, q with
          | some _, some _ => !o.has 'v'
          | some _, none => shows '1'
          | none, _ => shows '2'
        let e := Effect.ofOutput c (ended stop (header ++ shown.map fun (p, q) => j.text p q))
        let isUnpaired := joined.any fun (p, q) => p.isNone || q.isNone
        let checks := o.has 'O' || (!o.has 'N' && isUnpaired)
        let skipped := if o.has 'H' then 2 else 1
        let faults := [(a, as), (b, bs)].filterMap fun (name, rows) =>
          if checks then (firstDisorder? order skipped rows).map (name, ·) else none
        let faults := if o.has 'O' then faults.take 1 else faults
        let e := faults.foldl (fun e (name, n, row) =>
          e.complain c 1 (name ++ ':' :: digitsOf n ++ ": is not sorted: ".toList ++ row.line)) e
        let e := if faults.isEmpty || o.has 'O' then e
          else e.complain c 1 "input is not in sorted order".toList
        if isInput a || isInput b then e.takingAll c else e
  run { c with args := withOneList c.args }

end ParserConformance.Script.Tool.Pairing
