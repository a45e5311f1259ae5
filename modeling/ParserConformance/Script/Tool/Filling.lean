import ParserConformance.Script.Tool.Call

/-!
# Paragraphs

`fmt` fills the lines of paragraphs with words. Each way to break a paragraph into lines has a
cost: of lines that are short, of neighbours that differ in length, and of breaks in bad places.
The cheapest way is taken.
-/

namespace ParserConformance.Script.Tool.Filling

/-! ### Words -/

/-- A word of a paragraph. -/
structure Word where
  /-- The word. -/
  text : List Char
  /-- The width of the blanks behind it. -/
  space : Nat := 0
  /-- Whether it begins with a bracket or a quote. -/
  isOpening : Bool
  /-- Whether it ends in a mark of any kind. -/
  isMarked : Bool
  /-- Whether it ends as sentences do. -/
  isPeriod : Bool
  /-- Whether a sentence ends with it. -/
  isFinal : Bool := false
  deriving Repr, Inhabited

/-- Whether a character is a mark. -/
def isMark (c : Char) : Bool := '!' ≤ c && c ≤ '~' && !c.isAlphanum

/-- The word of some characters. -/
def Word.ofText (text : List Char) : Word :=
  let fin := text.getLast?.getD ' '
  let inner := match text with
    | [] => []
    | c :: rest => c :: (rest.reverse.dropWhile fun c => ")]'\"".toList.contains c).reverse
  { text
    isOpening := text.head?.any fun c => "(['\x60\"".toList.contains c
    isMarked := isMark fin
    isPeriod := inner.getLast?.any fun c => ".?!".toList.contains c }

/-! ### Costs -/

/-- How lines are to be filled. -/
structure Measure where
  /-- No line is wider, unless it has but one word. -/
  width : Nat
  /-- The width that is best. -/
  goal : Nat

/-- The cost of a difference in width from the best one. -/
def shortCost (n : Int) : Int := 100 * n * n

/-- The cost of a difference in width between neighbours. -/
def raggedCost (n : Int) : Int := 50 * n * n

/-- The cost of a line that begins with a word, by the words before it, the last one first. -/
def startCost (before : List Word) (w : Word) : Int :=
  let base : Int := 4900
  let here := match before with
    | [] => base
    | p :: earlier =>
      if p.isPeriod then if p.isFinal then base - 2500 else base + 360000
      else if p.isMarked then base - 1600
      else if earlier.head?.any (·.isFinal) && 1 ≤ earlier.length then
        base + ((40000 / (p.text.length + 2) : Nat) : Int)
      else base
  if w.isOpening then here - 1600
  else if w.isFinal then here + ((22500 / (w.text.length + 2) : Nat) : Int)
  else here

/-- The best way to go on from a word that begins a line. -/
structure Plan where
  /-- What it costs. -/
  cost : Int
  /-- The word that begins the next line, by its number. -/
  next : Nat
  /-- How wide the line is. -/
  length : Nat
  deriving Repr, Inhabited

/-- The best way to end a line. `column` is where its last word ends, `number` that of the word
behind, and `later` the words and plans from there on. -/
def bestBreak (m : Measure) (count : Nat) (above : Option Nat) (column number space : Nat)
    (best : Option Plan) : List (Word × Plan) → Plan
  | [] =>
    let cost := above.elim 0 fun n => raggedCost (column - n)
    match best with
    | some b => if cost < b.cost then ⟨cost, number, column⟩ else b
    | none => ⟨cost, number, column⟩
  | (w, p) :: later =>
    let ragged := if p.next = count then 0 else raggedCost ((column : Int) - p.length)
    let cost := shortCost ((m.goal : Int) - column) + ragged + p.cost +
      above.elim 0 fun n => raggedCost ((column : Int) - n)
    let best := match best with
      | some b => if cost < b.cost then ⟨cost, number, column⟩ else b
      | none => ⟨cost, number, column⟩
    let column := column + space + w.text.length
    if column < m.width then
      bestBreak m count above column (number + 1) w.space (some best) later
    else best

/-- The words from one on with their plans. The words before are given with the last one first,
and the first word of all stands behind `first` columns, other first words behind `other`. The
line above the first one may have a width. -/
def plans (m : Measure) (first other count : Nat) (above : Option Nat) :
    (before : List Word) → List Word → List (Word × Plan)
  | _, [] => []
  | before, w :: ws =>
    let later := plans m first other count above (w :: before) ws
    let number := count - ws.length
    let isFirst := before.isEmpty
    let column := (if isFirst then first else other) + w.text.length
    let p := bestBreak m count (if isFirst then above else none) column number w.space none later
    (w, { p with cost := p.cost + startCost before w }) :: later

/-! ### Text -/

/-- How a text is filled. -/
structure Manner where
  /-- The widths. -/
  measure : Measure
  /-- Whether the first two lines keep their margins. -/
  isCrowned : Bool
  /-- Whether the first two lines must have different margins. -/
  isTagged : Bool
  /-- Whether lines are broken but not joined. -/
  isSplit : Bool
  /-- Whether blanks between words are made alike. -/
  isUniform : Bool
  /-- What lines begin with that are filled. -/
  front : List Char
  /-- How many blanks there are at least before it. -/
  lead : Nat
  /-- How long it is with the blanks behind it. -/
  fullLength : Nat

/-- How far a text has been filled. -/
structure Filler where
  /-- What is left to read. -/
  rest : List Char
  /-- The column of what is left. -/
  column : Nat := 0
  /-- The column of what the line at hand begins with. -/
  indent : Nat := 0
  /-- Whether tabs have been seen. -/
  hasTabs : Bool := false
  /-- The column at which lines of the paragraph begin, the first one aside. -/
  other : Nat := 0
  /-- The width of the last line that was written. -/
  lastLength : Nat := 0
  /-- What was written, the last piece first. -/
  written : List (List Char) := []

/-- With a piece of text written. -/
def Filler.put (f : Filler) (cs : List Char) : Filler := { f with written := cs :: f.written }

/-- Blanks that lead from a column to another one. -/
def gap (hasTabs : Bool) (column target : Nat) : List Char :=
  let tabbed := target / 8 * 8
  if hasTabs && column + 1 < tabbed then
    List.replicate ((tabbed - column + 7) / 8) '\t' ++ List.replicate (target - tabbed) ' '
  else List.replicate (target - column) ' '

/-- Passes over blanks. -/
def Filler.skipBlanks (f : Filler) : Filler :=
  go f.column f.hasTabs f.rest
where
  /-- Goes on at a column. -/
  go (column : Nat) (hasTabs : Bool) : List Char → Filler
    | ' ' :: cs => go (column + 1) hasTabs cs
    | '\t' :: cs => go ((column / 8 + 1) * 8) true cs
    | cs => { f with column, hasTabs, rest := cs }

/-- Reads the beginning of a line: blanks, and as much of the front as is there. -/
def Filler.begin (m : Manner) (f : Filler) : Filler :=
  let f := { f with column := 0 }.skipBlanks
  if m.front.isEmpty then { f with indent := min m.lead f.column }
  else
    let common := ((m.front.zip f.rest).takeWhile fun (a, b) => a = b).length
    let g := { f with
      indent := f.column, column := f.column + common, rest := f.rest.drop common }
    if common < m.front.length then g else g.skipBlanks

/-- Whether the line at hand can belong to a paragraph that has been begun at an indent. -/
def Filler.goesOn (m : Manner) (indent : Nat) (f : Filler) : Bool :=
  f.indent = indent && indent + m.fullLength ≤ f.column && f.rest.head?.any (· ≠ '\n')

/-- Copies what is left of a line that belongs to no paragraph. -/
def Filler.copy (m : Manner) (f : Filler) : Filler :=
  let isAtEnd := f.rest.isEmpty
  let isBlank := isAtEnd || f.rest.head? = some '\n'
  let start :=
    if f.indent < f.column || !isBlank then
      let shown := m.front.take (f.column - f.indent)
      let reached := f.indent + shown.length
      gap f.hasTabs 0 f.indent ++ shown ++
        (if isBlank then [] else gap f.hasTabs reached f.column) ++
        (if isAtEnd && f.indent + m.front.length ≤ f.column then ['\n'] else [])
    else []
  let line := f.rest.takeWhile (· ≠ '\n')
  { f.put (start ++ line) with rest := f.rest.drop line.length }

/-! ### Paragraphs -/

/-- A paragraph at work. -/
structure Paragraph where
  /-- The indent of its front. -/
  indent : Nat
  /-- The column of its first word. -/
  first : Nat
  /-- Its words so far, the last one first. -/
  words : List Word := []
  /-- How many there are. -/
  count : Nat := 0
  /-- How many characters they have. -/
  size : Nat := 0

/-- Sets the column of all lines but the first one. -/
def Filler.setOther (m : Manner) (first : Nat) (isSame : Bool) (f : Filler) : Filler :=
  let other :=
    if m.isSplit then first
    else if m.isCrowned then if isSame then f.column else first
    else if m.isTagged then
      if isSame && f.column ≠ first then f.column
      else if f.other = first then if first = 0 then 3 else 0
      else f.other
    else first
  { f with other }

/-- Writes a line of words. -/
def Filler.putLine (m : Manner) (indent column : Nat) (ws : List Word) (f : Filler) : Filler :=
  let start := gap f.hasTabs 0 indent ++ m.front
  let reached := indent + m.front.length
  let (text, last) := go (start ++ gap f.hasTabs reached column) (max reached column) ws
  { f.put (text ++ ['\n']) with lastLength := last }
where
  /-- Adds words behind a text that reaches a column. -/
  go (text : List Char) (column : Nat) : List Word → List Char × Nat
    | [] => (text, column)
    | [w] => (text ++ w.text, column + w.text.length)
    | w :: v :: ws =>
      let reached := column + w.text.length
      let next := reached + w.space
      go (text ++ w.text ++ gap f.hasTabs reached next) next (v :: ws)

/-- Writes the lines of planned words up to the word of a number. -/
def Filler.putLines (m : Manner) (indent stop : Nat) : (room : Nat) → (column number : Nat) →
    List (Word × Plan) → Filler → Filler
  | 0, _, _, _, f => f
  | _ + 1, _, _, [], f => f
  | room + 1, column, number, (w, p) :: rest, f =>
    if stop ≤ number then f
    else
      let count := p.next - number
      let line := ((w, p) :: rest).take count
      let f := f.putLine m indent column (line.map (·.1))
      f.putLines m indent stop room f.other p.next (((w, p) :: rest).drop count)

/-- The plans of the words of a paragraph. -/
def Filler.plan (m : Manner) (p : Paragraph) (f : Filler) : List (Word × Plan) :=
  let above := if f.lastLength = 0 then none else some f.lastLength
  plans m.measure p.first f.other p.count above [] p.words.reverse

/-- A good place to break a paragraph that is too long to be planned as a whole: the number of a
word near the end. -/
def splitPoint (count : Nat) (all : Array (Word × Plan)) : (room : Nat) → (number : Nat) →
    (best : Option Int) → (found : Nat) → Nat
  | 0, _, _, found => found
  | room + 1, number, best, found =>
    match all[number]? with
    | none => found
    | some (_, p) =>
      let after := (all[p.next]?).elim 0 (·.2.cost)
      let gain := p.cost - after
      let (best, found) := if best.all (gain < ·) then (gain, number) else (best.getD 0, found)
      splitPoint count all room p.next (some (best + 9)) found

/-- Writes the front part of a paragraph that has become too long. The characters of a word that
is not complete are given. -/
def Paragraph.relieve (m : Manner) (p : Paragraph) (f : Filler) (partialWord : List Char) :
    Paragraph × Filler × List Char :=
  if p.words.isEmpty then (p, f.put partialWord, [])
  else
    let all := f.plan m p
    let first := (all.head?.elim 0 (·.2.next))
    let stop := splitPoint p.count all.toArray p.count first none p.count
    let f := f.putLines m p.indent stop (p.count + 1) p.first 0 all
    let kept := p.words.take (p.count - stop)
    let p := { p with
      words := kept, count := kept.length, size := (kept.map (·.text.length)).sum }
    (p, f, partialWord)

/-- How many characters the words of a paragraph may have before some are written. -/
def mostCharacters : Nat := 5000

/-- How many words a paragraph may have before some are written. -/
def mostWords : Nat := 998

/-- Reads the rest of a word. -/
def Paragraph.readWord (m : Manner) (p : Paragraph) (f : Filler) (sofar : List Char)
    (used : Nat) : List Char → Paragraph × Filler × List Char
  | [] => (p, { f with rest := [] }, sofar.reverse)
  | c :: cs =>
    if isSpaceChar c && !sofar.isEmpty then (p, { f with rest := c :: cs }, sofar.reverse)
    else if used = mostCharacters then
      let f := f.setOther m p.first true
      let (p, f, sofar) := p.relieve m f sofar.reverse
      p.readWord m f (c :: sofar.reverse) (p.size + sofar.length + 1) cs
    else p.readWord m f (c :: sofar) (used + 1) cs

/-- Reads the words of a line, and the beginning of the next one. -/
def Paragraph.readLine (m : Manner) : (room : Nat) → Paragraph → Filler → Paragraph × Filler
  | 0, p, f => (p, f)
  | room + 1, p, f =>
    let (p, g, text) := p.readWord m f [] p.size f.rest
    let start := f.column + text.length
    let f := { g with column := start }.skipBlanks
    let word := Word.ofText text
    let space := f.column - start
    let isAtEnd := f.rest.isEmpty || f.rest.head? = some '\n'
    let isFinal := f.rest.isEmpty ||
      (word.isPeriod && (f.rest.head? = some '\n' || 1 < space))
    let space := if isAtEnd || m.isUniform then if isFinal then 2 else 1 else space
    let word := { word with space, isFinal }
    let (p, f) := if p.count = mostWords then
        let f := f.setOther m p.first true
        let (p, f, _) := p.relieve m f []
        (p, f)
      else (p, f)
    let p := { p with
      words := word :: p.words, count := p.count + 1, size := p.size + text.length }
    if isAtEnd then (p, { f with rest := f.rest.drop 1 }.begin m)
    else readLine m room p f

/-- Reads lines as long as they belong to a paragraph. -/
def Paragraph.readLines (m : Manner) (hasColumn : Bool) : (room : Nat) → Paragraph → Filler →
    Paragraph × Filler
  | 0, p, f => (p, f)
  | room + 1, p, f =>
    if f.goesOn m p.indent && (!hasColumn || f.column = f.other) then
      let (p, f) := p.readLine m (f.rest.length + 1) f
      readLines m true room p f
    else (p, f)

/-- Copies lines that belong to no paragraph. -/
def Filler.copyLines (m : Manner) : (room : Nat) → Filler → Filler
  | 0, f => f
  | room + 1, f =>
    if f.rest.head?.all (· = '\n') || f.indent < m.lead ||
        f.column < f.indent + m.fullLength then
      let f := f.copy m
      match f.rest with
      | [] => f
      | _ :: rest => copyLines m room ({ f.put ['\n'] with rest }.begin m)
    else f

/-- Fills paragraphs until nothing is left. -/
def Filler.fill (m : Manner) : (room : Nat) → Filler → Filler
  | 0, f => f
  | room + 1, f =>
    let lines := f.rest.length + 2
    let f := { f with lastLength := 0 }.copyLines m lines
    if f.rest.isEmpty then f
    else
      let p : Paragraph := { indent := f.indent, first := f.column }
      let (p, f) := p.readLine m lines f
      let isSame := f.goesOn m p.indent
      let f := f.setOther m p.first isSame
      let (p, f) :=
        if m.isSplit then (p, f)
        else if m.isCrowned then p.readLines m false lines f
        else if m.isTagged then
          if f.column ≠ p.first then p.readLines m false lines f else (p, f)
        else p.readLines m true lines f
      let words := match p.words with
        | w :: ws => { w with isPeriod := true, isFinal := true } :: ws
        | [] => []
      let p := { p with words }
      let f := f.putLines m p.indent p.count (p.count + 1) p.first 0 (f.plan m p)
      f.fill m room

/-- A text with its paragraphs filled. -/
def filled (m : Manner) (cs : List Char) : List Char :=
  let f := (({ rest := cs } : Filler).begin m).fill m (cs.length + 2)
  f.written.reverse.flatten

/-! ### Calls -/

/-- The options. -/
def known : Known := {
  flags := "cstu"
  valued := "gpw"
  long := [("crown-margin", 'c'), ("goal", 'g'), ("prefix", 'p'), ("split-only", 's'),
    ("tagged-paragraph", 't'), ("uniform-spacing", 'u'), ("width", 'w')] }

/-- A width up to a limit, or what is wrong with it. -/
def widthOf (limit : Nat) (text : List Char) : Except (List Char) Nat :=
  let refuse (more : String) : Except (List Char) Nat :=
    .error ("invalid width: ".toList ++ quoted text ++ more.toList)
  match natural? (if text.head? = some '+' then text.drop 1 else text) with
  | none => refuse ""
  | some n =>
    if 2 ^ 64 ≤ n then refuse ": Value too large for defined data type"
    else if limit < n then refuse ": Numerical result out of range"
    else .ok n

/-- The widths that options ask for. -/
def measureOf (o : Options) : Except (List Char) Measure := do
  let width? ← (o.value? 'w').mapM (widthOf 2500)
  match o.value? 'g' with
  | some text =>
    let goal ← widthOf (width?.getD 75) text
    return ⟨width?.getD (goal + 10), goal⟩
  | none =>
    let width := width?.getD 75
    return ⟨width, width * 187 / 200⟩

/-- The manner that options ask for. -/
def mannerOf (o : Options) (measure : Measure) : Manner :=
  let whole := (o.value? 'p').getD []
  let inner := whole.dropWhile (· = ' ')
  { measure
    isCrowned := o.has 'c'
    isTagged := o.has 't'
    isSplit := o.has 's'
    isUniform := o.has 'u'
    front := (inner.reverse.dropWhile (· = ' ')).reverse
    lead := whole.length - inner.length
    fullLength := inner.length }

/-- Fills the lines of paragraphs. -/
def fmt : Tool := fun c =>
  let args := match c.args with
    | ('-' :: d :: ds) :: rest =>
      if isDigit d then ['-', 'w'] :: (d :: ds) :: rest else c.args
    | args => args
  match Options.read known args with
  | .error (.unknownLetter d) =>
    if isDigit d then
      .ofMisuse c 1 ("invalid option -- ".toList ++ d ::
        "; -WIDTH is recognized only when it is the first\noption; use -w N instead".toList)
    else .ofMisuse c 1 (OptionFault.message (.unknownLetter d))
  | .error fault => .ofMisuse c 1 fault.message
  | .ok o =>
    match measureOf o with
    | .error text => .ofComplaint c 1 text
    | .ok measure =>
      let complaint (name : List Char) (t : Trouble) : List Char :=
        if t = .isDirectory then "read error".toList
        else "cannot open ".toList ++ quotedName name ++ " for reading: ".toList ++
          t.reason.toList
      eachInput c o.operands 1 complaint (filled (mannerOf o measure))

end ParserConformance.Script.Tool.Filling
