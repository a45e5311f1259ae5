import ParserConformance.Text.Blank

/-!
# Blocks of a corpus file

A corpus file is a list of blocks. A block is opened by a header line, three or more `=` and a
suffix, then come its title lines, a second header line with the same suffix, and its body. In
the body the last line of three or more `-` and that suffix parts the source from the expected
tree.

A header line inside a body opens the next block only if a header line with its own suffix
follows before any divider with that suffix. So a line of `=` in a source text is no header,
and neighbouring blocks may use different suffixes.
-/

namespace ParserConformance.Corpus

/-- A line of text without its end. -/
abbrev Line := List Char

/-- What follows on three or more of the character `mark` at the start of a line, blanks at its
end aside. -/
def suffixAfter? (mark : Char) (l : Line) : Option Line :=
  let l := Text.trimRight l
  let suffix := l.dropWhile (· = mark)
  if l.length - suffix.length ≥ 3 then some suffix else none

/-- The suffix of a header line. -/
def suffixOfHeader? (l : Line) : Option Line := suffixAfter? '=' l

/-- Whether a line is a divider with the given suffix. -/
def dividesWith (suffix : Line) (l : Line) : Bool := suffixAfter? '-' l = some suffix

/-- Whether a header line with the given suffix comes before any divider with it. -/
def closesHeader (suffix : Line) : List Line → Bool
  | [] => false
  | l :: ls =>
    if suffixOfHeader? l = some suffix then true
    else if dividesWith suffix l then false
    else closesHeader suffix ls

/-- Whether the first line opens a block, judged by all lines after it. -/
def opensBlock : List Line → Bool
  | [] => false
  | l :: ls =>
    match suffixOfHeader? l with
    | some suffix => closesHeader suffix ls
    | none => false

/-- The lines before the first header line with the given suffix, and those after it. -/
def splitTitle (suffix : Line) : List Line → Option (List Line × List Line)
  | [] => none
  | l :: ls =>
    if suffixOfHeader? l = some suffix then some ([], ls)
    else (splitTitle suffix ls).map fun (title, rest) => (l :: title, rest)

/-- The lines before the first one that opens a block, and the rest. -/
def splitBody : List Line → List Line × List Line
  | [] => ([], [])
  | l :: ls =>
    if opensBlock (l :: ls) then ([], l :: ls)
    else
      let (body, rest) := splitBody ls
      (l :: body, rest)

/-- The lines before the last divider with the given suffix, and those after it. -/
def splitAtDivider (suffix : Line) : List Line → Option (List Line × List Line)
  | [] => none
  | l :: ls =>
    match splitAtDivider suffix ls with
    | some (before, after) => some (l :: before, after)
    | none => if dividesWith suffix l then some ([], ls) else none

/-- A block of a corpus file. -/
structure Block where
  /-- The number of its opening line, counted from one. -/
  line : Nat
  /-- The suffix of its header. -/
  suffix : Line
  /-- The lines of its header. -/
  title : List Line
  /-- The lines after its header, if that is closed. -/
  body : Option (List Line)
  deriving DecidableEq, Repr

theorem length_splitTitle {suffix : Line} {ls title rest : List Line}
    (h : splitTitle suffix ls = some (title, rest)) :
    title.length + 1 + rest.length = ls.length := by
  induction ls generalizing title with
  | nil => simp [splitTitle] at h
  | cons l ls ih =>
    rw [splitTitle] at h
    split at h
    · obtain ⟨rfl, rfl⟩ := Prod.mk.inj (Option.some.inj h)
      simp; omega
    · obtain ⟨⟨title', rest'⟩, h', he⟩ := Option.map_eq_some_iff.1 h
      obtain ⟨rfl, rfl⟩ := Prod.mk.inj he
      have := ih h'
      simp; omega

theorem splitBody_append (ls : List Line) : (splitBody ls).1 ++ (splitBody ls).2 = ls := by
  induction ls with
  | nil => rfl
  | cons l ls ih =>
    rw [splitBody]
    split
    · rfl
    · simp [ih]

theorem length_splitBody_le (ls : List Line) : (splitBody ls).2.length ≤ ls.length := by
  have := congrArg List.length (splitBody_append ls)
  rw [List.length_append] at this
  omega

/-- The blocks in the lines from number `line` on. Lines before the first header line are of no
account. -/
def blocksFrom (line : Nat) (lines : List Line) : List Block :=
  match lines with
  | [] => []
  | l :: ls =>
    match suffixOfHeader? l with
    | none => blocksFrom (line + 1) ls
    | some suffix =>
      match _h : splitTitle suffix ls with
      | none => [⟨line, suffix, ls, none⟩]
      | some (title, rest) =>
        ⟨line, suffix, title, some (splitBody rest).1⟩ ::
          blocksFrom (line + title.length + 2 + (splitBody rest).1.length) (splitBody rest).2
termination_by lines.length
decreasing_by
  · simp
  · have := length_splitTitle _h
    have := length_splitBody_le rest
    simp; omega

/-- The blocks of a corpus file. -/
def blocks (lines : List Line) : List Block := blocksFrom 1 lines

end ParserConformance.Corpus
