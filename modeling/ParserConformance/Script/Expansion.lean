import ParserConformance.Script.Arithmetic
import ParserConformance.Script.Fields
import ParserConformance.Script.Lookup

/-!
# Expansion of words

The parts of a word become pieces: parameters their values, commands what they write, and
expressions their numbers. What commands write is the business of whoever runs them, and is asked
for by `capture`.
-/

namespace ParserConformance.Script

/-! ### Parameters -/

/-- The letters of all options in the order in which a shell shows them. -/
def optionLetters : List Char := "ubaCEVvxsnmiIfe".toList

/-- The value of a parameter that has one value. -/
def parameterValue (name : List Char) : Act (Option (List Char)) := do
  let sh ← Act.shell
  match name with
  | ['#'] => return some (digitsOf sh.arguments.length)
  | ['?'] => return some (digitsOf sh.status)
  | ['$'] => return some (digitsOf sh.identity)
  | ['!'] => return sh.lastJob.map digitsOf
  | ['-'] => return some (optionLetters.filter sh.options.contains)
  | ['0'] => return some sh.name
  | _ =>
    if name.all isDigit then return sh.arguments[valueOf name - 1]? else Act.lookup name

/-- Whether a parameter stands for all arguments. -/
def isAllArguments (name : List Char) : Bool := name = ['@'] || name = ['*']

/-- All arguments as one text, with the first of the characters that part fields between them. -/
def joinedArguments : Act (List Char) := do
  let separator := match ← Act.lookup "IFS".toList with
    | some cs => cs.take 1
    | none => [' ']
  return separator.intercalate (← Act.shell).arguments

/-- The value of a parameter as one text, if it is set. -/
def parameterText (name : List Char) : Act (Option (List Char)) := do
  if isAllArguments name then return some (← joinedArguments) else parameterValue name

/-- The value of a parameter as one text. A shell may be told to complain if it is not set. -/
def demandedText (name : List Char) : Act (List Char) := do
  match ← parameterText name with
  | some cs => return cs
  | none =>
    if ← Act.isOn 'u' then Act.fail (name ++ ": parameter not set".toList) else return []

/-! ### Expressions -/

/-- The value of the arithmetic expression that characters write. -/
def evaluate (source : List Char) : Act Int := do
  let sh ← Act.shell
  let lookup (name : List Char) := (sh.bindings.lookup name).bind (·.value)
  let valued := do
    let e ← Expr.ofChars source
    (Expr.value e).run ⟨lookup, []⟩
  match valued with
  | .error fault => Act.fail (fault.message source)
  | .ok (n, scope) =>
    scope.changed.reverse.forM fun (name, m) => Act.assign name (digitsOfInt m)
    return n

/-! ### Words -/

/-- How a word is expanded. -/
structure Manner where
  /-- Whether it stands between double quotes. -/
  isQuoted : Bool
  /-- Whether it makes fields, so that arguments stay apart. -/
  makesFields : Bool
  /-- Whether its own characters may part fields. -/
  plainParts : Bool

namespace Manner

/-- The manner of the words of a command. -/
def fields : Manner := ⟨false, true, false⟩

/-- The manner of a word that makes one text. -/
def text : Manner := ⟨false, false, false⟩

/-- Between double quotes. -/
def quoted (m : Manner) : Manner := { m with isQuoted := true }

/-- In the place of a value. -/
def inPlace (m : Manner) : Manner := { m with plainParts := true }

/-- The pieces of a value. -/
def value (m : Manner) (cs : List Char) : List Piece :=
  cs.map fun c => .char c m.isQuoted (!m.isQuoted)

/-- The pieces of characters that stand in the word itself. -/
def plain (m : Manner) (cs : List Char) : List Piece :=
  cs.map fun c => .char c m.isQuoted (m.plainParts && !m.isQuoted)

/-- The pieces of all arguments. They stay apart if the word makes fields, unless they are to be
joined between quotes. -/
def arguments (m : Manner) (name : List Char) : Act (List Piece) := do
  if m.makesFields && (!m.isQuoted || name = ['@']) then
    let parts := (← Act.shell).arguments.map fun a =>
      (if m.isQuoted then [Piece.mark] else []) ++ m.value a
    return [Piece.boundary m.isQuoted].intercalate parts
  else return m.value (← joinedArguments)

end Manner

/-! ### Home directories -/

/-- The home directory that a name behind a tilde calls; without a name, one's own. -/
def homeOf? (name : List Char) : Act (Option (List Char)) := do
  if name.isEmpty then Act.lookup "HOME".toList
  else return (userNamed? (← Act.disk) name).map fun u => ofText u.home

/-- The home directory that a tilde at the start of characters stands for, if there is one, and
the characters behind it. Its name goes up to a slash, or to the end if nothing follows. -/
def cutHome (isLast : Bool) (cs : List Char) : Act (List Char × List Char) := do
  match cs with
  | '~' :: rest =>
    let name := rest.takeWhile (· ≠ '/')
    let behind := rest.drop name.length
    if behind.isEmpty && !isLast then return ([], cs)
    else
      match ← homeOf? name with
      | none => return ([], cs)
      | some home => return (home, behind)
  | _ => return ([], cs)

/-- Characters with a home directory in the place of a tilde at their start. -/
def expandHome (isLast : Bool) (cs : List Char) : Act Word := do
  let (home, behind) ← cutHome isLast cs
  return if home.isEmpty then [.plain behind] else [.literal home, .plain behind]

/-- The parts of a value, in which tildes may stand for home directories behind colons, too. -/
def expandTildes (atStart : Bool) : Word → Act Word
  | [] => return []
  | .plain cs :: rest => do
    let parts := colonParts cs
    let expanded ← parts.zipIdx.mapM fun (part, n) => do
      let isLast := n + 1 < parts.length || rest.isEmpty
      let here ← if atStart || 0 < n then expandHome isLast part else pure [.plain part]
      return (if 0 < n then [Fragment.plain [':']] else []) ++ here
    return expanded.flatten ++ (← expandTildes (cs.getLast? = some ':') rest)
  | f :: rest => do return f :: (← expandTildes false rest)

section

variable (capture : Option Command → Act (List Char))

mutual

/-- The pieces of a part of a word. -/
def expandFragment (m : Manner) : Fragment → Act (List Piece)
  | .plain cs => return m.plain cs
  | .literal cs => return .mark :: cs.map fun c => .char c true false
  | .quoted w => do
    let pieces ← expandFragments m.quoted w
    match w with
    | [.parameter ['@'] .asIs] => return pieces
    | _ => return .mark :: pieces
  | .parameter name change => expandParameter m name change
  | .output body => return m.value (← capture body)
  | .arithmetic w => do
    let source := Piece.chars (← expandFragments Manner.text.quoted w)
    return m.value (digitsOfInt (← evaluate source))

/-- The pieces of the parts of a word. -/
def expandFragments (m : Manner) : List Fragment → Act (List Piece)
  | [] => return []
  | f :: fs => do
    let here ← expandFragment m f
    return here ++ (← expandFragments m fs)

/-- The pieces of the parts of a word, at whose start a tilde may stand for a home directory
unless the word is quoted. -/
def expandOpen (m : Manner) : List Fragment → Act (List Piece)
  | [] => return []
  | f :: fs => do
    let here ← match f with
      | .plain cs => do
        let (home, behind) ← if m.isQuoted then pure ([], cs) else cutHome fs.isEmpty cs
        pure (home.map (fun c => .char c true false) ++ m.plain behind)
      | f => expandFragment m f
    return here ++ (← expandFragments m fs)

/-- The pieces of a parameter and what is done with its value. -/
def expandParameter (m : Manner) (name : List Char) : Change → Act (List Piece)
  | .asIs => do
    if isAllArguments name then m.arguments name else return m.value (← demandedText name)
  | .length => return m.value (digitsOf (← demandedText name).length)
  | .standIn kind emptyToo w => do
    let value := (← parameterText name).filter fun cs => !(emptyToo && cs.isEmpty)
    match kind, value with
    | .present, none => return []
    | .present, some _ | .instead, none => expandOpen m.inPlace w
    | .assigned, none =>
      let text := Piece.chars (← expandOpen { Manner.text with isQuoted := m.isQuoted } w)
      if !isName name then Act.fail (name ++ ": bad variable name".toList)
      Act.assign name text
      return m.value text
    | .demanded, none =>
      let text := Piece.chars (← expandOpen { Manner.text with isQuoted := m.isQuoted } w)
      let unset := "parameter not set".toList ++ (if emptyToo then " or null".toList else [])
      Act.fail (name ++ ": ".toList ++ (if w.isEmpty then unset else text))
    | _, some cs => if isAllArguments name then m.arguments name else return m.value cs
  | .trim atEnd longest w => do
    let value ← demandedText name
    let pattern := patternOf (Piece.marked (← expandOpen Manner.text w))
    return m.value
      (if atEnd then trimEnd pattern longest value else trimFront pattern longest value)
  | .unknown => Act.fail "Bad substitution".toList

end

/-- The pieces of a word. -/
def expandWord (m : Manner) (w : Word) : Act (List Piece) := do
  expandOpen capture m w

/-- The text that a word makes. -/
def expandText (w : Word) : Act (List Char) := do
  return Piece.chars (← expandWord capture .text w)

/-- The value that the word of an assignment makes. -/
def expandValue (w : Word) : Act (List Char) := do
  return Piece.chars (← expandFragments capture .text (← expandTildes true w))

/-- The pattern that a word makes. -/
def expandPattern (w : Word) : Act (List PatternPart) := do
  return patternOf (Piece.marked (← expandWord capture .text w))

/-- The fields that a word makes. -/
def expandFields (w : Word) : Act (List (List Char)) := do
  let pieces ← expandWord capture .fields w
  let fields := splitFields (← Act.separators) pieces
  if ← Act.isOn 'f' then return fields.map (·.map (·.char))
  else
    let d ← Act.disk
    return fields.flatMap (expandPaths d)

/-- The fields that words make. -/
def expandAll (ws : List Word) : Act (List (List Char)) := do
  return (← ws.mapM (expandFields capture)).flatten

end

end ParserConformance.Script
