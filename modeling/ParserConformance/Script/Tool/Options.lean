import ParserConformance.Script.Decimal

/-!
# Options of tools

Most tools read their arguments alike: letters behind a minus sign, some of them with a value,
long names behind two of them, which may be cut short as long as only one is meant, and other
arguments in between.
-/

namespace ParserConformance.Script.Tool

/-- The options that a tool knows, each by a letter. -/
structure Known where
  /-- The letters that stand alone. -/
  flags : String := ""
  /-- The letters with a value. -/
  valued : String := ""
  /-- The letters with a value that may be missing; if it is not, it follows at once. -/
  optional : String := ""
  /-- The long names. -/
  long : List (String × Char) := []
  /-- The letters that only long names give. -/
  hidden : String := ""
  /-- Whether options end where the other arguments begin. -/
  endsAtOperand : Bool := false

/-- What is wrong with options. -/
inductive OptionFault where
  /-- A letter that is not known. -/
  | unknownLetter (letter : Char)
  /-- A long name that is not known. -/
  | unknownName (text : List Char)
  /-- A long name that is cut too short. -/
  | ambiguous (text : List Char) (names : List String)
  /-- A letter without its value. -/
  | letterNeedsValue (letter : Char)
  /-- A long name without its value. -/
  | nameNeedsValue (name : String)
  /-- A long name with a value that it does not have. -/
  | nameHasNoValue (name : String)
  deriving DecidableEq, Repr

/-- The wording of a fault. -/
def OptionFault.message : OptionFault → List Char
  | .unknownLetter letter => "invalid option -- '".toList ++ [letter, '\'']
  | .unknownName text => "unrecognized option '--".toList ++ text ++ ['\'']
  | .ambiguous text names =>
    "option '--".toList ++ text ++ "' is ambiguous; possibilities:".toList ++
      names.flatMap fun name => (" '--" ++ name ++ "'").toList
  | .letterNeedsValue letter => "option requires an argument -- '".toList ++ [letter, '\'']
  | .nameNeedsValue name => ("option '--" ++ name ++ "' requires an argument").toList
  | .nameHasNoValue name => ("option '--" ++ name ++ "' doesn't allow an argument").toList

/-- The options and the other arguments of a call. -/
structure Options where
  /-- The letters of options with their values. -/
  letters : List (Char × List Char)
  /-- The other arguments. -/
  operands : List (List Char)

namespace Options

/-- Whether an option is given. -/
def has (o : Options) (letter : Char) : Bool := o.letters.any (·.1 = letter)

/-- The value of an option, the last one that is given. -/
def value? (o : Options) (letter : Char) : Option (List Char) :=
  (o.letters.reverse.find? (·.1 = letter)).map (·.2)

/-- All values of an option. -/
def values (o : Options) (letter : Char) : List (List Char) :=
  (o.letters.filter (·.1 = letter)).map (·.2)

/-- The one of some letters that is given last. -/
def lastOf? (o : Options) (letters : String) : Option Char :=
  (o.letters.reverse.find? fun l => letters.toList.contains l.1).map (·.1)

/-- How a letter takes its value. -/
inductive Taking where
  /-- It has none. -/
  | nothing
  /-- It has one. -/
  | value
  /-- It has one if that follows at once. -/
  | attached
  deriving DecidableEq, Repr

/-- How a letter takes its value. -/
def taking (k : Known) (letter : Char) : Taking :=
  if k.valued.toList.contains letter then .value
  else if k.optional.toList.contains letter then .attached
  else .nothing

/-- Whether a letter is known behind one minus sign. -/
def isLetter (k : Known) (letter : Char) : Bool :=
  (k.flags.toList.contains letter || taking k letter ≠ .nothing) &&
    !k.hidden.toList.contains letter

/-- The letters that an argument gives, and the one whose value is the next argument. -/
def lettersOf (k : Known) : List Char →
    Except OptionFault (List (Char × List Char) × Option Char)
  | [] => .ok ([], none)
  | c :: cs =>
    if !isLetter k c then .error (.unknownLetter c)
    else
      match taking k c with
      | .value => if cs.isEmpty then .ok ([], some c) else .ok ([(c, cs)], none)
      | .attached => .ok ([(c, cs)], none)
      | .nothing => do
        let (more, pending) ← lettersOf k cs
        return ((c, []) :: more, pending)

/-- The long name that a text means: the whole one, or the only one that begins with it. Names
of one letter do not compete. -/
def nameFor (k : Known) (text : List Char) : Except OptionFault (String × Char) :=
  match k.long.find? (·.1.toList = text) with
  | some found => .ok found
  | none =>
    match k.long.filter (text.isPrefixOf ·.1.toList) with
    | [] => .error (.unknownName text)
    | found :: others =>
      if others.all (·.2 = found.2) then .ok found
      else .error (.ambiguous text ((found :: others).map (·.1)))

/-- The options that an argument gives, and whether the next argument belongs to it as a value;
nothing if it is no option. -/
def given? (k : Known) (arg : List Char) (next : Option (List Char)) :
    Except OptionFault (Option (List (Char × List Char) × Bool)) := do
  match arg with
  | ['-', '-'] => return none
  | '-' :: '-' :: text =>
    let name := text.takeWhile (· ≠ '=')
    let value? := match text.drop name.length with
      | '=' :: value => some value
      | _ => none
    let (long, letter) ← match nameFor k name with
      | .ok found => pure found
      | .error (.unknownName _) => throw (.unknownName text)
      | .error (.ambiguous _ names) => throw (.ambiguous text names)
      | .error fault => throw fault
    match taking k letter, value?, next with
    | .nothing, some _, _ => throw (.nameHasNoValue long)
    | .nothing, none, _ | .attached, none, _ => return some ([(letter, [])], false)
    | _, some value, _ => return some ([(letter, value)], false)
    | .value, none, some value => return some ([(letter, value)], true)
    | .value, none, none => throw (.nameNeedsValue long)
  | '-' :: c :: cs =>
    let (letters, pending) ← lettersOf k (c :: cs)
    match pending, next with
    | some letter, some value => return some (letters ++ [(letter, value)], true)
    | some letter, none => throw (.letterNeedsValue letter)
    | none, _ => return some (letters, false)
  | _ => return none

/-- Reads the arguments of a call. -/
def read (k : Known) : List (List Char) → Except OptionFault Options
  | [] => .ok ⟨[], []⟩
  | ['-', '-'] :: args => .ok ⟨[], args⟩
  | arg :: args => do
    match ← given? k arg args.head?, args with
    | some (letters, true), _ :: args =>
      let o ← read k args
      return { o with letters := letters ++ o.letters }
    | some (letters, _), args =>
      let o ← read k args
      return { o with letters := letters ++ o.letters }
    | none, args =>
      if k.endsAtOperand then return ⟨[], arg :: args⟩
      let o ← read k args
      return { o with operands := arg :: o.operands }

end Options

end ParserConformance.Script.Tool
