/-!
# Modes of files

The bits of a mode say who may read, write and run a file. A change of them is written in digits
or in letters.
-/

namespace ParserConformance.Script

/-- What is taken for the bits of a change. -/
inductive ModeValue where
  /-- The bits themselves; the second ones are taken if something may be run already. -/
  | bits (value : Nat) (ifAnyRuns : Nat)
  /-- The bits that the mode has among these, for all for whom the change is made. -/
  | copied (value : Nat)
  deriving DecidableEq, Repr

/-- A change of a mode. -/
structure ModeChange where
  /-- Whether bits are added, taken away or put in place of others: a sign. -/
  sign : Char
  /-- The bits of those for whom the change is made; none if nobody is named. -/
  affected : Nat
  /-- The bits of the change. -/
  value : ModeValue
  /-- The bits that directories do not keep if they are not in the change. -/
  mentioned : Nat
  deriving DecidableEq, Repr

namespace ModeChange

/-- All bits of a mode. -/
def allBits : Nat := 0o7777

/-- The bits that a mode does not have. -/
def without (mode bits : Nat) : Nat := mode &&& (allBits ^^^ (bits &&& allBits))

/-- The bits of those whom a letter names. -/
def whose? : Char → Option Nat
  | 'u' => some 0o4700
  | 'g' => some 0o2070
  | 'o' => some 0o1007
  | 'a' => some allBits
  | _ => none

/-- The bits that a letter names. -/
def what? : Char → Option Nat
  | 'r' => some 0o444
  | 'w' => some 0o222
  | 'x' => some 0o111
  | 's' => some 0o6000
  | 't' => some 0o1000
  | _ => none

/-- Whether a character is an octal digit. -/
def isDigit (c : Char) : Bool := '0' ≤ c && c ≤ '7'

/-- The number that octal digits write, if it is a mode. -/
def octal? (digits : List Char) : Option Nat :=
  let n := digits.foldl (fun n c => n * 8 + (c.toNat - '0'.toNat)) 0
  if digits.isEmpty || !digits.all isDigit || allBits < n then none else some n

/-- The bits that digits mention: those of whose number there are enough, or that are set. -/
def mentionedBy (digits : List Char) (mode : Nat) : Nat :=
  if 4 < digits.length then allBits else (mode &&& 0o6000) ||| 0o1777

/-- The changes of a clause for some, one for each sign in it. -/
def ofClause (affected : Nat) : (room : Nat) → List Char → Option (List ModeChange)
  | 0, _ => none
  | room + 1, sign :: cs => do
    if !"+-=".toList.contains sign then none
    let isSign (c : Char) : Bool := ['+', '-', '='].contains c
    let letters := cs.takeWhile (!isSign ·)
    let rest := cs.drop letters.length
    let change : ModeChange ←
      if letters.head?.any isDigit then
        if affected = 0 && rest.isEmpty then
          (octal? letters).map fun n => ⟨sign, allBits, .bits n 0, mentionedBy letters n⟩
        else none
      else
        match letters with
        | ['u'] => some ⟨sign, affected, .copied 0o700, 0⟩
        | ['g'] => some ⟨sign, affected, .copied 0o070, 0⟩
        | ['o'] => some ⟨sign, affected, .copied 0o007, 0⟩
        | letters => do
          let bits ← (letters.filter (· ≠ 'X')).mapM what?
          let value := bits.foldl (· ||| ·) 0
          some ⟨sign, affected, .bits value (if letters.contains 'X' then 0o111 else 0),
            if affected = 0 then value else affected &&& value⟩
    let more ← if rest.isEmpty then some [] else ofClause affected room rest
    return change :: more
  | _, [] => none

/-- The parts of a text between commas. -/
def clauses (cs : List Char) : List (List Char) :=
  cs.foldr (fun c parts => match parts with
    | [] => [[c]]
    | p :: ps => if c = ',' then [] :: p :: ps else (c :: p) :: ps) [[]]

/-- The changes that a text writes. -/
def read? (text : List Char) : Option (List ModeChange) :=
  if text.head?.any isDigit then
    (octal? text).map fun n => [⟨'=', allBits, .bits n 0, mentionedBy text n⟩]
  else do
    let parts ← (clauses text).mapM fun clause => do
      let who := clause.takeWhile fun c => (whose? c).isSome
      let affected := (who.filterMap whose?).foldl (· ||| ·) 0
      ofClause affected (clause.length + 1) (clause.drop who.length)
    return parts.flatten

/-- A mode after a change. What is said of nobody in particular leaves out the bits of a mask. -/
def apply (mask : Nat) (isDirectory : Bool) (mode : Nat) (c : ModeChange) : Nat :=
  let kept := if isDirectory then without 0o6000 c.mentioned else 0
  let value := match c.value with
    | .bits value ifAnyRuns =>
      if isDirectory || mode &&& 0o111 ≠ 0 then value ||| ifAnyRuns else value
    | .copied value =>
      let here := mode &&& value
      [0o444, 0o222, 0o111].foldl (fun v bits =>
        if here &&& bits ≠ 0 then v ||| bits else v) here
  let value := without (if c.affected = 0 then without value mask else value &&& c.affected) kept
  match c.sign with
  | '+' => mode ||| value
  | '-' => without mode value
  | _ =>
    let preserved := (if c.affected = 0 then 0 else without allBits c.affected) ||| kept
    (mode &&& preserved) ||| value

end ModeChange

/-- A mode after a change that is written in digits or in letters. -/
def changedMode? (mask : Nat) (isDirectory : Bool) (old : Nat) (change : List Char) :
    Option Nat :=
  (ModeChange.read? change).map fun cs => cs.foldl (ModeChange.apply mask isDirectory) old

/-- What a mode lets its owner, the group and all others do, in letters. -/
def modeLetters (mode : Nat) : List (List Char) :=
  [6, 3, 0].map fun shift =>
    [('r', 4), ('w', 2), ('x', 1)].filterMap fun (letter, bit) =>
      if mode &&& bit <<< shift = 0 then none else some letter

end ParserConformance.Script
