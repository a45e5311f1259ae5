import ParserConformance.Script.Arithmetic

/-!
# Conditions

The expressions of `test`: comparisons of texts and numbers, questions about files, and what is
joined of them.
-/

namespace ParserConformance.Script

/-- What is wrong with a condition. -/
inductive ConditionFault where
  /-- A word that is not wanted where it stands. -/
  | unexpected (word : List Char)
  /-- An operator without what it asks about. -/
  | missingArgument (op : List Char)
  /-- A parenthesis that is not closed. -/
  | missingParenthesis
  /-- A word that is no number where one is wanted. -/
  | illegalNumber (word : List Char)
  deriving DecidableEq, Repr

/-- The wording of a fault. -/
def ConditionFault.message : ConditionFault → List Char
  | .unexpected word =>
    if word.isEmpty then "unexpected operator".toList else word ++ ": unexpected operator".toList
  | .missingArgument op => op ++ ": argument expected".toList
  | .missingParenthesis => "closing paren expected".toList
  | .illegalNumber word => "Illegal number: ".toList ++ word

/-- What can be asked about files. -/
structure FileQuestions where
  /-- Whether what a path names is as a letter asks. -/
  holds : (letter : Char) → (path : List Char) → Bool
  /-- Whether two paths name the same thing. -/
  isSame : List Char → List Char → Bool
  /-- When what a path names was changed last, if there is something. -/
  changedAt? : List Char → Option Nat

namespace Condition

/-- What a word may be in a condition. -/
inductive Role where
  /-- A question about one word. -/
  | question
  /-- A comparison of two words. -/
  | comparison
  /-- A word that joins conditions. -/
  | joint
  deriving DecidableEq, Repr

/-- The role of a word. -/
def role? (word : List Char) : Option Role :=
  match word with
  | ['-', c] =>
    if "rwxefdcbpugkstznhOGLS".toList.contains c then some .question
    else if c = 'a' || c = 'o' then some .joint
    else none
  | ['('] | [')'] | ['!'] => some .joint
  | ['='] | ['<'] | ['>'] => some .comparison
  | _ =>
    if ["!=", "-eq", "-ne", "-gt", "-ge", "-lt", "-le", "-nt", "-ot", "-ef"].any
        (·.toList = word) then some .comparison
    else none

/-- The role that the first of some words plays. A word behind which nothing is left to be asked
about only stands for itself. -/
def roleOf : List (List Char) → Option Role
  | [] => none
  | word :: rest =>
    match role? word with
    | some .question =>
      match rest with
      | [] => none
      | [_] => some .question
      | next :: _ :: _ => if role? next = some .comparison then none else some .question
    | some .joint => if word = ['('] && rest.isEmpty then none else some .joint
    | role => role

/-- Whether the first of some words is a given joint. -/
def isJoint (joint : List Char) (words : List (List Char)) : Bool :=
  words.head? = some joint && roleOf words = some .joint

/-- A word as a number. -/
def number (word : List Char) : Except ConditionFault Int :=
  match decimal? word with
  | some n => .ok n
  | none => .error (.illegalNumber word)

/-- Whether something was changed later than something else, if both are there. -/
def isLater : Option Nat → Option Nat → Bool
  | some a, some b => b < a
  | _, _ => false

/-- Whether a comparison holds. -/
def compare (files : FileQuestions) (a op b : List Char) : Except ConditionFault Bool := do
  match String.ofList op with
  | "=" => return a == b
  | "!=" => return a != b
  | "<" => return String.ofList a < String.ofList b
  | ">" => return String.ofList b < String.ofList a
  | "-eq" => return (← number a) == (← number b)
  | "-ne" => return (← number a) != (← number b)
  | "-gt" => return (← number a) > (← number b)
  | "-ge" => return (← number a) ≥ (← number b)
  | "-lt" => return (← number a) < (← number b)
  | "-le" => return (← number a) ≤ (← number b)
  | "-ef" => return files.isSame a b
  | "-nt" => return isLater (files.changedAt? a) (files.changedAt? b)
  | "-ot" => return isLater (files.changedAt? b) (files.changedAt? a)
  | _ => return false

/-- Whether a question about a word has the answer yes. -/
def ask (files : FileQuestions) (op word : List Char) : Except ConditionFault Bool := do
  match op with
  | ['-', 'z'] => return word.isEmpty
  | ['-', 'n'] => return !word.isEmpty
  | ['-', 't'] =>
    let _ ← number word
    return false
  | ['-', c] => return files.holds c word
  | _ => return false

mutual

/-- Conditions of which one has to hold, and the words behind them. -/
def readAny (files : FileQuestions) : (room : Nat) → List (List Char) →
    Except ConditionFault (Bool × List (List Char))
  | 0, words => .ok (false, words)
  | room + 1, words => do
    let (a, rest) ← readAll files room words
    if isJoint ['-', 'o'] rest then
      let (b, rest) ← readAny files room (rest.drop 1)
      return (a || b, rest)
    else return (a, rest)

/-- Conditions of which all have to hold, and the words behind them. -/
def readAll (files : FileQuestions) : (room : Nat) → List (List Char) →
    Except ConditionFault (Bool × List (List Char))
  | 0, words => .ok (false, words)
  | room + 1, words => do
    let (a, rest) ← readOne files room words
    if isJoint ['-', 'a'] rest then
      let (b, rest) ← readAll files room (rest.drop 1)
      return (a && b, rest)
    else return (a, rest)

/-- One condition, and the words behind it. -/
def readOne (files : FileQuestions) : (room : Nat) → List (List Char) →
    Except ConditionFault (Bool × List (List Char))
  | 0, words => .ok (false, words)
  | _ + 1, [] => .ok (false, [])
  | room + 1, word :: rest => do
    if isJoint ['!'] (word :: rest) then
      let (a, rest) ← readOne files room rest
      return (!a, rest)
    else if isJoint ['('] (word :: rest) then
      if rest.head? = some [')'] then return (false, rest.drop 1)
      else
        let (a, rest) ← readAny files room rest
        if rest.head? = some [')'] then return (a, rest.drop 1)
        else .error .missingParenthesis
    else if roleOf (word :: rest) = some .question then
      match rest with
      | [] => .error (.missingArgument word)
      | arg :: rest => return (← ask files word arg, rest)
    else if roleOf rest = some .comparison then
      match rest with
      | op :: b :: rest => return (← compare files word op b, rest)
      | op :: [] => .error (.missingArgument op)
      | [] => return (!word.isEmpty, [])
    else return (!word.isEmpty, rest)

end

/-- Whether the words that are given to `test` hold, by their number first: three words are a
comparison if they can be, and an exclamation mark or parentheses around few words are taken
off. -/
def holds (files : FileQuestions) : (room : Nat) → List (List Char) →
    Except ConditionFault Bool
  | 0, _ => .ok false
  | _ + 1, [] => .ok false
  | room + 1, words => do
    let general (words : List (List Char)) : Except ConditionFault Bool := do
      let (b, rest) ← readAny files (8 * words.length + 8) words
      match rest with
      | [] => return b
      | _ => .error (.unexpected ((words.drop (words.length - rest.length - 1)).headD []))
    match words with
    | [a, op, b] =>
      if role? op = some .comparison then compare files a op b
      else if a = ['!'] then return !(← holds files room [op, b])
      else if a = ['('] && b = [')'] then general [op]
      else general words
    | [a, b, c, d] =>
      if a = ['('] && d = [')'] then general [b, c]
      else if a = ['!'] then return !(← holds files room [b, c, d])
      else general words
    | _ => general words

end Condition

end ParserConformance.Script
