import ParserConformance.Text.Quoted

/-!
# Tokens of annotations

What an annotation is made of, where each piece stands, and what can be wrong with an
annotation.
-/

namespace ParserConformance.Annotation

/-- A token of an annotation. -/
inductive Token where
  /-- An opening parenthesis. -/
  | opening
  /-- A closing parenthesis. -/
  | closing
  /-- An opening square bracket. -/
  | openBracket
  /-- A closing square bracket. -/
  | closeBracket
  /-- A comma. -/
  | comma
  /-- A dash. -/
  | dash
  /-- A colon. -/
  | colon
  /-- A run of letters, digits and underscores that is not a number. -/
  | word (text : String)
  /-- A run of digits. -/
  | number (value : Nat)
  /-- A text between double quotes. -/
  | literal (text : String)
  deriving DecidableEq, Repr

/-- The token that a single character makes. -/
def Token.ofMark? : Char → Option Token
  | '(' => some .opening
  | ')' => some .closing
  | '[' => some .openBracket
  | ']' => some .closeBracket
  | ',' => some .comma
  | '-' => some .dash
  | ':' => some .colon
  | _ => none

/-- How messages name a token. -/
def Token.describe : Token → String
  | .opening => "'('"
  | .closing => "')'"
  | .openBracket => "'['"
  | .closeBracket => "']'"
  | .comma => "','"
  | .dash => "'-'"
  | .colon => "':'"
  | .word text => "'" ++ text ++ "'"
  | .number value => "number " ++ toString value
  | .literal text => "string " ++ String.ofList (Text.quote text.toList)

/-- How messages name what was found, a token or the end of the text. -/
def describeFound : Option Token → String
  | some token => token.describe
  | none => "end of input"

/-- A place in an annotation: line and column, both counted from one. -/
structure Place where
  /-- The line. -/
  line : Nat
  /-- The column, in characters. -/
  column : Nat
  deriving DecidableEq, Repr

/-- The start of an annotation. -/
def Place.first : Place := ⟨1, 1⟩

/-- The place of the next character on the same line. -/
def Place.next (p : Place) : Place := ⟨p.line, p.column + 1⟩

/-- The start of the next line. -/
def Place.newline (p : Place) : Place := ⟨p.line + 1, 1⟩

/-- A token and where it begins. -/
structure Located where
  /-- The token. -/
  token : Token
  /-- The place of its first character. -/
  place : Place
  deriving DecidableEq, Repr

/-- What a reader was looking for when it met something else. -/
inductive Wanted where
  /-- The start of a tree. -/
  | opening
  /-- The end of a tree. -/
  | closing
  /-- The kind after an opening parenthesis. -/
  | kind
  /-- A child or the end of the tree. -/
  | childOrClosing
  /-- The dash between the points of a span. -/
  | dash
  /-- The start of a point. -/
  | openBracket
  /-- The end of a point. -/
  | closeBracket
  /-- The comma inside a point. -/
  | comma
  /-- A coordinate. -/
  | number
  deriving DecidableEq, Repr

/-- How messages name what was looked for. -/
def Wanted.describe : Wanted → String
  | .opening => "'('"
  | .closing => "')'"
  | .kind => "node kind"
  | .childOrClosing => "child node or ')'"
  | .dash => "'-' between span points"
  | .openBracket => "'['"
  | .closeBracket => "']'"
  | .comma => "','"
  | .number => "number"

/-- What can be wrong with an annotation. -/
inductive Defect where
  /-- A text between quotes does not end on its line. -/
  | unterminatedText
  /-- A number is not below 2^64. -/
  | numberTooLarge (digits : String)
  /-- No token begins with this character. -/
  | strayCharacter (c : Char)
  /-- There is no token at all. -/
  | empty
  /-- Something follows the tree. -/
  | trailing (found : Token)
  /-- Something else stands where a part of a tree should be. -/
  | unexpected (wanted : Wanted) (found : Option Token)
  /-- The tree has more than `limit` levels. -/
  | tooDeep (limit : Nat)
  deriving DecidableEq, Repr

/-- The wording of a defect. -/
def Defect.message : Defect → String
  | .unterminatedText => "unterminated string"
  | .numberTooLarge digits => "number out of range: " ++ digits
  | .strayCharacter c => "unexpected character '" ++ String.singleton c ++ "'"
  | .empty => "empty expected tree"
  | .trailing found => "unexpected " ++ found.describe ++ " after expected tree"
  | .unexpected wanted found =>
    "expected " ++ wanted.describe ++ ", got " ++ describeFound found
  | .tooDeep limit => "expected tree nests deeper than " ++ toString limit ++ " levels"

/-- A defect and its place in the annotation. -/
structure Fault where
  /-- Where it was noticed. -/
  place : Place
  /-- What is wrong. -/
  defect : Defect
  deriving DecidableEq, Repr

/-- The place and wording of a fault in one line. -/
def Fault.text (f : Fault) : String :=
  "line " ++ toString f.place.line ++ ", column " ++ toString f.place.column ++ ": " ++
    f.defect.message

end ParserConformance.Annotation
