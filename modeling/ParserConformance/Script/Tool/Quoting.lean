import ParserConformance.Script.Command

/-!
# Quoting

Tools show words that they were given between quotes. There are two ways: as a text with
backslashes in it, and as a shell would read the word. Names of files are shown in the second way,
and without quotes as long as nothing in them needs any.
-/

namespace ParserConformance.Script.Tool

/-- A number in three octal digits. -/
def octalByte (n : Nat) : List Char :=
  let ds := Nat.toDigits 8 n
  List.replicate (3 - ds.length) '0' ++ ds

/-- The letter that stands for a character behind a backslash, if there is one. -/
def escapeLetter? (c : Char) : Option Char :=
  [('\x07', 'a'), ('\x08', 'b'), ('\x0c', 'f'), ('\n', 'n'), ('\r', 'r'), ('\t', 't'),
    ('\x0b', 'v')].lookup c

/-- Whether a character stands for itself wherever it is written. -/
def isShown (c : Char) : Bool := ' ' ≤ c && c ≤ '~'

/-- What stands behind a backslash for a character that does not stand for itself. -/
def behindBackslash (c : Char) : List Char := ((escapeLetter? c).map ([·])).getD (octalByte c.toNat)

/-! ### Texts -/

/-- A word between single quotes. Quotes and backslashes in it have a backslash in front, and
characters that are not shown are written by one. -/
def quoted (cs : List Char) : List Char :=
  let escaped (c : Char) : List Char :=
    if c = '\\' || c = '\'' then ['\\', c]
    else if isShown c then [c]
    else '\\' :: behindBackslash c
  '\'' :: cs.flatMap escaped ++ ['\'']

/-! ### Words of a shell -/

/-- Whether a character is no part of a plain word; some are not at its start only. -/
def needsQuotes (isFirst : Bool) (c : Char) : Bool :=
  !isShown c || "?\\ !\"$&()*;<=>[^\x60|'".toList.contains c ||
    (isFirst && (c = '#' || c = '~'))

/-- Whether a word can be written as it is. -/
def isPlainWord (cs : List Char) : Bool :=
  match cs with
  | [] => false
  | [c] => !needsQuotes true c && c ≠ '\x7b' && c ≠ '\x7d'
  | c :: rest => !needsQuotes true c && !rest.any (needsQuotes false)

/-- Whether a character means the same between double quotes and between single ones. -/
def isTameInQuotes (isFirst : Bool) (c : Char) : Bool :=
  isShown c && !"?\\!\"$&()*;<=>[^\x60|\x7b\x7d#~".toList.contains c ||
    (isFirst && (c = '#' || c = '~'))

/-- Characters between single quotes, as a shell reads them, from within the quotes on. What is
not shown stands in quotes of its own with a dollar sign in front; `isEscaping` says whether those
are open. -/
def inSingleQuotes : (isEscaping : Bool) → List Char → List Char
  | _, [] => ['\'']
  | isEscaping, c :: cs =>
    if c = '\'' then "'\\''".toList ++ inSingleQuotes false cs
    else if isShown c then
      (if isEscaping then ['\'', '\''] else []) ++ c :: inSingleQuotes false cs
    else
      (if isEscaping then [] else "'$'".toList) ++ '\\' :: behindBackslash c ++
        inSingleQuotes true cs

/-- A word in quotes, as a shell reads it. A single quote in it is shown between double quotes if
that is possible. -/
def quotedName (cs : List Char) : List Char :=
  let isTame := cs.head?.all (isTameInQuotes true) && (cs.drop 1).all (isTameInQuotes false)
  if cs.contains '\'' && isTame then '"' :: cs ++ ['"']
  else '\'' :: inSingleQuotes false cs

/-- A word as a shell reads it, in quotes if it needs them. -/
def shellWord (cs : List Char) : List Char := if isPlainWord cs then cs else quotedName cs

/-- The name of a file in front of a complaint: in quotes if a shell needs them, or if there is a
colon in it. -/
def shownName (cs : List Char) : List Char :=
  if isPlainWord cs && !cs.contains ':' then cs else quotedName cs

end ParserConformance.Script.Tool
