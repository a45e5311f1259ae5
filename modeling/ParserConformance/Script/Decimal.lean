import ParserConformance.Script.Arithmetic

/-!
# Numbers with decimals

Numbers of 53 binary digits and their decimal writing to a given precision. Both steps are
exact: a number that is read is the nearest such number, and a number that is written is the
nearest decimal, the even one of two that are equally near.
-/

namespace ParserConformance.Script

/-- A number that is not negative, or what is greater than all of them. -/
inductive Magnitude where
  /-- A whole number times a power of two. -/
  | finite (mantissa : Nat) (exponent : Int)
  /-- A number too great. -/
  | infinite
  deriving DecidableEq, Repr

/-- A number with its sign. -/
structure Real where
  /-- Whether it has a minus sign. -/
  isNegative : Bool
  /-- The number without its sign. -/
  magnitude : Magnitude
  deriving DecidableEq, Repr

/-- The whole number nearest to a quotient, the even one of two. -/
def roundQuotient (n d : Nat) : Nat :=
  let q := n / d
  let r := n % d
  if 2 * r < d then q
  else if d < 2 * r then q + 1
  else if q % 2 = 0 then q else q + 1

/-- The number of digits of a number in a base. -/
def digitCount (base n : Nat) : Nat := (Nat.toDigits base n).length

/-- The number nearest to a quotient. -/
def Magnitude.ofQuotient (n d : Nat) : Magnitude :=
  if n = 0 then .finite 0 0
  else
    let guess : Int := (digitCount 2 n : Int) - digitCount 2 d
    let isBelow := n * 2 ^ (-guess).toNat < d * 2 ^ guess.toNat
    let exponent : Int := max (-1074) ((if isBelow then guess - 1 else guess) - 52)
    let m := roundQuotient (n * 2 ^ (-exponent).toNat) (d * 2 ^ exponent.toNat)
    if exponent + digitCount 2 m > 1024 then .infinite else .finite m exponent

/-- Characters that write a number, and what comes after it. -/
def readReal? (cs : List Char) : Option (Real × List Char) :=
  let cs := cs.dropWhile isSpaceChar
  let (isNegative, cs) := match cs with
    | '-' :: rest => (true, rest)
    | '+' :: rest => (false, rest)
    | cs => (false, cs)
  let whole := cs.takeWhile isDigit
  let rest := cs.drop whole.length
  let (decimals, rest) := match rest with
    | '.' :: more => (more.takeWhile isDigit, more.dropWhile isDigit)
    | rest => ([], rest)
  if whole.isEmpty && decimals.isEmpty then none
  else
    let power? : Option (Int × List Char) :=
      match rest with
      | e :: more =>
        if e = 'e' || e = 'E' then
          let (sign, more) : Int × List Char := match more with
            | '-' :: more => (-1, more)
            | '+' :: more => (1, more)
            | more => (1, more)
          match more.takeWhile isDigit with
          | [] => none
          | digits => some (sign * min (valueOf digits) 5000, more.drop digits.length)
        else none
      | [] => none
    let (power, rest) := power?.getD (0, rest)
    let power := power - decimals.length
    let digits := valueOf (whole ++ decimals)
    some (⟨isNegative, .ofQuotient (digits * 10 ^ power.toNat) (10 ^ (-power).toNat)⟩, rest)

namespace Magnitude

/-- Digits with at least a given number of them. -/
def padZeros (width : Nat) (ds : List Char) : List Char :=
  List.replicate (width - ds.length) '0' ++ ds

/-- A number as a quotient. -/
def quotient (mantissa : Nat) (exponent : Int) : Nat × Nat :=
  (mantissa * 2 ^ exponent.toNat, 2 ^ (-exponent).toNat)

/-- Digits with a point before the last ones. -/
def withPoint (places : Nat) (keepsPoint : Bool) (n : Nat) : List Char :=
  let ds := padZeros (places + 1) (digitsOf n)
  let whole := ds.take (ds.length - places)
  if places = 0 then whole ++ (if keepsPoint then ['.'] else [])
  else whole ++ '.' :: ds.drop whole.length

/-- A number with a given number of decimals. -/
def fixed (places : Nat) (keepsPoint : Bool) (mantissa : Nat) (exponent : Int) : List Char :=
  let (n, d) := quotient mantissa exponent
  withPoint places keepsPoint (roundQuotient (n * 10 ^ places) d)

/-- The digits of a number, one before the point, and the power of ten that goes with them. -/
def scientificDigits (places mantissa : Nat) (exponent : Int) : Nat × Int :=
  let (n, d) := quotient mantissa exponent
  if n = 0 then (0, 0)
  else
    let guess : Int := (digitCount 10 n : Int) - digitCount 10 d
    let isBelow := n * 10 ^ (-guess).toNat < d * 10 ^ guess.toNat
    let power := if isBelow then guess - 1 else guess
    let shift : Int := places - power
    let digits := roundQuotient (n * 10 ^ shift.toNat) (d * 10 ^ (-shift).toNat)
    if digits = 10 ^ (places + 1) then (10 ^ places, power + 1) else (digits, power)

/-- A power of ten as it stands behind digits. -/
def powerText (e : Char) (power : Int) : List Char :=
  [e, if power < 0 then '-' else '+'] ++ padZeros 2 (digitsOf power.natAbs)

/-- Decimals without zeros at their end. -/
def dropZeros (ds : List Char) : List Char :=
  if ds.contains '.' then
    let kept := (ds.reverse.dropWhile (· = '0')).reverse
    if kept.getLast? = some '.' then kept.dropLast else kept
  else ds

/-- A number by the conversion of a letter, with a precision. -/
def text (conversion : Char) (places : Nat) (keepsZeros : Bool) : Magnitude → List Char
  | .infinite => if conversion.isUpper then "INF".toList else "inf".toList
  | .finite m x =>
    let e := if conversion.isUpper then 'E' else 'e'
    if conversion = 'f' || conversion = 'F' then fixed places keepsZeros m x
    else if conversion = 'e' || conversion = 'E' then
      let (digits, power) := scientificDigits places m x
      withPoint places keepsZeros digits ++ powerText e power
    else
      let places := max places 1
      let (digits, power) := scientificDigits (places - 1) m x
      let tidy (ds : List Char) : List Char := if keepsZeros then ds else dropZeros ds
      if -4 ≤ power && power < places then
        tidy (fixed ((places : Int) - 1 - power).toNat keepsZeros m x)
      else tidy (withPoint (places - 1) keepsZeros digits) ++ powerText e power

end Magnitude

end ParserConformance.Script
