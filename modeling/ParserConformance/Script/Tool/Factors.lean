import ParserConformance.Script.Tool.Call

/-!
# Prime factors

`factor` writes numbers as products of primes. Small primes are tried one after the other; what is
left is parted by looking for two numbers that are equal modulo an unknown factor.
-/

namespace ParserConformance.Script.Tool.Factors

/-- A power modulo a number. -/
def powerMod (n : Nat) : (room : Nat) → (base exponent : Nat) → Nat
  | 0, _, _ => 1 % n
  | room + 1, base, exponent =>
    if exponent = 0 then 1 % n
    else
      let half := powerMod n room (base * base % n) (exponent / 2)
      if exponent % 2 = 1 then base * half % n else half

/-- Whether a number is one, or becomes minus one by squaring so often. -/
def reachesMinusOne (n : Nat) : (times : Nat) → Nat → Bool
  | 0, _ => false
  | times + 1, x => x = n - 1 || reachesMinusOne n times (x * x % n)

/-- The bases for which numbers are tested. -/
def bases : List Nat := [2, 3, 5, 7, 11, 13, 17, 19, 23, 29, 31, 37]

/-- How often a number can be halved, up to a limit, and what is left then. -/
def halvings : (room : Nat) → Nat → Nat × Nat
  | 0, n => (0, n)
  | room + 1, n =>
    if n % 2 = 0 then
      let (times, odd) := halvings room (n / 2)
      (times + 1, odd)
    else (0, n)

/-- Whether a number is prime, as far as the bases tell. -/
def isPrime (n : Nat) : Bool :=
  if n < 2 then false
  else
    let room := Nat.log2 n + 1
    let (times, odd) := halvings room (n - 1)
    bases.all fun b =>
      if b % n = 0 then n = b || n % b ≠ 0
      else
        let x := powerMod n room b odd
        x = 1 || reachesMinusOne n times x

/-- A factor of a number, found where two sequences of remainders meet. -/
def meeting? (n c : Nat) : (room : Nat) → (slow fast : Nat) → Option Nat
  | 0, _, _ => none
  | room + 1, slow, fast =>
    let step (x : Nat) : Nat := (x * x + c) % n
    let slow := step slow
    let fast := step (step fast)
    let d := Nat.gcd (if slow ≤ fast then fast - slow else slow - fast) n
    if d = n then none else if 1 < d then some d else meeting? n c room slow fast

/-- How many steps are taken to find a factor. -/
def patience : Nat := 1000000

/-- The prime factors of a number that has no small ones. -/
def largeFactors : (room : Nat) → Nat → List Nat
  | 0, n => [n]
  | room + 1, n =>
    if n < 2 then []
    else if isPrime n then [n]
    else
      match (List.range 20).findSome? fun c => meeting? n (c + 1) patience 2 2 with
      | some d => largeFactors room d ++ largeFactors room (n / d)
      | none => [n]

/-- The greatest number that is tried as a factor. -/
def trialLimit : Nat := 20000

/-- The prime factors of a number, none of which is less than `p`. -/
def factorsFrom : (room : Nat) → (p n : Nat) → List Nat
  | 0, _, n => if n < 2 then [] else [n]
  | room + 1, p, n =>
    if n < 2 then []
    else if n < p * p then [n]
    else if trialLimit < p then (largeFactors (Nat.log2 n) n).mergeSort
    else if n % p = 0 then p :: factorsFrom room p (n / p)
    else factorsFrom room (if p = 2 then 3 else p + 2) n

/-- The prime factors of a number. -/
def factorsOf (n : Nat) : List Nat := factorsFrom (trialLimit + Nat.log2 n) 2 n

/-- Factors with the number of times that each stands there. -/
def counted (factors : List Nat) : List (Nat × Nat) :=
  (factors.splitBy (· = ·)).map fun ps => (ps.headD 0, ps.length)

/-- A number and its factors. -/
def line (inPowers : Bool) (n : Nat) : List Char :=
  let power (p count : Nat) : List Char :=
    digitsOf p ++ if 1 < count then '^' :: digitsOf count else []
  let shown := if inPowers then (counted (factorsOf n)).map fun (p, count) => power p count
    else (factorsOf n).map digitsOf
  digitsOf n ++ ':' :: shown.flatMap (' ' :: ·) ++ ['\n']

/-- The number that a word writes. -/
def number? (word : List Char) : Option Nat :=
  let word := word.dropWhile (· = ' ')
  natural? (if word.head? = some '+' then word.drop 1 else word)

/-- The words of a text between blanks and ends of lines. -/
def wordsOf (text : List Char) : List (List Char) :=
  (text.splitBy fun a b => isSpaceChar a = isSpaceChar b).filter fun w => !w.any isSpaceChar

/-- Writes numbers as products of primes. -/
def factor : Tool :=
  withOptions { flags := "h", long := [("exponents", 'h')] } 1 fun c o =>
    let words := if o.operands.isEmpty then wordsOf (c.input.getD []) else o.operands
    let e := words.foldl (fun e word =>
      match number? word with
      | some n => e.write (line (o.has 'h') n)
      | none => e.complain c 1 (quoted word ++ " is not a valid positive integer".toList))
      (Effect.ofStatus c 0)
    if o.operands.isEmpty then e.takingAll c else e

end ParserConformance.Script.Tool.Factors
