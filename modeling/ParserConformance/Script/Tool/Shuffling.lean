import ParserConformance.Script.Tool.Place

/-!
# Shuffling

`shuf` writes lines in an order that depends on nothing but the time.
-/

namespace ParserConformance.Script.Tool.Shuffling

/-- The next number of a sequence that looks like chance. -/
def nextChance (n : Nat) : Nat := (n * 6364136223846793005 + 1442695040888963407) % 2 ^ 64

/-- So many elements of an array in an order of chance. -/
def drawn {α : Type} : (count chance : Nat) → Array α → List α
  | 0, _, _ => []
  | count + 1, chance, xs =>
    let chance := nextChance chance
    let i := (chance >>> 33) % max 1 xs.size
    match xs[i]?, xs.back? with
    | some x, some last => x :: drawn count chance ((xs.set! i last).pop)
    | _, _ => []

/-- So many elements of an array, each as often as it comes. -/
def drawnAgain {α : Type} : (count chance : Nat) → Array α → List α
  | 0, _, _ => []
  | count + 1, chance, xs =>
    let chance := nextChance chance
    match xs[(chance >>> 33) % max 1 xs.size]? with
    | some x => x :: drawnAgain count chance xs
    | none => []

/-- The range of numbers that a text writes. -/
def rangeOf? (text : List Char) : Option (Nat × Nat) :=
  let low := text.takeWhile (· ≠ '-')
  match text.drop low.length with
  | _ :: high => do
    let a ← natural? low
    let b ← natural? high
    if b + 1 < a then none else return (a, b)
  | [] => none

/-- How many lines are written at a time that are repeated without end. -/
def manyLines : Nat := 10000

/-- The options. -/
def known : Known := {
  flags := "erz"
  valued := "inoR"
  hidden := "R"
  long := [("echo", 'e'), ("input-range", 'i'), ("head-count", 'n'), ("output", 'o'),
    ("random-source", 'R'), ("repeat", 'r'), ("zero-terminated", 'z')] }

/-- What is shuffled, or what stands in the way of that. -/
def sourceOf (c : Call) (o : Options) : Except Effect (Array (List Char)) :=
  match o.value? 'i' with
  | some text =>
    match rangeOf? text, o.operands with
    | none, _ => .error (.ofComplaint c 1 ("invalid input range: ".toList ++ quoted text))
    | _, extra :: _ => .error (.ofMisuse c 1 ("extra operand ".toList ++ quoted extra))
    | some (low, high), [] =>
      .ok ((List.range (min (high + 1 - low) 1000000)).map fun n => digitsOf (low + n)).toArray
  | none =>
    if o.has 'e' then .ok o.operands.toArray
    else
      match o.operands with
      | _ :: extra :: _ => .error (.ofMisuse c 1 ("extra operand ".toList ++ quoted extra))
      | names =>
        match contentOf c (names.headD ['-']) with
        | .ok text => .ok (recordsOf (stopOf o) text).1.toArray
        | .error .isDirectory => .error (.ofComplaint c 1 "read error: Is a directory".toList)
        | .error t => .error (.ofComplaint c 1 (fileComplaint (names.headD []) t))

/-- Writes lines in an order of chance. -/
def shuf : Tool := withOptions known 1 fun c o =>
  let counts := (o.values 'n').map fun text => (text, natural? text)
  if 1 < (o.values 'i').length then .ofComplaint c 1 "multiple -i options specified".toList
  else if o.has 'e' && o.has 'i' then .ofMisuse c 1 "cannot combine -e and -i options".toList
  else
    match counts.find? (·.2.isNone) with
    | some (text, _) => .ofComplaint c 1 ("invalid line count: ".toList ++ quoted text)
    | none =>
      match sourceOf c o with
      | .error e => e
      | .ok all =>
        let limit? := (counts.filterMap (·.2)).min?
        let chance := c.disk.now
        if o.has 'r' && all.isEmpty && limit? ≠ some 0 then
          .ofComplaint c 1 "no lines to repeat".toList
        else
          let chosen := if o.has 'r' then drawnAgain (limit?.getD manyLines) chance all
            else drawn (min all.size (limit?.getD all.size)) chance all
          let text := ended (stopOf o) chosen
          let delay := if o.has 'r' && limit?.isNone then endlessTime else 0
          let e : Effect := match o.value? 'o' with
            | none => .ofOutput c text
            | some name =>
              match writingTrouble? c.disk name with
              | some t => .ofComplaint c 1 (fileComplaint name t)
              | none => { Effect.ofStatus c 0 with disk := written c.mask c.disk name text }
          let piece (n : Nat) : Option (List Char) :=
            some (ended (stopOf o) (drawnAgain manyLines (chance + n) all))
          let e := { e with delay, further := if delay = 0 then none else some piece }
          if !o.has 'e' && !o.has 'i' && readsInput o.operands then e.takingAll c else e

end ParserConformance.Script.Tool.Shuffling
