import ParserConformance.Script.Awk.Streams
import ParserConformance.Script.Awk.Text

/-!
# Running text programs

Expressions and statements are run part by part. A call of a function is run one level deeper, and
a loop has only so many rounds.
-/

namespace ParserConformance.Script.Awk

open Tool (Regex)

/-- What a program works with. -/
structure Setting where
  /-- What starts other programs. -/
  engine : Engine
  /-- The program. -/
  program : Program
  /-- Calls a function with variables. -/
  invoke : (function : Nat) → Array Slot → Working Value

/-- A place for a value that has been found. -/
inductive Spot where
  /-- A variable. -/
  | variable (v : Variable)
  /-- A field. -/
  | field (n : Nat)
  /-- A value of a table. -/
  | element (table : Nat) (k : Key)

namespace Spot

open Working

/-- The value in a place. -/
def read : Spot → Working Value
  | .variable v => current v
  | .field n => Working.field n
  | .element t k => Working.element t k

/-- Puts a value into a place. -/
def write (x : Value) : Spot → Working Unit
  | .variable v => setVariable v x
  | .field n => setField n x
  | .element t k => changeTable t fun table => table.insert k x

end Spot

/-! ### Functions -/

/-- Two numbers combined. -/
def Operation.apply (op : Operation) (x y : Float) : Float :=
  match op with
  | .add => x + y
  | .subtract => x - y
  | .multiply => x * y
  | .divide => x / y
  | .remain => remainder x y
  | .raise => x ^ y

/-- A number without its decimals. -/
def truncated (x : Float) : Float := if x ≥ 0 then x.floor else x.ceil

/-- The next state of the numbers that look like chance. -/
def nextChance (n : UInt64) : UInt64 := n * 6364136223846793005 + 1442695040888963407

/-- The first state of such numbers for a seed. -/
def chanceOf (seed : Float) : UInt64 := nextChance (nextChance seed.toBits)

open Working

/-- Values in a format, for a function of a name. -/
def formatted (function : String) (args : List Value) :
    Working (List Char × Option (List Char)) := do
  let cs ← textOf (args.headD .unset)
  let conversion ← settingText "CONVFMT"
  match format (numberText conversion) (cs.takeWhile (· ≠ '\x00')) (args.drop 1) with
  | .ok f => return (f.text, none)
  | .error (fault, f) => return (f.text, some (fault.message function cs))

/-- The time, in microseconds. -/
def timeNow : Working Nat := do
  let w ← Act.world
  return w.startedAt + w.clock

/-- A function that every program has, of values. -/
def Function.apply (engine : Engine) (f : Function) (args : List Value) : Working Value := do
  let first := args.headD .unset
  let x := first.toNumber
  let number (x : Float) : Working Value := return .number x
  match f with
  | .length =>
    let text ← if args.isEmpty then recordText else textOf first
    return .ofNat text.length
  | .index =>
    let text ← textOf first
    let part ← textOf (args.getD 1 .unset)
    return .ofNat (positionIn part 1 text)
  | .substr =>
    let text ← textOf first
    let start := wholeOf (args.getD 1 .unset).toNumber
    return .text (partOf text start (args[2]?.map fun v => wholeOf v.toNumber))
  | .tolower => return .text ((← textOf first).map Char.toLower)
  | .toupper => return .text ((← textOf first).map Char.toUpper)
  | .sprintf =>
    match ← formatted "sprintf" args with
    | (text, none) => return .text text
    | (_, some text) => fault text
  | .sin => number x.sin
  | .cos => number x.cos
  | .atan2 => number (x.atan2 (args.getD 1 .unset).toNumber)
  | .exp => number x.exp
  | .log => number x.log
  | .sqrt => number x.sqrt
  | .int => number (truncated x)
  | .rand =>
    let chance := nextChance (← get).chance
    modify fun p => { p with chance }
    return .number ((chance >>> 11).toFloat / 9007199254740992)
  | .srand =>
    let old := (← get).seed
    let seed ← if args.isEmpty then do pure (.ofNat ((← timeNow) / 1000000))
      else pure (.number x)
    modify fun p => { p with seed, chance := chanceOf seed.toNumber }
    return old
  | .close => return .ofInt (← closeAll engine (← textOf first))
  | .fflush =>
    if args.isEmpty then
      flushOutput
      return .ofNat 0
    else return .ofInt (← flushNamed (← textOf first))
  | .system => return .ofNat (← Working.system engine (← textOf first))
  | .systime => return .ofNat ((← timeNow) / 1000000)

/-- What a record read into a place comes to: one if there was one, else zero. -/
def taken (target : Option Spot) (record : Option (List Char)) :
    Working Value := do
  match record with
  | none => return .ofNat 0
  | some text =>
    match target with
    | some s => s.write (.input text)
    | none => setRecord text
    return .ofNat 1

/-! ### Expressions -/

section

variable (s : Setting)

mutual

/-- The value of an expression. -/
def value : Expr → Working Value
  | .number x => return .number x
  | .text cs => return .text cs
  | .regex r => return .ofBool (r.occursIn (← recordText))
  | .place p => do (← spot p).read
  | .assign p none e => do
    let place ← spot p
    let v ← value e
    place.write v
    return v
  | .assign p (some op) e => do
    let place ← spot p
    let y := (← value e).toNumber
    let v := Value.number (op.apply (← place.read).toNumber y)
    place.write v
    return v
  | .choice c a b => do if (← value c).holds then value a else value b
  | .both a b => do
    if (← value a).holds then return .ofBool (← value b).holds else return .ofBool false
  | .either a b => do
    if (← value a).holds then return .ofBool true else return .ofBool (← value b).holds
  | .negation e => return .ofBool !(← value e).holds
  | .member t keys => do
    let k ← keyOfAll (← values keys)
    return .ofBool (← onTable (← tableNumber t) (·.look k))
  | .fits isNegated e pattern => do
    let text ← textOf (← value e)
    return .ofBool ((← matcher pattern).occursIn text != isNegated)
  | .compare r a b => do
    let x ← value a
    let y ← value b
    let conversion ← settingText "CONVFMT"
    return .ofBool (r.holds (numberText conversion) x y)
  | .join a b => do
    let x ← textOf (← value a)
    return .text (x ++ (← textOf (← value b)))
  | .combine op a b => do
    let x := (← value a).toNumber
    return .number (op.apply x (← value b).toNumber)
  | .opposite e => return .number (-(← value e).toNumber)
  | .asNumber e => return .number (← value e).toNumber
  | .step p isBefore isUp => do
    let place ← spot p
    let old := (← place.read).toNumber
    let new := if isUp then old + 1 else old - 1
    place.write (.number new)
    return .number (if isBefore then new else old)
  | .call f args => do
    let locals := ((s.program.procedures[f]?).getD default).locals
    s.invoke f (← slots (locals.map (·.2)) args).toArray
  | .apply f args => do f.apply s.engine (← values args)
  | .lengthOf v => do
    match ← slot v with
    | .table n => return .ofNat (((← get).tables[n]?).elim 0 Table.size)
    | .value _ => return .ofNat (← textOf (← current v)).length
  | .split e t separator => do
    let text ← textOf (← value e)
    let between ← separatorOr separator
    let parts := (between.fields text).map Value.input
    changeTable (← tableNumber t) fun _ => .ofList parts
    return .ofNat parts.length
  | .replace all pattern new target => do
    let r ← matcher pattern
    let new ← textOf (← value new)
    let place ← (do pure ((← spotOr target).getD (.field 0)))
    let result := replaced all r new (← textOf (← place.read))
    if 0 < result.count then place.write (.text result.text)
    return .ofNat result.count
  | .locate e pattern => do
    let text ← textOf (← value e)
    let found := (← matcher pattern).find text 0
    let start := found.elim 0 (·.start + 1)
    setGlobal (special "RSTART") (.ofNat start)
    setGlobal (special "RLENGTH") (found.elim (.number (-1)) fun m => .ofNat m.length)
    return .ofNat start
  | .read source target => do
    let place ← spotOr target
    match source with
    | .main => taken place (← nextRecord s.program fileLimit)
    | .file e =>
      match ← readFile (← textOf (← value e)) with
      | .ok record => taken place record
      | .error _ => return .number (-1)
    | .command e => taken place (← readOutput s.engine (← textOf (← value e)))

/-- The values of expressions. -/
def values : List Expr → Working (List Value)
  | [] => return []
  | e :: es => do
    let v ← value e
    return v :: (← values es)

/-- What arguments of a function hold, given which of its variables are tables. -/
def slots : (tables : List Bool) → List Expr → Working (List Slot)
  | true :: tables, .place (.variable v) :: es => do
    let t ← tableNumber v
    return .table t :: (← slots tables es)
  | _ :: tables, e :: es => do
    let v ← value e
    return .value v :: (← slots tables es)
  | _, _ => return []

/-- Finds a place. A key that is not in its table comes into it. -/
def spot : Place → Working Spot
  | .variable v => return .variable v
  | .field e => return .field (← fieldNumber (← value e))
  | .element t keys => do
    let k ← keyOfAll (← values keys)
    let n ← tableNumber t
    touch n k
    return .element n k

/-- Finds a place if one is given. -/
def spotOr : Option Place → Working (Option Spot)
  | none => return none
  | some p => return some (← spot p)

/-- A regular expression. -/
def matcher : Matcher → Working Regex
  | .fixed r => return r
  | .computed e => do regexOf (← textOf (← value e))

/-- What stands between the parts of a text. -/
def separatorOr : Option Matcher → Working Separator
  | none => return (← get).separator
  | some (.fixed r) => return .regex r
  | some (.computed e) => do
    match Separator.ofText (← textOf (← value e)) with
    | .ok separator => return separator
    | .error text => fault text

end

/-! ### Statements -/

/-- What comes after a statement. -/
inductive Flow where
  /-- The next statement. -/
  | on
  /-- What comes after a loop. -/
  | behindLoop
  /-- The next round of a loop. -/
  | nextRound
  /-- What comes after a call, which has a value. -/
  | behindCall (v : Value)

/-- How many rounds a loop may have. -/
def roundLimit : Nat := 2000000

/-- Runs rounds until one tells what comes after the loop. -/
def rounds (round : Working (Option Flow)) : (room : Nat) → Working Flow
  | 0 => liftM (Act.never : Act Flow)
  | room + 1 => do
    match ← round with
    | some flow => return flow
    | none => rounds round room

/-- What a round comes to of which the statement was run: what comes after the loop, if that
comes next. -/
def afterRound : Flow → Option Flow
  | .on | .nextRound => none
  | .behindLoop => some .on
  | flow => some flow

/-- Runs a round for each of some keys. -/
def eachKey (round : List Char → Working Flow) : List (List Char) → Working Flow
  | [] => return .on
  | k :: ks => do
    match afterRound (← round k) with
    | some flow => return flow
    | none => eachKey round ks

/-- Writes values, by a format or between separators. -/
def output (hasFormat : Bool) (args : List Value) (target : Option (Sending × List Char)) :
    Working Unit := do
  if hasFormat then
    let (text, fault?) ← formatted "printf" args
    write target text
    fault?.forM fault
  else
    let texts ← if args.isEmpty then do pure [← recordText] else args.mapM outputOf
    let between ← settingText "OFS"
    write target (between.intercalate texts ++ (← settingText "ORS"))

mutual

/-- Runs a statement. -/
def perform : Statement → Working Flow
  | .expr e => do
    let _ ← value s e
    return .on
  | .print hasFormat args target => do
    let args ← values s args
    let target ← match target with
      | some (way, e) => do pure (some (way, ← textOf (← value s e)))
      | none => pure none
    output hasFormat args target
    return .on
  | .branch c yes no => do
    if (← value s c).holds then perform yes else performMaybe no
  | .loop asksFirst c body => do
    let asked (isDue : Bool) : Working (Option Flow) := do
      if !isDue then return none
      if (← value s c).holds then return none else return some .on
    let round : Working (Option Flow) := do
      match ← asked asksFirst with
      | some flow => return some flow
      | none =>
        match afterRound (← perform body) with
        | some flow => return some flow
        | none => asked !asksFirst
    rounds round roundLimit
  | .rounds first c step body => do
    let _ ← performMaybe first
    let round : Working (Option Flow) := do
      let goesOn ← match c with
        | some c => do pure (← value s c).holds
        | none => pure true
      if !goesOn then return some .on
      match afterRound (← perform body) with
      | some flow => return some flow
      | none =>
        let _ ← performMaybe step
        return none
    rounds round roundLimit
  | .each v t body => do
    let keys ← onTable (← tableNumber t) Table.keys
    let round (k : List Char) : Working Flow := do
      setVariable v (.text k)
      perform body
    eachKey round keys
  | .block ss => performAll ss
  | .next isFile => throw (.next isFile)
  | .exit e => do
    if let some e := e then
      let status := wholeOf (← value s e).toNumber
      modify fun p => { p with status }
    throw .exits
  | .give e => do
    match e with
    | some e => return .behindCall (← value s e)
    | none => return .behindCall .unset
  | .leave => return .behindLoop
  | .again => return .nextRound
  | .remove t keys => do
    let k ← keyOfAll (← values s keys)
    changeTable (← tableNumber t) (·.erase k)
    return .on
  | .clear t => do
    changeTable (← tableNumber t) fun _ => {}
    return .on

/-- Runs a statement if there is one. -/
def performMaybe : Option Statement → Working Flow
  | none => return .on
  | some st => perform st

/-- Runs statements one after the other. -/
def performAll : List Statement → Working Flow
  | [] => return .on
  | st :: ss => do
    match ← perform st with
    | .on => performAll ss
    | flow => return flow

end

/-! ### Calls -/

/-- How many variables all functions at work may have. -/
def depthLimit : Nat := 1006

/-- Calls a function with what its first variables hold. The others are not set, and tables are
empty. -/
def callProcedure (f : Nat) (given : Array Slot) : Working Value := do
  let procedure := (s.program.procedures[f]?).getD default
  let outer ← get
  let tables := outer.tables.size
  let depth := outer.depth + procedure.locals.length
  if depthLimit < depth then fail "program limit exceeded: eval stack size=1024".toList
  let fresh := procedure.locals.drop given.size
  let count := (fresh.filter (·.2)).length
  let (added, _) := fresh.foldl (fun ((slots, n) : Array Slot × Nat) (_, isTable) =>
    if isTable then (slots.push (.table n), n + 1) else (slots.push (.value .unset), n))
    (#[], tables)
  let own := outer.own
  modify fun p => { p with
    own := given ++ added
    depth
    tables := p.tables ++ Array.replicate count {} }
  let flow ← perform s procedure.body
  modify fun p => { p with
    own, depth := p.depth - procedure.locals.length, tables := p.tables.take tables }
  match flow with
  | .behindCall v => return v
  | _ => return .unset

end

/-- How deep calls may go. -/
def callDepth : Nat := 2000

/-- What a program works with whose calls go so deep. One that would have to go deeper is ended
by the system. -/
def Setting.toDepth (engine : Engine) (program : Program) : Nat → Setting
  | 0 => ⟨engine, program, fun _ _ => liftM (throw (Stop.killed 11) : Act Value)⟩
  | depth + 1 => ⟨engine, program, callProcedure (toDepth engine program depth)⟩

end ParserConformance.Script.Awk
