import ParserConformance.Script.Arithmetic
import ParserConformance.Script.Tool.Sorting

/-!
# Orders from pairs

`tsort` puts words in an order in which the first word of each pair comes before the second.
-/

namespace ParserConformance.Script.Tool.Topology

/-- A word with what comes before and behind it. -/
structure Item where
  /-- The word. -/
  word : List Char
  /-- How many words still have to come before it. -/
  waits : Nat
  /-- The words that have to come behind it, the last one that was read first. -/
  followers : List (List Char)
  /-- Whether it is written. -/
  isDone : Bool

/-- Words in their order, each once. -/
abbrev Graph := List Item

namespace Graph

/-- Changes the item of a word. -/
def change (g : Graph) (word : List Char) (f : Item → Item) : Graph :=
  g.map fun i => if i.word = word then f i else i

/-- The item of a word. -/
def find? (g : Graph) (word : List Char) : Option Item := List.find? (·.word = word) g

/-- The graph of pairs of words. -/
def ofPairs (pairs : List (List Char × List Char)) : Graph :=
  let words := ((pairs.flatMap fun (a, b) => [a, b]).eraseDups).mergeSort fun a b =>
    Sorting.compareTexts a b ≠ .gt
  let start : Graph := words.map (⟨·, 0, [], false⟩)
  pairs.foldl (fun g (a, b) =>
    if a = b then g
    else
      (change g b fun i => { i with waits := i.waits + 1 }).change a fun i =>
        { i with followers := b :: i.followers }) start

/-- Writes the words of a queue and those that wait for nothing else then. -/
def drain : (room : Nat) → (queue : List (List Char)) → Graph → List (List Char) × Graph
  | 0, _, g => ([], g)
  | _ + 1, [], g => ([], g)
  | room + 1, word :: queue, g =>
    let followers := ((g.find? word).map (·.followers)).getD []
    let g := g.change word fun i => { i with isDone := true }
    let (queue, g) := followers.foldl (fun (queue, g) f =>
      let g := change g f fun i => { i with waits := i.waits - 1 }
      if (find? g f).any (·.waits = 0) then (queue ++ [f], g) else (queue, g)) (queue, g)
    let (words, g) := drain room queue g
    (word :: words, g)

/-- A chain of words, each of which has to come before the next one, from a word backwards, until
one comes twice. -/
def chainTo (g : Graph) : (room : Nat) → (chain : List (List Char)) → List (List Char)
  | 0, chain => chain
  | room + 1, chain =>
    let head := chain.headD []
    match List.find? (fun i => !i.isDone && 0 < i.waits && i.followers.contains head) g with
    | none => chain
    | some i => if chain.contains i.word then i.word :: chain else chainTo g room (i.word :: chain)

/-- The first loop in the graph: its words in their order. -/
def loop? (g : Graph) : Option (List (List Char)) :=
  (List.find? (fun i => !i.isDone && 0 < i.waits) g).bind fun i =>
    match chainTo g (g.length + 1) [i.word] with
    | [] => none
    | first :: chain =>
      some (first :: chain.takeWhile (· ≠ first))

/-- Writes all words. A loop is told of and broken at its end. -/
def order : (room : Nat) → Graph → List (List Char) × List (List (List Char))
  | 0, _ => ([], [])
  | room + 1, g =>
    let ready := (g.filter fun i => !i.isDone && i.waits = 0).map (·.word)
    let (words, g) := drain (g.length + 1) ready g
    match g.loop? with
    | none => (words, [])
    | some members =>
      let last := members.getLast?.getD []
      let first := members.headD []
      let g := g.change last fun i => { i with followers := i.followers.erase first }
      let g := g.change first fun i => { i with waits := i.waits - 1 }
      let (more, loops) := order room g
      (words ++ more, members :: loops)

end Graph

/-- The words of a text. -/
def wordsOf (cs : List Char) : List (List Char) :=
  (cs.splitBy fun a b => isSpaceChar a == isSpaceChar b).filter fun w =>
    !w.head?.any isSpaceChar

/-- Words two by two; nothing if one is left over. -/
def pairsOf? : List (List Char) → Option (List (List Char × List Char))
  | [] => some []
  | [_] => none
  | a :: b :: rest => (pairsOf? rest).map ((a, b) :: ·)

/-- Puts words in an order in which the first word of each pair comes before the second. -/
def tsort : Tool := withOptions {} 1 fun c o =>
  match o.operands.drop 1 with
  | extra :: _ => .ofMisuse c 1 ("extra operand ".toList ++ quoted extra)
  | [] =>
    let name := o.operands.headD ['-']
    let e := match contentOf c name with
      | .error .isDirectory =>
        Effect.ofComplaint c 1 (name ++ ": read error: Is a directory".toList)
      | .error t => .ofComplaint c 1 (fileComplaint name t)
      | .ok text =>
        match pairsOf? (wordsOf text) with
        | none => .ofComplaint c 1 (name ++ ": input contains an odd number of tokens".toList)
        | some pairs =>
          let (words, loops) := (Graph.ofPairs pairs).order (pairs.length + 1)
          loops.foldl (fun e members =>
            members.foldl (fun e word => e.complain c 1 word)
              (e.complain c 1 (name ++ ": input contains a loop:".toList)))
            (Effect.ofOutput c (unlines words))
    if isInput name then e.takingAll c else e

end ParserConformance.Script.Tool.Topology
