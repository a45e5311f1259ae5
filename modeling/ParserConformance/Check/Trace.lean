import ParserConformance.Check.Failure
import ParserConformance.Corpus.Format
import ParserConformance.Outline.Comparison
import ParserConformance.Outline.OfParseTree
import ParserConformance.Parser.Artifact

/-!
# Checking a fixture

A check goes through stages: a fixture that is fit to be run is parsed, then its parse is
compared. What can be said without the parser is said first.
-/

namespace ParserConformance.Check

open Corpus (Fixture)

/-- How far a check has come. -/
inductive Stage where
  /-- Not begun. -/
  | pending
  /-- The parser is at work. -/
  | parsing
  /-- The parse is compared. -/
  | comparing
  /-- Ended: as expected. -/
  | passed
  /-- Ended: not as expected. -/
  | failed
  /-- Ended: the parser gave no tree. -/
  | crashed
  /-- Ended: not run. -/
  | skipped
  deriving DecidableEq, Repr

/-- Whether a check may go on from one stage to another. -/
def Stage.mayBecome : Stage → Stage → Bool
  | .pending, .parsing => true
  | .pending, .skipped => true
  | .pending, .failed => true
  | .parsing, .comparing => true
  | .parsing, .crashed => true
  | .comparing, .passed => true
  | .comparing, .failed => true
  | _, _ => false

/-- A check that has ended. -/
structure Trace where
  /-- The stages in order. -/
  stages : List Stage
  /-- What it came to. -/
  verdict : Verdict
  /-- How long it took, in milliseconds. -/
  duration : Nat
  deriving DecidableEq, Repr

/-- The tree that an answer gives for comparison. An answer at the very limit comes too late. -/
def treeOf (timeout : Option Nat) (a : Answer) : Except Crash ParseTree :=
  match timeout with
  | some limit => if limit ≤ a.delay then .error (.timedOut limit) else treeOfReply a.reply
  | none => treeOfReply a.reply
where
  /-- The tree of a reply that came in time. -/
  treeOfReply : Reply → Except Crash ParseTree
    | .tree t => if depthLimit < t.depth then .error (.tooDeep depthLimit) else .ok t
    | .error message => .error (.reported message)
    | .breakdown payload => .error (.brokeDown payload)

/-- How long a check waits for an answer. -/
def waitingTime (timeout : Option Nat) (a : Answer) : Nat :=
  match timeout with
  | some limit => min limit a.delay
  | none => a.delay

/-- What the comparison of a parse comes to: with the expected tree, or, if there is none, with
the demand for error nodes. Spans are compared where the expectation has any. -/
def compareTree (expected : Option Outline) (t : ParseTree) : Except Mismatch Unit :=
  match expected with
  | some e => Outline.compare e (t.outline e.carriesSpans)
  | none =>
    let actual := t.outline false
    if actual.hasErrors then .ok () else .error (.errorsWanted actual)

/-- The check of a fixture from the parser on. -/
def parseAndCompare (timeout : Option Nat) (a : Answer) (expected : Option Outline) : Trace :=
  match treeOf timeout a with
  | .error crash =>
    ⟨[.pending, .parsing, .crashed], .failed (.crash crash), waitingTime timeout a⟩
  | .ok t =>
    match compareTree expected t with
    | .ok () => ⟨[.pending, .parsing, .comparing, .passed], .passed, waitingTime timeout a⟩
    | .error m =>
      ⟨[.pending, .parsing, .comparing, .failed], .failed (.mismatch m), waitingTime timeout a⟩

/-- What a check has to do. -/
inductive Plan where
  /-- Nothing: what it comes to is known without the parser, unless the corpus format breaks
  down over the fixture. -/
  | settled (trace : Option Trace)
  /-- To have the source parsed, and to compare the parse with a tree, if there is one. -/
  | parse (expected : Option Outline)
  deriving Repr

/-- What the check of a fixture has to do. -/
def plan (format : Corpus.Format) (f : Fixture) : Plan :=
  match f.flaw with
  | some flaw => .settled (some ⟨[.pending, .failed], .failed (.malformed flaw), 0⟩)
  | none =>
    if f.switches.skip then .settled (some ⟨[.pending, .skipped], .skipped, 0⟩)
    else if f.switches.error then .parse none
    else
      match format.readExpected f with
      | .breakdown => .settled none
      | .complaint text =>
        .settled (some ⟨[.pending, .failed], .failed (.malformed (.expectation text)), 0⟩)
      | .tree t => .parse (some t)

/-- The disk after a parse: as the parser leaves it, or as it is when the parser is stopped
because its answer comes too late. -/
def diskAfter (timeout : Option Nat) (parser : Parser) (disk : Disk) (source : String)
    (reply : Answer × Disk) : Disk :=
  match timeout with
  | some limit =>
    if limit ≤ reply.1.delay then parser.stopped limit disk source else reply.2
  | none => reply.2

/-- The check of a fixture with a parser, and the disk afterwards. There is no trace if the
corpus format breaks down over the fixture. -/
def run (format : Corpus.Format) (timeout : Option Nat) (parser : Parser) (disk : Disk)
    (f : Fixture) : Option Trace × Disk :=
  match plan format f with
  | .settled trace => (trace, disk)
  | .parse expected =>
    let reply := parser.answer disk f.source
    (some (parseAndCompare timeout reply.1 expected),
      diskAfter timeout parser disk f.source reply)

end ParserConformance.Check
