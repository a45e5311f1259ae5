import ParserConformance.Parser.Program
import ParserConformance.Proofs.Annotation.Reading
import ParserConformance.Proofs.Check.Ruling
import ParserConformance.Proofs.ParseTree.Wire
import ParserConformance.Script.Run

/-!
# How deep a printed tree may nest

A parse tree may have 256 levels, and a check turns a deeper one down. A tree that a program prints
has to be read first, though, and reading turns down a text that has more than 127 brackets open at
once. Each level of a tree takes two of them, so that 64 levels are already too many: for programs
reading sets the limit, far below the one that a check sets.

## Main statement

* `Check.verdict?_of_prints`: what a check makes of a tree that a program prints, whatever its depth and
  whatever host runs the program.
-/

namespace ParserConformance

namespace Program

/-- A host runs the program at a path on a source, and it ends without complaint and has printed the
JSON of a tree. -/
structure Prints (host : Host) (disk : Disk) (path : Path) (call : Call) (source : String)
    (t : ParseTree) (result : Result) : Prop where
  /-- It is run. -/
  run : host.run none disk path call (Text.encode source) = .ok result
  /-- It ends without complaint. -/
  ending : result.ending = .exited 0
  /-- Its output is the tree and nothing else. -/
  output : result.output = Text.encode t.encode.compact

/-- How many levels a tree that a program prints may have. -/
def printedLimit : Nat := 63

theorem two_mul_le_openLimit_iff {n : Nat} : 2 * n ≤ openLimit ↔ n ≤ printedLimit := by
  rw [openLimit, printedLimit]
  omega

/-- What is said of an output that is refused as a tree. -/
def refusalMessage (host : Host) (output : List UInt8) (refusal : Json.Refusal) : String :=
  "parser printed an invalid tree: " ++ host.wording output refusal

section

variable {host : Host} {disk : Disk} {path : Path} {call : Call} {source : String} {t : ParseTree}
  {result : Result}

theorem reply_of_tree (hending : result.ending = .exited 0)
    (h : ParseTree.decodeBytes result.output = .ok t) : reply host result = .tree t := by
  rw [reply, if_pos hending, h]

theorem reply_of_refusal {refusal : Json.Refusal} (hending : result.ending = .exited 0)
    (h : ParseTree.decodeBytes result.output = .error refusal) :
    reply host result = .error (refusalMessage host result.output refusal) := by
  rw [reply, if_pos hending, h]
  rfl

theorem Prints.decodeBytes_eq (h : Prints host disk path call source t result) (hfits : t.Fits) :
    ParseTree.decodeBytes result.output =
      if t.depth ≤ printedLimit then .ok t else .error .malformed := by
  rw [h.output, ParseTree.decodeBytes_text hfits, ParseTree.depth_eq_height]
  simp only [two_mul_le_openLimit_iff]

theorem Prints.reply_eq (h : Prints host disk path call source t result) (hfits : t.Fits) :
    reply host result =
      if t.depth ≤ printedLimit then .tree t
      else .error (refusalMessage host result.output .malformed) := by
  have hread := h.decodeBytes_eq hfits
  by_cases hdepth : t.depth ≤ printedLimit
  · rw [if_pos hdepth] at hread ⊢
    exact reply_of_tree h.ending hread
  · rw [if_neg hdepth] at hread ⊢
    exact reply_of_refusal h.ending hread

theorem Prints.answer_eq (h : Prints host disk path call source t result) (hfits : t.Fits) :
    ((parser host path call).answer disk source).1 =
      ⟨result.duration, if t.depth ≤ printedLimit then .tree t
        else .error (refusalMessage host result.output .malformed)⟩ := by
  simp only [parser, h.run, h.reply_eq hfits]

end

end Program

namespace Check

open Corpus (Fixture Format)
open Program (Call Host Prints Result printedLimit refusalMessage)

section

variable {format : Format} {timeout : Option Nat} {f : Fixture} {host : Host} {disk : Disk}
  {path : Path} {call : Call} {t : ParseTree} {result : Result}

theorem verdict?_of_deep (due : IsDue format f) (hb : ¬BreaksDown format f)
    (hprints : Prints host disk path call f.source t result) (hfits : t.Fits)
    (hinTime : InTime timeout ⟨result.duration, .tree t⟩) (hdeep : printedLimit < t.depth) :
    verdict? format timeout (Program.parser host path call) disk f =
      some (.failed (.crash (.reported (refusalMessage host result.output .malformed)))) := by
  have hanswer := hprints.answer_eq hfits
  rw [if_neg (Nat.not_le.2 hdeep)] at hanswer
  refine verdict?_of_ruling hb (.crashed due ?_)
  rw [hanswer]
  exact .reported hinTime rfl

theorem inTime_none (a : Answer) : InTime none a := fun _ h => nomatch h

/-- A tree that was given in time and is not too deep is no crash. -/
theorem not_isCrash {a : Answer} {crash : Crash} (hinTime : InTime timeout a) (hreply : a.reply = .tree t)
    (hdepth : t.depth ≤ depthLimit) : ¬IsCrash timeout a crash := by
  intro h
  cases h with
  | timedOut h late => exact absurd (hinTime _ h) (Nat.not_lt.2 late)
  | reported _ h => exact nomatch hreply.symm.trans h
  | brokeDown _ h => exact nomatch hreply.symm.trans h
  | tooDeep _ h deep =>
    obtain rfl := Reply.tree.inj (hreply.symm.trans h)
    exact absurd deep (Nat.not_lt.2 hdepth)

/-- A fixture crashes over a printed tree just if that has more than 63 levels, and then with a
message about the text and never about the levels. Any other tree is judged as if the parser had
answered with it. -/
theorem verdict?_of_prints (due : IsDue format f) (hb : ¬BreaksDown format f)
    (hprints : Prints host disk path call f.source t result) (hfits : t.Fits)
    (hinTime : InTime timeout ⟨result.duration, .tree t⟩) :
    ((∃ crash, verdict? format timeout (Program.parser host path call) disk f =
        some (.failed (.crash crash))) ↔ printedLimit < t.depth) ∧
      (printedLimit < t.depth → verdict? format timeout (Program.parser host path call) disk f =
        some (.failed (.crash (.reported (refusalMessage host result.output .malformed))))) ∧
      (t.depth ≤ printedLimit → ∃ v,
        verdict? format timeout (Program.parser host path call) disk f = some v ∧
          Ruling format timeout f ⟨result.duration, .tree t⟩ v) := by
  have hdeep := verdict?_of_deep due hb hprints hfits hinTime
  have hruling : t.depth ≤ printedLimit → ∃ v,
      verdict? format timeout (Program.parser host path call) disk f = some v ∧
        Ruling format timeout f ⟨result.duration, .tree t⟩ v := by
    intro hdepth
    have hanswer := hprints.answer_eq hfits
    rw [if_pos hdepth] at hanswer
    obtain ⟨v, hv⟩ := exists_ruling hb timeout ⟨result.duration, .tree t⟩
    exact ⟨v, verdict?_of_ruling hb (hanswer ▸ hv), hv⟩
  refine ⟨⟨fun ⟨crash, hcrash⟩ => ?_, fun h => ⟨_, hdeep h⟩⟩, hdeep, hruling⟩
  by_contra hdepth
  obtain ⟨v, hverdict, hv⟩ := hruling (Nat.not_lt.1 hdepth)
  obtain rfl := Option.some.inj (hverdict.symm.trans hcrash)
  cases hv with
  | crashed _ h => exact not_isCrash hinTime rfl (Nat.le_trans (Nat.not_lt.1 hdepth) (by decide)) h

end

/-! ### A program that prints a tree -/

/-- A node in `levels` further ones. -/
def tower (levels : Nat) : ParseTree := .nest (fun t => .rule "a" [t]) levels (.rule "a" [])

/-- A disk with a program that prints a tree: what stands below its first line. -/
def printerDisk (t : ParseTree) : Disk :=
  Disk.onSystem
    { here := []
      entries := [(["parser"], .file 0o755
        (Text.encode "#!/usr/bin/tail -n+2\n" ++ Text.encode t.encode.compact))] }

/-- A fixture that expects a node without children. -/
def towerFixture : Fixture where
  name := "tower"
  source := ""
  expected := "(a)"
  expectedLine := 5
  switches := ⟨false, false⟩
  origin := ⟨⟨"tower.txt"⟩, 1⟩
  flaw := none

theorem readExpected_towerFixture :
    Format.blockText.readExpected towerFixture = .tree (.node "a" none []) := by
  have hwritable : (Outline.node "a" none []).IsWritable := by decide +kernel
  have htext : (Outline.node "a" none []).text = "(a)" := by decide +kernel
  have hread : Annotation.read "(a)" = .ok (.node "a" none []) := by
    rw [← htext]
    exact Outline.read_text hwritable (by decide)
  exact Format.readExpected_blockText_eq_tree_iff.2 hread

theorem isDue_towerFixture : IsDue .blockText towerFixture where
  sound flaw h := by
    cases h with
    | marked h => cases h
    | expectation _ _ h =>
      rw [readExpected_towerFixture] at h
      cases h
  wanted := rfl

theorem not_breaksDown_towerFixture : ¬BreaksDown .blockText towerFixture := by
  rintro ⟨_, _, h⟩
  rw [readExpected_towerFixture] at h
  cases h

/-- Whether the program on the disk prints the tree. -/
def prints (t : ParseTree) : Bool :=
  match Script.host.run none (printerDisk t) ⟨"/parser"⟩ ⟨[], []⟩ (Text.encode towerFixture.source) with
  | .ok r => r.ending = .exited 0 && r.output = Text.encode t.encode.compact
  | .error _ => false

theorem exists_prints {t : ParseTree} (h : prints t = true) :
    ∃ result, Prints Script.host (printerDisk t) ⟨"/parser"⟩ ⟨[], []⟩ towerFixture.source t result := by
  rw [prints] at h
  split at h
  next r hrun =>
    rw [Bool.and_eq_true, decide_eq_true_eq, decide_eq_true_eq] at h
    exact ⟨r, hrun, h.1, h.2⟩
  next => cases h

/-- A tree of two levels is read, and the fixture is judged by it. -/
theorem verdict?_of_prints_tower : IsDue .blockText towerFixture ∧ ¬BreaksDown .blockText towerFixture ∧
    (tower 1).Fits ∧ ∃ result,
      Prints Script.host (printerDisk (tower 1)) ⟨"/parser"⟩ ⟨[], []⟩ towerFixture.source (tower 1) result ∧
      ¬∃ crash, verdict? .blockText none (Program.parser Script.host ⟨"/parser"⟩ ⟨[], []⟩)
        (printerDisk (tower 1)) towerFixture = some (.failed (.crash crash)) := by
  have hfits : (tower 1).Fits := by
    unfold ParseTree.Fits
    decide +kernel
  have hrun : prints (tower 1) = true := by
    rw [prints, printerDisk, ParseTree.encode_compact]
    decide +kernel
  obtain ⟨result, hprints⟩ := exists_prints hrun
  refine ⟨isDue_towerFixture, not_breaksDown_towerFixture, hfits, result, hprints, fun hcrash => ?_⟩
  have hdeep := (verdict?_of_prints isDue_towerFixture not_breaksDown_towerFixture hprints hfits
    (inTime_none _)).1.1 hcrash
  rw [ParseTree.depth_eq_height] at hdeep
  exact absurd hdeep (by decide)

set_option maxRecDepth 4096 in
/-- A check would allow four times as many levels as this tree has, yet the fixture crashes over it. -/
theorem verdict?_tower : (tower 63).depth = 64 ∧ 64 ≤ depthLimit ∧ ∃ result,
    Prints Script.host (printerDisk (tower 63)) ⟨"/parser"⟩ ⟨[], []⟩ towerFixture.source (tower 63) result ∧
      verdict? .blockText none (Program.parser Script.host ⟨"/parser"⟩ ⟨[], []⟩) (printerDisk (tower 63))
        towerFixture =
          some (.failed (.crash (.reported (refusalMessage Script.host result.output .malformed)))) := by
  have hdepth : (tower 63).depth = 64 := by
    rw [ParseTree.depth_eq_height]
    rfl
  have hfits : (tower 63).Fits := by
    unfold ParseTree.Fits
    decide +kernel
  have hrun : prints (tower 63) = true := by
    rw [prints, printerDisk, ParseTree.encode_compact]
    decide +kernel
  obtain ⟨result, hprints⟩ := exists_prints hrun
  have hdeep : printedLimit < (tower 63).depth := by
    rw [hdepth]
    decide
  exact ⟨hdepth, by decide, result, hprints, verdict?_of_deep isDue_towerFixture
    not_breaksDown_towerFixture hprints hfits (inTime_none _) hdeep⟩

end Check

end ParserConformance
