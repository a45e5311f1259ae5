import ParserConformance.Loader.Basic

/-!
# What the operations of a loader do

Creating and evicting only touch the paths and add empty cells. One stage of a load changes the
content of one cell, and `Stage` lists all that it can do to the cell and the counters. Where no kind
hangs, three stages bring a load to its outcome.
-/

namespace ParserConformance

namespace Cell

/-- Whether somebody is loading it. -/
def isLoading : Cell → Bool
  | .loading _ => true
  | _ => false

/-- Whether somebody is loading it and a kind has been found for the artifact. -/
def isOpening : Cell → Bool
  | .loading (.reading ..) | .loading (.opening ..) => true
  | _ => false

theorem eq_filled_of_outcome? {c : Cell} {o : LoadOutcome} (h : c.outcome? = some o) :
    c = .filled o := by
  cases c with
  | filled o' => rw [Option.some.inj h]
  | empty | loading _ => cases h

/-- A cell has one handle at most. -/
theorem handle_unique {c : Cell} {handle handle' : Handle} (h : c = .filled (.ok handle))
    (h' : c = .filled (.ok handle')) : handle = handle' := by
  rw [h] at h'
  exact Except.ok.inj (filled.inj h')

end Cell

namespace Loader

/-! ### Cells -/

theorem cell_setCell_self {l : Loader} {i : Nat} (h : i < l.cells.length) (c : Cell) :
    (l.setCell i c).cell i = c := by
  rw [cell, setCell, List.getD_eq_getElem?_getD, List.getElem?_set_self h]
  rfl

theorem cell_setCell_ne {i j : Nat} (h : i ≠ j) (l : Loader) (c : Cell) :
    (l.setCell i c).cell j = l.cell j := by
  rw [cell, setCell, List.getD_eq_getElem?_getD, List.getElem?_set_ne h, ← List.getD_eq_getElem?_getD]
  rfl

theorem cell_eq_empty {l : Loader} {i : Nat} (h : l.cells.length ≤ i) : l.cell i = .empty := by
  rw [cell, List.getD_eq_getElem?_getD, List.getElem?_eq_none h]
  rfl

/-! ### Paths -/

theorem exists_place_of_cellAt? {l : Loader} {key : Path} {i : Nat} (h : l.cellAt? key = some i) :
    ∃ e ∈ l.places, e.2 = i := by
  obtain ⟨e, he, hi⟩ := Option.map_eq_some_iff.1 h
  exact ⟨e, List.mem_of_find?_eq_some he, hi⟩

theorem create_of_some {l : Loader} {disk : Disk} {path : Path} {i : Nat}
    (h : l.cellAt? (keyOf disk path) = some i) :
    l.create disk path = (l, ⟨path, keyOf disk path, i⟩) := by
  simp only [create, h]

theorem create_of_none {l : Loader} {disk : Disk} {path : Path}
    (h : l.cellAt? (keyOf disk path) = none) :
    l.create disk path =
      ({ l with
          places := ((keyOf disk path).course, l.cells.length) :: l.places
          cells := l.cells ++ [.empty] }, ⟨path, keyOf disk path, l.cells.length⟩) := by
  simp only [create, h]

theorem length_le_create (l : Loader) (disk : Disk) (path : Path) :
    l.cells.length ≤ (l.create disk path).1.cells.length := by
  cases h : l.cellAt? (keyOf disk path) with
  | some i => exact Nat.le_of_eq (by rw [create_of_some h])
  | none => simp [create_of_none h]

/-- Creating a ticket changes the content of no cell. -/
theorem cell_create (l : Loader) (disk : Disk) (path : Path) (i : Nat) :
    (l.create disk path).1.cell i = l.cell i := by
  cases h : l.cellAt? (keyOf disk path) with
  | some j => rw [create_of_some h]
  | none =>
    rw [create_of_none h, cell, cell, List.getD_eq_getElem?_getD, List.getD_eq_getElem?_getD]
    rcases Nat.lt_trichotomy i l.cells.length with hi | rfl | hi
    · rw [List.getElem?_append_left hi]
    · simp
    · have : (l.cells ++ [Cell.empty]).length ≤ i := by
        rw [List.length_append]
        exact hi
      rw [List.getElem?_eq_none this, List.getElem?_eq_none (Nat.le_of_lt hi)]

section

variable {l : Loader} (h : ∀ e ∈ l.places, e.2 < l.cells.length) (disk : Disk) (path : Path)

include h

/-- Paths go on leading to cells that exist. -/
theorem places_create_lt :
    ∀ e ∈ (l.create disk path).1.places, e.2 < (l.create disk path).1.cells.length := by
  cases hp : l.cellAt? (keyOf disk path) with
  | some i =>
    rw [create_of_some hp]
    exact h
  | none =>
    rw [create_of_none hp]
    intro e he
    rw [List.length_append]
    rcases List.mem_cons.1 he with rfl | he
    · exact Nat.lt_succ_self _
    · exact Nat.lt_succ_of_lt (h e he)

/-- A ticket names a cell that exists. -/
theorem cell_create_lt : (l.create disk path).2.cell < (l.create disk path).1.cells.length := by
  cases hp : l.cellAt? (keyOf disk path) with
  | some i =>
    obtain ⟨e, he, rfl⟩ := exists_place_of_cellAt? hp
    rw [create_of_some hp]
    exact h e he
  | none =>
    rw [create_of_none hp, List.length_append]
    exact Nat.lt_succ_self _

end

/-- After an evict no cell is found for the path as long as the disk is the same. -/
theorem cellAt?_evict (l : Loader) (disk : Disk) (path : Path) :
    (l.evict disk path).1.cellAt? (keyOf disk path) = none := by
  rw [cellAt?, evict, Option.map_eq_none_iff, List.find?_eq_none]
  intro e he
  have := (List.mem_filter.1 he).2
  simpa using this

/-! ### Loads -/

/-- Whether the next stage of the load of a cell finds a kind for the artifact. -/
def findsKind (l : Loader) (disk : Disk) (p : Ticket) : Bool :=
  match l.cell p.cell with
  | .loading .locating =>
    match Artifact.locate disk p.key with
    | .ok artifact => (l.kindFor? disk artifact).isSome
    | .error _ => false
  | _ => false

/-- What a stage of the load of the cell `i` may do, and whether it finds a kind. -/
inductive Stage (l : Loader) (i : Nat) : LoadStage → (found : Bool) → Loader → Prop where
  /-- It does not end. -/
  | hangs {stage : LoadStage} : Stage l i stage false l
  /-- The load fails. -/
  | fails {stage : LoadStage} (error : LoadProblem) :
      Stage l i stage false (l.setCell i (.filled (.error error)))
  /-- A kind is found, and the load counts. -/
  | finds (artifact : Artifact) (kind : Nat) :
      Stage l i .locating true
        ({ l with loads := l.loads + 1 }.setCell i (.loading (.reading artifact kind)))
  /-- The artifact is read. -/
  | reads (artifact : Artifact) (kind : Nat) (attempts : List Nat) (attempt : Nat)
      (fingerprint : String) :
      Stage l i (.reading artifact kind) false
        ({ l with attempts }.setCell i (.loading (.opening artifact kind attempt fingerprint)))
  /-- The parser is made and gets the next number. -/
  | makes {artifact : Artifact} {kind attempt : Nat} {fingerprint : String} (handle : Handle)
      (id : handle.id = l.issued + 1) :
      Stage l i (.opening artifact kind attempt fingerprint) false
        ({ l with issued := l.issued + 1 }.setCell i (.filled (.ok handle)))

theorem stage_advance {l : Loader} {p : Ticket} {stage : LoadStage} (disk : Disk)
    (h : l.cell p.cell = .loading stage) :
    Stage l p.cell stage (l.findsKind disk p) (l.advance disk p) := by
  rw [findsKind, advance, h]
  cases stage with
  | locating =>
    simp only
    cases Artifact.locate disk p.key with
    | error error => exact .fails error
    | ok artifact =>
      simp only
      cases l.kindFor? disk artifact with
      | none => exact .fails _
      | some kind => exact .finds artifact kind
  | reading artifact kind =>
    simp only
    cases artifact.fingerprint disk with
    | error error => exact .fails error
    | ok fingerprint => exact .reads ..
  | opening artifact kind attempt fingerprint =>
    simp only
    cases l.kinds[kind]? with
    | none => exact .hangs
    | some f =>
      simp only
      cases f.make attempt disk artifact with
      | hanging => exact .hangs
      | refused error => exact .fails error
      | ready parser => exact .makes _ rfl

/-- Only the cell `i` and the counters may have changed. -/
structure ChangesOnly (i : Nat) (l l' : Loader) : Prop where
  /-- The kinds are the same. -/
  kinds : l'.kinds = l.kinds
  /-- So are the paths. -/
  places : l'.places = l.places
  /-- There are as many cells. -/
  length : l'.cells.length = l.cells.length
  /-- The others have the same content. -/
  cell : ∀ j, i ≠ j → l'.cell j = l.cell j

theorem ChangesOnly.refl {l : Loader} {i : Nat} : ChangesOnly i l l := ⟨rfl, rfl, rfl, fun _ _ => rfl⟩

theorem ChangesOnly.trans {l l' l'' : Loader} {i : Nat} (h : ChangesOnly i l l')
    (h' : ChangesOnly i l' l'') : ChangesOnly i l l'' :=
  ⟨h'.kinds.trans h.kinds, h'.places.trans h.places, h'.length.trans h.length,
    fun j hj => (h'.cell j hj).trans (h.cell j hj)⟩

theorem changesOnly_setCell (l : Loader) (i : Nat) (c : Cell) : ChangesOnly i l (l.setCell i c) :=
  ⟨rfl, rfl, List.length_set, fun _ hj => cell_setCell_ne hj l c⟩

theorem Stage.changesOnly {l l' : Loader} {i : Nat} {stage : LoadStage} {found : Bool}
    (h : Stage l i stage found l') : ChangesOnly i l l' := by
  cases h with
  | hangs => exact .refl
  | fails | finds | reads | makes =>
    exact ⟨rfl, rfl, List.length_set, fun _ hj => cell_setCell_ne hj _ _⟩

/-- After a stage the load goes on or has an outcome. -/
theorem Stage.goes_on_or_filled {l l' : Loader} {i : Nat} {stage : LoadStage} {found : Bool}
    (h : Stage l i stage found l') (hc : l.cell i = .loading stage) (hi : i < l.cells.length) :
    (∃ stage', l'.cell i = .loading stage') ∨ ∃ o, l'.cell i = .filled o := by
  cases h with
  | hangs => exact .inl ⟨stage, hc⟩
  | finds | reads => exact .inl ⟨_, cell_setCell_self hi _⟩
  | fails | makes => exact .inr ⟨_, cell_setCell_self hi _⟩

theorem begin_of_empty {l : Loader} {p : Ticket} (h : l.cell p.cell = .empty) :
    l.begin p = l.setCell p.cell (.loading .locating) := by
  simp only [begin, h]

theorem cancel_of_loading {l : Loader} {p : Ticket} {stage : LoadStage}
    (h : l.cell p.cell = .loading stage) : l.cancel p = l.setCell p.cell .empty := by
  simp only [cancel, h]

end Loader

/-! ### Loads that end -/

/-- A kind always comes to something when it makes a parser. -/
def ArtifactKind.IsPrompt (k : ArtifactKind) : Prop :=
  ∀ attempt disk a, k.make attempt disk a ≠ .hanging

namespace Loader

/-- No load of the loader hangs, and none is under way. -/
structure IsPrompt (l : Loader) : Prop where
  /-- Its kinds always come to something. -/
  kinds : ∀ k ∈ l.kinds, k.IsPrompt
  /-- Paths lead to cells that exist. -/
  places : ∀ e ∈ l.places, e.2 < l.cells.length
  /-- Nobody is loading a cell. -/
  idle : ∀ i, (l.cell i).isLoading = false

/-- The cell `i` has its outcome, or will have it after `n` stages at most. -/
inductive EndsWithin (l : Loader) (i : Nat) : Nat → Prop where
  /-- It has its outcome. -/
  | filled {n : Nat} {o : LoadOutcome} (h : l.cell i = .filled o) : EndsWithin l i n
  /-- The parser has to be made. -/
  | opening {n kind attempt : Nat} {artifact : Artifact} {fingerprint : String}
    (h : l.cell i = .loading (.opening artifact kind attempt fingerprint))
    (known : kind < l.kinds.length) : EndsWithin l i (n + 1)
  /-- The artifact has to be read before that. -/
  | reading {n kind : Nat} {artifact : Artifact} (h : l.cell i = .loading (.reading artifact kind))
    (known : kind < l.kinds.length) : EndsWithin l i (n + 2)
  /-- It has to be found before that. -/
  | locating {n : Nat} (h : l.cell i = .loading .locating) : EndsWithin l i (n + 3)

section

variable {l l' l'' : Loader} {i n : Nat} {p : Ticket}

theorem advance_of_idle (h : (l.cell p.cell).isLoading = false) (disk : Disk) : l.advance disk p = l := by
  rw [advance]
  cases hc : l.cell p.cell with
  | empty | filled => rfl
  | loading stage =>
    rw [hc] at h
    cases h

theorem changesOnly_advance (l : Loader) (disk : Disk) (p : Ticket) :
    ChangesOnly p.cell l (l.advance disk p) := by
  cases hc : l.cell p.cell with
  | loading stage => exact (stage_advance disk hc).changesOnly
  | empty | filled =>
    rw [advance_of_idle (by rw [hc]; rfl)]
    exact .refl

/-- Each stage brings a load closer to its end if no kind hangs. -/
theorem EndsWithin.advance (hkinds : ∀ k ∈ l.kinds, k.IsPrompt) (hp : p.cell < l.cells.length)
    (h : l.EndsWithin p.cell (n + 1)) (disk : Disk) : (l.advance disk p).EndsWithin p.cell n := by
  cases h with
  | filled h =>
    rw [advance_of_idle (by rw [h]; rfl)]
    exact .filled h
  | @opening _ kind attempt artifact _ h known =>
    rw [Loader.advance, h]
    simp only [List.getElem?_eq_getElem known]
    cases hmake : l.kinds[kind].make attempt disk artifact with
    | hanging => exact absurd hmake (hkinds _ (List.getElem_mem known) _ _ _)
    | refused | ready => exact .filled (cell_setCell_self hp _)
  | @reading _ _ artifact h known =>
    rw [Loader.advance, h]
    simp only
    cases artifact.fingerprint disk with
    | error => exact .filled (cell_setCell_self hp _)
    | ok => exact .opening (cell_setCell_self hp _) known
  | locating h =>
    rw [Loader.advance, h]
    simp only
    cases Artifact.locate disk p.key with
    | error => exact .filled (cell_setCell_self hp _)
    | ok artifact =>
      simp only
      cases hkind : l.kindFor? disk artifact with
      | none => exact .filled (cell_setCell_self hp _)
      | some kind =>
        obtain ⟨known, -⟩ := List.findIdx?_eq_some_iff_getElem.1 hkind
        exact .reading (cell_setCell_self hp _) known

theorem EndsWithin.exists_outcome? (h : l.EndsWithin i 0) : ∃ o, (l.cell i).outcome? = some o := by
  cases h with
  | filled h => exact ⟨_, by rw [h]; rfl⟩

theorem IsPrompt.endsWithin_begin (h : l.IsPrompt) (hp : p.cell < l.cells.length) :
    ChangesOnly p.cell l (l.begin p) ∧ (l.begin p).EndsWithin p.cell 3 := by
  cases hc : l.cell p.cell with
  | empty =>
    rw [begin_of_empty hc]
    exact ⟨changesOnly_setCell .., .locating (cell_setCell_self hp _)⟩
  | loading =>
    have := h.idle p.cell
    rw [hc] at this
    cases this
  | filled =>
    rw [begin, hc]
    exact ⟨.refl, .filled hc⟩

/-- A stage needs the kinds and the number of the cells, and changes neither. -/
theorem IsPrompt.endsWithin_advance (h : l.IsPrompt) (hp : p.cell < l.cells.length) (disk : Disk)
    (hl : ChangesOnly p.cell l l' ∧ l'.EndsWithin p.cell (n + 1)) :
    ChangesOnly p.cell l (l'.advance disk p) ∧ (l'.advance disk p).EndsWithin p.cell n := by
  obtain ⟨hchanges, hends⟩ := hl
  exact ⟨hchanges.trans (changesOnly_advance l' disk p),
    hends.advance (hchanges.kinds ▸ h.kinds) (hchanges.length ▸ hp) disk⟩

/-- Once the load of the one cell that may have changed has ended, nobody is loading a cell. -/
theorem IsPrompt.of_changesOnly (h : l.IsPrompt) (hchanges : ChangesOnly i l l') {o : LoadOutcome}
    (ho : (l'.cell i).outcome? = some o) : l'.IsPrompt := by
  refine ⟨hchanges.kinds ▸ h.kinds, ?_, fun j => ?_⟩
  · rw [hchanges.places, hchanges.length]
    exact h.places
  · by_cases hj : i = j
    · subst hj
      rw [Cell.eq_filled_of_outcome? ho]
      rfl
    · rw [hchanges.cell j hj]
      exact h.idle j

/-- Where no load hangs, every ticket for a cell that exists is resolved. -/
theorem IsPrompt.exists_resolve_eq (h : l.IsPrompt) (hp : p.cell < l.cells.length) (disk : Disk) :
    ∃ l' o, l.resolve disk p = (l', some o) ∧ l'.IsPrompt := by
  obtain ⟨hchanges, hends⟩ := h.endsWithin_advance hp disk
    (h.endsWithin_advance hp disk (h.endsWithin_advance hp disk (h.endsWithin_begin hp)))
  obtain ⟨o, ho⟩ := hends.exists_outcome?
  exact ⟨_, o, congrArg _ ho, h.of_changesOnly hchanges ho⟩

theorem IsPrompt.create (h : l.IsPrompt) (disk : Disk) (path : Path) : (l.create disk path).1.IsPrompt := by
  refine ⟨?_, places_create_lt h.places disk path, fun i => ?_⟩
  · cases hc : l.cellAt? (keyOf disk path) with
    | some => rw [create_of_some hc]; exact h.kinds
    | none => rw [create_of_none hc]; exact h.kinds
  · rw [cell_create]
    exact h.idle i

/-- A path for which a ticket is made is loaded. -/
theorem IsPrompt.exists_resolve_create (h : l.IsPrompt) (disk : Disk) (path : Path) :
    ∃ l' o, (l.create disk path).1.resolve disk (l.create disk path).2 = (l', some o) ∧ l'.IsPrompt :=
  (h.create disk path).exists_resolve_eq (cell_create_lt h.places disk path) disk

theorem isPrompt_new {kinds : List ArtifactKind} (h : ∀ k ∈ kinds, k.IsPrompt) : (new kinds).IsPrompt :=
  ⟨h, nofun, fun _ => rfl⟩

end

end Loader

end ParserConformance
