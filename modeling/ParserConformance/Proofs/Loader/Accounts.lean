import Mathlib.Tactic.ByContra
import ParserConformance.Proofs.List.Entries
import ParserConformance.Proofs.Loader.Stages

/-!
# What a loader has done

The loads that found a kind and the outcomes of loads are events. `Loader.Accounts` ties what a
loader holds to the events so far: its filled cells to the outcomes, the numbers of its handles to
their order, and the count of loads to the kinds that were found. Every operation of the loader
keeps the accounts in order.
-/

namespace ParserConformance.Loader

/-- Something that a load comes to. -/
inductive Event where
  /-- A kind is found for the artifact of a cell. -/
  | found (cell : Nat)
  /-- The load of a cell has an outcome. -/
  | filled (cell : Nat) (outcome : LoadOutcome)

namespace Event

/-- Whether a kind is found. -/
def isFound : Event → Bool
  | .found _ => true
  | _ => false

/-- The cell that gets its outcome. -/
def filledCell? : Event → Option Nat
  | .filled i _ => some i
  | _ => none

/-- The number of the handle that a cell gets. -/
def id? : Event → Option Nat
  | .filled _ (.ok handle) => some handle.id
  | _ => none

end Event

/-- The loader `l` is in a state to which the events `log` have led. -/
structure Accounts (l : Loader) (log : List Event) : Prop where
  /-- Paths lead to cells that exist. -/
  places : ∀ e ∈ l.places, e.2 < l.cells.length
  /-- A cell holds the outcome that it has got. -/
  filled : ∀ i o, .filled i o ∈ log ↔ l.cell i = .filled o
  /-- No cell gets an outcome twice. -/
  once : (log.filterMap Event.filledCell?).Nodup
  /-- Handles are numbered from one on, in the order in which they are made. -/
  ids : log.filterMap Event.id? = List.range' 1 l.issued
  /-- A load counts when its kind is found. -/
  found : log.countP Event.isFound = l.loads
  /-- Each handle comes from a load that counts and is no longer under way. -/
  balance : l.issued + l.cells.countP Cell.isOpening ≤ l.loads

theorem accounts_new (kinds : List ArtifactKind) : Accounts (new kinds) [] where
  places := fun e he => absurd he List.not_mem_nil
  filled := fun i o => by simp [new, cell]
  once := .nil
  ids := rfl
  found := rfl
  balance := Nat.le_refl _

/-! ### Paths -/

theorem Accounts.create {l : Loader} {log : List Event} (h : Accounts l log) (disk : Disk)
    (path : Path) : Accounts (l.create disk path).1 log := by
  cases hp : l.cellAt? (keyOf disk path) with
  | some i =>
    rw [create_of_some hp]
    exact h
  | none =>
    refine ⟨places_create_lt h.places disk path, fun i o => ?_, h.once, ?_, ?_, ?_⟩
    · rw [cell_create]
      exact h.filled i o
    · rw [create_of_none hp]
      exact h.ids
    · rw [create_of_none hp]
      exact h.found
    · rw [create_of_none hp, List.countP_append]
      exact h.balance

theorem Accounts.evict {l : Loader} {log : List Event} (h : Accounts l log) (disk : Disk)
    (path : Path) : Accounts (l.evict disk path).1 log :=
  ⟨fun e he => h.places e (List.mem_filter.1 he).1, h.filled, h.once, h.ids, h.found, h.balance⟩

/-! ### Loads -/

section

variable {l : Loader} {log : List Event} {i : Nat}

/-- Replacing the content of a cell changes how many cells are opening by that of the cell. -/
theorem countP_setCell (hi : i < l.cells.length) (c : Cell) :
    (l.setCell i c).cells.countP Cell.isOpening + (l.cell i).isOpening.toNat =
      l.cells.countP Cell.isOpening + c.isOpening.toNat := by
  have hc : l.cells[i]? = some (l.cell i) := by
    rw [cell, List.getD_eq_getElem?_getD, List.getElem?_eq_getElem hi]
    rfl
  exact List.countP_set_add Cell.isOpening hc c

theorem lt_of_loading {stage : LoadStage} (hc : l.cell i = .loading stage) : i < l.cells.length := by
  by_contra hi
  rw [cell_eq_empty (Nat.le_of_not_lt hi)] at hc
  cases hc

/-- A cell without an outcome may get another content that is no outcome. -/
theorem Accounts.filled_setCell (h : Accounts l log) (hi : i < l.cells.length)
    (hc : (l.cell i).outcome? = none) {c : Cell} (hc' : c.outcome? = none) (j : Nat)
    (o : LoadOutcome) : .filled j o ∈ log ↔ (l.setCell i c).cell j = .filled o := by
  rw [h.filled]
  by_cases hij : i = j
  · subst hij
    rw [cell_setCell_self hi]
    constructor
    · intro hf
      rw [hf] at hc
      cases hc
    · rintro rfl
      cases hc'
  · rw [cell_setCell_ne hij]

/-- A cell without an outcome may get one, if this is added to the events. -/
theorem Accounts.filled_fill (h : Accounts l log) (hi : i < l.cells.length)
    (hc : (l.cell i).outcome? = none) (o : LoadOutcome) (j : Nat) (o' : LoadOutcome) :
    Event.filled j o' ∈ log ++ [Event.filled i o] ↔ (l.setCell i (.filled o)).cell j = .filled o' := by
  rw [List.mem_append, List.mem_singleton, h.filled]
  by_cases hij : i = j
  · subst hij
    have hne : l.cell i ≠ .filled o' := by
      intro hf
      rw [hf] at hc
      cases hc
    rw [cell_setCell_self hi]
    simp [hne, eq_comm]
  · rw [cell_setCell_ne hij]
    simp [Ne.symm hij]

theorem Accounts.once_fill (h : Accounts l log) (hc : (l.cell i).outcome? = none) (o : LoadOutcome) :
    ((log ++ [Event.filled i o]).filterMap Event.filledCell?).Nodup := by
  have hnot : i ∉ log.filterMap Event.filledCell? := by
    intro hmem
    obtain ⟨e, he, hcell⟩ := List.mem_filterMap.1 hmem
    cases e with
    | found j => cases hcell
    | filled j o' =>
      obtain rfl := Option.some.inj hcell
      rw [(h.filled j o').1 he] at hc
      cases hc
  rw [List.filterMap_append, List.nodup_append]
  refine ⟨h.once, List.pairwise_singleton _ i, ?_⟩
  intro a ha b hb hab
  obtain rfl : b = i := List.mem_singleton.1 hb
  exact hnot (hab ▸ ha)

/-- Loads may begin and be given up. -/
theorem Accounts.setCell (h : Accounts l log) (hi : i < l.cells.length)
    (hc : (l.cell i).outcome? = none) {c : Cell} (hc' : c.outcome? = none)
    (hopening : c.isOpening = false) : Accounts (l.setCell i c) log := by
  have hcount := countP_setCell hi c
  rw [hopening] at hcount
  refine ⟨fun e he => ?_, h.filled_setCell hi hc hc', h.once, h.ids, h.found, ?_⟩
  · rw [Loader.setCell, List.length_set]
    exact h.places e he
  · have := h.balance
    simp only [Loader.setCell, Bool.toNat_false] at hcount ⊢
    omega

/-- The events of a stage after which the cell `i` has the content `c`. -/
def eventsOf (i : Nat) (found : Bool) (c : Cell) : List Event :=
  (if found then [.found i] else []) ++
    match c.outcome? with
    | some o => [.filled i o]
    | none => []

theorem Accounts.stage (h : Accounts l log) {stage : LoadStage} (hc : l.cell i = .loading stage)
    {found : Bool} {l' : Loader} (hs : Stage l i stage found l') :
    Accounts l' (log ++ eventsOf i found (l'.cell i)) := by
  have hi := lt_of_loading hc
  have hnone : (l.cell i).outcome? = none := by rw [hc]; rfl
  have hplaces : ∀ c, ∀ e ∈ l.places, e.2 < (l.cells.set i c).length := by
    intro c e he
    rw [List.length_set]
    exact h.places e he
  have hbalance := h.balance
  cases hs with
  | hangs =>
    rw [eventsOf, hnone]
    simpa using h
  | fails error =>
    have hcount := countP_setCell hi (.filled (.error error))
    rw [cell_setCell_self hi]
    refine ⟨hplaces _, h.filled_fill hi hnone _, h.once_fill hnone _, ?_, ?_, ?_⟩
    · rw [List.filterMap_append, h.ids]
      exact List.append_nil _
    · rw [List.countP_append, h.found]
      rfl
    · simp only [Loader.setCell, Cell.isOpening, Bool.toNat_false] at hcount ⊢
      omega
  | finds artifact kind =>
    have hcount := countP_setCell hi (.loading (.reading artifact kind))
    have hcell : ({ l with loads := l.loads + 1 }.setCell i (.loading (.reading artifact kind))).cell i =
        .loading (.reading artifact kind) := cell_setCell_self hi _
    have hevents : eventsOf i true (.loading (.reading artifact kind)) = [.found i] := rfl
    rw [hcell, hevents]
    refine ⟨hplaces _, fun j o => ?_, ?_, ?_, ?_, ?_⟩
    · have : Event.filled j o ∈ log ++ [.found i] ↔ .filled j o ∈ log := by simp
      exact this.trans (h.filled_setCell hi hnone rfl j o)
    · rw [List.filterMap_append]
      exact (List.append_nil _).symm ▸ h.once
    · rw [List.filterMap_append, h.ids]
      exact List.append_nil _
    · rw [List.countP_append, h.found]
      rfl
    · simp only [Loader.setCell, hc, Cell.isOpening, Bool.toNat_false, Bool.toNat_true] at hcount ⊢
      omega
  | reads artifact kind attempts attempt fingerprint =>
    have hcount := countP_setCell hi (.loading (.opening artifact kind attempt fingerprint))
    have hcell : ({ l with attempts }.setCell i
        (.loading (.opening artifact kind attempt fingerprint))).cell i =
          .loading (.opening artifact kind attempt fingerprint) := cell_setCell_self hi _
    have hevents :
        log ++ eventsOf i false (.loading (.opening artifact kind attempt fingerprint)) = log :=
      List.append_nil log
    rw [hcell, hevents]
    refine ⟨hplaces _, h.filled_setCell hi hnone rfl, h.once, h.ids, h.found, ?_⟩
    simp only [Loader.setCell, hc, Cell.isOpening] at hcount ⊢
    omega
  | @makes artifact kind attempt fingerprint handle id =>
    have hcount := countP_setCell hi (.filled (.ok handle))
    have hcell : ({ l with issued := l.issued + 1 }.setCell i (.filled (.ok handle))).cell i =
        .filled (.ok handle) := cell_setCell_self hi _
    have hevents : eventsOf i false (.filled (.ok handle)) = [.filled i (.ok handle)] := rfl
    have hid : Event.id? (.filled i (.ok handle)) = some (1 + l.issued) := by
      rw [Nat.add_comm, ← id]
      rfl
    rw [hcell, hevents]
    refine ⟨hplaces _, h.filled_fill hi hnone _, h.once_fill hnone _, ?_, ?_, ?_⟩
    · rw [List.filterMap_append, h.ids, List.filterMap_cons, hid]
      exact List.range'_1_concat.symm
    · rw [List.countP_append, h.found]
      rfl
    · simp only [Loader.setCell, hc, Cell.isOpening, Bool.toNat_false, Bool.toNat_true] at hcount ⊢
      omega

end

end ParserConformance.Loader
