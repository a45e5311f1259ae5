import ParserConformance.Files.Disk
import ParserConformance.Proofs.List.Entries

/-!
# The order of a disk's entries

What stands at a place does not depend on the order in which a disk lists its entries, as long as it
lists each place once. So paths mean the same in any order, and files have the same content. Only the
names in a directory are listed in another order.

## Main results
- `Disk.Reordered.readText`, `Disk.Reordered.isFile`: what paths mean is the same in any order.
- `Disk.Reordered.list`: the names in a directory are the same, in some order.
-/

namespace ParserConformance.Disk

/-- Whether each place is listed once. -/
def Distinct (d : Disk) : Prop := (d.entries.map (·.1)).Nodup

instance (d : Disk) : Decidable d.Distinct := inferInstanceAs (Decidable (List.Nodup _))

/-- Whether `d'` is `d` with its entries in some order. -/
structure Reordered (d d' : Disk) : Prop where
  /-- The entries are the same. -/
  perm : d'.entries.Perm d.entries
  /-- All else is as it was. -/
  same : d' = { d with entries := d'.entries }

variable {d d' : Disk}

theorem Reordered.here (h : d.Reordered d') : d'.here = d.here := by rw [h.same]

theorem Reordered.now (h : d.Reordered d') : d'.now = d.now := by rw [h.same]

theorem Reordered.distinct (h : d.Reordered d') (hd : d.Distinct) : d'.Distinct :=
  (h.perm.map Prod.fst).nodup_iff.2 hd

/-! ### What stands where -/

/-- What stands at a place is the same in any order. -/
theorem Reordered.entry? (h : d.Reordered d') (hd : d.Distinct) (p : Location) :
    d'.entry? p = d.entry? p := by
  have hfind : d'.entries.find? (·.1 = p) = d.entries.find? (·.1 = p) := by
    ext entry
    rw [List.find?_fst_eq_some_iff (h.distinct hd), List.find?_fst_eq_some_iff hd, h.perm.mem_iff]
  rw [Disk.entry?, Disk.entry?, hfind]

/-! ### What paths mean -/

theorem Reordered.walkFrom (h : d.Reordered d') (hd : d.Distinct) (creating : Bool)
    (follow : Location → List String → Except Trouble Location) (here : Location) (parts : List String) :
    d'.walkFrom creating follow here parts = d.walkFrom creating follow here parts := by
  induction parts generalizing here with
  | nil => rfl
  | cons part parts ih => simp only [Disk.walkFrom, h.entry? hd, ih]

theorem Reordered.walk (h : d.Reordered d') (hd : d.Distinct) (creating : Bool) (links : Nat)
    (here : Location) (parts : List String) :
    d'.walk creating links here parts = d.walk creating links here parts := by
  induction links generalizing here parts with
  | zero => exact h.walkFrom hd creating _ here parts
  | succ links ih =>
    have hfollow : d'.walk creating links = d.walk creating links := funext₂ ih
    rw [Disk.walk, Disk.walk, hfollow]
    exact h.walkFrom hd creating _ here parts

theorem Reordered.locate (h : d.Reordered d') (hd : d.Distinct) (p : Path) (creating : Bool) :
    d'.locate p creating = d.locate p creating := by
  simp only [Disk.locate, h.here, h.walk hd]

theorem Reordered.stat (h : d.Reordered d') (hd : d.Distinct) (p : Path) : d'.stat p = d.stat p := by
  simp only [Disk.stat, h.locate hd, h.entry? hd]

/-- Whether a path means a file does not depend on the order. -/
theorem Reordered.isFile (h : d.Reordered d') (hd : d.Distinct) (p : Path) : d'.isFile p = d.isFile p := by
  rw [Disk.isFile, Disk.isFile, h.stat hd]

theorem Reordered.readSpecial (h : d.Reordered d') (kind : Special) :
    d'.readSpecial kind = d.readSpecial kind := by
  simp only [Disk.readSpecial, h.now]

/-- The text of a file does not depend on the order. -/
theorem Reordered.readText (h : d.Reordered d') (hd : d.Distinct) (p : Path) :
    d'.readText p = d.readText p := by
  simp only [Disk.readText, Disk.read, h.stat hd, h.readSpecial]

/-! ### The names in a directory -/

/-- The place of a directory that may be listed. -/
def directoryAt (d : Disk) (p : Path) : Except Trouble Location := do
  let place ← d.locate p false
  match d.entry? place with
  | some (.directory mode) => if mayRead mode then .ok place else .error .permissionDenied
  | some _ => .error .notDirectory
  | none => .error .notFound

/-- The last name of a place in a directory. -/
def nameIn? (directory place : Location) : Option String :=
  if place.dropLast = directory then place.getLast? else none

theorem nameIn?_inj {directory place place' : Location} {name : String}
    (h : nameIn? directory place = some name) (h' : nameIn? directory place' = some name) :
    place = place' := by
  obtain ⟨hdirectory, hname⟩ := Option.ite_none_right_eq_some.1 h
  obtain ⟨hdirectory', hname'⟩ := Option.ite_none_right_eq_some.1 h'
  rw [← List.dropLast_append_getLast? name hname, ← List.dropLast_append_getLast? name hname',
    hdirectory, hdirectory']

/-- What a disk lists are the names of all places in a directory. -/
theorem list_eq (d : Disk) (p : Path) :
    d.list p = (d.directoryAt p).map fun directory =>
      (d.entries.map Prod.fst).filterMap (nameIn? directory) := by
  simp only [List.filterMap_map, Disk.list, directoryAt]
  cases d.locate p false with
  | error trouble => rfl
  | ok place =>
    cases hentry : d.entry? place with
    | none => simp only [bind, Except.bind, hentry, Except.map]
    | some entry =>
      simp only [bind, Except.bind, hentry]
      cases entry with
      | directory mode =>
        by_cases hmode : mayRead mode
        · simp only [if_pos hmode]
          rfl
        · simp only [if_neg hmode]
          rfl
      | file | link | special => rfl

/-- No name is listed twice. -/
theorem Distinct.nodup_of_list (hd : d.Distinct) {p : Path} {names : List String}
    (h : d.list p = .ok names) : names.Nodup := by
  rw [list_eq] at h
  cases hplace : d.directoryAt p with
  | error trouble => rw [hplace] at h; cases h
  | ok directory =>
    rw [hplace] at h
    cases h
    exact List.Nodup.filterMap (fun _ _ _ => nameIn?_inj) hd

/-- The names in a directory are listed in some order, if they are listed at all. -/
theorem Reordered.list (h : d.Reordered d') (hd : d.Distinct) (p : Path) :
    (∃ names names', d.list p = .ok names ∧ d'.list p = .ok names' ∧ names'.Perm names) ∨
      ∃ trouble, d.list p = .error trouble ∧ d'.list p = .error trouble := by
  have hplace : d'.directoryAt p = d.directoryAt p := by
    simp only [directoryAt, h.locate hd, h.entry? hd]
  rw [list_eq, list_eq, hplace]
  cases d.directoryAt p with
  | error trouble => exact .inr ⟨trouble, rfl, rfl⟩
  | ok directory => exact .inl ⟨_, _, rfl, rfl, (h.perm.map Prod.fst).filterMap _⟩

end ParserConformance.Disk
