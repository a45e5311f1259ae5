import ParserConformance.Files.Disk

/-!
# Disks that grow

A disk grows as long as nothing on it is removed, replaced or linked anew: what stands at a place stays
there, though new things may come and files may be rewritten. On a disk that grows, a path that means
something goes on meaning the same.

## Main result
- `Disk.Grows.canonical?`: the absolute path without links of what is there stays.
-/

namespace ParserConformance

/-- Whether what stands at a place is still the same after a change. A file may get another content and
mode, a directory that can be searched stays so, a link keeps its target. -/
def Entry.Stays : Entry → Entry → Prop
  | .file _ _, .file _ _ => True
  | .directory mode, .directory mode' => Disk.maySearch mode → Disk.maySearch mode'
  | .link target, .link target' => target = target'
  | .special _ _, .special _ _ => True
  | _, _ => False

theorem Entry.Stays.refl (e : Entry) : e.Stays e := by
  cases e with
  | file | special => trivial
  | directory mode => exact id
  | link target => rfl

theorem Entry.Stays.trans {e e' e'' : Entry} (h : e.Stays e') (h' : e'.Stays e'') : e.Stays e'' := by
  match e, e', e'' with
  | .file .., .file .., .file .. | .special .., .special .., .special .. => trivial
  | .directory _, .directory _, .directory _ => exact fun hmode => h' (h hmode)
  | .link _, .link _, .link _ => exact Eq.trans h h'

namespace Disk

/-- Whether `d'` comes from `d` without anything that stands there being taken away. -/
structure Grows (d d' : Disk) : Prop where
  /-- The working directory is the same. -/
  here : d'.here = d.here
  /-- What stands at a place stays. -/
  stays : ∀ p e, d.entry? p = some e → ∃ e', d'.entry? p = some e' ∧ e.Stays e'

variable {d d' d'' : Disk}

theorem Grows.refl (d : Disk) : d.Grows d := ⟨rfl, fun _ e he => ⟨e, he, .refl e⟩⟩

theorem Grows.trans (h : d.Grows d') (h' : d'.Grows d'') : d.Grows d'' := by
  refine ⟨h'.here.trans h.here, fun p e he => ?_⟩
  obtain ⟨e', he', hstays⟩ := h.stays p e he
  obtain ⟨e'', he'', hstays'⟩ := h'.stays p e' he'
  exact ⟨e'', he'', hstays.trans hstays'⟩

/-- A disk grows when entries are added after those that it has. -/
theorem grows_of_prefix (hhere : d'.here = d.here) (hentries : d.entries <+: d'.entries) :
    d.Grows d' := by
  refine ⟨hhere, fun p e he => ⟨e, ?_, .refl e⟩⟩
  obtain ⟨added, hadded⟩ := hentries
  unfold entry? at he ⊢
  by_cases hp : p.isEmpty
  · rw [if_pos hp] at he ⊢
    exact he
  · rw [if_neg hp] at he ⊢
    obtain ⟨place, hplace, rfl⟩ := Option.map_eq_some_iff.1 he
    rw [← hadded, List.find?_append, hplace]
    rfl

/-- A disk grows when something is put to a place where nothing stands. -/
theorem grows_set {p : Location} (hp : d.entry? p = none) (e : Entry) : d.Grows (d.set p e) := by
  have hfilter : d.entries.filter (fun place => !decide (place.1 = p)) = d.entries := by
    rw [List.filter_eq_self]
    intro place hplace
    unfold entry? at hp
    split at hp
    · cases hp
    · have := List.find?_eq_none.1 (Option.map_eq_none_iff.1 hp) place hplace
      simpa using this
  have hentries : (d.set p e).entries = d.entries ++ [(p, e)] := by
    simp only [set, hp, Option.isNone_none, if_true, setChangedAt, forget, hfilter]
  refine grows_of_prefix ?_ (hentries ▸ List.prefix_append _ _)
  simp [set, hp, setChangedAt, forget]

/-- A disk grows when the directories along a path are made. -/
theorem grows_makeAlong (d : Disk) (absolute : Bool) (done parts : List String) :
    d.Grows (d.makeAlong absolute done parts) := by
  induction parts generalizing d done with
  | nil => exact .refl d
  | cons part parts ih =>
    rw [makeAlong]
    refine Grows.trans ?_ (ih _ _)
    split
    · split
      · next hnone => exact grows_set (Option.isNone_iff_eq_none.1 hnone) _
      · exact .refl d
    · exact .refl d

/-- A disk grows when a file is written to a place where nothing stands. -/
theorem grows_write {p : Path} (content : List UInt8) (mode : Option Nat)
    (hnew : ∀ place, (d.makeDirectory p.parent).locate p true = .ok place →
      Disk.entry? (d.makeDirectory p.parent) place = none) : d.Grows (d.write p content mode) := by
  have hdirectory : d.Grows (d.makeDirectory p.parent) := grows_makeAlong d _ _ _
  simp only [write]
  split
  · exact hdirectory
  · next place hplace =>
    have hnone := hnew place hplace
    rw [hnone]
    exact hdirectory.trans (grows_set hnone _)

/-- A disk grows when a link is made at a place where nothing stands. -/
theorem grows_link {p : Path} (target : String)
    (hnew : ∀ place, (d.makeDirectory p.parent).ownPlace p = some place →
      Disk.entry? (d.makeDirectory p.parent) place = none) : d.Grows (d.link p target) := by
  have hdirectory : d.Grows (d.makeDirectory p.parent) := grows_makeAlong d _ _ _
  simp only [link]
  split
  · next place hplace => exact hdirectory.trans (grows_set (hnew place hplace) _)
  · exact hdirectory

/-! ### What stays on a disk that grows -/

theorem Grows.directory (h : d.Grows d') {p : Location} {mode : Nat}
    (hp : d.entry? p = some (.directory mode)) :
    ∃ mode', d'.entry? p = some (.directory mode') ∧ (maySearch mode → maySearch mode') := by
  obtain ⟨e, he, hstays⟩ := h.stays _ _ hp
  cases e with
  | directory mode' => exact ⟨mode', he, hstays⟩
  | file | link | special => exact hstays.elim

theorem Grows.link (h : d.Grows d') {p : Location} {target : String}
    (hp : d.entry? p = some (.link target)) : d'.entry? p = some (.link target) := by
  obtain ⟨e, he, hstays⟩ := h.stays _ _ hp
  cases e with
  | link target' =>
    obtain rfl : target = target' := hstays
    exact he
  | file | directory | special => exact hstays.elim

theorem Grows.other (h : d.Grows d') {p : Location} {e : Entry} (hp : d.entry? p = some e)
    (hlink : ∀ target, e ≠ .link target) :
    ∃ e', d'.entry? p = some e' ∧ ∀ target, e' ≠ .link target := by
  obtain ⟨e', he', hstays⟩ := h.stays _ _ hp
  refine ⟨e', he', ?_⟩
  rintro target rfl
  cases e with
  | link target' => exact hlink target' rfl
  | file | directory | special => exact hstays

/-! ### Following paths -/

/-- How a walk to something that is there goes on after one part of its path. -/
theorem walkFrom_cons_eq_ok_iff {follow : Location → List String → Except Trouble Location}
    {here q : Location} {part : String} {parts : List String} :
    d.walkFrom false follow here (part :: parts) = .ok q ↔
      ∃ mode, d.entry? here = some (.directory mode) ∧
        ((part = "" ∨ part = ".") ∧ d.walkFrom false follow here parts = .ok q ∨
          ¬(part = "" ∨ part = ".") ∧ maySearch mode ∧
            (part = ".." ∧ d.walkFrom false follow here.dropLast parts = .ok q ∨
              part ≠ ".." ∧ part.utf8ByteSize ≤ 255 ∧
                ((∃ target, d.entry? (here ++ [part]) = some (.link target) ∧
                    follow (if target.toList.head? = some '/' then [] else here)
                      ((Path.splitSlashes target.toList).map String.ofList ++ parts) = .ok q) ∨
                  ∃ e, d.entry? (here ++ [part]) = some e ∧ (∀ target, e ≠ .link target) ∧
                    d.walkFrom false follow (here ++ [part]) parts = .ok q))) := by
  rw [walkFrom]
  cases hhere : d.entry? here with
  | none => simp
  | some e =>
    cases e with
    | file | link | special => simp
    | directory mode =>
      by_cases hpart : part = "" ∨ part = "."
      · simp [hpart]
      cases hsearch : maySearch mode with
      | false => simp [hpart, hsearch]
      | true =>
        by_cases hup : part = ".."
        · simp [hsearch, hup]
        by_cases hlength : 255 < part.utf8ByteSize
        · simp [hpart, hsearch, hup, hlength, Nat.not_le.2 hlength]
        have hlength' := Nat.not_lt.1 hlength
        cases hnext : d.entry? (here ++ [part]) with
        | none => simp [hpart, hsearch, hup, hlength]
        | some e => cases e <;> simp [hpart, hsearch, hup, hlength, hlength']

/-- A walk that ends somewhere ends there on a disk that has grown, if this holds for what follows a
link. -/
theorem Grows.walkFrom (h : d.Grows d') {follow follow' : Location → List String → Except Trouble Location}
    (hfollow : ∀ start parts q, follow start parts = .ok q → follow' start parts = .ok q)
    {here : Location} {parts : List String} {q : Location}
    (hq : d.walkFrom false follow here parts = .ok q) : d'.walkFrom false follow' here parts = .ok q := by
  induction parts generalizing here with
  | nil => exact hq
  | cons part parts ih =>
    rw [walkFrom_cons_eq_ok_iff] at hq ⊢
    obtain ⟨mode, hmode, hrest⟩ := hq
    obtain ⟨mode', hmode', hsearch⟩ := h.directory hmode
    refine ⟨mode', hmode', ?_⟩
    obtain ⟨hpart, hrest⟩ | ⟨hpart, hmay, ⟨hup, hrest⟩ | ⟨hup, hlength, hrest⟩⟩ := hrest
    · exact .inl ⟨hpart, ih hrest⟩
    · exact .inr ⟨hpart, hsearch hmay, .inl ⟨hup, ih hrest⟩⟩
    · refine .inr ⟨hpart, hsearch hmay, .inr ⟨hup, hlength, ?_⟩⟩
      obtain ⟨target, htarget, hrest⟩ | ⟨e, he, hlink, hrest⟩ := hrest
      · exact .inl ⟨target, h.link htarget, hfollow _ _ _ hrest⟩
      · obtain ⟨e', he', hlink'⟩ := h.other he hlink
        exact .inr ⟨e', he', hlink', ih hrest⟩

theorem Grows.walk (h : d.Grows d') {links : Nat} {here : Location} {parts : List String} {q : Location}
    (hq : d.walk false links here parts = .ok q) : d'.walk false links here parts = .ok q := by
  induction links generalizing here parts q with
  | zero =>
    refine h.walkFrom (fun start parts q hfollow => ?_) hq
    cases hfollow
  | succ links ih => exact h.walkFrom (fun _ _ _ hfollow => ih hfollow) hq

theorem Grows.locate (h : d.Grows d') {p : Path} {q : Location} (hq : d.locate p false = .ok q) :
    d'.locate p false = .ok q := by
  simp only [Disk.locate] at hq ⊢
  split at hq
  · cases hq
  · next hnul =>
    rw [if_neg hnul]
    split at hq
    · cases hq
    · next hempty =>
      rw [if_neg hempty]
      split at hq
      · cases hq
      · next hlength =>
        rw [if_neg hlength, h.here]
        exact h.walk hq

/-- The absolute path without links of what is there stays. -/
theorem Grows.canonical? (h : d.Grows d') {p q : Path} (hq : d.canonical? p = some q) :
    d'.canonical? p = some q := by
  rw [Disk.canonical?] at hq ⊢
  split at hq
  · next place hplace =>
    rw [h.locate hplace]
    split at hq
    · next hsome =>
      obtain ⟨e, he⟩ := Option.isSome_iff_exists.1 hsome
      obtain ⟨e', he', -⟩ := h.stays _ _ he
      simp only [he', Option.isSome_some, if_true]
      exact hq
    · cases hq
  · cases hq

end Disk

end ParserConformance
