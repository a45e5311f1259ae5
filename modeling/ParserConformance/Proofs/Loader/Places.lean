import ParserConformance.Proofs.Files.Growth
import ParserConformance.Proofs.Loader.Scene

/-!
# Where the paths of a loader lead

A key leads to a cell by its course. Making a ticket may add a course and never takes one away, an
evict takes away the one course of its path, and nothing else touches the courses. So a key leads to
a cell that exists as long as no evict meets its course, and to no other one.

## Main results
- `Scene.cellAt?_run`: a key leads to an old cell after a run if and only if it did before and no
  evict met its course.
- `Scene.places_injective`: keys of different courses lead to different cells.
- `Scene.exists_create_of_mem_tickets`: the key of a ticket comes from the disk on which it was made.
-/

namespace ParserConformance.Loader

/-! ### Keys and cells -/

theorem keyOf_of_some {disk : Disk} {path q : Path} (h : disk.canonical? path = some q) :
    keyOf disk path = q := by rw [keyOf, h, Option.getD_some]

/-- The key of a path stays once the path means something, as long as the disk only grows. -/
theorem keyOf_of_grows {disk disk' : Disk} (h : disk.Grows disk') {path : Path}
    (hthere : (disk.canonical? path).isSome) : keyOf disk' path = keyOf disk path := by
  obtain ⟨q, hq⟩ := Option.isSome_iff_exists.1 hthere
  rw [keyOf_of_some hq, keyOf_of_some (h.canonical? hq)]

/-- Only the course of a key counts. -/
theorem cellAt?_congr (l : Loader) {key key' : Path} (h : key.course = key'.course) :
    l.cellAt? key = l.cellAt? key' := by
  rw [cellAt?, cellAt?, h]

theorem cellAt?_cons {l : Loader} {place : Path.Course × Nat} {places : List (Path.Course × Nat)}
    (h : l.places = place :: places) (key : Path) :
    l.cellAt? key =
      if place.1 = key.course then some place.2 else (places.find? (·.1 = key.course)).map (·.2) := by
  rw [cellAt?, h, List.find?_cons]
  by_cases hcourse : place.1 = key.course <;> simp [hcourse]

/-- The key of a new ticket is the one for its path. -/
theorem key_create (l : Loader) (disk : Disk) (path : Path) :
    (l.create disk path).2.key = keyOf disk path := by
  cases h : l.cellAt? (keyOf disk path) with
  | some i => rw [create_of_some h]
  | none => rw [create_of_none h]

theorem requested_create (l : Loader) (disk : Disk) (path : Path) :
    (l.create disk path).2.requested = path := by
  cases h : l.cellAt? (keyOf disk path) with
  | some i => rw [create_of_some h]
  | none => rw [create_of_none h]

/-- The cell of a new ticket is the one that its key leads to. -/
theorem cellAt?_create_self (l : Loader) (disk : Disk) (path : Path) :
    (l.create disk path).1.cellAt? (keyOf disk path) = some (l.create disk path).2.cell := by
  cases h : l.cellAt? (keyOf disk path) with
  | some i => rw [create_of_some h, h]
  | none => rw [create_of_none h, cellAt?_cons rfl, if_pos rfl]

/-- A new ticket changes nothing for keys of other courses. -/
theorem cellAt?_create_of_ne (l : Loader) (disk : Disk) {path key : Path}
    (h : (keyOf disk path).course ≠ key.course) :
    (l.create disk path).1.cellAt? key = l.cellAt? key := by
  cases hp : l.cellAt? (keyOf disk path) with
  | some i => rw [create_of_some hp]
  | none =>
    rw [create_of_none hp, cellAt?_cons rfl, if_neg h]
    rfl

/-- A ticket shares the cell that its key leads to, if there is one. -/
theorem cellAt?_create_of_some {l : Loader} {key : Path} {i : Nat} (h : l.cellAt? key = some i)
    (disk : Disk) (path : Path) : (l.create disk path).1.cellAt? key = some i := by
  by_cases hcourse : (keyOf disk path).course = key.course
  · have hown : l.cellAt? (keyOf disk path) = some i := (cellAt?_congr l hcourse).trans h
    rw [create_of_some hown, h]
  · rw [cellAt?_create_of_ne l disk hcourse, h]

/-- An evict takes away one course and leaves all others. -/
theorem cellAt?_evict_of_ne (l : Loader) (disk : Disk) {path key : Path}
    (h : (keyOf disk path).course ≠ key.course) :
    (l.evict disk path).1.cellAt? key = l.cellAt? key := by
  rw [cellAt?, cellAt?, evict, List.find?_filter]
  congr 2
  funext place
  by_cases hplace : place.1 = key.course
  · simp [hplace, Ne.symm h]
  · simp [hplace]

/-- Keys of different courses lead to different cells. -/
def PlacesInjective (l : Loader) : Prop :=
  ∀ ⦃key key' : Path⦄ ⦃i : Nat⦄, l.cellAt? key = some i → l.cellAt? key' = some i → key.course = key'.course

namespace Scene

variable {s s' : Scene}

/-- Whether an action takes away the course of a key. -/
def Action.Forgets (key : Path) : Action → Prop
  | .evict disk path => (keyOf disk path).course = key.course
  | _ => False

/-- Whether an action is an evict. -/
def Action.isEvict : Action → Bool
  | .evict .. => true
  | _ => false

theorem Action.not_forgets_of_isEvict {a : Action} (h : a.isEvict = false) (key : Path) :
    ¬a.Forgets key := by
  cases a with
  | evict disk path => cases h
  | create | resolve | begin | advance | finish | cancel => exact id

/-! ### One step -/

/-- What an action does to the cells that keys lead to, and to the tickets. -/
theorem places_step (h : s.Sound) {a : Action} (ha : s.step a = some s') :
    (∃ disk path, a = .create disk path ∧ s'.loader = (s.loader.create disk path).1 ∧
        s'.tickets = s.tickets ++ [(s.loader.create disk path).2]) ∨
      (∃ disk path, a = .evict disk path ∧ s'.loader = (s.loader.evict disk path).1 ∧
        s'.tickets = s.tickets) ∨
      (∀ key, ¬a.Forgets key) ∧ s'.loader.places = s.loader.places ∧
        s'.loader.cells.length = s.loader.cells.length ∧ s'.tickets = s.tickets := by
  cases a with
  | create disk path =>
    obtain rfl := create_eq ha
    exact .inl ⟨disk, path, rfl, rfl, rfl⟩
  | evict disk path =>
    obtain rfl := Option.some.inj ha
    exact .inr (.inl ⟨disk, path, rfl, rfl, rfl⟩)
  | resolve k =>
    simp only [step] at ha
    split at ha
    · obtain rfl := Option.some.inj ha
      exact .inr (.inr ⟨fun _ => id, rfl, rfl, rfl⟩)
    · cases ha
  | begin j =>
    obtain ⟨p, -, -, rfl⟩ := begin_cases ha
    exact .inr (.inr ⟨fun _ => id, rfl, List.length_set, rfl⟩)
  | advance disk j =>
    obtain ⟨p, state, hj, hl, ht, -⟩ := advance_cases ha
    obtain ⟨stage, hc⟩ := h.exists_stage hj
    have hstage := stage_advance disk hc
    rw [← hl] at hstage
    have hchanges := hstage.changesOnly
    exact .inr (.inr ⟨fun _ => id, hchanges.places, hchanges.length, ht⟩)
  | finish j =>
    obtain ⟨p, o, -, -, rfl⟩ := finish_cases ha
    exact .inr (.inr ⟨fun _ => id, rfl, rfl, rfl⟩)
  | cancel j =>
    obtain ⟨p, ⟨-, rfl⟩ | ⟨hj, rfl⟩⟩ := cancel_cases ha
    · exact .inr (.inr ⟨fun _ => id, rfl, rfl, rfl⟩)
    · obtain ⟨stage, hc⟩ := h.exists_stage hj
      rw [cancel_of_loading hc]
      exact .inr (.inr ⟨fun _ => id, rfl, List.length_set, rfl⟩)

theorem length_le_step (h : s.Sound) {a : Action} (ha : s.step a = some s') :
    s.loader.cells.length ≤ s'.loader.cells.length := by
  obtain ⟨disk, path, -, hl, -⟩ | ⟨disk, path, -, hl, -⟩ | ⟨-, -, hlength, -⟩ := places_step h ha
  · rw [hl]
    exact length_le_create s.loader disk path
  · rw [hl]
    exact Nat.le_refl _
  · exact Nat.le_of_eq hlength.symm

/-- A key leads to an old cell if it did before and the action does not take its course away. -/
theorem cellAt?_step (h : s.Sound) {a : Action} (ha : s.step a = some s') {key : Path} {i : Nat}
    (hi : i < s.loader.cells.length) :
    s'.loader.cellAt? key = some i ↔ s.loader.cellAt? key = some i ∧ ¬a.Forgets key := by
  obtain ⟨disk, path, rfl, hl, -⟩ | ⟨disk, path, rfl, hl, -⟩ | ⟨hforgets, hplaces, -, -⟩ := places_step h ha
  · rw [hl]
    refine ⟨fun hkey => ⟨?_, id⟩, fun hkey => cellAt?_create_of_some hkey.1 disk path⟩
    by_cases hcourse : (keyOf disk path).course = key.course
    · -- the new ticket has an old cell only if its key led there before
      rw [← cellAt?_congr _ hcourse, cellAt?_create_self] at hkey
      rw [← cellAt?_congr _ hcourse]
      cases hp : s.loader.cellAt? (keyOf disk path) with
      | some j =>
        rw [create_of_some hp] at hkey
        exact hkey
      | none =>
        rw [create_of_none hp] at hkey
        exact absurd (Option.some.inj hkey) (Nat.ne_of_gt hi)
    · rw [cellAt?_create_of_ne _ _ hcourse] at hkey
      exact hkey
  · rw [hl]
    by_cases hcourse : (keyOf disk path).course = key.course
    · rw [← cellAt?_congr _ hcourse, cellAt?_evict]
      exact ⟨nofun, fun hkey => absurd hcourse hkey.2⟩
    · rw [cellAt?_evict_of_ne _ _ hcourse]
      exact ⟨fun hkey => ⟨hkey, hcourse⟩, And.left⟩
  · rw [cellAt?, hplaces]
    exact ⟨fun hkey => ⟨hkey, hforgets key⟩, And.left⟩

theorem placesInjective_step (h : s.Sound) {a : Action} (ha : s.step a = some s')
    (hplaces : s.loader.PlacesInjective) : s'.loader.PlacesInjective := by
  intro key key' i hkey hkey'
  by_cases hi : i < s.loader.cells.length
  · exact hplaces ((cellAt?_step h ha hi).1 hkey).1 ((cellAt?_step h ha hi).1 hkey').1
  · -- only the key of a new ticket leads to a cell that was not there
    have hnew : ∀ k, s.loader.cellAt? k ≠ some i := by
      intro k hk
      obtain ⟨e, he, rfl⟩ := exists_place_of_cellAt? hk
      exact hi (h.accounts.places e he)
    have hcourse : ∀ k, s'.loader.cellAt? k = some i →
        ∃ disk path, a = .create disk path ∧ (keyOf disk path).course = k.course := by
      intro k hk
      obtain ⟨disk, path, rfl, hl, -⟩ | ⟨disk, path, rfl, hl, -⟩ | ⟨-, heq, -, -⟩ := places_step h ha
      · refine ⟨disk, path, rfl, ?_⟩
        by_contra hne
        rw [hl, cellAt?_create_of_ne _ _ hne] at hk
        exact hnew k hk
      · rw [hl] at hk
        by_cases hne : (keyOf disk path).course = k.course
        · rw [← cellAt?_congr _ hne, cellAt?_evict] at hk
          cases hk
        · rw [cellAt?_evict_of_ne _ _ hne] at hk
          exact absurd hk (hnew k)
      · rw [cellAt?, heq] at hk
        exact absurd hk (hnew k)
    obtain ⟨disk, path, rfl, hk⟩ := hcourse key hkey
    obtain ⟨disk', path', ha', hk'⟩ := hcourse key' hkey'
    cases ha'
    rw [← hk, hk']

/-- Tickets are only added. -/
theorem tickets_subset_step (h : s.Sound) {a : Action} (ha : s.step a = some s') :
    s.tickets ⊆ s'.tickets := by
  obtain ⟨disk, path, -, -, heq⟩ | ⟨-, -, -, -, heq⟩ | ⟨-, -, -, heq⟩ := places_step h ha
  · exact heq ▸ List.subset_append_left _ _
  · exact heq ▸ List.Subset.refl _
  · exact heq ▸ List.Subset.refl _

/-! ### Whole runs -/

theorem tickets_subset_run {as : List Action} (h : s.Sound) (hs : s.run as = some s') :
    s.tickets ⊆ s'.tickets :=
  run_induction (P := fun t => s.tickets ⊆ t.tickets) h hs
    (fun _ _ _ _ ht hsubset ha => List.Subset.trans hsubset (tickets_subset_step ht ha))
    (List.Subset.refl _)

theorem length_le_run {as : List Action} (h : s.Sound) (hs : s.run as = some s') :
    s.loader.cells.length ≤ s'.loader.cells.length :=
  run_induction (P := fun t => s.loader.cells.length ≤ t.loader.cells.length) h hs
    (fun _ _ _ _ ht hle ha => Nat.le_trans hle (length_le_step ht ha)) (Nat.le_refl _)

theorem cellAt?_run {as : List Action} (h : s.Sound) (hs : s.run as = some s') {key : Path} {i : Nat}
    (hi : i < s.loader.cells.length) :
    s'.loader.cellAt? key = some i ↔ s.loader.cellAt? key = some i ∧ ∀ a ∈ as, ¬a.Forgets key := by
  induction as generalizing s with
  | nil =>
    obtain rfl := Option.some.inj hs
    simp
  | cons a as ih =>
    obtain ⟨mid, ha, has⟩ := Option.bind_eq_some_iff.1 hs
    rw [ih (step_sound h ha) has (Nat.lt_of_lt_of_le hi (length_le_step h ha)), cellAt?_step h ha hi,
      List.forall_mem_cons, and_assoc]

theorem places_injective {kinds : List ArtifactKind} {as : List Action}
    (hs : (initial kinds).run as = some s) : s.loader.PlacesInjective :=
  run_induction (P := fun t => t.loader.PlacesInjective) (sound_initial kinds) hs
    (fun _ _ _ _ ht hplaces ha => placesInjective_step ht ha hplaces) (fun _ _ _ hkey => nomatch hkey)

/-- A ticket was made by an action, and its key is the one for its path on the disk of this action. -/
theorem exists_create_of_mem_tickets {kinds : List ArtifactKind} {as : List Action}
    (hs : (initial kinds).run as = some s) :
    ∀ p ∈ s.tickets, ∃ disk, .create disk p.requested ∈ as ∧ p.key = keyOf disk p.requested := by
  refine run_induction
    (P := fun t => ∀ p ∈ t.tickets, ∃ disk, .create disk p.requested ∈ as ∧ p.key = keyOf disk p.requested)
    (sound_initial kinds) hs ?_ (fun p hp => absurd hp List.not_mem_nil)
  intro t a t' hmem ht htickets ha p hp
  obtain ⟨disk, path, rfl, -, heq⟩ | ⟨-, -, -, -, heq⟩ | ⟨-, -, -, heq⟩ := places_step ht ha
  · rw [heq] at hp
    rcases List.mem_append.1 hp with hp | hp
    · exact htickets p hp
    · obtain rfl := List.mem_singleton.1 hp
      rw [requested_create, key_create]
      exact ⟨disk, hmem, rfl⟩
  · exact htickets p (heq ▸ hp)
  · exact htickets p (heq ▸ hp)

end Scene

end ParserConformance.Loader
