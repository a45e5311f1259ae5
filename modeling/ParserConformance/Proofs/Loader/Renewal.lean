import ParserConformance.Proofs.Loader.Memory
import ParserConformance.Proofs.Loader.Places

/-!
# Getting a new parser after an evict

Whoever evicts a path and makes a ticket for it later wants a parser that was made after the evict. An
evict forgets the key that the path has on the disk of that moment, and the ticket takes the key that
the path has when the ticket is made. The two differ if the artifact came, went or was linked anew in
between; then an old handle may still be found under the key of the ticket.

## Main statements
- `Scene.evict_renews`: the ticket gives a new handle if both keys have one course. In general it gives
  the handle that its key led to, if no evict has met that key since, and else a new one.
- `Scene.outnumbers_of_grows`: the ticket gives a new handle if nothing is taken away in between.
- `Scene.evict_whileAway`: it gives the old handle if the artifact was away during the evict.
-/

namespace ParserConformance.Loader.Scene

variable {s s' : Scene} {handle : Handle}

/-- Whether a handle has a larger number than all that were made. -/
def Outnumbers (s : Scene) (handle : Handle) : Prop := ∀ n ∈ s.log.filterMap Event.id?, n < handle.id

/-- Whether a key leads to a handle, and none of the actions that follow takes its course away. -/
def Leaves (s : Scene) (key : Path) (as : List Action) (handle : Handle) : Prop :=
  (∃ i, s.loader.cellAt? key = some i ∧ s.loader.cell i = .filled (.ok handle)) ∧
    ∀ a ∈ as, ¬a.Forgets key

/-! ### Numbers -/

theorem mem_ids_iff (h : s.Sound) {n : Nat} :
    n ∈ s.log.filterMap Event.id? ↔ 1 ≤ n ∧ n ≤ s.loader.issued := by
  rw [h.accounts.ids, List.mem_range'_1]
  omega

/-- The handle of a cell is numbered among those that were made. -/
theorem id_mem_ids (h : s.Sound) {i : Nat} (hi : s.loader.cell i = .filled (.ok handle)) :
    handle.id ∈ s.log.filterMap Event.id? :=
  List.mem_filterMap.2 ⟨_, (h.accounts.filled i _).2 hi, rfl⟩

/-- A number that was given out is that of a handle in a cell. -/
theorem exists_cell_of_mem_ids (h : s.Sound) {n : Nat} (hn : n ∈ s.log.filterMap Event.id?) :
    ∃ i old, s.loader.cell i = .filled (.ok old) ∧ old.id = n := by
  obtain ⟨e, he, hid⟩ := List.mem_filterMap.1 hn
  cases e with
  | found i => cases hid
  | filled i o =>
    cases o with
    | error error => cases hid
    | ok old => exact ⟨i, old, (h.accounts.filled i _).1 he, Option.some.inj hid⟩

/-- A handle found later has an old number only if its cell held it all the time. -/
theorem cell_of_id_mem_ids (h : s.Sound) (h' : s'.Sound) (hlog : s.log <+: s'.log) {i : Nat}
    (hi : s'.loader.cell i = .filled (.ok handle)) (hid : handle.id ∈ s.log.filterMap Event.id?) :
    s.loader.cell i = .filled (.ok handle) := by
  obtain ⟨j, old, hj, hold⟩ := exists_cell_of_mem_ids h hid
  have hj' := cell_filled_of_prefix h h' hlog hj
  obtain rfl : j = i := (numbersHandles h').distinct j i old handle hj' hi hold
  obtain rfl := Cell.handle_unique hj' hi
  exact hj

/-- A handle in a cell that has another content before is new. -/
theorem outnumbers_of_cell_ne (h : s.Sound) (h' : s'.Sound) (hlog : s.log <+: s'.log) {i : Nat}
    (hi : s'.loader.cell i = .filled (.ok handle)) (hne : s.loader.cell i ≠ .filled (.ok handle)) :
    s.Outnumbers handle := by
  intro n hn
  have hnot : handle.id ∉ s.log.filterMap Event.id? := fun hid => hne (cell_of_id_mem_ids h h' hlog hi hid)
  have hpos := ((mem_ids_iff h').1 (id_mem_ids h' hi)).1
  have hle := ((mem_ids_iff h).1 hn).2
  rw [mem_ids_iff h] at hnot
  omega

theorem Outnumbers.cell_ne (hnew : s.Outnumbers handle) (h : s.Sound) (i : Nat) :
    s.loader.cell i ≠ .filled (.ok handle) :=
  fun hi => Nat.lt_irrefl _ (hnew _ (id_mem_ids h hi))

/-! ### Tickets -/

/-- A ticket that is made after some actions has an old cell if and only if its key led there before
them and none of them took the course of the key away. -/
theorem cell_create_eq_iff {s₂ : Scene} (h : s.Sound) {bs : List Action} (hbs : s.run bs = some s₂)
    (disk : Disk) (path : Path) {i : Nat} (hi : i < s.loader.cells.length) :
    (s₂.loader.create disk path).2.cell = i ↔
      s.loader.cellAt? (keyOf disk path) = some i ∧ ∀ a ∈ bs, ¬a.Forgets (keyOf disk path) := by
  have hi₂ := Nat.lt_of_lt_of_le hi (length_le_run h hbs)
  rw [← cellAt?_run h hbs hi, ← Option.some_inj, ← cellAt?_create_self s₂.loader disk path]
  have hforgets : ¬Action.Forgets (keyOf disk path) (.create disk path) := id
  exact (cellAt?_step (run_sound h hbs) rfl hi₂).trans (and_iff_left hforgets)

section

variable {s₂ s₃ : Scene} {bs cs : List Action} {disk : Disk} {path : Path} {p : Ticket}

/-- The handle that a ticket gives is in its cell, which the ticket got when it was made. -/
theorem cell_of_gives_later (h : s.Sound) (hbs : s.run bs = some s₂)
    (hcreate : s₂.step (.create disk path) = some s₃) (hp : s₃.tickets = s₂.tickets ++ [p])
    (hcs : s₃.run cs = some s') (hgives : s'.Gives p handle) :
    s'.Sound ∧ s.log <+: s'.log ∧
      s'.loader.cell (s₂.loader.create disk path).2.cell = .filled (.ok handle) := by
  have h' := run_sound (step_sound (run_sound h hbs) hcreate) hcs
  refine ⟨h', ((log_prefix_run hbs).trans (log_prefix_step hcreate)).trans (log_prefix_run hcs), ?_⟩
  obtain rfl := create_eq hcreate
  obtain rfl := List.singleton_inj.1 (List.append_cancel_left hp)
  exact cell_of_gives h' hgives

/-- A ticket gives the handle that its key was left with. -/
theorem eq_of_leaves (h : s.Sound) (hbs : s.run bs = some s₂)
    (hcreate : s₂.step (.create disk path) = some s₃) (hp : s₃.tickets = s₂.tickets ++ [p])
    (hcs : s₃.run cs = some s') (hgives : s'.Gives p handle) {old : Handle}
    (hold : s.Leaves (keyOf disk path) bs old) : handle = old := by
  obtain ⟨h', hlog, hown⟩ := cell_of_gives_later h hbs hcreate hp hcs hgives
  obtain ⟨⟨i, hkey, hcell⟩, hforgets⟩ := hold
  have hi : i < s.loader.cells.length := by
    obtain ⟨e, he, rfl⟩ := exists_place_of_cellAt? hkey
    exact h.accounts.places e he
  have hkept := cell_filled_of_prefix h h' hlog hcell
  rw [(cell_create_eq_iff h hbs disk path hi).2 ⟨hkey, hforgets⟩] at hown
  exact Cell.handle_unique hown hkept

/-- A ticket whose key was left with no handle gives a new one. -/
theorem outnumbers_of_not_leaves (h : s.Sound) (hbs : s.run bs = some s₂)
    (hcreate : s₂.step (.create disk path) = some s₃) (hp : s₃.tickets = s₂.tickets ++ [p])
    (hcs : s₃.run cs = some s') (hgives : s'.Gives p handle)
    (hnone : ∀ old, ¬s.Leaves (keyOf disk path) bs old) : s.Outnumbers handle := by
  obtain ⟨h', hlog, hown⟩ := cell_of_gives_later h hbs hcreate hp hcs hgives
  refine outnumbers_of_cell_ne h h' hlog hown fun hcell => ?_
  -- a cell that holds a handle is there, so the key of the ticket led to it
  have hi : (s₂.loader.create disk path).2.cell < s.loader.cells.length := by
    by_contra hge
    rw [cell_eq_empty (Nat.le_of_not_lt hge)] at hcell
    cases hcell
  obtain ⟨hkey, hforgets⟩ := (cell_create_eq_iff h hbs disk path hi).1 rfl
  exact hnone handle ⟨⟨_, hkey, hcell⟩, hforgets⟩

end

/-! ### Evicting and coming back -/

section

variable {kinds : List ArtifactKind} {as bs cs : List Action} {disk disk' : Disk} {path : Path}
  {s₂ s₃ : Scene} {p : Ticket}

/-- An evict leaves no handle under a key that has the course of its own. -/
theorem not_leaves_of_course_eq (hcourse : (keyOf disk' path).course = (keyOf disk path).course)
    (old : Handle) : ¬s.Leaves (keyOf disk' path) (.evict disk path :: bs) old :=
  fun hleaves => hleaves.2 _ List.mem_cons_self hcourse.symm

/-- If the artifact is there when its path is evicted, and nothing is taken away until the next ticket is
made, this gives a new handle. The artifact may be written anew meanwhile. -/
theorem outnumbers_of_grows (hs : (initial kinds).run as = some s)
    (hbs : s.run (.evict disk path :: bs) = some s₂)
    (hcreate : s₂.step (.create disk' path) = some s₃) (hp : s₃.tickets = s₂.tickets ++ [p])
    (hcs : s₃.run cs = some s') (hgives : s'.Gives p handle) (hthere : (disk.canonical? path).isSome)
    (hgrows : disk.Grows disk') : s.Outnumbers handle := by
  have hcourse := congrArg Path.course (keyOf_of_grows hgrows hthere)
  exact outnumbers_of_not_leaves (run_sound (sound_initial kinds) hs) hbs hcreate hp hcs hgives
    (not_leaves_of_course_eq hcourse)

/-- **A ticket that is made for an evicted path gives a new handle if both looked at one key**, whatever
happens in between and afterwards. In general it gives the handle that its key was left with, and a new one
if it was left with none. -/
theorem evict_renews (hs : (initial kinds).run as = some s)
    (hbs : s.run (.evict disk path :: bs) = some s₂)
    (hcreate : s₂.step (.create disk' path) = some s₃) (hp : s₃.tickets = s₂.tickets ++ [p])
    (hcs : s₃.run cs = some s') (hgives : s'.Gives p handle) :
    ((keyOf disk' path).course = (keyOf disk path).course →
        s.Outnumbers handle ∧ ∀ i, s.loader.cell i ≠ .filled (.ok handle)) ∧
      (∀ old, s.Leaves (keyOf disk' path) (.evict disk path :: bs) old → handle = old) ∧
      ((∀ old, ¬s.Leaves (keyOf disk' path) (.evict disk path :: bs) old) →
        s.Outnumbers handle ∧ ∀ i, s.loader.cell i ≠ .filled (.ok handle)) := by
  have h := run_sound (sound_initial kinds) hs
  have hnew : (∀ old, ¬s.Leaves (keyOf disk' path) (.evict disk path :: bs) old) →
      s.Outnumbers handle ∧ ∀ i, s.loader.cell i ≠ .filled (.ok handle) := by
    intro hnone
    have houtnumbers := outnumbers_of_not_leaves h hbs hcreate hp hcs hgives hnone
    exact ⟨houtnumbers, houtnumbers.cell_ne h⟩
  refine ⟨fun hcourse => hnew (not_leaves_of_course_eq hcourse), ?_, hnew⟩
  exact fun old hleaves => eq_of_leaves h hbs hcreate hp hcs hgives hleaves

end

/-- The disk with one file after the file has been written anew. -/
def rebuilt : Disk := { here := [], entries := [(["a"], .file 0o644 [2])] }

/-- The file is loaded by a path that has to be seen from the working directory. -/
def loadingOnce : List Action :=
  [.create oneFile ⟨"a"⟩, .resolve 0, .begin 0, .advance oneFile 0, .advance oneFile 0, .advance oneFile 0]

/-- The second ticket is loaded by a call of its own. -/
def loadingAgain : List Action :=
  [.resolve 1, .begin 1, .advance rebuilt 1, .advance rebuilt 1, .advance rebuilt 1]

/-- The file is written anew after its path has been evicted, and the next ticket gives a second handle. -/
theorem evict_renews_rebuilt :
    ∃ s s₂ s₃ s' p handle, (initial [silentKind]).run loadingOnce = some s ∧
      s.run [.evict oneFile ⟨"a"⟩] = some s₂ ∧ s₂.step (.create rebuilt ⟨"a"⟩) = some s₃ ∧
      s₃.tickets = s₂.tickets ++ [p] ∧ s₃.run loadingAgain = some s' ∧ s'.Gives p handle ∧ handle.id = 2 ∧
      (((keyOf rebuilt ⟨"a"⟩).course = (keyOf oneFile ⟨"a"⟩).course →
          s.Outnumbers handle ∧ ∀ i, s.loader.cell i ≠ .filled (.ok handle)) ∧
        (∀ old, s.Leaves (keyOf rebuilt ⟨"a"⟩) [.evict oneFile ⟨"a"⟩] old → handle = old) ∧
        ((∀ old, ¬s.Leaves (keyOf rebuilt ⟨"a"⟩) [.evict oneFile ⟨"a"⟩] old) →
          s.Outnumbers handle ∧ ∀ i, s.loader.cell i ≠ .filled (.ok handle))) := by
  have hvalues : ((initial [silentKind]).run loadingOnce).bind (fun s =>
      (s.run [.evict oneFile ⟨"a"⟩]).bind fun s₂ => (s₂.step (.create rebuilt ⟨"a"⟩)).bind fun s₃ =>
        (s₃.run loadingAgain).map fun s' => (s₂.tickets, s₃.tickets, s'.result? 1)) =
      some ([⟨⟨"a"⟩, ⟨"/a"⟩, 0⟩], [⟨⟨"a"⟩, ⟨"/a"⟩, 0⟩, ⟨⟨"a"⟩, ⟨"/a"⟩, 1⟩],
        some (⟨⟨"a"⟩, ⟨"/a"⟩, 1⟩, 2)) := by decide +kernel
  obtain ⟨s, hs, hvalues⟩ := Option.bind_eq_some_iff.1 hvalues
  obtain ⟨s₂, hbs, hvalues⟩ := Option.bind_eq_some_iff.1 hvalues
  obtain ⟨s₃, hcreate, hvalues⟩ := Option.bind_eq_some_iff.1 hvalues
  obtain ⟨s', hcs, hvalues⟩ := Option.map_eq_some_iff.1 hvalues
  simp only [Prod.mk.injEq] at hvalues
  obtain ⟨htickets, htickets', hresult⟩ := hvalues
  obtain ⟨handle, hgives, hid⟩ := gives_of_result? hresult
  have hp : s₃.tickets = s₂.tickets ++ [⟨⟨"a"⟩, ⟨"/a"⟩, 1⟩] := by rw [htickets, htickets']; rfl
  exact ⟨s, s₂, s₃, s', _, handle, hs, hbs, hcreate, hp, hcs, hgives, hid,
    evict_renews hs hbs hcreate hp hcs hgives⟩

/-- The file is away when its path is evicted and back when the next ticket is made: this gives the handle
that was there before the evict. -/
theorem evict_whileAway :
    ∃ s s₂ s₃ s' p handle, (initial [silentKind]).run loadingOnce = some s ∧
      s.run [.evict emptyDisk ⟨"a"⟩] = some s₂ ∧ s₂.step (.create rebuilt ⟨"a"⟩) = some s₃ ∧
      s₃.tickets = s₂.tickets ++ [p] ∧ s₃.run [.resolve 1, .finish 1] = some s' ∧ s'.Gives p handle ∧
      s.loader.cell 0 = .filled (.ok handle) ∧ ¬s.Outnumbers handle := by
  have hvalues : ((initial [silentKind]).run loadingOnce).bind (fun s =>
      (s.run [.evict emptyDisk ⟨"a"⟩]).bind fun s₂ => (s₂.step (.create rebuilt ⟨"a"⟩)).bind fun s₃ =>
        (s₃.run [.resolve 1, .finish 1]).map fun s' =>
          (s₂.tickets, s₃.tickets, s.result? 0, s'.result? 1)) =
      some ([⟨⟨"a"⟩, ⟨"/a"⟩, 0⟩], [⟨⟨"a"⟩, ⟨"/a"⟩, 0⟩, ⟨⟨"a"⟩, ⟨"/a"⟩, 0⟩],
        some (⟨⟨"a"⟩, ⟨"/a"⟩, 0⟩, 1), some (⟨⟨"a"⟩, ⟨"/a"⟩, 0⟩, 1)) := by decide +kernel
  obtain ⟨s, hs, hvalues⟩ := Option.bind_eq_some_iff.1 hvalues
  obtain ⟨s₂, hbs, hvalues⟩ := Option.bind_eq_some_iff.1 hvalues
  obtain ⟨s₃, hcreate, hvalues⟩ := Option.bind_eq_some_iff.1 hvalues
  obtain ⟨s', hcs, hvalues⟩ := Option.map_eq_some_iff.1 hvalues
  simp only [Prod.mk.injEq] at hvalues
  obtain ⟨htickets, htickets', hresult, hresult'⟩ := hvalues
  obtain ⟨old, hold, -⟩ := gives_of_result? hresult
  obtain ⟨handle, hgives, -⟩ := gives_of_result? hresult'
  have h := run_sound (sound_initial _) hs
  have h₃ := step_sound (run_sound h hbs) hcreate
  have hlog := ((log_prefix_run hbs).trans (log_prefix_step hcreate)).trans (log_prefix_run hcs)
  have hcell := cell_of_gives h hold
  have hcell' := cell_filled_of_prefix h (run_sound h₃ hcs) hlog hcell
  obtain rfl := Cell.handle_unique hcell' (cell_of_gives (run_sound h₃ hcs) hgives)
  refine ⟨s, s₂, s₃, s', _, old, hs, hbs, hcreate, ?_, hcs, hgives, hcell, ?_⟩
  · rw [htickets, htickets']
    rfl
  · exact fun hnew => hnew.cell_ne h _ hcell

end ParserConformance.Loader.Scene
