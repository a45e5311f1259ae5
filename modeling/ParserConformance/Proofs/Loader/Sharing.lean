import Mathlib.Data.List.Chain
import ParserConformance.Proofs.Loader.Memory
import ParserConformance.Proofs.Loader.Places

/-!
# Sharing the parser of one artifact

As long as nothing is evicted and the disk only grows, tickets for one artifact should give one handle,
however their paths are written. They do if each of them was made when the artifact was there, or names
the artifact by its absolute path without links. A ticket that was made before keeps the path as it was
written for a key, and shares its cell with the tickets of just this key.

## Main statements
- `Scene.one_handle`: two tickets give handles of one number if and only if their keys have one course,
  and all tickets for an artifact do if they were made in time. The artifact is loaded once then.
- `Scene.one_handle_tooEarly`: a ticket that was made before the artifact was there gives a handle of its
  own.
-/

namespace ParserConformance

/-! ### Loads that found a kind -/

/-- Whether a cell with this content may have found a kind for its artifact `n` times, if no load of it
was given up. -/
def Cell.Opened (n : Nat) : Cell → Prop
  | .empty | .loading .locating => n = 0
  | .loading _ | .filled (.ok _) => n = 1
  | .filled (.error _) => n ≤ 1

namespace Loader

/-- The cell for whose artifact a kind is found. -/
def Event.foundCell? : Event → Option Nat
  | .found i => some i
  | _ => none

theorem foundCells_eventsOf (i : Nat) (found : Bool) (c : Cell) :
    (eventsOf i found c).filterMap Event.foundCell? = if found then [i] else [] := by
  rw [eventsOf, List.filterMap_append]
  cases found <;> cases c.outcome? <;> rfl

theorem Stage.opened {l l' : Loader} {i n : Nat} {stage : LoadStage} {found : Bool}
    (h : Stage l i stage found l') (hc : l.cell i = .loading stage) (hi : i < l.cells.length)
    (hn : (l.cell i).Opened n) : (l'.cell i).Opened (n + found.toNat) := by
  rw [hc] at hn
  cases h with
  | hangs => rwa [hc]
  | fails error =>
    rw [cell_setCell_self hi]
    cases stage with
    | locating => exact Nat.le_succ_of_le (Nat.le_of_eq hn)
    | reading | opening => exact Nat.le_of_eq hn
  | finds artifact kind =>
    have hcell : ({ l with loads := l.loads + 1 }.setCell i (.loading (.reading artifact kind))).cell i =
        .loading (.reading artifact kind) := cell_setCell_self hi _
    rw [hcell]
    exact congrArg (· + 1) hn
  | reads artifact kind attempts attempt fingerprint =>
    have hcell : ({ l with attempts }.setCell i
        (.loading (.opening artifact kind attempt fingerprint))).cell i =
          .loading (.opening artifact kind attempt fingerprint) := cell_setCell_self hi _
    rw [hcell]
    exact hn
  | @makes artifact kind attempt fingerprint handle id =>
    have hcell : ({ l with issued := l.issued + 1 }.setCell i (.filled (.ok handle))).cell i =
        .filled (.ok handle) := cell_setCell_self hi _
    rw [hcell]
    exact hn

namespace Scene

variable {s s' : Scene}

/-- The cells for whose artifacts kinds were found, in order. -/
def foundCells (s : Scene) : List Nat := s.log.filterMap Event.foundCell?

/-- How often a kind was found for the artifact that is `q` on the disk, for whichever tickets. -/
def initializations (s : Scene) (disk : Disk) (q : Path) : Nat :=
  s.foundCells.countP fun i =>
    s.tickets.any fun p => p.cell = i && disk.canonical? p.requested = some q

/-- Whether an action gives up a call. -/
def Action.isCancel : Action → Bool
  | .cancel _ => true
  | _ => false

/-- Each cell has found a kind as often as its content tells. -/
def OpenedOnce (s : Scene) : Prop := ∀ i, (s.loader.cell i).Opened (s.foundCells.count i)

theorem openedOnce_step (h : s.Sound) {a : Action} (ha : s.step a = some s')
    (hcancel : a.isCancel = false) (hs : s.OpenedOnce) : s'.OpenedOnce := by
  cases a with
  | create disk path =>
    obtain rfl := create_eq ha
    intro i
    rw [cell_create]
    exact hs i
  | evict disk path =>
    obtain rfl := Option.some.inj ha
    exact hs
  | resolve k =>
    simp only [step] at ha
    split at ha
    · obtain rfl := Option.some.inj ha
      exact hs
    · cases ha
  | begin j =>
    obtain ⟨p, hj, hc, rfl⟩ := begin_cases ha
    intro i
    have hi := hs i
    by_cases hp : p.cell = i
    · subst hp
      rw [hc] at hi
      rw [cell_setCell_self (h.cell_lt (List.mem_of_getElem? hj))]
      exact hi
    · rw [cell_setCell_ne hp]
      exact hi
  | advance disk j =>
    obtain ⟨p, state, hj, hl, -, -, hlog, -⟩ := advance_cases ha
    obtain ⟨stage, hc⟩ := h.exists_stage hj
    have hstage := stage_advance disk hc
    rw [← hl] at hstage
    intro i
    have hi := hs i
    rw [foundCells, hlog, List.filterMap_append, foundCells_eventsOf, List.count_append]
    by_cases hp : p.cell = i
    · subst hp
      have hopened := hstage.opened hc (h.cell_lt (List.mem_of_getElem? hj)) hi
      cases hfound : s.loader.findsKind disk p with
      | true | false => simpa [hfound, foundCells] using hopened
    · rw [hstage.changesOnly.cell _ hp]
      cases s.loader.findsKind disk p with
      | true | false => simpa [hp, foundCells] using hi
  | finish j =>
    obtain ⟨p, o, -, -, rfl⟩ := finish_cases ha
    exact hs
  | cancel j => cases hcancel

/-- In a run in which no call is given up, each load finds a kind at most once. -/
theorem openedOnce {kinds : List ArtifactKind} {as : List Action}
    (hs : (initial kinds).run as = some s) (hcancel : ∀ a ∈ as, a.isCancel = false) : s.OpenedOnce :=
  run_induction (P := OpenedOnce) (sound_initial kinds) hs
    (fun _ a _ hmem ht hopened ha => openedOnce_step ht ha (hcancel a hmem) hopened) fun _ => rfl

/-! ### Tickets without evicts -/

/-- As long as nothing is evicted, the key of each ticket leads to its cell. -/
theorem cellAt?_key {kinds : List ArtifactKind} {as : List Action}
    (hs : (initial kinds).run as = some s) (hevict : ∀ a ∈ as, a.isEvict = false) :
    ∀ p ∈ s.tickets, s.loader.cellAt? p.key = some p.cell := by
  refine run_induction (P := fun t => ∀ p ∈ t.tickets, t.loader.cellAt? p.key = some p.cell)
    (sound_initial kinds) hs ?_ (fun p hp => absurd hp List.not_mem_nil)
  intro t a t' hmem ht htickets ha p hp
  have hold : p ∈ t.tickets → t'.loader.cellAt? p.key = some p.cell := fun hp =>
    (cellAt?_step ht ha (ht.tickets p hp)).2
      ⟨htickets p hp, Action.not_forgets_of_isEvict (hevict a hmem) p.key⟩
  obtain ⟨disk, path, -, hl, heq⟩ | ⟨-, -, -, -, heq⟩ | ⟨-, -, -, heq⟩ := places_step ht ha
  · rw [heq] at hp
    rcases List.mem_append.1 hp with hp | hp
    · exact hold hp
    · obtain rfl := List.mem_singleton.1 hp
      rw [hl, key_create, cellAt?_create_self]
  · exact hold (heq ▸ hp)
  · exact hold (heq ▸ hp)

/-- As long as nothing is evicted, tickets share a cell if and only if their keys have one course. -/
theorem cell_eq_iff {kinds : List ArtifactKind} {as : List Action}
    (hs : (initial kinds).run as = some s) (hevict : ∀ a ∈ as, a.isEvict = false) {p p' : Ticket}
    (hp : p ∈ s.tickets) (hp' : p' ∈ s.tickets) : p.cell = p'.cell ↔ p.key.course = p'.key.course := by
  have hkey := cellAt?_key hs hevict p hp
  have hkey' := cellAt?_key hs hevict p' hp'
  constructor
  · intro hcell
    rw [← hcell] at hkey'
    exact places_injective hs hkey hkey'
  · intro hcourse
    rw [cellAt?_congr _ hcourse, hkey'] at hkey
    exact (Option.some.inj hkey).symm

/-! ### The disk along a run -/

/-- The disk that an action meets, if it looks at the disk. -/
def Action.disk? : Action → Option Disk
  | .create disk _ | .evict disk _ | .advance disk _ => some disk
  | _ => none

/-- The disks that actions meet, in order. -/
def disks (as : List Action) : List Disk := as.filterMap Action.disk?

theorem mem_disks_of_create {as : List Action} {disk : Disk} {path : Path}
    (h : .create disk path ∈ as) : disk ∈ disks as := List.mem_filterMap.2 ⟨_, h, rfl⟩

theorem run_append {as bs : List Action} (hs : s.run as = some s') {s'' : Scene}
    (hs' : s'.run bs = some s'') : s.run (as ++ bs) = some s'' := by
  rw [run, List.foldlM_append]
  exact Option.bind_eq_some_iff.2 ⟨s', hs, hs'⟩

theorem grows_of_chain {ds es : List Disk} {d d' : Disk}
    (h : (ds ++ d :: (es ++ [d'])).IsChain Disk.Grows) :
    d.Grows d' ∧ ∀ e ∈ ds ++ es, e.Grows d' := by
  have : Trans Disk.Grows Disk.Grows Disk.Grows := ⟨Disk.Grows.trans⟩
  rw [List.isChain_iff_pairwise, ← List.cons_append, ← List.append_assoc, List.pairwise_append] at h
  have hall : ∀ e ∈ ds ++ d :: es, e.Grows d' := fun e he => h.2.2 e he d' (List.mem_singleton.2 rfl)
  refine ⟨hall d (by simp), fun e he => hall e ?_⟩
  rcases List.mem_append.1 he with he | he
  · exact List.mem_append_left _ he
  · exact List.mem_append_right _ (List.mem_cons_of_mem d he)

/-- Whether tickets for paths that mean `q` on the disk `d` were only made when the artifact was there, or
for a path that is `q` already. -/
def AskedInTime (as : List Action) (d : Disk) (q : Path) : Prop :=
  ∀ disk path, .create disk path ∈ as → d.canonical? path = some q →
    (disk.canonical? path).isSome ∨ path.course = q.course

/-- The key of a ticket that was made in time is the artifact's absolute path without links. -/
theorem course_key {kinds : List ArtifactKind} {as : List Action} {d : Disk} {q : Path}
    (hs : (initial kinds).run as = some s) (hgrows : ∀ e ∈ disks as, e.Grows d)
    (htime : AskedInTime as d q) {p : Ticket} (hp : p ∈ s.tickets)
    (hq : d.canonical? p.requested = some q) : p.key.course = q.course := by
  obtain ⟨disk, hcreate, hkey⟩ := exists_create_of_mem_tickets hs p hp
  rw [hkey]
  cases hthere : disk.canonical? p.requested with
  | some q' =>
    have hgrows := hgrows disk (mem_disks_of_create hcreate)
    rw [← keyOf_of_grows hgrows (Option.isSome_of_eq_some hthere), keyOf_of_some hq]
  | none =>
    rw [keyOf, hthere, Option.getD_none]
    exact (htime disk p.requested hcreate hq).resolve_left (by simp [hthere])

/-- If all tickets for an artifact share a cell and this has a handle, the artifact was initialized once. -/
theorem initializations_eq_one (hopened : s.OpenedOnce) {d : Disk} {q : Path} {p : Ticket}
    (hp : p ∈ s.tickets) (hq : d.canonical? p.requested = some q) {handle : Handle}
    (hcell : s.loader.cell p.cell = .filled (.ok handle))
    (hshared : ∀ p' ∈ s.tickets, d.canonical? p'.requested = some q → p'.cell = p.cell) :
    s.initializations d q = 1 := by
  have hcount : s.foundCells.count p.cell = 1 := by
    have := hopened p.cell
    rwa [hcell] at this
  rw [← hcount, initializations, List.count_eq_countP]
  refine List.countP_congr fun i _ => ?_
  rw [List.any_eq_true, beq_iff_eq]
  constructor
  · rintro ⟨p', hp', hboth⟩
    obtain ⟨rfl, hq'⟩ : p'.cell = i ∧ d.canonical? p'.requested = some q := by simpa using hboth
    exact hshared p' hp' hq'
  · rintro rfl
    exact ⟨p, hp, by simpa using hq⟩

/-! ### One artifact, one handle -/

/-- Handles have one number just if they are in one cell. -/
theorem id_eq_iff (h : s.Sound) {i i' : Nat} {handle handle' : Handle}
    (hi : s.loader.cell i = .filled (.ok handle)) (hi' : s.loader.cell i' = .filled (.ok handle')) :
    handle.id = handle'.id ↔ i = i' := by
  refine ⟨(numbersHandles h).distinct i i' handle handle' hi hi', ?_⟩
  rintro rfl
  rw [Cell.handle_unique hi hi']

/-- **Without evicts, and while the disk only grows, tickets share a handle just if their keys have one course**,
as those do that were made for one artifact in time; then the artifact is initialized once. The disk is `d` when
the first ticket has been resolved and `d'` when the second one has. -/
theorem one_handle {kinds : List ArtifactKind} {as bs : List Action} {d d' : Disk} {q : Path}
    (hs : (initial kinds).run as = some s) (hs' : s.run bs = some s')
    (hevict : ∀ a ∈ as ++ bs, a.isEvict = false)
    (hgrows : (disks as ++ d :: (disks bs ++ [d'])).IsChain Disk.Grows) :
    (∀ p p' handle handle', s.Gives p handle → s'.Gives p' handle' →
        (handle.id = handle'.id ↔ p.key.course = p'.key.course)) ∧
      (AskedInTime (as ++ bs) d' q →
        (∀ p p' handle handle', s.Gives p handle → s'.Gives p' handle' →
            d.canonical? p.requested = some q → d'.canonical? p'.requested = some q →
              handle = handle') ∧
          ((∀ a ∈ as ++ bs, a.isCancel = false) → ∀ p handle, s'.Gives p handle →
            d'.canonical? p.requested = some q → s'.initializations d' q = 1)) := by
  have h := run_sound (sound_initial kinds) hs
  have h' := run_sound h hs'
  have hrun := run_append hs hs'
  obtain ⟨hlast, hgrows⟩ := grows_of_chain hgrows
  have hdisks : ∀ e ∈ disks (as ++ bs), e.Grows d' := by
    rw [disks, List.filterMap_append]
    exact hgrows
  have hcells : ∀ p ∈ s'.tickets, ∀ p' ∈ s'.tickets, p.cell = p'.cell ↔ p.key.course = p'.key.course :=
    fun p hp p' hp' => cell_eq_iff hrun hevict hp hp'
  -- what a ticket gave before is still in its cell, and the ticket is still there
  have hkept : ∀ p handle, s.Gives p handle →
      p ∈ s'.tickets ∧ s'.loader.cell p.cell = .filled (.ok handle) := fun p handle hp =>
    ⟨tickets_subset_run h hs' (hp.mem_tickets h),
      cell_filled_of_prefix h h' (log_prefix_run hs') (cell_of_gives h hp)⟩
  refine ⟨fun p p' handle handle' hp hp' => ?_, fun htime => ⟨?_, fun hcancel p handle hp hq => ?_⟩⟩
  · obtain ⟨hmem, hcell⟩ := hkept p handle hp
    rw [← hcells p hmem p' (hp'.mem_tickets h')]
    exact id_eq_iff h' hcell (cell_of_gives h' hp')
  · intro p p' handle handle' hp hp' hq hq'
    obtain ⟨hmem, hcell⟩ := hkept p handle hp
    have hmem' := hp'.mem_tickets h'
    have hcourse := (course_key hrun hdisks htime hmem (hlast.canonical? hq)).trans
      (course_key hrun hdisks htime hmem' hq').symm
    rw [(hcells p hmem p' hmem').2 hcourse] at hcell
    exact Cell.handle_unique hcell (cell_of_gives h' hp')
  · have hmem := hp.mem_tickets h'
    refine initializations_eq_one (openedOnce hrun hcancel) hmem hq (cell_of_gives h' hp) ?_
    intro p' hmem' hq'
    exact (hcells p' hmem' p hmem).2 ((course_key hrun hdisks htime hmem' hq').trans
      (course_key hrun hdisks htime hmem hq).symm)

/-- A disk grows when its first file comes and then stays. -/
theorem oneFile_appears (n : Nat) :
    (emptyDisk :: oneFile :: List.replicate n oneFile).IsChain Disk.Grows :=
  .cons_cons (Disk.grows_of_prefix rfl List.nil_prefix)
    (List.isChain_replicate_of_rel (n + 1) (Disk.Grows.refl oneFile))

/-- A file is asked for by a path before it is there and by a relative one afterwards. The first ticket is
loaded. -/
def askingTwice (path : Path) : List Action :=
  [.create emptyDisk path, .create oneFile ⟨"a"⟩, .resolve 0, .begin 0, .advance oneFile 0,
    .advance oneFile 0, .advance oneFile 0]

/-- Before the file is there it is asked for by its absolute path, so both tickets give one handle. -/
theorem one_handle_twoSpellings :
    ∃ s s' p p' handle handle', (initial [silentKind]).run (askingTwice ⟨"/a"⟩) = some s ∧
      s.run [.resolve 1, .finish 1] = some s' ∧ s.Gives p handle ∧ s'.Gives p' handle' ∧
      p.requested = ⟨"/a"⟩ ∧ p'.requested = ⟨"a"⟩ ∧ handle = handle' ∧
      s'.initializations oneFile ⟨"/a"⟩ = 1 := by
  have hvalues : ((initial [silentKind]).run (askingTwice ⟨"/a"⟩)).bind (fun s =>
      (s.run [.resolve 1, .finish 1]).map fun s' => (s.result? 0, s'.result? 1)) =
      some (some (⟨⟨"/a"⟩, ⟨"/a"⟩, 0⟩, 1), some (⟨⟨"a"⟩, ⟨"/a"⟩, 0⟩, 1)) := by decide +kernel
  obtain ⟨s, hs, hvalues⟩ := Option.bind_eq_some_iff.1 hvalues
  obtain ⟨s', hs', hvalues⟩ := Option.map_eq_some_iff.1 hvalues
  obtain ⟨hresult, hresult'⟩ := Prod.mk.inj hvalues
  obtain ⟨handle, hgives, -⟩ := gives_of_result? hresult
  obtain ⟨handle', hgives', -⟩ := gives_of_result? hresult'
  have hgrows : (disks (askingTwice ⟨"/a"⟩) ++
      oneFile :: (disks [.resolve 1, .finish 1] ++ [oneFile])).IsChain Disk.Grows := oneFile_appears 5
  have htime : AskedInTime (askingTwice ⟨"/a"⟩ ++ [.resolve 1, .finish 1]) oneFile ⟨"/a"⟩ := by
    intro disk path hmem _
    obtain ⟨rfl, rfl⟩ | ⟨rfl, rfl⟩ : disk = emptyDisk ∧ path = ⟨"/a"⟩ ∨ disk = oneFile ∧ path = ⟨"a"⟩ := by
      simpa [askingTwice] using hmem
    · exact .inr rfl
    · exact .inl (by decide +kernel)
  have hq : oneFile.canonical? ⟨"/a"⟩ = some ⟨"/a"⟩ := by decide +kernel
  have hq' : oneFile.canonical? ⟨"a"⟩ = some ⟨"/a"⟩ := by decide +kernel
  obtain ⟨-, hshared⟩ := one_handle hs hs' (by simp [askingTwice, Action.isEvict]) hgrows
  obtain ⟨hsame, honce⟩ := hshared htime
  exact ⟨s, s', _, _, handle, handle', hs, hs', hgives, hgives', rfl, rfl,
    hsame _ _ _ _ hgives hgives' hq hq',
    honce (by simp [askingTwice, Action.isCancel]) _ _ hgives' hq'⟩

/-- The second ticket is loaded as well. -/
def loadingSecond : List Action :=
  [.resolve 1, .begin 1, .advance oneFile 1, .advance oneFile 1, .advance oneFile 1]

/-- Nothing is evicted or given up and the disk only grows, but the two tickets give two handles and the
file is loaded twice. -/
theorem one_handle_tooEarly :
    ∃ s s' p p' handle handle', (initial [silentKind]).run (askingTwice ⟨"a"⟩) = some s ∧
      s.run loadingSecond = some s' ∧
      (∀ a ∈ askingTwice ⟨"a"⟩ ++ loadingSecond, a.isEvict = false ∧ a.isCancel = false) ∧
      (disks (askingTwice ⟨"a"⟩) ++ oneFile :: (disks loadingSecond ++ [oneFile])).IsChain Disk.Grows ∧
      s.Gives p handle ∧ s'.Gives p' handle' ∧ oneFile.canonical? p.requested = some ⟨"/a"⟩ ∧
      oneFile.canonical? p'.requested = some ⟨"/a"⟩ ∧ handle.id ≠ handle'.id ∧
      s'.initializations oneFile ⟨"/a"⟩ = 2 := by
  have hvalues : ((initial [silentKind]).run (askingTwice ⟨"a"⟩)).bind (fun s =>
      (s.run loadingSecond).map fun s' =>
        (s.result? 0, s'.result? 1, s'.initializations oneFile ⟨"/a"⟩)) =
      some (some (⟨⟨"a"⟩, ⟨"a"⟩, 0⟩, 1), some (⟨⟨"a"⟩, ⟨"/a"⟩, 1⟩, 2), 2) := by decide +kernel
  obtain ⟨s, hs, hvalues⟩ := Option.bind_eq_some_iff.1 hvalues
  obtain ⟨s', hs', hvalues⟩ := Option.map_eq_some_iff.1 hvalues
  simp only [Prod.mk.injEq] at hvalues
  obtain ⟨hresult, hresult', hcount⟩ := hvalues
  obtain ⟨handle, hgives, hid⟩ := gives_of_result? hresult
  obtain ⟨handle', hgives', hid'⟩ := gives_of_result? hresult'
  have hgrows : (disks (askingTwice ⟨"a"⟩) ++ oneFile :: (disks loadingSecond ++ [oneFile])).IsChain
      Disk.Grows := oneFile_appears 8
  have hq : oneFile.canonical? ⟨"a"⟩ = some ⟨"/a"⟩ := by decide +kernel
  refine ⟨s, s', _, _, handle, handle', hs, hs', ?_, hgrows, hgives, hgives', hq, hq, ?_, hcount⟩
  · simp [askingTwice, loadingSecond, Action.isEvict, Action.isCancel]
  · rw [hid, hid']
    decide

end Scene

end Loader

end ParserConformance
