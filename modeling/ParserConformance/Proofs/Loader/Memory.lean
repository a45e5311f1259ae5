import Mathlib.Data.List.Pairwise
import ParserConformance.Proofs.Loader.Scene

/-!
# What a loader keeps

What everybody who uses a loader can rely on, in whatever order things happen and whatever becomes of
the disk meanwhile.

## Main statement
- `Scene.run_memory`: outcomes stay, loads do not meet, handles are numbered in order, loads are
  counted and an evict only concerns tickets that are made later.
-/

namespace ParserConformance.Loader.Scene

variable {s s' : Scene}

/-! ### Outcomes stay -/

/-- Between `s` and the later scene `s'` no outcome is lost, and all who ask get the same one. -/
structure KeepsOutcomes (s s' : Scene) : Prop where
  /-- No cell has got an outcome twice. -/
  once : (s'.log.filterMap Event.filledCell?).Nodup
  /-- A cell keeps its outcome. -/
  stays : ∀ i o, s.loader.cell i = .filled o → s'.loader.cell i = .filled o
  /-- Calls for one cell return one outcome, whenever and for whichever ticket they are made. -/
  returned : ∀ c ∈ s.calls, ∀ c' ∈ s'.calls, c.ticket.cell = c'.ticket.cell →
    ∀ o o', c.state = .returned o → c'.state = .returned o' → o = o'
  /-- A call that waits can return the outcome as soon as the cell has one. -/
  finish : ∀ (j : Nat) (p : Ticket) o, s.calls[j]? = some ⟨p, .waiting⟩ → s.loader.cell p.cell = .filled o →
    ∃ s₁, s.step (.finish j) = some s₁ ∧ s₁.calls[j]? = some ⟨p, .returned o⟩
  /-- A handle is there just if the cell has it, not before and not if the load failed. -/
  ready : ∀ p handle, s.loader.ready? p = some handle ↔ s.loader.cell p.cell = .filled (.ok handle)
  /-- A handle that is there stays. -/
  ready_later : ∀ p handle, s.loader.ready? p = some handle → s'.loader.ready? p = some handle

theorem ready?_eq_some_iff {l : Loader} {p : Ticket} {handle : Handle} :
    l.ready? p = some handle ↔ l.cell p.cell = .filled (.ok handle) := by
  rw [ready?]
  split
  · next h hc => rw [hc, Option.some_inj, Cell.filled.injEq, Except.ok.injEq]
  · next hne =>
    constructor
    · nofun
    · exact fun hc => absurd hc (hne handle)

theorem cell_filled_of_prefix (h : s.Sound) (h' : s'.Sound) (hlog : s.log <+: s'.log) {i : Nat}
    {o : LoadOutcome} (hc : s.loader.cell i = .filled o) : s'.loader.cell i = .filled o :=
  (h'.accounts.filled i o).1 (hlog.subset ((h.accounts.filled i o).2 hc))

theorem keepsOutcomes (h : s.Sound) (h' : s'.Sound) (hlog : s.log <+: s'.log) :
    s.KeepsOutcomes s' := by
  have hcell : ∀ i o, s.loader.cell i = .filled o → s'.loader.cell i = .filled o :=
    fun i o hc => cell_filled_of_prefix h h' hlog hc
  refine ⟨h'.accounts.once, hcell, ?_, ?_, fun p handle => ready?_eq_some_iff, ?_⟩
  · intro c hc c' hc' hsame o o' ho ho'
    have hkept := hcell _ _ (h.returned c hc o ho)
    rw [hsame, h'.returned c' hc' o' ho'] at hkept
    exact (Cell.filled.inj hkept).symm
  · intro j p o hj hc
    refine ⟨s.setCall j p (.returned o), ?_, getElem?_setCall hj _⟩
    simp only [step, hj, hc]
  · intro p handle hr
    rw [ready?_eq_some_iff] at hr ⊢
    exact hcell _ _ hr

/-! ### Loads do not meet -/

/-- At most one load of a cell is under way, and if it is given up another one can begin. -/
structure LoadsAlone (s : Scene) : Prop where
  /-- Two calls never load one cell. -/
  alone : ∀ (j j' : Nat) (p p' : Ticket), s.calls[j]? = some ⟨p, .loading⟩ → s.calls[j']? = some ⟨p', .loading⟩ →
    p.cell = p'.cell → j = j'
  /-- A call that is given up while it loads leaves its cell empty and changes nothing else of the
  loader, and each call that waits for the cell may load it then. -/
  cancel : ∀ (j : Nat) (p : Ticket), s.calls[j]? = some ⟨p, .loading⟩ → ∃ s₁, s.step (.cancel j) = some s₁ ∧
    s₁.loader = s.loader.setCell p.cell .empty ∧ s₁.loader.cell p.cell = .empty ∧ s₁.log = s.log ∧
    ∀ (k : Nat) (q : Ticket), s₁.calls[k]? = some ⟨q, .waiting⟩ → q.cell = p.cell →
      ∃ s₂, s₁.step (.begin k) = some s₂ ∧ s₂.calls[k]? = some ⟨q, .loading⟩ ∧
        s₂.loader.cell q.cell = .loading .locating

theorem loadsAlone (h : s.Sound) : s.LoadsAlone := by
  constructor
  · intro j j' p p' hj hj' hcell
    by_contra hne
    -- without the first of the two calls, the second one still loads the cell
    have hcount := List.countP_set_add (Call.loads p.cell) hj ⟨p, .cancelled⟩
    have hrest : (s.calls.set j ⟨p, .cancelled⟩)[j']? = some ⟨p', .loading⟩ := by
      rw [List.getElem?_set_ne hne, hj']
    have hpos : 0 < (s.calls.set j ⟨p, .cancelled⟩).countP (Call.loads p.cell) :=
      List.countP_pos_iff.2 ⟨_, List.mem_of_getElem? hrest, by
        simp [Call.loads, CallState.isLoading, hcell]⟩
    have hle : s.calls.countP (Call.loads p.cell) ≤ 1 := by
      rw [h.loading]
      exact Bool.toNat_le _
    simp only [Call.loads, CallState.isLoading, beq_self_eq_true, Bool.and_true,
      Bool.toNat_true, Bool.toNat_false] at hcount hpos hle
    omega
  · intro j p hj
    obtain ⟨stage, hc⟩ := h.exists_stage hj
    have hi := h.cell_lt (List.mem_of_getElem? hj)
    have hempty := cell_setCell_self hi Cell.empty
    refine ⟨{ s.setCall j p .cancelled with loader := s.loader.setCell p.cell .empty }, ?_, rfl, hempty,
      rfl, ?_⟩
    · simp only [step, hj, cancel_of_loading hc]
    · intro k q hk hq
      have hq' : (s.loader.setCell p.cell .empty).cell q.cell = .empty := by rw [hq, hempty]
      have hlt : q.cell < (s.loader.setCell p.cell .empty).cells.length := by
        rw [hq, setCell, List.length_set]
        exact hi
      exact ⟨_, begin_eq hk hq', getElem?_setCall hk _, cell_setCell_self hlt _⟩

/-! ### Numbers -/

/-- Handles are numbered from one on, in the order in which their loads were completed. -/
structure NumbersHandles (s : Scene) : Prop where
  /-- The numbers of the handles in the order of their completion. -/
  ids : s.log.filterMap Event.id? = List.range' 1 s.loader.issued
  /-- The handles are those in the cells. -/
  filled : ∀ i handle, .filled i (.ok handle) ∈ s.log ↔ s.loader.cell i = .filled (.ok handle)
  /-- No two cells have handles of one number. -/
  distinct : ∀ i i' handle handle', s.loader.cell i = .filled (.ok handle) →
    s.loader.cell i' = .filled (.ok handle') → handle.id = handle'.id → i = i'

theorem numbersHandles (h : s.Sound) : s.NumbersHandles := by
  refine ⟨h.accounts.ids, fun i handle => h.accounts.filled i _, ?_⟩
  intro i i' handle handle' hi hi' hid
  have hnodup : (s.log.filterMap Event.id?).Nodup := by
    rw [h.accounts.ids]
    exact List.nodup_range'
  have hpairwise := List.pairwise_filterMap.1 hnodup
  have : Std.Symm fun e e' : Event =>
      ∀ n, e.id? = some n → ∀ n', e'.id? = some n' → n ≠ n' :=
    ⟨fun e e' hne n hn n' hn' heq => hne n' hn' n hn heq.symm⟩
  by_contra hne
  have hevents : Event.filled i (.ok handle) ≠ .filled i' (.ok handle') :=
    fun he => hne (Event.filled.inj he).1
  exact hpairwise.forall ((h.accounts.filled i _).2 hi) ((h.accounts.filled i' _).2 hi') hevents
    handle.id rfl handle'.id rfl hid

/-! ### Counts -/

/-- Loads are counted when a kind is found, whatever becomes of them. -/
structure CountsLoads (s s' : Scene) : Prop where
  /-- The count is the number of loads that found a kind. -/
  found : s.loader.loads = s.log.countP Event.isFound
  /-- It never becomes smaller. -/
  mono : s.loader.loads ≤ s'.loader.loads
  /-- It is at least the number of handles. -/
  issued_le : s.loader.issued ≤ s.loader.loads

theorem countsLoads (h : s.Sound) (h' : s'.Sound) (hlog : s.log <+: s'.log) : s.CountsLoads s' := by
  refine ⟨h.accounts.found.symm, ?_, Nat.le_trans (Nat.le_add_right _ _) h.accounts.balance⟩
  rw [← h.accounts.found, ← h'.accounts.found]
  exact hlog.sublist.countP_le

/-! ### Evicting -/

/-- An evict changes no cell, count, ticket or call, and a ticket that is made for the same path right
after it has an empty cell of its own. -/
structure EvictsPaths (s : Scene) : Prop where
  /-- All but the paths is as before. -/
  evict : ∀ disk path s₁, s.step (.evict disk path) = some s₁ →
    s₁.loader.cells = s.loader.cells ∧ s₁.loader.issued = s.loader.issued ∧
      s₁.loader.loads = s.loader.loads ∧ s₁.tickets = s.tickets ∧ s₁.calls = s.calls ∧ s₁.log = s.log
  /-- The next ticket for the path shares its cell with none before. -/
  create : ∀ disk path s₁ s₂, s.step (.evict disk path) = some s₁ →
    s₁.step (.create disk path) = some s₂ →
      ∃ p, s₂.tickets = s.tickets ++ [p] ∧ s₂.loader.cell p.cell = .empty ∧
        ∀ q ∈ s.tickets, q.cell ≠ p.cell

theorem evictsPaths (h : s.Sound) : s.EvictsPaths := by
  constructor
  · intro disk path s₁ h₁
    obtain rfl := Option.some.inj h₁
    exact ⟨rfl, rfl, rfl, rfl, rfl, rfl⟩
  · intro disk path s₁ s₂ h₁ h₂
    obtain rfl := Option.some.inj h₁
    obtain rfl := create_eq h₂
    have hcreate := create_of_none (cellAt?_evict s.loader disk path)
    refine ⟨_, rfl, ?_, ?_⟩
    · rw [cell_create, hcreate]
      exact cell_eq_empty (Nat.le_refl _)
    · intro q hq
      rw [hcreate]
      exact Nat.ne_of_lt (h.tickets q hq)

/-! ### Whole runs -/

/-- What holds after any run from a new loader on, and between it and what follows. -/
theorem run_memory {kinds : List ArtifactKind} {as bs : List Action}
    (hs : (initial kinds).run as = some s) (hs' : s.run bs = some s') :
    s.KeepsOutcomes s' ∧ s.LoadsAlone ∧ s.NumbersHandles ∧ s.CountsLoads s' ∧ s.EvictsPaths := by
  have h := run_sound (sound_initial kinds) hs
  have h' := run_sound h hs'
  have hlog := log_prefix_run hs'
  exact ⟨keepsOutcomes h h' hlog, loadsAlone h, numbersHandles h, countsLoads h h' hlog, evictsPaths h⟩

/-- A kind that takes every artifact and makes a parser that answers nothing but errors. -/
def silentKind : ArtifactKind :=
  ⟨"silent", fun _ _ => true, fun _ _ _ => .ready (.ofAnswers fun _ => ⟨0, .error "silent"⟩)⟩

/-- A disk with one file, which is not empty. -/
def oneFile : Disk := { here := [], entries := [(["a"], .file 0o644 [1])] }

/-- A disk without files. -/
def emptyDisk : Disk := { here := [], entries := [] }

/-- A call begins to load a file and is given up after a kind has been found. Another one for the same
ticket loads it then. -/
def takingOver : List Action :=
  [.create oneFile ⟨"/a"⟩, .resolve 0, .resolve 0, .begin 0, .advance oneFile 0, .cancel 0, .begin 1,
    .advance oneFile 1, .advance oneFile 1, .advance oneFile 1]

/-- The path is evicted, and a call for a new ticket fails, as the file is gone. -/
def failing : List Action :=
  [.evict oneFile ⟨"/a"⟩, .create oneFile ⟨"/a"⟩, .resolve 1, .begin 2,
    .advance { here := [], entries := [] } 2]

theorem run_memory_takingOver :
    ∃ s s', (initial [silentKind]).run takingOver = some s ∧ s.run failing = some s' ∧
      s.loader.issued = 1 ∧ s.loader.loads = 2 ∧ s'.loader.loads = 2 ∧
      (s.KeepsOutcomes s' ∧ s.LoadsAlone ∧ s.NumbersHandles ∧ s.CountsLoads s' ∧ s.EvictsPaths) := by
  have hcounts : ((initial [silentKind]).run takingOver).bind (fun s => (s.run failing).map fun s' =>
      (s.loader.issued, s.loader.loads, s'.loader.loads)) = some (1, 2, 2) := by decide +kernel
  obtain ⟨s, hs, hmap⟩ := Option.bind_eq_some_iff.1 hcounts
  obtain ⟨s', hs', hvalues⟩ := Option.map_eq_some_iff.1 hmap
  simp only [Prod.mk.injEq] at hvalues
  obtain ⟨hissued, hloads, hloads'⟩ := hvalues
  exact ⟨s, s', hs, hs', hissued, hloads, hloads', run_memory hs hs'⟩

end ParserConformance.Loader.Scene
