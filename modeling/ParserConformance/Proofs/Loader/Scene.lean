import ParserConformance.Proofs.Loader.Accounts

/-!
# Using a loader from many sides

A scene is a loader together with everybody who uses it. Tickets are made, and any number of calls
resolve them at the same time. A call loads the cell of its ticket if it finds this empty, else it
waits; it may be given up before it returns. The operations come in any order, and the disk may be
another one at each of them.
-/

namespace ParserConformance.Loader

/-- How far a call has come. -/
inductive CallState where
  /-- It waits for the outcome of the cell, or for its turn to load it. -/
  | waiting
  /-- It loads the cell. -/
  | loading
  /-- It has returned this outcome. -/
  | returned (outcome : LoadOutcome)
  /-- It has been given up. -/
  | cancelled

/-- Somebody's attempt to resolve a ticket. -/
structure Call where
  /-- The ticket. -/
  ticket : Ticket
  /-- How far it has come. -/
  state : CallState

/-- Whether a call loads its cell. -/
def CallState.isLoading : CallState → Bool
  | .loading => true
  | _ => false

/-- Whether the call loads the cell `i`. -/
def Call.loads (i : Nat) (c : Call) : Bool := c.state.isLoading && c.ticket.cell == i

/-- A loader and its users. -/
structure Scene where
  /-- The loader. -/
  loader : Loader
  /-- All tickets that were made. -/
  tickets : List Ticket
  /-- All calls, in the order in which they were made. -/
  calls : List Call
  /-- What loads have come to, in order. -/
  log : List Event

namespace Scene

/-- A new loader that nobody has used. -/
def initial (kinds : List ArtifactKind) : Scene := ⟨.new kinds, [], [], []⟩

/-- Something that happens in a scene. That somebody asks whether a handle is there changes
nothing and is left out. -/
inductive Action where
  /-- A ticket is made for a path. -/
  | create (disk : Disk) (path : Path)
  /-- A path is evicted. -/
  | evict (disk : Disk) (path : Path)
  /-- A call is made to resolve the ticket at this place. -/
  | resolve (k : Nat)
  /-- The call at this place begins to load its cell. -/
  | begin (j : Nat)
  /-- The call at this place goes through one stage of the load. -/
  | advance (disk : Disk) (j : Nat)
  /-- The call at this place returns the outcome that the cell has got. -/
  | finish (j : Nat)
  /-- The call at this place is given up. -/
  | cancel (j : Nat)

/-- The scene after a ticket for `p` has been resolved as far as `state` by the call at `j`. -/
def setCall (s : Scene) (j : Nat) (p : Ticket) (state : CallState) : Scene :=
  { s with calls := s.calls.set j ⟨p, state⟩ }

/-- The scene after something has happened, if it can happen. -/
def step (s : Scene) : Action → Option Scene
  | .create disk path =>
    let (l, p) := s.loader.create disk path
    some { s with loader := l, tickets := s.tickets ++ [p] }
  | .evict disk path => some { s with loader := (s.loader.evict disk path).1 }
  | .resolve k =>
    match s.tickets[k]? with
    | some p => some { s with calls := s.calls ++ [⟨p, .waiting⟩] }
    | none => none
  | .begin j =>
    match s.calls[j]? with
    | some ⟨p, .waiting⟩ =>
      match s.loader.cell p.cell with
      | .empty => some { s.setCall j p .loading with loader := s.loader.begin p }
      | _ => none
    | _ => none
  | .advance disk j =>
    match s.calls[j]? with
    | some ⟨p, .loading⟩ =>
      let l := s.loader.advance disk p
      let log := s.log ++ eventsOf p.cell (s.loader.findsKind disk p) (l.cell p.cell)
      match (l.cell p.cell).outcome? with
      | none => some { s with loader := l, log }
      | some outcome => some { s.setCall j p (.returned outcome) with loader := l, log }
    | _ => none
  | .finish j =>
    match s.calls[j]? with
    | some ⟨p, .waiting⟩ =>
      match s.loader.cell p.cell with
      | .filled outcome => some (s.setCall j p (.returned outcome))
      | _ => none
    | _ => none
  | .cancel j =>
    match s.calls[j]? with
    | some ⟨p, .waiting⟩ => some (s.setCall j p .cancelled)
    | some ⟨p, .loading⟩ => some { s.setCall j p .cancelled with loader := s.loader.cancel p }
    | _ => none

/-- The scene after several things have happened one after the other, if they can. -/
def run (s : Scene) (as : List Action) : Option Scene := as.foldlM step s

/-! ### What holds in every scene -/

/-- The loader's accounts are in order, and calls are where their cells are. -/
structure Sound (s : Scene) : Prop where
  /-- The accounts of the loader are in order. -/
  accounts : Accounts s.loader s.log
  /-- Tickets name cells that exist. -/
  tickets : ∀ p ∈ s.tickets, p.cell < s.loader.cells.length
  /-- Calls are made for tickets. -/
  calls : ∀ c ∈ s.calls, c.ticket ∈ s.tickets
  /-- What a call has returned is what the cell holds. -/
  returned : ∀ c ∈ s.calls, ∀ o, c.state = .returned o → s.loader.cell c.ticket.cell = .filled o
  /-- A cell that is being loaded is so by one call, any other by none. -/
  loading : ∀ i, s.calls.countP (Call.loads i) = (s.loader.cell i).isLoading.toNat

theorem sound_initial (kinds : List ArtifactKind) : (initial kinds).Sound where
  accounts := accounts_new kinds
  tickets := fun p hp => absurd hp List.not_mem_nil
  calls := fun c hc => absurd hc List.not_mem_nil
  returned := fun c hc => absurd hc List.not_mem_nil
  loading := fun i => by simp [initial, new, cell, Cell.isLoading]

theorem Sound.cell_lt {s : Scene} (h : s.Sound) {c : Call} (hc : c ∈ s.calls) :
    c.ticket.cell < s.loader.cells.length := h.tickets _ (h.calls _ hc)

/-! ### One step -/

variable {s s' : Scene}

theorem getElem?_setCall {j : Nat} {p : Ticket} {state : CallState}
    (hj : s.calls[j]? = some ⟨p, state⟩) (state' : CallState) :
    (s.setCall j p state').calls[j]? = some ⟨p, state'⟩ :=
  List.getElem?_set_self (List.getElem?_eq_some_iff.1 hj).1

theorem create_eq {disk : Disk} {path : Path} (h : s.step (.create disk path) = some s') :
    s' = { s with
      loader := (s.loader.create disk path).1
      tickets := s.tickets ++ [(s.loader.create disk path).2] } :=
  (Option.some.inj h).symm

/-- A call that waits for an empty cell can begin to load it. -/
theorem begin_eq {j : Nat} {p : Ticket} (hj : s.calls[j]? = some ⟨p, .waiting⟩)
    (hc : s.loader.cell p.cell = .empty) :
    s.step (.begin j) =
      some { s.setCall j p .loading with loader := s.loader.setCell p.cell (.loading .locating) } := by
  simp only [step, hj, hc, begin_of_empty hc]

theorem begin_cases {j : Nat} (h : s.step (.begin j) = some s') :
    ∃ p, s.calls[j]? = some ⟨p, .waiting⟩ ∧ s.loader.cell p.cell = .empty ∧
      s' = { s.setCall j p .loading with loader := s.loader.setCell p.cell (.loading .locating) } := by
  simp only [step] at h
  split at h
  · next p hj =>
    split at h
    · next hc =>
      rw [begin_of_empty hc] at h
      exact ⟨p, hj, hc, (Option.some.inj h).symm⟩
    · cases h
  · cases h

theorem advance_cases {disk : Disk} {j : Nat} (h : s.step (.advance disk j) = some s') :
    ∃ p state, s.calls[j]? = some ⟨p, .loading⟩ ∧ s'.loader = s.loader.advance disk p ∧
      s'.tickets = s.tickets ∧ s'.calls = s.calls.set j ⟨p, state⟩ ∧
      s'.log = s.log ++ eventsOf p.cell (s.loader.findsKind disk p) (s'.loader.cell p.cell) ∧
      (state = .loading ∧ (s'.loader.cell p.cell).outcome? = none ∨
        ∃ o, state = .returned o ∧ s'.loader.cell p.cell = .filled o) := by
  simp only [step] at h
  split at h
  · next p hj =>
    split at h
    · next hnone =>
      obtain rfl := Option.some.inj h
      refine ⟨p, .loading, hj, rfl, rfl, ?_, rfl, .inl ⟨rfl, hnone⟩⟩
      obtain ⟨hlt, he⟩ := List.getElem?_eq_some_iff.1 hj
      rw [← he, List.set_getElem_self]
    · next o ho =>
      obtain rfl := Option.some.inj h
      exact ⟨p, .returned o, hj, rfl, rfl, rfl, rfl, .inr ⟨o, rfl, Cell.eq_filled_of_outcome? ho⟩⟩
  · cases h

theorem finish_cases {j : Nat} (h : s.step (.finish j) = some s') :
    ∃ p o, s.calls[j]? = some ⟨p, .waiting⟩ ∧ s.loader.cell p.cell = .filled o ∧
      s' = s.setCall j p (.returned o) := by
  simp only [step] at h
  split at h
  · next p hj =>
    split at h
    · next o hc => exact ⟨p, o, hj, hc, (Option.some.inj h).symm⟩
    · cases h
  · cases h

theorem cancel_cases {j : Nat} (h : s.step (.cancel j) = some s') :
    ∃ p, s.calls[j]? = some ⟨p, .waiting⟩ ∧ s' = s.setCall j p .cancelled ∨
      s.calls[j]? = some ⟨p, .loading⟩ ∧
        s' = { s.setCall j p .cancelled with loader := s.loader.cancel p } := by
  simp only [step] at h
  split at h
  · next p hj => exact ⟨p, .inl ⟨hj, (Option.some.inj h).symm⟩⟩
  · next p hj => exact ⟨p, .inr ⟨hj, (Option.some.inj h).symm⟩⟩
  · cases h

/-- A call that loads has a cell that is being loaded. -/
theorem Sound.exists_stage (h : s.Sound) {j : Nat} {p : Ticket}
    (hj : s.calls[j]? = some ⟨p, .loading⟩) : ∃ stage, s.loader.cell p.cell = .loading stage := by
  have hpos : 0 < s.calls.countP (Call.loads p.cell) :=
    List.countP_pos_iff.2 ⟨_, List.mem_of_getElem? hj, by simp [Call.loads, CallState.isLoading]⟩
  rw [h.loading] at hpos
  cases hc : s.loader.cell p.cell with
  | loading stage => exact ⟨stage, rfl⟩
  | empty | filled _ =>
    rw [hc] at hpos
    exact absurd hpos (Nat.lt_irrefl 0)

/-- What has to be shown when a call and its cell change: the cell keeps its outcome, and it is
loaded after the change if and only if the call loads it, as it was before. -/
theorem Sound.update (h : s.Sound) {j : Nat} {p : Ticket} {state state' : CallState}
    (hj : s.calls[j]? = some ⟨p, state⟩) (haccounts : Accounts s'.loader s'.log)
    (htickets : s'.tickets = s.tickets) (hcalls : s'.calls = s.calls.set j ⟨p, state'⟩)
    (hlength : s'.loader.cells.length = s.loader.cells.length)
    (hother : ∀ i, p.cell ≠ i → s'.loader.cell i = s.loader.cell i)
    (hkeep : ∀ o, s.loader.cell p.cell = .filled o → s'.loader.cell p.cell = .filled o)
    (hreturned : ∀ o, state' = .returned o → s'.loader.cell p.cell = .filled o)
    (hloading : (s'.loader.cell p.cell).isLoading.toNat + state.isLoading.toNat =
      (s.loader.cell p.cell).isLoading.toNat + state'.isLoading.toNat) : s'.Sound := by
  have hp : p ∈ s.tickets := h.calls _ (List.mem_of_getElem? hj)
  refine ⟨haccounts, ?_, ?_, ?_, ?_⟩
  · rw [htickets, hlength]
    exact h.tickets
  · rw [htickets, hcalls]
    intro c hc
    rcases List.mem_or_eq_of_mem_set hc with hc | rfl
    · exact h.calls c hc
    · exact hp
  · rw [hcalls]
    intro c hc o ho
    rcases List.mem_or_eq_of_mem_set hc with hc | rfl
    · have := h.returned c hc o ho
      by_cases hcell : p.cell = c.ticket.cell
      · rw [← hcell] at this ⊢
        exact hkeep o this
      · rw [hother _ hcell, this]
    · exact hreturned o ho
  · intro i
    have hcount := List.countP_set_add (Call.loads i) hj ⟨p, state'⟩
    rw [h.loading i, ← hcalls] at hcount
    by_cases hi : p.cell = i
    · subst hi
      simp only [Call.loads, beq_self_eq_true, Bool.and_true] at hcount
      omega
    · simp only [Call.loads, beq_eq_false_iff_ne.2 hi, Bool.and_false, Bool.toNat_false] at hcount
      rw [hother i hi]
      omega

/-- A call may begin to load its cell or give that up: neither the old content of the cell nor the
new one is an outcome. -/
theorem Sound.setCell (h : s.Sound) {j : Nat} {p : Ticket} {state state' : CallState}
    (hj : s.calls[j]? = some ⟨p, state⟩) (hc : (s.loader.cell p.cell).outcome? = none) {c : Cell}
    (hc' : c.outcome? = none) (hopening : c.isOpening = false) (hstate' : ∀ o, state' ≠ .returned o)
    (hloading : c.isLoading.toNat + state.isLoading.toNat =
      (s.loader.cell p.cell).isLoading.toNat + state'.isLoading.toNat) :
    Sound { s.setCall j p state' with loader := s.loader.setCell p.cell c } := by
  have hi := h.cell_lt (List.mem_of_getElem? hj)
  refine h.update hj (h.accounts.setCell hi hc hc' hopening) rfl rfl List.length_set
    (fun i hp => cell_setCell_ne hp _ _) ?_ (fun o ho => absurd ho (hstate' o)) ?_
  · intro o ho
    rw [ho] at hc
    cases hc
  · rw [cell_setCell_self hi]
    exact hloading

theorem Sound.create (h : s.Sound) (disk : Disk) (path : Path) :
    Sound { s with
      loader := (s.loader.create disk path).1
      tickets := s.tickets ++ [(s.loader.create disk path).2] } := by
  have hcell := cell_create s.loader disk path
  refine ⟨h.accounts.create disk path, ?_, ?_, ?_, ?_⟩
  · intro p hp
    rcases List.mem_append.1 hp with hp | hp
    · exact Nat.lt_of_lt_of_le (h.tickets p hp) (length_le_create s.loader disk path)
    · rw [List.mem_singleton.1 hp]
      exact cell_create_lt h.accounts.places disk path
  · exact fun c hc => List.mem_append_left _ (h.calls c hc)
  · exact fun c hc o ho => (hcell _).trans (h.returned c hc o ho)
  · exact fun i => (h.loading i).trans (congrArg (fun c => c.isLoading.toNat) (hcell i)).symm

theorem Sound.resolve (h : s.Sound) {p : Ticket} (hp : p ∈ s.tickets) :
    Sound { s with calls := s.calls ++ [⟨p, .waiting⟩] } := by
  refine ⟨h.accounts, h.tickets, ?_, ?_, ?_⟩
  · intro c hc
    rcases List.mem_append.1 hc with hc | hc
    · exact h.calls c hc
    · rw [List.mem_singleton.1 hc]
      exact hp
  · intro c hc o ho
    rcases List.mem_append.1 hc with hc | hc
    · exact h.returned c hc o ho
    · rw [List.mem_singleton.1 hc] at ho
      cases ho
  · intro i
    rw [List.countP_append, h.loading]
    rfl

theorem Sound.advance (h : s.Sound) {disk : Disk} {j : Nat}
    (ha : s.step (.advance disk j) = some s') : s'.Sound := by
  obtain ⟨p, state, hj, hl, ht, hcs, hlog, hstate⟩ := advance_cases ha
  obtain ⟨stage, hc⟩ := h.exists_stage hj
  have hstage := stage_advance disk hc
  have hi := h.cell_lt (List.mem_of_getElem? hj)
  have haccounts := h.accounts.stage hc hstage
  rw [← hl] at hstage haccounts
  rw [← hlog] at haccounts
  refine h.update hj haccounts ht hcs hstage.changesOnly.length hstage.changesOnly.cell ?_ ?_ ?_
  · intro o ho
    rw [hc] at ho
    cases ho
  · rintro o rfl
    rcases hstate with ⟨hl, -⟩ | ⟨o', ho, hf⟩
    · cases hl
    · cases ho
      exact hf
  · rcases hstate with ⟨rfl, hnone⟩ | ⟨o, rfl, hf⟩
    · rcases hstage.goes_on_or_filled hc hi with ⟨stage', hc'⟩ | ⟨o, ho⟩
      · rw [hc, hc']
        rfl
      · rw [ho] at hnone
        cases hnone
    · rw [hc, hf]
      rfl

theorem step_sound (h : s.Sound) {a : Action} (ha : s.step a = some s') : s'.Sound := by
  cases a with
  | create disk path =>
    obtain rfl := create_eq ha
    exact h.create disk path
  | evict disk path =>
    obtain rfl := Option.some.inj ha
    exact ⟨h.accounts.evict disk path, h.tickets, h.calls, h.returned, h.loading⟩
  | resolve k =>
    simp only [step] at ha
    split at ha
    · next p hp =>
      obtain rfl := Option.some.inj ha
      exact h.resolve (List.mem_of_getElem? hp)
    · cases ha
  | begin j =>
    obtain ⟨p, hj, hc, rfl⟩ := begin_cases ha
    refine h.setCell hj ?_ rfl rfl nofun ?_ <;> rw [hc] <;> rfl
  | advance disk j => exact h.advance ha
  | finish j =>
    obtain ⟨p, o, hj, hc, rfl⟩ := finish_cases ha
    refine h.update hj h.accounts rfl rfl rfl (fun i hp => rfl) (fun o ho => ho) ?_ rfl
    intro o' ho
    cases ho
    exact hc
  | cancel j =>
    obtain ⟨p, ⟨hj, rfl⟩ | ⟨hj, rfl⟩⟩ := cancel_cases ha
    · exact h.update hj h.accounts rfl rfl rfl (fun i hp => rfl) (fun o ho => ho) nofun rfl
    · obtain ⟨stage, hc⟩ := h.exists_stage hj
      rw [cancel_of_loading hc]
      refine h.setCell hj ?_ rfl rfl nofun ?_ <;> rw [hc] <;> rfl

/-- Events are only added. -/
theorem log_prefix_step {a : Action} (ha : s.step a = some s') : s.log <+: s'.log := by
  cases a with
  | create disk path | evict disk path =>
    obtain rfl := Option.some.inj ha
    exact List.prefix_rfl
  | resolve k =>
    simp only [step] at ha
    split at ha
    · obtain rfl := Option.some.inj ha
      exact List.prefix_rfl
    · cases ha
  | begin j =>
    obtain ⟨p, -, -, rfl⟩ := begin_cases ha
    exact List.prefix_rfl
  | advance disk j =>
    obtain ⟨p, state, -, -, -, -, hlog, -⟩ := advance_cases ha
    rw [hlog]
    exact List.prefix_append _ _
  | finish j =>
    obtain ⟨p, o, -, -, rfl⟩ := finish_cases ha
    exact List.prefix_rfl
  | cancel j =>
    obtain ⟨p, ⟨-, rfl⟩ | ⟨-, rfl⟩⟩ := cancel_cases ha
    · exact List.prefix_rfl
    · exact List.prefix_rfl

/-! ### Whole runs -/

theorem run_sound {as : List Action} (h : s.Sound) (hs : s.run as = some s') : s'.Sound := by
  induction as generalizing s with
  | nil =>
    obtain rfl := Option.some.inj hs
    exact h
  | cons a as ih =>
    obtain ⟨mid, ha, has⟩ := Option.bind_eq_some_iff.1 hs
    exact ih (step_sound h ha) has

/-- What every possible step of a run keeps is kept by the run. -/
theorem run_induction {P : Scene → Prop} {as : List Action} (h : s.Sound) (hs : s.run as = some s')
    (hstep : ∀ t a t', a ∈ as → t.Sound → P t → t.step a = some t' → P t') (hP : P s) : P s' := by
  induction as generalizing s with
  | nil =>
    obtain rfl := Option.some.inj hs
    exact hP
  | cons a as ih =>
    obtain ⟨mid, ha, has⟩ := Option.bind_eq_some_iff.1 hs
    exact ih (step_sound h ha) has (fun t b t' hb => hstep t b t' (List.mem_cons_of_mem a hb))
      (hstep s a mid List.mem_cons_self h hP ha)

theorem log_prefix_run {as : List Action} (hs : s.run as = some s') : s.log <+: s'.log := by
  induction as generalizing s with
  | nil =>
    obtain rfl := Option.some.inj hs
    exact List.prefix_rfl
  | cons a as ih =>
    obtain ⟨mid, ha, has⟩ := Option.bind_eq_some_iff.1 hs
    exact (log_prefix_step ha).trans (ih has)

/-! ### What tickets give -/

/-- Whether a call for a ticket has returned a handle. -/
def Gives (s : Scene) (p : Ticket) (handle : Handle) : Prop :=
  ∃ c ∈ s.calls, c.ticket = p ∧ c.state = .returned (.ok handle)

theorem cell_of_gives (h : s.Sound) {p : Ticket} {handle : Handle} (hp : s.Gives p handle) :
    s.loader.cell p.cell = .filled (.ok handle) := by
  obtain ⟨c, hc, rfl, hstate⟩ := hp
  exact h.returned c hc _ hstate

theorem Gives.mem_tickets {p : Ticket} {handle : Handle} (hp : s.Gives p handle) (h : s.Sound) :
    p ∈ s.tickets := by
  obtain ⟨c, hc, rfl, -⟩ := hp
  exact h.calls c hc

/-- The ticket of a call and the number of the handle that it has returned. -/
def result? (s : Scene) (j : Nat) : Option (Ticket × Nat) :=
  match s.calls[j]? with
  | some ⟨p, .returned (.ok handle)⟩ => some (p, handle.id)
  | _ => none

theorem gives_of_result? {j n : Nat} {p : Ticket} (h : s.result? j = some (p, n)) :
    ∃ handle, s.Gives p handle ∧ handle.id = n := by
  rw [result?] at h
  split at h
  · next q handle hj =>
    obtain ⟨rfl, rfl⟩ := Prod.mk.inj (Option.some.inj h)
    exact ⟨handle, ⟨_, List.mem_of_getElem? hj, rfl, rfl⟩, rfl⟩
  · cases h

end Scene

end ParserConformance.Loader
