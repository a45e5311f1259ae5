import ParserConformance.Proofs.List.Entries
import ParserConformance.Suite.Board

/-!
# Schedules

A schedule is a list of moves from the board on which no task has begun. `Board.Sound` says which
outcome stands in the slot of each task, however far the task has come; every move preserves it.
Each move brings one task one of three steps further, and as long as tasks are left some move is
possible, so every schedule can be completed and none has more than three moves for each task.

## Main statements
- `Board.moves_sound`: every schedule leads to a sound board.
- `Board.moves_remaining` and `Board.exists_move`: every schedule comes to an end.
- `Board.outcomes_eq`: the outcomes on a board that is over.
- `Board.exists_name_eq`: the fixtures that outcomes are about.
-/

namespace ParserConformance.Suite

open Corpus (Fixture)

variable {check : Disk → Fixture → Option Check.Trace × Disk}

/-- How many moves a task still needs. -/
def TaskState.remaining : TaskState → Nat
  | .waiting => 3
  | .running => 2
  | .ended _ => 1
  | .joined _ => 0

namespace Board

/-! ### Moves -/

/-- What becomes of the slot of a task when it is joined. -/
def fill (handle : HandleNumber) (f : Fixture) (trace : Option Check.Trace) : Option Outcome :=
  trace.map fun t => outcome handle f t.verdict

theorem start_cases {b b' : Board} {i : Nat} (h : b.move check (.start i) = some b') :
    ∃ f, b.tasks[i]? = some (f, .waiting) ∧ b' = { b with tasks := b.tasks.set i (f, .running) } := by
  rw [move] at h
  split at h
  · next f hf =>
    split at h
    · exact ⟨f, hf, (Option.some.inj h).symm⟩
    · cases h
  · cases h

theorem finish_cases {b b' : Board} {i : Nat} (h : b.move check (.finish i) = some b') :
    ∃ f, b.tasks[i]? = some (f, .running) ∧
      b' = { b with
        tasks := b.tasks.set i (f, .ended (check b.disk f).1)
        disk := (check b.disk f).2 } := by
  rw [move] at h
  split at h
  · next f hf => exact ⟨f, hf, (Option.some.inj h).symm⟩
  · cases h

theorem join_cases {b b' : Board} {i : Nat} (h : b.move check (.join i) = some b') :
    ∃ f trace, b.tasks[i]? = some (f, .ended trace) ∧
      b'.tasks = b.tasks.set i (f, .joined trace) ∧ b'.handle = b.handle ∧
      (trace = none ∧ b'.slots = b.slots ∨ b'.slots = b.slots.set i (fill b.handle f trace)) := by
  rw [move] at h
  split at h
  · next f hf =>
    obtain rfl := Option.some.inj h
    exact ⟨f, none, hf, rfl, rfl, .inl ⟨rfl, rfl⟩⟩
  · next f trace hf =>
    obtain rfl := Option.some.inj h
    exact ⟨f, some trace, hf, rfl, rfl, .inr rfl⟩
  · cases h

/-! ### Slots -/

/-- Which outcome stands in the slot of a task, if the check of a fixture has the verdict
`verdict?`, or none if it breaks down. -/
inductive Slotted (verdict? : Fixture → Option Verdict) (handle : HandleNumber) :
    Fixture × TaskState → Option Outcome → Prop where
  /-- None before the task has begun. -/
  | waiting {f : Fixture} : Slotted verdict? handle (f, .waiting) none
  /-- None while it runs. -/
  | running {f : Fixture} : Slotted verdict? handle (f, .running) none
  /-- None when it has ended. -/
  | ended {f : Fixture} {trace : Option Check.Trace} (own : trace.map Check.Trace.verdict = verdict? f) :
      Slotted verdict? handle (f, .ended trace) none
  /-- The fixture's own when it has been joined. -/
  | joined {f : Fixture} {trace : Option Check.Trace} (own : trace.map Check.Trace.verdict = verdict? f) :
      Slotted verdict? handle (f, .joined trace) (fill handle f trace)

/-- A board for fixtures and a handle on which each slot holds the outcome that it should. -/
structure Sound (verdict? : Fixture → Option Verdict) (handle : HandleNumber) (fixtures : List Fixture)
    (b : Board) : Prop where
  /-- The checks use the parser of the handle. -/
  handle_eq : b.handle = handle
  /-- The tasks are those of the fixtures, in order. -/
  fixtures_eq : b.tasks.map Prod.fst = fixtures
  /-- Each slot belongs to the task at its place. -/
  slots : List.Forall₂ (Slotted verdict? handle) b.tasks b.slots

theorem sound_initial (verdict? : Fixture → Option Verdict) (jobs : Nat) (handle : HandleNumber)
    (disk : Disk) (fixtures : List Fixture) :
    (initial jobs handle disk fixtures).Sound verdict? handle fixtures := by
  refine ⟨rfl, ?_, ?_⟩
  · rw [initial, List.map_map]
    exact List.map_id fixtures
  · rw [initial, List.forall₂_map_left_iff, List.forall₂_map_right_iff, List.forall₂_same]
    exact fun f _ => .waiting

theorem map_fst_set {tasks : List (Fixture × TaskState)} {i : Nat} {f : Fixture} {state : TaskState}
    (hi : tasks[i]? = some (f, state)) (state' : TaskState) :
    (tasks.set i (f, state')).map Prod.fst = tasks.map Prod.fst := by
  induction tasks generalizing i with
  | nil => rfl
  | cons task tasks ih =>
    cases i with
    | zero =>
      obtain rfl := Option.some.inj hi
      rfl
    | succ i => exact congrArg (task.1 :: ·) (ih hi)

/-- A move keeps every slot as it should be, if a check has the same verdict on every disk. -/
theorem move_sound {verdict? : Fixture → Option Verdict}
    (hcheck : ∀ disk f, (check disk f).1.map Check.Trace.verdict = verdict? f) {handle : HandleNumber}
    {fixtures : List Fixture} {b b' : Board} {m : Move} (hb : b.Sound verdict? handle fixtures)
    (h : b.move check m = some b') : b'.Sound verdict? handle fixtures := by
  obtain ⟨hhandle, hfixtures, hslots⟩ := hb
  cases m with
  | start i =>
    obtain ⟨f, hf, rfl⟩ := start_cases h
    refine ⟨hhandle, (map_fst_set hf _).trans hfixtures,
      List.forall₂_set_left hslots hf fun slot hslot => ?_⟩
    cases hslot
    exact .running
  | finish i =>
    obtain ⟨f, hf, rfl⟩ := finish_cases h
    refine ⟨hhandle, (map_fst_set hf _).trans hfixtures,
      List.forall₂_set_left hslots hf fun slot hslot => ?_⟩
    cases hslot
    exact .ended (hcheck b.disk f)
  | join i =>
    obtain ⟨f, trace, hf, htasks, hhandle', hfill⟩ := join_cases h
    refine ⟨hhandle'.trans hhandle, ?_, ?_⟩
    · rw [htasks]
      exact (map_fst_set hf _).trans hfixtures
    · rw [htasks]
      rcases hfill with ⟨rfl, hs⟩ | hs
      · rw [hs]
        refine List.forall₂_set_left hslots hf fun slot hslot => ?_
        cases hslot with
        | ended own => exact .joined own
      · rw [hs, hhandle]
        refine List.forall₂_set hslots hf fun slot hslot => ?_
        cases hslot with
        | ended own => exact .joined own

theorem moves_sound {verdict? : Fixture → Option Verdict}
    (hcheck : ∀ disk f, (check disk f).1.map Check.Trace.verdict = verdict? f) {handle : HandleNumber}
    {fixtures : List Fixture} {b b' : Board} {ms : List Move} (hb : b.Sound verdict? handle fixtures)
    (h : b.moves check ms = some b') : b'.Sound verdict? handle fixtures := by
  induction ms generalizing b with
  | nil =>
    obtain rfl := Option.some.inj h
    exact hb
  | cons m ms ih =>
    obtain ⟨mid, hm, hms⟩ := Option.bind_eq_some_iff.1 h
    exact ih (move_sound hcheck hb hm) hms

/-- The outcome of a fixture whose check has this verdict, or none if it has broken down. -/
def ownOutcome (handle : HandleNumber) (f : Fixture) (verdict? : Option Verdict) : Outcome :=
  outcome handle f (verdict?.getD (.failed (.crash .incomplete)))

/-- On a sound board that is over stands the own outcome of each fixture. -/
theorem outcomes_eq {verdict? : Fixture → Option Verdict} {handle : HandleNumber}
    {fixtures : List Fixture} {b : Board} (hb : b.Sound verdict? handle fixtures)
    (hover : b.isOver = true) :
    b.outcomes = fixtures.map fun f => ownOutcome handle f (verdict? f) := by
  obtain ⟨rfl, rfl, hslots⟩ := hb
  rw [outcomes]
  rw [isOver] at hover
  generalize b.tasks = tasks, b.slots = slots, b.handle = handle at hslots hover ⊢
  induction hslots with
  | nil => rfl
  | @cons task slot tasks slots hslot _ ih =>
    rw [List.all_cons, Bool.and_eq_true] at hover
    rw [List.zipWith_cons_cons, ih hover.2, List.map_cons, List.map_cons]
    congr 1
    cases hslot with
    | waiting | running | ended _ => exact absurd hover.1 Bool.false_ne_true
    | @joined f trace own => cases trace <;> rw [ownOutcome, ← own] <;> rfl

/-! ### Coming to an end -/

/-- How many moves all tasks still need. -/
def remaining (b : Board) : Nat := (b.tasks.map fun t => t.2.remaining).sum

theorem remaining_initial (jobs : Nat) (handle : HandleNumber) (disk : Disk) (fixtures : List Fixture) :
    (initial jobs handle disk fixtures).remaining = 3 * fixtures.length := by
  rw [remaining, initial, List.map_map]
  have : (fixtures.map fun _ => 3).sum = 3 * fixtures.length := by
    rw [List.map_const', List.sum_replicate_nat, Nat.mul_comm]
  exact this

theorem move_remaining {b b' : Board} {m : Move} (h : b.move check m = some b') :
    b'.remaining + 1 = b.remaining := by
  cases m with
  | start i =>
    obtain ⟨f, hf, rfl⟩ := start_cases h
    have := List.sum_map_set (fun t => t.2.remaining) hf (f, TaskState.running)
    simp only [remaining, TaskState.remaining] at this ⊢
    omega
  | finish i =>
    obtain ⟨f, hf, rfl⟩ := finish_cases h
    have := List.sum_map_set (fun t => t.2.remaining) hf (f, .ended (check b.disk f).1)
    simp only [remaining, TaskState.remaining] at this ⊢
    omega
  | join i =>
    obtain ⟨f, trace, hf, htasks, -⟩ := join_cases h
    have := List.sum_map_set (fun t => t.2.remaining) hf (f, .joined trace)
    simp only [remaining, htasks, TaskState.remaining] at this ⊢
    omega

/-- Each move of a schedule brings the end one move nearer. -/
theorem moves_remaining {b b' : Board} {ms : List Move} (h : b.moves check ms = some b') :
    b'.remaining + ms.length = b.remaining := by
  induction ms generalizing b with
  | nil =>
    obtain rfl := Option.some.inj h
    rfl
  | cons m ms ih =>
    obtain ⟨mid, hm, hms⟩ := Option.bind_eq_some_iff.1 h
    have := move_remaining hm
    have := ih hms
    rw [List.length_cons]
    omega

theorem isOver_iff {b : Board} : b.isOver = true ↔ ∀ t ∈ b.tasks, t.2.remaining = 0 := by
  rw [isOver, List.all_eq_true]
  refine forall₂_congr fun t _ => ?_
  cases t.2 <;> simp [TaskState.remaining]

theorem runningCount_eq_zero {b : Board} (h : ∀ t ∈ b.tasks, t.2 ≠ .running) :
    b.runningCount = 0 := by
  rw [runningCount, List.countP_eq_zero]
  exact fun t ht hs => h t ht (of_decide_eq_true hs)

/-- As long as a task is left, some move is possible. -/
theorem exists_move {b : Board} (h : ¬b.isOver = true) : ∃ m b', b.move check m = some b' := by
  by_cases hended : ∃ (i : Nat) (f : Fixture) (trace : _), b.tasks[i]? = some (f, .ended trace)
  · obtain ⟨i, f, trace, hf⟩ := hended
    refine ⟨.join i, ?_⟩
    cases trace <;> simp only [move, hf] <;> exact ⟨_, rfl⟩
  by_cases hrunning : ∃ (i : Nat) (f : Fixture), b.tasks[i]? = some (f, .running)
  · obtain ⟨i, f, hf⟩ := hrunning
    refine ⟨.finish i, ?_⟩
    simp only [move, hf]
    exact ⟨_, rfl⟩
  -- no task holds a place, so one that waits may start
  have hcount : b.runningCount = 0 := by
    refine runningCount_eq_zero ?_
    rintro ⟨f, state⟩ ht rfl
    obtain ⟨i, hi⟩ := List.mem_iff_getElem?.1 ht
    exact hrunning ⟨i, f, hi⟩
  rw [isOver_iff] at h
  simp only [not_forall] at h
  obtain ⟨⟨f, state⟩, ht, hs⟩ := h
  obtain ⟨i, hi⟩ := List.mem_iff_getElem?.1 ht
  cases state with
  | waiting =>
    refine ⟨.start i, ?_⟩
    simp only [move, hi, hcount]
    exact ⟨_, if_pos (Nat.lt_of_lt_of_le Nat.zero_lt_one (Nat.le_max_right _ _))⟩
  | running => exact absurd ⟨i, f, hi⟩ hrunning
  | ended trace => exact absurd ⟨i, f, trace, hi⟩ hended
  | joined trace => exact absurd rfl hs

/-! ### One task after the other -/

theorem moves_append {b mid b' : Board} {ms ns : List Move} (hm : b.moves check ms = some mid)
    (hn : mid.moves check ns = some b') : b.moves check (ms ++ ns) = some b' := by
  rw [moves, List.foldlM_append]
  exact Option.bind_eq_some_iff.2 ⟨mid, hm, hn⟩

theorem moves_cons {b mid b' : Board} {m : Move} {ms : List Move} (hm : b.move check m = some mid)
    (hn : mid.moves check ms = some b') : b.moves check (m :: ms) = some b' :=
  Option.bind_eq_some_iff.2 ⟨mid, hm, hn⟩

variable (check) in
/-- A task may go all its way while no other one runs. -/
theorem moves_task {b : Board} {i : Nat} {f : Fixture} (hi : b.tasks[i]? = some (f, .waiting))
    (hcount : b.runningCount = 0) :
    ∃ b' trace, b.moves check [.start i, .finish i, .join i] = some b' ∧
      b'.tasks = b.tasks.set i (f, .joined trace) := by
  have hlt : i < b.tasks.length := (List.getElem?_eq_some_iff.1 hi).1
  have hfree : b.runningCount < max b.jobs 1 := by omega
  have hstart : b.move check (.start i) = some { b with tasks := b.tasks.set i (f, .running) } := by
    simp only [move, hi, if_pos hfree]
  obtain ⟨b₂, hfinish, htasks₂⟩ :
      ∃ b₂, move check { b with tasks := b.tasks.set i (f, .running) } (.finish i) = some b₂ ∧
        b₂.tasks = b.tasks.set i (f, .ended (check b.disk f).1) := by
    simp only [move, List.getElem?_set_self hlt, List.set_set]
    exact ⟨_, rfl, rfl⟩
  obtain ⟨b₃, hjoin, htasks₃⟩ : ∃ b₃, b₂.move check (.join i) = some b₃ ∧
      b₃.tasks = b.tasks.set i (f, .joined (check b.disk f).1) := by
    cases htrace : (check b.disk f).1 <;> rw [htrace] at htasks₂ <;>
      simp only [move, htasks₂, List.getElem?_set_self hlt, List.set_set] <;> exact ⟨_, rfl, rfl⟩
  exact ⟨b₃, _, moves_cons hstart (moves_cons hfinish (moves_cons hjoin rfl)), htasks₃⟩

theorem moves_rest {rest : List Fixture} {done : List (Fixture × TaskState)}
    (hdone : ∀ t ∈ done, t.2.remaining = 0) {b : Board}
    (hb : b.tasks = done ++ rest.map (·, .waiting)) :
    ∃ b', b.moves check ((List.range' done.length rest.length).flatMap fun i =>
      [.start i, .finish i, .join i]) = some b' ∧ b'.isOver = true := by
  induction rest generalizing done b with
  | nil =>
    refine ⟨b, rfl, ?_⟩
    rw [isOver_iff, hb, List.map_nil, List.append_nil]
    exact hdone
  | cons f rest ih =>
    have hi : b.tasks[done.length]? = some (f, .waiting) := by
      rw [hb, List.getElem?_append_right (Nat.le_refl _), Nat.sub_self]
      rfl
    have hcount : b.runningCount = 0 := by
      refine runningCount_eq_zero ?_
      rw [hb]
      rintro ⟨g, state⟩ ht rfl
      rcases List.mem_append.1 ht with ht | ht
      · exact absurd (hdone _ ht) (Nat.succ_ne_zero 1)
      · obtain ⟨_, -, he⟩ := List.mem_map.1 ht
        cases he
    obtain ⟨mid, trace, hmid, htasks⟩ := moves_task check hi hcount
    rw [hb, List.map_cons, List.set_append_right _ _ (Nat.le_refl _), Nat.sub_self, List.set_cons_zero,
      List.append_cons] at htasks
    have hdone' : ∀ t ∈ done ++ [(f, .joined trace)], t.2.remaining = 0 := by
      intro t ht
      rcases List.mem_append.1 ht with ht | ht
      · exact hdone t ht
      · rw [List.mem_singleton.1 ht]
        rfl
    obtain ⟨b', hb', hover⟩ := ih hdone' htasks
    refine ⟨b', ?_, hover⟩
    rw [List.length_cons, List.range'_succ, List.flatMap_cons]
    rw [List.length_append] at hb'
    exact moves_append hmid hb'

variable (check) in
/-- The schedule that runs one task after the other can be gone through and comes to an end. -/
theorem moves_oneByOne (jobs : Nat) (handle : HandleNumber) (disk : Disk) (fixtures : List Fixture) :
    ∃ b, (initial jobs handle disk fixtures).moves check (oneByOne fixtures.length) = some b ∧
      b.isOver = true := by
  have hnone : ∀ t ∈ ([] : List (Fixture × TaskState)), t.2.remaining = 0 :=
    fun t ht => absurd ht List.not_mem_nil
  have htasks : (initial jobs handle disk fixtures).tasks = [] ++ fixtures.map (·, .waiting) := rfl
  rw [oneByOne, List.range_eq_range']
  exact moves_rest hnone htasks

/-! ### Names -/

/-- Tasks and outcomes are about some of the given fixtures. -/
structure IsAbout (fixtures : List Fixture) (b : Board) : Prop where
  /-- So are the tasks. -/
  tasks : ∀ t ∈ b.tasks, t.1 ∈ fixtures
  /-- So are the outcomes that stand in slots. -/
  slots : ∀ slot ∈ b.slots, ∀ o ∈ slot, ∃ f ∈ fixtures, o.name = f.name

theorem isAbout_initial (jobs : Nat) (handle : HandleNumber) (disk : Disk) (fixtures : List Fixture) :
    (initial jobs handle disk fixtures).IsAbout fixtures := by
  constructor
  · intro t ht
    obtain ⟨f, hf, rfl⟩ := List.mem_map.1 ht
    exact hf
  · intro slot hslot
    obtain ⟨f, -, rfl⟩ := List.mem_map.1 hslot
    nofun

theorem mem_fixtures_of_set {fixtures : List Fixture} {tasks : List (Fixture × TaskState)}
    (h : ∀ t ∈ tasks, t.1 ∈ fixtures) {i : Nat} {f : Fixture} {state : TaskState}
    (hi : tasks[i]? = some (f, state)) (state' : TaskState) :
    ∀ t ∈ tasks.set i (f, state'), t.1 ∈ fixtures := by
  intro t ht
  rcases List.mem_or_eq_of_mem_set ht with ht | rfl
  · exact h t ht
  · exact h (f, state) (List.mem_of_getElem? hi)

theorem move_isAbout {fixtures : List Fixture} {b b' : Board} {m : Move} (hb : b.IsAbout fixtures)
    (h : b.move check m = some b') : b'.IsAbout fixtures := by
  obtain ⟨htasks, hslots⟩ := hb
  cases m with
  | start i =>
    obtain ⟨f, hf, rfl⟩ := start_cases h
    exact ⟨mem_fixtures_of_set htasks hf _, hslots⟩
  | finish i =>
    obtain ⟨f, hf, rfl⟩ := finish_cases h
    exact ⟨mem_fixtures_of_set htasks hf _, hslots⟩
  | join i =>
    obtain ⟨f, trace, hf, htasks', -, hfill⟩ := join_cases h
    refine ⟨htasks' ▸ mem_fixtures_of_set htasks hf _, ?_⟩
    rcases hfill with ⟨-, hs⟩ | hs
    · rwa [hs]
    · rw [hs]
      intro slot hslot
      rcases List.mem_or_eq_of_mem_set hslot with hslot | rfl
      · exact hslots slot hslot
      · intro o ho
        obtain ⟨t, -, rfl⟩ := Option.map_eq_some_iff.1 ho
        exact ⟨f, htasks _ (List.mem_of_getElem? hf), rfl⟩

theorem moves_isAbout {fixtures : List Fixture} {b b' : Board} {ms : List Move}
    (hb : b.IsAbout fixtures) (h : b.moves check ms = some b') : b'.IsAbout fixtures := by
  induction ms generalizing b with
  | nil =>
    obtain rfl := Option.some.inj h
    exact hb
  | cons m ms ih =>
    obtain ⟨mid, hm, hms⟩ := Option.bind_eq_some_iff.1 h
    exact ih (move_isAbout hb hm) hms

/-- Each outcome bears the name of a fixture, whatever its task has come to. -/
theorem exists_name_eq {fixtures : List Fixture} {b : Board} (hb : b.IsAbout fixtures) :
    ∀ o ∈ b.outcomes, ∃ f ∈ fixtures, o.name = f.name := by
  obtain ⟨htasks, hslots⟩ := hb
  rw [outcomes]
  generalize b.tasks = tasks, b.slots = slots at htasks hslots
  induction tasks generalizing slots with
  | nil => nofun
  | cons t tasks ih =>
    cases slots with
    | nil => nofun
    | cons slot slots =>
      obtain ⟨ht, htasks⟩ := List.forall_mem_cons.1 htasks
      obtain ⟨hslot, hslots⟩ := List.forall_mem_cons.1 hslots
      rw [List.zipWith_cons_cons]
      refine List.forall_mem_cons.2 ⟨?_, ih slots htasks hslots⟩
      cases slot with
      | none => exact ⟨t.1, ht, rfl⟩
      | some o => exact hslot o rfl

end Board

end ParserConformance.Suite
