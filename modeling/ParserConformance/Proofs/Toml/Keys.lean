import ParserConformance.Proofs.List.Entries
import ParserConformance.Toml.Reader

/-!
# The keys of TOML tables

A document that gives a key twice is refused, wherever the key stands. So no table of a document that
can be read has a key twice, and what stands under a key is one value.

## Main result
- `Toml.tidy_of_read`: no table of a document that can be read has a key twice.
-/

namespace ParserConformance.Toml

/-! ### Entries under keys -/

theorem mem_of_find? {key : String} {v : Value} {es : Entries} (h : find? key es = some v) :
    (key, v) ∈ es := by
  obtain ⟨e, he, rfl⟩ := Option.map_eq_some_iff.1 h
  have hkey : e.1 = key := by simpa using List.find?_some he
  rw [← hkey]
  exact List.mem_of_find?_eq_some he

theorem find?_eq_some_iff {es : Entries} (h : (es.map Prod.fst).Nodup) {key : String} {v : Value} :
    find? key es = some v ↔ (key, v) ∈ es :=
  List.map_snd_find?_eq_some_iff h

theorem find?_put (key k : String) (v : Value) (es : Entries) :
    find? k (put key v es) = if k = key then some v else find? k es := by
  rw [find?, put, List.find?_append]
  split
  · next h =>
    have hnone : (es.filter (·.1 ≠ key)).find? (·.1 = k) = none := by
      refine List.find?_eq_none.2 fun e he => ?_
      have hkey := (List.mem_filter.1 he).2
      simpa [h] using hkey
    rw [hnone, h]
    simp
  · next h =>
    have hsame : (es.filter (·.1 ≠ key)).find? (·.1 = k) = es.find? (·.1 = k) := by
      rw [List.find?_filter]
      congr 1
      funext e
      by_cases hk : e.1 = k <;> simp [hk, h]
    rw [hsame]
    simp [find?, Ne.symm h]

/-! ### Tables without a key that comes twice -/

/-- Whether a value has keys: a table, or several tables under one header. -/
def Value.hasKeys : Value → Bool
  | .table _ _ | .tables _ => true
  | _ => false

/-- Whether no table within a value has a key twice. What stands in an array is of no account. -/
inductive Value.Tidy : Value → Prop where
  /-- A value without keys. -/
  | leaf {v : Value} (hasKeys : v.hasKeys = false) : Tidy v
  /-- A table. -/
  | table {form : Form} {es : Entries} (keys : (es.map Prod.fst).Nodup) (values : ∀ e ∈ es, Tidy e.2) :
    Tidy (.table form es)
  /-- Tables that share a header. -/
  | tables {items : List Entries} (keys : ∀ es ∈ items, (es.map Prod.fst).Nodup)
    (values : ∀ es ∈ items, ∀ e ∈ es, Tidy e.2) : Tidy (.tables items)

/-- Whether entries have no key twice, nor has a table within them. -/
structure Tidy (es : Entries) : Prop where
  /-- The keys of the entries. -/
  keys : (es.map Prod.fst).Nodup
  /-- The tables within them. -/
  values : ∀ e ∈ es, e.2.Tidy

theorem tidy_nil : Tidy [] := ⟨.nil, fun _ he => nomatch he⟩

theorem Tidy.table {es : Entries} (h : Tidy es) (form : Form) : (Value.table form es).Tidy :=
  .table h.keys h.values

theorem Value.Tidy.entries {form : Form} {es : Entries} (h : (Value.table form es).Tidy) :
    Toml.Tidy es := by
  cases h with
  | leaf hasKeys => cases hasKeys
  | table keys values => exact ⟨keys, values⟩

theorem tidy_tables_iff {items : List Entries} :
    (Value.tables items).Tidy ↔ ∀ es ∈ items, Tidy es := by
  constructor
  · intro h
    cases h with
    | leaf hasKeys => cases hasKeys
    | tables keys values => exact fun es hes => ⟨keys es hes, values es hes⟩
  · exact fun h => .tables (fun es hes => (h es hes).keys) fun es hes => (h es hes).values

theorem Tidy.find? {es : Entries} (h : Tidy es) {key : String} {v : Value}
    (hv : Toml.find? key es = some v) : v.Tidy := h.values _ (mem_of_find? hv)

theorem Tidy.put {es : Entries} (h : Tidy es) {v : Value} (hv : v.Tidy) (key : String) :
    Tidy (put key v es) := by
  constructor
  case keys =>
    have hkept : ((es.filter (·.1 ≠ key)).map Prod.fst).Nodup :=
      h.keys.sublist (List.filter_sublist.map _)
    rw [Toml.put, List.map_append, List.nodup_append]
    refine ⟨hkept, List.nodup_singleton _, fun k hk k' hk' => ?_⟩
    obtain ⟨e, he, rfl⟩ := List.mem_map.1 hk
    rw [List.mem_singleton.1 hk']
    simpa using (List.mem_filter.1 he).2
  case values =>
    intro e he
    obtain he | he := List.mem_append.1 he
    · exact h.values e (List.mem_filter.1 he).1
    · rw [List.mem_singleton.1 he]
      exact hv

/-! ### Putting sections together -/

/-- The entries with those of several sections. -/
def addSections (sections : List Section) (es : Entries) : Option Entries :=
  sections.foldlM (fun es s => addSection s es) es

theorem addSections_cons {s : Section} {sections : List Section} {es r : Entries}
    (h : addSections (s :: sections) es = some r) :
    ∃ mid, addSection s es = some mid ∧ addSections sections mid = some r := by
  rw [addSections, List.foldlM_cons] at h
  exact Option.bind_eq_some_iff.1 h

section

variable {form : Form} {es r : Entries}

theorem Tidy.descend {dots : Bool} {edit : Form → Entries → Option Entries}
    (hedit : ∀ form es r, Tidy es → edit form es = some r → Tidy r) {path : List String} (hes : Tidy es)
    (h : Toml.descend dots edit path form es = some r) : Tidy r := by
  induction path generalizing form es r with
  | nil => exact hedit form es r hes h
  | cons key path ih =>
    rw [Toml.descend] at h
    split at h
    · obtain ⟨inner, hinner, hr⟩ := Option.bind_eq_some_iff.1 h
      cases hr
      exact hes.put ((ih tidy_nil hinner).table _) key
    · next form' inner htable =>
      split at h
      · cases h
      · obtain ⟨inner', hinner, hr⟩ := Option.bind_eq_some_iff.1 h
        cases hr
        exact hes.put ((ih (hes.find? htable).entries hinner).table form') key
    · next items htables =>
      have hitems := tidy_tables_iff.1 (hes.find? htables)
      split at h
      · cases h
      · next last hlast =>
        obtain ⟨last', hlast', hr⟩ := Option.bind_eq_some_iff.1 h
        cases hr
        refine hes.put (tidy_tables_iff.2 fun es' hes' => ?_) key
        obtain hes' | hes' := List.mem_append.1 hes'
        · exact hitems es' (List.dropLast_subset items hes')
        · rw [List.mem_singleton.1 hes']
          exact ih (hitems last (List.mem_of_getLast? hlast)) hlast'
    · cases h

theorem Tidy.assign {path : List String} {key : String} {v : Value} (hes : Tidy es) (hv : v.Tidy)
    (h : Toml.assign path key v form es = some r) : Tidy r := by
  refine Tidy.descend (fun form es r hes h => ?_) hes h
  split at h
  · cases h
  · split at h
    · cases h
    · cases h
      exact hes.put hv key

theorem Tidy.assignAll {as : List Assignment} (hes : Tidy es) (has : ∀ a ∈ as, a.value.Tidy)
    (h : Toml.assignAll form as es = some r) : Tidy r := by
  induction as generalizing es with
  | nil =>
    cases h
    exact hes
  | cons a as ih =>
    obtain ⟨ha, has⟩ := List.forall_mem_cons.1 has
    obtain ⟨es', hes', hrest⟩ := Option.bind_eq_some_iff.1 h
    exact ih (hes.assign ha hes') has hrest

theorem Tidy.addSection {s : Section} (hes : Tidy es) (hs : ∀ a ∈ s.assignments, a.value.Tidy)
    (h : Toml.addSection s es = some r) : Tidy r := by
  refine Tidy.descend (fun form es r hes h => ?_) hes h
  dsimp only at h
  split at h
  · obtain ⟨added, hadded, h⟩ := Option.bind_eq_some_iff.1 h
    have hadded := tidy_nil.assignAll hs hadded
    split at h
    · cases h
      exact hes.put (tidy_tables_iff.2 (by simpa using hadded)) _
    · next items htables =>
      cases h
      have hitems := tidy_tables_iff.1 (hes.find? htables)
      refine hes.put (tidy_tables_iff.2 fun es' hes' => ?_) _
      obtain hes' | hes' := List.mem_append.1 hes'
      · exact hitems es' hes'
      · rw [List.mem_singleton.1 hes']
        exact hadded
    · cases h
  · split at h
    · obtain ⟨inner, hinner, hr⟩ := Option.bind_eq_some_iff.1 h
      cases hr
      exact hes.put ((tidy_nil.assignAll hs hinner).table _) _
    · next inner htable =>
      obtain ⟨inner', hinner, hr⟩ := Option.bind_eq_some_iff.1 h
      cases hr
      exact hes.put (((hes.find? htable).entries.assignAll hs hinner).table _) _
    · cases h

theorem Tidy.addSections {sections : List Section} (hes : Tidy es)
    (hs : ∀ s ∈ sections, ∀ a ∈ s.assignments, a.value.Tidy)
    (h : Toml.addSections sections es = some r) : Tidy r := by
  induction sections generalizing es with
  | nil =>
    cases h
    exact hes
  | cons s sections ih =>
    obtain ⟨hs, hrest⟩ := List.forall_mem_cons.1 hs
    obtain ⟨mid, hmid, h⟩ := addSections_cons h
    exact ih (hes.addSection hs hmid) hrest h

end

/-! ### What is read -/

/-- Whether what is read, if anything is, has no key twice. -/
def GivesTidy (reading : Option (Value × List Char)) : Prop := ∀ v rest, reading = some (v, rest) → v.Tidy

theorem givesTidy_none : GivesTidy none := fun _ _ h => nomatch h

theorem givesTidy_some {v : Value} (hv : v.Tidy) (rest : List Char) : GivesTidy (some (v, rest)) := by
  rintro _ _ ⟨⟩
  exact hv

theorem givesTidy_bind {α : Type} {x : Option α} {f : α → Option (Value × List Char)}
    (h : ∀ a, x = some a → GivesTidy (f a)) : GivesTidy (x >>= f) := by
  intro v rest hv
  obtain ⟨a, ha, hf⟩ := Option.bind_eq_some_iff.1 hv
  exact h a ha v rest hf

theorem givesTidy_map {α : Type} {x : Option α} {f : α → Value × List Char}
    (h : ∀ a, x = some a → (f a).1.Tidy) : GivesTidy (x.map f) := by
  intro v rest hv
  obtain ⟨a, ha, hf⟩ := Option.map_eq_some_iff.1 hv
  have := h a ha
  rwa [hf] at this

theorem givesTidy_or {x y : Option (Value × List Char)} (hx : GivesTidy x) (hy : GivesTidy y) :
    GivesTidy (x.or y) := by
  cases x with
  | none => exact hy
  | some p => exact hx

theorem givesTidy_unless {c : Prop} [Decidable c] {x : Option (Value × List Char)} (hx : GivesTidy x) :
    GivesTidy (if c then none else x) := by
  split
  · exact givesTidy_none
  · exact hx

theorem givesTidy_readDatetime (cs : List Char) : GivesTidy (readDatetime cs) := by
  rw [readDatetime]
  split
  · exact givesTidy_map fun _ _ => .leaf rfl
  · dsimp only
    split <;> exact givesTidy_some (.leaf rfl) _

theorem givesTidy_readFloat (cs : List Char) : GivesTidy (readFloat cs) := by
  rw [readFloat]
  dsimp only
  split
  · exact givesTidy_some (.leaf rfl) _
  · exact givesTidy_bind fun _ _ => givesTidy_unless (givesTidy_unless (givesTidy_some (.leaf rfl) _))

theorem tidy_of_integer? {i : Int} {v : Value} (h : integer? i = some v) : v.Tidy := by
  rw [integer?] at h
  split at h
  · cases h
    exact .leaf rfl
  · cases h

theorem givesTidy_readInteger (cs : List Char) : GivesTidy (readInteger cs) := by
  unfold readInteger
  extract_lets decimal
  have hdecimal : GivesTidy decimal := by
    refine givesTidy_bind fun _ _ => givesTidy_bind fun v hv => givesTidy_some (tidy_of_integer? hv) _
  split
  · split
    · refine givesTidy_bind fun _ _ => givesTidy_bind fun v hv => givesTidy_some (tidy_of_integer? hv) _
    · exact hdecimal
  · exact hdecimal

theorem givesTidy_readScalar (cs : List Char) : GivesTidy (readScalar cs) := by
  unfold readScalar
  split
  · exact givesTidy_map fun _ _ => .leaf rfl
  · exact givesTidy_map fun _ _ => .leaf rfl
  · exact givesTidy_map fun _ _ => .leaf rfl
  · exact givesTidy_map fun _ _ => .leaf rfl
  · exact givesTidy_or (givesTidy_or (givesTidy_readDatetime _) (givesTidy_readFloat _))
      (givesTidy_readInteger _)

/-! ### Arrays and tables -/

section

variable {reader : Reader Value} (hreader : ∀ cs, GivesTidy (reader cs))

include hreader

theorem tidy_of_readAssignment {cs rest : List Char} {a : Assignment}
    (h : readAssignment reader cs = some (a, rest)) : a.value.Tidy := by
  obtain ⟨⟨⟨path, key⟩, afterKey⟩, -, h⟩ := Option.bind_eq_some_iff.1 h
  dsimp only at h
  split at h
  · obtain ⟨⟨v, afterValue⟩, hv, h⟩ := Option.bind_eq_some_iff.1 h
    cases h
    exact hreader _ _ _ hv
  · cases h

theorem tidy_of_readAssignments {room : Nat} {cs rest : List Char} {as : List Assignment}
    (h : readAssignments reader room cs = some (as, rest)) : ∀ a ∈ as, a.value.Tidy := by
  induction room generalizing cs as rest with
  | zero => cases h
  | succ room ih =>
    obtain ⟨⟨a, afterFirst⟩, ha, h⟩ := Option.bind_eq_some_iff.1 h
    have hfirst := tidy_of_readAssignment hreader ha
    dsimp only at h
    split at h
    · obtain ⟨⟨as', afterAll⟩, has, h⟩ := Option.bind_eq_some_iff.1 h
      cases h
      exact List.forall_mem_cons.2 ⟨hfirst, ih has⟩
    · cases h
      simpa using hfirst
    · cases h

theorem givesTidy_readBraces (cs : List Char) : GivesTidy (readBraces reader cs) := by
  unfold readBraces
  split
  · exact givesTidy_some (tidy_nil.table _) _
  · refine givesTidy_bind fun ⟨as, rest⟩ has => givesTidy_bind fun es hes => givesTidy_some ?_ _
    exact (tidy_nil.assignAll (tidy_of_readAssignments hreader has) hes).table _

end

theorem givesTidy_readValue (depth : Nat) (cs : List Char) : GivesTidy (readValue depth cs) := by
  induction depth generalizing cs with
  | zero =>
    unfold readValue
    split
    · exact givesTidy_none
    · exact givesTidy_none
    · exact givesTidy_readScalar _
  | succ depth ih =>
    unfold readValue
    split
    · exact givesTidy_bind fun _ _ => givesTidy_some (.leaf rfl) _
    · exact givesTidy_readBraces ih _
    · exact givesTidy_readScalar _

/-! ### Documents -/

/-- Whether no value of an assignment has a key twice. -/
def Statement.Tidy : Statement → Prop
  | .header _ => True
  | .assignment a => a.value.Tidy

theorem tidy_of_readStatements {room : Nat} {cs : List Char} {statements : List Statement}
    (h : readStatements room cs = some statements) : ∀ s ∈ statements, s.Tidy := by
  induction room generalizing cs statements with
  | zero =>
    rw [readStatements] at h
    split at h
    · cases h
      simp
    · cases h
  | succ room ih =>
    rw [readStatements] at h
    split at h
    · cases h
      simp
    · obtain ⟨rest, -, h⟩ := Option.bind_eq_some_iff.1 h
      exact ih h
    · obtain ⟨⟨header, afterHeader⟩, -, h⟩ := Option.bind_eq_some_iff.1 h
      obtain ⟨rest, -, h⟩ := Option.bind_eq_some_iff.1 h
      obtain ⟨more, hmore, h⟩ := Option.bind_eq_some_iff.1 h
      cases h
      exact List.forall_mem_cons.2 ⟨trivial, ih hmore⟩
    · split at h
      · exact ih h
      · obtain ⟨⟨a, afterValue⟩, ha, h⟩ := Option.bind_eq_some_iff.1 h
        obtain ⟨rest, -, h⟩ := Option.bind_eq_some_iff.1 h
        obtain ⟨more, hmore, h⟩ := Option.bind_eq_some_iff.1 h
        cases h
        exact List.forall_mem_cons.2 ⟨tidy_of_readAssignment (givesTidy_readValue _) ha, ih hmore⟩

/-- Whether no value of a document has a key twice. -/
structure Document.Tidy (d : Document) : Prop where
  /-- The values before the first header. -/
  preamble : ∀ a ∈ d.preamble, a.value.Tidy
  /-- The values of the sections. -/
  sections : ∀ s ∈ d.sections, ∀ a ∈ s.assignments, a.value.Tidy

theorem Document.tidy_ofStatements {statements : List Statement} (h : ∀ s ∈ statements, s.Tidy) :
    (ofStatements statements).Tidy := by
  induction statements with
  | nil => exact ⟨by simp [ofStatements], by simp [ofStatements]⟩
  | cons s statements ih =>
    obtain ⟨hs, hrest⟩ := List.forall_mem_cons.1 h
    obtain ⟨hpreamble, hsections⟩ := ih hrest
    cases s with
    | assignment a => exact ⟨List.forall_mem_cons.2 ⟨hs, hpreamble⟩, hsections⟩
    | header header => exact ⟨by simp [ofStatements], List.forall_mem_cons.2 ⟨hpreamble, hsections⟩⟩

/-- No table of a document that can be read has a key twice. -/
theorem tidy_of_read {text : String} {es : Entries} (h : read text = some es) : Tidy es := by
  obtain ⟨statements, hstatements, h⟩ := Option.bind_eq_some_iff.1 h
  obtain ⟨top, htop, h⟩ := Option.bind_eq_some_iff.1 h
  have hd := Document.tidy_ofStatements (tidy_of_readStatements hstatements)
  exact (tidy_nil.assignAll hd.preamble htop).addSections hd.sections h

end ParserConformance.Toml
