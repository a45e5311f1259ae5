import ParserConformance.Proofs.Toml.Keys

/-!
# One section more or less

A section adds to the table that its header names, and to no other. If two documents differ only in
sections of one table within another, such as `[languages.lua]` and `[languages.lua.paths]`, then their
tables agree in all other keys (`Related`).

Whether a later section is accepted may depend on those before it, so this is about documents that are
both accepted.

## Main result
- `Toml.related_of_sameOutside`: the tables of two documents that differ in the sections of one key.
-/

namespace ParserConformance.Toml

/-! ### Entries that agree -/

/-- Whether two tables agree in all keys but one. -/
def AgreeBut (key : String) (es es' : Entries) : Prop := ∀ k, k ≠ key → find? k es' = find? k es

theorem AgreeBut.refl (key : String) (es : Entries) : AgreeBut key es es := fun _ _ => rfl

theorem AgreeBut.symm {key : String} {es es' : Entries} (h : AgreeBut key es es') : AgreeBut key es' es :=
  fun k hk => (h k hk).symm

theorem AgreeBut.trans {key : String} {es es' es'' : Entries} (h : AgreeBut key es es')
    (h' : AgreeBut key es' es'') : AgreeBut key es es'' :=
  fun k hk => (h' k hk).trans (h k hk)

theorem agreeBut_put (key : String) (v : Value) (es : Entries) : AgreeBut key es (put key v es) := by
  intro k hk
  rw [find?_put, if_neg hk]

/-- Tables go on agreeing when the same is made of what they have under one key. -/
theorem AgreeBut.map_put {key k : String} {f : Option Value → Option Value} {es es' r r' : Entries}
    (h : AgreeBut key es es') (hr : (f (find? k es)).map (fun v => put k v es) = some r)
    (hr' : (f (find? k es')).map (fun v => put k v es') = some r') : AgreeBut key r r' := by
  obtain ⟨v, hv, rfl⟩ := Option.map_eq_some_iff.1 hr
  obtain ⟨v', hv', rfl⟩ := Option.map_eq_some_iff.1 hr'
  intro j hj
  rw [find?_put, find?_put]
  split
  · next hjk =>
    rw [h k (hjk ▸ hj), hv] at hv'
    exact hv'.symm
  · exact h j hj

/-! ### What a section does under the first key of its header -/

/-- What `descend` makes of the value under the first key of its path. -/
def through (dots : Bool) (edit : Form → Entries → Option Entries) (path : List String) :
    Option Value → Option Value
  | none =>
    let form := if dots then Form.dotted else Form.implied
    (descend dots edit path form []).map (.table form)
  | some (.table form inner) =>
    if form = .inline || (dots && form = .header) then none
    else (descend dots edit path form inner).map (.table form)
  | some (.tables items) =>
    items.getLast?.bind fun last =>
      (descend dots edit path .header last).map fun last => .tables (items.dropLast ++ [last])
  | some _ => none

theorem descend_cons (dots : Bool) (edit : Form → Entries → Option Entries) (key : String)
    (path : List String) (form : Form) (es : Entries) :
    descend dots edit (key :: path) form es =
      (through dots edit path (find? key es)).map fun v => put key v es := by
  rw [descend]
  cases find? key es with
  | none => simp only [through, bind_pure_comp, Option.map_eq_map, Option.map_map, Function.comp_def]
  | some v =>
    cases v with
    | table form inner =>
      simp only [through, bind_pure_comp, Option.map_eq_map]
      split
      · rfl
      · rw [Option.map_map]
        rfl
    | tables items =>
      simp only [through, bind_pure_comp, Option.map_eq_map]
      cases items.getLast? with
      | none => rfl
      | some last =>
        rw [Option.bind_some, Option.map_map]
        rfl
    | string | integer | float | boolean | datetime | array => rfl

/-- What a section makes of the value under the last key of its header. -/
def Section.value? (s : Section) (existing : Option Value) : Option Value :=
  if s.header.isRepeated then
    (assignAll .header s.assignments []).bind fun added =>
      match existing with
      | none => some (.tables [added])
      | some (.tables items) => some (.tables (items ++ [added]))
      | some _ => none
  else
    match existing with
    | none => (assignAll .header s.assignments []).map (.table .header)
    | some (.table .implied inner) => (assignAll .header s.assignments inner).map (.table .header)
    | some _ => none

/-- What a section does to the table that holds the last key of its header. -/
def Section.edit (s : Section) (_ : Form) (es : Entries) : Option Entries :=
  (s.value? (find? s.header.key es)).map fun v => put s.header.key v es

theorem addSection_eq (s : Section) (es : Entries) :
    addSection s es = descend false s.edit s.header.path .header es := by
  rw [addSection]
  congr 1
  funext _ es
  simp only [Section.edit, Section.value?, bind_pure_comp, Option.map_eq_map]
  split
  · cases assignAll .header s.assignments [] with
    | none => rfl
    | some added =>
      cases find? s.header.key es with
      | none => rfl
      | some v => cases v <;> rfl
  · cases find? s.header.key es with
    | none =>
      rw [Option.map_map]
      rfl
    | some v =>
      cases v with
      | table form inner =>
        cases form with
        | implied =>
          dsimp only
          rw [Option.map_map]
          rfl
        | header | dotted | inline => rfl
      | string | integer | float | boolean | datetime | array | tables => rfl

/-- What a section makes of the value under the first key of the path that leads to its own key. -/
def Section.under? (s : Section) : (path : List String) → Option Value → Option Value
  | [] => s.value?
  | _ :: path => through false s.edit path

theorem descend_edit (s : Section) (path : List String) (form : Form) (es : Entries) :
    descend false s.edit path form es =
      (s.under? path (find? (path.headD s.header.key) es)).map fun v =>
        put (path.headD s.header.key) v es := by
  cases path with
  | nil => rfl
  | cons key path => exact descend_cons false s.edit key path form es

section

variable {key : String} {es es' r r' : Entries} {form form' : Form}

theorem AgreeBut.descend {s : Section} {path : List String} (h : AgreeBut key es es')
    (hr : Toml.descend false s.edit path form es = some r)
    (hr' : Toml.descend false s.edit path form' es' = some r') : AgreeBut key r r' := by
  rw [descend_edit] at hr hr'
  exact h.map_put hr hr'

theorem AgreeBut.assign {path : List String} {k : String} {v : Value} (h : AgreeBut key es es')
    (hr : Toml.assign path k v form es = some r) (hr' : Toml.assign path k v form' es' = some r') :
    AgreeBut key r r' := by
  cases path with
  | nil =>
    have hput {form : Form} {es r : Entries} (hr : Toml.assign [] k v form es = some r) :
        r = put k v es := by
      rw [Toml.assign, Toml.descend] at hr
      split at hr
      · cases hr
      · split at hr <;> cases hr
        rfl
    rw [hput hr, hput hr']
    exact h.map_put (f := fun _ => some v) rfl rfl
  | cons first path =>
    rw [Toml.assign, descend_cons] at hr hr'
    exact h.map_put hr hr'

theorem AgreeBut.assignAll {as : List Assignment} (h : AgreeBut key es es')
    (hr : Toml.assignAll form as es = some r) (hr' : Toml.assignAll form' as es' = some r') :
    AgreeBut key r r' := by
  induction as generalizing es es' with
  | nil =>
    cases hr
    cases hr'
    exact h
  | cons a as ih =>
    obtain ⟨mid, hmid, hr⟩ := Option.bind_eq_some_iff.1 hr
    obtain ⟨mid', hmid', hr'⟩ := Option.bind_eq_some_iff.1 hr'
    exact ih (h.assign hmid hmid') hr hr'

end

/-! ### Tables within tables -/

/-- The entries of a table, none if it is not there yet. Other values have none that count. -/
def innerOf : Option Value → Option Entries
  | none => some []
  | some (.table _ es) => some es
  | some _ => none

theorem innerOf_value?_of_isRepeated {s : Section} (hs : s.header.isRepeated = true) {v : Option Value}
    {w : Value} (h : s.value? v = some w) : innerOf (some w) = none := by
  unfold Section.value? at h
  rw [if_pos hs] at h
  obtain ⟨added, -, h⟩ := Option.bind_eq_some_iff.1 h
  split at h <;> cases h <;> rfl

theorem innerOf_value? {s : Section} (hs : s.header.isRepeated = false) {v : Option Value} {w : Value}
    (h : s.value? v = some w) :
    (∀ es, innerOf v = some es →
        ∃ r, assignAll .header s.assignments es = some r ∧ innerOf (some w) = some r) ∧
      (innerOf v = none → innerOf (some w) = none) := by
  unfold Section.value? at h
  rw [if_neg (by simp [hs])] at h
  split at h
  · obtain ⟨r, hr, rfl⟩ := Option.map_eq_some_iff.1 h
    exact ⟨by rintro _ ⟨⟩; exact ⟨r, hr, rfl⟩, nofun⟩
  · obtain ⟨r, hr, rfl⟩ := Option.map_eq_some_iff.1 h
    exact ⟨by rintro _ ⟨⟩; exact ⟨r, hr, rfl⟩, nofun⟩
  · cases h

theorem innerOf_through {dots : Bool} {edit : Form → Entries → Option Entries} {path : List String}
    {v : Option Value} {w : Value} (h : through dots edit path v = some w) :
    (∀ es, innerOf v = some es →
        ∃ form r, descend dots edit path form es = some r ∧ innerOf (some w) = some r) ∧
      (innerOf v = none → innerOf (some w) = none) := by
  unfold through at h
  split at h
  · obtain ⟨r, hr, rfl⟩ := Option.map_eq_some_iff.1 h
    exact ⟨by rintro _ ⟨⟩; exact ⟨_, r, hr, rfl⟩, nofun⟩
  · split at h
    · cases h
    · obtain ⟨r, hr, rfl⟩ := Option.map_eq_some_iff.1 h
      exact ⟨by rintro _ ⟨⟩; exact ⟨_, r, hr, rfl⟩, nofun⟩
  · obtain ⟨last, -, h⟩ := Option.bind_eq_some_iff.1 h
    obtain ⟨r, -, rfl⟩ := Option.map_eq_some_iff.1 h
    exact ⟨nofun, fun _ => rfl⟩
  · cases h

/-- Whether two values are tables that agree in all keys but one, or neither is a table. -/
inductive AgreeInside (key : String) (v v' : Option Value) : Prop where
  /-- Both are tables. -/
  | tables {es es' : Entries} (inner : innerOf v = some es) (inner' : innerOf v' = some es')
    (agree : AgreeBut key es es')
  /-- Neither is. -/
  | closed (inner : innerOf v = none) (inner' : innerOf v' = none)

namespace AgreeInside

variable {key : String} {v v' v'' : Option Value}

theorem refl (key : String) (v : Option Value) : AgreeInside key v v := by
  cases h : innerOf v with
  | none => exact .closed h h
  | some es => exact .tables h h (.refl key es)

theorem symm (h : AgreeInside key v v') : AgreeInside key v' v := by
  cases h with
  | tables inner inner' agree => exact .tables inner' inner agree.symm
  | closed inner inner' => exact .closed inner' inner

theorem trans (h : AgreeInside key v v') (h' : AgreeInside key v' v'') : AgreeInside key v v'' := by
  cases h with
  | tables inner inner' agree =>
    cases h' with
    | tables mid inner'' agree' =>
      rw [inner'] at mid
      cases mid
      exact .tables inner inner'' (agree.trans agree')
    | closed mid => rw [inner'] at mid; cases mid
  | closed inner inner' =>
    cases h' with
    | tables mid => rw [inner'] at mid; cases mid
    | closed _ inner'' => exact .closed inner inner''

/-- A section keeps up the agreement of tables that it adds to. -/
theorem under? {s : Section} {path : List String} {w w' : Value} (h : AgreeInside key v v')
    (hw : s.under? path v = some w) (hw' : s.under? path v' = some w') :
    AgreeInside key (some w) (some w') := by
  cases path with
  | nil =>
    cases hs : s.header.isRepeated with
    | true => exact .closed (innerOf_value?_of_isRepeated hs hw) (innerOf_value?_of_isRepeated hs hw')
    | false =>
      obtain ⟨htable, hclosed⟩ := innerOf_value? hs hw
      obtain ⟨htable', hclosed'⟩ := innerOf_value? hs hw'
      cases h with
      | tables inner inner' agree =>
        obtain ⟨r, hr, hwr⟩ := htable _ inner
        obtain ⟨r', hr', hwr'⟩ := htable' _ inner'
        exact .tables hwr hwr' (agree.assignAll hr hr')
      | closed inner inner' => exact .closed (hclosed inner) (hclosed' inner')
  | cons first path =>
    obtain ⟨htable, hclosed⟩ := innerOf_through hw
    obtain ⟨htable', hclosed'⟩ := innerOf_through hw'
    cases h with
    | tables inner inner' agree =>
      obtain ⟨form, r, hr, hwr⟩ := htable _ inner
      obtain ⟨form', r', hr', hwr'⟩ := htable' _ inner'
      exact .tables hwr hwr' (agree.descend hr hr')
    | closed inner inner' => exact .closed (hclosed inner) (hclosed' inner')

/-- A section under `key` changes nothing else. -/
theorem through {s : Section} {path : List String} {w : Value} (hpath : path.headD s.header.key = key)
    (hw : through false s.edit path v = some w) : AgreeInside key v (some w) := by
  obtain ⟨htable, hclosed⟩ := innerOf_through hw
  cases hinner : innerOf v with
  | none => exact .closed hinner (hclosed hinner)
  | some es =>
    obtain ⟨form, r, hr, hwr⟩ := htable es hinner
    rw [descend_edit, hpath] at hr
    obtain ⟨u, -, rfl⟩ := Option.map_eq_some_iff.1 hr
    exact .tables hinner hwr (agreeBut_put key u es)

end AgreeInside

/-- The value that a table has under a key. -/
def Value.entry? (key : String) : Value → Option Value
  | .table _ es => find? key es
  | _ => none

theorem AgreeInside.entry? {key k : String} {v v' : Option Value} (h : AgreeInside key v v')
    (hk : k ≠ key) : v'.bind (Value.entry? k) = v.bind (Value.entry? k) := by
  have htable {v : Option Value} {es : Entries} (hv : innerOf v = some es) :
      v.bind (Value.entry? k) = find? k es := by
    unfold innerOf at hv
    split at hv <;> cases hv <;> rfl
  have hclosed {v : Option Value} (hv : innerOf v = none) : v.bind (Value.entry? k) = none := by
    cases v with
    | none => cases hv
    | some v =>
      cases v with
      | table => cases hv
      | string | integer | float | boolean | datetime | array | tables => rfl
  cases h with
  | tables inner inner' agree => rw [htable inner, htable inner', agree k hk]
  | closed inner inner' => rw [hclosed inner, hclosed inner']

/-- Whether entries agree but for what stands under `key` in the table under `outer`. -/
structure Related (outer key : String) (es es' : Entries) : Prop where
  /-- They agree in all other keys. -/
  others : AgreeBut outer es es'
  /-- So do the tables under `outer`. -/
  inner : AgreeInside key (find? outer es) (find? outer es')

/-- Whether a header is that of the table under `key` in the table under `outer`, or of a table in that. -/
def Header.isWithin (outer key : String) (h : Header) : Bool :=
  match h.path with
  | [] => false
  | first :: rest => first = outer && rest.headD h.key = key

section

variable {outer key : String} {es es' es'' r r' : Entries}

theorem Related.refl (outer key : String) (es : Entries) : Related outer key es es :=
  ⟨.refl outer es, .refl key _⟩

theorem Related.symm (h : Related outer key es es') : Related outer key es' es :=
  ⟨h.others.symm, h.inner.symm⟩

theorem Related.trans (h : Related outer key es es') (h' : Related outer key es' es'') :
    Related outer key es es'' := ⟨h.others.trans h'.others, h.inner.trans h'.inner⟩

/-- The same section keeps entries related. -/
theorem Related.addSection {s : Section} (h : Related outer key es es') (hr : Toml.addSection s es = some r)
    (hr' : Toml.addSection s es' = some r') : Related outer key r r' := by
  rw [addSection_eq, descend_edit] at hr hr'
  refine ⟨h.others.map_put hr hr', ?_⟩
  obtain ⟨v, hv, rfl⟩ := Option.map_eq_some_iff.1 hr
  obtain ⟨v', hv', rfl⟩ := Option.map_eq_some_iff.1 hr'
  rw [find?_put, find?_put]
  split
  · next houter =>
    rw [← houter] at hv hv'
    exact h.inner.under? hv hv'
  · exact h.inner

/-- A section of the key itself does too. -/
theorem related_addSection {s : Section} (hs : s.header.isWithin outer key = true)
    (hr : Toml.addSection s es = some r) : Related outer key es r := by
  rw [Header.isWithin] at hs
  split at hs
  · cases hs
  · next first rest hpath =>
    rw [Bool.and_eq_true, decide_eq_true_eq, decide_eq_true_eq] at hs
    obtain ⟨rfl, hkey⟩ := hs
    rw [addSection_eq, hpath, descend_cons] at hr
    obtain ⟨v, hv, rfl⟩ := Option.map_eq_some_iff.1 hr
    refine ⟨agreeBut_put first v es, ?_⟩
    rw [find?_put, if_pos rfl]
    exact .through hkey hv

/-! ### Documents -/

/-- Sections of the key itself change nothing else. -/
theorem related_of_isWithin {sections : List Section}
    (hs : ∀ s ∈ sections, s.header.isWithin outer key = true) (h : addSections sections es = some r) :
    Related outer key es r := by
  induction sections generalizing es with
  | nil =>
    cases h
    exact .refl outer key _
  | cons s sections ih =>
    obtain ⟨hs, hrest⟩ := List.forall_mem_cons.1 hs
    obtain ⟨mid, hmid, h⟩ := addSections_cons h
    exact (related_addSection hs hmid).trans (ih hrest h)

/-- Entries stay related if sections are added to both that differ only in those of the key itself. -/
theorem Related.addSections {sections sections' : List Section}
    (hs : (sections.filter fun s => !s.header.isWithin outer key) =
      sections'.filter fun s => !s.header.isWithin outer key)
    (h : Related outer key es es') (hr : Toml.addSections sections es = some r)
    (hr' : Toml.addSections sections' es' = some r') : Related outer key r r' := by
  induction sections generalizing sections' es es' with
  | nil =>
    cases hr
    have hwithin : ∀ s ∈ sections', s.header.isWithin outer key = true := by
      simpa using List.filter_eq_nil_iff.1 hs.symm
    exact h.trans (related_of_isWithin hwithin hr')
  | cons s sections ih =>
    obtain ⟨mid, hmid, hr⟩ := addSections_cons hr
    by_cases hwithin : s.header.isWithin outer key = true
    · rw [List.filter_cons_of_neg (by simp [hwithin])] at hs
      exact ih hs ((related_addSection hwithin hmid).symm.trans h) hr hr'
    · rw [List.filter_cons_of_pos (by simp [hwithin])] at hs
      obtain ⟨before, after, rfl, hbefore, -, hafter⟩ := List.filter_eq_cons_iff.1 hs.symm
      rw [Toml.addSections, List.foldlM_append] at hr'
      obtain ⟨es'', hes'', hr'⟩ := Option.bind_eq_some_iff.1 hr'
      obtain ⟨mid', hmid', hr'⟩ := addSections_cons hr'
      have hbefore : Related outer key es' es'' :=
        related_of_isWithin (fun s hs => by simpa using hbefore s hs) hes''
      exact ih hafter.symm ((h.trans hbefore).addSection hmid hmid') hr hr'

end

/-- The document that a text writes. -/
def document? (text : String) : Option Document :=
  let cs := skipMark text.toList
  (readStatements (cs.length + 1) cs).map Document.ofStatements

theorem read_eq (text : String) : read text = (document? text).bind Document.entries := by
  rw [read, document?, Option.bind_map]
  rfl

/-- Whether two documents differ in nothing but the sections of one key. -/
structure Document.SameOutside (outer key : String) (d d' : Document) : Prop where
  /-- The assignments before the first header are the same. -/
  preamble : d'.preamble = d.preamble
  /-- The other sections are the same and stand in the same order. -/
  sections : (d.sections.filter fun s => !s.header.isWithin outer key) =
    d'.sections.filter fun s => !s.header.isWithin outer key

/-- The tables of documents that differ in nothing but the sections of one key are related. -/
theorem related_of_sameOutside {outer key : String} {d d' : Document} {es es' : Entries}
    (hsame : d.SameOutside outer key d') (h : d.entries = some es) (h' : d'.entries = some es') :
    Related outer key es es' := by
  obtain ⟨top, htop, h⟩ := Option.bind_eq_some_iff.1 h
  obtain ⟨top', htop', h'⟩ := Option.bind_eq_some_iff.1 h'
  rw [hsame.preamble, htop] at htop'
  cases htop'
  exact (Related.refl outer key top).addSections hsame.sections h h'

end ParserConformance.Toml
