import ParserConformance.Outline.OfParseTree
import ParserConformance.Proofs.Outline.Places

/-!
# The kept nodes of a parse tree

A node of a parse tree is kept if it is the root, or named, or an error or missing node, and if it is
not below a missing node. The outline of the tree is the tree of the kept nodes: each has a node of the
outline for it, in the same order and below that of the nearest kept node above it.

## Main statement
- `ParseTree.outline_isTreeOfKept`: the nodes of the outline stand one to one for the kept nodes.

Between a kept node and the kept nodes next below it stand only anonymous nodes, at any depth. `tops`
lists those next below with their places, and `source` joins such places on the way from the root of
the outline to one of its nodes.
-/

namespace ParserConformance.ParseTree

/-! ### Places in a parse tree -/

/-- The node to which the indices of children lead, one index a level. -/
def nodeAt? : List Nat → ParseTree → Option ParseTree
  | [], t => some t
  | i :: path, t =>
    match t.children[i]? with
    | some c => nodeAt? path c
    | none => none

/-- At the place stands a node that is kept. -/
structure IsKeptAt (t : ParseTree) (path : List Nat) : Prop where
  /-- It is the root, or a node that is kept for what it is. -/
  node : ∃ n, t.nodeAt? path = some n ∧
    (path = [] ∨ n.named = true ∨ n.isError = true ∨ n.isMissing = true)
  /-- It is not below a missing node. -/
  above : ∀ place n, IsAbove place path → t.nodeAt? place = some n → n.isMissing = false

/-- The first place is that of the nearest kept node above the second. -/
structure IsNearestAbove (t : ParseTree) (place path : List Nat) : Prop where
  /-- A kept node stands there. -/
  kept : t.IsKeptAt place
  /-- It is above. -/
  above : IsAbove place path
  /-- No kept node stands between. -/
  nearest : ∀ other, t.IsKeptAt other → IsAbove other path → other = place ∨ IsAbove other place

/-- What a kept node is shown as, its children aside. -/
inductive Shows (positions : Bool) (n : ParseTree) : Outline → Prop where
  /-- A missing node, even if it is an error node too. The empty kind is none. -/
  | missing (h : n.isMissing = true) :
    Shows positions n (.missing (if n.kind = "" then none else some n.kind)
      (if positions then some ⟨n.start, n.stop⟩ else none))
  /-- Another error node. -/
  | error (slots : List (Slot Outline)) (missing : n.isMissing = false) (h : n.isError = true) :
    Shows positions n (.error (if positions then some ⟨n.start, n.stop⟩ else none) slots)
  /-- Any other node. -/
  | node (slots : List (Slot Outline)) (missing : n.isMissing = false) (error : n.isError = false) :
    Shows positions n (.node n.kind (if positions then some ⟨n.start, n.stop⟩ else none) slots)

/-- The outline `o` is the tree of the kept nodes of `t`: its node at a place stands for the node of
`t` at the source of that place. -/
structure IsTreeOfKept (positions : Bool) (t : ParseTree) (o : Outline)
    (source : List Nat → List Nat) : Prop where
  /-- Each node stands for a kept node. -/
  kept : ∀ path, o.HasNode path → t.IsKeptAt (source path)
  /-- For each kept node there stands one. -/
  one : ∀ place, t.IsKeptAt place → ∃! path, o.HasNode path ∧ source path = place
  /-- The order is the same. -/
  order : ∀ path path', o.HasNode path → o.HasNode path' →
    (Precedes path path' ↔ Precedes (source path) (source path'))
  /-- The parent of a node stands for the nearest kept node above. -/
  parent : ∀ path i, o.HasNode (path ++ [i]) → t.IsNearestAbove (source path) (source (path ++ [i]))
  /-- A child has the field label of the node that it stands for. -/
  field : ∀ path i slot, o.slotAt? path i = some slot →
    ∃ n, t.nodeAt? (source (path ++ [i])) = some n ∧ slot.field = n.field
  /-- A node is what the node that it stands for is shown as. -/
  node : ∀ path u, o.nodeAt? path = some u →
    ∃ n, t.nodeAt? (source path) = some n ∧ Shows positions n u

variable {t n c : ParseTree} {i : Nat} {path place : List Nat}

theorem nodeAt?_cons_eq_some_iff :
    t.nodeAt? (i :: path) = some n ↔ ∃ c, t.children[i]? = some c ∧ c.nodeAt? path = some n := by
  rw [nodeAt?]
  cases t.children[i]? with
  | none => simp
  | some c => simp

theorem nodeAt?_append (t : ParseTree) (p q : List Nat) :
    t.nodeAt? (p ++ q) = (t.nodeAt? p).bind (nodeAt? q) := by
  induction p generalizing t with
  | nil => rfl
  | cons i p ih =>
    rw [List.cons_append, nodeAt?, nodeAt?]
    cases t.children[i]? with
    | none => rfl
    | some c => exact ih c

theorem isKept_iff : n.isKept = true ↔ n.named = true ∨ n.isError = true ∨ n.isMissing = true := by
  rw [ParseTree.isKept, Bool.or_eq_true, Bool.or_eq_true, or_assoc]

theorem isMissing_eq_false_of_isKept (h : n.isKept = false) : n.isMissing = false := by
  rw [ParseTree.isKept, Bool.or_eq_false_iff] at h
  exact h.2

theorem isKeptAt_nil (t : ParseTree) : t.IsKeptAt [] :=
  ⟨⟨t, rfl, .inl rfl⟩, fun _ _ h => absurd h not_isAbove_nil⟩

theorem IsKeptAt.exists_isKept (h : t.IsKeptAt path) (hne : path ≠ []) :
    ∃ n, t.nodeAt? path = some n ∧ n.isKept = true := by
  obtain ⟨⟨n, hn, hkept⟩, -⟩ := h
  exact ⟨n, hn, isKept_iff.2 (hkept.resolve_left hne)⟩

/-! ### Next kept nodes -/

/-- A kept node at or below `t`, with no kept node above it there. -/
inductive IsTop : ParseTree → List Nat → ParseTree → Prop where
  /-- The root is kept. -/
  | here {t : ParseTree} (kept : t.isKept = true) : IsTop t [] t
  /-- The root is not kept, and it is one for a child. -/
  | deeper {t c n : ParseTree} {i : Nat} {path : List Nat} (dropped : t.isKept = false)
    (child : t.children[i]? = some c) (top : IsTop c path n) : IsTop t (i :: path) n

/-- A kept node below `t`, with no kept node between. -/
def IsNext (t : ParseTree) (path : List Nat) (n : ParseTree) : Prop :=
  ∃ i rest c, path = i :: rest ∧ t.children[i]? = some c ∧ IsTop c rest n

theorem IsTop.nodeAt?_eq (h : IsTop t path n) : t.nodeAt? path = some n := by
  induction h with
  | here kept => rfl
  | deeper _ child _ ih => exact nodeAt?_cons_eq_some_iff.2 ⟨_, child, ih⟩

theorem IsTop.isKept (h : IsTop t path n) : n.isKept = true := by
  induction h with
  | here kept => exact kept
  | deeper _ _ _ ih => exact ih

/-- What is above such a node is dropped. -/
theorem IsTop.isKept_eq_false (h : IsTop t path n) {m : ParseTree} (hplace : IsAbove place path)
    (hm : t.nodeAt? place = some m) : m.isKept = false := by
  induction h generalizing place with
  | here => exact absurd hplace not_isAbove_nil
  | deeper dropped child _ ih =>
    rcases isAbove_cons_iff.1 hplace with rfl | ⟨rest, rfl, hrest⟩
    · obtain rfl := Option.some.inj hm
      exact dropped
    · obtain ⟨c, hc, hm⟩ := nodeAt?_cons_eq_some_iff.1 hm
      obtain rfl := Option.some.inj (child.symm.trans hc)
      exact ih hrest hm

/-- Above each kept node there stands such a node, or it is one. -/
theorem exists_isTop (h : t.nodeAt? path = some n) (hkept : n.isKept = true) :
    ∃ top rest m, path = top ++ rest ∧ IsTop t top m := by
  induction path generalizing t with
  | nil =>
    obtain rfl := Option.some.inj h
    exact ⟨[], [], t, rfl, .here hkept⟩
  | cons i path ih =>
    cases ht : t.isKept with
    | true => exact ⟨[], i :: path, t, rfl, .here ht⟩
    | false =>
      obtain ⟨c, hc, hn⟩ := nodeAt?_cons_eq_some_iff.1 h
      obtain ⟨top, rest, m, rfl, htop⟩ := ih hn
      exact ⟨i :: top, rest, m, rfl, .deeper ht hc htop⟩

theorem IsNext.ne_nil (h : IsNext t path n) : path ≠ [] := by
  obtain ⟨i, rest, c, rfl, -⟩ := h
  exact List.cons_ne_nil i rest

theorem IsNext.nodeAt?_eq (h : IsNext t path n) : t.nodeAt? path = some n := by
  obtain ⟨i, rest, c, rfl, hc, htop⟩ := h
  exact nodeAt?_cons_eq_some_iff.2 ⟨c, hc, htop.nodeAt?_eq⟩

theorem IsNext.isKept (h : IsNext t path n) : n.isKept = true := by
  obtain ⟨i, rest, c, rfl, hc, htop⟩ := h
  exact htop.isKept

/-- Between a node and a kept node next below it all nodes are dropped. -/
theorem IsNext.isKept_eq_false (h : IsNext t path n) {m : ParseTree} (hplace : IsAbove place path)
    (hne : place ≠ []) (hm : t.nodeAt? place = some m) : m.isKept = false := by
  obtain ⟨i, rest, c, rfl, hc, htop⟩ := h
  rcases isAbove_cons_iff.1 hplace with rfl | ⟨place', rfl, hplace'⟩
  · exact absurd rfl hne
  · obtain ⟨c', hc', hm⟩ := nodeAt?_cons_eq_some_iff.1 hm
    obtain rfl := Option.some.inj (hc.symm.trans hc')
    exact htop.isKept_eq_false hplace' hm

/-! ### Their list -/

mutual

/-- The kept nodes at or below `t` with no kept node above them there, each with its place. -/
def tops : ParseTree → List (List Nat × ParseTree)
  | ⟨kind, named, field, isError, isMissing, start, stop, children⟩ =>
    let t := ParseTree.mk kind named field isError isMissing start stop children
    if t.isKept then [([], t)] else topsFrom 0 children

/-- The same for the children of a node from `index` on, with their places below the node. -/
def topsFrom : (index : Nat) → List ParseTree → List (List Nat × ParseTree)
  | _, [] => []
  | index, t :: ts => (tops t).map (fun top => (index :: top.1, top.2)) ++ topsFrom (index + 1) ts

end

theorem tops_eq (t : ParseTree) : tops t = if t.isKept then [([], t)] else topsFrom 0 t.children := by
  cases t
  rfl

theorem slots_eq (positions : Bool) (t : ParseTree) :
    slots positions t =
      if t.isKept then [⟨t.field, t.outline positions⟩] else slotsAll positions t.children := by
  cases t
  rfl

/-- The slot of a kept node. -/
def slotOf (positions : Bool) (top : List Nat × ParseTree) : Slot Outline :=
  ⟨top.2.field, top.2.outline positions⟩

mutual

theorem slots_eq_map (positions : Bool) : ∀ t : ParseTree,
    slots positions t = (tops t).map (slotOf positions)
  | ⟨kind, named, field, isError, isMissing, start, stop, children⟩ => by
    rw [slots_eq, tops_eq]
    split
    · rfl
    · exact slotsAll_eq_map positions 0 children

/-- The children of a node in an outline are its next kept nodes. -/
theorem slotsAll_eq_map (positions : Bool) : ∀ (index : Nat) (ts : List ParseTree),
    slotsAll positions ts = (topsFrom index ts).map (slotOf positions)
  | _, [] => rfl
  | index, t :: ts => by
    rw [slotsAll, topsFrom, List.map_append, List.map_map, slots_eq_map positions t,
      slotsAll_eq_map positions (index + 1) ts]
    rfl

end

mutual

theorem mem_tops : ∀ (t : ParseTree) {path : List Nat} {n : ParseTree},
    (path, n) ∈ tops t ↔ IsTop t path n
  | ⟨kind, named, field, isError, isMissing, start, stop, children⟩, path, n => by
    rw [tops_eq]
    split
    · next hkept =>
      rw [List.mem_singleton, Prod.mk.injEq]
      constructor
      · rintro ⟨rfl, rfl⟩
        exact .here hkept
      · rintro (_ | ⟨dropped, -, -⟩)
        · exact ⟨rfl, rfl⟩
        · exact absurd hkept (by simp [dropped])
    · next hkept =>
      rw [mem_topsFrom children]
      constructor
      · rintro ⟨i, rest, c, rfl, hc, htop⟩
        exact .deeper (by simpa using hkept) (by simpa using hc) htop
      · rintro (kept | ⟨-, child, top⟩)
        · exact absurd kept hkept
        · exact ⟨_, _, _, by simp, child, top⟩

theorem mem_topsFrom : ∀ (ts : List ParseTree) {index : Nat} {path : List Nat} {n : ParseTree},
    (path, n) ∈ topsFrom index ts ↔
      ∃ i rest c, path = (index + i) :: rest ∧ ts[i]? = some c ∧ IsTop c rest n
  | [], index, path, n => by simp [topsFrom]
  | t :: ts, index, path, n => by
    rw [topsFrom, List.mem_append, List.mem_map, mem_topsFrom ts]
    constructor
    · rintro (⟨⟨rest, m⟩, hmem, heq⟩ | ⟨i, rest, c, rfl, hc, htop⟩)
      · obtain ⟨rfl, rfl⟩ := Prod.mk.inj heq
        exact ⟨0, rest, t, rfl, rfl, (mem_tops t).1 hmem⟩
      · exact ⟨i + 1, rest, c, by rw [Nat.add_assoc, Nat.add_comm 1], hc, htop⟩
    · rintro ⟨i, rest, c, rfl, hc, htop⟩
      cases i with
      | zero =>
        obtain rfl := Option.some.inj hc
        exact .inl ⟨(rest, n), (mem_tops t).2 htop, rfl⟩
      | succ i => exact .inr ⟨i, rest, c, by rw [Nat.add_assoc, Nat.add_comm 1], hc, htop⟩

end

theorem mem_topsFrom_children : (path, n) ∈ topsFrom 0 t.children ↔ IsNext t path n := by
  rw [mem_topsFrom, IsNext]
  simp only [Nat.zero_add]

/-! ### Their order -/

/-- Whatever is at or below the first place comes before whatever is at or below the second. -/
def IsBefore (p q : List Nat) : Prop := ∀ r s, Precedes (p ++ r) (q ++ s)

theorem isBefore_cons {i j : Nat} {p q : List Nat} (h : i < j ∨ i = j ∧ IsBefore p q) :
    IsBefore (i :: p) (j :: q) := fun r s =>
  precedes_cons_cons.2 (h.imp_right fun h => ⟨h.1, h.2 r s⟩)

mutual

theorem pairwise_tops : ∀ t : ParseTree, (tops t).Pairwise fun a b => IsBefore a.1 b.1
  | ⟨kind, named, field, isError, isMissing, start, stop, children⟩ => by
    rw [tops_eq]
    split
    · exact List.pairwise_singleton _ _
    · exact pairwise_topsFrom 0 children

theorem pairwise_topsFrom : ∀ (index : Nat) (ts : List ParseTree),
    (topsFrom index ts).Pairwise fun a b => IsBefore a.1 b.1
  | _, [] => .nil
  | index, t :: ts => by
    rw [topsFrom, List.pairwise_append, List.pairwise_map]
    refine ⟨(pairwise_tops t).imp fun h => isBefore_cons (.inr ⟨rfl, h⟩), pairwise_topsFrom (index + 1) ts, ?_⟩
    rintro a ha ⟨path, n⟩ hb
    obtain ⟨top, -, rfl⟩ := List.mem_map.1 ha
    obtain ⟨i, rest, c, rfl, -, -⟩ := (mem_topsFrom ts).1 hb
    exact isBefore_cons (.inl (by omega))

end

/-! ### Sources -/

/-- The place in `t` of the node for which the node at a place of its outline stands. -/
def source : ParseTree → List Nat → List Nat
  | _, [] => []
  | t, i :: path =>
    match (topsFrom 0 t.children)[i]? with
    | some (top, n) => top ++ n.source path
    | none => []

theorem source_cons {top : List Nat} (h : (topsFrom 0 t.children)[i]? = some (top, n))
    (path : List Nat) : t.source (i :: path) = top ++ n.source path := by
  rw [source, h]

variable {positions : Bool} {u : Outline}

theorem children_outline (positions : Bool) (t : ParseTree) : (t.outline positions).children =
    if t.isMissing then [] else (topsFrom 0 t.children).map (slotOf positions) := by
  rw [outline, frame, ← slotsAll_eq_map]
  split
  · rfl
  · split <;> rfl

/-- A child of an outline's root is the slot of a next kept node. -/
theorem children_outline_getElem?_eq_some_iff {slot : Slot Outline} :
    (t.outline positions).children[i]? = some slot ↔
      t.isMissing = false ∧ ∃ top n, (topsFrom 0 t.children)[i]? = some (top, n) ∧
        slotOf positions (top, n) = slot := by
  rw [children_outline]
  cases t.isMissing with
  | true => simp
  | false => simp

theorem outline_nodeAt?_cons_eq_some_iff : (t.outline positions).nodeAt? (i :: path) = some u ↔
    t.isMissing = false ∧ ∃ top n, (topsFrom 0 t.children)[i]? = some (top, n) ∧
      (n.outline positions).nodeAt? path = some u := by
  rw [Outline.nodeAt?_cons_eq_some_iff]
  constructor
  · rintro ⟨slot, hslot, hu⟩
    obtain ⟨hmissing, top, n, hn, rfl⟩ := children_outline_getElem?_eq_some_iff.1 hslot
    exact ⟨hmissing, top, n, hn, hu⟩
  · rintro ⟨hmissing, top, n, hn, hu⟩
    exact ⟨_, children_outline_getElem?_eq_some_iff.2 ⟨hmissing, top, n, hn, rfl⟩, hu⟩

/-- Each node of an outline is the outline of the node for which it stands, and the nodes below the one
stand for nodes below the other. -/
theorem source_append (h : (t.outline positions).nodeAt? path = some u) :
    ∃ n, t.nodeAt? (t.source path) = some n ∧ u = n.outline positions ∧
      ∀ rest, t.source (path ++ rest) = t.source path ++ n.source rest := by
  induction path generalizing t with
  | nil => exact ⟨t, rfl, (Option.some.inj h).symm, fun _ => rfl⟩
  | cons i path ih =>
    obtain ⟨-, top, m, hm, h⟩ := outline_nodeAt?_cons_eq_some_iff.1 h
    obtain ⟨n, hn, hu, hsource⟩ := ih h
    have hnext : IsNext t top m := mem_topsFrom_children.1 (List.mem_of_getElem? hm)
    refine ⟨n, ?_, hu, fun rest => ?_⟩
    · rw [source_cons hm, nodeAt?_append, hnext.nodeAt?_eq, Option.bind_some, hn]
    · rw [List.cons_append, source_cons hm, source_cons hm, hsource, List.append_assoc]

/-- What is kept in a next kept node is kept, unless the node above is missing. -/
theorem IsNext.isKeptAt_append_iff {top : List Nat} (hnext : IsNext t top n) :
    t.IsKeptAt (top ++ path) ↔ t.isMissing = false ∧ n.IsKeptAt path := by
  have hnode : ∀ rest, t.nodeAt? (top ++ rest) = n.nodeAt? rest := fun rest => by
    rw [nodeAt?_append, hnext.nodeAt?_eq, Option.bind_some]
  constructor
  · rintro ⟨⟨m, hm, hkept⟩, habove⟩
    rw [hnode] at hm
    refine ⟨?_, ⟨m, hm, hkept.imp_left fun h => (List.append_eq_nil_iff.1 h).2⟩, fun place k hplace hk => ?_⟩
    · obtain ⟨i, rest, c, rfl, -⟩ := hnext
      exact habove [] t ⟨i, rest ++ path, rfl⟩ rfl
    · exact habove (top ++ place) k (isAbove_append_iff.2 (.inr ⟨place, rfl, hplace⟩)) (hnode place ▸ hk)
  · rintro ⟨hmissing, ⟨m, hm, hkept⟩, habove⟩
    refine ⟨⟨m, (hnode path).trans hm, .inr ?_⟩, fun place k hplace hk => ?_⟩
    · rcases hkept with rfl | hkept
      · obtain rfl := Option.some.inj hm
        exact isKept_iff.1 hnext.isKept
      · exact hkept
    · rcases isAbove_append_iff.1 hplace with hplace | ⟨rest, rfl, hrest⟩
      · by_cases hne : place = []
        · obtain rfl := hne
          obtain rfl := Option.some.inj hk
          exact hmissing
        · exact isMissing_eq_false_of_isKept (hnext.isKept_eq_false hplace hne hk)
      · exact habove rest k hrest (hnode rest ▸ hk)

theorem isKeptAt_source (h : (t.outline positions).nodeAt? path = some u) : t.IsKeptAt (t.source path) := by
  induction path generalizing t with
  | nil => exact isKeptAt_nil t
  | cons i path ih =>
    obtain ⟨hmissing, top, m, hm, h⟩ := outline_nodeAt?_cons_eq_some_iff.1 h
    have hnext : IsNext t top m := mem_topsFrom_children.1 (List.mem_of_getElem? hm)
    rw [source_cons hm]
    exact hnext.isKeptAt_append_iff.2 ⟨hmissing, ih h⟩

/-- A kept node below the root is at or below a next kept node. -/
theorem IsKeptAt.exists_isNext (h : t.IsKeptAt path) (hne : path ≠ []) :
    ∃ top rest m, path = top ++ rest ∧ IsNext t top m := by
  obtain ⟨n, hn, hkept⟩ := h.exists_isKept hne
  cases path with
  | nil => exact absurd rfl hne
  | cons i path =>
    obtain ⟨c, hc, hn⟩ := nodeAt?_cons_eq_some_iff.1 hn
    obtain ⟨top, rest, m, rfl, htop⟩ := exists_isTop hn hkept
    exact ⟨i :: top, rest, m, rfl, i, top, c, rfl, hc, htop⟩

/-- For each kept node there stands a node of the outline. -/
theorem exists_source (positions : Bool) {t : ParseTree} {place : List Nat} (h : t.IsKeptAt place) :
    ∃ path, (t.outline positions).HasNode path ∧ t.source path = place := by
  by_cases hne : place = []
  · exact ⟨[], ⟨_, rfl⟩, hne.symm⟩
  obtain ⟨top, rest, m, rfl, hnext⟩ := h.exists_isNext hne
  obtain ⟨hmissing, hrest⟩ := hnext.isKeptAt_append_iff.1 h
  have hshorter : rest.length < (top ++ rest).length := by
    have := List.length_pos_iff.2 hnext.ne_nil
    rw [List.length_append]
    omega
  obtain ⟨path, ⟨u, hu⟩, rfl⟩ := exists_source positions hrest
  obtain ⟨i, hi⟩ := List.mem_iff_getElem?.1 (mem_topsFrom_children.2 hnext)
  exact ⟨i :: path, ⟨u, outline_nodeAt?_cons_eq_some_iff.2 ⟨hmissing, top, m, hi, hu⟩⟩, source_cons hi path⟩
termination_by place.length

/-- Nodes of the outline stand for nodes of the tree in the same order. -/
theorem precedes_source {path' : List Nat} (h : (t.outline positions).HasNode path)
    (h' : (t.outline positions).HasNode path') (hlt : Precedes path path') :
    Precedes (t.source path) (t.source path') := by
  induction path generalizing t path' with
  | nil =>
    cases path' with
    | nil => exact absurd hlt not_precedes_nil
    | cons j path' =>
      obtain ⟨u', h'⟩ := h'
      obtain ⟨-, top, m, hm, -⟩ := outline_nodeAt?_cons_eq_some_iff.1 h'
      obtain ⟨k, rest, -, rfl, -⟩ := mem_topsFrom_children.1 (List.mem_of_getElem? hm)
      rw [source_cons hm]
      exact .nil
  | cons i path ih =>
    cases path' with
    | nil => exact absurd hlt not_precedes_nil
    | cons j path' =>
      obtain ⟨u, h⟩ := h
      obtain ⟨u', h'⟩ := h'
      obtain ⟨-, top, m, hm, h⟩ := outline_nodeAt?_cons_eq_some_iff.1 h
      obtain ⟨-, top', m', hm', h'⟩ := outline_nodeAt?_cons_eq_some_iff.1 h'
      rw [source_cons hm, source_cons hm']
      rcases precedes_cons_cons.1 hlt with hij | ⟨rfl, hlt'⟩
      · obtain ⟨hi, hm⟩ := List.getElem?_eq_some_iff.1 hm
        obtain ⟨hj, hm'⟩ := List.getElem?_eq_some_iff.1 hm'
        have hbefore := List.pairwise_iff_getElem.1 (pairwise_topsFrom 0 t.children) i j hi hj hij
        rw [hm, hm'] at hbefore
        exact hbefore _ _
      · obtain ⟨rfl, rfl⟩ := Prod.mk.inj (Option.some.inj (hm.symm.trans hm'))
        exact precedes_append_left top (ih ⟨u, h⟩ ⟨u', h'⟩ hlt')

theorem precedes_source_iff {path' : List Nat} (h : (t.outline positions).HasNode path)
    (h' : (t.outline positions).HasNode path') :
    Precedes path path' ↔ Precedes (t.source path) (t.source path') := by
  refine ⟨precedes_source h h', fun hlt => ?_⟩
  rcases precedes_trichotomy path path' with hp | rfl | hp
  · exact hp
  · exact absurd hlt not_precedes_self
  · exact absurd (precedes_source h' h hp) hlt.asymm

/-- No two nodes of the outline stand for one node. -/
theorem source_injective {path' : List Nat} (h : (t.outline positions).HasNode path)
    (h' : (t.outline positions).HasNode path') (heq : t.source path = t.source path') : path = path' := by
  rcases precedes_trichotomy path path' with hp | hp | hp
  · exact absurd (heq ▸ precedes_source h h' hp) not_precedes_self
  · exact hp
  · exact absurd (heq ▸ precedes_source h' h hp) not_precedes_self

/-- A child of a node of the outline is the slot of a next kept node of the node for which this stands. -/
theorem exists_isNext_source {slot : Slot Outline} (h : (t.outline positions).slotAt? path i = some slot) :
    ∃ n top m, t.nodeAt? (t.source path) = some n ∧ IsNext n top m ∧
      t.source (path ++ [i]) = t.source path ++ top ∧ slotOf positions (top, m) = slot := by
  obtain ⟨u, hu, hslot⟩ := Option.bind_eq_some_iff.1 h
  obtain ⟨n, hn, rfl, hsource⟩ := source_append hu
  obtain ⟨-, top, m, hm, hslot⟩ := children_outline_getElem?_eq_some_iff.1 hslot
  refine ⟨n, top, m, hn, mem_topsFrom_children.1 (List.mem_of_getElem? hm), ?_, hslot⟩
  rw [hsource, source_cons hm, source, List.append_nil]

theorem isNearestAbove_source (h : (t.outline positions).HasNode (path ++ [i])) :
    t.IsNearestAbove (t.source path) (t.source (path ++ [i])) := by
  obtain ⟨u, hu⟩ := h
  rw [Outline.nodeAt?_append_singleton] at hu
  obtain ⟨slot, hslot, -⟩ := Option.map_eq_some_iff.1 hu
  obtain ⟨n, top, m, hn, hnext, hsource, -⟩ := exists_isNext_source hslot
  obtain ⟨v, hv, -⟩ := Option.bind_eq_some_iff.1 hslot
  rw [hsource]
  refine ⟨isKeptAt_source hv, ?_, fun other hother habove => ?_⟩
  · obtain ⟨j, rest, -, rfl, -⟩ := hnext
    exact ⟨j, rest, rfl⟩
  rcases isAbove_append_iff.1 habove with habove | ⟨rest, rfl, hrest⟩
  · exact .inr habove
  · by_cases hne : rest = []
    · exact .inl (by rw [hne, List.append_nil])
    -- a node between the two is dropped
    obtain ⟨k, hk, hkept⟩ := hother.exists_isKept fun h => hne (List.append_eq_nil_iff.1 h).2
    rw [nodeAt?_append, hn, Option.bind_some] at hk
    have hdropped := hnext.isKept_eq_false hrest hne hk
    exact absurd (hdropped.symm.trans hkept) (by decide)

/-! ### The outline -/

theorem shows_outline (positions : Bool) (t : ParseTree) : Shows positions t (t.outline positions) := by
  rw [outline, frame]
  cases hm : t.isMissing with
  | true =>
    have : Shows positions t _ := .missing hm
    simpa [String.isEmpty_iff] using this
  | false =>
    cases he : t.isError with
    | true => exact .error _ hm he
    | false => exact .node _ hm he

/-- **The outline of a parse tree is the tree of its kept nodes**, with positions and without. -/
theorem outline_isTreeOfKept (positions : Bool) (t : ParseTree) :
    ∃ source, IsTreeOfKept positions t (t.outline positions) source := by
  refine ⟨t.source, ⟨?kept, ?one, ?order, ?parent, ?field, ?node⟩⟩
  case kept => exact fun path ⟨u, hu⟩ => isKeptAt_source hu
  case one =>
    intro place hplace
    obtain ⟨path, hpath, rfl⟩ := exists_source positions hplace
    exact ⟨path, ⟨hpath, rfl⟩, fun path' ⟨hpath', heq⟩ => source_injective hpath' hpath heq⟩
  case order => exact fun path path' => precedes_source_iff
  case parent => exact fun path i => isNearestAbove_source
  case field =>
    intro path i slot hslot
    obtain ⟨n, top, m, hn, hnext, hsource, rfl⟩ := exists_isNext_source hslot
    refine ⟨m, ?_, rfl⟩
    rw [hsource, nodeAt?_append, hn, Option.bind_some, hnext.nodeAt?_eq]
  case node =>
    intro path u hu
    obtain ⟨n, hn, rfl, -⟩ := source_append hu
    exact ⟨n, hn, shows_outline positions n⟩

end ParserConformance.ParseTree
