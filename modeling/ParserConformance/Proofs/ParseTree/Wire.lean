import ParserConformance.ParseTree.Wire
import ParserConformance.Proofs.Annotation.Printing
import ParserConformance.Proofs.Json.Reading
import ParserConformance.Proofs.ParseTree.Depth
import ParserConformance.Proofs.ParseTree.Nodes
import ParserConformance.Proofs.Text.Utf8

/-!
# Reading back the JSON of a parse tree

A node is written as an object of those of its members that a reader could not supply itself.
`readMember_value` reads any one member, so any selection of a node's members that has the kind is
read (`readsAs_entries`), as the node with the members that were not selected at their usual values.

Two brackets are open for each level of a tree: the node's own, and that of its positions or of the
array of its children. Reading spends its budget the same way, so `readsAs_encode` gives the reading
of a node with any budget, refusals with it: a text is refused just where the levels run out.

## Main statements

* `nesting_encode`: how many brackets a tree's text has open at once.
* `decodeBytes_text`: what the text of any tree is read as.
* `decodeBytes_encode`: reading undoes writing, and what is left out is supplied at every node.
-/

namespace ParserConformance

open Json (asInput ReadsAs MembersGive ItemsGive Refusal Reader Stops Value)

/-! ### Points -/

theorem Point.membersGive {p : Point} (h : p.Fits) :
    MembersGive Point.readMember ⟨none, none⟩
      [("row", .number p.row), ("column", .number p.column)] (.ok ⟨some p.row, some p.column⟩) := by
  obtain ⟨hrow, hcolumn⟩ := h
  refine .read ⟨some p.row, none⟩ (fun rest hrest => ?_) (.read _ (fun rest hrest => ?_) (.nil _))
  · have := Json.readNatural_number hrow rest hrest
    show readRow ⟨none, none⟩ (asInput _) = _
    rw [readRow, this]
    rfl
  · have := Json.readNatural_number hcolumn rest hrest
    show readColumn ⟨some p.row, none⟩ (asInput _) = _
    rw [readColumn, this]
    rfl

/-- A point takes one bracket. -/
theorem Point.readsAs_read {p : Point} (h : p.Fits) (opens : Nat) :
    ReadsAs (Point.read opens) p.encode (if opens = 0 then .error .malformed else .ok p) := by
  intro rest _
  obtain ⟨body, hwrite, hread⟩ := (membersGive h).exists_write_eq rest
  rw [encode, hwrite, Json.asInput_cons, Point.read, Json.skipSpace_cons (by decide)]
  have hopen : Json.Bracket.opened? (.char '\x7b') = some .object := rfl
  simp only [hopen]
  split
  · rfl
  · simp only [hread, Except.map, Json.ok_bind]
    rfl

namespace ParseTree

/-! ### Members of a node -/

/-- The value of a member. A field label that a node does not have is null. -/
def value (t : ParseTree) : Member → Value
  | .kind => .text t.kind
  | .named => .bool t.named
  | .field => Value.ofOption .text t.field
  | .isError => .bool t.isError
  | .isMissing => .bool t.isMissing
  | .start => t.start.encode
  | .stop => t.stop.encode
  | .children => .array (encodeAll t.children)

/-- A member as objects have it. -/
def entry (t : ParseTree) (m : Member) : String × Value := (m.name, t.value m)

/-- Whether a member has the value that a reader takes it to have where it is left out. -/
def isUsual (t : ParseTree) : Member → Bool
  | .kind => false
  | .named => t.named
  | .field => t.field.isNone
  | .isError => !t.isError
  | .isMissing => !t.isMissing
  | .start => t.start = .origin
  | .stop => t.stop = .origin
  | .children => t.children.isEmpty

/-- The members that a text may be without. -/
def Member.isOptional : Member → Bool
  | .field | .isError | .isMissing | .children => true
  | .kind | .named | .start | .stop => false

/-- The members that a node is written with. -/
def written (t : ParseTree) : List Member :=
  Member.all.filter fun m => !(m.isOptional && t.isUsual m)

theorem encode_eq (t : ParseTree) : t.encode = .object (t.written.map t.entry) := by
  obtain ⟨kind, named, field, isError, isMissing, start, stop, children⟩ := t
  cases field <;> cases isError <;> cases isMissing <;> cases children <;> rfl

theorem mem_written (t : ParseTree) (m : Member) :
    m ∈ t.written ↔ ¬(m.isOptional = true ∧ t.isUsual m = true) := by
  have hall : m ∈ Member.all := by cases m <;> decide
  simp [written, hall, Classical.or_iff_not_imp_left]

theorem kind_mem_written (t : ParseTree) : .kind ∈ t.written :=
  (t.mem_written .kind).2 fun h => Bool.false_ne_true h.1

theorem nodup_written (t : ParseTree) : t.written.Nodup :=
  List.Pairwise.filter _ (by decide)

/-- Members are written in their order. -/
theorem exists_written_eq {t : ParseTree} (before : List Member) {after : List Member} {m : Member}
    (hall : Member.all = before ++ m :: after) (hm : m ∈ t.written) :
    ∃ L₁ L₂, t.written = L₁ ++ m :: L₂ ∧ L₁.Sublist before := by
  have hkeep := (List.mem_filter.1 hm).2
  exact ⟨_, _, by rw [written, hall, List.filter_append, List.filter_cons, if_pos hkeep],
    List.filter_sublist⟩

/-- The node with the given members, all others at their usual values. -/
def only (t : ParseTree) (L : List Member) : ParseTree where
  kind := t.kind
  named := if .named ∈ L then t.named else true
  field := if .field ∈ L then t.field else none
  isError := if .isError ∈ L then t.isError else false
  isMissing := if .isMissing ∈ L then t.isMissing else false
  start := if .start ∈ L then t.start else .origin
  stop := if .stop ∈ L then t.stop else .origin
  children := if .children ∈ L then t.children else []

/-- Members that have their usual values may be left out. -/
theorem only_eq_self {t : ParseTree} {L : List Member} (h : ∀ m, m ∉ L → t.isUsual m = true) :
    t.only L = t := by
  have hkept : ∀ {α : Type} (m : Member) {a b : α}, (t.isUsual m = true → a = b) →
      (if m ∈ L then a else b) = a := by
    intro α m a b hab
    split
    · rfl
    · exact (hab (h m ‹_›)).symm
  obtain ⟨kind, named, field, isError, isMissing, start, stop, children⟩ := t
  rw [only, hkept .named (by simp [isUsual]), hkept .field (by simp [isUsual]),
    hkept .isError (by simp [isUsual]), hkept .isMissing (by simp [isUsual]),
    hkept .start (by simp [isUsual]), hkept .stop (by simp [isUsual]),
    hkept .children (by simp [isUsual])]

/-- What is known of a node of which some members have been read. -/
def draft (t : ParseTree) (L : List Member) : Draft where
  kind := if .kind ∈ L then some t.kind else none
  named := if .named ∈ L then some t.named else none
  field := if .field ∈ L then some t.field else none
  isError := if .isError ∈ L then some t.isError else none
  isMissing := if .isMissing ∈ L then some t.isMissing else none
  start := if .start ∈ L then some t.start else none
  stop := if .stop ∈ L then some t.stop else none
  children := if .children ∈ L then some t.children else none

theorem has_draft (t : ParseTree) (L : List Member) (m : Member) :
    (t.draft L).has m = decide (m ∈ L) := by
  by_cases h : m ∈ L <;> cases m <;> simp [draft, Draft.has, h]

theorem finish_draft (t : ParseTree) {L : List Member} (h : .kind ∈ L) :
    (t.draft L).finish = .ok (t.only L) := by
  have hgetD : ∀ {α : Type} (p : Prop) [Decidable p] (a b : α),
      (if p then some a else none).getD b = if p then a else b := by
    intro α p _ a b
    split <;> rfl
  simp only [Draft.finish, draft, if_pos h, hgetD, only]

theorem ofName?_name (m : Member) : Member.ofName? m.name = some m := by
  cases m <;> rfl

section

variable {readChildren : Reader (List ParseTree)} {opens : Nat} {t : ParseTree}

/-- A member that is not known yet is read by its value. -/
theorem readNamed_entry {L : List Member} {m : Member} (h : m ∉ L) (cs : List Char) :
    readNamed readChildren opens (t.draft L) m.name (asInput (':' :: cs)) =
      readMember readChildren opens m (t.draft L) (asInput cs) := by
  simp only [readNamed, ofName?_name, has_draft, h]
  rfl

/-- Once a member has been read it is known. -/
theorem readMember_value (hfits : t.start.Fits ∧ t.stop.Fits) {m : Member}
    (hopens : m = .start ∨ m = .stop → opens ≠ 0)
    (hchildren : m = .children → ReadsAs readChildren (.array (encodeAll t.children)) (.ok t.children))
    (L : List Member) (rest : List Char) (hrest : Stops rest) :
    readMember readChildren opens m (t.draft L) (asInput ((t.value m).write none rest)) =
      .ok (t.draft (L ++ [m]), asInput rest) := by
  cases m with
  | kind =>
    rw [readMember, value, Json.readString_text _ rest hrest]
    simp [Except.map, Json.ok_bind, draft, pure, Except.pure]
  | named =>
    rw [readMember, value, Json.readBool_bool _ rest hrest]
    simp [Except.map, Json.ok_bind, draft, pure, Except.pure]
  | field =>
    rw [readMember, value, Json.readOptionalString_ofOption _ rest hrest]
    simp [Except.map, Json.ok_bind, draft, pure, Except.pure]
  | isError =>
    rw [readMember, value, Json.readBool_bool _ rest hrest]
    simp [Except.map, Json.ok_bind, draft, pure, Except.pure]
  | isMissing =>
    rw [readMember, value, Json.readBool_bool _ rest hrest]
    simp [Except.map, Json.ok_bind, draft, pure, Except.pure]
  | start =>
    rw [readMember, value, Point.readsAs_read hfits.1 opens rest hrest, if_neg (hopens (.inl rfl))]
    simp [Except.map, Json.ok_bind, draft, pure, Except.pure]
  | stop =>
    rw [readMember, value, Point.readsAs_read hfits.2 opens rest hrest, if_neg (hopens (.inr rfl))]
    simp [Except.map, Json.ok_bind, draft, pure, Except.pure]
  | children =>
    rw [readMember, value, hchildren rfl rest hrest]
    simp [Except.map, Json.ok_bind, draft, pure, Except.pure]

/-- Members are read one after the other, each once. -/
theorem membersGive_entries (hfits : t.start.Fits ∧ t.stop.Fits) {L : List Member}
    (hopens : .start ∈ L ∨ .stop ∈ L → opens ≠ 0)
    (hchildren : .children ∈ L →
      ReadsAs readChildren (.array (encodeAll t.children)) (.ok t.children))
    {K : List Member} (hnodup : L.Nodup) (hdisjoint : ∀ m ∈ L, m ∉ K) :
    MembersGive (readNamed readChildren opens) (t.draft K) (L.map t.entry)
      (.ok (t.draft (K ++ L))) := by
  induction L generalizing K with
  | nil =>
    rw [List.append_nil]
    exact .nil _
  | cons m L ih =>
    obtain ⟨hm, hnodup⟩ := List.nodup_cons.1 hnodup
    obtain ⟨hmK, hdisjoint⟩ := List.forall_mem_cons.1 hdisjoint
    rw [← List.singleton_append, ← List.append_assoc]
    refine .read (t.draft (K ++ [m])) (fun rest hrest => ?_)
      (ih (fun h => hopens (h.imp (.tail m) (.tail m))) (fun h => hchildren (.tail m h)) hnodup ?_)
    · rw [readNamed_entry hmK]
      refine readMember_value hfits (fun h => hopens ?_) (fun h => hchildren ?_) K rest hrest
      · rcases h with rfl | rfl
        · exact .inl List.mem_cons_self
        · exact .inr List.mem_cons_self
      · exact h ▸ List.mem_cons_self
    · intro m' hm'
      rw [List.mem_append, List.mem_singleton, not_or]
      exact ⟨hdisjoint m' hm', fun h => hm (h ▸ hm')⟩

/-- Where a member is refused, so are the members with it. -/
theorem membersGive_refused (hfits : t.start.Fits ∧ t.stop.Fits) {L₁ : List Member} {m : Member}
    (hopens : .start ∈ L₁ ∨ .stop ∈ L₁ → opens ≠ 0) (hchildren : .children ∉ L₁)
    (hm : m ∉ L₁) (hnodup : L₁.Nodup) {refusal : Refusal}
    (hread : ∀ rest, Stops rest → readMember readChildren opens m (t.draft L₁)
      (asInput ((t.value m).write none rest)) = .error refusal) (L₂ : List Member) :
    MembersGive (readNamed readChildren opens) .empty ((L₁ ++ m :: L₂).map t.entry)
      (.error refusal) := by
  rw [List.map_append, List.map_cons]
  refine MembersGive.append (membersGive_entries hfits hopens (fun h => absurd h hchildren) hnodup
    (fun m _ => List.not_mem_nil)) (.refuse fun rest hrest => ?_)
  rw [List.nil_append, readNamed_entry hm]
  exact hread rest hrest

/-! ### Nodes -/

/-- A node is read as its members are, where a bracket may be opened. -/
theorem readsAs_object
    (hnode : ∀ rest, readNode (opens + 1) (.char '\x7b' :: rest) =
      readBody readChildren opens .object rest)
    {ms : List (String × Value)} {r : Except Refusal Draft}
    (h : MembersGive (readNamed readChildren opens) .empty ms r) :
    ReadsAs (readNode (opens + 1)) (.object ms) (r >>= Draft.finish) := by
  intro rest _
  obtain ⟨body, hwrite, hread⟩ := h.exists_write_eq rest
  rw [hwrite, Json.asInput_cons, hnode]
  simp only [readBody, hread]
  cases r with
  | error refusal => rfl
  | ok d =>
    show (Draft.finish d >>= fun t => .ok (t, asInput rest)) = (Draft.finish d).map (·, asInput rest)
    cases d.finish <;> rfl

end

/-- An array of nodes is read as its items are. -/
theorem readsAs_readArray {read : Reader ParseTree} {ts : List ParseTree}
    {r : Except Refusal (List ParseTree)} (h : ItemsGive read (encodeAll ts) r) :
    ReadsAs (readArray (some read)) (.array (encodeAll ts)) r := by
  intro rest _
  obtain ⟨body, hwrite, hread⟩ := h.exists_write_eq rest
  rw [hwrite, Json.asInput_cons, readArray, Json.skipSpace_cons (by decide)]
  exact hread

/-- All coordinates in the trees are machine words. -/
def FitsAll (ts : List ParseTree) : Prop := ∀ n ∈ nodesAll ts, n.start.Fits ∧ n.stop.Fits

/-- All coordinates in the tree are machine words. -/
def Fits (t : ParseTree) : Prop := ∀ n ∈ nodes t, n.start.Fits ∧ n.stop.Fits

theorem Fits.self {t : ParseTree} (h : t.Fits) : t.start.Fits ∧ t.stop.Fits := h t (self_mem_nodes t)

theorem Fits.children {t : ParseTree} (h : t.Fits) : FitsAll t.children := fun n hn =>
  h n (nodes_eq t ▸ List.mem_cons_of_mem t hn)

theorem FitsAll.head {t : ParseTree} {ts : List ParseTree} (h : FitsAll (t :: ts)) : t.Fits :=
  fun n hn => h n (List.mem_append_left _ hn)

theorem FitsAll.tail {t : ParseTree} {ts : List ParseTree} (h : FitsAll (t :: ts)) : FitsAll ts :=
  fun n hn => h n (List.mem_append_right _ hn)

section

variable {t : ParseTree} {opens : Nat}

/-- Any selection of a node's members is read where its children are. -/
theorem readsAs_entries (hfits : t.Fits)
    (hitems : ItemsGive (readNode opens) (encodeAll t.children) (.ok t.children))
    {L : List Member} (hnodup : L.Nodup) (hkind : .kind ∈ L) :
    ReadsAs (readNode (opens + 2)) (.object (L.map t.entry)) (.ok (t.only L)) := by
  have hmembers : MembersGive (readNamed (readArray (some (readNode opens))) (opens + 1)) .empty
      (L.map t.entry) (.ok (t.draft ([] ++ L))) :=
    membersGive_entries hfits.self (fun _ => Nat.succ_ne_zero opens)
      (fun _ => readsAs_readArray hitems) hnodup (fun m _ => List.not_mem_nil)
  have := readsAs_object (fun rest => rfl) hmembers
  rwa [List.nil_append, Json.ok_bind, finish_draft t hkind] at this

/-- A node is read where its children are. -/
theorem readsAs_encode_of_items (hfits : t.Fits)
    (hitems : ItemsGive (readNode opens) (encodeAll t.children) (.ok t.children)) :
    ReadsAs (readNode (opens + 2)) t.encode (.ok t) := by
  have hself : t.only t.written = t := only_eq_self fun m hm => by
    by_contra h
    exact hm ((t.mem_written m).2 fun hm => h hm.2)
  have := readsAs_entries hfits hitems t.nodup_written t.kind_mem_written
  rwa [← encode_eq, hself] at this

/-- A node is refused where its children are. -/
theorem readsAs_encode_of_refused (hfits : t.Fits) {refusal : Refusal}
    (hitems : ItemsGive (readNode opens) (encodeAll t.children) (.error refusal)) :
    ReadsAs (readNode (opens + 2)) t.encode (.error refusal) := by
  have hmem : .children ∈ t.written := by
    refine (t.mem_written .children).2 fun h => ?_
    rw [List.isEmpty_iff.1 h.2] at hitems
    cases hitems
  obtain ⟨L₁, L₂, hwritten, hL₁⟩ := exists_written_eq
    [.kind, .named, .field, .isError, .isMissing, .start, .stop] rfl hmem
  have hnot : .children ∉ L₁ := fun h => absurd (hL₁.subset h) (by decide)
  rw [encode_eq, hwritten]
  refine readsAs_object (fun rest => rfl) (membersGive_refused hfits.self
    (fun _ => Nat.succ_ne_zero opens) hnot hnot (hL₁.nodup (by decide)) (fun rest hrest => ?_) L₂)
  rw [readMember, value, readsAs_readArray hitems rest hrest]
  rfl

/-- The positions of a node take a bracket inside its own. -/
theorem readsAs_encode_one (hfits : t.Fits) : ReadsAs (readNode 1) t.encode (.error .malformed) := by
  have hmem : .start ∈ t.written := (t.mem_written .start).2 fun h => Bool.false_ne_true h.1
  obtain ⟨L₁, L₂, hwritten, hL₁⟩ := exists_written_eq
    [.kind, .named, .field, .isError, .isMissing] rfl hmem
  have hnot : ∀ m ∉ ([.kind, .named, .field, .isError, .isMissing] : List Member), m ∉ L₁ :=
    fun m hm h => hm (hL₁.subset h)
  rw [encode_eq, hwritten]
  refine readsAs_object (fun rest => rfl) (membersGive_refused hfits.self
    (fun h => absurd h (not_or.2 ⟨hnot .start (by decide), hnot .stop (by decide)⟩))
    (hnot .children (by decide)) (hnot .start (by decide)) (hL₁.nodup (by decide))
    (fun rest hrest => ?_) L₂)
  rw [readMember, value, Point.readsAs_read hfits.self.1 0 rest hrest]
  rfl

end

mutual

/-- Each level of a tree takes two brackets: one for a node and one more for its positions, or for
the array of its children. -/
theorem readsAs_encode : ∀ (t : ParseTree) (opens : Nat), t.Fits →
    ReadsAs (readNode opens) t.encode (if 2 * t.height ≤ opens then .ok t else .error .malformed)
  | t, 0, _ => by
    intro rest _
    obtain ⟨body, hwrite⟩ := Json.exists_write_object (t.written.map t.entry) rest
    rw [if_neg (by rw [height_eq]; omega), encode_eq, hwrite]
    rfl
  | t, 1, h => by
    rw [if_neg (by rw [height_eq]; omega)]
    exact readsAs_encode_one h
  | ⟨kind, named, field, isError, isMissing, start, stop, children⟩, opens + 2, h => by
    have hitems := itemsGive_encodeAll children opens h.children
    by_cases hopens : 2 * heightAll children ≤ opens
    · rw [if_pos hopens] at hitems
      rw [if_pos (by rw [height]; omega)]
      exact readsAs_encode_of_items h hitems
    · rw [if_neg hopens] at hitems
      rw [if_neg (by rw [height]; omega)]
      exact readsAs_encode_of_refused h hitems

theorem itemsGive_encodeAll : ∀ (ts : List ParseTree) (opens : Nat), FitsAll ts →
    ItemsGive (readNode opens) (encodeAll ts)
      (if 2 * heightAll ts ≤ opens then .ok ts else .error .malformed)
  | [], opens, _ => .nil
  | t :: ts, opens, h => by
    have ht := readsAs_encode t opens h.head
    by_cases hheight : 2 * t.height ≤ opens
    · rw [if_pos hheight] at ht
      have hall : (if 2 * heightAll (t :: ts) ≤ opens then Except.ok (t :: ts) else .error .malformed) =
          (if 2 * heightAll ts ≤ opens then Except.ok ts else .error Refusal.malformed).map
            (t :: ·) := by
        rw [heightAll]
        split <;> split <;> first | rfl | omega
      rw [hall]
      exact .read ht (itemsGive_encodeAll ts opens h.tail)
    · rw [if_neg hheight] at ht
      rw [if_neg (by rw [heightAll]; omega)]
      exact .refuse ht

end

/-! ### Texts -/

theorem encode_compact (v : Value) :
    Text.encode v.compact = (v.write none []).flatMap String.utf8EncodeChar := by
  rw [Text.encode_eq, Value.compact, String.toList_ofList]

/-- The text of a value that a reader of nodes takes for a node is the text of that node. -/
theorem decodeBytes_compact {v : Value} {r : Except Refusal ParseTree}
    (h : ReadsAs (readNode openLimit) v r) : decodeBytes (Text.encode v.compact) = r := by
  have hread := h [] (fun c hc => nomatch hc)
  rw [decodeBytes, Text.pieces_encode, Value.compact, String.toList_ofList, decode]
  rw [asInput] at hread
  simp only [hread]
  cases r <;> rfl

mutual

/-- A tree's text has two brackets open for each level of the tree. -/
theorem nesting_encode : ∀ t : ParseTree, t.encode.nesting = 2 * t.height
  | ⟨kind, named, field, isError, isMissing, start, stop, []⟩ => by
    cases field <;> cases isError <;> cases isMissing <;> rfl
  | ⟨kind, named, field, isError, isMissing, start, stop, c :: cs⟩ => by
    have ih := nestingItems_encodeAll (c :: cs)
    cases field <;> cases isError <;> cases isMissing <;>
      simp [encode, Point.encode, Value.nesting, Value.nestingMembers, ih, height] <;> omega

theorem nestingItems_encodeAll : ∀ ts : List ParseTree,
    Value.nestingItems (encodeAll ts) = 2 * heightAll ts
  | [] => rfl
  | t :: ts => by
    rw [encodeAll, Value.nestingItems, nesting_encode t, nestingItems_encodeAll ts, heightAll,
      Nat.mul_max_mul_left]

end

/-- The text of a tree is read as the tree, or refused where it has too many brackets open. -/
theorem decodeBytes_text {t : ParseTree} (h : t.Fits) :
    decodeBytes (Text.encode t.encode.compact) =
      if 2 * t.height ≤ openLimit then .ok t else .error .malformed :=
  decodeBytes_compact (readsAs_encode t openLimit h)

/-- Reading undoes writing, whatever characters the kinds and field labels have. At every node the
members that are left out are those of the optional ones that have their usual values, and a text
with any of the node's members, its kind among them, is the text of that node with the usual values
for all others. -/
theorem decodeBytes_encode {t : ParseTree} (hfits : t.Fits) (hnesting : t.encode.nesting ≤ openLimit) :
    decodeBytes (Text.encode t.encode.compact) = .ok t ∧
      ∀ n ∈ nodes t, n.encode = .object (n.written.map n.entry) ∧
        (∀ m, m ∉ n.written ↔ m.isOptional = true ∧ n.isUsual m = true) ∧
        ∀ L : List Member, L.Nodup → .kind ∈ L →
          decodeBytes (Text.encode (Value.object (L.map n.entry)).compact) = .ok (n.only L) := by
  have hheight : 2 * t.height ≤ openLimit := nesting_encode t ▸ hnesting
  refine ⟨(decodeBytes_text hfits).trans (if_pos hheight), fun n hn =>
    ⟨encode_eq n, fun m => by rw [mem_written, not_not], fun L hnodup hkind => ?_⟩⟩
  have hle := height_le_of_mem_nodes t hn
  have hfits : n.Fits := fun k hk => hfits k (mem_nodes_trans hk t hn)
  -- 125 of the brackets are left inside a node's children.
  have hitems := itemsGive_encodeAll n.children 125 hfits.children
  rw [height_eq n] at hle
  rw [openLimit] at hheight
  rw [if_pos (by omega)] at hitems
  exact decodeBytes_compact (readsAs_entries hfits hitems hnodup hkind)

/-- A node with all flags set, the largest coordinate, and a kind and field label that show little
of what they are once they are written. -/
def awkward : ParseTree :=
  ⟨"\"quoted\\\n\x01é∀😀", false, some "", true, true, ⟨2 ^ 64 - 1, 0⟩, ⟨3, 7⟩,
    [⟨"", true, none, false, false, .origin, ⟨0, 10⟩, []⟩]⟩

theorem decodeBytes_encode_awkward : awkward.Fits ∧ awkward.encode.nesting ≤ openLimit ∧
    decodeBytes (Text.encode awkward.encode.compact) = .ok awkward ∧
    decodeBytes (Text.encode (Value.object ([.isError, .kind].map awkward.entry)).compact) =
      .ok (awkward.only [.isError, .kind]) := by
  have hfits : awkward.Fits := by
    unfold Fits
    decide +kernel
  have hnesting : awkward.encode.nesting ≤ openLimit := by decide
  obtain ⟨hread, hnodes⟩ := decodeBytes_encode hfits hnesting
  have honly := (hnodes awkward (self_mem_nodes awkward)).2.2 [.isError, .kind] (by decide) (by decide)
  exact ⟨hfits, hnesting, hread, honly⟩

end ParseTree

end ParserConformance
