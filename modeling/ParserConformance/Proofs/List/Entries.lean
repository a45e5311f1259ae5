import Mathlib.Data.List.Forall2
import Mathlib.Data.List.Nodup
import ParserConformance.Instances

/-!
# Entries of lists

What becomes of pairings, sums and counts when one entry of a list is replaced, and what is found under
a key if no key comes twice.
-/

namespace List

variable {α β : Type} {R : α → β → Prop} {as : List α} {bs : List β}

theorem forall₂_set_left (h : Forall₂ R as bs) {i : Nat} {a a' : α} (hi : as[i]? = some a)
    (hR : ∀ b, R a b → R a' b) : Forall₂ R (as.set i a') bs := by
  induction h generalizing i with
  | nil => exact .nil
  | cons hab hrest ih =>
    cases i with
    | zero =>
      obtain rfl := Option.some.inj hi
      exact .cons (hR _ hab) hrest
    | succ i => exact .cons hab (ih hi)

theorem forall₂_set (h : Forall₂ R as bs) {i : Nat} {a a' : α} {b' : β} (hi : as[i]? = some a)
    (hR : ∀ b, R a b → R a' b') : Forall₂ R (as.set i a') (bs.set i b') := by
  induction h generalizing i with
  | nil => exact .nil
  | cons hab hrest ih =>
    cases i with
    | zero =>
      obtain rfl := Option.some.inj hi
      exact .cons (hR _ hab) hrest
    | succ i => exact .cons hab (ih hi)

theorem sum_map_set (g : α → Nat) {i : Nat} {a : α} (hi : as[i]? = some a) (a' : α) :
    ((as.set i a').map g).sum + g a = (as.map g).sum + g a' := by
  induction as generalizing i with
  | nil => cases hi
  | cons b as ih =>
    cases i with
    | zero =>
      obtain rfl := Option.some.inj hi
      simp only [set_cons_zero, map_cons, sum_cons]
      omega
    | succ i =>
      have := ih hi
      simp only [set_cons_succ, map_cons, sum_cons]
      omega

theorem countP_set_add (p : α → Bool) {i : Nat} {a : α} (hi : as[i]? = some a) (a' : α) :
    (as.set i a').countP p + (p a).toNat = as.countP p + (p a').toNat := by
  induction as generalizing i with
  | nil => cases hi
  | cons b as ih =>
    cases i with
    | zero =>
      obtain rfl := Option.some.inj hi
      simp only [set_cons_zero, countP_cons]
      cases p b <;> cases p a' <;> simp
    | succ i =>
      have := ih hi
      simp only [set_cons_succ, countP_cons]
      omega

theorem find?_fst_eq_some_iff [DecidableEq α] {l : List (α × β)} (h : (l.map Prod.fst).Nodup) {key : α}
    {e : α × β} : l.find? (·.1 = key) = some e ↔ e ∈ l ∧ e.1 = key := by
  constructor
  · intro he
    exact ⟨mem_of_find?_eq_some he, by simpa using find?_some he⟩
  · rintro ⟨hmem, rfl⟩
    have hsome : (l.find? (·.1 = e.1)).isSome := find?_isSome.2 ⟨e, hmem, by simp⟩
    obtain ⟨found, hfound⟩ := Option.isSome_iff_exists.1 hsome
    have hkey : found.1 = e.1 := by simpa using find?_some hfound
    rw [hfound, inj_on_of_nodup_map h (mem_of_find?_eq_some hfound) hmem hkey]

theorem map_snd_find?_eq_some_iff [DecidableEq α] {l : List (α × β)} (h : (l.map Prod.fst).Nodup)
    {key : α} {b : β} : (l.find? (·.1 = key)).map Prod.snd = some b ↔ (key, b) ∈ l := by
  rw [Option.map_eq_some_iff]
  constructor
  · rintro ⟨⟨k, v⟩, he, rfl⟩
    obtain ⟨hmem, rfl⟩ := (find?_fst_eq_some_iff h).1 he
    exact hmem
  · exact fun hmem => ⟨_, (find?_fst_eq_some_iff h).2 ⟨hmem, rfl⟩, rfl⟩

end List
