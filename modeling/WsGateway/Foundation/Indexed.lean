import Mathlib.Algebra.GroupWithZero.Nat
import Mathlib.Data.List.Basic
import Mathlib.Data.List.Induction

/-! Lists as indexed stores that only grow: appended to, and updated in place. -/

set_option autoImplicit false

namespace WsGateway.Foundation

variable {A : Type} {items : List A} {i : Nat} {item found : A}

theorem getElem?_concat_eq_some :
    (items ++ [item])[i]? = some found ↔
      items[i]? = some found ∨ i = items.length ∧ found = item := by
  rcases Nat.lt_trichotomy i items.length with before | rfl | beyond
  · rw [List.getElem?_append_left before]
    constructor
    · exact Or.inl
    · rintro (old | ⟨rfl, _⟩)
      · exact old
      · omega
  · simp [eq_comm]
  · have out : (items ++ [item]).length ≤ i := by simpa using Nat.succ_le_of_lt beyond
    rw [List.getElem?_eq_none out, List.getElem?_eq_none (Nat.le_of_lt beyond)]
    constructor
    · intro impossible; cases impossible
    · rintro (impossible | ⟨rfl, _⟩)
      · cases impossible
      · omega

theorem lt_length_of_found (here : items[i]? = some found) : i < items.length :=
  (List.getElem?_eq_some_iff.mp here).1

theorem set_found (here : items[i]? = some found) : items.set i found = items := by
  obtain ⟨bound, same⟩ := List.getElem?_eq_some_iff.mp here
  rw [← same, List.set_getElem_self]

theorem getElem?_set_eq_some {j : Nat} {old : A} (here : items[i]? = some old) :
    (items.set i item)[j]? = some found ↔
      i = j ∧ found = item ∨ i ≠ j ∧ items[j]? = some found := by
  by_cases same : i = j
  · subst same
    simp [lt_length_of_found here, eq_comm]
  · simp [List.getElem?_set_ne same, same]

theorem mem_set {old : A} (here : items[i]? = some old) (member : found ∈ items.set i item) :
    found = item ∨ found ∈ items := by
  obtain ⟨j, bound, rfl⟩ := List.mem_iff_getElem.mp member
  rcases (getElem?_set_eq_some here).mp (List.getElem?_eq_getElem bound) with ⟨_, same⟩ | ⟨_, kept⟩
  · exact Or.inl same
  · exact Or.inr (List.mem_of_getElem? kept)

theorem mem_modify {change : A → A} (member : found ∈ items.modify i change) :
    found ∈ items ∨ ∃ old, items[i]? = some old ∧ found = change old := by
  obtain ⟨j, bound, rfl⟩ := List.mem_iff_getElem.mp member
  have here := List.getElem?_eq_getElem bound
  rw [List.getElem?_modify] at here
  obtain ⟨old, before, changed⟩ := Option.map_eq_some_iff.mp here
  rw [← changed]
  split
  next same =>
    subst same
    exact Or.inr ⟨old, before, rfl⟩
  next => exact Or.inl (List.mem_of_getElem? before)

theorem countP_modify (p : A → Bool) (change : A → A) (here : items[i]? = some found) :
    (items.modify i change).countP p + (if p found then 1 else 0) =
      items.countP p + (if p (change found) then 1 else 0) := by
  induction items generalizing i with
  | nil => cases here
  | cons head tail ih =>
    cases i with
    | zero =>
      cases here
      simp only [List.modify_zero_cons, List.countP_cons]
      omega
    | succ i =>
      have rest := ih (i := i) here
      simp only [List.modify_succ_cons, List.countP_cons]
      omega

theorem countP_set (p : A → Bool) (item : A) (here : items[i]? = some found) :
    (items.set i item).countP p + (if p found then 1 else 0) =
      items.countP p + (if p item then 1 else 0) := by
  have : Inhabited A := ⟨item⟩
  have count := countP_modify p (fun _ => item) here
  rwa [List.modify_eq_set] at count

theorem sum_modify (f : A → Nat) (change : A → A) (here : items[i]? = some found) :
    ((items.modify i change).map f).sum + f found = (items.map f).sum + f (change found) := by
  induction items generalizing i with
  | nil => cases here
  | cons head tail ih =>
    cases i with
    | zero =>
      cases here
      simp only [List.modify_zero_cons, List.map_cons, List.sum_cons]
      omega
    | succ i =>
      have rest := ih (i := i) here
      simp only [List.modify_succ_cons, List.map_cons, List.sum_cons]
      omega

theorem sum_set (f : A → Nat) (item : A) (here : items[i]? = some found) :
    ((items.set i item).map f).sum + f found = (items.map f).sum + f item := by
  have : Inhabited A := ⟨item⟩
  have count := sum_modify f (fun _ => item) here
  rwa [List.modify_eq_set] at count

theorem countP_modify_le (p : A → Bool) (change : A → A) (here : items[i]? = some found)
    (less : p (change found) = true → p found = true) :
    (items.modify i change).countP p ≤ items.countP p := by
  have count := countP_modify p change here
  by_cases counted : p (change found) = true
  · rw [if_pos counted, if_pos (less counted)] at count
    omega
  · rw [if_neg counted] at count
    omega

theorem IsPrefix.getElem?_eq_some {whole : List A} (before : items <+: whole)
    (here : items[i]? = some found) : whole[i]? = some found := by
  obtain ⟨rest, rfl⟩ := before
  rw [List.getElem?_append_left (lt_length_of_found here), here]

def indices (p : A → Bool) (items : List A) : List Nat :=
  (List.range items.length).filter fun i => items[i]?.any p

theorem mem_indices {p : A → Bool} :
    i ∈ indices p items ↔ ∃ item, items[i]? = some item ∧ p item = true := by
  rw [indices, List.mem_filter, List.mem_range, Option.any_eq_true]
  constructor
  · exact And.right
  · rintro ⟨item, here, kind⟩
    exact ⟨lt_length_of_found here, item, here, kind⟩

theorem nodup_indices (p : A → Bool) (items : List A) : (indices p items).Nodup :=
  List.nodup_range.filter _

theorem length_indices (p : A → Bool) (items : List A) :
    (indices p items).length = items.countP p := by
  induction items using List.reverseRecOn with
  | nil => rfl
  | append_singleton front last ih =>
    have old : (List.range front.length).filter (fun i => (front ++ [last])[i]?.any p) =
        indices p front := by
      refine List.filter_congr fun i member => ?_
      rw [List.getElem?_append_left (List.mem_range.mp member)]
    rw [indices, List.length_append, List.length_singleton, List.range_succ, List.filter_append, old,
      List.length_append, ih, List.countP_append, List.filter_singleton, List.getElem?_concat_length,
      List.countP_singleton, Option.any_some]
    cases p last <;> rfl

section Ordinals

variable {B : Type} {p : A → Bool} {whole : List A}

/-- The number of an index among the items of a kind. -/
def ordinal (p : A → Bool) (items : List A) (i : Nat) : Nat := (items.take i).countP p

theorem ordinal_succ (head : A) (tail : List A) (i : Nat) :
    ordinal p (head :: tail) (i + 1) = ordinal p tail i + if p head then 1 else 0 := by
  rw [ordinal, List.take_succ_cons, List.countP_cons, ordinal]

theorem ordinal_length (p : A → Bool) (items : List A) :
    ordinal p items items.length = (items.filter p).length := by
  rw [ordinal, List.take_length, List.countP_eq_length_filter]

theorem ordinal_map (p : B → Bool) (f : A → B) (items : List A) (i : Nat) :
    ordinal p (items.map f) i = ordinal (fun item => p (f item)) items i := by
  rw [ordinal, ← List.map_take, List.countP_map]
  rfl

theorem ordinal_of_prefix (before : items <+: whole) (bound : i ≤ items.length) :
    ordinal p whole i = ordinal p items i := by
  obtain ⟨rest, rfl⟩ := before
  rw [ordinal, List.take_append_of_le_length bound, ordinal]

/-- The items of a kind, found by their numbers among themselves. -/
theorem getElem?_filter_ordinal (here : items[i]? = some found) (kind : p found = true) :
    (items.filter p)[ordinal p items i]? = some found := by
  induction items generalizing i with
  | nil => cases here
  | cons head tail ih =>
    cases i with
    | zero =>
      cases here
      rw [List.filter_cons_of_pos kind]
      rfl
    | succ i =>
      rw [ordinal_succ, List.filter_cons]
      by_cases own : p head = true
      · rw [if_pos own, if_pos own]
        exact ih here
      · rw [if_neg own, if_neg own]
        exact ih here

theorem filter_modify_of_kind (change : A → A) (here : items[i]? = some found) (kind : p found = true)
    (kept : p (change found) = true) :
    (items.modify i change).filter p = (items.filter p).modify (ordinal p items i) change := by
  induction items generalizing i with
  | nil => cases here
  | cons head tail ih =>
    cases i with
    | zero =>
      cases here
      rw [List.modify_zero_cons, List.filter_cons_of_pos kept, List.filter_cons_of_pos kind]
      rfl
    | succ i =>
      rw [List.modify_succ_cons, ordinal_succ, List.filter_cons, List.filter_cons]
      by_cases own : p head = true
      · rw [if_pos own, if_pos own, if_pos own, List.modify_succ_cons, ih here]
      · rw [if_neg own, if_neg own, if_neg own, ih here]
        rfl

theorem filter_modify_of_other (change : A → A) (here : items[i]? = some found)
    (other : p found = false) (kept : p (change found) = false) :
    (items.modify i change).filter p = items.filter p := by
  induction items generalizing i with
  | nil => cases here
  | cons head tail ih =>
    cases i with
    | zero =>
      cases here
      rw [List.modify_zero_cons, List.filter_cons_of_neg (by simp [kept]),
        List.filter_cons_of_neg (by simp [other])]
    | succ i => rw [List.modify_succ_cons, List.filter_cons, List.filter_cons, ih here]

theorem filter_set_of_kind (here : items[i]? = some found) (kind : p found = true)
    (kept : p item = true) : (items.set i item).filter p = (items.filter p).set (ordinal p items i) item := by
  have : Inhabited A := ⟨item⟩
  have filtered := filter_modify_of_kind (fun _ => item) here kind kept
  rwa [List.modify_eq_set, List.modify_eq_set] at filtered

theorem filter_set_of_other (here : items[i]? = some found) (other : p found = false)
    (kept : p item = false) : (items.set i item).filter p = items.filter p := by
  have : Inhabited A := ⟨item⟩
  have filtered := filter_modify_of_other (fun _ => item) here other kept
  rwa [List.modify_eq_set] at filtered

theorem map_modify {f : A → B} {change : A → A} {change' : B → B}
    (commutes : ∀ item, f (change item) = change' (f item)) :
    (items.modify i change).map f = (items.map f).modify i change' := by
  refine List.ext_getElem? fun j => ?_
  rw [List.getElem?_map, List.getElem?_modify, List.getElem?_modify, List.getElem?_map]
  cases items[j]? with
  | none => rfl
  | some old =>
    by_cases same : i = j
    · simp only [same, if_true, Option.map_some, Option.map_eq_map, commutes]
    · simp only [same, if_false, Option.map_some, Option.map_eq_map]

end Ordinals

end WsGateway.Foundation
