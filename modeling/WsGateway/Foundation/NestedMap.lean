import Mathlib.Algebra.GroupWithZero.Nat
import Mathlib.Data.List.AList
import Mathlib.Logic.Function.Basic

/-! Two-level maps: an outer map whose values are maps themselves.

`flat` forgets the levels. Insertion and removal are updates of the flat map
at one pair of keys, and dropping an empty inner map does not show in it.
-/

set_option autoImplicit false

namespace WsGateway.Foundation

variable {I J V : Type} [DecidableEq I] [DecidableEq J]

abbrev InnerMap (J V : Type) := AList fun _ : J => V

abbrev NestedMap (I J V : Type) := AList fun _ : I => InnerMap J V

namespace InnerMap

def isEmpty (inner : InnerMap J V) : Bool := inner.entries.isEmpty

theorem isEmpty_iff {inner : InnerMap J V} :
    inner.isEmpty = true ↔ ∀ key, AList.lookup key inner = none := by
  rw [isEmpty, List.isEmpty_iff]
  constructor
  · intro none key
    rw [AList.lookup_eq_none, AList.mem_keys, AList.keys, none]
    exact List.not_mem_nil
  · intro absent
    rw [List.eq_nil_iff_forall_not_mem]
    rintro ⟨key, value⟩ member
    have present : key ∈ inner := AList.mem_keys.mpr (List.mem_map_of_mem member)
    rw [← AList.lookup_isSome, absent key] at present
    cases present

theorem not_isEmpty_insert (inner : InnerMap J V) (key : J) (value : V) :
    InnerMap.isEmpty (AList.insert key value inner) = false := by
  rw [Bool.eq_false_iff, ne_eq, isEmpty_iff]
  intro absent
  have found := absent key
  rw [AList.lookup_insert] at found
  cases found

section Values

variable {W : Type}

omit [DecidableEq J] in
def mapValues (f : V → W) (inner : InnerMap J V) : InnerMap J W :=
  ⟨inner.entries.map (Sigma.map id fun _ => f), inner.nodupKeys.map₂ fun _ => f⟩

variable (f : V → W) (inner : InnerMap J V) (key : J)

theorem lookup_mapValues :
    AList.lookup key (inner.mapValues f) = (AList.lookup key inner).map f :=
  List.dlookup_map₂ key

omit [DecidableEq J] in
theorem keys_mapValues : (inner.mapValues f).keys = inner.keys :=
  List.map₂_keys _ _

theorem entries_erase_mapValues :
    (AList.erase key (inner.mapValues f)).entries =
      (AList.erase key inner).entries.map (Sigma.map id fun _ => f) :=
  List.eraseP_map

theorem mapValues_erase :
    mapValues f (AList.erase key inner) = AList.erase key (inner.mapValues f) :=
  AList.ext (entries_erase_mapValues f inner key).symm

theorem mapValues_insert (value : V) :
    mapValues f (AList.insert key value inner) = AList.insert key (f value) (inner.mapValues f) := by
  refine AList.ext ?_
  rw [AList.entries_insert]
  exact congrArg (List.cons _) (entries_erase_mapValues f inner key).symm

omit [DecidableEq J] in
theorem isEmpty_mapValues : (inner.mapValues f).isEmpty = inner.isEmpty :=
  List.isEmpty_map

end Values

end InnerMap

namespace NestedMap

section Operations

def find (map : NestedMap I J V) (i : I) (j : J) : Option V :=
  (AList.lookup i map).bind fun inner => AList.lookup j inner

def put (map : NestedMap I J V) (i : I) (j : J) (value : V) : NestedMap I J V :=
  AList.insert i (AList.insert j value ((AList.lookup i map).getD ∅)) map

/-- Remove from an inner map, which stays in place when it becomes empty. -/
def remove (map : NestedMap I J V) (i : I) (j : J) : NestedMap I J V :=
  (AList.lookup i map).elim map fun inner => AList.insert i (AList.erase j inner) map

/-- The outer key is present and its inner map is empty. -/
def isVacant (map : NestedMap I J V) (i : I) : Bool :=
  (AList.lookup i map).any InnerMap.isEmpty

def prune (map : NestedMap I J V) (i : I) : NestedMap I J V :=
  if map.isVacant i then AList.erase i map else map

def inner (map : NestedMap I J V) (i : I) : InnerMap J V := (AList.lookup i map).getD ∅

def flat (map : NestedMap I J V) : I × J → Option V := fun key => map.find key.1 key.2

end Operations

section Flat

variable (map : NestedMap I J V) (i : I) (j : J) (value : V)

theorem flat_eq_inner : map.flat = fun key => AList.lookup key.2 (map.inner key.1) := by
  funext key
  simp only [flat, find, inner]
  cases AList.lookup key.1 map <;> rfl

omit [DecidableEq I] [DecidableEq J] in
theorem eq_empty_of_notMem {map : NestedMap I J V} (absent : ∀ i, i ∉ map) : map = ∅ := by
  refine AList.ext (List.eq_nil_iff_forall_not_mem.mpr ?_)
  intro entry member
  exact absent entry.1 (AList.mem_keys.mpr (List.mem_map_of_mem member))

theorem flat_empty : flat (∅ : NestedMap I J V) = fun _ => none := rfl

theorem inner_put :
    inner (map.put i j value) = Function.update map.inner i (AList.insert j value (map.inner i)) := by
  funext other
  by_cases same : other = i
  · subst same
    simp [inner, put]
  · simp [inner, put, AList.lookup_insert_ne same, Function.update_of_ne same]

theorem inner_remove :
    inner (map.remove i j) = Function.update map.inner i (AList.erase j (map.inner i)) := by
  funext other
  cases found : AList.lookup i map with
  | none =>
    have kept : map.remove i j = map := by rw [remove, found]; rfl
    have absent : AList.erase j (map.inner i) = map.inner i := by rw [inner, found]; rfl
    rw [kept, absent, Function.update_eq_self]
  | some room =>
    have entered : map.remove i j = AList.insert i (AList.erase j room) map := by
      rw [remove, found]
      rfl
    by_cases same : other = i
    · subst same
      simp [inner, entered, found]
    · simp [inner, entered, AList.lookup_insert_ne same, Function.update_of_ne same]

omit [DecidableEq J] in
theorem inner_prune : inner (map.prune i) = map.inner := by
  unfold prune
  split
  next vacant =>
    funext other
    by_cases same : other = i
    · subst same
      rw [isVacant, Option.any_eq_true] at vacant
      obtain ⟨room, found, empty⟩ := vacant
      -- An inner map without entries is what an absent key stands for.
      have nothing : room = ∅ := AList.ext (List.isEmpty_iff.mp empty)
      rw [inner, inner, found, AList.lookup_erase, nothing]
      rfl
    · rw [inner, inner, AList.lookup_erase_ne same]
  next => rfl

theorem flat_put : flat (map.put i j value) = Function.update map.flat (i, j) (some value) := by
  rw [flat_eq_inner, flat_eq_inner, inner_put]
  funext ⟨other, key⟩
  by_cases outer : other = i
  · subst outer
    by_cases same : key = j
    · subst same
      simp
    · simp [AList.lookup_insert_ne same, same]
  · simp [outer]

theorem flat_remove : flat (map.remove i j) = Function.update map.flat (i, j) none := by
  rw [flat_eq_inner, flat_eq_inner, inner_remove]
  funext ⟨other, key⟩
  by_cases outer : other = i
  · subst outer
    by_cases same : key = j
    · subst same
      simp
    · simp [AList.lookup_erase_ne same, same]
  · simp [outer]

theorem flat_prune : flat (map.prune i) = map.flat := by
  rw [flat_eq_inner, flat_eq_inner, inner_prune]

end Flat

section Vacancy

variable {map : NestedMap I J V} {i : I} {j : J} {value : V}

theorem isVacant_iff : map.isVacant i = true ↔ i ∈ map ∧ ∀ j, map.find i j = none := by
  rw [isVacant, Option.any_eq_true, ← AList.lookup_isSome, Option.isSome_iff_exists]
  constructor
  · rintro ⟨inner, found, empty⟩
    refine ⟨⟨inner, found⟩, fun j => ?_⟩
    rw [find, found]
    exact InnerMap.isEmpty_iff.mp empty j
  · rintro ⟨⟨inner, found⟩, absent⟩
    refine ⟨inner, found, InnerMap.isEmpty_iff.mpr fun j => ?_⟩
    have missing := absent j
    rw [find, found] at missing
    exact missing

theorem isVacant_put {other : I} :
    (map.put i j value).isVacant other = true ↔ other ≠ i ∧ map.isVacant other = true := by
  by_cases same : other = i
  · subst same
    simp [isVacant, put, InnerMap.not_isEmpty_insert]
  · simp [isVacant, put, AList.lookup_insert_ne same, same]

theorem mem_remove {other : I} : other ∈ map.remove i j ↔ other ∈ map := by
  cases found : AList.lookup i map with
  | none => simp [remove, found]
  | some inner =>
    have present : i ∈ map := AList.lookup_isSome.mp (by rw [found]; rfl)
    simp only [remove, found, Option.elim_some, AList.mem_insert, or_iff_right_iff_imp]
    rintro rfl
    exact present

theorem isVacant_remove_of_ne {other : I} (different : other ≠ i) :
    (map.remove i j).isVacant other = map.isVacant other := by
  cases found : AList.lookup i map with
  | none => simp [isVacant, remove, found]
  | some inner => simp [isVacant, remove, found, AList.lookup_insert_ne different]

theorem isVacant_remove {other : I} (vacant : map.isVacant other = true) :
    (map.remove i j).isVacant other = true := by
  obtain ⟨present, absent⟩ := isVacant_iff.mp vacant
  refine isVacant_iff.mpr ⟨mem_remove.mpr present, fun key => ?_⟩
  have removed := congrFun (flat_remove map i j) (other, key)
  rw [flat, Function.update_apply] at removed
  rw [removed]
  split
  · rfl
  · exact absent key

omit [DecidableEq J] in
theorem isVacant_prune {other : I} :
    (map.prune i).isVacant other = true ↔ other ≠ i ∧ map.isVacant other = true := by
  unfold prune
  split
  next vacant =>
    by_cases same : other = i
    · subst same
      simp [isVacant]
    · simp [isVacant, AList.lookup_erase_ne same, same]
  next occupied =>
    constructor
    · intro vacant
      refine ⟨?_, vacant⟩
      rintro rfl
      exact occupied vacant
    · rintro ⟨_, vacant⟩
      exact vacant

end Vacancy

section Restriction

variable {W : Type}

omit [DecidableEq J] in
def only (map : NestedMap I J V) (i : I) (f : V → W) : NestedMap I J W :=
  (AList.lookup i map).elim ∅ fun inner => AList.singleton i (inner.mapValues f)

variable {map map' : NestedMap I J V} {i other : I} {f : V → W}

omit [DecidableEq J] in
theorem only_of_lookup {inner : InnerMap J V} (found : AList.lookup i map = some inner) :
    map.only i f = AList.singleton i (inner.mapValues f) := by
  rw [only, found, Option.elim_some]

omit [DecidableEq J] in
theorem only_congr (same : AList.lookup i map = AList.lookup i map') :
    map.only i f = map'.only i f := by
  rw [only, same, only]

omit [DecidableEq J] in
theorem lookup_only : AList.lookup i (map.only i f) = (AList.lookup i map).map (InnerMap.mapValues f) := by
  cases found : AList.lookup i map with
  | none =>
    rw [only, found]
    rfl
  | some inner =>
    rw [only_of_lookup found, ← AList.insert_empty, AList.lookup_insert]
    rfl

omit [DecidableEq J] in
theorem mem_only : i ∈ map.only i f ↔ i ∈ map := by
  rw [← AList.lookup_isSome, lookup_only, Option.isSome_map, AList.lookup_isSome]

theorem find_only (j : J) : (map.only i f).find i j = (map.find i j).map f := by
  rw [find, find, lookup_only]
  cases AList.lookup i map with
  | none => rfl
  | some inner => exact inner.lookup_mapValues f j

omit [DecidableEq J] in
theorem isVacant_only : (map.only i f).isVacant i = map.isVacant i := by
  rw [isVacant, isVacant, lookup_only]
  cases AList.lookup i map with
  | none => rfl
  | some inner => exact inner.isEmpty_mapValues f

theorem only_put (j : J) (value : V) :
    (map.put i j value).only i f = (map.only i f).put i j (f value) := by
  rw [put, only_of_lookup (AList.lookup_insert map), InnerMap.mapValues_insert, put, lookup_only]
  cases found : AList.lookup i map with
  | none =>
    rw [only, found]
    rfl
  | some inner =>
    rw [only_of_lookup found, AList.insert_singleton_eq]
    rfl

theorem only_put_of_ne (different : i ≠ other) (j : J) (value : V) :
    (map.put other j value).only i f = map.only i f :=
  only_congr (AList.lookup_insert_ne different)

theorem only_remove (j : J) : (map.remove i j).only i f = (map.only i f).remove i j := by
  cases found : AList.lookup i map with
  | none =>
    rw [remove, found, remove, lookup_only, found]
    rfl
  | some inner =>
    rw [remove, found, Option.elim_some, only_of_lookup (AList.lookup_insert map), remove, lookup_only,
      found, only_of_lookup found, InnerMap.mapValues_erase]
    exact AList.insert_singleton_eq.symm

theorem only_remove_of_ne (different : i ≠ other) (j : J) :
    (map.remove other j).only i f = map.only i f := by
  refine only_congr ?_
  cases found : AList.lookup other map with
  | none => rw [remove, found, Option.elim_none]
  | some inner => rw [remove, found, Option.elim_some, AList.lookup_insert_ne different]

omit [DecidableEq J] in
theorem only_prune : (map.prune i).only i f = (map.only i f).prune i := by
  rw [prune, prune, isVacant_only]
  split
  next =>
    rw [only, AList.lookup_erase, Option.elim_none]
    cases found : AList.lookup i map with
    | none =>
      rw [only, found]
      rfl
    | some inner =>
      rw [only_of_lookup found]
      refine AList.ext (Eq.symm ?_)
      exact List.kerase_cons_eq rfl
  next => rfl

omit [DecidableEq J] in
theorem only_prune_of_ne (different : i ≠ other) : (map.prune other).only i f = map.only i f := by
  refine only_congr ?_
  unfold prune
  split
  next => exact AList.lookup_erase_ne different
  next => rfl

end Restriction

section Counting

variable {map : NestedMap I J V}

omit [DecidableEq I] [DecidableEq J] in
def pairs (map : NestedMap I J V) : List (I × J) :=
  map.entries.flatMap fun outer => outer.2.keys.map fun j => (outer.1, j)

theorem mem_pairs {key : I × J} : key ∈ map.pairs ↔ ∃ value, map.flat key = some value := by
  simp only [pairs, List.mem_flatMap, List.mem_map, flat, find, Option.bind_eq_some_iff]
  constructor
  · rintro ⟨⟨i, inner⟩, outside, j, inside, rfl⟩
    obtain ⟨value, found⟩ := Option.isSome_iff_exists.mp (AList.lookup_isSome.mpr (AList.mem_keys.mpr inside))
    exact ⟨value, inner, AList.mem_lookup_iff.mpr outside, found⟩
  · rintro ⟨value, inner, outside, inside⟩
    have present : key.2 ∈ inner := AList.lookup_isSome.mp (by rw [inside]; rfl)
    exact ⟨⟨key.1, inner⟩, AList.mem_lookup_iff.mp outside, key.2, AList.mem_keys.mp present, rfl⟩

omit [DecidableEq I] [DecidableEq J] in
theorem nodup_pairs (map : NestedMap I J V) : map.pairs.Nodup := by
  rw [pairs, List.nodup_flatMap]
  refine ⟨fun outer _ => ?_, ?_⟩
  · exact outer.2.keys_nodup.map fun j j' same => (Prod.mk.inj same).2
  · refine (List.nodupKeys_iff_pairwise.mp map.nodupKeys).imp fun different => ?_
    intro key left right
    obtain ⟨_, _, rfl⟩ := List.mem_map.mp left
    obtain ⟨_, _, same⟩ := List.mem_map.mp right
    exact different (Prod.mk.inj same).1.symm

omit [DecidableEq I] [DecidableEq J] in
theorem length_pairs (map : NestedMap I J V) :
    map.pairs.length = (map.entries.map fun outer => outer.2.keys.length).sum := by
  simp only [pairs, List.length_flatMap, List.length_map]

end Counting

end NestedMap

end WsGateway.Foundation
