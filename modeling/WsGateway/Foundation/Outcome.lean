import Mathlib.Data.Vector.Basic

/-! Computations that return, fail with a reported error, or abort.

A language with checked errors and aborting faults keeps the two apart: an
error is a value handed to the caller, an abort is an index, a slice bound, a
subtraction or a conversion that does not hold. The operations below abort
exactly when the corresponding checked operation of such a language does.
-/

set_option autoImplicit false

namespace WsGateway.Foundation

inductive Outcome (E A : Type) where
  | ok (value : A)
  | error (reason : E)
  | abort
  deriving DecidableEq, Repr

namespace Outcome

variable {E A B : Type}

def bind (first : Outcome E A) (next : A → Outcome E B) : Outcome E B :=
  match first with
  | .ok value => next value
  | .error reason => .error reason
  | .abort => .abort

instance : Monad (Outcome E) where
  pure := .ok
  bind := bind

@[simp] theorem pure_eq (value : A) : (pure value : Outcome E A) = .ok value := rfl

@[simp] theorem ok_bind (value : A) (next : A → Outcome E B) :
    (Outcome.ok value >>= next) = next value := rfl

@[simp] theorem error_bind (reason : E) (next : A → Outcome E B) :
    (Outcome.error reason >>= next) = .error reason := rfl

@[simp] theorem abort_bind (next : A → Outcome E B) :
    ((Outcome.abort : Outcome E A) >>= next) = .abort := rfl

theorem bind_eq_ok {first : Outcome E A} {next : A → Outcome E B} {result : B} :
    (first >>= next) = .ok result ↔ ∃ value, first = .ok value ∧ next value = .ok result := by
  cases first with
  | ok value => simp
  | error reason => simp
  | abort => simp

theorem bind_ne_abort {first : Outcome E A} {next : A → Outcome E B}
    (head : first ≠ .abort) (tail : ∀ value, first = .ok value → next value ≠ .abort) :
    (first >>= next) ≠ .abort := by
  cases first with
  | ok value => exact tail value rfl
  | error reason => simp
  | abort => exact absurd rfl head

def okOr (value : Option A) (reason : E) : Outcome E A :=
  match value with
  | some value => .ok value
  | none => .error reason

@[simp] theorem okOr_eq_ok {value : Option A} {reason : E} {result : A} :
    okOr value reason = .ok result ↔ value = some result := by
  cases value <;> simp [okOr]

theorem okOr_ne_abort (value : Option A) (reason : E) : okOr value reason ≠ .abort := by
  cases value <;> simp [okOr]

def require (holds : Prop) [Decidable holds] (reason : E) : Outcome E Unit :=
  if holds then .ok () else .error reason

theorem require_eq_ok {holds : Prop} [Decidable holds] {reason : E} {done : Unit} :
    require holds reason = .ok done ↔ holds := by
  unfold require
  split <;> simp_all

theorem require_pos {holds : Prop} [Decidable holds] (condition : holds) (reason : E) :
    require holds reason = .ok () := if_pos condition

theorem require_neg {holds : Prop} [Decidable holds] (condition : ¬ holds) (reason : E) :
    require holds reason = .error reason := if_neg condition

theorem require_ne_abort (holds : Prop) [Decidable holds] (reason : E) :
    require holds reason ≠ .abort := by
  unfold require
  split <;> simp

def index (items : List A) (position : Nat) : Outcome E A :=
  match items[position]? with
  | some item => .ok item
  | none => .abort

theorem index_eq_ok {items : List A} {position : Nat} {item : A} :
    index (E := E) items position = .ok item ↔ items[position]? = some item := by
  unfold index
  cases items[position]? <;> simp

def slice (items : List A) (start stop : Nat) : Outcome E (List A) :=
  if start ≤ stop ∧ stop ≤ items.length then .ok ((items.take stop).drop start) else .abort

theorem slice_of_le {items : List A} {start stop : Nat} (order : start ≤ stop)
    (bound : stop ≤ items.length) :
    slice (E := E) items start stop = .ok ((items.take stop).drop start) :=
  if_pos ⟨order, bound⟩

def array (size : Nat) (items : List A) : Outcome E (List.Vector A size) :=
  if same : items.length = size then .ok ⟨items, same⟩ else .abort

theorem array_of_length {size : Nat} {items : List A} (same : items.length = size) :
    array (E := E) size items = .ok ⟨items, same⟩ :=
  dif_pos same

def subtract (left right : Nat) : Outcome E Nat :=
  if right ≤ left then .ok (left - right) else .abort

theorem subtract_of_le {left right : Nat} (order : right ≤ left) :
    subtract (E := E) left right = .ok (left - right) :=
  if_pos order

end Outcome

section Exceptions

variable {E A B : Type}

theorem guarded_eq_ok {bad : Prop} [Decidable bad] {reason : E} {rest : Except E A} {result : A} :
    (if bad then .error reason else rest) = .ok result ↔ ¬ bad ∧ rest = .ok result := by
  split <;> simp_all

theorem except_bind_eq_ok {first : Except E A} {next : A → Except E B} {result : B} :
    (first >>= next) = .ok result ↔ ∃ value, first = .ok value ∧ next value = .ok result := by
  cases first with
  | ok value => simp [bind, Except.bind]
  | error reason => simp [bind, Except.bind]

theorem except_ok_bind (value : A) (next : A → Except E B) :
    ((.ok value : Except E A) >>= next) = next value := rfl

end Exceptions

section Checks

variable {A B E R : Type} {fault : A → Option R}

theorem findSome?_cons_eq_some {check : A} {checks : List A} {found : R} :
    (check :: checks).findSome? fault = some found ↔
      fault check = some found ∨ fault check = none ∧ checks.findSome? fault = some found := by
  cases first : fault check with
  | none => simp [first]
  | some reason => simp [first]

/-- A check may be made earlier where it passes or those it overtakes do. -/
theorem findSome?_moved {check : A} {overtaken rest : List A}
    (passes : fault check = none ∨ overtaken.findSome? fault = none) :
    (check :: (overtaken ++ rest)).findSome? fault = (overtaken ++ check :: rest).findSome? fault := by
  rw [List.findSome?_cons, List.findSome?_append, List.findSome?_append, List.findSome?_cons]
  rcases passes with passes | passes
  · rw [passes]
  · rw [passes, Option.none_or, Option.none_or]

/-- A computation fails with the report of a fault, and returns where there is none. -/
def Reports (report : R → E) (found : Option R) (result : Except E B) : Prop :=
  match found with
  | some found => result = .error (report found)
  | none => ∃ value, result = .ok value

variable {report : R → E} {check : A} {checks : List A}

theorem reports_map {C : Type} {wrap : C → R} {found : Option C} {result : Except E B}
    (reports : Reports (fun fault => report (wrap fault)) found result) :
    Reports report (found.map wrap) result := by
  cases found with
  | none => exact reports
  | some fault => exact reports

def Raises (report : R → E) (found : Option R) (result : Except E B) : Prop :=
  ∀ reason, found = some reason → result = .error (report reason)

theorem raises_nil {result : Except E B} : Raises report ([].findSome? fault) result :=
  fun _ found => nomatch found

theorem raises_guard {good bad : Prop} [Decidable good] [Decidable bad] {rest : Except E B}
    (found : R) (checked : fault check = if good then none else some found) (same : bad ↔ ¬ good)
    (raises : Raises report (checks.findSome? fault) rest) :
    Raises report ((check :: checks).findSome? fault)
      (if bad then .error (report found) else rest) := by
  intro reason first
  rw [List.findSome?_cons, checked] at first
  by_cases passed : good
  · rw [if_pos passed] at first
    rw [if_neg fun failed => same.mp failed passed]
    exact raises reason first
  · rw [if_neg passed] at first
    rw [if_pos (same.mpr passed), Option.some.inj first]

theorem raises_bind {C : Type} {first : Except E B} {next : B → Except E C}
    (head : Reports report (fault check) first)
    (raises : ∀ value, Raises report (checks.findSome? fault) (next value)) :
    Raises report ((check :: checks).findSome? fault) (first >>= next) := by
  intro reason failed
  rw [List.findSome?_cons] at failed
  cases found : fault check with
  | none =>
    rw [found] at head failed
    obtain ⟨value, rfl⟩ := head
    exact raises value reason failed
  | some other =>
    rw [found] at head failed
    rw [show first = .error (report other) from head, Option.some.inj failed]
    rfl

end Checks

end WsGateway.Foundation
