import Mathlib.Data.List.TakeWhile

/-! Fixed-size fields that hold a shorter text followed by padding.

A reader locates the first padding element, checks the part before it and
checks that everything behind it is padding. The laws below relate that search
to `List.rightpad`, the writer's side.
-/

set_option autoImplicit false

namespace WsGateway.Foundation

variable {A : Type} [DecidableEq A]

/-- The part of a field before its first padding element. -/
def textPart (pad : A) (field : List A) : List A :=
  field.takeWhile (fun item => item != pad)

theorem textPart_length_le (pad : A) (field : List A) :
    (textPart pad field).length ≤ field.length :=
  (List.takeWhile_prefix _).length_le

theorem pad_notMem_textPart (pad : A) (field : List A) : pad ∉ textPart pad field := by
  intro member
  have := List.mem_takeWhile_imp member
  simp at this

theorem findIdx_pad (pad : A) (field : List A) :
    field.findIdx (fun item => item == pad) = (textPart pad field).length := by
  induction field with
  | nil => rfl
  | cons head tail ih =>
    by_cases same : head = pad
    · simp [textPart, same, List.findIdx_cons]
    · simp only [textPart] at ih
      have other : (head == pad) = false := by simp [same]
      simp [textPart, same, List.findIdx_cons, ih, other]

theorem findIdx?_pad (pad : A) (field : List A) :
    (field.findIdx? (fun item => item == pad)).getD field.length = (textPart pad field).length := by
  rw [← findIdx_pad, List.findIdx_eq_getD_findIdx?]

theorem take_textPart (pad : A) (field : List A) :
    field.take (textPart pad field).length = textPart pad field :=
  (List.prefix_iff_eq_take.mp (List.takeWhile_prefix _)).symm

theorem take_findIdx? (pad : A) (field : List A) :
    (field.findIdx? fun item => item == pad).elim field field.take = textPart pad field := by
  have stop := findIdx?_pad pad field
  cases found : field.findIdx? fun item => item == pad with
  | none =>
    -- Without padding the text is the whole field.
    rw [found, Option.getD_none] at stop
    have whole := take_textPart pad field
    rwa [← stop, List.take_length] at whole
  | some position =>
    rw [found, Option.getD_some] at stop
    rw [Option.elim_some, stop, take_textPart]

theorem drop_findIdx? (pad : A) (field : List A) :
    (field.findIdx? fun item => item == pad).elim [] field.drop =
      field.drop (textPart pad field).length := by
  have stop := findIdx?_pad pad field
  cases found : field.findIdx? fun item => item == pad with
  | none =>
    rw [found, Option.getD_none] at stop
    rw [Option.elim_none, ← stop, List.drop_length]
  | some position =>
    rw [found, Option.getD_some] at stop
    rw [Option.elim_some, stop]

theorem findIdx?_textPart (bad : A → Bool) (pad : A) (field : List A) :
    (textPart pad field).findIdx? (fun item => bad item || item == pad) =
      (textPart pad field).findIdx? bad := by
  have same : ∀ item ∈ textPart pad field, (bad item || item == pad) = bad item := by
    intro item member
    have other : (item == pad) = false := beq_eq_false_iff_ne.mpr fun equal =>
      pad_notMem_textPart pad field (equal ▸ member)
    rw [other, Bool.or_false]
  have position : (textPart pad field).findIdx (fun item => bad item || item == pad) =
      (textPart pad field).findIdx bad :=
    Nat.le_antisymm (List.findIdx_le_findIdx fun item member holds => (same item member).trans holds)
      (List.findIdx_le_findIdx fun item member holds => (same item member).symm.trans holds)
  rw [List.findIdx?_eq_guard_findIdx_lt, List.findIdx?_eq_guard_findIdx_lt, position]

theorem findIdx?_textPart_eq_some {bad : A → Bool} {pad : A} {field : List A} {index : Nat}
    (found : (textPart pad field).findIdx? bad = some index) :
    (textPart pad field).findIdx bad = index ∧ bad (field.getD index pad) = true := by
  obtain ⟨inside, same⟩ := List.findIdx?_eq_some_iff_findIdx_eq.mp found
  refine ⟨same, ?_⟩
  have position : field[index]? = (textPart pad field)[index]? := by
    rw [← take_textPart pad field] at inside ⊢
    rw [List.length_take] at inside
    exact (List.getElem?_take_of_lt (by omega)).symm
  rw [List.getD_eq_getElem?_getD, position, List.getElem?_eq_getElem inside, Option.getD_some]
  subst same
  exact List.findIdx_getElem

theorem textPart_append_drop (pad : A) (field : List A) :
    textPart pad field ++ field.drop (textPart pad field).length = field := by
  have front := take_textPart pad field
  calc textPart pad field ++ field.drop (textPart pad field).length
      = field.take (textPart pad field).length ++ field.drop (textPart pad field).length := by
        rw [front]
    _ = field := List.take_append_drop _ _

/-- Only padding follows the text exactly when the field is its text, padded. -/
theorem drop_textPart_iff (pad : A) (field : List A) :
    (∀ item ∈ field.drop (textPart pad field).length, item = pad) ↔
      (textPart pad field).rightpad field.length pad = field := by
  have size : (field.drop (textPart pad field).length).length =
      field.length - (textPart pad field).length := List.length_drop
  constructor
  · intro only
    have rest := List.eq_replicate_of_mem only
    rw [size] at rest
    rw [List.rightpad, ← rest]
    exact textPart_append_drop pad field
  · intro padded item member
    have rest : field.drop (textPart pad field).length =
        List.replicate (field.length - (textPart pad field).length) pad := by
      have parts := (textPart_append_drop pad field).trans padded.symm
      exact List.append_cancel_left parts
    rw [rest] at member
    exact List.eq_of_mem_replicate member

theorem textPart_rightpad {pad : A} {text : List A} (clean : pad ∉ text) (size : Nat) :
    textPart pad (text.rightpad size pad) = text := by
  have keep : ∀ item ∈ text, (item != pad) = true := by
    intro item member
    simp only [bne_iff_ne, ne_eq]
    rintro rfl
    exact clean member
  rw [textPart, List.rightpad, List.takeWhile_append_of_pos keep]
  cases size - text.length with
  | zero => simp
  | succ rest => simp [List.replicate_succ]

omit [DecidableEq A] in
theorem length_rightpad_of_le {pad : A} {text : List A} {size : Nat} (fits : text.length ≤ size) :
    (text.rightpad size pad).length = size := by
  simp [List.rightpad, fits]

end WsGateway.Foundation
