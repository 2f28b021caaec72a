import Mathlib.Data.List.Induction
import Mathlib.Tactic.Ring

/-! Byte strings, positional numbers and buffers filled from left to right. -/

set_option autoImplicit false

namespace WsGateway.Foundation

abbrev Bytes := List UInt8

section BigEndian

/-- The `size` low-order bytes of a number, most significant first. -/
def bigEndian : Nat → Nat → Bytes
  | 0, _ => []
  | size + 1, value => bigEndian size (value / 256) ++ [UInt8.ofNat value]

def ofBigEndian (bytes : Bytes) : Nat :=
  bytes.foldl (fun value byte => value * 256 + byte.toNat) 0

@[simp] theorem length_bigEndian (size value : Nat) : (bigEndian size value).length = size := by
  induction size generalizing value with
  | zero => rfl
  | succ size ih => simp [bigEndian, ih]

theorem ofBigEndian_concat (bytes : Bytes) (byte : UInt8) :
    ofBigEndian (bytes ++ [byte]) = ofBigEndian bytes * 256 + byte.toNat := by
  simp [ofBigEndian]

theorem ofBigEndian_bigEndian (size value : Nat) (bound : value < 256 ^ size) :
    ofBigEndian (bigEndian size value) = value := by
  induction size generalizing value with
  | zero =>
    have : value = 0 := by simpa using bound
    subst value
    rfl
  | succ size ih =>
    have high : value / 256 < 256 ^ size :=
      Nat.div_lt_of_lt_mul (by rw [pow_succ, mul_comm] at bound; exact bound)
    rw [bigEndian, ofBigEndian_concat, ih _ high, UInt8.toNat_ofNat']
    omega

theorem ofBigEndian_lt (bytes : Bytes) : ofBigEndian bytes < 256 ^ bytes.length := by
  induction bytes using List.reverseRecOn with
  | nil => simp [ofBigEndian]
  | append_singleton bytes byte ih =>
    have low := byte.toNat_lt
    rw [ofBigEndian_concat, List.length_append, List.length_singleton, pow_succ]
    omega

theorem bigEndian_ofBigEndian (bytes : Bytes) :
    bigEndian bytes.length (ofBigEndian bytes) = bytes := by
  induction bytes using List.reverseRecOn with
  | nil => rfl
  | append_singleton bytes byte ih =>
    -- The last byte is the remainder, and the bytes before it are the quotient.
    have low := byte.toNat_lt
    have high : (ofBigEndian bytes * 256 + byte.toNat) / 256 = ofBigEndian bytes := by omega
    rw [List.length_append, List.length_singleton, bigEndian, ofBigEndian_concat, high, ih]
    congr 2
    apply UInt8.toNat_inj.mp
    rw [UInt8.toNat_ofNat']
    omega

theorem exists_uint32 {value : Int} (low : 0 ≤ value) (high : value ≤ 0xFFFFFFFF) :
    ∃ word : UInt32, value = word.toNat := by
  refine ⟨UInt32.ofNat value.toNat, ?_⟩
  rw [UInt32.toNat_ofNat']
  omega

end BigEndian

section Buffers

variable {A : Type}

/-- Copy a slice over the range of the same length that starts at `start`. -/
def overwrite (buffer : List A) (start : Nat) (items : List A) : List A :=
  buffer.take start ++ items ++ buffer.drop (start + items.length)

theorem length_overwrite {buffer items : List A} {start : Nat}
    (fits : start + items.length ≤ buffer.length) :
    (overwrite buffer start items).length = buffer.length := by
  simp only [overwrite, List.length_append, List.length_take, List.length_drop]
  omega

theorem overwrite_fresh (filled items : List A) (blank : A) (fresh : Nat) :
    overwrite (filled ++ List.replicate fresh blank) filled.length items =
      filled ++ items ++ List.replicate (fresh - items.length) blank := by
  have rest : filled.length + items.length - filled.length = items.length := by omega
  simp [overwrite, List.drop_append, rest]

theorem range_middle (before middle after : List A) (start stop : Nat)
    (first : before.length = start) (last : start + middle.length = stop) :
    ((before ++ middle ++ after).take stop).drop start = middle := by
  subst first last
  simp [List.take_append]

end Buffers

end WsGateway.Foundation
