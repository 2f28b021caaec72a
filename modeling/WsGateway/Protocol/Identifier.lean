import WsGateway.Foundation.Padding
import WsGateway.Protocol.Header

/-! Room and user identifiers: short ASCII texts without NUL, padded with zeros.

`Identifier` is what a fixed-size address field is meant to hold. The field
checks of the header crate are compared with it from both sides: the decoder's
check accepts exactly the padded identifiers, the constructor's packing also
accepts texts that contain NUL.
-/

set_option autoImplicit false

namespace WsGateway.Protocol
open Foundation

@[ext] structure Identifier (size : Nat) where
  bytes : Bytes
  clean : ∀ b ∈ bytes, b ≠ 0 ∧ Ascii b
  fits : bytes.length ≤ size

namespace Identifier

variable {size : Nat}

def field (id : Identifier size) : List.Vector UInt8 size :=
  ⟨id.bytes.rightpad size 0, length_rightpad_of_le id.fits⟩

def text (id : Identifier size) : String := asciiText id.bytes

theorem ascii (id : Identifier size) : ∀ b ∈ id.bytes, Ascii b :=
  fun b member => (id.clean b member).2

theorem zero_notMem (id : Identifier size) : 0 ∉ id.bytes :=
  fun member => (id.clean 0 member).1 rfl

@[simp] theorem utf8_text (id : Identifier size) : utf8 id.text = id.bytes :=
  utf8_asciiText id.ascii

theorem textPart_field (id : Identifier size) : textPart 0 id.field.toList = id.bytes :=
  textPart_rightpad id.zero_notMem size

def codePoints (id : Identifier size) : List CodePoint := id.bytes.map byteCodePoint

def units (id : Identifier size) : List UInt16 := id.bytes.map UInt8.toUInt16

theorem codePoints_text (id : Identifier size) : Foundation.codePoints id.text = id.codePoints :=
  codePoints_asciiText id.bytes

theorem utf16_codePoints (id : Identifier size) : utf16 id.codePoints = id.units :=
  utf16_ascii id.bytes

theorem exists_units_iff {value : List UInt16} :
    (∃ id : Identifier size, value = id.units) ↔
      value.length ≤ size ∧ ∀ unit ∈ value, unit ≠ 0 ∧ unit.toNat < 0x80 := by
  constructor
  · rintro ⟨id, rfl⟩
    refine ⟨by simpa [units] using id.fits, ?_⟩
    intro unit member
    obtain ⟨b, inside, rfl⟩ := List.mem_map.mp member
    obtain ⟨nonzero, ascii⟩ := id.clean b inside
    refine ⟨fun zero => nonzero ?_, ?_⟩
    · have value := congrArg UInt16.toNat zero
      rw [UInt8.toNat_toUInt16] at value
      exact UInt8.toNat_inj.mp value
    · rw [UInt8.toNat_toUInt16]
      exact UInt8.lt_iff_toNat_lt.mp ascii
  · rintro ⟨fits, clean⟩
    -- The low byte of an ASCII unit is all of it.
    have narrow {unit : UInt16} (member : unit ∈ value) : unit.toUInt8.toNat = unit.toNat := by
      have small := (clean unit member).2
      rw [UInt16.toNat_toUInt8]
      omega
    refine ⟨⟨value.map UInt16.toUInt8, ?_, by simpa using fits⟩, ?_⟩
    · intro b member
      obtain ⟨unit, inside, rfl⟩ := List.mem_map.mp member
      obtain ⟨nonzero, small⟩ := clean unit inside
      refine ⟨fun zero => nonzero ?_, ?_⟩
      · apply UInt16.toNat_inj.mp
        rw [← narrow inside, zero]
        rfl
      · rw [Ascii, UInt8.lt_iff_toNat_lt, narrow inside]
        exact small
    · rw [units, List.map_map]
      refine (List.map_id' value).symm.trans (List.map_congr_left fun unit member => ?_)
      apply UInt16.toNat_inj.mp
      rw [Function.comp_apply, UInt8.toNat_toUInt16, narrow member]

theorem map_toUInt8_units (id : Identifier size) : id.units.map UInt16.toUInt8 = id.bytes := by
  rw [units, List.map_map]
  exact List.map_id'' (fun b => UInt8.toUInt8_toUInt16 b) _

end Identifier

/-- A field is a padded identifier when its text is ASCII and only zeros follow. -/
theorem exists_field_iff {size : Nat} (field : List.Vector UInt8 size) :
    (∃ id : Identifier size, id.field = field) ↔
      (∀ b ∈ textPart 0 field.toList, Ascii b) ∧
        ∀ b ∈ field.toList.drop (textPart 0 field.toList).length, b = 0 := by
  rw [drop_textPart_iff, field.toList_length]
  constructor
  · rintro ⟨id, rfl⟩
    rw [id.textPart_field]
    exact ⟨id.ascii, rfl⟩
  · rintro ⟨ascii, padded⟩
    have clean : ∀ b ∈ textPart 0 field.toList, b ≠ 0 ∧ Ascii b := by
      intro b member
      refine ⟨?_, ascii b member⟩
      rintro rfl
      exact pad_notMem_textPart 0 _ member
    have fits : (textPart 0 field.toList).length ≤ size := by
      have := textPart_length_le 0 field.toList
      rwa [field.toList_length] at this
    exact ⟨⟨textPart 0 field.toList, clean, fits⟩, List.Vector.toList_injective padded⟩

theorem firstZero_eq (field : Bytes) : firstZero field = (textPart 0 field).length :=
  findIdx?_pad 0 field

theorem take_firstZero (field : Bytes) : field.take (firstZero field) = textPart 0 field := by
  rw [firstZero_eq, take_textPart]

theorem isValidAsciiField_iff {size : Nat} (field : List.Vector UInt8 size) :
    isValidAsciiField field.toList = true ↔ ∃ id : Identifier size, id.field = field := by
  rw [exists_field_iff, isValidAsciiField, take_firstZero, firstZero_eq]
  simp only [Bool.and_eq_true, List.all_eq_true, decide_eq_true_eq, bne_iff_ne, beq_iff_eq]
  constructor
  · rintro ⟨clean, padding⟩
    exact ⟨fun b member => (clean b member).1, padding⟩
  · rintro ⟨ascii, padding⟩
    refine ⟨fun b member => ⟨ascii b member, ?_⟩, padding⟩
    rintro rfl
    exact pad_notMem_textPart 0 _ member

/-- The UTF-8 fallback of the field view is never taken on an identifier. -/
theorem asciiFieldStr_field {size : Nat} (id : Identifier size) :
    asciiFieldStr id.field.toList = id.text := by
  rw [asciiFieldStr, take_firstZero, id.textPart_field, fromUtf8_ascii id.ascii]
  rfl

theorem isAscii_iff (s : String) : isAscii s = true ↔ ∀ b ∈ utf8 s, Ascii b := by
  simp only [isAscii, List.all_eq_true, decide_eq_true_eq]

theorem packAsciiField_eq_some {size : Nat} {s : String} {field : List.Vector UInt8 size} :
    packAsciiField size s = some field ↔
      (∀ b ∈ utf8 s, Ascii b) ∧ (utf8 s).length ≤ size ∧ (utf8 s).rightpad size 0 = field.toList := by
  have content : overwrite (List.replicate size 0) 0 (utf8 s) = (utf8 s).rightpad size 0 := by
    simpa using overwrite_fresh [] (utf8 s) 0 size
  unfold packAsciiField
  split
  next rejected =>
    constructor
    · intro packed; cases packed
    · rintro ⟨ascii, fits, _⟩
      rcases rejected with other | long
      · rw [(isAscii_iff s).mpr ascii] at other
        cases other
      · omega
  next admitted =>
    rw [not_or, Bool.not_eq_false, isAscii_iff, Nat.not_lt] at admitted
    constructor
    · intro packed
      cases packed
      exact ⟨admitted.1, admitted.2, content.symm⟩
    · rintro ⟨_, _, same⟩
      exact congrArg some (List.Vector.toList_injective (content.trans same))

theorem packAsciiField_isSome {size : Nat} {s : String} :
    (∃ field : List.Vector UInt8 size, packAsciiField size s = some field) ↔
      isAscii s = true ∧ (utf8 s).length ≤ size := by
  simp only [packAsciiField_eq_some, isAscii_iff]
  constructor
  · rintro ⟨_, ascii, fits, _⟩
    exact ⟨ascii, fits⟩
  · rintro ⟨ascii, fits⟩
    exact ⟨⟨(utf8 s).rightpad size 0, length_rightpad_of_le fits⟩, ascii, fits, rfl⟩

theorem packAsciiField_text {size : Nat} (id : Identifier size) :
    packAsciiField size id.text = some id.field := by
  rw [packAsciiField_eq_some, id.utf8_text]
  exact ⟨id.ascii, id.fits, rfl⟩

/-- Viewing a packed text gives it back exactly when it contains no NUL. -/
theorem asciiFieldStr_packed {size : Nat} {s : String} {field : List.Vector UInt8 size}
    (packed : packAsciiField size s = some field) :
    asciiFieldStr field.toList = s ↔ 0 ∉ utf8 s := by
  obtain ⟨ascii, _, content⟩ := packAsciiField_eq_some.mp packed
  have part : ∀ b ∈ textPart 0 field.toList, Ascii b := by
    intro b member
    have inside := (List.takeWhile_prefix _).subset member
    rw [← content, List.rightpad, List.mem_append] at inside
    rcases inside with inside | inside
    · exact ascii b inside
    · rw [List.eq_of_mem_replicate inside]
      decide
  -- The view is ASCII in any case; what it may lose is the text behind a NUL.
  have shown : asciiFieldStr field.toList = asciiText (textPart 0 field.toList) := by
    rw [asciiFieldStr, take_firstZero, fromUtf8_ascii part]
    rfl
  constructor
  · intro same
    rw [← same, shown, utf8_asciiText part]
    exact pad_notMem_textPart 0 _
  · intro absent
    rw [shown, ← content, textPart_rightpad absent]
    exact (eq_asciiText ascii).symm

theorem packAsciiField_identifier {size : Nat} {s : String} {field : List.Vector UInt8 size}
    (packed : packAsciiField size s = some field) (absent : 0 ∉ utf8 s) :
    ∃ id : Identifier size, id.field = field ∧ id.text = s := by
  obtain ⟨ascii, fits, content⟩ := packAsciiField_eq_some.mp packed
  have clean : ∀ b ∈ utf8 s, b ≠ 0 ∧ Ascii b := by
    intro b member
    refine ⟨?_, ascii b member⟩
    rintro rfl
    exact absent member
  exact ⟨⟨utf8 s, clean, fits⟩, List.Vector.toList_injective content, (eq_asciiText ascii).symm⟩

end WsGateway.Protocol
