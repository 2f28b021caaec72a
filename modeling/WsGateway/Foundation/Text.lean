import WsGateway.Foundation.Bytes

/-! Three views of a text: UTF-8 bytes, Unicode code points, UTF-16 units.

A `String` is a sequence of scalar values stored as UTF-8. A sequence of code
points may also hold surrogates, and every sequence of UTF-16 units is the
image of one. On ASCII the three views agree element by element.
-/

set_option autoImplicit false

namespace WsGateway.Foundation

def utf8 (text : String) : Bytes := text.toUTF8.data.toList

def fromUtf8 (bytes : Bytes) : Option String := String.fromUTF8? ⟨bytes.toArray⟩

theorem fromUtf8_eq_some {bytes : Bytes} {text : String} :
    fromUtf8 bytes = some text ↔ utf8 text = bytes := by
  unfold fromUtf8 String.fromUTF8?
  constructor
  · intro found
    split at found
    · cases found
      rfl
    · cases found
  · rintro rfl
    have whole : (⟨(utf8 text).toArray⟩ : ByteArray) = text.toByteArray := rfl
    have valid : ByteArray.IsValidUTF8 ⟨(utf8 text).toArray⟩ := text.isValidUTF8
    rw [dif_pos valid]
    exact congrArg some (String.toByteArray_inj.mp whole)

@[simp] theorem fromUtf8_utf8 (text : String) : fromUtf8 (utf8 text) = some text :=
  fromUtf8_eq_some.mpr rfl

theorem utf8_injective {first second : String} (same : utf8 first = utf8 second) :
    first = second := by
  have found := fromUtf8_utf8 first
  rw [same, fromUtf8_utf8] at found
  exact (Option.some.inj found).symm

abbrev Ascii (byte : UInt8) : Prop := byte < 128

theorem lt_iff_not_ascii {byte : UInt8} : 0x7F < byte ↔ ¬ Ascii byte := by
  rw [Ascii, UInt8.lt_iff_toNat_lt, UInt8.lt_iff_toNat_lt]
  change 127 < byte.toNat ↔ ¬ byte.toNat < 128
  omega

section AsciiText

def asciiText (bytes : Bytes) : String := String.ofList (bytes.map Char.ofUInt8)

theorem utf8EncodeChar_ascii {byte : UInt8} (ascii : Ascii byte) :
    String.utf8EncodeChar (Char.ofUInt8 byte) = [byte] := by
  have bound : byte.toNat < 128 := UInt8.lt_iff_toNat_lt.mp ascii
  have single : (Char.ofUInt8 byte).utf8Size = 1 := by
    have small : (Char.ofUInt8 byte).val ≤ 0x7F := by
      rw [UInt32.le_iff_toNat_le]
      change byte.toUInt32.toNat ≤ 127
      rw [UInt8.toNat_toUInt32]
      omega
    simp [Char.utf8Size, small]
  rw [String.utf8EncodeChar_eq_singleton single]
  change [byte.toUInt32.toUInt8] = [byte]
  rw [UInt8.toUInt8_toUInt32]

theorem utf8_asciiText {bytes : Bytes} (ascii : ∀ byte ∈ bytes, Ascii byte) :
    utf8 (asciiText bytes) = bytes := by
  have whole : utf8 (asciiText bytes) =
      (bytes.map Char.ofUInt8).flatMap String.utf8EncodeChar := by
    simp only [utf8, asciiText, String.toUTF8_eq_toByteArray, String.toByteArray_ofList,
      List.utf8Encode, List.toList_data_toByteArray]
  rw [whole]
  clear whole
  induction bytes with
  | nil => rfl
  | cons byte rest ih =>
    simp only [List.map_cons, List.flatMap_cons, utf8EncodeChar_ascii (ascii byte (by simp)),
      ih fun other member => ascii other (by simp [member]), List.singleton_append]

theorem eq_asciiText {text : String} (ascii : ∀ byte ∈ utf8 text, Ascii byte) :
    text = asciiText (utf8 text) :=
  utf8_injective (utf8_asciiText ascii).symm

theorem fromUtf8_ascii {bytes : Bytes} (ascii : ∀ byte ∈ bytes, Ascii byte) :
    fromUtf8 bytes = some (asciiText bytes) :=
  fromUtf8_eq_some.mpr (utf8_asciiText ascii)

end AsciiText

section CodePoints

abbrev CodePoint := Fin 0x110000

def codePoints (text : String) : List CodePoint :=
  text.toList.map fun scalar => Fin.ofNat _ scalar.toNat

def byteCodePoint (byte : UInt8) : CodePoint := Fin.ofNat _ byte.toNat

/-- One unit in the basic plane, a surrogate pair above it. -/
def utf16Units (point : CodePoint) : List UInt16 :=
  if point.val < 0x10000 then [UInt16.ofNat point.val]
  else
    [UInt16.ofNat (0xD800 + (point.val - 0x10000) / 0x400),
      UInt16.ofNat (0xDC00 + (point.val - 0x10000) % 0x400)]

def utf16 (points : List CodePoint) : List UInt16 := points.flatMap utf16Units

@[simp] theorem val_byteCodePoint (byte : UInt8) : (byteCodePoint byte).val = byte.toNat := by
  have bound := byte.toNat_lt
  simp only [byteCodePoint, Fin.ofNat]
  omega

theorem map_ofNat_byteCodePoint (bytes : Bytes) :
    (bytes.map byteCodePoint).map (fun point => UInt8.ofNat point.val) = bytes := by
  rw [List.map_map]
  apply List.map_id''
  intro byte
  simp only [Function.comp_apply, val_byteCodePoint, UInt8.ofNat_toNat]

theorem codePoints_injective {first second : String} (same : codePoints first = codePoints second) :
    first = second := by
  have injective : Function.Injective fun scalar : Char => (Fin.ofNat _ scalar.toNat : CodePoint) := by
    intro left right values
    have bounds (scalar : Char) : scalar.toNat < 0x110000 := by
      have := scalar.valid
      change scalar.val.toNat < 0x110000
      rcases this with low | high <;> omega
    have := congrArg Fin.val values
    simp only [Fin.ofNat, Nat.mod_eq_of_lt (bounds left), Nat.mod_eq_of_lt (bounds right)] at this
    exact Char.toNat_inj.mp this
  exact String.toList_inj.mp ((List.map_inj_right fun _ _ values => injective values).mp same)

theorem codePoints_asciiText (bytes : Bytes) :
    codePoints (asciiText bytes) = bytes.map byteCodePoint := by
  simp only [codePoints, asciiText, String.toList_ofList, List.map_map]
  apply List.map_congr_left
  intro byte _
  change Fin.ofNat _ byte.toUInt32.toNat = _
  rw [UInt8.toNat_toUInt32]
  rfl

theorem utf16_cons (point : CodePoint) (rest : List CodePoint) :
    utf16 (point :: rest) = utf16Units point ++ utf16 rest := rfl

theorem utf16Units_small {point : CodePoint}
    (small : ∀ unit ∈ utf16Units point, unit.toNat < 0x80) : point.val < 0x80 := by
  have bound := point.isLt
  unfold utf16Units at small
  split at small
  next basic =>
    have first := small _ (List.mem_singleton_self _)
    rw [UInt16.toNat_ofNat'] at first
    omega
  next =>
    -- The first unit of a pair is a surrogate, which is not small.
    have first := small _ List.mem_cons_self
    rw [UInt16.toNat_ofNat'] at first
    omega

theorem utf16_small {points : List CodePoint} :
    (∀ unit ∈ utf16 points, unit.toNat < 0x80) ↔ ∀ point ∈ points, point.val < 0x80 := by
  constructor
  · intro small point member
    exact utf16Units_small fun unit inside => small unit (List.mem_flatMap.mpr ⟨point, member, inside⟩)
  · intro small unit member
    obtain ⟨point, inside, member⟩ := List.mem_flatMap.mp member
    have bound := small point inside
    rw [utf16Units, if_pos (by omega), List.mem_singleton] at member
    subst member
    rw [UInt16.toNat_ofNat']
    omega

theorem utf16_ascii (bytes : Bytes) :
    utf16 (bytes.map byteCodePoint) = bytes.map UInt8.toUInt16 := by
  induction bytes with
  | nil => rfl
  | cons byte rest ih =>
    have bound := byte.toNat_lt
    have basic : (byteCodePoint byte).val < 0x10000 := by rw [val_byteCodePoint]; omega
    have unit : UInt16.ofNat byte.toNat = byte.toUInt16 := by
      apply UInt16.toNat_inj.mp
      rw [UInt16.toNat_ofNat', UInt8.toNat_toUInt16]
      omega
    rw [List.map_cons, utf16_cons, ih, utf16Units, if_pos basic, val_byteCodePoint, unit]
    rfl

theorem exists_bytes_of_small {points : List CodePoint} (small : ∀ point ∈ points, point.val < 0x80) :
    ∃ bytes : Bytes, (∀ byte ∈ bytes, Ascii byte) ∧ points = bytes.map byteCodePoint := by
  induction points with
  | nil => exact ⟨[], by simp, rfl⟩
  | cons point rest ih =>
    obtain ⟨bytes, ascii, same⟩ := ih fun other member => small other (by simp [member])
    have bound := small point (by simp)
    have value : (UInt8.ofNat point.val).toNat = point.val := by
      rw [UInt8.toNat_ofNat']
      omega
    refine ⟨UInt8.ofNat point.val :: bytes, ?_, ?_⟩
    · intro byte member
      rcases List.mem_cons.mp member with rfl | member
      · rw [Ascii, UInt8.lt_iff_toNat_lt, value]
        exact bound
      · exact ascii byte member
    · rw [List.map_cons, ← same]
      congr 1
      apply Fin.ext
      rw [val_byteCodePoint, value]

end CodePoints

end WsGateway.Foundation
