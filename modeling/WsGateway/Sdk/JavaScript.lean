import WsGateway.Protocol.WireFormat

/-! The JavaScript client codec.

Strings are sequences of UTF-16 units and the numbers are integral. A typed
array is a window on a buffer; `DataView` throws a `RangeError` outside of its
window and a typed-array slice clamps. Every `throw` is one constructor that
carries the values its message interpolates.
-/

set_option autoImplicit false

namespace WsGateway.Sdk.JavaScript
open Foundation Protocol

def validPacketTypes : List Int := [0x01, 0x02, 0x03, 0x04]
def validTargetTypes : List Int := [0x01, 0x02]

section Encoding

inductive EncodeError where
  | unsupportedVersion (version : Int)
  | unknownPacketType (pktType : Int)
  | unknownTargetType (tgtType : Int)
  | sequenceOutOfRange (seq : Int)
  | payloadTooLarge (length : Nat)
  | fieldTooLong (fieldName : String) (length maxLen : Nat)
  | fieldNotAscii (fieldName : String) (index : Nat) (value : List UInt16)
  | firstByte (actual : UInt8)
  /-- `RangeError` of a write outside of a buffer. -/
  | rangeError
  deriving DecidableEq, Repr

def packAsciiField (value : List UInt16) (maxLen : Nat) (fieldName : String) :
    Except EncodeError Bytes :=
  if maxLen < value.length then .error (.fieldTooLong fieldName value.length maxLen)
  else match value.findIdx? fun code => code == 0 || decide (0x7F < code) with
    | some index => .error (.fieldNotAscii fieldName index value)
    | none => .ok (overwrite (List.replicate maxLen 0) 0 (value.map UInt16.toUInt8))

/-- A write of a `DataView` or of `TypedArray.set`. -/
def store (buffer : Bytes) (offset : Nat) (bytes : Bytes) : Except EncodeError Bytes :=
  if offset + bytes.length ≤ buffer.length then .ok (overwrite buffer offset bytes)
  else .error .rangeError

/-- The `size` big-endian bytes of a number, reduced to the width of the write. -/
def unsignedBytes (size : Nat) (value : Int) : Bytes :=
  bigEndian size (value % 256 ^ size).toNat

def encode (version pktType tgtType : Int) (roomId userId : List UInt16) (seq : Int)
    (payload : Bytes) : Except EncodeError Bytes :=
  if version ≠ protocolVersion.toNat then .error (.unsupportedVersion version)
  else if pktType ∉ validPacketTypes then .error (.unknownPacketType pktType)
  else if tgtType ∉ validTargetTypes then .error (.unknownTargetType tgtType)
  else if seq < 0 ∨ 0xFFFFFFFF < seq then .error (.sequenceOutOfRange seq)
  else if 0xFFFF < payload.length then .error (.payloadTooLarge payload.length)
  else do
    let roomField ← packAsciiField roomId roomIdLen "roomId"
    let userField ← packAsciiField userId userIdLen "userId"
    let out := List.replicate (headerLen + payload.length) (0 : UInt8)
    let out ← store out 0 (unsignedBytes 1 version)
    let out ← store out 1 (unsignedBytes 1 pktType)
    let out ← store out 2 (unsignedBytes 1 tgtType)
    let out ← store out 3 (unsignedBytes 1 0)
    let out ← store out 4 roomField
    let out ← store out 10 userField
    let out ← store out 18 (unsignedBytes 4 seq)
    let out ← store out 22 (unsignedBytes 2 payload.length)
    let out ← store out headerLen payload
    -- A defensive check of the source on its own output.
    if out.getD 0 0 ≠ protocolVersion then .error (.firstByte (out.getD 0 0))
    else .ok out

end Encoding

section Decoding

inductive DecodeError where
  | notBytes
  | tooShort (length : Nat)
  | unsupportedVersion (version : Int)
  | unknownPacketType (pktType : Int)
  | unknownTargetType (tgtType : Int)
  | nonZeroReserved (reserved : Int)
  | nonAscii (fieldName : String) (byte : UInt8) (index : Nat)
  | embeddedNull (fieldName : String) (index : Nat)
  | nonZeroPadding (fieldName : String) (byte : UInt8) (index : Nat)
  | lengthMismatch (declared actual : Nat)
  /-- `RangeError` of a read outside of a view. -/
  | rangeError
  deriving DecidableEq, Repr

/-- A window on a buffer: `Uint8Array`, and the `DataView` over the same window. -/
structure Uint8Array where
  buffer : Bytes
  byteOffset : Nat
  byteLength : Nat
  within : byteOffset + byteLength ≤ buffer.length

def Uint8Array.contents (view : Uint8Array) : Bytes :=
  (view.buffer.drop view.byteOffset).take view.byteLength

/-- The argument of `decode`, by the test that recognises it. -/
inductive RawBytes where
  | uint8Array (view : Uint8Array)
  | arrayBuffer (buffer : Bytes)
  | bufferLike (view : Uint8Array)
  | other

def RawBytes.toUint8Array : RawBytes → Except DecodeError Uint8Array
  | .uint8Array view => .ok view
  | .arrayBuffer buffer => .ok ⟨buffer, 0, buffer.length, by omega⟩
  -- Any other view of a buffer is read as bytes, whatever its element type.
  | .bufferLike view => .ok ⟨view.buffer, view.byteOffset, view.byteLength, view.within⟩
  | .other => .error .notBytes

def Uint8Array.getUnsigned (view : Uint8Array) (size offset : Nat) : Except DecodeError Nat :=
  if offset + size ≤ view.byteLength then
    .ok (ofBigEndian ((view.buffer.drop (view.byteOffset + offset)).take size))
  else .error .rangeError

/-- `slice` of a typed array: both ends are clamped. -/
def Uint8Array.slice (view : Uint8Array) (start stop : Nat) : Bytes :=
  (view.contents.take stop).drop start

def unpackAsciiField (field : Bytes) (fieldName : String) : Except DecodeError (List UInt16) :=
  let dataEnd := (field.findIdx? fun b => b == 0).getD field.length
  match (field.take dataEnd).findIdx? fun b => decide (0x7F < b) || b == 0 with
  | some index =>
    if 0x7F < field.getD index 0 then .error (.nonAscii fieldName (field.getD index 0) index)
    else .error (.embeddedNull fieldName index)
  | none =>
    match (field.drop dataEnd).findIdx? fun b => b != 0 with
    | some index =>
      .error (.nonZeroPadding fieldName (field.getD (dataEnd + index) 0) (dataEnd + index))
    | none => .ok ((field.take dataEnd).map UInt8.toUInt16)

@[ext] structure Decoded where
  version : Int
  pktType : Int
  tgtType : Int
  roomId : List UInt16
  userId : List UInt16
  seq : Int
  payload : Bytes
  deriving DecidableEq

def decode (rawBytes : RawBytes) : Except DecodeError Decoded := do
  let buf ← rawBytes.toUint8Array
  if buf.byteLength < headerLen then .error (.tooShort buf.byteLength)
  else do
    let version ← buf.getUnsigned 1 0
    let pktType ← buf.getUnsigned 1 1
    let tgtType ← buf.getUnsigned 1 2
    let reserved ← buf.getUnsigned 1 3
    if (version : Int) ≠ protocolVersion.toNat then .error (.unsupportedVersion version)
    else if (pktType : Int) ∉ validPacketTypes then .error (.unknownPacketType pktType)
    else if (tgtType : Int) ∉ validTargetTypes then .error (.unknownTargetType tgtType)
    else if (reserved : Int) ≠ 0 then .error (.nonZeroReserved reserved)
    else do
      let roomId ← unpackAsciiField (buf.slice 4 10) "roomId"
      let userId ← unpackAsciiField (buf.slice 10 18) "userId"
      let seq ← buf.getUnsigned 4 18
      let declaredLen ← buf.getUnsigned 2 22
      let payload := buf.slice headerLen buf.byteLength
      if payload.length ≠ declaredLen then .error (.lengthMismatch declaredLen payload.length)
      else .ok ⟨version, pktType, tgtType, roomId, userId, seq, payload⟩

end Decoding

section DecodingLaws

theorem Uint8Array.length_contents (view : Uint8Array) :
    view.contents.length = view.byteLength := by
  have within := view.within
  simp only [contents, List.length_take, List.length_drop]
  omega

theorem Uint8Array.getUnsigned_of_le {view : Uint8Array} {size offset : Nat}
    (bound : offset + size ≤ view.byteLength) :
    view.getUnsigned size offset =
      .ok (ofBigEndian ((view.contents.take (offset + size)).drop offset)) := by
  rw [getUnsigned, if_pos bound, contents, List.take_take, Nat.min_eq_left bound, List.drop_take,
    List.drop_drop, Nat.add_sub_cancel_left]

theorem ofBigEndian_singleton (b : UInt8) : ofBigEndian [b] = b.toNat := by
  simp [ofBigEndian]

def RawBytes.contents : RawBytes → Option Bytes
  | .uint8Array view => some view.contents
  | .arrayBuffer buffer => some buffer
  | .bufferLike view => some view.contents
  | .other => none

theorem RawBytes.toUint8Array_of_contents {rawBytes : RawBytes} {bytes : Bytes}
    (same : rawBytes.contents = some bytes) :
    ∃ view, rawBytes.toUint8Array = .ok view ∧ view.contents = bytes := by
  cases rawBytes with
  | uint8Array view => exact ⟨view, rfl, Option.some.inj same⟩
  | arrayBuffer buffer =>
    refine ⟨_, rfl, ?_⟩
    rw [← Option.some.inj same]
    simp [Uint8Array.contents]
  | bufferLike view => exact ⟨view, rfl, Option.some.inj same⟩
  | other => cases same

theorem unpackAsciiField_eq_ok {size : Nat} {field : List.Vector UInt8 size} {fieldName : String}
    {text : List UInt16} :
    unpackAsciiField field.toList fieldName = .ok text ↔
      ∃ id : Identifier size, id.field = field ∧ text = id.units := by
  have data : (textPart 0 field.toList).findIdx? (fun b => decide (0x7F < b) || b == 0) = none ↔
      ∀ b ∈ textPart 0 field.toList, Ascii b := by
    simp only [List.findIdx?_eq_none_iff, Bool.or_eq_false_iff, decide_eq_false_iff_not,
      beq_eq_false_iff_ne, lt_iff_not_ascii, not_not]
    refine forall₂_congr fun b member => and_iff_left ?_
    rintro rfl
    exact pad_notMem_textPart 0 _ member
  have padding : (field.toList.drop (textPart 0 field.toList).length).findIdx? (fun b => b != 0) =
      none ↔ ∀ b ∈ field.toList.drop (textPart 0 field.toList).length, b = 0 := by
    simp only [List.findIdx?_eq_none_iff, bne_eq_false_iff_eq]
  simp only [unpackAsciiField, findIdx?_pad, take_textPart]
  constructor
  · intro unpacked
    split at unpacked
    next => split at unpacked <;> cases unpacked
    next dataNone =>
      split at unpacked
      next => cases unpacked
      next paddingNone =>
        obtain ⟨id, rfl⟩ := (exists_field_iff field).mpr ⟨data.mp dataNone, padding.mp paddingNone⟩
        rw [id.textPart_field] at unpacked
        exact ⟨id, rfl, (Except.ok.inj unpacked).symm⟩
  · rintro ⟨id, rfl, rfl⟩
    obtain ⟨ascii, zeros⟩ := (exists_field_iff id.field).mp ⟨id, rfl⟩
    rw [data.mpr ascii, padding.mpr zeros, id.textPart_field]
    rfl

def Decoded.ofPacket (packet : Packet) : Decoded where
  version := protocolVersion.toNat
  pktType := packet.packetType.asU8.toNat
  tgtType := packet.targetType.asU8.toNat
  roomId := packet.room.units
  userId := packet.user.units
  seq := packet.sequence.toNat
  payload := packet.payload

theorem Uint8Array.slice_all (view : Uint8Array) (start : Nat) :
    view.slice start view.byteLength = view.contents.drop start := by
  rw [slice, ← view.length_contents, List.take_length]

def interpret (f : Fields) : Except DecodeError Decoded :=
  if (f.version.toNat : Int) ≠ protocolVersion.toNat then .error (.unsupportedVersion f.version.toNat)
  else if (f.packetCode.toNat : Int) ∉ validPacketTypes then
    .error (.unknownPacketType f.packetCode.toNat)
  else if (f.targetCode.toNat : Int) ∉ validTargetTypes then
    .error (.unknownTargetType f.targetCode.toNat)
  else if (f.reserved.toNat : Int) ≠ 0 then .error (.nonZeroReserved f.reserved.toNat)
  else do
    let roomId ← unpackAsciiField f.roomId.toList "roomId"
    let userId ← unpackAsciiField f.userId.toList "userId"
    if f.payload.length ≠ ofBigEndian f.length.toList then
      .error (.lengthMismatch (ofBigEndian f.length.toList) f.payload.length)
    else
      .ok ⟨f.version.toNat, f.packetCode.toNat, f.targetCode.toNat, roomId, userId,
        ofBigEndian f.sequence.toList, f.payload⟩

/-- Every read is inside the view once the length check has passed. -/
theorem decode_join {rawBytes : RawBytes} {f : Fields} (same : rawBytes.contents = some f.join) :
    decode rawBytes = interpret f := by
  obtain ⟨view, found, contents⟩ := RawBytes.toUint8Array_of_contents same
  have length : view.byteLength = headerLen + f.payload.length := by
    rw [← view.length_contents, contents, f.length_join]
  have enough : ¬ view.byteLength < headerLen := by omega
  have byte (offset : Nat) (bound : offset < headerLen) (b : UInt8)
      (at_offset : (f.join.take (offset + 1)).drop offset = [b]) :
      view.getUnsigned 1 offset = .ok b.toNat := by
    rw [Uint8Array.getUnsigned_of_le (by omega), contents, at_offset, ofBigEndian_singleton]
  have version := byte 0 (by decide) f.version rfl
  have packetCode := byte 1 (by decide) f.packetCode rfl
  have targetCode := byte 2 (by decide) f.targetCode rfl
  have reserved := byte 3 (by decide) f.reserved rfl
  have room : view.slice 4 10 = f.roomId.toList := by
    rw [Uint8Array.slice, contents, f.join_roomId]
  have user : view.slice 10 18 = f.userId.toList := by
    rw [Uint8Array.slice, contents, f.join_userId]
  have seq : view.getUnsigned 4 18 = .ok (ofBigEndian f.sequence.toList) := by
    rw [Uint8Array.getUnsigned_of_le (by rw [length, headerLen]; omega), contents, f.join_sequence]
  have declaredLen : view.getUnsigned 2 22 = .ok (ofBigEndian f.length.toList) := by
    rw [Uint8Array.getUnsigned_of_le (by rw [length, headerLen]; omega), contents, f.join_length]
  have payload : view.slice headerLen view.byteLength = f.payload := by
    rw [view.slice_all, contents, f.join_payload]
  simp only [decode, found, enough, version, packetCode, targetCode, reserved, room, user, seq,
    declaredLen, payload, except_ok_bind, if_false]
  rfl

theorem decode_join_eq_ok {rawBytes : RawBytes} {f : Fields} {result : Decoded}
    (same : rawBytes.contents = some f.join) :
    decode rawBytes = .ok result ↔
      (f.version.toNat : Int) = protocolVersion.toNat ∧
      (f.packetCode.toNat : Int) ∈ validPacketTypes ∧ (f.targetCode.toNat : Int) ∈ validTargetTypes ∧
      (f.reserved.toNat : Int) = 0 ∧
      ∃ room : Identifier roomIdLen, room.field = f.roomId ∧
      ∃ user : Identifier userIdLen, user.field = f.userId ∧
        f.payload.length = ofBigEndian f.length.toList ∧
        result = ⟨f.version.toNat, f.packetCode.toNat, f.targetCode.toNat, room.units,
          user.units, ofBigEndian f.sequence.toList, f.payload⟩ := by
  rw [decode_join same, interpret]
  simp only [Except.ok.injEq, guarded_eq_ok, except_bind_eq_ok, unpackAsciiField_eq_ok, not_not]
  constructor
  · rintro ⟨version, packetCode, targetCode, reserved, _, ⟨room, roomField, rfl⟩, _,
      ⟨user, userField, rfl⟩, agrees, same⟩
    exact ⟨version, packetCode, targetCode, reserved, room, roomField, user, userField, agrees,
      same.symm⟩
  · rintro ⟨version, packetCode, targetCode, reserved, room, roomField, user, userField, agrees, rfl⟩
    exact ⟨version, packetCode, targetCode, reserved, _, ⟨room, roomField, rfl⟩, _,
      ⟨user, userField, rfl⟩, agrees, rfl⟩

theorem decode_layout {rawBytes : RawBytes} {packet : Packet}
    (same : rawBytes.contents = some packet.layout) :
    decode rawBytes = .ok (.ofPacket packet) := by
  rw [← packet.join_fields] at same
  refine (decode_join_eq_ok same).mpr ⟨rfl, PacketType.mem_codes.mpr ⟨packet.packetType, rfl⟩,
    TargetType.mem_codes.mpr ⟨packet.targetType, rfl⟩, rfl, packet.room, rfl, packet.user, rfl,
    packet.ofBigEndian_length.symm, ?_⟩
  rw [packet.ofBigEndian_sequence]
  rfl

/-- The decoder accepts the layouts of packets and nothing else. -/
theorem decode_eq_ok {rawBytes : RawBytes} {bytes : Bytes} {result : Decoded}
    (same : rawBytes.contents = some bytes) :
    decode rawBytes = .ok result ↔
      ∃ packet : Packet, bytes = packet.layout ∧ result = .ofPacket packet := by
  constructor
  · intro decoded
    have enough : headerLen ≤ bytes.length := by
      obtain ⟨view, found, rfl⟩ := RawBytes.toUint8Array_of_contents same
      rw [decode, found, except_bind_eq_ok] at decoded
      simp only [Except.ok.injEq, exists_eq_left', guarded_eq_ok] at decoded
      rw [view.length_contents]
      exact Nat.le_of_not_lt decoded.1
    obtain ⟨f, rfl⟩ := Fields.exists_join enough
    obtain ⟨version, packetCode, targetCode, reserved, room, roomField, user, userField, agrees, _⟩ :=
      (decode_join_eq_ok same).mp decoded
    obtain ⟨packet, rfl⟩ := Fields.exists_packet_of_codes version packetCode targetCode reserved
      ⟨room, roomField⟩ ⟨user, userField⟩ agrees
    rw [packet.join_fields] at same
    rw [decode_layout same] at decoded
    exact ⟨packet, packet.join_fields, (Except.ok.inj decoded).symm⟩
  · rintro ⟨packet, rfl, rfl⟩
    exact decode_layout same

theorem accepts_iff {rawBytes : RawBytes} {bytes : Bytes} (same : rawBytes.contents = some bytes) :
    (∃ fields, decode rawBytes = .ok fields) ↔ ∃ packet : Packet, bytes = packet.layout := by
  simp only [decode_eq_ok same]
  exact ⟨fun ⟨_, packet, layout, _⟩ => ⟨packet, layout⟩,
    fun ⟨packet, layout⟩ => ⟨_, packet, layout, rfl⟩⟩

end DecodingLaws

section EncodingLaws

theorem packAsciiField_eq_ok {size : Nat} {value : List UInt16} {fieldName : String}
    {padded : Bytes} :
    packAsciiField value size fieldName = .ok padded ↔
      ∃ id : Identifier size, value = id.units ∧ padded = id.field.toList := by
  have content (bytes : Bytes) : overwrite (List.replicate size 0) 0 bytes =
      bytes.rightpad size 0 := by
    simpa using overwrite_fresh [] bytes 0 size
  have accepted : value.findIdx? (fun code => code == 0 || decide (0x7F < code)) = none ↔
      ∀ code ∈ value, code ≠ 0 ∧ code.toNat < 0x80 := by
    simp only [List.findIdx?_eq_none_iff, Bool.or_eq_false_iff, beq_eq_false_iff_ne,
      decide_eq_false_iff_not]
    refine forall₂_congr fun code _ => and_congr_right fun _ => ?_
    rw [UInt16.lt_iff_toNat_lt]
    change ¬ 127 < code.toNat ↔ code.toNat < 128
    omega
  have packedField (id : Identifier size) :
      overwrite (List.replicate size 0) 0 (id.units.map UInt16.toUInt8) = id.field.toList := by
    rw [id.map_toUInt8_units, content]
    rfl
  rw [packAsciiField, guarded_eq_ok]
  constructor
  · rintro ⟨fits, packed⟩
    split at packed
    next => cases packed
    next clean =>
      obtain ⟨id, rfl⟩ := Identifier.exists_units_iff.mpr ⟨Nat.le_of_not_lt fits, accepted.mp clean⟩
      rw [packedField] at packed
      exact ⟨id, rfl, (Except.ok.inj packed).symm⟩
  · rintro ⟨id, rfl, rfl⟩
    obtain ⟨fits, clean⟩ := Identifier.exists_units_iff.mp ⟨id, rfl⟩
    rw [accepted.mpr clean, packedField]
    exact ⟨Nat.not_lt_of_le fits, rfl⟩

theorem store_fresh_bind {filled bytes : Bytes} {fresh start : Nat}
    (next : Bytes → Except EncodeError Bytes) (size : filled.length = start)
    (fits : bytes.length ≤ fresh) :
    (store (filled ++ List.replicate fresh 0) start bytes >>= next) =
      next (filled ++ bytes ++ List.replicate (fresh - bytes.length) 0) := by
  subst size
  rw [store, if_pos (by simp only [List.length_append, List.length_replicate]; omega),
    overwrite_fresh]
  rfl

theorem unsignedBytes_byte (b : UInt8) : unsignedBytes 1 b.toNat = [b] := by
  have bound := b.toNat_lt
  have same : ((b.toNat : Int) % 256 ^ 1).toNat = b.toNat := by omega
  rw [unsignedBytes, same]
  simp [bigEndian]

theorem unsignedBytes_of_lt (size : Nat) {value : Nat} (bound : value < 256 ^ size) :
    unsignedBytes size value = bigEndian size value := by
  have same : (value : Int) % 256 ^ size = value :=
    Int.emod_eq_of_lt (by omega) (by exact_mod_cast bound)
  rw [unsignedBytes, same]
  rfl

theorem encode_packet (packet : Packet) :
    encode protocolVersion.toNat packet.packetType.asU8.toNat packet.targetType.asU8.toNat
      packet.room.units packet.user.units packet.sequence.toNat packet.payload =
        .ok packet.layout := by
  have bound := packet.sequence.toNat_lt
  have fits := packet.fits
  have version := unsignedBytes_byte protocolVersion
  have packetType := unsignedBytes_byte packet.packetType.asU8
  have targetType := unsignedBytes_byte packet.targetType.asU8
  have reserved : unsignedBytes 1 0 = [0x00] := unsignedBytes_byte 0
  have sequence := unsignedBytes_of_lt 4 bound
  have length := unsignedBytes_of_lt 2 fits
  have room : packAsciiField packet.room.units roomIdLen "roomId" = .ok packet.room.field.toList :=
    packAsciiField_eq_ok.mpr ⟨_, rfl, rfl⟩
  have user : packAsciiField packet.user.units userIdLen "userId" = .ok packet.user.field.toList :=
    packAsciiField_eq_ok.mpr ⟨_, rfl, rfl⟩
  have roomLen : packet.room.field.toList.length = 6 := packet.room.field.toList_length
  have userLen : packet.user.field.toList.length = 8 := packet.user.field.toList_length
  have known : (packet.packetType.asU8.toNat : Int) ∈ validPacketTypes :=
    PacketType.mem_codes.mpr ⟨_, rfl⟩
  have addressed : (packet.targetType.asU8.toNat : Int) ∈ validTargetTypes :=
    TargetType.mem_codes.mpr ⟨_, rfl⟩
  have sequenceRange :
      ¬ ((packet.sequence.toNat : Int) < 0 ∨ 0xFFFFFFFF < (packet.sequence.toNat : Int)) := by
    omega
  have payloadRange : ¬ 0xFFFF < packet.payload.length := by omega
  rw [encode, if_neg (not_not.mpr rfl), if_neg (not_not.mpr known), if_neg (not_not.mpr addressed),
    if_neg sequenceRange, if_neg payloadRange, room, user, version, packetType, targetType, reserved,
    sequence, length, except_ok_bind, except_ok_bind, ← List.nil_append (List.replicate _ _)]
  rw [store_fresh_bind, store_fresh_bind, store_fresh_bind, store_fresh_bind, store_fresh_bind,
    store_fresh_bind, store_fresh_bind, store_fresh_bind, store_fresh_bind]
  -- The first byte is the version again, so the check behind the writes passes.
  · have remaining : headerLen + packet.payload.length - 1 - 1 - 1 - 1 - 6 - 8 - 4 - 2 -
        packet.payload.length = 0 := by
      rw [headerLen]
      omega
    simp only [List.length_singleton, length_bigEndian, roomLen, userLen, remaining,
      List.replicate_zero, List.append_nil]
    exact if_neg (not_not.mpr rfl)
  all_goals simp [roomLen, userLen, headerLen] <;> omega

/-- The encoder succeeds exactly on the contents of packets, with their layout. -/
theorem encode_eq_ok {version pktType tgtType seq : Int} {roomId userId : List UInt16}
    {payload wire : Bytes} :
    encode version pktType tgtType roomId userId seq payload = .ok wire ↔
      ∃ packet : Packet, wire = packet.layout ∧
        (⟨version, pktType, tgtType, roomId, userId, seq, payload⟩ : Decoded) =
          .ofPacket packet := by
  constructor
  · intro encoded
    have checks := encoded
    simp only [encode, guarded_eq_ok, except_bind_eq_ok, not_not, not_or, Int.not_lt,
      Nat.not_lt] at checks
    obtain ⟨rfl, pktType, tgtType, ⟨low, high⟩, fits, roomField, roomPacked, userField, userPacked,
      _⟩ := checks
    obtain ⟨packetType, rfl⟩ := PacketType.mem_codes.mp pktType
    obtain ⟨targetType, rfl⟩ := TargetType.mem_codes.mp tgtType
    obtain ⟨room, rfl, _⟩ := packAsciiField_eq_ok.mp roomPacked
    obtain ⟨user, rfl, _⟩ := packAsciiField_eq_ok.mp userPacked
    obtain ⟨sequence, rfl⟩ := exists_uint32 low high
    let packet : Packet := ⟨packetType, targetType, room, user, sequence, payload, by omega⟩
    exact ⟨packet, (Except.ok.inj ((encode_packet packet).symm.trans encoded)).symm, rfl⟩
  · rintro ⟨packet, rfl, contents⟩
    simp only [Decoded.ofPacket, Decoded.mk.injEq] at contents
    obtain ⟨rfl, rfl, rfl, rfl, rfl, rfl, rfl⟩ := contents
    exact encode_packet packet

end EncodingLaws

end WsGateway.Sdk.JavaScript
