import WsGateway.Protocol.WireFormat

/-! The Python client codec.

Integers are unbounded, a `str` is a sequence of code points, slices clamp, and
`struct` raises on a value that does not fit its format character. Every
`raise` is one constructor that carries the values its message interpolates.
-/

set_option autoImplicit false

namespace WsGateway.Sdk.Python
open Foundation Protocol

def validPacketTypes : List Int := [0x01, 0x02, 0x03, 0x04]
def validTargetTypes : List Int := [0x01, 0x02]

section Encoding

inductive EncodeError where
  | unsupportedVersion (version : Int)
  | unknownPacketType (pktType : Int)
  | unknownTargetType (tgtType : Int)
  | sequenceOutOfRange (seq : Int)
  | payloadTooLarge (length : Nat)
  | fieldTooLong (fieldName : String) (length maxLen : Nat)
  | fieldNotAscii (fieldName : String) (value : Bytes)
  /-- `UnicodeEncodeError` of `str.encode`. -/
  | unicodeEncode
  /-- `struct.error`. -/
  | structError
  deriving DecidableEq, Repr

def encodeAscii (text : List CodePoint) : Except EncodeError Bytes :=
  if text.all fun point => decide (point.val < 0x80) then
    .ok (text.map fun point => UInt8.ofNat point.val)
  else .error .unicodeEncode

def validateAsciiField (value : Bytes) (maxLen : Nat) (fieldName : String) :
    Except EncodeError Bytes :=
  if maxLen < value.length then .error (.fieldTooLong fieldName value.length maxLen)
  else if value.any fun b => b == 0 || decide (0x7F < b) then
    .error (.fieldNotAscii fieldName value)
  else .ok (value.rightpad maxLen 0)

/-- The format characters `B`, `H` and `I` in big-endian order: an unsigned
integer of `size` bytes. -/
def packUnsigned (size : Nat) (value : Int) : Except EncodeError Bytes :=
  if 0 ≤ value ∧ value < 256 ^ size then .ok (bigEndian size value.toNat)
  else .error .structError

/-- The format `s`: truncated or padded with zeros to `size` bytes. -/
def packString (size : Nat) (value : Bytes) : Bytes := (value.take size).rightpad size 0

def packHeader (version pktType tgtType reserved : Int) (room user : Bytes) (seq length : Int) :
    Except EncodeError Bytes := do
  let version ← packUnsigned 1 version
  let pktType ← packUnsigned 1 pktType
  let tgtType ← packUnsigned 1 tgtType
  let reserved ← packUnsigned 1 reserved
  let seq ← packUnsigned 4 seq
  let length ← packUnsigned 2 length
  pure (version ++ pktType ++ tgtType ++ reserved ++ packString 6 room ++ packString 8 user ++
    seq ++ length)

def encode (version pktType tgtType : Int) (roomId userId : List CodePoint) (seq : Int)
    (payload : Bytes) : Except EncodeError Bytes :=
  if version ≠ protocolVersion.toNat then .error (.unsupportedVersion version)
  else if pktType ∉ validPacketTypes then .error (.unknownPacketType pktType)
  else if tgtType ∉ validTargetTypes then .error (.unknownTargetType tgtType)
  else if seq < 0 ∨ 0xFFFFFFFF < seq then .error (.sequenceOutOfRange seq)
  else if 0xFFFF < payload.length then .error (.payloadTooLarge payload.length)
  else do
    -- Both texts are converted before either length is looked at.
    let roomBytes ← encodeAscii roomId
    let userBytes ← encodeAscii userId
    let paddedRoom ← validateAsciiField roomBytes roomIdLen "room_id"
    let paddedUser ← validateAsciiField userBytes userIdLen "user_id"
    let header ← packHeader version pktType tgtType 0 paddedRoom paddedUser seq payload.length
    pure (header ++ payload)

end Encoding

section Decoding

inductive DecodeError where
  | tooShort (length : Nat)
  | unsupportedVersion (version : Int)
  | unknownPacketType (pktType : Int)
  | unknownTargetType (tgtType : Int)
  | nonZeroReserved (reserved : Int)
  | embeddedNull (fieldName : String)
  | nonAscii (fieldName : String) (field : Bytes)
  | nonZeroPadding (fieldName : String) (field : Bytes)
  | lengthMismatch (declared actual : Nat)
  /-- `UnicodeDecodeError` of `bytes.decode`. -/
  | unicodeDecode
  /-- `struct.error`. -/
  | structError
  deriving DecidableEq, Repr

/-- The tuple `struct.unpack_from` returns for the header format. -/
structure Unpacked where
  version : Int
  pktType : Int
  tgtType : Int
  reserved : Int
  roomField : Bytes
  userField : Bytes
  seq : Nat
  declaredLen : Nat

def unpackFrom (raw : Bytes) : Except DecodeError Unpacked :=
  if raw.length < 24 then .error .structError
  else .ok {
    version := (raw.getD 0 0).toNat
    pktType := (raw.getD 1 0).toNat
    tgtType := (raw.getD 2 0).toNat
    reserved := (raw.getD 3 0).toNat
    roomField := (raw.take 10).drop 4
    userField := (raw.take 18).drop 10
    seq := ofBigEndian ((raw.take 22).drop 18)
    declaredLen := ofBigEndian ((raw.take 24).drop 22) }

def decodeAscii (data : Bytes) : Except DecodeError (List CodePoint) :=
  if data.all fun b => decide (Ascii b) then .ok (data.map byteCodePoint)
  else .error .unicodeDecode

def decodeAsciiField (field : Bytes) (fieldName : String) : Except DecodeError (List CodePoint) :=
  -- The data ends before the first zero, so the first check cannot fire.
  let firstZero := field.findIdx? fun b => b == 0
  let data := firstZero.elim field field.take
  let padding := firstZero.elim [] field.drop
  if data.contains 0 then .error (.embeddedNull fieldName)
  else if data.any fun b => decide (0x7F < b) then .error (.nonAscii fieldName field)
  else if ¬ padding.all fun b => b == 0 then .error (.nonZeroPadding fieldName field)
  else decodeAscii data

@[ext] structure Decoded where
  version : Int
  pktType : Int
  tgtType : Int
  roomId : List CodePoint
  userId : List CodePoint
  seq : Int
  payload : Bytes
  deriving DecidableEq

def decode (rawBytes : Bytes) : Except DecodeError Decoded :=
  if rawBytes.length < headerLen then .error (.tooShort rawBytes.length)
  else do
    let header ← unpackFrom rawBytes
    if header.version ≠ protocolVersion.toNat then .error (.unsupportedVersion header.version)
    else if header.pktType ∉ validPacketTypes then .error (.unknownPacketType header.pktType)
    else if header.tgtType ∉ validTargetTypes then .error (.unknownTargetType header.tgtType)
    else if header.reserved ≠ 0 then .error (.nonZeroReserved header.reserved)
    else do
      let roomId ← decodeAsciiField header.roomField "room_id"
      let userId ← decodeAsciiField header.userField "user_id"
      let payload := rawBytes.drop headerLen
      if payload.length ≠ header.declaredLen then
        .error (.lengthMismatch header.declaredLen payload.length)
      else
        .ok ⟨header.version, header.pktType, header.tgtType, roomId, userId, header.seq, payload⟩

theorem decodeAsciiField_eq_ok {size : Nat} {field : List.Vector UInt8 size} {fieldName : String}
    {text : List CodePoint} :
    decodeAsciiField field.toList fieldName = .ok text ↔
      ∃ id : Identifier size, id.field = field ∧ text = id.codePoints := by
  have noNull : (textPart 0 field.toList).contains 0 = false := by
    simpa using pad_notMem_textPart 0 field.toList
  have notAscii : (textPart 0 field.toList).any (fun b => decide (0x7F < b)) = false ↔
      ∀ b ∈ textPart 0 field.toList, Ascii b := by
    simp only [List.any_eq_false, decide_eq_true_eq, lt_iff_not_ascii, not_not]
  have padded : (field.toList.drop (textPart 0 field.toList).length).all (fun b => b == 0) = true ↔
      ∀ b ∈ field.toList.drop (textPart 0 field.toList).length, b = 0 := by
    simp only [List.all_eq_true, beq_iff_eq]
  simp only [decodeAsciiField, take_findIdx?, drop_findIdx?, noNull]
  constructor
  · intro decoded
    split at decoded
    next null => cases null
    next =>
      split at decoded
      next => cases decoded
      next ascii =>
        split at decoded
        next => cases decoded
        next padding =>
          rw [Bool.not_eq_true, notAscii] at ascii
          rw [not_not, padded] at padding
          obtain ⟨id, rfl⟩ := (exists_field_iff field).mpr ⟨ascii, padding⟩
          refine ⟨id, rfl, ?_⟩
          rw [id.textPart_field, decodeAscii, if_pos] at decoded
          · exact (Except.ok.inj decoded).symm
          · simpa using id.ascii
  · rintro ⟨id, rfl, rfl⟩
    obtain ⟨ascii, padding⟩ := (exists_field_iff id.field).mp ⟨id, rfl⟩
    rw [← notAscii] at ascii
    rw [← padded] at padding
    simp only [id.textPart_field] at ascii padding ⊢
    rw [if_neg (by simp), if_neg (by simp [ascii]), if_neg (by simp [padding]), decodeAscii,
      if_pos (by simpa using id.ascii)]
    rfl

def Decoded.ofPacket (packet : Packet) : Decoded where
  version := protocolVersion.toNat
  pktType := packet.packetType.asU8.toNat
  tgtType := packet.targetType.asU8.toNat
  roomId := packet.room.codePoints
  userId := packet.user.codePoints
  seq := packet.sequence.toNat
  payload := packet.payload

theorem unpackFrom_join (f : Fields) :
    unpackFrom f.join = .ok ⟨f.version.toNat, f.packetCode.toNat, f.targetCode.toNat,
      f.reserved.toNat, f.roomId.toList, f.userId.toList, ofBigEndian f.sequence.toList,
      ofBigEndian f.length.toList⟩ := by
  have enough : ¬ f.join.length < 24 := by
    rw [f.length_join, headerLen]
    omega
  rw [unpackFrom, if_neg enough, f.join_roomId, f.join_userId, f.join_sequence, f.join_length]
  rfl

def interpret (f : Fields) : Except DecodeError Decoded :=
  if (f.version.toNat : Int) ≠ protocolVersion.toNat then .error (.unsupportedVersion f.version.toNat)
  else if (f.packetCode.toNat : Int) ∉ validPacketTypes then
    .error (.unknownPacketType f.packetCode.toNat)
  else if (f.targetCode.toNat : Int) ∉ validTargetTypes then
    .error (.unknownTargetType f.targetCode.toNat)
  else if (f.reserved.toNat : Int) ≠ 0 then .error (.nonZeroReserved f.reserved.toNat)
  else do
    let roomId ← decodeAsciiField f.roomId.toList "room_id"
    let userId ← decodeAsciiField f.userId.toList "user_id"
    if f.payload.length ≠ ofBigEndian f.length.toList then
      .error (.lengthMismatch (ofBigEndian f.length.toList) f.payload.length)
    else
      .ok ⟨f.version.toNat, f.packetCode.toNat, f.targetCode.toNat, roomId, userId,
        ofBigEndian f.sequence.toList, f.payload⟩

theorem decode_join (f : Fields) : decode f.join = interpret f := by
  have enough : ¬ f.join.length < headerLen := by
    rw [f.length_join]
    omega
  rw [decode, if_neg enough, unpackFrom_join, except_ok_bind, f.join_payload]
  rfl

theorem decode_join_eq_ok {f : Fields} {result : Decoded} :
    decode f.join = .ok result ↔
      (f.version.toNat : Int) = protocolVersion.toNat ∧
      (f.packetCode.toNat : Int) ∈ validPacketTypes ∧ (f.targetCode.toNat : Int) ∈ validTargetTypes ∧
      (f.reserved.toNat : Int) = 0 ∧
      ∃ room : Identifier roomIdLen, room.field = f.roomId ∧
      ∃ user : Identifier userIdLen, user.field = f.userId ∧
        f.payload.length = ofBigEndian f.length.toList ∧
        result = ⟨f.version.toNat, f.packetCode.toNat, f.targetCode.toNat, room.codePoints,
          user.codePoints, ofBigEndian f.sequence.toList, f.payload⟩ := by
  rw [decode_join, interpret]
  simp only [Except.ok.injEq, guarded_eq_ok, except_bind_eq_ok, decodeAsciiField_eq_ok, not_not]
  constructor
  · rintro ⟨version, packetCode, targetCode, reserved, _, ⟨room, roomField, rfl⟩, _,
      ⟨user, userField, rfl⟩, agrees, same⟩
    exact ⟨version, packetCode, targetCode, reserved, room, roomField, user, userField, agrees,
      same.symm⟩
  · rintro ⟨version, packetCode, targetCode, reserved, room, roomField, user, userField, agrees, rfl⟩
    exact ⟨version, packetCode, targetCode, reserved, _, ⟨room, roomField, rfl⟩, _,
      ⟨user, userField, rfl⟩, agrees, rfl⟩

theorem decode_layout (packet : Packet) : decode packet.layout = .ok (.ofPacket packet) := by
  rw [← packet.join_fields]
  refine decode_join_eq_ok.mpr ⟨rfl, PacketType.mem_codes.mpr ⟨packet.packetType, rfl⟩,
    TargetType.mem_codes.mpr ⟨packet.targetType, rfl⟩, rfl, packet.room, rfl, packet.user, rfl,
    packet.ofBigEndian_length.symm, ?_⟩
  rw [packet.ofBigEndian_sequence]
  rfl

/-- The decoder accepts the layouts of packets and nothing else. -/
theorem decode_eq_ok {rawBytes : Bytes} {result : Decoded} :
    decode rawBytes = .ok result ↔
      ∃ packet : Packet, rawBytes = packet.layout ∧ result = .ofPacket packet := by
  constructor
  · intro decoded
    have enough : ¬ rawBytes.length < headerLen := by
      rw [decode, guarded_eq_ok] at decoded
      exact decoded.1
    obtain ⟨f, rfl⟩ := Fields.exists_join (Nat.le_of_not_lt enough)
    have whole := decoded
    obtain ⟨version, packetCode, targetCode, reserved, room, roomField, user, userField, agrees, _⟩ :=
      decode_join_eq_ok.mp decoded
    obtain ⟨packet, rfl⟩ := Fields.exists_packet_of_codes version packetCode targetCode reserved
      ⟨room, roomField⟩ ⟨user, userField⟩ agrees
    rw [packet.join_fields, decode_layout] at whole
    exact ⟨packet, packet.join_fields, (Except.ok.inj whole).symm⟩
  · rintro ⟨packet, rfl, rfl⟩
    exact decode_layout packet

theorem accepts_iff {rawBytes : Bytes} :
    (∃ fields, decode rawBytes = .ok fields) ↔ ∃ packet : Packet, rawBytes = packet.layout := by
  simp only [decode_eq_ok]
  exact ⟨fun ⟨_, packet, layout, _⟩ => ⟨packet, layout⟩,
    fun ⟨packet, layout⟩ => ⟨_, packet, layout, rfl⟩⟩

end Decoding

section EncodingLaws

theorem encodeAscii_codePoints {size : Nat} (id : Identifier size) :
    encodeAscii id.codePoints = .ok id.bytes := by
  have small : (id.codePoints.all fun point => decide (point.val < 0x80)) = true := by
    simp only [Identifier.codePoints, List.all_map, List.all_eq_true, Function.comp_apply,
      val_byteCodePoint, decide_eq_true_eq]
    exact fun b member => UInt8.lt_iff_toNat_lt.mp (id.ascii b member)
  rw [encodeAscii, if_pos small, Identifier.codePoints, map_ofNat_byteCodePoint]

theorem encodeAscii_eq_ok {text : List CodePoint} {bytes : Bytes}
    (encoded : encodeAscii text = .ok bytes) :
    (∀ b ∈ bytes, Ascii b) ∧ text = bytes.map byteCodePoint := by
  unfold encodeAscii at encoded
  split at encoded
  next small =>
    simp only [List.all_eq_true, decide_eq_true_eq] at small
    obtain ⟨source, ascii, rfl⟩ := exists_bytes_of_small small
    rw [map_ofNat_byteCodePoint] at encoded
    cases encoded
    exact ⟨ascii, rfl⟩
  next => cases encoded

theorem encode_field_eq_ok {size : Nat} {text : List CodePoint} {padded : Bytes}
    (fieldName : String) :
    (∃ bytes, encodeAscii text = .ok bytes ∧ validateAsciiField bytes size fieldName = .ok padded) ↔
      ∃ id : Identifier size, text = id.codePoints ∧ padded = id.field.toList := by
  constructor
  · rintro ⟨bytes, encoded, validated⟩
    obtain ⟨ascii, rfl⟩ := encodeAscii_eq_ok encoded
    rw [validateAsciiField, guarded_eq_ok, guarded_eq_ok] at validated
    obtain ⟨fits, clean, padded⟩ := validated
    simp only [List.any_eq_true, Bool.or_eq_true, beq_iff_eq, not_exists, not_and, not_or] at clean
    refine ⟨⟨bytes, fun b member => ⟨(clean b member).1, ascii b member⟩, Nat.le_of_not_lt fits⟩,
      rfl, ?_⟩
    exact (Except.ok.inj padded).symm
  · rintro ⟨id, rfl, rfl⟩
    refine ⟨id.bytes, encodeAscii_codePoints id, ?_⟩
    rw [validateAsciiField, guarded_eq_ok, guarded_eq_ok]
    refine ⟨Nat.not_lt_of_le id.fits, ?_, rfl⟩
    simp only [List.any_eq_true, Bool.or_eq_true, beq_iff_eq, decide_eq_true_eq, not_exists,
      not_and, not_or]
    intro b member
    obtain ⟨nonzero, ascii⟩ := id.clean b member
    exact ⟨nonzero, fun above => lt_iff_not_ascii.mp above ascii⟩

theorem packUnsigned_byte (b : UInt8) : packUnsigned 1 b.toNat = .ok [b] := by
  have bound := b.toNat_lt
  rw [packUnsigned, if_pos ⟨by omega, by omega⟩]
  simp [bigEndian]

theorem packUnsigned_of_lt (size : Nat) {value : Nat} (bound : value < 256 ^ size) :
    packUnsigned size value = .ok (bigEndian size value) := by
  rw [packUnsigned, if_pos ⟨by omega, by exact_mod_cast bound⟩]
  rfl

theorem packString_field {size : Nat} (field : List.Vector UInt8 size) :
    packString size field.toList = field.toList := by
  simp [packString, List.rightpad]

theorem packHeader_packet (packet : Packet) :
    packHeader protocolVersion.toNat packet.packetType.asU8.toNat packet.targetType.asU8.toNat 0
      packet.room.field.toList packet.user.field.toList packet.sequence.toNat
      packet.payload.length =
        .ok (packet.fields.front ++ packet.room.field.toList ++ packet.user.field.toList ++
          bigEndian 4 packet.sequence.toNat ++ bigEndian 2 packet.payload.length) := by
  have reserved : packUnsigned 1 0 = .ok [0x00] := packUnsigned_byte 0
  have sequence := packUnsigned_of_lt 4 packet.sequence.toNat_lt
  have length := packUnsigned_of_lt 2 packet.fits
  rw [packHeader, packUnsigned_byte, packUnsigned_byte, packUnsigned_byte, reserved, sequence,
    length]
  simp only [bind, Except.bind, pure, Except.pure]
  rw [show packString 6 packet.room.field.toList = _ from packString_field packet.room.field,
    show packString 8 packet.user.field.toList = _ from packString_field packet.user.field]
  rfl

/-- The encoder succeeds exactly on the contents of packets, with their layout. -/
theorem encode_eq_ok {version pktType tgtType seq : Int} {roomId userId : List CodePoint}
    {payload wire : Bytes} :
    encode version pktType tgtType roomId userId seq payload = .ok wire ↔
      ∃ packet : Packet, wire = packet.layout ∧
        (⟨version, pktType, tgtType, roomId, userId, seq, payload⟩ : Decoded) =
          .ofPacket packet := by
  simp only [encode, guarded_eq_ok, not_not, not_or, Int.not_lt, Nat.not_lt]
  constructor
  · rintro ⟨rfl, pktType, tgtType, ⟨low, high⟩, fits, encoded⟩
    simp only [except_bind_eq_ok] at encoded
    obtain ⟨roomBytes, roomBytesEq, userBytes, userBytesEq, paddedRoom, paddedRoomEq, paddedUser,
      paddedUserEq, header, packed, wire⟩ := encoded
    obtain ⟨packetType, rfl⟩ := PacketType.mem_codes.mp pktType
    obtain ⟨targetType, rfl⟩ := TargetType.mem_codes.mp tgtType
    obtain ⟨room, rfl, rfl⟩ := (encode_field_eq_ok _).mp ⟨roomBytes, roomBytesEq, paddedRoomEq⟩
    obtain ⟨user, rfl, rfl⟩ := (encode_field_eq_ok _).mp ⟨userBytes, userBytesEq, paddedUserEq⟩
    obtain ⟨sequence, rfl⟩ := exists_uint32 low high
    let packet : Packet := ⟨packetType, targetType, room, user, sequence, payload, by omega⟩
    rw [show packHeader _ _ _ _ _ _ _ _ = _ from packHeader_packet packet] at packed
    cases packed
    cases wire
    exact ⟨packet, rfl, rfl⟩
  · rintro ⟨packet, rfl, contents⟩
    simp only [Decoded.ofPacket, Decoded.mk.injEq] at contents
    obtain ⟨rfl, rfl, rfl, rfl, rfl, rfl, rfl⟩ := contents
    have bound := packet.sequence.toNat_lt
    have fits := packet.fits
    refine ⟨rfl, PacketType.mem_codes.mpr ⟨_, rfl⟩, TargetType.mem_codes.mpr ⟨_, rfl⟩,
      ⟨by omega, by omega⟩, by omega, ?_⟩
    obtain ⟨roomBytes, roomBytesEq, paddedRoomEq⟩ :=
      (encode_field_eq_ok "room_id").mpr ⟨packet.room, rfl, rfl⟩
    obtain ⟨userBytes, userBytesEq, paddedUserEq⟩ :=
      (encode_field_eq_ok "user_id").mpr ⟨packet.user, rfl, rfl⟩
    simp only [roomBytesEq, userBytesEq, paddedRoomEq, paddedUserEq, packHeader_packet, bind,
      Except.bind, pure, Except.pure]
    rfl

end EncodingLaws

end WsGateway.Sdk.Python
