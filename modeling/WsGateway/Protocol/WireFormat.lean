import WsGateway.Protocol.Identifier

/-! The canonical wire format, and the header codec against it.

`Packet` holds exactly the data a well-formed packet carries; `Packet.layout`
is its only byte string. The decoder inverts the layout on its image and
rejects everything else, and the encoder of a decoded header returns the bytes
that were decoded.
-/

set_option autoImplicit false

namespace WsGateway.Protocol
open Foundation

/-- A byte string of at least 24 bytes, divided at the header's offsets. -/
@[ext] structure Fields where
  version : UInt8
  packetCode : UInt8
  targetCode : UInt8
  reserved : UInt8
  roomId : List.Vector UInt8 roomIdLen
  userId : List.Vector UInt8 userIdLen
  sequence : List.Vector UInt8 4
  length : List.Vector UInt8 2
  payload : Bytes

namespace Fields

def front (f : Fields) : Bytes := [f.version, f.packetCode, f.targetCode, f.reserved]

def join (f : Fields) : Bytes :=
  f.front ++ f.roomId.toList ++ f.userId.toList ++ f.sequence.toList ++ f.length.toList ++ f.payload

theorem exists_join {buf : Bytes} (enough : headerLen ≤ buf.length) : ∃ f : Fields, f.join = buf := by
  simp only [headerLen] at enough
  match buf, enough with
  | version :: packetCode :: targetCode :: reserved :: rest, enough =>
    simp only [List.length_cons] at enough
    refine ⟨⟨version, packetCode, targetCode, reserved, ⟨rest.take 6, ?_⟩,
      ⟨(rest.drop 6).take 8, ?_⟩, ⟨(rest.drop 14).take 4, ?_⟩, ⟨(rest.drop 18).take 2, ?_⟩,
      rest.drop 20⟩, ?_⟩
    any_goals simp only [List.length_take, List.length_drop, roomIdLen, userIdLen]; omega
    -- The remaining fields are adjacent ranges, counted behind the first four bytes.
    have tail (start size : Nat) :
        (rest.drop start).take size ++ rest.drop (start + size) = rest.drop start := by
      rw [← List.drop_drop]
      exact List.take_append_drop size (rest.drop start)
    simp only [join, front, List.Vector.toList, List.append_assoc]
    rw [tail 18 2, tail 14 4, tail 6 8, List.take_append_drop]
    rfl

section Access

variable (f : Fields)

theorem length_roomId : f.roomId.toList.length = 6 := f.roomId.toList_length

theorem length_userId : f.userId.toList.length = 8 := f.userId.toList_length

theorem length_sequence : f.sequence.toList.length = 4 := f.sequence.toList_length

theorem length_length : f.length.toList.length = 2 := f.length.toList_length

theorem length_front : f.front.length = 4 := rfl

@[simp] theorem length_join : f.join.length = headerLen + f.payload.length := by
  simp only [join, List.length_append, length_front, length_roomId, length_userId, length_sequence,
    length_length, headerLen]

theorem join_getElem_version : f.join[0]? = some f.version := rfl

theorem join_getElem_packetCode : f.join[1]? = some f.packetCode := rfl

theorem join_getElem_targetCode : f.join[2]? = some f.targetCode := rfl

theorem join_getElem_reserved : f.join[3]? = some f.reserved := rfl

theorem join_roomId : (f.join.take 10).drop 4 = f.roomId.toList := by
  have split : f.join = f.front ++ f.roomId.toList ++
      (f.userId.toList ++ f.sequence.toList ++ f.length.toList ++ f.payload) := by
    simp only [join, List.append_assoc]
  rw [split]
  exact range_middle _ _ _ 4 10 rfl (by rw [length_roomId])

theorem join_userId : (f.join.take 18).drop 10 = f.userId.toList := by
  have split : f.join = (f.front ++ f.roomId.toList) ++ f.userId.toList ++
      (f.sequence.toList ++ f.length.toList ++ f.payload) := by
    simp only [join, List.append_assoc]
  rw [split]
  exact range_middle _ _ _ 10 18 (by simp only [List.length_append, length_front, length_roomId])
    (by rw [length_userId])

theorem join_sequence : (f.join.take 22).drop 18 = f.sequence.toList := by
  have split : f.join = (f.front ++ f.roomId.toList ++ f.userId.toList) ++ f.sequence.toList ++
      (f.length.toList ++ f.payload) := by
    simp only [join, List.append_assoc]
  rw [split]
  exact range_middle _ _ _ 18 22
    (by simp only [List.length_append, length_front, length_roomId, length_userId])
    (by rw [length_sequence])

theorem join_length : (f.join.take 24).drop 22 = f.length.toList :=
  range_middle _ _ _ 22 24
    (by simp only [List.length_append, length_front, length_roomId, length_userId, length_sequence])
    (by rw [length_length])

theorem join_payload : f.join.drop headerLen = f.payload :=
  List.drop_left' (by
    simp only [List.length_append, length_front, length_roomId, length_userId, length_sequence,
      length_length, headerLen])

end Access

def declared (f : Fields) : UInt16 := UInt16.ofNat (ofBigEndian f.length.toList)

def sequenceNumber (f : Fields) : UInt32 := UInt32.ofNat (ofBigEndian f.sequence.toList)

theorem toNat_declared (f : Fields) : f.declared.toNat = ofBigEndian f.length.toList := by
  have bound := ofBigEndian_lt f.length.toList
  rw [List.Vector.toList_length] at bound
  rw [declared, UInt16.toNat_ofNat']
  omega

theorem toNat_sequenceNumber (f : Fields) :
    f.sequenceNumber.toNat = ofBigEndian f.sequence.toList := by
  have bound := ofBigEndian_lt f.sequence.toList
  rw [List.Vector.toList_length] at bound
  rw [sequenceNumber, UInt32.toNat_ofNat']
  omega

/-- The header checks, once the division of the bytes cannot fail any more. -/
def interpret (f : Fields) : Outcome DecodeError (PacketHeader × Bytes) := do
  Outcome.require (f.version = protocolVersion) (.unsupportedVersion f.version)
  Outcome.require (f.reserved = 0x00) (.nonZeroReserved f.reserved)
  let packetType ← Outcome.okOr (PacketType.fromU8 f.packetCode) (.unknownPacketType f.packetCode)
  let targetType ← Outcome.okOr (TargetType.fromU8 f.targetCode) (.unknownTargetType f.targetCode)
  Outcome.require (isValidAsciiField f.roomId.toList = true) .nonAsciiRoomId
  Outcome.require (isValidAsciiField f.userId.toList = true) .nonAsciiUserId
  Outcome.require (f.payload.length = f.declared.toNat)
    (.lengthMismatch f.declared f.payload.length)
  pure (⟨f.version, packetType, targetType, f.roomId, f.userId, f.sequenceNumber, f.declared⟩,
    f.payload)

theorem interpret_ne_abort (f : Fields) : f.interpret ≠ .abort := by
  unfold interpret
  refine Outcome.bind_ne_abort (Outcome.require_ne_abort _ _) fun _ _ => ?_
  refine Outcome.bind_ne_abort (Outcome.require_ne_abort _ _) fun _ _ => ?_
  refine Outcome.bind_ne_abort (Outcome.okOr_ne_abort _ _) fun _ _ => ?_
  refine Outcome.bind_ne_abort (Outcome.okOr_ne_abort _ _) fun _ _ => ?_
  refine Outcome.bind_ne_abort (Outcome.require_ne_abort _ _) fun _ _ => ?_
  refine Outcome.bind_ne_abort (Outcome.require_ne_abort _ _) fun _ _ => ?_
  refine Outcome.bind_ne_abort (Outcome.require_ne_abort _ _) fun _ _ => ?_
  simp

end Fields

namespace PacketHeader

theorem decode_tooShort {buf : Bytes} (short : buf.length < headerLen) :
    decode buf = .error .tooShort := by
  have missing : ¬ headerLen ≤ buf.length := by omega
  simp [decode, Outcome.require, missing]

/-- Every access of the decoder is in bounds once the length check has passed. -/
theorem decode_join (f : Fields) : decode f.join = f.interpret := by
  have enough : headerLen ≤ f.join.length := by rw [f.length_join]; omega
  have bound {stop : Nat} (within : stop ≤ headerLen) : stop ≤ f.join.length := within.trans enough
  have version := Outcome.index_eq_ok (E := DecodeError).mpr f.join_getElem_version
  have packetCode := Outcome.index_eq_ok (E := DecodeError).mpr f.join_getElem_packetCode
  have targetCode := Outcome.index_eq_ok (E := DecodeError).mpr f.join_getElem_targetCode
  have reserved := Outcome.index_eq_ok (E := DecodeError).mpr f.join_getElem_reserved
  have roomId : Outcome.slice (E := DecodeError) f.join 4 10 = .ok f.roomId.toList := by
    rw [Outcome.slice_of_le (by decide) (bound (by decide)), f.join_roomId]
  have userId : Outcome.slice (E := DecodeError) f.join 10 18 = .ok f.userId.toList := by
    rw [Outcome.slice_of_le (by decide) (bound (by decide)), f.join_userId]
  have sequence : Outcome.slice (E := DecodeError) f.join 18 22 = .ok f.sequence.toList := by
    rw [Outcome.slice_of_le (by decide) (bound (by decide)), f.join_sequence]
  have length : Outcome.slice (E := DecodeError) f.join 22 24 = .ok f.length.toList := by
    rw [Outcome.slice_of_le (by decide) (bound (by decide)), f.join_length]
  have payload : Outcome.slice (E := DecodeError) f.join headerLen f.join.length = .ok f.payload := by
    rw [Outcome.slice_of_le enough le_rfl, List.take_length, f.join_payload]
  have actual : Outcome.subtract (E := DecodeError) f.join.length headerLen = .ok f.payload.length := by
    rw [Outcome.subtract_of_le enough, f.length_join, Nat.add_sub_cancel_left]
  have first : Outcome.require (headerLen ≤ f.join.length) DecodeError.tooShort = .ok () :=
    Outcome.require_eq_ok.mpr enough
  unfold decode Fields.interpret
  simp only [first, version, packetCode, targetCode, reserved, roomId, userId, sequence, length,
    payload, actual, Outcome.ok_bind, Outcome.array_of_length (List.Vector.toList_length _)]
  rfl

theorem decode_ne_abort (buf : Bytes) : decode buf ≠ .abort := by
  by_cases enough : headerLen ≤ buf.length
  · obtain ⟨f, rfl⟩ := Fields.exists_join enough
    rw [decode_join]
    exact f.interpret_ne_abort
  · rw [decode_tooShort (Nat.lt_of_not_le enough)]
    simp

end PacketHeader

@[ext] structure Packet where
  packetType : PacketType
  targetType : TargetType
  room : Identifier roomIdLen
  user : Identifier userIdLen
  sequence : UInt32
  payload : Bytes
  fits : payload.length < 0x10000

namespace Packet

/-- The bytes of a packet: version, types, a zero byte, the two padded
identifiers, sequence and length in big-endian order, then the payload. -/
def layout (packet : Packet) : Bytes :=
  [0x02, packet.packetType.asU8, packet.targetType.asU8, 0x00]
    ++ packet.room.bytes.rightpad 6 0 ++ packet.user.bytes.rightpad 8 0
    ++ bigEndian 4 packet.sequence.toNat ++ bigEndian 2 packet.payload.length
    ++ packet.payload

def header (packet : Packet) : PacketHeader where
  version := protocolVersion
  packetType := packet.packetType
  targetType := packet.targetType
  roomId := packet.room.field
  userId := packet.user.field
  sequence := packet.sequence
  length := UInt16.ofNat packet.payload.length

def fields (packet : Packet) : Fields where
  version := protocolVersion
  packetCode := packet.packetType.asU8
  targetCode := packet.targetType.asU8
  reserved := 0x00
  roomId := packet.room.field
  userId := packet.user.field
  sequence := ⟨bigEndian 4 packet.sequence.toNat, length_bigEndian _ _⟩
  length := ⟨bigEndian 2 packet.payload.length, length_bigEndian _ _⟩
  payload := packet.payload

theorem join_fields (packet : Packet) : packet.fields.join = packet.layout := rfl

theorem ofBigEndian_sequence (packet : Packet) :
    ofBigEndian packet.fields.sequence.toList = packet.sequence.toNat :=
  ofBigEndian_bigEndian 4 _ packet.sequence.toNat_lt

theorem ofBigEndian_length (packet : Packet) :
    ofBigEndian packet.fields.length.toList = packet.payload.length :=
  ofBigEndian_bigEndian 2 _ packet.fits

theorem sequenceNumber_fields (packet : Packet) :
    packet.fields.sequenceNumber = packet.sequence := by
  apply UInt32.toNat_inj.mp
  rw [Fields.toNat_sequenceNumber, packet.ofBigEndian_sequence]

theorem toNat_declared_fields (packet : Packet) :
    packet.fields.declared.toNat = packet.payload.length := by
  rw [Fields.toNat_declared, packet.ofBigEndian_length]

theorem declared_fields (packet : Packet) :
    packet.fields.declared = UInt16.ofNat packet.payload.length := by
  have fits := packet.fits
  apply UInt16.toNat_inj.mp
  rw [toNat_declared_fields, UInt16.toNat_ofNat']
  omega

@[simp] theorem roomIdStr_header (packet : Packet) : packet.header.roomIdStr = packet.room.text :=
  asciiFieldStr_field packet.room

@[simp] theorem userIdStr_header (packet : Packet) : packet.header.userIdStr = packet.user.text :=
  asciiFieldStr_field packet.user

end Packet

theorem Fields.exists_packet {f : Fields} {packetType : PacketType} {targetType : TargetType}
    (version : f.version = protocolVersion) (reserved : f.reserved = 0x00)
    (packetCode : f.packetCode = packetType.asU8) (targetCode : f.targetCode = targetType.asU8)
    (room : ∃ id : Identifier roomIdLen, id.field = f.roomId)
    (user : ∃ id : Identifier userIdLen, id.field = f.userId)
    (agrees : f.payload.length = ofBigEndian f.length.toList) :
    ∃ packet : Packet, f = packet.fields := by
  obtain ⟨room, roomField⟩ := room
  obtain ⟨user, userField⟩ := user
  have fits : f.payload.length < 0x10000 := by
    rw [agrees, ← f.toNat_declared]
    exact f.declared.toNat_lt
  have sequence : f.sequence.toList = bigEndian 4 f.sequenceNumber.toNat := by
    have recovered := bigEndian_ofBigEndian f.sequence.toList
    rw [List.Vector.toList_length, ← f.toNat_sequenceNumber] at recovered
    exact recovered.symm
  have length : f.length.toList = bigEndian 2 f.payload.length := by
    have recovered := bigEndian_ofBigEndian f.length.toList
    rw [List.Vector.toList_length, ← agrees] at recovered
    exact recovered.symm
  exact ⟨⟨packetType, targetType, room, user, f.sequenceNumber, f.payload, fits⟩,
    Fields.ext version packetCode targetCode reserved roomField.symm userField.symm
      (Subtype.ext sequence) (Subtype.ext length) rfl⟩

theorem Fields.exists_packet_of_codes {f : Fields}
    (version : (f.version.toNat : Int) = protocolVersion.toNat)
    (packetCode : (f.packetCode.toNat : Int) ∈ [0x01, 0x02, 0x03, 0x04])
    (targetCode : (f.targetCode.toNat : Int) ∈ [0x01, 0x02]) (reserved : (f.reserved.toNat : Int) = 0)
    (room : ∃ id : Identifier roomIdLen, id.field = f.roomId)
    (user : ∃ id : Identifier userIdLen, id.field = f.userId)
    (agrees : f.payload.length = ofBigEndian f.length.toList) :
    ∃ packet : Packet, f = packet.fields := by
  -- The numbers compared are those of bytes, so equal numbers mean equal bytes.
  have byte {left right : UInt8} (same : (left.toNat : Int) = right.toNat) : left = right :=
    UInt8.toNat_inj.mp (Int.ofNat_inj.mp same)
  obtain ⟨packetType, packetCode⟩ := PacketType.mem_codes.mp packetCode
  obtain ⟨targetType, targetCode⟩ := TargetType.mem_codes.mp targetCode
  exact Fields.exists_packet (byte version) (byte reserved) (byte packetCode) (byte targetCode)
    room user agrees

theorem Fields.interpret_eq_ok {f : Fields} {header : PacketHeader} {payload : Bytes} :
    f.interpret = .ok (header, payload) ↔
      ∃ packet : Packet, f = packet.fields ∧ header = packet.header ∧ payload = packet.payload := by
  have onPacket (packet : Packet) :
      packet.fields.interpret = .ok (packet.header, packet.payload) := by
    have room := (isValidAsciiField_iff packet.room.field).mpr ⟨packet.room, rfl⟩
    have user := (isValidAsciiField_iff packet.user.field).mpr ⟨packet.user, rfl⟩
    have agrees := packet.toNat_declared_fields
    simp only [Fields.interpret, packet.sequenceNumber_fields, packet.declared_fields] at agrees ⊢
    simp [Packet.fields, Outcome.require, Outcome.okOr, room, user, agrees, Packet.header]
  constructor
  · intro accepted
    have checks := accepted
    simp only [Fields.interpret, Outcome.bind_eq_ok, Outcome.require_eq_ok, Outcome.okOr_eq_ok,
      PacketType.fromU8_eq_some, TargetType.fromU8_eq_some] at checks
    obtain ⟨_, version, _, reserved, packetType, packetCode, targetType, targetCode, _, room,
      _, user, _, agrees, _⟩ := checks
    -- The checks determine the packet, and the packet what is returned.
    obtain ⟨packet, rfl⟩ := Fields.exists_packet version reserved packetCode targetCode
      ((isValidAsciiField_iff f.roomId).mp room) ((isValidAsciiField_iff f.userId).mp user)
      (agrees.trans f.toNat_declared)
    rw [onPacket, Outcome.ok.injEq, Prod.mk.injEq] at accepted
    exact ⟨packet, rfl, accepted.1.symm, accepted.2.symm⟩
  · rintro ⟨packet, rfl, rfl, rfl⟩
    exact onPacket packet

namespace PacketHeader

/-- The decoder accepts the layouts of packets and nothing else. -/
theorem decode_eq_ok {buf : Bytes} {header : PacketHeader} {payload : Bytes} :
    decode buf = .ok (header, payload) ↔
      ∃ packet : Packet, buf = packet.layout ∧ header = packet.header ∧ payload = packet.payload := by
  constructor
  · intro accepted
    by_cases enough : headerLen ≤ buf.length
    · obtain ⟨f, rfl⟩ := Fields.exists_join enough
      rw [decode_join] at accepted
      obtain ⟨packet, rfl, header, payload⟩ := Fields.interpret_eq_ok.mp accepted
      exact ⟨packet, packet.join_fields, header, payload⟩
    · rw [decode_tooShort (Nat.lt_of_not_le enough)] at accepted
      cases accepted
  · rintro ⟨packet, rfl, header, payload⟩
    rw [← packet.join_fields, decode_join]
    exact Fields.interpret_eq_ok.mpr ⟨packet, rfl, header, payload⟩

theorem decode_layout (packet : Packet) :
    decode packet.layout = .ok (packet.header, packet.payload) :=
  decode_eq_ok.mpr ⟨packet, rfl, rfl, rfl⟩

theorem accepts_iff {buf : Bytes} :
    (∃ header payload, decode buf = .ok (header, payload)) ↔ ∃ packet : Packet, buf = packet.layout := by
  constructor
  · rintro ⟨header, payload, accepted⟩
    obtain ⟨packet, layout, _⟩ := decode_eq_ok.mp accepted
    exact ⟨packet, layout⟩
  · rintro ⟨packet, rfl⟩
    exact ⟨_, _, decode_layout packet⟩

/-- The header is filled from left to right, so it is its parts in order. -/
theorem encodeHeader_eq (header : PacketHeader) :
    header.encodeHeader =
      [header.version, header.packetType.asU8, header.targetType.asU8, 0x00]
        ++ header.roomId.toList ++ header.userId.toList
        ++ bigEndian 4 header.sequence.toNat ++ bigEndian 2 header.length.toNat := by
  have room : header.roomId.toList.length = 6 := header.roomId.toList_length
  have user : header.userId.toList.length = 8 := header.userId.toList_length
  have types : ((((List.replicate headerLen (0 : UInt8)).set 0 header.version).set 1
      header.packetType.asU8).set 2 header.targetType.asU8).set 3 0 =
        [header.version, header.packetType.asU8, header.targetType.asU8, 0x00] ++
          List.replicate 20 0 := rfl
  -- Every copy starts where the filled part ends.
  have extend (filled items : Bytes) (start fresh : Nat) (size : filled.length = start) :
      overwrite (filled ++ List.replicate fresh 0) start items =
        filled ++ items ++ List.replicate (fresh - items.length) 0 := by
    rw [← size, overwrite_fresh]
  simp only [encodeHeader, types]
  rw [extend _ _ 4 20 rfl, extend _ _ 10 _ (by simp [room]), extend _ _ 18 _ (by simp [room, user]),
    extend _ _ 22 _ (by simp [room, user])]
  simp [room, user]

theorem encode_header (packet : Packet) : packet.header.encode packet.payload = packet.layout := by
  have length := packet.toNat_declared_fields
  rw [packet.declared_fields] at length
  simp only [encode, encodeHeader_eq, Packet.header, length]
  rfl

end PacketHeader

end WsGateway.Protocol
