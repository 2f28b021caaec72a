import WsGateway.Protocol.WireFormat

/-! Round trips between headers, bytes and identifier strings. -/

set_option autoImplicit false

namespace WsGateway.Protocol
open Foundation

namespace PacketHeader

theorem new_eq_ok {packetType : PacketType} {targetType : TargetType} {room user : String}
    {sequence : UInt32} {payloadLen : Nat} {header : PacketHeader} :
    new packetType targetType room user sequence payloadLen = .ok header ↔
      ∃ roomId userId, packAsciiField roomIdLen room = some roomId ∧
        packAsciiField userIdLen user = some userId ∧ payloadLen < 0x10000 ∧
        header = ⟨protocolVersion, packetType, targetType, roomId, userId, sequence,
          UInt16.ofNat payloadLen⟩ := by
  unfold new
  cases packAsciiField roomIdLen room with
  | none => simp
  | some roomId =>
    cases packAsciiField userIdLen user with
    | none => simp
    | some userId =>
      by_cases fits : payloadLen < 0x10000
      · simp [fits, eq_comm]
      · simp [fits]

theorem exists_packet_of_new {packetType : PacketType} {targetType : TargetType}
    {room user : String} {sequence : UInt32} {payload : Bytes} {header : PacketHeader}
    (built : new packetType targetType room user sequence payload.length = .ok header)
    (cleanRoom : 0 ∉ utf8 room) (cleanUser : 0 ∉ utf8 user) :
    ∃ packet : Packet, header = packet.header ∧ packet.packetType = packetType ∧
      packet.targetType = targetType ∧ packet.room.text = room ∧ packet.user.text = user ∧
      packet.sequence = sequence ∧ packet.payload = payload := by
  obtain ⟨roomId, userId, packedRoom, packedUser, fits, rfl⟩ := new_eq_ok.mp built
  obtain ⟨roomIdentifier, rfl, roomText⟩ := packAsciiField_identifier packedRoom cleanRoom
  obtain ⟨userIdentifier, rfl, userText⟩ := packAsciiField_identifier packedUser cleanUser
  exact ⟨⟨packetType, targetType, roomIdentifier, userIdentifier, sequence, payload, fits⟩,
    rfl, rfl, rfl, roomText, userText, rfl, rfl⟩

theorem new_packet (packet : Packet) :
    new packet.packetType packet.targetType packet.room.text packet.user.text packet.sequence
      packet.payload.length = .ok packet.header :=
  new_eq_ok.mpr ⟨_, _, packAsciiField_text packet.room, packAsciiField_text packet.user,
    packet.fits, rfl⟩

theorem new_isOk_iff {packetType : PacketType} {targetType : TargetType} {room user : String}
    {sequence : UInt32} {payloadLen : Nat} :
    (∃ header, new packetType targetType room user sequence payloadLen = .ok header) ↔
      (isAscii room = true ∧ (utf8 room).length ≤ roomIdLen) ∧
        (isAscii user = true ∧ (utf8 user).length ≤ userIdLen) ∧ payloadLen < 0x10000 := by
  simp only [new_eq_ok, ← packAsciiField_isSome]
  constructor
  · rintro ⟨_, roomId, userId, packedRoom, packedUser, fits, _⟩
    exact ⟨⟨roomId, packedRoom⟩, ⟨userId, packedUser⟩, fits⟩
  · rintro ⟨⟨roomId, packedRoom⟩, ⟨userId, packedUser⟩, fits⟩
    exact ⟨_, roomId, userId, packedRoom, packedUser, fits, rfl⟩

/-- A constructed header survives the wire exactly when neither text contains NUL. -/
theorem new_encode_decode_iff (packetType : PacketType) (targetType : TargetType)
    (room user : String) (sequence : UInt32) (payload : Bytes) (header : PacketHeader)
    (built : new packetType targetType room user sequence payload.length = .ok header) :
    (decode (header.encode payload) = .ok (header, payload) ∧
        header.roomIdStr = room ∧ header.userIdStr = user) ↔
      0 ∉ utf8 room ∧ 0 ∉ utf8 user := by
  constructor
  -- The views stop at the first zero, so they alone give a NUL away.
  · rintro ⟨_, roomStr, userStr⟩
    obtain ⟨roomId, userId, packedRoom, packedUser, _, rfl⟩ := new_eq_ok.mp built
    exact ⟨(asciiFieldStr_packed packedRoom).mp roomStr, (asciiFieldStr_packed packedUser).mp userStr⟩
  · rintro ⟨cleanRoom, cleanUser⟩
    obtain ⟨packet, rfl, _, _, rfl, rfl, _, rfl⟩ := exists_packet_of_new built cleanRoom cleanUser
    rw [encode_header]
    exact ⟨decode_layout packet, packet.roomIdStr_header, packet.userIdStr_header⟩

theorem new_encode_decode_short_ids :
    ∃ header, new .aiEvent .unicast "r1" "ai" 0 1 = .ok header ∧
      decode (header.encode [0x02]) = .ok (header, [0x02]) ∧
        header.roomIdStr = "r1" ∧ header.userIdStr = "ai" :=
  ⟨_, rfl, (new_encode_decode_iff .aiEvent .unicast "r1" "ai" 0 [0x02] _ rfl).mpr (by decide)⟩

/-- A NUL inside a room text is admitted by the constructor and refused by the decoder. -/
theorem new_embedded_nul_rejected :
    ∃ header, new .heartbeat .broadcast "a\x00b" "u1" 0 0 = .ok header ∧
      decode (header.encode []) = .error .nonAsciiRoomId :=
  ⟨_, rfl, by decide⟩

theorem encode_decode {buf : Bytes} {header : PacketHeader} {payload : Bytes}
    (accepted : decode buf = .ok (header, payload)) : header.encode payload = buf := by
  obtain ⟨packet, rfl, rfl, rfl⟩ := decode_eq_ok.mp accepted
  exact encode_header packet

/-- The strings of a decoded header, padded again, are its address fields. -/
theorem repad_decode {buf : Bytes} {header : PacketHeader} {payload : Bytes}
    (accepted : decode buf = .ok (header, payload)) :
    (utf8 header.roomIdStr).rightpad roomIdLen 0 = header.roomId.toList ∧
      (utf8 header.userIdStr).rightpad userIdLen 0 = header.userId.toList := by
  obtain ⟨packet, rfl, rfl, rfl⟩ := decode_eq_ok.mp accepted
  rw [packet.roomIdStr_header, packet.userIdStr_header, packet.room.utf8_text, packet.user.utf8_text]
  exact ⟨rfl, rfl⟩

/-- The decoder accepts exactly the canonical layouts and cannot abort; what it
returns encodes to the same bytes, and equal routing keys mean equal address bytes. -/
theorem decode_canonical (buf : Bytes) :
    decode buf ≠ .abort ∧
    ((∃ header payload, decode buf = .ok (header, payload)) ↔
      ∃ packet : Packet, buf = packet.layout) ∧
    (∀ header payload, decode buf = .ok (header, payload) →
      header.encode payload = buf ∧
      (utf8 header.roomIdStr).rightpad roomIdLen 0 = header.roomId.toList ∧
      (utf8 header.userIdStr).rightpad userIdLen 0 = header.userId.toList ∧
      ∀ other header' payload', decode other = .ok (header', payload') →
        header.roomIdStr = header'.roomIdStr → header.userIdStr = header'.userIdStr →
          header.roomId = header'.roomId ∧ header.userId = header'.userId) := by
  refine ⟨decode_ne_abort buf, accepts_iff, ?_⟩
  intro header payload accepted
  obtain ⟨room, user⟩ := repad_decode accepted
  refine ⟨encode_decode accepted, room, user, ?_⟩
  intro other header' payload' accepted' sameRoom sameUser
  obtain ⟨room', user'⟩ := repad_decode accepted'
  constructor
  · exact List.Vector.toList_injective (by rw [← room, sameRoom, room'])
  · exact List.Vector.toList_injective (by rw [← user, sameUser, user'])

end PacketHeader

end WsGateway.Protocol
