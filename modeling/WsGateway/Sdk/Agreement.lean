import WsGateway.Protocol.RoundTrip
import WsGateway.Sdk.JavaScript
import WsGateway.Sdk.Python

/-! The three codecs against each other.

Each client codec was compared with the layout of packets on its own; here the
values they return are compared with the decoded header. A text is the same in
all three when its code points are, and JavaScript sees their UTF-16 units.
-/

set_option autoImplicit false

namespace WsGateway.Sdk
open Foundation Protocol

section Views

def pythonView (header : PacketHeader) (payload : Bytes) : Python.Decoded where
  version := header.version.toNat
  pktType := header.packetType.asU8.toNat
  tgtType := header.targetType.asU8.toNat
  roomId := codePoints header.roomIdStr
  userId := codePoints header.userIdStr
  seq := header.sequence.toNat
  payload := payload

def javaScriptView (fields : Python.Decoded) : JavaScript.Decoded where
  version := fields.version
  pktType := fields.pktType
  tgtType := fields.tgtType
  roomId := utf16 fields.roomId
  userId := utf16 fields.userId
  seq := fields.seq
  payload := fields.payload

theorem pythonView_header (packet : Packet) :
    pythonView packet.header packet.payload = .ofPacket packet := by
  simp only [pythonView, packet.roomIdStr_header, packet.userIdStr_header, Identifier.codePoints_text]
  rfl

theorem javaScriptView_ofPacket (packet : Packet) :
    javaScriptView (.ofPacket packet) = .ofPacket packet := by
  simp only [javaScriptView, Python.Decoded.ofPacket, Identifier.utf16_codePoints]
  rfl

theorem utf16_eq_units {size : Nat} {points : List CodePoint} {id : Identifier size} :
    utf16 points = id.units ↔ points = id.codePoints := by
  constructor
  · intro same
    -- Units of an identifier are ASCII, so no pair of them hides a code point.
    have small : ∀ unit ∈ utf16 points, unit.toNat < 0x80 := by
      rw [same]
      exact fun unit member => ((Identifier.exists_units_iff.mp ⟨id, rfl⟩).2 unit member).2
    obtain ⟨bytes, _, rfl⟩ := exists_bytes_of_small (utf16_small.mp small)
    rw [utf16_ascii] at same
    have injective : Function.Injective UInt8.toUInt16 := fun first second equal => by
      rw [← UInt8.toUInt8_toUInt16 first, equal, UInt8.toUInt8_toUInt16]
    rw [Identifier.codePoints, List.map_injective_iff.mpr injective same]
  · rintro rfl
    exact id.utf16_codePoints

theorem javaScriptView_eq_ofPacket (fields : Python.Decoded) {packet : Packet} :
    javaScriptView fields = .ofPacket packet ↔ fields = .ofPacket packet := by
  simp only [javaScriptView, JavaScript.Decoded.ofPacket, Python.Decoded.ofPacket,
    JavaScript.Decoded.mk.injEq, utf16_eq_units, Python.Decoded.ext_iff]

end Views

section Decoders

/-- The three decoders accept the same bytes and read the same fields from them. -/
theorem decoders_agree (b : Bytes) (rawBytes : JavaScript.RawBytes)
    (same : rawBytes.contents = some b) :
    ((∃ header payload, PacketHeader.decode b = .ok (header, payload)) ↔
      ∃ fields, Python.decode b = .ok fields) ∧
    ((∃ fields, Python.decode b = .ok fields) ↔ ∃ fields, JavaScript.decode rawBytes = .ok fields) ∧
    ∀ header payload, PacketHeader.decode b = .ok (header, payload) →
      Python.decode b = .ok (pythonView header payload) ∧
      JavaScript.decode rawBytes = .ok (javaScriptView (pythonView header payload)) := by
  rw [PacketHeader.accepts_iff, Python.accepts_iff, JavaScript.accepts_iff same]
  refine ⟨Iff.rfl, Iff.rfl, ?_⟩
  intro header payload accepted
  obtain ⟨packet, rfl, rfl, rfl⟩ := PacketHeader.decode_eq_ok.mp accepted
  rw [pythonView_header, javaScriptView_ofPacket]
  exact ⟨Python.decode_layout packet, JavaScript.decode_layout same⟩

theorem decoders_agree_heartbeat :
    ∃ fields, JavaScript.decode (.arrayBuffer
      [0x02, 0x04, 0x01, 0x00, 114, 49, 0, 0, 0, 0, 117, 49, 0, 0, 0, 0, 0, 0, 0, 0, 0, 7, 0, 0]) =
        .ok fields :=
  have ⟨python, javaScript, _⟩ := decoders_agree
    [0x02, 0x04, 0x01, 0x00, 114, 49, 0, 0, 0, 0, 117, 49, 0, 0, 0, 0, 0, 0, 0, 0, 0, 7, 0, 0]
    (.arrayBuffer _) rfl
  javaScript.mp (python.mp ⟨_, _, rfl⟩)

end Decoders

section Encoders

theorem javaScript_encode_eq_ok {version pktType tgtType seq : Int} {roomId userId : List CodePoint}
    {payload b : Bytes} :
    JavaScript.encode version pktType tgtType (utf16 roomId) (utf16 userId) seq payload = .ok b ↔
      ∃ packet : Packet, b = packet.layout ∧
        (⟨version, pktType, tgtType, roomId, userId, seq, payload⟩ : Python.Decoded) =
          .ofPacket packet := by
  rw [JavaScript.encode_eq_ok]
  exact exists_congr fun packet => and_congr_right fun _ =>
    javaScriptView_eq_ofPacket ⟨version, pktType, tgtType, roomId, userId, seq, payload⟩

/-- The encoders succeed on the same fields with the same bytes, the gateway
reads back those fields, and every byte string it accepts is produced by both. -/
theorem encoders_agree :
    (∀ (version pktType tgtType seq : Int) (roomId userId : List CodePoint) (payload b : Bytes),
      (Python.encode version pktType tgtType roomId userId seq payload = .ok b ↔
        JavaScript.encode version pktType tgtType (utf16 roomId) (utf16 userId) seq payload = .ok b) ∧
      (Python.encode version pktType tgtType roomId userId seq payload = .ok b →
        ∃ header, PacketHeader.decode b = .ok (header, payload) ∧
          pythonView header payload = ⟨version, pktType, tgtType, roomId, userId, seq, payload⟩)) ∧
    ∀ (b payload : Bytes) (header : PacketHeader),
      PacketHeader.decode b = .ok (header, payload) →
        Python.encode header.version.toNat header.packetType.asU8.toNat header.targetType.asU8.toNat
          (codePoints header.roomIdStr) (codePoints header.userIdStr) header.sequence.toNat payload =
            .ok b ∧
        JavaScript.encode header.version.toNat header.packetType.asU8.toNat
          header.targetType.asU8.toNat (utf16 (codePoints header.roomIdStr))
          (utf16 (codePoints header.userIdStr)) header.sequence.toNat payload = .ok b := by
  constructor
  · intro version pktType tgtType seq roomId userId payload b
    -- Both encoders succeed exactly on the contents of packets.
    rw [javaScript_encode_eq_ok, Python.encode_eq_ok]
    refine ⟨Iff.rfl, ?_⟩
    rintro ⟨packet, rfl, contents⟩
    have same : payload = packet.payload := congrArg Python.Decoded.payload contents
    subst same
    exact ⟨packet.header, PacketHeader.decode_layout packet,
      (pythonView_header packet).trans contents.symm⟩
  · intro b payload header accepted
    obtain ⟨packet, rfl, rfl, rfl⟩ := PacketHeader.decode_eq_ok.mp accepted
    have fields := pythonView_header packet
    refine ⟨Python.encode_eq_ok.mpr ⟨packet, rfl, fields⟩,
      JavaScript.encode_eq_ok.mpr ⟨packet, rfl, ?_⟩⟩
    rw [← javaScriptView_ofPacket, ← fields]
    rfl

end Encoders

section Construction

/-- The bytes the gateway's own crate builds from the fields of a packet. -/
def gatewayEncode (packetType : PacketType) (targetType : TargetType) (room user : String)
    (sequence : UInt32) (payload : Bytes) : Except EncodeError Bytes :=
  (PacketHeader.new packetType targetType room user sequence payload.length).map
    fun header => header.encode payload

def pythonFields (packetType : PacketType) (targetType : TargetType) (room user : String)
    (sequence : UInt32) (payload : Bytes) : Python.Decoded :=
  ⟨protocolVersion.toNat, packetType.asU8.toNat, targetType.asU8.toNat, codePoints room,
    codePoints user, sequence.toNat, payload⟩

variable {packetType : PacketType} {targetType : TargetType} {room user : String}
  {sequence : UInt32} {payload b : Bytes}

theorem packetType_asU8_inj {first second : PacketType} :
    (first.asU8.toNat : Int) = second.asU8.toNat ↔ first = second := by
  cases first <;> cases second <;> decide

theorem targetType_asU8_inj {first second : TargetType} :
    (first.asU8.toNat : Int) = second.asU8.toNat ↔ first = second := by
  cases first <;> cases second <;> decide

theorem pythonFields_eq_ofPacket {packet : Packet} :
    pythonFields packetType targetType room user sequence payload = .ofPacket packet ↔
      packetType = packet.packetType ∧ targetType = packet.targetType ∧ room = packet.room.text ∧
        user = packet.user.text ∧ sequence = packet.sequence ∧ payload = packet.payload := by
  simp only [pythonFields, Python.Decoded.ofPacket, Python.Decoded.mk.injEq, packetType_asU8_inj,
    targetType_asU8_inj, true_and, ← Identifier.codePoints_text]
  have points {left right : String} : codePoints left = codePoints right ↔ left = right :=
    ⟨codePoints_injective, congrArg _⟩
  rw [points, points, Int.natCast_inj, UInt32.toNat_inj]

theorem gatewayEncode_eq_ok :
    gatewayEncode packetType targetType room user sequence payload = .ok b ↔
      ∃ header, PacketHeader.new packetType targetType room user sequence payload.length =
        .ok header ∧ header.encode payload = b := by
  unfold gatewayEncode
  cases PacketHeader.new packetType targetType room user sequence payload.length <;>
    simp [Except.map]

theorem gatewayEncode_packet (packet : Packet) :
    gatewayEncode packet.packetType packet.targetType packet.room.text packet.user.text
      packet.sequence packet.payload = .ok packet.layout :=
  gatewayEncode_eq_ok.mpr ⟨packet.header, PacketHeader.new_packet packet,
    PacketHeader.encode_header packet⟩

/-- The clients encode what the crate encodes, apart from texts with NUL. -/
theorem pythonFields_iff :
    (∃ packet : Packet, b = packet.layout ∧
        pythonFields packetType targetType room user sequence payload = .ofPacket packet) ↔
      gatewayEncode packetType targetType room user sequence payload = .ok b ∧
        0 ∉ utf8 room ∧ 0 ∉ utf8 user := by
  simp only [pythonFields_eq_ofPacket]
  constructor
  · rintro ⟨packet, rfl, rfl, rfl, rfl, rfl, rfl, rfl⟩
    refine ⟨gatewayEncode_packet packet, ?_, ?_⟩
    · rw [packet.room.utf8_text]
      exact packet.room.zero_notMem
    · rw [packet.user.utf8_text]
      exact packet.user.zero_notMem
  · rintro ⟨encoded, cleanRoom, cleanUser⟩
    obtain ⟨header, built, rfl⟩ := gatewayEncode_eq_ok.mp encoded
    obtain ⟨packet, rfl, rfl, rfl, rfl, rfl, rfl, rfl⟩ :=
      PacketHeader.exists_packet_of_new built cleanRoom cleanUser
    exact ⟨packet, PacketHeader.encode_header packet, rfl, rfl, rfl, rfl, rfl, rfl⟩

/-- The crate and the two clients encode the same fields to the same bytes, or all
refuse them, exactly when a text that the crate's own checks admit has no NUL. -/
theorem construction_agrees_iff (packetType : PacketType) (targetType : TargetType)
    (room user : String) (sequence : UInt32) (payload : Bytes) :
    (∀ b,
      (gatewayEncode packetType targetType room user sequence payload = .ok b ↔
        Python.encode 0x02 packetType.asU8.toNat targetType.asU8.toNat (codePoints room)
          (codePoints user) sequence.toNat payload = .ok b) ∧
      (gatewayEncode packetType targetType room user sequence payload = .ok b ↔
        JavaScript.encode 0x02 packetType.asU8.toNat targetType.asU8.toNat (utf16 (codePoints room))
          (utf16 (codePoints user)) sequence.toNat payload = .ok b)) ↔
      ((isAscii room = true ∧ (utf8 room).length ≤ roomIdLen) ∧
        (isAscii user = true ∧ (utf8 user).length ≤ userIdLen) ∧ payload.length < 0x10000 →
          0 ∉ utf8 room ∧ 0 ∉ utf8 user) := by
  simp only [Python.encode_eq_ok, javaScript_encode_eq_ok]
  have clients (b : Bytes) : (∃ packet : Packet, b = packet.layout ∧
      pythonFields packetType targetType room user sequence payload = .ofPacket packet) ↔
        gatewayEncode packetType targetType room user sequence payload = .ok b ∧
          0 ∉ utf8 room ∧ 0 ∉ utf8 user := pythonFields_iff
  rw [← PacketHeader.new_isOk_iff]
  constructor
  · intro agree admitted
    obtain ⟨header, built⟩ := admitted
    have encoded := gatewayEncode_eq_ok.mpr ⟨header, built, rfl⟩
    exact ((clients _).mp ((agree _).1.mp encoded)).2
  · intro clean b
    have same : gatewayEncode packetType targetType room user sequence payload = .ok b ↔
        ∃ packet : Packet, b = packet.layout ∧
          pythonFields packetType targetType room user sequence payload = .ofPacket packet := by
      rw [clients b]
      refine (and_iff_left_of_imp fun encoded => clean ?_).symm
      obtain ⟨header, built, _⟩ := gatewayEncode_eq_ok.mp encoded
      exact ⟨header, built⟩
    exact ⟨same, same⟩

theorem construction_embedded_nul :
    gatewayEncode .heartbeat .broadcast "a\x00b" "u1" 0 [] =
        .ok [2, 4, 1, 0, 97, 0, 98, 0, 0, 0, 117, 49, 0, 0, 0, 0, 0, 0, 0, 0, 0, 0, 0, 0] ∧
      Python.encode 0x02 0x04 0x01 (codePoints "a\x00b") (codePoints "u1") 0 [] =
        .error (.fieldNotAscii "room_id" [97, 0, 98]) ∧
      JavaScript.encode 0x02 0x04 0x01 (utf16 (codePoints "a\x00b")) (utf16 (codePoints "u1")) 0 [] =
        .error (.fieldNotAscii "roomId" 1 [97, 0, 98]) := by
  refine ⟨?_, ?_, ?_⟩ <;> decide

end Construction

end WsGateway.Sdk
