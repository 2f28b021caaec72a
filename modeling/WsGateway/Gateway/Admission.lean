import WsGateway.Protocol.RoundTrip
import WsGateway.Gateway.Steps

/-! Admitted names against the names that packets can carry.

The upgrade handler and the decoder arrive at the same routing keys from two
sides. The handler checks ASCII and length, the decoder also refuses NUL.
-/

set_option autoImplicit false

namespace WsGateway
open Foundation Protocol Routing

def Addressable (room : RoomID) (user : UserID) : Prop :=
  ∀ targetType, ∃ b header payload, PacketHeader.decode b = .ok (header, payload) ∧
    header.targetType = targetType ∧ header.roomIdStr = room ∧ header.userIdStr = user

theorem wsHandler_eq_ok {params : WsParams} {room : RoomID} {user : UserID} :
    wsHandler params = .ok (room, user) ↔
      (isAscii params.room = true ∧ (utf8 params.room).length ≤ roomIdLen) ∧
        (isAscii params.user = true ∧ (utf8 params.user).length ≤ userIdLen) ∧
        room = params.room ∧ user = params.user := by
  simp only [wsHandler, guarded_eq_ok, Bool.not_eq_false, Nat.not_lt, Except.ok.injEq, Prod.mk.injEq]
  constructor
  · rintro ⟨asciiRoom, asciiUser, roomFits, userFits, rfl, rfl⟩
    exact ⟨⟨asciiRoom, roomFits⟩, ⟨asciiUser, userFits⟩, rfl, rfl⟩
  · rintro ⟨⟨asciiRoom, roomFits⟩, ⟨asciiUser, userFits⟩, rfl, rfl⟩
    exact ⟨asciiRoom, asciiUser, roomFits, userFits, rfl, rfl⟩

theorem new_of_admitted {params : WsParams} {room : RoomID} {user : UserID}
    (admitted : wsHandler params = .ok (room, user)) (packetType : PacketType)
    (targetType : TargetType) (sequence : UInt32) :
    ∃ header, PacketHeader.new packetType targetType room user sequence 0 = .ok header := by
  obtain ⟨admittedRoom, admittedUser, rfl, rfl⟩ := wsHandler_eq_ok.mp admitted
  exact PacketHeader.new_isOk_iff.mpr ⟨admittedRoom, admittedUser, by decide⟩

theorem addressable_of_clean {params : WsParams} {room : RoomID} {user : UserID}
    (admitted : wsHandler params = .ok (room, user)) (cleanRoom : 0 ∉ utf8 room)
    (cleanUser : 0 ∉ utf8 user) : Addressable room user := by
  intro targetType
  obtain ⟨header, built⟩ := new_of_admitted admitted .heartbeat targetType 0
  have empty : PacketHeader.new .heartbeat targetType room user 0 ([] : Bytes).length = .ok header :=
    built
  obtain ⟨packet, _, _, rfl, rfl, rfl, _⟩ := PacketHeader.exists_packet_of_new empty cleanRoom cleanUser
  exact ⟨packet.layout, packet.header, packet.payload, PacketHeader.decode_layout packet, rfl,
    packet.roomIdStr_header, packet.userIdStr_header⟩

theorem names_of_decoded {b payload : Bytes} {header : PacketHeader}
    (decoded : PacketHeader.decode b = .ok (header, payload)) :
    (∃ room : Identifier roomIdLen, header.roomIdStr = room.text) ∧
      ∃ user : Identifier userIdLen, header.userIdStr = user.text := by
  obtain ⟨packet, _, rfl, _⟩ := PacketHeader.decode_eq_ok.mp decoded
  exact ⟨⟨packet.room, packet.roomIdStr_header⟩, ⟨packet.user, packet.userIdStr_header⟩⟩

theorem clean_of_addressable {room : RoomID} {user : UserID} (addressable : Addressable room user) :
    0 ∉ utf8 room ∧ 0 ∉ utf8 user := by
  obtain ⟨_, header, _, decoded, _, rfl, rfl⟩ := addressable .broadcast
  obtain ⟨⟨room, roomText⟩, user, userText⟩ := names_of_decoded decoded
  rw [roomText, userText, room.utf8_text, user.utf8_text]
  exact ⟨room.zero_notMem, user.zero_notMem⟩

theorem admitted_of_decoded {b payload : Bytes} {header : PacketHeader}
    (decoded : PacketHeader.decode b = .ok (header, payload)) :
    wsHandler ⟨header.roomIdStr, header.userIdStr⟩ = .ok (header.roomIdStr, header.userIdStr) := by
  obtain ⟨⟨room, roomText⟩, user, userText⟩ := names_of_decoded decoded
  rw [roomText, userText]
  refine wsHandler_eq_ok.mpr ⟨⟨?_, ?_⟩, ⟨?_, ?_⟩, rfl, rfl⟩
  · rw [isAscii_iff, room.utf8_text]
    exact room.ascii
  · rw [room.utf8_text]
    exact room.fits
  · rw [isAscii_iff, user.utf8_text]
    exact user.ascii
  · rw [user.utf8_text]
    exact user.fits

/-- Admitted names can be carried by packets exactly when they contain no NUL. The
names of every packet are admitted, and find the connection opened under them. -/
theorem admitted_addressable_iff (params : WsParams) (room : RoomID) (user : UserID)
    (b payload : Bytes) (header : PacketHeader) (g next : Gateway) :
    (wsHandler params = .ok (room, user) →
      (Addressable room user ↔ 0 ∉ utf8 room ∧ 0 ∉ utf8 user)) ∧
    (PacketHeader.decode b = .ok (header, payload) →
      wsHandler ⟨header.roomIdStr, header.userIdStr⟩ = .ok (header.roomIdStr, header.userIdStr)) ∧
    (g.connect ⟨header.roomIdStr, header.userIdStr⟩ = some next →
      next.registry.rooms.find header.roomIdStr header.userIdStr = some g.connections.length) := by
  refine ⟨?_, admitted_of_decoded, ?_⟩
  · intro admitted
    exact ⟨clean_of_addressable, fun clean => addressable_of_clean admitted clean.1 clean.2⟩
  · intro connected
    obtain ⟨room, user, admitted, _, rfl⟩ := Gateway.connect_eq_some.mp connected
    obtain ⟨_, _, rfl, rfl⟩ := wsHandler_eq_ok.mp admitted
    have entry := congrFun (NestedMap.flat_put g.registry.rooms header.roomIdStr header.userIdStr
      g.connections.length) (header.roomIdStr, header.userIdStr)
    rwa [Function.update_self] at entry

/-- A percent-encoded NUL passes the handler, and no packet carries it. -/
theorem admitted_nul_unaddressable :
    wsHandler ⟨"a\x00b", "u1"⟩ = .ok ("a\x00b", "u1") ∧ ¬ Addressable "a\x00b" "u1" := by
  refine ⟨by decide, fun addressable => ?_⟩
  exact absurd (clean_of_addressable addressable).1 (by decide)

end WsGateway
