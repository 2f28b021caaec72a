import WsGateway.Gateway.Channels
import WsGateway.Sdk.Agreement

/-! From one client to another through the gateway.

What leaves a connection's queue for its socket is the layout of a packet, so the
client codecs and the gateway read the same fields from it.
-/

set_option autoImplicit false

namespace WsGateway.Sdk
open Foundation Protocol Routing Gateway

def ReadBy (bytes : Bytes) : Gateway.Event → Prop
  | .frame _ data => data = bytes
  | .datagram data => data.val = bytes
  | _ => False

theorem readBy_of_arrival {event : Gateway.Event} {arrival : Arrival}
    (arrived : arrival ∈ event.arrivals) : ReadBy arrival.raw event := by
  cases event with
  | frame _ data => exact (mem_accept.mp arrived).1.symm
  | datagram data => exact (mem_accept.mp arrived).1.symm
  | _ => cases arrived

theorem python_encode_layout {packet : Packet} {version pktType tgtType seq : Int}
    {roomId userId : List CodePoint} {payload : Bytes}
    (encoded : Python.encode version pktType tgtType roomId userId seq payload = .ok packet.layout) :
    Python.Decoded.ofPacket packet = ⟨version, pktType, tgtType, roomId, userId, seq, payload⟩ := by
  obtain ⟨packet', layout, contents⟩ := Python.encode_eq_ok.mp encoded
  rw [contents]
  have decoded := Python.decode_layout packet
  rw [layout, Python.decode_layout] at decoded
  exact (Except.ok.inj decoded).symm

theorem javaScript_encode_layout {packet : Packet} {version pktType tgtType seq : Int}
    {roomId userId : List UInt16} {payload : Bytes}
    (encoded : JavaScript.encode version pktType tgtType roomId userId seq payload = .ok packet.layout) :
    JavaScript.Decoded.ofPacket packet = ⟨version, pktType, tgtType, roomId, userId, seq, payload⟩ := by
  obtain ⟨packet', layout, contents⟩ := JavaScript.encode_eq_ok.mp encoded
  rw [contents]
  have decoded := Python.decode_layout packet
  rw [layout, Python.decode_layout] at decoded
  rw [← javaScriptView_ofPacket, ← javaScriptView_ofPacket, Except.ok.inj decoded]

/-- A client reads from its socket what some client sent: both codecs read the same fields
from it, those that its sender encoded, for the room and the user of the connection. -/
theorem read_as_sent (events : List Gateway.Event) (g : Gateway) (ran : run step new events = some g)
    (id : ConnectionId) (connection : Connection) (here : g.connections[id]? = some connection)
    (item : Outbound) (received : (item, .received) ∈ record step (removals id) new events) :
    ∃ fields : Python.Decoded,
      Python.decode item.bytes = .ok fields ∧
      (∀ rawBytes, rawBytes.contents = some item.bytes →
        JavaScript.decode rawBytes = .ok (javaScriptView fields)) ∧
      fields.roomId = codePoints connection.room ∧
      (fields.tgtType = 0x01 ∨ fields.tgtType = 0x02 ∧ fields.userId = codePoints connection.user) ∧
      (∃ event ∈ events, ReadBy item.bytes event) ∧
      (∀ version pktType tgtType roomId userId seq payload,
        Python.encode version pktType tgtType roomId userId seq payload = .ok item.bytes →
          fields = ⟨version, pktType, tgtType, roomId, userId, seq, payload⟩) ∧
      ∀ version pktType tgtType roomId userId seq payload,
        JavaScript.encode version pktType tgtType roomId userId seq payload = .ok item.bytes →
          javaScriptView fields = ⟨version, pktType, tgtType, roomId, userId, seq, payload⟩ := by
  obtain ⟨arrived, sound, _⟩ := reached ran
  have accepted : item ∈ connection.accepted := by
    rw [(accepted_run ran here).1]
    exact List.mem_append_left _ (List.mem_map.mpr ⟨_, received, rfl⟩)
  obtain ⟨arrival, found, bytes, decoded, room, addressed⟩ :=
    (sound.accepted id connection here item accepted).genuine sound here
  obtain ⟨packet, layout, header, _⟩ := PacketHeader.decode_eq_ok.mp decoded
  rw [layout] at bytes
  rw [header, packet.roomIdStr_header] at room
  rw [header, packet.userIdStr_header] at addressed
  refine ⟨.ofPacket packet, ?_, ?_, ?_, ?_, ?_, ?_, ?_⟩
  · rw [bytes]
    exact Python.decode_layout packet
  · intro rawBytes same
    rw [bytes] at same
    rw [javaScriptView_ofPacket]
    exact JavaScript.decode_layout same
  · rw [show connection.room = packet.room.text from room.symm, packet.room.codePoints_text]
    rfl
  · refine addressed.imp (fun broadcast => ?_) fun ⟨unicast, user⟩ => ⟨?_, ?_⟩
    · exact congrArg (fun type : TargetType => (type.asU8.toNat : Int)) broadcast
    · exact congrArg (fun type : TargetType => (type.asU8.toNat : Int)) unicast
    · rw [show connection.user = packet.user.text from user.symm, packet.user.codePoints_text]
      rfl
  · rw [arrived] at found
    obtain ⟨event, member, inside⟩ := List.mem_flatMap.mp (List.mem_of_getElem? found)
    exact ⟨event, member, bytes ▸ layout ▸ readBy_of_arrival inside⟩
  · intro version pktType tgtType roomId userId seq payload encoded
    rw [bytes] at encoded
    exact python_encode_layout encoded
  · intro version pktType tgtType roomId userId seq payload encoded
    rw [bytes] at encoded
    rw [javaScriptView_ofPacket]
    exact javaScript_encode_layout encoded

theorem read_as_sent_motion :
    ∃ g connection fields, ∃ item : Outbound, run step new motionReceived = some g ∧
      g.connections[0]? = some connection ∧ Python.decode item.bytes = .ok fields ∧
        fields.roomId = codePoints connection.room := by
  obtain ⟨g, connection, ran, here⟩ := motionReceived_runs
  have sent : (record step (removals 0) new motionReceived).any (fun entry =>
      entry.2 = .received) = true := by decide +kernel
  obtain ⟨⟨item, removal⟩, member, received⟩ := List.any_eq_true.mp sent
  rw [show removal = .received from of_decide_eq_true received] at member
  obtain ⟨fields, decoded, _, room, _⟩ :=
    read_as_sent motionReceived g ran 0 connection here item member
  exact ⟨g, connection, fields, item, ran, here, decoded, room⟩

end WsGateway.Sdk
