import WsGateway.Protocol.Refusal
import WsGateway.Sdk.JavaScript
import WsGateway.Sdk.Python

/-! What the three decoders say of a byte string they refuse.

The clients make the same checks in the same order, so each reports the same
refusal in its own words. The gateway reports another one where it looks at the
reserved byte before it comes to the type codes.
-/

set_option autoImplicit false

namespace WsGateway.Sdk
open Foundation Protocol

section Codes

theorem toNat_ne_iff {left right : UInt8} : (left.toNat : Int) ≠ right.toNat ↔ ¬ left = right := by
  rw [ne_eq, Int.natCast_inj, UInt8.toNat_inj]

theorem packetCode_unknown {code : UInt8} :
    (code.toNat : Int) ∉ [0x01, 0x02, 0x03, 0x04] ↔ ¬ (PacketType.fromU8 code).isSome := by
  rw [PacketType.mem_codes, Option.isSome_iff_exists, not_iff_not]
  exact exists_congr fun type => by rw [PacketType.fromU8_eq_some, Int.natCast_inj, UInt8.toNat_inj]

theorem targetCode_unknown {code : UInt8} :
    (code.toNat : Int) ∉ [0x01, 0x02] ↔ ¬ (TargetType.fromU8 code).isSome := by
  rw [TargetType.mem_codes, Option.isSome_iff_exists, not_iff_not]
  exact exists_congr fun type => by rw [TargetType.fromU8_eq_some, Int.natCast_inj, UInt8.toNat_inj]

end Codes

namespace Python

def fieldReport (fieldName : String) (field : Bytes) : FieldFault → DecodeError
  | .nonAscii => .nonAscii fieldName field
  | .nonZeroPadding => .nonZeroPadding fieldName field

def report : Refusal → DecodeError
  | .tooShort length => .tooShort length
  | .unsupportedVersion version => .unsupportedVersion version.toNat
  | .unknownPacketType code => .unknownPacketType code.toNat
  | .unknownTargetType code => .unknownTargetType code.toNat
  | .nonZeroReserved reserved => .nonZeroReserved reserved.toNat
  | .roomId fault field => fieldReport "room_id" field fault
  | .userId fault field => fieldReport "user_id" field fault
  | .lengthMismatch declared actual => .lengthMismatch declared.toNat actual

theorem decodeAsciiField_reports (fieldName : String) (field : Bytes) :
    Reports (fieldReport fieldName field) (fieldFault field) (decodeAsciiField field fieldName) := by
  have noNull : (textPart 0 field).contains 0 = false := by
    simpa using pad_notMem_textPart 0 field
  simp only [decodeAsciiField, take_findIdx?, drop_findIdx?, noNull, Bool.false_eq_true, if_false,
    fieldFault]
  split
  next => rfl
  next ascii =>
    rw [Bool.not_eq_true, any_high_eq_false] at ascii
    have notAll : (¬ ((field.drop (textPart 0 field).length).all fun b => b == 0) = true) ↔
        ((field.drop (textPart 0 field).length).any fun b => b != 0) = true := by
      rw [List.all_eq_not_any_not, Bool.not_eq_true', Bool.not_eq_false]
      rfl
    by_cases padding : ((field.drop (textPart 0 field).length).any fun b => b != 0) = true
    · rw [if_pos padding, if_pos (notAll.mpr padding)]
      rfl
    · rw [if_neg padding, if_neg (notAll.not.mpr padding), decodeAscii, if_pos (by simpa using ascii)]
      exact ⟨_, rfl⟩

theorem interpret_raises (f : Fields) : Raises report (f.refusal clientChecks) (interpret f) := by
  unfold Fields.refusal clientChecks interpret
  refine raises_guard (Refusal.unsupportedVersion f.version) rfl toNat_ne_iff ?_
  refine raises_guard (Refusal.unknownPacketType f.packetCode) rfl packetCode_unknown ?_
  refine raises_guard (Refusal.unknownTargetType f.targetCode) rfl targetCode_unknown ?_
  refine raises_guard (Refusal.nonZeroReserved f.reserved) rfl (@toNat_ne_iff f.reserved 0) ?_
  refine raises_bind (reports_map (decodeAsciiField_reports "room_id" _)) fun room => ?_
  refine raises_bind (reports_map (decodeAsciiField_reports "user_id" _)) fun user => ?_
  rw [← f.toNat_declared]
  exact raises_guard (Refusal.lengthMismatch f.declared f.payload.length) rfl Iff.rfl raises_nil

theorem decode_short {b : Bytes} (short : b.length < headerLen) :
    decode b = .error (report (.tooShort b.length)) := if_pos short

theorem decode_of_refusal {f : Fields} {refusal : Refusal}
    (first : f.refusal clientChecks = some refusal) : decode f.join = .error (report refusal) := by
  rw [decode_join]
  exact interpret_raises f refusal first

end Python

namespace JavaScript

def fieldReport (fieldName : String) (field : Bytes) : FieldFault → DecodeError
  | .nonAscii =>
    let index := (textPart 0 field).findIdx fun b => decide (0x7F < b)
    .nonAscii fieldName (field.getD index 0) index
  | .nonZeroPadding =>
    let dataEnd := (textPart 0 field).length
    let index := dataEnd + (field.drop dataEnd).findIdx fun b => b != 0
    .nonZeroPadding fieldName (field.getD index 0) index

def report : Refusal → DecodeError
  | .tooShort length => .tooShort length
  | .unsupportedVersion version => .unsupportedVersion version.toNat
  | .unknownPacketType code => .unknownPacketType code.toNat
  | .unknownTargetType code => .unknownTargetType code.toNat
  | .nonZeroReserved reserved => .nonZeroReserved reserved.toNat
  | .roomId fault field => fieldReport "roomId" field fault
  | .userId fault field => fieldReport "userId" field fault
  | .lengthMismatch declared actual => .lengthMismatch declared.toNat actual

theorem unpackAsciiField_reports (fieldName : String) (field : Bytes) :
    Reports (fieldReport fieldName field) (fieldFault field) (unpackAsciiField field fieldName) := by
  have search : (textPart 0 field).findIdx? (fun b => decide (0x7F < b) || b == 0) =
      (textPart 0 field).findIdx? fun b => decide (0x7F < b) :=
    findIdx?_textPart (fun b => decide (0x7F < b)) 0 field
  simp only [unpackAsciiField, findIdx?_pad, take_textPart, fieldFault, search]
  by_cases high : ((textPart 0 field).any fun b => decide (0x7F < b)) = true
  · obtain ⟨index, found⟩ := Option.isSome_iff_exists.mp (List.findIdx?_isSome.trans high)
    obtain ⟨position, isHigh⟩ := findIdx?_textPart_eq_some found
    rw [if_pos high, found]
    show (if _ then _ else _) = _
    rw [if_pos (of_decide_eq_true isHigh), fieldReport, position]
  · have noHigh : (textPart 0 field).findIdx? (fun b => decide (0x7F < b)) = none := by
      rw [← Option.not_isSome_iff_eq_none, List.findIdx?_isSome]
      exact high
    rw [if_neg high, noHigh]
    by_cases padding : ((field.drop (textPart 0 field).length).any fun b => b != 0) = true
    · obtain ⟨index, found⟩ := Option.isSome_iff_exists.mp (List.findIdx?_isSome.trans padding)
      rw [if_pos padding, found]
      show _ = _
      rw [fieldReport, (List.findIdx?_eq_some_iff_findIdx_eq.mp found).2]
    · have noPadding : (field.drop (textPart 0 field).length).findIdx? (fun b => b != 0) = none := by
        rw [← Option.not_isSome_iff_eq_none, List.findIdx?_isSome]
        exact padding
      rw [if_neg padding, noPadding]
      exact ⟨_, rfl⟩

theorem interpret_raises (f : Fields) : Raises report (f.refusal clientChecks) (interpret f) := by
  unfold Fields.refusal clientChecks interpret
  refine raises_guard (Refusal.unsupportedVersion f.version) rfl toNat_ne_iff ?_
  refine raises_guard (Refusal.unknownPacketType f.packetCode) rfl packetCode_unknown ?_
  refine raises_guard (Refusal.unknownTargetType f.targetCode) rfl targetCode_unknown ?_
  refine raises_guard (Refusal.nonZeroReserved f.reserved) rfl (@toNat_ne_iff f.reserved 0) ?_
  refine raises_bind (reports_map (unpackAsciiField_reports "roomId" _)) fun room => ?_
  refine raises_bind (reports_map (unpackAsciiField_reports "userId" _)) fun user => ?_
  rw [← f.toNat_declared]
  exact raises_guard (Refusal.lengthMismatch f.declared f.payload.length) rfl Iff.rfl raises_nil

theorem decode_short {rawBytes : RawBytes} {b : Bytes} (same : rawBytes.contents = some b)
    (short : b.length < headerLen) : decode rawBytes = .error (report (.tooShort b.length)) := by
  obtain ⟨view, found, rfl⟩ := RawBytes.toUint8Array_of_contents same
  rw [view.length_contents] at short ⊢
  rw [decode, found, except_ok_bind, if_pos short]
  rfl

theorem decode_of_refusal {rawBytes : RawBytes} {f : Fields} {refusal : Refusal}
    (same : rawBytes.contents = some f.join) (first : f.refusal clientChecks = some refusal) :
    decode rawBytes = .error (report refusal) := by
  rw [decode_join same]
  exact interpret_raises f refusal first

end JavaScript

section Agreement

def ReservedFirst (b : Bytes) : Prop :=
  headerLen ≤ b.length ∧ b.getD 0 0 = protocolVersion ∧ b.getD 3 0 ≠ 0x00 ∧
    (PacketType.fromU8 (b.getD 1 0) = none ∨ TargetType.fromU8 (b.getD 2 0) = none)

instance (b : Bytes) : Decidable (ReservedFirst b) := inferInstanceAs (Decidable (_ ∧ _ ∧ _ ∧ _))

theorem reservedFirst_join {f : Fields} : ReservedFirst f.join ↔ f.ReservedFirst :=
  and_iff_right (by rw [f.length_join]; omega)

/-- A byte string that is refused is refused by both clients for one reason, and by the
gateway for the same, unless it looked at a wrong reserved byte before a wrong code. -/
theorem refusals_agree (b : Bytes) (rawBytes : JavaScript.RawBytes)
    (same : rawBytes.contents = some b)
    (refused : ∀ header payload, PacketHeader.decode b ≠ .ok (header, payload)) :
    ∃ refusal, Python.decode b = .error (Python.report refusal) ∧
      JavaScript.decode rawBytes = .error (JavaScript.report refusal) ∧
      (¬ ReservedFirst b → PacketHeader.decode b = .error (PacketHeader.report refusal)) ∧
      (ReservedFirst b → PacketHeader.decode b = .error (.nonZeroReserved (b.getD 3 0)) ∧
        (PacketHeader.report refusal = .unknownPacketType (b.getD 1 0) ∨
          PacketHeader.report refusal = .unknownTargetType (b.getD 2 0))) := by
  by_cases enough : headerLen ≤ b.length
  · obtain ⟨f, rfl⟩ := Fields.exists_join enough
    rw [reservedFirst_join, PacketHeader.decode_join]
    have complete (check : Check) : check ∈ clientChecks := by cases check <;> decide
    obtain ⟨refusal, first⟩ : ∃ refusal, f.refusal clientChecks = some refusal := by
      refine Option.ne_none_iff_exists'.mp fun passed => ?_
      obtain ⟨packet, rfl⟩ := (Fields.refusal_eq_none complete).mp passed
      exact refused _ _ (PacketHeader.decode_layout packet)
    refine ⟨refusal, Python.decode_of_refusal first, JavaScript.decode_of_refusal same first,
      fun plain => ?_, fun both => ?_⟩
    · rw [← Fields.refusal_of_not_reservedFirst plain] at first
      exact Fields.interpret_of_refusal first
    · obtain ⟨gateway, clients⟩ := Fields.refusal_of_reservedFirst both
      refine ⟨Fields.interpret_of_refusal gateway, ?_⟩
      rw [first] at clients
      exact clients.imp (fun code => by rw [Option.some.inj code]; rfl)
        fun code => by rw [Option.some.inj code]; rfl
  · have short := Nat.lt_of_not_le enough
    exact ⟨.tooShort b.length, Python.decode_short short, JavaScript.decode_short same short,
      fun _ => PacketHeader.decode_tooShort short, fun both => absurd both.1 enough⟩

def reservedAndUnknown : Bytes :=
  [0x02, 0x09, 0x01, 0x01, 114, 49, 0, 0, 0, 0, 117, 49, 0, 0, 0, 0, 0, 0, 0, 0, 0, 7, 0, 0]

theorem refusals_agree_reserved :
    PacketHeader.decode reservedAndUnknown = .error (.nonZeroReserved 0x01) ∧
      ∃ refusal, Python.decode reservedAndUnknown = .error (Python.report refusal) ∧
        (PacketHeader.report refusal = .unknownPacketType 0x09 ∨
          PacketHeader.report refusal = .unknownTargetType 0x01) := by
  have refused (header : PacketHeader) (payload : Bytes) :
      PacketHeader.decode reservedAndUnknown ≠ .ok (header, payload) := by
    rw [show PacketHeader.decode reservedAndUnknown = .error (.nonZeroReserved 0x01) by decide]
    simp
  have ⟨refusal, python, _, _, differ⟩ := refusals_agree reservedAndUnknown
    (.arrayBuffer reservedAndUnknown) rfl refused
  have ⟨gateway, code⟩ := differ (by decide)
  exact ⟨gateway, refusal, python, code⟩

end Agreement

section Framing

def resizedRefusal (header : PacketHeader) (length : Nat) : Refusal :=
  if length < headerLen then .tooShort length else .lengthMismatch header.length (length - headerLen)

theorem exists_resize (packet : Packet) {other : Bytes} (enough : headerLen ≤ other.length)
    (resized : other.length ≠ packet.layout.length)
    (cut : other <+: packet.layout ∨ packet.layout <+: other) :
    ∃ payload : Bytes, other = (packet.fields.resize payload).join ∧
      payload.length ≠ packet.payload.length := by
  have joined : ∃ payload : Bytes, other = (packet.fields.resize payload).join := by
    rw [← packet.join_fields] at cut
    rcases cut with shorter | ⟨rest, rfl⟩
    · exact ⟨_, (List.prefix_iff_eq_take.mp shorter).trans (Fields.join_take enough)⟩
    · exact ⟨_, Fields.join_append rest⟩
  obtain ⟨payload, rfl⟩ := joined
  refine ⟨payload, rfl, fun same => resized ?_⟩
  rw [← packet.join_fields, Fields.length_join, Fields.length_join]
  exact congrArg (headerLen + ·) same

/-- A packet that is cut short or followed by more bytes is refused by every decoder,
whatever its payload. -/
theorem resized_refused (b other payload : Bytes) (header : PacketHeader)
    (accepted : PacketHeader.decode b = .ok (header, payload))
    (cut : other <+: b ∨ b <+: other) (resized : other.length ≠ b.length)
    (rawBytes : JavaScript.RawBytes) (same : rawBytes.contents = some other) :
    PacketHeader.decode other = .error (PacketHeader.report (resizedRefusal header other.length)) ∧
      Python.decode other = .error (Python.report (resizedRefusal header other.length)) ∧
      JavaScript.decode rawBytes =
        .error (JavaScript.report (resizedRefusal header other.length)) := by
  obtain ⟨packet, rfl, rfl, rfl⟩ := PacketHeader.decode_eq_ok.mp accepted
  by_cases short : other.length < headerLen
  · rw [resizedRefusal, if_pos short]
    exact ⟨PacketHeader.decode_tooShort short, Python.decode_short short,
      JavaScript.decode_short same short⟩
  · obtain ⟨rest, rfl, misses⟩ := exists_resize packet (Nat.le_of_not_lt short) resized cut
    have gateway : (packet.fields.resize rest).refusal gatewayChecks = some _ :=
      packet.refusal_resized misses
        [.version, .reserved, .packetType, .targetType, .roomId, .userId] (by decide)
    have clients : (packet.fields.resize rest).refusal clientChecks = some _ :=
      packet.refusal_resized misses
        [.version, .packetType, .targetType, .reserved, .roomId, .userId] (by decide)
    have length : (packet.fields.resize rest).join.length - headerLen = rest.length := by
      rw [Fields.length_join, Nat.add_sub_cancel_left]
      rfl
    rw [resizedRefusal, if_neg short, length]
    exact ⟨(PacketHeader.decode_join _).trans (Fields.interpret_of_refusal gateway),
      Python.decode_of_refusal clients, JavaScript.decode_of_refusal same clients⟩

theorem resized_refused_heartbeat :
    ∃ header, Python.decode
      [0x02, 0x04, 0x01, 0x00, 114, 49, 0, 0, 0, 0, 117, 49, 0, 0, 0, 0, 0, 0, 0, 0, 0, 7, 0, 1] =
        .error (Python.report (resizedRefusal header 24)) := by
  have accepted : ∃ header, PacketHeader.decode
      [0x02, 0x04, 0x01, 0x00, 114, 49, 0, 0, 0, 0, 117, 49, 0, 0, 0, 0, 0, 0, 0, 0, 0, 7, 0, 1, 9] =
        .ok (header, [9]) := ⟨_, rfl⟩
  obtain ⟨header, accepted⟩ := accepted
  exact ⟨header, (resized_refused _ _ _ header accepted (Or.inl ⟨[9], rfl⟩) (by decide)
    (.arrayBuffer _) rfl).2.1⟩

end Framing

end WsGateway.Sdk
