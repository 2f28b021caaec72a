import WsGateway.Protocol.WireFormat

/-! Why a byte string is refused.

The checks of a header are listed apart from the order in which a decoder makes
them; a decoder reports the first that fails. What passes them all are the packets,
whatever the order.
-/

set_option autoImplicit false

namespace WsGateway.Protocol
open Foundation

inductive FieldFault where
  /-- A byte of the text. -/
  | nonAscii
  /-- A byte behind the first zero. -/
  | nonZeroPadding
  deriving DecidableEq, Repr

def fieldFault (field : Bytes) : Option FieldFault :=
  if (textPart 0 field).any fun b => decide (0x7F < b) then some .nonAscii
  else if (field.drop (textPart 0 field).length).any fun b => b != 0 then some .nonZeroPadding
  else none

theorem any_high_eq_false {bytes : Bytes} :
    (bytes.any fun b => decide (0x7F < b)) = false ↔ ∀ b ∈ bytes, Ascii b := by
  simp only [List.any_eq_false, decide_eq_true_eq, lt_iff_not_ascii, not_not]

theorem any_nonzero_eq_false {bytes : Bytes} :
    (bytes.any fun b => b != 0) = false ↔ ∀ b ∈ bytes, b = 0 := by
  simp only [List.any_eq_false, bne_iff_ne, ne_eq, not_not]

theorem fieldFault_eq_none {size : Nat} {field : List.Vector UInt8 size} :
    fieldFault field.toList = none ↔ ∃ id : Identifier size, id.field = field := by
  rw [exists_field_iff, ← any_high_eq_false, ← any_nonzero_eq_false, fieldFault]
  split
  next other => simp only [reduceCtorEq, other, Bool.true_eq_false, false_and]
  next ascii =>
    split
    next other => simp only [reduceCtorEq, other, Bool.true_eq_false, and_false]
    next padding => simp only [ascii, padding, and_self]

theorem isValidAsciiField_eq {size : Nat} {field : List.Vector UInt8 size} :
    isValidAsciiField field.toList = true ↔ fieldFault field.toList = none := by
  rw [isValidAsciiField_iff, fieldFault_eq_none]

inductive Check where
  | version
  | packetType
  | targetType
  | reserved
  | roomId
  | userId
  | length
  deriving DecidableEq, Repr

inductive Refusal where
  | tooShort (length : Nat)
  | unsupportedVersion (version : UInt8)
  | unknownPacketType (code : UInt8)
  | unknownTargetType (code : UInt8)
  | nonZeroReserved (reserved : UInt8)
  | roomId (fault : FieldFault) (field : Bytes)
  | userId (fault : FieldFault) (field : Bytes)
  | lengthMismatch (declared : UInt16) (actual : Nat)
  deriving DecidableEq, Repr

def Check.fault (f : Fields) : Check → Option Refusal
  | .version => if f.version = protocolVersion then none else some (.unsupportedVersion f.version)
  | .packetType =>
    if (PacketType.fromU8 f.packetCode).isSome then none else some (.unknownPacketType f.packetCode)
  | .targetType =>
    if (TargetType.fromU8 f.targetCode).isSome then none else some (.unknownTargetType f.targetCode)
  | .reserved => if f.reserved = 0x00 then none else some (.nonZeroReserved f.reserved)
  | .roomId => (fieldFault f.roomId.toList).map fun fault => .roomId fault f.roomId.toList
  | .userId => (fieldFault f.userId.toList).map fun fault => .userId fault f.userId.toList
  | .length =>
    if f.payload.length = f.declared.toNat then none
    else some (.lengthMismatch f.declared f.payload.length)

/-- The order of the gateway's decoder, which looks at the reserved byte early. -/
def gatewayChecks : List Check :=
  [.version, .reserved, .packetType, .targetType, .roomId, .userId, .length]

def clientChecks : List Check :=
  [.version, .packetType, .targetType, .reserved, .roomId, .userId, .length]

theorem Packet.fault_fields (packet : Packet) (check : Check) : check.fault packet.fields = none := by
  cases check with
  | version => rfl
  | packetType => exact if_pos (by rw [fields, PacketType.fromU8_asU8]; rfl)
  | targetType => exact if_pos (by rw [fields, TargetType.fromU8_asU8]; rfl)
  | reserved => rfl
  | roomId => exact Option.map_eq_none_iff.mpr (fieldFault_eq_none.mpr ⟨packet.room, rfl⟩)
  | userId => exact Option.map_eq_none_iff.mpr (fieldFault_eq_none.mpr ⟨packet.user, rfl⟩)
  | length => exact if_pos packet.toNat_declared_fields.symm

def Fields.resize (f : Fields) (payload : Bytes) : Fields := { f with payload }

theorem Check.fault_resize (f : Fields) (payload : Bytes) {check : Check} (other : check ≠ .length) :
    check.fault (f.resize payload) = check.fault f := by
  cases check with
  | length => exact absurd rfl other
  | _ => rfl

namespace Fields

variable {f : Fields}

def refusal (checks : List Check) (f : Fields) : Option Refusal :=
  checks.findSome? (Check.fault f)

theorem refusal_eq_none {checks : List Check} (complete : ∀ check, check ∈ checks) :
    f.refusal checks = none ↔ ∃ packet : Packet, f = packet.fields := by
  rw [refusal, List.findSome?_eq_none_iff]
  constructor
  · intro passed
    have passed (check : Check) : check.fault f = none := passed check (complete check)
    have version := passed .version
    have packetType := passed .packetType
    have targetType := passed .targetType
    have reserved := passed .reserved
    have room := passed .roomId
    have user := passed .userId
    have length := passed .length
    simp only [Check.fault, ite_eq_left_iff, reduceCtorEq, imp_false, not_not, Option.map_eq_none_iff,
      fieldFault_eq_none] at version packetType targetType reserved room user length
    obtain ⟨packetType, packetCode⟩ := Option.isSome_iff_exists.mp packetType
    obtain ⟨targetType, targetCode⟩ := Option.isSome_iff_exists.mp targetType
    exact exists_packet version reserved (PacketType.fromU8_eq_some.mp packetCode)
      (TargetType.fromU8_eq_some.mp targetCode) room user (length.trans f.toNat_declared)
  · rintro ⟨packet, rfl⟩ check _
    exact packet.fault_fields check

theorem join_take {size : Nat} (enough : headerLen ≤ size) :
    f.join.take size = (f.resize (f.payload.take (size - headerLen))).join := by
  have head : (f.front ++ f.roomId.toList ++ f.userId.toList ++ f.sequence.toList ++
      f.length.toList).length = headerLen := by
    simp only [List.length_append, length_front, length_roomId, length_userId, length_sequence,
      length_length, headerLen]
  rw [join, List.take_append, head, List.take_of_length_le (by omega)]
  rfl

theorem join_append (rest : Bytes) : f.join ++ rest = (f.resize (f.payload ++ rest)).join :=
  List.append_assoc _ _ _

end Fields

def PacketHeader.report : Refusal → DecodeError
  | .tooShort _ => .tooShort
  | .unsupportedVersion version => .unsupportedVersion version
  | .unknownPacketType code => .unknownPacketType code
  | .unknownTargetType code => .unknownTargetType code
  | .nonZeroReserved reserved => .nonZeroReserved reserved
  -- The two faults of a field are one error.
  | .roomId _ _ => .nonAsciiRoomId
  | .userId _ _ => .nonAsciiUserId
  | .lengthMismatch declared actual => .lengthMismatch declared actual

section Gateway

variable {f : Fields} {refusal : Refusal}

theorem Fields.interpret_of_refusal (first : f.refusal gatewayChecks = some refusal) :
    f.interpret = .error (PacketHeader.report refusal) := by
  simp only [Fields.refusal, gatewayChecks, findSome?_cons_eq_some, Check.fault, List.findSome?_nil,
    Option.ite_none_left_eq_some, ite_eq_left_iff, Option.map_eq_some_iff, Option.map_eq_none_iff,
    reduceCtorEq, imp_false, not_not, Option.some.injEq, and_false, or_false] at first
  unfold Fields.interpret
  rcases first with ⟨wrong, rfl⟩ | ⟨version, first⟩
  · rw [Outcome.require_neg wrong, Outcome.error_bind]
    rfl
  rw [Outcome.require_pos version, Outcome.ok_bind]
  rcases first with ⟨wrong, rfl⟩ | ⟨reserved, first⟩
  · rw [Outcome.require_neg wrong, Outcome.error_bind]
    rfl
  rw [Outcome.require_pos reserved, Outcome.ok_bind]
  rcases first with ⟨wrong, rfl⟩ | ⟨packetType, first⟩
  · rw [Option.not_isSome_iff_eq_none.mp wrong]
    rfl
  obtain ⟨packetType, known⟩ := Option.isSome_iff_exists.mp packetType
  rw [known, Outcome.okOr_eq_ok.mpr rfl, Outcome.ok_bind]
  rcases first with ⟨wrong, rfl⟩ | ⟨targetType, first⟩
  · rw [Option.not_isSome_iff_eq_none.mp wrong]
    rfl
  obtain ⟨targetType, known⟩ := Option.isSome_iff_exists.mp targetType
  rw [known, Outcome.okOr_eq_ok.mpr rfl, Outcome.ok_bind]
  have invalid {size : Nat} {field : List.Vector UInt8 size} {fault : FieldFault}
      (wrong : fieldFault field.toList = some fault) : ¬ isValidAsciiField field.toList = true := by
    rw [isValidAsciiField_eq, wrong]
    simp
  rcases first with ⟨fault, wrong, rfl⟩ | ⟨room, first⟩
  · rw [Outcome.require_neg (invalid wrong), Outcome.error_bind]
    rfl
  rw [Outcome.require_pos (isValidAsciiField_eq.mpr room), Outcome.ok_bind]
  rcases first with ⟨fault, wrong, rfl⟩ | ⟨user, wrong, rfl⟩
  · rw [Outcome.require_neg (invalid wrong), Outcome.error_bind]
    rfl
  rw [Outcome.require_pos (isValidAsciiField_eq.mpr user), Outcome.ok_bind, Outcome.require_neg wrong,
    Outcome.error_bind]
  rfl

end Gateway

/-- A packet whose payload is not as long as declared fails its last check only. -/
theorem Packet.refusal_resized (packet : Packet) {payload : Bytes}
    (resized : payload.length ≠ packet.payload.length) (checks : List Check)
    (last : Check.length ∉ checks) :
    (packet.fields.resize payload).refusal (checks ++ [.length]) =
      some (.lengthMismatch packet.header.length payload.length) := by
  have earlier : checks.findSome? (Check.fault (packet.fields.resize payload)) = none := by
    refine List.findSome?_eq_none_iff.mpr fun check member => ?_
    rw [Check.fault_resize packet.fields payload fun same => last (same ▸ member)]
    exact packet.fault_fields check
  rw [← packet.toNat_declared_fields] at resized
  have mismatch : Check.length.fault (packet.fields.resize payload) =
      some (.lengthMismatch packet.fields.declared payload.length) := if_neg resized
  rw [packet.declared_fields] at mismatch
  rw [Fields.refusal, List.findSome?_append, earlier, Option.none_or, List.findSome?_singleton]
  exact mismatch

section Orders

variable {f : Fields}

/-- The two orders differ where the reserved byte and a type code are both wrong. -/
def Fields.ReservedFirst (f : Fields) : Prop :=
  f.version = protocolVersion ∧ f.reserved ≠ 0x00 ∧
    (PacketType.fromU8 f.packetCode = none ∨ TargetType.fromU8 f.targetCode = none)

instance (f : Fields) : Decidable f.ReservedFirst := inferInstanceAs (Decidable (_ ∧ _ ∧ _))

theorem Fields.refusal_cons {check : Check} (passed : check.fault f = none) (checks : List Check) :
    f.refusal (check :: checks) = f.refusal checks :=
  List.findSome?_cons_of_isNone (Option.isNone_iff_eq_none.mpr passed)

theorem Fields.refusal_cons_of_fault {check : Check} {refusal : Refusal}
    (failed : check.fault f = some refusal) (checks : List Check) :
    f.refusal (check :: checks) = some refusal :=
  findSome?_cons_eq_some.mpr (Or.inl failed)

theorem Fields.refusal_of_not_reservedFirst (plain : ¬ f.ReservedFirst) :
    f.refusal gatewayChecks = f.refusal clientChecks := by
  by_cases version : f.version = protocolVersion
  · have passes : Check.reserved.fault f = none ∨
        [Check.packetType, .targetType].findSome? (Check.fault f) = none := by
      by_cases reserved : f.reserved = 0x00
      · exact Or.inl (if_pos reserved)
      · have known := not_or.mp fun unknown => plain ⟨version, reserved, unknown⟩
        rw [← ne_eq, ← ne_eq, ← Option.isSome_iff_ne_none, ← Option.isSome_iff_ne_none] at known
        have packetType : Check.packetType.fault f = none := if_pos known.1
        have targetType : Check.targetType.fault f = none := if_pos known.2
        exact Or.inr ((refusal_cons packetType _).trans (refusal_cons targetType _))
    have first : Check.version.fault f = none := if_pos version
    rw [gatewayChecks, clientChecks, refusal_cons first, refusal_cons first]
    exact findSome?_moved passes
  · have first : Check.version.fault f = some (.unsupportedVersion f.version) := if_neg version
    rw [gatewayChecks, clientChecks, refusal_cons_of_fault first, refusal_cons_of_fault first]

theorem Fields.refusal_of_reservedFirst (both : f.ReservedFirst) :
    f.refusal gatewayChecks = some (.nonZeroReserved f.reserved) ∧
      (f.refusal clientChecks = some (.unknownPacketType f.packetCode) ∨
        f.refusal clientChecks = some (.unknownTargetType f.targetCode)) := by
  obtain ⟨version, reserved, unknown⟩ := both
  have first : Check.version.fault f = none := if_pos version
  have second : Check.reserved.fault f = some (.nonZeroReserved f.reserved) := if_neg reserved
  rw [gatewayChecks, clientChecks, refusal_cons first, refusal_cons first, refusal_cons_of_fault second]
  refine ⟨rfl, ?_⟩
  by_cases known : (PacketType.fromU8 f.packetCode).isSome
  · have packetType : Check.packetType.fault f = none := if_pos known
    have unknown := unknown.resolve_left (Option.isSome_iff_ne_none.mp known)
    have targetType : Check.targetType.fault f = some (.unknownTargetType f.targetCode) :=
      if_neg (by rw [unknown]; simp)
    rw [refusal_cons packetType, refusal_cons_of_fault targetType]
    exact Or.inr rfl
  · have packetType : Check.packetType.fault f = some (.unknownPacketType f.packetCode) := if_neg known
    rw [refusal_cons_of_fault packetType]
    exact Or.inl rfl

end Orders

end WsGateway.Protocol
