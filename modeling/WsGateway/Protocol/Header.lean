import WsGateway.Foundation.Outcome
import WsGateway.Foundation.Text

/-! The header crate: packet headers, their encoder and their decoder.

Decoding runs in `Outcome`, where an index, a slice bound, an array conversion
or a subtraction that does not hold aborts instead of returning an error.
-/

set_option autoImplicit false

namespace WsGateway.Protocol
open Foundation

def protocolVersion : UInt8 := 0x02
def headerLen : Nat := 24
def roomIdLen : Nat := 6
def userIdLen : Nat := 8

inductive PacketType where
  | rawMotion
  | aiEvent
  | systemCmd
  | heartbeat
  deriving DecidableEq, Repr

def PacketType.asU8 : PacketType → UInt8
  | .rawMotion => 0x01
  | .aiEvent => 0x02
  | .systemCmd => 0x03
  | .heartbeat => 0x04

def PacketType.fromU8 (v : UInt8) : Option PacketType :=
  if v = 0x01 then some .rawMotion
  else if v = 0x02 then some .aiEvent
  else if v = 0x03 then some .systemCmd
  else if v = 0x04 then some .heartbeat
  else none

inductive TargetType where
  | broadcast
  | unicast
  deriving DecidableEq, Repr

def TargetType.asU8 : TargetType → UInt8
  | .broadcast => 0x01
  | .unicast => 0x02

def TargetType.fromU8 (v : UInt8) : Option TargetType :=
  if v = 0x01 then some .broadcast
  else if v = 0x02 then some .unicast
  else none

theorem PacketType.fromU8_eq_some {v : UInt8} {type : PacketType} :
    fromU8 v = some type ↔ v = type.asU8 := by
  constructor
  · intro known
    unfold fromU8 at known
    split at known
    · cases known; assumption
    · split at known
      · cases known; assumption
      · split at known
        · cases known; assumption
        · split at known
          · cases known; assumption
          · cases known
  · rintro rfl
    cases type <;> rfl

theorem TargetType.fromU8_eq_some {v : UInt8} {type : TargetType} :
    fromU8 v = some type ↔ v = type.asU8 := by
  constructor
  · intro known
    unfold fromU8 at known
    split at known
    · cases known; assumption
    · split at known
      · cases known; assumption
      · cases known
  · rintro rfl
    cases type <;> rfl

@[simp] theorem PacketType.fromU8_asU8 (type : PacketType) : fromU8 type.asU8 = some type :=
  fromU8_eq_some.mpr rfl

@[simp] theorem TargetType.fromU8_asU8 (type : TargetType) : fromU8 type.asU8 = some type :=
  fromU8_eq_some.mpr rfl

theorem PacketType.mem_codes {code : Int} :
    code ∈ [0x01, 0x02, 0x03, 0x04] ↔ ∃ type : PacketType, code = type.asU8.toNat := by
  constructor
  · intro member
    simp only [List.mem_cons, List.not_mem_nil, or_false] at member
    rcases member with rfl | rfl | rfl | rfl
    · exact ⟨.rawMotion, rfl⟩
    · exact ⟨.aiEvent, rfl⟩
    · exact ⟨.systemCmd, rfl⟩
    · exact ⟨.heartbeat, rfl⟩
  · rintro ⟨type, rfl⟩
    cases type <;> decide

theorem TargetType.mem_codes {code : Int} :
    code ∈ [0x01, 0x02] ↔ ∃ type : TargetType, code = type.asU8.toNat := by
  constructor
  · intro member
    simp only [List.mem_cons, List.not_mem_nil, or_false] at member
    rcases member with rfl | rfl
    · exact ⟨.broadcast, rfl⟩
    · exact ⟨.unicast, rfl⟩
  · rintro ⟨type, rfl⟩
    cases type <;> decide

structure PacketHeader where
  version : UInt8
  packetType : PacketType
  targetType : TargetType
  roomId : List.Vector UInt8 roomIdLen
  userId : List.Vector UInt8 userIdLen
  sequence : UInt32
  length : UInt16
  deriving DecidableEq

inductive EncodeError where
  | invalidRoomId
  | invalidUserId
  | payloadTooLarge
  deriving DecidableEq, Repr

inductive DecodeError where
  | tooShort
  | unsupportedVersion (version : UInt8)
  | nonZeroReserved (reserved : UInt8)
  | unknownPacketType (code : UInt8)
  | unknownTargetType (code : UInt8)
  | nonAsciiRoomId
  | nonAsciiUserId
  | lengthMismatch (declared : UInt16) (actual : Nat)
  deriving DecidableEq, Repr

section AsciiFields

def isAscii (s : String) : Bool := (utf8 s).all fun b => decide (Ascii b)

/-- Zeros are allowed inside `s`: only ASCII and the length are checked. -/
def packAsciiField (size : Nat) (s : String) : Option (List.Vector UInt8 size) :=
  if rejected : isAscii s = false ∨ size < (utf8 s).length then none
  else some ⟨overwrite (List.replicate size 0) 0 (utf8 s), by
    rw [length_overwrite, List.length_replicate]
    rw [List.length_replicate]
    omega⟩

def firstZero (field : Bytes) : Nat :=
  (field.findIdx? fun b => b == 0).getD field.length

def isValidAsciiField (field : Bytes) : Bool :=
  (field.take (firstZero field)).all (fun b => decide (Ascii b) && b != 0) &&
    (field.drop (firstZero field)).all fun b => b == 0

-- Bytes that are not UTF-8 read as the empty text; nothing aborts here.
def asciiFieldStr (field : Bytes) : String :=
  (fromUtf8 (field.take (firstZero field))).getD ""

end AsciiFields

namespace PacketHeader

def new (packetType : PacketType) (targetType : TargetType) (roomId userId : String)
    (sequence : UInt32) (payloadLen : Nat) : Except EncodeError PacketHeader :=
  match packAsciiField roomIdLen roomId with
  | none => .error .invalidRoomId
  | some roomId =>
    match packAsciiField userIdLen userId with
    | none => .error .invalidUserId
    | some userId =>
      if payloadLen < 0x10000 then
        .ok {
          version := protocolVersion
          packetType, targetType, roomId, userId, sequence
          length := UInt16.ofNat payloadLen }
      else .error .payloadTooLarge

def roomIdStr (header : PacketHeader) : String := asciiFieldStr header.roomId.toList

def userIdStr (header : PacketHeader) : String := asciiFieldStr header.userId.toList

def encodeHeader (header : PacketHeader) : Bytes :=
  let buf := List.replicate headerLen (0 : UInt8)
  let buf := buf.set 0 header.version
  let buf := buf.set 1 header.packetType.asU8
  let buf := buf.set 2 header.targetType.asU8
  let buf := buf.set 3 0
  let buf := overwrite buf 4 header.roomId.toList
  let buf := overwrite buf 10 header.userId.toList
  let buf := overwrite buf 18 (bigEndian 4 header.sequence.toNat)
  overwrite buf 22 (bigEndian 2 header.length.toNat)

def encode (header : PacketHeader) (payload : Bytes) : Bytes :=
  header.encodeHeader ++ payload

def decode (buf : Bytes) : Outcome DecodeError (PacketHeader × Bytes) := do
  Outcome.require (headerLen ≤ buf.length) .tooShort
  let version ← Outcome.index buf 0
  Outcome.require (version = protocolVersion) (.unsupportedVersion version)
  -- The reserved byte is checked before the two types in front of it.
  let reserved ← Outcome.index buf 3
  Outcome.require (reserved = 0x00) (.nonZeroReserved reserved)
  let packetCode ← Outcome.index buf 1
  let packetType ← Outcome.okOr (PacketType.fromU8 packetCode) (.unknownPacketType packetCode)
  let targetCode ← Outcome.index buf 2
  let targetType ← Outcome.okOr (TargetType.fromU8 targetCode) (.unknownTargetType targetCode)
  let roomId ← Outcome.array roomIdLen (← Outcome.slice buf 4 10)
  Outcome.require (isValidAsciiField roomId.toList = true) .nonAsciiRoomId
  let userId ← Outcome.array userIdLen (← Outcome.slice buf 10 18)
  Outcome.require (isValidAsciiField userId.toList = true) .nonAsciiUserId
  -- `try_into` checks the length of a slice, and `unwrap` aborts on another one.
  let sequenceBytes ← Outcome.array 4 (← Outcome.slice buf 18 22)
  let sequence := UInt32.ofNat (ofBigEndian sequenceBytes.toList)
  let lengthBytes ← Outcome.array 2 (← Outcome.slice buf 22 24)
  let length := UInt16.ofNat (ofBigEndian lengthBytes.toList)
  let actualPayloadLen ← Outcome.subtract buf.length headerLen
  Outcome.require (actualPayloadLen = length.toNat) (.lengthMismatch length actualPayloadLen)
  let payload ← Outcome.slice buf headerLen buf.length
  pure ({ version, packetType, targetType, roomId, userId, sequence, length }, payload)

end PacketHeader

end WsGateway.Protocol
