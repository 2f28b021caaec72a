import WsGateway.Sdk.Agreement

/-! What the two client encoders say of a call they refuse.

Both look at the arguments in one order. JavaScript measures and tests a text in
its UTF-16 units; Python converts both texts to ASCII first, and a text that has
no conversion ends the call with the error of the conversion.
-/

set_option autoImplicit false

namespace WsGateway.Sdk
open Foundation Protocol

inductive TextFault where
  | tooLong
  /-- A zero, or a character that is not ASCII. -/
  | unclean
  deriving DecidableEq, Repr

def uncleanUnit (unit : UInt16) : Bool := unit == 0 || decide (0x7F < unit)

def textFault (size : Nat) (text : List CodePoint) : Option TextFault :=
  if size < (utf16 text).length then some .tooLong
  else if (utf16 text).any uncleanUnit then some .unclean
  else none

theorem textFault_eq_none {size : Nat} {text : List CodePoint} :
    textFault size text = none ↔ ∃ id : Identifier size, text = id.codePoints := by
  have clean : (utf16 text).any uncleanUnit = false ↔
      ∀ unit ∈ utf16 text, unit ≠ 0 ∧ unit.toNat < 0x80 := by
    simp only [List.any_eq_false, uncleanUnit, Bool.or_eq_true, beq_iff_eq, decide_eq_true_eq, not_or]
    refine forall₂_congr fun unit _ => and_congr_right fun _ => ?_
    rw [UInt16.lt_iff_toNat_lt]
    change ¬ 127 < unit.toNat ↔ unit.toNat < 128
    omega
  calc textFault size text = none
    _ ↔ (utf16 text).length ≤ size ∧ (utf16 text).any uncleanUnit = false := by
      rw [textFault, ← Nat.not_lt, ← Bool.not_eq_true]
      split
      next long => simp only [reduceCtorEq, long, not_true_eq_false, false_and]
      next short => simp only [ite_eq_right_iff, reduceCtorEq, imp_false, short, not_false_eq_true, true_and]
    _ ↔ ∃ id : Identifier size, utf16 text = id.units := by
      rw [clean, Identifier.exists_units_iff]
    _ ↔ ∃ id : Identifier size, text = id.codePoints := exists_congr fun _ => utf16_eq_units

/-- The arguments, in the order in which both encoders look at them. -/
inductive Argument where
  | version
  | packetType
  | targetType
  | sequence
  | payload
  | roomId
  | userId
  deriving DecidableEq, Repr

def callChecks : List Argument :=
  [.version, .packetType, .targetType, .sequence, .payload, .roomId, .userId]

inductive CallRefusal where
  | unsupportedVersion (version : Int)
  | unknownPacketType (pktType : Int)
  | unknownTargetType (tgtType : Int)
  | sequenceOutOfRange (seq : Int)
  | payloadTooLarge (length : Nat)
  | roomId (fault : TextFault) (text : List CodePoint)
  | userId (fault : TextFault) (text : List CodePoint)
  deriving DecidableEq

def Argument.fault (call : Python.Decoded) : Argument → Option CallRefusal
  | .version =>
    if call.version = protocolVersion.toNat then none else some (.unsupportedVersion call.version)
  | .packetType =>
    if call.pktType ∈ Python.validPacketTypes then none else some (.unknownPacketType call.pktType)
  | .targetType =>
    if call.tgtType ∈ Python.validTargetTypes then none else some (.unknownTargetType call.tgtType)
  | .sequence =>
    if 0 ≤ call.seq ∧ call.seq ≤ 0xFFFFFFFF then none else some (.sequenceOutOfRange call.seq)
  | .payload =>
    if call.payload.length ≤ 0xFFFF then none else some (.payloadTooLarge call.payload.length)
  | .roomId => (textFault roomIdLen call.roomId).map fun fault => .roomId fault call.roomId
  | .userId => (textFault userIdLen call.userId).map fun fault => .userId fault call.userId

def callRefusal (call : Python.Decoded) : Option CallRefusal :=
  callChecks.findSome? (Argument.fault call)

theorem callRefusal_eq_none {call : Python.Decoded} :
    callRefusal call = none ↔ ∃ packet : Packet, call = .ofPacket packet := by
  simp only [callRefusal, callChecks, List.findSome?_eq_none_iff, List.forall_mem_cons,
    List.not_mem_nil, false_imp_iff, implies_true, and_true, Argument.fault, ite_eq_left_iff, reduceCtorEq,
    imp_false, not_not, Option.map_eq_none_iff, textFault_eq_none]
  constructor
  · rintro ⟨version, pktType, tgtType, ⟨low, high⟩, fits, ⟨room, roomId⟩, ⟨user, userId⟩⟩
    obtain ⟨packetType, pktType⟩ := PacketType.mem_codes.mp pktType
    obtain ⟨targetType, tgtType⟩ := TargetType.mem_codes.mp tgtType
    obtain ⟨sequence, seq⟩ := exists_uint32 low high
    exact ⟨⟨packetType, targetType, room, user, sequence, call.payload, by omega⟩,
      Python.Decoded.ext version pktType tgtType roomId userId seq rfl⟩
  · rintro ⟨packet, rfl⟩
    have bound := packet.sequence.toNat_lt
    have fits := packet.fits
    exact ⟨rfl, PacketType.mem_codes.mpr ⟨_, rfl⟩, TargetType.mem_codes.mpr ⟨_, rfl⟩,
      ⟨Int.natCast_nonneg _, by simp only [Python.Decoded.ofPacket]; omega⟩,
      by simp only [Python.Decoded.ofPacket]; omega, ⟨_, rfl⟩, ⟨_, rfl⟩⟩

namespace JavaScript

def textReport (fieldName : String) (size : Nat) (text : List CodePoint) : TextFault → EncodeError
  | .tooLong => .fieldTooLong fieldName (utf16 text).length size
  | .unclean => .fieldNotAscii fieldName ((utf16 text).findIdx uncleanUnit) (utf16 text)

def callReport : CallRefusal → EncodeError
  | .unsupportedVersion version => .unsupportedVersion version
  | .unknownPacketType pktType => .unknownPacketType pktType
  | .unknownTargetType tgtType => .unknownTargetType tgtType
  | .sequenceOutOfRange seq => .sequenceOutOfRange seq
  | .payloadTooLarge length => .payloadTooLarge length
  | .roomId fault text => textReport "roomId" roomIdLen text fault
  | .userId fault text => textReport "userId" userIdLen text fault

theorem packAsciiField_reports (fieldName : String) (size : Nat) (text : List CodePoint) :
    Reports (textReport fieldName size text) (textFault size text)
      (packAsciiField (utf16 text) size fieldName) := by
  unfold packAsciiField textFault
  by_cases long : size < (utf16 text).length
  · rw [if_pos long, if_pos long]
    rfl
  · rw [if_neg long, if_neg long]
    by_cases unclean : (utf16 text).any uncleanUnit = true
    · obtain ⟨index, found⟩ := Option.isSome_iff_exists.mp (List.findIdx?_isSome.trans unclean)
      have seen : (utf16 text).findIdx? (fun code => code == 0 || decide (0x7F < code)) = some index :=
        found
      rw [if_pos unclean, seen]
      show _ = _
      rw [textReport, (List.findIdx?_eq_some_iff_findIdx_eq.mp found).2]
    · have clean : (utf16 text).findIdx? (fun code => code == 0 || decide (0x7F < code)) = none := by
        rw [← Option.not_isSome_iff_eq_none, List.findIdx?_isSome]
        exact unclean
      rw [if_neg unclean, clean]
      exact ⟨_, rfl⟩

theorem encode_raises (call : Python.Decoded) :
    Raises callReport (callRefusal call)
      (encode call.version call.pktType call.tgtType (utf16 call.roomId) (utf16 call.userId)
        call.seq call.payload) := by
  unfold callRefusal callChecks encode
  refine raises_guard (CallRefusal.unsupportedVersion call.version) rfl Iff.rfl ?_
  refine raises_guard (CallRefusal.unknownPacketType call.pktType) rfl Iff.rfl ?_
  refine raises_guard (CallRefusal.unknownTargetType call.tgtType) rfl Iff.rfl ?_
  refine raises_guard (CallRefusal.sequenceOutOfRange call.seq) rfl (by omega) ?_
  refine raises_guard (CallRefusal.payloadTooLarge call.payload.length) rfl (by omega) ?_
  refine raises_bind (reports_map (packAsciiField_reports "roomId" _ _)) fun roomField => ?_
  exact raises_bind (reports_map (packAsciiField_reports "userId" _ _)) fun userField => raises_nil

end JavaScript

namespace Python

abbrev AsciiText (text : List CodePoint) : Prop := ∀ point ∈ text, point.val < 0x80

def textReport (fieldName : String) (size : Nat) (text : List CodePoint) : TextFault → EncodeError
  | .tooLong => .fieldTooLong fieldName text.length size
  | .unclean => .fieldNotAscii fieldName (text.map fun point => UInt8.ofNat point.val)

/-- The error of the conversion comes before any error of a text. -/
def addressReport (call : Decoded) (error : EncodeError) : EncodeError :=
  if AsciiText call.roomId ∧ AsciiText call.userId then error else .unicodeEncode

def callReport (call : Decoded) : CallRefusal → EncodeError
  | .unsupportedVersion version => .unsupportedVersion version
  | .unknownPacketType pktType => .unknownPacketType pktType
  | .unknownTargetType tgtType => .unknownTargetType tgtType
  | .sequenceOutOfRange seq => .sequenceOutOfRange seq
  | .payloadTooLarge length => .payloadTooLarge length
  | .roomId fault text => addressReport call (textReport "room_id" roomIdLen text fault)
  | .userId fault text => addressReport call (textReport "user_id" userIdLen text fault)

theorem encodeAscii_of_ascii {text : List CodePoint} (ascii : AsciiText text) :
    encodeAscii text = .ok (text.map fun point => UInt8.ofNat point.val) :=
  if_pos (by simpa using ascii)

theorem encodeAscii_of_not_ascii {text : List CodePoint} (foreign : ¬ AsciiText text) :
    encodeAscii text = .error .unicodeEncode :=
  if_neg (by simpa using foreign)

theorem uncleanUnit_toUInt16 (b : UInt8) :
    uncleanUnit b.toUInt16 = (b == 0 || decide (0x7F < b)) := by
  have zero : (b.toUInt16 == 0) = (b == 0) := by
    rw [Bool.eq_iff_iff, beq_iff_eq, beq_iff_eq, ← UInt16.toNat_inj, ← UInt8.toNat_inj,
      UInt8.toNat_toUInt16]
    rfl
  have high : (0x7F < b.toUInt16) ↔ 0x7F < b := by
    rw [UInt16.lt_iff_toNat_lt, UInt8.lt_iff_toNat_lt, UInt8.toNat_toUInt16]
    rfl
  rw [uncleanUnit, zero, decide_eq_decide.mpr high]

theorem validateAsciiField_reports (fieldName : String) (size : Nat) {text : List CodePoint}
    (ascii : AsciiText text) :
    Reports (textReport fieldName size text) (textFault size text)
      (validateAsciiField (text.map fun point => UInt8.ofNat point.val) size fieldName) := by
  obtain ⟨bytes, _, rfl⟩ := exists_bytes_of_small ascii
  have unclean : (bytes.map UInt8.toUInt16).any uncleanUnit =
      bytes.any fun b => b == 0 || decide (0x7F < b) := by
    rw [List.any_map]
    exact List.any_congr rfl uncleanUnit_toUInt16
  rw [map_ofNat_byteCodePoint, textFault, utf16_ascii, List.length_map, unclean, validateAsciiField]
  split
  next =>
    show _ = _
    rw [textReport, List.length_map]
  next =>
    split
    next =>
      show _ = _
      rw [textReport, map_ofNat_byteCodePoint]
    next => exact ⟨_, rfl⟩

theorem encode_raises (call : Decoded) :
    Raises (callReport call) (callRefusal call)
      (encode call.version call.pktType call.tgtType call.roomId call.userId call.seq
        call.payload) := by
  unfold callRefusal callChecks encode
  refine raises_guard (CallRefusal.unsupportedVersion call.version) rfl Iff.rfl ?_
  refine raises_guard (CallRefusal.unknownPacketType call.pktType) rfl Iff.rfl ?_
  refine raises_guard (CallRefusal.unknownTargetType call.tgtType) rfl Iff.rfl ?_
  refine raises_guard (CallRefusal.sequenceOutOfRange call.seq) rfl (by omega) ?_
  refine raises_guard (CallRefusal.payloadTooLarge call.payload.length) rfl (by omega) ?_
  by_cases ascii : AsciiText call.roomId ∧ AsciiText call.userId
  · have plain (error : EncodeError) : addressReport call error = error := if_pos ascii
    have room := validateAsciiField_reports "room_id" roomIdLen ascii.1
    have user := validateAsciiField_reports "user_id" userIdLen ascii.2
    rw [encodeAscii_of_ascii ascii.1, encodeAscii_of_ascii ascii.2, except_ok_bind, except_ok_bind]
    refine raises_bind (reports_map ?_) fun paddedRoom => ?_
    · simpa only [callReport, plain] using room
    refine raises_bind (reports_map ?_) fun paddedUser => raises_nil
    simpa only [callReport, plain] using user
  · have foreign (error : EncodeError) : addressReport call error = .unicodeEncode := if_neg ascii
    intro refusal found
    have address : callReport call refusal = .unicodeEncode := by
      simp only [findSome?_cons_eq_some, Argument.fault, List.findSome?_nil, Option.map_eq_some_iff,
        reduceCtorEq, and_false, or_false] at found
      rcases found with ⟨fault, _, rfl⟩ | ⟨_, fault, _, rfl⟩
      · exact foreign _
      · exact foreign _
    rw [address]
    by_cases room : AsciiText call.roomId
    · have user : ¬ AsciiText call.userId := fun user => ascii ⟨room, user⟩
      rw [encodeAscii_of_ascii room, encodeAscii_of_not_ascii user]
      rfl
    · rw [encodeAscii_of_not_ascii room]
      rfl

end Python

section Agreement

/-- A call that is refused is refused by both encoders for the first argument that is
wrong, apart from Python's conversion of texts that are not ASCII. -/
theorem encode_refusals_agree (call : Python.Decoded)
    (refused : ∀ wire, Python.encode call.version call.pktType call.tgtType call.roomId call.userId
      call.seq call.payload ≠ .ok wire) :
    ∃ refusal, callRefusal call = some refusal ∧
      JavaScript.encode call.version call.pktType call.tgtType (utf16 call.roomId)
        (utf16 call.userId) call.seq call.payload = .error (JavaScript.callReport refusal) ∧
      Python.encode call.version call.pktType call.tgtType call.roomId call.userId call.seq
        call.payload = .error (Python.callReport call refusal) := by
  obtain ⟨refusal, first⟩ : ∃ refusal, callRefusal call = some refusal := by
    refine Option.ne_none_iff_exists'.mp fun passed => ?_
    obtain ⟨packet, rfl⟩ := callRefusal_eq_none.mp passed
    exact refused packet.layout (Python.encode_eq_ok.mpr ⟨packet, rfl, rfl⟩)
  exact ⟨refusal, first, JavaScript.encode_raises call refusal first,
    Python.encode_raises call refusal first⟩

def longAndForeign : Python.Decoded :=
  ⟨2, 4, 1, codePoints "sevenup", [byteCodePoint 233], 0, []⟩

theorem encode_refusals_agree_foreign :
    JavaScript.encode 2 4 1 (utf16 longAndForeign.roomId) (utf16 longAndForeign.userId) 0 [] =
        .error (.fieldTooLong "roomId" 7 6) ∧
      Python.encode 2 4 1 longAndForeign.roomId longAndForeign.userId 0 [] = .error .unicodeEncode := by
  have refused (wire : Bytes) : Python.encode 2 4 1 longAndForeign.roomId longAndForeign.userId 0 [] ≠
      .ok wire := by
    rw [show Python.encode 2 4 1 longAndForeign.roomId longAndForeign.userId 0 [] =
      .error .unicodeEncode by decide +kernel]
    exact nofun
  obtain ⟨refusal, first, javaScript, python⟩ := encode_refusals_agree longAndForeign refused
  have long : callRefusal longAndForeign = some (.roomId .tooLong longAndForeign.roomId) := by
    decide +kernel
  obtain rfl := Option.some.inj (long.symm.trans first)
  have foreign : ¬ (Python.AsciiText longAndForeign.roomId ∧ Python.AsciiText longAndForeign.userId) :=
    fun ascii => absurd (ascii.2 (byteCodePoint 233) List.mem_cons_self) (by decide)
  have seven : (utf16 longAndForeign.roomId).length = 7 := by decide +kernel
  rw [JavaScript.callReport, JavaScript.textReport, seven] at javaScript
  rw [Python.callReport, Python.addressReport, if_neg foreign] at python
  exact ⟨javaScript, python⟩

end Agreement

end WsGateway.Sdk
