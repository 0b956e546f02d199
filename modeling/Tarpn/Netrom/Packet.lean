import Tarpn.Ax25
import Mathlib.Tactic.IntervalCases

/-!
The NET/ROM packet format of `tarpn/netrom/__init__.py`: the op byte, the four packet classes,
their `buffer`, and `parse_netrom_packet`. The parser's `if`/`elif` chain has a branch for six
op types; every other op byte falls through to the implicit `None`, which the model keeps as
`none`.
-/

namespace Tarpn.Netrom

open CallCodec

/-- `OpType`, the low nibble of the op byte. -/
inductive OpType
  | Unknown
  | ConnectRequest
  | ConnectAcknowledge
  | DisconnectRequest
  | DisconnectAcknowledge
  | Information
  | InformationAcknowledge
  deriving DecidableEq, Repr

namespace OpType

/-- The member values; `DisconnectRequest = 0x03,` is the tuple `(3,)`, which the enum unpacks
    to 3. -/
def value : OpType → Nat
  | Unknown => 0x00
  | ConnectRequest => 0x01
  | ConnectAcknowledge => 0x02
  | DisconnectRequest => 0x03
  | DisconnectAcknowledge => 0x04
  | Information => 0x05
  | InformationAcknowledge => 0x06

/-- `OpType.__members__.values()`, in declaration order. -/
def members : List OpType :=
  [Unknown, ConnectRequest, ConnectAcknowledge, DisconnectRequest, DisconnectAcknowledge, Information,
    InformationAcknowledge]

/-- `OpType.create(op_byte)`: the member whose value is `op_byte & 0x0F`, or `Unknown`. -/
def create (opByte : Nat) : OpType :=
  match members.find? (·.value = opByte &&& 0x0F) with
  | some member => member
  | none => Unknown

theorem create_eq (opByte : Nat) :
    create opByte = match opByte % 16 with
      | 1 => ConnectRequest | 2 => ConnectAcknowledge | 3 => DisconnectRequest
      | 4 => DisconnectAcknowledge | 5 => Information | 6 => InformationAcknowledge | _ => Unknown := by
  have nibble : opByte &&& 0x0F = opByte % 16 := Nat.and_pow_two_sub_one_eq_mod opByte 4
  have small : opByte % 16 < 16 := Nat.mod_lt _ (by omega)
  unfold create
  rw [nibble]
  generalize opByte % 16 = n at small ⊢
  interval_cases n <;> rfl

/-- `as_op_byte(choke, nak, more_follows)`: the op type's value with the choke, NAK and
    more-follows flags in bits 7, 6 and 5. -/
def asOpByte (t : OpType) (choke nak moreFollows : Bool) : Nat :=
  ((t.value ||| (choke.toNat <<< 7)) ||| (nak.toNat <<< 6)) ||| (moreFollows.toNat <<< 5)

end OpType

/-- The fields of `NetRomPacket`, which every subclass carries first. -/
structure NetRomHeader where
  dest : AX25Call
  source : AX25Call
  ttl : Nat
  circuitIdx : Nat
  circuitId : Nat
  txSeqNum : Nat
  rxSeqNum : Nat
  opByte : Nat
  deriving DecidableEq, Repr

/-- A packet of one of the four dataclasses. Dataclass equality compares classes first, so
    packets of two classes are never equal. -/
inductive NetRomPacket
  /-- `NetRomPacket` itself. -/
  | base (header : NetRomHeader)
  /-- `NetRomConnectRequest`. -/
  | connectRequest (header : NetRomHeader) (proposedWindowSize : Nat) (originUser originNode : AX25Call)
  /-- `NetRomConnectAck`. -/
  | connectAck (header : NetRomHeader) (acceptWindowSize : Nat)
  /-- `NetRomInfo`. -/
  | info (header : NetRomHeader) (info : List UInt8)
  deriving DecidableEq, Repr

namespace NetRomPacket

/-- The `NetRomPacket` fields of a packet of any class. -/
def header : NetRomPacket → NetRomHeader
  | base h => h
  | connectRequest h .. => h
  | connectAck h _ => h
  | info h _ => h

/-- `packet.dest`. -/
def dest (p : NetRomPacket) : AX25Call := p.header.dest

/-- `packet.ttl`. -/
def ttl (p : NetRomPacket) : Nat := p.header.ttl

/-- `packet.op_type()`. -/
def opType (p : NetRomPacket) : OpType := OpType.create p.header.opByte

/-- `packet.choke()`. -/
def choke (p : NetRomPacket) : Bool := p.header.opByte &&& 0x80 == 0x80

/-- `packet.nak()`. -/
def nak (p : NetRomPacket) : Bool := p.header.opByte &&& 0x40 == 0x40

/-- `packet.more_follows()`. -/
def moreFollows (p : NetRomPacket) : Bool := p.header.opByte &&& 0x20 == 0x20

/-- `b.append(x)`: the byte, or `ValueError` for an int outside `[0, 255]`. -/
def appendByte (x : Nat) : Except PyError UInt8 :=
  if x < 256 then .ok x.toUInt8 else .error .valueError

/-- The bytes every `buffer` starts with: source, dest, then the six header bytes. -/
def headerBytes (codec : CallCodec) (h : NetRomHeader) : Except PyError (List UInt8) := do
  let ttl ← appendByte h.ttl
  let circuitIdx ← appendByte h.circuitIdx
  let circuitId ← appendByte h.circuitId
  let txSeqNum ← appendByte h.txSeqNum
  let rxSeqNum ← appendByte h.rxSeqNum
  let opByte ← appendByte h.opByte
  pure (codec.write h.source ++ codec.write h.dest ++ [ttl, circuitIdx, circuitId, txSeqNum, rxSeqNum, opByte])

/-- `packet.buffer`, each class's own. -/
def buffer (codec : CallCodec) : NetRomPacket → Except PyError (List UInt8)
  | base h => headerBytes codec h
  | connectRequest h proposedWindowSize originUser originNode => do
    let head ← headerBytes codec h
    let window ← appendByte proposedWindowSize
    pure (head ++ [window] ++ codec.write originUser ++ codec.write originNode)
  | connectAck h acceptWindowSize => do
    let head ← headerBytes codec h
    let window ← appendByte acceptWindowSize
    pure (head ++ [window])
  | info h payload => do
    let head ← headerBytes codec h
    pure (head ++ payload)

end NetRomPacket

open NetRomPacket

/-- The `if`/`elif` chain of `parse_netrom_packet` on `OpType.create(op_byte)`, reading what
    follows the header. -/
def readBody (codec : CallCodec) (header : NetRomHeader) : ByteReader (Option NetRomPacket) := do
  let opType := OpType.create header.opByte
  if opType = .ConnectRequest then
    let proposedWindowSize ← next
    let originUser ← codec.parseAx25Call
    let originNode ← codec.parseAx25Call
    pure (some (connectRequest header proposedWindowSize.toNat originUser originNode))
  else if opType = .ConnectAcknowledge then
    let acceptWindowSize ← next
    pure (some (connectAck header acceptWindowSize.toNat))
  else if opType = .Information then
    let payload ← remaining
    pure (some (NetRomPacket.info header payload))
  else if opType ∈ [.InformationAcknowledge, .DisconnectRequest, .DisconnectAcknowledge] then
    pure (some (base header))
  else
    pure none

/-- The body of `parse_netrom_packet`, reading from `iter(data)`. -/
def readNetromPacket (codec : CallCodec) : ByteReader (Option NetRomPacket) := do
  let origin ← codec.parseAx25Call
  let dest ← codec.parseAx25Call
  let ttl ← next
  let circuitIdx ← next
  let circuitId ← next
  let txSeqNum ← next
  let rxSeqNum ← next
  let opByte ← next
  readBody codec
    ⟨dest, origin, ttl.toNat, circuitIdx.toNat, circuitId.toNat, txSeqNum.toNat, rxSeqNum.toNat, opByte.toNat⟩

/-- `parse_netrom_packet(data)`; `none` is the `None` it falls through to. -/
def parseNetromPacket (codec : CallCodec) (data : List UInt8) : Except PyError (Option NetRomPacket) :=
  (readNetromPacket codec).run' data

/-! ### Reading a buffer back -/

/-- The six header ints, in `buffer` order. -/
def NetRomHeader.fields (h : NetRomHeader) : List Nat :=
  [h.ttl, h.circuitIdx, h.circuitId, h.txSeqNum, h.rxSeqNum, h.opByte]

namespace NetRomPacket

/-- The calls a packet's `buffer` writes. -/
def calls : NetRomPacket → List AX25Call
  | base h => [h.source, h.dest]
  | connectRequest h _ originUser originNode => [h.source, h.dest, originUser, originNode]
  | connectAck h _ => [h.source, h.dest]
  | info h _ => [h.source, h.dest]

/-- The ints a packet's `buffer` appends one byte each. -/
def byteFields : NetRomPacket → List Nat
  | base h => h.fields
  | connectRequest h proposedWindowSize .. => h.fields ++ [proposedWindowSize]
  | connectAck h acceptWindowSize => h.fields ++ [acceptWindowSize]
  | info h _ => h.fields

/-- The class goes with the op byte: `ConnectRequest`, `ConnectAcknowledge` and `Information`
    have a class of their own, and every other op byte, undefined nibbles included, a plain
    `NetRomPacket`. -/
def ClassFits : NetRomPacket → Prop
  | base h => OpType.create h.opByte ∉ [.ConnectRequest, .ConnectAcknowledge, .Information]
  | connectRequest h .. => OpType.create h.opByte = .ConnectRequest
  | connectAck h _ => OpType.create h.opByte = .ConnectAcknowledge
  | info h _ => OpType.create h.opByte = .Information

instance (p : NetRomPacket) : Decidable p.ClassFits :=
  match p with
  | base h => inferInstanceAs (Decidable (OpType.create h.opByte ∉ _))
  | connectRequest h .. => inferInstanceAs (Decidable (OpType.create h.opByte = _))
  | connectAck h _ => inferInstanceAs (Decidable (OpType.create h.opByte = _))
  | info h _ => inferInstanceAs (Decidable (OpType.create h.opByte = _))

end NetRomPacket

/-- A well-formed packet: calls that read back from their bytes, every field `buffer` appends a
    byte, and a class that goes with the op byte. -/
structure WellFormed (codec : CallCodec) (p : NetRomPacket) : Prop where
  calls : ∀ c ∈ p.calls, codec.RoundTrips c
  bytes : ∀ x ∈ p.byteFields, x < 256
  fits : p.ClassFits

theorem appendByte_of_lt {x : Nat} (small : x < 256) : appendByte x = .ok x.toUInt8 := if_pos small

private theorem small_fields {h : NetRomHeader} (small : ∀ x ∈ h.fields, x < 256) :
    h.ttl < 256 ∧ h.circuitIdx < 256 ∧ h.circuitId < 256 ∧ h.txSeqNum < 256 ∧ h.rxSeqNum < 256 ∧
      h.opByte < 256 := by
  simpa [NetRomHeader.fields] using small

theorem headerBytes_eq {codec : CallCodec} {h : NetRomHeader} (small : ∀ x ∈ h.fields, x < 256) :
    headerBytes codec h = .ok (codec.write h.source ++ codec.write h.dest ++ h.fields.map Nat.toUInt8) := by
  obtain ⟨b1, b2, b3, b4, b5, b6⟩ := small_fields small
  simp [headerBytes, appendByte_of_lt, b1, b2, b3, b4, b5, b6, NetRomHeader.fields]

/-- The header reads back from the bytes `buffer` starts with, each call as the codec decodes
    its seven bytes; what follows goes to the op-type chain. -/
theorem readNetromPacket_run (codec : CallCodec) {h : NetRomHeader} (small : ∀ x ∈ h.fields, x < 256)
    (tail : List UInt8) :
    (readNetromPacket codec).run (codec.write h.source ++ codec.write h.dest ++ h.fields.map Nat.toUInt8 ++ tail) =
      (readBody codec
        { h with source := codec.decode (codec.write h.source), dest := codec.decode (codec.write h.dest) }).run tail := by
  obtain ⟨b1, b2, b3, b4, b5, b6⟩ := small_fields small
  simp [readNetromPacket, NetRomHeader.fields, List.append_assoc, parseAx25Call_append, toNat_toUInt8_of_lt,
    b1, b2, b3, b4, b5, b6]

/-- With calls that read back, the header itself. -/
theorem readNetromPacket_header {codec : CallCodec} {h : NetRomHeader} (source : codec.RoundTrips h.source)
    (dest : codec.RoundTrips h.dest) (small : ∀ x ∈ h.fields, x < 256) (tail : List UInt8) :
    (readNetromPacket codec).run (codec.write h.source ++ codec.write h.dest ++ h.fields.map Nat.toUInt8 ++ tail) =
      (readBody codec h).run tail := by
  rw [readNetromPacket_run codec small, source, dest]

/-- A packet of an op type the chain has a branch for reads back from its `buffer`, class and
    every field included. -/
theorem readBody_buffer {codec : CallCodec} {p : NetRomPacket} (wf : WellFormed codec p)
    (defined : OpType.create p.header.opByte ≠ .Unknown) :
    ∃ tail, p.buffer codec = .ok (codec.write p.header.source ++ codec.write p.header.dest ++
      p.header.fields.map Nat.toUInt8 ++ tail) ∧ (readBody codec p.header).run' tail = .ok (some p) := by
  obtain ⟨calls, bytes, fits⟩ := wf
  cases p with
  | base h =>
    refine ⟨[], by simpa [buffer, header] using headerBytes_eq bytes, ?_⟩
    simp only [ClassFits, List.mem_cons, List.mem_singleton, List.not_mem_nil, or_false, not_or] at fits
    cases op : OpType.create h.opByte <;> simp_all [readBody, header]
  | connectRequest h w user node =>
    simp only [byteFields, NetRomPacket.calls, List.mem_append, List.mem_cons, List.mem_singleton,
      List.not_mem_nil, or_false, forall_eq_or_imp, forall_eq] at bytes calls
    have op : OpType.create h.opByte = .ConnectRequest := fits
    refine ⟨[w.toUInt8] ++ codec.write user ++ codec.write node, ?_, ?_⟩
    · simp [buffer, header, headerBytes_eq fun x mem => bytes x (.inl mem), appendByte_of_lt (bytes w (.inr rfl))]
    · simp [readBody, header, op, StateT.run'_eq, parseAx25Call_write calls.2.2.1,
        parseAx25Call_write_self calls.2.2.2, toNat_toUInt8_of_lt (bytes w (.inr rfl))]
  | connectAck h w =>
    simp only [byteFields, List.mem_append, List.mem_singleton] at bytes
    have op : OpType.create h.opByte = .ConnectAcknowledge := fits
    refine ⟨[w.toUInt8], ?_, ?_⟩
    · simp [buffer, header, headerBytes_eq fun x mem => bytes x (.inl mem), appendByte_of_lt (bytes w (.inr rfl))]
    · simp [readBody, header, op, StateT.run'_eq, toNat_toUInt8_of_lt (bytes w (.inr rfl))]
  | info h payload =>
    have op : OpType.create h.opByte = .Information := fits
    refine ⟨payload, by simp [buffer, header, headerBytes_eq bytes], ?_⟩
    simp [readBody, header, op, StateT.run'_eq]

theorem header_mem_calls (p : NetRomPacket) : p.header.source ∈ p.calls ∧ p.header.dest ∈ p.calls := by
  cases p <;> simp [NetRomPacket.calls, header]

theorem header_fields_subset (p : NetRomPacket) : ∀ x ∈ p.header.fields, x ∈ p.byteFields := by
  cases p <;> intro x mem <;> simp only [header] at mem <;> simp [byteFields, mem]

/-- `parse_netrom_packet` reads every well-formed packet of an op type its chain has a branch
    for back from its `buffer`: the same class and every field, the op byte included. -/
theorem parse_buffer_defined {codec : CallCodec} {p : NetRomPacket} (wf : WellFormed codec p)
    (defined : OpType.create p.header.opByte ≠ .Unknown) :
    (p.buffer codec >>= parseNetromPacket codec) = .ok (some p) := by
  obtain ⟨tail, written, body⟩ := readBody_buffer wf defined
  have small : ∀ x ∈ p.header.fields, x < 256 := fun x mem => wf.bytes x (header_fields_subset p x mem)
  rw [written, ok_bind, parseNetromPacket, StateT.run'_eq, readNetromPacket_header
    (wf.calls _ (header_mem_calls p).1) (wf.calls _ (header_mem_calls p).2) small, ← StateT.run'_eq, body]

/-- A packet whose op type is `Unknown` (op nibble 0 or 7 to 15), whose class goes with it and
    whose fields are bytes reads back from its `buffer` as the `None` the chain falls through to,
    whatever its calls. -/
theorem parse_buffer_unknown {codec : CallCodec} {p : NetRomPacket} (bytes : ∀ x ∈ p.byteFields, x < 256)
    (fits : p.ClassFits) (unknown : OpType.create p.header.opByte = .Unknown) :
    (p.buffer codec >>= parseNetromPacket codec) = .ok none := by
  cases p with
  | base h =>
    have op : OpType.create h.opByte = .Unknown := unknown
    have read := readNetromPacket_run codec bytes []
    rw [List.append_nil] at read
    rw [buffer, headerBytes_eq bytes, ok_bind, parseNetromPacket, StateT.run'_eq, read]
    simp [readBody, op]
  | connectRequest h _ _ _ | connectAck h _ | info h _ =>
    exact absurd ((fits : OpType.create h.opByte = _).symm.trans unknown) (by decide)

/-- The packet with every header byte 0, op type `Unknown`, reads back from its `buffer` as
    `None`, whatever its calls. -/
theorem parse_buffer_unknown_op (codec : CallCodec) (dest source : AX25Call) :
    ((NetRomPacket.base ⟨dest, source, 0, 0, 0, 0, 0, 0⟩).buffer codec >>= parseNetromPacket codec) = .ok none := by
  have unknown : OpType.create 0 = .Unknown := by decide
  exact parse_buffer_unknown (by simp [byteFields, NetRomHeader.fields]) (by simp [ClassFits, unknown]) unknown

/-! ### What the parser accepts -/

/-- The header `parse_netrom_packet` reads: two calls and six bytes, whatever the bytes were. -/
theorem readNetromPacket_ok {codec : CallCodec} {data rest : List UInt8} {p : NetRomPacket}
    (read : (readNetromPacket codec).run data = .ok (some p, rest)) :
    ∃ h it, (∀ x ∈ h.fields, x < 256) ∧ (readBody codec h).run it = .ok (some p, rest) := by
  obtain ⟨_, _, -, read⟩ := run_bind_ok.1 read
  obtain ⟨_, _, -, read⟩ := run_bind_ok.1 read
  obtain ⟨ttl, _, -, read⟩ := run_bind_ok.1 read
  obtain ⟨circuitIdx, _, -, read⟩ := run_bind_ok.1 read
  obtain ⟨circuitId, _, -, read⟩ := run_bind_ok.1 read
  obtain ⟨txSeqNum, _, -, read⟩ := run_bind_ok.1 read
  obtain ⟨rxSeqNum, _, -, read⟩ := run_bind_ok.1 read
  obtain ⟨opByte, _, -, read⟩ := run_bind_ok.1 read
  refine ⟨_, _, fun x mem => ?_, read⟩
  simp only [NetRomHeader.fields, List.mem_cons, List.mem_singleton, List.not_mem_nil, or_false] at mem
  rcases mem with rfl | rfl | rfl | rfl | rfl | rfl <;> exact UInt8.toNat_lt_size _

theorem fields_window {h : NetRomHeader} (small : ∀ x ∈ h.fields, x < 256) (w : UInt8) :
    ∀ x ∈ h.fields ++ [w.toNat], x < 256 := fun x mem =>
  (List.mem_append.1 mem).elim (small x) fun window => List.mem_singleton.1 window ▸ UInt8.toNat_lt_size w

/-- The op-type chain builds a packet of the class its op byte names, from bytes. -/
theorem readBody_ok {codec : CallCodec} {h : NetRomHeader} {it rest : List UInt8} {p : NetRomPacket}
    (small : ∀ x ∈ h.fields, x < 256) (read : (readBody codec h).run it = .ok (some p, rest)) :
    p.header = h ∧ p.ClassFits ∧ (∀ x ∈ p.byteFields, x < 256) ∧ OpType.create h.opByte ≠ .Unknown := by
  simp only [readBody] at read
  split_ifs at read with request ack info listed
  · obtain ⟨w, _, -, read⟩ := run_bind_ok.1 read
    obtain ⟨_, _, -, read⟩ := run_bind_ok.1 read
    obtain ⟨_, _, -, read⟩ := run_bind_ok.1 read
    cases read
    exact ⟨rfl, request, fields_window small w, by rw [request]; decide⟩
  · obtain ⟨w, _, -, read⟩ := run_bind_ok.1 read
    cases read
    exact ⟨rfl, ack, fields_window small w, by rw [ack]; decide⟩
  · obtain ⟨_, _, -, read⟩ := run_bind_ok.1 read
    cases read
    exact ⟨rfl, info, small, by rw [info]; decide⟩
  · cases read
    refine ⟨rfl, by simp [ClassFits, header, request, ack, info], small, fun unknown => ?_⟩
    rw [unknown] at listed
    simp at listed
  · cases read

/-- `buffer` raises only on a field that is not a byte. -/
theorem buffer_ok {codec : CallCodec} {p : NetRomPacket} (bytes : ∀ x ∈ p.byteFields, x < 256) :
    ∃ b, p.buffer codec = .ok b := by
  cases p with
  | base h => exact ⟨_, headerBytes_eq bytes⟩
  | connectRequest h w _ _ =>
    simp only [byteFields, List.mem_append, List.mem_singleton] at bytes
    simp [buffer, headerBytes_eq fun x mem => bytes x (.inl mem), appendByte_of_lt (bytes w (.inr rfl))]
  | connectAck h w =>
    simp only [byteFields, List.mem_append, List.mem_singleton] at bytes
    simp [buffer, headerBytes_eq fun x mem => bytes x (.inl mem), appendByte_of_lt (bytes w (.inr rfl))]
  | info h _ => simp [buffer, headerBytes_eq bytes]

/-- What `parse_netrom_packet` returns is well formed but for its calls, so its `buffer` never
    raises; when its calls read back from their bytes, that `buffer` parses back to the same
    packet. -/
theorem parseNetromPacket_reparses {codec : CallCodec} {data : List UInt8} {p : NetRomPacket}
    (parsed : parseNetromPacket codec data = .ok (some p)) :
    (∃ bytes, p.buffer codec = .ok bytes) ∧
      ((∀ c ∈ p.calls, codec.RoundTrips c) → (p.buffer codec >>= parseNetromPacket codec) = .ok (some p)) := by
  obtain ⟨⟨_, rest⟩, read, same⟩ := bind_eq_ok.1 (show (readNetromPacket codec).run data >>= _ = _ from parsed)
  cases same
  obtain ⟨h, it, small, body⟩ := readNetromPacket_ok read
  obtain ⟨header, fits, bytes, defined⟩ := readBody_ok small body
  subst header
  exact ⟨buffer_ok bytes, fun calls => parse_buffer_defined ⟨calls, bytes, fits⟩ defined⟩

/-- An `Information` packet with one payload byte, as bytes. -/
def infoBytes : List UInt8 :=
  CallCodec.shifted.write ⟨"N9CALL", 0⟩ ++ CallCodec.shifted.write ⟨"N1CALL", 0⟩ ++ [7, 0, 0, 0, 0, 5, 0x41]

theorem parseNetromPacket_reparses_info :
    parseNetromPacket CallCodec.shifted infoBytes = .ok (some (.info ⟨⟨"N1CALL", 0⟩, ⟨"N9CALL", 0⟩, 7, 0, 0, 0, 0, 5⟩ [0x41])) ∧
      (∀ c ∈ (NetRomPacket.info ⟨⟨"N1CALL", 0⟩, ⟨"N9CALL", 0⟩, 7, 0, 0, 0, 0, 5⟩ [0x41]).calls,
        CallCodec.shifted.RoundTrips c) ∧
      ((NetRomPacket.info ⟨⟨"N1CALL", 0⟩, ⟨"N9CALL", 0⟩, 7, 0, 0, 0, 0, 5⟩ [0x41]).buffer CallCodec.shifted >>=
        parseNetromPacket CallCodec.shifted) =
        .ok (some (.info ⟨⟨"N1CALL", 0⟩, ⟨"N9CALL", 0⟩, 7, 0, 0, 0, 0, 5⟩ [0x41])) :=
  have parsed : parseNetromPacket CallCodec.shifted infoBytes =
      .ok (some (.info ⟨⟨"N1CALL", 0⟩, ⟨"N9CALL", 0⟩, 7, 0, 0, 0, 0, 5⟩ [0x41])) := by decide
  have calls : ∀ c ∈ (NetRomPacket.info ⟨⟨"N1CALL", 0⟩, ⟨"N9CALL", 0⟩, 7, 0, 0, 0, 0, 5⟩ [0x41]).calls,
      CallCodec.shifted.RoundTrips c := by decide
  ⟨parsed, calls, (parseNetromPacket_reparses parsed).2 calls⟩

end Tarpn.Netrom
