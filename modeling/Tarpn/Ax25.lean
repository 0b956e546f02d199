import Tarpn.Bytes

/-!
What the NET/ROM code reads of `tarpn.ax25`, which is absent from the sources: callsigns, their
seven-byte address codec, UI frames and the packets `decode_ax25_packet` yields. Each is
modelled from the spec. The codec is a parameter: the theorems ask of a call only that
`parse_ax25_call` reads it back from the bytes `AX25Call.write` emits.
-/

namespace Tarpn

/-- Modelled from the spec: `AX25Call`, a callsign and an SSID, the fields its equality
    compares. -/
structure AX25Call where
  callsign : String
  ssid : Nat
  deriving DecidableEq, Repr

/-- Modelled from the spec: the address codec. `AX25Call.write` emits seven bytes, and
    `parse_ax25_call` makes a call of the seven bytes it reads. -/
structure CallCodec where
  write : AX25Call → List UInt8
  decode : List UInt8 → AX25Call
  length_write : ∀ c, (write c).length = 7

namespace CallCodec

/-- A call `parse_ax25_call` reads back from the seven bytes `AX25Call.write` emits. -/
def RoundTrips (codec : CallCodec) (c : AX25Call) : Prop := codec.decode (codec.write c) = c

instance (codec : CallCodec) (c : AX25Call) : Decidable (codec.RoundTrips c) :=
  inferInstanceAs (Decidable (codec.decode (codec.write c) = c))

/-- Modelled from the spec: `parse_ax25_call(bytes_iter)` reads the seven bytes of an address
    with `next`, so it raises `StopIteration` when fewer are left. -/
def parseAx25Call (codec : CallCodec) : ByteReader AX25Call := fun it =>
  if 7 ≤ it.length then .ok (codec.decode (it.take 7), it.drop 7) else .error .stopIteration

theorem parseAx25Call_append (codec : CallCodec) (c : AX25Call) (rest : List UInt8) :
    codec.parseAx25Call.run (codec.write c ++ rest) = .ok (codec.decode (codec.write c), rest) := by
  have seven := codec.length_write c
  show (if 7 ≤ (codec.write c ++ rest).length then _ else _) = _
  rw [if_pos (by simp [seven]), List.take_left' seven, List.drop_left' seven]

theorem parseAx25Call_write {codec : CallCodec} {c : AX25Call} (trips : codec.RoundTrips c)
    (rest : List UInt8) : codec.parseAx25Call.run (codec.write c ++ rest) = .ok (c, rest) := by
  rw [parseAx25Call_append, trips]

theorem parseAx25Call_write_self {codec : CallCodec} {c : AX25Call} (trips : codec.RoundTrips c) :
    codec.parseAx25Call.run (codec.write c) = .ok (c, []) := by
  simpa using parseAx25Call_write trips []

theorem parseAx25Call_short {codec : CallCodec} {it : List UInt8} (short : it.length < 7) :
    codec.parseAx25Call.run it = .error .stopIteration := by
  simp [parseAx25Call, StateT.run, show ¬ 7 ≤ it.length by omega]

theorem parseAx25Call_consumes {codec : CallCodec} {it rest : List UInt8} {c : AX25Call}
    (read : codec.parseAx25Call.run it = .ok (c, rest)) : rest = it.drop 7 ∧ 7 ≤ it.length := by
  simp only [parseAx25Call, StateT.run] at read
  split at read
  · cases read; exact ⟨rfl, ‹_›⟩
  · cases read

/-- The codec as the spec describes it, to evaluate the model with: six space-padded callsign
    characters and the SSID, each shifted left one bit. -/
def shifted : CallCodec where
  write c := ((ljust c.callsign 6 ' ').data.take 6).map (fun ch => (ch.toNat <<< 1).toUInt8) ++
    [((c.ssid % 16) <<< 1).toUInt8]
  decode bytes := ⟨strip ⟨(bytes.take 6).map fun b => Char.ofNat (b.toNat >>> 1)⟩, ((bytes.drop 6).headD 0).toNat >>> 1⟩
  length_write := fun ⟨callsign, ssid⟩ => by
    have padded := length_ljust callsign 6 ' '
    simp only [String.length] at padded
    simp only [List.length_append, List.length_map, List.length_take, List.length_singleton, padded]
    omega

end CallCodec

/-- Modelled from the spec: the layer-3 protocol byte of an AX.25 frame. -/
inductive L3Protocol
  | NoLayer3
  | NetRom
  | NoProtocol
  deriving DecidableEq, Repr

/-- Modelled from the spec: a UI frame as `UIFrame.ui_frame` builds it. The digipeater list,
    command bits and poll flag, which nothing here reads, are left out. -/
structure UIFrame where
  dest : AX25Call
  source : AX25Call
  protocol : L3Protocol
  info : List UInt8
  deriving DecidableEq, Repr

/-- Modelled from the spec: a packet `decode_ax25_packet` yields, a UI frame or a frame of
    another kind (`type(packet) == UIFrame` tells them apart). -/
inductive AX25Packet
  | ui (frame : UIFrame)
  | other (dest source : AX25Call)
  deriving DecidableEq, Repr

namespace AX25Packet

/-- `packet.dest`. -/
def dest : AX25Packet → AX25Call
  | .ui frame => frame.dest
  | .other dest _ => dest

/-- `packet.source`. -/
def source : AX25Packet → AX25Call
  | .ui frame => frame.source
  | .other _ source => source

end AX25Packet

/-- `AX25Call("NODES", 0)`, where NODES broadcasts are addressed. -/
def nodesCall : AX25Call := ⟨"NODES", 0⟩

end Tarpn
