import Tarpn.Netrom.Network

/-!
`DataLinkManager`, the AX.25 link multiplexer of one port. Each turn of `_loop` takes a frame off
the inbound queue, decodes it, offers it to the bound L3 handlers' `maybe_handle_special`, and
passes what none of them claims to the state machine when it is addressed to `link_call`.

`_loop` calls `maybe_handle_special(frame.port, packet)`, with two arguments, and NET/ROM's
handler takes one. A Python call with the wrong number of positional arguments raises
`TypeError` before the body runs; `_loop` catches it with the rest.
-/

namespace Tarpn

open Netrom

/-- Modelled from the spec: a frame off the inbound queue, the port it came in on and its
    bytes. -/
structure DataLinkFrame where
  port : Nat
  data : List UInt8

/-- Modelled from the spec: an L3 handler bound with `add_l3_handler`, as `_loop` calls it: how
    many positional arguments its `maybe_handle_special` takes besides `self`, and what it does
    with a packet: whether processing continues, and the `_update_nodes` task it schedules. -/
structure L3Handler where
  specialParams : Nat
  maybeHandleSpecial : AX25Packet → Except PyError (Bool × Option (AX25Call × NetRomNodes))

/-- `NetRomNetwork` as an L3 handler: `maybe_handle_special(self, packet)`. -/
def netRomHandler (codec : CallCodec) : L3Handler := ⟨1, NetRomNetwork.maybeHandleSpecial codec⟩

/-- A Python method call with `args` positional arguments to a method that takes `params`
    besides `self`: `TypeError` unless the counts agree. -/
def callMethod {α : Type} (params args : Nat) (body : Except PyError α) : Except PyError α :=
  if args = params then body else .error .typeError

/-- What a turn of `_loop` sets going. -/
inductive LoopEffect
  | updateNodes (heardFrom : AX25Call) (nodes : NetRomNodes)
  | handlePacket (packet : AX25Packet)

/-- `DataLinkManager`: the link's call and port, and the L3 handlers by protocol. -/
structure DataLinkManager where
  linkCall : AX25Call
  linkPort : Nat
  l3 : PyDict L3Protocol L3Handler

namespace DataLinkManager

/-- `DataLinkManager(link_call, link_port, ...)`, with no L3 handler. -/
def init (linkCall : AX25Call) (linkPort : Nat) : DataLinkManager := ⟨linkCall, linkPort, .empty⟩

/-- `add_l3_handler(protocol, l3_handler)`. -/
def addL3Handler (m : DataLinkManager) (protocol : L3Protocol) (handler : L3Handler) : DataLinkManager :=
  { m with l3 := m.l3.set protocol handler }

/-- The loop of `_loop` over `self.l3.values()`: each handler is called with two arguments, the
    frame's port and the packet, and the first `False` stops it. The `_update_nodes` tasks
    scheduled so far stay scheduled whatever a later call raises. -/
def offerSpecial (packet : AX25Packet) : List L3Handler → List (AX25Call × NetRomNodes) × Except PyError Bool
  | [] => ([], .ok true)
  | handler :: rest =>
    match callMethod handler.specialParams 2 (handler.maybeHandleSpecial packet) with
    | .error e => ([], .error e)
    | .ok (true, task) => let (tasks, outcome) := offerSpecial packet rest; (task.toList ++ tasks, outcome)
    | .ok (false, task) => (task.toList, .ok false)

/-- A turn of `_loop(frame)`, with `decode_ax25_packet` as `decode`. A frame that does not decode
    is dropped; an exception in the second `try` is logged and ends the turn. -/
def loop (decode : List UInt8 → Except PyError AX25Packet) (m : DataLinkManager) (frame : DataLinkFrame) :
    List LoopEffect :=
  match decode frame.data with
  | .error _ => []
  | .ok packet =>
    let (tasks, outcome) := offerSpecial packet m.l3.values
    tasks.map (fun (heardFrom, nodes) => .updateNodes heardFrom nodes) ++
      match outcome with
      | .ok true => if packet.dest = m.linkCall then [.handlePacket packet] else []
      | _ => []

theorem offerSpecial_mismatch {packet : AX25Packet} {handler : L3Handler}
    (rest : List L3Handler) (mismatch : handler.specialParams ≠ 2) :
    offerSpecial packet (handler :: rest) = ([], .error .typeError) := by
  simp [offerSpecial, callMethod, Ne.symm mismatch]

/-- With NET/ROM bound as the L3 handler, no turn of `_loop` does anything: whatever the frame,
    its port and its destination, the call to `maybe_handle_special` raises `TypeError`, so no
    packet reaches the state machine and no NODES broadcast reaches `update_routes`. -/
theorem loop_netRom_inert (codec : CallCodec) (decode : List UInt8 → Except PyError AX25Packet)
    (linkCall : AX25Call) (linkPort : Nat) (frame : DataLinkFrame) :
    ((init linkCall linkPort).addL3Handler .NetRom (netRomHandler codec)).loop decode frame = [] := by
  unfold loop
  split
  · rfl
  · rename_i packet _
    have values : ((init linkCall linkPort).addL3Handler .NetRom (netRomHandler codec)).l3.values =
        [netRomHandler codec] := rfl
    rw [values, offerSpecial_mismatch [] (by simp [netRomHandler])]
    rfl

end DataLinkManager

end Tarpn
