import Tarpn.Netrom.Network
import Tarpn.Netrom.RoutingRuns

/-!
Runs of a NET/ROM node's routing. The table changes only through two paths: a NODES frame that
`maybe_handle_special` decodes is installed by `_update_nodes`, and each round of
`_broadcast_nodes` prunes. The routing invariant of `RoutingRuns` needs every advertised
quality to be a byte, and every quality `parse_netrom_nodes` reads is one, so a node started
with an empty table keeps the invariant whatever frames it hears, in whatever order.
-/

namespace Tarpn.Netrom

/-! ### Decoded qualities are bytes -/

/-- A record's quality is the one byte `next(bytes_iter)` read. -/
theorem readRecord_quality {codec : CallCodec} {errors : DecodeErrors} {it rest : List UInt8}
    {record : NodeDestination} (read : (readRecord codec errors).run it = .ok (record, rest)) :
    0 ≤ record.quality ∧ record.quality ≤ 255 := by
  obtain ⟨_, _, -, read⟩ := run_bind_ok.1 read
  obtain ⟨_, _, -, read⟩ := run_bind_ok.1 read
  obtain ⟨_, _, -, read⟩ := run_bind_ok.1 read
  obtain ⟨quality, _, -, read⟩ := run_bind_ok.1 read
  simp only [StateT.run_pure, pure_except, Except.ok.injEq, Prod.mk.injEq] at read
  obtain ⟨rfl, -⟩ := read
  show 0 ≤ (quality.toNat : Int) ∧ (quality.toNat : Int) ≤ 255
  have := quality.toNat_lt_size
  simp only [UInt8.size] at this
  omega

/-- Every advertisement `parse_netrom_nodes` returns, under either error policy, carries byte
    qualities. -/
theorem parseNodesWith_quality {codec : CallCodec} {errors : DecodeErrors} {data : List UInt8}
    {nodes : NetRomNodes} (parsed : parseNodesWith codec errors data = .ok nodes) :
    ∀ d ∈ nodes.destinations, 0 ≤ d.quality ∧ d.quality ≤ 255 :=
  let ⟨_, _, _, _, read⟩ := parseNodesWith_ok parsed
  readRecords_forall readRecord_quality read

namespace NetRomNetwork

/-- A NODES frame `maybe_handle_special` hands on has byte qualities. -/
theorem maybeHandleSpecial_heard {codec : CallCodec} {packet : AX25Packet} {goOn : Bool}
    {heardFrom : AX25Call} {nodes : NetRomNodes}
    (handled : maybeHandleSpecial codec packet = .ok (goOn, some (heardFrom, nodes))) :
    (RoutingOp.updateRoutes heardFrom 0 nodes).Heard := by
  unfold maybeHandleSpecial at handled
  split at handled
  · split at handled
    · cases parsed : Network.parseNetromNodes codec _ with
      | error e => rw [parsed] at handled; cases handled
      | ok decoded =>
        rw [parsed, map_ok, Except.ok.injEq] at handled
        cases handled
        exact parseNodesWith_quality parsed
    · cases handled
  · cases handled

/-! ### Runs of a node -/

/-- What reaches a node's routing table: a packet a data link offers to `maybe_handle_special`,
    or a round of `_broadcast_nodes`. -/
inductive NodeEvent
  | special (packet : AX25Packet)
  | broadcast

/-- The node after one event: a NODES frame `maybe_handle_special` decodes is installed by
    `_update_nodes`; a broadcast round prunes before it sends. -/
def onEvent (codec : CallCodec) (net : NetRomNetwork) : NodeEvent → NetRomNetwork
  | .special packet =>
    match maybeHandleSpecial codec packet with
    | .ok (_, some (heardFrom, nodes)) => net.updateNodes heardFrom nodes
    | _ => net
  | .broadcast => (net.broadcastNodes codec).1

/-- Each event applies at most one routing call, and every call it applies carries byte
    qualities. -/
theorem router_onEvent (codec : CallCodec) (net : NetRomNetwork) (event : NodeEvent) :
    ∃ ops : List RoutingOp, (∀ op ∈ ops, op.Heard) ∧ (net.onEvent codec event).router = net.router.run ops := by
  cases event with
  | special packet =>
    rw [onEvent]
    split
    · rename_i handled
      exact ⟨[.updateRoutes _ 0 _], fun op mem => (List.mem_singleton.1 mem) ▸ maybeHandleSpecial_heard handled, rfl⟩
    · exact ⟨[], fun _ mem => absurd mem (List.not_mem_nil _), rfl⟩
  | broadcast => exact ⟨[.pruneRoutes], fun op mem => (List.mem_singleton.1 mem) ▸ trivial, rfl⟩

theorem Invariant.onEvent {codec : CallCodec} {net : NetRomNetwork} (inv : net.router.Invariant)
    (event : NodeEvent) : (net.onEvent codec event).router.Invariant := by
  obtain ⟨ops, heard, router⟩ := router_onEvent codec net event
  rw [router]
  exact inv.run heard

end NetRomNetwork

end Tarpn.Netrom
