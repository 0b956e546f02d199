import Tarpn.Netrom.Routing
import Mathlib.Tactic.NormNum.Inv

/-!
`NetRomNetwork`, the NET/ROM layer of a node. `handle` keeps a packet for this node and routes
any other on with `write_packet`; `maybe_handle_special` picks out NODES broadcasts, which
`_update_nodes` installs, and each `_broadcast_nodes` round prunes the table and sends the
node's own NODES frames. A bound data link is modelled by whether its state machine takes the
`DL_DATA` event `write_packet` hands it.
-/

namespace Tarpn.Netrom

/-- Modelled from the spec: a bound `DataLink`, as far as `write_packet` uses it: whether its
    state machine's `handle_internal_event` returns (`true`) or raises on a `DL_DATA` event to
    the remote call with the given bytes. -/
structure DataLink where
  acceptsData : AX25Call → List UInt8 → Bool

/-- `NetRomNetwork`: this node's call (`AX25Call.parse(config.node_call())`), the routing table
    and the data links by port. The state machine, the L3 apps and the lock are left out. -/
structure NetRomNetwork where
  nodeCall : AX25Call
  router : RoutingTable
  dataLinks : PyDict Nat DataLink

/-- What `handle(port, remote_call, data)` does with the bytes it is given. -/
inductive Handled
  | stateMachine (packet : NetRomPacket)
  | forwarded (packet : NetRomPacket) (result : Except PyError Bool)
  | raised (e : PyError)

namespace NetRomNetwork

variable (codec : CallCodec) (net : NetRomNetwork)

/-- The `try` block of `write_packet` for one neighbour: the `DL_DATA` event carries
    `packet.buffer`, and the data link of the neighbour's port takes it. What it raises,
    `None.state_machine` for a port with no data link included, is caught: a refusal. -/
def offerTo (packet : NetRomPacket) (neighbor : Neighbor) : Bool :=
  match net.dataLinks.get? neighbor.port, packet.buffer codec with
  | some link, .ok data => link.acceptsData neighbor.call data
  | _, _ => false

/-- The loop of `write_packet` over the candidate next hops, in order. `neighbors.get(route)`
    and `neighbor.port` come before the `try`, so a hop that is not a neighbour raises
    `AttributeError` out of `write_packet`. -/
def writeRoutes (packet : NetRomPacket) : List AX25Call → Except PyError Bool
  | [] => .ok false
  | route :: rest =>
    match net.router.neighbors.get? route with
    | none => .error .attributeError
    | some neighbor => if net.offerTo codec packet neighbor then .ok true else writeRoutes packet rest

/-- `write_packet(packet)`. -/
def writePacket (packet : NetRomPacket) : Except PyError Bool :=
  net.writeRoutes codec packet (net.router.route packet)

/-- `handle(port, remote_call, data)`: a packet for this node goes to the state machine, any
    other to `write_packet`, as parsed. A `None` from `parse_netrom_packet` makes
    `netrom_packet.dest` raise. -/
def handle (data : List UInt8) : Handled :=
  match parseNetromPacket codec data with
  | .error e => .raised e
  | .ok none => .raised .attributeError
  | .ok (some packet) =>
    if packet.dest = net.nodeCall then .stateMachine packet else .forwarded packet (net.writePacket codec packet)

/-- `maybe_handle_special(packet)`: a NET/ROM UI frame to NODES is parsed with this module's
    `parse_netrom_nodes` and handed, with the frame's source, to an `_update_nodes` task; the
    `False` stops the data link's processing. Every other packet gives `True`. -/
def maybeHandleSpecial (packet : AX25Packet) : Except PyError (Bool × Option (AX25Call × NetRomNodes)) :=
  match packet with
  | .ui frame =>
    if frame.protocol = .NetRom ∧ frame.dest = nodesCall then
      (fun nodes => (false, some (frame.source, nodes))) <$> Network.parseNetromNodes codec frame.info
    else .ok (true, none)
  | .other .. => .ok (true, none)

/-- `_update_nodes(heard_from, nodes)`: `update_routes` on port 0, whatever port the NODES frame
    came in on. -/
def updateNodes (heardFrom : AX25Call) (nodes : NetRomNodes) : NetRomNetwork :=
  { net with router := net.router.updateRoutes heardFrom 0 nodes }

/-- One round of `_broadcast_nodes`: `prune_routes`, then every frame of
    `get_nodes().to_packets(node_call)` to every data link, by port. Saving `nodes.json` and the
    sleeps are left out. -/
def broadcastNodes : NetRomNetwork × List (Nat × Except PyError UIFrame) :=
  let net := { net with router := net.router.pruneRoutes }
  (net, net.dataLinks.keys.flatMap fun port => (net.router.getNodes.toPackets codec net.nodeCall).map (port, ·))

/-! ### Routing a packet on -/

theorem writeRoutes_error_of_not_neighbor {packet : NetRomPacket} {route : AX25Call} (rest : List AX25Call)
    (unheard : route ∉ net.router.neighbors.keys) :
    net.writeRoutes codec packet (route :: rest) = .error .attributeError := by
  rw [PyDict.mem_keys, Option.not_isSome_iff_eq_none] at unheard
  simp [writeRoutes, unheard]

/-- `route` ranks the next hops a destination's routes store. -/
theorem route_of_destination {t : RoutingTable} {packet : NetRomPacket} {d : Destination}
    (found : t.destinations.get? packet.dest = some d) :
    t.route packet = (RoutingTable.sortedNeighbors d).map (·.nextHop) := by
  simp [RoutingTable.route, found]

/-- The table after `N1CALL`'s NODES frame with no records. -/
def heardTable : RoutingTable := (RoutingTable.init "ME" []).updateRoutes ⟨"N1CALL", 0⟩ 0 ⟨"ONE", []⟩

/-- A NODES frame from `heardFrom` naming as best neighbour for a new destination a station the
    node has not heard leaves a route whose only next hop is that station, which is no
    neighbour: `write_packet` to the destination raises `AttributeError`. -/
theorem writePacket_unheard_hop {heardFrom dest hop : AX25Call} {sendingAlias destAlias : String}
    {quality : Int} {packet : NetRomPacket} (toDest : packet.dest = dest)
    (fresh : dest ∉ net.router.destinations.keys) (notSender : dest ≠ heardFrom)
    (unheard : hop ∉ net.router.neighbors.keys) (notSenderHop : hop ≠ heardFrom)
    (passes : RoutingTable.routeQuality net.router.ourCalls (net.router.heardNeighbor heardFrom 0).quality
      ⟨dest, destAlias, hop, quality⟩ > net.router.minQuality) :
    let heard := net.updateNodes heardFrom ⟨sendingAlias, [⟨dest, destAlias, hop, quality⟩]⟩
    heard.router.route packet = [hop] ∧ hop ∉ heard.router.neighbors.keys ∧
      heard.writePacket codec packet = .error .attributeError := by
  rw [PyDict.mem_keys, Option.not_isSome_iff_eq_none] at fresh
  have unheard' : hop ∉ (net.updateNodes heardFrom ⟨sendingAlias, [⟨dest, destAlias, hop, quality⟩]⟩).router.neighbors.keys := by
    rw [PyDict.mem_keys, Option.not_isSome_iff_eq_none] at unheard ⊢
    simp [updateNodes, notSenderHop, unheard]
  have routed : (net.updateNodes heardFrom ⟨sendingAlias, [⟨dest, destAlias, hop, quality⟩]⟩).router.route packet = [hop] := by
    rw [route_of_destination (by
      simp [toDest, updateNodes, RoutingTable.updateRoutes, RoutingTable.addDirect, RoutingTable.addAdvertised,
        notSender, fresh, passes]; rfl)]
    simp [RoutingTable.sortedNeighbors]
  exact ⟨routed, unheard', by rw [writePacket, routed]; exact writeRoutes_error_of_not_neighbor _ _ _ unheard'⟩

/-- The calls of the failing run: the NODES frame comes from `N1CALL` and names `N2CALL`, never
    heard, as best neighbour for `N3CALL`. -/
def startNet : NetRomNetwork := ⟨⟨"N0CALL", 0⟩, RoutingTable.init "ME" [], .empty⟩

theorem writePacket_unheard_hop_start :
    let heard := startNet.updateNodes ⟨"N1CALL", 0⟩ ⟨"ONE", [⟨⟨"N3CALL", 0⟩, "THREE", ⟨"N2CALL", 0⟩, 200⟩]⟩
    let packet := NetRomPacket.info ⟨⟨"N3CALL", 0⟩, ⟨"N1CALL", 0⟩, 7, 0, 0, 0, 0, 5⟩ []
    heard.router.route packet = [⟨"N2CALL", 0⟩] ∧ ⟨"N2CALL", 0⟩ ∉ heard.router.neighbors.keys ∧
      heard.writePacket CallCodec.shifted packet = .error .attributeError :=
  writePacket_unheard_hop CallCodec.shifted startNet rfl (by simp [startNet, RoutingTable.init, PyDict.keys, PyDict.empty])
    (by decide) (by simp [startNet, RoutingTable.init, PyDict.keys, PyDict.empty]) (by decide)
    (by norm_num [startNet, RoutingTable.init, RoutingTable.heardNeighbor, RoutingTable.routeQuality])

/-! ### Forwarding -/

/-- `handle` passes a packet for another node to `write_packet` as it parsed it: the same packet,
    its `ttl` included. -/
theorem handle_buffer {packet : NetRomPacket} (wf : WellFormed codec packet)
    (defined : OpType.create packet.header.opByte ≠ .Unknown) (elsewhere : packet.dest ≠ net.nodeCall) :
    (packet.buffer codec).map (net.handle codec) = .ok (.forwarded packet (net.writePacket codec packet)) := by
  have parsed := parse_buffer_defined wf defined
  cases written : packet.buffer codec with
  | error e => rw [written] at parsed; cases parsed
  | ok data =>
    rw [written, ok_bind] at parsed
    show Except.ok _ = _
    simp [handle, parsed, elsewhere]

/-- The bytes a node hands on for what it receives: `handle` passes the packet it parsed to
    `write_packet`, whose `DL_DATA` event carries the packet's `buffer`. Whether a data link takes
    them is `write_packet`'s result, left aside here. -/
def forwardedBytes (data : List UInt8) : Option (List UInt8) :=
  match net.handle codec data with
  | .forwarded packet _ => (packet.buffer codec).toOption
  | _ => none

/-- The bytes after a path of nodes, each forwarding what the one before it sent. -/
def forwardAlong : List NetRomNetwork → List UInt8 → Option (List UInt8)
  | [], data => some data
  | net :: path, data => (net.forwardedBytes codec data).bind (forwardAlong path)

/-- The TTL bounds no forwarding path: every node of any path that does not own the packet's
    destination hands it to `write_packet`, with the very bytes it received. -/
theorem handle_forwards_unchanged {packet : NetRomPacket} (wf : WellFormed codec packet)
    (defined : OpType.create packet.header.opByte ≠ .Unknown) (elsewhere : packet.dest ≠ net.nodeCall) :
    (packet.buffer codec).map (net.handle codec) = .ok (.forwarded packet (net.writePacket codec packet)) ∧
      ∀ path : List NetRomNetwork, (∀ node ∈ path, packet.dest ≠ node.nodeCall) →
        (packet.buffer codec).map (forwardAlong codec path) = (packet.buffer codec).map some := by
  refine ⟨handle_buffer codec net wf defined elsewhere, fun path notOwner => ?_⟩
  cases written : packet.buffer codec with
  | error e => rfl
  | ok data =>
    show (Except.ok (forwardAlong codec path data) : Except PyError _) = .ok (some data)
    induction path with
    | nil => rfl
    | cons node path ih =>
      have hop := handle_buffer codec node wf defined (notOwner node (List.mem_cons_self _ _))
      rw [written] at hop
      simp only [Except.map, Except.ok.injEq] at hop
      simp [forwardAlong, forwardedBytes, hop, written, Except.toOption,
        ih fun n mem => notOwner n (List.mem_cons_of_mem _ mem)]

/-- A NET/ROM information packet with TTL 0 for a node other than `N0CALL`. -/
def spentPacket : NetRomPacket := .info ⟨⟨"N9CALL", 0⟩, ⟨"N1CALL", 0⟩, 0, 0, 0, 0, 0, 5⟩ [0x41]

theorem handle_forwards_unchanged_spent :
    WellFormed CallCodec.shifted spentPacket ∧ spentPacket.dest ≠ startNet.nodeCall ∧
      (spentPacket.buffer CallCodec.shifted).map (startNet.handle CallCodec.shifted) =
        .ok (.forwarded spentPacket (startNet.writePacket CallCodec.shifted spentPacket)) ∧
      ∀ path : List NetRomNetwork, (∀ node ∈ path, spentPacket.dest ≠ node.nodeCall) →
        (spentPacket.buffer CallCodec.shifted).map (forwardAlong CallCodec.shifted path) =
          (spentPacket.buffer CallCodec.shifted).map some :=
  ⟨⟨by decide, by decide, by decide⟩, by decide,
    handle_forwards_unchanged CallCodec.shifted startNet ⟨by decide, by decide, by decide⟩ (by decide) (by decide)⟩

/-- A node that has heard `N9CALL` on port 0, whose data link there takes every packet. -/
def routedNet : NetRomNetwork :=
  ⟨⟨"N0CALL", 0⟩, (RoutingTable.init "ME" []).updateRoutes ⟨"N9CALL", 0⟩ 0 ⟨"NINE", []⟩,
    PyDict.empty.set 0 ⟨fun _ _ => true⟩⟩

theorem handle_spent_packet :
    spentPacket.ttl = 0 ∧
      (spentPacket.buffer CallCodec.shifted).map (routedNet.handle CallCodec.shifted) =
        .ok (.forwarded spentPacket (.ok true)) := by
  obtain ⟨bytes, written⟩ := @buffer_ok CallCodec.shifted spentPacket (by decide)
  have sent : routedNet.writePacket CallCodec.shifted spentPacket = .ok true := by
    simp [writePacket, routedNet, RoutingTable.route, RoutingTable.updateRoutes, RoutingTable.addDirect,
      RoutingTable.heardNeighbor, RoutingTable.init, RoutingTable.sortedNeighbors, writeRoutes, offerTo, written,
      show spentPacket.dest = ⟨"N9CALL", 0⟩ from rfl]
  exact ⟨rfl, sent ▸ handle_buffer CallCodec.shifted routedNet ⟨by decide, by decide, by decide⟩ (by decide) (by decide)⟩

/-! ### NODES broadcasts -/

end NetRomNetwork

end Tarpn.Netrom
