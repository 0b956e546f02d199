import Tarpn.Netrom.NodeRuns

/-!
A network of NET/ROM nodes joined by data links. Each node runs `_broadcast_nodes` rounds,
writing the frames of `get_nodes().to_packets(...)` to its data links, and a frame heard goes to
the hearer's `maybe_handle_special` and `_update_nodes`. Rounds and deliveries happen one at a
time, in any order. The data-link layer, the `nodes.json` snapshot and the sleeps are left out.
Started with empty tables, such a network stays silent forever.
-/

namespace Tarpn.Netrom

/-- A node of the network: its `NetRomNetwork`, and whether its `_broadcast_nodes` task is still
    running, which a round that raises ends. -/
structure MeshNode where
  net : NetRomNetwork
  broadcasting : Bool

/-- The frames a `_broadcast_nodes` round writes, in order, up to the first one whose encoding
    raises, and whether one raised. -/
def sendRound : List (Nat × Except PyError UIFrame) → List (Nat × UIFrame) × Bool
  | [] => ([], false)
  | (port, .ok frame) :: rest => ((port, frame) :: (sendRound rest).1, (sendRound rest).2)
  | (_, .error _) :: _ => ([], true)

/-- Nodes joined by data links: `hears sender port` lists the nodes that hear what `sender`
    writes on the data link of `port`, and `inFlight` holds the frames written and not yet
    delivered, each with the node it is going to. -/
structure Mesh where
  nodes : List MeshNode
  hears : Nat → Nat → List Nat
  inFlight : List (Nat × UIFrame)

/-- What happens next in the network. -/
inductive MeshEvent
  /-- A node runs a round of `_broadcast_nodes`. -/
  | broadcast (sender : Nat)
  /-- The frame in flight at `index`, any of them, reaches its node. -/
  | deliver (index : Nat)

namespace Mesh

/-- The network after one event. -/
def step (codec : CallCodec) (m : Mesh) : MeshEvent → Mesh
  | .broadcast sender =>
    match m.nodes[sender]? with
    | some node =>
      if node.broadcasting then
        let (net, frames) := node.net.broadcastNodes codec
        let (sent, raised) := sendRound frames
        { m with
          nodes := m.nodes.set sender ⟨net, !raised⟩
          inFlight := m.inFlight ++ sent.flatMap fun (port, frame) => (m.hears sender port).map (·, frame) }
      else m
    | none => m
  | .deliver index =>
    match m.inFlight[index]? with
    | some (receiver, frame) =>
      { m with
        nodes := match m.nodes[receiver]? with
          | some node => m.nodes.set receiver { node with net := node.net.onEvent codec (.special (.ui frame)) }
          | none => m.nodes
        inFlight := m.inFlight.eraseIdx index }
    | none => m

/-- The network after a run of events, the first event first. -/
def run (codec : CallCodec) (m : Mesh) (events : List MeshEvent) : Mesh := events.foldl (step codec) m

/-- The network as it starts: each node from its call, alias, own calls and data links, with an
    empty routing table and its broadcast task running, and nothing in flight. -/
def start (configs : List (AX25Call × String × List AX25Call × PyDict Nat DataLink))
    (hears : Nat → Nat → List Nat) : Mesh :=
  ⟨configs.map fun (nodeCall, nodeAlias, ourCalls, dataLinks) =>
    ⟨⟨nodeCall, RoutingTable.init nodeAlias ourCalls, dataLinks⟩, true⟩, hears, []⟩

/-! ### Silence -/

/-- No node has a destination or a neighbour, and nothing is in flight. -/
def Silent (m : Mesh) : Prop :=
  (∀ node ∈ m.nodes, node.net.router.destinations.keys = [] ∧ node.net.router.neighbors.keys = []) ∧
    m.inFlight = []

theorem silent_start (configs : List (AX25Call × String × List AX25Call × PyDict Nat DataLink))
    (hears : Nat → Nat → List Nat) : (start configs hears).Silent := by
  refine ⟨fun node mem => ?_, rfl⟩
  obtain ⟨⟨nodeCall, nodeAlias, ourCalls, dataLinks⟩, -, rfl⟩ := List.mem_map.1 mem
  exact ⟨rfl, rfl⟩

theorem broadcastNodes_of_no_destination (codec : CallCodec) {net : NetRomNetwork}
    (empty : net.router.destinations.keys = []) : net.broadcastNodes codec = (net, []) := by
  have items : net.router.destinations.items = [] := List.map_eq_nil_iff.1 empty
  have pruned : net.router.pruneRoutes = net.router := by
    rw [RoutingTable.pruneRoutes, items, List.foldl_nil]
  have noRecords : net.router.getNodes.destinations = [] := by
    simp [RoutingTable.getNodes, PyDict.values, items]
  simp [NetRomNetwork.broadcastNodes, pruned, NetRomNodes.toPackets, noRecords]

theorem Silent.step {codec : CallCodec} {m : Mesh} (silent : m.Silent) (event : MeshEvent) :
    (m.step codec event).Silent := by
  obtain ⟨quiet, idle⟩ := silent
  cases event with
  | broadcast sender =>
    rw [Mesh.step]
    split
    · rename_i node found
      have held := List.getElem?_mem found
      split
      · rw [broadcastNodes_of_no_destination codec (quiet node held).1]
        refine ⟨fun node' mem => ?_, by simp [sendRound, idle]⟩
        rcases List.mem_or_eq_of_mem_set mem with old | rfl
        · exact quiet node' old
        · exact quiet node held
      · exact ⟨quiet, idle⟩
    · exact ⟨quiet, idle⟩
  | deliver index =>
    have nothing : m.inFlight[index]? = none := by rw [idle, List.getElem?_nil]
    rw [Mesh.step, nothing]
    exact ⟨quiet, idle⟩

/-- A network of freshly started nodes stays silent whatever happens: however its data links
    join the nodes and in whatever order rounds and deliveries come, no frame is ever written and
    no node ever learns a destination or a neighbour. -/
theorem fresh_mesh_silent (codec : CallCodec)
    (configs : List (AX25Call × String × List AX25Call × PyDict Nat DataLink)) (hears : Nat → Nat → List Nat)
    (events : List MeshEvent) :
    (∀ node ∈ ((start configs hears).run codec events).nodes,
      node.net.router.destinations.keys = [] ∧ node.net.router.neighbors.keys = []) ∧
      ((start configs hears).run codec events).inFlight = [] := by
  unfold run
  induction events using List.reverseRecOn with
  | nil => exact silent_start configs hears
  | append_singleton events event ih =>
    rw [List.foldl_append, List.foldl_cons, List.foldl_nil]
    exact Silent.step ih event

end Mesh

/-! ### A frame that is written teaches its receiver -/

namespace NetRomNetwork

theorem frame_of_broadcastNodes {codec : CallCodec} {net : NetRomNetwork} {port : Nat} {frame : UIFrame}
    (written : (port, .ok frame) ∈ (net.broadcastNodes codec).2) :
    ∃ c ∈ chunks (net.broadcastNodes codec).1.router.getNodes.destinations 11,
      frame.dest = nodesCall ∧ frame.source = net.nodeCall ∧ frame.protocol = .NetRom ∧
      encodeNetromNodes codec ⟨(net.broadcastNodes codec).1.router.getNodes.sendingAlias, c⟩ = .ok frame.info := by
  simp only [broadcastNodes, List.mem_flatMap, List.mem_map, Prod.mk.injEq] at written
  obtain ⟨-, -, piece, pieceMem, -, rfl⟩ := written
  obtain ⟨c, chunk, encoded⟩ := List.mem_map.1 pieceMem
  refine ⟨c, chunk, ?_⟩
  cases bytes : encodeNetromNodes codec ⟨net.router.pruneRoutes.getNodes.sendingAlias, c⟩ with
  | error e => rw [bytes] at encoded; cases encoded
  | ok info =>
    rw [bytes, map_ok, Except.ok.injEq] at encoded
    subst encoded
    exact ⟨rfl, rfl, rfl, bytes⟩

/-- Every NODES frame a `_broadcast_nodes` round writes, once it reaches a node's
    `maybe_handle_special`, makes the sender a neighbour there with a direct route of
    `default_obs`. The round's advertisement has to read back from its bytes. -/
theorem broadcast_frame_teaches {codec : CallCodec} {sender receiver : NetRomNetwork}
    (fits : NodesFit codec (sender.broadcastNodes codec).1.router.getNodes) {port : Nat} {frame : UIFrame}
    (written : (port, .ok frame) ∈ (sender.broadcastNodes codec).2) :
    sender.nodeCall ∈ (receiver.onEvent codec (.special (.ui frame))).router.neighbors.keys ∧
      ∃ r, (receiver.onEvent codec (.special (.ui frame))).router.routeAt sender.nodeCall sender.nodeCall = some r ∧
        r.nextHop = sender.nodeCall ∧ r.obsolescence = receiver.router.defaultObs := by
  obtain ⟨c, chunk, toNodes, fromSender, netRom, encoded⟩ := frame_of_broadcastNodes written
  have chunkFits : NodesFit codec ⟨_, c⟩ :=
    ⟨fits.sendingAlias, fun d mem => fits.destinations d (mem_of_mem_chunks chunk d mem)⟩
  obtain ⟨nodes, parsed⟩ : ∃ nodes, Network.parseNetromNodes codec frame.info = .ok nodes := by
    have readBack := parseNodesWith_encode .strict chunkFits
    rw [encoded, ok_bind] at readBack
    exact ⟨_, readBack⟩
  have handled : maybeHandleSpecial codec (.ui frame) = .ok (false, some (sender.nodeCall, nodes)) := by
    simp only [maybeHandleSpecial, netRom, toNodes, and_self, if_true, parsed, map_ok, fromSender]
  have heard : receiver.onEvent codec (.special (.ui frame)) = receiver.updateNodes sender.nodeCall nodes := by
    rw [onEvent, handled]
  rw [heard]
  exact ⟨RoutingTable.mem_neighbors_updateRoutes.2 (.inl rfl), RoutingTable.routeAt_updateRoutes_direct _ _ _ _⟩

/-- `N0CALL` with the table of `heardTable` and a data link on port 0. -/
def beaconNode : NetRomNetwork := ⟨⟨"N0CALL", 0⟩, heardTable, PyDict.empty.set 0 ⟨fun _ _ => true⟩⟩

/-- The NODES frame of its round: alias `ME`, and `N1CALL` (`ONE`) through itself at quality 255. -/
def beaconFrame : UIFrame :=
  ⟨nodesCall, ⟨"N0CALL", 0⟩, .NetRom,
    [0xff, 0x4d, 0x45, 0x20, 0x20, 0x20, 0x20, 0x9c, 0x62, 0x86, 0x82, 0x98, 0x98, 0x00, 0x4f, 0x4e, 0x45, 0x20, 0x20,
      0x20, 0x9c, 0x62, 0x86, 0x82, 0x98, 0x98, 0x00, 0xff]⟩

theorem getNodes_beacon :
    heardTable.pruneRoutes.getNodes = ⟨"ME", [⟨⟨"N1CALL", 0⟩, "ONE", ⟨"N1CALL", 0⟩, 255⟩]⟩ := by
  have pruned : heardTable.pruneRoutes.destinations.values =
      [⟨⟨"N1CALL", 0⟩, "ONE", PyDict.empty.set ⟨"N1CALL", 0⟩ ⟨⟨"N1CALL", 0⟩, ⟨"N1CALL", 0⟩, 255, 99⟩⟩] := rfl
  simp only [RoutingTable.getNodes, pruned, List.filterMap_cons, List.filterMap_nil, RoutingTable.sortedNeighbors,
    PyDict.values_set_empty, List.mergeSort_singleton]
  decide

theorem broadcast_frame_teaches_beacon :
    NodesFit CallCodec.shifted (beaconNode.broadcastNodes CallCodec.shifted).1.router.getNodes ∧
      (0, .ok beaconFrame) ∈ (beaconNode.broadcastNodes CallCodec.shifted).2 ∧
      beaconNode.nodeCall ∈ ((⟨⟨"N2CALL", 0⟩, .init "TWO" [], .empty⟩ : NetRomNetwork).onEvent CallCodec.shifted
        (.special (.ui beaconFrame))).router.neighbors.keys ∧
      ∃ r, ((⟨⟨"N2CALL", 0⟩, .init "TWO" [], .empty⟩ : NetRomNetwork).onEvent CallCodec.shifted
        (.special (.ui beaconFrame))).router.routeAt beaconNode.nodeCall beaconNode.nodeCall = some r ∧
        r.nextHop = beaconNode.nodeCall ∧ r.obsolescence = (RoutingTable.init "TWO" []).defaultObs := by
  have fits : NodesFit CallCodec.shifted (beaconNode.broadcastNodes CallCodec.shifted).1.router.getNodes := by
    show NodesFit _ heardTable.pruneRoutes.getNodes
    rw [getNodes_beacon]
    refine ⟨⟨by decide, by decide, by decide⟩, fun d mem => ?_⟩
    rw [List.mem_singleton] at mem
    subst mem
    exact ⟨by decide, ⟨by decide, by decide, by decide⟩, by decide, by decide⟩
  have written : (0, .ok beaconFrame) ∈ (beaconNode.broadcastNodes CallCodec.shifted).2 := by
    show _ ∈ beaconNode.dataLinks.keys.flatMap fun port =>
      (heardTable.pruneRoutes.getNodes.toPackets CallCodec.shifted ⟨"N0CALL", 0⟩).map (port, ·)
    rw [getNodes_beacon]
    decide
  exact ⟨fits, written, broadcast_frame_teaches fits written⟩

end NetRomNetwork

end Tarpn.Netrom
