import Tarpn.Netrom.Mesh

/-!
Where a route learned from a NODES frame leads. `update_routes` stores an advertised route with
the advertiser's own next hop, `destination.best_neighbor`, and `get_nodes` advertises each
destination's next hop. So tables whose every route leads straight to its destination advertise
records naming each destination as its own best neighbour, and hearing such records keeps them
so. In a network of such nodes, with aliases that fit their six bytes, `write_packet` hands a
packet only to its destination.
-/

namespace Tarpn.Netrom

namespace RoutingTable

/-- A table whose routes all lead straight to their destination: destinations stored under their
    own calls with routes, every route's next hop its destination, and aliases that fit the six
    bytes of a NODES field. -/
structure RoutesDirect (t : RoutingTable) : Prop where
  named : DestinationsNamed t
  hopIsDest : ∀ dest via r, t.routeAt dest via = some r → r.nextHop = dest
  shortAlias : t.nodeAlias.length ≤ 6
  shortAliases : ∀ dest d, t.destinations.get? dest = some d → d.nodeAlias.length ≤ 6

theorem nodeAlias_of_config {t t' : RoutingTable} (same : t'.config = t.config) : t'.nodeAlias = t.nodeAlias :=
  congrArg Prod.fst same

theorem routesDirect_init {nodeAlias : String} (short : nodeAlias.length ≤ 6) (ourCalls : List AX25Call) :
    (init nodeAlias ourCalls).RoutesDirect where
  named dest d found := by simp [init] at found
  hopIsDest dest via r found := by simp [init, routeAt] at found
  shortAlias := short
  shortAliases dest d found := by simp [init] at found

/-! ### Every operation keeps the routes direct -/

/-- The direct route to the sender leads to the sender, and its destination takes the frame's
    alias. -/
theorem RoutesDirect.addDirect {t : RoutingTable} (direct : t.RoutesDirect) (heardFrom : AX25Call) (port : Nat)
    {sendingAlias : String} (short : sendingAlias.length ≤ 6) : (t.addDirect heardFrom port sendingAlias).RoutesDirect where
  named := direct.named.addDirect heardFrom port sendingAlias
  hopIsDest dest via r found := by
    rw [routeAt_addDirect] at found
    split at found
    · rename_i both
      cases found
      exact both.1.symm
    · exact direct.hopIsDest dest via r found
  shortAlias := direct.shortAlias
  shortAliases dest d found := by
    simp only [RoutingTable.addDirect, PyDict.get?_set] at found
    split at found
    · cases found
      cases old : t.destinations.get? heardFrom with
      | none => simpa [old] using short
      | some d' => simpa [old] using direct.shortAliases _ _ old
    · exact direct.shortAliases dest d found

/-- An advertised route that names its destination as best neighbour leads to it: a new route
    takes that next hop, and a route already there keeps its own. -/
theorem RoutesDirect.addAdvertised {t : RoutingTable} (direct : t.RoutesDirect) (neighbor : Neighbor)
    {destination : NodeDestination} (paired : destination.bestNeighbor = destination.destNode)
    (short : destination.destAlias.length ≤ 6) : (t.addAdvertised neighbor destination).RoutesDirect where
  named := direct.named.addAdvertised neighbor destination
  hopIsDest dest via r found := by
    rw [routeAt_addAdvertised] at found
    split at found
    · rename_i advertises
      cases found
      cases old : t.routeAt dest via with
      | none => exact paired.trans advertises.2.1.symm
      | some r₀ => exact direct.hopIsDest dest via r₀ old
    · exact direct.hopIsDest dest via r found
  shortAlias := (nodeAlias_of_config (config_addAdvertised neighbor t destination)).symm ▸ direct.shortAlias
  shortAliases dest d found := by
    unfold RoutingTable.addAdvertised at found
    dsimp only at found
    split at found
    · rw [PyDict.get?_set] at found
      split at found
      · cases found
        cases old : t.destinations.get? destination.destNode with
        | none => simpa [old] using short
        | some d' => simpa [old] using direct.shortAliases _ _ old
      · exact direct.shortAliases dest d found
    · exact direct.shortAliases dest d found

theorem RoutesDirect.foldl_addAdvertised (neighbor : Neighbor) :
    ∀ (l : List NodeDestination) {t : RoutingTable}, t.RoutesDirect →
      (∀ d ∈ l, d.bestNeighbor = d.destNode ∧ d.destAlias.length ≤ 6) →
        (l.foldl (RoutingTable.addAdvertised neighbor) t).RoutesDirect
  | [], _, direct, _ => direct
  | d :: l, _, direct, fits =>
    RoutesDirect.foldl_addAdvertised neighbor l (direct.addAdvertised neighbor (fits d (.head _)).1 (fits d (.head _)).2)
      fun d' mem => fits d' (.tail _ mem)

/-- `update_routes` with an advertisement whose records name their destinations as best
    neighbours, under short aliases, keeps the routes direct. -/
theorem RoutesDirect.updateRoutes {t : RoutingTable} (direct : t.RoutesDirect) (heardFrom : AX25Call) (port : Nat)
    {nodes : NetRomNodes} (short : ShortAliases nodes) (paired : PairedCalls nodes) :
    (t.updateRoutes heardFrom port nodes).RoutesDirect :=
  (direct.addDirect heardFrom port short.1).foldl_addAdvertised _ _ fun d mem => ⟨paired d mem, short.2 d mem⟩

/-- A prune only ages routes and drops them. -/
theorem RoutesDirect.pruneRoutes {t : RoutingTable} (direct : t.RoutesDirect) : t.pruneRoutes.RoutesDirect where
  named := direct.named.pruneRoutes
  hopIsDest dest via r found := by
    obtain ⟨r₀, old, rfl, -⟩ := routeAt_pruneRoutes_eq_some found
    exact direct.hopIsDest dest via r₀ old
  shortAlias := (nodeAlias_of_config (config_pruneRoutes t)).symm ▸ direct.shortAlias
  shortAliases dest d found := by
    rw [destinations_pruneRoutes_get?] at found
    obtain ⟨d₀, old, kept⟩ := Option.bind_eq_some.1 found
    unfold survivor at kept
    dsimp only at kept
    split at kept
    · cases kept
    · cases kept
      exact direct.shortAliases dest d₀ old

/-! ### What such a table advertises and where it routes -/

/-- `get_nodes` of a table whose routes are direct names each destination as its own best
    neighbour, under aliases that fit their fields. -/
theorem RoutesDirect.getNodes {t : RoutingTable} (direct : t.RoutesDirect) :
    ShortAliases t.getNodes ∧ PairedCalls t.getNodes := by
  refine ⟨⟨direct.shortAlias, fun d mem => ?_⟩, fun d mem => ?_⟩ <;>
    obtain ⟨dest, via, dst, r, found, route, rfl⟩ := mem_getNodes mem
  · exact direct.shortAliases dest dst found
  · show r.nextHop = dst.nodeCall
    rw [(direct.named dest dst found).1]
    exact direct.hopIsDest dest via r route

/-- Every next hop `route` gives is the packet's destination. -/
theorem RoutesDirect.route {t : RoutingTable} (direct : t.RoutesDirect) (packet : NetRomPacket) :
    ∀ hop ∈ t.route packet, hop = packet.dest := by
  intro hop mem
  unfold RoutingTable.route at mem
  split at mem
  · rename_i d found
    obtain ⟨r, held, rfl⟩ := List.mem_map.1 mem
    obtain ⟨via, route⟩ := PyDict.mem_values.1 ((sortedNeighbors_spec d).1.subset held)
    exact direct.hopIsDest _ via r (by simp [routeAt, found, route])
  · split at mem
    · exact List.mem_singleton.1 mem
    · cases mem

end RoutingTable

namespace NetRomNetwork

/-- `write_packet`'s loop over next hops that are all the packet's destination reports a packet
    sent only when the data link of the destination's neighbour entry took it. -/
theorem writeRoutes_to_dest {codec : CallCodec} {net : NetRomNetwork} {packet : NetRomPacket} :
    ∀ {hops : List AX25Call}, (∀ hop ∈ hops, hop = packet.dest) → net.writeRoutes codec packet hops = .ok true →
      ∃ neighbor, net.router.neighbors.get? packet.dest = some neighbor ∧ net.offerTo codec packet neighbor = true
  | [], _, wrote => by cases wrote
  | hop :: hops, toDest, wrote => by
    rw [writeRoutes, toDest hop (.head _)] at wrote
    split at wrote
    · cases wrote
    · rename_i neighbor found
      split at wrote
      · exact ⟨neighbor, found, ‹_›⟩
      · exact writeRoutes_to_dest (fun h mem => toDest h (.tail _ mem)) wrote

/-- A frame whose NODES advertisement, when `parse_netrom_nodes` reads one from it, names each
    destination as its own best neighbour. -/
def FramePaired (codec : CallCodec) (frame : UIFrame) : Prop :=
  ∀ nodes, Network.parseNetromNodes codec frame.info = .ok nodes → PairedCalls nodes

/-- Every frame a round of a node with direct routes writes reads back as records that name
    their destinations as best neighbours. -/
theorem framePaired_of_broadcastNodes {codec : CallCodec} {net : NetRomNetwork} (direct : net.router.RoutesDirect)
    {port : Nat} {frame : UIFrame} (written : (port, .ok frame) ∈ (net.broadcastNodes codec).2) :
    FramePaired codec frame := by
  obtain ⟨c, chunk, -, -, -, encoded⟩ := frame_of_broadcastNodes written
  obtain ⟨short, paired⟩ := direct.pruneRoutes.getNodes
  exact fun nodes parsed => parseNodesWith_paired encoded
    ⟨short.1, fun d mem => short.2 d (mem_of_mem_chunks chunk d mem)⟩
    (fun d mem => paired d (mem_of_mem_chunks chunk d mem)) parsed

/-- A frame handed to `maybe_handle_special` leaves the node as it was, or installs with
    `update_routes` an advertisement `parse_netrom_nodes` read from the frame's info. -/
theorem onEvent_ui_eq (codec : CallCodec) (net : NetRomNetwork) (frame : UIFrame) :
    net.onEvent codec (.special (.ui frame)) = net ∨
      ∃ heardFrom nodes, Network.parseNetromNodes codec frame.info = .ok nodes ∧
        net.onEvent codec (.special (.ui frame)) = net.updateNodes heardFrom nodes := by
  rw [onEvent]
  split
  · rename_i heardFrom nodes handled
    refine .inr ⟨heardFrom, nodes, ?_, rfl⟩
    simp only [maybeHandleSpecial] at handled
    split at handled
    · cases parsed : Network.parseNetromNodes codec frame.info with
      | error e => rw [parsed] at handled; cases handled
      | ok decoded =>
        rw [parsed, map_ok, Except.ok.injEq] at handled
        cases handled
        rfl
    · cases handled
  · exact .inl rfl

end NetRomNetwork

/-- A node with direct routes that hears a frame in flight keeps them. -/
theorem RoutingTable.RoutesDirect.onEvent_ui {codec : CallCodec} {net : NetRomNetwork} (direct : net.router.RoutesDirect)
    {frame : UIFrame} (paired : NetRomNetwork.FramePaired codec frame) :
    (net.onEvent codec (.special (.ui frame))).router.RoutesDirect := by
  rcases NetRomNetwork.onEvent_ui_eq codec net frame with same | ⟨heardFrom, nodes, parsed, heard⟩
  · rw [same]
    exact direct
  · rw [heard]
    exact direct.updateRoutes heardFrom 0 (parseNodesWith_short parsed) (paired nodes parsed)

/-! ### The network -/

namespace Mesh

/-- Every node's routes lead straight to their destinations, and every frame in flight
    advertises likewise. -/
def RoutesDirect (codec : CallCodec) (m : Mesh) : Prop :=
  (∀ node ∈ m.nodes, node.net.router.RoutesDirect) ∧ ∀ x ∈ m.inFlight, NetRomNetwork.FramePaired codec x.2

/-- The frames a round sends are frames its encoding gave. -/
theorem mem_sendRound : ∀ {frames : List (Nat × Except PyError UIFrame)} {port : Nat} {frame : UIFrame},
    (port, frame) ∈ (sendRound frames).1 → (port, .ok frame) ∈ frames
  | [], _, _, mem => absurd mem (List.not_mem_nil _)
  | (_, .ok _) :: _, _, _, mem => by
    rcases List.mem_cons.1 mem with same | later
    · cases same
      exact List.mem_cons_self _ _
    · exact List.mem_cons_of_mem _ (mem_sendRound later)
  | (_, .error _) :: _, _, _, mem => absurd mem (List.not_mem_nil _)

/-- One event keeps the routes direct. -/
theorem RoutesDirect.step {codec : CallCodec} {m : Mesh} (direct : m.RoutesDirect codec) (event : MeshEvent) :
    (m.step codec event).RoutesDirect codec := by
  obtain ⟨tables, frames⟩ := direct
  cases event with
  | broadcast sender =>
    rw [Mesh.step]
    split
    · rename_i node found
      have table := tables node (List.getElem?_mem found)
      split
      · refine ⟨fun node' mem => ?_, fun x mem => ?_⟩
        · rcases List.mem_or_eq_of_mem_set mem with old | rfl
          · exact tables node' old
          · exact table.pruneRoutes
        · rcases List.mem_append.1 mem with old | new
          · exact frames x old
          · obtain ⟨⟨port, frame⟩, sent, heard⟩ := List.mem_flatMap.1 new
            obtain ⟨receiver, -, rfl⟩ := List.mem_map.1 heard
            exact NetRomNetwork.framePaired_of_broadcastNodes table (mem_sendRound sent)
      · exact ⟨tables, frames⟩
    · exact ⟨tables, frames⟩
  | deliver index =>
    rw [Mesh.step]
    split
    · rename_i receiver frame found
      have paired := frames _ (List.getElem?_mem found)
      refine ⟨fun node' mem => ?_, fun x mem => frames x (List.mem_of_mem_eraseIdx mem)⟩
      split at mem
      · rename_i node held
        rcases List.mem_or_eq_of_mem_set mem with old | rfl
        · exact tables node' old
        · exact (tables node (List.getElem?_mem held)).onEvent_ui paired
      · exact tables node' mem
    · exact ⟨tables, frames⟩

theorem RoutesDirect.run {codec : CallCodec} {m : Mesh} (direct : m.RoutesDirect codec) :
    ∀ events : List MeshEvent, (m.run codec events).RoutesDirect codec
  | [] => direct
  | event :: events => (direct.step event).run events

/-- In a network whose routes and frames in flight all lead straight to their destinations, every
    run keeps it so: every next hop `route` gives is the packet's destination, and `write_packet`
    reports a packet sent only when the destination's own data link took it. -/
theorem run_hops_direct (codec : CallCodec) {m : Mesh} (direct : m.RoutesDirect codec) (events : List MeshEvent) :
    ∀ node ∈ (m.run codec events).nodes, ∀ packet : NetRomPacket,
      (∀ hop ∈ node.net.router.route packet, hop = packet.dest) ∧
        (node.net.writePacket codec packet = .ok true → ∃ neighbor,
          node.net.router.neighbors.get? packet.dest = some neighbor ∧ node.net.offerTo codec packet neighbor = true) := by
  intro node mem packet
  have table := (direct.run events).1 node mem
  exact ⟨table.route packet, NetRomNetwork.writeRoutes_to_dest (table.route packet)⟩

/-- `N0CALL`, which has heard `N1CALL`, and a fresh `N2CALL` that hears everything sent. -/
def pairMesh : Mesh :=
  ⟨[⟨NetRomNetwork.beaconNode, true⟩, ⟨⟨⟨"N2CALL", 0⟩, .init "TWO" [], .empty⟩, true⟩], fun _ _ => [1], []⟩

theorem run_hops_direct_pair :
    pairMesh.RoutesDirect CallCodec.shifted ∧
      ∀ node ∈ (pairMesh.run CallCodec.shifted [.broadcast 0, .deliver 0]).nodes, ∀ packet : NetRomPacket,
        (∀ hop ∈ node.net.router.route packet, hop = packet.dest) ∧
          (node.net.writePacket CallCodec.shifted packet = .ok true → ∃ neighbor,
            node.net.router.neighbors.get? packet.dest = some neighbor ∧
              node.net.offerTo CallCodec.shifted packet neighbor = true) := by
  have noRecords : ∀ d ∈ ([] : List NodeDestination), d.bestNeighbor = d.destNode := fun d mem =>
    absurd mem (List.not_mem_nil d)
  have direct : pairMesh.RoutesDirect CallCodec.shifted := by
    refine ⟨fun node mem => ?_, fun x mem => absurd mem (List.not_mem_nil x)⟩
    simp only [pairMesh, List.mem_cons, List.mem_singleton, List.not_mem_nil, or_false] at mem
    rcases mem with rfl | rfl
    · exact (RoutingTable.routesDirect_init (by decide) []).updateRoutes ⟨"N1CALL", 0⟩ 0
        ⟨by decide, fun d mem => absurd mem (List.not_mem_nil d)⟩ noRecords
    · exact RoutingTable.routesDirect_init (by decide) []
  exact ⟨direct, run_hops_direct CallCodec.shifted direct _⟩

end Mesh

end Tarpn.Netrom
