import Tarpn.Dict
import Tarpn.Netrom.Packet
import Tarpn.Netrom.Nodes
import Mathlib.Algebra.Order.Field.Rat

/-!
The routing table of `netrom/network.py`: neighbours heard directly, destinations with one route
per neighbour, and the operations `update_routes`, `prune_routes`, `route` and `get_nodes`. A
route's quality is the int `default_quality` for a direct route and the float
`(quality * neighbor.quality + 128.) / 256.` for an advertised one, exact for byte qualities, so
qualities are rationals here.
-/

namespace Tarpn.Netrom

/-- `Neighbor`, a station heard directly. -/
structure Neighbor where
  call : AX25Call
  port : Nat
  quality : Nat
  deriving DecidableEq

/-- `Route`: how to reach `dest` through one neighbour. -/
structure Route where
  dest : AX25Call
  nextHop : AX25Call
  quality : ℚ
  obsolescence : Int
  deriving DecidableEq

/-- `Destination`, with one route per neighbour it was learned through. -/
structure Destination where
  nodeCall : AX25Call
  nodeAlias : String
  neighborMap : PyDict AX25Call Route

/-- `RoutingTable`. -/
structure RoutingTable where
  nodeAlias : String
  ourCalls : List AX25Call
  neighbors : PyDict AX25Call Neighbor
  destinations : PyDict AX25Call Destination
  defaultObs : Int
  defaultQuality : Nat
  minQuality : Nat
  minObs : Int

namespace RoutingTable

/-- `RoutingTable(node_alias)` with `our_calls` as `bind_data_link` has filled it: no neighbour,
    no destination, and the dataclass defaults. -/
def init (nodeAlias : String) (ourCalls : List AX25Call) : RoutingTable :=
  ⟨nodeAlias, ourCalls, .empty, .empty, 100, 255, 50, 4⟩

/-- `Destination.sorted_neighbors()`: the routes by quality, best first. Python's sort is
    stable, so routes of equal quality keep their `neighbor_map` order. -/
def sortedNeighbors (d : Destination) : List Route :=
  d.neighborMap.values.mergeSort fun a b => b.quality ≤ a.quality

/-- `route(packet)`: the next hops of the destination's routes, best first; the packet's dest
    itself when it is only a neighbour; nothing otherwise. -/
def route (t : RoutingTable) (packet : NetRomPacket) : List AX25Call :=
  match t.destinations.get? packet.dest with
  | some dest => (sortedNeighbors dest).map (·.nextHop)
  | none => if packet.dest ∈ t.neighbors.keys then [packet.dest] else []

/-- The quality `update_routes` gives an advertised route: 0 for a trivial loop through one of
    our own calls, `(destination.quality * neighbor.quality + 128.) / 256.` otherwise. -/
def routeQuality (ourCalls : List AX25Call) (neighborQuality : Nat) (destination : NodeDestination) : ℚ :=
  if destination.bestNeighbor ∈ ourCalls then 0
  else (destination.quality * neighborQuality + 128) / 256

/-- One turn of the loop of `update_routes` over the advertised destinations. A route the
    neighbour already has keeps its `next_hop`; a new one takes the advertised
    `best_neighbor`. -/
def addAdvertised (neighbor : Neighbor) (t : RoutingTable) (destination : NodeDestination) : RoutingTable :=
  let quality := routeQuality t.ourCalls neighbor.quality destination
  if quality > t.minQuality then
    let newDest := (t.destinations.get? destination.destNode).getD
      ⟨destination.destNode, destination.destAlias, .empty⟩
    let newRoute := (newDest.neighborMap.get? neighbor.call).getD
      ⟨destination.destNode, destination.bestNeighbor, quality, t.defaultObs⟩
    let newRoute := { newRoute with quality := quality, obsolescence := t.defaultObs }
    let newDest := { newDest with neighborMap := newDest.neighborMap.set neighbor.call newRoute }
    { t with destinations := t.destinations.set destination.destNode newDest }
  else t

/-- The neighbour `update_routes` gets or makes for the sender, with `default_quality`. -/
def heardNeighbor (t : RoutingTable) (heardFrom : AX25Call) (heardOnPort : Nat) : Neighbor :=
  (t.neighbors.get? heardFrom).getD ⟨heardFrom, heardOnPort, t.defaultQuality⟩

/-- The first half of `update_routes`: store the sender's neighbour, get or make its
    destination, and (re)install the direct route to it. -/
def addDirect (t : RoutingTable) (heardFrom : AX25Call) (heardOnPort : Nat) (sendingAlias : String) :
    RoutingTable :=
  let t := { t with neighbors := t.neighbors.set heardFrom (t.heardNeighbor heardFrom heardOnPort) }
  let dest := (t.destinations.get? heardFrom).getD ⟨heardFrom, sendingAlias, .empty⟩
  let direct : Route := ⟨heardFrom, heardFrom, t.defaultQuality, t.defaultObs⟩
  let dest := { dest with neighborMap := dest.neighborMap.set heardFrom direct }
  { t with destinations := t.destinations.set heardFrom dest }

/-- `update_routes(heard_from, heard_on_port, nodes)`: the direct route, then the loop over the
    advertised destinations with the sender's neighbour. -/
def updateRoutes (t : RoutingTable) (heardFrom : AX25Call) (heardOnPort : Nat) (nodes : NetRomNodes) :
    RoutingTable :=
  nodes.destinations.foldl (addAdvertised (t.heardNeighbor heardFrom heardOnPort))
    (t.addDirect heardFrom heardOnPort nodes.sendingAlias)

/-- One turn of the inner loop of `prune_routes`: `route.obsolescence -= 1`, and the route goes
    once that is `<= 0`. -/
def decay (_neighbor : AX25Call) (route : Route) : Option Route :=
  let route := { route with obsolescence := route.obsolescence - 1 }
  if route.obsolescence ≤ 0 then none else some route

/-- One turn of the outer loop of `prune_routes`: age the destination's routes in place, and
    drop it, and the neighbour of its call, once none is left. -/
def pruneDestination (t : RoutingTable) (item : AX25Call × Destination) : RoutingTable :=
  let (call, destination) := item
  let destination := { destination with
    neighborMap := destination.neighborMap.items.foldl (PyDict.rewriteItem decay) destination.neighborMap }
  let t := { t with destinations := t.destinations.set call destination }
  if destination.neighborMap.keys.length = 0 then
    { t with
      destinations := t.destinations.erase call
      neighbors := if call ∈ t.neighbors.keys then t.neighbors.erase call else t.neighbors }
  else t

/-- `prune_routes()`, over a snapshot of `destinations.items()`. -/
def pruneRoutes (t : RoutingTable) : RoutingTable :=
  t.destinations.items.foldl pruneDestination t

/-- `int(quality)`: truncation toward zero. -/
def truncate (q : ℚ) : Int := if 0 ≤ q then q.floor else q.ceil

/-- `get_nodes()`: for each destination, in order, its best route among those with
    `obsolescence >= min_obs`, if any. -/
def getNodes (t : RoutingTable) : NetRomNodes :=
  ⟨t.nodeAlias, t.destinations.values.filterMap fun destination =>
    match (sortedNeighbors destination).find? (·.obsolescence ≥ t.minObs) with
    | some best => some ⟨destination.nodeCall, destination.nodeAlias, best.nextHop, truncate best.quality⟩
    | none => none⟩

/-! ### The order of `route` -/

/-- `sorted(..., key=attrgetter("quality"), reverse=True)` holds every route once, best first,
    and keeps routes of equal quality in `neighbor_map` order. -/
theorem sortedNeighbors_spec (d : Destination) :
    (sortedNeighbors d).Perm d.neighborMap.values ∧
      (sortedNeighbors d).Pairwise (fun a b => b.quality ≤ a.quality) ∧
      ∀ a b, [a, b].Sublist d.neighborMap.values → a.quality = b.quality → [a, b].Sublist (sortedNeighbors d) := by
  have trans : ∀ a b c : Route, decide (b.quality ≤ a.quality) → decide (c.quality ≤ b.quality) →
      decide (c.quality ≤ a.quality) := by
    simp only [decide_eq_true_eq]
    exact fun a b c ab bc => bc.trans ab
  have total : ∀ a b : Route, (decide (b.quality ≤ a.quality) || decide (a.quality ≤ b.quality)) := by
    intro a b
    simpa using le_total b.quality a.quality
  refine ⟨List.mergeSort_perm _ _, ?_, fun a b sub same => List.pair_sublist_mergeSort trans total (by simp [same]) sub⟩
  simpa using List.sorted_mergeSort trans total d.neighborMap.values

/-! ### The records of `get_nodes` -/

/-- The first route of a best-first list that passes a test is a best one among those that
    pass. -/
theorem find?_best {l : List Route} {p : Route → Bool} {best : Route}
    (sorted : l.Pairwise fun a b => b.quality ≤ a.quality) (found : l.find? p = some best) :
    ∀ r ∈ l, p r → r.quality ≤ best.quality := by
  induction l with
  | nil => cases found
  | cons a l ih =>
    intro r mem passes
    rw [List.pairwise_cons] at sorted
    by_cases first : p a
    · rw [List.find?_cons_of_pos _ first, Option.some.injEq] at found
      subst found
      rcases List.mem_cons.1 mem with rfl | later
      · exact le_rfl
      · exact sorted.1 r later
    · rw [List.find?_cons_of_neg _ first] at found
      rcases List.mem_cons.1 mem with rfl | later
      · exact absurd passes first
      · exact ih sorted.2 found r later passes

/-- `sorted_neighbors()` holds a route that passes a test exactly when `neighbor_map` does. -/
theorem isSome_find?_sortedNeighbors (d : Destination) (p : Route → Bool) :
    ((sortedNeighbors d).find? p).isSome = d.neighborMap.values.any p := by
  rw [Bool.eq_iff_iff, List.find?_isSome, List.any_eq_true]
  exact exists_congr fun r => and_congr_left fun _ => (sortedNeighbors_spec d).1.mem_iff

/-- `get_nodes()` advertises, in the order of `destinations`, exactly the destinations with a
    route of `obsolescence >= min_obs`, each once, with its call and alias, the next hop of a
    best such route and that route's quality truncated. -/
theorem getNodes_spec (t : RoutingTable) :
    t.getNodes.sendingAlias = t.nodeAlias ∧
      ∃ bests : List (Destination × Route),
        t.getNodes.destinations =
          bests.map (fun b => ⟨b.1.nodeCall, b.1.nodeAlias, b.2.nextHop, truncate b.2.quality⟩) ∧
        bests.map Prod.fst =
          t.destinations.values.filter (fun d => d.neighborMap.values.any (t.minObs ≤ ·.obsolescence)) ∧
        ∀ b ∈ bests, b.2 ∈ b.1.neighborMap.values ∧ t.minObs ≤ b.2.obsolescence ∧
          ∀ r ∈ b.1.neighborMap.values, t.minObs ≤ r.obsolescence → r.quality ≤ b.2.quality := by
  refine ⟨rfl, t.destinations.values.filterMap fun d =>
    ((sortedNeighbors d).find? (·.obsolescence ≥ t.minObs)).map (d, ·), ?_, ?_, fun b mem => ?_⟩
  · simp only [getNodes, List.map_filterMap]
    congr 1
    funext d
    cases (sortedNeighbors d).find? (·.obsolescence ≥ t.minObs) <;> rfl
  · rw [List.map_filterMap, ← List.filterMap_eq_filter]
    congr 1
    funext d
    have held := isSome_find?_sortedNeighbors d (t.minObs ≤ ·.obsolescence)
    cases found : (sortedNeighbors d).find? (·.obsolescence ≥ t.minObs) <;> rw [found] at held <;>
      simp [Option.guard, ← held]
  · obtain ⟨d, -, picked⟩ := List.mem_filterMap.1 mem
    obtain ⟨best, found, rfl⟩ := Option.map_eq_some'.1 picked
    obtain ⟨perm, sorted, -⟩ := sortedNeighbors_spec d
    exact ⟨perm.subset (List.mem_of_find?_eq_some found), by simpa using List.find?_some found,
      fun r mem passes => find?_best sorted found r (perm.symm.subset mem) (by simpa using passes)⟩

/-! ### What each operation changes -/

/-- The route stored for `dest` under the neighbour `via`. -/
def routeAt (t : RoutingTable) (dest via : AX25Call) : Option Route :=
  (t.destinations.get? dest).bind (·.neighborMap.get? via)

/-- The fields no operation writes: the alias, our calls and the tuning constants. -/
def config (t : RoutingTable) : String × List AX25Call × Int × Nat × Nat × Int :=
  (t.nodeAlias, t.ourCalls, t.defaultObs, t.defaultQuality, t.minQuality, t.minObs)

theorem foldl_config {α : Type} (f : RoutingTable → α → RoutingTable) (same : ∀ t a, (f t a).config = t.config) :
    ∀ (l : List α) (t : RoutingTable), (l.foldl f t).config = t.config
  | [], _ => rfl
  | a :: l, t => (foldl_config f same l (f t a)).trans (same t a)

/-- The loop of `update_routes` writes `destinations` and no other field. -/
theorem addAdvertised_frame (neighbor : Neighbor) (t : RoutingTable) (destination : NodeDestination) :
    ∃ ds, addAdvertised neighbor t destination = { t with destinations := ds } := by
  unfold addAdvertised; dsimp only; split
  · exact ⟨_, rfl⟩
  · exact ⟨t.destinations, rfl⟩

section AddAdvertised

variable (neighbor : Neighbor) (t : RoutingTable) (destination : NodeDestination)

@[simp] theorem config_addAdvertised : (addAdvertised neighbor t destination).config = t.config := by
  obtain ⟨_, eq⟩ := addAdvertised_frame neighbor t destination; rw [eq]; rfl

@[simp] theorem neighbors_addAdvertised : (addAdvertised neighbor t destination).neighbors = t.neighbors := by
  obtain ⟨_, eq⟩ := addAdvertised_frame neighbor t destination; rw [eq]

@[simp] theorem ourCalls_addAdvertised : (addAdvertised neighbor t destination).ourCalls = t.ourCalls := by
  obtain ⟨_, eq⟩ := addAdvertised_frame neighbor t destination; rw [eq]

@[simp] theorem minQuality_addAdvertised : (addAdvertised neighbor t destination).minQuality = t.minQuality := by
  obtain ⟨_, eq⟩ := addAdvertised_frame neighbor t destination; rw [eq]

@[simp] theorem defaultObs_addAdvertised : (addAdvertised neighbor t destination).defaultObs = t.defaultObs := by
  obtain ⟨_, eq⟩ := addAdvertised_frame neighbor t destination; rw [eq]

end AddAdvertised

theorem neighbors_foldl_addAdvertised (neighbor : Neighbor) (l : List NodeDestination) (t : RoutingTable) :
    (l.foldl (addAdvertised neighbor) t).neighbors = t.neighbors := by
  induction l generalizing t with
  | nil => rfl
  | cons d rest ih => rw [List.foldl_cons, ih, neighbors_addAdvertised]

/-- Whether the advertisement of `destination` heard through `neighbor` writes the route for
    `dest` under `via`: its quality passes `min_quality`, and `(dest, via)` is its destination
    and the neighbour's call. -/
def Advertises (t : RoutingTable) (neighbor : Neighbor) (destination : NodeDestination) (dest via : AX25Call) :
    Prop :=
  routeQuality t.ourCalls neighbor.quality destination > t.minQuality ∧ dest = destination.destNode ∧
    via = neighbor.call

instance (t : RoutingTable) (neighbor : Neighbor) (destination : NodeDestination) (dest via : AX25Call) :
    Decidable (Advertises t neighbor destination dest via) :=
  inferInstanceAs (Decidable (_ ∧ _ ∧ _))

@[simp] theorem advertises_addAdvertised (neighbor neighbor' : Neighbor) (t : RoutingTable)
    (destination destination' : NodeDestination) (dest via : AX25Call) :
    Advertises (addAdvertised neighbor' t destination') neighbor destination dest via ↔
      Advertises t neighbor destination dest via := by
  simp [Advertises]

/-- What one advertised destination does: a route of passing quality, via the neighbour, with
    `default_obs`; the route already there keeps its `dest` and `next_hop`. -/
theorem routeAt_addAdvertised (neighbor : Neighbor) (t : RoutingTable) (destination : NodeDestination)
    (dest via : AX25Call) :
    routeAt (addAdvertised neighbor t destination) dest via =
      if Advertises t neighbor destination dest via then
        some { (routeAt t dest via).getD ⟨dest, destination.bestNeighbor, 0, 0⟩ with
          quality := routeQuality t.ourCalls neighbor.quality destination, obsolescence := t.defaultObs }
      else routeAt t dest via := by
  unfold addAdvertised routeAt Advertises
  by_cases passes : routeQuality t.ourCalls neighbor.quality destination > t.minQuality
  · by_cases here : dest = destination.destNode
    · subst here
      cases t.destinations.get? destination.destNode with
      | none => by_cases same : via = neighbor.call <;> simp [passes, same]
      | some d =>
        by_cases same : via = neighbor.call
        · subst same; simp only [passes, and_self, if_true, PyDict.get?_set, Option.some_bind, Option.getD_some]
          cases d.neighborMap.get? neighbor.call <;> rfl
        · simp [passes, same]
    · simp [passes, here]
  · simp [passes]

/-- A route no advertisement of the loop writes stays as it was. -/
theorem routeAt_foldl_addAdvertised_of_not (neighbor : Neighbor) (dest via : AX25Call) :
    ∀ (l : List NodeDestination) (t : RoutingTable), (∀ d ∈ l, ¬ Advertises t neighbor d dest via) →
      routeAt (l.foldl (addAdvertised neighbor) t) dest via = routeAt t dest via
  | [], _, _ => rfl
  | d :: l, t, untouched => by
    rw [List.foldl_cons, routeAt_foldl_addAdvertised_of_not neighbor dest via l _ fun d' mem => by
      rw [advertises_addAdvertised]; exact untouched d' (List.mem_cons_of_mem _ mem),
      routeAt_addAdvertised, if_neg (untouched d (List.mem_cons_self _ _))]

/-- The loop of `update_routes` refreshes routes in place: a route that was there stays, with its
    next hop. -/
theorem nextHop_foldl_addAdvertised (neighbor : Neighbor) (dest via : AX25Call) :
    ∀ (l : List NodeDestination) (t : RoutingTable) (r : Route), routeAt t dest via = some r →
      ∃ r', routeAt (l.foldl (addAdvertised neighbor) t) dest via = some r' ∧ r'.nextHop = r.nextHop
  | [], _, r, found => ⟨r, found, rfl⟩
  | d :: l, t, r, found => by
    obtain ⟨r₁, found₁, hop⟩ : ∃ r₁, routeAt (addAdvertised neighbor t d) dest via = some r₁ ∧ r₁.nextHop = r.nextHop := by
      rw [routeAt_addAdvertised, found]
      split
      · exact ⟨_, rfl, rfl⟩
      · exact ⟨r, rfl, rfl⟩
    obtain ⟨r', found', hop'⟩ := nextHop_foldl_addAdvertised neighbor dest via l _ r₁ found₁
    exact ⟨r', found', hop'.trans hop⟩

/-- A route an advertisement of the loop writes ends with `default_obs` and the quality of one
    of them. -/
theorem routeAt_foldl_addAdvertised_of_mem (neighbor : Neighbor) (dest via : AX25Call) :
    ∀ (l : List NodeDestination) (t : RoutingTable), (∃ d ∈ l, Advertises t neighbor d dest via) →
      ∃ d ∈ l, Advertises t neighbor d dest via ∧ ∃ r, routeAt (l.foldl (addAdvertised neighbor) t) dest via = some r ∧
        r.quality = routeQuality t.ourCalls neighbor.quality d ∧ r.obsolescence = t.defaultObs
  | [], _, ⟨_, mem, _⟩ => absurd mem (List.not_mem_nil _)
  | d :: l, t, ⟨d', mem, writes⟩ => by
    by_cases later : ∃ d' ∈ l, Advertises t neighbor d' dest via
    · obtain ⟨d'', mem', writes', r, found, quality, obs⟩ :=
        routeAt_foldl_addAdvertised_of_mem neighbor dest via l (addAdvertised neighbor t d) (by simpa using later)
      exact ⟨d'', List.mem_cons_of_mem _ mem', by simpa using writes', r, found, by simpa using quality,
        by simpa using obs⟩
    · simp only [not_exists, not_and] at later
      have first : Advertises t neighbor d dest via := by
        rcases List.mem_cons.1 mem with rfl | mem
        · exact writes
        · exact absurd writes (later d' mem)
      refine ⟨d, List.mem_cons_self _ _, first, ?_⟩
      rw [List.foldl_cons, routeAt_foldl_addAdvertised_of_not neighbor dest via l _ fun d' mem => by
        rw [advertises_addAdvertised]; exact later d' mem, routeAt_addAdvertised, if_pos first]
      exact ⟨_, rfl, rfl, rfl⟩

section AddDirect

variable (t : RoutingTable) (heardFrom : AX25Call) (heardOnPort : Nat) (sendingAlias : String)

@[simp] theorem config_addDirect : (t.addDirect heardFrom heardOnPort sendingAlias).config = t.config := rfl

@[simp] theorem ourCalls_addDirect : (t.addDirect heardFrom heardOnPort sendingAlias).ourCalls = t.ourCalls := rfl

@[simp] theorem minQuality_addDirect : (t.addDirect heardFrom heardOnPort sendingAlias).minQuality = t.minQuality := rfl

@[simp] theorem defaultObs_addDirect : (t.addDirect heardFrom heardOnPort sendingAlias).defaultObs = t.defaultObs := rfl

@[simp] theorem neighbors_addDirect :
    (t.addDirect heardFrom heardOnPort sendingAlias).neighbors = t.neighbors.set heardFrom (t.heardNeighbor heardFrom heardOnPort) :=
  rfl

/-- The direct route to the sender, with `default_quality` and `default_obs`. -/
theorem routeAt_addDirect (dest via : AX25Call) :
    routeAt (t.addDirect heardFrom heardOnPort sendingAlias) dest via =
      if dest = heardFrom ∧ via = heardFrom then some ⟨heardFrom, heardFrom, t.defaultQuality, t.defaultObs⟩
      else routeAt t dest via := by
  unfold addDirect routeAt
  by_cases here : dest = heardFrom
  · subst here; by_cases same : via = dest <;> cases found : t.destinations.get? dest <;> simp [same, found]
  · simp [here]

end AddDirect

@[simp] theorem config_updateRoutes (t : RoutingTable) (heardFrom : AX25Call) (port : Nat) (nodes : NetRomNodes) :
    (updateRoutes t heardFrom port nodes).config = t.config :=
  (foldl_config _ (config_addAdvertised _) _ _).trans (config_addDirect ..)

@[simp] theorem config_pruneRoutes (t : RoutingTable) : (pruneRoutes t).config = t.config :=
  foldl_config _ (fun t item => by unfold pruneDestination; dsimp only; split <;> rfl) _ _

@[simp] theorem neighbors_updateRoutes (t : RoutingTable) (heardFrom : AX25Call) (port : Nat) (nodes : NetRomNodes) :
    (updateRoutes t heardFrom port nodes).neighbors = t.neighbors.set heardFrom (t.heardNeighbor heardFrom port) := by
  rw [updateRoutes, neighbors_foldl_addAdvertised, neighbors_addDirect]

/-- The routes `update_routes` writes under `(dest, via)`: the direct route to the sender, and
    a route via its neighbour for every advertisement of passing quality. -/
def Writes (t : RoutingTable) (heardFrom : AX25Call) (heardOnPort : Nat) (nodes : NetRomNodes) (dest via : AX25Call) :
    Prop :=
  (dest = heardFrom ∧ via = heardFrom) ∨ ∃ d ∈ nodes.destinations, Advertises t (t.heardNeighbor heardFrom heardOnPort) d dest via

/-- `update_routes` leaves every route it does not write as it was. -/
theorem routeAt_updateRoutes_of_not {t : RoutingTable} {heardFrom : AX25Call} {port : Nat} {nodes : NetRomNodes}
    {dest via : AX25Call} (untouched : ¬ Writes t heardFrom port nodes dest via) :
    routeAt (updateRoutes t heardFrom port nodes) dest via = routeAt t dest via := by
  simp only [Writes, not_or, not_exists, not_and] at untouched
  rw [updateRoutes, routeAt_foldl_addAdvertised_of_not _ _ _ _ _ fun d mem => by
    simpa [Advertises] using untouched.2 d mem, routeAt_addDirect, if_neg fun both => untouched.1 both.1 both.2]

/-- Every route `update_routes` writes ends with `default_obs`, and either `default_quality` or
    the quality of an advertisement that writes it. -/
theorem routeAt_updateRoutes_of_writes {t : RoutingTable} {heardFrom : AX25Call} {port : Nat} {nodes : NetRomNodes}
    {dest via : AX25Call} (writes : Writes t heardFrom port nodes dest via) :
    ∃ r, routeAt (updateRoutes t heardFrom port nodes) dest via = some r ∧ r.obsolescence = t.defaultObs ∧
      (r.quality = t.defaultQuality ∨ ∃ d ∈ nodes.destinations, Advertises t (t.heardNeighbor heardFrom port) d dest via ∧
        r.quality = routeQuality t.ourCalls (t.heardNeighbor heardFrom port).quality d) := by
  by_cases advertised : ∃ d ∈ nodes.destinations, Advertises t (t.heardNeighbor heardFrom port) d dest via
  · obtain ⟨d, mem, writes', r, found, quality, obs⟩ :=
      routeAt_foldl_addAdvertised_of_mem _ _ _ _ (t.addDirect heardFrom port nodes.sendingAlias) (by simpa [Advertises] using advertised)
    exact ⟨r, found, by simpa using obs, .inr ⟨d, mem, by simpa [Advertises] using writes', by simpa using quality⟩⟩
  · have direct : dest = heardFrom ∧ via = heardFrom := writes.resolve_right advertised
    simp only [not_exists, not_and] at advertised
    rw [updateRoutes, routeAt_foldl_addAdvertised_of_not _ _ _ _ _ fun d mem => by
      simpa [Advertises] using advertised d mem, routeAt_addDirect, if_pos direct]
    exact ⟨_, rfl, rfl, .inl rfl⟩

/-- What `prune_routes` leaves of one destination: its aged routes, or nothing once none is
    left. -/
def survivor (destination : Destination) : Option Destination :=
  let neighborMap := destination.neighborMap.filterMap decay
  if neighborMap.keys.length = 0 then none else some { destination with neighborMap := neighborMap }

theorem pruneDestination_destinations (t : RoutingTable) (call : AX25Call) (destination : Destination) :
    (pruneDestination t (call, destination)).destinations =
      PyDict.rewriteItem (fun _ => survivor) t.destinations (call, destination) := by
  dsimp only [pruneDestination, PyDict.rewriteItem, survivor]
  rw [PyDict.foldl_rewriteItem]
  by_cases empty : (destination.neighborMap.filterMap decay).keys.length = 0 <;> simp [empty]

theorem pruneDestination_neighbors (t : RoutingTable) (call : AX25Call) (destination : Destination) :
    (pruneDestination t (call, destination)).neighbors =
      if (survivor destination).isNone then t.neighbors.erase call else t.neighbors := by
  dsimp only [pruneDestination, survivor]
  rw [PyDict.foldl_rewriteItem]
  by_cases empty : (destination.neighborMap.filterMap decay).keys.length = 0
  · by_cases present : call ∈ t.neighbors.keys
    · simp [empty, present]
    · simp [empty, present, PyDict.erase_of_not_mem present]
  · simp [empty]

/-- `prune_routes` keeps each destination's aged routes, in order, and drops the destinations
    left without one. -/
theorem destinations_pruneRoutes (t : RoutingTable) :
    (pruneRoutes t).destinations = t.destinations.filterMap fun _ => survivor := by
  have loop : ∀ (l : List (AX25Call × Destination)) (t : RoutingTable),
      (l.foldl pruneDestination t).destinations = l.foldl (PyDict.rewriteItem fun _ => survivor) t.destinations := by
    intro l
    induction l with
    | nil => intro t; rfl
    | cons item rest ih =>
      intro t; obtain ⟨k, d⟩ := item
      rw [List.foldl_cons, ih, pruneDestination_destinations]; rfl
  rw [pruneRoutes, loop, PyDict.foldl_rewriteItem]

/-- The loop of `prune_routes` over a list of items drops the neighbour of each destination it
    drops, and no other. -/
theorem neighbors_foldl_pruneDestination (call : AX25Call) :
    ∀ (l : List (AX25Call × Destination)) (t : RoutingTable),
      (l.foldl pruneDestination t).neighbors.get? call =
        if l.any (fun kv => kv.1 = call && (survivor kv.2).isNone) then none else t.neighbors.get? call
  | [], _ => rfl
  | (k, d) :: rest, t => by
    rw [List.foldl_cons, neighbors_foldl_pruneDestination call rest, pruneDestination_neighbors]
    by_cases same : k = call
    · subst same
      cases gone : (survivor d).isNone <;>
        simp only [List.any_cons, gone, decide_True, Bool.true_and, Bool.false_or, Bool.true_or, if_true,
          if_false, Bool.false_eq_true, PyDict.get?_erase, ite_self]
    · cases gone : (survivor d).isNone <;>
        simp only [List.any_cons, gone, decide_eq_false same, Bool.false_and, Bool.false_or, if_true,
          if_false, Bool.false_eq_true, PyDict.get?_erase, if_neg (Ne.symm same)]

/-- `prune_routes` drops the neighbour of each destination it drops, and no other. -/
theorem neighbors_pruneRoutes (t : RoutingTable) (call : AX25Call) :
    (pruneRoutes t).neighbors.get? call =
      if (t.destinations.get? call).any fun d => (survivor d).isNone then none else t.neighbors.get? call := by
  rw [pruneRoutes, neighbors_foldl_pruneDestination, PyDict.any_items t.destinations call fun d => (survivor d).isNone]

/-- `prune_routes` ages every route by one and drops those that reach 0. -/
theorem routeAt_pruneRoutes (t : RoutingTable) (dest via : AX25Call) :
    routeAt (pruneRoutes t) dest via = (routeAt t dest via).bind (decay via) := by
  unfold routeAt
  rw [destinations_pruneRoutes, PyDict.get?_filterMap]
  cases t.destinations.get? dest with
  | none => rfl
  | some d =>
    simp only [Option.some_bind, survivor]
    split
    · rename_i empty
      have none' := PyDict.keys_eq_nil.1 (List.eq_nil_of_length_eq_zero empty) via
      simp only [PyDict.get?_filterMap] at none'
      simp [none']
    · simp

end RoutingTable

end Tarpn.Netrom
