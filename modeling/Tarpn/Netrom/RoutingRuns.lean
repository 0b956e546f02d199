import Tarpn.Netrom.Routing
import Mathlib.Tactic.Linarith
import Mathlib.Tactic.NormNum.Inv
import Mathlib.Data.Rat.Floor

/-!
Runs of the routing table: `update_routes` and `prune_routes`, one at a time, from the empty
table. Every table a run reaches keeps `Invariant`: destinations under their own calls and with
routes, route qualities in `(min_quality, default_quality]`, obsolescences in `[1, default_obs]`,
and no route outliving the direct route to its neighbour. `default_obs` prunes in a row empty
the table. The quality bound needs byte qualities, as `parse_netrom_nodes` reads them.
-/

namespace Tarpn.Netrom

/-- A call a run makes on the routing table. -/
inductive RoutingOp
  | updateRoutes (heardFrom : AX25Call) (heardOnPort : Nat) (nodes : NetRomNodes)
  | pruneRoutes

namespace RoutingOp

/-- The table after the call. -/
def apply (t : RoutingTable) : RoutingOp → RoutingTable
  | updateRoutes heardFrom heardOnPort nodes => t.updateRoutes heardFrom heardOnPort nodes
  | pruneRoutes => t.pruneRoutes

/-- A call with the qualities a NODES frame carries: every advertised quality is a byte. -/
def Heard : RoutingOp → Prop
  | updateRoutes _ _ nodes => ∀ d ∈ nodes.destinations, 0 ≤ d.quality ∧ d.quality ≤ 255
  | pruneRoutes => True

end RoutingOp

namespace RoutingTable

/-- The table after a run of calls, the first call first. -/
def run (t : RoutingTable) (ops : List RoutingOp) : RoutingTable := ops.foldl RoutingOp.apply t

/-- Every destination is stored under its own call and has a route. -/
def DestinationsNamed (t : RoutingTable) : Prop :=
  ∀ dest d, t.destinations.get? dest = some d → d.nodeCall = dest ∧ d.neighborMap.keys ≠ []

/-- What every table a run reaches satisfies. -/
structure Invariant (t : RoutingTable) : Prop where
  defaults : t.defaultObs = 100 ∧ t.defaultQuality = 255 ∧ t.minQuality = 50
  neighborCall : ∀ k n, t.neighbors.get? k = some n → n.call = k ∧ n.quality = t.defaultQuality
  destinationCall : DestinationsNamed t
  routeBounds : ∀ dest k r, t.routeAt dest k = some r →
    t.minQuality < r.quality ∧ r.quality ≤ t.defaultQuality ∧ 1 ≤ r.obsolescence ∧ r.obsolescence ≤ t.defaultObs
  viaDirect : ∀ dest k r, t.routeAt dest k = some r →
    ∃ r', t.routeAt k k = some r' ∧ r.obsolescence ≤ r'.obsolescence
  directNeighbor : ∀ k, (t.routeAt k k).isSome → k ∈ t.neighbors.keys
  neighborDestination : ∀ k ∈ t.neighbors.keys, k ∈ t.destinations.keys

/-! ### Routes and destinations -/

theorem mem_keys_of_routeAt {t : RoutingTable} {dest k : AX25Call} (found : (t.routeAt dest k).isSome) :
    dest ∈ t.destinations.keys := by
  rw [PyDict.mem_keys]
  cases get : t.destinations.get? dest with
  | none => simp [routeAt, get] at found
  | some _ => rfl

theorem DestinationsNamed.exists_route {t : RoutingTable} (named : DestinationsNamed t) {dest : AX25Call}
    (present : dest ∈ t.destinations.keys) : ∃ k, (t.routeAt dest k).isSome := by
  obtain ⟨d, found⟩ := Option.isSome_iff_exists.1 (PyDict.mem_keys.1 present)
  obtain ⟨k, rest, keys⟩ := List.exists_cons_of_ne_nil (named dest d found).2
  exact ⟨k, by simpa [routeAt, found] using PyDict.mem_keys.1 (keys ▸ List.mem_cons_self k rest)⟩

/-- The destination a run stores a route under is named after its key, and has a route. -/
theorem DestinationsNamed.addAdvertised {t : RoutingTable} (named : DestinationsNamed t) (neighbor : Neighbor)
    (destination : NodeDestination) : DestinationsNamed (t.addAdvertised neighbor destination) := by
  intro dest d found
  unfold RoutingTable.addAdvertised at found
  dsimp only at found
  split at found
  · rw [PyDict.get?_set] at found
    split at found
    · rename_i here
      cases found
      refine ⟨?_, PyDict.keys_set_ne_nil _ _ _⟩
      cases old : t.destinations.get? destination.destNode with
      | none => simp [here]
      | some d' => simpa [old, here] using (named _ _ old).1
    · exact named dest d found
  · exact named dest d found

theorem DestinationsNamed.addDirect {t : RoutingTable} (named : DestinationsNamed t) (heardFrom : AX25Call)
    (heardOnPort : Nat) (sendingAlias : String) : DestinationsNamed (t.addDirect heardFrom heardOnPort sendingAlias) := by
  intro dest d found
  simp only [RoutingTable.addDirect, PyDict.get?_set] at found
  split at found
  · rename_i here
    cases found
    refine ⟨?_, PyDict.keys_set_ne_nil _ _ _⟩
    cases old : t.destinations.get? heardFrom with
    | none => simp [here]
    | some d' => simpa [old, here] using (named _ _ old).1
  · exact named dest d found

theorem DestinationsNamed.foldl_addAdvertised (neighbor : Neighbor) :
    ∀ (l : List NodeDestination) {t : RoutingTable}, DestinationsNamed t →
      DestinationsNamed (l.foldl (RoutingTable.addAdvertised neighbor) t)
  | [], _, named => named
  | d :: l, _, named => DestinationsNamed.foldl_addAdvertised neighbor l (named.addAdvertised neighbor d)

theorem DestinationsNamed.updateRoutes {t : RoutingTable} (named : DestinationsNamed t) (heardFrom : AX25Call)
    (heardOnPort : Nat) (nodes : NetRomNodes) : DestinationsNamed (t.updateRoutes heardFrom heardOnPort nodes) :=
  (named.addDirect heardFrom heardOnPort nodes.sendingAlias).foldl_addAdvertised _ _

theorem destinations_pruneRoutes_get? (t : RoutingTable) (dest : AX25Call) :
    t.pruneRoutes.destinations.get? dest = (t.destinations.get? dest).bind survivor := by
  rw [destinations_pruneRoutes, PyDict.get?_filterMap]

theorem DestinationsNamed.pruneRoutes {t : RoutingTable} (named : DestinationsNamed t) :
    DestinationsNamed t.pruneRoutes := by
  intro dest d found
  rw [destinations_pruneRoutes_get?] at found
  obtain ⟨d₀, old, kept⟩ := Option.bind_eq_some.1 found
  unfold survivor at kept
  dsimp only at kept
  split at kept
  · cases kept
  · rename_i nonempty
    cases kept
    exact ⟨(named dest d₀ old).1, fun empty => nonempty (by rw [empty]; rfl)⟩

/-- A route `update_routes` finds stays, rewritten or not. -/
theorem routeAt_updateRoutes_isSome {t : RoutingTable} {heardFrom : AX25Call} {port : Nat} {nodes : NetRomNodes}
    {dest via : AX25Call} (found : (t.routeAt dest via).isSome) :
    ((t.updateRoutes heardFrom port nodes).routeAt dest via).isSome := by
  by_cases writes : Writes t heardFrom port nodes dest via
  · obtain ⟨r, found', -⟩ := routeAt_updateRoutes_of_writes writes
    simp [found']
  · rwa [routeAt_updateRoutes_of_not writes]

/-- An advertised quality of at most 255 heard through a neighbour of quality 255 gives a route
    quality of at most 255. -/
theorem routeQuality_le {ourCalls : List AX25Call} {d : NodeDestination} (byte : d.quality ≤ 255) :
    routeQuality ourCalls 255 d ≤ 255 := by
  unfold routeQuality
  split
  · norm_num
  · have : (d.quality : ℚ) ≤ 255 := by exact_mod_cast byte
    rw [div_le_iff₀ (by norm_num)]
    push_cast
    linarith

/-! ### What an update refreshes -/

/-- The routes an update from `heardFrom` installs or refreshes, in a table with the defaults:
    the direct route to the sender, and a route via the sender to every advertised destination
    whose quality passes. -/
def Refreshes (ourCalls : List AX25Call) (heardFrom : AX25Call) (nodes : NetRomNodes) (dest via : AX25Call) : Prop :=
  via = heardFrom ∧ (dest = heardFrom ∨ ∃ d ∈ nodes.destinations, d.destNode = dest ∧ routeQuality ourCalls 255 d > 50)

instance (ourCalls : List AX25Call) (heardFrom : AX25Call) (nodes : NetRomNodes) (dest via : AX25Call) :
    Decidable (Refreshes ourCalls heardFrom nodes dest via) :=
  inferInstanceAs (Decidable (_ ∧ (_ ∨ _)))

theorem Invariant.heardNeighbor {t : RoutingTable} (inv : Invariant t) (heardFrom : AX25Call) (port : Nat) :
    (t.heardNeighbor heardFrom port).call = heardFrom ∧ (t.heardNeighbor heardFrom port).quality = t.defaultQuality := by
  unfold RoutingTable.heardNeighbor
  cases found : t.neighbors.get? heardFrom with
  | none => exact ⟨rfl, rfl⟩
  | some n => exact inv.neighborCall _ _ found

theorem Invariant.writes_iff {t : RoutingTable} (inv : Invariant t) {heardFrom : AX25Call} {port : Nat}
    {nodes : NetRomNodes} {dest via : AX25Call} :
    Writes t heardFrom port nodes dest via ↔ Refreshes t.ourCalls heardFrom nodes dest via := by
  obtain ⟨call, quality⟩ := inv.heardNeighbor heardFrom port
  obtain ⟨-, dq, mq⟩ := inv.defaults
  simp only [Writes, Advertises, Refreshes, call, quality, dq, mq, Nat.cast_ofNat]
  constructor
  · rintro (⟨rfl, rfl⟩ | ⟨d, mem, passes, rfl, rfl⟩)
    · exact ⟨rfl, .inl rfl⟩
    · exact ⟨rfl, .inr ⟨d, mem, rfl, passes⟩⟩
  · rintro ⟨rfl, rfl | ⟨d, mem, rfl, passes⟩⟩
    · exact .inl ⟨rfl, rfl⟩
    · exact .inr ⟨d, mem, passes, rfl, rfl⟩

/-- An update sets the obsolescence of the routes it refreshes to `default_obs`, and leaves the
    others. -/
theorem Invariant.obsolescence_updateRoutes {t : RoutingTable} (inv : Invariant t) (heardFrom : AX25Call)
    (port : Nat) (nodes : NetRomNodes) (dest via : AX25Call) :
    ((t.updateRoutes heardFrom port nodes).routeAt dest via).map (·.obsolescence) =
      if Refreshes t.ourCalls heardFrom nodes dest via then some t.defaultObs
      else (t.routeAt dest via).map (·.obsolescence) := by
  by_cases writes : Writes t heardFrom port nodes dest via
  · obtain ⟨r, found, obs, -⟩ := routeAt_updateRoutes_of_writes writes
    rw [if_pos (inv.writes_iff.1 writes), found, Option.map_some', obs]
  · rw [if_neg (mt inv.writes_iff.2 writes), routeAt_updateRoutes_of_not writes]

/-- A prune lowers every obsolescence by one and drops the routes it brings to 0. -/
theorem obsolescence_pruneRoutes (t : RoutingTable) (dest via : AX25Call) :
    (t.pruneRoutes.routeAt dest via).map (·.obsolescence) =
      ((t.routeAt dest via).map (·.obsolescence)).bind fun o => if o - 1 ≤ 0 then none else some (o - 1) := by
  rw [routeAt_pruneRoutes]
  cases t.routeAt dest via with
  | none => rfl
  | some r => by_cases gone : r.obsolescence ≤ 1 <;> simp [decay, gone]

/-! ### The invariant -/

theorem fields_of_config {t t' : RoutingTable} (same : t'.config = t.config) :
    t'.ourCalls = t.ourCalls ∧ t'.defaultObs = t.defaultObs ∧ t'.defaultQuality = t.defaultQuality ∧
      t'.minQuality = t.minQuality := by
  simp only [config, Prod.mk.injEq] at same
  exact ⟨same.2.1, same.2.2.1, same.2.2.2.1, same.2.2.2.2.1⟩

theorem invariant_init (nodeAlias : String) (ourCalls : List AX25Call) : Invariant (init nodeAlias ourCalls) where
  defaults := ⟨rfl, rfl, rfl⟩
  neighborCall := by simp [init]
  destinationCall := by simp [DestinationsNamed, init]
  routeBounds := by simp [init, routeAt]
  viaDirect := by simp [init, routeAt]
  directNeighbor := by simp [init, routeAt]
  neighborDestination := by simp [init, PyDict.keys, PyDict.empty]

/-! ### An update keeps the invariant -/

section UpdateRoutes

variable {t : RoutingTable} {heardFrom : AX25Call} {port : Nat} {nodes : NetRomNodes}

/-- An update (re)installs the route to the sender through the sender itself, fresh. -/
theorem routeAt_updateRoutes_direct (t : RoutingTable) (heardFrom : AX25Call) (port : Nat) (nodes : NetRomNodes) :
    ∃ r, (t.updateRoutes heardFrom port nodes).routeAt heardFrom heardFrom = some r ∧ r.nextHop = heardFrom ∧
      r.obsolescence = t.defaultObs := by
  obtain ⟨r, found, obs, -⟩ := routeAt_updateRoutes_of_writes (.inl ⟨rfl, rfl⟩ : Writes t heardFrom port nodes _ _)
  obtain ⟨r', found', hop⟩ := nextHop_foldl_addAdvertised (t.heardNeighbor heardFrom port) heardFrom heardFrom
    nodes.destinations (t.addDirect heardFrom port nodes.sendingAlias) _ (by rw [routeAt_addDirect, if_pos ⟨rfl, rfl⟩])
  cases found.symm.trans found'
  exact ⟨r, found, hop, obs⟩

theorem mem_neighbors_updateRoutes {k : AX25Call} :
    k ∈ (t.updateRoutes heardFrom port nodes).neighbors.keys ↔ k = heardFrom ∨ k ∈ t.neighbors.keys := by
  by_cases here : k = heardFrom <;> simp [PyDict.mem_keys, here]

/-- A route after an update with byte qualities is within the bounds: a written one is fresh
    and of a quality that passed, the others are as they were. -/
theorem Invariant.routeBounds_updateRoutes (inv : Invariant t) (heard : ∀ d ∈ nodes.destinations, d.quality ≤ 255)
    {dest k : AX25Call} {r : Route} (found : (t.updateRoutes heardFrom port nodes).routeAt dest k = some r) :
    t.minQuality < r.quality ∧ r.quality ≤ t.defaultQuality ∧ 1 ≤ r.obsolescence ∧ r.obsolescence ≤ t.defaultObs := by
  obtain ⟨obs100, dq255, mq50⟩ := inv.defaults
  by_cases writes : Writes t heardFrom port nodes dest k
  · obtain ⟨r', found', obs', quality⟩ := routeAt_updateRoutes_of_writes writes
    cases found.symm.trans found'
    refine ⟨?_, ?_, by rw [obs', obs100]; norm_num, by rw [obs']⟩
    · rcases quality with q | ⟨d, -, passes, q⟩
      · rw [q, dq255, mq50]; norm_num
      · rw [q]; exact passes.1
    · rcases quality with q | ⟨d, mem, -, q⟩
      · rw [q]
      · rw [q, (inv.heardNeighbor heardFrom port).2, dq255]; exact_mod_cast routeQuality_le (heard d mem)
  · rw [routeAt_updateRoutes_of_not writes] at found
    exact inv.routeBounds dest k r found

/-- After an update every route still has a direct route to its first hop at least as fresh:
    a written route goes via the sender, whose direct route is fresh. -/
theorem Invariant.viaDirect_updateRoutes (inv : Invariant t) {dest k : AX25Call} {r : Route}
    (found : (t.updateRoutes heardFrom port nodes).routeAt dest k = some r) :
    ∃ r', (t.updateRoutes heardFrom port nodes).routeAt k k = some r' ∧ r.obsolescence ≤ r'.obsolescence := by
  by_cases writes : Writes t heardFrom port nodes dest k
  · obtain ⟨r', found', obs', -⟩ := routeAt_updateRoutes_of_writes writes
    obtain ⟨rd, foundDirect, -, obsDirect⟩ := routeAt_updateRoutes_direct t heardFrom port nodes
    cases found.symm.trans found'
    rw [(inv.writes_iff.1 writes).1]
    exact ⟨rd, foundDirect, by rw [obs', obsDirect]⟩
  · rw [routeAt_updateRoutes_of_not writes] at found
    obtain ⟨r', found', older⟩ := inv.viaDirect dest k r found
    by_cases refreshed : Writes t heardFrom port nodes k k
    · obtain ⟨r'', found'', obs'', -⟩ := routeAt_updateRoutes_of_writes refreshed
      exact ⟨r'', found'', by rw [obs'']; exact (inv.routeBounds dest k r found).2.2.2⟩
    · exact ⟨r', by rw [routeAt_updateRoutes_of_not refreshed]; exact found', older⟩

/-- An update with byte qualities keeps the invariant. -/
theorem Invariant.updateRoutes (inv : Invariant t) (heardFrom : AX25Call) (port : Nat) (nodes : NetRomNodes)
    (heard : ∀ d ∈ nodes.destinations, d.quality ≤ 255) :
    Invariant (t.updateRoutes heardFrom port nodes) := by
  obtain ⟨-, obs, dq, mq⟩ := fields_of_config (config_updateRoutes t heardFrom port nodes)
  refine ⟨by rw [obs, dq, mq]; exact inv.defaults, ?neighborCall, inv.destinationCall.updateRoutes _ _ _,
    fun dest k r found => by rw [obs, dq, mq]; exact inv.routeBounds_updateRoutes heard found,
    fun dest k r found => inv.viaDirect_updateRoutes found, ?directNeighbor, ?neighborDestination⟩
  case neighborCall =>
    intro k n found
    rw [neighbors_updateRoutes, PyDict.get?_set] at found
    rw [dq]
    split at found
    · rename_i here
      cases found
      obtain ⟨call, quality⟩ := inv.heardNeighbor heardFrom port
      exact ⟨call.trans here.symm, quality⟩
    · exact inv.neighborCall k n found
  case directNeighbor =>
    intro k found
    rw [mem_neighbors_updateRoutes]
    by_cases writes : Writes t heardFrom port nodes k k
    · exact .inl (inv.writes_iff.1 writes).1
    · rw [routeAt_updateRoutes_of_not writes] at found
      exact .inr (inv.directNeighbor k found)
  case neighborDestination =>
    intro k present
    rcases mem_neighbors_updateRoutes.1 present with rfl | old
    · obtain ⟨rd, foundDirect, -, -⟩ := routeAt_updateRoutes_direct t _ port nodes
      exact mem_keys_of_routeAt (Option.isSome_iff_exists.2 ⟨rd, foundDirect⟩)
    · obtain ⟨via, found⟩ := inv.destinationCall.exists_route (inv.neighborDestination k old)
      exact mem_keys_of_routeAt (routeAt_updateRoutes_isSome found)

end UpdateRoutes

/-- A route a prune leaves was there before it, one obsolescence higher and above 1. -/
theorem routeAt_pruneRoutes_eq_some {t : RoutingTable} {dest via : AX25Call} {r : Route}
    (found : t.pruneRoutes.routeAt dest via = some r) :
    ∃ r₀, t.routeAt dest via = some r₀ ∧ r = { r₀ with obsolescence := r₀.obsolescence - 1 } ∧
      1 < r₀.obsolescence := by
  rw [routeAt_pruneRoutes] at found
  obtain ⟨r₀, old, decayed⟩ := Option.bind_eq_some.1 found
  unfold decay at decayed
  dsimp only at decayed
  split at decayed
  · cases decayed
  · rename_i alive
    cases decayed
    exact ⟨r₀, old, rfl, by omega⟩

/-- A prune keeps the neighbour of every destination it keeps. -/
theorem neighbors_pruneRoutes_of_kept {t : RoutingTable} {k : AX25Call}
    (kept : (t.pruneRoutes.destinations.get? k).isSome) : t.pruneRoutes.neighbors.get? k = t.neighbors.get? k := by
  rw [neighbors_pruneRoutes, if_neg]
  rw [destinations_pruneRoutes_get?] at kept
  cases old : t.destinations.get? k with
  | none => simp
  | some d =>
    rw [old] at kept
    simpa [Option.any, Option.isSome_iff_ne_none] using kept

/-- A prune keeps the invariant. -/
theorem Invariant.pruneRoutes {t : RoutingTable} (inv : Invariant t) : Invariant t.pruneRoutes := by
  obtain ⟨-, obs, dq, mq⟩ := fields_of_config (config_pruneRoutes t)
  refine ⟨by rw [obs, dq, mq]; exact inv.defaults, ?neighborCall, inv.destinationCall.pruneRoutes, ?routeBounds,
    ?viaDirect, ?directNeighbor, ?neighborDestination⟩
  case neighborCall =>
    intro k n found
    rw [neighbors_pruneRoutes] at found
    rw [dq]
    split at found
    · cases found
    · exact inv.neighborCall k n found
  case routeBounds =>
    intro dest k r found
    obtain ⟨r₀, old, rfl, alive⟩ := routeAt_pruneRoutes_eq_some found
    obtain ⟨q₁, q₂, -, o₂⟩ := inv.routeBounds dest k r₀ old
    rw [obs, dq, mq]
    exact ⟨q₁, q₂, by dsimp only; omega, by dsimp only; omega⟩
  case viaDirect =>
    intro dest k r found
    obtain ⟨r₀, old, rfl, alive⟩ := routeAt_pruneRoutes_eq_some found
    obtain ⟨r', direct, older⟩ := inv.viaDirect dest k r₀ old
    refine ⟨{ r' with obsolescence := r'.obsolescence - 1 }, ?_, by dsimp only; omega⟩
    rw [routeAt_pruneRoutes, direct, Option.some_bind, decay, if_neg (by dsimp only; omega)]
  case directNeighbor =>
    intro k found
    obtain ⟨r, found'⟩ := Option.isSome_iff_exists.1 found
    rw [PyDict.mem_keys, neighbors_pruneRoutes_of_kept (PyDict.mem_keys.1 (mem_keys_of_routeAt found)),
      ← PyDict.mem_keys]
    obtain ⟨r₀, old, -, -⟩ := routeAt_pruneRoutes_eq_some found'
    exact inv.directNeighbor k (Option.isSome_iff_exists.2 ⟨r₀, old⟩)
  case neighborDestination =>
    intro k present
    rw [PyDict.mem_keys, neighbors_pruneRoutes] at present
    split at present
    · cases present
    · rename_i notDropped
      obtain ⟨d, old⟩ := Option.isSome_iff_exists.1
        (PyDict.mem_keys.1 (inv.neighborDestination k (PyDict.mem_keys.2 present)))
      rw [PyDict.mem_keys, destinations_pruneRoutes_get?, old]
      rw [old] at notDropped
      simpa [Option.any, Option.isSome_iff_ne_none] using notDropped

/-! ### Runs -/

@[simp] theorem config_apply (t : RoutingTable) (op : RoutingOp) : (op.apply t).config = t.config := by
  cases op <;> simp [RoutingOp.apply]

theorem Invariant.apply {t : RoutingTable} (inv : Invariant t) {op : RoutingOp} (heard : op.Heard) :
    Invariant (op.apply t) := by
  cases op with
  | updateRoutes heardFrom port nodes => exact inv.updateRoutes heardFrom port nodes fun d mem => (heard d mem).2
  | pruneRoutes => exact inv.pruneRoutes

/-- Every run with byte qualities keeps the invariant. -/
theorem Invariant.run {t : RoutingTable} (inv : Invariant t) :
    ∀ {ops : List RoutingOp}, (∀ op ∈ ops, op.Heard) → Invariant (t.run ops)
  | [], _ => inv
  | op :: _, heard =>
    (inv.apply (heard op (List.mem_cons_self _ _))).run fun op' mem => heard op' (List.mem_cons_of_mem _ mem)

theorem config_run (t : RoutingTable) (ops : List RoutingOp) : (t.run ops).config = t.config :=
  foldl_config _ config_apply ops t

/-- One call's effect on the number of prunes since the route for `(dest, via)` was last written. -/
def ageStep (ourCalls : List AX25Call) (dest via : AX25Call) (age : Option Nat) : RoutingOp → Option Nat
  | .updateRoutes heardFrom _ nodes => if Refreshes ourCalls heardFrom nodes dest via then some 0 else age
  | .pruneRoutes => age.map (· + 1)

/-- The prunes since the last update of the run that installed or refreshed the route for
    `(dest, via)`; `none` while none has. -/
def age (ourCalls : List AX25Call) (dest via : AX25Call) (ops : List RoutingOp) : Option Nat :=
  ops.foldl (ageStep ourCalls dest via) none

/-- The obsolescence a route of that age has: `default_obs` less the age, while that is
    positive; no route after that. -/
def obsolescenceOfAge (defaultObs : Int) (age : Option Nat) : Option Int :=
  age.bind fun n => if (n : Int) < defaultObs then some (defaultObs - n) else none

theorem Invariant.obsolescence_apply {t : RoutingTable} (inv : Invariant t) (op : RoutingOp) (dest via : AX25Call)
    {a : Option Nat} (aged : (t.routeAt dest via).map (·.obsolescence) = obsolescenceOfAge t.defaultObs a) :
    ((op.apply t).routeAt dest via).map (·.obsolescence) =
      obsolescenceOfAge t.defaultObs (ageStep t.ourCalls dest via a op) := by
  cases op with
  | updateRoutes heardFrom port nodes =>
    rw [RoutingOp.apply, inv.obsolescence_updateRoutes, ageStep]
    split
    · simp [obsolescenceOfAge, inv.defaults.1]
    · exact aged
  | pruneRoutes =>
    rw [RoutingOp.apply, obsolescence_pruneRoutes, aged, ageStep]
    cases a with
    | none => rfl
    | some n =>
      simp only [obsolescenceOfAge, Option.map_some', Option.some_bind, inv.defaults.1, Nat.cast_add, Nat.cast_one]
      by_cases young : (n : Int) + 1 < 100
      · rw [if_pos (by omega), if_pos young, Option.some_bind, if_neg (by omega)]
        congr 1
        omega
      · by_cases last : (n : Int) < 100
        · rw [if_pos last, if_neg young, Option.some_bind, if_pos (by omega)]
        · rw [if_neg last, if_neg young]
          rfl

theorem Invariant.obsolescence_run {t : RoutingTable} (inv : Invariant t) (dest via : AX25Call) :
    ∀ {ops : List RoutingOp} {a : Option Nat}, (∀ op ∈ ops, op.Heard) →
      (t.routeAt dest via).map (·.obsolescence) = obsolescenceOfAge t.defaultObs a →
      ((t.run ops).routeAt dest via).map (·.obsolescence) =
        obsolescenceOfAge t.defaultObs (ops.foldl (ageStep t.ourCalls dest via) a)
  | [], _, _, aged => aged
  | op :: _, _, heard, aged => by
    obtain ⟨ourCalls, obs, -, -⟩ := fields_of_config (config_apply t op)
    have step := inv.obsolescence_apply op dest via aged
    rw [← obs, ← ourCalls] at step ⊢
    exact (inv.apply (heard op (List.mem_cons_self _ _))).obsolescence_run dest via
      (fun op' mem => heard op' (List.mem_cons_of_mem _ mem)) step

/-- A run's last `n` prunes add `n` to every age. -/
theorem age_append_prunes (ourCalls : List AX25Call) (dest via : AX25Call) (ops : List RoutingOp) (n : Nat) :
    age ourCalls dest via (ops ++ List.replicate n .pruneRoutes) = (age ourCalls dest via ops).map (· + n) := by
  induction n with
  | zero => simp [age]
  | succ n ih =>
    rw [List.replicate_succ', ← List.append_assoc, age, List.foldl_append, ← age, ih]
    cases age ourCalls dest via ops <;> simp [ageStep, Nat.add_assoc]

theorem run_append (t : RoutingTable) (ops ops' : List RoutingOp) : t.run (ops ++ ops') = (t.run ops).run ops' :=
  List.foldl_append _ _ _ _

/-- From the empty table, a route's obsolescence is `default_obs` less the prunes since the
    update that last installed or refreshed it. -/
theorem obsolescence_run_init (nodeAlias : String) (ourCalls : List AX25Call) {ops : List RoutingOp}
    (heard : ∀ op ∈ ops, op.Heard) (dest via : AX25Call) :
    (((init nodeAlias ourCalls).run ops).routeAt dest via).map (·.obsolescence) =
      obsolescenceOfAge 100 (age ourCalls dest via ops) :=
  (invariant_init nodeAlias ourCalls).obsolescence_run dest via heard rfl

/-- A table that keeps the invariant and has no route has no destination, since each has a
    route, and so no neighbour. -/
theorem Invariant.empty_of_no_route {t : RoutingTable} (inv : Invariant t) (noRoute : ∀ dest via, t.routeAt dest via = none) :
    t.destinations.keys = [] ∧ t.neighbors.keys = [] := by
  have noDestination : t.destinations.keys = [] := by
    rw [PyDict.keys_eq_nil]
    intro dest
    cases found : t.destinations.get? dest with
    | none => rfl
    | some d =>
      obtain ⟨via, some'⟩ := inv.destinationCall.exists_route
        (show dest ∈ t.destinations.keys from PyDict.mem_keys.2 (by simp [found]))
      simp [noRoute] at some'
  refine ⟨noDestination, PyDict.keys_eq_nil.2 fun k => ?_⟩
  cases found : t.neighbors.get? k with
  | none => rfl
  | some n =>
    have := inv.neighborDestination k (PyDict.mem_keys.2 (by simp [found]))
    simp [noDestination] at this

/-- `default_obs` prunes in a row leave no route, so no destination and no neighbour. -/
theorem run_prunes_empty (nodeAlias : String) (ourCalls : List AX25Call) {ops : List RoutingOp}
    (heard : ∀ op ∈ ops, op.Heard) :
    let t := ((init nodeAlias ourCalls).run ops).run (List.replicate 100 .pruneRoutes)
    t.destinations.keys = [] ∧ t.neighbors.keys = [] := by
  intro t
  have heard' : ∀ op ∈ ops ++ List.replicate 100 .pruneRoutes, op.Heard := by
    intro op mem
    rcases List.mem_append.1 mem with old | prune
    · exact heard op old
    · rw [List.eq_of_mem_replicate prune]; trivial
  have inv : Invariant t := by
    show Invariant (((init nodeAlias ourCalls).run ops).run _)
    rw [← run_append]; exact (invariant_init nodeAlias ourCalls).run heard'
  refine inv.empty_of_no_route fun dest via => ?_
  have aged := obsolescence_run_init nodeAlias ourCalls heard' dest via
  rw [age_append_prunes, run_append] at aged
  cases found : t.routeAt dest via with
  | none => rfl
  | some r =>
    rw [found] at aged
    cases a : age ourCalls dest via ops <;> simp [a, obsolescenceOfAge] at aged

/-- From the empty table, every run of `update_routes` with byte qualities and `prune_routes`
    keeps the invariant, each route's obsolescence is `default_obs` less the prunes since the
    update that last wrote it, and `default_obs` more prunes empty the table. -/
theorem routing_run_invariant (nodeAlias : String) (ourCalls : List AX25Call) (ops : List RoutingOp)
    (heard : ∀ op ∈ ops, op.Heard) :
    let t := (init nodeAlias ourCalls).run ops
    (∀ dest d, t.destinations.get? dest = some d → d.nodeCall = dest ∧ d.neighborMap.keys ≠ []) ∧
    (∀ dest via r, t.routeAt dest via = some r →
      t.minQuality < r.quality ∧ r.quality ≤ t.defaultQuality ∧ 1 ≤ r.obsolescence ∧ r.obsolescence ≤ t.defaultObs) ∧
    (∀ dest via, (t.routeAt dest via).map (·.obsolescence) =
      obsolescenceOfAge t.defaultObs (age ourCalls dest via ops)) ∧
    (∀ dest d via, t.destinations.get? dest = some d → via ∈ d.neighborMap.keys → via ∈ t.neighbors.keys) ∧
    (∀ k ∈ t.neighbors.keys, k ∈ t.destinations.keys) ∧
    (t.run (List.replicate t.defaultObs.toNat .pruneRoutes)).destinations.keys = [] ∧
    (t.run (List.replicate t.defaultObs.toNat .pruneRoutes)).neighbors.keys = [] := by
  intro t
  have inv : Invariant t := (invariant_init nodeAlias ourCalls).run heard
  have hundred : t.defaultObs = 100 := inv.defaults.1
  refine ⟨inv.destinationCall, inv.routeBounds, fun dest via => ?_, fun dest d via found mem => ?_,
    inv.neighborDestination, ?_⟩
  · rw [hundred]
    exact obsolescence_run_init nodeAlias ourCalls heard dest via
  · obtain ⟨r, route⟩ := Option.isSome_iff_exists.1 (PyDict.mem_keys.1 mem)
    obtain ⟨r', direct, -⟩ := inv.viaDirect dest via r (by simp [routeAt, found, route])
    exact inv.directNeighbor via (by simp [direct])
  · rw [hundred]
    exact run_prunes_empty nodeAlias ourCalls heard

/-- The run of one update from `N1CALL` advertising `N3CALL` with quality 200, then one prune. -/
theorem routing_run_invariant_two_calls :
    (∀ op ∈ [RoutingOp.updateRoutes ⟨"N1CALL", 0⟩ 0 ⟨"ONE", [⟨⟨"N3CALL", 0⟩, "THREE", ⟨"N2CALL", 0⟩, 200⟩]⟩,
      .pruneRoutes], op.Heard) ∧
    let t := (init "ME" []).run [.updateRoutes ⟨"N1CALL", 0⟩ 0 ⟨"ONE", [⟨⟨"N3CALL", 0⟩, "THREE", ⟨"N2CALL", 0⟩, 200⟩]⟩,
      .pruneRoutes]
    (∀ dest d, t.destinations.get? dest = some d → d.nodeCall = dest ∧ d.neighborMap.keys ≠ []) ∧
    (∀ dest via r, t.routeAt dest via = some r →
      t.minQuality < r.quality ∧ r.quality ≤ t.defaultQuality ∧ 1 ≤ r.obsolescence ∧ r.obsolescence ≤ t.defaultObs) ∧
    (∀ dest via, (t.routeAt dest via).map (·.obsolescence) = obsolescenceOfAge t.defaultObs
      (age [] dest via [.updateRoutes ⟨"N1CALL", 0⟩ 0 ⟨"ONE", [⟨⟨"N3CALL", 0⟩, "THREE", ⟨"N2CALL", 0⟩, 200⟩]⟩,
        .pruneRoutes])) ∧
    (∀ dest d via, t.destinations.get? dest = some d → via ∈ d.neighborMap.keys → via ∈ t.neighbors.keys) ∧
    (∀ k ∈ t.neighbors.keys, k ∈ t.destinations.keys) ∧
    (t.run (List.replicate t.defaultObs.toNat .pruneRoutes)).destinations.keys = [] ∧
    (t.run (List.replicate t.defaultObs.toNat .pruneRoutes)).neighbors.keys = [] :=
  have heard : ∀ op ∈ [RoutingOp.updateRoutes ⟨"N1CALL", 0⟩ 0 ⟨"ONE", [⟨⟨"N3CALL", 0⟩, "THREE", ⟨"N2CALL", 0⟩, 200⟩]⟩,
      .pruneRoutes], op.Heard := by
    simp [RoutingOp.Heard]
  ⟨heard, routing_run_invariant "ME" [] _ heard⟩

/-- A NODES record of quality 256, which no NODES frame carries, gives a route of quality 255.5,
    above `default_quality`. -/
theorem run_quality_over_default :
    let t := (init "ME" []).run [.updateRoutes ⟨"N1CALL", 0⟩ 0 ⟨"ONE", [⟨⟨"N3CALL", 0⟩, "THREE", ⟨"N2CALL", 0⟩, 256⟩]⟩]
    ∃ r, t.routeAt ⟨"N3CALL", 0⟩ ⟨"N1CALL", 0⟩ = some r ∧ (t.defaultQuality : ℚ) < r.quality := by
  obtain ⟨d, mem, -, r, found, quality, -⟩ := routeAt_foldl_addAdvertised_of_mem
    ((init "ME" []).heardNeighbor ⟨"N1CALL", 0⟩ 0) ⟨"N3CALL", 0⟩ ⟨"N1CALL", 0⟩
    [⟨⟨"N3CALL", 0⟩, "THREE", ⟨"N2CALL", 0⟩, 256⟩] (((init "ME" []).addDirect ⟨"N1CALL", 0⟩ 0 "ONE"))
    ⟨_, List.mem_singleton_self _, by norm_num [Advertises, routeQuality, heardNeighbor, init], rfl, rfl⟩
  rw [List.mem_singleton] at mem
  subst mem
  refine ⟨r, found, ?_⟩
  rw [quality, (fields_of_config (config_run _ _)).2.2.1]
  norm_num [routeQuality, heardNeighbor, init]

/-! ### The records of `get_nodes` -/

/-- Every record of `get_nodes` is made from a stored destination and one of its stored
    routes. -/
theorem mem_getNodes {t : RoutingTable} {d : NodeDestination} (mem : d ∈ t.getNodes.destinations) :
    ∃ dest via dst r, t.destinations.get? dest = some dst ∧ t.routeAt dest via = some r ∧
      d = ⟨dst.nodeCall, dst.nodeAlias, r.nextHop, truncate r.quality⟩ := by
  obtain ⟨-, bests, records, kept, best⟩ := getNodes_spec t
  rw [records] at mem
  obtain ⟨b, chosen, rfl⟩ := List.mem_map.1 mem
  obtain ⟨dest, found⟩ := PyDict.mem_values.1 (List.mem_of_mem_filter (kept ▸ List.mem_map_of_mem Prod.fst chosen))
  obtain ⟨via, route⟩ := PyDict.mem_values.1 (best b chosen).1
  exact ⟨dest, via, b.1, b.2, found, by simp [routeAt, found, route], rfl⟩

/-- Every route's quality is above `min_quality`, itself below `default_quality`: a direct route
    has `default_quality`, and an advertised one is stored only once its quality passes. No
    bound on the advertised qualities is needed. -/
def QualityAboveMin (t : RoutingTable) : Prop :=
  (t.minQuality : ℚ) < t.defaultQuality ∧ ∀ dest via r, t.routeAt dest via = some r → (t.minQuality : ℚ) < r.quality

theorem QualityAboveMin.updateRoutes {t : RoutingTable} (above : QualityAboveMin t) (heardFrom : AX25Call)
    (port : Nat) (nodes : NetRomNodes) : QualityAboveMin (t.updateRoutes heardFrom port nodes) := by
  obtain ⟨-, -, quality, minimum⟩ := fields_of_config (config_updateRoutes t heardFrom port nodes)
  refine ⟨by rw [quality, minimum]; exact above.1, fun dest via r found => ?_⟩
  rw [minimum]
  by_cases writes : Writes t heardFrom port nodes dest via
  · obtain ⟨r', found', -, written⟩ := routeAt_updateRoutes_of_writes writes
    rw [found, Option.some.injEq] at found'
    subst found'
    rcases written with direct | ⟨d, -, passes, advertised⟩
    · rw [direct]; exact above.1
    · rw [advertised]; exact passes.1
  · rw [routeAt_updateRoutes_of_not writes] at found
    exact above.2 dest via r found

theorem QualityAboveMin.pruneRoutes {t : RoutingTable} (above : QualityAboveMin t) :
    QualityAboveMin t.pruneRoutes := by
  obtain ⟨-, -, quality, minimum⟩ := fields_of_config (config_pruneRoutes t)
  refine ⟨by rw [quality, minimum]; exact above.1, fun dest via r found => ?_⟩
  obtain ⟨r₀, old, rfl, -⟩ := routeAt_pruneRoutes_eq_some found
  rw [minimum]
  exact above.2 dest via r₀ old

theorem QualityAboveMin.run {t : RoutingTable} (above : QualityAboveMin t) :
    ∀ ops : List RoutingOp, QualityAboveMin (t.run ops)
  | [] => above
  | .updateRoutes heardFrom port nodes :: ops => (above.updateRoutes heardFrom port nodes).run ops
  | .pruneRoutes :: ops => above.pruneRoutes.run ops

theorem qualityAboveMin_init (nodeAlias : String) (ourCalls : List AX25Call) :
    QualityAboveMin (init nodeAlias ourCalls) :=
  ⟨by norm_num [init], by simp [init, routeAt]⟩

/-- `int()` of a quality above `low` is at least `low`. -/
theorem le_truncate {q : ℚ} {low : Nat} (above : (low : ℚ) < q) : (low : Int) ≤ truncate q := by
  rw [truncate, if_pos (le_trans (Nat.cast_nonneg low) above.le)]
  exact Int.le_floor.2 (by exact_mod_cast above.le)

/-- `int()` of a nonnegative quality of at most 255 is a byte, which `& 0xff` leaves as it is. -/
theorem truncate_byte {q : ℚ} (nonneg : 0 ≤ q) (byte : q ≤ 255) :
    truncate q ≤ 255 ∧ truncate q % 256 = truncate q := by
  have floor : (⌊q⌋ : ℚ) ≤ 255 := (Int.floor_le q).trans byte
  have low : 0 ≤ ⌊q⌋ := Int.floor_nonneg.2 nonneg
  have high : ⌊q⌋ ≤ 255 := by exact_mod_cast floor
  rw [truncate, if_pos nonneg, show q.floor = ⌊q⌋ from rfl]
  exact ⟨high, Int.emod_eq_of_lt low (by omega)⟩

/-- The advertisement of every table a run reaches: a record per destination with a route of
    `obsolescence >= min_obs`, with a best such route's next hop and truncated quality, at least
    `min_quality`, and at most 255 when every record of every `update_routes` call has a quality
    from 0 to 255. -/
theorem getNodes_best (nodeAlias : String) (ourCalls : List AX25Call) (ops : List RoutingOp) :
    let t := (init nodeAlias ourCalls).run ops
    t.getNodes.sendingAlias = t.nodeAlias ∧
      (∃ bests : List (Destination × Route),
        t.getNodes.destinations =
          bests.map (fun b => ⟨b.1.nodeCall, b.1.nodeAlias, b.2.nextHop, truncate b.2.quality⟩) ∧
        bests.map Prod.fst =
          t.destinations.values.filter (fun d => d.neighborMap.values.any (t.minObs ≤ ·.obsolescence)) ∧
        ∀ b ∈ bests, b.2 ∈ b.1.neighborMap.values ∧ t.minObs ≤ b.2.obsolescence ∧
          ∀ r ∈ b.1.neighborMap.values, t.minObs ≤ r.obsolescence → r.quality ≤ b.2.quality) ∧
      (∀ d ∈ t.getNodes.destinations, (t.minQuality : Int) ≤ d.quality) ∧
      ((∀ op ∈ ops, op.Heard) → ∀ d ∈ t.getNodes.destinations, d.quality ≤ 255 ∧ d.quality % 256 = d.quality) := by
  intro t
  obtain ⟨named, records⟩ := getNodes_spec t
  have above : QualityAboveMin t := (qualityAboveMin_init nodeAlias ourCalls).run ops
  refine ⟨named, records, fun d mem => ?_, fun heard d mem => ?_⟩ <;>
    obtain ⟨dest, via, -, r, -, found, rfl⟩ := mem_getNodes mem
  · exact le_truncate (above.2 dest via r found)
  · have inv : Invariant t := (invariant_init nodeAlias ourCalls).run heard
    obtain ⟨low, high, -, -⟩ := inv.routeBounds dest via r found
    have default : (t.defaultQuality : ℚ) = 255 := by rw [inv.defaults.2.1]; rfl
    exact truncate_byte (le_trans (Nat.cast_nonneg _) low.le) (default ▸ high)

theorem getNodes_best_heard :
    (∀ op ∈ [RoutingOp.updateRoutes ⟨"N1CALL", 0⟩ 0 ⟨"ONE", [⟨⟨"N3CALL", 0⟩, "THREE", ⟨"N2CALL", 0⟩, 200⟩]⟩,
      .pruneRoutes], op.Heard) ∧
    ∀ d ∈ ((init "ME" []).run [.updateRoutes ⟨"N1CALL", 0⟩ 0 ⟨"ONE", [⟨⟨"N3CALL", 0⟩, "THREE", ⟨"N2CALL", 0⟩, 200⟩]⟩,
      .pruneRoutes]).getNodes.destinations, d.quality ≤ 255 ∧ d.quality % 256 = d.quality :=
  have heard : ∀ op ∈ [RoutingOp.updateRoutes ⟨"N1CALL", 0⟩ 0 ⟨"ONE", [⟨⟨"N3CALL", 0⟩, "THREE", ⟨"N2CALL", 0⟩, 200⟩]⟩,
      .pruneRoutes], op.Heard := by
    simp [RoutingOp.Heard]
  ⟨heard, (getNodes_best "ME" [] _).2.2.2 heard⟩

/-- A NODES record of quality 257, which no NODES frame carries, gives a route of quality
    65663/256 and a `get_nodes` record of quality 256, above 255: `& 0xff` writes it as 0. -/
theorem getNodes_quality_over_byte :
    ((init "ME" []).run [.updateRoutes ⟨"N1CALL", 0⟩ 0 ⟨"ONE", [⟨⟨"N3CALL", 0⟩, "THREE", ⟨"N2CALL", 0⟩, 257⟩]⟩]).getNodes =
      ⟨"ME", [⟨⟨"N1CALL", 0⟩, "ONE", ⟨"N1CALL", 0⟩, 255⟩, ⟨⟨"N3CALL", 0⟩, "THREE", ⟨"N2CALL", 0⟩, 256⟩]⟩ ∧
      (256 : Int) % 256 = 0 := by
  have passes : routeQuality [] 255 ⟨⟨"N3CALL", 0⟩, "THREE", ⟨"N2CALL", 0⟩, 257⟩ > ((50 : Nat) : ℚ) := by
    norm_num [routeQuality]
  have table : (init "ME" []).run [.updateRoutes ⟨"N1CALL", 0⟩ 0 ⟨"ONE", [⟨⟨"N3CALL", 0⟩, "THREE", ⟨"N2CALL", 0⟩, 257⟩]⟩] =
      ⟨"ME", [], PyDict.empty.set ⟨"N1CALL", 0⟩ ⟨⟨"N1CALL", 0⟩, 0, 255⟩,
        (PyDict.empty.set ⟨"N1CALL", 0⟩ ⟨⟨"N1CALL", 0⟩, "ONE",
          PyDict.empty.set ⟨"N1CALL", 0⟩ ⟨⟨"N1CALL", 0⟩, ⟨"N1CALL", 0⟩, 255, 100⟩⟩).set ⟨"N3CALL", 0⟩
          ⟨⟨"N3CALL", 0⟩, "THREE", PyDict.empty.set ⟨"N1CALL", 0⟩
            ⟨⟨"N3CALL", 0⟩, ⟨"N2CALL", 0⟩, routeQuality [] 255 ⟨⟨"N3CALL", 0⟩, "THREE", ⟨"N2CALL", 0⟩, 257⟩, 100⟩⟩,
        100, 255, 50, 4⟩ := by
    simp only [run, List.foldl, RoutingOp.apply, updateRoutes, addAdvertised, heardNeighbor, init,
      PyDict.get?_empty, Option.getD_none, ourCalls_addDirect, minQuality_addDirect]
    rw [if_pos passes]
    rfl
  have over : truncate (routeQuality [] 255 ⟨⟨"N3CALL", 0⟩, "THREE", ⟨"N2CALL", 0⟩, 257⟩) = 256 := by
    rw [truncate, if_pos (by norm_num [routeQuality]), show ∀ q : ℚ, q.floor = ⌊q⌋ from fun _ => rfl,
      Int.floor_eq_iff]
    norm_num [routeQuality]
  have values : ((PyDict.empty.set ⟨"N1CALL", 0⟩ ⟨⟨"N1CALL", 0⟩, "ONE",
      PyDict.empty.set ⟨"N1CALL", 0⟩ ⟨⟨"N1CALL", 0⟩, ⟨"N1CALL", 0⟩, 255, 100⟩⟩).set ⟨"N3CALL", 0⟩
      ⟨⟨"N3CALL", 0⟩, "THREE", PyDict.empty.set ⟨"N1CALL", 0⟩
        ⟨⟨"N3CALL", 0⟩, ⟨"N2CALL", 0⟩, routeQuality [] 255 ⟨⟨"N3CALL", 0⟩, "THREE", ⟨"N2CALL", 0⟩, 257⟩, 100⟩⟩ :
        PyDict AX25Call Destination).values =
      [⟨⟨"N1CALL", 0⟩, "ONE", PyDict.empty.set ⟨"N1CALL", 0⟩ ⟨⟨"N1CALL", 0⟩, ⟨"N1CALL", 0⟩, 255, 100⟩⟩,
        ⟨⟨"N3CALL", 0⟩, "THREE", PyDict.empty.set ⟨"N1CALL", 0⟩
          ⟨⟨"N3CALL", 0⟩, ⟨"N2CALL", 0⟩, routeQuality [] 255 ⟨⟨"N3CALL", 0⟩, "THREE", ⟨"N2CALL", 0⟩, 257⟩, 100⟩⟩] :=
    rfl
  rw [table]
  refine ⟨?_, rfl⟩
  simp only [getNodes, values, List.filterMap_cons, List.filterMap_nil, sortedNeighbors, PyDict.values_set_empty,
    List.mergeSort_singleton, List.find?_cons, List.find?_nil]
  simp only [ge_iff_le, show (4 : Int) ≤ 100 by decide, decide_True, over]
  decide

end RoutingTable

end Tarpn.Netrom
