import Tarpn.Network.Heapq
import Mathlib.Data.List.MinMax

/-!
`L3PriorityQueue`, the outbound queue between L3 and an L2 device, over `queue.PriorityQueue`:
`offer` is `put(packet, False, None)`, refused when full, and `maybe_take` is `get(True, 1.0)`,
`None` when empty. `L3Payload` compares by `qos` alone, so payloads of one qos come out in
whatever order the heap leaves them. Every run refines `SpecQueue`, the bounded priority queue
the spec describes, whose `maybe_take` may return any held payload of the smallest qos.
-/

namespace Tarpn.Network

open Tarpn.Heapq

/-- `QoS`, an `IntEnum`. -/
inductive QoS
  | Highest
  | Higher
  | Default
  | Lower
  | Lowest
  deriving DecidableEq, Repr, Inhabited

/-- The int of each `QoS` member. -/
def QoS.value : QoS → Nat
  | .Highest => 0
  | .Higher => 1
  | .Default => 2
  | .Lower => 3
  | .Lowest => 4

/-- `L3Payload`, without `source` and `destination` (fields of the empty `L3Address`, which
    neither comparisons nor the queue read). -/
structure L3Payload where
  protocol : Nat
  buffer : List UInt8
  linkId : Nat
  qos : QoS := .Default
  reliable : Bool := true
  deriving DecidableEq, Repr, Inhabited

/-- What the comparisons `order=True` generates read: the tuple of the `compare=True` fields,
    `(qos,)`, an int. -/
def L3Payload.compareKey (p : L3Payload) : Nat := p.qos.value

/-- `L3PriorityQueue`: the `maxsize` of its `queue.PriorityQueue` and that queue's heap list. -/
structure L3PriorityQueue where
  maxsize : Int
  queue : List L3Payload

/-- The default `max_size` of `L3PriorityQueue`. -/
def defaultMaxSize : Int := 20

/-- A call on the queue. -/
inductive QueueOp
  | offer (packet : L3Payload)
  | maybeTake

/-- What a call returns. -/
inductive QueueReply
  | offered (accepted : Bool)
  | taken (packet : Option L3Payload)
  deriving DecidableEq, Repr

namespace L3PriorityQueue

/-- `L3PriorityQueue(max_size)`. -/
def init (maxSize : Int) : L3PriorityQueue := ⟨maxSize, []⟩

/-- `offer(packet)`: `put` raises `Full`, and `offer` returns `False`, when `maxsize > 0` and
    `qsize() >= maxsize`; otherwise `heappush` and `True`. -/
def offer (q : L3PriorityQueue) (packet : L3Payload) : L3PriorityQueue × Bool :=
  if 0 < q.maxsize ∧ q.maxsize ≤ q.queue.length then (q, false)
  else ({ q with queue := heappush L3Payload.compareKey q.queue packet }, true)

/-- `maybe_take()`: `get` raises `Empty`, and `maybe_take` returns `None`, while `qsize()` is 0;
    otherwise `heappop`, whose `IndexError` nothing catches. -/
def maybeTake (q : L3PriorityQueue) : Except PyError (L3PriorityQueue × Option L3Payload) :=
  if q.queue.length = 0 then .ok (q, none)
  else do
    let (item, rest) ← heappop L3Payload.compareKey q.queue
    pure ({ q with queue := rest }, some item)

/-- A run of calls, one at a time, with what each returns; an exception ends the run. -/
def run (q : L3PriorityQueue) : List QueueOp → Except PyError (L3PriorityQueue × List QueueReply)
  | [] => .ok (q, [])
  | .offer packet :: ops => do
    let (q', accepted) := q.offer packet
    let (q'', replies) ← q'.run ops
    pure (q'', .offered accepted :: replies)
  | .maybeTake :: ops => do
    let (q', packet) ← q.maybeTake
    let (q'', replies) ← q'.run ops
    pure (q'', .taken packet :: replies)

/-- What every reachable queue keeps: a heap on the qos, of at most `maxsize` payloads when
    `maxsize` is positive. -/
structure Valid (q : L3PriorityQueue) : Prop where
  ordered : HeapOrdered L3Payload.compareKey q.queue
  bounded : 0 < q.maxsize → q.queue.length ≤ q.maxsize

theorem valid_init (maxSize : Int) : (init maxSize).Valid where
  ordered i _ inside := absurd inside (Nat.not_lt_zero i)
  bounded positive := by simp only [init, List.length_nil, Int.ofNat_zero] at positive ⊢; omega

end L3PriorityQueue

/-! ### The specification -/

/-- The bounded priority queue the spec describes: `max_size` and the payloads held, in the
    order they were offered. -/
structure SpecQueue where
  maxSize : Int
  contents : List L3Payload

namespace SpecQueue

/-- An empty queue. -/
def init (maxSize : Int) : SpecQueue := ⟨maxSize, []⟩

/-- `offer(p)` fails exactly when `max_size` payloads are held, and then changes nothing. -/
def offer (s : SpecQueue) (packet : L3Payload) : SpecQueue × Bool :=
  if 0 < s.maxSize ∧ s.maxSize ≤ s.contents.length then (s, false)
  else ({ s with contents := s.contents ++ [packet] }, true)

/-- `maybe_take` returns `None` exactly when the queue is empty, and otherwise removes and
    returns a held payload of the smallest qos. -/
def Takes (s : SpecQueue) : Option L3Payload → SpecQueue → Prop
  | none, s' => s.contents = [] ∧ s' = s
  | some item, s' => item ∈ s.contents ∧ (∀ y ∈ s.contents, item.qos.value ≤ y.qos.value) ∧
      s' = { s with contents := s.contents.erase item }

/-- The runs the spec allows: each call in turn, with the reply it gives. -/
inductive Runs : SpecQueue → List QueueOp → List QueueReply → SpecQueue → Prop
  | nil (s : SpecQueue) : Runs s [] [] s
  | offer {s s' : SpecQueue} {packet : L3Payload} {ops : List QueueOp} {replies : List QueueReply} :
      Runs (s.offer packet).1 ops replies s' →
      Runs s (.offer packet :: ops) (.offered (s.offer packet).2 :: replies) s'
  | take {s s₁ s' : SpecQueue} {taken : Option L3Payload} {ops : List QueueOp} {replies : List QueueReply} :
      s.Takes taken s₁ → Runs s₁ ops replies s' → Runs s (.maybeTake :: ops) (.taken taken :: replies) s'

/-- The spec's words, FIFO within a qos class: the earliest offered payload of the smallest
    qos. -/
def stableTake (s : SpecQueue) : SpecQueue × Option L3Payload :=
  match s.contents.find? (fun p => s.contents.all fun y => p.qos.value ≤ y.qos.value) with
  | none => (s, none)
  | some item => ({ s with contents := s.contents.erase item }, some item)

/-- The replies of the stable queue's run. -/
def stableRun (s : SpecQueue) : List QueueOp → List QueueReply
  | [] => []
  | .offer packet :: ops => .offered (s.offer packet).2 :: (s.offer packet).1.stableRun ops
  | .maybeTake :: ops => .taken s.stableTake.2 :: s.stableTake.1.stableRun ops

/-- The first-come take is one the spec allows: the earliest payload of the smallest qos is a
    held payload of the smallest qos, and an empty queue gives `None`. -/
theorem takes_stableTake (s : SpecQueue) : s.Takes s.stableTake.2 s.stableTake.1 := by
  unfold stableTake
  split
  · rename_i none'
    refine ⟨?_, rfl⟩
    by_contra nonempty
    obtain ⟨m, least⟩ := Option.ne_none_iff_exists'.1
      (mt (List.argmin_eq_none (f := fun p : L3Payload => p.qos.value)).1 nonempty)
    exact List.find?_eq_none.1 none' m (List.argmin_mem least) (List.all_eq_true.2 fun y mem =>
      decide_eq_true (List.le_of_mem_argmin (f := fun p : L3Payload => p.qos.value) mem least))
  · rename_i item found
    exact ⟨List.mem_of_find?_eq_some found, by simpa using List.find?_some found, rfl⟩

/-- The first-come queue is one run of the spec. -/
theorem runs_stableRun (ops : List QueueOp) : ∀ s : SpecQueue, ∃ s', s.Runs ops (s.stableRun ops) s' := by
  induction ops with
  | nil => exact fun s => ⟨s, .nil s⟩
  | cons op ops ih =>
    intro s
    cases op with
    | offer packet =>
      obtain ⟨s', runs⟩ := ih (s.offer packet).1
      exact ⟨s', .offer runs⟩
    | maybeTake =>
      obtain ⟨s', runs⟩ := ih s.stableTake.1
      exact ⟨s', .take (takes_stableTake s) runs⟩

end SpecQueue

/-! ### Refinement -/

namespace L3PriorityQueue

/-- The heap holds the spec's payloads, in some order, under the same bound. -/
def Refines (q : L3PriorityQueue) (s : SpecQueue) : Prop :=
  q.maxsize = s.maxSize ∧ q.queue.Perm s.contents

section Step

variable {q : L3PriorityQueue} {s : SpecQueue}

/-- `offer` answers as the spec does and pushes the payload the spec appends. -/
theorem offer_refines (valid : q.Valid) (refines : Refines q s) (packet : L3Payload) :
    (q.offer packet).2 = (s.offer packet).2 ∧ (q.offer packet).1.Valid ∧
      Refines (q.offer packet).1 (s.offer packet).1 := by
  obtain ⟨sameSize, perm⟩ := refines
  have sameRoom : (0 < q.maxsize ∧ q.maxsize ≤ q.queue.length) ↔
      (0 < s.maxSize ∧ s.maxSize ≤ s.contents.length) := by
    rw [sameSize, perm.length_eq]
  unfold offer SpecQueue.offer
  by_cases room : 0 < q.maxsize ∧ q.maxsize ≤ q.queue.length
  · rw [if_pos room, if_pos (sameRoom.1 room)]
    exact ⟨rfl, valid, sameSize, perm⟩
  · rw [if_neg room, if_neg (mt sameRoom.2 room)]
    obtain ⟨ordered, pushed⟩ := heappush_spec valid.ordered packet
    refine ⟨rfl, ⟨ordered, fun positive => ?_⟩, sameSize, pushed.trans (perm.append_right _)⟩
    dsimp only at positive ⊢
    rw [pushed.length_eq, List.length_append, List.length_singleton]
    omega

/-- `maybe_take` never raises, and takes what the spec may take. -/
theorem maybeTake_refines (valid : q.Valid) (refines : Refines q s) :
    ∃ q' taken, q.maybeTake = .ok (q', taken) ∧ q'.Valid ∧ ∃ s', s.Takes taken s' ∧ Refines q' s' := by
  obtain ⟨sameSize, perm⟩ := refines
  by_cases empty : q.queue.length = 0
  · have nil : q.queue = [] := List.eq_nil_of_length_eq_zero empty
    have emptySpec : s.contents = [] := (show ([] : List L3Payload).Perm s.contents from nil ▸ perm).nil_eq.symm
    exact ⟨q, none, if_pos empty, valid, s, ⟨emptySpec, rfl⟩, sameSize, perm⟩
  · obtain ⟨item, rest, popped, ordered, split, least⟩ :=
      heappop_spec valid.ordered (fun nil => empty (by rw [nil]; rfl))
    have held : item ∈ s.contents := perm.subset (split.subset (List.mem_cons_self item rest))
    refine ⟨{ q with queue := rest }, some item, ?_, ⟨ordered, fun positive => ?_⟩,
      { s with contents := s.contents.erase item }, ⟨held, fun y mem => least y (perm.mem_iff.2 mem), rfl⟩,
      sameSize, (List.perm_cons item).1 (split.trans (perm.trans (List.perm_cons_erase held)))⟩
    · rw [maybeTake, if_neg empty, popped]
      rfl
    · dsimp only at positive ⊢
      have := valid.bounded positive
      have shorter := split.length_eq
      simp only [List.length_cons] at shorter
      omega

end Step

/-- Every run of the queue from a valid state that refines a spec state never raises, keeps
    the queue valid, and is a run of the spec. -/
theorem run_refines_of (ops : List QueueOp) :
    ∀ {q : L3PriorityQueue} {s : SpecQueue}, q.Valid → Refines q s →
      ∃ q' replies, q.run ops = .ok (q', replies) ∧ q'.Valid ∧ ∃ s', s.Runs ops replies s' ∧ Refines q' s' := by
  induction ops with
  | nil => exact fun valid refines => ⟨_, [], rfl, valid, _, .nil _, refines⟩
  | cons op ops ih =>
    intro q s valid refines
    cases op with
    | offer packet =>
      obtain ⟨same, valid', refines'⟩ := offer_refines valid refines packet
      obtain ⟨q'', replies, ran, valid'', s'', runs, refines''⟩ := ih valid' refines'
      refine ⟨q'', .offered (q.offer packet).2 :: replies, ?_, valid'', s'', ?_, refines''⟩
      · simp only [run, ran]
        rfl
      · rw [same]
        exact .offer runs
    | maybeTake =>
      obtain ⟨q', taken, took, valid', s', takes, refines'⟩ := maybeTake_refines valid refines
      obtain ⟨q'', replies, ran, valid'', s'', runs, refines''⟩ := ih valid' refines'
      refine ⟨q'', .taken taken :: replies, ?_, valid'', s'', .take takes runs, refines''⟩
      simp only [run, took, ran, bind, Except.bind, pure, Except.pure]

/-- Every run of `L3PriorityQueue(max_size)` is a run of the bounded priority queue: it never
    raises, holds at most a positive `max_size` payloads, `offer` fails exactly when full, and
    `maybe_take` returns `None` exactly when empty, else a payload of the smallest qos. -/
theorem run_refines (maxSize : Int) (ops : List QueueOp) :
    ∃ q replies, (init maxSize).run ops = .ok (q, replies) ∧ q.Valid ∧
      ∃ s, (SpecQueue.init maxSize).Runs ops replies s ∧ Refines q s :=
  run_refines_of ops (valid_init maxSize) ⟨rfl, List.Perm.refl _⟩

/-! ### Draining -/

/-- The replies of a run that starts with a `maybe_take`. -/
theorem replies_maybeTake {q q' : L3PriorityQueue} {taken : Option L3Payload}
    (took : q.maybeTake = .ok (q', taken)) (ops : List QueueOp) :
    (q.run (.maybeTake :: ops)).map Prod.snd = ((q'.run ops).map Prod.snd).map (.taken taken :: ·) := by
  rw [run, took, ok_bind]
  dsimp only
  cases q'.run ops <;> rfl

/-- From a valid queue, `len + 1` calls to `maybe_take` return every held payload, by
    nondecreasing qos, and then `None`. -/
theorem drain_of {q : L3PriorityQueue} (valid : q.Valid) :
    ∃ taken : List L3Payload, (q.run (List.replicate (q.queue.length + 1) .maybeTake)).map Prod.snd =
        .ok (taken.map (.taken ∘ some) ++ [.taken none]) ∧
      taken.Perm q.queue ∧ taken.Pairwise (fun a b => a.qos.value ≤ b.qos.value) := by
  generalize size : q.queue.length = n
  induction n generalizing q with
  | zero =>
    have empty : q.maybeTake = .ok (q, none) := if_pos size
    refine ⟨[], ?_, by rw [List.eq_nil_of_length_eq_zero size], List.Pairwise.nil⟩
    rw [List.replicate_succ, replies_maybeTake empty]
    rfl
  | succ n ih =>
    obtain ⟨q', taken, took, valid', s', takes, refines'⟩ :=
      maybeTake_refines (s := ⟨q.maxsize, q.queue⟩) valid ⟨rfl, List.Perm.refl _⟩
    cases taken with
    | none => exact absurd (congrArg List.length takes.1) (by simp [size])
    | some item =>
      obtain ⟨held, least, rfl⟩ := takes
      have perm : q'.queue.Perm (q.queue.erase item) := refines'.2
      obtain ⟨rest, replies, restPerm, sorted⟩ :=
        ih valid' (by rw [perm.length_eq, List.length_erase_of_mem held, size]; rfl)
      refine ⟨item :: rest, ?_, ?_, ?_⟩
      · rw [List.replicate_succ, replies_maybeTake took, replies]
        rfl
      · exact ((restPerm.trans perm).cons item).trans (List.perm_cons_erase held).symm
      · exact .cons (fun y mem => least y (List.mem_of_mem_erase ((restPerm.trans perm).subset mem))) sorted

/-- From every queue a run reaches, successive `maybe_take` calls drain it: every held payload
    comes out once, by nondecreasing qos, and then `None`. -/
theorem run_then_drain (maxSize : Int) (ops : List QueueOp) :
    ∃ q replies, (init maxSize).run ops = .ok (q, replies) ∧
      ∃ taken : List L3Payload, (q.run (List.replicate (q.queue.length + 1) .maybeTake)).map Prod.snd =
          .ok (taken.map (.taken ∘ some) ++ [.taken none]) ∧
        taken.Perm q.queue ∧ taken.Pairwise (fun a b => a.qos.value ≤ b.qos.value) := by
  obtain ⟨q, replies, ran, valid, -⟩ :=
    run_refines_of ops (s := SpecQueue.init maxSize) (valid_init maxSize) ⟨rfl, List.Perm.refl _⟩
  exact ⟨q, replies, ran, drain_of valid⟩

/-! ### What each call does to the payloads held -/

/-- `maybe_take` on a valid queue never raises, keeps it valid, and takes out exactly what it
    returns. -/
theorem maybeTake_perm {q : L3PriorityQueue} (valid : q.Valid) :
    ∃ q' taken, q.maybeTake = .ok (q', taken) ∧ q'.Valid ∧ q.queue.Perm (taken.toList ++ q'.queue) := by
  obtain ⟨q', taken, took, valid', s', takes, -, perm⟩ :=
    maybeTake_refines (s := ⟨q.maxsize, q.queue⟩) valid ⟨rfl, List.Perm.refl _⟩
  refine ⟨q', taken, took, valid', ?_⟩
  cases taken with
  | none =>
    obtain ⟨-, rfl⟩ := takes
    exact perm.symm
  | some item =>
    obtain ⟨held, -, rfl⟩ := takes
    exact (List.perm_cons_erase held).trans (perm.symm.cons item)

/-- `offer` keeps a valid queue valid, and adds the payload exactly when it accepts it. -/
theorem offer_perm {q : L3PriorityQueue} (valid : q.Valid) (packet : L3Payload) :
    (q.offer packet).1.Valid ∧
      (q.offer packet).1.queue.Perm (q.queue ++ if (q.offer packet).2 then [packet] else []) := by
  obtain ⟨same, valid', -, perm⟩ := offer_refines (s := ⟨q.maxsize, q.queue⟩) valid ⟨rfl, List.Perm.refl _⟩ packet
  refine ⟨valid', ?_⟩
  rw [same]
  by_cases full : 0 < q.maxsize ∧ q.maxsize ≤ q.queue.length <;>
    simpa [SpecQueue.offer, full] using perm

@[simp] theorem maxsize_offer (q : L3PriorityQueue) (packet : L3Payload) : (q.offer packet).1.maxsize = q.maxsize := by
  unfold offer
  split <;> rfl

theorem maxsize_maybeTake {q q' : L3PriorityQueue} {taken : Option L3Payload} (took : q.maybeTake = .ok (q', taken)) :
    q'.maxsize = q.maxsize := by
  unfold maybeTake at took
  split at took
  · cases took
    rfl
  · obtain ⟨_, -, took⟩ := bind_eq_ok.1 took
    cases took
    rfl

/-- A `Default` payload told apart by its link id. -/
def defaultPayload (linkId : Nat) : L3Payload := { protocol := 0, buffer := [], linkId := linkId }

/-- Four `Default` payloads offered, then two takes: the queue returns the first and the third,
    where the first-come order, a run the spec allows too, returns the first and the second. -/
theorem take_order_not_fifo :
    ((init defaultMaxSize).run ((List.range 4).map (.offer ∘ defaultPayload ∘ (· + 1)) ++
        [.maybeTake, .maybeTake])).map Prod.snd =
      .ok [.offered true, .offered true, .offered true, .offered true,
        .taken (some (defaultPayload 1)), .taken (some (defaultPayload 3))] ∧
    (SpecQueue.init defaultMaxSize).stableRun ((List.range 4).map (.offer ∘ defaultPayload ∘ (· + 1)) ++
        [.maybeTake, .maybeTake]) =
      [.offered true, .offered true, .offered true, .offered true,
        .taken (some (defaultPayload 1)), .taken (some (defaultPayload 2))] ∧
    ∃ s', (SpecQueue.init defaultMaxSize).Runs ((List.range 4).map (.offer ∘ defaultPayload ∘ (· + 1)) ++
        [.maybeTake, .maybeTake])
      ((SpecQueue.init defaultMaxSize).stableRun ((List.range 4).map (.offer ∘ defaultPayload ∘ (· + 1)) ++
        [.maybeTake, .maybeTake])) s' :=
  ⟨rfl, rfl, SpecQueue.runs_stableRun _ _⟩

end L3PriorityQueue

end Tarpn.Network
