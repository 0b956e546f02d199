import Tarpn.Datalink.Driver
import Tarpn.Datalink.Protocol

/-!
The datalink send path as one system: `register_device` makes a queue and submits a driver
holding it, `add_link` and `remove_link` change the logical links, an L3 protocol offers a
payload to `get_queue(link_id)`, and each driver runs `iter_loop`, one call at a time in any
order. The queues are shared objects, kept once and named by the order they were made in. Over
every run no payload is lost or duplicated, and each payload a driver sends was
offered on a link of its device id.
-/

namespace Tarpn

open Network L2L3Driver

/-- The send path: the multiplexer, every queue `queue_factory()` made, in order, the
    `retry_backoff` of each submitted driver, in order, and the state of the devices. -/
structure Pipeline (σ : Type) where
  mux : LinkMultiplexer
  queues : List L3PriorityQueue
  backoffs : List BackoffGenerator
  devices : σ

/-- What happens next on the send path. -/
inductive PipelineEvent
  | registerDevice (l2 : L2Protocol)
  | addLink (l2 : L2Protocol)
  | removeLink (linkId : Nat)
  /-- An L3 protocol calls `get_queue(link_id).offer(payload)`. -/
  | offer (linkId : Nat) (payload : L3Payload)
  /-- The thread of the `index`-th submitted driver runs `iter_loop`. -/
  | iterLoop (index : Nat)

/-- What can be seen of it: an offer with the link's device, the queue's number and `offer`'s
    answer; an offer that found no queue; what a driver's turn did; and a turn whose
    `send_packet` raised, with the payload it had taken. -/
inductive PipelineEffect
  | offered (linkId : Nat) (owner : L2Protocol) (queue : Nat) (payload : L3Payload) (accepted : Bool)
  | noQueue (linkId : Nat) (payload : L3Payload)
  | driver (driver : L2L3Driver) (effect : DriverEffect)
  | raised (driver : L2L3Driver) (taken : Option L3Payload) (e : PyError)

namespace Pipeline

variable {σ : Type} (devices : L2Protocol → L2Device σ) (maxSize : Int)

/-- Nothing registered, with the devices in state `start`. -/
def init (start : σ) : Pipeline σ := ⟨.init, [], [], start⟩

/-- `register_device(l2_protocol)` with `queue_factory = lambda: L3PriorityQueue(max_size)`: the
    new queue and the new driver's `BackoffGenerator(0.500, 1.5, 3.000)`. -/
def registerDevice (p : Pipeline σ) (l2 : L2Protocol) : Pipeline σ :=
  if p.mux.notRegistered l2 then
    { p with
      mux := p.mux.registerDevice l2
      queues := p.queues ++ [.init maxSize]
      backoffs := p.backoffs ++ [retryBackoff] }
  else p

/-- `get_queue(link_id).offer(payload)`. -/
def offer (p : Pipeline σ) (linkId : Nat) (payload : L3Payload) : Pipeline σ × List PipelineEffect :=
  match p.mux.logicalLinks.get? linkId, p.mux.getQueue linkId with
  | some owner, some q =>
    match p.queues[q]? with
    | some queue =>
      ({ p with queues := p.queues.set q (queue.offer payload).1 },
        [.offered linkId owner q payload (queue.offer payload).2])
    | none => (p, [.noQueue linkId payload])
  | _, _ => (p, [.noQueue linkId payload])

/-- A turn of the `index`-th submitted driver: `iter_loop` on its queue, the devices and its
    backoff. When `send_packet` raises, the queue keeps what `maybe_take` left of it. -/
def driverTurn (p : Pipeline σ) (index : Nat) : Pipeline σ × List PipelineEffect :=
  match p.mux.submitted[index]?, p.backoffs[index]? with
  | some driver, some backoff =>
    match p.queues[driver.queue]? with
    | some queue =>
      match L2L3Driver.iterLoop (devices driver.l2) ⟨queue, p.devices, backoff⟩ with
      | .ok (d, effects) =>
        ({ p with
            queues := p.queues.set driver.queue d.queue
            devices := d.device
            backoffs := p.backoffs.set index d.retryBackoff }, effects.map (.driver driver))
      | .error e =>
        match queue.maybeTake with
        | .ok (queue', taken) => ({ p with queues := p.queues.set driver.queue queue' }, [.raised driver taken e])
        | .error _ => (p, [.raised driver none e])
    | none => (p, [])
  | _, _ => (p, [])

/-- The send path after one event. A `remove_link` that raises changes nothing. -/
def step (p : Pipeline σ) : PipelineEvent → Pipeline σ × List PipelineEffect
  | .registerDevice l2 => (p.registerDevice maxSize l2, [])
  | .addLink l2 => ({ p with mux := (p.mux.addLink l2).2 }, [])
  | .removeLink linkId => ({ p with mux := (p.mux.removeLink linkId).toOption.getD p.mux }, [])
  | .offer linkId payload => p.offer linkId payload
  | .iterLoop index => p.driverTurn devices index

/-- The send path after a run of events, the first event first, and what the run did. -/
def run (p : Pipeline σ) : List PipelineEvent → Pipeline σ × List PipelineEffect
  | [] => (p, [])
  | event :: events =>
    ((p.step devices maxSize event).1.run events).map id ((p.step devices maxSize event).2 ++ ·)

/-! ### Counting the payloads -/

/-- The payloads held in a list of queues, each with its queue's number, numbered from `n`. -/
def heldFrom : Nat → List L3PriorityQueue → List (Nat × L3Payload)
  | _, [] => []
  | n, queue :: rest => queue.queue.map (n, ·) ++ heldFrom (n + 1) rest

/-- The payloads every queue holds, with the queue's number. -/
def held (p : Pipeline σ) : List (Nat × L3Payload) := heldFrom 0 p.queues

theorem heldFrom_append (queue : L3PriorityQueue) :
    ∀ (n : Nat) (queues : List L3PriorityQueue),
      heldFrom n (queues ++ [queue]) = heldFrom n queues ++ queue.queue.map (n + queues.length, ·)
  | n, [] => by simp [heldFrom]
  | n, q :: rest => by
    rw [List.cons_append, heldFrom, heldFrom, heldFrom_append queue (n + 1) rest, List.append_assoc, List.length_cons,
      Nat.add_right_comm, Nat.add_assoc]

/-- Putting `queue'` in place of `queue` at `q` swaps their payloads in the count. -/
theorem heldFrom_set {queue : L3PriorityQueue} (queue' : L3PriorityQueue) :
    ∀ {n q : Nat} {queues : List L3PriorityQueue}, queues[q]? = some queue →
      (heldFrom n queues ++ queue'.queue.map (n + q, ·)).Perm
        (heldFrom n (queues.set q queue') ++ queue.queue.map (n + q, ·))
  | _, _, [], found => by simp at found
  | n, 0, q₀ :: rest, found => by
    rw [List.getElem?_cons_zero, Option.some.injEq] at found
    subst found
    simp only [heldFrom, List.set_cons_zero, Nat.add_zero]
    exact List.perm_iff_count.2 fun a => by simp only [List.count_append]; omega
  | n, k + 1, q₀ :: rest, found => by
    rw [List.getElem?_cons_succ] at found
    simp only [heldFrom, List.set_cons_succ, List.append_assoc]
    rw [show n + (k + 1) = n + 1 + k by omega]
    exact (heldFrom_set queue' (n := n + 1) (q := k) found).append_left _

/-- The payload an accepted offer queued, with the queue's number. -/
def PipelineEffect.queued : PipelineEffect → Option (Nat × L3Payload)
  | .offered _ _ q payload true => some (q, payload)
  | _ => none

/-- The payload a driver took off its queue and handed to `send_packet`, or lost when
    `send_packet` raised, with the queue's number. -/
def PipelineEffect.dequeued : PipelineEffect → Option (Nat × L3Payload)
  | .driver driver (.sendPacket payload _) => some (driver.queue, payload)
  | .raised driver (some payload) _ => some (driver.queue, payload)
  | _ => none

/-- What the effects of a stretch of a run did to the payloads: those held before it and those
    its offers queued are those its drivers took off and those held after it. -/
def Balanced (p : Pipeline σ) (effects : List PipelineEffect) (p' : Pipeline σ) : Prop :=
  (p.held ++ effects.filterMap PipelineEffect.queued).Perm (effects.filterMap PipelineEffect.dequeued ++ p'.held)

theorem Balanced.append {p p' p'' : Pipeline σ} {first rest : List PipelineEffect} (one : Balanced p first p')
    (two : Balanced p' rest p'') : Balanced p (first ++ rest) p'' := by
  refine List.perm_iff_count.2 fun a => ?_
  have one := List.perm_iff_count.1 one a
  have two := List.perm_iff_count.1 two a
  simp only [List.filterMap_append, List.count_append] at one two ⊢
  omega

/-- A stretch that changes no queue, and queues and takes off nothing. -/
theorem balanced_quiet (p : Pipeline σ) {p' : Pipeline σ} {effects : List PipelineEffect} (same : p'.queues = p.queues)
    (noneQueued : effects.filterMap PipelineEffect.queued = []) (noneTaken : effects.filterMap PipelineEffect.dequeued = []) :
    Balanced p effects p' := by
  simp [Balanced, held, same, noneQueued, noneTaken]

/-- A queue that takes out what `maybe_take` returned. -/
theorem balanced_take {p : Pipeline σ} {q : Nat} {queue queue' : L3PriorityQueue} {taken : Option L3Payload}
    (found : p.queues[q]? = some queue) (perm : queue.queue.Perm (taken.toList ++ queue'.queue)) :
    p.held.Perm (taken.toList.map (q, ·) ++ heldFrom 0 (p.queues.set q queue')) := by
  refine List.perm_iff_count.2 fun a => ?_
  have swap := List.perm_iff_count.1 (heldFrom_set queue' (n := 0) found) a
  have took := List.perm_iff_count.1 (perm.map (q, ·)) a
  simp only [Nat.zero_add, List.map_append, List.count_append] at swap took ⊢
  unfold held
  omega

/-- A queue that holds what it held and `extra` besides. -/
theorem balanced_put {p : Pipeline σ} {q : Nat} {queue queue' : L3PriorityQueue} {extra : List L3Payload}
    (found : p.queues[q]? = some queue) (perm : queue'.queue.Perm (queue.queue ++ extra)) :
    (p.held ++ extra.map (q, ·)).Perm (heldFrom 0 (p.queues.set q queue')) := by
  refine List.perm_iff_count.2 fun a => ?_
  have swap := List.perm_iff_count.1 (heldFrom_set queue' (n := 0) found) a
  have put := List.perm_iff_count.1 (perm.map (q, ·)) a
  simp only [Nat.zero_add, List.map_append, List.count_append] at swap put ⊢
  unfold held
  omega

/-! ### The invariant -/

/-- What every reachable send path keeps: the `index`-th submitted driver drains the `index`-th
    queue, one driver per queue made, the queue under a device id has a driver of that device id,
    every backoff is reset, and every queue is a valid heap. -/
structure Wired (p : Pipeline σ) : Prop where
  drivers : ∀ index (driver : L2L3Driver), p.mux.submitted[index]? = some driver → driver.queue = index
  count : p.mux.submitted.length = p.mux.queuesMade
  keyed : ∀ id q, p.mux.queues.get? id = some q →
    ∃ driver, p.mux.submitted[q]? = some driver ∧ driver.l2.deviceId = id
  fresh : ∀ b ∈ p.backoffs, b = retryBackoff
  valid : ∀ queue ∈ p.queues, queue.Valid

theorem wired_init (start : σ) : (init start).Wired where
  drivers index driver found := by simp [init, LinkMultiplexer.init] at found
  count := rfl
  keyed id q found := by simp [init, LinkMultiplexer.init] at found
  fresh b mem := absurd mem (List.not_mem_nil b)
  valid queue mem := absurd mem (List.not_mem_nil queue)

/-- An event that leaves the drivers and the queues of the multiplexer as they were. -/
theorem Wired.of_mux {p : Pipeline σ} (wired : p.Wired) {m : LinkMultiplexer} (submitted : m.submitted = p.mux.submitted)
    (queues : m.queues = p.mux.queues) (made : m.queuesMade = p.mux.queuesMade) : { p with mux := m }.Wired where
  drivers := submitted ▸ wired.drivers
  count := submitted ▸ made ▸ wired.count
  keyed := submitted ▸ queues ▸ wired.keyed
  fresh := wired.fresh
  valid := wired.valid

theorem Wired.registerDevice {p : Pipeline σ} (wired : p.Wired) (l2 : L2Protocol) :
    (p.registerDevice maxSize l2).Wired ∧ (p.registerDevice maxSize l2).held = p.held := by
  rw [Pipeline.registerDevice, if_pos (LinkMultiplexer.notRegistered_eq _ _)]
  have made := wired.count
  refine ⟨⟨fun index driver found => ?_, ?_, fun id q found => ?_, fun b mem => ?_, fun queue mem => ?_⟩, ?_⟩
  · simp only [LinkMultiplexer.registerDevice_eq] at found
    by_cases old : index < p.mux.submitted.length
    · rw [List.getElem?_append_left old] at found
      exact wired.drivers index driver found
    · rw [List.getElem?_append_right (by omega)] at found
      have inside := (List.getElem?_eq_some.1 found).1
      rw [List.length_singleton] at inside
      rw [show index - p.mux.submitted.length = 0 by omega, List.getElem?_cons_zero, Option.some.injEq] at found
      subst found
      show p.mux.queuesMade = index
      omega
  · simp [LinkMultiplexer.registerDevice_eq, made]
  · simp only [LinkMultiplexer.registerDevice_eq, PyDict.get?_set] at found ⊢
    split at found
    · rename_i same
      cases found
      exact ⟨_, made ▸ List.getElem?_concat_length _ _, same.symm⟩
    · obtain ⟨driver, held, device⟩ := wired.keyed id q found
      exact ⟨driver, by rw [List.getElem?_append_left (List.getElem?_eq_some.1 held).1, held], device⟩
  · rcases List.mem_append.1 mem with old | fresh
    · exact wired.fresh b old
    · exact List.mem_singleton.1 fresh
  · rcases List.mem_append.1 mem with old | fresh
    · exact wired.valid queue old
    · rw [List.mem_singleton.1 fresh]
      exact L3PriorityQueue.valid_init maxSize
  · simp [held, heldFrom_append, L3PriorityQueue.init]

theorem queued_driver (driver : L2L3Driver) (effects : List DriverEffect) :
    (effects.map (.driver driver)).filterMap PipelineEffect.queued = [] := by
  induction effects <;> simp [*, PipelineEffect.queued]

theorem dequeued_driver (driver : L2L3Driver) (effects : List DriverEffect) :
    (effects.map (.driver driver)).filterMap PipelineEffect.dequeued =
      (effects.filterMap DriverEffect.sent).map (driver.queue, ·) := by
  induction effects with
  | nil => rfl
  | cons effect effects ih => cases effect <;> simp [ih, PipelineEffect.dequeued, DriverEffect.sent]

/-- An offer puts the payload it accepts in the queue `get_queue` found, and nothing else. -/
theorem Wired.offer {p : Pipeline σ} (wired : p.Wired) (linkId : Nat) (payload : L3Payload) :
    (p.offer linkId payload).1.Wired ∧ Balanced p (p.offer linkId payload).2 (p.offer linkId payload).1 := by
  unfold Pipeline.offer
  split
  · split
    · rename_i q _ queue stored
      obtain ⟨valid', perm⟩ := L3PriorityQueue.offer_perm (wired.valid queue (List.getElem?_mem stored)) payload
      refine ⟨{ wired with valid := fun queue' mem => ?_ }, ?_⟩
      · rcases List.mem_or_eq_of_mem_set mem with old | rfl
        · exact wired.valid queue' old
        · exact valid'
      · have put := balanced_put stored perm
        unfold Balanced
        cases accepted : (queue.offer payload).2 <;>
          simpa [accepted, PipelineEffect.queued, PipelineEffect.dequeued, held] using put
    · exact ⟨wired, balanced_quiet p rfl rfl rfl⟩
  · exact ⟨wired, balanced_quiet p rfl rfl rfl⟩

/-- A driver's turn takes off its queue what `maybe_take` returned, and hands it to `send_packet`
    or loses it to its exception. -/
theorem Wired.driverTurn {p : Pipeline σ} (wired : p.Wired) (index : Nat) :
    (p.driverTurn devices index).1.Wired ∧ Balanced p (p.driverTurn devices index).2 (p.driverTurn devices index).1 := by
  unfold Pipeline.driverTurn
  split
  · rename_i driver backoff _ stored
    split
    · rename_i queue found
      obtain ⟨queue', taken, took, valid', perm⟩ :=
        L3PriorityQueue.maybeTake_perm (wired.valid queue (List.getElem?_mem found))
      have kept : ∀ q ∈ p.queues.set driver.queue queue', q.Valid := fun q mem => by
        rcases List.mem_or_eq_of_mem_set mem with old | rfl
        · exact wired.valid q old
        · exact valid'
      have balanced := balanced_take found perm
      split
      · rename_i d effects turn
        obtain ⟨taken', took', sent, reset⟩ := iterLoop_ok turn (wired.fresh backoff (List.getElem?_mem stored))
        rw [took, Except.ok.injEq, Prod.mk.injEq] at took'
        obtain ⟨rfl, rfl⟩ := took'
        refine ⟨{ wired with fresh := fun b mem => ?_, valid := kept }, ?_⟩
        · rcases List.mem_or_eq_of_mem_set mem with old | rfl
          · exact wired.fresh b old
          · exact reset
        · unfold Balanced
          rw [queued_driver, dequeued_driver, sent, List.append_nil]
          exact balanced
      · rw [took]
        refine ⟨{ wired with valid := kept }, ?_⟩
        unfold Balanced
        cases taken <;> simpa [PipelineEffect.queued, PipelineEffect.dequeued] using balanced
    · exact ⟨wired, balanced_quiet p rfl rfl rfl⟩
  · exact ⟨wired, balanced_quiet p rfl rfl rfl⟩

/-- Every event keeps the invariant and the count of the payloads. -/
theorem Wired.step {p : Pipeline σ} (wired : p.Wired) : ∀ event : PipelineEvent,
    (p.step devices maxSize event).1.Wired ∧ Balanced p (p.step devices maxSize event).2 (p.step devices maxSize event).1
  | .registerDevice l2 => by
    obtain ⟨wired', same⟩ := wired.registerDevice maxSize l2
    exact ⟨wired', by simp [Balanced, Pipeline.step, same]⟩
  | .addLink l2 => ⟨wired.of_mux rfl rfl rfl, balanced_quiet p rfl rfl rfl⟩
  | .removeLink linkId => by
    obtain ⟨links, removed⟩ : ∃ links, (p.mux.removeLink linkId).toOption.getD p.mux = { p.mux with logicalLinks := links } := by
      unfold LinkMultiplexer.removeLink
      split
      · exact ⟨_, rfl⟩
      · exact ⟨_, rfl⟩
    simp only [Pipeline.step, removed]
    exact ⟨wired.of_mux rfl rfl rfl, balanced_quiet p rfl rfl rfl⟩
  | .offer linkId payload => wired.offer linkId payload
  | .iterLoop index => wired.driverTurn devices index

/-- Every run keeps the invariant and the count of the payloads. -/
theorem Wired.run {p : Pipeline σ} (wired : p.Wired) : ∀ events : List PipelineEvent,
    (p.run devices maxSize events).1.Wired ∧ Balanced p (p.run devices maxSize events).2 (p.run devices maxSize events).1
  | [] => ⟨wired, balanced_quiet p rfl rfl rfl⟩
  | event :: events =>
    have first := wired.step devices maxSize event
    have rest := first.1.run events
    ⟨rest.1, first.2.append rest.2⟩

/-! ### Where each payload goes -/

/-- Each accepted offer's queue has, in `p`, a driver of the device id of the link's device, and
    each driver's turn came from the driver `p` submitted for its queue. -/
def Tagged (p : Pipeline σ) (effects : List PipelineEffect) : Prop :=
  (∀ linkId owner q payload, PipelineEffect.offered linkId owner q payload true ∈ effects →
      ∃ driver, p.mux.submitted[q]? = some driver ∧ driver.l2.deviceId = owner.deviceId) ∧
    ∀ driver effect, PipelineEffect.driver driver effect ∈ effects → p.mux.submitted[driver.queue]? = some driver

/-- Drivers are only ever added after the ones submitted. -/
theorem Tagged.grow {p p' : Pipeline σ} {effects : List PipelineEffect} (tagged : Tagged p effects)
    {extra : List L2L3Driver} (grown : p'.mux.submitted = p.mux.submitted ++ extra) : Tagged p' effects := by
  have later : ∀ {q driver}, p.mux.submitted[q]? = some driver → p'.mux.submitted[q]? = some driver := fun found => by
    rw [grown, List.getElem?_append_left (List.getElem?_eq_some.1 found).1, found]
  refine ⟨fun linkId owner q payload mem => ?_, fun driver effect mem => later (tagged.2 driver effect mem)⟩
  obtain ⟨driver, found, device⟩ := tagged.1 linkId owner q payload mem
  exact ⟨driver, later found, device⟩

theorem Tagged.append {p : Pipeline σ} {first rest : List PipelineEffect} (one : Tagged p first) (two : Tagged p rest) :
    Tagged p (first ++ rest) := by
  refine ⟨fun linkId owner q payload mem => ?_, fun driver effect mem => ?_⟩
  · rcases List.mem_append.1 mem with mem | mem
    · exact one.1 linkId owner q payload mem
    · exact two.1 linkId owner q payload mem
  · rcases List.mem_append.1 mem with mem | mem
    · exact one.2 driver effect mem
    · exact two.2 driver effect mem

theorem tagged_nil (p : Pipeline σ) : Tagged p [] :=
  ⟨fun _ _ _ _ mem => absurd mem (List.not_mem_nil _), fun _ _ mem => absurd mem (List.not_mem_nil _)⟩

@[simp] theorem mux_offer (p : Pipeline σ) (linkId : Nat) (payload : L3Payload) :
    (p.offer linkId payload).1.mux = p.mux := by
  unfold Pipeline.offer
  split
  · split <;> rfl
  · rfl

@[simp] theorem mux_driverTurn (p : Pipeline σ) (index : Nat) : (p.driverTurn devices index).1.mux = p.mux := by
  unfold Pipeline.driverTurn
  repeat' split
  all_goals rfl

/-- An accepted offer goes to the queue `get_queue` finds under the link device's id. -/
theorem Wired.tagged_offer {p : Pipeline σ} (wired : p.Wired) (linkId : Nat) (payload : L3Payload) :
    Tagged p (p.offer linkId payload).2 := by
  unfold Pipeline.offer
  split
  · rename_i owner q linked queued
    split
    · refine ⟨fun linkId' owner' q' payload' mem => ?_, fun _ _ mem => by simp at mem⟩
      simp only [List.mem_singleton, PipelineEffect.offered.injEq] at mem
      obtain ⟨-, rfl, rfl, -, -⟩ := mem
      rw [LinkMultiplexer.getQueue, linked] at queued
      exact wired.keyed _ _ queued
    · exact ⟨fun _ _ _ _ mem => by simp at mem, fun _ _ mem => by simp at mem⟩
  · exact ⟨fun _ _ _ _ mem => by simp at mem, fun _ _ mem => by simp at mem⟩

/-- A turn's effects come from the driver submitted for its queue. -/
theorem Wired.tagged_driverTurn {p : Pipeline σ} (wired : p.Wired) (index : Nat) :
    Tagged p (p.driverTurn devices index).2 := by
  unfold Pipeline.driverTurn
  split
  · rename_i driver backoff submitted _
    have own : p.mux.submitted[driver.queue]? = some driver := by rw [wired.drivers index driver submitted, submitted]
    split
    · split
      · refine ⟨fun _ _ _ _ mem => by simp at mem, fun driver' effect mem => ?_⟩
        obtain ⟨_, -, same⟩ := List.mem_map.1 mem
        cases same
        exact own
      · split <;> exact ⟨fun _ _ _ _ mem => by simp at mem, fun _ _ mem => by simp at mem⟩
    · exact tagged_nil p
  · exact tagged_nil p

/-- What one event does to the drivers: `register_device` submits one after the others, nothing
    else changes them, and every offer and turn it makes is tagged. -/
theorem Wired.tagged_step {p : Pipeline σ} (wired : p.Wired) :
    ∀ event : PipelineEvent, (∃ extra, (p.step devices maxSize event).1.mux.submitted = p.mux.submitted ++ extra) ∧
      Tagged (p.step devices maxSize event).1 (p.step devices maxSize event).2
  | .registerDevice l2 =>
    ⟨⟨[⟨p.mux.queuesMade, l2⟩], by simp [Pipeline.step, Pipeline.registerDevice, LinkMultiplexer.registerDevice_eq]⟩,
      tagged_nil _⟩
  | .addLink l2 => ⟨⟨[], (List.append_nil _).symm⟩, tagged_nil _⟩
  | .removeLink linkId => by
    refine ⟨⟨[], ?_⟩, tagged_nil _⟩
    simp only [Pipeline.step, List.append_nil]
    unfold LinkMultiplexer.removeLink
    split <;> rfl
  | .offer linkId payload =>
    have same : (p.step devices maxSize (.offer linkId payload)).1.mux.submitted = p.mux.submitted ++ [] := by
      simp [Pipeline.step]
    ⟨⟨[], same⟩, (wired.tagged_offer linkId payload).grow same⟩
  | .iterLoop index =>
    have same : (p.step devices maxSize (.iterLoop index)).1.mux.submitted = p.mux.submitted ++ [] := by
      simp [Pipeline.step]
    ⟨⟨[], same⟩, (wired.tagged_driverTurn devices index).grow same⟩

/-- Over every run, each accepted offer's queue has a driver of the link device's id, and each
    driver's turn came from the driver submitted for its queue. -/
theorem Wired.tagged_run {p : Pipeline σ} (wired : p.Wired) : ∀ events : List PipelineEvent,
    (∃ extra, (p.run devices maxSize events).1.mux.submitted = p.mux.submitted ++ extra) ∧
      Tagged (p.run devices maxSize events).1 (p.run devices maxSize events).2
  | [] => ⟨⟨[], (List.append_nil _).symm⟩, tagged_nil _⟩
  | event :: events => by
    obtain ⟨⟨extra, grown⟩, first⟩ := wired.tagged_step devices maxSize event
    obtain ⟨⟨extra', grown'⟩, rest⟩ := ((wired.step devices maxSize event).1).tagged_run events
    refine ⟨⟨extra ++ extra', ?_⟩, (first.grow grown').append rest⟩
    show ((p.step devices maxSize event).1.run devices maxSize events).1.mux.submitted = _
    rw [grown', grown, List.append_assoc]

/-- Over every run from nothing registered, whatever the devices answer and in whatever order
    the calls come, the payloads the queues accepted, each with its queue, are exactly those the
    drivers handed to `send_packet` or lost when it raised, and those still held. -/
theorem run_conserves_payloads (start : σ) (events : List PipelineEvent) :
    let ran := (init start).run devices maxSize events
    (ran.2.filterMap PipelineEffect.queued).Perm (ran.2.filterMap PipelineEffect.dequeued ++ ran.1.held) := by
  intro ran
  simpa [Balanced, held, heldFrom, init] using ((wired_init start).run devices maxSize events).2

/-- Every payload a driver hands to `send_packet` was accepted, for the driver's queue, from an
    offer on a link whose device has the driver's device id, not always the driver's own device
    object. -/
theorem run_sends_to_owner (start : σ) (events : List PipelineEvent) :
    let ran := (init start).run devices maxSize events
    ∀ driver payload accepted, PipelineEffect.driver driver (.sendPacket payload accepted) ∈ ran.2 →
      ∃ linkId owner, PipelineEffect.offered linkId owner driver.queue payload true ∈ ran.2 ∧
        owner.deviceId = driver.l2.deviceId := by
  intro ran driver payload accepted sent
  have wired := wired_init (σ := σ) start
  have taken : (driver.queue, payload) ∈ ran.2.filterMap PipelineEffect.dequeued :=
    List.mem_filterMap.2 ⟨_, sent, rfl⟩
  have balanced : (ran.2.filterMap PipelineEffect.queued).Perm (ran.2.filterMap PipelineEffect.dequeued ++ ran.1.held) := by
    simpa [Balanced, held, heldFrom, init] using (wired.run devices maxSize events).2
  obtain ⟨effect, mem, queued⟩ := List.mem_filterMap.1 (balanced.symm.subset (List.mem_append_left _ taken))
  obtain ⟨-, tagged, own⟩ := wired.tagged_run devices maxSize events
  match effect, queued with
  | .offered linkId owner _ _ true, rfl =>
    obtain ⟨driver', found, device⟩ := tagged linkId owner driver.queue payload mem
    rw [own driver _ sent, Option.some.injEq] at found
    exact ⟨linkId, owner, mem, found ▸ device.symm⟩

/-- Devices whose `send_packet` always takes the payload. -/
def acceptingDevices : L2Protocol → L2Device Unit := fun _ => ⟨fun _ _ => .ok (true, ())⟩

/-- Device 7 registered, a link added on it, a payload offered for the link, and one turn of the
    driver. -/
def oneLinkRun : List PipelineEvent :=
  [.registerDevice ⟨1, 7⟩, .addLink ⟨1, 7⟩, .offer 0 (L3PriorityQueue.defaultPayload 0), .iterLoop 0]

theorem run_sends_to_owner_one :
    PipelineEffect.driver ⟨0, ⟨1, 7⟩⟩ (.sendPacket (L3PriorityQueue.defaultPayload 0) true) ∈
        ((init ()).run acceptingDevices defaultMaxSize oneLinkRun).2 ∧
      ∃ linkId owner, PipelineEffect.offered linkId owner 0 (L3PriorityQueue.defaultPayload 0) true ∈
        ((init ()).run acceptingDevices defaultMaxSize oneLinkRun).2 ∧ owner.deviceId = 7 := by
  have sent : PipelineEffect.driver ⟨0, ⟨1, 7⟩⟩ (.sendPacket (L3PriorityQueue.defaultPayload 0) true) ∈
      ((init ()).run acceptingDevices defaultMaxSize oneLinkRun).2 := by
    simp [oneLinkRun, Pipeline.run, Pipeline.step, Pipeline.registerDevice, init, Pipeline.offer, Pipeline.driverTurn,
      LinkMultiplexer.registerDevice_eq, LinkMultiplexer.addLink, LinkMultiplexer.getQueue, LinkMultiplexer.init,
      L2L3Driver.iterLoop, retryLoop_stop, L3PriorityQueue.offer, L3PriorityQueue.maybeTake, acceptingDevices,
      L3PriorityQueue.init, defaultMaxSize, Heapq.heappush, Heapq.siftdown, Heapq.siftdownLoop, Heapq.heappop]
  exact ⟨sent, run_sends_to_owner acceptingDevices defaultMaxSize () oneLinkRun _ _ _ sent⟩

/-! ### Bounded queues -/

/-- Every queue is one `queue_factory()` made: `L3PriorityQueue(max_size)`. -/
def Sized (p : Pipeline σ) : Prop := ∀ queue ∈ p.queues, queue.maxsize = maxSize

theorem sized_init (start : σ) : (init start).Sized maxSize := fun queue mem => absurd mem (List.not_mem_nil queue)

theorem Sized.set {p : Pipeline σ} (sized : p.Sized maxSize) (q : Nat) {queue : L3PriorityQueue}
    (same : queue.maxsize = maxSize) : { p with queues := p.queues.set q queue }.Sized maxSize := fun queue' mem =>
  (List.mem_or_eq_of_mem_set mem).elim (sized queue') fun put => put ▸ same

/-- No event changes the `maxsize` of a queue, and `register_device` makes its queue with
    `max_size`. -/
theorem Sized.step {p : Pipeline σ} (wired : p.Wired) (sized : p.Sized maxSize) :
    ∀ event : PipelineEvent, (p.step devices maxSize event).1.Sized maxSize
  | .registerDevice l2 => by
    show (p.registerDevice maxSize l2).Sized maxSize
    unfold Pipeline.registerDevice
    split
    · intro queue mem
      rcases List.mem_append.1 mem with old | made
      · exact sized queue old
      · rw [List.mem_singleton.1 made]
        rfl
    · exact sized
  | .addLink _ => sized
  | .removeLink _ => sized
  | .offer linkId payload => by
    show (p.offer linkId payload).1.Sized maxSize
    unfold Pipeline.offer
    split
    · split
      · rename_i queue stored
        exact sized.set maxSize _ ((L3PriorityQueue.maxsize_offer _ _).trans (sized queue (List.getElem?_mem stored)))
      · exact sized
    · exact sized
  | .iterLoop index => by
    show (p.driverTurn devices index).1.Sized maxSize
    unfold Pipeline.driverTurn
    split
    · rename_i driver backoff _ stored
      split
      · rename_i queue found
        have same := sized queue (List.getElem?_mem found)
        split
        · rename_i d effects turn
          obtain ⟨_, took, -, -⟩ := iterLoop_ok turn (wired.fresh backoff (List.getElem?_mem stored))
          exact sized.set maxSize _ ((L3PriorityQueue.maxsize_maybeTake took).trans same)
        · split
          · rename_i took
            exact sized.set maxSize _ ((L3PriorityQueue.maxsize_maybeTake took).trans same)
          · exact sized
      · exact sized
    · exact sized

theorem Sized.run {p : Pipeline σ} (wired : p.Wired) (sized : p.Sized maxSize) :
    ∀ events : List PipelineEvent, (p.run devices maxSize events).1.Sized maxSize
  | [] => sized
  | event :: events => (sized.step devices maxSize wired event).run (wired.step devices maxSize event).1 events

/-- Over every run of the send path from nothing registered, each queue holds at most `max_size`
    payloads when `max_size` is positive: whatever the drivers do, an offer to a full queue is
    refused. -/
theorem run_queues_bounded (start : σ) (events : List PipelineEvent) (positive : 0 < maxSize) :
    ∀ queue ∈ ((init start).run devices maxSize events).1.queues, (queue.queue.length : Int) ≤ maxSize := by
  intro queue mem
  have made := (sized_init maxSize start).run devices maxSize (wired_init start) events queue mem
  have valid := ((wired_init start).run devices maxSize events).1.valid queue mem
  rw [← made] at positive ⊢
  exact valid.bounded positive

theorem run_queues_bounded_one :
    0 < defaultMaxSize ∧
      ∀ queue ∈ ((init ()).run acceptingDevices defaultMaxSize oneLinkRun).1.queues,
        (queue.queue.length : Int) ≤ defaultMaxSize :=
  ⟨by decide, run_queues_bounded acceptingDevices defaultMaxSize () oneLinkRun (by decide)⟩

end Pipeline

end Tarpn
