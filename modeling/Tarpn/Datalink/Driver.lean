import Tarpn.Network.PriorityQueue
import Mathlib.Data.Rat.Floor
import Mathlib.Tactic.Linarith

/-!
`L2L3Driver`, which pumps one device's L3 queue into its L2 protocol. Each `iter_loop` takes a
payload with `maybe_take` and hands it to `send_packet`; while the device has not taken it and
the backoff's total is under 20 s, it sleeps for the backoff's next wait. `sent` is assigned
once, before the `while`, so `send_packet` is never called twice. `BackoffGenerator` is absent
from the sources and modelled from the spec; its waits and sums are exact in floats, so they
are rationals here.
-/

namespace Tarpn

open Network L3PriorityQueue

/-- Modelled from the spec: `BackoffGenerator(initial_wait, wait_multiplier, upper_limit)`.
    `next()` hands out the current wait, adds it to the total and multiplies the wait, up to the
    limit; `total()` is what it handed out since `reset()`. -/
structure BackoffGenerator where
  initialWait : ℚ
  waitMultiplier : ℚ
  upperLimit : ℚ
  nextWait : ℚ
  totalWaited : ℚ
  positive : 0 < initialWait
  grows : 1 ≤ waitMultiplier
  capped : initialWait ≤ upperLimit
  atLeastInitial : initialWait ≤ nextWait

namespace BackoffGenerator

/-- `BackoffGenerator(initial_wait, wait_multiplier, upper_limit)`, with nothing handed out. -/
def create (initialWait waitMultiplier upperLimit : ℚ) (positive : 0 < initialWait) (grows : 1 ≤ waitMultiplier)
    (capped : initialWait ≤ upperLimit) : BackoffGenerator :=
  ⟨initialWait, waitMultiplier, upperLimit, initialWait, 0, positive, grows, capped, le_rfl⟩

/-- `next(backoff)`: the current wait, and the generator that has handed it out. -/
def next (b : BackoffGenerator) : ℚ × BackoffGenerator :=
  (b.nextWait,
    { b with
      totalWaited := b.totalWaited + b.nextWait
      nextWait := min (b.nextWait * b.waitMultiplier) b.upperLimit
      atLeastInitial := le_min
        (b.atLeastInitial.trans (le_mul_of_one_le_right (b.positive.le.trans b.atLeastInitial) b.grows)) b.capped })

/-- `total()`. -/
def total (b : BackoffGenerator) : ℚ := b.totalWaited

/-- `reset()`: back to the first wait, nothing handed out. -/
def reset (b : BackoffGenerator) : BackoffGenerator :=
  { b with nextWait := b.initialWait, totalWaited := 0, atLeastInitial := le_rfl }

section Fields

variable (b : BackoffGenerator)

@[simp] theorem fst_next : b.next.1 = b.nextWait := rfl

@[simp] theorem total_next : b.next.2.total = b.total + b.nextWait := rfl

@[simp] theorem nextWait_next : b.next.2.nextWait = min (b.nextWait * b.waitMultiplier) b.upperLimit := rfl

@[simp] theorem waitMultiplier_next : b.next.2.waitMultiplier = b.waitMultiplier := rfl

@[simp] theorem upperLimit_next : b.next.2.upperLimit = b.upperLimit := rfl

/-- `reset()` forgets what `next()` handed out. -/
@[simp] theorem reset_next : b.next.2.reset = b.reset := rfl

end Fields

/-- The first waits a run can still hand out before the total reaches `budget`, counted in
    first waits: it shrinks with every `next()` while the total is under the budget. -/
def turnsLeft (budget : ℚ) (b : BackoffGenerator) : Nat := ⌈(budget - b.totalWaited) / b.initialWait⌉₊

theorem turnsLeft_next {budget : ℚ} {b : BackoffGenerator} (under : b.total < budget) :
    turnsLeft budget b.next.2 < turnsLeft budget b := by
  have step : (budget - (b.totalWaited + b.nextWait)) / b.initialWait + 1 ≤ (budget - b.totalWaited) / b.initialWait := by
    rw [div_add_one b.positive.ne']
    exact div_le_div_of_nonneg_right (by linarith [b.atLeastInitial]) b.positive.le
  have left : 0 < (budget - b.totalWaited) / b.initialWait := div_pos (by unfold total at under; linarith) b.positive
  show ⌈(budget - (b.totalWaited + b.nextWait)) / b.initialWait⌉₊ < ⌈(budget - b.totalWaited) / b.initialWait⌉₊
  rw [Nat.lt_ceil]
  rcases le_or_lt ((budget - (b.totalWaited + b.nextWait)) / b.initialWait) 0 with spent | more
  · rw [Nat.ceil_eq_zero.2 spent, Nat.cast_zero]
    exact left
  · exact (Nat.ceil_lt_add_one more.le).trans_le step

end BackoffGenerator

/-- Modelled from the spec: an L2 device as `iter_loop` uses it. `send_packet(payload)` answers
    from the device's state whether it took the payload, or raises. -/
structure L2Device (σ : Type) where
  sendPacket : σ → L3Payload → Except PyError (Bool × σ)

/-- What a turn of `iter_loop` does that can be seen: the call to `send_packet` with its answer,
    the sleeps, and the log lines `Retrying send_packet` and `Failed send_packet`. -/
inductive DriverEffect
  | sendPacket (payload : L3Payload) (accepted : Bool)
  | sleep (seconds : ℚ)
  | debug (payload : L3Payload)
  | warning (payload : L3Payload)
  deriving DecidableEq

/-- The payload of a call to `send_packet`. -/
def DriverEffect.sent : DriverEffect → Option L3Payload
  | .sendPacket payload _ => some payload
  | _ => none

/-- The payload a `maybe_take` returned. -/
def Network.QueueReply.takenPayload : QueueReply → Option L3Payload
  | .taken packet => packet
  | .offered _ => none

namespace L2L3Driver

/-- What `iter_loop` reads and writes of an `L2L3Driver`: the queue, the state of its L2 device
    and `retry_backoff`. -/
structure State (σ : Type) where
  queue : L3PriorityQueue
  device : σ
  retryBackoff : BackoffGenerator

/-- `BackoffGenerator(0.500, 1.5, 3.000)`, as `L2L3Driver.__init__` makes it. -/
def retryBackoff : BackoffGenerator := .create (1 / 2) (3 / 2) 3 (by norm_num) (by norm_num) (by norm_num)

section Fields

@[simp] theorem total_retryBackoff : retryBackoff.total = 0 := rfl

@[simp] theorem nextWait_retryBackoff : retryBackoff.nextWait = 1 / 2 := rfl

@[simp] theorem waitMultiplier_retryBackoff : retryBackoff.waitMultiplier = 3 / 2 := rfl

@[simp] theorem upperLimit_retryBackoff : retryBackoff.upperLimit = 3 := rfl

end Fields

/-- `L2L3Driver(queue, l2)`. -/
def init {σ : Type} (queue : L3PriorityQueue) (device : σ) : State σ := ⟨queue, device, retryBackoff⟩

/-- The `while` loop of `iter_loop`: while `not sent` and `total()` is under 20 s, sleep for
    `next(self.retry_backoff)` and log the retry. Nothing in the body assigns `sent`. -/
def retryLoop (payload : L3Payload) (sent : Bool) (b : BackoffGenerator) : List DriverEffect × BackoffGenerator :=
  if under : !sent ∧ b.total < 20 then
    have := BackoffGenerator.turnsLeft_next (by simpa using under.2)
    let turns := retryLoop payload sent b.next.2
    (.sleep b.next.1 :: .debug payload :: turns.1, turns.2)
  else ([], b)
termination_by b.turnsLeft 20

/-- `iter_loop()`: a payload from `maybe_take`, one `send_packet` for it, the `while` loop, the
    warning when the device did not take it, and `reset()`. An exception from `maybe_take` or
    `send_packet` leaves `iter_loop`. -/
def iterLoop {σ : Type} (l2 : L2Device σ) (d : State σ) : Except PyError (State σ × List DriverEffect) := do
  let (queue, taken) ← d.queue.maybeTake
  match taken with
  | none => pure ({ d with queue }, [])
  | some payload =>
    let (sent, device) ← l2.sendPacket d.device payload
    let (retried, backoff) := retryLoop payload sent d.retryBackoff
    pure (⟨queue, device, backoff.reset⟩,
      .sendPacket payload sent :: retried ++ if sent then [] else [.warning payload])

/-! ### The retry loop -/

section RetryLoop

variable (payload : L3Payload)

theorem retryLoop_stop {sent : Bool} {b : BackoffGenerator} (stop : sent = true ∨ 20 ≤ b.total) :
    retryLoop payload sent b = ([], b) := by
  rw [retryLoop, dif_neg]
  rintro ⟨notSent, under⟩
  rcases stop with rfl | spent
  · cases notSent
  · exact absurd under (not_lt.2 spent)

theorem retryLoop_turn {b : BackoffGenerator} (under : b.total < 20) :
    retryLoop payload false b =
      (.sleep b.nextWait :: .debug payload :: (retryLoop payload false b.next.2).1, (retryLoop payload false b.next.2).2) := by
  rw [retryLoop, dif_pos ⟨rfl, under⟩]
  rfl

/-- The loop only hands out waits: `reset()` after it is `reset()` before it. -/
theorem reset_retryLoop (sent : Bool) (b : BackoffGenerator) : (retryLoop payload sent b).2.reset = b.reset := by
  induction b using retryLoop.induct payload sent with
  | case1 b under _ ih => rw [retryLoop, dif_pos under]; exact ih.trans (BackoffGenerator.reset_next b)
  | case2 b over => rw [retryLoop, dif_neg over]

/-- From `BackoffGenerator(0.500, 1.5, 3.000)`, a refused payload sleeps ten times, 21.59375 s in
    all, before the total reaches 20 s. -/
theorem retryLoop_refused :
    (retryLoop payload false retryBackoff).1 =
      [1 / 2, 3 / 4, 9 / 8, 27 / 16, 81 / 32, 3, 3, 3, 3, 3].flatMap fun w => [.sleep w, .debug payload] := by
  simp (disch := norm_num only [min_def, if_true, if_false, Bool.false_eq_true, false_or,
    BackoffGenerator.total_next, BackoffGenerator.nextWait_next, BackoffGenerator.waitMultiplier_next,
    BackoffGenerator.upperLimit_next, total_retryBackoff, nextWait_retryBackoff, waitMultiplier_retryBackoff,
    upperLimit_retryBackoff]) only [retryLoop_turn, retryLoop_stop]
  norm_num [min_def]

end RetryLoop

/-- The loop only sleeps and logs: it never calls `send_packet`. -/
theorem sent_retryLoop (sent : Bool) (b : BackoffGenerator) : (retryLoop payload sent b).1.filterMap DriverEffect.sent = [] := by
  induction b using retryLoop.induct payload sent with
  | case1 b under _ ih => rw [retryLoop, dif_pos under]; exact ih
  | case2 b over => rw [retryLoop, dif_neg over]; rfl

/-! ### A turn of `iter_loop` -/

theorem reset_retryBackoff : retryBackoff.reset = retryBackoff := rfl

/-- A turn of `iter_loop` from a reset backoff, when `send_packet` returns: the payload
    `maybe_take` returns goes to it once and only once. A refused one is dropped after sleeping
    0.5, 0.75, 1.125, 1.6875, 2.53125 and five times 3 s; the backoff ends reset. -/
theorem iterLoop_sends_once {σ : Type} (l2 : L2Device σ) {d : State σ} (fresh : d.retryBackoff = retryBackoff)
    {queue : L3PriorityQueue} {payload : L3Payload} (taken : d.queue.maybeTake = .ok (queue, some payload))
    {sent : Bool} {device : σ} (answered : l2.sendPacket d.device payload = .ok (sent, device)) :
    iterLoop l2 d = .ok (⟨queue, device, retryBackoff⟩, .sendPacket payload sent ::
      if sent then []
      else ([1 / 2, 3 / 4, 9 / 8, 27 / 16, 81 / 32, 3, 3, 3, 3, 3].flatMap fun w => [.sleep w, .debug payload]) ++
        [.warning payload]) := by
  have loop : retryLoop payload sent retryBackoff =
      (if sent then [] else [1 / 2, 3 / 4, 9 / 8, 27 / 16, 81 / 32, 3, 3, 3, 3, 3].flatMap fun w =>
        [.sleep w, .debug payload], (retryLoop payload sent retryBackoff).2) := by
    cases sent
    · exact Prod.ext (retryLoop_refused payload) rfl
    · exact Prod.ext (by rw [retryLoop_stop payload (.inl rfl)]; rfl) rfl
  rw [iterLoop, taken, ok_bind]
  dsimp only
  rw [answered, ok_bind, fresh, loop]
  dsimp only
  rw [reset_retryLoop, reset_retryBackoff]
  cases sent <;> rfl

/-- A device that refuses its first `k` calls to `send_packet` and takes every later one; its
    state counts the calls. -/
def refusingDevice (k : Nat) : L2Device Nat := ⟨fun calls _ => .ok (decide (k ≤ calls), calls + 1)⟩

theorem iterLoop_sends_once_refused :
    iterLoop (refusingDevice 1) (init ((L3PriorityQueue.init defaultMaxSize).offer (defaultPayload 1)).1 0) =
        .ok (⟨⟨defaultMaxSize, []⟩, 1, retryBackoff⟩, .sendPacket (defaultPayload 1) false ::
          ([1 / 2, 3 / 4, 9 / 8, 27 / 16, 81 / 32, 3, 3, 3, 3, 3].flatMap fun w => [.sleep w, .debug (defaultPayload 1)]) ++
            [.warning (defaultPayload 1)]) ∧
      (refusingDevice 1).sendPacket 1 (defaultPayload 1) = .ok (true, 2) :=
  ⟨iterLoop_sends_once (refusingDevice 1) (d := init ((L3PriorityQueue.init defaultMaxSize).offer (defaultPayload 1)).1 0)
    rfl rfl rfl, rfl⟩

/-! ### Runs of the driver -/

/-- `n` turns of `iter_loop`, as the driver's thread loop calls it: the driver after them and
    what they did, or the first exception. -/
def run {σ : Type} (l2 : L2Device σ) : Nat → State σ → Except PyError (State σ × List DriverEffect)
  | 0, d => .ok (d, [])
  | n + 1, d => do
    let (d', first) ← iterLoop l2 d
    let (d'', rest) ← run l2 n d'
    pure (d'', first ++ rest)

/-- What a turn that returns did: one `maybe_take`, whose queue it keeps, a call to `send_packet`
    for the payload taken and for nothing else, and a reset backoff. -/
theorem iterLoop_ok {σ : Type} {l2 : L2Device σ} {d d' : State σ} {effects : List DriverEffect}
    (turn : iterLoop l2 d = .ok (d', effects)) (fresh : d.retryBackoff = retryBackoff) :
    ∃ taken, d.queue.maybeTake = .ok (d'.queue, taken) ∧ effects.filterMap DriverEffect.sent = taken.toList ∧
      d'.retryBackoff = retryBackoff := by
  obtain ⟨⟨queue, taken⟩, took, turn⟩ := bind_eq_ok.1 turn
  cases taken with
  | none =>
    cases turn
    exact ⟨none, took, rfl, fresh⟩
  | some payload =>
    obtain ⟨⟨sent, device⟩, -, turn⟩ := bind_eq_ok.1 turn
    cases turn
    refine ⟨some payload, took, ?_, by rw [reset_retryLoop, fresh, reset_retryBackoff]⟩
    cases sent <;> simp [DriverEffect.sent, List.filterMap_append, sent_retryLoop]

/-- Over every run from a reset backoff that raises nothing, the driver hands `send_packet`
    exactly the payloads its queue gives out, in order, each once, a refused one included, and
    the backoff ends reset. -/
theorem run_sends_each_once {σ : Type} (l2 : L2Device σ) {d : State σ} (fresh : d.retryBackoff = retryBackoff) :
    ∀ {n : Nat} {d' : State σ} {effects : List DriverEffect}, run l2 n d = .ok (d', effects) →
      d'.retryBackoff = retryBackoff ∧
        ∃ replies, d.queue.run (List.replicate n .maybeTake) = .ok (d'.queue, replies) ∧
          effects.filterMap DriverEffect.sent = replies.filterMap QueueReply.takenPayload := by
  intro n
  induction n generalizing d with
  | zero =>
    intro d' effects ran
    cases ran
    exact ⟨fresh, [], rfl, rfl⟩
  | succ n ih =>
    intro d'' effects ran
    obtain ⟨⟨d', first⟩, turn, ran⟩ := bind_eq_ok.1 ran
    obtain ⟨⟨d'', rest⟩, later, ran⟩ := bind_eq_ok.1 ran
    cases ran
    obtain ⟨taken, took, sent, reset⟩ := iterLoop_ok turn fresh
    obtain ⟨reset', replies, queueRan, sent'⟩ := ih reset later
    refine ⟨reset', .taken taken :: replies, ?_, ?_⟩
    · simp only [List.replicate_succ, L3PriorityQueue.run, took, ok_bind, queueRan, pure_except]
    · rw [List.filterMap_append, sent, sent', List.filterMap_cons]
      cases taken <;> rfl

theorem run_sends_each_once_refused :
    let d := init ((L3PriorityQueue.init defaultMaxSize).offer (defaultPayload 1)).1 0
    let effects : List DriverEffect := .sendPacket (defaultPayload 1) false ::
      ([1 / 2, 3 / 4, 9 / 8, 27 / 16, 81 / 32, 3, 3, 3, 3, 3].flatMap fun w => [.sleep w, .debug (defaultPayload 1)]) ++
        [.warning (defaultPayload 1)]
    run (refusingDevice 1) 2 d = .ok (⟨⟨defaultMaxSize, []⟩, 1, retryBackoff⟩, effects) ∧ retryBackoff = retryBackoff ∧
      ∃ replies, d.queue.run (List.replicate 2 .maybeTake) = .ok (⟨defaultMaxSize, []⟩, replies) ∧
        effects.filterMap DriverEffect.sent = replies.filterMap QueueReply.takenPayload := by
  intro d effects
  have ran : run (refusingDevice 1) 2 d = .ok (⟨⟨defaultMaxSize, []⟩, 1, retryBackoff⟩, effects) := by
    simp only [run, iterLoop_sends_once (refusingDevice 1) (d := d) rfl rfl rfl, ok_bind]
    rfl
  exact ⟨ran, run_sends_each_once (refusingDevice 1) rfl ran⟩

end L2L3Driver

end Tarpn
