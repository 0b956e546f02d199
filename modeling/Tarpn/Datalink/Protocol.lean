import Tarpn.Dict
import Tarpn.Bytes

/-!
`LinkMultiplexer`, which ties the L2 devices to their outbound L3 queues: `register_device` makes
a device's queue and submits the `L2L3Driver` that drains it, `add_link` hands out logical link
ids and `get_queue` finds a link's queue through the device that owns it.

`register_device` guards on `l2_protocol not in self.queues.keys()`. The keys are int device
ids and `l2_protocol` is the device object, and Python's `==` between an object and an int
falls back to identity, so the guard never sees the device as registered.
-/

namespace Tarpn

/-- The Python values `register_device`'s guard compares: int keys, and objects, which are equal
    only to themselves. -/
inductive PyValue
  | int (n : Nat)
  | object (id : Nat)
  deriving DecidableEq

/-- `==` on these values: ints by value, objects by identity, an int and an object never. -/
def PyValue.pyEq : PyValue → PyValue → Bool
  | .int a, .int b => a == b
  | .object a, .object b => a == b
  | _, _ => false

/-- Modelled from the spec: an `L2Protocol` device, the object `id()` and its
    `get_device_id()`. -/
structure L2Protocol where
  objectId : Nat
  deviceId : Nat
  deriving DecidableEq

/-- An `L2L3Driver(queue, l2)` submitted to the scheduler; queues are told apart by the order
    `queue_factory()` made them in. -/
structure L2L3Driver where
  queue : Nat
  l2 : L2Protocol
  deriving DecidableEq

/-- `LinkMultiplexer`: the next id of `link_id_counter`, the devices and queues by device id, the
    logical links by link id, how many queues `queue_factory()` has made, and the drivers
    submitted to the scheduler, in order. -/
structure LinkMultiplexer where
  linkIdCounter : Nat
  l2Devices : PyDict Nat L2Protocol
  queues : PyDict Nat Nat
  logicalLinks : PyDict Nat L2Protocol
  queuesMade : Nat
  submitted : List L2L3Driver

namespace LinkMultiplexer

/-- `LinkMultiplexer(queue_factory, scheduler)`. -/
def init : LinkMultiplexer := ⟨0, .empty, .empty, .empty, 0, []⟩

/-- `l2_protocol not in self.queues.keys()`. -/
def notRegistered (m : LinkMultiplexer) (l2 : L2Protocol) : Bool :=
  !(m.queues.keys.any fun key => (PyValue.object l2.objectId).pyEq (.int key))

/-- `register_device(l2_protocol)`: a new queue under the device id, the device, and a driver
    for the queue. -/
def registerDevice (m : LinkMultiplexer) (l2 : L2Protocol) : LinkMultiplexer :=
  if m.notRegistered l2 then
    let queue := m.queuesMade
    { m with
      queuesMade := m.queuesMade + 1
      queues := m.queues.set l2.deviceId queue
      l2Devices := m.l2Devices.set l2.deviceId l2
      submitted := m.submitted ++ [⟨queue, l2⟩] }
  else m

/-- `add_link(l2_protocol)`: the counter's next id, now owned by the device. -/
def addLink (m : LinkMultiplexer) (l2 : L2Protocol) : Nat × LinkMultiplexer :=
  (m.linkIdCounter, { m with linkIdCounter := m.linkIdCounter + 1, logicalLinks := m.logicalLinks.set m.linkIdCounter l2 })

/-- `remove_link(link_id)`: `del` raises `KeyError` for an id that is not a link. -/
def removeLink (m : LinkMultiplexer) (linkId : Nat) : Except PyError LinkMultiplexer :=
  if linkId ∈ m.logicalLinks.keys then .ok { m with logicalLinks := m.logicalLinks.erase linkId }
  else .error .keyError

/-- `get_queue(link_id)`: the queue of the device that owns the link. -/
def getQueue (m : LinkMultiplexer) (linkId : Nat) : Option Nat :=
  match m.logicalLinks.get? linkId with
  | some l2 => m.queues.get? l2.deviceId
  | none => none

@[simp] theorem notRegistered_eq (m : LinkMultiplexer) (l2 : L2Protocol) : m.notRegistered l2 = true := by
  simp [notRegistered, PyValue.pyEq]

theorem registerDevice_eq (m : LinkMultiplexer) (l2 : L2Protocol) :
    m.registerDevice l2 = { m with
      queuesMade := m.queuesMade + 1
      queues := m.queues.set l2.deviceId m.queuesMade
      l2Devices := m.l2Devices.set l2.deviceId l2
      submitted := m.submitted ++ [⟨m.queuesMade, l2⟩] } := by
  simp [registerDevice]

/-- Registering a device twice submits two drivers for it, on two queues, and leaves only the
    second queue under its id: the first driver drains a queue nothing offers to. -/
theorem registerDevice_twice (m : LinkMultiplexer) (l2 : L2Protocol) :
    ((m.registerDevice l2).registerDevice l2).submitted =
        m.submitted ++ [⟨m.queuesMade, l2⟩, ⟨m.queuesMade + 1, l2⟩] ∧
      ((m.registerDevice l2).registerDevice l2).queues.get? l2.deviceId = some (m.queuesMade + 1) := by
  simp [registerDevice_eq]

/-! ### Runs -/

/-- The calls a run makes on a multiplexer, one at a time. -/
inductive MuxOp
  | registerDevice (l2 : L2Protocol)
  | addLink (l2 : L2Protocol)
  | removeLink (linkId : Nat)
  deriving DecidableEq

/-- A run: the state after it and the ids `add_link` returned, in order. A `remove_link` that
    raises leaves the state as it was. -/
def run (m : LinkMultiplexer) : List MuxOp → LinkMultiplexer × List Nat
  | [] => (m, [])
  | .registerDevice l2 :: ops => run (m.registerDevice l2) ops
  | .addLink l2 :: ops => ((m.addLink l2).2.run ops).map id ((m.addLink l2).1 :: ·)
  | .removeLink linkId :: ops => ((m.removeLink linkId).toOption.getD m).run ops

/-- The ids of a run are handed out in increasing order, from the counter on: no id is handed
    out twice, a removed one included. -/
theorem run_ids_increasing (ops : List MuxOp) (m : LinkMultiplexer) :
    (m.run ops).2.Pairwise (· < ·) ∧
      (∀ linkId ∈ (m.run ops).2, m.linkIdCounter ≤ linkId ∧ linkId < (m.run ops).1.linkIdCounter) ∧
      m.linkIdCounter ≤ (m.run ops).1.linkIdCounter := by
  induction ops generalizing m with
  | nil => simp [run]
  | cons op ops ih =>
    cases op with
    | registerDevice l2 =>
      have same : (m.registerDevice l2).linkIdCounter = m.linkIdCounter := by simp [registerDevice_eq]
      simpa only [run, same] using ih (m.registerDevice l2)
    | addLink l2 =>
      obtain ⟨sorted, bounds, grows⟩ := ih (m.addLink l2).2
      simp only [addLink] at bounds grows
      simp only [run, addLink, Prod.map, id, List.pairwise_cons, List.mem_cons, forall_eq_or_imp]
      exact ⟨⟨fun linkId mem => by have := bounds linkId mem; omega, sorted⟩,
        ⟨⟨le_refl _, by omega⟩, fun linkId mem => by have := bounds linkId mem; omega⟩, by omega⟩
    | removeLink linkId =>
      have same : ((m.removeLink linkId).toOption.getD m).linkIdCounter = m.linkIdCounter := by
        unfold removeLink; split <;> rfl
      simpa only [run, same] using ih ((m.removeLink linkId).toOption.getD m)

/-- Every `register_device` submits a driver, a device registered before included: a run
    submits as many drivers for a device as it registers it. -/
theorem run_drivers (ops : List MuxOp) (m : LinkMultiplexer) (l2 : L2Protocol) :
    ((m.run ops).1.submitted.filter (·.l2 = l2)).length =
      (m.submitted.filter (·.l2 = l2)).length + ops.count (.registerDevice l2) := by
  induction ops generalizing m with
  | nil => simp [run]
  | cons op ops ih =>
    cases op with
    | registerDevice l2' =>
      rw [run, ih, registerDevice_eq]
      by_cases same : l2' = l2
      · subst same; simp [List.count_cons]; omega
      · simp [List.count_cons, same]
    | addLink l2' => simp [run, ih, addLink, List.count_cons]
    | removeLink linkId =>
      have same : ((m.removeLink linkId).toOption.getD m).submitted = m.submitted := by
        unfold removeLink; split <;> rfl
      simp [run, ih, same, List.count_cons]

end LinkMultiplexer

end Tarpn
