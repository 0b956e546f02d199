import Tarpn.Bytes

/-!
CPython's `heapq`, which holds the items of `queue.PriorityQueue`: a binary min-heap on a list.
`heappush` appends the item and moves it up past every larger parent (`_siftdown`); `heappop`
puts the last item in the root's place, and `_siftup` walks the hole down along the smaller
children and moves the item back up. Items compare by a key, as `L3Payload` does on its `qos`.
Each sift loop is bounded by fuel, and the callers give enough.
-/

namespace Tarpn.Heapq

variable {α : Type} [Inhabited α] (key : α → Nat)

/-- The loop of `_siftdown(heap, startpos, pos)`: while the hole `pos` is past `startpos`, its
    parent `(pos - 1) >> 1` moves down into it if `newitem` is smaller. The heap and the final
    hole. -/
def siftdownLoop (startpos : Nat) (newitem : α) : (fuel : Nat) → List α → Nat → List α × Nat
  | 0, heap, pos => (heap, pos)
  | fuel + 1, heap, pos =>
    if startpos < pos then
      let parentpos := (pos - 1) >>> 1
      let parent := heap.getD parentpos default
      if key newitem < key parent then siftdownLoop startpos newitem fuel (heap.set pos parent) parentpos
      else (heap, pos)
    else (heap, pos)

/-- `_siftdown(heap, startpos, pos)`: `newitem = heap[pos]` goes where the loop stops. The loop
    turns at most `pos` times. -/
def siftdown (heap : List α) (startpos pos : Nat) : List α :=
  let newitem := heap.getD pos default
  let moved := siftdownLoop key startpos newitem pos heap pos
  moved.1.set moved.2 newitem

/-- The loop of `_siftup(heap, pos)`: while the hole has a child, the smaller child moves up into
    it (the right one unless the left is strictly smaller), and the hole moves down. -/
def siftupLoop (endpos : Nat) : (fuel : Nat) → List α → Nat → List α × Nat
  | 0, heap, pos => (heap, pos)
  | fuel + 1, heap, pos =>
    let childpos := 2 * pos + 1
    if childpos < endpos then
      let rightpos := childpos + 1
      let childpos :=
        if rightpos < endpos ∧ ¬ key (heap.getD childpos default) < key (heap.getD rightpos default) then rightpos
        else childpos
      siftupLoop endpos fuel (heap.set pos (heap.getD childpos default)) childpos
    else (heap, pos)

/-- `_siftup(heap, pos)`: `newitem = heap[pos]` goes to the leaf the loop stops at, then
    `_siftdown(heap, startpos, pos)` moves it up. The loop turns at most `len(heap)` times. -/
def siftup (heap : List α) (pos : Nat) : List α :=
  let endpos := heap.length
  let startpos := pos
  let newitem := heap.getD pos default
  let moved := siftupLoop key endpos endpos heap pos
  siftdown key (moved.1.set moved.2 newitem) startpos moved.2

/-- `heappush(heap, item)`. -/
def heappush (heap : List α) (item : α) : List α :=
  let heap := heap ++ [item]
  siftdown key heap 0 (heap.length - 1)

/-- `heappop(heap)`: the smallest item and the heap without it; `IndexError` on an empty heap. -/
def heappop (heap : List α) : Except PyError (α × List α) :=
  match heap.getLast? with
  | none => .error .indexError
  | some lastelt =>
    let heap := heap.dropLast
    if heap.isEmpty then .ok (lastelt, heap)
    else
      let returnitem := heap.getD 0 default
      .ok (returnitem, siftup key (heap.set 0 lastelt) 0)

/-! ### Positions -/

section Positions

variable {l : List α} {i j : Nat}

theorem getD_set_self (a : α) (inside : i < l.length) : (l.set i a).getD i default = a := by
  simp [inside]

theorem getD_set_of_ne (a : α) (other : j ≠ i) : (l.set i a).getD j default = l.getD j default := by
  simp [List.getElem?_set_ne (Ne.symm other)]

theorem set_getD_self (inside : i < l.length) : l.set i (l.getD i default) = l := by
  apply List.ext_getElem?
  intro j
  by_cases same : j = i
  · subst same; simp [inside, List.getElem?_eq_getElem inside]
  · simp [List.getElem?_set_ne (Ne.symm same)]

/-- Moving the item at `c` into the hole `i` and `a` into `c` holds what `a` in the hole
    holds. -/
theorem set_set_perm (a : α) (inside : i < l.length) (inside' : j < l.length) (other : j ≠ i) :
    ((l.set i (l.getD j default)).set j a).Perm (l.set i a) := by
  classical
  rw [List.perm_iff_count]
  intro b
  have insideSet : j < (l.set i (l.getD j default)).length := by simpa using inside'
  have atJ : (l.set i (l.getD j default))[j] = l[j] := by
    simp [List.getElem_set, Ne.symm other]
  have atD : l.getD j default = l[j] := by simp [List.getElem?_eq_getElem inside']
  have counted := List.boole_getElem_le_count b l i inside
  rw [List.count_set _ _ _ _ insideSet, List.count_set _ _ _ _ inside,
    List.count_set _ _ _ _ inside, atJ, atD]
  omega

theorem shiftRight_one (n : Nat) : n >>> 1 = n / 2 := by
  rw [Nat.shiftRight_eq_div_pow, Nat.pow_one]

theorem getD_append_of_lt (rest : List α) (inside : i < l.length) : (l ++ rest).getD i default = l.getD i default := by
  simp [List.getElem?_append_left inside]

theorem getD_append_length (rest : List α) : (l ++ rest).getD l.length default = rest.getD 0 default := by
  simp [List.getElem?_append_right (Nat.le_refl _)]

end Positions

/-! ### The heap order -/

/-- `heap[k] <= heap[2*k+1]` and `heap[k] <= heap[2*k+2]`, said of each child `i` and its parent
    `(i - 1) / 2`. -/
def HeapOrdered (heap : List α) : Prop :=
  ∀ i, 0 < i → i < heap.length → key (heap.getD ((i - 1) / 2) default) ≤ key (heap.getD i default)

/-- Every child and parent pair that does not touch the hole is in order. -/
def OrderedExcept (heap : List α) (hole : Nat) : Prop :=
  ∀ i, 0 < i → i < heap.length → i ≠ hole → (i - 1) / 2 ≠ hole →
    key (heap.getD ((i - 1) / 2) default) ≤ key (heap.getD i default)

/-- What the loop of `_siftdown` keeps: the pairs off the hole are in order, the hole's
    children are at or after its parent, and `newitem` is at or before them. -/
structure UpOrder (heap : List α) (hole : Nat) (newitem : α) : Prop where
  except : OrderedExcept key heap hole
  grand : 0 < hole → ∀ c, 0 < c → c < heap.length → (c - 1) / 2 = hole →
    key (heap.getD ((hole - 1) / 2) default) ≤ key (heap.getD c default)
  below : ∀ c, 0 < c → c < heap.length → (c - 1) / 2 = hole → key newitem ≤ key (heap.getD c default)

/-- What the loop of `_siftup` keeps: the pairs off the hole are in order, and the hole's
    children are at or after its parent. -/
structure DownOrder (heap : List α) (hole : Nat) : Prop where
  except : OrderedExcept key heap hole
  grand : 0 < hole → ∀ c, 0 < c → c < heap.length → (c - 1) / 2 = hole →
    key (heap.getD ((hole - 1) / 2) default) ≤ key (heap.getD c default)

variable {key}

/-- The root of a heap is at or before every item. -/
theorem HeapOrdered.root_le {heap : List α} (ordered : HeapOrdered key heap) :
    ∀ i, i < heap.length → key (heap.getD 0 default) ≤ key (heap.getD i default) := by
  intro i
  induction i using Nat.strong_induction_on with
  | _ i ih =>
    intro inside
    rcases Nat.eq_zero_or_pos i with rfl | positive
    · exact le_rfl
    · exact (ih ((i - 1) / 2) (by omega) (by omega)).trans (ordered i positive inside)

/-- `heap[0]` is the smallest item of a nonempty heap. -/
theorem HeapOrdered.root_min {heap : List α} (ordered : HeapOrdered key heap) :
    ∀ y ∈ heap, key (heap.getD 0 default) ≤ key y := by
  intro y mem
  obtain ⟨i, inside, rfl⟩ := List.getElem_of_mem mem
  simpa [List.getElem?_eq_getElem inside] using ordered.root_le i inside

/-- The heap order passes to every prefix, the heap less its last item first. -/
theorem HeapOrdered.of_append {heap rest : List α} (ordered : HeapOrdered key (heap ++ rest)) :
    HeapOrdered key heap := by
  intro i positive inside
  have := ordered i positive (by simp; omega)
  rwa [getD_append_of_lt _ (by omega), getD_append_of_lt _ inside] at this

/-- Appending an item opens a hole at the end, where it sits. -/
theorem HeapOrdered.upOrder_append {heap : List α} (ordered : HeapOrdered key heap) (item : α) :
    UpOrder key (heap ++ [item]) heap.length item where
  except i positive inside other _ := by
    simp only [List.length_append, List.length_singleton] at inside
    rw [getD_append_of_lt _ (by omega), getD_append_of_lt _ (by omega)]
    exact ordered i positive (by omega)
  grand _ c _ inside parent := by simp at inside; omega
  below c _ inside parent := by simp at inside; omega

/-- Putting an item at the root of a heap opens a hole there. -/
theorem HeapOrdered.downOrder_set_root {heap : List α} (ordered : HeapOrdered key heap) (item : α) :
    DownOrder key (heap.set 0 item) 0 where
  except i positive inside other parent := by
    rw [List.length_set] at inside
    rw [getD_set_of_ne _ other, getD_set_of_ne _ parent]
    exact ordered i positive inside
  grand positive := absurd positive (Nat.lt_irrefl 0)

/-! ### `_siftdown` -/

/-- The parent moving down into the hole keeps `UpOrder` for the parent's position. -/
theorem UpOrder.move {heap : List α} {hole : Nat} {newitem : α} (up : UpOrder key heap hole newitem)
    (positive : 0 < hole) (inside : hole < heap.length)
    (smaller : key newitem < key (heap.getD ((hole - 1) / 2) default)) :
    UpOrder key (heap.set hole (heap.getD ((hole - 1) / 2) default)) ((hole - 1) / 2) newitem := by
  obtain ⟨except, grand, below⟩ := up
  have above : (hole - 1) / 2 ≠ hole := by omega
  -- the grandparent is at or before the parent
  have parentOrdered : 0 < (hole - 1) / 2 →
      key (heap.getD (((hole - 1) / 2 - 1) / 2) default) ≤ key (heap.getD ((hole - 1) / 2) default) :=
    fun pos => except _ pos (by omega) above (by omega)
  -- the hole's sibling is at or after the parent
  have sibling : ∀ c, 0 < c → c < heap.length → (c - 1) / 2 = (hole - 1) / 2 → c ≠ hole →
      key (heap.getD ((hole - 1) / 2) default) ≤ key (heap.getD c default) := by
    intro c pos inside' parent other
    have := except c pos inside' other (by omega)
    rwa [parent] at this
  refine ⟨fun i ipos inside' other parent => ?_, fun pos c cpos inside' parent => ?_,
    fun c cpos inside' parent => ?_⟩
  · rw [List.length_set] at inside'
    have notHole : i ≠ hole := fun same => parent (by rw [same])
    rw [getD_set_of_ne _ notHole]
    by_cases up : (i - 1) / 2 = hole
    · rw [up, getD_set_self _ inside]
      exact grand positive i ipos inside' up
    · rw [getD_set_of_ne _ up]
      exact except i ipos inside' notHole up
  · rw [List.length_set] at inside'
    rw [getD_set_of_ne _ (by omega)]
    by_cases same : c = hole
    · subst same; rw [getD_set_self _ inside]; exact parentOrdered pos
    · rw [getD_set_of_ne _ same]; exact (parentOrdered pos).trans (sibling c cpos inside' parent same)
  · rw [List.length_set] at inside'
    by_cases same : c = hole
    · subst same; rw [getD_set_self _ inside]; exact le_of_lt smaller
    · rw [getD_set_of_ne _ same]; exact (le_of_lt smaller).trans (sibling c cpos inside' parent same)

/-- Where the loop stops, `newitem` placed in the hole leaves a heap. -/
theorem UpOrder.finish {heap : List α} {hole : Nat} {newitem : α} (up : UpOrder key heap hole newitem)
    (inside : hole < heap.length)
    (stop : 0 < hole → key (heap.getD ((hole - 1) / 2) default) ≤ key newitem) :
    HeapOrdered key (heap.set hole newitem) := by
  intro i positive inside'
  rw [List.length_set] at inside'
  by_cases same : i = hole
  · subst same
    rw [getD_set_self _ inside, getD_set_of_ne _ (by omega)]
    exact stop positive
  · rw [getD_set_of_ne _ same]
    by_cases parent : (i - 1) / 2 = hole
    · rw [parent, getD_set_self _ inside]; exact up.below i positive inside' parent
    · rw [getD_set_of_ne _ parent]; exact up.except i positive inside' same parent

/-- `UpOrder` never reads the hole. -/
theorem UpOrder.set_hole {heap : List α} {hole : Nat} {newitem : α} (up : UpOrder key heap hole newitem)
    (a : α) : UpOrder key (heap.set hole a) hole newitem where
  except i positive inside other parent := by
    rw [List.length_set] at inside
    rw [getD_set_of_ne _ other, getD_set_of_ne _ parent]
    exact up.except i positive inside other parent
  grand positive c cpos inside parent := by
    rw [List.length_set] at inside
    rw [getD_set_of_ne _ (by omega), getD_set_of_ne _ (by omega)]
    exact up.grand positive c cpos inside parent
  below c cpos inside parent := by
    rw [List.length_set] at inside
    rw [getD_set_of_ne _ (by omega)]
    exact up.below c cpos inside parent

variable (key) in
/-- The loop of `_siftdown` from the root down, with fuel for every turn: a heap with `newitem`
    in the final hole, holding what the start held with `newitem` in its hole. -/
theorem siftdownLoop_spec (newitem : α) :
    ∀ (fuel : Nat) (heap : List α) (pos : Nat), pos ≤ fuel → pos < heap.length → UpOrder key heap pos newitem →
      (siftdownLoop key 0 newitem fuel heap pos).2 < (siftdownLoop key 0 newitem fuel heap pos).1.length ∧
      HeapOrdered key ((siftdownLoop key 0 newitem fuel heap pos).1.set (siftdownLoop key 0 newitem fuel heap pos).2 newitem) ∧
      ((siftdownLoop key 0 newitem fuel heap pos).1.set (siftdownLoop key 0 newitem fuel heap pos).2 newitem).Perm
        (heap.set pos newitem)
  | 0, heap, pos, enough, inside, up => by
    obtain rfl : pos = 0 := by omega
    exact ⟨inside, up.finish inside (absurd · (Nat.lt_irrefl 0)), List.Perm.refl _⟩
  | fuel + 1, heap, pos, enough, inside, up => by
    unfold siftdownLoop
    rw [shiftRight_one]
    by_cases positive : 0 < pos
    · by_cases smaller : key newitem < key (heap.getD ((pos - 1) / 2) default)
      · simp only [positive, smaller, if_true]
        obtain ⟨inside', ordered, perm⟩ := siftdownLoop_spec newitem fuel _ ((pos - 1) / 2) (by omega)
          (by rw [List.length_set]; omega) (up.move positive inside smaller)
        exact ⟨inside', ordered, perm.trans (set_set_perm _ inside (by omega) (by omega))⟩
      · simp only [positive, smaller, if_true, if_false]
        exact ⟨inside, up.finish inside fun _ => Nat.le_of_not_lt smaller, List.Perm.refl _⟩
    · simp only [positive, if_false]
      exact ⟨inside, up.finish inside (absurd · positive), List.Perm.refl _⟩

/-- `_siftdown(heap, 0, pos)` from `UpOrder` at `pos` gives a heap of the same items. -/
theorem siftdown_spec {heap : List α} {pos : Nat} (inside : pos < heap.length)
    (up : UpOrder key heap pos (heap.getD pos default)) :
    HeapOrdered key (siftdown key heap 0 pos) ∧ (siftdown key heap 0 pos).Perm heap := by
  obtain ⟨-, ordered, perm⟩ := siftdownLoop_spec key _ pos heap pos le_rfl inside up
  exact ⟨ordered, by rwa [set_getD_self inside] at perm⟩

/-! ### `_siftup` -/

/-- The smaller child moving up into the hole keeps `DownOrder` for the child's position. -/
theorem DownOrder.move {heap : List α} {hole c : Nat} (down : DownOrder key heap hole)
    (inside : hole < heap.length) (child : c = 2 * hole + 1 ∨ c = 2 * hole + 2) (inside' : c < heap.length)
    (least : ∀ c', c' = 2 * hole + 1 ∨ c' = 2 * hole + 2 → c' < heap.length →
      key (heap.getD c default) ≤ key (heap.getD c' default)) :
    DownOrder key (heap.set hole (heap.getD c default)) c := by
  obtain ⟨except, grand⟩ := down
  refine ⟨fun i positive insideI other parent => ?_, fun _ gc gcpos insideG parent => ?_⟩
  · rw [List.length_set] at insideI
    by_cases same : i = hole
    · subst same
      rw [getD_set_self _ inside, getD_set_of_ne _ (by omega)]
      exact grand positive c (by omega) inside' (by omega)
    · rw [getD_set_of_ne _ same]
      by_cases up : (i - 1) / 2 = hole
      · rw [up, getD_set_self _ inside]; exact least i (by omega) insideI
      · rw [getD_set_of_ne _ up]; exact except i positive insideI same up
  · rw [List.length_set] at insideG
    rw [show (c - 1) / 2 = hole by omega, getD_set_self _ inside, getD_set_of_ne _ (by omega)]
    have := except gc gcpos insideG (by omega) (by omega)
    rwa [parent] at this

/-- At a leaf, `DownOrder` is `UpOrder` for any item. -/
theorem DownOrder.toUpOrder {heap : List α} {hole : Nat} (down : DownOrder key heap hole)
    (leaf : heap.length ≤ 2 * hole + 1) (newitem : α) : UpOrder key heap hole newitem where
  except := down.except
  grand _ c _ inside parent := by omega
  below c _ inside parent := by omega

variable (key) in
/-- The child a turn of `_siftup`'s loop moves up, the right one unless the left is strictly
    smaller, is at or before its sibling. -/
theorem smaller_child {heap : List α} {pos : Nat} (parent : 2 * pos + 1 < heap.length) :
    ∃ c, (if 2 * pos + 1 + 1 < heap.length ∧
          ¬ key (heap.getD (2 * pos + 1) default) < key (heap.getD (2 * pos + 1 + 1) default)
        then 2 * pos + 1 + 1 else 2 * pos + 1) = c ∧ (c = 2 * pos + 1 ∨ c = 2 * pos + 2) ∧ c < heap.length ∧
      ∀ c', c' = 2 * pos + 1 ∨ c' = 2 * pos + 2 → c' < heap.length →
        key (heap.getD c default) ≤ key (heap.getD c' default) := by
  refine ⟨_, rfl, ?_⟩
  split
  · rename_i right
    refine ⟨.inr rfl, right.1, fun c' child' inside' => ?_⟩
    rcases child' with rfl | rfl
    · exact Nat.le_of_not_lt right.2
    · exact le_rfl
  · rename_i left
    refine ⟨.inl rfl, parent, fun c' child' inside' => ?_⟩
    rcases child' with rfl | rfl
    · exact le_rfl
    · simp only [not_and, not_not] at left
      exact le_of_lt (left inside')

variable (key) in
/-- The loop of `_siftup`, with fuel for every turn: the hole ends at a leaf, `DownOrder` kept,
    and any item in the final hole holds what it holds in the first. -/
theorem siftupLoop_spec :
    ∀ (fuel : Nat) (heap : List α) (pos : Nat), heap.length - pos ≤ fuel → pos < heap.length →
      DownOrder key heap pos →
      (siftupLoop key heap.length fuel heap pos).2 < (siftupLoop key heap.length fuel heap pos).1.length ∧
      heap.length ≤ 2 * (siftupLoop key heap.length fuel heap pos).2 + 1 ∧
      (siftupLoop key heap.length fuel heap pos).1.length = heap.length ∧
      DownOrder key (siftupLoop key heap.length fuel heap pos).1 (siftupLoop key heap.length fuel heap pos).2 ∧
      ∀ a, ((siftupLoop key heap.length fuel heap pos).1.set (siftupLoop key heap.length fuel heap pos).2 a).Perm
        (heap.set pos a)
  | 0, _, _, enough, inside, _ => by omega
  | fuel + 1, heap, pos, enough, inside, down => by
    unfold siftupLoop
    by_cases parent : 2 * pos + 1 < heap.length
    · rw [if_pos parent]
      obtain ⟨c, picked, child, insideC, least⟩ := smaller_child key parent
      dsimp only
      rw [picked]
      have moved := siftupLoop_spec fuel (heap.set pos (heap.getD c default)) c (by rw [List.length_set]; omega)
        (by rw [List.length_set]; exact insideC) (down.move inside child insideC least)
      rw [List.length_set] at moved
      obtain ⟨insideR, leaf, length, downR, perm⟩ := moved
      exact ⟨insideR, leaf, length, downR, fun a => (perm a).trans (set_set_perm _ inside insideC (by omega))⟩
    · rw [if_neg parent]
      exact ⟨inside, by omega, rfl, down, fun _ => List.Perm.refl _⟩

/-- `_siftup(heap, 0)` from `DownOrder` at the root gives a heap of the same items. -/
theorem siftup_spec {heap : List α} (nonempty : 0 < heap.length) (down : DownOrder key heap 0) :
    HeapOrdered key (siftup key heap 0) ∧ (siftup key heap 0).Perm heap := by
  obtain ⟨inside, leaf, length, downR, perm⟩ := siftupLoop_spec key heap.length heap 0 (by omega) nonempty down
  unfold siftup
  dsimp only
  generalize siftupLoop key heap.length heap.length heap 0 = moved at inside leaf length downR perm
  have insideSet : moved.2 < (moved.1.set moved.2 (heap.getD 0 default)).length := by rw [List.length_set]; exact inside
  obtain ⟨ordered, perm'⟩ := siftdown_spec insideSet
    (by rw [getD_set_self _ inside]; exact (downR.toUpOrder (by omega) _).set_hole _)
  refine ⟨ordered, perm'.trans ((perm _).trans ?_)⟩
  rw [set_getD_self nonempty]

/-! ### `heappush` and `heappop` -/

/-- `heappush` keeps the heap order and adds the item. -/
theorem heappush_spec {heap : List α} (ordered : HeapOrdered key heap) (item : α) :
    HeapOrdered key (heappush key heap item) ∧ (heappush key heap item).Perm (heap ++ [item]) := by
  unfold heappush
  dsimp only
  have inside : (heap ++ [item]).length - 1 < (heap ++ [item]).length := by simp
  have last : (heap ++ [item]).length - 1 = heap.length := by simp
  refine siftdown_spec inside ?_
  rw [last, getD_append_length]
  exact ordered.upOrder_append item

/-- `heappop` of a nonempty heap returns an item of the smallest key and keeps the heap order on
    the rest. -/
theorem heappop_spec {heap : List α} (ordered : HeapOrdered key heap) (nonempty : heap ≠ []) :
    ∃ item rest, heappop key heap = .ok (item, rest) ∧ HeapOrdered key rest ∧ (item :: rest).Perm heap ∧
      ∀ y ∈ heap, key item ≤ key y := by
  obtain ⟨init, last, rfl⟩ : ∃ init last, heap = init ++ [last] := by
    rcases List.eq_nil_or_concat heap with empty | ⟨init, last, split⟩
    · exact absurd empty nonempty
    · exact ⟨init, last, by rw [split, List.concat_eq_append]⟩
  have popped : heappop key (init ++ [last]) =
      if init.isEmpty then .ok (last, init) else .ok (init.getD 0 default, siftup key (init.set 0 last) 0) := by
    unfold heappop
    rw [List.getLast?_concat]
    dsimp only
    rw [List.dropLast_concat]
  rw [popped]
  cases init with
  | nil =>
    refine ⟨last, [], rfl, fun i _ inside => absurd inside (by simp), List.Perm.refl _, fun y mem => ?_⟩
    rw [List.nil_append, List.mem_singleton] at mem
    rw [mem]
  | cons a t =>
    obtain ⟨ordered', perm⟩ := siftup_spec (by simp) (ordered.of_append.downOrder_set_root last)
    refine ⟨a, _, rfl, ordered', (perm.cons a).trans (.cons a ?_), fun y mem => ?_⟩
    · exact show ([last] ++ t).Perm (t ++ [last]) from List.perm_append_comm
    · simpa using ordered.root_min y mem

end Tarpn.Heapq
