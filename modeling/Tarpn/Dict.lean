import Mathlib.Data.List.Nodup

/-!
Python's `dict` as the sources use it: items in insertion order, each key once. Assigning to a
present key keeps its place, a new key goes last, and `del` takes the key out. Every other module
keeps its maps in a `PyDict`, so the order in which `get_nodes` and `prune_routes` visit them is
the order Python visits them in.
-/

namespace Tarpn

/-- A Python `dict`: its items in insertion order, each key once. -/
@[ext] structure PyDict (κ ν : Type) where
  items : List (κ × ν)
  unique : (items.map Prod.fst).Nodup

namespace PyDict

variable {κ ν : Type} [DecidableEq κ]

/-- `d.get(k)` over raw items: the value of the first item with key `k`. -/
def lookupItems (k : κ) : List (κ × ν) → Option ν
  | [] => none
  | (k', v) :: rest => if k' = k then some v else lookupItems k rest

/-- `d[k] = v` over raw items: a present key keeps its place, a new key goes last. -/
def setItems (k : κ) (v : ν) : List (κ × ν) → List (κ × ν)
  | [] => [(k, v)]
  | (k', v') :: rest => if k' = k then (k, v) :: rest else (k', v') :: setItems k v rest

/-- `del d[k]` over raw items: the first item with key `k` goes. -/
def eraseItems (k : κ) : List (κ × ν) → List (κ × ν)
  | [] => []
  | (k', v') :: rest => if k' = k then rest else (k', v') :: eraseItems k rest

/-- Keep the items `f` gives a value for, with that value, in order. -/
def filterMapItems (f : κ → ν → Option ν) : List (κ × ν) → List (κ × ν)
  | [] => []
  | (k, v) :: rest =>
    match f k v with
    | some w => (k, w) :: filterMapItems f rest
    | none => filterMapItems f rest

theorem keys_setItems (k : κ) (v : ν) (items : List (κ × ν)) :
    (setItems k v items).map Prod.fst =
      if k ∈ items.map Prod.fst then items.map Prod.fst else items.map Prod.fst ++ [k] := by
  induction items with
  | nil => rfl
  | cons kv rest ih =>
    by_cases same : kv.1 = k
    · simp [setItems, same]
    · by_cases later : k ∈ rest.map Prod.fst
      · simp_all [setItems, Ne.symm same]
      · simp_all [setItems, Ne.symm same]

theorem keys_eraseItems_sublist (k : κ) (items : List (κ × ν)) :
    ((eraseItems k items).map Prod.fst).Sublist (items.map Prod.fst) := by
  induction items with
  | nil => exact .slnil
  | cons kv rest ih =>
    unfold eraseItems
    split
    · exact .cons _ (List.Sublist.refl _)
    · exact ih.cons₂ _

omit [DecidableEq κ] in
theorem keys_filterMapItems_sublist (f : κ → ν → Option ν) (items : List (κ × ν)) :
    ((filterMapItems f items).map Prod.fst).Sublist (items.map Prod.fst) := by
  induction items with
  | nil => exact .slnil
  | cons kv rest ih =>
    unfold filterMapItems
    split
    · exact ih.cons₂ _
    · exact ih.cons _

theorem lookupItems_eq_none {k : κ} {items : List (κ × ν)} (absent : k ∉ items.map Prod.fst) :
    lookupItems k items = none := by
  induction items with
  | nil => rfl
  | cons kv rest ih =>
    simp only [List.map_cons, List.mem_cons, not_or] at absent
    simp [lookupItems, Ne.symm absent.1, ih absent.2]

theorem lookupItems_isSome {k : κ} {items : List (κ × ν)} :
    (lookupItems k items).isSome ↔ k ∈ items.map Prod.fst := by
  induction items with
  | nil => simp [lookupItems]
  | cons kv rest ih =>
    by_cases same : kv.1 = k
    · simp [lookupItems, same]
    · simp [lookupItems, same, ih, Ne.symm same]

theorem lookupItems_setItems (k k' : κ) (v : ν) (items : List (κ × ν)) :
    lookupItems k' (setItems k v items) = if k' = k then some v else lookupItems k' items := by
  induction items with
  | nil => simp [setItems, lookupItems, eq_comm]
  | cons kv rest ih =>
    by_cases here : kv.1 = k
    · by_cases same : k' = k
      · simp [setItems, lookupItems, here, same]
      · simp [setItems, lookupItems, here, same, Ne.symm same]
    · by_cases at' : kv.1 = k'
      · subst at'; simp [setItems, lookupItems, here, Ne.symm here]
      · simp [setItems, lookupItems, here, at', ih]

theorem lookupItems_eraseItems {k k' : κ} {items : List (κ × ν)} (unique : (items.map Prod.fst).Nodup) :
    lookupItems k' (eraseItems k items) = if k' = k then none else lookupItems k' items := by
  induction items with
  | nil => simp [eraseItems, lookupItems]
  | cons kv rest ih =>
    simp only [List.map_cons, List.nodup_cons] at unique
    by_cases here : kv.1 = k
    · subst here
      by_cases same : k' = kv.1
      · subst same; simp [eraseItems, lookupItems_eq_none unique.1]
      · simp [eraseItems, lookupItems, same, Ne.symm same]
    · by_cases at' : kv.1 = k'
      · subst at'; simp [eraseItems, lookupItems, here, Ne.symm here]
      · simp [eraseItems, lookupItems, here, at', ih unique.2]

theorem lookupItems_filterMapItems {f : κ → ν → Option ν} {k : κ} {items : List (κ × ν)}
    (unique : (items.map Prod.fst).Nodup) :
    lookupItems k (filterMapItems f items) = (lookupItems k items).bind (f k) := by
  induction items with
  | nil => rfl
  | cons kv rest ih =>
    simp only [List.map_cons, List.nodup_cons] at unique
    obtain ⟨k', v⟩ := kv
    by_cases same : k' = k
    · subst same
      have dropped : lookupItems k' (filterMapItems f rest) = none :=
        lookupItems_eq_none fun mem => unique.1 ((keys_filterMapItems_sublist f rest).subset mem)
      cases fk : f k' v <;> simp [filterMapItems, lookupItems, fk, dropped]
    · cases fk : f k' v <;> simp [filterMapItems, lookupItems, fk, same, ih unique.2]


theorem eraseItems_setItems (k : κ) (v : ν) (items : List (κ × ν)) :
    eraseItems k (setItems k v items) = eraseItems k items := by
  induction items with
  | nil => simp [setItems, eraseItems]
  | cons kv rest ih => by_cases here : kv.1 = k <;> simp [setItems, eraseItems, here, ih]

theorem setItems_middle {k : κ} {v w : ν} {front back : List (κ × ν)} (fresh : k ∉ front.map Prod.fst) :
    setItems k w (front ++ (k, v) :: back) = front ++ (k, w) :: back := by
  induction front with
  | nil => simp [setItems]
  | cons kv rest ih =>
    simp only [List.map_cons, List.mem_cons, not_or] at fresh
    simp [setItems, Ne.symm fresh.1, ih fresh.2]

theorem eraseItems_middle {k : κ} {v : ν} {front back : List (κ × ν)} (fresh : k ∉ front.map Prod.fst) :
    eraseItems k (front ++ (k, v) :: back) = front ++ back := by
  induction front with
  | nil => simp [eraseItems]
  | cons kv rest ih =>
    simp only [List.map_cons, List.mem_cons, not_or] at fresh
    simp [eraseItems, Ne.symm fresh.1, ih fresh.2]

omit [DecidableEq κ] in
theorem filterMapItems_append (f : κ → ν → Option ν) (front back : List (κ × ν)) :
    filterMapItems f (front ++ back) = filterMapItems f front ++ filterMapItems f back := by
  induction front with
  | nil => rfl
  | cons kv rest ih =>
    obtain ⟨k, v⟩ := kv
    cases fk : f k v <;> simp [filterMapItems, fk, ih]

theorem lookupItems_eq_some {k : κ} {v : ν} {items : List (κ × ν)} (unique : (items.map Prod.fst).Nodup) :
    lookupItems k items = some v ↔ (k, v) ∈ items := by
  induction items with
  | nil => simp [lookupItems]
  | cons kv rest ih =>
    simp only [List.map_cons, List.nodup_cons] at unique
    obtain ⟨k', v'⟩ := kv
    by_cases same : k' = k
    · subst same
      have absent : (k', v) ∉ rest := fun mem => unique.1 (by simpa using List.mem_map_of_mem Prod.fst mem)
      simp [lookupItems, absent, eq_comm]
    · simp [lookupItems, same, ih unique.2, Ne.symm same]

/-- The empty dict `{}`. -/
def empty : PyDict κ ν := ⟨[], List.nodup_nil⟩

/-- `d.keys()`, in insertion order. -/
def keys (d : PyDict κ ν) : List κ := d.items.map Prod.fst

/-- `d.values()`, in insertion order. -/
def values (d : PyDict κ ν) : List ν := d.items.map Prod.snd

/-- `d.get(k)`. -/
def get? (d : PyDict κ ν) (k : κ) : Option ν := lookupItems k d.items

/-- `d[k] = v`. -/
def set (d : PyDict κ ν) (k : κ) (v : ν) : PyDict κ ν :=
  ⟨setItems k v d.items, by
    rw [keys_setItems]
    split
    · exact d.unique
    · rename_i absent
      exact d.unique.append (List.nodup_singleton k) (List.disjoint_singleton.2 absent)⟩

/-- `del d[k]`. -/
def erase (d : PyDict κ ν) (k : κ) : PyDict κ ν :=
  ⟨eraseItems k d.items, d.unique.sublist (keys_eraseItems_sublist k d.items)⟩

/-- Keep the items `f` gives a value for, with that value, in order. -/
def filterMap (f : κ → ν → Option ν) (d : PyDict κ ν) : PyDict κ ν :=
  ⟨filterMapItems f d.items, d.unique.sublist (keys_filterMapItems_sublist f d.items)⟩

/-- One turn of `for k, v in list(d.items()):` whose body assigns `f k v` to `d[k]`, or deletes
    `k` when there is none. -/
def rewriteItem (f : κ → ν → Option ν) (acc : PyDict κ ν) (kv : κ × ν) : PyDict κ ν :=
  match f kv.1 kv.2 with
  | some w => acc.set kv.1 w
  | none => acc.erase kv.1

@[simp] theorem get?_empty (k : κ) : (empty : PyDict κ ν).get? k = none := rfl

@[simp] theorem values_set_empty (k : κ) (v : ν) : ((empty : PyDict κ ν).set k v).values = [v] := rfl

@[simp] theorem get?_set (d : PyDict κ ν) (k k' : κ) (v : ν) :
    (d.set k v).get? k' = if k' = k then some v else d.get? k' :=
  lookupItems_setItems k k' v d.items

@[simp] theorem get?_erase (d : PyDict κ ν) (k k' : κ) :
    (d.erase k).get? k' = if k' = k then none else d.get? k' :=
  lookupItems_eraseItems d.unique

@[simp] theorem get?_filterMap (f : κ → ν → Option ν) (d : PyDict κ ν) (k : κ) :
    (d.filterMap f).get? k = (d.get? k).bind (f k) :=
  lookupItems_filterMapItems d.unique

theorem get?_eq_some {d : PyDict κ ν} {k : κ} {v : ν} : d.get? k = some v ↔ (k, v) ∈ d.items :=
  lookupItems_eq_some d.unique

/-- Asking of the items whether the one of key `k` satisfies `p` asks it of `d.get(k)`. -/
theorem any_items (d : PyDict κ ν) (k : κ) (p : ν → Bool) :
    d.items.any (fun kv => kv.1 = k && p kv.2) = (d.get? k).any p := by
  cases get : d.get? k with
  | none =>
    refine List.any_eq_false.2 fun ⟨k', v⟩ mem same => ?_
    simp only [Bool.and_eq_true, decide_eq_true_eq] at same
    rw [same.1] at mem
    cases get.symm.trans (get?_eq_some.2 mem)
  | some v =>
    apply Bool.eq_iff_iff.2
    simp only [List.any_eq_true, Bool.and_eq_true, decide_eq_true_eq, Option.any]
    constructor
    · rintro ⟨⟨k', v'⟩, mem, rfl, holds⟩
      cases get.symm.trans (get?_eq_some.2 mem)
      exact holds
    · exact fun holds => ⟨(k, v), get?_eq_some.1 get, rfl, holds⟩

theorem mem_values {d : PyDict κ ν} {v : ν} : v ∈ d.values ↔ ∃ k, d.get? k = some v := by
  simp [values, get?_eq_some]

theorem mem_keys {d : PyDict κ ν} {k : κ} : k ∈ d.keys ↔ (d.get? k).isSome :=
  lookupItems_isSome.symm

theorem keys_set_ne_nil (d : PyDict κ ν) (k : κ) (v : ν) : (d.set k v).keys ≠ [] :=
  List.ne_nil_of_mem (show k ∈ (d.set k v).keys from mem_keys.2 (by simp))

@[simp] theorem erase_set (d : PyDict κ ν) (k : κ) (v : ν) : (d.set k v).erase k = d.erase k :=
  PyDict.ext (eraseItems_setItems k v d.items)

theorem eraseItems_of_not_mem {k : κ} {items : List (κ × ν)} (absent : k ∉ items.map Prod.fst) :
    eraseItems k items = items := by
  induction items with
  | nil => rfl
  | cons kv rest ih =>
    simp only [List.map_cons, List.mem_cons, not_or] at absent
    simp [eraseItems, Ne.symm absent.1, ih absent.2]

theorem erase_of_not_mem {d : PyDict κ ν} {k : κ} (absent : k ∉ d.keys) : d.erase k = d :=
  PyDict.ext (eraseItems_of_not_mem absent)

@[simp] theorem keys_eq_nil {d : PyDict κ ν} : d.keys = [] ↔ ∀ k, d.get? k = none := by
  constructor
  · intro empty k
    have absent : k ∉ d.keys := by simp [empty]
    rw [mem_keys] at absent
    simpa using absent
  · intro none'
    cases keys : d.keys with
    | nil => rfl
    | cons k rest =>
      have present : k ∈ d.keys := keys ▸ List.mem_cons_self k rest
      rw [mem_keys, none' k] at present
      cases present

/-- A loop over a snapshot of `d`'s items that rewrites or deletes each one leaves
    `d.filterMap f`. -/
theorem foldl_rewriteItem (f : κ → ν → Option ν) (d : PyDict κ ν) :
    d.items.foldl (rewriteItem f) d = d.filterMap f := by
  suffices loop : ∀ (back front : List (κ × ν)) (acc : PyDict κ ν), front ++ back = d.items →
      acc.items = filterMapItems f front ++ back →
      (back.foldl (rewriteItem f) acc).items = filterMapItems f d.items by
    exact PyDict.ext (loop d.items [] d rfl rfl)
  intro back
  induction back with
  | nil => intro front acc whole current; simpa [← whole] using current
  | cons kv rest ih =>
    intro front acc whole current
    obtain ⟨k, v⟩ := kv
    have fresh : k ∉ (filterMapItems f front).map Prod.fst := by
      have unique := d.unique
      rw [← whole, List.map_append, List.nodup_append] at unique
      exact fun mem => unique.2.2 ((keys_filterMapItems_sublist f front).subset mem) (by simp)
    apply ih (front ++ [(k, v)]) _ (by simpa using whole)
    rw [filterMapItems_append]
    cases fk : f k v <;>
      simp [rewriteItem, set, erase, fk, current, filterMapItems, setItems_middle fresh,
        eraseItems_middle fresh]

end PyDict

end Tarpn
