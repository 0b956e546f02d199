import Mathlib.Data.List.Basic

/-!
The byte-level Python the codecs are written in: reading from `iter(data)` with `next` and
`islice`, the exceptions those reads and the string codecs raise, `str.strip`, `str.ljust`,
`bytes.decode("ASCII")` under both error policies, and the `chunks` helper the NODES
broadcasts are split with.
-/

namespace Tarpn

/-- The Python exceptions the modelled code raises or catches. -/
inductive PyError
  | stopIteration
  | assertionError
  | unicodeDecodeError
  | unicodeEncodeError
  /-- `bytearray.append` of an int outside `[0, 255]`. -/
  | valueError
  /-- An attribute read on `None`. -/
  | attributeError
  /-- A call with a number of positional arguments the function does not take. -/
  | typeError
  | keyError
  /-- `pop` from an empty list. -/
  | indexError
  deriving DecidableEq, Repr

/-- Results compare by value, so that `decide` evaluates the model's functions. -/
instance instDecidableEqExcept {ε α : Type} [DecidableEq ε] [DecidableEq α] : DecidableEq (Except ε α)
  | .ok a, .ok b => decidable_of_iff (a = b) ⟨congrArg _, Except.ok.inj⟩
  | .error a, .error b => decidable_of_iff (a = b) ⟨congrArg _, Except.error.inj⟩
  | .ok _, .error _ => isFalse fun same => Except.noConfusion same
  | .error _, .ok _ => isFalse fun same => Except.noConfusion same

@[simp] theorem ok_bind {ε α β : Type} (a : α) (f : α → Except ε β) : (Except.ok a >>= f) = f a := rfl

@[simp] theorem pure_except {ε α : Type} (a : α) : (pure a : Except ε α) = .ok a := rfl

@[simp] theorem map_ok {ε α β : Type} (f : α → β) (a : α) : (f <$> (Except.ok a : Except ε α)) = .ok (f a) := rfl

@[simp] theorem error_bind {ε α β : Type} (e : ε) (f : α → Except ε β) : (Except.error e >>= f) = .error e := rfl

theorem bind_eq_ok {ε α β : Type} {x : Except ε α} {f : α → Except ε β} {b : β} :
    (x >>= f) = .ok b ↔ ∃ a, x = .ok a ∧ f a = .ok b := by
  cases x <;> simp

/-- Reading from `iter(data)`: the state is the bytes not consumed yet. -/
abbrev ByteReader := StateT (List UInt8) (Except PyError)

/-- `next(bytes_iter)`. -/
def next : ByteReader UInt8 := fun it =>
  match it with
  | [] => .error .stopIteration
  | b :: rest => .ok (b, rest)

/-- `islice(bytes_iter, n)` drained into `bytes`: up to `n` bytes, never raising. -/
def islice (n : Nat) : ByteReader (List UInt8) := fun it => .ok (it.take n, it.drop n)

/-- `bytes(bytes_iter)`: everything left. -/
def remaining : ByteReader (List UInt8) := fun it => .ok (it, [])

@[simp] theorem next_cons (b : UInt8) (rest : List UInt8) : next.run (b :: rest) = .ok (b, rest) := rfl

@[simp] theorem next_nil : next.run [] = .error .stopIteration := rfl

@[simp] theorem islice_run (n : Nat) (it : List UInt8) : (islice n).run it = .ok (it.take n, it.drop n) := rfl

@[simp] theorem remaining_run (it : List UInt8) : remaining.run it = .ok (it, []) := rfl

/-- A read that never hands back more bytes than it was given. -/
def Shrinks {α : Type} (r : ByteReader α) : Prop :=
  ∀ s a s', r.run s = .ok (a, s') → s'.length ≤ s.length

theorem run_bind_ok {α β : Type} {x : ByteReader α} {f : α → ByteReader β} {s s' : List UInt8} {b : β} :
    (x >>= f).run s = .ok (b, s') ↔ ∃ a mid, x.run s = .ok (a, mid) ∧ (f a).run mid = .ok (b, s') := by
  simp only [StateT.run_bind]
  cases x.run s with
  | error e => simp
  | ok r =>
    obtain ⟨a, mid⟩ := r
    simp only [ok_bind, Except.ok.injEq, Prod.mk.injEq]
    exact ⟨fun run => ⟨a, mid, ⟨rfl, rfl⟩, run⟩, fun ⟨_, _, ⟨same, at'⟩, run⟩ => same ▸ at' ▸ run⟩

theorem Shrinks.bind {α β : Type} {x : ByteReader α} {f : α → ByteReader β} (first : Shrinks x)
    (later : ∀ a, Shrinks (f a)) : Shrinks (x >>= f) := by
  intro s b s' run
  obtain ⟨a, mid, ran, rest⟩ := run_bind_ok.1 run
  exact (later a mid b s' rest).trans (first s a mid ran)

theorem Shrinks.pure {α : Type} (a : α) : Shrinks (Pure.pure a : ByteReader α) := by
  intro s b s' run
  cases run
  exact le_refl _

theorem Shrinks.lift {α : Type} (x : Except PyError α) : Shrinks (StateT.lift x : ByteReader α) := by
  intro s b s' run
  cases x <;> cases run
  exact le_refl _

theorem next_shrinks : Shrinks next := by
  intro s b s' run
  cases s <;> cases run
  simp

theorem islice_shrinks (n : Nat) : Shrinks (islice n) := by
  intro s b s' run
  cases run
  simp

/-! ### Strings -/

/-- The error policy `bytes.decode` is given. -/
inductive DecodeErrors
  | strict
  | replace
  deriving DecidableEq, Repr

/-- U+FFFD, what the `"replace"` policy puts for a byte the codec cannot read. -/
def replacementChar : Char := Char.ofNat 0xFFFD

/-- `data.decode("ASCII", errors)`: a byte from 128 up raises under `strict` and reads as
    U+FFFD under `replace`. -/
def decodeAscii (errors : DecodeErrors) (data : List UInt8) : Except PyError String :=
  match errors with
  | .strict =>
    if data.all (·.toNat < 128) then .ok ⟨data.map fun b => Char.ofNat b.toNat⟩ else .error .unicodeDecodeError
  | .replace => .ok ⟨data.map fun b => if b.toNat < 128 then Char.ofNat b.toNat else replacementChar⟩

/-- `s.encode("ASCII")`: a character from 128 up raises. -/
def encodeAscii (s : String) : Except PyError (List UInt8) :=
  if s.data.all (·.toNat < 128) then .ok (s.data.map fun c => c.toNat.toUInt8) else .error .unicodeEncodeError

/-- `s.ljust(width, fill)`: pads on the right up to `width`, never cuts. -/
def ljust (s : String) (width : Nat) (fill : Char) : String :=
  ⟨s.data ++ List.replicate (width - s.length) fill⟩

/-- The characters `str.isspace` holds of. -/
def isPySpace (c : Char) : Bool :=
  (9 ≤ c.toNat && c.toNat ≤ 13) || (28 ≤ c.toNat && c.toNat ≤ 32) || c.toNat = 0x85 || c.toNat = 0xA0 ||
    c.toNat = 0x1680 || (0x2000 ≤ c.toNat && c.toNat ≤ 0x200A) || c.toNat = 0x2028 ||
    c.toNat = 0x2029 || c.toNat = 0x202F || c.toNat = 0x205F || c.toNat = 0x3000

/-- `s.strip()`: whitespace off both ends. -/
def strip (s : String) : String :=
  ⟨((s.data.dropWhile isPySpace).reverse.dropWhile isPySpace).reverse⟩

/-- A string `strip` leaves as it is: no whitespace at either end. -/
def Unpadded (s : String) : Prop :=
  s.data.head?.all (! isPySpace ·) ∧ s.data.getLast?.all (! isPySpace ·)

theorem toNat_toUInt8_of_lt {x : Nat} (small : x < 256) : x.toUInt8.toNat = x :=
  UInt8.toNat_ofNat_of_lt (by unfold UInt8.size; omega)

instance (s : String) : Decidable (Unpadded s) := inferInstanceAs (Decidable (_ ∧ _))

/-- Every character is ASCII. -/
def IsAscii (s : String) : Prop := ∀ c ∈ s.data, c.toNat < 128

instance (s : String) : Decidable (IsAscii s) := inferInstanceAs (Decidable (∀ c ∈ s.data, c.toNat < 128))

theorem ascii_char_byte {c : Char} (ascii : c.toNat < 128) : (c.toNat.toUInt8).toNat = c.toNat :=
  toNat_toUInt8_of_lt (by omega)

theorem encodeAscii_of_ascii {s : String} (ascii : IsAscii s) :
    encodeAscii s = .ok (s.data.map fun c => c.toNat.toUInt8) := by
  simp only [encodeAscii, List.all_eq_true, decide_eq_true_eq]
  exact if_pos ascii

/-- ASCII text encodes and decodes back under either error policy. -/
theorem decodeAscii_encoded (errors : DecodeErrors) {s : String} (ascii : IsAscii s) :
    decodeAscii errors (s.data.map fun c => c.toNat.toUInt8) = .ok s := by
  have small : ∀ c ∈ s.data, (c.toNat.toUInt8).toNat < 128 := fun c mem => by
    rw [ascii_char_byte (ascii c mem)]; exact ascii c mem
  have back : ∀ c ∈ s.data, Char.ofNat (c.toNat.toUInt8).toNat = c := fun c mem => by
    rw [ascii_char_byte (ascii c mem), Char.ofNat_toNat]
  cases errors with
  | strict =>
    simp only [decodeAscii, List.all_eq_true, List.forall_mem_map, decide_eq_true_eq]
    rw [if_pos small, List.map_map]
    refine congrArg Except.ok (String.ext ?_)
    conv => rhs; rw [← List.map_id s.data]
    exact List.map_congr_left back
  | replace =>
    simp only [decodeAscii, List.map_map]
    refine congrArg Except.ok (String.ext ?_)
    conv => rhs; rw [← List.map_id s.data]
    exact List.map_congr_left fun c mem => by simp [small c mem, back c mem]

theorem length_ljust (s : String) (width : Nat) (fill : Char) : (ljust s width fill).length = max s.length width := by
  simp only [ljust, String.length, List.length_append, List.length_replicate]
  omega

/-- `str.encode("ASCII")` writes one byte per character. -/
theorem length_encodeAscii {s : String} {b : List UInt8} (encoded : encodeAscii s = .ok b) : b.length = s.length := by
  unfold encodeAscii at encoded
  split at encoded
  · cases encoded
    exact List.length_map _ _
  · cases encoded

/-- `bytes.decode("ASCII", errors)` reads one character per byte. -/
theorem length_decodeAscii {errors : DecodeErrors} {raw : List UInt8} {s : String}
    (decoded : decodeAscii errors raw = .ok s) : s.length = raw.length := by
  cases errors <;> simp only [decodeAscii] at decoded
  · split at decoded
    · cases decoded
      exact List.length_map _ _
    · cases decoded
  · cases decoded
    exact List.length_map _ _

/-- `strip` only removes characters. -/
theorem length_strip_le (s : String) : (strip s).length ≤ s.length := by
  simp only [strip, String.length, List.length_reverse]
  calc _ ≤ (s.data.dropWhile isPySpace).reverse.length := (List.dropWhile_sublist _).length_le
    _ ≤ s.data.length := by rw [List.length_reverse]; exact (List.dropWhile_sublist _).length_le

/-- `strip` takes back the padding `ljust` adds to text with no whitespace at its ends. -/
theorem strip_ljust {s : String} (unpadded : Unpadded s) (width : Nat) : strip (ljust s width ' ') = s := by
  obtain ⟨head, last⟩ := unpadded
  have space : isPySpace ' ' = true := rfl
  have front : (s.data ++ List.replicate (width - s.length) ' ').dropWhile isPySpace =
      if s.data = [] then [] else s.data ++ List.replicate (width - s.length) ' ' := by
    cases data : s.data with
    | nil => simp [List.dropWhile_replicate, space]
    | cons c rest => simp_all [List.dropWhile_cons]
  have back : (s.data.reverse).dropWhile isPySpace = s.data.reverse := by
    cases reversed : s.data.reverse with
    | nil => rfl
    | cons c rest =>
      rw [← List.head?_reverse, reversed] at last
      simp_all [List.dropWhile_cons]
  refine String.ext ?_
  simp only [strip, ljust, front]
  split
  · rename_i empty; simp [empty]
  · simp [List.reverse_append, List.reverse_replicate, List.dropWhile_append, List.dropWhile_replicate, space, back]

/-! ### Chunks -/

/-- Modelled from the spec: `tarpn.util.chunks`, absent from the sources, splits the records
    "into frames so each carries at most" `n`; the model is the recipe
    `for i in range(0, len(l), n): yield l[i:i + n]`. -/
def chunks {α : Type} (l : List α) (n : Nat) : List (List α) :=
  (List.range' 0 ((l.length + n - 1) / n) n).map fun i => (l.drop i).take n


section Chunks
variable {α : Type}

theorem mem_of_mem_chunks {l c : List α} {n : Nat} (mem : c ∈ chunks l n) : ∀ x ∈ c, x ∈ l := by
  obtain ⟨i, -, rfl⟩ := List.mem_map.1 mem
  exact fun x inside => List.mem_of_mem_drop (List.mem_of_mem_take inside)

theorem length_le_of_mem_chunks {l c : List α} {n : Nat} (mem : c ∈ chunks l n) : c.length ≤ n := by
  obtain ⟨i, -, rfl⟩ := List.mem_map.1 mem
  exact List.length_take_le _ _

@[simp] theorem chunks_nil (n : Nat) : chunks ([] : List α) n = [] := by
  simp [chunks, Nat.div_eq_of_lt (show n - 1 < n + 1 by omega)]
  cases n <;> simp [Nat.div_eq_of_lt]

/-- `chunks` takes the first `n` records, then chunks the rest. -/
theorem chunks_of_ne_nil {l : List α} {n : Nat} (positive : 0 < n) (nonempty : l ≠ []) :
    chunks l n = l.take n :: chunks (l.drop n) n := by
  have long := List.length_pos.2 nonempty
  have count : (l.length + n - 1) / n = ((l.drop n).length + n - 1) / n + 1 := by
    rw [List.length_drop]
    by_cases short : l.length < n
    · have one : (l.length + n - 1) / n = 1 := Nat.div_eq_of_lt_le (by omega) (by omega)
      rw [one, show l.length - n = 0 by omega, Nat.div_eq_of_lt (show 0 + n - 1 < n by omega)]
    · rw [show l.length + n - 1 = (l.length - n + n - 1) + n by omega, Nat.add_div_right _ positive]
  have shift : ∀ m, List.range' (0 + n) m n = (List.range' 0 m n).map (n + ·) := fun m => by
    simp [List.map_add_range']
  rw [chunks, chunks, count, List.range'_succ, shift, List.map_cons, List.map_map]
  simp [Function.comp_def, List.drop_drop]

/-- The chunks, put back together, are the list. -/
theorem flatten_chunks (l : List α) {n : Nat} (positive : 0 < n) : (chunks l n).flatten = l := by
  cases l with
  | nil => simp
  | cons a rest =>
    rw [chunks_of_ne_nil positive (List.cons_ne_nil a rest), List.flatten_cons,
      flatten_chunks ((a :: rest).drop n) positive, List.take_append_drop]
termination_by l.length
decreasing_by simp only [List.length_drop, List.length_cons]; omega

end Chunks

end Tarpn
