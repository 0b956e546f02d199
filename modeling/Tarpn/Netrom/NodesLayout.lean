import Tarpn.Netrom.Nodes

/-!
What `parse_netrom_nodes` makes of any bytes, not only of what `encode_netrom_nodes` wrote. After
the `0xff` marker and the six bytes of the sending alias, the `while True` loop reads 21-byte
records: a call, a six-byte alias field, a call and the quality byte. A turn that runs out of
bytes raises `StopIteration` and ends the loop, so a record cut short at the end is dropped,
unless the turn decodes that record's alias field first and the decoding raises.
-/

namespace Tarpn.Netrom

open CallCodec

/-- The record a 21-byte block holds, as the loop's body reads it: calls from bytes 0 to 6 and
    13 to 19, the alias field from bytes 7 to 12 and the quality from byte 20. -/
def blockRecord (codec : CallCodec) (errors : DecodeErrors) (block : List UInt8) : Except PyError NodeDestination := do
  let destAlias ← decodeAscii errors ((block.drop 7).take 6)
  pure ⟨codec.decode (block.take 7), strip destAlias, codec.decode ((block.drop 13).take 7), (block.getD 20 0).toNat⟩

/-- The full 21-byte blocks of the bytes, in order. -/
def blocks (it : List UInt8) : List (List UInt8) :=
  (List.range (it.length / 21)).map fun i => (it.drop (21 * i)).take 21

/-- What the last turn of the loop, which runs out of bytes, raises before `StopIteration`: with
    seven bytes or more left it decodes the record's alias field first. -/
def tailDecode (errors : DecodeErrors) (tail : List UInt8) : Except PyError Unit :=
  if 7 ≤ tail.length then (fun _ => ()) <$> decodeAscii errors ((tail.drop 7).take 6) else .ok ()

/-- The alias field of the turn that runs out of bytes, when it got as far as decoding it. -/
def tailFields (tail : List UInt8) : List (List UInt8) :=
  if 7 ≤ tail.length then [(tail.drop 7).take 6] else []

/-- The loop as the layout of the bytes gives it: a record from each full block, in order, then
    the check of the turn that runs out of bytes. -/
def layoutRecords (codec : CallCodec) (errors : DecodeErrors) (it : List UInt8) :
    Except PyError (List NodeDestination) := do
  let records ← (blocks it).mapM (blockRecord codec errors)
  tailDecode errors (it.drop (21 * (it.length / 21)))
  pure records

/-- `parse_netrom_nodes` as the layout of the bytes gives it: the marker, the alias field, then the
    records. An empty frame raises `StopIteration` at the marker. -/
def parseLayout (codec : CallCodec) (errors : DecodeErrors) : List UInt8 → Except PyError NetRomNodes
  | [] => .error .stopIteration
  | marker :: it =>
    if marker = 0xff then do
      let sendingAlias ← decodeAscii errors (it.take 6)
      let destinations ← layoutRecords codec errors (it.drop 6)
      pure ⟨strip sendingAlias, destinations⟩
    else .error .assertionError

/-- Every alias field `parse_netrom_nodes` decodes after the marker, in order: the sending
    alias, each full record's, and the field of a last record cut short after its destination
    call. -/
def aliasFields (it : List UInt8) : List (List UInt8) :=
  it.take 6 :: ((blocks (it.drop 6)).map fun block => (block.drop 7).take 6) ++
    tailFields ((it.drop 6).drop (21 * ((it.drop 6).length / 21)))

/-! ### One turn of the loop -/

/-- `decode` only ever raises `UnicodeDecodeError`, which the loop does not catch. -/
theorem decodeAscii_error {errors : DecodeErrors} {raw : List UInt8} {e : PyError}
    (raised : decodeAscii errors raw = .error e) : e = .unicodeDecodeError := by
  cases errors
  · simp only [decodeAscii] at raised
    split at raised <;> cases raised
    rfl
  · cases raised

theorem tailDecode_error {errors : DecodeErrors} {tail : List UInt8} {e : PyError}
    (raised : tailDecode errors tail = .error e) : e = .unicodeDecodeError := by
  rw [tailDecode] at raised
  split at raised
  · cases decoded : decodeAscii errors ((tail.drop 7).take 6) <;> rw [decoded] at raised <;> cases raised
    exact decodeAscii_error decoded
  · cases raised

theorem blockRecord_error {codec : CallCodec} {errors : DecodeErrors} {block : List UInt8} {e : PyError}
    (raised : blockRecord codec errors block = .error e) : e = .unicodeDecodeError := by
  rw [blockRecord] at raised
  cases decoded : decodeAscii errors ((block.drop 7).take 6) <;> rw [decoded] at raised <;> cases raised
  exact decodeAscii_error decoded

theorem parseAx25Call_long {codec : CallCodec} {it : List UInt8} (long : 7 ≤ it.length) :
    codec.parseAx25Call.run it = .ok (codec.decode (it.take 7), it.drop 7) := by
  simp [parseAx25Call, StateT.run, long]

/-- A record reads only the 21 bytes of its block. -/
theorem blockRecord_take (codec : CallCodec) (errors : DecodeErrors) (it : List UInt8) :
    blockRecord codec errors (it.take 21) = blockRecord codec errors it := by
  simp [blockRecord, List.take_take, List.drop_take, List.getD_eq_getElem?_getD, List.getElem?_take]

/-- A turn with a full block left reads the block's record and leaves the rest. -/
theorem readRecord_block (codec : CallCodec) (errors : DecodeErrors) {it : List UInt8} (long : 21 ≤ it.length) :
    (readRecord codec errors).run it = (fun record => (record, it.drop 21)) <$> blockRecord codec errors (it.take 21) := by
  obtain ⟨b, rest, last⟩ : ∃ b rest, it.drop 20 = b :: rest := List.exists_cons_of_length_pos (by simp; omega)
  have byte : it[20]?.getD 0 = b := by rw [← List.head?_drop, last]; rfl
  have tail : it.drop 21 = rest := by rw [← List.drop_drop 1 20, last]; rfl
  have neighbor : 7 ≤ (it.drop 13).length := by simp; omega
  rw [blockRecord_take]
  simp only [readRecord, blockRecord, StateT.run_bind, parseAx25Call_long (show 7 ≤ it.length by omega), ok_bind,
    readAlias_run, List.drop_drop]
  cases decodeAscii errors ((it.drop 7).take 6) with
  | error e => rfl
  | ok text =>
    simp only [map_ok, ok_bind, StateT.run_bind, parseAx25Call_long neighbor, List.drop_drop, last, next_cons]
    simp [byte, tail, List.getD_eq_getElem?_getD]

/-- A turn with less than a block left raises `StopIteration`, after decoding the alias field
    when it got that far. -/
theorem readRecord_cut (codec : CallCodec) (errors : DecodeErrors) {it : List UInt8} (short : it.length < 21) :
    (readRecord codec errors).run it = tailDecode errors it >>= fun _ => .error .stopIteration := by
  by_cases reached : 7 ≤ it.length
  · simp only [readRecord, tailDecode, if_pos reached, StateT.run_bind, parseAx25Call_long reached, ok_bind,
      readAlias_run]
    cases decodeAscii errors ((it.drop 7).take 6) with
    | error e => rfl
    | ok text =>
      simp only [map_ok, ok_bind, StateT.run_bind, List.drop_drop]
      by_cases neighbor : 7 ≤ (it.drop (6 + 7)).length
      · have empty : it.drop (7 + (6 + 7)) = [] := List.drop_eq_nil_of_le (by simp at neighbor ⊢; omega)
        simp [parseAx25Call_long neighbor, List.drop_drop, empty]
      · simp [parseAx25Call_short (show (it.drop (6 + 7)).length < 7 by omega)]
  · simp [readRecord, tailDecode, reached, StateT.run_bind, parseAx25Call_short (show it.length < 7 by omega)]

/-! ### The whole loop -/

theorem blocks_short {it : List UInt8} (short : it.length < 21) : blocks it = [] := by
  simp [blocks, Nat.div_eq_of_lt short]

theorem blocks_long {it : List UInt8} (long : 21 ≤ it.length) : blocks it = it.take 21 :: blocks (it.drop 21) := by
  have count : it.length / 21 = (it.drop 21).length / 21 + 1 := by simp; omega
  rw [blocks, count, List.range_succ_eq_map]
  simp [blocks, List.drop_drop, Nat.mul_succ, Nat.add_comm]

theorem tail_long {it : List UInt8} (long : 21 ≤ it.length) :
    it.drop (21 * (it.length / 21)) = (it.drop 21).drop (21 * ((it.drop 21).length / 21)) := by
  have count : it.length / 21 = (it.drop 21).length / 21 + 1 := by simp; omega
  rw [count, List.drop_drop, Nat.mul_succ, Nat.add_comm]

/-- The `while True` loop reads a record from each full 21-byte block, and stops at the first
    turn that runs out of bytes. -/
theorem readRecords_layout (codec : CallCodec) (errors : DecodeErrors) (it : List UInt8) :
    readRecords codec errors it = layoutRecords codec errors it := by
  by_cases long : 21 ≤ it.length
  · rw [readRecords_eq, readRecord_block codec errors long, layoutRecords, blocks_long long, List.mapM_cons,
      tail_long long]
    cases read : blockRecord codec errors (it.take 21) with
    | error e => obtain rfl := blockRecord_error read; rfl
    | ok record =>
      simp only [map_ok]
      rw [readRecords_layout codec errors (it.drop 21), layoutRecords]
      cases (blocks (it.drop 21)).mapM (blockRecord codec errors) <;>
        cases tailDecode errors ((it.drop 21).drop (21 * ((it.drop 21).length / 21))) <;> rfl
  · rw [readRecords_eq, readRecord_cut codec errors (by omega), layoutRecords, blocks_short (by omega),
      Nat.div_eq_of_lt (by omega), Nat.mul_zero, List.drop_zero]
    cases tail : tailDecode errors it with
    | error e => obtain rfl := tailDecode_error tail; rfl
    | ok u => rfl
termination_by it.length
decreasing_by simp; omega

/-- `parse_netrom_nodes` on any bytes is the layout of the advertisement. -/
theorem parseNodesWith_layout (codec : CallCodec) (errors : DecodeErrors) (data : List UInt8) :
    parseNodesWith codec errors data = parseLayout codec errors data := by
  cases data with
  | nil => rfl
  | cons marker it =>
    by_cases ff : marker = 0xff
    · simp only [parseNodesWith, parseLayout, if_pos ff, next_cons, ok_bind, readAlias_run, readRecords_layout]
      cases decodeAscii errors (it.take 6) <;> rfl
    · simp only [parseNodesWith, parseLayout, if_neg ff, next_cons, ok_bind]
      rfl

/-! ### The `"replace"` copy -/

theorem decodeAscii_replace (raw : List UInt8) : ∃ text, decodeAscii .replace raw = .ok text := ⟨_, rfl⟩

theorem mapM_blockRecord_replace (codec : CallCodec) :
    ∀ bs : List (List UInt8), ∃ records, bs.mapM (blockRecord codec .replace) = .ok records ∧ records.length = bs.length
  | [] => ⟨[], rfl, rfl⟩
  | block :: bs => by
    obtain ⟨records, read, count⟩ := mapM_blockRecord_replace codec bs
    exact ⟨_ :: records, by rw [List.mapM_cons, read]; rfl, by simp [count]⟩

theorem tailDecode_replace (tail : List UInt8) : tailDecode .replace tail = .ok () := by
  unfold tailDecode
  split <;> rfl

/-- The copy of `parse_netrom_nodes` that decodes with `"replace"` never raises on a frame that
    starts with the marker: it returns a record for each full 21-byte block after the alias
    field, and drops a last record cut short. -/
theorem parseNetromNodes_blocks (codec : CallCodec) (it : List UInt8) :
    ∃ n, parseNetromNodes codec (0xff :: it) = .ok n ∧ n.destinations.length = (it.length - 6) / 21 := by
  obtain ⟨text, decoded⟩ := decodeAscii_replace (it.take 6)
  obtain ⟨records, read, count⟩ := mapM_blockRecord_replace codec (blocks (it.drop 6))
  refine ⟨⟨strip text, records⟩, ?_, by simp [count, blocks]⟩
  simp only [parseNetromNodes, parseNodesWith_layout, parseLayout, if_pos rfl, decoded, layoutRecords, read, ok_bind,
    tailDecode_replace]
  rfl

/-! ### The `"strict"` copy -/

theorem decodeAscii_strict_ok (raw : List UInt8) :
    (∃ text, decodeAscii .strict raw = .ok text) ↔ ∀ b ∈ raw, b.toNat < 128 := by
  by_cases ascii : raw.all (·.toNat < 128)
  · simp only [decodeAscii, ascii, if_true, Except.ok.injEq, exists_eq', true_iff]
    simpa using ascii
  · simp only [decodeAscii, ascii, if_false, exists_false, false_iff]
    simpa using ascii

theorem blockRecord_strict_ok (codec : CallCodec) (block : List UInt8) :
    (∃ record, blockRecord codec .strict block = .ok record) ↔ ∀ b ∈ (block.drop 7).take 6, b.toNat < 128 := by
  rw [← decodeAscii_strict_ok, blockRecord]
  cases decodeAscii .strict ((block.drop 7).take 6) <;> simp

theorem tailDecode_strict_ok (tail : List UInt8) :
    tailDecode .strict tail = .ok () ↔ ∀ field ∈ tailFields tail, ∀ b ∈ field, b.toNat < 128 := by
  unfold tailDecode tailFields
  split
  · rw [List.forall_mem_singleton, ← decodeAscii_strict_ok]
    cases decodeAscii .strict ((tail.drop 7).take 6) <;> simp
  · simp

theorem mapM_blockRecord_error {codec : CallCodec} {errors : DecodeErrors} :
    ∀ {bs : List (List UInt8)} {e : PyError}, bs.mapM (blockRecord codec errors) = .error e → e = .unicodeDecodeError
  | [], _, raised => by cases raised
  | block :: bs, _, raised => by
    rw [List.mapM_cons] at raised
    cases read : blockRecord codec errors block with
    | error e =>
      rw [read] at raised
      cases raised
      exact blockRecord_error read
    | ok record =>
      cases rest : bs.mapM (blockRecord codec errors) <;> rw [read, rest] at raised <;> cases raised
      exact mapM_blockRecord_error rest

theorem mapM_ok_iff {ε α β : Type} (f : α → Except ε β) :
    ∀ xs : List α, (∃ ys, xs.mapM f = .ok ys) ↔ ∀ x ∈ xs, ∃ y, f x = .ok y
  | [] => ⟨fun _ x mem => absurd mem (List.not_mem_nil x), fun _ => ⟨[], rfl⟩⟩
  | x :: xs => by
    rw [List.mapM_cons, List.forall_mem_cons, ← mapM_ok_iff f xs]
    cases f x <;> cases xs.mapM f <;> simp

/-- The `"strict"` copy of `parse_netrom_nodes` returns on a frame that starts with the marker
    exactly when every alias field it decodes is ASCII, that of a last record cut short
    included; otherwise it raises `UnicodeDecodeError`. -/
theorem networkNodes_ok_iff (codec : CallCodec) (it : List UInt8) :
    ((∃ n, Network.parseNetromNodes codec (0xff :: it) = .ok n) ↔ ∀ field ∈ aliasFields it, ∀ b ∈ field, b.toNat < 128) ∧
      ∀ e, Network.parseNetromNodes codec (0xff :: it) = .error e → e = .unicodeDecodeError := by
  have sending := decodeAscii_strict_ok (it.take 6)
  have records := (mapM_ok_iff (blockRecord codec .strict) (blocks (it.drop 6))).trans
    (forall₂_congr fun block _ => blockRecord_strict_ok codec block)
  have tail := tailDecode_strict_ok ((it.drop 6).drop (21 * ((it.drop 6).length / 21)))
  simp only [aliasFields, List.forall_mem_cons, List.forall_mem_append, List.forall_mem_map] at records ⊢
  rw [← sending, ← records, ← tail, Network.parseNetromNodes, parseNodesWith_layout]
  simp only [parseLayout, if_pos rfl, layoutRecords]
  cases decoded : decodeAscii .strict (it.take 6) with
  | error e => exact ⟨by simp, fun e' raised => by cases raised; exact decodeAscii_error decoded⟩
  | ok text =>
    cases read : (blocks (it.drop 6)).mapM (blockRecord codec .strict) with
    | error e => exact ⟨by simp, fun e' raised => by cases raised; exact mapM_blockRecord_error read⟩
    | ok ds =>
      cases last : tailDecode .strict ((it.drop 6).drop (21 * ((it.drop 6).length / 21))) with
      | error e => exact ⟨by simp, fun e' raised => by cases raised; exact tailDecode_error last⟩
      | ok u => exact ⟨by simp, fun e' raised => by cases raised⟩

/-- An alias, then a record cut short one byte into its alias field, a byte from 128 up. -/
def cutRecordBytes : List UInt8 := [0x41, 0x20, 0x20, 0x20, 0x20, 0x20] ++ CallCodec.shifted.write ⟨"N1CALL", 0⟩ ++ [0x80]

theorem networkNodes_cut_record :
    (∃ field ∈ aliasFields cutRecordBytes, ∃ b ∈ field, 128 ≤ b.toNat) ∧
      Network.parseNetromNodes CallCodec.shifted (0xff :: cutRecordBytes) = .error .unicodeDecodeError := by
  obtain ⟨field, mem, b, inField, high⟩ : ∃ field ∈ aliasFields cutRecordBytes, ∃ b ∈ field, 128 ≤ b.toNat :=
    ⟨[0x80], by decide, 0x80, List.mem_singleton_self _, by decide⟩
  have ok_iff := networkNodes_ok_iff CallCodec.shifted cutRecordBytes
  cases parsed : Network.parseNetromNodes CallCodec.shifted (0xff :: cutRecordBytes) with
  | ok n => exact absurd (ok_iff.1.1 ⟨n, parsed⟩ field mem b inField) (Nat.not_lt.2 high)
  | error e => exact ⟨⟨field, mem, b, inField, high⟩, by rw [ok_iff.2 e parsed]⟩

end Tarpn.Netrom
