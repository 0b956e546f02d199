import Tarpn.Ax25

/-!
The NODES broadcast format. `encode_netrom_nodes` and `NetRomNodes.to_packets` have the same
text in `netrom/network.py` and `netrom/__init__.py` and are modelled once;
`parse_netrom_nodes` differs between the two copies only in the error policy its alias fields
are decoded with, which is its parameter here.
-/

namespace Tarpn.Netrom

open CallCodec

/-- `NodeDestination`; `__post_init__` makes `quality` an int. -/
structure NodeDestination where
  destNode : AX25Call
  destAlias : String
  bestNeighbor : AX25Call
  quality : Int
  deriving DecidableEq, Repr

/-- `NetRomNodes`, one NODES advertisement. -/
structure NetRomNodes where
  sendingAlias : String
  destinations : List NodeDestination
  deriving DecidableEq, Repr

/-- The bytes of one record: `dest_node.write(b)`, the padded alias, `best_neighbor.write(b)`
    and `quality & 0xff`, which for a Python int is its residue mod 256. -/
def encodeRecord (codec : CallCodec) (dest : NodeDestination) : Except PyError (List UInt8) := do
  let destAlias ← encodeAscii (ljust dest.destAlias 6 ' ')
  pure (codec.write dest.destNode ++ destAlias ++ codec.write dest.bestNeighbor ++
    [(dest.quality % 256).toNat.toUInt8])

/-- `encode_netrom_nodes(nodes)`, in both copies. -/
def encodeNetromNodes (codec : CallCodec) (nodes : NetRomNodes) : Except PyError (List UInt8) := do
  let sendingAlias ← encodeAscii (ljust nodes.sendingAlias 6 ' ')
  let records ← nodes.destinations.mapM (encodeRecord codec)
  pure (0xff :: sendingAlias ++ records.flatten)

/-- An alias field: `bytes(islice(bytes_iter, 6)).decode("ASCII", errors).strip()`. -/
def readAlias (errors : DecodeErrors) : ByteReader String := do
  let raw ← islice 6
  let text ← StateT.lift (decodeAscii errors raw)
  pure (strip text)

/-- The body of one turn of the `while True` loop. -/
def readRecord (codec : CallCodec) (errors : DecodeErrors) : ByteReader NodeDestination := do
  let dest ← codec.parseAx25Call
  let destAlias ← readAlias errors
  let neighbor ← codec.parseAx25Call
  let quality ← next
  pure ⟨dest, destAlias, neighbor, quality.toNat⟩

theorem readAlias_shrinks (errors : DecodeErrors) : Shrinks (readAlias errors) :=
  (islice_shrinks 6).bind fun _ => (Shrinks.lift _).bind fun _ => Shrinks.pure _

theorem parseAx25Call_shrinks (codec : CallCodec) : Shrinks codec.parseAx25Call := by
  intro s c s' run
  obtain ⟨rfl, -⟩ := parseAx25Call_consumes run
  simp

/-- A turn that reads a record has used up at least the seven bytes of its first call. -/
theorem readRecord_shrinks {codec : CallCodec} {errors : DecodeErrors} {it rest : List UInt8}
    {record : NodeDestination} (read : (readRecord codec errors).run it = .ok (record, rest)) :
    rest.length < it.length := by
  obtain ⟨dest, mid, first, later⟩ := run_bind_ok.1 read
  obtain ⟨rfl, long⟩ := parseAx25Call_consumes first
  have shrinks : Shrinks (do
      let destAlias ← readAlias errors
      let neighbor ← codec.parseAx25Call
      let quality ← next
      pure (⟨dest, destAlias, neighbor, quality.toNat⟩ : NodeDestination)) :=
    (readAlias_shrinks errors).bind fun _ => (parseAx25Call_shrinks codec).bind fun _ =>
      next_shrinks.bind fun _ => Shrinks.pure _
  have := shrinks _ _ _ later
  simp only [List.length_drop] at this
  omega

/-- The `while True` loop: records until `StopIteration`, which ends it; any other exception
    leaves the function. -/
def readRecords (codec : CallCodec) (errors : DecodeErrors) (it : List UInt8) :
    Except PyError (List NodeDestination) :=
  match read : (readRecord codec errors).run it with
  | .ok (record, rest) =>
    have := readRecord_shrinks read
    (record :: ·) <$> readRecords codec errors rest
  | .error .stopIteration => .ok []
  | .error e => .error e
termination_by it.length

/-- `parse_netrom_nodes(data)`, decoding its alias fields under `errors`. -/
def parseNodesWith (codec : CallCodec) (errors : DecodeErrors) (data : List UInt8) :
    Except PyError NetRomNodes := do
  let (marker, it) ← next.run data
  if marker = 0xff then
    let (sendingAlias, it) ← (readAlias errors).run it
    let destinations ← readRecords codec errors it
    pure ⟨sendingAlias, destinations⟩
  else throw .assertionError

/-- `parse_netrom_nodes` of `netrom/__init__.py`, which decodes with `"replace"`. -/
def parseNetromNodes (codec : CallCodec) (data : List UInt8) : Except PyError NetRomNodes :=
  parseNodesWith codec .replace data

/-- `parse_netrom_nodes` of `netrom/network.py`, which decodes with the default `"strict"`. -/
def Network.parseNetromNodes (codec : CallCodec) (data : List UInt8) : Except PyError NetRomNodes :=
  parseNodesWith codec .strict data

namespace NetRomNodes

/-- `to_packets(source)`: one UI frame to `NODES` for each chunk of 11 records, in order; the
    generator raises at a chunk whose encoding raises. -/
def toPackets (codec : CallCodec) (nodes : NetRomNodes) (source : AX25Call) : List (Except PyError UIFrame) :=
  (chunks nodes.destinations 11).map fun destChunk =>
    (fun info => ⟨nodesCall, source, .NetRom, info⟩) <$> encodeNetromNodes codec ⟨nodes.sendingAlias, destChunk⟩

/-- `to_chunks()` of `netrom/__init__.py`: the encodings of the chunks of 5 records. -/
def toChunks (codec : CallCodec) (nodes : NetRomNodes) : List (Except PyError (List UInt8)) :=
  (chunks nodes.destinations 5).map fun destChunk => encodeNetromNodes codec ⟨nodes.sendingAlias, destChunk⟩

end NetRomNodes

/-! ### Encoded advertisements read back -/

/-- An alias `encode_netrom_nodes` writes into its six bytes and `strip` gives back: ASCII, at
    most six characters, no whitespace at either end. -/
structure AliasFits (s : String) : Prop where
  ascii : IsAscii s
  short : s.length ≤ 6
  unpadded : Unpadded s

/-- A record whose every field reads back from its bytes. -/
structure RecordFits (codec : CallCodec) (d : NodeDestination) : Prop where
  destNode : codec.RoundTrips d.destNode
  destAlias : AliasFits d.destAlias
  bestNeighbor : codec.RoundTrips d.bestNeighbor
  quality : 0 ≤ d.quality ∧ d.quality < 256

/-- An advertisement whose every field reads back from its bytes. -/
structure NodesFit (codec : CallCodec) (n : NetRomNodes) : Prop where
  sendingAlias : AliasFits n.sendingAlias
  destinations : ∀ d ∈ n.destinations, RecordFits codec d

/-- The six bytes of a padded alias. -/
def aliasBytes (s : String) : List UInt8 := (ljust s 6 ' ').data.map fun c => c.toNat.toUInt8

/-- The bytes of a record whose alias encodes. -/
def recordBytes (codec : CallCodec) (d : NodeDestination) : List UInt8 :=
  codec.write d.destNode ++ aliasBytes d.destAlias ++ codec.write d.bestNeighbor ++ [(d.quality % 256).toNat.toUInt8]

theorem ascii_ljust {s : String} (ascii : IsAscii s) : IsAscii (ljust s 6 ' ') := by
  intro c mem
  simp only [ljust, List.mem_append, List.mem_replicate] at mem
  rcases mem with mem | ⟨-, rfl⟩
  · exact ascii c mem
  · decide

theorem length_aliasBytes {s : String} (fits : AliasFits s) : (aliasBytes s).length = 6 := by
  have padded := length_ljust s 6 ' '
  have short := fits.short
  simp only [String.length] at padded short
  rw [aliasBytes, List.length_map, padded]
  omega

theorem encodeAscii_ljust {s : String} (fits : AliasFits s) : encodeAscii (ljust s 6 ' ') = .ok (aliasBytes s) :=
  encodeAscii_of_ascii (ascii_ljust fits.ascii)

theorem readAlias_run (errors : DecodeErrors) (it : List UInt8) :
    (readAlias errors).run it = (fun text => (strip text, it.drop 6)) <$> decodeAscii errors (it.take 6) := by
  simp only [readAlias, StateT.run_bind, islice_run, StateT.run_lift, ok_bind]
  cases decodeAscii errors (it.take 6) <;> rfl

theorem readAlias_aliasBytes (errors : DecodeErrors) {s : String} (fits : AliasFits s) (rest : List UInt8) :
    (readAlias errors).run (aliasBytes s ++ rest) = .ok (s, rest) := by
  have six := length_aliasBytes fits
  simp only [readAlias, StateT.run_bind, islice_run, List.take_left' six, List.drop_left' six, ok_bind,
    StateT.run_lift]
  rw [aliasBytes, decodeAscii_encoded errors (ascii_ljust fits.ascii)]
  simp [strip_ljust fits.unpadded]

theorem encodeRecord_fits {codec : CallCodec} {d : NodeDestination} (fits : RecordFits codec d) :
    encodeRecord codec d = .ok (recordBytes codec d) := by
  simp [encodeRecord, encodeAscii_ljust fits.destAlias, recordBytes]

theorem readRecord_recordBytes {codec : CallCodec} (errors : DecodeErrors) {d : NodeDestination}
    (fits : RecordFits codec d) (rest : List UInt8) :
    (readRecord codec errors).run (recordBytes codec d ++ rest) = .ok (d, rest) := by
  obtain ⟨low, high⟩ := fits.quality
  have byte : ((d.quality % 256).toNat.toUInt8).toNat = d.quality.toNat := by
    rw [Int.emod_eq_of_lt low high, toNat_toUInt8_of_lt (by omega)]
  simp only [readRecord, recordBytes, List.append_assoc, StateT.run_bind, parseAx25Call_write fits.destNode,
    ok_bind, readAlias_aliasBytes errors fits.destAlias, parseAx25Call_write fits.bestNeighbor,
    List.singleton_append, next_cons, byte, Int.toNat_of_nonneg low]
  rfl

theorem readRecords_eq (codec : CallCodec) (errors : DecodeErrors) (it : List UInt8) :
    readRecords codec errors it =
      match (readRecord codec errors).run it with
      | .ok (record, rest) => (record :: ·) <$> readRecords codec errors rest
      | .error .stopIteration => .ok []
      | .error e => .error e := by
  rw [readRecords]
  split <;> simp_all

theorem readRecords_ok {codec : CallCodec} {errors : DecodeErrors} {it rest : List UInt8} {record : NodeDestination}
    (read : (readRecord codec errors).run it = .ok (record, rest)) :
    readRecords codec errors it = (record :: ·) <$> readRecords codec errors rest := by
  rw [readRecords_eq, read]

theorem readRecords_error {codec : CallCodec} {errors : DecodeErrors} {it : List UInt8} {e : PyError}
    (read : (readRecord codec errors).run it = .error e) :
    readRecords codec errors it = if e = .stopIteration then .ok [] else .error e := by
  rw [readRecords_eq, read]
  cases e <;> rfl

theorem readRecord_nil (codec : CallCodec) (errors : DecodeErrors) :
    (readRecord codec errors).run [] = .error .stopIteration := by
  simp [readRecord, StateT.run_bind, parseAx25Call_short]

/-- The loop reads every record back from their bytes, and stops at their end. -/
theorem readRecords_flatten {codec : CallCodec} (errors : DecodeErrors) {ds : List NodeDestination}
    (fits : ∀ d ∈ ds, RecordFits codec d) :
    readRecords codec errors (ds.map (recordBytes codec)).flatten = .ok ds := by
  induction ds with
  | nil => simp [readRecords_eq, readRecord_nil]
  | cons d rest ih =>
    rw [readRecords_eq, List.map_cons, List.flatten_cons, readRecord_recordBytes errors (fits d (.head _))]
    simp [ih fun d mem => fits d (.tail _ mem)]

theorem mapM_encodeRecord {codec : CallCodec} {ds : List NodeDestination} (fits : ∀ d ∈ ds, RecordFits codec d) :
    ds.mapM (encodeRecord codec) = .ok (ds.map (recordBytes codec)) := by
  induction ds with
  | nil => rfl
  | cons d rest ih =>
    simp only [List.mapM_cons, encodeRecord_fits (fits d (.head _)), ih fun d mem => fits d (.tail _ mem), ok_bind,
      pure_except, List.map_cons]

/-- The bytes of an advertisement whose fields read back, the marker, the padded alias and each
    record's bytes, parse back to it under either error policy. -/
theorem parseNodesWith_bytes {codec : CallCodec} (errors : DecodeErrors) {n : NetRomNodes} (fits : NodesFit codec n) :
    parseNodesWith codec errors (0xff :: aliasBytes n.sendingAlias ++ (n.destinations.map (recordBytes codec)).flatten) =
      .ok n := by
  simp only [parseNodesWith, List.cons_append, next_cons, ok_bind, if_true, readAlias_aliasBytes errors fits.sendingAlias,
    readRecords_flatten errors fits.destinations]
  rfl

/-- `parse_netrom_nodes` reads every advertisement whose fields fit back from
    `encode_netrom_nodes`, under either error policy. -/
theorem parseNodesWith_encode {codec : CallCodec} (errors : DecodeErrors) {n : NetRomNodes} (fits : NodesFit codec n) :
    (encodeNetromNodes codec n >>= parseNodesWith codec errors) = .ok n := by
  simp only [encodeNetromNodes, encodeAscii_ljust fits.sendingAlias, mapM_encodeRecord fits.destinations, ok_bind,
    pure_except]
  exact parseNodesWith_bytes errors fits

/-- What a receiver makes of frames: each frame's info parsed, in order, or the first exception. -/
def decodeFrames (codec : CallCodec) (errors : DecodeErrors) (frames : List (Except PyError UIFrame)) :
    Except PyError (List NetRomNodes) :=
  frames.mapM fun frame => frame >>= fun f => parseNodesWith codec errors f.info

/-- Advertisements that each carry the alias of `n` and at most `limit` records and that,
    concatenated in order, carry the records of `n`. -/
def Reassembles (n : NetRomNodes) (limit : Nat) (decoded : List NetRomNodes) : Prop :=
  (∀ m ∈ decoded, m.sendingAlias = n.sendingAlias ∧ m.destinations.length ≤ limit) ∧
    (decoded.map (·.destinations)).flatten = n.destinations

/-- The chunks of an advertisement as advertisements of their own reassemble it. -/
theorem reassembles_chunks (n : NetRomNodes) {limit : Nat} (positive : 0 < limit) :
    Reassembles n limit ((chunks n.destinations limit).map fun c => ⟨n.sendingAlias, c⟩) := by
  refine ⟨fun m mem => ?_, ?_⟩
  · obtain ⟨c, inside, rfl⟩ := List.mem_map.1 mem
    exact ⟨rfl, length_le_of_mem_chunks inside⟩
  · simpa [Function.comp_def] using flatten_chunks n.destinations positive

/-- Chunks encoded and wrapped (in a frame, or not at all) parse back one by one. -/
theorem mapM_parse_chunks {β : Type} {codec : CallCodec} (errors : DecodeErrors) (wrap : List UInt8 → β)
    (unwrap : β → List UInt8) (inverse : ∀ bytes, unwrap (wrap bytes) = bytes) {sendingAlias : String}
    (aliasFits : AliasFits sendingAlias) {cs : List (List NodeDestination)}
    (fits : ∀ c ∈ cs, ∀ d ∈ c, RecordFits codec d) :
    (cs.map fun c => wrap <$> encodeNetromNodes codec ⟨sendingAlias, c⟩).mapM
        (fun piece => piece >>= fun x => parseNodesWith codec errors (unwrap x)) =
      .ok (cs.map fun c => ⟨sendingAlias, c⟩) := by
  induction cs with
  | nil => rfl
  | cons c rest ih =>
    have first := parseNodesWith_encode errors
      (show NodesFit codec ⟨sendingAlias, c⟩ from ⟨aliasFits, fits c (.head _)⟩)
    obtain ⟨bytes, encoded⟩ : ∃ bytes, encodeNetromNodes codec ⟨sendingAlias, c⟩ = .ok bytes := by
      cases h : encodeNetromNodes codec ⟨sendingAlias, c⟩ with
      | error e => rw [h] at first; cases first
      | ok bytes => exact ⟨bytes, rfl⟩
    rw [encoded, ok_bind] at first
    simp only [List.map_cons, List.mapM_cons, encoded, map_ok, ok_bind, inverse, first,
      ih fun c mem => fits c (.tail _ mem), pure_except]

theorem NodesFit.chunk {codec : CallCodec} {n : NetRomNodes} (fits : NodesFit codec n) (limit : Nat) :
    ∀ c ∈ chunks n.destinations limit, ∀ d ∈ c, RecordFits codec d :=
  fun _ mem d inside => fits.destinations d (mem_of_mem_chunks mem d inside)

theorem toPackets_reassemble {codec : CallCodec} {n : NetRomNodes} (fits : NodesFit codec n) (source : AX25Call)
    (errors : DecodeErrors) :
    ∃ decoded, decodeFrames codec errors (n.toPackets codec source) = .ok decoded ∧ Reassembles n 11 decoded :=
  ⟨_, mapM_parse_chunks errors _ UIFrame.info (fun _ => rfl) fits.sendingAlias (fits.chunk 11),
    reassembles_chunks n (by decide)⟩

theorem toChunks_reassemble {codec : CallCodec} {n : NetRomNodes} (fits : NodesFit codec n) (errors : DecodeErrors) :
    ∃ decoded, ((n.toChunks codec).mapM fun chunk => chunk >>= parseNodesWith codec errors) = .ok decoded ∧
      Reassembles n 5 decoded := by
  have pieces := mapM_parse_chunks errors id id (fun _ => rfl) fits.sendingAlias (fits.chunk 5)
  simp only [id_map] at pieces
  exact ⟨_, pieces, reassembles_chunks n (by decide)⟩

/-- Frame by frame, `parse_netrom_nodes` (either copy) reads back the advertisement that
    `to_packets` and `to_chunks` split: each piece has the sending alias and at most 11 (5)
    records, the pieces concatenated are the records in order, and the unsplit encoding reads
    back whole. -/
theorem nodes_frames_reassemble {codec : CallCodec} {n : NetRomNodes} (fits : NodesFit codec n) (source : AX25Call)
    (errors : DecodeErrors) :
    (∃ decoded, decodeFrames codec errors (n.toPackets codec source) = .ok decoded ∧ Reassembles n 11 decoded) ∧
      (∃ decoded, ((n.toChunks codec).mapM fun chunk => chunk >>= parseNodesWith codec errors) = .ok decoded ∧
        Reassembles n 5 decoded) ∧
      (encodeNetromNodes codec n >>= parseNodesWith codec errors) = .ok n :=
  ⟨toPackets_reassemble fits source errors, toChunks_reassemble fits errors, parseNodesWith_encode errors fits⟩

/-- The copy of `parse_netrom_nodes` in `netrom/__init__.py` reads back the advertisement frame
    by frame, chunk by chunk and whole. -/
theorem parseNetromNodes_reassembles {codec : CallCodec} {n : NetRomNodes} (fits : NodesFit codec n)
    (source : AX25Call) :
    (∃ decoded, ((n.toPackets codec source).mapM fun frame => frame >>= fun f => parseNetromNodes codec f.info) =
        .ok decoded ∧ Reassembles n 11 decoded) ∧
      (∃ decoded, ((n.toChunks codec).mapM fun chunk => chunk >>= parseNetromNodes codec) = .ok decoded ∧
        Reassembles n 5 decoded) ∧
      (encodeNetromNodes codec n >>= parseNetromNodes codec) = .ok n :=
  ⟨toPackets_reassemble fits source .replace, toChunks_reassemble fits .replace, parseNodesWith_encode .replace fits⟩

/-- The copy of `parse_netrom_nodes` in `netrom/network.py` reads back the advertisement frame
    by frame, chunk by chunk and whole. -/
theorem networkParseNetromNodes_reassembles {codec : CallCodec} {n : NetRomNodes} (fits : NodesFit codec n)
    (source : AX25Call) :
    (∃ decoded, ((n.toPackets codec source).mapM fun frame =>
        frame >>= fun f => Network.parseNetromNodes codec f.info) = .ok decoded ∧ Reassembles n 11 decoded) ∧
      (∃ decoded, ((n.toChunks codec).mapM fun chunk => chunk >>= Network.parseNetromNodes codec) = .ok decoded ∧
        Reassembles n 5 decoded) ∧
      (encodeNetromNodes codec n >>= Network.parseNetromNodes codec) = .ok n :=
  ⟨toPackets_reassemble fits source .strict, toChunks_reassemble fits .strict, parseNodesWith_encode .strict fits⟩

/-- The advertisement of the spec's NODES-ingest scenario, ALPHA announcing BETA via N2CALL, for
    twelve SSIDs: one record more than a frame holds. -/
def alphaNodes : NetRomNodes := ⟨"ALPHA", (List.range 12).map fun i => ⟨⟨"N1CALL", i⟩, "BETA", ⟨"N2CALL", i⟩, 192⟩⟩

theorem alphaNodes_fit : NodesFit CallCodec.shifted alphaNodes := by
  have calls : ∀ i < 12, CallCodec.shifted.RoundTrips ⟨"N1CALL", i⟩ ∧ CallCodec.shifted.RoundTrips ⟨"N2CALL", i⟩ := by
    decide
  have beta : AliasFits "BETA" := ⟨by decide, by decide, by decide⟩
  refine ⟨⟨by decide, by decide, by decide⟩, fun d mem => ?_⟩
  obtain ⟨i, listed, rfl⟩ := List.mem_map.1 mem
  have below := List.mem_range.1 listed
  exact ⟨(calls i below).1, beta, (calls i below).2, show 0 ≤ (192 : Int) ∧ (192 : Int) < 256 by decide⟩

theorem nodes_frames_reassemble_alpha : NodesFit CallCodec.shifted alphaNodes ∧
    ((∃ decoded, decodeFrames CallCodec.shifted .strict (alphaNodes.toPackets CallCodec.shifted ⟨"N0CALL", 0⟩) =
        .ok decoded ∧ Reassembles alphaNodes 11 decoded) ∧
      (∃ decoded, ((alphaNodes.toChunks CallCodec.shifted).mapM fun chunk =>
          chunk >>= parseNodesWith CallCodec.shifted .strict) = .ok decoded ∧ Reassembles alphaNodes 5 decoded) ∧
      (encodeNetromNodes CallCodec.shifted alphaNodes >>= parseNodesWith CallCodec.shifted .strict) = .ok alphaNodes) :=
  ⟨alphaNodes_fit, nodes_frames_reassemble alphaNodes_fit ⟨"N0CALL", 0⟩ .strict⟩

/-! ### What any parse returns -/

/-- What `parse_netrom_nodes` returns, when it returns: past the marker, an alias read from the
    next bytes, and the records the loop reads from the rest. -/
theorem parseNodesWith_ok {codec : CallCodec} {errors : DecodeErrors} {data : List UInt8} {n : NetRomNodes}
    (parsed : parseNodesWith codec errors data = .ok n) :
    ∃ it rest, data = 0xff :: it ∧ (readAlias errors).run it = .ok (n.sendingAlias, rest) ∧
      readRecords codec errors rest = .ok n.destinations := by
  obtain ⟨⟨marker, it⟩, first, parsed⟩ := bind_eq_ok.1 parsed
  dsimp only at parsed
  split at parsed
  · rename_i ff
    obtain ⟨⟨sendingAlias, rest⟩, named, parsed⟩ := bind_eq_ok.1 parsed
    dsimp only at parsed
    obtain ⟨records, read, parsed⟩ := bind_eq_ok.1 parsed
    cases parsed
    cases data with
    | nil => cases first
    | cons b it' =>
      rw [next_cons, Except.ok.injEq, Prod.mk.injEq] at first
      obtain ⟨rfl, rfl⟩ := first
      exact ⟨it', rest, by rw [ff], named, read⟩
  · cases parsed

/-- A property the loop body gives every record it reads holds of every record the loop
    returns. -/
theorem readRecords_forall {codec : CallCodec} {errors : DecodeErrors} {P : NodeDestination → Prop}
    (each : ∀ {it record rest}, (readRecord codec errors).run it = .ok (record, rest) → P record)
    {it : List UInt8} {records : List NodeDestination} (read : readRecords codec errors it = .ok records) :
    ∀ d ∈ records, P d := by
  rw [readRecords_eq] at read
  split at read
  · rename_i record rest first
    have := readRecord_shrinks first
    cases later : readRecords codec errors rest with
    | error e => rw [later] at read; cases read
    | ok tail =>
      rw [later, map_ok, Except.ok.injEq] at read
      subst read
      intro d mem
      rcases List.mem_cons.1 mem with rfl | mem
      · exact each first
      · exact readRecords_forall each later d mem
  · cases read
    exact fun d mem => absurd mem (List.not_mem_nil d)
  · cases read
termination_by it.length

/-- An alias field takes six bytes and holds at most six characters. -/
theorem readAlias_ok {errors : DecodeErrors} {it rest : List UInt8} {s : String}
    (read : (readAlias errors).run it = .ok (s, rest)) : s.length ≤ 6 ∧ rest = it.drop 6 := by
  rw [readAlias_run] at read
  cases decoded : decodeAscii errors (it.take 6) with
  | error e => rw [decoded] at read; cases read
  | ok text =>
    rw [decoded, map_ok, Except.ok.injEq, Prod.mk.injEq] at read
    obtain ⟨rfl, rfl⟩ := read
    refine ⟨?_, rfl⟩
    calc (strip text).length ≤ text.length := length_strip_le text
      _ = (it.take 6).length := length_decodeAscii decoded
      _ ≤ 6 := List.length_take_le 6 it

theorem readRecord_short {codec : CallCodec} {errors : DecodeErrors} {it rest : List UInt8}
    {record : NodeDestination} (read : (readRecord codec errors).run it = .ok (record, rest)) :
    record.destAlias.length ≤ 6 := by
  obtain ⟨_, _, -, read⟩ := run_bind_ok.1 read
  obtain ⟨_, _, named, read⟩ := run_bind_ok.1 read
  obtain ⟨_, _, -, read⟩ := run_bind_ok.1 read
  obtain ⟨_, _, -, read⟩ := run_bind_ok.1 read
  simp only [StateT.run_pure, pure_except, Except.ok.injEq, Prod.mk.injEq] at read
  obtain ⟨rfl, -⟩ := read
  exact (readAlias_ok named).1

/-- An advertisement whose aliases fit their six-byte fields. -/
def ShortAliases (n : NetRomNodes) : Prop :=
  n.sendingAlias.length ≤ 6 ∧ ∀ d ∈ n.destinations, d.destAlias.length ≤ 6

/-- Every advertisement `parse_netrom_nodes` returns has short aliases. -/
theorem parseNodesWith_short {codec : CallCodec} {errors : DecodeErrors} {data : List UInt8} {n : NetRomNodes}
    (parsed : parseNodesWith codec errors data = .ok n) : ShortAliases n := by
  obtain ⟨it, rest, -, named, read⟩ := parseNodesWith_ok parsed
  exact ⟨(readAlias_ok named).1, readRecords_forall readRecord_short read⟩

/-! ### Records that name their destination as best neighbour -/

/-- An advertisement each of whose records names its destination as its best neighbour. -/
def PairedCalls (n : NetRomNodes) : Prop := ∀ d ∈ n.destinations, d.bestNeighbor = d.destNode

/-- The bytes of a record with a short alias: a call, six alias bytes, a call and the quality
    byte. -/
theorem encodeRecord_ok {codec : CallCodec} {d : NodeDestination} {r : List UInt8}
    (encoded : encodeRecord codec d = .ok r) (short : d.destAlias.length ≤ 6) :
    ∃ a q, a.length = 6 ∧ r = codec.write d.destNode ++ a ++ codec.write d.bestNeighbor ++ [q] := by
  obtain ⟨a, named, encoded⟩ := bind_eq_ok.1 encoded
  cases encoded
  refine ⟨a, _, ?_, rfl⟩
  rw [length_encodeAscii named, length_ljust, Nat.max_eq_right short]

/-- A record whose two calls are written from the same call reads back with equal calls,
    whatever the codec makes of them. -/
theorem readRecord_paired {codec : CallCodec} {errors : DecodeErrors} {c : AX25Call} {a : List UInt8}
    {q : UInt8} {rest rest' : List UInt8} {record : NodeDestination} (six : a.length = 6)
    (read : (readRecord codec errors).run (codec.write c ++ a ++ codec.write c ++ [q] ++ rest) = .ok (record, rest')) :
    record.bestNeighbor = record.destNode ∧ rest' = rest := by
  obtain ⟨dest, mid, first, read⟩ := run_bind_ok.1 read
  rw [List.append_assoc, List.append_assoc, List.append_assoc, parseAx25Call_append, Except.ok.injEq,
    Prod.mk.injEq] at first
  obtain ⟨rfl, rfl⟩ := first
  obtain ⟨destAlias, mid, named, read⟩ := run_bind_ok.1 read
  rw [(readAlias_ok named).2, List.drop_left' six] at read
  obtain ⟨neighbor, mid, third, read⟩ := run_bind_ok.1 read
  rw [parseAx25Call_append, Except.ok.injEq, Prod.mk.injEq] at third
  obtain ⟨rfl, rfl⟩ := third
  obtain ⟨quality, mid, fourth, read⟩ := run_bind_ok.1 read
  rw [List.singleton_append, next_cons, Except.ok.injEq, Prod.mk.injEq] at fourth
  obtain ⟨rfl, rfl⟩ := fourth
  simp only [StateT.run_pure, pure_except, Except.ok.injEq, Prod.mk.injEq] at read
  obtain ⟨rfl, rfl⟩ := read
  exact ⟨rfl, rfl⟩

/-- The loop reads records with equal calls back from the encodings of records with equal calls
    and short aliases. -/
theorem readRecords_paired {codec : CallCodec} {errors : DecodeErrors} :
    ∀ {ds : List NodeDestination} {records : List (List UInt8)} {out : List NodeDestination},
      ds.mapM (encodeRecord codec) = .ok records → (∀ d ∈ ds, d.destAlias.length ≤ 6 ∧ d.bestNeighbor = d.destNode) →
      readRecords codec errors records.flatten = .ok out → ∀ d ∈ out, d.bestNeighbor = d.destNode
  | [], records, out, encoded, _, read => by
    rw [List.mapM_nil, pure_except, Except.ok.injEq] at encoded
    subst encoded
    rw [List.flatten_nil, readRecords_error (readRecord_nil codec errors)] at read
    cases read
    exact fun d mem => absurd mem (List.not_mem_nil d)
  | d :: ds, records, out, encoded, fits, read => by
    rw [List.mapM_cons] at encoded
    obtain ⟨r, first, encoded⟩ := bind_eq_ok.1 encoded
    obtain ⟨rs, rest, encoded⟩ := bind_eq_ok.1 encoded
    cases encoded
    obtain ⟨short, paired⟩ := fits d (List.mem_cons_self _ _)
    obtain ⟨a, q, six, rfl⟩ := encodeRecord_ok first short
    rw [paired] at read
    rw [List.flatten_cons, readRecords_eq] at read
    split at read
    · rename_i record rest' one
      obtain ⟨pairedHead, rfl⟩ := readRecord_paired six one
      cases later : readRecords codec errors rs.flatten with
      | error e => rw [later] at read; cases read
      | ok tail =>
        rw [later, map_ok, Except.ok.injEq] at read
        subst read
        intro d' mem
        rcases List.mem_cons.1 mem with rfl | mem
        · exact pairedHead
        · exact readRecords_paired rest (fun d mem => fits d (List.mem_cons_of_mem _ mem)) later d' mem
    · cases read
      exact fun d mem => absurd mem (List.not_mem_nil d)
    · cases read

/-- `parse_netrom_nodes` reads an advertisement with equal calls in each record back from the
    encoding of one with equal calls and short aliases, under either error policy and whatever
    the codec. -/
theorem parseNodesWith_paired {codec : CallCodec} {errors : DecodeErrors} {n m : NetRomNodes} {bytes : List UInt8}
    (encoded : encodeNetromNodes codec n = .ok bytes) (short : ShortAliases n) (paired : PairedCalls n)
    (parsed : parseNodesWith codec errors bytes = .ok m) : PairedCalls m := by
  obtain ⟨sa, named, encoded⟩ := bind_eq_ok.1 encoded
  obtain ⟨records, recorded, encoded⟩ := bind_eq_ok.1 encoded
  cases encoded
  obtain ⟨it, rest, same, readName, read⟩ := parseNodesWith_ok parsed
  have six : sa.length = 6 := by rw [length_encodeAscii named, length_ljust, Nat.max_eq_right short.1]
  rw [List.cons_append, List.cons.injEq] at same
  rw [(readAlias_ok readName).2, ← same.2, List.drop_left' six] at read
  exact readRecords_paired recorded (fun d mem => ⟨short.2 d mem, paired d mem⟩) read

/-! ### The two copies of `parse_netrom_nodes` -/

/-- Where the strict decoder returns, the replacing one returns the same text. -/
theorem decodeAscii_strict {raw : List UInt8} :
    decodeAscii .strict raw = .error .unicodeDecodeError ∨ decodeAscii .strict raw = decodeAscii .replace raw := by
  by_cases ascii : raw.all (·.toNat < 128)
  · refine .inr ?_
    have small : ∀ b ∈ raw, b.toNat < 128 := by simpa using ascii
    simp only [decodeAscii, ascii, if_true]
    exact congrArg (fun l : List Char => (Except.ok ⟨l⟩ : Except PyError String))
      (List.map_congr_left fun b mem => by simp [small b mem])
  · exact .inl (by simp [decodeAscii, ascii])

theorem readAlias_strict (it : List UInt8) :
    (readAlias .strict).run it = .error .unicodeDecodeError ∨
      (readAlias .strict).run it = (readAlias .replace).run it := by
  simp only [readAlias, StateT.run_bind, islice_run, ok_bind, StateT.run_lift]
  rcases @decodeAscii_strict (it.take 6) with bad | same
  · exact .inl (by rw [bad]; rfl)
  · exact .inr (by rw [same])

theorem readRecord_strict (codec : CallCodec) (it : List UInt8) :
    (readRecord codec .strict).run it = .error .unicodeDecodeError ∨
      (readRecord codec .strict).run it = (readRecord codec .replace).run it := by
  simp only [readRecord, StateT.run_bind]
  cases codec.parseAx25Call.run it with
  | error e => exact .inr rfl
  | ok first =>
    simp only [ok_bind]
    rcases readAlias_strict first.2 with bad | same
    · exact .inl (by rw [bad]; rfl)
    · exact .inr (by rw [same])

theorem readRecords_strict {codec : CallCodec} {it : List UInt8} {ds : List NodeDestination}
    (strict : readRecords codec .strict it = .ok ds) : readRecords codec .replace it = .ok ds := by
  rcases readRecord_strict codec it with bad | same
  · rw [readRecords_error bad] at strict; cases strict
  · cases read : (readRecord codec .strict).run it with
    | error e =>
      rw [readRecords_error read] at strict
      rwa [readRecords_error (same ▸ read)]
    | ok result =>
      have := readRecord_shrinks read
      rw [readRecords_ok read] at strict
      rw [readRecords_ok (same ▸ read)]
      cases later : readRecords codec .strict result.2 with
      | error e => rw [later] at strict; cases strict
      | ok tail => rw [later] at strict; rw [readRecords_strict later]; exact strict
termination_by it.length

/-- Wherever the `network.py` copy returns, the `__init__.py` copy returns the same
    advertisement. -/
theorem parseNetromNodes_of_network {codec : CallCodec} {data : List UInt8} {m : NetRomNodes}
    (strict : Network.parseNetromNodes codec data = .ok m) : parseNetromNodes codec data = .ok m := by
  obtain ⟨⟨marker, it⟩, first, strict⟩ := bind_eq_ok.1 strict
  dsimp only at strict
  split at strict
  · rename_i ff
    obtain ⟨⟨sendingAlias, rest⟩, named, strict⟩ := bind_eq_ok.1 strict
    dsimp only at strict
    obtain ⟨ds, records, strict⟩ := bind_eq_ok.1 strict
    have named' : (readAlias .replace).run it = .ok (sendingAlias, rest) := by
      rcases readAlias_strict it with bad | same
      · rw [bad] at named; cases named
      · rwa [← same]
    rw [parseNetromNodes, parseNodesWith, first, ok_bind]
    dsimp only
    rw [if_pos ff, named', ok_bind]
    dsimp only
    rw [readRecords_strict records, ok_bind]
    exact strict
  · cases strict

/-- The bytes `encode_netrom_nodes` writes for `alphaNodes`: the marker, the padded alias and
    twelve records. -/
def alphaBytes : List UInt8 :=
  0xff :: aliasBytes alphaNodes.sendingAlias ++ (alphaNodes.destinations.map (recordBytes CallCodec.shifted)).flatten

theorem parseNetromNodes_of_network_alpha :
    Network.parseNetromNodes CallCodec.shifted alphaBytes = .ok alphaNodes ∧
      parseNetromNodes CallCodec.shifted alphaBytes = .ok alphaNodes := by
  have strict : Network.parseNetromNodes CallCodec.shifted alphaBytes = .ok alphaNodes :=
    parseNodesWith_bytes .strict alphaNodes_fit
  exact ⟨strict, parseNetromNodes_of_network strict⟩

/-- The NODES payload with an alias byte 0x80 and no records. -/
def highAliasNodes : List UInt8 := [0xff, 0x80, 0x20, 0x20, 0x20, 0x20, 0x20]

/-- On `highAliasNodes` the `network.py` copy raises `UnicodeDecodeError`, while the
    `__init__.py` copy returns the alias U+FFFD and no records. -/
theorem nodes_copies_diverge (codec : CallCodec) :
    Network.parseNetromNodes codec highAliasNodes = .error .unicodeDecodeError ∧
      parseNetromNodes codec highAliasNodes = .ok ⟨⟨[replacementChar]⟩, []⟩ := by
  have rejected : decodeAscii .strict [0x80, 0x20, 0x20, 0x20, 0x20, 0x20] = .error .unicodeDecodeError := by
    decide
  have replaced : decodeAscii .replace [0x80, 0x20, 0x20, 0x20, 0x20, 0x20] =
      .ok ⟨[replacementChar, ' ', ' ', ' ', ' ', ' ']⟩ := by
    decide
  have stripped : strip ⟨[replacementChar, ' ', ' ', ' ', ' ', ' ']⟩ = ⟨[replacementChar]⟩ := by decide
  constructor
  · simp [Network.parseNetromNodes, parseNodesWith, highAliasNodes, readAlias_run, rejected]
  · simp [parseNetromNodes, parseNodesWith, highAliasNodes, readAlias_run, replaced, stripped,
      readRecords_error (readRecord_nil codec .replace)]

end Tarpn.Netrom
