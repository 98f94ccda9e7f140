import SeamsWallet.Yao.ObliviousTransfer

/-!
# The transfer delivers the chosen labels

Each base transfer gives the garbler the seed its bit chooses, so its matrix differs from
the evaluator's by the choice string in the rows of its set bits. Read by columns the same
fact says that the two columns of an input differ by the base choices exactly when its
choice bit is set, and one of the two masks is the evaluator's.

Every response of the garbler is a point other than the identity and the offer. The
repair moves a bad response by the generator; two moves are enough because there are two
bad points and three multiples of the generator in a row are distinct.
-/

namespace SeamsWallet.YaoTransfer

open Library ThresholdPrf Edwards25519

variable {q : ℕ} {G : Type} [AddCommGroup G] [Module (ZMod q) G] {env : OtEnvironment q G}

/-! ## Base transfers -/

theorem randomNonzeroScalar_ne_zero [Fact q.Prime] (wide : Bytes 64) :
    randomNonzeroScalar q wide ≠ 0 := by
  unfold randomNonzeroScalar
  dsimp only
  split_ifs with h
  · exact one_ne_zero
  · exact h

theorem exists_randomNonzeroScalar [NeZero q] (R : Ristretto255 q G) {scalar : ZMod q}
    (hscalar : scalar ≠ 0) : ∃ wide, randomNonzeroScalar q wide = scalar := by
  have hlt : scalar.val < 256 ^ 64 :=
    (ZMod.val_lt scalar).trans_le (R.order_le.trans (by norm_num))
  refine ⟨toLittleEndian 64 scalar.val, ?_⟩
  simp [randomNonzeroScalar, scalarFromBytesModOrderWide, hscalar,
    ofLittleEndian_toLittleEndian_of_lt hlt]

theorem two_basepoint_ne_zero [Fact q.Prime] (R : Ristretto255 q G) :
    R.basepoint + R.basepoint ≠ 0 := by
  rw [← two_smul (ZMod q)]
  exact fun h => R.two_ne_zero (R.smul_basepoint_eq_zero.mp h)

section Response

variable [DecidableEq G] {offer : G}

/-- The scalar of a response still explains its point. -/
theorem repairResponse_explains {selected : G} {state : ZMod q × G}
    (h : state.2 = state.1 • env.ristretto.basepoint + selected) :
    (repairResponse env offer state).2 =
      (repairResponse env offer state).1 • env.ristretto.basepoint + selected := by
  unfold repairResponse
  split_ifs
  · dsimp only
    rw [h, add_smul, one_smul]
    abel
  · exact h

theorem baseReceiverResponse_explains (env : OtEnvironment q G) (offer : G) (scalar : ZMod q)
    (choice : Bool) :
    (baseReceiverResponse env offer scalar choice).2 =
      (baseReceiverResponse env offer scalar choice).1 • env.ristretto.basepoint +
        if choice then offer else 0 :=
  repairResponse_explains (repairResponse_explains rfl)

/-- Two rounds leave no bad response. -/
theorem repairResponse_good [Fact q.Prime] (state : ZMod q × G) :
    ¬ ((repairResponse env offer (repairResponse env offer state)).2 = 0 ∨
      (repairResponse env offer (repairResponse env offer state)).2 = offer) := by
  obtain ⟨scalar, point⟩ := state
  have hbase := env.ristretto.basepoint_ne_zero
  have htwo := two_basepoint_ne_zero env.ristretto
  by_cases hfirst : point = 0 ∨ point = offer
  · by_cases hsecond : point + env.ristretto.basepoint = 0 ∨ point + env.ristretto.basepoint = offer
    · simp only [repairResponse, if_pos hfirst, if_pos hsecond]
      -- three distinct points cannot all be among the two bad ones
      have h₁₂ : point + env.ristretto.basepoint ≠ point := by simpa using hbase
      have h₂₃ : point + env.ristretto.basepoint + env.ristretto.basepoint ≠
        point + env.ristretto.basepoint := by simpa using hbase
      have h₁₃ : point + env.ristretto.basepoint + env.ristretto.basepoint ≠ point := by
        rwa [add_assoc, Ne, add_eq_left]
      intro hthird
      grind
    · simpa only [repairResponse, if_pos hfirst, if_neg hsecond] using hsecond
  · simpa only [repairResponse, if_neg hfirst] using hfirst

/-- Every good point answers for either choice, without a repair. -/
theorem exists_baseReceiverResponse [Fact q.Prime]
    (hbase : ∀ point : G, ∃ scalar : ZMod q, scalar • env.ristretto.basepoint = point)
    {response : G} (hgood : ¬ (response = 0 ∨ response = offer)) (choice : Bool) :
    ∃ wide, (baseReceiverResponse env offer (randomNonzeroScalar q wide) choice).2 = response := by
  obtain ⟨scalar, hscalar⟩ := hbase (response - if choice then offer else 0)
  have hne : scalar ≠ 0 := by
    rintro rfl
    rw [zero_smul, eq_comm, sub_eq_zero] at hscalar
    cases choice <;> simp [hscalar] at hgood
  obtain ⟨wide, hwide⟩ := exists_randomNonzeroScalar env.ristretto hne
  refine ⟨wide, ?_⟩
  simp only [baseReceiverResponse, hwide, hscalar, sub_add_cancel, repairResponse, if_neg hgood]

end Response

/-! ## Frames and flights -/

theorem OtSessionId.decode_bytes (session : OtSessionId) :
    OtSessionId.decode session.bytes.toList = .ok session := by
  rw [OtSessionId.decode, Bytes.ofList?_toList, okOr_some, ok_bind, dif_pos session.ne_zeros]
  rfl

variable (family : OtFamily)

theorem decodeFrame_encodeFrame (messageType : UInt8)
    (session : OtSessionId) (payload : List UInt8) :
    decodeFrame family (encodeFrame family messageType session payload) messageType
      payload.length = .ok (session, payload) := by
  have hmagic : frameMagic = [89, 65, 79, 79, 84, 66, 48, 49] := by decide
  have hsession : session.bytes.toList.length = 32 := session.bytes.toList_length
  generalize hframe : encodeFrame family messageType session payload = frame
  replace hframe : [89, 65, 79, 79, 84, 66, 48, 49, messageType, family.code, 0, 0, 0, 0, 0, 0] ++
      (session.bytes.toList ++ payload) = frame := by
    rw [← hframe, encodeFrame, hmagic, List.append_assoc]
    rfl
  have hlength : frame.length = 48 + payload.length := by
    rw [← hframe, List.length_append, List.length_append, hsession]
    change 16 + (32 + payload.length) = _
    omega
  have hheader : frame.take 8 = frameMagic ∧ (frame.drop 10).take 6 = List.replicate 6 0 := by
    rw [← hframe, hmagic]
    exact ⟨rfl, rfl⟩
  have htype : frame[8]? = some messageType := by rw [← hframe]; rfl
  have hfamily : frame[9]? = some family.code := by rw [← hframe]; rfl
  have hbytes : (frame.drop 16).take 32 = session.bytes.toList := by
    rw [← hframe]
    exact List.take_left' hsession
  have hpayload : frame.drop 48 = payload := by
    rw [← hframe, ← List.append_assoc]
    exact List.drop_left' (by rw [List.length_append, hsession]; rfl)
  rw [decodeFrame, ensure_of (by omega), ok_bind, ensure_of hheader, ok_bind, ensure_of htype,
    ok_bind, ensure_of hfamily, ok_bind, ensure_of hlength, ok_bind, hbytes,
    OtSessionId.decode_bytes, ok_bind, hpayload]
  rfl

variable {family : OtFamily} {rows : ℕ → List UInt8}

/-- A flight of bytes of the right length arrives as it was sent. -/
theorem decodeBytesFlight_encode {messageType : UInt8} {payloadBytes : ℕ}
    {flight : BytesFlight} (hlength : flight.bytes.length = payloadBytes) :
    decodeBytesFlight family messageType payloadBytes
      (encodeBytesFlight family messageType flight) = .ok flight := by
  rw [decodeBytesFlight, encodeBytesFlight, ← hlength, decodeFrame_encodeFrame, ok_bind]
  rfl

variable {points : List G}

theorem length_encodePoints (points : List G) :
    (encodePoints env points).length = points.length * 32 :=
  length_flatten_map fun _ => List.Vector.toList_length _

variable {i : ℕ}

theorem slice_encodePoints (hi : i < points.length) :
    ((encodePoints env points).drop (i * 32)).take 32 =
      (env.ristretto.compress points[i]).toList :=
  slice_flatten_map (fun _ => List.Vector.toList_length _) hi

section Points

variable [DecidableEq G]

theorem decodePoint_compress {point : G} (hpoint : point ≠ 0) :
    decodePoint env (env.ristretto.compress point).toList = .ok point := by
  rw [decodePoint, Bytes.ofList?_toList, okOr_some, ok_bind, env.ristretto.decompress_compress,
    okOr_some, ok_bind, ensure_of hpoint, ok_bind]
  rfl

theorem decodePoints_encodePoints {points : List G}
    (hlength : points.length = securityParameter) (hpoints : ∀ point ∈ points, point ≠ 0) :
    decodePoints env (encodePoints env points) = .ok points := by
  have hdecode : ∀ i ∈ List.range securityParameter,
      decodePoint env (((encodePoints env points).drop (i * 32)).take 32) =
        .ok (points.getD i 0) := by
    intro i hi
    have hlt : i < points.length := by rwa [hlength, ← List.mem_range]
    rw [slice_encodePoints hlt, List.getD_eq_getElem _ _ hlt,
      decodePoint_compress (hpoints _ (List.getElem_mem hlt))]
  have hmap : (List.range securityParameter).map (fun i => points.getD i 0) = points := by
    rw [← hlength]
    refine List.ext_getElem (by simp) fun i hi hi' => ?_
    rw [List.getElem_map, List.getElem_range, List.getD_eq_getElem _ _ hi']
  rw [decodePoints, ensure_of (by rw [length_encodePoints, hlength]), ok_bind,
    mapM_eq_ok_map hdecode, hmap]

/-- A flight of 128 points other than the identity arrives as it was sent. -/
theorem decodePointsFlightForSession_encode {messageType : UInt8}
    (flight : PointsFlight G) (hlength : flight.points.length = securityParameter)
    (hpoints : ∀ point ∈ flight.points, point ≠ 0) :
    decodePointsFlightForSession env family messageType
      (encodePointsFlight env family messageType flight) flight.session = .ok flight := by
  have hdecode : decodePointsFlight env family messageType
      (encodePointsFlight env family messageType flight) = .ok flight := by
    have hpayload : securityParameter * 32 = (encodePoints env flight.points).length := by
      rw [length_encodePoints, hlength]
    rw [decodePointsFlight, encodePointsFlight, hpayload, decodeFrame_encodeFrame, ok_bind]
    dsimp only
    rw [decodePoints_encodePoints hlength hpoints, ok_bind]
    rfl
  rw [decodePointsFlightForSession, hdecode, ok_bind, ensure_of rfl, ok_bind]
  rfl

end Points

/-! ## Rows and columns -/

theorem length_expandRow (seed : Bytes 16) (rowIndex : ℕ) :
    (expandRow env family seed rowIndex).length = family.rowBytes := by
  have hblocks : family.rowBytes / labelBytes * 16 = family.rowBytes := by
    cases family <;> rfl
  rw [expandRow, length_flatten_map fun _ => List.Vector.toList_length _, List.length_range,
    hblocks]

/-- The matrix with the given rows. -/
abbrev matrixOf (rows : ℕ → List UInt8) : List UInt8 :=
  ((List.range securityParameter).map rows).flatten

variable {width : ℕ}

theorem length_matrixOf (hrows : ∀ r, (rows r).length = width) :
    (matrixOf rows).length = securityParameter * width := by
  rw [length_flatten_map hrows, List.length_range]

variable {r : ℕ} (hrows : ∀ r, (rows r).length = family.rowBytes)

include hrows in
theorem matrixRow_matrixOf (hr : r < securityParameter) :
    matrixRow family (matrixOf rows) r = rows r := by
  rw [matrixRow, slice_flatten_map hrows (by simpa using hr), List.getElem_range]

include hrows in
/-- The column of an input holds its bit in every row. -/
theorem packedBit_matrixColumn (hi : i < family.otCount) (hr : r < securityParameter) :
    packedBit (matrixColumn family (matrixOf rows) i) r = packedBit (rows r) i := by
  have hbyte : i / 8 < family.rowBytes := by
    unfold OtFamily.rowBytes
    cases family <;> simp only [OtFamily.otCount] at hi ⊢ <;> omega
  rw [matrixColumn, packedBit_packBits (by decide) _ hr,
    getD_flatten_map hrows (by simpa using hr) hbyte, List.getElem_range, packedBit]

@[simp] theorem length_matrixColumn (matrix : List UInt8) (i : ℕ) :
    (matrixColumn family matrix i).length = 16 := length_packBits ..

include hrows in
/-- Rows that differ by a string where a bit is set have columns that differ by those bits
where the string is set. -/
theorem matrixColumn_conditionalXor {rows' : ℕ → List UInt8} {choices : List UInt8}
    {bits : Bytes 16} (hchoices : choices.length = family.rowBytes)
    (hdiffer : ∀ r < securityParameter,
      rows' r = conditionalXor (rows r) choices (packedBit bits.toList r))
    (hrows' : ∀ r, (rows' r).length = family.rowBytes) (hi : i < family.otCount) :
    matrixColumn family (matrixOf rows') i =
      conditionalXor (matrixColumn family (matrixOf rows) i) bits.toList (packedBit choices i) := by
  have hbits : bits.toList.length = 16 := bits.toList_length
  have hcolumn : (matrixColumn family (matrixOf rows) i).length = bits.toList.length := by
    rw [length_matrixColumn, hbits]
  refine eq_of_packedBit ?_ fun r hr => ?_
  · unfold conditionalXor
    split_ifs
    · rw [length_xorBytes, hbits, length_matrixColumn, length_matrixColumn, min_self]
    · rw [length_matrixColumn, length_matrixColumn]
  · rw [length_matrixColumn] at hr
    rw [packedBit_matrixColumn hrows' hi hr, hdiffer r hr]
    have hrow := packedBit_matrixColumn hrows hi hr
    have hxorRow := packedBit_xorBytes ((hrows r).trans hchoices.symm) i
    have hxorColumn := packedBit_xorBytes hcolumn r
    rcases Bool.eq_false_or_eq_true (packedBit bits.toList r) with hbit | hbit <;>
      rcases Bool.eq_false_or_eq_true (packedBit choices i) with hchoice | hchoice <;>
        simp [conditionalXor, hbit, hchoice, hrow, hxorRow, hxorColumn]

/-! ## The two roles together -/

theorem length_pair (zero one : ℕ → Bytes 16) (j : ℕ) :
    ((zero j).toList ++ (one j).toList).length = 32 := by
  simp

variable {n : ℕ}

/-- A masked label is found again at its place in the last flight. -/
theorem maskedLabel_flatten (zero one : ℕ → Bytes 16) (hi : i < n) :
    let payloads := ((List.range n).map fun j => (zero j).toList ++ (one j).toList).flatten
    maskedLabel payloads (i * 32) = zero i ∧ maskedLabel payloads (i * 32 + 16) = one i := by
  intro payloads
  have hpair : (payloads.drop (i * 32)).take 32 = (zero i).toList ++ (one i).toList := by
    rw [slice_flatten_map (length_pair zero one) (by simpa using hi), List.getElem_range]
  have htake : ((zero i).toList ++ (one i).toList).take 16 = (zero i).toList :=
    List.take_left' (zero i).toList_length
  have hdrop : ((zero i).toList ++ (one i).toList).drop 16 = (one i).toList :=
    List.drop_left' (zero i).toList_length
  have hzero : (payloads.drop (i * 32)).take 16 = (zero i).toList := by
    rw [← htake, ← hpair, List.take_take]
    rfl
  have hone : (payloads.drop (i * 32 + 16)).take 16 = (one i).toList := by
    rw [← List.drop_drop, ← hdrop, ← hpair, List.drop_take]
  exact ⟨by rw [maskedLabel, hzero, Bytes.ofList?_toList, Option.getD_some],
    by rw [maskedLabel, hone, Bytes.ofList?_toList, Option.getD_some]⟩

/-- Correcting the row of branch one by the sent correction gives the row of branch zero
with the choices added. -/
theorem xorBytes_correction {zero one choices : List UInt8} (hone : one.length = zero.length)
    (hchoices : choices.length = zero.length) :
    xorBytes one (xorBytes (xorBytes zero one) choices) = xorBytes zero choices := by
  have hfirst : (xorBytes zero one).length = choices.length := by
    rw [length_xorBytes]
    omega
  have hsecond : one.length = (xorBytes (xorBytes zero one) choices).length := by
    rw [length_xorBytes, hfirst]
    omega
  refine eq_of_packedBit (by simp only [length_xorBytes]; omega) fun i _ => ?_
  rw [packedBit_xorBytes hsecond, packedBit_xorBytes hfirst, packedBit_xorBytes hone.symm,
    packedBit_xorBytes hchoices.symm]
  cases packedBit zero i <;> cases packedBit one i <;> cases packedBit choices i <;> rfl

theorem getD_map_range {α : Type} (f : ℕ → α) (hi : i < n) (d : α) :
    ((List.range n).map f).getD i d = f i := by
  rw [List.getD_eq_getElem _ _ (by simpa using hi), List.getElem_map, List.getElem_range]

theorem receiverBegin_offer_ne_zero [Fact q.Prime]
    (session : OtSessionId) (choices : ReceiverChoices family) (receiverRandom : ℕ → Bytes 64) :
    ∀ point ∈ (receiverBegin env session choices receiverRandom).2.points, point ≠ 0 := by
  intro point hpoint
  obtain ⟨index, -, rfl⟩ := List.mem_map.mp hpoint
  exact fun h => randomNonzeroScalar_ne_zero _ (env.ristretto.smul_basepoint_eq_zero.mp h)

/-- The evaluator's column is the mask of the label its bit chooses. -/
theorem selectLabel_unmask {column bits : List UInt8} (hlength : column.length = bits.length)
    (pad : List UInt8 → Bytes 16) (pair : Bytes 16 × Bytes 16) (choice : Bool) :
    (selectLabel (pair.1.xor (pad (conditionalXor column bits choice)))
      (pair.2.xor (pad (xorBytes (conditionalXor column bits choice) bits))) choice).xor
        (pad column) = selectLabel pair.1 pair.2 choice := by
  cases choice with
  | false => exact Bytes.xor_xor_right ..
  | true =>
    change (pair.2.xor (pad (xorBytes (xorBytes column bits) bits))).xor (pad column) = pair.2
    rw [xorBytes_xorBytes_right hlength, Bytes.xor_xor_right]

/-- The payload of each pair that its choice bit selects. -/
def chosenPayloads (choices : ReceiverChoices family)
    (payloads : SenderPayloads family) : List (Bytes 16) :=
  payloads.pairs.mapIdx fun i pair => selectLabel pair.1 pair.2 (packedBit choices.bytes i)

theorem chosenPayloads_eq (choices : ReceiverChoices family)
    (payloads : SenderPayloads family) (d : Bytes 16 × Bytes 16) :
    chosenPayloads choices payloads = (List.range family.otCount).map fun i =>
      selectLabel (payloads.pairs.getD i d).1 (payloads.pairs.getD i d).2
        (packedBit choices.bytes i) := by
  refine List.ext_getElem (by simp [chosenPayloads, payloads.length_pairs]) fun i hi _ => ?_
  have hlt : i < payloads.pairs.length := by simpa [chosenPayloads] using hi
  simp only [chosenPayloads, List.getElem_mapIdx, List.getElem_map, List.getElem_range,
    List.getD_eq_getElem _ _ hlt]

theorem length_correction (env : OtEnvironment q G)
    (state : ReceiverAwaitBaseChoices q family) (response : G) (rowIndex : ℕ)
    (choices : ReceiverChoices family) :
    (xorBytes (xorBytes (state.rows env response rowIndex).1 (state.rows env response rowIndex).2)
      choices.bytes).length = family.rowBytes := by
  have hzero : (state.rows env response rowIndex).1.length = family.rowBytes :=
    length_expandRow ..
  have hone : (state.rows env response rowIndex).2.length = family.rowBytes :=
    length_expandRow ..
  rw [length_xorBytes, length_xorBytes, hzero, hone, choices.length_bytes, min_self, min_self]

section Roles

variable [DecidableEq G] (env) {family : OtFamily} (session : OtSessionId)
  (choices : ReceiverChoices family) (payloads : SenderPayloads family)
  (receiverRandom senderRandom : ℕ → Bytes 64) (baseChoices : Bytes 16)

theorem senderBegin_answers_ne_zero [Fact q.Prime] (offer : BaseOffer G) :
    ∀ point ∈ (senderBegin env offer payloads baseChoices senderRandom).2.points, point ≠ 0 := by
  intro point hpoint
  obtain ⟨rowIndex, -, rfl⟩ := List.mem_map.mp hpoint
  exact fun h => repairResponse_good _ (Or.inl h)

variable {rowIndex : ℕ}

/-- The seed the garbler derives is the evaluator's seed of the branch its bit chooses. -/
theorem expandRow_chosenSeeds (hrow : rowIndex < securityParameter) :
    let receiver := receiverBegin env session choices receiverRandom
    let sender := senderBegin env receiver.2 payloads baseChoices senderRandom
    let rows := receiver.1.rows env (sender.2.points.getD rowIndex 0) rowIndex
    expandRow env family (sender.1.chosenSeeds rowIndex) rowIndex =
      if packedBit baseChoices.toList rowIndex then rows.2 else rows.1 := by
  simp only [receiverBegin, senderBegin, ReceiverAwaitBaseChoices.rows, getD_map_range _ hrow]
  have hexplains := baseReceiverResponse_explains env
    (randomNonzeroScalar q (receiverRandom rowIndex) • env.ristretto.basepoint)
    (randomNonzeroScalar q (senderRandom rowIndex)) (packedBit baseChoices.toList rowIndex)
  generalize baseReceiverResponse env _ _ _ = answer at hexplains ⊢
  cases hbit : packedBit baseChoices.toList rowIndex with
  | false =>
    rw [hbit, if_neg Bool.false_ne_true, add_zero] at hexplains
    rw [hexplains, smul_comm, if_neg Bool.false_ne_true]
  | true =>
    rw [hbit, if_pos rfl] at hexplains
    rw [hexplains, add_sub_cancel_right, smul_comm, if_pos rfl]

/-- The two expanded rows of a base transfer between the two roles. -/
abbrev transferRows (rowIndex : ℕ) : List UInt8 × List UInt8 :=
  (receiverBegin env session choices receiverRandom).1.rows env
    ((senderBegin env (receiverBegin env session choices receiverRandom).2 payloads baseChoices
      senderRandom).2.points.getD rowIndex 0) rowIndex

/-- The evaluator's matrix and the garbler's differ by the choices in the rows of the set
base choices. -/
theorem senderRow_eq (hrow : rowIndex < securityParameter) :
    let rows := transferRows env session choices payloads receiverRandom senderRandom baseChoices
    let sender := senderBegin env (receiverBegin env session choices receiverRandom).2 payloads
      baseChoices senderRandom
    conditionalXor (expandRow env family (sender.1.chosenSeeds rowIndex) rowIndex)
      (matrixRow family (matrixOf fun r => xorBytes (xorBytes (rows r).1 (rows r).2)
        choices.bytes) rowIndex) (packedBit baseChoices.toList rowIndex) =
      conditionalXor (rows rowIndex).1 choices.bytes (packedBit baseChoices.toList rowIndex) := by
  intro rows sender
  have hzero : ∀ r, (rows r).1.length = family.rowBytes := fun r => length_expandRow ..
  have hone : ∀ r, (rows r).2.length = family.rowBytes := fun r => length_expandRow ..
  rw [matrixRow_matrixOf (fun r => length_correction env _ _ r choices) hrow,
    expandRow_chosenSeeds _ _ _ _ _ _ _ hrow]
  cases packedBit baseChoices.toList rowIndex with
  | false => rfl
  | true =>
    exact xorBytes_correction ((hone _).trans (hzero _).symm)
      (choices.length_bytes.trans (hzero _).symm)

theorem receiverAccept_eq :
    let rows := transferRows env session choices payloads receiverRandom senderRandom baseChoices
    let receiver := receiverBegin env session choices receiverRandom
    receiver.1.accept env (senderBegin env receiver.2 payloads baseChoices senderRandom).2 =
      .ok (⟨session, choices, matrixOf fun r => (rows r).1⟩,
        ⟨session, matrixOf fun r => xorBytes (xorBytes (rows r).1 (rows r).2) choices.bytes⟩) := by
  intro rows receiver
  have hsession : (senderBegin env receiver.2 payloads baseChoices senderRandom).2.session =
      receiver.1.session := rfl
  rw [ReceiverAwaitBaseChoices.accept, ensure_of hsession, ok_bind]
  dsimp only
  rw [List.map_map, List.map_map]
  rfl

/-- The last two flights: the evaluator opens the chosen label of every pair. -/
theorem maskedPayloads_accept :
    let rows := transferRows env session choices payloads receiverRandom senderRandom baseChoices
    let sender := senderBegin env (receiverBegin env session choices receiverRandom).2 payloads
      baseChoices senderRandom
    ∃ masked : MaskedPayloads, sender.1.accept env ⟨session, matrixOf fun r =>
        xorBytes (xorBytes (rows r).1 (rows r).2) choices.bytes⟩ = .ok masked ∧
      masked.bytes.length = family.otCount * (2 * labelBytes) ∧
      ReceiverAwaitMaskedPayloads.accept env ⟨session, choices, matrixOf fun r => (rows r).1⟩
        masked = .ok (chosenPayloads choices payloads) := by
  intro rows sender
  let senderRows := fun r => conditionalXor (rows r).1 choices.bytes
    (packedBit baseChoices.toList r)
  let d := (Bytes.zeros 16, Bytes.zeros 16)
  let pad := fun i => deriveLabelPad env family session i
  let column := fun i => matrixColumn family (matrixOf senderRows) i
  let zero := fun i => (payloads.pairs.getD i d).1.xor (pad i (column i))
  let one := fun i => (payloads.pairs.getD i d).2.xor (pad i (xorBytes (column i)
    baseChoices.toList))
  have hzero : ∀ r, (rows r).1.length = family.rowBytes := fun r => length_expandRow ..
  have hsender : ∀ r, (senderRows r).length = family.rowBytes := by
    intro r
    simp only [senderRows, conditionalXor]
    split_ifs
    · rw [length_xorBytes, hzero, choices.length_bytes, min_self]
    · exact hzero r
  have hcolumn : ∀ i < family.otCount, column i = conditionalXor
      (matrixColumn family (matrixOf fun r => (rows r).1) i) baseChoices.toList
        (packedBit choices.bytes i) :=
    fun i hi => matrixColumn_conditionalXor hzero choices.length_bytes (fun _ _ => rfl) hsender hi
  refine ⟨⟨session, ((List.range family.otCount).map fun i =>
    (zero i).toList ++ (one i).toList).flatten⟩, ?_, ?_, ?_⟩
  · have hmatrix : ((List.range securityParameter).map fun rowIndex =>
        conditionalXor (expandRow env family (sender.1.chosenSeeds rowIndex) rowIndex)
          (matrixRow family (matrixOf fun r => xorBytes (xorBytes (rows r).1 (rows r).2)
            choices.bytes) rowIndex)
          (packedBit sender.1.baseChoices.toList rowIndex)) =
        (List.range securityParameter).map senderRows :=
      List.map_congr_left fun r hr => senderRow_eq _ _ _ _ _ _ _ (List.mem_range.mp hr)
    rw [SenderAwaitExtension.accept, ensure_of (show session = sender.1.session from rfl), ok_bind]
    dsimp only
    rw [hmatrix]
    rfl
  · rw [length_flatten_map (length_pair zero one), List.length_range]
    rfl
  · rw [ReceiverAwaitMaskedPayloads.accept, ensure_of rfl, ok_bind, chosenPayloads_eq _ _ d]
    refine congrArg Except.ok (List.map_congr_left fun i hi => ?_)
    obtain ⟨hfirst, hsecond⟩ := maskedLabel_flatten zero one (List.mem_range.mp hi)
    have hwidth : (matrixColumn family (matrixOf fun r => (rows r).1) i).length =
        baseChoices.toList.length := by
      rw [length_matrixColumn, List.Vector.toList_length]
    have hunmask := selectLabel_unmask hwidth (pad i) (payloads.pairs.getD i d)
      (packedBit choices.bytes i)
    rw [← hcolumn i (List.mem_range.mp hi)] at hunmask
    dsimp only [labelBytes]
    rw [hfirst, hsecond]
    exact hunmask

end Roles

/-- The four flights pass the decoders of the two roles and the evaluator obtains the
payload its bit chooses from every pair, whatever the two roles draw. Every answer of a
base transfer is neither the identity nor the offered point. -/
theorem oblivious_transfer_delivers [Fact q.Prime] [DecidableEq G] (env : OtEnvironment q G)
    (family : OtFamily) (session : OtSessionId) (choices : ReceiverChoices family)
    (payloads : SenderPayloads family) (receiverRandom senderRandom : ℕ → Bytes 64)
    (baseChoices : Bytes 16) :
    runTransfer env session choices payloads receiverRandom senderRandom baseChoices =
        .ok (chosenPayloads choices payloads) ∧
      ∀ offer : G, offer ≠ 0 → ∀ (scalar : ZMod q) (choice : Bool),
        (baseReceiverResponse env offer scalar choice).2 ≠ 0 ∧
          (baseReceiverResponse env offer scalar choice).2 ≠ offer := by
  refine ⟨?_, fun offer _ scalar choice => not_or.mp (repairResponse_good _)⟩
  let receiver := receiverBegin env session choices receiverRandom
  let sender := senderBegin env receiver.2 payloads baseChoices senderRandom
  have hoffer : BaseOffer.decodeForSession env family (receiver.2.encode env family) session =
      .ok receiver.2 :=
    decodePointsFlightForSession_encode receiver.2 (by simp [receiver, receiverBegin])
      (receiverBegin_offer_ne_zero session choices receiverRandom)
  have hanswers : BaseChoices.decodeForSession env family (sender.2.encode env family) session =
      .ok sender.2 :=
    decodePointsFlightForSession_encode sender.2 (by simp [sender, senderBegin])
      (senderBegin_answers_ne_zero env payloads senderRandom baseChoices receiver.2)
  obtain ⟨masked, hmasked, hlength, hopened⟩ := maskedPayloads_accept env session choices
    payloads receiverRandom senderRandom baseChoices
  have hextension : ∀ matrix : ExtensionMatrix,
      matrix.bytes.length = securityParameter * family.rowBytes →
        ExtensionMatrix.decode family (matrix.encode family) = .ok matrix :=
    fun matrix h => decodeBytesFlight_encode h
  have hpayloads : MaskedPayloads.decode family (masked.encode family) = .ok masked :=
    decodeBytesFlight_encode hlength
  have haccept := receiverAccept_eq env session choices payloads receiverRandom
    senderRandom baseChoices
  dsimp only at haccept hmasked
  rw [runTransfer]
  dsimp only
  rw [hoffer, ok_bind, hanswers, ok_bind, haccept, ok_bind]
  dsimp only
  rw [hextension, ok_bind, hmasked, ok_bind, hpayloads, ok_bind]
  · exact hopened
  · dsimp only
    apply length_matrixOf
    exact fun r => length_correction env receiver.1 _ r choices

/-- The additive group of the integers modulo 65537, with a hash that keeps the last 32
bytes and a cipher that adds the key. -/
def additiveTransfer : OtEnvironment 65537 (ZMod 65537) where
  ristretto := additiveRistretto
  sha256 bytes := toBigEndian 32 (ofBigEndian bytes)
  aes128 key block := key.xor block

/-- Every second label of 256 pairs is chosen. -/
theorem oblivious_transfer_delivers_alternating :
    let session : OtSessionId := ⟨toBigEndian 32 1, by decide⟩
    let choices : ReceiverChoices .mlDsaSeed := ⟨List.replicate 32 0xAA, List.length_replicate⟩
    let payloads : SenderPayloads .mlDsaSeed :=
      ⟨List.replicate 256 (toBigEndian 16 1, toBigEndian 16 2), List.length_replicate⟩
    runTransfer additiveTransfer session choices payloads (toBigEndian 64) (toBigEndian 64)
        (toBigEndian 16 5) = .ok (chosenPayloads choices payloads) ∧
      (chosenPayloads choices payloads).take 2 = [toBigEndian 16 1, toBigEndian 16 2] :=
  ⟨(oblivious_transfer_delivers additiveTransfer .mlDsaSeed _ _ _ _ _ _).1, by decide +kernel⟩

/-- The garbler's points do not tell its base choices: whatever was offered, with any others it
can send the same points. -/
theorem base_choices_hidden [Fact q.Prime] [DecidableEq G] (env : OtEnvironment q G)
    (hbase : ∀ point : G, ∃ scalar : ZMod q, scalar • env.ristretto.basepoint = point)
    {family : OtFamily} (offer : BaseOffer G) (payloads : SenderPayloads family)
    (baseChoices baseChoices' : Bytes 16) (random : ℕ → Bytes 64) :
    ∃ random', (senderBegin env offer payloads baseChoices' random').2 =
      (senderBegin env offer payloads baseChoices random).2 := by
  let answer := fun rowIndex => (baseReceiverResponse env (offer.points.getD rowIndex 0)
    (randomNonzeroScalar q (random rowIndex)) (packedBit baseChoices.toList rowIndex)).2
  have hgood : ∀ rowIndex, ¬ (answer rowIndex = 0 ∨ _) := fun _ => repairResponse_good _
  choose random' hrandom using fun rowIndex =>
    exists_baseReceiverResponse hbase (hgood rowIndex) (packedBit baseChoices'.toList rowIndex)
  exact ⟨random', by simp only [senderBegin, hrandom, answer]⟩

theorem base_choices_hidden_additive :
    let send := senderBegin additiveTransfer ⟨⟨toBigEndian 32 1, by decide⟩, [1]⟩
      (⟨List.replicate 256 default, List.length_replicate⟩ : SenderPayloads .mlDsaSeed)
    ∃ random, (send (toBigEndian 16 5) random).2 = (send (Bytes.zeros 16) (toBigEndian 64)).2 :=
  base_choices_hidden additiveTransfer (fun s => ⟨s, mul_one s⟩) _ _ _ _ _

end SeamsWallet.YaoTransfer
