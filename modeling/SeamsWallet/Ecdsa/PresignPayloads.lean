import SeamsWallet.Ecdsa.PresignCompact

/-!
# The payloads of the presign rounds

For each round: a message is written exactly if it is consistent, what is written is read
back as the message, and what is read is, up to the form of its points, what the message is
written as.
-/

namespace SeamsWallet.PresignCodec

open Library EcdsaPresign PresignSession Reader CiphertextMessage

/-- The exactness of a payload writer and reader. `consistent` says which messages can be
written, `payload` what they are written as, and `tags` marks the point tags. -/
structure PayloadExact {Message : Type} (write : Message → Except PresignCodecError (List UInt8))
    (read : Reader PresignCodecError Message) (consistent : Message → Prop)
    (payload : Message → List UInt8) (tags : List Bool) : Prop where
  write_eq_ok : ∀ {message out}, write message = .ok out ↔
    consistent message ∧ payload message = out
  read_payload : ∀ {message}, consistent message → ∀ rest,
    read.run (payload message ++ rest) = .ok (message, rest)
  read_eq_ok : ∀ {bytes message rest}, read.run bytes = .ok (message, rest) →
    consistent message ∧ ∃ raw, bytes = raw ++ rest ∧ Normalizes tags raw (payload message)

/-- A payload without points is read as it is written. -/
theorem PayloadExact.of_plain {Message : Type}
    {write : Message → Except PresignCodecError (List UInt8)}
    {read : Reader PresignCodecError Message} {consistent : Message → Prop}
    {payload : Message → List UInt8} {tags : List Bool}
    (hwrite : ∀ {message out}, write message = .ok out ↔ consistent message ∧ payload message = out)
    (hread : ∀ {bytes message rest}, read.run bytes = .ok (message, rest) ↔
      consistent message ∧ bytes = payload message ++ rest)
    (htags : ∀ message, Normalizes tags (payload message) (payload message)) :
    PayloadExact write read consistent payload tags where
  write_eq_ok := hwrite
  read_payload hmessage _ := hread.mpr ⟨hmessage, rfl⟩
  read_eq_ok h := by
    obtain ⟨hmessage, rfl⟩ := hread.mp h
    exact ⟨hmessage, _, rfl, htags _⟩

/-! ## Fields -/

section Fields

variable {bytes rest : List UInt8}

theorem run_take {width : ℕ} {taken : Bytes width} :
    (take width).run bytes = .ok (taken, rest) ↔ bytes = taken.toList ++ rest :=
  run_take_eq_ok

theorem run_readPoint {point : Bytes 33} :
    readPoint.run bytes = .ok (point, rest) ↔ bytes = point.toList ++ rest :=
  run_take_eq_ok

theorem run_readScalar {scalar : Bytes 32} :
    readScalar.run bytes = .ok (scalar, rest) ↔ bytes = scalar.toList ++ rest :=
  run_take_eq_ok

theorem run_parsed {α : Type} {x : Except PresignError α} {a : α} :
    (parsed x).run bytes = .ok (a, rest) ↔ x = .ok a ∧ bytes = rest := by
  rw [parsed, run_lift_eq_ok, mapError_eq_ok]

variable {context : PresignPairContext}

theorem run_readContext :
    readContext.run bytes = .ok (context, rest) ↔ bytes = writeContext context ++ rest := by
  obtain ⟨scope, pair⟩ := context
  simp only [readContext, run_bind_eq_ok, run_pure_eq_ok, run_take]
  simp [writeContext]

theorem run_readScalarPair {pair : Bytes 32 × Bytes 32} :
    readScalarPair.run bytes = .ok (pair, rest) ↔ bytes = writeScalarPair pair ++ rest := by
  obtain ⟨first, second⟩ := pair
  simp only [readScalarPair, run_bind_eq_ok, run_pure_eq_ok, run_take]
  simp [writeScalarPair]

theorem normalizes_writeContext (context : PresignPairContext) :
    Normalizes (plain contextSize) (writeContext context) (writeContext context) := by
  have h := normalizes_plain (writeContext context)
  rwa [show (writeContext context).length = contextSize by simp [writeContext, contextSize]] at h

theorem normalizes_writeScalarPair (pair : Bytes 32 × Bytes 32) :
    Normalizes (plain 64) (writeScalarPair pair) (writeScalarPair pair) := by
  have h := normalizes_plain (writeScalarPair pair)
  rwa [show (writeScalarPair pair).length = 64 by simp [writeScalarPair]] at h

variable {actualIndex expectedIndex : TripleIndex}

theorem ensureBinding_eq_ok {actualContext expectedContext : PresignPairContext} :
    ensureBinding actualContext expectedContext actualIndex expectedIndex = .ok () ↔
      actualContext = expectedContext ∧ actualIndex = expectedIndex :=
  ensure_eq_ok

/-- The check of a message that carries one context and one index. -/
theorem bound_eq_ok {payload out : List UInt8} : (do
      ensureBinding context context actualIndex expectedIndex
      return payload) = .ok out ↔ actualIndex = expectedIndex ∧ payload = out := by
  simp only [ok_iff, ensureBinding_eq_ok, true_and]

end Fields

section Scalars

variable {n : ℕ} [NeZero n]

theorem parseScalar_eq_ok (hn : n ≤ 256 ^ 32) {bytes : Bytes 32} {scalar : ZMod n} :
    parseScalar n bytes = .ok scalar ↔ K256.scalarBytes scalar = bytes := by
  rw [parseScalar, okOr_eq_ok, K256.scalarFromRepr_eq_some hn]

theorem parseScalarPair_eq_ok (hn : n ≤ 256 ^ 32) {bytes : Bytes 32 × Bytes 32}
    {pair : ZMod n × ZMod n} :
    parseScalarPair n bytes = .ok pair ↔ scalarPairBytes pair = bytes := by
  simp only [parseScalarPair, ok_iff, parseScalar_eq_ok hn]
  constructor
  · rintro ⟨first, hfirst, second, hsecond, rfl⟩
    rw [scalarPairBytes, hfirst, hsecond]
  · rintro rfl
    exact ⟨pair.1, rfl, pair.2, rfl, rfl⟩

end Scalars

section Rounds

variable {n : ℕ} {P : Type} [AddCommGroup P] [Module (ZMod n) P] [DecidableEq P] {K : K256 n P}

theorem normalizes_point (hSec1 : K.Sec1) {bytes : Bytes 33} {point : NonidentityPoint P}
    (h : parsePoint K bytes = .ok point) :
    Normalizes pointTag bytes.toList (pointBytes K point).toList := by
  rw [pointBytes, pointBytes_of_fromEncodedPoint hSec1 point.2 ((parsePoint_eq_ok K).mp h)]
  exact normalizes_normalizePoint bytes

/-! ## Round one -/

structure Round1Message.Consistent (helloIndex : TripleIndex) (message : Round1Message P) :
    Prop where
  zero_index : message.commitments.1.tripleIndex = .zero
  one_context : message.commitments.2.context = message.commitments.1.context
  one_index : message.commitments.2.tripleIndex = .one
  hello_context : message.baseHello.context = message.commitments.1.context
  hello_index : message.baseHello.tripleIndex = helloIndex

def Round1Message.payload (K : K256 n P) (message : Round1Message P) : List UInt8 :=
  writeContext message.commitments.1.context ++ (message.commitments.1.digest.toList ++
    (message.commitments.2.digest.toList ++ (pointBytes K message.baseHello.publicY).toList))

def round1Tags : List Bool := plain contextSize ++ (plain 32 ++ (plain 32 ++ pointTag))

theorem round1_exact (hSec1 : K.Sec1) (helloIndex : TripleIndex) :
    PayloadExact (writeRound1 K helloIndex) (readRound1 K helloIndex)
      (Round1Message.Consistent helloIndex) (Round1Message.payload K) round1Tags where
  write_eq_ok := by
    intro message out
    simp only [writeRound1, ok_iff, ensureBinding_eq_ok]
    constructor
    · rintro ⟨⟨h1, h2⟩, ⟨-, h3⟩, ⟨h4, h5⟩, rfl⟩
      exact ⟨⟨h3, h1, h2, h4, h5⟩, rfl⟩
    · rintro ⟨⟨h3, h1, h2, h4, h5⟩, rfl⟩
      exact ⟨⟨h1, h2⟩, ⟨trivial, h3⟩, ⟨h4, h5⟩, rfl⟩
  read_payload := by
    rintro ⟨⟨⟨context, _, zero⟩, ⟨_, _, one⟩⟩, ⟨_, _, publicY⟩⟩ ⟨hzero, hone, hone', hhello,
      hhello'⟩
      rest
    cases hzero; cases hone; cases hone'; cases hhello; cases hhello'
    simp only [readRound1, Round1Message.payload, SenderHello.fromParts, run_bind_eq_ok,
      run_pure_eq_ok, run_readContext, run_take, run_readPoint, run_parsed, ok_iff,
      List.append_assoc]
    exact ⟨_, _, rfl, _, _, rfl, _, _, rfl, _, _, rfl, _, _,
      ⟨⟨_, parsePoint_pointBytes K publicY, rfl⟩, rfl⟩, rfl, rfl⟩
  read_eq_ok := by
    intro bytes message rest h
    simp only [readRound1, SenderHello.fromParts, run_bind_eq_ok, run_pure_eq_ok, run_readContext,
      run_take, run_readPoint, run_parsed, ok_iff] at h
    obtain ⟨context, _, rfl, zero, _, rfl, one, _, rfl, point, _, rfl, hello, _,
      ⟨⟨publicY, hpoint, rfl⟩, rfl⟩, rfl, rfl⟩ := h
    refine ⟨⟨rfl, rfl, rfl, rfl, rfl⟩, writeContext context ++ (zero.toList ++ (one.toList ++
      point.toList)), by simp only [List.append_assoc], ?_⟩
    exact (normalizes_writeContext context).append ((normalizes_bytes zero).append
      ((normalizes_bytes one).append (normalizes_point hSec1 hpoint)))

/-! ## Round two -/

def DecodedOpening.bytes (parts : DecodedOpening) : List UInt8 :=
  parts.bigEConstant.toList ++ (parts.bigESlope.toList ++ (parts.bigFConstant.toList ++
    (parts.bigFSlope.toList ++ (parts.bigLConstant.toList ++ parts.randomizer.toList))))

def PolynomialOpeningMessage.parts (K : K256 n P) (opening : PolynomialOpeningMessage P) :
    DecodedOpening where
  bigEConstant := pointBytes K opening.publicSet.bigE.constant
  bigESlope := pointBytes K opening.publicSet.bigE.slope
  bigFConstant := pointBytes K opening.publicSet.bigF.constant
  bigFSlope := pointBytes K opening.publicSet.bigF.slope
  bigLConstant := pointBytes K opening.publicSet.bigLConstant
  randomizer := opening.randomizer

def openingTags : List Bool :=
  pointTag ++ (pointTag ++ (pointTag ++ (pointTag ++ (pointTag ++ plain 32))))

variable {parts : DecodedOpening}

theorem run_readOpeningParts {bytes rest : List UInt8} :
    readOpeningParts.run bytes = .ok (parts, rest) ↔ bytes = parts.bytes ++ rest := by
  cases parts
  simp only [readOpeningParts, run_bind_eq_ok, run_pure_eq_ok, run_take, run_readPoint]
  simp [DecodedOpening.bytes]

variable {opening : PolynomialOpeningMessage P} {index : TripleIndex} {out : List UInt8}

theorem message_parts (opening : PolynomialOpeningMessage P) :
    (opening.parts K).message K opening.context opening.tripleIndex = .ok opening := by
  simp only [DecodedOpening.message, PolynomialOpeningMessage.parts,
    PolynomialOpeningMessage.fromParts, PublicPolynomialSet.fromParts, parsePoint_pointBytes]
  rfl

variable {context : PresignPairContext}

theorem normalizes_opening (hSec1 : K.Sec1) (h : parts.message K context index = .ok opening) :
    (opening.context = context ∧ opening.tripleIndex = index) ∧
      Normalizes openingTags parts.bytes (opening.parts K).bytes := by
  simp only [DecodedOpening.message, PolynomialOpeningMessage.fromParts,
    PublicPolynomialSet.fromParts, ok_iff] at h
  obtain ⟨_, ⟨_, h1, _, h2, _, h3, _, h4, _, h5, rfl⟩, rfl⟩ := h
  refine ⟨⟨rfl, rfl⟩, ?_⟩
  exact (normalizes_point hSec1 h1).append ((normalizes_point hSec1 h2).append
    ((normalizes_point hSec1 h3).append ((normalizes_point hSec1 h4).append
    ((normalizes_point hSec1 h5).append (normalizes_bytes parts.randomizer)))))

def PrivatePolynomialShareMessage.bytes (share : PrivatePolynomialShareMessage n) : List UInt8 :=
  writeScalarPair (scalarPairBytes (share.share.e, share.share.f))

variable {share : PrivatePolynomialShareMessage n} {bytes rest : List UInt8}

theorem run_readPrivateShare [NeZero n] (hn : n ≤ 256 ^ 32) :
    (readPrivateShare n context index).run bytes = .ok (share, rest) ↔
      (share.context = context ∧ share.tripleIndex = index) ∧ bytes = share.bytes ++ rest := by
  obtain ⟨_, _, _, _⟩ := share
  simp only [readPrivateShare, PrivatePolynomialShareMessage.fromParts, run_bind_eq_ok,
    run_readScalar, run_parsed, ok_iff, parseScalar_eq_ok hn]
  simp [PrivatePolynomialShareMessage.bytes, writeScalarPair, scalarPairBytes, and_comm, eq_comm]

structure Round2Message.Consistent (choicesIndex : TripleIndex) (message : Round2Message n P) :
    Prop where
  opening_zero : message.openings.1.tripleIndex = .zero
  opening_one : message.openings.2.context = message.openings.1.context ∧
    message.openings.2.tripleIndex = .one
  share_zero : message.privateShares.1.context = message.openings.1.context ∧
    message.privateShares.1.tripleIndex = .zero
  share_one : message.privateShares.2.context = message.openings.1.context ∧
    message.privateShares.2.tripleIndex = .one
  choices : message.baseChoices.context = message.openings.1.context ∧
    message.baseChoices.tripleIndex = choicesIndex

def Round2Message.payload (K : K256 n P) (message : Round2Message n P) : List UInt8 :=
  writeContext message.openings.1.context ++ ((message.openings.1.parts K).bytes ++
    ((message.openings.2.parts K).bytes ++ (message.privateShares.1.bytes ++
    (message.privateShares.2.bytes ++
      message.baseChoices.publicX.toList.flatMap fun point => (pointBytes K point).toList))))

def round2Tags : List Bool :=
  plain contextSize ++ (openingTags ++ (openingTags ++ (plain 64 ++ (plain 64 ++
    repeated 128 pointTag))))

variable {count : ℕ}

theorem run_readPoints {points : List.Vector (Bytes 33) count} :
    (many readPoint count).run bytes = .ok (points, rest) ↔
      bytes = points.toList.flatMap List.Vector.toList ++ rest :=
  run_many_eq_ok fun _ _ _ => run_readPoint

variable {α : Type}

theorem flatMap_map_toList {width : ℕ} (f : α → Bytes width) (values : List.Vector α count) :
    (values.map f).toList.flatMap List.Vector.toList =
      values.toList.flatMap fun value => (f value).toList := by
  rw [List.Vector.toList_map, List.flatMap_map]

theorem round2_exact [NeZero n] (hSec1 : K.Sec1) (choicesIndex : TripleIndex) :
    PayloadExact (writeRound2 K choicesIndex) (readRound2 K choicesIndex)
      (Round2Message.Consistent choicesIndex) (Round2Message.payload K) round2Tags where
  write_eq_ok := by
    intro message out
    simp only [writeRound2, writeOpening, writePrivateShare, ok_iff, ensureBinding_eq_ok]
    constructor
    · rintro ⟨_, ⟨⟨-, h1⟩, rfl⟩, _, ⟨h2, rfl⟩, _, ⟨h3, rfl⟩, _, ⟨h4, rfl⟩, h5, rfl⟩
      exact ⟨⟨h1, h2, h3, h4, h5⟩, rfl⟩
    · rintro ⟨⟨h1, h2, h3, h4, h5⟩, rfl⟩
      exact ⟨_, ⟨⟨trivial, h1⟩, rfl⟩, _, ⟨h2, rfl⟩, _, ⟨h3, rfl⟩, _, ⟨h4, rfl⟩, h5, rfl⟩
  read_payload := by
    rintro ⟨⟨zero, one⟩, ⟨shareZero, shareOne⟩, ⟨context, index, points⟩⟩ ⟨h1, h2, h3, h4, h5⟩ rest
    have hzero := message_parts (K := K) zero
    have hone := message_parts (K := K) one
    have hpoints : (points.map (pointBytes K)).mmap (parsePoint K) = .ok points :=
      mmap_eq_ok.mpr fun i => by rw [List.Vector.get_map, parsePoint_pointBytes]
    rw [show zero.tripleIndex = .zero from h1] at hzero
    rw [show one.context = zero.context from h2.1, show one.tripleIndex = .one from h2.2] at hone
    obtain ⟨rfl, rfl⟩ : context = zero.context ∧ index = choicesIndex := h5
    simp only [readRound2, Round2Message.payload, ReceiverChoices.fromParts, run_bind_eq_ok,
      run_pure_eq_ok, run_readContext, run_readOpeningParts, run_readPrivateShare K.order_le,
      run_readPoints, run_parsed, ok_iff, List.append_assoc, ← flatMap_map_toList (pointBytes K)]
    exact ⟨_, _, rfl, _, _, rfl, _, _, rfl, _, _, ⟨hzero, rfl⟩, _, _, ⟨hone, rfl⟩, _, _, ⟨h3, rfl⟩,
      _, _, ⟨h4, rfl⟩, _, _, rfl, _, _, ⟨⟨_, hpoints, rfl⟩, rfl⟩, rfl, rfl⟩
  read_eq_ok := by
    intro bytes message rest h
    simp only [readRound2, ReceiverChoices.fromParts, run_bind_eq_ok, run_pure_eq_ok,
      run_readContext, run_readOpeningParts, run_readPrivateShare K.order_le, run_readPoints,
      run_parsed, ok_iff, mmap_eq_ok] at h
    obtain ⟨context, _, rfl, zero, _, rfl, one, _, rfl, openingZero, _, ⟨hzero, rfl⟩, openingOne, _,
      ⟨hone, rfl⟩, shareZero, _, ⟨hshareZero, rfl⟩, shareOne, _, ⟨hshareOne, rfl⟩, raw, _, rfl,
      choices, _, ⟨⟨points, hpoints, rfl⟩, rfl⟩, rfl, rfl⟩ := h
    obtain ⟨⟨rfl, hzero'⟩, hzeroBytes⟩ := normalizes_opening hSec1 hzero
    obtain ⟨hone', honeBytes⟩ := normalizes_opening hSec1 hone
    refine ⟨⟨hzero', hone', hshareZero, hshareOne, rfl, rfl⟩, writeContext openingZero.context ++
      (zero.bytes ++ (one.bytes ++ (shareZero.bytes ++ (shareOne.bytes ++
        raw.toList.flatMap List.Vector.toList)))), by simp only [List.append_assoc], ?_⟩
    exact (normalizes_writeContext _).append (hzeroBytes.append (honeBytes.append
      ((normalizes_writeScalarPair _).append ((normalizes_writeScalarPair _).append
        (Normalizes.flatMap fun i => normalizes_point hSec1 (hpoints i))))))

/-! ## Rounds three to six -/

def CorrelationMessage.payload (message : CorrelationMessage) : List UInt8 :=
  writeContext message.context ++ message.matrix.toBytes.toList

def round3Tags : List Bool := plain contextSize ++ plain (1024 * 16)

theorem round3_exact (index : TripleIndex) : PayloadExact (writeRound3 index) (readRound3 index)
      (fun message => message.tripleIndex = index) CorrelationMessage.payload round3Tags := by
  refine .of_plain bound_eq_ok (fun {bytes message rest} => ?_) fun message =>
    (normalizes_writeContext _).append (normalizes_bytes message.matrix.toBytes)
  simp only [readRound3, CorrelationMessage.payload, run_bind_eq_ok, run_pure_eq_ok,
    run_readContext, run_take, List.append_assoc]
  constructor
  · rintro ⟨context, _, rfl, matrix, _, rfl, rfl, rfl⟩
    exact ⟨rfl, by rw [SecretMatrix.toBytes_fromBytes]⟩
  · rintro ⟨rfl, rfl⟩
    exact ⟨_, _, rfl, _, _, rfl, by rw [SecretMatrix.fromBytes_toBytes], rfl⟩

structure DigestParts.Lawful {Message : Type} (parts : DigestParts Message) : Prop where
  intoParts_fromParts : ∀ context index digest,
    parts.intoParts (parts.fromParts context index digest) = (context, index, digest)
  fromParts_intoParts : ∀ message, parts.fromParts (parts.intoParts message).1
    (parts.intoParts message).2.1 (parts.intoParts message).2.2 = message

theorem challengeParts_lawful : challengeParts.Lawful := ⟨fun _ _ _ => rfl, fun _ => rfl⟩

theorem acceptanceParts_lawful : acceptanceParts.Lawful := ⟨fun _ _ _ => rfl, fun _ => rfl⟩

def DigestParts.payload {Message : Type} (parts : DigestParts Message) (message : Message) :
    List UInt8 :=
  writeContext (parts.intoParts message).1 ++ (parts.intoParts message).2.2.toList

def contextDigestTags : List Bool := plain contextSize ++ plain 32

theorem contextDigest_exact {Message : Type} {parts : DigestParts Message} (hparts : parts.Lawful)
    (index : TripleIndex) :
    PayloadExact (writeContextDigest parts index) (readContextDigest parts index)
      (fun message => (parts.intoParts message).2.1 = index) parts.payload contextDigestTags := by
  refine .of_plain bound_eq_ok (fun {bytes message rest} => ?_) fun _ =>
    (normalizes_writeContext _).append (normalizes_bytes _)
  simp only [readContextDigest, DigestParts.payload, run_bind_eq_ok, run_pure_eq_ok,
    run_readContext, run_take, List.append_assoc]
  constructor
  · rintro ⟨context, _, rfl, digest, _, rfl, rfl, rfl⟩
    rw [hparts.intoParts_fromParts]
    exact ⟨rfl, rfl⟩
  · rintro ⟨rfl, rfl⟩
    exact ⟨_, _, rfl, _, _, rfl, hparts.fromParts_intoParts message, rfl⟩

def ConsistencyProof.payload (message : ConsistencyProof) : List UInt8 :=
  writeContext message.context ++ (message.smallX.intoBytes.toList ++
    (message.smallT.map DoubleBitRow.intoBytes).toList.flatMap List.Vector.toList)

def round5Tags : List Bool := plain contextSize ++ (plain 32 ++ repeated 128 (plain 32))

theorem DoubleBitRow.fromBytes_intoBytes (row : DoubleBitRow) :
    DoubleBitRow.fromBytes row.intoBytes = row :=
  rowFromBytes_rowIntoBytes row

theorem DoubleBitRow.intoBytes_fromBytes (bytes : Bytes 32) :
    (DoubleBitRow.fromBytes bytes).intoBytes = bytes :=
  @rowIntoBytes_rowFromBytes 4 bytes

theorem round5_exact (index : TripleIndex) : PayloadExact (writeRound5 index) (readRound5 index)
      (fun message => message.tripleIndex = index) ConsistencyProof.payload round5Tags := by
  refine .of_plain bound_eq_ok (fun {bytes message rest} => ?_) fun message =>
    (normalizes_writeContext _).append ((normalizes_bytes _).append
      (Normalizes.flatMap fun _ => normalizes_bytes _))
  simp only [readRound5, ConsistencyProof.payload, run_bind_eq_ok, run_pure_eq_ok,
    run_readContext, run_take, run_many_eq_ok fun _ _ _ => run_take, List.append_assoc]
  constructor
  · rintro ⟨context, _, rfl, smallX, _, rfl, smallT, _, rfl, rfl, rfl⟩
    exact ⟨rfl, by rw [map_map_of_inverse DoubleBitRow.intoBytes_fromBytes,
      DoubleBitRow.intoBytes_fromBytes]⟩
  · rintro ⟨rfl, rfl⟩
    exact ⟨_, _, rfl, _, _, rfl, _, _, rfl, by rw [map_map_of_inverse
      DoubleBitRow.fromBytes_intoBytes, DoubleBitRow.fromBytes_intoBytes], rfl⟩

/-! ## Rounds seven and eight -/

/-- If parsing a value means having its encoding, so does parsing a vector of values. -/
theorem mmap_eq_ok_iff_map {ε β : Type} {parse : α → Except ε β} {encode : β → α}
    (h : ∀ {a b}, parse a = .ok b ↔ encode b = a) {raw : List.Vector α count}
    {values : List.Vector β count} : raw.mmap parse = .ok values ↔ values.map encode = raw := by
  rw [mmap_eq_ok]
  constructor
  · intro hget
    refine List.Vector.ext fun i => ?_
    rw [List.Vector.get_map, h.mp (hget i)]
  · rintro rfl i
    rw [List.Vector.get_map]
    exact h.mpr rfl

variable (message : CiphertextMessage n)

def CiphertextMessage.payload : List UInt8 :=
  writeContext message.context ++ message.values.toList.flatMap fun ciphertexts =>
    ciphertexts.toList.flatMap fun pair => writeScalarPair (scalarPairBytes pair)

def round7Tags : List Bool := plain contextSize ++ repeated 2 (repeated 384 (plain 64))

def CiphertextMessage.encodings : List.Vector (List.Vector (Bytes 32 × Bytes 32) 384) 2 :=
  message.values.map (List.Vector.map scalarPairBytes)

def writeCiphertexts (values : List.Vector (List.Vector (Bytes 32 × Bytes 32) 384) 2) :
    List UInt8 :=
  values.toList.flatMap fun ciphertexts => ciphertexts.toList.flatMap writeScalarPair

theorem CiphertextMessage.payload_eq :
    message.payload = writeContext message.context ++ writeCiphertexts message.encodings := by
  simp only [payload, writeCiphertexts, encodings, List.Vector.toList_map, List.flatMap_map]

theorem run_readCiphertexts {values : List.Vector (List.Vector (Bytes 32 × Bytes 32) 384) 2} :
    (many (many readScalarPair 384) 2).run bytes = .ok (values, rest) ↔
      bytes = writeCiphertexts values ++ rest :=
  run_many_eq_ok fun _ _ _ => run_many_eq_ok fun _ _ _ => run_readScalarPair

theorem ciphertext_fromParts_eq_ok [NeZero n] (hn : n ≤ 256 ^ 32)
    {raw : List.Vector (List.Vector (Bytes 32 × Bytes 32) 384) 2} {message : CiphertextMessage n} :
    fromParts n context index raw = .ok message ↔
      message.context = context ∧ message.tripleIndex = index ∧ message.encodings = raw := by
  simp only [fromParts, ok_iff, mmap_eq_ok_iff_map (mmap_eq_ok_iff_map (parseScalarPair_eq_ok hn))]
  constructor
  · rintro ⟨values, rfl, rfl⟩
    exact ⟨rfl, rfl, rfl⟩
  · rintro ⟨rfl, rfl, rfl⟩
    exact ⟨message.values, rfl, rfl⟩

theorem round7_exact [NeZero n] (hn : n ≤ 256 ^ 32) (index : TripleIndex) :
    PayloadExact (writeRound7 index) (readRound7 n index)
      (fun message => message.tripleIndex = index) payload round7Tags := by
  refine .of_plain bound_eq_ok (fun {bytes message rest} => ?_) fun _ =>
    (normalizes_writeContext _).append (Normalizes.flatMap fun _ =>
      Normalizes.flatMap fun _ => normalizes_writeScalarPair _)
  simp only [readRound7, run_bind_eq_ok, run_readContext, run_readCiphertexts, run_parsed,
    ciphertext_fromParts_eq_ok hn]
  simp [payload_eq, and_comm]

def ResponseMessage.payload (message : ResponseMessage n) : List UInt8 :=
  writeContext message.context ++
    (writeScalarPair (scalarPairBytes message.chiFirst) ++ writeScalarPair message.seeds)

def round8Tags : List Bool := plain contextSize ++ (plain 64 ++ plain 64)

theorem round8_exact [NeZero n] (hn : n ≤ 256 ^ 32) (index : TripleIndex) :
    PayloadExact (writeRound8 index) (readRound8 n index)
      (fun message => message.tripleIndex = index) ResponseMessage.payload round8Tags := by
  refine .of_plain bound_eq_ok (fun {bytes message rest} => ?_) fun _ =>
    (normalizes_writeContext _).append ((normalizes_writeScalarPair _).append
      (normalizes_writeScalarPair _))
  obtain ⟨_, _, ⟨_, _⟩, ⟨_, _⟩⟩ := message
  simp only [readRound8, ResponseMessage.fromParts, run_bind_eq_ok, run_readContext,
    run_readScalarPair, run_parsed, ok_iff, parseScalarPair_eq_ok hn]
  simp [ResponseMessage.payload, and_comm, eq_comm]

/-! ## Round nine -/

def contributionTags : List Bool :=
  pointTag ++ (pointTag ++ (plain 32 ++ (pointTag ++ (plain 32 ++ (pointTag ++ (pointTag ++
    (plain 32 ++ (pointTag ++ (pointTag ++ (plain 32 ++ plain 32))))))))))

variable {parts : TripleContributionParts}

theorem run_readContribution :
    readContribution.run bytes = .ok (parts, rest) ↔ bytes = writeContribution parts ++ rest := by
  cases parts
  simp only [readContribution, run_bind_eq_ok, run_pure_eq_ok, run_readPoint, run_readScalar]
  simp [writeContribution]

theorem parseContribution_contributionIntoParts [NeZero n] (contribution : TripleContribution n P) :
    parseContribution K (contributionIntoParts K contribution) = .ok contribution := by
  have hscalar (scalar : ZMod n) : parseScalar n (K256.scalarBytes scalar) = .ok scalar :=
    (parseScalar_eq_ok K.order_le).mpr rfl
  simp only [parseContribution, contributionIntoParts, DLogProof.fromParts, DLogEqProof.fromParts,
    parsePoint_pointBytes, hscalar]
  rfl

theorem normalizes_contribution [NeZero n] (hSec1 : K.Sec1)
    {contribution : TripleContribution n P} (h : parseContribution K parts = .ok contribution) :
    Normalizes contributionTags (writeContribution parts)
      (writeContribution (contributionIntoParts K contribution)) := by
  simp only [parseContribution, DLogProof.fromParts, DLogEqProof.fromParts, ok_iff,
    parseScalar_eq_ok K.order_le] at h
  obtain ⟨_, ⟨_, he, _, he', rfl⟩, _, ⟨_, hf, _, hf', rfl⟩, _, hc, _,
    ⟨_, hproduct0, _, hproduct1, _, hproduct', rfl⟩, _, hcommitment, _,
    ⟨_, hproof, _, hproof', rfl⟩, _, hevaluation, rfl⟩ := h
  have hplain {scalar : ZMod n} {bytes : Bytes 32} (hbytes : K256.scalarBytes scalar = bytes) :
      Normalizes (plain 32) bytes.toList (K256.scalarBytes scalar).toList := by
    rw [hbytes]
    exact normalizes_bytes bytes
  exact (normalizes_point hSec1 hc).append ((normalizes_point hSec1 he).append
    ((hplain he').append ((normalizes_point hSec1 hf).append ((hplain hf').append
    ((normalizes_point hSec1 hproduct0).append ((normalizes_point hSec1 hproduct1).append
    ((hplain hproduct').append ((normalizes_point hSec1 hcommitment).append
    ((normalizes_point hSec1 hproof).append ((hplain hproof').append
    (hplain hevaluation)))))))))))

def FinalizationMessage.payload (K : K256 n P) (message : FinalizationMessage n P) : List UInt8 :=
  writeContext message.context ++
    (writeContribution (contributionIntoParts K message.contributions.1) ++
      writeContribution (contributionIntoParts K message.contributions.2))

def round9Tags : List Bool := plain contextSize ++ (contributionTags ++ contributionTags)

theorem round9_exact [NeZero n] (hSec1 : K.Sec1) :
    PayloadExact (writeRound9 K) (readRound9 K) (fun _ => True) (FinalizationMessage.payload K)
      round9Tags where
  write_eq_ok := by
    intro message out
    rw [writeRound9, pure_eq_ok, true_and, FinalizationMessage.payload]
  read_payload := by
    rintro ⟨context, zero, one⟩ - rest
    simp only [readRound9, FinalizationMessage.payload, FinalizationMessage.fromParts,
      run_bind_eq_ok, run_readContext, run_readContribution, run_parsed, ok_iff, List.append_assoc]
    exact ⟨_, _, rfl, _, _, rfl, _, _, rfl, ⟨_, parseContribution_contributionIntoParts zero, _,
      parseContribution_contributionIntoParts one, rfl⟩, rfl⟩
  read_eq_ok := by
    intro bytes message rest h
    simp only [readRound9, FinalizationMessage.fromParts, run_bind_eq_ok, run_readContext,
      run_readContribution, run_parsed, ok_iff] at h
    obtain ⟨context, _, rfl, zero, _, rfl, one, _, rfl, ⟨_, hzero, _, hone, rfl⟩, rfl⟩ := h
    refine ⟨trivial, writeContext context ++ (writeContribution zero ++ writeContribution one),
      by simp only [List.append_assoc], ?_⟩
    exact (normalizes_writeContext context).append ((normalizes_contribution hSec1 hzero).append
      (normalizes_contribution hSec1 hone))

/-! ## Rounds ten and eleven -/

def EShareMessage.payload (message : EShareMessage) : List UInt8 :=
  writeContext message.context ++ message.e.toList

theorem round10_exact : PayloadExact writeRound10 readRound10 (fun _ => True) EShareMessage.payload
      (plain contextSize ++ plain 32) := by
  refine .of_plain (by simp [writeRound10, EShareMessage.payload])
    (fun {bytes message rest} => ?_) fun _ =>
      (normalizes_writeContext _).append (normalizes_bytes _)
  cases message
  simp only [readRound10, run_bind_eq_ok, run_pure_eq_ok, run_readContext, run_readScalar]
  simp [EShareMessage.payload]

def AlphaBetaMessage.payload (message : AlphaBetaMessage) : List UInt8 :=
  writeContext message.context ++ (message.alpha.toList ++ message.beta.toList)

theorem round11_exact :
    PayloadExact writeRound11 readRound11 (fun _ => True) AlphaBetaMessage.payload
      (plain contextSize ++ (plain 32 ++ plain 32)) := by
  refine .of_plain (by simp [writeRound11, AlphaBetaMessage.payload])
    (fun {bytes message rest} => ?_) fun _ =>
      (normalizes_writeContext _).append ((normalizes_bytes _).append (normalizes_bytes _))
  cases message
  simp only [readRound11, run_bind_eq_ok, run_pure_eq_ok, run_readContext, run_readScalar]
  simp [AlphaBetaMessage.payload]

end Rounds

end SeamsWallet.PresignCodec
