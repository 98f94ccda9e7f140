import SeamsWallet.Library.Bits
import SeamsWallet.ThresholdPrf.Agreement

/-!
# Oblivious transfer of circuit inputs

The evaluator of a garbled circuit obtains one label of each pair without telling the
garbler which. 128 base transfers over Ristretto give the garbler one of two seeds per
row; the seeds are expanded into the rows of a matrix, and its columns mask the labels.
Four flights go back and forth, each a frame with the family and the session.

Random bytes are given to the functions that draw them. The hash and the block cipher are
arbitrary functions.
-/

namespace SeamsWallet.YaoTransfer

open Library ThresholdPrf Edwards25519

inductive OtError where
  | randomness
  | invalidLength
  | invalidHeader
  | invalidMessageType
  | invalidFamily
  | invalidSession
  | invalidPoint
  | sessionMismatch

abbrev OtResult (α : Type) : Type := Except OtError α

/-! ## Families -/

inductive OtFamily where
  | activation
  | exportOt
  | laneMaterialization
  | mlDsaSeed
  | mlDsaSampling
  | mlDsaRounding

namespace OtFamily

def code : OtFamily → UInt8
  | activation => 1
  | exportOt => 2
  | laneMaterialization => 3
  | mlDsaSeed => 4
  | mlDsaSampling => 5
  | mlDsaRounding => 6

def otCount : OtFamily → ℕ
  | activation => 1536
  | exportOt => 768
  | laneMaterialization => 1792
  | mlDsaSeed => 256
  | mlDsaSampling => 512
  | mlDsaRounding => 5888

def rowBytes (family : OtFamily) : ℕ := family.otCount / 8

end OtFamily

def securityParameter : ℕ := 128

def labelBytes : ℕ := 16

structure OtSessionId where
  bytes : Bytes 32
  ne_zeros : ¬ bytes = Bytes.zeros 32
  deriving DecidableEq

def OtSessionId.decode (bytes : List UInt8) : OtResult OtSessionId := do
  let encoded ← okOr (Bytes.ofList? 32 bytes) .invalidLength
  if h : encoded ≠ Bytes.zeros 32 then return ⟨encoded, h⟩ else .error .invalidSession

/-- A pair of labels for each input of the family. -/
structure SenderPayloads (family : OtFamily) where
  pairs : List (Bytes 16 × Bytes 16)
  length_pairs : pairs.length = family.otCount

/-- A packed choice bit for each input of the family. -/
structure ReceiverChoices (family : OtFamily) where
  bytes : List UInt8
  length_bytes : bytes.length = family.rowBytes

/-! ## Frames -/

def frameMagic : List UInt8 := stringBytes "YAOOTB01"

def encodeFrame (family : OtFamily) (messageType : UInt8) (session : OtSessionId)
    (payload : List UInt8) : List UInt8 :=
  frameMagic ++ [messageType, family.code] ++ List.replicate 6 0 ++ session.bytes.toList ++ payload

def decodeFrame (family : OtFamily) (encoded : List UInt8) (messageType : UInt8)
    (payloadBytes : ℕ) : OtResult (OtSessionId × List UInt8) := do
  ensure (48 ≤ encoded.length) .invalidLength
  ensure (encoded.take 8 = frameMagic ∧ (encoded.drop 10).take 6 = List.replicate 6 0)
    .invalidHeader
  ensure (encoded[8]? = some messageType) .invalidMessageType
  ensure (encoded[9]? = some family.code) .invalidFamily
  ensure (encoded.length = 48 + payloadBytes) .invalidLength
  let session ← OtSessionId.decode ((encoded.drop 16).take 32)
  return (session, encoded.drop 48)

variable {q : ℕ} {G : Type} [AddCommGroup G] [Module (ZMod q) G]

/-- The group with the hash and the block cipher (key, block). -/
structure OtEnvironment (q : ℕ) (G : Type) [AddCommGroup G] [Module (ZMod q) G] where
  ristretto : Ristretto255 q G
  sha256 : List UInt8 → Bytes 32
  aes128 : Bytes 16 → Bytes 16 → Bytes 16

variable (env : OtEnvironment q G)

def encodePoints (points : List G) : List UInt8 :=
  (points.map fun point => (env.ristretto.compress point).toList).flatten

def decodePoint [DecidableEq G] (encoded : List UInt8) : OtResult G := do
  let encoded ← okOr (Bytes.ofList? 32 encoded) .invalidLength
  let point ← okOr (env.ristretto.decompress encoded) .invalidPoint
  ensure (point ≠ 0) .invalidPoint
  return point

def decodePoints [DecidableEq G] (payload : List UInt8) : OtResult (List G) := do
  ensure (payload.length = securityParameter * 32) .invalidLength
  (List.range securityParameter).mapM fun i => decodePoint env ((payload.drop (i * 32)).take 32)

/-! ## Flights -/

structure PointsFlight (G : Type) where
  session : OtSessionId
  points : List G

structure BytesFlight where
  session : OtSessionId
  bytes : List UInt8

variable (family : OtFamily)

def encodePointsFlight (messageType : UInt8) (flight : PointsFlight G) : List UInt8 :=
  encodeFrame family messageType flight.session (encodePoints env flight.points)

def decodePointsFlight [DecidableEq G] (messageType : UInt8) (encoded : List UInt8) :
    OtResult (PointsFlight G) := do
  let (session, payload) ← decodeFrame family encoded messageType (securityParameter * 32)
  let points ← decodePoints env payload
  return ⟨session, points⟩

def decodePointsFlightForSession [DecidableEq G] (messageType : UInt8) (encoded : List UInt8)
    (expectedSession : OtSessionId) :
    OtResult (PointsFlight G) := do
  let flight ← decodePointsFlight env family messageType encoded
  ensure (flight.session = expectedSession) .sessionMismatch
  return flight

def encodeBytesFlight (messageType : UInt8) (flight : BytesFlight) : List UInt8 :=
  encodeFrame family messageType flight.session flight.bytes

def decodeBytesFlight (messageType : UInt8) (payloadBytes : ℕ) (encoded : List UInt8) :
    OtResult BytesFlight := do
  let (session, payload) ← decodeFrame family encoded messageType payloadBytes
  return ⟨session, payload⟩

abbrev BaseOffer : Type → Type := PointsFlight
abbrev BaseChoices : Type → Type := PointsFlight
abbrev ExtensionMatrix : Type := BytesFlight
abbrev MaskedPayloads : Type := BytesFlight

def BaseOffer.encode (offer : BaseOffer G) : List UInt8 := encodePointsFlight env family 1 offer

def BaseOffer.decodeForSession [DecidableEq G] :
    List UInt8 → OtSessionId → OtResult (BaseOffer G) :=
  decodePointsFlightForSession env family 1

def BaseChoices.encode (choices : BaseChoices G) :
    List UInt8 := encodePointsFlight env family 2 choices

def BaseChoices.decodeForSession [DecidableEq G] :
    List UInt8 → OtSessionId → OtResult (BaseChoices G) :=
  decodePointsFlightForSession env family 2

def ExtensionMatrix.encode (matrix : ExtensionMatrix) : List UInt8 :=
  encodeBytesFlight family 3 matrix

def ExtensionMatrix.decode : List UInt8 → OtResult ExtensionMatrix :=
  decodeBytesFlight family 3 (securityParameter * family.rowBytes)

def MaskedPayloads.encode (payloads : MaskedPayloads) : List UInt8 :=
  encodeBytesFlight family 4 payloads

def MaskedPayloads.decode : List UInt8 → OtResult MaskedPayloads :=
  decodeBytesFlight family 4 (family.otCount * (2 * labelBytes))

/-! ## Seeds, rows and pads -/

/-- A scalar from 64 random bytes; zero becomes one. -/
def randomNonzeroScalar (q : ℕ) (wide : Bytes 64) : ZMod q :=
  let scalar := scalarFromBytesModOrderWide q wide
  if scalar = 0 then 1 else scalar

def deriveBaseSeed (session : OtSessionId) (baseIndex : ℕ) (branch : Bool) (shared : G) :
    Bytes 16 :=
  (env.sha256 (stringBytes "seams:ed25519-yao:passive-ot:base-seed:v1" ++ session.bytes.toList ++
    [family.code] ++ (toBigEndian 2 baseIndex).toList ++ [UInt8.ofNat branch.toNat] ++
    (env.ristretto.compress shared).toList)).slice 0 16 (by decide)

/-- The input of one block of a row. -/
def rowBlock (rowIndex blockIndex : ℕ) : Bytes 16 :=
  Bytes.append (⟨stringBytes "YAOIKNP1", by decide⟩ : Bytes 8)
    (Bytes.append (⟨[family.code], rfl⟩ : Bytes 1) (Bytes.append (toBigEndian 2 rowIndex)
        (Bytes.append (Bytes.zeros 1) (toBigEndian 4 blockIndex))))

def expandRow (seed : Bytes 16) (rowIndex : ℕ) : List UInt8 :=
  ((List.range (family.rowBytes / labelBytes)).map fun blockIndex =>
    (env.aes128 seed (rowBlock family rowIndex blockIndex)).toList).flatten

def deriveLabelPad (session : OtSessionId) (messageIndex : ℕ) (column : List UInt8) : Bytes 16 :=
  (env.sha256 (stringBytes "seams:ed25519-yao:passive-ot:label-pad:v1" ++ session.bytes.toList ++
    [family.code] ++ (toBigEndian 4 messageIndex).toList ++ column)).slice 0 16 (by decide)

def matrixRow (matrix : List UInt8) (rowIndex : ℕ) : List UInt8 :=
  (matrix.drop (rowIndex * family.rowBytes)).take family.rowBytes

/-- The bits of all rows at one index, packed into 16 bytes. -/
def matrixColumn (matrix : List UInt8) (messageIndex : ℕ) : List UInt8 :=
  packBits securityParameter fun rowIndex =>
    (matrix.getD (rowIndex * family.rowBytes + messageIndex / 8) 0).toNat.testBit (messageIndex % 8)

def conditionalXor (target source : List UInt8) (choice : Bool) : List UInt8 :=
  if choice then xorBytes target source else target

def selectLabel (zero one : Bytes 16) (choice : Bool) : Bytes 16 := if choice then one else zero

/-- One round of the repair: a response that is the identity or the offer itself is moved
by the generator. -/
def repairResponse [DecidableEq G] (offer : G) (state : ZMod q × G) : ZMod q × G :=
  if state.2 = 0 ∨ state.2 = offer then (state.1 + 1, state.2 + env.ristretto.basepoint)
  else state

/-- The garbler's answer to an offered point, with two rounds of repair. -/
def baseReceiverResponse [DecidableEq G] (offer : G) (scalar : ZMod q)
    (choice : Bool) : ZMod q × G :=
  let selectedOffer := if choice then offer else 0
  repairResponse env offer
    (repairResponse env offer (scalar, scalar • env.ristretto.basepoint + selectedOffer))

/-! ## The evaluator and the garbler -/

structure ReceiverAwaitBaseChoices (q : ℕ) (family : OtFamily) where
  session : OtSessionId
  choices : ReceiverChoices family
  offerScalars : ℕ → ZMod q

structure ReceiverAwaitMaskedPayloads (family : OtFamily) where
  session : OtSessionId
  choices : ReceiverChoices family
  retainedMatrix : List UInt8

structure SenderAwaitExtension (family : OtFamily) where
  session : OtSessionId
  baseChoices : Bytes 16
  chosenSeeds : ℕ → Bytes 16
  payloads : SenderPayloads family

variable {family : OtFamily}

/-- Flight 1: a fresh point for each base transfer. -/
def receiverBegin (session : OtSessionId)
    (choices : ReceiverChoices family) (random : ℕ → Bytes 64) :
    ReceiverAwaitBaseChoices q family × BaseOffer G :=
  let scalars := fun index => randomNonzeroScalar q (random index)
  (⟨session, choices, scalars⟩, ⟨session, (List.range securityParameter).map fun index =>
      scalars index • env.ristretto.basepoint⟩)

/-- Flight 2: an answer to each point, by the bits of the base choices. -/
def senderBegin [DecidableEq G] (offer : BaseOffer G)
    (payloads : SenderPayloads family) (baseChoices : Bytes 16) (random : ℕ → Bytes 64) :
    SenderAwaitExtension family × BaseChoices G :=
  let point := fun rowIndex => offer.points.getD rowIndex 0
  let answer := fun rowIndex => baseReceiverResponse env (point rowIndex)
    (randomNonzeroScalar q (random rowIndex)) (packedBit baseChoices.toList rowIndex)
  (⟨offer.session, baseChoices,
      fun rowIndex => deriveBaseSeed env family offer.session rowIndex
        (packedBit baseChoices.toList rowIndex) ((answer rowIndex).1 • point rowIndex),
      payloads⟩,
    ⟨offer.session, (List.range securityParameter).map fun rowIndex => (answer rowIndex).2⟩)

/-- The two expanded rows of a base transfer, for the branches zero and one. -/
def ReceiverAwaitBaseChoices.rows
    (state : ReceiverAwaitBaseChoices q family) (response : G) (rowIndex : ℕ) :
    List UInt8 × List UInt8 :=
  let scalar := state.offerScalars rowIndex
  let offer := scalar • env.ristretto.basepoint
  (expandRow env family
      (deriveBaseSeed env family state.session rowIndex false (scalar • response)) rowIndex,
    expandRow env family
      (deriveBaseSeed env family state.session rowIndex true (scalar • (response - offer)))
      rowIndex)

/-- Flight 3: the rows of branch zero are kept, the corrections are sent. -/
def ReceiverAwaitBaseChoices.accept
    (state : ReceiverAwaitBaseChoices q family) (message : BaseChoices G) :
    OtResult (ReceiverAwaitMaskedPayloads family × ExtensionMatrix) := do
  ensure (message.session = state.session) .sessionMismatch
  let rows := (List.range securityParameter).map fun rowIndex =>
    state.rows env (message.points.getD rowIndex 0) rowIndex
  return (⟨state.session, state.choices, (rows.map (·.1)).flatten⟩, ⟨state.session,
      (rows.map fun row => xorBytes (xorBytes row.1 row.2) state.choices.bytes).flatten⟩)

def SenderAwaitExtension.maskedPair
    (state : SenderAwaitExtension family) (senderMatrix : List UInt8) (messageIndex : ℕ)
    (pair : Bytes 16 × Bytes 16) : List UInt8 :=
  let columnZero := matrixColumn family senderMatrix messageIndex
  let columnOne := xorBytes columnZero state.baseChoices.toList
  (pair.1.xor (deriveLabelPad env family state.session messageIndex columnZero)).toList ++
    (pair.2.xor (deriveLabelPad env family state.session messageIndex columnOne)).toList

/-- Flight 4: both labels of each input, masked. -/
def SenderAwaitExtension.accept (state : SenderAwaitExtension family) (message : ExtensionMatrix) :
    OtResult MaskedPayloads := do
  ensure (message.session = state.session) .sessionMismatch
  let senderMatrix := ((List.range securityParameter).map fun rowIndex =>
    conditionalXor (expandRow env family (state.chosenSeeds rowIndex) rowIndex)
      (matrixRow family message.bytes rowIndex)
      (packedBit state.baseChoices.toList rowIndex)).flatten
  return ⟨state.session, ((List.range family.otCount).map fun messageIndex =>
    state.maskedPair env senderMatrix messageIndex
      (state.payloads.pairs.getD messageIndex (Bytes.zeros 16, Bytes.zeros 16))).flatten⟩

def maskedLabel (payloads : List UInt8) (offset : ℕ) : Bytes 16 :=
  (Bytes.ofList? 16 ((payloads.drop offset).take 16)).getD (Bytes.zeros 16)

def ReceiverAwaitMaskedPayloads.accept
    (state : ReceiverAwaitMaskedPayloads family) (message : MaskedPayloads) :
    OtResult (List (Bytes 16)) := do
  ensure (message.session = state.session) .sessionMismatch
  return (List.range family.otCount).map fun messageIndex =>
    let column := matrixColumn family state.retainedMatrix messageIndex
    let pad := deriveLabelPad env family state.session messageIndex column
    let offset := messageIndex * (2 * labelBytes)
    let masked := selectLabel (maskedLabel message.bytes offset)
      (maskedLabel message.bytes (offset + labelBytes))
      (packedBit state.choices.bytes messageIndex)
    masked.xor pad

/-- All four flights, each encoded by one role and decoded by the other. -/
def runTransfer [DecidableEq G]
    (session : OtSessionId) (choices : ReceiverChoices family) (payloads : SenderPayloads family)
    (receiverRandom senderRandom : ℕ → Bytes 64) (baseChoices : Bytes 16) :
    OtResult (List (Bytes 16)) := do
  let (receiverBase, offer) := receiverBegin env session choices receiverRandom
  let offer ← BaseOffer.decodeForSession env family (offer.encode env family) session
  let (senderExtension, answers) := senderBegin env offer payloads baseChoices senderRandom
  let answers ← BaseChoices.decodeForSession env family (answers.encode env family) session
  let (receiverPayloads, extension) ← receiverBase.accept env answers
  let extension ← ExtensionMatrix.decode family (extension.encode family)
  let masked ← senderExtension.accept env extension
  let masked ← MaskedPayloads.decode family (masked.encode family)
  receiverPayloads.accept env masked

end SeamsWallet.YaoTransfer
