import SeamsWallet.ThresholdPrf.Refresh

/-!
# The wire forms of partials, commitments and proofs

Each value has a fixed width: an identifier of two bytes, tags, points and scalars
of 32. Decoding refuses a zero identifier, bytes that are no point and scalars that
are not canonical, and brings back what was encoded.
-/

namespace SeamsWallet.ThresholdPrf

open Library Edwards25519

variable {q : ℕ} {G : Type} [AddCommGroup G] [Module (ZMod q) G]

/-! ## Partials -/

variable (R : Ristretto255 q G)

namespace PrfPartial

def fromCompressed (id : ThresholdShareId)
    (contextTag compressed : Bytes 32) : ThresholdPrfResult (PrfPartial G) := do
  let point ← okOr (R.decompress compressed) .invalidPointEncoding
  return ⟨id, contextTag, point⟩

def toWire (partialPrf : PrfPartial G) : Bytes 66 :=
  ((u16ToBigEndian partialPrf.id.get).append partialPrf.contextTag).append
    (R.compress partialPrf.point)

def ofWire (bytes : Bytes 66) : ThresholdPrfResult (PrfPartial G) := do
  let id ← ThresholdShareId.fromU16 (u16OfBigEndian (bytes.slice 0 2 (by decide)))
  fromCompressed R id (bytes.slice 2 32 (by decide)) (bytes.slice 34 32 (by decide))

@[simp] theorem ofWire_toWire (partialPrf : PrfPartial G) :
    ofWire R (toWire R partialPrf) = .ok partialPrf := by
  have hid : (toWire R partialPrf).slice 0 2 (by decide) = u16ToBigEndian partialPrf.id.get := by
    rw [toWire, Bytes.slice_append_left _ _ (by decide), Bytes.slice_append_left _ _ (by decide),
      Bytes.slice_all]
  have htag : (toWire R partialPrf).slice 2 32 (by decide) = partialPrf.contextTag := by
    rw [toWire, Bytes.slice_append_left _ _ (by decide), Bytes.slice_append_right]
  have hpoint : (toWire R partialPrf).slice 34 32 (by decide) = R.compress partialPrf.point := by
    rw [toWire, Bytes.slice_append_right]
  rw [ofWire, hid, htag, hpoint, u16OfBigEndian_u16ToBigEndian, ThresholdShareId.fromU16_get,
    ok_bind, fromCompressed, R.decompress_compress]
  rfl

end PrfPartial

/-! ## Commitments -/

namespace SigningRootShareCommitment

variable (commitment : SigningRootShareCommitment G)

def toBytes : Bytes 34 :=
  (u16ToBigEndian commitment.id.get).append (R.compress commitment.point)

def fromBytes (bytes : Bytes 34) : ThresholdPrfResult (SigningRootShareCommitment G) := do
  let id ← ThresholdShareId.fromU16 (u16OfBigEndian (bytes.slice 0 2 (by decide)))
  fromCompressed R id (bytes.slice 2 32 (by decide))

@[simp] theorem fromBytes_toBytes : fromBytes R (toBytes R commitment) = .ok commitment := by
  have hid : (toBytes R commitment).slice 0 2 (by decide) = u16ToBigEndian commitment.id.get := by
    rw [toBytes, Bytes.slice_append_left _ _ (by decide), Bytes.slice_all]
  have hpoint : (toBytes R commitment).slice 2 32 (by decide) = R.compress commitment.point := by
    rw [toBytes, Bytes.slice_append_right]
  rw [fromBytes, hid, hpoint, u16OfBigEndian_u16ToBigEndian, ThresholdShareId.fromU16_get,
    ok_bind, fromCompressed_compress]

def fromSlice (bytes : List UInt8) : ThresholdPrfResult (SigningRootShareCommitment G) := do
  let bytes ← okOr (Bytes.ofList? 34 bytes) .invalidCommitmentEncoding
  fromBytes R bytes

@[simp] theorem fromSlice_toBytes : fromSlice R (toBytes R commitment).toList = .ok commitment := by
  rw [fromSlice, Bytes.ofList?_toList, okOr_some, ok_bind, fromBytes_toBytes]

end SigningRootShareCommitment

/-! ## Proofs -/

namespace PrfDleqProof

def toBytes (proof : PrfDleqProof q) : Bytes 64 :=
  (scalarToBytes proof.challenge).append (scalarToBytes proof.response)

def fromBytes (q : ℕ) (bytes : Bytes 64) : ThresholdPrfResult (PrfDleqProof q) := do
  let challenge ← okOr (scalarFromCanonicalBytes q (bytes.slice 0 32 (by decide : 32 ≤ 64)))
    .invalidDleqProofEncoding
  let response ← okOr (scalarFromCanonicalBytes q (bytes.slice 32 32 (by decide)))
    .invalidDleqProofEncoding
  return ⟨challenge, response⟩

theorem fromBytes_toBytes [NeZero q] (hq : q ≤ 256 ^ 32) (proof : PrfDleqProof q) :
    fromBytes q proof.toBytes = .ok proof := by
  have hchallenge : proof.toBytes.slice 0 32 (by decide) = scalarToBytes proof.challenge := by
    rw [toBytes, Bytes.slice_append_left _ _ (by decide), Bytes.slice_all]
  have hresponse : proof.toBytes.slice 32 32 (by decide) = scalarToBytes proof.response := by
    rw [toBytes, Bytes.slice_append_right]
  rw [fromBytes, hchallenge, hresponse, scalarFromCanonicalBytes_scalarToBytes hq,
    scalarFromCanonicalBytes_scalarToBytes hq]
  rfl

end PrfDleqProof

end SeamsWallet.ThresholdPrf
