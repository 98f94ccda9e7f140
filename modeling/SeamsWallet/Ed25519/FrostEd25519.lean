import Mathlib.Algebra.Field.ZMod
import Mathlib.Algebra.Module.ZMod
import SeamsWallet.Library.BigEndian
import SeamsWallet.Library.Frost

/-!
# The curve and the FROST crate the Ed25519 path imports

`curve25519_dalek` gives the whole curve, whose points may have a component of
small order: `Edwards25519` is what the crates assume of it. A scalar, an
integer modulo the order of the base point, acts on a point through its
representative.

`frost_ed25519` works in the subgroup of the base point, where that action is a
module over the scalars, and refuses encodings of other points and of the
identity. Its hash functions all come from SHA-512.
-/

namespace SeamsWallet

open Library Library.Frost

/-! ## The curve -/

/-- What the Ed25519 crates assume of `curve25519_dalek`, over a base point of
order `q`. -/
structure Edwards25519 (q : ℕ) (G : Type) [AddCommGroup G] where
  basepoint : G
  basepoint_ne_zero : basepoint ≠ 0
  order_nsmul_basepoint : q • basepoint = 0
  identifiers_lt : 65535 < q
  order_le : q ≤ 256 ^ 32
  compress : G → Bytes 32
  decompress : Bytes 32 → Option G
  decompress_compress : ∀ Q, decompress (compress Q) = some Q

variable {q : ℕ} {G : Type}

namespace Edwards25519

def scalarFromCanonicalBytes (q : ℕ) (bytes : Bytes 32) : Option (ZMod q) :=
  if ofLittleEndian bytes.toList < q then some (ofLittleEndian bytes.toList : ZMod q)
  else none

def scalarFromBytesModOrder (q : ℕ) (bytes : Bytes 32) : ZMod q :=
  (ofLittleEndian bytes.toList : ZMod q)

def scalarFromBytesModOrderWide (q : ℕ) (bytes : Bytes 64) : ZMod q :=
  (ofLittleEndian bytes.toList : ZMod q)

def scalarToBytes (s : ZMod q) : Bytes 32 :=
  toLittleEndian 32 s.val

theorem scalarFromCanonicalBytes_scalarToBytes [NeZero q] (hq : q ≤ 256 ^ 32)
    (s : ZMod q) : scalarFromCanonicalBytes q (scalarToBytes s) = some s := by
  have hfit : s.val < 256 ^ 32 := lt_of_lt_of_le (ZMod.val_lt s) hq
  rw [scalarFromCanonicalBytes, scalarToBytes, ofLittleEndian_toLittleEndian_of_lt hfit,
    if_pos (ZMod.val_lt s), ZMod.natCast_zmod_val]

/-- A scalar times a point: the representative of the scalar, as a multiple. -/
def mulScalar [AddCommGroup G] (s : ZMod q) (Q : G) : G :=
  s.val • Q

def mulBase [AddCommGroup G] (E : Edwards25519 q G) (s : ZMod q) : G :=
  mulScalar s E.basepoint

end Edwards25519

/-! ## The prime-order subgroup -/

def primeSubgroup (q : ℕ) (G : Type) [AddCommGroup G] : AddSubgroup G :=
  (nsmulAddMonoidHom q : G →+ G).ker

abbrev Element (q : ℕ) (G : Type) [AddCommGroup G] : Type := primeSubgroup q G

theorem Element.order_nsmul [AddCommGroup G] (Q : Element q G) : q • Q = 0 :=
  Subtype.ext Q.property

instance [AddCommGroup G] : Module (ZMod q) (Element q G) :=
  AddCommGroup.zmodModule Element.order_nsmul

theorem Element.coe_smul [NeZero q] [AddCommGroup G] (s : ZMod q)
    (Q : Element q G) : ((s • Q : Element q G) : G) = Edwards25519.mulScalar s (Q : G) := by
  have hcast : s • Q = (s.val : ZMod q) • Q := by rw [ZMod.natCast_zmod_val]
  rw [hcast, Nat.cast_smul_eq_nsmul, AddSubgroup.coe_nsmul]
  rfl

/-! ## The crate -/

/-- What is left open of `frost_ed25519`: the hash, the encoding of stored
nonces and the texts of its errors. -/
structure FrostEd25519 (q : ℕ) (G : Type) [AddCommGroup G] where
  curve : Edwards25519 q G
  sha512 : List UInt8 → Bytes 64
  encodeSigningNonces : SigningNonces (ZMod q) → List UInt8
  decodeSigningNonces : List UInt8 → Option (SigningNonces (ZMod q))
  decode_encodeSigningNonces :
    ∀ nonces, decodeSigningNonces (encodeSigningNonces nonces) = some nonces
  displayError : FrostError → String

namespace FrostEd25519

variable {q : ℕ} {G : Type} [AddCommGroup G]

def contextString : List UInt8 := "FROST-ED25519-SHA512-v1".toUTF8.data.toList

variable (frost : FrostEd25519 q G)

def hashToArray (tag : String) (input : List UInt8) : Bytes 64 :=
  frost.sha512 (contextString ++ tag.toUTF8.data.toList ++ input)

def serializeElement [DecidableEq G] (Q : Element q G) : Option (List UInt8) :=
  if Q = 0 then none else some (frost.curve.compress Q).toList

def generator : Element q G :=
  ⟨frost.curve.basepoint, frost.curve.order_nsmul_basepoint⟩

def ciphersuite [DecidableEq G] : Ciphersuite (ZMod q) (Element q G) where
  generator := frost.generator
  cofactor := 8
  h1 input := Edwards25519.scalarFromBytesModOrderWide q (frost.hashToArray "rho" input)
  h2 input := Edwards25519.scalarFromBytesModOrderWide q (frost.sha512 input)
  h3 input := Edwards25519.scalarFromBytesModOrderWide q (frost.hashToArray "nonce" input)
  h4 input := (frost.hashToArray "msg" input).toList
  h5 input := (frost.hashToArray "com" input).toList
  serializeScalar s := (Edwards25519.scalarToBytes s).toList
  serializeElement := frost.serializeElement

/-- Identifiers are the non-zero 16-bit numbers. -/
def identifierTryFrom (q : ℕ) (id : UInt16) : Except FrostError (ZMod q) := do
  ensure (id ≠ 0) FrostError.invalidZeroScalar
  return (id.toNat : ZMod q)

def deserializeScalar (q : ℕ) (bytes : List UInt8) : Except FrostError (ZMod q) := do
  let bytes ← okOr (Bytes.ofList? 32 bytes) FrostError.malformedScalar
  okOr (Edwards25519.scalarFromCanonicalBytes q bytes) FrostError.malformedScalar

def deserializeElement [DecidableEq G] (bytes : List UInt8) : Except FrostError (Element q G) := do
  let bytes ← okOr (Bytes.ofList? 32 bytes) FrostError.malformedElement
  let Q ← okOr (frost.curve.decompress bytes) FrostError.malformedElement
  ensure (Q ≠ 0) FrostError.invalidIdentityElement
  if h : q • Q = 0 then return ⟨Q, h⟩
  else throw FrostError.invalidNonPrimeOrderElement

/-- Round one: two nonces, each hedged with the signing share. -/
def commit [DecidableEq G] (signingShare : ZMod q)
    (hidingRandom bindingRandom : Bytes 32) : SigningNonces (ZMod q) :=
  ⟨nonceGenerate frost.ciphersuite signingShare hidingRandom.toList,
    nonceGenerate frost.ciphersuite signingShare bindingRandom.toList⟩

/-- Stored nonces carry their commitments, which must have an encoding. -/
def serializeSigningNonces [DecidableEq G]
    (nonces : SigningNonces (ZMod q)) : Except FrostError (List UInt8) := do
  let commitments := nonces.commitments frost.ciphersuite
  let _ ← frost.ciphersuite.serialize commitments.hidingCommitment
  let _ ← frost.ciphersuite.serialize commitments.bindingCommitment
  return frost.encodeSigningNonces nonces

def deserializeSigningNonces (bytes : List UInt8) : Except FrostError (SigningNonces (ZMod q)) :=
  okOr (frost.decodeSigningNonces bytes) FrostError.malformedSigningNonces

/-- A map from identifiers, in their order; a later entry replaces an earlier
one of the same identifier. -/
def insertIdentifier {V : Type} (id : ZMod q) (value : V) : List (ZMod q × V) → List (ZMod q × V)
  | [] => [(id, value)]
  | entry :: rest =>
    if id.val < entry.1.val then (id, value) :: entry :: rest
    else if id = entry.1 then (id, value) :: rest
    else entry :: insertIdentifier id value rest

def identifierMap {V : Type} (entries : List (ZMod q × V)) : List (ZMod q × V) :=
  entries.foldl (fun map entry => insertIdentifier entry.1 entry.2 map) []

/-! ## Round trips -/

variable {s : ZMod q}

theorem deserializeScalar_of_canonical {bytes : Bytes 32}
    (h : Edwards25519.scalarFromCanonicalBytes q bytes = some s) :
    deserializeScalar q bytes.toList = .ok s := by
  simp only [deserializeScalar, Bytes.ofList?_toList, okOr_some, ok_bind, h]

variable {Q : Element q G}

theorem serialize_of_ne_zero [DecidableEq G] (hQ : Q ≠ 0) :
    frost.ciphersuite.serialize Q = .ok (frost.curve.compress Q).toList := by
  simp only [Ciphersuite.serialize, ciphersuite, serializeElement, if_neg hQ, okOr_some]

theorem deserializeElement_compress [DecidableEq G] (hQ : Q ≠ 0) :
    frost.deserializeElement (frost.curve.compress Q).toList = .ok Q := by
  have hne : (Q : G) ≠ 0 := by
    intro h
    exact hQ (Subtype.ext h)
  have horder : q • (Q : G) = 0 := Q.property
  simp only [deserializeElement, Bytes.ofList?_toList, okOr_some, ok_bind,
    frost.curve.decompress_compress, ensure_of hne, dif_pos horder]
  rfl

/-! ## Multiples of the generator -/

theorem coe_smul_generator [NeZero q] (s : ZMod q) :
    ((s • frost.generator : Element q G) : G) = frost.curve.mulBase s :=
  Element.coe_smul s frost.generator

theorem smul_generator_ne_zero [Fact q.Prime] (hs : s ≠ 0) : s • frost.generator ≠ 0 := by
  have hgenerator : frost.generator ≠ 0 := by
    intro h
    exact frost.curve.basepoint_ne_zero (congrArg Subtype.val h)
  exact smul_ne_zero hs hgenerator

end FrostEd25519

end SeamsWallet
