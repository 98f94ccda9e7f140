import SeamsWallet.Ecdsa.Derivation
import SeamsWallet.Protocol.Identity

/-!
# The relayer share of a client

A SigningWorker keeps one secret output per wallet. The share it holds against a client
is derived from that output, the key context and a retry counter, and the counter moves on
only while the client's key and the derived key cancel out. The public identity names both
keys, their sum and its address.
-/

namespace SeamsWallet.EcdsaDerivation

open Library RouterAbEcdsaDerivationError

/-- The hash functions of the derivation and the reduction of a wide digest to a scalar
other than zero. -/
structure DerivationHash (n : ℕ) where
  sha256 : List UInt8 → Bytes 32
  sha512 : List UInt8 → Bytes 64
  reduceSha512DigestToNonzeroScalar : Bytes 64 → NonZeroScalar n

structure RouterAbEcdsaDerivationStableKeyContext where
  applicationBindingDigest : Bytes 32

structure RelayerRoleShare where
  contextBytes : List UInt8
  contextBinding32 : Bytes 32
  retryCounter : ℕ
  xRelayer32 : Bytes 32
  relayerPublicKey33 : Bytes 33

structure PublicIdentity where
  contextBytes : List UInt8
  contextBinding32 : Bytes 32
  derivationClientSharePublicKey33 : Bytes 33
  relayerPublicKey33 : Bytes 33
  thresholdPublicKey33 : Bytes 33
  thresholdEthereumAddress20 : Bytes 20
  clientShareRetryCounter : ℕ
  relayerShareRetryCounter : ℕ

/-! ## Frames -/

def pushLen16 (bytes : List UInt8) : List UInt8 :=
  (toBigEndian 2 bytes.length).toList ++ bytes

/-- Domain tag, scheme, curve, application digest and the two participant ids. -/
def encodeContext (context : RouterAbEcdsaDerivationStableKeyContext) : List UInt8 :=
  stringBytes "router-ab-ecdsa-derivation/context/v1" ++
    pushLen16 (stringBytes "router-ab-ecdsa-derivation-v1") ++
    pushLen16 (stringBytes "secp256k1") ++ context.applicationBindingDigest.toList ++
    [2] ++ [0, 1] ++ [0, 2]

def frameDigestInput (domain : List UInt8) (fields : List (UInt8 × List UInt8)) :
    RouterAbEcdsaDerivationResult (List UInt8) := do
  ensure (fields.length ≤ 255) (invalidLength "digest frame field count exceeds u8 range")
  ensure (∀ field ∈ fields, field.2.length < 2 ^ 16)
    (invalidLength "digest frame field exceeds u16 length")
  return domain ++ [UInt8.ofNat fields.length] ++
    fields.flatMap fun field => field.1 :: pushLen16 field.2

section Share

variable {n : ℕ} [Fact n.Prime] {P : Type} [AddCommGroup P] [Module (ZMod n) P] [DecidableEq P]
  (K : K256 n P) (H : AddressHash P) (R : DerivationHash n)

def contextBindingFromBytes (contextBytes : List UInt8) :
    RouterAbEcdsaDerivationResult (Bytes 32) := do
  let frame ← frameDigestInput
    (stringBytes "router-ab-ecdsa-derivation/role-local/context-binding/v1") [(1, contextBytes)]
  return R.sha256 frame

def deriveRoleShare32 (roleDomain contextBytes : List UInt8) (contextBinding32 yRole32Le : Bytes 32)
    (retryCounter : ℕ) : RouterAbEcdsaDerivationResult (Bytes 32) := do
  let frame ← frameDigestInput roleDomain
    [(1, contextBinding32.toList), (2, contextBytes), (3, yRole32Le.toList),
      (4, (toBigEndian 4 retryCounter).toList)]
  return K256.scalarBytes (R.reduceSha512DigestToNonzeroScalar (R.sha512 frame)).val

variable (context : RouterAbEcdsaDerivationStableKeyContext)

def deriveRelayerShareWithRetry (yRelayer32Le : Bytes 32) (retryCounter : ℕ) :
    RouterAbEcdsaDerivationResult RelayerRoleShare := do
  let contextBytes := encodeContext context
  let contextBinding32 ← contextBindingFromBytes R contextBytes
  let xRelayer32 ← deriveRoleShare32 R
    (stringBytes "router-ab-ecdsa-derivation/role-local/relayer-share/v1") contextBytes
    contextBinding32 yRelayer32Le retryCounter
  let relayerPublicKey33 ← privateKeyToPublicKey33 K xRelayer32 "relayer role public key"
  return ⟨contextBytes, contextBinding32, retryCounter, xRelayer32, relayerPublicKey33⟩

def composePublicIdentity (derivationClientSharePublicKey33 : Bytes 33)
    (clientShareRetryCounter : ℕ)
    (relayerShare : RelayerRoleShare) : RouterAbEcdsaDerivationResult PublicIdentity := do
  let contextBytes := encodeContext context
  let contextBinding32 ← contextBindingFromBytes R contextBytes
  ensure (contextBinding32 = relayerShare.contextBinding32)
    (invalidInput "relayer share context binding does not match context")
  let clientKey33 ← validatePublicKey33 K derivationClientSharePublicKey33 "client public key"
  let relayerKey33 ← validatePublicKey33 K relayerShare.relayerPublicKey33 "relayer public key"
  let thresholdKey33 ← addPublicKeysNonIdentity33 K clientKey33 relayerKey33
    "threshold public key"
  let address20 ← publicKeyToAddress20 K H thresholdKey33 "threshold ethereum address"
  return {
    contextBytes
    contextBinding32
    derivationClientSharePublicKey33 := clientKey33
    relayerPublicKey33 := relayerKey33
    thresholdPublicKey33 := thresholdKey33
    thresholdEthereumAddress20 := address20
    clientShareRetryCounter
    relayerShareRetryCounter := relayerShare.retryCounter }

def isIdentityPublicKeySumError (error : RouterAbEcdsaDerivationError) : Bool :=
  decide ("identity point".toList <:+: error.message.toList)

/-- The retry loop from a counter on. The counter has 32 bits; what is left of its range
bounds the loop. -/
def deriveRelayerShareFrom (context : RouterAbEcdsaDerivationStableKeyContext)
    (yRelayer32Le : Bytes 32) (clientKey33 : Bytes 33) (clientShareRetryCounter : ℕ) :
    ℕ → ℕ → RouterAbEcdsaDerivationResult (RelayerRoleShare × PublicIdentity)
  | 0, _ => .error (internal "relayer retry counter overflow")
  | left + 1, retryCounter => do
    let relayerShare ← deriveRelayerShareWithRetry K R context yRelayer32Le retryCounter
    match composePublicIdentity K H R context clientKey33 clientShareRetryCounter relayerShare
      with
    | .ok identity => .ok (relayerShare, identity)
    | .error error =>
      if isIdentityPublicKeySumError error then
        deriveRelayerShareFrom context yRelayer32Le clientKey33 clientShareRetryCounter left
          (retryCounter + 1)
      else .error error

def deriveRelayerShareForClientPublic (yRelayer32Le : Bytes 32)
    (derivationClientSharePublicKey33 : Bytes 33)
    (clientShareRetryCounter : ℕ) :
    RouterAbEcdsaDerivationResult (RelayerRoleShare × PublicIdentity) := do
  let clientKey33 ← validatePublicKey33 K derivationClientSharePublicKey33 "client public key"
  deriveRelayerShareFrom K H R context yRelayer32Le clientKey33 clientShareRetryCounter (2 ^ 32) 0

def ecdsaLaneClientPublicKeyFromShare32 (clientShare32 : Bytes 32) :
    RouterAbEcdsaDerivationResult (Bytes 33) := do
  let _ ← parseNonzeroScalar32Be n clientShare32.toList "client share"
  privateKeyToPublicKey33 K clientShare32 "client public key"

end Share

end SeamsWallet.EcdsaDerivation
