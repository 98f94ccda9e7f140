import SeamsWallet.Protocol.Admission

/-!
# Rows of a wallet object

Each wallet has one durable object, named by a hash of the wallet's scope. The
rows it seals carry their purpose and their identity, the object's name with the
row's key, and open only under both.
-/

namespace SeamsWallet.WalletObject

open Library

def walletError (message : String) : RouterAbProtocolError :=
  ⟨.invalidLocalServiceConfig, message⟩

def replayError (message : String) : RouterAbProtocolError :=
  ⟨.replayedLocalRequest, message⟩

def hexDigit (nibble : ℕ) : Char :=
  "0123456789abcdef".toList.getD nibble '0'

def hexSlice (bytes : List UInt8) : String :=
  String.ofList (bytes.flatMap fun byte =>
    [hexDigit (byte.toNat / 16), hexDigit (byte.toNat % 16)])

/-- A value sealed for one purpose and one row; it opens only there. -/
structure Sealed (α : Type) where
  purpose : String
  identity : String
  value : α
  deriving DecidableEq

def Sealed.openAs {α : Type} (ciphertext : Sealed α) (purpose identity : String) :
    RouterAbProtocolResult α := do
  ensure (ciphertext.purpose = purpose ∧ ciphertext.identity = identity)
    (walletError "SigningWorker private D1 secret decryption failed")
  return ciphertext.value

theorem Sealed.openAs_eq_ok {α : Type} {ciphertext : Sealed α} {purpose identity : String}
    {value : α} (h : ciphertext.openAs purpose identity = .ok value) :
    ciphertext.value = value := by
  simp only [Sealed.openAs, ok_iff] at h
  exact h.2

def walletObjectName (prims : Primitives) (scopeJson : WalletScope → String)
    (scope : WalletScope) : RouterAbProtocolResult String := do
  scope.validate
  return "signing-worker-wallet-" ++ hexSlice (prims.sha256
    (stringBytes "seams/signing-worker/wallet-do/v1" ++ stringBytes (scopeJson scope))).toList

def walletRowIdentity (prims : Primitives) (scopeJson : WalletScope → String)
    (scope : WalletScope) (key : String) : RouterAbProtocolResult String := do
  let objectName ← walletObjectName prims scopeJson scope
  return s!"{objectName}/{key}"

end SeamsWallet.WalletObject
