import SeamsWallet.Ecdsa.PresignMessages
import SeamsWallet.Library.Bits
import Mathlib.Algebra.BigOperators.Fin

/-!
# Multiplication by oblivious transfer

Two roles hold operands and end with shares of the product of their sums. The sender
offers, in each of 384 random transfers, its operand with either sign under a mask; the
receiver picks a sign in each, and solves for the first coefficient that makes its signed
coefficients add up to its own operand. Of the two instances the first multiplies the
sender's `a` with the receiver's `b`, the second its `b` with the receiver's `a`.
-/

namespace SeamsWallet.EcdsaTriples

open Library EcdsaPresign PresignCodec

inductive MtaError where
  | contextMismatch
  | tripleIndexMismatch

abbrev ChiTail (n : ℕ) : Type := List.Vector (List.Vector (ZMod n) 383) 2

abbrev Masks (n : ℕ) : Type := List.Vector (List.Vector (ZMod n) 384) 2

section Types

variable (n : ℕ)

structure MultiplicationOperands where
  context : PresignPairContext
  tripleIndex : TripleIndex
  a : ZMod n
  b : ZMod n

structure ExtensionSenderOutput where
  context : PresignPairContext
  tripleIndex : TripleIndex
  senderRole : FixedRole
  values : List.Vector (ZMod n × ZMod n) 768

structure ExtensionReceiverOutput where
  context : PresignPairContext
  tripleIndex : TripleIndex
  senderRole : FixedRole
  choices : Bytes 96
  values : List.Vector (ZMod n) 768

structure SenderAwaitingResponse where
  context : PresignPairContext
  tripleIndex : TripleIndex
  senderRole : FixedRole
  localProduct : ZMod n
  masks : Masks n

structure MultiplicationShare where
  context : PresignPairContext
  tripleIndex : TripleIndex
  ownerRole : FixedRole
  value : ZMod n

end Types

variable {n : ℕ}

def oppositeRole : FixedRole → FixedRole
  | .client => .signingWorker
  | .signingWorker => .client

def roleByte : FixedRole → UInt8
  | .client => 1
  | .signingWorker => 2

def tripleIndexByte : TripleIndex → UInt8
  | .zero => 0
  | .one => 1

def checkBinding (expectedContext : PresignPairContext) (expectedIndex : TripleIndex)
    (actualContext : PresignPairContext) (actualIndex : TripleIndex) : Except MtaError Unit := do
  ensure (actualContext = expectedContext) .contextMismatch
  ensure (actualIndex = expectedIndex) .tripleIndexMismatch

def outputChoice (choices : Bytes 96) (index : ℕ) : Bool := packedBit choices.toList index

def conditionalSelect {α : Type} (a b : α) : Bool → α
  | false => a
  | true => b

def absorbField (tag : ℕ) (value : List UInt8) : List UInt8 :=
  (toBigEndian 2 tag).toList ++ (toBigEndian 4 value.length).toList ++ value

def deriveChiTail (sha512 : List UInt8 → Bytes 64) (context : PresignPairContext)
    (tripleIndex : TripleIndex) (senderRole : FixedRole) (seeds : Bytes 32 × Bytes 32) :
    ChiTail n :=
  List.Vector.ofFn fun inst => List.Vector.ofFn fun tailIndex =>
    let digest := sha512 (absorbField 1 "seams/router-ab-ecdsa-presign/mta-chi/v1".toUTF8.toList ++
      absorbField 2 "secp256k1+sha512".toUTF8.toList ++
      absorbField 3 context.signingScope.toList ++ absorbField 4 context.pair.toList ++
      absorbField 5 [tripleIndexByte tripleIndex] ++ absorbField 6 [roleByte senderRole] ++
      absorbField 7 [inst.val.toUInt8] ++
      absorbField 8 (toBigEndian 2 (tailIndex.val + 1)).toList ++
      absorbField 16 (if inst = 0 then seeds.1 else seeds.2).toList)
    (ofBigEndian digest.toList : ZMod n)

def outputIndex (inst : Fin 2) (offset : Fin 384) : Fin 768 :=
  ⟨inst * 384 + offset, by omega⟩

def addTail (start : ZMod n) (term : Fin 383 → ZMod n) : ZMod n :=
  (List.finRange 383).foldl (fun sum k => sum + term k) start

def startSender (randomOt : ExtensionSenderOutput n) (operands : MultiplicationOperands n)
    (masks : Masks n) : SenderAwaitingResponse n × CiphertextMessage n :=
  let inputs := ![operands.a, operands.b]
  let values := List.Vector.ofFn fun inst => List.Vector.ofFn fun offset =>
    let randomValues := randomOt.values.get (outputIndex inst offset)
    let mask := (masks.get inst).get offset
    (randomValues.1 + mask + inputs inst, randomValues.2 + mask - inputs inst)
  ({ context := randomOt.context
     tripleIndex := randomOt.tripleIndex
     senderRole := randomOt.senderRole
     localProduct := operands.a * operands.b
     masks },
   { context := randomOt.context
     tripleIndex := randomOt.tripleIndex
     values })

/-- One instance of the receiver: the first coefficient and the share it ends with. -/
def receiveInstance (randomOt : ExtensionReceiverOutput n) (ciphertexts : CiphertextMessage n)
    (chiTail : List.Vector (ZMod n) 383) (input : ZMod n) (inst : Fin 2) : ZMod n × ZMod n :=
  let choice (offset : Fin 384) := outputChoice randomOt.choices (outputIndex inst offset)
  let unmasked (offset : Fin 384) :=
    let ciphertext := (ciphertexts.values.get inst).get offset
    conditionalSelect ciphertext.1 ciphertext.2 (choice offset) -
      randomOt.values.get (outputIndex inst offset)
  let signedTailSum := addTail 0 fun k =>
    conditionalSelect (chiTail.get k) (-chiTail.get k) (choice k.succ)
  let unsignedFirst := input - signedTailSum
  let chiFirst := conditionalSelect unsignedFirst (-unsignedFirst) (choice 0)
  (chiFirst, addTail (chiFirst * unmasked 0) fun k => chiTail.get k * unmasked k.succ)

section Derived

/- How the coefficients come from the seeds does not matter. -/
variable (chiTail : PresignPairContext → TripleIndex → FixedRole → Bytes 32 × Bytes 32 → ChiTail n)

def receiveCiphertexts (randomOt : ExtensionReceiverOutput n)
    (operands : MultiplicationOperands n) (ciphertexts : CiphertextMessage n)
    (seeds : Bytes 32 × Bytes 32) : MultiplicationShare n × ResponseMessage n :=
  let chiTail := chiTail randomOt.context randomOt.tripleIndex randomOt.senderRole seeds
  let first := receiveInstance randomOt ciphertexts (chiTail.get 0) operands.b 0
  let second := receiveInstance randomOt ciphertexts (chiTail.get 1) operands.a 1
  ({ context := randomOt.context
     tripleIndex := randomOt.tripleIndex
     ownerRole := oppositeRole randomOt.senderRole
     value := operands.a * operands.b + first.2 + second.2 },
   { context := randomOt.context
     tripleIndex := randomOt.tripleIndex
     chiFirst := (first.1, second.1)
     seeds })

def maskedSum (masks : List.Vector (ZMod n) 384) (chiFirst : ZMod n)
    (chiTail : List.Vector (ZMod n) 383) : ZMod n :=
  addTail (masks.get 0 * chiFirst) fun k => masks.get k.succ * chiTail.get k

def finishSender (state : SenderAwaitingResponse n) (response : ResponseMessage n) :
    Except MtaError (MultiplicationShare n) := do
  checkBinding state.context state.tripleIndex response.context response.tripleIndex
  let chiTail := chiTail state.context state.tripleIndex state.senderRole response.seeds
  let alpha₀ := -maskedSum (state.masks.get 0) response.chiFirst.1 (chiTail.get 0)
  let alpha₁ := -maskedSum (state.masks.get 1) response.chiFirst.2 (chiTail.get 1)
  return {
    context := state.context
    tripleIndex := state.tripleIndex
    ownerRole := state.senderRole
    value := state.localProduct + alpha₀ + alpha₁ }

end Derived

/-! ## The shares add up -/

theorem addTail_eq (start : ZMod n) (term : Fin 383 → ZMod n) :
    addTail start term = start + ∑ k, term k := by
  have hfold : ∀ (l : List (Fin 383)) (sum : ZMod n),
      l.foldl (fun sum k => sum + term k) sum = sum + (l.map term).sum := by
    intro l
    induction l with
    | nil => simp
    | cons k l ih =>
      intro sum
      rw [List.foldl_cons, ih, List.map_cons, List.sum_cons, add_assoc]
  rw [addTail, hfold, Fin.sum_univ_def]

/-- 768 random transfers, with the choices of the receiver. -/
structure RandomOt (n : ℕ) where
  context : PresignPairContext
  tripleIndex : TripleIndex
  senderRole : FixedRole
  pairs : List.Vector (ZMod n × ZMod n) 768
  choices : Bytes 96

def RandomOt.sender (ot : RandomOt n) : ExtensionSenderOutput n where
  context := ot.context
  tripleIndex := ot.tripleIndex
  senderRole := ot.senderRole
  values := ot.pairs

def RandomOt.receiver (ot : RandomOt n) : ExtensionReceiverOutput n where
  context := ot.context
  tripleIndex := ot.tripleIndex
  senderRole := ot.senderRole
  choices := ot.choices
  values := List.Vector.ofFn fun i =>
    conditionalSelect (ot.pairs.get i).1 (ot.pairs.get i).2 (outputChoice ot.choices i)

theorem conditionalSelect_sub (r : ZMod n × ZMod n) (mask input : ZMod n) (choice : Bool) :
    conditionalSelect (r.1 + mask + input) (r.2 + mask - input) choice -
      conditionalSelect r.1 r.2 choice = mask + conditionalSelect input (-input) choice := by
  cases choice with
  | false | true => simp only [conditionalSelect]; ring

theorem mul_conditionalSelect_neg (x y : ZMod n) (choice : Bool) :
    x * conditionalSelect y (-y) choice = y * conditionalSelect x (-x) choice := by
  cases choice with
  | false | true => simp only [conditionalSelect]; ring

theorem conditionalSelect_neg_neg (x : ZMod n) (choice : Bool) :
    conditionalSelect (conditionalSelect x (-x) choice) (-conditionalSelect x (-x) choice) choice =
      x := by
  cases choice with
  | false => rfl
  | true => exact neg_neg x

theorem receiveInstance_eq (ot : RandomOt n) (operands : MultiplicationOperands n)
    (masks : Masks n) (chiTail : List.Vector (ZMod n) 383) (input : ZMod n) (inst : Fin 2) :
    let received := receiveInstance ot.receiver (startSender ot.sender operands masks).2
      chiTail input inst
    received.2 = maskedSum (masks.get inst) received.1 chiTail +
      ![operands.a, operands.b] inst * input := by
  simp only [receiveInstance, startSender, RandomOt.sender, RandomOt.receiver,
    List.Vector.get_ofFn, conditionalSelect_sub, maskedSum, addTail_eq, mul_add,
    Finset.sum_add_distrib]
  generalize ![operands.a, operands.b] inst = x
  simp only [mul_conditionalSelect_neg _ x, conditionalSelect_neg_neg, ← Finset.mul_sum,
    mul_comm ((masks.get inst).get _)]
  -- the signed coefficients add up to the receiver's operand
  ring

/-- The two shares add up to the product of the summed operands. -/
theorem multiplication_shares_add (ot : RandomOt n) (senderOperands : MultiplicationOperands n)
    (receiverOperands : MultiplicationOperands n) (masks : Masks n)
    (seeds : Bytes 32 × Bytes 32)
    (chiTail : PresignPairContext → TripleIndex → FixedRole → Bytes 32 × Bytes 32 → ChiTail n) :
    let started := startSender ot.sender senderOperands masks
    let received := receiveCiphertexts chiTail ot.receiver receiverOperands started.2 seeds
    ∃ share, finishSender chiTail started.1 received.2 = .ok share ∧
      received.1.value + share.value = (senderOperands.a + receiverOperands.a) *
        (senderOperands.b + receiverOperands.b) := by
  let chi := chiTail ot.context ot.tripleIndex ot.senderRole seeds
  let ciphertexts := (startSender ot.sender senderOperands masks).2
  let first := receiveInstance ot.receiver ciphertexts (chi.get 0) receiverOperands.b 0
  let second := receiveInstance ot.receiver ciphertexts (chi.get 1) receiverOperands.a 1
  have hfirst : first.2 = maskedSum (masks.get 0) first.1 (chi.get 0) +
      senderOperands.a * receiverOperands.b :=
    receiveInstance_eq ot senderOperands masks (chi.get 0) receiverOperands.b 0
  have hsecond : second.2 = maskedSum (masks.get 1) second.1 (chi.get 1) +
      senderOperands.b * receiverOperands.a :=
    receiveInstance_eq ot senderOperands masks (chi.get 1) receiverOperands.a 1
  intro started received
  refine ⟨{
    context := ot.context
    tripleIndex := ot.tripleIndex
    ownerRole := ot.senderRole
    value := senderOperands.a * senderOperands.b + -maskedSum (masks.get 0) first.1 (chi.get 0) +
      -maskedSum (masks.get 1) second.1 (chi.get 1) }, ?_, ?_⟩
  · change (do checkBinding ot.context ot.tripleIndex ot.context ot.tripleIndex; _) = _
    rw [checkBinding, ensure_of rfl, ok_bind, ensure_of rfl]
    rfl
  · change receiverOperands.a * receiverOperands.b + first.2 + second.2 + _ = _
    rw [hfirst, hsecond]
    ring

end SeamsWallet.EcdsaTriples
