import SeamsWallet.Library.BigEndian
import SeamsWallet.Library.Ecdsa

/-!
# The curve arithmetic the ECDSA crates import

The presign and online crates take scalars, points, signatures and public key
recovery from `k256`, and key derivation from `hkdf`. `K256` is what they
assume of it, over any group of prime order: canonical 32-byte scalars,
compressed points that decode to what was encoded, and decompression of a
coordinate. Everything built from these (scalar parsing, reduction, signature
construction, verification, recovery) is defined here as the crate documents it.
-/

namespace SeamsWallet

open Library

/-- What the ECDSA crates assume of `k256`, over a group of prime order `n`. -/
structure K256 (n : ℕ) (P : Type) [AddCommGroup P] [Module (ZMod n) P]
    extends Curve n P where
  order_le : n ≤ 256 ^ 32
  xCoord_lt : ∀ Q, xCoord Q < 256 ^ 32
  xCoord_lt_two_mul_order : ∀ Q, xCoord Q < 2 * n
  yIsOdd : P → Bool
  decompress : ℕ → Bool → Option P
  decompress_xCoord : ∀ Q, Q ≠ 0 → decompress (xCoord Q) (yIsOdd Q) = some Q
  pointBytes : P → Bytes 33
  fromEncodedPoint : Bytes 33 → Option P
  fromEncodedPoint_pointBytes : ∀ Q, Q ≠ 0 → fromEncodedPoint (pointBytes Q) = some Q

namespace K256

/-! ## Scalars -/

variable {n : ℕ} {P : Type} [AddCommGroup P] [Module (ZMod n) P]

def scalarBytes (s : ZMod n) : Bytes 32 :=
  toBigEndian 32 s.val

def scalarFromRepr (n : ℕ) (bytes : Bytes 32) : Option (ZMod n) :=
  if ofBigEndian bytes.toList < n then some (ofBigEndian bytes.toList : ZMod n)
  else none

def reduceBytes (n : ℕ) (bytes : Bytes 32) : ZMod n :=
  (ofBigEndian bytes.toList : ZMod n)

def invert (s : ZMod n) : Option (ZMod n) :=
  if s = 0 then none else some s⁻¹

def isHigh (s : ZMod n) : Bool :=
  decide (n / 2 < s.val)

def normalizeS (s : ZMod n) : ZMod n :=
  if isHigh s then -s else s

theorem scalarFromRepr_scalarBytes [NeZero n] (hn : n ≤ 256 ^ 32) (s : ZMod n) :
    scalarFromRepr n (scalarBytes s) = some s := by
  have hfit : s.val < 256 ^ 32 := lt_of_lt_of_le (ZMod.val_lt s) hn
  rw [scalarFromRepr, scalarBytes, ofBigEndian_toBigEndian_of_lt hfit,
    if_pos (ZMod.val_lt s), ZMod.natCast_zmod_val]

variable {s : ZMod n}

theorem scalarFromRepr_eq_some [NeZero n] (hn : n ≤ 256 ^ 32) {bytes : Bytes 32} :
    scalarFromRepr n bytes = some s ↔ scalarBytes s = bytes := by
  constructor
  · intro h
    unfold scalarFromRepr at h
    split_ifs at h with hlt
    obtain rfl := Option.some.inj h
    rw [scalarBytes, ZMod.val_natCast_of_lt hlt, toBigEndian_ofBigEndian_toList]
  · rintro rfl
    exact scalarFromRepr_scalarBytes hn s

theorem scalarBytes_injective [NeZero n] (hn : n ≤ 256 ^ 32) :
    Function.Injective (scalarBytes : ZMod n → Bytes 32) := by
  intro a b h
  have hread := scalarFromRepr_scalarBytes hn a
  rw [h, scalarFromRepr_scalarBytes hn b] at hread
  exact (Option.some.inj hread).symm

theorem invert_eq_some {t : ZMod n} : invert s = some t ↔ s ≠ 0 ∧ t = s⁻¹ := by
  unfold invert
  split_ifs with h
  · simp [h]
  · simp [h, eq_comm]

theorem isHigh_normalizeS [NeZero n] (s : ZMod n) : isHigh (normalizeS s) = false := by
  unfold normalizeS
  split_ifs with h
  · have hhigh : n / 2 < s.val := by simpa [isHigh] using h
    have hs : NeZero s := ⟨fun h0 => by simp [h0] at hhigh⟩
    have hval : (-s).val = n - s.val := ZMod.val_neg_of_ne_zero s
    have hlt := ZMod.val_lt s
    simp only [isHigh, hval, decide_eq_false_iff_not, not_lt]
    omega
  · simpa using h

/-! ## Points -/

variable (K : K256 n P)

def xBytes (Q : P) : Bytes 32 :=
  toBigEndian 32 (K.xCoord Q)

variable (Q : P)

theorem reduceBytes_xBytes : reduceBytes n (K.xBytes Q) = K.reducedX Q := by
  rw [reduceBytes, xBytes, ofBigEndian_toBigEndian_of_lt (K.xCoord_lt Q), Curve.reducedX]

theorem pointBytes_injective {Q Q' : P} (hQ : Q ≠ 0) (hQ' : Q' ≠ 0)
    (h : K.pointBytes Q = K.pointBytes Q') : Q = Q' := by
  have hdecode := K.fromEncodedPoint_pointBytes Q hQ
  rw [h, K.fromEncodedPoint_pointBytes Q' hQ'] at hdecode
  exact (Option.some.inj hdecode).symm

/-! ## Signatures -/

structure Signature (n : ℕ) where
  r : ZMod n
  s : ZMod n
  r_ne_zero : r ≠ 0
  s_ne_zero : s ≠ 0

def Signature.fromScalars (r s : ZMod n) : Option (Signature n) :=
  if h : r ≠ 0 ∧ s ≠ 0 then some ⟨r, s, h.1, h.2⟩ else none

/-- Verifies a signature over a prehashed message. A high `s` is refused. -/
def verifyPrehash [Fact n.Prime] (X : P) (digest : Bytes 32) (signature : Signature n) : Bool :=
  !isHigh signature.s &&
    decide (K.Verifies X (reduceBytes n digest) signature.r signature.s)

/-- The integer a recovery id restores the nonce coordinate from: ids with the
second bit set stand for a coordinate that was reduced. -/
def recoveredCoordinate (r : ZMod n) (xReduced : Bool) : Option ℕ :=
  if xReduced then
    if r.val + n < 256 ^ 32 then some (r.val + n) else none
  else some r.val

/-- Recovers the public key of a signature from a recovery id. The recovered
key is returned only if it verifies the signature. -/
def recoverFromPrehash [Fact n.Prime] [DecidableEq P] (digest : Bytes 32) (signature : Signature n)
    (id : ℕ) : Option P := do
  let x ← recoveredCoordinate signature.r (id.testBit 1)
  let bigR ← K.decompress x (id.testBit 0)
  let rInv ← invert signature.r
  let z := reduceBytes n digest
  let key := (-(rInv * z)) • K.generator + (rInv * signature.s) • bigR
  if key = 0 then none
  else if K.verifyPrehash key digest signature then some key
  else none

/-- Of the two forms of a coordinate below twice the order, the one named by
whether it was reduced restores it. -/
theorem recoveredCoordinate_reducedX :
    recoveredCoordinate (K.reducedX Q) (decide (n ≤ K.xCoord Q)) = some (K.xCoord Q) := by
  have hval : (K.reducedX Q).val = K.xCoord Q % n := ZMod.val_natCast n _
  unfold recoveredCoordinate
  by_cases hle : n ≤ K.xCoord Q
  · have hmod : K.xCoord Q % n = K.xCoord Q - n := by
      rw [Nat.mod_eq_sub_mod hle, Nat.mod_eq_of_lt]
      have := K.xCoord_lt_two_mul_order Q
      omega
    have hsum : (K.reducedX Q).val + n = K.xCoord Q := by omega
    simpa [hle, hsum] using K.xCoord_lt Q
  · have hmod : K.xCoord Q % n = K.xCoord Q := Nat.mod_eq_of_lt (by omega)
    simp [hle, hval, hmod]

/-- The recovery id of a nonce point: the parity of its second coordinate and
whether its first one was reduced. -/
def recoveryIdOf (Q : P) : ℕ :=
  (K.yIsOdd Q).toNat + 2 * (decide (n ≤ K.xCoord Q)).toNat

theorem recoveryIdOf_mem : K.recoveryIdOf Q ∈ [0, 1, 2, 3] := by
  unfold recoveryIdOf
  cases K.yIsOdd Q <;> cases decide (n ≤ K.xCoord Q) <;> decide

theorem recoveryIdOf_testBit : (K.recoveryIdOf Q).testBit 0 = K.yIsOdd Q ∧
      (K.recoveryIdOf Q).testBit 1 = decide (n ≤ K.xCoord Q) := by
  unfold recoveryIdOf
  cases K.yIsOdd Q <;> cases decide (n ≤ K.xCoord Q) <;> decide

variable {κ : ZMod n}

/-- A signature equation survives low-`s` normalisation: the nonce changes its
sign with `s`, and the reduced coordinate of its point stays. -/
theorem exists_nonce_normalizeS {m : ZMod n} (hκ : κ ≠ 0) (hsign : κ * s = m) :
    ∃ κ', κ' ≠ 0 ∧ K.reducedX (κ' • K.generator) = K.reducedX (κ • K.generator) ∧
      κ' * normalizeS s = m := by
  unfold normalizeS
  split_ifs with hhigh
  · refine ⟨-κ, neg_ne_zero.mpr hκ, ?_, ?_⟩
    · rw [neg_smul, Curve.reducedX_neg]
    · rw [neg_mul_neg, hsign]
  · exact ⟨κ, hκ, rfl, hsign⟩

/-- A verifying low signature made with the nonce `κ` recovers the key at the
recovery id of the nonce point. -/
theorem recoverFromPrehash_of_nonce [Fact n.Prime]
    [DecidableEq P] {digest : Bytes 32} {signature : Signature n} {x : ZMod n}
    (hκ : κ ≠ 0) (hx : x ≠ 0) (hr : signature.r = K.reducedX (κ • K.generator))
    (hsign : κ * signature.s = reduceBytes n digest + signature.r * x)
    (hverify : K.verifyPrehash (x • K.generator) digest signature = true) :
    K.recoverFromPrehash digest signature (K.recoveryIdOf (κ • K.generator)) =
      some (x • K.generator) := by
  have hpoint : κ • K.generator ≠ 0 := smul_ne_zero hκ K.generator_ne_zero
  have hkey : x • K.generator ≠ 0 := smul_ne_zero hx K.generator_ne_zero
  obtain ⟨hodd, hreduced⟩ := K.recoveryIdOf_testBit (κ • K.generator)
  have hinv : invert signature.r = some signature.r⁻¹ :=
    invert_eq_some.mpr ⟨signature.r_ne_zero, rfl⟩
  have hrecovered : (-(signature.r⁻¹ * reduceBytes n digest)) • K.generator +
        (signature.r⁻¹ * signature.s) • κ • K.generator = x • K.generator := by
    have hscalar : -(signature.r⁻¹ * reduceBytes n digest) +
        signature.r⁻¹ * signature.s * κ = x := by
      have hr0 := signature.r_ne_zero
      field_simp
      linear_combination hsign
    rw [smul_smul, ← add_smul, hscalar]
  have hcoord : recoveredCoordinate signature.r
      (decide (n ≤ K.xCoord (κ • K.generator))) = some (K.xCoord (κ • K.generator)) := by
    rw [hr, K.recoveredCoordinate_reducedX]
  simp only [recoverFromPrehash, hreduced, hodd, hcoord, hinv, Option.bind_eq_bind,
    Option.bind_some, K.decompress_xCoord _ hpoint, hrecovered, hkey, hverify, if_true,
    if_false]

/-! ## A small curve -/

instance : Fact (Nat.Prime 31) := ⟨by decide⟩

/-- The additive group of order `31`, read as a curve: a point and its negative
share the smaller of their representatives as coordinate. It is small enough to
evaluate the protocols on. -/
def additive31 : K256 31 (ZMod 31) where
  generator := 1
  generator_ne_zero := by decide
  xCoord Q := min Q.val (-Q).val
  xCoord_neg := by decide
  order_le := by norm_num
  xCoord_lt Q := lt_of_le_of_lt (min_le_left _ _) (lt_trans (ZMod.val_lt Q) (by norm_num))
  xCoord_lt_two_mul_order := by decide
  yIsOdd Q := decide (15 < Q.val)
  decompress x odd := if x ≤ 15 then some (if odd then -(x : ZMod 31) else x) else none
  decompress_xCoord := by decide
  pointBytes Q := toBigEndian 33 Q.val
  fromEncodedPoint bytes :=
    if ofBigEndian bytes.toList < 31 then some (ofBigEndian bytes.toList) else none
  fromEncodedPoint_pointBytes Q _ := by
    have hfit : Q.val < 256 ^ 33 := lt_trans (ZMod.val_lt Q) (by norm_num)
    rw [ofBigEndian_toBigEndian_of_lt hfit, if_pos (ZMod.val_lt Q), ZMod.natCast_zmod_val]

end K256

end SeamsWallet
