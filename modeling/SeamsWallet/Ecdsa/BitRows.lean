import SeamsWallet.Ecdsa.PresignMessages
import Mathlib.Algebra.Polynomial.BigOperators
import Mathlib.Tactic.LinearCombination

/-!
# Products of bit rows

The extension of the oblivious transfers checks its rows by products of 128-bit rows over
the field of two elements. The loop goes through the bits from the highest, adds the partial
products of both words at once and then shifts the four words of the output by one bit.

Read as polynomials, a step of the loop is a step of the Horner scheme but for the bit that
the shift drops from the last word. All such bits together are a multiple of `X ^ 256`, and
the degrees leave no room for one other than zero.
-/

namespace SeamsWallet.PresignCodec

open Polynomial

def BitRow.conditionalSelect (left right : BitRow) (choice : Bool) : BitRow :=
  if choice then right else left

/-- Adds the partial products of both words at one bit. -/
def addPartialProducts (x y : BitRow) (bitIndex : ℕ) (output : Fin 4 → UInt64) : Fin 4 → UInt64 :=
  (List.finRange 2).foldl (fun output (wordIndex : Fin 2) =>
    let bit := (x.get wordIndex).toNat.testBit bitIndex
    let selected := BitRow.conditionalSelect (.replicate 2 0) y bit
    (List.finRange 2).foldl (fun output (otherIndex : Fin 2) =>
      let i : Fin 4 := ⟨wordIndex + otherIndex, by omega⟩
      Function.update output i (output i ^^^ selected.get otherIndex)) output) output

/-- Shifts all words by one bit, carrying from each word to the next. -/
def shiftWords (output : Fin 4 → UInt64) : Fin 4 → UInt64 :=
  ((List.finRange 4).foldl (fun (state : (Fin 4 → UInt64) × UInt64) i =>
    (Function.update state.1 i (state.1 i <<< 1 ||| state.2), state.1 i >>> 63)) (output, 0)).1

def gfMulStep (x y : BitRow) (output : Fin 4 → UInt64) (bitIndex : ℕ) : Fin 4 → UInt64 :=
  let output := addPartialProducts x y bitIndex output
  if bitIndex ≠ 0 then shiftWords output else output

def BitRow.gfMul (x y : BitRow) : DoubleBitRow :=
  .ofFn ((List.range 64).reverse.foldl (gfMulStep x y) fun _ => 0)

variable {count : ℕ}

def xorWords (x y : List.Vector UInt64 count) : List.Vector UInt64 count := x.map₂ (· ^^^ ·) y

def BitRow.xor (x y : BitRow) : BitRow := xorWords x y

def DoubleBitRow.xor (x y : DoubleBitRow) : DoubleBitRow := xorWords x y

/-! ## Words as polynomials -/

noncomputable def wordPoly (word : UInt64) : (ZMod 2)[X] :=
  ∑ i ∈ Finset.range 64, if word.toNat.testBit i then X ^ i else 0

/-- The bits of a row as coefficients, the lowest bit first. -/
noncomputable def rowPoly (words : Fin count → UInt64) : (ZMod 2)[X] :=
  ∑ i, X ^ (64 * i.val) * wordPoly (words i)

variable (word : UInt64)

theorem testBit_of_le {k : ℕ} (hk : 64 ≤ k) : word.toNat.testBit k = false :=
  Nat.testBit_lt_two_pow (word.toNat_lt.trans_le (Nat.pow_le_pow_right (by omega) hk))

theorem coeff_wordPoly (k : ℕ) :
    (wordPoly word).coeff k = if word.toNat.testBit k then 1 else 0 := by
  have hterm : ∀ i, (if word.toNat.testBit i then (X ^ i : (ZMod 2)[X]) else 0).coeff k =
      if k = i then (if word.toNat.testBit k then 1 else 0) else 0 := by
    intro i
    by_cases hk : k = i
    · by_cases hbit : word.toNat.testBit i <;> simp [hk, hbit]
    · by_cases hbit : word.toNat.testBit i <;> simp [hk, hbit, coeff_X_pow]
  rw [wordPoly, finsetSum_coeff, Finset.sum_congr rfl fun i _ => hterm i, Finset.sum_ite_eq]
  by_cases hk : k < 64
  · simp [hk]
  · simp [hk, testBit_of_le word (Nat.le_of_not_lt hk)]

theorem coeff_wordPoly_of_le {k : ℕ} (hk : 64 ≤ k) : (wordPoly word).coeff k = 0 := by
  rw [coeff_wordPoly, testBit_of_le word hk, if_neg Bool.false_ne_true]

theorem wordPoly_zero : wordPoly 0 = 0 := by simp [wordPoly]

theorem wordPoly_xor (v w : UInt64) : wordPoly (v ^^^ w) = wordPoly v + wordPoly w := by
  ext k
  rw [coeff_add, coeff_wordPoly, coeff_wordPoly, coeff_wordPoly, UInt64.toNat_xor, Nat.testBit_xor]
  cases v.toNat.testBit k <;> cases w.toNat.testBit k <;> decide

theorem testBit_carry (k : ℕ) :
    (word >>> 63).toNat.testBit k = (decide (k = 0) && word.toNat.testBit 63) := by
  have hshift : (word >>> 63).toNat = word.toNat >>> 63 := by simp
  rw [hshift, Nat.testBit_shiftRight]
  cases k with
  | zero => simp
  | succ k => simp [testBit_of_le word (by omega : 64 ≤ 63 + (k + 1))]

/-- The bit that a shifted word loses is the carry into the next one. -/
theorem wordPoly_shift (before : UInt64) :
    wordPoly (word <<< 1 ||| before >>> 63) + X ^ 64 * wordPoly (word >>> 63) =
      X * wordPoly word + wordPoly (before >>> 63) := by
  have hshift : (word <<< 1).toNat = word.toNat <<< 1 % 2 ^ 64 := by simp
  ext k
  simp only [coeff_add, coeff_X_pow_mul', coeff_wordPoly, UInt64.toNat_or, Nat.testBit_or,
    testBit_carry, hshift, Nat.testBit_mod_two_pow, Nat.testBit_shiftLeft]
  cases k with
  | zero => simp
  | succ k =>
    rw [coeff_X_mul, coeff_wordPoly]
    rcases lt_trichotomy k 63 with hk | rfl | hk
    · simp [show ¬ 64 ≤ k + 1 by omega, show k + 1 < 64 by omega]
    · simp
    · have hbit := testBit_of_le word (Nat.succ_le_of_lt hk)
      simp [hbit, show ¬ k + 1 < 64 by omega, show k - 63 ≠ 0 by omega]

/-! ## Rows as polynomials -/

variable (words : Fin count → UInt64)

theorem coeff_rowPoly (i : Fin count) {k : ℕ} (hk : k < 64) :
    (rowPoly words).coeff (64 * i.val + k) = if (words i).toNat.testBit k then 1 else 0 := by
  rw [rowPoly, finsetSum_coeff, Finset.sum_eq_single i _ (by simp)]
  · rw [Nat.add_comm, coeff_X_pow_mul, coeff_wordPoly]
  · intro j _ hne
    rw [coeff_X_pow_mul']
    split_ifs with hle
    · exact coeff_wordPoly_of_le _ (by omega)
    · rfl

theorem natDegree_rowPoly : (rowPoly words).natDegree ≤ 64 * count - 1 := by
  refine natDegree_sum_le_of_forall_le _ _ fun i _ => natDegree_mul_le.trans ?_
  have hword : (wordPoly (words i)).natDegree ≤ 63 :=
    natDegree_le_iff_coeff_eq_zero.mpr fun k hk => coeff_wordPoly_of_le _ hk
  rw [natDegree_X_pow]
  omega

theorem eq_of_rowPoly_eq {u v : List.Vector UInt64 count} (h : rowPoly u.get = rowPoly v.get) :
    u = v := by
  refine List.Vector.ext fun i => UInt64.toNat_inj.mp (Nat.eq_of_testBit_eq fun k => ?_)
  by_cases hk : k < 64
  · have hbit := coeff_rowPoly u.get i hk
    rw [h, coeff_rowPoly v.get i hk] at hbit
    cases hu : (u.get i).toNat.testBit k <;> cases hv : (v.get i).toNat.testBit k <;>
      simp [hu, hv] at hbit ⊢
  · rw [testBit_of_le _ (Nat.le_of_not_lt hk), testBit_of_le _ (Nat.le_of_not_lt hk)]

theorem rowPoly_xorWords (u v : List.Vector UInt64 count) :
    rowPoly (xorWords u v).get = rowPoly u.get + rowPoly v.get := by
  simp only [rowPoly, xorWords, List.Vector.get_map₂, wordPoly_xor, mul_add, Finset.sum_add_distrib]

/-! ## The loop -/

/-- The bits of both words of a row at one position. -/
noncomputable def bitsAt (x : BitRow) (k : ℕ) : (ZMod 2)[X] :=
  ∑ i, X ^ (64 * i.val) * if (x.get i).toNat.testBit k then 1 else 0

theorem sum_bitsAt (x : BitRow) : ∑ j ∈ Finset.range 64, X ^ j * bitsAt x j = rowPoly x.get := by
  simp only [bitsAt, rowPoly, wordPoly, Finset.mul_sum]
  rw [Finset.sum_comm]
  refine Finset.sum_congr rfl fun i _ => Finset.sum_congr rfl fun j _ => ?_
  split_ifs <;> ring

variable (x y : BitRow) (output : Fin 4 → UInt64)

theorem rowPoly_addPartialProducts (k : ℕ) : rowPoly (addPartialProducts x y k output) =
    rowPoly output + bitsAt x k * rowPoly y.get := by
  let selected (i : Fin 2) :=
    BitRow.conditionalSelect (.replicate 2 0) y ((x.get i).toNat.testBit k)
  have hwords : addPartialProducts x y k output = ![output 0 ^^^ (selected 0).get 0,
      output 1 ^^^ (selected 0).get 1 ^^^ (selected 1).get 0,
      output 2 ^^^ (selected 1).get 1, output 3] := by
    funext i
    fin_cases i <;> rfl
  have hselected (i j : Fin 2) : wordPoly ((selected i).get j) =
      (if (x.get i).toNat.testBit k then 1 else 0) * wordPoly (y.get j) := by
    simp only [selected, BitRow.conditionalSelect]
    split_ifs
    · rw [one_mul]
    · rw [List.Vector.get_replicate, wordPoly_zero, zero_mul]
  simp only [hwords, rowPoly, bitsAt, Fin.sum_univ_four, Fin.sum_univ_two, Fin.isValue,
    Fin.coe_ofNat_eq_mod, Matrix.cons_val, wordPoly_xor, hselected]
  ring

theorem rowPoly_shiftWords :
    ∃ lost, rowPoly (shiftWords output) = X * rowPoly output + X ^ 256 * lost := by
  have hwords : shiftWords output = ![output 0 <<< 1 ||| (0 : UInt64) >>> 63,
      output 1 <<< 1 ||| output 0 >>> 63, output 2 <<< 1 ||| output 1 >>> 63,
      output 3 <<< 1 ||| output 2 >>> 63] := by
    funext i
    fin_cases i <;> rfl
  have hzero : wordPoly ((0 : UInt64) >>> 63) = 0 := wordPoly_zero
  refine ⟨-wordPoly (output 3 >>> 63), ?_⟩
  simp only [hwords, rowPoly, Fin.sum_univ_four, Fin.isValue, Fin.coe_ofNat_eq_mod,
    Matrix.cons_val]
  linear_combination wordPoly_shift (output 0) 0 + X ^ 64 * wordPoly_shift (output 1) (output 0) +
    X ^ 128 * wordPoly_shift (output 2) (output 1) +
    X ^ 192 * wordPoly_shift (output 3) (output 2) + hzero

/-- The loop over the bits up to `k` shifts what is there by `k` and adds the products. -/
theorem rowPoly_loop (k : ℕ) :
    ∃ lost, rowPoly ((List.range (k + 1)).reverse.foldl (gfMulStep x y) output) =
      X ^ k * rowPoly output + (∑ j ∈ Finset.range (k + 1), X ^ j * bitsAt x j) * rowPoly y.get +
        X ^ 256 * lost := by
  induction k generalizing output with
  | zero => exact ⟨0, by simp [gfMulStep, rowPoly_addPartialProducts]⟩
  | succ k ih =>
    obtain ⟨bit, hbit⟩ := rowPoly_shiftWords (addPartialProducts x y (k + 1) output)
    obtain ⟨lost, hlost⟩ := ih (shiftWords (addPartialProducts x y (k + 1) output))
    rw [hbit, rowPoly_addPartialProducts] at hlost
    rw [List.range_succ, List.reverse_append, List.reverse_singleton, List.singleton_append,
      List.foldl_cons, gfMulStep, if_pos k.succ_ne_zero, Finset.sum_range_succ]
    exact ⟨lost + X ^ k * bit, by linear_combination hlost⟩

theorem natDegree_mul_rowPoly : (rowPoly x.get * rowPoly y.get).natDegree ≤ 254 := by
  have hx := natDegree_rowPoly x.get
  have hy := natDegree_rowPoly y.get
  exact natDegree_mul_le.trans (by omega)

theorem rowPoly_gfMul : rowPoly (x.gfMul y).get = rowPoly x.get * rowPoly y.get := by
  obtain ⟨lost, hlost⟩ := rowPoly_loop x y (fun _ => 0) 63
  have hloop : (List.range 64).reverse.foldl (gfMulStep x y) (fun _ => 0) = (x.gfMul y).get :=
    (funext (List.Vector.get_ofFn _)).symm
  have hzero : rowPoly (fun _ : Fin 4 => (0 : UInt64)) = 0 := by simp [rowPoly, wordPoly_zero]
  simp only [Nat.reduceAdd, hloop, sum_bitsAt, hzero, mul_zero, zero_add] at hlost
  have hlost_zero : lost = 0 := by
    ext k
    have hcoeff := congrArg (coeff · (k + 256)) hlost
    have hproduct := natDegree_mul_rowPoly x y
    have houtput := natDegree_rowPoly (x.gfMul y).get
    rw [coeff_add, coeff_X_pow_mul, coeff_eq_zero_of_natDegree_lt (by omega),
      coeff_eq_zero_of_natDegree_lt (by omega), zero_add] at hcoeff
    exact hcoeff.symm
  rw [hlost, hlost_zero, mul_zero, add_zero]

/-- The product of two rows is their carry-less product, no bit lost, in the 255 lowest of
the bits; so it is linear in both rows. -/
theorem gfMul_carryless (x x' y y' : BitRow) :
    rowPoly (x.gfMul y).get = rowPoly x.get * rowPoly y.get ∧
      (rowPoly (x.gfMul y).get).natDegree ≤ 254 ∧
      (x.xor x').gfMul y = (x.gfMul y).xor (x'.gfMul y) ∧
      x.gfMul (y.xor y') = (x.gfMul y).xor (x.gfMul y') := by
  refine ⟨rowPoly_gfMul x y, ?_, eq_of_rowPoly_eq ?_, eq_of_rowPoly_eq ?_⟩
  · rw [rowPoly_gfMul]
    exact natDegree_mul_rowPoly x y
  · simp only [rowPoly_gfMul, BitRow.xor, DoubleBitRow.xor, rowPoly_xorWords, add_mul]
  · simp only [rowPoly_gfMul, BitRow.xor, DoubleBitRow.xor, rowPoly_xorWords, mul_add]

end SeamsWallet.PresignCodec
