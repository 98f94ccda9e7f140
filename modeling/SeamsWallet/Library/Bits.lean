import Mathlib.Data.List.Basic
import Mathlib.Data.Nat.Bitwise

/-!
# Bits of byte strings

A byte string read as a sequence of bits, the lowest bit of each byte first: reading and
setting one bit, exclusive or, and strings of bits packed one by one. Byte strings of one
length are equal when their bits are. Rows of one width laid end to end are found again by
their index.
-/

namespace Library

def packedBit (bytes : List UInt8) (i : ℕ) : Bool := (bytes.getD (i / 8) 0).toNat.testBit (i % 8)

/-- Sets the bit at an index if the given bit is set. -/
def orBit (bytes : List UInt8) (i : ℕ) (bit : Bool) : List UInt8 :=
  bytes.modify (i / 8) (· ||| UInt8.ofNat (bit.toNat <<< (i % 8)))

def xorBytes (x y : List UInt8) : List UInt8 := List.zipWith (· ^^^ ·) x y

/-- The bits of a function, packed from the first to the last. -/
def packBits (width : ℕ) (bit : ℕ → Bool) : List UInt8 :=
  (List.range width).foldl (fun bytes i => orBit bytes i (bit i)) (List.replicate (width / 8) 0)

/-! ## Bytes -/

theorem eq_of_testBit {x y : UInt8} (h : ∀ k < 8, x.toNat.testBit k = y.toNat.testBit k) :
    x = y := by
  refine UInt8.toNat_inj.mp (Nat.eq_of_testBit_eq fun k => ?_)
  by_cases hk : k < 8
  · exact h k hk
  · have hle : 2 ^ 8 ≤ 2 ^ k := Nat.pow_le_pow_right (by omega) (by omega)
    rw [Nat.testBit_lt_two_pow (x.toNat_lt.trans_le hle),
      Nat.testBit_lt_two_pow (y.toNat_lt.trans_le hle)]

theorem testBit_or_shift {x : UInt8} {bit : Bool} {k j : ℕ} (hk : k < 8) (hj : j < 8) :
    (x ||| UInt8.ofNat (bit.toNat <<< k)).toNat.testBit j =
      (x.toNat.testBit j || (decide (k = j) && bit)) := by
  have hshift : ∀ k < 8, ∀ j < 8, ∀ bit : Bool,
      (UInt8.ofNat (bit.toNat <<< k)).toNat.testBit j = (decide (k = j) && bit) := by
    decide
  rw [UInt8.toNat_or, Nat.testBit_or, hshift k hk j hj bit]

/-! ## Byte strings -/

@[simp] theorem length_orBit (bytes : List UInt8) (i : ℕ) (bit : Bool) :
    (orBit bytes i bit).length = bytes.length := List.length_modify ..

theorem length_foldl_orBit (bit : ℕ → Bool) (l : List ℕ) (bytes : List UInt8) :
    (l.foldl (fun bytes i => orBit bytes i (bit i)) bytes).length = bytes.length := by
  induction l generalizing bytes with
  | nil => rfl
  | cons i l ih => rw [List.foldl_cons, ih, length_orBit]

@[simp] theorem length_packBits (width : ℕ) (bit : ℕ → Bool) :
    (packBits width bit).length = width / 8 := by
  rw [packBits, length_foldl_orBit, List.length_replicate]

theorem packedBit_orBit {bytes : List UInt8} {i : ℕ} (hi : i / 8 < bytes.length) (bit : Bool)
    (j : ℕ) : packedBit (orBit bytes i bit) j = (packedBit bytes j || (decide (i = j) && bit)) := by
  have hi8 : i % 8 < 8 := Nat.mod_lt _ (by omega)
  have hj8 : j % 8 < 8 := Nat.mod_lt _ (by omega)
  by_cases hbyte : i / 8 = j / 8
  · have hindex : (i % 8 = j % 8) = (i = j) := by
      rw [eq_iff_iff]
      omega
    have hget : (orBit bytes i bit).getD (j / 8) 0 =
        bytes.getD (j / 8) 0 ||| UInt8.ofNat (bit.toNat <<< (i % 8)) := by
      rw [hbyte] at hi
      simp only [orBit, hbyte, List.getD_eq_getElem?_getD, List.getElem?_modify_eq,
        List.getElem?_eq_getElem hi, Option.map_some, Option.getD_some, Option.map_eq_map]
    rw [packedBit, hget, testBit_or_shift hi8 hj8, packedBit]
    simp only [hindex]
  · have hne : i ≠ j := fun h => hbyte (by rw [h])
    have hget : (orBit bytes i bit).getD (j / 8) 0 = bytes.getD (j / 8) 0 := by
      simp only [orBit, List.getD_eq_getElem?_getD, List.getElem?_modify_ne _ _ hbyte]
    rw [packedBit, hget, packedBit, decide_eq_false hne, Bool.false_and, Bool.or_false]

theorem packedBit_replicate_zero (n i : ℕ) : packedBit (List.replicate n 0) i = false := by
  have hget : (List.replicate n (0 : UInt8)).getD (i / 8) 0 = 0 := by
    rw [List.getD_eq_getElem?_getD, List.getElem?_replicate]
    split <;> rfl
  rw [packedBit, hget]
  exact Nat.zero_testBit _

variable {width : ℕ}

/-- The packed string has the bits it was packed from. -/
theorem packedBit_packBits (hwidth : 8 ∣ width) (bit : ℕ → Bool) {j : ℕ} (hj : j < width) :
    packedBit (packBits width bit) j = bit j := by
  have hfold : ∀ n ≤ width, ∀ j, packedBit ((List.range n).foldl
      (fun bytes i => orBit bytes i (bit i)) (List.replicate (width / 8) 0)) j =
        (decide (j < n) && bit j) := by
    intro n
    induction n with
    | zero =>
      intro _ j
      rw [List.range_zero, List.foldl_nil, packedBit_replicate_zero]
      rfl
    | succ n ih =>
      intro hn j
      have hlength : n / 8 < ((List.range n).foldl (fun bytes i => orBit bytes i (bit i))
          (List.replicate (width / 8) 0)).length := by
        rw [length_foldl_orBit, List.length_replicate]
        omega
      rw [List.range_succ, List.foldl_concat, packedBit_orBit hlength, ih (by omega)]
      by_cases hlt : j < n
      · have hne : n ≠ j := by omega
        simp [hlt, hne, Nat.lt_succ_of_lt hlt]
      · by_cases heq : n = j
        · simp [heq]
        · have hge : ¬ j < n + 1 := by omega
          simp [hlt, heq, hge]
  rw [packBits, hfold width le_rfl, decide_eq_true hj, Bool.true_and]

variable {x y : List UInt8}

theorem eq_of_packedBit (hlength : x.length = y.length)
    (h : ∀ i < 8 * x.length, packedBit x i = packedBit y i) : x = y := by
  refine List.ext_getElem hlength fun i hi hi' => eq_of_testBit fun k hk => ?_
  have hbit := h (8 * i + k) (by omega)
  have hdiv : (8 * i + k) / 8 = i := by omega
  have hmod : (8 * i + k) % 8 = k := by omega
  rw [packedBit, packedBit, hdiv, hmod, List.getD_eq_getElem _ _ hi,
    List.getD_eq_getElem _ _ hi'] at hbit
  exact hbit

@[simp] theorem length_xorBytes (x y : List UInt8) :
    (xorBytes x y).length = min x.length y.length := List.length_zipWith

theorem packedBit_xorBytes (hlength : x.length = y.length) (i : ℕ) :
    packedBit (xorBytes x y) i = (packedBit x i ^^ packedBit y i) := by
  have hget : (xorBytes x y).getD (i / 8) 0 = x.getD (i / 8) 0 ^^^ y.getD (i / 8) 0 := by
    simp only [xorBytes, List.getD_eq_getElem?_getD, List.getElem?_zipWith]
    by_cases hi : i / 8 < x.length
    · rw [List.getElem?_eq_getElem hi, List.getElem?_eq_getElem (hlength ▸ hi)]
      rfl
    · rw [List.getElem?_eq_none (by omega), List.getElem?_eq_none (by omega)]
      rfl
  rw [packedBit, hget, UInt8.toNat_xor, Nat.testBit_xor]
  rfl

theorem xorBytes_xorBytes_right (hlength : x.length = y.length) :
    xorBytes (xorBytes x y) y = x := by
  have hxor : (xorBytes x y).length = y.length := by
    rw [length_xorBytes]
    omega
  refine eq_of_packedBit (by rw [length_xorBytes, hxor, hlength, min_self]) fun i _ => ?_
  rw [packedBit_xorBytes hxor, packedBit_xorBytes hlength, Bool.xor_assoc, Bool.xor_self,
    Bool.xor_false]

/-! ## Rows of one width -/

variable {α β : Type*} {row : β → List α} {l : List β} {i : ℕ}

theorem length_flatten_map (hwidth : ∀ b, (row b).length = width) :
    (l.map row).flatten.length = l.length * width := by
  simp [List.length_flatten, Function.comp_def, hwidth]

/-- The row at an index, cut out of the rows laid end to end. -/
theorem slice_flatten_map (hwidth : ∀ b, (row b).length = width) (hi : i < l.length) :
    ((l.map row).flatten.drop (i * width)).take width = row l[i] := by
  induction l generalizing i with
  | nil => cases hi
  | cons b l ih =>
    rw [List.map_cons, List.flatten_cons]
    cases i with
    | zero => simp [hwidth]
    | succ i =>
      have hdrop : (row b ++ (l.map row).flatten).drop ((i + 1) * width) =
          (l.map row).flatten.drop (i * width) := by
        rw [Nat.succ_mul, Nat.add_comm, ← hwidth b, List.drop_length_add_append]
      rw [hdrop]
      exact ih (Nat.lt_of_succ_lt_succ hi)

/-- The entry of a row, found in the rows laid end to end. -/
theorem getD_flatten_map (hwidth : ∀ b, (row b).length = width) (hi : i < l.length) {k : ℕ}
    (hk : k < width) (d : α) :
    (l.map row).flatten.getD (i * width + k) d = (row l[i]).getD k d := by
  rw [← slice_flatten_map hwidth hi, List.getD_eq_getElem?_getD, List.getD_eq_getElem?_getD,
    List.getElem?_take_of_lt hk, List.getElem?_drop]

end Library
