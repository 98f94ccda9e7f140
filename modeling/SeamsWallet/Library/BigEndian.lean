import Mathlib.Data.Vector.Basic
import Mathlib.Tactic.Ring

/-!
# Byte strings of a fixed width

`Bytes w` is a byte string of exactly `w` bytes, the shape of a fixed-size
array. `toBigEndian w n` writes the lowest `w` bytes of `n`, most significant
byte first, and `ofBigEndian` reads a byte string back; the little-endian forms
are their reversals. Writing and then reading keeps every number that fits into
the width.
-/

namespace Library

/-! ## Numerals

A numeral of a ring names one of these instances. -/

instance numeral2 : Nat.AtLeastTwo 2 := inferInstance
instance numeral3 : Nat.AtLeastTwo 3 := inferInstance
instance numeral4 : Nat.AtLeastTwo 4 := inferInstance
instance numeral5 : Nat.AtLeastTwo 5 := inferInstance
instance numeral6 : Nat.AtLeastTwo 6 := inferInstance
instance numeral7 : Nat.AtLeastTwo 7 := inferInstance
instance numeral11 : Nat.AtLeastTwo 11 := inferInstance
instance numeral13 : Nat.AtLeastTwo 13 := inferInstance
instance numeral17 : Nat.AtLeastTwo 17 := inferInstance
instance numeral19 : Nat.AtLeastTwo 19 := inferInstance
instance numeral20 : Nat.AtLeastTwo 20 := inferInstance

/-! ## Bytes -/

/-- A byte string of exactly `w` bytes. -/
abbrev Bytes (w : ℕ) : Type := List.Vector UInt8 w

namespace Bytes

def zeros (w : ℕ) : Bytes w := List.Vector.replicate w 0

def ofList? (w : ℕ) (bytes : List UInt8) : Option (Bytes w) :=
  if h : bytes.length = w then some ⟨bytes, h⟩ else none

variable {w : ℕ}

@[simp] theorem ofList?_toList (bytes : Bytes w) : ofList? w bytes.toList = some bytes := by
  rw [ofList?, dif_pos bytes.toList_length]
  rfl

theorem ofList?_eq_some {list : List UInt8} {bytes : Bytes w}
    (h : ofList? w list = some bytes) : bytes.toList = list := by
  unfold ofList? at h
  split at h
  · cases h
    rfl
  · cases h

def append {v w : ℕ} (x : Bytes v) (y : Bytes w) : Bytes (v + w) :=
  ⟨x.toList ++ y.toList, by simp⟩

def slice {w : ℕ} (bytes : Bytes w) (start len : ℕ) (h : start + len ≤ w) : Bytes len :=
  ⟨(bytes.toList.drop start).take len, by simp; omega⟩

theorem slice_append_left {v start len : ℕ} (x : Bytes v) (y : Bytes w)
    (h : start + len ≤ v) (h' : start + len ≤ v + w) :
    (x.append y).slice start len h' = x.slice start len h := by
  apply List.Vector.eq
  have hdrop : start - x.toList.length = 0 := by simp; omega
  have htake : len - (x.toList.drop start).length = 0 := by simp; omega
  change ((x.toList ++ y.toList).drop start).take len = (x.toList.drop start).take len
  rw [List.drop_append, List.take_append, htake, List.take_zero, List.append_nil]

theorem slice_append_right {v : ℕ} (x : Bytes v) (y : Bytes w) (h : v + w ≤ v + w) :
    (x.append y).slice v w h = y := by
  apply List.Vector.eq
  change ((x.toList ++ y.toList).drop v).take w = y.toList
  have hdrop : (x.toList ++ y.toList).drop v = y.toList :=
    List.drop_left' x.toList_length
  rw [hdrop, List.take_of_length_le (by simp)]

@[simp] theorem slice_all (x : Bytes w) (h : 0 + w ≤ w) : x.slice 0 w h = x := by
  apply List.Vector.eq
  change (x.toList.drop 0).take w = x.toList
  rw [List.drop_zero, List.take_of_length_le (by simp)]

def xor {w : ℕ} (x y : Bytes w) : Bytes w := List.Vector.map₂ (· ^^^ ·) x y

@[simp] theorem xor_xor_right (x y : Bytes w) : (x.xor y).xor y = x := by
  refine List.Vector.ext fun i => ?_
  rw [xor, List.Vector.get_map₂, xor, List.Vector.get_map₂, UInt8.xor_assoc, UInt8.xor_self,
    UInt8.xor_zero]

end Bytes

/-- The number a byte string denotes, most significant byte first. -/
def ofBigEndian : List UInt8 → ℕ
  | [] => 0
  | b :: bs => b.toNat * 256 ^ bs.length + ofBigEndian bs

/-- The lowest `w` bytes of a number, most significant byte first. -/
def toBigEndian : (w : ℕ) → ℕ → Bytes w
  | 0, _ => List.Vector.nil
  | w + 1, n => UInt8.ofNat (n / 256 ^ w) ::ᵥ toBigEndian w n

theorem ofBigEndian_toBigEndian (w n : ℕ) : ofBigEndian (toBigEndian w n).toList = n % 256 ^ w := by
  induction w with
  | zero => simp [toBigEndian, ofBigEndian, Nat.mod_one]
  | succ w ih =>
    have hbyte : (UInt8.ofNat (n / 256 ^ w)).toNat = n / 256 ^ w % 256 :=
      UInt8.toNat_ofNat'
    have hsplit : n % 256 ^ (w + 1) = n % 256 ^ w + 256 ^ w * (n / 256 ^ w % 256) :=
      Nat.mod_pow_succ
    rw [toBigEndian, List.Vector.toList_cons, ofBigEndian, ih,
      List.Vector.toList_length, hbyte, hsplit]
    ring

theorem ofBigEndian_toBigEndian_of_lt {w n : ℕ} (h : n < 256 ^ w) :
    ofBigEndian (toBigEndian w n).toList = n := by
  rw [ofBigEndian_toBigEndian, Nat.mod_eq_of_lt h]

theorem toBigEndian_add_mul (w a n : ℕ) : toBigEndian w (a * 256 ^ w + n) = toBigEndian w n := by
  induction w generalizing a with
  | zero => rfl
  | succ w ih =>
    have hpos : 0 < 256 ^ w := Nat.pow_pos (by decide)
    have hshift : a * 256 ^ (w + 1) + n = a * 256 * 256 ^ w + n := by ring
    have hbyte : (a * 256 * 256 ^ w + n) / 256 ^ w = a * 256 + n / 256 ^ w := by
      rw [Nat.add_comm, Nat.add_mul_div_right _ _ hpos, Nat.add_comm]
    rw [toBigEndian, toBigEndian, hshift, ih, hbyte]
    congr 1
    apply UInt8.toNat_inj.mp
    simp only [UInt8.toNat_ofNat', Nat.reducePow]
    omega

theorem ofBigEndian_lt (bytes : List UInt8) : ofBigEndian bytes < 256 ^ bytes.length := by
  induction bytes with
  | nil => exact Nat.one_pos
  | cons byte bytes ih =>
    have hbyte := Nat.mul_le_mul_right (256 ^ bytes.length) (Nat.le_of_lt_succ byte.toNat_lt)
    rw [ofBigEndian, List.length_cons, Nat.pow_succ]
    omega

/-- The number of a byte string, written in as many bytes, is that string again. -/
theorem toBigEndian_ofBigEndian (bytes : List UInt8) :
    (toBigEndian bytes.length (ofBigEndian bytes)).toList = bytes := by
  induction bytes with
  | nil => rfl
  | cons byte bytes ih =>
    rw [List.length_cons, toBigEndian, List.Vector.toList_cons, ofBigEndian,
      toBigEndian_add_mul, ih, Nat.add_comm, Nat.add_mul_div_right _ _ (Nat.pow_pos (by decide)),
      Nat.div_eq_of_lt (ofBigEndian_lt bytes), Nat.zero_add, UInt8.ofNat_toNat]

theorem toBigEndian_ofBigEndian_toList {w : ℕ} (bytes : Bytes w) :
    toBigEndian w (ofBigEndian bytes.toList) = bytes := by
  obtain ⟨bytes, rfl⟩ := bytes
  exact List.Vector.eq _ _ (toBigEndian_ofBigEndian bytes)

def u16ToBigEndian (value : UInt16) : Bytes 2 := toBigEndian 2 value.toNat

def u16OfBigEndian (bytes : Bytes 2) : UInt16 := .ofNat (ofBigEndian bytes.toList)

@[simp] theorem u16OfBigEndian_u16ToBigEndian (value : UInt16) :
    u16OfBigEndian (u16ToBigEndian value) = value := by
  rw [u16OfBigEndian, u16ToBigEndian, ofBigEndian_toBigEndian_of_lt value.toNat_lt,
    UInt16.ofNat_toNat]

/-- The number a byte string denotes, least significant byte first. -/
def ofLittleEndian (bytes : List UInt8) : ℕ := ofBigEndian bytes.reverse

/-- The lowest `w` bytes of a number, least significant byte first. -/
def toLittleEndian (w n : ℕ) : Bytes w :=
  ⟨(toBigEndian w n).toList.reverse, by simp⟩

theorem ofLittleEndian_toLittleEndian_of_lt {w n : ℕ} (h : n < 256 ^ w) :
    ofLittleEndian (toLittleEndian w n).toList = n := by
  have hlist : (toLittleEndian w n).toList = (toBigEndian w n).toList.reverse := rfl
  rw [ofLittleEndian, hlist, List.reverse_reverse, ofBigEndian_toBigEndian_of_lt h]

end Library
