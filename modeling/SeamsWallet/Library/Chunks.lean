import SeamsWallet.Library.BigEndian
import SeamsWallet.Library.Except

/-!
# Byte strings as rows of equal width

A byte string whose length is a multiple of a width splits into chunks of that width, and
the chunks put together again are the string. With it come 64-bit words written least
significant byte first, and vectors mapped by a function that can fail.
-/

namespace Library

namespace Bytes

/-- The consecutive parts of `width` bytes of a byte string. -/
def chunksExact (width : ℕ) : (count : ℕ) → Bytes (count * width) → List.Vector (Bytes width) count
  | 0, _ => List.Vector.nil
  | count + 1, bytes =>
    bytes.slice 0 width (by rw [Nat.succ_mul]; omega) ::ᵥ
      chunksExact width count (bytes.slice width (count * width) (by rw [Nat.succ_mul]; omega))

/-- The bytes of all parts one after another. -/
def concat {width count : ℕ} (chunks : List.Vector (Bytes width) count) : Bytes (count * width) :=
  ⟨chunks.toList.flatMap List.Vector.toList, by
    rw [List.length_flatMap, List.map_congr_left (fun chunk _ => chunk.toList_length),
      List.map_const', List.sum_replicate_nat, chunks.toList_length]⟩

theorem toList_slice {w : ℕ} (bytes : Bytes w) (start len : ℕ) (h : start + len ≤ w) :
    (bytes.slice start len h).toList = (bytes.toList.drop start).take len := rfl

variable {width count : ℕ} (chunks : List.Vector (Bytes width) count)

theorem toList_concat :
    (concat chunks).toList = chunks.toList.flatMap List.Vector.toList := rfl

@[simp] theorem concat_chunksExact (bytes : Bytes (count * width)) :
    concat (chunksExact width count bytes) = bytes := by
  apply List.Vector.eq
  rw [toList_concat]
  induction count with
  | zero =>
    have hempty : bytes.toList = [] := by
      apply List.eq_nil_of_length_eq_zero
      rw [bytes.toList_length, Nat.zero_mul]
    rw [hempty]
    rfl
  | succ count ih =>
    have hrest : (bytes.toList.drop width).length = count * width := by
      rw [List.length_drop, bytes.toList_length, Nat.succ_mul]
      omega
    rw [chunksExact, List.Vector.toList_cons, List.flatMap_cons, ih, toList_slice, toList_slice,
      List.drop_zero, List.take_of_length_le hrest.le, List.take_append_drop]

@[simp] theorem chunksExact_concat : chunksExact width count (concat chunks) = chunks := by
  induction count with
  | zero => exact (List.Vector.eq_nil _).trans (List.Vector.eq_nil _).symm
  | succ count ih =>
    have hlist : (concat chunks).toList = chunks.head.toList ++ (concat chunks.tail).toList := by
      rw [toList_concat, ← List.Vector.cons_head_tail chunks, List.Vector.toList_cons,
        List.flatMap_cons]
      rfl
    have hwidth := chunks.head.toList_length
    rw [chunksExact]
    conv_rhs => rw [← List.Vector.cons_head_tail chunks]
    congr 1
    · apply List.Vector.eq
      rw [toList_slice, hlist, List.drop_zero, List.take_left' hwidth]
    · rw [← ih chunks.tail]
      congr 1
      apply List.Vector.eq
      rw [toList_slice, hlist, List.drop_left' hwidth, List.take_of_length_le (by simp)]

end Bytes

/-- Mapping a vector by a function and then by its inverse changes nothing. -/
theorem map_map_of_inverse {α β : Type} {f : α → β} {g : β → α} (h : ∀ a, g (f a) = a) {count : ℕ}
    (values : List.Vector α count) : (values.map f).map g = values :=
  List.Vector.ext fun i => by rw [List.Vector.get_map, List.Vector.get_map, h]

/-- A 64-bit word from its bytes, least significant byte first. -/
def u64OfLittleEndian (bytes : Bytes 8) : UInt64 := .ofNat (ofLittleEndian bytes.toList)

def u64ToLittleEndian (word : UInt64) : Bytes 8 := toLittleEndian 8 word.toNat

@[simp] theorem u64OfLittleEndian_u64ToLittleEndian (word : UInt64) :
    u64OfLittleEndian (u64ToLittleEndian word) = word := by
  rw [u64OfLittleEndian, u64ToLittleEndian, ofLittleEndian_toLittleEndian_of_lt word.toNat_lt,
    UInt64.ofNat_toNat]

@[simp] theorem u64ToLittleEndian_u64OfLittleEndian (bytes : Bytes 8) :
    u64ToLittleEndian (u64OfLittleEndian bytes) = bytes := by
  have hlength : bytes.toList.reverse.length = 8 := by simp
  have hback := toBigEndian_ofBigEndian bytes.toList.reverse
  have hlt := ofBigEndian_lt bytes.toList.reverse
  rw [hlength] at hback hlt
  apply List.Vector.eq
  rw [u64ToLittleEndian, u64OfLittleEndian, ofLittleEndian, UInt64.toNat_ofNat_of_lt' hlt]
  change (toBigEndian 8 (ofBigEndian bytes.toList.reverse)).toList.reverse = bytes.toList
  rw [hback, List.reverse_reverse]

/-- Mapping a vector succeeds exactly with the images of its entries. -/
theorem mmap_eq_ok {ε α β : Type} {f : α → Except ε β} {count : ℕ} {values : List.Vector α count}
    {images : List.Vector β count} :
    values.mmap f = .ok images ↔ ∀ i, f (values.get i) = .ok (images.get i) := by
  induction count with
  | zero =>
    rw [List.Vector.eq_nil values, List.Vector.eq_nil images, List.Vector.mmap_nil]
    exact ⟨fun _ i => i.elim0, fun _ => rfl⟩
  | succ count ih =>
    rw [← List.Vector.cons_head_tail values, List.Vector.mmap_cons]
    simp only [ok_iff, ih]
    constructor
    · rintro ⟨first, hfirst, others, hothers, rfl⟩ i
      cases i using Fin.cases with
      | zero => simpa using hfirst
      | succ i => simpa using hothers i
    · intro h
      refine ⟨images.head, by simpa using h 0, images.tail, fun i => ?_,
        List.Vector.cons_head_tail images⟩
      simpa using h i.succ

end Library
