import SeamsWallet.Ecdsa.PresignCodec

/-!
# Compact points in frames

The point parser of the curve crate takes the compressed form of a point and also its
compact form, a tag byte `5` in place of `2`; a point is always written in compressed form.
A layout marks the bytes of a frame at which a point tag stands, and `Normalizes` relates a
byte string to the one that writing its parsed points again gives.
-/

namespace SeamsWallet

open Library EcdsaPresign PresignSession

/-! ## Encoded points -/

/-- How points are encoded: a tag byte and the coordinate. Encoding writes the tag `2` or `3`
by the parity of the other coordinate. Decoding also takes the tag `5` of the compact form,
where the even one is meant. -/
structure K256.Sec1 {n : ℕ} {P : Type} [AddCommGroup P] [Module (ZMod n) P] (K : K256 n P) :
    Prop where
  pointBytes_eq : ∀ Q, Q ≠ 0 → K.pointBytes Q = (if K.yIsOdd Q then 3 else 2) ::ᵥ K.xBytes Q
  fromEncodedPoint_eq : ∀ bytes, K.fromEncodedPoint bytes =
    if bytes.head = 2 ∨ bytes.head = 5 then K.decompress (ofBigEndian bytes.tail.toList) false
    else if bytes.head = 3 then K.decompress (ofBigEndian bytes.tail.toList) true
    else none
  decompress_eq_some : ∀ x odd Q, K.decompress x odd = some Q → Q ≠ 0 →
    K.xCoord Q = x ∧ K.yIsOdd Q = odd

namespace PresignCodec

/-- A point in compact form as it is encoded again. -/
def normalizePoint (bytes : Bytes 33) : Bytes 33 :=
  if bytes.head = 5 then 2 ::ᵥ bytes.tail else bytes

section Points

variable {n : ℕ} {P : Type} [AddCommGroup P] [Module (ZMod n) P] {K : K256 n P} {Q : P}

theorem xBytes_of_decompress (hSec1 : K.Sec1) {bytes : Bytes 32} {odd : Bool} (hQ : Q ≠ 0)
    (h : K.decompress (ofBigEndian bytes.toList) odd = some Q) :
    K.xBytes Q = bytes ∧ K.yIsOdd Q = odd := by
  obtain ⟨hx, hy⟩ := hSec1.decompress_eq_some _ _ _ h hQ
  exact ⟨by rw [K256.xBytes, hx, toBigEndian_ofBigEndian_toList], hy⟩

/-- Encoding a decoded point gives its bytes back, the compact form apart. -/
theorem pointBytes_of_fromEncodedPoint (hSec1 : K.Sec1) {bytes : Bytes 33} (hQ : Q ≠ 0)
    (h : K.fromEncodedPoint bytes = some Q) : K.pointBytes Q = normalizePoint bytes := by
  rw [hSec1.fromEncodedPoint_eq] at h
  have hsplit := List.Vector.cons_head_tail bytes
  rw [hSec1.pointBytes_eq Q hQ, normalizePoint]
  split at h
  · rename_i hhead
    obtain ⟨hx, hy⟩ := xBytes_of_decompress hSec1 hQ h
    rw [hx, hy, if_neg (by decide)]
    by_cases hcompact : bytes.head = 5
    · rw [if_pos hcompact]
    · rw [if_neg hcompact, ← hhead.resolve_right hcompact, hsplit]
  · split at h
    · rename_i hhead
      obtain ⟨hx, hy⟩ := xBytes_of_decompress hSec1 hQ h
      have hcompact : bytes.head ≠ 5 := by
        rw [hhead]
        decide
      rw [hx, hy, if_pos rfl, if_neg hcompact, ← hhead, hsplit]
    · cases h

end Points

/-! ## Where the points of a frame stand -/

def plain (width : ℕ) : List Bool := List.replicate width false

def pointTag : List Bool := true :: plain 32

def repeated (count : ℕ) (tags : List Bool) : List Bool := (List.replicate count tags).flatten

def normalize (tags : List Bool) (bytes : List UInt8) : List UInt8 :=
  List.zipWith (fun tag byte => if tag = true ∧ byte = 5 then 2 else byte) tags bytes

theorem normalize_cons (tag : Bool) (tags : List Bool) (byte : UInt8) (bytes : List UInt8) :
    normalize (tag :: tags) (byte :: bytes) =
      (if tag = true ∧ byte = 5 then 2 else byte) :: normalize tags bytes := rfl

/-- The second byte string is the first one with its compact points rewritten. -/
def Normalizes (tags : List Bool) (bytes out : List UInt8) : Prop :=
  bytes.length = tags.length ∧ normalize tags bytes = out

variable {tags : List Bool} {out : List UInt8} {bytes : List UInt8}

theorem Normalizes.length_eq (h : Normalizes tags bytes out) : out.length = tags.length := by
  rw [← h.2, normalize, List.length_zipWith, h.1, Nat.min_self]

theorem Normalizes.append {tags' : List Bool} {bytes' out' : List UInt8}
    (h : Normalizes tags bytes out) (h' : Normalizes tags' bytes' out') :
    Normalizes (tags ++ tags') (bytes ++ bytes') (out ++ out') := by
  refine ⟨by rw [List.length_append, List.length_append, h.1, h'.1], ?_⟩
  rw [normalize, List.zipWith_append h.1.symm, ← h.2, ← h'.2, normalize, normalize]

theorem normalizes_plain (bytes : List UInt8) : Normalizes (plain bytes.length) bytes bytes := by
  refine ⟨by simp [plain], ?_⟩
  induction bytes with
  | nil => rfl
  | cons byte bytes ih =>
    rw [plain, List.length_cons, List.replicate_succ, normalize_cons, ← plain, ih]
    simp

theorem normalizes_bytes {width : ℕ} (bytes : Bytes width) :
    Normalizes (plain width) bytes.toList bytes.toList := by
  have h := normalizes_plain bytes.toList
  rwa [bytes.toList_length] at h

theorem normalizes_normalizePoint (bytes : Bytes 33) :
    Normalizes pointTag bytes.toList (normalizePoint bytes).toList := by
  refine ⟨by simp [pointTag, plain], ?_⟩
  have htail := (normalizes_bytes bytes.tail).2
  rw [← List.Vector.cons_head_tail bytes, List.Vector.toList_cons, pointTag,
    normalize_cons, htail, normalizePoint]
  simp only [List.Vector.head_cons, List.Vector.tail_cons, true_and]
  split <;> rfl

theorem Normalizes.flatMap {α β : Type} {write : α → List UInt8} {write' : β → List UInt8}
    {count : ℕ} {values : List.Vector α count} {values' : List.Vector β count}
    (h : ∀ i, Normalizes tags (write (values.get i)) (write' (values'.get i))) :
    Normalizes (repeated count tags) (values.toList.flatMap write)
      (values'.toList.flatMap write') := by
  induction count with
  | zero =>
    rw [List.Vector.eq_nil values, List.Vector.eq_nil values']
    exact ⟨rfl, rfl⟩
  | succ count ih =>
    rw [← List.Vector.cons_head_tail values, ← List.Vector.cons_head_tail values']
    rw [List.Vector.toList_cons, List.Vector.toList_cons, List.flatMap_cons, List.flatMap_cons,
      repeated, List.replicate_succ, List.flatten_cons]
    refine Normalizes.append ?_ (ih fun i => ?_)
    · simpa using h 0
    · simpa using h i.succ

/-- Nothing is rewritten exactly if no tag byte is that of the compact form. -/
theorem normalize_eq_self_iff (hlength : bytes.length = tags.length) :
    normalize tags bytes = bytes ↔ ∀ i : ℕ, tags[i]? = some true → bytes[i]? ≠ some 5 := by
  induction tags generalizing bytes with
  | nil =>
    obtain rfl := List.eq_nil_of_length_eq_zero hlength
    simp [normalize]
  | cons tag tags ih =>
    cases bytes with
    | nil => simp at hlength
    | cons byte bytes =>
      have hrest := ih (Nat.succ.inj hlength)
      rw [normalize_cons, List.cons.injEq, hrest]
      constructor
      · rintro ⟨hhead, htail⟩ i htag
        cases i with
        | zero =>
          simp only [List.getElem?_cons_zero, Option.some.injEq, ne_eq] at htag ⊢
          rintro rfl
          rw [if_pos ⟨htag, rfl⟩] at hhead
          exact absurd hhead (by decide)
        | succ i => exact htail i htag
      · intro h
        refine ⟨if_neg ?_, fun i => h (i + 1)⟩
        rintro ⟨rfl, rfl⟩
        exact h 0 rfl rfl

end PresignCodec

end SeamsWallet
