import SeamsWallet.Ed25519.FrostEd25519
import SeamsWallet.ThresholdPrf.Shamir

/-!
# The group of the threshold PRF

`curve25519_dalek` gives the Ristretto group, of prime order, with a canonical
32-byte encoding of its points, and `sha2` the hash. `Ristretto255` is what the
crates assume of them. The scalars are those of `curve25519_dalek`.
-/

namespace SeamsWallet.ThresholdPrf

open Library

/-- What the PRF crates assume of the group and of the hash, over a group of prime
order `q`. -/
structure Ristretto255 (q : ℕ) (G : Type) [AddCommGroup G] [Module (ZMod q) G] where
  basepoint : G
  basepoint_ne_zero : basepoint ≠ 0
  shareIds_lt : 65535 < q
  order_le : q ≤ 256 ^ 32
  compress : G → Bytes 32
  decompress : Bytes 32 → Option G
  decompress_compress : ∀ Q, decompress (compress Q) = some Q
  sha512 : List UInt8 → Bytes 64
  fromUniformBytes : Bytes 64 → G

namespace Ristretto255

variable {q : ℕ} {G : Type} [AddCommGroup G] [Module (ZMod q) G]

def hashFromBytes (R : Ristretto255 q G) (input : List UInt8) : G :=
  R.fromUniformBytes (R.sha512 input)

variable (R : Ristretto255 q G)

theorem smul_basepoint_injective [Fact q.Prime] :
    Function.Injective fun s : ZMod q => s • R.basepoint :=
  smul_left_injective (ZMod q) R.basepoint_ne_zero

theorem smul_basepoint_eq_zero [Fact q.Prime] {s : ZMod q} : s • R.basepoint = 0 ↔ s = 0 := by
  rw [smul_eq_zero, or_iff_left R.basepoint_ne_zero]

theorem two_ne_zero [Fact q.Prime] (R : Ristretto255 q G) : (2 : ZMod q) ≠ 0 := by
  intro h
  have hdvd : q ∣ 2 := (ZMod.natCast_eq_zero_iff 2 q).mp (by exact_mod_cast h)
  have hle := Nat.le_of_dvd (by omega) hdvd
  have hlt := R.shareIds_lt
  omega

end Ristretto255

end SeamsWallet.ThresholdPrf
