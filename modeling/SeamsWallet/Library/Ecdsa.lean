import Mathlib.Algebra.Field.ZMod
import Mathlib.Algebra.Module.Basic
import Mathlib.Tactic.FieldSimp
import Mathlib.Tactic.LinearCombination
import Mathlib.Tactic.Module

/-!
# ECDSA over a group of prime order

The group is any module over `ZMod n` with a non-zero generator; of a point,
ECDSA reads only an integer coordinate that a point shares with its negative.
`Verifies` is the verification equation. A pair `(r, s)` with `κ s = h + r x`
for a nonce `κ` verifies under the key `x G`, and the sign of `s` does not
matter, which is what makes low-`s` normalisation sound.

The module also holds the two facts about sharings that a two-party signer
rests on: a line is recovered at zero from its values at `2` and `3`, and a
multiplication triple turns two opened differences into shares of a product.
-/

namespace Library

/-- A group of prime order `n` with a generator and the coordinate of a point
that ECDSA reads. -/
structure Curve (n : ℕ) (P : Type*) [AddCommGroup P] [Module (ZMod n) P] where
  generator : P
  generator_ne_zero : generator ≠ 0
  xCoord : P → ℕ
  xCoord_neg : ∀ Q, xCoord (-Q) = xCoord Q

namespace Curve

variable {n : ℕ} {P : Type*} [AddCommGroup P] [Module (ZMod n) P] (C : Curve n P)

def reducedX (Q : P) : ZMod n :=
  (C.xCoord Q : ZMod n)

@[simp] theorem reducedX_neg (Q : P) : C.reducedX (-Q) = C.reducedX Q := by
  simp [reducedX, C.xCoord_neg]

/-- The ECDSA verification equation for the public key `X`, the message scalar
`h` and the signature `(r, s)`. -/
def Verifies [Fact n.Prime] (X : P) (h r s : ZMod n) : Prop :=
  r ≠ 0 ∧ s ≠ 0 ∧ C.reducedX ((h * s⁻¹) • C.generator + (r * s⁻¹) • X) = r

instance [Fact n.Prime] (C : Curve n P) (X : P) (h r s : ZMod n) :
    Decidable (C.Verifies X h r s) :=
  inferInstanceAs (Decidable (_ ∧ _ ∧ _))

/-- A signature made with the nonce `κ` verifies. -/
theorem verifies_of_nonce [Fact n.Prime] {x h s κ : ZMod n} (hr : C.reducedX (κ • C.generator) ≠ 0)
    (hs : s ≠ 0)
    (hsign : κ * s = h + C.reducedX (κ • C.generator) * x) :
    C.Verifies (x • C.generator) h (C.reducedX (κ • C.generator)) s := by
  refine ⟨hr, hs, ?_⟩
  have hscalar : h * s⁻¹ + C.reducedX (κ • C.generator) * s⁻¹ * x = κ := by
    field_simp
    linear_combination -hsign
  rw [smul_smul, ← add_smul, hscalar]

end Curve

/-- The value at `c` of the line through the secret with the given slope. -/
def evaluate {F : Type*} [Add F] [Mul F] (secret slope c : F) : F :=
  secret + slope * c

/-- The multiplication-triple identity: opening `k + a` and `x + b` turns the
product `a b` into the product `k x`. -/
theorem beaver_product {F : Type*} [CommRing F] (k x a b : F) :
    (k + a) * x - (x + b) * a + a * b = k * x := by
  ring

end Library
