import Mathlib.LinearAlgebra.Lagrange

/-!
# Interpolation at zero

A sharing evaluates a polynomial at distinct nodes; the value at zero is a
weighted sum of any `n` evaluations of a polynomial of degree below `n`.
`weightsAtZero` computes the weights the way programs do: for each position, the
product of the other nodes over the product of their differences to this one.
They are the Lagrange basis at zero, so the weighted sum recovers the polynomial
there, over the field and over any module.
-/

namespace Library

open Polynomial

/-- The Lagrange weights at zero of a list of nodes. -/
def weightsAtZero {F : Type*} [Field F] (nodes : List F) : List F :=
  nodes.mapIdx fun i x =>
    (nodes.eraseIdx i).prod * (((nodes.eraseIdx i).map (· - x)).prod)⁻¹

variable {F : Type*}

theorem weightsAtZero_eq_map [Field F] [DecidableEq F] {nodes : List F} (hnodup : nodes.Nodup) :
    weightsAtZero nodes = nodes.map fun x => (Lagrange.basis nodes.toFinset id x).eval 0 := by
  apply List.ext_getElem (by simp [weightsAtZero])
  intro i hi _
  have hi' : i < nodes.length := by simpa [weightsAtZero] using hi
  have herase : nodes.eraseIdx i = nodes.erase nodes[i] :=
    (hnodup.erase_getElem i hi').symm
  have hfinset : nodes.toFinset.erase nodes[i] = (nodes.erase nodes[i]).toFinset := by
    ext x
    simp [hnodup.mem_erase_iff]
  have hprod (f : F → F) : ((nodes.erase nodes[i]).map f).prod =
      ∏ x ∈ nodes.toFinset.erase nodes[i], f x := by
    rw [hfinset, List.prod_toFinset f (hnodup.erase _)]
  have hnodes := hprod id
  have hbasis : (Lagrange.basis nodes.toFinset id nodes[i]).eval 0 =
      ∏ x ∈ nodes.toFinset.erase nodes[i], x * (x - nodes[i])⁻¹ := by
    rw [Lagrange.basis, eval_prod]
    refine Finset.prod_congr rfl fun x _ => ?_
    rw [Lagrange.basisDivisor, eval_mul, eval_C, eval_sub, eval_X, eval_C, id, id,
      zero_sub, ← neg_sub x, inv_neg, neg_mul_neg, mul_comm]
  rw [List.map_id] at hnodes
  simp only [weightsAtZero, List.getElem_mapIdx, List.getElem_map]
  rw [herase, hnodes, hprod, hbasis, Finset.prod_mul_distrib, Finset.prod_inv_distrib]
  rfl

/-- The weighted evaluations of a polynomial of small degree sum to its value at
zero. -/
theorem sum_weightsAtZero_eval [Field F] [DecidableEq F] {nodes : List F} (hnodup : nodes.Nodup)
    {p : F[X]} (hdegree : p.degree < nodes.length) :
    (nodes.map fun x => (Lagrange.basis nodes.toFinset id x).eval 0 * p.eval x).sum = p.eval 0 := by
  have hcard : nodes.toFinset.card = nodes.length := List.toFinset_card_of_nodup hnodup
  have hinterpolate : p = Lagrange.interpolate nodes.toFinset id fun x => p.eval x := by
    refine Lagrange.eq_interpolate_of_eval_eq _ Function.injective_id.injOn ?_ fun x _ => rfl
    rwa [hcard]
  rw [← List.sum_toFinset _ hnodup]
  conv_rhs => rw [hinterpolate, Lagrange.interpolate_apply, eval_finsetSum]
  refine Finset.sum_congr rfl fun x _ => ?_
  rw [eval_mul, eval_C, mul_comm]

/-- The same for evaluations that multiply one element of a module: values that a
list carries beside its nodes, weighted in the order of the list. -/
theorem sum_weightsAtZero_smul {F M α : Type*} [Field F] [DecidableEq F] [AddCommGroup M]
    [Module F M] {values : List α} {node : α → F} {value : α → M} {p : F[X]} {m : M}
    (hnodup : (values.map node).Nodup) (hdegree : p.degree < values.length)
    (hvalue : ∀ v ∈ values, value v = p.eval (node v) • m) :
    (List.zipWith (fun w v => w • value v) (weightsAtZero (values.map node)) values).sum =
      p.eval 0 • m := by
  have hmap : List.zipWith (fun w v => w • value v) (weightsAtZero (values.map node)) values =
      ((values.map node).map fun x =>
        (Lagrange.basis (values.map node).toFinset id x).eval 0 * p.eval x).map (· • m) := by
    rw [weightsAtZero_eq_map hnodup, List.map_map, List.zipWith_map_left, List.zipWith_self,
      List.map_map, List.map_map]
    refine List.map_congr_left fun v hv => ?_
    rw [hvalue v hv, smul_smul]
    rfl
  have hsum := sum_weightsAtZero_eval hnodup (p := p) (by simpa using hdegree)
  rw [hmap, ← hsum]
  exact (List.sum_hom _ ((LinearMap.toSpanSingleton F M m) : F →+ M)).trans rfl

/-- The polynomial with the given coefficients, the constant one first. -/
noncomputable def ofCoefficients {F : Type*} [CommRing F] : List F → F[X]
  | [] => 0
  | c :: cs => C c + X * ofCoefficients cs

@[simp] theorem eval_ofCoefficients_nil [CommRing F] (x : F) :
    (ofCoefficients ([] : List F)).eval x = 0 := by
  rw [ofCoefficients, eval_zero]

@[simp] theorem eval_ofCoefficients_cons [CommRing F] (c : F) (cs : List F) (x : F) :
    (ofCoefficients (c :: cs)).eval x = c + x * (ofCoefficients cs).eval x := by
  rw [ofCoefficients, eval_add, eval_C, eval_mul, eval_X]

theorem degree_ofCoefficients_lt [CommRing F] (cs : List F) :
    (ofCoefficients cs).degree < cs.length := by
  rw [degree_lt_iff_coeff_zero]
  induction cs with
  | nil => simp [ofCoefficients]
  | cons c cs ih =>
    intro n hn
    cases n with
    | zero => simp at hn
    | succ n =>
      rw [ofCoefficients, coeff_add, coeff_C_succ, coeff_X_mul, ih n (Nat.le_of_succ_le_succ hn),
        add_zero]

end Library
