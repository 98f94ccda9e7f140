import Mathlib.Algebra.Field.ZMod
import SeamsWallet.Library.Except
import SeamsWallet.Library.Interpolation

/-!
# Sharing the signing root

A signing root is a non-zero scalar. It is split into shares by a polynomial
with the root as its constant coefficient; a policy fixes how many shares there
are and how many of them bring the root back. Subsets of shares, and later of
partial evaluations, are validated against the policy before they are combined.
-/

namespace SeamsWallet.ThresholdPrf

open Library

inductive ThresholdPrfError where
  | invalidScalarEncoding
  | invalidPointEncoding
  | invalidPartialEncoding
  | zeroScalar
  | invalidShareId
  | invalidThresholdSubset
  | duplicateShareId
  | contextMismatch
  | transcriptLengthOverflow
  | invalidCommitmentEncoding
  | invalidDleqProofEncoding
  | invalidDleqProof
  | unexpectedPeerCommitment
  | invalidRefreshRole
  | invalidRefreshContribution
  | refreshNoOp
  | refreshContinuityMismatch
  | invalidRootCommitment
  | invalidKnowledgeProof
  deriving DecidableEq

abbrev ThresholdPrfResult (α : Type) : Type := Except ThresholdPrfError α

/-! ## Policies and share identifiers -/

def maxShareCount : UInt16 := 255

/-- A policy: how many of how many shares bring the root back. -/
structure ThresholdPolicy where
  threshold : UInt16
  shareCount : UInt16
  threshold_ne_zero : threshold ≠ 0
  threshold_le : threshold ≤ shareCount
  shareCount_le : shareCount ≤ maxShareCount

def ThresholdPolicy.fromU16s (threshold shareCount : UInt16) : ThresholdPrfResult ThresholdPolicy :=
  if h0 : threshold ≠ 0 then
    if h : shareCount ≠ 0 ∧ threshold ≤ shareCount ∧ shareCount ≤ maxShareCount then
      .ok ⟨threshold, shareCount, h0, h.2.1, h.2.2⟩
    else .error .invalidThresholdSubset
  else .error .invalidThresholdSubset

/-- A share identifier is a non-zero 16-bit number. -/
structure ThresholdShareId where
  get : UInt16
  get_ne_zero : get ≠ 0
  deriving DecidableEq

namespace ThresholdShareId

def fromU16 (value : UInt16) : ThresholdPrfResult ThresholdShareId :=
  if h : value ≠ 0 then .ok ⟨value, h⟩ else .error .invalidShareId

@[simp] theorem fromU16_get (id : ThresholdShareId) : fromU16 id.get = .ok id :=
  dif_pos id.get_ne_zero

@[ext] theorem ext {id id' : ThresholdShareId} (h : id.get = id'.get) : id = id' := by
  cases id
  cases id'
  cases h
  rfl

def scalar (q : ℕ) (id : ThresholdShareId) : ZMod q := (id.get.toNat : ZMod q)

theorem scalar_injective {q : ℕ} (hq : 65535 < q) : Function.Injective (scalar q) := by
  intro id id' h
  have hlt (x : UInt16) : x.toNat < q := lt_of_le_of_lt (Nat.le_of_lt_succ x.toNat_lt) hq
  have hnat : id.get.toNat = id'.get.toNat := by
    have hmod := (ZMod.natCast_eq_natCast_iff' _ _ q).mp h
    rwa [Nat.mod_eq_of_lt (hlt _), Nat.mod_eq_of_lt (hlt _)] at hmod
  exact ext (UInt16.toNat_inj.mp hnat)

end ThresholdShareId

def ThresholdPolicy.containsShareId (policy : ThresholdPolicy) (id : ThresholdShareId) : Bool :=
  decide (id.get ≤ policy.shareCount)

/-! ## Validated subsets -/

/-- Exactly as many values as the policy asks for, with distinct identifiers of
the policy, in the caller's order. -/
structure ValidatedThresholdSet (T : Type) (shareId : T → ThresholdShareId) where
  policy : ThresholdPolicy
  values : List T
  length_values : values.length = policy.threshold.toNat
  contains_ids : ∀ value ∈ values, policy.containsShareId (shareId value) = true
  nodup_ids : (values.map shareId).Nodup

/-- The loop over the values; `seen` are the identifiers met before. -/
def checkShareIds {T : Type} (policy : ThresholdPolicy) (shareId : T → ThresholdShareId) :
    List ThresholdShareId → List T → ThresholdPrfResult Unit
  | _, [] => .ok ()
  | seen, value :: values => do
    ensure (policy.containsShareId (shareId value) = true) .invalidShareId
    ensure (shareId value ∉ seen) .duplicateShareId
    checkShareIds policy shareId (seen ++ [shareId value]) values

variable {T : Type} {policy : ThresholdPolicy} {shareId : T → ThresholdShareId} {values : List T}

theorem checkShareIds_eq_ok {seen : List ThresholdShareId} :
    checkShareIds policy shareId seen values = .ok () ↔
      (∀ value ∈ values, policy.containsShareId (shareId value) = true) ∧
        (∀ id ∈ seen, id ∉ values.map shareId) ∧ (values.map shareId).Nodup := by
  induction values generalizing seen with
  | nil => simp [checkShareIds]
  | cons value values ih =>
    simp only [checkShareIds, ok_iff, ih]
    simp only [List.mem_cons, List.map_cons, List.nodup_cons, List.mem_append,
      not_or, forall_eq_or_imp, List.not_mem_nil, or_false]
    constructor
    · rintro ⟨hcontains, hseen, hall, hdistinct, hnodup⟩
      refine ⟨⟨hcontains, hall⟩, ?_, hdistinct _ (.inr rfl), hnodup⟩
      intro id hid
      exact ⟨fun heq => hseen (heq ▸ hid), hdistinct id (.inl hid)⟩
    · rintro ⟨⟨hcontains, hall⟩, hseen, hnotin, hnodup⟩
      refine ⟨hcontains, fun hmem => (hseen _ hmem).1 rfl, hall, ?_, hnodup⟩
      intro id hid
      rcases hid with hid | rfl
      · exact (hseen id hid).2
      · exact hnotin

def validateThresholdSetValues {T : Type} (policy : ThresholdPolicy) (values : List T)
    (shareId : T → ThresholdShareId) :
    ThresholdPrfResult (ValidatedThresholdSet T shareId) :=
  if hlength : values.length = policy.threshold.toNat then
    match hcheck : checkShareIds policy shareId [] values with
    | .error e => .error e
    | .ok () =>
      .ok
        { policy := policy
          values := values
          length_values := hlength
          contains_ids := (checkShareIds_eq_ok.mp hcheck).1
          nodup_ids := (checkShareIds_eq_ok.mp hcheck).2.2 }
  else .error .invalidThresholdSubset

theorem validateThresholdSetValues_eq_ok {set : ValidatedThresholdSet T shareId}
    (h : validateThresholdSetValues policy values shareId = .ok set) :
    set.policy = policy ∧ set.values = values := by
  unfold validateThresholdSetValues at h
  split at h
  · split at h
    · cases h
    · cases h
      exact ⟨rfl, rfl⟩
  · cases h

theorem exists_validateThresholdSetValues :
    (∃ set, validateThresholdSetValues policy values shareId = .ok set) ↔
      values.length = policy.threshold.toNat ∧
        (∀ value ∈ values, policy.containsShareId (shareId value) = true) ∧
        (values.map shareId).Nodup := by
  constructor
  · rintro ⟨set, h⟩
    obtain ⟨rfl, rfl⟩ := validateThresholdSetValues_eq_ok h
    exact ⟨set.length_values, set.contains_ids, set.nodup_ids⟩
  · rintro ⟨hlength, hcontains, hnodup⟩
    have hcheck : checkShareIds policy shareId [] values = .ok () :=
      checkShareIds_eq_ok.mpr ⟨hcontains, by simp, hnodup⟩
    unfold validateThresholdSetValues
    rw [dif_pos hlength]
    split
    · rename_i e he
      rw [hcheck] at he
      cases he
    · exact ⟨_, rfl⟩

/-! ## Roots and shares -/

section Field

variable {q : ℕ}

structure SigningRootScalar (q : ℕ) where
  scalar : ZMod q
  scalar_ne_zero : scalar ≠ 0

def SigningRootScalar.fromScalar (scalar : ZMod q) : ThresholdPrfResult (SigningRootScalar q) :=
  if h : scalar ≠ 0 then .ok ⟨scalar, h⟩ else .error .zeroScalar

structure SigningRootShare (q : ℕ) where
  id : ThresholdShareId
  value : ZMod q
  deriving DecidableEq

/-- The share of one identifier: the running value and the running power. -/
def evalShare (root : ZMod q) (coefficients : List (ZMod q)) (id : ThresholdShareId) :
    SigningRootShare q :=
  let x := id.scalar q
  let (value, _) := coefficients.foldl
    (fun (value, xPower) coefficient => (value + coefficient * xPower, xPower * x)) (root, x)
  ⟨id, value⟩

def shareIds (n : UInt16) : List ThresholdShareId :=
  (List.range n.toNat).filterMap fun i => (ThresholdShareId.fromU16 (.ofNat (i + 1))).toOption

/-- Splits a root. `random i` is the `i`-th non-zero scalar the generator gives. -/
def splitSigningRoot (root : SigningRootScalar q) (policy : ThresholdPolicy)
    (random : ℕ → {scalar : ZMod q // scalar ≠ 0}) : List (SigningRootShare q) :=
  let coefficients := (List.range (policy.threshold.toNat - 1)).map fun i => (random i).val
  (shareIds policy.shareCount).map (evalShare root.scalar coefficients)

variable [Fact q.Prime]

def lagrangeCoefficientsAtZeroForIds (q : ℕ) [Fact q.Prime] (ids : List ThresholdShareId) :
    List (ZMod q) :=
  weightsAtZero (ids.map (ThresholdShareId.scalar q))

def reconstructSigningRoot
    (shares : ValidatedThresholdSet (SigningRootShare q) SigningRootShare.id) :
    ThresholdPrfResult (SigningRootScalar q) :=
  let ids := shares.values.map SigningRootShare.id
  let coefficients := lagrangeCoefficientsAtZeroForIds q ids
  let root := (coefficients.zip shares.values).foldl
    (fun root (coefficient, share) => root + coefficient * share.value) 0
  SigningRootScalar.fromScalar root

/-! ## The polynomial of a sharing -/

omit [Fact q.Prime] in
theorem evalShare_value (root : ZMod q) (coefficients : List (ZMod q)) (id : ThresholdShareId) :
    (evalShare root coefficients id).value =
      (ofCoefficients (root :: coefficients)).eval (id.scalar q) := by
  have hloop (value xPower : ZMod q) : (coefficients.foldl (fun (value, xPower) coefficient =>
        (value + coefficient * xPower, xPower * id.scalar q)) (value, xPower)).1 =
        value + xPower * (ofCoefficients coefficients).eval (id.scalar q) := by
    induction coefficients generalizing value xPower with
    | nil => simp
    | cons c cs ih =>
      rw [List.foldl_cons, ih, eval_ofCoefficients_cons]
      ring
  rw [eval_ofCoefficients_cons]
  exact hloop root (id.scalar q)

variable {M : Type}

omit [Fact q.Prime] in
theorem foldl_add_eq_sum {A B : Type} [AddCommMonoid M] (f : A → B → M) (as : List A)
    (bs : List B) :
    (as.zip bs).foldl (fun acc (a, b) => acc + f a b) 0 = (List.zipWith f as bs).sum := by
  have hfold (l : List (A × B)) (acc : M) :
      l.foldl (fun acc (a, b) => acc + f a b) acc = acc + (l.map fun (a, b) => f a b).sum := by
    induction l generalizing acc with
    | nil => simp
    | cons head tail ih => rw [List.foldl_cons, ih, List.map_cons, List.sum_cons, add_assoc]
  rw [hfold, zero_add, List.zip, List.map_zipWith]

/-- Weighted in the order of the list, values that are evaluations of one
polynomial at distinct identifiers give its value at zero. -/
theorem combine_at_zero [AddCommGroup M] [Module (ZMod q) M] (hq : 65535 < q)
    {shareId : T → ThresholdShareId} {values : List T} {value : T → M} {m : M} {root : ZMod q}
    {coefficients : List (ZMod q)} (hnodup : (values.map shareId).Nodup)
    (hlength : values.length = coefficients.length + 1)
    (hvalue : ∀ v ∈ values, value v = (evalShare root coefficients (shareId v)).value • m) :
    ((lagrangeCoefficientsAtZeroForIds q (values.map shareId)).zip values).foldl
      (fun z (coefficient, v) => z + coefficient • value v) 0 = root • m := by
  have hnodes : (values.map fun v => (shareId v).scalar q).Nodup := by
    have h := hnodup.map (ThresholdShareId.scalar_injective hq)
    rwa [List.map_map] at h
  have hdegree : (ofCoefficients (root :: coefficients)).degree < values.length := by
    rw [hlength]
    exact degree_ofCoefficients_lt (root :: coefficients)
  have heval (v : T) (hv : v ∈ values) : value v =
      (ofCoefficients (root :: coefficients)).eval ((shareId v).scalar q) • m := by
    rw [hvalue v hv, evalShare_value]
  have hsum := sum_weightsAtZero_smul hnodes hdegree heval
  rw [foldl_add_eq_sum (fun coefficient v => coefficient • value v),
    lagrangeCoefficientsAtZeroForIds, List.map_map]
  rw [eval_ofCoefficients_cons, zero_mul, add_zero] at hsum
  exact hsum

end Field

end SeamsWallet.ThresholdPrf
