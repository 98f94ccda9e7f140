import SeamsWallet.ThresholdPrf.Agreement

/-!
# Refreshing a two-party root

The root of two Derivers is shared two of two, with identifiers 1 and 2, so it is
`2a - b`. In a refresh each Deriver picks a coefficient, publishes its commitment
and sends each role its value at the role's identifier; a role adds one verified
contribution of each source to its share. The public side computes the next share
commitments from the coefficient commitments alone.

A refresh that both roles apply keeps the root and changes both shares, whatever
the peer sent, and the public side accepts the same refreshes.
-/

namespace SeamsWallet.ThresholdPrf

open Library Edwards25519 SigningRootShareCommitment

/-! ## Roles -/

inductive TwoPartyDeriverRole where
  | deriverA
  | deriverB
  deriving DecidableEq

namespace TwoPartyDeriverRole

def shareId : TwoPartyDeriverRole → ThresholdShareId
  | deriverA => ⟨1, by decide⟩
  | deriverB => ⟨2, fun h => by cases h⟩

def asStr : TwoPartyDeriverRole → String
  | deriverA => "deriver_a"
  | deriverB => "deriver_b"

def peer : TwoPartyDeriverRole → TwoPartyDeriverRole
  | deriverA => deriverB
  | deriverB => deriverA

def fromShareId (id : ThresholdShareId) : ThresholdPrfResult TwoPartyDeriverRole :=
  if id.get = 1 then .ok deriverA
  else if id.get = 2 then .ok deriverB
  else .error .invalidRefreshRole

theorem fromShareId_shareId (role : TwoPartyDeriverRole) : fromShareId role.shareId = .ok role := by
  cases role <;> rfl

theorem deriverA_scalar (q : ℕ) : deriverA.shareId.scalar q = 1 := by
  simp [shareId, ThresholdShareId.scalar]

theorem deriverB_scalar (q : ℕ) : deriverB.shareId.scalar q = 2 := by
  simp [shareId, ThresholdShareId.scalar]

end TwoPartyDeriverRole

open TwoPartyDeriverRole

def parseRole (bytes : Bytes 2) : ThresholdPrfResult TwoPartyDeriverRole := do
  let id ← ThresholdShareId.fromU16 (u16OfBigEndian bytes)
  fromShareId id

theorem parseRole_shareId (role : TwoPartyDeriverRole) :
    parseRole (u16ToBigEndian role.shareId.get) = .ok role := by
  rw [parseRole, u16OfBigEndian_u16ToBigEndian, ThresholdShareId.fromU16_get, ok_bind,
    fromShareId_shareId]

/-! ## Coefficients and contributions -/

variable {q : ℕ} {G : Type} [AddCommGroup G] [Module (ZMod q) G]

/-- The secret non-zero coefficient of one source. -/
structure RootShareRefreshCoefficient (q : ℕ) where
  source : TwoPartyDeriverRole
  scalar : ZMod q
  scalar_ne_zero : scalar ≠ 0

structure RootShareRefreshCoefficientCommitment (G : Type) where
  source : TwoPartyDeriverRole
  point : G

/-- A contribution on the wire: the source, the recipient and a scalar. -/
structure RootShareRefreshContributionWire where
  bytes : Bytes 36
  source : TwoPartyDeriverRole
  recipient : TwoPartyDeriverRole
  parse_source : parseRole (bytes.slice 0 2 (by decide)) = .ok source
  parse_recipient : parseRole (bytes.slice 2 2 (by decide)) = .ok recipient

namespace RootShareRefreshContributionWire

def encode (source recipient : TwoPartyDeriverRole) (scalar : ZMod q) : Bytes 36 :=
  ((u16ToBigEndian source.shareId.get).append (u16ToBigEndian recipient.shareId.get)).append
    (scalarToBytes scalar)

def fromScalar (source recipient : TwoPartyDeriverRole) (scalar : ZMod q) :
    RootShareRefreshContributionWire where
  bytes := encode source recipient scalar
  source := source
  recipient := recipient
  parse_source := by
    rw [encode, Bytes.slice_append_left _ _ (by decide), Bytes.slice_append_left _ _ (by decide),
      Bytes.slice_all, parseRole_shareId]
  parse_recipient := by
    rw [encode, Bytes.slice_append_left _ _ (by decide), Bytes.slice_append_right,
      parseRole_shareId]

def scalar (q : ℕ) (wire : RootShareRefreshContributionWire) : ThresholdPrfResult (ZMod q) :=
  okOr (scalarFromCanonicalBytes q (wire.bytes.slice 4 32 (by decide)))
    .invalidRefreshContribution

def decode (q : ℕ) (bytes : Bytes 36) : ThresholdPrfResult RootShareRefreshContributionWire :=
  match hsource : parseRole (bytes.slice 0 2 (by decide)) with
  | .error e => .error e
  | .ok source =>
    match hrecipient : parseRole (bytes.slice 2 2 (by decide)) with
    | .error e => .error e
    | .ok recipient => do
      let wire : RootShareRefreshContributionWire :=
        ⟨bytes, source, recipient, hsource, hrecipient⟩
      let scalar ← wire.scalar q
      ensure (scalar ≠ 0) .zeroScalar
      return wire

end RootShareRefreshContributionWire

namespace RootShareRefreshCoefficient

def commitment (R : Ristretto255 q G) (coefficient : RootShareRefreshCoefficient q) :
    RootShareRefreshCoefficientCommitment G :=
  ⟨coefficient.source, coefficient.scalar • R.basepoint⟩

def contributionFor (coefficient : RootShareRefreshCoefficient q)
    (recipient : TwoPartyDeriverRole) : RootShareRefreshContributionWire :=
  .fromScalar coefficient.source recipient (coefficient.scalar * recipient.shareId.scalar q)

end RootShareRefreshCoefficient

structure VerifiedRootShareRefreshContribution (q : ℕ) where
  source : TwoPartyDeriverRole
  recipient : TwoPartyDeriverRole
  scalar : ZMod q
  deriving DecidableEq

variable (R : Ristretto255 q G)

def RootShareRefreshCoefficientCommitment.verifyContribution [DecidableEq G]
    (commitment : RootShareRefreshCoefficientCommitment G)
    (contribution : RootShareRefreshContributionWire) :
    ThresholdPrfResult (VerifiedRootShareRefreshContribution q) := do
  ensure (contribution.source = commitment.source) .invalidRefreshContribution
  let scalar ← contribution.scalar q
  let expected := contribution.recipient.shareId.scalar q • commitment.point
  let actual := scalar • R.basepoint
  ensure (actual = expected) .invalidRefreshContribution
  return ⟨contribution.source, contribution.recipient, scalar⟩

/-- Adds one verified contribution of each source to a share. -/
def applyTwoPartyRootShareRefresh (current : SigningRootShare q)
    (first second : VerifiedRootShareRefreshContribution q) :
    ThresholdPrfResult (SigningRootShare q) := do
  let recipient ← fromShareId current.id
  ensure (first.recipient = recipient ∧ second.recipient = recipient ∧
      first.source ≠ second.source ∧
      (first.source = deriverA ∧ second.source = deriverB ∨
        first.source = deriverB ∧ second.source = deriverA))
    .invalidRefreshContribution
  let delta := first.scalar + second.scalar
  ensure (delta ≠ 0) .refreshNoOp
  let next := current.value + delta
  ensure (next ≠ 0) .zeroScalar
  return ⟨current.id, next⟩

/-! ## Public commitments -/

/-- The share commitments of one epoch and the commitment of their root. -/
structure TwoPartyRootShareCommitments (G : Type) [AddCommGroup G] where
  deriverA : SigningRootShareCommitment G
  deriverB : SigningRootShareCommitment G
  root : G
  deriverA_id : deriverA.id = TwoPartyDeriverRole.deriverA.shareId
  deriverB_id : deriverB.id = TwoPartyDeriverRole.deriverB.shareId
  root_eq : root = deriverA.point + deriverA.point - deriverB.point
  root_ne_zero : root ≠ 0

open TwoPartyRootShareCommitments

namespace TwoPartyRootShareCommitments

def new [DecidableEq G] (deriverA deriverB : SigningRootShareCommitment G) :
    ThresholdPrfResult (TwoPartyRootShareCommitments G) :=
  if hA : deriverA.id = TwoPartyDeriverRole.deriverA.shareId then
    if hB : deriverB.id = TwoPartyDeriverRole.deriverB.shareId then do
      ensure (deriverA.point ≠ 0) .invalidRootCommitment
      ensure (deriverB.point ≠ 0) .invalidRootCommitment
      ensure (deriverA.point ≠ deriverB.point) .invalidRootCommitment
      if hroot : deriverA.point + deriverA.point - deriverB.point ≠ 0 then
        return ⟨deriverA, deriverB, _, hA, hB, rfl, hroot⟩
      else .error .invalidRootCommitment
    else .error .invalidRefreshRole
  else .error .invalidRefreshRole

def fromShares [DecidableEq G] (R : Ristretto255 q G) (deriverA deriverB : SigningRootShare q) :
    ThresholdPrfResult (TwoPartyRootShareCommitments G) :=
  new (.fromShare R deriverA) (.fromShare R deriverB)

end TwoPartyRootShareCommitments

def SigningRootShareCommitment.fromCompressed (id : ThresholdShareId) (compressed : Bytes 32) :
    ThresholdPrfResult (SigningRootShareCommitment G) := do
  let point ← okOr (R.decompress compressed) .invalidCommitmentEncoding
  return ⟨id, point⟩

def verifyTwoPartyRootShareRefresh [DecidableEq G] (q : ℕ) [Module (ZMod q) G]
    (current next : TwoPartyRootShareCommitments G) : ThresholdPrfResult Unit := do
  let deltaA := next.deriverA.point - current.deriverA.point
  let deltaB := next.deriverB.point - current.deriverB.point
  ensure (deltaA ≠ 0 ∧ deltaB ≠ 0) .refreshNoOp
  ensure ((2 : ZMod q) • deltaA = deltaB ∧ current.root = next.root) .refreshContinuityMismatch

def deriveTwoPartyRootShareRefreshCommitments [DecidableEq G]
    (current : TwoPartyRootShareCommitments G)
    (deriverACoefficient deriverBCoefficient : RootShareRefreshCoefficientCommitment G) :
    ThresholdPrfResult (TwoPartyRootShareCommitments G) := do
  ensure (deriverACoefficient.source = deriverA ∧ deriverBCoefficient.source = deriverB)
    .invalidRefreshRole
  let delta := deriverACoefficient.point + deriverBCoefficient.point
  ensure (delta ≠ 0) .refreshNoOp
  let nextDeriverA ← fromCompressed R deriverA.shareId (R.compress (current.deriverA.point + delta))
  let nextDeriverB ← fromCompressed R deriverB.shareId
    (R.compress (current.deriverB.point + (2 : ZMod q) • delta))
  let next ← new nextDeriverA nextDeriverB
  verifyTwoPartyRootShareRefresh q current next
  return next

/-! ## Knowledge of a share -/

/-- A Schnorr proof that a role knows the scalar of its share commitment. -/
structure RootShareKnowledgeProof (q : ℕ) (G : Type) where
  nonceCommitment : G
  response : ZMod q

def knowledgeChallenge (canonicalTranscript : List UInt8)
    (commitment : SigningRootShareCommitment G) (nonceCommitment : G) : ZMod q :=
  scalarFromBytesModOrderWide q (R.sha512 (canonicalTranscript ++
    (R.compress commitment.point).toList ++ (R.compress nonceCommitment).toList))

def verifyRootShareKnowledge [DecidableEq G] (commitment : SigningRootShareCommitment G)
    (canonicalTranscript : List UInt8)
    (proof : RootShareKnowledgeProof q G) : ThresholdPrfResult Unit := do
  ensure (canonicalTranscript ≠ []) .invalidKnowledgeProof
  ensure (commitment.point ≠ 0) .invalidRootCommitment
  ensure (proof.nonceCommitment ≠ 0) .invalidRootCommitment
  let challenge := knowledgeChallenge R canonicalTranscript commitment proof.nonceCommitment
  ensure (challenge ≠ 0) .invalidKnowledgeProof
  ensure (proof.response • R.basepoint = proof.nonceCommitment + challenge • commitment.point)
    .invalidKnowledgeProof

/-! ## What an application does -/

variable {current : SigningRootShare q}
  {next : SigningRootShare q} {first second : VerifiedRootShareRefreshContribution q}

theorem applyTwoPartyRootShareRefresh_eq_ok :
    applyTwoPartyRootShareRefresh current first second = .ok next ↔
      ∃ role, fromShareId current.id = .ok role ∧ first.recipient = role ∧ second.recipient = role ∧
        (first.source = deriverA ∧ second.source = deriverB ∨
          first.source = deriverB ∧ second.source = deriverA) ∧
        first.scalar + second.scalar ≠ 0 ∧
        current.value + (first.scalar + second.scalar) ≠ 0 ∧
        next = ⟨current.id, current.value + (first.scalar + second.scalar)⟩ := by
  simp only [applyTwoPartyRootShareRefresh, ok_iff]
  constructor
  · rintro ⟨role, hrole, ⟨hfirst, hsecond, -, hsources⟩, hdelta, hnext, rfl⟩
    exact ⟨role, hrole, hfirst, hsecond, hsources, hdelta, hnext, rfl⟩
  · rintro ⟨role, hrole, hfirst, hsecond, hsources, hdelta, hnext, rfl⟩
    refine ⟨role, hrole, ⟨hfirst, hsecond, ?_, hsources⟩, hdelta, hnext, rfl⟩
    rcases hsources with ⟨h, h'⟩ | ⟨h, h'⟩ <;> rw [h, h'] <;> decide

theorem apply_ne_zero
    (h : applyTwoPartyRootShareRefresh current first second = .ok next) : next.value ≠ 0 := by
  obtain ⟨_, -, -, -, -, -, hnext, rfl⟩ := applyTwoPartyRootShareRefresh_eq_ok.mp h
  exact hnext

section Refresh

variable [DecidableEq G] {R : Ristretto255 q G}
  {coefficientA coefficientB : RootShareRefreshCoefficientCommitment G}

/-- A contribution that one of the two coefficient commitments accepts. -/
def Accepted (R : Ristretto255 q G)
    (coefficientA coefficientB : RootShareRefreshCoefficientCommitment G)
    (contribution : VerifiedRootShareRefreshContribution q) : Prop :=
  ∃ wire, coefficientA.verifyContribution R wire = .ok contribution ∨
    coefficientB.verifyContribution R wire = .ok contribution

variable {contribution : VerifiedRootShareRefreshContribution q}

theorem verifyContribution_eq_ok {coefficient : RootShareRefreshCoefficientCommitment G}
    {wire : RootShareRefreshContributionWire}
    (h : coefficient.verifyContribution R wire = .ok contribution) :
    contribution.source = coefficient.source ∧ contribution.scalar • R.basepoint =
        contribution.recipient.shareId.scalar q • coefficient.point := by
  simp only [RootShareRefreshCoefficientCommitment.verifyContribution, ok_iff] at h
  obtain ⟨hsource, scalar, -, hpoint, rfl⟩ := h
  exact ⟨hsource, hpoint⟩

variable {commitA commitB : SigningRootShareCommitment G}

omit [Module (ZMod q) G] in
theorem new_eq_ok {next : TwoPartyRootShareCommitments G} : new commitA commitB = .ok next ↔
      commitA.id = deriverA.shareId ∧ commitB.id = deriverB.shareId ∧ commitA.point ≠ 0 ∧
        commitB.point ≠ 0 ∧ commitA.point ≠ commitB.point ∧
        commitA.point + commitA.point - commitB.point ≠ 0 ∧
        next.deriverA = commitA ∧ next.deriverB = commitB := by
  unfold new
  constructor
  · intro h
    split at h <;> try cases h
    split at h <;> try cases h
    rename_i hA hB
    simp only [ok_iff] at h
    obtain ⟨hpointA, hpointB, hne, h⟩ := h
    split at h
    · rename_i hroot
      cases h
      exact ⟨hA, hB, hpointA, hpointB, hne, hroot, rfl, rfl⟩
    · cases h
  · rintro ⟨hA, hB, hpointA, hpointB, hne, hroot, rfl, rfl⟩
    rw [dif_pos hA, dif_pos hB, ensure_of hpointA, ok_bind, ensure_of hpointB, ok_bind,
      ensure_of hne, ok_bind, dif_pos hroot]
    obtain ⟨nextA, nextB, root, _, _, hnext, _⟩ := next
    subst hnext
    rfl

omit [Module (ZMod q) G] in
theorem exists_new (hA : commitA.id = deriverA.shareId) (hB : commitB.id = deriverB.shareId)
    (hpointA : commitA.point ≠ 0) (hpointB : commitB.point ≠ 0)
    (hne : commitA.point ≠ commitB.point)
    (hroot : commitA.point + commitA.point - commitB.point ≠ 0) :
    ∃ next, new commitA commitB = .ok next :=
  ⟨⟨commitA, commitB, _, hA, hB, rfl, hroot⟩,
    new_eq_ok.mpr ⟨hA, hB, hpointA, hpointB, hne, hroot, rfl, rfl⟩⟩

variable (hA : coefficientA.source = deriverA) (hB : coefficientB.source = deriverB)

include hA hB

/-- An accepted contribution of a source commits to the recipient's multiple of the
source's coefficient, also when a dishonest peer sent it. -/
theorem Accepted.scalar_smul (h : Accepted R coefficientA coefficientB contribution) :
    (contribution.source = deriverA → contribution.scalar • R.basepoint =
      contribution.recipient.shareId.scalar q • coefficientA.point) ∧
    (contribution.source = deriverB → contribution.scalar • R.basepoint =
      contribution.recipient.shareId.scalar q • coefficientB.point) := by
  obtain ⟨wire, h | h⟩ := h
  · obtain ⟨hsource, hpoint⟩ := verifyContribution_eq_ok h
    refine ⟨fun _ => hpoint, fun hcontra => ?_⟩
    rw [hsource, hA] at hcontra
    cases hcontra
  · obtain ⟨hsource, hpoint⟩ := verifyContribution_eq_ok h
    refine ⟨fun hcontra => ?_, fun _ => hpoint⟩
    rw [hsource, hB] at hcontra
    cases hcontra

variable {role : TwoPartyDeriverRole}

/-- The contributions of both sources to one role add up to the role's multiple of the
sum of the coefficients. -/
theorem delta_smul (hfirst : Accepted R coefficientA coefficientB first)
    (hsecond : Accepted R coefficientA coefficientB second) (hfirstRole : first.recipient = role)
    (hsecondRole : second.recipient = role)
    (hsources : first.source = deriverA ∧ second.source = deriverB ∨
      first.source = deriverB ∧ second.source = deriverA) :
    (first.scalar + second.scalar) • R.basepoint =
      role.shareId.scalar q • (coefficientA.point + coefficientB.point) := by
  have h1 := hfirst.scalar_smul hA hB
  have h2 := hsecond.scalar_smul hA hB
  rw [hfirstRole] at h1
  rw [hsecondRole] at h2
  rcases hsources with ⟨hs, hs'⟩ | ⟨hs, hs'⟩
  · rw [add_smul, h1.1 hs, h2.2 hs', smul_add]
  · rw [add_smul, h1.2 hs, h2.1 hs', smul_add, add_comm]

/-! ## The public side -/

omit [DecidableEq G] hA hB in
@[simp] theorem fromCompressed_compress (id : ThresholdShareId) (point : G) :
    fromCompressed R id (R.compress point) = .ok ⟨id, point⟩ := by
  rw [fromCompressed, R.decompress_compress]
  rfl

/-- The public side accepts exactly the refreshes that move both commitments to two
distinct non-zero ones, and moves them by the sum of the coefficients. -/
theorem derive_eq_ok [Fact q.Prime] {current next : TwoPartyRootShareCommitments G} :
    deriveTwoPartyRootShareRefreshCommitments R current coefficientA coefficientB = .ok next ↔
      coefficientA.point + coefficientB.point ≠ 0 ∧ new ⟨deriverA.shareId,
            current.deriverA.point + (coefficientA.point + coefficientB.point)⟩
          ⟨deriverB.shareId, current.deriverB.point +
            (2 : ZMod q) • (coefficientA.point + coefficientB.point)⟩ = .ok next := by
  simp only [deriveTwoPartyRootShareRefreshCommitments, fromCompressed_compress, ok_iff,
    Except.ok.injEq, exists_eq_left']
  constructor
  · rintro ⟨-, hdelta, next, hnew, -, rfl⟩
    exact ⟨hdelta, hnew⟩
  · rintro ⟨hdelta, hnew⟩
    refine ⟨⟨hA, hB⟩, hdelta, next, hnew, ?_, rfl⟩
    obtain ⟨-, -, -, -, -, -, hnextA, hnextB⟩ := new_eq_ok.mp hnew
    have hdouble : (2 : ZMod q) • (coefficientA.point + coefficientB.point) ≠ 0 :=
      smul_ne_zero R.two_ne_zero hdelta
    have hroot : current.root = next.root := by
      rw [current.root_eq, next.root_eq, hnextA, hnextB]
      module
    rw [verifyTwoPartyRootShareRefresh, hnextA, hnextB]
    dsimp only
    rw [add_sub_cancel_left, add_sub_cancel_left, ensure_of ⟨hdelta, hdouble⟩, ok_bind,
      ensure_of ⟨rfl, hroot⟩]

/-! ## The refresh as a whole -/

variable [Fact q.Prime] {share : SigningRootShare q}

theorem apply_smul (hfirst : Accepted R coefficientA coefficientB first)
    (hsecond : Accepted R coefficientA coefficientB second) (hid : share.id = role.shareId)
    (h : applyTwoPartyRootShareRefresh share first second = .ok next) :
    next.id = share.id ∧ next.value ≠ share.value ∧
      next.value • R.basepoint = share.value • R.basepoint +
        role.shareId.scalar q • (coefficientA.point + coefficientB.point) := by
  obtain ⟨role', hrole, hfirstRole, hsecondRole, hsources, hdelta, -, rfl⟩ :=
    applyTwoPartyRootShareRefresh_eq_ok.mp h
  rw [hid, fromShareId_shareId] at hrole
  obtain rfl := Except.ok.inj hrole
  refine ⟨rfl, fun hsame => hdelta (add_eq_left.mp hsame), ?_⟩
  rw [add_smul, delta_smul hA hB hfirst hsecond hfirstRole hsecondRole hsources]

/-- The contributions that reach one role: accepted, addressed to it, one of each source. -/
structure AddressedTo (R : Ristretto255 q G)
    (coefficientA coefficientB : RootShareRefreshCoefficientCommitment G)
    (role : TwoPartyDeriverRole) (first second : VerifiedRootShareRefreshContribution q) :
    Prop where
  first_accepted : Accepted R coefficientA coefficientB first
  second_accepted : Accepted R coefficientA coefficientB second
  first_recipient : first.recipient = role
  second_recipient : second.recipient = role
  sources_ne : first.source ≠ second.source

variable (h : AddressedTo R coefficientA coefficientB role first second)
include h

omit [Fact q.Prime] in
omit hA hB in
theorem AddressedTo.sources :
    first.source = deriverA ∧ second.source = deriverB ∨
      first.source = deriverB ∧ second.source = deriverA := by
  have hne := h.sources_ne
  cases hfirst : first.source <;> cases hsecond : second.source <;> simp_all

/-- With the right contributions an application fails only on the degenerate cases, and
these can be read off the public points. -/
theorem exists_apply_iff (hid : share.id = role.shareId) :
    (∃ next, applyTwoPartyRootShareRefresh share first second = .ok next) ↔
      role.shareId.scalar q • (coefficientA.point + coefficientB.point) ≠ 0 ∧
        share.value • R.basepoint +
          role.shareId.scalar q • (coefficientA.point + coefficientB.point) ≠ 0 := by
  have hdelta := delta_smul hA hB h.first_accepted h.second_accepted h.first_recipient
    h.second_recipient h.sources
  rw [← hdelta, ← add_smul, Ne, Ne, R.smul_basepoint_eq_zero, R.smul_basepoint_eq_zero]
  simp only [applyTwoPartyRootShareRefresh_eq_ok]
  constructor
  · rintro ⟨_, _, -, -, -, -, hne, hnext, -⟩
    exact ⟨hne, hnext⟩
  · rintro ⟨hne, hnext⟩
    exact ⟨_, role, by rw [hid, fromShareId_shareId], h.first_recipient, h.second_recipient,
      h.sources, hne, hnext, rfl⟩

omit h

section BothRoles

variable {shareA shareB : SigningRootShare q}
  {firstA secondA firstB secondB : VerifiedRootShareRefreshContribution q}
  (hfirstA : Accepted R coefficientA coefficientB firstA)
  (hsecondA : Accepted R coefficientA coefficientB secondA)
  (hfirstB : Accepted R coefficientA coefficientB firstB)
  (hsecondB : Accepted R coefficientA coefficientB secondB)
  (hidA : shareA.id = deriverA.shareId) (hidB : shareB.id = deriverB.shareId)
  {nextA nextB : SigningRootShare q}
  (hnextA : applyTwoPartyRootShareRefresh shareA firstA secondA = .ok nextA)
  (hnextB : applyTwoPartyRootShareRefresh shareB firstB secondB = .ok nextB)

include hfirstA hsecondA hfirstB hsecondB hidA hidB hnextA hnextB

/-- Both applications keep `2a - b`. -/
theorem root_of_apply : 2 * nextA.value - nextB.value = 2 * shareA.value - shareB.value := by
  obtain ⟨-, -, hpointA⟩ := apply_smul hA hB hfirstA hsecondA hidA hnextA
  obtain ⟨-, -, hpointB⟩ := apply_smul hA hB hfirstB hsecondB hidB hnextB
  rw [deriverA_scalar, one_smul] at hpointA
  rw [deriverB_scalar] at hpointB
  apply R.smul_basepoint_injective
  dsimp only
  rw [sub_smul, sub_smul, mul_smul, mul_smul, hpointA, hpointB]
  module

/-- The commitments of the next shares are the points the public side computes. -/
theorem fromShares_of_apply : fromShares R nextA nextB = new ⟨deriverA.shareId,
        shareA.value • R.basepoint + (coefficientA.point + coefficientB.point)⟩
      ⟨deriverB.shareId, shareB.value • R.basepoint +
        (2 : ZMod q) • (coefficientA.point + coefficientB.point)⟩ := by
  obtain ⟨hnextIdA, -, hpointA⟩ := apply_smul hA hB hfirstA hsecondA hidA hnextA
  obtain ⟨hnextIdB, -, hpointB⟩ := apply_smul hA hB hfirstB hsecondB hidB hnextB
  rw [deriverA_scalar, one_smul] at hpointA
  rw [deriverB_scalar] at hpointB
  rw [fromShares, fromShare, fromShare, hpointA, hpointB, hnextIdA, hnextIdB, hidA, hidB]

/-- What both roles apply, to distinct shares, the public side accepts. -/
theorem exists_derive_of_apply {current : TwoPartyRootShareCommitments G}
    (hcurrent : fromShares R shareA shareB = .ok current) (hne : nextA.value ≠ nextB.value) :
    ∃ next, deriveTwoPartyRootShareRefreshCommitments R current coefficientA coefficientB =
      .ok next := by
  obtain ⟨-, -, -, -, -, hroot, hcurrentA, hcurrentB⟩ := new_eq_ok.mp hcurrent
  obtain ⟨hnextIdA, hmoved, hpointA⟩ := apply_smul hA hB hfirstA hsecondA hidA hnextA
  have hnextIdB := (apply_smul hA hB hfirstB hsecondB hidB hnextB).1
  have hsum := root_of_apply hA hB hfirstA hsecondA hfirstB hsecondB hidA hidB hnextA hnextB
  have hnextRoot : nextA.value • R.basepoint + nextA.value • R.basepoint -
      nextB.value • R.basepoint ≠ 0 := by
    intro hzero
    apply hroot
    dsimp only [fromShare]
    rw [← add_smul, ← two_mul, ← sub_smul, ← hsum, sub_smul, two_mul, add_smul, hzero]
  obtain ⟨next, hnext⟩ : ∃ next, fromShares R nextA nextB = .ok next :=
    exists_new (hnextIdA.trans hidA) (hnextIdB.trans hidB)
      (mt R.smul_basepoint_eq_zero.mp (apply_ne_zero hnextA))
      (mt R.smul_basepoint_eq_zero.mp (apply_ne_zero hnextB))
      (fun hsame => hne (R.smul_basepoint_injective hsame)) hnextRoot
  have hdelta : coefficientA.point + coefficientB.point ≠ 0 := by
    intro hzero
    rw [hzero, smul_zero, add_zero] at hpointA
    exact hmoved (R.smul_basepoint_injective hpointA)
  refine ⟨next, (derive_eq_ok hA hB).mpr ⟨hdelta, ?_⟩⟩
  rw [hcurrentA, hcurrentB]
  exact (fromShares_of_apply hA hB hfirstA hsecondA hfirstB hsecondB hidA hidB
    hnextA hnextB).symm.trans hnext

end BothRoles

omit hA hB

end Refresh

def unitCoefficient (source : TwoPartyDeriverRole) : RootShareRefreshCoefficient 65537 :=
  ⟨source, 1, fun h => one_ne_zero h⟩

theorem accepted_unitCoefficient (source recipient : TwoPartyDeriverRole) :
    Accepted additiveRistretto ((unitCoefficient deriverA).commitment additiveRistretto)
      ((unitCoefficient deriverB).commitment additiveRistretto)
      ⟨source, recipient, recipient.shareId.scalar 65537⟩ := by
  refine ⟨(unitCoefficient source).contributionFor recipient, ?_⟩
  cases source <;> cases recipient <;> decide +kernel

end SeamsWallet.ThresholdPrf
