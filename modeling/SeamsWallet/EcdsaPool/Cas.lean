import SeamsWallet.EcdsaPool.Record
import SeamsWallet.Library.Run

/-!
# Compare-and-swap on a pool record

Many actors read a pool record, plan a mutation from what they read and hand it to
the store later, when the record may have moved on. The store accepts a mutation
only if the key and the expected revision are those of the record it holds.

A revision names one state of the record: whatever the store held before has a
lower revision. So an accepted mutation was planned from the very record it
replaces, and the record goes from available over reserved to its end in at most
two steps.
-/

namespace SeamsWallet.EcdsaPool

open Library

def PoolMutation.key (mutation : PoolMutation) : PoolRecordKey := mutation.replacement.key

/-- The mutations that can be planned from a record, at any time and for any binding. -/
inductive Plans : PoolRecord → PoolMutation → Prop where
  | reserve (record : AvailableRecord) (binding : ReservationBinding)
      (reservedAtMs leaseExpiresAtMs : ℕ) (mutation : PoolMutation) :
      record.reserve binding reservedAtMs leaseExpiresAtMs = .ok mutation →
      Plans (.available record) mutation
  | expireAvailable (record : AvailableRecord) (nowMs : ℕ) (mutation : PoolMutation) :
      record.expire nowMs = .ok mutation → Plans (.available record) mutation
  | relocateAvailable (record : AvailableRecord) (nowMs : ℕ) (mutation : PoolMutation) :
      record.invalidateForRelocation nowMs = .ok mutation → Plans (.available record) mutation
  | retireAvailable (record : AvailableRecord) (reason : TombstoneReason) (nowMs : ℕ)
      (mutation : PoolMutation) :
      record.retire reason nowMs = .ok mutation → Plans (.available record) mutation
  | consume (record : ReservedRecord) (binding : ReservationBinding) (nowMs : ℕ)
      (mutation : PoolMutation) :
      record.consume binding nowMs = .consumed mutation → Plans (.reserved record) mutation
  | burn (record : ReservedRecord) (binding : ReservationBinding) (nowMs : ℕ)
      (mutation : PoolMutation) :
      record.consume binding nowMs = .burned mutation → Plans (.reserved record) mutation
  | destroy (record : ReservedRecord) (reason : TombstoneReason) (nowMs : ℕ)
      (mutation : PoolMutation) :
      record.destroy reason nowMs = .ok mutation → Plans (.reserved record) mutation
  | recoverAfterCrash (record : ReservedRecord) (nowMs : ℕ) (mutation : PoolMutation) :
      record.recoverAfterCrash nowMs = .ok mutation → Plans (.reserved record) mutation
  | expireReserved (record : ReservedRecord) (nowMs : ℕ) (mutation : PoolMutation) :
      record.expire nowMs = .ok mutation → Plans (.reserved record) mutation
  | relocateReserved (record : ReservedRecord) (nowMs : ℕ) (mutation : PoolMutation) :
      record.invalidateForRelocation nowMs = .ok mutation → Plans (.reserved record) mutation
  | retireReserved (record : ReservedRecord) (reason : TombstoneReason) (nowMs : ℕ)
      (mutation : PoolMutation) :
      record.retire reason nowMs = .ok mutation → Plans (.reserved record) mutation

/-- The record that a store holds and all records it has held. -/
structure PoolHistory where
  current : PoolRecord
  earlier : List PoolRecord

namespace PoolHistory

def start (record : AvailableRecord) : PoolHistory := ⟨.available record, []⟩

def snapshots (history : PoolHistory) : List PoolRecord := history.current :: history.earlier

def replace (history : PoolHistory) (record : PoolRecord) : PoolHistory :=
  ⟨record, history.snapshots⟩

end PoolHistory

/-- A mutation reaches the store and is accepted or not. It was planned from something
that the store has held. An accepted mutation has the key and the revision of the
record in the store; a store may refuse for reasons of its own. -/
inductive CasStep : PoolHistory → PoolMutation × Bool → PoolHistory → Prop where
  | accepted (history : PoolHistory) (snapshot : PoolRecord) (mutation : PoolMutation) :
      snapshot ∈ history.snapshots → Plans snapshot mutation →
      history.current.key = mutation.key →
      history.current.revision = mutation.expectedRevision →
      CasStep history (mutation, true) (history.replace mutation.replacement)
  | refused (history : PoolHistory) (snapshot : PoolRecord) (mutation : PoolMutation) :
      snapshot ∈ history.snapshots → Plans snapshot mutation →
      CasStep history (mutation, false) history

variable (log : List (PoolMutation × Bool))

def acceptedMutations : List PoolMutation :=
  (log.filter Prod.snd).map Prod.fst

/-! ## What a plan can be -/

def PoolRecord.activeHeader : PoolRecord → Option ActiveRecordHeader
  | .available record => some record.header
  | .reserved record => some record.header
  | _ => none

/-- The mutation ends a record with this header: its material is taken or destroyed. -/
structure PoolMutation.Closes (mutation : PoolMutation) (header : ActiveRecordHeader) :
    Prop where
  expectedRevision : mutation.expectedRevision = header.revision
  terminal : mutation.replacement.IsTerminal
  revision : mutation.replacement.revision = header.revision + 1
  disposition : mutation.materialDisposition = .take header.material ∨
    mutation.materialDisposition = .destroy header.material

structure PoolMutation.Reserves (mutation : PoolMutation) (record : AvailableRecord) :
    Prop where
  expectedRevision : mutation.expectedRevision = record.header.revision
  replacement : ∃ next : ReservedRecord, mutation.replacement = .reserved next ∧
    next.header = { record.header with revision := record.header.revision + 1 }
  disposition : mutation.materialDisposition = .retain

variable {header : ActiveRecordHeader} {reason : TombstoneReason} {mutation : PoolMutation}

theorem tombstone_closes {terminalAtMs : ℕ} {origin : TombstoneOrigin}
    (h : header.tombstone reason terminalAtMs origin = .ok mutation) : mutation.Closes header := by
  simp only [ActiveRecordHeader.tombstone, ok_iff, exists_const] at h
  obtain ⟨-, revision, hrevision, rfl⟩ := h
  obtain rfl := nextRevision_eq_ok hrevision
  exact ⟨rfl, trivial, rfl, .inr rfl⟩

variable {nowMs : ℕ}

theorem destroy_closes {record : ReservedRecord} (h : record.destroy reason nowMs = .ok mutation) :
    mutation.Closes record.header := by
  simp only [ReservedRecord.destroy, ok_iff, exists_const] at h
  exact tombstone_closes h.2

variable {record : AvailableRecord} {binding : ReservationBinding}

theorem reserve_reserves {reservedAtMs leaseExpiresAtMs : ℕ}
    (h : record.reserve binding reservedAtMs leaseExpiresAtMs = .ok mutation) :
    mutation.Reserves record := by
  unfold AvailableRecord.reserve at h
  split_ifs at h with hcreated hexpired hlease
  simp only [ok_iff] at h
  obtain ⟨revision, hrevision, rfl⟩ := h
  obtain rfl := nextRevision_eq_ok hrevision
  exact ⟨rfl, ⟨_, rfl, rfl⟩, rfl⟩

theorem consume_closes {record : ReservedRecord}
    (h : record.consume binding nowMs = .consumed mutation ∨
      record.consume binding nowMs = .burned mutation) :
    mutation.Closes record.header := by
  unfold ReservedRecord.consume at h
  split_ifs at h with hearly
  · simp at h
  · cases hreason : record.burnReason binding nowMs with
    | some reason =>
      cases htombstone : record.header.tombstone reason nowMs (.attempted record.binding) with
      | error error => simp [hreason, htombstone] at h
      | ok burned =>
        simp only [hreason, htombstone, reduceCtorEq, ConsumeDecision.burned.injEq, false_or] at h
        subst h
        exact tombstone_closes htombstone
    | none =>
      cases hrevision : nextRevision record.header.revision with
      | error error => simp [hreason, hrevision] at h
      | ok revision =>
        obtain rfl := nextRevision_eq_ok hrevision
        simp only [hreason, hrevision, reduceCtorEq, ConsumeDecision.consumed.injEq, or_false] at h
        subst h
        exact ⟨rfl, trivial, rfl, .inl rfl⟩

variable {snapshot : PoolRecord}

/-- A planned mutation reserves the record it was planned from, or closes it. -/
theorem Plans.cases (h : Plans snapshot mutation) :
    (∃ record, snapshot = .available record ∧ mutation.Reserves record) ∨
      ∃ header, snapshot.activeHeader = some header ∧ mutation.Closes header := by
  cases h with
  | reserve record binding reservedAtMs leaseExpiresAtMs _ h =>
    exact .inl ⟨record, rfl, reserve_reserves h⟩
  | expireAvailable record nowMs _ h =>
    simp only [AvailableRecord.expire, ok_iff, exists_const] at h
    exact .inr ⟨_, rfl, tombstone_closes h.2⟩
  | relocateAvailable record nowMs _ h => exact .inr ⟨_, rfl, tombstone_closes h⟩
  | retireAvailable record reason nowMs _ h =>
    simp only [AvailableRecord.retire, ok_iff, exists_const] at h
    exact .inr ⟨_, rfl, tombstone_closes h.2⟩
  | consume record binding nowMs _ h => exact .inr ⟨_, rfl, consume_closes (.inl h)⟩
  | burn record binding nowMs _ h => exact .inr ⟨_, rfl, consume_closes (.inr h)⟩
  | destroy record reason nowMs _ h | recoverAfterCrash record nowMs _ h =>
    exact .inr ⟨_, rfl, destroy_closes h⟩
  | expireReserved record nowMs _ h =>
    unfold ReservedRecord.expire at h
    split_ifs at h
    · exact .inr ⟨_, rfl, destroy_closes h⟩
    · exact .inr ⟨_, rfl, destroy_closes h⟩
  | relocateReserved record nowMs _ h => exact .inr ⟨_, rfl, destroy_closes h⟩
  | retireReserved record reason nowMs _ h =>
    simp only [ReservedRecord.retire, ok_iff, exists_const] at h
    exact .inr ⟨_, rfl, destroy_closes h.2⟩

theorem Plans.revisions (h : Plans snapshot mutation) :
    mutation.expectedRevision = snapshot.revision ∧
      mutation.replacement.revision = snapshot.revision + 1 := by
  rcases h.cases with ⟨record, rfl, hreserves⟩ | ⟨header, hheader, hcloses⟩
  · obtain ⟨next, hnext, hheader⟩ := hreserves.replacement
    refine ⟨hreserves.expectedRevision, ?_⟩
    rw [hnext]
    exact congrArg ActiveRecordHeader.revision hheader
  · have hrevision : snapshot.revision = header.revision := by
      cases snapshot <;> cases hheader <;> rfl
    rw [hrevision]
    exact ⟨hcloses.expectedRevision, hcloses.revision⟩

/-! ## Runs -/

/-- Whatever was held before has a lower revision. -/
def PoolHistory.Ordered (history : PoolHistory) : Prop :=
  ∀ snapshot ∈ history.earlier, snapshot.revision < history.current.revision

variable {history : PoolHistory}

/-- An accepted mutation was planned from the record that it replaces. -/
theorem PoolHistory.Ordered.eq_current (h : history.Ordered) (hmem : snapshot ∈ history.snapshots)
    (hplans : Plans snapshot mutation)
    (hrevision : history.current.revision = mutation.expectedRevision) :
    snapshot = history.current := by
  rcases List.mem_cons.mp hmem with rfl | hearlier
  · rfl
  · have hlt := h snapshot hearlier
    rw [hrevision, hplans.revisions.1] at hlt
    exact absurd hlt (Nat.lt_irrefl _)

variable {history' : PoolHistory} {event : PoolMutation × Bool}

theorem PoolHistory.Ordered.step (h : history.Ordered) (hstep : CasStep history event history') :
    history'.Ordered := by
  cases hstep with
  | refused _ _ _ _ => exact h
  | accepted snapshot mutation hmem hplans _ hrevision =>
    obtain rfl := h.eq_current hmem hplans hrevision
    intro earlier hearlier
    change earlier.revision < mutation.replacement.revision
    rw [hplans.revisions.2]
    rcases List.mem_cons.mp hearlier with rfl | hearlier
    · exact Nat.lt_succ_self _
    · exact Nat.lt_succ_of_lt (h earlier hearlier)

/-- How far the record has come, with the mutations that brought it there. -/
inductive CasStage (record : AvailableRecord) : List PoolMutation → PoolRecord → Prop where
  | available : CasStage record [] (.available record)
  | reserved (mutation : PoolMutation) (next : ReservedRecord) :
      mutation.materialDisposition = .retain →
      next.header = { record.header with revision := record.header.revision + 1 } →
      CasStage record [mutation] (.reserved next)
  | closed (reservations : List PoolMutation) (mutation : PoolMutation) (last : PoolRecord) :
      reservations.length ≤ 1 →
      (∀ reservation ∈ reservations, reservation.materialDisposition = .retain) →
      (mutation.materialDisposition = .take record.header.material ∨
        mutation.materialDisposition = .destroy record.header.material) →
      last.IsTerminal → CasStage record (reservations ++ [mutation]) last

variable {mutations : List PoolMutation} {current : PoolRecord}
  (h : CasStage record mutations current)

include h in
theorem CasStage.advance (hplans : Plans current mutation) :
    CasStage record (mutations ++ [mutation]) mutation.replacement := by
  cases h with
  | available =>
    rcases hplans.cases with ⟨_, hrecord, hreserves⟩ | ⟨header, hheader, hcloses⟩
    · obtain rfl := PoolRecord.available.inj hrecord
      obtain ⟨next, hnext, hheader⟩ := hreserves.replacement
      rw [hnext]
      exact .reserved mutation next hreserves.disposition hheader
    · obtain rfl := Option.some.inj hheader
      exact .closed [] mutation _ (Nat.zero_le 1) nofun hcloses.disposition hcloses.terminal
  | reserved first next hretain hnext =>
    rcases hplans.cases with ⟨_, hrecord, -⟩ | ⟨header, hheader, hcloses⟩
    · exact nomatch hrecord
    · obtain rfl := Option.some.inj hheader
      have hmaterial : next.header.material = record.header.material := by rw [hnext]
      refine .closed [first] mutation _ le_rfl ?_ ?_ hcloses.terminal
      · intro reservation hmem
        rw [List.mem_singleton.mp hmem]
        exact hretain
      · rw [← hmaterial]
        exact hcloses.disposition
  | closed reservations last _ _ _ _ hterminal =>
    rcases hplans.cases with ⟨_, rfl, -⟩ | ⟨header, hheader, -⟩
    · exact hterminal.elim
    · cases current with
      | available _ | reserved _ => exact hterminal.elim
      | consumed _ | tombstone _ => exact nomatch hheader

structure CasHistory (record : AvailableRecord) (log : List (PoolMutation × Bool))
    (history : PoolHistory) : Prop where
  ordered : history.Ordered
  stage : CasStage record (acceptedMutations log) history.current

variable {log : List (PoolMutation × Bool)}

theorem CasHistory.step (h : CasHistory record log history)
    (hstep : CasStep history event history') : CasHistory record (log ++ [event]) history' := by
  refine ⟨h.ordered.step hstep, ?_⟩
  cases hstep with
  | refused _ mutation _ _ =>
    simpa [acceptedMutations] using h.stage
  | accepted snapshot mutation hmem hplans _ hrevision =>
    obtain rfl := h.ordered.eq_current hmem hplans hrevision
    simpa [acceptedMutations, PoolHistory.replace] using h.stage.advance hplans

theorem CasHistory.of_run (h : Run CasStep (.start record) log history) :
    CasHistory record log history :=
  h.invariant (CasHistory record) ⟨fun _ hmem => absurd hmem List.not_mem_nil, .available⟩
    fun _ _ _ _ _ ih hstep => ih.step hstep

/-! ## At most one take -/

include h in
theorem CasStage.length_le : mutations.length ≤ 2 := by
  cases h with
  | available => exact Nat.zero_le 2
  | reserved mutation next _ _ => exact Nat.le_succ 1
  | closed reservations mutation _ hlength _ _ _ =>
    rw [List.length_append, List.length_singleton]
    exact Nat.succ_le_succ hlength

theorem CasStage.retain_of_append {before after : List PoolMutation}
    (h : CasStage record (before ++ mutation :: after) current)
    (hmutation : mutation.materialDisposition ≠ .retain) :
    after = [] ∧ ∀ earlier ∈ before, earlier.materialDisposition = .retain := by
  generalize hlist : before ++ mutation :: after = mutations at h
  cases h with
  | available => simp at hlist
  | reserved first next hretain _ =>
    have hmem : mutation ∈ [first] := by
      rw [← hlist]
      exact List.mem_append_right _ List.mem_cons_self
    rw [List.mem_singleton.mp hmem] at hmutation
    exact absurd hretain hmutation
  | closed reservations last _ _ hretain _ _ =>
    have hafter : after = [] := by
      cases hlast : after using List.reverseRecOn with
      | nil => rfl
      | append_singleton rest final =>
        -- the mutation would be one of the reservations
        rw [hlast, ← List.cons_append, ← List.append_assoc] at hlist
        have hmem : mutation ∈ reservations := by
          rw [← (List.append_inj' hlist rfl).1]
          exact List.mem_append_right _ List.mem_cons_self
        exact absurd (hretain mutation hmem) hmutation
    subst hafter
    refine ⟨rfl, fun earlier hmem => hretain earlier ?_⟩
    rw [← (List.append_inj' hlist rfl).1]
    exact hmem

include h in
theorem CasStage.names_material (hmem : mutation ∈ mutations) :
    mutation.materialDisposition = .retain ∨
      mutation.materialDisposition = .take record.header.material ∨
      mutation.materialDisposition = .destroy record.header.material := by
  cases h with
  | available => exact absurd hmem List.not_mem_nil
  | reserved first next hretain _ =>
    rw [List.mem_singleton.mp hmem]
    exact .inl hretain
  | closed reservations last _ _ hretain hlast _ =>
    rcases List.mem_append.mp hmem with hreservation | hlastmem
    · exact .inl (hretain mutation hreservation)
    · rw [List.mem_singleton.mp hlastmem]
      exact .inr hlast

include h in
theorem CasStage.takes_le_one : mutations.countP (·.materialDisposition.isTake) ≤ 1 := by
  cases h with
  | available => exact Nat.zero_le 1
  | reserved mutation next _ _ => exact List.countP_le_length
  | closed reservations mutation _ _ hretain _ _ =>
    have hnone : reservations.countP (·.materialDisposition.isTake) = 0 := by
      rw [List.countP_eq_zero]
      intro reservation hmem
      rw [hretain reservation hmem]
      exact Bool.false_ne_true
    rw [List.countP_append, hnone, Nat.zero_add]
    exact List.countP_le_length

/-- For a record created with some material, and any mutations planned from what the
store held, handed to it in any order: at most one take is accepted, what is taken or
destroyed is the material of the record, nothing is accepted after that, and at most
two mutations are accepted. -/
theorem cas_at_most_one_take (key : PoolRecordKey) (material : NonzeroDigest)
    (createdAtMs materialExpiresAtMs : ℕ) (record : AvailableRecord)
    (hrecord : AvailableRecord.new key material createdAtMs materialExpiresAtMs = .ok record)
    (log : List (PoolMutation × Bool)) (history : PoolHistory)
    (hrun : Run CasStep (.start record) log history) :
    (acceptedMutations log).countP (·.materialDisposition.isTake) ≤ 1 ∧
      (∀ mutation ∈ acceptedMutations log, ∀ locator, mutation.materialDisposition = .take locator ∨
          mutation.materialDisposition = .destroy locator → locator = material) ∧
      (∀ before mutation after, log = before ++ (mutation, true) :: after →
        mutation.materialDisposition ≠ .retain → ∀ event ∈ after, event.2 = false) ∧
      (acceptedMutations log).length ≤ 2 := by
  have hstage := (CasHistory.of_run hrun).stage
  have hmaterial : record.header.material = material := by
    unfold AvailableRecord.new at hrecord
    split_ifs at hrecord
    obtain rfl := Except.ok.inj hrecord
    rfl
  refine ⟨hstage.takes_le_one, ?_, ?_, hstage.length_le⟩
  · intro mutation hmem locator hlocator
    rw [← hmaterial]
    rcases hstage.names_material hmem with h | h | h <;> rcases hlocator with h' | h' <;>
      cases h.symm.trans h'
    · rfl
    · rfl
  · intro before mutation after hlog hmutation event hevent
    have haccepted : acceptedMutations log =
        acceptedMutations before ++ mutation :: acceptedMutations after := by
      rw [hlog]
      simp [acceptedMutations]
    rw [haccepted] at hstage
    have hnone := (hstage.retain_of_append hmutation).1
    rw [acceptedMutations, List.map_eq_nil_iff, List.filter_eq_nil_iff] at hnone
    exact Bool.eq_false_iff.mpr (hnone event hevent)

/-! ### A lifecycle with a stale plan -/

def sampleDigest (byte : UInt8) (h : byte ≠ 0) : NonzeroDigest where
  bytes := ⟨List.replicate 32 byte, rfl⟩
  ne_zero := by
    intro hzero
    exact h (List.cons.inj (congrArg List.Vector.toList hzero)).1

def sampleOne : NonzeroDigest := sampleDigest 1 (by decide)

def sampleKey : PoolRecordKey where
  wallet := sampleOne
  account := sampleOne
  signingScope := sampleOne
  pairId := sampleOne
  role := .client
  keyEpoch := sampleOne
  activationEpoch := sampleOne
  protocol := sampleOne

def sampleRecord : AvailableRecord :=
  ⟨⟨sampleKey, 0, sampleDigest 9 (by decide), 1000, 100000⟩, by decide⟩

def sampleBinding : ReservationBinding := ⟨sampleOne, sampleOne⟩

def sampleReserved : ReservedRecord :=
  ⟨{ sampleRecord.header with revision := 1 }, sampleBinding, 2000, 10000, by decide,
    by decide, by decide⟩

def sampleReserve : PoolMutation := ⟨0, .reserved sampleReserved, .retain⟩

def sampleConsume : PoolMutation :=
  ⟨1, .consumed ⟨sampleKey, 2, sampleBinding, 1000, 2000, 3000⟩, .take (sampleDigest 9 (by decide))⟩

/-- Two actors plan the same reservation; the second is refused, and the material is
taken once. -/
theorem cas_at_most_one_take_stale_reserve :
    acceptedMutations [(sampleReserve, true), (sampleReserve, false), (sampleConsume, true)] =
        [sampleReserve, sampleConsume] ∧
      (acceptedMutations [(sampleReserve, true), (sampleReserve, false),
        (sampleConsume, true)]).countP (·.materialDisposition.isTake) ≤ 1 := by
  have hreserve : Plans (.available sampleRecord) sampleReserve :=
    .reserve sampleRecord sampleBinding 2000 10000 _ (by decide +kernel)
  have hconsume : Plans (.reserved sampleReserved) sampleConsume :=
    .consume sampleReserved sampleBinding 3000 _ (by decide +kernel)
  refine ⟨rfl, (cas_at_most_one_take sampleKey (sampleDigest 9 (by decide)) 1000 100000
    sampleRecord (by decide +kernel) _
    (((PoolHistory.start sampleRecord).replace sampleReserve.replacement).replace
      sampleConsume.replacement) ?_).1⟩
  have hstart : Run CasStep (.start sampleRecord) [(sampleReserve, true)]
      ((PoolHistory.start sampleRecord).replace sampleReserve.replacement) :=
    .snoc .nil (.accepted _ _ _ List.mem_cons_self hreserve rfl rfl)
  have hstale := hstart.snoc (.refused _ _ _ (List.mem_cons_of_mem _ List.mem_cons_self) hreserve)
  exact hstale.snoc (.accepted _ _ _ List.mem_cons_self hconsume rfl rfl)

end SeamsWallet.EcdsaPool
