import SeamsWallet.EcdsaPool.Transitions
import SeamsWallet.Library.Run

/-!
# A presignature is used once

One storage slot receives any sequence of pool commands: an error leaves the
slot as it was, a success stores the record of its outcome. Along every such
history the slot is in one of four phases, and each phase says what the
answers given so far can have been. That bound material is handed out at most
once, and never after it was destroyed, is read off the phase.
-/

namespace SeamsWallet.EcdsaPool

open Library

abbrev SlotEvent : Type :=
  EcdsaPoolCommand × RouterAbProtocolResult EcdsaPoolMutationOutcome

def storeOutcome (slot : Option EcdsaPoolLifecycleRecord) :
    RouterAbProtocolResult EcdsaPoolMutationOutcome → Option EcdsaPoolLifecycleRecord
  | .ok outcome => some outcome.record
  | .error _ => slot

def answerCommand (prims : Primitives) (slot : Option EcdsaPoolLifecycleRecord)
    (command : EcdsaPoolCommand) :
    RouterAbProtocolResult EcdsaPoolMutationOutcome × Option EcdsaPoolLifecycleRecord :=
  let result := applyCommand prims slot command
  (result, storeOutcome slot result)

abbrev SlotStep (prims : Primitives) : Option EcdsaPoolLifecycleRecord → SlotEvent →
    Option EcdsaPoolLifecycleRecord → Prop :=
  Answers (answerCommand prims)

variable {slot slot' : Option EcdsaPoolLifecycleRecord} {event : SlotEvent}
  {prims : Primitives} {record : EcdsaPoolLifecycleRecord}

theorem slotStep_iff : SlotStep prims slot event slot' ↔
      applyCommand prims slot event.1 = event.2 ∧ slot' = storeOutcome slot event.2 := by
  constructor
  · intro h
    obtain ⟨hresult, rfl⟩ := Prod.mk.inj h
    exact ⟨hresult, by rw [hresult]⟩
  · rintro ⟨hresult, rfl⟩
    apply Prod.ext hresult
    rw [← hresult]
    rfl

namespace SlotEvent

def IsConsumed (event : SlotEvent) : Prop :=
  ∃ record material, event.2 = .ok (.consumed record material)

def IsDestroyed (event : SlotEvent) : Prop :=
  ∃ record, event.2 = .ok (.burned record) ∨ event.2 = .ok (.finished record)

/-- The event reserved the slot, or confirmed its reservation, for a request. -/
def Reserves (event : SlotEvent) (request : ReservationRequest)
    (record : EcdsaPoolLifecycleRecord) : Prop :=
  event.1.reservation = some request ∧ event.2 = .ok (.reserved record)

end SlotEvent

/-! ## Phases -/

/-- No material was handed out or destroyed so far. -/
structure Untouched (log : List SlotEvent) : Prop where
  consumed : ∀ e ∈ log, ¬ SlotEvent.IsConsumed e
  destroyed : ∀ e ∈ log, ¬ SlotEvent.IsDestroyed e

/-- The slot was reserved by one request, and every reservation answered since
was answered with the same record, for the same digest. -/
structure ReservedSince (prims : Primitives) (log : List SlotEvent)
    (record : EcdsaPoolLifecycleRecord) (lifecycle : ReservedRecord)
    (material : EcdsaPresignatureRecord) : Prop where
  reserved : ∃ e ∈ log, ∃ request, SlotEvent.Reserves e request record ∧
    record.ReservedFor prims request lifecycle material
  only : ∀ e ∈ log, ∀ request' record', SlotEvent.Reserves e request' record' →
    record' = record ∧ request'.requestDigest = material.requestDigest

/-- What the answers of a history can have been, by the phase the slot is in. -/
inductive SlotHistory (prims : Primitives) (log : List SlotEvent) :
    Option EcdsaPoolLifecycleRecord → Prop
  | unused {slot : Option EcdsaPoolLifecycleRecord}
      (hslot : ∀ record, slot = some record → ∃ lifecycle, record.lifecycle = .available lifecycle)
      (huntouched : Untouched log)
      (hreserved : ∀ e ∈ log, ∀ request record, ¬ SlotEvent.Reserves e request record) :
      SlotHistory prims log slot
  | reserved {record : EcdsaPoolLifecycleRecord} {lifecycle : ReservedRecord}
      {material : EcdsaPresignatureRecord} (huntouched : Untouched log)
      (hreserved : ReservedSince prims log record lifecycle material) :
      SlotHistory prims log (some record)
  | consumed {record : EcdsaPoolLifecycleRecord} {lifecycle : ConsumedRecord}
      (hlifecycle : record.lifecycle = .consumed lifecycle)
      (hconsumed : log.Pairwise fun e e' =>
        SlotEvent.IsConsumed e → ¬ SlotEvent.IsConsumed e')
      (hdestroyed : ∀ e ∈ log, ¬ SlotEvent.IsDestroyed e) :
      SlotHistory prims log (some record)
  | destroyed {record : EcdsaPoolLifecycleRecord} {tombstone : TombstoneRecord}
      (hlifecycle : record.lifecycle = .tombstone tombstone)
      (hconsumed : ∀ e ∈ log, ¬ SlotEvent.IsConsumed e) :
      SlotHistory prims log (some record)

variable {log : List SlotEvent} {lifecycle : ReservedRecord} {material : EcdsaPresignatureRecord}
  (h : ReservedSince prims log record lifecycle material)
include h

theorem ReservedSince.lifecycle_eq :
    record.lifecycle = .reserved lifecycle := by
  obtain ⟨e, -, request, -, hrecord⟩ := h.reserved
  exact hrecord.lifecycle_eq

theorem ReservedSince.material_eq :
    record.materialState = .reserved material := by
  obtain ⟨e, -, request, -, hrecord⟩ := h.reserved
  exact hrecord.material_eq

omit h

theorem Untouched.snoc (h : Untouched log)
    (hevent : ¬ SlotEvent.IsConsumed event ∧ ¬ SlotEvent.IsDestroyed event) :
    Untouched (log ++ [event]) := by
  constructor <;> rw [List.forall_mem_append, List.forall_mem_singleton]
  · exact ⟨h.consumed, hevent.1⟩
  · exact ⟨h.destroyed, hevent.2⟩

theorem pairwise_not_isConsumed (h : ∀ e ∈ log, ¬ SlotEvent.IsConsumed e) :
    log.Pairwise fun e e' => SlotEvent.IsConsumed e → ¬ SlotEvent.IsConsumed e' := by
  apply List.Pairwise.imp_of_mem _ (List.pairwise_of_forall fun _ _ => trivial)
  intro e e' he _ _ hconsumed
  exact absurd hconsumed (h e he)

theorem ReservedSince.snoc (h : ReservedSince prims log record lifecycle material)
    (hevent : ∀ request' record', SlotEvent.Reserves event request' record' →
      record' = record ∧ request'.requestDigest = material.requestDigest) :
    ReservedSince prims (log ++ [event]) record lifecycle material := by
  obtain ⟨e, he, hreserves⟩ := h.reserved
  refine ⟨⟨e, List.mem_append_left _ he, hreserves⟩, ?_⟩
  rw [List.forall_mem_append, List.forall_mem_singleton]
  exact ⟨h.only, hevent⟩

/-- The event hands nothing out, destroys nothing and reserves nothing. -/
def SlotEvent.Quiet (event : SlotEvent) : Prop :=
  ¬ event.IsConsumed ∧ ¬ event.IsDestroyed ∧ ∀ request record, ¬ event.Reserves request record

namespace SlotEvent

variable {command : EcdsaPoolCommand} {stored : Bool} {error : RouterAbProtocolError}

theorem untouched_reserved : ¬ IsConsumed (command, .ok (.reserved record)) ∧
    ¬ IsDestroyed (command, .ok (.reserved record)) := by
  simp [IsConsumed, IsDestroyed]

theorem quiet_error : Quiet (command, .error error) := by
  simp [Quiet, IsConsumed, IsDestroyed, Reserves]

theorem quiet_available : Quiet (command, .ok (.available record stored)) := by
  simp [Quiet, IsConsumed, IsDestroyed, Reserves]

theorem quiet_preservedTerminal : Quiet (command, .ok (.preservedTerminal record)) := by
  simp [Quiet, IsConsumed, IsDestroyed, Reserves]

end SlotEvent

namespace SlotHistory

variable {log : List SlotEvent} {slot : Option EcdsaPoolLifecycleRecord}

/-- A slot that holds an available record, or none, was never reserved. -/
theorem unused_inv (h : SlotHistory prims log slot)
    (hslot : ∀ record, slot = some record → ∃ lifecycle, record.lifecycle = .available lifecycle) :
    Untouched log ∧ ∀ e ∈ log, ∀ request record, ¬ SlotEvent.Reserves e request record := by
  cases h with
  | unused _ huntouched hreserved => exact ⟨huntouched, hreserved⟩
  | reserved _ hreserved =>
    obtain ⟨available, havailable⟩ := hslot _ rfl
    cases hreserved.lifecycle_eq.symm.trans havailable
  | consumed hlifecycle | destroyed hlifecycle =>
    obtain ⟨available, havailable⟩ := hslot _ rfl
    cases hlifecycle.symm.trans havailable

variable {current : EcdsaPoolLifecycleRecord} {material : EcdsaPresignatureRecord}

/-- A slot that holds a reserved record was reserved by an event of its history. -/
theorem reserved_inv (h : SlotHistory prims log (some current))
    (hlifecycle : current.lifecycle = .reserved lifecycle)
    (hmaterial : current.materialState = .reserved material) :
    Untouched log ∧ ReservedSince prims log current lifecycle material := by
  cases h with
  | unused hslot =>
    obtain ⟨available, havailable⟩ := hslot current rfl
    cases hlifecycle.symm.trans havailable
  | reserved huntouched hreserved =>
    cases hlifecycle.symm.trans hreserved.lifecycle_eq
    cases hmaterial.symm.trans hreserved.material_eq
    exact ⟨huntouched, hreserved⟩
  | consumed hconsumed => cases hlifecycle.symm.trans hconsumed
  | destroyed hdestroyed => cases hlifecycle.symm.trans hdestroyed

variable {event : SlotEvent}

theorem snoc_quiet (h : SlotHistory prims log slot) (hquiet : event.Quiet) :
    SlotHistory prims (log ++ [event]) slot := by
  obtain ⟨hconsumed, hdestroyed, hreserved⟩ := hquiet
  cases h with
  | unused hslot huntouched hr =>
    apply unused hslot (huntouched.snoc ⟨hconsumed, hdestroyed⟩)
    rw [List.forall_mem_append, List.forall_mem_singleton]
    exact ⟨hr, hreserved⟩
  | reserved huntouched hr =>
    apply reserved (huntouched.snoc ⟨hconsumed, hdestroyed⟩) (hr.snoc _)
    intro request record h
    exact absurd h (hreserved request record)
  | consumed hlifecycle hc hd =>
    apply consumed hlifecycle
    · simp [List.pairwise_append, hc, hconsumed]
    · rw [List.forall_mem_append, List.forall_mem_singleton]
      exact ⟨hd, hdestroyed⟩
  | destroyed hlifecycle hc =>
    apply destroyed hlifecycle
    rw [List.forall_mem_append, List.forall_mem_singleton]
    exact ⟨hc, hconsumed⟩

variable {command : EcdsaPoolCommand} {request : ReservationRequest}

theorem snoc_reserved {fresh : EcdsaPoolLifecycleRecord}
    (h : SlotHistory prims log slot) (hslot : ∀ current, slot = some current → current = fresh)
    (hreserve : fresh.reserveFor prims request = .ok record)
    (hcommand : command.reservation = some request) :
    SlotHistory prims (log ++ [(command, .ok (.reserved record))]) (some record) := by
  obtain ⟨available, lifecycle, material, havailable, -, -, -, hrecord⟩ :=
    EcdsaPoolLifecycleRecord.reserveFor_eq_ok hreserve
  obtain ⟨huntouched, hnone⟩ := h.unused_inv fun current hcurrent =>
    ⟨available, by rw [hslot current hcurrent, havailable]⟩
  apply reserved (huntouched.snoc SlotEvent.untouched_reserved)
  refine ⟨⟨_, List.mem_append_right _ List.mem_cons_self, request, ⟨hcommand, rfl⟩, hrecord⟩, ?_⟩
  rw [List.forall_mem_append, List.forall_mem_singleton]
  constructor
  · intro e he request' record' hreserves
    exact absurd hreserves (hnone e he request' record')
  · rintro request' record' ⟨hrequest, hresult⟩
    cases hresult
    cases hcommand.symm.trans hrequest
    exact ⟨rfl, hrecord.requestDigest.symm⟩

theorem snoc_keepReserved {target : CommandTarget}
    (h : SlotHistory prims log (some current)) (hvalid : current.validate prims = .ok ())
    (hmaterial : current.materialState = .reserved material)
    (hdigest : material.requestDigest = request.requestDigest) :
    SlotHistory prims (log ++ [(.reserve target request, .ok (.reserved current))])
      (some current) := by
  obtain ⟨lifecycle, hlifecycle⟩ :=
    EcdsaPoolLifecycleRecord.lifecycle_of_reserved_material hvalid hmaterial
  obtain ⟨huntouched, hreserved⟩ := h.reserved_inv hlifecycle hmaterial
  apply reserved (huntouched.snoc SlotEvent.untouched_reserved) (hreserved.snoc _)
  rintro request' record' ⟨hrequest, hresult⟩
  cases hrequest
  cases hresult
  exact ⟨rfl, hdigest.symm⟩

theorem snoc_consumed
    {requestDigest : PublicDigest32} {nowUnixMs : ℕ} (h : SlotHistory prims log (some current))
    (hconsume : current.Consumes prims requestDigest nowUnixMs material record) :
    SlotHistory prims (log ++ [(command, .ok (.consumed record material))]) (some record) := by
  obtain ⟨lifecycle, hlifecycle, -⟩ := hconsume.within_lease
  obtain ⟨consumedRecord, rfl, -⟩ := hconsume.eq_consumed
  obtain ⟨huntouched, -⟩ := h.reserved_inv hlifecycle hconsume.material_eq
  apply consumed rfl
  · rw [List.pairwise_append]
    refine ⟨pairwise_not_isConsumed huntouched.consumed, List.pairwise_singleton _ _, ?_⟩
    intro e he e' _ hconsumed
    exact absurd hconsumed (huntouched.consumed e he)
  · rw [List.forall_mem_append, List.forall_mem_singleton]
    refine ⟨huntouched.destroyed, ?_⟩
    rintro ⟨record', hresult | hresult⟩ <;> cases hresult

variable {outcome : EcdsaPoolMutationOutcome}

theorem snoc_destroyed
    (h : SlotHistory prims log (some current)) (hdestroy : current.Destroys prims record)
    (houtcome : outcome = .burned record ∨ outcome = .finished record) :
    SlotHistory prims (log ++ [(command, .ok outcome)]) (some outcome.record) := by
  obtain ⟨tombstone, htombstone, -⟩ := hdestroy.eq_tombstone
  have hrecord : outcome.record = record := by
    rcases houtcome with rfl | rfl <;> rfl
  have hquiet : ¬ SlotEvent.IsConsumed (command, .ok outcome) := by
    rintro ⟨record', material', hresult⟩
    rcases houtcome with rfl | rfl <;> cases hresult
  have hlog : ∀ e ∈ log, ¬ SlotEvent.IsConsumed e := by
    cases h with
    | unused _ huntouched | reserved huntouched => exact huntouched.consumed
    | consumed hlifecycle | destroyed hlifecycle =>
      exact absurd (by rw [hlifecycle]; trivial) hdestroy.live
  apply destroyed (by rw [hrecord, htombstone])
  rw [List.forall_mem_append, List.forall_mem_singleton]
  exact ⟨hlog, hquiet⟩

theorem snoc_keepTerminal (h : SlotHistory prims log (some current))
    (houtcome : outcome = .preservedTerminal current ∨ outcome = .finished current ∧
      ∃ tombstone, current.lifecycle = .tombstone tombstone) :
    SlotHistory prims (log ++ [(command, .ok outcome)]) (some outcome.record) := by
  rcases houtcome with rfl | ⟨rfl, tombstone, htombstone⟩
  · exact h.snoc_quiet SlotEvent.quiet_preservedTerminal
  · cases h with
    | unused hslot =>
      obtain ⟨available, havailable⟩ := hslot current rfl
      cases htombstone.symm.trans havailable
    | reserved _ hreserved => cases htombstone.symm.trans hreserved.lifecycle_eq
    | consumed hlifecycle => cases htombstone.symm.trans hlifecycle
    | destroyed hlifecycle hc =>
      apply destroyed hlifecycle
      rw [List.forall_mem_append, List.forall_mem_singleton]
      refine ⟨hc, ?_⟩
      rintro ⟨record', material', hresult⟩
      cases hresult

theorem snoc_available {material : EcdsaPresignaturePoolRecord}
    {stored : Bool} (h : SlotHistory prims log slot)
    (hslot : ∀ current, slot = some current → current = record)
    (hfresh : record.Fresh prims material) :
    SlotHistory prims (log ++ [(command, .ok (.available record stored))]) (some record) := by
  obtain ⟨lifecycle, hlifecycle, -⟩ := hfresh.lifecycle
  obtain ⟨huntouched, hnone⟩ := h.unused_inv fun current hcurrent =>
    ⟨lifecycle, by rw [hslot current hcurrent, hlifecycle]⟩
  refine snoc_quiet (unused ?_ huntouched hnone) SlotEvent.quiet_available
  intro current hcurrent
  cases hcurrent
  exact ⟨lifecycle, hlifecycle⟩

theorem step (h : SlotHistory prims log slot) (hstep : SlotStep prims slot event slot') :
    SlotHistory prims (log ++ [event]) slot' := by
  obtain ⟨command, result⟩ := event
  obtain ⟨hresult, rfl⟩ := slotStep_iff.mp hstep
  cases result with
  | error error => exact h.snoc_quiet SlotEvent.quiet_error
  | ok outcome =>
    cases applyCommand_eq_ok hresult with
    | putAvailable hfresh =>
      exact h.snoc_available (fun _ hcurrent => by cases hcurrent) hfresh
    | putReserved hfresh hreserve =>
      exact h.snoc_reserved (fun _ hcurrent => by cases hcurrent) hreserve rfl
    | keepAvailable hfresh =>
      exact h.snoc_available (fun _ hcurrent => by cases hcurrent; rfl) hfresh
    | keepReserved hvalid hmaterial hdigest =>
      exact h.snoc_keepReserved hvalid hmaterial hdigest
    | keepTerminal _ houtcome => exact h.snoc_keepTerminal houtcome
    | reserve hreserve =>
      exact h.snoc_reserved (fun _ hcurrent => by cases hcurrent; rfl) hreserve rfl
    | consume hconsume => exact h.snoc_consumed hconsume
    | destroy hdestroy houtcome => exact h.snoc_destroyed hdestroy houtcome

theorem of_run (h : Run (SlotStep prims) none log slot) : SlotHistory prims log slot := by
  apply h.invariant (SlotHistory prims)
  · apply unused
    · intro record hrecord
      cases hrecord
    · constructor <;> simp
    · simp
  · intro log s e s' _ hs hstep
    exact hs.step hstep

theorem consumed_once (h : SlotHistory prims log slot) :
    log.Pairwise fun e e' => SlotEvent.IsConsumed e → ¬ SlotEvent.IsConsumed e' := by
  cases h with
  | unused _ huntouched | reserved huntouched => exact pairwise_not_isConsumed huntouched.consumed
  | consumed _ hc => exact hc
  | destroyed _ hc => exact pairwise_not_isConsumed hc

theorem not_consumed_of_destroyed (h : SlotHistory prims log slot)
    (hdestroyed : ∃ e ∈ log, SlotEvent.IsDestroyed e) : ∀ e ∈ log, ¬ SlotEvent.IsConsumed e := by
  obtain ⟨e, he, hdestroyed⟩ := hdestroyed
  cases h with
  | unused _ huntouched | reserved huntouched => exact absurd hdestroyed (huntouched.destroyed e he)
  | consumed _ _ hd => exact absurd hdestroyed (hd e he)
  | destroyed _ hc => exact hc

end SlotHistory

/-! ## Bindings -/

theorem boundDigest_eq_ok {domain : String} {fields : List (List UInt8)} {digest : NonzeroDigest}
    (h : boundDigest prims domain fields = .ok digest) :
    bindingDigest prims domain fields = digest.bytes := by
  unfold boundDigest liftIdentity NonzeroDigest.new at h
  split_ifs at h with hzero
  · cases h
  · cases h
    rfl

/-- The request binding separates request digests: the hash of a scope digest
followed by a request digest determines the request digest. -/
def RequestBindingCollisionFree (prims : Primitives) : Prop :=
  ∀ scopeDigest requestDigest requestDigest' : PublicDigest32,
    bindingDigest prims "seams/ecdsa-pool/request/v1"
      [scopeDigest.toList, requestDigest.toList] =
    bindingDigest prims "seams/ecdsa-pool/request/v1"
      [scopeDigest.toList, requestDigest'.toList] →
    requestDigest = requestDigest'

/-! ## One use -/

/-- The command that got the material asked for the digest the slot had been
reserved for, at a time inside the reservation. -/
def ConsumedForReservation (prims : Primitives) (before : List SlotEvent)
    (command : EcdsaPoolCommand) (material : EcdsaPresignatureRecord) : Prop :=
  ∃ (target : CommandTarget) (requestDigest : PublicDigest32) (nowUnixMs : ℕ)
    (reserved : EcdsaPoolLifecycleRecord) (lifecycle : ReservedRecord)
    (request : ReservationRequest),
    command = .consume target requestDigest nowUnixMs ∧
    (∃ e ∈ before, SlotEvent.Reserves e request reserved) ∧
    (∀ e ∈ before, ∀ request' reserved', SlotEvent.Reserves e request' reserved' →
      reserved' = reserved ∧ request'.requestDigest = request.requestDigest) ∧
    reserved.lifecycle = .reserved lifecycle ∧
    reserved.materialState = .reserved material ∧
    material.requestDigest = request.requestDigest ∧
    (RequestBindingCollisionFree prims → requestDigest = request.requestDigest) ∧
    lifecycle.reservedAtMs = request.reservedAtMs ∧
    lifecycle.reservedAtMs ≤ nowUnixMs ∧
    nowUnixMs < lifecycle.leaseExpiresAtMs ∧
    lifecycle.leaseExpiresAtMs ≤ lifecycle.header.materialExpiresAtMs

variable {command : EcdsaPoolCommand}

theorem consumedForReservation_of_step {before : List SlotEvent} (h : SlotHistory prims before slot)
    (hstep : SlotStep prims slot (command, .ok (.consumed record material)) slot') :
    ConsumedForReservation prims before command material := by
  cases applyCommand_eq_ok (slotStep_iff.mp hstep).1 with
  | keepTerminal _ houtcome => rcases houtcome with houtcome | ⟨houtcome, -⟩ <;> cases houtcome
  | destroy _ houtcome => rcases houtcome with houtcome | houtcome <;> cases houtcome
  | @consume current _ target requestDigest nowUnixMs _ hconsume =>
    obtain ⟨lifecycle, hlifecycle, hbinding, hreserved, hlease⟩ := hconsume.within_lease
    obtain ⟨-, hsince⟩ := h.reserved_inv hlifecycle hconsume.material_eq
    obtain ⟨e, he, request, hreserves, hfor⟩ := hsince.reserved
    refine ⟨target, requestDigest, nowUnixMs, current, lifecycle, request, rfl,
      ⟨e, he, hreserves⟩, ?_, hlifecycle, hconsume.material_eq, hfor.requestDigest, ?_,
      hfor.reservedAtMs, hreserved, hlease, lifecycle.lease_le_expires⟩
    · intro e' he' request' reserved' hreserves'
      rw [← hfor.requestDigest]
      exact hsince.only e' he' request' reserved' hreserves'
    · intro hfree
      have hbinding' := hfor.binding
      simp only [reservationBinding, ok_iff] at hbinding hbinding'
      obtain ⟨scopeDigest, hscope, request, hrequest, reservationId, -, hbinding⟩ := hbinding
      obtain ⟨scopeDigest', hscope', request', hrequest', reservationId', -, hbinding'⟩ := hbinding'
      cases hscope.symm.trans hscope'
      cases hbinding.trans hbinding'.symm
      apply hfree scopeDigest
      rw [boundDigest_eq_ok hrequest, boundDigest_eq_ok hrequest']

theorem slot_valid (h : Run (SlotStep prims) none log slot) :
    ∀ record, slot = some record → record.validate prims = .ok () := by
  apply h.invariant fun _ slot =>
    ∀ record, slot = some record → record.validate prims = .ok ()
  · intro record hrecord
    cases hrecord
  · rintro log slot ⟨command, result⟩ slot' - hslot hstep record hrecord
    obtain ⟨hresult, rfl⟩ := slotStep_iff.mp hstep
    cases result with
    | error error => exact hslot record hrecord
    | ok outcome =>
      cases hrecord
      exact (applyCommand_eq_ok hresult).valid

theorem storeOutcome_revision {current : EcdsaPoolLifecycleRecord} :
    ∃ next, storeOutcome (some current) (applyCommand prims (some current) command) = some next ∧
      (next = current ∨ ¬ current.lifecycle.IsTerminal ∧
        next.lifecycle.revision = current.lifecycle.revision + 1) := by
  cases hresult : applyCommand prims (some current) command with
  | error error => exact ⟨current, rfl, .inl rfl⟩
  | ok outcome => exact ⟨outcome.record, rfl, (applyCommand_eq_ok hresult).revision⟩

/-- Along every sequence of pool commands on one slot that starts empty: bound
material is handed out at most once; it is not handed out in a history that
destroyed it; it goes to the request digest the slot was reserved for, inside
the lease; every stored record is valid; and the next command keeps the stored
record or replaces a live one by a record one revision later. -/
theorem slot_presignature_one_use (prims : Primitives) (commands : List EcdsaPoolCommand) :
    ((answers (answerCommand prims) none commands).Pairwise fun e e' =>
      SlotEvent.IsConsumed e → ¬ SlotEvent.IsConsumed e') ∧
    ((∃ e ∈ answers (answerCommand prims) none commands, SlotEvent.IsDestroyed e) →
      ∀ e ∈ answers (answerCommand prims) none commands, ¬ SlotEvent.IsConsumed e) ∧
    (∀ before command record material after, answers (answerCommand prims) none commands =
        before ++ (command, .ok (.consumed record material)) :: after →
      ConsumedForReservation prims before command material) ∧
    (∀ record, stateAfter (answerCommand prims) none commands = some record →
      record.validate prims = .ok ()) ∧
    (∀ command record, stateAfter (answerCommand prims) none commands = some record →
      ∃ record', stateAfter (answerCommand prims) none (commands ++ [command]) = some record' ∧
        (record' = record ∨ ¬ record.lifecycle.IsTerminal ∧
          record'.lifecycle.revision = record.lifecycle.revision + 1)) := by
  have hrun := run_answers (answerCommand prims) commands none
  have hhistory := SlotHistory.of_run hrun
  refine ⟨hhistory.consumed_once, hhistory.not_consumed_of_destroyed, ?_, slot_valid hrun, ?_⟩
  · intro before command record material after hlog
    rw [hlog] at hrun
    obtain ⟨t, t', hbefore, hstep, -⟩ := hrun.split
    exact consumedForReservation_of_step (SlotHistory.of_run hbefore) hstep
  · intro command record hslot
    rw [stateAfter_snoc, hslot]
    exact storeOutcome_revision

end SeamsWallet.EcdsaPool
