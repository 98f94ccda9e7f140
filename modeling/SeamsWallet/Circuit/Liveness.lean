import Mathlib.Data.List.GetD
import SeamsWallet.Circuit.Schedule
import SeamsWallet.Library.Run

/-!
# Schedules preserve circuits

Before gate `k` every wire that is read from there on has a slot, no two wires share one,
and no slot in use is free. The gate's output takes a slot that is free or new, so it
overwrites nothing that is read later, and a run of the schedule keeps in each slot the
value of its wire.
-/

namespace SeamsWallet.Circuit

open Library

/-! ## Last uses -/

def Gate.Reads (gate : Gate) (wire : ℕ) : Prop :=
  wire = gate.operands.1 ∨ wire = gate.operands.2

instance (gate : Gate) (wire : ℕ) : Decidable (gate.Reads wire) :=
  inferInstanceAs (Decidable (_ ∨ _))

/-- Some gate from `k` on, or the outputs, read the wire. -/
def ReadFrom (gates : List Gate) (outputs : List ℕ) (k : ℕ) (wire : ℕ) : Prop :=
  (∃ j gate, k ≤ j ∧ gates[j]? = some gate ∧ gate.Reads wire) ∨ wire ∈ outputs

def lastGateUses (gates : List Gate) : ℕ → Option ℕ :=
  gates.zipIdx.foldl (fun lastUses (gate, gateIndex) =>
    Function.update (Function.update lastUses gate.operands.1 (some gateIndex))
      gate.operands.2 (some gateIndex)) fun _ => none

theorem lastGateUses_snoc (gates : List Gate) (gate : Gate) (wire : ℕ) :
    lastGateUses (gates ++ [gate]) wire =
      if gate.Reads wire then some gates.length else lastGateUses gates wire := by
  have hfold : lastGateUses (gates ++ [gate]) =
      Function.update (Function.update (lastGateUses gates) gate.operands.1
        (some gates.length)) gate.operands.2 (some gates.length) := by
    simp [lastGateUses, List.zipIdx_append]
  rw [hfold, Function.update_apply, Function.update_apply]
  by_cases hright : wire = gate.operands.2 <;> by_cases hleft : wire = gate.operands.1 <;>
    simp [Gate.Reads, hright, hleft]

variable {gate : Gate} {gates : List Gate} {wire inputCount : ℕ} {lastUses : ℕ → Option ℕ}

theorem lastGateUses_of_reads {j : ℕ} (hgate : gates[j]? = some gate) (hreads : gate.Reads wire) :
    ∃ u, lastGateUses gates wire = some u ∧ j ≤ u := by
  induction gates using List.reverseRecOn with
  | nil => simp at hgate
  | append_singleton gates last ih =>
    have hj : j < (gates ++ [last]).length := (List.getElem?_eq_some_iff.mp hgate).1
    rw [List.length_append, List.length_singleton] at hj
    rw [lastGateUses_snoc]
    split_ifs with hlast
    · exact ⟨gates.length, rfl, by omega⟩
    · apply ih
      -- The last gate does not read the wire, so the reading gate is an earlier one.
      rcases Nat.lt_succ_iff_lt_or_eq.mp hj with hlt | rfl
      · rwa [List.getElem?_append_left hlt] at hgate
      · rw [List.getElem?_concat_length, Option.some.injEq] at hgate
        exact absurd (hgate ▸ hreads) hlast

theorem foldl_update_const {wires : List ℕ} {u : ℕ} (wire : ℕ) :
    wires.foldl (fun lastUses output => Function.update lastUses output (some u)) lastUses
      wire = if wire ∈ wires then some u else lastUses wire := by
  induction wires generalizing lastUses with
  | nil => simp
  | cons first wires ih =>
    rw [List.foldl_cons, ih, Function.update_apply]
    by_cases hmem : wire ∈ wires <;> by_cases hfirst : wire = first <;> simp [hmem, hfirst]

variable {k : ℕ}

/-- A wire that is read from `k` on has its last use there. -/
theorem deriveLastUses_of_readFrom {outputs : List ℕ}
    (hk : k ≤ gates.length) (h : ReadFrom gates outputs k wire) :
    ∃ u, deriveLastUses gates outputs wire = some u ∧ k ≤ u := by
  have hfold : deriveLastUses gates outputs wire =
      if wire ∈ outputs then some gates.length else lastGateUses gates wire :=
    foldl_update_const wire
  rw [hfold]
  split_ifs with houtput
  · exact ⟨gates.length, rfl, hk⟩
  · obtain ⟨j, gate, hj, hgate, hreads⟩ := h.resolve_right houtput
    obtain ⟨u, hu, hle⟩ := lastGateUses_of_reads hgate hreads
    exact ⟨u, hu, hj.trans hle⟩

/-! ## Slots -/

/-- No two wires share a slot, and no slot in use is free. -/
structure SlotsDisjoint (state : SlotState) : Prop where
  injective : ∀ wire wire' slot, state.wireSlots wire = some slot →
    state.wireSlots wire' = some slot → wire = wire'
  not_free : ∀ wire slot, state.wireSlots wire = some slot → slot ∉ state.freeSlots
  lt : ∀ wire slot, state.wireSlots wire = some slot → slot < state.nextSlot
  free_lt : ∀ slot ∈ state.freeSlots, slot < state.nextSlot

variable {state : SlotState} (hstate : SlotsDisjoint state)

include hstate in
theorem releaseAtLastUse_spec {slot : ℕ} (hslot : state.wireSlots wire = some slot)
    (gateIndex : ℕ) (lastUses : ℕ → Option ℕ) :
    ∃ state', releaseAtLastUse wire gateIndex lastUses state = .ok state' ∧
      SlotsDisjoint state' ∧ state'.nextSlot = state.nextSlot ∧
      state'.scheduledGates = state.scheduledGates ∧
      ∀ w, state'.wireSlots w =
        if w = wire ∧ lastUses wire = some gateIndex then none else state.wireSlots w := by
  by_cases hlast : lastUses wire = some gateIndex
  · have hnotFree := hstate.not_free wire slot hslot
    refine ⟨{ state with
      wireSlots := Function.update state.wireSlots wire none
      freeSlots := insert slot state.freeSlots }, ?_, ⟨?_, ?_, ?_, ?_⟩, rfl, rfl, ?_⟩
    · rw [releaseAtLastUse, if_neg (not_not.mpr hlast), hslot, okOr_some, ok_bind,
        ensure_of hnotFree, ok_bind]
      rfl
    all_goals simp only [Function.update_apply]
    · intro w w' s hw hw'
      split_ifs at hw hw'
      exact hstate.injective w w' s hw hw'
    · intro w s hw
      split_ifs at hw with hne
      rw [Finset.mem_insert, not_or]
      refine ⟨?_, hstate.not_free w s hw⟩
      rintro rfl
      exact hne (hstate.injective w wire s hw hslot)
    · intro w s hw
      split_ifs at hw
      exact hstate.lt w s hw
    · intro s hs
      rcases Finset.mem_insert.mp hs with rfl | hs
      · exact hstate.lt wire s hslot
      · exact hstate.free_lt s hs
    · simp [hlast]
  · refine ⟨state, ?_, hstate, rfl, rfl, ?_⟩
    · rw [releaseAtLastUse, if_pos hlast]
      rfl
    · simp [hlast]

structure TakesSlot (state : SlotState) (slot : ℕ) (state' : SlotState) : Prop where
  disjoint : SlotsDisjoint state'
  wireSlots : state'.wireSlots = state.wireSlots
  scheduledGates : state'.scheduledGates = state.scheduledGates
  unused : ∀ wire, state.wireSlots wire ≠ some slot
  not_free : slot ∉ state'.freeSlots
  lt : slot < state'.nextSlot
  le : state.nextSlot ≤ state'.nextSlot
  le_succ : state'.nextSlot ≤ state.nextSlot + 1

include hstate in
theorem takeSlot_spec (hcount : state.nextSlot + 1 < 2 ^ 32) :
    ∃ slot state', takeSlot state = .ok (slot, state') ∧ TakesSlot state slot state' := by
  by_cases hfree : state.freeSlots.Nonempty
  · have hmem := state.freeSlots.min'_mem hfree
    refine ⟨state.freeSlots.min' hfree,
      { state with freeSlots := state.freeSlots.erase (state.freeSlots.min' hfree) }, ?_, ?_⟩
    · rw [takeSlot, takeSmallestSlot, dif_pos hfree]
      rfl
    · exact
        { disjoint := ⟨hstate.injective,
            fun w s hw hs => hstate.not_free w s hw (Finset.mem_of_mem_erase hs), hstate.lt,
            fun s hs => hstate.free_lt s (Finset.mem_of_mem_erase hs)⟩
          wireSlots := rfl
          scheduledGates := rfl
          unused := fun w hw => hstate.not_free w _ hw hmem
          not_free := Finset.notMem_erase _ _
          lt := hstate.free_lt _ hmem
          le := le_rfl
          le_succ := Nat.le_succ _ }
  · refine ⟨state.nextSlot, { state with nextSlot := state.nextSlot + 1 }, ?_, ?_⟩
    · rw [takeSlot, takeSmallestSlot, dif_neg hfree]
      simp only [ensure_of hcount, ok_bind]
      rfl
    · exact
        { disjoint := ⟨hstate.injective, hstate.not_free,
            fun w s hw => (hstate.lt w s hw).trans (Nat.lt_succ_self _),
            fun s hs => (hstate.free_lt s hs).trans (Nat.lt_succ_self _)⟩
          wireSlots := rfl
          scheduledGates := rfl
          unused := fun w hw => (hstate.lt w _ hw).ne rfl
          not_free := fun hs => (hstate.free_lt _ hs).ne rfl
          lt := Nat.lt_succ_self _
          le := Nat.le_succ _
          le_succ := le_rfl }

/-! ## One gate -/

/-- What scheduling gate `k` does: the operands have slots, the output takes one that no
other wire has, and the wires that are read later keep theirs. -/
structure Allocates (inputCount : ℕ) (lastUses : ℕ → Option ℕ) (gate : Gate) (k : ℕ)
    (state : SlotState) (scheduled : ScheduledGateV1) (state' : SlotState) : Prop where
  kind : scheduled.kind = scheduledKind gate
  left : state.wireSlots gate.operands.1 = some scheduled.leftSlot
  right : state.wireSlots gate.operands.2 = some scheduled.rightSlot
  output : state'.wireSlots (inputCount + k) = some scheduled.outputSlot
  kept : ∀ wire slot, wire ≠ inputCount + k → state'.wireSlots wire = some slot →
    state.wireSlots wire = some slot ∧ slot ≠ scheduled.outputSlot
  live : ∀ wire, wire ≠ inputCount + k → lastUses wire ≠ some k →
    state'.wireSlots wire = state.wireSlots wire
  scheduledGates : state'.scheduledGates = state.scheduledGates ++ [scheduled]
  le : state.nextSlot ≤ state'.nextSlot
  le_succ : state'.nextSlot ≤ state.nextSlot + 1
  disjoint : SlotsDisjoint state'

variable {leftSlot rightSlot : ℕ}

include hstate in
theorem releaseOperands_spec {left right : ℕ} (hleft : state.wireSlots left = some leftSlot)
    (hright : state.wireSlots right = some rightSlot) (k : ℕ) (lastUses : ℕ → Option ℕ) :
    ∃ state', releaseOperands left right k lastUses state = .ok state' ∧
      SlotsDisjoint state' ∧ state'.nextSlot = state.nextSlot ∧
      state'.scheduledGates = state.scheduledGates ∧
      ∀ w, state'.wireSlots w =
        if (w = left ∨ w = right) ∧ lastUses w = some k then none else state.wireSlots w := by
  obtain ⟨state₁, hrelease, hdisjoint, hnext, hgates, hslots⟩ :=
    releaseAtLastUse_spec hstate hleft k lastUses
  rw [releaseOperands, hrelease, ok_bind]
  by_cases hsame : right = left
  · refine ⟨state₁, if_neg (not_not.mpr hsame), hdisjoint, hnext, hgates, fun w => ?_⟩
    rw [hslots w, hsame]
    by_cases hw : w = left <;> simp [hw]
  · have hright₁ : state₁.wireSlots right = some rightSlot := by
      rw [hslots, if_neg fun h => hsame h.1, hright]
    obtain ⟨state₂, hrelease₂, hdisjoint₂, hnext₂, hgates₂, hslots₂⟩ :=
      releaseAtLastUse_spec hdisjoint hright₁ k lastUses
    refine ⟨state₂, (if_pos hsame).trans hrelease₂, hdisjoint₂, hnext₂.trans hnext,
      hgates₂.trans hgates, fun w => ?_⟩
    rw [hslots₂, hslots]
    by_cases hw : w = left
    · subst hw
      simp [Ne.symm hsame]
    · by_cases hw' : w = right
      · subst hw'
        simp [hsame]
      · simp [hw, hw']

theorem push_wireSlots (state : SlotState) (wire : ℕ) (gate : ScheduledGateV1) (w : ℕ) :
    (state.push wire gate).wireSlots w =
      if w = wire then some gate.outputSlot else state.wireSlots w :=
  Function.update_apply ..

include hstate in
theorem SlotsDisjoint.push {gate : ScheduledGateV1}
    (hunused : ∀ w, state.wireSlots w ≠ some gate.outputSlot)
    (hfree : gate.outputSlot ∉ state.freeSlots) (hlt : gate.outputSlot < state.nextSlot)
    (wire : ℕ) : SlotsDisjoint (state.push wire gate) := by
  constructor
  · intro w w' s hw hw'
    rw [push_wireSlots] at hw hw'
    split_ifs at hw hw' with hout hout' hout'
    · exact hout.trans hout'.symm
    · exact absurd (hw'.trans hw.symm) (hunused w')
    · exact absurd (hw.trans hw'.symm) (hunused w)
    · exact hstate.injective w w' s hw hw'
  · intro w s hw
    rw [push_wireSlots] at hw
    split_ifs at hw
    · exact Option.some.inj hw ▸ hfree
    · exact hstate.not_free w s hw
  · intro w s hw
    rw [push_wireSlots] at hw
    split_ifs at hw
    · exact Option.some.inj hw ▸ hlt
    · exact hstate.lt w s hw
  · exact hstate.free_lt

include hstate in
theorem scheduleGate_spec (hcount : state.nextSlot + 1 < 2 ^ 32)
    (hleft : state.wireSlots gate.operands.1 = some leftSlot)
    (hright : state.wireSlots gate.operands.2 = some rightSlot) :
    ∃ scheduled state', scheduleGate inputCount lastUses state (gate, k) = .ok state' ∧
      Allocates inputCount lastUses gate k state scheduled state' := by
  obtain ⟨released, hrelease, hdisjoint, hnext, hgates, hslots⟩ :=
    releaseOperands_spec hstate hleft hright k lastUses
  obtain ⟨slot, taken, htake, htakes⟩ := takeSlot_spec hdisjoint (hnext ▸ hcount)
  have hunused : ∀ w, taken.wireSlots w ≠ some slot := htakes.wireSlots ▸ htakes.unused
  refine ⟨⟨scheduledKind gate, leftSlot, rightSlot, slot⟩,
    taken.push (inputCount + k) ⟨scheduledKind gate, leftSlot, rightSlot, slot⟩, ?_, ?_⟩
  · simp only [scheduleGate, hleft, hright, okOr_some, ok_bind, hrelease, htake]
    rfl
  · exact
      { kind := rfl
        left := hleft
        right := hright
        output := by rw [push_wireSlots, if_pos rfl]
        kept := by
          intro w s hw hs
          rw [push_wireSlots, if_neg hw] at hs
          refine ⟨?_, fun hslot => hunused w (hs.trans (congrArg some hslot))⟩
          rw [htakes.wireSlots, hslots] at hs
          split_ifs at hs
          exact hs
        live := by
          intro w hw hlast
          rw [push_wireSlots, if_neg hw, htakes.wireSlots, hslots, if_neg fun h => hlast h.2]
        scheduledGates := by rw [SlotState.push, htakes.scheduledGates, hgates]
        le := hnext ▸ htakes.le
        le_succ := hnext ▸ htakes.le_succ
        disjoint := htakes.disjoint.push hunused htakes.not_free htakes.lt _ }

/-! ## All gates -/

/-- The slot a wire is given: inputs keep their number, a gate's output has the slot its
scheduled gate writes. -/
def slotOf (inputCount : ℕ) (gates : List ScheduledGateV1) (wire : ℕ) : ℕ :=
  if wire < inputCount then wire
  else (gates[wire - inputCount]?).elim 0 ScheduledGateV1.outputSlot

theorem slotOf_of_isPrefixOf {gates all : List ScheduledGateV1}
    (hall : gates <+: all) (h : wire < inputCount + gates.length) :
    slotOf inputCount all wire = slotOf inputCount gates wire := by
  obtain ⟨more, rfl⟩ := hall
  unfold slotOf
  split_ifs with hinput
  · rfl
  · rw [List.getElem?_append_left (by omega)]

structure SlotInvariant (inputCount : ℕ) (lastUses : ℕ → Option ℕ) (k : ℕ)
    (state : SlotState) : Prop where
  disjoint : SlotsDisjoint state
  live : ∀ wire u, wire < inputCount + k → lastUses wire = some u → k ≤ u →
    ∃ slot, state.wireSlots wire = some slot
  wire_lt : ∀ wire slot, state.wireSlots wire = some slot → wire < inputCount + k
  slot_eq : ∀ wire slot, state.wireSlots wire = some slot →
    slotOf inputCount state.scheduledGates wire = slot
  length : state.scheduledGates.length = k
  slots_lt : ∀ gate ∈ state.scheduledGates, gate.leftSlot < state.nextSlot ∧
    gate.rightSlot < state.nextSlot ∧ gate.outputSlot < state.nextSlot
  inputCount_le : inputCount ≤ state.nextSlot
  nextSlot_le : state.nextSlot ≤ inputCount + k

theorem slotInvariant_initial (inputCount : ℕ) (lastUses : ℕ → Option ℕ) :
    SlotInvariant inputCount lastUses 0 (initialSlots inputCount lastUses) := by
  have hslot : ∀ wire slot, (initialSlots inputCount lastUses).wireSlots wire = some slot →
      wire = slot ∧ wire < inputCount ∧ lastUses wire ≠ none := by
    intro wire slot h
    simp only [initialSlots] at h
    split_ifs at h with hwire
    exact ⟨Option.some.inj h, hwire⟩
  refine ⟨⟨?_, ?_, ?_, ?_⟩, ?_, ?_, ?_, rfl, nofun, le_rfl, le_rfl⟩
  · intro wire wire' slot h h'
    exact (hslot wire slot h).1.trans (hslot wire' slot h').1.symm
  · intro wire slot h hfree
    obtain ⟨rfl, -, hlast⟩ := hslot wire slot h
    exact hlast (Finset.mem_filter.mp hfree).2
  · intro wire slot h
    obtain ⟨rfl, hlt, -⟩ := hslot wire slot h
    exact hlt
  · intro slot hfree
    exact Finset.mem_range.mp (Finset.mem_filter.mp hfree).1
  · intro wire u hwire hlast _
    refine ⟨wire, if_pos ⟨hwire, ?_⟩⟩
    rw [hlast]
    exact Option.some_ne_none u
  · intro wire slot h
    exact (hslot wire slot h).2.1
  · intro wire slot h
    obtain ⟨rfl, hlt, -⟩ := hslot wire slot h
    exact if_pos hlt

variable {scheduled : ScheduledGateV1} {state' : SlotState}

theorem Allocates.slotInvariant (hstate : SlotInvariant inputCount lastUses k state)
    (h : Allocates inputCount lastUses gate k state scheduled state') :
    SlotInvariant inputCount lastUses (k + 1) state' where
  disjoint := h.disjoint
  live wire u hwire hlast hle := by
    by_cases hout : wire = inputCount + k
    · exact ⟨scheduled.outputSlot, hout ▸ h.output⟩
    · rw [h.live wire hout (by rw [hlast]; simp only [ne_eq, Option.some.injEq]; omega)]
      exact hstate.live wire u (by omega) hlast (by omega)
  wire_lt wire slot hslot := by
    by_cases hout : wire = inputCount + k
    · omega
    · have := hstate.wire_lt wire slot (h.kept wire slot hout hslot).1
      omega
  slot_eq wire slot hslot := by
    have hlength := hstate.length
    rw [h.scheduledGates]
    by_cases hout : wire = inputCount + k
    · subst hout
      rw [h.output, Option.some.injEq] at hslot
      subst hlength
      simpa [slotOf] using hslot
    · obtain ⟨hold, -⟩ := h.kept wire slot hout hslot
      rw [slotOf_of_isPrefixOf (List.prefix_append _ _) (hlength ▸ hstate.wire_lt wire slot hold)]
      exact hstate.slot_eq wire slot hold
  length := by
    rw [h.scheduledGates, List.length_append, List.length_singleton, hstate.length]
  slots_lt g hg := by
    rw [h.scheduledGates, List.mem_append, List.mem_singleton] at hg
    have hle := h.le
    rcases hg with hg | rfl
    · have := hstate.slots_lt g hg
      omega
    · have := hstate.disjoint.lt _ _ h.left
      have := hstate.disjoint.lt _ _ h.right
      have := h.disjoint.lt _ _ h.output
      omega
  inputCount_le := hstate.inputCount_le.trans h.le
  nextSlot_le := by
    have := h.le_succ
    have := hstate.nextSlot_le
    omega

/-! ## Runs -/

/-- Every slot in use holds the value of its wire. -/
def Simulates (state : SlotState) (wires slots : List Bool) : Prop :=
  ∀ wire slot, state.wireSlots wire = some slot → slots.getD slot false = wires.getD wire false

def ScheduledGateV1.value (slots : List Bool) (gate : ScheduledGateV1) : Bool :=
  match gate.kind with
  | .xor => slots.getD gate.leftSlot false ^^ slots.getD gate.rightSlot false
  | .and => slots.getD gate.leftSlot false && slots.getD gate.rightSlot false
  | .inv => !slots.getD gate.leftSlot false

theorem ScheduledGateV1.apply_eq (slots : List Bool) (gate : ScheduledGateV1) :
    gate.apply slots = slots.set gate.outputSlot (gate.value slots) := rfl

theorem length_foldl_apply (gates : List ScheduledGateV1) (slots : List Bool) :
    (gates.foldl ScheduledGateV1.apply slots).length = slots.length := by
  induction gates generalizing slots with
  | nil => rfl
  | cons gate gates ih =>
    rw [List.foldl_cons, ih, ScheduledGateV1.apply_eq, List.length_set]

variable {wires slots : List Bool} (h : Allocates inputCount lastUses gate k state scheduled state')
include h

theorem Allocates.value_eq
    (hsimulates : Simulates state wires slots) : scheduled.value slots = gate.value wires := by
  have hkind := h.kind
  have hleft := hsimulates _ _ h.left
  have hright := hsimulates _ _ h.right
  cases gate <;> simp_all only [scheduledKind, Gate.operands, ScheduledGateV1.value, Gate.value]

theorem Allocates.simulates
    (hstate : SlotInvariant inputCount lastUses k state) (hwires : wires.length = inputCount + k)
    (hslots : state'.nextSlot ≤ slots.length) (hsimulates : Simulates state wires slots) :
    Simulates state' (wires ++ [gate.value wires]) (scheduled.apply slots) := by
  intro wire slot hslot
  rw [ScheduledGateV1.apply_eq, h.value_eq hsimulates]
  by_cases hout : wire = inputCount + k
  · subst hout
    have hlt := h.disjoint.lt _ _ h.output
    rw [h.output, Option.some.injEq] at hslot
    subst hslot
    rw [← hwires]
    simp [List.getElem?_set_self (hlt.trans_le hslots)]
  · obtain ⟨hold, hne⟩ := h.kept wire slot hout hslot
    have hlt := hstate.wire_lt wire slot hold
    rw [List.getD_append _ _ _ _ (hwires ▸ hlt), ← hsimulates wire slot hold,
      List.getD_eq_getElem?_getD, List.getElem?_set_ne hne.symm, ← List.getD_eq_getElem?_getD]

omit h

/-- Each gate reads earlier wires, whose last uses are not before the gate. -/
def Covered (inputCount : ℕ) (lastUses : ℕ → Option ℕ) (gates : List Gate) : Prop :=
  ∀ k gate, gates[k]? = some gate → ∀ wire, gate.Reads wire →
    wire < inputCount + k ∧ ∃ u, lastUses wire = some u ∧ k ≤ u

variable {before : List Gate} {after : List Gate}

theorem Covered.of_append
    (h : Covered inputCount lastUses (before ++ after)) : Covered inputCount lastUses before := by
  intro k gate hgate
  apply h k gate
  rw [List.getElem?_append_left (List.getElem?_eq_some_iff.mp hgate).1, hgate]

theorem scheduleGates_step (hgates : Covered inputCount lastUses (gates ++ [gate]))
    (hcount : inputCount + gates.length + 1 < 2 ^ 32)
    (hstate : scheduleGates inputCount lastUses gates = .ok state)
    (hinvariant : SlotInvariant inputCount lastUses gates.length state) :
    ∃ scheduled state', scheduleGates inputCount lastUses (gates ++ [gate]) = .ok state' ∧
      Allocates inputCount lastUses gate gates.length state scheduled state' := by
  have hreads := hgates gates.length gate List.getElem?_concat_length
  obtain ⟨hleft, u, hu, hle⟩ := hreads gate.operands.1 (.inl rfl)
  obtain ⟨hright, v, hv, hle'⟩ := hreads gate.operands.2 (.inr rfl)
  obtain ⟨leftSlot, hleftSlot⟩ := hinvariant.live _ u hleft hu hle
  obtain ⟨rightSlot, hrightSlot⟩ := hinvariant.live _ v hright hv hle'
  have hnext := hinvariant.nextSlot_le
  obtain ⟨scheduled, state', hschedule, hallocates⟩ := scheduleGate_spec
    hinvariant.disjoint (by omega) hleftSlot hrightSlot
  refine ⟨scheduled, state', ?_, hallocates⟩
  rw [scheduleGates] at hstate ⊢
  rw [List.zipIdx_append, List.foldlM_append, hstate, ok_bind]
  simpa using hschedule

/-- A step of the schedule, from a state that keeps the invariant. -/
def ScheduleStep (inputCount : ℕ) (lastUses : ℕ → Option ℕ) (state : SlotState) (gate : Gate)
    (state' : SlotState) : Prop :=
  SlotInvariant inputCount lastUses state.scheduledGates.length state ∧ ∃ scheduled,
    Allocates inputCount lastUses gate state.scheduledGates.length state scheduled state'

theorem scheduleGates_eq_ok (gates : List Gate)
    (hgates : Covered inputCount lastUses gates) (hcount : inputCount + gates.length < 2 ^ 32) :
    ∃ state, scheduleGates inputCount lastUses gates = .ok state ∧
      SlotInvariant inputCount lastUses gates.length state ∧
      Run (ScheduleStep inputCount lastUses) (initialSlots inputCount lastUses) gates state := by
  induction gates using List.reverseRecOn with
  | nil => exact ⟨_, rfl, slotInvariant_initial inputCount lastUses, .nil⟩
  | append_singleton gates gate ih =>
    rw [List.length_append, List.length_singleton] at hcount ⊢
    obtain ⟨state, hstate, hinvariant, hrun⟩ := ih hgates.of_append (by omega)
    obtain ⟨scheduled, state', hstate', hallocates⟩ :=
      scheduleGates_step hgates (by omega) hstate hinvariant
    refine ⟨state', hstate', hallocates.slotInvariant hinvariant, hrun.snoc ?_⟩
    rw [ScheduleStep, hinvariant.length]
    exact ⟨hinvariant, scheduled, hallocates⟩

theorem scheduledGates_of_run (hrun : Run (ScheduleStep inputCount lastUses) state gates state') :
    state.scheduledGates <+: state'.scheduledGates ∧
      state'.scheduledGates.length = state.scheduledGates.length + gates.length := by
  refine hrun.invariant (fun gates s => state.scheduledGates <+: s.scheduledGates ∧
    s.scheduledGates.length = state.scheduledGates.length + gates.length) ⟨List.prefix_rfl, rfl⟩ ?_
  rintro gates s gate s' - ⟨hbefore, hlength⟩ ⟨-, scheduled, hallocates⟩
  rw [hallocates.scheduledGates, List.length_append, List.length_append, hlength]
  exact ⟨hbefore.trans (List.prefix_append _ _), rfl⟩

theorem simulates_of_run
    (hrun : Run (ScheduleStep inputCount lastUses) (initialSlots inputCount lastUses) gates state)
    {inputs : List Bool} (hinputs : inputs.length = inputCount) (slots : List Bool)
    (hslots : state.nextSlot ≤ slots.length)
    (hsame : ∀ wire < inputCount, slots.getD wire false = inputs.getD wire false) :
    Simulates state (evaluateGates gates inputs)
      (state.scheduledGates.foldl ScheduledGateV1.apply slots) := by
  induction hrun with
  | nil =>
    intro wire slot hslot
    have hwire := (slotInvariant_initial inputCount lastUses).wire_lt wire slot hslot
    simp only [initialSlots] at hslot
    split_ifs at hslot
    cases hslot
    exact hsame wire hwire
  | @snoc gates before gate after hrun hstep ih =>
    obtain ⟨hinvariant, scheduled, hallocates⟩ := hstep
    rw [evaluateGates, List.foldl_append, hallocates.scheduledGates, List.foldl_append]
    refine hallocates.simulates hinvariant ?_ ?_ (ih (hallocates.le.trans hslots))
    · rw [(scheduledGates_of_run hrun).2, ← hinputs]
      exact (length_evaluateGates gates inputs).trans (congrArg _ (Nat.zero_add _).symm)
    · rwa [length_foldl_apply]

/-! ## Schedules -/

theorem length_encodeSlot_le (slot width : ℕ) : (encodeSlot slot width).length ≤ 4 := by
  simp [encodeSlot]

theorem length_flatMap_le {α β : Type} {f : α → List β} {b : ℕ} (l : List α)
    (h : ∀ a, (f a).length ≤ b) : (l.flatMap f).length ≤ l.length * b := by
  induction l with
  | nil => simp
  | cons a l ih =>
    rw [List.flatMap_cons, List.length_append, List.length_cons, Nat.add_one_mul]
    have := h a
    omega

theorem encodedSlotWidth_eq_ok {slotCount : ℕ} (h : 1 ≤ slotCount) :
    ∃ width ≤ 4, encodedSlotWidth slotCount = .ok width := by
  rw [encodedSlotWidth, ensure_of h, ok_bind]
  refine ⟨_, ?_, rfl⟩
  split_ifs <;> omega

theorem encodeSchedule_eq_ok (inputs : ScheduleEncodingInputsV1) (hwidth : inputs.slotWidth ≤ 4)
    (hgates : inputs.gates.length < 2 ^ 32) (houtputs : inputs.outputSlots.length < 2 ^ 32) :
    ∃ encoding, encodeSchedule inputs = .ok encoding ∧ encoding.length < 2 ^ 64 := by
  have hrecords : inputs.gates.length * (1 + inputs.slotWidth * 3) < 2 ^ 32 * 13 :=
    Nat.mul_lt_mul_of_lt_of_le hgates (by omega) (by omega)
  have hslots : inputs.outputSlots.length * inputs.slotWidth ≤ 2 ^ 32 * 4 :=
    Nat.mul_le_mul houtputs.le hwidth
  rw [encodeSchedule, ensure_of hgates, ok_bind]
  dsimp only
  rw [ensure_of (by omega), ok_bind, ensure_of (by omega), ok_bind, ensure_of (by omega), ok_bind]
  refine ⟨_, rfl, ?_⟩
  have hgateBytes : (inputs.gates.flatMap fun gate => [gate.kind.opcode] ++
      encodeSlot gate.leftSlot inputs.slotWidth ++ encodeSlot gate.rightSlot inputs.slotWidth ++
      encodeSlot gate.outputSlot inputs.slotWidth).length ≤ inputs.gates.length * 13 := by
    apply length_flatMap_le
    intro gate
    have := length_encodeSlot_le gate.leftSlot inputs.slotWidth
    have := length_encodeSlot_le gate.rightSlot inputs.slotWidth
    have := length_encodeSlot_le gate.outputSlot inputs.slotWidth
    simp only [List.length_append, List.length_singleton]
    omega
  have hslotBytes : (inputs.outputSlots.flatMap fun slot =>
      encodeSlot slot inputs.slotWidth).length ≤ inputs.outputSlots.length * 4 :=
    length_flatMap_le _ fun slot => length_encodeSlot_le slot inputs.slotWidth
  simp only [List.length_append, List.length_cons, List.length_nil, List.Vector.toList_length]
  omega

theorem finishSchedule_eq_ok (sha256 : List UInt8 → Bytes 32) {circuit : CanonicalBooleanCircuitV1}
    (hstate : SlotInvariant circuit.inputCount lastUses circuit.gates.length state)
    (houtputs : ∀ output ∈ circuit.outputs,
      state.wireSlots output = some (slotOf circuit.inputCount state.scheduledGates output)) :
    ∃ schedule, finishSchedule sha256 circuit state = .ok schedule ∧
      schedule.inputCount = circuit.inputCount ∧
      schedule.gates = state.scheduledGates ∧
      schedule.outputSlots = circuit.outputs.map (slotOf circuit.inputCount state.scheduledGates) ∧
      schedule.metrics.reusableSlotCount = state.nextSlot := by
  have hslots : circuit.outputs.mapM (fun output =>
      okOr (state.wireSlots output) ScheduleBuildErrorV1.missingOutputSlot) =
        .ok (circuit.outputs.map (slotOf circuit.inputCount state.scheduledGates)) := by
    apply mapM_eq_ok_map
    intro output houtput
    rw [houtputs output houtput, okOr_some]
  obtain ⟨width, hwidth, hencodedWidth⟩ := encodedSlotWidth_eq_ok
    (circuit.inputCount_pos.trans_le hstate.inputCount_le)
  have hgates : state.scheduledGates.length < 2 ^ 32 := by
    have := circuit.wireCount_lt
    have := hstate.length
    omega
  obtain ⟨encoding, hencoding, hlength⟩ := encodeSchedule_eq_ok
    { component := circuit.component
      circuitDigest := circuit.digest
      inputCount := circuit.inputCount
      outputCount := circuit.outputs.length
      slotCount := state.nextSlot
      slotWidth := width
      gates := state.scheduledGates
      outputSlots := circuit.outputs.map (slotOf circuit.inputCount state.scheduledGates) }
    hwidth hgates (by simpa using circuit.outputCount_lt)
  have hrecord : 1 + width * 3 < 2 ^ 8 := by omega
  simp only [finishSchedule, hslots, hencodedWidth, hencoding, ok_bind, ensure_of hlength,
    ensure_of hrecord]
  exact ⟨_, rfl, rfl, rfl, rfl, rfl⟩

theorem covered_deriveLastUses (circuit : CanonicalBooleanCircuitV1) :
    Covered circuit.inputCount (deriveLastUses circuit.gates circuit.outputs) circuit.gates := by
  intro k gate hgate wire hreads
  have hk := (List.getElem?_eq_some_iff.mp hgate).1
  refine ⟨?_, deriveLastUses_of_readFrom hk.le (.inl ⟨k, gate, le_rfl, hgate, hreads⟩)⟩
  have hlt := (validateTopology_eq_ok circuit.topology).1 k gate hgate
  rcases hreads with rfl | rfl
  · exact hlt.1
  · exact hlt.2

structure ScheduledAt (inputCount : ℕ) (lastUses : ℕ → Option ℕ) (gate : Gate) (k : ℕ)
    (final : SlotState) (before : SlotState) (scheduled : ScheduledGateV1)
    (after : SlotState) : Prop where
  invariant : SlotInvariant inputCount lastUses k before
  allocates : Allocates inputCount lastUses gate k before scheduled after
  gates_before : before.scheduledGates <+: final.scheduledGates
  gates_after : after.scheduledGates <+: final.scheduledGates

section At

variable {inputCount : ℕ} {lastUses : ℕ → Option ℕ} {gates : List Gate} {final : SlotState} {k : ℕ}

theorem exists_scheduledAt
    (hrun : Run (ScheduleStep inputCount lastUses) (initialSlots inputCount lastUses) gates final)
    (hgate : gates[k]? = some gate) :
    ∃ before scheduled after,
      ScheduledAt inputCount lastUses gate k final before scheduled after := by
  obtain ⟨hk, rfl⟩ := List.getElem?_eq_some_iff.mp hgate
  rw [← List.take_append_drop k gates, ← List.getElem_cons_drop hk] at hrun
  obtain ⟨before, after, hbefore, ⟨hinvariant, scheduled, hallocates⟩, hafter⟩ := hrun.split
  have hlength : before.scheduledGates.length = k := by
    rw [(scheduledGates_of_run hbefore).2, List.length_take_of_le hk.le]
    exact Nat.zero_add k
  rw [hlength] at hinvariant hallocates
  have hprefix := (scheduledGates_of_run hafter).1
  refine ⟨before, scheduled, after, hinvariant, hallocates, ?_, hprefix⟩
  rw [hallocates.scheduledGates] at hprefix
  exact (List.prefix_append _ _).trans hprefix

theorem SlotInvariant.slotOf_final (hinvariant : SlotInvariant inputCount lastUses k state)
    (hsublist : state.scheduledGates <+: final.scheduledGates) {slot : ℕ}
    (hslot : state.wireSlots wire = some slot) :
    slotOf inputCount final.scheduledGates wire = slot := by
  rw [slotOf_of_isPrefixOf hsublist (hinvariant.length ▸ hinvariant.wire_lt wire slot hslot)]
  exact hinvariant.slot_eq wire slot hslot

end At

/-- Gates read and write the slots of their wires. Before each gate no two wires that are
still read share a slot, no gate writes the slot of a wire that is read after it, and all
slots are within the schedule's number of slots. -/
structure SoundSlots (circuit : CanonicalBooleanCircuitV1)
    (schedule : CanonicalLivenessScheduleV1) : Prop where
  reads : ∀ (k : ℕ) (gate : Gate), circuit.gates[k]? = some gate → ∃ scheduled,
    schedule.gates[k]? = some scheduled ∧
      scheduled.leftSlot = slotOf circuit.inputCount schedule.gates gate.operands.1 ∧
      scheduled.rightSlot = slotOf circuit.inputCount schedule.gates gate.operands.2
  outputs : schedule.outputSlots = circuit.outputs.map (slotOf circuit.inputCount schedule.gates)
  distinct : ∀ k ≤ circuit.gates.length, ∀ wire wire',
    wire < circuit.inputCount + k → ReadFrom circuit.gates circuit.outputs k wire →
    wire' < circuit.inputCount + k → ReadFrom circuit.gates circuit.outputs k wire' →
    slotOf circuit.inputCount schedule.gates wire =
      slotOf circuit.inputCount schedule.gates wire' → wire = wire'
  not_overwritten : ∀ (k : ℕ) (gate : ScheduledGateV1), schedule.gates[k]? = some gate →
    ∀ wire < circuit.inputCount + k, ReadFrom circuit.gates circuit.outputs (k + 1) wire →
      gate.outputSlot ≠ slotOf circuit.inputCount schedule.gates wire
  slots_lt : ∀ gate ∈ schedule.gates, gate.leftSlot < schedule.metrics.reusableSlotCount ∧
    gate.rightSlot < schedule.metrics.reusableSlotCount ∧
    gate.outputSlot < schedule.metrics.reusableSlotCount
  outputs_lt : ∀ slot ∈ schedule.outputSlots, slot < schedule.metrics.reusableSlotCount
  inputs_le : circuit.inputCount ≤ schedule.metrics.reusableSlotCount

section Circuits

variable {circuit : CanonicalBooleanCircuitV1} {final : SlotState}

theorem exists_slot_of_readFrom
    (hinvariant : SlotInvariant circuit.inputCount
      (deriveLastUses circuit.gates circuit.outputs) k state)
    (hk : k ≤ circuit.gates.length) (hwire : wire < circuit.inputCount + k)
    (hread : ReadFrom circuit.gates circuit.outputs k wire) :
    ∃ slot, state.wireSlots wire = some slot := by
  obtain ⟨u, hu, hle⟩ := deriveLastUses_of_readFrom hk hread
  exact hinvariant.live wire u hwire hu hle

theorem soundSlots_of_run
    (hrun : Run (ScheduleStep circuit.inputCount (deriveLastUses circuit.gates circuit.outputs))
      (initialSlots circuit.inputCount (deriveLastUses circuit.gates circuit.outputs))
      circuit.gates final)
    (hinvariant : SlotInvariant circuit.inputCount
      (deriveLastUses circuit.gates circuit.outputs) circuit.gates.length final)
    {schedule : CanonicalLivenessScheduleV1} (hgates : schedule.gates = final.scheduledGates)
    (houtputs : schedule.outputSlots =
      circuit.outputs.map (slotOf circuit.inputCount final.scheduledGates))
    (hcount : schedule.metrics.reusableSlotCount = final.nextSlot) :
    SoundSlots circuit schedule := by
  constructor
  · intro k gate hgate
    obtain ⟨before, scheduled, after, hat⟩ := exists_scheduledAt hrun hgate
    have hsublist := hat.gates_after
    rw [hat.allocates.scheduledGates] at hsublist
    obtain ⟨more, hmore⟩ := hsublist
    refine ⟨scheduled, ?_, ?_, ?_⟩ <;> rw [hgates]
    · rw [← hmore, ← hat.invariant.length]
      simp
    · exact (hat.invariant.slotOf_final hat.gates_before hat.allocates.left).symm
    · exact (hat.invariant.slotOf_final hat.gates_before hat.allocates.right).symm
  · rw [houtputs, hgates]
  · intro k hk wire wire' hwire hread hwire' hread' hsame
    obtain ⟨state, hstate, hsublist⟩ : ∃ state, SlotInvariant circuit.inputCount
        (deriveLastUses circuit.gates circuit.outputs) k state ∧
        state.scheduledGates <+: final.scheduledGates := by
      rcases hk.lt_or_eq with hlt | rfl
      · obtain ⟨before, _, _, hat⟩ := exists_scheduledAt hrun (List.getElem?_eq_getElem hlt)
        exact ⟨before, hat.invariant, hat.gates_before⟩
      · exact ⟨final, hinvariant, List.prefix_rfl⟩
    obtain ⟨slot, hslot⟩ := exists_slot_of_readFrom hstate hk hwire hread
    obtain ⟨slot', hslot'⟩ := exists_slot_of_readFrom hstate hk hwire' hread'
    rw [hgates, hstate.slotOf_final hsublist hslot, hstate.slotOf_final hsublist hslot'] at hsame
    exact hstate.disjoint.injective wire wire' slot hslot (hsame ▸ hslot')
  · intro k scheduled hscheduled wire hwire hread hsame
    have hk : k < circuit.gates.length := by
      rw [hgates] at hscheduled
      exact hinvariant.length ▸ (List.getElem?_eq_some_iff.mp hscheduled).1
    -- After gate `k` its output and the wire both have slots, so these differ.
    obtain ⟨before, scheduled', after, hat⟩ :=
      exists_scheduledAt hrun (List.getElem?_eq_getElem hk)
    have hafter := hat.allocates.slotInvariant hat.invariant
    obtain ⟨slot, hslot⟩ := exists_slot_of_readFrom hafter hk (by omega) hread
    have hout := hafter.slotOf_final hat.gates_after hat.allocates.output
    have houtSlot : slotOf circuit.inputCount final.scheduledGates (circuit.inputCount + k) =
        scheduled.outputSlot := by
      rw [hgates] at hscheduled
      simp [slotOf, hscheduled]
    rw [hgates, hafter.slotOf_final hat.gates_after hslot, ← houtSlot, hout] at hsame
    have := hafter.disjoint.injective _ _ slot (hsame ▸ hat.allocates.output) hslot
    omega
  · rw [hgates, hcount]
    exact hinvariant.slots_lt
  · rw [houtputs, hcount]
    intro slot hslot
    obtain ⟨output, houtput, rfl⟩ := List.mem_map.mp hslot
    obtain ⟨slot, hslot⟩ := exists_slot_of_readFrom hinvariant le_rfl
      (circuit.output_lt houtput) (.inr houtput)
    rw [hinvariant.slot_eq output slot hslot]
    exact hinvariant.disjoint.lt output slot hslot
  · rw [hcount]
    exact hinvariant.inputCount_le

end Circuits

/-- Every circuit has a schedule, the schedule computes the circuit's outputs, and its slots
are sound. -/
theorem schedule_preserves_circuit (sha256 : List UInt8 → Bytes 32)
    (circuit : CanonicalBooleanCircuitV1) :
    ∃ schedule, deriveSchedule sha256 circuit = .ok schedule ∧
      (∀ inputs : List Bool, inputs.length = circuit.inputCount →
        ∃ outputs, schedule.evaluate inputs = .ok outputs ∧ circuit.evaluate inputs = .ok outputs) ∧
      SoundSlots circuit schedule := by
  have hcovered := covered_deriveLastUses circuit
  have hwires := circuit.wireCount_lt
  have hgateCount : circuit.gates.length < 2 ^ 32 := by omega
  obtain ⟨state, hstate, hinvariant, hrun⟩ := scheduleGates_eq_ok circuit.gates hcovered hwires
  have hslots : ∀ output ∈ circuit.outputs, state.wireSlots output =
      some (slotOf circuit.inputCount state.scheduledGates output) := by
    intro output houtput
    obtain ⟨slot, hslot⟩ := exists_slot_of_readFrom hinvariant le_rfl
      (circuit.output_lt houtput) (.inr houtput)
    rw [hinvariant.slot_eq output slot hslot, hslot]
  obtain ⟨schedule, hschedule, hinputCount, hgates, houtputs, hcount⟩ :=
    finishSchedule_eq_ok sha256 hinvariant hslots
  refine ⟨schedule, ?_, fun inputs hinputs => ?_, soundSlots_of_run hrun hinvariant
    hgates houtputs hcount⟩
  · simp only [deriveSchedule, ensure_of hgateCount, ensure_of circuit.outputCount_lt,
      ensure_of hwires, ok_bind, hstate, hschedule]
  · have hinputSlots := hinvariant.inputCount_le
    have hsimulates := simulates_of_run hrun hinputs
      (inputs ++ List.replicate (state.nextSlot - inputs.length) false)
      (by simp; omega) fun wire hwire => List.getD_append _ _ _ _ (hinputs ▸ hwire)
    refine ⟨circuit.outputs.map fun output =>
      (evaluateGates circuit.gates inputs).getD output false, ?_, ?_⟩
    · rw [CanonicalLivenessScheduleV1.evaluate, hinputCount, ensure_of hinputs, ok_bind,
        hcount, hgates, houtputs]
      refine congrArg Except.ok ?_
      rw [List.map_map]
      apply List.map_congr_left
      intro output houtput
      exact hsimulates output _ (hslots output houtput)
    · rw [CanonicalBooleanCircuitV1.evaluate, ensure_of hinputs, ok_bind]
      rfl

end SeamsWallet.Circuit
