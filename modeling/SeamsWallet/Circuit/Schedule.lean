import Mathlib.Data.Finset.Max
import SeamsWallet.Circuit.Ir

/-!
# Liveness schedules

A schedule runs a circuit in a small number of slots. A wire's slot is released at the
last gate that reads it, before that gate takes the slot of its own output, and the
smallest released slot is used first; the slots of output wires are never released. The
slots of inputs that nothing reads are free from the start.
-/

namespace SeamsWallet.Circuit

open Library

inductive ScheduledGateKindV1 where
  | xor
  | and
  | inv

def ScheduledGateKindV1.opcode : ScheduledGateKindV1 → UInt8
  | xor => 1
  | and => 2
  | inv => 3

structure ScheduledGateV1 where
  kind : ScheduledGateKindV1
  leftSlot : ℕ
  rightSlot : ℕ
  outputSlot : ℕ

structure ProvisionalScheduleMetricsV1 where
  inputWireCount : ℕ
  outputWireCount : ℕ
  scheduledGateCount : ℕ
  reusableSlotCount : ℕ
  slotWidthBytes : ℕ
  gateRecordWidthBytes : ℕ
  encodedScheduleBytes : ℕ

inductive ScheduleBuildErrorV1 where
  | countOverflow
  | missingOperandSlot
  | duplicateFreeSlot
  | missingOutputSlot
  | slotWidthOverflow

inductive ScheduleEvalErrorV1 where
  | inputCountMismatch (expected actual : ℕ)

structure CanonicalLivenessScheduleV1 where
  inputCount : ℕ
  gates : List ScheduledGateV1
  outputSlots : List ℕ
  metrics : ProvisionalScheduleMetricsV1
  canonicalEncoding : List UInt8
  digest : Bytes 32

/-! ## Evaluation -/

def ScheduledGateV1.apply (slots : List Bool) (gate : ScheduledGateV1) : List Bool :=
  let left := slots.getD gate.leftSlot false
  let right := slots.getD gate.rightSlot false
  let output := match gate.kind with
    | .xor => left ^^ right
    | .and => left && right
    | .inv => !left
  slots.set gate.outputSlot output

def CanonicalLivenessScheduleV1.evaluate (schedule : CanonicalLivenessScheduleV1)
    (inputs : List Bool) : Except ScheduleEvalErrorV1 (List Bool) := do
  ensure (inputs.length = schedule.inputCount)
    (.inputCountMismatch schedule.inputCount inputs.length)
  let slots := inputs ++ List.replicate (schedule.metrics.reusableSlotCount - inputs.length) false
  let slots := schedule.gates.foldl ScheduledGateV1.apply slots
  return schedule.outputSlots.map fun slot => slots.getD slot false

/-! ## Last uses -/

/-- For each wire the last gate that reads it; the end of the circuit for outputs. -/
def deriveLastUses (gates : List Gate) (outputs : List ℕ) : ℕ → Option ℕ :=
  let lastUses := gates.zipIdx.foldl (fun lastUses (gate, gateIndex) =>
    Function.update (Function.update lastUses gate.operands.1 (some gateIndex))
      gate.operands.2 (some gateIndex)) fun _ => none
  outputs.foldl (fun lastUses output => Function.update lastUses output (some gates.length))
    lastUses

/-! ## Allocation -/

/-- The slots in use, the slots free for reuse, and the slots and gates made so far. -/
structure SlotState where
  wireSlots : ℕ → Option ℕ
  freeSlots : Finset ℕ
  nextSlot : ℕ
  scheduledGates : List ScheduledGateV1

def releaseAtLastUse (wire : ℕ) (gateIndex : ℕ) (lastUses : ℕ → Option ℕ)
    (state : SlotState) : Except ScheduleBuildErrorV1 SlotState :=
  if lastUses wire ≠ some gateIndex then
    return state
  else do
    let slot ← okOr (state.wireSlots wire) .missingOperandSlot
    ensure (slot ∉ state.freeSlots) .duplicateFreeSlot
    return { state with
      wireSlots := Function.update state.wireSlots wire none
      freeSlots := insert slot state.freeSlots }

/-- Equal operands are released once. -/
def releaseOperands (leftWire rightWire : ℕ) (gateIndex : ℕ)
    (lastUses : ℕ → Option ℕ) (state : SlotState) :
    Except ScheduleBuildErrorV1 SlotState := do
  let state ← releaseAtLastUse leftWire gateIndex lastUses state
  if rightWire ≠ leftWire then releaseAtLastUse rightWire gateIndex lastUses state
  else return state

def takeSmallestSlot (freeSlots : Finset ℕ) : Option (ℕ × Finset ℕ) :=
  if h : freeSlots.Nonempty then
    some (freeSlots.min' h, freeSlots.erase (freeSlots.min' h))
  else none

/-- The slot of a gate's output: the smallest free one, or a new one. -/
def takeSlot (state : SlotState) : Except ScheduleBuildErrorV1 (ℕ × SlotState) :=
  match takeSmallestSlot state.freeSlots with
  | some (slot, freeSlots) => return (slot, { state with freeSlots })
  | none => do
    ensure (state.nextSlot + 1 < 2 ^ 32) .countOverflow
    return (state.nextSlot, { state with nextSlot := state.nextSlot + 1 })

def SlotState.push (state : SlotState) (wire : ℕ) (gate : ScheduledGateV1) : SlotState :=
  { state with
    wireSlots := Function.update state.wireSlots wire (some gate.outputSlot)
    scheduledGates := state.scheduledGates ++ [gate] }

def scheduledKind : Gate → ScheduledGateKindV1
  | .xor _ _ => .xor
  | .and _ _ => .and
  | .inv _ => .inv

def scheduleGate (inputCount : ℕ) (lastUses : ℕ → Option ℕ) (state : SlotState)
    (gate : Gate × ℕ) : Except ScheduleBuildErrorV1 SlotState := do
  let (gate, gateIndex) := gate
  let (leftWire, rightWire) := gate.operands
  let leftSlot ← okOr (state.wireSlots leftWire) .missingOperandSlot
  let rightSlot ← okOr (state.wireSlots rightWire) .missingOperandSlot
  let state ← releaseOperands leftWire rightWire gateIndex lastUses state
  let (outputSlot, state) ← takeSlot state
  return state.push (inputCount + gateIndex) ⟨scheduledKind gate, leftSlot, rightSlot, outputSlot⟩

/-- Before the first gate every input that is read has its own slot. The code visits each
input once, so no slot is freed twice here. -/
def initialSlots (inputCount : ℕ) (lastUses : ℕ → Option ℕ) : SlotState where
  wireSlots wire := if wire < inputCount ∧ lastUses wire ≠ none then some wire else none
  freeSlots := (Finset.range inputCount).filter fun input => lastUses input = none
  nextSlot := inputCount
  scheduledGates := []

/-! ## Encoding -/

def encodedSlotWidth (slotCount : ℕ) : Except ScheduleBuildErrorV1 ℕ := do
  ensure (1 ≤ slotCount) .slotWidthOverflow
  let maximumSlot := slotCount - 1
  return if maximumSlot ≤ 0xff then 1
    else if maximumSlot ≤ 0xffff then 2
    else if maximumSlot ≤ 0xffffff then 3
    else 4

def encodeSlot (slot width : ℕ) : List UInt8 :=
  (toBigEndian 4 slot).toList.drop (4 - width)

structure ScheduleEncodingInputsV1 where
  component : UInt8
  circuitDigest : Bytes 32
  inputCount : ℕ
  outputCount : ℕ
  slotCount : ℕ
  slotWidth : ℕ
  gates : List ScheduledGateV1
  outputSlots : List ℕ

/-- The sizes are computed with 64 bits. -/
def encodeSchedule (inputs : ScheduleEncodingInputsV1) :
    Except ScheduleBuildErrorV1 (List UInt8) := do
  ensure (inputs.gates.length < 2 ^ 32) .countOverflow
  let recordWidth := 1 + inputs.slotWidth * 3
  ensure (inputs.gates.length * recordWidth < 2 ^ 64) .countOverflow
  ensure (inputs.outputSlots.length * inputs.slotWidth < 2 ^ 64) .countOverflow
  ensure (58 + inputs.gates.length * recordWidth +
    inputs.outputSlots.length * inputs.slotWidth < 2 ^ 64) .countOverflow
  return [0x45, 0x59, 0x41, 0x4f, 0x53, 0x43, 0x30, 0x31] ++ -- EYAOSC01
    [inputs.component, UInt8.ofNat inputs.slotWidth] ++ inputs.circuitDigest.toList ++
    (toBigEndian 4 inputs.inputCount).toList ++ (toBigEndian 4 inputs.gates.length).toList ++
    (toBigEndian 4 inputs.outputCount).toList ++ (toBigEndian 4 inputs.slotCount).toList ++
    inputs.gates.flatMap (fun gate => [gate.kind.opcode] ++
      encodeSlot gate.leftSlot inputs.slotWidth ++ encodeSlot gate.rightSlot inputs.slotWidth ++
      encodeSlot gate.outputSlot inputs.slotWidth) ++
    inputs.outputSlots.flatMap fun slot => encodeSlot slot inputs.slotWidth

/-! ## Schedules -/

def scheduleGates (inputCount : ℕ) (lastUses : ℕ → Option ℕ) (gates : List Gate) :
    Except ScheduleBuildErrorV1 SlotState :=
  gates.zipIdx.foldlM (scheduleGate inputCount lastUses) (initialSlots inputCount lastUses)

def finishSchedule (sha256 : List UInt8 → Bytes 32) (circuit : CanonicalBooleanCircuitV1)
    (state : SlotState) : Except ScheduleBuildErrorV1 CanonicalLivenessScheduleV1 := do
  let outputSlots ← circuit.outputs.mapM fun output =>
    okOr (state.wireSlots output) .missingOutputSlot
  let slotWidth ← encodedSlotWidth state.nextSlot
  let canonicalEncoding ← encodeSchedule
    { component := circuit.component
      circuitDigest := circuit.digest
      inputCount := circuit.inputCount
      outputCount := circuit.outputs.length
      slotCount := state.nextSlot
      slotWidth
      gates := state.scheduledGates
      outputSlots }
  ensure (1 + slotWidth * 3 < 2 ^ 8) .countOverflow
  ensure (canonicalEncoding.length < 2 ^ 64) .countOverflow
  return {
    inputCount := circuit.inputCount
    gates := state.scheduledGates
    outputSlots
    metrics :=
      { inputWireCount := circuit.inputCount
        outputWireCount := circuit.outputs.length
        scheduledGateCount := circuit.gates.length
        reusableSlotCount := state.nextSlot
        slotWidthBytes := slotWidth
        gateRecordWidthBytes := 1 + slotWidth * 3
        encodedScheduleBytes := canonicalEncoding.length }
    canonicalEncoding
    digest := sha256 canonicalEncoding }

def deriveSchedule (sha256 : List UInt8 → Bytes 32) (circuit : CanonicalBooleanCircuitV1) :
    Except ScheduleBuildErrorV1 CanonicalLivenessScheduleV1 := do
  ensure (circuit.gates.length < 2 ^ 32) .countOverflow
  ensure (circuit.outputs.length < 2 ^ 32) .countOverflow
  ensure (circuit.inputCount + circuit.gates.length < 2 ^ 32) .countOverflow
  let lastUses := deriveLastUses circuit.gates circuit.outputs
  let state ← scheduleGates circuit.inputCount lastUses circuit.gates
  finishSchedule sha256 circuit state

end SeamsWallet.Circuit
