import SeamsWallet.Library.BigEndian
import SeamsWallet.Library.Except

/-!
# Boolean circuits

A circuit has input wires and a list of gates; the output of gate `k` is wire
`inputCount + k`, and every gate reads wires that come before its own. The outputs are
some of the wires. Wire ids and counts have 32 bits in the code; here they are natural numbers
below the same bounds.
-/

namespace SeamsWallet.Circuit

open Library

inductive Gate where
  | xor (left right : ℕ)
  | and (left right : ℕ)
  | inv (input : ℕ)

def Gate.opcode : Gate → UInt8
  | xor _ _ => 1
  | and _ _ => 2
  | inv _ => 3

def Gate.operands : Gate → ℕ × ℕ
  | xor left right | and left right => (left, right)
  | inv input => (input, input)

inductive CircuitBuildError where
  | emptyInputs
  | emptyGates
  | emptyOutputs
  | inputSchemaWireCountMismatch
  | outputSchemaWireCountMismatch
  | constantOutput
  | duplicateOutput
  | countOverflow
  | forwardReference

inductive CircuitEvalError where
  | inputCountMismatch (expected actual : ℕ)

/-! ## Topology -/

/-- Every gate reads wires before its own, and every output is a wire. -/
def validateTopology (inputCount : ℕ) (gates : List Gate) (outputs : List ℕ)
    (wireCount : ℕ) : Except CircuitBuildError Unit := do
  gates.zipIdx.forM fun (gate, gateIndex) => do
    ensure (gateIndex < 2 ^ 32) .countOverflow
    ensure (inputCount + gateIndex < 2 ^ 32) .countOverflow
    ensure (gate.operands.1 < inputCount + gateIndex ∧ gate.operands.2 < inputCount + gateIndex)
      .forwardReference
  ensure (∀ output ∈ outputs, output < wireCount) .forwardReference

theorem validateTopology_eq_ok {inputCount : ℕ} {gates : List Gate} {outputs : List ℕ}
    {wireCount : ℕ} (h : validateTopology inputCount gates outputs wireCount = .ok ()) :
    (∀ k gate, gates[k]? = some gate →
      gate.operands.1 < inputCount + k ∧ gate.operands.2 < inputCount + k) ∧
    ∀ output ∈ outputs, output < wireCount := by
  simp only [validateTopology, ok_iff, forM_eq_ok] at h
  refine ⟨fun k gate hgate => ?_, h.2⟩
  exact (h.1 (gate, k) (List.mk_mem_zipIdx_iff_getElem?.mpr hgate)).2.2

/-! ## Circuits -/

/-- A circuit that passed the checks of its construction. The metrics of the code, counts
and depths of its gates, are left out. -/
structure CanonicalBooleanCircuitV1 where
  component : UInt8
  inputCount : ℕ
  gates : List Gate
  outputs : List ℕ
  canonicalEncoding : List UInt8
  digest : Bytes 32
  inputCount_pos : 0 < inputCount
  outputCount_lt : outputs.length < 2 ^ 32
  wireCount_lt : inputCount + gates.length < 2 ^ 32
  topology : validateTopology inputCount gates outputs (inputCount + gates.length) = .ok ()

/-- The value of a gate's output, given the wires before it. The topology keeps every
index in range. -/
def Gate.value (wires : List Bool) : Gate → Bool
  | xor left right => (wires.getD left false) ^^ (wires.getD right false)
  | and left right => (wires.getD left false) && (wires.getD right false)
  | inv input => !(wires.getD input false)

def evaluateGates (gates : List Gate) (inputs : List Bool) : List Bool :=
  gates.foldl (fun wires gate => wires ++ [gate.value wires]) inputs

namespace CanonicalBooleanCircuitV1

variable (circuit : CanonicalBooleanCircuitV1)

def evaluate (inputs : List Bool) : Except CircuitEvalError (List Bool) := do
  ensure (inputs.length = circuit.inputCount) (.inputCountMismatch circuit.inputCount inputs.length)
  let wires := evaluateGates circuit.gates inputs
  return circuit.outputs.map fun output => wires.getD output false

theorem output_lt {output : ℕ} (h : output ∈ circuit.outputs) :
    output < circuit.inputCount + circuit.gates.length :=
  (validateTopology_eq_ok circuit.topology).2 output h

end CanonicalBooleanCircuitV1

/-! ## Evaluation -/

@[simp] theorem length_evaluateGates (gates : List Gate) (inputs : List Bool) :
    (evaluateGates gates inputs).length = inputs.length + gates.length := by
  induction gates generalizing inputs with
  | nil => rfl
  | cons gate gates ih =>
    have hcons : evaluateGates (gate :: gates) inputs =
        evaluateGates gates (inputs ++ [gate.value inputs]) := rfl
    rw [hcons, ih, List.length_append, List.length_singleton, List.length_cons]
    omega

end SeamsWallet.Circuit
