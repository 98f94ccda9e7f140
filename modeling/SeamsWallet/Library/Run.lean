import Mathlib.Data.List.Induction

/-!
# Runs of a labelled transition system

A step relates a state, an event and the next state; the event says what was
asked and what was answered. `Run step start log s` says that the events of
`log`, in order, lead from `start` to `s`. Runs grow at the end, so an
invariant of the log and the state is proved by one step lemma; a run that
passes through an event splits there.
-/

namespace Library

/-- The events of the list lead from the start state to the final one. -/
inductive Run {S E : Type*} (step : S → E → S → Prop) (start : S) :
    List E → S → Prop
  | nil : Run step start [] start
  | snoc {log : List E} {s : S} {e : E} {s' : S} :
      Run step start log s → step s e s' → Run step start (log ++ [e]) s'

variable {S E : Type*} {step : S → E → S → Prop} {start s : S} {log : List E}

namespace Run

/-- An invariant of the history and the state, kept by every step from a state
that is itself reached by a run, holds along every run. -/
theorem invariant (P : List E → S → Prop) (hstart : P [] start)
    (hstep : ∀ log s e s', Run step start log s → P log s → step s e s' → P (log ++ [e]) s')
    (h : Run step start log s) : P log s := by
  induction h with
  | nil => exact hstart
  | snoc hrun he ih => exact hstep _ _ _ _ hrun ih he

theorem cons {e : E} {s' : S} (he : step s e s') {t : S} (h : Run step s' log t) :
    Run step s (e :: log) t := by
  induction h with
  | nil => exact snoc nil he
  | snoc _ hlast ih => exact ih.snoc hlast

theorem append (h : Run step start log s) {log' : List E} {t : S} (h' : Run step s log' t) :
    Run step start (log ++ log') t := by
  induction h' with
  | nil => rwa [List.append_nil]
  | snoc _ hlast ih =>
    rw [← List.append_assoc]
    exact ih.snoc hlast

theorem snoc_iff {e : E} {s' : S} :
    Run step start (log ++ [e]) s' ↔ ∃ s, Run step start log s ∧ step s e s' := by
  constructor
  · intro h
    generalize hlog : log ++ [e] = log' at h
    cases h with
    | nil => simp at hlog
    | snoc hrun he =>
      obtain ⟨rfl, hlast⟩ := List.append_inj' hlog rfl
      obtain rfl := List.singleton_inj.mp hlast
      exact ⟨_, hrun, he⟩
  · rintro ⟨s, hrun, he⟩
    exact hrun.snoc he

/-- A run that passes through an event consists of a run up to it, the step
that made it, and a run from there. -/
theorem split {before : List E} {e : E} {after : List E}
    (h : Run step start (before ++ e :: after) s) :
    ∃ t t', Run step start before t ∧ step t e t' ∧ Run step t' after s := by
  induction after using List.reverseRecOn generalizing s with
  | nil =>
    obtain ⟨t, hrun, he⟩ := snoc_iff.mp h
    exact ⟨t, s, hrun, he, nil⟩
  | append_singleton after last ih =>
    rw [← List.cons_append, ← List.append_assoc] at h
    obtain ⟨u, hrun, hlast⟩ := snoc_iff.mp h
    obtain ⟨t, t', hbefore, he, hafter⟩ := ih hrun
    exact ⟨t, t', hbefore, he, hafter.snoc hlast⟩

/-- The events a function accepts one after another, each in a state where it is
allowed, make a run. -/
theorem of_foldlM {next : S → E → Option S} {allowed : S → E → Prop}
    [∀ s e, Decidable (allowed s e)] {events : List E}
    (h : events.foldlM (fun s e => if allowed s e then next s e else none) start = some s) :
    Run (fun s e s' => next s e = some s' ∧ allowed s e) start events s := by
  induction events generalizing start with
  | nil =>
    obtain rfl := Option.some.inj h
    exact nil
  | cons e events ih =>
    rw [List.foldlM_cons, Option.bind_eq_bind, Option.bind_eq_some_iff] at h
    obtain ⟨t, hstep, hrest⟩ := h
    split at hstep
    · rename_i hallowed
      exact cons ⟨hstep, hallowed⟩ (ih hrest)
    · cases hstep

/-- A run of steps that are also steps of another system is a run of that system. -/
theorem mono {step' : S → E → S → Prop} (h : ∀ s e s', step s e s' → step' s e s')
    (hrun : Run step start log s) : Run step' start log s := by
  induction hrun with
  | nil => exact nil
  | snoc _ he ih => exact ih.snoc (h _ _ _ he)

end Run

/-! ## Runs of a function -/

/-- The calls with their answers, one after another from the given state. -/
def answers {C A : Type*} (handle : S → C → A × S) (s : S) : List C → List (C × A)
  | [] => []
  | call :: calls => (call, (handle s call).1) :: answers handle (handle s call).2 calls

def stateAfter {C A : Type*} (handle : S → C → A × S) (s : S) (calls : List C) : S :=
  calls.foldl (fun s call => (handle s call).2) s

/-- The steps of a function that answers a call and moves to a new state. -/
def Answers {C A : Type*} (handle : S → C → A × S) (s : S) (event : C × A) (s' : S) : Prop :=
  handle s event.1 = (event.2, s')

variable {C A : Type*} (handle : S → C → A × S)

theorem run_answers (calls : List C) (s : S) :
    Run (Answers handle) s (answers handle s calls) (stateAfter handle s calls) := by
  induction calls generalizing s with
  | nil => exact .nil
  | cons call calls ih => exact .cons rfl (ih _)

theorem stateAfter_snoc (s : S) (calls : List C) (call : C) :
    stateAfter handle s (calls ++ [call]) = (handle (stateAfter handle s calls) call).2 := by
  simp [stateAfter]

theorem stateAfter_append (s : S) (before after : List C) :
    stateAfter handle s (before ++ after) =
      stateAfter handle (stateAfter handle s before) after := by
  simp [stateAfter]

/-- What holds of all answers holds of the answer that a call gets in the state that the
calls before it lead to. -/
theorem answer_of_answers {handle : S → C → A × S} {before : List C} {call : C} (after : List C)
    {p : A → Prop}
    (h : ∀ event ∈ answers handle s (before ++ call :: after), p event.2) :
    p (handle (stateAfter handle s before) call).1 := by
  induction before generalizing s with
  | nil => exact h _ List.mem_cons_self
  | cons first before ih => exact ih fun event hmem => h event (List.mem_cons_of_mem _ hmem)

/-! ## Transactions -/

/-- Runs a call in a transaction: an error leaves the state as it was. -/
def transact {α ε : Type*} (s : S) (result : Except ε (α × S)) : Except ε α × S :=
  match result with
  | .ok (answer, s') => (.ok answer, s')
  | .error error => (.error error, s)

variable {α ε : Type*}

theorem transact_eq_ok {s' : S} {result : Except ε (α × S)} {answer : α}
    (h : transact s result = (.ok answer, s')) : result = .ok (answer, s') := by
  cases result with
  | error error => cases h
  | ok pair =>
    cases h
    rfl

theorem exists_of_transact_fst {result : Except ε (α × S)} {answer : α}
    (h : (transact s result).1 = .ok answer) :
    ∃ s', result = .ok (answer, s') :=
  ⟨(transact s result).2, transact_eq_ok (Prod.ext h rfl)⟩

/-- What the state has, and a successful end keeps, holds after the transaction. -/
theorem transact_keeps {result : Except ε (α × S)} (P : S → Prop) (hstart : P s)
    (h : ∀ answer s', result = .ok (answer, s') → P s') :
    P (transact s result).2 := by
  cases result with
  | error error => exact hstart
  | ok pair => exact h pair.1 pair.2 rfl

end Library
