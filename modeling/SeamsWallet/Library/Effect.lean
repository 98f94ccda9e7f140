import Mathlib.Order.Defs.Unbundled

/-!
# Stateful computations that may fail

`Effect ε σ α` is a computation that reads and changes a state and then returns a
value or fails. A failure does not undo what was done before it, as with an
exception thrown in the middle of a function.

Two ways to reason about a computation are set up here, each with one rule per
construct. `Meets P m Q E` is a triple: from a state with `P`, the computation
ends in `Q` if it returns and in `E` if it fails. `Within R m` says that the
state after the computation, however it ends, is related to the state before;
it composes for a preorder `R`.
-/

namespace Library

def Effect (ε σ α : Type) : Type := σ → Except ε α × σ

namespace Effect

variable {ε σ α β : Type}

instance : Monad (Effect ε σ) where
  pure a := fun s => (.ok a, s)
  bind m f := fun s =>
    match m s with
    | (.ok a, s') => f a s'
    | (.error e, s') => (.error e, s')

/-- The current state. -/
def read : Effect ε σ σ := fun s => (.ok s, s)

def update (f : σ → σ) : Effect ε σ Unit := fun s => (.ok (), f s)

def fail (e : ε) : Effect ε σ α := fun s => (.error e, s)

/-- Runs a computation and keeps its effects, but not its failure. -/
def attempt (m : Effect ε σ α) : Effect ε σ (Option α) := fun s =>
  match m s with
  | (.ok a, s') => (.ok (some a), s')
  | (.error _, s') => (.ok none, s')

theorem bind_apply (m : Effect ε σ α) (f : α → Effect ε σ β) (s : σ) : (m >>= f) s = match m s with
      | (.ok a, s') => f a s'
      | (.error e, s') => (.error e, s') := rfl

/-! ## Triples -/

/-- A structure rather than a plain statement, so that it is not taken apart when a
rule is applied. -/
structure Meets (P : σ → Prop) (m : Effect ε σ α) (Q : α → σ → Prop) (E : σ → Prop) :
    Prop where
  run : ∀ s, P s → match m s with
    | (.ok a, s') => Q a s'
    | (.error _, s') => E s'

namespace Meets

variable {P P' : σ → Prop} {Q Q' : α → σ → Prop} {E E' : σ → Prop} {m : Effect ε σ α}

protected theorem pure {a : α} (h : ∀ s, P s → Q a s) : Meets P (pure a : Effect ε σ α) Q E :=
  ⟨h⟩

variable {f : β → Effect ε σ α}

protected theorem bind {R : β → σ → Prop} {n : Effect ε σ β}
    (hn : Meets P n R E) (hf : ∀ b, Meets (R b) (f b) Q E) : Meets P (n >>= f) Q E := by
  constructor
  intro s hs
  have h := hn.run s hs
  rw [bind_apply]
  match hrun : n s with
  | (.ok b, s') =>
    rw [hrun] at h
    exact (hf b).run s' h
  | (.error e, s') =>
    rw [hrun] at h
    exact h

theorem read : Meets P (read : Effect ε σ σ) (fun a s => a = s ∧ P s) E :=
  ⟨fun _ hs => ⟨rfl, hs⟩⟩

theorem update {f : σ → σ} {R : Unit → σ → Prop} (h : ∀ s, P s → R () (f s)) :
    Meets P (update f : Effect ε σ Unit) R E :=
  ⟨h⟩

theorem fail {e : ε} (h : ∀ s, P s → E s) : Meets P (fail e : Effect ε σ α) Q E :=
  ⟨h⟩

variable (h : Meets P m Q E)
include h

/-- The rule of consequence. -/
theorem mono (hP : ∀ s, P' s → P s) (hQ : ∀ a s, Q a s → Q' a s)
    (hE : ∀ s, E s → E' s) : Meets P' m Q' E' := by
  constructor
  intro s hs
  have hrun := h.run s (hP s hs)
  match hm : m s with
  | (.ok a, s') =>
    rw [hm] at hrun
    exact hQ a s' hrun
  | (.error e, s') =>
    rw [hm] at hrun
    exact hE s' hrun

theorem pre (hP : ∀ s, P' s → P s) : Meets P' m Q E :=
  h.mono hP (fun _ _ hs => hs) fun _ hs => hs

theorem post (hQ : ∀ a s, Q a s → Q' a s) : Meets P m Q' E :=
  h.mono (fun _ hs => hs) hQ fun _ hs => hs

theorem failing (hE : ∀ s, E s → E' s) : Meets P m Q E' :=
  h.mono (fun _ hs => hs) (fun _ _ hs => hs) hE

omit h

/-- The state after the computation, however it ends. -/
theorem run_snd {R : σ → Prop} (h : Meets P m (fun _ => R) R) {s : σ} (hs : P s) : R (m s).2 := by
  have hrun := h.run s hs
  match hm : m s with
  | (.ok a, s') | (.error e, s') =>
    rw [hm] at hrun
    exact hrun

/-- A fact that does not depend on the state may be used for the whole computation. -/
theorem given {C : Prop} (h : C → Meets P m Q E) : Meets (fun s => P s ∧ C) m Q E :=
  ⟨fun s hs => (h hs.2).run s hs.1⟩

/-- A loop whose body keeps an invariant keeps it. -/
theorem mapM' {xs : List β} (hf : ∀ x ∈ xs, Meets P (f x) (fun _ => P) E) :
    Meets P (List.mapM' f xs) (fun _ => P) E := by
  induction xs with
  | nil => exact Meets.pure fun s hs => hs
  | cons x xs ih =>
    refine Meets.bind (hf x List.mem_cons_self) fun a => Meets.bind (ih ?_) fun as =>
      Meets.pure fun s hs => hs
    intro y hy
    exact hf y (List.mem_cons_of_mem x hy)

/-- A failure that is caught counts as a return. -/
theorem attempt {R : σ → Prop} (h : Meets P m (fun _ => R) R) :
    Meets P (attempt m) (fun _ => R) E := by
  constructor
  intro s hs
  have hrun := h.run s hs
  unfold Effect.attempt
  match hm : m s with
  | (.ok a, s') | (.error e, s') =>
    rw [hm] at hrun
    exact hrun

end Meets

/-! ## Related states -/

def Within (R : σ → σ → Prop) (m : Effect ε σ α) : Prop := ∀ s, R s (m s).2

namespace Within

variable {R : σ → σ → Prop} {m : Effect ε σ α}

theorem update {f : σ → σ} (h : ∀ s, R s (f s)) : Within R (update f : Effect ε σ Unit) := h

/-- What every related state keeps, the computation keeps. -/
theorem meets (h : Within R m) {P : σ → Prop} (hP : ∀ s s', R s s' → P s → P s') :
    Meets P m (fun _ => P) P := by
  constructor
  intro s hs
  have hrun := hP s _ (h s) hs
  match hm : m s with
  | (.ok a, s') | (.error e, s') =>
    rw [hm] at hrun
    exact hrun

protected theorem bind [IsTrans σ R] {n : Effect ε σ β} {f : β → Effect ε σ α}
    (hn : Within R n) (hf : ∀ b, Within R (f b)) : Within R (n >>= f) := by
  intro s
  have h := hn s
  rw [bind_apply]
  match hrun : n s with
  | (.ok b, s') =>
    rw [hrun] at h
    exact IsTrans.trans _ _ _ h (hf b s')
  | (.error e, s') =>
    rw [hrun] at h
    exact h

variable [Std.Refl R]

protected theorem pure (a : α) : Within R (pure a : Effect ε σ α) := fun s => Std.Refl.refl s

theorem read : Within R (read : Effect ε σ σ) := fun s => Std.Refl.refl s

theorem fail (e : ε) : Within R (fail e : Effect ε σ α) := fun s => Std.Refl.refl s

end Within

end Effect

end Library
