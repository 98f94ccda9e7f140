import Mathlib.Logic.Unique

/-!
# Fallible computations

Small vocabulary for functions that return a value or an error: `ensure`
guards the rest of a computation by a decidable condition, `okOr` turns an
absent value into an error. The lemmas invert a successful computation into
the facts that made it succeed.
-/

namespace Library

universe u

variable {ε α : Type*} {x : Except ε α}

def ensure (c : Prop) [Decidable c] (e : ε) : Except ε Unit :=
  if c then .ok () else .error e

def okOr (o : Option α) (e : ε) : Except ε α :=
  o.elim (.error e) .ok

variable {c : Prop}

@[simp] theorem ensure_eq_ok [Decidable c] {e : ε} {u : Unit} : ensure c e = .ok u ↔ c := by
  by_cases hc : c <;> simp [ensure, hc]

variable {a : α}

@[simp] theorem okOr_eq_ok {o : Option α} {e : ε} : okOr o e = .ok a ↔ o = some a := by
  cases o <;> simp [okOr]

@[simp] theorem okOr_some (a : α) (e : ε) : okOr (some a) e = .ok a := rfl

@[simp] theorem ok_bind {α β : Type u} (a : α) (f : α → Except ε β) :
    (Except.ok a >>= f) = f a := rfl

theorem ensure_of [Decidable c] (hc : c) (e : ε) : ensure c e = .ok () := if_pos hc

theorem ensure_of_not [Decidable c] (hc : ¬ c) (e : ε) :
    ensure c e = .error e := if_neg hc

/-- A composed computation succeeds exactly when both of its parts do. -/
theorem bind_eq_ok {α β : Type u} {x : Except ε α} {f : α → Except ε β} {b : β} :
    (x >>= f) = .ok b ↔ ∃ a, x = .ok a ∧ f a = .ok b := by
  cases x with
  | error e | ok a => simp [bind, Except.bind]

@[simp] theorem pure_eq_ok {b : α} : (pure a : Except ε α) = .ok b ↔ a = b := by
  simp [pure, Except.pure]

/-- A loop of checks succeeds exactly when every check does. -/
theorem forM_eq_ok {f : α → Except ε PUnit} {l : List α} :
    l.forM f = .ok ⟨⟩ ↔ ∀ a ∈ l, f a = .ok ⟨⟩ := by
  induction l with
  | nil => exact ⟨fun _ _ h => absurd h List.not_mem_nil, fun _ => rfl⟩
  | cons a l ih =>
    have hcons : (a :: l).forM f = (f a >>= fun _ => l.forM f) := rfl
    rw [hcons, bind_eq_ok, List.forall_mem_cons, ← ih]
    constructor
    · rintro ⟨⟨⟩, ha, hl⟩
      exact ⟨ha, hl⟩
    · rintro ⟨ha, hl⟩
      exact ⟨⟨⟩, ha, hl⟩

/-- A loop whose every step succeeds collects the results. -/
theorem mapM_eq_ok_map {α β : Type u} {f : α → Except ε β} {g : α → β} {l : List α}
    (h : ∀ a ∈ l, f a = .ok (g a)) : l.mapM f = .ok (l.map g) := by
  induction l with
  | nil => rfl
  | cons a l ih =>
    rw [List.mapM_cons, h a List.mem_cons_self, ok_bind,
      ih fun b hb => h b (List.mem_cons_of_mem a hb), ok_bind]
    rfl

theorem exists_ok_of_isOk (h : x.isOk) : ∃ a, x = .ok a := by
  cases x with
  | error e => cases h
  | ok a => exact ⟨a, rfl⟩

/-- Renaming the error of a computation does not change its success. -/
@[simp] theorem mapError_eq_ok {ε' : Type*} {f : ε → ε'} : x.mapError f = .ok a ↔ x = .ok a := by
  cases x
  · constructor <;> rintro ⟨⟩
  · constructor <;> rintro ⟨⟩ <;> rfl

/-- When a sequence of steps succeeds, as one set of rewriting rules. -/
theorem ok_iff : (∀ {ε α β : Type} {x : Except ε α} {f : α → Except ε β} {b},
      (x >>= f) = .ok b ↔ ∃ a, x = .ok a ∧ f a = .ok b) ∧
    (∀ {p : Unit → Prop}, (∃ u, p u) ↔ p ()) ∧
    (∀ {ε : Type} {c : Prop} [Decidable c] {e : ε} {u}, ensure c e = .ok u ↔ c) ∧
    (∀ {ε α : Type} {o : Option α} {e : ε} {a}, okOr o e = .ok a ↔ o = some a) ∧
    (∀ {ε α : Type} {a b : α}, (pure a : Except ε α) = .ok b ↔ a = b) ∧
    (∀ {ε ε' α : Type} {x : Except ε α} {f : ε → ε'} {a}, x.mapError f = .ok a ↔ x = .ok a) :=
  ⟨bind_eq_ok, Unique.exists_iff, ensure_eq_ok, okOr_eq_ok, pure_eq_ok, mapError_eq_ok⟩

@[simp] theorem mapError_ok {ε' : Type*} {f : ε → ε'} :
    (Except.ok a).mapError f = .ok a := rfl

end Library
