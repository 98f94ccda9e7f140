import Mathlib.Logic.Basic

/-!
# Programs that ask queries

A program ends with a value or an error, or asks the outside a query and goes on
with the answer. What happens outside between two queries is not the program's
business: several programs may be interleaved at their queries.
-/

namespace Library

/-- A computation over queries `Q` with answers `A q`. -/
inductive Program (Q : Type) (A : Q → Type) (ε α : Type) : Type
  | done (value : α)
  | fail (error : ε)
  | query (q : Q) (next : A q → Program Q A ε α)

namespace Program

variable {Q : Type} {A : Q → Type} {ε ε' α β : Type}

def bind : Program Q A ε α → (α → Program Q A ε β) → Program Q A ε β
  | done value, f => f value
  | fail error, _ => fail error
  | query q next, f => query q fun answer => (next answer).bind f

instance : Monad (Program Q A ε) where
  pure := done
  bind := bind

def ask (q : Q) : Program Q A ε (A q) := query q done

/-- Goes on with another program after an error. -/
def handle (f : ε → Program Q A ε' α) : Program Q A ε α → Program Q A ε' α
  | done value => done value
  | fail error => f error
  | query q next => query q fun answer => (next answer).handle f

def ensure (c : Prop) [Decidable c] (error : ε) : Program Q A ε Unit :=
  if c then done () else fail error

def ofExcept : Except ε α → Program Q A ε α
  | .ok value => done value
  | .error error => fail error

/-- How the program ended, if it has no query left. -/
def result? : Program Q A ε α → Option (Except ε α)
  | done value => some (.ok value)
  | fail error => some (.error error)
  | query _ _ => none

theorem bind_eq (p : Program Q A ε α) (f : α → Program Q A ε β) : p >>= f = p.bind f := rfl

theorem ensure_of {c : Prop} [Decidable c] (hc : c) (error : ε) :
    (ensure c error : Program Q A ε Unit) = done () := if_pos hc

theorem ensure_of_not {c : Prop} [Decidable c] (hc : ¬ c) (error : ε) :
    (ensure c error : Program Q A ε Unit) = fail error := if_neg hc

end Program

end Library
