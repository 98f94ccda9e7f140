import SeamsWallet.Library.BigEndian
import SeamsWallet.Library.Except

/-!
# Readers of byte strings

A reader takes values from the front of a byte string and leaves the rest. The lemmas turn
a successful read into an equation for the byte string, in both directions: what was read
stands in front of what is left. So a sequence of reads succeeds exactly on the
concatenations of what its parts read.
-/

namespace Library

/-- A computation that reads from the front of a byte string. -/
abbrev Reader (ε : Type) : Type → Type := StateT (List UInt8) (Except ε)

namespace Reader

variable {ε α β : Type}

/-- The next `width` bytes; fails if fewer are left. -/
def take (width : ℕ) (e : ε) : Reader ε (Bytes width) := fun bytes => do
  let taken ← okOr (Bytes.ofList? width (bytes.take width)) e
  return (taken, bytes.drop width)

def lift (x : Except ε α) : Reader ε α := StateT.lift x

def many (m : Reader ε α) : (count : ℕ) → Reader ε (List.Vector α count)
  | 0 => return List.Vector.nil
  | count + 1 => do
    let first ← m
    let others ← many m count
    return first ::ᵥ others

variable {bytes rest : List UInt8}

theorem run_bind_eq_ok {m : Reader ε α} {f : α → Reader ε β} {b : β} :
    (m >>= f).run bytes = .ok (b, rest) ↔
      ∃ a middle, m.run bytes = .ok (a, middle) ∧ (f a).run middle = .ok (b, rest) := by
  rw [StateT.run_bind, bind_eq_ok]
  constructor
  · rintro ⟨⟨a, middle⟩, hm, hf⟩
    exact ⟨a, middle, hm, hf⟩
  · rintro ⟨a, middle, hm, hf⟩
    exact ⟨(a, middle), hm, hf⟩

theorem run_pure_eq_ok {a b : α} :
    (pure a : Reader ε α).run bytes = .ok (b, rest) ↔ a = b ∧ bytes = rest := by
  rw [StateT.run_pure, pure_eq_ok, Prod.mk.injEq]

theorem run_lift_eq_ok {x : Except ε α} {a : α} :
    (lift x).run bytes = .ok (a, rest) ↔ x = .ok a ∧ bytes = rest := by
  cases x with
  | error e | ok value => simp [lift, StateT.run_lift]

theorem run_take_eq_ok {width : ℕ} {e : ε} {taken : Bytes width} :
    (take width e).run bytes = .ok (taken, rest) ↔ bytes = taken.toList ++ rest := by
  have hrun : (take width e).run bytes =
      (okOr (Bytes.ofList? width (bytes.take width)) e >>= fun taken =>
        pure (taken, bytes.drop width)) := rfl
  rw [hrun]
  simp only [ok_iff, Prod.mk.injEq]
  constructor
  · rintro ⟨_, hsome, rfl, rfl⟩
    rw [Bytes.ofList?_eq_some hsome, List.take_append_drop]
  · rintro rfl
    have hlength := taken.toList_length
    refine ⟨taken, ?_, rfl, List.drop_left' hlength⟩
    rw [List.take_left' hlength, Bytes.ofList?_toList]

/-- If each value is read from its own bytes, a vector is read from the bytes of its values
one after another. -/
theorem run_many_eq_ok {m : Reader ε α} {write : α → List UInt8}
    (hm : ∀ bytes a rest, m.run bytes = .ok (a, rest) ↔ bytes = write a ++ rest) {count : ℕ}
    {values : List.Vector α count} :
    (many m count).run bytes = .ok (values, rest) ↔
      bytes = values.toList.flatMap write ++ rest := by
  induction count generalizing bytes rest with
  | zero =>
    rw [List.Vector.eq_nil values, many, run_pure_eq_ok]
    simp
  | succ count ih =>
    simp only [many, run_bind_eq_ok, run_pure_eq_ok, hm, ih]
    constructor
    · rintro ⟨first, _, rfl, others, _, rfl, rfl, rfl⟩
      simp [List.append_assoc]
    · rintro rfl
      refine ⟨values.head, _, ?_, values.tail, rest, rfl, List.Vector.cons_head_tail values, rfl⟩
      rw [← List.append_assoc, ← List.flatMap_cons, ← List.Vector.toList_cons,
        List.Vector.cons_head_tail]

end Reader

end Library
