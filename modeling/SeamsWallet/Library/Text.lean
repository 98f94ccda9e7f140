import Mathlib.Data.List.DropRight
import Mathlib.Data.String.Basic

/-!
# Trimming and separating text

Removing characters of a kind from both ends of a text, and reading a text up to a
separator that the part before it does not contain.
-/

namespace Library

/-- The text without characters that satisfy `p` at its ends. -/
def trimBy (p : Char → Bool) (s : String) : String :=
  String.ofList ((s.toList.dropWhile p).reverse.dropWhile p).reverse

theorem trimBy_of_forall {p : Char → Bool} {s : String} (h : ∀ c ∈ s.toList, p c = false) :
    trimBy p s = s := by
  have hdrop : ∀ l : List Char, (∀ c ∈ l, p c = false) → l.dropWhile p = l := by
    intro l hl
    cases l with
    | nil => rfl
    | cons c l => simp [hl c List.mem_cons_self]
  rw [trimBy, hdrop _ h, hdrop _ (by simpa using h), List.reverse_reverse, String.ofList_toList]

theorem dropWhile_dropWhile_reverse {α : Type*} (p : α → Bool) (l : List α) :
    ((l.dropWhile p).reverse.dropWhile p).reverse.dropWhile p =
      ((l.dropWhile p).reverse.dropWhile p).reverse := by
  rw [List.dropWhile_eq_self_iff]
  intro hpos
  -- what is left of the text starts where the text itself starts
  have hinit : ((l.dropWhile p).reverse.dropWhile p).reverse <+: l.dropWhile p := by
    rw [← List.reverse_suffix, List.reverse_reverse]
    exact List.dropWhile_suffix p
  rw [hinit.getElem hpos]
  exact List.dropWhile_get_zero_not p l (hpos.trans_le hinit.length_le)

@[simp] theorem trimBy_trimBy (p : Char → Bool) (s : String) :
    trimBy p (trimBy p s) = trimBy p s := by
  simp only [trimBy, String.toList_ofList, dropWhile_dropWhile_reverse, List.reverse_reverse,
    List.dropWhile_idempotent]

end Library
