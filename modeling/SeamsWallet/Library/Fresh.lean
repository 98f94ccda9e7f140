import Mathlib.Data.List.Perm.Subperm
import Mathlib.Order.Bounds.Basic
import Mathlib.Order.Nat

/-!
# The first numbers that are free

`firstFree taken n` is the least number from `n` on that is not in a list, and
`freshFrom taken count n` are the first `count` such numbers. The search for one
number stops after as many steps as the list is long: it meets another member of
the list in each step, so it cannot fail.
-/

namespace Library

/-- Searches from a number on, for at most so many steps. -/
def searchFree (taken : List ℕ) : ℕ → ℕ → ℕ
  | 0, n => n
  | fuel + 1, n => if n ∈ taken then searchFree taken fuel (n + 1) else n

variable (taken : List ℕ)

def firstFree (n : ℕ) : ℕ := searchFree taken taken.length n

def freshFrom (taken : List ℕ) : ℕ → ℕ → List ℕ
  | 0, _ => []
  | count + 1, n => firstFree taken n :: freshFrom taken count (firstFree taken n + 1)

theorem le_searchFree (fuel n : ℕ) : n ≤ searchFree taken fuel n := by
  induction fuel generalizing n with
  | zero => exact le_rfl
  | succ fuel ih =>
    rw [searchFree]
    split
    · exact (Nat.le_succ n).trans (ih (n + 1))
    · exact le_rfl

variable {n : ℕ}

/-- A search that ends in the list has met only members of it. -/
theorem mem_of_searchFree_mem {taken : List ℕ} {fuel : ℕ}
    (h : searchFree taken fuel n ∈ taken) : ∀ k ≤ fuel, n + k ∈ taken := by
  induction fuel generalizing n with
  | zero =>
    intro k hk
    rw [Nat.le_zero.mp hk]
    exact h
  | succ fuel ih =>
    rw [searchFree] at h
    split at h
    · rename_i hn
      intro k hk
      cases k with
      | zero => exact hn
      | succ k =>
        have hstep := ih h k (Nat.le_of_succ_le_succ hk)
        rwa [Nat.add_assoc, Nat.add_comm 1 k] at hstep
    · rename_i hn
      exact absurd h hn

/-- As many steps as the list is long are enough to leave it. -/
theorem searchFree_notMem {taken : List ℕ} {fuel : ℕ} (hfuel : taken.length ≤ fuel) (n : ℕ) :
    searchFree taken fuel n ∉ taken := by
  intro hmem
  -- One more number than the list has members would be in it.
  have hsub : (List.range' n (taken.length + 1)) ⊆ taken := by
    intro m hm
    obtain ⟨hle, hlt⟩ := List.mem_range'_1.mp hm
    have hk := mem_of_searchFree_mem hmem (m - n) (by omega)
    rwa [Nat.add_sub_cancel' hle] at hk
  have hnodup : (List.range' n (taken.length + 1)).Nodup := List.nodup_range'
  have hlength := (List.Nodup.subperm hnodup hsub).length_le
  rw [List.length_range'] at hlength
  omega

theorem firstFree_notMem (n : ℕ) : firstFree taken n ∉ taken :=
  searchFree_notMem le_rfl n

theorem mem_freshFrom {taken : List ℕ} {count m : ℕ}
    (h : m ∈ freshFrom taken count n) : n ≤ m ∧ m ∉ taken := by
  induction count generalizing n with
  | zero => exact absurd h List.not_mem_nil
  | succ count ih =>
    have hfirst : n ≤ firstFree taken n := le_searchFree taken taken.length n
    rcases List.mem_cons.mp h with rfl | hrest
    · exact ⟨hfirst, firstFree_notMem taken n⟩
    · obtain ⟨hle, hfree⟩ := ih hrest
      exact ⟨hfirst.trans ((Nat.le_succ _).trans hle), hfree⟩

theorem nodup_freshFrom (count n : ℕ) : (freshFrom taken count n).Nodup := by
  induction count generalizing n with
  | zero => exact List.nodup_nil
  | succ count ih =>
    rw [freshFrom, List.nodup_cons]
    refine ⟨?_, ih _⟩
    intro hmem
    exact absurd (mem_freshFrom hmem).1 (Nat.not_succ_le_self _)

/-! ## Ranges -/

theorem firstFree_of_lt (h : ∀ m ∈ taken, m < n) : firstFree taken n = n := by
  have hn : n ∉ taken := fun hmem => lt_irrefl n (h n hmem)
  unfold firstFree
  cases taken.length with
  | zero => rfl
  | succ fuel => rw [searchFree, if_neg hn]

theorem lt_firstFree (h : ∀ m ∈ taken, m ≤ n) : ∀ m ∈ taken, m < firstFree taken n := by
  intro m hm
  refine lt_of_le_of_ne ((h m hm).trans (le_searchFree taken _ n)) ?_
  rintro rfl
  exact firstFree_notMem taken n hm

/-- Above the list, the free numbers follow each other. -/
theorem freshFrom_eq_range' (h : ∀ m ∈ taken, m ≤ n) (count : ℕ) :
    freshFrom taken count n = List.range' (firstFree taken n) count := by
  induction count generalizing n with
  | zero => rfl
  | succ count ih =>
    have hlt := lt_firstFree taken h
    have hnext := firstFree_of_lt taken fun m hm => (hlt m hm).trans (Nat.lt_succ_self _)
    rw [freshFrom, ih fun m hm => ((hlt m hm).trans (Nat.lt_succ_self _)).le, hnext,
      List.range'_succ]

end Library
