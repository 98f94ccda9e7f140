import Mathlib.Data.List.Nodup

/-!
# Dictionaries in insertion order

A dictionary holds at most one value per key and remembers the order in which
the keys came in. Setting a present key replaces its value in place, setting a
new key appends it. Everything is described by `get?`, the value under a key.
-/

namespace Library

/-- Keys with their values, each key once. -/
structure Dict (K V : Type) where
  entries : List (K × V)
  nodup : (entries.map Prod.fst).Nodup

namespace Dict

variable {K V : Type}

def empty : Dict K V := ⟨[], List.nodup_nil⟩

variable (d : Dict K V)

def values : List V := d.entries.map Prod.snd

def keys : List K := d.entries.map Prod.fst

def filter (p : V → Bool) (d : Dict K V) : Dict K V :=
  ⟨d.entries.filter fun entry => p entry.2, d.nodup.sublist (List.filter_sublist.map Prod.fst)⟩

variable [DecidableEq K]

def get? (k : K) : Option V := d.entries.lookup k

def delete (k : K) : Dict K V :=
  ⟨d.entries.filter fun entry => entry.1 ≠ k, d.nodup.sublist (List.filter_sublist.map Prod.fst)⟩

/-- Replaces the value under a key, or appends the key. -/
def setEntries (k : K) (v : V) : List (K × V) → List (K × V)
  | [] => [(k, v)]
  | entry :: rest => if entry.1 = k then (k, v) :: rest else entry :: setEntries k v rest

variable {entries : List (K × V)} {v : V} {k : K}

theorem fst_setEntries : (setEntries k v entries).map Prod.fst =
    if k ∈ entries.map Prod.fst then entries.map Prod.fst else entries.map Prod.fst ++ [k] := by
  induction entries with
  | nil => simp [setEntries]
  | cons entry rest ih =>
    by_cases hk : entry.1 = k
    · simp [setEntries, hk]
    · rw [setEntries, if_neg hk, List.map_cons, ih]
      split_ifs <;> simp_all [eq_comm]

theorem nodup_setEntries (h : (entries.map Prod.fst).Nodup) :
    ((setEntries k v entries).map Prod.fst).Nodup := by
  rw [fst_setEntries]
  split_ifs with hk
  · exact h
  · refine List.nodup_append.mpr ⟨h, List.nodup_singleton k, fun k' hk' new hnew heq => hk ?_⟩
    rwa [← List.mem_singleton.mp hnew, ← heq]

def set (k : K) (v : V) : Dict K V :=
  ⟨setEntries k v d.entries, nodup_setEntries d.nodup⟩

theorem lookup_setEntries (k k' : K) (v : V) (entries : List (K × V)) :
    (setEntries k v entries).lookup k' = if k' = k then some v else entries.lookup k' := by
  induction entries with
  | nil => by_cases h : k' = k <;> simp [setEntries, h]
  | cons entry rest ih =>
    by_cases hentry : entry.1 = k
    · rw [setEntries, if_pos hentry, List.lookup_cons, List.lookup_cons]
      by_cases h : k' = k
      · simp [h]
      · have hne : (k' == k) = false := beq_false_of_ne h
        have hne' : (k' == entry.1) = false := beq_false_of_ne (hentry ▸ h)
        simp [h, hne, hne']
    · rw [setEntries, if_neg hentry, List.lookup_cons, List.lookup_cons, ih]
      by_cases h : k' = entry.1
      · simp [h, hentry]
      · have hne : (k' == entry.1) = false := beq_false_of_ne h
        simp [hne]

theorem get?_set (k k' : K) (v : V) : (d.set k v).get? k' = if k' = k then some v else d.get? k' :=
  lookup_setEntries k k' v d.entries

@[simp] theorem get?_set_self (k : K) (v : V) : (d.set k v).get? k = some v := by
  rw [get?_set, if_pos rfl]

theorem get?_set_of_ne {k' : K} (v : V) (h : k' ≠ k) : (d.set k v).get? k' = d.get? k' := by
  rw [get?_set, if_neg h]

theorem lookup_eq_some_iff (h : (entries.map Prod.fst).Nodup) :
    entries.lookup k = some v ↔ (k, v) ∈ entries := by
  rw [List.lookup_eq_some_iff]
  constructor
  · rintro ⟨before, after, rfl, -⟩
    exact List.mem_append_right before List.mem_cons_self
  · intro hmem
    obtain ⟨before, after, rfl⟩ := List.append_of_mem hmem
    rw [List.map_append, List.nodup_append] at h
    refine ⟨before, after, rfl, fun entry hentry => ?_⟩
    have hne := h.2.2 entry.1 (List.mem_map_of_mem hentry) k (by simp)
    simpa using hne.symm

variable {d : Dict K V}

theorem get?_eq_some_iff : d.get? k = some v ↔ (k, v) ∈ d.entries :=
  lookup_eq_some_iff d.nodup

theorem mem_values : v ∈ d.values ↔ ∃ k, d.get? k = some v := by
  constructor
  · intro h
    obtain ⟨entry, hentry, rfl⟩ := List.mem_map.mp h
    exact ⟨entry.1, get?_eq_some_iff.mpr hentry⟩
  · rintro ⟨k, hk⟩
    exact List.mem_map.mpr ⟨(k, v), get?_eq_some_iff.mp hk, rfl⟩

theorem get?_filter {p : V → Bool} :
    (d.filter p).get? k = some v ↔ d.get? k = some v ∧ p v = true := by
  rw [get?_eq_some_iff, get?_eq_some_iff]
  exact List.mem_filter

theorem get?_delete {k' : K} : (d.delete k).get? k' = some v ↔ d.get? k' = some v ∧ k' ≠ k := by
  rw [get?_eq_some_iff, get?_eq_some_iff]
  simp [delete, List.mem_filter]

end Dict

end Library
