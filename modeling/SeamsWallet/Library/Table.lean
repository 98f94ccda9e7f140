import Mathlib.Data.List.Basic
import Mathlib.Data.List.Pairwise

/-!
# Tables with unique keys

A table is a list of rows no two of which clash; two rows clash when they agree
on a primary key or on another unique column. The statements a store runs
against it are `select`, an insert that does nothing on a conflict, an update
that leaves the keys alone, and an update that may set keys and fails on a
conflict; insert and update return the rows they wrote. Uniqueness is a field of
the table, so no statement can break it.
-/

namespace Library

/-- Rows of which no two clash. -/
structure Table {Row : Type*} (Clash : Row → Row → Prop) where
  rows : List Row
  unique : rows.Pairwise fun r s => ¬ Clash r s

namespace Table

/-- A change of a row that does not touch its keys. -/
structure KeepsKeys {Row : Type*} (Clash : Row → Row → Prop) (f : Row → Row) : Prop where
  left : ∀ r s, Clash (f r) s ↔ Clash r s
  right : ∀ r s, Clash r (f s) ↔ Clash r s

variable {Row : Type*} {Clash : Row → Row → Prop}

def empty (Clash : Row → Row → Prop) : Table Clash := ⟨[], List.Pairwise.nil⟩

def select (t : Table Clash) (p : Row → Prop) [DecidablePred p] : List Row :=
  t.rows.filter p

/-- Inserts a row unless it clashes with one that is there; returns what was
written. -/
def insertIgnore [DecidableRel Clash] (t : Table Clash) (row : Row) : List Row × Table Clash :=
  if h : ∀ r ∈ t.rows, ¬ Clash r row then
    ([row], ⟨t.rows ++ [row], by
      rw [List.pairwise_append]
      refine ⟨t.unique, List.pairwise_singleton _ _, ?_⟩
      intro r hr s hs
      rw [List.mem_singleton.mp hs]
      exact h r hr⟩)
  else ([], t)

/-- Changes the rows that satisfy a condition; returns them as written. -/
def update (t : Table Clash) (p : Row → Prop)
    [DecidablePred p] (f : Row → Row) (hf : KeepsKeys Clash f) :
    List Row × Table Clash :=
  ((t.select p).map f, ⟨t.rows.map fun r => if p r then f r else r, by
    rw [List.pairwise_map]
    apply t.unique.imp
    intro r s hrs
    by_cases hr : p r <;> by_cases hs : p s <;>
      simpa only [if_pos, if_neg, hr, hs, not_false_iff, if_true, if_false, hf.left, hf.right]
        using hrs⟩)

/-- Changes the rows that satisfy a condition, keys included; fails if two rows
then clash. -/
def updateUnique [DecidableRel Clash]
    (t : Table Clash) (p : Row → Prop) [DecidablePred p] (f : Row → Row) :
    Option (List Row × Table Clash) :=
  let rows := t.rows.map fun r => if p r then f r else r
  if h : rows.Pairwise fun r s => ¬ Clash r s then
    some ((t.select p).map f, ⟨rows, h⟩)
  else none

variable {t : Table Clash} {p : Row → Prop} [DecidablePred p] {f : Row → Row} {r : Row}

theorem mem_select : r ∈ t.select p ↔ r ∈ t.rows ∧ p r := by
  simp [select]

theorem select_eq_nil : t.select p = [] ↔ ∀ r ∈ t.rows, ¬ p r := by
  simp [select]

theorem exists_of_map_select_ne_nil (h : (t.select p).map f ≠ []) :
    ∃ r ∈ t.rows, p r := by
  by_contra hnone
  push Not at hnone
  exact h (by rw [select_eq_nil.mpr hnone, List.map_nil])

/-- Two rows that clash are one row. -/
theorem eq_of_clash (hsymm : ∀ r s, Clash r s → Clash s r) {s : Row} (hr : r ∈ t.rows)
    (hs : s ∈ t.rows) (h : Clash r s) : r = s := by
  have : Std.Symm fun r s => ¬ Clash r s := ⟨fun r s hrs hsr => hrs (hsymm s r hsr)⟩
  by_contra hne
  exact t.unique.forall hr hs hne h

variable {row : Row}

/-- A row that clashes with every row of its kind is the only one selected. -/
theorem select_eq_singleton (hrow : row ∈ t.rows) (hp : p row)
    (hclash : ∀ r s, p r → p s → Clash r s) : t.select p = [row] := by
  have hpair : (t.select p).Pairwise fun r s => ¬ Clash r s := t.unique.filter _
  have hmem : row ∈ t.select p := mem_select.mpr ⟨hrow, hp⟩
  have hall : ∀ r ∈ t.select p, p r := fun r hr => (mem_select.mp hr).2
  match hselect : t.select p with
  | [] => simp [hselect] at hmem
  | [r] =>
    rw [hselect, List.mem_singleton] at hmem
    rw [hmem]
  | r :: s :: rest =>
    rw [hselect] at hpair hall
    have hrs := List.rel_of_pairwise_cons hpair List.mem_cons_self
    exact absurd (hclash r s (hall r (by simp)) (hall s (by simp))) hrs

section

variable [DecidableRel Clash]

theorem updateUnique_eq_some {t' : Table Clash}
    {written : List Row} (h : t.updateUnique p f = some (written, t')) :
    written = (t.select p).map f ∧ t'.rows = t.rows.map fun r => if p r then f r else r := by
  simp only [updateUnique] at h
  split_ifs at h
  cases h
  exact ⟨rfl, rfl⟩

/-- One row of a table gives way to another. -/
structure Replaces {Row : Type*} {Clash : Row → Row → Prop} (t t' : Table Clash)
    (row row' : Row) : Prop where
  mem : row ∈ t.rows
  mem_iff : ∀ r, r ∈ t'.rows ↔ r ∈ t.rows ∧ r ≠ row ∨ r = row'

/-- An update that wrote something, of which only one row can satisfy the condition,
replaces that row. -/
theorem replaces_of_updateUnique {t' : Table Clash}
    {written : List Row} (h : t.updateUnique p f = some (written, t'))
    (hwritten : written ≠ []) (hone : ∀ r ∈ t.rows, ∀ s ∈ t.rows, p r → p s → r = s) :
    ∃ row, p row ∧ t.Replaces t' row (f row) := by
  obtain ⟨rfl, hrows⟩ := updateUnique_eq_some h
  obtain ⟨row, hmem, hprow⟩ := exists_of_map_select_ne_nil hwritten
  refine ⟨row, hprow, hmem, fun r => ?_⟩
  rw [hrows, List.mem_map]
  constructor
  · rintro ⟨s, hs, rfl⟩
    by_cases hps : p s
    · rw [if_pos hps, hone s hs row hmem hps hprow]
      exact .inr rfl
    · rw [if_neg hps]
      exact .inl ⟨hs, fun hsrow => hps (hsrow ▸ hprow)⟩
  · rintro (⟨hr, hne⟩ | rfl)
    · exact ⟨r, hr, if_neg fun hpr => hne (hone r hr row hmem hpr hprow)⟩
    · exact ⟨row, hmem, if_pos hprow⟩

/-- An insert wrote its row, or found a conflict and left the table alone. -/
theorem insertIgnore_cases (t : Table Clash) (row : Row) :
    ((∀ r ∈ t.rows, ¬ Clash r row) ∧ (t.insertIgnore row).1 = [row] ∧
      (t.insertIgnore row).2.rows = t.rows ++ [row]) ∨ t.insertIgnore row = ([], t) := by
  unfold insertIgnore
  split_ifs with hclash
  · exact .inl ⟨hclash, rfl, rfl⟩
  · exact .inr rfl

theorem insertIgnore_eq_singleton (h : (t.insertIgnore row).1 ≠ []) :
    (∀ r ∈ t.rows, ¬ Clash r row) ∧ (t.insertIgnore row).2.rows = t.rows ++ [row] := by
  rcases t.insertIgnore_cases row with ⟨hfresh, -, hrows⟩ | hsame
  · exact ⟨hfresh, hrows⟩
  · exact absurd (congrArg Prod.fst hsame) h

theorem mem_insertIgnore (hr : r ∈ t.rows) :
    r ∈ (t.insertIgnore row).2.rows := by
  unfold insertIgnore
  split_ifs
  · exact List.mem_append_left _ hr
  · exact hr

end

variable (hf : KeepsKeys Clash f)

theorem mem_update_of (hr : r ∈ t.rows) (hpr : p r) : f r ∈ (t.update p f hf).2.rows := by
  refine List.mem_map.mpr ⟨r, hr, ?_⟩
  rw [if_pos hpr]

theorem mem_update_of_not (hr : r ∈ t.rows) (hpr : ¬ p r) : r ∈ (t.update p f hf).2.rows := by
  refine List.mem_map.mpr ⟨r, hr, ?_⟩
  rw [if_neg hpr]

/-- An update that wrote something found a row that satisfies its condition. -/
theorem exists_of_update_ne_nil {hf : KeepsKeys Clash f} (h : (t.update p f hf).1 ≠ []) :
    ∃ r ∈ t.rows, p r ∧ f r ∈ (t.update p f hf).2.rows := by
  obtain ⟨r, hrows, hpr⟩ := exists_of_map_select_ne_nil h
  exact ⟨r, hrows, hpr, mem_update_of hf hrows hpr⟩

end Table

end Library
