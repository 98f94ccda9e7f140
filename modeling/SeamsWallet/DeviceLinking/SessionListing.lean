import Mathlib.Data.List.Sort
import Mathlib.Data.PNat.Basic
import Mathlib.Data.Prod.Lex
import Mathlib.Data.String.Basic

/-!
# Listing the link sessions of a wallet

A page fetches one row more than its limit. The cursor is that of the last row within the
limit, but the records are cut to the limit only after the rows of a retired shape have been
dropped. A page that lost a row so makes room for the row beyond the limit, which the next
page lists again.
-/

namespace SeamsWallet.DeviceLinking

variable {Record : Type}

structure LinkedDeviceSessionListCursorV1 where
  updatedAtMs : ℕ
  linkSessionId : String

/-- A stored session, without a record where the row has a retired shape. -/
structure LinkedDeviceSessionRow (Record : Type) extends LinkedDeviceSessionListCursorV1 where
  walletId : String
  record : Option Record

structure LinkedDeviceSessionListPageV1 (Record : Type) where
  records : List Record
  nextCursor : Option LinkedDeviceSessionListCursorV1

/-- The rows of one scope. -/
structure LinkedDeviceSessionTable (Record : Type) where
  rows : List (LinkedDeviceSessionRow Record)
  unique : rows.Pairwise fun row other => row.linkSessionId ≠ other.linkSessionId

namespace LinkedDeviceSessionListCursorV1

/-- The latest update comes first, and the sessions of one time by their names. -/
def listingKey (cursor : LinkedDeviceSessionListCursorV1) : ℕᵒᵈ ×ₗ String :=
  toLex (OrderDual.toDual cursor.updatedAtMs, cursor.linkSessionId)

/-- The clause of the query that continues a listing. -/
abbrev After (row cursor : LinkedDeviceSessionListCursorV1) : Prop :=
  row.updatedAtMs < cursor.updatedAtMs ∨
    row.updatedAtMs = cursor.updatedAtMs ∧ cursor.linkSessionId < row.linkSessionId

theorem after_iff {row cursor : LinkedDeviceSessionListCursorV1} :
    row.After cursor ↔ cursor.listingKey < row.listingKey := by
  rw [listingKey, listingKey, Prod.Lex.toLex_lt_toLex, OrderDual.toDual_lt_toDual,
    OrderDual.toDual_inj, eq_comm]

end LinkedDeviceSessionListCursorV1

namespace LinkedDeviceSessionTable

variable (table : LinkedDeviceSessionTable Record) (walletId : String)

/-- The rows of the wallet in the order of the listing. -/
def sessionsOfWallet : List (LinkedDeviceSessionRow Record) :=
  (table.rows.filter (·.walletId = walletId)).insertionSort fun row other =>
    row.listingKey ≤ other.listingKey

variable (limit : ℕ+)

def listSessionsForWalletV1 (cursor : Option LinkedDeviceSessionListCursorV1) :
    LinkedDeviceSessionListPageV1 Record :=
  let rows := ((table.sessionsOfWallet walletId).filter fun row =>
    ∀ c ∈ cursor, row.After c).take (limit + 1)
  { records := (rows.filterMap (·.record)).take limit
    nextCursor := if limit < rows.length then
        (rows[(limit : ℕ) - 1]?).map (·.toLinkedDeviceSessionListCursorV1)
      else none }

/-- The records of page after page, from a cursor until there is none. -/
def followPages : ℕ → Option LinkedDeviceSessionListCursorV1 → Option (List Record)
  | 0, _ => none
  | pages + 1, cursor =>
    let page := table.listSessionsForWalletV1 walletId limit cursor
    match page.nextCursor with
    | none => some page.records
    | some next => (followPages pages (some next)).map (page.records ++ ·)

end LinkedDeviceSessionTable

/-- If the row after a full page can be read, so can all rows of the page. -/
def FullPagesReadable (limit : ℕ) (rows : List (LinkedDeviceSessionRow Record)) : Prop :=
  ∀ k row, rows[(k + 1) * limit]? = some row → row.record.isSome →
    ∀ r ∈ (rows.drop (k * limit)).take limit, r.record.isSome

/-! ## One page -/

section Page

variable {limit : ℕ} {rows : List (LinkedDeviceSessionRow Record)}

theorem fullPagesReadable_iff : FullPagesReadable limit rows ↔
    (∀ row, rows[limit]? = some row → row.record.isSome →
      ∀ r ∈ rows.take limit, r.record.isSome) ∧ FullPagesReadable limit (rows.drop limit) := by
  constructor
  · intro h
    refine ⟨by simpa using h 0, fun k row hrow => ?_⟩
    rw [List.getElem?_drop, add_comm, ← Nat.succ_mul] at hrow
    rw [List.drop_drop, add_comm, ← Nat.succ_mul]
    exact h (k + 1) row hrow
  · rintro ⟨hfirst, hrest⟩ (_ | k) row hrow
    · simpa using hfirst row (by simpa using hrow)
    · rw [Nat.succ_mul k, add_comm, ← List.drop_drop]
      rw [Nat.succ_mul, add_comm, ← List.getElem?_drop] at hrow
      exact hrest k row hrow

/-- A page holds the records of its rows, unless one of them cannot be read and the next one
can. -/
theorem page_records {row : LinkedDeviceSessionRow Record} (hrow : rows[limit]? = some row) :
    let page := ((rows.take (limit + 1)).filterMap (·.record)).take limit
    let own := (rows.take limit).filterMap (·.record)
    if row.record.isSome → ∀ r ∈ rows.take limit, r.record.isSome then page = own
    else page.length = own.length + 1 := by
  intro page own
  have hlength : (rows.take limit).length = limit := by
    have := (List.getElem?_eq_some_iff.mp hrow).1
    simp
    omega
  have hpage : page = (own ++ row.record.toList).take limit := by
    cases hrecord : row.record <;> simp [page, own, List.take_add_one, hrow, hrecord]
  have hown : own.length ≤ limit := hlength ▸ List.length_filterMap_le _ _
  rw [hpage]
  split
  · rename_i hgood
    cases hrecord : row.record with
    | none => simpa using List.take_of_length_le hown
    | some record =>
      have hfull : own.length = limit := by
        rw [← hlength, List.filterMap_length_eq_length]
        exact hgood (by rw [hrecord]; rfl)
      rw [List.take_left' hfull]
  · rename_i hbad
    simp only [Classical.not_imp, not_forall] at hbad
    obtain ⟨hsome, r, hr, hnone⟩ := hbad
    have hlt : own.length ≠ limit := by
      rw [← hlength, Ne, List.filterMap_length_eq_length]
      exact fun hall => hnone (hall r hr)
    obtain ⟨record, hrecord⟩ := Option.isSome_iff_exists.mp hsome
    rw [hrecord]
    simp
    omega

end Page

/-! ## All pages -/

namespace LinkedDeviceSessionTable

variable (table : LinkedDeviceSessionTable Record) (walletId : String) (limit : ℕ+)

theorem pairwise_sessionsOfWallet : (table.sessionsOfWallet walletId).Pairwise fun row other =>
    row.listingKey < other.listingKey := by
  have : Std.Total fun row other : LinkedDeviceSessionRow Record =>
      row.listingKey ≤ other.listingKey := ⟨fun _ _ => le_total _ _⟩
  have : IsTrans (LinkedDeviceSessionRow Record) fun row other =>
      row.listingKey ≤ other.listingKey := ⟨fun _ _ _ => le_trans⟩
  have hdistinct : (table.sessionsOfWallet walletId).Pairwise fun row other =>
      row.linkSessionId ≠ other.linkSessionId :=
    ((List.perm_insertionSort _ _).pairwise_iff fun h => h.symm).mpr (table.unique.filter _)
  refine ((List.pairwise_insertionSort _ _).and hdistinct).imp fun ⟨hle, hne⟩ => ?_
  exact lt_of_le_of_ne hle fun h => hne (Prod.ext_iff.mp (toLex_inj.mp h)).2

/-- The rows after a row of the listing are those that follow it. -/
theorem filter_after {before after : List (LinkedDeviceSessionRow Record)}
    {row : LinkedDeviceSessionRow Record}
    (h : table.sessionsOfWallet walletId = before ++ row :: after) :
    ((table.sessionsOfWallet walletId).filter fun r =>
      ∀ c ∈ some row.toLinkedDeviceSessionListCursorV1, r.After c) = after := by
  have hsorted := table.pairwise_sessionsOfWallet walletId
  rw [h] at hsorted ⊢
  simp only [List.pairwise_append, List.pairwise_cons] at hsorted
  obtain ⟨-, ⟨hafter, -⟩, hbefore⟩ := hsorted
  simp only [Option.mem_some_iff, forall_eq', LinkedDeviceSessionListCursorV1.after_iff,
    List.filter_append, List.filter_cons, lt_irrefl, decide_false]
  rw [List.filter_eq_nil_iff.mpr, List.filter_eq_self.mpr]
  · rfl
  · simpa using hafter
  · simpa using fun r hr => (hbefore r hr row List.mem_cons_self).le

/-- Following the cursors comes to an end, and lists each record once if no page makes room for
the row after it. -/
theorem followPages_spec (pages : ℕ) (cursor : Option LinkedDeviceSessionListCursorV1)
    {rows : List (LinkedDeviceSessionRow Record)} (hpages : rows.length < pages)
    (hrows : ((table.sessionsOfWallet walletId).filter fun row => ∀ c ∈ cursor, row.After c) = rows)
    (hall : rows <:+ table.sessionsOfWallet walletId) :
    ∃ records, table.followPages walletId limit pages cursor = some records ∧
      (rows.filterMap (·.record)).length ≤ records.length ∧
      (records = rows.filterMap (·.record) ↔ FullPagesReadable limit rows) := by
  induction pages generalizing cursor rows with
  | zero => omega
  | succ pages ih =>
    have hlimit := limit.pos
    simp only [followPages, listSessionsForWalletV1, hrows, List.length_take]
    rcases le_or_gt rows.length limit with hle | hlt
    · rw [if_neg (by omega), List.take_of_length_le (by omega : rows.length ≤ limit + 1),
        List.take_of_length_le ((List.length_filterMap_le _ _).trans hle)]
      refine ⟨_, rfl, le_rfl, iff_of_true rfl fun k row hrow => ?_⟩
      have hindex := (List.getElem?_eq_some_iff.mp hrow).1
      have hbeyond : (limit : ℕ) ≤ (k + 1) * limit := Nat.le_mul_of_pos_left _ k.succ_pos
      omega
    · obtain ⟨last, hlast⟩ : ∃ last, rows[(limit : ℕ) - 1]? = some last :=
        ⟨_, List.getElem?_eq_getElem (by omega)⟩
      obtain ⟨row, hrow⟩ : ∃ row, rows[(limit : ℕ)]? = some row :=
        ⟨_, List.getElem?_eq_getElem hlt⟩
      have hdrop : rows.drop (limit - 1) = last :: rows.drop limit := by
        obtain ⟨hindex, rfl⟩ := List.getElem?_eq_some_iff.mp hlast
        rw [List.drop_eq_getElem_cons hindex, Nat.sub_add_cancel hlimit]
      obtain ⟨before, hbefore⟩ := hall
      have hsplit : table.sessionsOfWallet walletId =
          (before ++ rows.take (limit - 1)) ++ last :: rows.drop limit := by
        rw [List.append_assoc, ← hdrop, List.take_append_drop, hbefore]
      obtain ⟨records, hrecords, hlength, hiff⟩ := ih _ (by simp; omega)
        (table.filter_after walletId hsplit) ((List.drop_suffix _ _).trans ⟨before, hbefore⟩)
      rw [if_pos (by omega), List.getElem?_take_of_lt (by omega), hlast]
      dsimp only [Option.map_some]
      rw [hrecords]
      refine ⟨_, rfl, ?_⟩
      rw [← List.take_append_drop limit rows, List.filterMap_append, List.take_append_drop,
        fullPagesReadable_iff, ← hiff]
      have hpage := page_records hrow
      dsimp only at hpage
      split at hpage
      · rename_i hgood
        rw [hpage, List.append_cancel_left_eq]
        refine ⟨by simpa using hlength, fun h => ⟨fun row' hrow' => ?_, h⟩, And.right⟩
        exact Option.some.inj (hrow.symm.trans hrow') ▸ hgood
      · rename_i hbad
        refine ⟨by simp only [List.length_append]; omega, iff_of_false (fun h => ?_)
          fun h => hbad (h.1 row hrow)⟩
        have hcount := congrArg List.length h
        simp only [List.length_append] at hcount
        omega

/-- The session in the first row cannot be read, so that both pages list the second one. -/
theorem listing_repeats_session :
    ¬∀ (table : LinkedDeviceSessionTable ℕ) (walletId : String) (limit : ℕ+),
      table.followPages walletId limit (table.rows.length + 1) none =
        some ((table.sessionsOfWallet walletId).filterMap (·.record)) := by
  intro h
  have honce := h ⟨[⟨⟨2, "first"⟩, "wallet", none⟩, ⟨⟨1, "second"⟩, "wallet", some 7⟩],
    by decide⟩ "wallet" 1
  revert honce
  decide +kernel

/-- Following the cursors ends, and lists every session that can be read, once and in order,
exactly if all rows of a full page can be read whenever the next one can. -/
theorem listing_visits_once_iff : ∃ records,
    table.followPages walletId limit (table.rows.length + 1) none = some records ∧
      (records = (table.sessionsOfWallet walletId).filterMap (·.record) ↔
        FullPagesReadable limit (table.sessionsOfWallet walletId)) := by
  have hlength : (table.sessionsOfWallet walletId).length ≤ table.rows.length := by
    rw [sessionsOfWallet, List.length_insertionSort]
    exact List.length_filter_le _ _
  obtain ⟨records, hrecords, -, hiff⟩ := table.followPages_spec walletId limit
    (table.rows.length + 1) none (Nat.lt_succ_of_le hlength) (by simp) (List.suffix_refl _)
  exact ⟨records, hrecords, hiff⟩

end LinkedDeviceSessionTable

end SeamsWallet.DeviceLinking
