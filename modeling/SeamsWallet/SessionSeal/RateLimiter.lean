import SeamsWallet.Library.Run
import SeamsWallet.Nonce.Lane

/-!
# The in-memory rate limiter of the seal service

Each key has a bucket that counts the calls of its window. The map of buckets is bounded:
when it is too large, buckets whose window is over are deleted, and if that is not enough
the oldest ones, whether or not their window is over. As long as the buckets whose window
lasts fit into the map, a window answers no more calls than its limit.
-/

namespace SeamsWallet.SessionSeal

open Library

structure Bucket where
  count : ℤ
  resetAtMs : ℤ

abbrev Buckets : Type := Dict String Bucket

/-- A number that is not one counts as zero. -/
structure SigningSessionSealRateLimitConsumeInput where
  key : String
  limit : Rat
  windowMs : Rat
  nowMs : Rat

inductive SigningSessionSealRateLimitConsumeResult
  | ok (remaining resetAtMs : ℤ)
  | invalidKey (code message : String)
  | limited (code message : String) (remaining resetAtMs retryAfterMs : ℤ)

def SigningSessionSealRateLimitConsumeResult.isOk : SigningSessionSealRateLimitConsumeResult → Bool
  | .ok _ _ => true
  | _ => false

/-- The bound on the number of buckets, from the option it is configured by. -/
def maxEntries : Option Rat → ℕ
  | some configured => if 0 < configured then configured.floor.toNat else 10000
  | none => 10000

/-! ## Trimming -/

def sweep (maxEntries : ℕ) (nowMs : ℤ) (buckets : Buckets) : List (String × Bucket) → Buckets
  | [] => buckets
  | (key, bucket) :: rest =>
    let swept := if bucket.resetAtMs ≤ nowMs then buckets.delete key else buckets
    if swept.entries.length ≤ maxEntries then swept else sweep maxEntries nowMs swept rest

variable (maxEntries : ℕ)

/-- Deletes the oldest keys until the map is small enough. -/
def evict (buckets : Buckets) : Buckets :=
  ⟨buckets.entries.drop (buckets.entries.length - maxEntries),
    buckets.nodup.sublist ((List.drop_sublist _ _).map Prod.fst)⟩

def Buckets.trim (nowMs : ℤ) (buckets : Buckets) : Buckets :=
  if buckets.entries.length ≤ maxEntries then buckets
  else evict maxEntries (sweep maxEntries nowMs buckets buckets.entries)

/-! ## Consuming -/

namespace SigningSessionSealRateLimitConsumeInput

variable (input : SigningSessionSealRateLimitConsumeInput)

def time : ℤ := input.nowMs.floor

def allowance : ℤ := max 1 input.limit.floor

def rateKey : String := Nonce.trim input.key

def newBucket : Bucket := ⟨0, input.time + max 1 input.windowMs.floor⟩

/-- The bucket of the key with the call counted. -/
def counted (buckets : Buckets) : Bucket :=
  let bucket := match buckets.get? input.rateKey with
    | some existing => if existing.resetAtMs ≤ input.time then input.newBucket else existing
    | none => input.newBucket
  { bucket with count := bucket.count + 1 }

end SigningSessionSealRateLimitConsumeInput

def consume (buckets : Buckets) (input : SigningSessionSealRateLimitConsumeInput) :
    SigningSessionSealRateLimitConsumeResult × Buckets :=
  if input.rateKey = "" then
    (.invalidKey "invalid_rate_limit_key" "Rate-limit key is required", buckets)
  else
    let bucket := input.counted buckets
    let buckets := Buckets.trim maxEntries input.time (buckets.set input.rateKey bucket)
    if input.allowance < bucket.count then
      (.limited "rate_limited" "Rate limit exceeded" 0 bucket.resetAtMs
        (max 0 (bucket.resetAtMs - input.time)), buckets)
    else (.ok (max 0 (input.allowance - bucket.count)) bucket.resetAtMs, buckets)

/-! ## Windows -/

abbrev Consumed : Type :=
  SigningSessionSealRateLimitConsumeInput × SigningSessionSealRateLimitConsumeResult

/-- Once the call is counted, the buckets whose window lasts fit into the map. -/
def Fits (buckets : Buckets) (input : SigningSessionSealRateLimitConsumeInput) : Prop :=
  ((buckets.set input.rateKey (input.counted buckets)).filter
    fun bucket => input.time < bucket.resetAtMs).entries.length ≤ maxEntries

instance (maxEntries : ℕ) (buckets : Buckets) (input : SigningSessionSealRateLimitConsumeInput) :
    Decidable (Fits maxEntries buckets input) :=
  inferInstanceAs (Decidable (_ ≤ _))

def FittingStep (buckets : Buckets) (event : Consumed) (buckets' : Buckets) : Prop :=
  Answers (consume maxEntries) buckets event buckets' ∧ Fits maxEntries buckets event.1

variable {maxEntries : ℕ} {nowMs : ℤ} {buckets buckets' : Buckets} {key : String}
  {bucket : Bucket}

/-- The sweep deletes no bucket whose window lasts. It leaves no other bucket behind, or it
has made room before. -/
theorem sweep_spec {all : Buckets} (hall : buckets.entries.Sublist all.entries)
    {entries : List (String × Bucket)} (hentries : entries ⊆ all.entries) :
    (sweep maxEntries nowMs buckets entries).entries.Sublist buckets.entries ∧
    (∀ entry ∈ buckets.entries, nowMs < entry.2.resetAtMs →
      entry ∈ (sweep maxEntries nowMs buckets entries).entries) ∧
    ((sweep maxEntries nowMs buckets entries).entries.length ≤ maxEntries ∨
      ∀ entry ∈ (sweep maxEntries nowMs buckets entries).entries, entry ∈ entries →
        nowMs < entry.2.resetAtMs) := by
  induction entries generalizing buckets with
  | nil => exact ⟨List.Sublist.refl _, fun _ h _ => h, .inr fun _ _ h => by cases h⟩
  | cons first rest ih =>
    rw [List.cons_subset] at hentries
    obtain ⟨next, hnext⟩ : ∃ next, (if first.2.resetAtMs ≤ nowMs then buckets.delete first.1
      else buckets) = next := ⟨_, rfl⟩
    have hdeleted : next.entries.Sublist buckets.entries ∧
        (∀ entry ∈ buckets.entries, nowMs < entry.2.resetAtMs → entry ∈ next.entries) ∧
        (first ∈ next.entries → nowMs < first.2.resetAtMs) := by
      split at hnext
      · rename_i hover
        subst hnext
        refine ⟨List.filter_sublist, fun entry hmem hlive => ?_, fun hmem => ?_⟩
        · refine List.mem_filter.mpr ⟨hmem, decide_eq_true fun hkey => ?_⟩
          have heq := List.inj_on_of_nodup_map all.nodup (hall.subset hmem) hentries.1 hkey
          rw [heq] at hlive
          omega
        · simp [Dict.delete] at hmem
      · rename_i hover
        subst hnext
        exact ⟨List.Sublist.refl _, fun _ h _ => h, fun _ => by omega⟩
    rw [sweep, hnext]
    split
    · rename_i hroom
      exact ⟨hdeleted.1, hdeleted.2.1, .inl hroom⟩
    · obtain ⟨hsublist, hlive, hrest⟩ := ih (hdeleted.1.trans hall) hentries.2
      refine ⟨hsublist.trans hdeleted.1,
        fun entry hmem h => hlive entry (hdeleted.2.1 entry hmem h) h, hrest.imp_right ?_⟩
      intro hrest entry hmem hentry
      rcases List.mem_cons.mp hentry with rfl | hentry
      · exact hdeleted.2.2 (hsublist.subset hmem)
      · exact hrest entry hmem hentry

theorem get?_trim (hfits : (buckets.filter fun bucket => nowMs < bucket.resetAtMs).entries.length ≤
      maxEntries) (h : buckets.get? key = some bucket) (hlive : nowMs < bucket.resetAtMs) :
    (Buckets.trim maxEntries nowMs buckets).get? key = some bucket := by
  obtain ⟨hsublist, hkept, hroom⟩ := @sweep_spec maxEntries nowMs buckets buckets
    (List.Sublist.refl _) _ (List.Subset.refl _)
  rw [Buckets.trim]
  split
  · exact h
  · have hsmall : (sweep maxEntries nowMs buckets buckets.entries).entries.length ≤ maxEntries := by
      refine hroom.elim id fun hall => ?_
      have hlasting := List.filter_eq_self.mpr fun entry hmem =>
        decide_eq_true (hall entry hmem (hsublist.subset hmem))
      rw [← hlasting]
      exact (hsublist.filter _).length_le.trans hfits
    rw [Dict.get?_eq_some_iff]
    simp only [evict, Nat.sub_eq_zero_of_le hsmall, List.drop_zero]
    exact hkept _ (Dict.get?_eq_some_iff.mp h) hlive

section Window

variable (key) (resetAtMs limit : ℤ)

/-- A call of the key that was let through in the window, under this limit or a lower one. -/
def Admits (event : Consumed) : Bool :=
  event.1.rateKey = key && decide (event.1.time < resetAtMs) && event.2.isOk &&
    decide (event.1.allowance ≤ limit)

/-- The window is over, or its bucket is there and has counted the calls that were let
through. -/
structure InWindow (log : List Consumed) (buckets : Buckets) : Prop where
  bounded : log.countP (Admits key resetAtMs limit) ≤ limit.toNat
  counted : (∃ event ∈ log, resetAtMs ≤ event.1.time) ∨
    ∃ count : ℤ, buckets.get? key = some ⟨count, resetAtMs⟩ ∧
      log.countP (Admits key resetAtMs limit) ≤ count

variable {key resetAtMs limit} {log : List Consumed} {event : Consumed}

/-- A call of the key inside the window is counted, and let through up to its own limit. -/
theorem InWindow.count {count : ℤ}
    (hbounded : log.countP (Admits key resetAtMs limit) ≤ limit.toNat)
    (hcount : log.countP (Admits key resetAtMs limit) ≤ count)
    (hstep : FittingStep maxEntries buckets event buckets') (hkey : event.1.rateKey = key)
    (hne : key ≠ "") (htime : event.1.time < resetAtMs)
    (hcounted : event.1.counted buckets = ⟨count + 1, resetAtMs⟩) :
    InWindow key resetAtMs limit (log ++ [event]) buckets' := by
  obtain ⟨hanswer, hfits⟩ := hstep
  subst hkey
  rw [Fits, hcounted] at hfits
  simp only [Answers, consume, if_neg hne, hcounted] at hanswer
  have hget := get?_trim hfits (Dict.get?_set_self _ _ _) htime
  have hend : (event.2.isOk → count + 1 ≤ event.1.allowance) ∧
      buckets'.get? event.1.rateKey = some ⟨count + 1, resetAtMs⟩ := by
    split at hanswer <;> obtain ⟨hresult, rfl⟩ := Prod.mk.inj hanswer <;> rw [← hresult]
    · exact ⟨nofun, hget⟩
    · exact ⟨fun _ => by omega, hget⟩
  refine ⟨?_, .inr ⟨_, hend.2, ?_⟩⟩
  all_goals rw [List.countP_append, List.countP_singleton]
  · split
    · rename_i hadmits
      simp only [Admits, Bool.and_eq_true, decide_eq_true_eq] at hadmits
      have hallowed := hend.1 hadmits.1.2
      omega
    · exact hbounded
  · split <;> omega

theorem InWindow.skip (hwindow : InWindow key resetAtMs limit log buckets)
    (hout : Admits key resetAtMs limit event = false)
    (hcounted : resetAtMs ≤ event.1.time ∨ buckets'.get? key = buckets.get? key) :
    InWindow key resetAtMs limit (log ++ [event]) buckets' := by
  have hsame : (log ++ [event]).countP (Admits key resetAtMs limit) =
      log.countP (Admits key resetAtMs limit) := by
    simp [List.countP_append, hout]
  refine ⟨hsame ▸ hwindow.bounded, ?_⟩
  rw [hsame]
  rcases hcounted with hover | hget
  · exact .inl ⟨event, by simp, hover⟩
  · rw [hget]
    exact hwindow.counted.imp_left fun ⟨earlier, hmem, h⟩ =>
      ⟨earlier, List.mem_append_left _ hmem, h⟩

theorem InWindow.step (hwindow : InWindow key resetAtMs limit log buckets) (hne : key ≠ "")
    (htimes : ∀ earlier ∈ log, earlier.1.time ≤ event.1.time)
    (hstep : FittingStep maxEntries buckets event buckets') :
    InWindow key resetAtMs limit (log ++ [event]) buckets' := by
  by_cases hover : resetAtMs ≤ event.1.time
  · exact hwindow.skip (by simp [Admits, hover]) (.inl hover)
  obtain ⟨earlier, hmem, hearlier⟩ | ⟨count, hget, hcount⟩ := hwindow.counted
  · exact absurd (hearlier.trans (htimes earlier hmem)) hover
  by_cases hkey : event.1.rateKey = key
  · refine InWindow.count hwindow.bounded hcount hstep hkey hne (by omega) ?_
    simp [SigningSessionSealRateLimitConsumeInput.counted, hkey, hget, hover]
  -- A call of another key leaves the bucket in the map.
  · refine hwindow.skip (by simp [Admits, hkey]) (.inr ?_)
    obtain ⟨hanswer, hfits⟩ := hstep
    rw [Answers, consume] at hanswer
    split at hanswer
    · rw [(Prod.mk.inj hanswer).2]
    · have hkept := get?_trim hfits
        ((Dict.get?_set_of_ne _ _ (Ne.symm hkey)).trans hget) (by simpa using hover)
      rw [hget, ← hkept]
      dsimp only at hanswer
      split at hanswer <;> rw [(Prod.mk.inj hanswer).2]

theorem InWindow.run {opening : Consumed} {state : Buckets} (hne : key ≠ "")
    (hopened : InWindow key resetAtMs limit [opening] buckets)
    (hrun : Run (FittingStep maxEntries) buckets log state)
    (htimes : (opening :: log).Pairwise fun earlier later => earlier.1.time ≤ later.1.time) :
    InWindow key resetAtMs limit (opening :: log) state := by
  induction hrun with
  | nil => exact hopened
  | snoc _ hstep ih =>
    rw [← List.cons_append, List.pairwise_append] at htimes
    exact (ih htimes.1).step hne (fun earlier hmem => htimes.2.2 earlier hmem _ (by simp)) hstep

/-- The key has no bucket whose window lasts. -/
def Unopened (buckets : Buckets) (input : SigningSessionSealRateLimitConsumeInput) : Prop :=
  ∀ bucket, buckets.get? input.rateKey = some bucket → bucket.resetAtMs ≤ input.time

/-- From the call that opens a window to the window's end, no more calls of its key are let
through than the limit, whatever other keys are used, if the buckets whose window lasts always
fit into the map. -/
theorem window_limits_calls {opening : Consumed} {opened state : Buckets}
    (hopened : FittingStep maxEntries buckets opening opened)
    (hkey : opening.1.rateKey ≠ "") (hunopened : Unopened buckets opening.1)
    (hrun : Run (FittingStep maxEntries) opened log state)
    (htimes : (opening :: log).Pairwise fun earlier later => earlier.1.time ≤ later.1.time)
    (limit : ℤ) :
    (opening :: log).countP
      (Admits opening.1.rateKey opening.1.newBucket.resetAtMs limit) ≤ limit.toNat := by
  have hcounted : opening.1.counted buckets = ⟨0 + 1, opening.1.newBucket.resetAtMs⟩ := by
    rw [SigningSessionSealRateLimitConsumeInput.counted]
    cases hget : buckets.get? opening.1.rateKey with
    | none => rfl
    | some bucket =>
      simp only [if_pos (hunopened bucket hget)]
      rfl
  have htime : opening.1.time < opening.1.newBucket.resetAtMs := by
    simp only [SigningSessionSealRateLimitConsumeInput.newBucket]
    omega
  have hfirst : InWindow opening.1.rateKey opening.1.newBucket.resetAtMs limit ([] ++ [opening])
      opened := InWindow.count (Nat.zero_le _) le_rfl hopened rfl hkey htime hcounted
  exact (hfirst.run hkey hrun htimes).bounded

end Window

def firstCall (key : String) : SigningSessionSealRateLimitConsumeInput := ⟨key, 1, 60000, 5⟩

/-- With room for one bucket, the call of another key makes the limiter forget the window. -/
theorem evicted_window_opens_again :
    ¬ ∀ (maxEntries : ℕ) (opening : SigningSessionSealRateLimitConsumeInput)
      (calls : List SigningSessionSealRateLimitConsumeInput), opening.rateKey ≠ "" →
      ((opening :: calls).Pairwise fun earlier later => earlier.time ≤ later.time) →
      ∀ limit, (answers (consume maxEntries) Dict.empty (opening :: calls)).countP
        (Admits opening.rateKey opening.newBucket.resetAtMs limit) ≤ limit.toNat := by
  intro h
  exact absurd (h 1 (firstCall "a") [firstCall "b", firstCall "a"] (by decide) (by decide) 1)
    (by decide)

theorem FittingStep.of_fits (input : SigningSessionSealRateLimitConsumeInput)
    (h : Fits maxEntries buckets input) : FittingStep maxEntries buckets
      (input, (consume maxEntries buckets input).1) (consume maxEntries buckets input).2 :=
  ⟨rfl, h⟩

theorem window_limits_calls_two_keys :
    (answers (consume 2) Dict.empty [firstCall "a", firstCall "b", firstCall "a"]).countP
      (Admits (firstCall "a").rateKey (firstCall "a").newBucket.resetAtMs 1) ≤ 1 := by
  have hunopened : Unopened Dict.empty (firstCall "a") := fun _ h => by cases h
  have hopened := FittingStep.of_fits (firstCall "a") (by decide : Fits 2 Dict.empty _)
  exact window_limits_calls hopened (by decide) hunopened
    (.cons (.of_fits (firstCall "b") (by decide))
      (.cons (.of_fits (firstCall "a") (by decide)) .nil)) (by decide) 1

end SeamsWallet.SessionSeal
