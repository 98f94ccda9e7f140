import Mathlib.Data.List.Basic
import SeamsWallet.Library.Program

/-!
# Interleaved programs and their windows

Several programs run over one shared state; each query is answered atomically and
anything may happen between two queries of a program. Some queries open a window,
which stays open until the program that opened it ends. A schedule is serial when
no window is opened while another one is open.

`Discipline` is the proof outline of such a pool. Each running program is in a
mode, which says what it relies on (`Holds`); a step moves it to another mode and
keeps what the others rely on (`stable`). While no window is open the shared state
meets `Rest`: whoever opens a window may use it and has to restore it before the
program ends. `Discipline.Obeys` says that a program keeps to the outline, with one
rule for each construct; `Discipline.Sound` is the invariant of the whole pool.
-/

namespace Library

/-- How queries act on the shared state, given a choice of the outside, and which of
them open a window. -/
structure QuerySystem (Q : Type) (A : Q → Type) (C S : Type) where
  exec : C → S → (q : Q) → A q × S
  opens : Q → Bool

/-- A program under way and whether it has opened a window. -/
structure Thread (Q : Type) (A : Q → Type) (ε α : Type) where
  opened : Bool
  rest : Program Q A ε α

namespace Thread

variable {Q : Type} {A : Q → Type} {C S ε α : Type}

def start (p : Program Q A ε α) : Thread Q A ε α := ⟨false, p⟩

/-- The thread is under way and has opened a window. -/
def inWindow (thread : Thread Q A ε α) : Prop :=
  thread.opened = true ∧ thread.rest.result? = none

instance (thread : Thread Q A ε α) : Decidable thread.inWindow :=
  inferInstanceAs (Decidable (_ = true ∧ _ = none))

def next? (thread : Thread Q A ε α) : Option Q :=
  match thread.rest with
  | .query q _ => some q
  | _ => none

/-- The next query of a thread is answered. -/
def step (sys : QuerySystem Q A C S) (c : C) (s : S) (thread : Thread Q A ε α) :
    Option (Thread Q A ε α × S) :=
  match thread.rest with
  | .query q next =>
    some (⟨thread.opened || sys.opens q, next (sys.exec c s q).1⟩, (sys.exec c s q).2)
  | _ => none

end Thread

/-- A proof outline for programs over a shared state. -/
structure Discipline {Q : Type} {A : Q → Type} {C S : Type} (sys : QuerySystem Q A C S)
    (M R : Type) where
  /-- In this mode a window is open. -/
  inWindow : M → Bool
  /-- What a program in the mode relies on. -/
  Holds : M → S → Prop
  /-- What the state meets while no window is open. -/
  Rest : S → Prop
  /-- The choices of the outside that are considered. -/
  Permits : Bool → Q → C → Prop
  /-- What a step does, from mode and state to mode and state. -/
  Move : M → S → M → S → Prop
  /-- Two programs can be in these modes at the same time. -/
  Apart : M → M → Prop
  /-- What the result of a program says about the state it ends in. -/
  Final : R → S → Prop
  apart_symm : ∀ m n, Apart m n → Apart n m
  /-- A step keeps what another program relies on, provided that no two windows are
  open. -/
  stable : ∀ m s m' s' n, Holds m s → Move m s m' s' → Holds m' s' → Holds n s → Apart m n →
    ¬ (inWindow m' = true ∧ inWindow n = true) → Holds n s' ∧ Apart m' n

namespace Discipline

variable {Q : Type} {A : Q → Type} {C S M ε α β : Type} {sys : QuerySystem Q A C S}

section Rules

variable {R : Type} (D : Discipline sys M R)

/-- What a program in mode `m` owes for the answer to the query `q`. -/
structure Takes (m : M) (s : S) (q : Q) (m' : M) (s' : S) : Prop where
  window : D.inWindow m' = (D.inWindow m || sys.opens q)
  holds : D.Holds m' s'
  move : D.Move m s m' s'
  rest : D.inWindow m' = false → D.Rest s → D.Rest s'

/-- The program keeps to the outline from mode `m` on and ends as `post` says. -/
def Follows (post : M → Except ε α → Prop) : M → Program Q A ε α → Prop
  | m, .done value => post m (.ok value)
  | m, .fail error => post m (.error error)
  | m, .query q next => ∀ s c, D.Holds m s → D.Permits (D.inWindow m) q c →
      (sys.opens q = true → D.inWindow m = false → D.Rest s) →
      ∃ m', D.Takes m s q m' (sys.exec c s q).2 ∧ Follows post m' (next (sys.exec c s q).1)

/-- `Follows` as a structure, so that it is not taken apart when a rule is applied. -/
structure Obeys (post : M → Except ε α → Prop) (m : M) (p : Program Q A ε α) : Prop where
  follows : D.Follows post m p

variable {D} {post : M → Except ε α → Prop} {m : M}

theorem obeys_pure {value : α} (h : post m (.ok value)) : D.Obeys post m (pure value) := ⟨h⟩

theorem obeys_fail {error : ε} (h : post m (.error error)) : D.Obeys post m (.fail error) := ⟨h⟩

/-- A query is owed a mode for every answer it may get. -/
theorem obeys_query {q : Q} {next : A q → Program Q A ε α}
    (h : ∀ s c, D.Holds m s → D.Permits (D.inWindow m) q c →
      (sys.opens q = true → D.inWindow m = false → D.Rest s) →
      ∃ m', D.Takes m s q m' (sys.exec c s q).2 ∧ D.Obeys post m' (next (sys.exec c s q).1)) :
    D.Obeys post m (.query q next) := by
  constructor
  intro s c hholds hpermits hrest
  obtain ⟨m', htakes, hnext⟩ := h s c hholds hpermits hrest
  exact ⟨m', htakes, hnext.follows⟩

theorem Obeys.query {q : Q} {next : A q → Program Q A ε α} (h : D.Obeys post m (.query q next))
    {s : S} {c : C}
    (hholds : D.Holds m s) (hpermits : D.Permits (D.inWindow m) q c)
    (hrest : sys.opens q = true → D.inWindow m = false → D.Rest s) :
    ∃ m', D.Takes m s q m' (sys.exec c s q).2 ∧ D.Obeys post m' (next (sys.exec c s q).1) := by
  obtain ⟨m', htakes, hnext⟩ := h.follows s c hholds hpermits hrest
  exact ⟨m', htakes, ⟨hnext⟩⟩

theorem Obeys.query_imp {q : Q} {next : A q → Program Q A ε α} (h : D.Obeys post m (.query q next))
    {ε' β : Type} {post' : M → Except ε' β → Prop} {next' : A q → Program Q A ε' β}
    (himp : ∀ answer m', D.Obeys post m' (next answer) → D.Obeys post' m' (next' answer)) :
    D.Obeys post' m (.query q next') := by
  refine obeys_query fun s c hholds hpermits hrest => ?_
  obtain ⟨m', htakes, hnext⟩ := h.query hholds hpermits hrest
  exact ⟨m', htakes, himp _ m' hnext⟩

variable {p : Program Q A ε α}

theorem Obeys.result (h : D.Obeys post m p) {r : Except ε α} (hr : p.result? = some r) :
    post m r := by
  cases p with
  | done value | fail error =>
    cases hr
    exact h.follows
  | query q next => cases hr

section

variable {post : M → Except ε β → Prop}

/-- The second part of a composed program starts in the mode the first one ends in. -/
theorem obeys_bind {f : α → Program Q A ε β} (h : D.Obeys (fun m' r => match r with
      | .ok value => D.Obeys post m' (f value)
      | .error error => post m' (.error error)) m p) :
    D.Obeys post m (p >>= f) := by
  rw [Program.bind_eq]
  induction p generalizing m with
  | done value => exact h.follows
  | fail error => exact obeys_fail h.follows
  | query q next ih =>
    exact h.query_imp fun answer _ => ih answer

theorem obeys_handle {ε' : Type} {post : M → Except ε' α → Prop} {f : ε → Program Q A ε' α}
    (h : D.Obeys (fun m' r => match r with
      | .ok value => post m' (.ok value)
      | .error error => D.Obeys post m' (f error)) m p) :
    D.Obeys post m (p.handle f) := by
  induction p generalizing m with
  | done value => exact obeys_pure h.follows
  | fail error => exact h.follows
  | query q next ih =>
    exact h.query_imp fun answer _ => ih answer

theorem Obeys.mono {post post' : M → Except ε α → Prop} (h : D.Obeys post m p)
    (himp : ∀ m' r, post m' r → post' m' r) : D.Obeys post' m p := by
  induction p generalizing m with
  | done value => exact obeys_pure (himp _ _ h.follows)
  | fail error => exact obeys_fail (himp _ _ h.follows)
  | query q next ih =>
    exact h.query_imp fun answer _ => ih answer

theorem obeys_map {f : α → β}
    (h : D.Obeys (fun m' r => post m' (r.map f)) m p) : D.Obeys post m (f <$> p) := by
  change D.Obeys post m (p >>= pure ∘ f)
  refine obeys_bind (h.mono fun m' r hr => ?_)
  cases r with
  | error error => exact hr
  | ok value => exact obeys_pure hr

end

theorem obeys_ofExcept {x : Except ε α} (h : post m x) : D.Obeys post m (Program.ofExcept x) := by
  cases x with
  | error error => exact obeys_fail h
  | ok value => exact obeys_pure h

theorem obeys_ensure {post : M → Except ε Unit → Prop} {c : Prop} [Decidable c] {error : ε}
    (hok : c → post m (.ok ())) (herror : ¬ c → post m (.error error)) :
    D.Obeys post m (Program.ensure c error) := by
  by_cases hc : c
  · rw [Program.ensure_of hc]
    exact obeys_pure (hok hc)
  · rw [Program.ensure_of_not hc]
    exact obeys_fail (herror hc)

end Rules

/-! ## The last exchange

Programs that stand alone: the outline only remembers the states before and after the
last query, so that a result can be described by the query it came from. The queries before
it are quiet. -/

section LastExchange

variable (sys)

def lastExchange (R : Type) (Quiet : S → S → Prop) : Discipline sys (Option (S × S)) R where
  inWindow := fun _ => false
  Holds := fun _ _ => True
  Rest := fun _ => True
  Permits := fun _ _ _ => True
  Move := fun m s m' s' => m' = some (s, s') ∧ ∀ e, m = some e → Quiet e.1 e.2
  Apart := fun _ _ => True
  Final := fun _ _ => True
  apart_symm := fun _ _ _ => trivial
  stable := fun _ _ _ _ _ _ _ _ _ _ _ => ⟨trivial, trivial⟩

variable {sys} {R : Type} {Quiet : S → S → Prop} {m : Option (S × S)}

theorem Obeys.exchange {post : Option (S × S) → Except ε α → Prop} {q : Q}
    {next : A q → Program Q A ε α}
    (h : (lastExchange sys R Quiet).Obeys post m (.query q next)) (s : S) (c : C) :
    (∀ e, m = some e → Quiet e.1 e.2) ∧ (lastExchange sys R Quiet).Obeys post
      (some (s, (sys.exec c s q).2)) (next (sys.exec c s q).1) := by
  obtain ⟨m', htakes, hnext⟩ := h.query (s := s) (c := c) trivial trivial (fun _ _ => trivial)
  obtain ⟨rfl, hm⟩ := htakes.move
  exact ⟨hm, hnext⟩

end LastExchange

/-! ## The pool -/

section Pool

variable (D : Discipline sys M (Except ε α))

/-- A program may end here: its result is right, and a window it opened is no longer
needed. -/
def Ends (m : M) (r : Except ε α) : Prop :=
  ∀ s, D.Holds m s → D.Final r s ∧ (D.inWindow m = true → D.Rest s)

/-- The modes of the running threads account for them. -/
structure Accounts (modes : ℕ → M) (s : S) (threads : List (Thread Q A ε α)) : Prop where
  running : ∀ i thread, threads[i]? = some thread → thread.rest.result? = none →
    D.inWindow (modes i) = thread.opened ∧ D.Holds (modes i) s ∧
      D.Obeys D.Ends (modes i) thread.rest
  apart : ∀ i j thread thread', i ≠ j → threads[i]? = some thread →
    threads[j]? = some thread' → thread.rest.result? = none → thread'.rest.result? = none →
    D.Apart (modes i) (modes j) ∧ ¬ (D.inWindow (modes i) = true ∧ D.inWindow (modes j) = true)
  rest : (∀ thread ∈ threads, ¬ thread.inWindow) → D.Rest s

/-- The invariant of a pool of threads that keep to the outline. -/
def Sound (s : S) (threads : List (Thread Q A ε α)) : Prop :=
  ∃ modes, D.Accounts modes s threads

variable {D} {s : S} {threads : List (Thread Q A ε α)}

theorem Sound.rest (h : D.Sound s threads) (hclosed : ∀ thread ∈ threads, ¬ thread.inWindow) :
    D.Rest s := by
  obtain ⟨modes, haccounts⟩ := h
  exact haccounts.rest hclosed

/-- The state is at rest, or what a window relies on holds. -/
theorem Sound.rest_or_window (h : D.Sound s threads) :
    D.Rest s ∨ ∃ m, D.inWindow m = true ∧ D.Holds m s := by
  by_cases hclosed : ∀ thread ∈ threads, ¬ thread.inWindow
  · exact .inl (h.rest hclosed)
  · push Not at hclosed
    obtain ⟨thread, hmem, hopened, hrunning⟩ := hclosed
    obtain ⟨i, hi⟩ := List.getElem?_of_mem hmem
    obtain ⟨modes, haccounts⟩ := h
    obtain ⟨hwindow, hholds, -⟩ := haccounts.running i thread hi hrunning
    exact .inr ⟨modes i, hwindow.trans hopened, hholds⟩

theorem Sound.nil (hrest : D.Rest s) [Nonempty M] : D.Sound s ([] : List (Thread Q A ε α)) := by
  refine ⟨fun _ => Classical.arbitrary M, ?_, ?_, fun _ => hrest⟩
  · intro i thread hthread
    cases hthread
  · intro i j thread thread' _ hthread
    cases hthread

variable {modes : ℕ → M} {i : ℕ}

/-- Thread `i` alone is new or has moved, to the mode `m'`, and nobody else minds. -/
theorem Accounts.replace (h : D.Accounts modes s threads) {threads' : List (Thread Q A ε α)}
    (i : ℕ) (m' : M) {s' : S} (hsame : ∀ j, j ≠ i → threads'[j]? = threads[j]?)
    (hown : ∀ thread, threads'[i]? = some thread → thread.rest.result? = none →
      D.inWindow m' = thread.opened ∧ D.Holds m' s' ∧ D.Obeys D.Ends m' thread.rest)
    (hothers : ∀ j other, j ≠ i → threads[j]? = some other → other.rest.result? = none →
      D.Holds (modes j) s' ∧ D.Apart m' (modes j) ∧
        ¬ (D.inWindow m' = true ∧ D.inWindow (modes j) = true))
    (hrest : (∀ thread ∈ threads', ¬ thread.inWindow) → D.Rest s') : D.Sound s' threads' := by
  refine ⟨Function.update modes i m', ?_, ?_, hrest⟩
  · intro j other hother hrunning
    by_cases hji : j = i
    · subst hji
      rw [Function.update_self]
      exact hown other hother hrunning
    · rw [hsame j hji] at hother
      obtain ⟨hwindow, -, hobeys⟩ := h.running j other hother hrunning
      rw [Function.update_of_ne hji]
      exact ⟨hwindow, (hothers j other hji hother hrunning).1, hobeys⟩
  · intro j k other other' hjk hother hother' hrunning hrunning'
    by_cases hji : j = i
    · have hki : k ≠ i := fun hki => hjk (hji.trans hki.symm)
      rw [hsame k hki] at hother'
      rw [hji, Function.update_self, Function.update_of_ne hki]
      exact (hothers k other' hki hother' hrunning').2
    · rw [hsame j hji] at hother
      rw [Function.update_of_ne hji]
      by_cases hki : k = i
      · obtain ⟨-, hapart, hnot⟩ := hothers j other hji hother hrunning
        rw [hki, Function.update_self]
        exact ⟨D.apart_symm _ _ hapart, fun hboth => hnot hboth.symm⟩
      · rw [hsame k hki] at hother'
        rw [Function.update_of_ne hki]
        exact h.apart j k other other' hjk hother hother' hrunning hrunning'

/-- A new thread joins in a mode that nobody minds. -/
theorem Sound.start (h : D.Sound s threads) {m : M} {p : Program Q A ε α}
    (hwindow : D.inWindow m = false) (hholds : D.Holds m s) (hapart : ∀ n, D.Apart m n)
    (hobeys : D.Obeys D.Ends m p) : D.Sound s (threads ++ [Thread.start p]) := by
  obtain ⟨modes, haccounts⟩ := h
  refine haccounts.replace threads.length m (fun j hj => ?_) ?_ ?_ ?_
  · rcases Nat.lt_or_gt_of_ne hj with hlt | hgt
    · exact List.getElem?_append_left hlt
    · rw [List.getElem?_eq_none (by simp; omega), List.getElem?_eq_none (by omega)]
  · intro thread hthread _
    rw [List.getElem?_concat_length, Option.some.injEq] at hthread
    subst hthread
    exact ⟨hwindow, hholds, hobeys⟩
  · intro j other _ hother hrunning
    exact ⟨(haccounts.running j other hother hrunning).2.1, hapart _, by simp [hwindow]⟩
  · intro hclosed
    exact haccounts.rest fun thread hmem => hclosed thread (List.mem_append_left _ hmem)

/-- The shared state changes without a step of a thread. -/
theorem Sound.outside (h : D.Sound s threads) {s' : S}
    (hholds : ∀ m, D.Holds m s → D.Holds m s') (hrest : D.Rest s → D.Rest s') :
    D.Sound s' threads := by
  obtain ⟨modes, haccounts⟩ := h
  refine ⟨modes, ?_, haccounts.apart, fun hclosed => hrest (haccounts.rest hclosed)⟩
  intro i thread hthread hrunning
  obtain ⟨hwindow, hs, hobeys⟩ := haccounts.running i thread hthread hrunning
  exact ⟨hwindow, hholds _ hs, hobeys⟩

theorem Accounts.rest_of_others (h : D.Accounts modes s threads)
    {thread : Thread Q A ε α} (hthread : threads[i]? = some thread)
    (hopened : thread.opened = false)
    (hothers : ∀ j other, j ≠ i → threads[j]? = some other → ¬ other.inWindow) :
    D.Rest s := by
  refine h.rest fun other hmem hother => ?_
  obtain ⟨j, hj⟩ := List.getElem?_of_mem hmem
  by_cases hji : j = i
  · rw [hji, hthread, Option.some.injEq] at hj
    exact Bool.false_ne_true (hopened.symm.trans (hj ▸ hother.1))
  · exact hothers j other hji hj hother

/-- The modes after thread `i` moved to `m'`, seen from another running thread. -/
theorem Accounts.others (h : D.Accounts modes s threads) {j : ℕ}
    {thread other : Thread Q A ε α} (hij : j ≠ i) (hthread : threads[i]? = some thread)
    (hother : threads[j]? = some other) (hrunning : thread.rest.result? = none)
    (hrunning' : other.rest.result? = none) {q : Q} {m' : M} {s' : S}
    (htakes : D.Takes (modes i) s q m' s')
    (hserial : sys.opens q = true → ¬ other.inWindow) :
    D.Holds (modes j) s' ∧ D.Apart m' (modes j) ∧
      ¬ (D.inWindow m' = true ∧ D.inWindow (modes j) = true) := by
  obtain ⟨-, hs, -⟩ := h.running i thread hthread hrunning
  obtain ⟨hwindow, hs', -⟩ := h.running j other hother hrunning'
  obtain ⟨hapart, hnot⟩ := h.apart i j thread other hij.symm hthread hother hrunning hrunning'
  have hclosed : ¬ (D.inWindow m' = true ∧ D.inWindow (modes j) = true) := by
    rintro ⟨hopen, hopen'⟩
    rw [htakes.window, Bool.or_eq_true] at hopen
    rcases hopen with hopen | hopens
    · exact hnot ⟨hopen, hopen'⟩
    · exact hserial hopens ⟨hwindow ▸ hopen', hrunning'⟩
  obtain ⟨hholds, hapart'⟩ := D.stable _ _ _ _ _ hs htakes.move htakes.holds hs' hapart hclosed
  exact ⟨hholds, hapart', hclosed⟩

/-- The next query of a thread is answered: the pool stays sound, and a result that
comes out of it is right. -/
theorem Sound.run (h : D.Sound s threads) {thread thread' : Thread Q A ε α} {c : C}
    {s' : S} (hthread : threads[i]? = some thread)
    (hstep : thread.step sys c s = some (thread', s'))
    (hpermits : ∀ q, thread.next? = some q → D.Permits thread.opened q c)
    (hserial : ∀ q, thread.next? = some q → sys.opens q = true →
      ∀ j other, j ≠ i → threads[j]? = some other → ¬ other.inWindow) :
    D.Sound s' (threads.set i thread') ∧ ∀ r, thread'.rest.result? = some r → D.Final r s' := by
  obtain ⟨modes, haccounts⟩ := h
  obtain ⟨opened, rest⟩ := thread
  cases rest with
  | done value | fail error => cases hstep
  | query q next =>
  cases hstep
  obtain ⟨hwindow, hs, hobeys⟩ := haccounts.running i _ hthread rfl
  have hlt : i < threads.length := (List.getElem?_eq_some_iff.mp hthread).1
  have hserial := hserial q rfl
  -- A thread that opens a window finds the state at rest.
  have hrest : sys.opens q = true → D.inWindow (modes i) = false → D.Rest s := by
    intro hopens hclosed
    exact haccounts.rest_of_others hthread (hwindow ▸ hclosed) (hserial hopens)
  obtain ⟨m', htakes, hnext⟩ :=
    hobeys.query hs (hwindow ▸ hpermits q rfl) hrest
  have hends : ∀ r, (next (sys.exec c s q).1).result? = some r → D.Ends m' r := by
    intro r hr
    exact hnext.result hr
  refine ⟨haccounts.replace i m' (fun j hji => List.getElem?_set_ne hji.symm) ?_ ?_ ?_, ?_⟩
  · intro other hother _
    rw [List.getElem?_set_self hlt, Option.some.injEq] at hother
    subst hother
    exact ⟨htakes.window.trans (by rw [hwindow]), htakes.holds, hnext⟩
  · intro j other hji hother hrunning
    exact haccounts.others hji hthread hother rfl hrunning htakes
      fun hopens => hserial hopens j other hji hother
  · intro hclosed
    have hclosed' := hclosed _ (List.mem_set hlt _)
    by_cases hopen : D.inWindow m' = true
    · -- The window was closed by the end of the program.
      cases hr : (next (sys.exec c s q).1).result? with
      | none =>
        refine absurd ⟨?_, hr⟩ hclosed'
        rw [← hwindow, ← htakes.window]
        exact hopen
      | some r => exact (hends r hr _ htakes.holds).2 hopen
    · rw [Bool.not_eq_true] at hopen
      refine htakes.rest hopen (haccounts.rest_of_others hthread ?_ ?_)
      · rw [htakes.window, hwindow, Bool.or_eq_false_iff] at hopen
        exact hopen.1
      · intro j other hji hj
        refine hclosed other ?_
        exact List.mem_of_getElem? ((List.getElem?_set_ne (Ne.symm hji)).trans hj)
  · intro r hr
    exact (hends r hr _ htakes.holds).1

end Pool

end Discipline

end Library
