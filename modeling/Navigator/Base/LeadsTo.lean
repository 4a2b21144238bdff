/-
Infinite runs of a step machine and what eventually comes about along them: a
condition leads to another one if, whenever the first holds, the second holds
then or later.
-/
import Mathlib.Data.Nat.Basic
import Mathlib.Order.Basic
import Mathlib.Order.WellFounded
import Navigator.Base.Machine

namespace ControlLoop

variable {σ ι : Type}

namespace Machine

/-- An infinite run whose steps all meet `ok`.  At each moment one step is taken
or none. -/
structure Run (M : Machine σ ι) (ok : σ → ι → Prop) where
  state : Nat → σ
  event : Nat → Option ι
  start : M.init (state 0)
  meets : ∀ n, ∀ e ∈ event n, ok (state n) e
  steps : ∀ n, (event n).elim (some (state n)) (M.step (state n)) = some (state (n + 1))

namespace Run

variable {M : Machine σ ι} {ok : σ → ι → Prop} (run : M.Run ok)

theorem step_of_event {n : Nat} {e : ι} (h : run.event n = some e) :
    M.step (run.state n) e = some (run.state (n + 1)) := by
  have hsteps := run.steps n
  rwa [h] at hsteps

theorem state_of_none {n : Nat} (h : run.event n = none) :
    run.state (n + 1) = run.state n := by
  have hsteps := run.steps n
  rw [h] at hsteps
  exact (Option.some.inj hsteps).symm

theorem reachable (n : Nat) : M.Reachable ok (run.state n) := by
  induction n with
  | zero => exact .start run.start
  | succ n ih =>
      by_cases hevent : run.event n = none
      · rw [run.state_of_none hevent]
        exact ih
      · obtain ⟨e, he⟩ := Option.ne_none_iff_exists'.mp hevent
        exact .next ih (run.meets n e he) (run.step_of_event he)

/-- The steps of the machine keep the condition or end it in the second one. -/
def Unless (M : Machine σ ι) (ok : σ → ι → Prop) (P Q : σ → Prop) : Prop :=
  ∀ state event next, M.Reachable ok state → P state → ok state event →
    M.step state event = some next → P next ∨ Q next

/-- A condition that lasts until the second one comes about still holds at any
later moment, unless the second came about in between. -/
theorem holds_or_exists {P Q : σ → Prop} (hunless : Unless M ok P Q) {n m : Nat} (hnm : n ≤ m)
    (hP : P (run.state n)) :
    P (run.state m) ∨ ∃ k, n ≤ k ∧ k ≤ m ∧ Q (run.state k) := by
  induction m, hnm using Nat.le_induction with
  | base => exact .inl hP
  | succ m hnm ih =>
      rcases ih with hm | ⟨k, hnk, hkm, hk⟩
      · by_cases hevent : run.event m = none
        · rw [run.state_of_none hevent]
          exact .inl hm
        · obtain ⟨e, he⟩ := Option.ne_none_iff_exists'.mp hevent
          rcases hunless _ e _ (run.reachable m) hm (run.meets m e he) (run.step_of_event he) with
            hnext | hnext
          · exact .inl hnext
          · exact .inr ⟨m + 1, by omega, le_refl _, hnext⟩
      · exact .inr ⟨k, hnk, by omega, hk⟩

/-- What ceases to hold does so in one of the steps. -/
theorem exists_event_of_not {P : σ → Prop} {n m : Nat} (hnm : n ≤ m) (hP : P (run.state n))
    (hnot : ¬ P (run.state m)) :
    ∃ k e, n ≤ k ∧ k < m ∧ run.event k = some e ∧ P (run.state k) ∧
      ¬ P (run.state (k + 1)) := by
  induction m, hnm using Nat.le_induction with
  | base => exact absurd hP hnot
  | succ m hnm ih =>
      by_cases hm : P (run.state m)
      · by_cases hevent : run.event m = none
        · rw [run.state_of_none hevent] at hnot
          exact absurd hm hnot
        · obtain ⟨e, he⟩ := Option.ne_none_iff_exists'.mp hevent
          exact ⟨m, e, hnm, by omega, he, hm, hnot⟩
      · obtain ⟨k, e, hnk, hkm, hrest⟩ := ih hm
        exact ⟨k, e, hnk, by omega, hrest⟩

/-- What no step brings up is the same from some moment on. -/
theorem exists_constant (measure : σ → Nat)
    (hstep : ∀ state event next, M.Reachable ok state → ok state event →
      M.step state event = some next → measure next ≤ measure state) :
    ∃ n, ∀ m, n ≤ m → measure (run.state m) = measure (run.state n) := by
  have hmono : ∀ n m, n ≤ m → measure (run.state m) ≤ measure (run.state n) := by
    intro n m hnm
    have hunless : Unless M ok (fun state => measure state ≤ measure (run.state n))
        fun _ => False := by
      intro state event next hreach hle hok hnext
      exact .inl ((hstep state event next hreach hok hnext).trans hle)
    exact (run.holds_or_exists hunless hnm le_rfl).resolve_right
      fun ⟨_, _, _, hfalse⟩ => hfalse
  -- from a moment at which it is least on
  have hleast := Function.argmin_le fun n => measure (run.state n)
  exact ⟨_, fun m hm => le_antisymm (hmono _ m hm) (hleast m)⟩

/-- Whenever the first condition holds, the second one holds then or later. -/
def LeadsTo (P Q : σ → Prop) : Prop :=
  ∀ n, P (run.state n) → ∃ m, n ≤ m ∧ Q (run.state m)

variable {run}

theorem LeadsTo.of_imp {P Q : σ → Prop} (h : ∀ state, P state → Q state) : run.LeadsTo P Q :=
  fun n hP => ⟨n, le_refl n, h _ hP⟩

theorem LeadsTo.trans {P Q R : σ → Prop} (hPQ : run.LeadsTo P Q) (hQR : run.LeadsTo Q R) :
    run.LeadsTo P R := by
  intro n hP
  obtain ⟨m, hnm, hQ⟩ := hPQ n hP
  obtain ⟨k, hmk, hR⟩ := hQR m hQ
  exact ⟨k, hnm.trans hmk, hR⟩

theorem LeadsTo.or {P Q R : σ → Prop} (hP : run.LeadsTo P R) (hQ : run.LeadsTo Q R) :
    run.LeadsTo (fun state => P state ∨ Q state) R :=
  fun n h => h.elim (hP n) (hQ n)

theorem LeadsTo.exists {α : Type} {P : α → σ → Prop} {Q : σ → Prop}
    (h : ∀ a, run.LeadsTo (P a) Q) : run.LeadsTo (fun state => ∃ a, P a state) Q :=
  fun n ⟨a, hP⟩ => h a n hP

/-- An invariant of the reachable states may be used in the first condition. -/
theorem LeadsTo.of_invariant {P Q : σ → Prop} {Inv : σ → Prop}
    (hinv : ∀ state, M.Reachable ok state → Inv state)
    (h : run.LeadsTo (fun state => Inv state ∧ P state) Q) : run.LeadsTo P Q :=
  fun n hP => h n ⟨hinv _ (run.reachable n), hP⟩

/-- The rule for one helpful step: the first condition lasts until the second
comes about, and if it lasts until some later moment, the second comes about. -/
theorem LeadsTo.of_unless {P Q : σ → Prop} (hunless : Unless M ok P Q)
    (hends : ∀ n, P (run.state n) →
      ∃ m, n ≤ m ∧ (P (run.state m) → ∃ k, n ≤ k ∧ Q (run.state k))) :
    run.LeadsTo P Q := by
  intro n hP
  obtain ⟨m, hnm, hm⟩ := hends n hP
  rcases run.holds_or_exists hunless hnm hP with hPm | ⟨k, hnk, _, hQ⟩
  · exact hm hPm
  · exact ⟨k, hnk, hQ⟩

/-- The helpful step is the one that is taken at some later moment. -/
theorem LeadsTo.of_event {P Q : σ → Prop} (hunless : Unless M ok P Q)
    (hevent : ∀ n, P (run.state n) → ∃ m e, n ≤ m ∧ run.event m = some e ∧
      ∀ next, P (run.state m) → M.step (run.state m) e = some next → Q next) :
    run.LeadsTo P Q := by
  refine .of_unless hunless fun n hP => ?_
  obtain ⟨m, e, hnm, he, hhelpful⟩ := hevent n hP
  exact ⟨m, hnm, fun hPm => ⟨m + 1, by omega, hhelpful _ hPm (run.step_of_event he)⟩⟩

/-- The rule of the measure: what comes about or else brings the measure down
comes about. -/
theorem LeadsTo.of_measure {P Q : σ → Prop} (measure : σ → Nat)
    (h : ∀ bound, run.LeadsTo (fun state => P state ∧ measure state = bound)
      (fun state => Q state ∨ P state ∧ measure state < bound)) : run.LeadsTo P Q := by
  have hmeasure : ∀ bound n, P (run.state n) → measure (run.state n) = bound →
      ∃ m, n ≤ m ∧ Q (run.state m) := by
    intro bound
    induction bound using Nat.strong_induction_on with
    | _ bound ih =>
        intro n hP hbound
        obtain ⟨m, hnm, hQ | ⟨hPm, hless⟩⟩ := h bound n ⟨hP, hbound⟩
        · exact ⟨m, hnm, hQ⟩
        · obtain ⟨k, hmk, hQ⟩ := ih _ hless m hPm rfl
          exact ⟨k, hnm.trans hmk, hQ⟩
  exact fun n hP => hmeasure _ n hP rfl

end Run

end Machine

end ControlLoop
