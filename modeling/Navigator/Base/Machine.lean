/-
Step machines given by a partial step function: executable runs, the states
reachable by steps that all meet a condition, and the invariant rule.
-/
import Mathlib.Data.List.Basic

namespace ControlLoop

variable {σ ι : Type}

/-- A machine: its initial states and what each kind of step does, where
`none` says that the step is not enabled. -/
structure Machine (σ ι : Type) where
  init : σ → Prop
  step : σ → ι → Option σ

namespace Machine

/-- Take the steps of a list one after the other. -/
def exec (M : Machine σ ι) : σ → List ι → Option σ
  | state, [] => some state
  | state, event :: events => (M.step state event).bind fun next => M.exec next events

/-- The states reached from an initial one by steps that all meet `ok`, a
condition on the state before the step and on the step. -/
inductive Reachable (M : Machine σ ι) (ok : σ → ι → Prop) : σ → Prop where
  | start {state : σ} : M.init state → Reachable M ok state
  | next {state state' : σ} {event : ι} : Reachable M ok state → ok state event →
      M.step state event = some state' → Reachable M ok state'

/-- No condition on the steps. -/
abbrev anyStep : σ → ι → Prop := fun _ _ => True

/-- The invariant rule: what holds initially and is preserved by every step
that meets the condition holds in every state reached. -/
theorem Reachable.invariant {M : Machine σ ι} {ok : σ → ι → Prop} (Inv : σ → Prop)
    (hinit : ∀ state, M.init state → Inv state)
    (hstep : ∀ state event state', Inv state → ok state event →
      M.step state event = some state' → Inv state')
    {state : σ} (hreach : M.Reachable ok state) : Inv state := by
  induction hreach with
  | start h => exact hinit _ h
  | next _ hok h ih => exact hstep _ _ _ ih hok h

/-- Every step of the run meets the condition, as far as the run is enabled. -/
def Meets (M : Machine σ ι) (ok : σ → ι → Prop) : σ → List ι → Prop
  | _, [] => True
  | state, event :: events =>
      ok state event ∧ ∀ next ∈ M.step state event, M.Meets ok next events

instance decidableMeets (M : Machine σ ι) (ok : σ → ι → Prop)
    [∀ state event, Decidable (ok state event)] :
    (state : σ) → (events : List ι) → Decidable (M.Meets ok state events)
  | _, [] => isTrue trivial
  | state, event :: events =>
      have : ∀ next, Decidable (M.Meets ok next events) :=
        fun next => decidableMeets M ok next events
      inferInstanceAs (Decidable (ok state event ∧
        ∀ next ∈ M.step state event, M.Meets ok next events))

theorem meets_anyStep (M : Machine σ ι) (state : σ) (events : List ι) :
    M.Meets anyStep state events := by
  induction events generalizing state with
  | nil => trivial
  | cons event events ih => exact ⟨trivial, fun next _ => ih next⟩

theorem meets_of_forall (M : Machine σ ι) {P : ι → Prop} {events : List ι}
    (h : ∀ event ∈ events, P event) (state : σ) :
    M.Meets (fun _ event => P event) state events := by
  induction events generalizing state with
  | nil => trivial
  | cons event events ih =>
      rw [List.forall_mem_cons] at h
      exact ⟨h.1, fun next _ => ih h.2 next⟩

theorem Meets.and {M : Machine σ ι} {ok ok' : σ → ι → Prop} {state : σ} {events : List ι}
    (h : M.Meets ok state events) (h' : M.Meets ok' state events) :
    M.Meets (fun state event => ok state event ∧ ok' state event) state events := by
  induction events generalizing state with
  | nil => trivial
  | cons event events ih =>
      exact ⟨⟨h.1, h'.1⟩, fun next hnext => ih (h.2 next hnext) (h'.2 next hnext)⟩

/-- The invariant rule along an executable run. -/
theorem exec_invariant {M : Machine σ ι} {ok : σ → ι → Prop} (Inv : σ → Prop)
    (hstep : ∀ state event state', Inv state → ok state event →
      M.step state event = some state' → Inv state')
    {state last : σ} {events : List ι} (hstate : Inv state) (hmeets : M.Meets ok state events)
    (hexec : M.exec state events = some last) : Inv last := by
  induction events generalizing state with
  | nil =>
      simp only [exec, Option.some.injEq] at hexec
      exact hexec ▸ hstate
  | cons event events ih =>
      obtain ⟨next, hnext, hrest⟩ := Option.bind_eq_some_iff.mp hexec
      exact ih (hstep _ _ _ hstate hmeets.1 hnext) (hmeets.2 next hnext) hrest

/-- What does not hold at the start of a run and holds at its end comes about in
one of its steps. -/
theorem exists_step_of_exec {M : Machine σ ι} {ok : σ → ι → Prop} (P : σ → Prop) {state last : σ}
    {events : List ι} (hmeets : M.Meets ok state events) (hexec : M.exec state events = some last)
    (hstart : ¬ P state) (hend : P last) :
    ∃ before event after mid next, events = before ++ event :: after ∧
      M.exec state before = some mid ∧ ok mid event ∧ M.step mid event = some next ∧
      ¬ P mid ∧ P next := by
  induction events generalizing state with
  | nil =>
      simp only [exec, Option.some.injEq] at hexec
      exact absurd (hexec ▸ hend) hstart
  | cons event events ih =>
      obtain ⟨next, hnext, hrest⟩ := Option.bind_eq_some_iff.mp hexec
      by_cases hnow : P next
      · exact ⟨[], event, events, state, next, rfl, rfl, hmeets.1, hnext, hstart, hnow⟩
      · obtain ⟨before, event', after, mid, next', hsplit, hbefore, hstep⟩ :=
          ih (hmeets.2 next hnext) hrest hnow
        refine ⟨event :: before, event', after, mid, next', ?_, ?_, hstep⟩
        · rw [hsplit, List.cons_append]
        · simp only [exec, hnext, Option.bind_some, hbefore]

theorem Reachable.of_exec {M : Machine σ ι} {ok : σ → ι → Prop} {state : σ}
    (hstate : M.Reachable ok state) {events : List ι} {last : σ}
    (hmeets : M.Meets ok state events) (hexec : M.exec state events = some last) :
    M.Reachable ok last :=
  exec_invariant (M.Reachable ok) (fun _ _ _ => .next) hstate hmeets hexec

/-- The last state of an executable run that is enabled throughout. -/
theorem Reachable.getD_exec {M : Machine σ ι} {ok : σ → ι → Prop} {state : σ}
    (hstate : M.Reachable ok state) {events : List ι} (hmeets : M.Meets ok state events)
    (henabled : (M.exec state events).isSome = true) :
    M.Reachable ok ((M.exec state events).getD state) := by
  obtain ⟨last, hlast⟩ := Option.isSome_iff_exists.mp henabled
  rw [hlast]
  exact hstate.of_exec hmeets hlast

end Machine

end ControlLoop
