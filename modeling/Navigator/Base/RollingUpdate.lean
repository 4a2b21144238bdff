/-
A fleet of numbered pods under a partitioned rolling update.  The controller
replaces the outdated pods at or above the partition, highest ordinal first,
and starts missing pods; each pod reports what its revision is labelled with.
The rollout is serial when the pods above one that was touched have all been
replaced and have all reported.
-/
import Mathlib.Data.List.Basic
import Mathlib.Logic.Function.Basic
import Mathlib.Tactic

namespace ControlLoop

namespace RollingUpdate

variable {R V : Type}

/-- What the controller is told: how many pods, which revision, and from which
ordinal on it applies. -/
structure Plan (R : Type) where
  replicas : Nat
  template : R
  partition : Int
deriving DecidableEq

structure Replica (R : Type) where
  revision : R
  ready : Bool
deriving DecidableEq

/-- The pods by ordinal, what each reported last, the revision of the pods below
the partition, and which pods were replaced and have not been ready since. -/
structure Fleet (R V : Type) where
  current : Option R := none
  pods : Nat → Option (Replica R) := fun _ => none
  reported : Nat → Option V := fun _ => none
  restarting : Nat → Bool := fun _ => false

inductive Step where
  | adopt
  | start (i : Nat)
  | replace (i : Nat)
  | ready (i : Nat) (isReady : Bool)
  | report (i : Nat)
  | complete
deriving DecidableEq

/-- Pod `i` runs the revision. -/
def Runs (fleet : Fleet R V) (revision : R) (i : Nat) : Prop :=
  ∃ r ∈ fleet.pods i, r.revision = revision

/-- The last report of pod `i` satisfies `P`. -/
def Reports (P : V → Prop) (fleet : Fleet R V) (i : Nat) : Prop :=
  ∃ v ∈ fleet.reported i, P v

/-- Pod `i` has to be replaced. -/
def Outdated (plan : Plan R) (fleet : Fleet R V) (i : Nat) : Prop :=
  ∃ r ∈ fleet.pods i, r.revision ≠ plan.template

/-- All pods run the template and are ready. -/
def Complete (plan : Plan R) (fleet : Fleet R V) : Prop :=
  ∀ i < plan.replicas, ∃ r ∈ fleet.pods i, r.revision = plan.template ∧ r.ready = true

section Decidable

variable [DecidableEq R]

instance (fleet : Fleet R V) (revision : R) (i : Nat) : Decidable (Runs fleet revision i) :=
  inferInstanceAs (Decidable (∃ r ∈ fleet.pods i, r.revision = revision))

instance (P : V → Prop) [DecidablePred P] (fleet : Fleet R V) (i : Nat) :
    Decidable (Reports P fleet i) :=
  inferInstanceAs (Decidable (∃ v ∈ fleet.reported i, P v))

instance (plan : Plan R) (fleet : Fleet R V) (i : Nat) : Decidable (Outdated plan fleet i) :=
  inferInstanceAs (Decidable (∃ r ∈ fleet.pods i, r.revision ≠ plan.template))

instance (plan : Plan R) (fleet : Fleet R V) : Decidable (Complete plan fleet) :=
  inferInstanceAs (Decidable (∀ i < plan.replicas, ∃ r ∈ fleet.pods i,
    r.revision = plan.template ∧ r.ready = true))

end Decidable

/-- The revision of a pod that is started. -/
def startRevision (plan : Plan R) (current : R) (i : Nat) : R :=
  if plan.partition ≤ i then plan.template else current

/-- One step of the controller or of a pod, if it is enabled. -/
def Fleet.step [DecidableEq R] (label : R → V) (plan : Plan R) (fleet : Fleet R V) :
    Step → Option (Fleet R V)
  | .adopt =>
      if fleet.current = none then some { fleet with current := some plan.template } else none
  | .start i =>
      fleet.current.bind fun current =>
        if i < plan.replicas ∧ fleet.pods i = none then
          some { fleet with
            pods := Function.update fleet.pods i
              (some ⟨startRevision plan current i, false⟩) }
        else none
  | .replace i =>
      if plan.partition ≤ i ∧ i < plan.replicas ∧ Outdated plan fleet i ∧
          ∀ j < plan.replicas, i < j → ¬ Outdated plan fleet j then
        some { fleet with
          pods := Function.update fleet.pods i none
          restarting := Function.update fleet.restarting i true }
      else none
  | .ready i isReady =>
      (fleet.pods i).map fun r =>
        { fleet with
          pods := Function.update fleet.pods i (some { r with ready := isReady })
          restarting := Function.update fleet.restarting i
            (fleet.restarting i && !isReady) }
  | .report i =>
      (fleet.pods i).map fun r =>
        { fleet with reported := Function.update fleet.reported i (some (label r.revision)) }
  | .complete =>
      if Complete plan fleet then some { fleet with current := some plan.template } else none

/-- What a step can do. -/
inductive Fleet.Move (label : R → V) (plan : Plan R) (fleet : Fleet R V) :
    Step → Fleet R V → Prop where
  | adopt (fresh : fleet.current = none) :
      Move label plan fleet .adopt { fleet with current := some plan.template }
  | start {i : Nat} {current : R} (known : fleet.current = some current)
      (bound : i < plan.replicas) (missing : fleet.pods i = none) :
      Move label plan fleet (.start i)
        { fleet with
          pods := Function.update fleet.pods i
            (some ⟨startRevision plan current i, false⟩) }
  | replace {i : Nat} (from_partition : plan.partition ≤ i) (bound : i < plan.replicas)
      (outdated : Outdated plan fleet i)
      (highest : ∀ j < plan.replicas, i < j → ¬ Outdated plan fleet j) :
      Move label plan fleet (.replace i)
        { fleet with
          pods := Function.update fleet.pods i none
          restarting := Function.update fleet.restarting i true }
  | ready {i : Nat} {isReady : Bool} {r : Replica R} (running : fleet.pods i = some r) :
      Move label plan fleet (.ready i isReady)
        { fleet with
          pods := Function.update fleet.pods i (some { r with ready := isReady })
          restarting := Function.update fleet.restarting i (fleet.restarting i && !isReady) }
  | report {i : Nat} {r : Replica R} (running : fleet.pods i = some r) :
      Move label plan fleet (.report i)
        { fleet with reported := Function.update fleet.reported i (some (label r.revision)) }
  | complete (all : Complete plan fleet) :
      Move label plan fleet .complete { fleet with current := some plan.template }

theorem Fleet.move_of_step [DecidableEq R] {label : R → V} {plan : Plan R}
    {fleet fleet' : Fleet R V} {step : Step} (h : fleet.step label plan step = some fleet') :
    fleet.Move label plan step fleet' := by
  cases step with
  | adopt =>
      simp only [Fleet.step, Option.ite_none_right_eq_some, Option.some.injEq] at h
      exact h.2 ▸ .adopt h.1
  | start i =>
      simp only [Fleet.step, Option.bind_eq_some_iff, Option.ite_none_right_eq_some,
        Option.some.injEq] at h
      obtain ⟨current, hcurrent, ⟨hbound, hmissing⟩, rfl⟩ := h
      exact .start hcurrent hbound hmissing
  | replace i =>
      simp only [Fleet.step, Option.ite_none_right_eq_some, Option.some.injEq] at h
      obtain ⟨⟨hpartition, hbound, houtdated, hhighest⟩, rfl⟩ := h
      exact .replace hpartition hbound houtdated hhighest
  | ready i isReady =>
      simp only [Fleet.step, Option.map_eq_some_iff] at h
      obtain ⟨r, hr, rfl⟩ := h
      exact .ready hr
  | report i =>
      simp only [Fleet.step, Option.map_eq_some_iff] at h
      obtain ⟨r, hr, rfl⟩ := h
      exact .report hr
  | complete =>
      simp only [Fleet.step, Option.ite_none_right_eq_some, Option.some.injEq] at h
      exact h.2 ▸ .complete h.1

section Update

variable {fleet : Fleet R V} {revision : R} {i j : Nat}

/-- Which pods run a revision after pod `i` was written. -/
theorem runs_update_pods {pod : Option (Replica R)} {restarting : Nat → Bool} :
    Runs { fleet with
        pods := Function.update fleet.pods i pod
        restarting := restarting } revision j ↔
      if j = i then ∃ r ∈ pod, r.revision = revision else Runs fleet revision j := by
  by_cases hj : j = i
  · subst hj
    simp [Runs]
  · simp [Runs, hj]

theorem reports_update_reported {P : V → Prop} {report : Option V} :
    Reports P { fleet with reported := Function.update fleet.reported i report } j ↔
      if j = i then ∃ v ∈ report, P v else Reports P fleet j := by
  by_cases hj : j = i
  · subst hj
    simp [Reports]
  · simp [Reports, hj]

end Update

section Serial

variable {label : R → V} {P : V → Prop} {old new : R} {plan : Plan R} {fleet fleet' : Fleet R V}

/-- Pod `i` runs the new revision and has said so. -/
def Done (P : V → Prop) (new : R) (fleet : Fleet R V) (i : Nat) : Prop :=
  Runs fleet new i ∧ Reports P fleet i

/-- The invariant of a rollout from `old` to `new` that takes one pod at a time;
`P` says of a report that it is of the new revision. -/
structure Serial (P : V → Prop) (old new : R) (plan : Plan R) (fleet : Fleet R V) : Prop where
  template : plan.template = old ∨ plan.template = new
  revisions : ∀ i, ∀ r ∈ fleet.pods i, r.revision = old ∨ r.revision = new
  reported : ∀ i, Reports P fleet i → Runs fleet new i
  above : ∀ i, Runs fleet new i → ∀ j, i < j → j < plan.replicas → Done P new fleet j
  partition : plan.template = new → ∀ j : Nat, plan.partition < j → j < plan.replicas →
    Done P new fleet j
  untouched : plan.template = old → ∀ i, ¬ Runs fleet new i
  current : fleet.current = some old ∨
    fleet.current = some new ∧ ∀ i < plan.replicas, Runs fleet new i

/-- A pod that runs the new revision is never replaced. -/
theorem Serial.not_outdated (h : Serial P old new plan fleet) {i : Nat}
    (hruns : Runs fleet new i) : ¬ Outdated plan fleet i := by
  rintro ⟨r, hr, houtdated⟩
  obtain ⟨r', hr', hnew⟩ := hruns
  have hsame : r = r' := Option.some.inj (hr.symm.trans hr')
  rcases h.template with hold | hnewTemplate
  · exact h.untouched hold i ⟨r', hr', hnew⟩
  · exact houtdated (by rw [hsame, hnew, hnewTemplate])

/-- A step that keeps what is done, and takes a pod to the new revision only
above the partition, keeps the rollout serial. -/
theorem Serial.of_change (h : Serial P old new plan fleet)
    (hrevisions : ∀ i, ∀ r ∈ fleet'.pods i, r.revision = old ∨ r.revision = new)
    (hreported : ∀ i, Reports P fleet' i → Runs fleet' new i)
    (hdone : ∀ i, Done P new fleet i → Done P new fleet' i)
    (hruns : ∀ i, Runs fleet' new i →
      Runs fleet new i ∨ plan.template = new ∧ plan.partition ≤ i)
    (hcurrent : fleet'.current = some old ∨
      fleet'.current = some new ∧ ∀ i < plan.replicas, Runs fleet' new i)
    (hne : old ≠ new) : Serial P old new plan fleet' := by
  refine ⟨h.template, hrevisions, hreported, ?_, ?_, ?_, hcurrent⟩
  · intro i hi j hij hj
    apply hdone
    rcases hruns i hi with hi | ⟨hnew, hpartition⟩
    · exact h.above i hi j hij hj
    · exact h.partition hnew j (by omega) hj
  · intro hnew j hpartition hj
    exact hdone j (h.partition hnew j hpartition hj)
  · intro hold i hi
    rcases hruns i hi with hi | ⟨hnew, _⟩
    · exact h.untouched hold i hi
    · exact hne (hold.symm.trans hnew)

/-- Writing a pod that did not run the new revision: it may come to run it from
the partition on only. -/
theorem Serial.of_pod (h : Serial P old new plan fleet) (hne : old ≠ new) {i : Nat}
    {pod : Option (Replica R)} {restarting : Nat → Bool} (hbefore : ¬ Runs fleet new i)
    (hpod : ∀ r ∈ pod, r.revision = old ∨
      r.revision = new ∧ plan.template = new ∧ plan.partition ≤ i)
    (hcurrent : fleet.current = some old) :
    Serial P old new plan { fleet with
      pods := Function.update fleet.pods i pod
      restarting := restarting } := by
  have hkept : ∀ j, Runs fleet new j → Runs { fleet with
      pods := Function.update fleet.pods i pod
      restarting := restarting } new j := by
    intro j hj
    have hji : j ≠ i := fun heq => hbefore (heq ▸ hj)
    exact runs_update_pods.mpr (by rwa [if_neg hji])
  refine h.of_change ?_ ?_ ?_ ?_ (Or.inl hcurrent) hne
  · intro j r hr
    by_cases hj : j = i
    · subst hj
      simp only [Function.update_self] at hr
      rcases hpod r hr with hold | ⟨hnew, _⟩
      · exact Or.inl hold
      · exact Or.inr hnew
    · simp only [Function.update_of_ne hj] at hr
      exact h.revisions j r hr
  · exact fun j hj => hkept j (h.reported j hj)
  · exact fun j hj => ⟨hkept j hj.1, hj.2⟩
  · intro j hj
    have hj := runs_update_pods.mp hj
    by_cases hji : j = i
    · rw [if_pos hji] at hj
      obtain ⟨r, hr, hrevision⟩ := hj
      rcases hpod r hr with hold | ⟨_, htemplate, hpartition⟩
      · exact absurd (hold.symm.trans hrevision) hne
      · exact Or.inr ⟨htemplate, hji ▸ hpartition⟩
    · rw [if_neg hji] at hj
      exact Or.inl hj

/-- Every step of the controller and of the pods keeps a rollout serial. -/
theorem Serial.move (h : Serial P old new plan fleet) (hold : ¬ P (label old))
    (hnew : P (label new)) {step : Step} (hmove : fleet.Move label plan step fleet') :
    Serial P old new plan fleet' := by
  have hne : old ≠ new := fun heq => hold (heq ▸ hnew)
  cases hmove with
  | adopt hfresh =>
      rcases h.current with hcurrent | ⟨hcurrent, _⟩
      · rw [hfresh] at hcurrent
        cases hcurrent
      · rw [hfresh] at hcurrent
        cases hcurrent
  | @start i current hcurrent hbound hmissing =>
      have hbefore : ¬ Runs fleet new i := by
        rintro ⟨r, hr, _⟩
        rw [hmissing] at hr
        cases hr
      -- with every pod on the new revision none would be missing
      have hcurrentOld : fleet.current = some old :=
        h.current.resolve_right fun hall => hbefore (hall.2 i hbound)
      refine h.of_pod hne hbefore ?_ hcurrentOld
      intro r hr
      simp only [Option.mem_some_iff] at hr
      subst hr
      simp only [startRevision]
      by_cases hpartition : plan.partition ≤ i
      · rw [if_pos hpartition]
        rcases h.template with htemplate | htemplate
        · exact Or.inl htemplate
        · exact Or.inr ⟨htemplate, htemplate, hpartition⟩
      · rw [if_neg hpartition]
        exact Or.inl (Option.some.inj (hcurrent.symm.trans hcurrentOld))
  | @replace i hpartition hbound houtdated hhighest =>
      have hbefore : ¬ Runs fleet new i := fun hruns => h.not_outdated hruns houtdated
      refine h.of_pod hne hbefore ?_ ?_
      · intro r hr
        cases hr
      · exact h.current.resolve_right fun hall => hbefore (hall.2 i hbound)
  | @ready i isReady r hr =>
      have hsame : ∀ revision j, Runs { fleet with
          pods := Function.update fleet.pods i (some { r with ready := isReady })
          restarting := Function.update fleet.restarting i
            (fleet.restarting i && !isReady) } revision j ↔ Runs fleet revision j := by
        intro revision j
        rw [runs_update_pods]
        by_cases hj : j = i
        · subst hj
          simp [Runs, hr]
        · rw [if_neg hj]
      refine h.of_change ?_ ?_ ?_ ?_ ?_ hne
      · intro j other hother
        by_cases hj : j = i
        · subst hj
          simp only [Function.update_self, Option.mem_some_iff] at hother
          subst hother
          exact h.revisions j r hr
        · simp only [Function.update_of_ne hj] at hother
          exact h.revisions j other hother
      · exact fun j hj => (hsame new j).mpr (h.reported j hj)
      · exact fun j hj => ⟨(hsame new j).mpr hj.1, hj.2⟩
      · exact fun j hj => Or.inl ((hsame new j).mp hj)
      · rcases h.current with hcurrent | ⟨hcurrent, hall⟩
        · exact Or.inl hcurrent
        · exact Or.inr ⟨hcurrent, fun j hj => (hsame new j).mpr (hall j hj)⟩
  | @report i r hr =>
      refine h.of_change h.revisions ?_ ?_ (fun j hj => Or.inl hj) h.current hne
      · intro j hj
        have hj := reports_update_reported.mp hj
        by_cases hji : j = i
        · rw [if_pos hji] at hj
          obtain ⟨v, hv, hP⟩ := hj
          simp only [Option.mem_some_iff] at hv
          subst hv hji
          rcases h.revisions j r hr with hrevision | hrevision
          · rw [hrevision] at hP
            exact absurd hP hold
          · exact ⟨r, hr, hrevision⟩
        · rw [if_neg hji] at hj
          exact h.reported j hj
      · rintro j ⟨hruns, hreports⟩
        refine ⟨hruns, reports_update_reported.mpr ?_⟩
        by_cases hji : j = i
        · rw [if_pos hji]
          subst hji
          obtain ⟨r', hr', hrevision⟩ := hruns
          have hsame : r = r' := Option.some.inj (hr.symm.trans hr')
          exact ⟨label r.revision, rfl, by rwa [hsame, hrevision]⟩
        · rwa [if_neg hji]
  | complete hall =>
      refine h.of_change h.revisions h.reported (fun _ hj => hj) (fun j hj => Or.inl hj) ?_ hne
      rcases h.template with htemplate | htemplate
      · exact Or.inl (congrArg some htemplate)
      · refine Or.inr ⟨congrArg some htemplate, ?_⟩
        intro i hi
        obtain ⟨r, hr, hrevision, _⟩ := hall i hi
        exact ⟨r, hr, hrevision.trans htemplate⟩

/-- A new partition keeps the rollout serial when the pod above it has reported. -/
theorem Serial.advance (h : Serial P old new plan fleet) (hne : old ≠ new) {partition : Nat}
    (hlast : partition + 1 < plan.replicas → Reports P fleet (partition + 1)) :
    Serial P old new { plan with template := new, partition := partition } fleet := by
  refine ⟨Or.inr rfl, h.revisions, h.reported, h.above, ?_, ?_, h.current⟩
  · intro _ j hpartition hj
    change (partition : Int) < j at hpartition
    have hpartition : partition < j := Int.ofNat_lt.mp hpartition
    have hreports := hlast (lt_of_le_of_lt hpartition hj)
    have hruns := h.reported _ hreports
    by_cases hnext : j = partition + 1
    · exact hnext ▸ ⟨hruns, hreports⟩
    · exact h.above _ hruns j (by omega) hj
  · exact fun heq => absurd heq.symm hne

end Serial

section Steady

variable {label : R → V} {P Q : V → Prop} {old new revision : R} {plan : Plan R}
  {fleet fleet' : Fleet R V}

/-- What holds of the fleet in any run from an empty one: there is nothing beyond
the replicas, a pod that is restarting is not ready, and pods are started only
once the controller knows the set. -/
structure Sound (replicas : Nat) (fleet : Fleet R V) : Prop where
  pods : ∀ i, replicas ≤ i → fleet.pods i = none
  reported : ∀ i, replicas ≤ i → fleet.reported i = none
  calm : ∀ i, replicas ≤ i → fleet.restarting i = false
  unready : ∀ i, fleet.restarting i = true → ∀ r ∈ fleet.pods i, r.ready = false
  adopted : ∀ i, ∀ r ∈ fleet.pods i, fleet.current ≠ none

theorem Sound.empty (replicas : Nat) : Sound replicas ({} : Fleet R V) :=
  ⟨fun _ _ => rfl, fun _ _ => rfl, fun _ _ => rfl, (fun _ h => nomatch h), (fun _ _ h => nomatch h)⟩

/-- A change at a replica leaves what is beyond the replicas. -/
theorem update_beyond {β : Type} {f : Nat → β} {replicas i : Nat} {beyond value : β}
    (hf : ∀ j, replicas ≤ j → f j = beyond) (hi : i < replicas) (j : Nat) (hj : replicas ≤ j) :
    Function.update f i value j = beyond := by
  rw [Function.update_of_ne (by omega)]
  exact hf j hj

theorem Sound.lt_of_pod {replicas i : Nat} {r : Replica R} (h : Sound replicas fleet)
    (hr : fleet.pods i = some r) : i < replicas := by
  by_contra hout
  rw [h.pods i (not_lt.mp hout)] at hr
  cases hr

theorem Sound.move (h : Sound plan.replicas fleet) {step : Step}
    (hmove : fleet.Move label plan step fleet') : Sound plan.replicas fleet' := by
  cases hmove with
  | adopt => exact ⟨h.pods, h.reported, h.calm, h.unready, fun _ _ _ => Option.some_ne_none _⟩
  | complete => exact ⟨h.pods, h.reported, h.calm, h.unready, fun _ _ _ => Option.some_ne_none _⟩
  | @start i current hcurrent hbound hmissing =>
      refine ⟨update_beyond h.pods hbound, h.reported, h.calm, ?_, ?_⟩
      · intro j hj r hr
        by_cases hji : j = i
        · subst hji
          simp only [Function.update_self, Option.mem_some_iff] at hr
          exact hr ▸ rfl
        · simp only [Function.update_of_ne hji] at hr
          exact h.unready j hj r hr
      · intro j r _
        rw [hcurrent]
        exact Option.some_ne_none _
  | @replace i hpartition hbound houtdated hhighest =>
      refine ⟨update_beyond h.pods hbound, h.reported, update_beyond h.calm hbound, ?_, ?_⟩
      · intro j hj r hr
        by_cases hji : j = i
        · subst hji
          simp at hr
        · simp only [Function.update_of_ne hji] at hj hr
          exact h.unready j hj r hr
      · intro j r hr
        by_cases hji : j = i
        · subst hji
          simp at hr
        · simp only [Function.update_of_ne hji] at hr
          exact h.adopted j r hr
  | @ready i isReady r hr =>
      have hbound := h.lt_of_pod hr
      refine ⟨update_beyond h.pods hbound, h.reported, update_beyond h.calm hbound, ?_, ?_⟩
      · intro j hj other hother
        by_cases hji : j = i
        · subst hji
          simp only [Function.update_self, Bool.and_eq_true, Bool.not_eq_true'] at hj
          simp only [Function.update_self, Option.mem_some_iff] at hother
          exact hother ▸ hj.2
        · simp only [Function.update_of_ne hji] at hj hother
          exact h.unready j hj other hother
      · intro j other hother
        exact h.adopted i r hr
  | @report i r hr =>
      have hbound := h.lt_of_pod hr
      exact ⟨h.pods, update_beyond h.reported hbound, h.calm, h.unready, h.adopted⟩

/-- The controller knows no other revision than this one. -/
def Settled (revision : R) (fleet : Fleet R V) : Prop :=
  fleet.current = none ∨ fleet.current = some revision

instance [DecidableEq R] (revision : R) (fleet : Fleet R V) : Decidable (Settled revision fleet) :=
  inferInstanceAs (Decidable (_ ∨ _))

/-- No rollout is under way: all pods run the one revision, no pod is restarting,
and every report satisfies `Q`. -/
structure Steady (Q : V → Prop) (revision : R) (plan : Plan R) (fleet : Fleet R V) : Prop where
  template : plan.template = revision
  revisions : ∀ i, ∀ r ∈ fleet.pods i, r.revision = revision
  reported : ∀ i, ∀ v ∈ fleet.reported i, Q v
  calm : ∀ i, fleet.restarting i = false
  current : Settled revision fleet ∨ ∀ i < plan.replicas, (fleet.pods i).isSome = true

theorem Steady.not_outdated (h : Steady Q revision plan fleet) (i : Nat) :
    ¬ Outdated plan fleet i := by
  rintro ⟨r, hr, houtdated⟩
  exact houtdated ((h.revisions i r hr).trans h.template.symm)

theorem Steady.empty (hplan : plan.template = revision) :
    Steady Q revision plan ({} : Fleet R V) :=
  ⟨hplan, (fun _ _ h => nomatch h), (fun _ _ h => nomatch h), fun _ => rfl, Or.inl (Or.inl rfl)⟩

/-- Every step keeps a steady fleet steady, and settled if it was. -/
theorem Steady.move (h : Steady Q revision plan fleet) (hQ : Q (label revision)) {step : Step}
    (hmove : fleet.Move label plan step fleet') :
    Steady Q revision plan fleet' ∧ (Settled revision fleet → Settled revision fleet') := by
  cases hmove with
  | adopt =>
      have hsettled : Settled revision { fleet with current := some plan.template } :=
        Or.inr (congrArg some h.template)
      exact ⟨⟨h.template, h.revisions, h.reported, h.calm, Or.inl hsettled⟩, fun _ => hsettled⟩
  | complete =>
      have hsettled : Settled revision { fleet with current := some plan.template } :=
        Or.inr (congrArg some h.template)
      exact ⟨⟨h.template, h.revisions, h.reported, h.calm, Or.inl hsettled⟩, fun _ => hsettled⟩
  | @start i current hcurrent hbound hmissing =>
      have hsettled : Settled revision fleet := by
        refine h.current.resolve_right fun hall => ?_
        have hsome := hall i hbound
        rw [hmissing] at hsome
        cases hsome
      have hrevision : startRevision plan current i = revision := by
        unfold startRevision
        split
        · exact h.template
        · rcases hsettled with hnone | hsome
          · rw [hcurrent] at hnone
            cases hnone
          · exact Option.some.inj (hcurrent.symm.trans hsome)
      refine ⟨⟨h.template, ?_, h.reported, h.calm, Or.inl hsettled⟩, fun hs => hs⟩
      intro j r hr
      by_cases hji : j = i
      · subst hji
        simp only [Function.update_self, Option.mem_some_iff] at hr
        exact hr ▸ hrevision
      · simp only [Function.update_of_ne hji] at hr
        exact h.revisions j r hr
  | @replace i hpartition hbound houtdated hhighest => exact absurd houtdated (h.not_outdated i)
  | @ready i isReady r hr =>
      refine ⟨⟨h.template, ?_, h.reported, ?_, ?_⟩, fun hs => hs⟩
      · intro j other hother
        by_cases hji : j = i
        · subst hji
          simp only [Function.update_self, Option.mem_some_iff] at hother
          exact hother ▸ h.revisions j r hr
        · simp only [Function.update_of_ne hji] at hother
          exact h.revisions j other hother
      · intro j
        by_cases hji : j = i
        · subst hji
          simp [h.calm j]
        · simp only [Function.update_of_ne hji]
          exact h.calm j
      · refine h.current.imp_right fun hall j hj => ?_
        by_cases hji : j = i
        · subst hji
          simp
        · simp only [Function.update_of_ne hji]
          exact hall j hj
  | @report i r hr =>
      refine ⟨⟨h.template, h.revisions, ?_, h.calm, h.current⟩, fun hs => hs⟩
      intro j v hv
      by_cases hji : j = i
      · subst hji
        simp only [Function.update_self, Option.mem_some_iff] at hv
        rw [← hv, h.revisions j r hr]
        exact hQ
      · simp only [Function.update_of_ne hji] at hv
        exact h.reported j v hv

/-- A rollout starts from a steady fleet in which nothing is reported as new. -/
theorem Serial.of_steady (h : Steady Q old plan fleet) (hcurrent : fleet.current = some old)
    (hdisjoint : ∀ v, Q v → ¬ P v) (hne : old ≠ new) : Serial P old new plan fleet := by
  have huntouched : ∀ i, ¬ Runs fleet new i := by
    rintro i ⟨r, hr, hnew⟩
    exact hne ((h.revisions i r hr).symm.trans hnew)
  refine ⟨Or.inl h.template, fun i r hr => Or.inl (h.revisions i r hr), ?_, ?_, ?_,
    fun _ => huntouched, Or.inl hcurrent⟩
  · rintro i ⟨v, hv, hP⟩
    exact absurd hP (hdisjoint v (h.reported i v hv))
  · exact fun i hi => absurd hi (huntouched i)
  · exact fun heq => absurd (h.template.symm.trans heq) hne

/-- A rollout is over when every pod has reported and is ready. -/
theorem Steady.of_serial (h : Serial P old new plan fleet) (hsound : Sound plan.replicas fleet)
    (hreplicas : plan.replicas ≠ 0) (hreports : ∀ i < plan.replicas, Reports P fleet i)
    (hready : ∀ i < plan.replicas, ∃ r ∈ fleet.pods i, r.ready = true) :
    Steady P new plan fleet := by
  have hruns : ∀ i < plan.replicas, Runs fleet new i :=
    fun i hi => h.reported i (hreports i hi)
  refine ⟨?_, ?_, ?_, ?_, Or.inr ?_⟩
  · refine h.template.resolve_left fun hold => ?_
    exact h.untouched hold 0 (hruns 0 (Nat.pos_of_ne_zero hreplicas))
  · intro i r hr
    by_cases hi : i < plan.replicas
    · obtain ⟨r', hr', hnew⟩ := hruns i hi
      rw [Option.some.inj (hr.symm.trans hr')]
      exact hnew
    · rw [hsound.pods i (not_lt.mp hi)] at hr
      cases hr
  · intro i v hv
    by_cases hi : i < plan.replicas
    · obtain ⟨v', hv', hP⟩ := hreports i hi
      rw [Option.some.inj (hv.symm.trans hv')]
      exact hP
    · rw [hsound.reported i (not_lt.mp hi)] at hv
      cases hv
  · intro i
    by_cases hi : i < plan.replicas
    · obtain ⟨r, hr, hr'⟩ := hready i hi
      by_contra hrestarting
      rw [Bool.not_eq_false] at hrestarting
      rw [hsound.unready i hrestarting r hr] at hr'
      cases hr'
    · exact hsound.calm i (not_lt.mp hi)
  · intro i hi
    obtain ⟨r, hr, _⟩ := hruns i hi
    rw [Option.mem_def.mp hr]
    rfl

end Steady

section Count

variable {fleet : Fleet R V} {n : Nat}

/-- How many pods are ready. -/
def readyCount (fleet : Fleet R V) (n : Nat) : Nat :=
  (List.range n).countP fun i => (fleet.pods i).any Replica.ready

/-- How many pods run the revision. -/
def runCount [DecidableEq R] (fleet : Fleet R V) (revision : R) (n : Nat) : Nat :=
  (List.range n).countP fun i => decide (Runs fleet revision i)

theorem ready_of_readyCount_eq (h : readyCount fleet n = n) {i : Nat} (hi : i < n) :
    ∃ r ∈ fleet.pods i, r.ready = true := by
  have hall : ∀ i ∈ List.range n, (fleet.pods i).any Replica.ready = true := by
    apply List.countP_eq_length.mp
    rw [List.length_range]
    exact h
  have hready := hall i (List.mem_range.mpr hi)
  cases hpod : fleet.pods i with
  | none => simp [hpod] at hready
  | some r => exact ⟨r, rfl, by simpa [hpod] using hready⟩

theorem readyCount_eq (h : ∀ i < n, ∃ r ∈ fleet.pods i, r.ready = true) :
    readyCount fleet n = n := by
  have hall : ∀ i ∈ List.range n, (fleet.pods i).any Replica.ready = true := by
    intro i hi
    obtain ⟨r, hr, hready⟩ := h i (List.mem_range.mp hi)
    rw [Option.mem_def.mp hr]
    exact hready
  rw [readyCount, List.countP_eq_length.mpr hall, List.length_range]

theorem countP_range_lt (i n : Nat) :
    ((List.range n).countP fun j => decide (i < j)) = n - 1 - i := by
  induction n with
  | zero => simp
  | succ n ih =>
      rw [List.range_succ, List.countP_append, ih, List.countP_singleton]
      by_cases hi : i < n
      · simp only [hi, decide_true, if_true]
        omega
      · simp only [hi, decide_false]
        simp only [Bool.false_eq_true, if_false]
        omega

variable [DecidableEq R]

/-- Of the pods that do not run the revision there is a highest one. -/
theorem exists_last_not_runs {revision : R} (h : ∃ i < n, ¬ Runs fleet revision i) :
    ∃ i < n, ¬ Runs fleet revision i ∧ ∀ j, i < j → j < n → Runs fleet revision j := by
  obtain ⟨i, hi, hnot⟩ := h
  let last := Nat.findGreatest (fun i => ¬ Runs fleet revision i) (n - 1)
  have hlast : last ≤ n - 1 := Nat.findGreatest_le _
  refine ⟨last, by omega, ?_, ?_⟩
  · exact Nat.findGreatest_spec (P := fun i => ¬ Runs fleet revision i) (by omega) hnot
  · intro j hj hjn
    exact not_not.mp (Nat.findGreatest_is_greatest hj (by omega))

/-- In a serial rollout the pods on the new revision are those above the highest
one that is not. -/
theorem Serial.runCount_eq {P : V → Prop} {old new : R} {plan : Plan R}
    (h : Serial P old new plan fleet) {i : Nat} (hi : i < plan.replicas)
    (hnot : ¬ Runs fleet new i) (habove : ∀ j, i < j → j < plan.replicas → Runs fleet new j) :
    runCount fleet new plan.replicas = plan.replicas - 1 - i := by
  rw [← countP_range_lt, runCount]
  apply List.countP_congr
  intro j hj
  have hj := List.mem_range.mp hj
  simp only [decide_eq_true_eq]
  constructor
  · intro hruns
    by_contra hle
    rcases Nat.lt_or_eq_of_le (not_lt.mp hle) with hlt | rfl
    · exact hnot (h.above j hruns i hlt hi).1
    · exact hnot hruns
  · exact fun hlt => habove j hlt hj

end Count

end RollingUpdate

end ControlLoop
