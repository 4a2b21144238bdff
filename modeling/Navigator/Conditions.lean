/-
What setting a condition does to a list of conditions, for the two functions
named `UpdateStatusCondition`: a condition is replaced or is the first one, but
it is never added to others.
-/
import Mathlib.Data.List.Basic
import Navigator.Types

namespace Navigator

section Conditions

variable {τ : Type} [DecidableEq τ]

/-- Setting a condition has taken effect and has touched nothing else: there is
one condition of the type, with the status and the reason, and its transition
time is another one only if its status is. -/
structure TakesEffect (before after : List (Condition τ)) (type : τ) (status : ConditionStatus)
    (reason : String) : Prop where
  set : ∃ condition, after.filter (fun c => c.type = type) = [condition] ∧
    condition.status = status ∧ condition.reason = reason ∧
    ∀ old ∈ before, old.type = type →
      condition.lastTransitionTime ≠ old.lastTransitionTime → old.status ≠ status
  others : after.filter (fun c => c.type ≠ type) = before.filter fun c => c.type ≠ type

/-- The condition that takes the place of an old one of its type. -/
def refreshed (now : Nat) (newCondition old : Condition τ) : Condition τ :=
  { newCondition with lastTransitionTime :=
      if old.status ≠ newCondition.status then now else old.lastTransitionTime }

/-- What the loop does to a condition. -/
def replacement (now : Nat) (newCondition old : Condition τ) : Option (Condition τ) :=
  if old.type = newCondition.type then some (refreshed now newCondition old) else none

theorem replacement_eq_some_iff {now : Nat} {newCondition old new : Condition τ} :
    replacement now newCondition old = some new ↔
      old.type = newCondition.type ∧ refreshed now newCondition old = new := by
  simp [replacement]

theorem replacement_eq_none_iff {now : Nat} {newCondition old : Condition τ} :
    replacement now newCondition old = none ↔ old.type ≠ newCondition.type := by
  simp [replacement]

theorem replaceCondition_eq_replaceF (now : Nat) (newCondition : Condition τ)
    (conditions : List (Condition τ)) :
    replaceCondition now newCondition conditions =
      conditions.replaceF (replacement now newCondition) := by
  induction conditions with
  | nil => rfl
  | cons old rest ih =>
      by_cases htype : old.type = newCondition.type
      · rw [replaceCondition, if_pos htype,
          List.replaceF_cons_of_some _ (replacement_eq_some_iff.mpr ⟨htype, rfl⟩)]
        rfl
      · rw [replaceCondition, if_neg htype,
          List.replaceF_cons_of_none _ (replacement_eq_none_iff.mpr htype), ih]

/-- Of a list without the type, nothing is replaced. -/
theorem replaceCondition_of_absent {newCondition : Condition τ} {conditions : List (Condition τ)}
    (habsent : ∀ c ∈ conditions, c.type ≠ newCondition.type) (now : Nat) :
    replaceCondition now newCondition conditions = conditions := by
  rw [replaceCondition_eq_replaceF]
  exact List.replaceF_of_forall_none fun c hc =>
    replacement_eq_none_iff.mpr (habsent c hc)

/-- In a list with one condition for each type, the one of the type is replaced
in its place. -/
theorem replaceCondition_of_present {newCondition : Condition τ} {conditions : List (Condition τ)}
    (hdistinct : (conditions.map Condition.type).Nodup)
    (hpresent : ∃ c ∈ conditions, c.type = newCondition.type) (now : Nat) :
    ∃ before old after, conditions = before ++ old :: after ∧ old.type = newCondition.type ∧
      (∀ c ∈ before ++ after, c.type ≠ newCondition.type) ∧
      replaceCondition now newCondition conditions =
        before ++ refreshed now newCondition old :: after := by
  obtain ⟨c, hc, htype⟩ := hpresent
  obtain ⟨old, new, before, after, _, hnew, rfl, hreplaced⟩ :=
    List.exists_of_replaceF hc (replacement_eq_some_iff.mpr ⟨htype, rfl⟩ :
      replacement now newCondition c = some (refreshed now newCondition c))
  obtain ⟨hold, rfl⟩ := replacement_eq_some_iff.mp hnew
  refine ⟨before, old, after, rfl, hold, ?_, (replaceCondition_eq_replaceF _ _ _).trans hreplaced⟩
  intro other hother hsame
  rw [List.map_append, List.map_cons, List.nodup_middle, List.nodup_cons, ← List.map_append]
    at hdistinct
  exact hdistinct.1 (List.mem_map.mpr ⟨other, hother, hsame.trans hold.symm⟩)

theorem replaceCondition_takesEffect {newCondition : Condition τ} {conditions : List (Condition τ)}
    (hdistinct : (conditions.map Condition.type).Nodup)
    (hpresent : ∃ c ∈ conditions, c.type = newCondition.type) (now : Nat) :
    TakesEffect conditions (replaceCondition now newCondition conditions) newCondition.type
      newCondition.status newCondition.reason := by
  obtain ⟨before, old, after, rfl, hold, hothers, hreplaced⟩ :=
    replaceCondition_of_present hdistinct hpresent now
  have hbefore : ∀ c ∈ before, c.type ≠ newCondition.type := fun c hc =>
    hothers c (List.mem_append_left after hc)
  have hafter : ∀ c ∈ after, c.type ≠ newCondition.type := fun c hc =>
    hothers c (List.mem_append_right before hc)
  have hnone : ∀ {part : List (Condition τ)}, (∀ c ∈ part, c.type ≠ newCondition.type) →
      part.filter (fun c => c.type = newCondition.type) = [] := fun hpart =>
    List.filter_eq_nil_iff.mpr fun c hc => by simpa using hpart c hc
  rw [hreplaced]
  refine ⟨⟨refreshed now newCondition old, ?_, rfl, rfl, ?_⟩, ?_⟩
  · rw [List.filter_append, hnone hbefore, List.filter_cons_of_pos (by simp [refreshed]),
      hnone hafter, List.nil_append]
  · intro other hother hsame htime
    -- only the old condition has the type, and its time is kept with its status
    have hother : other = old := by
      rcases List.mem_append.mp hother with hmem | hmem
      · exact absurd hsame (hbefore other hmem)
      · rcases List.mem_cons.mp hmem with rfl | hmem
        · rfl
        · exact absurd hsame (hafter other hmem)
    subst hother
    intro hstatus
    exact htime (if_neg (not_not.mpr hstatus))
  · simp [refreshed, hold]

theorem setCondition_of_ne_nil {conditions : List (Condition τ)} (h : conditions ≠ [])
    (now : Nat) (newCondition : Condition τ) :
    setCondition now conditions newCondition = replaceCondition now newCondition conditions := by
  cases conditions with
  | nil => exact absurd rfl h
  | cons first rest => rfl

/-- Setting a condition takes effect exactly when the list is empty or has a
condition of the type already. -/
theorem setCondition_takesEffect_iff (now : Nat) (newCondition : Condition τ)
    {conditions : List (Condition τ)} (hdistinct : (conditions.map Condition.type).Nodup) :
    TakesEffect conditions (setCondition now conditions newCondition) newCondition.type
        newCondition.status newCondition.reason ↔
      conditions = [] ∨ ∃ c ∈ conditions, c.type = newCondition.type := by
  by_cases hnil : conditions = []
  · subst hnil
    refine iff_of_true ⟨⟨{ newCondition with lastTransitionTime := now }, ?_, rfl, rfl, ?_⟩, ?_⟩
      (Or.inl rfl)
    · simp [setCondition]
    · exact fun old hold => absurd hold List.not_mem_nil
    · simp [setCondition]
  · rw [setCondition_of_ne_nil hnil, or_iff_right hnil]
    constructor
    · intro h
      obtain ⟨condition, hset, _⟩ := h.set
      have hmem : condition ∈ (replaceCondition now newCondition conditions).filter
          (fun c => c.type = newCondition.type) := by
        rw [hset]
        exact List.mem_singleton_self condition
      obtain ⟨hin, htype⟩ := List.mem_filter.mp hmem
      by_contra habsent
      push Not at habsent
      rw [replaceCondition_of_absent habsent] at hin
      exact habsent condition hin (by simpa using htype)
    · exact fun hpresent => replaceCondition_takesEffect hdistinct hpresent now

/-- What has taken effect is what a search finds. -/
theorem TakesEffect.find {before after : List (Condition τ)} {type : τ}
    {status : ConditionStatus} {reason : String} (h : TakesEffect before after type status reason) :
    ∃ condition, after.find? (fun c => c.type = type) = some condition ∧
      condition.status = status ∧ condition.reason = reason := by
  obtain ⟨condition, hset, hstatus, hreason, _⟩ := h.set
  refine ⟨condition, ?_, hstatus, hreason⟩
  rw [← List.head?_filter, hset]
  rfl

end Conditions

/-- Setting a condition of a cluster, and setting one of a Pilot, takes effect
exactly when the list is empty or has a condition of the type already.  What has
been set is what `GetStatusCondition` returns and what `HasCondition` sees. -/
theorem updateStatusCondition_takesEffect_iff
    (now : Nat) (status : ConditionStatus) (reason message : String)
    (conditions : List ClusterCondition) (type : ClusterConditionType)
    (hcluster : (conditions.map Condition.type).Nodup)
    (sprintf : String → List String → String) (format : List String)
    (p : Pilot) (pilotType : PilotConditionType)
    (hpilot : (p.status.conditions.map Condition.type).Nodup) :
    ((TakesEffect conditions
          (updateStatusCondition now conditions { type, status, reason, message })
          type status reason ∧
        ∃ condition, getStatusCondition
            (updateStatusCondition now conditions { type, status, reason, message }) type =
          some condition ∧ condition.status = status ∧ condition.reason = reason) ↔
      conditions = [] ∨ ∃ c ∈ conditions, c.type = type) ∧
    ((TakesEffect p.status.conditions
          (p.updateStatusCondition sprintf now pilotType status reason message format).status.conditions
          pilotType status reason ∧
        (p.updateStatusCondition sprintf now pilotType status reason message format).hasCondition
          { type := pilotType, status, reason, message } = true) ↔
      p.status.conditions = [] ∨ ∃ c ∈ p.status.conditions, c.type = pilotType) := by
  have hclusterIff := setCondition_takesEffect_iff now
    { type, status, reason, message : ClusterCondition } hcluster
  have hpilotIff := setCondition_takesEffect_iff now
    { type := pilotType, status, reason, message := sprintf message format : PilotCondition } hpilot
  constructor
  · rw [← hclusterIff]
    constructor
    · exact fun h => h.1
    · exact fun h => ⟨h, h.find⟩
  · rw [← hpilotIff]
    constructor
    · exact fun h => h.1
    · intro h
      refine ⟨h, ?_⟩
      obtain ⟨condition, hfind, hstatus, _⟩ := h.find
      have htype := List.find?_some hfind
      rw [Pilot.hasCondition, List.any_eq_true]
      refine ⟨condition, List.mem_of_find?_eq_some hfind, ?_⟩
      simpa [hstatus, eq_comm] using htype

/-- The cluster shows that it is paused. -/
def ShowsPaused (conditions : List ClusterCondition) : Prop :=
  ∃ condition, getStatusCondition conditions .progressing = some condition ∧
    condition.reason = pausedClusterReason

/-- So a paused cluster shows that it is paused, unless its conditions are all of
other types. -/
theorem syncPausedConditions_showsPaused_iff (now : Nat) {conditions : List ClusterCondition}
    (hdistinct : (conditions.map Condition.type).Nodup) :
    ShowsPaused (syncPausedConditions now true conditions) ↔
      conditions = [] ∨ ∃ c ∈ conditions, c.type = .progressing := by
  by_cases hshown : ShowsPaused conditions
  · obtain ⟨condition, hget, hreason⟩ := hshown
    have hunchanged : syncPausedConditions now true conditions = conditions := by
      simp [syncPausedConditions, hget, hreason]
    rw [hunchanged]
    exact iff_of_true ⟨condition, hget, hreason⟩ (Or.inr ⟨condition,
      List.mem_of_find?_eq_some hget, by simpa using List.find?_some hget⟩)
  · have hexists : (getStatusCondition conditions .progressing).any (fun condition =>
        condition.reason = pausedClusterReason) = false := by
      cases hget : getStatusCondition conditions .progressing with
      | none => rfl
      | some condition => simpa using fun hreason => hshown ⟨condition, hget, hreason⟩
    have hset : syncPausedConditions now true conditions = updateStatusCondition now conditions
        { type := .progressing, status := .false, reason := pausedClusterReason,
          message := "Cluster is paused" } := by
      simp [syncPausedConditions, hexists]
    constructor
    · rintro ⟨condition, hget, hreason⟩
      by_contra hcondition
      rw [not_or] at hcondition
      have habsent : ∀ c ∈ conditions, c.type ≠ ClusterConditionType.progressing :=
        fun c hc htype => hcondition.2 ⟨c, hc, htype⟩
      rw [hset, updateStatusCondition, setCondition_of_ne_nil hcondition.1,
        replaceCondition_of_absent habsent] at hget
      exact hshown ⟨condition, hget, hreason⟩
    · intro hcondition
      have heffect := (setCondition_takesEffect_iff now
        { type := ClusterConditionType.progressing, status := .false,
          reason := pausedClusterReason, message := "Cluster is paused" } hdistinct).mpr hcondition
      obtain ⟨condition, hfind, _, hreason⟩ := heffect.find
      rw [hset]
      exact ⟨condition, hfind, hreason⟩

namespace ConditionsWitness

def available : ClusterCondition where
  type := .available
  status := .true
  reason := ""
  message := ""

/-- A Pilot that is reported as ready. -/
def ready : Pilot where
  metadata := { name := "es-db-all-0", namespaceName := "default" }
  status := { conditions := [{ type := .ready, status := .true, reason := "", message := "" }] }

/-- A condition is not added to a list of others: a paused cluster does not show
that it is paused, and a Pilot does not show that its process has started. -/
theorem updateStatusCondition_not_added :
    updateStatusCondition 1 [available]
      { type := .progressing, status := .false, reason := pausedClusterReason,
        message := "Cluster is paused" } = [available] ∧
    getStatusCondition (syncPausedConditions 1 true [available]) .progressing = none ∧
    (ready.updateStatusCondition (fun message _ => message) 1 .started .true "ProcessStarted"
      "" []).status.conditions = ready.status.conditions := by decide

theorem updateStatusCondition_takesEffect_iff_present :
    TakesEffect [available]
      (updateStatusCondition 1 [available]
        { type := .available, status := .false, reason := "Down", message := "" })
      .available .false "Down" :=
  ((updateStatusCondition_takesEffect_iff 1 .false "Down" "" [available] .available (by decide)
    (fun message _ => message) [] ready .ready (by decide)).1.mpr
      (Or.inr ⟨available, by decide, rfl⟩)).1

end ConditionsWitness

end Navigator
