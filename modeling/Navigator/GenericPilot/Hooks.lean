/-
The hooks that a pilot runs around the life of its process.  A hook that has
succeeded is not run again in its phase.
-/
import Navigator.Types

namespace Navigator

namespace GenericPilot

/-- `hook.Phase`; a phase with another text is invalid. -/
inductive Phase where
  | preStart
  | postStart
  | preStop
  | postStop
  | other (text : String) (unknown : text ∉ ["PreStart", "PostStart", "PreStop", "PostStop"])
deriving DecidableEq

namespace Phase

def text : Phase → String
  | preStart => "PreStart"
  | postStart => "PostStart"
  | preStop => "PreStop"
  | postStop => "PostStop"
  | other text _ => text

end Phase

/-- `hook.Hooks`: for each phase the names of its hooks, in order, and the names
of those that have succeeded, where `none` is the map not yet made. -/
structure Hooks where
  preStart : List String := []
  executedPreStart : Option (List String) := none
  postStart : List String := []
  executedPostStart : Option (List String) := none
  preStop : List String := []
  executedPreStop : Option (List String) := none
  postStop : List String := []
  executedPostStop : Option (List String) := none
deriving DecidableEq

namespace Hooks

/-- The loop over the hooks of a phase, with what each returns when it is run. -/
def executeAll (phase : Phase) (execute : String → Option Err) :
    List String → List String → Option Err × List String
  | [], executed => (none, executed)
  | hook :: rest, executed =>
      if hook ∈ executed then executeAll phase execute rest executed
      else match execute hook with
        | some e =>
            (some (.plain ("error executing " ++ phase.text ++ " hook " ++ quoted hook ++ ": " ++
              e.error)), executed)
        | none => executeAll phase execute rest (executed ++ [hook])

/-- `Transition`; the Pilot may be nil. -/
def transition (h : Hooks) (execute : String → Option Err) (phase : Phase)
    (pilot : Option Pilot) : Option Err × Hooks :=
  match pilot with
  | none => (some (.plain "pilot resource must not be nil"), h)
  | some _ =>
      match phase with
      | .preStart =>
          let (err, executed) :=
            executeAll phase execute h.preStart (h.executedPreStart.getD [])
          (err, { h with executedPreStart := some executed })
      | .postStart =>
          let (err, executed) :=
            executeAll phase execute h.postStart (h.executedPostStart.getD [])
          (err, { h with executedPostStart := some executed })
      | .preStop =>
          let (err, executed) :=
            executeAll phase execute h.preStop (h.executedPreStop.getD [])
          (err, { h with executedPreStop := some executed })
      | .postStop =>
          let (err, executed) :=
            executeAll phase execute h.postStop (h.executedPostStop.getD [])
          (err, { h with executedPostStop := some executed })
      | .other text _ => (some (.plain ("invalid phase: " ++ quoted text)), h)

/-- The hooks of a phase. -/
def hooksOf (h : Hooks) : Phase → List String
  | .preStart => h.preStart
  | .postStart => h.postStart
  | .preStop => h.preStop
  | .postStop => h.postStop
  | .other _ _ => []

/-- Those that have succeeded. -/
def executedOf (h : Hooks) : Phase → List String
  | .preStart => h.executedPreStart.getD []
  | .postStart => h.executedPostStart.getD []
  | .preStop => h.executedPreStop.getD []
  | .postStop => h.executedPostStop.getD []
  | .other _ _ => []

/-- Every hook of the phase has succeeded. -/
def Completed (h : Hooks) (phase : Phase) : Prop :=
  ∀ hook ∈ h.hooksOf phase, hook ∈ h.executedOf phase

/-- The hooks of a pilot that has not run any. -/
def Fresh (h : Hooks) : Prop :=
  h.executedPreStart = none ∧ h.executedPostStart = none ∧ h.executedPreStop = none ∧
    h.executedPostStop = none

instance (h : Hooks) (phase : Phase) : Decidable (h.Completed phase) :=
  inferInstanceAs (Decidable (∀ hook ∈ h.hooksOf phase, hook ∈ h.executedOf phase))

section Loop

variable {phase : Phase} {execute : String → Option Err} {hooks executed : List String}

theorem mem_executeAll {hook : String} (h : hook ∈ executed) :
    hook ∈ (executeAll phase execute hooks executed).2 := by
  induction hooks generalizing executed with
  | nil => exact h
  | cons first rest ih =>
      unfold executeAll
      split
      · exact ih h
      · split
        · exact h
        · exact ih (List.mem_append_left _ h)

/-- The loop ends without an error exactly when every hook has succeeded. -/
theorem executeAll_eq_none_iff :
    (executeAll phase execute hooks executed).1 = none ↔
      ∀ hook ∈ hooks, hook ∈ (executeAll phase execute hooks executed).2 := by
  induction hooks generalizing executed with
  | nil => simp [executeAll]
  | cons first rest ih =>
      unfold executeAll
      split
      · rename_i hfirst
        rw [ih, List.forall_mem_cons]
        exact (and_iff_right (mem_executeAll hfirst)).symm
      · rename_i hfirst
        split
        · simp [hfirst]
        · rw [ih, List.forall_mem_cons]
          exact (and_iff_right (mem_executeAll (by simp))).symm

end Loop

section Transition

variable {h : Hooks} {execute : String → Option Err} {phase other : Phase} {pilot : Pilot}

/-- The hooks themselves do not change. -/
@[simp] theorem hooksOf_transition :
    (h.transition execute phase (some pilot)).2.hooksOf other = h.hooksOf other := by
  cases phase <;> cases other <;> rfl

/-- Nor does the progress of another phase. -/
theorem executedOf_transition_of_ne (hne : other ≠ phase) :
    (h.transition execute phase (some pilot)).2.executedOf other = h.executedOf other := by
  cases phase <;> cases other <;> first | rfl | exact absurd rfl hne

/-- `Transition` returns nil exactly when the hooks of the phase have all
succeeded. -/
theorem transition_eq_none_iff (h : Hooks) (execute : String → Option Err) (pilot : Pilot)
    {phase : Phase} (hvalid : ∀ text unknown, phase ≠ .other text unknown) :
    (h.transition execute phase (some pilot)).1 = none ↔
      (h.transition execute phase (some pilot)).2.Completed phase := by
  cases phase with
  | other text unknown => exact absurd rfl (hvalid text unknown)
  | _ => exact executeAll_eq_none_iff

end Transition

end Hooks

end GenericPilot

end Navigator
