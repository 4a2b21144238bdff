/-
The hooks over many transitions.  What is executed is recorded, and in each
phase the executions that succeeded go through the list once and in order,
however often a hook fails and the transition is tried again.
-/
import Navigator.Base.Machine
import Navigator.GenericPilot.Hooks

namespace Navigator

open ControlLoop

namespace GenericPilot

namespace Hooks

/-- The executions of the loop over the hooks of a phase, each with the error it
returned. -/
def executionsOf (execute : String → Option Err) :
    List String → List String → List (String × Option Err)
  | [], _ => []
  | hook :: rest, executed =>
      if hook ∈ executed then executionsOf execute rest executed
      else match execute hook with
        | some e => [(hook, some e)]
        | none => (hook, none) :: executionsOf execute rest (executed ++ [hook])

/-- The executions of a transition. -/
def executions (h : Hooks) (execute : String → Option Err) (phase : Phase)
    (pilot : Option Pilot) : List (String × Option Err) :=
  match pilot with
  | none => []
  | some _ => executionsOf execute (h.hooksOf phase) (h.executedOf phase)

/-- The error of a transition that a hook made fail. -/
def executeError (phase : Phase) (hook : String) (e : Err) : Err :=
  .plain ("error executing " ++ phase.text ++ " hook " ++ quoted hook ++ ": " ++ e.error)

/-- What a transition does that finds the hooks `executed` done: it goes on with
the next ones, to the end of the list or to the first that fails. -/
inductive Resumes (hooks executed : List String) (execute : String → Option Err)
    (phase : Phase) : Option Err → List (String × Option Err) → List String → Prop where
  | finished (done : List String) (whole : hooks = executed ++ done)
      (succeed : ∀ hook ∈ done, execute hook = none) :
      Resumes hooks executed execute phase none (done.map (·, none)) (executed ++ done)
  | failed (done left : List String) (hook : String) (e : Err)
      (whole : hooks = executed ++ done ++ hook :: left)
      (succeed : ∀ hook ∈ done, execute hook = none) (fails : execute hook = some e) :
      Resumes hooks executed execute phase (some (executeError phase hook e))
        (done.map (·, none) ++ [(hook, some e)]) (executed ++ done)

section Loop

variable {phase : Phase} {execute : String → Option Err} {hooks executed : List String}

/-- Hooks that have succeeded are passed over. -/
theorem executeAll_append {before rest : List String} (hbefore : before ⊆ executed) :
    executeAll phase execute (before ++ rest) executed =
      executeAll phase execute rest executed := by
  induction before with
  | nil => rfl
  | cons hook before ih =>
      rw [List.cons_append, executeAll, if_pos (hbefore List.mem_cons_self)]
      exact ih fun other hother => hbefore (List.mem_cons_of_mem hook hother)

theorem executionsOf_append {before rest : List String} (hbefore : before ⊆ executed) :
    executionsOf execute (before ++ rest) executed = executionsOf execute rest executed := by
  induction before with
  | nil => rfl
  | cons hook before ih =>
      rw [List.cons_append, executionsOf, if_pos (hbefore List.mem_cons_self)]
      exact ih fun other hother => hbefore (List.mem_cons_of_mem hook hother)

theorem Resumes.cons {hook : String} {err : Option Err} {runs : List (String × Option Err)}
    {after : List String} (h : Resumes hooks (executed ++ [hook]) execute phase err runs after)
    (hook_succeeds : execute hook = none) :
    Resumes hooks executed execute phase err ((hook, none) :: runs) after := by
  cases h with
  | finished done whole succeed =>
      rw [List.append_assoc]
      apply Resumes.finished (hook :: done)
      · rw [whole, List.append_assoc]
        rfl
      · exact List.forall_mem_cons.mpr ⟨hook_succeeds, succeed⟩
  | failed done left last e whole succeed fails =>
      rw [List.append_assoc]
      apply Resumes.failed (hook :: done) left last e
      · rw [whole, List.append_assoc executed]
        rfl
      · exact List.forall_mem_cons.mpr ⟨hook_succeeds, succeed⟩
      · exact fails

/-- The loop over hooks of which none has succeeded yet. -/
theorem resumes_rest {rest : List String} (hwhole : hooks = executed ++ rest)
    (hdistinct : hooks.Nodup) :
    Resumes hooks executed execute phase (executeAll phase execute rest executed).1
      (executionsOf execute rest executed) (executeAll phase execute rest executed).2 := by
  induction rest generalizing executed with
  | nil =>
      have hdone : Resumes hooks executed execute phase none _ _ :=
        .finished [] hwhole (by simp)
      simpa [executeAll, executionsOf] using hdone
  | cons hook rest ih =>
      have hfresh : hook ∉ executed := by
        intro hmem
        rw [hwhole] at hdistinct
        exact (List.nodup_append.mp hdistinct).2.2 hook hmem hook List.mem_cons_self rfl
      rw [executeAll, executionsOf, if_neg hfresh, if_neg hfresh]
      cases hexecute : execute hook with
      | some e =>
          have hfailed : Resumes hooks executed execute phase _ _ _ :=
            .failed [] rest hook e (by simpa using hwhole) (by simp) hexecute
          simpa [executeError] using hfailed
      | none =>
          apply Resumes.cons (ih _) hexecute
          rw [hwhole, List.append_assoc]
          rfl

/-- A loop that starts with the hooks of a prefix done. -/
theorem resumes_loop (hpart : executed <+: hooks) (hdistinct : hooks.Nodup) :
    Resumes hooks executed execute phase (executeAll phase execute hooks executed).1
      (executionsOf execute hooks executed) (executeAll phase execute hooks executed).2 := by
  obtain ⟨rest, hrest⟩ := hpart
  have hloop : Resumes hooks executed execute phase _ _ _ := resumes_rest hrest.symm hdistinct
  rwa [← executeAll_append (List.Subset.refl executed),
    ← executionsOf_append (List.Subset.refl executed), hrest] at hloop

end Loop

/-- One of the four phases. -/
def Valid : Phase → Prop
  | .other _ _ => False
  | _ => True

instance : DecidablePred Valid
  | .preStart => isTrue trivial
  | .postStart => isTrue trivial
  | .preStop => isTrue trivial
  | .postStop => isTrue trivial
  | .other _ _ => isFalse id

/-- A transition of one of the four phases runs the loop of that phase. -/
theorem transition_of_valid (h : Hooks) (execute : String → Option Err) (pilot : Pilot)
    {phase : Phase} (hvalid : Valid phase) :
    (h.transition execute phase (some pilot)).1 =
        (executeAll phase execute (h.hooksOf phase) (h.executedOf phase)).1 ∧
      (h.transition execute phase (some pilot)).2.executedOf phase =
        (executeAll phase execute (h.hooksOf phase) (h.executedOf phase)).2 := by
  cases phase with
  | other text => exact absurd hvalid id
  | _ => exact ⟨rfl, rfl⟩

end Hooks

/-- A call of `Transition`: its arguments, and what each hook returns when it is
executed in it. -/
structure HookCall where
  phase : Phase
  pilot : Option Pilot
  execute : String → Option Err

/-- The hooks, and the executions so far. -/
structure HookRun where
  hooks : Hooks
  log : List (Phase × String × Option Err) := []

namespace HookRun

def call (s : HookRun) (c : HookCall) : HookRun where
  hooks := (s.hooks.transition c.execute c.phase c.pilot).2
  log := s.log ++ (s.hooks.executions c.execute c.phase c.pilot).map (c.phase, ·)

/-- What the call returns. -/
def returned (s : HookRun) (c : HookCall) : Option Err :=
  (s.hooks.transition c.execute c.phase c.pilot).1

/-- The hooks of a phase whose execution succeeded, in the order of the
executions. -/
def succeeded (s : HookRun) (phase : Phase) : List String :=
  (s.log.filter fun run => run.1 = phase && run.2.2.isNone).map fun run => run.2.1

end HookRun

/-- Any calls, on hooks whose names are distinct in each phase. -/
def hookMachine : Machine HookRun HookCall where
  init s := s.log = [] ∧ s.hooks.Fresh ∧ ∀ phase, (s.hooks.hooksOf phase).Nodup
  step s c := some (s.call c)

/-- The invariant: the executions that succeeded are those the hooks remember,
and go through the list from its start. -/
structure Ordered (s : HookRun) : Prop where
  distinct : ∀ phase, (s.hooks.hooksOf phase).Nodup
  remembered : ∀ phase, s.succeeded phase = s.hooks.executedOf phase
  inOrder : ∀ phase, s.hooks.executedOf phase <+: s.hooks.hooksOf phase

/-- What one call does. -/
structure CallSpec (s : HookRun) (c : HookCall) : Prop where
  resumes : c.pilot.isSome = true → Hooks.Valid c.phase →
    Hooks.Resumes (s.hooks.hooksOf c.phase) (s.succeeded c.phase) c.execute c.phase
      (s.returned c) (s.hooks.executions c.execute c.phase c.pilot)
      ((s.call c).succeeded c.phase)
  returnsNil : c.pilot.isSome = true → Hooks.Valid c.phase →
    (s.returned c = none ↔ (s.call c).succeeded c.phase = s.hooks.hooksOf c.phase)
  refused : c.pilot = none ∨ ¬ Hooks.Valid c.phase → s.returned c ≠ none ∧ s.call c = s
  others : ∀ phase, phase ≠ c.phase → (s.call c).succeeded phase = s.succeeded phase

section Run

variable {s : HookRun} {c : HookCall}

/-- Of the executions of a call that resumes, those that succeeded. -/
theorem Hooks.Resumes.succeeded {hooks executed : List String} {execute : String → Option Err}
    {phase : Phase} {err : Option Err} {runs : List (String × Option Err)} {after : List String}
    (h : Resumes hooks executed execute phase err runs after) :
    after = executed ++ (runs.filter fun run => run.2.isNone).map Prod.fst := by
  cases h with
  | finished done whole succeed => simp [List.filter_map, Function.comp_def]
  | failed done left hook e whole succeed fails =>
      simp [List.filter_append, List.filter_map, Function.comp_def]

/-- The hooks done after a call are a prefix of the list, and all of it exactly
when the call returned nil. -/
theorem Hooks.Resumes.after {hooks executed : List String} {execute : String → Option Err}
    {phase : Phase} {err : Option Err} {runs : List (String × Option Err)} {after : List String}
    (h : Resumes hooks executed execute phase err runs after) :
    after <+: hooks ∧ (err = none ↔ after = hooks) := by
  cases h with
  | finished done whole succeed => exact ⟨whole ▸ List.prefix_refl _, by simp [whole]⟩
  | failed done left hook e whole succeed fails =>
      refine ⟨⟨hook :: left, whole.symm⟩, ?_⟩
      simp [whole]

theorem succeeded_call (phase : Phase) :
    (s.call c).succeeded phase = s.succeeded phase ++
      if c.phase = phase then
        ((s.hooks.executions c.execute c.phase c.pilot).filter fun run => run.2.isNone).map
          Prod.fst
      else [] := by
  unfold HookRun.succeeded HookRun.call
  rw [List.filter_append, List.map_append]
  congr 1
  split
  · rename_i hphase
    simp [List.filter_map, Function.comp_def, hphase]
  · rename_i hphase
    simp [List.filter_map, Function.comp_def, hphase]

theorem call_of_refused (h : c.pilot = none ∨ ¬ Hooks.Valid c.phase) :
    s.returned c ≠ none ∧ s.call c = s := by
  obtain ⟨phase, pilot, execute⟩ := c
  obtain ⟨hooks, log⟩ := s
  cases pilot with
  | none => exact ⟨Option.some_ne_none _, by simp [HookRun.call, Hooks.transition, Hooks.executions]⟩
  | some pilot =>
      have hinvalid : ¬ Hooks.Valid phase := h.resolve_left (Option.some_ne_none _)
      cases phase with
      | other text =>
          exact ⟨Option.some_ne_none _, by
            simp [HookRun.call, Hooks.transition, Hooks.executions, Hooks.hooksOf,
              Hooks.executionsOf]⟩
      | _ => exact absurd trivial hinvalid

theorem hooksOf_call (phase : Phase) :
    (s.call c).hooks.hooksOf phase = s.hooks.hooksOf phase := by
  obtain ⟨callPhase, pilot, execute⟩ := c
  cases pilot with
  | none => rfl
  | some pilot => exact Hooks.hooksOf_transition

theorem Ordered.resumes (h : Ordered s) (hpilot : c.pilot.isSome = true)
    (hvalid : Hooks.Valid c.phase) :
    Hooks.Resumes (s.hooks.hooksOf c.phase) (s.hooks.executedOf c.phase) c.execute c.phase
      (s.returned c) (s.hooks.executions c.execute c.phase c.pilot)
      ((s.call c).hooks.executedOf c.phase) := by
  obtain ⟨phase, pilot, execute⟩ := c
  obtain ⟨pilot, rfl⟩ := Option.isSome_iff_exists.mp hpilot
  obtain ⟨hreturned, hexecuted⟩ := s.hooks.transition_of_valid execute pilot hvalid
  unfold HookRun.returned HookRun.call Hooks.executions
  rw [hreturned, hexecuted]
  exact Hooks.resumes_loop (h.inOrder phase) (h.distinct phase)

theorem executedOf_call_of_ne {phase : Phase} (hphase : phase ≠ c.phase) :
    (s.call c).hooks.executedOf phase = s.hooks.executedOf phase := by
  obtain ⟨callPhase, pilot, execute⟩ := c
  cases pilot with
  | none => rfl
  | some pilot => exact Hooks.executedOf_transition_of_ne hphase

theorem succeeded_call_of_ne {phase : Phase} (hphase : phase ≠ c.phase) :
    (s.call c).succeeded phase = s.succeeded phase := by
  rw [succeeded_call, if_neg hphase.symm, List.append_nil]

/-- A call that is not refused keeps the executions and what is remembered
together. -/
theorem Ordered.remembered_call (h : Ordered s) (hpilot : c.pilot.isSome = true)
    (hvalid : Hooks.Valid c.phase) :
    (s.call c).succeeded c.phase = (s.call c).hooks.executedOf c.phase := by
  rw [succeeded_call, if_pos rfl, h.remembered, ← (h.resumes hpilot hvalid).succeeded]

theorem Ordered.call (h : Ordered s) : Ordered (s.call c) := by
  by_cases hrefused : c.pilot = none ∨ ¬ Hooks.Valid c.phase
  · rw [(call_of_refused hrefused).2]
    exact h
  · push Not at hrefused
    have hpilot : c.pilot.isSome = true := Option.isSome_iff_ne_none.mpr hrefused.1
    refine ⟨?_, ?_, ?_⟩
    · intro phase
      rw [hooksOf_call]
      exact h.distinct phase
    · intro phase
      by_cases hphase : phase = c.phase
      · rw [hphase]
        exact h.remembered_call hpilot hrefused.2
      · rw [succeeded_call_of_ne hphase, executedOf_call_of_ne hphase]
        exact h.remembered phase
    · intro phase
      rw [hooksOf_call]
      by_cases hphase : phase = c.phase
      · rw [hphase]
        exact (h.resumes hpilot hrefused.2).after.1
      · rw [executedOf_call_of_ne hphase]
        exact h.inOrder phase

theorem ordered_of_reachable (hreach : hookMachine.Reachable Machine.anyStep s) : Ordered s := by
  apply hreach.invariant Ordered
  · rintro state ⟨hlog, ⟨hpreStart, hpostStart, hpreStop, hpostStop⟩, hdistinct⟩
    have hnone : ∀ phase, state.hooks.executedOf phase = [] := by
      intro phase
      cases phase <;> simp [Hooks.executedOf, hpreStart, hpostStart, hpreStop, hpostStop]
    refine ⟨hdistinct, ?_, ?_⟩
    · intro phase
      rw [hnone, HookRun.succeeded, hlog]
      rfl
    · intro phase
      rw [hnone]
      exact List.nil_prefix
  · intro state c state' hordered _ hstep
    exact Option.some.inj hstep ▸ hordered.call

/-- In every sequence of transitions the hooks of a phase succeed once each and
in the order of the list.  A transition with a Pilot and one of the four phases
goes on after the hooks that have succeeded, stops at the first that fails, and
returns nil exactly when all have succeeded; another is refused and changes
nothing; and none touches another phase. -/
theorem hooks_succeed_once_in_order (hreach : hookMachine.Reachable Machine.anyStep s) :
    (∀ phase, s.succeeded phase <+: s.hooks.hooksOf phase ∧ (s.succeeded phase).Nodup) ∧
      ∀ c, CallSpec s c := by
  have hordered := ordered_of_reachable hreach
  constructor
  · intro phase
    rw [hordered.remembered]
    exact ⟨hordered.inOrder phase, (hordered.inOrder phase).sublist.nodup (hordered.distinct phase)⟩
  · intro c
    refine ⟨?_, ?_, call_of_refused, fun phase hphase => succeeded_call_of_ne hphase⟩
    · intro hpilot hvalid
      rw [hordered.remembered_call hpilot hvalid, hordered.remembered]
      exact hordered.resumes hpilot hvalid
    · intro hpilot hvalid
      rw [hordered.remembered_call hpilot hvalid]
      exact (hordered.resumes hpilot hvalid).after.2

end Run

namespace HookRunsWitness

def pilot : Pilot where
  metadata := { name := "es-db-0", namespaceName := "default" }

def initial : HookRun where
  hooks := { preStart := ["config", "plugins"] }

/-- The second hook fails, and is tried again. -/
def calls : List HookCall :=
  [⟨.preStart, some pilot, fun hook => if hook = "plugins" then some (.plain "timeout") else none⟩,
    ⟨.preStart, some pilot, fun _ => none⟩]

/-- After both calls. -/
def done : HookRun := (hookMachine.exec initial calls).getD initial

theorem done_reachable : hookMachine.Reachable Machine.anyStep done := by
  have hinit : hookMachine.init initial := by
    refine ⟨rfl, ⟨rfl, rfl, rfl, rfl⟩, ?_⟩
    intro phase
    cases phase <;> simp [Hooks.hooksOf, initial]
  exact Machine.Reachable.getD_exec (.start hinit) (Machine.meets_anyStep _ _ _)
    (by decide +kernel)

theorem hooks_succeed_once_in_order_retried :
    done.log = [(.preStart, "config", none), (.preStart, "plugins", some (.plain "timeout")),
        (.preStart, "plugins", none)] ∧
      done.succeeded .preStart <+: ["config", "plugins"] := by
  have hlog : done.log = [(.preStart, "config", none),
      (.preStart, "plugins", some (.plain "timeout")), (.preStart, "plugins", none)] := by
    decide +kernel
  exact ⟨hlog, ((hooks_succeed_once_in_order done_reachable).1 .preStart).1⟩

/-- All hooks of the phase have succeeded, and still a call without a Pilot
returns an error. -/
theorem transition_refuses_nil :
    hookMachine.Reachable Machine.anyStep done ∧
      done.succeeded .preStart = done.hooks.hooksOf .preStart ∧
      (done.call ⟨.preStart, none, fun _ => none⟩).succeeded .preStart =
        done.hooks.hooksOf .preStart ∧
      done.returned ⟨.preStart, none, fun _ => none⟩ ≠ none :=
  ⟨done_reachable, by decide +kernel⟩

end HookRunsWitness

end GenericPilot

end Navigator
