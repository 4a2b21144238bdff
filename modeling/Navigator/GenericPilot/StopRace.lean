/-
Whether the process may run after `stop`.  The worker tests that it may start
the process and then starts it; `stop` sets the field that the test reads
without the lock.  Only when it does so between the two is the process started
behind its back.
-/
import Navigator.GenericPilot.StopSignal

namespace Navigator

open ControlLoop

namespace GenericPilot

def Op.isStart : Op → Bool
  | .start => true
  | _ => false

def Op.isSetShutdown : Op → Bool
  | .setShutdown => true
  | _ => false

/-- The test before a start has been passed. -/
def Op.passes : (op : Op) → Answer op → Bool
  | .mayStart, answer => answer
  | _, _ => false

/-- The thread starts the process only right after it has passed the test;
`passed` says that it has just done so. -/
def Careful (thread : PilotThread (Option Err)) (passed : Bool) : Prop :=
  thread.Follows (fun passed op => op.Starts → passed = true) (fun _ op answer => op.passes answer)
    passed

section Careful

variable {α : Type} {o : Options} {passed : Bool}

theorem isStart_iff {op : Op} : op.isStart = true ↔ op.Starts := by
  cases op <;> simp [Op.isStart, Op.Starts]

/-- A thread that does not start the process has nothing to test. -/
theorem follows_of_never {thread : PilotThread α} (h : thread.Never Op.Starts) :
    thread.Follows (fun passed op => op.Starts → passed = true)
      (fun _ op answer => op.passes answer) passed :=
  Thread.Guarded.follows h fun _ _ hop hstarts => absurd hstarts hop

theorem ensureStarted_careful : Careful ensureStarted passed := by
  apply Thread.follows_perform_bind (fun h => False.elim h)
  intro mayStart
  split
  · rename_i hpassed
    exact Thread.follows_perform fun _ => hpassed
  · trivial

theorem syncOwnPilot_careful {pilot : Pilot} :
    (syncOwnPilot o pilot).Follows (fun passed op => op.Starts → passed = true)
      (fun _ op answer => op.passes answer) passed := by
  unfold syncOwnPilot
  split
  · trivial
  · apply Thread.follows_bind (Thread.follows_perform fun h => False.elim h)
    intro preStart _
    split
    · trivial
    · apply Thread.follows_bind (Thread.follows_perform fun h => False.elim h)
      intro constructed _
      split
      · trivial
      · apply Thread.follows_bind ensureStarted_careful
        intro started _
        split
        · trivial
        · apply Thread.follows_bind (Thread.follows_perform fun h => False.elim h)
          intro postStart _
          split
          · trivial
          · exact Thread.follows_perform fun h => False.elim h

theorem syncPilot_careful {pilot : Pilot} : Careful (syncPilot o pilot) passed := by
  apply Thread.follows_bind (Thread.follows_perform fun h => False.elim h)
  intro _ _
  apply Thread.follows_bind syncOwnPilot_careful
  intro synced _
  apply follows_of_never
  apply Thread.guarded_bind (leaderSync_guarded critical_of_starts)
  intro err
  apply Thread.guarded_bind (Thread.guarded_perform id)
  intro _
  split
  · exact Thread.guarded_bind (updatePilotStatus_guarded critical_of_starts) fun _ => trivial
  · trivial

theorem syncPeer_careful {key : String} {pilot : Pilot} :
    Careful (syncPeer o key pilot) passed := by
  have hrest (passed : Bool) : Careful (syncPilot o pilot >>= fun err =>
      perform (.schedule key pilot) >>= fun _ => pure err) passed :=
    Thread.follows_bind syncPilot_careful fun _ _ =>
      Thread.follows_bind (Thread.follows_perform fun h => False.elim h) fun _ _ => trivial
  unfold syncPeer
  split
  · apply Thread.follows_bind (Thread.follows_perform fun h => False.elim h)
    intro _ passed
    exact hrest passed
  · exact hrest passed

theorem sync_careful {fuel : Nat} {key : String} : Careful (sync o fuel key) passed := by
  unfold sync
  split
  · trivial
  · apply Thread.follows_bind (follows_of_never (pilotForKey_guarded critical_of_starts))
    intro found _
    split
    · trivial
    · apply Thread.follows_bind (follows_of_never (isPeer_guarded critical_of_starts))
      intro peer _
      split
      · trivial
      · trivial
      · exact syncPeer_careful

/-- A thread that is not about to start the process will test first. -/
theorem Careful.of_not_start {thread : PilotThread (Option Err)} (h : Careful thread passed)
    (hnext : thread.nextOp?.any Op.isStart = false) : Careful thread false := by
  cases thread with
  | ret value => trivial
  | call op next =>
      have hop : op.isStart = false := hnext
      exact ⟨fun hstarts => by simp [isStart_iff.mpr hstarts] at hop, h.2⟩

theorem Careful.not_start {thread : PilotThread (Option Err)} (h : Careful thread false) :
    thread.nextOp?.any Op.isStart = false := by
  cases thread with
  | ret value => rfl
  | call op next =>
      rw [← Bool.not_eq_true]
      intro hstart
      cases h.1 (isStart_iff.mp hstart)

end Careful

section Effect

variable {s s' : Shared} {op : Op}

theorem Process.running_signal (p : Process) : p.signal.2.running = p.running := by
  unfold running
  rw [state_signal]

/-- Only the start of the process makes it run. -/
theorem Effect.not_running (h : Effect s op s') (hop : ¬ op.Starts)
    (hrunning : s.isRunning = false) : s'.isRunning = false := by
  cases h with
  | construct missing => rfl
  | start present pid failure => exact absurd trivial hop
  | signal present =>
      simpa [Shared.isRunning, present, Process.running_signal] using hrunning
  | _ => exact hrunning

theorem Effect.shutdown_before (h : Effect s op s') (hop : op.isSetShutdown = false)
    (hshutdown : s'.shutdown = true) : s.shutdown = true := by
  cases h with
  | setShutdown => cases hop
  | _ => exact hshutdown

/-- The test is passed only before the shutdown. -/
theorem shutdown_of_passes {outcome : Outcome} {answer : Answer op}
    (h : serve outcome s op = some (answer, s')) (hpasses : op.passes answer = true) :
    s'.shutdown = false := by
  cases op with
  | mayStart =>
      obtain ⟨rfl, rfl⟩ := Prod.mk.inj (Option.some.inj h)
      simp only [Op.passes, Bool.and_eq_true, Bool.not_eq_true'] at hpasses
      exact hpasses.2
  | _ => cases hpasses

end Effect

/-- What the others leave to `stop`: after the shutdown, a process that is not
running stays so. -/
def Quiet (s s' : Shared) : Prop :=
  s.shutdown = true → s'.shutdown = true ∧ (s.isRunning = false → s'.isRunning = false)

theorem Quiet.refl (s : Shared) : Quiet s s :=
  fun h => ⟨h, id⟩

theorem Quiet.trans (a b c : Shared) (hab : Quiet a b) (hbc : Quiet b c) : Quiet a c := by
  intro h
  obtain ⟨hshutdown, hrunning⟩ := hab h
  exact ⟨(hbc hshutdown).1, (hbc hshutdown).2 ∘ hrunning⟩

/-- The process is down for good. -/
def Down (s : Shared) : Prop :=
  s.shutdown = true ∧ s.isRunning = false

theorem Down.quiet {s s' : Shared} (h : Down s) (hquiet : Quiet s s') : Down s' :=
  ⟨(hquiet h.1).1, (hquiet h.1).2 h.2⟩

theorem Shared.not_running_of_exited {s : Shared} (h : s.exited = true) : s.isRunning = false := by
  rw [← Bool.not_eq_true]
  intro hrunning
  cases (exited_of_isRunning hrunning).symm.trans h

section Run

variable {s : Shared}

/-- `Stop` returns nil only once the process is down. -/
theorem stopProcess_down (hshutdown : s.shutdown = true) :
    stopProcess.Ensures serve Quiet (fun _ => True) (fun err s' => err = none → Down s') s := by
  apply Thread.ensures_perform_bind (fun _ _ => rfl)
  intro s₁ h₁ _
  have hshutdown₁ := (h₁ hshutdown).1
  cases hrunning : s₁.isRunning with
  | false =>
      have hdown : Down s₁ := ⟨hshutdown₁, hrunning⟩
      apply Thread.ensures_perform (fun _ _ => rfl)
      intro s₂ h₂ _ s₃ h₃ _
      exact (hdown.quiet h₂).quiet h₃
  | true =>
      have hserve (outcome : Outcome) (s' : Shared) :
          serve outcome s' .signal = some (s'.signalProcess.1, s'.signalProcess.2) := rfl
      apply Thread.ensures_perform_bind hserve
      intro s₂ h₂ outcome
      have hshutdown₂ : s₂.signalProcess.2.shutdown = true :=
        (effect_of_serve (hserve outcome s₂)).grows.shutdown (h₂ hshutdown₁).1
      cases s₂.signalProcess.1 with
      | some e => exact fun s₃ _ h => nomatch h
      | none =>
          -- The wait ends when the process has exited.
          intro s₃ h₃
          refine ⟨.inl trivial, ?_⟩
          intro outcome' _ s₄ hawait
          have hexited : Down s₄ := by
            simp only [serve] at hawait
            split at hawait
            · rename_i hexited
              obtain ⟨-, rfl⟩ := Prod.mk.inj (Option.some.inj hawait)
              exact ⟨(h₃ hshutdown₂).1, Shared.not_running_of_exited hexited⟩
            · cases hawait
          apply Thread.ensures_perform (fun _ _ => rfl)
          intro s₅ h₅ _ s₆ h₆ _
          exact (hexited.quiet h₅).quiet h₆

theorem stop_down (pilot : Pilot) :
    (stop pilot).Ensures serve Quiet (fun _ => True) (fun err s' => err = none → Down s') s := by
  apply Thread.ensures_perform_bind (fun _ _ => rfl)
  intro s₁ _ _
  apply Thread.ensures_perform_bind (fun _ _ => rfl)
  intro s₂ h₂ _
  have hshutdown₂ : s₂.shutdown = true := (h₂ rfl).1
  cases hrunning : s₂.isRunning with
  | false =>
      intro s₃ h₃ _
      exact (Down.quiet ⟨hshutdown₂, hrunning⟩ h₃)
  | true =>
      apply Thread.ensures_perform_bind (fun _ _ => rfl)
      intro s₃ h₃ outcome
      cases (s₃.hooks.transition outcome.hook .preStop (some pilot)).1 with
      | some e => exact fun s₄ _ h => nomatch h
      | none =>
          refine Thread.ensures_bind Quiet.refl (stopProcess_down (h₃ hshutdown₂).1) ?_
          intro err s₄ hdown
          cases err with
          | some e => exact fun s₅ _ h => nomatch h
          | none =>
              apply Thread.ensures_perform (fun _ _ => rfl)
              intro s₅ h₅ outcome' s₆ h₆ _
              exact Down.quiet ((hdown rfl).quiet h₅) h₆

theorem run_down (o : Options) :
    (run o).Ensures serve Quiet (fun _ => True) (fun err s' => err = none → Down s') s := by
  apply Thread.ensures_perform_bind (fun _ _ => rfl)
  intro s₁ _ _
  refine Thread.ensures_bind Quiet.refl (Thread.ensures_trivial (thisPilot o) s₁) ?_
  intro found s₂ _
  cases found with
  | error e => exact fun s₃ _ h => nomatch h
  | ok pilot => exact stop_down pilot

end Run

/-- `stop` does not set the shutdown between a test that the worker has passed
and the start. -/
def StopsApart : System → Event → Prop
  | s, .run _ =>
      s.main.nextOp?.any Op.isSetShutdown = true → s.worker.nextOp?.any Op.isStart = false
  | _, _ => True

instance decidableStopsApart : (s : System) → (event : Event) → Decidable (StopsApart s event)
  | s, .run _ => inferInstanceAs (Decidable (s.main.nextOp?.any Op.isSetShutdown = true →
      s.worker.nextOp?.any Op.isStart = false))
  | _, .caches _ => isTrue trivial
  | _, .exit _ => isTrue trivial
  | _, .sync _ _ => isTrue trivial
  | _, .worker _ => isTrue trivial

/-- The invariant: after the shutdown the worker has to test again, and what
`Run` does ends with the process down. -/
structure Apart (s : System) : Prop where
  worker : ∃ passed, Careful s.worker passed ∧ (s.shared.shutdown = true → passed = false)
  main : s.main.Ensures serve Quiet (fun _ => True) (fun err s' => err = none → Down s') s.shared

section System

variable {o : Options} {s s' : System} {event : Event}

theorem Apart.careful (h : Apart s) (hshutdown : s.shared.shutdown = true) :
    Careful s.worker false := by
  obtain ⟨passed, hcareful, hpassed⟩ := h.worker
  exact hpassed hshutdown ▸ hcareful

theorem quiet_of_exit {shared : Shared} {before after : Process} {doneErr : Option Err}
    (hexit : before.exit doneErr = some after) :
    Quiet shared { shared with process := some after } := by
  intro hshutdown
  refine ⟨hshutdown, fun _ => Shared.not_running_of_exited ?_⟩
  exact (Process.exit_eq_some hexit).2.2.1

theorem Apart.step (h : Apart s) (hapart : StopsApart s event)
    (hstep : s.step o event = some s') : Apart s' := by
  cases System.moves_of_step hstep with
  | caches caches => exact ⟨h.worker, h.main.stable Quiet.trans (Quiet.refl s.shared)⟩
  | exit present ends =>
      exact ⟨h.worker, h.main.stable Quiet.trans (quiet_of_exit ends)⟩
  | sync key fuel => exact ⟨⟨false, sync_careful, fun _ => rfl⟩, h.main⟩
  | worker advances =>
      obtain ⟨passed, hcareful, hpassed⟩ := h.worker
      obtain ⟨op, answer, hserve, hstarts, hworker⟩ := Thread.Follows.advance hcareful advances
      refine ⟨⟨op.passes answer, hworker, ?_⟩, h.main.stable Quiet.trans ?_⟩
      · intro hshutdown
        rw [← Bool.not_eq_true]
        intro hpasses
        cases hshutdown.symm.trans (shutdown_of_passes hserve hpasses)
      · intro hshutdown
        have heffect := effect_of_serve hserve
        refine ⟨heffect.grows.shutdown hshutdown, heffect.not_running ?_⟩
        intro hstart
        cases (hstarts hstart).symm.trans (hpassed hshutdown)
  | @run outcome main shared advances =>
      refine ⟨?_, h.main.advance Quiet.refl advances⟩
      obtain ⟨passed, hcareful, hpassed⟩ := h.worker
      cases hmain : s.main with
      | ret value =>
          rw [hmain] at advances
          cases advances
      | call op next =>
          rw [hmain] at advances
          obtain ⟨⟨answer, after⟩, hserve, heq⟩ := Option.map_eq_some_iff.mp advances
          obtain ⟨-, rfl⟩ := Prod.mk.inj heq
          cases hop : op.isSetShutdown with
          | true =>
              -- The worker is not about to start, so it has to test again.
              have hshutdown : s.main.nextOp?.any Op.isSetShutdown = true := by
                rw [hmain]
                exact hop
              have hnext := hapart hshutdown
              exact ⟨false, hcareful.of_not_start hnext, fun _ => rfl⟩
          | false =>
              exact ⟨passed, hcareful, fun hshutdown =>
                hpassed ((effect_of_serve hserve).shutdown_before hop hshutdown)⟩

theorem apart_of_reachable (hreach : (pilotMachine o).Reachable StopsApart s) : Apart s := by
  apply hreach.invariant Apart
  · rintro _ ⟨hooks, _, rfl⟩
    exact ⟨⟨false, trivial, fun _ => rfl⟩, run_down o⟩
  · intro state event state' h hapart hstep
    exact h.step hapart hstep

/-- In every run in which `stop` does not come between a passed test and the
start, the process is not running once `stop` has returned nil, and the worker
is never about to start it. -/
theorem not_started_after_stop (hreach : (pilotMachine o).Reachable StopsApart s)
    (hreturned : s.main.result? = some none) :
    s.shared.isRunning = false ∧ s.worker.nextOp?.any Op.isStart = false := by
  have hapart := apart_of_reachable hreach
  have hdown : Down s.shared := hapart.main.post_of_result Quiet.refl hreturned rfl
  exact ⟨hdown.2, (hapart.careful hdown.1).not_start⟩

end System

namespace StopRaceWitness

open StopSignalWitness

/-- The worker syncs the own Pilot until it has passed the test. -/
def testing : List Event :=
  .caches caches :: .sync "default/es-db-0" 3 :: List.replicate 13 (.worker {})

/-- `Run` leaves its select and stops what is not running. -/
def stoppingIdle : List Event := List.replicate 4 (.run {})

/-- The worker starts the process before `Run` comes to the shutdown. -/
def stoppingRunning : List Event :=
  testing ++ .worker {} :: List.replicate 7 (.run {}) ++ .exit none :: List.replicate 3 (.run {})

def stopped : System := ((pilotMachine options).exec initial stoppingRunning).getD initial

/-- `Run` comes to the shutdown first. -/
def overtaken : System :=
  ((pilotMachine options).exec initial (testing ++ stoppingIdle ++ [.worker {}])).getD initial

theorem initial_init : (pilotMachine options).init initial := ⟨_, ⟨rfl, rfl, rfl, rfl⟩, rfl⟩

theorem not_started_after_stop_returned :
    stopped.main.result? = some none ∧ stopped.shared.isRunning = false := by
  have hmeets : (pilotMachine options).Meets StopsApart initial stoppingRunning := by
    decide +kernel
  have hfacts : stopped.main.result? = some none := by decide +kernel
  have hreach : (pilotMachine options).Reachable StopsApart stopped :=
    Machine.Reachable.getD_exec (.start initial_init) hmeets (by decide +kernel)
  exact ⟨hfacts, (not_started_after_stop hreach hfacts).1⟩

/-- `stop` has returned nil and the process runs. -/
theorem started_after_stop :
    (pilotMachine options).Reachable Machine.anyStep overtaken ∧
      overtaken.main.result? = some none ∧ overtaken.shared.isRunning = true :=
  ⟨Machine.Reachable.getD_exec (.start initial_init) (Machine.meets_anyStep _ _ _)
    (by decide +kernel), by decide +kernel⟩

end StopRaceWitness

end GenericPilot

end Navigator
