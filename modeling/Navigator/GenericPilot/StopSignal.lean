/-
A process that the pilot has started is told to stop.  The worker keeps a copy
of its own Pilot before it starts the process and never drops it, so `Run` finds
a Pilot to stop with, whatever has become of the one in the cache.
-/
import Navigator.GenericPilot.Run

namespace Navigator

open ControlLoop

namespace GenericPilot

/-- No step undoes what has happened: the copy of the Pilot stays, and so does
what the process has gone through. -/
structure Grows (s s' : Shared) : Prop where
  lister : s.caches.pilotLister.FailsOnlyWithNotFound →
    s'.caches.pilotLister.FailsOnlyWithNotFound
  cached : s.cachedThisPilot.isSome = true → s'.cachedThisPilot.isSome = true
  started : s.started = true → s'.started = true
  exited : s.exited = true → s'.exited = true
  signalled : s.signalled = true → s'.signalled = true
  shutdown : s.shutdown = true → s'.shutdown = true

namespace Grows

theorem refl (s : Shared) : Grows s s :=
  ⟨id, id, id, id, id, id⟩

theorem trans {a b c : Shared} (hab : Grows a b) (hbc : Grows b c) : Grows a c where
  lister := hbc.lister ∘ hab.lister
  cached := hbc.cached ∘ hab.cached
  started := hbc.started ∘ hab.started
  exited := hbc.exited ∘ hab.exited
  signalled := hbc.signalled ∘ hab.signalled
  shutdown := hbc.shutdown ∘ hab.shutdown

/-- When only the process differs, only the process has to be looked at. -/
theorem of_process {s : Shared} {before after : Process} (hprocess : s.process = some before)
    (hstarted : before.started = true → after.started = true)
    (hexited : before.exited = true → after.exited = true)
    (hsignalled : before.signalled = true → after.signalled = true) :
    Grows s { s with process := some after } where
  lister := id
  cached := id
  started := by simpa [Shared.started, hprocess] using hstarted
  exited := by simpa [Shared.exited, hprocess] using hexited
  signalled := by simpa [Shared.signalled, hprocess] using hsignalled
  shutdown := id

end Grows

/-- What the steps of others leave to `Run`: besides, they do not touch the
hooks before the stop. -/
def Undisturbed (s s' : Shared) : Prop :=
  Grows s s' ∧ (s'.hooks.Completed .preStop ↔ s.hooks.Completed .preStop)

theorem Undisturbed.refl (s : Shared) : Undisturbed s s :=
  ⟨.refl s, Iff.rfl⟩

theorem Undisturbed.trans (a b c : Shared) (hab : Undisturbed a b) (hbc : Undisturbed b c) :
    Undisturbed a c :=
  ⟨hab.1.trans hbc.1, hbc.2.trans hab.2⟩

section Process

variable {p : Process}

theorem Process.started_iff : p.started = true ↔ p.running = true ∨ p.exited = true := by
  obtain ⟨state, signalled⟩ := p
  cases state <;> simp [started, running, exited]

theorem Process.exited_of_running (h : p.running = true) : p.exited = false := by
  obtain ⟨state, signalled⟩ := p
  cases state <;> simp_all [running, exited]

/-- A process that has been started is not changed by another start. -/
theorem Process.start_of_started {pid : Nat} {failure : Option Err} (h : p.started = true) :
    (p.start pid failure).2 = p := by
  obtain ⟨state, signalled⟩ := p
  cases state <;> simp_all [started, start]

theorem Process.signalled_start {pid : Nat} {failure : Option Err} :
    (p.start pid failure).2.signalled = p.signalled := by
  unfold start
  split <;> rfl

theorem Process.exited_start {pid : Nat} {failure : Option Err} :
    (p.start pid failure).2.exited = p.exited := by
  obtain ⟨state, signalled⟩ := p
  cases state <;> cases failure <;> rfl

/-- Of the process the signal changes only that it has been received. -/
theorem Process.state_signal : p.signal.2.state = p.state := by
  obtain ⟨state, signalled⟩ := p
  cases state <;> rfl

theorem Process.started_signal : p.signal.2.started = p.started := by
  unfold started
  rw [state_signal]

theorem Process.exited_signal : p.signal.2.exited = p.exited := by
  unfold exited
  rw [state_signal]

theorem Process.signalled_signal (h : p.signalled = true) : p.signal.2.signalled = true := by
  obtain ⟨state, signalled⟩ := p
  cases state <;> simp_all [signal]

/-- A process that was started receives the signal, unless it has exited. -/
theorem Process.signal_of_started (h : p.started = true) :
    p.signal.1 = none ∧ p.signal.2.signalled = true ∨ p.signal.1 ≠ none ∧ p.exited = true := by
  obtain ⟨state, signalled⟩ := p
  cases state <;> simp_all [started, exited, signal]

theorem Process.exit_eq_some {p' : Process} {doneErr : Option Err}
    (h : p.exit doneErr = some p') :
    p.started = true ∧ p'.started = true ∧ p'.exited = true ∧ p'.signalled = p.signalled := by
  obtain ⟨state, signalled⟩ := p
  cases state <;> simp only [exit, Option.some.injEq, reduceCtorEq] at h
  subst h
  exact ⟨rfl, rfl, rfl, rfl⟩

end Process

theorem Shared.exited_of_started {s : Shared} (hstarted : s.started = true)
    (hrunning : s.isRunning = false) : s.exited = true := by
  unfold started at hstarted
  unfold isRunning at hrunning
  unfold exited
  cases hprocess : s.process with
  | none =>
      rw [hprocess] at hstarted
      cases hstarted
  | some p =>
      rw [hprocess, Option.any_some] at hstarted hrunning
      exact (Process.started_iff.mp hstarted).resolve_left (ne_true_of_eq_false hrunning)

theorem Shared.started_of_isRunning {s : Shared} (hrunning : s.isRunning = true) :
    s.started = true := by
  unfold isRunning at hrunning
  unfold started
  cases hprocess : s.process with
  | none =>
      rw [hprocess] at hrunning
      cases hrunning
  | some p =>
      rw [hprocess, Option.any_some] at hrunning
      exact Process.started_iff.mpr (.inl hrunning)

theorem Shared.exited_of_isRunning {s : Shared} (hrunning : s.isRunning = true) :
    s.exited = false := by
  unfold isRunning at hrunning
  unfold exited
  cases hprocess : s.process with
  | none => rfl
  | some p =>
      rw [hprocess, Option.any_some] at hrunning
      exact Process.exited_of_running hrunning

/-- The signal reaches a process that was started, unless it has exited. -/
theorem Shared.signalProcess_of_started {s : Shared} (hstarted : s.started = true) :
    s.signalProcess.1 = none ∧ s.signalProcess.2.signalled = true ∨
      s.signalProcess.1 ≠ none ∧ s.exited = true := by
  unfold started at hstarted
  unfold signalProcess signalled exited
  cases hprocess : s.process with
  | none =>
      rw [hprocess] at hstarted
      cases hstarted
  | some p =>
      rw [hprocess, Option.any_some] at hstarted
      exact Process.signal_of_started hstarted

/-- The hooks before the stop. -/
def Op.PreStops : Op → Prop
  | .transition .preStop _ => True
  | _ => False

def Op.Starts : Op → Prop
  | .start => True
  | _ => False

/-- The steps that matter for who may take them. -/
def Op.Critical : Op → Prop
  | .start => True
  | .transition .preStop _ => True
  | _ => False

def Op.Stores : Op → Prop
  | .storeThisPilot _ => True
  | _ => False

section Effect

variable {s s' : Shared} {op : Op}

theorem Effect.grows (h : Effect s op s') : Grows s s' := by
  cases h with
  | none => exact .refl s
  | store pilot => exact ⟨id, fun _ => rfl, id, id, id, id⟩
  | lock => exact ⟨id, id, id, id, id, id⟩
  | unlock => exact ⟨id, id, id, id, id, id⟩
  | transition hook phase pilot => exact ⟨id, id, id, id, id, id⟩
  | construct missing =>
      refine ⟨id, id, ?_, ?_, ?_, id⟩ <;>
        simp [Shared.started, Shared.exited, Shared.signalled, missing]
  | start present pid failure =>
      refine .of_process present ?_ ?_ ?_
      · intro hstarted
        rwa [Process.start_of_started hstarted]
      · intro hexited
        rwa [Process.start_of_started (Process.started_iff.mpr (.inr hexited))]
      · intro hsignalled
        rwa [Process.signalled_start]
  | setShutdown => exact ⟨id, id, id, id, id, fun _ => rfl⟩
  | signal present =>
      refine .of_process present ?_ ?_ Process.signalled_signal
      · intro hstarted
        rwa [Process.started_signal]
      · intro hexited
        rwa [Process.exited_signal]

theorem Effect.undisturbed (h : Effect s op s') (hop : ¬ op.PreStops) : Undisturbed s s' := by
  refine ⟨h.grows, ?_⟩
  cases h with
  | transition hook phase pilot =>
      have hne : Phase.preStop ≠ phase := by
        rintro rfl
        exact hop trivial
      simp only [Hooks.Completed, Hooks.hooksOf_transition, Hooks.executedOf_transition_of_ne hne]
  | _ => exact Iff.rfl

/-- Only the start of the process starts it. -/
theorem Effect.started_before (h : Effect s op s') (hop : ¬ op.Starts)
    (hstarted : s'.started = true) : s.started = true := by
  cases h with
  | construct missing => cases hstarted
  | start present pid failure => exact absurd trivial hop
  | signal present => simpa [Shared.started, present, Process.started_signal] using hstarted
  | _ => exact hstarted

/-- No step of a thread ends the process. -/
theorem Effect.exited_before (h : Effect s op s') (hexited : s'.exited = true) :
    s.exited = true := by
  cases h with
  | construct missing => cases hexited
  | start present pid failure =>
      simpa [Shared.exited, present, Process.exited_start] using hexited
  | signal present => simpa [Shared.exited, present, Process.exited_signal] using hexited
  | _ => exact hexited

end Effect

theorem cached_of_serve {outcome : Outcome} {s s' : Shared} {op : Op} {answer : Answer op}
    (h : serve outcome s op = some (answer, s')) (hop : op.Stores) :
    s'.cachedThisPilot.isSome = true := by
  cases op with
  | storeThisPilot pilot => exact (Prod.mk.inj (Option.some.inj h)).2 ▸ rfl
  | _ => cases hop

section Guarded

variable {o : Options} {opens bad : Op → Prop} (hbad : ∀ op, bad op → op.Critical)

include hbad

theorem thisPilot_guarded : (thisPilot o).Guarded opens bad := by
  apply Thread.guarded_bind (Thread.guarded_perform (hbad _))
  intro found
  split
  · trivial
  · split
    · apply Thread.guarded_bind (Thread.guarded_perform (hbad _))
      intro cached
      split <;> trivial
    · trivial

theorem rootController_guarded {fuel : Nat} {object : Controlee} :
    (rootController fuel object).Guarded opens bad := by
  induction fuel generalizing object with
  | zero =>
      apply Thread.guarded_bind (Thread.guarded_perform (hbad _))
      intro _
      trivial
  | succ fuel ih =>
      apply Thread.guarded_bind (Thread.guarded_perform (hbad _))
      intro answer
      split
      · exact ih
      · trivial

theorem isPeer_guarded {fuel : Nat} {pilot : Pilot} :
    (isPeer o fuel pilot).Guarded opens bad := by
  apply Thread.guarded_bind (thisPilot_guarded hbad)
  intro this
  split
  · trivial
  · apply Thread.guarded_bind (rootController_guarded hbad)
    intro clusterOwnerRef
    split
    · trivial
    · trivial
    · apply Thread.guarded_bind (rootController_guarded hbad)
      intro pilotOwnerRef
      split <;> trivial

theorem pilotForKey_guarded {namespaceName name : String} :
    (pilotForKey o namespaceName name).Guarded opens bad := by
  apply Thread.guarded_bind (Thread.guarded_perform (hbad _))
  intro found
  split
  · trivial
  · split
    · trivial
    · split
      · trivial
      · apply Thread.guarded_bind (thisPilot_guarded hbad)
        intro this
        split <;> trivial

theorem updatePilotStatus_guarded {pilot : Pilot} :
    (updatePilotStatus o pilot).Guarded opens bad := by
  apply Thread.guarded_bind (Thread.guarded_perform (hbad _))
  intro running
  split
  · apply Thread.guarded_bind (Thread.guarded_perform (hbad _))
    intro process
    apply Thread.guarded_bind (Thread.guarded_perform (hbad _))
    intro now
    exact Thread.guarded_perform (hbad _)
  · apply Thread.guarded_bind (Thread.guarded_perform (hbad _))
    intro now
    exact Thread.guarded_perform (hbad _)

theorem leaderSync_guarded {pilot : Pilot} {err : Option Err} :
    (leaderSync o pilot err).Guarded opens bad := by
  unfold leaderSync
  split
  · trivial
  · apply Thread.guarded_bind (Thread.guarded_perform (hbad _))
    intro leading
    split
    · apply Thread.guarded_bind (Thread.guarded_perform (hbad _))
      intro leaderErr
      trivial
    · trivial

theorem ensureStarted_guarded (hstart : ¬ bad .start) : ensureStarted.Guarded opens bad := by
  apply Thread.guarded_bind (Thread.guarded_perform (hbad _))
  intro mayStart
  split
  · exact Thread.guarded_perform hstart
  · trivial

/-- Only for its own Pilot does the worker start the process. -/
theorem syncOwnPilot_guarded {pilot : Pilot} (hstart : o.isThis pilot = true → ¬ bad .start) :
    (syncOwnPilot o pilot).Guarded opens bad := by
  unfold syncOwnPilot
  split
  · trivial
  · rename_i hown
    have hstart : ¬ bad .start := hstart (by simpa using hown)
    apply Thread.guarded_bind (Thread.guarded_perform (hbad _))
    intro preStart
    split
    · trivial
    · apply Thread.guarded_bind (Thread.guarded_perform (hbad _))
      intro constructed
      split
      · trivial
      · apply Thread.guarded_bind (ensureStarted_guarded hbad hstart)
        intro started
        split
        · trivial
        · apply Thread.guarded_bind (Thread.guarded_perform (hbad _))
          intro postStart
          split
          · trivial
          · exact Thread.guarded_perform (hbad _)

theorem syncPilot_guarded {pilot : Pilot} (hstart : o.isThis pilot = true → ¬ bad .start) :
    (syncPilot o pilot).Guarded opens bad := by
  apply Thread.guarded_bind (Thread.guarded_perform (hbad _))
  intro _
  apply Thread.guarded_bind (syncOwnPilot_guarded hbad hstart)
  intro synced
  apply Thread.guarded_bind (leaderSync_guarded hbad)
  intro err
  apply Thread.guarded_bind (Thread.guarded_perform (hbad _))
  intro _
  split
  · exact Thread.guarded_bind (updatePilotStatus_guarded hbad) fun _ => trivial
  · trivial

theorem syncPeer_guarded (hstart : (∀ pilot, opens (.storeThisPilot pilot)) ∨ ¬ bad .start)
    {key : String} {pilot : Pilot} : (syncPeer o key pilot).Guarded opens bad := by
  have hrest (h : o.isThis pilot = true → ¬ bad .start) :
      (syncPilot o pilot >>= fun err =>
        perform (.schedule key pilot) >>= fun _ => pure err).Guarded opens bad :=
    Thread.guarded_bind (syncPilot_guarded hbad h) fun _ =>
      Thread.guarded_bind (Thread.guarded_perform (hbad _)) fun _ => trivial
  unfold syncPeer
  split
  · rcases hstart with hopens | hstart
    · exact Thread.guarded_of_opens (hbad _) (hopens pilot)
    · exact Thread.guarded_bind (Thread.guarded_perform (hbad _)) fun _ => hrest fun _ => hstart
  · rename_i hother
    exact hrest fun hown => absurd hown hother

/-- In a `sync` a copy of the own Pilot is stored before the process is started,
and the hooks before the stop are left alone. -/
theorem sync_guarded (hstart : (∀ pilot, opens (.storeThisPilot pilot)) ∨ ¬ bad .start)
    {fuel : Nat} {key : String} : (sync o fuel key).Guarded opens bad := by
  unfold sync
  split
  · trivial
  · apply Thread.guarded_bind (pilotForKey_guarded hbad)
    intro found
    split
    · trivial
    · rename_i pilot
      apply Thread.guarded_bind (isPeer_guarded hbad)
      intro peer
      split
      · trivial
      · trivial
      · exact syncPeer_guarded hbad hstart

end Guarded

section Run

variable {s : Shared} {allow : Shared → Prop}

/-- What `Run` finds when it leaves its select with a process started. -/
structure Ready (s : Shared) : Prop where
  lister : s.caches.pilotLister.FailsOnlyWithNotFound
  cached : s.cachedThisPilot.isSome = true
  started : s.started = true

theorem Ready.grows {s s' : Shared} (h : Ready s) (hgrows : Grows s s') : Ready s' :=
  ⟨hgrows.lister h.lister, hgrows.cached h.cached, hgrows.started h.started⟩

/-- `ThisPilot` finds a Pilot, be it the copy. -/
theorem thisPilot_ensures (o : Options) (hready : Ready s) :
    (thisPilot o).Ensures serve Undisturbed allow
      (fun result s' => (∃ pilot, result = .ok pilot) ∧ Ready s') s := by
  apply Thread.ensures_perform_bind (fun _ _ => rfl)
  intro s₁ h₁ _
  have hready := hready.grows h₁.1
  cases hget : s₁.caches.pilotLister.get "pilot.navigator.jetstack.io" o.pilotNamespace
      o.pilotName with
  | ok pilot => exact fun s₂ h₂ => ⟨⟨pilot, rfl⟩, hready.grows h₂.1⟩
  | error e =>
      simp only [hready.lister.isNotFound hget, if_true]
      apply Thread.ensures_perform_bind (fun _ _ => rfl)
      intro s₂ h₂ _
      have hready := hready.grows h₂.1
      obtain ⟨pilot, hcached⟩ := Option.isSome_iff_exists.mp hready.cached
      simp only [hcached]
      exact fun s₃ h₃ => ⟨⟨pilot, rfl⟩, hready.grows h₃.1⟩

/-- The process has been told to stop, or has exited before it could be. -/
def Told (s : Shared) : Prop :=
  s.signalled = true ∨ s.exited = true

theorem Told.grows {s s' : Shared} (h : Told s) (hgrows : Grows s s') : Told s' :=
  h.imp hgrows.signalled hgrows.exited

/-- `Stop` of a process that was started returns once it has been told, and
waits only after it has told it. -/
theorem stopProcess_ensures (hstarted : s.started = true) :
    stopProcess.Ensures serve Undisturbed (fun s' => s'.signalled = true)
      (fun _ s' => Grows s s' ∧ Told s') s := by
  apply Thread.ensures_perform_bind (fun _ _ => rfl)
  intro s₁ h₁ _
  have hstarted₁ := h₁.1.started hstarted
  cases hrunning : s₁.isRunning with
  | false =>
      have hexited := Shared.exited_of_started hstarted₁ hrunning
      apply Thread.ensures_perform (fun _ _ => rfl)
      intro s₂ h₂ _ s₃ h₃
      have hgrows := h₂.1.trans h₃.1
      exact ⟨h₁.1.trans hgrows, .inr (hgrows.exited hexited)⟩
  | true =>
      have hserve (outcome : Outcome) (s' : Shared) :
          serve outcome s' .signal = some (s'.signalProcess.1, s'.signalProcess.2) := rfl
      apply Thread.ensures_perform_bind hserve
      intro s₂ h₂ outcome
      have hsignal : Grows s₂ s₂.signalProcess.2 :=
        (effect_of_serve (hserve outcome s₂)).grows
      have hgrows := (h₁.1.trans h₂.1).trans hsignal
      rcases Shared.signalProcess_of_started (h₂.1.started hstarted₁) with
        ⟨hnone, hsignalled⟩ | ⟨hsome, hexited⟩
      · simp only [hnone]
        intro s₃ h₃
        refine ⟨.inl (h₃.1.signalled hsignalled), ?_⟩
        intro _ _ s₄ hawait
        have hgrows₄ := h₃.1.trans (effect_of_serve hawait).grows
        apply Thread.ensures_perform (fun _ _ => rfl)
        intro s₅ h₅ _ s₆ h₆
        have hgrows₆ := hgrows₄.trans (h₅.1.trans h₆.1)
        exact ⟨hgrows.trans hgrows₆, .inl (hgrows₆.signalled hsignalled)⟩
      · -- The process has exited since the test, and the signal fails.
        obtain ⟨e, he⟩ := Option.ne_none_iff_exists'.mp hsome
        simp only [he]
        intro s₃ h₃
        exact ⟨hgrows.trans h₃.1, .inr (h₃.1.exited (hsignal.exited hexited))⟩

/-- `stop` is under way, and has told the process if the hooks before succeed. -/
structure Stopped (s : Shared) : Prop where
  shutdown : s.shutdown = true
  told : s.hooks.Completed .preStop → Told s

theorem stop_ensures (pilot : Pilot) (hstarted : s.started = true) :
    (stop pilot).Ensures serve Undisturbed (fun s' => s'.signalled = true)
      (fun _ s' => Stopped s') s := by
  apply Thread.ensures_perform_bind (fun _ _ => rfl)
  intro s₁ h₁ _
  apply Thread.ensures_perform_bind (fun _ _ => rfl)
  intro s₂ h₂ _
  have hstarted₂ : s₂.started = true := h₂.1.started (h₁.1.started hstarted)
  have hshutdown₂ : s₂.shutdown = true := h₂.1.shutdown rfl
  cases hrunning : s₂.isRunning with
  | false =>
      intro s₃ h₃
      exact ⟨h₃.1.shutdown hshutdown₂,
        fun _ => .inr (h₃.1.exited (Shared.exited_of_started hstarted₂ hrunning))⟩
  | true =>
      apply Thread.ensures_perform_bind (fun _ _ => rfl)
      intro s₃ h₃ outcome
      have hgrows : Grows s₂ { s₃ with
          hooks := (s₃.hooks.transition outcome.hook .preStop (some pilot)).2 } :=
        h₃.1.trans (Effect.transition outcome.hook .preStop pilot).grows
      have hvalid : ∀ text unknown, Phase.preStop ≠ .other text unknown := by simp
      have hcompleted := s₃.hooks.transition_eq_none_iff outcome.hook pilot hvalid
      cases hdone : (s₃.hooks.transition outcome.hook .preStop (some pilot)).1 with
      | some e =>
          intro s₄ h₄
          refine ⟨h₄.1.shutdown (hgrows.shutdown hshutdown₂), fun h => ?_⟩
          cases hdone.symm.trans (hcompleted.mpr (h₄.2.mp h))
      | none =>
          refine Thread.ensures_bind Undisturbed.refl
            (stopProcess_ensures (hgrows.started hstarted₂)) ?_
          rintro result s₄ ⟨hgrows₄, htold⟩
          have hshutdown₄ := hgrows₄.shutdown (hgrows.shutdown hshutdown₂)
          cases result with
          | some e =>
              intro s₅ h₅
              exact ⟨h₅.1.shutdown hshutdown₄, fun _ => htold.grows h₅.1⟩
          | none =>
              apply Thread.ensures_perform (fun _ _ => rfl)
              intro s₅ h₅ outcome' s₆ h₆
              have hgrows₆ := (h₅.1.trans
                (Effect.transition outcome'.hook .postStop pilot).grows).trans h₆.1
              exact ⟨hgrows₆.shutdown hshutdown₄, fun _ => htold.grows hgrows₆⟩

theorem shutDown_ensures (o : Options) (hready : Ready s) :
    (shutDown o).Ensures serve Undisturbed (fun s' => s'.signalled = true)
      (fun _ s' => Stopped s') s := by
  refine Thread.ensures_bind Undisturbed.refl (thisPilot_ensures o hready) ?_
  rintro result s' ⟨⟨pilot, rfl⟩, hready'⟩
  exact stop_ensures pilot hready'.started

end Run

/-- The lister's lookups of Pilots fail only with NotFound. -/
def PilotsReadable : System → Event → Prop
  | _, .caches caches => caches.pilotLister.FailsOnlyWithNotFound
  | _, _ => True

instance decidablePilotsReadable : (s : System) → (event : Event) →
    Decidable (PilotsReadable s event)
  | _, .caches caches =>
      inferInstanceAs (Decidable (∀ e ∈ caches.pilotLister.failure, e.isNotFound = true))
  | _, .exit _ => isTrue trivial
  | _, .sync _ _ => isTrue trivial
  | _, .worker _ => isTrue trivial
  | _, .run _ => isTrue trivial

/-- What holds in every run: a process that was started leaves a copy of the
Pilot behind, and the threads keep to their part. -/
structure Sound (s : System) : Prop where
  lister : s.shared.caches.pilotLister.FailsOnlyWithNotFound
  cached : s.shared.started = true → s.shared.cachedThisPilot.isSome = true
  worker : s.shared.cachedThisPilot.isSome = true ∨ s.worker.Guarded Op.Stores Op.Starts
  worker_preStop : s.worker.Never Op.PreStops
  main : s.main.Never Op.Starts

section System

variable {o : Options} {s s' : System} {event : Event}

theorem critical_of_starts (op : Op) (h : op.Starts) : op.Critical := by
  cases op <;> trivial

theorem critical_of_preStops (op : Op) (h : op.PreStops) : op.Critical := by
  cases op with
  | transition phase pilot => cases phase <;> trivial
  | _ => cases h

theorem stopProcess_never_starts : stopProcess.Never Op.Starts := by
  apply Thread.guarded_bind (Thread.guarded_perform id)
  intro running
  split
  · apply Thread.guarded_bind (Thread.guarded_perform id)
    intro signalled
    split
    · trivial
    · apply Thread.guarded_bind (Thread.guarded_perform id)
      intro _
      exact Thread.guarded_perform id
  · exact Thread.guarded_perform id

/-- `Run` does not start the process. -/
theorem run_never_starts (o : Options) : (run o).Never Op.Starts := by
  apply Thread.guarded_bind (Thread.guarded_perform id)
  intro _
  apply Thread.guarded_bind (thisPilot_guarded critical_of_starts)
  intro found
  split
  · trivial
  · apply Thread.guarded_bind (Thread.guarded_perform id)
    intro _
    apply Thread.guarded_bind (Thread.guarded_perform id)
    intro running
    split
    · trivial
    · apply Thread.guarded_bind (Thread.guarded_perform id)
      intro preStop
      split
      · trivial
      · apply Thread.guarded_bind stopProcess_never_starts
        intro stopped
        split
        · trivial
        · exact Thread.guarded_perform id

theorem undisturbed_of_exit {shared : Shared} {before after : Process} {doneErr : Option Err}
    (hbefore : shared.process = some before) (hexit : before.exit doneErr = some after) :
    Undisturbed shared { shared with process := some after } := by
  obtain ⟨_, hstarted, hexited, hsignalled⟩ := Process.exit_eq_some hexit
  exact ⟨.of_process hbefore (fun _ => hstarted) (fun _ => hexited) (fun h => hsignalled ▸ h),
    Iff.rfl⟩

theorem sound_step (h : Sound s) (hreadable : PilotsReadable s event)
    (hstep : s.step o event = some s') : Sound s' := by
  cases System.moves_of_step hstep with
  | caches caches => exact ⟨hreadable, h.cached, h.worker, h.worker_preStop, h.main⟩
  | exit present ends =>
      have hstarted : s.shared.started = true := by
        rw [Shared.started, present]
        exact (Process.exit_eq_some ends).1
      have hcached := h.cached hstarted
      exact ⟨h.lister, fun _ => hcached, .inl hcached, h.worker_preStop, h.main⟩
  | sync key fuel =>
      exact ⟨h.lister, h.cached, .inr (sync_guarded critical_of_starts (.inl fun _ => trivial)),
        sync_guarded critical_of_preStops (.inr id), h.main⟩
  | worker advances =>
      obtain ⟨_, _, hserve, _, hpreStop⟩ := h.worker_preStop.advance advances
      have hgrows := (effect_of_serve hserve).grows
      have hlister := hgrows.lister h.lister
      have hpreStop := hpreStop.resolve_left id
      rcases h.worker with hcached | hguarded
      · have hcached := hgrows.cached hcached
        exact ⟨hlister, fun _ => hcached, .inl hcached, hpreStop, h.main⟩
      · -- Without a copy the worker is on its way to one, and may not start yet.
        obtain ⟨_, _, hserve, hstarts, hopens⟩ := hguarded.advance advances
        refine ⟨hlister, ?_, hopens.imp (cached_of_serve hserve) id, hpreStop, h.main⟩
        intro hstarted
        exact hgrows.cached (h.cached ((effect_of_serve hserve).started_before hstarts hstarted))
  | run advances =>
      obtain ⟨_, _, hserve, hstarts, hmain⟩ := h.main.advance advances
      have heffect := effect_of_serve hserve
      refine ⟨heffect.grows.lister h.lister, ?_, h.worker.imp heffect.grows.cached id,
        h.worker_preStop, hmain.resolve_left id⟩
      intro hstarted
      exact heffect.grows.cached (h.cached (heffect.started_before hstarts hstarted))

theorem sound_of_reachable (hreach : (pilotMachine o).Reachable PilotsReadable s) : Sound s := by
  apply hreach.invariant Sound
  · rintro _ ⟨hooks, _, rfl⟩
    refine ⟨?_, ?_, .inr trivial, trivial, run_never_starts o⟩
    · intro e he
      cases he
    · intro hstarted
      cases hstarted
  · intro state event state' hsound hreadable hstep
    exact sound_step hsound hreadable hstep

/-- What `Run` ensures it goes on to ensure, whoever takes the next step. -/
theorem ensures_step {allow : Shared → Prop} {post : Option Err → Shared → Prop}
    (hsound : Sound s) (h : s.main.Ensures serve Undisturbed allow post s.shared)
    (hreadable : PilotsReadable s event) (hstep : s.step o event = some s') :
    s'.main.Ensures serve Undisturbed allow post s'.shared := by
  cases System.moves_of_step hstep with
  | caches caches =>
      exact h.stable Undisturbed.trans ⟨⟨fun _ => hreadable, id, id, id, id, id⟩, Iff.rfl⟩
  | exit present ends => exact h.stable Undisturbed.trans (undisturbed_of_exit present ends)
  | sync key fuel => exact h
  | worker advances =>
      obtain ⟨_, _, hserve, hpreStop, _⟩ := hsound.worker_preStop.advance advances
      exact h.stable Undisturbed.trans ((effect_of_serve hserve).undisturbed hpreStop)
  | run advances => exact h.advance Undisturbed.refl advances

theorem grows_step (hsound : Sound s) (hreadable : PilotsReadable s event)
    (hstep : s.step o event = some s') : Grows s.shared s'.shared := by
  cases System.moves_of_step hstep with
  | caches caches => exact ⟨fun _ => hreadable, id, id, id, id, id⟩
  | exit present ends => exact (undisturbed_of_exit present ends).1
  | sync key fuel => exact .refl _
  | worker advances =>
      obtain ⟨_, _, hserve, _⟩ := hsound.worker_preStop.advance advances
      exact (effect_of_serve hserve).grows
  | run advances =>
      obtain ⟨_, _, hserve, _⟩ := hsound.main.advance advances
      exact (effect_of_serve hserve).grows

/-- The process does not exit by itself. -/
def ExitsWhenTold : System → Event → Prop
  | s, .exit _ => s.shared.signalled = true
  | _, _ => True

theorem exited_told_step (hsound : Sound s)
    (h : s.shared.exited = true → s.shared.signalled = true)
    (hreadable : PilotsReadable s event) (hexits : ExitsWhenTold s event)
    (hstep : s.step o event = some s') (hexited : s'.shared.exited = true) :
    s'.shared.signalled = true := by
  apply (grows_step hsound hreadable hstep).signalled
  cases System.moves_of_step hstep with
  | caches caches => exact h hexited
  | exit present ends => exact hexits
  | sync key fuel => exact h hexited
  | worker advances =>
      obtain ⟨_, _, hserve, _⟩ := hsound.worker_preStop.advance advances
      exact h ((effect_of_serve hserve).exited_before hexited)
  | run advances =>
      obtain ⟨_, _, hserve, _⟩ := hsound.main.advance advances
      exact h ((effect_of_serve hserve).exited_before hexited)

end System

/-- `Run` on its way to stop the process: `ThisPilot` finds a Pilot, whatever
others do meanwhile; `Run` does not return before it has called `stop`, nor, if
the hooks before the stop have succeeded, before the process has been told or
has exited by itself; and until it has told the process nothing holds `Run` up. -/
structure ToldToStop (o : Options) (s : System) : Prop where
  thisPilot : (thisPilot o).Ensures serve Undisturbed (fun _ => False)
    (fun result _ => ∃ pilot, result = .ok pilot) s.shared
  callsStop : s.main.result?.isSome = true → s.shared.shutdown = true
  told : s.main.result?.isSome = true → s.shared.hooks.Completed .preStop →
    s.shared.signalled = true ∨ s.shared.exited = true
  goesOn : s.main.result? = none → s.shared.signalled = false →
    ∀ outcome, (s.step o (.run outcome)).isSome = true

/-- A process that is running when `Run` leaves its select is told to stop, in
whatever way the steps that follow are interleaved; and where it does not exit
by itself, it has received the signal when `Run` returns. -/
theorem started_process_told_to_stop {o : Options} {s s' last : System}
    (hreach : (pilotMachine o).Reachable PilotsReadable s) (hselect : s.main = run o)
    (hrunning : s.shared.isRunning = true) {outcome : Outcome}
    (hleave : (pilotMachine o).step s (.run outcome) = some s') {events : List Event}
    (hreadable : (pilotMachine o).Meets PilotsReadable s' events)
    (hexec : (pilotMachine o).exec s' events = some last) :
    ToldToStop o last ∧
      ((pilotMachine o).Meets ExitsWhenTold s' events → last.main.result?.isSome = true →
        last.shared.hooks.Completed .preStop → last.shared.signalled = true) := by
  have hsound := sound_of_reachable hreach
  have hstarted := Shared.started_of_isRunning hrunning
  have hready : Ready s.shared := ⟨hsound.lister, hsound.cached hstarted, hstarted⟩
  have hs' : s' = { s with main := shutDown o } := by
    rw [show s = { s with main := run o } from hselect ▸ rfl] at hleave
    exact (Option.some.inj hleave).symm
  have hstep : s.step o (.run outcome) = some s' := hleave
  have hallowed : PilotsReadable s (.run outcome) := trivial
  have hsound' : Sound s' := sound_step hsound hallowed hstep
  have hready' : Ready s'.shared := hs' ▸ hready
  have hmain' : s'.main.Ensures serve Undisturbed (fun shared => shared.signalled = true)
      (fun _ shared => Stopped shared) s'.shared := hs' ▸ shutDown_ensures o hready
  -- `Run` has a Pilot to stop with, and keeps to what it ensures step by step.
  obtain ⟨_, hready, hmain⟩ := Machine.exec_invariant
    (fun t => Sound t ∧ Ready t.shared ∧ t.main.Ensures serve Undisturbed
      (fun shared => shared.signalled = true) (fun _ shared => Stopped shared) t.shared)
    (fun t event t' ht hreadable hstep => ⟨sound_step ht.1 hreadable hstep,
      ht.2.1.grows (grows_step ht.1 hreadable hstep),
      ensures_step ht.1 ht.2.2 hreadable hstep⟩)
    ⟨hsound', hready', hmain'⟩ hreadable hexec
  have hstopped (hreturned : last.main.result?.isSome = true) : Stopped last.shared := by
    obtain ⟨result, hresult⟩ := Option.isSome_iff_exists.mp hreturned
    exact hmain.post_of_result Undisturbed.refl hresult
  refine ⟨⟨?_, fun h => (hstopped h).shutdown, fun h => (hstopped h).told, ?_⟩, ?_⟩
  · exact (thisPilot_ensures o hready).mono fun _ _ h => h.1
  · intro hresult hsignalled outcome
    rw [System.step, Option.isSome_map]
    exact hmain.enabled Undisturbed.refl hresult (by simp [hsignalled]) outcome
  · intro hexits hreturned hcompleted
    have hup : s'.shared.exited = true → s'.shared.signalled = true := by
      intro hexited
      rw [hs', Shared.exited_of_isRunning hrunning] at hexited
      cases hexited
    have htold := Machine.exec_invariant
      (fun t => Sound t ∧ (t.shared.exited = true → t.shared.signalled = true))
      (fun t event t' ht hok hstep => ⟨sound_step ht.1 hok.1 hstep,
        exited_told_step ht.1 ht.2 hok.1 hok.2 hstep⟩)
      ⟨hsound', hup⟩ (hreadable.and hexits) hexec
    exact ((hstopped hreturned).told hcompleted).elim id htold.2

namespace StopSignalWitness

def options : Options := { pilotName := "es-db-0", pilotNamespace := "default" }

def clusterRef : OwnerReference where
  apiVersion := "navigator.jetstack.io/v1alpha1"
  kind := "ElasticsearchCluster"
  name := "db"
  uid := "uid-db"
  controller := some true

def set : StatefulSet where
  metadata :=
    { name := "es-db"
      namespaceName := "default"
      uid := "uid-set"
      ownerReferences := [clusterRef] }

def pod : Pod where
  metadata :=
    { name := "es-db-0"
      namespaceName := "default"
      uid := "uid-pod"
      ownerReferences := [newControllerRef "apps/v1beta1" "StatefulSet" set] }

def caches : State :=
  { noCaches with
    statefulSetLister := ⟨[set], none⟩
    podLister := ⟨[pod], none⟩
    pilotLister := ⟨[PilotController.pilotForPod pod], none⟩ }

def initial : System where
  shared := { caches := noCaches, hooks := { preStart := ["config"], preStop := ["drain"] } }
  main := run options

/-- The worker syncs the own Pilot until the process runs, and then the Pilot is
deleted with everything else. -/
def starting : List Event :=
  .caches caches :: .sync "default/es-db-0" 3 :: List.replicate 14 (.worker {}) ++
    [.caches noCaches]

/-- `Run` stops the process while the worker goes on. -/
def stopping : List Event :=
  [.run {}, .run {}, .worker {}, .run {}, .run {}, .run {}, .worker {}, .run {}, .run {},
    .exit none, .run {}, .worker {}, .run {}, .run {}]

def running : System := ((pilotMachine options).exec initial starting).getD initial

def leaving : System := ((pilotMachine options).step running (.run {})).getD running

def returned : System := ((pilotMachine options).exec leaving stopping).getD leaving

theorem running_reachable : (pilotMachine options).Reachable PilotsReadable running := by
  have hmeets : (pilotMachine options).Meets PilotsReadable initial starting := by decide +kernel
  have henabled : ((pilotMachine options).exec initial starting).isSome = true := by
    decide +kernel
  have hinit : (pilotMachine options).init initial := ⟨_, ⟨rfl, rfl, rfl, rfl⟩, rfl⟩
  exact Machine.Reachable.getD_exec (.start hinit) hmeets henabled

/-- The own Pilot is gone when `Run` leaves its select, and the process still
receives the signal before `Run` returns. -/
theorem started_process_told_to_stop_deleted :
    running.shared.isRunning = true ∧ running.shared.caches.pilotLister.items = [] ∧
      returned.main.result? = some none ∧ returned.shared.signalled = true ∧
      ToldToStop options returned := by
  have hfacts : running.shared.isRunning = true ∧
      running.shared.caches.pilotLister.items = [] ∧
      returned.main.result? = some none ∧ returned.shared.signalled = true := by
    decide +kernel
  have hreadable : (pilotMachine options).Meets PilotsReadable leaving stopping := by
    decide +kernel
  obtain ⟨hrunning, hdeleted, hreturned, hsignalled⟩ := hfacts
  have htold := (started_process_told_to_stop running_reachable rfl hrunning
    (show (pilotMachine options).step running (.run {}) = some leaving from rfl) hreadable
    (show (pilotMachine options).exec leaving stopping = some returned from rfl)).1
  exact ⟨hrunning, hdeleted, hreturned, hsignalled, htold⟩

end StopSignalWitness

end GenericPilot

end Navigator
