/-
The queue that the pilot schedules its next syncs with.  `AddWithKey` clears the
timer of a key and then registers a new one, each under the lock; when a timer
expires, its callback processes the object and then clears the timer of its key.
Any number of calls and callbacks run at once.
-/
import Mathlib.Data.List.Basic
import Mathlib.Logic.Function.Basic
import Navigator.Base.Machine

namespace Navigator

open ControlLoop

namespace Scheduler

/-- What has become of a timer: it may expire, its callback is running or has
returned, or it was stopped before it expired. -/
inductive TimerStatus where
  | pending
  | running
  | done
  | stopped
deriving DecidableEq

/-- A timer that was set for a key. -/
structure Timer (K α : Type) where
  key : K
  obj : α
  status : TimerStatus := .pending
deriving DecidableEq

section Queue

variable {K α : Type} [DecidableEq K]

/-- `time.Timer.Stop`. -/
def Timer.stop (timer : Timer K α) : Timer K α :=
  if timer.status = .pending then { timer with status := .stopped } else timer

def Timer.setStatus (status : TimerStatus) (timer : Timer K α) : Timer K α :=
  { timer with status := status }

/-- What is registered under a key is a timer of the key. -/
def Keyed (timers : List (Timer K α)) (work : K → Option Nat) : Prop :=
  ∀ key id, work key = some id → ∃ timer, timers[id]? = some timer ∧ timer.key = key

section Keyed

omit [DecidableEq K] in
@[simp] theorem Timer.key_stop (timer : Timer K α) : timer.stop.key = timer.key := by
  unfold stop
  split <;> rfl

omit [DecidableEq K] in
theorem keyed_nil : Keyed ([] : List (Timer K α)) fun _ => none := by
  intro key id h
  cases h

omit [DecidableEq K] in
theorem Keyed.modify {timers : List (Timer K α)} {work : K → Option Nat}
    {f : Timer K α → Timer K α} (h : Keyed timers work) (id : Nat)
    (hf : ∀ timer, (f timer).key = timer.key) : Keyed (timers.modify id f) work := by
  intro key other hother
  obtain ⟨timer, htimer, hkey⟩ := h key other hother
  refine ⟨if id = other then f timer else timer, ?_, ?_⟩
  · rw [List.getElem?_modify, htimer]
    rfl
  · split
    · rw [hf, hkey]
    · exact hkey

theorem Keyed.delete {timers : List (Timer K α)} {work : K → Option Nat}
    (h : Keyed timers work) (key : K) : Keyed timers (Function.update work key none) := by
  intro other id hid
  by_cases hother : other = key
  · rw [hother, Function.update_self] at hid
    cases hid
  · rw [Function.update_of_ne hother] at hid
    exact h other id hid

theorem Keyed.register {timers : List (Timer K α)} {work : K → Option Nat}
    (h : Keyed timers work) (timer : Timer K α) :
    Keyed (timers ++ [timer]) (Function.update work timer.key (some timers.length)) := by
  intro key id hid
  by_cases hkey : key = timer.key
  · rw [hkey, Function.update_self, Option.some.injEq] at hid
    exact ⟨timer, by rw [← hid, List.getElem?_concat_length], hkey.symm⟩
  · rw [Function.update_of_ne hkey] at hid
    obtain ⟨found, hfound, hfoundKey⟩ := h key id hid
    refine ⟨found, ?_, hfoundKey⟩
    rw [List.getElem?_append_left (List.getElem?_eq_some_iff.mp hfound).1, hfound]

end Keyed

/-- `scheduledWorkQueue`: the timers that were ever set, those registered, and
the calls of `AddWithKey` that have cleared their key and not yet registered. -/
structure ScheduledWorkQueue (K α : Type) where
  timers : List (Timer K α)
  work : K → Option Nat
  adding : List (K × α)
  keyed : Keyed timers work

namespace ScheduledWorkQueue

/-- `NewScheduledWorkQueue`. -/
def empty : ScheduledWorkQueue K α := ⟨[], fun _ => none, [], keyed_nil⟩

/-- `clearTimer`. -/
def clearTimer (s : ScheduledWorkQueue K α) (key : K) : ScheduledWorkQueue K α :=
  match s.work key with
  | none => s
  | some id =>
      { s with
        timers := s.timers.modify id Timer.stop
        work := Function.update s.work key none
        keyed := (s.keyed.modify id Timer.key_stop).delete key }

/-- A timer is set and registered. -/
def register (s : ScheduledWorkQueue K α) (key : K) (obj : α) : ScheduledWorkQueue K α where
  timers := s.timers ++ [{ key := key, obj := obj }]
  work := Function.update s.work key (some s.timers.length)
  adding := s.adding
  keyed := s.keyed.register { key := key, obj := obj }

def setStatus (s : ScheduledWorkQueue K α) (id : Nat) (status : TimerStatus) :
    ScheduledWorkQueue K α :=
  { s with
    timers := s.timers.modify id (Timer.setStatus status)
    keyed := s.keyed.modify id fun _ => rfl }

end ScheduledWorkQueue

/-- The steps under the lock, and the expiry of a timer. -/
inductive Step (K α : Type) where
  /-- A call of `AddWithKey` clears its key. -/
  | add (key : K) (obj : α)
  /-- A call of `AddWithKey` that has done so sets the timer. -/
  | register (call : Nat)
  | forget (key : K)
  /-- The timer expires and its callback starts. -/
  | expire (id : Nat)
  /-- `processFunc` has returned, and the callback clears its key. -/
  | finish (id : Nat)

/-- The timer with this number, if it has this status. -/
def withStatus (s : ScheduledWorkQueue K α) (id : Nat) (status : TimerStatus) :
    Option (Timer K α) :=
  s.timers[id]?.filter fun timer => timer.status = status

def queueMachine : Machine (ScheduledWorkQueue K α) (Step K α) where
  init s := s = .empty
  step s
    | .add key obj => some { s.clearTimer key with adding := s.adding ++ [(key, obj)] }
    | .register call => s.adding[call]?.map fun added =>
        { s.register added.1 added.2 with adding := s.adding.eraseIdx call }
    | .forget key => some (s.clearTimer key)
    | .expire id => (withStatus s id .pending).map fun _ => s.setStatus id .running
    | .finish id => (withStatus s id .running).map fun timer =>
        (s.setStatus id .done).clearTimer timer.key

section Timers

variable {s s' : ScheduledWorkQueue K α} {id : Nat} {key : K} {timer : Timer K α}

/-- Of the timers, clearing a key stops the one that is registered under it. -/
theorem timers_clearTimer (s : ScheduledWorkQueue K α) (key : K) (id : Nat) :
    (s.clearTimer key).timers[id]? =
      s.timers[id]?.map fun timer => if s.work key = some id then timer.stop else timer := by
  unfold ScheduledWorkQueue.clearTimer
  split
  · rename_i hnone
    simp [hnone]
  · rename_i registered hregistered
    rw [List.getElem?_modify, hregistered]
    simp only [Option.some.injEq]
    rfl

theorem work_clearTimer (s : ScheduledWorkQueue K α) (key : K) :
    (s.clearTimer key).work = Function.update s.work key none := by
  unfold ScheduledWorkQueue.clearTimer
  split
  · rename_i hnone
    rw [← hnone, Function.update_eq_self]
  · rfl

omit [DecidableEq K] in
theorem timers_setStatus (s : ScheduledWorkQueue K α) (id other : Nat) (status : TimerStatus) :
    (s.setStatus id status).timers[other]? =
      s.timers[other]?.map fun timer => if id = other then timer.setStatus status else timer := by
  rw [ScheduledWorkQueue.setStatus, List.getElem?_modify]
  rfl

/-- Setting a timer leaves the others as they are. -/
theorem timers_register {key : K} {obj : α} (h : (s.register key obj).timers[id]? = some timer) :
    s.timers[id]? = some timer ∨ id = s.timers.length ∧ timer = { key := key, obj := obj } := by
  have hmem : (s.timers ++ [{ key := key, obj := obj }])[id]? = some timer := h
  rw [List.getElem?_append] at hmem
  split at hmem
  · exact .inl hmem
  · rename_i hlast
    obtain ⟨hindex, hnew⟩ := List.getElem?_eq_some_iff.mp hmem
    simp only [List.length_singleton] at hindex
    exact .inr ⟨by omega, by simpa using hnew.symm⟩

end Timers

/-- A callback that clears its key finds no other timer registered under it. -/
def ClearsOwn (s : ScheduledWorkQueue K α) : Step K α → Prop
  | .finish id => ∀ timer ∈ s.timers[id]?, ∀ other ∈ s.work timer.key, other = id
  | _ => True

instance decidableClearsOwn (s : ScheduledWorkQueue K α) : (step : Step K α) →
    Decidable (ClearsOwn s step)
  | .finish id => inferInstanceAs (Decidable
      (∀ timer ∈ s.timers[id]?, ∀ other ∈ s.work timer.key, other = id))
  | .add _ _ => isTrue trivial
  | .register _ => isTrue trivial
  | .forget _ => isTrue trivial
  | .expire _ => isTrue trivial

section Cancelled

variable {s s' : ScheduledWorkQueue K α} {event : Step K α} {id : Nat} {timer : Timer K α}

omit [DecidableEq K] in
theorem Timer.stop_eq_or_pending (timer : Timer K α) :
    timer.stop = timer ∨ timer.status = .pending := by
  unfold stop
  split
  · rename_i hpending
    exact .inr hpending
  · exact .inl rfl

/-- Clearing a key leaves a timer as it was, unless it could still expire and is
registered under the key. -/
theorem of_clearTimer {key : K} (h : (s.clearTimer key).timers[id]? = some timer) :
    s.timers[id]? = some timer ∨
      ∃ before, s.timers[id]? = some before ∧ before.status = .pending ∧
        before.key = timer.key ∧ s.work key = some id := by
  rw [timers_clearTimer] at h
  obtain ⟨before, hbefore, hafter⟩ := Option.map_eq_some_iff.mp h
  split at hafter
  · rename_i hregistered
    subst hafter
    rcases Timer.stop_eq_or_pending before with hsame | hpending
    · exact .inl (hsame.symm ▸ hbefore)
    · exact .inr ⟨before, hbefore, hpending, (Timer.key_stop before).symm, hregistered⟩
  · exact .inl (hafter ▸ hbefore)

/-- Under the condition, the steps that stop a timer are those of calls for its
key. -/
theorem of_stopped_step (hown : ClearsOwn s event) (hstep : queueMachine.step s event = some s')
    (hafter : s'.timers[id]? = some timer) (hstopped : timer.status = .stopped) :
    s.timers[id]? = some timer ∨
      ∃ before, s.timers[id]? = some before ∧ before.status = .pending ∧
        before.key = timer.key ∧
        (event = .forget timer.key ∨ ∃ obj, event = .add timer.key obj) := by
  -- The key that a call has cleared is the one of the timer that it has stopped.
  have hcall (key : K) (hcleared : (s.clearTimer key).timers[id]? = some timer) :
      s.timers[id]? = some timer ∨ ∃ before, s.timers[id]? = some before ∧
        before.status = .pending ∧ before.key = timer.key ∧ key = timer.key := by
    rcases of_clearTimer hcleared with h | ⟨before, hbefore, hpending, hkey, hwork⟩
    · exact .inl h
    · obtain ⟨registered, hregistered, hkeyed⟩ := s.keyed key id hwork
      obtain rfl : before = registered := Option.some.inj (hbefore.symm.trans hregistered)
      exact .inr ⟨before, hbefore, hpending, hkey, hkeyed.symm.trans hkey⟩
  cases event with
  | add key obj =>
      obtain rfl := Option.some.inj hstep
      rcases hcall key hafter with h | ⟨before, hbefore, hpending, hkey, rfl⟩
      · exact .inl h
      · exact .inr ⟨before, hbefore, hpending, hkey, .inr ⟨obj, rfl⟩⟩
  | forget key =>
      obtain rfl := Option.some.inj hstep
      rcases hcall key hafter with h | ⟨before, hbefore, hpending, hkey, rfl⟩
      · exact .inl h
      · exact .inr ⟨before, hbefore, hpending, hkey, .inl rfl⟩
  | register call =>
      obtain ⟨added, -, rfl⟩ := Option.map_eq_some_iff.mp hstep
      rcases timers_register hafter with h | ⟨-, rfl⟩
      · exact .inl h
      · cases hstopped
  | expire expired =>
      obtain ⟨_, -, rfl⟩ := Option.map_eq_some_iff.mp hstep
      rw [timers_setStatus] at hafter
      obtain ⟨before, hbefore, hset⟩ := Option.map_eq_some_iff.mp hafter
      split at hset
      · subst hset
        cases hstopped
      · exact .inl (hset ▸ hbefore)
  | finish finished =>
      obtain ⟨own, hfound, rfl⟩ := Option.map_eq_some_iff.mp hstep
      have hown' : s.timers[finished]? = some own := (Option.filter_eq_some_iff.mp hfound).1
      rcases of_clearTimer hafter with h | ⟨before, hbefore, hpending, -, hwork⟩
      · rw [timers_setStatus] at h
        obtain ⟨before, hbefore, hset⟩ := Option.map_eq_some_iff.mp h
        split at hset
        · subst hset
          cases hstopped
        · exact .inl (hset ▸ hbefore)
      · -- The registered timer is the own one, whose callback has returned.
        have hself : id = finished := hown own hown' id hwork
        rw [timers_setStatus, hself, hown'] at hbefore
        obtain rfl : own.setStatus .done = before := by simpa using hbefore
        cases hpending

/-- In every run in which a callback that clears its key finds no other timer
under it, a timer that was stopped before it expired was stopped by a call for
its key, and the call came after the timer was set: it finds the timer pending and
leaves it stopped. -/
theorem stopped_by_later_call {events : List (Step K α)} {last : ScheduledWorkQueue K α}
    (hmeets : queueMachine.Meets ClearsOwn .empty events)
    (hexec : queueMachine.exec .empty events = some last)
    (hset : last.timers[id]? = some timer) (hstopped : timer.status = .stopped) :
    ∃ before event after mid next timer₀ timer₁, events = before ++ event :: after ∧
      queueMachine.exec .empty before = some mid ∧ mid.timers[id]? = some timer₀ ∧
      timer₀.status = .pending ∧ timer₀.key = timer.key ∧
      (event = .forget timer.key ∨ ∃ obj, event = .add timer.key obj) ∧
      queueMachine.step mid event = some next ∧ next.timers[id]? = some timer₁ ∧
      timer₁.status = .stopped ∧ timer₁.key = timer.key := by
  obtain ⟨before, event, after, mid, next, hsplit, hbefore, hown, hstep, hnot, hnow⟩ :=
    Machine.exists_step_of_exec (fun s : ScheduledWorkQueue K α =>
      ∃ t, s.timers[id]? = some t ∧ t.status = .stopped ∧ t.key = timer.key) hmeets hexec
      (by simp [ScheduledWorkQueue.empty]) ⟨timer, hset, hstopped, rfl⟩
  obtain ⟨found, hfound, hfoundStopped, hkey⟩ := hnow
  rcases of_stopped_step hown hstep hfound hfoundStopped with
    h | ⟨timer₀, hmid, hpending, hkey₀, hevent⟩
  · exact absurd ⟨found, h, hfoundStopped, hkey⟩ hnot
  · rw [hkey] at hkey₀ hevent
    exact ⟨before, event, after, mid, next, timer₀, found, hsplit, hbefore, hmid, hpending, hkey₀,
      hevent, hstep, hfound, hfoundStopped, hkey⟩

end Cancelled

/-- A call of `AddWithKey` that sets its timer finds none under its key that
could still expire. -/
def SetsAlone (s : ScheduledWorkQueue K α) : Step K α → Prop
  | .register call => ∀ added ∈ s.adding[call]?, ∀ id ∈ s.work added.1,
      ∀ timer ∈ s.timers[id]?, timer.status ≠ .pending
  | _ => True

instance decidableSetsAlone (s : ScheduledWorkQueue K α) : (step : Step K α) →
    Decidable (SetsAlone s step)
  | .register call => inferInstanceAs (Decidable (∀ added ∈ s.adding[call]?,
      ∀ id ∈ s.work added.1, ∀ timer ∈ s.timers[id]?, timer.status ≠ .pending))
  | .add _ _ => isTrue trivial
  | .forget _ => isTrue trivial
  | .expire _ => isTrue trivial
  | .finish _ => isTrue trivial

/-- Every timer that can still expire is the one registered under its key. -/
def PendingRegistered (s : ScheduledWorkQueue K α) : Prop :=
  ∀ id timer, s.timers[id]? = some timer → timer.status = .pending → s.work timer.key = some id

/-- No timer of the key can still expire. -/
def NonePending (s : ScheduledWorkQueue K α) (key : K) : Prop :=
  ∀ timer ∈ s.timers, timer.key = key → timer.status ≠ .pending

section Registered

variable {s s' : ScheduledWorkQueue K α} {event : Step K α} {id : Nat} {timer : Timer K α}

omit [DecidableEq K] in
theorem Timer.stop_not_pending : timer.stop.status ≠ .pending := by
  unfold stop
  split
  · simp
  · assumption

/-- Clearing a key stops its timer, and no other. -/
theorem PendingRegistered.clearTimer (h : PendingRegistered s) (key : K) :
    PendingRegistered (s.clearTimer key) ∧ NonePending (s.clearTimer key) key := by
  have hother : ∀ id timer, (s.clearTimer key).timers[id]? = some timer →
      timer.status = .pending → s.work timer.key = some id ∧ timer.key ≠ key := by
    intro id timer htimer hpending
    rw [timers_clearTimer] at htimer
    obtain ⟨before, hbefore, hafter⟩ := Option.map_eq_some_iff.mp htimer
    split at hafter
    · exact absurd (hafter ▸ hpending) Timer.stop_not_pending
    · rename_i hunregistered
      subst hafter
      have hwork := h id before hbefore hpending
      exact ⟨hwork, fun hkey => hunregistered (hkey ▸ hwork)⟩
  constructor
  · intro id timer htimer hpending
    obtain ⟨hwork, hkey⟩ := hother id timer htimer hpending
    rw [work_clearTimer, Function.update_of_ne hkey, hwork]
  · intro timer hmem hkey hpending
    obtain ⟨id, htimer⟩ := List.mem_iff_getElem?.mp hmem
    exact (hother id timer htimer hpending).2 hkey

omit [DecidableEq K] in
theorem PendingRegistered.setStatus (h : PendingRegistered s) {status : TimerStatus}
    (hstatus : status ≠ .pending) (id : Nat) : PendingRegistered (s.setStatus id status) := by
  intro other timer htimer hpending
  rw [timers_setStatus] at htimer
  obtain ⟨before, hbefore, hafter⟩ := Option.map_eq_some_iff.mp htimer
  split at hafter
  · subst hafter
    exact absurd hpending hstatus
  · subst hafter
    exact h other before hbefore hpending

theorem PendingRegistered.register (h : PendingRegistered s) {key : K} {obj : α}
    (halone : ∀ id ∈ s.work key, ∀ timer ∈ s.timers[id]?, timer.status ≠ .pending) :
    PendingRegistered (s.register key obj) := by
  intro id timer htimer hpending
  rcases timers_register htimer with hold | ⟨rfl, rfl⟩
  · have hwork := h id timer hold hpending
    have hkey : timer.key ≠ key := by
      rintro rfl
      exact halone id hwork timer hold hpending
    exact (Function.update_of_ne hkey _ _).trans hwork
  · exact Function.update_self _ _ _

theorem PendingRegistered.step (h : PendingRegistered s) (halone : SetsAlone s event)
    (hstep : queueMachine.step s event = some s') : PendingRegistered s' := by
  cases event with
  | add key obj =>
      obtain rfl := Option.some.inj hstep
      exact (h.clearTimer key).1
  | forget key =>
      obtain rfl := Option.some.inj hstep
      exact (h.clearTimer key).1
  | register call =>
      obtain ⟨added, hadded, rfl⟩ := Option.map_eq_some_iff.mp hstep
      exact h.register (halone added hadded)
  | expire id =>
      obtain ⟨_, -, rfl⟩ := Option.map_eq_some_iff.mp hstep
      exact h.setStatus (by simp) id
  | finish id =>
      obtain ⟨timer, -, rfl⟩ := Option.map_eq_some_iff.mp hstep
      exact ((h.setStatus (by simp) id).clearTimer timer.key).1

/-- In every run in which no two timers of a key are set without a clearing in
between, every timer that can still expire is the one registered under its key;
so a call that adds a key again or forgets it leaves none of the key. -/
theorem pending_timer_registered (hreach : queueMachine.Reachable SetsAlone s) :
    PendingRegistered s ∧
      ∀ key s', (queueMachine.step s (.forget key) = some s' ∨
        ∃ obj, queueMachine.step s (.add key obj) = some s') → NonePending s' key := by
  have hregistered : PendingRegistered s := by
    apply hreach.invariant PendingRegistered
    · rintro _ rfl id timer htimer
      simp [ScheduledWorkQueue.empty] at htimer
    · intro state event state' h halone hstep
      exact h.step halone hstep
  refine ⟨hregistered, ?_⟩
  rintro key s' (hforget | ⟨obj, hadd⟩)
  · obtain rfl := Option.some.inj hforget
    exact (hregistered.clearTimer key).2
  · obtain rfl := Option.some.inj hadd
    exact (hregistered.clearTimer key).2

end Registered

end Queue

namespace SchedulerWitness

/-- A timer of the key expires, and its object is added again once the callback
has returned. -/
def resync : List (Step String Nat) :=
  [.add "default/es-db-0" 0, .register 0, .expire 0, .finish 0, .add "default/es-db-0" 1,
    .register 0]

def again : ScheduledWorkQueue String Nat := (queueMachine.exec .empty resync).getD .empty

def forgotten : ScheduledWorkQueue String Nat :=
  (queueMachine.exec .empty (resync ++ [.forget "default/es-db-0"])).getD .empty

theorem stopped_by_later_call_forget :
    forgotten.timers = [⟨"default/es-db-0", 0, .done⟩, ⟨"default/es-db-0", 1, .stopped⟩] ∧
      ∃ before event after mid next timer₀ timer₁,
        resync ++ [.forget "default/es-db-0"] = before ++ event :: after ∧
        queueMachine.exec .empty before = some mid ∧ mid.timers[1]? = some timer₀ ∧
        timer₀.status = .pending ∧ timer₀.key = "default/es-db-0" ∧
        (event = .forget "default/es-db-0" ∨ ∃ obj, event = .add "default/es-db-0" obj) ∧
        queueMachine.step mid event = some next ∧ next.timers[1]? = some timer₁ ∧
        timer₁.status = .stopped ∧ timer₁.key = "default/es-db-0" := by
  have hmeets : queueMachine.Meets ClearsOwn (.empty : ScheduledWorkQueue String Nat)
      (resync ++ [.forget "default/es-db-0"]) := by
    decide +kernel
  have htimers : forgotten.timers =
      [⟨"default/es-db-0", 0, .done⟩, ⟨"default/es-db-0", 1, .stopped⟩] := by
    decide +kernel
  have hset : forgotten.timers[1]? = some ⟨"default/es-db-0", 1, .stopped⟩ := by
    rw [htimers]
    rfl
  exact ⟨htimers, stopped_by_later_call hmeets rfl hset rfl⟩

/-- The object is added again while the callback is still running. -/
def overlapping : List (Step String Nat) :=
  [.add "default/es-db-0" 0, .register 0, .expire 0, .add "default/es-db-0" 1, .register 0,
    .finish 0]

def lost : ScheduledWorkQueue String Nat := (queueMachine.exec .empty overlapping).getD .empty

/-- The callback of the first timer stops the second, and no call came after
that was set. -/
theorem callback_stops_newer_timer :
    (queueMachine.exec (.empty : ScheduledWorkQueue String Nat) overlapping).isSome = true ∧
      lost.timers = [⟨"default/es-db-0", 0, .done⟩, ⟨"default/es-db-0", 1, .stopped⟩] ∧
      ((queueMachine.exec (.empty : ScheduledWorkQueue String Nat) (overlapping.take 5)).map
        ScheduledWorkQueue.timers) =
        some [⟨"default/es-db-0", 0, .running⟩, ⟨"default/es-db-0", 1, .pending⟩] := by
  decide +kernel

theorem pending_timer_registered_again :
    again.timers = [⟨"default/es-db-0", 0, .done⟩, ⟨"default/es-db-0", 1, .pending⟩] ∧
      PendingRegistered again := by
  have hmeets : queueMachine.Meets SetsAlone (.empty : ScheduledWorkQueue String Nat) resync := by
    decide +kernel
  have hreach : queueMachine.Reachable SetsAlone again :=
    Machine.Reachable.getD_exec (.start rfl) hmeets (by decide +kernel)
  exact ⟨by decide +kernel, (pending_timer_registered hreach).1⟩

/-- Two calls for the key that overlap. -/
def twice : ScheduledWorkQueue String Nat :=
  (queueMachine.exec .empty [.add "default/es-db-0" 0, .add "default/es-db-0" 1, .register 0,
    .register 0]).getD .empty

/-- Both timers will expire, and only the second is registered. -/
theorem two_pending_timers :
    queueMachine.Reachable Machine.anyStep twice ∧
      twice.timers = [⟨"default/es-db-0", 0, .pending⟩, ⟨"default/es-db-0", 1, .pending⟩] ∧
      twice.work "default/es-db-0" = some 1 :=
  ⟨Machine.Reachable.getD_exec (.start rfl) (Machine.meets_anyStep _ _ _) (by decide +kernel),
    by decide +kernel⟩

end SchedulerWitness

end Scheduler

end Navigator
