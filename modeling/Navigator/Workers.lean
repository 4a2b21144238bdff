/-
The workers of a controller.  The event handlers put keys into a rate-limited work
queue; each worker takes a key, syncs it, asks for it again after a delay if the
sync failed, and gives it back.  The Elasticsearch controller, the Cassandra
controller, the pilot controller and the controller inside a pilot all run this
loop; they differ in how their handlers put a key into the queue.
-/
import Mathlib.Logic.Function.Basic
import Navigator.Base.Machine
import Navigator.Base.WorkQueue

namespace Navigator

open ControlLoop

namespace Workers

/-- The delays of `DefaultControllerRateLimiter`, in nanoseconds. -/
def baseDelay : Nat := 5 * 10 ^ 6

def maxDelay : Nat := 1000 * 10 ^ 9

/-- How an event handler puts a key into the queue: `enqueueElasticsearchCluster` and the
queuing handler call `Add`, `enqueueCassandraCluster` and `enqueuePilot` call
`AddRateLimited`.  A controller may have handlers of both kinds: the Cassandra controller
has a queuing handler for the clusters, and others for their StatefulSets and pods. -/
inductive Enqueue where
  | add
  | addRateLimited
deriving DecidableEq

/-- A call of `AddAfter` that has not returned: before its test for the shutdown, or
at the send to the channel. -/
inductive Call (K : Type) where
  | addAfter (item : K) (duration : Nat)
  | send (item : K) (readyAt : Nat)
deriving DecidableEq

def Call.item {K : Type} : Call K → K
  | .addAfter item _ => item
  | .send item _ => item

/-- Where a worker is: not launched yet, before `Get`, inside `sync`, inside
`AddRateLimited` after a failed sync, before the deferred `Done`, or returned. -/
inductive Worker (K : Type) where
  | starting
  | idle
  | syncing (item : K)
  | requeuing (call : Call K)
  | finishing (item : K)
  | stopped
deriving DecidableEq

/-- The key that a worker has taken. -/
def Worker.item {K : Type} : Worker K → Option K
  | .syncing item => some item
  | .requeuing call => some call.item
  | .finishing item => some item
  | _ => none

/-- A worker that may still take keys. -/
def Worker.Running {K : Type} (worker : Worker K) : Prop :=
  worker ≠ .starting ∧ worker ≠ .stopped

/-- A controller with `n` workers, whose event handlers are called by `m` informers.
`stopCh` says whether the stop channel of `Run` is closed. -/
structure Controller (n m : Nat) (K : Type) [DecidableEq K] where
  queue : DelayingQueue K := {}
  failures : K → Nat := fun _ => 0
  worker : Fin n → Worker K := fun _ => .starting
  handler : Fin m → Option (Call K) := fun _ => none
  stopCh : Bool := false

inductive Event (n m : Nat) (K : Type) where
  /-- A handler is told of a change; `bucket` is what the token bucket answers. -/
  | notify (h : Fin m) (item : K) (bucket : Nat)
  /-- A handler goes on with its call, or gives it up at the shutdown. -/
  | resume (h : Fin m)
  | drop (h : Fin m)
  /-- `wait.Until` starts the worker loop, or returns at once. -/
  | launch (w : Fin n)
  | cancel (w : Fin n)
  | get (w : Fin n)
  | quit (w : Fin n)
  /-- The sync returns, and `Forget` or `When` is called. -/
  | succeed (w : Fin n)
  | fail (w : Fin n) (bucket : Nat)
  /-- A worker goes on with its call, or gives it up at the shutdown. -/
  | requeue (w : Fin n)
  | abandon (w : Fin n)
  | done (w : Fin n)
  /-- The waiting loop of the queue. -/
  | receive
  | fire (item : K)
  | tick (duration : Nat)
  /-- The stop channel is closed, after which `Run` shuts the queue down. -/
  | stop
  | shutDown
deriving DecidableEq

section

variable {K : Type} [DecidableEq K] {n m : Nat}

/-- `AddAfter`: what is left of the call, if it does not return. -/
def Call.advance (queue : DelayingQueue K) : Call K → Option (DelayingQueue K × Option (Call K))
  | .addAfter item duration =>
      if queue.active.shuttingDown then some (queue, none)
      else if duration = 0 then some (queue.add item, none)
      else some (queue, some (.send item (queue.clock + duration)))
  | .send item readyAt => (queue.send item readyAt).map fun queue => (queue, none)

/-- The select in `AddAfter` takes the branch of the closed stop channel. -/
def Call.abandoned (queue : DelayingQueue K) : Call K → Bool
  | .addAfter _ _ => false
  | .send _ _ => queue.active.shuttingDown

namespace Controller

/-- The delay that `When` of the rate limiter answers for the key. -/
def delay (c : Controller n m K) (item : K) (bucket : Nat) : Nat :=
  max (exponentialDelay baseDelay maxDelay (c.failures item)) bucket

/-- `When` counts the key's failures. -/
def count (c : Controller n m K) (item : K) : Controller n m K :=
  { c with failures := Function.update c.failures item (c.failures item + 1) }

def forget (c : Controller n m K) (item : K) : Controller n m K :=
  { c with failures := Function.update c.failures item 0 }

def setWorker (c : Controller n m K) (w : Fin n) (worker : Worker K) : Controller n m K :=
  { c with worker := Function.update c.worker w worker }

def setHandler (c : Controller n m K) (h : Fin m) (call : Option (Call K)) : Controller n m K :=
  { c with handler := Function.update c.handler h call }

def setQueue (c : Controller n m K) (queue : DelayingQueue K) : Controller n m K :=
  { c with queue := queue }

/-- What a worker does after its call: `processNextWorkItem` returns. -/
def afterCall (call : Call K) (rest : Option (Call K)) : Worker K :=
  rest.elim (.finishing call.item) .requeuing

def step (enqueue : Fin m → Enqueue) (c : Controller n m K) : Event n m K → Option (Controller n m K)
  | .notify h item bucket =>
      if c.handler h = none then
        match enqueue h with
        | .add => some (c.setQueue (c.queue.add item))
        | .addRateLimited =>
            some ((c.count item).setHandler h (some (.addAfter item (c.delay item bucket))))
      else none
  | .resume h =>
      (c.handler h).bind fun call => (call.advance c.queue).map fun result =>
        (c.setQueue result.1).setHandler h result.2
  | .drop h =>
      (c.handler h).bind fun call =>
        if call.abandoned c.queue then some (c.setHandler h none) else none
  | .launch w =>
      if c.worker w = .starting ∧ c.stopCh = false then some (c.setWorker w .idle) else none
  | .cancel w =>
      if c.worker w = .starting ∧ c.stopCh = true then some (c.setWorker w .stopped) else none
  | .get w =>
      if c.worker w = .idle then
        c.queue.active.get.map fun result =>
          (c.setQueue { c.queue with active := result.2 }).setWorker w (.syncing result.1)
      else none
  | .quit w =>
      if c.worker w = .idle ∧ c.queue.active.queue = [] ∧ c.queue.active.shuttingDown then
        some (c.setWorker w .stopped)
      else none
  | .succeed w =>
      match c.worker w with
      | .syncing item => some ((c.forget item).setWorker w (.finishing item))
      | _ => none
  | .fail w bucket =>
      match c.worker w with
      | .syncing item =>
          some ((c.count item).setWorker w
            (.requeuing (.addAfter item (c.delay item bucket))))
      | _ => none
  | .requeue w =>
      match c.worker w with
      | .requeuing call => (call.advance c.queue).map fun result =>
          (c.setQueue result.1).setWorker w (afterCall call result.2)
      | _ => none
  | .abandon w =>
      match c.worker w with
      | .requeuing call =>
          if call.abandoned c.queue then some (c.setWorker w (.finishing call.item)) else none
      | _ => none
  | .done w =>
      match c.worker w with
      | .finishing item =>
          some ((c.setQueue { c.queue with active := c.queue.active.done item }).setWorker w .idle)
      | _ => none
  | .receive => c.queue.receive.map c.setQueue
  | .fire item => (c.queue.fire item).map c.setQueue
  | .tick duration => some (c.setQueue (c.queue.tick duration))
  | .stop => some { c with stopCh := true }
  | .shutDown =>
      if c.stopCh = true ∧ c.queue.active.shuttingDown = false then
        some (c.setQueue { c.queue with active := c.queue.active.shutDown })
      else none

@[simp] theorem setWorker_worker (c : Controller n m K) (w : Fin n) (worker : Worker K) :
    (c.setWorker w worker).worker = Function.update c.worker w worker := rfl

@[simp] theorem setWorker_queue (c : Controller n m K) (w : Fin n) (worker : Worker K) :
    (c.setWorker w worker).queue = c.queue := rfl

@[simp] theorem setWorker_handler (c : Controller n m K) (w : Fin n) (worker : Worker K) :
    (c.setWorker w worker).handler = c.handler := rfl

@[simp] theorem setWorker_failures (c : Controller n m K) (w : Fin n) (worker : Worker K) :
    (c.setWorker w worker).failures = c.failures := rfl

@[simp] theorem setWorker_stopCh (c : Controller n m K) (w : Fin n) (worker : Worker K) :
    (c.setWorker w worker).stopCh = c.stopCh := rfl

@[simp] theorem setHandler_worker (c : Controller n m K) (h : Fin m) (call : Option (Call K)) :
    (c.setHandler h call).worker = c.worker := rfl

@[simp] theorem setHandler_queue (c : Controller n m K) (h : Fin m) (call : Option (Call K)) :
    (c.setHandler h call).queue = c.queue := rfl

@[simp] theorem setHandler_handler (c : Controller n m K) (h : Fin m) (call : Option (Call K)) :
    (c.setHandler h call).handler = Function.update c.handler h call := rfl

@[simp] theorem setHandler_failures (c : Controller n m K) (h : Fin m) (call : Option (Call K)) :
    (c.setHandler h call).failures = c.failures := rfl

@[simp] theorem setHandler_stopCh (c : Controller n m K) (h : Fin m) (call : Option (Call K)) :
    (c.setHandler h call).stopCh = c.stopCh := rfl

@[simp] theorem setQueue_worker (c : Controller n m K) (queue : DelayingQueue K) :
    (c.setQueue queue).worker = c.worker := rfl

@[simp] theorem setQueue_queue (c : Controller n m K) (queue : DelayingQueue K) :
    (c.setQueue queue).queue = queue := rfl

@[simp] theorem setQueue_handler (c : Controller n m K) (queue : DelayingQueue K) :
    (c.setQueue queue).handler = c.handler := rfl

@[simp] theorem setQueue_failures (c : Controller n m K) (queue : DelayingQueue K) :
    (c.setQueue queue).failures = c.failures := rfl

@[simp] theorem setQueue_stopCh (c : Controller n m K) (queue : DelayingQueue K) :
    (c.setQueue queue).stopCh = c.stopCh := rfl

@[simp] theorem count_worker (c : Controller n m K) (item : K) :
    (c.count item).worker = c.worker := rfl

@[simp] theorem count_queue (c : Controller n m K) (item : K) :
    (c.count item).queue = c.queue := rfl

@[simp] theorem count_handler (c : Controller n m K) (item : K) :
    (c.count item).handler = c.handler := rfl

@[simp] theorem count_failures (c : Controller n m K) (item : K) :
    (c.count item).failures = Function.update c.failures item (c.failures item + 1) := rfl

@[simp] theorem count_stopCh (c : Controller n m K) (item : K) :
    (c.count item).stopCh = c.stopCh := rfl

@[simp] theorem forget_worker (c : Controller n m K) (item : K) :
    (c.forget item).worker = c.worker := rfl

@[simp] theorem forget_queue (c : Controller n m K) (item : K) :
    (c.forget item).queue = c.queue := rfl

@[simp] theorem forget_handler (c : Controller n m K) (item : K) :
    (c.forget item).handler = c.handler := rfl

@[simp] theorem forget_failures (c : Controller n m K) (item : K) :
    (c.forget item).failures = Function.update c.failures item 0 := rfl

@[simp] theorem forget_stopCh (c : Controller n m K) (item : K) :
    (c.forget item).stopCh = c.stopCh := rfl

/-- What a step does, case by case. -/
inductive Effect (enqueue : Fin m → Enqueue) (c : Controller n m K) :
    Event n m K → Controller n m K → Prop where
  | notifyAdd {h : Fin m} {item : K} {bucket : Nat} :
      enqueue h = .add → c.handler h = none →
      Effect enqueue c (.notify h item bucket) (c.setQueue (c.queue.add item))
  | notifyLimited {h : Fin m} {item : K} {bucket : Nat} :
      enqueue h = .addRateLimited → c.handler h = none →
      Effect enqueue c (.notify h item bucket)
        ((c.count item).setHandler h (some (.addAfter item (c.delay item bucket))))
  | resume {h : Fin m} {call : Call K} {queue : DelayingQueue K} {rest : Option (Call K)} :
      c.handler h = some call → call.advance c.queue = some (queue, rest) →
      Effect enqueue c (.resume h) ((c.setQueue queue).setHandler h rest)
  | drop {h : Fin m} {call : Call K} :
      c.handler h = some call → call.abandoned c.queue = true →
      Effect enqueue c (.drop h) (c.setHandler h none)
  | launch {w : Fin n} :
      c.worker w = .starting → c.stopCh = false →
      Effect enqueue c (.launch w) (c.setWorker w .idle)
  | cancel {w : Fin n} :
      c.worker w = .starting → c.stopCh = true →
      Effect enqueue c (.cancel w) (c.setWorker w .stopped)
  | get {w : Fin n} {item : K} {active : WorkQueue K} :
      c.worker w = .idle → c.queue.active.get = some (item, active) →
      Effect enqueue c (.get w)
        ((c.setQueue { c.queue with active := active }).setWorker w (.syncing item))
  | quit {w : Fin n} :
      c.worker w = .idle → c.queue.active.queue = [] → c.queue.active.shuttingDown = true →
      Effect enqueue c (.quit w) (c.setWorker w .stopped)
  | succeed {w : Fin n} {item : K} :
      c.worker w = .syncing item →
      Effect enqueue c (.succeed w) ((c.forget item).setWorker w (.finishing item))
  | fail {w : Fin n} {item : K} {bucket : Nat} :
      c.worker w = .syncing item →
      Effect enqueue c (.fail w bucket)
        ((c.count item).setWorker w (.requeuing (.addAfter item (c.delay item bucket))))
  | requeue {w : Fin n} {call : Call K} {queue : DelayingQueue K} {rest : Option (Call K)} :
      c.worker w = .requeuing call → call.advance c.queue = some (queue, rest) →
      Effect enqueue c (.requeue w) ((c.setQueue queue).setWorker w (afterCall call rest))
  | abandon {w : Fin n} {call : Call K} :
      c.worker w = .requeuing call → call.abandoned c.queue = true →
      Effect enqueue c (.abandon w) (c.setWorker w (.finishing call.item))
  | done {w : Fin n} {item : K} :
      c.worker w = .finishing item →
      Effect enqueue c (.done w)
        ((c.setQueue { c.queue with active := c.queue.active.done item }).setWorker w .idle)
  | receive {queue : DelayingQueue K} :
      c.queue.receive = some queue → Effect enqueue c .receive (c.setQueue queue)
  | fire {item : K} {queue : DelayingQueue K} :
      c.queue.fire item = some queue → Effect enqueue c (.fire item) (c.setQueue queue)
  | tick {duration : Nat} :
      Effect enqueue c (.tick duration) (c.setQueue (c.queue.tick duration))
  | stop : Effect enqueue c .stop { c with stopCh := true }
  | shutDown :
      c.stopCh = true → c.queue.active.shuttingDown = false →
      Effect enqueue c .shutDown
        (c.setQueue { c.queue with active := c.queue.active.shutDown })

theorem step_effect {enqueue : Fin m → Enqueue} {c c' : Controller n m K} {e : Event n m K}
    (h : c.step enqueue e = some c') : Effect enqueue c e c' := by
  cases e with
  | notify handler item bucket =>
      simp only [step] at h
      split at h
      case isTrue hfree =>
        split at h
        · rename_i hadd
          cases h
          exact .notifyAdd hadd hfree
        · rename_i hlimited
          cases h
          exact .notifyLimited hlimited hfree
      · cases h
  | resume handler =>
      obtain ⟨call, hcall, hrest⟩ := Option.bind_eq_some_iff.mp h
      obtain ⟨result, hresult, rfl⟩ := Option.map_eq_some_iff.mp hrest
      exact .resume hcall hresult
  | drop handler =>
      obtain ⟨call, hcall, hrest⟩ := Option.bind_eq_some_iff.mp h
      split at hrest
      · cases hrest
        exact .drop hcall ‹_›
      · cases hrest
  | launch w =>
      obtain ⟨⟨hworker, hstop⟩, ⟨⟩⟩ := Option.ite_none_right_eq_some.mp h
      exact .launch hworker hstop
  | cancel w =>
      obtain ⟨⟨hworker, hstop⟩, ⟨⟩⟩ := Option.ite_none_right_eq_some.mp h
      exact .cancel hworker hstop
  | get w =>
      obtain ⟨hworker, hget⟩ := Option.ite_none_right_eq_some.mp h
      obtain ⟨result, hresult, rfl⟩ := Option.map_eq_some_iff.mp hget
      exact .get hworker hresult
  | quit w =>
      obtain ⟨⟨hworker, hqueue, hdown⟩, ⟨⟩⟩ := Option.ite_none_right_eq_some.mp h
      exact .quit hworker hqueue hdown
  | succeed w =>
      simp only [step] at h
      split at h
      · cases h
        exact .succeed ‹_›
      · cases h
  | fail w bucket =>
      simp only [step] at h
      split at h
      · cases h
        exact .fail ‹_›
      · cases h
  | requeue w =>
      simp only [step] at h
      split at h
      · obtain ⟨result, hresult, rfl⟩ := Option.map_eq_some_iff.mp h
        exact .requeue ‹_› hresult
      · cases h
  | abandon w =>
      simp only [step] at h
      split at h
      · obtain ⟨habandoned, ⟨⟩⟩ := Option.ite_none_right_eq_some.mp h
        exact .abandon ‹_› habandoned
      · cases h
  | done w =>
      simp only [step] at h
      split at h
      · cases h
        exact .done ‹_›
      · cases h
  | receive =>
      obtain ⟨queue, hqueue, rfl⟩ := Option.map_eq_some_iff.mp h
      exact .receive hqueue
  | fire item =>
      obtain ⟨queue, hqueue, rfl⟩ := Option.map_eq_some_iff.mp h
      exact .fire hqueue
  | tick duration =>
      cases h
      exact .tick
  | stop =>
      cases h
      exact .stop
  | shutDown =>
      obtain ⟨⟨hstop, hopen⟩, ⟨⟩⟩ := Option.ite_none_right_eq_some.mp h
      exact .shutDown hstop hopen

end Controller

def machine (n : Nat) {m : Nat} (enqueue : Fin m → Enqueue) (K : Type) [DecidableEq K] :
    Machine (Controller n m K) (Event n m K) where
  init c := c = {}
  step := Controller.step enqueue

/-! ## One worker for a key -/

theorem Call.advance_cases {queue queue' : DelayingQueue K} {call : Call K}
    {rest : Option (Call K)} (h : call.advance queue = some (queue', rest)) :
    (∃ item duration, call = .addAfter item duration ∧ queue.active.shuttingDown = true ∧
        queue' = queue ∧ rest = none) ∨
      (∃ item, call = .addAfter item 0 ∧ queue.active.shuttingDown = false ∧
        queue' = queue.add item ∧ rest = none) ∨
      (∃ item duration, call = .addAfter item duration ∧ queue.active.shuttingDown = false ∧
        queue' = queue ∧ rest = some (.send item (queue.clock + duration))) ∨
      ∃ item readyAt, call = .send item readyAt ∧ queue.send item readyAt = some queue' ∧
        rest = none := by
  cases call with
  | addAfter item duration =>
      simp only [advance] at h
      split_ifs at h with hdown hzero
      · cases h
        exact .inl ⟨item, duration, rfl, hdown, rfl, rfl⟩
      · cases h
        exact .inr (.inl ⟨item, by rw [hzero], by simpa using hdown, rfl, rfl⟩)
      · cases h
        exact .inr (.inr (.inl ⟨item, duration, rfl, by simpa using hdown, rfl, rfl⟩))
  | send item readyAt =>
      obtain ⟨sent, hsent, heq⟩ := Option.map_eq_some_iff.mp h
      cases heq
      exact .inr (.inr (.inr ⟨item, readyAt, rfl, hsent, rfl⟩))

theorem Call.advance_grown {queue queue' : DelayingQueue K} {call : Call K}
    {rest : Option (Call K)} (h : call.advance queue = some (queue', rest)) :
    WorkQueue.Grown queue.active queue'.active := by
  obtain ⟨_, _, _, _, rfl, _⟩ | ⟨item, _, _, rfl, _⟩ | ⟨_, _, _, _, rfl, _⟩ |
    ⟨_, _, _, hsend, _⟩ := advance_cases h
  · exact .inl rfl
  · exact .add _ item
  · exact .inl rfl
  · rw [DelayingQueue.send_eq_some hsend]
    exact .inl rfl

theorem Call.advance_clock {queue queue' : DelayingQueue K} {call : Call K}
    {rest : Option (Call K)} (h : call.advance queue = some (queue', rest)) :
    queue'.clock = queue.clock := by
  obtain ⟨_, _, _, _, rfl, _⟩ | ⟨_, _, _, rfl, _⟩ | ⟨_, _, _, _, rfl, _⟩ |
    ⟨_, _, _, hsend, _⟩ := advance_cases h
  · rfl
  · rfl
  · rfl
  · exact DelayingQueue.send_clock hsend

theorem Call.advance_waiting {queue queue' : DelayingQueue K} {call : Call K}
    {rest : Option (Call K)} (h : call.advance queue = some (queue', rest)) :
    queue'.waiting = queue.waiting := by
  obtain ⟨_, _, _, _, rfl, _⟩ | ⟨_, _, _, rfl, _⟩ | ⟨_, _, _, _, rfl, _⟩ |
    ⟨_, _, _, hsend, _⟩ := advance_cases h
  · rfl
  · rfl
  · rfl
  · rw [DelayingQueue.send_eq_some hsend]

theorem Call.advance_channel {queue queue' : DelayingQueue K} {call : Call K}
    {rest : Option (Call K)} (h : call.advance queue = some (queue', rest)) :
    queue.waitingForAddCh <+: queue'.waitingForAddCh := by
  obtain ⟨_, _, _, _, rfl, _⟩ | ⟨_, _, _, rfl, _⟩ | ⟨_, _, _, _, rfl, _⟩ |
    ⟨_, _, _, hsend, _⟩ := advance_cases h
  · exact List.prefix_refl _
  · exact List.prefix_refl _
  · exact List.prefix_refl _
  · rw [DelayingQueue.send_eq_some hsend]
    exact List.prefix_append _ _

/-- The call is for one key until it returns. -/
theorem Call.advance_item {queue queue' : DelayingQueue K} {call next : Call K}
    (h : call.advance queue = some (queue', some next)) : next.item = call.item := by
  obtain ⟨_, _, _, _, _, hnone⟩ | ⟨_, _, _, _, hnone⟩ | ⟨_, _, rfl, _, _, hnext⟩ |
    ⟨_, _, _, _, hnone⟩ := advance_cases h
  · cases hnone
  · cases hnone
  · cases hnext
    rfl
  · cases hnone

namespace Controller

/-- What a step does to the queue and to the keys that the workers have taken. -/
inductive Kind (c c' : Controller n m K) : Event n m K → Prop where
  | get {w : Fin n} {item : K} : c.worker w = .idle →
      c.queue.active.get = some (item, c'.queue.active) →
      c'.worker = Function.update c.worker w (.syncing item) → Kind c c' (.get w)
  | done {w : Fin n} {item : K} : c.worker w = .finishing item →
      c'.queue.active = c.queue.active.done item →
      c'.worker = Function.update c.worker w .idle → Kind c c' (.done w)
  | shutDown : c'.queue.active = c.queue.active.shutDown → c'.worker = c.worker →
      Kind c c' .shutDown
  | other {e : Event n m K} : WorkQueue.Grown c.queue.active c'.queue.active →
      (∀ w, (c'.worker w).item = (c.worker w).item) → Kind c c' e

omit [DecidableEq K] in
/-- A worker that goes on has the same key. -/
theorem item_update {worker : Fin n → Worker K} {w : Fin n} {next : Worker K}
    (h : next.item = (worker w).item) (w' : Fin n) :
    (Function.update worker w next w').item = (worker w').item := by
  by_cases heq : w' = w
  · rw [heq, Function.update_self, h]
  · rw [Function.update_of_ne heq]

theorem item_afterCall {queue queue' : DelayingQueue K} {call : Call K} {rest : Option (Call K)}
    (h : call.advance queue = some (queue', rest)) :
    (afterCall call rest).item = some call.item := by
  cases rest with
  | none => rfl
  | some next => exact congrArg some (Call.advance_item h)

theorem step_kind {enqueue : Fin m → Enqueue} {c c' : Controller n m K} {e : Event n m K}
    (h : c.step enqueue e = some c') : Kind c c' e := by
  cases step_effect h with
  | notifyAdd => exact .other (.add _ _) fun _ => rfl
  | notifyLimited => exact .other (.inl rfl) fun _ => rfl
  | resume _ hadvance => exact .other (Call.advance_grown hadvance) fun _ => rfl
  | drop => exact .other (.inl rfl) fun _ => rfl
  | launch hworker => exact .other (.inl rfl) (item_update (by rw [hworker]; rfl))
  | cancel hworker => exact .other (.inl rfl) (item_update (by rw [hworker]; rfl))
  | get hworker hget => exact .get hworker hget rfl
  | quit hworker => exact .other (.inl rfl) (item_update (by rw [hworker]; rfl))
  | succeed hworker =>
      exact .other (.inl rfl) (item_update (by rw [forget_worker, hworker]; rfl))
  | fail hworker => exact .other (.inl rfl) (item_update (by rw [count_worker, hworker]; rfl))
  | requeue hworker hadvance =>
      refine .other (Call.advance_grown hadvance) (item_update ?_)
      rw [setQueue_worker, hworker, item_afterCall hadvance]
      rfl
  | abandon hworker => exact .other (.inl rfl) (item_update (by rw [hworker]; rfl))
  | done hworker => exact .done hworker rfl rfl
  | receive hreceive => exact .other (DelayingQueue.receive_grown hreceive) fun _ => rfl
  | fire hfire => exact .other (DelayingQueue.fire_grown hfire) fun _ => rfl
  | tick => exact .other (.inl rfl) fun _ => rfl
  | stop => exact .other (.inl rfl) fun _ => rfl
  | shutDown => exact .shutDown rfl rfl

/-- The queue is in order, and the keys it believes to be processed are the ones
that the workers have taken, each by one worker. -/
structure Sound (c : Controller n m K) : Prop where
  valid : c.queue.active.Valid
  processing : ∀ item,
    item ∈ c.queue.active.processing ↔ ∃ w, (c.worker w).item = some item
  single : ∀ w w' item, (c.worker w).item = some item → (c.worker w').item = some item → w = w'

theorem sound_init : Sound ({} : Controller n m K) :=
  ⟨WorkQueue.valid_empty, fun item => by simp [Worker.item], fun _ _ _ h => by cases h⟩

/-- A worker takes a key that no worker has. -/
theorem Sound.get {c : Controller n m K} (h : c.Sound) {w : Fin n} {item : K}
    {active : WorkQueue K} {c' : Controller n m K} (hidle : c.worker w = .idle)
    (hget : c.queue.active.get = some (item, active)) (hactive : c'.queue.active = active)
    (hworker : c'.worker = Function.update c.worker w (.syncing item)) : c'.Sound := by
  obtain ⟨-, hfree, hvalid⟩ := h.valid.get hget
  obtain ⟨-, hprocessing, -⟩ := WorkQueue.get_eq_some hget
  have hnone : ∀ w', (c.worker w').item ≠ some item := fun w' hw' =>
    hfree ((h.processing item).mpr ⟨w', hw'⟩)
  have hitem : ∀ w' item', (c'.worker w').item = some item' ↔
      w' = w ∧ item' = item ∨ (c.worker w').item = some item' := by
    intro w' item'
    rw [hworker]
    by_cases heq : w' = w
    · rw [heq, Function.update_self, hidle]
      simp [Worker.item, eq_comm]
    · rw [Function.update_of_ne heq]
      simp [heq]
  refine ⟨hactive ▸ hvalid, fun item' => ?_, fun w₁ w₂ item' h₁ h₂ => ?_⟩
  · rw [hactive, hprocessing, Finset.mem_insert, h.processing item']
    simp only [hitem]
    constructor
    · rintro (rfl | ⟨w', hw'⟩)
      · exact ⟨w, .inl ⟨rfl, rfl⟩⟩
      · exact ⟨w', .inr hw'⟩
    · rintro ⟨w', ⟨-, rfl⟩ | hw'⟩
      · exact .inl rfl
      · exact .inr ⟨w', hw'⟩
  · rcases (hitem _ _).mp h₁ with ⟨rfl, rfl⟩ | h₁ <;> rcases (hitem _ _).mp h₂ with ⟨rfl, heq⟩ | h₂
    · rfl
    · exact absurd h₂ (hnone w₂)
    · exact absurd (heq ▸ h₁) (hnone w₁)
    · exact h.single _ _ _ h₁ h₂

/-- A worker gives its key back. -/
theorem Sound.done {c : Controller n m K} (h : c.Sound) {w : Fin n} {item : K}
    {c' : Controller n m K} (hfinishing : c.worker w = .finishing item)
    (hactive : c'.queue.active = c.queue.active.done item)
    (hworker : c'.worker = Function.update c.worker w .idle) : c'.Sound := by
  have hheld : (c.worker w).item = some item := by rw [hfinishing]; rfl
  have hitem : ∀ w' item', (c'.worker w').item = some item' ↔
      w' ≠ w ∧ (c.worker w').item = some item' := by
    intro w' item'
    rw [hworker]
    by_cases heq : w' = w
    · rw [heq, Function.update_self]
      simp [Worker.item]
    · rw [Function.update_of_ne heq]
      simp [heq]
  refine ⟨?_, fun item' => ?_, fun w₁ w₂ item' h₁ h₂ => ?_⟩
  · rw [hactive]
    exact h.valid.done ((h.processing item).mpr ⟨w, hheld⟩)
  · rw [hactive, WorkQueue.done_processing, Finset.mem_erase, h.processing item']
    simp only [hitem]
    constructor
    · rintro ⟨hne, w', hw'⟩
      refine ⟨w', ?_, hw'⟩
      rintro rfl
      exact hne (Option.some.inj (hw'.symm.trans hheld))
    · rintro ⟨w', hne, hw'⟩
      refine ⟨?_, w', hw'⟩
      rintro rfl
      exact hne (h.single _ _ _ hw' hheld)
  · exact h.single _ _ _ ((hitem _ _).mp h₁).2 ((hitem _ _).mp h₂).2

theorem Sound.step {enqueue : Fin m → Enqueue} {c c' : Controller n m K} {e : Event n m K}
    (h : c.Sound) (hstep : c.step enqueue e = some c') : c'.Sound := by
  cases step_kind hstep with
  | get hidle hget hworker => exact h.get hidle hget rfl hworker
  | done hfinishing hactive hworker => exact h.done hfinishing hactive hworker
  | shutDown hactive hworker =>
      refine ⟨hactive ▸ h.valid.shutDown, fun item => ?_, hworker ▸ h.single⟩
      rw [hactive, hworker]
      exact h.processing item
  | other hgrown hitem =>
      refine ⟨hgrown.valid h.valid, fun item => ?_, fun w w' item hw hw' => ?_⟩
      · simp only [hgrown.processing, hitem]
        exact h.processing item
      · exact h.single w w' item (hitem w ▸ hw) (hitem w' ▸ hw')

end Controller

theorem sound_of_reachable {enqueue : Fin m → Enqueue} {ok : Controller n m K → Event n m K → Prop}
    {c : Controller n m K} (h : (machine n enqueue K).Reachable ok c) : c.Sound :=
  h.invariant Controller.Sound (fun _ hinit => hinit ▸ Controller.sound_init)
    fun _ _ _ hsound _ hstep => hsound.step hstep

/-- A worker keeps its key until it gives it back. -/
theorem Controller.item_step {enqueue : Fin m → Enqueue} {c c' : Controller n m K} {e : Event n m K}
    {w : Fin n} {item : K} (hstep : c.step enqueue e = some c')
    (hitem : (c.worker w).item = some item) :
    (c'.worker w).item = some item ∨ e = .done w := by
  cases step_kind hstep with
  | get hidle hget hworker =>
      refine .inl ?_
      rw [hworker, Function.update_of_ne]
      · exact hitem
      · rintro rfl
        rw [hidle] at hitem
        cases hitem
  | @done w' item' hfinishing hactive hworker =>
      by_cases heq : w = w'
      · exact .inr (by rw [heq])
      · refine .inl ?_
        rw [hworker, Function.update_of_ne heq]
        exact hitem
  | shutDown hactive hworker => exact .inl (hworker ▸ hitem)
  | other hgrown hitems => exact .inl ((hitems w).trans hitem)

/-- Syncs of one key never overlap: whoever has a key gives it back before any
worker takes it again. -/
theorem done_before_next_get {enqueue : Fin m → Enqueue} {c c₁ c₂ : Controller n m K}
    {events : List (Event n m K)} {w w' : Fin n} {item : K}
    (hreach : (machine n enqueue K).Reachable Machine.anyStep c)
    (hitem : (c.worker w).item = some item)
    (hexec : (machine n enqueue K).exec c events = some c₁)
    (hget : c₁.step enqueue (.get w') = some c₂) (hstart : c₂.worker w' = .syncing item) :
    .done w ∈ events := by
  by_contra hnot
  -- the worker would still have the key when it is taken again
  have hmeets : (machine n enqueue K).Meets (fun _ e => e ≠ .done w) c events :=
    Machine.meets_of_forall _ (by rintro e he rfl; exact hnot he) c
  have hheld : (c₁.worker w).item = some item :=
    Machine.exec_invariant (fun c => (c.worker w).item = some item)
      (fun _ _ _ hitem hne hstep => (Controller.item_step hstep hitem).resolve_right hne)
      hitem hmeets hexec
  have hsound := sound_of_reachable (hreach.of_exec (Machine.meets_anyStep _ _ _) hexec)
  cases Controller.step_effect hget with
  | get hidle hactive =>
      rw [Controller.setWorker_worker, Function.update_self, Worker.syncing.injEq] at hstart
      refine (hsound.valid.get hactive).2.1 ((hsound.processing _).mpr ⟨w, ?_⟩)
      rw [hstart]
      exact hheld

/-! ## No request is lost -/

theorem Call.advance_holds {queue queue' : DelayingQueue K} {call : Call K}
    {rest : Option (Call K)} (hopen : queue.active.shuttingDown = false)
    (h : call.advance queue = some (queue', rest)) :
    (∀ item, queue.Holds item → queue'.Holds item) ∧
      (queue'.Holds call.item ∨ ∃ next, rest = some next ∧ next.item = call.item) := by
  obtain ⟨_, _, _, hdown, _⟩ | ⟨item, rfl, _, rfl, _⟩ | ⟨item, duration, rfl, _, rfl, hrest⟩ |
    ⟨item, readyAt, rfl, hsend, _⟩ := advance_cases h
  · rw [hopen] at hdown
    cases hdown
  · exact ⟨fun _ hholds => hholds.add item, .inl (DelayingQueue.holds_add hopen item)⟩
  · exact ⟨fun _ => id, .inr ⟨_, hrest, rfl⟩⟩
  · exact ⟨fun _ => DelayingQueue.Holds.send hsend, .inl (DelayingQueue.holds_send hsend)⟩

theorem Call.not_abandoned {queue : DelayingQueue K} (hopen : queue.active.shuttingDown = false)
    (call : Call K) : call.abandoned queue = false := by
  cases call with
  | addAfter item duration => rfl
  | send item readyAt => exact hopen

namespace Controller

/-- A sync of the key is still to come: the key is asked for, it waits for its delay,
or a call that adds it has not returned. -/
def Owed (c : Controller n m K) (item : K) : Prop :=
  c.queue.Holds item ∨
    (∃ w call, c.worker w = .requeuing call ∧ call.item = item) ∨
    ∃ h call, c.handler h = some call ∧ call.item = item

/-- What a worker that is not in a call does leaves the requests alone. -/
theorem Owed.setWorker {c : Controller n m K} {item : K} {w : Fin n} (howed : c.Owed item)
    (hnot : ∀ call, c.worker w ≠ .requeuing call) (worker : Worker K) :
    (c.setWorker w worker).Owed item := by
  rcases howed with hqueue | ⟨w', call, hcall, hitem⟩ | hhandler
  · exact .inl hqueue
  · refine .inr (.inl ⟨w', call, ?_, hitem⟩)
    rw [setWorker_worker, Function.update_of_ne]
    · exact hcall
    · rintro rfl
      exact hnot call hcall
  · exact .inr (.inr hhandler)

theorem Owed.setQueue {c : Controller n m K} {item : K} {queue : DelayingQueue K}
    (howed : c.Owed item) (hqueue : c.queue.Holds item → queue.Holds item) :
    (c.setQueue queue).Owed item :=
  howed.imp_left hqueue

/-- A handler's call takes its key a step further. -/
theorem Owed.resume {c : Controller n m K} {item : K} {h : Fin m} {call : Call K}
    {queue : DelayingQueue K} {rest : Option (Call K)} (howed : c.Owed item)
    (hopen : c.queue.active.shuttingDown = false) (hcall : c.handler h = some call)
    (hadvance : call.advance c.queue = some (queue, rest)) :
    ((c.setQueue queue).setHandler h rest).Owed item := by
  obtain ⟨hkeep, hown⟩ := Call.advance_holds hopen hadvance
  rcases howed with hqueue | hworker | ⟨h', call', hcall', hitem⟩
  · exact .inl (hkeep item hqueue)
  · exact .inr (.inl hworker)
  · by_cases heq : h' = h
    · rw [heq, hcall, Option.some.injEq] at hcall'
      rw [← hcall'] at hitem
      rcases hown with hholds | ⟨next, hnext, hsame⟩
      · exact .inl (hitem ▸ hholds)
      · exact .inr (.inr ⟨h, next, by simp [hnext], hsame.trans hitem⟩)
    · refine .inr (.inr ⟨h', call', ?_, hitem⟩)
      rw [setHandler_handler, Function.update_of_ne heq]
      exact hcall'

/-- So does a worker's call. -/
theorem Owed.requeue {c : Controller n m K} {item : K} {w : Fin n} {call : Call K}
    {queue : DelayingQueue K} {rest : Option (Call K)} (howed : c.Owed item)
    (hopen : c.queue.active.shuttingDown = false) (hcall : c.worker w = .requeuing call)
    (hadvance : call.advance c.queue = some (queue, rest)) :
    ((c.setQueue queue).setWorker w (afterCall call rest)).Owed item := by
  obtain ⟨hkeep, hown⟩ := Call.advance_holds hopen hadvance
  rcases howed with hqueue | ⟨w', call', hcall', hitem⟩ | hhandler
  · exact .inl (hkeep item hqueue)
  · by_cases heq : w' = w
    · rw [heq, hcall, Worker.requeuing.injEq] at hcall'
      rw [← hcall'] at hitem
      rcases hown with hholds | ⟨next, hnext, hsame⟩
      · exact .inl (hitem ▸ hholds)
      · exact .inr (.inl ⟨w, next, by simp [hnext, afterCall], hsame.trans hitem⟩)
    · refine .inr (.inl ⟨w', call', ?_, hitem⟩)
      rw [setWorker_worker, Function.update_of_ne heq]
      exact hcall'
  · exact .inr (.inr hhandler)

/-- A worker takes a key: only that key may have no other request. -/
theorem Owed.get {c : Controller n m K} {item taken : K} {w : Fin n} {active : WorkQueue K}
    (howed : c.Owed item) (hidle : c.worker w = .idle)
    (hget : c.queue.active.get = some (taken, active)) (hne : item ≠ taken) :
    ((c.setQueue { c.queue with active := active }).setWorker w (.syncing taken)).Owed item := by
  refine (howed.setQueue (fun hholds => ?_)).setWorker (fun call => ?_) _
  · obtain ⟨-, -, hdirty, -⟩ := WorkQueue.get_eq_some hget
    refine hholds.imp_left fun hmem => ?_
    rw [hdirty]
    exact Finset.mem_erase.mpr ⟨hne, hmem⟩
  · rw [setQueue_worker, hidle]
    simp

theorem shuttingDown_step {enqueue : Fin m → Enqueue} {c c' : Controller n m K} {e : Event n m K}
    (hstep : c.step enqueue e = some c') (hopen : c'.queue.active.shuttingDown = false) :
    c.queue.active.shuttingDown = false := by
  cases step_kind hstep with
  | get _ hget => exact (WorkQueue.get_eq_some hget).2.2.2 ▸ hopen
  | done _ hactive => rwa [hactive, WorkQueue.done_shuttingDown] at hopen
  | shutDown hactive =>
      rw [hactive] at hopen
      cases hopen
  | other hgrown => exact hgrown.shuttingDown ▸ hopen

/-- While the queue is open, a request stays until a worker starts on it. -/
theorem Owed.step {enqueue : Fin m → Enqueue} {c c' : Controller n m K} {e : Event n m K} {item : K}
    (howed : c.Owed item) (hstep : c.step enqueue e = some c')
    (hopen : c'.queue.active.shuttingDown = false) :
    c'.Owed item ∨ ∃ w, e = .get w ∧ c'.worker w = .syncing item := by
  have hopen' := shuttingDown_step hstep hopen
  cases step_effect hstep with
  | notifyAdd => exact .inl (howed.setQueue fun hholds => hholds.add _)
  | @notifyLimited h other bucket hlimited hfree =>
      refine .inl (howed.imp_right (Or.imp_right ?_))
      rintro ⟨h', call, hcall, hitem⟩
      refine ⟨h', call, ?_, hitem⟩
      rw [setHandler_handler, Function.update_of_ne]
      · exact hcall
      · rintro rfl
        rw [hfree] at hcall
        cases hcall
  | resume hcall hadvance => exact .inl (howed.resume hopen' hcall hadvance)
  | drop hcall habandoned =>
      rw [Call.not_abandoned hopen'] at habandoned
      cases habandoned
  | launch hworker => exact .inl (howed.setWorker (by simp [hworker]) _)
  | cancel hworker => exact .inl (howed.setWorker (by simp [hworker]) _)
  | @get w taken active hidle hget =>
      by_cases heq : item = taken
      · exact .inr ⟨w, rfl, by simp [heq]⟩
      · exact .inl (howed.get hidle hget heq)
  | quit hworker => exact .inl (howed.setWorker (by simp [hworker]) _)
  | @succeed w other hworker =>
      have howed' : (c.forget other).Owed item := howed
      exact .inl (howed'.setWorker (by simp [hworker]) _)
  | @fail w other bucket hworker =>
      have howed' : (c.count other).Owed item := howed
      exact .inl (howed'.setWorker (by simp [hworker]) _)
  | requeue hcall hadvance => exact .inl (howed.requeue hopen' hcall hadvance)
  | abandon hcall habandoned =>
      rw [Call.not_abandoned hopen'] at habandoned
      cases habandoned
  | done hworker =>
      refine .inl ((howed.setQueue fun hholds => ?_).setWorker (by simp [hworker]) _)
      exact hholds.imp_left fun hdirty => by rwa [WorkQueue.done_dirty]
  | receive hreceive => exact .inl (howed.setQueue (DelayingQueue.Holds.receive hopen' hreceive))
  | fire hfire => exact .inl (howed.setQueue (DelayingQueue.Holds.fire hopen' hfire))
  | tick => exact .inl (howed.setQueue id)
  | stop => exact .inl howed
  | shutDown => cases hopen

/-- A notification asks for the key. -/
theorem owed_notify {enqueue : Fin m → Enqueue} {c c' : Controller n m K} {h : Fin m} {item : K}
    {bucket : Nat} (hstep : c.step enqueue (.notify h item bucket) = some c')
    (hopen : c'.queue.active.shuttingDown = false) : c'.Owed item := by
  have hopen' := shuttingDown_step hstep hopen
  cases step_effect hstep with
  | notifyAdd => exact .inl (DelayingQueue.holds_add hopen' item)
  | notifyLimited =>
      exact .inr (.inr ⟨h, .addAfter item (c.delay item bucket), by simp, rfl⟩)

/-- A running sync goes on, ends well, or the key is asked for again. -/
theorem syncing_step {enqueue : Fin m → Enqueue} {c c' : Controller n m K} {e : Event n m K} {w : Fin n}
    {item : K} (hsyncing : c.worker w = .syncing item) (hstep : c.step enqueue e = some c') :
    c'.worker w = .syncing item ∨ e = .succeed w ∨ c'.Owed item := by
  have hother : ∀ w' next, c.worker w' ≠ .syncing item →
      Function.update c.worker w' next w = .syncing item := by
    intro w' next hne
    rw [Function.update_of_ne]
    · exact hsyncing
    · rintro rfl
      exact hne hsyncing
  cases step_effect hstep with
  | notifyAdd | notifyLimited | resume | drop | receive | fire | tick | stop | shutDown =>
      exact .inl hsyncing
  | launch hworker | cancel hworker | quit hworker =>
      exact .inl (hother _ _ (by simp [hworker]))
  | get hworker => exact .inl (hother _ _ (by simp [hworker]))
  | requeue hworker | abandon hworker =>
      exact .inl (hother _ _ (by simp [hworker]))
  | done hworker => exact .inl (hother _ _ (by simp [hworker]))
  | @succeed w' item' hworker =>
      by_cases heq : w = w'
      · exact .inr (.inl (by rw [heq]))
      · exact .inl (by simp [Function.update_of_ne heq, hsyncing])
  | @fail w' item' bucket hworker =>
      by_cases heq : w = w'
      · refine .inr (.inr (.inr (.inl ⟨w, .addAfter item' (c.delay item' bucket), ?_, ?_⟩)))
        · simp [heq]
        rw [heq, hworker, Worker.syncing.injEq] at hsyncing
        exact hsyncing
      · exact .inl (by simp [Function.update_of_ne heq, hsyncing])

end Controller

/-- The sync that the worker is running ends well in the run, or lasts to its end. -/
def Completed (enqueue : Fin m → Enqueue) (c : Controller n m K) (events : List (Event n m K))
    (w : Fin n) (item : K) : Prop :=
  ∃ during c', (machine n enqueue K).exec c during = some c' ∧ c'.worker w = .syncing item ∧
    (events = during ∨ ∃ rest, events = during ++ .succeed w :: rest)

/-- In the run a worker starts a sync of the key that ends well or is still running
at the end of the run. -/
def Answered (enqueue : Fin m → Enqueue) (c : Controller n m K) (events : List (Event n m K))
    (item : K) : Prop :=
  ∃ w before after c', events = before ++ .get w :: after ∧
    (machine n enqueue K).exec c (before ++ [.get w]) = some c' ∧
    c'.worker w = .syncing item ∧ Completed enqueue c' after w item

section Runs

variable {enqueue : Fin m → Enqueue} {c c' : Controller n m K} {e : Event n m K}
  {events : List (Event n m K)} {item : K} {w : Fin n}

theorem Completed.cons (hstep : c.step enqueue e = some c')
    (h : Completed enqueue c' events w item) : Completed enqueue c (e :: events) w item := by
  obtain ⟨during, c₁, hexec, hsyncing, hevents⟩ := h
  refine ⟨e :: during, c₁, ?_, hsyncing, ?_⟩
  · rw [Machine.exec]
    exact Option.bind_eq_some_iff.mpr ⟨c', hstep, hexec⟩
  · rcases hevents with rfl | ⟨rest, rfl⟩
    · exact .inl rfl
    · exact .inr ⟨rest, rfl⟩

theorem Answered.cons (hstep : c.step enqueue e = some c')
    (h : Answered enqueue c' events item) : Answered enqueue c (e :: events) item := by
  obtain ⟨w, before, after, c₁, rfl, hexec, hrest⟩ := h
  refine ⟨w, e :: before, after, c₁, rfl, ?_, hrest⟩
  rw [List.cons_append, Machine.exec]
  exact Option.bind_eq_some_iff.mpr ⟨c', hstep, hexec⟩

theorem Completed.start (hstep : c.step enqueue (.get w) = some c')
    (hsyncing : c'.worker w = .syncing item) (h : Completed enqueue c' events w item) :
    Answered enqueue c (.get w :: events) item := by
  refine ⟨w, [], events, c', rfl, ?_, hsyncing, h⟩
  rw [List.nil_append, Machine.exec]
  exact Option.bind_eq_some_iff.mpr ⟨c', hstep, rfl⟩

theorem open_of_exec {last : Controller n m K}
    (hexec : (machine n enqueue K).exec c events = some last)
    (hopen : last.queue.active.shuttingDown = false) : c.queue.active.shuttingDown = false := by
  induction events generalizing c with
  | nil =>
      simp only [Machine.exec, Option.some.injEq] at hexec
      rwa [hexec]
  | cons e events ih =>
      obtain ⟨next, hnext, hrest⟩ := Option.bind_eq_some_iff.mp hexec
      exact Controller.shuttingDown_step hnext (ih hrest)

/-- A request is kept, or answered: the induction is over the run, with a second
statement for the part of it in which a worker syncs the key. -/
theorem kept_or_answered {last : Controller n m K}
    (hexec : (machine n enqueue K).exec c events = some last)
    (hopen : last.queue.active.shuttingDown = false) :
    (c.Owed item → last.Owed item ∨ Answered enqueue c events item) ∧
      ∀ w, c.worker w = .syncing item →
        last.Owed item ∨ Answered enqueue c events item ∨ Completed enqueue c events w item := by
  induction events generalizing c with
  | nil =>
      simp only [Machine.exec, Option.some.injEq] at hexec
      subst hexec
      exact ⟨.inl, fun w hsyncing => .inr (.inr ⟨[], c, rfl, hsyncing, .inl rfl⟩)⟩
  | cons e events ih =>
      obtain ⟨next, hnext, hrest⟩ := Option.bind_eq_some_iff.mp hexec
      have hopenNext := open_of_exec hrest hopen
      obtain ⟨ihOwed, ihSyncing⟩ := ih hrest
      constructor
      · intro howed
        rcases howed.step hnext hopenNext with howed' | ⟨w, rfl, hsyncing⟩
        · exact (ihOwed howed').imp_right (·.cons hnext)
        · rcases ihSyncing w hsyncing with hlast | hanswered | hcompleted
          · exact .inl hlast
          · exact .inr (hanswered.cons hnext)
          · exact .inr (hcompleted.start hnext hsyncing)
      · intro w hsyncing
        rcases Controller.syncing_step hsyncing hnext with hsyncing' | rfl | howed'
        · rcases ihSyncing w hsyncing' with hlast | hanswered | hcompleted
          · exact .inl hlast
          · exact .inr (.inl (hanswered.cons hnext))
          · exact .inr (.inr (hcompleted.cons hnext))
        · exact .inr (.inr ⟨[], c, rfl, hsyncing, .inr ⟨events, rfl⟩⟩)
        · rcases ihOwed howed' with hlast | hanswered
          · exact .inl hlast
          · exact .inr (.inl (hanswered.cons hnext))

/-- No request is lost: after a handler was told of a change, and for as long as the
queue is not shut down, the key is still owed a sync or a sync that started after
the notification has ended well or is running. -/
theorem notified_owed_or_answered {last : Controller n m K} {h : Fin m} {bucket : Nat}
    (hnotify : c.step enqueue (.notify h item bucket) = some c')
    (hexec : (machine n enqueue K).exec c' events = some last)
    (hopen : last.queue.active.shuttingDown = false) :
    last.Owed item ∨ Answered enqueue c' events item :=
  (kept_or_answered hexec hopen).1 (Controller.owed_notify hnotify (open_of_exec hexec hopen))

end Runs

/-! ## The shutdown drains the queue -/

namespace Controller

omit [DecidableEq K] in
theorem running_of_item {worker : Worker K} {item : K} (h : worker.item = some item) :
    worker.Running := by
  constructor <;> rintro rfl <;> cases h

omit [DecidableEq K] in
theorem running_update {worker : Fin n → Worker K} {w w' : Fin n} {next : Worker K}
    (h : (worker w).Running) (hnext : next.Running) :
    (Function.update worker w' next w).Running := by
  by_cases heq : w = w'
  · rw [heq, Function.update_self]
    exact hnext
  · rwa [Function.update_of_ne heq]

theorem running_step {enqueue : Fin m → Enqueue} {c c' : Controller n m K} {e : Event n m K} {w : Fin n}
    (hrunning : (c.worker w).Running) (hstep : c.step enqueue e = some c') :
    (c'.worker w).Running ∨ e = .quit w := by
  cases step_effect hstep with
  | notifyAdd | notifyLimited | resume | drop | receive | fire | tick | stop | shutDown =>
      exact .inl hrunning
  | launch | done => exact .inl (running_update hrunning (by simp [Worker.Running]))
  | get => exact .inl (running_update hrunning (running_of_item rfl))
  | succeed | fail | abandon => exact .inl (running_update hrunning (running_of_item rfl))
  | requeue _ hadvance =>
      exact .inl (running_update hrunning (running_of_item (item_afterCall hadvance)))
  | @cancel w' hworker =>
      refine .inl ?_
      rw [setWorker_worker, Function.update_of_ne]
      · exact hrunning
      · rintro rfl
        exact hrunning.1 hworker
  | @quit w' hworker =>
      by_cases heq : w = w'
      · exact .inr (by rw [heq])
      · refine .inl ?_
        rw [setWorker_worker, Function.update_of_ne heq]
        exact hrunning

/-- A key that is asked for, and a worker to take it. -/
def Served (c : Controller n m K) (item : K) : Prop :=
  item ∈ c.queue.active.dirty ∧ ∃ w, (c.worker w).Running

/-- The last running worker quits only when nothing is asked for. -/
theorem Served.step {enqueue : Fin m → Enqueue} {c c' : Controller n m K} {e : Event n m K} {item : K}
    (h : c.Served item) (hsound : c.Sound) (hstep : c.step enqueue e = some c') :
    c'.Served item ∨ ∃ w, e = .get w ∧ c'.worker w = .syncing item := by
  obtain ⟨hdirty, w, hrunning⟩ := h
  have hdirty' : item ∈ c'.queue.active.dirty ∨ ∃ w, e = .get w ∧ c'.worker w = .syncing item := by
    cases step_kind hstep with
    | @get w taken hidle hget hworker =>
        by_cases heq : item = taken
        · exact .inr ⟨w, rfl, by rw [hworker, Function.update_self, heq]⟩
        · refine .inl ?_
          rw [(WorkQueue.get_eq_some hget).2.2.1]
          exact Finset.mem_erase.mpr ⟨heq, hdirty⟩
    | done _ hactive => exact .inl (by rwa [hactive, WorkQueue.done_dirty])
    | shutDown hactive => exact .inl (by rwa [hactive, WorkQueue.shutDown_dirty])
    | other hgrown => exact .inl (hgrown.dirty_subset hdirty)
  rcases hdirty' with hdirty' | hstart
  · refine .inl ⟨hdirty', ?_⟩
    rcases running_step hrunning hstep with hrunning' | rfl
    · exact ⟨w, hrunning'⟩
    · -- the queue is empty, so another worker has the key
      cases step_effect hstep with
      | quit hidle hqueue hdown =>
          have hprocessing : item ∈ c.queue.active.processing := by
            by_contra hnot
            have hmem := (hsound.valid.mem_queue item).mpr ⟨hdirty, hnot⟩
            rw [hqueue] at hmem
            cases hmem
          obtain ⟨w', hw'⟩ := (hsound.processing item).mp hprocessing
          refine ⟨w', ?_⟩
          rw [setWorker_worker, Function.update_of_ne]
          · exact running_of_item hw'
          · rintro rfl
            rw [hidle] at hw'
            cases hw'
  · exact .inr hstart

end Controller

/-- Before its workers have all returned, a controller has started a sync of every
key that was asked for while a worker was running, shutdown or not. -/
theorem started_before_stopped {enqueue : Fin m → Enqueue} {c last : Controller n m K}
    {events : List (Event n m K)} {item : K}
    (hreach : (machine n enqueue K).Reachable Machine.anyStep c)
    (hrunning : ∃ w, (c.worker w).Running) (hdirty : item ∈ c.queue.active.dirty)
    (hexec : (machine n enqueue K).exec c events = some last)
    (hstopped : ∀ w, last.worker w = .stopped) :
    ∃ before w after mid next, events = before ++ .get w :: after ∧
      (machine n enqueue K).exec c before = some mid ∧
      mid.step enqueue (.get w) = some next ∧ next.worker w = .syncing item := by
  have hend : ¬ last.Served item := fun ⟨_, w, hw⟩ => hw.2 (hstopped w)
  obtain ⟨before, e, after, mid, next, rfl, hbefore, -, hstep, hmid, hnext⟩ :=
    Machine.exists_step_of_exec (fun c => ¬ c.Served item) (Machine.meets_anyStep _ c events)
      hexec (not_not.mpr ⟨hdirty, hrunning⟩) hend
  have hsound := sound_of_reachable (hreach.of_exec (Machine.meets_anyStep _ _ _) hbefore)
  obtain ⟨w, rfl, hstart⟩ := ((not_not.mp hmid).step hsound hstep).resolve_left hnext
  exact ⟨before, w, after, mid, next, rfl, hbefore, hstep, hstart⟩

/-! ## A failed sync is not retried early -/

/-- The call does not add the key before the time. -/
def Call.NotBefore (item : K) (time clock : Nat) : Call K → Prop
  | .addAfter item' duration => item' = item → time ≤ clock + duration
  | .send item' readyAt => item' = item → time ≤ readyAt

omit [DecidableEq K] in
theorem Call.NotBefore.later {call : Call K} {item : K} {time clock clock' : Nat}
    (h : call.NotBefore item time clock) (hle : clock ≤ clock') :
    call.NotBefore item time clock' := by
  cases call with
  | addAfter item' duration => exact fun heq => (h heq).trans (by omega)
  | send item' readyAt => exact h

omit [DecidableEq K] in
theorem Call.notBefore_of_ne {call : Call K} {item : K} (h : call.item ≠ item)
    (time clock : Nat) : call.NotBefore item time clock := by
  cases call with
  | addAfter item' duration => exact fun heq => absurd heq h
  | send item' readyAt => exact fun heq => absurd heq h

theorem Call.NotBefore.advance {queue queue' : DelayingQueue K} {call : Call K}
    {rest : Option (Call K)} {item : K} {time : Nat} (h : call.NotBefore item time queue.clock)
    (hqueue : queue.NotBefore item time) (hadvance : call.advance queue = some (queue', rest)) :
    queue'.NotBefore item time ∧
      ∀ next, rest = some next → next.NotBefore item time queue.clock := by
  obtain ⟨_, _, rfl, _, rfl, rfl⟩ | ⟨other, rfl, _, rfl, rfl⟩ |
    ⟨other, duration, rfl, _, rfl, rfl⟩ | ⟨other, readyAt, rfl, hsend, rfl⟩ :=
    advance_cases hadvance
  · exact ⟨hqueue, fun _ hnone => by cases hnone⟩
  · exact ⟨hqueue.add h, fun _ hnone => by cases hnone⟩
  · exact ⟨hqueue, fun _ hnext => by cases hnext; exact h⟩
  · exact ⟨hqueue.send hsend h, fun _ hnone => by cases hnone⟩

theorem maxDelay_le : maxDelay ≤ 2 ^ 63 - 1 := by
  decide

namespace Controller

/-- Nothing makes a worker start on the key before the time. -/
structure NotBefore (c : Controller n m K) (item : K) (time : Nat) : Prop where
  queue : c.queue.NotBefore item time
  worker : ∀ w call, c.worker w = .requeuing call → call.NotBefore item time c.queue.clock
  handler : ∀ h call, c.handler h = some call → call.NotBefore item time c.queue.clock
  syncing : ∀ w, c.worker w ≠ .syncing item
  failures : time ≤ c.queue.clock + exponentialDelay baseDelay maxDelay (c.failures item)

theorem NotBefore.setWorker {c : Controller n m K} {item : K} {time : Nat}
    (h : c.NotBefore item time) {w : Fin n} {worker : Worker K}
    (hcall : ∀ call, worker = .requeuing call → call.NotBefore item time c.queue.clock)
    (hsyncing : worker ≠ .syncing item) : (c.setWorker w worker).NotBefore item time := by
  refine ⟨h.queue, fun w' call hw' => ?_, h.handler, fun w' => ?_, h.failures⟩
  · rw [setWorker_worker] at hw'
    by_cases heq : w' = w
    · rw [heq, Function.update_self] at hw'
      exact hcall call hw'
    · rw [Function.update_of_ne heq] at hw'
      exact h.worker w' call hw'
  · rw [setWorker_worker]
    by_cases heq : w' = w
    · rw [heq, Function.update_self]
      exact hsyncing
    · rw [Function.update_of_ne heq]
      exact h.syncing w'

theorem NotBefore.setHandler {c : Controller n m K} {item : K} {time : Nat}
    (h : c.NotBefore item time) {handler : Fin m} {rest : Option (Call K)}
    (hcall : ∀ call, rest = some call → call.NotBefore item time c.queue.clock) :
    (c.setHandler handler rest).NotBefore item time := by
  refine ⟨h.queue, h.worker, fun handler' call hhandler => ?_, h.syncing, h.failures⟩
  rw [setHandler_handler] at hhandler
  by_cases heq : handler' = handler
  · rw [heq, Function.update_self] at hhandler
    exact hcall call hhandler
  · rw [Function.update_of_ne heq] at hhandler
    exact h.handler handler' call hhandler

theorem NotBefore.setQueue {c : Controller n m K} {item : K} {time : Nat}
    (h : c.NotBefore item time) {queue : DelayingQueue K} (hqueue : queue.NotBefore item time)
    (hclock : c.queue.clock ≤ queue.clock) : (c.setQueue queue).NotBefore item time where
  queue := hqueue
  worker := fun w call hw => (h.worker w call hw).later hclock
  handler := fun handler call hhandler => (h.handler handler call hhandler).later hclock
  syncing := h.syncing
  failures := h.failures.trans (by rw [setQueue_queue, setQueue_failures]; omega)

/-- Counting a failure only makes the delay longer. -/
theorem exponentialDelay_count (c : Controller n m K) (item other : K) :
    exponentialDelay baseDelay maxDelay (c.failures item) ≤
      exponentialDelay baseDelay maxDelay ((c.count other).failures item) := by
  refine exponentialDelay_mono maxDelay_le ?_
  rw [count_failures]
  by_cases heq : item = other
  · rw [heq, Function.update_self]
    exact Nat.le_succ _
  · rw [Function.update_of_ne heq]

theorem NotBefore.count {c : Controller n m K} {item : K} {time : Nat}
    (h : c.NotBefore item time) (other : K) : (c.count other).NotBefore item time where
  queue := h.queue
  worker := h.worker
  handler := h.handler
  syncing := h.syncing
  failures := h.failures.trans (Nat.add_le_add_left (c.exponentialDelay_count item other) _)

/-- The answer of the rate limiter is at least the key's own delay. -/
theorem exponentialDelay_le_delay (c : Controller n m K) (item : K) (bucket : Nat) :
    exponentialDelay baseDelay maxDelay (c.failures item) ≤ c.delay item bucket :=
  le_max_left _ _

theorem NotBefore.addAfter {c : Controller n m K} {item other : K} {time : Nat}
    (h : c.NotBefore item time) (bucket : Nat) :
    (Call.addAfter other (c.delay other bucket)).NotBefore item time c.queue.clock := by
  rintro rfl
  exact h.failures.trans (Nat.add_le_add_left (c.exponentialDelay_le_delay _ bucket) _)

/-- A sync that succeeds resets the delay of its own key only. -/
theorem NotBefore.forget {c : Controller n m K} {item other : K} {time : Nat}
    (h : c.NotBefore item time) (hne : other ≠ item) : (c.forget other).NotBefore item time := by
  refine ⟨h.queue, h.worker, h.handler, h.syncing, ?_⟩
  rw [forget_failures, Function.update_of_ne hne.symm]
  exact h.failures

/-- Taking a key out of the queue makes no other key dirty. -/
theorem NotBefore.get {c : Controller n m K} {item taken : K} {time : Nat} {active : WorkQueue K}
    (h : c.NotBefore item time) (hget : c.queue.active.get = some (taken, active)) :
    (c.setQueue { c.queue with active := active }).NotBefore item time := by
  refine h.setQueue ⟨fun hmem => h.queue.dirty ?_, h.queue.channel, h.queue.waiting⟩ (le_refl _)
  rw [(WorkQueue.get_eq_some hget).2.2.1] at hmem
  exact (Finset.mem_erase.mp hmem).2

theorem NotBefore.done {c : Controller n m K} {item : K} {time : Nat}
    (h : c.NotBefore item time) (other : K) :
    (c.setQueue { c.queue with active := c.queue.active.done other }).NotBefore item time := by
  refine h.setQueue ⟨?_, h.queue.channel, h.queue.waiting⟩ (le_refl _)
  rw [WorkQueue.done_dirty]
  exact h.queue.dirty

theorem clock_step {enqueue : Fin m → Enqueue} {c c' : Controller n m K} {e : Event n m K}
    (hstep : c.step enqueue e = some c') : c.queue.clock ≤ c'.queue.clock := by
  cases step_effect hstep with
  | resume _ hadvance | requeue _ hadvance => exact (Call.advance_clock hadvance).ge
  | receive hreceive => exact (DelayingQueue.receive_clock hreceive).ge
  | fire hfire => exact (DelayingQueue.fire_clock hfire).ge
  | tick => exact Nat.le_add_right _ _
  | _ => exact le_refl _

/-- The key is not started before the time, as long as no handler adds it directly. -/
theorem NotBefore.step {enqueue : Fin m → Enqueue} {c c' : Controller n m K} {e : Event n m K}
    {item : K} {time : Nat} (h : c.NotBefore item time) (hsound : c.Sound)
    (hstep : c.step enqueue e = some c')
    (hlimited : ∀ handler bucket, e = .notify handler item bucket →
      enqueue handler = .addRateLimited) :
    c'.NotBefore item time ∨ time ≤ c'.queue.clock := by
  cases step_effect hstep with
  | @notifyAdd handler other bucket hadd =>
      have hne : other ≠ item := by
        rintro rfl
        cases hadd.symm.trans (hlimited handler bucket rfl)
      exact .inl (h.setQueue (h.queue.add fun heq => absurd heq hne) (le_refl _))
  | @notifyLimited handler other bucket =>
      refine .inl ((h.count other).setHandler fun call hcall => ?_)
      cases hcall
      exact h.addAfter bucket
  | @resume handler call queue rest hcall hadvance =>
      have hclock := Call.advance_clock hadvance
      obtain ⟨hqueue, hrest⟩ := (h.handler handler call hcall).advance h.queue hadvance
      refine .inl ((h.setQueue hqueue hclock.ge).setHandler fun next hnext => ?_)
      exact (hrest next hnext).later hclock.ge
  | drop => exact .inl (h.setHandler fun _ hnone => by cases hnone)
  | launch => exact .inl (h.setWorker (fun _ heq => by cases heq) (by simp))
  | cancel => exact .inl (h.setWorker (fun _ heq => by cases heq) (by simp))
  | @get w taken active hidle hget =>
      by_cases heq : taken = item
      · exact .inr (h.queue.dirty (heq ▸ (hsound.valid.get hget).1))
      · refine .inl ((h.get hget).setWorker (fun _ heq => by cases heq) ?_)
        simpa using heq
  | quit => exact .inl (h.setWorker (fun _ heq => by cases heq) (by simp))
  | @succeed w other hworker =>
      have hne : other ≠ item := fun heq => h.syncing w (heq ▸ hworker)
      exact .inl ((h.forget hne).setWorker (fun _ heq => by cases heq) (by simp))
  | @fail w other bucket hworker =>
      refine .inl ((h.count other).setWorker (fun call heq => ?_) (by simp))
      cases heq
      exact h.addAfter bucket
  | @requeue w call queue rest hcall hadvance =>
      have hclock := Call.advance_clock hadvance
      obtain ⟨hqueue, hrest⟩ := (h.worker w call hcall).advance h.queue hadvance
      refine .inl ((h.setQueue hqueue hclock.ge).setWorker (fun next hnext => ?_) ?_)
      · cases rest with
        | none => cases hnext
        | some next' =>
            cases hnext
            exact (hrest next rfl).later hclock.ge
      · cases rest <;> simp [afterCall]
  | abandon => exact .inl (h.setWorker (fun _ heq => by cases heq) (by simp))
  | @done w other hworker =>
      exact .inl ((h.done other).setWorker (fun _ heq => by cases heq) (by simp))
  | receive hreceive =>
      exact .inl (h.setQueue (h.queue.receive hreceive) (DelayingQueue.receive_clock hreceive).ge)
  | fire hfire =>
      exact .inl (h.setQueue (h.queue.fire hfire) (DelayingQueue.fire_clock hfire).ge)
  | tick =>
      refine .inl (h.setQueue ⟨fun hmem => ?_, h.queue.channel, h.queue.waiting⟩ ?_)
      · exact (h.queue.dirty hmem).trans (Nat.le_add_right _ _)
      · exact Nat.le_add_right _ _
  | stop => exact .inl ⟨h.queue, h.worker, h.handler, h.syncing, h.failures⟩
  | shutDown =>
      exact .inl (h.setQueue ⟨h.queue.dirty, h.queue.channel, h.queue.waiting⟩ (le_refl _))

/-- A failed sync of a key that is not asked for otherwise. -/
theorem notBefore_fail {enqueue : Fin m → Enqueue} {c c' : Controller n m K} {w : Fin n} {item : K}
    {bucket : Nat} (hsound : c.Sound) (hsyncing : c.worker w = .syncing item)
    (hquiet : ¬ c.Owed item) (hfail : c.step enqueue (.fail w bucket) = some c') :
    c'.NotBefore item
      (c.queue.clock + exponentialDelay baseDelay maxDelay (c.failures item)) := by
  have hheld : (c.worker w).item = some item := by rw [hsyncing]; rfl
  have hcalls : ∀ call : Call K, call.item = item →
      (∀ w', c.worker w' ≠ .requeuing call) ∧ ∀ h, c.handler h ≠ some call := fun call hitem =>
    ⟨fun w' hw' => hquiet (.inr (.inl ⟨w', call, hw', hitem⟩)),
      fun h hh => hquiet (.inr (.inr ⟨h, call, hh, hitem⟩))⟩
  cases step_effect hfail with
  | @fail _ other _ hworker =>
      obtain rfl : item = other := by
        rw [hsyncing, Worker.syncing.injEq] at hworker
        exact hworker
      have hdelay := Nat.add_le_add_left (c.exponentialDelay_le_delay item bucket) c.queue.clock
      have hcount := Nat.add_le_add_left (c.exponentialDelay_count item item) c.queue.clock
      refine ⟨DelayingQueue.notBefore_of_not_holds (fun hholds => hquiet (.inl hholds)) _,
        fun w' call hw' => ?_, fun h call hh => ?_, fun w' hw' => ?_, hcount⟩
      · rw [setWorker_worker] at hw'
        by_cases heq : w' = w
        · rw [heq, Function.update_self, Worker.requeuing.injEq] at hw'
          rw [← hw']
          exact fun _ => hdelay
        · rw [Function.update_of_ne heq] at hw'
          exact Call.notBefore_of_ne (fun hitem => (hcalls call hitem).1 w' hw') _ _
      · exact Call.notBefore_of_ne (fun hitem => (hcalls call hitem).2 h hh) _ _
      · rw [setWorker_worker] at hw'
        by_cases heq : w' = w
        · rw [heq, Function.update_self] at hw'
          cases hw'
        · rw [Function.update_of_ne heq, count_worker] at hw'
          exact heq (hsound.single w' w item (by rw [hw']; rfl) hheld)

end Controller

/-- A failed sync is not retried at once: as long as the key is not asked for otherwise,
and no handler adds it directly, its next sync starts no earlier than the delay that its
failures since the last success have built up.  A change that comes through a handler
that adds rate-limited waits too. -/
theorem retry_not_before {enqueue : Fin m → Enqueue} {c c' c₁ c₂ : Controller n m K}
    {events : List (Event n m K)} {w w' : Fin n} {item : K} {bucket : Nat}
    (hreach : (machine n enqueue K).Reachable Machine.anyStep c)
    (hsyncing : c.worker w = .syncing item) (hquiet : ¬ c.Owed item)
    (hfail : c.step enqueue (.fail w bucket) = some c')
    (hexec : (machine n enqueue K).exec c' events = some c₁)
    (hlimited : ∀ h bucket, .notify h item bucket ∈ events → enqueue h = .addRateLimited)
    (hget : c₁.step enqueue (.get w') = some c₂) (hstart : c₂.worker w' = .syncing item) :
    c.queue.clock + min (baseDelay * 2 ^ c.failures item) maxDelay ≤ c₁.queue.clock := by
  rw [← exponentialDelay_eq_min maxDelay_le]
  have hreach' : (machine n enqueue K).Reachable Machine.anyStep c' :=
    hreach.next trivial (show (machine n enqueue K).step c (.fail w bucket) = some c' from hfail)
  have hmeets : (machine n enqueue K).Meets (fun _ e => ∀ h bucket,
      e = .notify h item bucket → enqueue h = .addRateLimited) c' events := by
    refine Machine.meets_of_forall _ (fun e he h bucket heq => ?_) c'
    exact hlimited h bucket (heq ▸ he)
  -- along the run the key is held back, or the time has passed
  have hlast := Machine.exec_invariant
    (fun c₁ => c₁.Sound ∧ (c₁.NotBefore item
        (c.queue.clock + exponentialDelay baseDelay maxDelay (c.failures item)) ∨
      c.queue.clock + exponentialDelay baseDelay maxDelay (c.failures item) ≤ c₁.queue.clock))
    (fun _ _ _ ⟨hsound, hbefore⟩ hok hstep => ⟨hsound.step hstep, hbefore.elim
      (fun hbefore => hbefore.step hsound hstep hok)
      (fun hpassed => .inr (hpassed.trans (Controller.clock_step hstep)))⟩)
    ⟨sound_of_reachable hreach',
      .inl (Controller.notBefore_fail (sound_of_reachable hreach) hsyncing hquiet hfail)⟩
    hmeets hexec
  obtain ⟨hsound, hbefore | hpassed⟩ := hlast
  · cases Controller.step_effect hget with
    | get hidle hactive =>
        rw [Controller.setWorker_worker, Function.update_self, Worker.syncing.injEq] at hstart
        exact hbefore.queue.dirty (hstart ▸ (hsound.valid.get hactive).1)
  · exact hpassed

end

namespace WorkersWitness

-- two workers and the goroutine that calls the handlers
def first : Fin 2 := .castSucc (.last 0)

def second : Fin 2 := .last 1

def caller : Fin 1 := .last 0

/-- The handlers of the Elasticsearch controller add keys directly. -/
def elasticsearch (_ : Fin 1) : Enqueue := .add

/-- Two workers of the Elasticsearch controller, one of which syncs a cluster. -/
def starts : List (Event 2 1 String) :=
  [.launch first, .launch second, .notify caller "default/db" 0, .get first]

def started : Controller 2 1 String := ((machine 2 elasticsearch String).exec {} starts).getD {}

theorem reachable_started : (machine 2 elasticsearch String).Reachable Machine.anyStep started :=
  Machine.Reachable.getD_exec (.start rfl) (Machine.meets_anyStep _ _ _) (by decide +kernel)

/-- The cluster changes during the sync, which fails. -/
def handsOver : List (Event 2 1 String) :=
  [.notify caller "default/db" 0, .fail first 0, .requeue first, .requeue first, .done first]

def handedOver : Controller 2 1 String :=
  ((machine 2 elasticsearch String).exec started handsOver).getD {}

def takenOver : Controller 2 1 String := (handedOver.step elasticsearch (.get second)).getD {}

theorem done_before_next_get_other : .done first ∈ handsOver :=
  done_before_next_get reachable_started
    (show (started.worker first).item = some "default/db" from rfl)
    (show _ = some handedOver from rfl)
    (show handedOver.step elasticsearch (.get second) = some takenOver from rfl) rfl

def waits : List (Event 2 1 String) :=
  [.get first, .fail first 0, .requeue first, .requeue first, .done first, .receive]

def launched : Controller 2 1 String :=
  ((machine 2 elasticsearch String).exec {} [.launch first, .launch second]).getD {}

def notified : Controller 2 1 String :=
  (launched.step elasticsearch (.notify caller "default/db" 0)).getD {}

def waiting : Controller 2 1 String := ((machine 2 elasticsearch String).exec notified waits).getD {}

theorem notified_owed_or_answered_failed :
    waiting.Owed "default/db" ∨ Answered elasticsearch notified waits "default/db" :=
  notified_owed_or_answered
    (show launched.step elasticsearch (.notify caller "default/db" 0) = some notified from rfl)
    (show _ = some waiting from rfl) rfl

/-- The controller is stopped while the cluster is in the queue. -/
def drains : List (Event 2 1 String) :=
  [.stop, .shutDown, .get first, .quit second, .succeed first, .done first, .quit first]

def drained : Controller 2 1 String := ((machine 2 elasticsearch String).exec notified drains).getD {}

theorem started_before_stopped_drained :
    ∃ before w after mid next, drains = before ++ .get w :: after ∧
      (machine 2 elasticsearch String).exec notified before = some mid ∧
      mid.step elasticsearch (.get w) = some next ∧ next.worker w = .syncing "default/db" := by
  have hreach : (machine 2 elasticsearch String).Reachable Machine.anyStep notified :=
    Machine.Reachable.of_exec (.start rfl) (Machine.meets_anyStep _ _
      [.launch first, .launch second, .notify caller "default/db" 0]) rfl
  exact started_before_stopped hreach ⟨first, by decide, by decide⟩ (by decide +kernel)
    (show _ = some drained from rfl) (by decide +kernel)

-- the goroutines that call the handler for clusters, and the one for pods
def clusters : Fin 2 := .castSucc (.last 0)

def pods : Fin 2 := .last 1

/-- Of the handlers of the Cassandra controller the one for clusters adds keys directly,
and that for pods rate-limited. -/
def cassandra (h : Fin 2) : Enqueue := if h = clusters then .add else .addRateLimited

/-- The Cassandra controller syncs a cluster for the first time, because of a pod. -/
def syncs : List (Event 2 2 String) :=
  [.launch first, .launch second, .notify pods "default/db" 0, .resume pods, .resume pods,
    .receive, .tick (5 * 10 ^ 6), .fire "default/db", .get first]

def synced : Controller 2 2 String := ((machine 2 cassandra String).exec {} syncs).getD {}

/-- The sync fails, and a pod and another cluster change right after. -/
def retries : List (Event 2 2 String) :=
  [.requeue first, .requeue first, .done first, .notify pods "default/db" 0,
    .notify clusters "default/other" 0, .receive, .get first, .resume pods, .resume pods, .receive,
    .tick (10 ^ 7), .fire "default/db"]

def failed : Controller 2 2 String := (synced.step cassandra (.fail first 0)).getD {}

def due : Controller 2 2 String := ((machine 2 cassandra String).exec failed retries).getD {}

def retried : Controller 2 2 String := (due.step cassandra (.get second)).getD {}

theorem retry_not_before_changed :
    synced.failures "default/db" = 1 ∧
      synced.queue.clock + min (baseDelay * 2 ^ synced.failures "default/db") maxDelay ≤
        due.queue.clock := by
  have hreach : (machine 2 cassandra String).Reachable Machine.anyStep synced :=
    Machine.Reachable.getD_exec (.start rfl) (Machine.meets_anyStep _ _ _) (by decide +kernel)
  have hworkers : ∀ w, synced.worker w = .syncing "default/db" ∨ synced.worker w = .idle := by
    decide +kernel
  have hhandlers : ∀ h, synced.handler h = none := by
    decide +kernel
  have hqueue : ¬ (("default/db" ∈ synced.queue.active.dirty) ∨
      ("default/db" ∈ synced.queue.waitingForAddCh.map Prod.fst) ∨
      ("default/db" ∈ synced.queue.waiting.map Prod.fst)) := by
    decide +kernel
  have hquiet : ¬ synced.Owed "default/db" := by
    rintro (hholds | ⟨w, call, hcall, _⟩ | ⟨h, call, hcall, _⟩)
    · exact hqueue hholds
    · rcases hworkers w with hw | hw <;> cases hw.symm.trans hcall
    · cases (hhandlers h).symm.trans hcall
  have hlimited : ∀ h bucket, .notify h "default/db" bucket ∈ retries →
      cassandra h = .addRateLimited := by
    intro h bucket hmem
    obtain ⟨rfl, _⟩ : h = pods ∧ bucket = 0 := by
      simpa [retries] using hmem
    rfl
  refine ⟨by decide +kernel, ?_⟩
  exact retry_not_before hreach (show synced.worker first = .syncing "default/db" from rfl) hquiet
    (show synced.step cassandra (.fail first 0) = some failed from rfl)
    (show (machine 2 cassandra String).exec failed retries = some due from rfl) hlimited
    (show due.step cassandra (.get second) = some retried from rfl) rfl

end WorkersWitness

end Workers

end Navigator
