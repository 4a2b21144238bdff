/-
The generic pilot: a controller that syncs Pilots and starts the process of its
own, and `Run`, which waits and then stops the process.  Both are threads over
the fields of the pilot, and meanwhile the informers change the caches and the
process may exit.
-/
import Navigator.Base.Machine
import Navigator.Base.Threads
import Navigator.GenericPilot.Hooks
import Navigator.Ownership
import Navigator.PilotController

namespace Navigator

open ControlLoop

namespace GenericPilot

/-- The options the model reads: the name of the Pilot, whether there is a sync
function for the leader, and `fmt.Sprintf`. -/
structure Options where
  pilotName : String
  pilotNamespace : String
  leaderElectedSyncFunc : Bool := false
  sprintf : String → List String → String := fun message _ => message

namespace Options

def isThisPilot (o : Options) (name namespaceName : String) : Bool :=
  name = o.pilotName && namespaceName = o.pilotNamespace

/-- `IsThisPilot`. -/
def isThis (o : Options) (pilot : Pilot) : Bool :=
  o.isThisPilot (nameOf pilot) (namespaceOf pilot)

end Options

/-- How far the command of a process has come. -/
inductive ProcessState where
  | created
  | running (pid : Nat)
  | exited (pid : Nat) (doneErr : Option Err)
deriving DecidableEq

/-- `processmanager.adapter`, and whether the process has received the stop
signal. -/
structure Process where
  state : ProcessState := .created
  signalled : Bool := false
deriving DecidableEq

namespace Process

def started (p : Process) : Bool :=
  match p.state with
  | .created => false
  | _ => true

def exited (p : Process) : Bool :=
  match p.state with
  | .exited _ _ => true
  | _ => false

/-- `Running`. -/
def running (p : Process) : Bool :=
  match p.state with
  | .running _ => true
  | _ => false

/-- `String`. -/
def string (p : Process) : String :=
  match p.state with
  | .running pid => decimal pid
  | _ => "inactive"

/-- `Start`: a command is started once. -/
def start (p : Process) (pid : Nat) (failure : Option Err) : Option Err × Process :=
  match p.state, failure with
  | .created, none => (none, { p with state := .running pid })
  | .created, some e => (some (.plain ("error starting process: " ++ e.error)), p)
  | _, _ => (some (.plain "error starting process: exec: already started"), p)

/-- `cmd.Process.Signal`, which a running process receives. -/
def signal (p : Process) : Option Err × Process :=
  match p.state with
  | .created => (some .nilDereference, p)
  | .running _ => (none, { p with signalled := true })
  | .exited _ _ => (some (.plain "os: process already finished"), p)

/-- `Error`. -/
def error (p : Process) : Option Err :=
  match p.state with
  | .exited _ doneErr => doneErr
  | _ => none

/-- The process ends. -/
def exit (p : Process) (doneErr : Option Err) : Option Process :=
  match p.state with
  | .running pid => some { p with state := .exited pid doneErr }
  | _ => none

end Process

/-- What the two threads share: the caches, the fields of the controller and of
the pilot, and the progress of the hooks. -/
structure Shared where
  caches : State
  cachedThisPilot : Option Pilot := none
  process : Option Process := none
  shutdown : Bool := false
  locked : Bool := false
  hooks : Hooks

namespace Shared

/-- `IsRunning`. -/
def isRunning (s : Shared) : Bool := s.process.any Process.running

def started (s : Shared) : Bool := s.process.any Process.started

def exited (s : Shared) : Bool := s.process.any Process.exited

def signalled (s : Shared) : Bool := s.process.any Process.signalled

/-- `if g.process == nil { constructProcess }`, where the command function may
fail. -/
def ensureProcess (s : Shared) (failure : Option Err) : Option Err × Shared :=
  match s.process, failure with
  | none, none => (none, { s with process := some {} })
  | none, some e => (some e, s)
  | some _, _ => (none, s)

/-- `g.process.Start()`. -/
def startProcess (s : Shared) (pid : Nat) (failure : Option Err) : Option Err × Shared :=
  match s.process with
  | none => (some .nilDereference, s)
  | some process =>
      ((process.start pid failure).1, { s with process := some (process.start pid failure).2 })

/-- The signal of `g.process.Stop()`. -/
def signalProcess (s : Shared) : Option Err × Shared :=
  match s.process with
  | none => (some .nilDereference, s)
  | some process => (process.signal.1, { s with process := some process.signal.2 })

end Shared

/-- The steps of the threads.  Each reads or writes the shared fields once, with
these exceptions: the test for a process is one step with its construction; the
test before a start reads the process and the flag in one step, since no process
starts in between, only the thread that asks being able to start one; and a
transition is one step, since a lock of its own covers it. -/
inductive Op where
  /-- `pilotLister.Pilots(namespace).Get(name)`. -/
  | getPilot (namespaceName name : String)
  | cachedThisPilot
  | storeThisPilot (pilot : Pilot)
  /-- One call of `RootControllerRef`, without the one it ends in. -/
  | rootControllerStep (object : Controlee)
  /-- `RootControllerRef` goes on and does not return. -/
  | spin
  | lock
  | unlock
  | transition (phase : Phase) (pilot : Pilot)
  /-- `if g.process == nil { constructProcess }`. -/
  | ensureProcess (pilot : Pilot)
  /-- `!g.IsRunning() && !g.shutdown`. -/
  | mayStart
  | start
  | syncFunc (pilot : Pilot)
  | leading
  | leaderElectedSyncFunc (pilot : Pilot)
  | isRunning
  | processString
  | now
  | updateStatus (pilot : Pilot)
  /-- `scheduledWorkQueue.AddWithKey`. -/
  | schedule (key : String) (pilot : Pilot)
  | select
  | setShutdown
  | signal
  /-- `<-p.Wait()`. -/
  | awaitExit
  | processError

@[reducible] def Answer : Op → Type
  | .getPilot _ _ => Except Err Pilot
  | .cachedThisPilot => Option Pilot
  | .rootControllerStep _ => Controlee ⊕ Except Err (Option OwnerReference)
  | .transition _ _ => Option Err
  | .ensureProcess _ => Option Err
  | .mayStart => Bool
  | .start => Option Err
  | .syncFunc _ => Pilot × Option Err
  | .leading => Bool
  | .leaderElectedSyncFunc _ => Option Err
  | .isRunning => Bool
  | .processString => String
  | .now => Nat
  | .updateStatus _ => Option Err
  | .signal => Option Err
  | .processError => Option Err
  | _ => Unit

/-- What the fields do not decide: whether a call to the outside fails, what
each hook returns, what the sync function makes of the Pilot, who leads, the
time and the number of a new process. -/
structure Outcome where
  failure : Option Err := none
  hook : String → Option Err := fun _ => none
  syncFunc : Pilot → Pilot × Option Err := fun pilot => (pilot, none)
  leading : Bool := false
  now : Nat := 0
  pid : Nat := 1

/-- What a step does; `none` while it has to wait. -/
def serve (outcome : Outcome) (s : Shared) : (op : Op) → Option (Answer op × Shared)
  | .getPilot namespaceName name =>
      some (s.caches.pilotLister.get "pilot.navigator.jetstack.io" namespaceName name, s)
  | .cachedThisPilot => some (s.cachedThisPilot, s)
  | .storeThisPilot pilot => some ((), { s with cachedThisPilot := some pilot })
  | .rootControllerStep object => some (rootControllerStep s.caches object, s)
  | .spin => none
  | .lock => if s.locked then none else some ((), { s with locked := true })
  | .unlock => some ((), { s with locked := false })
  | .transition phase pilot =>
      let done := s.hooks.transition outcome.hook phase (some pilot)
      some (done.1, { s with hooks := done.2 })
  | .ensureProcess _ => some (s.ensureProcess outcome.failure)
  | .mayStart => some (!s.isRunning && !s.shutdown, s)
  | .start => some (s.startProcess outcome.pid outcome.failure)
  | .syncFunc pilot => some (outcome.syncFunc pilot, s)
  | .leading => some (outcome.leading, s)
  | .leaderElectedSyncFunc _ => some (outcome.failure, s)
  | .isRunning => some (s.isRunning, s)
  | .processString => some ((s.process.map Process.string).getD "", s)
  | .now => some (outcome.now, s)
  | .updateStatus _ => some (outcome.failure, s)
  | .schedule _ _ => some ((), s)
  -- The four cases of the select differ only in what they log.
  | .select => some ((), s)
  | .setShutdown => some ((), { s with shutdown := true })
  | .signal => some s.signalProcess
  | .awaitExit => if s.exited then some ((), s) else none
  | .processError => some (s.process.bind Process.error, s)

/-- What a step may do to the shared fields. -/
inductive Effect (s : Shared) : Op → Shared → Prop where
  | none {op : Op} : Effect s op s
  | store (pilot : Pilot) :
      Effect s (.storeThisPilot pilot) { s with cachedThisPilot := some pilot }
  | lock : Effect s .lock { s with locked := true }
  | unlock : Effect s .unlock { s with locked := false }
  | transition (hook : String → Option Err) (phase : Phase) (pilot : Pilot) :
      Effect s (.transition phase pilot)
        { s with hooks := (s.hooks.transition hook phase (some pilot)).2 }
  | construct {pilot : Pilot} (missing : s.process = Option.none) :
      Effect s (.ensureProcess pilot) { s with process := some {} }
  | start {process : Process} (present : s.process = some process) (pid : Nat)
      (failure : Option Err) :
      Effect s .start { s with process := some (process.start pid failure).2 }
  | setShutdown : Effect s .setShutdown { s with shutdown := true }
  | signal {process : Process} (present : s.process = some process) :
      Effect s .signal { s with process := some process.signal.2 }

theorem effect_of_serve {outcome : Outcome} {s s' : Shared} {op : Op} {answer : Answer op}
    (h : serve outcome s op = some (answer, s')) : Effect s op s' := by
  cases op with
  | storeThisPilot pilot => exact (Prod.mk.inj (Option.some.inj h)).2 ▸ .store pilot
  | lock =>
      simp only [serve] at h
      split at h
      · cases h
      · exact (Prod.mk.inj (Option.some.inj h)).2 ▸ .lock
  | unlock => exact (Prod.mk.inj (Option.some.inj h)).2 ▸ .unlock
  | transition phase pilot =>
      exact (Prod.mk.inj (Option.some.inj h)).2 ▸ .transition outcome.hook phase pilot
  | ensureProcess pilot =>
      simp only [serve, Shared.ensureProcess] at h
      split at h
      · rename_i hprocess _
        exact (Prod.mk.inj (Option.some.inj h)).2 ▸ .construct hprocess
      · exact (Prod.mk.inj (Option.some.inj h)).2 ▸ .none
      · exact (Prod.mk.inj (Option.some.inj h)).2 ▸ .none
  | start =>
      simp only [serve, Shared.startProcess] at h
      split at h
      · exact (Prod.mk.inj (Option.some.inj h)).2 ▸ .none
      · rename_i process hprocess
        exact (Prod.mk.inj (Option.some.inj h)).2 ▸ .start hprocess outcome.pid outcome.failure
  | setShutdown => exact (Prod.mk.inj (Option.some.inj h)).2 ▸ .setShutdown
  | signal =>
      simp only [serve, Shared.signalProcess] at h
      split at h
      · exact (Prod.mk.inj (Option.some.inj h)).2 ▸ .none
      · rename_i process hprocess
        exact (Prod.mk.inj (Option.some.inj h)).2 ▸ .signal hprocess
  | awaitExit =>
      simp only [serve] at h
      split at h
      · exact (Prod.mk.inj (Option.some.inj h)).2 ▸ .none
      · cases h
  | spin => cases h
  | _ => exact (Prod.mk.inj (Option.some.inj h)).2 ▸ .none

abbrev PilotThread (α : Type) := Thread Op Answer α

/-- Take one step and return its answer. -/
abbrev perform (op : Op) : PilotThread (Answer op) := Thread.perform op

/-- `ThisPilot`. -/
def thisPilot (o : Options) : PilotThread (Except Err Pilot) := do
  match ← perform (.getPilot o.pilotNamespace o.pilotName) with
  | .ok pilot => pure (.ok pilot)
  | .error e =>
      if e.isNotFound then
        match ← perform .cachedThisPilot with
        | some pilot => pure (.ok pilot)
        | none => pure (.error e)
      else pure (.error e)

/-- `RootControllerRef` reads a cache in each of its calls, and the caches may
change in between.  Beyond the bound on its depth the thread stays where it is. -/
def rootController : Nat → Controlee → PilotThread (Except Err (Option OwnerReference))
  | 0, _ => do
      perform .spin
      pure (.ok none)
  | fuel + 1, object => do
      match ← perform (.rootControllerStep object) with
      | .inl next => rootController fuel next
      | .inr answer => pure answer

/-- `IsPeer`. -/
def isPeer (o : Options) (fuel : Nat) (pilot : Pilot) : PilotThread (Except Err Bool) := do
  match ← thisPilot o with
  | .error e => pure (.error e)
  | .ok this =>
      match ← rootController fuel (.of this) with
      | .error e => pure (.error (e.wrap ("unable to get root controller ref for this pilot " ++
          namespaceOf pilot ++ "/" ++ nameOf pilot)))
      | .ok none => pure (.error (.plain ("cannot determine owner of this Pilot resource (" ++
          quoted o.pilotName ++ ") as it is nil. this is an invalid state")))
      | .ok (some clusterOwnerRef) =>
          match ← rootController fuel (.of pilot) with
          | .error e => pure (.error (e.wrap ("unable to get root controller ref for other pilot " ++
              namespaceOf pilot ++ "/" ++ nameOf pilot)))
          | .ok none => pure (.ok false)
          | .ok (some pilotOwnerRef) => pure (.ok (clusterOwnerRef.name = pilotOwnerRef.name &&
              clusterOwnerRef.uid = pilotOwnerRef.uid &&
              clusterOwnerRef.kind = pilotOwnerRef.kind &&
              clusterOwnerRef.apiVersion = pilotOwnerRef.apiVersion))

def reasonProcessStarted : String := "ProcessStarted"

def messageProcessStarted : String := "Subprocess %q started"

/-- `updatePilotStatus`. -/
def updatePilotStatus (o : Options) (pilot : Pilot) : PilotThread (Option Err) := do
  if ← perform .isRunning then
    let process ← perform .processString
    let now ← perform .now
    perform (.updateStatus (pilot.updateStatusCondition o.sprintf now .started .true
      reasonProcessStarted messageProcessStarted [process]))
  else
    let now ← perform .now
    perform (.updateStatus (pilot.updateStatusCondition o.sprintf now .started .false "" "" []))

/-- The start of the process, in `syncPilot`. -/
def ensureStarted : PilotThread (Option Err) := do
  if ← perform .mayStart then perform .start else pure none

/-- `syncPilot` between its deferred functions: the Pilot as the sync function
leaves it, and the error. -/
def syncOwnPilot (o : Options) (pilot : Pilot) : PilotThread (Pilot × Option Err) := do
  if !o.isThis pilot then pure (pilot, none)
  else match ← perform (.transition .preStart pilot) with
    | some e => pure (pilot, some e)
    | none =>
        match ← perform (.ensureProcess pilot) with
        | some e => pure (pilot, some e)
        | none =>
            match ← ensureStarted with
            | some e => pure (pilot, some e)
            | none =>
                match ← perform (.transition .postStart pilot) with
                | some e => pure (pilot, some e)
                | none => perform (.syncFunc pilot)

/-- The deferred call of the leader's sync function. -/
def leaderSync (o : Options) (pilot : Pilot) (err : Option Err) : PilotThread (Option Err) := do
  if !o.leaderElectedSyncFunc then pure err
  else if ← perform .leading then
    let leaderErr ← perform (.leaderElectedSyncFunc pilot)
    pure (newAggregate [err, leaderErr])
  else pure err

/-- `syncPilot`. -/
def syncPilot (o : Options) (pilot : Pilot) : PilotThread (Option Err) := do
  perform .lock
  let synced ← syncOwnPilot o pilot
  let err ← leaderSync o synced.1 synced.2
  perform .unlock
  if o.isThis synced.1 then
    let updateErr ← updatePilotStatus o synced.1
    pure (newAggregate [err, updateErr])
  else pure err

/-- The Pilot that a key stands for, or what `sync` returns without one. -/
def pilotForKey (o : Options) (namespaceName name : String) :
    PilotThread (Option Err ⊕ Pilot) := do
  match ← perform (.getPilot namespaceName name) with
  | .ok pilot => pure (.inr pilot)
  | .error e =>
      if !e.isNotFound then pure (.inl (some e))
      else if !o.isThisPilot name namespaceName then pure (.inl none)
      else match ← thisPilot o with
        | .error _ => pure (.inl none)
        | .ok this => pure (.inr this)

/-- `sync` for a Pilot of the cluster. -/
def syncPeer (o : Options) (key : String) (pilot : Pilot) : PilotThread (Option Err) := do
  if o.isThis pilot then perform (.storeThisPilot pilot)
  let err ← syncPilot o pilot
  perform (.schedule key pilot)
  pure err

/-- `Controller.sync`. -/
def sync (o : Options) (fuel : Nat) (key : String) : PilotThread (Option Err) :=
  match PilotController.splitMetaNamespaceKey key with
  | .error e => pure (some e)
  | .ok (namespaceName, name) => do
      match ← pilotForKey o namespaceName name with
      | .inl result => pure result
      | .inr pilot =>
          match ← isPeer o fuel pilot with
          | .error e => pure (some e)
          | .ok false => pure none
          | .ok true => syncPeer o key pilot

/-- `adapter.Stop`. -/
def stopProcess : PilotThread (Option Err) := do
  if ← perform .isRunning then
    match ← perform .signal with
    | some e => pure (some e)
    | none =>
        perform .awaitExit
        perform .processError
  else perform .processError

/-- `stop`. -/
def stop (pilot : Pilot) : PilotThread (Option Err) := do
  perform .setShutdown
  if !(← perform .isRunning) then pure none
  else match ← perform (.transition .preStop pilot) with
    | some e => pure (some e)
    | none =>
        match ← stopProcess with
        | some e => pure (some e)
        | none => perform (.transition .postStop pilot)

/-- `Run` once it has left its select. -/
def shutDown (o : Options) : PilotThread (Option Err) := do
  match ← thisPilot o with
  | .error e => pure (some e)
  | .ok pilot => stop pilot

/-- `Run`. -/
def run (o : Options) : PilotThread (Option Err) := do
  perform .select
  shutDown o

/-- The pilot at work: the worker of the controller in its current or last
`sync`, and `Run`. -/
structure System where
  shared : Shared
  worker : PilotThread (Option Err) := .ret none
  main : PilotThread (Option Err)

inductive Event where
  /-- The informers bring the caches to any other content. -/
  | caches (caches : State)
  | exit (doneErr : Option Err)
  /-- The worker takes a key from its queue. -/
  | sync (key : String) (fuel : Nat)
  | worker (outcome : Outcome)
  | run (outcome : Outcome)

namespace System

def setShared (s : System) (shared : Shared) : System := { s with shared := shared }

def step (o : Options) (s : System) : Event → Option System
  | .caches caches => some (s.setShared { s.shared with caches := caches })
  | .exit doneErr =>
      match s.shared.process.bind (·.exit doneErr) with
      | none => none
      | some process => some (s.setShared { s.shared with process := some process })
  | .sync key fuel =>
      if s.worker.result?.isSome then some { s with worker := sync o fuel key } else none
  | .worker outcome =>
      (s.worker.advance serve outcome s.shared).map fun after =>
        { s with worker := after.1, shared := after.2 }
  | .run outcome =>
      (s.main.advance serve outcome s.shared).map fun after =>
        { s with main := after.1, shared := after.2 }

/-- What each kind of step does. -/
inductive Moves (o : Options) (s : System) : Event → System → Prop where
  | caches (caches : State) :
      Moves o s (.caches caches) (s.setShared { s.shared with caches := caches })
  | exit {before after : Process} {doneErr : Option Err} (present : s.shared.process = some before)
      (ends : before.exit doneErr = some after) :
      Moves o s (.exit doneErr) (s.setShared { s.shared with process := some after })
  | sync (key : String) (fuel : Nat) :
      Moves o s (.sync key fuel) { s with worker := GenericPilot.sync o fuel key }
  | worker {outcome : Outcome} {worker : PilotThread (Option Err)} {shared : Shared}
      (advances : s.worker.advance serve outcome s.shared = some (worker, shared)) :
      Moves o s (.worker outcome) { s with worker := worker, shared := shared }
  | run {outcome : Outcome} {main : PilotThread (Option Err)} {shared : Shared}
      (advances : s.main.advance serve outcome s.shared = some (main, shared)) :
      Moves o s (.run outcome) { s with main := main, shared := shared }

theorem moves_of_step {o : Options} {s s' : System} {event : Event}
    (h : s.step o event = some s') : Moves o s event s' := by
  cases event with
  | caches caches => exact Option.some.inj h ▸ .caches caches
  | exit doneErr =>
      simp only [step] at h
      split at h
      · cases h
      · rename_i after hafter
        obtain ⟨before, hbefore, hexit⟩ := Option.bind_eq_some_iff.mp hafter
        exact Option.some.inj h ▸ .exit hbefore hexit
  | sync key fuel =>
      simp only [step] at h
      split at h
      · exact Option.some.inj h ▸ .sync key fuel
      · cases h
  | worker outcome =>
      obtain ⟨⟨worker, shared⟩, hadvance, rfl⟩ := Option.map_eq_some_iff.mp h
      exact .worker hadvance
  | run outcome =>
      obtain ⟨⟨main, shared⟩, hadvance, rfl⟩ := Option.map_eq_some_iff.mp h
      exact .run hadvance

end System

/-- Before the informers have started. -/
def noCaches : State where
  statefulSetLister := ⟨[], none⟩
  configMapLister := ⟨[], none⟩
  pilotLister := ⟨[], none⟩
  podLister := ⟨[], none⟩

/-- The generic pilot, from the call of `Run`. -/
def pilotMachine (o : Options) : Machine System Event where
  init s := ∃ hooks : Hooks, hooks.Fresh ∧
    s = { shared := { caches := noCaches, hooks := hooks }, main := run o }
  step := System.step o

end GenericPilot

end Navigator
