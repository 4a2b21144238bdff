/-
The election of the pilot that leads its cluster.  Each pilot runs an elector that
acquires a lease, kept in an annotation of a ConfigMap, and renews it until a deadline
passes without success.  A pilot that finds the lease of another one unchanged for long
enough takes it over.  Requests take time and their answers may be lost, in which case
a write may still be applied later; pilots crash and restart; their clocks are set
differently.
-/
import Mathlib.Algebra.Group.Nat.Defs
import Mathlib.Data.Fintype.Basic
import Mathlib.Data.List.Basic
import Mathlib.Logic.Function.Basic
import Mathlib.Order.Lattice
import Navigator.Base.Machine

namespace Navigator

open ControlLoop

namespace LeaderElection

/-- Times are in nanoseconds. -/
def second : Nat := 10 ^ 9

/-- `LeaderElectionConfig`. -/
structure Config where
  leaseDuration : Nat
  renewDeadline : Nat
  retryPeriod : Nat
deriving DecidableEq

/-- `NewLeaderElector`. -/
def newLeaderElector (config : Config) : Except String Config :=
  if config.leaseDuration ≤ config.renewDeadline then
    .error "leaseDuration must be greater than renewDeadline"
  else if config.renewDeadline ≤ config.retryPeriod * 12 / 10 then
    .error "renewDeadline must be greater than retryPeriod*JitterFactor"
  else .ok config

/-- The durations of the pilots' `Elector`. -/
def defaultConfig : Config where
  leaseDuration := 15 * second
  renewDeadline := 10 * second
  retryPeriod := 2 * second

example : newLeaderElector defaultConfig = .ok defaultConfig := rfl

/-- `LeaderElectionRecord`; a record without a holder has the empty identity. -/
structure LeaderElectionRecord (P : Type) where
  holderIdentity : Option P := none
  leaseDurationSeconds : Nat := 0
  acquireTime : Nat := 0
  renewTime : Nat := 0
  leaderTransitions : Nat := 0
deriving DecidableEq

/-- The annotation holds times in whole seconds. -/
def toSeconds (time : Nat) : Nat := time / second * second

def LeaderElectionRecord.encoded {P : Type} (record : LeaderElectionRecord P) :
    LeaderElectionRecord P :=
  { record with
    acquireTime := toSeconds record.acquireTime, renewTime := toSeconds record.renewTime }

/-- The ConfigMap with the lease. -/
structure Lock (P : Type) where
  version : Nat
  record : LeaderElectionRecord P
deriving DecidableEq

/-- A request to create the ConfigMap, or to update the version of it that was read. -/
structure Write (P : Type) where
  writer : P
  base : Option Nat
  record : LeaderElectionRecord P
deriving DecidableEq

/-- How far `tryAcquireOrRenew` has come: the ConfigMap is asked for, it is read, a
write is sent, the server has applied or refused the write. -/
inductive Stage (P : Type) where
  | getting
  | got (lock : Option (Lock P))
  | writing (write : Write P)
  | applied (time : Nat)
  | refused
deriving DecidableEq

/-- A call of `tryAcquireOrRenew`; the last one of a poll is marked. -/
structure Call (P : Type) where
  started : Nat
  final : Bool
  stage : Stage P
deriving DecidableEq

/-- A poll of `renew`: when it began, when its channel was closed, and since when the
loop waits on the channel.  `renewed` is the time at which the server applied the write
that was confirmed last; no step depends on it. -/
structure Poll where
  start : Nat
  closed : Option Nat
  ready : Nat
  renewed : Nat
deriving DecidableEq

inductive Phase where
  | acquiring
  | renewing (poll : Poll)
  | returned
deriving DecidableEq

def Phase.poll : Phase → Option Poll
  | .renewing poll => some poll
  | _ => none

/-- A `LeaderElector` and the flag of its pilot.  `observedRecord` is missing when it is a
record of its own, which differs from every one that is read because it is not rounded;
`observedTime` is missing before anything is observed.  `starting` says that
`startLeading` was called in its goroutine and has not run yet. -/
structure Elector (P : Type) where
  observedRecord : Option (LeaderElectionRecord P) := some {}
  observedTime : Option Nat := none
  phase : Phase := .acquiring
  call : Option (Call P) := none
  leading : Bool := false
  starting : Bool := false
deriving DecidableEq

/-- What the pilots share.  `since` is the time at which the lease got its present
holder and renewal time; no step depends on it. -/
structure Board (P : Type) where
  clock : Nat := 0
  lock : Option (Lock P) := none
  since : Nat := 0

/-- `lost` are the writes that were given up but may still arrive. -/
structure System (P : Type) where
  board : Board P := {}
  lost : List (Write P) := []
  elector : P → Elector P := fun _ => {}

inductive Event (P : Type) where
  | tick (duration : Nat)
  /-- An elector starts a call, or the channel of its poll is closed at the deadline. -/
  | begin (p : P)
  | close (p : P)
  | read (p : P)
  | readFails (p : P)
  | proceed (p : P)
  | apply (p : P)
  | respond (p : P)
  /-- The answer to a write is lost; the write may arrive later. -/
  | lose (p : P)
  | applyLost (i : Nat)
  | startLeading (p : P)
  | crash (p : P)
  | restart (p : P)
deriving DecidableEq

section

variable {P : Type} [DecidableEq P]

/-- The holder, its number and its renewal time are the same. -/
def LeaderElectionRecord.SameLease (record record' : LeaderElectionRecord P) : Prop :=
  record.holderIdentity = record'.holderIdentity ∧
    record.leaderTransitions = record'.leaderTransitions ∧ record.renewTime = record'.renewTime

instance (record record' : LeaderElectionRecord P) : Decidable (record.SameLease record') :=
  inferInstanceAs (Decidable (_ ∧ _ ∧ _))

/-- The server: a ConfigMap is created once and updated only from its last version. -/
def Board.write (b : Board P) (write : Write P) : Option (Board P) :=
  match b.lock, write.base with
  | none, none => some { b with lock := some ⟨0, write.record.encoded⟩, since := b.clock }
  | some lock, some version =>
      if lock.version = version then
        some { b with
          lock := some ⟨version + 1, write.record.encoded⟩
          since := if lock.record.SameLease write.record.encoded then b.since else b.clock }
      else none
  | _, _ => none

/-- The record of a call that started at the elector's time `now`. -/
def newRecord (config : Config) (p : P) (now : Nat) : LeaderElectionRecord P where
  holderIdentity := some p
  leaseDurationSeconds := config.leaseDuration / second
  acquireTime := now
  renewTime := now

def nextRecord (config : Config) (p : P) (now : Nat) (old : LeaderElectionRecord P) :
    LeaderElectionRecord P :=
  if old.holderIdentity = some p then
    { newRecord config p now with
      acquireTime := old.acquireTime, leaderTransitions := old.leaderTransitions }
  else { newRecord config p now with leaderTransitions := old.leaderTransitions + 1 }

namespace Elector

/-- `tryAcquireOrRenew` has returned, with the time of its write if it succeeded; then
`acquire` or `renew` goes on. -/
def finish (clock : Nat) (final : Bool) (renewed : Option Nat) (e : Elector P) : Elector P :=
  match e.phase, renewed with
  | .acquiring, some time =>
      { e with call := none, phase := .renewing ⟨clock, none, clock, time⟩, starting := true }
  | .acquiring, none => { e with call := none }
  | .renewing _, some time =>
      { e with call := none, phase := .renewing ⟨clock, none, clock, time⟩ }
  | .renewing poll, none =>
      if final then { e with call := none, phase := .returned, leading := false }
      else { e with call := none, phase := .renewing { poll with ready := clock } }
  | .returned, _ => e

/-- A call is started: by `acquire` at any time, by a poll after its first interval, and
once more when its channel is closed. -/
def begin (config : Config) (clock : Nat) (e : Elector P) : Option (Elector P) :=
  match e.call, e.phase with
  | none, .acquiring => some { e with call := some ⟨clock, false, .getting⟩ }
  | none, .renewing poll =>
      if poll.closed.isSome then some { e with call := some ⟨clock, true, .getting⟩ }
      else if poll.start + config.retryPeriod ≤ clock then
        some { e with call := some ⟨clock, false, .getting⟩ }
      else none
  | _, _ => none

/-- The timer of the poll ends. -/
def close (config : Config) (clock : Nat) (e : Elector P) : Option (Elector P) :=
  match e.phase with
  | .renewing poll =>
      if poll.closed = none ∧ poll.start + config.renewDeadline ≤ clock then
        some { e with phase := .renewing { poll with closed := some clock } }
      else none
  | _ => none

def observe (time : Nat) (record : LeaderElectionRecord P) (e : Elector P) : Elector P :=
  if e.observedRecord = some record then e
  else { e with observedRecord := some record, observedTime := some time }

/-- The record was observed too recently, and it is another one's. -/
def held (config : Config) (p : P) (now : Nat) (record : LeaderElectionRecord P)
    (e : Elector P) : Bool :=
  e.observedTime.any (fun time => now < time + config.leaseDuration) &&
    record.holderIdentity ≠ some p

/-- `tryAcquireOrRenew` after the ConfigMap was read or was found missing. -/
def proceed (config : Config) (p : P) (offset clock : Nat) (call : Call P)
    (lock : Option (Lock P)) (e : Elector P) : Elector P :=
  match lock with
  | none =>
      { e with call := some { call with
          stage := .writing ⟨p, none, newRecord config p (call.started + offset)⟩ } }
  | some lock =>
      if (e.observe (clock + offset) lock.record).held config p (call.started + offset)
          lock.record then
        (e.observe (clock + offset) lock.record).finish clock call.final none
      else
        { e.observe (clock + offset) lock.record with call := some { call with
            stage := .writing ⟨p, some lock.version,
              nextRecord config p (call.started + offset) lock.record⟩ } }

end Elector

namespace System

def set (s : System P) (p : P) (e : Elector P) : System P :=
  { s with elector := Function.update s.elector p e }

/-- The write that an elector has sent. -/
def sent (e : Elector P) : List (Write P) :=
  match e.call with
  | some ⟨_, _, .writing write⟩ => [write]
  | _ => []

/-- A step; `offset` tells how far a pilot's clock is ahead. -/
def step (config : Config) (offset : P → Nat) (s : System P) : Event P → Option (System P)
  | .tick duration => some { s with board := { s.board with clock := s.board.clock + duration } }
  | .begin p => ((s.elector p).begin config s.board.clock).map (s.set p)
  | .close p => ((s.elector p).close config s.board.clock).map (s.set p)
  | .read p =>
      match (s.elector p).call with
      | some ⟨started, final, .getting⟩ =>
          some (s.set p { s.elector p with call := some ⟨started, final, .got s.board.lock⟩ })
      | _ => none
  | .readFails p =>
      match (s.elector p).call with
      | some ⟨_, final, .getting⟩ =>
          some (s.set p ((s.elector p).finish s.board.clock final none))
      | _ => none
  | .proceed p =>
      match (s.elector p).call with
      | some ⟨started, final, .got lock⟩ =>
          some (s.set p ((s.elector p).proceed config p (offset p) s.board.clock
            ⟨started, final, .got lock⟩ lock))
      | _ => none
  | .apply p =>
      match (s.elector p).call with
      | some ⟨started, final, .writing write⟩ =>
          match s.board.write write with
          | some board =>
              some ({ s with board := board }.set p
                { s.elector p with call := some ⟨started, final, .applied s.board.clock⟩ })
          | none =>
              some (s.set p { s.elector p with call := some ⟨started, final, .refused⟩ })
      | _ => none
  | .respond p =>
      match (s.elector p).call with
      | some ⟨_, final, .applied time⟩ =>
          some (s.set p (Elector.finish s.board.clock final (some time)
            { s.elector p with
              observedRecord := none, observedTime := some (s.board.clock + offset p) }))
      | some ⟨_, final, .refused⟩ =>
          some (s.set p ((s.elector p).finish s.board.clock final none))
      | _ => none
  | .lose p =>
      match (s.elector p).call with
      | some ⟨_, final, .writing write⟩ =>
          some ({ s with lost := write :: s.lost }.set p
            ((s.elector p).finish s.board.clock final none))
      | some ⟨_, final, .applied _⟩ =>
          some (s.set p ((s.elector p).finish s.board.clock final none))
      | _ => none
  | .applyLost i =>
      (s.lost[i]?).map fun write =>
        { s with board := (s.board.write write).getD s.board, lost := s.lost.eraseIdx i }
  | .startLeading p =>
      if (s.elector p).starting then
        some (s.set p { s.elector p with leading := true, starting := false })
      else none
  | .crash p =>
      some ({ s with lost := sent (s.elector p) ++ s.lost }.set p { phase := .returned })
  | .restart p =>
      if (s.elector p).phase = .returned then some (s.set p {}) else none

end System

/-- What a step does, case by case. -/
inductive Effect (config : Config) (offset : P → Nat) (s : System P) :
    Event P → System P → Prop where
  | tick {duration : Nat} :
      Effect config offset s (.tick duration)
        { s with board := { s.board with clock := s.board.clock + duration } }
  | begin {p : P} {e : Elector P} : (s.elector p).begin config s.board.clock = some e →
      Effect config offset s (.begin p) (s.set p e)
  | close {p : P} {e : Elector P} : (s.elector p).close config s.board.clock = some e →
      Effect config offset s (.close p) (s.set p e)
  | read {p : P} {started : Nat} {final : Bool} :
      (s.elector p).call = some ⟨started, final, .getting⟩ →
      Effect config offset s (.read p)
        (s.set p { s.elector p with call := some ⟨started, final, .got s.board.lock⟩ })
  | fails {event : Event P} {p : P} {call : Call P} :
      (s.elector p).call = some call →
      Effect config offset s event (s.set p ((s.elector p).finish s.board.clock call.final none))
  | proceed {p : P} {started : Nat} {final : Bool} {lock : Option (Lock P)} :
      (s.elector p).call = some ⟨started, final, .got lock⟩ →
      Effect config offset s (.proceed p)
        (s.set p ((s.elector p).proceed config p (offset p) s.board.clock
          ⟨started, final, .got lock⟩ lock))
  | apply {p : P} {started : Nat} {final : Bool} {write : Write P} {board : Board P} :
      (s.elector p).call = some ⟨started, final, .writing write⟩ →
      s.board.write write = some board →
      Effect config offset s (.apply p)
        ({ s with board := board }.set p
          { s.elector p with call := some ⟨started, final, .applied s.board.clock⟩ })
  | refuse {p : P} {started : Nat} {final : Bool} {write : Write P} :
      (s.elector p).call = some ⟨started, final, .writing write⟩ →
      Effect config offset s (.apply p)
        (s.set p { s.elector p with call := some ⟨started, final, .refused⟩ })
  | respond {p : P} {started : Nat} {final : Bool} {time : Nat} :
      (s.elector p).call = some ⟨started, final, .applied time⟩ →
      Effect config offset s (.respond p)
        (s.set p (Elector.finish s.board.clock final (some time)
          { s.elector p with
            observedRecord := none, observedTime := some (s.board.clock + offset p) }))
  | lose {p : P} {started : Nat} {final : Bool} {write : Write P} :
      (s.elector p).call = some ⟨started, final, .writing write⟩ →
      Effect config offset s (.lose p)
        ({ s with lost := write :: s.lost }.set p
          ((s.elector p).finish s.board.clock final none))
  | applyLost {i : Nat} {write : Write P} : s.lost[i]? = some write →
      Effect config offset s (.applyLost i)
        { s with board := (s.board.write write).getD s.board, lost := s.lost.eraseIdx i }
  | startLeading {p : P} : (s.elector p).starting = true →
      Effect config offset s (.startLeading p)
        (s.set p { s.elector p with leading := true, starting := false })
  | crash {p : P} :
      Effect config offset s (.crash p)
        ({ s with lost := System.sent (s.elector p) ++ s.lost }.set p { phase := .returned })
  | restart {p : P} : (s.elector p).phase = .returned →
      Effect config offset s (.restart p) (s.set p {})

theorem step_effect {config : Config} {offset : P → Nat} {s s' : System P} {event : Event P}
    (h : s.step config offset event = some s') : Effect config offset s event s' := by
  cases event with
  | tick duration =>
      cases h
      exact .tick
  | begin p =>
      obtain ⟨e, he, rfl⟩ := Option.map_eq_some_iff.mp h
      exact .begin he
  | close p =>
      obtain ⟨e, he, rfl⟩ := Option.map_eq_some_iff.mp h
      exact .close he
  | read p =>
      simp only [System.step] at h
      split at h
      · cases h
        exact .read ‹_›
      · cases h
  | readFails p =>
      simp only [System.step] at h
      split at h
      case h_1 hcall =>
        cases h
        exact .fails hcall
      · cases h
  | proceed p =>
      simp only [System.step] at h
      split at h
      · cases h
        exact .proceed ‹_›
      · cases h
  | apply p =>
      simp only [System.step] at h
      split at h
      case h_1 hcall =>
        split at h
        · cases h
          exact .apply hcall ‹_›
        · cases h
          exact .refuse hcall
      · cases h
  | respond p =>
      simp only [System.step] at h
      split at h
      · cases h
        exact .respond ‹_›
      case h_2 hcall =>
        cases h
        exact .fails hcall
      · cases h
  | lose p =>
      simp only [System.step] at h
      split at h
      · cases h
        exact .lose ‹_›
      case h_2 hcall =>
        cases h
        exact .fails hcall
      · cases h
  | applyLost i =>
      obtain ⟨write, hwrite, rfl⟩ := Option.map_eq_some_iff.mp h
      exact .applyLost hwrite
  | startLeading p =>
      obtain ⟨hstarting, ⟨⟩⟩ := Option.ite_none_right_eq_some.mp h
      exact .startLeading hstarting
  | crash p =>
      cases h
      exact .crash
  | restart p =>
      obtain ⟨hreturned, ⟨⟩⟩ := Option.ite_none_right_eq_some.mp h
      exact .restart hreturned

/-- At first nobody holds the lease: there is no ConfigMap, or it has no annotation. -/
def machine (config : Config) (offset : P → Nat) : Machine (System P) (Event P) where
  init s := ∃ lock, s = { board := { lock := lock } } ∧ ∀ l ∈ lock, l.record = {}
  step := System.step config offset

end

end LeaderElection

end Navigator
