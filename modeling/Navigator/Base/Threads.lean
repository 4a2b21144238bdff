/-
Threads that share a memory.  A thread is a program of atomic operations, each
answered by the memory it meets; an operation may have to wait.  What a thread
reaches whatever the others do in between is described by a relation that
bounds their interference, the order of its operations by a protocol, and its
effect when the others rest by a function.
-/
import Mathlib.Data.List.Basic

namespace ControlLoop

variable {Op : Type} {Ans : Op → Type} {α β σ ω : Type}

/-- A program that performs operations, waits for each answer, and finally
returns a value. -/
inductive Thread (Op : Type) (Ans : Op → Type) (α : Type) where
  | ret (value : α)
  | call (op : Op) (next : Ans op → Thread Op Ans α)

namespace Thread

/-- Sequencing. -/
def bind : Thread Op Ans α → (α → Thread Op Ans β) → Thread Op Ans β
  | .ret value, rest => rest value
  | .call op next, rest => .call op fun answer => (next answer).bind rest

instance : Monad (Thread Op Ans) where
  pure := .ret
  bind := .bind

/-- Perform one operation and return its answer. -/
def perform (op : Op) : Thread Op Ans (Ans op) := .call op .ret

/-- What the thread has returned. -/
def result? : Thread Op Ans α → Option α
  | .ret value => some value
  | .call _ _ => none

/-- What an operation does to the memory, where the outcome stands for what the
memory does not decide, and `none` says that the operation has to wait. -/
abbrev Semantics (Op : Type) (Ans : Op → Type) (σ ω : Type) :=
  ω → σ → (op : Op) → Option (Ans op × σ)

/-- One operation of a thread. -/
def advance (serve : Semantics Op Ans σ ω) (outcome : ω) :
    Thread Op Ans α → σ → Option (Thread Op Ans α × σ)
  | .ret _, _ => none
  | .call op next, state =>
      (serve outcome state op).map fun answered => (next answered.1, answered.2)

/-- The thread performs no `bad` operation before one that `opens` the way. -/
def Guarded (opens bad : Op → Prop) : Thread Op Ans α → Prop
  | .ret _ => True
  | .call op next => ¬ bad op ∧ (opens op ∨ ∀ answer, (next answer).Guarded opens bad)

/-- The thread performs no `bad` operation. -/
abbrev Never (bad : Op → Prop) (thread : Thread Op Ans α) : Prop :=
  thread.Guarded (fun _ => False) bad

section Guarded

variable {opens bad : Op → Prop}

@[simp] theorem guarded_ret {value : α} :
    (ret value : Thread Op Ans α).Guarded opens bad :=
  trivial

@[simp] theorem guarded_pure {value : α} :
    (pure value : Thread Op Ans α).Guarded opens bad :=
  trivial

theorem guarded_perform {op : Op} (hop : ¬ bad op) :
    (perform op : Thread Op Ans (Ans op)).Guarded opens bad :=
  ⟨hop, .inr fun _ => trivial⟩

theorem guarded_bind {thread : Thread Op Ans α} {rest : α → Thread Op Ans β}
    (hthread : thread.Guarded opens bad) (hrest : ∀ value, (rest value).Guarded opens bad) :
    (thread >>= rest).Guarded opens bad := by
  change (thread.bind rest).Guarded opens bad
  induction thread with
  | ret value => exact hrest value
  | call op next ih =>
      refine ⟨hthread.1, hthread.2.imp id ?_⟩
      intro hnext answer
      exact ih answer (hnext answer)

/-- Once the way is open nothing is asked of the rest. -/
theorem guarded_of_opens {op : Op} {rest : Ans op → Thread Op Ans β} (hop : ¬ bad op)
    (hopens : opens op) : (perform op >>= rest).Guarded opens bad :=
  ⟨hop, .inl hopens⟩

/-- The operation of a step is not bad, and either opens the way or leaves a
thread that is still guarded. -/
theorem Guarded.advance {serve : Semantics Op Ans σ ω} {outcome : ω}
    {thread thread' : Thread Op Ans α} {state state' : σ}
    (hthread : thread.Guarded opens bad)
    (hadvance : thread.advance serve outcome state = some (thread', state')) :
    ∃ op answer, serve outcome state op = some (answer, state') ∧ ¬ bad op ∧
      (opens op ∨ thread'.Guarded opens bad) := by
  cases thread with
  | ret value => cases hadvance
  | call op next =>
      obtain ⟨⟨answer, after⟩, hserve, heq⟩ := Option.map_eq_some_iff.mp hadvance
      obtain ⟨rfl, rfl⟩ := Prod.mk.inj heq
      exact ⟨op, answer, hserve, hthread.1, hthread.2.imp id fun hnext => hnext answer⟩

end Guarded

/-- Whatever the other threads do within `rely`, what the thread returns
satisfies `post`, and the thread has to wait only in states that `allow` it. -/
def Ensures (serve : Semantics Op Ans σ ω) (rely : σ → σ → Prop) (allow : σ → Prop)
    (post : α → σ → Prop) : Thread Op Ans α → σ → Prop
  | .ret value, state => ∀ state', rely state state' → post value state'
  | .call op next, state => ∀ state', rely state state' →
      (allow state' ∨ ∀ outcome, (serve outcome state' op).isSome = true) ∧
        ∀ outcome answer after, serve outcome state' op = some (answer, after) →
          (next answer).Ensures serve rely allow post after

section Ensures

variable {serve : Semantics Op Ans σ ω} {rely : σ → σ → Prop} {allow : σ → Prop}
  {post mid : α → σ → Prop} {final : β → σ → Prop}

/-- The others may go on before the thread does. -/
theorem Ensures.stable (htrans : ∀ a b c, rely a b → rely b c → rely a c)
    {thread : Thread Op Ans α} {state state' : σ}
    (h : thread.Ensures serve rely allow post state) (hrely : rely state state') :
    thread.Ensures serve rely allow post state' := by
  cases thread with
  | ret value => exact fun last hlast => h last (htrans _ _ _ hrely hlast)
  | call op next => exact fun last hlast => h last (htrans _ _ _ hrely hlast)

theorem Ensures.mono {thread : Thread Op Ans α} {state : σ}
    (h : thread.Ensures serve rely allow post state)
    (hpost : ∀ value state', post value state' → mid value state') :
    thread.Ensures serve rely allow mid state := by
  induction thread generalizing state with
  | ret value => exact fun state' hstate' => hpost value state' (h state' hstate')
  | call op next ih =>
      intro state' hstate'
      refine ⟨(h state' hstate').1, ?_⟩
      intro outcome answer after hserve
      exact ih answer ((h state' hstate').2 outcome answer after hserve)

theorem ensures_trivial (thread : Thread Op Ans α) (state : σ) :
    thread.Ensures serve rely (fun _ => True) (fun _ _ => True) state := by
  induction thread generalizing state with
  | ret value => exact fun _ _ => trivial
  | call op next ih => exact fun _ _ => ⟨.inl trivial, fun _ answer after _ => ih answer after⟩

variable (hrefl : ∀ state, rely state state)

include hrefl

theorem Ensures.advance {thread thread' : Thread Op Ans α} {state state' : σ} {outcome : ω}
    (h : thread.Ensures serve rely allow post state)
    (hadvance : thread.advance serve outcome state = some (thread', state')) :
    thread'.Ensures serve rely allow post state' := by
  cases thread with
  | ret value => cases hadvance
  | call op next =>
      obtain ⟨⟨answer, after⟩, hserve, heq⟩ := Option.map_eq_some_iff.mp hadvance
      obtain ⟨rfl, rfl⟩ := Prod.mk.inj heq
      exact (h state (hrefl state)).2 outcome answer after hserve

theorem Ensures.post_of_result {thread : Thread Op Ans α} {state : σ} {value : α}
    (h : thread.Ensures serve rely allow post state) (hresult : thread.result? = some value) :
    post value state := by
  cases thread with
  | ret returned => exact Option.some.inj hresult ▸ h state (hrefl state)
  | call op next => cases hresult

theorem Ensures.enabled {thread : Thread Op Ans α} {state : σ}
    (h : thread.Ensures serve rely allow post state) (hresult : thread.result? = none)
    (hallow : ¬ allow state) (outcome : ω) :
    (thread.advance serve outcome state).isSome = true := by
  cases thread with
  | ret value => cases hresult
  | call op next =>
      have hserved := (h state (hrefl state)).1.resolve_left hallow outcome
      simpa only [Thread.advance, Option.isSome_map] using hserved

theorem ensures_bind {thread : Thread Op Ans α} {rest : α → Thread Op Ans β} {state : σ}
    (hthread : thread.Ensures serve rely allow mid state)
    (hrest : ∀ value state', mid value state' →
      (rest value).Ensures serve rely allow final state') :
    (thread >>= rest).Ensures serve rely allow final state := by
  change (thread.bind rest).Ensures serve rely allow final state
  induction thread generalizing state with
  | ret value => exact hrest value state (hthread state (hrefl state))
  | call op next ih =>
      intro state' hstate'
      refine ⟨(hthread state' hstate').1, ?_⟩
      intro outcome answer after hserve
      exact ih answer ((hthread state' hstate').2 outcome answer after hserve)

end Ensures

/-- An operation that never waits: what is to be shown of the rest, for every
state that the others may leave it to. -/
theorem ensures_perform_bind {serve : Semantics Op Ans σ ω} {rely : σ → σ → Prop}
    {allow : σ → Prop} {final : β → σ → Prop} {op : Op} {rest : Ans op → Thread Op Ans β}
    {answer : ω → σ → Ans op} {effect : ω → σ → σ}
    (hserve : ∀ outcome state, serve outcome state op =
      some (answer outcome state, effect outcome state))
    {state : σ}
    (hrest : ∀ state', rely state state' → ∀ outcome,
      (rest (answer outcome state')).Ensures serve rely allow final (effect outcome state')) :
    (perform op >>= rest).Ensures serve rely allow final state := by
  intro state' hstate'
  refine ⟨.inr fun outcome => by rw [hserve]; rfl, ?_⟩
  intro outcome given after hgiven
  rw [hserve] at hgiven
  obtain ⟨rfl, rfl⟩ := Prod.mk.inj (Option.some.inj hgiven)
  exact hrest state' hstate' outcome

/-- The same for an operation that the thread ends with. -/
theorem ensures_perform {serve : Semantics Op Ans σ ω} {rely : σ → σ → Prop}
    {allow : σ → Prop} {op : Op} {post : Ans op → σ → Prop}
    {answer : ω → σ → Ans op} {effect : ω → σ → σ}
    (hserve : ∀ outcome state, serve outcome state op =
      some (answer outcome state, effect outcome state))
    {state : σ}
    (hpost : ∀ state', rely state state' → ∀ outcome last,
      rely (effect outcome state') last → post (answer outcome state') last) :
    (perform op : Thread Op Ans (Ans op)).Ensures serve rely allow post state :=
  ensures_perform_bind hserve hpost

/-- Whatever the answers, the thread performs only operations that the protocol
allows, whose state goes on with each answer. -/
def Follows {κ : Type} (allowed : κ → Op → Prop) (goOn : κ → (op : Op) → Ans op → κ) :
    Thread Op Ans α → κ → Prop
  | .ret _, _ => True
  | .call op next, phase =>
      allowed phase op ∧ ∀ answer, (next answer).Follows allowed goOn (goOn phase op answer)

section Follows

variable {κ : Type} {allowed : κ → Op → Prop} {goOn : κ → (op : Op) → Ans op → κ}

@[simp] theorem follows_pure {value : α} {phase : κ} :
    (pure value : Thread Op Ans α).Follows allowed goOn phase :=
  trivial

theorem follows_perform {op : Op} {phase : κ} (hop : allowed phase op) :
    (perform op : Thread Op Ans (Ans op)).Follows allowed goOn phase :=
  ⟨hop, fun _ => trivial⟩

theorem follows_bind {thread : Thread Op Ans α} {rest : α → Thread Op Ans β} {phase : κ}
    (hthread : thread.Follows allowed goOn phase)
    (hrest : ∀ value phase', (rest value).Follows allowed goOn phase') :
    (thread >>= rest).Follows allowed goOn phase := by
  change (thread.bind rest).Follows allowed goOn phase
  induction thread generalizing phase with
  | ret value => exact hrest value phase
  | call op next ih => exact ⟨hthread.1, fun answer => ih answer (hthread.2 answer)⟩

theorem follows_perform_bind {op : Op} {rest : Ans op → Thread Op Ans β} {phase : κ}
    (hop : allowed phase op)
    (hrest : ∀ answer, (rest answer).Follows allowed goOn (goOn phase op answer)) :
    (perform op >>= rest).Follows allowed goOn phase :=
  ⟨hop, hrest⟩

/-- A thread without the operations that the protocol restricts follows it. -/
theorem Guarded.follows {bad : Op → Prop} {thread : Thread Op Ans α} {phase : κ}
    (hthread : thread.Never bad) (hallowed : ∀ phase op, ¬ bad op → allowed phase op) :
    thread.Follows allowed goOn phase := by
  induction thread generalizing phase with
  | ret value => trivial
  | call op next ih =>
      exact ⟨hallowed phase op hthread.1, fun answer => ih answer (hthread.2.resolve_left id answer)⟩

theorem Follows.advance {serve : Semantics Op Ans σ ω} {outcome : ω}
    {thread thread' : Thread Op Ans α} {state state' : σ} {phase : κ}
    (hthread : thread.Follows allowed goOn phase)
    (hadvance : thread.advance serve outcome state = some (thread', state')) :
    ∃ op answer, serve outcome state op = some (answer, state') ∧ allowed phase op ∧
      thread'.Follows allowed goOn (goOn phase op answer) := by
  cases thread with
  | ret value => cases hadvance
  | call op next =>
      obtain ⟨⟨answer, after⟩, hserve, heq⟩ := Option.map_eq_some_iff.mp hadvance
      obtain ⟨rfl, rfl⟩ := Prod.mk.inj heq
      exact ⟨op, answer, hserve, hthread.1, hthread.2 answer⟩

end Follows

/-- The operation that the thread performs next. -/
def nextOp? : Thread Op Ans α → Option Op
  | .ret _ => none
  | .call op _ => some op

/-- The thread alone with the memory: what it returns, the operations it has
performed, and the memory it leaves; `none` when it has to wait. -/
def alone (serve : Semantics Op Ans σ ω) (outcomes : Op → ω) :
    Thread Op Ans α → σ → Option (α × List Op × σ)
  | .ret value, state => some (value, [], state)
  | .call op next, state =>
      (serve (outcomes op) state op).bind fun answered =>
        ((next answered.1).alone serve outcomes answered.2).map fun rest =>
          (rest.1, op :: rest.2.1, rest.2.2)

section Alone

variable {serve : Semantics Op Ans σ ω} {outcomes : Op → ω}

@[simp] theorem alone_pure {value : α} {state : σ} :
    (pure value : Thread Op Ans α).alone serve outcomes state = some (value, [], state) :=
  rfl

theorem alone_bind {thread : Thread Op Ans α} {rest : α → Thread Op Ans β} {state : σ} :
    (thread >>= rest).alone serve outcomes state =
      (thread.alone serve outcomes state).bind fun first =>
        ((rest first.1).alone serve outcomes first.2.2).map fun second =>
          (second.1, first.2.1 ++ second.2.1, second.2.2) := by
  change (thread.bind rest).alone serve outcomes state = _
  induction thread generalizing state with
  | ret value => simp [Thread.bind, alone]
  | call op next ih =>
      cases hserve : serve (outcomes op) state op with
      | none => simp [Thread.bind, alone, hserve]
      | some answered =>
          simp [Thread.bind, alone, hserve, ih, Option.bind_map, Option.map_bind, Function.comp_def]

theorem alone_bind_eq_some {thread : Thread Op Ans α} {rest : α → Thread Op Ans β} {state state'' : σ}
    {value : β} {ops : List Op}
    (h : (thread >>= rest).alone serve outcomes state = some (value, ops, state'')) :
    ∃ first opsFirst state' opsRest,
      thread.alone serve outcomes state = some (first, opsFirst, state') ∧
        (rest first).alone serve outcomes state' = some (value, opsRest, state'') ∧
        ops = opsFirst ++ opsRest := by
  rw [alone_bind] at h
  obtain ⟨⟨first, opsFirst, state'⟩, hfirst, hmap⟩ := Option.bind_eq_some_iff.mp h
  obtain ⟨⟨second, opsRest, last⟩, hrest, heq⟩ := Option.map_eq_some_iff.mp hmap
  obtain ⟨rfl, hops, rfl⟩ : second = value ∧ opsFirst ++ opsRest = ops ∧ last = state'' := by
    simpa using heq
  exact ⟨first, opsFirst, state', opsRest, hfirst, hrest, hops.symm⟩

theorem alone_bind_some {thread : Thread Op Ans α} {rest : α → Thread Op Ans β}
    {state state' state'' : σ} {first : α} {value : β} {opsFirst opsRest : List Op}
    (hfirst : thread.alone serve outcomes state = some (first, opsFirst, state'))
    (hrest : (rest first).alone serve outcomes state' = some (value, opsRest, state'')) :
    (thread >>= rest).alone serve outcomes state =
      some (value, opsFirst ++ opsRest, state'') := by
  rw [alone_bind, hfirst, Option.bind_some, hrest, Option.map_some]

theorem alone_perform {op : Op} {state state' : σ} {answer : Ans op}
    (hserve : serve (outcomes op) state op = some (answer, state')) :
    (perform op).alone serve outcomes state = some (answer, [op], state') := by
  simp [perform, alone, hserve]

theorem alone_perform_bind {op : Op} {rest : Ans op → Thread Op Ans β} {state state' : σ}
    {answer : Ans op} (hserve : serve (outcomes op) state op = some (answer, state')) :
    (perform op >>= rest).alone serve outcomes state =
      ((rest answer).alone serve outcomes state').map fun second =>
        (second.1, op :: second.2.1, second.2.2) := by
  change (Thread.call op rest).alone serve outcomes state = _
  rw [alone, hserve, Option.bind_some]

end Alone

end Thread

end ControlLoop
