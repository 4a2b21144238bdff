/-
Programs that talk to a server one request at a time.  A program sees only the
answer to each request, so what it may ask for on any path of answers is a
property of the program alone, and what a run does to the server follows from
the requests the run issues.
-/
import Mathlib.Data.List.Basic

namespace ControlLoop

variable {Req Resp Err α β σ : Type}

/-- A program that issues requests, waits for each answer, and finally returns
a value or fails. -/
inductive Prog (Req Resp Err α : Type) where
  | ret (value : α)
  | fail (error : Err)
  | call (request : Req) (next : Resp → Prog Req Resp Err α)

namespace Prog

/-- Sequencing; a failure ends the program. -/
def bind : Prog Req Resp Err α → (α → Prog Req Resp Err β) → Prog Req Resp Err β
  | .ret value, rest => rest value
  | .fail error, _ => .fail error
  | .call request next, rest => .call request fun answer => (next answer).bind rest

instance : Monad (Prog Req Resp Err) where
  pure := .ret
  bind := .bind

/-- Turn a failure into a value, so that the caller can look at it. -/
def attempt : Prog Req Resp Err α → Prog Req Resp Err (Except Err α)
  | .ret value => .ret (.ok value)
  | .fail error => .ret (.error error)
  | .call request next => .call request fun answer => (next answer).attempt

/-- Rewrite the error of a failure. -/
def mapFail (rewrite : Err → Err) : Prog Req Resp Err α → Prog Req Resp Err α
  | .ret value => .ret value
  | .fail error => .fail (rewrite error)
  | .call request next => .call request fun answer => (next answer).mapFail rewrite

/-- Run one program for each element, in order, until one fails. -/
def forEach : List β → (β → Prog Req Resp Err Unit) → Prog Req Resp Err Unit
  | [], _ => .ret ()
  | item :: rest, body => body item >>= fun _ => forEach rest body

/-- Run a program against a server. -/
def run (serve : σ → Req → Resp × σ) :
    Prog Req Resp Err α → σ → Except Err α × σ
  | .ret value, state => (.ok value, state)
  | .fail error, state => (.error error, state)
  | .call request next, state =>
      (next (serve state request).1).run serve (serve state request).2

/-- The requests a run issues, in order, each with the server state it meets. -/
def calls (serve : σ → Req → Resp × σ) : Prog Req Resp Err α → σ → List (σ × Req)
  | .ret _, _ => []
  | .fail _, _ => []
  | .call request next, state =>
      (state, request) :: (next (serve state request).1).calls serve (serve state request).2

/-- On every path of answers, each request is `good` and a value returned
satisfies `post`. -/
def Safe (good : Req → Prop) (post : α → Prop) : Prog Req Resp Err α → Prop
  | .ret value => post value
  | .fail _ => True
  | .call request next => good request ∧ ∀ answer, (next answer).Safe good post

/-- Every request the program may issue, whatever the answers, is `good`. -/
abbrev All (good : Req → Prop) (program : Prog Req Resp Err α) : Prop :=
  program.Safe good fun _ => True

section Safe

variable {good better : Req → Prop} {post mid : α → Prop} {final : β → Prop}

@[simp] theorem safe_ret {value : α} :
    (ret value : Prog Req Resp Err α).Safe good post ↔ post value :=
  Iff.rfl

@[simp] theorem safe_fail {error : Err} : (fail error : Prog Req Resp Err α).Safe good post :=
  trivial

@[simp] theorem safe_call {request : Req} {next : Resp → Prog Req Resp Err α} :
    (call request next).Safe good post ↔
      good request ∧ ∀ answer, (next answer).Safe good post :=
  Iff.rfl

@[simp] theorem safe_pure {value : α} :
    (pure value : Prog Req Resp Err α).Safe good post ↔ post value :=
  Iff.rfl

theorem safe_bind {program : Prog Req Resp Err α} {rest : α → Prog Req Resp Err β}
    (hprogram : program.Safe good mid)
    (hrest : ∀ value, mid value → (rest value).Safe good final) :
    (program >>= rest).Safe good final := by
  change (program.bind rest).Safe good final
  induction program with
  | ret value => exact hrest value hprogram
  | fail error => trivial
  | call request next ih =>
      exact ⟨hprogram.1, fun answer => ih answer (hprogram.2 answer)⟩

theorem all_bind {program : Prog Req Resp Err α} {rest : α → Prog Req Resp Err β}
    (hprogram : program.All good) (hrest : ∀ value, (rest value).Safe good final) :
    (program >>= rest).Safe good final :=
  safe_bind hprogram fun value _ => hrest value

theorem safe_attempt {program : Prog Req Resp Err α} (hprogram : program.Safe good post) :
    program.attempt.Safe good fun result => ∀ value, result = .ok value → post value := by
  induction program with
  | ret value =>
      intro other heq
      exact Except.ok.inj heq ▸ hprogram
  | fail error =>
      intro other heq
      cases heq
  | call request next ih =>
      exact ⟨hprogram.1, fun answer => ih answer (hprogram.2 answer)⟩

theorem safe_mapFail {rewrite : Err → Err} {program : Prog Req Resp Err α}
    (hprogram : program.Safe good post) : (program.mapFail rewrite).Safe good post := by
  induction program with
  | ret value => exact hprogram
  | fail error => trivial
  | call request next ih =>
      exact ⟨hprogram.1, fun answer => ih answer (hprogram.2 answer)⟩

theorem all_forEach {items : List β} {body : β → Prog Req Resp Err Unit}
    (hbody : ∀ item ∈ items, (body item).All good) : (forEach items body).All good := by
  induction items with
  | nil => trivial
  | cons item rest ih =>
      apply all_bind (hbody item List.mem_cons_self)
      intro _
      exact ih fun other hother => hbody other (List.mem_cons_of_mem item hother)

theorem Safe.mono {program : Prog Req Resp Err α} (hprogram : program.Safe good post)
    (hgood : ∀ request, good request → better request)
    (hpost : ∀ value, post value → mid value) : program.Safe better mid := by
  induction program with
  | ret value => exact hpost value hprogram
  | fail error => trivial
  | call request next ih =>
      exact ⟨hgood request hprogram.1, fun answer => ih answer (hprogram.2 answer)⟩

/-- What a run returns satisfies the postcondition. -/
theorem Safe.post_of_run {serve : σ → Req → Resp × σ} {program : Prog Req Resp Err α}
    (hprogram : program.Safe good post) {state : σ} {value : α}
    (hrun : (program.run serve state).1 = .ok value) : post value := by
  induction program generalizing state with
  | ret returned => exact Except.ok.inj hrun ▸ hprogram
  | fail error => cases hrun
  | call request next ih => exact ih _ (hprogram.2 _) hrun

end Safe

/-- The invariant rule: what every good request preserves, a run preserves. -/
theorem run_preserves {good : Req → Prop} (Inv : σ → Prop)
    {serve : σ → Req → Resp × σ}
    (hserve : ∀ state request, Inv state → good request → Inv (serve state request).2)
    {program : Prog Req Resp Err α} (hprogram : program.All good) {state : σ}
    (hstate : Inv state) : Inv (program.run serve state).2 := by
  induction program generalizing state with
  | ret value => exact hstate
  | fail error => exact hstate
  | call request next ih =>
      exact ih _ (hprogram.2 _) (hserve state request hstate hprogram.1)

/-- The invariant rule for the states in between: each request of a run is good
and meets a state that satisfies the invariant. -/
theorem inv_of_mem_calls {good : Req → Prop} (Inv : σ → Prop)
    {serve : σ → Req → Resp × σ}
    (hserve : ∀ state request, Inv state → good request → Inv (serve state request).2)
    {program : Prog Req Resp Err α} (hprogram : program.All good) {state : σ}
    (hstate : Inv state) {met : σ} {request : Req}
    (hmem : (met, request) ∈ program.calls serve state) : Inv met ∧ good request := by
  induction program generalizing state with
  | ret value => simp [calls] at hmem
  | fail error => simp [calls] at hmem
  | call issued next ih =>
      simp only [calls, List.mem_cons, Prod.mk.injEq] at hmem
      rcases hmem with ⟨rfl, rfl⟩ | hmem
      · exact ⟨hstate, hprogram.1⟩
      · exact ih _ (hprogram.2 _) (hserve state issued hstate hprogram.1) hmem

theorem good_of_mem_calls {good : Req → Prop} {serve : σ → Req → Resp × σ}
    {program : Prog Req Resp Err α} (hprogram : program.All good) {state met : σ} {request : Req}
    (hmem : (met, request) ∈ program.calls serve state) : good request :=
  (inv_of_mem_calls (fun _ => True) (fun _ _ _ _ => trivial) hprogram trivial hmem).2

/-- A run that returns a value ends in a state satisfying `post`. -/
def Yields (serve : σ → Req → Resp × σ) (post : α → σ → Prop)
    (program : Prog Req Resp Err α) (state : σ) : Prop :=
  ∀ value, (program.run serve state).1 = .ok value →
    post value (program.run serve state).2

theorem run_bind (serve : σ → Req → Resp × σ) (program : Prog Req Resp Err α)
    (rest : α → Prog Req Resp Err β) (state : σ) :
    (program >>= rest).run serve state =
      match program.run serve state with
      | (.ok value, state') => (rest value).run serve state'
      | (.error error, state') => (.error error, state') := by
  change (program.bind rest).run serve state = _
  induction program generalizing state with
  | ret value => rfl
  | fail error => rfl
  | call request next ih => exact ih _ _

theorem run_attempt (serve : σ → Req → Resp × σ) (program : Prog Req Resp Err α)
    (state : σ) :
    program.attempt.run serve state =
      (.ok (program.run serve state).1, (program.run serve state).2) := by
  induction program generalizing state with
  | ret value => rfl
  | fail error => rfl
  | call request next ih => exact ih _ _

theorem calls_bind (serve : σ → Req → Resp × σ) (program : Prog Req Resp Err α)
    (rest : α → Prog Req Resp Err β) (state : σ) :
    (program >>= rest).calls serve state =
      program.calls serve state ++
        match program.run serve state with
        | (.ok value, state') => (rest value).calls serve state'
        | (.error _, _) => [] := by
  change (program.bind rest).calls serve state = _
  induction program generalizing state with
  | ret value => rfl
  | fail error => rfl
  | call request next ih =>
      simp only [bind, calls, run, List.cons_append]
      rw [ih]

/-- The requests of the first part are requests of the whole. -/
theorem mem_calls_bind_left {serve : σ → Req → Resp × σ} {program : Prog Req Resp Err α}
    {rest : α → Prog Req Resp Err β} {state : σ} {issued : σ × Req}
    (h : issued ∈ program.calls serve state) :
    issued ∈ (program >>= rest).calls serve state := by
  rw [calls_bind]
  exact List.mem_append_left _ h

/-- And so are those of the second part, when the first ends well. -/
theorem mem_calls_bind_right {serve : σ → Req → Resp × σ} {program : Prog Req Resp Err α}
    {rest : α → Prog Req Resp Err β} {state state' : σ} {value : α} {issued : σ × Req}
    (hrun : program.run serve state = (.ok value, state'))
    (h : issued ∈ (rest value).calls serve state') :
    issued ∈ (program >>= rest).calls serve state := by
  rw [calls_bind, hrun]
  exact List.mem_append_right _ h

theorem calls_attempt (serve : σ → Req → Resp × σ) (program : Prog Req Resp Err α)
    (state : σ) : program.attempt.calls serve state = program.calls serve state := by
  induction program generalizing state with
  | ret value => rfl
  | fail error => rfl
  | call request next ih =>
      simp only [attempt, calls]
      rw [ih]

section Yields

variable {serve : σ → Req → Resp × σ}

theorem yields_bind {mid : α → σ → Prop} {post : β → σ → Prop}
    {program : Prog Req Resp Err α} {rest : α → Prog Req Resp Err β} {state : σ}
    (hprogram : program.Yields serve mid state)
    (hrest : ∀ value state', mid value state' → (rest value).Yields serve post state') :
    (program >>= rest).Yields serve post state := by
  intro value hvalue
  rw [run_bind] at hvalue ⊢
  cases hrun : program.run serve state with
  | mk outcome state' =>
      rw [hrun] at hvalue
      cases outcome with
      | error e => cases hvalue
      | ok mid' =>
          have hmid := hprogram mid' (by rw [hrun])
          rw [hrun] at hmid
          exact hrest mid' state' hmid value hvalue

/-- The loop rule: when each round keeps the invariant and what the rounds
before have established, a loop that ends well has established it for all. -/
theorem yields_forEach (Inv : σ → Prop) (Done : β → σ → Prop) {items : List β}
    {body : β → Prog Req Resp Err Unit}
    (hbody : ∀ item ∈ items, ∀ state, Inv state →
      (body item).Yields serve (fun _ state' => Inv state' ∧ Done item state' ∧
        ∀ other, Done other state → Done other state') state)
    {state : σ} (hstate : Inv state) :
    (forEach items body).Yields serve (fun _ state' => Inv state' ∧
      (∀ item ∈ items, Done item state') ∧
        ∀ other, Done other state → Done other state') state := by
  induction items generalizing state with
  | nil =>
      intro value _
      refine ⟨hstate, ?_, fun _ h => h⟩
      intro item hitem
      exact absurd hitem List.not_mem_nil
  | cons item rest ih =>
      refine yields_bind (hbody item List.mem_cons_self state hstate) ?_
      rintro value state' ⟨hinv, hdone, hkept⟩ value' hvalue'
      obtain ⟨hinv', hrest, hkept'⟩ := ih
        (fun other hother => hbody other (List.mem_cons_of_mem item hother)) hinv value' hvalue'
      refine ⟨hinv', ?_, fun other hother => hkept' other (hkept other hother)⟩
      intro other hother
      rcases List.mem_cons.mp hother with rfl | hother
      · exact hkept' other hdone
      · exact hrest other hother

theorem yields_mapFail {rewrite : Err → Err} {post : α → σ → Prop}
    {program : Prog Req Resp Err α} {state : σ} (h : program.Yields serve post state) :
    (program.mapFail rewrite).Yields serve post state := by
  induction program generalizing state with
  | ret value => exact h
  | fail error =>
      intro value hvalue
      cases hvalue
  | call request next ih => exact ih _ h

theorem yields_attempt {post : α → σ → Prop} {program : Prog Req Resp Err α} {state : σ}
    (h : program.Yields serve post state) :
    program.attempt.Yields serve
      (fun outcome state' => ∀ value, outcome = .ok value → post value state') state := by
  intro outcome houtcome value hvalue
  rw [run_attempt] at houtcome ⊢
  have hok : (program.run serve state).1 = .ok value :=
    (Except.ok.inj houtcome).trans hvalue
  exact h value hok

end Yields

end Prog

end ControlLoop
