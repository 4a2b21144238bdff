/-
Regular expressions as a backtracking matcher reads them.  The matches of a
prefix of the input are listed in the order in which they are tried, so that the
first that ends where it should decides what the groups have captured.
-/
import Mathlib.Data.List.Basic

namespace ControlLoop

/-- Regular expressions over tokens; the optional and the repeated ones are
greedy, or try the shorter match first. -/
inductive Regex (τ : Type) where
  | one (set : τ → Bool)
  | seq (first second : Regex τ)
  | opt (greedy : Bool) (body : Regex τ)
  | star (greedy : Bool) (body : Regex τ)
  | group (index : Nat) (body : Regex τ)

/-- A match of a prefix: what it has consumed, what it leaves, and what the
groups have captured, the last capture first. -/
structure Match (τ : Type) where
  consumed : List τ
  rest : List τ
  captures : List (Nat × List τ) := []

namespace Match

variable {τ : Type}

/-- One match after another. -/
def andThen (m next : Match τ) : Match τ where
  consumed := m.consumed ++ next.consumed
  rest := next.rest
  captures := next.captures ++ m.captures

/-- What a group has captured, and nothing if it took no part in the match. -/
def capture (m : Match τ) (index : Nat) : List τ :=
  ((m.captures.find? fun captured => captured.1 = index).map Prod.snd).getD []

end Match

namespace Regex

variable {τ : Type}

/-- Repetitions of a step that consumes something, at most `fuel` of them. -/
def iterate (greedy : Bool) (step : List τ → List (Match τ)) : Nat → List τ → List (Match τ)
  | 0, input => [⟨[], input, []⟩]
  | fuel + 1, input =>
      let more := (step input).flatMap fun m =>
        if m.consumed.isEmpty then [] else (iterate greedy step fuel m.rest).map m.andThen
      if greedy then more ++ [⟨[], input, []⟩] else ⟨[], input, []⟩ :: more

/-- The matches of prefixes of the input, in the order of preference. -/
def run : Regex τ → List τ → List (Match τ)
  | .one _, [] => []
  | .one set, token :: rest => if set token then [⟨[token], rest, []⟩] else []
  | .seq first second, input =>
      (first.run input).flatMap fun m => (second.run m.rest).map m.andThen
  | .opt greedy body, input =>
      if greedy then body.run input ++ [⟨[], input, []⟩] else ⟨[], input, []⟩ :: body.run input
  | .star greedy body, input => iterate greedy body.run input.length input
  | .group index body, input =>
      (body.run input).map fun m => { m with captures := (index, m.consumed) :: m.captures }

/-- The match of the whole input that is preferred. -/
def find (r : Regex τ) (input : List τ) : Option (Match τ) :=
  (r.run input).find? fun m => m.rest.isEmpty

/-- One or more. -/
def plus (body : Regex τ) : Regex τ := .seq body (.star true body)

/-- The tokens that the expression can consume are among those of `P`. -/
def Within (P : τ → Prop) : Regex τ → Prop
  | .one set => ∀ token, set token = true → P token
  | .seq first second => first.Within P ∧ second.Within P
  | .opt _ body => body.Within P
  | .star _ body => body.Within P
  | .group _ body => body.Within P

/-- What a match consists of. -/
def Sound (P : τ → Prop) (input : List τ) (m : Match τ) : Prop :=
  m.consumed ++ m.rest = input ∧ ∀ token ∈ m.consumed, P token

section Sound

variable {P : τ → Prop} {input : List τ} {m next : Match τ}

theorem sound_nil : Sound P input ⟨[], input, []⟩ :=
  ⟨rfl, fun _ h => nomatch h⟩

theorem Sound.andThen (h : Sound P input m) (hnext : Sound P m.rest next) :
    Sound P input (m.andThen next) := by
  refine ⟨?_, ?_⟩
  · rw [Match.andThen, List.append_assoc, hnext.1, h.1]
  · intro token htoken
    rcases List.mem_append.mp htoken with hfirst | hsecond
    · exact h.2 token hfirst
    · exact hnext.2 token hsecond

theorem sound_of_mem_iterate {greedy : Bool} {step : List τ → List (Match τ)}
    (hstep : ∀ input m, m ∈ step input → Sound P input m) {fuel : Nat}
    (h : m ∈ iterate greedy step fuel input) : Sound P input m := by
  induction fuel generalizing input m with
  | zero =>
      obtain rfl := List.mem_singleton.mp h
      exact sound_nil
  | succ fuel ih =>
      have hmore : ∀ m ∈ (step input).flatMap (fun first =>
          if first.consumed.isEmpty then []
          else (iterate greedy step fuel first.rest).map first.andThen), Sound P input m := by
        intro m hm
        obtain ⟨first, hfirst, hm⟩ := List.mem_flatMap.mp hm
        split at hm
        · cases hm
        · obtain ⟨next, hnext, rfl⟩ := List.mem_map.mp hm
          exact (hstep input first hfirst).andThen (ih hnext)
      cases greedy with
      | true =>
          rcases List.mem_append.mp h with hm | hm
          · exact hmore m hm
          · exact List.mem_singleton.mp hm ▸ sound_nil
      | false =>
          rcases List.mem_cons.mp h with rfl | hm
          · exact sound_nil
          · exact hmore m hm

theorem sound_of_mem_run {r : Regex τ} (hr : r.Within P) (h : m ∈ r.run input) :
    Sound P input m := by
  induction r generalizing input m with
  | one set =>
      cases input with
      | nil => cases h
      | cons token rest =>
          simp only [run] at h
          split at h
          · rename_i hset
            obtain rfl := List.mem_singleton.mp h
            exact ⟨rfl, by simpa using hr token hset⟩
          · cases h
  | seq first second ihFirst ihSecond =>
      obtain ⟨m₁, hm₁, h⟩ := List.mem_flatMap.mp h
      obtain ⟨m₂, hm₂, rfl⟩ := List.mem_map.mp h
      exact (ihFirst hr.1 hm₁).andThen (ihSecond hr.2 hm₂)
  | opt greedy body ih =>
      cases greedy with
      | true =>
          rcases List.mem_append.mp h with hm | hm
          · exact ih hr hm
          · exact List.mem_singleton.mp hm ▸ sound_nil
      | false =>
          rcases List.mem_cons.mp h with rfl | hm
          · exact sound_nil
          · exact ih hr hm
  | star greedy body ih => exact sound_of_mem_iterate (fun _ _ => ih hr) h
  | group index body ih =>
      obtain ⟨inner, hinner, rfl⟩ := List.mem_map.mp h
      have hsound := ih hr hinner
      exact ⟨hsound.1, hsound.2⟩

/-- An input that the expression matches consists of tokens that it can
consume. -/
theorem forall_of_find {r : Regex τ} (hr : r.Within P) (h : r.find input = some m) :
    ∀ token ∈ input, P token := by
  obtain ⟨hconsumed, htokens⟩ := sound_of_mem_run hr (List.mem_of_find?_eq_some h)
  have hrest : m.rest = [] := by simpa using List.find?_some h
  rw [hrest, List.append_nil] at hconsumed
  exact hconsumed ▸ htokens

end Sound

end Regex

end ControlLoop
