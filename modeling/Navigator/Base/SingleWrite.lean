/-
Programs that write at most once: every other request is quiet, so the one
write meets the server as the program found it.
-/
import Navigator.Base.Prog

namespace ControlLoop

namespace Prog

variable {Req Resp Err α β σ : Type} {quiet good : Req → Prop}

/-- On every path of answers the requests are quiet, except for at most one,
which is `good`. -/
def Once (quiet good : Req → Prop) : Prog Req Resp Err α → Prop
  | .ret _ => True
  | .fail _ => True
  | .call request next =>
      (quiet request ∧ ∀ answer, (next answer).Once quiet good) ∨
        (good request ∧ ∀ answer, (next answer).All quiet)

theorem once_of_all {program : Prog Req Resp Err α} (h : program.All quiet) :
    program.Once quiet good := by
  induction program with
  | ret value => trivial
  | fail error => trivial
  | call request next ih => exact Or.inl ⟨h.1, fun answer => ih answer (h.2 answer)⟩

theorem Once.all {program : Prog Req Resp Err α} (h : program.Once quiet good)
    (hquiet : ∀ request, quiet request → good request) : program.All good := by
  induction program with
  | ret value => trivial
  | fail error => trivial
  | call request next ih =>
      rcases h with ⟨hrequest, hnext⟩ | ⟨hrequest, hnext⟩
      · exact ⟨hquiet request hrequest, fun answer => ih answer (hnext answer)⟩
      · exact ⟨hrequest, fun answer => (hnext answer).mono hquiet fun _ h => h⟩

/-- The write may come after a quiet program. -/
theorem once_bind {program : Prog Req Resp Err α} {rest : α → Prog Req Resp Err β}
    (hprogram : program.All quiet) (hrest : ∀ value, (rest value).Once quiet good) :
    (program >>= rest).Once quiet good := by
  change (program.bind rest).Once quiet good
  induction program with
  | ret value => exact hrest value
  | fail error => trivial
  | call request next ih =>
      exact Or.inl ⟨hprogram.1, fun answer => ih answer (hprogram.2 answer)⟩

/-- The write may come before a quiet program. -/
theorem Once.bind {program : Prog Req Resp Err α} {rest : α → Prog Req Resp Err β}
    (hprogram : program.Once quiet good) (hrest : ∀ value, (rest value).All quiet) :
    (program >>= rest).Once quiet good := by
  change (program.bind rest).Once quiet good
  induction program with
  | ret value => exact once_of_all (hrest value)
  | fail error => trivial
  | call request next ih =>
      rcases hprogram with ⟨hrequest, hnext⟩ | ⟨hrequest, hnext⟩
      · exact Or.inl ⟨hrequest, fun answer => ih answer (hnext answer)⟩
      · exact Or.inr ⟨hrequest, fun answer => all_bind (hnext answer) hrest⟩

theorem Once.attempt {program : Prog Req Resp Err α} (h : program.Once quiet good) :
    program.attempt.Once quiet good := by
  induction program with
  | ret value => trivial
  | fail error => trivial
  | call request next ih =>
      rcases h with ⟨hrequest, hnext⟩ | ⟨hrequest, hnext⟩
      · exact Or.inl ⟨hrequest, fun answer => ih answer (hnext answer)⟩
      · refine Or.inr ⟨hrequest, fun answer => ?_⟩
        exact (safe_attempt (hnext answer)).mono (fun _ h => h) fun _ _ => trivial

theorem Once.mapFail {rewrite : Err → Err} {program : Prog Req Resp Err α}
    (h : program.Once quiet good) : (program.mapFail rewrite).Once quiet good := by
  induction program with
  | ret value => trivial
  | fail error => trivial
  | call request next ih =>
      rcases h with ⟨hrequest, hnext⟩ | ⟨hrequest, hnext⟩
      · exact Or.inl ⟨hrequest, fun answer => ih answer (hnext answer)⟩
      · exact Or.inr ⟨hrequest, fun answer => safe_mapFail (hnext answer)⟩

section Run

variable {serve : σ → Req → Resp × σ} {program : Prog Req Resp Err α} {state : σ}

/-- What quiet requests preserve holds when the write is issued. -/
theorem Once.of_mem_calls (Inv : σ → Prop)
    (hquiet : ∀ state request, Inv state → quiet request → Inv (serve state request).2)
    (hprogram : program.Once quiet good) (hstate : Inv state) {met : σ} {request : Req}
    (hmem : (met, request) ∈ program.calls serve state) :
    quiet request ∨ good request ∧ Inv met := by
  induction program generalizing state with
  | ret value => simp [calls] at hmem
  | fail error => simp [calls] at hmem
  | call issued next ih =>
      simp only [calls, List.mem_cons, Prod.mk.injEq] at hmem
      rcases hprogram with ⟨hissued, hnext⟩ | ⟨hissued, hnext⟩
      · rcases hmem with ⟨rfl, rfl⟩ | hmem
        · exact Or.inl hissued
        · exact ih _ (hnext _) (hquiet state issued hstate hissued) hmem
      · rcases hmem with ⟨rfl, rfl⟩ | hmem
        · exact Or.inr ⟨hissued, hstate⟩
        · exact Or.inl (good_of_mem_calls (hnext _) hmem)

/-- The rule for what one write establishes: it starts from a state satisfying
`Inv`, which quiet requests preserve, and ends in one satisfying `Post`. -/
theorem Once.run_preserves (Inv Post : σ → Prop) (hweaken : ∀ state, Inv state → Post state)
    (hquiet : ∀ state request, Inv state → quiet request → Inv (serve state request).2)
    (hquietPost : ∀ state request, Post state → quiet request → Post (serve state request).2)
    (hgood : ∀ state request, Inv state → good request → Post (serve state request).2)
    (hprogram : program.Once quiet good) (hstate : Inv state) :
    Post (program.run serve state).2 := by
  induction program generalizing state with
  | ret value => exact hweaken state hstate
  | fail error => exact hweaken state hstate
  | call request next ih =>
      rcases hprogram with ⟨hrequest, hnext⟩ | ⟨hrequest, hnext⟩
      · exact ih _ (hnext _) (hquiet state request hstate hrequest)
      · exact Prog.run_preserves Post hquietPost (hnext _) (hgood state request hstate hrequest)

end Run

end Prog

end ControlLoop
