/-
Following pointers: a step either names the next place to look at or ends with
an answer.  The chain that leads to an answer is described as a relation, and
following it with enough fuel finds exactly the answers so described.  Among
finitely many places there is an answer unless the steps come back to a place.
-/
import Mathlib.Data.Fintype.EquivFin
import Mathlib.Data.Set.Finite.List
import Mathlib.Logic.Relation

namespace ControlLoop

variable {α β : Type} {step : α → α ⊕ β}

/-- Follow the steps for at most `fuel` places. -/
def chase (step : α → α ⊕ β) : Nat → α → Option β
  | 0, _ => none
  | fuel + 1, place =>
      match step place with
      | .inl next => chase step fuel next
      | .inr answer => some answer

/-- The steps from a place lead to an answer. -/
inductive Chain (step : α → α ⊕ β) : α → β → Prop where
  | done {place : α} {answer : β} (last : step place = .inr answer) : Chain step place answer
  | next {place place' : α} {answer : β} (link : step place = .inl place')
      (rest : Chain step place' answer) : Chain step place answer

theorem chain_of_chase {fuel : Nat} {place : α} {answer : β}
    (h : chase step fuel place = some answer) : Chain step place answer := by
  induction fuel generalizing place with
  | zero => cases h
  | succ fuel ih =>
      unfold chase at h
      split at h
      · exact .next ‹_› (ih h)
      · exact .done (Option.some.inj h ▸ ‹_›)

theorem Chain.exists_chase {place : α} {answer : β} (h : Chain step place answer) :
    ∃ fuel, chase step fuel place = some answer := by
  induction h with
  | done last => exact ⟨1, by simp only [chase, last]⟩
  | next link rest ih =>
      obtain ⟨fuel, hfuel⟩ := ih
      exact ⟨fuel + 1, by simp only [chase, link, hfuel]⟩

theorem exists_chase_iff {place : α} {answer : β} :
    (∃ fuel, chase step fuel place = some answer) ↔ Chain step place answer :=
  ⟨fun ⟨_, h⟩ => chain_of_chase h, Chain.exists_chase⟩

/-- A chain ends here exactly with the answer of the step. -/
theorem chain_of_last {place : α} {answer answer' : β} (last : step place = .inr answer) :
    Chain step place answer' ↔ answer' = answer := by
  constructor
  · intro h
    cases h with
    | done last' => exact Sum.inr.inj (last'.symm.trans last)
    | next link _ => cases link.symm.trans last
  · rintro rfl
    exact .done last

/-- A chain goes on exactly from the next place. -/
theorem chain_of_link {place place' : α} {answer : β} (link : step place = .inl place') :
    Chain step place answer ↔ Chain step place' answer := by
  constructor
  · intro h
    cases h with
    | done last => cases last.symm.trans link
    | next link' rest => exact Sum.inl.inj (link'.symm.trans link) ▸ rest
  · exact .next link

/-- The step from one place leads to the other. -/
def Link (step : α → α ⊕ β) (place place' : α) : Prop := step place = .inl place'

/-- Following the steps comes to a place that leads back to itself. -/
def ComesBack (link : α → α → Prop) (place : α) : Prop :=
  ∃ place', Relation.ReflTransGen link place place' ∧ Relation.TransGen link place' place'

/-- The way has only one continuation, so it stays on a cycle it has entered. -/
theorem ComesBack.next {link : α → α → Prop} {place place' : α}
    (hunique : ∀ other, link place other → other = place') (h : ComesBack link place) :
    ComesBack link place' := by
  obtain ⟨place'', hreach, hcycle⟩ := h
  obtain rfl | ⟨other, hlink, hrest⟩ := Relation.ReflTransGen.cases_head hreach
  · obtain ⟨other, hlink, hrest⟩ := Relation.TransGen.head'_iff.mp hcycle
    obtain rfl := hunique other hlink
    exact ⟨place, hrest, hcycle⟩
  · obtain rfl := hunique other hlink
    exact ⟨place'', hrest, hcycle⟩

theorem Chain.not_comesBack {place : α} {answer : β} (h : Chain step place answer) :
    ¬ ComesBack (Link step) place := by
  induction h with
  | done last =>
      rintro ⟨place', hreach, hcycle⟩
      have hends : ∀ other, ¬ Link step _ other := fun other hlink => by
        cases last.symm.trans hlink
      obtain rfl | ⟨other, hlink, -⟩ := Relation.ReflTransGen.cases_head hreach
      · obtain ⟨other, hlink, -⟩ := Relation.TransGen.head'_iff.mp hcycle
        exact hends other hlink
      · exact hends other hlink
  | next link rest ih =>
      intro hback
      exact ih (hback.next fun other hlink => Sum.inl.inj (hlink.symm.trans link))

/-- Among the finitely many places on the way, without a cycle, following the
steps is well founded. -/
theorem exists_chain_of_not_comesBack {places : List α}
    (hplaces : ∀ {place place' : α}, Link step place place' → place' ∈ places) {place : α}
    (h : ¬ ComesBack (Link step) place) : ∃ answer, Chain step place answer := by
  have hfinite : {place' | Relation.ReflTransGen (Link step) place place'}.Finite := by
    apply (List.finite_toSet (place :: places)).subset
    intro place' hreach
    obtain rfl | ⟨_, -, hlink⟩ := Relation.ReflTransGen.cases_tail hreach
    · exact List.mem_cons_self
    · exact List.mem_cons_of_mem _ (hplaces hlink)
  let onWay := {place' // Relation.ReflTransGen (Link step) place place'}
  let after : onWay → onWay → Prop := fun q p => Relation.TransGen (Link step) p.1 q.1
  have : Finite onWay := hfinite
  have : IsTrans onWay after := ⟨fun _ _ _ hba hcb => Relation.TransGen.trans hcb hba⟩
  have : Std.Irrefl after := ⟨fun p hcycle => h ⟨p.1, p.2, hcycle⟩⟩
  have hwf : WellFounded after := Finite.wellFounded_of_trans_of_irrefl _
  suffices hall : ∀ p : onWay, ∃ answer, Chain step p.1 answer from hall ⟨place, .refl⟩
  intro p
  induction p using hwf.induction with
  | h p ih =>
      cases hstep : step p.1 with
      | inr answer => exact ⟨answer, .done hstep⟩
      | inl next =>
          obtain ⟨answer, hanswer⟩ := ih ⟨next, p.2.tail hstep⟩ (.single hstep)
          exact ⟨answer, .next hstep hanswer⟩

theorem exists_chain_iff {places : List α}
    (hplaces : ∀ {place place' : α}, Link step place place' → place' ∈ places) {place : α} :
    (∃ answer, Chain step place answer) ↔ ¬ ComesBack (Link step) place :=
  ⟨fun ⟨_, h⟩ => h.not_comesBack, exists_chain_of_not_comesBack hplaces⟩

end ControlLoop
