/-
The size of a union of sets against the sum of their sizes: the two are equal
exactly when the sets are pairwise disjoint.
-/
import Mathlib

namespace ControlLoop

variable {α : Type} [DecidableEq α]

theorem card_foldl_union_le (sets : List (Finset α)) (all : Finset α) :
    (sets.foldl (fun all s => all ∪ s) all).card ≤ all.card + (sets.map Finset.card).sum := by
  induction sets generalizing all with
  | nil => simp
  | cons s rest ih =>
      calc (rest.foldl (fun all s => all ∪ s) (all ∪ s)).card
          ≤ (all ∪ s).card + (rest.map Finset.card).sum := ih (all ∪ s)
        _ ≤ all.card + s.card + (rest.map Finset.card).sum :=
          Nat.add_le_add_right (Finset.card_union_le all s) _
        _ = all.card + ((s :: rest).map Finset.card).sum := by
          rw [List.map_cons, List.sum_cons, Nat.add_assoc]

/-- The union of two sets is disjoint from what both are disjoint from. -/
theorem pairwise_disjoint_union_iff {all s : Finset α} {rest : List (Finset α)} :
    (all :: s :: rest).Pairwise Disjoint ↔
      Disjoint all s ∧ ((all ∪ s) :: rest).Pairwise Disjoint := by
  simp only [List.pairwise_cons, List.forall_mem_cons, Finset.disjoint_union_left]
  constructor
  · rintro ⟨⟨hfirst, hall⟩, hs, hrest⟩
    exact ⟨hfirst, fun other hother => ⟨hall other hother, hs other hother⟩, hrest⟩
  · rintro ⟨hfirst, hboth, hrest⟩
    exact ⟨⟨hfirst, fun other hother => (hboth other hother).1⟩,
      fun other hother => (hboth other hother).2, hrest⟩

theorem card_foldl_union_eq_iff (sets : List (Finset α)) (all : Finset α) :
    (sets.foldl (fun all s => all ∪ s) all).card = all.card + (sets.map Finset.card).sum ↔
      (all :: sets).Pairwise Disjoint := by
  induction sets generalizing all with
  | nil => simp
  | cons s rest ih =>
      -- neither the first union nor the others may lose an element
      have hfirst := Finset.card_union_le all s
      have hrest := card_foldl_union_le rest (all ∪ s)
      rw [pairwise_disjoint_union_iff, ← ih, ← Finset.card_union_eq_card_add_card,
        List.foldl_cons, List.map_cons, List.sum_cons]
      omega

end ControlLoop
