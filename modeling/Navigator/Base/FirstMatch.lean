/-
First matches in a list: when the first match does not depend on the order, the
first element under each of several keys, and what is left of a list without
repetitions once the first match of each of several disjoint predicates is
erased.
-/
import Mathlib.Data.List.Basic
import Mathlib.Data.List.Nodup

namespace ControlLoop

variable {α ι : Type}

/-- The first match is the only one. -/
theorem find?_eq_some_of_unique {p : α → Bool} {items : List α} {item : α}
    (hmem : item ∈ items) (hitem : p item = true)
    (hunique : ∀ other ∈ items, p other = true → other = item) :
    items.find? p = some item := by
  cases hfind : items.find? p with
  | none => exact absurd hitem (List.find?_eq_none.mp hfind item hmem)
  | some other =>
      rw [hunique other (List.mem_of_find?_eq_some hfind) (List.find?_some hfind)]

/-- Where at most one element matches, the order does not matter. -/
theorem find?_perm {p : α → Bool} {items items' : List α} (hperm : items.Perm items')
    (hunique : ∀ a ∈ items, ∀ b ∈ items, p a = true → p b = true → a = b) :
    items.find? p = items'.find? p := by
  cases hfind : items'.find? p with
  | none =>
      apply List.find?_eq_none.mpr
      intro item hitem
      exact List.find?_eq_none.mp hfind item (hperm.mem_iff.mp hitem)
  | some found =>
      have hmem := hperm.mem_iff.mpr (List.mem_of_find?_eq_some hfind)
      exact find?_eq_some_of_unique hmem (List.find?_some hfind) fun other hother hmatch =>
        hunique other hother found hmem hmatch (List.find?_some hfind)

section Keys

variable {κ : Type} [DecidableEq κ] {key : α → κ} {items : List α} {keys : List κ}

/-- The keys of the first elements under several keys are those of the keys that
occur. -/
theorem map_filterMap_find? [DecidablePred (· ∈ items.map key)] :
    (keys.filterMap fun k => items.find? fun item => key item = k).map key =
      keys.filter fun k => k ∈ items.map key := by
  induction keys with
  | nil => rfl
  | cons k keys ih =>
      cases hfind : items.find? fun item => key item = k with
      | none =>
          have habsent : k ∉ items.map key := by
            intro hmem
            obtain ⟨item, hitem, hkey⟩ := List.mem_map.mp hmem
            exact List.find?_eq_none.mp hfind item hitem (decide_eq_true hkey)
          rw [List.filter_cons_of_neg (by simpa using habsent), ← ih]
          simp only [List.filterMap_cons, hfind]
      | some item =>
          have hkey : key item = k := by simpa using List.find?_some hfind
          have hpresent : k ∈ items.map key :=
            hkey ▸ List.mem_map_of_mem (List.mem_of_find?_eq_some hfind)
          rw [List.filter_cons_of_pos (by simpa using hpresent), ← ih]
          simp only [List.filterMap_cons, hfind, List.map_cons, hkey]

/-- Where the keys of the elements are distinct, the first elements under several
keys are the elements under them. -/
theorem mem_filterMap_find? (hdistinct : (items.map key).Nodup) {item : α} :
    (item ∈ keys.filterMap fun k => items.find? fun other => key other = k) ↔
      item ∈ items ∧ key item ∈ keys := by
  rw [List.mem_filterMap]
  constructor
  · rintro ⟨k, hk, hfind⟩
    have hkey : key item = k := by simpa using List.find?_some hfind
    exact ⟨List.mem_of_find?_eq_some hfind, hkey ▸ hk⟩
  · rintro ⟨hitem, hk⟩
    refine ⟨key item, hk, find?_eq_some_of_unique hitem (by simp) ?_⟩
    intro other hother hkey
    exact List.inj_on_of_nodup_map hdistinct hother hitem (by simpa using hkey)

/-- And under the keys of some of the elements these are found again. -/
theorem filterMap_find?_map {part : List α} (hdistinct : (items.map key).Nodup)
    (hpart : part ⊆ items) :
    ((part.map key).filterMap fun k => items.find? fun item => key item = k) = part := by
  have hfind : ∀ item ∈ part,
      (items.find? fun other => key other = key item) = some item := by
    intro item hitem
    apply find?_eq_some_of_unique (hpart hitem) (by simp)
    intro other hother hkey
    exact List.inj_on_of_nodup_map hdistinct hother (hpart hitem) (by simpa using hkey)
  rw [List.filterMap_map]
  exact (List.filterMap_congr hfind).trans List.filterMap_some

end Keys

theorem mem_eraseP_iff {l : List α} (hnodup : l.Nodup) {p : α → Bool} {a : α} :
    a ∈ l.eraseP p ↔ a ∈ l ∧ l.find? p ≠ some a := by
  induction l with
  | nil => simp
  | cons b l ih =>
      obtain ⟨hfresh, hnodup⟩ := List.nodup_cons.mp hnodup
      by_cases hb : p b = true
      · rw [List.eraseP_cons_of_pos hb, List.find?_cons_of_pos hb]
        constructor
        · intro ha
          refine ⟨List.mem_cons_of_mem b ha, ?_⟩
          intro heq
          exact hfresh (Option.some.inj heq ▸ ha)
        · rintro ⟨ha, hne⟩
          rcases List.mem_cons.mp ha with rfl | ha
          · exact absurd rfl hne
          · exact ha
      · rw [List.eraseP_cons_of_neg hb, List.find?_cons_of_neg hb, List.mem_cons,
          List.mem_cons, ih hnodup]
        constructor
        · rintro (rfl | ⟨ha, hne⟩)
          · refine ⟨Or.inl rfl, ?_⟩
            intro heq
            exact hfresh (List.mem_of_find?_eq_some heq)
          · exact ⟨Or.inr ha, hne⟩
        · rintro ⟨rfl | ha, hne⟩
          · exact Or.inl rfl
          · exact Or.inr ⟨ha, hne⟩

theorem find?_eraseP_of_disjoint {l : List α} {p q : α → Bool}
    (hdisjoint : ∀ a, p a = true → q a = false) : (l.eraseP p).find? q = l.find? q := by
  induction l with
  | nil => rfl
  | cons b l ih =>
      by_cases hb : p b = true
      · rw [List.eraseP_cons_of_pos hb, List.find?_cons, hdisjoint b hb]
      · rw [List.eraseP_cons_of_neg hb, List.find?_cons, List.find?_cons, ih]

/-- After erasing the first match of every predicate, an element is left if and
only if it was no first match. -/
theorem mem_foldl_eraseP_iff {p : ι → α → Bool} {keys : List ι} {l : List α}
    (hnodup : l.Nodup)
    (hdisjoint : keys.Pairwise fun i j => ∀ a, p i a = true → p j a = false) {a : α} :
    a ∈ keys.foldl (fun l i => l.eraseP (p i)) l ↔
      a ∈ l ∧ ∀ i ∈ keys, l.find? (p i) ≠ some a := by
  induction keys generalizing l with
  | nil => simp
  | cons i keys ih =>
      obtain ⟨hhead, htail⟩ := List.pairwise_cons.mp hdisjoint
      have hleft : ((l.eraseP (p i))).Nodup := List.eraseP_sublist.nodup hnodup
      rw [List.foldl_cons, ih hleft htail, mem_eraseP_iff hnodup]
      constructor
      · rintro ⟨⟨ha, hfirst⟩, hrest⟩
        refine ⟨ha, ?_⟩
        intro j hj
        rcases List.mem_cons.mp hj with rfl | hj
        · exact hfirst
        · rw [← find?_eraseP_of_disjoint (hhead j hj)]
          exact hrest j hj
      · rintro ⟨ha, hall⟩
        refine ⟨⟨ha, hall i List.mem_cons_self⟩, ?_⟩
        intro j hj
        rw [find?_eraseP_of_disjoint (hhead j hj)]
        exact hall j (List.mem_cons_of_mem i hj)

end ControlLoop
