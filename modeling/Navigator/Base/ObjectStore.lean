/-
A store of versioned objects with optimistic concurrency.  Every write gives
the object a fresh version; an update that carries another version than the
stored one is refused.  The store remembers every version it ever held, so a
cache that lags behind is a choice of objects from its history, and an update
derived from a cached object is accepted only when the cache was right.
-/
import Mathlib.Data.List.Basic
import Mathlib.Data.List.Nodup
import Mathlib.Tactic

namespace ControlLoop

/-- What the store needs of an object: its key, and a version it can set. -/
class Resource (α : Type) (κ : outParam Type) where
  key : α → κ
  version : α → Nat
  withVersion : α → Nat → α
  key_withVersion (object : α) (v : Nat) : key (withVersion object v) = key object
  version_withVersion (object : α) (v : Nat) : version (withVersion object v) = v

open Resource

variable {α κ : Type} [DecidableEq κ] [Resource α κ]

/-- The live objects, one for each key, and the history of all versions. -/
@[ext]
structure ObjectStore (α : Type) {κ : Type} [DecidableEq κ] [Resource α κ] where
  objects : List α
  history : List α
  nextVersion : Nat
  keys_nodup : (objects.map key).Nodup
  objects_subset : ∀ object ∈ objects, object ∈ history
  history_fresh : ∀ object ∈ history, version object < nextVersion
  history_unique : ∀ left ∈ history, ∀ right ∈ history,
    version left = version right → left = right

instance [DecidableEq α] : DecidableEq (ObjectStore α) :=
  fun _ _ => decidable_of_iff _ ObjectStore.ext_iff.symm

/-- Why a write is refused. -/
inductive Refusal where
  | alreadyExists
  | notFound
  | conflict
deriving DecidableEq, Repr

namespace ObjectStore

def empty : ObjectStore α where
  objects := []
  history := []
  nextVersion := 0
  keys_nodup := by simp
  objects_subset := by simp
  history_fresh := by simp
  history_unique := by simp

def get (store : ObjectStore α) (k : κ) : Option α :=
  store.objects.find? fun object => key object = k

/-- Store an object under its key with a fresh version, whatever was there. -/
def put (store : ObjectStore α) (object : α) : ObjectStore α where
  objects := withVersion object store.nextVersion ::
    store.objects.filter fun other => key other ≠ key object
  history := withVersion object store.nextVersion :: store.history
  nextVersion := store.nextVersion + 1
  keys_nodup := by
    rw [List.map_cons, List.nodup_cons, key_withVersion]
    constructor
    · simp
    · exact (List.Sublist.map key List.filter_sublist).nodup store.keys_nodup
  objects_subset := by
    intro other hother
    simp only [List.mem_cons, List.mem_filter] at hother
    rcases hother with rfl | ⟨hother, _⟩
    · exact List.mem_cons_self
    · exact List.mem_cons_of_mem _ (store.objects_subset other hother)
  history_fresh := by
    intro other hother
    simp only [List.mem_cons] at hother
    rcases hother with rfl | hother
    · rw [version_withVersion]
      exact Nat.lt_succ_self _
    · exact Nat.lt_succ_of_lt (store.history_fresh other hother)
  history_unique := by
    intro left hleft right hright hversion
    simp only [List.mem_cons] at hleft hright
    rcases hleft with rfl | hleft <;> rcases hright with rfl | hright
    · rfl
    · rw [version_withVersion] at hversion
      exact absurd hversion (Nat.ne_of_gt (store.history_fresh right hright))
    · rw [version_withVersion] at hversion
      exact absurd hversion (Nat.ne_of_lt (store.history_fresh left hleft))
    · exact store.history_unique left hleft right hright hversion

def remove (store : ObjectStore α) (k : κ) : ObjectStore α where
  objects := store.objects.filter fun other => key other ≠ k
  history := store.history
  nextVersion := store.nextVersion
  keys_nodup := (List.Sublist.map key List.filter_sublist).nodup store.keys_nodup
  objects_subset := fun other hother =>
    store.objects_subset other (List.mem_of_mem_filter hother)
  history_fresh := store.history_fresh
  history_unique := store.history_unique

/-- Create: refused when the key is taken. -/
def create (store : ObjectStore α) (object : α) : Except Refusal (ObjectStore α) :=
  match store.get (key object) with
  | some _ => .error .alreadyExists
  | none => .ok (store.put object)

/-- Update: refused when the object is gone or was written since. -/
def update (store : ObjectStore α) (object : α) : Except Refusal (ObjectStore α) :=
  match store.get (key object) with
  | none => .error .notFound
  | some stored =>
      if version object = version stored then .ok (store.put object)
      else .error .conflict

def delete (store : ObjectStore α) (k : κ) : Except Refusal (ObjectStore α) :=
  match store.get k with
  | none => .error .notFound
  | some _ => .ok (store.remove k)

theorem get_eq_some_iff (store : ObjectStore α) {k : κ} {object : α} :
    store.get k = some object ↔ object ∈ store.objects ∧ key object = k := by
  constructor
  · intro h
    exact ⟨List.mem_of_find?_eq_some h, by simpa using List.find?_some h⟩
  · rintro ⟨hmem, rfl⟩
    cases hget : store.get (key object) with
    | none =>
        have hnone := List.find?_eq_none.mp hget object hmem
        simp at hnone
    | some other =>
        have hother : other ∈ store.objects := List.mem_of_find?_eq_some hget
        have hkey : key other = key object := by simpa using List.find?_some hget
        rw [List.inj_on_of_nodup_map store.keys_nodup hother hmem hkey]

theorem get_eq_none_iff (store : ObjectStore α) {k : κ} :
    store.get k = none ↔ ∀ object ∈ store.objects, key object ≠ k := by
  simp [get]

theorem mem_history_of_get {store : ObjectStore α} {k : κ} {object : α}
    (hget : store.get k = some object) : object ∈ store.history :=
  store.objects_subset object (store.get_eq_some_iff.mp hget).1

theorem key_of_get {store : ObjectStore α} {k : κ} {object : α}
    (hget : store.get k = some object) : key object = k :=
  (store.get_eq_some_iff.mp hget).2

theorem get_put (store : ObjectStore α) (object : α) (k : κ) :
    (store.put object).get k =
      if k = key object then some (withVersion object store.nextVersion)
      else store.get k := by
  by_cases hk : k = key object
  · subst hk
    simp [get, put, key_withVersion]
  · rw [if_neg hk]
    simp only [get, put, List.find?_cons, key_withVersion]
    rw [decide_eq_false (fun h => hk h.symm)]
    simp only [List.find?_filter]
    congr 1
    funext other
    by_cases hother : key other = k
    · simp [hother, hk]
    · simp [hother]

/-- What is stored under a fresh key leaves the other objects. -/
theorem get_put_of_fresh {store : ObjectStore α} {object stored : α} {k : κ}
    (hget : store.get k = some stored) (hfresh : store.get (key object) = none) :
    (store.put object).get k = some stored := by
  have hne : k ≠ key object := by
    rintro rfl
    rw [hget] at hfresh
    cases hfresh
  rw [get_put, if_neg hne, hget]

/-- A cache: any choice of objects the store holds or once held, at most one
for each key. -/
def Cache (store : ObjectStore α) (items : List α) : Prop :=
  (items.map key).Nodup ∧ ∀ object ∈ items, object ∈ store.history

instance [DecidableEq α] (store : ObjectStore α) (items : List α) :
    Decidable (store.Cache items) :=
  inferInstanceAs (Decidable (_ ∧ _))

/-- A cache that is up to date holds exactly the live objects, in any order. -/
def Current (store : ObjectStore α) (items : List α) : Prop :=
  items.Perm store.objects

instance [DecidableEq α] (store : ObjectStore α) (items : List α) :
    Decidable (store.Current items) :=
  inferInstanceAs (Decidable (List.Perm _ _))

theorem Current.cache {store : ObjectStore α} {items : List α}
    (hcurrent : store.Current items) : store.Cache items := by
  refine ⟨(hcurrent.map key).nodup_iff.mpr store.keys_nodup, ?_⟩
  intro object hobject
  exact store.objects_subset object (hcurrent.mem_iff.mp hobject)

theorem create_eq_ok_iff {store store' : ObjectStore α} {object : α} :
    store.create object = .ok store' ↔
      store.get (key object) = none ∧ store' = store.put object := by
  unfold create
  cases hget : store.get (key object) with
  | none => simp [eq_comm]
  | some stored => simp

theorem update_eq_ok_iff {store store' : ObjectStore α} {object : α} :
    store.update object = .ok store' ↔
      (∃ stored, store.get (key object) = some stored ∧
        version object = version stored) ∧ store' = store.put object := by
  unfold update
  cases hget : store.get (key object) with
  | none => simp
  | some stored =>
      by_cases hversion : version object = version stored
      · simp [hversion, eq_comm]
      · simp [hversion]

theorem delete_eq_ok_iff {store store' : ObjectStore α} {k : κ} :
    store.delete k = .ok store' ↔
      (store.get k).isSome ∧ store' = store.remove k := by
  unfold delete
  cases hget : store.get k with
  | none => simp
  | some stored => simp [eq_comm]

/-- Optimistic concurrency: an update built from a cached object that keeps its
version is accepted only if the cached object is the stored one. -/
theorem stored_eq_cached_of_update {store store' : ObjectStore α} {object cached : α}
    (hcached : cached ∈ store.history) (hversion : version object = version cached)
    (hupdate : store.update object = .ok store') :
    store.get (key object) = some cached ∧ store' = store.put object := by
  obtain ⟨⟨stored, hget, hstored⟩, hput⟩ := update_eq_ok_iff.mp hupdate
  have heq : stored = cached :=
    store.history_unique stored (mem_history_of_get hget) cached hcached
      (hstored.symm.trans hversion)
  exact ⟨heq ▸ hget, hput⟩

end ObjectStore

end ControlLoop
