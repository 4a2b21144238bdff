/-
Who controls an object in the end: the chain of controller references, looked
up in the caches.
-/
import Navigator.Base.Chase
import Navigator.Client

namespace Navigator

open ControlLoop

/-- An object as its controllers are looked up: its metadata, and the kind that
it carries, which clients leave empty on the objects they return. -/
structure Controlee where
  kind : String := ""
  metadata : ObjectMeta
deriving DecidableEq

instance : ApiObject Controlee where
  objectMeta object := object.metadata
  setMeta object m := { object with metadata := m }
  objectMeta_setMeta _ _ := rfl

/-- The object that a lister returned. -/
def Controlee.of {α : Type} [ApiObject α] (object : α) : Controlee where
  metadata := objectMeta object

@[simp] theorem Controlee.namespaceOf_of {α : Type} [ApiObject α] (object : α) :
    namespaceOf (Controlee.of object) = namespaceOf object := rfl

/-- The error of a controller that could not be looked up. -/
def ownerLookupError (object : Controlee) (e : Err) : Err :=
  e.wrap ("unable to get owner of object " ++ object.kind ++ "/" ++ namespaceOf object ++ "/" ++
    nameOf object)

/-- One call of `RootControllerRef`: its result, or the object it calls itself
for.  The last error also prints the reference; the model leaves that out. -/
def rootControllerStep (state : State) (object : Controlee) :
    Controlee ⊕ Except Err (Option OwnerReference) :=
  match getControllerOf object with
  | none => .inr (.ok none)
  | some ownerRef =>
      if ownerRef.kind = "ElasticsearchCluster" ∨ ownerRef.kind = "CassandraCluster" then
        .inr (.ok (some ownerRef))
      else if ownerRef.kind = "StatefulSet" then
        match state.statefulSetLister.get "statefulset.apps" (namespaceOf object)
            ownerRef.name with
        | .ok set => .inl (.of set)
        | .error e => .inr (.error (ownerLookupError object e))
      else if ownerRef.kind = "Pod" then
        match state.podLister.get "pod" (namespaceOf object) ownerRef.name with
        | .ok pod => .inl (.of pod)
        | .error e => .inr (.error (ownerLookupError object e))
      else
        .inr (.error (.plain ("object " ++ namespaceOf object ++ "/" ++ nameOf object ++
          " has unsupported owner type: ")))

/-- `RootControllerRef`, with a bound on its depth. -/
def rootControllerRef (state : State) (fuel : Nat) (object : Controlee) :
    Option (Except Err (Option OwnerReference)) :=
  chase (rootControllerStep state) fuel object

/-- `RootControllerRef` returns the reference. -/
def RootController (state : State) (object : Controlee) (ref : OwnerReference) : Prop :=
  Chain (rootControllerStep state) object (.ok (some ref))

theorem rootController_iff {state : State} {object : Controlee} {ref : OwnerReference} :
    RootController state object ref ↔
      ∃ fuel, rootControllerRef state fuel object = some (.ok (some ref)) :=
  exists_chase_iff.symm

section Step

variable {state : State} {object : Controlee} {ownerRef ref : OwnerReference}

/-- Below a cluster the chain ends. -/
theorem rootController_of_cluster (hcontroller : getControllerOf object = some ownerRef)
    (hkind : ownerRef.kind = "ElasticsearchCluster" ∨ ownerRef.kind = "CassandraCluster") :
    RootController state object ref ↔ ref = ownerRef := by
  have hlast : rootControllerStep state object = .inr (.ok (some ownerRef)) := by
    simp only [rootControllerStep, hcontroller, if_pos hkind]
  unfold RootController
  rw [chain_of_last hlast, Except.ok.injEq, Option.some.injEq]

/-- Below a StatefulSet the chain goes on with the one in the cache. -/
theorem rootController_of_statefulSet (hcontroller : getControllerOf object = some ownerRef)
    (hkind : ownerRef.kind = "StatefulSet") :
    RootController state object ref ↔ ∃ set,
      state.statefulSetLister.get "statefulset.apps" (namespaceOf object) ownerRef.name = .ok set ∧
        RootController state (.of set) ref := by
  unfold RootController
  cases hget : state.statefulSetLister.get "statefulset.apps" (namespaceOf object)
      ownerRef.name with
  | ok set =>
      have hlink : rootControllerStep state object = .inl (.of set) := by
        simp [rootControllerStep, hcontroller, hkind, hget]
      simp only [chain_of_link hlink, Except.ok.injEq, exists_eq_left']
  | error e =>
      have hlast : rootControllerStep state object =
          .inr (.error (ownerLookupError object e)) := by
        simp [rootControllerStep, hcontroller, hkind, hget]
      simp [chain_of_last hlast]

end Step

/-- The owner, which the caches return for the controller reference of the
object. -/
inductive OwnerInCache (state : State) (object : Controlee) : Controlee → Prop where
  | statefulSet {ownerRef : OwnerReference} {set : StatefulSet}
      (controller : getControllerOf object = some ownerRef)
      (kind : ownerRef.kind = "StatefulSet")
      (cached : state.statefulSetLister.get "statefulset.apps" (namespaceOf object)
        ownerRef.name = .ok set) : OwnerInCache state object (.of set)
  | pod {ownerRef : OwnerReference} {pod : Pod}
      (controller : getControllerOf object = some ownerRef) (kind : ownerRef.kind = "Pod")
      (cached : state.podLister.get "pod" (namespaceOf object) ownerRef.name = .ok pod) :
      OwnerInCache state object (.of pod)

section Owner

variable {state : State} {object owner : Controlee}

/-- `RootControllerRef` calls itself for the owner. -/
theorem link_rootControllerStep :
    Link (rootControllerStep state) object owner ↔ OwnerInCache state object owner := by
  constructor
  · intro h
    unfold Link rootControllerStep at h
    split at h
    · cases h
    · rename_i ownerRef hcontroller
      split_ifs at h with hcluster hset hpod
      · split at h
        · rename_i set hget
          exact Sum.inl.inj h ▸ .statefulSet hcontroller hset hget
        · cases h
      · split at h
        · rename_i pod hget
          exact Sum.inl.inj h ▸ .pod hcontroller hpod hget
        · cases h
  · intro h
    unfold Link
    cases h with
    | statefulSet hcontroller hkind hget => simp [rootControllerStep, hcontroller, hkind, hget]
    | pod hcontroller hkind hget => simp [rootControllerStep, hcontroller, hkind, hget]

/-- Every object that `RootControllerRef` calls itself for is in a cache. -/
theorem OwnerInCache.mem (h : OwnerInCache state object owner) :
    owner ∈ state.statefulSetLister.items.map Controlee.of ++
      state.podLister.items.map Controlee.of := by
  cases h with
  | statefulSet _ _ hget =>
      exact List.mem_append_left _ (List.mem_map_of_mem (Lister.get_ok hget).1)
  | pod _ _ hget => exact List.mem_append_right _ (List.mem_map_of_mem (Lister.get_ok hget).1)

theorem comesBack_iff :
    ComesBack (Link (rootControllerStep state)) object ↔
      ComesBack (OwnerInCache state) object := by
  have hlink : Link (rootControllerStep state) = OwnerInCache state := by
    funext object owner
    exact propext link_rootControllerStep
  rw [hlink]

end Owner

/-- `RootControllerRef` returns, unless the owners in the caches lead back to
one of them. -/
theorem rootControllerRef_returns_iff (state : State) (object : Controlee) :
    (∃ fuel result, rootControllerRef state fuel object = some result) ↔
      ¬ ComesBack (OwnerInCache state) object := by
  have hfinite : (∃ result, Chain (rootControllerStep state) object result) ↔
      ¬ ComesBack (Link (rootControllerStep state)) object :=
    exists_chain_iff fun hlink => (link_rootControllerStep.mp hlink).mem
  rw [← comesBack_iff, ← hfinite, exists_comm]
  exact exists_congr fun _ => exists_chase_iff

namespace OwnershipWitness

/-- A Pod whose controller is set to the Pod itself. -/
def pod : Pod where
  metadata :=
    { name := "es-db-0", namespaceName := "default", uid := "pod-0"
      ownerReferences := [{ apiVersion := "v1", kind := "Pod", name := "es-db-0", uid := "pod-0"
                            controller := some true }] }

def pilot : Pilot where
  metadata :=
    { name := "es-db-0", namespaceName := "default", uid := "pilot-0"
      ownerReferences := [newControllerRef "v1" "Pod" pod] }

def state : State where
  statefulSetLister := ⟨[], none⟩
  configMapLister := ⟨[], none⟩
  pilotLister := ⟨[pilot], none⟩
  podLister := ⟨[pod], none⟩

theorem pod_controls_itself : OwnerInCache state (.of pod) (.of pod) :=
  link_rootControllerStep.mp (by unfold Link; decide)

theorem pod_controls_pilot : OwnerInCache state (.of pilot) (.of pod) :=
  link_rootControllerStep.mp (by unfold Link; decide)

/-- The root controller of the Pilot is never found, nor is it missing. -/
theorem rootControllerRef_never_returns :
    ¬ ∃ fuel result, rootControllerRef state fuel (.of pilot) = some result := by
  rintro ⟨fuel, result, h⟩
  apply (chain_of_chase h).not_comesBack
  rw [comesBack_iff]
  exact ⟨.of pod, .single pod_controls_pilot, .single pod_controls_itself⟩

end OwnershipWitness

end Navigator
