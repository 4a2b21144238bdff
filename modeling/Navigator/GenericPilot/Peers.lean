/-
What `IsPeer` answers.  It follows the controller references of two Pilots to
their clusters and compares these by UID, but on the way it looks the owners up
by name alone, so an owner may have been replaced since the reference to it was
written.
-/
import Navigator.GenericPilot.Run

namespace Navigator

open ControlLoop

/-- A cluster as a controller reference names it. -/
structure ClusterRef where
  kind : String
  name : String
  uid : String
deriving DecidableEq

def OwnerReference.clusterRef (ref : OwnerReference) : ClusterRef :=
  ⟨ref.kind, ref.name, ref.uid⟩

/-- Controller references lead from the object to the cluster, and every owner
on the way is the one that the reference to it was written for. -/
inductive LinkedTo (state : State) : Controlee → ClusterRef → Prop where
  | cluster {object : Controlee} {ref : OwnerReference}
      (controller : getControllerOf object = some ref)
      (kind : ref.kind = "ElasticsearchCluster" ∨ ref.kind = "CassandraCluster") :
      LinkedTo state object ref.clusterRef
  | owner {object owner : Controlee} {cluster : ClusterRef}
      (cached : OwnerInCache state object owner) (controls : isControlledBy object owner = true)
      (rest : LinkedTo state owner cluster) : LinkedTo state object cluster

/-- On the way from the object some reference names an owner whose place another
object has taken. -/
def StaleOwner (state : State) (object : Controlee) : Prop :=
  ∃ controlee owner, Relation.ReflTransGen (OwnerInCache state) object controlee ∧
    OwnerInCache state controlee owner ∧ isControlledBy controlee owner = false

section Links

variable {state : State} {object owner : Controlee} {ref : OwnerReference}

theorem OwnerInCache.unique {other : Controlee} (h : OwnerInCache state object owner)
    (hother : OwnerInCache state object other) : other = owner :=
  Sum.inl.inj
    ((link_rootControllerStep.mpr hother).symm.trans (link_rootControllerStep.mpr h))

/-- A cluster is not looked up. -/
theorem not_ownerInCache_of_cluster (hcontroller : getControllerOf object = some ref)
    (hkind : ref.kind = "ElasticsearchCluster" ∨ ref.kind = "CassandraCluster") :
    ¬ OwnerInCache state object owner := by
  intro h
  have hlast : rootControllerStep state object = .inr (.ok (some ref)) := by
    simp only [rootControllerStep, hcontroller, if_pos hkind]
  cases hlast.symm.trans (link_rootControllerStep.mpr h)

/-- Only a reference to a cluster is returned. -/
theorem controller_of_last (h : rootControllerStep state object = .inr (.ok (some ref))) :
    getControllerOf object = some ref ∧
      (ref.kind = "ElasticsearchCluster" ∨ ref.kind = "CassandraCluster") := by
  unfold rootControllerStep at h
  split at h
  · simp at h
  · rename_i ownerRef hcontroller
    split_ifs at h with hcluster hset hpod
    · simp only [Sum.inr.injEq, Except.ok.injEq, Option.some.injEq] at h
      exact h ▸ ⟨hcontroller, hcluster⟩
    · split at h <;> simp at h
    · split at h <;> simp at h
    · simp at h

theorem not_staleOwner_of_cluster (hcontroller : getControllerOf object = some ref)
    (hkind : ref.kind = "ElasticsearchCluster" ∨ ref.kind = "CassandraCluster") :
    ¬ StaleOwner state object := by
  rintro ⟨controlee, owner, hreach, hcached, -⟩
  obtain rfl | ⟨next, hnext, -⟩ := Relation.ReflTransGen.cases_head hreach
  · exact not_ownerInCache_of_cluster hcontroller hkind hcached
  · exact not_ownerInCache_of_cluster hcontroller hkind hnext

/-- The owners on the way are the next one and those on its way. -/
theorem staleOwner_iff_of_owner (h : OwnerInCache state object owner) :
    StaleOwner state object ↔ isControlledBy object owner = false ∨ StaleOwner state owner := by
  constructor
  · rintro ⟨controlee, other, hreach, hcached, hstale⟩
    obtain rfl | ⟨next, hnext, hrest⟩ := Relation.ReflTransGen.cases_head hreach
    · exact .inl (h.unique hcached ▸ hstale)
    · exact .inr ⟨controlee, other, h.unique hnext ▸ hrest, hcached, hstale⟩
  · rintro (hstale | ⟨controlee, other, hreach, hcached, hstale⟩)
    · exact ⟨object, owner, .refl, h, hstale⟩
    · exact ⟨controlee, other, hreach.head h, hcached, hstale⟩

theorem LinkedTo.not_staleOwner {cluster : ClusterRef} (h : LinkedTo state object cluster) :
    ¬ StaleOwner state object := by
  induction h with
  | cluster controller kind => exact not_staleOwner_of_cluster controller kind
  | owner cached controls rest ih =>
      rw [staleOwner_iff_of_owner cached, controls]
      rintro (hcontrols | hstale)
      · cases hcontrols
      · exact ih hstale

/-- The reference that `RootControllerRef` returns is the cluster that the object
is linked to, unless an owner on the way is stale. -/
theorem RootController.linkedTo (h : RootController state object ref)
    (hfresh : ¬ StaleOwner state object) : LinkedTo state object ref.clusterRef := by
  unfold RootController at h
  generalize hanswer : Except.ok (some ref) = answer at h
  induction h with
  | done last =>
      subst hanswer
      obtain ⟨hcontroller, hkind⟩ := controller_of_last last
      exact .cluster hcontroller hkind
  | next link rest ih =>
      have hcached := link_rootControllerStep.mp link
      rw [staleOwner_iff_of_owner hcached, not_or] at hfresh
      exact .owner hcached (eq_true_of_ne_false hfresh.1) (ih hfresh.2 hanswer)

end Links

namespace GenericPilot

/-- The thread, when the others rest, returns the value. -/
def Returns {α : Type} (outcomes : Op → Outcome) (s : Shared) (thread : PilotThread α)
    (value : α) : Prop :=
  ∃ ops s', thread.alone serve outcomes s = some (value, ops, s')

section Reading

variable {o : Options} {outcomes : Op → Outcome} {s s' : Shared} {ops : List Op}

theorem Returns.unique {α : Type} {thread : PilotThread α} {value value' : α}
    (h : Returns outcomes s thread value) (h' : Returns outcomes s thread value') :
    value = value' := by
  obtain ⟨ops, s', hreturn⟩ := h
  obtain ⟨ops', s'', hreturn'⟩ := h'
  exact (Prod.mk.inj (Option.some.inj (hreturn.symm.trans hreturn'))).1

theorem returns_of_map_eq {α : Type} {thread : PilotThread α} {value : α}
    (h : (thread.alone serve outcomes s).map Prod.fst = some value) :
    Returns outcomes s thread value := by
  obtain ⟨⟨value', ops, s'⟩, hreturn, rfl⟩ := Option.map_eq_some_iff.mp h
  exact ⟨ops, s', hreturn⟩

theorem alone_rootController {fuel : Nat} {object : Controlee}
    {result : Except Err (Option OwnerReference)}
    (h : (rootController fuel object).alone serve outcomes s = some (result, ops, s')) :
    rootControllerRef s.caches fuel object = some result ∧ s' = s := by
  induction fuel generalizing object ops with
  | zero => cases h
  | succ fuel ih =>
      unfold rootController at h
      rw [Thread.alone_perform_bind rfl] at h
      obtain ⟨⟨value, rest, last⟩, hrest, heq⟩ := Option.map_eq_some_iff.mp h
      obtain ⟨rfl, -, rfl⟩ : value = result ∧ _ ∧ last = s' := by simpa using heq
      unfold rootControllerRef chase
      split at hrest
      · rename_i next hstep
        rw [hstep]
        exact ih hrest
      · rename_i answer hstep
        rw [hstep]
        obtain ⟨rfl, -, rfl⟩ : answer = value ∧ _ ∧ s = last := by simpa using hrest
        exact ⟨rfl, rfl⟩

theorem alone_thisPilot {result : Except Err Pilot}
    (h : (thisPilot o).alone serve outcomes s = some (result, ops, s')) : s' = s := by
  unfold thisPilot at h
  rw [Thread.alone_perform_bind rfl] at h
  obtain ⟨⟨value, rest, last⟩, hrest, heq⟩ := Option.map_eq_some_iff.mp h
  obtain ⟨-, -, rfl⟩ : value = result ∧ _ ∧ last = s' := by simpa using heq
  split at hrest
  · exact (Prod.mk.inj (Prod.mk.inj (Option.some.inj hrest)).2).2.symm
  · split at hrest
    · rw [Thread.alone_perform_bind rfl] at hrest
      obtain ⟨⟨found, restFound, lastFound⟩, hfound, heqFound⟩ := Option.map_eq_some_iff.mp hrest
      obtain ⟨-, -, rfl⟩ : found = value ∧ _ ∧ lastFound = last := by simpa using heqFound
      split at hfound
      · exact (Prod.mk.inj (Prod.mk.inj (Option.some.inj hfound)).2).2.symm
      · exact (Prod.mk.inj (Prod.mk.inj (Option.some.inj hfound)).2).2.symm
    · exact (Prod.mk.inj (Prod.mk.inj (Option.some.inj hrest)).2).2.symm

/-- `IsPeer` answers yes when the two root controllers agree. -/
theorem of_isPeer {fuel : Nat} {pilot : Pilot}
    (h : Returns outcomes s (isPeer o fuel pilot) (.ok true)) :
    ∃ this ref ref', Returns outcomes s (thisPilot o) (.ok this) ∧
      RootController s.caches (.of this) ref ∧ RootController s.caches (.of pilot) ref' ∧
      ref.clusterRef = ref'.clusterRef := by
  obtain ⟨ops, s', h⟩ := h
  unfold isPeer at h
  obtain ⟨found, opsFound, s₁, opsRest, hfound, hrest, -⟩ := Thread.alone_bind_eq_some h
  obtain rfl := alone_thisPilot hfound
  cases found with
  | error e => cases hrest
  | ok this =>
      obtain ⟨root, opsRoot, s₂, opsRest', hroot, hrest', -⟩ := Thread.alone_bind_eq_some hrest
      obtain ⟨hroot, rfl⟩ := alone_rootController hroot
      rcases root with e | _ | ref
      · cases hrest'
      · cases hrest'
      · obtain ⟨root', opsRoot', s₃, opsLast, hroot', hlast, -⟩ :=
          Thread.alone_bind_eq_some hrest'
        obtain ⟨hroot', rfl⟩ := alone_rootController hroot'
        rcases root' with e | _ | ref'
        · cases hlast
        · cases hlast
        · have hagree := (Prod.mk.inj (Option.some.inj hlast)).1
          simp only [Except.ok.injEq, Bool.and_eq_true, decide_eq_true_eq] at hagree
          obtain ⟨⟨⟨hname, huid⟩, hkind⟩, -⟩ := hagree
          refine ⟨this, ref, ref', ⟨_, _, hfound⟩, rootController_iff.mpr ⟨_, hroot⟩,
            rootController_iff.mpr ⟨_, hroot'⟩, ?_⟩
          rw [OwnerReference.clusterRef, hkind, hname, huid]
          rfl

/-- A Pilot that `IsPeer` takes for a peer is linked to the cluster of this
Pilot, by owners that are those the references were written for, unless one on
the two ways is stale. -/
theorem isPeer_shares_cluster_iff {fuel : Nat} {pilot this : Pilot}
    (hpeer : Returns outcomes s (isPeer o fuel pilot) (.ok true))
    (hthis : Returns outcomes s (thisPilot o) (.ok this)) :
    (∃ cluster, LinkedTo s.caches (.of this) cluster ∧ LinkedTo s.caches (.of pilot) cluster) ↔
      ¬ StaleOwner s.caches (.of this) ∧ ¬ StaleOwner s.caches (.of pilot) := by
  obtain ⟨found, ref, ref', hfound, hroot, hroot', hagree⟩ := of_isPeer hpeer
  obtain rfl : this = found := Except.ok.inj (hthis.unique hfound)
  constructor
  · rintro ⟨cluster, hlinked, hlinked'⟩
    exact ⟨hlinked.not_staleOwner, hlinked'.not_staleOwner⟩
  · rintro ⟨hfresh, hfresh'⟩
    exact ⟨ref.clusterRef, hroot.linkedTo hfresh, hagree ▸ hroot'.linkedTo hfresh'⟩

end Reading

namespace PeersWitness

def options : Options where
  pilotName := "es-db-1"
  pilotNamespace := "default"

/-- The cluster, which was created under the name of another that is gone. -/
def cluster : OwnerReference where
  apiVersion := "navigator.jetstack.io/v1alpha1"
  kind := "ElasticsearchCluster"
  name := "es"
  uid := "cluster-new"
  controller := some true
  blockOwnerDeletion := some true

def set : StatefulSet where
  metadata :=
    { name := "es-db", namespaceName := "default", uid := "set-new"
      ownerReferences := [cluster] }

def podNamed (name uid : String) : Pod where
  metadata :=
    { name := name, namespaceName := "default", uid := uid
      ownerReferences := [newControllerRef "apps/v1beta1" "StatefulSet" set] }

def pod0 : Pod := podNamed "es-db-0" "pod-0-new"

def pod1 : Pod := podNamed "es-db-1" "pod-1-new"

/-- The Pod of the cluster that is gone. -/
def oldPod0 : Pod where
  metadata :=
    { name := "es-db-0", namespaceName := "default", uid := "pod-0-old"
      ownerReferences := [⟨"apps/v1beta1", "StatefulSet", "es-db", "set-old", some true, none⟩] }

def pilotFor (pod : Pod) : Pilot where
  metadata :=
    { name := nameOf pod, namespaceName := "default", uid := "pilot"
      ownerReferences := [newControllerRef "v1" "Pod" pod] }

def this : Pilot := pilotFor pod1

def shared : Shared where
  caches :=
    { statefulSetLister := ⟨[set], none⟩
      configMapLister := ⟨[], none⟩
      pilotLister := ⟨[this], none⟩
      podLister := ⟨[pod0, pod1], none⟩ }
  hooks := {}

def outcomes (_ : Op) : Outcome := {}

theorem this_returned : Returns outcomes shared (thisPilot options) (.ok this) :=
  returns_of_map_eq (by decide +kernel)

theorem set_linked : LinkedTo shared.caches (.of set) cluster.clusterRef :=
  .cluster rfl (.inl rfl)

theorem pods_linked : ∀ pod ∈ [pod0, pod1], LinkedTo shared.caches (.of pod) cluster.clusterRef := by
  have hlinks : ∀ pod ∈ [pod0, pod1],
      rootControllerStep shared.caches (.of pod) = .inl (.of set) ∧
        isControlledBy (Controlee.of pod) (Controlee.of set) = true := by
    decide +kernel
  intro pod hpod
  obtain ⟨hlink, hcontrols⟩ := hlinks pod hpod
  exact .owner (link_rootControllerStep.mp hlink) hcontrols set_linked

theorem pilots_linked : ∀ pod ∈ [pod0, pod1],
    LinkedTo shared.caches (.of (pilotFor pod)) cluster.clusterRef := by
  have hlinks : ∀ pod ∈ [pod0, pod1],
      rootControllerStep shared.caches (.of (pilotFor pod)) = .inl (.of pod) ∧
        isControlledBy (Controlee.of (pilotFor pod)) (Controlee.of pod) = true := by
    decide +kernel
  intro pod hpod
  obtain ⟨hlink, hcontrols⟩ := hlinks pod hpod
  exact .owner (link_rootControllerStep.mp hlink) hcontrols (pods_linked pod hpod)

theorem isPeer_shares_cluster_iff_fresh :
    Returns outcomes shared (isPeer options 3 (pilotFor pod0)) (.ok true) ∧
      ¬ StaleOwner shared.caches (.of this) ∧
      ¬ StaleOwner shared.caches (.of (pilotFor pod0)) := by
  have hpeer : Returns outcomes shared (isPeer options 3 (pilotFor pod0)) (.ok true) :=
    returns_of_map_eq (by decide +kernel)
  have hlinked : LinkedTo shared.caches (.of this) cluster.clusterRef :=
    pilots_linked pod1 (by simp)
  have hlinked' : LinkedTo shared.caches (.of (pilotFor pod0)) cluster.clusterRef :=
    pilots_linked pod0 (by simp)
  exact ⟨hpeer, (isPeer_shares_cluster_iff hpeer this_returned).mp ⟨_, hlinked, hlinked'⟩⟩

/-- The Pilot of the old Pod is taken for a peer in the new cluster. -/
theorem isPeer_of_replaced_pod :
    Returns outcomes shared (thisPilot options) (.ok this) ∧
      Returns outcomes shared (isPeer options 3 (pilotFor oldPod0)) (.ok true) ∧
      ¬ ∃ cluster, LinkedTo shared.caches (.of this) cluster ∧
        LinkedTo shared.caches (.of (pilotFor oldPod0)) cluster := by
  refine ⟨this_returned, returns_of_map_eq (by decide +kernel), ?_⟩
  rintro ⟨cluster, -, hlinked⟩
  have hcached : OwnerInCache shared.caches (.of (pilotFor oldPod0)) (.of pod0) :=
    link_rootControllerStep.mp (by unfold Link; decide +kernel)
  exact hlinked.not_staleOwner ⟨_, _, .refl, hcached, by decide +kernel⟩

end PeersWitness

end GenericPilot

end Navigator
