/-
One Elasticsearch cluster, the API server it lives on, and the runs that
interleave accepted edits of the cluster, its Syncs and status changes of its
StatefulSets, from an empty namespace on.
-/
import Navigator.Accepted
import Navigator.Base.Machine
import Navigator.Elasticsearch.SyncSpec

namespace Navigator

open ControlLoop

namespace Elasticsearch

/-- The numbers of the spec fit their Go types. -/
def WellTyped (spec : ElasticsearchClusterSpec) : Prop :=
  (∀ np ∈ spec.nodePools, ∀ replicas ∈ np.replicas, Int32Range replicas) ∧
    ∀ minimum ∈ spec.minimumMasters, Int32Range minimum

instance (spec : ElasticsearchClusterSpec) : Decidable (WellTyped spec) :=
  inferInstanceAs (Decidable (_ ∧ _))

/-- The object is still the same one: an edit keeps name, namespace and UID. -/
def SameIdentity (c c' : Cluster) : Prop :=
  c'.metadata.name = c.metadata.name ∧
    c'.metadata.namespaceName = c.metadata.namespaceName ∧ c'.metadata.uid = c.metadata.uid

instance (c c' : Cluster) : Decidable (SameIdentity c c') :=
  inferInstanceAs (Decidable (_ ∧ _))

/-- The cluster with another status. -/
def withStatus (c : Cluster) (status : ElasticsearchClusterStatus) : Cluster :=
  { c with status := status }

structure World where
  cluster : Cluster
  api : ApiServer

namespace World

/-- A step: an edit of the cluster, a `Sync` on the caches and with the faults
given, or a status change of a StatefulSet. -/
inductive Step where
  | edit (new : Cluster)
  | sync (env : Environment) (faults : List (Option Fault))
  | status (key : String × String) (status : StatefulSetStatus)

/-- The outcome of a `Sync` of the current cluster. -/
def syncRun (w : World) (env : Environment) (faults : List (Option Fault)) :
    Except Err (ElasticsearchClusterStatus × Option Err) × ApiServer :=
  (Elasticsearch.sync env w.cluster).run ApiServer.serve { w.api with faults := faults }

/-- The requests of a `Sync` of the current cluster, with what each one meets. -/
def syncCalls (w : World) (env : Environment) (faults : List (Option Fault)) :
    List (ApiServer × Request) :=
  (Elasticsearch.sync env w.cluster).calls ApiServer.serve { w.api with faults := faults }

/-- The caches hold objects that the API server holds or once held; what the
Pilots report is arbitrary, with one Pilot for each name. -/
def CachesOf (api : ApiServer) (state : State) : Prop :=
  api.statefulSets.Cache state.statefulSetLister.items ∧
    api.configMaps.Cache state.configMapLister.items ∧
    (state.pilotLister.items.map Resource.key).Nodup

instance (api : ApiServer) (state : State) : Decidable (CachesOf api state) :=
  inferInstanceAs (Decidable (_ ∧ _))

def step (w : World) : Step → Option World
  | .edit new =>
      if SameIdentity w.cluster new ∧ WellTyped new.spec ∧
          validateElasticsearchClusterUpdate w.cluster new = .ok [] then
        some { w with cluster := new }
      else none
  | .sync env faults =>
      if CachesOf w.api env.state then some { w with api := (w.syncRun env faults).2 }
      else none
  | .status key status =>
      (w.api.statefulSets.get key).map fun set =>
        { w with api := { w.api with
            statefulSets := w.api.statefulSets.put { set with status := status } } }

/-- What a `Sync` reads when the caches show what the server holds. -/
def currentEnv (api : ApiServer) (pilots : List Pilot) : Environment :=
  { state :=
      { statefulSetLister := { items := api.statefulSets.objects }
        configMapLister := { items := api.configMaps.objects }
        pilotLister := { items := pilots }
        podLister := { items := [] } } }

/-- A cluster just accepted, in an empty namespace. -/
def Created (w : World) : Prop :=
  validateElasticsearchCluster w.cluster = .ok [] ∧ WellTyped w.cluster.spec ∧
    w.api.statefulSets = .empty ∧ w.api.configMaps = .empty

def machine : Machine World Step where
  init := Created
  step := step

/-- What a step can do. -/
theorem step_cases {w w' : World} {event : Step} (h : w.step event = some w') :
    (∃ new, event = .edit new ∧ SameIdentity w.cluster new ∧ WellTyped new.spec ∧
      validateElasticsearchClusterUpdate w.cluster new = .ok [] ∧
      w' = { w with cluster := new }) ∨
    (∃ env faults, event = .sync env faults ∧ CachesOf w.api env.state ∧
      w' = { w with api := (w.syncRun env faults).2 }) ∨
    ∃ key status set, event = .status key status ∧ w.api.statefulSets.get key = some set ∧
      w' = { w with api := { w.api with
        statefulSets := w.api.statefulSets.put { set with status := status } } } := by
  cases event with
  | edit new =>
      simp only [step] at h
      split at h
      · rename_i hguard
        cases h
        exact Or.inl ⟨new, rfl, hguard.1, hguard.2.1, hguard.2.2, rfl⟩
      · cases h
  | sync env faults =>
      simp only [step] at h
      split at h
      · rename_i hcaches
        cases h
        exact Or.inr (Or.inl ⟨env, faults, rfl, hcaches, rfl⟩)
      · cases h
  | status key status =>
      simp only [step, Option.map_eq_some_iff] at h
      obtain ⟨set, hget, rfl⟩ := h
      exact Or.inr (Or.inr ⟨key, status, set, rfl, hget, rfl⟩)

end World

@[simp] theorem withPausedConditions_spec (now : Nat) (c : Cluster) :
    (withPausedConditions now c).spec = c.spec := rfl

@[simp] theorem withPausedConditions_metadata (now : Nat) (c : Cluster) :
    (withPausedConditions now c).metadata = c.metadata := rfl

@[simp] theorem accepted_withPausedConditions {now : Nat} {c : Cluster} :
    (withPausedConditions now c).Accepted ↔ c.Accepted :=
  ⟨fun h => ⟨h.namespaced, h.distinct, h.poolNamed, h.nonneg, h.counted⟩,
    fun h => ⟨h.namespaced, h.distinct, h.poolNamed, h.nonneg, h.counted⟩⟩

/-- Invariant rule for a `Sync`: what every request of the cluster's Sync
preserves, the Sync preserves. -/
theorem syncRun_preserves (Inv : ApiServer → Prop) {w : World} {env : Environment}
    {faults : List (Option Fault)}
    (hserve : ∀ api request, Inv api →
      SyncRequest env.state (withPausedConditions env.now w.cluster) request →
        Inv (api.serve request).2)
    (hstate : Inv { w.api with faults := faults }) : Inv (w.syncRun env faults).2 :=
  Prog.run_preserves Inv hserve (sync_all env w.cluster) hstate

/-- The same rule for the states in between. -/
theorem inv_of_mem_syncCalls (Inv : ApiServer → Prop) {w : World} {env : Environment}
    {faults : List (Option Fault)} {met : ApiServer} {request : Request}
    (hcall : (met, request) ∈ w.syncCalls env faults)
    (hserve : ∀ api request, Inv api →
      SyncRequest env.state (withPausedConditions env.now w.cluster) request →
        Inv (api.serve request).2)
    (hstate : Inv { w.api with faults := faults }) :
    Inv met ∧ SyncRequest env.state (withPausedConditions env.now w.cluster) request :=
  Prog.inv_of_mem_calls Inv hserve (sync_all env w.cluster) hstate hcall

end Elasticsearch

end Navigator
