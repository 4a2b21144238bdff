/-
Several Cassandra clusters in one namespace: Syncs of any version of them in any
order, on caches that may be stale.  A name of a StatefulSet may stand for the
pools of two clusters, but the labels of a StatefulSet tell whose it is, and a
pool is scaled out only after a StatefulSet with its labels was counted.
-/
import Navigator.Cassandra.ScaleOut

namespace Navigator

open ControlLoop

namespace Cassandra

/-- The clusters of a namespace, as they were created, and the stores. -/
structure Clusters where
  namespaceName : String
  clusters : List Cluster
  api : ApiServer := {}

namespace Clusters

/-- A step: a `Sync` of any version of one of the clusters, on the caches and with
the faults given, or what others do with a StatefulSet, which is to report its
status or to delete it. -/
inductive Step where
  | sync (seen : Cluster) (env : Environment) (faults : List (Option Fault))
  | status (key : String × String) (status : StatefulSetStatus)
  | delete (key : String × String)

/-- What a `Sync` may see: a version of one of the clusters, with any spec and
status, and StatefulSets that the API server holds or once held. -/
def Sees (s : Clusters) (seen : Cluster) (env : Environment) : Prop :=
  (∃ c ∈ s.clusters, SameIdentity c seen) ∧
    s.api.statefulSets.Cache env.state.statefulSetLister.items

instance (s : Clusters) (seen : Cluster) (env : Environment) : Decidable (s.Sees seen env) :=
  inferInstanceAs (Decidable (_ ∧ _))

/-- What a `Sync` starts from. -/
def world (s : Clusters) (seen : Cluster) : World := { cluster := seen, api := s.api }

/-- The requests of a `Sync`, with what each one meets. -/
def syncCalls (s : Clusters) (seen : Cluster) (env : Environment)
    (faults : List (Option Fault)) : List (ApiServer × Request) :=
  (s.world seen).syncCalls seen seen.status env faults

def step (s : Clusters) : Step → Option Clusters
  | .sync seen env faults =>
      if s.Sees seen env then
        some { s with api := ((s.world seen).syncRun seen seen.status env faults).2 }
      else none
  | .status key status =>
      (s.api.statefulSets.get key).map fun set =>
        { s with api := { s.api with
            statefulSets := s.api.statefulSets.put { set with status := status } } }
  | .delete key =>
      some { s with api := { s.api with statefulSets := s.api.statefulSets.remove key } }

/-- Clusters with names of their own in an empty namespace. -/
def Created (s : Clusters) : Prop :=
  (∀ c ∈ s.clusters, c.metadata.namespaceName = s.namespaceName) ∧
    (s.clusters.map fun c => c.metadata.name).Nodup ∧ s.api.statefulSets = .empty

def machine : Machine Clusters Step where
  init := Created
  step := step

end Clusters

/-- The StatefulSet has the labels of a pool of some cluster, and the name that
follows from them. -/
def NamedByLabels (namespaceName : String) (set : StatefulSet) : Prop :=
  ∃ clusterName poolName,
    StringMap.get? set.metadata.labels cassandraClusterNameLabel = some clusterName ∧
      StringMap.get? set.metadata.labels cassandraNodePoolNameLabel = some poolName ∧
      Resource.key set = (namespaceName, typeName ++ "-" ++ clusterName ++ "-" ++ poolName)

section Labels

variable {c : Cluster} {set : StatefulSet} {state : State}

/-- A write that keeps name and labels. -/
theorem NamedByLabels.congr {namespaceName : String} (h : NamedByLabels namespaceName set)
    {written : StatefulSet} (hkey : Resource.key written = Resource.key set)
    (hlabels : written.metadata.labels = set.metadata.labels) :
    NamedByLabels namespaceName written := by
  obtain ⟨clusterName, poolName, hcluster, hpool, hset⟩ := h
  refine ⟨clusterName, poolName, ?_, ?_, hkey.trans hset⟩
  · rw [hlabels]
    exact hcluster
  · rw [hlabels]
    exact hpool

theorem namedByLabels_of_built {np : NodePool} (h : statefulSetForCluster c np = .ok set) :
    NamedByLabels c.metadata.namespaceName set := by
  obtain ⟨hname, hnamespace, hlabels, _⟩ := statefulSetForCluster_eq_ok h
  refine ⟨c.metadata.name, np.name, ?_, ?_, Prod.ext hnamespace hname⟩
  · rw [hlabels]
    exact get?_nodePoolLabels_clusterName c np.name
  · rw [hlabels]
    exact get?_nodePoolLabels_poolName c np.name

/-- The StatefulSet that counts for a pool is stored under the name of the pool. -/
theorem NamedByLabels.key_eq_setKey (h : NamedByLabels c.metadata.namespaceName set)
    (hown : OwnSet state c set) {poolName : String}
    (hlabel : StringMap.get set.metadata.labels cassandraNodePoolNameLabel = poolName) :
    Resource.key set = setKey c poolName := by
  obtain ⟨clusterName, poolName', hcluster, hpool, hkey⟩ := h
  have hname : clusterName = c.metadata.name :=
    Option.some.inj (hcluster.symm.trans hown.label)
  have hpoolName : poolName' = poolName := by
    rw [← hlabel, StringMap.get, hpool]
    rfl
  rw [hkey, hname, hpoolName]
  rfl

/-- The StatefulSet that a scale out finds by its name is one that was counted for
the cluster: the pool has a status, the StatefulSet that gave it has the same
name, and a cache shows one StatefulSet of a name. -/
theorem ownSet_of_scaleOut {statuses : Std.ExtTreeMap String NodePoolStatus} {np : NodePool}
    (hnamed : ∀ cached ∈ state.statefulSetLister.items,
      NamedByLabels c.metadata.namespaceName cached)
    (hunique : (state.statefulSetLister.items.map Resource.key).Nodup)
    (hcounted : nodePoolStatuses state c = .ok statuses)
    (hchosen : nextAction (withNodePoolStatuses c statuses) =
      .ok (some (.scaleOut ⟨withNodePoolStatuses c statuses, np⟩)))
    (hcached : state.statefulSetLister.get "statefulset.apps" c.metadata.namespaceName
      (nodePoolResourceName c np) = .ok set) : OwnSet state c set := by
  have hsome : (statuses[np.name]?).isSome = true := by
    rcases nextAction_eq_some hchosen with ⟨_, _, _, haction⟩ | ⟨hall, _⟩
    · cases haction
    · exact hall np (mem_of_nextAction_scaleOut hchosen)
  obtain ⟨status, hstatus⟩ := Option.isSome_iff_exists.mp hsome
  obtain ⟨counted, hown, hlabel, _⟩ := nodePoolStatuses_sound hcounted hstatus
  obtain ⟨hitem, hkey⟩ := Lister.get_ok hcached
  have hsame : Resource.key counted = Resource.key set :=
    ((hnamed counted hown.cached).key_eq_setKey hown hlabel).trans hkey.symm
  rw [← List.inj_on_of_nodup_map hunique hown.cached hitem hsame]
  exact hown

/-- A `Sync` asks for the update of a cached StatefulSet of its cluster only. -/
theorem SyncRequest.ownSet_of_update {written : StatefulSet}
    (h : SyncRequest state c (.updateStatefulSet written))
    (hnamed : ∀ cached ∈ state.statefulSetLister.items,
      NamedByLabels c.metadata.namespaceName cached)
    (hunique : (state.statefulSetLister.items.map Resource.key).Nodup) :
    ∃ cached current, OwnSet state c cached ∧ written = grown cached current := by
  cases h with
  | grow hcounted hchosen hcached =>
      exact ⟨_, _, ownSet_of_scaleOut hnamed hunique hcounted hchosen hcached, rfl⟩

/-- A stored StatefulSet that a request of a `Sync` changes is the cached one, so
the cluster controls it. -/
theorem SyncRequest.controlled_of_changed {request : Request} (h : SyncRequest state c request)
    (hnamed : ∀ cached ∈ state.statefulSetLister.items,
      NamedByLabels c.metadata.namespaceName cached)
    (hunique : (state.statefulSetLister.items.map Resource.key).Nodup) {api api' : ApiServer}
    (heffect : ApiServer.Effect api request api')
    (hcache : ∀ cached ∈ state.statefulSetLister.items, cached ∈ api.statefulSets.history)
    {key : String × String}
    (hstored : api.statefulSets.get key = some set)
    (hchanged : api'.statefulSets.get key ≠ some set) : isControlledBy set c = true := by
  cases heffect with
  | createConfigMap => cases h
  | createPilot => cases h
  | deleteStatefulSet => cases h
  | recordEvent => exact absurd hstored hchanged
  | createStatefulSet hfresh =>
      exact absurd (ObjectStore.get_put_of_fresh hstored hfresh) hchanged
  | @updateStatefulSet written stored hfound hversion =>
      obtain ⟨cached, current, hown, rfl⟩ := h.ownSet_of_update hnamed hunique
      by_cases hkey : key = Resource.key (grown cached current)
      · rw [hkey, hfound] at hstored
        cases hstored
        -- the update carries the version of the cached StatefulSet
        rw [api.statefulSets.history_unique set (ObjectStore.mem_history_of_get hfound) cached
          (hcache cached hown.cached) hversion.symm]
        exact hown.controlled
      · simp only [ObjectStore.get_put, if_neg hkey] at hchanged
        exact absurd hstored hchanged

/-- Every StatefulSet that a `Sync` writes is named by its labels. -/
theorem SyncRequest.namedByLabels {request : Request} (h : SyncRequest state c request)
    (hnamed : ∀ cached ∈ state.statefulSetLister.items,
      NamedByLabels c.metadata.namespaceName cached) {written : StatefulSet}
    (hwrites : ApiServer.WritesSet request written) :
    NamedByLabels c.metadata.namespaceName written := by
  cases h with
  | event => cases hwrites
  | create _ _ _ hbuilt =>
      cases hwrites
      exact namedByLabels_of_built hbuilt
  | grow _ _ hcached =>
      cases hwrites
      exact (hnamed _ (Lister.get_ok hcached).1).congr rfl rfl

end Labels

namespace Clusters

variable {s : Clusters} {seen : Cluster} {env : Environment}

/-- The invariant: every StatefulSet ever stored is named by its labels. -/
structure AllNamed (s : Clusters) : Prop where
  clusters : ∀ c ∈ s.clusters, c.metadata.namespaceName = s.namespaceName
  sets : ∀ set ∈ s.api.statefulSets.history, NamedByLabels s.namespaceName set

theorem AllNamed.namespaceName_of_sees (h : s.AllNamed) (hsees : s.Sees seen env) :
    seen.metadata.namespaceName = s.namespaceName := by
  obtain ⟨⟨c, hc, _, hnamespace, _⟩, _⟩ := hsees
  rw [hnamespace, h.clusters c hc]

theorem AllNamed.cached (h : s.AllNamed) (hsees : s.Sees seen env) :
    ∀ cached ∈ env.state.statefulSetLister.items,
      NamedByLabels seen.metadata.namespaceName cached := by
  intro cached hitem
  rw [h.namespaceName_of_sees hsees]
  exact h.sets cached (hsees.2.2 cached hitem)

/-- A request of a `Sync` keeps the StatefulSets named by their labels. -/
theorem AllNamed.serve (h : s.AllNamed) (hsees : s.Sees seen env) (api : ApiServer)
    (request : Request)
    (hapi : ∀ set ∈ api.statefulSets.history, NamedByLabels s.namespaceName set)
    (hrequest : SyncRequest env.state (withPausedConditions env.now seen) request) :
    ∀ set ∈ (api.serve request).2.statefulSets.history, NamedByLabels s.namespaceName set := by
  apply ApiServer.serve_history _ _ hapi
  intro written version hwrites
  have hnamed := hrequest.namedByLabels (h.cached hsees) hwrites
  rw [withPausedConditions_metadata, h.namespaceName_of_sees hsees] at hnamed
  exact hnamed.congr (Resource.key_withVersion written version) rfl

theorem allNamed_of_reachable {ok : Clusters → Step → Prop} (hreach : machine.Reachable ok s) :
    s.AllNamed := by
  apply hreach.invariant AllNamed
  · rintro s ⟨hclusters, _, hempty⟩
    refine ⟨hclusters, ?_⟩
    intro set hset
    rw [hempty] at hset
    cases hset
  · intro s event s' h _ hstep
    cases event with
    | sync seen env faults =>
        simp only [machine, step, Option.ite_none_right_eq_some, Option.some.injEq] at hstep
        obtain ⟨hsees, rfl⟩ := hstep
        exact ⟨h.clusters, syncRun_preserves _ (h.serve hsees) h.sets⟩
    | status key status =>
        simp only [machine, step, Option.map_eq_some_iff] at hstep
        obtain ⟨set, hget, rfl⟩ := hstep
        refine ⟨h.clusters, ?_⟩
        intro other hother
        rcases List.mem_cons.mp hother with rfl | hother
        · exact (h.sets set (ObjectStore.mem_history_of_get hget)).congr rfl rfl
        · exact h.sets other hother
    | delete key =>
        cases hstep
        exact ⟨h.clusters, h.sets⟩

end Clusters

/-- Isolation: in every run from an empty namespace on, whatever the names of the
pools, a `Sync` asks for the update of a StatefulSet only as one that its cluster
controls; a stored StatefulSet that any of its requests changes is controlled by
its cluster; and the replicas it reports are those of cached StatefulSets that
its cluster controls. -/
theorem sync_keeps_to_own_statefulSets {ok : Clusters → Clusters.Step → Prop} {s : Clusters}
    (hreach : Clusters.machine.Reachable ok s) {seen : Cluster} {env : Environment}
    (hsees : s.Sees seen env) (faults : List (Option Fault)) :
    (∀ met written, (met, .updateStatefulSet written) ∈ s.syncCalls seen env faults →
      isControlledBy written seen = true) ∧
    (∀ met request key stored, (met, request) ∈ s.syncCalls seen env faults →
      met.statefulSets.get key = some stored →
      (met.serve request).2.statefulSets.get key ≠ some stored →
        isControlledBy stored seen = true) ∧
    ∀ statuses name status, nodePoolStatuses env.state seen = .ok statuses →
      statuses[name]? = some status →
        ∃ set ∈ env.state.statefulSetLister.items, isControlledBy set seen = true ∧
          StringMap.get set.metadata.labels cassandraNodePoolNameLabel = name ∧
          status.readyReplicas = set.status.readyReplicas := by
  have hnamed := Clusters.allNamed_of_reachable hreach
  refine ⟨?_, ?_, ?_⟩
  · intro met written hcall
    obtain ⟨_, hrequest⟩ := inv_of_mem_syncCalls (fun _ => True) hcall
      (fun _ _ _ _ => trivial) trivial
    obtain ⟨cached, current, hown, rfl⟩ :=
      hrequest.ownSet_of_update (hnamed.cached hsees) hsees.2.1
    exact hown.controlled
  · intro met request key stored hcall hstored hchanged
    -- the history only grows, so what the cache shows stays in it
    obtain ⟨hcache, hrequest⟩ := inv_of_mem_syncCalls
      (fun api => ∀ set ∈ env.state.statefulSetLister.items, set ∈ api.statefulSets.history)
      hcall (fun _ _ hapi _ set hset => ApiServer.serve_history_subset (hapi set hset))
      hsees.2.2
    obtain ⟨faults', hsame | heffect⟩ := met.serve_cases request
    · rw [hsame] at hchanged
      exact absurd hstored hchanged
    · exact hrequest.controlled_of_changed (hnamed.cached hsees) hsees.2.1 heffect hcache
        hstored hchanged
  · intro statuses name status hcounted hstatus
    obtain ⟨set, hown, hlabel, hready⟩ := nodePoolStatuses_sound hcounted hstatus
    exact ⟨set, hown.cached, hown.controlled, hlabel, hready⟩

namespace IsolationWitness

/-- A cluster with one pool. -/
def cluster (clusterName uid poolName : String) (replicas : Int) : Cluster :=
  let c := sampleCluster [samplePool poolName replicas]
  { c with metadata := { c.metadata with name := clusterName, uid := uid } }

/-- The StatefulSets of both pools are to be named cass-a-b-c. -/
def short : Cluster := cluster "a" "uid-a" "b-c" 2

def long : Cluster := cluster "a-b" "uid-a-b" "c" 3

def start : Clusters := { namespaceName := "default", clusters := [short, long] }

/-- The first cluster is synced, then twice the second one, which finds the name
taken. -/
def events : List Clusters.Step :=
  let created := (start.step (.sync short (currentEnv start.api) [])).getD start
  [.sync short (currentEnv start.api) [], .sync long (currentEnv created.api) [],
    .sync long (currentEnv created.api) []]

def after : Clusters := (Clusters.machine.exec start events).getD start

/-- The StatefulSet cass-a-b-c as it is stored. -/
def storedSet : StatefulSet := (after.api.statefulSets.get (setKey short "b-c")).getD {}

/-- Two clusters with pools of the same resource name: the StatefulSet is scaled out
by the cluster that controls it. -/
theorem sync_keeps_to_own_statefulSets_collision :
    setKey short "b-c" = setKey long "c" ∧
      (∃ call ∈ after.syncCalls short (currentEnv after.api) [],
        call.2 = .updateStatefulSet (grown storedSet 0)) ∧
      isControlledBy (grown storedSet 0) short = true ∧
      isControlledBy (grown storedSet 0) long = false := by
  have hcreated : start.Created := by
    refine ⟨?_, by decide, rfl⟩
    simp [start, short, long, cluster, sampleCluster]
  have hfacts : (Clusters.machine.exec start events).isSome = true ∧
      after.Sees short (currentEnv after.api) ∧
      (∃ call ∈ after.syncCalls short (currentEnv after.api) [],
        call.2 = .updateStatefulSet (grown storedSet 0)) ∧
      isControlledBy (grown storedSet 0) long = false := by decide +kernel
  obtain ⟨henabled, hsees, ⟨⟨met, request⟩, hcall, hrequest⟩, hforeign⟩ := hfacts
  have hreach : Clusters.machine.Reachable Machine.anyStep after := by
    unfold after
    exact Machine.Reachable.getD_exec (.start hcreated) (Machine.meets_anyStep _ _ _) henabled
  refine ⟨by decide, ⟨_, hcall, hrequest⟩, ?_, hforeign⟩
  subst hrequest
  exact (sync_keeps_to_own_statefulSets hreach hsees []).1 met _ hcall

end IsolationWitness

end Cassandra

end Navigator
