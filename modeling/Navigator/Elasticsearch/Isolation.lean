/-
Several Elasticsearch clusters in one namespace: accepted edits and Syncs in any
order, on caches that may be stale.  A cluster keeps to its own StatefulSets as
long as no two clusters ever have pools of the same resource name.
-/
import Navigator.Elasticsearch.World

namespace Navigator

open ControlLoop

namespace Elasticsearch

/-- The clusters of a namespace and the stores. -/
structure Clusters where
  clusters : List Cluster
  api : ApiServer

namespace Clusters

inductive Step where
  | edit (c new : Cluster)
  | sync (c : Cluster) (env : Environment) (status : ElasticsearchClusterStatus)
      (faults : List (Option Fault))
  | status (key : String × String) (status : StatefulSetStatus)

/-- What a `Sync` of one of the clusters starts from. -/
def world (s : Clusters) (c : Cluster) (status : ElasticsearchClusterStatus) : World :=
  { cluster := withStatus c status, api := s.api }

def step (s : Clusters) : Step → Option Clusters
  | .edit c new =>
      if c ∈ s.clusters ∧ SameIdentity c new ∧
          validateElasticsearchClusterUpdate c new = .ok [] then
        some { s with clusters := s.clusters.map fun other => if other = c then new else other }
      else none
  | .sync c env status faults =>
      if c ∈ s.clusters ∧ World.CachesOf s.api env.state then
        some { s with api := ((s.world c status).syncRun env faults).2 }
      else none
  | .status key status =>
      (s.api.statefulSets.get key).map fun set =>
        { s with api := { s.api with
            statefulSets := s.api.statefulSets.put { set with status := status } } }

/-- Accepted clusters of one namespace, each with a name and a UID of its own, and
nothing stored yet. -/
def Created (s : Clusters) : Prop :=
  (∀ c ∈ s.clusters, validateElasticsearchCluster c = .ok []) ∧
    (s.clusters.map fun c => c.metadata.name).Nodup ∧
    (s.clusters.map fun c => c.metadata.uid).Nodup ∧
    (∀ c ∈ s.clusters, ∀ c' ∈ s.clusters, c.metadata.namespaceName = c'.metadata.namespaceName) ∧
    s.api.statefulSets = .empty ∧ s.api.configMaps = .empty

def machine : Machine Clusters Step where
  init := Created
  step := step

/-- `holder` gives every resource name to one cluster, by its UID, and the pools of
the clusters keep to it. -/
def Respects (holder : String × String → String) (s : Clusters) : Prop :=
  ∀ c ∈ s.clusters, ∀ np ∈ c.spec.nodePools, holder (setKey c np.name) = c.metadata.uid

instance (holder : String × String → String) (s : Clusters) : Decidable (s.Respects holder) :=
  inferInstanceAs (Decidable (∀ c ∈ s.clusters, ∀ np ∈ c.spec.nodePools,
    holder (setKey c np.name) = c.metadata.uid))

/-- No two clusters ever have pools of the same resource name. -/
def noCollision (holder : String × String → String) (s : Clusters) (_ : Step) : Prop :=
  s.Respects holder

instance (holder : String × String → String) (s : Clusters) (event : Step) :
    Decidable (noCollision holder s event) :=
  inferInstanceAs (Decidable (s.Respects holder))

end Clusters

/-- The StatefulSet that a request changes or removes. -/
inductive Targets : Request → String × String → Prop where
  | update (set : StatefulSet) : Targets (.updateStatefulSet set) (Resource.key set)
  | delete (namespaceName name : String) :
      Targets (.deleteStatefulSet namespaceName name) (namespaceName, name)

/-- The controller of the StatefulSet is the cluster that holds its name. -/
def HeldBy (holder : String × String → String) (set : StatefulSet) : Prop :=
  ∃ ref, getControllerOf set = some ref ∧ ref.uid = holder (Resource.key set)

section Held

variable {holder : String × String → String} {c : Cluster} {set written : StatefulSet}
  {state : State}

theorem HeldBy.isControlledBy_iff (h : HeldBy holder set) :
    isControlledBy set c = true ↔ holder (Resource.key set) = c.metadata.uid := by
  obtain ⟨ref, href, huid⟩ := h
  simp only [isControlledBy, href, decide_eq_true_eq, huid]
  exact Iff.rfl

/-- A write that keeps name and owners. -/
theorem HeldBy.congr (h : HeldBy holder set) (hkey : Resource.key written = Resource.key set)
    (howners : written.metadata.ownerReferences = set.metadata.ownerReferences) :
    HeldBy holder written := by
  obtain ⟨ref, href, huid⟩ := h
  refine ⟨ref, ?_, hkey.symm ▸ huid⟩
  change written.metadata.ownerReferences.find? _ = _
  rw [howners]
  exact href

/-- What `Scale` and `UpdateVersion` write has the name of a pool of the cluster,
and the owners of the cached StatefulSet. -/
theorem written_owners {action : Action} (hchosen : nextAction state c = .ok (some action))
    (hissues : action.Issues state (.updateStatefulSet written)) :
    (∃ np ∈ c.spec.nodePools, Resource.key written = setKey c np.name) ∧
      ∃ cached ∈ state.statefulSetLister.items, Resource.key written = Resource.key cached ∧
        written.metadata.ownerReferences = cached.metadata.ownerReferences := by
  obtain ⟨hcluster, hnp⟩ := nextAction_target hchosen
  have hkey : (action.target.namespaceName, action.target.statefulSetName) =
      setKey c action.target.nodePool.name := by
    rw [← hcluster]
    rfl
  cases action with
  | createNodePool t => cases hissues
  | scale t replicas =>
      cases hissues with
      | update hwrites =>
          refine ⟨⟨t.nodePool, hnp, hwrites.key.trans hkey⟩, ?_⟩
          obtain ⟨hcached, _, _, _⟩ := hwrites
          exact ⟨_, (Lister.get_ok hcached).1, rfl, rfl⟩
  | updateVersion t =>
      cases hissues with
      | update hwrites =>
          refine ⟨⟨t.nodePool, hnp, hwrites.key.trans hkey⟩, ?_⟩
          rcases hwrites with ⟨hproceeds, _⟩ | ⟨hproceeds, _, _, _⟩
          · exact ⟨_, (Lister.get_ok hproceeds.cached).1, rfl, rfl⟩
          · exact ⟨_, (Lister.get_ok hproceeds.cached).1, rfl, rfl⟩

/-- Every StatefulSet that a `Sync` writes is held by its controller: it is created
for a pool of the cluster, or it was so already. -/
theorem SyncRequest.heldBy {request : Request} (hrequest : SyncRequest state c request)
    (hholds : ∀ np ∈ c.spec.nodePools, holder (setKey c np.name) = c.metadata.uid)
    (hcached : ∀ cached ∈ state.statefulSetLister.items, HeldBy holder cached)
    (hwrites : ApiServer.WritesSet request written) : HeldBy holder written := by
  cases hwrites with
  | create =>
      cases hrequest with
      | @act action _ hchosen hissues =>
          cases action with
          | scale t replicas => cases hissues
          | updateVersion t => cases hissues
          | createNodePool t =>
              cases hissues with
              | create hbuilt =>
                  obtain ⟨hcluster, hnp⟩ := nextAction_target hchosen
                  have hcluster : t.cluster = c := hcluster
                  have hnp : t.nodePool ∈ c.spec.nodePools := hnp
                  rw [hcluster] at hbuilt
                  obtain ⟨hname, hnamespace, _, howners, _⟩ := nodePoolStatefulSet_eq_ok hbuilt
                  have hkey : Resource.key written = setKey c t.nodePool.name :=
                    Prod.ext hnamespace hname
                  refine ⟨newClusterRef c, ?_, ?_⟩
                  · change written.metadata.ownerReferences.find? _ = _
                    rw [howners]
                    rfl
                  · rw [hkey, hholds t.nodePool hnp]
                    rfl
  | update =>
      cases hrequest with
      | act hchosen hissues =>
          obtain ⟨_, cached, hitem, hkey, howners⟩ := written_owners hchosen hissues
          exact (hcached cached hitem).congr hkey howners

end Held

namespace Clusters

variable {holder : String × String → String} {s : Clusters}

/-- The invariant: every StatefulSet ever stored is controlled by the cluster that
holds its name. -/
def AllHeld (holder : String × String → String) (api : ApiServer) : Prop :=
  ∀ set ∈ api.statefulSets.history, HeldBy holder set

theorem AllHeld.serve (hrespects : s.Respects holder) {c : Cluster} (hc : c ∈ s.clusters)
    {env : Environment} {status : ElasticsearchClusterStatus}
    (hcached : ∀ cached ∈ env.state.statefulSetLister.items, HeldBy holder cached)
    (api : ApiServer) (request : Request) (h : AllHeld holder api)
    (hrequest : SyncRequest env.state (withPausedConditions env.now (withStatus c status))
      request) : AllHeld holder (api.serve request).2 := by
  apply ApiServer.serve_history (HeldBy holder) _ h
  intro written version hwrites
  have hheld := hrequest.heldBy (hrespects c hc) hcached hwrites
  exact hheld.congr (Resource.key_withVersion written version) rfl

theorem allHeld_of_reachable (hreach : machine.Reachable (noCollision holder) s) :
    AllHeld holder s.api := by
  apply Machine.Reachable.invariant (fun s : Clusters => AllHeld holder s.api) _ _ hreach
  · rintro s ⟨_, _, _, _, hempty, _⟩ set hset
    rw [hempty] at hset
    cases hset
  · intro s event s' h hrespects hstep
    cases event with
    | edit c new =>
        simp only [machine, step, Option.ite_none_right_eq_some, Option.some.injEq] at hstep
        obtain ⟨_, rfl⟩ := hstep
        exact h
    | sync c env status faults =>
        simp only [machine, step, Option.ite_none_right_eq_some, Option.some.injEq] at hstep
        obtain ⟨⟨hc, hcaches⟩, rfl⟩ := hstep
        exact syncRun_preserves (AllHeld holder)
          (AllHeld.serve hrespects hc fun cached hitem => h cached (hcaches.1.2 cached hitem)) h
    | status key status =>
        simp only [machine, step, Option.map_eq_some_iff] at hstep
        obtain ⟨set, hget, rfl⟩ := hstep
        intro other hother
        rcases List.mem_cons.mp hother with rfl | hother
        · exact (h set (ObjectStore.mem_history_of_get hget)).congr rfl rfl
        · exact h other hother

end Clusters

/-- Isolation: where no two clusters ever have pools of the same resource name,
every StatefulSet that a `Sync` of a cluster updates or deletes has that cluster
as its controller, in every run from an empty namespace on. -/
theorem sync_targets_own_statefulSets {holder : String × String → String} {s : Clusters}
    (hreach : Clusters.machine.Reachable (Clusters.noCollision holder) s)
    (hrespects : s.Respects holder) {c : Cluster} (hc : c ∈ s.clusters) {env : Environment}
    {status : ElasticsearchClusterStatus} {faults : List (Option Fault)}
    (hcaches : World.CachesOf s.api env.state) {met : ApiServer} {request : Request}
    (hcall : (met, request) ∈ (s.world c status).syncCalls env faults)
    {key : String × String} (htarget : Targets request key) {stored : StatefulSet}
    (hstored : met.statefulSets.get key = some stored) :
    isControlledBy stored c = true := by
  have hall := Clusters.allHeld_of_reachable hreach
  have hcached : ∀ cached ∈ env.state.statefulSetLister.items, HeldBy holder cached :=
    fun cached hitem => hall cached (hcaches.1.2 cached hitem)
  obtain ⟨hmet, hrequest⟩ := inv_of_mem_syncCalls (Clusters.AllHeld holder) hcall
    (Clusters.AllHeld.serve hrespects hc hcached) hall
  apply (hmet stored (ObjectStore.mem_history_of_get hstored)).isControlledBy_iff.mpr
  rw [ObjectStore.key_of_get hstored]
  cases htarget with
  | update written =>
      cases hrequest with
      | act hchosen hissues =>
          obtain ⟨⟨np, hnp, hkey⟩, _⟩ := written_owners hchosen hissues
          rw [hkey]
          exact hrespects c hc np hnp
  | delete =>
      cases hrequest with
      | @act action _ hchosen hissues =>
          cases action with
          | createNodePool t => cases hissues
          | scale t replicas => cases hissues
          | updateVersion t => cases hissues
      | @collect _ _ set _ _ hlist hrest hcontrolled =>
          -- only what the cluster controls is deleted, so the name is its own
          have hitem : set ∈ env.state.statefulSetLister.items :=
            ((Lister.mem_list hlist).mp (mem_of_mem_unclaimed hrest)).1
          exact (hcached set hitem).isControlledBy_iff.mp hcontrolled

namespace IsolationWitness

/-- A cluster with one pool. -/
def cluster (clusterName uid poolName : String) (replicas : Int) : Cluster :=
  sampleCluster clusterName uid (release 6 1 1) [samplePool poolName replicas [.master, .data]]

/-- The StatefulSet of its pool is es-a-b-c. -/
def short (replicas : Int) : Cluster := cluster "a" "uid-a" "b-c" replicas

/-- The StatefulSet of its pool is es-a-b-c as well, for the pool name c. -/
def long (poolName : String) : Cluster := cluster "a-b" "uid-a-b" poolName 3

def start (poolName : String) : Clusters :=
  { clusters := [short 1, long poolName], api := {} }

def after (poolName : String) (events : List Clusters.Step) : Clusters :=
  (Clusters.machine.exec (start poolName) events).getD (start poolName)

/-- The first cluster is synced. -/
def synced : List Clusters.Step := [.sync (short 1) (World.currentEnv {} []) {} []]

/-- And then scaled. -/
def scaled : List Clusters.Step := synced ++ [.edit (short 1) (short 2)]

def env (s : Clusters) : Environment := World.currentEnv s.api []

/-- The StatefulSet es-a-b-c as it is stored. -/
def storedSet (s : Clusters) : StatefulSet :=
  (s.api.statefulSets.get (setKey (short 1) "b-c")).getD {}

/-- All names but es-a-b-c are left to the second cluster. -/
def holder (key : String × String) : String :=
  if key = setKey (short 1) "b-c" then "uid-a" else "uid-a-b"

theorem start_created {poolName : String}
    (hvalid : ∀ c ∈ (start poolName).clusters, validateElasticsearchCluster c = .ok []) :
    (start poolName).Created := by
  have hnames : ["a", "a-b"].Nodup := by decide
  have huids : ["uid-a", "uid-a-b"].Nodup := by decide
  have hdefault : ∀ c ∈ (start poolName).clusters, c.metadata.namespaceName = "default" := by
    simp [start, short, long, cluster, sampleCluster]
  refine ⟨hvalid, hnames, huids, ?_, rfl, rfl⟩
  intro c hc c' hc'
  rw [hdefault c hc, hdefault c' hc']

theorem reachable {ok : Clusters → Clusters.Step → Prop} {poolName : String}
    {events : List Clusters.Step} (hcreated : (start poolName).Created)
    (hmeets : Clusters.machine.Meets ok (start poolName) events)
    (henabled : (Clusters.machine.exec (start poolName) events).isSome = true) :
    Clusters.machine.Reachable ok (after poolName events) := by
  unfold after
  exact Machine.Reachable.getD_exec (.start hcreated) hmeets henabled

/-- With the pool of the second cluster named d, the first one scales its own
StatefulSet. -/
theorem sync_targets_own_statefulSets_scale :
    isControlledBy (storedSet (after "d" scaled)) (short 2) = true := by
  have hcreated : (start "d").Created := start_created (by decide +kernel)
  have hfacts : Clusters.machine.Meets (Clusters.noCollision holder) (start "d") scaled ∧
      (Clusters.machine.exec (start "d") scaled).isSome = true ∧
      (after "d" scaled).Respects holder ∧ short 2 ∈ (after "d" scaled).clusters ∧
      World.CachesOf (after "d" scaled).api (env (after "d" scaled)).state ∧
      (some (storedSet (after "d" scaled)),
        Request.updateStatefulSet ((storedSet (after "d" scaled)).withReplicas 2)) ∈
        ((((after "d" scaled).world (short 2) {}).syncCalls (env (after "d" scaled)) []).map
          fun call => (call.1.statefulSets.get (setKey (short 1) "b-c"), call.2)) ∧
      Resource.key ((storedSet (after "d" scaled)).withReplicas 2) =
        setKey (short 1) "b-c" := by
    decide +kernel
  obtain ⟨hmeets, henabled, hrespects, hmem, hcaches, hcall, hkey⟩ := hfacts
  obtain ⟨⟨met, request⟩, hcall, hmet⟩ := List.mem_map.mp hcall
  obtain ⟨hget, hrequest⟩ := Prod.mk.inj hmet
  subst hrequest
  refine sync_targets_own_statefulSets
    (reachable hcreated hmeets henabled) hrespects hmem hcaches hcall (.update _) ?_
  rw [hkey]
  exact hget

/-- Two accepted clusters whose pools have the same resource name: the `Sync` of
one scales the StatefulSet that the other controls. -/
theorem sync_targets_foreign_statefulSet :
    Clusters.machine.Reachable Machine.anyStep (after "c" synced) ∧
      (start "c").Created ∧ long "c" ∈ (after "c" synced).clusters ∧
      World.CachesOf (after "c" synced).api (env (after "c" synced)).state ∧
      (∃ call ∈ ((after "c" synced).world (long "c") {}).syncCalls (env (after "c" synced)) [],
        call.2 = .updateStatefulSet ((storedSet (after "c" synced)).withReplicas 3) ∧
        call.1.statefulSets.get (setKey (long "c") "c") =
          some (storedSet (after "c" synced))) ∧
      Resource.key ((storedSet (after "c" synced)).withReplicas 3) = setKey (long "c") "c" ∧
      isControlledBy (storedSet (after "c" synced)) (short 1) = true ∧
      isControlledBy (storedSet (after "c" synced)) (long "c") = false := by
  have hcreated : (start "c").Created := start_created (by decide +kernel)
  have hfacts : (Clusters.machine.exec (start "c") synced).isSome = true ∧
      long "c" ∈ (after "c" synced).clusters ∧
      World.CachesOf (after "c" synced).api (env (after "c" synced)).state ∧
      (∃ call ∈ ((after "c" synced).world (long "c") {}).syncCalls (env (after "c" synced)) [],
        call.2 = .updateStatefulSet ((storedSet (after "c" synced)).withReplicas 3) ∧
        call.1.statefulSets.get (setKey (long "c") "c") =
          some (storedSet (after "c" synced))) ∧
      Resource.key ((storedSet (after "c" synced)).withReplicas 3) = setKey (long "c") "c" ∧
      isControlledBy (storedSet (after "c" synced)) (short 1) = true ∧
      isControlledBy (storedSet (after "c" synced)) (long "c") = false := by decide +kernel
  obtain ⟨henabled, hrest⟩ := hfacts
  exact ⟨reachable hcreated (Clusters.machine.meets_anyStep _ _) henabled, hcreated, hrest⟩

end IsolationWitness

end Elasticsearch

end Navigator
