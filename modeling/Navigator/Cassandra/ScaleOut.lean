/-
Runs of one Cassandra cluster: any edits of its spec, Syncs that may see an old
version of it and stale caches, status changes of StatefulSets and failing
writes.  Whatever the order, Navigator creates StatefulSets without replicas
and afterwards only adds one replica at a time.
-/
import Navigator.Base.Machine
import Navigator.Cassandra.ClusterControl

namespace Navigator

open ControlLoop

namespace Cassandra

/-- The numbers of the spec fit their Go types. -/
def WellTyped (spec : CassandraClusterSpec) : Prop :=
  ∀ np ∈ spec.nodePools, ∀ replicas ∈ np.replicas, Int32Range replicas

instance (spec : CassandraClusterSpec) : Decidable (WellTyped spec) :=
  inferInstanceAs (Decidable (∀ np ∈ spec.nodePools, ∀ replicas ∈ np.replicas,
    Int32Range replicas))

/-- The object is still the same one: an edit keeps name, namespace and UID. -/
def SameIdentity (c c' : Cluster) : Prop :=
  c'.metadata.name = c.metadata.name ∧
    c'.metadata.namespaceName = c.metadata.namespaceName ∧ c'.metadata.uid = c.metadata.uid

instance (c c' : Cluster) : Decidable (SameIdentity c c') :=
  inferInstanceAs (Decidable (_ ∧ _))

def withStatus (c : Cluster) (status : CassandraClusterStatus) : Cluster :=
  { c with status := status }

/-- The cluster, the versions of it that a cache may still show, and the stores. -/
structure World where
  cluster : Cluster
  past : List Cluster := []
  api : ApiServer
deriving DecidableEq

namespace World

/-- A step: an edit of the cluster, a `Sync` of the version seen with any status,
on the caches and with the faults given, or a status change of a StatefulSet. -/
inductive Step where
  | edit (new : Cluster)
  | sync (seen : Cluster) (status : CassandraClusterStatus) (env : Environment)
      (faults : List (Option Fault))
  | status (key : String × String) (status : StatefulSetStatus)

/-- The outcome of a `Sync`. -/
def syncRun (w : World) (seen : Cluster) (status : CassandraClusterStatus) (env : Environment)
    (faults : List (Option Fault)) :
    Except Err (CassandraClusterStatus × Option Err) × ApiServer :=
  (Cassandra.sync env (withStatus seen status)).run ApiServer.serve
    { w.api with faults := faults }

/-- The requests of a `Sync`, with what each one meets. -/
def syncCalls (w : World) (seen : Cluster) (status : CassandraClusterStatus)
    (env : Environment) (faults : List (Option Fault)) : List (ApiServer × Request) :=
  (Cassandra.sync env (withStatus seen status)).calls ApiServer.serve
    { w.api with faults := faults }

/-- What a `Sync` may see: any version of the cluster, and StatefulSets that the
API server holds or once held. -/
def Sees (w : World) (seen : Cluster) (env : Environment) : Prop :=
  seen ∈ w.cluster :: w.past ∧
    w.api.statefulSets.Cache env.state.statefulSetLister.items

instance (w : World) (seen : Cluster) (env : Environment) : Decidable (w.Sees seen env) :=
  inferInstanceAs (Decidable (_ ∧ _))

def step (w : World) : Step → Option World
  | .edit new =>
      if SameIdentity w.cluster new ∧ WellTyped new.spec then
        some { w with cluster := new, past := w.cluster :: w.past }
      else none
  | .sync seen status env faults =>
      if w.Sees seen env then some { w with api := (w.syncRun seen status env faults).2 }
      else none
  | .status key status =>
      (w.api.statefulSets.get key).map fun set =>
        { w with api := { w.api with
            statefulSets := w.api.statefulSets.put { set with status := status } } }

/-- Every replica count fits its Go type. -/
structure Typed (w : World) : Prop where
  specs : ∀ c ∈ w.cluster :: w.past, WellTyped c.spec
  sets : ∀ set ∈ w.api.statefulSets.history, ∀ replicas ∈ set.spec.replicas, Int32Range replicas

/-- Runs start with any StatefulSets there are. -/
def machine : Machine World Step where
  init := Typed
  step := step

/-- What a step can do. -/
theorem step_cases {w w' : World} {event : Step} (h : w.step event = some w') :
    (∃ new, event = .edit new ∧ SameIdentity w.cluster new ∧ WellTyped new.spec ∧
      w' = { w with cluster := new, past := w.cluster :: w.past }) ∨
    (∃ seen status env faults, event = .sync seen status env faults ∧ w.Sees seen env ∧
      w' = { w with api := (w.syncRun seen status env faults).2 }) ∨
    ∃ key status set, event = .status key status ∧ w.api.statefulSets.get key = some set ∧
      w' = { w with api := { w.api with
        statefulSets := w.api.statefulSets.put { set with status := status } } } := by
  cases event with
  | edit new =>
      simp only [step] at h
      split at h
      · rename_i hguard
        cases h
        exact Or.inl ⟨new, rfl, hguard.1, hguard.2, rfl⟩
      · cases h
  | sync seen status env faults =>
      simp only [step] at h
      split at h
      · rename_i hsees
        cases h
        exact Or.inr (Or.inl ⟨seen, status, env, faults, rfl, hsees, rfl⟩)
      · cases h
  | status key status =>
      simp only [step, Option.map_eq_some_iff] at h
      obtain ⟨set, hget, rfl⟩ := h
      exact Or.inr (Or.inr ⟨key, status, set, rfl, hget, rfl⟩)

end World

/-- Invariant rule for a `Sync`: what each of its requests preserves, it
preserves. -/
theorem syncRun_preserves (Inv : ApiServer → Prop) {w : World} {seen : Cluster}
    {status : CassandraClusterStatus} {env : Environment} {faults : List (Option Fault)}
    (hserve : ∀ api request, Inv api →
      SyncRequest env.state (withPausedConditions env.now (withStatus seen status)) request →
        Inv (api.serve request).2)
    (hstate : Inv { w.api with faults := faults }) : Inv (w.syncRun seen status env faults).2 :=
  Prog.run_preserves Inv hserve (sync_all env _) hstate

/-- The same rule for the states in between. -/
theorem inv_of_mem_syncCalls (Inv : ApiServer → Prop) {w : World} {seen : Cluster}
    {status : CassandraClusterStatus} {env : Environment} {faults : List (Option Fault)}
    {met : ApiServer} {request : Request}
    (hcall : (met, request) ∈ w.syncCalls seen status env faults)
    (hserve : ∀ api request, Inv api →
      SyncRequest env.state (withPausedConditions env.now (withStatus seen status)) request →
        Inv (api.serve request).2)
    (hstate : Inv { w.api with faults := faults }) :
    Inv met ∧
      SyncRequest env.state (withPausedConditions env.now (withStatus seen status)) request :=
  Prog.inv_of_mem_calls Inv hserve (sync_all env _) hstate hcall

/-- The StatefulSets that a `Sync` writes have a replica count of their Go type. -/
theorem SyncRequest.typed {state : State} {c : Cluster} {request : Request}
    (h : SyncRequest state c request) {set : StatefulSet} {version : Nat}
    (hwrites : ApiServer.WritesSet request set) :
    ∀ replicas ∈ (Resource.withVersion set version).spec.replicas, Int32Range replicas := by
  intro replicas hreplicas
  change replicas ∈ set.spec.replicas at hreplicas
  cases h with
  | event => cases hwrites
  | create counted pool missing built =>
      cases hwrites
      obtain ⟨_, _, _, _, hzero, _⟩ := statefulSetForCluster_eq_ok built
      rw [hzero] at hreplicas
      cases hreplicas
      exact ⟨by omega, by omega⟩
  | grow =>
      cases hwrites
      cases hreplicas
      exact int32_range _

namespace World

theorem typed_syncRun {w : World} (htyped : w.Typed) {seen : Cluster}
    {status : CassandraClusterStatus} {env : Environment} {faults : List (Option Fault)} :
    ∀ set ∈ (w.syncRun seen status env faults).2.statefulSets.history,
      ∀ replicas ∈ set.spec.replicas, Int32Range replicas := by
  apply syncRun_preserves fun api => ∀ set ∈ api.statefulSets.history,
    ∀ replicas ∈ set.spec.replicas, Int32Range replicas
  · intro api request hapi hrequest
    exact ApiServer.serve_history _ (fun _ _ hwrites => hrequest.typed hwrites) hapi
  · exact htyped.sets

theorem typed_of_reachable {ok : World → Step → Prop} {w : World}
    (hreach : machine.Reachable ok w) : w.Typed := by
  apply hreach.invariant Typed
  · exact fun _ h => h
  · intro w event w' htyped _ hstep
    rcases step_cases hstep with ⟨new, _, _, hnew, rfl⟩ | ⟨seen, status, env, faults, _, _, rfl⟩ |
      ⟨key, status, set, _, hget, rfl⟩
    · refine ⟨?_, htyped.sets⟩
      intro c hc
      rcases List.mem_cons.mp hc with rfl | hc
      · exact hnew
      · exact htyped.specs c hc
    · exact ⟨htyped.specs, typed_syncRun htyped⟩
    · refine ⟨htyped.specs, ?_⟩
      intro other hother
      rcases List.mem_cons.mp hother with rfl | hother
      · exact htyped.sets set (ObjectStore.mem_history_of_get hget)
      · exact htyped.sets other hother

end World

/-- How a request of a `Sync` of `c` may change what is stored under a key: not
at all, from nothing to a StatefulSet without replicas, or by one replica more,
where all replicas were ready and fewer than the pool of `c` asks for. -/
inductive Change (c : Cluster) (key : String × String) :
    Option StatefulSet → Option StatefulSet → Prop where
  | unchanged (stored : Option StatefulSet) : Change c key stored stored
  | created {set : StatefulSet} (replicas : set.spec.replicas = some 0) :
      Change c key none (some set)
  | grown {old new : StatefulSet} {np : NodePool} {current desired : Int}
      (pool : np ∈ c.spec.nodePools) (named : key = setKey c np.name)
      (replicas : old.spec.replicas = some current)
      (ready : old.status.readyReplicas = current) (wanted : np.replicas = some desired)
      (fewer : current < desired) (next : new.spec.replicas = some (current + 1)) :
      Change c key (some old) (some new)

/-- The status of the cluster does not matter. -/
theorem Change.of_withStatus {c : Cluster} {key : String × String}
    {old new : Option StatefulSet} {status : CassandraClusterStatus}
    (h : Change (withStatus c status) key old new) : Change c key old new := by
  cases h with
  | unchanged => exact .unchanged _
  | created replicas => exact .created replicas
  | grown pool named replicas ready wanted fewer next =>
      exact .grown pool named replicas ready wanted fewer next

/-- What a request of a `Sync` does when it is performed on stores that hold or
held what the caches show. -/
theorem SyncRequest.change {state : State} {c : Cluster} {request : Request}
    (h : SyncRequest state c request) {api api' : ApiServer}
    (heffect : ApiServer.Effect api request api') (htyped : WellTyped c.spec)
    (hcached : ∀ set ∈ state.statefulSetLister.items, set ∈ api.statefulSets.history)
    (hsets : ∀ set ∈ api.statefulSets.history,
      ∀ replicas ∈ set.spec.replicas, Int32Range replicas) (key : String × String) :
    Change c key (api.statefulSets.get key) (api'.statefulSets.get key) := by
  cases h with
  | event =>
      cases heffect
      exact .unchanged _
  | @create statuses np set counted pool missing built =>
      cases heffect with
      | createStatefulSet fresh =>
          simp only [ObjectStore.get_put]
          by_cases hkey : key = Resource.key set
          · obtain ⟨_, _, _, _, hzero, _⟩ := statefulSetForCluster_eq_ok built
            rw [if_pos hkey, hkey, fresh]
            exact .created hzero
          · rw [if_neg hkey]
            exact .unchanged _
  | @grow statuses np set current desired counted chosen cached replicas wanted fewer ready =>
      cases heffect with
      | @updateStatefulSet _ stored found unchanged =>
          simp only [ObjectStore.get_put]
          by_cases hkey : key = Resource.key (grown set current)
          · obtain ⟨hitem, hname⟩ := Lister.get_ok cached
            have hset : set ∈ api.statefulSets.history := hcached set hitem
            -- the cached StatefulSet has the version of the stored one
            have hsame : stored = set := api.statefulSets.history_unique stored
              (ObjectStore.mem_history_of_get found) set hset unchanged.symm
            have hpool : np ∈ (withNodePoolStatuses c statuses).spec.nodePools :=
              mem_of_nextAction_scaleOut chosen
            have hlow := hsets set hset current replicas
            have hhigh := htyped np hpool desired wanted
            have hnext : int32 (current + 1) = current + 1 :=
              int32_of_range (by have := hlow.1; omega) (by have := hhigh.2; omega)
            rw [if_pos hkey, hkey, found, hsame]
            refine .grown hpool ?_ replicas ready wanted fewer (congrArg some hnext)
            exact hname
          · rw [if_neg hkey]
            exact .unchanged _

/-- The scale-out discipline: in every run, whatever a request of a `Sync` meets
and whether or not the caller learns of its outcome, it leaves every StatefulSet
alone, creates one without replicas, or adds one replica to one whose replicas
are all ready and fewer than the pool of the cluster seen asks for. -/
theorem sync_changes_by_one {ok : World → World.Step → Prop} {w : World}
    (hreach : World.machine.Reachable ok w) {seen : Cluster} {env : Environment}
    (hsees : w.Sees seen env) {status : CassandraClusterStatus}
    {faults : List (Option Fault)} {met : ApiServer} {request : Request}
    (hcall : (met, request) ∈ w.syncCalls seen status env faults) (key : String × String) :
    Change seen key (met.statefulSets.get key) ((met.serve request).2.statefulSets.get key) := by
  have htyped := World.typed_of_reachable hreach
  -- the histories only grow in a `Sync`, so what the caches show stays in them
  obtain ⟨⟨hcached, hsets⟩, hrequest⟩ := inv_of_mem_syncCalls
    (fun api => (∀ set ∈ env.state.statefulSetLister.items, set ∈ api.statefulSets.history) ∧
      ∀ set ∈ api.statefulSets.history, ∀ replicas ∈ set.spec.replicas, Int32Range replicas)
    hcall
    (fun api request hapi hrequest =>
      ⟨fun set hset => ApiServer.serve_history_subset (hapi.1 set hset),
        ApiServer.serve_history _ (fun _ _ hwrites => hrequest.typed hwrites) hapi.2⟩)
    ⟨hsees.2.2, htyped.sets⟩
  obtain ⟨faults', hsame | heffect⟩ := met.serve_cases request
  · rw [hsame]
    exact .unchanged _
  · have hchange := hrequest.change heffect (htyped.specs seen hsees.1) hcached hsets key
    exact Change.of_withStatus hchange

/-- A small concrete cluster, for the witnesses. -/
def sampleCluster (pools : List NodePool) : Cluster where
  metadata := { name := "db", namespaceName := "default", uid := "uid-db" }
  spec :=
    { navigatorClusterConfig :=
        { pilotImage := ⟨"jetstackexperimental/navigator-pilot-cassandra", "latest",
            pullIfNotPresent⟩ }
      nodePools := pools
      version := ⟨"3.11.2", some { segments := [3, 11, 2], si := 3 }⟩ }

def samplePool (poolName : String) (replicas : Int) : NodePool where
  name := poolName
  replicas := some replicas

/-- What a `Sync` reads when the caches show what the server holds. -/
def currentEnv (api : ApiServer) : Environment :=
  { state :=
      { statefulSetLister := { items := api.statefulSets.objects }
        configMapLister := { items := [] }
        pilotLister := { items := [] }
        podLister := { items := [] } } }

theorem current_currentEnv (api : ApiServer) :
    api.statefulSets.Current (currentEnv api).state.statefulSetLister.items :=
  List.Perm.refl _

namespace ScaleOutWitness

def cluster : Cluster := sampleCluster [samplePool "rack-a" 1]

def start : World := { cluster := cluster, api := {} }

/-- After the first `Sync`, which creates the StatefulSet. -/
def created : World :=
  (World.machine.exec start [.sync cluster {} (currentEnv {}) []]).getD start

/-- The second `Sync` adds the first node. -/
theorem sync_changes_by_one_first :
    ∃ met request, (met, request) ∈ created.syncCalls cluster {} (currentEnv created.api) [] ∧
      (met.statefulSets.get (setKey cluster "rack-a")).map (fun set => set.spec.replicas) =
        some (some 0) ∧
      ((met.serve request).2.statefulSets.get (setKey cluster "rack-a")).map
        (fun set => set.spec.replicas) = some (some 1) ∧
      Change cluster (setKey cluster "rack-a") (met.statefulSets.get (setKey cluster "rack-a"))
        ((met.serve request).2.statefulSets.get (setKey cluster "rack-a")) := by
  have htyped : start.Typed := by
    refine ⟨by decide, ?_⟩
    intro set hset
    exact absurd hset List.not_mem_nil
  have hfacts : (World.machine.exec start [.sync cluster {} (currentEnv {}) []]).isSome = true ∧
      created.Sees cluster (currentEnv created.api) ∧
      ∃ call ∈ created.syncCalls cluster {} (currentEnv created.api) [],
        (call.1.statefulSets.get (setKey cluster "rack-a")).map
          (fun set => set.spec.replicas) = some (some 0) ∧
        ((call.1.serve call.2).2.statefulSets.get (setKey cluster "rack-a")).map
          (fun set => set.spec.replicas) = some (some 1) := by
    decide +kernel
  obtain ⟨henabled, hsees, ⟨met, request⟩, hcall, hbefore, hafter⟩ := hfacts
  have hreach : World.machine.Reachable Machine.anyStep created := by
    unfold created
    exact Machine.Reachable.getD_exec (.start htyped) (Machine.meets_anyStep _ _ _) henabled
  exact ⟨met, request, hcall, hbefore, hafter, sync_changes_by_one hreach hsees hcall _⟩

end ScaleOutWitness

end Cassandra

end Navigator
