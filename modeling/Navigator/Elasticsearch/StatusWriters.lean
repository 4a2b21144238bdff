/-
The writers of an Elasticsearch cluster's status: the pilots, which post the
health, and the controller, which posts the rest.  Each replaces the whole status
with one that it derived earlier from a cached copy.
-/
import Navigator.Base.Machine
import Navigator.Elasticsearch.ReportedStatus
import Navigator.Field

namespace Navigator

open ControlLoop

namespace Elasticsearch

def parseHealth (s : String) : Option ElasticsearchClusterHealth :=
  match toLower s with
  | "green" => some .green
  | "yellow" => some .yellow
  | "red" => some .red
  | _ => none

/-- What `updateElasticsearchClusterStatus` of a pilot posts, when Elasticsearch
answers with the health given. -/
def withHealth (esc : Cluster) (currentHealth : String) : Cluster :=
  { esc with status := { esc.status with health := parseHealth currentHealth } }

/-- What `updateStatus` of the controller posts. -/
def withReportedStatus (c : Cluster) (status : ElasticsearchClusterStatus) : Cluster :=
  { c with status := status }

/-- `PrepareForUpdate` of the status strategy. -/
def prepareForStatusUpdate (new old : Cluster) : Cluster :=
  { new with spec := old.spec }

/-- An update of the status subresource. -/
def updateStatus (clusters : ObjectStore Cluster) (new : Cluster) :
    Except Refusal (ObjectStore Cluster) :=
  match clusters.get (Resource.key new) with
  | none => .error .notFound
  | some old => clusters.update (prepareForStatusUpdate new old)

inductive Writer where
  | pilot (name : String)
  | controller
deriving DecidableEq

/-- A write of the status that is on its way: who makes it, the copy it was
derived from, and the object it carries. -/
structure StatusUpdate where
  writer : Writer
  read : Cluster
  object : Cluster
deriving DecidableEq

/-- The stored clusters, and the writes that are prepared and not answered. -/
structure StatusWorld where
  clusters : ObjectStore Cluster
  prepared : List StatusUpdate := []

namespace StatusWorld

/-- A step: a write of someone else, a writer that derives a status from a copy
it holds, or a prepared write that reaches the server. -/
inductive Step where
  | create (c : Cluster)
  | update (c : Cluster)
  | delete (key : String × String)
  | pilot (name : String) (cached : Cluster) (currentHealth : String)
  | controller (env : Environment) (later : State) (api : ApiServer) (cached : Cluster)
  | post (write : StatusUpdate)

def withClusters (w : StatusWorld) (outcome : Except Refusal (ObjectStore Cluster)) :
    StatusWorld :=
  match outcome with
  | .ok clusters => { w with clusters := clusters }
  | .error _ => w

def prepare (w : StatusWorld) (write : StatusUpdate) : StatusWorld :=
  { w with prepared := write :: w.prepared }

def step (w : StatusWorld) : Step → Option StatusWorld
  | .create c => some (w.withClusters (w.clusters.create c))
  | .update c => some (w.withClusters (w.clusters.update c))
  | .delete key => some (w.withClusters (w.clusters.delete key))
  | .pilot name cached currentHealth =>
      if cached ∈ w.clusters.history then
        some (w.prepare ⟨.pilot name, cached, withHealth cached currentHealth⟩)
      else none
  | .controller env later api cached =>
      if cached ∈ w.clusters.history then
        match ((syncDeferring env later cached).run ApiServer.serve api).1 with
        | .ok (status, _) => some (w.prepare ⟨.controller, cached, withReportedStatus cached status⟩)
        | .error _ => none
      else none
  | .post write =>
      if write ∈ w.prepared then
        some { w.withClusters (updateStatus w.clusters write.object) with
          prepared := w.prepared.erase write }
      else none

def machine : Machine StatusWorld Step where
  init w := w.prepared = []
  step := step

/-- The fields that a writer must leave as they are. -/
def Keeps (old new : ElasticsearchClusterStatus) : Writer → Prop
  | .pilot _ => new.nodePools = old.nodePools ∧ new.conditions = old.conditions
  | .controller => new.health = old.health

/-- The write was derived from a copy that the server once held. -/
structure Derived (clusters : ObjectStore Cluster) (write : StatusUpdate) : Prop where
  read : write.read ∈ clusters.history
  metadata : write.object.metadata = write.read.metadata
  keeps : Keeps write.read.status write.object.status write.writer

theorem Derived.mono {clusters clusters' : ObjectStore Cluster} {write : StatusUpdate}
    (h : Derived clusters write) (hsubset : clusters.history ⊆ clusters'.history) :
    Derived clusters' write :=
  ⟨hsubset h.read, h.metadata, h.keeps⟩

end StatusWorld

open StatusWorld

/-- `Sync` has no part in the health. -/
theorem syncDeferring_health {env : Environment} {later : State} {c : Cluster} {api : ApiServer}
    {status : ElasticsearchClusterStatus} {err : Option Err}
    (hrun : ((syncDeferring env later c).run ApiServer.serve api).1 = .ok (status, err)) :
    status.health = c.status.health := by
  cases hpaused : c.spec.navigatorClusterConfig.paused with
  | true =>
      have hskip : (withPausedConditions env.now c).spec.navigatorClusterConfig.paused = true :=
        hpaused
      unfold syncDeferring at hrun
      simp only [if_pos hskip] at hrun
      cases hrun
      rfl
  | false =>
      obtain ⟨rfl, _⟩ := syncDeferring_run_eq_ok hpaused hrun
      unfold returnedStatus
      split
      · rfl
      · rfl

/-- An accepted update of the status replaces the copy that the write was
derived from, and leaves the spec alone. -/
theorem StatusWorld.Derived.accepted {clusters clusters' : ObjectStore Cluster} {write : StatusUpdate}
    (h : Derived clusters write) (haccepted : updateStatus clusters write.object = .ok clusters') :
    clusters.get (Resource.key write.object) = some write.read ∧
      clusters' = clusters.put (prepareForStatusUpdate write.object write.read) := by
  unfold updateStatus at haccepted
  split at haccepted
  · cases haccepted
  · rename_i old hold
    have hversion : Resource.version (prepareForStatusUpdate write.object old) =
        Resource.version write.read := congrArg ObjectMeta.resourceVersion h.metadata
    obtain ⟨hget, hput⟩ := ObjectStore.stored_eq_cached_of_update h.read hversion haccepted
    have hsame : old = write.read := Option.some.inj (hold.symm.trans hget)
    subst hsame
    exact ⟨hold, hput⟩

theorem history_subset_withClusters {w : StatusWorld}
    {outcome : Except Refusal (ObjectStore Cluster)}
    (houtcome : ∀ clusters, outcome = .ok clusters → w.clusters.history ⊆ clusters.history) :
    w.clusters.history ⊆ (w.withClusters outcome).clusters.history := by
  unfold withClusters
  split
  · exact houtcome _ rfl
  · exact List.Subset.refl _

theorem prepared_withClusters (w : StatusWorld) (outcome : Except Refusal (ObjectStore Cluster)) :
    (w.withClusters outcome).prepared = w.prepared := by
  unfold withClusters
  split
  · rfl
  · rfl

theorem history_subset_put (clusters : ObjectStore Cluster) (c : Cluster) :
    clusters.history ⊆ (clusters.put c).history :=
  List.subset_cons_self _ _

/-- No answer of the server shortens the history. -/
theorem history_subset_updateStatus {clusters clusters' : ObjectStore Cluster} {c : Cluster}
    (h : updateStatus clusters c = .ok clusters') : clusters.history ⊆ clusters'.history := by
  unfold updateStatus at h
  split at h
  · cases h
  · rw [(ObjectStore.update_eq_ok_iff.mp h).2]
    exact history_subset_put clusters _

/-- One step: what is prepared stays derived from copies of the server's. -/
theorem step_derived {w w' : StatusWorld} {event : Step} (h : w.step event = some w')
    (hderived : ∀ write ∈ w.prepared, Derived w.clusters write) :
    ∀ write ∈ w'.prepared, Derived w'.clusters write := by
  -- a write of someone else
  have hother : ∀ outcome : Except Refusal (ObjectStore Cluster),
      (∀ clusters, outcome = .ok clusters → w.clusters.history ⊆ clusters.history) →
        ∀ write ∈ (w.withClusters outcome).prepared,
          Derived (w.withClusters outcome).clusters write := by
    intro outcome houtcome write hwrite
    rw [prepared_withClusters] at hwrite
    exact (hderived write hwrite).mono (history_subset_withClusters houtcome)
  -- a status that is derived now
  have hprepare : ∀ write, Derived w.clusters write →
      ∀ other ∈ (w.prepare write).prepared, Derived (w.prepare write).clusters other := by
    intro write hwrite other hmem
    rcases List.mem_cons.mp hmem with rfl | hmem
    · exact hwrite
    · exact hderived other hmem
  cases event with
  | create c =>
      cases h
      refine hother _ fun clusters hclusters => ?_
      rw [(ObjectStore.create_eq_ok_iff.mp hclusters).2]
      exact history_subset_put w.clusters c
  | update c =>
      cases h
      refine hother _ fun clusters hclusters => ?_
      rw [(ObjectStore.update_eq_ok_iff.mp hclusters).2]
      exact history_subset_put w.clusters c
  | delete key =>
      cases h
      refine hother _ fun clusters hclusters => ?_
      rw [(ObjectStore.delete_eq_ok_iff.mp hclusters).2]
      exact List.Subset.refl _
  | pilot name cached currentHealth =>
      simp only [step, Option.ite_none_right_eq_some, Option.some.injEq] at h
      obtain ⟨hcached, rfl⟩ := h
      exact hprepare _ ⟨hcached, rfl, rfl, rfl⟩
  | controller env later api cached =>
      simp only [step, Option.ite_none_right_eq_some] at h
      obtain ⟨hcached, h⟩ := h
      split at h
      · rename_i status err hrun
        cases h
        exact hprepare _ ⟨hcached, rfl, syncDeferring_health hrun⟩
      · cases h
  | post write =>
      simp only [step, Option.ite_none_right_eq_some, Option.some.injEq] at h
      obtain ⟨_, rfl⟩ := h
      intro other hmem
      exact (hderived other (List.mem_of_mem_erase hmem)).mono
        (history_subset_withClusters fun clusters => history_subset_updateStatus)

/-- No lost update: in every state reached, a prepared write of the status that
the server accepts keeps the stored spec and the stored fields of the other
writer, and touches no other cluster. -/
theorem status_write_keeps {w : StatusWorld} (hreach : machine.Reachable Machine.anyStep w)
    {write : StatusUpdate} (hwrite : write ∈ w.prepared) {clusters : ObjectStore Cluster}
    (haccepted : updateStatus w.clusters write.object = .ok clusters) :
    ∃ stored written, w.clusters.get (Resource.key write.object) = some stored ∧
      clusters.get (Resource.key write.object) = some written ∧
      Keeps stored.status written.status write.writer ∧ written.spec = stored.spec ∧
      ∀ key ≠ Resource.key write.object, clusters.get key = w.clusters.get key := by
  have hderived : ∀ write ∈ w.prepared, Derived w.clusters write := by
    refine hreach.invariant (fun w => ∀ write ∈ w.prepared, Derived w.clusters write) ?_ ?_
    · intro start hstart write hmem
      rw [show start.prepared = [] from hstart] at hmem
      exact absurd hmem List.not_mem_nil
    · intro state event next hstate _ hstep
      exact step_derived hstep hstate
  obtain ⟨hstored, rfl⟩ := (hderived write hwrite).accepted haccepted
  refine ⟨write.read, Resource.withVersion (prepareForStatusUpdate write.object write.read)
    w.clusters.nextVersion, hstored, ?_, (hderived write hwrite).keeps, rfl, ?_⟩
  · rw [ObjectStore.get_put]
    exact if_pos rfl
  · intro key hkey
    rw [ObjectStore.get_put]
    exact if_neg hkey

namespace StatusWritersWitness

def pool : NodePool := samplePool "all" 1 [.master, .data]

def cluster : Cluster := sampleCluster "db" "uid-db" (release 6 1 1) [pool]

def key : String × String := ("default", "db")

def after (events : List Step) : StatusWorld :=
  (machine.exec { clusters := .empty } events).getD { clusters := .empty }

/-- The stored cluster. -/
def stored (w : StatusWorld) : Cluster := (w.clusters.get key).getD cluster

/-- Nothing is cached yet, so the controller creates what the cluster needs. -/
def env : Environment where
  state :=
    { statefulSetLister := { items := [] }
      configMapLister := { items := [] }
      pilotLister := { items := [] }
      podLister := { items := [] } }

/-- The pilot and the controller derive a status from the same copy. -/
def pilotWrite : StatusUpdate :=
  ⟨.pilot "es-db-all-0", stored (after [.create cluster]),
    withHealth (stored (after [.create cluster])) "Green"⟩

def events : List Step :=
  [.create cluster, .pilot "es-db-all-0" (stored (after [.create cluster])) "Green",
    .controller env env.state {} (stored (after [.create cluster]))]

/-- Once the pilot's write is accepted, that of the controller is refused, and it
derives another one. -/
def later : List Step :=
  events ++ [.post pilotWrite,
    .controller env env.state {} (stored (after (events ++ [.post pilotWrite])))]

/-- The write that the controller prepared last. -/
def controllerWrite : StatusUpdate := (after later).prepared.headD pilotWrite

theorem status_write_keeps_health :
    controllerWrite.writer = .controller ∧ (stored (after later)).status.health = some .green ∧
      ∃ old written, (after later).clusters.get (Resource.key controllerWrite.object) = some old ∧
        ((updateStatus (after later).clusters controllerWrite.object).toOption.bind fun clusters =>
          clusters.get (Resource.key controllerWrite.object)) = some written ∧
        Keeps old.status written.status controllerWrite.writer ∧ written.spec = old.spec := by
  have hfacts : (machine.exec { clusters := .empty } later).isSome = true ∧
      controllerWrite.writer = .controller ∧
      (stored (after later)).status.health = some .green ∧
      controllerWrite ∈ (after later).prepared ∧
      (updateStatus (after later).clusters controllerWrite.object).toOption.isSome = true := by
    decide +kernel
  obtain ⟨henabled, hwriter, hhealth, hprepared, haccepted⟩ := hfacts
  have hreach : machine.Reachable Machine.anyStep (after later) :=
    Machine.Reachable.getD_exec (.start rfl) (machine.meets_anyStep _ _) henabled
  cases hupdate : updateStatus (after later).clusters controllerWrite.object with
  | error refusal =>
      rw [hupdate] at haccepted
      cases haccepted
  | ok clusters =>
      obtain ⟨old, written, hold, hwritten, hkeeps, hspec, _⟩ :=
        status_write_keeps hreach hprepared hupdate
      exact ⟨hwriter, hhealth, old, written, hold, hwritten, hkeeps, hspec⟩

end StatusWritersWitness

end Elasticsearch

end Navigator
