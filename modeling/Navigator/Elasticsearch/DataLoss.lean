/-
Removal of data nodes.  A scale down waits until the Pilots of the replicas it
removes report no documents; the garbage collection of a dropped node pool does
not.  In a run that drops no data pool, every write of a Sync that removes a
replica of a data pool comes after its Pilot reported no documents.
-/
import Navigator.Accepted
import Navigator.Elasticsearch.Labels
import Navigator.Elasticsearch.PilotLookup
import Navigator.Elasticsearch.World

namespace Navigator

open ControlLoop

namespace Elasticsearch

/-- The StatefulSet was created for a pool with the data role. -/
def HasDataLabel (set : StatefulSet) : Prop :=
  StringMap.get? set.metadata.labels (roleLabel .data) = some "true"

/-- A StatefulSet that belongs to a pool with the data role: it was created for
one, or the spec has one under its name. -/
def HasDataRole (c : Cluster) (set : StatefulSet) : Prop :=
  HasDataLabel set ∨
    ∃ np ∈ c.spec.nodePools, nodePoolResourceName c np = nameOf set ∧ .data ∈ np.roles

/-- The request removes the replica `ordinal` of a stored StatefulSet: by fewer
replicas, or with the whole set.  Kubernetes reads missing replicas as one. -/
inductive RemovesReplica (api : ApiServer) : Request → StatefulSet → Int → Prop where
  | scale {set stored : StatefulSet} {ordinal : Int}
      (found : api.statefulSets.get (Resource.key set) = some stored)
      (unchanged : Resource.version set = Resource.version stored)
      (running : 0 ≤ ordinal ∧ ordinal < stored.spec.replicas.getD 1)
      (removed : set.spec.replicas.getD 1 ≤ ordinal) :
      RemovesReplica api (.updateStatefulSet set) stored ordinal
  | delete {namespaceName name : String} {stored : StatefulSet} {ordinal : Int}
      (found : api.statefulSets.get (namespaceName, name) = some stored)
      (running : 0 ≤ ordinal ∧ ordinal < stored.spec.replicas.getD 1) :
      RemovesReplica api (.deleteStatefulSet namespaceName name) stored ordinal

/-- The Pilot of a replica in the lister, if there is one, has reported that it
holds no documents. -/
def ReplicaDrained (state : State) (set : StatefulSet) (ordinal : Int) : Prop :=
  Scale.Drained (state.pilotLister.items.filter fun p =>
    Resource.key p = (namespaceOf set, pilotNameForStatefulSetReplica (nameOf set) ordinal))

instance (state : State) (set : StatefulSet) (ordinal : Int) :
    Decidable (ReplicaDrained state set ordinal) :=
  inferInstanceAs (Decidable (Scale.Drained _))

/-- What is known of every StatefulSet stored for the cluster: name and label
agree on the pool, the replicas are a count, and the pool of a StatefulSet with
the data label is a data pool of the spec. -/
structure Tracked (c : Cluster) (set : StatefulSet) : Prop where
  pool : ∃ poolName, NamedAfterPool c poolName set ∧
    (HasDataLabel set → ∃ np ∈ c.spec.nodePools, np.name = poolName ∧ .data ∈ np.roles)
  replicas : ∀ n ∈ set.spec.replicas, 0 ≤ n ∧ n < 2 ^ 31

/-- Only the name, the labels and the replicas matter. -/
theorem Tracked.congr {c : Cluster} {set set' : StatefulSet} (h : Tracked c set)
    (hname : nameOf set' = nameOf set) (hlabels : set'.metadata.labels = set.metadata.labels)
    (hreplicas : ∀ n ∈ set'.spec.replicas, 0 ≤ n ∧ n < 2 ^ 31) : Tracked c set' := by
  refine ⟨?_, hreplicas⟩
  rw [HasDataLabel, hlabels]
  simp only [NamedAfterPool, hname, hlabels]
  exact h.pool

@[simp] theorem tracked_withPausedConditions {now : Nat} {c : Cluster} {set : StatefulSet} :
    Tracked (withPausedConditions now c) set ↔ Tracked c set :=
  ⟨fun h => ⟨h.pool, h.replicas⟩, fun h => ⟨h.pool, h.replicas⟩⟩

/-- The pool of a tracked StatefulSet that has the data role is in the spec. -/
theorem Tracked.data_pool {c : Cluster} {set : StatefulSet} (h : Tracked c set)
    (hdata : HasDataRole c set) :
    ∃ np ∈ c.spec.nodePools, nodePoolResourceName c np = nameOf set ∧ .data ∈ np.roles := by
  obtain ⟨poolName, hnamed, hpool⟩ := h.pool
  rcases hdata with hdataLabel | hspec
  · obtain ⟨np, hnp, rfl, hnpData⟩ := hpool hdataLabel
    exact ⟨np, hnp, hnamed.1.symm, hnpData⟩
  · exact hspec

section Write

variable {state : State} {c : Cluster}

/-- Every StatefulSet that a `Sync` writes is tracked, if those of its cache are. -/
theorem tracked_of_writesSet (haccepted : c.Accepted) (htyped : WellTyped c.spec)
    (hcache : ∀ set ∈ state.statefulSetLister.items, Tracked c set)
    {request : Request} (hrequest : SyncRequest state c request) {set : StatefulSet}
    (hwrites : ApiServer.WritesSet request set) : Tracked c set := by
  have hrange : ∀ np ∈ c.spec.nodePools, ∀ n ∈ np.replicas, 0 ≤ n ∧ n < 2 ^ 31 :=
    fun np hnp n hn => ⟨haccepted.nonneg np hnp n hn, (htyped.1 np hnp n hn).2⟩
  cases hrequest with
  | event => cases hwrites
  | ensure => cases hwrites
  | collect => cases hwrites
  | @act action _ hchosen hissues =>
      obtain ⟨hcluster, hpool⟩ := nextAction_target hchosen
      cases action with
      | createNodePool t =>
          cases hissues with
          | event => cases hwrites
          | create hbuilt =>
              cases hwrites
              change t.cluster = c at hcluster
              change t.nodePool ∈ c.spec.nodePools at hpool
              subst hcluster
              obtain ⟨hname, _, hlabels, _, hreplicas⟩ := nodePoolStatefulSet_eq_ok hbuilt
              have hnamed := haccepted.poolNamed _ hpool
              refine ⟨⟨t.nodePool.name, ⟨hname, ?_⟩, ?_⟩, ?_⟩
              · rw [hlabels, podLabels_poolName _ _ hnamed]
              · intro hdata
                rw [HasDataLabel, hlabels, podLabels_data_iff _ _ hnamed] at hdata
                exact ⟨t.nodePool, hpool, rfl, hdata⟩
              · rw [hreplicas]
                exact hrange _ hpool
      | scale t replicas =>
          cases hissues with
          | event => cases hwrites
          | update hscale =>
              cases hwrites
              obtain ⟨hcached, _, _, _⟩ := hscale
              refine (hcache _ (Lister.get_ok hcached).1).congr rfl rfl ?_
              intro n hn
              exact hrange _ hpool n ((nextAction_scale hchosen).trans hn)
      | updateVersion t =>
          cases hissues with
          | event => cases hwrites
          | update hupdate =>
              cases hwrites
              rcases hupdate with ⟨hproceeds, _⟩ | ⟨hproceeds, _, _, _⟩
              · have htracked := hcache _ (Lister.get_ok hproceeds.cached).1
                exact htracked.congr rfl rfl htracked.replicas
              · have htracked := hcache _ (Lister.get_ok hproceeds.cached).1
                exact htracked.congr rfl rfl htracked.replicas

end Write

/-- The invariant of the runs in question. -/
structure DataKept (w : World) : Prop where
  accepted : w.cluster.Accepted
  typed : WellTyped w.cluster.spec
  tracked : ∀ set ∈ w.api.statefulSets.history, Tracked w.cluster set

/-- A `Sync` keeps every StatefulSet tracked, and forgets none. -/
theorem DataKept.serve {w : World} (h : DataKept w) {env : Environment}
    (hcaches : World.CachesOf w.api env.state) (api : ApiServer) (request : Request)
    (hinv : (∀ set ∈ api.statefulSets.history, Tracked w.cluster set) ∧
      ∀ set ∈ w.api.statefulSets.history, set ∈ api.statefulSets.history)
    (hrequest : SyncRequest env.state (withPausedConditions env.now w.cluster) request) :
    (∀ set ∈ (api.serve request).2.statefulSets.history, Tracked w.cluster set) ∧
      ∀ set ∈ w.api.statefulSets.history, set ∈ (api.serve request).2.statefulSets.history := by
  constructor
  · apply ApiServer.serve_history _ _ hinv.1
    intro set version hwrites
    have hcache : ∀ set ∈ env.state.statefulSetLister.items,
        Tracked (withPausedConditions env.now w.cluster) set :=
      fun set hset => tracked_withPausedConditions.mpr (h.tracked set (hcaches.1.2 set hset))
    have hwritten := tracked_withPausedConditions.mp (tracked_of_writesSet
      (accepted_withPausedConditions.mpr h.accepted) h.typed hcache hrequest hwrites)
    exact hwritten.congr rfl rfl hwritten.replicas
  · exact fun set hset => ApiServer.serve_history_subset (hinv.2 set hset)

/-- An edit keeps every data pool that has, or once had, a StatefulSet. -/
def keepsDataPools (w : World) : World.Step → Prop
  | .edit new => ∀ np ∈ w.cluster.spec.nodePools, .data ∈ np.roles →
      (∃ set ∈ w.api.statefulSets.history, nameOf set = nodePoolResourceName w.cluster np) →
        ∃ np' ∈ new.spec.nodePools, np'.name = np.name
  | _ => True

instance (w : World) : (event : World.Step) → Decidable (keepsDataPools w event)
  | .edit new => inferInstanceAs (Decidable (∀ np ∈ w.cluster.spec.nodePools,
      .data ∈ np.roles → (∃ set ∈ w.api.statefulSets.history,
        nameOf set = nodePoolResourceName w.cluster np) →
          ∃ np' ∈ new.spec.nodePools, np'.name = np.name))
  | .sync _ _ => isTrue trivial
  | .status _ _ => isTrue trivial

theorem DataKept.edit {w : World} (h : DataKept w) {new : Cluster}
    (hsame : SameIdentity w.cluster new) (htyped : WellTyped new.spec)
    (hvalid : validateElasticsearchClusterUpdate w.cluster new = .ok [])
    (hkeeps : keepsDataPools w (.edit new)) : DataKept { w with cluster := new } := by
  obtain ⟨haccepted, hroles⟩ := ElasticsearchCluster.accepted_update h.accepted hvalid
  refine ⟨haccepted, htyped, ?_⟩
  intro set hset
  obtain ⟨poolName, hnamed, hpool⟩ := (h.tracked set hset).pool
  refine ⟨⟨poolName, ⟨?_, hnamed.2⟩, ?_⟩, (h.tracked set hset).replicas⟩
  · rw [hnamed.1, resourceBaseName, resourceBaseName, hsame.1]
  · intro hdata
    obtain ⟨np, hnp, rfl, hnpData⟩ := hpool hdata
    obtain ⟨np', hnp', hname'⟩ := hkeeps np hnp hnpData ⟨set, hset, hnamed.1⟩
    exact ⟨np', hnp', hname', hroles np hnp np' hnp' hname' ▸ hnpData⟩

/-- In a run that drops no data pool the invariant holds throughout. -/
theorem dataKept_of_reachable {w : World} (hreach : World.machine.Reachable keepsDataPools w) :
    DataKept w := by
  apply Machine.Reachable.invariant DataKept _ _ hreach
  · intro w hcreated
    obtain ⟨hvalid, htyped, hempty, _⟩ := hcreated
    refine ⟨ElasticsearchCluster.accepted hvalid, htyped, ?_⟩
    intro set hset
    rw [hempty] at hset
    cases hset
  · intro w event w' hinv hkeeps hstep
    rcases World.step_cases hstep with
      ⟨new, rfl, hsame, htyped, hvalid, rfl⟩ | ⟨env, faults, rfl, hcaches, rfl⟩ |
        ⟨key, status, set, rfl, hget, rfl⟩
    · exact hinv.edit hsame htyped hvalid hkeeps
    · have hrun : (∀ set ∈ (w.syncRun env faults).2.statefulSets.history,
          Tracked w.cluster set) ∧ ∀ set ∈ w.api.statefulSets.history,
            set ∈ (w.syncRun env faults).2.statefulSets.history :=
        syncRun_preserves
          (fun api => (∀ set ∈ api.statefulSets.history, Tracked w.cluster set) ∧
            ∀ set ∈ w.api.statefulSets.history, set ∈ api.statefulSets.history)
          (hinv.serve hcaches) ⟨hinv.tracked, fun _ h => h⟩
      exact ⟨hinv.accepted, hinv.typed, hrun.1⟩
    · refine ⟨hinv.accepted, hinv.typed, ?_⟩
      intro other hother
      rcases List.mem_cons.mp hother with rfl | hother
      · have htracked := hinv.tracked set (ObjectStore.mem_history_of_get hget)
        exact htracked.congr rfl rfl htracked.replicas
      · exact hinv.tracked other hother

/-- A scale down that is allowed for a data pool removes drained replicas only. -/
theorem replicaDrained_of_allowed {state : State} {t : Target} {set : StatefulSet}
    {current replicas ordinal : Int} (hns : t.namespaceName ≠ "")
    (hkeys : (state.pilotLister.items.map Resource.key).Nodup)
    (hnamespace : namespaceOf set = t.namespaceName)
    (hcurrent : set.spec.replicas = some current) (hlow : 0 ≤ replicas)
    (hhigh : current < 2 ^ 31) (hordinal : replicas ≤ ordinal ∧ ordinal < current)
    (hdata : .data ∈ t.nodePool.roles)
    (hallowed : Scale.Allowed state t set (int32 (replicas - current))) :
    ReplicaDrained state set ordinal := by
  rw [int32_of_range (by omega) (by omega)] at hallowed
  rcases hallowed with hup | hnoData | ⟨allPilots, toRemove, hall, hremove, hdrained⟩
  · omega
  · rw [Bool.eq_false_iff] at hnoData
    exact absurd (containsElasticsearchRole_iff.mpr hdata) hnoData
  · intro p hp
    obtain ⟨hitem, hkey⟩ := List.mem_filter.mp hp
    have hkey := of_decide_eq_true hkey
    have hmem : p ∈ allPilots := by
      apply mem_pilotsForStatefulSet hall hns hkeys hcurrent ⟨by omega, hordinal.2⟩ hitem
      rw [hkey, hnamespace]
    apply hdrained
    apply mem_determinePilotsToBeRemoved hremove hcurrent
      (int32_of_range (by omega) (by omega)) hordinal
    apply find?_eq_some_of_unique hmem
    · exact decide_eq_true ⟨(congrArg Prod.snd hkey).symm, (congrArg Prod.fst hkey).symm⟩
    · intro q hq hqFound
      have hqFound := of_decide_eq_true hqFound
      apply List.inj_on_of_nodup_map hkeys (pilotsForStatefulSet_subset hall hns hq).1 hitem
      rw [hkey]
      exact Prod.ext hqFound.2.symm hqFound.1.symm

section Removal

variable {state : State} {c : Cluster} {met : ApiServer}

/-- A replica that a chosen action removes from a data pool was drained. -/
theorem replicaDrained_of_act (haccepted : c.Accepted)
    (htracked : ∀ set ∈ met.statefulSets.history, Tracked c set)
    (hcache : ∀ set ∈ state.statefulSetLister.items, set ∈ met.statefulSets.history)
    (hkeys : (state.pilotLister.items.map Resource.key).Nodup) {action : Action}
    (hchosen : nextAction state c = .ok (some action)) {request : Request}
    (hissues : action.Issues state request) {stored : StatefulSet} {ordinal : Int}
    (hremoves : RemovesReplica met request stored ordinal) (hdata : HasDataRole c stored) :
    ReplicaDrained state stored ordinal := by
  -- an update that is accepted was built from what is stored
  have hsame : ∀ cached ∈ state.statefulSetLister.items, ∀ set : StatefulSet,
      Resource.version set = Resource.version cached →
      Resource.version set = Resource.version stored → stored ∈ met.statefulSets.history →
        stored = cached := fun cached hcached set hversion hunchanged hstored =>
    met.statefulSets.history_unique stored hstored cached (hcache cached hcached)
      (hunchanged.symm.trans hversion)
  cases action with
  | createNodePool t =>
      cases hissues with
      | event => cases hremoves
      | create => cases hremoves
  | updateVersion t =>
      cases hissues with
      | event => cases hremoves
      | update hupdate =>
          cases hremoves with
          | scale found unchanged running removed =>
              have hstored := ObjectStore.mem_history_of_get found
              rcases hupdate with ⟨hproceeds, _⟩ | ⟨hproceeds, _, _, _⟩
              · have heq := hsame _ (Lister.get_ok hproceeds.cached).1 _ rfl unchanged hstored
                subst heq
                exact absurd running.2 (not_lt.mpr removed)
              · have heq := hsame _ (Lister.get_ok hproceeds.cached).1 _ rfl unchanged hstored
                subst heq
                exact absurd running.2 (not_lt.mpr removed)
  | scale t replicas =>
      obtain ⟨hcluster, hpool⟩ := nextAction_target hchosen
      change t.cluster = c at hcluster
      change t.nodePool ∈ c.spec.nodePools at hpool
      cases hissues with
      | event => cases hremoves
      | update hscale =>
          rcases hscale with @⟨cached, current, hcached, hcurrent, _, hallowed⟩
          cases hremoves with
          | scale found unchanged running removed =>
              have hstored := ObjectStore.mem_history_of_get found
              have heq := hsame _ (Lister.get_ok hcached).1 _ rfl unchanged hstored
              subst heq
              rw [hcurrent] at running
              obtain ⟨_, hhigh⟩ := (htracked stored hstored).replicas current hcurrent
              obtain ⟨np, hnp, hnpName, hnpData⟩ := (htracked stored hstored).data_pool hdata
              obtain ⟨hnamespace, hname⟩ := Prod.ext_iff.mp (Lister.get_ok hcached).2
              have hnpSame : np = t.nodePool := by
                apply haccepted.eq_of_name hnp hpool
                apply nodePoolResourceName_injective
                rw [hnpName, ← hcluster]
                exact hname
              have hns : t.namespaceName ≠ "" := by
                rw [Target.namespaceName, hcluster]
                exact haccepted.namespaced
              exact replicaDrained_of_allowed hns hkeys hnamespace hcurrent
                (haccepted.nonneg _ hpool replicas (nextAction_scale hchosen)) hhigh
                ⟨removed, running.2⟩ (hnpSame ▸ hnpData) hallowed

/-- Garbage collection leaves the StatefulSets of the data pools alone. -/
theorem not_removed_of_collect (haccepted : c.Accepted)
    (htracked : ∀ set ∈ met.statefulSets.history, Tracked c set)
    (hcache : met.statefulSets.Cache state.statefulSetLister.items)
    {selector : Selector} {sets : List StatefulSet} {set : StatefulSet}
    (hselects : selectorForCluster c.metadata.name = .ok selector)
    (hlisted : state.statefulSetLister.list c.metadata.namespaceName selector = .ok sets)
    (hrest : set ∈ unclaimed c.spec.nodePools sets) {stored : StatefulSet}
    (hstored : met.statefulSets.get (namespaceOf set, nameOf set) = some stored) :
    ¬ HasDataRole c stored := by
  intro hdata
  obtain ⟨np, hnp, hnpName, _⟩ :=
    (htracked stored (ObjectStore.mem_history_of_get hstored)).data_pool hdata
  have hkey : nameOf stored = nameOf set :=
    congrArg Prod.snd (ObjectStore.key_of_get hstored)
  apply not_mem_unclaimed haccepted hcache.1 hselects hlisted _ hnp (hkey.symm.trans hnpName.symm)
    hrest
  intro other hother
  obtain ⟨poolName, hnamed, _⟩ :=
    (htracked other (hcache.2 other ((Lister.mem_list hlisted).mp hother).1)).pool
  exact ⟨poolName, hnamed⟩

end Removal

/-- Whole runs: when no edit drops a data pool that has a StatefulSet, every
request of every `Sync` that removes a replica of a data pool removes one whose
Pilot has reported that it holds no documents. -/
theorem sync_removes_drained_replicas {w : World} {env : Environment}
    {faults : List (Option Fault)} {met : ApiServer} {request : Request}
    {stored : StatefulSet} {ordinal : Int}
    (hreach : World.machine.Reachable keepsDataPools w)
    (hcaches : World.CachesOf w.api env.state)
    (hcall : (met, request) ∈ w.syncCalls env faults)
    (hremoves : RemovesReplica met request stored ordinal)
    (hdata : HasDataRole w.cluster stored) : ReplicaDrained env.state stored ordinal := by
  have hkept := dataKept_of_reachable hreach
  obtain ⟨⟨htracked, hsubset⟩, hrequest⟩ := inv_of_mem_syncCalls
    (fun api => (∀ set ∈ api.statefulSets.history, Tracked w.cluster set) ∧
      ∀ set ∈ w.api.statefulSets.history, set ∈ api.statefulSets.history)
    hcall (hkept.serve hcaches) ⟨hkept.tracked, fun _ h => h⟩
  have haccepted : (withPausedConditions env.now w.cluster).Accepted :=
    accepted_withPausedConditions.mpr hkept.accepted
  have htracked : ∀ set ∈ met.statefulSets.history,
      Tracked (withPausedConditions env.now w.cluster) set :=
    fun set hset => tracked_withPausedConditions.mpr (htracked set hset)
  have hcache : met.statefulSets.Cache env.state.statefulSetLister.items :=
    ⟨hcaches.1.1, fun set hset => hsubset set (hcaches.1.2 set hset)⟩
  cases hrequest with
  | event => cases hremoves
  | ensure => cases hremoves
  | act hchosen hissues =>
      exact replicaDrained_of_act haccepted htracked hcache.2 hcaches.2.2 hchosen hissues
        hremoves hdata
  | collect hidle hselects hlisted hrest =>
      cases hremoves with
      | delete found =>
          exact absurd hdata
            (not_removed_of_collect haccepted htracked hcache hselects hlisted hrest found)

namespace DataLossWitness

def cluster (dataPools : List NodePool) : Cluster :=
  sampleCluster "db" "uid-db" (release 6 1 1) (samplePool "master" 1 [.master] :: dataPools)

def start : World := { cluster := cluster [samplePool "data" 2 [.data]], api := {} }

/-- The Pilot of a replica of the data pool, with the documents it reports. -/
def pilot (name : String) (documents : Option Int) : Pilot where
  metadata :=
    { name := name
      namespaceName := "default"
      labels := StringMap.ofList
        [(elasticsearchClusterNameLabel, "db"), (elasticsearchNodePoolNameLabel, "data")] }
  status := { elasticsearch := some { documents := documents } }

/-- The run that creates both pools and then edits the spec. -/
def run (dataPools : List NodePool) : List World.Step :=
  let first := (start.syncRun (World.currentEnv {} []) []).2
  [.sync (World.currentEnv {} []) [], .sync (World.currentEnv first []) [],
    .edit (cluster dataPools)]

def edited (dataPools : List NodePool) : World :=
  (World.machine.exec start (run dataPools)).getD start

/-- What the next `Sync` reads; the second Pilot reports the documents given. -/
def env (w : World) (documents : Option Int) : Environment :=
  World.currentEnv w.api [pilot "es-db-data-0" (some 7), pilot "es-db-data-1" documents]

/-- The StatefulSet of the data pool. -/
def dataSet (w : World) : StatefulSet :=
  (w.api.statefulSets.get ("default", "es-db-data")).getD {}

/-- The spec after a scale down of the data pool by one replica. -/
def scaledDown : World := edited [samplePool "data" 1 [.data]]

/-- The spec without the data pool. -/
def dropped : World := edited []

theorem start_created : World.Created start :=
  ⟨by decide +kernel, by decide +kernel, rfl, rfl⟩

/-- The scale down goes through when the Pilot of the last replica reports none. -/
theorem sync_removes_drained_replicas_scale_down :
    ReplicaDrained (env scaledDown (some 0)).state (dataSet scaledDown) 1 := by
  have hfacts : World.machine.Meets keepsDataPools start (run [samplePool "data" 1 [.data]]) ∧
      (World.machine.exec start (run [samplePool "data" 1 [.data]])).isSome = true ∧
      World.CachesOf scaledDown.api (env scaledDown (some 0)).state ∧
      Request.updateStatefulSet ((dataSet scaledDown).withReplicas 1) ∈
        (scaledDown.syncCalls (env scaledDown (some 0)) []).map Prod.snd ∧
      (∀ call ∈ scaledDown.syncCalls (env scaledDown (some 0)) [],
        call.2 = .updateStatefulSet ((dataSet scaledDown).withReplicas 1) →
          call.1.statefulSets.get (Resource.key ((dataSet scaledDown).withReplicas 1)) =
            some (dataSet scaledDown)) ∧
      (dataSet scaledDown).spec.replicas = some 2 ∧
      StringMap.get? (dataSet scaledDown).metadata.labels (roleLabel .data) = some "true" := by
    decide +kernel
  obtain ⟨hmeets, henabled, hcaches, hissued, hmet, hreplicas, hlabel⟩ := hfacts
  have hreach : World.machine.Reachable keepsDataPools scaledDown := by
    unfold scaledDown edited
    exact Machine.Reachable.getD_exec (.start start_created) hmeets henabled
  obtain ⟨call, hcall, hrequest⟩ := List.mem_map.mp hissued
  apply sync_removes_drained_replicas hreach hcaches hcall
  · rw [hrequest]
    refine .scale (hmet call hcall hrequest) (StatefulSet.version_withReplicas _ _) ?_ ?_
    · rw [hreplicas]
      decide
    · rw [StatefulSet.withReplicas_replicas]
      decide
  · exact Or.inl hlabel

/-- Dropping the data pool is accepted, and the next `Sync` deletes its
StatefulSet with a Pilot that reports seven documents. -/
theorem sync_removes_undrained_replica :
    validateElasticsearchCluster start.cluster = .ok [] ∧
      (World.machine.exec start (run [])).isSome = true ∧
      validateElasticsearchClusterUpdate start.cluster dropped.cluster = .ok [] ∧
      (dropped.syncCalls (env dropped none) []).map Prod.snd =
        [.deleteStatefulSet "default" "es-db-data"] ∧
      (∀ call ∈ dropped.syncCalls (env dropped none) [],
        call.1.statefulSets.get ("default", "es-db-data") = some (dataSet dropped)) ∧
      (dataSet dropped).spec.replicas = some 2 ∧
      StringMap.get? (dataSet dropped).metadata.labels (roleLabel .data) = some "true" ∧
      ¬ ReplicaDrained (env dropped none).state (dataSet dropped) 0 ∧
      ¬ ReplicaDrained (env dropped none).state (dataSet dropped) 1 := by
  decide +kernel

end DataLossWitness

end Elasticsearch

end Navigator
