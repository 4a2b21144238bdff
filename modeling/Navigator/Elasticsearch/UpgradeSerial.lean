/-
Upgrades restart the pods of one pool at a time: when a `Sync` updates the
StatefulSet of one pool, no pod of another pool is on its way, provided that
edits wait for the rollout before them.
-/
import Navigator.Elasticsearch.UpgradeInvariant

namespace Navigator

open ControlLoop

namespace Elasticsearch

open RollingUpdate

/-- No pod was replaced and has not been ready since, and none is still to be
replaced. -/
def Calm (plan : Plan String) (fleet : Fleet String Version) : Prop :=
  ∀ i < plan.replicas, fleet.restarting i = false ∧
    (plan.partition ≤ i → ¬ Outdated plan fleet i)

instance (plan : Plan String) (fleet : Fleet String Version) : Decidable (Calm plan fleet) :=
  inferInstanceAs (Decidable (∀ i < plan.replicas, fleet.restarting i = false ∧
    (plan.partition ≤ i → ¬ Outdated plan fleet i)))

/-- Only a pool in a rollout is not calm, and it is in a rollout only when it is
its turn and its annotation is still of another version. -/
theorem Phase.calm {spec : ElasticsearchClusterSpec} {turn : Prop} {text : String}
    {plan : Plan String} {fleet : Fleet String Version} (h : Phase spec turn text plan fleet)
    (hnot : text = spec.version.string ∨ ¬ turn) : Calm plan fleet := by
  intro i hi
  rcases h with h | ⟨version, image, _, _, hsteady, _⟩ |
    ⟨version, old, new, htext, hdiffers, _, _, _, _, _, hturn⟩
  · omega
  · exact ⟨hsteady.calm i, fun _ => hsteady.not_outdated i⟩
  · rcases hnot with heq | hnot
    · rw [Version.string_injective (htext.symm.trans heq), Version.equal_refl] at hdiffers
      cases hdiffers
    · exact absurd hturn hnot

/-- While one pool is upgraded, the others are calm. -/
theorem FreshStart.calm {c : Cluster} {sets : ObjectStore StatefulSet}
    {fleets : String → Fleet String Version} {state : State}
    (h : FreshStart c sets fleets state) {t : Target}
    (hchosen : nextAction state c = .ok (some (.updateVersion t))) {np : NodePool}
    (hnp : np ∈ c.spec.nodePools) (hother : np ≠ t.nodePool) {set : StatefulSet}
    (hget : sets.get (setKey c np.name) = some set) {plan : Plan String}
    (hplan : planOf set = some plan) : Calm plan (fleets np.name) := by
  obtain ⟨before, after, hsplit, hbefore, hcluster, found, text, hfound, htext, hdiffers⟩ :=
    nextAction_updateVersion hchosen
  have hmem := hnp
  rw [hsplit] at hmem
  rcases List.mem_append.mp hmem with hin | hin
  · -- a pool before the one that is upgraded needs nothing
    obtain ⟨cached, hcached, hannotated, _⟩ := nextActionForNodePool_eq_none (hbefore np hin)
    obtain ⟨_, _, other, _, hpool⟩ := h.consistent.stored_of_mem hnp hget
    have hsame : cached = set :=
      Option.some.inj ((Lister.get_of_current h.current hcached).symm.trans hget)
    subst hsame
    exact (hpool.phase plan hplan).calm
      (Or.inl (Option.some.inj (hpool.annotated.symm.trans hannotated)))
  · -- for a pool after it, it is not its turn yet
    have hlater : np ∈ after := (List.mem_cons.mp hin).resolve_left hother
    obtain ⟨between, rest, hafter⟩ := List.append_of_mem hlater
    have hsplit' : c.spec.nodePools = (before ++ t.nodePool :: between) ++ np :: rest := by
      rw [hsplit, hafter, List.append_assoc, List.cons_append]
    obtain ⟨other, hpool⟩ := h.consistent.stored _ np rest hsplit' set hget
    refine (hpool.phase plan hplan).calm (Or.inr fun hturn => ?_)
    obtain ⟨stored, hstored, hannotated⟩ :=
      hturn t.nodePool (List.mem_append_right before List.mem_cons_self)
    have hkey : (t.namespaceName, t.statefulSetName) = setKey c t.nodePool.name := by
      rw [← hcluster]
      rfl
    have hsets := Lister.get_of_current h.current hfound
    rw [hkey] at hsets
    have hsame : found = stored := Option.some.inj (hsets.symm.trans hstored)
    subst hsame
    exact hdiffers (Option.some.inj (hannotated.symm.trans htext))

/-- One pool at a time: in every run in which Syncs read fresh caches and edits
wait for the rollout before them, whenever a `Sync` updates a StatefulSet, be it
with a new image or a lower partition, the pods of every other pool are calm. -/
theorem sync_updates_one_pool {imageVersion : String → Version} (htags : TagsRun imageVersion)
    {s : Upgrade} (hreach : (Upgrade.machine imageVersion).Reachable Upgrade.settledEdits s)
    {env : Environment} {status : ElasticsearchClusterStatus} {faults : List (Option Fault)}
    (hfresh : s.Fresh env.state) {met : ApiServer} {written : StatefulSet}
    (hcall : (met, .updateStatefulSet written) ∈ (s.world status).syncCalls env faults)
    {np : NodePool} (hnp : np ∈ s.cluster.spec.nodePools)
    (hother : setKey s.cluster np.name ≠ Resource.key written) {set : StatefulSet}
    (hget : met.statefulSets.get (setKey s.cluster np.name) = some set) {plan : Plan String}
    (hplan : planOf set = some plan) : Calm plan (s.fleets np.name) := by
  have hstart := (Upgrade.inv_of_reachable htags hreach).freshStart hfresh status
  obtain ⟨hunderway, hrequest⟩ := inv_of_mem_syncCalls
    (Underway (s.syncCopy env status) s.api.statefulSets s.fleets env.state) hcall
    (Underway.serve htags hstart) (Upgrade.FreshStart.underway hstart faults)
  cases hrequest with
  | @act action _ hchosen hissues =>
      cases action with
      | createNodePool t => cases hissues
      | scale t replicas => exact absurd hchosen hstart.not_scale
      | updateVersion t =>
          cases hissues with
          | update hwrites =>
              have hcluster : t.cluster = s.syncCopy env status := (nextAction_target hchosen).1
              have hkey : Resource.key written = setKey s.cluster t.nodePool.name := by
                rw [hwrites.key, Target.namespaceName, Target.statefulSetName, hcluster]
                rfl
              have hname : np.name ≠ t.nodePool.name := by
                intro heq
                rw [heq] at hother
                exact hother hkey.symm
              have hpool : np ≠ t.nodePool := fun heq => hname (congrArg _ heq)
              have hframe := hunderway.frame _ hchosen np.name hname
              exact hstart.calm hchosen hnp hpool (hframe.symm.trans hget) hplan

namespace UpgradeSerialWitness

open RolloutWitness (tagVersion)

def first : NodePool := samplePool "first" 1 [.master, .data]

def second : NodePool := samplePool "second" 1 [.data]

def start : Upgrade :=
  { cluster := sampleCluster "db" "uid-db" (release 6 1 1) [first, second], api := {} }

/-- The Pilot of the one replica of a pool. -/
def pilot (np : NodePool) (version : Version) : Pilot where
  metadata :=
    { name := pilotNameForStatefulSetReplica (nodePoolResourceName start.cluster np) 0
      namespaceName := "default"
      labels := nodePoolLabels start.cluster np.name [] }
  status := { elasticsearch := some { version := some version } }

def after (events : List Upgrade.Step) : Upgrade :=
  ((Upgrade.machine tagVersion).exec start events).getD start

def green : ElasticsearchClusterStatus := { health := some .green }

/-- Append a `Sync` on caches that show what is there. -/
def thenSync (events : List Upgrade.Step) (pilots : List Pilot) : List Upgrade.Step :=
  events ++ [.sync (World.currentEnv (after events).api pilots) green []]

/-- A pod of a pool comes up, reports, and is counted. -/
def comesUp (poolName : String) : List Upgrade.Step :=
  [.run poolName (.start 0), .run poolName (.ready 0 true), .run poolName (.report 0),
    .observe poolName { readyReplicas := 1, currentReplicas := 1 }]

/-- Both pools are created at 6.1.1 and their pods come up. -/
def created : List Upgrade.Step :=
  thenSync (thenSync [] []) [] ++ [.run "first" .adopt, .run "second" .adopt] ++
    comesUp "first" ++ comesUp "second"

/-- The version is set to 6.2.0. -/
def edited : List Upgrade.Step := created ++ [.edit (release 6 2 0)]

def before : List Pilot := [pilot first (release 6 1 1), pilot second (release 6 1 1)]

def between : List Pilot := [pilot first (release 6 2 0), pilot second (release 6 1 1)]

/-- The first pool is upgraded. -/
def firstDone : List Upgrade.Step :=
  thenSync (thenSync edited before ++ [.run "first" (.replace 0)] ++ comesUp "first" ++
    [.run "first" .complete]) between

/-- The second pool follows: its pod is replaced and not back yet. -/
def secondRestarting : List Upgrade.Step :=
  thenSync firstDone between ++ [.run "second" (.replace 0), .observe "second" {}]

/-- The version is set to 6.2.1 in the middle of the rollout. -/
def editedAgain : List Upgrade.Step := secondRestarting ++ [.edit (release 6 2 1)]

def env (events : List Upgrade.Step) (pilots : List Pilot) : Environment :=
  World.currentEnv (after events).api pilots

/-- The StatefulSet of a pool after the run. -/
def storedSet (events : List Upgrade.Step) (np : NodePool) : StatefulSet :=
  ((after events).api.statefulSets.get (setKey start.cluster np.name)).getD {}

def image (tag : String) : String := "docker.elastic.co/elasticsearch/elasticsearch:" ++ tag

/-- The write that starts a rollout of the first pool. -/
def rolledOut (events : List Upgrade.Step) (tag : String) : StatefulSet :=
  UpdateVersion.advanced (storedSet events first) 0 (image tag)

theorem start_created : Upgrade.Created start :=
  ⟨⟨by decide +kernel, by decide +kernel, rfl, rfl⟩, rfl⟩

theorem reachable {ok : Upgrade → Upgrade.Step → Prop} {events : List Upgrade.Step}
    (hmeets : (Upgrade.machine tagVersion).Meets ok start events)
    (henabled : ((Upgrade.machine tagVersion).exec start events).isSome = true) :
    (Upgrade.machine tagVersion).Reachable ok (after events) := by
  unfold after
  exact Machine.Reachable.getD_exec (.start start_created) hmeets henabled

/-- What the second pool is told to run. -/
def planAt (tag : String) : Plan String := ⟨1, image tag, 0⟩

/-- When the rollout of the first pool starts, the second pool is calm. -/
theorem sync_updates_one_pool_first :
    Calm (planAt "6.1.1") ((after edited).fleets second.name) := by
  have hfacts : (Upgrade.machine tagVersion).Meets Upgrade.settledEdits start edited ∧
      ((Upgrade.machine tagVersion).exec start edited).isSome = true ∧
      (after edited).Fresh (env edited before).state ∧
      (((after edited).world green).syncCalls (env edited before) []).map (fun call =>
        (call.1.statefulSets.get (setKey (after edited).cluster second.name), call.2)) =
        [(some (storedSet edited second), .updateStatefulSet (rolledOut edited "6.2.0")),
          (some (storedSet edited second), .recordEvent ⟨.normal, "UpdateVersion",
            "Updating replica es-db-first-0 to version 6.2.0"⟩)] ∧
      second ∈ (after edited).cluster.spec.nodePools ∧
      setKey (after edited).cluster second.name ≠ Resource.key (rolledOut edited "6.2.0") ∧
      planOf (storedSet edited second) = some (planAt "6.1.1") := by decide +kernel
  obtain ⟨hmeets, henabled, hfresh, hcalls, hsecond, hother, hplan⟩ := hfacts
  have hfirst : (some (storedSet edited second),
      Request.updateStatefulSet (rolledOut edited "6.2.0")) ∈
      (((after edited).world green).syncCalls (env edited before) []).map (fun call =>
        (call.1.statefulSets.get (setKey (after edited).cluster second.name), call.2)) := by
    rw [hcalls]
    exact List.mem_cons_self
  obtain ⟨⟨met, request⟩, hcall, hmet⟩ := List.mem_map.mp hfirst
  obtain ⟨hget, hrequest⟩ := Prod.mk.inj hmet
  subst hrequest
  exact sync_updates_one_pool tagsRun_tagVersion (reachable hmeets henabled) hfresh hcall hsecond
    hother hget hplan

/-- An edit in the middle of the rollout of the second pool: the next `Sync` writes
a new image to the first pool, while the pod of the second pool is restarting
because of the write before. -/
theorem sync_updates_two_pools :
    (Upgrade.machine tagVersion).Reachable Upgrade.freshSyncs (after editedAgain) ∧
      (after editedAgain).Fresh (env editedAgain between).state ∧
      (storedSet editedAgain first).image? = some (image "6.2.0") ∧
      (rolledOut editedAgain "6.2.1").image? = some (image "6.2.1") ∧
      (∃ call ∈ ((after editedAgain).world green).syncCalls (env editedAgain between) [],
        call.2 = .updateStatefulSet (rolledOut editedAgain "6.2.1")) ∧
      Resource.key (rolledOut editedAgain "6.2.1") =
        setKey (after editedAgain).cluster first.name ∧
      planOf (storedSet editedAgain second) = some (planAt "6.2.0") ∧
      ((after editedAgain).fleets second.name).restarting 0 = true ∧
      ¬ Calm (planAt "6.2.0") ((after editedAgain).fleets second.name) := by
  have hfacts : (Upgrade.machine tagVersion).Meets Upgrade.freshSyncs start editedAgain ∧
      ((Upgrade.machine tagVersion).exec start editedAgain).isSome = true ∧
      (after editedAgain).Fresh (env editedAgain between).state ∧
      (storedSet editedAgain first).image? = some (image "6.2.0") ∧
      (rolledOut editedAgain "6.2.1").image? = some (image "6.2.1") ∧
      (∃ call ∈ ((after editedAgain).world green).syncCalls (env editedAgain between) [],
        call.2 = .updateStatefulSet (rolledOut editedAgain "6.2.1")) ∧
      Resource.key (rolledOut editedAgain "6.2.1") =
        setKey (after editedAgain).cluster first.name ∧
      planOf (storedSet editedAgain second) = some (planAt "6.2.0") ∧
      ((after editedAgain).fleets second.name).restarting 0 = true ∧
      ¬ Calm (planAt "6.2.0") ((after editedAgain).fleets second.name) := by decide +kernel
  obtain ⟨hmeets, henabled, hrest⟩ := hfacts
  exact ⟨reachable hmeets henabled, hrest⟩

end UpgradeSerialWitness

end Elasticsearch

end Navigator
