/-
The invariant of an upgrade: every StatefulSet stored belongs to a pool of the
spec, and each pool is in a phase that the pools before it allow.
-/
import Navigator.Elasticsearch.Upgrade

namespace Navigator

open ControlLoop

namespace Elasticsearch

open RollingUpdate

theorem planOf_eq_some_iff {set : StatefulSet} {plan : Plan String} :
    planOf set = some plan ↔ ∃ replicas image, set.spec.replicas = some replicas ∧
      set.image? = some image ∧ plan = ⟨replicas.toNat, image, set.partition⟩ := by
  simp only [planOf, Option.bind_eq_some_iff, Option.map_eq_some_iff]
  constructor
  · rintro ⟨replicas, hreplicas, image, himage, rfl⟩
    exact ⟨replicas, image, hreplicas, himage, rfl⟩
  · rintro ⟨replicas, image, hreplicas, himage, rfl⟩
    exact ⟨replicas, hreplicas, image, himage, rfl⟩

/-- What the rollout needs of a StatefulSet just built. -/
theorem nodePoolStatefulSet_rollout {c : Cluster} {np : NodePool} {set : StatefulSet}
    (h : nodePoolStatefulSet c np = .ok set) :
    ∃ image, esImageToUse c.spec = .ok image ∧ set.image? = some image.reference ∧
      annotationOf set = some c.spec.version.string ∧ set.status = {} := by
  unfold nodePoolStatefulSet at h
  split at h
  · cases h
  · rename_i template htemplate
    simp only [elasticsearchPodTemplateSpec, bind, Except.bind] at htemplate
    split at htemplate
    · cases htemplate
    · rename_i image himage
      have htemplate := Except.ok.inj htemplate
      cases h
      refine ⟨image, himage, ?_, ?_, rfl⟩
      · rw [← htemplate]
        rfl
      · simp [annotationOf, StringMap.get?, StringMap.ofList]

/-- The annotation of the pool's StatefulSet names the version of the spec. -/
def Upgraded (c : Cluster) (sets : ObjectStore StatefulSet) (poolName : String) : Prop :=
  ∃ set, sets.get (setKey c poolName) = some set ∧
    annotationOf set = some c.spec.version.string

/-- The pools before are done, so it is the turn of the next one. -/
def Turn (c : Cluster) (sets : ObjectStore StatefulSet) (before : List NodePool) : Prop :=
  ∀ np ∈ before, Upgraded c sets np.name

/-- The stored StatefulSet of a pool and its pods. -/
structure PoolState (spec : ElasticsearchClusterSpec) (np : NodePool) (turn : Prop)
    (set : StatefulSet) (text : String) (fleet : Fleet String Version) : Prop where
  annotated : annotationOf set = some text
  replicas : set.spec.replicas = np.replicas
  updated : 0 ≤ set.status.updatedReplicas ∧
    set.status.updatedReplicas ≤ set.spec.replicas.getD 0
  image : set.image?.isSome = true
  sound : Sound (replicasOf np) fleet
  phase : ∀ plan ∈ planOf set, Phase spec turn text plan fleet

/-- The invariant. -/
structure Consistent (c : Cluster) (sets : ObjectStore StatefulSet)
    (fleets : String → Fleet String Version) : Prop where
  accepted : c.Accepted
  typed : WellTyped c.spec
  named : ∀ set ∈ sets.objects, ∃ np ∈ c.spec.nodePools,
    Resource.key set = setKey c np.name ∧ NamedAfterPool c np.name set
  missing : ∀ np ∈ c.spec.nodePools, sets.get (setKey c np.name) = none → fleets np.name = {}
  stored : ∀ before np after, c.spec.nodePools = before ++ np :: after →
    ∀ set, sets.get (setKey c np.name) = some set →
      ∃ text, PoolState c.spec np (Turn c sets before) set text (fleets np.name)

section PoolState

variable {spec : ElasticsearchClusterSpec} {np : NodePool} {turn : Prop} {set : StatefulSet}
  {text : String} {fleet fleet' : Fleet String Version} {plan : Plan String}

theorem PoolState.mono {turn' : Prop} (h : PoolState spec np turn set text fleet)
    (hturn : turn → turn') : PoolState spec np turn' set text fleet :=
  ⟨h.annotated, h.replicas, h.updated, h.image, h.sound,
    fun plan hplan => (h.phase plan hplan).mono hturn⟩

/-- The store only changes the version of what it is given. -/
theorem PoolState.withVersion (h : PoolState spec np turn set text fleet) (v : Nat) :
    PoolState spec np turn (Resource.withVersion set v) text fleet :=
  ⟨h.annotated, h.replicas, h.updated, h.image, h.sound, h.phase⟩

theorem PoolState.plan_replicas (h : PoolState spec np turn set text fleet)
    (hplan : planOf set = some plan) : plan.replicas = replicasOf np := by
  obtain ⟨replicas, image, hreplicas, _, rfl⟩ := planOf_eq_some_iff.mp hplan
  rw [h.replicas] at hreplicas
  simp [replicasOf, hreplicas]

theorem PoolState.move {imageVersion : String → Version} (htags : TagsRun imageVersion)
    (h : PoolState spec np turn set text fleet) (hplan : planOf set = some plan)
    {step : RollingUpdate.Step} (hmove : fleet.Move imageVersion plan step fleet') :
    PoolState spec np turn set text fleet' := by
  have hreplicas := h.plan_replicas hplan
  refine ⟨h.annotated, h.replicas, h.updated, h.image, ?_, ?_⟩
  · have hsound := h.sound
    rw [← hreplicas] at hsound ⊢
    exact hsound.move hmove
  · intro plan' hplan'
    have hsame : plan = plan' := Option.some.inj (hplan.symm.trans hplan')
    subst hsame
    exact (h.phase plan hplan).move htags hmove

end PoolState

section Writes

variable {state : State} {c : Cluster} {np : NodePool} {turn : Prop} {set : StatefulSet}
  {text existing : String} {fleet : Fleet String Version} {replicas : Int} {image : ImageSpec}

/-- The annotation that `UpdateVersion` found is not of the version of the spec. -/
theorem PoolState.differs (h : PoolState c.spec np turn set text fleet)
    (hproceeds : UpdateVersion.Proceeds state ⟨c, np⟩ set replicas existing image)
    (version : Version) (htext : text = version.string) :
    version.equal c.spec.version = false := by
  obtain ⟨found, parsed, hfound, hparsed, houtdated⟩ := hproceeds.outdated
  have hsame : found = text := Option.some.inj (hfound.symm.trans h.annotated)
  rw [hsame, htext, Version.parse_string] at hparsed
  rw [Version.equal_comm, Except.ok.inj hparsed]
  exact houtdated

/-- The replicas that `UpdateVersion` found, and that they are all ready. -/
theorem PoolState.all_ready (h : PoolState c.spec np turn set text fleet) (haccepted : c.Accepted)
    (hnp : np ∈ c.spec.nodePools)
    (hready : set.status.readyReplicas = readyCount fleet (replicasOf np))
    (hproceeds : UpdateVersion.Proceeds state ⟨c, np⟩ set replicas existing image) :
    replicas = (replicasOf np : Int) ∧
      ∀ i < replicasOf np, ∃ r ∈ fleet.pods i, r.ready = true := by
  have hreplicas : np.replicas = some replicas := h.replicas.symm.trans hproceeds.desired
  have hnonneg := haccepted.nonneg np hnp replicas hreplicas
  have hcast : replicas = (replicasOf np : Int) := by
    rw [replicasOf, hreplicas, Option.getD_some, Int.toNat_of_nonneg hnonneg]
  refine ⟨hcast, fun i hi => ready_of_readyCount_eq ?_ hi⟩
  have hall := hproceeds.ready
  rw [hcast, hready] at hall
  exact_mod_cast hall.symm

/-- What the cached Pilots say is what the pods reported. -/
def PilotsAgree (state : State) (c : Cluster) (np : NodePool) (fleet : Fleet String Version) :
    Prop :=
  ∀ i < replicasOf np, ∀ p ∈ state.pilotLister.items, Resource.key p = pilotKey c np i →
    p.status.elasticsearch.bind ElasticsearchPilotStatus.version = fleet.reported i

theorem PilotsAgree.reports (h : PilotsAgree state c np fleet) {i : Nat} (hi : i < replicasOf np)
    {p : Pilot} (hp : p ∈ state.pilotLister.items) (hkey : Resource.key p = pilotKey c np i)
    (hup : pilotVersionUpToDate c.spec p.status = true) : Reports (UpToDate c.spec) fleet i := by
  have hreported := h i hi p hp hkey
  unfold pilotVersionUpToDate at hup
  cases hversion : p.status.elasticsearch.bind ElasticsearchPilotStatus.version with
  | none =>
      rw [hversion] at hup
      cases hup
  | some version =>
      rw [hversion] at hup hreported
      exact ⟨version, hreported.symm, hup⟩

theorem PoolState.complete (h : PoolState c.spec np turn set text fleet) (haccepted : c.Accepted)
    (hnp : np ∈ c.spec.nodePools) (hpilots : PilotsAgree state c np fleet)
    (hready : set.status.readyReplicas = readyCount fleet (replicasOf np))
    (hproceeds : UpdateVersion.Proceeds state ⟨c, np⟩ set replicas existing image)
    (hup : UpdateVersion.pilotsUpToDate state ⟨c, np⟩ set = none) :
    PoolState c.spec np turn (UpdateVersion.completed ⟨c, np⟩ set) c.spec.version.string
      fleet := by
  obtain ⟨hcast, hall⟩ := h.all_ready haccepted hnp hready hproceeds
  refine ⟨?_, h.replicas, h.updated, h.image, h.sound, ?_⟩
  · have hsome : set.metadata.annotations ≠ none := by
      intro hnone
      have hannotated := h.annotated
      simp [annotationOf, hnone, StringMap.get?] at hannotated
    simp [annotationOf, UpdateVersion.completed, StringMap.get?_set hsome]
  · intro plan hplan
    have hreplicas := h.plan_replicas hplan
    refine (h.phase plan hplan).complete (h.differs hproceeds) (hreplicas ▸ h.sound) ?_
      (hreplicas ▸ hall)
    rw [hreplicas]
    intro i hi
    obtain ⟨p, hp, hkey, hversion⟩ := UpdateVersion.pilots_of_upToDate hup haccepted.namespaced
      (hcast ▸ hproceeds.desired) hi
    have hname : nameOf set = nodePoolResourceName c np :=
      congrArg Prod.snd (Lister.get_ok hproceeds.cached).2
    rw [hname] at hkey
    exact hpilots.reports hi hp hkey hversion

theorem PoolState.advance {imageVersion : String → Version} (htags : TagsRun imageVersion)
    (h : PoolState c.spec np turn set text fleet) (haccepted : c.Accepted)
    (htyped : WellTyped c.spec) (hnp : np ∈ c.spec.nodePools)
    (hpilots : PilotsAgree state c np fleet)
    (hready : set.status.readyReplicas = readyCount fleet (replicasOf np))
    (hproceeds : UpdateVersion.Proceeds state ⟨c, np⟩ set replicas existing image)
    (hlast : UpdateVersion.lastPilotError state ⟨c, np⟩ set replicas
      (UpdateVersion.nextPartition replicas set.status.updatedReplicas) = .ok none)
    (hturn : turn) :
    PoolState c.spec np turn (UpdateVersion.advanced set
      (UpdateVersion.nextPartition replicas set.status.updatedReplicas) image.reference)
      text fleet := by
  obtain ⟨hcast, hall⟩ := h.all_ready haccepted hnp hready hproceeds
  have hreplicas : np.replicas = some replicas := h.replicas.symm.trans hproceeds.desired
  have hrange := (htyped.1 np hnp replicas hreplicas).2
  obtain ⟨hlow, hhigh⟩ := h.updated
  rw [hproceeds.desired, Option.getD_some] at hhigh
  have hpartition := UpdateVersion.nextPartition_eq hlow hhigh hrange
  obtain ⟨next, hnext⟩ := Int.eq_ofNat_of_zero_le
    (show 0 ≤ UpdateVersion.nextPartition replicas set.status.updatedReplicas by
      rw [hpartition]
      exact le_max_left _ _)
  rw [hnext] at hlast ⊢
  refine ⟨h.annotated, h.replicas, h.updated, ?_, h.sound, ?_⟩
  · simpa [UpdateVersion.advanced] using h.image
  · intro plan hplan
    obtain ⟨n, template, hn, htemplate, rfl⟩ := planOf_eq_some_iff.mp hplan
    have hsame : n = replicas := Option.some.inj (hn.symm.trans hproceeds.desired)
    subst hsame
    have hnew : template = image.reference := by
      simpa [UpdateVersion.advanced, hproceeds.existing, eq_comm] using htemplate
    subst hnew
    have hplan : planOf set = some ⟨n.toNat, existing, set.partition⟩ :=
      planOf_eq_some_iff.mpr ⟨n, existing, hproceeds.desired, hproceeds.existing, rfl⟩
    have hcount : n.toNat = replicasOf np := h.plan_replicas hplan
    have hlastReports : next + 1 < n.toNat → Reports (UpToDate c.spec) fleet (next + 1) := by
      intro hbound
      obtain ⟨pilot, hget, hup⟩ := (UpdateVersion.lastPilotError_eq_none_iff (by omega)
        (by omega)).mp hlast (by omega)
      obtain ⟨hitem, hkey⟩ := Lister.get_ok hget
      have hname : nameOf set = nodePoolResourceName c np :=
        congrArg Prod.snd (Lister.get_ok hproceeds.cached).2
      rw [hname] at hkey
      exact hpilots.reports (hcount ▸ hbound) hitem hkey hup
    exact (h.phase _ hplan).advance htags (h.differs hproceeds) (hcount.symm ▸ h.sound)
      (hcount.symm ▸ hall) hproceeds.toUse hturn hlastReports

end Writes

section Consistent

variable {c : Cluster} {sets : ObjectStore StatefulSet}
  {fleets : String → Fleet String Version} {np : NodePool}

/-- The invariant reads neither status nor conditions of the cluster. -/
theorem consistent_withStatus {status : ElasticsearchClusterStatus} :
    Consistent (withStatus c status) sets fleets ↔ Consistent c sets fleets :=
  ⟨fun h => ⟨⟨h.accepted.namespaced, h.accepted.distinct, h.accepted.poolNamed,
      h.accepted.nonneg, h.accepted.counted⟩, h.typed, h.named, h.missing, h.stored⟩,
    fun h => ⟨⟨h.accepted.namespaced, h.accepted.distinct, h.accepted.poolNamed,
      h.accepted.nonneg, h.accepted.counted⟩, h.typed, h.named, h.missing, h.stored⟩⟩

theorem Consistent.stored_of_mem (h : Consistent c sets fleets) (hnp : np ∈ c.spec.nodePools)
    {set : StatefulSet} (hget : sets.get (setKey c np.name) = some set) :
    ∃ before after text, c.spec.nodePools = before ++ np :: after ∧
      PoolState c.spec np (Turn c sets before) set text (fleets np.name) := by
  obtain ⟨before, after, hsplit⟩ := List.append_of_mem hnp
  obtain ⟨text, hpool⟩ := h.stored before np after hsplit set hget
  exact ⟨before, after, text, hsplit, hpool⟩

/-- A StatefulSet stored under the key of a pool is that of a pool of the spec. -/
theorem Consistent.pool_of_get (h : Consistent c sets fleets) {poolName : String}
    {set : StatefulSet} (hget : sets.get (setKey c poolName) = some set) :
    NamedAfterPool c poolName set ∧ ∃ np ∈ c.spec.nodePools, np.name = poolName := by
  obtain ⟨hmem, hkey⟩ := sets.get_eq_some_iff.mp hget
  obtain ⟨np, hnp, hkey', hnamed⟩ := h.named set hmem
  have hname := setKey_injective (hkey'.symm.trans hkey)
  exact ⟨hname ▸ hnamed, np, hnp, hname⟩

/-- A write under the key of a pool that leaves its annotation at the version of
the spec leaves every pool that is done done. -/
theorem Upgraded.put {set : StatefulSet} (hkey : Resource.key set = setKey c np.name)
    (hkept : Upgraded c sets np.name → annotationOf set = some c.spec.version.string)
    {poolName : String} (h : Upgraded c sets poolName) : Upgraded c (sets.put set) poolName := by
  by_cases hname : poolName = np.name
  · subst hname
    refine ⟨Resource.withVersion set sets.nextVersion, ?_, hkept h⟩
    rw [ObjectStore.get_put, if_pos hkey.symm]
  · obtain ⟨other, hget, hannotated⟩ := h
    refine ⟨other, ?_, hannotated⟩
    rw [ObjectStore.get_put, if_neg, hget]
    exact fun heq => hname (setKey_injective (heq.trans hkey))

/-- Writing the StatefulSet of one pool, in a state its pods agree with. -/
theorem Consistent.put (h : Consistent c sets fleets) (hnp : np ∈ c.spec.nodePools)
    {set : StatefulSet} (hkey : Resource.key set = setKey c np.name)
    (hnamed : NamedAfterPool c np.name set)
    (hkept : Upgraded c sets np.name → annotationOf set = some c.spec.version.string)
    (hpool : ∀ before after, c.spec.nodePools = before ++ np :: after →
      ∃ text, PoolState c.spec np (Turn c sets before) set text (fleets np.name)) :
    Consistent c (sets.put set) fleets := by
  have hturn : ∀ before, Turn c sets before → Turn c (sets.put set) before :=
    fun before hbefore other hother => (hbefore other hother).put hkey hkept
  refine ⟨h.accepted, h.typed, ?_, ?_, ?_⟩
  · intro other hother
    rcases List.mem_cons.mp hother with rfl | hother
    · exact ⟨np, hnp, (Resource.key_withVersion set _).trans hkey, hnamed⟩
    · exact h.named other (List.mem_of_mem_filter hother)
  · intro other hother hnone
    rw [ObjectStore.get_put] at hnone
    split at hnone
    · cases hnone
    · exact h.missing other hother hnone
  · intro before other after hsplit stored hget
    have hother : other ∈ c.spec.nodePools := by
      rw [hsplit]
      exact List.mem_append_right before List.mem_cons_self
    rw [ObjectStore.get_put] at hget
    split at hget
    · rename_i hkeys
      have hname := setKey_injective (hkeys.trans hkey)
      have hsame := h.accepted.eq_of_name hother hnp hname
      subst hsame
      obtain ⟨text, hstate⟩ := hpool before after hsplit
      rw [← Option.some.inj hget]
      exact ⟨text, (hstate.mono (hturn before)).withVersion _⟩
    · obtain ⟨text, hstate⟩ := h.stored before other after hsplit stored hget
      exact ⟨text, hstate.mono (hturn before)⟩

end Consistent

section Sync

variable {c : Cluster} {sets : ObjectStore StatefulSet} {state : State}
  {fleets : String → Fleet String Version}

/-- What a `Sync` starts from: the invariant, and caches that are fresh. -/
structure FreshStart (c : Cluster) (sets : ObjectStore StatefulSet)
    (fleets : String → Fleet String Version) (state : State) : Prop where
  consistent : Consistent c sets fleets
  current : sets.Current state.statefulSetLister.items
  pilots : ∀ np ∈ c.spec.nodePools, PilotsAgree state c np (fleets np.name)
  ready : ∀ np ∈ c.spec.nodePools, ∀ set ∈ sets.get (setKey c np.name),
    set.status.readyReplicas = readyCount (fleets np.name) (replicasOf np)

/-- What holds while the `Sync` runs: the invariant, and of the StatefulSets only
that of the pool acted on has changed, which is not set back. -/
structure Underway (c : Cluster) (sets : ObjectStore StatefulSet)
    (fleets : String → Fleet String Version) (state : State) (api : ApiServer) : Prop where
  consistent : Consistent c api.statefulSets fleets
  history : ∀ set ∈ sets.history, set ∈ api.statefulSets.history
  upgraded : ∀ poolName, Upgraded c sets poolName → Upgraded c api.statefulSets poolName
  frame : ∀ action, nextAction state c = .ok (some action) → ∀ poolName,
    poolName ≠ action.target.nodePool.name →
      api.statefulSets.get (setKey c poolName) = sets.get (setKey c poolName)

/-- Writing the StatefulSet of the pool that is acted on. -/
theorem Underway.put {api : ApiServer} (h : Underway c sets fleets state api) {action : Action}
    (hchosen : nextAction state c = .ok (some action)) {np : NodePool}
    (htarget : action.target.nodePool = np) (hnp : np ∈ c.spec.nodePools) {set : StatefulSet}
    (hkey : Resource.key set = setKey c np.name) (hnamed : NamedAfterPool c np.name set)
    (hkept : Upgraded c api.statefulSets np.name →
      annotationOf set = some c.spec.version.string)
    (hpool : ∀ before after, c.spec.nodePools = before ++ np :: after →
      ∃ text, PoolState c.spec np (Turn c api.statefulSets before) set text (fleets np.name)) :
    Underway c sets fleets state { api with statefulSets := api.statefulSets.put set } := by
  refine ⟨h.consistent.put hnp hkey hnamed hkept hpool, ?_, ?_, ?_⟩
  · exact fun other hother => List.mem_cons_of_mem _ (h.history other hother)
  · exact fun poolName hupgraded => (h.upgraded poolName hupgraded).put hkey hkept
  · intro action' hchosen' poolName hother
    have hsame : action' = action :=
      Option.some.inj (Except.ok.inj (hchosen'.symm.trans hchosen))
    subst hsame
    rw [ObjectStore.get_put, if_neg, h.frame action' hchosen' poolName hother]
    rw [htarget] at hother
    exact fun heq => hother (setKey_injective (heq.trans hkey))

/-- `CreateNodePool` starts a pool that is steady and without pods. -/
theorem Underway.create {api : ApiServer} (h : Underway c sets fleets state api) {t : Target}
    (hchosen : nextAction state c = .ok (some (.createNodePool t))) {set : StatefulSet}
    (hbuilt : nodePoolStatefulSet t.cluster t.nodePool = .ok set)
    (hfresh : api.statefulSets.get (Resource.key set) = none) :
    Underway c sets fleets state { api with statefulSets := api.statefulSets.put set } := by
  obtain ⟨hcluster, hnp⟩ := nextAction_target hchosen
  have hcluster : t.cluster = c := hcluster
  have hnp : t.nodePool ∈ c.spec.nodePools := hnp
  rw [hcluster] at hbuilt
  obtain ⟨hname, hnamespace, hlabels, _, hreplicas⟩ := nodePoolStatefulSet_eq_ok hbuilt
  obtain ⟨image, himage, htemplate, hannotated, hstatus⟩ := nodePoolStatefulSet_rollout hbuilt
  have hkey : Resource.key set = setKey c t.nodePool.name := Prod.ext hnamespace hname
  rw [hkey] at hfresh
  have hempty := h.consistent.missing t.nodePool hnp hfresh
  have htarget : (Action.createNodePool t).target.nodePool = t.nodePool := rfl
  refine h.put hchosen htarget hnp hkey ⟨hname, ?_⟩ (fun _ => hannotated) ?_
  · rw [hlabels]
    exact podLabels_poolName c t.nodePool (h.consistent.accepted.poolNamed t.nodePool hnp)
  · intro before after _
    refine ⟨c.spec.version.string, hannotated, hreplicas, ?_, by rw [htemplate]; rfl, ?_, ?_⟩
    · rw [hstatus]
      refine ⟨le_refl 0, ?_⟩
      cases hdesired : set.spec.replicas with
      | none => exact le_refl 0
      | some replicas =>
          exact h.consistent.accepted.nonneg t.nodePool hnp replicas (hreplicas ▸ hdesired)
    · rw [hempty]
      exact Sound.empty _
    · intro plan hplan
      obtain ⟨replicas, template, _, htemplate', rfl⟩ := planOf_eq_some_iff.mp hplan
      rw [hempty]
      exact .steady c.spec.version image rfl himage
        (Steady.empty (Option.some.inj (htemplate'.symm.trans htemplate))) (Or.inl rfl)

/-- `UpdateVersion` keeps the phases: what is accepted was built from what is
stored. -/
theorem Underway.update {imageVersion : String → Version} (htags : TagsRun imageVersion)
    (hstart : FreshStart c sets fleets state) {api : ApiServer}
    (h : Underway c sets fleets state api) {t : Target}
    (hchosen : nextAction state c = .ok (some (.updateVersion t))) {written stored : StatefulSet}
    (hwrites : UpdateVersion.Writes state t written)
    (hfound : api.statefulSets.get (Resource.key written) = some stored)
    (hunchanged : Resource.version written = Resource.version stored) :
    Underway c sets fleets state
      { api with statefulSets := api.statefulSets.put written } := by
  obtain ⟨before, after, hsplit, hbefore, hcluster, _⟩ := nextAction_updateVersion hchosen
  obtain ⟨cluster, np⟩ := t
  have hcluster : cluster = c := hcluster
  subst hcluster
  have hnp : np ∈ cluster.spec.nodePools := (nextAction_target hchosen).2
  have hkey : Resource.key written = setKey cluster np.name := hwrites.key
  have hcached : ∀ set ∈ state.statefulSetLister.items,
      Resource.version written = Resource.version set → set = stored := fun set hset hversion =>
    api.statefulSets.history_unique set
      (h.history set (hstart.current.cache.2 set hset)) stored
      (ObjectStore.mem_history_of_get hfound) (hversion.symm.trans hunchanged)
  rw [hkey] at hfound
  -- the pools before need nothing, so they are done, and stay so
  have hturn : Turn cluster api.statefulSets before := by
    intro other hother
    obtain ⟨set, hget, hannotated, _⟩ := nextActionForNodePool_eq_none (hbefore other hother)
    exact h.upgraded other.name ⟨set, Lister.get_of_current hstart.current hget, hannotated⟩
  obtain ⟨text, hpool⟩ := h.consistent.stored before np after hsplit stored hfound
  have hsplits : ∀ before' after', cluster.spec.nodePools = before' ++ np :: after' →
      Turn cluster api.statefulSets before' := by
    intro before' after' hsplit'
    have hnodup := List.Nodup.of_map _ hstart.consistent.accepted.distinct
    rw [hsplit, List.nodup_append, List.nodup_cons] at hnodup
    have hout : np ∉ before := fun hin =>
      hnodup.2.2 np hin np List.mem_cons_self rfl
    have hsame : before = before' :=
      ((List.append_cons_inj_of_notMem hout hnodup.2.1.1).mp (hsplit.symm.trans hsplit')).1
    exact hsame ▸ hturn
  have hagree := hstart.pilots np hnp
  cases hwrites with
  | complete hproceeds hup =>
      have hsame := hcached _ (Lister.get_ok hproceeds.cached).1 (by simp [UpdateVersion.completed])
      subst hsame
      have hready := hstart.ready np hnp _ (Lister.get_of_current hstart.current hproceeds.cached)
      have hdone := hpool.complete hstart.consistent.accepted hnp hagree hready hproceeds hup
      refine h.put hchosen rfl hnp hkey (h.consistent.pool_of_get hfound).1
        (fun _ => hdone.annotated) ?_
      exact fun before' after' hsplit' =>
        ⟨_, hdone.mono fun _ => hsplits before' after' hsplit'⟩
  | advance hproceeds _ _ hlast =>
      have hsame := hcached _ (Lister.get_ok hproceeds.cached).1 (by simp [UpdateVersion.advanced])
      subst hsame
      have hready := hstart.ready np hnp _ (Lister.get_of_current hstart.current hproceeds.cached)
      have hnext := hpool.advance htags hstart.consistent.accepted hstart.consistent.typed hnp
        hagree hready hproceeds hlast hturn
      refine h.put hchosen rfl hnp hkey (h.consistent.pool_of_get hfound).1 ?_ ?_
      · rintro ⟨set, hget, hannotated⟩
        have hsame := Option.some.inj (hget.symm.trans hfound)
        exact hsame ▸ hannotated
      · exact fun before' after' hsplit' =>
          ⟨_, hnext.mono fun _ => hsplits before' after' hsplit'⟩

/-- No scale is chosen: the replicas of a stored StatefulSet are those of its
pool. -/
theorem FreshStart.not_scale (h : FreshStart c sets fleets state) {t : Target} {replicas : Int} :
    nextAction state c ≠ .ok (some (.scale t replicas)) := by
  intro hchosen
  obtain ⟨before, np, after, hsplit, _, hpool⟩ := nextActionFrom_eq_some hchosen
  rcases nextActionForNodePool_eq_some hpool with
    hcreate | ⟨set, text, hget, _, ⟨hupdate, _⟩ | ⟨current, desired, _, _, hcurrent, hdesired,
      hdiffer⟩⟩
  · cases hcreate
  · cases hupdate
  · obtain ⟨text, hstate⟩ := h.consistent.stored before np after hsplit set
      (Lister.get_of_current h.current hget)
    have hsame := hstate.replicas
    rw [hcurrent] at hsame
    exact hdiffer (Option.some.inj (hsame.trans hdesired))

/-- Nothing is collected: every StatefulSet belongs to a pool of the spec. -/
theorem FreshStart.not_collected (h : FreshStart c sets fleets state) {selector : Selector}
    {listed : List StatefulSet} {set : StatefulSet}
    (hselector : selectorForCluster c.metadata.name = .ok selector)
    (hlist : state.statefulSetLister.list c.metadata.namespaceName selector = .ok listed) :
    set ∉ unclaimed c.spec.nodePools listed := by
  have hnamed : ∀ other ∈ listed, ∃ np ∈ c.spec.nodePools,
      NamedAfterPool c np.name other := by
    intro other hother
    obtain ⟨np, hnp, _, hname⟩ := h.consistent.named other
      (h.current.mem_iff.mp ((Lister.mem_list hlist).mp hother).1)
    exact ⟨np, hnp, hname⟩
  intro hrest
  obtain ⟨np, hnp, hname⟩ := hnamed set (mem_of_mem_unclaimed hrest)
  refine not_mem_unclaimed h.consistent.accepted h.current.cache.1 hselector hlist ?_ hnp
    hname.1 hrest
  intro other hother
  obtain ⟨np', _, hname'⟩ := hnamed other hother
  exact ⟨np'.name, hname'⟩

/-- Every request of the `Sync` keeps what holds while it runs. -/
theorem Underway.serve {imageVersion : String → Version} (htags : TagsRun imageVersion)
    (hstart : FreshStart c sets fleets state) (api : ApiServer) (request : Request)
    (h : Underway c sets fleets state api) (hrequest : SyncRequest state c request) :
    Underway c sets fleets state (api.serve request).2 := by
  apply ApiServer.serve_preserves (Underway c sets fleets state)
  · exact fun api faults h => ⟨h.consistent, h.history, h.upgraded, h.frame⟩
  · intro api api' h heffect
    cases hrequest with
    | event =>
        cases heffect
        exact h
    | ensure =>
        cases heffect
        exact ⟨h.consistent, h.history, h.upgraded, h.frame⟩
    | collect _ hselector hlist hrest =>
        exact absurd hrest (hstart.not_collected hselector hlist)
    | @act action _ hchosen hissues =>
        cases action with
        | scale t replicas => exact absurd hchosen hstart.not_scale
        | createNodePool t =>
            cases hissues with
            | event =>
                cases heffect
                exact h
            | create hbuilt =>
                cases heffect with
                | createStatefulSet hfresh => exact h.create hchosen hbuilt hfresh
        | updateVersion t =>
            cases hissues with
            | event =>
                cases heffect
                exact h
            | update hwrites =>
                cases heffect with
                | updateStatefulSet hfound hunchanged =>
                    exact h.update htags hstart hchosen hwrites hfound hunchanged
  · exact h

end Sync

namespace Upgrade

variable {imageVersion : String → Version} {s s' : Upgrade}

/-- What a step can do. -/
theorem step_cases {event : Step} (h : s.step imageVersion event = some s') :
    (∃ version, event = .edit version ∧
      validateElasticsearchClusterUpdate s.cluster (withVersion s.cluster version) = .ok [] ∧
      s' = { s with cluster := withVersion s.cluster version }) ∨
    (∃ env status faults, event = .sync env status faults ∧ World.CachesOf s.api env.state ∧
      s' = { s with api := ((s.world status).syncRun env faults).2 }) ∨
    (∃ poolName status set, event = .observe poolName status ∧
      s.api.statefulSets.get (setKey s.cluster poolName) = some set ∧
      (0 ≤ status.updatedReplicas ∧ status.updatedReplicas ≤ set.spec.replicas.getD 0) ∧
      s' = { s with api := { s.api with
        statefulSets := s.api.statefulSets.put { set with status := status } } }) ∨
    ∃ poolName step set plan fleet, event = .run poolName step ∧
      s.api.statefulSets.get (setKey s.cluster poolName) = some set ∧ planOf set = some plan ∧
      (s.fleets poolName).Move imageVersion plan step fleet ∧
      s' = { s with fleets := Function.update s.fleets poolName fleet } := by
  cases event with
  | edit version =>
      simp only [step, Option.ite_none_right_eq_some, Option.some.injEq] at h
      exact Or.inl ⟨version, rfl, h.1, h.2.symm⟩
  | sync env status faults =>
      simp only [step, Option.ite_none_right_eq_some, Option.some.injEq] at h
      exact Or.inr (Or.inl ⟨env, status, faults, rfl, h.1, h.2.symm⟩)
  | observe poolName status =>
      simp only [step, Option.bind_eq_some_iff, Option.ite_none_right_eq_some,
        Option.some.injEq] at h
      obtain ⟨set, hget, hupdated, rfl⟩ := h
      exact Or.inr (Or.inr (Or.inl ⟨poolName, status, set, rfl, hget, hupdated, rfl⟩))
  | run poolName step =>
      simp only [Upgrade.step, Option.bind_eq_some_iff, Option.map_eq_some_iff] at h
      obtain ⟨plan, ⟨set, hget, hplan⟩, fleet, hfleet, rfl⟩ := h
      exact Or.inr (Or.inr (Or.inr ⟨poolName, step, set, plan, fleet, rfl, hget, hplan,
        Fleet.move_of_step hfleet, rfl⟩))

/-- The invariant of the whole system. -/
def Inv (s : Upgrade) : Prop := Consistent s.cluster s.api.statefulSets s.fleets

theorem Inv.of_created (h : Created s) : Inv s := by
  obtain ⟨⟨hvalid, htyped, hempty, _⟩, hfleets⟩ := h
  have hempty : s.api.statefulSets = .empty := hempty
  refine ⟨ElasticsearchCluster.accepted hvalid, htyped, ?_, ?_, ?_⟩
  · rw [hempty]
    intro set hset
    cases hset
  · intro np _ _
    rw [hfleets]
  · rw [hempty]
    intro before np after _ set hget
    cases hget

theorem Inv.edit (htags : TagsRun imageVersion) (h : Inv s) (hidle : s.Idle) {version : Version}
    (hvalid : validateElasticsearchClusterUpdate s.cluster (withVersion s.cluster version) =
      .ok []) : Inv { s with cluster := withVersion s.cluster version } := by
  refine ⟨(ElasticsearchCluster.accepted_update h.accepted hvalid).1, h.typed, h.named, h.missing,
    ?_⟩
  intro before np after hsplit set hget
  obtain ⟨text, hpool⟩ := h.stored before np after hsplit set hget
  have hnp : np ∈ s.cluster.spec.nodePools := by
    have hsplit : s.cluster.spec.nodePools = before ++ np :: after := hsplit
    rw [hsplit]
    exact List.mem_append_right before List.mem_cons_self
  refine ⟨text, hpool.annotated, hpool.replicas, hpool.updated, hpool.image, hpool.sound, ?_⟩
  intro plan hplan
  exact (hpool.phase plan hplan).edit htags hpool.annotated
    (hidle np hnp set hget plan hplan) version _

theorem Inv.observe (h : Inv s) {poolName : String} {status : StatefulSetStatus}
    {set : StatefulSet} (hget : s.api.statefulSets.get (setKey s.cluster poolName) = some set)
    (hupdated : 0 ≤ status.updatedReplicas ∧
      status.updatedReplicas ≤ set.spec.replicas.getD 0) :
    Inv { s with api := { s.api with
      statefulSets := s.api.statefulSets.put { set with status := status } } } := by
  obtain ⟨hnamed, np, hnp, rfl⟩ := h.pool_of_get hget
  have hset := ObjectStore.key_of_get hget
  have hkey : Resource.key ({ set with status := status } : StatefulSet) =
      setKey s.cluster np.name := hset
  refine Consistent.put h hnp hkey hnamed ?_ ?_
  · rintro ⟨stored, hstored, hannotated⟩
    have hsame : set = stored := Option.some.inj (hget.symm.trans hstored)
    subst hsame
    exact hannotated
  · intro before after hsplit
    obtain ⟨text, hpool⟩ := h.stored before np after hsplit set hget
    exact ⟨text, hpool.annotated, hpool.replicas, hupdated, hpool.image, hpool.sound,
      hpool.phase⟩

theorem Inv.run (htags : TagsRun imageVersion) (h : Inv s) {poolName : String}
    {set : StatefulSet} {plan : Plan String} {step : RollingUpdate.Step}
    {fleet : Fleet String Version}
    (hget : s.api.statefulSets.get (setKey s.cluster poolName) = some set)
    (hplan : planOf set = some plan)
    (hmove : (s.fleets poolName).Move imageVersion plan step fleet) :
    Inv { s with fleets := Function.update s.fleets poolName fleet } := by
  refine ⟨h.accepted, h.typed, h.named, ?_, ?_⟩
  · intro np hnp hnone
    by_cases hname : np.name = poolName
    · rw [hname, hget] at hnone
      cases hnone
    · simp only [Function.update_of_ne hname]
      exact h.missing np hnp hnone
  · intro before np after hsplit stored hstored
    obtain ⟨text, hpool⟩ := h.stored before np after hsplit stored hstored
    by_cases hname : np.name = poolName
    · subst hname
      have hsame : set = stored := Option.some.inj (hget.symm.trans hstored)
      subst hsame
      simp only [Function.update_self]
      exact ⟨text, hpool.move htags hplan hmove⟩
    · simp only [Function.update_of_ne hname]
      exact ⟨text, hpool⟩

/-- The copy of the cluster that a `Sync` works on. -/
def syncCopy (s : Upgrade) (env : Environment) (status : ElasticsearchClusterStatus) : Cluster :=
  withPausedConditions env.now (withStatus s.cluster status)

theorem Inv.freshStart (h : Inv s) {env : Environment} (hfresh : s.Fresh env.state)
    (status : ElasticsearchClusterStatus) :
    FreshStart (s.syncCopy env status) s.api.statefulSets s.fleets env.state :=
  ⟨consistent_withStatus.mpr (consistent_withStatus.mpr h), hfresh.1, hfresh.2.1, hfresh.2.2⟩

theorem FreshStart.underway {c : Cluster} {api : ApiServer} {state : State}
    {fleets : String → Fleet String Version}
    (h : FreshStart c api.statefulSets fleets state) (faults : List (Option Fault)) :
    Underway c api.statefulSets fleets state { api with faults := faults } :=
  ⟨h.consistent, fun _ hset => hset, fun _ hupgraded => hupgraded, fun _ _ _ _ => rfl⟩

theorem Inv.sync (htags : TagsRun imageVersion) (h : Inv s) {env : Environment}
    (hfresh : s.Fresh env.state) (status : ElasticsearchClusterStatus)
    (faults : List (Option Fault)) :
    Inv { s with api := ((s.world status).syncRun env faults).2 } := by
  have hstart := h.freshStart hfresh status
  have hrun : Underway (s.syncCopy env status) s.api.statefulSets s.fleets env.state
      ((s.world status).syncRun env faults).2 :=
    syncRun_preserves (Underway (s.syncCopy env status) s.api.statefulSets s.fleets env.state)
      (Underway.serve htags hstart) (FreshStart.underway hstart faults)
  exact consistent_withStatus.mp (consistent_withStatus.mp hrun.consistent)

/-- The invariant holds throughout a run in which Syncs read fresh caches and
edits wait for the rollout before them. -/
theorem inv_of_reachable (htags : TagsRun imageVersion)
    (hreach : (machine imageVersion).Reachable settledEdits s) : Inv s := by
  apply Machine.Reachable.invariant Inv _ _ hreach
  · exact fun s hcreated => Inv.of_created hcreated
  · intro s event s' h hok hstep
    rcases step_cases hstep with ⟨version, rfl, hvalid, rfl⟩ |
      ⟨env, status, faults, rfl, _, rfl⟩ | ⟨poolName, status, set, rfl, hget, hupdated, rfl⟩ |
      ⟨poolName, step, set, plan, fleet, rfl, hget, hplan, hmove, rfl⟩
    · exact h.edit htags hok hvalid
    · exact h.sync htags hok status faults
    · exact h.observe hget hupdated
    · exact h.run htags hget hplan hmove

end Upgrade

end Elasticsearch

end Navigator
