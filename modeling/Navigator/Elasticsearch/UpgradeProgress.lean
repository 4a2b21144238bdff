/-
Progress of an upgrade: when the pods of a pool are at rest and one of them does
not run the version of the spec, the next `Sync` updates the StatefulSet of the
pool, provided that edits wait for the rollout before them.
-/
import Navigator.Elasticsearch.MinimumMasters
import Navigator.Elasticsearch.UpgradeInvariant

namespace Navigator

open ControlLoop

namespace Elasticsearch

open RollingUpdate

/-- `status.updatedReplicas` of a StatefulSet: the pods at the update revision
while it differs from the current one. -/
def updatedCount (plan : Plan String) (fleet : Fleet String Version) : Nat :=
  if fleet.current = some plan.template then 0
  else runCount fleet plan.template plan.replicas

/-- Every pod is ready and has reported the version of its image, and the
StatefulSet controller has none to replace. -/
structure Quiescent (imageVersion : String → Version) (plan : Plan String)
    (fleet : Fleet String Version) : Prop where
  ready : ∀ i < plan.replicas, ∃ r ∈ fleet.pods i, r.ready = true
  reported : ∀ i < plan.replicas, ∀ r ∈ fleet.pods i,
    fleet.reported i = some (imageVersion r.revision)
  replaced : ∀ i < plan.replicas, plan.partition ≤ i → ¬ Outdated plan fleet i

/-- The request updates the StatefulSet stored under the key. -/
def updatesSet (key : String × String) : Request → Bool
  | .updateStatefulSet set => Resource.key set = key
  | _ => false

namespace Upgrade

/-- Fresh caches in which the counter of updated replicas is exact too. -/
def Exact (s : Upgrade) (state : State) : Prop :=
  s.Fresh state ∧ ∀ np ∈ s.cluster.spec.nodePools,
    ∀ set ∈ s.api.statefulSets.get (setKey s.cluster np.name), ∀ plan ∈ planOf set,
      set.status.updatedReplicas = updatedCount plan (s.fleets np.name)

instance (s : Upgrade) (state : State) : Decidable (s.Exact state) :=
  inferInstanceAs (Decidable (_ ∧ _))

/-- Syncs read fresh caches with exact counters. -/
def exactSyncs (s : Upgrade) : Step → Prop
  | .sync env _ _ => s.Exact env.state
  | _ => True

instance (s : Upgrade) : (event : Step) → Decidable (s.exactSyncs event)
  | .sync env _ _ => inferInstanceAs (Decidable (s.Exact env.state))
  | .edit _ => isTrue trivial
  | .observe _ _ => isTrue trivial
  | .run _ _ => isTrue trivial

/-- Nothing outside the node pools ends the `Sync` early. -/
structure Undisturbed (s : Upgrade) (env : Environment) : Prop where
  unpaused : s.cluster.spec.navigatorClusterConfig.paused = false
  serviceAccount : env.serviceAccount = none
  service : env.service = none
  role : env.role = none
  roleBinding : env.roleBinding = none
  configMaps : ConfigMapsCurrent s.api env.state
  statefulSets : env.state.statefulSetLister.failure = none
  pilots : env.state.pilotLister.failure = none

end Upgrade

/-- A lookup in a cache that is up to date finds what is stored. -/
theorem lister_get_of_current {sets : ObjectStore StatefulSet} {lister : Lister StatefulSet}
    (hworks : lister.failure = none) (hcurrent : sets.Current lister.items) {resource : String}
    {namespaceName name : String} {set : StatefulSet}
    (hget : sets.get (namespaceName, name) = some set) :
    lister.get resource namespaceName name = .ok set := by
  obtain ⟨hmem, hkey⟩ := sets.get_eq_some_iff.mp hget
  obtain ⟨found, hfound⟩ := Lister.exists_get_of_mem resource hworks
    (hcurrent.mem_iff.mpr hmem) hkey
  have hsame := (Lister.get_of_current hcurrent hfound).symm.trans hget
  rw [hfound, Option.some.inj hsame]

section ConfigMaps

variable {state : State} {c : Cluster} {np : NodePool} {api : ApiServer}

/-- The ConfigMap of the pool is cached, or it does not exist. -/
def ConfigMapKnown (state : State) (c : Cluster) (api : ApiServer) (np : NodePool) : Prop :=
  (∃ configMap, state.configMapLister.get "configmap" c.metadata.namespaceName
    (configMapName c np) = .ok configMap) ∨
  ((∃ e, state.configMapLister.get "configmap" c.metadata.namespaceName (configMapName c np) =
    .error e ∧ e.isNotFound = true) ∧ api.configMaps.get (configMapKey c np) = none)

theorem configMapKnown_of_current (h : ConfigMapsCurrent api state) (c : Cluster)
    (np : NodePool) : ConfigMapKnown state c api np := by
  obtain ⟨hworks, hcurrent⟩ := h
  cases hfind : state.configMapLister.items.find? fun object =>
      Resource.key object = (c.metadata.namespaceName, configMapName c np) with
  | some configMap => exact Or.inl ⟨configMap, by simp [Lister.get, hworks, hfind]⟩
  | none =>
      refine Or.inr ⟨⟨newNotFound "configmap" (configMapName c np),
        by simp [Lister.get, hworks, hfind], rfl⟩, ?_⟩
      apply api.configMaps.get_eq_none_iff.mpr
      intro object hobject hkey
      exact List.find?_eq_none.mp hfind object (hcurrent.mem_iff.mpr hobject)
        (decide_eq_true hkey)

/-- One round of the ConfigMap loop, without faults: at most the ConfigMap of the
pool is added. -/
theorem ensureNodePoolConfigMap_run {configMap : ConfigMap}
    (hbuilt : esConfigConfigMap c np = .ok configMap)
    (hkey : Resource.key configMap = configMapKey c np) (hfaults : api.faults = [])
    (hknown : ConfigMapKnown state c api np) :
    ∃ api', (ensureNodePoolConfigMap state c np).run ApiServer.serve api = (.ok (), api') ∧
      api'.faults = [] ∧ ∀ key, key ≠ configMapKey c np →
        api'.configMaps.get key = api.configMaps.get key := by
  have hkeys : (namespaceOf configMap, nameOf configMap) =
      (c.metadata.namespaceName, configMapName c np) := hkey
  obtain ⟨hnamespace, hname⟩ := Prod.mk.inj hkeys
  rcases hknown with ⟨cached, hcached⟩ | ⟨⟨e, hmissing, hnotFound⟩, hnone⟩
  · refine ⟨api, ?_, hfaults, fun _ _ => rfl⟩
    simp [ensureNodePoolConfigMap, hbuilt, ensureConfigMap, hnamespace, hname, hcached,
      Prog.mapFail, Prog.run]
  · refine ⟨{ api with configMaps := api.configMaps.put configMap }, ?_, hfaults, ?_⟩
    · rw [← hkey] at hnone
      have hcreate : api.configMaps.create configMap = .ok (api.configMaps.put configMap) :=
        ObjectStore.create_eq_ok_iff.mpr ⟨hnone, rfl⟩
      have hserve : api.serve (.createConfigMap configMap) =
          (none, { api with configMaps := api.configMaps.put configMap }) := by
        simp [ApiServer.serve, hfaults, ApiServer.perform, hcreate]
      simp [ensureNodePoolConfigMap, hbuilt, ensureConfigMap, hnamespace, hname, hmissing,
        hnotFound, issue, Prog.mapFail, Prog.run, hserve]
    · intro key hother
      simp only [ObjectStore.get_put]
      rw [if_neg (hkey ▸ hother)]

/-- The ConfigMap stage ends well on current caches and without faults. -/
theorem syncConfigMaps_run (hbuilds : ∃ m, minimumMasterNodes c.spec = .ok m)
    {pools : List NodePool} (hdistinct : (pools.map ElasticsearchClusterNodePool.name).Nodup)
    (hfaults : api.faults = []) (hknown : ∀ np ∈ pools, ConfigMapKnown state c api np) :
    ∃ api', (Prog.forEach pools (ensureNodePoolConfigMap state c)).run ApiServer.serve api =
      (.ok (), api') := by
  -- the invariant: the ConfigMaps of the pools to come are as the cache says
  induction pools generalizing api with
  | nil => exact ⟨api, rfl⟩
  | cons np rest ih =>
      obtain ⟨m, hm⟩ := hbuilds
      have hbuilt : ∃ configMap, esConfigConfigMap c np = .ok configMap := by
        simp [esConfigConfigMap, generateConfig, hm, Except.map, bind, Except.bind, pure,
          Except.pure]
      obtain ⟨configMap, hbuilt⟩ := hbuilt
      obtain ⟨api', hrun, hfaults', hframe⟩ := ensureNodePoolConfigMap_run hbuilt
        (esConfigConfigMap_eq_ok hm hbuilt).1 hfaults (hknown np List.mem_cons_self)
      have hdistinct := List.nodup_cons.mp hdistinct
      have hrest : ∀ other ∈ rest, ConfigMapKnown state c api' other := by
        intro other hother
        refine (hknown other (List.mem_cons_of_mem np hother)).imp_right ?_
        rintro ⟨hmissing, hnone⟩
        refine ⟨hmissing, ?_⟩
        rw [hframe, hnone]
        intro heq
        have hname : other.name = np.name := nodePoolResourceName_injective (Prod.mk.inj heq).2
        exact hdistinct.1 (hname ▸ List.mem_map_of_mem hother)
      obtain ⟨api'', hrest⟩ := ih hdistinct.2 hfaults' hrest
      refine ⟨api'', ?_⟩
      change (ensureNodePoolConfigMap state c np >>= fun _ => _).run ApiServer.serve api = _
      rw [Prog.run_bind, hrun]
      exact hrest

end ConfigMaps

section Progress

variable {state : State} {c : Cluster} {np : NodePool}

/-- Past the stages before it, a `Sync` issues what the action for the node pools
issues. -/
theorem mem_calls_sync {env : Environment} {action : Action} {api : ApiServer}
    (hunpaused : c.spec.navigatorClusterConfig.paused = false)
    (hcontrols : env.serviceAccount = none ∧ env.service = none ∧ env.role = none ∧
      env.roleBinding = none)
    (hconfigMaps : ∃ api', (syncConfigMaps env.state (withPausedConditions env.now c)).run
      ApiServer.serve api = (.ok (), api'))
    (hchosen : nextAction env.state (withPausedConditions env.now c) = .ok (some action))
    {request : Request}
    (hissues : ∀ api, (api, request) ∈ (action.execute env.state).calls ApiServer.serve api) :
    ∃ met, (met, request) ∈ (sync env c).calls ApiServer.serve api := by
  obtain ⟨api', hrun⟩ := hconfigMaps
  obtain ⟨haccount, hservice, hrole, hbinding⟩ := hcontrols
  refine ⟨api', ?_⟩
  have hnodePools : (api', request) ∈ (syncNodePools env.state
      (withPausedConditions env.now c)).calls ApiServer.serve api' := by
    unfold syncNodePools
    simp only [hchosen]
    apply Prog.mem_calls_bind_left
    rw [Prog.calls_attempt]
    exact hissues api'
  have hstage : (handling (syncConfigMaps env.state (withPausedConditions env.now c)) fun e =>
      record .warning errorSync ("Error syncing config map: " ++ e.error)).run
        ApiServer.serve api = (.ok none, api') := by
    unfold handling
    rw [Prog.run_bind, Prog.run_attempt, hrun]
    rfl
  unfold sync
  simp only [withPausedConditions_spec, hunpaused, Bool.false_eq_true, if_false]
  apply Prog.mem_calls_bind_left
  simp only [syncStages, haccount, hservice, hrole, hbinding, subControl]
  exact Prog.mem_calls_bind_right hstage hnodePools

/-- The pools before are done, so the first action is for this one. -/
theorem nextAction_of_split {before after : List NodePool} {action : Action}
    (hsplit : c.spec.nodePools = before ++ np :: after)
    (hbefore : ∀ other ∈ before, nextActionForNodePool state ⟨c, other⟩ = .ok none)
    (hpool : nextActionForNodePool state ⟨c, np⟩ = .ok (some action)) :
    nextAction state c = .ok (some action) := by
  have hfrom : ∀ pools : List NodePool,
      (∀ other ∈ pools, nextActionForNodePool state ⟨c, other⟩ = .ok none) →
        nextActionFrom state c (pools ++ np :: after) = .ok (some action) := by
    intro pools hpools
    induction pools with
    | nil => simp only [List.nil_append, nextActionFrom, hpool]
    | cons other rest ih =>
        simp only [List.cons_append, nextActionFrom, hpools other List.mem_cons_self]
        exact ih fun pool hmem => hpools pool (List.mem_cons_of_mem other hmem)
  rw [nextAction, hsplit]
  exact hfrom before hbefore

/-- With all checks passed, a Pilot that is behind, something to change and the
last Pilot up to date, `UpdateVersion` issues its update first. -/
theorem UpdateVersion.Proceeds.issues {t : Target} {set : StatefulSet} {replicas : Int}
    {existing : String} {image : ImageSpec}
    (h : UpdateVersion.Proceeds state t set replicas existing image)
    (hbehind : UpdateVersion.pilotsUpToDate state t set ≠ none)
    (hchanges : set.partition ≠ UpdateVersion.nextPartition replicas set.status.updatedReplicas ∨
      existing ≠ image.reference)
    (hlast : UpdateVersion.lastPilotError state t set replicas
      (UpdateVersion.nextPartition replicas set.status.updatedReplicas) = .ok none)
    (api : ApiServer) :
    (api, Request.updateStatefulSet (UpdateVersion.advanced set
      (UpdateVersion.nextPartition replicas set.status.updatedReplicas) image.reference)) ∈
        (UpdateVersion.execute state t).calls ApiServer.serve api := by
  obtain ⟨e, he⟩ := Option.ne_none_iff_exists'.mp hbehind
  rw [h.execute_eq]
  unfold UpdateVersion.decideWrite
  simp only [he, if_pos hchanges, hlast]
  apply Prog.mem_calls_bind_left
  exact List.mem_cons_self

/-- The pool that is at rest with a pod behind: which pod is next, and that the
one above it is done. -/
theorem Phase.next {imageVersion : String → Version} (htags : TagsRun imageVersion)
    {spec : ElasticsearchClusterSpec} {turn : Prop} {text : String} {plan : Plan String}
    {fleet : Fleet String Version} (h : Phase spec turn text plan fleet)
    (hsound : Sound plan.replicas fleet) (hunpinned : spec.image = none) {image : ImageSpec}
    (himage : esImageToUse spec = .ok image) (hquiescent : Quiescent imageVersion plan fleet)
    {i : Nat} (hi : i < plan.replicas) {r : Replica String} (hr : r ∈ fleet.pods i)
    (hbehind : (imageVersion r.revision).equal spec.version = false) :
    (∃ version : Version, text = version.string ∧ version.equal spec.version = false) ∧
      ∃ next < plan.replicas, updatedCount plan fleet = plan.replicas - 1 - next ∧
        (plan.partition ≠ next ∨ plan.template ≠ image.reference) ∧
        (next + 1 < plan.replicas → Reports (UpToDate spec) fleet (next + 1)) := by
  rcases h with h | ⟨version, old, htext, hrunning, hsteady, hsettled⟩ |
    ⟨version, old, new, htext, hdiffers, _, hleft, hwanted, htemplate, hserial, _⟩
  · omega
  · -- nothing has started: the highest pod is first, and the image is another
    have hold := labelled_image htags hrunning hunpinned
    have hdiffers : version.equal spec.version = false := by
      rw [hsteady.revisions i r hr] at hbehind
      by_contra hequal
      rw [Bool.not_eq_false] at hequal
      rw [Version.equal_trans hold hequal] at hbehind
      cases hbehind
    obtain ⟨hnotUp, hup⟩ := images_of_rollout htags hdiffers hunpinned hrunning himage
    have hsettled : Settled old.reference fleet := by
      refine hsettled.resolve_left fun heq => ?_
      rw [Version.string_injective (htext.symm.trans heq), Version.equal_refl] at hdiffers
      cases hdiffers
    have hcurrent : fleet.current = some plan.template := by
      rw [hsteady.template]
      exact hsettled.resolve_left (hsound.adopted i r hr)
    refine ⟨⟨version, htext, hdiffers⟩, plan.replicas - 1, by omega, ?_, Or.inr ?_, by omega⟩
    · rw [updatedCount, if_pos hcurrent]
      omega
    · rw [hsteady.template]
      exact fun heq => hnotUp (heq ▸ hup)
  · have hsame : new = image := Except.ok.inj (hwanted.symm.trans himage)
    subst hsame
    obtain ⟨hnotUp, hup⟩ := images_of_rollout htags hdiffers hunpinned hleft hwanted
    have hnot : ¬ Runs fleet new.reference i := by
      rintro ⟨r', hr', hnew⟩
      rw [Option.some.inj (hr.symm.trans hr'), hnew] at hbehind
      rw [hup] at hbehind
      cases hbehind
    obtain ⟨next, hnext, hnotNext, habove⟩ := exists_last_not_runs ⟨i, hi, hnot⟩
    have hcurrent : fleet.current = some old.reference :=
      hserial.current.resolve_right fun hall => hnotNext (hall.2 next hnext)
    have hcount : updatedCount plan fleet = plan.replicas - 1 - next := by
      have hother : fleet.current ≠ some plan.template := by
        rw [hcurrent, htemplate]
        exact fun heq => hnotUp (Option.some.inj heq ▸ hup)
      rw [updatedCount, if_neg hother, htemplate]
      exact hserial.runCount_eq hnext hnotNext habove
    refine ⟨⟨version, htext, hdiffers⟩, next, hnext, hcount, Or.inl ?_, ?_⟩
    · -- the controller would have replaced it already
      intro hpartition
      obtain ⟨pod, hpod, _⟩ := hquiescent.ready next hnext
      apply hquiescent.replaced next hnext (le_of_eq hpartition)
      refine ⟨pod, hpod, fun hrevision => hnotNext ⟨pod, hpod, ?_⟩⟩
      rw [hrevision, htemplate]
    · intro hbound
      obtain ⟨pod, hpod, hrevision⟩ := habove (next + 1) (Nat.lt_succ_self next) hbound
      refine ⟨_, hquiescent.reported (next + 1) hbound pod hpod, ?_⟩
      rw [hrevision]
      exact hup

/-- `UpdateVersion` moves on a pool that is at rest with a pod behind. -/
theorem PoolState.issues_update {imageVersion : String → Version} (htags : TagsRun imageVersion)
    {turn : Prop} {set : StatefulSet} {text : String} {fleet : Fleet String Version}
    {plan : Plan String} (h : PoolState c.spec np turn set text fleet) (haccepted : c.Accepted)
    (htyped : WellTyped c.spec) (hnp : np ∈ c.spec.nodePools) (hunpinned : c.spec.image = none)
    {image : ImageSpec} (himage : esImageToUse c.spec = .ok image)
    (hgreen : c.status.health = some .green) (hplan : planOf set = some plan)
    (hquiescent : Quiescent imageVersion plan fleet) {i : Nat} (hi : i < plan.replicas)
    {r : Replica String} (hr : r ∈ fleet.pods i)
    (hbehind : (imageVersion r.revision).equal c.spec.version = false)
    (hcached : state.statefulSetLister.get "statefulset.apps" c.metadata.namespaceName
      (nodePoolResourceName c np) = .ok set)
    (hready : set.status.readyReplicas = readyCount fleet (replicasOf np))
    (hcounter : set.status.updatedReplicas = updatedCount plan fleet)
    (hagree : PilotsAgree state c np fleet) (hworks : state.pilotLister.failure = none)
    (hpresent : ∀ i < replicasOf np, ∃ p ∈ state.pilotLister.items,
      Resource.key p = pilotKey c np i) :
    c.spec.version.string ≠ text ∧ ∃ written, Resource.key written = setKey c np.name ∧
      ∀ api, (api, Request.updateStatefulSet written) ∈
        (UpdateVersion.execute state ⟨c, np⟩).calls ApiServer.serve api := by
  obtain ⟨replicas, template, hreplicas, htemplate, rfl⟩ := planOf_eq_some_iff.mp hplan
  have hcount : replicas.toNat = replicasOf np := h.plan_replicas hplan
  have hdesired : np.replicas = some replicas := h.replicas.symm.trans hreplicas
  have hnonneg := haccepted.nonneg np hnp replicas hdesired
  have hrange := (htyped.1 np hnp replicas hdesired).2
  obtain ⟨⟨version, htext, hdiffers⟩, next, hnext, hupdated, hchanges, hlast⟩ :=
    (h.phase _ hplan).next htags (hcount.symm ▸ h.sound) hunpinned himage hquiescent hi hr hbehind
  dsimp only at hnext hupdated hchanges hlast hi
  have hname : nameOf set = nodePoolResourceName c np :=
    congrArg Prod.snd (Lister.get_ok hcached).2
  have hproceeds : UpdateVersion.Proceeds state ⟨c, np⟩ set replicas template image := by
    refine ⟨hcached, ⟨.green, hgreen, by decide⟩, ⟨text, version, h.annotated, ?_, ?_⟩, himage,
      hreplicas, ?_, htemplate⟩
    · rw [htext, Version.parse_string]
    · rw [Version.equal_comm]
      exact hdiffers
    · rw [hready, ← hcount, readyCount_eq hquiescent.ready, Int.toNat_of_nonneg hnonneg]
  have hpartition : UpdateVersion.nextPartition replicas set.status.updatedReplicas =
      (next : Int) := by
    rw [UpdateVersion.nextPartition_eq (by omega) (by omega) hrange, hcounter, hupdated]
    omega
  have hpilotsBehind : UpdateVersion.pilotsUpToDate state ⟨c, np⟩ set ≠ none := by
    intro hup
    have hcast : set.spec.replicas = some ((replicas.toNat : Nat) : Int) := by
      rw [hreplicas, Int.toNat_of_nonneg hnonneg]
    obtain ⟨p, hp, hkey, hversion⟩ :=
      UpdateVersion.pilots_of_upToDate hup haccepted.namespaced hcast hi
    rw [hname] at hkey
    obtain ⟨v, hv, hupToDate⟩ := hagree.reports (hcount ▸ hi) hp hkey hversion
    have hreported := hquiescent.reported i hi r hr
    rw [Option.some.inj (hv.symm.trans hreported)] at hupToDate
    rw [hupToDate] at hbehind
    cases hbehind
  have hlastPilot : UpdateVersion.lastPilotError state ⟨c, np⟩ set replicas (next : Int) =
      .ok none := by
    apply (UpdateVersion.lastPilotError_eq_none_iff (by omega) (by omega)).mpr
    intro hbound
    have hbound : next + 1 < replicasOf np := by omega
    obtain ⟨p, hp, hkey⟩ := hpresent (next + 1) hbound
    obtain ⟨found, hfound⟩ :=
      Lister.exists_get_of_mem "pilot.navigator.jetstack.io" hworks hp hkey
    obtain ⟨hitem, hfoundKey⟩ := Lister.get_ok hfound
    refine ⟨found, ?_, ?_⟩
    · rw [hname]
      exact hfound
    · obtain ⟨v, hv, hup⟩ := hlast (by omega)
      have hversion := hagree (next + 1) hbound found hitem hfoundKey
      rw [pilotVersionUpToDate, hversion, Option.mem_def.mp hv]
      exact hup
  refine ⟨?_, UpdateVersion.advanced set next image.reference, ?_, ?_⟩
  · intro heq
    rw [Version.string_injective (heq.trans htext), Version.equal_refl] at hdiffers
    cases hdiffers
  · exact (Lister.get_ok hcached).2
  · have hissues := hproceeds.issues hpilotsBehind
    rw [hpartition] at hissues
    exact hissues hchanges hlastPilot

/-- A pool that is done needs no action. -/
theorem Upgraded.nextAction_none {sets : ObjectStore StatefulSet}
    {fleets : String → Fleet String Version} (h : Consistent c sets fleets)
    (hworks : state.statefulSetLister.failure = none)
    (hcurrent : sets.Current state.statefulSetLister.items) (hnp : np ∈ c.spec.nodePools)
    (hdone : Upgraded c sets np.name) (hreplicas : np.replicas ≠ none) :
    nextActionForNodePool state ⟨c, np⟩ = .ok none := by
  obtain ⟨set, hget, hannotated⟩ := hdone
  obtain ⟨_, _, _, _, hpool⟩ := h.stored_of_mem hnp hget
  obtain ⟨replicas, hdesired⟩ := Option.ne_none_iff_exists'.mp hreplicas
  have hsame := hpool.replicas
  have hcached : state.statefulSetLister.get "statefulset.apps" c.metadata.namespaceName
      (nodePoolResourceName c np) = .ok set := lister_get_of_current hworks hcurrent hget
  unfold annotationOf at hannotated
  simp [nextActionForNodePool, Target.namespaceName, Target.statefulSetName, hcached, hannotated,
    hsame, hdesired]

end Progress

/-- No stuck upgrade: when edits wait for the rollout before them, a pool whose
pods are at rest while one does not run the version of the spec is updated by
the next `Sync`, once the pools before it are done. -/
theorem sync_advances_upgrade {imageVersion : String → Version} (htags : TagsRun imageVersion)
    {s : Upgrade} (hreach : (Upgrade.machine imageVersion).Reachable Upgrade.settledEdits s)
    {before after : List NodePool} {np : NodePool}
    (hsplit : s.cluster.spec.nodePools = before ++ np :: after)
    (hbefore : ∀ other ∈ before,
      Upgraded s.cluster s.api.statefulSets other.name ∧ other.replicas ≠ none)
    (hunpinned : s.cluster.spec.image = none)
    (hversion : ¬ (s.cluster.spec.version.major = 0 ∧ s.cluster.spec.version.minor = 0 ∧
      s.cluster.spec.version.patch = 0))
    {set : StatefulSet} {plan : Plan String}
    (hget : s.api.statefulSets.get (setKey s.cluster np.name) = some set)
    (hplan : planOf set = some plan)
    (hquiescent : Quiescent imageVersion plan (s.fleets np.name))
    (hbehind : ∃ i < plan.replicas, ∃ r ∈ (s.fleets np.name).pods i,
      (imageVersion r.revision).equal s.cluster.spec.version = false)
    {env : Environment} {status : ElasticsearchClusterStatus}
    (hgreen : status.health = some .green) (hexact : s.Exact env.state)
    (hundisturbed : s.Undisturbed env)
    (hpresent : ∀ i < plan.replicas, ∃ p ∈ env.state.pilotLister.items,
      Resource.key p = pilotKey s.cluster np i) :
    (((s.world status).syncCalls env []).any fun call =>
      updatesSet (setKey s.cluster np.name) call.2) = true := by
  obtain ⟨i, hi, r, hr, hbehind⟩ := hbehind
  have hnp : np ∈ s.cluster.spec.nodePools := by
    rw [hsplit]
    exact List.mem_append_right before List.mem_cons_self
  have hstart := (Upgrade.inv_of_reachable htags hreach).freshStart hexact.1 status
  obtain ⟨text, hpool⟩ := hstart.consistent.stored before np after hsplit set hget
  have hcount := hpool.plan_replicas hplan
  have himage : esImageToUse (s.syncCopy env status).spec =
      .ok ⟨defaultElasticsearchImageRepository, s.cluster.spec.version.string,
        pullIfNotPresent⟩ := by
    have hspec : (s.syncCopy env status).spec = s.cluster.spec := rfl
    rw [hspec, esImageToUse, hunpinned]
    exact if_neg hversion
  have hcached : env.state.statefulSetLister.get "statefulset.apps"
      (s.syncCopy env status).metadata.namespaceName
      (nodePoolResourceName (s.syncCopy env status) np) = .ok set :=
    lister_get_of_current hundisturbed.statefulSets hexact.1.1 hget
  obtain ⟨htext, written, hkey, hissues⟩ := hpool.issues_update htags hstart.consistent.accepted
    hstart.consistent.typed hnp hunpinned himage hgreen hplan hquiescent hi hr hbehind hcached
    (hstart.ready np hnp set hget) (hexact.2 np hnp set hget plan hplan) (hstart.pilots np hnp)
    hundisturbed.pilots (hcount ▸ hpresent)
  have hpoolAction : nextActionForNodePool env.state ⟨s.syncCopy env status, np⟩ =
      .ok (some (.updateVersion ⟨s.syncCopy env status, np⟩)) := by
    have hannotated := hpool.annotated
    unfold annotationOf at hannotated
    simp only [nextActionForNodePool, Target.namespaceName, Target.statefulSetName, hcached,
      hannotated, ne_eq, htext, not_false_eq_true, if_true]
  have hdone : ∀ other ∈ before,
      nextActionForNodePool env.state ⟨s.syncCopy env status, other⟩ = .ok none := by
    intro other hother
    have hmem : other ∈ (s.syncCopy env status).spec.nodePools := by
      change other ∈ s.cluster.spec.nodePools
      rw [hsplit]
      exact List.mem_append_left _ hother
    have hupgraded : Upgraded (s.syncCopy env status) s.api.statefulSets other.name :=
      (hbefore other hother).1
    exact hupgraded.nextAction_none hstart.consistent hundisturbed.statefulSets hexact.1.1 hmem
      (hbefore other hother).2
  have hchosen : nextAction env.state (s.syncCopy env status) =
      .ok (some (.updateVersion ⟨s.syncCopy env status, np⟩)) :=
    nextAction_of_split hsplit hdone hpoolAction
  have hminimum : ∃ m, minimumMasterNodes (s.syncCopy env status).spec = .ok m := by
    obtain ⟨masters, hmasters⟩ := hstart.consistent.accepted.counted
    unfold minimumMasterNodes
    split
    · exact ⟨_, rfl⟩
    · exact ⟨_, by rw [hmasters]; rfl⟩
  have hconfigMaps : ∃ api', (syncConfigMaps env.state (s.syncCopy env status)).run
      ApiServer.serve { s.api with faults := [] } = (.ok (), api') :=
    syncConfigMaps_run hminimum hstart.consistent.accepted.distinct rfl fun other _ =>
      configMapKnown_of_current hundisturbed.configMaps (s.syncCopy env status) other
  obtain ⟨met, hmet⟩ := mem_calls_sync (c := withStatus s.cluster status)
    hundisturbed.unpaused ⟨hundisturbed.serviceAccount, hundisturbed.service, hundisturbed.role,
      hundisturbed.roleBinding⟩ hconfigMaps hchosen hissues
  exact List.any_eq_true.mpr ⟨(met, .updateStatefulSet written), hmet, decide_eq_true hkey⟩

namespace UpgradeProgressWitness

open RolloutWitness (tagVersion)

def pool : NodePool := samplePool "all" 2 [.master, .data]

def start : Upgrade :=
  { cluster := sampleCluster "db" "uid-db" (release 6 1 1) [pool], api := {} }

/-- The Pilot of a replica, with the labels of its pool. -/
def pilot (i : Nat) (version : Version) : Pilot where
  metadata :=
    { name := pilotNameForStatefulSetReplica "es-db-all" i
      namespaceName := "default"
      labels := nodePoolLabels start.cluster "all" [] }
  status := { elasticsearch := some { version := some version } }

def after (events : List Upgrade.Step) : Upgrade :=
  ((Upgrade.machine tagVersion).exec start events).getD start

def green : ElasticsearchClusterStatus := { health := some .green }

/-- A `Sync` on caches that show what is there. -/
def syncNow (events : List Upgrade.Step) (pilots : List Pilot) : Upgrade.Step :=
  .sync (World.currentEnv (after events).api pilots) green []

/-- The pool is created and its pods come up. -/
def created : List Upgrade.Step :=
  [syncNow [] [], .run "all" .adopt, .run "all" (.start 0), .run "all" (.start 1),
    .run "all" (.ready 0 true), .run "all" (.ready 1 true), .run "all" (.report 0),
    .run "all" (.report 1), .observe "all" { readyReplicas := 2, currentReplicas := 2 }]

/-- The upgrade to 6.2.0 starts. -/
def upgrading : List Upgrade.Step :=
  created ++ [.edit (release 6 2 0),
    syncNow (created ++ [.edit (release 6 2 0)])
      [pilot 0 (release 6 1 1), pilot 1 (release 6 1 1)]]

/-- One of the two pods is replaced. -/
def halfway : List Upgrade.Step :=
  upgrading ++ [.run "all" (.replace 1), .run "all" (.start 1), .run "all" (.ready 1 true),
    .run "all" (.report 1),
    .observe "all" { readyReplicas := 2, currentReplicas := 1, updatedReplicas := 1 }]

/-- The edit is taken back. -/
def reverted : List Upgrade.Step := halfway ++ [.edit (release 6 1 1)]

def env (events : List Upgrade.Step) : Environment :=
  World.currentEnv (after events).api [pilot 0 (release 6 1 1), pilot 1 (release 6 2 0)]

def storedSet (events : List Upgrade.Step) : StatefulSet :=
  ((after events).api.statefulSets.get (setKey start.cluster "all")).getD {}

/-- What the StatefulSet controller works on. -/
def rolloutPlan : Plan String :=
  ⟨2, "docker.elastic.co/elasticsearch/elasticsearch:6.2.0", 1⟩

theorem start_created : Upgrade.Created start :=
  ⟨⟨by decide +kernel, by decide +kernel, rfl, rfl⟩, rfl⟩

theorem undisturbed {events : List Upgrade.Step}
    (h : (after events).cluster.spec.navigatorClusterConfig.paused = false) :
    (after events).Undisturbed (env events) :=
  ⟨h, rfl, rfl, rfl, rfl, ⟨rfl, List.Perm.refl _⟩, rfl, rfl⟩

/-- What the runs below are checked for, by one evaluation each. -/
def AtRest (events : List Upgrade.Step) : Prop :=
  ((Upgrade.machine tagVersion).exec start events).isSome = true ∧
    (after events).cluster.spec.image = none ∧
    (after events).cluster.spec.navigatorClusterConfig.paused = false ∧
    (after events).api.statefulSets.get (setKey (after events).cluster pool.name) =
      some (storedSet events) ∧
    planOf (storedSet events) = some rolloutPlan ∧
    (∀ i < rolloutPlan.replicas, ∃ r ∈ ((after events).fleets pool.name).pods i,
      r.ready = true) ∧
    (∀ i < rolloutPlan.replicas, ∀ r ∈ ((after events).fleets pool.name).pods i,
      ((after events).fleets pool.name).reported i = some (tagVersion r.revision)) ∧
    (∀ i < rolloutPlan.replicas, rolloutPlan.partition ≤ i →
      ¬ Outdated rolloutPlan ((after events).fleets pool.name) i) ∧
    (after events).Exact (env events).state

instance (events : List Upgrade.Step) : Decidable (AtRest events) :=
  inferInstanceAs (Decidable (_ ∧ _ ∧ _ ∧ _ ∧ _ ∧ _ ∧ _ ∧ _ ∧ _))

theorem AtRest.reachable {ok : Upgrade → Upgrade.Step → Prop} {events : List Upgrade.Step}
    (h : AtRest events) (hmeets : (Upgrade.machine tagVersion).Meets ok start events) :
    (Upgrade.machine tagVersion).Reachable ok (after events) := by
  unfold after
  exact Machine.Reachable.getD_exec (.start start_created) hmeets h.1

theorem AtRest.quiescent {events : List Upgrade.Step} (h : AtRest events) :
    Quiescent tagVersion rolloutPlan ((after events).fleets pool.name) :=
  ⟨h.2.2.2.2.2.1, h.2.2.2.2.2.2.1, h.2.2.2.2.2.2.2.1⟩

/-- Halfway through the next `Sync` updates the StatefulSet. -/
theorem sync_advances_upgrade_halfway :
    ((((after halfway).world green).syncCalls (env halfway) []).any fun call =>
      updatesSet (setKey (after halfway).cluster pool.name) call.2) = true := by
  have hfacts : AtRest halfway ∧
      (Upgrade.machine tagVersion).Meets Upgrade.settledEdits start halfway ∧
      (after halfway).cluster.spec.nodePools = [] ++ pool :: [] ∧
      ¬ ((after halfway).cluster.spec.version.major = 0 ∧
        (after halfway).cluster.spec.version.minor = 0 ∧
        (after halfway).cluster.spec.version.patch = 0) ∧
      (∃ i < rolloutPlan.replicas, ∃ r ∈ ((after halfway).fleets pool.name).pods i,
        (tagVersion r.revision).equal (after halfway).cluster.spec.version = false) ∧
      ∀ i < rolloutPlan.replicas, ∃ p ∈ (env halfway).state.pilotLister.items,
        Resource.key p = pilotKey (after halfway).cluster pool i := by decide +kernel
  obtain ⟨hrest, hmeets, hpools, hversion, hbehind, hpresent⟩ := hfacts
  have hquiescent := hrest.quiescent
  have hreach := hrest.reachable hmeets
  obtain ⟨_, hunpinned, hunpaused, hget, hplan, _, _, _, hexact⟩ := hrest
  exact sync_advances_upgrade tagsRun_tagVersion hreach hpools
    (fun _ hother => absurd hother List.not_mem_nil) hunpinned hversion hget hplan hquiescent
    hbehind rfl hexact (undisturbed hunpaused) hpresent

/-- After the edit was taken back halfway, the pool is stuck: all Pilots are found
by their labels, pod 1 runs 6.2.0 where the spec asks for 6.1.1, and a `Sync`
updates nothing. -/
theorem sync_stuck_after_revert :
    (Upgrade.machine tagVersion).Reachable Upgrade.exactSyncs (after reverted) ∧
      (after reverted).cluster.spec.image = none ∧
      (after reverted).cluster.spec.version = release 6 1 1 ∧
      (after reverted).api.statefulSets.get (setKey (after reverted).cluster pool.name) =
        some (storedSet reverted) ∧
      planOf (storedSet reverted) = some rolloutPlan ∧
      Quiescent tagVersion rolloutPlan ((after reverted).fleets pool.name) ∧
      (∃ r ∈ ((after reverted).fleets pool.name).pods 1,
        tagVersion r.revision = release 6 2 0) ∧
      (after reverted).Exact (env reverted).state ∧
      pilotsForStatefulSet (env reverted).state ⟨(after reverted).cluster, pool⟩
          (storedSet reverted) =
        .ok [pilot 0 (release 6 1 1), pilot 1 (release 6 2 0)] ∧
      (after reverted).Undisturbed (env reverted) ∧
      ((((after reverted).world green).syncCalls (env reverted) []).any fun call =>
        updatesSet (setKey (after reverted).cluster pool.name) call.2) = false := by
  have hfacts : AtRest reverted ∧
      (Upgrade.machine tagVersion).Meets Upgrade.exactSyncs start reverted ∧
      (after reverted).cluster.spec.version = release 6 1 1 ∧
      (∃ r ∈ ((after reverted).fleets pool.name).pods 1, tagVersion r.revision = release 6 2 0) ∧
      pilotsForStatefulSet (env reverted).state ⟨(after reverted).cluster, pool⟩
          (storedSet reverted) =
        .ok [pilot 0 (release 6 1 1), pilot 1 (release 6 2 0)] ∧
      ((((after reverted).world green).syncCalls (env reverted) []).any fun call =>
        updatesSet (setKey (after reverted).cluster pool.name) call.2) = false := by
    decide +kernel
  obtain ⟨hrest, hmeets, hversion, hbehind, hpilots, hnone⟩ := hfacts
  have hquiescent := hrest.quiescent
  have hreach := hrest.reachable hmeets
  obtain ⟨_, hunpinned, hunpaused, hget, hplan, _, _, _, hexact⟩ := hrest
  exact ⟨hreach, hunpinned, hversion, hget, hplan, hquiescent, hbehind, hexact, hpilots,
    undisturbed hunpaused, hnone⟩

end UpgradeProgressWitness

end Elasticsearch

end Navigator
