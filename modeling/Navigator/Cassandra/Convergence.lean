/-
The scale out comes to an end.  When a cluster is no longer edited, the Syncs go on
until every pool has the nodes that it asks for, and from then on no Sync writes a
StatefulSet.  Syncs may see old versions of the cluster and stale caches and may
fail, as long as again and again one of them is not hindered.
-/
import Mathlib.Algebra.Order.BigOperators.Group.List
import Navigator.Base.LeadsTo
import Navigator.Cassandra.JoinInSeries

namespace Navigator

open ControlLoop

namespace Cassandra

/-! ## What a Sync does to the StatefulSets -/

/-- What a `Sync` of `c` does to the StatefulSets: nothing, the create of one that a
pool lacks, or one replica more for a pool whose replicas are all ready. -/
inductive Move (c : Cluster) (sets : ObjectStore StatefulSet) :
    ObjectStore StatefulSet → Prop where
  | rest : Move c sets sets
  | create {np : NodePool} {set : StatefulSet} (pool : np ∈ c.spec.nodePools)
      (missing : sets.get (setKey c np.name) = none)
      (built : statefulSetForCluster c np = .ok set) : Move c sets (sets.put set)
  | grow {np : NodePool} {set : StatefulSet} {current desired : Int}
      (pool : np ∈ c.spec.nodePools) (stored : sets.get (setKey c np.name) = some set)
      (replicas : set.spec.replicas = some current) (wanted : np.replicas = some desired)
      (fewer : current < desired) (ready : set.status.readyReplicas = current)
      (next : (grown set current).spec.replicas = some (current + 1)) :
      Move c sets (sets.put (grown set current))

/-- The status of the cluster does not matter. -/
theorem Move.of_eq {c c' : Cluster} {sets sets' : ObjectStore StatefulSet}
    (h : Move c' sets sets') (hmetadata : c'.metadata = c.metadata) (hspec : c'.spec = c.spec) :
    Move c sets sets' := by
  have hkey : ∀ poolName, setKey c' poolName = setKey c poolName := by
    intro poolName
    simp [setKey, resourceBaseName, hmetadata]
  cases h with
  | rest => exact .rest
  | create pool missing built =>
      refine .create (hspec ▸ pool) (hkey _ ▸ missing) ?_
      rw [← built]
      simp only [statefulSetForCluster, cassImageToUse, nodePoolResourceName, resourceBaseName,
        nodePoolLabels, clusterLabels, newClusterRef, newControllerRef, cassandraPodTemplate,
        cassandraContainer, cassandraEnv, seedsServiceName, serviceAccountName, nameOf,
        objectMeta, hmetadata, hspec]
  | grow pool stored replicas wanted fewer ready next =>
      exact .grow (hspec ▸ pool) (hkey _ ▸ stored) replicas wanted fewer ready next

theorem key_of_built {c : Cluster} {np : NodePool} {set : StatefulSet}
    (h : statefulSetForCluster c np = .ok set) : Resource.key set = setKey c np.name := by
  obtain ⟨hname, hnamespace, _⟩ := statefulSetForCluster_eq_ok h
  exact Prod.ext hnamespace hname

/-- What a request of a `Sync` does when it is performed, on caches that may be
stale. -/
theorem SyncRequest.move {state : State} {c : Cluster} {request : Request}
    {api api' : ApiServer} (h : SyncRequest state c request)
    (heffect : ApiServer.Effect api request api')
    (htyped : WellTyped c.spec)
    (hcached : ∀ set ∈ state.statefulSetLister.items, set ∈ api.statefulSets.history)
    (hsets : ∀ set ∈ api.statefulSets.history,
      ∀ replicas ∈ set.spec.replicas, Int32Range replicas) :
    Move c api.statefulSets api'.statefulSets := by
  cases h with
  | event =>
      cases heffect
      exact .rest
  | @create statuses np set counted pool missing built =>
      cases heffect with
      | createStatefulSet fresh =>
          rw [key_of_built built] at fresh
          exact .create pool fresh built
  | @grow statuses np set current desired counted chosen cached replicas wanted fewer ready =>
      cases heffect with
      | @updateStatefulSet _ stored found unchanged =>
          obtain ⟨hitem, hkey⟩ := Lister.get_ok cached
          -- the cached StatefulSet has the version of the stored one
          have hsame : stored = set := api.statefulSets.history_unique stored
            (ObjectStore.mem_history_of_get found) set (hcached set hitem) unchanged.symm
          have hkey : Resource.key set = setKey c np.name := hkey
          have hstored : api.statefulSets.get (setKey c np.name) = some set := by
            rw [← hkey, ← hsame]
            exact hsame ▸ found
          have hpool : np ∈ (withNodePoolStatuses c statuses).spec.nodePools :=
            mem_of_nextAction_scaleOut chosen
          have hlow := hsets set (hcached set hitem) current replicas
          have hhigh := htyped np hpool desired wanted
          have hnext : int32 (current + 1) = current + 1 :=
            int32_of_range (by have := hlow.1; omega) (by have := hhigh.2; omega)
          exact .grow hpool hstored replicas wanted fewer ready (congrArg some hnext)

/-- What a whole `Sync` does, whatever it sees and whatever is lost. -/
theorem move_syncRun {w : World} (htyped : w.Typed) {seen : Cluster} {env : Environment}
    (hsees : w.Sees seen env)
    (status : CassandraClusterStatus) (faults : List (Option Fault)) :
    Move seen w.api.statefulSets (w.syncRun seen status env faults).2.statefulSets := by
  refine Prog.Once.run_preserves (fun api : ApiServer => api.statefulSets = w.api.statefulSets)
    (fun api : ApiServer => Move seen w.api.statefulSets api.statefulSets) ?_ ?_ ?_ ?_
    (sync_once env _) rfl
  · intro api hapi
    rw [hapi]
    exact .rest
  · intro api request hapi hevent
    rw [hevent.serve]
    exact hapi
  · intro api request hapi hevent
    rw [hevent.serve]
    exact hapi
  · intro api request hapi hrequest
    rw [← hapi]
    obtain ⟨faults', hsame | heffect⟩ := api.serve_cases request
    · rw [hsame]
      exact .rest
    · have hcached : ∀ set ∈ env.state.statefulSetLister.items,
          set ∈ ({ api with faults := faults' } : ApiServer).statefulSets.history := by
        intro set hset
        change set ∈ api.statefulSets.history
        rw [hapi]
        exact hsees.2.2 set hset
      have hsets : ∀ set ∈ ({ api with faults := faults' } : ApiServer).statefulSets.history,
          ∀ replicas ∈ set.spec.replicas, Int32Range replicas := by
        intro set hset
        change set ∈ api.statefulSets.history at hset
        rw [hapi] at hset
        exact htyped.sets set hset
      have hseen : WellTyped seen.spec := htyped.specs seen hsees.1
      exact (hrequest.move heffect hseen hcached hsets).of_eq rfl rfl

/-! ## The StatefulSets that are the cluster's own -/

section Tracked

variable {c : Cluster} {most : String → Int} {sets : ObjectStore StatefulSet}

/-- The StatefulSet of a pool, as the controller made it, with no more replicas than
the pool ever asked for. -/
structure OfPool (c : Cluster) (most : String → Int) (poolName : String) (set : StatefulSet) :
    Prop where
  cluster : StringMap.get? set.metadata.labels cassandraClusterNameLabel = some c.metadata.name
  pool : StringMap.get set.metadata.labels cassandraNodePoolNameLabel = poolName
  controlled : isControlledBy set c = true
  counts : ∃ replicas, set.spec.replicas = some replicas ∧
    set.status.readyReplicas ≤ replicas ∧ replicas ≤ most poolName

/-- What the cluster controls is stored under the name of a pool, and what is stored
under the name of a pool was made for it. -/
structure Tracked (c : Cluster) (most : String → Int) (sets : ObjectStore StatefulSet) :
    Prop where
  own : ∀ set ∈ sets.objects, isControlledBy set c = true →
    Resource.key set = setKey c (StringMap.get set.metadata.labels cassandraNodePoolNameLabel)
  named : ∀ poolName set, sets.get (setKey c poolName) = some set → OfPool c most poolName set

theorem Tracked.put (h : Tracked c most sets) {poolName : String} {set : StatefulSet}
    (hkey : Resource.key set = setKey c poolName) (hset : OfPool c most poolName set) :
    Tracked c most (sets.put set) := by
  constructor
  · intro other hother hcontrolled
    rcases List.mem_cons.mp hother with rfl | hother
    · exact (Resource.key_withVersion set _).trans (hset.pool.symm ▸ hkey)
    · exact h.own other (List.mem_of_mem_filter hother) hcontrolled
  · intro other stored hget
    rw [ObjectStore.get_put] at hget
    by_cases heq : setKey c other = Resource.key set
    · rw [if_pos heq] at hget
      cases hget
      rw [setKey_injective (heq.trans hkey)]
      exact ⟨hset.cluster, hset.pool, hset.controlled, hset.counts⟩
    · rw [if_neg heq] at hget
      exact h.named other stored hget

theorem ofPool_of_built {np : NodePool} {set : StatefulSet}
    (hbuilt : statefulSetForCluster c np = .ok set) (hmost : 0 ≤ most np.name) :
    OfPool c most np.name set := by
  obtain ⟨_, _, hlabels, howners, hreplicas, hstatus⟩ := statefulSetForCluster_eq_ok hbuilt
  refine ⟨?_, ?_, ?_, 0, hreplicas, ?_, hmost⟩
  · rw [hlabels]
    exact get?_nodePoolLabels_clusterName c np.name
  · rw [StringMap.get, hlabels, get?_nodePoolLabels_poolName]
    rfl
  · simp [isControlledBy, getControllerOf, objectMeta, howners, newClusterRef, newControllerRef]
  · rw [hstatus]

/-- A move keeps to the cluster's own StatefulSets. -/
theorem Tracked.move {sets' : ObjectStore StatefulSet} (h : Tracked c most sets)
    (hmove : Move c sets sets') (hnonneg : ∀ poolName, 0 ≤ most poolName)
    (hmost : ∀ np ∈ c.spec.nodePools, ∀ desired ∈ np.replicas, desired ≤ most np.name) :
    Tracked c most sets' := by
  cases hmove with
  | rest => exact h
  | create pool missing built =>
      exact h.put (key_of_built built) (ofPool_of_built built (hnonneg _))
  | @grow np set current desired pool stored replicas wanted fewer ready next =>
      have hset := h.named np.name set stored
      have hkey : Resource.key set = setKey c np.name := ObjectStore.key_of_get stored
      refine h.put hkey ⟨hset.cluster, hset.pool, hset.controlled, current + 1, next, ?_, ?_⟩
      · change set.status.readyReplicas ≤ current + 1
        omega
      · have hle := hmost np pool desired wanted
        omega

end Tracked

/-! ## A Sync that nothing hinders -/

section Statuses

variable {state : State} {c : Cluster}

theorem mem_addControlled_self {first : StatefulSet} (hcontrolled : isControlledBy first c = true)
    (results : List StatefulSet) : first ∈ addControlled c results first := by
  rw [addControlled, if_pos hcontrolled]
  exact List.mem_append_right _ List.mem_cons_self

theorem mem_addControlled_of_ne {results : List StatefulSet} {first set : StatefulSet}
    (hset : set ∈ results) (hne : isControlledBy first c = true → nameOf set ≠ nameOf first) :
    set ∈ addControlled c results first := by
  unfold addControlled
  split
  · rename_i hcontrolled
    exact List.mem_append_left _ (List.mem_filter.mpr ⟨hset, decide_eq_true (hne hcontrolled)⟩)
  · exact hset

/-- A controlled StatefulSet stays in the map if no other one has its name. -/
theorem mem_foldl_addControlled {listed results : List StatefulSet} {set : StatefulSet}
    (hset : set ∈ results ∨ set ∈ listed) (hcontrolled : isControlledBy set c = true)
    (hunique : ∀ other ∈ listed, isControlledBy other c = true → nameOf set = nameOf other →
      other = set) : set ∈ listed.foldl (addControlled c) results := by
  induction listed generalizing results with
  | nil => exact hset.resolve_right List.not_mem_nil
  | cons first rest ih =>
      rw [List.forall_mem_cons] at hunique
      apply ih _ hunique.2
      by_cases hfirst : first = set
      · exact .inl (hfirst ▸ mem_addControlled_self (hfirst ▸ hcontrolled) results)
      · rcases hset with hset | hset
        · exact .inl (mem_addControlled_of_ne hset fun hc hname => hfirst (hunique.1 hc hname))
        · exact .inr ((List.mem_cons.mp hset).resolve_left fun heq => hfirst heq.symm)

/-- The count of a pool is the one that its StatefulSets agree on. -/
theorem getElem?_foldl_addStatus_of_mem {found : List StatefulSet}
    {statuses : Std.ExtTreeMap String NodePoolStatus} {name : String} {status : NodePoolStatus}
    (hagree : ∀ set ∈ found,
      StringMap.get set.metadata.labels cassandraNodePoolNameLabel = name →
        status = { readyReplicas := set.status.readyReplicas })
    (hthere : statuses[name]? = some status ∨ ∃ set ∈ found,
      StringMap.get set.metadata.labels cassandraNodePoolNameLabel = name) :
    (found.foldl addStatus statuses)[name]? = some status := by
  induction found generalizing statuses with
  | nil => exact hthere.resolve_right fun ⟨_, hset, _⟩ => List.not_mem_nil hset
  | cons first rest ih =>
      rw [List.forall_mem_cons] at hagree
      apply ih hagree.2
      by_cases hname : StringMap.get first.metadata.labels cassandraNodePoolNameLabel = name
      · refine .inl ?_
        rw [addStatus, hname, hagree.1 hname]
        exact Std.ExtTreeMap.getElem?_insert_self
      · rcases hthere with hthere | ⟨set, hset, hlabel⟩
        · refine .inl ?_
          rw [addStatus, Std.ExtTreeMap.getElem?_insert, if_neg]
          · exact hthere
          · exact fun heq => hname (Std.LawfulEqCmp.eq_of_compare heq)
        · refine .inr ⟨set, (List.mem_cons.mp hset).resolve_left ?_, hlabel⟩
          rintro rfl
          exact hname hlabel

theorem matchesLabels_selectorForCluster {selector : Selector}
    (h : selectorForCluster c = .ok selector) {labels : StringMap}
    (hlabel : StringMap.get? labels cassandraClusterNameLabel = some c.metadata.name) :
    selector.matchesLabels labels = true := by
  have hkey : isQualifiedName cassandraClusterNameLabel = [] := by decide
  obtain ⟨req, hreq, h⟩ := bind_eq_ok h
  obtain ⟨_, rfl⟩ := (newRequirement_eq_ok_iff hkey).mp hreq
  cases h
  simpa [Selector.matchesLabels, Requirement.matchesLabels] using hlabel

/-- On a cache that works and is up to date, the counts of a `Sync` are those of the
stored StatefulSets. -/
theorem Tracked.nodePoolStatuses {most : String → Int} {sets : ObjectStore StatefulSet}
    (h : Tracked c most sets) (hselector : ∃ selector, selectorForCluster c = .ok selector)
    (hworks : state.statefulSetLister.failure = none)
    (hcurrent : sets.Current state.statefulSetLister.items) :
    ∃ statuses, Cassandra.nodePoolStatuses state c = .ok statuses ∧
      ∀ poolName, statuses[poolName]? = (sets.get (setKey c poolName)).map fun set =>
        { readyReplicas := set.status.readyReplicas } := by
  obtain ⟨selector, hselector⟩ := hselector
  have hlist := Lister.list_of_works hworks c.metadata.namespaceName selector
  obtain ⟨listed, hlisted⟩ :
      ∃ listed, state.statefulSetLister.list c.metadata.namespaceName selector = .ok listed :=
    ⟨_, hlist⟩
  have hfound : statefulSetsForCluster state c = .ok (listed.foldl (addControlled c) []) := by
    simp only [statefulSetsForCluster, hselector, hlisted, bind, Except.bind, pure, Except.pure]
  refine ⟨(listed.foldl (addControlled c) []).foldl addStatus ∅, ?_, fun poolName => ?_⟩
  · simp only [Cassandra.nodePoolStatuses, hfound, bind, Except.bind, pure, Except.pure]
  -- a StatefulSet that counts is stored under the name of its pool
  have hkey : ∀ set ∈ listed.foldl (addControlled c) [],
      sets.get (setKey c (StringMap.get set.metadata.labels cassandraNodePoolNameLabel)) =
        some set := by
    intro set hset
    have hown := mem_statefulSetsForCluster hfound hset
    have hmem := hcurrent.mem_iff.mp hown.cached
    exact sets.get_eq_some_iff.mpr ⟨hmem, h.own set hmem hown.controlled⟩
  cases hget : sets.get (setKey c poolName) with
  | none =>
      by_contra hsome
      obtain ⟨status, hstatus⟩ := Option.ne_none_iff_exists'.mp hsome
      rcases getElem?_foldl_addStatus hstatus with hempty | ⟨set, hset, hlabel, _⟩
      · simp at hempty
      · rw [← hlabel, hkey set hset] at hget
        cases hget
  | some set =>
      have hset := h.named poolName set hget
      obtain ⟨hmem, hsetKey⟩ := sets.get_eq_some_iff.mp hget
      have hmem' : set ∈ listed := by
        refine (Lister.mem_list hlisted).mpr ⟨hcurrent.mem_iff.mpr hmem, .inr ?_, ?_⟩
        · exact congrArg Prod.fst hsetKey
        · exact matchesLabels_selectorForCluster hselector hset.cluster
      have hcounts : set ∈ listed.foldl (addControlled c) [] := by
        refine mem_foldl_addControlled (.inr hmem') hset.controlled ?_
        intro other hother hcontrolled hname
        have hstored := hcurrent.mem_iff.mp ((Lister.mem_list hlisted).mp hother).1
        have hotherKey := h.own other hstored hcontrolled
        have hsame : Resource.key other = Resource.key set := by
          rw [hotherKey, hsetKey]
          exact Prod.ext rfl ((congrArg Prod.snd hotherKey).symm.trans
            (hname.symm.trans (congrArg Prod.snd hsetKey)))
        exact List.inj_on_of_nodup_map sets.keys_nodup hstored hmem hsame
      apply getElem?_foldl_addStatus_of_mem
      · intro other hother hlabel
        have hotherGet := hkey other hother
        rw [hlabel, hget] at hotherGet
        cases hotherGet
        rfl
      · exact .inr ⟨set, hcounts, hset.pool⟩

end Statuses

/-- A cluster that the controller can work on: it is not paused, its name can be a
label, the image is known, and every pool says how many replicas it asks for. -/
structure Workable (c : Cluster) : Prop where
  active : c.spec.navigatorClusterConfig.paused = false
  selector : ∃ selector, selectorForCluster c = .ok selector
  image : ∃ image, cassImageToUse c.spec = .ok image
  counted : ∀ np ∈ c.spec.nodePools, ∃ desired, np.replicas = some desired

/-- A `Sync` that nothing hinders: it sees the StatefulSets as they are, and the other
controllers succeed. -/
structure Unhindered (sets : ObjectStore StatefulSet) (env : Environment) : Prop where
  current : sets.Current env.state.statefulSetLister.items
  works : env.state.statefulSetLister.failure = none
  seedProviderService : env.seedProviderService = none
  nodesService : env.nodesService = none
  serviceAccount : env.serviceAccount = none
  role : env.role = none
  roleBinding : env.roleBinding = none
  seedLabeller : env.seedLabeller = none

theorem Workable.built {c : Cluster} (h : Workable c) (np : NodePool) :
    ∃ set, statefulSetForCluster c np = .ok set := by
  obtain ⟨image, himage⟩ := h.image
  rw [statefulSetForCluster, himage]
  exact ⟨_, rfl⟩

theorem nextScaleOut_of_counted {c : Cluster} {pools : List NodePool}
    (h : ∀ np ∈ pools, ∃ desired, np.replicas = some desired) :
    (∃ action, nextScaleOut c pools = .ok (some action)) ∨
      nextScaleOut c pools = .ok none ∧ ∀ np ∈ pools, ∃ desired, np.replicas = some desired ∧
        desired ≤ ((c.status.nodePools[np.name]?).getD {}).readyReplicas := by
  induction pools with
  | nil => exact .inr ⟨rfl, fun np hnp => absurd hnp List.not_mem_nil⟩
  | cons np rest ih =>
      rw [List.forall_mem_cons] at h
      obtain ⟨⟨desired, hdesired⟩, hrest⟩ := h
      simp only [nextScaleOut, hdesired]
      by_cases hless : ((c.status.nodePools[np.name]?).getD {}).readyReplicas < desired
      · rw [if_pos hless]
        exact .inl ⟨_, rfl⟩
      · rw [if_neg hless]
        refine (ih hrest).imp_right fun ⟨hnone, hall⟩ => ⟨hnone, ?_⟩
        exact List.forall_mem_cons.mpr ⟨⟨desired, hdesired, not_lt.mp hless⟩, hall⟩

/-- There is a next action unless every pool is there with the ready replicas that it
asks for. -/
theorem nextAction_of_counted {c : Cluster}
    (h : ∀ np ∈ c.spec.nodePools, ∃ desired, np.replicas = some desired) :
    (∃ action, nextAction c = .ok (some action)) ∨
      ∀ np ∈ c.spec.nodePools, (c.status.nodePools[np.name]?).isSome = true ∧
        ∃ desired, np.replicas = some desired ∧
          desired ≤ ((c.status.nodePools[np.name]?).getD {}).readyReplicas := by
  unfold nextAction
  cases hfind : c.spec.nodePools.find? fun np => (c.status.nodePools[np.name]?).isNone with
  | some np => exact .inl ⟨_, rfl⟩
  | none =>
      refine (nextScaleOut_of_counted h).imp_right fun ⟨_, hall⟩ np hnp => ⟨?_, hall np hnp⟩
      have hsome := List.find?_eq_none.mp hfind np hnp
      rwa [Option.isNone_iff_eq_none, ← ne_eq, Option.ne_none_iff_isSome] at hsome

section Run

variable {α β : Type}

/-- Events at the end leave the stores as they were. -/
theorem run_bind_of_events {program : Program α} {rest : α → Program β}
    (hrest : ∀ value, (rest value).All IsEvent) (api : ApiServer) :
    ((program >>= rest).run ApiServer.serve api).2 = (program.run ApiServer.serve api).2 := by
  rw [Prog.run_bind]
  rcases hrun : program.run ApiServer.serve api with ⟨outcome, api'⟩
  cases outcome with
  | error e => rfl
  | ok value =>
    refine Prog.run_preserves (fun state => state = api') ?_ (hrest value) rfl
    intro state request hstate hevent
    rw [hevent.serve]
    exact hstate

theorem run_handling {program : Program Unit} {tell : Err → Program Unit}
    (htell : ∀ e, (tell e).All IsEvent) (api : ApiServer) :
    ((handling program tell).run ApiServer.serve api).2 =
      (program.run ApiServer.serve api).2 := by
  unfold handling
  rw [run_bind_of_events, Prog.run_attempt]
  intro outcome
  split
  · trivial
  · trivial
  · exact Prog.all_bind (htell _) fun _ => trivial

theorem run_issue (request : Request) (api : ApiServer) :
    ((issue request).run ApiServer.serve api).2 = (api.serve request).2 := by
  unfold issue
  simp only [Prog.run]
  split <;> rfl

end Run

/-- What a `Sync` that nothing hinders does is what its action does. -/
theorem run_sync {env : Environment} {c : Cluster} {sets : ObjectStore StatefulSet}
    (hworkable : Workable c) (hfree : Unhindered sets env)
    {statuses : Std.ExtTreeMap String NodePoolStatus}
    (hcounted : nodePoolStatuses env.state (withPausedConditions env.now c) = .ok statuses)
    {action : Action}
    (hchosen : nextAction (withNodePoolStatuses (withPausedConditions env.now c) statuses) =
      .ok (some action)) (api : ApiServer) :
    ((sync env c).run ApiServer.serve api).2 =
      ((action.execute env.state).run ApiServer.serve api).2 := by
  have hactive : (withPausedConditions env.now c).spec.navigatorClusterConfig.paused = false :=
    hworkable.active
  have hsync : sync env c = (do
      let err ← syncNodePools env.state
        (withNodePoolStatuses (withPausedConditions env.now c) statuses)
      pure ((withNodePoolStatuses (withPausedConditions env.now c) statuses).status, err)) := by
    simp only [sync, hactive, hfree.seedProviderService, hfree.nodesService, hcounted, syncStages,
      hfree.serviceAccount, hfree.role, hfree.roleBinding, hfree.seedLabeller, subControl]
    rfl
  rw [hsync, run_bind_of_events (by exact fun _ => trivial)]
  simp only [syncNodePools, hchosen]
  rw [run_bind_of_events, run_handling fun _ => record_all_isEvent]
  intro outcome
  split
  · trivial
  · exact Prog.all_bind record_all_isEvent fun _ => trivial

theorem run_createNodePool (api : ApiServer) {t : Target} {set : StatefulSet}
    (hbuilt : statefulSetForCluster t.cluster t.nodePool = .ok set)
    (hfresh : api.statefulSets.get (Resource.key set) = none) (hfaults : api.faults = []) :
    ((createNodePool t).run ApiServer.serve api).2.statefulSets = api.statefulSets.put set := by
  simp only [createNodePool, hbuilt]
  rw [run_bind_of_events, Prog.run_attempt, run_issue]
  · simp [ApiServer.serve, ApiServer.perform, hfaults, ObjectStore.create, hfresh]
  · intro outcome
    split
    · exact record_all_isEvent
    · split <;> trivial

theorem run_scaleOut (api : ApiServer) {state : State} {t : Target} {set : StatefulSet}
    {current desired : Int} (hbuilt : ∃ base, statefulSetForCluster t.cluster t.nodePool = .ok base)
    (hget : state.statefulSetLister.get "statefulset.apps" t.cluster.metadata.namespaceName
      (nodePoolResourceName t.cluster t.nodePool) = .ok set)
    (hstored : api.statefulSets.get (Resource.key set) = some set)
    (hreplicas : set.spec.replicas = some current) (hwanted : t.nodePool.replicas = some desired)
    (hready : set.status.readyReplicas = current) (hfewer : current < desired)
    (hfaults : api.faults = []) :
    ((scaleOut state t).run ApiServer.serve api).2.statefulSets =
      api.statefulSets.put (grown set current) := by
  obtain ⟨base, hbuilt⟩ := hbuilt
  obtain ⟨hname, hnamespace, _⟩ := statefulSetForCluster_eq_ok hbuilt
  simp only [scaleOut, hbuilt, hname, hnamespace, hget, hreplicas, hwanted]
  rw [if_neg (by omega), if_neg (by omega), if_neg (by omega)]
  rw [run_bind_of_events (fun _ => record_all_isEvent)]
  have hkey : Resource.key (grown set current) = Resource.key set := rfl
  have hversion : Resource.version (grown set current) = Resource.version set := rfl
  have hserve : api.serve (.updateStatefulSet (grown set current)) =
      (none, { api with statefulSets := api.statefulSets.put (grown set current), faults := [] }) := by
    simp [ApiServer.serve, ApiServer.perform, hfaults, ObjectStore.update, hkey, hversion, hstored]
  simp only [issue, Prog.mapFail, Prog.run, hserve]

theorem put_ne (sets : ObjectStore StatefulSet) (set : StatefulSet) : sets.put set ≠ sets := by
  intro heq
  have hnext : sets.nextVersion + 1 = sets.nextVersion := congrArg ObjectStore.nextVersion heq
  omega

/-- Progress: a `Sync` that nothing hinders and that finds all replicas ready writes a
StatefulSet, unless every pool has what it asks for. -/
theorem served_of_rest {w : World} {most : String → Int} {status : CassandraClusterStatus}
    {env : Environment} (htracked : Tracked w.cluster most w.api.statefulSets)
    (hworkable : Workable w.cluster) (hfree : Unhindered w.api.statefulSets env)
    (hready : ∀ np ∈ w.cluster.spec.nodePools, Settled w.cluster w.api.statefulSets np)
    (hrest : (w.syncRun w.cluster status env []).2.statefulSets = w.api.statefulSets) :
    ∀ np ∈ w.cluster.spec.nodePools, Served w.cluster w.api.statefulSets np := by
  obtain ⟨statuses, hcounted, hstatuses⟩ :=
    htracked.nodePoolStatuses hworkable.selector hfree.works hfree.current
  have hcounted' : nodePoolStatuses env.state
      (withPausedConditions env.now (withStatus w.cluster status)) = .ok statuses := hcounted
  have hworkable' : Workable (withStatus w.cluster status) :=
    ⟨hworkable.active, hworkable.selector, hworkable.image, hworkable.counted⟩
  rcases nextAction_of_counted (c := withNodePoolStatuses (withPausedConditions env.now
    (withStatus w.cluster status)) statuses) hworkable.counted with ⟨action, hchosen⟩ | hall
  · exfalso
    have hrun := run_sync hworkable' hfree hcounted' hchosen { w.api with faults := [] }
    have hexecute : ((action.execute env.state).run ApiServer.serve
        { w.api with faults := [] }).2.statefulSets = w.api.statefulSets :=
      (congrArg ApiServer.statefulSets hrun).symm.trans hrest
    rcases nextAction_eq_some hchosen with ⟨np, hnp, hmissing, rfl⟩ | ⟨hthere, hscale⟩
    · -- a pool without a StatefulSet is created
      obtain ⟨set, hbuilt⟩ := hworkable'.built np
      have hmissing : statuses[np.name]? = none := hmissing
      have hkey : Resource.key set = setKey w.cluster np.name := key_of_built hbuilt
      rw [hstatuses, Option.map_eq_none_iff, ← hkey] at hmissing
      have hput := run_createNodePool { w.api with faults := [] } (t := ⟨_, np⟩) hbuilt hmissing
        rfl
      exact put_ne _ set (hput.symm.trans hexecute)
    · -- the first pool that lacks replicas is scaled out
      obtain ⟨before, np, after, desired, hsplit, rfl, _, hdesired, hless⟩ :=
        nextScaleOut_eq_some hscale
      have hnp : np ∈ w.cluster.spec.nodePools :=
        hsplit ▸ List.mem_append_right before List.mem_cons_self
      have hsome : (statuses[np.name]?).isSome = true := hthere np hnp
      have hless : ((statuses[np.name]?).getD {}).readyReplicas < desired := hless
      rw [hstatuses] at hsome hless
      obtain ⟨set, hget⟩ := Option.isSome_iff_exists.mp (Option.isSome_map ▸ hsome)
      rw [hget, Option.map_some, Option.getD_some] at hless
      obtain ⟨hmem, hkey⟩ := w.api.statefulSets.get_eq_some_iff.mp hget
      obtain ⟨found, hfound⟩ := Lister.exists_get_of_mem "statefulset.apps" hfree.works
        (hfree.current.mem_iff.mpr hmem) hkey
      obtain rfl : found = set :=
        Option.some.inj ((Lister.get_of_current hfree.current hfound).symm.trans hget)
      have hexact : found.spec.replicas = some found.status.readyReplicas :=
        hready np hnp found hget
      have hput := run_scaleOut { w.api with faults := [] } (t := ⟨_, np⟩)
        (hworkable'.built np) hfound (hkey ▸ hget) hexact hdesired rfl hless rfl
      exact put_ne _ _ (hput.symm.trans hexecute)
  · intro np hnp
    obtain ⟨hsome, desired, hdesired, hle⟩ := hall np hnp
    have hsome : (statuses[np.name]?).isSome = true := hsome
    have hle : desired ≤ ((statuses[np.name]?).getD {}).readyReplicas := hle
    rw [hstatuses] at hsome hle
    obtain ⟨set, hget⟩ := Option.isSome_iff_exists.mp (Option.isSome_map ▸ hsome)
    rw [hget, Option.map_some, Option.getD_some] at hle
    exact ⟨set, desired, hget, hdesired, hle⟩

/-! ## What is left to do -/

section Debt

variable {c : Cluster} {most : String → Int} {sets sets' : ObjectStore StatefulSet}

/-- The replicas of a pool, and how many are ready. -/
def poolCounts (c : Cluster) (sets : ObjectStore StatefulSet) (poolName : String) :
    Option (Option Int × Int) :=
  (sets.get (setKey c poolName)).map fun set => (set.spec.replicas, set.status.readyReplicas)

theorem poolCounts_put (c : Cluster) (sets : ObjectStore StatefulSet) (set : StatefulSet)
    (poolName : String) :
    poolCounts c (sets.put set) poolName =
      if setKey c poolName = Resource.key set then
        some (set.spec.replicas, set.status.readyReplicas)
      else poolCounts c sets poolName := by
  unfold poolCounts
  rw [ObjectStore.get_put]
  split_ifs <;> rfl

theorem poolCounts_put_self {set : StatefulSet} {poolName : String}
    (hkey : Resource.key set = setKey c poolName) :
    poolCounts c (sets.put set) poolName =
      some (set.spec.replicas, set.status.readyReplicas) := by
  rw [poolCounts_put, if_pos hkey.symm]

theorem poolCounts_put_of_ne {set : StatefulSet} {poolName other : String}
    (hkey : Resource.key set = setKey c poolName) (hne : other ≠ poolName) :
    poolCounts c (sets.put set) other = poolCounts c sets other := by
  rw [poolCounts_put, if_neg fun heq => hne (setKey_injective (heq.trans hkey))]

theorem settled_iff {np : NodePool} :
    Settled c sets np ↔ ∀ counts ∈ poolCounts c sets np.name, counts.1 = some counts.2 := by
  unfold Settled poolCounts AllReady
  cases sets.get (setKey c np.name) <;> simp

theorem served_iff {np : NodePool} :
    Served c sets np ↔ ∃ counts ∈ poolCounts c sets np.name, ∃ desired,
      np.replicas = some desired ∧ desired ≤ counts.2 := by
  unfold Served poolCounts
  cases sets.get (setKey c np.name) <;> simp

/-- The steps that are left for a pool: a replica is first added and then becomes
ready, and before that the StatefulSet is created. -/
def poolDebt (most : Int) : Option (Option Int × Int) → Nat
  | none => 2 * most.toNat + 1
  | some (replicas, ready) =>
      2 * (most - replicas.getD 0).toNat + (replicas.getD 0 - ready).toNat

/-- A move that is not a rest is a step for one pool. -/
theorem Move.debt (hmove : Move c sets sets')
    (hmost : ∀ np ∈ c.spec.nodePools, ∀ desired ∈ np.replicas, desired ≤ most np.name) :
    sets' = sets ∨ ∃ np ∈ c.spec.nodePools,
      poolDebt (most np.name) (poolCounts c sets' np.name) <
        poolDebt (most np.name) (poolCounts c sets np.name) ∧
      ∀ other, other ≠ np.name → poolCounts c sets' other = poolCounts c sets other := by
  cases hmove with
  | rest => exact .inl rfl
  | @create np set pool missing built =>
      have hkey := key_of_built built
      obtain ⟨_, _, _, _, hreplicas, hstatus⟩ := statefulSetForCluster_eq_ok built
      refine .inr ⟨np, pool, ?_, fun other hne => poolCounts_put_of_ne hkey hne⟩
      have hready : set.status.readyReplicas = 0 := by rw [hstatus]
      rw [poolCounts_put_self hkey, poolCounts, missing, hreplicas, hready]
      simp only [poolDebt, Option.map_none, Option.getD_some]
      omega
  | @grow np set current desired pool stored replicas wanted fewer ready next =>
      have hkey : Resource.key (grown set current) = setKey c np.name :=
        (ObjectStore.key_of_get stored : Resource.key set = _)
      have hle := hmost np pool desired wanted
      refine .inr ⟨np, pool, ?_, fun other hne => poolCounts_put_of_ne hkey hne⟩
      have hready : (grown set current).status.readyReplicas = current := ready
      rw [poolCounts_put_self hkey, poolCounts, stored, Option.map_some, next, hready, replicas,
        ready]
      simp only [poolDebt, Option.getD_some]
      omega

end Debt

namespace World

/-- The pools of all versions of the cluster. -/
def pools (w : World) : List NodePool :=
  (w.cluster :: w.past).flatMap fun c => c.spec.nodePools

/-- The most replicas that any version asks for in a pool. -/
def most (w : World) (poolName : String) : Int :=
  w.pools.foldr
    (fun np most => if np.name = poolName then max (np.replicas.getD 0) most else most) 0

def debt (w : World) : Nat :=
  (w.pools.map fun np =>
    poolDebt (w.most np.name) (poolCounts w.cluster w.api.statefulSets np.name)).sum

theorem foldr_most_le (pools : List NodePool) (poolName : String) (first : Int) :
    first ≤ pools.foldr
      (fun np most => if np.name = poolName then max (np.replicas.getD 0) most else most)
      first := by
  induction pools with
  | nil => exact le_rfl
  | cons np rest ih =>
      rw [List.foldr_cons]
      split_ifs
      · exact ih.trans (le_max_right _ _)
      · exact ih

theorem most_nonneg (w : World) (poolName : String) : 0 ≤ w.most poolName :=
  foldr_most_le w.pools poolName 0

theorem le_foldr_most {pools : List NodePool} {np : NodePool} (hnp : np ∈ pools) :
    np.replicas.getD 0 ≤ pools.foldr
      (fun other most => if other.name = np.name then max (other.replicas.getD 0) most else most)
      0 := by
  induction pools with
  | nil => exact absurd hnp List.not_mem_nil
  | cons first rest ih =>
      rw [List.foldr_cons]
      rcases List.mem_cons.mp hnp with rfl | hnp
      · rw [if_pos rfl]
        exact le_max_left _ _
      · split_ifs
        · exact (ih hnp).trans (le_max_right _ _)
        · exact ih hnp

theorem mem_pools {w : World} {c : Cluster} (hc : c ∈ w.cluster :: w.past) {np : NodePool}
    (hnp : np ∈ c.spec.nodePools) : np ∈ w.pools :=
  List.mem_flatMap.mpr ⟨c, hc, hnp⟩

theorem le_most {w : World} {c : Cluster} (hc : c ∈ w.cluster :: w.past) {np : NodePool}
    (hnp : np ∈ c.spec.nodePools) {desired : Int} (hdesired : desired ∈ np.replicas) :
    desired ≤ w.most np.name := by
  have hle := le_foldr_most (mem_pools hc hnp)
  rwa [hdesired, Option.getD_some] at hle

/-- A new version may ask for more. -/
theorem most_le_edit (w : World) (new : Cluster) (poolName : String) :
    w.most poolName ≤
      ({ w with cluster := new, past := w.cluster :: w.past } : World).most poolName := by
  change w.most poolName ≤ (new.spec.nodePools ++ w.pools).foldr _ 0
  rw [List.foldr_append]
  exact foldr_most_le _ _ _

/-- A status that counts no more replicas than there are. -/
def Plausible (w : World) : Step → Prop
  | .status key status => ∀ set ∈ w.api.statefulSets.get key, ∀ replicas ∈ set.spec.replicas,
      status.readyReplicas ≤ replicas
  | _ => True

/-- No StatefulSet is the cluster's own or has the name of one. -/
structure Fresh (w : World) : Prop where
  typed : w.Typed
  first : w.past = []
  unclaimed : ∀ set ∈ w.api.statefulSets.objects, isControlledBy set w.cluster = false ∧
    ∀ poolName, Resource.key set ≠ setKey w.cluster poolName

/-- Runs of a new cluster, in a namespace with any other StatefulSets. -/
def fresh : Machine World Step where
  init := Fresh
  step := step

/-- What is known of every state reached. -/
structure Known (w : World) : Prop where
  typed : w.Typed
  identity : ∀ c ∈ w.cluster :: w.past, SameIdentity w.cluster c
  tracked : Tracked w.cluster w.most w.api.statefulSets

end World

theorem setKey_of_identity {c c' : Cluster} (h : SameIdentity c c') (poolName : String) :
    setKey c' poolName = setKey c poolName := by
  simp [setKey, resourceBaseName, h.1, h.2.1]

theorem SameIdentity.symm {c c' : Cluster} (h : SameIdentity c c') : SameIdentity c' c :=
  ⟨h.1.symm, h.2.1.symm, h.2.2.symm⟩

theorem SameIdentity.trans {c c' c'' : Cluster} (h : SameIdentity c c')
    (h' : SameIdentity c' c'') : SameIdentity c c'' :=
  ⟨h'.1.trans h.1, h'.2.1.trans h.2.1, h'.2.2.trans h.2.2⟩

theorem Tracked.of_identity {c c' : Cluster} {most most' : String → Int}
    {sets : ObjectStore StatefulSet} (h : Tracked c most sets) (hsame : SameIdentity c c')
    (hmost : ∀ poolName, most poolName ≤ most' poolName) : Tracked c' most' sets := by
  have hcontrolled : ∀ set : StatefulSet, isControlledBy set c' = isControlledBy set c := by
    intro set
    simp [isControlledBy, objectMeta, hsame.2.2]
  constructor
  · intro set hset hset'
    rw [setKey_of_identity hsame]
    exact h.own set hset (hcontrolled set ▸ hset')
  · intro poolName set hget
    rw [setKey_of_identity hsame] at hget
    have hset := h.named poolName set hget
    obtain ⟨replicas, hreplicas, hready, hle⟩ := hset.counts
    exact ⟨hset.cluster.trans (congrArg some hsame.1.symm), hset.pool,
      (hcontrolled set).trans hset.controlled, replicas, hreplicas, hready,
      hle.trans (hmost poolName)⟩

/-- A status change keeps to the cluster's own StatefulSets. -/
theorem Tracked.status {c : Cluster} {most : String → Int} {sets : ObjectStore StatefulSet}
    (h : Tracked c most sets) {key : String × String} {set : StatefulSet}
    (hget : sets.get key = some set) {status : StatefulSetStatus}
    (hmost : ∀ replicas ∈ set.spec.replicas, status.readyReplicas ≤ replicas) :
    Tracked c most (sets.put { set with status := status }) := by
  have hkey : Resource.key set = key := ObjectStore.key_of_get hget
  by_cases hpool : ∃ poolName, key = setKey c poolName
  · obtain ⟨poolName, rfl⟩ := hpool
    have hset := h.named poolName set hget
    obtain ⟨replicas, hreplicas, _, hle⟩ := hset.counts
    exact h.put hkey ⟨hset.cluster, hset.pool, hset.controlled, replicas, hreplicas,
      hmost replicas hreplicas, hle⟩
  · -- the StatefulSet is none of the cluster's
    have hforeign : ¬ isControlledBy set c = true := fun hcontrolled =>
      hpool ⟨_, hkey.symm.trans (h.own set (sets.get_eq_some_iff.mp hget).1 hcontrolled)⟩
    constructor
    · intro other hother hcontrolled
      rcases List.mem_cons.mp hother with rfl | hother
      · exact absurd hcontrolled hforeign
      · exact h.own other (List.mem_of_mem_filter hother) hcontrolled
    · intro poolName stored hstored
      rw [ObjectStore.get_put, if_neg] at hstored
      · exact h.named poolName stored hstored
      · exact fun heq => hpool ⟨poolName, (heq.trans hkey).symm⟩

namespace World

theorem Known.step {w w' : World} {event : Step} (h : w.Known) (hok : w.Plausible event)
    (hstep : w.step event = some w') : w'.Known := by
  rcases step_cases hstep with ⟨new, rfl, hsame, hnew, rfl⟩ |
    ⟨seen, status, env, faults, rfl, hsees, rfl⟩ | ⟨key, status, set, rfl, hget, rfl⟩
  · refine ⟨⟨?_, h.typed.sets⟩, ?_, h.tracked.of_identity hsame (w.most_le_edit new)⟩
    · exact List.forall_mem_cons.mpr ⟨hnew, h.typed.specs⟩
    · refine List.forall_mem_cons.mpr ⟨⟨rfl, rfl, rfl⟩, fun c hc => ?_⟩
      exact hsame.symm.trans (h.identity c hc)
  · have hseen := h.identity seen hsees.1
    have htracked : Tracked seen w.most w.api.statefulSets :=
      h.tracked.of_identity hseen fun _ => le_rfl
    have hmove := htracked.move (move_syncRun h.typed hsees status faults) w.most_nonneg
      fun np hnp desired hdesired => le_most hsees.1 hnp hdesired
    exact ⟨⟨h.typed.specs, typed_syncRun h.typed⟩, h.identity,
      hmove.of_identity hseen.symm fun _ => le_rfl⟩
  · refine ⟨⟨h.typed.specs, ?_⟩, h.identity, h.tracked.status hget (hok set hget)⟩
    exact List.forall_mem_cons.mpr
      ⟨h.typed.sets set (ObjectStore.mem_history_of_get hget), h.typed.sets⟩

theorem known_of_fresh {w : World} (h : fresh.Reachable Plausible w) : w.Known := by
  apply h.invariant Known
  · intro w h
    refine ⟨h.typed, ?_, ?_, ?_⟩
    · rw [h.first]
      exact List.forall_mem_cons.mpr ⟨⟨rfl, rfl, rfl⟩, fun c hc => absurd hc List.not_mem_nil⟩
    · intro set hset hcontrolled
      rw [(h.unclaimed set hset).1] at hcontrolled
      cases hcontrolled
    · intro poolName set hget
      obtain ⟨hmem, hkey⟩ := w.api.statefulSets.get_eq_some_iff.mp hget
      exact absurd hkey ((h.unclaimed set hmem).2 poolName)
  · exact fun w event w' hknown hok hstep => hknown.step hok hstep

/-- The steps when the user is done with editing and nodes stay ready: Syncs of any
kind, and nodes that become ready. -/
def Settling (w : World) : Step → Prop
  | .edit _ => False
  | .sync _ _ _ _ => True
  | .status key status => ∀ set ∈ w.api.statefulSets.get key,
      set.status.readyReplicas ≤ status.readyReplicas ∧
        ∀ replicas ∈ set.spec.replicas, status.readyReplicas ≤ replicas

/-- Runs from any state that a new cluster may reach. -/
def reached : Machine World Step where
  init := fresh.Reachable Plausible
  step := step

theorem known_of_reached {w : World} (h : reached.Reachable Settling w) : w.Known := by
  apply h.invariant Known
  · exact fun w hw => known_of_fresh hw
  · intro w event w' hknown hok hstep
    refine hknown.step ?_ hstep
    cases event with
    | edit new => trivial
    | sync seen status env faults => trivial
    | status key status => exact fun set hset => (hok set hset).2

/-- A change for one pool that brings its debt down brings the whole down. -/
theorem debt_lt {w w' : World} (hcluster : w'.cluster = w.cluster) (hpast : w'.past = w.past)
    {np : NodePool} (hnp : np ∈ w.pools)
    (hless : poolDebt (w.most np.name) (poolCounts w.cluster w'.api.statefulSets np.name) <
      poolDebt (w.most np.name) (poolCounts w.cluster w.api.statefulSets np.name))
    (hothers : ∀ other, other ≠ np.name → poolCounts w.cluster w'.api.statefulSets other =
      poolCounts w.cluster w.api.statefulSets other) : w'.debt < w.debt := by
  unfold debt most pools
  rw [hcluster, hpast]
  apply List.sum_lt_sum
  · intro other _
    by_cases hname : other.name = np.name
    · rw [hname]
      exact hless.le
    · rw [hothers other.name hname]
  · exact ⟨np, hnp, hless⟩

theorem debt_eq {w w' : World} (hcluster : w'.cluster = w.cluster) (hpast : w'.past = w.past)
    (hcounts : ∀ np ∈ w.pools, poolCounts w.cluster w'.api.statefulSets np.name =
      poolCounts w.cluster w.api.statefulSets np.name) : w'.debt = w.debt := by
  unfold debt most pools
  rw [hcluster, hpast]
  congr 1
  refine List.map_congr_left fun np hnp => ?_
  rw [hcounts np hnp]

/-- What the steps of such a run do: they leave the cluster as it is, and bring the
debt down or leave the counts of all pools, a `Sync` even all StatefulSets. -/
theorem debt_step {w w' : World} {event : Step} (h : w.Known) (hok : w.Settling event)
    (hstep : w.step event = some w') :
    w'.cluster = w.cluster ∧ w'.past = w.past ∧ (w'.debt < w.debt ∨
      (∀ np ∈ w.pools, poolCounts w.cluster w'.api.statefulSets np.name =
        poolCounts w.cluster w.api.statefulSets np.name) ∧
      ∀ seen status env faults, event = .sync seen status env faults →
        w'.api.statefulSets = w.api.statefulSets) := by
  rcases step_cases hstep with ⟨new, rfl, _⟩ |
    ⟨seen, status, env, faults, rfl, hsees, rfl⟩ | ⟨key, status, set, rfl, hget, rfl⟩
  · exact absurd hok id
  · refine ⟨rfl, rfl, ?_⟩
    have hcounts : ∀ sets poolName, poolCounts seen sets poolName =
        poolCounts w.cluster sets poolName := by
      intro sets poolName
      rw [poolCounts, setKey_of_identity (h.identity seen hsees.1)]
      rfl
    have hmove := move_syncRun h.typed hsees status faults
    rcases hmove.debt fun np hnp desired hdesired => le_most hsees.1 hnp hdesired with
      hsame | ⟨np, hnp, hless, hothers⟩
    · exact .inr ⟨fun np _ => by rw [hsame], fun _ _ _ _ _ => hsame⟩
    · simp only [hcounts] at hless hothers
      exact .inl (debt_lt rfl rfl (mem_pools hsees.1 hnp) hless hothers)
  · refine ⟨rfl, rfl, ?_⟩
    have hkey : Resource.key { set with status := status } = key :=
      (ObjectStore.key_of_get hget : Resource.key set = key)
    obtain ⟨hmore, hmost⟩ := hok set hget
    by_cases hpool : ∃ np ∈ w.pools, key = setKey w.cluster np.name ∧
        set.status.readyReplicas < status.readyReplicas
    · obtain ⟨np, hnp, rfl, hless⟩ := hpool
      obtain ⟨replicas, hreplicas, _, _⟩ := (h.tracked.named np.name set hget).counts
      have hle := hmost replicas hreplicas
      refine .inl (debt_lt rfl rfl hnp ?_ fun other hne => poolCounts_put_of_ne hkey hne)
      rw [poolCounts_put_self hkey, poolCounts, hget, Option.map_some, hreplicas]
      simp only [poolDebt, Option.getD_some]
      omega
    · refine .inr ⟨fun np hnp => ?_, fun _ _ _ _ hevent => by cases hevent⟩
      rw [poolCounts_put]
      split_ifs with heq
      · -- the count of the pool is the same
        have heq : setKey w.cluster np.name = key := heq.trans hkey
        have hsame : status.readyReplicas = set.status.readyReplicas :=
          le_antisymm (not_lt.mp fun hless => hpool ⟨np, hnp, heq.symm, hless⟩) hmore
        rw [poolCounts, heq, hget, Option.map_some, hsame]
      · rfl

theorem debt_le {w w' : World} {event : Step} (h : w.Known) (hok : w.Settling event)
    (hstep : w.step event = some w') : w'.debt ≤ w.debt := by
  obtain ⟨hcluster, hpast, hless | ⟨hcounts, _⟩⟩ := debt_step h hok hstep
  · exact hless.le
  · exact (debt_eq hcluster hpast hcounts).le

theorem api_of_sync {w w' : World} {seen : Cluster} {status : CassandraClusterStatus}
    {env : Environment} {faults : List (Option Fault)}
    (h : w.step (.sync seen status env faults) = some w') :
    w'.api = (w.syncRun seen status env faults).2 := by
  obtain ⟨_, heq⟩ := Option.ite_none_right_eq_some.mp h
  rw [← Option.some.inj heq]

/-- The pool has as many replicas as it asks for, no more than any version asked for,
and all are ready. -/
def Complete (w : World) (np : NodePool) : Prop :=
  ∃ set desired, w.api.statefulSets.get (setKey w.cluster np.name) = some set ∧
    np.replicas = some desired ∧ desired ≤ set.status.readyReplicas ∧ AllReady set ∧
    set.status.readyReplicas ≤ w.most np.name

/-- Again and again a `Sync` is not hindered, and again and again all replicas of a
pool are ready. -/
structure Fair (run : reached.Run Settling) : Prop where
  sync : ∀ n, ∃ m status env, n ≤ m ∧
    run.event m = some (.sync (run.state m).cluster status env []) ∧
    Unhindered (run.state m).api.statefulSets env
  ready : ∀ n, ∀ np ∈ (run.state n).cluster.spec.nodePools, ∃ m, n ≤ m ∧
    Settled (run.state m).cluster (run.state m).api.statefulSets np

section Run

variable (run : reached.Run Settling)

theorem cluster_eq (n : Nat) : (run.state n).cluster = (run.state 0).cluster ∧
    (run.state n).past = (run.state 0).past := by
  induction n with
  | zero => exact ⟨rfl, rfl⟩
  | succ n ih =>
      by_cases hevent : run.event n = none
      · rw [run.state_of_none hevent]
        exact ih
      · obtain ⟨e, he⟩ := Option.ne_none_iff_exists'.mp hevent
        obtain ⟨hcluster, hpast, _⟩ := debt_step (known_of_reached (run.reachable n))
          (run.meets n e he) (run.step_of_event he)
        exact ⟨hcluster.trans ih.1, hpast.trans ih.2⟩

/-- Once the debt stays the same, so do the counts of the pools. -/
theorem poolCounts_eq {n m : Nat} (hnm : n ≤ m)
    (hconstant : ∀ m, n ≤ m → (run.state m).debt = (run.state n).debt) {np : NodePool}
    (hnp : np ∈ (run.state 0).pools) :
    poolCounts (run.state 0).cluster (run.state m).api.statefulSets np.name =
      poolCounts (run.state 0).cluster (run.state n).api.statefulSets np.name := by
  induction m, hnm using Nat.le_induction with
  | base => rfl
  | succ m hnm ih =>
      by_cases hevent : run.event m = none
      · rw [run.state_of_none hevent]
        exact ih
      · obtain ⟨e, he⟩ := Option.ne_none_iff_exists'.mp hevent
        obtain ⟨_, _, hless | ⟨hcounts, _⟩⟩ := debt_step (known_of_reached (run.reachable m))
          (run.meets m e he) (run.step_of_event he)
        · have hm := hconstant m hnm
          have hm' := hconstant (m + 1) (by omega)
          omega
        · have hpools : (run.state m).pools = (run.state 0).pools := by
            rw [pools, (cluster_eq run m).1, (cluster_eq run m).2]
            rfl
          have hstep := hcounts np (hpools ▸ hnp)
          rw [(cluster_eq run m).1] at hstep
          exact hstep.trans ih

end Run

end World

/-- The scale out comes to an end: from any state that a new cluster may reach, when
the user is done with editing, there is a moment from which on every pool has what it
asks for, all of it ready, and no `Sync` writes a StatefulSet. -/
theorem pools_eventually_complete {run : World.reached.Run World.Settling}
    (hworkable : Workable (run.state 0).cluster) (hfair : World.Fair run) :
    ∃ n, ∀ m, n ≤ m →
      (∀ np ∈ (run.state m).cluster.spec.nodePools, (run.state m).Complete np) ∧
      ∀ seen status env faults, run.event m = some (.sync seen status env faults) →
        (run.state (m + 1)).api.statefulSets = (run.state m).api.statefulSets := by
  obtain ⟨n, hconstant⟩ := run.exists_constant World.debt fun w event w' hreach hok hstep =>
    World.debt_le (World.known_of_reached hreach) hok hstep
  have hknown : ∀ m, (run.state m).Known := fun m => World.known_of_reached (run.reachable m)
  have hquiet : ∀ m, n ≤ m → ∀ seen status env faults,
      run.event m = some (.sync seen status env faults) →
        (run.state (m + 1)).api.statefulSets = (run.state m).api.statefulSets := by
    intro m hnm seen status env faults hevent
    obtain ⟨_, _, hless | ⟨_, hrest⟩⟩ := World.debt_step (hknown m) (run.meets m _ hevent)
      (run.step_of_event hevent)
    · have hm := hconstant m hnm
      have hm' := hconstant (m + 1) (by omega)
      omega
    · exact hrest seen status env faults rfl
  have hcounts : ∀ m m', n ≤ m → m ≤ m' → ∀ np ∈ (run.state 0).cluster.spec.nodePools,
      poolCounts (run.state 0).cluster (run.state m').api.statefulSets np.name =
        poolCounts (run.state 0).cluster (run.state m).api.statefulSets np.name := by
    intro m m' hnm hmm' np hnp
    have hpool := World.mem_pools List.mem_cons_self hnp
    exact (World.poolCounts_eq run (hnm.trans hmm') hconstant hpool).trans
      (World.poolCounts_eq run hnm hconstant hpool).symm
  have hsettled : ∀ m, n ≤ m → ∀ np ∈ (run.state 0).cluster.spec.nodePools,
      Settled (run.state 0).cluster (run.state m).api.statefulSets np := by
    intro m hnm np hnp
    rw [← (World.cluster_eq run m).1] at hnp
    obtain ⟨m', hmm', hready⟩ := hfair.ready m np hnp
    rw [(World.cluster_eq run m).1] at hnp
    rw [(World.cluster_eq run m').1, settled_iff, hcounts m m' hnm hmm' np hnp] at hready
    exact settled_iff.mpr hready
  refine ⟨n, fun m hnm => ⟨fun np hnp => ?_, hquiet m hnm⟩⟩
  have hcluster := (World.cluster_eq run m).1
  have hnp0 : np ∈ (run.state 0).cluster.spec.nodePools := hcluster ▸ hnp
  -- the next Sync that is not hindered has nothing to do
  obtain ⟨m', status, env, hmm', hevent, hfree⟩ := hfair.sync m
  have hcluster' := (World.cluster_eq run m').1
  have hrest := hquiet m' (hnm.trans hmm') _ _ _ _ hevent
  rw [World.api_of_sync (run.step_of_event hevent)] at hrest
  have hserved : Served (run.state 0).cluster (run.state m).api.statefulSets np := by
    have hready : ∀ np ∈ (run.state m').cluster.spec.nodePools,
        Settled (run.state m').cluster (run.state m').api.statefulSets np := by
      rw [hcluster']
      exact hsettled m' (hnm.trans hmm')
    have hserved' := served_of_rest (hknown m').tracked (hcluster' ▸ hworkable) hfree hready hrest
      np (hcluster' ▸ hnp0)
    rw [hcluster', served_iff, hcounts m m' hnm hmm' np hnp0] at hserved'
    exact served_iff.mpr hserved'
  obtain ⟨set, desired, hget, hdesired, hle⟩ := hserved
  have hready : AllReady set := hsettled m hnm np hnp0 set hget
  rw [← hcluster] at hget
  obtain ⟨replicas, hreplicas, _, hmost⟩ := ((hknown m).tracked.named np.name set hget).counts
  cases hready.symm.trans hreplicas
  exact ⟨set, desired, hget, hdesired, hle, hready, hmost⟩

namespace ConvergenceWitness

def cluster : Cluster := sampleCluster [samplePool "rack-a" 2, samplePool "rack-b" 1]

def start : World := { cluster := cluster, api := {} }

def freeSync (w : World) : World.Step := .sync cluster {} (currentEnv w.api) []

/-- The nodes become ready one after the other. -/
def news : Nat → Option (String × Int)
  | 3 => some ("rack-a", 1)
  | 5 => some ("rack-a", 2)
  | 7 => some ("rack-b", 1)
  | _ => none

/-- The StatefulSets are created and scaled out, each node after the one before it is
ready; from then on the Syncs find nothing to do. -/
def event (w : World) (n : Nat) : World.Step :=
  match news n with
  | some (name, ready) => .status (setKey cluster name) { readyReplicas := ready }
  | none => freeSync w

def state : Nat → World
  | 0 => start
  | n + 1 => ((state n).step (event (state n) n)).getD (state n)

theorem event_late (w : World) (n : Nat) : event w (n + 8) = freeSync w := rfl

theorem state_succ (n : Nat) :
    state (n + 1) = ((state n).step (event (state n) n)).getD (state n) := rfl

/-- The run up to the point where nothing changes any more. -/
theorem first_states :
    (∀ n < 8, ((state n).step (event (state n) n)).isSome = true ∧ ∀ ready ∈ news n,
      ∀ set ∈ (state n).api.statefulSets.get (setKey cluster ready.1),
        set.status.readyReplicas ≤ ready.2 ∧
          ∀ replicas ∈ set.spec.replicas, ready.2 ≤ replicas) ∧
      (state 8).step (freeSync (state 8)) = some (state 8) ∧
      ∀ np ∈ cluster.spec.nodePools, Settled cluster (state 8).api.statefulSets np := by
  decide +kernel

theorem step_late : (state 8).step (freeSync (state 8)) = some (state 8) := first_states.2.1

theorem state_late (n : Nat) : state (n + 8) = state 8 := by
  induction n with
  | zero => rfl
  | succ n ih => rw [Nat.succ_add, state_succ, event_late, ih, step_late, Option.getD_some]

theorem step_event (n : Nat) : (state n).step (event (state n) n) = some (state (n + 1)) := by
  have hsome : ((state n).step (event (state n) n)).isSome = true := by
    by_cases hn : n < 8
    · exact (first_states.1 n hn).1
    · obtain ⟨late, rfl⟩ := Nat.exists_eq_add_of_le' (not_lt.mp hn)
      rw [event_late, state_late, step_late, Option.isSome_some]
  obtain ⟨w, hw⟩ := Option.isSome_iff_exists.mp hsome
  rw [state_succ, hw, Option.getD_some]

theorem meets_event (n : Nat) (e : World.Step) (he : e ∈ some (event (state n) n)) :
    (state n).Settling e := by
  cases he
  unfold event
  split
  · rename_i name ready hready
    refine (first_states.1 n ?_).2 _ hready
    by_contra hlate
    obtain ⟨late, rfl⟩ := Nat.exists_eq_add_of_le' (not_lt.mp hlate)
    cases hready
  · trivial

theorem fresh_start : start.Fresh := by
  refine ⟨⟨by decide, ?_⟩, rfl, ?_⟩
  · exact fun set hset => absurd hset List.not_mem_nil
  · exact fun set hset => absurd hset List.not_mem_nil

def run : World.reached.Run World.Settling where
  state := state
  event := fun n => some (event (state n) n)
  start := .start fresh_start
  meets := meets_event
  steps := step_event

theorem cluster_run (n : Nat) : (run.state n).cluster = cluster := (World.cluster_eq run n).1

theorem fair_run : World.Fair run where
  sync := by
    intro n
    refine ⟨n + 8, {}, currentEnv (state (n + 8)).api, by omega, ?_, ?_⟩
    · rw [cluster_run]
      exact congrArg some (event_late _ n)
    · exact ⟨current_currentEnv _, rfl, rfl, rfl, rfl, rfl, rfl, rfl⟩
  ready := by
    intro n np hnp
    rw [cluster_run] at hnp
    refine ⟨n + 8, by omega, ?_⟩
    rw [cluster_run]
    change Settled cluster (state (n + 8)).api.statefulSets np
    rw [state_late]
    exact first_states.2.2 np hnp

theorem pools_eventually_complete_two :
    ∃ n, ∀ m, n ≤ m →
      (∀ np ∈ (run.state m).cluster.spec.nodePools, (run.state m).Complete np) ∧
      ∀ seen status env faults, run.event m = some (.sync seen status env faults) →
        (run.state (m + 1)).api.statefulSets = (run.state m).api.statefulSets := by
  have hworkable : Workable cluster := by
    refine ⟨rfl, ⟨_, rfl⟩, ⟨_, rfl⟩, ?_⟩
    exact List.forall_mem_cons.mpr ⟨⟨2, rfl⟩, List.forall_mem_singleton.mpr ⟨1, rfl⟩⟩
  exact pools_eventually_complete (show Workable (run.state 0).cluster from hworkable) fair_run

end ConvergenceWitness

end Cassandra

end Navigator
